-- A run of the program with a single line, on the simulator. The line goes to
-- the commands that a typed one goes to, so the run succeeds on every line that
-- a fresh session accepts. On a line with the name of a scenario it succeeds
-- just when the scenario has run to its end. On the others nothing is run: at
-- most a link is switched.
import Testbed.Program
import Testbed.Proofs.Command.Links
import Testbed.Proofs.Session.Catalogue

namespace Testbed

open Registry (Asks dispatch isHelp leaveWords standard)
open Session (AtRest Completes)
open Text (Blank Leads)

/-! ## Links of a network that is as it was built -/

/-- A link can be switched just when it is there. -/
theorem Rig.Steady.switchLink_isOk_iff {ids : List HostId} {pairs : List HostPair}
    {r : Rig Simulator} (h : Steady ids pairs r) (hi : r.topology.instantiated = true)
    (hpairs : ∀ pair l, r.topology.linkAt? pair = some l → l.pair ∈ pairs) (a b : HostId)
    (state : LinkState) :
    (Rig.switchLink a b state r).1.isOk = true ↔ (r.topology.link? a b).isSome = true := by
  rcases hl : r.topology.link? a b with _ | l
  · have hno : (Rig.switchLink a b state r).1 = .error (.linkNotFound a b) := by
      simp only [switchLink, Action.within, Topology.switchLink, hi, hl, Bool.not_true,
        Bool.false_eq_true, if_false]
    rw [hno]
    exact ⟨fun h => (by cases h), fun h => (by cases h)⟩
  · refine ⟨fun _ => rfl, fun _ => ?_⟩
    by_cases hs : l.state = state
    · have hsame : (Rig.switchLink a b state r).1 = .ok (.unchanged state) := by
        simp only [switchLink, Action.within, Topology.switchLink, hi, hl, hs, Bool.not_true,
          Bool.false_eq_true, if_false, if_true]
      rw [hsame]
      rfl
    · obtain ⟨r', hp, -⟩ := h.perform_setLink hi hl (hpairs _ l hl) hs
      obtain ⟨transition, r₁, hswitch, -⟩ := Action.bind_eq_ok.mp hp
      rw [hswitch]
      rfl

theorem Session.AtRest.switchLink_isOk_iff {config : Config} {network : String} {t : Topology}
    {s : Session Simulator} (h : AtRest config t s) (ht : Catalogue.topology? network = some t)
    (a b : HostId) (state : LinkState) :
    (Session.switchLink a b state s).1.isOk = true ↔ (t.link? a b).isSome = true := by
  have hpairs : ∀ pair l, s.rig.topology.linkAt? pair = some l →
      l.pair ∈ t.links.map Link.pair := by
    intro pair l hl
    rw [h.topology] at hl
    exact List.mem_map_of_mem (((Catalogue.built ht).sound.linkAt?_iff pair l).mp hl).1
  have hi : s.rig.topology.instantiated = true := by
    rw [h.topology]
    rfl
  have hrig := h.steady.switchLink_isOk_iff hi hpairs a b state
  rw [h.topology] at hrig
  have hopen : s.shutDown = false := h.opened
  simp only [Session.switchLink, Session.whenOpen, hopen, Bool.false_eq_true, if_false,
    Action.within]
  exact hrig

/-- A scenario runs to its end just when the network has its hosts. -/
theorem Session.AtRest.completes_iff {config : Config} {network : String} {t : Topology}
    {s : Session Simulator} (h : AtRest config t s) (ht : Catalogue.topology? network = some t)
    {name : String} (hname : name ∈ Catalogue.scenarioNames) :
    (∃ report, (s.runCatalogue name).1 = some (.ok report)) ↔
      ∀ host ∈ Catalogue.hostsOf name, t.hasHost host = true := by
  obtain ⟨_, scenario, hscenario, hcases⟩ := h.runCatalogue ht hname
  rw [← h.config] at hscenario
  rw [← Catalogue.hosts_scenario? hscenario]
  constructor
  · rintro ⟨report, hok⟩
    rw [Session.runCatalogue_eq hscenario h.opened] at hok
    rcases s.rig.topology.validate_cases scenario with ⟨host, -, -, hvalid⟩ | ⟨hhosts, -⟩
    · rw [Rig.run_unknown hvalid] at hok
      cases hok
    · rw [h.topology] at hhosts
      exact hhosts
  · intro hhosts
    rcases hcases with ⟨report, hok, -⟩ | ⟨host, hmem, hno, -⟩
    · exact ⟨report, hok⟩
    · rw [hhosts host hmem] at hno
      cases hno

namespace Program

/-! ## What is accepted -/

/-- A line on which a run on the network succeeds. -/
inductive Accepted (t : Topology) (line : String) : Prop
  | blank (h : Blank line.toList)
  | help {word text : String} (h : Leads line word text) (hw : isHelp word = true)
  | status {text : String} (h : Leads line "status" text)
  | leaving {word text : String} (h : Leads line word text) (hw : word ∈ leaveWords)
  | link {text a b : String} {state : LinkState} (h : Leads line "link" text)
      (asks : Asks text a b state) (known : (t.link? ⟨a⟩ ⟨b⟩).isSome = true)
  | scenario {name text : String} (h : Leads line name text)
      (hname : name ∈ Catalogue.scenarioNames)
      (hosts : ∀ host ∈ Catalogue.hostsOf name, t.hasHost host = true)

/-- The line begins with the name of a scenario. -/
def Names (line name : String) : Prop :=
  name ∈ Catalogue.scenarioNames ∧ ∃ text, Leads line name text

variable {config : Config} {network : String} {t : Topology} {s : Session Simulator}
  {line word text : String}

/-- Only the first word counts, but for the text of a line that switches a link. -/
theorem accepted_iff (hleads : Leads line word text) : Accepted t line ↔
    isHelp word = true ∨ word = "status" ∨ word ∈ leaveWords ∨
      (word = "link" ∧ ∃ a b state, Asks text a b state ∧ (t.link? ⟨a⟩ ⟨b⟩).isSome = true) ∨
      (word ∈ Catalogue.scenarioNames ∧
        ∀ host ∈ Catalogue.hostsOf word, t.hasHost host = true) := by
  have hword := Registry.wordOf_of_leads hleads
  constructor
  · rintro (h | ⟨h, hw⟩ | h | ⟨h, hw⟩ | ⟨h, asks, known⟩ | ⟨h, hname, hosts⟩)
    · have hempty := Registry.wordOf_of_blank h
      rw [hword, Registry.isEmpty_of_leads hleads] at hempty
      cases hempty
    all_goals obtain rfl := hword.symm.trans (Registry.wordOf_of_leads h)
    · exact Or.inl hw
    · exact Or.inr (Or.inl rfl)
    · exact Or.inr (Or.inr (Or.inl hw))
    · obtain rfl := (Registry.argsOf_of_leads hleads).symm.trans (Registry.argsOf_of_leads h)
      exact Or.inr (Or.inr (Or.inr (Or.inl ⟨rfl, _, _, _, asks, known⟩)))
    · exact Or.inr (Or.inr (Or.inr (Or.inr ⟨hname, hosts⟩)))
  · rintro (hw | rfl | hw | ⟨rfl, a, b, state, asks, known⟩ | ⟨hname, hosts⟩)
    · exact .help hleads hw
    · exact .status hleads
    · exact .leaving hleads hw
    · exact .link hleads asks known
    · exact .scenario hleads hname hosts

/-- The name of a scenario is no other word of the standard commands. -/
theorem scenario_word (hname : word ∈ Catalogue.scenarioNames) :
    isHelp word = false ∧ word ≠ "status" ∧ word ∉ leaveWords ∧ word ≠ "link" := by
  simp only [Catalogue.scenarioNames, List.mem_cons, List.not_mem_nil, or_false] at hname
  rcases hname with rfl | rfl | rfl <;> decide

/-! ## What each command does -/

theorem dispatch_scenario (hleads : Leads line word text)
    (hname : word ∈ Catalogue.scenarioNames) (s : Session Simulator) :
    ((dispatch line (standard, s)).1.isOk = true ↔
        ∃ report, (s.runCatalogue word).1 = some (.ok report)) ∧
      (dispatch line (standard, s)).2.2 = (s.runCatalogue word).2 := by
  obtain ⟨hhelp, hstatus, hleave, hlink⟩ := scenario_word hname
  have hhandler : (standard : Registry Simulator).handlerOf word =
      some (Registry.runCommand word) := by
    rw [Registry.handlerOf_standard, if_neg hlink, if_neg hstatus, if_neg hleave, if_pos hname]
  obtain ⟨calls, hresult, hsession⟩ :=
    Registry.dispatch_standard Session.isStandard_standard hleads hhelp hhandler s
  rw [hresult, hsession, Registry.runCommand]
  rcases s.runCatalogue word with ⟨_ | e | report, s'⟩ <;> simp [Except.isOk, Except.toBool]

theorem dispatch_link (h : AtRest config t s) (ht : Catalogue.topology? network = some t)
    (hleads : Leads line "link" text) :
    ((dispatch line (standard, s)).1.isOk = true ↔
        ∃ a b state, Asks text a b state ∧ (t.link? ⟨a⟩ ⟨b⟩).isSome = true) ∧
      ((dispatch line (standard, s)).2.2 = s ∨ ∃ a b state,
        (dispatch line (standard, s)).2.2 = (Session.switchLink a b state s).2) := by
  obtain ⟨calls, hresult, hsession⟩ := Registry.dispatch_standard Session.isStandard_standard
    hleads rfl ((Registry.handlerOf_standard "link").trans (if_pos rfl)) s
  rw [hresult, hsession]
  by_cases hasks : ∃ a b state, Asks text a b state
  · have hcall : ∀ {a b state}, Asks text a b state →
        ((Registry.linkCommand calls text s).1.isOk = true ↔ (t.link? ⟨a⟩ ⟨b⟩).isSome = true) := by
      intro a b state hasks
      rw [← h.switchLink_isOk_iff ht ⟨a⟩ ⟨b⟩ state, Registry.linkCommand_asks hasks]
      rcases Session.switchLink ⟨a⟩ ⟨b⟩ state s with ⟨e | transition, s'⟩ <;> rfl
    refine ⟨?_, ?_⟩
    · constructor
      · obtain ⟨a, b, state, hasks⟩ := hasks
        exact fun hok => ⟨a, b, state, hasks, (hcall hasks).mp hok⟩
      · rintro ⟨a, b, state, hasks, known⟩
        exact (hcall hasks).mpr known
    · obtain ⟨a, b, state, hasks⟩ := hasks
      exact Or.inr ⟨⟨a⟩, ⟨b⟩, state, by rw [Registry.linkCommand_asks hasks]⟩
  · have hnone : ∀ a b state, ¬ Asks text a b state :=
      fun a b state hasked => hasks ⟨a, b, state, hasked⟩
    rw [Registry.linkCommand_usage hnone]
    refine ⟨⟨fun hok => (by cases hok), ?_⟩, Or.inl rfl⟩
    rintro ⟨a, b, state, hasked, -⟩
    exact absurd hasked (hnone a b state)

/-- Any other word is not a command. -/
theorem dispatch_stranger (hleads : Leads line word text) (hhelp : isHelp word = false)
    (hhandler : (standard : Registry Simulator).handlerOf word = none) (s : Session Simulator) :
    dispatch line (standard, s) = (.error (.unknown word), standard, s) := by
  obtain rfl := Registry.wordOf_of_leads hleads
  exact Registry.dispatch_unknown (Registry.isEmpty_of_leads hleads) hhelp
    (by simpa [Registry.handlerOf] using hhandler) s

/-- What a line does in a session at rest. It is understood or not, and unless it begins with the
name of a scenario the session is as it was, or closed, or a link was switched. -/
theorem dispatch_accepted (h : AtRest config t s) (ht : Catalogue.topology? network = some t)
    (line : String) :
    ((dispatch line (standard, s)).1.isOk = true ↔ Accepted t line) ∧
      ((¬ ∃ name, Names line name) →
        (dispatch line (standard, s)).2.2 = s ∨ (dispatch line (standard, s)).2.2 = s.close ∨
          ∃ a b state,
            (dispatch line (standard, s)).2.2 = (Session.switchLink a b state s).2) := by
  by_cases hblank : Blank line.toList
  · rw [Registry.dispatch_blank (Registry.wordOf_of_blank hblank)]
    exact ⟨⟨fun _ => .blank hblank, fun _ => rfl⟩, fun _ => Or.inl rfl⟩
  obtain ⟨word, text, hleads⟩ : ∃ word text, Leads line word text :=
    ⟨_, _, Text.leads_cutWord hblank⟩
  have hword := Registry.wordOf_of_leads hleads
  rw [accepted_iff hleads]
  by_cases hhelp : isHelp word = true
  · rw [Registry.dispatch_help (hword ▸ Registry.isEmpty_of_leads hleads) (hword ▸ hhelp)]
    exact ⟨⟨fun _ => Or.inl hhelp, fun _ => rfl⟩, fun _ => Or.inl rfl⟩
  have hhelp : isHelp word = false := by simpa using hhelp
  by_cases hlink : word = "link"
  · subst hlink
    obtain ⟨hok, hsession⟩ := dispatch_link h ht hleads
    refine ⟨hok.trans ?_, fun _ => hsession.imp_right Or.inr⟩
    simp [isHelp, leaveWords, Catalogue.scenarioNames]
  by_cases hstatus : word = "status"
  · subst hstatus
    obtain ⟨calls, hresult, hsession⟩ := Registry.dispatch_standard Session.isStandard_standard
      hleads rfl ((Registry.handlerOf_standard "status").trans rfl) s
    refine ⟨?_, fun _ => Or.inl (hsession.trans (Session.processStatus_session s))⟩
    rw [hresult]
    exact ⟨fun _ => Or.inr (Or.inl rfl), fun _ => rfl⟩
  by_cases hleave : word ∈ leaveWords
  · obtain ⟨hresult, hsession⟩ :=
      Registry.dispatch_leaving (hword ▸ hleave) Session.isStandard_standard s
    refine ⟨?_, fun _ => Or.inr (Or.inl hsession)⟩
    rw [hresult]
    exact ⟨fun _ => Or.inr (Or.inr (Or.inl hleave)), fun _ => rfl⟩
  by_cases hname : word ∈ Catalogue.scenarioNames
  · obtain ⟨hok, -⟩ := dispatch_scenario hleads hname s
    refine ⟨(hok.trans (h.completes_iff ht hname)).trans ?_, fun hnone => ?_⟩
    · simp [hhelp, hstatus, hleave, hlink, hname]
    · exact absurd ⟨word, hname, text, hleads⟩ hnone
  · have hhandler : (standard : Registry Simulator).handlerOf word = none := by
      rw [Registry.handlerOf_standard, if_neg hlink, if_neg hstatus, if_neg hleave, if_neg hname]
    rw [dispatch_stranger hleads hhelp hhandler s]
    refine ⟨?_, fun _ => Or.inl rfl⟩
    simp [hhelp, hstatus, hleave, hlink, hname, Except.isOk, Except.toBool]

/-! ## The run -/

theorem ofCommand_code (line : String) (result : Except CommandError CommandOutcome) :
    (Outcome.ofCommand line result).code = 0 ↔ result.isOk = true := by
  rcases result with e | message | message <;>
    simp [Outcome.ofCommand, Outcome.ofFailure, Except.isOk, Except.toBool]

theorem runLine_eq (line : String) (s : Session Simulator) :
    runLine line s =
      ((dispatch line (standard, s)).1, (dispatch line (standard, s)).2.2.close) := by
  unfold runLine
  rcases dispatch line (standard, s) with ⟨result, r, s'⟩
  rfl

/-- A run on a network of the catalogue puts the line to a session at rest, and then closes it. -/
theorem work_prepared {o : Options} (hbackend : o.backend = .simulator) (hrun : o.run = some line)
    (machine : Machine) (events : List ShellEvent)
    (hconfig : configure o machine.files.readText = .ok config)
    (ht : Catalogue.topology? config.topology = some t) :
    ∃ s₀, Session.start config t ({} : Simulator) = .ok s₀ ∧ AtRest config t s₀ ∧
      work o machine events = .ofCommand line (dispatch line (standard, s₀)).1 ∧
      (runLine line s₀).2 = (dispatch line (standard, s₀)).2.2.close := by
  obtain ⟨s₀, hstart, hrest⟩ :=
    AtRest.at_start ht (Simulator.fresh_default {}) ⟨rfl, rfl, rfl⟩ config {}
  refine ⟨s₀, hstart, hrest, ?_, by rw [runLine_eq]⟩
  simp only [work, hconfig, networkOf, ht, hbackend, perform, openSession, hstart, hrun,
    runLine_eq]

/-- A run that cannot be prepared fails. -/
theorem work_unprepared (o : Options) (machine : Machine) (events : List ShellEvent)
    (h : ¬ ∃ config t, configure o machine.files.readText = .ok config ∧
      Catalogue.topology? config.topology = some t) : (work o machine events).code = 1 := by
  unfold work
  rcases hconfig : configure o machine.files.readText with f | config
  · rfl
  · rcases ht : Catalogue.topology? config.topology with _ | t
    · simp only [networkOf, ht]
      rfl
    · exact absurd ⟨config, t, hconfig, ht⟩ h

/-- A run with a single line on the simulator succeeds just when it can be prepared and the line
is accepted. Where the line begins with the name of a scenario and the run succeeds, that scenario
has run through all its steps, and then the session was closed. But blanks, a question, a word for
leaving and a link of the network are accepted too: then no scenario is run, and the session is
closed at once, or after a call to switch a link. -/
theorem single_line_succeeds_when_accepted {o : Options} {line : String}
    (hbackend : o.backend = .simulator) (hrun : o.run = some line) (machine : Machine)
    (events : List ShellEvent) :
    let code := (work o machine events).code
    let prepared (config : Config) (t : Topology) : Prop :=
      configure o machine.files.readText = .ok config ∧
        Catalogue.topology? config.topology = some t
    (code = 0 ↔ ∃ config t, prepared config t ∧ Accepted t line) ∧
      ∀ config t, prepared config t → ∃ s₀, Session.start config t ({} : Simulator) = .ok s₀ ∧
        (∀ name, Names line name → code = 0 → ∃ scenario report s₁,
          Catalogue.scenario? name config = some scenario ∧
            Completes name scenario report s₀ s₁ ∧ (runLine line s₀).2 = s₁.close) ∧
        ((¬ ∃ name, Names line name) → (runLine line s₀).2 = s₀.close ∨
          ∃ a b state, (runLine line s₀).2 = (Session.switchLink a b state s₀).2.close) := by
  dsimp only
  constructor
  · constructor
    · intro hcode
      by_cases hprepared : ∃ config t, configure o machine.files.readText = .ok config ∧
          Catalogue.topology? config.topology = some t
      · obtain ⟨config, t, hconfig, ht⟩ := hprepared
        obtain ⟨s₀, -, hrest, hresult, -⟩ :=
          work_prepared hbackend hrun machine events hconfig ht
        rw [hresult, ofCommand_code] at hcode
        exact ⟨config, t, ⟨hconfig, ht⟩, (dispatch_accepted hrest ht line).1.mp hcode⟩
      · rw [work_unprepared o machine events hprepared] at hcode
        cases hcode
    · rintro ⟨config, t, ⟨hconfig, ht⟩, haccepted⟩
      obtain ⟨s₀, -, hrest, hresult, -⟩ :=
        work_prepared hbackend hrun machine events hconfig ht
      rw [hresult, ofCommand_code]
      exact (dispatch_accepted hrest ht line).1.mpr haccepted
  · rintro config t ⟨hconfig, ht⟩
    obtain ⟨s₀, hstart, hrest, hresult, hsession⟩ :=
      work_prepared hbackend hrun machine events hconfig ht
    refine ⟨s₀, hstart, ?_, fun hnone => ?_⟩
    · rintro name ⟨hname, text, hleads⟩ hcode
      rw [hresult, ofCommand_code] at hcode
      obtain ⟨hok, hdone⟩ := dispatch_scenario hleads hname s₀
      obtain ⟨report, hreport⟩ := hok.mp hcode
      obtain ⟨-, scenario, hscenario, ⟨report', -, hcompletes⟩ | ⟨host, -, -, hrefused, -⟩⟩ :=
        hrest.runCatalogue ht hname
      · exact ⟨scenario, report', _, hscenario, hcompletes, by rw [hsession, hdone]⟩
      · rw [hrefused] at hreport
        cases hreport
    · rw [hsession]
      rcases (dispatch_accepted hrest ht line).2 hnone with h | h | ⟨a, b, state, h⟩
      · exact Or.inl (by rw [h])
      · refine Or.inl ?_
        rw [h, Session.close_of_shutDown (Session.shutDown_close s₀)]
      · exact Or.inr ⟨a, b, state, by rw [h]⟩

/-- A scenario is run on the network that it was written for, whatever comes after its name. -/
theorem single_line_succeeds_when_accepted_init_h1 :
    let o : Options :=
      { topology := some "h1", backend := .simulator, run := some " init_h1 now" }
    (work o {} []).code = 0 ∧ ∃ config t s₀ scenario report s₁,
      configure o ({} : Machine).files.readText = .ok config ∧
        Session.start config t ({} : Simulator) = .ok s₀ ∧
        Completes "init_h1" scenario report s₀ s₁ ∧
        (runLine " init_h1 now" s₀).2 = s₁.close := by
  intro o
  obtain ⟨t, ht⟩ : ∃ t, Catalogue.topology? "h1" = some t :=
    Option.isSome_iff_exists.mp (by decide +kernel)
  have hconfig : configure o ({} : Machine).files.readText = .ok { topology := "h1" } := by
    simp only [configure, o, Config.setTopology, ht, Option.isSome_some, if_true]
    rfl
  have hleads : Leads " init_h1 now" "init_h1" "now" :=
    Text.leads_of_cut (by decide +kernel) (by decide +kernel)
  have hname : "init_h1" ∈ Catalogue.scenarioNames := by decide
  have hrun : o.run = some " init_h1 now" := rfl
  obtain ⟨hiff, hprepared⟩ := single_line_succeeds_when_accepted rfl hrun {} []
  have hcode : (work o {} []).code = 0 := hiff.mpr ⟨_, t, ⟨hconfig, ht⟩,
    .scenario hleads hname (Catalogue.hosts_of_scenarioTopology? hname rfl ht)⟩
  obtain ⟨s₀, hstart, hruns, -⟩ := hprepared _ t ⟨hconfig, ht⟩
  obtain ⟨scenario, report, s₁, -, hcompletes, hclosed⟩ := hruns _ ⟨hname, _, hleads⟩ hcode
  exact ⟨hcode, _, t, s₀, scenario, report, s₁, hconfig, hstart, hcompletes, hclosed⟩

/-- A run that only asks for the status succeeds, and no scenario is named. -/
theorem status_alone_succeeds :
    let o : Options := { backend := .simulator, run := some "status" }
    (work o {} []).code = 0 ∧ ¬ ∃ name, Names "status" name := by
  intro o
  obtain ⟨t, ht⟩ : ∃ t, Catalogue.topology? Catalogue.defaultTopology = some t :=
    Option.isSome_iff_exists.mp (by decide +kernel)
  have hleads : Leads "status" "status" "" :=
    Text.leads_of_cut (by decide +kernel) (by decide +kernel)
  constructor
  · have hrun : o.run = some "status" := rfl
    obtain ⟨s₀, -, hrest, hresult, -⟩ := work_prepared rfl hrun {} [] rfl ht
    rw [hresult, ofCommand_code]
    exact (dispatch_accepted hrest ht "status").1.mpr (.status hleads)
  · rintro ⟨name, hname, text, hnamed⟩
    have heq := (Registry.wordOf_of_leads hnamed).symm.trans (Registry.wordOf_of_leads hleads)
    exact (scenario_word hname).2.1 heq

end Program

end Testbed
