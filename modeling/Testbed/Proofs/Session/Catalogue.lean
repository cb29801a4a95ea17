-- Sessions that run the scenarios of the catalogue on its networks. Whatever
-- the configuration says, a scenario runs to its end or names a host that the
-- network does not have, and after it every link is up again and all that has
-- been started is alive.
import Testbed.Proofs.Scenario.Steady
import Testbed.Proofs.Session.DryRun
import Testbed.Proofs.Session.Links
import Testbed.Proofs.Session.Processes
import Testbed.Proofs.Topology.Catalogue

namespace Testbed

/-! ## What the scenarios do -/

theorem Step.Calm.of_hosts {step : Step} (h : step.Calm step.hosts) {ids : List HostId}
    (hids : ∀ host ∈ step.hosts, host ∈ ids) : step.Calm ids := by
  cases step with
  | spawn host request => exact ⟨hids host (List.mem_singleton_self host), h.2⟩
  | wait d => trivial
  | setLink a b state => exact h.elim

namespace Catalogue

/-- The scenario in which a link fails. -/
def faulty : String := "init_h1"

/-- The hosts that the scenario with a name needs, whatever the configuration says. -/
def hostsOf (name : String) : List HostId := ((scenario? name {}).map Scenario.hosts).getD []

theorem hosts_scenario? {name : String} {c : Config} {scenario : Scenario}
    (h : scenario? name c = some scenario) : scenario.hosts = hostsOf name := by
  unfold scenario? at h
  split at h
  · next hname =>
    cases h
    subst hname
    rfl
  split at h
  · next hname =>
    cases h
    subst hname
    rfl
  split at h
  · next hname =>
    cases h
    subst hname
    rfl
  · cases h

theorem exists_scenario? {name : String} (h : name ∈ scenarioNames) (c : Config) :
    ∃ scenario, scenario? name c = some scenario := by
  simp only [scenarioNames, List.mem_cons, List.not_mem_nil, or_false] at h
  rcases h with rfl | rfl | rfl
  · exact ⟨_, rfl⟩
  · exact ⟨_, rfl⟩
  · exact ⟨_, rfl⟩

/-- In the other scenarios commands are started and time passes. -/
theorem calm_scenario? {name : String} {c : Config} {scenario : Scenario}
    (h : scenario? name c = some scenario) (hname : name ≠ faulty) :
    ∀ step ∈ scenario.steps, step.Calm step.hosts := by
  unfold scenario? at h
  split at h
  · cases h
    simp [pingOverChain, start, mipDaemon, pingServer, pingClient, Step.Calm, Step.hosts]
  split at h
  · next hfaulty => exact absurd hfaulty hname
  split at h
  · cases h
    simp [fileTransfer, routedNetwork, transferHosts, start, mipDaemon, routingDaemon,
      transportDaemon, Step.Calm, Step.hosts]
  · cases h

/-- In the one with a fault, a link is taken down and brought up again at the end. -/
theorem faulty_scenario? {c : Config} {scenario : Scenario}
    (h : scenario? faulty c = some scenario) : ∃ first d, scenario.steps = first ++
        [.setLink ⟨"B"⟩ ⟨"C"⟩ .down, .wait d, .setLink ⟨"B"⟩ ⟨"C"⟩ .up] ∧
      ∀ step ∈ first, step.Calm step.hosts := by
  have hsteps : some (reroutingAroundFault c (c.timingsFor faulty)) = some scenario := h
  cases hsteps
  refine ⟨_, _, (List.append_assoc (routedNetwork c _ reroutingHosts)
    [_, _, _, _, _, _] [_, _, _]).symm, ?_⟩
  simp [routedNetwork, reroutingHosts, start, mipDaemon, routingDaemon,
      pingServer, pingClient, Step.Calm, Step.hosts]

/-- A network that has the hosts for it has the link that fails. -/
theorem faulty_link {network : String} {t : Topology} (h : topology? network = some t)
    (hhosts : ∀ host ∈ hostsOf faulty, t.hasHost host = true) :
    ∃ l, t.link? ⟨"B"⟩ ⟨"C"⟩ = some l ∧ l.a = ⟨"B"⟩ ∧ l.b = ⟨"C"⟩ := by
  have hall : (topologyNames.all fun name => (topology? name).all fun t =>
      (!(hostsOf faulty).all t.hasHost) ||
        (t.link? ⟨"B"⟩ ⟨"C"⟩).any fun l => l.a = ⟨"B"⟩ && l.b = ⟨"C"⟩) = true := by
    decide +kernel
  have hlink := of_topology? hall h
  rw [List.all_eq_true.mpr hhosts, Bool.not_true, Bool.false_or, Option.any_eq_true] at hlink
  obtain ⟨l, hl, hends⟩ := hlink
  simp only [Bool.and_eq_true, decide_eq_true_eq] at hends
  exact ⟨l, hl, hends⟩

/-- The network that a scenario was written for has the hosts for it. -/
theorem hosts_of_scenarioTopology? {name network : String} {t : Topology}
    (hname : name ∈ scenarioNames) (h : scenarioTopology? name = some network)
    (ht : topology? network = some t) : ∀ host ∈ hostsOf name, t.hasHost host = true := by
  have hall : (scenarioNames.all fun name => (scenarioTopology? name).all fun network =>
      (topology? network).all fun t => (hostsOf name).all t.hasHost) = true := by
    decide +kernel
  have hhosts := List.all_eq_true.mp hall name hname
  rw [h, Option.all_some, ht, Option.all_some] at hhosts
  exact List.all_eq_true.mp hhosts

end Catalogue

/-! ## One scenario -/

/-- A scenario is refused for a host that is not there, or it has all its hosts. -/
theorem Topology.validate_cases (t : Topology) (scenario : Scenario) :
    (∃ host ∈ scenario.hosts, t.hasHost host = false ∧
      t.validate scenario = .error (.unknownHost host)) ∨
    (∀ host ∈ scenario.hosts, t.hasHost host = true) ∧ t.validate scenario = .ok () := by
  unfold validate
  rcases hfind : scenario.hosts.find? (!t.hasHost ·) with _ | host
  · refine Or.inr ⟨?_, rfl⟩
    intro host hmem
    simpa using List.find?_eq_none.mp hfind host hmem
  · exact Or.inl ⟨host, List.mem_of_find?_eq_some hfind, by simpa using List.find?_some hfind, rfl⟩

/-- The calls to switch links that a scenario comes to. -/
def Catalogue.switchesOf (name : String) : List (HostId × HostId × LinkState × Bool) :=
  if name = faulty then [(⟨"B"⟩, ⟨"C"⟩, .down, true), (⟨"B"⟩, ⟨"C"⟩, .up, true)] else []

section

variable {network name : String} {t : Topology} {c : Config} {scenario : Scenario}

theorem mem_ids_of_hasHost (ht : Catalogue.topology? network = some t) {host : HostId}
    (h : t.hasHost host = true) : host ∈ t.ids := by
  obtain ⟨x, hx, rfl⟩ := ((Catalogue.built ht).sound.hasHost_iff host).mp h
  exact List.mem_map_of_mem hx

/-- With all its hosts there, a scenario of the catalogue runs to its end and leaves the topology
as it was. -/
theorem Rig.performAll_catalogue (ht : Catalogue.topology? network = some t)
    (h : Catalogue.scenario? name c = some scenario)
    (hhosts : ∀ host ∈ scenario.hosts, t.hasHost host = true) {r : Rig Simulator}
    (steady : Steady t.ids (t.links.map Link.pair) r) (htop : r.topology = t.raised) :
    ∃ started r', performAll scenario.steps r = (.ok started, r') ∧
      Passes t.ids (t.links.map Link.pair) (Catalogue.switchesOf name) r r' := by
  have calm_of : ∀ steps : List Step, (∀ step ∈ steps, step ∈ scenario.steps) →
      (∀ step ∈ steps, step.Calm step.hosts) → ∀ step ∈ steps, step.Calm t.ids := by
    intro steps hsub hcalm step hstep
    refine (hcalm step hstep).of_hosts fun host hhost => ?_
    exact mem_ids_of_hasHost ht
      (hhosts host (List.mem_flatMap.mpr ⟨step, hsub step hstep, hhost⟩))
  unfold Catalogue.switchesOf
  split
  · next hname =>
    subst hname
    obtain ⟨first, d, hsteps, hcalm⟩ := Catalogue.faulty_scenario? h
    rw [Catalogue.hosts_scenario? h] at hhosts
    obtain ⟨l, hl, ha, hb⟩ := Catalogue.faulty_link ht hhosts
    have hmem := ((Catalogue.built ht).sound.linkAt?_iff _ l).mp hl
    have hup := (Catalogue.built ht).sound.up_before (Catalogue.not_instantiated ht) l hmem.1
    obtain ⟨started, r₁, hfirst, hpass⟩ := steady.performAll_calm
      (calm_of first (by rw [hsteps]; exact fun step => List.mem_append_left _) hcalm)
    have htop₁ : r₁.topology = t.raised := hpass.topology.trans htop
    obtain ⟨r₂, hfault, hpass'⟩ := hpass.steady.performAll_fault
      (htop₁ ▸ (Catalogue.built ht).sound.raised) (by rw [htop₁]; rfl) (by rw [htop₁]; exact hl)
      (List.mem_map_of_mem hmem.1) hup d
    rw [ha, hb] at hpass'
    refine ⟨started, r₂, ?_, hpass.trans hpass'⟩
    rw [hsteps, performAll_append hfirst, hfault]
    simp [Except.map]
  · next hname =>
    exact steady.performAll_calm
      (calm_of scenario.steps (fun _ => id) (Catalogue.calm_scenario? h hname))

end

/-! ## Scenarios one after the other -/

namespace Session

/-- A session on a network of the catalogue that is as it was built, and on which nothing is to
fail. -/
structure AtRest (config : Config) (t : Topology) (s : Session Simulator) : Prop where
  config : s.config = config
  opened : s.shutDown = false
  topology : s.rig.topology = t.raised
  steady : Rig.Steady t.ids (t.links.map Link.pair) s.rig

/-- A scenario has run to its end, through all of its steps, and has switched its links. -/
structure Completes (name : String) (scenario : Scenario) (report : RunReport)
    (s s' : Session Simulator) : Prop where
  performed : Rig.performAll scenario.steps s.rig = (.ok report.spawned, s'.rig)
  steps : report.stepsExecuted = scenario.steps.length
  switched : s'.rig.substrate.setLinks = s.rig.substrate.setLinks ++ Catalogue.switchesOf name

theorem runCatalogue_eq {name : String} {s : Session Simulator} {scenario : Scenario}
    (h : Catalogue.scenario? name s.config = some scenario) (ho : s.shutDown = false) :
    s.runCatalogue name = (some (Rig.run scenario s.rig).1,
      { s with rig := (Rig.run scenario s.rig).2 }) := by
  simp [runCatalogue, h, runScenario, whenOpen, ho, Action.within]

variable {config : Config} {network : String} {t : Topology} {s : Session Simulator}

/-- A scenario runs to its end or is refused, and leaves the session at rest. -/
theorem AtRest.runCatalogue (h : AtRest config t s)
    (ht : Catalogue.topology? network = some t) {name : String}
    (hname : name ∈ Catalogue.scenarioNames) :
    AtRest config t (s.runCatalogue name).2 ∧
      ∃ scenario, Catalogue.scenario? name config = some scenario ∧
        ((∃ report, (s.runCatalogue name).1 = some (.ok report) ∧
          Completes name scenario report s (s.runCatalogue name).2) ∨
        ∃ host ∈ scenario.hosts, t.hasHost host = false ∧
          s.runCatalogue name = (some (.error (.unknownHost host)), s) ∧
          Catalogue.scenarioTopology? name ≠ some network) := by
  obtain ⟨scenario, hscenario⟩ := Catalogue.exists_scenario? hname s.config
  have hrun := runCatalogue_eq hscenario h.opened
  have hconfig : Catalogue.scenario? name config = some scenario := h.config ▸ hscenario
  have hsame : ∀ host, s.rig.topology.hasHost host = t.hasHost host := by
    intro host
    rw [h.topology]
    rfl
  rcases s.rig.topology.validate_cases scenario with ⟨host, hmem, hno, hvalid⟩ | ⟨hhosts, hvalid⟩
  · rw [hsame] at hno
    have hrefused : s.runCatalogue name = (some (.error (.unknownHost host)), s) := by
      rw [hrun, Rig.run_unknown hvalid]
    refine ⟨by rw [hrefused]; exact h, scenario, hconfig,
      Or.inr ⟨host, hmem, hno, hrefused, fun hnetwork => ?_⟩⟩
    rw [Catalogue.hosts_scenario? hscenario] at hmem
    rw [Catalogue.hosts_of_scenarioTopology? hname hnetwork ht host hmem] at hno
    cases hno
  · have hknown : ∀ host ∈ scenario.hosts, t.hasHost host = true :=
      fun host hmem => (hsame host).symm.trans (hhosts host hmem)
    obtain ⟨started, r', hall, hpass⟩ :=
      Rig.performAll_catalogue ht hscenario hknown h.steady h.topology
    rw [hrun, Rig.run_known hvalid, hall]
    exact ⟨⟨h.config, h.opened, hpass.topology.trans h.topology, hpass.steady⟩, scenario, hconfig,
      Or.inl ⟨_, rfl, hall, rfl, hpass.setLinks⟩⟩

/-- A network of the catalogue can be built on a fresh simulator, and the session is at rest. -/
theorem AtRest.at_start (ht : Catalogue.topology? network = some t) {sim : Simulator}
    (fresh : sim.Fresh) (quiet : sim.Quiet) (config : Config) (clock : Clock) :
    ∃ s₀, start config t sim clock = .ok s₀ ∧ AtRest config t s₀ := by
  have hbuilt := t.instantiate_known (Catalogue.built ht) (Catalogue.not_instantiated ht) sim
  refine ⟨_, start_ok hbuilt config clock, rfl, rfl, rfl, t.attends_network fresh quiet, ?_⟩
  intro h hmem
  cases hmem

/-- A session after scenarios of the catalogue, one after the other. -/
def afterScenarios (names : List String) (s : Session Simulator) : Session Simulator :=
  names.foldl (fun s name => (s.runCatalogue name).2) s

theorem AtRest.afterScenarios (h : AtRest config t s) (ht : Catalogue.topology? network = some t)
    {names : List String} (hnames : ∀ name ∈ names, name ∈ Catalogue.scenarioNames) :
    AtRest config t (s.afterScenarios names) := by
  induction names generalizing s with
  | nil => exact h
  | cons name names ih =>
    exact ih (h.runCatalogue ht (hnames name List.mem_cons_self)).1
      fun x hx => hnames x (List.mem_cons_of_mem name hx)

theorem Kept.afterScenarios {P : Session Simulator → Prop} (kept : Kept P) (h : P s)
    (names : List String) : P (s.afterScenarios names) := by
  induction names generalizing s with
  | nil => exact h
  | cons name names ih => exact ih (kept.effect _ _ h (effect_runCatalogue name s))

/-- The network is whole: all links are up, in the topology and on the simulator, and just the
processes that were started are tracked and alive. -/
structure Whole (first : Pid) (t : Topology) (s : Session Simulator) : Prop where
  topology : s.rig.topology = t.raised
  up : ∀ l ∈ s.rig.topology.links,
    l.state = .up ∧ s.rig.substrate.linkState? l.a l.b = some .up
  tracked : s.rig.supervisor.tracked.map entryOf = entries first s.rig.substrate.started
  alive : ∀ h ∈ s.rig.supervisor.tracked, s.rig.substrate.isAlive h.pid = true

theorem AtRest.whole (h : AtRest config t s) (built : t.Built) (hi : t.instantiated = false)
    (linked : Linked s) {first : Pid} (accounted : Accounted first s) : Whole first t s := by
  refine ⟨h.topology, ?_, accounted.tracked_open h.opened, h.steady.alive⟩
  intro l hl
  have hat : s.rig.topology.linkAt? l.pair = some l := (linked.sound.linkAt?_iff _ l).mpr ⟨hl, rfl⟩
  rw [h.topology] at hl
  have hup : l.state = .up := built.sound.up_before hi l hl
  refine ⟨hup, ?_⟩
  change s.rig.substrate.links.get? l.pair = some .up
  rw [linked.agree, hat, Option.map_some, hup]

/-- A network of the catalogue can be built, whatever the configuration says, and its scenarios
can be run on it in any order. Each one runs to its end, or it is refused for a host that is not
there and nothing has changed; it is never refused on the network that it was written for. After
each one the network is whole. -/
theorem scenarios_leave_the_network_whole (config : Config) (clock : Clock)
    (ht : Catalogue.topology? network = some t) {sim : Simulator} (fresh : sim.Fresh)
    (quiet : sim.Quiet) : ∃ s₀, start config t sim clock = .ok s₀ ∧
      ∀ names, (∀ name ∈ names, name ∈ Catalogue.scenarioNames) →
      ∀ name ∈ Catalogue.scenarioNames,
        let s := s₀.afterScenarios names
        Whole sim.nextPid t (s.runCatalogue name).2 ∧
          ∃ scenario, Catalogue.scenario? name config = some scenario ∧
            ((∃ report, (s.runCatalogue name).1 = some (.ok report) ∧
              Completes name scenario report s (s.runCatalogue name).2) ∨
            ∃ host ∈ scenario.hosts, t.hasHost host = false ∧
              s.runCatalogue name = (some (.error (.unknownHost host)), s) ∧
              Catalogue.scenarioTopology? name ≠ some network) := by
  have built := Catalogue.built ht
  have hi := Catalogue.not_instantiated ht
  have hstart := start_ok (t.instantiate_known built hi sim) config clock
  have hrest₀ : AtRest config t
      { config, rig := { topology := t.raised, substrate := t.network sim, clock } } := by
    refine ⟨rfl, rfl, rfl, t.attends_network fresh quiet, ?_⟩
    intro h hmem
    cases hmem
  refine ⟨_, hstart, ?_⟩
  intro names hnames name hname s
  have hrest : AtRest config t s := hrest₀.afterScenarios ht hnames
  have hlinked : Linked s := Linked.kept.afterScenarios (Linked.at_start built fresh hstart) names
  have haccounted : Accounted sim.nextPid s :=
    (Accounted.kept _).afterScenarios (Accounted.at_start fresh hstart) names
  obtain ⟨hrest', hrun⟩ := hrest.runCatalogue ht hname
  exact ⟨hrest'.whole built hi (Linked.kept.effect _ _ hlinked (effect_runCatalogue name s))
    ((Accounted.kept _).effect _ _ haccounted (effect_runCatalogue name s)), hrun⟩

/-- On the network with a cycle a link fails, after a transfer, and the run ends as it should. -/
theorem scenarios_leave_the_network_whole_on_h1 : ∃ t s₀ scenario report,
    Catalogue.topology? "h1" = some t ∧ ({} : Simulator).Fresh ∧ ({} : Simulator).Quiet ∧
      start {} t ({} : Simulator) = .ok s₀ ∧
      Completes "init_h1" scenario report (s₀.afterScenarios ["init"])
        ((s₀.afterScenarios ["init"]).runCatalogue "init_h1").2 ∧
      Whole 1000 t ((s₀.afterScenarios ["init"]).runCatalogue "init_h1").2 := by
  obtain ⟨t, ht⟩ : ∃ t, Catalogue.topology? "h1" = some t :=
    Option.isSome_iff_exists.mp (by decide +kernel)
  have fresh : ({} : Simulator).Fresh := Simulator.fresh_default {}
  have quiet : ({} : Simulator).Quiet := ⟨rfl, rfl, rfl⟩
  obtain ⟨s₀, hstart, hruns⟩ := scenarios_leave_the_network_whole {} {} ht fresh quiet
  obtain ⟨hwhole, scenario, -, ⟨report, -, hcompletes⟩ | ⟨host, -, -, -, hother⟩⟩ :=
    hruns ["init"] (by decide) "init_h1" (by decide)
  · exact ⟨t, s₀, scenario, report, ht, fresh, quiet, hstart, hcompletes, hwhole⟩
  · exact absurd rfl hother

end Session

end Testbed
