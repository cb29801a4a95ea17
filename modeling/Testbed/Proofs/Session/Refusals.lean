-- What a refused line leaves behind: nothing. The standard commands look at the
-- line, at the session and at the names of the hosts before they do anything,
-- so what they refuse there they refuse with the session as it was. Only the
-- simulator writes a refusal down, when it refuses to switch a link.
import Testbed.Proofs.Command.Dispatch

namespace Testbed

open Simulator (Call)
open Text (Blank Leads)

/-! ## Steps that fail -/

namespace Rig

/-- Steps that fail have failed at one of them, and it has left the rig as it is. -/
theorem exists_of_performAll_error {steps : List Step} {r r' : Rig Simulator} {e : TestbedError}
    (h : performAll steps r = (.error e, r')) :
    ∃ step before, Performs before step (.error e) r' := by
  induction steps generalizing r with
  | nil => cases h
  | cons step steps ih =>
    rcases hp : perform step r with ⟨e' | started, r₁⟩
    · rw [performAll_cons_error hp] at h
      cases h
      exact ⟨step, r, perform_eq_iff.mp hp⟩
    · rw [performAll_cons_ok hp] at h
      rcases hrest : performAll steps r₁ with ⟨e' | rest, r₂⟩
      · rw [hrest] at h
        cases h
        exact ih hrest
      · rw [hrest] at h
        cases h

end Rig

/-! ## Refusals before anything is done -/

/-- The line is not understood, the session is over, or a host is unknown. -/
inductive CommandError.Early : CommandError → Prop
  | unknown (name : String) : Early (.unknown name)
  | usage (text : String) : Early (.usage text)
  | sessionClosed : Early (.testbed .sessionClosed)
  | unknownHost (host : HostId) : Early (.testbed (.unknownHost host))

namespace Session

/-- A run that is refused with one of these has not begun. -/
theorem runScenario_early {scenario : Scenario} {s s' : Session Simulator} {e : TestbedError}
    (h : runScenario scenario s = (.error e, s')) (he : CommandError.Early (.testbed e)) :
    s' = s := by
  by_cases hs : s.shutDown = true
  · rw [runScenario_closed scenario hs] at h
    cases h
    rfl
  rw [runScenario_open scenario (by simpa using hs)] at h
  rcases hv : s.rig.topology.validate scenario with e' | u
  · rw [Rig.run_unknown hv] at h
    cases h
    rfl
  · rw [Rig.run_known hv] at h
    rcases hp : Rig.performAll scenario.steps s.rig with ⟨e' | ids, rig⟩
    · rw [hp] at h
      cases h
      -- No step can fail with one of these.
      obtain ⟨step, before, hfail⟩ := Rig.exists_of_performAll_error hp
      cases hfail <;> cases he
    · rw [hp] at h
      cases h

theorem runCatalogue_none {name : String} {s s' : Session Simulator}
    (h : s.runCatalogue name = (none, s')) : s' = s := by
  unfold runCatalogue at h
  split at h <;> cases h
  rfl

theorem runCatalogue_early {name : String} {s s' : Session Simulator} {e : TestbedError}
    (h : s.runCatalogue name = (some (.error e), s')) (he : CommandError.Early (.testbed e)) :
    s' = s := by
  unfold runCatalogue at h
  split at h
  · cases h
  · next scenario _ =>
    rcases hr : runScenario scenario s with ⟨result, s₁⟩
    rw [hr] at h
    cases h
    exact runScenario_early hr he

/-- A link cannot be switched: the session is left alone, or the simulator has written down that
it refused. -/
theorem switchLink_error {a b : HostId} {state : LinkState} {s s' : Session Simulator}
    {e : TestbedError} (h : switchLink a b state s = (.error e, s')) :
    ((∀ cause, e ≠ .substrate cause) ∧ s' = s) ∨
      ∃ cause l, e = .substrate cause ∧ s.rig.topology.link? a b = some l ∧
        s' = s.mapSubstrate (·.record (.setLink l.a l.b state) false) := by
  by_cases hs : s.shutDown = true
  · rw [switchLink, whenOpen, if_pos hs] at h
    cases h
    exact Or.inl ⟨by simp, rfl⟩
  rcases hr : Rig.switchLink a b state s.rig with ⟨e' | t, rig⟩
  · rw [switchLink, whenOpen, if_neg hs, Action.within, hr] at h
    cases h
    have hp : Rig.perform (.setLink a b state) s.rig = (.error e, rig) := Action.bind_error _ hr
    cases Rig.perform_eq_iff.mp hp with
    | notInstantiated => exact Or.inl ⟨by simp, rfl⟩
    | noLink => exact Or.inl ⟨by simp, rfl⟩
    | notSwitched _ _ _ l cause _ hl => exact Or.inr ⟨cause, l, rfl, hl, rfl⟩
  · rw [switchLink, whenOpen, if_neg hs, Action.within, hr] at h
    cases h

end Session

/-! ## The standard commands -/

namespace Registry

open Session (runCatalogue_none runCatalogue_early switchLink_error)

theorem runCommand_early {name args : String} {calls : List (CommandCall Simulator)}
    {s s' : Session Simulator} {e : CommandError}
    (h : runCommand name calls args s = (.error e, s')) (he : e.Early) :
    s' = s := by
  unfold runCommand at h
  split at h
  · next hc =>
    cases h
    exact runCatalogue_none hc
  · next hc =>
    cases h
    exact runCatalogue_early hc he
  · cases h

/-- The command that switches links leaves the session alone, unless it succeeds or the simulator
refuses. -/
theorem linkCommand_error {calls : List (CommandCall Simulator)} {args : String}
    {s s' : Session Simulator} {e : CommandError}
    (h : linkCommand calls args s = (.error e, s')) :
    ((∀ cause, e ≠ .testbed (.substrate cause)) ∧ s' = s) ∨
      ∃ cause a b word state l, e = .testbed (.substrate cause) ∧
        Text.words args = [a, b, word] ∧ LinkState.parse word = .ok state ∧
        s.rig.topology.link? ⟨a⟩ ⟨b⟩ = some l ∧
        s' = s.mapSubstrate (·.record (.setLink l.a l.b state) false) := by
  unfold linkCommand at h
  split at h
  · next a b word hwords =>
    split at h
    · cases h
      exact Or.inl ⟨by simp, rfl⟩
    · next state hstate =>
      split at h
      · next e' s₁ hs =>
        cases h
        rcases switchLink_error hs with ⟨hother, hsame⟩ | ⟨cause, l, hcause, hl, hrecord⟩
        · exact Or.inl ⟨fun cause heq => hother cause (CommandError.testbed.inj heq), hsame⟩
        · exact Or.inr ⟨cause, a, b, word, state, l, by rw [hcause], hwords, hstate, hl, hrecord⟩
      · cases h
  · cases h
    exact Or.inl ⟨by simp, rfl⟩

theorem statusCommand_session (calls : List (CommandCall Simulator)) (args : String)
    (s : Session Simulator) : (statusCommand calls args s).2 = s := Session.processStatus_session s

/-! ## Lines -/

variable {r : Registry Simulator}

/-- A standard command that refuses before anything is done leaves the session alone. -/
theorem handler_early (hr : r.IsStandard) {word args : String} {handler : Handler Simulator}
    (hw : r.handlerOf word = some handler) {calls : List (CommandCall Simulator)}
    {s s' : Session Simulator} {e : CommandError} (h : handler calls args s = (.error e, s'))
    (he : e.Early) : s' = s := by
  rcases handler_cases hr hw with rfl | rfl | rfl | ⟨name, rfl⟩
  · rcases linkCommand_error h with ⟨-, hsame⟩ | ⟨cause, _, _, _, _, _, rfl, -⟩
    · exact hsame
    · cases he
  · cases h
  · rw [leaveCommand_eq] at h
    cases h
  · exact runCommand_early h he

theorem dispatch_early (hr : r.IsStandard) {line : String} {s : Session Simulator}
    {e : CommandError} (h : (dispatch line (r, s)).1 = .error e) (he : e.Early) :
    (dispatch line (r, s)).2.2 = s := by
  rcases hd : dispatch line (r, s) with ⟨result, r', s'⟩
  rw [hd] at h
  cases dispatches hd with
  | blank => rfl
  | help => rfl
  | unknown => rfl
  | handled _ _ handler hw calls => exact handler_early hr hw (Prod.ext h rfl) he

theorem dispatch_link_error (hr : r.IsStandard) {line text : String}
    (hleads : Leads line "link" text) {s : Session Simulator} {e : CommandError}
    (h : (dispatch line (r, s)).1 = .error e) :
    ((∀ cause, e ≠ .testbed (.substrate cause)) ∧ (dispatch line (r, s)).2.2 = s) ∨
      ∃ cause a b word state l, e = .testbed (.substrate cause) ∧
        Text.words text = [a, b, word] ∧ LinkState.parse word = .ok state ∧
        s.rig.topology.link? ⟨a⟩ ⟨b⟩ = some l ∧
        (dispatch line (r, s)).2.2 =
          s.mapSubstrate (·.record (.setLink l.a l.b state) false) := by
  obtain ⟨calls, hresult, hsession⟩ := dispatch_standard hr hleads rfl
    ((handlerOf_standard "link").trans (if_pos rfl)) s
  rw [hsession]
  exact linkCommand_error (Prod.ext (hresult.symm.trans h) rfl)

theorem dispatch_look (hr : r.IsStandard) {line word text : String}
    (hleads : Leads line word text) (hlook : word = "help" ∨ word = "?" ∨ word = "status")
    (s : Session Simulator) : (dispatch line (r, s)).2.2 = s := by
  have hword := wordOf_of_leads hleads
  by_cases hh : isHelp word = true
  · rw [dispatch_help (hword ▸ isEmpty_of_leads hleads) (hword ▸ hh)]
  · obtain rfl : word = "status" := by
      rcases hlook with rfl | rfl | hstatus
      · exact absurd rfl hh
      · exact absurd rfl hh
      · exact hstatus
    obtain ⟨calls, -, hsession⟩ := dispatch_standard hr hleads rfl
      ((handlerOf_standard "status").trans rfl) s
    rw [hsession, statusCommand_session]

/-- With the standard commands, and whatever the session is like: a line that is not understood,
that comes when the session is over, that names an unknown host or, to switch it, an unknown link
leaves everything as it was. So does one that only asks for something, and one of blanks. When
the simulator refuses to switch a link, it writes that down once, and nothing else changes. -/
theorem refused_lines_change_nothing (hr : r.IsStandard) (s : Session Simulator) (line : String) :
    let done := dispatch line (r, s)
    (∀ e, done.1 = .error e → e.Early → done.2.2 = s) ∧
      (∀ text a b, Leads line "link" text → done.1 = .error (.testbed (.linkNotFound a b)) →
        done.2.2 = s) ∧
      (∀ word text, Leads line word text → word = "help" ∨ word = "?" ∨ word = "status" →
        done.2.2 = s) ∧
      (Blank line.toList → done.2.2 = s) ∧
      ∀ text cause, Leads line "link" text → done.1 = .error (.testbed (.substrate cause)) →
        ∃ a b word state l, Text.words text = [a, b, word] ∧ LinkState.parse word = .ok state ∧
          s.rig.topology.link? ⟨a⟩ ⟨b⟩ = some l ∧
          done.2.2 = s.mapSubstrate fun sim => { sim with
            calls := sim.calls ++
              [{ time := sim.clock.now, op := .setLink l.a l.b state, ok := false }] } := by
  refine ⟨fun e h he => dispatch_early hr h he, ?_, ?_, ?_, ?_⟩
  · intro text a b hleads h
    rcases dispatch_link_error hr hleads h with ⟨-, hsame⟩ | ⟨cause, _, _, _, _, _, hcause, -⟩
    · exact hsame
    · cases hcause
  · exact fun word text hleads hlook => dispatch_look hr hleads hlook s
  · exact fun hblank => congrArg (·.2.2) (dispatch_blank (wordOf_of_blank hblank) r s)
  · intro text cause hleads h
    rcases dispatch_link_error hr hleads h with ⟨hother, -⟩ | ⟨_, a, b, word, state, l, -, hfound⟩
    · exact absurd rfl (hother cause)
    · exact ⟨a, b, word, state, l, hfound⟩

/-- A session with a link that the simulator refuses to switch. -/
def onStuckLink : Session Simulator := Session.onTwoHosts.mapSubstrate (·.failLink ⟨"A"⟩ ⟨"B"⟩)

/-- A link that is not there cannot be switched, and nothing changes. The one that is there is
not switched either, and this is written down. -/
theorem refused_lines_change_nothing_on_a_stuck_link :
    (standard : Registry Simulator).IsStandard ∧ Leads "link A C down" "link" "A C down" ∧
      (dispatch "link A C down" (standard, onStuckLink)).1 =
        .error (.testbed (.linkNotFound ⟨"A"⟩ ⟨"C"⟩)) ∧
      (dispatch "link A C down" (standard, onStuckLink)).2.2 = onStuckLink ∧
      Leads "link B A down" "link" "B A down" ∧
      (∃ cause, (dispatch "link B A down" (standard, onStuckLink)).1 =
        .error (.testbed (.substrate cause))) ∧
      (dispatch "link B A down" (standard, onStuckLink)).2.2 =
        onStuckLink.mapSubstrate fun sim => { sim with
          calls := sim.calls ++
            [{ time := sim.clock.now, op := .setLink ⟨"A"⟩ ⟨"B"⟩ .down, ok := false }] } := by
  have hnone : Leads "link A C down" "link" "A C down" :=
    Text.leads_of_cut (by decide +kernel) (by decide +kernel)
  have hstuck : Leads "link B A down" "link" "B A down" :=
    Text.leads_of_cut (by decide +kernel) (by decide +kernel)
  refine ⟨Session.isStandard_standard, hnone, rfl, ?_, hstuck, ⟨_, rfl⟩, ?_⟩
  · exact (refused_lines_change_nothing Session.isStandard_standard onStuckLink _).2.1 _ ⟨"A"⟩ ⟨"C"⟩
      hnone rfl
  · have hall := refused_lines_change_nothing Session.isStandard_standard onStuckLink
    obtain ⟨a, b, word, state, l, hwords, hstate, hl, hs⟩ := (hall _).2.2.2.2 _ _ hstuck rfl
    cases hwords
    cases hstate
    cases hl
    exact hs

end Registry

end Testbed
