-- What a single step of a scenario can do. On the simulator every way a step
-- can go is listed once, with its answer and with the rig it leaves, and what
-- a run keeps follows from what a step keeps.
import Testbed.Proofs.Simulator.Log
import Testbed.Scenario.Run

namespace Testbed.Rig

/-! ## Commands -/

/-- On any substrate a command that starts is tracked, and one that fails changes nothing else. -/
theorem perform_spawn {σ : Type} [Substrate σ] (host : HostId) (request : ExecRequest)
    (r : Rig σ) : perform (.spawn host request) r =
      match Substrate.exec host request r.substrate with
      | (.error cause, s) => (.error (.spawn host request.title cause), { r with substrate := s })
      | (.ok pid, s) => (.ok (some ⟨r.supervisor.nextIndex⟩), { r with
          supervisor := (r.supervisor.track pid host request r.clock.now).2, substrate := s }) := by
  simp only [perform, Action.bind_apply, spawn, Action.within, Supervisor.spawn]
  rcases Substrate.exec host request r.substrate with ⟨cause | pid, s⟩ <;> rfl

/-! ## The ways a step can go -/

/-- A step on a rig, its answer, and the rig afterwards. -/
inductive Performs (r : Rig Simulator) :
    Step → Except TestbedError (Option HandleId) → Rig Simulator → Prop
  | started (host : HostId) (request : ExecRequest)
      (h : r.substrate.execRefusal? host request = none) :
      Performs r (.spawn host request) (.ok (some ⟨r.supervisor.nextIndex⟩)) { r with
        supervisor := (r.supervisor.track r.substrate.nextPid host request r.clock.now).2
        substrate := r.substrate.launch host request }
  | notStarted (host : HostId) (request : ExecRequest) (e : SubstrateError)
      (h : r.substrate.execRefusal? host request = some e) :
      Performs r (.spawn host request) (.error (.spawn host request.title e)) { r with
        substrate := r.substrate.record (.exec host request.argv) false }
  | waited (d : Duration) : Performs r (.wait d) (.ok none) { r with
      clock := r.clock.advance d
      substrate := { r.substrate with
        clock := if r.substrate.followsTime then r.substrate.clock.advance d
          else r.substrate.clock } }
  | notInstantiated (a b : HostId) (state : LinkState) (h : r.topology.instantiated = false) :
      Performs r (.setLink a b state) (.error (.notInstantiated r.topology.name)) r
  | noLink (a b : HostId) (state : LinkState) (h : r.topology.instantiated = true)
      (hl : r.topology.link? a b = none) :
      Performs r (.setLink a b state) (.error (.linkNotFound a b)) r
  | already (a b : HostId) (state : LinkState) (l : Link) (h : r.topology.instantiated = true)
      (hl : r.topology.link? a b = some l) (hs : l.state = state) :
      Performs r (.setLink a b state) (.ok none) r
  | switched (a b : HostId) (state : LinkState) (l : Link) (h : r.topology.instantiated = true)
      (hl : r.topology.link? a b = some l) (hs : l.state ≠ state)
      (hr : r.substrate.switchRefusal? l.a l.b state = none) :
      Performs r (.setLink a b state) (.ok none) { r with
        topology := r.topology.recordState a b state
        substrate := r.substrate.switch l.a l.b state }
  | notSwitched (a b : HostId) (state : LinkState) (l : Link) (e : SubstrateError)
      (h : r.topology.instantiated = true) (hl : r.topology.link? a b = some l)
      (hs : l.state ≠ state) (hr : r.substrate.switchRefusal? l.a l.b state = some e) :
      Performs r (.setLink a b state) (.error (.substrate e)) { r with
        substrate := r.substrate.record (.setLink l.a l.b state) false }

theorem performs_spawn (host : HostId) (request : ExecRequest) (r : Rig Simulator) :
    Performs r (.spawn host request) (perform (.spawn host request) r).1
      (perform (.spawn host request) r).2 := by
  rcases h : r.substrate.execRefusal? host request with _ | e
  · have he : Substrate.exec host request r.substrate = _ := Simulator.exec_started h
    simp only [perform_spawn, he]
    exact Performs.started host request h
  · have he : Substrate.exec host request r.substrate = _ := Simulator.exec_refused h
    simp only [perform_spawn, he]
    exact Performs.notStarted host request e h

theorem performs_setLink (a b : HostId) (state : LinkState) (r : Rig Simulator) :
    Performs r (.setLink a b state) (perform (.setLink a b state) r).1
      (perform (.setLink a b state) r).2 := by
  simp only [perform, Action.bind_apply, switchLink, Action.within, Topology.switchLink]
  by_cases hi : r.topology.instantiated = true
  · rcases hl : r.topology.link? a b with _ | l
    · simp only [hi, Bool.not_true, Bool.false_eq_true, if_false]
      exact Performs.noLink a b state hi hl
    · by_cases hs : l.state = state
      · simp only [hi, hs, Bool.not_true, Bool.false_eq_true, if_false, if_true]
        exact Performs.already a b state l hi hl hs
      · rcases hr : r.substrate.switchRefusal? l.a l.b state with _ | e
        · have he : Substrate.setLinkState l.a l.b state r.substrate = _ :=
            Simulator.setLinkState_switched hr
          simp only [hi, hs, he, Bool.not_true, Bool.false_eq_true, if_false]
          exact Performs.switched a b state l hi hl hs hr
        · have he : Substrate.setLinkState l.a l.b state r.substrate = _ :=
            Simulator.setLinkState_refused hr
          simp only [hi, hs, he, Bool.not_true, Bool.false_eq_true, if_false]
          exact Performs.notSwitched a b state l e hi hl hs hr
  · have hi : r.topology.instantiated = false := by simpa using hi
    simp only [hi, Bool.not_false, if_true]
    exact Performs.notInstantiated a b state hi

/-- A step goes in one of the listed ways. -/
theorem performs (step : Step) (r : Rig Simulator) :
    Performs r step (perform step r).1 (perform step r).2 := by
  cases step with
  | spawn host request => exact performs_spawn host request r
  | wait d =>
    have hw : perform (.wait d) r =
        (.ok none, { r with clock := r.clock.advance d, substrate := r.substrate.elapse d }) := rfl
    rw [hw, Simulator.elapse_eq]
    exact Performs.waited d
  | setLink a b state => exact performs_setLink a b state r

/-- A step can go in one way only. -/
theorem Performs.unique {r r₁ r₂ : Rig Simulator} {step : Step}
    {result result' : Except TestbedError (Option HandleId)} (h : Performs r step result r₁)
    (h' : Performs r step result' r₂) : result = result' ∧ r₁ = r₂ := by
  cases h <;> cases h' <;> simp_all

theorem perform_eq_iff {step : Step} {result : Except TestbedError (Option HandleId)}
    {r r' : Rig Simulator} : perform step r = (result, r') ↔ Performs r step result r' := by
  constructor
  · intro h
    have hperf := performs step r
    rwa [h] at hperf
  · intro h
    exact Prod.ext_iff.mpr ((performs step r).unique h)

/-! ## Steps one after the other -/

variable {σ : Type} [Substrate σ]

/-- After a step that went well come the others. -/
theorem performAll_cons_ok {step : Step} {steps : List Step} {r r' : Rig σ}
    {started : Option HandleId} (h : perform step r = (.ok started, r')) :
    performAll (step :: steps) r =
      ((performAll steps r').1.map (started.toList ++ ·), (performAll steps r').2) := by
  rw [performAll, Action.bind_ok _ h, Action.bind_apply]
  rcases performAll steps r' with ⟨e | ids, r''⟩ <;> rfl

/-- A step that fails is the last one. -/
theorem performAll_cons_error {step : Step} {steps : List Step} {r r' : Rig σ}
    {e : TestbedError} (h : perform step r = (.error e, r')) :
    performAll (step :: steps) r = (.error e, r') := by
  rw [performAll]
  exact Action.bind_error _ h

/-- After steps that went well come the others. -/
theorem performAll_append {steps more : List Step} {r r' : Rig σ} {started : List HandleId}
    (h : performAll steps r = (.ok started, r')) : performAll (steps ++ more) r =
      ((performAll more r').1.map (started ++ ·), (performAll more r').2) := by
  induction steps generalizing r started with
  | nil =>
    cases h
    rw [List.nil_append]
    rcases performAll more r' with ⟨e | ids, r''⟩ <;> rfl
  | cons step steps ih =>
    rcases hp : perform step r with ⟨e | first, r₁⟩
    · rw [performAll_cons_error hp] at h
      cases h
    · rw [performAll_cons_ok hp] at h
      rcases hrest : performAll steps r₁ with ⟨e | rest, r₂⟩
      · rw [hrest] at h
        cases h
      · rw [hrest] at h
        cases h
        rw [List.cons_append, performAll_cons_ok hp, ih hrest]
        rcases performAll more r₂ with ⟨e | ids, r''⟩ <;> simp [Except.map]

/-- Steps of which one fails are the last ones. -/
theorem performAll_append_error {steps : List Step} (more : List Step) {r r' : Rig σ}
    {e : TestbedError} (h : performAll steps r = (.error e, r')) :
    performAll (steps ++ more) r = (.error e, r') := by
  induction steps generalizing r with
  | nil => cases h
  | cons step steps ih =>
    rcases hp : perform step r with ⟨e' | first, r₁⟩
    · rw [performAll_cons_error hp] at h
      rw [List.cons_append, performAll_cons_error hp, h]
    · rw [performAll_cons_ok hp] at h
      rcases hrest : performAll steps r₁ with ⟨e' | rest, r₂⟩
      · rw [hrest] at h
        cases h
        rw [List.cons_append, performAll_cons_ok hp, ih hrest]
        rfl
      · rw [hrest] at h
        cases h

/-- What every step keeps, a run of steps keeps, also one that is cut short. -/
theorem performAll_keeps {P : Rig σ → Prop} (hstep : ∀ step r, P r → P (perform step r).2)
    (steps : List Step) (r : Rig σ) (h : P r) : P (performAll steps r).2 := by
  induction steps generalizing r with
  | nil => exact h
  | cons step steps ih =>
    have hr := hstep step r h
    rcases hp : perform step r with ⟨e | started, r'⟩
    · rw [performAll_cons_error hp]
      rwa [hp] at hr
    · rw [performAll_cons_ok hp]
      rw [hp] at hr
      exact ih r' hr

/-! ## Runs -/

/-- A scenario that names an unknown host is refused before its first step. -/
theorem run_unknown {s : Scenario} {r : Rig σ} {e : TestbedError}
    (h : r.topology.validate s = .error e) : run s r = (.error e, r) := by
  unfold run
  rw [Action.reads_bind, h, Action.ofExcept_error_bind]

/-- Any other scenario is its steps. -/
theorem run_known {s : Scenario} {r : Rig σ} (h : r.topology.validate s = .ok ()) :
    run s r = ((performAll s.steps r).1.map fun spawned =>
      { scenario := s.name, stepsExecuted := s.steps.length, spawned, startedAt := r.clock.now
        finishedAt := (performAll s.steps r).2.clock.now }, (performAll s.steps r).2) := by
  unfold run
  rw [Action.reads_bind, h, Action.ofExcept_ok_bind, Action.reads_bind, Action.bind_apply]
  rcases performAll s.steps r with ⟨e | ids, r'⟩ <;> rfl

/-- A run does nothing, or the steps of its scenario. -/
theorem run_performs (s : Scenario) (r : Rig σ) :
    (run s r).2 = r ∨ (run s r).2 = (performAll s.steps r).2 := by
  rcases h : r.topology.validate s with e | u
  · rw [run_unknown h]
    exact Or.inl rfl
  · rw [run_known h]
    exact Or.inr rfl

/-- Switching a link does what a single step does. -/
theorem switchLink_performs (a b : HostId) (state : LinkState) (r : Rig σ) :
    (switchLink a b state r).2 = (performAll [.setLink a b state] r).2 := by
  rcases h : switchLink a b state r with ⟨e | t, r'⟩
  · have hp : perform (.setLink a b state) r = (.error e, r') := Action.bind_error _ h
    rw [performAll_cons_error hp]
  · have hp : perform (.setLink a b state) r = (.ok none, r') := Action.bind_ok _ h
    rw [performAll_cons_ok hp]
    rfl

end Testbed.Rig
