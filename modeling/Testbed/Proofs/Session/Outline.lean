-- What a run hangs on. The outline of a scenario has no texts in it, no lengths
-- of time, and of a command only whether it is empty; the outline of a rig has
-- none of that either. A step on the outline of a rig does just what the step
-- does, seen in outline, so scenarios with the same outline come to the same.
import Testbed.Proofs.Session.History

namespace Testbed

/-! ## Outlines -/

/-- Of a command there is left whether it is empty. -/
def outlineOf (argv : List String) : List String := if argv.isEmpty then [] else [""]

def ExecRequest.outline (request : ExecRequest) : ExecRequest :=
  { argv := outlineOf request.argv, title := "" }

/-- A step without its title, its window, the words of its command and the length of its wait. -/
def Step.outline : Step → Step
  | spawn host request => spawn host request.outline
  | wait _ => wait .zero
  | setLink a b state => setLink a b state

def Scenario.outline (s : Scenario) : Scenario := { name := "", steps := s.steps.map Step.outline }

/-- An error without the title of the command that has failed. -/
def TestbedError.outline : TestbedError → TestbedError
  | spawn host _ cause => spawn host "" cause
  | e => e

def ProcessHandle.outline (h : ProcessHandle) : ProcessHandle :=
  { h with title := "", argv := outlineOf h.argv, geometry := none, spawnedAt := .zero }

def Supervisor.outline (s : Supervisor) : Supervisor :=
  { s with tracked := s.tracked.map ProcessHandle.outline }

namespace Simulator

def Op.outline : Op → Op
  | exec host argv => exec host (outlineOf argv)
  | op => op

/-- A call without its time and without the words of its command. -/
def Call.outline (c : Call) : Call := { c with time := .zero, op := c.op.outline }

def Process.outline (p : Process) : Process := { p with argv := outlineOf p.argv, title := "" }

def outline (s : Simulator) : Simulator :=
  { s with
    clock := {}
    processes := s.processes.map Process.outline
    calls := s.calls.map Call.outline }

end Simulator

def Rig.outline (r : Rig Simulator) : Rig Simulator where
  topology := r.topology
  substrate := r.substrate.outline
  supervisor := r.supervisor.outline

/-! ## Calls in outline -/

theorem isEmpty_outlineOf (argv : List String) : (outlineOf argv).isEmpty = argv.isEmpty := by
  cases argv <;> rfl

theorem Supervisor.outline_track (s : Supervisor) (pid : Pid) (host : HostId)
    (request : ExecRequest) (now : Duration) : (s.track pid host request now).2.outline =
      (s.outline.track pid host request.outline .zero).2 := by
  simp [track, outline, ProcessHandle.outline, ExecRequest.outline]

namespace Simulator

theorem outline_record (s : Simulator) (op : Op) (ok : Bool) :
    (s.record op ok).outline = s.outline.record op.outline ok := by
  simp [record, outline, Call.outline, Clock.now, Duration.zero]

theorem outline_launch (s : Simulator) (host : HostId) (request : ExecRequest) :
    (s.launch host request).outline = s.outline.launch host request.outline := by
  unfold launch
  rw [outline_record]
  simp only [outline, Table.map_insert]
  rfl

theorem outline_switch (s : Simulator) (a b : HostId) (state : LinkState) :
    (s.switch a b state).outline = s.outline.switch a b state := by
  unfold switch
  rw [outline_record]
  rfl

theorem execRefusal?_outline (s : Simulator) (host : HostId) (request : ExecRequest) :
    s.outline.execRefusal? host request.outline = s.execRefusal? host request := by
  simp only [execRefusal?, ExecRequest.outline, isEmpty_outlineOf]
  rfl

theorem alivePids_outline (s : Simulator) : s.outline.alivePids = s.alivePids := by
  simp only [alivePids, outline, Table.map, List.filterMap_map]
  rfl

end Simulator

/-! ## Steps in outline -/

namespace Rig

/-- A step in outline does what the step does. -/
theorem Performs.outline {r r' : Rig Simulator} {step : Step}
    {result : Except TestbedError (Option HandleId)} (h : Performs r step result r') :
    Performs r.outline step.outline (result.mapError TestbedError.outline) r'.outline := by
  cases h with
  | started host request h =>
    have h' := (r.substrate.execRefusal?_outline host request).trans h
    simp only [Rig.outline, Supervisor.outline_track, Simulator.outline_launch]
    exact Performs.started (r := r.outline) host request.outline h'
  | notStarted host request e h =>
    have h' := (r.substrate.execRefusal?_outline host request).trans h
    simp only [Rig.outline, Simulator.outline_record]
    exact Performs.notStarted (r := r.outline) host request.outline e h'
  | waited d =>
    -- In outline no time passes, so the clocks stand still.
    have hclock : ({} : Clock).advance .zero = {} := rfl
    have hwaited := Performs.waited (r := r.outline) .zero
    simp only [Rig.outline, Simulator.outline, hclock, ite_self] at hwaited
    exact hwaited
  | notInstantiated a b state h => exact .notInstantiated (r := r.outline) a b state h
  | noLink a b state h hl => exact .noLink (r := r.outline) a b state h hl
  | already a b state l h hl hs => exact .already (r := r.outline) a b state l h hl hs
  | switched a b state l h hl hs hr =>
    simp only [Rig.outline, Simulator.outline_switch]
    exact .switched (r := r.outline) a b state l h hl hs hr
  | notSwitched a b state l e h hl hs hr =>
    simp only [Rig.outline, Simulator.outline_record]
    exact .notSwitched (r := r.outline) a b state l e h hl hs hr

theorem perform_outline (step : Step) (r : Rig Simulator) : perform step.outline r.outline =
    ((perform step r).1.mapError TestbedError.outline, (perform step r).2.outline) :=
  perform_eq_iff.mpr (performs step r).outline

/-- So do steps in a row. -/
theorem performAll_outline (steps : List Step) (r : Rig Simulator) :
    performAll (steps.map Step.outline) r.outline =
      ((performAll steps r).1.mapError TestbedError.outline, (performAll steps r).2.outline) := by
  induction steps generalizing r with
  | nil => rfl
  | cons step steps ih =>
    have hstep := perform_outline step r
    rcases hp : perform step r with ⟨e | started, r'⟩
    · rw [hp] at hstep
      rw [List.map_cons, performAll_cons_error hstep, performAll_cons_error hp]
      rfl
    · rw [hp] at hstep
      rw [List.map_cons, performAll_cons_ok hstep, performAll_cons_ok hp, ih]
      rcases performAll steps r' with ⟨e | rest, r''⟩ <;> rfl

/-! ## The step that fails -/

/-- The number of steps that go well before one fails. -/
def stepsDone {σ : Type} [Substrate σ] : List Step → Rig σ → Nat
  | [], _ => 0
  | step :: steps, r =>
    match perform step r with
    | (.ok _, r') => stepsDone steps r' + 1
    | (.error _, _) => 0

/-- The first `k` steps go well, and the one after them fails. -/
def FailsAt {σ : Type} [Substrate σ] (steps : List Step) (r : Rig σ) (k : Nat)
    (e : TestbedError) : Prop :=
  ∃ started r₁ step r₂, performAll (steps.take k) r = (.ok started, r₁) ∧
    steps[k]? = some step ∧ perform step r₁ = (.error e, r₂)

/-- Steps that fail do so at the first one that does not go well. -/
theorem failsAt_stepsDone {σ : Type} [Substrate σ] {steps : List Step} {r r' : Rig σ}
    {e : TestbedError} (h : performAll steps r = (.error e, r')) :
    FailsAt steps r (stepsDone steps r) e := by
  induction steps generalizing r with
  | nil => cases h
  | cons step steps ih =>
    rcases hp : perform step r with ⟨e' | first, r₁⟩
    · rw [performAll_cons_error hp] at h
      cases h
      rw [stepsDone, hp]
      exact ⟨[], r, step, r', rfl, rfl, hp⟩
    · rw [performAll_cons_ok hp] at h
      rcases hrest : performAll steps r₁ with ⟨e' | rest, r₂⟩
      · rw [hrest] at h
        cases h
        obtain ⟨started, r₃, last, r₄, hbefore, hlast, hfail⟩ := ih hrest
        rw [stepsDone, hp]
        refine ⟨first.toList ++ started, r₃, last, r₄, ?_, hlast, hfail⟩
        rw [List.take_succ_cons, performAll_cons_ok hp, hbefore]
        rfl
      · rw [hrest] at h
        cases h

theorem stepsDone_outline (steps : List Step) (r : Rig Simulator) :
    stepsDone (steps.map Step.outline) r.outline = stepsDone steps r := by
  induction steps generalizing r with
  | nil => rfl
  | cons step steps ih =>
    rw [List.map_cons, stepsDone, stepsDone, perform_outline]
    rcases perform step r with ⟨e | started, r'⟩
    · rfl
    · exact congrArg (· + 1) (ih r')

end Rig

/-! ## Scenarios with the same outline -/

theorem Step.hosts_outline (step : Step) : step.outline.hosts = step.hosts := by
  cases step <;> rfl

theorem Scenario.hosts_outline (s : Scenario) : s.outline.hosts = s.hosts := by
  simp [hosts, outline, List.flatMap_map, Step.hosts_outline]

theorem Topology.validate_outline (t : Topology) (s : Scenario) :
    t.validate s.outline = t.validate s := by
  unfold Topology.validate
  rw [Scenario.hosts_outline]

namespace Rig

/-- Steps with the same outlines go equally far and come to the same in outline. -/
theorem performAll_alike {steps steps' : List Step}
    (same : steps.map Step.outline = steps'.map Step.outline) (r : Rig Simulator) :
    (performAll steps r).1.mapError TestbedError.outline =
      (performAll steps' r).1.mapError TestbedError.outline ∧
    (performAll steps r).2.outline = (performAll steps' r).2.outline ∧
    stepsDone steps r = stepsDone steps' r := by
  have h := performAll_outline steps r
  rw [same, performAll_outline steps' r] at h
  have hdone := stepsDone_outline steps r
  rw [same, stepsDone_outline] at hdone
  exact ⟨(congrArg (·.1) h).symm, (congrArg (·.2) h).symm, hdone.symm⟩

/-- What is seen of a rig in outline. -/
theorem seen_of_outline {r r' : Rig Simulator} (h : r.outline = r'.outline) :
    r.supervisor.tracked.map (fun h => (h.id, h.pid, h.host)) =
      r'.supervisor.tracked.map (fun h => (h.id, h.pid, h.host)) ∧
    r.substrate.calls.map Simulator.Call.outline = r'.substrate.calls.map Simulator.Call.outline ∧
    r.topology = r'.topology ∧ r.substrate.links = r'.substrate.links ∧
    r.substrate.alivePids = r'.substrate.alivePids := by
  refine ⟨?_, congrArg (·.substrate.calls) h, congrArg (·.topology) h,
    congrArg (·.substrate.links) h, ?_⟩
  · have htracked :=
      congrArg (fun r => r.supervisor.tracked.map fun h => (h.id, h.pid, h.host)) h
    simpa [Rig.outline, Supervisor.outline, ProcessHandle.outline, Function.comp_def]
      using htracked
  · rw [← r.substrate.alivePids_outline, ← r'.substrate.alivePids_outline]
    exact congrArg (·.substrate.alivePids) h

end Rig

namespace Session

/-- How the runs of two scenarios in a session end alike: both find it shut down; both are refused
before the first step, for the same reason; both fail at the same step, with the same error up to
a title; or both go well and start their processes under the same numbers. -/
inductive EndAlike (s : Session Simulator) (scenario scenario' : Scenario) :
    Except TestbedError RunReport → Except TestbedError RunReport → Prop
  | closed (h : s.shutDown = true) :
      EndAlike s scenario scenario' (.error .sessionClosed) (.error .sessionClosed)
  | refused (e : TestbedError) (h : s.rig.topology.validate scenario = .error e)
      (h' : s.rig.topology.validate scenario' = .error e) :
      EndAlike s scenario scenario' (.error e) (.error e)
  | failed (k : Nat) {e e' : TestbedError} (same : e.outline = e'.outline)
      (h : Rig.FailsAt scenario.steps s.rig k e) (h' : Rig.FailsAt scenario'.steps s.rig k e') :
      EndAlike s scenario scenario' (.error e) (.error e')
  | done {report report' : RunReport} (steps : report.stepsExecuted = report'.stepsExecuted)
      (spawned : report.spawned = report'.spawned) :
      EndAlike s scenario scenario' (.ok report) (.ok report')

theorem endAlike_of_known {scenario scenario' : Scenario}
    (same : scenario.outline = scenario'.outline) {s : Session Simulator} {u u' : Unit}
    (hv : s.rig.topology.validate scenario = .ok u)
    (hv' : s.rig.topology.validate scenario' = .ok u') :
    EndAlike s scenario scenario' (Rig.run scenario s.rig).1 (Rig.run scenario' s.rig).1 := by
  have hsteps : scenario.steps.map Step.outline = scenario'.steps.map Step.outline :=
    congrArg Scenario.steps same
  obtain ⟨hresult, -, hdone⟩ := Rig.performAll_alike hsteps s.rig
  rw [Rig.run_known hv, Rig.run_known hv']
  rcases hp : Rig.performAll scenario.steps s.rig with ⟨e | ids, r⟩ <;>
    rcases hp' : Rig.performAll scenario'.steps s.rig with ⟨e' | ids', r'⟩ <;>
    rw [hp, hp'] at hresult
  · have hfail := Rig.failsAt_stepsDone hp'
    rw [← hdone] at hfail
    exact .failed _ (Except.error.inj hresult) (Rig.failsAt_stepsDone hp) hfail
  · cases hresult
  · cases hresult
  · have hlength : scenario.steps.length = scenario'.steps.length := by
      simpa using congrArg List.length hsteps
    exact .done hlength (Except.ok.inj hresult)

/-- Scenarios with the same outline come to the same from any state. Their runs end alike. They
leave the same numbers tracked, the same calls but for times and words, the same states of links,
in the topology and in the network, and the same processes alive. -/
theorem only_the_outline_matters {scenario scenario' : Scenario}
    (same : scenario.outline = scenario'.outline) (s : Session Simulator) :
    let x := runScenario scenario s
    let y := runScenario scenario' s
    EndAlike s scenario scenario' x.1 y.1 ∧
    x.2.rig.supervisor.tracked.map (fun h => (h.id, h.pid, h.host)) =
      y.2.rig.supervisor.tracked.map (fun h => (h.id, h.pid, h.host)) ∧
    x.2.rig.substrate.calls.map Simulator.Call.outline =
      y.2.rig.substrate.calls.map Simulator.Call.outline ∧
    x.2.rig.topology = y.2.rig.topology ∧
    x.2.rig.substrate.links = y.2.rig.substrate.links ∧
    x.2.rig.substrate.alivePids = y.2.rig.substrate.alivePids := by
  intro x y
  cases hs : s.shutDown with
  | true =>
    have hx : x = _ := runScenario_closed scenario hs
    have hy : y = _ := runScenario_closed scenario' hs
    rw [hx, hy]
    exact ⟨.closed hs, rfl, rfl, rfl, rfl, rfl⟩
  | false =>
    have hx : x = _ := runScenario_open scenario hs
    have hy : y = _ := runScenario_open scenario' hs
    rw [hx, hy]
    have hvalid := s.rig.topology.validate_outline scenario
    rw [same, Topology.validate_outline] at hvalid
    rcases hv : s.rig.topology.validate scenario with e | u
    · have hv' := hvalid.trans hv
      rw [Rig.run_unknown hv, Rig.run_unknown hv']
      exact ⟨.refused e hv hv', rfl, rfl, rfl, rfl, rfl⟩
    · have hsteps := congrArg Scenario.steps same
      have hrig := (Rig.performAll_alike hsteps s.rig).2.1
      refine ⟨endAlike_of_known same hv (hvalid.trans hv), ?_⟩
      rw [Rig.run_known hv, Rig.run_known (hvalid.trans hv)]
      exact Rig.seen_of_outline hrig

/-- Two scenarios fail at their last steps, with titles, words and waits of their own. -/
theorem only_the_outline_matters_up_to_a_failure :
    let s := onTwoHosts.mapSubstrate (·.failExecOn ⟨"B"⟩)
    let scenario : Scenario := { name := "one", steps := [
      .spawn ⟨"A"⟩ { argv := ["server"], title := "Server" }, .wait (.ofSeconds 1),
      .setLink ⟨"A"⟩ ⟨"B"⟩ .down, .spawn ⟨"B"⟩ { argv := ["client", "A"], title := "Client" }] }
    let scenario' : Scenario := { name := "two", description := "at once", steps := [
      .spawn ⟨"A"⟩ { argv := ["sleep", "", "9"], title := "", geometry := some "80x24" },
      .wait .zero, .setLink ⟨"A"⟩ ⟨"B"⟩ .down, .spawn ⟨"B"⟩ { argv := ["true"], title := "t" }] }
    let x := runScenario scenario s
    let y := runScenario scenario' s
    scenario.outline = scenario'.outline ∧ EndAlike s scenario scenario' x.1 y.1 ∧
    x.2.rig.substrate.calls.map Simulator.Call.outline =
      y.2.rig.substrate.calls.map Simulator.Call.outline ∧
    x.2.rig.substrate.alivePids = y.2.rig.substrate.alivePids := by
  intro s scenario scenario' x y
  have same : scenario.outline = scenario'.outline := by decide
  obtain ⟨hends, -, hcalls, -, -, halive⟩ := only_the_outline_matters same s
  exact ⟨same, hends, hcalls, halive⟩

end Session

end Testbed
