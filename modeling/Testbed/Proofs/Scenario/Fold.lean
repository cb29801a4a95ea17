-- A run is the fold of its steps up to the first that fails. What a step asks
-- of the network, when, and whether it fails can be told from the rig at the
-- start and the steps before it; so can the log, the handles, the topology and
-- the clock that a run leaves.
import Testbed.Proofs.Scenario.Standing

namespace Testbed

open Simulator (pidOf)

/-! ## What a step comes to -/

namespace Step

/-- The step starts a process. -/
def isSpawn : Step → Bool
  | spawn _ _ => true
  | _ => false

/-- The clock after a step: a wait moves it on. -/
def pass (c : Clock) : Step → Clock
  | wait d => c.advance d
  | _ => c

/-- The topology after a step that went well. -/
def record (t : Topology) : Step → Topology
  | setLink a b state => t.recordState a b state
  | _ => t

/-- Why a step fails where all its hosts exist: the failure was requested, the command is empty,
or there is no such link. -/
def failure? (t : Topology) (sim : Simulator) : Step → Option TestbedError
  | spawn host request =>
    if host ∈ sim.failingExec || request.argv.isEmpty then
      some (.spawn host request.title (.rejected (.exec host) .injected))
    else none
  | wait _ => none
  | setLink a b state =>
    match t.link? a b with
    | none => some (.linkNotFound a b)
    | some l =>
      if l.state = state then none
      else if l.pair ∈ sim.failingLinks then
        some (.substrate (.rejected (.setLink l.a l.b state) .injected))
      else none

/-- The call that the network gets from a step: one for a command, none for a wait, and one for a
link that is to change, with its hosts in the order in which it was added. -/
def call? (t : Topology) (now : Duration) (ok : Bool) : Step → Option Simulator.Call
  | spawn host request => some ⟨now, .exec host request.argv, ok⟩
  | wait _ => none
  | setLink a b state =>
    match t.link? a b with
    | none => none
    | some l => if l.state = state then none else some ⟨now, .setLink l.a l.b state, ok⟩

/-- The handle of the process that a step starts. -/
def handle? (id : HandleId) (pid : Pid) (now : Duration) : Step → Option ProcessHandle
  | spawn host request =>
    some { id, pid, host, title := request.title, argv := request.argv
           geometry := request.geometry, spawnedAt := now }
  | _ => none

end Step

namespace Rig

/-- A step that failed: what reached the network is written down as refused, and nothing else
happens. -/
structure Refused (r : Rig Simulator) (step : Step)
    (result : Except TestbedError (Option HandleId)) (r' : Rig Simulator) : Prop where
  result : ∃ e, step.failure? r.topology r.substrate = some e ∧ result = .error e
  rig : r' = { r with substrate := { r.substrate with
    calls := r.substrate.calls ++ (step.call? r.topology r.clock.now false).toList } }

/-- A step that went well. -/
structure Moved (r : Rig Simulator) (step : Step)
    (result : Except TestbedError (Option HandleId)) (r' : Rig Simulator) : Prop where
  failure : step.failure? r.topology r.substrate = none
  result : result = .ok ((step.handle? ⟨r.supervisor.nextIndex⟩ r.substrate.nextPid
    r.clock.now).map (·.id))
  topology : r'.topology = step.record r.topology
  clock : r'.clock = step.pass r.clock
  tracked : r'.supervisor.tracked = r.supervisor.tracked ++
    (step.handle? ⟨r.supervisor.nextIndex⟩ r.substrate.nextPid r.clock.now).toList
  next_index : r'.supervisor.nextIndex = r.supervisor.nextIndex + [step].countP Step.isSpawn
  next_pid : r'.substrate.nextPid = pidOf r.substrate.nextPid ([step].countP Step.isSpawn)
  failing_exec : r'.substrate.failingExec = r.substrate.failingExec
  failing_links : r'.substrate.failingLinks = r.substrate.failingLinks
  calls : r'.substrate.calls = r.substrate.calls ++
    (step.call? r.topology r.clock.now true).toList

/-- On a rig that stands, a step whose hosts exist is refused or goes well. -/
theorem Standing.outcome {r r' : Rig Simulator} {step : Step}
    {result : Except TestbedError (Option HandleId)} (h : Standing r)
    (known : ∀ x ∈ step.hosts, r.topology.hasHost x = true) (hperf : Performs r step result r') :
    Refused r step result r' ∨ Moved r step result r' := by
  have hclock := h.clock
  cases hperf with
  | started host request hr =>
    rw [h.execRefusal?_eq (known host List.mem_cons_self)] at hr
    right
    refine ⟨?_, rfl, rfl, rfl, rfl, rfl, ?_, rfl, rfl, ?_⟩
    · simp only [Step.failure?]
      split at hr
      · cases hr
      · next hno => rw [if_neg hno]
    · change r.substrate.nextPid + 1 = pidOf r.substrate.nextPid (0 + 1)
      rw [Simulator.pidOf_succ, Simulator.pidOf_zero]
    · rw [← hclock]
      rfl
  | notStarted host request e hr =>
    rw [h.execRefusal?_eq (known host List.mem_cons_self)] at hr
    split at hr
    · next hfail =>
      cases hr
      left
      refine ⟨⟨_, ?_, rfl⟩, ?_⟩
      · simp only [Step.failure?]
        rw [if_pos hfail]
      · rw [← hclock]
        rfl
    · cases hr
  | waited d =>
    right
    exact ⟨rfl, rfl, rfl, rfl, (List.append_nil _).symm, rfl, (Simulator.pidOf_zero _).symm, rfl,
      rfl, (List.append_nil _).symm⟩
  | notInstantiated a b state hi =>
    rw [h.instantiated] at hi
    cases hi
  | noLink a b state hi hl =>
    left
    refine ⟨⟨_, ?_, rfl⟩, ?_⟩
    · simp only [Step.failure?, hl]
    · simp only [Step.call?, hl, Option.toList_none, List.append_nil]
  | already a b state l hi hl hs =>
    right
    refine ⟨?_, rfl, ?_, rfl, (List.append_nil _).symm, rfl, (Simulator.pidOf_zero _).symm, rfl,
      rfl, ?_⟩
    · simp only [Step.failure?, hl, hs, if_true]
    · subst hs
      exact (Topology.recordState_same hl).symm
    · simp only [Step.call?, hl, hs, if_true, Option.toList_none, List.append_nil]
  | switched a b state l hi hl hs hr =>
    rw [h.switchRefusal?_eq hl] at hr
    split at hr
    · cases hr
    · next hno =>
      right
      refine ⟨?_, rfl, rfl, rfl, (List.append_nil _).symm, rfl, (Simulator.pidOf_zero _).symm, rfl,
        rfl, ?_⟩
      · simp only [Step.failure?, hl, hs, hno, if_false]
      · simp only [Step.call?, hl, hs, if_false, ← hclock]
        rfl
  | notSwitched a b state l e hi hl hs hr =>
    rw [h.switchRefusal?_eq hl] at hr
    split at hr
    · next hfail =>
      cases hr
      left
      refine ⟨⟨_, ?_, rfl⟩, ?_⟩
      · simp only [Step.failure?, hl, hs, hfail, if_false, if_true]
      · simp only [Step.call?, hl, hs, if_false, ← hclock]
        rfl
    · cases hr

/-! ## What a list of steps comes to -/

/-- The topology once the first `i` steps have gone well. -/
def topologyAt (r : Rig Simulator) (steps : List Step) (i : Nat) : Topology :=
  (steps.take i).foldl Step.record r.topology

/-- The clock before step `i`: advanced by just the waits before it. -/
def clockAt (r : Rig Simulator) (steps : List Step) (i : Nat) : Clock :=
  ((steps.take i).filterMap Step.wait?).foldl Clock.advance r.clock

/-- The number of commands before step `i`. -/
def spawnsBefore (steps : List Step) (i : Nat) : Nat := (steps.take i).countP Step.isSpawn

/-- Why step `i` fails, if the steps before it go well. -/
def failureAt (r : Rig Simulator) (steps : List Step) (i : Nat) : Option TestbedError :=
  (steps[i]?).bind (Step.failure? (r.topologyAt steps i) r.substrate)

/-- The call that step `i` makes where the first `k` steps go well. -/
def callAt (r : Rig Simulator) (steps : List Step) (k i : Nat) : Option Simulator.Call :=
  (steps[i]?).bind (Step.call? (r.topologyAt steps i) (r.clockAt steps i).now (decide (i < k)))

/-- The handle that step `i` makes. Handles and processes are numbered by the commands before
it. -/
def handleAt (r : Rig Simulator) (steps : List Step) (i : Nat) : Option ProcessHandle :=
  (steps[i]?).bind (Step.handle? ⟨r.supervisor.nextIndex + spawnsBefore steps i⟩
    (pidOf r.substrate.nextPid (spawnsBefore steps i)) (r.clockAt steps i).now)

/-- The handles that the first `k` steps make. -/
def handlesOf (r : Rig Simulator) (steps : List Step) (k : Nat) : List ProcessHandle :=
  (List.range k).filterMap (r.handleAt steps)

/-- Of some steps just the first `k` went well, and the next one, if there is one, failed. -/
structure Played (r : Rig Simulator) (steps : List Step) (k : Nat) (r' : Rig Simulator) : Prop where
  within : k ≤ steps.length
  well : ∀ i < k, r.failureAt steps i = none
  stopped : k < steps.length → (r.failureAt steps k).isSome = true
  fold : r' = (steps.take (k + 1)).foldl (fun r step => (perform step r).2) r
  topology : r'.topology = r.topologyAt steps k
  clock : r'.clock = r.clockAt steps k
  shared : r'.substrate.clock = r'.clock
  tracked : r'.supervisor.tracked = r.supervisor.tracked ++ r.handlesOf steps k
  next_index : r'.supervisor.nextIndex = r.supervisor.nextIndex + spawnsBefore steps k
  calls : r'.substrate.calls =
    r.substrate.calls ++ (List.range (k + 1)).filterMap (r.callAt steps k)

theorem filterMap_range_succ {α : Type} (f : Nat → Option α) (n : Nat) :
    (List.range (n + 1)).filterMap f =
      (f 0).toList ++ (List.range n).filterMap fun i => f (i + 1) := by
  rw [List.range_succ_eq_map, List.filterMap_cons, List.filterMap_map]
  cases f 0 <;> rfl

theorem spawnsBefore_succ (step : Step) (steps : List Step) (i : Nat) :
    spawnsBefore (step :: steps) (i + 1) =
      [step].countP Step.isSpawn + spawnsBefore steps i := by
  unfold spawnsBefore
  rw [List.take_succ_cons, ← List.countP_append]
  rfl

namespace Moved

variable {r r' : Rig Simulator} {step : Step} {result : Except TestbedError (Option HandleId)}

/-! ## From one step to the next -/

theorem topologyAt_succ (h : Moved r step result r') (steps : List Step) (i : Nat) :
    r.topologyAt (step :: steps) (i + 1) = r'.topologyAt steps i := by
  unfold topologyAt
  rw [List.take_succ_cons, List.foldl_cons, h.topology]

theorem clockAt_succ (h : Moved r step result r') (steps : List Step) (i : Nat) :
    r.clockAt (step :: steps) (i + 1) = r'.clockAt steps i := by
  unfold clockAt
  rw [List.take_succ_cons, h.clock]
  cases step <;> rfl

theorem failureAt_succ (h : Moved r step result r') (steps : List Step) (i : Nat) :
    r.failureAt (step :: steps) (i + 1) = r'.failureAt steps i := by
  have hfail : ∀ t, Step.failure? t r.substrate = Step.failure? t r'.substrate := fun t => by
    funext x
    cases x <;> simp only [Step.failure?, h.failing_exec, h.failing_links]
  unfold failureAt
  rw [h.topologyAt_succ, hfail]
  rfl

theorem callAt_succ (h : Moved r step result r') (steps : List Step) (k i : Nat) :
    r.callAt (step :: steps) (k + 1) (i + 1) = r'.callAt steps k i := by
  unfold callAt
  rw [h.topologyAt_succ, h.clockAt_succ]
  simp only [Nat.add_lt_add_iff_right]
  rfl

theorem handleAt_succ (h : Moved r step result r') (steps : List Step) (i : Nat) :
    r.handleAt (step :: steps) (i + 1) = r'.handleAt steps i := by
  unfold handleAt
  rw [h.clockAt_succ, h.next_index, h.next_pid, spawnsBefore_succ, Nat.add_assoc,
    Simulator.pidOf_pidOf]
  rfl

theorem handlesOf_succ (h : Moved r step result r') (steps : List Step) (k : Nat) :
    r.handlesOf (step :: steps) (k + 1) =
      (step.handle? ⟨r.supervisor.nextIndex⟩ r.substrate.nextPid r.clock.now).toList ++
        r'.handlesOf steps k := by
  have hzero : r.handleAt (step :: steps) 0 =
      step.handle? ⟨r.supervisor.nextIndex⟩ r.substrate.nextPid r.clock.now := by
    change Step.handle? _ (pidOf r.substrate.nextPid 0) _ step = _
    rw [Simulator.pidOf_zero]
    rfl
  unfold handlesOf
  rw [filterMap_range_succ, hzero]
  simp only [h.handleAt_succ]

theorem calls_succ (h : Moved r step result r') (steps : List Step) (k : Nat) :
    (List.range (k + 2)).filterMap (r.callAt (step :: steps) (k + 1)) =
      (step.call? r.topology r.clock.now true).toList ++
        (List.range (k + 1)).filterMap (r'.callAt steps k) := by
  have hzero : r.callAt (step :: steps) (k + 1) 0 = step.call? r.topology r.clock.now true := by
    change step.call? r.topology r.clock.now (decide (0 < k + 1)) = _
    rw [decide_eq_true (Nat.succ_pos k)]
  rw [filterMap_range_succ, hzero]
  simp only [h.callAt_succ]

theorem hasHost (h : Moved r step result r') (id : HostId) :
    r'.topology.hasHost id = r.topology.hasHost id := by
  rw [h.topology]
  cases step with
  | setLink a b state => exact r.topology.hasHost_recordState a b state id
  | _ => rfl

/-- A step that goes well comes before what the others come to. -/
theorem played (h : Moved r step result r') (hp : perform step r = (result, r'))
    {steps : List Step} {k : Nat} {r'' : Rig Simulator} (hplayed : Played r' steps k r'') :
    Played r (step :: steps) (k + 1) r'' := by
  refine ⟨Nat.succ_le_succ hplayed.within, ?_, ?_, ?_, ?_, ?_, hplayed.shared, ?_, ?_, ?_⟩
  · intro i hi
    cases i with
    | zero => exact h.failure
    | succ i =>
      rw [h.failureAt_succ]
      exact hplayed.well i (Nat.lt_of_succ_lt_succ hi)
  · intro hk
    rw [h.failureAt_succ]
    exact hplayed.stopped (Nat.lt_of_succ_lt_succ hk)
  · rw [List.take_succ_cons, List.foldl_cons, hp]
    exact hplayed.fold
  · rw [h.topologyAt_succ]
    exact hplayed.topology
  · rw [h.clockAt_succ]
    exact hplayed.clock
  · rw [hplayed.tracked, h.tracked, h.handlesOf_succ, List.append_assoc]
  · rw [hplayed.next_index, h.next_index, spawnsBefore_succ, Nat.add_assoc]
  · rw [hplayed.calls, h.calls, h.calls_succ, List.append_assoc]

end Moved

/-- A step that fails is the last one. -/
theorem Refused.played {r r' : Rig Simulator} {step : Step}
    {result : Except TestbedError (Option HandleId)} (h : Refused r step result r')
    (hr : Standing r) (hp : perform step r = (result, r')) (steps : List Step) :
    Played r (step :: steps) 0 r' := by
  obtain ⟨e, he, _⟩ := h.result
  have hcalls : (List.range 1).filterMap (r.callAt (step :: steps) 0) =
      (step.call? r.topology r.clock.now false).toList := by
    rw [filterMap_range_succ]
    exact List.append_nil _
  refine ⟨Nat.zero_le _, fun i hi => absurd hi (Nat.not_lt_zero i), fun _ => ?_, ?_, ?_, ?_, ?_, ?_,
    ?_, ?_⟩
  · change (step.failure? r.topology r.substrate).isSome = true
    rw [he]
    rfl
  · change r' = (perform step r).2
    rw [hp]
  · rw [h.rig]
    rfl
  · rw [h.rig]
    rfl
  · rw [h.rig]
    exact hr.clock
  · rw [h.rig]
    exact (List.append_nil _).symm
  · rw [h.rig]
    rfl
  · rw [h.rig, hcalls]

theorem played_nil {r : Rig Simulator} (hr : Standing r) : Played r [] 0 r :=
  ⟨Nat.le_refl 0, fun i hi => absurd hi (Nat.not_lt_zero i), fun h => absurd h (Nat.lt_irrefl 0),
    rfl, rfl, rfl, hr.clock, (List.append_nil _).symm, rfl, (List.append_nil _).symm⟩

/-- The answer of steps of which the first `k` go well. -/
def answerOf (r : Rig Simulator) (steps : List Step) (k : Nat) :
    Except TestbedError (List HandleId) :=
  match r.failureAt steps k with
  | some e => .error e
  | none => .ok ((r.handlesOf steps k).map (·.id))

theorem Moved.answerOf {r r' : Rig Simulator} {step : Step}
    {result : Except TestbedError (Option HandleId)} (h : Moved r step result r')
    (steps : List Step) (k : Nat) : r.answerOf (step :: steps) (k + 1) =
      (r'.answerOf steps k).map (((step.handle? ⟨r.supervisor.nextIndex⟩ r.substrate.nextPid
        r.clock.now).map (·.id)).toList ++ ·) := by
  unfold Rig.answerOf
  rw [h.failureAt_succ, h.handlesOf_succ]
  cases r'.failureAt steps k with
  | some e => rfl
  | none =>
    rw [List.map_append]
    cases step <;> rfl

/-- Steps whose hosts exist are played up to the first that fails. -/
theorem Standing.played {r : Rig Simulator} (h : Standing r) (steps : List Step)
    (known : ∀ x ∈ steps.flatMap Step.hosts, r.topology.hasHost x = true) :
    ∃ k, Played r steps k (performAll steps r).2 ∧
      (performAll steps r).1 = r.answerOf steps k := by
  induction steps generalizing r with
  | nil => exact ⟨0, played_nil h, rfl⟩
  | cons step steps ih =>
    rw [List.flatMap_cons] at known
    have hperf := Rig.performs step r
    rcases hp : perform step r with ⟨result, r'⟩
    rw [hp] at hperf
    rcases h.outcome (fun x hx => known x (List.mem_append_left _ hx)) hperf with href | hmov
    · obtain ⟨e, he, rfl⟩ := href.result
      rw [performAll_cons_error hp]
      refine ⟨0, href.played h hp steps, ?_⟩
      have hfail : r.failureAt (step :: steps) 0 = some e := he
      rw [Rig.answerOf, hfail]
    · obtain ⟨k, hplayed, hanswer⟩ := ih (h.performs hperf) fun x hx => by
        rw [hmov.hasHost]
        exact known x (List.mem_append_right _ hx)
      have hok := hmov.result
      subst hok
      rw [performAll_cons_ok hp]
      refine ⟨k + 1, hmov.played hp hplayed, ?_⟩
      rw [hmov.answerOf, hanswer]

/-! ## A run is the fold of its steps -/

theorem validate_unknown {t : Topology} {s : Scenario} {known rest : List HostId} {host : HostId}
    (hs : s.hosts = known ++ host :: rest) (hknown : ∀ h ∈ known, t.hasHost h = true)
    (hhost : t.hasHost host = false) : t.validate s = .error (.unknownHost host) := by
  have hnone : known.find? (!t.hasHost ·) = none := by
    rw [List.find?_eq_none]
    intro h hmem
    simp [hknown h hmem]
  unfold Topology.validate
  rw [hs, List.find?_append, hnone, Option.none_or, List.find?_cons_of_pos (by simp [hhost])]

theorem validate_known {t : Topology} {s : Scenario} (hknown : ∀ h ∈ s.hosts, t.hasHost h = true) :
    t.validate s = .ok () := by
  have hnone : s.hosts.find? (!t.hasHost ·) = none := by
    rw [List.find?_eq_none]
    intro h hmem
    simp [hknown h hmem]
  unfold Topology.validate
  rw [hnone]

/-- A scenario that names an unknown host is refused with the first such host and changes nothing.
Any other scenario is played up to the first step that fails, whose error is the answer, and not
a step further. -/
theorem run_is_the_fold_of_its_steps {r : Rig Simulator} (live : Live r) (s : Scenario) :
    (∀ known host rest, s.hosts = known ++ host :: rest →
      (∀ h ∈ known, r.topology.hasHost h = true) → r.topology.hasHost host = false →
      run s r = (.error (.unknownHost host), r)) ∧
    ((∀ h ∈ s.hosts, r.topology.hasHost h = true) → ∃ k r', Played r s.steps k r' ∧
      run s r = (match r.failureAt s.steps k with
        | some e => .error e
        | none => .ok
          { scenario := s.name, stepsExecuted := s.steps.length
            spawned := (r.handlesOf s.steps k).map (·.id)
            startedAt := r.clock.now, finishedAt := r'.clock.now }, r')) := by
  constructor
  · intro known host rest hs hknown hhost
    exact run_unknown (validate_unknown hs hknown hhost)
  · intro hknown
    obtain ⟨k, hplayed, hanswer⟩ := live.standing.played s.steps hknown
    refine ⟨k, (performAll s.steps r).2, hplayed, ?_⟩
    rw [run_known (validate_known hknown), hanswer]
    unfold answerOf
    cases r.failureAt s.steps k <;> rfl

/-- The steps that go well end at the first that fails. -/
theorem Played.stops_at {r r' : Rig Simulator} {steps : List Step} {k n : Nat}
    (h : Played r steps k r') (hwell : ∀ i < n, r.failureAt steps i = none)
    (hfail : (r.failureAt steps n).isSome = true) : k = n := by
  rcases Nat.lt_trichotomy k n with hlt | heq | hgt
  · have hn : n < steps.length := by
      rcases Nat.lt_or_ge n steps.length with hn | hn
      · exact hn
      · rw [failureAt, List.getElem?_eq_none hn] at hfail
        cases hfail
    have hsome := h.stopped (Nat.lt_trans hlt hn)
    rw [hwell k hlt] at hsome
    cases hsome
  · exact heq
  · rw [h.well n hgt] at hfail
    cases hfail

/-- On two hosts, of which one starts nothing, a run stops at the command for that host. -/
theorem run_is_the_fold_of_its_steps_on_two_hosts :
    let r : Rig Simulator :=
      { topology := Topology.twoHosts.raised
        substrate := (Topology.twoHosts.network {}).failExecOn ⟨"B"⟩ }
    let steps : List Step := [.spawn ⟨"A"⟩ { argv := ["server"], title := "" },
      .wait (.ofSeconds 1), .setLink ⟨"B"⟩ ⟨"A"⟩ .down, .setLink ⟨"A"⟩ ⟨"B"⟩ .down,
      .spawn ⟨"B"⟩ { argv := ["client", "A"], title := "" }, .wait (.ofSeconds 1)]
    run { name := "lost", steps := [.setLink ⟨"A"⟩ ⟨"C"⟩ .up, .wait (.ofSeconds 1)] } r =
      (.error (.unknownHost ⟨"C"⟩), r) ∧
    ∃ r', Played r steps 4 r' ∧ run { name := "two", steps } r = (.error
      (.spawn ⟨"B"⟩ "" (.rejected (.exec ⟨"B"⟩) .injected)), r') := by
  intro r steps
  have hbuilt : Topology.instantiate (Topology.twoHosts, ({} : Simulator)) =
      (.ok (), Topology.twoHosts.raised, Topology.twoHosts.network {}) := rfl
  have live : Live r :=
    Live.meddled (.failExecOn ⟨"B"⟩) (Live.built Topology.built_twoHosts rfl hbuilt {})
  refine ⟨(run_is_the_fold_of_its_steps live _).1 [⟨"A"⟩] ⟨"C"⟩ [] rfl (by decide) (by decide), ?_⟩
  obtain ⟨k, r', hplayed, hrun⟩ := (run_is_the_fold_of_its_steps live { name := "two", steps }).2
    (by decide +kernel)
  obtain rfl : k = 4 := hplayed.stops_at (by decide +kernel) (by decide +kernel)
  exact ⟨r', hplayed, hrun⟩

end Rig

end Testbed
