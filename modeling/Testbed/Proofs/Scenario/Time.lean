-- Time in a run. Every call is stamped with the start of the run and the waits
-- before its step, so the log is in order and every wait is honoured, as long
-- as all the waits fit into the count of the clock. Where they do not, the
-- count starts again at zero and time runs backwards.
import Testbed.Proofs.Scenario.Standing

namespace Testbed

/-! ## Waiting -/

/-- The nanoseconds that some steps wait, all together. -/
def Step.waited : List Step → Nat
  | [] => 0
  | step :: steps => (step.wait?.elim 0 (·.nanos)) + waited steps

theorem Step.waited_append (steps rest : List Step) :
    waited (steps ++ rest) = waited steps + waited rest := by
  induction steps with
  | nil => simp [waited]
  | cons step steps ih => simp only [List.cons_append, waited, ih, Nat.add_assoc]

theorem Step.waited_cons (step : Step) (steps : List Step) :
    waited (step :: steps) = waited [step] + waited steps :=
  waited_append [step] steps

theorem Step.waited_take_le (steps : List Step) {i j : Nat} (hij : i ≤ j) :
    waited (steps.take i) ≤ waited (steps.take j) := by
  have hsplit : steps.take i ++ (steps.take j).drop i = steps.take j := by
    have htake : (steps.take j).take i = steps.take i := by rw [List.take_take, Nat.min_eq_left hij]
    rw [← htake, List.take_append_drop]
  rw [← hsplit, waited_append]
  exact Nat.le_add_right _ _

/-- What a step waits is between the waits before it and those before any later step. -/
theorem Step.waited_take_split (steps : List Step) {i j : Nat} {step : Step} (hij : i < j)
    (hi : steps[i]? = some step) :
    waited (steps.take j) =
      waited (steps.take i) + waited [step] + waited ((steps.take j).drop (i + 1)) := by
  have htake : (steps.take j).take (i + 1) = steps.take i ++ [step] := by
    rw [List.take_take, Nat.min_eq_left hij, List.take_add_one, hi]
    rfl
  calc waited (steps.take j)
      = waited ((steps.take j).take (i + 1) ++ (steps.take j).drop (i + 1)) := by
        rw [List.take_append_drop]
    _ = _ := by rw [waited_append, htake, waited_append]

/-- A wait that the count has room for moves the clock by just its length. -/
theorem Clock.now_advance_of_fits {c : Clock} {d : Duration}
    (h : c.now.nanos + d.nanos < UInt64.size) :
    (c.advance d).now.nanos = c.now.nanos + d.nanos := by
  rw [now_advance]
  have hmin : min d.nanos (UInt64.size - 1) = d.nanos := by omega
  rw [hmin, Nat.mod_eq_of_lt h]

namespace Rig

/-- The rig and the simulator go by one clock. -/
structure OneClock (r : Rig Simulator) : Prop where
  follows : r.substrate.followsTime = true
  clock : r.substrate.clock = r.clock

/-! ## The time of one step -/

/-- What a step adds to the log is stamped with the time at which the step begins. -/
theorem Performs.stamped {r r' : Rig Simulator} {step : Step}
    {result : Except TestbedError (Option HandleId)} (h : Performs r step result r')
    (one : OneClock r) : ∃ cs, r'.substrate.calls = r.substrate.calls ++ cs ∧
      ∀ c ∈ cs, c.time = r.clock.now := by
  have hnow : r.substrate.clock.now = r.clock.now := by rw [one.clock]
  cases h with
  | started | notStarted | switched | notSwitched =>
    refine ⟨_, rfl, fun c hc => ?_⟩
    rw [List.mem_singleton.mp hc]
    exact hnow
  | waited | notInstantiated | noLink | already =>
    exact ⟨[], (List.append_nil _).symm, fun c hc => absurd hc List.not_mem_nil⟩

theorem Performs.oneClock {r r' : Rig Simulator} {step : Step}
    {result : Except TestbedError (Option HandleId)} (h : Performs r step result r')
    (one : OneClock r) : OneClock r' := by
  cases h with
  | waited d =>
    refine ⟨one.follows, ?_⟩
    simp only [one.follows, if_true, one.clock]
  | _ => exact ⟨one.follows, one.clock⟩

/-- A step moves the clock by what it waits, if the count has room for that. -/
theorem Performs.now {r r' : Rig Simulator} {step : Step}
    {result : Except TestbedError (Option HandleId)} (h : Performs r step result r')
    (fits : r.clock.now.nanos + Step.waited [step] < UInt64.size) :
    r'.clock.now.nanos = r.clock.now.nanos + Step.waited [step] := by
  cases h with
  | waited d =>
    have hd : Step.waited [.wait d] = d.nanos := by simp [Step.waited, Step.wait?]
    rw [hd] at fits ⊢
    exact Clock.now_advance_of_fits fits
  | _ => rfl

/-! ## The calls of each step -/

/-- The calls that each performed step has made. A step that fails is the last one. -/
def callsOf : List Step → Rig Simulator → List (List Simulator.Call)
  | [], _ => []
  | step :: steps, r =>
    let r' := (perform step r).2
    let made := r'.substrate.calls.drop r.substrate.calls.length
    match (perform step r).1 with
    | .ok _ => made :: callsOf steps r'
    | .error _ => [made]

/-- The calls that each performed step of a scenario makes in a run. -/
def runCalls (s : Scenario) (r : Rig Simulator) : List (List Simulator.Call) :=
  match r.topology.validate s with
  | .ok () => callsOf s.steps r
  | .error _ => []

/-- The steps that were performed have made all calls and passed all the time of the run. Each
call came when the steps before its own had waited. -/
structure Timed (r : Rig Simulator) (steps : List Step) (made : List (List Simulator.Call))
    (r' : Rig Simulator) : Prop where
  calls : r'.substrate.calls = r.substrate.calls ++ made.flatten
  now : r'.clock.now.nanos = r.clock.now.nanos + Step.waited (steps.take made.length)
  stamps : ∀ i cs, made[i]? = some cs → ∀ c ∈ cs,
    c.time.nanos = r.clock.now.nanos + Step.waited (steps.take i)

/-- A run of steps for whose waits the count has room keeps its time. -/
theorem timed_performAll (steps : List Step) {r : Rig Simulator} (one : OneClock r)
    (fits : r.clock.now.nanos + Step.waited steps < UInt64.size) :
    Timed r steps (callsOf steps r) (performAll steps r).2 := by
  induction steps generalizing r with
  | nil => exact ⟨(List.append_nil _).symm, rfl, fun i cs hi => by cases hi⟩
  | cons step steps ih =>
    have hperf := Rig.performs step r
    rw [Step.waited_cons, ← Nat.add_assoc] at fits
    obtain ⟨cs, hcs, hstamp⟩ := hperf.stamped one
    have hnow := hperf.now (Nat.lt_of_le_of_lt (Nat.le_add_right _ _) fits)
    have hone := hperf.oneClock one
    have hmade : (perform step r).2.substrate.calls.drop r.substrate.calls.length = cs := by
      rw [hcs, List.drop_left]
    have hfirst : ∀ c ∈ cs, c.time.nanos = r.clock.now.nanos + 0 := fun c hc => by
      rw [hstamp c hc, Nat.add_zero]
    rcases hp : perform step r with ⟨e | started, r'⟩
    · rw [hp] at hcs hnow hmade
      rw [performAll_cons_error hp]
      simp only [callsOf, hp, hmade]
      refine ⟨by simpa using hcs, by simpa using hnow, ?_⟩
      intro i cs' hi
      rcases i with _ | i
      · cases hi
        exact hfirst
      · cases hi
    · rw [hp] at hcs hnow hmade hone
      rw [performAll_cons_ok hp]
      simp only [callsOf, hp, hmade]
      -- The later steps begin when this one has waited, so each of their stamps is its wait later.
      have hrest := ih hone (hnow ▸ fits)
      refine ⟨?_, ?_, ?_⟩
      · rw [hrest.calls, hcs, List.flatten_cons, List.append_assoc]
      · rw [hrest.now, hnow, List.length_cons, List.take_succ_cons,
          Step.waited_cons step (steps.take _), Nat.add_assoc]
      · intro i cs' hi c hc
        rcases i with _ | i
        · cases hi
          exact hfirst c hc
        · rw [hrest.stamps i cs' hi c hc, hnow, List.take_succ_cons,
            Step.waited_cons step (steps.take i), Nat.add_assoc]

/-- A run for whose waits the count has room keeps its time. -/
theorem timed_run (s : Scenario) {r : Rig Simulator} (one : OneClock r)
    (fits : r.clock.now.nanos + Step.waited s.steps < UInt64.size) :
    Timed r s.steps (runCalls s r) (run s r).2 := by
  unfold runCalls
  rcases h : r.topology.validate s with e | u
  · rw [run_unknown h]
    exact ⟨(List.append_nil _).symm, rfl, fun i cs hi => by cases hi⟩
  · rw [run_known h]
    exact timed_performAll s.steps one fits

/-! ## Time never runs backwards -/

/-- The log is in the order of its stamps, and none of them lies ahead of the clock. -/
structure InOrder (r : Rig Simulator) : Prop where
  sorted : r.substrate.calls.Pairwise fun c c' => c.time.nanos ≤ c'.time.nanos
  past : ∀ c ∈ r.substrate.calls, c.time.nanos ≤ r.clock.now.nanos

/-- The calls of a run come between its start and its end. -/
theorem Timed.between {r r' : Rig Simulator} {steps : List Step}
    {made : List (List Simulator.Call)} (h : Timed r steps made r') {c : Simulator.Call}
    (hc : c ∈ made.flatten) :
    r.clock.now.nanos ≤ c.time.nanos ∧ c.time.nanos ≤ r'.clock.now.nanos := by
  obtain ⟨cs, hcs, hmem⟩ := List.mem_flatten.mp hc
  obtain ⟨i, hi⟩ := List.getElem?_of_mem hcs
  have hlt := (List.getElem?_eq_some_iff.mp hi).1
  have hle := Step.waited_take_le steps (Nat.le_of_lt hlt)
  rw [h.stamps i cs hi c hmem, h.now]
  omega

/-- Calls of one step bear one stamp, and those of a later step have more waits behind them. -/
theorem Timed.sorted {r r' : Rig Simulator} {steps : List Step}
    {made : List (List Simulator.Call)} (h : Timed r steps made r') :
    made.flatten.Pairwise fun c c' => c.time.nanos ≤ c'.time.nanos := by
  rw [List.pairwise_flatten]
  constructor
  · intro cs hcs
    obtain ⟨i, hi⟩ := List.getElem?_of_mem hcs
    refine List.pairwise_iff_forall_sublist.mpr fun {c c'} hsub => ?_
    have hc := h.stamps i cs hi c (hsub.subset List.mem_cons_self)
    have hc' := h.stamps i cs hi c' (hsub.subset (List.mem_cons_of_mem _ List.mem_cons_self))
    omega
  · rw [List.pairwise_iff_getElem]
    intro i j hi hj hij c hc c' hc'
    rw [h.stamps i _ (List.getElem?_eq_getElem hi) c hc,
      h.stamps j _ (List.getElem?_eq_getElem hj) c' hc']
    have hle := Step.waited_take_le steps (Nat.le_of_lt hij)
    omega

theorem Timed.inOrder {r r' : Rig Simulator} {steps : List Step}
    {made : List (List Simulator.Call)} (h : Timed r steps made r') (ho : InOrder r) :
    InOrder r' := by
  constructor
  · rw [h.calls, List.pairwise_append]
    refine ⟨ho.sorted, h.sorted, ?_⟩
    intro c hc c' hc'
    exact Nat.le_trans (ho.past c hc) (h.between hc').1
  · rw [h.calls]
    intro c hc
    rcases List.mem_append.mp hc with hc | hc
    · rw [h.now]
      exact Nat.le_trans (ho.past c hc) (Nat.le_add_right _ _)
    · exact (h.between hc).2

/-- A topology that has just been built on a simulator without calls leaves a log in order. -/
theorem inOrder_built {t t' : Topology} {sim sim' : Simulator} (fresh : sim.calls = [])
    (h : Topology.instantiate (t, sim) = (.ok (), t', sim')) :
    InOrder { topology := t', substrate := sim', clock := sim'.clock } := by
  obtain ⟨_, rfl, rfl, _⟩ := Topology.instantiate_simulator h
  have hnow : ∀ c ∈ (t.network sim).calls, c.time = sim.clock.now := by
    intro c hc
    simp only [Topology.network, Topology.linksRaised, Topology.hostsRaised, fresh,
      List.nil_append, List.mem_append, List.mem_map] at hc
    rcases hc with ⟨x, _, rfl⟩ | ⟨x, _, rfl⟩ <;> rfl
  constructor
  · refine List.pairwise_iff_forall_sublist.mpr fun {c c'} hsub => ?_
    have hc := hnow c (hsub.subset List.mem_cons_self)
    have hc' := hnow c' (hsub.subset (List.mem_cons_of_mem _ List.mem_cons_self))
    exact Nat.le_of_eq (by rw [hc, hc'])
  · intro c hc
    exact Nat.le_of_eq (congrArg Duration.nanos (hnow c hc))

/-- Where the count of the clock has room for the waits of a scenario, a run leaves a log that was
in order in order, and any two of its calls lie at least as far apart as the waits between their
steps. -/
theorem waits_are_honoured {r : Rig Simulator} (one : OneClock r) (s : Scenario)
    (fits : r.clock.now.nanos + Step.waited s.steps < UInt64.size) :
    (run s r).2.substrate.calls = r.substrate.calls ++ (runCalls s r).flatten ∧
    (InOrder r → InOrder (run s r).2) ∧
    ∀ i j cs cs', i < j → (runCalls s r)[i]? = some cs → (runCalls s r)[j]? = some cs' →
      ∀ c ∈ cs, ∀ c' ∈ cs',
        c.time.nanos + Step.waited ((s.steps.take j).drop (i + 1)) ≤ c'.time.nanos := by
  have htimed := timed_run s one fits
  refine ⟨htimed.calls, htimed.inOrder, ?_⟩
  intro i j cs cs' hij hi hj c hc c' hc'
  rw [htimed.stamps i cs hi c hc, htimed.stamps j cs' hj c' hc']
  rcases hstep : s.steps[i]? with _ | step
  · -- Behind the last step nothing waits any more.
    have hlen := List.getElem?_eq_none_iff.mp hstep
    rw [List.take_of_length_le hlen, List.drop_of_length_le (by simp; omega),
      List.take_of_length_le (Nat.le_trans hlen (Nat.le_of_lt hij))]
    exact Nat.le_refl _
  · have hsplit := Step.waited_take_split s.steps hij hstep
    omega

/-- A command is started at one second, and the link is taken down ten seconds later. -/
theorem waits_are_honoured_on_two_hosts :
    let r : Rig Simulator :=
      { topology := Topology.twoHosts.raised, substrate := Topology.twoHosts.network {} }
    let s : Scenario := { name := "short", steps := [.wait (.ofSeconds 1),
      .spawn ⟨"A"⟩ { argv := ["server"], title := "" }, .wait (.ofSeconds 4),
      .wait (.ofSeconds 6), .setLink ⟨"B"⟩ ⟨"A"⟩ .down] }
    OneClock r ∧ r.clock.now.nanos + Step.waited s.steps < UInt64.size ∧
    InOrder r ∧ InOrder (run s r).2 ∧
    ∃ c c', (runCalls s r)[1]? = some [c] ∧ (runCalls s r)[4]? = some [c'] ∧
      c.time.nanos + 10000000000 ≤ c'.time.nanos := by
  intro r s
  have hone : OneClock r := ⟨rfl, rfl⟩
  have hfits : r.clock.now.nanos + Step.waited s.steps < UInt64.size := by decide +kernel
  have horder : InOrder r := @inOrder_built Topology.twoHosts _ {} _ rfl rfl
  obtain ⟨_, hin, hlaw⟩ := waits_are_honoured hone s hfits
  refine ⟨hone, hfits, horder, hin horder, _, _, rfl, rfl, ?_⟩
  exact hlaw 1 4 _ _ (by decide) rfl rfl _ List.mem_cons_self _ List.mem_cons_self

/-- Where the count has no room for a wait, time runs backwards. A command is started at one
second, and the switching of the link that comes some five hundred years later is stamped with
a time before that. -/
theorem time_runs_backwards_past_the_end_of_the_count :
    let r : Rig Simulator :=
      { topology := Topology.twoHosts.raised, substrate := Topology.twoHosts.network {} }
    let s : Scenario := { name := "long", steps := [.wait (.ofSeconds 1),
      .spawn ⟨"A"⟩ { argv := ["server"], title := "" }, .wait (.ofMillis 18446744073709),
      .setLink ⟨"A"⟩ ⟨"B"⟩ .down] }
    OneClock r ∧ InOrder r ∧
    (run s r).2.substrate.calls.map (·.time.nanos) = [0, 0, 0, 1000000000, 999448384] ∧
    ¬ InOrder (run s r).2 := by
  intro r s
  have htimes : (run s r).2.substrate.calls.map (·.time.nanos) =
      [0, 0, 0, 1000000000, 999448384] := by decide +kernel
  refine ⟨⟨rfl, rfl⟩, @inOrder_built Topology.twoHosts _ {} _ rfl rfl, htimes, ?_⟩
  intro h
  have hsorted := List.pairwise_map.mpr h.sorted
  rw [htimes] at hsorted
  revert hsorted
  decide

end Rig

end Testbed
