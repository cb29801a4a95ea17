-- The end of a session. The shutdown kills every process that was started, and
-- happens once: by a call, by a line that leaves, or at last when the session
-- is let go. From then on nothing reaches the network any more.
import Testbed.Proofs.Session.Processes

namespace Testbed.Session

open Simulator (pidOf)

/-! ## The shutdown itself -/

/-- The shutdown leaves the topology and the clocks alone and tracks nothing any more. -/
theorem close_keeps (s : Session Simulator) : s.close.rig.topology = s.rig.topology ∧
    s.close.rig.clock = s.rig.clock ∧ s.close.rig.substrate.clock = s.rig.substrate.clock := by
  by_cases hs : s.shutDown = true
  · rw [close_of_shutDown hs]
    exact ⟨rfl, rfl, rfl⟩
  · have ho : s.shutDown = false := by simpa using hs
    rw [close_of_open ho, Simulator.killEach_eq]
    exact ⟨rfl, rfl, rfl⟩

/-- Only the shutdown closes a session. -/
theorem Effect.closes {s s' : Session Simulator} (h : Effect s s') (ho : s.shutDown = false)
    (hc : s'.shutDown = true) : s' = s.close := by
  cases h with
  | closed => rfl
  | nothing | ran | meddled =>
    change s.shutDown = true at hc
    rw [ho] at hc
    cases hc

/-- A line that leaves shuts the session down, whatever else stands on it. -/
theorem leave_closes {line : String} (hw : Registry.wordOf line ∈ Registry.leaveWords)
    {p : Registry Simulator × Session Simulator} (hp : p.1.IsStandard) :
    (Registry.dispatch line p).2.2 = p.2.close := by
  obtain ⟨r, s⟩ := p
  have hr : r.IsStandard := hp
  exact (Registry.dispatch_leaving hw hr s).2

/-! ## After the shutdown -/

/-- A session rests where it was shut down: no call has come to its network, and nothing else of
it has changed. Only its processes may have ended, and failures may have been requested. -/
structure Rests (s s' : Session Simulator) : Prop where
  shutDown : s'.shutDown = true
  calls : s'.rig.substrate.calls = s.rig.substrate.calls
  topology : s'.rig.topology = s.rig.topology
  supervisor : s'.rig.supervisor = s.rig.supervisor
  clock : s'.rig.clock = s.rig.clock
  time : s'.rig.substrate.clock = s.rig.substrate.clock

theorem Rests.effect {s : Session Simulator} (s₁ s₂ : Session Simulator) (h : Rests s s₁)
    (heffect : Effect s₁ s₂) : Rests s s₂ := by
  cases heffect with
  | nothing => exact h
  | ran steps ho =>
    rw [h.shutDown] at ho
    cases ho
  | closed =>
    rw [close_of_shutDown h.shutDown]
    exact h
  | meddled m => cases m <;> exact ⟨h.shutDown, h.calls, h.topology, h.supervisor, h.clock, h.time⟩

theorem after_append (s : Session Simulator) (moves later : List Move) :
    s.after (moves ++ later) = (history later (history moves (Registry.standard, s))).2 := by
  rw [after, history_append]

theorem after_concat (s : Session Simulator) (moves : List Move) (move : Move) :
    s.after (moves ++ [move]) = (move.apply (history moves (Registry.standard, s))).2 := by
  simp [after, history]

/-- The commands beside a session stay the standard ones. -/
theorem isStandard_history (s : Session Simulator) (moves : List Move) :
    (history moves (Registry.standard, s)).1.IsStandard :=
  (history_keeps (P := fun _ => True) (fun _ _ _ _ => trivial) moves isStandard_standard
    trivial).1

/-- Once a session is let go there has been one call to kill each process that was started, in the
order of starting, whatever moves were made before. -/
theorem killed_after_history {first : Pid} {p : Registry Simulator × Session Simulator}
    (hr : p.1.IsStandard) (h : Accounted first p.2) (moves : List Move) :
    (history moves p).2.close.rig.substrate.killed =
      (history moves p).2.close.rig.substrate.started.mapIdx fun n _ => pidOf first n := by
  have hkept := Accounted.kept first
  have hlast := (history_keeps hkept.effect moves hr h).2
  exact (hkept.effect _ _ hlast Effect.closed).killed_closed (shutDown_close _)

/-! ## Teardown happens once -/

/-- Whatever is done with a session, in the end there is one call to kill each process that was
started, in the order of starting, and no other. As long as the session is open there is none,
and what closes it is the shutdown, which leaves topology and clocks alone. A session that was
shut down rests whatever comes later, letting it go included, and refuses to run or to switch
anything. -/
theorem teardown_happens_once (config : Config) (t : Topology) (sim : Simulator) (clock : Clock)
    (s₀ : Session Simulator) (fresh : sim.Fresh) (hs : start config t sim clock = .ok s₀)
    (moves : List Move) (s : Session Simulator) (hafter : s₀.after moves = s) :
    (s.close.rig.substrate.killed =
        s.close.rig.substrate.started.mapIdx (fun n _ => pidOf sim.nextPid n) ∧
      s.close.rig.supervisor.tracked = [] ∧ s.close.rig.topology = s.rig.topology ∧
      s.close.rig.clock = s.rig.clock ∧ s.close.rig.substrate.clock = s.rig.substrate.clock) ∧
    (s.shutDown = false → s.rig.substrate.killed = [] ∧
      ∀ move, (s₀.after (moves ++ [move])).shutDown = true →
        s₀.after (moves ++ [move]) = s.close) ∧
    (∀ line, Registry.wordOf line ∈ Registry.leaveWords →
      s₀.after (moves ++ [.dispatch line]) = s.close) ∧
    (s.shutDown = true →
      (∀ later, Rests s (s₀.after (moves ++ later)) ∧
        (s₀.after (moves ++ later)).close = s₀.after (moves ++ later)) ∧
      (∀ scenario, runScenario scenario s = (.error .sessionClosed, s)) ∧
      (∀ a b state, switchLink a b state s = (.error .sessionClosed, s)) ∧
      s.shutdown = (none, s)) := by
  subst hafter
  have h := (Accounted.kept sim.nextPid).after (Accounted.at_start fresh hs) moves
  have hstd := isStandard_history s₀ moves
  have hclose := (Accounted.kept sim.nextPid).effect _ _ h Effect.closed
  have hshut := shutDown_close (s₀.after moves)
  refine ⟨⟨hclose.killed_closed hshut, hclose.tracked_closed hshut, close_keeps _⟩, ?_, ?_, ?_⟩
  · intro ho
    refine ⟨h.killed_open ho, fun move hc => ?_⟩
    rw [after_concat] at hc ⊢
    exact (effect_apply move hstd).2.closes ho hc
  · intro line hw
    rw [after_concat, Move.apply]
    exact leave_closes hw hstd
  · intro hc
    refine ⟨fun later => ?_, ?_, ?_, ?_⟩
    · rw [after_append]
      have hrest : Rests (s₀.after moves)
          (history later (history moves (Registry.standard, s₀))).2 :=
        (history_keeps Rests.effect later hstd ⟨hc, rfl, rfl, rfl, rfl, rfl⟩).2
      exact ⟨hrest, close_of_shutDown hrest.shutDown⟩
    · intro scenario
      unfold runScenario whenOpen
      rw [if_pos hc]
    · intro a b state
      unfold switchLink whenOpen
      rw [if_pos hc]
    · unfold shutdown
      rw [if_pos hc]

/-- Two processes run when a line leaves, and one of them cannot be killed. Later runs, lines and
shutdowns call for nothing more. -/
theorem teardown_happens_once_after_leaving :
    let scenario : Scenario := { name := "two", steps := [
      .spawn ⟨"A"⟩ { argv := ["server"], title := "" },
      .spawn ⟨"B"⟩ { argv := ["client", "A"], title := "" }] }
    let moves : List Move :=
      [.runScenario scenario, .meddle (.failKill 1000), .dispatch " exit now "]
    let s := onTwoHosts.after moves
    let s' := onTwoHosts.after
      (moves ++ [.meddle .clearFailures, .runScenario scenario, .dispatch "EOF", .shutdown])
    s.close.rig.substrate.killed = [1000, 1001] ∧
    s'.rig.substrate.calls = s.rig.substrate.calls ∧ s'.close = s' ∧
    runScenario scenario s = (.error .sessionClosed, s) := by
  intro scenario moves s s'
  obtain ⟨⟨hkilled, _⟩, _, _, hclosed⟩ := teardown_happens_once {} Topology.twoHosts {} {}
    onTwoHosts (Simulator.fresh_default {}) start_onTwoHosts moves s rfl
  obtain ⟨hlater, hrun, _⟩ := hclosed (by decide +kernel)
  obtain ⟨hrests, hclose⟩ := hlater
    [.meddle .clearFailures, .runScenario scenario, .dispatch "EOF", .shutdown]
  exact ⟨hkilled.trans (by decide +kernel), hrests.calls, hclose, hrun scenario⟩

end Testbed.Session
