-- The life of a session on the simulator. It starts on a network where nothing
-- has happened yet. Whatever is done with it then, typed or called, and
-- whatever is done to its network from outside, comes down to four effects:
-- nothing, steps performed while it is open, the shutdown, and the meddling
-- itself. What the effects keep holds all the way.
import Testbed.Proofs.Command.Standard
import Testbed.Proofs.Scenario.Step
import Testbed.Proofs.Simulator.Outside
import Testbed.Proofs.Topology.Raised

namespace Testbed

open Simulator (Meddling)

/-! ## The beginning -/

/-- A session that could be started has the topology and the network as they are built. -/
theorem Session.start_simulator {config : Config} {t : Topology} {sim : Simulator} {clock : Clock}
    {s : Session Simulator} (h : Session.start config t sim clock = .ok s) :
    s = { config, rig := { topology := t.raised, substrate := t.network sim, clock } } ∧
      t.instantiated = false ∧ ∀ l ∈ t.links,
        (t.network sim).hosts.contains l.a = true ∧ (t.network sim).hosts.contains l.b = true := by
  simp only [Session.start, Rig.instantiate, Action.within] at h
  rcases hi : Topology.instantiate (t, sim) with ⟨e | u, t', sim'⟩
  · rw [hi] at h
    cases h
  · rw [hi] at h
    cases h
    obtain ⟨hnew, rfl, rfl, hosts⟩ := Topology.instantiate_simulator hi
    exact ⟨rfl, hnew, hosts⟩

/-- A session with a link between two hosts. -/
def Session.onTwoHosts : Session Simulator where
  config := {}
  rig := { topology := Topology.twoHosts.raised, substrate := Topology.twoHosts.network {} }

theorem Session.start_onTwoHosts :
    Session.start {} Topology.twoHosts ({} : Simulator) = .ok onTwoHosts := rfl

/-! ## What can be done -/

/-- What is done with a session and with the commands beside it. -/
inductive Move where
  | dispatch (line : String)
  | runScenario (scenario : Scenario)
  | runCatalogue (name : String)
  | switchLink (a b : HostId) (state : LinkState)
  | processStatus
  | aliveCount
  | shutdown
  | meddle (m : Meddling)
deriving DecidableEq, Repr

def Move.apply : Move → Registry Simulator × Session Simulator →
    Registry Simulator × Session Simulator
  | dispatch line, p => (Registry.dispatch line p).2
  | runScenario scenario, (r, s) => (r, (Session.runScenario scenario s).2)
  | runCatalogue name, (r, s) => (r, (s.runCatalogue name).2)
  | switchLink a b state, (r, s) => (r, (Session.switchLink a b state s).2)
  | processStatus, (r, s) => (r, s.processStatus.2)
  | aliveCount, (r, s) => (r, s.aliveCount.2)
  | shutdown, (r, s) => (r, s.shutdown.2)
  | meddle m, (r, s) => (r, s.mapSubstrate m.apply)

namespace Session

/-- A session and its commands after a list of moves. -/
def history (moves : List Move) (p : Registry Simulator × Session Simulator) :
    Registry Simulator × Session Simulator := moves.foldl (fun p move => move.apply p) p

theorem history_append (moves later : List Move) (p : Registry Simulator × Session Simulator) :
    history (moves ++ later) p = history later (history moves p) := List.foldl_append

/-- A session after a list of moves, with the standard commands beside it. -/
def after (s : Session Simulator) (moves : List Move) : Session Simulator :=
  (history moves (Registry.standard, s)).2

/-! ## The four effects -/

/-- What a move can come to. -/
inductive Effect (s : Session Simulator) : Session Simulator → Prop
  | nothing : Effect s s
  | ran (steps : List Step) (h : s.shutDown = false) :
      Effect s { s with rig := (Rig.performAll steps s.rig).2 }
  | closed : Effect s s.close
  | meddled (m : Meddling) : Effect s (s.mapSubstrate m.apply)

theorem effect_runScenario (scenario : Scenario) (s : Session Simulator) :
    Effect s (runScenario scenario s).2 := by
  unfold runScenario whenOpen
  split
  · exact Effect.nothing
  · next ho =>
    rcases Rig.run_performs scenario s.rig with h | h
    · simp only [Action.within, h]
      exact Effect.nothing
    · simp only [Action.within, h]
      exact Effect.ran scenario.steps (by simpa using ho)

theorem effect_runCatalogue (name : String) (s : Session Simulator) :
    Effect s (s.runCatalogue name).2 := by
  unfold runCatalogue
  split
  · exact Effect.nothing
  · next scenario _ => exact effect_runScenario scenario s

theorem effect_switchLink (a b : HostId) (state : LinkState) (s : Session Simulator) :
    Effect s (switchLink a b state s).2 := by
  unfold switchLink whenOpen
  split
  · exact Effect.nothing
  · next ho =>
    simp only [Action.within, Rig.switchLink_performs]
    exact Effect.ran [.setLink a b state] (by simpa using ho)

/-- Asking the simulator whether processes are alive leaves it alone. -/
theorem aliveEach_simulator (hs : List ProcessHandle) (s : Simulator) :
    (Supervisor.aliveEach hs s).2 = s := by
  induction hs with
  | nil => rfl
  | cons h hs ih => simpa [Supervisor.aliveEach, Substrate.isAlive] using ih

theorem processStatus_session (s : Session Simulator) : s.processStatus.2 = s := by
  simp [processStatus, Supervisor.status, aliveEach_simulator]

theorem aliveCount_session (s : Session Simulator) : s.aliveCount.2 = s := by
  simp [aliveCount, Supervisor.aliveCount, Supervisor.status, aliveEach_simulator]

/-! ## Typed lines -/

theorem effect_linkCommand (calls : List (CommandCall Simulator)) (args : String)
    (s : Session Simulator) : Effect s (Registry.linkCommand calls args s).2 := by
  unfold Registry.linkCommand
  split
  · next a b word _ =>
    split
    · exact Effect.nothing
    · next state _ =>
      have h := effect_switchLink ⟨a⟩ ⟨b⟩ state s
      split
      · next he => rwa [he] at h
      · next he => rwa [he] at h
  · exact Effect.nothing

theorem effect_statusCommand (calls : List (CommandCall Simulator)) (args : String)
    (s : Session Simulator) : Effect s (Registry.statusCommand calls args s).2 := by
  simp only [Registry.statusCommand, processStatus_session]
  exact Effect.nothing

theorem effect_leaveCommand (calls : List (CommandCall Simulator)) (args : String)
    (s : Session Simulator) : Effect s (Registry.leaveCommand calls args s).2 := by
  have h : Effect s s.shutdown.2 := Effect.closed
  unfold Registry.leaveCommand
  split
  · next he => rwa [he] at h
  · next he => rwa [he] at h

theorem effect_runCommand (name : String) (calls : List (CommandCall Simulator)) (args : String)
    (s : Session Simulator) : Effect s (Registry.runCommand name calls args s).2 := by
  have h := effect_runCatalogue name s
  unfold Registry.runCommand
  split
  · next he => rwa [he] at h
  · next he => rwa [he] at h
  · next he => rwa [he] at h

theorem effect_dispatch (line : String) {r : Registry Simulator} (hr : r.IsStandard)
    (s : Session Simulator) : Effect s (Registry.dispatch line (r, s)).2.2 := by
  rcases Registry.dispatch_session line r s with h | ⟨handler, calls, hw, h⟩
  · rw [h]
    exact Effect.nothing
  · rw [h]
    rcases Registry.handler_cases hr hw with rfl | rfl | rfl | ⟨name, rfl⟩
    · exact effect_linkCommand calls _ s
    · exact effect_statusCommand calls _ s
    · exact effect_leaveCommand calls _ s
    · exact effect_runCommand name calls _ s

/-! ## The whole history -/

/-- A move has one of the four effects, and the commands stay the standard ones. -/
theorem effect_apply (move : Move) {p : Registry Simulator × Session Simulator}
    (hp : p.1.IsStandard) : (move.apply p).1.IsStandard ∧ Effect p.2 (move.apply p).2 := by
  obtain ⟨r, s⟩ := p
  have hp : r.IsStandard := hp
  cases move with
  | dispatch line =>
    rw [Move.apply]
    exact ⟨Registry.isStandard_dispatch hp line s, effect_dispatch line hp s⟩
  | runScenario scenario => exact ⟨hp, effect_runScenario scenario s⟩
  | runCatalogue name => exact ⟨hp, effect_runCatalogue name s⟩
  | switchLink a b state => exact ⟨hp, effect_switchLink a b state s⟩
  | processStatus =>
    refine ⟨hp, ?_⟩
    rw [Move.apply, processStatus_session]
    exact Effect.nothing
  | aliveCount =>
    refine ⟨hp, ?_⟩
    rw [Move.apply, aliveCount_session]
    exact Effect.nothing
  | shutdown => exact ⟨hp, Effect.closed⟩
  | meddle m => exact ⟨hp, Effect.meddled m⟩

/-- What every effect keeps, a history keeps. -/
theorem history_keeps {P : Session Simulator → Prop} (heffect : ∀ s s', P s → Effect s s' → P s')
    (moves : List Move) {p : Registry Simulator × Session Simulator} (hp : p.1.IsStandard)
    (h : P p.2) : (history moves p).1.IsStandard ∧ P (history moves p).2 := by
  unfold history
  induction moves generalizing p with
  | nil => exact ⟨hp, h⟩
  | cons move moves ih =>
    obtain ⟨hstd, heff⟩ := effect_apply move hp
    exact ih hstd (heffect _ _ h heff)

/-- What holds of a session and of what each effect makes of it. -/
structure Kept (P : Session Simulator → Prop) : Prop where
  step : ∀ s step result rig, s.shutDown = false → P s → Rig.Performs s.rig step result rig →
    P { s with rig }
  close : ∀ s, s.shutDown = false → P s → P s.close
  meddle : ∀ s m, P s → P (s.mapSubstrate (Meddling.apply m))

theorem Kept.effect {P : Session Simulator → Prop} (kept : Kept P) (s s' : Session Simulator)
    (h : P s) (heffect : Effect s s') : P s' := by
  cases heffect with
  | nothing => exact h
  | ran steps ho =>
    have hall := Rig.performAll_keeps (P := fun rig => P { s with rig })
      (fun step r hr => kept.step { s with rig := r } step _ _ ho hr (Rig.performs step r))
      steps s.rig h
    exact hall
  | closed =>
    by_cases hs : s.shutDown = true
    · rw [close_of_shutDown hs]
      exact h
    · exact kept.close s (by simpa using hs) h
  | meddled m => exact kept.meddle s m h

theorem isStandard_standard : (Registry.standard : Registry Simulator).IsStandard := fun _ => rfl

/-- What is kept by single steps, by the shutdown and by meddling holds after every list of
moves. -/
theorem Kept.after {P : Session Simulator → Prop} (kept : Kept P) {s : Session Simulator}
    (h : P s) (moves : List Move) : P (s.after moves) :=
  (history_keeps kept.effect moves isStandard_standard h).2

end Session

end Testbed
