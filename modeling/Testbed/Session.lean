-- A session: a configuration and a rig that has been built, open until it is
-- shut down. Shutting down kills every tracked process and happens once; a
-- session that has been shut down runs nothing and switches nothing.
import Testbed.Catalogue.Scenarios
import Testbed.Scenario.Run

namespace Testbed

/-- A rig in use. -/
structure Session (σ : Type) where
  config : Config
  rig : Rig σ
  shutDown : Bool := false
deriving Inhabited

namespace Session

variable {σ : Type} [Substrate σ]

/-! ## Beginning and end -/

/-- Builds a topology on a substrate and opens a session on it, with a clock for its runs.
Where that fails the substrate is left as far as the building got. -/
def start (config : Config) (topology : Topology) (substrate : σ) (clock : Clock := {}) :
    Except (TestbedError × σ) (Session σ) :=
  match Rig.instantiate { topology, substrate, clock } with
  | (.ok (), rig) => .ok { config, rig }
  | (.error e, rig) => .error (e, rig.substrate)

/-- Kills every tracked process, the first time. -/
def shutdown (s : Session σ) : Option KillReport × Session σ :=
  if s.shutDown then (none, s)
  else
    let (report, supervisor, substrate) := s.rig.supervisor.killAll s.rig.substrate
    (some report, { s with shutDown := true, rig := { s.rig with supervisor, substrate } })

/-- What is left when a session is let go: it is shut down if that has not been done. -/
def close (s : Session σ) : Session σ := s.shutdown.2

theorem close_of_shutDown {s : Session σ} (h : s.shutDown = true) : s.close = s := by
  simp [close, shutdown, h]

theorem close_of_open {s : Session σ} (h : s.shutDown = false) : s.close =
    { s with
      shutDown := true
      rig := { s.rig with
        supervisor := { s.rig.supervisor with tracked := [] }
        substrate := (Supervisor.killEach s.rig.supervisor.tracked s.rig.substrate).2 } } := by
  simp [close, shutdown, h, Supervisor.killAll]

theorem shutDown_close (s : Session σ) : s.close.shutDown = true := by
  by_cases hs : s.shutDown = true
  · rw [close_of_shutDown hs]
    exact hs
  · rw [close_of_open (by simpa using hs)]

/-! ## Use -/

/-- An action on the rig of an open session. -/
def whenOpen {α : Type} (act : Action (Rig σ) TestbedError α) :
    Action (Session σ) TestbedError α := fun s =>
  if s.shutDown then (.error .sessionClosed, s)
  else act.within (·.rig) (fun rig s => { s with rig }) s

def runScenario (scenario : Scenario) : Action (Session σ) TestbedError RunReport :=
  whenOpen (Rig.run scenario)

theorem runScenario_closed (scenario : Scenario) {s : Session σ} (h : s.shutDown = true) :
    runScenario scenario s = (.error .sessionClosed, s) := by
  unfold runScenario whenOpen
  rw [if_pos h]

theorem runScenario_open (scenario : Scenario) {s : Session σ} (h : s.shutDown = false) :
    runScenario scenario s =
      ((Rig.run scenario s.rig).1, { s with rig := (Rig.run scenario s.rig).2 }) := by
  simp [runScenario, whenOpen, h, Action.within]

/-- Runs the scenario of the catalogue with a name, if there is one. -/
def runCatalogue (name : String) (s : Session σ) :
    Option (Except TestbedError RunReport) × Session σ :=
  match Catalogue.scenario? name s.config with
  | none => (none, s)
  | some scenario =>
    let (r, s) := runScenario scenario s
    (some r, s)

def switchLink (a b : HostId) (state : LinkState) : Action (Session σ) TestbedError Transition :=
  whenOpen (Rig.switchLink a b state)

/-- The tracked processes, each with whether it still runs. -/
def processStatus (s : Session σ) : List (ProcessHandle × Bool) × Session σ :=
  let (rows, substrate) := s.rig.supervisor.status s.rig.substrate
  (rows, { s with rig := { s.rig with substrate } })

/-- The number of tracked processes that still run. -/
def aliveCount (s : Session σ) : Nat × Session σ :=
  let (n, substrate) := s.rig.supervisor.aliveCount s.rig.substrate
  (n, { s with rig := { s.rig with substrate } })

/-- Changes the substrate from outside. -/
def mapSubstrate (f : σ → σ) (s : Session σ) : Session σ :=
  { s with rig := { s.rig with substrate := f s.rig.substrate } }

end Session

end Testbed
