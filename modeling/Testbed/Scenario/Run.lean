-- Running a scenario on a rig: an instantiated topology with its substrate,
-- its processes and its clock. The hosts are checked before the first step,
-- and the first step that fails ends the run.
import Testbed.Clock
import Testbed.Network.Transition
import Testbed.Scenario
import Testbed.Supervisor

namespace Testbed

/-- Everything that a run can change. -/
structure Rig (σ : Type) where
  topology : Topology
  substrate : σ
  supervisor : Supervisor := {}
  clock : Clock := {}
deriving Inhabited

/-- What a completed run did. -/
structure RunReport where
  scenario : String
  stepsExecuted : Nat
  spawned : List HandleId
  startedAt : Duration
  finishedAt : Duration
deriving DecidableEq, Repr

def RunReport.elapsed (r : RunReport) : Duration := .between r.startedAt r.finishedAt

namespace Rig

variable {σ : Type} [Substrate σ]

/-! ## Parts of a rig -/

def instantiate : Action (Rig σ) TestbedError Unit :=
  Topology.instantiate.within (fun r => (r.topology, r.substrate))
    fun (topology, substrate) r => { r with topology, substrate }

def switchLink (a b : HostId) (state : LinkState) : Action (Rig σ) TestbedError Transition :=
  (Topology.switchLink a b state).within (fun r => (r.topology, r.substrate))
    fun (topology, substrate) r => { r with topology, substrate }

/-- Starts a command now and tracks it. -/
def spawn (host : HostId) (request : ExecRequest) : Action (Rig σ) TestbedError ProcessHandle :=
  fun r =>
    (Supervisor.spawn host request r.clock.now).within (fun r => (r.supervisor, r.substrate))
      (fun (supervisor, substrate) r => { r with supervisor, substrate }) r

/-- Lets time pass on the clock and for the substrate. -/
def wait (d : Duration) (r : Rig σ) : Rig σ :=
  { r with clock := r.clock.advance d, substrate := Substrate.elapse d r.substrate }

/-! ## Steps -/

/-- One step; the answer is the process it has started. -/
def perform : Step → Action (Rig σ) TestbedError (Option HandleId)
  | .spawn host request => do
    let handle ← spawn host request
    pure (some handle.id)
  | .wait d => do
    Action.modify (wait d)
    pure none
  | .setLink a b state => do
    let _ ← switchLink a b state
    pure none

/-- Steps in order up to the first that fails; the answer is the processes started. -/
def performAll : List Step → Action (Rig σ) TestbedError (List HandleId)
  | [] => pure []
  | step :: steps => do
    let started ← perform step
    let rest ← performAll steps
    pure (started.toList ++ rest)

def run (s : Scenario) : Action (Rig σ) TestbedError RunReport := do
  let topology ← Action.reads (·.topology)
  Action.ofExcept (topology.validate s)
  let startedAt ← Action.reads (·.clock.now)
  let spawned ← performAll s.steps
  let finishedAt ← Action.reads (·.clock.now)
  pure { scenario := s.name, stepsExecuted := s.steps.length, spawned, startedAt, finishedAt }

end Rig

end Testbed
