-- What others can do to the simulator while a session or a rig uses it: they
-- meddle with its failures and processes, and they ask it for what anyone may
-- ask. Neither takes a host or a link away, and time stays out of it.
import Testbed.Simulator

namespace Testbed.Simulator

/-! ## The beginning -/

/-- Nothing has happened on the simulator yet. Its clock, the number of its first process and
the failures requested from it are left open. -/
structure Fresh (s : Simulator) : Prop where
  hosts : s.hosts = ∅
  links : s.links = ∅
  processes : s.processes = ∅
  calls : s.calls = []

theorem fresh_default (clock : Clock) : ({ clock } : Simulator).Fresh :=
  ⟨rfl, rfl, rfl, rfl⟩

/-! ## Meddling -/

/-- What is done to the simulated network from outside: failures are requested or cleared,
and a process ends by itself. -/
inductive Meddling where
  | failExecOn (host : HostId)
  | failLink (a b : HostId)
  | failKill (pid : Pid)
  | clearFailures
  | exitProcess (pid : Pid)
deriving DecidableEq, Repr

def Meddling.apply : Meddling → Simulator → Simulator
  | failExecOn host, s => s.failExecOn host
  | failLink a b, s => s.failLink a b
  | failKill pid, s => s.failKill pid
  | clearFailures, s => s.clearFailures
  | exitProcess pid, s => s.exitProcess pid

/-! ## Requests -/

/-- What anyone else can ask of the simulator. -/
inductive Request where
  | createHost (host : HostId)
  | createLink (a b : HostId)
  | setLinkState (a b : HostId) (state : LinkState)
  | exec (host : HostId) (request : ExecRequest)
  | signalKill (pid : Pid)
deriving DecidableEq, Repr

def Request.apply : Request → Simulator → Simulator
  | createHost host, s => (s.createHost host).2
  | createLink a b, s => (s.createLink a b).2
  | setLinkState a b state, s => (s.setLinkState a b state).2
  | exec host request, s => (s.exec host request).2
  | signalKill pid, s => (s.signalKill pid).2

/-! ## Nothing is taken away -/

/-- A simulator that has what it had before, under the same clock. -/
structure Grown (s s' : Simulator) : Prop where
  hosts : ∀ id, s.hosts.contains id = true → s'.hosts.contains id = true
  links : ∀ pair, s.links.contains pair = true → s'.links.contains pair = true
  follows : s'.followsTime = s.followsTime
  clock : s'.clock = s.clock

theorem Grown.of_tables {s s' : Simulator} (hosts : s'.hosts = s.hosts) (links : s'.links = s.links)
    (follows : s'.followsTime = s.followsTime) (clock : s'.clock = s.clock) : Grown s s' :=
  ⟨fun _ h => hosts ▸ h, fun _ h => links ▸ h, follows, clock⟩

theorem grown_meddling (m : Meddling) (s : Simulator) : Grown s (m.apply s) := by
  cases m <;> exact Grown.of_tables rfl rfl rfl rfl

theorem grown_insertLink (s : Simulator) (pair : HostPair) (state : LinkState) (op : Op) :
    Grown s ({ s with links := s.links.insert pair state }.record op true) := by
  refine ⟨fun _ h => h, fun x h => ?_, rfl, rfl⟩
  change (s.links.insert pair state).contains x = true
  rw [Table.contains_insert, h, Bool.or_true]

/-- Hosts and links are never taken away. -/
theorem grown_request (q : Request) (s : Simulator) : Grown s (q.apply s) := by
  cases q with
  | createHost host =>
    refine ⟨fun x h => ?_, fun _ h => h, rfl, rfl⟩
    change (s.hosts.insert host _).contains x = true
    rw [Table.contains_insert, h, Bool.or_true]
  | createLink a b =>
    simp only [Request.apply, createLink]
    split
    · exact Grown.of_tables rfl rfl rfl rfl
    · split
      · exact Grown.of_tables rfl rfl rfl rfl
      · exact grown_insertLink s (.of a b) .up _
  | setLinkState a b state =>
    simp only [Request.apply, setLinkState]
    split
    · exact Grown.of_tables rfl rfl rfl rfl
    · split
      · exact Grown.of_tables rfl rfl rfl rfl
      · exact grown_insertLink s (.of a b) state _
  | exec host request =>
    simp only [Request.apply, exec]
    split
    · exact Grown.of_tables rfl rfl rfl rfl
    · split <;> exact Grown.of_tables rfl rfl rfl rfl
  | signalKill pid =>
    simp only [Request.apply, signalKill]
    split <;> exact Grown.of_tables rfl rfl rfl rfl

end Testbed.Simulator
