-- The processes that the test bed has started. Each gets a number of its own
-- in the order of starting, and all of them can be killed at once: a process
-- that cannot be killed is reported and dropped, and the rest are still
-- killed.
import Testbed.Duration
import Testbed.Error

namespace Testbed

/-- The number of a tracked process. It is never given out twice. -/
structure HandleId where
  index : Nat
deriving DecidableEq, Repr, Inhabited

def HandleId.text (id : HandleId) : String := s!"#{id.index}"

/-- A process that was started through the supervisor. -/
structure ProcessHandle where
  id : HandleId
  pid : Pid
  host : HostId
  title : String
  argv : List String
  geometry : Option String
  spawnedAt : Duration
deriving DecidableEq, Repr, Inhabited

/-- What killing everything came to. -/
structure KillReport where
  signalled : List HandleId := []
  /-- Processes that could not be killed, with the reason. -/
  failed : List (HandleId × SubstrateError) := []
deriving DecidableEq, Repr, Inhabited

namespace KillReport

/-- The number of processes it speaks of. -/
def total (r : KillReport) : Nat := r.signalled.length + r.failed.length

/-- The report in one line. -/
def summary (r : KillReport) : String :=
  s!"killed {r.total} processes ({r.failed.length} failed)"

/-- The report with one more process at its front. -/
def cons (id : HandleId) : Except SubstrateError Unit → KillReport → KillReport
  | .ok (), r => { r with signalled := id :: r.signalled }
  | .error e, r => { r with failed := (id, e) :: r.failed }

end KillReport

/-- The tracked processes in the order of starting, and the next number. -/
structure Supervisor where
  tracked : List ProcessHandle := []
  nextIndex : Nat := 0
deriving Repr, Inhabited

namespace Supervisor

def get? (s : Supervisor) (id : HandleId) : Option ProcessHandle :=
  s.tracked.find? (·.id = id)

/-- Tracks a process that has just been started. -/
def track (s : Supervisor) (pid : Pid) (host : HostId) (request : ExecRequest)
    (now : Duration) : ProcessHandle × Supervisor :=
  let handle : ProcessHandle :=
    { id := ⟨s.nextIndex⟩, pid, host, title := request.title, argv := request.argv
      geometry := request.geometry, spawnedAt := now }
  (handle, { tracked := s.tracked ++ [handle], nextIndex := s.nextIndex + 1 })

variable {σ : Type} [Substrate σ]

/-- Starts a command on a host and tracks it. Where it does not start nothing changes here. -/
def spawn (host : HostId) (request : ExecRequest) (now : Duration) :
    Action (Supervisor × σ) TestbedError ProcessHandle := fun (sup, s) =>
  match Substrate.exec host request s with
  | (.error e, s) => (.error (.spawn host request.title e), sup, s)
  | (.ok pid, s) =>
    let (handle, sup) := sup.track pid host request now
    (.ok handle, sup, s)

/-- Kills processes one after the other, whatever comes of each. -/
def killEach : List ProcessHandle → σ → KillReport × σ
  | [], s => ({}, s)
  | h :: hs, s =>
    let (r, s) := Substrate.signalKill h.pid s
    let (report, s) := killEach hs s
    (report.cons h.id r, s)

/-- Kills every tracked process and tracks none any more. -/
def killAll (sup : Supervisor) (s : σ) : KillReport × Supervisor × σ :=
  let (report, s) := killEach sup.tracked s
  (report, { sup with tracked := [] }, s)

/-- Asks after processes one after the other. -/
def aliveEach : List ProcessHandle → σ → List (ProcessHandle × Bool) × σ
  | [], s => ([], s)
  | h :: hs, s =>
    let (alive, s) := Substrate.isAlive h.pid s
    let (rest, s) := aliveEach hs s
    ((h, alive) :: rest, s)

/-- The tracked processes, each with whether it still runs. -/
def status (sup : Supervisor) (s : σ) : List (ProcessHandle × Bool) × σ :=
  aliveEach sup.tracked s

/-- The number of tracked processes that still run. -/
def aliveCount (sup : Supervisor) (s : σ) : Nat × σ :=
  let (rows, s) := sup.status s
  ((rows.filter (·.2)).length, s)

end Supervisor

end Testbed
