-- A substrate in memory. It writes down every call with the time it came at,
-- hands out process numbers in order, and can be told to fail. Hosts are never
-- refused; everything else is refused for an unknown host or link, for an
-- empty command, or on request.
import Testbed.Clock
import Testbed.Substrate
import Testbed.Table

namespace Testbed

namespace Simulator

/-- A call to the substrate. -/
inductive Op where
  | createHost (host : HostId)
  | createLink (a b : HostId)
  | setLink (a b : HostId) (state : LinkState)
  | exec (host : HostId) (argv : List String)
  | kill (pid : Pid)
deriving DecidableEq, Repr

/-- A call as it was written down. -/
structure Call where
  time : Duration
  op : Op
  ok : Bool
deriving DecidableEq, Repr

structure Process where
  host : HostId
  argv : List String
  title : String
  alive : Bool := true
deriving DecidableEq, Repr, Inhabited

end Simulator

/-- The state of the simulated network. -/
structure Simulator where
  /-- The clock that stamps the calls. -/
  clock : Clock := {}
  /-- The clock moves with the time of its surroundings; else it stands still. -/
  followsTime : Bool := true
  hosts : Table HostId HostContext := ∅
  links : Table HostPair LinkState := ∅
  processes : Table Pid Simulator.Process := ∅
  nextPid : Pid := 1000
  /-- The calls so far, oldest first. -/
  calls : List Simulator.Call := []
  failingExec : List HostId := []
  failingLinks : List HostPair := []
  failingKills : List Pid := []
deriving Repr, Inhabited

namespace Simulator

/-! ## Making and looking -/

/-- A network whose clock never moves. -/
def standingStill : Simulator := { followsTime := false }

/-- A network whose clock never moves and whose first process is number zero. -/
def blank : Simulator := { followsTime := false, nextPid := 0 }

def linkState? (s : Simulator) (a b : HostId) : Option LinkState := s.links.get? (.of a b)

def process? (s : Simulator) (pid : Pid) : Option Process := s.processes.get? pid

/-- The numbers of the processes that are alive, in increasing order. -/
def alivePids (s : Simulator) : List Pid :=
  (s.processes.rows.filterMap fun r => if r.2.alive then some r.1 else none).mergeSort
    (fun a b => a.toNat ≤ b.toNat)

/-! ## Failures and exits on request -/

/-- From now on no command starts on a host. -/
def failExecOn (s : Simulator) (host : HostId) : Simulator :=
  { s with failingExec := host :: s.failingExec }

/-- From now on the link between two hosts cannot be switched. -/
def failLink (s : Simulator) (a b : HostId) : Simulator :=
  { s with failingLinks := .of a b :: s.failingLinks }

/-- From now on a process cannot be killed. -/
def failKill (s : Simulator) (pid : Pid) : Simulator :=
  { s with failingKills := pid :: s.failingKills }

/-- Nothing fails on request any more. -/
def clearFailures (s : Simulator) : Simulator :=
  { s with failingExec := [], failingLinks := [], failingKills := [] }

def markDead (s : Simulator) (pid : Pid) : Simulator :=
  { s with processes := s.processes.modify pid ({ · with alive := false }) }

/-- A process ends by itself. Nothing is written down. -/
def exitProcess (s : Simulator) (pid : Pid) : Simulator := s.markDead pid

/-! ## Calls -/

def record (s : Simulator) (op : Op) (ok : Bool) : Simulator :=
  { s with calls := s.calls ++ [{ time := s.clock.now, op, ok }] }

/-- Writes a refused call down and refuses it. -/
def refuse {α : Type} (op : Op) (e : SubstrateError) : Action Simulator SubstrateError α :=
  fun s => (.error e, s.record op false)

/-- Hosts are never refused; creating one again changes nothing. -/
def createHost (id : HostId) : Action Simulator SubstrateError HostContext := fun s =>
  let context : HostContext := ⟨"sim-" ++ id.name⟩
  (.ok context, { s with hosts := s.hosts.insert id context }.record (.createHost id) true)

/-- A new link is up, and so is one that is created again. -/
def createLink (a b : HostId) : Action Simulator SubstrateError Unit := fun s =>
  let op := Op.createLink a b
  if !s.hosts.contains a then refuse op (.unknownHost a) s
  else if !s.hosts.contains b then refuse op (.unknownHost b) s
  else (.ok (), { s with links := s.links.insert (.of a b) .up }.record op true)

/-- A link that was never created cannot be switched; one that is in the wanted state already
is switched all the same. -/
def setLinkState (a b : HostId) (state : LinkState) : Action Simulator SubstrateError Unit :=
  fun s =>
    let op := Op.setLink a b state
    let pair := HostPair.of a b
    if pair ∈ s.failingLinks then refuse op (.rejected (.setLink a b state) .injected) s
    else if !s.links.contains pair then refuse op (.rejected (.setLink a b state) .noSuchLink) s
    else (.ok (), { s with links := s.links.insert pair state }.record op true)

/-- An empty command is refused with the same words as a requested failure. -/
def exec (host : HostId) (request : ExecRequest) : Action Simulator SubstrateError Pid :=
  fun s =>
    let op := Op.exec host request.argv
    if !s.hosts.contains host then refuse op (.unknownHost host) s
    else if host ∈ s.failingExec || request.argv.isEmpty then
      refuse op (.rejected (.exec host) .injected) s
    else
      let process : Process := { host, argv := request.argv, title := request.title }
      (.ok s.nextPid, { s with
        nextPid := s.nextPid + 1
        processes := s.processes.insert s.nextPid process }.record op true)

/-- A number that belongs to no process is no error. -/
def signalKill (pid : Pid) : Action Simulator SubstrateError Unit := fun s =>
  if pid ∈ s.failingKills then refuse (.kill pid) (.rejected (.kill [pid]) .injected) s
  else (.ok (), (s.markDead pid).record (.kill pid) true)

/-- The process was started and has not ended. -/
def isAlive (s : Simulator) (pid : Pid) : Bool := ((s.process? pid).map (·.alive)).getD false

/-- Lets time pass for a clock that follows it. -/
def elapse (d : Duration) (s : Simulator) : Simulator :=
  if s.followsTime then { s with clock := s.clock.advance d } else s

instance : Substrate Simulator where
  label := "sim"
  createHost := createHost
  createLink a b _ := createLink a b
  setLinkState := setLinkState
  exec := exec
  signalKill := signalKill
  isAlive pid s := (s.isAlive pid, s)
  elapse := elapse

end Simulator

end Testbed
