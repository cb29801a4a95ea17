-- The machine that namespaces live on: which tools are installed and how they
-- answer, what the system says when a process is to be ended, waited for or
-- looked at, which processes there are, and what is in the files. A tool run is
-- written down with its exit status, a signal with its process. Time does not
-- pass by itself: a process runs until it is killed or told to end.
import Testbed.Machine.Family
import Testbed.Machine.Files
import Testbed.Machine.Stat

namespace Testbed

namespace Machine

/-- A process on the table. One that has ended stays there until it has been waited for. -/
structure Process where
  command : String
  parent : Pid
  /-- The file that takes what it writes. -/
  output : Option Place := none
  running : Bool := true
deriving DecidableEq, Repr, Inhabited

/-- A tool run, with its exit status unless it was left running. -/
structure ToolRun where
  argv : List String
  exit : Option UInt8
deriving DecidableEq, Repr, Inhabited

/-- The outcome of a tool run: its exit status, what it complains, and whether it has done its
work. -/
structure Reply where
  exit : UInt8 := 0
  complaint : List UInt8 := []
  acts : Bool := true
deriving DecidableEq, Repr, Inhabited

def Reply.succeeded (r : Reply) : Bool := r.exit = 0

/-- The process that everything descends from. -/
def init : Pid := 1

/-- The process of the test bed itself. -/
def self : Pid := 100

end Machine

structure Machine where
  /-- The user on whose behalf the test bed runs; zero may do everything. -/
  euid : Nat := 0
  /-- The tools that can be started. -/
  tools : List String := ["ip", "sudo"]
  /-- How the tools answer: the number of runs before and the command line decide. Without an
  answer a tool does its work in silence and succeeds. -/
  answer : Nat → List String → Option Machine.Reply := fun _ _ => none
  /-- How many descendants a daemon starts, each the child of the one before. -/
  offspring : List String → Nat := fun _ => 0
  /-- How the system answers a signal that ends a process: the number of signals before and the
  process decide. Without an answer the process ends. -/
  answerKill : Nat → Pid → Option OsError := fun _ _ => none
  /-- How it answers when a process is waited for: the number of tool runs before and the process
  decide. Without an answer the wait comes to its end. -/
  answerWait : Nat → Pid → Option OsError := fun _ _ => none
  /-- The processes whose status lines are not to be read. -/
  hides : Pid → Bool := fun _ => false
  /-- The tool runs so far, oldest first. -/
  runs : List Machine.ToolRun := []
  /-- The processes that were sent a signal so far, oldest first. -/
  signalled : List Pid := []
  processes : Table Pid Machine.Process :=
    ⟨[(Machine.init, { command := "init", parent := 0 }),
      (Machine.self, { command := "testbed", parent := Machine.init })]⟩
  /-- Numbers for the next processes; after them the numbers count up from the last one. -/
  plannedPids : List Pid := []
  lastPid : Pid := Machine.self
  files : Machine.Files := {}
deriving Inhabited

namespace Machine

/-! ## Looking at processes -/

/-- A process whose status line can be read. -/
def visible? (m : Machine) (pid : Pid) : Option Process :=
  if m.hides pid then none else m.processes.get? pid

def statusLine? (m : Machine) (pid : Pid) : Option String :=
  (m.visible? pid).map fun p =>
    Stat.line pid p.command (if p.running then 'S' else 'Z') p.parent " 0"

/-- The process can be seen, and its state is neither dead nor waited for. -/
def isRunning (m : Machine) (pid : Pid) : Bool :=
  match (m.statusLine? pid).bind Stat.state? with
  | some state => state ≠ 'Z' && state ≠ 'X'
  | none => false

/-- The processes that can be seen with their parents, as their status lines give them. -/
def ancestry (m : Machine) : Family.Ancestry :=
  m.processes.keys.filterMap fun pid =>
    ((m.statusLine? pid).bind Stat.parent?).map fun parent => (pid, parent)

/-- A process that the test bed started has ended. -/
def hasEnded (m : Machine) (pid : Pid) : Bool :=
  match m.processes.get? pid with
  | some p => !p.running
  | none => true

/-! ## Ending processes -/

/-- A process ends, and its children pass to the first process. It stays on the table if the
test bed has started it. -/
def finish (pid : Pid) (m : Machine) : Machine :=
  let adopted := m.processes.map fun p => if p.parent = pid then { p with parent := init } else p
  match adopted.get? pid with
  | none => m
  | some p =>
    { m with processes :=
        if p.parent = self then adopted.insert pid { p with running := false }
        else adopted.erase pid }

/-- What the system says against a signal to a process. There may be no such process. -/
def killRefusal? (m : Machine) (pid : Pid) : Option OsError :=
  if (m.processes.get? pid).isNone then some .noSuchProcess
  else m.answerKill m.signalled.length pid

def recordSignal (pid : Pid) (m : Machine) : Machine :=
  { m with signalled := m.signalled ++ [pid] }

/-- Sends a process the signal that ends it. -/
def signal (pid : Pid) : Action Machine OsError Unit := fun m =>
  match m.killRefusal? pid with
  | some e => (.error e, m.recordSignal pid)
  | none => (.ok (), (m.recordSignal pid).finish pid)

/-- What the system says against waiting for a process. -/
def waitRefusal? (m : Machine) (pid : Pid) : Option OsError := m.answerWait m.runs.length pid

/-- Whether a process of the test bed has ended, as far as the system tells. -/
def tryWait (pid : Pid) (m : Machine) : Except OsError Bool :=
  match m.waitRefusal? pid with
  | some e => .error e
  | none => .ok (m.hasEnded pid)

/-- Waits for a process of the test bed: when this is over it has ended and is off the table. -/
def wait (pid : Pid) : Action Machine OsError Unit := fun m =>
  match m.waitRefusal? pid with
  | some e => (.error e, m)
  | none =>
    let ended := m.finish pid
    (.ok (), { ended with processes := ended.processes.erase pid })

/-! ## Starting processes -/

def nextPid (m : Machine) : Pid := m.plannedPids.headD (m.lastPid + 1)

def addProcess (process : Process) (m : Machine) : Machine :=
  { m with
    processes := m.processes.insert m.nextPid process
    plannedPids := m.plannedPids.tail
    lastPid := if m.plannedPids.isEmpty then m.nextPid else m.lastPid }

/-- Starts a chain of `n` processes like one that runs already, each the parent of the next. -/
def addChain (like : Process) : Nat → Pid → Machine → Machine
  | 0, _, m => m
  | n + 1, parent, m => addChain like n m.nextPid (m.addProcess { like with parent })

/-! ## Command lines -/

/-- The command that is carried out where privileges are asked for. -/
def privileged : List String → List String
  | "sudo" :: "-n" :: argv => argv
  | argv => argv

/-- A command that keeps running inside a namespace: any that is not itself a tool. -/
def daemon? (argv : List String) : Option (List String) :=
  match privileged argv with
  | "ip" :: "netns" :: "exec" :: _ :: program :: args =>
    if program = "ip" || program = "tc" then none else some (program :: args)
  | _ => none

/-- A command line can be passed to the system, and its program exists. -/
def accept (m : Machine) (argv : List String) : Except OsError Unit :=
  if argv.any fun word => '\x00' ∈ word.toList then .error .nulInArgument
  else if argv.headD "" ∈ m.tools then .ok ()
  else .error .noSuchFile

def reply? (m : Machine) (argv : List String) : Option Reply := m.answer m.runs.length argv

def record (argv : List String) (exit : Option UInt8) (m : Machine) : Machine :=
  { m with runs := m.runs ++ [{ argv, exit }] }

/-! ## Running tools -/

/-- What a tool does to the machine: only the one that kills does anything here. -/
def carryOut (argv : List String) (m : Machine) : Machine :=
  match privileged argv with
  | "kill" :: "-KILL" :: pids => (pids.filterMap Stat.pid?).foldl (fun m pid => m.finish pid) m
  | _ => m

def run (argv : List String) : Action Machine OsError Reply := fun m =>
  match m.accept argv with
  | .error e => (.error e, m)
  | .ok () =>
    let reply := (m.reply? argv).getD {}
    let m := m.record argv (some reply.exit)
    (.ok reply, if reply.acts then m.carryOut argv else m)

/-- Adds to the file that takes the output of a process, if there is one. -/
def print (log : Option Place) (bytes : List UInt8) (m : Machine) : Machine :=
  match log with
  | some p => { m with files := m.files.append p bytes }
  | none => m

/-- What a daemon writes when it starts: its command line. -/
def greeting (daemon : List String) : List UInt8 := Text.Utf8.encode (Text.join " " daemon ++ "\n")

/-- Starts a command and does not wait for it. A daemon writes its greeting and keeps running,
unless the machine answers for it; anything else ends at once. -/
def start (argv : List String) (log : Option Place) : Action Machine OsError Pid := fun m =>
  match m.accept argv with
  | .error e => (.error e, m)
  | .ok () =>
    let pid := m.nextPid
    let reply? := m.reply? argv
    let reply := reply?.getD {}
    let process : Process := { command := argv.headD "", parent := self, output := log }
    let m := m.addProcess process
    match daemon? argv, reply? with
    | some daemon, none =>
      let m := (m.record argv none).print log (greeting daemon)
      (.ok pid, m.addChain process (m.offspring daemon) pid)
    | some daemon, some reply =>
      let m := (m.record argv (some reply.exit)).print log (greeting daemon ++ reply.complaint)
      (.ok pid, m.finish pid)
    | none, _ =>
      let m := (m.record argv (some reply.exit)).print log reply.complaint
      (.ok pid, m.finish pid)

end Machine

end Testbed
