-- A substrate of network namespaces. Each host is a namespace, each link a pair
-- of interfaces with shaped traffic, and commands run inside the namespace of
-- their host. Everything goes through the tools of a machine, with privileges
-- asked for where they are needed.
import Testbed.Config
import Testbed.Machine
import Testbed.Namespaces.Shaping

namespace Testbed

/-- The two ends of a link: each host with the name of its interface. -/
structure InterfacePair where
  a : HostId
  aName : String
  b : HostId
  bName : String
deriving DecidableEq, Repr, Inhabited

/-- Namespaces on a machine. -/
structure Namespaces where
  config : NamespaceConfig := {}
  machine : Machine := {}
  names : Table HostId String := ∅
  /-- The number of interface names that each host has used up. -/
  interfaceCounts : Table HostId Nat := ∅
  links : Table HostPair InterfacePair := ∅
  /-- Processes that were started and have not been waited for. -/
  children : List Pid := []
  /-- Processes that have been waited for. -/
  reaped : List Pid := []
deriving Inhabited

namespace Namespaces

/-! ## Tools -/

/-- Privileges are asked for before every tool run. -/
def asksPrivileges (net : Namespaces) : Bool := net.config.useSudo && net.machine.euid ≠ 0

/-- The command line of a tool run. -/
def commandLine (net : Namespaces) (argv : List String) : List String :=
  if net.asksPrivileges then "sudo" :: "-n" :: argv else argv

def runTool (argv : List String) : Action Namespaces OsError Machine.Reply := fun net =>
  (Machine.run (net.commandLine argv)).within (·.machine) (fun machine net => { net with machine })
    net

/-- Runs a tool whose success does not matter. -/
def tryTool (argv : List String) : Action Namespaces SubstrateError Unit := fun net =>
  (.ok (), (runTool argv net).2)

/-- What a tool has complained, as text. -/
def complaint (reply : Machine.Reply) : String :=
  Text.trim (Text.Utf8.decodeLossy reply.complaint)

/-- Runs a tool that has to succeed. -/
def requireTool (op : Operation) (argv : List String) : Action Namespaces SubstrateError Unit :=
  fun net =>
    match runTool argv net with
    | (.error e, net) => (.error (.io op e), net)
    | (.ok reply, net) =>
      if reply.succeeded then (.ok (), net)
      else (.error (.rejected op (.toolFailed argv (complaint reply))), net)

/-- A tool run inside a namespace. -/
def inside (space : String) (argv : List String) : List String :=
  "ip" :: "netns" :: "exec" :: space :: argv

/-! ## Hosts -/

def spaceName (net : Namespaces) (host : HostId) : String :=
  net.config.namePrefix ++ "-" ++ host.name

def deleteSpace (space : String) : Action Namespaces SubstrateError Unit :=
  tryTool ["ip", "netns", "del", space]

/-- The namespace of a host that has been created. -/
def space (host : HostId) : Action Namespaces SubstrateError String := fun net =>
  match net.names.get? host with
  | some name => (.ok name, net)
  | none => (.error (.unknownHost host), net)

/-- Creates the namespace of a host after deleting one that is left over. -/
def createHost (host : HostId) : Action Namespaces SubstrateError HostContext := do
  let name ← Action.reads (·.spaceName host)
  deleteSpace name
  requireTool (.createNamespace name) ["ip", "netns", "add", name]
  tryTool (inside name ["ip", "link", "set", "lo", "up"])
  let before ← Action.reads (·.names.get? host)
  Action.modify fun net => { net with names := net.names.insert host name }
  -- A host that is created again has its namespace deleted once more.
  match before with
  | some old => deleteSpace old
  | none => pure ()
  pure ⟨name⟩

/-! ## Links -/

/-- The most bytes in the name of an interface. -/
def maxInterfaceName : Nat := 15

/-- The next interface name of a host. -/
def nextInterface (host : HostId) : Action Namespaces SubstrateError String := do
  let name ← space host
  let n ← Action.reads fun net => (net.interfaceCounts.get? host).getD 0
  let interfaceName := s!"{name}-eth{n}"
  -- A name that is too long is used up all the same.
  Action.modify fun net =>
    { net with interfaceCounts := net.interfaceCounts.insert host (n + 1) }
  Action.require (interfaceName.utf8ByteSize ≤ maxInterfaceName)
    (.rejected (.nameInterface host) (.interfaceNameTooLong interfaceName maxInterfaceName))
  pure interfaceName

/-- Moves an interface into the namespace of its host, brings it up and shapes its traffic. -/
def attach (op : Operation) (host : HostId) (interfaceName : String) (params : LinkParams) :
    Action Namespaces SubstrateError Unit := do
  let name ← space host
  requireTool op ["ip", "link", "set", interfaceName, "netns", name]
  requireTool op (inside name ["ip", "link", "set", interfaceName, "up"])
  -- Without shaping the link works all the same.
  tryTool (inside name ("tc" :: Shaping.args interfaceName params))

/-- Creates a link: names for both ends first, then a pair of interfaces, then each end in its
namespace. -/
def createLink (a b : HostId) (params : LinkParams) : Action Namespaces SubstrateError Unit := do
  let aName ← nextInterface a
  let bName ← nextInterface b
  let op := Operation.createLink a b
  -- A pair may be left over from an earlier use of the names.
  tryTool ["ip", "link", "del", aName]
  requireTool op ["ip", "link", "add", aName, "type", "veth", "peer", "name", bName]
  attach op a aName params
  attach op b bName params
  Action.modify fun net =>
    { net with links := net.links.insert (.of a b) { a, aName, b, bName } }

def switchEnd (op : Operation) (host : HostId) (interfaceName : String) (state : LinkState) :
    Action Namespaces SubstrateError Unit := do
  let name ← space host
  requireTool op (inside name ["ip", "link", "set", interfaceName, state.text])

/-- Switches both ends of a link, in the order in which the link was created. -/
def setLinkState (a b : HostId) (state : LinkState) : Action Namespaces SubstrateError Unit := do
  let op := Operation.setLink a b state
  match ← Action.reads (·.links.get? (.of a b)) with
  | none => Action.fail (.rejected op .noSuchVethPair)
  | some ends =>
    switchEnd op ends.a ends.aName state
    switchEnd op ends.b ends.bName state

/-! ## Starting processes -/

/-- The command that is run for a request: shown in a terminal where there is one. -/
def shownArgv (config : NamespaceConfig) (request : ExecRequest) : List String :=
  match config.terminal with
  | none => request.argv
  | some terminal =>
    let place := match request.geometry with
      | some geometry => ["-geometry", geometry]
      | none => []
    [terminal, "-title", request.title] ++ place ++ ["-e"] ++ request.argv

/-- The name of a log file without its ending: the title with every character that is no ASCII
letter or digit replaced. -/
def logStem (title : String) : String :=
  String.ofList (title.toList.map fun c => if c.isAlphanum then c else '_')

/-- Creates the file that takes the output of a command, if it is to be kept. A file with the
same name is emptied. -/
def openLog (title : String) : Action Namespaces OsError (Option Machine.Place) := do
  let config ← Action.reads (·.config)
  match config.terminal, config.logDir with
  | none, some dir =>
    let opened : Action Machine.Files OsError Machine.Place := do
      Machine.Files.makeDirectories (dir :: Machine.Files.above dir)
      Machine.Files.createFile (Path.join dir (logStem title ++ ".log"))
    some <$> opened.within (·.machine.files) fun files net => { net with machine.files := files }
  | _, _ => pure none

/-- Starts a command in the namespace of a host. The host, the command and the log file are
looked at in this order before anything is started. -/
def exec (host : HostId) (request : ExecRequest) : Action Namespaces SubstrateError Pid := do
  let name ← space host
  let op := Operation.execTitled request.title host
  let config ← Action.reads (·.config)
  let argv := shownArgv config request
  Action.require (!argv.isEmpty) (.rejected op .emptyCommandLine)
  let log ← (openLog request.title).mapError (.io op)
  let commandLine ← Action.reads (·.commandLine (inside name argv))
  let pid ← ((Machine.start commandLine log).within (·.machine)
    fun machine net => { net with machine }).mapError (.io op)
  Action.modify fun net => { net with children := pid :: net.children.filter (· ≠ pid) }
  pure pid

/-! ## Ending processes -/

/-- Waits for a process and notes that it has been waited for, also where the wait fails. -/
def reap (pid : Pid) (net : Namespaces) : Namespaces :=
  { net with
    machine := (Machine.wait pid net.machine).2
    children := net.children.filter (· ≠ pid)
    reaped := pid :: net.reaped }

/-- Waits for a process that was started and has ended; the answer is whether it has. -/
def reapIfEnded (pid : Pid) (net : Namespaces) : Bool × Namespaces :=
  if pid ∈ net.children then
    match net.machine.tryWait pid with
    | .ok true => (true, net.reap pid)
    -- What cannot be asked about passes for running.
    | .ok false | .error _ => (false, net)
  else (false, net)

/-- Sends processes the signal that ends them, one after the other. One that is gone already is
passed over; any other refusal ends the row. -/
def signalEach : List Pid → Action Namespaces SubstrateError Unit
  | [] => pure ()
  | pid :: pids => do
    let sent : Action Namespaces OsError Unit :=
      (Machine.signal pid).within (·.machine) fun machine net => { net with machine }
    match ← sent.attempt with
    | .ok () | .error .noSuchProcess => signalEach pids
    | .error e => Action.fail (.io (.kill [pid]) e)

/-- Kills processes: one after the other, or all by one tool run where privileges are asked
for. -/
def killAll (pids : List Pid) : Action Namespaces SubstrateError Unit := fun net =>
  if pids.isEmpty then (.ok (), net)
  else if !net.asksPrivileges then signalEach pids net
  else
    match runTool ("kill" :: "-KILL" :: pids.map toString) net with
    | (.error e, net) => (.error (.io (.kill []) e), net)
    | (.ok reply, net) =>
      -- The run also fails where one of the processes is gone already.
      if !reply.succeeded && pids.any net.machine.isRunning then
        (.error (.rejected (.kill pids) (.killFailed (complaint reply))), net)
      else (.ok (), net)

/-- Kills a process with all its descendants and waits for it. One that has been waited for is
not touched again. -/
def signalKill (pid : Pid) : Action Namespaces SubstrateError Unit := fun net =>
  if pid ∈ net.reaped then (.ok (), net)
  else
    match net.reapIfEnded pid with
    | (true, net) => (.ok (), net)
    | (false, net) =>
      -- A process that descends from itself has no list of descendants here; the walk of the
      -- program never comes to its end for it.
      match killAll ((Machine.Family.subtree net.machine.ancestry pid).getD [pid]) net with
      | (.error e, net) => (.error e, net)
      | (.ok (), net) => (.ok (), if pid ∈ net.children then net.reap pid else net)

/-- A process of the substrate is alive until it has been found to have ended; any other one is
looked up on the machine. -/
def isAlive (pid : Pid) (net : Namespaces) : Bool × Namespaces :=
  if pid ∈ net.reaped then (false, net)
  else if pid ∈ net.children then
    let (ended, net) := net.reapIfEnded pid
    (!ended, net)
  else (net.machine.isRunning pid, net)

instance : Substrate Namespaces where
  label := "netns"
  createHost := createHost
  createLink := createLink
  setLinkState := setLinkState
  exec := exec
  signalKill := signalKill
  isAlive := isAlive
  elapse _ net := net

def release (net : Namespaces) : Namespaces :=
  net.names.values.foldl (fun net name => (deleteSpace name net).2) { net with names := ∅ }

end Namespaces

end Testbed
