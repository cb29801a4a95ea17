-- What the test bed asks of whatever provides its hosts: to create hosts and
-- links, to switch links, and to start, look at and kill processes.
import Testbed.Action
import Testbed.Network.Link
import Testbed.OsError

namespace Testbed

/-- The number of a process. -/
abbrev Pid := UInt32

/-! ## Commands -/

/-- A command to start on a host. The title and the window geometry are for show only. -/
structure ExecRequest where
  argv : List String
  title : String
  geometry : Option String := none
deriving DecidableEq, Repr, Inhabited

namespace ExecRequest

/-- An argument as it is shown: in double quotes where it is empty or holds a blank. -/
def quoted (arg : String) : String :=
  if arg.toList.any Text.isBlank || arg.isEmpty then "\"" ++ arg ++ "\"" else arg

def commandLine (r : ExecRequest) : String := Text.join " " (r.argv.map quoted)

end ExecRequest

/-! ## Refusals -/

/-- What a substrate was doing when it failed. -/
inductive Operation where
  | createNamespace (name : String)
  | nameInterface (host : HostId)
  | createLink (a b : HostId)
  | setLink (a b : HostId) (state : LinkState)
  | exec (host : HostId)
  | execTitled (title : String) (host : HostId)
  | kill (pids : List Pid)
deriving DecidableEq, Repr

namespace Operation

def text : Operation → String
  | createNamespace name => s!"create netns '{name}'"
  | nameInterface host => s!"name interface for {host.name}"
  | createLink a b => s!"create link {a.name}-{b.name}"
  | setLink a b state => s!"set link {a.name}-{b.name} {state.text}"
  | exec host => s!"exec on {host.name}"
  | execTitled title host => s!"exec '{title}' on {host.name}"
  | kill pids => Text.join " " ("kill" :: pids.map toString)

end Operation

/-- Why a substrate refused an operation that it understood. -/
inductive Refusal where
  | injected
  | noSuchLink
  | noSuchVethPair
  | emptyCommandLine
  | interfaceNameTooLong (name : String) (limit : Nat)
  | toolFailed (commandLine : List String) (complaint : String)
  | killFailed (complaint : String)
deriving DecidableEq, Repr

namespace Refusal

def text : Refusal → String
  | injected => "injected failure"
  | noSuchLink => "no such link"
  | noSuchVethPair => "no such veth pair"
  | emptyCommandLine => "empty command line"
  | interfaceNameTooLong name limit =>
    s!"'{name}' exceeds {limit} characters; use a shorter prefix"
  | toolFailed commandLine complaint => Text.join " " commandLine ++ ": " ++ complaint
  | killFailed complaint => complaint

end Refusal

/-- How an operation of a substrate fails: refused, not even attempted, or asked of a host
that was never created. -/
inductive SubstrateError where
  | rejected (op : Operation) (why : Refusal)
  | io (op : Operation) (cause : OsError)
  | unknownHost (host : HostId)
deriving DecidableEq, Repr

namespace SubstrateError

def message : SubstrateError → String
  | rejected op why => s!"{op.text} rejected: {why.text}"
  | io op cause => s!"{op.text}: {cause.message}"
  | unknownHost host => s!"substrate has no host '{host.name}'"

end SubstrateError

/-! ## The interface -/

/-- A provider of emulated hosts, links and processes, with its state as a value. -/
class Substrate (σ : Type) where
  label : String
  createHost : HostId → Action σ SubstrateError HostContext
  createLink : HostId → HostId → LinkParams → Action σ SubstrateError Unit
  setLinkState : HostId → HostId → LinkState → Action σ SubstrateError Unit
  /-- Starts a command and does not wait for it. -/
  exec : HostId → ExecRequest → Action σ SubstrateError Pid
  /-- Ends a process by force. One that is gone already is no error. -/
  signalKill : Pid → Action σ SubstrateError Unit
  /-- Looking may change the state: a process found to have ended is taken off the books. -/
  isAlive : Pid → σ → Bool × σ
  elapse : Duration → σ → σ

end Testbed
