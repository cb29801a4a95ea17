-- Scenarios: named lists of steps that start processes, let time pass, and
-- switch links.
import Testbed.Topology

namespace Testbed

inductive Step where
  | spawn (host : HostId) (request : ExecRequest)
  | wait (d : Duration)
  | setLink (a b : HostId) (state : LinkState)
deriving DecidableEq, Repr

namespace Step

/-- The hosts a step names, in the order in which it names them. -/
def hosts : Step → List HostId
  | spawn host _ => [host]
  | wait _ => []
  | setLink a b _ => [a, b]

def wait? : Step → Option Duration
  | wait d => some d
  | _ => none

end Step

structure Scenario where
  name : String
  description : String := ""
  steps : List Step
deriving DecidableEq, Repr

namespace Scenario

/-- The hosts a scenario names, in the order of its steps. -/
def hosts (s : Scenario) : List HostId := s.steps.flatMap Step.hosts

/-- The time a run takes at least: the sum of the waits, unless it passes the longest
length of time. -/
def totalWait? (s : Scenario) : Option Duration := Duration.sum? (s.steps.filterMap Step.wait?)

end Scenario

/-- Every host that a scenario names must exist; the first that does not is the error. -/
def Topology.validate (t : Topology) (s : Scenario) : Except TestbedError Unit :=
  match s.hosts.find? (!t.hasHost ·) with
  | some host => .error (.unknownHost host)
  | none => .ok ()

end Testbed
