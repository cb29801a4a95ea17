-- The networks that come with the test bed, and the names of the scenarios
-- written for them.
import Testbed.Topology

namespace Testbed.Catalogue

/-- The network that is built unless another one is asked for. -/
def defaultTopology : String := "oblig"

def topologyNames : List String := ["oblig", "h1", "h2"]

def scenarioNames : List String := ["init_oblig", "init_h1", "init"]

/-- Links with the usual bandwidth and delay. -/
def linksWith (loss : Float) (pairs : List (String × String)) :
    List (HostId × HostId × LinkParams) :=
  pairs.map fun (a, b) => (⟨a⟩, ⟨b⟩, { bandwidth := 10, delay := .ofMillis 10, loss })

def network (name : String) (hosts : List String) (loss : Float) (pairs : List (String × String)) :
    Option Topology :=
  (Topology.build name (hosts.map .mk) (linksWith loss pairs)).toOption

/-- The network with a name: a chain of three hosts, five hosts with a cycle, and the chain
again with losses. -/
def topology? (name : String) : Option Topology :=
  if name = "oblig" then network name ["A", "B", "C"] 0 [("A", "B"), ("B", "C")]
  else if name = "h1" then
    network name ["A", "B", "C", "D", "E"] 0
      [("A", "B"), ("B", "C"), ("B", "D"), ("C", "D"), ("D", "E")]
  else if name = "h2" then network name ["A", "B", "C"] 0.02 [("A", "B"), ("B", "C")]
  else none

/-- The network that a scenario was written for. -/
def scenarioTopology? (scenario : String) : Option String :=
  if scenario = "init_oblig" then some "oblig"
  else if scenario = "init_h1" then some "h1"
  else if scenario = "init" then some "h2"
  else none

end Testbed.Catalogue
