-- Everything that can go wrong while a topology is built or a scenario runs.
import Testbed.Substrate

namespace Testbed

inductive TestbedError where
  | duplicateHost (host : HostId)
  | unknownHost (host : HostId)
  | duplicateLink (a b : HostId)
  | invalidLink (a b : HostId) (flaw : LinkFlaw)
  | linkNotFound (a b : HostId)
  | notInstantiated (topology : String)
  | alreadyInstantiated (topology : String)
  | sessionClosed
  | substrate (cause : SubstrateError)
  | spawn (host : HostId) (title : String) (cause : SubstrateError)
deriving Repr

namespace TestbedError

def message : TestbedError → String
  | duplicateHost host => s!"host '{host.name}' already exists"
  | unknownHost host => s!"unknown host '{host.name}'"
  | duplicateLink a b => s!"link {a.name}-{b.name} already exists"
  | invalidLink a b flaw => s!"invalid link {a.name}-{b.name}: {flaw.text}"
  | linkNotFound a b => s!"no link between {a.name} and {b.name}"
  | notInstantiated topology =>
    s!"topology '{topology}' has not been instantiated on a substrate"
  | alreadyInstantiated topology =>
    s!"topology '{topology}' is already instantiated and can no longer change shape"
  | sessionClosed => "session has already been shut down"
  | substrate cause => s!"substrate error: {cause.message}"
  | spawn host title cause => s!"failed to spawn '{title}' on {host.name}: {cause.message}"

end TestbedError

end Testbed
