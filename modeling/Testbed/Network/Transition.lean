-- Switching a link of an instantiated topology. The new state is recorded
-- only after the substrate has applied it, and a link that is in the wanted
-- state already is left alone.
import Testbed.Topology

namespace Testbed

/-- What switching a link came to. -/
inductive Transition where
  | changed (before after : LinkState)
  | unchanged (state : LinkState)
deriving DecidableEq, Repr

namespace Topology

variable {σ : Type} [Substrate σ]

/-- Switches the link between two hosts. The substrate hears of it with the hosts in the
order in which the link was added. -/
def switchLink (a b : HostId) (state : LinkState) :
    Action (Topology × σ) TestbedError Transition := fun (t, s) =>
  if !t.instantiated then (.error (.notInstantiated t.name), t, s)
  else
    match t.link? a b with
    | none => (.error (.linkNotFound a b), t, s)
    | some l =>
      if l.state = state then (.ok (.unchanged state), t, s)
      else
        match Substrate.setLinkState l.a l.b state s with
        | (.error e, s) => (.error (.substrate e), t, s)
        | (.ok (), s) => (.ok (.changed l.state state), t.recordState a b state, s)

end Topology

end Testbed
