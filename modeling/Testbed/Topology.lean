-- Named sets of hosts and links. Hosts and links are listed in the order they
-- were added, and two indexes find them by name and by pair. A topology can
-- change its shape until it is instantiated on a substrate; after that only
-- the states of its links change.
import Testbed.Error
import Testbed.Table

namespace Testbed

/-- A host and, once it exists, what the substrate calls it. -/
structure Host where
  id : HostId
  context : Option HostContext := none
deriving DecidableEq, Repr, Inhabited

/-- Hosts, links, and the indexes that give each host and each pair its position. -/
structure Topology where
  name : String
  hosts : List Host := []
  hostIndex : Table HostId Nat := ∅
  links : List Link := []
  linkIndex : Table HostPair Nat := ∅
  instantiated : Bool := false
deriving Repr, Inhabited

namespace Topology

/-! ## Look-up -/

def host? (t : Topology) (id : HostId) : Option Host := (t.hostIndex.get? id).bind (t.hosts[·]?)

/-- The link that joins two hosts, named in either order. -/
def link? (t : Topology) (a b : HostId) : Option Link :=
  (t.linkIndex.get? (.of a b)).bind (t.links[·]?)

theorem link?_comm (t : Topology) (a b : HostId) : t.link? a b = t.link? b a := by
  simp [link?, HostPair.of_comm a b]

/-- The name belongs to a host of the topology. -/
def hasHost (t : Topology) (id : HostId) : Bool := t.hostIndex.contains id

/-! ## Shape -/

/-- Adds a host at the end of the list. -/
def addHost (id : HostId) : Action Topology TestbedError Host := fun t =>
  if t.instantiated then (.error (.alreadyInstantiated t.name), t)
  else if t.hasHost id then (.error (.duplicateHost id), t)
  else
    let host : Host := { id }
    (.ok host, { t with
      hosts := t.hosts ++ [host]
      hostIndex := t.hostIndex.insert id t.hosts.length })

/-- Adds a link that is up, at the end of the list. -/
def addLink (a b : HostId) (params : LinkParams) : Action Topology TestbedError Link := fun t =>
  -- The first objection counts: to the hosts, then to the description, then to the pair.
  if t.instantiated then (.error (.alreadyInstantiated t.name), t)
  else if !t.hasHost a then (.error (.unknownHost a), t)
  else if !t.hasHost b then (.error (.unknownHost b), t)
  else
    match params.flaw? a b with
    | some flaw => (.error (.invalidLink a b flaw), t)
    | none =>
      if t.linkIndex.contains (.of a b) then (.error (.duplicateLink a b), t)
      else
        let link : Link := { a, b, params }
        (.ok link, { t with
          links := t.links ++ [link]
          linkIndex := t.linkIndex.insert (.of a b) t.links.length })

def addHosts : List HostId → Action Topology TestbedError Unit
  | [] => pure ()
  | id :: ids => do
    let _ ← addHost id
    addHosts ids

def addLinks : List (HostId × HostId × LinkParams) → Action Topology TestbedError Unit
  | [] => pure ()
  | (a, b, params) :: links => do
    let _ ← addLink a b params
    addLinks links

/-- A topology with hosts and links that are added in order; the first refusal ends it. -/
def build (name : String) (hosts : List HostId) (links : List (HostId × HostId × LinkParams)) :
    Except TestbedError Topology :=
  match (addHosts hosts >>= fun _ => addLinks links) { name } with
  | (.ok (), t) => .ok t
  | (.error e, _) => .error e

def recordState (t : Topology) (a b : HostId) (state : LinkState) : Topology :=
  match t.linkIndex.get? (.of a b) with
  | some i => { t with links := t.links.modify i ({ · with state }) }
  | none => t

/-! ## Instantiation -/

variable {σ : Type} [Substrate σ]

/-- Creates hosts in order. Each host keeps what the substrate calls it, also where a later
one cannot be created. -/
def createHosts : List Host → σ → Except SubstrateError Unit × List Host × σ
  | [], s => (.ok (), [], s)
  | h :: hs, s =>
    match Substrate.createHost h.id s with
    | (.error e, s) => (.error e, h :: hs, s)
    | (.ok context, s) =>
      let (r, hs, s) := createHosts hs s
      (r, { h with context := some context } :: hs, s)

def createLinks : List Link → Action σ SubstrateError Unit
  | [] => pure ()
  | l :: ls => do
    Substrate.createLink l.a l.b l.params
    createLinks ls

/-- Builds a topology on a substrate, hosts first and then links, both in the order they
were added. -/
def instantiate : Action (Topology × σ) TestbedError Unit := fun (t, s) =>
  if t.instantiated then (.error (.alreadyInstantiated t.name), t, s)
  else
    match createHosts t.hosts s with
    -- Hosts that were created stay so, and another attempt begins at the first one again.
    | (.error e, hosts, s) => (.error (.substrate e), { t with hosts }, s)
    | (.ok (), hosts, s) =>
      match createLinks t.links s with
      | (.error e, s) => (.error (.substrate e), { t with hosts }, s)
      | (.ok (), s) => (.ok (), { t with hosts, instantiated := true }, s)

end Topology

end Testbed
