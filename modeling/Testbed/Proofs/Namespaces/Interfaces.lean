-- Laying the links of a topology between namespaces. A host numbers its
-- interfaces and uses no number twice, so no two links share one, and when
-- the last link is laid both ends of every link are up.
import Testbed.Proofs.Namespaces.Tools
import Testbed.Proofs.Topology.Shape

namespace Testbed

namespace Namespaces

/-! ## Names -/

/-- The name of the interface of a namespace that has a number. -/
def interfaceName (space : String) (n : Nat) : String := s!"{space}-eth{n}"

theorem interfaceName_inj {space : String} {n m : Nat}
    (h : interfaceName space n = interfaceName space m) : n = m := by
  have hrepr : n.repr = m.repr := (String.append_right_inj (space ++ "-eth")).mp h
  have hdigits := congrArg String.toList hrepr
  rw [Nat.toList_repr, Nat.toList_repr] at hdigits
  rw [← Nat.ofDigitChars_ten_toDigits (n := n), hdigits, Nat.ofDigitChars_ten_toDigits]

theorem spaceName_inj {net : Namespaces} {x y : HostId} (h : net.spaceName x = net.spaceName y) :
    x = y := by
  have hname := (String.append_right_inj (net.config.namePrefix ++ "-")).mp h
  cases x
  cases y
  exact congrArg HostId.mk hname

/-! ## Hosts -/

/-- The namespaces with a name for that of a host. -/
def named (net : Namespaces) (host : HostId) : Namespaces :=
  { net with names := net.names.insert host (net.spaceName host) }

theorem ran_named (net : Namespaces) (runs : List Machine.ToolRun) (host : HostId) :
    (net.ran runs).named host = (net.named host).ran runs := rfl

/-- Creating a host names its namespace and runs tools. -/
theorem createHost_ok {host : HostId} {context : HostContext} {net net' : Namespaces}
    (h : createHost host net = (.ok context, net')) : ∃ runs, net' = (net.named host).ran runs := by
  unfold createHost at h
  simp only [Action.bind_eq_ok, Action.reads, Action.modify, deleteSpace, Prod.mk.injEq,
    Except.ok.injEq] at h
  obtain ⟨_, _, ⟨rfl, rfl⟩, _, _, hdel, _, _, hadd, _, _, hlo, before, _, ⟨-, rfl⟩, _, _,
    ⟨-, rfl⟩, hrest⟩ := h
  obtain ⟨r₁, rfl, -⟩ := tryTool_ok hdel
  obtain rfl := requireTool_ok hadd
  obtain ⟨r₂, rfl, -⟩ := tryTool_ok hlo
  simp only [ran_ran] at hrest
  cases before with
  | none =>
    cases hrest
    exact ⟨_, rfl⟩
  | some old =>
    obtain ⟨_, _, hold, hrest⟩ := Action.bind_eq_ok.mp hrest
    obtain ⟨r₃, rfl, -⟩ := tryTool_ok hold
    cases hrest
    exact ⟨_, ran_ran (net.named host) _ r₃⟩

theorem createHost_obeyed (host : HostId) {net : Namespaces}
    (h : net.Obeyed ["netns", "add", net.spaceName host]) :
    ∃ runs, createHost host net = (.ok ⟨net.spaceName host⟩, (net.named host).ran runs) := by
  obtain ⟨r₁, hdel⟩ := tryTool_ran ["netns", "del", net.spaceName host] net
  have hadd := requireTool_obeyed (show (net.ran r₁).Obeyed _ from h)
    (.createNamespace (net.spaceName host))
  obtain ⟨r₂, hlo⟩ := tryTool_ran
    ["netns", "exec", net.spaceName host, "ip", "link", "set", "lo", "up"]
    (net.ran (r₁ ++ [net.toolRun ["ip", "netns", "add", net.spaceName host] 0]))
  rw [ran_toolRun, ran_ran] at hadd
  rw [ran_ran] at hlo
  unfold createHost
  rw [Action.reads_bind, deleteSpace, Action.bind_ok _ hdel, Action.bind_ok _ hadd, inside,
    Action.bind_ok _ hlo, Action.reads_bind, Action.modify_bind, ran_names]
  generalize r₁ ++ _ ++ r₂ = runs
  cases net.names.get? host with
  | none => exact ⟨runs, rfl⟩
  | some old =>
    obtain ⟨r₃, hold⟩ := tryTool_ran ["netns", "del", old] ((net.named host).ran runs)
    rw [ran_ran] at hold
    exact ⟨runs ++ r₃, Action.bind_ok _ hold⟩

/-- Creating hosts names the namespaces of all of them. -/
theorem createHosts_ok {hosts hosts' : List Host} {net net' : Namespaces}
    (h : Topology.createHosts hosts net = (.ok (), hosts', net')) : net'.config = net.config ∧
      ∀ host, net'.names.get? host = if host ∈ hosts.map Host.id then some (net.spaceName host)
        else net.names.get? host := by
  induction hosts generalizing net hosts' with
  | nil =>
    cases h
    simp
  | cons x hosts ih =>
    unfold Topology.createHosts at h
    split at h
    · cases h
    · next context net₁ hx =>
      obtain ⟨runs, rfl⟩ := createHost_ok hx
      rcases hrest : Topology.createHosts hosts ((net.named x.id).ran runs) with ⟨r, hs, net₂⟩
      rw [hrest] at h
      cases h
      obtain ⟨hconfig, hnames⟩ := ih hrest
      refine ⟨hconfig, fun host => ?_⟩
      have hspace : ((net.named x.id).ran runs).spaceName host = net.spaceName host := rfl
      rw [hnames, hspace, ran_names, named, Table.get?_insert]
      by_cases hx : x.id = host
      · simp [hx]
      · simp [hx, Ne.symm hx]

/-! ## One link -/

/-- The number of interface names that a host has used up. -/
def used (net : Namespaces) (host : HostId) : Nat := (net.interfaceCounts.get? host).getD 0

theorem space_ok {host : HostId} {name : String} {net net' : Namespaces}
    (h : space host net = (.ok name, net')) : net.names.get? host = some name ∧ net = net' := by
  unfold space at h
  split at h
  · next hname =>
    cases h
    exact ⟨hname, rfl⟩
  · cases h

/-- The namespaces with one more interface name of a host used up. -/
def counted (net : Namespaces) (host : HostId) : Namespaces :=
  { net with interfaceCounts := net.interfaceCounts.insert host (net.used host + 1) }

theorem used_counted (net : Namespaces) (host other : HostId) :
    (net.counted host).used other = if host = other then net.used host + 1 else net.used other := by
  unfold used counted
  rw [Table.get?_insert]
  split
  · next h => simp [h, used]
  · rfl

theorem used_counted_le (net : Namespaces) (host other : HostId) :
    net.used other ≤ (net.counted host).used other := by
  rw [used_counted]
  split
  · next h => exact h ▸ Nat.le_succ _
  · exact Nat.le_refl _

theorem nextInterface_ok {host : HostId} {i : String} {net net' : Namespaces}
    (h : nextInterface host net = (.ok i, net')) :
    ∃ space, net.names.get? host = some space ∧ i = interfaceName space (net.used host) ∧
      net' = net.counted host := by
  unfold nextInterface at h
  simp only [Action.bind_eq_ok, Action.reads, Action.modify, Prod.mk.injEq, Except.ok.injEq] at h
  obtain ⟨_, _, hspace, _, _, ⟨rfl, rfl⟩, _, _, ⟨-, rfl⟩, _, _, hfits, hlast⟩ := h
  obtain ⟨hname, rfl⟩ := space_ok hspace
  cases hlast
  unfold Action.require at hfits
  split at hfits
  · cases hfits
    exact ⟨_, hname, rfl, rfl⟩
  · cases hfits

/-- Attaching an interface brings it up and switches no other one. -/
theorem attach_ok {op : Operation} {host : HostId} {i : String} {params : LinkParams}
    {net net' : Namespaces} {u : Unit} (h : attach op host i params net = (.ok u, net')) :
    ∃ space runs, net.names.get? host = some space ∧ net' = net.ran runs ∧
      ∀ other j, Machine.interfaceState? runs other j =
        if space = other ∧ i = j then some .up else none := by
  unfold attach at h
  simp only [Action.bind_eq_ok] at h
  obtain ⟨space, _, hspace, _, _, hmove, _, _, hup, hshape⟩ := h
  obtain ⟨hname, rfl⟩ := space_ok hspace
  obtain ⟨moved, rfl, hmoved⟩ := requireTool_silent (by simp [Harmless]) hmove
  obtain rfl := requireTool_ok hup
  obtain ⟨shaped, rfl, hshaped⟩ := tryTool_ok hshape
  refine ⟨space, moved ++ [net.switchRun space i .up] ++ shaped, hname, by simp; rfl, ?_⟩
  intro other j
  have hshaped := hshaped (by simp [Harmless])
  rw [Machine.interfaceState?_append, Machine.interfaceState?_append, hmoved, hshaped,
    Machine.interfaceState?_singleton, switched?_switchRun]
  simp

/-- An interface has a name that is short enough, and the tools put it into a namespace and bring
it up when they are told to. -/
structure Attachable (net : Namespaces) (space i : String) : Prop where
  short : i.utf8ByteSize ≤ maxInterfaceName
  move : net.Obeyed ["link", "set", i, "netns", space]
  raise : net.Obeyed ["netns", "exec", space, "ip", "link", "set", i, "up"]

theorem space_of_name {host : HostId} {net : Namespaces} {name : String}
    (h : net.names.get? host = some name) : space host net = (.ok name, net) := by
  simp only [space, h]

theorem nextInterface_obeyed {host : HostId} {net : Namespaces} {space : String}
    (hname : net.names.get? host = some space)
    (hi : (interfaceName space (net.used host)).utf8ByteSize ≤ maxInterfaceName) :
    nextInterface host net = (.ok (interfaceName space (net.used host)), net.counted host) := by
  unfold nextInterface
  rw [Action.bind_ok _ (space_of_name hname), Action.reads_bind, Action.modify_bind]
  change (Action.require (decide ((interfaceName space (net.used host)).utf8ByteSize ≤
    maxInterfaceName)) _ >>= _) _ = _
  rw [decide_eq_true hi]
  rfl

theorem attach_obeyed {host : HostId} {net : Namespaces} {space i : String}
    (hname : net.names.get? host = some space) (h : net.Attachable space i) (op : Operation)
    (params : LinkParams) : ∃ runs, attach op host i params net = (.ok (), net.ran runs) := by
  have hmoved := requireTool_obeyed h.move op
  have hraised := requireTool_obeyed (show (net.ran
    [net.toolRun ["ip", "link", "set", i, "netns", space] 0]).Obeyed _ from h.raise) op
  rw [ran_ran] at hraised
  unfold attach
  rw [Action.bind_ok _ (space_of_name hname), Action.bind_ok _ hmoved, inside,
    Action.bind_ok _ hraised]
  generalize (_ ++ _ : List Machine.ToolRun) = runs
  obtain ⟨shaped, hshape⟩ := tryTool_ran
    ("netns" :: "exec" :: space :: "tc" :: Shaping.args i params) (net.ran runs)
  rw [ran_ran] at hshape
  exact ⟨_, hshape⟩

/-- The link is noted with its two interfaces, and their numbers are used up. -/
def laid (net : Namespaces) (ends : InterfacePair) : Namespaces :=
  { (net.counted ends.a).counted ends.b with
    links := net.links.insert (.of ends.a ends.b) ends }

theorem ran_laid (net : Namespaces) (runs : List Machine.ToolRun) (ends : InterfacePair) :
    (net.ran runs).laid ends = (net.laid ends).ran runs := rfl

theorem get?_links_laid (net : Namespaces) {ends : InterfacePair} {l : Link} (ha : ends.a = l.a)
    (hb : ends.b = l.b) (pair : HostPair) :
    (net.laid ends).links.get? pair =
      if l.pair = pair then some ends else net.links.get? pair := by
  unfold laid Link.pair
  rw [Table.get?_insert, ha, hb]

theorem used_laid_le (net : Namespaces) (ends : InterfacePair) (host : HostId) :
    net.used host ≤ (net.laid ends).used host :=
  Nat.le_trans (used_counted_le net ends.a host) (used_counted_le (net.counted ends.a) ends.b host)

theorem used_laid_lt (net : Namespaces) (ends : InterfacePair) {host : HostId}
    (h : host = ends.a ∨ host = ends.b) : net.used host < (net.laid ends).used host := by
  have hlaid : (net.laid ends).used host = ((net.counted ends.a).counted ends.b).used host := rfl
  have hle := used_counted_le net ends.a host
  have hle' := used_counted_le (net.counted ends.a) ends.b host
  rcases h with rfl | rfl
  · have hself : (net.counted ends.a).used ends.a = net.used ends.a + 1 := by simp [used_counted]
    omega
  · have hself : ((net.counted ends.a).counted ends.b).used ends.b =
        (net.counted ends.a).used ends.b + 1 := by simp [used_counted]
    omega

/-- The interfaces of a link with their hosts. -/
def places (ends : InterfacePair) : List (HostId × String) :=
  [(ends.a, ends.aName), (ends.b, ends.bName)]

theorem mem_places {ends : InterfacePair} {p : HostId × String} :
    p ∈ places ends ↔ p = (ends.a, ends.aName) ∨ p = (ends.b, ends.bName) := by
  simp [places]

/-- An interface is known by its namespace and its name, as every host has a namespace of its
own. -/
theorem place_eq_iff (net : Namespaces) (host other : HostId) (i j : String) :
    (net.spaceName host = net.spaceName other ∧ i = j) ↔ (other, j) = (host, i) := by
  constructor
  · rintro ⟨hspace, rfl⟩
    rw [spaceName_inj hspace]
  · intro h
    cases h
    exact ⟨rfl, rfl⟩

/-- Creating a link takes the next interface of each host, brings both up and switches no other
one. -/
theorem createLink_ok {a b : HostId} {params : LinkParams} {net net' : Namespaces} {u : Unit}
    (hab : a ≠ b) (ha : net.names.get? a = some (net.spaceName a))
    (hb : net.names.get? b = some (net.spaceName b))
    (h : createLink a b params net = (.ok u, net')) :
    ∃ ends runs, ends.a = a ∧ ends.b = b ∧
      (∀ p ∈ places ends, p.2 = interfaceName (net.spaceName p.1) (net.used p.1)) ∧
      net' = (net.laid ends).ran runs ∧
      ∀ host j, Machine.interfaceState? runs (net.spaceName host) j =
        if (host, j) ∈ places ends then some .up else none := by
  unfold createLink at h
  simp only [Action.bind_eq_ok, Action.modify] at h
  obtain ⟨_, _, hnextA, _, _, hnextB, _, _, hdel, _, _, hadd, _, _, hattachA, _, _, hattachB,
    hlast⟩ := h
  obtain ⟨aSpace, haSpace, rfl, rfl⟩ := nextInterface_ok hnextA
  obtain ⟨bSpace, hbSpace, rfl, rfl⟩ := nextInterface_ok hnextB
  have hused : (net.counted a).used b = net.used b := by rw [used_counted, if_neg hab]
  rw [hused] at hadd hattachB hlast
  obtain ⟨r₁, rfl, hr₁⟩ := tryTool_ok hdel
  obtain ⟨r₂, rfl, hr₂⟩ := requireTool_silent (by simp [Harmless]) hadd
  obtain ⟨aSpace', r₃, haSpace', rfl, hr₃⟩ := attach_ok hattachA
  obtain ⟨bSpace', r₄, hbSpace', rfl, hr₄⟩ := attach_ok hattachB
  cases hlast
  -- Neither the tools nor the counts have touched the names.
  obtain rfl : net.spaceName a = aSpace := Option.some.inj (ha.symm.trans haSpace)
  obtain rfl : net.spaceName b = bSpace := Option.some.inj (hb.symm.trans hbSpace)
  obtain rfl : net.spaceName a = aSpace' := Option.some.inj (ha.symm.trans haSpace')
  obtain rfl : net.spaceName b = bSpace' := Option.some.inj (hb.symm.trans hbSpace')
  refine ⟨⟨a, _, b, _⟩, r₁ ++ r₂ ++ r₃ ++ r₄, rfl, rfl, ?_, by simp only [ran_ran]; rfl, ?_⟩
  · intro p hp
    rcases mem_places.mp hp with rfl | rfl <;> rfl
  · intro host j
    have hr₁ := hr₁ (by simp [Harmless])
    simp only [Machine.interfaceState?_append, hr₁ _ j, hr₂ _ j, hr₃, hr₄, place_eq_iff, mem_places]
    by_cases hend : (host, j) = (b, interfaceName (net.spaceName b) (net.used b))
    · rw [if_pos hend, if_pos (Or.inr hend), Option.some_or]
    · simp only [hend, if_false, or_false, Option.none_or, Option.or_none]

theorem createLink_obeyed {a b : HostId} {net : Namespaces} {ends : InterfacePair}
    {aSpace bSpace : String} (hab : a ≠ b) (ha : net.names.get? a = some aSpace)
    (hb : net.names.get? b = some bSpace)
    (hends : ends =
      ⟨a, interfaceName aSpace (net.used a), b, interfaceName bSpace (net.used b)⟩)
    (hadd : net.Obeyed ["link", "add", ends.aName, "type", "veth", "peer", "name", ends.bName])
    (hattachA : net.Attachable aSpace ends.aName) (hattachB : net.Attachable bSpace ends.bName)
    (params : LinkParams) :
    ∃ runs, createLink a b params net = (.ok (), (net.laid ends).ran runs) := by
  subst hends
  have hused : (net.counted a).used b = net.used b := by rw [used_counted, if_neg hab]
  have hnextA := nextInterface_obeyed ha hattachA.short
  have hnextB := nextInterface_obeyed (show (net.counted a).names.get? b = some bSpace from hb)
    (by rw [hused]; exact hattachB.short)
  rw [hused] at hnextB
  obtain ⟨r₁, hdel⟩ := tryTool_ran ["link", "del", interfaceName aSpace (net.used a)]
    ((net.counted a).counted b)
  have hadded := requireTool_obeyed (show (((net.counted a).counted b).ran r₁).Obeyed _ from hadd)
    (.createLink a b)
  rw [ran_ran] at hadded
  unfold createLink
  rw [Action.bind_ok _ hnextA, Action.bind_ok _ hnextB, Action.bind_ok _ hdel,
    Action.bind_ok _ hadded]
  generalize (r₁ ++ _ : List Machine.ToolRun) = runs
  obtain ⟨r₂, hA⟩ := attach_obeyed
    (show (((net.counted a).counted b).ran runs).names.get? a = some aSpace from ha)
    ⟨hattachA.short, hattachA.move, hattachA.raise⟩ (.createLink a b) params
  rw [ran_ran] at hA
  obtain ⟨r₃, hB⟩ := attach_obeyed
    (show (((net.counted a).counted b).ran (runs ++ r₂)).names.get? b = some bSpace from hb)
    ⟨hattachB.short, hattachB.move, hattachB.raise⟩ (.createLink a b) params
  rw [ran_ran] at hB
  rw [Action.bind_ok _ hA, Action.bind_ok _ hB]
  exact ⟨_, rfl⟩

/-! ## The ends of links -/

/-- The state of an interface of a host. -/
def stateAt (net : Namespaces) (place : HostId × String) : Option LinkState :=
  (net.names.get? place.1).bind fun space =>
    Machine.interfaceState? net.machine.runs space place.2

/-- The states of the two interfaces of a link. -/
def endStates (net : Namespaces) (pair : HostPair) : Option LinkState × Option LinkState :=
  match net.links.get? pair with
  | some ends => (net.stateAt (ends.a, ends.aName), net.stateAt (ends.b, ends.bName))
  | none => (none, none)

theorem endStates_of_links {net : Namespaces} {pair : HostPair} {ends : InterfacePair}
    (h : net.links.get? pair = some ends) : net.endStates pair =
      (net.stateAt (ends.a, ends.aName), net.stateAt (ends.b, ends.bName)) := by
  simp only [endStates, h]

theorem endStates_ran {net : Namespaces} {pair : HostPair} {ends : InterfacePair}
    (h : net.links.get? pair = some ends) (runs : List Machine.ToolRun) :
    (net.ran runs).endStates pair = ((net.ran runs).stateAt (ends.a, ends.aName),
      (net.ran runs).stateAt (ends.b, ends.bName)) := endStates_of_links h

theorem stateAt_ran {net : Namespaces} {p : HostId × String}
    (h : net.names.get? p.1 = some (net.spaceName p.1)) (runs : List Machine.ToolRun) :
    (net.ran runs).stateAt p =
      (Machine.interfaceState? runs (net.spaceName p.1) p.2).or (net.stateAt p) := by
  simp [stateAt, Namespaces.ran, h, Machine.interfaceState?_append]

theorem stateAt_silent (net : Namespaces) {runs : List Machine.ToolRun}
    (h : Machine.Silent runs) (p : HostId × String) : (net.ran runs).stateAt p = net.stateAt p := by
  unfold stateAt
  rw [ran_names]
  cases net.names.get? p.1 with
  | none => rfl
  | some space => simp [Namespaces.ran, Machine.interfaceState?_append, h space p.2]

/-- The links have their interfaces in namespaces that exist. Each interface has a number that its
host has used up, and none belongs to two links. -/
structure Wired (net : Namespaces) (ids : List HostId) (links : List Link) : Prop where
  named : ∀ id ∈ ids, net.names.get? id = some (net.spaceName id)
  fits : ∀ l ∈ links, l.Fits ids
  stored : ∀ l ∈ links, ∃ ends, net.links.get? l.pair = some ends ∧ ends.a = l.a ∧ ends.b = l.b
  numbered : ∀ l ∈ links, ∀ ends, net.links.get? l.pair = some ends →
    ∀ p ∈ places ends, ∃ n < net.used p.1, p.2 = interfaceName (net.spaceName p.1) n
  apart : ∀ l ∈ links, ∀ m ∈ links, ∀ lEnds mEnds,
    net.links.get? l.pair = some lEnds → net.links.get? m.pair = some mEnds →
    ∀ p ∈ places lEnds, p ∈ places mEnds → l.pair = m.pair

namespace Wired

variable {net : Namespaces} {ids : List HostId} {links : List Link}

theorem empty (h : ∀ id ∈ ids, net.names.get? id = some (net.spaceName id)) :
    Wired net ids [] := by
  refine ⟨h, ?_, ?_, ?_, ?_⟩ <;> simp

theorem ran (h : Wired net ids links) (runs : List Machine.ToolRun) :
    Wired (net.ran runs) ids links := ⟨h.named, h.fits, h.stored, h.numbered, h.apart⟩

theorem of_shape (h : Wired net ids links) {links' : List Link}
    (hshape : links'.map Link.shape = links.map Link.shape) : Wired net ids links' := by
  have hold : ∀ l' ∈ links', ∃ l ∈ links, l.shape = l'.shape ∧ l.a = l'.a ∧ l.b = l'.b ∧
      l.pair = l'.pair := by
    intro l' hl'
    have hmem := List.mem_map_of_mem (f := Link.shape) hl'
    rw [hshape] at hmem
    obtain ⟨l, hl, hs⟩ := List.mem_map.mp hmem
    have ha : l.a = l'.a := congrArg (·.1) hs
    have hb : l.b = l'.b := congrArg (·.2.1) hs
    exact ⟨l, hl, hs, ha, hb, by rw [Link.pair, Link.pair, ha, hb]⟩
  refine ⟨h.named, ?_, ?_, ?_, ?_⟩
  · intro l' hl'
    obtain ⟨l, hl, hs, -⟩ := hold l' hl'
    exact (h.fits l hl).of_shape hs
  · intro l' hl'
    obtain ⟨l, hl, -, ha, hb, hpair⟩ := hold l' hl'
    rw [← ha, ← hb, ← hpair]
    exact h.stored l hl
  · intro l' hl'
    obtain ⟨l, hl, -, -, -, hpair⟩ := hold l' hl'
    rw [← hpair]
    exact h.numbered l hl
  · intro l' hl' m' hm'
    obtain ⟨l, hl, -, -, -, hpair⟩ := hold l' hl'
    obtain ⟨m, hm, -, -, -, hpair'⟩ := hold m' hm'
    rw [← hpair, ← hpair']
    exact h.apart l hl m hm

theorem ends_known (h : Wired net ids links) {l : Link} (hl : l ∈ links) {ends : InterfacePair}
    (hends : net.links.get? l.pair = some ends) :
    ends.a ∈ ids ∧ ends.b ∈ ids ∧ ends.a ≠ ends.b := by
  obtain ⟨ends', hends', ha, hb⟩ := h.stored l hl
  obtain rfl : ends' = ends := Option.some.inj (hends'.symm.trans hends)
  have hfits := h.fits l hl
  rw [ha, hb]
  exact ⟨hfits.a_known, hfits.b_known, hfits.distinct⟩

theorem host_known (h : Wired net ids links) {l : Link} (hl : l ∈ links) {ends : InterfacePair}
    (hends : net.links.get? l.pair = some ends) {p : HostId × String} (hp : p ∈ places ends) :
    p.1 ∈ ids := by
  obtain ⟨ha, hb, -⟩ := h.ends_known hl hends
  rcases mem_places.mp hp with rfl | rfl
  · exact ha
  · exact hb

/-- No link has an interface yet that bears the next number of its host. -/
theorem fresh (h : Wired net ids links) {l : Link} (hl : l ∈ links) {ends : InterfacePair}
    (hends : net.links.get? l.pair = some ends) {p : HostId × String} (hp : p ∈ places ends) :
    p.2 ≠ interfaceName (net.spaceName p.1) (net.used p.1) := by
  obtain ⟨n, hn, hname⟩ := h.numbered l hl ends hends p hp
  intro hnext
  have hsame := interfaceName_inj (hname.symm.trans hnext)
  omega

/-- One more link, with interfaces that bear the next numbers of their hosts. -/
theorem laid (h : Wired net ids links) {l : Link} (hfits : l.Fits ids)
    (hnew : l.pair ∉ links.map Link.pair) {ends : InterfacePair} (ha : ends.a = l.a)
    (hb : ends.b = l.b)
    (hnext : ∀ p ∈ places ends, p.2 = interfaceName (net.spaceName p.1) (net.used p.1)) :
    Wired (net.laid ends) ids (links ++ [l]) := by
  have hself : (net.laid ends).links.get? l.pair = some ends := by
    rw [get?_links_laid net ha hb, if_pos rfl]
  have hold : ∀ m ∈ links, (net.laid ends).links.get? m.pair = net.links.get? m.pair := by
    intro m hm
    rw [get?_links_laid net ha hb, if_neg]
    exact fun heq => hnew (heq ▸ List.mem_map_of_mem hm)
  have hsplit : ∀ m ∈ links ++ [l], ∀ mEnds, (net.laid ends).links.get? m.pair = some mEnds →
      (m ∈ links ∧ net.links.get? m.pair = some mEnds) ∨ (m = l ∧ mEnds = ends) := by
    intro m hm mEnds hmEnds
    rcases List.mem_append.mp hm with hm | hm
    · exact Or.inl ⟨hm, hold m hm ▸ hmEnds⟩
    · obtain rfl := List.mem_singleton.mp hm
      exact Or.inr ⟨rfl, Option.some.inj (hmEnds.symm.trans hself)⟩
  -- An old link and the new one have no interface in common.
  have hfresh : ∀ m ∈ links, ∀ mEnds, net.links.get? m.pair = some mEnds →
      ∀ p ∈ places mEnds, p ∉ places ends := by
    intro m hm mEnds hmEnds p hp hp'
    exact h.fresh hm hmEnds hp (hnext p hp')
  refine ⟨h.named, ?_, ?_, ?_, ?_⟩
  · intro m hm
    rcases List.mem_append.mp hm with hm | hm
    · exact h.fits m hm
    · exact List.mem_singleton.mp hm ▸ hfits
  · intro m hm
    rcases List.mem_append.mp hm with hm | hm
    · rw [hold m hm]
      exact h.stored m hm
    · obtain rfl := List.mem_singleton.mp hm
      exact ⟨ends, hself, ha, hb⟩
  · intro m hm mEnds hmEnds p hp
    rcases hsplit m hm mEnds hmEnds with ⟨hm, hmEnds⟩ | ⟨rfl, rfl⟩
    · obtain ⟨n, hn, hname⟩ := h.numbered m hm mEnds hmEnds p hp
      exact ⟨n, Nat.lt_of_lt_of_le hn (used_laid_le net ends p.1), hname⟩
    · refine ⟨net.used p.1, used_laid_lt net mEnds ?_, hnext p hp⟩
      exact (mem_places.mp hp).imp (congrArg Prod.fst) (congrArg Prod.fst)
  · intro m hm k hk mEnds kEnds hmEnds hkEnds p hp hp'
    rcases hsplit m hm mEnds hmEnds with ⟨hmOld, hmEndsOld⟩ | ⟨rfl, rfl⟩ <;>
      rcases hsplit k hk kEnds hkEnds with ⟨hkOld, hkEndsOld⟩ | ⟨rfl, rfl⟩
    · exact h.apart m hmOld k hkOld mEnds kEnds hmEndsOld hkEndsOld p hp hp'
    · exact absurd hp' (hfresh m hmOld mEnds hmEndsOld p hp)
    · exact absurd hp (hfresh k hkOld kEnds hkEndsOld p hp')
    · rfl

/-- After one more link is laid it is up at both ends, and the others are as they were. -/
theorem createLink (h : Wired net ids links) {l : Link} (hfits : l.Fits ids)
    (hnew : l.pair ∉ links.map Link.pair) {net' : Namespaces} {u : Unit}
    (hl : Namespaces.createLink l.a l.b l.params net = (.ok u, net')) :
    Wired net' ids (links ++ [l]) ∧ net'.endStates l.pair = (some .up, some .up) ∧
      ∀ m ∈ links, net'.endStates m.pair = net.endStates m.pair := by
  have ha := h.named _ hfits.a_known
  have hb := h.named _ hfits.b_known
  obtain ⟨ends, runs, hea, heb, hnext, rfl, hruns⟩ := createLink_ok hfits.distinct ha hb hl
  have hlaid := h.laid hfits hnew hea heb hnext
  -- What the runs do to an interface of a host of the topology.
  have hstate : ∀ p : HostId × String, p.1 ∈ ids → ((net.laid ends).ran runs).stateAt p =
      if p ∈ places ends then some .up else net.stateAt p := by
    intro p hp
    have hspace : (net.laid ends).spaceName p.1 = net.spaceName p.1 := rfl
    rw [stateAt_ran (hlaid.named p.1 hp), hspace, hruns]
    split
    · rfl
    · exact Option.none_or
  refine ⟨hlaid.ran runs, ?_, ?_⟩
  · have hends : ((net.laid ends).ran runs).links.get? l.pair = some ends := by
      rw [ran_links, get?_links_laid net hea heb, if_pos rfl]
    rw [endStates_of_links hends, hstate _ (hea ▸ hfits.a_known), hstate _ (heb ▸ hfits.b_known)]
    simp [mem_places]
  · intro m hm
    obtain ⟨mEnds, hmEnds, -⟩ := h.stored m hm
    have hpair : l.pair ≠ m.pair := fun heq => hnew (heq ▸ List.mem_map_of_mem hm)
    have hends : ((net.laid ends).ran runs).links.get? m.pair = some mEnds := by
      rw [ran_links, get?_links_laid net hea heb, if_neg hpair, hmEnds]
    have hsame : ∀ p ∈ places mEnds, ((net.laid ends).ran runs).stateAt p = net.stateAt p := by
      intro p hp
      rw [hstate p (h.host_known hm hmEnds hp), if_neg]
      exact fun hp' => h.fresh hm hmEnds hp (hnext p hp')
    rw [endStates_of_links hends, endStates_of_links hmEnds, hsame _ (mem_places.mpr (Or.inl rfl)),
      hsame _ (mem_places.mpr (Or.inr rfl))]

end Wired

/-! ## All links -/

/-- Laying links one after the other keeps to this, and in the end all of them are up. -/
theorem createLinks_ok {ids : List HostId} {laid links : List Link} {net net' : Namespaces}
    (h : Wired net ids laid) (hfits : ∀ l ∈ links, l.Fits ids)
    (hpairs : ((laid ++ links).map Link.pair).Nodup)
    (hup : ∀ l ∈ laid, net.endStates l.pair = (some .up, some .up))
    (hlinks : Topology.createLinks links net = (.ok (), net')) :
    Wired net' ids (laid ++ links) ∧
      ∀ l ∈ laid ++ links, net'.endStates l.pair = (some .up, some .up) := by
  induction links generalizing laid net with
  | nil =>
    cases hlinks
    rw [List.append_nil]
    exact ⟨h, hup⟩
  | cons l links ih =>
    unfold Topology.createLinks at hlinks
    obtain ⟨u, net₁, hl, hrest⟩ := Action.bind_eq_ok.mp hlinks
    have hcut : laid ++ l :: links = laid ++ [l] ++ links := by simp
    rw [hcut] at hpairs ⊢
    have hnew : l.pair ∉ laid.map Link.pair := by
      intro hmem
      rw [List.map_append, List.map_append] at hpairs
      have hfirst := (List.nodup_append.mp (List.nodup_append.mp hpairs).1).2.2
      exact hfirst _ hmem _ (by simp) rfl
    obtain ⟨hwired, hl', hsame⟩ := h.createLink (hfits l List.mem_cons_self) hnew hl
    refine ih hwired (fun m hm => hfits m (List.mem_cons_of_mem l hm)) hpairs ?_ hrest
    intro m hm
    rcases List.mem_append.mp hm with hm | hm
    · rw [hsame m hm]
      exact hup m hm
    · exact List.mem_singleton.mp hm ▸ hl'

/-- A topology that has been built has its interfaces, and every link is up. -/
theorem instantiate_ok {t t' : Topology} {net net' : Namespaces} (built : t.Built)
    (h : Topology.instantiate (t, net) = (.ok (), t', net')) : Wired net' t'.ids t'.links ∧
      ∀ l ∈ t'.links, l.state = .up ∧ net'.endStates l.pair = (some .up, some .up) := by
  obtain ⟨hi, hosts, net₁, hhosts, hlinks, rfl⟩ := Topology.instantiate_ok h
  obtain ⟨hconfig, hnames⟩ := createHosts_ok hhosts
  have hids : hosts.map Host.id = t.ids := by
    have hids := Topology.createHosts_ids t.hosts net
    rwa [hhosts] at hids
  have hnamed : ∀ id ∈ t.ids, net₁.names.get? id = some (net₁.spaceName id) := by
    intro id hid
    have hname := (hnames id).trans (if_pos hid)
    rwa [spaceName, ← hconfig] at hname
  obtain ⟨hwired, hup⟩ := createLinks_ok (Wired.empty hnamed) built.fits
    built.sound.link_index.nodup (fun _ hl => absurd hl List.not_mem_nil) hlinks
  refine ⟨?_, fun l hl => ⟨built.sound.up_before hi l hl, hup l hl⟩⟩
  rw [Topology.ids, hids]
  exact hwired

end Namespaces

end Testbed
