-- Topologies that can be made. Whatever is added, refused, built on a
-- substrate or switched, the two indexes give each host and each pair its
-- place in the list, so that look-up finds what a search of the list finds.
import Testbed.Network.Transition

namespace Testbed

/-! ## An index of a list -/

/-- The index gives every key the place of the one item that has it. -/
def Indexes {κ α : Type} [DecidableEq κ] (index : Table κ Nat) (items : List α) (key : α → κ) :
    Prop := ∀ k i, index.get? k = some i ↔ ∃ x, items[i]? = some x ∧ key x = k

namespace Indexes

variable {κ α : Type} [DecidableEq κ] {index : Table κ Nat} {items : List α} {key : α → κ}

theorem empty (key : α → κ) : Indexes ∅ [] key := by
  intro k i
  simp

/-- Two keys with the same place are the same key. -/
theorem inj (h : Indexes index items key) {k k' : κ} {i : Nat} (hk : index.get? k = some i)
    (hk' : index.get? k' = some i) : k = k' := by
  obtain ⟨x, hx, rfl⟩ := (h k i).mp hk
  obtain ⟨y, hy, rfl⟩ := (h k' i).mp hk'
  rw [hx] at hy
  cases hy
  rfl

/-- Going through the index finds the item of a key, wherever it stands. -/
theorem find_iff (h : Indexes index items key) (k : κ) (x : α) :
    (index.get? k).bind (items[·]?) = some x ↔ x ∈ items ∧ key x = k := by
  rw [Option.bind_eq_some_iff]
  constructor
  · rintro ⟨i, hi, hx⟩
    obtain ⟨y, hy, hk⟩ := (h k i).mp hi
    rw [hx] at hy
    cases hy
    exact ⟨List.mem_of_getElem? hx, hk⟩
  · rintro ⟨hmem, hk⟩
    obtain ⟨i, hi⟩ := List.getElem?_of_mem hmem
    exact ⟨i, (h k i).mpr ⟨x, hi, hk⟩, hi⟩

theorem contains_iff (h : Indexes index items key) (k : κ) :
    index.contains k = true ↔ ∃ x ∈ items, key x = k := by
  unfold Table.contains
  rw [Option.isSome_iff_exists]
  constructor
  · rintro ⟨i, hi⟩
    obtain ⟨x, hx, hk⟩ := (h k i).mp hi
    exact ⟨x, List.mem_of_getElem? hx, hk⟩
  · rintro ⟨x, hmem, hk⟩
    obtain ⟨i, hi⟩ := List.getElem?_of_mem hmem
    exact ⟨i, (h k i).mpr ⟨x, hi, hk⟩⟩

/-- Going through the index finds what a search of the list finds. -/
theorem find_eq (h : Indexes index items key) (k : κ) :
    (index.get? k).bind (items[·]?) = items.find? (key · = k) := by
  rcases hf : items.find? (key · = k) with _ | x
  · rw [Option.eq_none_iff_forall_ne_some]
    intro x hx
    obtain ⟨hmem, hk⟩ := (h.find_iff k x).mp hx
    exact List.find?_eq_none.mp hf x hmem (by simpa using hk)
  · exact (h.find_iff k x).mpr
      ⟨List.mem_of_find?_eq_some hf, by simpa using List.find?_some hf⟩

/-- No key belongs to two items. -/
theorem nodup (h : Indexes index items key) : (items.map key).Nodup := by
  rw [List.Nodup, List.pairwise_map, List.pairwise_iff_getElem]
  intro i j hi hj hij heq
  have hfirst := (h _ i).mpr ⟨_, List.getElem?_eq_getElem hi, heq⟩
  rw [(h _ j).mpr ⟨_, List.getElem?_eq_getElem hj, rfl⟩] at hfirst
  cases hfirst
  exact Nat.lt_irrefl _ hij

/-- An item with a new key goes to the end of the list. -/
theorem append (h : Indexes index items key) (x : α) (hnew : index.contains (key x) = false) :
    Indexes (index.insert (key x) items.length) (items ++ [x]) key := by
  intro k i
  rw [Table.get?_insert, List.getElem?_append]
  have hnone : ∀ y ∈ items, key y ≠ key x := fun y hy hk => by
    rw [(h.contains_iff (key x)).mpr ⟨y, hy, hk⟩] at hnew
    cases hnew
  by_cases hk : key x = k
  · subst hk
    rw [if_pos rfl]
    constructor
    · intro hi
      cases hi
      exact ⟨x, by simp, rfl⟩
    · rintro ⟨y, hy, hyk⟩
      split at hy
      · exact absurd hyk (hnone y (List.mem_of_getElem? hy))
      · have hlt := (List.getElem?_eq_some_iff.mp hy).1
        rw [List.length_singleton] at hlt
        exact congrArg some (by omega)
  · rw [if_neg hk, h k i]
    constructor
    · rintro ⟨y, hy, hyk⟩
      have hlt := (List.getElem?_eq_some_iff.mp hy).1
      exact ⟨y, by rwa [if_pos hlt], hyk⟩
    · rintro ⟨y, hy, hyk⟩
      split at hy
      · exact ⟨y, hy, hyk⟩
      · have hmem := List.mem_singleton.mp (List.mem_of_getElem? hy)
        exact absurd (hmem ▸ hyk) hk

/-- Items may change as long as each keeps its key. -/
theorem of_keys (h : Indexes index items key) {items' : List α}
    (hkeys : items'.map key = items.map key) : Indexes index items' key := by
  intro k i
  have hi : (items'[i]?).map key = (items[i]?).map key := by
    rw [← List.getElem?_map, ← List.getElem?_map, hkeys]
  rw [h k i]
  constructor
  · rintro ⟨x, hx, hk⟩
    rw [hx] at hi
    obtain ⟨y, hy, hyk⟩ := Option.map_eq_some_iff.mp hi
    exact ⟨y, hy, hyk.trans hk⟩
  · rintro ⟨x, hx, hk⟩
    rw [hx] at hi
    obtain ⟨y, hy, hyk⟩ := Option.map_eq_some_iff.mp hi.symm
    exact ⟨y, hy, hyk.trans hk⟩

end Indexes

namespace Topology

/-! ## Making topologies -/

/-- Topologies that can be made: an empty one, and from it by adding hosts and links, by
building it on any substrate, also where that fails half way, and by switching its links. -/
inductive Built : Topology → Prop
  | empty (name : String) : Built { name }
  | host {t : Topology} (id : HostId) (h : Built t) : Built (addHost id t).2
  | link {t : Topology} (a b : HostId) (params : LinkParams) (h : Built t) :
      Built (addLink a b params t).2
  | instantiated {σ : Type} [Substrate σ] {t : Topology} (s : σ) (h : Built t) :
      Built (instantiate (t, s)).2.1
  | switched {σ : Type} [Substrate σ] {t : Topology} (s : σ) (a b : HostId) (state : LinkState)
      (h : Built t) : Built (switchLink a b state (t, s)).2.1

/-- What holds of every topology that can be made. -/
structure Sound (t : Topology) : Prop where
  host_index : Indexes t.hostIndex t.hosts Host.id
  link_index : Indexes t.linkIndex t.links Link.pair
  up_before : t.instantiated = false → ∀ l ∈ t.links, l.state = .up

theorem Sound.hasHost_iff {t : Topology} (h : t.Sound) (id : HostId) :
    t.hasHost id = true ↔ ∃ host ∈ t.hosts, host.id = id := h.host_index.contains_iff id

/-- The link of a pair. -/
def linkAt? (t : Topology) (pair : HostPair) : Option Link :=
  (t.linkIndex.get? pair).bind (t.links[·]?)

theorem link?_eq (t : Topology) (a b : HostId) : t.link? a b = t.linkAt? (.of a b) := rfl

/-- Looking a link up finds what a search of the list finds. -/
theorem Sound.linkAt?_iff {t : Topology} (h : t.Sound) (pair : HostPair) (l : Link) :
    t.linkAt? pair = some l ↔ l ∈ t.links ∧ l.pair = pair := h.link_index.find_iff pair l

/-! ## Recording the state of a link -/

@[simp]
theorem recordState_hosts (t : Topology) (a b : HostId) (state : LinkState) :
    (t.recordState a b state).hosts = t.hosts := by
  unfold recordState
  split <;> rfl

@[simp]
theorem recordState_hostIndex (t : Topology) (a b : HostId) (state : LinkState) :
    (t.recordState a b state).hostIndex = t.hostIndex := by
  unfold recordState
  split <;> rfl

theorem hasHost_recordState (t : Topology) (a b : HostId) (state : LinkState) (id : HostId) :
    (t.recordState a b state).hasHost id = t.hasHost id := by
  unfold hasHost
  rw [recordState_hostIndex]

@[simp]
theorem recordState_linkIndex (t : Topology) (a b : HostId) (state : LinkState) :
    (t.recordState a b state).linkIndex = t.linkIndex := by
  unfold recordState
  split <;> rfl

@[simp]
theorem recordState_instantiated (t : Topology) (a b : HostId) (state : LinkState) :
    (t.recordState a b state).instantiated = t.instantiated := by
  unfold recordState
  split <;> rfl

theorem recordState_none {t : Topology} {a b : HostId} (state : LinkState)
    (h : t.linkIndex.get? (.of a b) = none) : t.recordState a b state = t := by
  simp [recordState, h]

theorem recordState_some {t : Topology} {a b : HostId} (state : LinkState) {i : Nat}
    (h : t.linkIndex.get? (.of a b) = some i) :
    t.recordState a b state = { t with links := t.links.modify i ({ · with state }) } := by
  simp [recordState, h]

/-- Recording a state changes nothing about the links that does not hang on their states. -/
theorem recordState_map {β : Type} (f : Link → β) (hf : ∀ l st, f { l with state := st } = f l)
    (t : Topology) (a b : HostId) (state : LinkState) :
    (t.recordState a b state).links.map f = t.links.map f := by
  rcases hi : t.linkIndex.get? (.of a b) with _ | i
  · rw [recordState_none state hi]
  · rw [recordState_some state hi]
    apply List.ext_getElem?
    intro j
    rw [List.getElem?_map, List.getElem?_map, List.getElem?_modify]
    by_cases hij : i = j
    · cases t.links[j]? <;> simp [hij, hf]
    · simp [hij]

@[simp]
theorem recordState_pairs (t : Topology) (a b : HostId) (state : LinkState) :
    (t.recordState a b state).links.map Link.pair = t.links.map Link.pair :=
  recordState_map Link.pair (fun _ _ => rfl) t a b state

/-- Only the link of the pair gets the state. -/
theorem Sound.linkAt?_recordState {t : Topology} (h : t.Sound) (a b : HostId) (state : LinkState)
    (pair : HostPair) : (t.recordState a b state).linkAt? pair =
      if HostPair.of a b = pair then (t.linkAt? pair).map ({ · with state })
      else t.linkAt? pair := by
  rcases hi : t.linkIndex.get? (.of a b) with _ | i
  · rw [recordState_none state hi]
    split
    · next hp => simp [linkAt?, ← hp, hi]
    · rfl
  · rw [recordState_some state hi]
    unfold linkAt?
    rcases hj : t.linkIndex.get? pair with _ | j
    · simp
    · simp only [Option.bind_some, List.getElem?_modify]
      by_cases hp : HostPair.of a b = pair
      · rw [hp, hj] at hi
        cases hi
        simp [hp]
      · have hij : i ≠ j := fun hij => hp (h.link_index.inj hi (hij ▸ hj))
        simp [hp, hij]

/-- A state that a link has already changes nothing. -/
theorem recordState_same {t : Topology} {a b : HostId} {l : Link} (h : t.link? a b = some l) :
    t.recordState a b l.state = t := by
  rcases hi : t.linkIndex.get? (.of a b) with _ | i
  · exact recordState_none l.state hi
  · rw [recordState_some l.state hi]
    rw [link?, hi, Option.bind_some] at h
    have hlinks : t.links.modify i ({ · with state := l.state }) = t.links := by
      apply List.ext_getElem?
      intro j
      rw [List.getElem?_modify]
      by_cases hij : i = j
      · subst hij
        simp [h]
      · simp [hij]
    rw [hlinks]

/-! ## Every topology that can be made is sound -/

variable {σ : Type} [Substrate σ]

theorem sound_empty (name : String) : ({ name } : Topology).Sound :=
  ⟨Indexes.empty Host.id, Indexes.empty Link.pair, fun _ _ hl => absurd hl List.not_mem_nil⟩

/-- All that adding a host can come to. -/
theorem addHost_cases (id : HostId) (t : Topology) :
    (∃ e, addHost id t = (.error e, t)) ∨
    t.instantiated = false ∧ t.hasHost id = false ∧ addHost id t =
      (.ok { id := id }, { t with
        hosts := t.hosts ++ [{ id := id }]
        hostIndex := t.hostIndex.insert id t.hosts.length }) := by
  unfold addHost
  split
  · exact Or.inl ⟨_, rfl⟩
  split
  · exact Or.inl ⟨_, rfl⟩
  · next hi hnew => exact Or.inr ⟨by simpa using hi, by simpa using hnew, rfl⟩

/-- All that adding a link can come to. -/
theorem addLink_cases (a b : HostId) (params : LinkParams) (t : Topology) :
    (∃ e, addLink a b params t = (.error e, t)) ∨
    t.instantiated = false ∧ t.hasHost a = true ∧ t.hasHost b = true ∧
      params.flaw? a b = none ∧ t.linkIndex.contains (.of a b) = false ∧
      addLink a b params t = (.ok { a, b, params }, { t with
        links := t.links ++ [{ a, b, params }]
        linkIndex := t.linkIndex.insert (.of a b) t.links.length }) := by
  unfold addLink
  split
  · exact Or.inl ⟨_, rfl⟩
  split
  · exact Or.inl ⟨_, rfl⟩
  split
  · exact Or.inl ⟨_, rfl⟩
  split
  · exact Or.inl ⟨_, rfl⟩
  split
  · exact Or.inl ⟨_, rfl⟩
  · next hi ha hb _ hflaw hnew =>
    exact Or.inr ⟨by simpa using hi, by simpa using ha, by simpa using hb, hflaw,
      by simpa using hnew, rfl⟩

theorem Sound.addHost {t : Topology} (h : t.Sound) (id : HostId) :
    (Topology.addHost id t).2.Sound := by
  rcases addHost_cases id t with ⟨e, hc⟩ | ⟨-, hnew, hc⟩ <;> rw [hc]
  · exact h
  · exact ⟨h.host_index.append { id } hnew, h.link_index, h.up_before⟩

theorem Sound.addLink {t : Topology} (h : t.Sound) (a b : HostId) (params : LinkParams) :
    (Topology.addLink a b params t).2.Sound := by
  rcases addLink_cases a b params t with ⟨e, hc⟩ | ⟨-, -, -, -, hnew, hc⟩ <;> rw [hc]
  · exact h
  · refine ⟨h.host_index, h.link_index.append { a, b, params } hnew, ?_⟩
    intro hi l hl
    rcases List.mem_append.mp hl with hl | hl
    · exact h.up_before hi l hl
    · rw [List.mem_singleton.mp hl]

/-- Creating hosts on a substrate changes the name of none. -/
theorem createHosts_ids (hs : List Host) (s : σ) :
    (createHosts hs s).2.1.map Host.id = hs.map Host.id := by
  induction hs generalizing s with
  | nil => rfl
  | cons h hs ih =>
    unfold createHosts
    split
    · rfl
    · next context s' _ => simp [ih s']

/-- A topology is built when all its hosts and then all its links could be created. -/
theorem instantiate_ok {t t' : Topology} {s s' : σ}
    (h : instantiate (t, s) = (.ok (), t', s')) : t.instantiated = false ∧
      ∃ hosts s₁, createHosts t.hosts s = (.ok (), hosts, s₁) ∧
        createLinks t.links s₁ = (.ok (), s') ∧ t' = { t with hosts, instantiated := true } := by
  simp only [instantiate] at h
  split at h
  · cases h
  · next hi =>
    split at h
    · cases h
    · next hosts s₁ hh =>
      split at h
      · cases h
      · next hl =>
        cases h
        exact ⟨by simpa using hi, hosts, s₁, hh, hl, rfl⟩

theorem Sound.instantiate {t : Topology} (h : t.Sound) (s : σ) :
    (Topology.instantiate (t, s)).2.1.Sound := by
  simp only [Topology.instantiate]
  split
  · exact h
  · next hnew =>
    have hnew : t.instantiated = false := by simpa using hnew
    have hids := createHosts_ids t.hosts s
    split
    · next he =>
      rw [he] at hids
      exact ⟨h.host_index.of_keys hids, h.link_index, h.up_before⟩
    · next he =>
      rw [he] at hids
      split
      · exact ⟨h.host_index.of_keys hids, h.link_index, h.up_before⟩
      · exact ⟨h.host_index.of_keys hids, h.link_index, fun hi => by cases hi⟩

theorem Sound.recordState {t : Topology} (h : t.Sound) (hi : t.instantiated = true) (a b : HostId)
    (state : LinkState) : (t.recordState a b state).Sound := by
  refine ⟨?_, ?_, ?_⟩
  · rw [recordState_hostIndex, recordState_hosts]
    exact h.host_index
  · rw [recordState_linkIndex]
    exact h.link_index.of_keys (recordState_pairs t a b state)
  · rw [recordState_instantiated, hi]
    intro hno
    cases hno

/-- All that switching a link can come to. -/
theorem switchLink_cases (t : Topology) (s : σ) (a b : HostId) (state : LinkState) :
    (∃ e, switchLink a b state (t, s) = (.error e, t, s)) ∨
    t.instantiated = true ∧ ∃ l, t.link? a b = some l ∧
      ((l.state = state ∧ switchLink a b state (t, s) = (.ok (.unchanged state), t, s)) ∨
      (l.state ≠ state ∧ ∃ e s', Substrate.setLinkState l.a l.b state s = (.error e, s') ∧
        switchLink a b state (t, s) = (.error (.substrate e), t, s')) ∨
      (l.state ≠ state ∧ ∃ s', Substrate.setLinkState l.a l.b state s = (.ok (), s') ∧
        switchLink a b state (t, s) =
          (.ok (.changed l.state state), t.recordState a b state, s'))) := by
  simp only [switchLink]
  split
  · exact Or.inl ⟨_, rfl⟩
  · next hi =>
    split
    · exact Or.inl ⟨_, rfl⟩
    · next l hl =>
      refine Or.inr ⟨by simpa using hi, l, hl, ?_⟩
      split
      · next hs => exact Or.inl ⟨hs, rfl⟩
      · next hs =>
        split
        · next he => exact Or.inr (Or.inl ⟨hs, _, _, he, rfl⟩)
        · next ho => exact Or.inr (Or.inr ⟨hs, _, ho, rfl⟩)

theorem Sound.switchLink {t : Topology} (h : t.Sound) (s : σ) (a b : HostId) (state : LinkState) :
    (Topology.switchLink a b state (t, s)).2.1.Sound := by
  rcases switchLink_cases t s a b state with
    ⟨_, hc⟩ | ⟨hi, _, _, ⟨_, hc⟩ | ⟨_, _, _, _, hc⟩ | ⟨_, _, _, hc⟩⟩ <;> rw [hc]
  · exact h
  · exact h
  · exact h
  · exact h.recordState hi a b state

theorem Built.sound {t : Topology} (h : t.Built) : t.Sound := by
  induction h with
  | empty name => exact sound_empty name
  | host id _ ih => exact ih.addHost id
  | link a b params _ ih => exact ih.addLink a b params
  | instantiated s _ ih => exact ih.instantiate s
  | switched s a b state _ ih => exact ih.switchLink s a b state

/-! ## Topologies from lists -/

theorem built_addHosts (ids : List HostId) {t : Topology} (h : t.Built) :
    (addHosts ids t).2.Built := by
  induction ids generalizing t with
  | nil => exact h
  | cons id ids ih =>
    have hfirst := h.host id
    rw [addHosts, Action.bind_apply]
    rcases hadd : addHost id t with ⟨e | host, t₁⟩ <;> rw [hadd] at hfirst
    · exact hfirst
    · exact ih hfirst

theorem built_addLinks (links : List (HostId × HostId × LinkParams)) {t : Topology} (h : t.Built) :
    (addLinks links t).2.Built := by
  induction links generalizing t with
  | nil => exact h
  | cons l links ih =>
    obtain ⟨a, b, params⟩ := l
    have hfirst := h.link a b params
    rw [addLinks, Action.bind_apply]
    rcases hadd : addLink a b params t with ⟨e | link, t₁⟩ <;> rw [hadd] at hfirst
    · exact hfirst
    · exact ih hfirst

/-- A topology from lists of hosts and links can be made. -/
theorem built_of_build (name : String) (hosts : List HostId)
    (links : List (HostId × HostId × LinkParams)) {t : Topology}
    (h : build name hosts links = .ok t) : t.Built := by
  have hhosts := built_addHosts hosts (Built.empty name)
  unfold build at h
  rcases hh : addHosts hosts { name } with ⟨e | u, t₁⟩ <;> rw [hh] at hhosts
  · rw [Action.bind_error _ hh] at h
    cases h
  · have hlinks := built_addLinks links hhosts
    rw [Action.bind_ok _ hh] at h
    rcases hl : addLinks links t₁ with ⟨e | u, t₂⟩ <;> rw [hl] at h hlinks <;> cases h
    exact hlinks

/-- Two hosts and the link between them. -/
def twoHosts : Topology where
  name := "pair"
  hosts := [{ id := ⟨"A"⟩ }, { id := ⟨"B"⟩ }]
  hostIndex := ⟨[(⟨"A"⟩, 0), (⟨"B"⟩, 1)]⟩
  links := [{ a := ⟨"A"⟩, b := ⟨"B"⟩, params := {} }]
  linkIndex := ⟨[(⟨⟨"A"⟩, ⟨"B"⟩⟩, 0)]⟩

theorem built_twoHosts : twoHosts.Built :=
  built_of_build "pair" [⟨"A"⟩, ⟨"B"⟩] [(⟨"A"⟩, ⟨"B"⟩, {})] rfl

end Topology

end Testbed
