-- The shape of a topology under anything that can be asked of it, in any
-- order, whether it is done or refused: names and pairs stay unique, every
-- link fits between two of its hosts, look-up agrees with a search of the
-- lists, and from its instantiation on the shape stands still.
import Testbed.Proofs.Topology.Built

namespace Testbed

/-! ## Links that fit -/

namespace Link

/-- What a link is apart from its state. -/
def shape (l : Link) : HostId × HostId × LinkParams := (l.a, l.b, l.params)

/-- The link joins two of the named hosts, and its parameters are in their range. -/
structure Fits (ids : List HostId) (l : Link) : Prop where
  distinct : l.a ≠ l.b
  a_known : l.a ∈ ids
  b_known : l.b ∈ ids
  loss : l.params.lossInRange = true
  bandwidth : l.params.bandwidthPositive = true

theorem Fits.mono {ids ids' : List HostId} {l : Link} (h : l.Fits ids)
    (hids : ∀ id ∈ ids, id ∈ ids') : l.Fits ids' :=
  ⟨h.distinct, hids _ h.a_known, hids _ h.b_known, h.loss, h.bandwidth⟩

theorem Fits.of_shape {ids : List HostId} {l l' : Link} (h : l.Fits ids)
    (hs : l.shape = l'.shape) : l'.Fits ids := by
  obtain ⟨a, b, params, state⟩ := l
  obtain ⟨a', b', params', state'⟩ := l'
  cases hs
  exact ⟨h.distinct, h.a_known, h.b_known, h.loss, h.bandwidth⟩

end Link

theorem LinkParams.flaw?_eq_none {p : LinkParams} {a b : HostId} (h : p.flaw? a b = none) :
    a ≠ b ∧ p.lossInRange = true ∧ p.bandwidthPositive = true := by
  unfold flaw? at h
  split at h
  · cases h
  split at h
  · cases h
  split at h
  · cases h
  · simp_all

namespace Topology

def ids (t : Topology) : List HostId := t.hosts.map Host.id

theorem Sound.hasHost_iff_mem {t : Topology} (h : t.Sound) (id : HostId) :
    t.hasHost id = true ↔ id ∈ t.ids := by
  rw [h.hasHost_iff, ids, List.mem_map]

variable {σ : Type} [Substrate σ]

/-- Building a topology leaves its links and the names of its hosts alone, however it ends. -/
theorem shape_instantiate (t : Topology) (s : σ) :
    (instantiate (t, s)).2.1.ids = t.ids ∧ (instantiate (t, s)).2.1.links = t.links := by
  have hids := createHosts_ids t.hosts s
  simp only [instantiate]
  split
  · exact ⟨rfl, rfl⟩
  · split
    · next he =>
      rw [he] at hids
      exact ⟨hids, rfl⟩
    · next he =>
      rw [he] at hids
      split <;> exact ⟨hids, rfl⟩

theorem instantiate_again {t : Topology} (hi : t.instantiated = true) (s : σ) :
    instantiate (t, s) = (.error (.alreadyInstantiated t.name), t, s) := by
  simp only [instantiate, hi, if_true]

/-- Switching a link changes nothing but the state of a link, however it ends. -/
theorem shape_switchLink (t : Topology) (s : σ) (a b : HostId) (state : LinkState) :
    (switchLink a b state (t, s)).2.1.hosts = t.hosts ∧
    (switchLink a b state (t, s)).2.1.links.map Link.shape = t.links.map Link.shape ∧
    (switchLink a b state (t, s)).2.1.instantiated = t.instantiated := by
  rcases switchLink_cases t s a b state with
    ⟨_, hc⟩ | ⟨_, _, _, ⟨_, hc⟩ | ⟨_, _, _, _, hc⟩ | ⟨_, _, _, hc⟩⟩ <;> rw [hc]
  · exact ⟨rfl, rfl, rfl⟩
  · exact ⟨rfl, rfl, rfl⟩
  · exact ⟨rfl, rfl, rfl⟩
  · exact ⟨recordState_hosts t a b state, recordState_map Link.shape (fun _ _ => rfl) t a b state,
      recordState_instantiated t a b state⟩

/-- Every link of a topology that can be made fits. -/
theorem Built.fits {t : Topology} (h : t.Built) : ∀ l ∈ t.links, l.Fits t.ids := by
  induction h with
  | empty name => exact fun _ hl => absurd hl List.not_mem_nil
  | @host t id _ ih =>
    rcases addHost_cases id t with ⟨e, hc⟩ | ⟨-, -, hc⟩ <;> rw [hc]
    · exact ih
    · intro l hl
      refine (ih l hl).mono fun x hx => ?_
      rw [ids, List.map_append]
      exact List.mem_append_left _ hx
  | @link t a b params h ih =>
    rcases addLink_cases a b params t with ⟨e, hc⟩ | ⟨-, ha, hb, hflaw, -, hc⟩ <;> rw [hc]
    · exact ih
    · obtain ⟨hab, hloss, hband⟩ := LinkParams.flaw?_eq_none hflaw
      have ha : a ∈ t.ids := (h.sound.hasHost_iff_mem a).mp ha
      have hb : b ∈ t.ids := (h.sound.hasHost_iff_mem b).mp hb
      intro x hx
      rcases List.mem_append.mp hx with hx | hx
      · exact ih x hx
      · rw [List.mem_singleton.mp hx]
        exact ⟨hab, ha, hb, hloss, hband⟩
  | @instantiated σ _ t s _ ih =>
    obtain ⟨hids, hlinks⟩ := shape_instantiate t s
    rw [hids, hlinks]
    exact ih
  | @switched σ _ t s a b state _ ih =>
    obtain ⟨hhosts, hshape, _⟩ := shape_switchLink t s a b state
    intro l hl
    obtain ⟨x, hx, hxl⟩ := List.mem_map.mp (hshape ▸ List.mem_map_of_mem (f := Link.shape) hl)
    rw [ids, hhosts]
    exact (ih x hx).of_shape hxl

/-! ## Anything that can be asked -/

/-- What can be asked of a topology, on any substrate. -/
inductive Change : Type 1 where
  | addHost (id : HostId)
  | addLink (a b : HostId) (params : LinkParams)
  | instantiate {σ : Type} [Substrate σ] (s : σ)
  | switchLink {σ : Type} [Substrate σ] (s : σ) (a b : HostId) (state : LinkState)

def Change.apply : Change → Action Topology TestbedError Unit
  | addHost id, t => ((Topology.addHost id t).1.map fun _ => (), (Topology.addHost id t).2)
  | addLink a b params, t =>
    ((Topology.addLink a b params t).1.map fun _ => (), (Topology.addLink a b params t).2)
  | instantiate s, t => ((Topology.instantiate (t, s)).1, (Topology.instantiate (t, s)).2.1)
  | switchLink s a b state, t =>
    ((Topology.switchLink a b state (t, s)).1.map fun _ => (),
      (Topology.switchLink a b state (t, s)).2.1)

/-- A host that is refused changes nothing. -/
theorem Change.apply_addHost_error {id : HostId} {t : Topology} {e : TestbedError}
    (h : ((Change.addHost id).apply t).1 = .error e) : ((Change.addHost id).apply t).2 = t := by
  rcases addHost_cases id t with ⟨e', hc⟩ | ⟨-, -, hc⟩
  · rw [Change.apply, hc]
  · rw [Change.apply, hc] at h
    cases h

/-- A link that is refused changes nothing. -/
theorem Change.apply_addLink_error {a b : HostId} {params : LinkParams} {t : Topology}
    {e : TestbedError} (h : ((Change.addLink a b params).apply t).1 = .error e) :
    ((Change.addLink a b params).apply t).2 = t := by
  rcases addLink_cases a b params t with ⟨e', hc⟩ | ⟨-, -, -, -, -, hc⟩
  · rw [Change.apply, hc]
  · rw [Change.apply, hc] at h
    cases h

/-- A topology after a list of changes, those that are refused among them. -/
def after (t : Topology) (changes : List Change) : Topology :=
  changes.foldl (fun t c => (c.apply t).2) t

theorem built_apply (c : Change) {t : Topology} (h : t.Built) : (c.apply t).2.Built := by
  cases c with
  | addHost id => exact h.host id
  | addLink a b params => exact h.link a b params
  | instantiate s => exact Built.instantiated s h
  | switchLink s a b state => exact Built.switched s a b state h

theorem built_after (changes : List Change) {t : Topology} (h : t.Built) :
    (t.after changes).Built := by
  unfold after
  induction changes generalizing t with
  | nil => exact h
  | cons c changes ih => exact ih (built_apply c h)

/-! ## Nothing moves once it is built -/

/-- The two topologies have the same hosts and, but for their states, the same links. -/
structure SameShape (t t' : Topology) : Prop where
  hosts : t'.hosts = t.hosts
  links : t'.links.map Link.shape = t.links.map Link.shape
  instantiated : t'.instantiated = t.instantiated

theorem sameShape_apply (c : Change) {t : Topology} (hi : t.instantiated = true) :
    SameShape t (c.apply t).2 := by
  cases c with
  | addHost id =>
    rcases addHost_cases id t with ⟨e, hc⟩ | ⟨hnew, -⟩
    · rw [Change.apply, hc]
      exact ⟨rfl, rfl, rfl⟩
    · rw [hi] at hnew
      cases hnew
  | addLink a b params =>
    rcases addLink_cases a b params t with ⟨e, hc⟩ | ⟨hnew, -⟩
    · rw [Change.apply, hc]
      exact ⟨rfl, rfl, rfl⟩
    · rw [hi] at hnew
      cases hnew
  | instantiate s =>
    simp only [Change.apply, instantiate_again hi]
    exact ⟨rfl, rfl, rfl⟩
  | switchLink s a b state =>
    obtain ⟨hhosts, hshape, hinst⟩ := shape_switchLink t s a b state
    exact ⟨hhosts, hshape, hinst⟩

theorem sameShape_after (changes : List Change) {t : Topology} (hi : t.instantiated = true) :
    SameShape t (t.after changes) := by
  unfold after
  induction changes generalizing t with
  | nil => exact ⟨rfl, rfl, rfl⟩
  | cons c changes ih =>
    have hc := sameShape_apply c hi
    have hrest := ih (hc.instantiated.trans hi)
    exact ⟨hrest.hosts.trans hc.hosts, hrest.links.trans hc.links,
      hrest.instantiated.trans hc.instantiated⟩

/-! ## Look-up is a search -/

theorem Sound.host?_eq {t : Topology} (h : t.Sound) (id : HostId) :
    t.host? id = t.hosts.find? (·.id = id) := h.host_index.find_eq id

theorem Sound.link?_eq_find {t : Topology} (h : t.Sound) (x y : HostId) :
    t.link? x y = t.links.find? (·.connects x y) := by
  have hfind := h.link_index.find_eq (.of x y)
  have hsame : (fun l : Link => l.connects x y) = fun l => decide (l.pair = .of x y) := by
    funext l
    rw [Bool.eq_iff_iff, decide_eq_true_eq, Link.connects_iff]
  rw [hsame]
  exact hfind

/-- No two links of a topology join the same hosts. -/
theorem Sound.links_apart {t : Topology} (h : t.Sound) :
    t.links.Pairwise fun l m => m.connects l.a l.b = false := by
  have hpairs := h.link_index.nodup
  rw [List.Nodup, List.pairwise_map] at hpairs
  refine hpairs.imp fun {l m} hne => ?_
  rw [Bool.eq_false_iff, Ne, Link.connects_iff]
  exact fun heq => hne heq.symm

/-! ## The shape of a topology -/

/-- Whatever is asked of a new topology, on whatever substrates, no name and no pair of hosts
stands twice, every link joins two different hosts of the topology with a loss between nothing
and everything and a bandwidth that is a number above zero, and look-up finds what a search of
the lists finds. A host or a link that is refused changes nothing. Once the topology is
instantiated its hosts and, but for their states, its links stay as they are. -/
theorem shape_holds_under_all_changes (name : String) (changes : List Change) :
    let t := ({ name } : Topology).after changes
    (t.hosts.map Host.id).Nodup ∧
    (∀ l ∈ t.links, l.a ≠ l.b ∧ (∃ h ∈ t.hosts, h.id = l.a) ∧ (∃ h ∈ t.hosts, h.id = l.b) ∧
      0 ≤ l.params.loss ∧ l.params.loss ≤ 1 ∧
      l.params.bandwidth.isFinite = true ∧ 0 < l.params.bandwidth) ∧
    t.links.Pairwise (fun l m => m.connects l.a l.b = false) ∧
    (∀ id, t.host? id = t.hosts.find? (·.id = id)) ∧
    (∀ x y, t.link? x y = t.links.find? (·.connects x y) ∧
      t.link? y x = t.links.find? (·.connects x y)) ∧
    (∀ id e, (Change.apply (.addHost id) t).1 = .error e → t.after [.addHost id] = t) ∧
    (∀ a b params e, (Change.apply (.addLink a b params) t).1 = .error e →
      t.after [.addLink a b params] = t) ∧
    (t.instantiated = true → ∀ more, (t.after more).instantiated = true ∧
      (t.after more).hosts = t.hosts ∧
      (t.after more).links.map (fun l => (l.a, l.b, l.params)) =
        t.links.map fun l => (l.a, l.b, l.params)) := by
  intro t
  have hbuilt : t.Built := built_after changes (Built.empty name)
  have hsound := hbuilt.sound
  refine ⟨hsound.host_index.nodup, ?_, hsound.links_apart, hsound.host?_eq, ?_, ?_, ?_, ?_⟩
  · intro l hl
    have hfits := hbuilt.fits l hl
    have hloss : 0 ≤ l.params.loss ∧ l.params.loss ≤ 1 := by
      simpa [LinkParams.lossInRange] using hfits.loss
    have hband : l.params.bandwidth.isFinite = true ∧ 0 < l.params.bandwidth := by
      simpa [LinkParams.bandwidthPositive] using hfits.bandwidth
    exact ⟨hfits.distinct, List.mem_map.mp hfits.a_known, List.mem_map.mp hfits.b_known,
      hloss.1, hloss.2, hband.1, hband.2⟩
  · intro x y
    rw [link?_comm t y x]
    exact ⟨hsound.link?_eq_find x y, hsound.link?_eq_find x y⟩
  · intro id e he
    exact Change.apply_addHost_error he
  · intro a b params e he
    exact Change.apply_addLink_error he
  · intro hi more
    have hsame := sameShape_after more hi
    exact ⟨hsame.instantiated.trans hi, hsame.hosts, hsame.links⟩

end Topology

end Testbed
