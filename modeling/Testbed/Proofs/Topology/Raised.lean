-- What building a topology does to the simulator. The hosts and the pairs of
-- the topology get their rows in the two tables and every creation is written
-- down; processes, clock and requested failures stay as they were.
import Testbed.Proofs.Simulator.Log
import Testbed.Proofs.Topology.Built

namespace Testbed

/-! ## Entering many keys in a table -/

namespace Table

variable {κ α β : Type} [DecidableEq κ]

/-- Enters a key and a value for each item of a list. -/
def insertAll (key : β → κ) (value : β → α) (items : List β) (t : Table κ α) : Table κ α :=
  items.foldl (fun t x => t.insert (key x) (value x)) t

theorem contains_insertAll (key : β → κ) (value : β → α) (items : List β) (t : Table κ α) (k : κ) :
    (t.insertAll key value items).contains k = true ↔
      t.contains k = true ∨ ∃ x ∈ items, key x = k := by
  unfold insertAll
  induction items generalizing t with
  | nil => simp
  | cons x items ih =>
    rw [List.foldl_cons, ih, contains_insert, Bool.or_eq_true, decide_eq_true_eq]
    simp only [List.mem_cons, exists_eq_or_imp]
    rw [or_assoc, or_left_comm]

/-- Where all get the same value, that is what look-up finds for them. -/
theorem get?_insertAll_const (key : β → κ) (v : α) (items : List β) (t : Table κ α) (k : κ) :
    (t.insertAll key (fun _ => v) items).get? k =
      if ∃ x ∈ items, key x = k then some v else t.get? k := by
  unfold insertAll
  induction items generalizing t with
  | nil => simp
  | cons x items ih =>
    rw [List.foldl_cons, ih, get?_insert]
    by_cases hx : key x = k
    · simp [hx]
    · simp [hx]

end Table

namespace Topology

/-! ## The topology and the simulator afterwards -/

/-- The topology once it has been built on the simulator: each host has its name there. -/
def raised (t : Topology) : Topology :=
  { t with
    hosts := t.hosts.map fun h => { h with context := some ⟨"sim-" ++ h.id.name⟩ }
    instantiated := true }

theorem Sound.raised {t : Topology} (h : t.Sound) : t.raised.Sound := by
  refine ⟨h.host_index.of_keys ?_, h.link_index, fun hi => by cases hi⟩
  simp [Topology.raised, Function.comp_def]

/-- The simulator once hosts have been created on it. -/
def hostsRaised (hosts : List Host) (s : Simulator) : Simulator :=
  { s with
    hosts := s.hosts.insertAll Host.id (fun h => ⟨"sim-" ++ h.id.name⟩) hosts
    calls := s.calls ++ hosts.map fun h =>
      { time := s.clock.now, op := .createHost h.id, ok := true } }

/-- The simulator once links have been created on it. -/
def linksRaised (links : List Link) (s : Simulator) : Simulator :=
  { s with
    links := s.links.insertAll Link.pair (fun _ => .up) links
    calls := s.calls ++ links.map fun l =>
      { time := s.clock.now, op := .createLink l.a l.b, ok := true } }

theorem createHosts_simulator (hosts : List Host) (s : Simulator) :
    createHosts hosts s =
      (.ok (), hosts.map fun h => { h with context := some ⟨"sim-" ++ h.id.name⟩ },
        hostsRaised hosts s) := by
  induction hosts generalizing s with
  | nil => simp [createHosts, hostsRaised, Table.insertAll]
  | cons h hosts ih =>
    have hc : Substrate.createHost h.id s = (.ok ⟨"sim-" ++ h.id.name⟩, hostsRaised [h] s) := rfl
    simp only [createHosts, hc, ih]
    simp [hostsRaised, Table.insertAll]

theorem linksRaised_cons (l : Link) (links : List Link) (s : Simulator) :
    linksRaised (l :: links) s = linksRaised links (linksRaised [l] s) := by
  simp [linksRaised, Table.insertAll]

theorem createLink_known {l : Link} {s : Simulator} (ha : s.hosts.contains l.a = true)
    (hb : s.hosts.contains l.b = true) :
    Substrate.createLink l.a l.b l.params s = (.ok (), linksRaised [l] s) := by
  simp [Substrate.createLink, Simulator.createLink, ha, hb, linksRaised, Simulator.record,
    Table.insertAll, Link.pair]

/-- Links between hosts that the simulator has can all be created. -/
theorem createLinks_known {links : List Link} {s : Simulator}
    (h : ∀ l ∈ links, s.hosts.contains l.a = true ∧ s.hosts.contains l.b = true) :
    createLinks links s = (.ok (), linksRaised links s) := by
  induction links generalizing s with
  | nil => simp [createLinks, linksRaised, Table.insertAll]
  | cons l links ih =>
    obtain ⟨ha, hb⟩ := h l List.mem_cons_self
    rw [createLinks, Action.bind_ok _ (createLink_known ha hb), linksRaised_cons l links]
    exact ih fun x hx => h x (List.mem_cons_of_mem l hx)

/-- Links that can all be created join hosts that the simulator has. -/
theorem createLinks_simulator {links : List Link} {s s' : Simulator}
    (h : createLinks links s = (.ok (), s')) :
    s' = linksRaised links s ∧
      ∀ l ∈ links, s.hosts.contains l.a = true ∧ s.hosts.contains l.b = true := by
  induction links generalizing s with
  | nil =>
    cases h
    exact ⟨by simp [linksRaised, Table.insertAll], by simp⟩
  | cons l links ih =>
    unfold createLinks at h
    by_cases ha : s.hosts.contains l.a = true
    · by_cases hb : s.hosts.contains l.b = true
      · rw [Action.bind_ok _ (createLink_known ha hb)] at h
        obtain ⟨hs, hall⟩ := ih h
        refine ⟨?_, ?_⟩
        · rw [hs, linksRaised_cons l links]
        · intro x hx
          rcases List.mem_cons.mp hx with rfl | hx
          · exact ⟨ha, hb⟩
          · exact hall x hx
      · have hc : Substrate.createLink l.a l.b l.params s =
            (.error (.unknownHost l.b), s.record (.createLink l.a l.b) false) := by
          simp [Substrate.createLink, Simulator.createLink, ha, hb, Simulator.refuse]
        rw [Action.bind_error _ hc] at h
        cases h
    · have hc : Substrate.createLink l.a l.b l.params s =
          (.error (.unknownHost l.a), s.record (.createLink l.a l.b) false) := by
        simp [Substrate.createLink, Simulator.createLink, ha, Simulator.refuse]
      rw [Action.bind_error _ hc] at h
      cases h

/-- The simulator once a topology has been built on it. -/
def network (t : Topology) (s : Simulator) : Simulator :=
  linksRaised t.links (hostsRaised t.hosts s)

/-- A topology that can be built on the simulator was not built before, and leaves itself and
the simulator as described. -/
theorem instantiate_simulator {t t' : Topology} {s s' : Simulator}
    (h : instantiate (t, s) = (.ok (), t', s')) :
    t.instantiated = false ∧ t' = t.raised ∧ s' = t.network s ∧
      ∀ l ∈ t.links, (t.network s).hosts.contains l.a = true ∧
        (t.network s).hosts.contains l.b = true := by
  obtain ⟨hi, hosts, s₁, hhosts, hl, rfl⟩ := instantiate_ok h
  rw [createHosts_simulator] at hhosts
  cases hhosts
  obtain ⟨hs, hall⟩ := createLinks_simulator hl
  exact ⟨hi, rfl, hs, hall⟩

/-! ## Reading the network -/

theorem started_network (t : Topology) (s : Simulator) : (t.network s).started = s.started := by
  simp [network, linksRaised, hostsRaised, Simulator.started, Simulator.Call.started?,
    List.filterMap_map, Function.comp_def]

theorem killed_network (t : Topology) (s : Simulator) : (t.network s).killed = s.killed := by
  simp [network, linksRaised, hostsRaised, Simulator.killed, Simulator.Call.killed?,
    List.filterMap_map, Function.comp_def]

theorem switches_network (t : Topology) (s : Simulator) (pair : HostPair) :
    (t.network s).switches pair = s.switches pair := by
  simp [network, linksRaised, hostsRaised, Simulator.switches, Simulator.Call.switched?,
    List.filterMap_map, Function.comp_def]

theorem hosts_network (t : Topology) (s : Simulator) (id : HostId) :
    (t.network s).hosts.contains id = true ↔
      s.hosts.contains id = true ∨ ∃ h ∈ t.hosts, h.id = id :=
  Table.contains_insertAll Host.id _ t.hosts s.hosts id

/-- The pairs that have a link are those of the topology, and every link is up. -/
theorem links_network (t : Topology) (s : Simulator) (pair : HostPair) :
    (t.network s).links.get? pair =
      if ∃ l ∈ t.links, l.pair = pair then some .up else s.links.get? pair :=
  Table.get?_insertAll_const Link.pair LinkState.up t.links s.links pair

end Topology

end Testbed
