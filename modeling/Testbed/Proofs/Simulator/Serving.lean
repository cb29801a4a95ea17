-- The simulator, as long as no failures are requested from it, serves the hosts
-- and the links of a topology that has been built on it.
import Testbed.Proofs.Scenario.Alike
import Testbed.Proofs.Simulator.Outside
import Testbed.Proofs.Topology.Raised
import Testbed.Proofs.Topology.Shape

namespace Testbed

namespace Simulator

/-- No failures have been requested. -/
structure Quiet (s : Simulator) : Prop where
  exec : s.failingExec = []
  links : s.failingLinks = []
  kills : s.failingKills = []

/-- The simulator has just these hosts, and it has these links. No failures are requested. -/
structure Attends (ids : List HostId) (pairs : List HostPair) (s : Simulator) : Prop where
  hosts : ∀ id, s.hosts.contains id = true ↔ id ∈ ids
  links : ∀ pair ∈ pairs, s.links.contains pair = true
  quiet : s.Quiet

/-- What attends to hosts and links goes on with that while its tables stay as they are. -/
theorem Attends.of_same {ids : List HostId} {pairs : List HostPair} {s s' : Simulator}
    (h : Attends ids pairs s) (hhosts : s'.hosts = s.hosts) (hlinks : s'.links = s.links)
    (hexec : s'.failingExec = s.failingExec) (hfailing : s'.failingLinks = s.failingLinks)
    (hkills : s'.failingKills = s.failingKills) : Attends ids pairs s' :=
  ⟨hhosts ▸ h.hosts, hlinks ▸ h.links, hexec.trans h.quiet.exec, hfailing.trans h.quiet.links,
    hkills.trans h.quiet.kills⟩

theorem serves (ids : List HostId) (pairs : List HostPair) :
    Serves ids pairs (Attends ids pairs) where
  starts {s host request} h hhost hargv _ := by
    have hrefusal : s.execRefusal? host request = none := by
      simp [execRefusal?, (h.hosts host).mpr hhost, h.quiet.exec, hargv]
    exact ⟨_, _, exec_started hrefusal, h.of_same rfl rfl rfl rfl rfl⟩
  empty {s host request} h hhost hargv := by
    have hrefusal : s.execRefusal? host request = some (.rejected (.exec host) .injected) := by
      simp [execRefusal?, (h.hosts host).mpr hhost, hargv]
    exact ⟨_, _, _, exec_refused hrefusal, h.of_same rfl rfl rfl rfl rfl⟩
  stranger {s host} request h hhost := by
    have hno : s.hosts.contains host = false :=
      Bool.eq_false_iff.mpr (mt (h.hosts host).mp hhost)
    have hrefusal : s.execRefusal? host request = some (.unknownHost host) := by
      simp [execRefusal?, hno]
    exact ⟨_, exec_refused hrefusal, h.of_same rfl rfl rfl rfl rfl⟩
  switches {s a b} state h hpair := by
    have hrefusal : s.switchRefusal? a b state = none := by
      simp [switchRefusal?, h.quiet.links, h.links _ hpair]
    refine ⟨_, setLinkState_switched hrefusal, h.hosts, ?_, h.quiet.exec, h.quiet.links,
      h.quiet.kills⟩
    intro pair hmem
    change (s.links.insert (.of a b) state).contains pair = true
    rw [Table.contains_insert, h.links pair hmem, Bool.or_true]
  kills {s} pid h := by
    have hno : pid ∉ s.failingKills := by simp [h.quiet.kills]
    exact ⟨(s.markDead pid).record (.kill pid) true, if_neg hno, h.of_same rfl rfl rfl rfl rfl⟩
  elapses {s} d h := by
    change Attends ids pairs (s.elapse d)
    rw [elapse_eq]
    exact h.of_same rfl rfl rfl rfl rfl

end Simulator

/-! ## Building a topology -/

namespace Topology

/-- A topology that has not been built can be built on the simulator. -/
theorem instantiate_known {t : Topology} (built : t.Built) (hi : t.instantiated = false)
    (s : Simulator) : instantiate (t, s) = (.ok (), t.raised, t.network s) := by
  have hknown : ∀ l ∈ t.links, (hostsRaised t.hosts s).hosts.contains l.a = true ∧
      (hostsRaised t.hosts s).hosts.contains l.b = true := by
    intro l hl
    have hfits := built.fits l hl
    have hhost : ∀ id ∈ t.ids, (hostsRaised t.hosts s).hosts.contains id = true := by
      intro id hid
      obtain ⟨host, hmem, rfl⟩ := List.mem_map.mp hid
      exact (Table.contains_insertAll Host.id _ t.hosts s.hosts _).mpr (Or.inr ⟨host, hmem, rfl⟩)
    exact ⟨hhost l.a hfits.a_known, hhost l.b hfits.b_known⟩
  simp only [instantiate, hi, Bool.false_eq_true, if_false, createHosts_simulator,
    createLinks_known hknown]
  rfl

theorem attends_network (t : Topology) {s : Simulator} (fresh : s.Fresh) (quiet : s.Quiet) :
    (t.network s).Attends t.ids (t.links.map Link.pair) := by
  refine ⟨?_, ?_, quiet.exec, quiet.links, quiet.kills⟩
  · intro id
    rw [hosts_network, fresh.hosts, ids, List.mem_map]
    simp [Table.contains]
  · intro pair hpair
    obtain ⟨l, hl, rfl⟩ := List.mem_map.mp hpair
    rw [Table.contains, links_network, if_pos ⟨l, hl, rfl⟩]
    rfl

end Topology

end Testbed
