-- Rigs that stand: a topology that was built on the simulator, with a clock
-- that both go by. Steps, requested failures and exits leave a rig standing,
-- and on a rig that stands a host or a link of the topology is never missing.
import Testbed.Proofs.Scenario.Step
import Testbed.Proofs.Simulator.Outside
import Testbed.Proofs.Topology.Raised

namespace Testbed.Rig

/-! ## Rigs in use -/

/-- Rigs in use: a topology that was built on a simulator whose clock the rig shares, whatever
the supervisor tracks, and what becomes of it by steps, by meddling and by what others ask of
the simulator. -/
inductive Live : Rig Simulator → Prop
  | built {t t' : Topology} {sim sim' : Simulator} (built : t.Built)
      (follows : sim.followsTime = true)
      (h : Topology.instantiate (t, sim) = (.ok (), t', sim')) (supervisor : Supervisor) :
      Live { topology := t', substrate := sim', supervisor, clock := sim'.clock }
  | supervised {r : Rig Simulator} (supervisor : Supervisor) (h : Live r) :
      Live { r with supervisor }
  | performed {r : Rig Simulator} (step : Step) (h : Live r) : Live (perform step r).2
  | meddled {r : Rig Simulator} (m : Simulator.Meddling) (h : Live r) :
      Live { r with substrate := m.apply r.substrate }
  | asked {r : Rig Simulator} (q : Simulator.Request) (h : Live r) :
      Live { r with substrate := q.apply r.substrate }

/-- A rig stands on the simulator: what the topology has is there, and both go by one clock. -/
structure Standing (r : Rig Simulator) : Prop where
  sound : r.topology.Sound
  instantiated : r.topology.instantiated = true
  hosts : ∀ id, r.topology.hasHost id = true → r.substrate.hosts.contains id = true
  links : ∀ pair l, r.topology.linkAt? pair = some l → r.substrate.links.contains pair = true
  follows : r.substrate.followsTime = true
  clock : r.substrate.clock = r.clock

namespace Standing

variable {r : Rig Simulator}

/-! ## Steps leave a rig standing -/

theorem grown (h : Standing r) {sim : Simulator} (hsim : Simulator.Grown r.substrate sim) :
    Standing { r with substrate := sim } :=
  ⟨h.sound, h.instantiated, fun id hid => hsim.hosts id (h.hosts id hid),
    fun pair l hl => hsim.links pair (h.links pair l hl), hsim.follows.trans h.follows,
    hsim.clock.trans h.clock⟩

/-- The topology has the same hosts and pairs when the state of a link is recorded. -/
theorem recordState (h : Standing r) (a b : HostId) (state : LinkState) :
    Standing { r with topology := r.topology.recordState a b state } := by
  refine ⟨h.sound.recordState h.instantiated a b state, ?_, ?_, ?_, h.follows, h.clock⟩
  · rw [Topology.recordState_instantiated]
    exact h.instantiated
  · intro id hid
    rw [Topology.hasHost_recordState] at hid
    exact h.hosts id hid
  · intro pair x hx
    rw [h.sound.linkAt?_recordState] at hx
    split at hx
    · obtain ⟨y, hy, _⟩ := Option.map_eq_some_iff.mp hx
      exact h.links pair y hy
    · exact h.links pair x hx

theorem performs {step : Step} {result : Except TestbedError (Option HandleId)}
    {r' : Rig Simulator} (h : Standing r) (hperf : Performs r step result r') : Standing r' := by
  cases hperf with
  | started | notStarted | notSwitched =>
    exact ⟨h.sound, h.instantiated, h.hosts, h.links, h.follows, h.clock⟩
  | waited d =>
    refine ⟨h.sound, h.instantiated, h.hosts, h.links, h.follows, ?_⟩
    simp only [h.follows, if_true, h.clock]
  | notInstantiated => exact h
  | noLink => exact h
  | already => exact h
  | switched a b state l =>
    exact (h.recordState a b state).grown (Simulator.grown_insertLink _ (.of l.a l.b) state _)

/-! ## Nothing is missing -/

/-- On a host of the topology a command is refused on request, or because it is empty. -/
theorem execRefusal?_eq (h : Standing r) {host : HostId} (known : r.topology.hasHost host = true)
    (request : ExecRequest) : r.substrate.execRefusal? host request =
      if host ∈ r.substrate.failingExec || request.argv.isEmpty then
        some (.rejected (.exec host) .injected)
      else none := by
  simp [Simulator.execRefusal?, h.hosts host known]

/-- A link of the topology is refused on request only. -/
theorem switchRefusal?_eq (h : Standing r) {a b : HostId} {l : Link}
    (hl : r.topology.link? a b = some l) (state : LinkState) :
    r.substrate.switchRefusal? l.a l.b state =
      if l.pair ∈ r.substrate.failingLinks then some (.rejected (.setLink l.a l.b state) .injected)
      else none := by
  have hpair : HostPair.of l.a l.b = .of a b := ((h.sound.linkAt?_iff _ l).mp hl).2
  have hlink : r.substrate.links.contains (.of l.a l.b) = true := by
    rw [hpair]
    exact h.links (.of a b) l hl
  simp only [Simulator.switchRefusal?, hlink, Bool.not_true, Bool.false_eq_true, if_false]
  rfl

end Standing

/-- What a topology was built on has its hosts and its links. -/
theorem standing_built {t t' : Topology} {sim sim' : Simulator} (built : t.Built)
    (follows : sim.followsTime = true) (h : Topology.instantiate (t, sim) = (.ok (), t', sim'))
    (supervisor : Supervisor) :
    Standing { topology := t', substrate := sim', supervisor, clock := sim'.clock } := by
  obtain ⟨_, rfl, rfl, _⟩ := Topology.instantiate_simulator h
  refine ⟨built.sound.raised, rfl, ?_, ?_, follows, rfl⟩
  · intro id hid
    exact (Topology.hosts_network t sim id).mpr (Or.inr ((built.sound.hasHost_iff id).mp hid))
  · intro pair l hl
    have hex := (built.sound.linkAt?_iff pair l).mp hl
    rw [Table.contains, Topology.links_network, if_pos ⟨l, hex⟩]
    rfl

/-- Every rig in use stands. -/
theorem Live.standing {r : Rig Simulator} (h : Live r) : Standing r := by
  induction h with
  | built built follows h supervisor => exact standing_built built follows h supervisor
  | supervised supervisor _ ih =>
    exact ⟨ih.sound, ih.instantiated, ih.hosts, ih.links, ih.follows, ih.clock⟩
  | performed step _ ih => exact ih.performs (Rig.performs step _)
  | meddled m _ ih => exact ih.grown (Simulator.grown_meddling m _)
  | asked q _ ih => exact ih.grown (Simulator.grown_request q _)

end Testbed.Rig
