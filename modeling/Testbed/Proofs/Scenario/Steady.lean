-- Runs on which nothing fails. Where no failures are requested, steps for the
-- hosts and the links of the topology go well, and what has been started stays
-- alive. A link that is taken down and brought up again leaves the topology as
-- it was.
import Testbed.Proofs.Scenario.Step
import Testbed.Proofs.Simulator.Serving

namespace Testbed

/-! ## Calls to switch links -/

namespace Simulator

/-- What a call was to make of a link, and whether it has. -/
def Call.setLink? : Call → Option (HostId × HostId × LinkState × Bool)
  | ⟨_, .setLink a b state, ok⟩ => some (a, b, state, ok)
  | _ => none

/-- The calls to switch a link, oldest first. -/
def setLinks (s : Simulator) : List (HostId × HostId × LinkState × Bool) :=
  s.calls.filterMap Call.setLink?

theorem setLinks_record (s : Simulator) (op : Op) (ok : Bool) :
    (s.record op ok).setLinks = s.setLinks ++ (Call.setLink? ⟨s.clock.now, op, ok⟩).toList := by
  unfold setLinks record
  rw [List.filterMap_append]
  cases h : Call.setLink? ⟨s.clock.now, op, ok⟩ <;> simp [h]

theorem setLinks_launch (s : Simulator) (host : HostId) (request : ExecRequest) :
    (s.launch host request).setLinks = s.setLinks := by
  unfold launch
  rw [setLinks_record]
  simp [Call.setLink?, setLinks]

theorem setLinks_switch (s : Simulator) (a b : HostId) (state : LinkState) :
    (s.switch a b state).setLinks = s.setLinks ++ [(a, b, state, true)] := by
  unfold switch
  rw [setLinks_record]
  rfl

/-- A process that has just been started is alive, and the others live on. -/
theorem isAlive_launch {s : Simulator} {pid : Pid} (h : s.isAlive pid = true ∨ pid = s.nextPid)
    (host : HostId) (request : ExecRequest) : (s.launch host request).isAlive pid = true := by
  have hget : (s.launch host request).process? pid =
      if s.nextPid = pid then some { host, argv := request.argv, title := request.title }
      else s.process? pid := Table.get?_insert ..
  rw [isAlive, hget]
  split
  · rfl
  · next hne => exact h.resolve_right (Ne.symm hne)

end Simulator

/-! ## A state that is recorded twice -/

namespace Topology

theorem recordState_recordState (t : Topology) (a b : HostId) (state state' : LinkState) :
    (t.recordState a b state).recordState a b state' = t.recordState a b state' := by
  rcases hi : t.linkIndex.get? (.of a b) with _ | i
  · rw [recordState_none state hi]
  · have hi' : (t.recordState a b state).linkIndex.get? (.of a b) = some i := by
      rw [recordState_linkIndex, hi]
    rw [recordState_some state' hi', recordState_some state' hi, recordState_some state hi]
    simp [List.modify_modify_eq, Function.comp_def]

/-- Switching a link and back leaves nothing behind. -/
theorem recordState_back {t : Topology} {a b : HostId} {l : Link} (h : t.link? a b = some l)
    (state : LinkState) : (t.recordState a b state).recordState a b l.state = t := by
  rw [recordState_recordState, recordState_same h]

end Topology

/-! ## Steps that go well -/

/-- The step starts a command on one of the hosts, or lets time pass. -/
def Step.Calm (ids : List HostId) : Step → Prop
  | spawn host request => host ∈ ids ∧ request.argv ≠ []
  | wait _ => True
  | setLink _ _ _ => False

namespace Rig

/-- The substrate attends to the hosts and the links, and all that is tracked is alive. -/
structure Steady (ids : List HostId) (pairs : List HostPair) (r : Rig Simulator) : Prop where
  attends : r.substrate.Attends ids pairs
  alive : ∀ h ∈ r.supervisor.tracked, r.substrate.isAlive h.pid = true

/-- From a rig to a steady one with the same topology, through these calls to switch links. -/
structure Passes (ids : List HostId) (pairs : List HostPair)
    (switched : List (HostId × HostId × LinkState × Bool)) (r r' : Rig Simulator) : Prop where
  steady : Steady ids pairs r'
  topology : r'.topology = r.topology
  setLinks : r'.substrate.setLinks = r.substrate.setLinks ++ switched

variable {ids : List HostId} {pairs : List HostPair} {r r' r'' : Rig Simulator}

theorem Passes.trans {switched more : List (HostId × HostId × LinkState × Bool)}
    (h : Passes ids pairs switched r r') (h' : Passes ids pairs more r' r'') :
    Passes ids pairs (switched ++ more) r r'' :=
  ⟨h'.steady, h'.topology.trans h.topology, by rw [h'.setLinks, h.setLinks, List.append_assoc]⟩

theorem Steady.passes (h : Steady ids pairs r') (topology : r'.topology = r.topology)
    (setLinks : r'.substrate.setLinks = r.substrate.setLinks) : Passes ids pairs [] r r' :=
  ⟨h, topology, by rw [setLinks, List.append_nil]⟩

theorem Steady.started (h : Steady ids pairs r) (host : HostId) (request : ExecRequest)
    (now : Duration) : Steady ids pairs { r with
      supervisor := (r.supervisor.track r.substrate.nextPid host request now).2
      substrate := r.substrate.launch host request } := by
  refine ⟨h.attends.of_same rfl rfl rfl rfl rfl, ?_⟩
  intro handle hmem
  rcases List.mem_append.mp hmem with hold | hnew
  · exact Simulator.isAlive_launch (Or.inl (h.alive handle hold)) host request
  · rw [List.mem_singleton.mp hnew]
    exact Simulator.isAlive_launch (Or.inr rfl) host request

theorem Steady.perform_calm (h : Steady ids pairs r) {step : Step} (calm : step.Calm ids) :
    ∃ started r', perform step r = (.ok started, r') ∧ Passes ids pairs [] r r' := by
  rcases hp : perform step r with ⟨result, r'⟩
  cases perform_eq_iff.mp hp with
  | started host request =>
    exact ⟨_, _, rfl, (h.started host request r.clock.now).passes rfl
      (Simulator.setLinks_launch _ _ _)⟩
  | notStarted host request e hrefusal =>
    obtain ⟨hhost, hargv⟩ := calm
    simp [Simulator.execRefusal?, (h.attends.hosts host).mpr hhost, h.attends.quiet.exec,
      hargv] at hrefusal
  | waited d =>
    refine ⟨_, _, rfl, ⟨h.attends.of_same rfl rfl rfl rfl rfl, h.alive⟩, rfl, ?_⟩
    exact (List.append_nil _).symm
  | notInstantiated | noLink | already | switched | notSwitched => exact calm.elim

/-- Steps that start commands and let time pass all go well. -/
theorem Steady.performAll_calm (h : Steady ids pairs r) {steps : List Step}
    (calm : ∀ step ∈ steps, step.Calm ids) :
    ∃ started r', performAll steps r = (.ok started, r') ∧ Passes ids pairs [] r r' := by
  induction steps generalizing r with
  | nil => exact ⟨[], r, rfl, h.passes rfl rfl⟩
  | cons step steps ih =>
    obtain ⟨started, r₁, hstep, hpass⟩ := h.perform_calm (calm step List.mem_cons_self)
    obtain ⟨rest, r₂, hrest, hpass'⟩ :=
      ih hpass.steady fun x hx => calm x (List.mem_cons_of_mem step hx)
    exact ⟨started.toList ++ rest, r₂, by rw [performAll_cons_ok hstep, hrest]; rfl,
      hpass.trans hpass'⟩

/-- A link that is in another state is switched. -/
theorem Steady.perform_setLink (h : Steady ids pairs r) (hi : r.topology.instantiated = true)
    {a b : HostId} {l : Link} (hl : r.topology.link? a b = some l) (hpair : l.pair ∈ pairs)
    {state : LinkState} (hs : l.state ≠ state) :
    ∃ r', perform (.setLink a b state) r = (.ok none, r') ∧ Steady ids pairs r' ∧
      r'.topology = r.topology.recordState a b state ∧
      r'.substrate.setLinks = r.substrate.setLinks ++ [(l.a, l.b, state, true)] := by
  have hrefusal : r.substrate.switchRefusal? l.a l.b state = none := by
    have hlink : r.substrate.links.contains (.of l.a l.b) = true := h.attends.links l.pair hpair
    simp [Simulator.switchRefusal?, h.attends.quiet.links, hlink]
  rcases hp : perform (.setLink a b state) r with ⟨result, r'⟩
  cases perform_eq_iff.mp hp with
  | notInstantiated _ _ _ hno =>
    rw [hi] at hno
    cases hno
  | noLink _ _ _ _ hno =>
    rw [hl] at hno
    cases hno
  | already _ _ _ m _ hm heq =>
    obtain rfl : l = m := Option.some.inj (hl.symm.trans hm)
    exact absurd heq hs
  | notSwitched _ _ _ m e _ hm _ hno =>
    obtain rfl : l = m := Option.some.inj (hl.symm.trans hm)
    rw [hrefusal] at hno
    cases hno
  | switched _ _ _ m _ hm =>
    obtain rfl : l = m := Option.some.inj (hl.symm.trans hm)
    refine ⟨_, rfl, ⟨⟨h.attends.hosts, ?_, h.attends.quiet.exec, h.attends.quiet.links,
      h.attends.quiet.kills⟩, h.alive⟩, rfl, Simulator.setLinks_switch _ _ _ _⟩
    intro pair hmem
    change (r.substrate.links.insert (.of l.a l.b) state).contains pair = true
    rw [Table.contains_insert, h.attends.links pair hmem, Bool.or_true]

/-- A link that is up is taken down, and after a while it is brought up again. -/
theorem Steady.performAll_fault (h : Steady ids pairs r) (sound : r.topology.Sound)
    (hi : r.topology.instantiated = true) {a b : HostId} {l : Link}
    (hl : r.topology.link? a b = some l) (hpair : l.pair ∈ pairs) (hup : l.state = .up)
    (d : Duration) :
    ∃ r', performAll [.setLink a b .down, .wait d, .setLink a b .up] r = (.ok [], r') ∧
      Passes ids pairs [(l.a, l.b, .down, true), (l.a, l.b, .up, true)] r r' := by
  have hne : l.state ≠ .down := by simp [hup]
  obtain ⟨r₁, hdown, hsteady₁, htop₁, hset₁⟩ := h.perform_setLink hi hl hpair hne
  obtain ⟨started, r₂, hwait, hpass⟩ :=
    hsteady₁.perform_calm (show (Step.wait d).Calm ids from trivial)
  have hl₂ : r₂.topology.link? a b = some { l with state := .down } := by
    rw [hpass.topology, htop₁, Topology.link?_eq, sound.linkAt?_recordState, if_pos rfl,
      ← Topology.link?_eq, hl]
    rfl
  have hi₂ : r₂.topology.instantiated = true := by
    rw [hpass.topology, htop₁, Topology.recordState_instantiated, hi]
  obtain ⟨r₃, hagain, hsteady₃, htop₃, hset₃⟩ := hpass.steady.perform_setLink hi₂ hl₂ hpair
    (show ({ l with state := .down } : Link).state ≠ .up by simp)
  refine ⟨r₃, ?_, hsteady₃, ?_, ?_⟩
  · obtain rfl : none = started := Except.ok.inj (congrArg (·.1) hwait)
    rw [performAll_cons_ok hdown, performAll_cons_ok hwait, performAll_cons_ok hagain]
    rfl
  · rw [htop₃, hpass.topology, htop₁, ← hup, Topology.recordState_back hl]
  · rw [hset₃, hpass.setLinks, hset₁]
    simp

end Rig

end Testbed
