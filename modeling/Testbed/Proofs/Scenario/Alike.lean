-- Rigs on two substrates. What a rig needs of a substrate is a few laws: which
-- commands start, which links can be switched, that processes can be killed.
-- Where two substrates keep the same laws, a scenario comes to the same on
-- both, up to what the substrates name and number by themselves, to times and
-- to the wording of errors.
import Testbed.Proofs.Scenario.Step
import Testbed.Proofs.Topology.Built

namespace Testbed

/-! ## Errors of one kind -/

/-- Two errors of the same kind, whatever they say. -/
inductive SubstrateError.Alike : SubstrateError → SubstrateError → Prop
  | rejected (op op' : Operation) (why why' : Refusal) :
    Alike (.rejected op why) (.rejected op' why')
  | io (op op' : Operation) (cause cause' : OsError) : Alike (.io op cause) (.io op' cause')
  | unknownHost (host : HostId) : Alike (.unknownHost host) (.unknownHost host)

/-- The same error, but for what a substrate has said in it. -/
inductive TestbedError.Alike : TestbedError → TestbedError → Prop
  | same (e : TestbedError) : Alike e e
  | substrate {c c' : SubstrateError} (h : c.Alike c') : Alike (.substrate c) (.substrate c')
  | spawn (host : HostId) (title : String) {c c' : SubstrateError} (h : c.Alike c') :
      Alike (.spawn host title c) (.spawn host title c')

/-- Two results that are alike: both a value, or both an error. -/
inductive ResultsAlike {α : Type} (R : α → α → Prop) :
    Except TestbedError α → Except TestbedError α → Prop
  | ok {a a' : α} (h : R a a') : ResultsAlike R (.ok a) (.ok a')
  | error {e e' : TestbedError} (h : e.Alike e') : ResultsAlike R (.error e) (.error e')

/-- Two reports of a run that differ in its times only. -/
structure RunReport.Alike (r r' : RunReport) : Prop where
  scenario : r'.scenario = r.scenario
  stepsExecuted : r'.stepsExecuted = r.stepsExecuted
  spawned : r'.spawned = r.spawned

/-! ## What is left of a session without names, numbers and times -/

/-- A topology without what the substrate calls its hosts. -/
def Topology.bare (t : Topology) : Topology :=
  { t with hosts := t.hosts.map fun h => { h with context := none } }

/-- A handle without the number of its process and the time of its start. -/
def ProcessHandle.bare (h : ProcessHandle) : ProcessHandle :=
  { h with pid := 0, spawnedAt := .zero }

def Supervisor.bare (s : Supervisor) : Supervisor :=
  { s with tracked := s.tracked.map ProcessHandle.bare }

/-! ## Substrates that serve -/

/-- The words can be passed to a command. -/
def Plain (argv : List String) : Prop := ∀ word ∈ argv, '\x00' ∉ word.toList

/-- The words of the commands in a step can be passed. -/
def Step.Plain : Step → Prop
  | spawn _ request => Testbed.Plain request.argv
  | wait _ => True
  | setLink _ _ _ => True

/-- The substrate, in a good state, serves some hosts and some links: it refuses nothing but
commands for other hosts and empty ones, and stays in a good state. -/
structure Serves {σ : Type} [Substrate σ] (ids : List HostId) (pairs : List HostPair)
    (good : σ → Prop) : Prop where
  starts : ∀ {s : σ} {host : HostId} {request : ExecRequest}, good s → host ∈ ids →
    request.argv ≠ [] → Plain request.argv →
    ∃ pid s', Substrate.exec host request s = (.ok pid, s') ∧ good s'
  empty : ∀ {s : σ} {host : HostId} {request : ExecRequest}, good s → host ∈ ids →
    request.argv = [] →
    ∃ op why s', Substrate.exec host request s = (.error (.rejected op why), s') ∧ good s'
  stranger : ∀ {s : σ} {host : HostId} (request : ExecRequest), good s → host ∉ ids →
    ∃ s', Substrate.exec host request s = (.error (.unknownHost host), s') ∧ good s'
  switches : ∀ {s : σ} {a b : HostId} (state : LinkState), good s → .of a b ∈ pairs →
    ∃ s', Substrate.setLinkState a b state s = (.ok (), s') ∧ good s'
  kills : ∀ {s : σ} (pid : Pid), good s →
    ∃ s', Substrate.signalKill pid s = (.ok (), s') ∧ good s'
  elapses : ∀ {s : σ} (d : Duration), good s → good (Substrate.elapse d s)

/-! ## Without names and numbers -/

/-- What does not look at names is the same for topologies that differ in these only. -/
theorem Topology.of_bare {α : Type} {t t' : Topology} (h : t.bare = t'.bare) (f : Topology → α)
    (hf : ∀ t, f t.bare = f t) : f t = f t' := by
  rw [← hf t, h, hf t']

theorem Topology.recordState_bare (t : Topology) (a b : HostId) (state : LinkState) :
    t.bare.recordState a b state = (t.recordState a b state).bare := by
  have hindex : t.bare.linkIndex = t.linkIndex := rfl
  unfold Topology.recordState
  rw [hindex]
  split <;> rfl

theorem Supervisor.tracked_bare {s s' : Supervisor} (h : s.bare = s'.bare) :
    s.tracked.map ProcessHandle.bare = s'.tracked.map ProcessHandle.bare :=
  congrArg Supervisor.tracked h

theorem Supervisor.nextIndex_bare {s s' : Supervisor} (h : s.bare = s'.bare) :
    s.nextIndex = s'.nextIndex := by
  have hbare : s.bare.nextIndex = s'.bare.nextIndex := by rw [h]
  exact hbare

/-! ## Rigs -/

/-- Two rigs that look alike, on substrates that serve the links of their topology. -/
structure Rig.Alike {σ τ : Type} (pairs : List HostPair) (good : σ → Prop) (good' : τ → Prop)
    (r : Rig σ) (r' : Rig τ) : Prop where
  topology : r.topology.bare = r'.topology.bare
  supervisor : r.supervisor.bare = r'.supervisor.bare
  pairs : r.topology.links.map Link.pair = pairs
  left : good r.substrate
  right : good' r'.substrate

section

variable {σ τ : Type} {ids : List HostId} {pairs : List HostPair} {good : σ → Prop}
  {good' : τ → Prop}

namespace Rig

/-- What two actions have come to is alike: their results by a relation of the values, and the
rigs that they have reached. -/
def Matches {α : Type} (pairs : List HostPair) (good : σ → Prop) (good' : τ → Prop)
    (R : α → α → Prop) (x : Except TestbedError α × Rig σ) (y : Except TestbedError α × Rig τ) :
    Prop := ResultsAlike R x.1 y.1 ∧ Alike pairs good good' x.2 y.2

/-- Actions in a row come to something alike if each of them does. -/
theorem Matches.bind {α β : Type} {R : α → α → Prop} {S : β → β → Prop}
    {act : Action (Rig σ) TestbedError α} {act' : Action (Rig τ) TestbedError α}
    {next : α → Action (Rig σ) TestbedError β} {next' : α → Action (Rig τ) TestbedError β}
    {r : Rig σ} {r' : Rig τ} (h : Matches pairs good good' R (act r) (act' r'))
    (hnext : ∀ {a a' r r'}, R a a' → Alike pairs good good' r r' →
      Matches pairs good good' S (next a r) (next' a' r')) :
    Matches pairs good good' S ((act >>= next) r) ((act' >>= next') r') := by
  rw [Action.bind_apply, Action.bind_apply]
  generalize act r = x at h ⊢
  generalize act' r' = y at h ⊢
  obtain ⟨result, r₁⟩ := x
  obtain ⟨result', r₁'⟩ := y
  obtain ⟨hresult, hrig⟩ := h
  cases hresult with
  | ok ha => exact hnext ha hrig
  | error he => exact ⟨.error he, hrig⟩

theorem Matches.pure {α : Type} {R : α → α → Prop} {a a' : α} (ha : R a a') {r : Rig σ}
    {r' : Rig τ} (h : Alike pairs good good' r r') : Matches pairs good good' R
      ((Pure.pure a : Action (Rig σ) TestbedError α) r)
      ((Pure.pure a' : Action (Rig τ) TestbedError α) r') := ⟨.ok ha, h⟩

end Rig

/-! ## On substrates that serve -/

variable [Substrate σ] [Substrate τ]

/-- A command starts on both substrates, or is refused on both for reasons of one kind. -/
theorem Serves.exec_alike (hs : Serves ids pairs good) (ht : Serves ids pairs good') {s : σ} {t : τ}
    (h : good s) (h' : good' t) (host : HostId) {request : ExecRequest}
    (hplain : Plain request.argv) :
    (∃ pid pid' s' t', Substrate.exec host request s = (.ok pid, s') ∧
      Substrate.exec host request t = (.ok pid', t') ∧ good s' ∧ good' t') ∨
    ∃ e e' s' t', Substrate.exec host request s = (.error e, s') ∧
      Substrate.exec host request t = (.error e', t') ∧ e.Alike e' ∧ good s' ∧ good' t' := by
  by_cases hhost : host ∈ ids
  · by_cases hempty : request.argv = []
    · obtain ⟨op, why, s', hexec, hs'⟩ := hs.empty h hhost hempty
      obtain ⟨op', why', t', hexec', ht'⟩ := ht.empty h' hhost hempty
      exact Or.inr ⟨_, _, s', t', hexec, hexec', .rejected op op' why why', hs', ht'⟩
    · obtain ⟨pid, s', hexec, hs'⟩ := hs.starts h hhost hempty hplain
      obtain ⟨pid', t', hexec', ht'⟩ := ht.starts h' hhost hempty hplain
      exact Or.inl ⟨pid, pid', s', t', hexec, hexec', hs', ht'⟩
  · obtain ⟨s', hexec, hs'⟩ := hs.stranger request h hhost
    obtain ⟨t', hexec', ht'⟩ := ht.stranger request h' hhost
    exact Or.inr ⟨_, _, s', t', hexec, hexec', .unknownHost host, hs', ht'⟩

/-- Every process is killed. -/
theorem Serves.killEach (hs : Serves ids pairs good) (handles : List ProcessHandle) {s : σ}
    (h : good s) : (Supervisor.killEach handles s).1 = { signalled := handles.map (·.id) } ∧
      good (Supervisor.killEach handles s).2 := by
  induction handles generalizing s with
  | nil => exact ⟨rfl, h⟩
  | cons handle handles ih =>
    obtain ⟨s', hkill, hs'⟩ := hs.kills handle.pid h
    obtain ⟨hreport, hgood⟩ := ih hs'
    rw [Supervisor.killEach, hkill]
    exact ⟨by simp only [hreport, KillReport.cons, List.map_cons], hgood⟩

/-- A link of the topology can always be switched. -/
theorem Serves.link (hs : Serves ids pairs good) {t : Topology}
    (hpairs : t.links.map Link.pair = pairs) {a b : HostId} {l : Link} (hl : t.link? a b = some l)
    (state : LinkState) {s : σ} (h : good s) :
    ∃ s', Substrate.setLinkState l.a l.b state s = (.ok (), s') ∧ good s' := by
  obtain ⟨i, -, hi⟩ := Option.bind_eq_some_iff.mp hl
  have hmem : l.pair ∈ pairs := hpairs ▸ List.mem_map_of_mem (List.mem_of_getElem? hi)
  exact hs.switches state h hmem

namespace Rig

theorem Alike.spawn (hs : Serves ids pairs good) (ht : Serves ids pairs good') {r : Rig σ}
    {r' : Rig τ} (h : Alike pairs good good' r r') (host : HostId) {request : ExecRequest}
    (hplain : Plain request.argv) :
    Matches pairs good good' (fun handle handle' => handle.id = handle'.id)
      (Rig.spawn host request r) (Rig.spawn host request r') := by
  have htracked := Supervisor.tracked_bare h.supervisor
  have hindex := Supervisor.nextIndex_bare h.supervisor
  rcases hs.exec_alike ht h.left h.right host hplain with
    ⟨pid, pid', s', t', hexec, hexec', hs', ht'⟩ | ⟨e, e', s', t', hexec, hexec', he, hs', ht'⟩
  · simp only [Rig.spawn, Action.within, Supervisor.spawn, hexec, hexec']
    refine ⟨.ok (congrArg HandleId.mk hindex), h.topology, ?_, h.pairs, hs', ht'⟩
    simp only [Supervisor.bare, Supervisor.track, List.map_append, htracked, ProcessHandle.bare,
      hindex, List.map_cons, List.map_nil]
  · simp only [Rig.spawn, Action.within, Supervisor.spawn, hexec, hexec']
    exact ⟨.error (.spawn host request.title he), h.topology, h.supervisor, h.pairs, hs', ht'⟩

theorem Alike.switchLink (hs : Serves ids pairs good) (ht : Serves ids pairs good') {r : Rig σ}
    {r' : Rig τ} (h : Alike pairs good good' r r') (a b : HostId) (state : LinkState) :
    Matches pairs good good' Eq (Rig.switchLink a b state r) (Rig.switchLink a b state r') := by
  have hi := Topology.of_bare h.topology (·.instantiated) fun _ => rfl
  have hl := Topology.of_bare h.topology (·.link? a b) fun _ => rfl
  have hname := Topology.of_bare h.topology (·.name) fun _ => rfl
  have hlinks := Topology.of_bare h.topology (·.links) fun _ => rfl
  have hrecord : (r.topology.recordState a b state).bare =
      (r'.topology.recordState a b state).bare := by
    rw [← Topology.recordState_bare, h.topology, Topology.recordState_bare]
  have hpairs' : r'.topology.links.map Link.pair = pairs := by
    rw [← hlinks, h.pairs]
  simp only [Rig.switchLink, Action.within, Topology.switchLink, ← hi, ← hl]
  split
  · rw [hname]
    exact ⟨.error (.same _), h⟩
  split
  · exact ⟨.error (.same _), h⟩
  · next l hlink =>
    split
    · exact ⟨.ok rfl, h⟩
    · obtain ⟨s', hset, hs'⟩ := Serves.link hs h.pairs hlink state h.left
      obtain ⟨t', hset', ht'⟩ := Serves.link ht hpairs' (hl ▸ hlink) state h.right
      rw [hset, hset']
      refine ⟨.ok rfl, hrecord, h.supervisor, ?_, hs', ht'⟩
      rw [Topology.recordState_pairs]
      exact h.pairs

/-- One step, on both rigs. -/
theorem Alike.perform (hs : Serves ids pairs good) (ht : Serves ids pairs good') {r : Rig σ}
    {r' : Rig τ} (h : Alike pairs good good' r r') {step : Step} (hplain : step.Plain) :
    Matches pairs good good' Eq (Rig.perform step r) (Rig.perform step r') := by
  cases step with
  | spawn host request =>
    refine (h.spawn hs ht host hplain).bind ?_
    intro handle handle' r r' hid h
    exact .pure (congrArg some hid) h
  | wait d =>
    exact ⟨.ok rfl, h.topology, h.supervisor, h.pairs, hs.elapses d h.left, ht.elapses d h.right⟩
  | setLink a b state =>
    refine (h.switchLink hs ht a b state).bind ?_
    intro _ _ r r' _ h
    exact .pure rfl h

theorem Alike.performAll (hs : Serves ids pairs good) (ht : Serves ids pairs good')
    {steps : List Step} (hplain : ∀ step ∈ steps, step.Plain) {r : Rig σ} {r' : Rig τ}
    (h : Alike pairs good good' r r') :
    Matches pairs good good' Eq (Rig.performAll steps r) (Rig.performAll steps r') := by
  induction steps generalizing r r' with
  | nil => exact .pure rfl h
  | cons step steps ih =>
    refine (h.perform hs ht (hplain step List.mem_cons_self)).bind ?_
    rintro started _ r r' rfl h
    refine (ih (fun x hx => hplain x (List.mem_cons_of_mem step hx)) h).bind ?_
    rintro rest _ r r' rfl h
    exact .pure rfl h

/-- A whole scenario, on both rigs. -/
theorem Alike.run (hs : Serves ids pairs good) (ht : Serves ids pairs good') {scenario : Scenario}
    (hplain : ∀ step ∈ scenario.steps, step.Plain) {r : Rig σ} {r' : Rig τ}
    (h : Alike pairs good good' r r') :
    Matches pairs good good' RunReport.Alike (Rig.run scenario r) (Rig.run scenario r') := by
  have hvalid := Topology.of_bare h.topology (·.validate scenario) fun _ => rfl
  rcases hv : r.topology.validate scenario with e | u
  · rw [run_unknown hv, run_unknown (hvalid ▸ hv)]
    exact ⟨.error (.same e), h⟩
  · rw [run_known hv, run_known (hvalid ▸ hv)]
    have hall := h.performAll hs ht hplain
    generalize Rig.performAll scenario.steps r = x at hall ⊢
    generalize Rig.performAll scenario.steps r' = y at hall ⊢
    obtain ⟨result, r₁⟩ := x
    obtain ⟨result', r₁'⟩ := y
    obtain ⟨hresult, hrig⟩ := hall
    refine ⟨?_, hrig⟩
    cases hresult with
    | ok hspawned => exact .ok ⟨rfl, rfl, hspawned.symm⟩
    | error he => exact .error he

end Rig

end

end Testbed
