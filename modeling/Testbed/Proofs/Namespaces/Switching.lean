-- Switching the links of a topology whose hosts are namespaces. Switching takes
-- two tool runs, and each of them may fail. The second interface of a link is
-- always in the recorded state. The first one is too, unless a switch stopped
-- between its two runs and the link has not been changed since.
import Mathlib.Data.List.Induction
import Testbed.Proofs.Namespaces.Interfaces

namespace Testbed

/-- The state that is not this one. -/
def LinkState.other : LinkState → LinkState
  | up => down
  | down => up

theorem LinkState.eq_other {s s' : LinkState} (h : s ≠ s') : s' = s.other := by
  cases s <;> cases s' <;> simp_all [other]

namespace Namespaces

/-! ## One interface -/

theorem switchEnd_eq {host : HostId} {net : Namespaces}
    (hname : net.names.get? host = some (net.spaceName host)) {op : Operation} {i : String}
    {state : LinkState} : switchEnd op host i state net =
      requireTool op (inside (net.spaceName host) ["ip", "link", "set", i, state.text]) net :=
  Action.bind_ok _ (space_of_name hname)

theorem switchEnd_ip {host : HostId} {net : Namespaces}
    (hname : net.names.get? host = some (net.spaceName host)) (op : Operation) (i : String)
    (state : LinkState) :
    switchEnd op host i state net =
      (.ok (), net.ran [net.switchRun (net.spaceName host) i state]) ∨
    ∃ e runs, switchEnd op host i state net = (.error e, net.ran runs) ∧
      ∀ run ∈ runs, run.exit ≠ some 0 := by
  rw [switchEnd_eq hname]
  exact requireTool_ip op _ net

theorem switchEnd_obeyed {host : HostId} {net : Namespaces} {i : String} {state : LinkState}
    (hname : net.names.get? host = some (net.spaceName host))
    (h : net.Obeyed ["netns", "exec", net.spaceName host, "ip", "link", "set", i, state.text])
    (op : Operation) : switchEnd op host i state net =
      (.ok (), net.ran [net.switchRun (net.spaceName host) i state]) := by
  rw [switchEnd_eq hname]
  exact requireTool_obeyed h op

theorem stateAt_switchRun {net : Namespaces} {p : HostId × String}
    (hp : net.names.get? p.1 = some (net.spaceName p.1)) (host : HostId) (i : String)
    (state : LinkState) : (net.ran [net.switchRun (net.spaceName host) i state]).stateAt p =
      if p = (host, i) then some state else net.stateAt p := by
  rw [stateAt_ran hp, Machine.interfaceState?_singleton, switched?_switchRun]
  simp only [place_eq_iff]
  split
  · rfl
  · exact Option.none_or

/-! ## Both interfaces -/

theorem setLinkState_eq {a b : HostId} {net : Namespaces} {ends : InterfacePair}
    (hends : net.links.get? (.of a b) = some ends) {state : LinkState} :
    setLinkState a b state net =
      (switchEnd (.setLink a b state) ends.a ends.aName state >>= fun _ =>
        switchEnd (.setLink a b state) ends.b ends.bName state) net := by
  unfold setLinkState
  rw [Action.reads_bind, hends]

theorem endStates_silent (net : Namespaces) {runs : List Machine.ToolRun}
    (h : Machine.Silent runs) (pair : HostPair) :
    (net.ran runs).endStates pair = net.endStates pair := by
  simp only [endStates, ran_links, stateAt_silent net h]

namespace Wired

variable {net : Namespaces} {ids : List HostId} {links : List Link} {l : Link}
  {ends : InterfacePair}

/-- Switching an interface of a link does nothing to the other links. -/
theorem endStates_other (h : Wired net ids links) (hl : l ∈ links)
    (hends : net.links.get? l.pair = some ends) {m : Link} (hm : m ∈ links)
    (hpair : m.pair ≠ l.pair) {host : HostId} {i : String} (hp : (host, i) ∈ places ends)
    (state : LinkState) :
    (net.ran [net.switchRun (net.spaceName host) i state]).endStates m.pair =
      net.endStates m.pair := by
  obtain ⟨mEnds, hmEnds, -⟩ := h.stored m hm
  have hsame : ∀ q ∈ places mEnds,
      (net.ran [net.switchRun (net.spaceName host) i state]).stateAt q = net.stateAt q := by
    intro q hq
    rw [stateAt_switchRun (h.named _ (h.host_known hm hmEnds hq)), if_neg]
    rintro rfl
    exact hpair (h.apart m hm l hl mEnds ends hmEnds hends _ hq hp)
  rw [endStates_of_links hmEnds, endStates_ran hmEnds,
    hsame _ (mem_places.mpr (Or.inl rfl)), hsame _ (mem_places.mpr (Or.inr rfl))]

theorem endStates_first (h : Wired net ids links) (hl : l ∈ links)
    (hends : net.links.get? l.pair = some ends) (state : LinkState) :
    (net.ran [net.switchRun (net.spaceName ends.a) ends.aName state]).endStates l.pair =
      (some state, (net.endStates l.pair).2) := by
  obtain ⟨ha, hb, hab⟩ := h.ends_known hl hends
  rw [endStates_of_links hends, endStates_ran hends,
    stateAt_switchRun (h.named _ ha), stateAt_switchRun (h.named _ hb)]
  simp [hab.symm]

theorem endStates_second (h : Wired net ids links) (hl : l ∈ links)
    (hends : net.links.get? l.pair = some ends) (state : LinkState) :
    (net.ran [net.switchRun (net.spaceName ends.b) ends.bName state]).endStates l.pair =
      ((net.endStates l.pair).1, some state) := by
  obtain ⟨ha, hb, hab⟩ := h.ends_known hl hends
  rw [endStates_of_links hends, endStates_ran hends,
    stateAt_switchRun (h.named _ ha), stateAt_switchRun (h.named _ hb)]
  simp [hab]

/-- Switching a link sets both interfaces, or nothing, or only the first one. -/
theorem setLinkState_cases (h : Wired net ids links) (hl : l ∈ links) (state : LinkState) :
    ∃ ends, net.links.get? l.pair = some ends ∧
      (setLinkState l.a l.b state net =
        (.ok (), (net.ran [net.switchRun (net.spaceName ends.a) ends.aName state]).ran
          [net.switchRun (net.spaceName ends.b) ends.bName state]) ∨
      ∃ e runs, (∀ run ∈ runs, run.exit ≠ some 0) ∧
        (setLinkState l.a l.b state net = (.error e, net.ran runs) ∨
          setLinkState l.a l.b state net = (.error e,
            (net.ran [net.switchRun (net.spaceName ends.a) ends.aName state]).ran runs))) := by
  obtain ⟨ends, hends, -, -⟩ := h.stored l hl
  obtain ⟨ha, hb, -⟩ := h.ends_known hl hends
  have ha := h.named _ ha
  have hb : (net.ran [net.switchRun (net.spaceName ends.a) ends.aName state]).names.get? ends.b =
    some (net.spaceName ends.b) := h.named _ hb
  refine ⟨ends, hends, ?_⟩
  rw [setLinkState_eq hends]
  rcases switchEnd_ip ha (.setLink l.a l.b state) ends.aName state with
    hfirst | ⟨e, runs, hfirst, hfailed⟩
  · rw [Action.bind_ok _ hfirst]
    rcases switchEnd_ip hb (.setLink l.a l.b state) ends.bName state with
      hsecond | ⟨e, runs, hsecond, hfailed⟩
    · exact Or.inl hsecond
    · exact Or.inr ⟨e, runs, hfailed, Or.inr hsecond⟩
  · rw [Action.bind_error _ hfirst]
    exact Or.inr ⟨e, runs, hfailed, Or.inl rfl⟩

end Wired

/-! ## Many switches -/

/-- A request to switch a link. -/
structure Switching where
  a : HostId
  b : HostId
  state : LinkState
deriving DecidableEq, Repr

namespace Switching

def pair (c : Switching) : HostPair := .of c.a c.b

def apply (c : Switching) : Action (Topology × Namespaces) TestbedError Transition :=
  Topology.switchLink c.a c.b c.state

/-- The request changes the link. -/
def Changes (c : Switching) (tn : Topology × Namespaces) : Prop :=
  ∃ before after, (c.apply tn).1 = .ok (.changed before after)

theorem changes_iff {c : Switching} {tn tn' : Topology × Namespaces}
    {r : Except TestbedError Transition} (h : c.apply tn = (r, tn')) :
    c.Changes tn ↔ ∃ before after, r = .ok (.changed before after) := by
  rw [Changes, h]

/-- The request fails although one of the tools that it ran has succeeded. -/
def CutShort (c : Switching) (tn : Topology × Namespaces) : Prop :=
  (∃ e, (c.apply tn).1 = .error e) ∧
    ∃ run ∈ (c.apply tn).2.2.machine.runs.drop tn.2.machine.runs.length, run.exit = some 0

theorem cutShort_iff {c : Switching} {t t' : Topology} {net : Namespaces}
    {r : Except TestbedError Transition} {runs : List Machine.ToolRun}
    (h : c.apply (t, net) = (r, t', net.ran runs)) : c.CutShort (t, net) ↔
      (∃ e, r = .error e) ∧ ∃ run ∈ runs, run.exit = some 0 := by
  have hnew : (net.ran runs).machine.runs.drop net.machine.runs.length = runs :=
    List.drop_left
  simp only [CutShort, h, hnew]

/-- The pairs whose link is torn after a request, by those whose link was torn before it. -/
def tears (c : Switching) (tn : Topology × Namespaces) (torn : HostPair → Prop)
    (pair : HostPair) : Prop :=
  (c.pair = pair ∧ c.CutShort tn) ∨ (torn pair ∧ ¬ (c.pair = pair ∧ c.Changes tn))

theorem tears_of_cut {c : Switching} {tn tn' : Topology × Namespaces} {e : TestbedError}
    (h : c.apply tn = (.error e, tn')) (cut : c.CutShort tn) (torn : HostPair → Prop)
    (pair : HostPair) : c.tears tn torn pair ↔ c.pair = pair ∨ torn pair := by
  have hchange : ¬ c.Changes tn := by simp [changes_iff h]
  simp [tears, cut, hchange]

theorem tears_of_changed {c : Switching} {tn tn' : Topology × Namespaces}
    {before after : LinkState} (h : c.apply tn = (.ok (.changed before after), tn'))
    (torn : HostPair → Prop) (pair : HostPair) :
    c.tears tn torn pair ↔ torn pair ∧ c.pair ≠ pair := by
  have hcut : ¬ c.CutShort tn := by simp [CutShort, h]
  have hchange : c.Changes tn := by simp [changes_iff h]
  simp [tears, hcut, hchange]

/-- What becomes of a request: it is refused, finds nothing to do, fails in the namespaces or
changes the link. -/
theorem apply_cases (c : Switching) (t : Topology) (net : Namespaces) :
    (∃ e, c.apply (t, net) = (.error e, t, net)) ∨
    t.instantiated = true ∧ ∃ l, t.linkAt? c.pair = some l ∧
      ((l.state = c.state ∧ c.apply (t, net) = (.ok (.unchanged c.state), t, net)) ∨
      (l.state ≠ c.state ∧ ∃ e net', setLinkState l.a l.b c.state net = (.error e, net') ∧
        c.apply (t, net) = (.error (.substrate e), t, net')) ∨
      (l.state ≠ c.state ∧ ∃ net', setLinkState l.a l.b c.state net = (.ok (), net') ∧
        c.apply (t, net) =
          (.ok (.changed l.state c.state), t.recordState c.a c.b c.state, net'))) :=
  Topology.switchLink_cases t net c.a c.b c.state

end Switching

/-- A topology and its namespaces after a list of requests, those that fail among them. -/
def switched (calls : List Switching) (tn : Topology × Namespaces) : Topology × Namespaces :=
  calls.foldl (fun tn c => (c.apply tn).2) tn

/-- Some request for the pair was cut short, and none since has changed the link. -/
inductive Torn (tn : Topology × Namespaces) (pair : HostPair) : List Switching → Prop
  | cut {calls : List Switching} {c : Switching} (hpair : c.pair = pair)
      (hcut : c.CutShort (switched calls tn)) : Torn tn pair (calls ++ [c])
  | still {calls : List Switching} {c : Switching} (h : Torn tn pair calls)
      (hkept : ¬ (c.pair = pair ∧ c.Changes (switched calls tn))) : Torn tn pair (calls ++ [c])

theorem torn_concat {tn : Topology × Namespaces} {pair : HostPair} {calls : List Switching}
    {c : Switching} : Torn tn pair (calls ++ [c]) ↔
      c.tears (switched calls tn) (fun pair => Torn tn pair calls) pair := by
  constructor
  · intro h
    generalize hall : calls ++ [c] = all at h
    cases h with
    | cut hpair hcut =>
      obtain ⟨rfl, hc⟩ := List.append_inj' hall rfl
      obtain rfl := List.singleton_inj.mp hc
      exact Or.inl ⟨hpair, hcut⟩
    | still h hkept =>
      obtain ⟨rfl, hc⟩ := List.append_inj' hall rfl
      obtain rfl := List.singleton_inj.mp hc
      exact Or.inr ⟨h, hkept⟩
  · rintro (⟨hpair, hcut⟩ | ⟨h, hkept⟩)
    · exact .cut hpair hcut
    · exact .still h hkept

theorem not_torn_nil {tn : Topology × Namespaces} {pair : HostPair} : ¬ Torn tn pair [] := by
  intro h
  generalize hall : ([] : List Switching) = all at h
  cases h <;> simp at hall

/-! ## Interfaces follow the record -/

/-- The interfaces of every link are in its state, but for the first one of a torn link. -/
structure Follows (torn : HostPair → Prop) (t : Topology) (net : Namespaces) : Prop where
  sound : t.Sound
  wired : Wired net t.ids t.links
  whole : ∀ pair l, t.linkAt? pair = some l → ¬ torn pair →
    net.endStates pair = (some l.state, some l.state)
  torn : ∀ pair l, t.linkAt? pair = some l → torn pair →
    net.endStates pair = (some l.state.other, some l.state)

namespace Follows

variable {torn : HostPair → Prop} {t : Topology} {net : Namespaces}

theorem congr (h : Follows torn t net) {torn' : HostPair → Prop}
    (hiff : ∀ pair, torn' pair ↔ torn pair) : Follows torn' t net :=
  ⟨h.sound, h.wired, fun pair l hl ht => h.whole pair l hl fun ht' => ht ((hiff pair).mpr ht'),
    fun pair l hl ht => h.torn pair l hl ((hiff pair).mp ht)⟩

theorem second (h : Follows torn t net) {pair : HostPair} {l : Link}
    (hl : t.linkAt? pair = some l) : (net.endStates pair).2 = some l.state := by
  by_cases ht : torn pair
  · rw [h.torn pair l hl ht]
  · rw [h.whole pair l hl ht]

/-- Runs that switch nothing change nothing here. -/
theorem silent (h : Follows torn t net) {runs : List Machine.ToolRun}
    (hruns : Machine.Silent runs) : Follows torn t (net.ran runs) := by
  refine ⟨h.sound, h.wired.ran runs, ?_, ?_⟩
  · intro pair l hl ht
    rw [endStates_silent net hruns]
    exact h.whole pair l hl ht
  · intro pair l hl ht
    rw [endStates_silent net hruns]
    exact h.torn pair l hl ht

/-- A switch that stops after the first interface tears the link. -/
theorem cut (h : Follows torn t net) {l : Link} (hl : l ∈ t.links) {ends : InterfacePair}
    (hends : net.links.get? l.pair = some ends) {state : LinkState} (hs : l.state ≠ state) :
    Follows (fun pair => l.pair = pair ∨ torn pair) t
      (net.ran [net.switchRun (net.spaceName ends.a) ends.aName state]) := by
  have hat := (h.sound.linkAt?_iff l.pair l).mpr ⟨hl, rfl⟩
  have hself := h.wired.endStates_first hl hends state
  rw [h.second hat, LinkState.eq_other hs] at hself
  refine ⟨h.sound, h.wired.ran _, ?_, ?_⟩
  · intro pair m hm ht
    obtain ⟨hmem, rfl⟩ := (h.sound.linkAt?_iff pair m).mp hm
    rw [h.wired.endStates_other hl hends hmem (fun heq => ht (Or.inl heq.symm))
      (mem_places.mpr (Or.inl rfl))]
    exact h.whole m.pair m hm fun hm' => ht (Or.inr hm')
  · intro pair m hm ht
    by_cases hpair : l.pair = pair
    · subst hpair
      obtain rfl : l = m := Option.some.inj (hat.symm.trans hm)
      rw [LinkState.eq_other hs]
      exact hself
    · obtain ⟨hmem, rfl⟩ := (h.sound.linkAt?_iff pair m).mp hm
      rw [h.wired.endStates_other hl hends hmem (Ne.symm hpair) (mem_places.mpr (Or.inl rfl))]
      exact h.torn m.pair m hm (ht.resolve_left hpair)

/-- A switch of both interfaces makes the link whole. -/
theorem changed (h : Follows torn t net) (hi : t.instantiated = true) {a b : HostId} {l : Link}
    (hl : t.link? a b = some l) {ends : InterfacePair}
    (hends : net.links.get? l.pair = some ends) (state : LinkState) :
    Follows (fun pair => torn pair ∧ .of a b ≠ pair) (t.recordState a b state)
      ((net.ran [net.switchRun (net.spaceName ends.a) ends.aName state]).ran
        [net.switchRun (net.spaceName ends.b) ends.bName state]) := by
  obtain ⟨hmem, hpair⟩ := (h.sound.linkAt?_iff _ l).mp hl
  have hfirst := h.wired.ran [net.switchRun (net.spaceName ends.a) ends.aName state]
  have hends' : (net.ran [net.switchRun (net.spaceName ends.a) ends.aName state]).links.get?
      l.pair = some ends := hends
  have hself := hfirst.endStates_second hmem hends' state
  rw [h.wired.endStates_first hmem hends state] at hself
  have hother : ∀ m ∈ t.links, m.pair ≠ l.pair →
      ((net.ran [net.switchRun (net.spaceName ends.a) ends.aName state]).ran
        [net.switchRun (net.spaceName ends.b) ends.bName state]).endStates m.pair =
      net.endStates m.pair := by
    intro m hm hne
    exact (hfirst.endStates_other hmem hends' hm hne (mem_places.mpr (Or.inr rfl)) state).trans
      (h.wired.endStates_other hmem hends hm hne (mem_places.mpr (Or.inl rfl)) state)
  have hids : (t.recordState a b state).ids = t.ids := by
    rw [Topology.ids, Topology.recordState_hosts, Topology.ids]
  refine ⟨h.sound.recordState hi a b state, ?_, ?_, ?_⟩
  · rw [hids]
    exact (hfirst.ran _).of_shape (Topology.recordState_map Link.shape (fun _ _ => rfl) t a b state)
  · intro pair m hm ht
    rw [h.sound.linkAt?_recordState] at hm
    split at hm
    · next hp =>
      obtain ⟨x, _, rfl⟩ := Option.map_eq_some_iff.mp hm
      rw [← hp, ← hpair]
      exact hself
    · next hp =>
      obtain ⟨hmmem, rfl⟩ := (h.sound.linkAt?_iff pair m).mp hm
      rw [hother m hmmem fun heq => hp (hpair.symm.trans heq.symm)]
      exact h.whole m.pair m hm fun htorn => ht ⟨htorn, hp⟩
  · rintro pair m hm ⟨htorn, hp⟩
    rw [h.sound.linkAt?_recordState, if_neg hp] at hm
    obtain ⟨hmmem, rfl⟩ := (h.sound.linkAt?_iff pair m).mp hm
    rw [hother m hmmem fun heq => hp (hpair.symm.trans heq.symm)]
    exact h.torn m.pair m hm htorn

/-- A request that runs nothing with success tears no link and makes none whole. -/
theorem fruitless (h : Follows torn t net) {c : Switching} {r : Except TestbedError Transition}
    {runs : List Machine.ToolRun} (hc : c.apply (t, net) = (r, t, net.ran runs))
    (hr : ∀ before after, r ≠ .ok (.changed before after))
    (hruns : ∀ run ∈ runs, run.exit ≠ some 0) :
    Follows (c.tears (t, net) torn) t (net.ran runs) := by
  have hcut : ¬ c.CutShort (t, net) := by
    rw [Switching.cutShort_iff hc]
    rintro ⟨-, run, hrun, hexit⟩
    exact hruns run hrun hexit
  have hchange : ¬ c.Changes (t, net) := by simpa [Switching.changes_iff hc] using hr
  exact (h.silent (Machine.silent_of_failed hruns)).congr fun pair => by
    simp [Switching.tears, hcut, hchange]

/-- A request for which no tool was run. -/
theorem untouched (h : Follows torn t net) {c : Switching} {r : Except TestbedError Transition}
    (hc : c.apply (t, net) = (r, t, net))
    (hr : ∀ before after, r ≠ .ok (.changed before after)) :
    Follows (c.tears (t, net) torn) t net := by
  have hnone : c.apply (t, net) = (r, t, net.ran []) := by rw [ran_nil, hc]
  have hrest := h.fruitless hnone hr (by simp)
  rwa [ran_nil] at hrest

/-- A request that the namespaces refuse has set no interface or only the first one. -/
theorem failed (h : Follows torn t net) {c : Switching} {l : Link}
    (hl : t.linkAt? c.pair = some l) (hs : l.state ≠ c.state) {e : SubstrateError}
    {net' : Namespaces} (hset : setLinkState l.a l.b c.state net = (.error e, net'))
    (hc : c.apply (t, net) = (.error (.substrate e), t, net')) :
    Follows (c.tears (t, net) torn) t net' := by
  obtain ⟨hmem, hpair⟩ := (h.sound.linkAt?_iff _ l).mp hl
  obtain ⟨ends, hends, hcases⟩ := h.wired.setLinkState_cases hmem c.state
  rcases hcases with hboth | ⟨e', runs, hfruitless, hnothing | hfirst⟩
  · cases hset.symm.trans hboth
  · cases hset.symm.trans hnothing
    exact h.fruitless hc (by simp) hfruitless
  · cases hset.symm.trans hfirst
    have hcut : c.CutShort (t, net) := by
      rw [ran_ran] at hc
      rw [Switching.cutShort_iff hc]
      exact ⟨⟨_, rfl⟩, _, List.mem_cons_self, rfl⟩
    refine ((h.cut hmem hends hs).silent (Machine.silent_of_failed hfruitless)).congr ?_
    rw [hpair]
    exact Switching.tears_of_cut hc hcut torn

/-- A request that the namespaces carry out has set both interfaces. -/
theorem carriedOut (h : Follows torn t net) (hi : t.instantiated = true) {c : Switching} {l : Link}
    (hl : t.linkAt? c.pair = some l) {net' : Namespaces}
    (hset : setLinkState l.a l.b c.state net = (.ok (), net')) {before after : LinkState}
    (hc : c.apply (t, net) =
      (.ok (.changed before after), t.recordState c.a c.b c.state, net')) :
    Follows (c.tears (t, net) torn) (t.recordState c.a c.b c.state) net' := by
  obtain ⟨hmem, -⟩ := (h.sound.linkAt?_iff _ l).mp hl
  obtain ⟨ends, hends, hcases⟩ := h.wired.setLinkState_cases hmem c.state
  rcases hcases with hboth | ⟨e, runs, -, hnothing | hfirst⟩
  · cases hset.symm.trans hboth
    exact (h.changed hi hl hends c.state).congr (Switching.tears_of_changed hc torn)
  · cases hset.symm.trans hnothing
  · cases hset.symm.trans hfirst

/-- One request, whatever comes of it. -/
theorem apply (h : Follows torn t net) (c : Switching) : Follows (c.tears (t, net) torn)
    (c.apply (t, net)).2.1 (c.apply (t, net)).2.2 := by
  rcases c.apply_cases t net with
    ⟨e, hc⟩ | ⟨hi, l, hl, ⟨_, hc⟩ | ⟨hs, e, net', hset, hc⟩ | ⟨_, net', hset, hc⟩⟩
  · rw [hc]
    exact h.untouched hc (by simp)
  · rw [hc]
    exact h.untouched hc (by simp)
  · rw [hc]
    exact h.failed hl hs hset hc
  · rw [hc]
    exact h.carriedOut hi hl hset hc

/-- What an answer says about the interfaces of the link. -/
theorem answered (h : Follows torn t net) (c : Switching) {transition : Transition}
    (ok : (c.apply (t, net)).1 = .ok transition) :
    let states := (c.apply (t, net)).2.2.endStates c.pair
    states.2 = some c.state ∧
    (states = (some c.state, some c.state) ↔
      (transition = .unchanged c.state → ¬ torn c.pair)) := by
  have hafter := h.apply c
  rcases c.apply_cases t net with
    ⟨e, hc⟩ | ⟨_, l, hl, ⟨hs, hc⟩ | ⟨_, e, _, _, hc⟩ | ⟨_, net', _, hc⟩⟩
  · rw [hc] at ok
    cases ok
  · -- Nothing was done: the interfaces are as the request found them.
    rw [hc] at ok ⊢
    cases ok
    refine ⟨hs ▸ h.second hl, ?_⟩
    by_cases ht : torn c.pair
    · have hother : l.state.other ≠ l.state := by cases l.state <;> decide
      rw [h.torn c.pair l hl ht]
      simp [ht, ← hs, hother]
    · rw [h.whole c.pair l hl ht]
      simp [ht, hs]
  · rw [hc] at ok
    cases ok
  · -- Both interfaces were set.
    have hwhole : ¬ c.tears (t, net) torn c.pair := by
      rw [Switching.tears_of_changed hc]
      exact fun hno => hno.2 rfl
    rw [hc] at ok hafter ⊢
    cases ok
    have hnow : (t.recordState c.a c.b c.state).linkAt? c.pair =
        some { l with state := c.state } := by
      have hrecord := h.sound.linkAt?_recordState c.a c.b c.state c.pair
      rw [hl] at hrecord
      exact hrecord.trans (if_pos rfl)
    have hends := hafter.whole c.pair _ hnow hwhole
    rw [hends]
    simp

end Follows

theorem follows_switched {t : Topology} {net : Namespaces} (h : Follows (fun _ => False) t net)
    (calls : List Switching) : Follows (fun pair => Torn (t, net) pair calls)
      (switched calls (t, net)).1 (switched calls (t, net)).2 := by
  induction calls using List.reverseRecOn with
  | nil => exact h.congr fun pair => iff_false_intro not_torn_nil
  | append_singleton calls c ih =>
    have hlast : switched (calls ++ [c]) (t, net) = (c.apply (switched calls (t, net))).2 := by
      simp [switched]
    rw [hlast]
    exact (ih.apply c).congr fun pair => torn_concat

/-- A topology that has just been built follows its record. -/
theorem follows_instantiate {t t' : Topology} {net net' : Namespaces} (built : t.Built)
    (h : Topology.instantiate (t, net) = (.ok (), t', net')) :
    Follows (fun _ => False) t' net' := by
  obtain ⟨hwired, hup⟩ := instantiate_ok built h
  have hsound : t'.Sound := by
    have hbuilt := (Topology.Built.instantiated net built).sound
    rwa [h] at hbuilt
  refine ⟨hsound, hwired, ?_, fun _ _ _ hno => hno.elim⟩
  intro pair l hl _
  obtain ⟨hmem, rfl⟩ := (hsound.linkAt?_iff pair l).mp hl
  obtain ⟨hstate, hends⟩ := hup l hmem
  rw [hends, hstate]

/-! ## What an answer says about the interfaces -/

/-- However the tools have answered so far, a switch of a link that is acknowledged leaves the
second interface in the wanted state, and both of them unless it did nothing although the link was
torn. -/
theorem acknowledged_state_holds {t t₀ : Topology} {net net₀ : Namespaces} (built : t.Built)
    (up : Topology.instantiate (t, net) = (.ok (), t₀, net₀)) (calls : List Switching)
    (c : Switching) {transition : Transition}
    (ok : (c.apply (switched calls (t₀, net₀))).1 = .ok transition) :
    let states := (c.apply (switched calls (t₀, net₀))).2.2.endStates (.of c.a c.b)
    states.2 = some c.state ∧
    (states = (some c.state, some c.state) ↔
      (transition = .unchanged c.state → ¬ Torn (t₀, net₀) (.of c.a c.b) calls)) :=
  (follows_switched (follows_instantiate built up) calls).answered c ok

/-! ## Two hosts -/

/-- Namespaces on a machine whose tools answer in some way. -/
def answering (answer : List String → Option Machine.Reply) : Namespaces :=
  { machine := { answer := fun _ => answer } }

/-- Two hosts that have namespaces. -/
def twoHosts : Topology :=
  { Topology.twoHosts with
    hosts := [
      { id := ⟨"A"⟩, context := some ⟨"mip-A"⟩ },
      { id := ⟨"B"⟩, context := some ⟨"mip-B"⟩ }]
    instantiated := true }

/-- The namespaces of the two hosts, with the link between them. -/
def twoSpaces (answer : List String → Option Machine.Reply) : Namespaces :=
  (((answering answer).named ⟨"A"⟩).named ⟨"B"⟩).laid ⟨⟨"A"⟩, "mip-A-eth0", ⟨"B"⟩, "mip-B-eth0"⟩

theorem exits_answering (answer : List String → Option Machine.Reply) (args : List String)
    (hnul : args.all (fun word => '\x00' ∉ word.toList) = true) :
    (answering answer).Exits args ((answer ("ip" :: args)).getD {}).exit := by
  have hline : (answering answer).commandLine ("ip" :: args) = "ip" :: args := rfl
  refine ⟨?_, fun n => by rw [hline]; rfl⟩
  have hno : ("ip" :: args).any (fun word => '\x00' ∈ word.toList) = false := by simpa using hnul
  rw [hline]
  simp only [Machine.accept, hno]
  rfl

/-- The two hosts can be built where only taking a link down may fail. -/
theorem instantiate_twoHosts {answer : List String → Option Machine.Reply}
    (h : ∀ argv, "down" ∉ argv → answer argv = none) :
    ∃ runs, Topology.instantiate (Topology.twoHosts, answering answer) =
      (.ok (), twoHosts, (twoSpaces answer).ran runs) := by
  have hobeyed : ∀ args : List String, "down" ∉ args →
      args.all (fun word => '\x00' ∉ word.toList) = true → (answering answer).Obeyed args := by
    intro args hdown hnul
    have hexits := exits_answering answer args hnul
    rwa [h ("ip" :: args) (by simpa using hdown)] at hexits
  obtain ⟨r₁, hA⟩ := createHost_obeyed ⟨"A"⟩
    (hobeyed ["netns", "add", "mip-A"] (by decide) (by decide))
  have hobeyedB : (((answering answer).named ⟨"A"⟩).ran r₁).Obeyed ["netns", "add", "mip-B"] :=
    hobeyed _ (by decide) (by decide)
  obtain ⟨r₂, hB⟩ := createHost_obeyed ⟨"B"⟩ hobeyedB
  rw [ran_named, ran_ran] at hB
  generalize hnet : (((answering answer).named ⟨"A"⟩).named ⟨"B"⟩).ran (r₁ ++ r₂) = net at hB
  have hobeyed' : ∀ args : List String, "down" ∉ args →
      args.all (fun word => '\x00' ∉ word.toList) = true → net.Obeyed args := hnet ▸ hobeyed
  have hnameA : net.names.get? ⟨"A"⟩ = some "mip-A" := hnet ▸ rfl
  have hnameB : net.names.get? ⟨"B"⟩ = some "mip-B" := hnet ▸ rfl
  have husedA : net.used ⟨"A"⟩ = 0 := hnet ▸ rfl
  have husedB : net.used ⟨"B"⟩ = 0 := hnet ▸ rfl
  have hends : (⟨⟨"A"⟩, "mip-A-eth0", ⟨"B"⟩, "mip-B-eth0"⟩ : InterfacePair) =
      ⟨⟨"A"⟩, interfaceName "mip-A" (net.used ⟨"A"⟩),
        ⟨"B"⟩, interfaceName "mip-B" (net.used ⟨"B"⟩)⟩ := by
    rw [husedA, husedB]
    decide
  obtain ⟨r₃, hlink⟩ := createLink_obeyed (by decide) hnameA hnameB hends
    (hobeyed' _ (by decide) (by decide))
    ⟨by decide, hobeyed' _ (by decide) (by decide), hobeyed' _ (by decide) (by decide)⟩
    ⟨by decide, hobeyed' _ (by decide) (by decide), hobeyed' _ (by decide) (by decide)⟩ {}
  have hhosts : Topology.createHosts Topology.twoHosts.hosts (answering answer) =
      (.ok (), twoHosts.hosts, net) := by
    simp only [Topology.twoHosts, Topology.createHosts, Substrate.createHost, hA, hB]
    rfl
  have hlinks : Topology.createLinks Topology.twoHosts.links net = (.ok (), (net.laid
      ⟨⟨"A"⟩, "mip-A-eth0", ⟨"B"⟩, "mip-B-eth0"⟩).ran r₃) := Action.bind_ok _ hlink
  refine ⟨r₁ ++ r₂ ++ r₃, ?_⟩
  simp only [Topology.instantiate, hhosts, hlinks]
  rw [← hnet, ran_laid, ran_ran]
  rfl

/-- Where the first interface can be taken down, the second one decides. -/
theorem setLinkState_twoSpaces {answer : List String → Option Machine.Reply}
    (h : answer ["ip", "netns", "exec", "mip-A", "ip", "link", "set", "mip-A-eth0", "down"] = none)
    (runs : List Machine.ToolRun) :
    setLinkState ⟨"A"⟩ ⟨"B"⟩ .down ((twoSpaces answer).ran runs) =
      requireTool (.setLink ⟨"A"⟩ ⟨"B"⟩ .down)
        ["ip", "netns", "exec", "mip-B", "ip", "link", "set", "mip-B-eth0", "down"]
        ((twoSpaces answer).ran
          (runs ++ [(twoSpaces answer).switchRun "mip-A" "mip-A-eth0" .down])) := by
  have hends : ((twoSpaces answer).ran runs).links.get? (.of ⟨"A"⟩ ⟨"B"⟩) =
    some ⟨⟨"A"⟩, "mip-A-eth0", ⟨"B"⟩, "mip-B-eth0"⟩ := rfl
  have hobeyed : ((twoSpaces answer).ran runs).Obeyed
      ["netns", "exec", "mip-A", "ip", "link", "set", "mip-A-eth0", "down"] := by
    have hexits := exits_answering answer
      ["netns", "exec", "mip-A", "ip", "link", "set", "mip-A-eth0", "down"] (by decide)
    rwa [h] at hexits
  have hfirst : switchEnd (.setLink ⟨"A"⟩ ⟨"B"⟩ .down) ⟨"A"⟩ "mip-A-eth0" .down
      ((twoSpaces answer).ran runs) = (.ok (), ((twoSpaces answer).ran runs).ran
        [(twoSpaces answer).switchRun "mip-A" "mip-A-eth0" .down]) := switchEnd_obeyed rfl hobeyed _
  rw [setLinkState_eq hends, Action.bind_ok _ hfirst, ran_ran]
  exact switchEnd_eq rfl

theorem link?_twoHosts : twoHosts.link? ⟨"A"⟩ ⟨"B"⟩ =
    some { a := ⟨"A"⟩, b := ⟨"B"⟩, params := {} } := rfl

theorem apply_up_twoHosts (net : Namespaces) :
    Switching.apply ⟨⟨"A"⟩, ⟨"B"⟩, .up⟩ (twoHosts, net) =
      (.ok (.unchanged .up), twoHosts, net) := by
  have hi : twoHosts.instantiated = true := rfl
  simp only [Switching.apply, Topology.switchLink, hi, link?_twoHosts, Bool.not_true,
    Bool.false_eq_true, if_false, if_true]

/-- Taking the link of the two hosts down, as far as the topology is concerned. -/
theorem apply_down_twoHosts (net : Namespaces) :
    Switching.apply ⟨⟨"A"⟩, ⟨"B"⟩, .down⟩ (twoHosts, net) =
      match setLinkState ⟨"A"⟩ ⟨"B"⟩ .down net with
      | (.error e, net') => (.error (.substrate e), twoHosts, net')
      | (.ok (), net') =>
        (.ok (.changed .up .down), twoHosts.recordState ⟨"A"⟩ ⟨"B"⟩ .down, net') := by
  have hi : twoHosts.instantiated = true := rfl
  have hs : LinkState.up ≠ .down := by decide
  have hsub : Substrate.setLinkState ⟨"A"⟩ ⟨"B"⟩ .down net =
    setLinkState ⟨"A"⟩ ⟨"B"⟩ .down net := rfl
  simp only [Switching.apply, Topology.switchLink, hi, link?_twoHosts, hs, hsub, Bool.not_true,
    Bool.false_eq_true, if_false]
  rcases setLinkState ⟨"A"⟩ ⟨"B"⟩ .down net with ⟨e | u, net'⟩ <;> rfl

/-- Taking the link down on a machine where nothing fails. -/
theorem acknowledged_state_holds_on_two_hosts :
    let net := answering fun _ => none
    let c : Switching := ⟨⟨"A"⟩, ⟨"B"⟩, .down⟩
    ∃ net₀, Topology.twoHosts.Built ∧
      Topology.instantiate (Topology.twoHosts, net) = (.ok (), twoHosts, net₀) ∧
      (c.apply (twoHosts, net₀)).1 = .ok (.changed .up .down) ∧
      (c.apply (twoHosts, net₀)).2.2.endStates (.of ⟨"A"⟩ ⟨"B"⟩) = (some .down, some .down) := by
  intro net c
  obtain ⟨runs, hup⟩ := @instantiate_twoHosts (fun _ => none) fun _ _ => rfl
  have hset := @setLinkState_twoSpaces (fun _ => none) rfl runs
  generalize hnet : (twoSpaces fun _ => none).ran (_ ++ _) = net₁ at hset
  have hobeyed : net₁.Obeyed
      ["netns", "exec", "mip-B", "ip", "link", "set", "mip-B-eth0", "down"] :=
    hnet ▸ exits_answering (fun _ => none) _ (by decide)
  rw [requireTool_obeyed hobeyed] at hset
  have hok : (c.apply (twoHosts, (twoSpaces fun _ => none).ran runs)).1 =
      .ok (.changed .up .down) := by
    rw [apply_down_twoHosts, hset]
  have hboth := (acknowledged_state_holds Topology.built_twoHosts hup [] c hok).2
  exact ⟨_, Topology.built_twoHosts, hup, hok, hboth.mpr fun h => nomatch h⟩

/-- A machine on which the second interface cannot be taken down. -/
def halfStuck (argv : List String) : Option Machine.Reply :=
  if argv = ["ip", "netns", "exec", "mip-B", "ip", "link", "set", "mip-B-eth0", "down"] then
    some { exit := 1 }
  else none

/-- Taking the link down fails at its second interface. Bringing it up again is then acknowledged
and does nothing, and the first interface stays down. -/
theorem acknowledged_although_half_down :
    let down : Switching := ⟨⟨"A"⟩, ⟨"B"⟩, .down⟩
    let up : Switching := ⟨⟨"A"⟩, ⟨"B"⟩, .up⟩
    ∃ net₀,
      Topology.instantiate (Topology.twoHosts, answering halfStuck) = (.ok (), twoHosts, net₀) ∧
      (up.apply (switched [down] (twoHosts, net₀))).1 = .ok (.unchanged .up) ∧
      (up.apply (switched [down] (twoHosts, net₀))).2.2.endStates (.of ⟨"A"⟩ ⟨"B"⟩) =
        (some .down, some .up) := by
  intro down up
  have hquiet : ∀ argv, "down" ∉ argv → halfStuck argv = none := by
    intro argv hdown
    refine if_neg ?_
    rintro rfl
    exact hdown (by decide)
  obtain ⟨runs, hup⟩ := instantiate_twoHosts hquiet
  have hset := @setLinkState_twoSpaces halfStuck (by decide) runs
  rw [← ran_ran] at hset
  generalize hnet : (twoSpaces halfStuck).ran runs = net₀ at hup hset
  generalize hfirst : (twoSpaces halfStuck).switchRun "mip-A" "mip-A-eth0" .down = first at hset
  have hexits : (net₀.ran [first]).Exits
      ["netns", "exec", "mip-B", "ip", "link", "set", "mip-B-eth0", "down"] 1 :=
    hnet ▸ exits_answering halfStuck _ (by decide)
  obtain ⟨e, he⟩ := requireTool_refused hexits (by decide) (.setLink ⟨"A"⟩ ⟨"B"⟩ .down)
  rw [he, ran_ran] at hset
  have hdown := apply_down_twoHosts net₀
  rw [hset] at hdown
  have hcut : down.CutShort (twoHosts, net₀) :=
    (Switching.cutShort_iff hdown).mpr ⟨⟨_, rfl⟩, first, by simp, hfirst ▸ rfl⟩
  have hfollows := follows_switched (follows_instantiate Topology.built_twoHosts hup) [down]
  have htorn : Torn (twoHosts, net₀) (.of ⟨"A"⟩ ⟨"B"⟩) ([] ++ [down]) := .cut rfl hcut
  -- The failure is not recorded, so the second request finds the link up.
  generalize hafter : switched [down] (twoHosts, net₀) = after at hfollows
  obtain ⟨t₁, net₁⟩ := after
  obtain rfl : t₁ = twoHosts := (congrArg Prod.fst hafter).symm.trans (congrArg (·.2.1) hdown)
  have hnothing := apply_up_twoHosts net₁
  refine ⟨net₀, hup, ?_, ?_⟩
  · rw [hafter, hnothing]
  · rw [hafter, hnothing]
    exact hfollows.torn _ _ link?_twoHosts htorn

end Namespaces

end Testbed
