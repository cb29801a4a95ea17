-- The links of a session. A link has a state in two places, recorded in the
-- topology and on the simulated network, and every change goes through both or
-- neither. As a link that is in the wanted state already is left alone, the
-- states that the log shows for a link take turns.
import Testbed.Proofs.Session.History

namespace Testbed

/-! ## Taking turns -/

/-- The state that the `n`-th switching of a link gives, counted from zero: a new link is up, so
the first one takes it down. -/
def LinkState.turn (n : Nat) : LinkState := if n % 2 = 0 then .down else .up

theorem LinkState.turn_add_two (n : Nat) : turn (n + 2) = turn n := by
  unfold turn
  rw [Nat.add_mod_right]

/-- What is not the state after `n` switchings is the one that the next gives. -/
theorem LinkState.eq_turn {state : LinkState} {n : Nat} (h : turn (n + 1) ≠ state) :
    state = turn n := by
  unfold turn at *
  by_cases hn : n % 2 = 0
  · have hs : (n + 1) % 2 ≠ 0 := by omega
    rw [if_neg hs] at h
    rw [if_pos hn]
    cases state with
    | up => exact absurd rfl h
    | down => rfl
  · have hs : (n + 1) % 2 = 0 := by omega
    rw [if_pos hs] at h
    rw [if_neg hn]
    cases state with
    | up => rfl
    | down => exact absurd rfl h

/-- Where states take turns, the last one is the opposite of the next; where there is none the
link is up. -/
theorem LinkState.getLast?_turns {states : List LinkState}
    (h : ∀ i state, states[i]? = some state → state = turn i) :
    states.getLast?.getD .up = turn (states.length + 1) := by
  rcases hn : states.length with _ | n
  · rw [List.eq_nil_of_length_eq_zero hn]
    rfl
  · have hlt : n < states.length := by omega
    have hget := List.getElem?_eq_getElem hlt
    rw [List.getLast?_eq_getElem?, hn, Nat.add_sub_cancel, hget, Option.getD_some,
      h n _ hget, turn_add_two]

namespace Session

/-! ## The two places agree -/

/-- Topology, network and log tell the same about the links. -/
structure Linked (s : Session Simulator) : Prop where
  sound : s.rig.topology.Sound
  instantiated : s.rig.topology.instantiated = true
  agree : ∀ pair, s.rig.substrate.links.get? pair = (s.rig.topology.linkAt? pair).map (·.state)
  turns : ∀ pair i state, (s.rig.substrate.switches pair)[i]? = some state →
    state = LinkState.turn i
  latest : ∀ pair l, s.rig.topology.linkAt? pair = some l →
    l.state = .turn ((s.rig.substrate.switches pair).length + 1)

namespace Linked

variable {s s' : Session Simulator}

/-- A move that switches no link leaves them as they are. -/
theorem quiet (h : Linked s) (htop : s'.rig.topology = s.rig.topology)
    (hlinks : s'.rig.substrate.links = s.rig.substrate.links)
    (hsw : ∀ pair, s'.rig.substrate.switches pair = s.rig.substrate.switches pair) :
    Linked s' := by
  refine ⟨?_, ?_, ?_, ?_, ?_⟩
  · rw [htop]
    exact h.sound
  · rw [htop]
    exact h.instantiated
  · rw [htop, hlinks]
    exact h.agree
  · intro pair
    rw [hsw]
    exact h.turns pair
  · intro pair
    rw [htop, hsw]
    exact h.latest pair

/-- A call that is written down without switching a link leaves them as they are. -/
theorem recorded (h : Linked s) (op : Simulator.Op) (ok : Bool)
    (hop : ∀ pair, Simulator.Call.switched? pair ⟨s.rig.substrate.clock.now, op, ok⟩ = none) :
    Linked { s with rig := { s.rig with substrate := s.rig.substrate.record op ok } } := by
  refine h.quiet rfl rfl fun pair => ?_
  rw [Simulator.switches_record, hop pair]
  simp

/-- A link that is switched is switched in both places, and it was its turn. -/
theorem switched (h : Linked s) {a b : HostId} {state : LinkState} {l : Link}
    (hl : s.rig.topology.link? a b = some l) (hs : l.state ≠ state) :
    Linked { s with rig := { s.rig with
      topology := s.rig.topology.recordState a b state
      substrate := s.rig.substrate.switch l.a l.b state } } := by
  have hpair : HostPair.of l.a l.b = .of a b := ((h.sound.linkAt?_iff _ l).mp hl).2
  have hlast := h.latest (.of a b) l hl
  have hturn : state = .turn (s.rig.substrate.switches (.of a b)).length :=
    LinkState.eq_turn (hlast ▸ hs)
  have hlinks : ∀ pair, (s.rig.substrate.switch l.a l.b state).links.get? pair =
      if HostPair.of a b = pair then some state else s.rig.substrate.links.get? pair := by
    intro pair
    rw [← hpair]
    exact Table.get?_insert s.rig.substrate.links (.of l.a l.b) pair state
  have hsw : ∀ pair, (s.rig.substrate.switch l.a l.b state).switches pair =
      s.rig.substrate.switches pair ++ if HostPair.of a b = pair then [state] else [] := by
    intro pair
    rw [Simulator.switches_switch, hpair]
  refine ⟨h.sound.recordState h.instantiated a b state, ?_, ?_, ?_, ?_⟩
  · rw [Topology.recordState_instantiated]
    exact h.instantiated
  · intro pair
    rw [hlinks, h.sound.linkAt?_recordState]
    split
    · next hp =>
      rw [← hp, ← Topology.link?_eq, hl]
      rfl
    · exact h.agree pair
  · intro pair i st hi
    rw [hsw, List.getElem?_append] at hi
    split at hi
    · exact h.turns pair i st hi
    · split at hi
      · next hlt hp =>
        obtain ⟨hz, rfl⟩ := List.getElem?_eq_some_iff.mp hi
        rw [List.length_singleton] at hz
        rw [List.getElem_singleton, hturn, hp]
        congr 1
        omega
      · cases hi
  · intro pair x hx
    rw [h.sound.linkAt?_recordState] at hx
    rw [hsw]
    split at hx
    · next hp =>
      obtain ⟨y, _, rfl⟩ := Option.map_eq_some_iff.mp hx
      rw [if_pos hp, List.length_append, List.length_singleton, ← hp]
      change state = _
      rw [hturn, LinkState.turn_add_two]
    · next hp =>
      rw [if_neg hp, List.append_nil]
      exact h.latest pair x hx

/-- Every step keeps the two places together, and so do the shutdown and what comes from
outside. -/
theorem kept : Kept Linked where
  step s step result rig _ h hperf := by
    cases hperf with
    | started host request => exact h.quiet rfl rfl (Simulator.switches_launch _ _ _)
    | notStarted host request => exact h.recorded (.exec host request.argv) false fun _ => rfl
    | waited d => exact h.quiet rfl rfl fun _ => rfl
    | notInstantiated => exact h
    | noLink => exact h
    | already => exact h
    | switched a b state l _ hl hs => exact h.switched hl hs
    | notSwitched a b state l => exact h.recorded (.setLink l.a l.b state) false fun _ => rfl
  close s ho h := by
    rw [close_of_open ho]
    refine h.quiet rfl ?_ fun pair => Simulator.switches_killEach _ _ pair
    rw [Simulator.killEach_eq]
  meddle s m h := by
    cases m <;> exact h.quiet rfl rfl fun _ => rfl

/-- A session starts with every link up in both places. -/
theorem at_start {config : Config} {t : Topology} {sim : Simulator} {clock : Clock}
    (built : t.Built) (fresh : sim.Fresh) (hs : start config t sim clock = .ok s) : Linked s := by
  obtain ⟨rfl, hnew, _⟩ := start_simulator hs
  have hsw : ∀ pair, (t.network sim).switches pair = [] := fun pair => by
    rw [Topology.switches_network, Simulator.switches, fresh.calls]
    rfl
  have hup : ∀ pair l, t.raised.linkAt? pair = some l → l.state = .up := fun pair l hl =>
    built.sound.up_before hnew l ((built.sound.linkAt?_iff pair l).mp hl).1
  refine ⟨built.sound.raised, rfl, ?_, ?_, ?_⟩
  · intro pair
    rw [Topology.links_network, fresh.links]
    split
    · next hex =>
      obtain ⟨l, hmem, hpair⟩ := hex
      have hl : t.raised.linkAt? pair = some l := (built.sound.linkAt?_iff pair l).mpr ⟨hmem, hpair⟩
      rw [hl, Option.map_some, hup pair l hl]
    · next hex =>
      rcases hl : t.raised.linkAt? pair with _ | l
      · rfl
      · exact absurd ⟨l, (built.sound.linkAt?_iff pair l).mp hl⟩ hex
  · intro pair i state hi
    rw [hsw] at hi
    cases hi
  · intro pair l hl
    rw [hsw, hup pair l hl]
    rfl

end Linked

/-! ## The states never disagree -/

/-- Whatever is done with a session, the network has a link for just the pairs of the topology,
in the state that the topology has recorded, whichever host is named first. The switchings of a
link that the log shows take turns, beginning with one that takes it down, and the last of them
gave the link its state. -/
theorem links_never_disagree (config : Config) (t : Topology) (built : t.Built) (sim : Simulator)
    (clock : Clock) (s₀ : Session Simulator) (fresh : sim.Fresh)
    (hs : start config t sim clock = .ok s₀) (moves : List Move) (s : Session Simulator)
    (hafter : s₀.after moves = s) :
    (∀ pair, s.rig.substrate.links.contains pair = true ↔
      ∃ l ∈ s.rig.topology.links, l.pair = pair) ∧
    (∀ a b, s.rig.substrate.linkState? a b = (s.rig.topology.link? a b).map (·.state) ∧
      s.rig.substrate.linkState? b a = (s.rig.topology.link? a b).map (·.state)) ∧
    (∀ pair i state, (s.rig.substrate.switches pair)[i]? = some state →
      state = if i % 2 = 0 then .down else .up) ∧
    (∀ a b l, s.rig.topology.link? a b = some l →
      (s.rig.substrate.switches (.of a b)).getLast?.getD .up = l.state) := by
  subst hafter
  have h := Linked.kept.after (Linked.at_start built fresh hs) moves
  refine ⟨?_, ?_, h.turns, ?_⟩
  · intro pair
    rw [Table.contains, h.agree, Option.isSome_map, Option.isSome_iff_exists]
    constructor
    · rintro ⟨l, hl⟩
      exact ⟨l, (h.sound.linkAt?_iff pair l).mp hl⟩
    · rintro ⟨l, hl⟩
      exact ⟨l, (h.sound.linkAt?_iff pair l).mpr hl⟩
  · intro a b
    have hab : ∀ x y, (s₀.after moves).rig.substrate.linkState? x y =
        ((s₀.after moves).rig.topology.link? x y).map (·.state) := fun x y => h.agree (.of x y)
    exact ⟨hab a b, by rw [hab b a, Topology.link?_comm]⟩
  · intro a b l hl
    rw [h.latest (.of a b) l hl]
    exact LinkState.getLast?_turns (h.turns (.of a b))

/-- A link is taken down, cannot be brought up while that fails on request, and then can. -/
theorem links_never_disagree_after_a_refusal :
    let s := onTwoHosts.after [.switchLink ⟨"B"⟩ ⟨"A"⟩ .down,
      .meddle (.failLink ⟨"A"⟩ ⟨"B"⟩), .dispatch "link A B up", .dispatch "link A B down",
      .meddle .clearFailures, .dispatch "link A B up"]
    s.rig.substrate.switches (.of ⟨"A"⟩ ⟨"B"⟩) = [.down, .up] ∧
    s.rig.substrate.linkState? ⟨"A"⟩ ⟨"B"⟩ =
      (s.rig.topology.link? ⟨"A"⟩ ⟨"B"⟩).map (·.state) ∧
    (∀ i state, (s.rig.substrate.switches (.of ⟨"A"⟩ ⟨"B"⟩))[i]? = some state →
      state = if i % 2 = 0 then .down else .up) := by
  intro s
  obtain ⟨_, hagree, hturns, _⟩ := links_never_disagree {} Topology.twoHosts
    Topology.built_twoHosts {} {} onTwoHosts (Simulator.fresh_default {}) start_onTwoHosts _ s rfl
  exact ⟨by decide +kernel, (hagree ⟨"A"⟩ ⟨"B"⟩).1, hturns (.of ⟨"A"⟩ ⟨"B"⟩)⟩

end Session

end Testbed
