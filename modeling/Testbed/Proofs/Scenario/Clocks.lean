-- Clocks that share a count. What is waited on one of them is waited on every
-- one that shares its count and on no other, and which clocks share does not
-- change when more of them are made. A rig and its simulator are two such
-- clocks, and a run moves them by waiting on the clock of the rig.
import Testbed.Proofs.Scenario.Step

namespace Testbed

namespace Clocks

variable {cs : Clocks} {i j : Nat}

/-! ## Sharing -/

/-- Every clock has a count. -/
def Sound (cs : Clocks) : Prop := ∀ p ∈ cs.places, p < cs.counts.length

/-- Two clocks have the same count. -/
def Share (cs : Clocks) (i j : Nat) : Prop :=
  i < cs.places.length ∧ cs.places[i]? = cs.places[j]?

instance (cs : Clocks) (i j : Nat) : Decidable (cs.Share i j) :=
  inferInstanceAs (Decidable (_ ∧ _))

theorem Share.now_eq (h : cs.Share i j) : cs.now i = cs.now j := by
  rw [now, now, count?, count?, h.2]

/-! ## One move -/

inductive Move where
  | advance (i : Nat) (d : Duration)
  | share (i : Nat)
  | start

def Move.apply : Move → Clocks → Clocks
  | advance i d, cs => cs.advance i d
  | share i, cs => cs.share i
  | start, cs => cs.start

/-- What a move waits on the count of a clock. -/
def Move.waits (cs : Clocks) (j : Nat) : Move → List Duration
  | advance i d => if cs.Share i j then [d] else []
  | share _ => []
  | start => []

theorem places_advance (i : Nat) (d : Duration) (cs : Clocks) :
    (cs.advance i d).places = cs.places := by
  unfold advance
  split <;> rfl

theorem length_advance (i : Nat) (d : Duration) (cs : Clocks) :
    (cs.advance i d).counts.length = cs.counts.length := by
  unfold advance
  split
  · exact List.length_modify ..
  · rfl

theorem share_cases (cs : Clocks) (i : Nat) :
    (∃ p, cs.places[i]? = some p ∧ cs.share i = { cs with places := cs.places ++ [p] }) ∨
      cs.share i = cs := by
  unfold share
  rcases cs.places[i]? with _ | p
  · exact Or.inr rfl
  · exact Or.inl ⟨p, rfl, rfl⟩

/-- A move adds at most one clock, behind all others. -/
theorem Move.places_extend (move : Move) (cs : Clocks) :
    cs.places <+: (move.apply cs).places := by
  cases move with
  | advance i d =>
    change cs.places <+: (cs.advance i d).places
    simp only [places_advance, List.prefix_refl]
  | share i =>
    change cs.places <+: (cs.share i).places
    rcases cs.share_cases i with ⟨p, -, h⟩ | h
    · rw [h]
      exact List.prefix_append ..
    · simp only [h, List.prefix_refl]
  | start => exact List.prefix_append ..

theorem Sound.apply (h : cs.Sound) (move : Move) : (move.apply cs).Sound := by
  cases move with
  | advance i d =>
    intro p hp
    change p ∈ (cs.advance i d).places at hp
    change p < (cs.advance i d).counts.length
    rw [places_advance] at hp
    rw [length_advance]
    exact h p hp
  | share i =>
    change (cs.share i).Sound
    rcases cs.share_cases i with ⟨q, hq, hshare⟩ | hshare <;> rw [hshare]
    · intro p hp
      rcases List.mem_append.mp hp with hp | hp
      · exact h p hp
      · rw [List.mem_singleton.mp hp]
        exact h q (List.mem_of_getElem? hq)
    · exact h
  | start =>
    intro p hp
    have hlength : cs.start.counts.length = cs.counts.length + 1 := by simp [start]
    change p < cs.start.counts.length
    rw [hlength]
    rcases List.mem_append.mp hp with hp | hp
    · exact Nat.lt_succ_of_lt (h p hp)
    · rw [List.mem_singleton.mp hp]
      exact Nat.lt_succ_self _

/-- A wait moves the clocks that share the count. -/
theorem count?_advance (cs : Clocks) (i j : Nat) (d : Duration) :
    (cs.advance i d).count? j =
      if cs.Share i j then (cs.count? j).map (·.advance d) else cs.count? j := by
  unfold count?
  rw [places_advance]
  rcases hi : cs.places[i]? with _ | p
  · have hapart : ¬ cs.Share i j := fun h => Nat.not_lt.mpr (List.getElem?_eq_none_iff.mp hi) h.1
    simp only [hapart, if_false, advance, hi]
  · have hlt := (List.getElem?_eq_some_iff.mp hi).1
    rcases hj : cs.places[j]? with _ | q
    · split <;> rfl
    · have hshare : cs.Share i j ↔ p = q := by
        rw [Share, hi, hj, Option.some_inj]
        exact and_iff_right hlt
      simp only [advance, hi, Option.bind_some, List.getElem?_modify, hshare]
      split <;> simp

/-- A clock that is there already is moved by what is waited on its count, and by nothing else. -/
theorem count?_apply (sound : cs.Sound) (hj : j < cs.places.length) (move : Move) :
    (move.apply cs).count? j =
      (cs.count? j).map fun c => (move.waits cs j).foldl Clock.advance c := by
  cases move with
  | advance i d =>
    refine (cs.count?_advance i j d).trans ?_
    by_cases hshare : cs.Share i j <;> simp [Move.waits, hshare]
  | share i =>
    change (cs.share i).count? j = _
    simp only [Move.waits, List.foldl_nil, Option.map_id']
    rcases cs.share_cases i with ⟨p, -, h⟩ | h <;> rw [h]
    simp only [count?, List.getElem?_append_left hj]
  | start =>
    have hcount : cs.places[j] < cs.counts.length := sound _ (List.getElem_mem hj)
    change cs.start.count? j = _
    simp only [Move.waits, List.foldl_nil, Option.map_id', start, count?,
      List.getElem?_append_left hj, List.getElem?_eq_getElem hj, Option.bind_some,
      List.getElem?_append_left hcount]

/-! ## Any moves -/

/-- The clocks after some moves. -/
def moved (moves : List Move) (cs : Clocks) : Clocks :=
  moves.foldl (fun cs move => move.apply cs) cs

/-- What some moves wait on the count of a clock. -/
def waited (j : Nat) : List Move → Clocks → List Duration
  | [], _ => []
  | move :: moves, cs => move.waits cs j ++ waited j moves (move.apply cs)

theorem places_extend_moved (moves : List Move) (cs : Clocks) :
    cs.places <+: (moved moves cs).places := by
  induction moves generalizing cs with
  | nil => exact List.prefix_refl _
  | cons move moves ih => exact (move.places_extend cs).trans (ih (move.apply cs))

theorem Share.moved (h : cs.Share i j) (hj : j < cs.places.length) (moves : List Move) :
    (Clocks.moved moves cs).Share i j := by
  obtain ⟨more, hplaces⟩ := places_extend_moved moves cs
  rw [Share, ← hplaces, List.getElem?_append_left h.1, List.getElem?_append_left hj,
    List.length_append]
  exact ⟨Nat.lt_add_right _ h.1, h.2⟩

/-- Whatever is done, a clock shows what it had counted and what was waited on its count since. -/
theorem count?_moved (sound : cs.Sound) (hj : j < cs.places.length) (moves : List Move) :
    (moved moves cs).count? j =
      (cs.count? j).map fun c => (waited j moves cs).foldl Clock.advance c := by
  induction moves generalizing cs with
  | nil => exact Option.map_id'.symm
  | cons move moves ih =>
    have hlonger := Nat.lt_of_lt_of_le hj (move.places_extend cs).length_le
    rw [moved, List.foldl_cons, ← moved, ih (sound.apply move) hlonger, count?_apply sound hj,
      Option.map_map]
    simp only [waited, List.foldl_append, Function.comp_def]

/-- A clock that was made to share the count of another one shows its time from then on. -/
theorem clones_show_one_time (h : i < cs.places.length) (moves : List Move) :
    (moved moves (cs.share i)).now cs.places.length = (moved moves (cs.share i)).now i := by
  have hplace : cs.places[i]? = some cs.places[i] := List.getElem?_eq_getElem h
  have hshare : (cs.share i).Share cs.places.length i := by
    simp only [share, hplace, Share, List.length_append, List.getElem?_append_left h]
    simp
  refine (hshare.moved ?_ moves).now_eq
  exact Nat.lt_of_lt_of_le h ((Move.share i).places_extend cs).length_le

end Clocks

/-! ## The clocks of a rig -/

namespace Rig

/-- The first clock is that of the rig, and the second one that of its simulator. They share a count
if the simulator follows the time. -/
structure Shown (cs : Clocks) (r : Rig Simulator) : Prop where
  rig : cs.count? 0 = some r.clock
  simulator : cs.count? 1 = some r.substrate.clock
  shared : cs.Share 0 1 ↔ r.substrate.followsTime = true

variable {cs : Clocks} {r r' : Rig Simulator}

/-- A wait is one on the clock of the rig, and no other step moves any clock. -/
theorem Shown.performs {step : Step} {result : Except TestbedError (Option HandleId)}
    (h : Shown cs r) (hperf : Performs r step result r') :
    Shown (step.wait?.elim cs (cs.advance 0)) r' := by
  cases hperf with
  | waited d =>
    have hself : cs.Share 0 0 := by
      obtain ⟨p, hp, -⟩ := Option.bind_eq_some_iff.mp h.rig
      exact ⟨(List.getElem?_eq_some_iff.mp hp).1, rfl⟩
    change Shown (cs.advance 0 d) _
    refine ⟨?_, ?_, ?_⟩
    · rw [Clocks.count?_advance, if_pos hself, h.rig]
      rfl
    · rw [Clocks.count?_advance, h.simulator]
      simp only [h.shared]
      split <;> rfl
    · rw [Clocks.Share, Clocks.places_advance]
      exact h.shared
  | started | notStarted | notInstantiated | noLink | already | switched | notSwitched =>
    exact ⟨h.rig, h.simulator, h.shared⟩

theorem Shown.performAll (h : Shown cs r) (steps : List Step) :
    ∃ waits, waits <+: steps.filterMap Step.wait? ∧
      ((Rig.performAll steps r).1.isOk = true → waits = steps.filterMap Step.wait?) ∧
      Shown (waits.foldl (fun cs d => cs.advance 0 d) cs) (Rig.performAll steps r).2 := by
  induction steps generalizing cs r with
  | nil => exact ⟨[], List.prefix_refl _, fun _ => rfl, h⟩
  | cons step steps ih =>
    have hnext := h.performs (Rig.performs step r)
    rcases hp : perform step r with ⟨e | started, r₁⟩
    · rw [hp] at hnext
      rw [performAll_cons_error hp]
      refine ⟨step.wait?.toList, ?_, fun hok => (by cases hok), ?_⟩
      · rw [List.filterMap_cons]
        cases step.wait? <;> simp
      · cases hw : step.wait? <;> simpa [hw] using hnext
    · rw [hp] at hnext
      obtain ⟨waits, hprefix, hall, hshown⟩ := ih hnext
      rw [performAll_cons_ok hp]
      refine ⟨step.wait?.toList ++ waits, ?_, fun hok => ?_, ?_⟩
      · rw [List.filterMap_cons]
        cases step.wait? <;> simpa using hprefix
      · have hrest : (Rig.performAll steps r₁).1.isOk = true := by
          rcases hsteps : (Rig.performAll steps r₁).1 with e | ids
          · rw [hsteps] at hok
            cases hok
          · rfl
        rw [List.filterMap_cons, hall hrest]
        cases step.wait? <;> rfl
      · cases hw : step.wait? <;> simpa [hw] using hshown

/-- A scenario moves the clock of the rig by its waits, all of them if it runs to its end, and the
clock of the simulator along with it just if they share their count. -/
theorem Shown.run (h : Shown cs r) (s : Scenario) :
    ∃ waits, waits <+: s.steps.filterMap Step.wait? ∧
      ((Rig.run s r).1.isOk = true → waits = s.steps.filterMap Step.wait?) ∧
      Shown (waits.foldl (fun cs d => cs.advance 0 d) cs) (Rig.run s r).2 := by
  rcases hvalid : r.topology.validate s with e | u
  · rw [run_unknown hvalid]
    exact ⟨[], List.nil_prefix, fun hok => (by cases hok), h⟩
  · obtain ⟨waits, hprefix, hall, hshown⟩ := h.performAll s.steps
    rw [run_known hvalid]
    refine ⟨waits, hprefix, fun hok => hall ?_, hshown⟩
    rcases hsteps : (Rig.performAll s.steps r).1 with e | ids
    · rw [hsteps] at hok
      cases hok
    · rfl

/-- A new rig with a simulator that goes by its clock has two clones of one clock. -/
theorem shown_clone (t : Topology) (supervisor : Supervisor) :
    Shown (({} : Clocks).share 0) { topology := t, substrate := {}, supervisor } :=
  ⟨rfl, rfl, iff_of_true ⟨by decide, rfl⟩ rfl⟩

/-- One with a simulator that stands still has two clocks of their own. -/
theorem shown_apart (t : Topology) (supervisor : Supervisor) :
    Shown ({} : Clocks).start { topology := t, substrate := .standingStill, supervisor } :=
  ⟨rfl, rfl, iff_of_false (fun h => absurd h.2 (by decide)) Bool.false_ne_true⟩

end Rig

end Testbed
