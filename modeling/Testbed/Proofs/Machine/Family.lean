-- What a kill reaches. The walk over a list of processes with their parents
-- keeps no note of where it has been. As every process has one parent, it
-- still comes to each descendant of its root just once, after its parent, and
-- then ends, unless the root descends from itself; other circles in the list
-- are never entered.
import Mathlib.Data.List.Nodup
import Mathlib.Data.List.Perm.Subperm
import Mathlib.Logic.Relation
import Testbed.Proofs.Namespaces.Keeping

namespace Testbed

/-- Killing a process that is not known to have ended is killing its family, and then waiting for
the process. -/
theorem Namespaces.signalKill_running {net : Namespaces} {root : Pid} {victims : List Pid}
    (hsubtree : Machine.Family.subtree net.machine.ancestry root = some victims)
    (hreaped : root ∉ net.reaped) (hended : (net.reapIfEnded root).1 = false) :
    signalKill root net = ((killAll victims net).1,
      if (killAll victims net).1.isOk && root ∈ (killAll victims net).2.children then
        (killAll victims net).2.reap root
      else (killAll victims net).2) := by
  have hwaiting : net.reapIfEnded root = (false, net) := by
    rcases net.reapIfEnded_cases root with ⟨-, -, h⟩ | ⟨-, h⟩
    · rw [h] at hended
      cases hended
    · exact h
  simp only [signalKill, hreaped, if_false, hwaiting, hsubtree, Option.getD_some]
  rcases killAll victims net with ⟨e | u, net'⟩
  · rfl
  · by_cases hchild : root ∈ net'.children <;> simp [hchild, Except.isOk, Except.toBool]

namespace Machine.Family

/-! ## Parents and descendants -/

/-- The first process has the second one as its parent. -/
def Parent (table : Ancestry) (child parent : Pid) : Prop := (child, parent) ∈ table

/-- From parent to parent, in one step or more, the way leads from a process to another one. -/
def Descends (table : Ancestry) : Pid → Pid → Prop := Relation.TransGen (Parent table)

/-- No process stands in the list twice. -/
def OneParent (table : Ancestry) : Prop := (table.map Prod.fst).Nodup

instance (table : Ancestry) (child parent : Pid) : Decidable (Parent table child parent) :=
  inferInstanceAs (Decidable ((child, parent) ∈ table))

instance (table : Ancestry) : Decidable (OneParent table) :=
  inferInstanceAs (Decidable (table.map Prod.fst).Nodup)

variable {table : Ancestry} {root : Pid}

theorem mem_children {child parent : Pid} :
    child ∈ children table parent ↔ Parent table child parent := by
  simp [children, Parent]

theorem OneParent.unique (h : OneParent table) {child p q : Pid} (hp : Parent table child p)
    (hq : Parent table child q) : p = q := by
  have hinj := List.inj_on_of_nodup_map h hp hq rfl
  exact congrArg Prod.snd hinj

theorem OneParent.nodup_children (h : OneParent table) (parent : Pid) :
    (children table parent).Nodup :=
  h.sublist (List.filter_sublist.map Prod.fst)

/-! ## One turn of the walk -/

/-- What holds between two turns: which processes have been taken from the stack, which are still
on it, and which have been found. -/
structure Walked (table : Ancestry) (root : Pid) (taken stack found : List Pid) : Prop where
  collected : found = taken.flatMap (children table)
  waiting : (taken ++ stack).Perm (root :: found)
  distinct : (root :: found).Nodup
  descends : ∀ p ∈ found, Descends table p root
  ordered : ∀ p q, Parent table p q → p ∈ found → q ≠ root → [q, p].Sublist found

theorem walked_start (table : Ancestry) (root : Pid) : Walked table root [] [root] [] where
  collected := rfl
  waiting := .refl _
  distinct := List.nodup_singleton root
  descends := by simp
  ordered := by simp

namespace Walked

variable {taken stack found : List Pid}

/-- What is on the stack is the root or has been found. -/
theorem known {p : Pid} (h : Walked table root taken (p :: stack) found) :
    p = root ∨ p ∈ found := by
  have hmem : p ∈ taken ++ p :: stack := by simp
  simpa using h.waiting.mem_iff.mp hmem

theorem child_descends {p child : Pid} (h : Walked table root taken (p :: stack) found)
    (hchild : Parent table child p) : Descends table child root := by
  rcases h.known with rfl | hp
  · exact .single hchild
  · exact .head hchild (h.descends p hp)

/-- The children of what is taken next are new: their parent has not been taken before, and none of
them is the root. -/
theorem child_new (oneParent : OneParent table) (acyclic : ¬ Descends table root root)
    {p child : Pid} (h : Walked table root taken (p :: stack) found)
    (hchild : Parent table child p) : child ∉ root :: found := by
  have hnodup : (taken ++ p :: stack).Nodup := h.waiting.nodup_iff.mpr h.distinct
  intro hmem
  rcases List.mem_cons.mp hmem with rfl | hfound
  · exact acyclic (h.child_descends hchild)
  · rw [h.collected] at hfound
    obtain ⟨q, hq, hqchild⟩ := List.mem_flatMap.mp hfound
    have hsame : p = q := oneParent.unique hchild (mem_children.mp hqchild)
    have hapart := (List.nodup_append.mp hnodup).2.2 q hq p List.mem_cons_self
    exact hapart hsame.symm

theorem step (oneParent : OneParent table) (acyclic : ¬ Descends table root root) {p : Pid}
    (h : Walked table root taken (p :: stack) found) :
    Walked table root (taken ++ [p]) ((children table p).reverse ++ stack)
      (found ++ children table p) where
  collected := by simp [h.collected]
  waiting := by
    have hturned : ((children table p).reverse ++ stack).Perm (stack ++ children table p) :=
      (List.perm_append_comm).trans ((List.reverse_perm _).append_left stack)
    calc (taken ++ [p]) ++ ((children table p).reverse ++ stack)
        |>.Perm ((taken ++ [p]) ++ (stack ++ children table p)) := hturned.append_left _
      _ = (taken ++ p :: stack) ++ children table p := by simp
      _ |>.Perm ((root :: found) ++ children table p) := h.waiting.append_right _
  distinct := by
    have hnew : ∀ child ∈ children table p, child ∉ root :: found :=
      fun child hchild => h.child_new oneParent acyclic (mem_children.mp hchild)
    rw [← List.cons_append, List.nodup_append]
    refine ⟨h.distinct, oneParent.nodup_children p, ?_⟩
    rintro q hq child hchild rfl
    exact hnew q hchild hq
  descends := by
    intro child hchild
    rcases List.mem_append.mp hchild with hfound | hnext
    · exact h.descends child hfound
    · exact h.child_descends (mem_children.mp hnext)
  ordered := by
    intro child q hq hchild hroot
    rcases List.mem_append.mp hchild with hfound | hnext
    · exact (h.ordered child q hq hfound hroot).trans (List.sublist_append_left ..)
    · -- The parent has been found before, as it was on the stack.
      obtain rfl : p = q := oneParent.unique (mem_children.mp hnext) hq
      have hp : p ∈ found := h.known.resolve_left hroot
      exact (List.singleton_sublist.mpr hp).append (List.singleton_sublist.mpr hnext)

/-! ## The whole walk -/

/-- Only processes of the list are found, each once. -/
theorem length_found (h : Walked table root taken stack found) : found.length ≤ table.length := by
  have hlisted : found ⊆ table.map Prod.fst := by
    intro p hp
    obtain ⟨q, hq, -⟩ := Relation.TransGen.head'_iff.mp (h.descends p hp)
    exact List.mem_map_of_mem hq
  have hsub := List.subperm_of_subset h.distinct.of_cons hlisted
  simpa using hsub.length_le

/-- The walk ends within as many turns as there are rows, and one for the root. -/
theorem run (oneParent : OneParent table) (acyclic : ¬ Descends table root root) {n : Nat}
    (h : Walked table root taken stack found) (enough : table.length < n + taken.length) :
    ∃ taken' found', walk table n stack found = some found' ∧
      Walked table root taken' [] found' := by
  induction n generalizing taken stack found with
  | zero =>
    have hlength := h.waiting.length_eq
    have hfound := h.length_found
    simp only [List.length_append, List.length_cons] at hlength
    have hempty : stack = [] := List.length_eq_zero_iff.mp (by omega)
    subst hempty
    exact ⟨taken, found, rfl, h⟩
  | succ n ih =>
    cases stack with
    | nil => exact ⟨taken, found, rfl, h⟩
    | cons p stack =>
      obtain ⟨taken', found', hwalk, hend⟩ := ih (h.step oneParent acyclic) (by simp; omega)
      exact ⟨taken', found', hwalk, hend⟩

/-- When nothing is left on the stack, every descendant has been found. -/
theorem complete (h : Walked table root taken [] found) {p : Pid} (hp : Descends table p root) :
    p ∈ found := by
  have htaken : ∀ q, q ∈ taken ↔ q ∈ root :: found := by
    intro q
    rw [← h.waiting.mem_iff, List.append_nil]
  have hchild : ∀ child q, Parent table child q → q ∈ root :: found → child ∈ found := by
    intro child q hq hmem
    rw [h.collected]
    exact List.mem_flatMap.mpr ⟨q, (htaken q).mpr hmem, mem_children.mpr hq⟩
  -- From the root downwards, along the way that leads up to it.
  induction hp using Relation.TransGen.head_induction_on with
  | single hrow => exact hchild _ _ hrow List.mem_cons_self
  | head hrow _ ih => exact hchild _ _ hrow (List.mem_cons_of_mem _ ih)

theorem mem_iff (h : Walked table root taken [] found) (p : Pid) :
    p ∈ found ↔ Descends table p root := ⟨h.descends p, h.complete⟩

end Walked

/-- A walk that has ended would have ended the same with more turns allowed. -/
theorem walk_add {n : Nat} {stack found result : List Pid}
    (h : walk table n stack found = some result) (k : Nat) :
    walk table (n + k) stack found = some result := by
  induction n generalizing stack found with
  | zero =>
    cases stack with
    | nil => cases k <;> exact h
    | cons p stack => cases h
  | succ n ih =>
    cases stack with
    | nil =>
      rw [Nat.add_right_comm]
      exact h
    | cons p stack =>
      rw [Nat.add_right_comm]
      exact ih h

/-! ## Roots that descend from themselves -/

/-- A process on the stack that the root descends from never lets the walk end: one of its children
is such a process too. -/
theorem walk_eq_none (cyclic : Descends table root root) {n : Nat} {stack found : List Pid}
    (h : ∃ p ∈ stack, Descends table root p) : walk table n stack found = none := by
  induction n generalizing stack found with
  | zero =>
    obtain ⟨p, hp, -⟩ := h
    cases stack with
    | nil => cases hp
    | cons q stack => rfl
  | succ n ih =>
    obtain ⟨p, hp, hroot⟩ := h
    cases stack with
    | nil => cases hp
    | cons q stack =>
      refine ih ?_
      rcases List.mem_cons.mp hp with rfl | hp
      · obtain ⟨child, hreach, hchild⟩ := Relation.TransGen.tail'_iff.mp hroot
        have hmem : child ∈ (children table p).reverse ++ stack := by
          simp [mem_children.mpr hchild]
        rcases Relation.reflTransGen_iff_eq_or_transGen.mp hreach with rfl | hreach
        · exact ⟨_, hmem, cyclic⟩
        · exact ⟨child, hmem, hreach⟩
      · exact ⟨p, List.mem_append_right _ hp, hroot⟩

/-- The walk finds no end just for a root that descends from itself. -/
theorem descendants_eq_none_iff (oneParent : OneParent table) (root : Pid) :
    descendants table root = none ↔ Descends table root root := by
  constructor
  · intro hnone
    by_contra acyclic
    obtain ⟨taken, found, hwalk, -⟩ :=
      (walked_start table root).run oneParent acyclic (n := table.length + 1) (by simp)
    rw [descendants, hwalk] at hnone
    cases hnone
  · intro cyclic
    exact walk_eq_none cyclic ⟨root, List.mem_singleton_self root, cyclic⟩

/-! ## The order of a kill -/

/-- For every list in which each process stands once, and every root that does not descend from
itself: however many turns are allowed beyond the number of rows, the walk ends and finds just the
descendants of the root, each once and after its parent, unless that is the root. So what a kill
goes through, the other way round with the root behind it, is the whole family: each process once,
before its parent, and the root last. -/
theorem kill_goes_from_children_to_parents (oneParent : OneParent table)
    (acyclic : ¬ Descends table root root) : ∃ found,
    (∀ n, table.length < n → walk table n [root] [] = some found) ∧
    descendants table root = some found ∧ found.Nodup ∧
    (∀ p, p ∈ found ↔ Descends table p root) ∧
    (∀ p q, Parent table p q → p ∈ found → q ≠ root → [q, p].Sublist found) ∧
    ∃ victims, victims = found.reverse ++ [root] ∧ subtree table root = some victims ∧
      victims.Nodup ∧ (∀ p, p ∈ victims ↔ p = root ∨ Descends table p root) ∧
      (∀ p q, Parent table p q → p ∈ found → [p, q].Sublist victims) ∧
      ∀ net : Namespaces, net.machine.ancestry = table → root ∉ net.reaped →
        (net.reapIfEnded root).1 = false →
        (Namespaces.signalKill root net).1 = (Namespaces.killAll victims net).1 := by
  obtain ⟨taken, found, hwalk, hend⟩ :=
    (walked_start table root).run oneParent acyclic (n := table.length + 1) (by simp)
  have hdescendants : descendants table root = some found := hwalk
  have hsubtree : subtree table root = some (found.reverse ++ [root]) := by
    rw [subtree, hdescendants]
    rfl
  obtain ⟨hroot, hdistinct⟩ := List.nodup_cons.mp hend.distinct
  refine ⟨found, ?_, hdescendants, hdistinct, hend.mem_iff, hend.ordered, _, rfl, hsubtree, ?_, ?_,
    ?_, ?_⟩
  · intro n hn
    obtain ⟨k, rfl⟩ := Nat.exists_eq_add_of_le hn
    exact walk_add hwalk k
  · rw [← List.reverse_cons, List.nodup_reverse]
    exact hend.distinct
  · intro p
    simp [hend.mem_iff, or_comm]
  · intro p q hq hp
    rw [← List.reverse_cons]
    have hsub : [q, p].Sublist (root :: found) := by
      by_cases hqroot : q = root
      · subst hqroot
        exact (List.singleton_sublist.mpr hp).cons_cons q
      · exact (hend.ordered p q hq hp hqroot).cons root
    exact hsub.reverse
  · rintro net rfl hreaped hended
    rw [Namespaces.signalKill_running hsubtree hreaped hended]

/-- A daemon with two children and a grandchild, below the first process; two further processes are
the parents of each other. -/
theorem kill_goes_from_children_to_parents_beside_a_circle :
    let table : Ancestry := [(5, 1), (6, 5), (7, 6), (8, 5), (9, 10), (10, 9)]
    OneParent table ∧ ¬ Descends table 5 5 ∧ subtree table 5 = some [7, 8, 6, 5] ∧
      (∀ p, p ∈ [6, 8, 7] ↔ Descends table p 5) ∧ [(7 : Pid), 6].Sublist [7, 8, 6, 5] := by
  intro table
  have oneParent : OneParent table := by decide
  have acyclic : ¬ Descends table 5 5 := by
    intro h
    obtain ⟨p, hp, hreach⟩ := Relation.TransGen.head'_iff.mp h
    obtain rfl : p = 1 := by simpa [Parent, table] using hp
    -- The first process has no parent in the list.
    rcases Relation.ReflTransGen.cases_head hreach with h | ⟨q, hq, -⟩
    · exact absurd h (by decide)
    · simp [Parent, table] at hq
  obtain ⟨found, -, hfound, -, hmem, -, victims, -, hvictims, -, -, hbefore, -⟩ :=
    kill_goes_from_children_to_parents oneParent acyclic
  obtain rfl : [6, 8, 7] = found := Option.some.inj hfound
  obtain rfl : [7, 8, 6, 5] = victims := Option.some.inj hvictims
  exact ⟨oneParent, acyclic, hvictims, hmem, hbefore 7 6 (by decide) (by decide)⟩

end Machine.Family

end Testbed
