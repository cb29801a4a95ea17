-- Lists that are cut in two at a member: at the last member of the list or at an
-- earlier one, at the first of a kind, and at the last of a kind.

namespace Testbed

/-- A list that ends in a member is cut at this one or at one before it. -/
theorem concat_eq_append_cons {α : Type} {xs before after : List α} {last x : α} :
    xs ++ [last] = before ++ x :: after ↔ (xs = before ∧ last = x ∧ after = []) ∨
      ∃ rest, after = rest ++ [last] ∧ xs = before ++ x :: rest := by
  constructor
  · intro h
    rcases List.eq_nil_or_concat after with rfl | ⟨rest, y, rfl⟩
    · obtain ⟨rfl, hlast⟩ := List.append_inj' h rfl
      exact Or.inl ⟨rfl, List.singleton_inj.mp hlast, rfl⟩
    · rw [List.concat_eq_append, ← List.cons_append, ← List.append_assoc] at h
      obtain ⟨rfl, hlast⟩ := List.append_inj' h rfl
      obtain rfl := List.singleton_inj.mp hlast
      exact Or.inr ⟨rest, List.concat_eq_append, rfl⟩
  · rintro (⟨rfl, rfl, rfl⟩ | ⟨rest, rfl, rfl⟩)
    · rfl
    · simp

/-- Up to the first of its kind, a list goes on as long as it holds none. -/
theorem upTo_append {α : Type} [DecidableEq α] {stop : α} {xs rest : List α} (h : stop ∉ xs)
    (hrest : ∀ x ∈ rest.head?, x = stop) :
    (xs ++ rest).takeWhile (· ≠ stop) = xs ∧ (xs ++ rest).dropWhile (· ≠ stop) = rest := by
  have hall : ∀ x ∈ xs, decide (x ≠ stop) = true := by
    intro x hx
    exact decide_eq_true fun heq => h (heq ▸ hx)
  have hend : rest.takeWhile (· ≠ stop) = [] ∧ rest.dropWhile (· ≠ stop) = rest := by
    cases rest with
    | nil => exact ⟨rfl, rfl⟩
    | cons x xs => simp [hrest x rfl]
  rw [List.takeWhile_append_of_pos hall, List.dropWhile_append_of_pos hall, hend.1, hend.2,
    List.append_nil]
  exact ⟨rfl, rfl⟩

/-- The last of its kind cuts a list in one way. -/
theorem append_cons_inj {α : Type} {x : α} {xs ys us vs : List α} (hys : x ∉ ys) (hvs : x ∉ vs)
    (h : xs ++ x :: ys = us ++ x :: vs) : xs = us ∧ ys = vs := by
  rcases List.append_eq_append_iff.mp h with ⟨between, rfl, hrest⟩ | ⟨between, rfl, hrest⟩
  · cases between with
    | nil => exact ⟨by simp, (List.cons.inj hrest).2⟩
    | cons y between =>
      refine absurd ?_ hys
      rw [(List.cons.inj hrest).2]
      simp
  · cases between with
    | nil => exact ⟨by simp, (List.cons.inj hrest).2.symm⟩
    | cons y between =>
      refine absurd ?_ hvs
      rw [(List.cons.inj hrest).2]
      simp

end Testbed
