-- A table from keys to values that remembers the order in which keys were
-- first entered. Each key stands at most once. The view of a table is its
-- look-up: every operation is described by what it does to that.

namespace Testbed

/-- Rows of a key and its value, oldest key first. -/
structure Table (κ α : Type) where
  rows : List (κ × α) := []
deriving Repr

namespace Table

variable {κ α : Type} [DecidableEq κ]

instance : EmptyCollection (Table κ α) := ⟨⟨[]⟩⟩
instance : Inhabited (Table κ α) := ⟨∅⟩

/-! ## Rows -/

/-- The value that stands with a key. -/
def find (k : κ) : List (κ × α) → Option α
  | [] => none
  | r :: rs => if r.1 = k then some r.2 else find k rs

/-- Puts a value in the place of the one with the same key, else in a new last row. -/
def put (k : κ) (v : α) : List (κ × α) → List (κ × α)
  | [] => [(k, v)]
  | r :: rs => if r.1 = k then (k, v) :: rs else r :: put k v rs

theorem find_put (k x : κ) (v : α) (rs : List (κ × α)) :
    find x (put k v rs) = if k = x then some v else find x rs := by
  induction rs with
  | nil => simp [put, find]
  | cons r rs ih =>
    unfold put
    split
    · next h => by_cases hx : k = x <;> simp [find, h, hx]
    · next h =>
      by_cases hx : k = x
      · subst hx; simp [find, h, ih]
      · simp [find, ih, hx]

theorem find_filter (k x : κ) (rs : List (κ × α)) :
    find x (rs.filter fun r => r.1 ≠ k) = if k = x then none else find x rs := by
  induction rs with
  | nil => simp [find]
  | cons r rs ih =>
    by_cases hr : r.1 = k
    · by_cases hx : k = x <;> simp_all [find]
    · by_cases hx : k = x <;> by_cases hrx : r.1 = x <;> simp_all [find]

theorem find_map (x : κ) (f : α → α) (rs : List (κ × α)) :
    find x (rs.map fun r => (r.1, f r.2)) = (find x rs).map f := by
  induction rs with
  | nil => rfl
  | cons r rs ih => by_cases hr : r.1 = x <;> simp [find, hr, ih]

theorem map_put_values (k : κ) (v : α) (f : α → α) (rs : List (κ × α)) :
    (put k v rs).map (fun r => (r.1, f r.2)) = put k (f v) (rs.map fun r => (r.1, f r.2)) := by
  induction rs with
  | nil => rfl
  | cons r rs ih => by_cases hr : r.1 = k <;> simp [put, hr, ih]

/-! ## Operations -/

def get? (t : Table κ α) (k : κ) : Option α := find k t.rows

def contains (t : Table κ α) (k : κ) : Bool := (t.get? k).isSome

/-- Gives a key a value; a new key comes last. -/
def insert (t : Table κ α) (k : κ) (v : α) : Table κ α := ⟨put k v t.rows⟩

def erase (t : Table κ α) (k : κ) : Table κ α := ⟨t.rows.filter fun r => r.1 ≠ k⟩

def modify (t : Table κ α) (k : κ) (f : α → α) : Table κ α :=
  match t.get? k with
  | some v => t.insert k (f v)
  | none => t

def map (t : Table κ α) (f : α → α) : Table κ α := ⟨t.rows.map fun r => (r.1, f r.2)⟩

/-- The keys, oldest first. -/
def keys (t : Table κ α) : List κ := t.rows.map (·.1)

/-- The values, in the order of their keys. -/
def values (t : Table κ α) : List α := t.rows.map (·.2)

/-! ## The look-up after each operation -/

@[simp]
theorem get?_empty (x : κ) : (∅ : Table κ α).get? x = none := rfl

theorem get?_insert (t : Table κ α) (k x : κ) (v : α) :
    (t.insert k v).get? x = if k = x then some v else t.get? x := find_put k x v t.rows

@[simp]
theorem get?_insert_self (t : Table κ α) (k : κ) (v : α) : (t.insert k v).get? k = some v := by
  simp [get?_insert]

theorem get?_erase (t : Table κ α) (k x : κ) :
    (t.erase k).get? x = if k = x then none else t.get? x := find_filter k x t.rows

theorem get?_modify (t : Table κ α) (k x : κ) (f : α → α) :
    (t.modify k f).get? x = if k = x then (t.get? x).map f else t.get? x := by
  unfold modify
  split
  · next v h => rw [get?_insert]; split
                · next hx => subst hx; simp [h]
                · rfl
  · next h => split
              · next hx => subst hx; simp [h]
              · rfl

theorem get?_map (t : Table κ α) (x : κ) (f : α → α) : (t.map f).get? x = (t.get? x).map f :=
  find_map x f t.rows

/-- To change all values after an insertion is to change them before and to insert the changed
value. -/
theorem map_insert (t : Table κ α) (k : κ) (v : α) (f : α → α) :
    (t.insert k v).map f = (t.map f).insert k (f v) :=
  congrArg mk (map_put_values k v f t.rows)

theorem contains_insert (t : Table κ α) (k x : κ) (v : α) :
    (t.insert k v).contains x = (decide (k = x) || t.contains x) := by
  unfold contains
  rw [get?_insert]
  by_cases h : k = x <;> simp [h]

/-! ## Rows and look-up -/

/-- No key stands in two rows. Every table that is made by the operations is like that. -/
def Distinct (t : Table κ α) : Prop := t.keys.Nodup

theorem map_put (k : κ) (v : α) (rs : List (κ × α)) :
    (put k v rs).map (·.1) = if k ∈ rs.map (·.1) then rs.map (·.1) else rs.map (·.1) ++ [k] := by
  induction rs with
  | nil => rfl
  | cons r rs ih =>
    unfold put
    split
    · next h => simp [h]
    · next h =>
      simp only [List.map_cons, ih, List.mem_cons, Ne.symm h, false_or]
      split <;> rfl

omit [DecidableEq κ] in
theorem distinct_empty : (∅ : Table κ α).Distinct := List.nodup_nil

theorem Distinct.insert {t : Table κ α} (h : t.Distinct) (k : κ) (v : α) :
    (t.insert k v).Distinct := by
  unfold Distinct keys Table.insert at *
  rw [map_put]
  split
  · exact h
  · next hk =>
    rw [List.nodup_append]
    refine ⟨h, by simp, ?_⟩
    intro x hx y hy hxy
    rw [List.mem_singleton.mp hy] at hxy
    exact hk (hxy ▸ hx)

theorem Distinct.modify {t : Table κ α} (h : t.Distinct) (k : κ) (f : α → α) :
    (t.modify k f).Distinct := by
  unfold Table.modify
  split
  · exact h.insert k _
  · exact h

theorem mem_of_find {k : κ} {v : α} {rs : List (κ × α)} (h : find k rs = some v) :
    (k, v) ∈ rs := by
  induction rs with
  | nil => cases h
  | cons r rs ih =>
    rw [find] at h
    split at h
    · next hk =>
      cases h
      exact hk ▸ List.mem_cons_self
    · exact List.mem_cons_of_mem _ (ih h)

/-- What look-up finds stands in a row. -/
theorem mem_rows_of_get? {t : Table κ α} {k : κ} {v : α} (h : t.get? k = some v) :
    (k, v) ∈ t.rows := mem_of_find h

theorem mem_iff_find (k : κ) (v : α) (rs : List (κ × α)) (h : (rs.map (·.1)).Nodup) :
    (k, v) ∈ rs ↔ find k rs = some v := by
  induction rs with
  | nil => simp [find]
  | cons r rs ih =>
    obtain ⟨hr, hrs⟩ := List.nodup_cons.mp h
    rw [List.mem_cons, ih hrs]
    by_cases hk : r.1 = k
    · have hnot : find k rs ≠ some v := fun hf =>
        hr (List.mem_map.mpr ⟨(k, v), (ih hrs).mpr hf, hk.symm⟩)
      simp [find, hk, hnot, Prod.ext_iff, eq_comm]
    · simp [find, hk, Prod.ext_iff, Ne.symm hk]

/-- Where no key stands twice, the rows are what look-up finds. -/
theorem mem_rows_iff {t : Table κ α} (h : t.Distinct) (k : κ) (v : α) :
    (k, v) ∈ t.rows ↔ t.get? k = some v := mem_iff_find k v t.rows h

end Table

end Testbed
