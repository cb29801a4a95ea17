-- Host names, and pairs of hosts in which the order does not count.

namespace Testbed

/-- The short unique name of a host. -/
structure HostId where
  name : String
deriving DecidableEq, Repr, Inhabited

/-- What a substrate calls a host that it has created. -/
structure HostContext where
  text : String
deriving DecidableEq, Repr, Inhabited

/-- Two hosts, kept with the smaller name first. -/
structure HostPair where
  low : HostId
  high : HostId
deriving DecidableEq, Repr, Inhabited

namespace HostPair

/-- The pair of two hosts named in either order. -/
def of (a b : HostId) : HostPair := if a.name ≤ b.name then ⟨a, b⟩ else ⟨b, a⟩

theorem of_comm (a b : HostId) : of a b = of b a := by
  cases a with | mk a => cases b with | mk b =>
  unfold of
  split <;> split
  · next h h' => cases String.le_antisymm h h'; rfl
  · rfl
  · rfl
  · next h h' => rcases String.le_total a b with hab | hba
                 · exact absurd hab h
                 · exact absurd hba h'

/-- Two pairs are the same exactly when they name the same hosts in one order or the other. -/
theorem of_eq_of_iff {a b x y : HostId} :
    of a b = of x y ↔ (a = x ∧ b = y) ∨ (a = y ∧ b = x) := by
  constructor
  · intro h
    unfold of at h
    split at h <;> split at h <;> simp_all
  · rintro (⟨rfl, rfl⟩ | ⟨rfl, rfl⟩)
    · rfl
    · exact of_comm _ _

end HostPair

end Testbed
