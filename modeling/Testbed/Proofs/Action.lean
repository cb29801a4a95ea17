-- What actions keep. A relation between states that can be chained, and that
-- holds between a state and itself, holds across an action if it holds across
-- each of its steps. It does not matter whether the action fails.
import Mathlib.Order.Defs.Unbundled
import Testbed.Action

namespace Testbed.Action

variable {σ τ ε ε' α β : Type}

/-- The relation holds between the states before and after the action, also where it fails. -/
def Keeps (R : σ → σ → Prop) (act : Action σ ε α) : Prop := ∀ s, R s (act s).2

/-- The same is read off both states. -/
def Same (f : σ → τ) (s s' : σ) : Prop := f s' = f s

instance (f : σ → τ) : IsPreorder σ (Same f) where
  refl _ := rfl
  trans _ _ _ h h' := Eq.trans h' h

theorem require_bind (holds : Bool) (e : ε) (next : Unit → Action σ ε α) (s : σ) :
    (require holds e >>= next) s = if holds then next () s else (.error e, s) := by
  unfold require
  split <;> rfl

namespace Keeps

variable {R : σ → σ → Prop} {act : Action σ ε α} {next : α → Action σ ε β}

/-! ## Single steps -/

protected theorem modify {f : σ → σ} (h : ∀ s, R s (f s)) :
    Keeps R (Action.modify f : Action σ ε Unit) := h

protected theorem attempt (h : Keeps R act) : Keeps R (act.attempt : Action σ ε' (Except ε α)) := h

protected theorem mapError (h : Keeps R act) (f : ε → ε') : Keeps R (act.mapError f) := h

variable [IsPreorder σ R]

protected theorem pure (a : α) : Keeps R (Pure.pure a : Action σ ε α) := refl_of R

protected theorem fail (e : ε) : Keeps R (Action.fail e : Action σ ε α) := refl_of R

protected theorem get : Keeps R (Action.get : Action σ ε σ) := refl_of R

protected theorem reads (f : σ → α) : Keeps R (Action.reads f : Action σ ε α) := refl_of R

protected theorem ofExcept (r : Except ε α) : Keeps R (Action.ofExcept r : Action σ ε α) := by
  cases r with
  | ok a => exact .pure a
  | error e => exact .fail e

protected theorem require (holds : Bool) (e : ε) :
    Keeps R (Action.require holds e : Action σ ε Unit) := by
  unfold Action.require
  split
  · exact .pure ()
  · exact .fail e

/-! ## Steps in a row -/

/-- What holds from some earlier state on holds from there to the end. -/
theorem bind_from {s₀ s : σ} (h : R s₀ (act s).2) (hnext : ∀ a, Keeps R (next a)) :
    R s₀ ((act >>= next) s).2 := by
  rw [bind_apply]
  rcases hact : act s with ⟨e | a, s₁⟩
  · rw [hact] at h
    exact h
  · rw [hact] at h
    exact trans_of R h (hnext a s₁)

protected theorem bind (h : Keeps R act) (hnext : ∀ a, Keeps R (next a)) :
    Keeps R (act >>= next) :=
  fun s => bind_from (h s) hnext

protected theorem map (h : Keeps R act) (f : α → β) : Keeps R (f <$> act) := by
  rw [map_eq_pure_bind]
  exact h.bind fun a => .pure (f a)

end Keeps

end Testbed.Action
