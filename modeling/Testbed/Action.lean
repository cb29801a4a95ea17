-- An action on a state: it gives a value or an error, and in both cases the
-- state it reached. An action that fails half way keeps what was done before.

namespace Testbed

/-- A step from a state to a result and the state afterwards. -/
def Action (σ ε α : Type) : Type := σ → Except ε α × σ

namespace Action

variable {σ τ ε α β : Type}

protected def pure (a : α) : Action σ ε α := fun s => (.ok a, s)

/-- The second action starts from the state the first one reached, and only if that one
did not fail. -/
protected def bind (act : Action σ ε α) (next : α → Action σ ε β) : Action σ ε β := fun s =>
  match act s with
  | (.ok a, s') => next a s'
  | (.error e, s') => (.error e, s')

instance : Monad (Action σ ε) where
  pure := Action.pure
  bind := Action.bind

/-- Fails and leaves the state alone. -/
def fail (e : ε) : Action σ ε α := fun s => (.error e, s)

def require (holds : Bool) (e : ε) : Action σ ε Unit := if holds then pure () else fail e

def get : Action σ ε σ := fun s => (.ok s, s)

def modify (f : σ → σ) : Action σ ε Unit := fun s => (.ok (), f s)

def reads (f : σ → α) : Action σ ε α := fun s => (.ok (f s), s)

def ofExcept : Except ε α → Action σ ε α
  | .ok a => pure a
  | .error e => fail e

/-- The result of the action as a value: it never fails, and its effects stay. -/
def attempt (act : Action σ ε α) : Action σ τ (Except ε α) := fun s =>
  let (r, s') := act s
  (.ok r, s')

def mapError {ε' : Type} (f : ε → ε') (act : Action σ ε α) : Action σ ε' α := fun s =>
  let (r, s') := act s
  (r.mapError f, s')

/-- An action on a part of the state. -/
def within (part : τ → σ) (put : σ → τ → τ) (act : Action σ ε α) : Action τ ε α := fun t =>
  let (r, s) := act (part t)
  (r, put s t)

/-! ## What running does -/

@[simp]
theorem pure_apply (a : α) (s : σ) : (pure a : Action σ ε α) s = (.ok a, s) := rfl

theorem bind_apply (act : Action σ ε α) (next : α → Action σ ε β) (s : σ) :
    (act >>= next) s = match act s with
      | (.ok a, s') => next a s'
      | (.error e, s') => (.error e, s') := rfl

@[simp]
theorem fail_apply (e : ε) (s : σ) : (fail e : Action σ ε α) s = (.error e, s) := rfl

theorem bind_ok {act : Action σ ε α} {s s' : σ} {a : α} (next : α → Action σ ε β)
    (h : act s = (.ok a, s')) : (act >>= next) s = next a s' := by
  simp [bind_apply, h]

theorem bind_error {act : Action σ ε α} {s s' : σ} {e : ε} (next : α → Action σ ε β)
    (h : act s = (.error e, s')) : (act >>= next) s = (.error e, s') := by
  simp [bind_apply, h]

/-- Two actions in a row succeed just when both do, one after the other. -/
theorem bind_eq_ok {act : Action σ ε α} {next : α → Action σ ε β} {s s' : σ} {b : β} :
    (act >>= next) s = (.ok b, s') ↔ ∃ a s₁, act s = (.ok a, s₁) ∧ next a s₁ = (.ok b, s') := by
  rw [bind_apply]
  rcases act s with ⟨e | a, s₁⟩
  · simp
  · constructor
    · intro h
      exact ⟨a, s₁, rfl, h⟩
    · rintro ⟨a', s', h, hnext⟩
      cases h
      exact hnext

/-- To make another answer of an answer does nothing to the state. -/
theorem bind_pure_state (act : Action σ ε α) (f : α → β) (s : σ) :
    ((act >>= fun a => pure (f a)) s).2 = (act s).2 := by
  rw [bind_apply]
  rcases act s with ⟨e | a, s'⟩ <;> rfl

theorem reads_bind (f : σ → α) (next : α → Action σ ε β) (s : σ) :
    (reads f >>= next) s = next (f s) s := rfl

theorem modify_bind (f : σ → σ) (next : Unit → Action σ ε β) (s : σ) :
    (modify f >>= next) s = next () (f s) := rfl

theorem ofExcept_ok_bind (a : α) (next : α → Action σ ε β) (s : σ) :
    (ofExcept (.ok a) >>= next) s = next a s := rfl

theorem ofExcept_error_bind (e : ε) (next : α → Action σ ε β) (s : σ) :
    (ofExcept (.error e) >>= next) s = (.error e, s) := rfl

theorem bind_bind {γ : Type} (act : Action σ ε α) (next : α → Action σ ε β)
    (last : β → Action σ ε γ) : act >>= next >>= last = act >>= fun a => next a >>= last := by
  funext s
  simp only [bind_apply]
  cases act s with | mk r s' =>
  cases r <;> rfl

instance : LawfulMonad (Action σ ε) :=
  LawfulMonad.mk' (Action σ ε)
    (fun act => by
      funext s
      change (act >>= pure ∘ id) s = act s
      rw [bind_apply]
      cases act s with | mk r s' =>
      cases r <;> rfl)
    (fun _ _ => rfl)
    bind_bind

end Action

end Testbed
