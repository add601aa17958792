import Mathlib.Init

/-!
# Programs that fail without an effect

Checks that only read, followed by writes that cannot fail, leave no trace of a failure.
-/

namespace RackManagement.Library

variable {ε σ α β : Type} (x : EStateM ε σ α)

/-- The state is untouched, whether the program returns or fails. -/
def ReadOnly : Prop :=
  ∀ s, (∃ a, x s = .ok a s) ∨ ∃ e, x s = .error e s

def NeverFails : Prop :=
  ∀ s, ∃ a t, x s = .ok a t

/-- A failing run leaves the state as it found it. -/
def FailureAtomic : Prop :=
  ∀ s e t, x s = .error e t → t = s

def outcome : EStateM.Result ε σ α → Except ε α × σ
  | .ok a s => (.ok a, s)
  | .error e s => (.error e, s)

def refuseIf (refuse : Bool) (error : ε) : EStateM ε σ Unit :=
  if refuse then throw error else pure ()

def okOr (error : ε) : Option α → EStateM ε σ α
  | some a => pure a
  | none => throw error

def fromExcept : Except ε α → EStateM ε σ α
  | .ok a => pure a
  | .error e => throw e

lemma bind_apply (f : α → EStateM ε σ β) (s : σ) : (x >>= f) s = match x s with
      | .ok a t => f a t
      | .error e t => .error e t := rfl

lemma readOnly_pure (a : α) : ReadOnly (pure a : EStateM ε σ α) :=
  fun _ => .inl ⟨a, rfl⟩

lemma readOnly_throw (e : ε) : ReadOnly (throw e : EStateM ε σ α) :=
  fun _ => .inr ⟨e, rfl⟩

lemma readOnly_get : ReadOnly (get : EStateM ε σ σ) :=
  fun s => .inl ⟨s, rfl⟩

lemma readOnly_refuseIf (refuse : Bool) (error : ε) :
    ReadOnly (refuseIf refuse error : EStateM ε σ Unit) := by
  cases refuse
  · exact readOnly_pure ()
  · exact readOnly_throw error

lemma readOnly_okOr (error : ε) (value : Option α) : ReadOnly (okOr error value : EStateM ε σ α) := by
  cases value with
  | none => exact readOnly_throw error
  | some a => exact readOnly_pure a

lemma readOnly_fromExcept (value : Except ε α) : ReadOnly (fromExcept value : EStateM ε σ α) := by
  cases value with
  | error e => exact readOnly_throw e
  | ok a => exact readOnly_pure a

lemma neverFails_pure (a : α) : NeverFails (pure a : EStateM ε σ α) :=
  fun s => ⟨a, s, rfl⟩

lemma neverFails_modify (f : σ → σ) : NeverFails (modify f : EStateM ε σ PUnit) :=
  fun s => ⟨(), f s, rfl⟩

variable {x : EStateM ε σ α} {f : α → EStateM ε σ β}

lemma NeverFails.bind (hx : NeverFails x) (hf : ∀ a, NeverFails (f a)) : NeverFails (x >>= f) := by
  intro s
  obtain ⟨a, t, ht⟩ := hx s
  rw [bind_apply, ht]
  exact hf a t

lemma NeverFails.failureAtomic (hx : NeverFails x) : FailureAtomic x := by
  intro s e t h
  obtain ⟨a, t', ht⟩ := hx s
  rw [ht] at h
  cases h

lemma ReadOnly.bind_failureAtomic (hx : ReadOnly x) (hf : ∀ a, FailureAtomic (f a)) :
    FailureAtomic (x >>= f) := by
  intro s e t h
  rw [bind_apply] at h
  rcases hx s with ⟨a, ha⟩ | ⟨e', he⟩
  · rw [ha] at h
    exact hf a s e t h
  · rw [he] at h
    cases h
    rfl

lemma FailureAtomic.bind_neverFails (hx : FailureAtomic x) (hf : ∀ a, NeverFails (f a)) :
    FailureAtomic (x >>= f) := by
  intro s e t h
  rw [bind_apply] at h
  cases hbody : x s with
  | ok a u =>
    obtain ⟨b, v, hv⟩ := hf a u
    rw [hbody] at h
    simp only [hv] at h
    cases h
  | error e' u =>
    rw [hbody] at h
    cases h
    exact hx s e t hbody

/-! The outcome of a program, statement by statement. -/

section Outcome

variable (s : σ) (f : α → EStateM ε σ β) (g : Unit → EStateM ε σ β)

lemma outcome_get_bind (f : σ → EStateM ε σ β) : outcome ((get >>= f) s) = outcome (f s s) := rfl

lemma outcome_modify (change : σ → σ) :
    outcome ((modify change : EStateM ε σ Unit) s) = (.ok (), change s) := rfl

lemma outcome_modify_bind (change : σ → σ) :
    outcome (((modify change : EStateM ε σ Unit) >>= g) s) = outcome (g () (change s)) := rfl

lemma outcome_refuseIf_bind (refuse : Bool) (error : ε) :
    outcome ((refuseIf refuse error >>= g) s) = if refuse then (.error error, s) else outcome (g () s) := by
  cases refuse <;> rfl

lemma outcome_okOr_bind (error : ε) (value : Option α) :
    outcome ((okOr error value >>= f) s) = match value with
      | none => (.error error, s)
      | some a => outcome (f a s) := by
  cases value <;> rfl

lemma outcome_fromExcept_bind (value : Except ε α) : outcome ((fromExcept value >>= f) s) = match value with
      | .error e => (.error e, s)
      | .ok a => outcome (f a s) := by
  cases value <;> rfl

end Outcome

end RackManagement.Library
