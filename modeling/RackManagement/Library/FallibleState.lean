import Mathlib.Control.Monad.Basic
import RackManagement.Library.Transaction

/-!
# Fallible computations with a state

Rules for `EStateM`, whose state survives an error.
-/

namespace RackManagement.Library.FallibleState

variable {σ ε φ α β : Type}

def mapError (f : ε → φ) (x : EStateM ε σ α) : EStateM φ σ α := fun s =>
  match x s with
  | .ok a s' => .ok a s'
  | .error e s' => .error (f e) s'

def ignoreError (x : EStateM ε σ α) : EStateM ε σ Unit := fun s => .ok () (outcome (x s)).2

def throwIf : Option ε → EStateM ε σ Unit
  | none => pure ()
  | some e => throw e

def runIf (p : Prop) [Decidable p] (x : EStateM ε σ Unit) : EStateM ε σ Unit := if p then x else pure ()

variable {a : α} {s t : σ}

lemma pure_eq_ok {b : α} (h : (pure a : EStateM ε σ α) s = .ok b t) : b = a ∧ t = s := by
  cases h
  exact ⟨rfl, rfl⟩

variable {f : α → EStateM ε σ β}

lemma bind_eq_ok {x : EStateM ε σ α} {b : β} (h : (x >>= f) s = .ok b t) :
    ∃ a r, x s = .ok a r ∧ f a r = .ok b t := by
  change EStateM.bind x f s = .ok b t at h
  unfold EStateM.bind at h
  split at h
  case h_1 a r hx => exact ⟨a, r, hx, h⟩
  case h_2 => cases h

lemma fromExcept_eq_ok {x : Except ε α} (h : fromExcept x s = .ok a t) : x = .ok a ∧ t = s := by
  cases x with
  | error e => cases h
  | ok b =>
    cases h
    exact ⟨rfl, rfl⟩

lemma throwIf_eq_ok {error : Option ε} {u : Unit} (h : throwIf error s = .ok u t) : t = s := by
  cases error with
  | some e => cases h
  | none =>
    cases h
    rfl

lemma mapM_cons_eq_ok {l : List α} {bs : List β} (h : ((a :: l).mapM f) s = .ok bs t) :
    ∃ b rest r, f a s = .ok b r ∧ (l.mapM f) r = .ok rest t ∧ bs = b :: rest := by
  rw [List.mapM_cons] at h
  obtain ⟨b, r, hb, h⟩ := bind_eq_ok h
  obtain ⟨rest, r', hrest, h⟩ := bind_eq_ok h
  obtain ⟨rfl, rfl⟩ := pure_eq_ok h
  exact ⟨b, rest, r, hb, hrest, rfl⟩

/-- Every result satisfies the property, whatever the state. -/
def Yields (x : EStateM ε σ α) (P : α → Prop) : Prop := ∀ s a t, x s = .ok a t → P a

namespace Yields

variable {x : EStateM ε σ α} {f : α → EStateM ε σ β} {Q : α → Prop} {P : β → Prop}

lemma pure {b : β} (h : P b) : Yields (Pure.pure b : EStateM ε σ β) P := by
  intro s a t ha
  obtain ⟨rfl, -⟩ := pure_eq_ok ha
  exact h

lemma bind_of (hx : Yields x Q) (hf : ∀ a, Q a → Yields (f a) P) : Yields (x >>= f) P := by
  intro s b t h
  obtain ⟨a, r, ha, hb⟩ := bind_eq_ok h
  exact hf a (hx s a r ha) r b t hb

lemma bind (hf : ∀ a, Yields (f a) P) : Yields (x >>= f) P :=
  bind_of (fun _ _ _ _ => trivial) (fun a (_ : True) => hf a)

lemma mapM (hf : ∀ a, Yields (f a) P) (l : List α) : Yields (l.mapM f) (fun bs => ∀ b ∈ bs, P b) := by
  induction l with
  | nil => exact pure (by simp)
  | cons a l ih =>
    rw [List.mapM_cons]
    refine bind_of (hf a) (fun b hb => bind_of ih (fun bs hbs => pure ?_))
    rw [List.forall_mem_cons]
    exact ⟨hb, hbs⟩

end Yields

/-- The property survives the computation, whether it returns or fails. -/
def Keeps (I : σ → Prop) (x : EStateM ε σ α) : Prop := ∀ s, I s → I (outcome (x s)).2

namespace Keeps

variable {I : σ → Prop} {x : EStateM ε σ α} {f : α → EStateM ε σ β}

lemma pure (a : α) : Keeps I (Pure.pure a : EStateM ε σ α) := fun _ h => h

lemma bind_of_ok (hx : Keeps I x) (hf : ∀ a s t, x s = .ok a t → Keeps I (f a)) : Keeps I (x >>= f) := by
  intro s hs
  have hmiddle := hx s hs
  change I (outcome (EStateM.bind x f s)).2
  unfold EStateM.bind
  split
  case h_1 a r heq =>
    rw [heq] at hmiddle
    exact hf a s r heq r hmiddle
  case h_2 e r heq =>
    rw [heq] at hmiddle
    exact hmiddle

lemma bind (hx : Keeps I x) (hf : ∀ a, Keeps I (f a)) : Keeps I (x >>= f) :=
  bind_of_ok hx (fun a _ _ _ => hf a)

lemma fromExcept (result : Except ε α) : Keeps I (Library.fromExcept result : EStateM ε σ α) := by
  cases result with
  | ok a => exact pure a
  | error e => exact fun _ h => h

lemma throwIf (error : Option ε) : Keeps I (throwIf error : EStateM ε σ Unit) := by
  cases error with
  | none => exact pure ()
  | some e => exact fun _ h => h

lemma runIf {p : Prop} [Decidable p] {y : EStateM ε σ Unit} (hy : Keeps I y) : Keeps I (runIf p y) := by
  unfold FallibleState.runIf
  split
  · exact hy
  · exact pure ()

lemma modify {g : σ → σ} (hg : ∀ s, I s → I (g s)) : Keeps I (modify g : EStateM ε σ PUnit) := hg

lemma mapM (hf : ∀ a, Keeps I (f a)) (l : List α) : Keeps I (l.mapM f) := by
  induction l with
  | nil => exact pure []
  | cons a l ih =>
    rw [List.mapM_cons]
    exact bind (hf a) (fun b => bind ih (fun bs => pure (b :: bs)))

end Keeps

end RackManagement.Library.FallibleState
