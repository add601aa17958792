import RackManagement.Library.Interaction

/-!
# Programs that wait and may fail

Computations over a state that send requests and may fail. A triple says what holds at every
request, at a failure and at a return.
-/

namespace RackManagement.Library

abbrev FallibleProgram (σ Q A ε α : Type) := ExceptT ε (Program σ Q A) α

namespace FallibleProgram

variable {σ Q A ε α β : Type}

def send (q : Q) : FallibleProgram σ Q A ε A := ExceptT.lift (Program.ask q (fun answer s => (answer, s)))

def read : FallibleProgram σ Q A ε σ := ExceptT.lift (Program.transact (fun s => (s, s)))

def update (f : σ → σ) : FallibleProgram σ Q A ε Unit :=
  ExceptT.lift (Program.transact (fun s => ((), f s)))

def mapError {φ : Type} (f : ε → φ) (x : FallibleProgram σ Q A ε α) : FallibleProgram σ Q A φ α :=
  ExceptT.adapt f x

/-- What holds of the answers, at a request and at a failure. -/
structure Contract (σ Q A ε : Type) where
  allowed : σ → Q → A → Prop
  Wait : List (Q × A) → σ → Q → Prop
  Fails : ε → List (Q × A) → σ → Prop

def Ends (contract : Contract σ Q A ε) (Returns : α → List (Q × A) → σ → Prop) (past : List (Q × A))
    (s : σ) :
    Except ε α → Prop
  | .ok a => Returns a past s
  | .error e => contract.Fails e past s

def Triple (contract : Contract σ Q A ε) (P : List (Q × A) → σ → Prop) (x : FallibleProgram σ Q A ε α)
    (R : α → List (Q × A) → σ → Prop) : Prop :=
  ∀ past s, P past s → (x.run s).Meets contract.allowed contract.Wait (Ends contract R) past

namespace Triple

variable {contract : Contract σ Q A ε} {P P' : List (Q × A) → σ → Prop} {R R' : α → List (Q × A) → σ → Prop}
  {T : β → List (Q × A) → σ → Prop} {x : FallibleProgram σ Q A ε α}

lemma pure {a : α} (h : ∀ past s, P past s → R a past s) : Triple contract P (Pure.pure a) R := h

lemma throw {e : ε} (h : ∀ past s, P past s → contract.Fails e past s) :
    Triple contract P (MonadExcept.throw e : FallibleProgram σ Q A ε α) R := h

lemma read {R : σ → List (Q × A) → σ → Prop} (h : ∀ past s, P past s → R s past s) :
    Triple contract P FallibleProgram.read R := h

lemma update {f : σ → σ} {R : Unit → List (Q × A) → σ → Prop} (h : ∀ past s, P past s → R () past (f s)) :
    Triple contract P (FallibleProgram.update f) R := h

lemma send {q : Q} {R : A → List (Q × A) → σ → Prop} (hwait : ∀ past s, P past s → contract.Wait past s q)
    (h : ∀ past s answer, P past s → contract.allowed s q answer → R answer (past ++ [(q, answer)]) s) :
    Triple contract P (FallibleProgram.send q) R :=
  fun past s hP => ⟨hwait past s hP, fun answer hallowed => h past s answer hP hallowed⟩

lemma bind {f : α → FallibleProgram σ Q A ε β} (hx : Triple contract P x R)
    (hf : ∀ a, Triple contract (R a) (f a) T) : Triple contract P (x >>= f) T := by
  intro past s hP
  apply Interaction.Meets.bind
  apply (hx past s hP).mono
  · exact fun _ _ _ hwait => hwait
  · intro past s result hends
    cases result with
    | ok a => exact hf a past s hends
    | error e => exact hends

lemma mono (h : Triple contract P x R) (hpre : ∀ past s, P' past s → P past s)
    (hpost : ∀ a past s, R a past s → R' a past s) : Triple contract P' x R' := by
  intro past s hP
  apply (h past s (hpre past s hP)).mono
  · exact fun _ _ _ hwait => hwait
  · intro past s result hends
    cases result with
    | ok a => exact hpost a past s hends
    | error e => exact hends

lemma pre (h : Triple contract P x R) (hpre : ∀ past s, P' past s → P past s) : Triple contract P' x R :=
  h.mono hpre (fun _ _ _ hR => hR)

lemma post (h : Triple contract P x R) (hpost : ∀ a past s, R a past s → R' a past s) :
    Triple contract P x R' :=
  h.mono (fun _ _ hP => hP) hpost

lemma of_fact {fact : Prop} (h : fact → Triple contract P x R) (hfact : ∀ past s, P past s → fact) :
    Triple contract P x R :=
  fun past s hP => h (hfact past s hP) past s hP

lemma mapError {φ : Type} {f : ε → φ} {contract : Contract σ Q A φ}
    (h : Triple ⟨contract.allowed, contract.Wait, fun e => contract.Fails (f e)⟩ P x R) :
    Triple contract P (FallibleProgram.mapError f x) R := by
  intro past s hP
  apply Interaction.Meets.bind
  apply (h past s hP).mono
  · exact fun _ _ _ hwait => hwait
  · intro past s result hends
    cases result with
    | ok a => exact hends
    | error e => exact hends

lemma forM {γ : Type} {f : γ → FallibleProgram σ Q A ε PUnit} {l : List γ}
    {I : List γ → List (Q × A) → σ → Prop}
    (h : ∀ finished c later, l = finished ++ c :: later →
      Triple contract (I finished) (f c) (fun _ => I (finished ++ [c]))) :
    Triple contract (I []) (l.forM f) (fun _ => I l) := by
  have hfrom :
      ∀ finished later, l = finished ++ later →
        Triple contract (I finished) (later.forM f) (fun _ => I l) := by
    intro finished later hl
    induction later generalizing finished with
    | nil =>
      rw [List.append_nil] at hl
      rw [hl]
      exact pure (fun _ _ hI => hI)
    | cons c later ih =>
      have hnext : l = (finished ++ [c]) ++ later := by rw [hl, List.append_assoc, List.singleton_append]
      exact (h finished c later hl).bind (fun _ => ih _ hnext)
  exact hfrom [] l rfl

end Triple

end FallibleProgram

end RackManagement.Library
