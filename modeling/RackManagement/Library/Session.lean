import RackManagement.Library.Interaction
import RackManagement.Library.Runs

/-!
# Calls under a lock

Calls of one program on a shared state. A call that finds the lock taken returns at once; a call
that waits may be dropped.
-/

namespace RackManagement.Library

open Option

/-- A call that held the lock: its exchanges, the request at which it was dropped, or its result. -/
structure CallRecord (Q A α : Type) where
  exchanges : List (Q × A)
  unanswered : Option Q
  result : Option α

structure WaitingCall (σ Q A α : Type) where
  exchanges : List (Q × A)
  request : Q
  resume : A → Interaction σ Q A α

/-- A state behind a lock that one call holds at a time. -/
structure Session (σ Q A α : Type) where
  state : σ
  active : Option (WaitingCall σ Q A α)
  /-- The calls that held the lock and have ended, in order. -/
  records : List (CallRecord Q A α)
  /-- The results of the calls that found the lock taken. -/
  contended : List α

/-- A call arrives, the waiting call gets its answer, or it is dropped. -/
inductive SessionEvent (E A : Type)
  | call (e : E)
  | answer (a : A)
  | drop

namespace Session

variable {σ Q A α E : Type}

/-- Goes on with the call until it waits or ends. -/
def proceed (session : Session σ Q A α) (past : List (Q × A)) : Interaction σ Q A α → Session σ Q A α
  | .done s a =>
    { session with state := s, active := none, records := session.records ++ [⟨past, none, some a⟩] }
  | .wait s q resume => { session with state := s, active := some ⟨past, q, resume⟩ }

variable (program : E → Program σ Q A α) (arrive : E → σ → Option σ) (busy : E → α)
  (allowed : σ → Q → A → Prop) [∀ s q a, Decidable (allowed s q a)]

def step (session : Session σ Q A α) : SessionEvent E A → Option (Session σ Q A α)
  | .call e => do
    let s ← arrive e session.state
    match session.active with
    | none => return session.proceed [] (program e s)
    | some _ => return { session with state := s, contended := session.contended ++ [busy e] }
  | .answer a => do
    let waiting ← session.active
    if allowed session.state waiting.request a then
      return session.proceed (waiting.exchanges ++ [(waiting.request, a)]) (waiting.resume a)
    else none
  | .drop => do
    let waiting ← session.active
    return { session with
      active := none
      records := session.records ++ [⟨waiting.exchanges, some waiting.request, none⟩] }

section Invariant

variable (I : List (CallRecord Q A α) → σ → Prop)
  (Wait : List (CallRecord Q A α) → List (Q × A) → σ → Q → Prop)

def Continues (records : List (CallRecord Q A α)) (past : List (Q × A)) (x : Interaction σ Q A α) : Prop :=
  x.Meets allowed (Wait records) (fun past s a => I (records ++ [⟨past, none, some a⟩]) s) past

/-- Between two calls the invariant holds; a call in progress waits as it should, whatever
the answer. -/
def Kept (session : Session σ Q A α) : Prop :=
  match session.active with
  | none => I session.records session.state
  | some waiting =>
    Wait session.records waiting.exchanges session.state waiting.request ∧
      ∀ a, allowed session.state waiting.request a →
        Continues allowed I Wait session.records (waiting.exchanges ++ [(waiting.request, a)])
          (waiting.resume a)

/-- The conditions on the program under which the invariant holds in every session. -/
structure KeptByCalls : Prop where
  call : ∀ records e s t, I records s → arrive e s = some t →
    Continues allowed I Wait records [] (program e t)
  contend : ∀ records past e s t q, Wait records past s q → arrive e s = some t → Wait records past t q
  drop : ∀ records past s q, Wait records past s q → I (records ++ [⟨past, some q, none⟩]) s
  later : ∀ e s t q a, arrive e s = some t → allowed t q a → allowed s q a

variable {program arrive busy allowed I Wait}

omit [∀ s q a, Decidable (allowed s q a)] in
lemma kept_proceed {session : Session σ Q A α} {past : List (Q × A)} {x : Interaction σ Q A α}
    (h : Continues allowed I Wait session.records past x) :
    Kept allowed I Wait (session.proceed past x) := by
  cases x with
  | done s a => exact h
  | wait s q resume => exact h

variable (hcalls : KeptByCalls program arrive allowed I Wait)
include hcalls

theorem kept_step {session next : Session σ Q A α}
    {event : SessionEvent E A} (h : Kept allowed I Wait session)
    (hstep : session.step program arrive busy allowed event = some next) : Kept allowed I Wait next := by
  cases event with
  | call e =>
    obtain ⟨s, hs, hnext⟩ := bind_eq_some_iff.mp hstep
    cases hactive : session.active with
    | none =>
      rw [hactive] at hnext
      cases hnext
      have hI : I session.records session.state := by simpa [Kept, hactive] using h
      exact kept_proceed (hcalls.call _ e _ s hI hs)
    | some waiting =>
      rw [hactive] at hnext
      cases hnext
      simp only [Kept, hactive] at h ⊢
      exact ⟨hcalls.contend _ _ e _ s _ h.1 hs, fun a ha => h.2 a (hcalls.later e _ s _ a hs ha)⟩
  | answer a =>
    obtain ⟨waiting, hactive, hnext⟩ := bind_eq_some_iff.mp hstep
    obtain ⟨hallowed, hnext⟩ := ite_none_right_eq_some.mp hnext
    cases hnext
    simp only [Kept, hactive] at h
    exact kept_proceed (h.2 a hallowed)
  | drop =>
    obtain ⟨waiting, hactive, hnext⟩ := bind_eq_some_iff.mp hstep
    cases hnext
    simp only [Kept, hactive] at h
    exact hcalls.drop _ _ _ _ h.1

variable {session last : Session σ Q A α} {events : List (SessionEvent E A)}

/-- The invariant holds in every session. -/
theorem kept_run (h : Kept allowed I Wait session)
    (hrun : run (step program arrive busy allowed) session events = some last) : Kept allowed I Wait last :=
  run_invariant (fun _ _ _ hs hstep => kept_step hcalls hs hstep) h hrun

end Invariant

variable {program arrive busy allowed}

lemma contended_run {P : α → Prop} (hbusy : ∀ e, P (busy e)) (h : ∀ a ∈ session.contended, P a)
    (hrun : run (step program arrive busy allowed) session events = some last) :
    ∀ a ∈ last.contended, P a := by
  refine run_invariant (fun session event next (hs : ∀ a ∈ session.contended, P a) hstep => ?_) h hrun
  have hproceed : ∀ past x, ∀ a ∈ (session.proceed past x).contended, P a := by
    intro past x
    cases x <;> exact hs
  cases event with
  | call e =>
    obtain ⟨s, -, hnext⟩ := bind_eq_some_iff.mp hstep
    cases hactive : session.active with
    | none =>
      rw [hactive] at hnext
      cases hnext
      exact hproceed _ _
    | some waiting =>
      rw [hactive] at hnext
      cases hnext
      exact List.forall_mem_append.mpr ⟨hs, by simpa using hbusy e⟩
  | answer a =>
    obtain ⟨waiting, -, hnext⟩ := bind_eq_some_iff.mp hstep
    obtain ⟨-, hnext⟩ := ite_none_right_eq_some.mp hnext
    cases hnext
    exact hproceed _ _
  | drop =>
    obtain ⟨waiting, -, hnext⟩ := bind_eq_some_iff.mp hstep
    cases hnext
    exact hs

end Session

end RackManagement.Library
