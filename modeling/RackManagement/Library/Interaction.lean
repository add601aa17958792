import Mathlib.Data.List.Basic

/-!
# Computations that wait for answers

A computation that is dropped at a request leaves the state it has there. `Meets` says what holds at
every request and at the end, for every answer.
-/

namespace RackManagement.Library

open List

/-- A program that has ended, or that waits for the answer to a request. -/
inductive Interaction (σ Q A α : Type)
  | done (s : σ) (a : α)
  | wait (s : σ) (q : Q) (resume : A → Interaction σ Q A α)

namespace Interaction

variable {σ Q A α β : Type}

def bind : Interaction σ Q A α → (α → σ → Interaction σ Q A β) → Interaction σ Q A β
  | done s a, f => f a s
  | wait s q resume, f => wait s q (fun answer => (resume answer).bind f)

section Meets

variable (allowed : σ → Q → A → Prop) (Wait : List (Q × A) → σ → Q → Prop)
  (Post : List (Q × A) → σ → α → Prop)

/-- Every request meets `Wait` and every end meets `Post`, after the exchanges `past`. -/
def Meets : List (Q × A) → Interaction σ Q A α → Prop
  | past, done s a => Post past s a
  | past, wait s q resume =>
    Wait past s q ∧ ∀ answer, allowed s q answer → Meets (past ++ [(q, answer)]) (resume answer)

variable {allowed Wait Post}

variable {x : Interaction σ Q A α} {past : List (Q × A)}

lemma Meets.bind {Post : List (Q × A) → σ → β → Prop} {f : α → σ → Interaction σ Q A β}
        (h : Meets allowed Wait (fun past s a => Meets allowed Wait Post past (f a s)) past x) :
    Meets allowed Wait Post past (x.bind f) := by
  induction x generalizing past with
  | done s a => exact h
  | wait s q resume ih => exact ⟨h.1, fun answer hallowed => ih answer (h.2 answer hallowed)⟩

lemma Meets.mono {Wait' : List (Q × A) → σ → Q → Prop} {Post' : List (Q × A) → σ → α → Prop}
    (h : Meets allowed Wait Post past x) (hwait : ∀ past s q, Wait past s q → Wait' past s q)
    (hpost : ∀ past s a, Post past s a → Post' past s a) : Meets allowed Wait' Post' past x := by
  induction x generalizing past with
  | done s a => exact hpost past s a h
  | wait s q resume ih =>
    exact ⟨hwait past s q h.1, fun answer hallowed => ih answer (h.2 answer hallowed)⟩

lemma Meets.requests {K : Q → Prop}
    (h : Meets allowed Wait Post past x) (hK : ∀ past s q, Wait past s q → K q)
    (hpast : ∀ exchange ∈ past, K exchange.1) :
    Meets allowed (fun past s q => Wait past s q ∧ ∀ exchange ∈ past, K exchange.1)
      (fun past s a => Post past s a ∧ ∀ exchange ∈ past, K exchange.1) past x := by
  induction x generalizing past with
  | done s a => exact ⟨h, hpast⟩
  | wait s q resume ih =>
    refine ⟨⟨h.1, hpast⟩, fun answer hallowed => ih answer (h.2 answer hallowed) ?_⟩
    intro exchange hmem
    obtain hmem | hmem := mem_append.mp hmem
    · exact hpast exchange hmem
    · rw [mem_singleton.mp hmem]
      exact hK past s q h.1

end Meets

section Historic

lemma concat_eq_append_cons {γ : Type} {past earlier later : List γ} {last c : γ}
    (h : past ++ [last] = earlier ++ c :: later) :
    (later = [] ∧ past = earlier ∧ last = c) ∨ ∃ rest, later = rest ++ [last] ∧
      past = earlier ++ c :: rest := by
  obtain rfl | ⟨rest, final, rfl⟩ := eq_nil_or_concat' later
  · obtain ⟨hpast, hlast⟩ := append_inj' h rfl
    exact .inl ⟨rfl, hpast, (cons.inj hlast).1⟩
  · have h : past ++ [last] = (earlier ++ c :: rest) ++ [final] := by simpa using h
    obtain ⟨hpast, hlast⟩ := append_inj' h rfl
    exact .inr ⟨rest, by rw [(cons.inj hlast).1], hpast⟩

/-- Every exchange was justified by those before it. -/
def Historic (W : List (Q × A) → Q → Prop) (past : List (Q × A)) : Prop :=
  ∀ earlier exchange later, past = earlier ++ exchange :: later → W earlier exchange.1

variable {W : List (Q × A) → Q → Prop}

lemma historic_nil : Historic W ([] : List (Q × A)) := by
  intro earlier exchange later h
  cases append_ne_nil_of_right_ne_nil earlier (cons_ne_nil exchange later) h.symm

variable {past : List (Q × A)}

lemma Historic.concat (h : Historic W past) {q : Q} (hq : W past q) (answer : A) :
    Historic W (past ++ [(q, answer)]) := by
  intro earlier exchange later heq
  obtain ⟨-, rfl, rfl⟩ | ⟨rest, -, hpast⟩ := concat_eq_append_cons heq
  · exact hq
  · exact h earlier exchange rest hpast

lemma Historic.left {later : List (Q × A)} (h : Historic W (past ++ later)) : Historic W past := by
  intro earlier exchange rest hpast
  apply h earlier exchange (rest ++ later)
  rw [hpast, append_assoc, cons_append]

variable {Post : List (Q × A) → σ → α → Prop} {allowed : σ → Q → A → Prop} {x : Interaction σ Q A α}

lemma Meets.historic
    (h : Meets allowed (fun past _ q => W past q) Post past x) (hpast : Historic W past) :
    Meets allowed (fun past _ q => W past q) (fun past s a => Post past s a ∧ Historic W past) past x := by
  induction x generalizing past with
  | done s a => exact ⟨h, hpast⟩
  | wait s q resume ih =>
    exact ⟨h.1, fun answer hallowed => ih answer (h.2 answer hallowed) (hpast.concat h.1 answer)⟩

end Historic

section Play

variable (env : List (Q × A) → Q → A)

/-- The run in which the answers are given by the exchanges so far and the request. -/
def play : List (Q × A) → Interaction σ Q A α → List (Q × A) × σ × α
  | past, done s a => (past, s, a)
  | past, wait _ q resume => play (past ++ [(q, env past q)]) (resume (env past q))

variable {env}

lemma play_bind (x : Interaction σ Q A α) (f : α → σ → Interaction σ Q A β) (past : List (Q × A)) :
    play env past (x.bind f) =
      play env (play env past x).1 (f (play env past x).2.2 (play env past x).2.1) := by
  induction x generalizing past with
  | done s a => rfl
  | wait s q resume ih => exact ih _ _

lemma prefix_play (x : Interaction σ Q A α) (past : List (Q × A)) : past <+: (play env past x).1 := by
  induction x generalizing past with
  | done s a => exact prefix_rfl
  | wait s q resume ih => exact (prefix_append past _).trans (ih _ _)

lemma Meets.play {Wait : List (Q × A) → σ → Q → Prop}
    {past : List (Q × A)} (h : Meets allowed Wait Post past x)
    (henv : ∀ s past q, allowed s q (env past q)) :
    Post (play env past x).1 (play env past x).2.1 (play env past x).2.2 := by
  induction x generalizing past with
  | done s a => exact h
  | wait s q resume ih => exact ih _ (h.2 _ (henv s past q))

end Play

end Interaction

def Program (σ Q A α : Type) := σ → Interaction σ Q A α

namespace Program

variable {σ Q A α β : Type}

instance : Monad (Program σ Q A) where
  pure a := fun s => .done s a
  bind x f := fun s => (x s).bind (fun a t => f a t)

/-- Changes the state and returns a value, without waiting. -/
def transact (f : σ → α × σ) : Program σ Q A α := fun s => .done (f s).2 (f s).1

/-- Sends a request; the answer may change the state. -/
def ask (q : Q) (f : A → σ → α × σ) : Program σ Q A α :=
  fun s => .wait s q (fun answer => .done (f answer s).2 (f answer s).1)

lemma bind_apply (x : Program σ Q A α) (f : α → Program σ Q A β) (s : σ) :
    (x >>= f) s = (x s).bind (fun a t => f a t) := rfl

end Program

end RackManagement.Library
