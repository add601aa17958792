import Mathlib.Data.List.Induction

/-!
# Runs of a partial step function

Properties of runs from step lemmas.
-/

namespace RackManagement.Library

open List

variable {σ α : Type*} (step : σ → α → Option σ)

/-- The state after a finite sequence of operations. -/
def run (s : σ) (ops : List α) : Option σ := ops.foldlM step s

@[simp] lemma run_nil (s : σ) : run step s [] = some s := rfl

lemma run_cons (s : σ) (a : α) (ops : List α) :
    run step s (a :: ops) = (step s a).bind (fun t => run step t ops) := rfl

lemma run_append (s : σ) (ops rest : List α) :
    run step s (ops ++ rest) = (run step s ops).bind (fun t => run step t rest) := foldlM_append

variable {step} {ops : List α} {I : σ → Prop}

theorem run_invariant_of_mem {s t : σ}
    (hstep : ∀ s a t, a ∈ ops → I s → step s a = some t → I t) (hs : I s)
    (h : run step s ops = some t) : I t := by
  induction ops generalizing s with
  | nil =>
    rw [run_nil, Option.some.injEq] at h
    exact h ▸ hs
  | cons a ops ih =>
    rw [run_cons] at h
    obtain ⟨u, hu, ht⟩ := Option.bind_eq_some_iff.mp h
    have hrest : ∀ s b t, b ∈ ops → I s → step s b = some t → I t :=
      fun s b t hb => hstep s b t (mem_cons_of_mem a hb)
    exact ih hrest (hstep s a u mem_cons_self hs hu) ht

theorem run_invariant (hstep : ∀ s a t, I s → step s a = some t → I t)
    {s t : σ} (hs : I s) (h : run step s ops = some t) : I t :=
  run_invariant_of_mem (fun s a t _ => hstep s a t) hs h

variable (step)

/-- Every step of the run satisfies `P`. -/
def Along (P : σ → α → σ → Prop) : σ → List α → Prop
  | _, [] => True
  | s, a :: ops => ∀ t, step s a = some t → P s a t ∧ Along P t ops

instance Along.decidable (P : σ → α → σ → Prop) [∀ s a t, Decidable (P s a t)] :
    ∀ s ops, Decidable (Along step P s ops)
  | _, [] => .isTrue trivial
  | s, a :: ops =>
    match h : step s a with
    | none => .isTrue (fun t ht => by simp [h] at ht)
    | some t =>
      have := Along.decidable P t ops
      decidable_of_iff (P s a t ∧ Along step P t ops)
        ⟨fun hrest u hu => by
          cases h.symm.trans hu
          exact hrest,
        fun hall => hall t h⟩

variable {step} {P : σ → α → σ → Prop} {s : σ}

lemma Along.left {ops rest : List α} (h : Along step P s (ops ++ rest)) : Along step P s ops := by
  induction ops generalizing s with
  | nil => trivial
  | cons a ops ih => exact fun t ht => ⟨(h t ht).1, ih (h t ht).2⟩

lemma Along.last {s t u : σ} {a : α} (h : Along step P s (ops ++ [a]))
    (ht : run step s ops = some t) (hu : step t a = some u) : P t a u := by
  induction ops generalizing s with
  | nil =>
    cases ht
    exact (h u hu).1
  | cons b ops ih =>
    rw [run_cons] at ht
    obtain ⟨v, hv, hrest⟩ := Option.bind_eq_some_iff.mp ht
    exact ih (h v hv).2 hrest

/-- A property kept by every step that meets a condition holds after every run all of
whose steps meet it. -/
theorem run_invariant_along (hstep : ∀ s a t, I s → P s a t → step s a = some t → I t)
    {s t : σ} (hs : I s) (hP : Along step P s ops) (h : run step s ops = some t) : I t := by
  induction ops generalizing s with
  | nil =>
    rw [run_nil, Option.some.injEq] at h
    exact h ▸ hs
  | cons a ops ih =>
    rw [run_cons] at h
    obtain ⟨u, hu, ht⟩ := Option.bind_eq_some_iff.mp h
    obtain ⟨hp, hrest⟩ := hP u hu
    exact ih (hstep s a u hs hp hu) hrest ht

variable {P Q : σ → α → σ → Prop}

/-- Under such an invariant every step of the run satisfies what the two say about it. -/
theorem along_of_invariant_along (hstep : ∀ s a t, I s → P s a t → step s a = some t → I t)
    (hQ : ∀ s a t, I s → P s a t → step s a = some t → Q s a t)
    (hs : I s) (hP : Along step P s ops) : Along step Q s ops := by
  induction ops generalizing s with
  | nil => trivial
  | cons a ops ih =>
    intro t ht
    obtain ⟨hp, hrest⟩ := hP t ht
    exact ⟨hQ s a t hs hp ht, ih (hstep s a t hs hp ht) hrest⟩

/-- What an invariant of the history says about the steps of a run. -/
theorem along_of_history_invariant {F : List α → Prop} (hF : ∀ past ops, F (past ++ ops) → F past)
    {I : List α → σ → Prop}
    (hstep : ∀ past s a t, F (past ++ [a]) → I past s → step s a = some t → I (past ++ [a]) t)
    (hQ : ∀ past s a t, F (past ++ [a]) → I past s → P s a t → step s a = some t → Q s a t)
    {past ops : List α} (hs : I past s) (hops : F (past ++ ops)) (hP : Along step P s ops) :
    Along step Q s ops := by
  induction ops generalizing s past with
  | nil => trivial
  | cons a ops ih =>
    intro t ht
    obtain ⟨hp, hrest⟩ := hP t ht
    rw [append_cons] at hops
    have ha := hF _ _ hops
    exact ⟨hQ past s a t ha hs hp ht, ih (hstep past s a t ha hs ht) hops hrest⟩

section Total

variable (step : σ → α → σ)

/-- Every operation of a run satisfies `P` in the state in which it is executed. -/
def Throughout (P : σ → α → Prop) : σ → List α → Prop
  | _, [] => True
  | s, a :: ops => P s a ∧ Throughout P (step s a) ops

variable {step}

lemma throughout_snoc {P : σ → α → Prop} {a : α} :
    Throughout step P s (ops ++ [a]) ↔ Throughout step P s ops ∧ P (ops.foldl step s) a := by
  induction ops generalizing s with
  | nil => simp [Throughout]
  | cons b ops ih => simp [Throughout, ih, and_assoc]

theorem foldl_invariant_throughout {P : σ → α → Prop} (hstep : ∀ s a, I s → P s a → I (step s a))
    (hs : I s) (hP : Throughout step P s ops) : I (ops.foldl step s) := by
  induction ops generalizing s with
  | nil => exact hs
  | cons a ops ih => exact ih (hstep s a hs hP.1) hP.2

/-- What is present after a run was added by one of its operations and ended by none of the
later ones. -/
theorem present_iff_added {I Present : σ → Prop} {Adds Ends : σ → α → Prop} (hI : ∀ s a, I s → I (step s a))
    (hstep : ∀ s a, I s → (Present (step s a) ↔ Adds s a ∨ (Present s ∧ ¬Ends s a)))
    (hs : I s) (habsent : ¬Present s) (ops : List α) :
    Present (ops.foldl step s) ↔ ∃ before a rest, ops = before ++ a :: rest ∧ Adds (before.foldl step s) a ∧
      Throughout step (fun t b => ¬Ends t b) ((before ++ [a]).foldl step s) rest := by
  have hreached : ∀ ops : List α, I (ops.foldl step s) := by
    intro ops
    induction ops using reverseRecOn with
    | nil => exact hs
    | append_singleton ops a ih =>
      rw [foldl_append]
      exact hI _ a ih
  induction ops using reverseRecOn with
  | nil =>
    refine ⟨fun h => absurd h habsent, ?_⟩
    rintro ⟨before, a, rest, hops, _⟩
    simp at hops
  | append_singleton ops b ih =>
    rw [foldl_append, foldl_cons, foldl_nil, hstep _ b (hreached ops)]
    constructor
    · rintro (hadds | ⟨hpresent, hnot⟩)
      · exact ⟨ops, b, [], rfl, hadds, trivial⟩
      · obtain ⟨before, a, rest, rfl, hadds, hkept⟩ := ih.mp hpresent
        refine ⟨before, a, rest ++ [b], by simp, hadds, throughout_snoc.mpr ⟨hkept, ?_⟩⟩
        rw [← foldl_append, append_assoc, singleton_append]
        exact hnot
    · rintro ⟨before, a, rest, hops, hadds, hkept⟩
      rcases eq_nil_or_concat rest with rfl | ⟨rest', c, rfl⟩
      · obtain ⟨rfl, hb⟩ := append_inj' hops rfl
        cases hb
        exact .inl hadds
      · rw [concat_eq_append] at hops hkept
        have hops' : ops ++ [b] = (before ++ a :: rest') ++ [c] := by simpa using hops
        obtain ⟨rfl, hb⟩ := append_inj' hops' rfl
        cases hb
        obtain ⟨hkept, hnot⟩ := throughout_snoc.mp hkept
        refine .inr ⟨ih.mpr ⟨before, a, rest', rfl, hadds, hkept⟩, ?_⟩
        rw [← foldl_append, append_assoc, singleton_append] at hnot
        exact hnot

end Total

end RackManagement.Library
