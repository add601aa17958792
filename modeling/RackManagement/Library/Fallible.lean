import Mathlib.Data.List.Forall2

/-! # Fallible computations -/

namespace RackManagement.Library

open List

variable {ε α β : Type}

def failIf (p : Prop) [Decidable p] (error : ε) : Except ε Unit := if p then .error error else .ok ()

variable {error : ε} {x : Except ε α} {f : α → Except ε β} {b c : β} {l : List α} {bs : List β}
  {a : α} {p : α → Prop}

lemma failIf_eq_ok {p : Prop} [Decidable p] {u : Unit} : failIf p error = .ok u ↔ ¬p := by
  unfold failIf
  split <;> simp_all

lemma bind_eq_ok : (x >>= f) = .ok b ↔ ∃ a, x = .ok a ∧ f a = .ok b := by
  cases x with
  | error error =>
    constructor
    · intro h
      cases h
    · rintro ⟨a, h, -⟩
      cases h
  | ok a =>
    constructor
    · intro h
      exact ⟨a, rfl, h⟩
    · rintro ⟨other, h, hf⟩
      cases h
      exact hf

lemma failIf_eq_error {p : Prop} [Decidable p] {other : ε} (h : failIf p error = .error other) :
    other = error := by
  unfold failIf at h
  split at h
  · cases h
    rfl
  · cases h

lemma bind_eq_error (h : (x >>= f) = .error error) :
    x = .error error ∨ ∃ a, x = .ok a ∧ f a = .error error := by
  cases x with
  | error other =>
    cases h
    exact .inl rfl
  | ok a => exact .inr ⟨a, rfl, h⟩

lemma foldlM_eq_error {f : β → α → Except ε β} (h : l.foldlM f b = .error error) :
    ∃ a c, f c a = .error error := by
  induction l generalizing b with
  | nil => cases h
  | cons a l ih =>
    rw [foldlM_cons] at h
    obtain h | ⟨next, -, h⟩ := bind_eq_error h
    · exact ⟨a, b, h⟩
    · exact ih h

lemma mapM_eq_ok (h : l.mapM f = .ok bs) : List.Forall₂ (fun a b => f a = .ok b) l bs := by
  induction l generalizing bs with
  | nil =>
    cases h
    exact .nil
  | cons a l ih =>
    rw [mapM_cons] at h
    obtain ⟨b, hb, h⟩ := bind_eq_ok.mp h
    obtain ⟨rest, hrest, h⟩ := bind_eq_ok.mp h
    cases h
    exact .cons hb (ih hrest)

lemma exists_of_mem_left {R : α → β → Prop} (h : List.Forall₂ R l bs) (hmem : a ∈ l) : ∃ b ∈ bs, R a b := by
  induction h with
  | nil => cases hmem
  | @cons _ b _ bs hab _ ih =>
    obtain rfl | hmem := mem_cons.mp hmem
    · exact ⟨b, mem_cons_self, hab⟩
    · obtain ⟨other, hother, hrel⟩ := ih hmem
      exact ⟨other, mem_cons_of_mem b hother, hrel⟩

lemma exists_of_mem_right {R : α → β → Prop} (h : List.Forall₂ R l bs) (hmem : b ∈ bs) : ∃ a ∈ l, R a b :=
  exists_of_mem_left h.flip hmem

lemma exists_of_mem_mapM (h : l.mapM f = .ok bs) (hmem : b ∈ bs) : ∃ a ∈ l, f a = .ok b :=
  exists_of_mem_right (R := fun a b => f a = .ok b) (mapM_eq_ok h) hmem

lemma exists_mem_of_mapM (h : l.mapM f = .ok bs) (hmem : a ∈ l) : ∃ b ∈ bs, f a = .ok b :=
  exists_of_mem_left (R := fun a b => f a = .ok b) (mapM_eq_ok h) hmem

lemma mapM_of_forall₂ (h : List.Forall₂ (fun a b => f a = .ok b) l bs) : l.mapM f = .ok bs := by
  induction h with
  | nil => rfl
  | cons hb _ ih =>
    rw [mapM_cons, hb, ih]
    rfl

lemma toOption_eq_of_forall {y : Except ε α} (h : ∀ a, x = .ok a ↔ y = .ok a) :
    x.toOption = y.toOption := by
  cases x with
  | ok a => rw [(h a).mp rfl]
  | error error =>
    cases y with
    | ok a => cases (h a).mpr rfl
    | error other => rfl

lemma isOk_iff_exists : x.isOk = true ↔ ∃ a, x = .ok a := by
  cases x with
  | ok a => exact ⟨fun _ => ⟨a, rfl⟩, fun _ => rfl⟩
  | error error =>
    constructor
    · intro h
      cases h
    · rintro ⟨a, h⟩
      cases h

lemma exists_of_any {p : α → Bool} (h : x.toOption.any p = true) : ∃ a, x = .ok a ∧ p a = true := by
  cases x with
  | ok a => exact ⟨a, rfl, h⟩
  | error error => cases h

lemma isOk_bind (hx : x.isOk = true) (hf : ∀ a, x = .ok a → (f a).isOk = true) : (x >>= f).isOk = true := by
  obtain ⟨a, ha⟩ := isOk_iff_exists.mp hx
  rw [ha]
  exact hf a ha

lemma eq_ok_of_isOk {x : Except ε Unit} (h : x.isOk = true) : x = .ok () := by
  obtain ⟨_, h⟩ := isOk_iff_exists.mp h
  exact h

lemma isOk_mapM_iff : (l.mapM f).isOk = true ↔ ∀ a ∈ l, (f a).isOk = true := by
  constructor
  · intro h a ha
    obtain ⟨bs, h⟩ := isOk_iff_exists.mp h
    obtain ⟨b, -, hb⟩ := exists_mem_of_mapM h ha
    exact isOk_iff_exists.mpr ⟨b, hb⟩
  · intro h
    induction l with
    | nil => rfl
    | cons a l ih =>
      obtain ⟨ha, hl⟩ := forall_mem_cons.mp h
      obtain ⟨b, hb⟩ := isOk_iff_exists.mp ha
      obtain ⟨bs, hbs⟩ := isOk_iff_exists.mp (ih hl)
      rw [mapM_cons, hb, hbs]
      rfl

lemma mapError_eq_ok_iff {φ : Type} {f : ε → φ} : x.mapError f = .ok a ↔ x = .ok a := by
  cases x with
  | error error =>
    constructor
    · intro h
      cases h
    · intro h
      cases h
  | ok b =>
    constructor
    · intro h
      cases h
      rfl
    · intro h
      cases h
      rfl

lemma mapError_eq_ok {φ : Type} {f : ε → φ} (h : x.mapError f = .ok a) : x = .ok a :=
  mapError_eq_ok_iff.mp h

lemma forM_eq_ok {f : α → Except ε Unit} : l.forM f = .ok () ↔ ∀ a ∈ l, f a = .ok () := by
  induction l with
  | nil => exact ⟨fun _ a ha => (nomatch ha), fun _ => rfl⟩
  | cons a l ih =>
    change (f a >>= fun _ => l.forM f) = .ok () ↔ _
    rw [bind_eq_ok, forall_mem_cons, ih]
    constructor
    · rintro ⟨_, ha, hl⟩
      exact ⟨ha, hl⟩
    · rintro ⟨ha, hl⟩
      exact ⟨(), ha, hl⟩

lemma foldlM_eq_ok_iff {γ : Type} {f : β → α → Except ε β} {g : α → List γ} {step : β → γ → Option β}
    (h : ∀ a ∈ l, ∀ b c, f b a = .ok c ↔ p a ∧ (g a).foldlM step b = some c) :
    l.foldlM f b = .ok c ↔ (∀ a ∈ l, p a) ∧ (l.flatMap g).foldlM step b = some c := by
  induction l generalizing b with
  | nil => simp [pure, Except.pure]
  | cons a l ih =>
    obtain ⟨ha, hl⟩ := forall_mem_cons.mp h
    rw [foldlM_cons, bind_eq_ok, forall_mem_cons, flatMap_cons, foldlM_append]
    constructor
    · rintro ⟨next, hnext, hrest⟩
      obtain ⟨hp, hsteps⟩ := (ha b next).mp hnext
      obtain ⟨hps, hrest⟩ := (ih hl).mp hrest
      exact ⟨⟨hp, hps⟩, Option.bind_eq_some_iff.mpr ⟨next, hsteps, hrest⟩⟩
    · rintro ⟨⟨hp, hps⟩, hsteps⟩
      obtain ⟨next, hsteps, hrest⟩ := Option.bind_eq_some_iff.mp hsteps
      exact ⟨next, (ha b next).mpr ⟨hp, hsteps⟩, (ih hl).mpr ⟨hps, hrest⟩⟩

lemma foldlM_invariant {f : β → α → Except ε β} (P : β → Prop)
    (hstep : ∀ b, ∀ a ∈ l, ∀ c, P b → f b a = .ok c → P c) (h : l.foldlM f b = .ok c) (hb : P b) : P c := by
  induction l generalizing b with
  | nil =>
    cases h
    exact hb
  | cons a l ih =>
    rw [foldlM_cons] at h
    obtain ⟨next, hnext, h⟩ := bind_eq_ok.mp h
    exact ih (fun b a ha => hstep b a (mem_cons_of_mem _ ha)) h (hstep b a mem_cons_self next hb hnext)

lemma foldlM_zipIdx_eq_ok_iff {γ : Type} {f : β → α × Nat → Except ε β} {g : α → List γ}
    {step : β → γ → Option β}
    (h : ∀ a ∈ l, ∀ i b c, f b (a, i) = .ok c ↔ p a ∧ (g a).foldlM step b = some c) :
    l.zipIdx.foldlM f b = .ok c ↔ (∀ a ∈ l, p a) ∧ (l.flatMap g).foldlM step b = some c := by
  have hmem : ∀ a ∈ l.zipIdx, a.1 ∈ l := fun a ha => fst_mem_of_mem_zipIdx ha
  have hflat : l.zipIdx.flatMap (fun a => g a.1) = l.flatMap g := by
    rw [← flatMap_map, zipIdx_map_fst]
  have hforall : (∀ a ∈ l.zipIdx, p a.1) ↔ ∀ a ∈ l, p a := by
    rw [← forall_mem_map, zipIdx_map_fst]
  rw [foldlM_eq_ok_iff (fun a ha => h a.1 (hmem a ha) a.2), hflat, hforall]

lemma forM_zipIdx_eq_ok {f : α × Nat → Except ε Unit} (h : ∀ a ∈ l, ∀ i, f (a, i) = .ok () ↔ p a) :
    l.zipIdx.forM f = .ok () ↔ ∀ a ∈ l, p a := by
  have hforall : (∀ a ∈ l.zipIdx, p a.1) ↔ ∀ a ∈ l, p a := by
    rw [← forall_mem_map, zipIdx_map_fst]
  rw [forM_eq_ok, ← hforall]
  exact forall₂_congr (fun a ha => h a.1 (fst_mem_of_mem_zipIdx ha) a.2)

end RackManagement.Library
