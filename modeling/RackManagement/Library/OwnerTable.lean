import RackManagement.Library.FiniteMap

/-!
# Ownership tables

A table of exclusive keys, indexed in both directions. The caller of a reservation has checked that
the keys are free.
-/

namespace RackManagement.Library

/-- Forward and reverse indexes of exclusive keys. -/
structure OwnerTable (κ ω : Type*) where
  ownerOf : FiniteMap κ ω
  keysOf : FiniteMap ω (FiniteSet κ)

namespace OwnerTable

variable {κ ω : Type*} [DecidableEq κ] [DecidableEq ω]

def empty : OwnerTable κ ω := ⟨∅, ∅⟩

variable (t : OwnerTable κ ω)

/-- Installs every key for `owner`. Without keys the table does not change. -/
def reserve (owner : ω) (keys : List κ) : OwnerTable κ ω :=
  let keys := FiniteSet.ofList keys
  if keys.isEmpty then t
  else
    { ownerOf := keys.toList.foldl (fun m key => m.insert key owner) t.ownerOf
      keysOf := t.keysOf.insert owner (((t.keysOf.lookup owner).getD FiniteSet.empty).extend keys) }

def release (owner : ω) : OwnerTable κ ω :=
  match t.keysOf.lookup owner with
  | none => t
  | some keys =>
    { ownerOf := keys.toList.foldl (fun m key => m.erase key) t.ownerOf
      keysOf := t.keysOf.erase owner }

def Holds (owner : ω) (key : κ) : Prop :=
  ∃ keys, t.keysOf.lookup owner = some keys ∧ key ∈ keys

def IsOwner (owner : ω) : Prop := (t.keysOf.lookup owner).isSome

variable (t : OwnerTable κ ω) (owner other : ω) (keys : List κ)

lemma reserve_nil : t.reserve owner [] = t := rfl

lemma reserve_of_ne_nil {keys : List κ} (h : keys ≠ []) : t.reserve owner keys =
      { ownerOf := (FiniteSet.ofList keys).toList.foldl (fun m key => m.insert key owner) t.ownerOf
        keysOf := t.keysOf.insert owner
          (((t.keysOf.lookup owner).getD FiniteSet.empty).extend (FiniteSet.ofList keys)) } := by
  have he : ¬(FiniteSet.ofList keys).isEmpty = true := by
    rw [FiniteSet.isEmpty_iff]
    simpa [List.eq_nil_iff_forall_not_mem] using h
  exact if_neg he

lemma ownerOf_reserve (key : κ) : (t.reserve owner keys).ownerOf.lookup key =
      if key ∈ keys then some owner else t.ownerOf.lookup key := by
  rcases eq_or_ne keys [] with rfl | hn
  · simp [reserve_nil]
  · have hm : key ∈ (FiniteSet.ofList keys).toList ↔ key ∈ keys := FiniteSet.mem_ofList keys key
    simp only [reserve_of_ne_nil t owner hn, FiniteMap.lookup_foldl_insert, hm]

lemma keysOf_reserve_ne {owner other : ω} (h : other ≠ owner) :
    (t.reserve owner keys).keysOf.lookup other = t.keysOf.lookup other := by
  rcases eq_or_ne keys [] with rfl | hn
  · rfl
  · rw [reserve_of_ne_nil t owner hn]
    exact AList.lookup_insert_ne h

lemma holds_reserve (key : κ) :
    (t.reserve owner keys).Holds other key ↔
      t.Holds other key ∨ (other = owner ∧ key ∈ keys) := by
  unfold Holds
  by_cases ho : other = owner
  · subst ho
    rcases eq_or_ne keys [] with rfl | hn
    · simp [reserve_nil]
    · simp only [reserve_of_ne_nil t other hn, AList.lookup_insert, Option.some.injEq,
        exists_eq_left', FiniteSet.mem_extend, FiniteSet.mem_ofList, true_and]
      cases t.keysOf.lookup other <;> simp
  · rw [keysOf_reserve_ne t keys ho]
    simp [ho]

lemma isOwner_reserve :
    (t.reserve owner keys).IsOwner other ↔ t.IsOwner other ∨ (other = owner ∧ keys ≠ []) := by
  unfold IsOwner
  by_cases ho : other = owner
  · subst ho
    rcases eq_or_ne keys [] with rfl | hn
    · simp [reserve_nil]
    · simp [reserve_of_ne_nil t other hn, hn]
  · rw [keysOf_reserve_ne t keys ho]
    simp [ho]

lemma keysOf_release : (t.release owner).keysOf.lookup other =
      if other = owner then none else t.keysOf.lookup other := by
  unfold release
  cases h : t.keysOf.lookup owner with
  | none =>
    by_cases ho : other = owner
    · subst ho
      simp [h]
    · simp [ho]
  | some keys => exact FiniteMap.lookup_erase_eq_ite _ _ _

lemma holds_release (key : κ) :
    (t.release owner).Holds other key ↔ other ≠ owner ∧ t.Holds other key := by
  unfold Holds
  rw [keysOf_release]
  by_cases ho : other = owner <;> simp [ho]

lemma isOwner_release : (t.release owner).IsOwner other ↔ other ≠ owner ∧ t.IsOwner other := by
  unfold IsOwner
  rw [keysOf_release]
  by_cases ho : other = owner <;> simp [ho]

/-- The two indexes are inverse to each other and no owner has an empty entry. -/
structure Coherent (t : OwnerTable κ ω) : Prop where
  inverse : ∀ key owner, t.ownerOf.lookup key = some owner ↔ t.Holds owner key
  nonempty : ∀ owner keys, t.keysOf.lookup owner = some keys → ∃ key, key ∈ keys

namespace Coherent

lemma empty : Coherent (OwnerTable.empty : OwnerTable κ ω) where
  inverse := by simp [OwnerTable.empty, Holds]
  nonempty := by simp [OwnerTable.empty]

variable {t : OwnerTable κ ω}

variable (h : t.Coherent)
include h

lemma isOwner_of_lookup {key : κ} {owner : ω}
    (hk : t.ownerOf.lookup key = some owner) : t.IsOwner owner := by
  obtain ⟨keys, hkeys, _⟩ := (h.inverse key owner).mp hk
  simp [IsOwner, hkeys]

/-- A reservation of keys that no other owner holds keeps the table coherent. -/
theorem reserve {owner : ω} {keys : List κ}
    (hfree : ∀ key ∈ keys, ∀ other, t.ownerOf.lookup key = some other → other = owner) :
    (t.reserve owner keys).Coherent where
  inverse := by
    intro key other
    rw [ownerOf_reserve, holds_reserve, ← h.inverse]
    by_cases hk : key ∈ keys
    · rw [if_pos hk, Option.some.injEq]
      constructor
      · rintro rfl
        exact .inr ⟨rfl, hk⟩
      · rintro (hl | ⟨rfl, _⟩)
        · exact (hfree key hk other hl).symm
        · rfl
    · simp [hk]
  nonempty := by
    intro other held hl
    by_cases ho : other = owner
    · subst ho
      rcases eq_or_ne keys [] with rfl | hn
      · exact h.nonempty other held hl
      · rw [reserve_of_ne_nil t other hn, AList.lookup_insert, Option.some.injEq] at hl
        obtain ⟨key, hkey⟩ := List.exists_mem_of_ne_nil keys hn
        exact ⟨key, hl ▸ by simp [hkey]⟩
    · rw [keysOf_reserve_ne t keys ho] at hl
      exact h.nonempty other held hl

lemma ownerOf_release (owner other : ω) (key : κ) : (t.release owner).ownerOf.lookup key = some other ↔
      other ≠ owner ∧ t.ownerOf.lookup key = some other := by
  unfold release
  cases hl : t.keysOf.lookup owner with
  | none =>
    constructor
    · intro hk
      refine ⟨?_, hk⟩
      rintro rfl
      have hown := h.isOwner_of_lookup hk
      simp [IsOwner, hl] at hown
    · exact fun hk => hk.2
  | some keys =>
    rw [FiniteMap.lookup_foldl_erase]
    have hmem : key ∈ keys.toList ↔ t.ownerOf.lookup key = some owner := by
      rw [h.inverse]
      simp [Holds, hl, FiniteSet.mem_def]
    by_cases hk : t.ownerOf.lookup key = some owner
    · rw [if_pos (hmem.mpr hk), hk, Option.some.injEq]
      constructor
      · intro hn
        cases hn
      · rintro ⟨hne, he⟩
        exact absurd he.symm hne
    · rw [if_neg (fun hm => hk (hmem.mp hm))]
      constructor
      · intro he
        exact ⟨fun hoo => hk (hoo ▸ he), he⟩
      · exact fun he => he.2

theorem release (owner : ω) : (t.release owner).Coherent where
  inverse := by
    intro key other
    rw [h.ownerOf_release, holds_release, h.inverse]
  nonempty := by
    intro other keys hl
    rw [keysOf_release] at hl
    split at hl
    · cases hl
    · exact h.nonempty other keys hl

end Coherent

end OwnerTable

end RackManagement.Library
