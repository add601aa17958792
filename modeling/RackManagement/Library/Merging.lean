import RackManagement.Library.Fallible
import RackManagement.Library.OrderedSet

/-!
# Merging values under keys

Merging fails if and only if two values of one key disagree, in whatever order they come.
-/

namespace RackManagement.Library

open List OrderedMap

variable {α β ε : Type} [LinearOrder α] (key : β → α) (agree : β → β → Bool) (conflict : β → β → ε)

def mergeValue (merged : OrderedMap α β) (value : β) : Except ε (OrderedMap α β) :=
  match merged.lookup (key value) with
  | some existing => if agree existing value then .ok merged else .error (conflict existing value)
  | none => .ok (merged.insert (key value) value)

def mergeValues (values : List β) : Except ε (OrderedMap α β) :=
  values.foldlM (mergeValue key agree conflict) empty

/-- The map holds, for each key of the values, one of them with which all others of that key agree. -/
structure Merged (values : List β) (merged : OrderedMap α β) : Prop where
  found : ∀ value ∈ values, ∃ kept, merged.lookup (key value) = some kept ∧ agree kept value = true
  origin : ∀ k kept, merged.lookup k = some kept → kept ∈ values ∧ key kept = k

variable {key agree conflict}

lemma Merged.empty : Merged key agree [] empty where
  found := by simp
  origin k kept h := by cases h

section

variable (hrefl : ∀ a, agree a a = true)

include hrefl in
lemma Merged.mergeValue {values : List β} {merged next : OrderedMap α β} {value : β}
    (h : Merged key agree values merged)
    (hnext : mergeValue key agree conflict merged value = .ok next) :
    Merged key agree (values ++ [value]) next := by
  unfold Library.mergeValue at hnext
  cases hlookup : merged.lookup (key value) with
  | some existing =>
    rw [hlookup] at hnext
    simp only at hnext
    split at hnext
    case isFalse => cases hnext
    case isTrue hagree =>
    cases hnext
    constructor
    · intro other hother
      obtain hother | hother := mem_append.mp hother
      · exact h.found other hother
      · cases mem_singleton.mp hother
        exact ⟨existing, hlookup, hagree⟩
    · intro k kept hkept
      obtain ⟨hmem, hkey⟩ := h.origin k kept hkept
      exact ⟨mem_append_left _ hmem, hkey⟩
  | none =>
    rw [hlookup] at hnext
    cases hnext
    constructor
    · intro other hother
      rw [lookup_insert]
      by_cases hkey : key other = key value
      · obtain hother | hother := mem_append.mp hother
        · obtain ⟨kept, hkept, -⟩ := h.found other hother
          rw [hkey, hlookup] at hkept
          cases hkept
        · cases mem_singleton.mp hother
          exact ⟨value, if_pos rfl, hrefl value⟩
      · rw [if_neg hkey]
        obtain hother | hother := mem_append.mp hother
        · exact h.found other hother
        · cases mem_singleton.mp hother
          exact absurd rfl hkey
    · intro k kept hkept
      rw [lookup_insert] at hkept
      by_cases hk : k = key value
      · rw [if_pos hk] at hkept
        cases hkept
        exact ⟨by simp, hk.symm⟩
      · rw [if_neg hk] at hkept
        obtain ⟨hmem, hkey⟩ := h.origin k kept hkept
        exact ⟨mem_append_left _ hmem, hkey⟩

include hrefl in
lemma Merged.foldlM {values rest : List β} {merged final : OrderedMap α β}
    (h : Merged key agree values merged)
    (hfinal : rest.foldlM (Library.mergeValue key agree conflict) merged = .ok final) :
    Merged key agree (values ++ rest) final := by
  induction rest generalizing values merged with
  | nil =>
    cases hfinal
    rwa [append_nil]
  | cons value rest ih =>
    rw [foldlM_cons] at hfinal
    obtain ⟨next, hnext, hfinal⟩ := bind_eq_ok.mp hfinal
    have hrest := ih (h.mergeValue hrefl hnext) hfinal
    rwa [append_assoc, singleton_append] at hrest

variable {merged : OrderedMap α β}

include hrefl in
lemma merged_of_mergeValues {values : List β}
    (h : mergeValues key agree conflict values = .ok merged) : Merged key agree values merged :=
  Merged.foldlM hrefl Merged.empty h

include hrefl in
lemma Merged.exists_conflict {values rest : List β} {error : ε} (h : Merged key agree values merged)
    (herror : rest.foldlM (Library.mergeValue key agree conflict) merged = .error error) :
    ∃ a ∈ values ++ rest, ∃ b ∈ values ++ rest, key a = key b ∧ agree a b = false ∧
      error = conflict a b := by
  induction rest generalizing values merged with
  | nil => cases herror
  | cons value rest ih =>
    rw [foldlM_cons] at herror
    obtain herror | ⟨next, hnext, herror⟩ := bind_eq_error herror
    · unfold Library.mergeValue at herror
      split at herror
      case h_2 => cases herror
      case h_1 existing hlookup =>
      split at herror
      case isTrue => cases herror
      case isFalse hagree =>
      cases herror
      obtain ⟨hmem, hkey⟩ := h.origin _ existing hlookup
      exact ⟨existing, mem_append_left _ hmem, value, by simp, hkey, by simpa using hagree, rfl⟩
    · have hrest := ih (h.mergeValue hrefl hnext) herror
      rwa [append_assoc, singleton_append] at hrest

end

structure Agreement (agree : β → β → Bool) : Prop where
  refl : ∀ a, agree a a = true
  symm : ∀ a b, agree a b = true → agree b a = true
  trans : ∀ a b c, agree a b = true → agree b c = true → agree a c = true

def Conflicting (key : β → α) (agree : β → β → Bool) (values : List β) : Prop :=
  ∃ a ∈ values, ∃ b ∈ values, key a = key b ∧ agree a b = false

lemma not_conflicting_of_merged (hagree : Agreement agree) {values : List β}
    (h : Merged key agree values merged) : ¬Conflicting key agree values := by
  rintro ⟨a, ha, b, hb, hkey, hdisagree⟩
  obtain ⟨kept, hkept, hkepta⟩ := h.found a ha
  obtain ⟨other, hother, hotherb⟩ := h.found b hb
  rw [← hkey, hkept] at hother
  cases hother
  rw [hagree.trans a kept b (hagree.symm kept a hkepta) hotherb] at hdisagree
  cases hdisagree

lemma exists_conflict_of_mergeValues (hagree : Agreement agree) {values : List β} {error : ε}
    (h : mergeValues key agree conflict values = .error error) :
    ∃ a ∈ values, ∃ b ∈ values, key a = key b ∧ agree a b = false ∧ error = conflict a b :=
  Merged.exists_conflict hagree.refl Merged.empty h

lemma isOk_mergeValues (hagree : Agreement agree) {values : List β} :
    (mergeValues key agree conflict values).isOk = true ↔ ¬Conflicting key agree values := by
  cases h : mergeValues key agree conflict values with
  | ok merged =>
    exact iff_of_true rfl (not_conflicting_of_merged hagree (merged_of_mergeValues hagree.refl h))
  | error error =>
    obtain ⟨a, ha, b, hb, hkey, hdisagree, -⟩ := exists_conflict_of_mergeValues hagree h
    exact iff_of_false (fun hok => by cases hok) (not_not_intro ⟨a, ha, b, hb, hkey, hdisagree⟩)

lemma Merged.key_eq {values : List β} (h : Merged key agree values merged) {entry : α × β}
    (hentry : entry ∈ merged.entries) : entry.2 ∈ values ∧ key entry.2 = entry.1 :=
  h.origin entry.1 entry.2 (mem_entries_iff.mp hentry)

lemma Merged.map_key_values {values : List β} (h : Merged key agree values merged) :
    merged.values.map key = merged.keys := by
  rw [OrderedMap.values, OrderedMap.keys, map_map]
  exact map_congr_left (fun entry hentry => (h.key_eq hentry).2)

lemma Merged.mem_keys_iff {values : List β} (h : Merged key agree values merged) {k : α} :
    k ∈ merged.keys ↔ ∃ value ∈ values, key value = k := by
  constructor
  · intro hk
    obtain ⟨entry, hentry, rfl⟩ := mem_map.mp hk
    exact ⟨entry.2, h.key_eq hentry⟩
  · rintro ⟨value, hvalue, rfl⟩
    obtain ⟨kept, hkept, -⟩ := h.found value hvalue
    rw [OrderedMap.mem_keys_iff, hkept]
    rfl

lemma Merged.forall₂_of_perm (hagree : Agreement agree) {values others : List β}
    {merged merged' : OrderedMap α β}
    (hperm : values.Perm others) (h : Merged key agree values merged)
    (h' : Merged key agree others merged') :
    List.Forall₂ (fun a b => key a = key b ∧ agree a b = true) merged.values merged'.values := by
  have hkeys : merged.keys = merged'.keys := by
    apply keys_ext
    intro k
    rw [h.mem_keys_iff, h'.mem_keys_iff]
    simp only [hperm.mem_iff]
  have hmap : merged.values.map key = merged'.values.map key := by
    rw [h.map_key_values, h'.map_key_values, hkeys]
  have hsame : List.Forall₂ (fun a b => key a = key b) merged.values merged'.values := by
    have heq : List.Forall₂ Eq (merged.values.map key) (merged'.values.map key) := by
      rw [hmap, forall₂_eq_eq_eq]
    exact forall₂_map_left_iff.mp (forall₂_map_right_iff.mp heq)
  apply forall₂_iff_zip.mpr ⟨hsame.length_eq, ?_⟩
  intro a b hab
  have hkey := (forall₂_iff_zip.mp hsame).2 hab
  have hmem := of_mem_zip hab
  obtain ⟨entry, hentry, rfl⟩ := mem_map.mp hmem.1
  obtain ⟨entry', hentry', rfl⟩ := mem_map.mp hmem.2
  -- Both are kept for one key, and the value kept on the right agrees with the one on the left.
  obtain ⟨kept, hkept, hagrees⟩ := h'.found entry.2 (hperm.mem_iff.mp (h.key_eq hentry).1)
  have hlookup : merged'.lookup (key entry.2) = some entry'.2 := by
    rw [hkey, (h'.key_eq hentry').2]
    exact mem_entries_iff.mp hentry'
  rw [hlookup] at hkept
  cases hkept
  exact ⟨hkey, hagree.symm _ _ hagrees⟩

end RackManagement.Library
