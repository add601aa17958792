import Mathlib.Data.List.AList
import Mathlib.Data.List.Dedup

/-!
# Finite maps and finite sets with an iteration order

Maps are Mathlib's association lists without duplicate keys, and sets are lists without duplicates.
-/

namespace RackManagement.Library

open List

/-- A finite map. Iteration follows the order of the entries. -/
abbrev FiniteMap (α β : Type*) := AList (fun _ : α => β)

namespace FiniteMap

variable {α β γ : Type*} (m : FiniteMap α β)

def size : Nat := m.keys.length

def isEmpty : Bool := m.entries.isEmpty

def values : List β := m.entries.map Sigma.snd

def mapValues (f : β → γ) (m : FiniteMap α β) : FiniteMap α γ where
  entries := m.entries.map (fun e => ⟨e.1, f e.2⟩)
  nodupKeys := by
    rw [List.NodupKeys, keys, map_map]
    exact m.nodupKeys

def filterKeys (p : α → β → Bool) (m : FiniteMap α β) : List α :=
  (m.entries.filter (fun e => p e.1 e.2)).map Sigma.fst

lemma size_mapValues (f : β → γ) (m : FiniteMap α β) : size (m.mapValues f) = size m := by
  simp [size, mapValues, AList.keys, keys]

variable [DecidableEq α]

lemma lookup_insert_eq_ite (k a : α) (b : β) :
    (m.insert k b).lookup a = if a = k then some b else m.lookup a := by
  by_cases h : a = k
  · subst h
    simp
  · rw [AList.lookup_insert_ne h, if_neg h]

lemma lookup_erase_eq_ite (k a : α) :
    (m.erase k).lookup a = if a = k then none else m.lookup a := by
  by_cases h : a = k
  · subst h
    simp
  · rw [AList.lookup_erase_ne h, if_neg h]

variable {m : FiniteMap α β} {k : α} {b : β}

lemma ne_of_lookup {other : α} (h : m.lookup k = some b) (hfree : m.lookup other = none) : k ≠ other := by
  rintro rfl
  cases hfree.symm.trans h

lemma lookup_insert_eq_some {a : α} {c : β} (h : (m.insert k b).lookup a = some c) :
    (a = k ∧ c = b) ∨ (a ≠ k ∧ m.lookup a = some c) := by
  rw [lookup_insert_eq_ite] at h
  split at h
  · rename_i he
    exact .inl ⟨he, (Option.some.inj h).symm⟩
  · rename_i hne
    exact .inr ⟨hne, h⟩

lemma forall_insert {P : α → β → Prop} (h : ∀ a c, m.lookup a = some c → P a c) (hnew : P k b)
    (a : α) (c : β)
    (hc : (m.insert k b).lookup a = some c) : P a c := by
  rcases lookup_insert_eq_some hc with ⟨rfl, rfl⟩ | ⟨_, hold⟩
  · exact hnew
  · exact h a c hold

lemma pairwise_insert {R : β → β → Prop} (hsymm : ∀ c d, R c d → R d c)
    (h : ∀ a a' c c', m.lookup a = some c → m.lookup a' = some c' → a ≠ a' → R c c')
    (hnew : ∀ a c, m.lookup a = some c → R b c) (a a' : α) (c c' : β)
    (hc : (m.insert k b).lookup a = some c) (hc' : (m.insert k b).lookup a' = some c') (hne : a ≠ a') :
    R c c' := by
  rcases lookup_insert_eq_some hc with ⟨rfl, rfl⟩ | ⟨_, hold⟩
  · rcases lookup_insert_eq_some hc' with ⟨rfl, _⟩ | ⟨_, hold'⟩
    · exact absurd rfl hne
    · exact hnew a' c' hold'
  · rcases lookup_insert_eq_some hc' with ⟨rfl, rfl⟩ | ⟨_, hold'⟩
    · exact hsymm _ _ (hnew a c hold)
    · exact h a a' c c' hold hold' hne

lemma lookup_erase_eq_some {a : α} {c : β} (h : (m.erase k).lookup a = some c) :
    a ≠ k ∧ m.lookup a = some c := by
  rw [lookup_erase_eq_ite] at h
  split at h
  · cases h
  · rename_i hne
    exact ⟨hne, h⟩

lemma insert_erase (m : FiniteMap α β) (k : α) (b : β) : (m.erase k).insert k b = m.insert k b := by
  apply AList.ext
  change (⟨k, b⟩ : (_ : α) × β) :: kerase k (kerase k m.entries) = ⟨k, b⟩ :: kerase k m.entries
  rw [kerase_of_notMem_keys (notMem_keys_kerase k m.nodupKeys)]

lemma erase_of_lookup_none (m : FiniteMap α β) (k : α) (h : m.lookup k = none) : m.erase k = m := by
  apply AList.ext
  exact kerase_of_notMem_keys (fun hmem => AList.lookup_eq_none.mp h hmem)

lemma lookup_foldl_insert (keys : List α) (b : β) (m : FiniteMap α β) (a : α) :
    (keys.foldl (fun m key => m.insert key b) m).lookup a =
      if a ∈ keys then some b else m.lookup a := by
  induction keys generalizing m with
  | nil => simp
  | cons key keys ih =>
    rw [foldl_cons, ih, lookup_insert_eq_ite]
    by_cases h : a ∈ keys <;> by_cases h' : a = key <;> simp [h, h']

lemma lookup_foldl_erase (keys : List α) (m : FiniteMap α β) (a : α) :
    (keys.foldl (fun m key => m.erase key) m).lookup a =
      if a ∈ keys then none else m.lookup a := by
  induction keys generalizing m with
  | nil => simp
  | cons key keys ih =>
    rw [foldl_cons, ih, lookup_erase_eq_ite]
    by_cases h : a ∈ keys <;> by_cases h' : a = key <;> simp [h, h']

lemma size_insert_of_lookup_none (m : FiniteMap α β) (k : α) (b : β) (h : m.lookup k = none) :
    size (m.insert k b) = size m + 1 := by
  have hk : k ∉ m.keys := fun hm => AList.lookup_eq_none.mp h (AList.mem_keys.mpr hm)
  rw [size, AList.keys_insert, erase_of_not_mem hk, length_cons, size]

lemma size_insert_of_lookup_some (m : FiniteMap α β) (k : α) (b c : β) (h : m.lookup k = some c) :
    size (m.insert k b) = size m := by
  have hk : k ∈ m.keys := AList.mem_keys.mp (AList.lookup_isSome.mp (by simp [h]))
  have hpos := length_pos_of_mem hk
  rw [size, AList.keys_insert, length_cons, length_erase_of_mem hk, size]
  omega

lemma size_erase_le (m : FiniteMap α β) (k : α) : size (m.erase k) ≤ size m := by
  rw [size, AList.keys_erase, size]
  exact length_erase_le

lemma size_erase_of_lookup_some (m : FiniteMap α β) (k : α) (c : β) (h : m.lookup k = some c) :
    size (m.erase k) + 1 = size m := by
  have hk : k ∈ m.keys := AList.mem_keys.mp (AList.lookup_isSome.mp (by simp [h]))
  have hpos := length_pos_of_mem hk
  rw [size, AList.keys_erase, length_erase_of_mem hk, size]
  omega

lemma isEmpty_iff (m : FiniteMap α β) : m.isEmpty = true ↔ ∀ a, m.lookup a = none := by
  constructor
  · intro h a
    have hm : m = ∅ := AList.ext (List.isEmpty_iff.mp h)
    rw [hm, AList.lookup_empty]
  · intro h
    refine List.isEmpty_iff.mpr (List.eq_nil_iff_forall_not_mem.mpr ?_)
    rintro ⟨a, b⟩ hmem
    have hb : m.lookup a = some b := AList.mem_lookup_iff.mpr hmem
    simp [h a] at hb

lemma mem_values (m : FiniteMap α β) (b : β) : b ∈ m.values ↔ ∃ k, m.lookup k = some b := by
  simp only [values, mem_map]
  constructor
  · rintro ⟨⟨k, b'⟩, hmem, rfl⟩
    exact ⟨k, AList.mem_lookup_iff.mpr hmem⟩
  · rintro ⟨k, hk⟩
    exact ⟨⟨k, b⟩, AList.mem_lookup_iff.mp hk, rfl⟩

lemma lookup_mapValues (f : β → γ) (m : FiniteMap α β) (a : α) :
    (m.mapValues f).lookup a = (m.lookup a).map f := by
  cases h : m.lookup a with
  | none =>
    rw [Option.map_none, AList.lookup_eq_none, AList.mem_keys]
    intro hmem
    rw [AList.lookup_eq_none, AList.mem_keys] at h
    apply h
    simpa [mapValues, AList.keys, keys] using hmem
  | some b =>
    have hb : (⟨a, b⟩ : Sigma fun _ : α => β) ∈ m.entries := AList.mem_lookup_iff.mp h
    exact AList.mem_lookup_iff.mpr (mem_map.mpr ⟨_, hb, rfl⟩)

lemma mem_filterKeys (p : α → β → Bool) (m : FiniteMap α β) (a : α) :
    a ∈ m.filterKeys p ↔ ∃ b, m.lookup a = some b ∧ p a b = true := by
  simp only [filterKeys, mem_map, mem_filter]
  constructor
  · rintro ⟨⟨k, b⟩, ⟨hmem, hp⟩, rfl⟩
    exact ⟨b, AList.mem_lookup_iff.mpr hmem, hp⟩
  · rintro ⟨b, hb, hp⟩
    exact ⟨⟨a, b⟩, ⟨AList.mem_lookup_iff.mp hb, hp⟩, rfl⟩

end FiniteMap

/-- A finite set that remembers an iteration order. -/
structure FiniteSet (α : Type*) where
  toList : List α
  nodup : toList.Nodup
deriving DecidableEq

namespace FiniteSet

variable {α : Type*}

instance : Membership α (FiniteSet α) := ⟨fun s a => a ∈ s.toList⟩

variable (s : FiniteSet α)

lemma mem_def (a : α) : a ∈ s ↔ a ∈ s.toList := Iff.rfl

def empty : FiniteSet α := ⟨[], nodup_nil⟩

def isEmpty : Bool := s.toList.isEmpty

@[simp] lemma mem_empty (a : α) : ¬a ∈ (empty : FiniteSet α) := by simp [empty, mem_def]

lemma isEmpty_iff : s.isEmpty = true ↔ ∀ a, ¬a ∈ s := by
  simp [isEmpty, mem_def, eq_nil_iff_forall_not_mem]

lemma isEmpty_false_iff : s.isEmpty = false ↔ ∃ a, a ∈ s := by
  rw [← Bool.not_eq_true, isEmpty_iff]
  push Not
  rfl

variable [DecidableEq α]

instance (a : α) (s : FiniteSet α) : Decidable (a ∈ s) := inferInstanceAs (Decidable (a ∈ s.toList))

def insert (a : α) : FiniteSet α := ⟨s.toList.insert a, s.nodup.insert⟩

def erase (a : α) : FiniteSet α := ⟨s.toList.erase a, s.nodup.erase a⟩

def ofList (l : List α) : FiniteSet α := ⟨l.dedup, l.nodup_dedup⟩

def extend (s t : FiniteSet α) : FiniteSet α := ⟨t.toList ∪ s.toList, s.nodup.union t.toList⟩

@[simp] lemma mem_insert (a b : α) : a ∈ s.insert b ↔ a = b ∨ a ∈ s := by
  simp [insert, mem_def]

@[simp] lemma mem_erase (a b : α) : a ∈ s.erase b ↔ a ≠ b ∧ a ∈ s :=
  s.nodup.mem_erase_iff

@[simp] lemma mem_ofList (l : List α) (a : α) : a ∈ ofList l ↔ a ∈ l := mem_dedup

@[simp] lemma mem_extend (s t : FiniteSet α) (a : α) : a ∈ s.extend t ↔ a ∈ s ∨ a ∈ t := by
  simp [extend, mem_def, or_comm]

end FiniteSet

end RackManagement.Library
