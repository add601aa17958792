import Mathlib.Data.List.Lex
import RackManagement.Library.SortedKeys

/-!
# Ordered sets and maps

Sorted lists that carry the proof that they are strictly sorted.
-/

namespace RackManagement.Library

open List

structure OrderedSet (α : Type*) [LinearOrder α] where
  toList : List α
  sorted : toList.Pairwise (· < ·)

namespace OrderedSet

variable {α : Type*} [LinearOrder α]

lemma toList_injective : Function.Injective (toList : OrderedSet α → List α) := by
  intro s t h
  cases s
  cases t
  cases h
  rfl

instance : LinearOrder (OrderedSet α) := LinearOrder.lift' toList toList_injective

instance : Membership α (OrderedSet α) := ⟨fun s a => a ∈ s.toList⟩

instance (a : α) (s : OrderedSet α) : Decidable (a ∈ s) := inferInstanceAs (Decidable (a ∈ s.toList))

def ofList (l : List α) : OrderedSet α := ⟨sortDedup l, pairwise_lt_sortDedup l⟩

variable (s : OrderedSet α)

def size : Nat := s.toList.length

def isEmpty : Bool := s.toList.isEmpty

def isDisjoint (s t : OrderedSet α) : Bool := s.toList.all (fun a => a ∉ t)

def empty : OrderedSet α := ⟨[], List.Pairwise.nil⟩

def extend (l : List α) : OrderedSet α := ofList (s.toList ++ l)

def insert (a : α) : OrderedSet α := s.extend [a]

variable {s : OrderedSet α} {a : α} {l : List α}

lemma mem_def : a ∈ s ↔ a ∈ s.toList := Iff.rfl

lemma mem_ofList : a ∈ ofList l ↔ a ∈ l := mem_sortDedup

@[simp] lemma notMem_empty (a : α) : a ∉ (empty : OrderedSet α) := not_mem_nil

@[simp] lemma mem_extend : a ∈ s.extend l ↔ a ∈ s ∨ a ∈ l := by
  rw [extend, mem_ofList, mem_append, mem_def]

@[simp] lemma mem_insert {b : α} : a ∈ s.insert b ↔ a ∈ s ∨ a = b := by
  rw [insert, mem_extend, mem_singleton]

lemma nodup_toList : s.toList.Nodup := s.sorted.imp (fun h => ne_of_lt h)

@[ext] lemma ext {t : OrderedSet α} (h : ∀ a, a ∈ s ↔ a ∈ t) : s = t := by
  apply toList_injective
  have hperm : s.toList.Perm t.toList := (perm_ext_iff_of_nodup s.nodup_toList t.nodup_toList).mpr h
  exact hperm.eq_of_pairwise (fun _ _ _ _ hab hba => absurd hba hab.asymm) s.sorted t.sorted

lemma ofList_eq_of_perm {others : List α} (h : l.Perm others) : ofList l = ofList others := by
  ext a
  rw [mem_ofList, mem_ofList, h.mem_iff]

lemma isDisjoint_iff {t : OrderedSet α} : s.isDisjoint t = true ↔ ∀ a ∈ s, a ∉ t := by
  simp [isDisjoint, all_eq_true, mem_def]

lemma size_ofList_eq_iff : (ofList l).size = l.length ↔ l.Nodup := by
  have hperm := perm_insertionSort (· ≤ ·) l
  change (sortDedup l).length = l.length ↔ l.Nodup
  rw [sortDedup_eq_dedup, ← hperm.nodup_iff, ← hperm.length_eq]
  constructor
  · intro h
    exact dedup_eq_self.mp ((dedup_sublist _).eq_of_length h)
  · intro h
    rw [h.dedup]

end OrderedSet

structure OrderedMap (α β : Type*) [LinearOrder α] where
  entries : List (α × β)
  sorted : (entries.map Prod.fst).Pairwise (· < ·)

namespace OrderedMap

variable {α β : Type*} [LinearOrder α]

def insertEntry (key : α) (value : β) : List (α × β) → List (α × β)
  | [] => [(key, value)]
  | entry :: entries =>
    if key < entry.1 then (key, value) :: entry :: entries
    else if key = entry.1 then (key, value) :: entries
    else entry :: insertEntry key value entries

variable {key : α} {value : β} {entries : List (α × β)} {m : OrderedMap α β}

lemma mem_keys_insertEntry {other : α} :
    other ∈ (insertEntry key value entries).map Prod.fst ↔ other = key ∨ other ∈ entries.map Prod.fst := by
  induction entries with
  | nil => simp [insertEntry]
  | cons entry entries ih =>
    unfold insertEntry
    split_ifs with hlt heq
    · simp
    · simp [heq]
    · rw [map_cons, mem_cons, ih, map_cons, mem_cons]
      exact or_left_comm

lemma sorted_insertEntry (h : (entries.map Prod.fst).Pairwise (· < ·)) :
    ((insertEntry key value entries).map Prod.fst).Pairwise (· < ·) := by
  induction entries with
  | nil => simp [insertEntry]
  | cons entry entries ih =>
    have hrest := pairwise_cons.mp h
    unfold insertEntry
    split_ifs with hlt heq
    · refine pairwise_cons.mpr ⟨?_, h⟩
      intro other hmem
      obtain heq | hmem := mem_cons.mp hmem
      · exact heq ▸ hlt
      · exact hlt.trans (hrest.1 other hmem)
    · refine pairwise_cons.mpr ⟨?_, hrest.2⟩
      exact heq ▸ hrest.1
    · refine pairwise_cons.mpr ⟨?_, ih hrest.2⟩
      intro other hmem
      obtain heq' | hmem := mem_keys_insertEntry.mp hmem
      · exact heq' ▸ lt_of_le_of_ne (not_lt.mp hlt) (Ne.symm heq)
      · exact hrest.1 other hmem

lemma find?_insertEntry (key other : α) (value : β) (entries : List (α × β)) :
    (insertEntry key value entries).find? (fun entry => entry.1 = other) =
      if other = key then some (key, value) else entries.find? (fun entry => entry.1 = other) := by
  induction entries with
  | nil =>
    by_cases h : other = key
    · simp [insertEntry, h]
    · simp [insertEntry, h, Ne.symm h]
  | cons entry entries ih =>
    unfold insertEntry
    by_cases h : other = key
    · rw [if_pos h] at ih ⊢
      subst h
      split_ifs with hlt heq
      · simp
      · simp
      · rw [find?_cons_of_neg (by simpa using Ne.symm heq), ih]
    · rw [if_neg h] at ih ⊢
      have hne : ¬key = other := Ne.symm h
      split_ifs with hlt heq
      · rw [find?_cons_of_neg (by simpa using hne)]
      · rw [find?_cons_of_neg (by simpa using hne), find?_cons_of_neg (by simpa [← heq] using hne)]
      · rw [find?_cons, find?_cons, ih]

def empty : OrderedMap α β := ⟨[], List.Pairwise.nil⟩

def keys (m : OrderedMap α β) : List α := m.entries.map Prod.fst

def values (m : OrderedMap α β) : List β := m.entries.map Prod.snd

def size (m : OrderedMap α β) : Nat := m.entries.length

def lookup (m : OrderedMap α β) (key : α) : Option β :=
  (m.entries.find? (fun entry => entry.1 = key)).map Prod.snd

def insert (m : OrderedMap α β) (key : α) (value : β) : OrderedMap α β :=
  ⟨insertEntry key value m.entries, sorted_insertEntry m.sorted⟩

/-- Of a repeated key the last value stays. -/
def insertAll (m : OrderedMap α β) (entries : List (α × β)) : OrderedMap α β :=
  entries.foldl (fun m entry => m.insert entry.1 entry.2) m

def ofList (entries : List (α × β)) : OrderedMap α β := empty.insertAll entries

lemma nodup_keys (m : OrderedMap α β) : m.keys.Nodup := m.sorted.imp (fun h => ne_of_lt h)

lemma mem_keys_insert {other : α} :
    other ∈ (m.insert key value).keys ↔ other = key ∨ other ∈ m.keys := mem_keys_insertEntry

lemma mem_keys_iff : key ∈ m.keys ↔ (m.lookup key).isSome = true := by
  simp [keys, lookup]

lemma lookup_insert (m : OrderedMap α β) (key other : α) (value : β) :
    (m.insert key value).lookup other = if other = key then some value else m.lookup other := by
  unfold lookup insert
  rw [find?_insertEntry]
  split <;> rfl

lemma length_insertEntry (h : key ∉ entries.map Prod.fst) :
    (insertEntry key value entries).length = entries.length + 1 := by
  induction entries with
  | nil => rfl
  | cons entry entries ih =>
    rw [map_cons, mem_cons, not_or] at h
    unfold insertEntry
    split_ifs with hlt heq
    · rfl
    · exact absurd heq h.1
    · rw [length_cons, ih h.2, length_cons]

lemma size_insert_of_notMem (h : key ∉ m.keys) : (m.insert key value).size = m.size + 1 :=
  length_insertEntry h

lemma keys_ext {γ : Type*} {n : OrderedMap α γ} (h : ∀ key, key ∈ m.keys ↔ key ∈ n.keys) :
    m.keys = n.keys := by
  have hperm : m.keys.Perm n.keys := (perm_ext_iff_of_nodup m.nodup_keys n.nodup_keys).mpr h
  exact hperm.eq_of_pairwise (fun _ _ _ _ hab hba => absurd hba hab.asymm) m.sorted n.sorted

lemma mem_entries_iff {entry : α × β} : entry ∈ m.entries ↔ m.lookup entry.1 = some entry.2 := by
  have hfind : ∀ found, m.entries.find? (fun other => other.1 = entry.1) = some found →
      found ∈ m.entries ∧ found.1 = entry.1 := fun found hfound =>
    ⟨mem_of_find?_eq_some hfound, by simpa using find?_some hfound⟩
  rw [lookup, Option.map_eq_some_iff]
  constructor
  · intro hentry
    have hsome : (m.entries.find? (fun other => other.1 = entry.1)).isSome = true :=
      find?_isSome.mpr ⟨entry, hentry, decide_eq_true rfl⟩
    obtain ⟨found, hfound⟩ := Option.isSome_iff_exists.mp hsome
    have heq := inj_on_of_nodup_map m.nodup_keys (hfind found hfound).1 hentry (hfind found hfound).2
    exact ⟨found, hfound, congrArg Prod.snd heq⟩
  · rintro ⟨found, hfound, hvalue⟩
    obtain ⟨hfound, hkey⟩ := hfind found hfound
    exact Prod.ext hkey hvalue ▸ hfound

lemma ext_lookup {n : OrderedMap α β} (h : ∀ key, m.lookup key = n.lookup key) : m = n := by
  have hperm : m.entries.Perm n.entries := by
    apply (perm_ext_iff_of_nodup (.of_map _ m.nodup_keys) (.of_map _ n.nodup_keys)).mpr
    intro entry
    rw [mem_entries_iff, mem_entries_iff, h]
  have heq : m.entries = n.entries :=
    hperm.eq_of_pairwise (fun _ _ _ _ hab hba => absurd hba (lt_asymm hab)) (pairwise_map.mp m.sorted)
      (pairwise_map.mp n.sorted)
  cases m
  cases n
  cases heq
  rfl

lemma keys_insert_of_mem (h : key ∈ m.keys) : (m.insert key value).keys = m.keys := by
  apply keys_ext
  intro other
  rw [mem_keys_insert]
  exact ⟨fun hmem => hmem.elim (fun heq => heq ▸ h) id, Or.inr⟩

lemma mem_keys_insertAll :
    key ∈ (m.insertAll entries).keys ↔ key ∈ m.keys ∨ key ∈ entries.map Prod.fst := by
  induction entries generalizing m with
  | nil => simp [insertAll]
  | cons entry entries ih =>
    rw [insertAll, foldl_cons, ← insertAll, ih, mem_keys_insert, map_cons, mem_cons]
    tauto

lemma mem_keys_ofList : key ∈ (ofList entries).keys ↔ key ∈ entries.map Prod.fst := by
  rw [ofList, mem_keys_insertAll]
  simp [empty, keys]

lemma lookup_insertAll_of_notMem (h : key ∉ entries.map Prod.fst) :
    (m.insertAll entries).lookup key = m.lookup key := by
  induction entries generalizing m with
  | nil => rfl
  | cons entry entries ih =>
    rw [map_cons, mem_cons, not_or] at h
    rw [insertAll, foldl_cons, ← insertAll, ih h.2, lookup_insert, if_neg h.1]

lemma lookup_insertAll_of_mem (hnodup : (entries.map Prod.fst).Nodup) (hmem : (key, value) ∈ entries) :
    (m.insertAll entries).lookup key = some value := by
  induction entries generalizing m with
  | nil => cases hmem
  | cons entry entries ih =>
    rw [map_cons, nodup_cons] at hnodup
    rw [insertAll, foldl_cons, ← insertAll]
    obtain heq | hmem := mem_cons.mp hmem
    · cases heq
      rw [lookup_insertAll_of_notMem hnodup.1, lookup_insert, if_pos rfl]
    · exact ih hnodup.2 hmem

lemma lookup_ofList_of_mem (hnodup : (entries.map Prod.fst).Nodup)
    (hmem : (key, value) ∈ entries) : (ofList entries).lookup key = some value :=
  lookup_insertAll_of_mem hnodup hmem

lemma mem_of_lookup_insertAll
    (h : (m.insertAll entries).lookup key = some value) :
    m.lookup key = some value ∨ (key, value) ∈ entries := by
  induction entries generalizing m with
  | nil => exact .inl h
  | cons entry entries ih =>
    obtain hlookup | hmem := ih h
    · rw [lookup_insert] at hlookup
      split at hlookup
      · rename_i heq
        cases hlookup
        exact .inr (heq ▸ mem_cons_self)
      · exact .inl hlookup
    · exact .inr (mem_cons_of_mem _ hmem)

lemma mem_of_lookup_ofList (h : (ofList entries).lookup key = some value) : (key, value) ∈ entries := by
  obtain hnone | hmem := mem_of_lookup_insertAll h
  · cases hnone
  · exact hmem

lemma insertAll_eq_of_perm {others : List (α × β)} (hperm : entries.Perm others)
    (hnodup : (entries.map Prod.fst).Nodup) : m.insertAll entries = m.insertAll others := by
  have hkeys := hperm.map Prod.fst
  apply ext_lookup
  intro key
  by_cases hmem : key ∈ entries.map Prod.fst
  · obtain ⟨⟨_, value⟩, hentry, rfl⟩ := mem_map.mp hmem
    rw [lookup_insertAll_of_mem hnodup hentry, lookup_insertAll_of_mem (hkeys.nodup_iff.mp hnodup)
      (hperm.mem_iff.mp hentry)]
  · rw [lookup_insertAll_of_notMem hmem, lookup_insertAll_of_notMem (fun h => hmem (hkeys.mem_iff.mpr h))]

lemma ofList_entries (m : OrderedMap α β) : ofList m.entries = m := by
  apply ext_lookup
  intro key
  cases hlookup : m.lookup key with
  | some value => exact lookup_ofList_of_mem m.nodup_keys (mem_entries_iff.mpr hlookup)
  | none =>
    apply Option.eq_none_iff_forall_ne_some.mpr
    intro value hvalue
    have hentry := mem_entries_iff.mp (mem_of_lookup_ofList hvalue)
    rw [hlookup] at hentry
    cases hentry

lemma perm_entries_ofList (hnodup : (entries.map Prod.fst).Nodup) :
    (ofList entries).entries.Perm entries := by
  apply (perm_ext_iff_of_nodup (.of_map _ (ofList entries).nodup_keys) (.of_map _ hnodup)).mpr
  intro entry
  rw [mem_entries_iff]
  exact ⟨mem_of_lookup_ofList, lookup_ofList_of_mem hnodup⟩

end OrderedMap

end RackManagement.Library
