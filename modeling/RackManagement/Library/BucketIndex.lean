import RackManagement.Library.FiniteMap

/-!
# Two-level bucket indexes

An index from a pair of keys to a set of members, stored as a map of maps without empty parts.
-/

namespace RackManagement.Library

open FiniteMap Option

/-- An outer map of inner maps of member sets. -/
abbrev BucketIndex (ρ ν ι : Type*) := FiniteMap ρ (FiniteMap ν (FiniteSet ι))

namespace BucketIndex

variable {ρ ν ι : Type*} [DecidableEq ρ] [DecidableEq ν]

def bucket (idx : BucketIndex ρ ν ι) (r : ρ) (n : ν) : Option (FiniteSet ι) :=
  (idx.lookup r).bind (fun nodes => nodes.lookup n)

def Contains (idx : BucketIndex ρ ν ι) (r : ρ) (n : ν) (i : ι) : Prop :=
  ∃ members, idx.bucket r n = some members ∧ i ∈ members

/-- No outer entry and no bucket is empty. -/
structure Pruned (idx : BucketIndex ρ ν ι) : Prop where
  outer : ∀ r nodes, idx.lookup r = some nodes → ∃ n, (nodes.lookup n).isSome
  inner : ∀ r n members, idx.bucket r n = some members → ∃ i, i ∈ members

variable {idx : BucketIndex ρ ν ι}

lemma Pruned.isSome_bucket_iff (h : idx.Pruned) (r : ρ) (n : ν) :
    (idx.bucket r n).isSome = true ↔ ∃ i, idx.Contains r n i := by
  rw [isSome_iff_exists]
  constructor
  · rintro ⟨members, hbucket⟩
    obtain ⟨i, hi⟩ := h.inner r n members hbucket
    exact ⟨i, members, hbucket, hi⟩
  · rintro ⟨i, members, hbucket, -⟩
    exact ⟨members, hbucket⟩

lemma Pruned.isSome_lookup_iff (h : idx.Pruned) (r : ρ) :
    (idx.lookup r).isSome = true ↔ ∃ n i, idx.Contains r n i := by
  simp only [← h.isSome_bucket_iff]
  rw [isSome_iff_exists]
  constructor
  · rintro ⟨nodes, hlookup⟩
    obtain ⟨n, hn⟩ := h.outer r nodes hlookup
    exact ⟨n, by rw [bucket, hlookup, bind_some, hn]⟩
  · rintro ⟨n, hn⟩
    obtain ⟨members, hbucket⟩ := isSome_iff_exists.mp hn
    obtain ⟨nodes, hlookup, -⟩ := bind_eq_some_iff.mp hbucket
    exact ⟨nodes, hlookup⟩

lemma pruned_empty : Pruned (∅ : BucketIndex ρ ν ι) where
  outer := by simp
  inner := by simp [bucket]

lemma not_contains_empty (r : ρ) (n : ν) (i : ι) : ¬Contains (∅ : BucketIndex ρ ν ι) r n i := by
  simp [Contains, bucket]

lemma bucket_insert (idx : BucketIndex ρ ν ι) (r r' : ρ) (n' : ν) (nodes : FiniteMap ν (FiniteSet ι)) :
    bucket (idx.insert r nodes) r' n' = if r' = r then nodes.lookup n' else idx.bucket r' n' := by
  unfold bucket
  rw [lookup_insert_eq_ite]
  by_cases h : r' = r <;> simp [h]

lemma bucket_erase (idx : BucketIndex ρ ν ι) (r r' : ρ) (n' : ν) :
    bucket (idx.erase r) r' n' = if r' = r then none else idx.bucket r' n' := by
  unfold bucket
  rw [lookup_erase_eq_ite]
  by_cases h : r' = r <;> simp [h]

def first (idx : BucketIndex ρ ν ι) (r : ρ) (n : ν) : Option ι :=
  (idx.bucket r n).bind (fun members => members.toList.head?)

lemma first_eq_none_iff (idx : BucketIndex ρ ν ι) (r : ρ) (n : ν) :
    idx.first r n = none ↔ ∀ i, ¬idx.Contains r n i := by
  unfold first Contains
  cases idx.bucket r n with
  | none => simp
  | some members =>
    simp [FiniteSet.mem_def, List.eq_nil_iff_forall_not_mem]

variable [DecidableEq ι]

def add (idx : BucketIndex ρ ν ι) (r : ρ) (n : ν) (i : ι) : BucketIndex ρ ν ι :=
  let nodes := (idx.lookup r).getD ∅
  let members := (nodes.lookup n).getD FiniteSet.empty
  idx.insert r (nodes.insert n (members.insert i))

def remove (idx : BucketIndex ρ ν ι) (r : ρ) (n : ν) (i : ι) : BucketIndex ρ ν ι :=
  match idx.lookup r with
  | none => idx
  | some nodes =>
    match nodes.lookup n with
    | none => idx
    | some members =>
      let members := members.erase i
      if !members.isEmpty then idx.insert r (nodes.insert n members)
      else
        let nodes := nodes.erase n
        if isEmpty nodes then idx.erase r else idx.insert r nodes

lemma bucket_add (idx : BucketIndex ρ ν ι) (r r' : ρ) (n n' : ν) (i : ι) : (idx.add r n i).bucket r' n' =
      if r' = r ∧ n' = n then some (((idx.bucket r n).getD FiniteSet.empty).insert i)
      else idx.bucket r' n' := by
  unfold add
  rw [bucket_insert, lookup_insert_eq_ite]
  by_cases hr : r' = r
  · subst hr
    by_cases hn : n' = n
    · subst hn
      cases h : idx.lookup r' <;> simp [bucket, h]
    · cases h : idx.lookup r' <;> simp [bucket, h, hn]
  · simp [hr]

lemma contains_add (idx : BucketIndex ρ ν ι) (r r' : ρ) (n n' : ν) (i i' : ι) :
    (idx.add r n i).Contains r' n' i' ↔
      idx.Contains r' n' i' ∨ (r' = r ∧ n' = n ∧ i' = i) := by
  unfold Contains
  rw [bucket_add]
  by_cases h : r' = r ∧ n' = n
  · obtain ⟨rfl, rfl⟩ := h
    simp only [and_self, if_true, some.injEq, exists_eq_left', FiniteSet.mem_insert, true_and]
    cases idx.bucket r' n' <;> simp [or_comm]
  · rw [if_neg h]
    constructor
    · exact .inl
    · rintro (hc | ⟨hr, hn, _⟩)
      · exact hc
      · exact absurd ⟨hr, hn⟩ h

theorem Pruned.add (h : idx.Pruned) (r : ρ) (n : ν) (i : ι) : (idx.add r n i).Pruned where
  outer := by
    intro r' nodes hl
    unfold BucketIndex.add at hl
    rw [lookup_insert_eq_ite] at hl
    split at hl
    · refine ⟨n, ?_⟩
      rw [some.injEq] at hl
      simp [← hl]
    · exact h.outer r' nodes hl
  inner := by
    intro r' n' members hb
    rw [bucket_add] at hb
    split at hb
    · rw [some.injEq] at hb
      exact ⟨i, hb ▸ by simp⟩
    · exact h.inner r' n' members hb

lemma remove_of_bucket_none (idx : BucketIndex ρ ν ι) (r : ρ) (n : ν) (i : ι)
    (h : idx.bucket r n = none) : idx.remove r n i = idx := by
  unfold remove
  cases hr : idx.lookup r with
  | none => rfl
  | some nodes =>
    have hn : nodes.lookup n = none := by simpa [bucket, hr] using h
    simp [hn]

lemma remove_of_lookup (idx : BucketIndex ρ ν ι) (r : ρ) (n : ν) (i : ι)
    {nodes : FiniteMap ν (FiniteSet ι)} {members : FiniteSet ι}
    (hr : idx.lookup r = some nodes) (hn : nodes.lookup n = some members) :
    idx.remove r n i =
      if (members.erase i).isEmpty = false then idx.insert r (nodes.insert n (members.erase i))
      else if isEmpty (nodes.erase n) then idx.erase r else idx.insert r (nodes.erase n) := by
  simp [remove, hr, hn]

lemma bucket_remove (idx : BucketIndex ρ ν ι) (r r' : ρ) (n n' : ν) (i : ι) :
    (idx.remove r n i).bucket r' n' =
      if r' = r ∧ n' = n then
        ((idx.bucket r n).map (fun members => members.erase i)).filter (fun members => !members.isEmpty)
      else idx.bucket r' n' := by
  cases hb : idx.bucket r n with
  | none =>
    rw [remove_of_bucket_none idx r n i hb]
    by_cases h : r' = r ∧ n' = n
    · rw [h.1, h.2, hb]
      simp
    · rw [if_neg h]
  | some members =>
    obtain ⟨nodes, hr, hn⟩ := bind_eq_some_iff.mp hb
    have hrow : ∀ m, idx.bucket r m = nodes.lookup m := fun m => by simp [bucket, hr]
    rw [remove_of_lookup idx r n i hr hn, map_some, filter_some]
    by_cases he : (members.erase i).isEmpty = false
    · rw [if_pos he, bucket_insert, lookup_insert_eq_ite]
      by_cases hr' : r' = r
      · by_cases hn' : n' = n <;> simp [hr', hn', hrow, he]
      · simp [hr']
    · rw [if_neg he]
      by_cases hlast : isEmpty (nodes.erase n) = true
      · have hnone := (isEmpty_iff _).mp hlast n'
        rw [lookup_erase_eq_ite] at hnone
        rw [if_pos hlast, bucket_erase]
        by_cases hr' : r' = r
        · by_cases hn' : n' = n
          · simp [hr', hn', he]
          · rw [if_neg hn'] at hnone
            simp [hr', hn', hrow, hnone]
        · simp [hr']
      · rw [if_neg hlast, bucket_insert, lookup_erase_eq_ite]
        by_cases hr' : r' = r
        · by_cases hn' : n' = n <;> simp [hr', hn', hrow, he]
        · simp [hr']

lemma contains_remove (idx : BucketIndex ρ ν ι) (r r' : ρ) (n n' : ν) (i i' : ι) :
    (idx.remove r n i).Contains r' n' i' ↔
      idx.Contains r' n' i' ∧ ¬(r' = r ∧ n' = n ∧ i' = i) := by
  unfold Contains
  rw [bucket_remove]
  by_cases h : r' = r ∧ n' = n
  · obtain ⟨rfl, rfl⟩ := h
    simp only [and_self, if_true, true_and, filter_eq_some_iff, map_eq_some_iff]
    constructor
    · rintro ⟨_, ⟨⟨members, hm, rfl⟩, _⟩, hi⟩
      rw [FiniteSet.mem_erase] at hi
      exact ⟨⟨members, hm, hi.2⟩, hi.1⟩
    · rintro ⟨⟨members, hm, hi⟩, hne⟩
      have hmem : i' ∈ members.erase i := (FiniteSet.mem_erase _ _ _).mpr ⟨hne, hi⟩
      refine ⟨members.erase i, ⟨⟨members, hm, rfl⟩, ?_⟩, hmem⟩
      rw [(FiniteSet.isEmpty_false_iff _).mpr ⟨i', hmem⟩]
      rfl
  · rw [if_neg h]
    constructor
    · rintro ⟨members, hm, hi⟩
      exact ⟨⟨members, hm, hi⟩, fun hc => h ⟨hc.1, hc.2.1⟩⟩
    · exact fun hc => hc.1

theorem Pruned.remove (h : idx.Pruned) (r : ρ) (n : ν) (i : ι) : (idx.remove r n i).Pruned where
  outer := by
    intro r' nodes' hl
    cases hb : idx.bucket r n with
    | none =>
      rw [remove_of_bucket_none idx r n i hb] at hl
      exact h.outer r' nodes' hl
    | some members =>
      obtain ⟨nodes, hr, hn⟩ := bind_eq_some_iff.mp hb
      rw [remove_of_lookup idx r n i hr hn] at hl
      by_cases hr' : r' = r
      · by_cases he : (members.erase i).isEmpty = false
        · rw [if_pos he, lookup_insert_eq_ite, if_pos hr', some.injEq] at hl
          exact ⟨n, by simp [← hl]⟩
        · rw [if_neg he] at hl
          by_cases hlast : isEmpty (nodes.erase n) = true
          · rw [if_pos hlast, lookup_erase_eq_ite, if_pos hr'] at hl
            cases hl
          · rw [if_neg hlast, lookup_insert_eq_ite, if_pos hr', some.injEq] at hl
            by_contra hall
            push Not at hall
            refine hlast ((isEmpty_iff _).mpr (fun a => ?_))
            simpa [← hl] using hall a
      · have hkeep : idx.lookup r' = some nodes' := by
          split at hl
          · rwa [lookup_insert_eq_ite, if_neg hr'] at hl
          · split at hl
            · rwa [lookup_erase_eq_ite, if_neg hr'] at hl
            · rwa [lookup_insert_eq_ite, if_neg hr'] at hl
        exact h.outer r' nodes' hkeep
  inner := by
    intro r' n' members hb
    rw [bucket_remove] at hb
    split at hb
    · rw [filter_eq_some_iff] at hb
      exact (FiniteSet.isEmpty_false_iff _).mp (by simpa using hb.2)
    · exact h.inner r' n' members hb

end BucketIndex

end RackManagement.Library
