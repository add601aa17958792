import Mathlib.Data.List.Destutter
import Mathlib.Data.List.Sort
import RackManagement.Library.FiniteMap

/-!
# Sorted lists of keys

Sorting, bisection as in the standard library, and the least elements of a list.
-/

namespace RackManagement.Library

open List

variable {α : Type*} [LinearOrder α]

def sortDedup (keys : List α) : List α := (keys.insertionSort (· ≤ ·)).destutter (· ≠ ·)

lemma sortDedup_eq_dedup (keys : List α) : sortDedup keys = (keys.insertionSort (· ≤ ·)).dedup :=
  List.Pairwise.destutter_eq_dedup (pairwise_insertionSort (· ≤ ·) keys)

variable {keys : List α} {key : α}

lemma mem_sortDedup : key ∈ sortDedup keys ↔ key ∈ keys := by
  rw [sortDedup_eq_dedup, mem_dedup, mem_insertionSort]

lemma pairwise_lt_sortDedup (keys : List α) : (sortDedup keys).Pairwise (· < ·) := by
  have hnodup : (sortDedup keys).Nodup := by
    rw [sortDedup_eq_dedup]
    exact nodup_dedup _
  have hsorted : (sortDedup keys).Pairwise (· ≤ ·) :=
    (pairwise_insertionSort (· ≤ ·) keys).sublist (destutter_sublist _ _)
  exact (hsorted.and hnodup).imp (fun h => lt_of_le_of_ne h.1 h.2)

lemma sortDedup_ne_nil (h : keys ≠ []) : sortDedup keys ≠ [] := by
  obtain ⟨key, hkey⟩ := exists_mem_of_ne_nil keys h
  exact ne_nil_of_mem (mem_sortDedup.mpr hkey)

/-- The bisection loop: halves the window of `size` keys from `base` on until one is left. -/
def bisect (keys : List α) (key : α) : (fuel base size : Nat) → Nat
  | 0, base, _ => base
  | fuel + 1, base, size =>
    if size ≤ 1 then base
    else
      let half := size / 2
      let mid := base + half
      let base := if (keys[mid]?).any (fun k => key < k) then base else mid
      bisect keys key fuel base (size - half)

/-- Binary search for a key: its position, or the position at which it would be inserted. -/
def binarySearch (keys : List α) (key : α) : Except Nat Nat :=
  let base := bisect keys key keys.length 0 keys.length
  match keys[base]? with
  | none => .error 0
  | some k => if k = key then .ok base else .error (if k < key then base + 1 else base)

section

variable (hsorted : keys.Pairwise (· ≤ ·))
include hsorted

lemma le_of_getElem? {i j : Nat} {a b : α} (hij : i ≤ j)
    (ha : keys[i]? = some a) (hb : keys[j]? = some b) : a ≤ b := by
  obtain ⟨hi, rfl⟩ := List.getElem?_eq_some_iff.mp ha
  obtain ⟨hj, rfl⟩ := List.getElem?_eq_some_iff.mp hb
  rcases Nat.eq_or_lt_of_le hij with heq | hlt
  · subst heq
    exact le_refl _
  · exact pairwise_iff_getElem.mp hsorted i j hi hj hlt

lemma getElem?_bisect {fuel base size : Nat}
    (hfuel : size ≤ fuel) (hbound : base + size ≤ keys.length)
    (hwindow : ∃ i, base ≤ i ∧ i < base + size ∧ keys[i]? = some key) :
    keys[bisect keys key fuel base size]? = some key := by
  induction fuel generalizing base size with
  | zero =>
    obtain ⟨i, _, _, _⟩ := hwindow
    omega
  | succ fuel ih =>
    obtain ⟨i, hbase, hsize, hkey⟩ := hwindow
    unfold bisect
    split
    · have hi : i = base := by omega
      rw [← hi]
      exact hkey
    · have hlt : base + size / 2 < keys.length := by omega
      obtain ⟨k, hmid⟩ : ∃ k, keys[base + size / 2]? = some k := ⟨_, getElem?_eq_getElem hlt⟩
      simp only [hmid, Option.any_some, decide_eq_true_eq]
      -- Either the key is left of the middle, or the middle is not above the key.
      by_cases hgreater : key < k
      · rw [if_pos hgreater]
        apply ih (by omega) (by omega)
        refine ⟨i, hbase, ?_, hkey⟩
        by_contra hnot
        have hle : k ≤ key := le_of_getElem? hsorted (by omega) hmid hkey
        exact absurd hgreater (not_lt.mpr hle)
      · rw [if_neg hgreater]
        apply ih (by omega) (by omega)
        by_cases hright : base + size / 2 ≤ i
        · exact ⟨i, hright, by omega, hkey⟩
        · have hle : key ≤ k := le_of_getElem? hsorted (by omega) hkey hmid
          have heq : k = key := le_antisymm (not_lt.mp hgreater) hle
          exact ⟨base + size / 2, le_refl _, by omega, heq ▸ hmid⟩

lemma isOk_binarySearch_iff : (binarySearch keys key).isOk = true ↔ key ∈ keys := by
  unfold binarySearch
  constructor
  · intro hok
    cases hbase : keys[bisect keys key keys.length 0 keys.length]? with
    | none =>
      simp only [hbase] at hok
      cases hok
    | some k =>
      simp only [hbase] at hok
      split at hok
      · rename_i heq
        exact heq ▸ mem_of_getElem? hbase
      · cases hok
  · intro hmem
    obtain ⟨i, hi, hkey⟩ := List.getElem_of_mem hmem
    have hwindow : ∃ i, 0 ≤ i ∧ i < 0 + keys.length ∧ keys[i]? = some key :=
      ⟨i, Nat.zero_le i, by omega, List.getElem?_eq_some_iff.mpr ⟨hi, hkey⟩⟩
    have hbase := getElem?_bisect hsorted (le_refl _) (by omega) hwindow
    simp only [hbase, if_true]
    rfl

end

namespace FiniteMap

variable {β : Type*}

def valuesInOrder (m : FiniteMap α β) : List β :=
  (m.entries.insertionSort (fun e e' => e.1 ≤ e'.1)).map Sigma.snd

lemma mem_valuesInOrder {m : FiniteMap α β} {b : β} : b ∈ m.valuesInOrder ↔ ∃ k, m.lookup k = some b := by
  rw [← mem_values]
  unfold valuesInOrder values
  simp only [mem_map, mem_insertionSort]

end FiniteMap

section LeastBy

variable {γ : Type*} (key : γ → α)

/-- The first elements of a list when it is sorted by a key. -/
def leastBy (n : Nat) (l : List γ) : List γ := (l.insertionSort (fun a b => key a ≤ key b)).take n

variable {key} {n : Nat} {l : List γ}

lemma length_leastBy (h : n ≤ l.length) : (leastBy key n l).length = n := by
  rw [leastBy, length_take, length_insertionSort]
  exact Nat.min_eq_left h

lemma mem_of_mem_leastBy {a : γ} (h : a ∈ leastBy key n l) : a ∈ l :=
  (mem_insertionSort _).mp (mem_of_mem_take h)

variable (hkey : Function.Injective key)
include hkey

lemma pairwise_sortedBy (hnodup : l.Nodup) :
    (l.insertionSort (fun a b => key a ≤ key b)).Pairwise (fun a b => key a < key b) := by
  have : Std.Total (fun a b : γ => key a ≤ key b) := ⟨fun a b => le_total (key a) (key b)⟩
  have : IsTrans γ (fun a b => key a ≤ key b) := ⟨fun _ _ _ => le_trans⟩
  have hsorted := pairwise_insertionSort (fun a b => key a ≤ key b) l
  have hnodup : (l.insertionSort (fun a b => key a ≤ key b)).Nodup :=
    (perm_insertionSort _ l).nodup_iff.mpr hnodup
  exact (hsorted.and hnodup).imp (fun h => lt_of_le_of_ne h.1 (hkey.ne h.2))

lemma pairwise_leastBy (hnodup : l.Nodup) : (leastBy key n l).Pairwise (fun a b => key a < key b) :=
  (pairwise_sortedBy hkey hnodup).sublist (take_sublist n _)

lemma lt_of_mem_leastBy (hnodup : l.Nodup) {a b : γ} (ha : a ∈ leastBy key n l)
    (hb : b ∈ l) (hnot : b ∉ leastBy key n l) : key a < key b := by
  have hsorted := pairwise_sortedBy hkey hnodup
  rw [← take_append_drop n (l.insertionSort _), pairwise_append] at hsorted
  have hmem := (mem_insertionSort (fun a b => key a ≤ key b)).mpr hb
  rw [← take_append_drop n (l.insertionSort _), mem_append] at hmem
  exact hsorted.2.2 a ha b (hmem.resolve_left hnot)

end LeastBy

end RackManagement.Library
