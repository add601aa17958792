import Mathlib.Data.List.Perm.Basic
import RackManagement.Library.FiniteMap

/-! # Counting elements and values -/

namespace RackManagement.Library

open List

variable {α β : Type*}

lemma countP_add_countP_of_exclusive {p q : α → Bool} (hexclusive : ∀ a, p a = true → q a = false)
    (l : List α) : l.countP p + l.countP q = l.countP (fun a => p a || q a) := by
  induction l with
  | nil => rfl
  | cons a l ih =>
    rw [countP_cons, countP_cons, countP_cons, ← ih]
    cases hp : p a with
    | false =>
      simp only [Bool.false_or, Bool.false_eq_true, if_false]
      omega
    | true =>
      rw [hexclusive a hp]
      simp only [Bool.or_false, Bool.false_eq_true, if_false, if_true]
      omega

lemma forall_or_of_length_le {p q : α → Bool} (hexclusive : ∀ a, p a = true → q a = false) {l : List α}
    (h : l.length ≤ l.countP p + l.countP q) : ∀ a ∈ l, p a = true ∨ q a = true := by
  have hle : l.countP (fun a => p a || q a) ≤ l.length := countP_le_length
  rw [countP_add_countP_of_exclusive hexclusive] at h
  have hall := countP_eq_length.mp (le_antisymm hle h)
  intro a ha
  exact Bool.or_eq_true_iff.mp (hall a ha)

lemma cons_eraseIdx_perm {l : List α} {index : Nat} {a : α} (h : l[index]? = some a) :
    (a :: l.eraseIdx index).Perm l := by
  obtain ⟨hlt, rfl⟩ := List.getElem?_eq_some_iff.mp h
  exact List.getElem_cons_eraseIdx_perm hlt

namespace FiniteMap

def countValues (p : β → Bool) (m : FiniteMap α β) : Nat := m.values.countP p

variable [DecidableEq α]

lemma countValues_eq_countP_keys (p : β → Bool) (m : FiniteMap α β) :
    countValues p m = m.keys.countP (fun k => (m.lookup k).any p) := by
  unfold countValues values
  change _ = (m.entries.map Sigma.fst).countP _
  rw [countP_map, countP_map]
  apply countP_congr
  intro e he
  have hlookup : m.lookup e.1 = some e.2 := AList.mem_lookup_iff.mpr he
  simp only [Function.comp_apply, hlookup, Option.any_some]

lemma countValues_congr {p : β → Bool} {m m' : FiniteMap α β}
    (h : ∀ k, (m.lookup k).any p = (m'.lookup k).any p) : countValues p m = countValues p m' := by
  have hperm : (m.keys.filter (fun k => (m.lookup k).any p)).Perm
      (m'.keys.filter (fun k => (m'.lookup k).any p)) := by
    apply (perm_ext_iff_of_nodup (m.nodupKeys.filter _) (m'.nodupKeys.filter _)).mpr
    intro k
    simp only [mem_filter, ← h]
    refine and_congr_left (fun hany => ?_)
    have hany' := hany
    rw [h] at hany'
    have hmem : ∀ n : FiniteMap α β, (n.lookup k).any p = true → k ∈ n.keys := by
      intro n hn
      cases hb : n.lookup k with
      | none =>
        rw [hb] at hn
        cases hn
      | some b => exact AList.mem_keys.mp (AList.lookup_isSome.mp (by rw [hb]; rfl))
    exact ⟨fun _ => hmem m' hany', fun _ => hmem m hany⟩
  rw [countValues_eq_countP_keys, countValues_eq_countP_keys, countP_eq_length_filter,
    countP_eq_length_filter]
  exact hperm.length_eq

lemma countValues_erase (p : β → Bool) (m : FiniteMap α β) (k : α) :
    countValues p (m.erase k) + ((m.lookup k).any p).toNat = countValues p m := by
  cases h : m.lookup k with
  | none =>
    have hsame : countValues p (m.erase k) = countValues p m := by
      apply countValues_congr
      intro k'
      rw [lookup_erase_eq_ite]
      split
      · rename_i he
        rw [he, h]
      · rfl
    simpa using hsame
  | some c =>
    have hmem : k ∈ m.entries.keys := AList.mem_keys.mp (AList.lookup_isSome.mp (by rw [h]; rfl))
    obtain ⟨b, l₁, l₂, _, hentries, herase⟩ := exists_of_kerase hmem
    have hb : m.lookup k = some b := by
      apply AList.mem_lookup_iff.mpr
      rw [hentries]
      exact mem_append_right _ mem_cons_self
    cases h.symm.trans hb
    have hleft : countValues p (m.erase k) = ((l₁ ++ l₂).map Sigma.snd).countP p := by
      rw [← herase]
      rfl
    have hright : countValues p m = ((l₁ ++ ⟨k, c⟩ :: l₂).map Sigma.snd).countP p := by
      rw [← hentries]
      rfl
    rw [hleft, hright]
    simp only [map_append, map_cons, countP_append, countP_cons, Option.any_some]
    cases p c with
    | false =>
      simp only [Bool.toNat_false, Bool.false_eq_true, if_false]
      omega
    | true =>
      simp only [Bool.toNat_true, if_true]
      omega

lemma countValues_update {p : β → Bool} {m m' : FiniteMap α β} (k : α)
    (h : ∀ k', k' ≠ k → (m.lookup k').any p = (m'.lookup k').any p) :
    countValues p m' + ((m.lookup k).any p).toNat = countValues p m + ((m'.lookup k).any p).toNat := by
  have hrest : countValues p (m.erase k) = countValues p (m'.erase k) := by
    apply countValues_congr
    intro k'
    rw [lookup_erase_eq_ite, lookup_erase_eq_ite]
    split
    · rfl
    · rename_i hne
      exact h k' hne
  have hm := countValues_erase p m k
  have hm' := countValues_erase p m' k
  omega

end FiniteMap

end RackManagement.Library
