import Mathlib.Algebra.BigOperators.Group.List.Basic
import Mathlib.Data.List.Flatten
import Mathlib.Data.List.Nodup
import RackManagement.Library.Fallible
import RackManagement.Model.PldmExtraction

/-! # Ranges of component images -/

namespace RackManagement.Pldm

open Library List

def ComponentImageInfo.positions (image : ComponentImageInfo) : List Nat :=
  range' image.locationOffset.toNat image.size.toNat

def ComponentImageInfo.stop (image : ComponentImageInfo) : Nat :=
  image.locationOffset.toNat + image.size.toNat

/-- Every image ends within the package. -/
def InBounds (images : List ComponentImageInfo) (pkgSize : Nat) : Prop :=
  ∀ image ∈ images, image.stop ≤ pkgSize

/-- No byte belongs to two images. -/
def ShareNoByte (images : List ComponentImageInfo) : Prop :=
  images.Pairwise (fun earlier later => earlier.positions.Disjoint later.positions)

def totalSize (images : List ComponentImageInfo) : Nat := (images.map (fun image => image.size.toNat)).sum

variable {image : ComponentImageInfo} {images : List ComponentImageInfo} {sorted : List (Nat × Nat)}

lemma mem_positions {position : Nat} :
    position ∈ image.positions ↔ image.locationOffset.toNat ≤ position ∧ position < image.stop := by
  rw [ComponentImageInfo.positions, mem_range'_1, ComponentImageInfo.stop]

lemma totalSize_le {bound : Nat} (hshare : ShareNoByte images)
    (hbound : InBounds images bound) : totalSize images ≤ bound := by
  have hnodup : (images.flatMap ComponentImageInfo.positions).Nodup := by
    rw [nodup_flatMap]
    exact ⟨fun image _ => nodup_range', hshare⟩
  have hsubset : images.flatMap ComponentImageInfo.positions ⊆ range bound := by
    intro position hposition
    obtain ⟨image, himage, hmem⟩ := mem_flatMap.mp hposition
    have hstop := hbound image himage
    have hlt := (mem_positions.mp hmem).2
    rw [mem_range]
    omega
  have hlength := (subperm_of_subset hnodup hsubset).length_le
  rw [length_flatMap, length_range] at hlength
  simpa [totalSize, ComponentImageInfo.positions] using hlength

/-- Offsets and sizes have 32 bits, so the sum of disjoint sizes does not overflow. -/
lemma totalSize_lt (hshare : ShareNoByte images) : totalSize images < 2 ^ 64 := by
  have hbound : InBounds images (2 ^ 33) := by
    intro image _
    have hoffset := image.locationOffset.toNat_lt
    have hsize := image.size.toNat_lt
    unfold ComponentImageInfo.stop
    omega
  have hle := totalSize_le hshare hbound
  omega

def range (image : ComponentImageInfo) : Nat × Nat := (image.locationOffset.toNat, image.stop)

def ranges (images : List ComponentImageInfo) : List (Nat × Nat) :=
  (images.filter (fun image => 0 < image.size.toNat)).map range

lemma checkRange_eq_ok {pkgSize : Nat} {seen next : Nat × List (Nat × Nat)} :
    checkRange pkgSize seen image = .ok next ↔
      image.stop ≤ pkgSize ∧ seen.1 + image.size.toNat ≤ pkgSize ∧ seen.1 + image.size.toNat < 2 ^ 64 ∧
        next = (seen.1 + image.size.toNat, seen.2 ++ ranges [image]) := by
  have hoffset := image.locationOffset.toNat_lt
  have hsize := image.size.toNat_lt
  have hadd : image.stop < 2 ^ 64 := by
    unfold ComponentImageInfo.stop
    omega
  unfold ComponentImageInfo.stop at hadd
  unfold checkRange checkedAdd
  dsimp only
  rw [if_pos hadd]
  dsimp only
  by_cases hstop : pkgSize < image.locationOffset.toNat + image.size.toNat
  · simp only [if_pos hstop, reduceCtorEq, false_iff]
    intro h
    have hle : image.locationOffset.toNat + image.size.toNat ≤ pkgSize := h.1
    omega
  rw [if_neg hstop]
  by_cases hfits : seen.1 + image.size.toNat < 2 ^ 64
  · rw [if_pos hfits]
    dsimp only
    by_cases htotal : pkgSize < seen.1 + image.size.toNat
    · simp only [if_pos htotal, reduceCtorEq, false_iff]
      intro h
      omega
    · rw [if_neg htotal, Except.ok.injEq]
      have hranges : (if 0 < image.size.toNat then
          seen.2 ++ [(image.locationOffset.toNat, image.locationOffset.toNat + image.size.toNat)]
            else seen.2) =
          seen.2 ++ ranges [image] := by
        by_cases hpositive : 0 < image.size.toNat
        · simp [ranges, hpositive, range, ComponentImageInfo.stop]
        · simp [ranges, hpositive]
      rw [hranges]
      constructor
      · intro h
        exact ⟨not_lt.mp hstop, not_lt.mp htotal, hfits, h.symm⟩
      · intro h
        exact h.2.2.2.symm
  · simp only [if_neg hfits, reduceCtorEq, false_iff]
    intro h
    exact hfits h.2.2.1

lemma ranges_cons (image : ComponentImageInfo) (images : List ComponentImageInfo) :
    ranges (image :: images) = ranges [image] ++ ranges images := by
  simp only [ranges, ← map_append, ← filter_append, singleton_append]

lemma foldlM_checkRange_eq_ok {pkgSize : Nat} (seen : Nat × List (Nat × Nat))
    {last : Nat × List (Nat × Nat)} (hseen : seen.1 ≤ pkgSize) (hfits : seen.1 < 2 ^ 64) :
    images.foldlM (checkRange pkgSize) seen = .ok last ↔
      InBounds images pkgSize ∧ seen.1 + totalSize images ≤ pkgSize ∧ seen.1 + totalSize images < 2 ^ 64 ∧
        last = (seen.1 + totalSize images, seen.2 ++ ranges images) := by
  induction images generalizing seen with
  | nil =>
    have hnil : ([] : List ComponentImageInfo).foldlM (checkRange pkgSize) seen = .ok seen := rfl
    rw [hnil, Except.ok.injEq]
    simp only [InBounds, totalSize, ranges, not_mem_nil, false_imp_iff, implies_true, map_nil, sum_nil,
      filter_nil, Nat.add_zero, append_nil, hseen, hfits, true_and]
    exact eq_comm
  | cons image images ih =>
    have htotal : totalSize (image :: images) = image.size.toNat + totalSize images := by simp [totalSize]
    rw [foldlM_cons, bind_eq_ok, htotal, ranges_cons]
    simp only [checkRange_eq_ok]
    constructor
    · rintro ⟨next, ⟨hstop, hle, hlt, rfl⟩, hrest⟩
      obtain ⟨hbounds, hsum, hsumLt, rfl⟩ := (ih _ hle hlt).mp hrest
      refine ⟨?_, by omega, by omega, ?_⟩
      · intro other hother
        obtain rfl | hother := mem_cons.mp hother
        · exact hstop
        · exact hbounds other hother
      · rw [append_assoc, Nat.add_assoc]
    · rintro ⟨hbounds, hsum, hsumLt, rfl⟩
      refine ⟨_, ⟨hbounds image mem_cons_self, by omega, by omega, rfl⟩, ?_⟩
      refine (ih _ (by dsimp only; omega) (by dsimp only; omega)).mpr
        ⟨?_, by dsimp only; omega, by dsimp only; omega, ?_⟩
      · intro other hother
        exact hbounds other (mem_cons_of_mem image hother)
      · rw [append_assoc, Nat.add_assoc]

def Apart (left right : Nat × Nat) : Prop := left.2 ≤ right.1 ∨ right.2 ≤ left.1

lemma checkOverlaps_eq_ok (hproper : ∀ r ∈ sorted, r.1 < r.2) :
    checkOverlaps sorted = .ok () ↔ sorted.Pairwise (fun left right => left.2 ≤ right.1) := by
  induction sorted with
  | nil => simp [checkOverlaps]
  | cons first rest ih =>
    cases rest with
    | nil => simp [checkOverlaps]
    | cons second rest =>
      rw [forall_mem_cons] at hproper
      have hnext := ih hproper.2
      unfold checkOverlaps
      by_cases hoverlap : second.1 < first.2
      · rw [if_pos hoverlap]
        simp only [reduceCtorEq, false_iff]
        intro hpairwise
        have hle := rel_of_pairwise_cons hpairwise mem_cons_self
        omega
      · rw [if_neg hoverlap, hnext, pairwise_cons (a := first)]
        constructor
        · intro hpairwise
          refine ⟨?_, hpairwise⟩
          intro other hother
          obtain rfl | hother := mem_cons.mp hother
          · exact not_lt.mp hoverlap
          · -- the second range lies between the first and the other
            have hle := rel_of_pairwise_cons hpairwise hother
            have hsecond := hproper.2 second mem_cons_self
            omega
        · intro h
          exact h.2

lemma pairwise_apart_iff (hproper : ∀ r ∈ sorted, r.1 < r.2)
    (hsorted : sorted.Pairwise (fun left right => left.1 ≤ right.1)) :
    sorted.Pairwise Apart ↔ sorted.Pairwise (fun left right => left.2 ≤ right.1) := by
  constructor
  · intro hapart
    apply (hapart.and hsorted).imp_of_mem
    rintro left right - hright ⟨hleft | hright', hle⟩
    · exact hleft
    · have hlt := hproper right hright
      omega
  · intro h
    exact h.imp (fun hle => .inl hle)

lemma lt_of_mem_ranges {r : Nat × Nat} (h : r ∈ ranges images) : r.1 < r.2 := by
  obtain ⟨image, himage, rfl⟩ := mem_map.mp h
  have hpositive := of_decide_eq_true (mem_filter.mp himage).2
  unfold range ComponentImageInfo.stop
  dsimp only
  omega

lemma disjoint_positions_iff {left right : ComponentImageInfo} (hleft : 0 < left.size.toNat)
    (hright : 0 < right.size.toNat) :
    left.positions.Disjoint right.positions ↔ Apart (range left) (range right) := by
  unfold Apart range
  dsimp only
  constructor
  · intro hdisjoint
    by_contra hoverlap
    rw [not_or] at hoverlap
    -- the later start belongs to both
    apply hdisjoint (a := max left.locationOffset.toNat right.locationOffset.toNat)
    · rw [mem_positions]
      unfold ComponentImageInfo.stop at hoverlap ⊢
      omega
    · rw [mem_positions]
      unfold ComponentImageInfo.stop at hoverlap ⊢
      omega
  · intro hapart position hmem hmem'
    rw [mem_positions] at hmem hmem'
    omega

lemma positions_eq_nil (h : ¬0 < image.size.toNat) : image.positions = [] := by
  have hzero : image.size.toNat = 0 := by omega
  rw [ComponentImageInfo.positions, hzero]
  rfl

lemma shareNoByte_iff (images : List ComponentImageInfo) :
    ShareNoByte images ↔ (ranges images).Pairwise Apart := by
  rw [ranges, pairwise_map, pairwise_filter]
  apply List.Pairwise.iff
  intro left right
  by_cases hleft : 0 < left.size.toNat
  · by_cases hright : 0 < right.size.toNat
    · simp [hleft, hright, disjoint_positions_iff hleft hright]
    · simp [hright, positions_eq_nil hright]
  · simp [hleft, positions_eq_nil hleft]

lemma checkOverlaps_sorted_eq_ok
    (hperm : sorted.Perm (ranges images)) (hsorted : sorted.Pairwise (fun left right => left.1 ≤ right.1)) :
    checkOverlaps sorted = .ok () ↔ ShareNoByte images := by
  have hproper : ∀ r ∈ sorted, r.1 < r.2 := fun r hr => lt_of_mem_ranges (hperm.subset hr)
  have hsymm : ∀ left right, Apart left right → Apart right left := fun left right h => h.symm
  rw [checkOverlaps_eq_ok hproper, ← pairwise_apart_iff hproper hsorted, shareNoByte_iff]
  exact hperm.pairwise_iff (fun {left right} => hsymm left right)

lemma validateComponentImageRanges_eq_ok (images : List ComponentImageInfo) (pkgSize : Nat) :
    validateComponentImageRanges images pkgSize = .ok () ↔ InBounds images pkgSize ∧
      ShareNoByte images := by
  have : Std.Total (fun left right : Nat × Nat => left.1 ≤ right.1) :=
    ⟨fun left right => le_total left.1 right.1⟩
  have : IsTrans (Nat × Nat) (fun left right => left.1 ≤ right.1) := ⟨fun _ _ _ h h' => le_trans h h'⟩
  have hsorted := pairwise_insertionSort (fun left right : Nat × Nat => left.1 ≤ right.1)
  unfold validateComponentImageRanges
  rw [bind_eq_ok]
  simp only [foldlM_checkRange_eq_ok (0, []) (Nat.zero_le pkgSize) (by decide), Nat.zero_add, nil_append]
  constructor
  · rintro ⟨last, ⟨hbounds, -, -, rfl⟩, hcheck⟩
    exact ⟨hbounds, (checkOverlaps_sorted_eq_ok (perm_insertionSort _ _) (hsorted _)).mp hcheck⟩
  · rintro ⟨hbounds, hshare⟩
    refine ⟨_, ⟨hbounds, totalSize_le hshare hbounds, totalSize_lt hshare, rfl⟩, ?_⟩
    exact (checkOverlaps_sorted_eq_ok (perm_insertionSort _ _) (hsorted _)).mpr hshare

variable {others : List ComponentImageInfo}

lemma inBounds_perm (h : images.Perm others) (pkgSize : Nat) :
    InBounds images pkgSize ↔ InBounds others pkgSize := by
  unfold InBounds
  simp only [h.mem_iff]

lemma shareNoByte_perm (h : images.Perm others) :
    ShareNoByte images ↔ ShareNoByte others := h.pairwise_iff (fun hdisjoint => hdisjoint.symm)

/-- The check accepts exactly the ranges in the package that share no byte, in any order. -/
theorem validateComponentImageRanges_exact (images : List ComponentImageInfo) (pkgSize : Nat) :
    (validateComponentImageRanges images pkgSize = .ok () ↔ InBounds images pkgSize ∧ ShareNoByte images) ∧
      (InBounds images pkgSize → ShareNoByte images → totalSize images ≤ pkgSize) ∧
      ∀ others, others.Perm images →
        (validateComponentImageRanges others pkgSize = .ok () ↔
          validateComponentImageRanges images pkgSize = .ok ()) := by
  refine ⟨validateComponentImageRanges_eq_ok images pkgSize, fun hbounds hshare =>
    totalSize_le hshare hbounds, ?_⟩
  intro others hperm
  rw [validateComponentImageRanges_eq_ok, validateComponentImageRanges_eq_ok, inBounds_perm hperm,
    shareNoByte_perm hperm]

end RackManagement.Pldm
