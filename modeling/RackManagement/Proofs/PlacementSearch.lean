import RackManagement.Model.LayoutPlanner

/-! # The placement search -/

namespace RackManagement.LayoutPlanner

open Library List

/-- The placements share no tray. -/
structure Apart (a b : ResolvedPlacement) : Prop where
  computes : ∀ position ∈ a.computePositions, position ∉ b.computePositions
  switches : ∀ position ∈ a.switchPositions, position ∉ b.switchPositions

variable {selected : List ResolvedPlacement}

lemma isFree_iff {placement : ResolvedPlacement} :
    isFree (placementState selected) placement = true ↔ ∀ other ∈ selected, Apart other placement := by
  have hcomputes : ∀ position, position ∈ (placementState selected).computePositions ↔
      ∃ other ∈ selected, position ∈ other.computePositions := by
    intro position
    rw [placementState, OrderedSet.mem_ofList, mem_flatMap]
    rfl
  have hswitches : ∀ position, position ∈ (placementState selected).switchPositions ↔
      ∃ other ∈ selected, position ∈ other.switchPositions := by
    intro position
    rw [placementState, OrderedSet.mem_ofList, mem_flatMap]
    rfl
  rw [isFree, Bool.and_eq_true, OrderedSet.isDisjoint_iff, OrderedSet.isDisjoint_iff]
  constructor
  · rintro ⟨hfreeComputes, hfreeSwitches⟩ other hother
    constructor
    · intro position hposition hmem
      exact hfreeComputes position hmem ((hcomputes position).mpr ⟨other, hother, hposition⟩)
    · intro position hposition hmem
      exact hfreeSwitches position hmem ((hswitches position).mpr ⟨other, hother, hposition⟩)
  · intro hapart
    constructor
    · intro position hmem hposition
      obtain ⟨other, hother, hposition⟩ := (hcomputes position).mp hposition
      exact (hapart other hother).computes position hposition hmem
    · intro position hmem hposition
      obtain ⟨other, hother, hposition⟩ := (hswitches position).mp hposition
      exact (hapart other hother).switches position hposition hmem

variable {picks : List ResolvedPlacement}

lemma fitting_iff : Backtracking.Fitting placementState isFree selected picks ↔
      picks.Pairwise Apart ∧ ∀ a ∈ selected, ∀ b ∈ picks, Apart a b := by
  induction picks generalizing selected with
  | nil => simp [Backtracking.Fitting]
  | cons pick picks ih =>
    rw [Backtracking.Fitting, isFree_iff, ih, pairwise_cons]
    constructor
    · rintro ⟨hfree, hpairwise, hlater⟩
      refine ⟨⟨hlater pick (by simp), hpairwise⟩, fun a ha => ?_⟩
      exact forall_mem_cons.mpr ⟨hfree a ha, hlater a (mem_append_left _ ha)⟩
    · rintro ⟨⟨hpick, hpairwise⟩, hearlier⟩
      refine ⟨fun a ha => hearlier a ha pick mem_cons_self, hpairwise, forall_mem_append.mpr ⟨?_, ?_⟩⟩
      · exact fun a ha b hb => hearlier a ha b (mem_cons_of_mem _ hb)
      · exact forall_mem_singleton.mpr hpick

lemma determines_placementState : Backtracking.Determines placementState where
  length := fun _ _ h => congrArg FailedPlacementState.nextRequest h
  push := by
    intro selected other pick h
    have hlength : selected.length = other.length := congrArg FailedPlacementState.nextRequest h
    have hcomputes : OrderedSet.ofList _ = OrderedSet.ofList _ :=
      congrArg FailedPlacementState.computePositions h
    have hswitches : OrderedSet.ofList _ = OrderedSet.ofList _ :=
      congrArg FailedPlacementState.switchPositions h
    rw [OrderedSet.ext_iff] at hcomputes hswitches
    simp only [OrderedSet.mem_ofList] at hcomputes hswitches
    unfold placementState
    congr 1
    · rw [length_append, length_append, hlength]
    · ext position
      rw [OrderedSet.mem_ofList, OrderedSet.mem_ofList, flatMap_append, flatMap_append, mem_append,
        mem_append, hcomputes]
    · ext position
      rw [OrderedSet.mem_ofList, OrderedSet.mem_ofList, flatMap_append, flatMap_append, mem_append,
        mem_append, hswitches]

variable (candidates : List (List ResolvedPlacement))

lemma selectPlacementsInPlace_eq (selected : List ResolvedPlacement) (failed : List FailedPlacementState) :
    selectPlacementsInPlace candidates selected failed =
      Backtracking.inPlace selected
        (Backtracking.search placementState isFree (candidates.drop selected.length) selected failed) := by
  rw [selectPlacementsInPlace, Backtracking.searchInPlace_eq]

lemma selectPlacementsInPlace_kept (selected : List ResolvedPlacement)
    (failed : List FailedPlacementState)
    (h : (selectPlacementsInPlace candidates selected failed).1 = false) :
    (selectPlacementsInPlace candidates selected failed).2.1 = selected := by
  rw [selectPlacementsInPlace_eq] at h ⊢
  cases hsearch :
    Backtracking.search placementState isFree (candidates.drop selected.length) selected failed with
  | mk found later =>
    rw [hsearch] at h
    cases found with
    | none => rfl
    | some found => cases h

lemma selectPlacementsInPlace_nil :
    (selectPlacementsInPlace candidates [] []).1 = (selectPlacements candidates).isSome ∧
      (selectPlacementsInPlace candidates [] []).2.1 = (selectPlacements candidates).getD [] := by
  rw [selectPlacementsInPlace_eq, selectPlacements, length_nil, drop_zero]
  cases Backtracking.search placementState isFree candidates [] [] with
  | mk found later => cases found <;> exact ⟨rfl, rfl⟩

/-- One candidate for each request, at the given positions, such that no tray is used twice. -/
def IsChoice (candidates : List (List ResolvedPlacement)) (indices : List Nat)
    (choice : List ResolvedPlacement) : Prop :=
  Backtracking.Picks candidates indices choice ∧ choice.Pairwise Apart

lemma fitting_nil_iff :
    Backtracking.Fitting placementState isFree [] picks ↔ picks.Pairwise Apart := by
  rw [fitting_iff]
  simp

variable {candidates : List (List ResolvedPlacement)}

lemma not_isChoice_of_selectPlacements
    (h : selectPlacements candidates = none) {indices : List Nat} {choice : List ResolvedPlacement} :
    ¬IsChoice candidates indices choice := by
  rw [selectPlacements, Backtracking.search_eq_plainSearch determines_placementState] at h
  rintro ⟨hpicks, hapart⟩
  exact Backtracking.plainSearch_eq_none h hpicks (fitting_nil_iff.mpr hapart)

lemma isChoice_of_selectPlacements (h : selectPlacements candidates = some selected) :
    ∃ indices, IsChoice candidates indices selected ∧
      ∀ others choice, IsChoice candidates others choice → indices = others ∨
        List.Lex (· < ·) indices others := by
  rw [selectPlacements, Backtracking.search_eq_plainSearch determines_placementState] at h
  obtain ⟨indices, picks, rfl, hfirst⟩ := Backtracking.plainSearch_eq_some h
  refine ⟨indices, ⟨hfirst.picked, fitting_nil_iff.mp hfirst.fitting⟩, ?_⟩
  rintro others choice ⟨hpicks, hapart⟩
  exact hfirst.first others choice hpicks (fitting_nil_iff.mpr hapart)

/-- The search selects the first choice if there is one, as plain backtracking does; a search that
fails leaves the selection as it was. -/
theorem selectPlacementsInPlace_exact (candidates : List (List ResolvedPlacement)) :
    ((selectPlacementsInPlace candidates [] []).1 = true ↔
      ∃ indices choice, IsChoice candidates indices choice) ∧
      ((selectPlacementsInPlace candidates [] []).1 = true →
        ∃ indices, IsChoice candidates indices (selectPlacementsInPlace candidates [] []).2.1 ∧
          ∀ others choice, IsChoice candidates others choice → indices = others ∨
            List.Lex (· < ·) indices others) ∧
      (∀ selected failed, (selectPlacementsInPlace candidates selected failed).1 = false →
        (selectPlacementsInPlace candidates selected failed).2.1 = selected) ∧
      (if (selectPlacementsInPlace candidates [] []).1 then
          some (selectPlacementsInPlace candidates [] []).2.1 else none) =
        Backtracking.plainSearch placementState isFree candidates [] := by
  have hplain :
      selectPlacements candidates = Backtracking.plainSearch placementState isFree candidates [] :=
    Backtracking.search_eq_plainSearch determines_placementState candidates
  obtain ⟨hfound, hselected⟩ := selectPlacementsInPlace_nil candidates
  refine ⟨?_, ?_, selectPlacementsInPlace_kept candidates, ?_⟩
  · rw [hfound, Option.isSome_iff_exists]
    constructor
    · rintro ⟨selected, hsome⟩
      obtain ⟨indices, hchoice, -⟩ := isChoice_of_selectPlacements hsome
      exact ⟨indices, selected, hchoice⟩
    · rintro ⟨indices, choice, hchoice⟩
      rw [← Option.ne_none_iff_exists']
      exact fun hnone => not_isChoice_of_selectPlacements hnone hchoice
  · rw [hfound, hselected, Option.isSome_iff_exists]
    rintro ⟨selected, hsome⟩
    rw [hsome, Option.getD_some]
    exact isChoice_of_selectPlacements hsome
  · rw [hfound, hselected, ← hplain]
    cases selectPlacements candidates <;> rfl

end RackManagement.LayoutPlanner
