import RackManagement.Proofs.LayoutPlanning

/-!
# The order of the inventory

The planner brings the trays into an order of its own, so that the plan depends only on which trays
there are.
-/

namespace RackManagement.LayoutPlanner

open Library List

variable {profile : FabricLayoutProfile}
  {switches computes nodes otherSwitches otherComputes others : List ObservedPlacement}

lemma claimPositions_of_perm {slots otherSlots taken : List Nat} (hperm : nodes.Perm others)
    (hslots : slots.Perm otherSlots) (h : claimPositions nodes [] slots = .ok taken) :
    ∃ otherTaken, claimPositions others [] otherSlots = .ok otherTaken ∧ taken.Perm otherTaken := by
  obtain ⟨⟨hindices, -⟩, ⟨hnodup, hdisjoint⟩, rfl⟩ := claimPositions_eq_ok.mp h
  have hmap := hperm.map (fun node => node.position.slotNumber)
  refine ⟨_, claimPositions_eq_ok.mpr ⟨⟨?_, ?_⟩, ⟨?_, ?_⟩, rfl⟩, ?_⟩
  · exact (hperm.map _).nodup_iff.mp hindices
  · exact disjoint_nil_right _
  · exact hmap.nodup_iff.mp hnodup
  · intro slot hmem hslot
    exact hdisjoint (hmap.mem_iff.mpr hmem) (hslots.mem_iff.mpr hslot)
  · exact (((reverse_perm _).trans hmap).trans (reverse_perm _).symm).append hslots

lemma validateInventory_of_perm (hswitches : switches.Perm otherSwitches)
    (hcomputes : computes.Perm otherComputes)
    (h : validateInventory profile switches computes = .ok ()) :
    validateInventory profile otherSwitches otherComputes = .ok () := by
  obtain ⟨_, hcheck, h⟩ := bind_eq_ok.mp h
  obtain ⟨slots, hslots, h⟩ := bind_eq_ok.mp h
  obtain ⟨taken, htaken, hidentity⟩ := bind_eq_ok.mp h
  have hnodes := hswitches.append hcomputes
  have hserials := OrderedSet.ofList_eq_of_perm (hnodes.map ObservedPlacement.chassisSerialNumber)
  have hids := OrderedSet.ofList_eq_of_perm (hnodes.map ObservedPlacement.nodeId)
  rw [hserials, hids, hswitches.length_eq, hcomputes.length_eq] at hcheck
  obtain ⟨otherSlots, hotherSlots, hperm⟩ := claimPositions_of_perm hswitches (.refl []) hslots
  obtain ⟨otherTaken, hotherTaken, -⟩ := claimPositions_of_perm hcomputes hperm htaken
  rw [hswitches.any_eq, hcomputes.any_eq] at hidentity
  refine bind_eq_ok.mpr ⟨(), hcheck, bind_eq_ok.mpr ⟨otherSlots, hotherSlots, ?_⟩⟩
  exact bind_eq_ok.mpr ⟨otherTaken, hotherTaken, hidentity⟩

lemma positions_eq_of_perm (hperm : nodes.Perm others) : positions nodes = positions others :=
  OrderedSet.ofList_eq_of_perm (hperm.map ObservedPlacement.position)

instance : Std.Total (fun a b : ObservedPlacement => a.position ≤ b.position) :=
  ⟨fun a b => le_total a.position b.position⟩

instance : IsTrans ObservedPlacement (fun a b => a.position ≤ b.position) := ⟨fun _ _ _ => le_trans⟩

lemma sortByPosition_eq_of_perm (hperm : nodes.Perm others)
    (hnodup : (nodes.map ObservedPlacement.position).Nodup) :
    sortByPosition nodes = sortByPosition others := by
  have hsorted := ((perm_sortByPosition nodes).trans hperm).trans (perm_sortByPosition others).symm
  apply hsorted.eq_of_pairwise _ (pairwise_insertionSort _ nodes) (pairwise_insertionSort _ others)
  intro a b ha hb hab hba
  have ha := (perm_sortByPosition nodes).mem_iff.mp ha
  have hb := hperm.mem_iff.mpr ((perm_sortByPosition others).mem_iff.mp hb)
  exact inj_on_of_nodup_map hnodup ha hb (le_antisymm hab hba)

lemma membersAt_eq_of_perm (hperm : nodes.Perm others)
    (hnodup : (nodes.map ObservedPlacement.position).Nodup) :
    membersAt nodes = membersAt others := by
  funext positions
  exact sortByPosition_eq_of_perm (hperm.filter _) (hnodup.sublist (filter_sublist.map _))

lemma resolvePlacements_eq_of_perm (hswitches : switches.Perm otherSwitches)
    (hcomputes : computes.Perm otherComputes) :
    resolvePlacements profile switches computes =
      resolvePlacements profile otherSwitches otherComputes := by
  have hrule :
      rulePlacements profile switches computes = rulePlacements profile otherSwitches otherComputes := by
    funext rule
    unfold rulePlacements
    rw [positions_eq_of_perm hswitches, positions_eq_of_perm hcomputes]
  funext requested
  unfold resolvePlacements
  rw [hrule]

lemma ofList_eq_of_perm {β : Type} {f : ObservedPlacement → β} (hperm : nodes.Perm others)
    (hids : (nodes.map ObservedPlacement.nodeId).Nodup) :
    OrderedMap.ofList (nodes.map (fun node => (node.nodeId, f node))) =
      OrderedMap.ofList (others.map (fun node => (node.nodeId, f node))) := by
  apply OrderedMap.insertAll_eq_of_perm (hperm.map _)
  rw [map_map]
  exact hids

section Plans

variable (hdistinct : Distinct profile switches computes) (hswitches : switches.Perm otherSwitches)
  (hcomputes : computes.Perm otherComputes)

include hdistinct hswitches hcomputes

lemma planFabrics_eq_of_perm :
    planFabrics profile switches computes = planFabrics profile otherSwitches otherComputes := by
  have hfabric : planFabric profile switches computes = planFabric profile otherSwitches otherComputes := by
    funext config spec placement links
    unfold planFabric
    rw [membersAt_eq_of_perm hswitches hdistinct.switchPositions,
      membersAt_eq_of_perm hcomputes hdistinct.computePositions]
  funext config pairs links
  induction pairs generalizing links with
  | nil => rfl
  | cons pair pairs ih => simp only [planFabrics, hfabric, ih]

lemma planSmaller_eq_of_perm :
    planSmaller profile switches computes = planSmaller profile otherSwitches otherComputes := by
  have hempty : computes.isEmpty = otherComputes.isEmpty := by
    rw [Bool.eq_iff_iff, isEmpty_iff_length_eq_zero, isEmpty_iff_length_eq_zero, hcomputes.length_eq]
  funext requested config
  unfold planSmaller disabledLinks
  rw [hempty, hswitches.length_eq, hcomputes.length_eq, resolvePlacements_eq_of_perm hswitches hcomputes,
    planFabrics_eq_of_perm hdistinct hswitches hcomputes, ofList_eq_of_perm hswitches hdistinct.switchIds,
    ofList_eq_of_perm hswitches hdistinct.switchIds]

lemma planFullRack_eq_of_perm :
    planFullRack profile switches computes = planFullRack profile otherSwitches otherComputes := by
  have hnil : computes = [] ↔ otherComputes = [] := by
    rw [← length_eq_zero_iff, ← length_eq_zero_iff, hcomputes.length_eq]
  funext config preferred
  unfold planFullRack
  simp only [ne_eq, hnil, hcomputes.length_eq,
    sortByPosition_eq_of_perm hswitches hdistinct.switchPositions,
    sortByPosition_eq_of_perm hcomputes hdistinct.computePositions]

end Plans

/-- Inventories of the same trays get the same plan, or none. -/
theorem planLayout_eq_of_perm (profile : FabricLayoutProfile) (requested : List ScaleUpFabricSpec)
    (config : ScaleUpFabricConfig) (hswitches : switches.Perm otherSwitches)
    (hcomputes : computes.Perm otherComputes) :
    (planLayout profile switches computes requested config).toOption =
      (planLayout profile otherSwitches otherComputes requested config).toOption := by
  unfold planLayout
  cases profile.validate with
  | error error => rfl
  | ok valid =>
    cases hinventory : validateInventory profile switches computes with
    | ok checked =>
      have hdistinct := distinct_of_validateInventory hinventory
      rw [validateInventory_of_perm hswitches hcomputes hinventory,
        planSmaller_eq_of_perm hdistinct hswitches hcomputes,
        planFullRack_eq_of_perm hdistinct hswitches hcomputes]
    | error error =>
      cases hother : validateInventory profile otherSwitches otherComputes with
      | error other => rfl
      | ok checked =>
        have hok := validateInventory_of_perm hswitches.symm hcomputes.symm hother
        cases hinventory.symm.trans hok

/-- The rack of two pairs, reported backwards. -/
theorem pairedRack_reversed :
    (planLayout pairedRack pairedSwitches pairedComputes [⟨1, 1, none⟩] ⟨"rack", []⟩).isOk = true ∧
      (planLayout pairedRack pairedSwitches pairedComputes [⟨1, 1, none⟩] ⟨"rack", []⟩).toOption =
        (planLayout pairedRack pairedSwitches.reverse pairedComputes.reverse [⟨1, 1, none⟩]
          ⟨"rack", []⟩).toOption :=
  ⟨by decide +kernel, planLayout_eq_of_perm pairedRack [⟨1, 1, none⟩] ⟨"rack", []⟩ (reverse_perm _).symm
    (reverse_perm _).symm⟩

end RackManagement.LayoutPlanner
