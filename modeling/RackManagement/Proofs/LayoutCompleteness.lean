import RackManagement.Proofs.LayoutPlanning

/-!
# No layout is missed

When the planner reports that there is no supported disjoint placement, there is none.
-/

namespace RackManagement.LayoutPlanner

open Library List

variable {profile : FabricLayoutProfile} {switches computes : List ObservedPlacement}
  {requested : List ScaleUpFabricSpec} {config : ScaleUpFabricConfig} {placements : List ResolvedPlacement}

/-- The rule makes the group from the inventory, and the group has the size that the rule is for. -/
structure Generates (switches computes : List ObservedPlacement) (rule : FabricRule)
    (group : DiscoveredGroup) : Prop where
  grouped : ∃ grouping groups, rule.grouping = some grouping ∧
    grouping.resolve (positions computes) (positions switches) = .ok groups ∧ group ∈ groups
  computeCount : group.computes.size = rule.computeTrayCount
  switchCount : group.switches.size = rule.switchTrayCount

/-- A group of the requested size with the requested primary for each request, no tray in two of them. -/
structure IsAssignment (profile : FabricLayoutProfile) (switches computes : List ObservedPlacement)
    (requested : List ScaleUpFabricSpec) (groups : Fin requested.length → DiscoveredGroup) : Prop where
  generated : ∀ i, ∃ rule ∈ profile.fabricRules, Generates switches computes rule (groups i)
  computeCount : ∀ i, (groups i).computes.size = (requested.get i).computeTrayCount
  switchCount : ∀ i, (groups i).switches.size = (requested.get i).switchTrayCount
  primary : ∀ i id, (requested.get i).primarySwitchNodeId = some id →
    ∃ node ∈ switches, node.nodeId = id ∧ node.position ∈ (groups i).switches
  computes_disjoint : ∀ i j, i ≠ j → ∀ position ∈ (groups i).computes, position ∉ (groups j).computes
  switches_disjoint : ∀ i j, i ≠ j → ∀ position ∈ (groups i).switches, position ∉ (groups j).switches

/-- The request passes every check that comes before the search. -/
structure PassesChecks (profile : FabricLayoutProfile) (switches computes : List ObservedPlacement)
    (requested : List ScaleUpFabricSpec) (config : ScaleUpFabricConfig) : Prop where
  profileValid : profile.validate = .ok ()
  inventoryValid : validateInventory profile switches computes = .ok ()
  configValid : ∃ managed, validateManagedConfig config = .ok managed
  totalsFit : checkTotals requested computes.length switches.length = .ok ()
  resolved : ∃ placements, resolvePlacements profile switches computes requested = .ok placements

def noDisjointPlacement : String := "requested fabric memberships have no supported disjoint placement"

lemma exists_placement {rule : FabricRule} {group : DiscoveredGroup} {spec : ScaleUpFabricSpec}
    (h : resolvePlacements profile switches computes requested = .ok placements)
    (hrule : rule ∈ profile.fabricRules)
    (hgenerates : Generates switches computes rule group) (hspec : spec ∈ requested)
    (hcomputes : group.computes.size = spec.computeTrayCount)
    (hswitches : group.switches.size = spec.switchTrayCount) :
    ∃ placement ∈ placements, placement.computePositions = group.computes ∧
      placement.switchPositions = group.switches := by
  obtain ⟨lists, hlists, h⟩ := bind_eq_ok.mp h
  cases h
  have hrequested : rule ∈ profile.fabricRules.filter (fun rule => requested.any (fun spec =>
      spec.computeTrayCount = rule.computeTrayCount ∧ spec.switchTrayCount = rule.switchTrayCount)) := by
    refine mem_filter.mpr ⟨hrule, any_eq_true.mpr ⟨spec, hspec, decide_eq_true ⟨?_, ?_⟩⟩⟩
    · exact hcomputes.symm.trans hgenerates.computeCount
    · exact hswitches.symm.trans hgenerates.switchCount
  obtain ⟨list, hlist, hplacements⟩ := exists_mem_of_mapM hlists hrequested
  obtain ⟨grouping, groups, hgrouping, hgroups, hmem⟩ := hgenerates.grouped
  unfold rulePlacements at hplacements
  rw [hgrouping] at hplacements
  obtain ⟨found, hfound, hplacements⟩ := bind_eq_ok.mp hplacements
  cases hgroups.symm.trans hfound
  have hsized : group ∈ groups.filter (fun group =>
      group.computes.size = rule.computeTrayCount ∧ group.switches.size = rule.switchTrayCount) :=
    mem_filter.mpr ⟨hmem, decide_eq_true ⟨hgenerates.computeCount, hgenerates.switchCount⟩⟩
  obtain ⟨placement, hplacement, hlinks⟩ := exists_mem_of_mapM hplacements hsized
  obtain ⟨links, -, hlinks⟩ := bind_eq_ok.mp hlinks
  cases hlinks
  exact ⟨_, (mem_insertionSort _).mpr (mem_flatten.mpr ⟨list, hlist, hplacement⟩), rfl, rfl⟩

variable {placement : ResolvedPlacement}

lemma holdsSwitch_of_mem {node : ObservedPlacement}
    (hids : (switches.map ObservedPlacement.nodeId).Nodup) (hnode : node ∈ switches) :
    holdsSwitch placement (.ofList (switches.map (fun node => (node.nodeId, node.position)))) node.nodeId =
      decide (node.position ∈ placement.switchPositions) := by
  have hlookup :
      (OrderedMap.ofList (switches.map (fun node => (node.nodeId, node.position)))).lookup node.nodeId =
      some node.position := by
    apply OrderedMap.lookup_ofList_of_mem
    · rw [map_map]
      exact hids
    · exact mem_map_of_mem hnode
  rw [holdsSwitch, hlookup, Option.any_some]

variable {groups : Fin requested.length → DiscoveredGroup}

lemma matchesRequest_of_isAssignment (hids : (switches.map ObservedPlacement.nodeId).Nodup)
    (h : IsAssignment profile switches computes requested groups)
    (i : Fin requested.length) (hcomputes : placement.computePositions = (groups i).computes)
    (hswitches : placement.switchPositions = (groups i).switches) :
    matchesRequest requested (.ofList (switches.map (fun node => (node.nodeId, node.position))))
      (requested.get i) i
      placement = true := by
  unfold matchesRequest
  simp only [Bool.and_eq_true, decide_eq_true_eq, Bool.not_eq_true']
  refine ⟨⟨⟨?_, ?_⟩, ?_⟩, ?_⟩
  · rw [hcomputes, h.computeCount]
  · rw [hswitches, h.switchCount]
  · rw [Option.all_eq_true]
    intro id hid
    obtain ⟨node, hnode, rfl, hposition⟩ := h.primary i id hid
    rw [holdsSwitch_of_mem hids hnode, decide_eq_true_iff, hswitches]
    exact hposition
  · rw [any_eq_false]
    rintro ⟨other, index⟩ hother hmatch
    obtain ⟨hne, hprimary⟩ := Bool.and_eq_true_iff.mp hmatch
    obtain ⟨hindex, heq⟩ := mem_zipIdx' hother
    obtain ⟨id, hid⟩ := Option.isSome_iff_exists.mp (Option.isSome_of_any hprimary)
    rw [hid, Option.any_some] at hprimary
    let j : Fin requested.length := ⟨index, hindex⟩
    have hrequest : requested.get j = other := heq.symm
    obtain ⟨node, hnode, rfl, hposition⟩ := h.primary j id (by rw [hrequest, hid])
    rw [holdsSwitch_of_mem hids hnode, decide_eq_true_iff, hswitches] at hprimary
    have hne : i ≠ j := fun heq => of_decide_eq_true hne (congrArg Fin.val heq.symm)
    exact h.switches_disjoint i j hne node.position hprimary hposition

lemma isChoice_of_isAssignment
    (hresolve : resolvePlacements profile switches computes requested = .ok placements)
    (hids : (switches.map ObservedPlacement.nodeId).Nodup)
    (h : IsAssignment profile switches computes requested groups) :
    ∃ indices choice, IsChoice (matchingPlacements placements requested
      (.ofList (switches.map (fun node => (node.nodeId, node.position))))) indices choice := by
  have hplacement : ∀ i, ∃ placement ∈ placements, placement.computePositions = (groups i).computes ∧
      placement.switchPositions = (groups i).switches := by
    intro i
    obtain ⟨rule, hrule, hgenerates⟩ := h.generated i
    exact exists_placement hresolve hrule hgenerates (get_mem requested i) (h.computeCount i)
      (h.switchCount i)
  choose placement hmem hcomputes hswitches using hplacement
  have hpicks : List.Forall₂ (fun pick options => pick ∈ options) (ofFn placement)
      (matchingPlacements placements requested
        (.ofList (switches.map (fun node => (node.nodeId, node.position))))) := by
    rw [forall₂_iff_get]
    refine ⟨by simp [matchingPlacements], fun i hi hoptions => ?_⟩
    have hi : i < requested.length := by simpa using hi
    simp only [matchingPlacements, List.get_eq_getElem, List.getElem_ofFn, List.getElem_map,
      List.getElem_zipIdx, Nat.zero_add]
    exact List.mem_filter.mpr ⟨hmem ⟨i, hi⟩,
      matchesRequest_of_isAssignment hids h ⟨i, hi⟩ (hcomputes ⟨i, hi⟩) (hswitches ⟨i, hi⟩)⟩
  obtain ⟨indices, hindices⟩ := Backtracking.exists_picks_iff.mpr hpicks
  refine ⟨indices, List.ofFn placement, hindices, List.pairwise_ofFn.mpr fun i j hij => ⟨?_, ?_⟩⟩
  · rw [hcomputes, hcomputes]
    exact h.computes_disjoint i j hij.ne
  · rw [hswitches, hswitches]
    exact h.switches_disjoint i j hij.ne

section Report

variable {error : String}

lemma applyTarget_error {targets : ControllerTargets} {target : FabricStaticConfigTarget}
    (h : applyTarget targets target = .error error) : error ≠ noDisjointPlacement := by
  unfold applyTarget at h
  dsimp only at h
  split at h
  all_goals
    split_ifs at h
    cases h
    decide

lemma resolveControllerConfig_error {computeTrayCount switchTrayCount : Nat}
    (h : resolveControllerConfig profile config computeTrayCount switchTrayCount = .error error) :
    error ≠ noDisjointPlacement := by
  unfold resolveControllerConfig at h
  split at h
  · cases h
    decide
  · obtain h | ⟨targets, -, h⟩ := bind_eq_error h
    · obtain ⟨target, targets, h⟩ := foldlM_eq_error h
      exact applyTarget_error h
    · obtain h | ⟨_, -, h⟩ := bind_eq_error h
      · rw [failIf_eq_error h]
        decide
      · cases h

variable {links : OrderedMap String LinkStates}

lemma planFabric_error {spec : ScaleUpFabricSpec}
    (h : planFabric profile switches computes config spec placement links = .error error) :
    error ≠ noDisjointPlacement := by
  obtain h | ⟨⟨managed, absent⟩, -, h⟩ := bind_eq_error h
  · exact resolveControllerConfig_error h
  · dsimp only at h
    split at h
    · cases h
      decide
    · obtain h | ⟨final, -, h⟩ := bind_eq_error h
      · obtain ⟨target, current, h⟩ := foldlM_eq_error h
        unfold assignLinks at h
        split at h
        · cases h
          decide
        · cases h
      · cases h

lemma planFabrics_error {pairs : List (ScaleUpFabricSpec × ResolvedPlacement)}
    (h : planFabrics profile switches computes config pairs links = .error error) :
    error ≠ noDisjointPlacement := by
  induction pairs generalizing links with
  | nil => cases h
  | cons pair pairs ih =>
    obtain h | ⟨⟨fabric, middle⟩, -, h⟩ := bind_eq_error h
    · exact planFabric_error h
    · obtain h | ⟨⟨fabrics, final⟩, -, h⟩ := bind_eq_error h
      · exact ih h
      · cases h

variable {preferred : Option String}

lemma fullRackPrimary_error (h : fullRackPrimary switches preferred = .error error) :
    error ≠ noDisjointPlacement := by
  cases preferred with
  | some id =>
    rw [fullRackPrimary] at h
    split_ifs at h
    cases h
    decide
  | none =>
    rw [fullRackPrimary] at h
    split at h
    · cases h
    · cases h
      decide

lemma planFullRack_error (hconfig : ∃ managed, validateManagedConfig config = .ok managed)
    (h : planFullRack profile switches computes config preferred = .error error) :
    error ≠ noDisjointPlacement := by
  obtain ⟨managed, hmanaged⟩ := hconfig
  obtain h | ⟨_, -, h⟩ := bind_eq_error h
  · rw [failIf_eq_error h]
    decide
  obtain h | ⟨found, -, h⟩ := bind_eq_error h
  · cases hmanaged.symm.trans h
  obtain h | ⟨⟨resolved, absent⟩, -, h⟩ := bind_eq_error h
  · exact resolveControllerConfig_error h
  obtain h | ⟨primary, -, h⟩ := bind_eq_error h
  · exact fullRackPrimary_error h
  · cases h

lemma selectPlacements_of_planSmaller (hchecks : PassesChecks profile switches computes requested config)
    (hresolve : resolvePlacements profile switches computes requested = .ok placements)
    (h : planSmaller profile switches computes requested config = .error noDisjointPlacement) :
    selectPlacements (matchingPlacements placements requested
      (.ofList (switches.map (fun node => (node.nodeId, node.position))))) = none := by
  obtain ⟨managed, hmanaged⟩ := hchecks.configValid
  obtain h | ⟨_, -, h⟩ := bind_eq_error h
  · exact absurd (failIf_eq_error h) (by decide)
  obtain h | ⟨found, -, h⟩ := bind_eq_error h
  · cases hmanaged.symm.trans h
  obtain h | ⟨_, -, h⟩ := bind_eq_error h
  · cases hchecks.totalsFit.symm.trans h
  obtain h | ⟨others, hothers, h⟩ := bind_eq_error h
  · cases hresolve.symm.trans h
  cases hresolve.symm.trans hothers
  dsimp only at h
  split at h
  · assumption
  · obtain h | ⟨⟨fabrics, links⟩, -, h⟩ := bind_eq_error h
    · exact absurd rfl (planFabrics_error h)
    · cases h

end Report

/-- When the planner reports that no placement exists, the rules admit none. -/
theorem planLayout_complete (hchecks : PassesChecks profile switches computes requested config)
    (h : planLayout profile switches computes requested config =
      .error "requested fabric memberships have no supported disjoint placement") :
    ¬∃ groups, IsAssignment profile switches computes requested groups := by
  rintro ⟨groups, hassignment⟩
  obtain ⟨placements, hresolve⟩ := hchecks.resolved
  obtain h | ⟨_, -, h⟩ := bind_eq_error h
  · cases hchecks.profileValid.symm.trans h
  obtain h | ⟨_, -, h⟩ := bind_eq_error h
  · cases hchecks.inventoryValid.symm.trans h
  split at h
  · exact planFullRack_error hchecks.configValid h rfl
  · have hnone := selectPlacements_of_planSmaller hchecks hresolve h
    have hids := (distinct_of_validateInventory hchecks.inventoryValid).switchIds
    obtain ⟨indices, choice, hchoice⟩ := isChoice_of_isAssignment hresolve hids hassignment
    exact not_isChoice_of_selectPlacements hnone hchoice

/-- Both pairs of the rack are requested by the same switch. -/
theorem pairedRack_unplaceable :
    PassesChecks pairedRack pairedSwitches pairedComputes [⟨1, 1, some "s2"⟩, ⟨1, 1, some "s2"⟩]
      ⟨"rack", []⟩ ∧
      ¬∃ groups, IsAssignment pairedRack pairedSwitches pairedComputes
        [⟨1, 1, some "s2"⟩, ⟨1, 1, some "s2"⟩] groups := by
  have hok : ∀ {α : Type} {x : Except String α}, x.isOk = true → ∃ a, x = .ok a := by
    intro α x hok
    cases x with
    | error error => cases hok
    | ok a => exact ⟨a, rfl⟩
  have hchecks : PassesChecks pairedRack pairedSwitches pairedComputes
    [⟨1, 1, some "s2"⟩, ⟨1, 1, some "s2"⟩] ⟨"rack", []⟩ := {
    profileValid := (hok (by decide +kernel)).choose_spec
    inventoryValid := (hok (by decide +kernel)).choose_spec
    configValid := hok (by decide +kernel)
    totalsFit := rfl
    resolved := hok (by decide +kernel) }
  refine ⟨hchecks, planLayout_complete hchecks ?_⟩
  have hreport :
      (match planLayout pairedRack pairedSwitches pairedComputes [⟨1, 1, some "s2"⟩, ⟨1, 1, some "s2"⟩]
      ⟨"rack", []⟩ with
    | .error error => error
    | .ok _ => "") = noDisjointPlacement := by decide +kernel
  cases hplan :
    planLayout pairedRack pairedSwitches pairedComputes [⟨1, 1, some "s2"⟩, ⟨1, 1, some "s2"⟩]
      ⟨"rack", []⟩ with
  | error error =>
    rw [hplan] at hreport
    exact congrArg Except.error hreport
  | ok plan =>
    rw [hplan] at hreport
    have hempty : "" = noDisjointPlacement := hreport
    exact absurd hempty (by decide)

end RackManagement.LayoutPlanner
