import RackManagement.Proofs.LinkExpansion
import RackManagement.Proofs.PlacementSearch

/-!
# Plans meet the request

A plan has the requested sizes and primaries, shares no tray between fabrics, and gives every switch
a target for exactly the controlled interfaces.
-/

namespace RackManagement

open Library List OrderedMap

/-- The sizes are the requested ones; a request for the whole rack that supplies no computes
gets none. -/
def PlannedFabric.HasSize (profile : FabricLayoutProfile) (computes : List ObservedPlacement)
    (requested : List ScaleUpFabricSpec) (spec : ScaleUpFabricSpec) (fabric : PlannedFabric) : Prop :=
  fabric.assignment.switchNodeIds.length = spec.switchTrayCount ∧
    (fabric.assignment.computeNodeIds.length = spec.computeTrayCount ∨
      (computes = [] ∧ fabric.assignment.computeNodeIds = [] ∧ requested = [spec] ∧
        spec.computeTrayCount = profile.computeTrayCount ∧ spec.switchTrayCount = profile.switchTrayCount))

def PlannedFabric.HasPrimary (spec : ScaleUpFabricSpec) (fabric : PlannedFabric) : Prop :=
  fabric.assignment.primarySwitchNodeId ∈ fabric.assignment.switchNodeIds ∧
    ∀ id, spec.primarySwitchNodeId = some id → fabric.assignment.primarySwitchNodeId = id

/-- What a plan owes to its request and to the inventory. -/
structure FabricPlan.Sound (profile : FabricLayoutProfile) (switches computes : List ObservedPlacement)
    (requested : List ScaleUpFabricSpec) (plan : FabricPlan) : Prop where
  sizes : List.Forall₂ (PlannedFabric.HasSize profile computes requested) requested plan.fabrics
  switches_disjoint : (plan.fabrics.flatMap (fun fabric => fabric.assignment.switchNodeIds)).Nodup
  computes_disjoint : (plan.fabrics.flatMap (fun fabric => fabric.assignment.computeNodeIds)).Nodup
  switches_supplied :
    ∀ fabric ∈ plan.fabrics, fabric.assignment.switchNodeIds ⊆ switches.map ObservedPlacement.nodeId
  computes_supplied :
    ∀ fabric ∈ plan.fabrics, fabric.assignment.computeNodeIds ⊆ computes.map ObservedPlacement.nodeId
  primaries : List.Forall₂ PlannedFabric.HasPrimary requested plan.fabrics
  links_cover : plan.links.keys.Perm (switches.map ObservedPlacement.nodeId)
  links_complete :
    ∀ id states, plan.links.lookup id = some states → states.keys = profile.fullLinkStates.keys
  unassigned_down : ∀ id states, (∀ fabric ∈ plan.fabrics, id ∉ fabric.assignment.switchNodeIds) →
    plan.links.lookup id = some states → ∀ interface state, states.lookup interface = some state →
      state = .down

namespace FabricGrouping

variable {grouping : FabricGrouping} {computes switches : OrderedSet FabricPosition}

lemma mem_of_mem_members {term : IndexTerm} {positions : OrderedSet FabricPosition}
    {numbers : List (Int × FabricPosition)}
    {group : Int} {position : FabricPosition} (h : groupNumbers term positions = .ok numbers)
    (hmem : position ∈ members numbers group) : position ∈ positions := by
  obtain ⟨entry, hentry, rfl⟩ := mem_map.mp (OrderedSet.mem_ofList.mp hmem)
  obtain ⟨position, hposition, hnumber⟩ := exists_of_mem_mapM h (mem_of_mem_filter hentry)
  obtain ⟨value, -, hnumber⟩ := bind_eq_ok.mp hnumber
  cases hnumber
  exact hposition

lemma subset_of_mem_resolve {groups : List DiscoveredGroup} {group : DiscoveredGroup}
    (h : grouping.resolve computes switches = .ok groups) (hmem : group ∈ groups) :
    (∀ position ∈ group.computes, position ∈ computes) ∧
      (∀ position ∈ group.switches, position ∈ switches) := by
  obtain ⟨_, -, h⟩ := bind_eq_ok.mp h
  obtain ⟨computeGroups, hcomputes, h⟩ := bind_eq_ok.mp h
  obtain ⟨switchGroups, hswitches, h⟩ := bind_eq_ok.mp h
  cases h
  obtain ⟨number, -, hgroup⟩ := mem_filterMap.mp hmem
  dsimp only at hgroup
  split_ifs at hgroup
  cases hgroup
  exact ⟨fun _ => mem_of_mem_members hcomputes, fun _ => mem_of_mem_members hswitches⟩

end FabricGrouping

namespace LayoutPlanner

variable {profile : FabricLayoutProfile} {switches computes nodes : List ObservedPlacement}
  {requested : List ScaleUpFabricSpec} {config : ScaleUpFabricConfig}

lemma claimPositions_eq_ok {indices slots taken : List Nat} :
    claimPositions nodes indices slots = .ok taken ↔
      ((nodes.map (fun node => node.position.trayIndex)).Nodup ∧
        (nodes.map (fun node => node.position.trayIndex)).Disjoint indices) ∧
      ((nodes.map (fun node => node.position.slotNumber)).Nodup ∧
        (nodes.map (fun node => node.position.slotNumber)).Disjoint slots) ∧
      taken = (nodes.map (fun node => node.position.slotNumber)).reverse ++ slots := by
  induction nodes generalizing indices slots with
  | nil => simp [claimPositions, eq_comm]
  | cons node nodes ih =>
    by_cases htaken : node.position.trayIndex ∈ indices ∨ node.position.slotNumber ∈ slots
    · rw [claimPositions, if_pos htaken]
      constructor
      · intro h
        cases h
      · rintro ⟨⟨-, hindices⟩, ⟨-, hslots⟩, -⟩
        exact htaken.elim (fun hmem => (hindices mem_cons_self hmem).elim)
          (fun hmem => (hslots mem_cons_self hmem).elim)
    · rw [claimPositions, if_neg htaken, ih]
      simp only [map_cons, nodup_cons, disjoint_cons_left, disjoint_cons_right, reverse_cons,
        append_assoc, cons_append, nil_append]
      tauto

lemma nodup_positions_of_claimPositions {slots taken : List Nat}
    (h : claimPositions nodes [] slots = .ok taken) :
    (nodes.map ObservedPlacement.position).Nodup := by
  apply List.Nodup.of_map FabricPosition.trayIndex
  rw [map_map]
  exact (claimPositions_eq_ok.mp h).1.1

/-- The trays are told apart by their identifiers and by their positions. -/
structure Distinct (profile : FabricLayoutProfile) (switches computes : List ObservedPlacement) : Prop where
  switchIds : (switches.map ObservedPlacement.nodeId).Nodup
  computeIds : (computes.map ObservedPlacement.nodeId).Nodup
  switchPositions : (switches.map ObservedPlacement.position).Nodup
  computePositions : (computes.map ObservedPlacement.position).Nodup
  switchCount : switches.length = profile.switchTrayCount

lemma distinct_of_validateInventory (h : validateInventory profile switches computes = .ok ()) :
    Distinct profile switches computes := by
  obtain ⟨_, hcheck, h⟩ := bind_eq_ok.mp h
  obtain ⟨slots, hslots, h⟩ := bind_eq_ok.mp h
  obtain ⟨taken, htaken, -⟩ := bind_eq_ok.mp h
  have hcheck := failIf_eq_ok.mp hcheck
  simp only [not_or, not_not] at hcheck
  obtain ⟨-, -, hids, -, hcount, -⟩ := hcheck
  have hnodup : ((switches ++ computes).map ObservedPlacement.nodeId).Nodup := by
    rw [← OrderedSet.size_ofList_eq_iff, hids, length_map, length_append]
  rw [map_append] at hnodup
  exact {
    switchIds := hnodup.of_append_left
    computeIds := hnodup.of_append_right
    switchPositions := nodup_positions_of_claimPositions hslots
    computePositions := nodup_positions_of_claimPositions htaken
    switchCount := hcount }

lemma perm_sortByPosition (nodes : List ObservedPlacement) : (sortByPosition nodes).Perm nodes :=
  perm_insertionSort _ nodes

variable {positions : OrderedSet FabricPosition} {placements : List ResolvedPlacement}
  {placement : ResolvedPlacement}
  {id : String} {spec : ScaleUpFabricSpec} {links result : OrderedMap String LinkStates}
    {states : LinkStates}
  {fabric : PlannedFabric} {fabrics : List PlannedFabric}

lemma mem_membersAt {node : ObservedPlacement} :
    node ∈ membersAt nodes positions ↔ node ∈ nodes ∧ node.position ∈ positions := by
  rw [membersAt, (perm_sortByPosition _).mem_iff, mem_filter, decide_eq_true_iff]

lemma nodup_map_membersAt {α : Type} {f : ObservedPlacement → α} (h : (nodes.map f).Nodup)
    (positions : OrderedSet FabricPosition) : ((membersAt nodes positions).map f).Nodup := by
  rw [membersAt, ((perm_sortByPosition _).map f).nodup_iff]
  exact h.sublist (filter_sublist.map f)

lemma length_membersAt (hnodup : (nodes.map ObservedPlacement.position).Nodup)
    (hsubset : ∀ position ∈ positions, position ∈ nodes.map ObservedPlacement.position) :
    (membersAt nodes positions).length = positions.size := by
  have hperm : ((membersAt nodes positions).map ObservedPlacement.position).Perm positions.toList := by
    rw [perm_ext_iff_of_nodup (nodup_map_membersAt hnodup positions) positions.nodup_toList]
    intro position
    rw [mem_map]
    constructor
    · rintro ⟨node, hnode, rfl⟩
      exact (mem_membersAt.mp hnode).2
    · intro hmem
      obtain ⟨node, hnode, rfl⟩ := mem_map.mp (hsubset position hmem)
      exact ⟨node, mem_membersAt.mpr ⟨hnode, hmem⟩, rfl⟩
  rw [← length_map, hperm.length_eq]
  rfl

lemma map_membersAt_subset :
    (membersAt nodes positions).map ObservedPlacement.nodeId ⊆ nodes.map ObservedPlacement.nodeId :=
  map_subset _ (fun _ hmem => (mem_membersAt.mp hmem).1)

variable {get : ResolvedPlacement → OrderedSet FabricPosition} {selected : List ResolvedPlacement}

lemma nodup_flatMap_membersAt (hids : (nodes.map ObservedPlacement.nodeId).Nodup)
    (hapart : selected.Pairwise (fun a b => ∀ position ∈ get a, position ∉ get b)) :
    (selected.flatMap (fun placement =>
      (membersAt nodes (get placement)).map ObservedPlacement.nodeId)).Nodup := by
  apply nodup_flatMap.mpr
  refine ⟨fun placement _ => nodup_map_membersAt hids _, hapart.imp ?_⟩
  intro a b hab id ha hb
  obtain ⟨node, hnode, hid⟩ := mem_map.mp ha
  obtain ⟨other, hother, hsame⟩ := mem_map.mp hb
  have hnode := mem_membersAt.mp hnode
  have hother := mem_membersAt.mp hother
  have heq : node = other := inj_on_of_nodup_map hids hnode.1 hother.1 (hid.trans hsame.symm)
  exact hab node.position hnode.2 (heq ▸ hother.2)

/-- The positions and targets of a placement come from the inventory and the profile. -/
structure Resolved (profile : FabricLayoutProfile) (switches computes : List ObservedPlacement)
    (placement : ResolvedPlacement) : Prop where
  computes : ∀ position ∈ placement.computePositions, position ∈ computes.map ObservedPlacement.position
  switches : ∀ position ∈ placement.switchPositions, position ∈ switches.map ObservedPlacement.position
  targets : ∀ target ∈ placement.links, target.2.keys = profile.fullLinkStates.keys

lemma resolved_of_mem_rulePlacements {rule : FabricRule}
    (h : rulePlacements profile switches computes rule = .ok placements)
    (hmem : placement ∈ placements) : Resolved profile switches computes placement := by
  unfold rulePlacements at h
  split at h
  · cases h
    cases hmem
  · obtain ⟨groups, hgroups, h⟩ := bind_eq_ok.mp h
    obtain ⟨group, hgroup, hplacement⟩ := exists_of_mem_mapM h hmem
    obtain ⟨links, hlinks, hplacement⟩ := bind_eq_ok.mp hplacement
    cases hplacement
    have hsubset := FabricGrouping.subset_of_mem_resolve hgroups (mem_of_mem_filter hgroup)
    refine ⟨fun position hmem => OrderedSet.mem_ofList.mp (hsubset.1 position hmem),
      fun position hmem => OrderedSet.mem_ofList.mp (hsubset.2 position hmem), fun target htarget => ?_⟩
    apply keys_ext
    intro id
    rw [FabricLinkCalculation.mem_keys_of_mem_expand hlinks htarget, OrderedSet.mem_ofList]

lemma resolved_of_mem_resolvePlacements
    (h : resolvePlacements profile switches computes requested = .ok placements)
    (hmem : placement ∈ placements) :
    Resolved profile switches computes placement := by
  obtain ⟨lists, hlists, h⟩ := bind_eq_ok.mp h
  cases h
  obtain ⟨list, hlist, hmem⟩ := mem_flatten.mp ((mem_insertionSort _).mp hmem)
  obtain ⟨rule, -, hrule⟩ := exists_of_mem_mapM hlists hlist
  exact resolved_of_mem_rulePlacements hrule hmem

/-- A placement has the requested size and contains the requested primary. -/
structure Suits (switches : List ObservedPlacement) (spec : ScaleUpFabricSpec)
    (placement : ResolvedPlacement) : Prop where
  computeCount : placement.computePositions.size = spec.computeTrayCount
  switchCount : placement.switchPositions.size = spec.switchTrayCount
  primary : ∀ id, spec.primarySwitchNodeId = some id →
    id ∈ (membersAt switches placement.switchPositions).map ObservedPlacement.nodeId

lemma mem_of_holdsSwitch
    (h : holdsSwitch placement
      (.ofList (switches.map (fun node => (node.nodeId, node.position)))) id = true) :
    id ∈ (membersAt switches placement.switchPositions).map ObservedPlacement.nodeId := by
  unfold holdsSwitch at h
  cases hlookup : (ofList (switches.map (fun node => (node.nodeId, node.position)))).lookup id with
  | none =>
    rw [hlookup] at h
    cases h
  | some position =>
    rw [hlookup, Option.any_some, decide_eq_true_iff] at h
    obtain ⟨node, hnode, heq⟩ := mem_map.mp (mem_of_lookup_ofList hlookup)
    cases heq
    exact mem_map_of_mem (mem_membersAt.mpr ⟨hnode, h⟩)

lemma suits_of_matchesRequest {index : Nat} (h : matchesRequest requested
      (.ofList (switches.map (fun node => (node.nodeId, node.position)))) spec index placement =
      true) : Suits switches spec placement := by
  unfold matchesRequest at h
  simp only [Bool.and_eq_true, decide_eq_true_eq] at h
  obtain ⟨⟨⟨hcomputes, hswitches⟩, hprimary⟩, -⟩ := h
  refine ⟨hcomputes, hswitches, fun id hid => ?_⟩
  rw [hid] at hprimary
  exact mem_of_holdsSwitch hprimary

lemma selectPlacements_spec (h : selectPlacements (matchingPlacements placements requested
      (.ofList (switches.map (fun node => (node.nodeId, node.position))))) = some selected) :
    List.Forall₂ (fun spec placement => Suits switches spec placement ∧
      placement ∈ placements) requested selected ∧
      selected.Pairwise Apart := by
  obtain ⟨hpicks, hfitting⟩ := Backtracking.search_sound determines_placementState h
  refine ⟨?_, (fitting_iff.mp hfitting).1⟩
  have hmatching := (forall₂_map_right_iff.mp hpicks).flip
  rw [← zipIdx_map_fst 0 requested, forall₂_map_left_iff]
  apply hmatching.imp
  rintro ⟨spec, index⟩ placement hmem
  obtain ⟨hmem, hmatches⟩ := mem_filter.mp hmem
  exact ⟨suits_of_matchesRequest hmatches, hmem⟩

/-- Every switch of the inventory has a target for each controlled interface. -/
structure Covers (profile : FabricLayoutProfile) (switches : List ObservedPlacement)
    (links : OrderedMap String LinkStates) : Prop where
  keys : ∀ id, id ∈ links.keys ↔ id ∈ switches.map ObservedPlacement.nodeId
  complete : ∀ id states, links.lookup id = some states → states.keys = profile.fullLinkStates.keys

lemma Covers.insert (h : Covers profile switches links) (hid : id ∈ switches.map ObservedPlacement.nodeId)
    (hstates : states.keys = profile.fullLinkStates.keys) :
    Covers profile switches (links.insert id states) := by
  constructor
  · intro other
    rw [keys_insert_of_mem ((h.keys id).mpr hid), h.keys]
  · intro other found hfound
    rw [lookup_insert] at hfound
    split at hfound
    · cases hfound
      exact hstates
    · exact h.complete other found hfound

lemma covers_ofList (hstates : states.keys = profile.fullLinkStates.keys)
    (hperm : nodes.Perm switches) :
    Covers profile switches (.ofList (nodes.map (fun node => (node.nodeId, states)))) := by
  constructor
  · intro id
    rw [mem_keys_ofList, map_map]
    exact (hperm.map ObservedPlacement.nodeId).mem_iff
  · intro id found hfound
    obtain ⟨node, -, heq⟩ := mem_map.mp (mem_of_lookup_ofList hfound)
    cases heq
    exact hstates

lemma assignLinks_spec {target : FabricPosition × LinkStates}
    (h : assignLinks (membersAt switches positions) links target = .ok result) :
    ∃ id ∈ (membersAt switches positions).map ObservedPlacement.nodeId, result =
      links.insert id target.2 := by
  unfold assignLinks at h
  split at h
  · cases h
  · rename_i node hnode
    cases h
    exact ⟨node.nodeId, mem_map_of_mem (mem_of_find?_eq_some hnode), rfl⟩

structure Planned (switches computes : List ObservedPlacement) (placement : ResolvedPlacement)
    (fabric : PlannedFabric) : Prop where
  switchIds :
    fabric.assignment.switchNodeIds =
      (membersAt switches placement.switchPositions).map ObservedPlacement.nodeId
  computeIds :
    fabric.assignment.computeNodeIds =
      (membersAt computes placement.computePositions).map ObservedPlacement.nodeId

/-- What planning does to the links: only switches of the fabrics get other targets. -/
structure Linked (profile : FabricLayoutProfile) (switches : List ObservedPlacement)
    (fabrics : List PlannedFabric)
    (links result : OrderedMap String LinkStates) : Prop where
  covers : Covers profile switches links → Covers profile switches result
  unassigned :
    ∀ id, (∀ fabric ∈ fabrics, id ∉ fabric.assignment.switchNodeIds) → result.lookup id = links.lookup id

lemma primary_spec {primary : String} (hsuits : Suits switches spec placement)
    (h : spec.primarySwitchNodeId.or
      ((membersAt switches placement.switchPositions).head?.map ObservedPlacement.nodeId) =
      some primary) :
    primary ∈ (membersAt switches placement.switchPositions).map ObservedPlacement.nodeId ∧
      ∀ id, spec.primarySwitchNodeId = some id → primary = id := by
  cases hrequested : spec.primarySwitchNodeId with
  | some id =>
    rw [hrequested, Option.some_or] at h
    cases h
    refine ⟨hsuits.primary _ hrequested, fun other hother => ?_⟩
    cases hother
    rfl
  | none =>
    rw [hrequested, Option.none_or] at h
    obtain ⟨node, hnode, heq⟩ := Option.map_eq_some_iff.mp h
    refine ⟨heq ▸ mem_map_of_mem (mem_of_mem_head? hnode), fun other hother => ?_⟩
    cases hother

lemma planFabric_spec
    (h : planFabric profile switches computes config spec placement links = .ok (fabric, result))
    (hresolved : Resolved profile switches computes placement) (hsuits : Suits switches spec placement) :
    Planned switches computes placement fabric ∧ PlannedFabric.HasPrimary spec fabric ∧
      Linked profile switches [fabric] links result := by
  obtain ⟨⟨config, absent⟩, -, h⟩ := bind_eq_ok.mp h
  dsimp only at h
  split at h
  · cases h
  · rename_i primary hprimary
    obtain ⟨final, hfinal, h⟩ := bind_eq_ok.mp h
    cases h
    refine ⟨⟨rfl, rfl⟩, primary_spec hsuits hprimary, ⟨?_, ?_⟩⟩
    · intro hcovers
      apply foldlM_invariant (Covers profile switches) _ hfinal hcovers
      intro before target htarget after hbefore hstep
      obtain ⟨id, hid, rfl⟩ := assignLinks_spec hstep
      exact hbefore.insert (map_membersAt_subset hid) (hresolved.targets target htarget)
    · intro id hid
      apply foldlM_invariant (fun current => current.lookup id = links.lookup id) _ hfinal rfl
      intro before target htarget after hbefore hstep
      obtain ⟨other, hother, rfl⟩ := assignLinks_spec hstep
      have hne : id ≠ other := fun heq => hid _ mem_cons_self (heq ▸ hother)
      rw [lookup_insert, if_neg hne, hbefore]

lemma hasSize_of_planned (hdistinct : Distinct profile switches computes)
    (hsuits : Suits switches spec placement)
    (hresolved : Resolved profile switches computes placement)
    (hplanned : Planned switches computes placement fabric) :
    PlannedFabric.HasSize profile computes requested spec fabric := by
  have hswitches := length_membersAt hdistinct.switchPositions hresolved.switches
  have hcomputes := length_membersAt hdistinct.computePositions hresolved.computes
  refine ⟨?_, .inl ?_⟩
  · rw [hplanned.switchIds, length_map, hswitches, hsuits.switchCount]
  · rw [hplanned.computeIds, length_map, hcomputes, hsuits.computeCount]

lemma Linked.trans {middle : OrderedMap String LinkStates}
    (hfirst : Linked profile switches [fabric] links middle)
    (hrest : Linked profile switches fabrics middle result) :
    Linked profile switches (fabric :: fabrics) links result := by
  constructor
  · exact fun h => hrest.covers (hfirst.covers h)
  · intro id hid
    obtain ⟨hfabric, hfabrics⟩ := forall_mem_cons.mp hid
    rw [hrest.unassigned id hfabrics, hfirst.unassigned id (forall_mem_singleton.mpr hfabric)]

lemma planFabrics_spec {all : List ScaleUpFabricSpec} (hdistinct : Distinct profile switches computes)
    (hsuits : List.Forall₂ (fun spec placement => Suits switches spec placement ∧
      Resolved profile switches computes placement)
      requested placements)
    (h : planFabrics profile switches computes config (requested.zip placements) links =
      .ok (fabrics, result)) :
    List.Forall₂ (Planned switches computes) placements fabrics ∧
      List.Forall₂ (PlannedFabric.HasSize profile computes all) requested fabrics ∧
      List.Forall₂ PlannedFabric.HasPrimary requested fabrics ∧
        Linked profile switches fabrics links result := by
  induction hsuits generalizing links fabrics with
  | nil =>
    cases h
    exact ⟨.nil, .nil, .nil, ⟨id, fun _ _ => rfl⟩⟩
  | cons hfirst _ ih =>
    obtain ⟨⟨fabric, middle⟩, hfabric, h⟩ := bind_eq_ok.mp h
    obtain ⟨⟨rest, final⟩, hrest, h⟩ := bind_eq_ok.mp h
    cases h
    obtain ⟨hplanned, hprimary, hlinked⟩ := planFabric_spec hfabric hfirst.2 hfirst.1
    obtain ⟨hplanneds, hsizes, hprimaries, hlinkeds⟩ := ih hrest
    exact ⟨.cons hplanned hplanneds, .cons (hasSize_of_planned hdistinct hfirst.1 hfirst.2 hplanned) hsizes,
      .cons hprimary hprimaries, hlinked.trans hlinkeds⟩

variable {ids : PlannedFabric → List String}

lemma flatMap_eq_of_planned {members : ResolvedPlacement → List String}
    (h : List.Forall₂ (fun placement fabric => ids fabric = members placement) placements fabrics) :
    fabrics.flatMap ids = placements.flatMap members := by
  induction h with
  | nil => rfl
  | cons heq _ ih => rw [flatMap_cons, flatMap_cons, heq, ih]

lemma subset_of_flatMap_eq (h : fabrics.flatMap ids =
      placements.flatMap (fun placement =>
        (membersAt nodes (get placement)).map ObservedPlacement.nodeId)) :
    ∀ fabric ∈ fabrics, ids fabric ⊆ nodes.map ObservedPlacement.nodeId := by
  intro fabric hfabric id hid
  have hmem := mem_flatMap.mpr ⟨fabric, hfabric, hid⟩
  rw [h] at hmem
  obtain ⟨placement, -, hmem⟩ := mem_flatMap.mp hmem
  exact map_membersAt_subset hmem

lemma lookup_disabledLinks (h : (disabledLinks profile switches).lookup id = some states)
    {interface : String} {state : FabricLinkState} (hstate : states.lookup interface = some state) :
    state = .down := by
  obtain ⟨node, -, heq⟩ := mem_map.mp (mem_of_lookup_ofList h)
  cases heq
  obtain ⟨other, -, heq⟩ := mem_map.mp (mem_of_lookup_ofList hstate)
  cases heq
  rfl

lemma covers_disabledLinks : Covers profile switches (disabledLinks profile switches) := by
  apply covers_ofList _ (List.Perm.refl switches)
  apply keys_ext
  intro id
  rw [mem_keys_ofList, map_map]
  simp

lemma Covers.perm_keys (h : Covers profile switches links)
    (hids : (switches.map ObservedPlacement.nodeId).Nodup) :
    links.keys.Perm (switches.map ObservedPlacement.nodeId) :=
  (perm_ext_iff_of_nodup links.nodup_keys hids).mpr h.keys

lemma planSmaller_sound {plan : FabricPlan} (hdistinct : Distinct profile switches computes)
    (h : planSmaller profile switches computes requested config = .ok plan) :
    plan.Sound profile switches computes requested := by
  obtain ⟨_, -, h⟩ := bind_eq_ok.mp h
  obtain ⟨managed, -, h⟩ := bind_eq_ok.mp h
  obtain ⟨_, -, h⟩ := bind_eq_ok.mp h
  obtain ⟨placements, hplacements, h⟩ := bind_eq_ok.mp h
  dsimp only at h
  split at h
  · cases h
  · rename_i selected hselected
    obtain ⟨⟨fabrics, links⟩, hfabrics, h⟩ := bind_eq_ok.mp h
    cases h
    obtain ⟨hmatching, hapart⟩ := selectPlacements_spec hselected
    have hsuits : List.Forall₂ (fun spec placement =>
        Suits switches spec placement ∧ Resolved profile switches computes placement) requested selected :=
      hmatching.imp (fun _ _ hspec => ⟨hspec.1, resolved_of_mem_resolvePlacements hplacements hspec.2⟩)
    obtain ⟨hplanned, hsizes, hprimaries, hlinked⟩ := planFabrics_spec hdistinct hsuits hfabrics
    have hswitches := flatMap_eq_of_planned (hplanned.imp (fun _ _ hfabric => hfabric.switchIds))
    have hcomputes := flatMap_eq_of_planned (hplanned.imp (fun _ _ hfabric => hfabric.computeIds))
    have hcovers := hlinked.covers covers_disabledLinks
    exact {
      sizes := hsizes
      switches_disjoint := by
        rw [hswitches]
        exact nodup_flatMap_membersAt hdistinct.switchIds (hapart.imp (fun h => h.switches))
      computes_disjoint := by
        rw [hcomputes]
        exact nodup_flatMap_membersAt hdistinct.computeIds (hapart.imp (fun h => h.computes))
      switches_supplied := subset_of_flatMap_eq hswitches
      computes_supplied := subset_of_flatMap_eq hcomputes
      primaries := hprimaries
      links_cover := hcovers.perm_keys hdistinct.switchIds
      links_complete := hcovers.complete
      unassigned_down := by
        intro id states hunassigned hstates interface state hstate
        rw [hlinked.unassigned id hunassigned] at hstates
        exact lookup_disabledLinks hstates hstate }

lemma fullRackRequest_eq_some (h : fullRackRequest profile requested = some spec) :
    requested = [spec] ∧ spec.computeTrayCount = profile.computeTrayCount ∧
      spec.switchTrayCount = profile.switchTrayCount := by
  unfold fullRackRequest at h
  split at h
  · split_ifs at h with hsize
    cases h
    exact ⟨rfl, hsize⟩
  · cases h

lemma fullRackPrimary_spec {preferred : Option String} {primary : String}
    (h : fullRackPrimary nodes preferred = .ok primary) :
    primary ∈ nodes.map ObservedPlacement.nodeId ∧ ∀ id, preferred = some id → primary = id := by
  cases preferred with
  | some id =>
    rw [fullRackPrimary] at h
    split_ifs at h with hany
    cases h
    obtain ⟨node, hnode, heq⟩ := any_eq_true.mp hany
    refine ⟨mem_map.mpr ⟨node, hnode, of_decide_eq_true heq⟩, fun other hother => ?_⟩
    cases hother
    rfl
  | none =>
    rw [fullRackPrimary] at h
    split at h
    · rename_i node hnode
      cases h
      exact ⟨mem_map_of_mem (mem_of_mem_head? hnode), fun _ hid => nomatch hid⟩
    · cases h

lemma planFullRack_sound {plan : FabricPlan} (hdistinct : Distinct profile switches computes)
    (hspec : fullRackRequest profile requested = some spec)
    (h : planFullRack profile switches computes config spec.primarySwitchNodeId = .ok plan) :
    plan.Sound profile switches computes requested := by
  obtain ⟨_, hcomplete, h⟩ := bind_eq_ok.mp h
  obtain ⟨managed, -, h⟩ := bind_eq_ok.mp h
  obtain ⟨⟨resolved, absent⟩, -, h⟩ := bind_eq_ok.mp h
  obtain ⟨primary, hprimary, h⟩ := bind_eq_ok.mp h
  cases h
  obtain ⟨rfl, hcomputeCount, hswitchCount⟩ := fullRackRequest_eq_some hspec
  have hswitches := (perm_sortByPosition switches).map ObservedPlacement.nodeId
  have hcomputes := (perm_sortByPosition computes).map ObservedPlacement.nodeId
  have hcovers : Covers profile switches _ := covers_ofList rfl (perm_sortByPosition switches)
  have hsize : computes.length = spec.computeTrayCount ∨ computes = [] := by
    by_contra hne
    have hne := not_or.mp hne
    exact failIf_eq_ok.mp hcomplete ⟨hne.2, fun heq => hne.1 (heq.trans hcomputeCount.symm)⟩
  exact {
    sizes := by
      refine .cons ⟨?_, ?_⟩ .nil
      · rw [hswitches.length_eq, length_map, hdistinct.switchCount, hswitchCount]
      · obtain hlength | rfl := hsize
        · exact .inl (by rw [hcomputes.length_eq, length_map, hlength])
        · exact .inr ⟨rfl, rfl, rfl, hcomputeCount, hswitchCount⟩
    switches_disjoint := by
      rw [flatMap_singleton]
      exact hswitches.nodup_iff.mpr hdistinct.switchIds
    computes_disjoint := by
      rw [flatMap_singleton]
      exact hcomputes.nodup_iff.mpr hdistinct.computeIds
    switches_supplied := forall_mem_singleton.mpr hswitches.subset
    computes_supplied := forall_mem_singleton.mpr hcomputes.subset
    primaries := .cons (fullRackPrimary_spec hprimary) .nil
    links_cover := hcovers.perm_keys hdistinct.switchIds
    links_complete := hcovers.complete
    unassigned_down := by
      -- every switch of the inventory belongs to the only fabric
      intro id states hunassigned hstates
      have hmem := (hcovers.keys id).mp (mem_keys_iff.mpr (by rw [hstates]; rfl))
      exact absurd (hswitches.mem_iff.mpr hmem) (hunassigned _ mem_cons_self) }

/-- A plan that the planner returns meets every condition of the request. -/
theorem planLayout_sound {plan : FabricPlan}
    (h : planLayout profile switches computes requested config = .ok plan) :
    plan.Sound profile switches computes requested := by
  obtain ⟨_, -, h⟩ := bind_eq_ok.mp h
  obtain ⟨_, hinventory, h⟩ := bind_eq_ok.mp h
  have hdistinct := distinct_of_validateInventory hinventory
  split at h
  · rename_i spec hspec
    exact planFullRack_sound hdistinct hspec h
  · exact planSmaller_sound hdistinct h

/-- Two switches and two computes that can be used as one fabric or as pairs of equal index. -/
def pairedRack : FabricLayoutProfile where
  switchNodeTypes := .ofList ["switch_gb300_nvidia"]
  computeNodeTypes := .ofList ["compute_gb300_nvidia"]
  physicalTopology := "paired"
  computeTrayCount := 2
  switchTrayCount := 2
  fullLinkStates := .ofList [("acp1", .up), ("acp2", .up)]
  fabricRules :=
    [⟨1, 1, some
      ⟨⟨.compute, .trayIndex, 1, none, none, 1⟩, ⟨.switch, .trayIndex, 1, none, none, 1⟩⟩, [⟨"rack", []⟩]⟩,
      ⟨2, 2, none, [⟨"rack", []⟩]⟩]
  linkCalculation := ⟨.down, [⟨"acp", 1, [], [0], 1, .up⟩]⟩

def pairedSwitches : List ObservedPlacement :=
  [⟨"s1", "switch_gb300_nvidia", "R1", ⟨1, 1⟩, some "paired"⟩,
    ⟨"s2", "switch_gb300_nvidia", "R1", ⟨2, 2⟩, some "paired"⟩]

def pairedComputes : List ObservedPlacement :=
  [⟨"c1", "compute_gb300_nvidia", "R1", ⟨1, 3⟩, none⟩, ⟨"c2", "compute_gb300_nvidia", "R1", ⟨2, 4⟩, none⟩]

/-- One pair is requested by its switch; the other switch is left without a fabric. -/
theorem pairedRack_sound : ∃ plan,
    planLayout pairedRack pairedSwitches pairedComputes [⟨1, 1, some "s2"⟩] ⟨"rack", []⟩ = .ok plan ∧
      plan.Sound pairedRack pairedSwitches pairedComputes [⟨1, 1, some "s2"⟩] := by
  have hok : (planLayout pairedRack pairedSwitches pairedComputes [⟨1, 1, some "s2"⟩]
      ⟨"rack", []⟩).isOk = true := by
    decide +kernel
  cases hplan : planLayout pairedRack pairedSwitches pairedComputes [⟨1, 1, some "s2"⟩] ⟨"rack", []⟩ with
  | error error =>
    rw [hplan] at hok
    cases hok
  | ok plan => exact ⟨plan, rfl, planLayout_sound hplan⟩

end LayoutPlanner

end RackManagement
