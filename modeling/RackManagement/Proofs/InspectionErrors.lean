import Mathlib.Data.List.Flatten
import RackManagement.Model.FabricInspection

/-! # Errors of an inspection -/

namespace RackManagement.FabricInspection

open Library Nmx FabricObservation List

/-- Every error of the read is among the errors, and some message if the resource was not collected. -/
structure Reported (source resource : String) (read : ReadEvidence)
    (errors : List ScaleUpFabricInspectionError) : Prop where
  failed : ∀ error ∈ read.errors, ⟨source, resource ++ ": " ++ error⟩ ∈ errors
  uncollected : read.collected = false → ∃ message, ⟨source, resource ++ ": " ++ message⟩ ∈ errors

variable {reads : List (String × String × ReadEvidence)} {source resource id : String} {read : ReadEvidence}
  {computes : List ComputeEvidence}

lemma mem_readErrors {message : String} : ⟨source, message⟩ ∈ readErrors reads ↔
      ∃ read ∈ reads, toLex (source, message) ∈ readMessages read.1 read.2.1 read.2.2 := by
  simp only [readErrors, mem_map, ← OrderedSet.mem_def, OrderedSet.mem_ofList, mem_flatMap]
  constructor
  · rintro ⟨error, hread, heq⟩
    cases heq
    exact hread
  · intro hread
    exact ⟨toLex (source, message), hread, rfl⟩

lemma reported_of_mem (h : (source, resource, read) ∈ reads) :
    Reported source resource read (readErrors reads) := by
  have herrors : ∀ error ∈ read.errors, ⟨source, resource ++ ": " ++ error⟩ ∈ readErrors reads := by
    intro error herror
    refine mem_readErrors.mpr ⟨_, h, mem_append_right _ ?_⟩
    exact mem_map_of_mem herror
  refine ⟨herrors, ?_⟩
  intro huncollected
  cases hempty : read.errors with
  | nil =>
    refine ⟨"resource was not collected", mem_readErrors.mpr ⟨_, h, mem_append_left _ ?_⟩⟩
    rw [String.append_assoc]
    simp [huncollected, hempty]
  | cons error errors =>
    exact ⟨error, herrors error (by simp [hempty])⟩

lemma readErrors_eq_nil
    (h : reads.all (fun read => read.2.2.collected && read.2.2.errors.isEmpty) = true) :
    readErrors reads = [] := by
  have hnone : reads.flatMap (fun read => readMessages read.1 read.2.1 read.2.2) = [] := by
    rw [List.flatMap_eq_nil_iff]
    intro read hread
    have hsound := List.all_eq_true.mp h read hread
    simp only [Bool.and_eq_true, List.isEmpty_iff] at hsound
    simp [readMessages, hsound.1, hsound.2]
  rw [readErrors, hnone]
  rfl

lemma mem_sourceReads {reads : Reads} :
    (source, resource, read) ∈ sourceReads source reads ↔ reads.lookup resource = some read := by
  rw [← Option.mem_def, AList.mem_lookup_iff]
  simp only [sourceReads, mem_map, Prod.mk.injEq, true_and]
  constructor
  · rintro ⟨⟨key, value⟩, hmem, rfl, rfl⟩
    exact hmem
  · intro hmem
    exact ⟨_, hmem, rfl, rfl⟩

/-- A later state of a read: it has the errors of the earlier state, and it was collected if that was. -/
def Extends (earlier later : Reads) : Prop :=
  ∀ resource read, earlier.lookup resource = some read → ∃ extended, later.lookup resource = some extended ∧
    extended.collected = read.collected ∧ ∀ error ∈ read.errors, error ∈ extended.errors

variable (reads : Reads)

lemma Extends.refl : Extends reads reads := fun _ read h => ⟨read, h, rfl, fun _ herror => herror⟩

lemma Extends.trans {first second third : Reads} (h : Extends first second) (h' : Extends second third) :
    Extends first third := by
  intro resource read hread
  obtain ⟨middle, hmiddle, hcollected, herrors⟩ := h resource read hread
  obtain ⟨last, hlast, hcollected', herrors'⟩ := h' resource middle hmiddle
  exact ⟨last, hlast, hcollected'.trans hcollected, fun error herror =>
    herrors' error (herrors error herror)⟩

lemma extends_recordReadError (resource message : String) :
    Extends reads (recordReadError reads resource message) := by
  intro other read hread
  rw [recordReadError, FiniteMap.lookup_insert_eq_ite]
  split
  case isTrue hother =>
    subst hother
    refine ⟨_, rfl, by simp [entry, hread], ?_⟩
    intro error herror
    simp [entry, hread, herror]
  case isFalse => exact ⟨read, hread, rfl, fun _ herror => herror⟩

lemma extends_recordIf (condition : Bool) (resource message : String) (reads : Reads) :
    Extends reads (recordIf condition resource message reads) := by
  unfold recordIf
  split
  · exact extends_recordReadError reads resource message
  · exact .refl reads

lemma Reported.of_extends {extended : ReadEvidence}
    {errors : List ScaleUpFabricInspectionError} (h : Reported source resource extended errors)
    (hcollected : extended.collected = read.collected)
    (herrors : ∀ error ∈ read.errors, error ∈ extended.errors) :
    Reported source resource read errors :=
  ⟨fun error herror => h.failed error (herrors error herror), fun huncollected =>
    h.uncollected (hcollected.trans huncollected)⟩

def HasError (resource : String) : Prop :=
  ∃ read, reads.lookup resource = some read ∧ read.errors ≠ []

lemma HasError.extends {earlier later : Reads} (h : HasError earlier resource)
    (hextends : Extends earlier later) : HasError later resource := by
  obtain ⟨read, hread, hne⟩ := h
  obtain ⟨extended, hextended, -, herrors⟩ := hextends resource read hread
  obtain ⟨error, herror⟩ := exists_mem_of_ne_nil _ hne
  exact ⟨extended, hextended, ne_nil_of_mem (herrors error herror)⟩

lemma hasError_recordReadError (resource message : String) :
    HasError (recordReadError reads resource message) resource := by
  refine ⟨_, (FiniteMap.lookup_insert_eq_ite _ _ _ _).trans (if_pos rfl), ?_⟩
  simp

lemma resolveDevice_mem {location : Option NmxLocationInfo} {inventory : List ObservedIdentity}
    {nodeId : String}
    (h : resolveDevice location inventory = .ok nodeId) :
    nodeId ∈ inventory.map ObservedIdentity.nodeId := by
  unfold resolveDevice at h
  split at h
  · cases h
  · split at h
    case h_1 node hfilter =>
      cases h
      have hmem : node ∈ inventory := mem_of_mem_filter (hfilter ▸ mem_singleton_self node)
      exact mem_map_of_mem hmem
    case h_2 => cases h

section Inventory

variable (switches computes : List ObservedIdentity)

def FromInventory (switchIds computeIds : List String) : Prop :=
  (∀ id ∈ switchIds, id ∈ switches.map ObservedIdentity.nodeId) ∧
    ∀ id ∈ computeIds, id ∈ computes.map ObservedIdentity.nodeId

variable {switches computes}

lemma fromInventory_resolveNext {resolution : Resolution} (h : FromInventory switches computes
    resolution.switchIds.toList resolution.computeIds.toList) (device : Option Device) :
    FromInventory switches computes (resolveNext switches computes resolution device).switchIds.toList
      (resolveNext switches computes resolution device).computeIds.toList := by
  cases device with
  | none => exact h
  | some device =>
    cases device with
    | switchTopoInfo device =>
      unfold resolveNext
      dsimp only
      split
      case h_2 => exact h
      case h_1 nodeId hresolve =>
        refine ⟨?_, h.2⟩
        intro id hid
        obtain hid | rfl := OrderedSet.mem_insert.mp hid
        · exact h.1 id hid
        · exact resolveDevice_mem hresolve
    | gpuTopoInfo device =>
      unfold resolveNext
      dsimp only
      split
      case h_2 => exact h
      case h_1 nodeId hresolve =>
        refine ⟨h.1, ?_⟩
        intro id hid
        obtain hid | rfl := OrderedSet.mem_insert.mp hid
        · exact h.2 id hid
        · exact resolveDevice_mem hresolve

variable (switches computes) in
lemma fromInventory_foldl (devices : List (Option Device)) (resolution : Resolution)
    (h : FromInventory switches computes
    resolution.switchIds.toList resolution.computeIds.toList) :
    FromInventory switches computes
      (devices.foldl (resolveNext switches computes) resolution).switchIds.toList
      (devices.foldl (resolveNext switches computes) resolution).computeIds.toList := by
  induction devices generalizing resolution with
  | nil => exact h
  | cons device devices ih => exact ih _ (fromInventory_resolveNext h device)

end Inventory

/-- The members of a fabric are nodes that were read, of their kind. -/
structure Discovered (switches : List SwitchEvidence) (computes : List ComputeEvidence)
    (observation : ScaleUpFabricInspectionObservation) : Prop where
  primary : observation.primarySwitchNodeId ∈ switches.map SwitchEvidence.nodeId
  switchNodeIds : ∀ id ∈ observation.switchNodeIds, id ∈ switches.map SwitchEvidence.nodeId
  computeNodeIds : ∀ id ∈ observation.computeNodeIds, id ∈ computes.map ComputeEvidence.nodeId

variable {switches : List SwitchEvidence}

lemma mem_nodeIds_switch
    (h : id ∈ (switches.filterMap SwitchEvidence.location).map ObservedIdentity.nodeId) :
    id ∈ switches.map SwitchEvidence.nodeId := by
  obtain ⟨identity, hidentity, rfl⟩ := mem_map.mp h
  obtain ⟨switch, hswitch, hlocation⟩ := mem_filterMap.mp hidentity
  exact mem_map.mpr ⟨switch, hswitch, (switch.located identity hlocation).symm⟩

lemma mem_nodeIds_compute
    (h : id ∈ (computes.filterMap ComputeEvidence.location).map ObservedIdentity.nodeId) :
    id ∈ computes.map ComputeEvidence.nodeId := by
  obtain ⟨identity, hidentity, rfl⟩ := mem_map.mp h
  obtain ⟨compute, hcompute, hlocation⟩ := mem_filterMap.mp hidentity
  exact mem_map.mpr ⟨compute, hcompute, (compute.located identity hlocation).symm⟩

lemma discovered_applySamples
    {observed : FabricEvidence} (h : Discovered switches computes observed.observation)
    (samples : FabricSamples) :
    Discovered switches computes (applySamples observed samples switches computes).observation := by
  unfold applySamples
  cases samples.topology with
  | error message => exact ⟨h.primary, h.switchNodeIds, h.computeNodeIds⟩
  | ok topology =>
    have hmembers := fromInventory_foldl (switches.filterMap SwitchEvidence.location)
      (computes.filterMap ComputeEvidence.location) topology.deviceTopoInfo
      ⟨setCollected observed.reads "topology" true, .empty, .empty⟩
      ⟨fun id hid => absurd hid (OrderedSet.notMem_empty id), fun id hid =>
        absurd hid (OrderedSet.notMem_empty id)⟩
    exact ⟨h.primary, fun id hid => mem_nodeIds_switch (hmembers.1 id hid),
      fun id hid => mem_nodeIds_compute (hmembers.2 id hid)⟩

lemma discovered_fabricEvidence {switchReads : List (SwitchEvidence × Option FabricSamples)}
    {fabric : FabricEvidence} (h : fabric ∈ fabricEvidence switchReads computes) :
    Discovered (switchReads.map Prod.fst) computes fabric.observation := by
  obtain ⟨read, hread, rfl⟩ := mem_map.mp h
  have hcontroller :
      Discovered (switchReads.map Prod.fst) computes (controllerObservation read.1.nodeId).observation := by
    refine ⟨mem_map_of_mem (mem_map_of_mem (mem_of_mem_filter hread)), ?_, ?_⟩
    · intro id hid
      exact absurd hid not_mem_nil
    · intro id hid
      exact absurd hid not_mem_nil
  cases hsamples : read.2 with
  | none => simpa only [hsamples] using hcontroller
  | some samples => simpa only [hsamples] using discovered_applySamples hcontroller samples

def AllReported (source : String) (reads : Reads) (errors : List ScaleUpFabricInspectionError) : Prop :=
  ∀ resource read, reads.lookup resource = some read → Reported source resource read errors

section Project

variable {switches : List SwitchEvidence} {computes : List ComputeEvidence}

lemma allReported_primary (fabric : FabricEvidence) :
    AllReported fabric.observation.primarySwitchNodeId fabric.reads
    (projectFabric switches computes fabric).inspectionErrors := by
  intro resource read hread
  apply reported_of_mem
  exact mem_append_left _ (mem_append_left _ (mem_sourceReads.mpr hread))

variable {fabric : FabricEvidence}

lemma allReported_switch {switch : SwitchEvidence} (hswitch : switch ∈ switches)
    (h : switch.nodeId = fabric.observation.primarySwitchNodeId ∨
      switch.nodeId ∈ fabric.observation.switchNodeIds) :
    AllReported switch.nodeId switch.reads (projectFabric switches computes fabric).inspectionErrors := by
  intro resource read hread
  apply reported_of_mem
  apply mem_append_left _ (mem_append_right _ _)
  refine mem_flatMap.mpr ⟨switch, mem_filter.mpr ⟨hswitch, ?_⟩, mem_sourceReads.mpr hread⟩
  simpa using h

variable {compute : ComputeEvidence}

lemma allReported_compute (hcompute : compute ∈ computes)
    (h : compute.nodeId ∈ fabric.observation.computeNodeIds) :
    AllReported compute.nodeId compute.reads (projectFabric switches computes fabric).inspectionErrors := by
  intro resource read hread
  apply reported_of_mem
  apply mem_append_right
  refine mem_flatMap.mpr ⟨compute, mem_filter.mpr ⟨hcompute, ?_⟩, mem_sourceReads.mpr hread⟩
  simpa using h

lemma status_projectFabric_normal (h : (projectFabric switches computes fabric).status = .normal) :
    (fabricReads switches computes fabric).all (fun read =>
      read.2.2.collected && read.2.2.errors.isEmpty) = true ∧
      fabric.observation.controlPlaneState = .configured ∧
      fabric.observation.componentStatus = some ⟨.normal, .normal, .normal, .normal⟩ := by
  simp only [projectFabric, fabricStatus] at h
  split at h
  case isTrue => cases h
  case isFalse =>
    split at h
    case isFalse => cases h
    case isTrue hnormal =>
      simp only [Bool.and_eq_true, decide_eq_true_eq] at hnormal
      obtain ⟨⟨⟨hcomplete, -⟩, hconfigured⟩, hcomponents⟩ := hnormal
      refine ⟨hcomplete, hconfigured, ?_⟩
      cases hstatus : fabric.observation.componentStatus with
      | none => simp [hstatus] at hcomponents
      | some health =>
        simp only [hstatus, Option.map_some, Option.any_some, all_cons, all_nil, Bool.and_eq_true,
          decide_eq_true_eq, and_true] at hcomponents
        obtain ⟨hcontroller, hcompute, hswitches, hlinks⟩ := hcomponents
        cases health
        simp_all

lemma status_ne_normal_of_hasError {resource : String} (h : HasError fabric.reads resource) :
    (projectFabric switches computes fabric).status ≠ .normal := by
  intro hnormal
  obtain ⟨read, hread, hne⟩ := h
  have hcomplete := all_eq_true.mp (status_projectFabric_normal hnormal).1
    (fabric.observation.primarySwitchNodeId, resource, read)
    (mem_append_left _ (mem_append_left _ (mem_sourceReads.mpr hread)))
  simp [hne] at hcomplete

end Project

lemma extends_flagFabric (owners : List String) (switches : List SwitchEvidence) (fabric : FabricEvidence) :
    Extends fabric.reads (flagFabric owners switches fabric).reads :=
  (extends_recordIf _ _ _ _).trans (extends_recordIf _ _ _ _)

lemma hasError_flagFabric {owners : List String} (switches : List SwitchEvidence) {fabric : FabricEvidence}
    (hid : id ∈ memberIds fabric.observation) (hshared : 1 < owners.count id) :
    HasError (flagFabric owners switches fabric).reads "fabric-discovery" := by
  have hany : (memberIds fabric.observation).any (fun id => owners.count id > 1) = true :=
    any_eq_true.mpr ⟨id, hid, by simpa using hshared⟩
  apply HasError.extends _ (extends_recordIf _ _ _ _)
  rw [hany]
  exact hasError_recordReadError fabric.reads _ _

variable {left right : FabricEvidence}

lemma one_lt_count_of_sublist {fabrics : List FabricEvidence}
    (h : [left, right].Sublist fabrics) (hleft : id ∈ memberIds left.observation)
    (hright : id ∈ memberIds right.observation) :
    1 < (fabrics.flatMap (fun fabric => memberIds fabric.observation)).count id := by
  have hcount := (h.flatMap (fun fabric => memberIds fabric.observation)).count_le id
  have hpositive := count_pos_iff.mpr hleft
  have hpositive' := count_pos_iff.mpr hright
  simp only [flatMap_cons, flatMap_nil, append_nil, count_append] at hcount
  omega

/-- A node's reads are reported on every fabric of the node, or with the response if it has none. -/
structure NotDropped (response : InspectScaleUpFabricsResponse) (source : String) (reads : Reads) :
    Prop where
  fabrics : ∀ fabric ∈ response.fabrics, source ∈ associatedIds fabric →
    AllReported source reads fabric.inspectionErrors
  discovery : (∀ fabric ∈ response.fabrics, source ∉ associatedIds fabric) →
    AllReported source reads response.discoveryErrors

section Response

variable (switchReads : List (SwitchEvidence × Option FabricSamples)) (computes : List ComputeEvidence)

def projected (fabric : FabricEvidence) : ScaleUpFabricInspectionObservation :=
  projectFabric (switchReads.map Prod.fst) computes (flagFabric
    ((fabricEvidence switchReads computes).flatMap (fun fabric => memberIds fabric.observation))
    (switchReads.map Prod.fst) fabric)

lemma fabrics_inspectScaleUpFabrics : (inspectScaleUpFabrics switchReads computes).fabrics =
    (fabricEvidence switchReads computes).map (projected switchReads computes) := by
  simp only [inspectScaleUpFabrics, projectObservation, flagAmbiguousDiscovery, map_map]
  rfl

variable {switchReads computes}

lemma allReported_discovery {source : String} {reads : Reads}
    (hnode : (source, reads) ∈ (switchReads.map Prod.fst).map (fun switch =>
      (switch.nodeId, switch.reads)) ++
      computes.map (fun compute => (compute.nodeId, compute.reads)))
    (hnone : ∀ fabric ∈ (inspectScaleUpFabrics switchReads computes).fabrics,
      source ∉ associatedIds fabric) :
    AllReported source reads (inspectScaleUpFabrics switchReads computes).discoveryErrors := by
  intro resource read hread
  apply reported_of_mem
  refine mem_flatMap.mpr ⟨(source, reads), mem_filter.mpr ⟨hnode, ?_⟩, mem_sourceReads.mpr hread⟩
  rw [Bool.not_eq_true', ← Bool.not_eq_true, contains_iff_mem, mem_flatMap]
  rintro ⟨fabric, hfabric, hassociated⟩
  exact hnone fabric hfabric hassociated

section

variable (hdistinct :
  (switchReads.map (fun read => read.1.nodeId) ++ computes.map ComputeEvidence.nodeId).Nodup)
include hdistinct

lemma notDropped_switch {switch : SwitchEvidence} (hswitch : switch ∈ switchReads.map Prod.fst) :
    NotDropped (inspectScaleUpFabrics switchReads computes) switch.nodeId switch.reads := by
  refine ⟨?_, allReported_discovery (mem_append_left _ (mem_map_of_mem hswitch))⟩
  intro fabric hfabric hassociated
  rw [fabrics_inspectScaleUpFabrics] at hfabric
  obtain ⟨evidence, hevidence, rfl⟩ := mem_map.mp hfabric
  have hdiscovered := discovered_fabricEvidence hevidence
  apply allReported_switch hswitch
  -- A switch is not listed as a compute node: those have other identifiers.
  have hcompute : switch.nodeId ∉ evidence.observation.computeNodeIds := by
    intro hid
    obtain ⟨read, hread, rfl⟩ := mem_map.mp hswitch
    exact (nodup_append.mp hdistinct).2.2 _ (mem_map_of_mem hread) _ (hdiscovered.computeNodeIds _ hid) rfl
  have hmember : switch.nodeId ∈ associatedIds evidence.observation := hassociated
  simp only [associatedIds, mem_append, mem_singleton, hcompute, or_false] at hmember
  exact hmember.symm

lemma notDropped_compute (hcompute : compute ∈ computes) :
    NotDropped (inspectScaleUpFabrics switchReads computes) compute.nodeId compute.reads := by
  refine ⟨?_, allReported_discovery (mem_append_right _ (mem_map_of_mem hcompute))⟩
  intro fabric hfabric hassociated
  rw [fabrics_inspectScaleUpFabrics] at hfabric
  obtain ⟨evidence, hevidence, rfl⟩ := mem_map.mp hfabric
  have hdiscovered := discovered_fabricEvidence hevidence
  apply allReported_compute hcompute
  have hother : compute.nodeId ∉ (switchReads.map Prod.fst).map SwitchEvidence.nodeId := by
    intro hid
    rw [map_map] at hid
    exact (nodup_append.mp hdistinct).2.2 _ hid _ (mem_map_of_mem hcompute) rfl
  have hmember : compute.nodeId ∈ associatedIds evidence.observation := hassociated
  simp only [associatedIds, mem_append, mem_singleton] at hmember
  obtain (hid | hid) | hid := hmember
  · exact absurd (hdiscovered.switchNodeIds _ hid) hother
  · exact hid
  · exact absurd (hid ▸ hdiscovered.primary) hother

end

lemma allReported_controller (fabric : FabricEvidence) :
    AllReported fabric.observation.primarySwitchNodeId fabric.reads
    (projected switchReads computes fabric).inspectionErrors := by
  intro resource read hread
  obtain ⟨extended, hextended, hcollected, herrors⟩ := extends_flagFabric _ _ fabric resource read hread
  exact (allReported_primary _ resource extended hextended).of_extends hcollected herrors

lemma status_ne_normal_of_shared
    (h : [left, right].Sublist (fabricEvidence switchReads computes)) {id : String}
    (hleft : id ∈ memberIds left.observation) (hright : id ∈ memberIds right.observation) :
    (projected switchReads computes left).status ≠ .normal ∧
      (projected switchReads computes right).status ≠ .normal :=
  have hshared := one_lt_count_of_sublist h hleft hright
  ⟨status_ne_normal_of_hasError (hasError_flagFabric _ hleft hshared),
    status_ne_normal_of_hasError (hasError_flagFabric _ hright hshared)⟩

end Response

/-- The reads of a node are reported on its fabrics or with the response. A normal fabric has no
errors and shares no member. -/
theorem inspectScaleUpFabrics_drops_nothing (switchReads : List (SwitchEvidence × Option FabricSamples))
    (computes : List ComputeEvidence) (hdistinct : (switchReads.map (fun read => read.1.nodeId) ++
      computes.map ComputeEvidence.nodeId).Nodup) :
    let response := inspectScaleUpFabrics switchReads computes
    (∀ read ∈ switchReads, NotDropped response read.1.nodeId read.1.reads) ∧
      (∀ compute ∈ computes, NotDropped response compute.nodeId compute.reads) ∧
      List.Forall₂ (fun evidence fabric =>
          fabric.primarySwitchNodeId = evidence.observation.primarySwitchNodeId ∧
            AllReported fabric.primarySwitchNodeId evidence.reads fabric.inspectionErrors)
        (fabricEvidence switchReads computes) response.fabrics ∧
      (∀ fabric ∈ response.fabrics, fabric.status = .normal →
        fabric.inspectionErrors = [] ∧ fabric.controlPlaneState = .configured ∧
          fabric.componentStatus = some ⟨.normal, .normal, .normal, .normal⟩) ∧
      response.fabrics.Pairwise (fun left right => left.status = .normal ∨ right.status = .normal →
        ∀ id ∈ memberIds left, id ∉ memberIds right) := by
  intro response
  have hfabrics :
      response.fabrics = (fabricEvidence switchReads computes).map (projected switchReads computes) :=
    fabrics_inspectScaleUpFabrics switchReads computes
  refine ⟨?_, fun compute hcompute => notDropped_compute hdistinct hcompute, ?_, ?_, ?_⟩
  · intro read hread
    exact notDropped_switch hdistinct (mem_map_of_mem hread)
  · rw [hfabrics, forall₂_map_right_iff, forall₂_same]
    intro evidence hevidence
    exact ⟨rfl, allReported_controller evidence⟩
  · intro fabric hfabric hnormal
    rw [hfabrics] at hfabric
    obtain ⟨evidence, hevidence, rfl⟩ := mem_map.mp hfabric
    obtain ⟨hcomplete, hconfigured, hcomponents⟩ := status_projectFabric_normal hnormal
    exact ⟨readErrors_eq_nil hcomplete, hconfigured, hcomponents⟩
  · rw [hfabrics, pairwise_map, pairwise_iff_forall_sublist]
    intro left right hsublist hnormal id hleft hright
    obtain ⟨hleftStatus, hrightStatus⟩ := status_ne_normal_of_shared hsublist hleft hright
    exact hnormal.elim hleftStatus hrightStatus

def enabledSwitch : SwitchEvidence where
  nodeId := "switch-1"
  enabled := some true
  location := none
  reads := recordReadError ∅ "identity" "resource read failed"
  located := by simp

def unlocatedCompute : ComputeEvidence where
  nodeId := "compute-1"
  location := none
  reads := recordReadError ∅ "identity" "resource read failed"
  located := by simp

theorem unlocatedCompute_not_dropped :
    NotDropped (inspectScaleUpFabrics [(enabledSwitch, none)]
      [unlocatedCompute]) "compute-1" unlocatedCompute.reads :=
  (inspectScaleUpFabrics_drops_nothing [(enabledSwitch, none)] [unlocatedCompute] (by decide)).2.1 _
    (mem_singleton_self _)

end RackManagement.FabricInspection
