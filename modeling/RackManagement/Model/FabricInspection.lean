import Mathlib.Data.Prod.Lex
import Mathlib.Data.String.Basic
import RackManagement.Library.OrderedSet
import RackManagement.Model.FabricObservation

/-!
# Inspection of fabrics

How an inspection answers after its reads, as in `handlers_v2/inspection`.
-/

namespace RackManagement.FabricInspection

open Library Nmx FabricObservation

structure ReadEvidence where
  collected : Bool
  errors : List String

def ReadEvidence.default : ReadEvidence := ⟨false, []⟩

abbrev Reads := FiniteMap String ReadEvidence

/-- What was read of a switch. Its location is recorded under its own identifier. -/
structure SwitchEvidence where
  nodeId : String
  enabled : Option Bool
  location : Option ObservedIdentity
  reads : Reads
  located : ∀ identity, location = some identity → identity.nodeId = nodeId

structure ComputeEvidence where
  nodeId : String
  location : Option ObservedIdentity
  reads : Reads
  located : ∀ identity, location = some identity → identity.nodeId = nodeId

structure ScaleUpFabricInspectionError where
  nodeId : String
  message : String
deriving DecidableEq

structure ScaleUpFabricInspectionObservation where
  switchNodeIds : List String
  computeNodeIds : List String
  primarySwitchNodeId : String
  status : ScaleUpFabricReportedStatus
  controlPlaneState : ScaleUpFabricControlPlaneState
  componentStatus : Option ScaleUpFabricComponentStatus
  inspectionErrors : List ScaleUpFabricInspectionError

structure FabricEvidence where
  observation : ScaleUpFabricInspectionObservation
  reads : Reads

inductive ReturnCode
  | success
  | failure
deriving DecidableEq

structure InspectScaleUpFabricsResponse where
  fabrics : List ScaleUpFabricInspectionObservation
  discoveryErrors : List ScaleUpFabricInspectionError
  status : ReturnCode
  errorMessage : String

section Reads

variable (reads : Reads) (resource : String)

def entry : ReadEvidence := (reads.lookup resource).getD .default

def recordReadError (message : String) : Reads :=
  reads.insert resource { entry reads resource with errors := (entry reads resource).errors ++ [message] }

def setCollected (collected : Bool) : Reads :=
  reads.insert resource { entry reads resource with collected := collected }

end Reads

structure Resolution where
  reads : Reads
  switchIds : OrderedSet String
  computeIds : OrderedSet String

/-- The only inventory node at the location of a device, or the reason that there is none. -/
def resolveDevice (location : Option NmxLocationInfo) (inventory : List ObservedIdentity) :
    Except String String :=
  match location.filter (fun location =>
    !decide (trim location.chassisSerialNumber = "") &&
      !decide (location.trayIndex = 0xFFFFFFFFFFFFFFFF)) with
  | none => .error "live device has no usable physical identity"
  | some location =>
    match inventory.filter (fun node =>
        node.chassisSerialNumber = location.chassisSerialNumber && node.trayIndex.toUInt64 =
          location.trayIndex) with
    | [node] => .ok node.nodeId
    | _ => .error "live device physical identity does not resolve to exactly one inventory node"

def resolveNext (switches computes : List ObservedIdentity) (resolution : Resolution) :
    Option Device → Resolution
  | none =>
    { resolution with
      reads := recordReadError resolution.reads "topology" "live topology contains an unidentified device" }
  | some (.switchTopoInfo device) =>
    match resolveDevice device.loc switches with
    | .ok nodeId => { resolution with switchIds := resolution.switchIds.insert nodeId }
    | .error message => { resolution with reads := recordReadError resolution.reads "topology" message }
  | some (.gpuTopoInfo device) =>
    match resolveDevice device.loc computes with
    | .ok nodeId => { resolution with computeIds := resolution.computeIds.insert nodeId }
    | .error message => { resolution with reads := recordReadError resolution.reads "topology" message }

variable (observed : FabricEvidence)

def resolveMembers (topology : NmxFmTopologyInfo) (switches computes : List ObservedIdentity) :
    FabricEvidence :=
  let resolution :=
    topology.deviceTopoInfo.foldl (resolveNext switches computes) ⟨observed.reads, .empty, .empty⟩
  let reads :=
    if observed.observation.primarySwitchNodeId ∈ resolution.switchIds then resolution.reads
    else recordReadError resolution.reads "topology"
      "controller switch is absent from resolved live topology"
  { observation :=
      { observed.observation with
        switchNodeIds := resolution.switchIds.toList
        computeNodeIds := resolution.computeIds.toList }
    reads := reads }

def controllerObservation (primaryId : String) : FabricEvidence where
  observation := ⟨[], [], primaryId, .unknown, .unknown, none, []⟩
  reads := ["controller-state", "topology", "switch-nodes", "compute-nodes"].foldl
    (fun reads resource => reads.insert resource .default) ∅

def missingPorts : Option Device → Bool
  | some (.switchTopoInfo device) => device.numPorts.toNat > device.portTopoInfo.length
  | some (.gpuTopoInfo device) => device.numPorts.toNat > device.portTopoInfo.length
  | none => false

def applyTopology (topology : NmxFmTopologyInfo) (switches computes : List ObservedIdentity) :
    FabricEvidence :=
  let observed := { observed with reads := setCollected observed.reads "topology" true }
  let observed := resolveMembers observed topology switches computes
  { observed with
    reads := (topology.deviceTopoInfo.filter missingPorts).foldl (fun reads _ =>
      recordReadError reads "topology" "device lists fewer ports than its reported port count")
        observed.reads }

/-- Rows without an identity and without devices are placeholders. -/
def missingSwitchIdentity (samples : FabricSamples) : Bool :=
  (samples.switchNodes.toOption.getD []).any (fun node =>
    node.numSwitches > 0 && (observationIdentity node.loc).isNone)

def missingComputeIdentity (samples : FabricSamples) : Bool :=
  (samples.computeNodes.toOption.getD []).any (fun node =>
    node.numGpus > 0 && (observationIdentity node.loc).isNone)

def recordIf (condition : Bool) (resource message : String) (reads : Reads) : Reads :=
  if condition then recordReadError reads resource message else reads

def recordSample {α : Type} (resource : String) (sample : Except String α) (reads : Reads) : Reads :=
  match sample with
  | .ok _ => setCollected reads resource true
  | .error error => recordReadError (setCollected reads resource false) resource error

def placements (ids : List String) (inventory : List ObservedIdentity) : List ObservedIdentity :=
  inventory.filter (fun node => ids.contains node.nodeId)

def applySamples (samples : FabricSamples) (switches : List SwitchEvidence)
    (computes : List ComputeEvidence) : FabricEvidence :=
  let switchLocations := switches.filterMap SwitchEvidence.location
  let computeLocations := computes.filterMap ComputeEvidence.location
  let observed :=
    match samples.topology with
    | .ok topology => applyTopology observed topology switchLocations computeLocations
    | .error _ => observed
  let missingIdentity := "node reports devices but is missing a chassis serial number or a valid tray index"
  let reads := recordIf (missingSwitchIdentity samples) "switch-nodes" missingIdentity observed.reads
  let reads := recordIf (missingComputeIdentity samples) "compute-nodes" missingIdentity reads
  let health := interpretGroup samples (placements observed.observation.switchNodeIds switchLocations)
    (placements observed.observation.computeNodeIds computeLocations)
  let reads := recordSample "controller-state" samples.domain reads
  let reads := recordSample "topology" samples.topology reads
  let reads := recordSample "switch-nodes" samples.switchNodes reads
  let reads := recordSample "compute-nodes" samples.computeNodes reads
  { observation :=
      { observed.observation with
        controlPlaneState := health.controlPlaneState
        componentStatus := some health.health }
    reads := reads }

def memberIds (observation : ScaleUpFabricInspectionObservation) : List String :=
  observation.switchNodeIds ++ observation.computeNodeIds

/-- Reports a fabric that shares a node with another, and switches that could have another controller. -/
def flagFabric (owners : List String) (switches : List SwitchEvidence) (fabric : FabricEvidence) :
    FabricEvidence :=
  let reads :=
    recordIf ((memberIds fabric.observation).any (fun id => owners.count id > 1)) "fabric-discovery"
    "live membership overlaps another enabled controller" fabric.reads
  let reads := recordIf (switches.any (fun switch => switch.enabled.isNone)) "fabric-discovery"
    "inventory cluster state is incomplete; additional controllers may be present" reads
  { fabric with reads := reads }

def flagAmbiguousDiscovery (fabrics : List FabricEvidence) (switches : List SwitchEvidence) :
    List FabricEvidence :=
  fabrics.map (flagFabric (fabrics.flatMap (fun fabric => memberIds fabric.observation)) switches)

/-- The messages of one read. A resource that was not read has one even without an error. -/
def readMessages (source resource : String) (read : ReadEvidence) : List (String ×ₗ String) :=
  (if !read.collected && read.errors.isEmpty then
    [toLex (source, resource ++ ": resource was not collected")] else []) ++
    read.errors.map (fun error => toLex (source, resource ++ ": " ++ error))

def readErrors (reads : List (String × String × ReadEvidence)) : List ScaleUpFabricInspectionError :=
  let errors := OrderedSet.ofList (reads.flatMap (fun read => readMessages read.1 read.2.1 read.2.2))
  errors.toList.map (fun error => ⟨(ofLex error).1, (ofLex error).2⟩)

def sourceReads (source : String) (reads : Reads) : List (String × String × ReadEvidence) :=
  reads.entries.map (fun read => (source, read.1, read.2))

/-- A fault is reported even if reads are missing; a normal status needs everything. -/
def fabricStatus (observed : ScaleUpFabricInspectionObservation) (complete : Bool) :
    ScaleUpFabricReportedStatus :=
  let components := observed.componentStatus.map (fun health =>
    [health.controller, health.compute, health.switches, health.links])
  if observed.controlPlaneState = .failed ||
    components.any (fun states => states.contains .abnormal) then .abnormal
  else if complete && !observed.switchNodeIds.isEmpty && observed.controlPlaneState = .configured &&
      components.any (fun states => states.all (fun state => state = .normal)) then .normal
  else .unknown

def fabricReads (switches : List SwitchEvidence) (computes : List ComputeEvidence)
    (fabric : FabricEvidence) :
    List (String × String × ReadEvidence) :=
  let observed := fabric.observation
  sourceReads observed.primarySwitchNodeId fabric.reads ++
    (switches.filter (fun switch => switch.nodeId = observed.primarySwitchNodeId ||
      observed.switchNodeIds.contains switch.nodeId)).flatMap (fun switch =>
        sourceReads switch.nodeId switch.reads) ++
    (computes.filter (fun compute => observed.computeNodeIds.contains compute.nodeId)).flatMap
      (fun compute => sourceReads compute.nodeId compute.reads)

def projectFabric (switches : List SwitchEvidence) (computes : List ComputeEvidence)
    (fabric : FabricEvidence) :
    ScaleUpFabricInspectionObservation :=
  let reads := fabricReads switches computes fabric
  let complete := reads.all (fun read => read.2.2.collected && read.2.2.errors.isEmpty)
  let observed := { fabric.observation with inspectionErrors := readErrors reads }
  { observed with status := fabricStatus observed complete }

def associatedIds (fabric : ScaleUpFabricInspectionObservation) : List String :=
  fabric.switchNodeIds ++ fabric.computeNodeIds ++ [fabric.primarySwitchNodeId]

def projectObservation (fabrics : List FabricEvidence) (switches : List SwitchEvidence)
    (computes : List ComputeEvidence) :
    List ScaleUpFabricInspectionObservation × List ScaleUpFabricInspectionError :=
  let projected := (flagAmbiguousDiscovery fabrics switches).map (projectFabric switches computes)
  let associated := projected.flatMap associatedIds
  let nodes := switches.map (fun switch => (switch.nodeId, switch.reads)) ++
    computes.map (fun compute => (compute.nodeId, compute.reads))
  let unassociated := nodes.filter (fun node => !associated.contains node.1)
  (projected, readErrors (unassociated.flatMap (fun node => sourceReads node.1 node.2)))

def fabricEvidence (switchReads : List (SwitchEvidence × Option FabricSamples))
    (computes : List ComputeEvidence) :
    List FabricEvidence :=
  (switchReads.filter (fun read => read.1.enabled = some true)).map (fun read =>
    let observed := controllerObservation read.1.nodeId
    match read.2 with
    | some samples => applySamples observed samples (switchReads.map Prod.fst) computes
    | none => observed)

/-- The response to an inspection, from the reads of all switches. -/
def inspectScaleUpFabrics (switchReads : List (SwitchEvidence × Option FabricSamples))
    (computes : List ComputeEvidence) : InspectScaleUpFabricsResponse :=
  let projected :=
    projectObservation (fabricEvidence switchReads computes) (switchReads.map Prod.fst) computes
  let incomplete := !projected.2.isEmpty || projected.1.any (fun fabric => !fabric.inspectionErrors.isEmpty)
  { fabrics := projected.1
    discoveryErrors := projected.2
    status := if incomplete then .failure else .success
    errorMessage := if incomplete then "one or more observations are incomplete or ambiguous" else "" }

end RackManagement.FabricInspection
