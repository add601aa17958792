import RackManagement.Library.FiniteMap
import RackManagement.Library.Text

/-!
# Health of a fabric group

How the responses of a controller become the status of its group, as in `observations/health.rs`.
-/

namespace RackManagement

open Library

inductive ScaleUpFabricReportedStatus
  | unknown
  | normal
  | abnormal
deriving DecidableEq

inductive ScaleUpFabricControlPlaneState
  | unknown
  | configured
  | failed
deriving DecidableEq

structure ScaleUpFabricComponentStatus where
  controller : ScaleUpFabricReportedStatus
  compute : ScaleUpFabricReportedStatus
  switches : ScaleUpFabricReportedStatus
  links : ScaleUpFabricReportedStatus
deriving DecidableEq

namespace Nmx

/-! ### Enumerations of the controller's protocol

A number outside an enumeration has no value. -/

inductive ControlPlaneState
  | undefined
  | offline
  | standby
  | configured
  | timeout
  | error
  | unconfigured
  | degraded
deriving DecidableEq

def ControlPlaneState.tryFrom : Int → Option ControlPlaneState
  | 0 => some .undefined
  | 1 => some .offline
  | 2 => some .standby
  | 3 => some .configured
  | 4 => some .timeout
  | 5 => some .error
  | 6 => some .unconfigured
  | 7 => some .degraded
  | _ => none

inductive NmxControllerHealth
  | unknown
  | healthy
  | degraded
  | unhealthy
  | unhealthyDbCorrupted
deriving DecidableEq

def NmxControllerHealth.tryFrom : Int → Option NmxControllerHealth
  | 0 => some .unknown
  | 1 => some .healthy
  | 2 => some .degraded
  | 3 => some .unhealthy
  | 4 => some .unhealthyDbCorrupted
  | _ => none

inductive ComputeNodeHealth
  | unknown
  | healthy
  | degraded
  | unhealthy
deriving DecidableEq

def ComputeNodeHealth.tryFrom : Int → Option ComputeNodeHealth
  | 0 => some .unknown
  | 1 => some .healthy
  | 2 => some .degraded
  | 3 => some .unhealthy
  | _ => none

inductive SwitchNodeHealth
  | unknown
  | healthy
  | missingNvlink
  | unhealthy
deriving DecidableEq

def SwitchNodeHealth.tryFrom : Int → Option SwitchNodeHealth
  | 0 => some .unknown
  | 1 => some .healthy
  | 2 => some .missingNvlink
  | 3 => some .unhealthy
  | _ => none

inductive SwitchHealth
  | unknown
  | healthy
  | missingNvlink
  | unhealthy
deriving DecidableEq

def SwitchHealth.tryFrom : Int → Option SwitchHealth
  | 0 => some .unknown
  | 1 => some .healthy
  | 2 => some .missingNvlink
  | 3 => some .unhealthy
  | _ => none

inductive GpuHealth
  | unknown
  | healthy
  | degraded
  | noNvlink
  | degradedBw
deriving DecidableEq

def GpuHealth.tryFrom : Int → Option GpuHealth
  | 0 => some .unknown
  | 1 => some .healthy
  | 2 => some .degraded
  | 3 => some .noNvlink
  | 4 => some .degradedBw
  | _ => none

inductive PortType
  | undefined
  | gpu
  | switchAccess
  | switchTrunk
  | fnm
  | hca

def PortType.tryFrom : Int → Option PortType
  | 0 => some .undefined
  | 1 => some .gpu
  | 2 => some .switchAccess
  | 3 => some .switchTrunk
  | 4 => some .fnm
  | 5 => some .hca
  | _ => none

inductive LogicalLinkState
  | noChange
  | down
  | init
  | armed
  | active
  | actDefer

def LogicalLinkState.tryFrom : Int → Option LogicalLinkState
  | 0 => some .noChange
  | 1 => some .down
  | 2 => some .init
  | 3 => some .armed
  | 4 => some .active
  | 5 => some .actDefer
  | _ => none

inductive PhysicalPortState
  | noChange
  | sleep
  | polling
  | disabled
  | portconftrain
  | linkup
  | linkerrrecover
  | phytest

def PhysicalPortState.tryFrom : Int → Option PhysicalPortState
  | 0 => some .noChange
  | 1 => some .sleep
  | 2 => some .polling
  | 3 => some .disabled
  | 4 => some .portconftrain
  | 5 => some .linkup
  | 6 => some .linkerrrecover
  | 7 => some .phytest
  | _ => none

inductive AdminState
  | unknown
  | up
  | down
  | diag

def AdminState.tryFrom : Int → Option AdminState
  | 0 => some .unknown
  | 1 => some .up
  | 2 => some .down
  | 3 => some .diag
  | _ => none

structure NmxDomainStateInfo where
  controlPlaneState : Int
  nmxControllerHealth : Int

structure NmxLocationInfo where
  chassisSerialNumber : String
  trayIndex : UInt64

structure NmxSwitchNodeInfo where
  loc : Option NmxLocationInfo
  numSwitches : UInt32
  nodeHealth : Int

structure NmxComputeNodeInfo where
  loc : Option NmxLocationInfo
  numGpus : UInt32
  nodeHealth : Int

structure NmxPortTopoInfo where
  portType : Int
  physicalState : Int
  logicalState : Int
  portAdminState : Int

structure NmxSwitchTopoInfo where
  loc : Option NmxLocationInfo
  numPorts : UInt64
  deviceHealth : Int
  portTopoInfo : List NmxPortTopoInfo

structure NmxGpuTopoInfo where
  loc : Option NmxLocationInfo
  numPorts : UInt64
  deviceHealth : Int
  portTopoInfo : List NmxPortTopoInfo

inductive Device
  | switchTopoInfo (switch : NmxSwitchTopoInfo)
  | gpuTopoInfo (gpu : NmxGpuTopoInfo)

/-- The devices of a topology; an entry of a kind that is not known has no device. -/
structure NmxFmTopologyInfo where
  deviceTopoInfo : List (Option Device)

end Nmx

open Nmx

/-- The four reads from a controller, each with its error. -/
structure FabricSamples where
  domain : Except String NmxDomainStateInfo
  topology : Except String NmxFmTopologyInfo
  switchNodes : Except String (List NmxSwitchNodeInfo)
  computeNodes : Except String (List NmxComputeNodeInfo)

structure ObservedIdentity where
  nodeId : String
  chassisSerialNumber : String
  trayIndex : UInt32

structure GroupObservation where
  controlPlaneState : ScaleUpFabricControlPlaneState
  health : ScaleUpFabricComponentStatus

namespace FabricObservation

abbrev Health := ScaleUpFabricReportedStatus

/-- A blank chassis serial or an unset tray index is no identity. -/
def observationIdentity (location : Option NmxLocationInfo) : Option (String × UInt64) :=
  match location with
  | none => none
  | some location =>
    if trim location.chassisSerialNumber = "" ∨ location.trayIndex = 0xFFFFFFFFFFFFFFFF then none
    else some (location.chassisSerialNumber, location.trayIndex)

/-- The identity of an inventory node in the form in which devices report theirs. -/
def placement (node : ObservedIdentity) : String × UInt64 :=
  (node.chassisSerialNumber, node.trayIndex.toUInt64)

section ReportedHealth

variable {E : Type} [DecidableEq E]

def reportedHealth (tryFrom : Int → Option E) (raw : Int) (unknown healthy : E) : Health :=
  match tryFrom raw with
  | some state => if state = healthy then .normal else if state ≠ unknown then .abnormal else .unknown
  | none => .unknown

end ReportedHealth

def switchHealth (switch : NmxSwitchTopoInfo) : Health :=
  reportedHealth SwitchHealth.tryFrom switch.deviceHealth .unknown .healthy

def gpuHealth (gpu : NmxGpuTopoInfo) : Health :=
  reportedHealth GpuHealth.tryFrom gpu.deviceHealth .unknown .healthy

def switchNodeHealth (node : NmxSwitchNodeInfo) : Health :=
  reportedHealth SwitchNodeHealth.tryFrom node.nodeHealth .unknown .healthy

def computeNodeHealth (node : NmxComputeNodeInfo) : Health :=
  reportedHealth ComputeNodeHealth.tryFrom node.nodeHealth .unknown .healthy

/-- A fault outweighs a missing observation, which outweighs a normal state. -/
def combine : Health → Health → Health
  | .abnormal, _ => .abnormal
  | _, .abnormal => .abnormal
  | .unknown, _ => .unknown
  | _, .unknown => .unknown
  | _, _ => .normal

def aggregateHealth (states : List Health) : Health :=
  if states.isEmpty then .unknown else states.foldl combine .normal

/-- Ports that are down by administration and FNM and HCA ports have no link status. -/
def operationalLinkHealth (port : NmxPortTopoInfo) : Option Health :=
  match AdminState.tryFrom port.portAdminState with
  | some .down => none
  | adminState =>
    match PortType.tryFrom port.portType with
    | some .fnm | some .hca => none
    | some .gpu | some .switchAccess | some .switchTrunk =>
      match adminState with
      | some .diag => some .abnormal
      | some .up =>
        let physical : Health :=
          match PhysicalPortState.tryFrom port.physicalState with
          | some .linkup => .normal
          | some .sleep | some .polling | some .disabled | some .portconftrain | some .linkerrrecover
          | some .phytest => .abnormal
          | _ => .unknown
        let logical : Health :=
          match LogicalLinkState.tryFrom port.logicalState with
          | some .active => .normal
          | some .down | some .init | some .armed | some .actDefer => .abnormal
          | _ => .unknown
        some (aggregateHealth [physical, logical])
      | _ => some .unknown
    | _ => some .unknown

/-- A row with devices is reported even without a usable identity. -/
def isReportedSwitch (node : NmxSwitchNodeInfo) : Bool :=
  node.numSwitches > 0 || (observationIdentity node.loc).isSome

def isReportedCompute (node : NmxComputeNodeInfo) : Bool :=
  node.numGpus > 0 || (observationIdentity node.loc).isSome

/-- The status of compute nodes, switches and links from the node lists alone, which establish faults only. -/
def healthWithoutTopology (switchNodes : Option (List NmxSwitchNodeInfo))
    (computeNodes : Option (List NmxComputeNodeInfo)) : Health × Health × Health :=
  let switches := ((switchNodes.getD []).filter isReportedSwitch).map switchNodeHealth
  let compute := ((computeNodes.getD []).filter isReportedCompute).map computeNodeHealth
  (aggregateHealth (compute ++ [.unknown]), aggregateHealth (switches ++ [.unknown]), .unknown)

def rowHealth {ν : Type} (loc : ν → Option NmxLocationInfo) (health : ν → Health)
    (identity : Option (String × UInt64)) (nodes : List ν) : Health :=
  aggregateHealth
    ((nodes.filter (fun node => identity.isSome && observationIdentity (loc node) = identity)).map health)

structure DataPlane where
  compute : List Health
  switches : List Health
  links : List Health
  observedSwitches : FiniteSet (String × UInt64)
  observedComputes : FiniteSet (String × UInt64)

def insertIdentity (observed : FiniteSet (String × UInt64)) :
    Option (String × UInt64) → FiniteSet (String × UInt64)
  | some identity => observed.insert identity
  | none => observed

/-- Missing port records cannot establish whether the absent ports are excluded. -/
def portHealth (numPorts : UInt64) (ports : List NmxPortTopoInfo) : List Health :=
  (if numPorts.toNat > ports.length then [.unknown] else []) ++ ports.filterMap operationalLinkHealth

def addDevice (switchNodes : Option (List NmxSwitchNodeInfo))
    (computeNodes : Option (List NmxComputeNodeInfo))
    (plane : DataPlane) : Option Device → DataPlane
  | some (.switchTopoInfo switch) =>
    let identity := observationIdentity switch.loc
    let rows := switchNodes.map (rowHealth NmxSwitchNodeInfo.loc switchNodeHealth identity)
    { plane with
      switches := plane.switches ++ switchHealth switch :: rows.toList
      observedSwitches := insertIdentity plane.observedSwitches identity
      links := plane.links ++ portHealth switch.numPorts switch.portTopoInfo }
  | some (.gpuTopoInfo gpu) =>
    let identity := observationIdentity gpu.loc
    let rows := computeNodes.map (rowHealth NmxComputeNodeInfo.loc computeNodeHealth identity)
    { plane with
      compute := plane.compute ++ gpuHealth gpu :: rows.toList
      observedComputes := insertIdentity plane.observedComputes identity
      links := plane.links ++ portHealth gpu.numPorts gpu.portTopoInfo }
  | none =>
    { plane with
      compute := plane.compute ++ [.unknown]
      switches := plane.switches ++ [.unknown]
      links := plane.links ++ [.unknown] }

def isMissing (observed : FiniteSet (String × UInt64)) (expected : List ObservedIdentity) : Bool :=
  expected.any (fun node => !decide (placement node ∈ observed))

def dataPlaneHealth (topology : Option NmxFmTopologyInfo) (switchNodes : Option (List NmxSwitchNodeInfo))
    (computeNodes : Option (List NmxComputeNodeInfo))
    (expectedSwitches expectedComputes : List ObservedIdentity) :
    Health × Health × Health :=
  match topology with
  | none => healthWithoutTopology switchNodes computeNodes
  | some topology =>
    let start : DataPlane :=
      { compute := if computeNodes.isNone then [.unknown] else []
        switches := if switchNodes.isNone then [.unknown] else []
        links := []
        observedSwitches := .empty
        observedComputes := .empty }
    let plane := topology.deviceTopoInfo.foldl (addDevice switchNodes computeNodes) start
    let switches :=
      plane.switches ++ (if isMissing plane.observedSwitches expectedSwitches then [.unknown] else [])
    let compute := plane.compute ++
      (if plane.observedComputes.isEmpty ||
        isMissing plane.observedComputes expectedComputes then [.unknown] else [])
    (aggregateHealth compute, aggregateHealth switches, aggregateHealth plane.links)

def controlPlaneState (domain : NmxDomainStateInfo) : ScaleUpFabricControlPlaneState :=
  match ControlPlaneState.tryFrom domain.controlPlaneState with
  | some .configured => .configured
  | some .timeout | some .error => .failed
  | _ => .unknown

def controllerHealth (domain : NmxDomainStateInfo) : Health :=
  reportedHealth NmxControllerHealth.tryFrom domain.nmxControllerHealth .unknown .healthy

/-- The health of a group, from the samples and the members that are expected. -/
def interpretGroup (samples : FabricSamples) (expectedSwitches expectedComputes : List ObservedIdentity) :
    GroupObservation :=
  let controller : ScaleUpFabricControlPlaneState × Health :=
    match samples.domain with
    | .ok domain => (controlPlaneState domain, controllerHealth domain)
    | .error _ => (.unknown, .unknown)
  let (compute, switches, links) := dataPlaneHealth samples.topology.toOption samples.switchNodes.toOption
    samples.computeNodes.toOption expectedSwitches expectedComputes
  -- faults of the node lists are kept even when the topology omits the node
  let (nodeCompute, nodeSwitches, _) :=
    healthWithoutTopology samples.switchNodes.toOption samples.computeNodes.toOption
  { controlPlaneState := controller.1
    health :=
      { controller := controller.2
        compute := if nodeCompute = .abnormal then nodeCompute else compute
        switches := if nodeSwitches = .abnormal then nodeSwitches else switches
        links := links } }

end FabricObservation

end RackManagement
