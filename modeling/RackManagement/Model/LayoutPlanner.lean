import RackManagement.Library.Backtracking
import RackManagement.Model.FabricLayout

/-!
# The layout planner

`plan_layout` resolves fabric requests against the discovered trays of a rack.
-/

namespace RackManagement

open Library

structure ObservedPlacement where
  nodeId : String
  nodeType : String
  chassisSerialNumber : String
  position : FabricPosition
  physicalTopology : Option String

structure ScaleUpFabricSpec where
  computeTrayCount : Nat
  switchTrayCount : Nat
  primarySwitchNodeId : Option String

structure ScaleUpFabricStaticConfig where
  configFileName : String
  key : String
  value : String

structure ScaleUpFabricConfig where
  topologyType : String
  extraStaticConfigs : List ScaleUpFabricStaticConfig

structure ScaleUpFabricMembers where
  computeNodeIds : List String
  switchNodeIds : List String
  primarySwitchNodeId : String

structure PlannedFabric where
  assignment : ScaleUpFabricMembers
  config : ScaleUpFabricConfig
  absentStaticConfigs : OrderedSet (String ×ₗ String)

/-- The planned fabrics, and the link states of every switch. -/
structure FabricPlan where
  fabrics : List PlannedFabric
  links : OrderedMap String LinkStates
  fullTopology : Bool

structure ResolvedPlacement where
  computePositions : OrderedSet FabricPosition
  switchPositions : OrderedSet FabricPosition
  links : List (FabricPosition × LinkStates)

/-- The choices made so far, as far as the rest of the search depends on them. -/
structure FailedPlacementState where
  nextRequest : Nat
  computePositions : OrderedSet FabricPosition
  switchPositions : OrderedSet FabricPosition
deriving DecidableEq

namespace LayoutPlanner

/-- The slots that are taken once the nodes are added, each at its own tray index and slot. -/
def claimPositions : List ObservedPlacement → (indices slots : List Nat) → Except String (List Nat)
  | [], _, slots => .ok slots
  | node :: nodes, indices, slots =>
    if node.position.trayIndex ∈ indices ∨ node.position.slotNumber ∈ slots then
      .error "observed inventory contains duplicate tray indices or shared slots"
    else claimPositions nodes (node.position.trayIndex :: indices) (node.position.slotNumber :: slots)

variable (profile : FabricLayoutProfile)

def validateInventory (switches computes : List ObservedPlacement) :
    Except String Unit := do
  let serials := OrderedSet.ofList ((switches ++ computes).map ObservedPlacement.chassisSerialNumber)
  let ids := OrderedSet.ofList ((switches ++ computes).map ObservedPlacement.nodeId)
  failIf (serials.size ≠ 1 ∨ serials.toList.any (fun serial => trim serial = "") = true ∨
      ids.size ≠ switches.length + computes.length ∨ ids.toList.any (fun id => trim id = "") = true ∨
      switches.length ≠ profile.switchTrayCount ∨ profile.computeTrayCount < computes.length)
    ("observed inventory must contain every configured switch, fit within compute capacity, and have unique node IDs " ++
      "in one chassis")
  let slots ← claimPositions switches [] []
  let _ ← claimPositions computes [] slots
  failIf (switches.any (fun node =>
        node.nodeType ∉ profile.switchNodeTypes || node.physicalTopology ≠
          some profile.physicalTopology) = true ∨
      computes.any (fun node => node.nodeType ∉ profile.computeNodeTypes) = true)
    "observed hardware identity does not match the installed fabric profile"

def nmxTopologyUnknown : String := "unknown"

def trimEntry (entry : ScaleUpFabricStaticConfig) : ScaleUpFabricStaticConfig :=
  ⟨trim entry.configFileName, trim entry.key, trim entry.value⟩

def normalizeEntries : List ScaleUpFabricStaticConfig → (keys : List (String × String)) →
    Except String (List ScaleUpFabricStaticConfig)
  | [], _ => .ok []
  | entry :: entries, keys => do
    let entry := trimEntry entry
    failIf (entry.configFileName = "" ∨
      entry.key = "") "extra static config file names and keys must be non-empty"
    failIf (entry.configFileName = nmxCFmConfigFile ∧ entry.key = nmxCTopologyKey)
      s!"extra static config {nmxCFmConfigFile}/{nmxCTopologyKey} conflicts with config.topology_type"
    failIf ((entry.configFileName, entry.key) ∈ keys)
      s!"duplicate extra static config {entry.configFileName}/{entry.key}"
    return entry :: (← normalizeEntries entries ((entry.configFileName, entry.key) :: keys))

def validateScaleUpFabricConfig (config : ScaleUpFabricConfig) : Except String ScaleUpFabricConfig := do
  let topologyType := trim config.topologyType
  failIf (topologyType = "") "config.topology_type is required"
  failIf (topologyType = nmxTopologyUnknown) "config.topology_type must identify a configured topology"
  return ⟨topologyType, ← normalizeEntries config.extraStaticConfigs []⟩

def validateManagedConfig (config : ScaleUpFabricConfig) : Except String ScaleUpFabricConfig := do
  let config ← validateScaleUpFabricConfig config
  validateStaticConfigValue config.topologyType
  config.extraStaticConfigs.forM (fun entry => do
    validateStaticConfigKey entry.configFileName entry.key
    validateStaticConfigValue entry.value)
  return config

abbrev ControllerTargets := OrderedMap (String ×ₗ String) String × OrderedSet (String ×ₗ String)

def applyTarget (targets : ControllerTargets) (target : FabricStaticConfigTarget) :
    Except String ControllerTargets :=
  let key := FabricLayoutProfile.targetKey target
  match target.action with
  | .set value =>
    if (targets.1.lookup key).any (fun supplied => supplied ≠ value) then
      .error "caller static configuration conflicts with a controller set target"
    else .ok (targets.1.insert key value, targets.2)
  | .remove =>
    if (targets.1.lookup key).isSome then
      .error "caller static configuration conflicts with a controller removal target"
    else .ok (targets.1, .ofList (key :: targets.2.toList))

def controllerRule? (config : ScaleUpFabricConfig)
    (computeTrayCount switchTrayCount : Nat) : Option FabricControllerRule :=
  (profile.fabricRules.find? (fun fabric =>
    fabric.computeTrayCount = computeTrayCount ∧ fabric.switchTrayCount = switchTrayCount)).bind
      (fun fabric =>
      fabric.controllerRules.find? (fun rule => rule.topologyType = config.topologyType))

def resolveControllerConfig (config : ScaleUpFabricConfig)
    (computeTrayCount switchTrayCount : Nat) :
    Except String (ScaleUpFabricConfig × OrderedSet (String ×ₗ String)) :=
  match controllerRule? profile config computeTrayCount switchTrayCount with
  | none => .error "no controller rule matches the requested topology and fabric size"
  | some rule => do
    let values := OrderedMap.ofList (config.extraStaticConfigs.map (fun entry =>
      (toLex (entry.configFileName, entry.key), entry.value)))
    let targets ← rule.staticConfigs.foldlM applyTarget (values, .ofList [])
    failIf (1024 < targets.1.size) "resolved managed static config targets exceed 1024"
    return (⟨config.topologyType, targets.1.entries.map (fun entry =>
      ⟨(ofLex entry.1).1, (ofLex entry.1).2, entry.2⟩)⟩, targets.2)

section Placements

variable (profile : FabricLayoutProfile) (switches computes : List ObservedPlacement)

def positions (nodes : List ObservedPlacement) : OrderedSet FabricPosition :=
  .ofList (nodes.map ObservedPlacement.position)

/-- The placements of one fabric size; the full size has no grouping. -/
def rulePlacements (rule : FabricRule) : Except String (List ResolvedPlacement) :=
  match rule.grouping with
  | none => .ok []
  | some grouping => do
    let groups ← grouping.resolve (positions computes) (positions switches)
    (groups.filter (fun group =>
        group.computes.size = rule.computeTrayCount ∧
          group.switches.size = rule.switchTrayCount)).mapM (fun group => do
      let links ← profile.linkCalculation.expand group.computes group.switches
        (.ofList profile.fullLinkStates.keys)
      return ⟨group.computes, group.switches, links⟩)

def placementKey (placement : ResolvedPlacement) : OrderedSet FabricPosition ×ₗ OrderedSet FabricPosition :=
  toLex (placement.switchPositions, placement.computePositions)

def resolvePlacements (requested : List ScaleUpFabricSpec) : Except String (List ResolvedPlacement) := do
  let rules := profile.fabricRules.filter (fun rule => requested.any (fun spec =>
    spec.computeTrayCount = rule.computeTrayCount ∧ spec.switchTrayCount = rule.switchTrayCount))
  let placements ← rules.mapM (rulePlacements profile switches computes)
  return placements.flatten.insertionSort (fun a b => placementKey a ≤ placementKey b)

end Placements

def holdsSwitch (placement : ResolvedPlacement) (switchPositions : OrderedMap String FabricPosition)
    (id : String) : Bool :=
  (switchPositions.lookup id).any (fun position => position ∈ placement.switchPositions)

/-- The requested primary is a member, and the primary that another request names is not. -/
def matchesRequest (requested : List ScaleUpFabricSpec) (switchPositions : OrderedMap String FabricPosition)
    (spec : ScaleUpFabricSpec) (index : Nat) (placement : ResolvedPlacement) : Bool :=
  placement.computePositions.size = spec.computeTrayCount && placement.switchPositions.size =
    spec.switchTrayCount &&
    spec.primarySwitchNodeId.all (holdsSwitch placement switchPositions) &&
    !requested.zipIdx.any (fun (other, otherIndex) =>
      otherIndex ≠ index && other.primarySwitchNodeId.any (holdsSwitch placement switchPositions))

def matchingPlacements (placements : List ResolvedPlacement) (requested : List ScaleUpFabricSpec)
    (switchPositions : OrderedMap String FabricPosition) : List (List ResolvedPlacement) :=
  requested.zipIdx.map (fun (spec, index) =>
    placements.filter (matchesRequest requested switchPositions spec index))

def placementState (selected : List ResolvedPlacement) : FailedPlacementState where
  nextRequest := selected.length
  computePositions := .ofList (selected.flatMap (fun placement => placement.computePositions.toList))
  switchPositions := .ofList (selected.flatMap (fun placement => placement.switchPositions.toList))

def isFree (state : FailedPlacementState) (placement : ResolvedPlacement) : Bool :=
  placement.computePositions.isDisjoint state.computePositions &&
    placement.switchPositions.isDisjoint state.switchPositions

/-- `select_placements` with what it leaves in `selected` and `failed`. -/
def selectPlacementsInPlace (candidates : List (List ResolvedPlacement)) (selected : List ResolvedPlacement)
    (failed : List FailedPlacementState) : Bool × List ResolvedPlacement × List FailedPlacementState :=
  Backtracking.searchInPlace placementState isFree (candidates.drop selected.length) selected failed

def selectPlacements (candidates : List (List ResolvedPlacement)) : Option (List ResolvedPlacement) :=
  (Backtracking.search placementState isFree candidates [] []).1

def sortByPosition (nodes : List ObservedPlacement) : List ObservedPlacement :=
  nodes.insertionSort (fun a b => a.position ≤ b.position)

def membersAt (nodes : List ObservedPlacement) (positions : OrderedSet FabricPosition) :
    List ObservedPlacement :=
  sortByPosition (nodes.filter (fun node => node.position ∈ positions))

def assignLinks (members : List ObservedPlacement) (links : OrderedMap String LinkStates)
    (target : FabricPosition × LinkStates) : Except String (OrderedMap String LinkStates) :=
  match members.find? (fun node => node.position = target.1) with
  | none => .error "private link target has no discovered switch"
  | some node => .ok (links.insert node.nodeId target.2)

section Plan

variable (profile : FabricLayoutProfile) (switches computes : List ObservedPlacement)
  (config : ScaleUpFabricConfig)

def planFabric (spec : ScaleUpFabricSpec) (placement : ResolvedPlacement)
    (links : OrderedMap String LinkStates) :
    Except String (PlannedFabric × OrderedMap String LinkStates) := do
  let (config, absent) ← resolveControllerConfig profile config spec.computeTrayCount spec.switchTrayCount
  let switchMembers := membersAt switches placement.switchPositions
  match spec.primarySwitchNodeId.or (switchMembers.head?.map ObservedPlacement.nodeId) with
  | none => .error "resolved fabric has no primary candidate"
  | some primary =>
    let links ← placement.links.foldlM (assignLinks switchMembers) links
    let computeMembers := membersAt computes placement.computePositions
    return (⟨⟨computeMembers.map ObservedPlacement.nodeId,
      switchMembers.map ObservedPlacement.nodeId, primary⟩, config,
      absent⟩, links)

def planFabrics : List (ScaleUpFabricSpec × ResolvedPlacement) → OrderedMap String LinkStates →
    Except String (List PlannedFabric × OrderedMap String LinkStates)
  | [], links => .ok ([], links)
  | (spec, placement) :: rest, links => do
    let (fabric, links) ← planFabric profile switches computes config spec placement links
    let (fabrics, links) ← planFabrics rest links
    return (fabric :: fabrics, links)

/-- Every interface of every switch is disabled unless a placement says otherwise. -/
def disabledLinks : OrderedMap String LinkStates :=
  .ofList (switches.map (fun node =>
    (node.nodeId, .ofList (profile.fullLinkStates.keys.map (fun id => (id, .down))))))

def fullRackPrimary (ordered : List ObservedPlacement) : Option String → Except String String
  | some id =>
    if ordered.any (fun node => node.nodeId = id) then .ok id
    else .error "preferred primary is absent from the supplied switch inventory"
  | none =>
    match ordered.head? with
    | some node => .ok node.nodeId
    | none => .error "full-inventory restoration has no switch"

def planFullRack (preferredPrimary : Option String) : Except String FabricPlan := do
  failIf (computes ≠ [] ∧ computes.length ≠ profile.computeTrayCount)
    "full-topology compute inventory must be complete when supplied"
  let config ← validateManagedConfig config
  let (config,
    absent) ← resolveControllerConfig profile config profile.computeTrayCount profile.switchTrayCount
  let ordered := sortByPosition switches
  let primary ← fullRackPrimary ordered preferredPrimary
  return {
    fabrics := [⟨⟨(sortByPosition computes).map ObservedPlacement.nodeId,
      ordered.map ObservedPlacement.nodeId, primary⟩,
      config, absent⟩]
    links := .ofList (ordered.map (fun node => (node.nodeId, profile.fullLinkStates)))
    fullTopology := true }

end Plan

def checkTotals : List ScaleUpFabricSpec → (computes switches : Nat) → Except String Unit
  | [], _, _ => .ok ()
  | fabric :: requested, computes, switches =>
    if computes < fabric.computeTrayCount then
      .error "requested fabric compute count exceeds supplied inventory"
    else if switches < fabric.switchTrayCount then
      .error "requested fabric switch count exceeds supplied inventory"
    else checkTotals requested (computes - fabric.computeTrayCount) (switches - fabric.switchTrayCount)

def planSmaller (switches computes : List ObservedPlacement)
    (requested : List ScaleUpFabricSpec) (requestedConfig : ScaleUpFabricConfig) :
    Except String FabricPlan := do
  failIf (requested.isEmpty = true ∨ computes.isEmpty = true)
    "smaller fabric layouts require compute inventory and nonempty fabrics"
  let config ← validateManagedConfig requestedConfig
  checkTotals requested computes.length switches.length
  let switchPositions := OrderedMap.ofList (switches.map (fun node => (node.nodeId, node.position)))
  let placements ← resolvePlacements profile switches computes requested
  match selectPlacements (matchingPlacements placements requested switchPositions) with
  | none => .error "requested fabric memberships have no supported disjoint placement"
  | some selected =>
    let (fabrics, links) ← planFabrics profile switches computes config (requested.zip selected)
      (disabledLinks profile switches)
    return ⟨fabrics, links, false⟩

def fullRackRequest : List ScaleUpFabricSpec → Option ScaleUpFabricSpec
  | [fabric] =>
    if fabric.computeTrayCount = profile.computeTrayCount ∧
      fabric.switchTrayCount = profile.switchTrayCount then some fabric
    else none
  | _ => none

/-- Plans the requested fabrics on the inventory. -/
def planLayout (switches computes : List ObservedPlacement)
    (requested : List ScaleUpFabricSpec) (requestedConfig : ScaleUpFabricConfig) :
    Except String FabricPlan := do
  profile.validate
  validateInventory profile switches computes
  match fullRackRequest profile requested with
  | some fabric => planFullRack profile switches computes requestedConfig fabric.primarySwitchNodeId
  | none => planSmaller profile switches computes requested requestedConfig

end LayoutPlanner

end RackManagement
