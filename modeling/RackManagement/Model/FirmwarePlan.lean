import Mathlib.Data.List.Sort
import Mathlib.Data.Prod.Lex
import Mathlib.Data.String.Basic
import RackManagement.Library.Merging
import RackManagement.Model.FirmwareMappings

/-!
# Firmware plans

A manifest is resolved for one node type, as in `firmware_object_handlers/plan.rs`, and prefetched
as a whole.
-/

namespace RackManagement

open Library Selectors

namespace Manifest

structure SelectedComponent where
  board : Nat
  index : Nat
  component : Component
  mapping : FirmwareTargetMapping
  configured : Option FirmwareTargetPlan
  order : Nat

section Selection

variable (lib : UrlLibrary) (manifest : FirmwareManifest) (nodeType : NodeType) (firmwareType : String)
  (selection : ComponentSelection) (profile : Option HardwareUpdatePlan)

def isSplitSwitch : Bool := nodeType = .switchGb200Nvidia || nodeType = .switchGb300Nvidia

/-- A split switch takes its EROT from the BIOS bundle if the channel has a payload of that bundle. -/
def prefersSwitchBiosErot (boards : List BoardSku) : Bool :=
  isSplitSwitch nodeType &&
    ((boards.filter (fun board => boardMatches board.boardType nodeType)).flatMap (fun board =>
      board.components.firmware)).any (fun component =>
        component.component = "SBIOS+EROT" && inChannel manifest component firmwareType &&
          component.locations.any (fun location =>
            payloadLocation lib manifest component location && hasDownloadLocation location &&
              (advertisedFilename lib location).isSome))

structure Candidate where
  board : Nat
  index : Nat
  component : Component
  mapping : SelectedMapping

def componentCandidates (board : Nat) (component : Component × Nat) : List Candidate :=
  (mappings nodeType profile).map (fun mapping => ⟨board, component.2, component.1, mapping⟩)

def boardCandidates (board : BoardSku × Nat) : List Candidate :=
  if boardMatches board.1.boardType nodeType then
    board.1.components.firmware.zipIdx.flatMap (componentCandidates nodeType profile board.2)
  else []

def candidates (boards : List BoardSku) : List Candidate :=
  boards.zipIdx.flatMap (boardCandidates nodeType profile)

variable (candidate : Candidate)

def Candidate.applies : Bool :=
  firmwareSourceComponentMatches candidate.component.component candidate.mapping.mapping.sourceComponent &&
    (profile.isSome || firmwareComponentAllowedForNodeType nodeType candidate.mapping.mapping.targetKey) &&
    match candidate.mapping.configured with
    | none => selection.matchesTargetMapping candidate.mapping.mapping
    | some target => selection.matchesProfileTarget target

def Candidate.isOtherErot (prefersBios : Bool) : Bool :=
  isSplitSwitch nodeType && candidate.mapping.mapping.targetKey = "EROT" &&
    ((prefersBios && candidate.mapping.mapping.sourceComponent = "BMC+FPGA+EROT") ||
      (!prefersBios && candidate.mapping.mapping.sourceComponent = "SBIOS+EROT"))

def Candidate.selected : SelectedComponent where
  board := candidate.board
  index := candidate.index
  component := candidate.component
  mapping := candidate.mapping.mapping
  configured := candidate.mapping.configured
  order := candidate.mapping.order

abbrev Selection := FiniteMap String Nat × List SelectedComponent

def ambiguousTarget (targetKey : String) (previous board : Nat) : PlanError :=
  .invalid (s!"ambiguous {targetKey} for {nodeType.asStr}: BoardSKUs[{previous}] and BoardSKUs[{board}]; " ++
    "supply a manifest with one matching board")

def selectCandidate (prefersBios : Bool) (state : Selection) (candidate : Candidate) :
    Except PlanError Selection :=
  if candidate.applies nodeType selection profile then
    match channel manifest candidate.component with
    | none => .error
      (.invalid (s!"Milestones[0].BoardSKUs[{candidate.board}].Components.Firmware[{candidate.index}].Type " ++
        s!"is required for {nodeType.asStr} component {candidate.component.component}"))
    | some channel =>
      if equalsIgnoringAsciiCase (trim channel) (trim firmwareType) &&
        !candidate.isOtherErot nodeType prefersBios then
        let targetKey := candidate.mapping.mapping.targetKey
        match state.1.lookup targetKey with
        | some previous =>
          if previous ≠ candidate.board then
            .error (ambiguousTarget nodeType targetKey previous candidate.board)
          else .ok (state.1.insert targetKey candidate.board, state.2 ++ [candidate.selected])
        | none => .ok (state.1.insert targetKey candidate.board, state.2 ++ [candidate.selected])
      else .ok state
  else .ok state

def SelectedComponent.isRequested (requested : String) (selected : SelectedComponent) : Bool :=
  match selected.configured with
  | none => selectedFirmwareMappingMatches selected.mapping [requested]
  | some target => target.matchesComponent requested

def checkRequested (selected : List SelectedComponent) (requested : String) : Except PlanError Unit :=
  failIf (selected.any (SelectedComponent.isRequested requested) = false)
    (.invalid s!"component {requested} has no matching manifest entry for {nodeType.asStr} ({firmwareType})")

def selectComponentsWithProfile : Except PlanError (List SelectedComponent) := do
  let milestone ← singleMilestone manifest
  let boards := milestone.boardSkus
  let prefersBios := prefersSwitchBiosErot lib manifest nodeType firmwareType boards
  let state ← (candidates nodeType profile boards).foldlM
    (selectCandidate manifest nodeType firmwareType selection profile prefersBios) (∅, [])
  selection.names.forM (checkRequested nodeType firmwareType state.2)
  failIf (state.2 = [])
    (.noComponents s!"no firmware components found for {nodeType.asStr} ({firmwareType})")
  return state.2

end Selection

inductive FirmwareDestination
  | redfish (path : RedfishPath)
  | multipart (paths : List RedfishPath)
  | driverDefault

structure FirmwareTargetResolution where
  profileTargetId : String
  destination : FirmwareDestination
  updateParameters : Option (List (String × Json))
  oemParameters : Option (List (String × Json))

structure FirmwareTarget where
  component : String := ""
  firmwareFile : String := ""
  expectedVersion : Option String := none
  resolution : Option FirmwareTargetResolution := none
  linkxPolicy : Option LinkxPolicy := none

def RequestTargetSelection.allows : RequestTargetSelection → FirmwareDestination → Bool
  | .explicit paths, .redfish path => path ∈ paths
  | .multipart expected, .multipart actual => expected = actual
  | .driverDefault, .driverDefault => true
  | _, _ => false

def FirmwareTargetPlan.destination (configured : FirmwareTargetPlan) (component : String) :
    Except PlanError FirmwareDestination :=
  match configured.requestTargetSelection with
  | .explicit paths =>
    let selected := paths.find? (fun path => equalsIgnoringAsciiCase path.asStr (trim component))
    match selected, paths with
    | some path, _ => .ok (.redfish path)
    | none, [path] => .ok (.redfish path)
    | none, _ =>
      .error (.invalid (s!"hardware profile target {configured.id} has multiple request_targets; " ++
        "direct requests require a single destination"))
  | .driverDefault => .ok .driverDefault
  | .multipart paths => .ok (.multipart paths)

def FirmwareTargetPlan.resolve (configured : FirmwareTargetPlan) (target : FirmwareTarget) :
    Except PlanError FirmwareTarget :=
  match target.resolution with
  | some resolved =>
    if resolved.profileTargetId = configured.id ∧
        configured.requestTargetSelection.allows resolved.destination = true ∧
        (resolved.updateParameters == configured.updateParameters) = true ∧
        (resolved.oemParameters == configured.oemParameters) = true then .ok target
    else .error
      (.invalid s!"resolved firmware destination does not belong to profile target {configured.id}")
  | none => do
    let destination ← configured.destination target.component
    return { target with
      component := configured.componentKey
      resolution :=
        some ⟨configured.id, destination, configured.updateParameters, configured.oemParameters⟩ }

namespace LinkxPolicy

def versionOk (version : String) : Bool :=
  version ≠ "" && version ≠ "00.00.0000" && decide (3 ≤ (splitAll '.' version).length) &&
    (splitAll '.' version).all (fun part => part ≠ "" && part.toList.all Char.isDigit)

def invalid (message : String) : PlanError :=
  .invalid s!"incompatible firmware selection for LINKX: {message}"

def validate (policy : LinkxPolicy) : Except PlanError Unit := do
  failIf (versionOk policy.currentVersion = false ∨ versionOk policy.targetVersion = false)
    (invalid "LinkX policy requires explicit numeric current_version and target_version")
  failIf (policy.sha256.utf8ByteSize ≠ 64 ∨ policy.sha256.toList.all (fun c => (hexDigit c).isSome) = false)
    (invalid "LinkX policy requires a 64-digit sha256")

end LinkxPolicy

def linkxPolicy (tools : Tools) (version : Option String) (rollout : Option Json) :
    Except PlanError LinkxPolicy :=
  match rollout with
  | none => .error (.invalid "LINKX requires a LinkxRollout policy in the firmware manifest")
  | some value =>
    match tools.linkxPolicyFromValue value with
    | .error error => .error (.invalid s!"invalid LinkxRollout policy: {error}")
    | .ok policy => do
      policy.validate
      failIf (version ≠ some policy.targetVersion)
        (.invalid "LINKX Version must equal LinkxRollout.target_version")
      return policy

namespace DellCompute

variable (target : FirmwareTarget)

def flintFamilyForTarget : Option FlintDeviceFamily :=
  if target.resolution.isNone then FlintDeviceFamily.fromComponent target.component else none

def isHostBmc : Bool :=
  (extension target.firmwareFile).any (fun extension => equalsIgnoringAsciiCase extension "ima") ||
    (do
      let resolution ← target.resolution
      let parameters ← resolution.oemParameters
      let imageType ← (Json.object parameters).getStr "ImageType"
      return equalsIgnoringAsciiCase imageType "BMC").getD false

/-- A name that ends in `BmcFwV`, twelve digits and `.ima` carries the version. -/
def filenameBmcVersion (filename : String) : Option String := do
  let name ← (fileName filename).map toAsciiLowercase
  let stem ← stripEnd ".ima" name
  let (_, version) ← splitAtLast "bmcfwv" stem
  if version.toList.length = 12 ∧ version.toList.all Char.isDigit = true then
    some (String.ofList (version.toList.take 2) ++ "." ++
      String.ofList ((version.toList.drop 2).take 2) ++ "." ++
      String.ofList (version.toList.drop 4))
  else none

def expectedBmcVersion : Except PlanError String :=
  match (target.expectedVersion.map trim).filter (· ≠ ""), filenameBmcVersion target.firmwareFile with
  | some declared, some filename =>
    if declared ≠ filename then
      .error (.invalid s!"BMC manifest Version {declared} conflicts with filename version {filename}")
    else .ok declared
  | some declared, none => .ok declared
  | none, some filename => .ok filename
  | none, none =>
    .error (.invalid
      ("Dell GB200 raw BMC firmware requires a manifest Version or " ++ "a BmcFwV<12 digits>.ima filename"))

def validateFirmwareTarget : Except PlanError Unit := do
  failIf ((flintFamilyForTarget target).isSome = true ∨
      ["BF3_BFB", "LINKX"].any (equalsIgnoringAsciiCase target.component) = true)
    (.invalid s!"in-band firmware update not supported for {NodeType.computeGb200Dell.asStr} nodes")
  if isHostBmc target then discard (expectedBmcVersion target) else return ()

def validateFirmwareTargets (targets : List FirmwareTarget) : Except PlanError Unit :=
  targets.forM validateFirmwareTarget

end DellCompute

def supermicroBmcFilename (firmwareFile : String) : Bool :=
  let filename := toAsciiLowercase ((fileName firmwareFile).getD firmwareFile)
  endsWith ".bin" filename && containsText "obmc" filename

def filenameAllowed (lib : UrlLibrary) (nodeType : NodeType) (mapping : FirmwareTargetMapping)
    (location : Location) : Bool :=
  if nodeType ≠ .computeGb300Supermicro then true
  else
    match advertisedFilename lib location with
    | none => false
    | some filename =>
      let filename := toAsciiLowercase filename
      if mapping.targetKey = "HMC" then endsWith ".fwpkg" filename && containsText "nosbios" filename
      else if mapping.targetKey = "BIOS" then endsWith ".bin" filename && containsText "bios" filename
      else if mapping.targetKey = "BMC" then supermicroBmcFilename filename
      else false

def filenameAllowedWithProfile (lib : UrlLibrary) (nodeType : NodeType) (mapping : FirmwareTargetMapping)
    (location : Location) (configured : Option FirmwareTargetPlan) : Bool :=
  match configured with
  | some target => (advertisedFilename lib location).any target.filename.matches
  | none => filenameAllowed lib nodeType mapping location

structure PlannedTarget where
  firmware : FirmwareTarget
  artifact : Artifact
  order : Nat

structure FirmwarePlan where
  nodeType : NodeType
  targets : List PlannedTarget

section Plan

variable (tools : Tools) (manifest : FirmwareManifest) (nodeType : NodeType) (firmwareType : String)
  (selection : ComponentSelection) (profile : Option HardwareUpdatePlan)

variable (selected : SelectedComponent)

def expectedVersion (policy : Option LinkxPolicy) : Except PlanError (Option String) :=
  if nodeType = .computeGb300Supermicro ∧ selected.mapping.targetKey = "BMC" then
    match nonempty selected.component.version with
    | some version => .ok (some version)
    | none => .error (.invalid "Supermicro GB300 BMC requires its manifest Version")
  else if nodeType = .computeGb200Dell then .ok (nonempty selected.component.version)
  else if nodeType = .powershelfVrnvl72Liteon ∧ selected.mapping.targetKey = "LiteOnPMC" then
    .ok (nonempty selected.component.version)
  else .ok (policy.map LinkxPolicy.targetVersion)

def targetFirmware (policy : Option LinkxPolicy) :
    Except PlanError FirmwareTarget := do
  let version ← expectedVersion nodeType selected policy
  let firmware : FirmwareTarget :=
    { component := selected.mapping.redfishTarget, expectedVersion := version, linkxPolicy := policy }
  match selected.configured with
  | some configured => configured.resolve firmware
  | none => return firmware

def planTarget (revision : String) (selected : SelectedComponent) (policy : Option LinkxPolicy)
    (location : Location × Nat) :
    Except PlanError PlannedTarget := do
  let artifact ← Artifact.fromLocation tools revision
    (locationContext selected.board "Firmware" selected.index location.2) location.1
  let firmware ← targetFirmware nodeType selected policy
  DellCompute.validateFirmwareTargets
    (if nodeType = .computeGb200Dell then [{ firmware with firmwareFile := artifact.filename }] else [])
  return ⟨firmware, { artifact with required := true }, selected.order⟩

def eligibleLocations : List (Location × Nat) :=
  selected.component.locations.zipIdx.filter (fun location =>
    payloadLocation tools.url manifest selected.component location.1 &&
      filenameAllowedWithProfile tools.url nodeType selected.mapping location.1 selected.configured &&
      hasDownloadLocation location.1)

def policyOf : Except PlanError (Option LinkxPolicy) :=
  if selected.mapping.targetKey = "LINKX" then
    some <$> linkxPolicy tools selected.component.version selected.component.linkxRollout
  else .ok none

def planComponent (revision : String) (selected : SelectedComponent) :
    Except PlanError (List PlannedTarget) := do
  let policy ← policyOf tools selected
  (eligibleLocations tools manifest nodeType selected).mapM
    (planTarget tools nodeType revision selected policy)

def addTargets (byKey : OrderedMap String (List PlannedTarget))
    (entry : SelectedComponent × List PlannedTarget) :
    OrderedMap String (List PlannedTarget) :=
  let targetKey := entry.1.mapping.targetKey
  byKey.insert targetKey ((byKey.lookup targetKey).getD [] ++ entry.2)

def checkTargets (entry : String × List PlannedTarget) : Except PlanError (List PlannedTarget) := do
  failIf (entry.2 = [])
    (.invalid s!"no eligible firmware payload for {nodeType.asStr} {entry.1} ({firmwareType})")
  failIf (entry.1 = "LINKX" ∧ 1 < entry.2.length)
    (.invalid ("LINKX requires exactly one eligible image per node; " ++
      "ambiguous payloads are not selected automatically"))
  return entry.2

/-- A switch whose five targets share one package gets it in one upload without a component. -/
def mergeSwitchTargets (targets : List PlannedTarget) : List PlannedTarget :=
  match targets with
  | first :: _ =>
    if nodeType = .switchVrnvl72Nvidia ∧ targets.length = 5 ∧
        targets.all (fun target => target.artifact.id = first.artifact.id) = true ∧
        ["bmc", "bios", "sma", "erot", "cpld1"].all (fun name =>
          targets.any (fun target => target.firmware.component = name)) = true then
      [{ first with firmware := { first.firmware with component := "" } }]
    else targets
  | [] => targets

/-- The update plan of a node for the selected components. -/
def firmwarePlanWithProfile : Except PlanError FirmwarePlan := do
  let selected ← selectComponentsWithProfile tools.url manifest nodeType firmwareType selection profile
  let revision ← manifestRevision tools manifest
  let planned ← selected.mapM (fun component => do
    return (component, ← planComponent tools manifest nodeType revision component))
  let byKey := planned.foldl addTargets OrderedMap.empty
  let targets ← byKey.entries.mapM (checkTargets nodeType firmwareType)
  return ⟨nodeType,
    mergeSwitchTargets nodeType (targets.flatten.insertionSort (fun a b => a.order ≤ b.order))⟩

def readyFile (isFile : String → Bool) (cache : String) (ready : List String) (artifact : Artifact)
    (unavailable : String) (missing : String → String) : Except PlanError String := do
  failIf (artifact.id ∉ ready) (.cache unavailable)
  let path ← artifact.cachePath cache
  failIf (isFile path = false) (.cache (missing path))
  return path

def FirmwarePlan.resolve (isFile : String → Bool) (plan : FirmwarePlan) (cache : String)
    (ready : List String) :
    Except PlanError (List FirmwareTarget) :=
  plan.targets.mapM (fun target => do
    let path ← readyFile isFile cache ready target.artifact
      s!"selected artifact {target.artifact.context} is not available"
      (fun path => s!"prepared firmware file {path} is missing")
    let component := if plan.nodeType.kind = .powershelf then "" else target.firmware.component
    return { target.firmware with firmwareFile := path, component := component })

end Plan

structure FirmwareManifestExpectation where
  component : String
  version : String
  target : String
  skuId : String
deriving DecidableEq

namespace FirmwareManifestExpectation

abbrev Key := String ×ₗ String ×ₗ String

def key (expectation : FirmwareManifestExpectation) : Key :=
  toLex (normalizedFirmwareIdentity expectation.component,
    toLex (normalizedFirmwareIdentity expectation.skuId, normalizedFirmwareIdentity expectation.target))

def sameVersion (existing proposed : FirmwareManifestExpectation) : Bool :=
  firmwareVersionsMatch existing.version proposed.version

end FirmwareManifestExpectation

def conflictingVersions (existing proposed : FirmwareManifestExpectation) : PlanError :=
  .invalid (s!"firmware manifest has conflicting versions for component {proposed.component}: " ++
    s!"{existing.version} and {proposed.version}")

def SelectedComponent.proposed (selected : SelectedComponent) : List FirmwareManifestExpectation :=
  let component := selected.component
  let mapping := selected.mapping
  let subcomponents := component.subcomponents.filter (fun sub => trim sub.version ≠ "")
  if subcomponents.isEmpty then
    match nonempty component.version with
    | some version => [⟨mapping.targetKey, trim version, mapping.redfishTarget, ""⟩]
    | none => []
  else
    (subcomponents.filter (fun sub => equalsIgnoringAsciiCase mapping.targetKey component.component ||
      manifestComponentMatchesTarget sub.component mapping.targetKey)).map (fun sub =>
        ⟨sub.component, trim sub.version, mapping.redfishTarget, sub.skuId.getD ""⟩)

def SelectedComponent.destinations (selected : SelectedComponent) : List String :=
  match selected.configured.map FirmwareTargetPlan.requestTargetSelection with
  | some (.multipart (path :: paths)) => (path :: paths).map RedfishPath.asStr
  | _ => [selected.mapping.redfishTarget]

def SelectedComponent.proposals (selected : SelectedComponent) : List FirmwareManifestExpectation :=
  selected.proposed.flatMap (fun expectation =>
    selected.destinations.map (fun target => { expectation with target := target }))

def expectationsWithProfile (lib : UrlLibrary) (manifest : FirmwareManifest) (nodeType : NodeType)
    (firmwareType : String) (selection : ComponentSelection) (profile : Option HardwareUpdatePlan) :
    Except PlanError (List FirmwareManifestExpectation) := do
  let selected ← selectComponentsWithProfile lib manifest nodeType firmwareType selection profile
  let expectations ← mergeValues FirmwareManifestExpectation.key
    FirmwareManifestExpectation.sameVersion conflictingVersions
    (selected.flatMap SelectedComponent.proposals)
  failIf (expectations.entries = [])
    (.invalid (s!"no comparable firmware versions found in manifest for node type {nodeType.asStr} "
      ++ s!"({firmwareType})"))
  return expectations.values

section Catalog

variable (tools : Tools) (manifest : FirmwareManifest)

def catalogFirmware (board : Nat) (component : Component × Nat) : List (String × Location) :=
  (component.1.locations.zipIdx.filter (fun location =>
    (payloadLocation tools.url manifest component.1 location.1 ||
      recoveryPayloadLocation tools.url location.1) &&
      hasDownloadLocation location.1)).map (fun location =>
        (locationContext board "Firmware" component.2 location.2, location.1))

def catalogSoftware (board : Nat) (component : Component × Nat) : List (String × Location) :=
  (component.1.locations.zipIdx.filter (fun location =>
    downloadableNvosLocation tools.url location.1)).map (fun location =>
    (locationContext board "Software" component.2 location.2, location.1))

def isNvos (component : Component) : Bool := equalsIgnoringAsciiCase component.component "NVOS"

def catalogBoard (board : BoardSku × Nat) : List (String × Location) :=
  if (lookupKeyFromBoardType board.1.boardType).isNone then []
  else
    board.1.components.firmware.zipIdx.flatMap (catalogFirmware tools manifest board.2) ++
      if lookupKeyFromBoardType board.1.boardType = some .switchTray then
        (board.1.components.software.zipIdx.filter (fun component => isNvos component.1)).flatMap
          (catalogSoftware tools board.2)
      else []

def catalogArtifacts : Except PlanError (List Artifact) := do
  let revision ← manifestRevision tools manifest
  let milestone ← singleMilestone manifest
  (milestone.boardSkus.zipIdx.flatMap (catalogBoard tools manifest)).mapM (fun reference =>
    Artifact.fromLocation tools revision reference.1 reference.2)

def selectNvosLocation (context : String) (locations : List Location) : Except PlanError (Location × Nat) :=
  match locations.zipIdx.filter (fun location => downloadableNvosLocation tools.url location.1) with
  | [selected] => .ok selected
  | [] => .error (.invalid s!"{context}.Locations must include an NVOS .bin image location")
  | _ => .error (.invalid s!"{context}.Locations contains multiple NVOS .bin image candidates")

def switchImageOf (revision : String) (board : Nat) (component : Component × Nat) :
    Except PlanError Artifact := do
  let location ← selectNvosLocation tools s!"BoardSKUs[{board}].Components.Software[{component.2}]"
    component.1.locations
  let artifact ← Artifact.fromLocation tools revision
    (locationContext board "Software" component.2 location.2) location.1
  return { artifact with required := true }

def switchImage (softwareType : String) : Except PlanError Artifact := do
  let revision ← manifestRevision tools manifest
  let milestone ← singleMilestone manifest
  let boards := milestone.boardSkus.zipIdx.filter (fun board =>
    lookupKeyFromBoardType board.1.boardType = some .switchTray)
  let components := boards.flatMap (fun board =>
    (board.1.components.software.zipIdx.filter (fun component =>
      isNvos component.1 && (nonempty component.1.channel).any (fun channel =>
        equalsIgnoringAsciiCase (trim channel) (trim softwareType)))).map (fun component =>
          (board.2, component)))
  let images ← components.mapM (fun component => switchImageOf tools revision component.1 component.2)
  match images with
  | [image] => return image
  | images => .error (.invalid s!"expected one NVOS image for {softwareType}; found {images.length}")

structure RecoveryArtifacts where
  regular : Artifact
  recovery : Artifact

structure RecoveryBundles where
  regular : String
  recovery : String

def RecoveryArtifacts.resolve (isFile : String → Bool) (artifacts : RecoveryArtifacts)
    (cache : String) (ready : List String) :
    Except PlanError RecoveryBundles := do
  let path := fun (label : String) (artifact : Artifact) =>
    readyFile isFile cache ready artifact s!"{label} {artifact.context} is not available"
      (fun path => s!"{label} {path} is missing")
  return ⟨← path "regular HMC bundle" artifacts.regular, ← path "HMC recovery package" artifacts.recovery⟩

variable (nodeType : NodeType)

/-- The production channel wins, then the only one; none means that there is nothing to recover with. -/
def recoveryChannel (boards : List BoardSku) : Except PlanError (Option String) :=
  let components :=
    (boards.filter (fun board => boardMatches board.boardType nodeType)).flatMap (fun board =>
    board.components.firmware)
  let channels := OrderedSet.ofList (((components.filter (fun component =>
    firmwareSourceComponentMatches component.component "HMC")).filterMap (channel manifest)).map
      (fun channel =>
      toAsciiLowercase (trim channel)))
  if "prod" ∈ channels.toList then .ok (some "prod")
  else
    match channels.toList with
    | [] => .ok none
    | [only] => .ok (some only)
    | first :: second :: _ =>
      .error (.invalid
        (s!"recovery packages for {nodeType.asStr} span several channels ({first}, {second}, ...) " ++
        "and none is prod"))

def recoveryCandidates (revision : String) (selected : SelectedComponent)
    (found : List Artifact × List Artifact) (location : Location × Nat) :
    Except PlanError (List Artifact × List Artifact) :=
  if hasDownloadLocation location.1 then
    let context := locationContext selected.board "Firmware" selected.index location.2
    if recoveryPayloadLocation tools.url location.1 then do
      let artifact ← Artifact.fromLocation tools revision context location.1
      return (found.1, found.2 ++ [artifact])
    else if payloadLocation tools.url manifest selected.component location.1 &&
        filenameAllowed tools.url nodeType selected.mapping location.1 then do
      let artifact ← Artifact.fromLocation tools revision context location.1
      return (found.1 ++ [artifact], found.2)
    else .ok found
  else .ok found

def atMostOne (channel what : String) (artifacts : List Artifact) :
    Except PlanError (Option Artifact) :=
  match artifacts with
  | [artifact] => .ok (some artifact)
  | [] => .ok none
  | artifacts =>
    .error (.invalid
      (s!"ambiguous {what} for {nodeType.asStr} ({channel}) recovery: " ++
        s!"{artifacts.length} candidates"))

def recoveryOf (channel : String) (selected : SelectedComponent) :
    Except PlanError (Option RecoveryArtifacts) := do
  let revision ← manifestRevision tools manifest
  let found ← selected.component.locations.zipIdx.foldlM
    (recoveryCandidates tools manifest nodeType revision selected) ([], [])
  match ← atMostOne nodeType channel "HMC recovery package" found.2 with
  | none => return none
  | some recovery =>
    match ← atMostOne nodeType channel "regular HMC bundle" found.1 with
    | none => .error (.invalid s!"no eligible regular HMC bundle for {nodeType.asStr} ({channel}) recovery")
    | some regular => return some ⟨{ regular with required := true }, { recovery with required := true }⟩

def recoveryArtifacts : Except PlanError (Option RecoveryArtifacts) := do
  let milestone ← singleMilestone manifest
  match ← recoveryChannel manifest nodeType milestone.boardSkus with
  | none => return none
  | some channel =>
    match selectComponentsWithProfile tools.url manifest nodeType channel (.components ["HMC"]) none with
    | .error (.noComponents _) => return none
    | .error error => .error error
    | .ok selected =>
      match selected.filter (fun component => component.mapping.targetKey = "HMC") with
      | [] => return none
      | [component] => recoveryOf tools manifest nodeType channel component
      | _ => .error (.invalid s!"ambiguous HMC components for {nodeType.asStr} ({channel}) recovery")

end Catalog

end Manifest

end RackManagement
