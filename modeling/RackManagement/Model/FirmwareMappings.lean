import RackManagement.Model.FirmwareManifest

/-!
# Firmware targets of a node type

The compiled tables of `firmware_object_handlers.rs` and the profiles of `hardware_profiles.rs` that
replace them.
-/

namespace RackManagement

open Library

namespace Manifest

structure FirmwareTargetMapping where
  sourceComponent : String
  targetKey : String
  redfishTarget : String
  defaultApply : Bool
deriving DecidableEq

inductive DeviceType
  | computeGb200Nvidia | computeGb300Nvidia | computeVrnvl72Nvidia | switchGb200Nvidia | switchGb300Nvidia
  | switchVrnvl72Nvidia | powerShelf
deriving DecidableEq

def deviceTypeForNodeType : NodeType → DeviceType
  | .computeGb200Nvidia | .computeGb200Wiwynn | .computeGb200Dell => .computeGb200Nvidia
  | .computeGb300Nvidia | .computeGb300Lenovo | .computeGb300Supermicro => .computeGb300Nvidia
  | .computeVrnvl72Nvidia => .computeVrnvl72Nvidia
  | .switchGb200Nvidia => .switchGb200Nvidia
  | .switchGb300Nvidia => .switchGb300Nvidia
  | .switchVrnvl72Nvidia => .switchVrnvl72Nvidia
  | .powershelfGb200Liteon | .powershelfGb200Delta | .powershelfGb300Liteon | .powershelfGb300Delta
  | .powershelfVrnvl72Liteon | .powershelfVrnvl72Delta => .powerShelf

def hgxFirmwareMapping (targetKey redfishTarget : String) : FirmwareTargetMapping :=
  ⟨"HMC", targetKey, redfishTarget, false⟩

def flintFirmwareMapping (component : String) : FirmwareTargetMapping :=
  ⟨component, component, component, false⟩

def switchFirmwareMapping (sourceComponent targetKey redfishTarget : String) : FirmwareTargetMapping :=
  ⟨sourceComponent, targetKey, redfishTarget, true⟩

def powershelfFirmwareMapping (sourceComponent targetKey : String) : FirmwareTargetMapping :=
  ⟨sourceComponent, targetKey, "", true⟩

def hgxChassis : String := "/redfish/v1/Chassis/HGX_Chassis_0"

def inventory (name : String) : String := "/redfish/v1/UpdateService/FirmwareInventory/" ++ name

def supermicroHgxTarget : String := "/redfish/v1/Chassis/HGX_Chassis_0"

def supermicroBiosTarget : String := "supermicro_bios"

/-- The targets of a GB compute tray with their names in the firmware inventory. -/
def hgxTargets : List (String × String) :=
  [("CPU_0", "HGX_FW_CPU_0"), ("CPU_1", "HGX_FW_CPU_1"), ("GPU_0", "HGX_FW_GPU_0"),
    ("GPU_1", "HGX_FW_GPU_1"),
    ("GPU_2", "HGX_FW_GPU_2"), ("GPU_3", "HGX_FW_GPU_3"), ("HGX_BMC_0", "HGX_FW_BMC_0"),
      ("FPGA_0", "HGX_FW_FPGA_0"),
    ("FPGA_1", "HGX_FW_FPGA_1"), ("CPLD_0", "HGX_FW_CPLD_0"), ("EROT_BMC_0", "HGX_FW_ERoT_BMC_0"),
    ("EROT_CPU_0", "HGX_FW_ERoT_CPU_0"), ("EROT_CPU_1", "HGX_FW_ERoT_CPU_1"),
      ("EROT_FPGA_0", "HGX_FW_ERoT_FPGA_0"),
    ("EROT_FPGA_1", "HGX_FW_ERoT_FPGA_1"), ("INFOROM_GPU_0", "HGX_InfoROM_GPU_0"),
      ("INFOROM_GPU_1", "HGX_InfoROM_GPU_1"),
    ("INFOROM_GPU_2", "HGX_InfoROM_GPU_2"), ("INFOROM_GPU_3", "HGX_InfoROM_GPU_3"),
    ("PCIE_SWITCH_CONFIG_0", "HGX_PCIeSwitchConfig_0")]

def gbComputeMappings : List FirmwareTargetMapping :=
  [⟨"HMC", "HMC", hgxChassis, true⟩, ⟨"BMC", "BMC", "", true⟩] ++
    hgxTargets.map (fun target => hgxFirmwareMapping target.1 (inventory target.2))

def gbSwitchMappings : List FirmwareTargetMapping :=
  [switchFirmwareMapping "BMC+FPGA+EROT" "BMC" "bmc", switchFirmwareMapping "BMC+FPGA+EROT" "FPGA" "fpga",
    switchFirmwareMapping "BMC+FPGA+EROT" "EROT" "erot", switchFirmwareMapping "CPLD" "CPLD" "cpld",
    switchFirmwareMapping "SBIOS+EROT" "BIOS" "bios", switchFirmwareMapping "SBIOS+EROT" "EROT" "erot"]

def getFirmwareComponentMappingsForDeviceType : DeviceType → List FirmwareTargetMapping
  | .computeVrnvl72Nvidia =>
    [flintFirmwareMapping "LINKX", ⟨"HMC", "HMC", hgxChassis, true⟩, ⟨"BMC", "BMC", "", true⟩]
  | .computeGb200Nvidia =>
    gbComputeMappings ++
      [flintFirmwareMapping "CX7", flintFirmwareMapping "CX8", flintFirmwareMapping "BF3_NIC"]
  | .computeGb300Nvidia => gbComputeMappings
  | .switchGb200Nvidia | .switchGb300Nvidia => gbSwitchMappings
  | .switchVrnvl72Nvidia =>
    [("BMC", "bmc"), ("BIOS", "bios"), ("SMA", "sma"), ("EROT", "erot"), ("CPLD", "cpld1")].map
      (fun target =>
      switchFirmwareMapping "BMC+CPLD+SMA+ERoT+SBIOS" target.1 target.2)
  | .powerShelf =>
    [powershelfFirmwareMapping "Delta-PMC" "DeltaPMC", powershelfFirmwareMapping "Delta-PSU" "DeltaPSU",
      powershelfFirmwareMapping "LiteOn PSU" "LiteOnPSU",
        powershelfFirmwareMapping "LiteOn PMC" "LiteOnPMC"]

variable (nodeType : NodeType)

def getFirmwareComponentMappingsForNodeType : List FirmwareTargetMapping :=
  if nodeType = .computeGb200Dell then []
  else if nodeType = .computeGb300Supermicro then
    [⟨"HMC", "HMC", supermicroHgxTarget, true⟩, ⟨"HMC", "BIOS", supermicroBiosTarget, true⟩,
      ⟨"BIOS", "BIOS", supermicroBiosTarget, true⟩, ⟨"BMC", "BMC", "", true⟩]
  else getFirmwareComponentMappingsForDeviceType (deviceTypeForNodeType nodeType)

def getFirmwareFlashOrder : NodeType → List String
  | .computeGb200Dell => []
  | .computeGb300Supermicro => [supermicroHgxTarget, supermicroBiosTarget, ""]
  | .switchVrnvl72Nvidia => ["bmc", "bios", "sma", "erot", "cpld1"]
  | .switchGb200Nvidia | .switchGb300Nvidia => ["bmc", "fpga", "erot", "cpld", "bios"]
  | .computeGb200Nvidia | .computeGb200Wiwynn | .computeGb300Nvidia | .computeGb300Lenovo |
    .computeVrnvl72Nvidia =>
    [hgxChassis] ++ hgxTargets.map (fun target => inventory target.2) ++ ["CX7", "CX8", "BF3_NIC", ""]
  | .powershelfGb200Liteon | .powershelfGb200Delta | .powershelfGb300Liteon | .powershelfGb300Delta
  | .powershelfVrnvl72Delta => ["DeltaPMC", "LiteOnPMC", "DeltaPSU", "LiteOnPSU"]
  | .powershelfVrnvl72Liteon => ["LiteOnPMC", "LiteOnPSU"]

def knownFirmwareTargetKeys : List String :=
  ["LINKX", "BF3_NIC", "CX7", "CX8", "PCIE_SWITCH_CONFIG_0", "INFOROM_GPU_0", "INFOROM_GPU_1",
    "INFOROM_GPU_2",
    "INFOROM_GPU_3", "EROT_FPGA_0", "EROT_FPGA_1", "EROT_BMC_0", "EROT_CPU_0", "EROT_CPU_1",
      "HGX_BMC_0", "DeltaPMC",
    "DeltaPSU", "LiteOnPMC", "LiteOnPSU", "FPGA_0", "FPGA_1", "CPLD_0", "CPU_0", "CPU_1", "GPU_0",
      "GPU_1", "GPU_2",
    "GPU_3", "BMC", "HMC", "SMA", "FPGA", "EROT", "CPLD", "BIOS"]

def targetKeyFromComponentKey (componentKey : String) : String :=
  let known := knownFirmwareTargetKeys.find? (fun targetKey =>
    (stripStart targetKey componentKey).any (fun rest => rest = "" || startsWith "_" rest))
  known.getD (((splitOnce '_' componentKey).map Prod.fst).getD componentKey)

def firmwareComponentAllowedForNodeType (targetKey : String) : Bool :=
  let targetKey := targetKeyFromComponentKey targetKey
  if targetKey ∈ ["CX7", "CX8", "BF3_NIC"] ∧ nodeType.supportsFlintInbandFirmware = false then false
  else
    match nodeType with
    | .computeGb300Lenovo => targetKey ∈ ["BMC", "HMC"]
    | .computeGb300Supermicro => targetKey ∈ ["BMC", "HMC", "BIOS"]
    | .powershelfGb200Liteon | .powershelfGb300Liteon | .powershelfVrnvl72Liteon =>
      targetKey ∈ ["LiteOnPMC", "LiteOnPSU"]
    | .powershelfGb200Delta | .powershelfGb300Delta | .powershelfVrnvl72Delta =>
      targetKey ∈ ["DeltaPMC", "DeltaPSU"]
    | _ => (getFirmwareComponentMappingsForNodeType nodeType).any (fun mapping =>
      mapping.targetKey = targetKey)

def isPlainRedfishPath (value : String) : Bool :=
  (value = "/redfish/v1" || startsWith "/redfish/v1/" value) && !containsText "//" value &&
    !(splitAll '/' value).any (fun segment => segment = "." || segment = "..") &&
    value.toList.all (fun c => c.isAlphanum || c ∈ ['/', '_', '-', '.'])

structure RedfishPath where
  asStr : String
  plain : isPlainRedfishPath asStr = true
deriving DecidableEq

structure FilenameMatcher where
  suffix : Option String
  contains : Option String
  caseInsensitive : Bool

def FilenameMatcher.matches (matcher : FilenameMatcher) (filename : String) : Bool :=
  let filename := if matcher.caseInsensitive then toAsciiLowercase filename else filename
  matcher.suffix.all (fun suffix => endsWith suffix filename) &&
    matcher.contains.all (fun needle => containsText needle filename)

inductive RequestTargetSelection
  | explicit (paths : List RedfishPath)
  | multipart (paths : List RedfishPath)
  | driverDefault

structure FirmwareTargetPlan where
  id : String
  componentKey : String
  sourceComponents : List String
  filename : FilenameMatcher
  requestTargetSelection : RequestTargetSelection
  updateParameters : Option (List (String × Json))
  oemParameters : Option (List (String × Json))
  defaultApply : Bool

structure FirmwareUpdateStage where
  targets : List FirmwareTargetPlan

structure HardwareUpdatePlan where
  stages : List FirmwareUpdateStage

def FirmwareTargetPlan.matchesComponent (target : FirmwareTargetPlan) (component : String) : Bool :=
  equalsIgnoringAsciiCase target.componentKey (trim component)

structure SelectedMapping where
  mapping : FirmwareTargetMapping
  configured : Option FirmwareTargetPlan
  order : Nat

def lastOrder : Nat := UInt64.size - 1

def flashPosition (selector : String) : Nat :=
  ((getFirmwareFlashOrder nodeType).findIdx? (fun target => target = selector)).getD lastOrder

inductive FlintDeviceFamily
  | connectX7 | connectX8 | blueField3
deriving DecidableEq

def FlintDeviceFamily.fromComponent (component : String) : Option FlintDeviceFamily :=
  let component := toAsciiUppercase (trim component)
  if component ∈ ["CX7", "CONNECTX7", "CONNECTX-7"] then some .connectX7
  else if component ∈ ["CX8", "CONNECTX8", "CONNECTX-8"] then some .connectX8
  else if component ∈ ["BF3", "BF3_NIC", "BLUEFIELD3", "BLUEFIELD-3"] then some .blueField3
  else none

/-- Where the target of a profile is sent: one upload, or one for each explicit path. -/
def FirmwareTargetPlan.selectors (target : FirmwareTargetPlan) : List String :=
  match target.requestTargetSelection with
  | .driverDefault => [""]
  | .multipart [] => [""]
  | .multipart [path] => [path.asStr]
  | .multipart _ => [target.componentKey]
  | .explicit paths => paths.map RedfishPath.asStr

def profileMappings (target : FirmwareTargetPlan) (order : Nat) : List SelectedMapping :=
  target.sourceComponents.flatMap (fun source => target.selectors.map (fun selector =>
    { mapping := ⟨source, target.componentKey, selector, target.defaultApply⟩
      configured := some target
      order := order + (getFirmwareFlashOrder nodeType).length }))

def mappings (profile : Option HardwareUpdatePlan) : List SelectedMapping :=
  match profile with
  | none => (getFirmwareComponentMappingsForNodeType nodeType).map (fun mapping =>
      let selector := if nodeType.kind = .powershelf then mapping.targetKey else mapping.redfishTarget
      ⟨mapping, none, flashPosition nodeType selector⟩)
  | some profile =>
    (profile.stages.flatMap FirmwareUpdateStage.targets).zipIdx.flatMap (fun target =>
        profileMappings nodeType target.1 target.2) ++
      ((getFirmwareComponentMappingsForNodeType nodeType).filter (fun mapping =>
        (FlintDeviceFamily.fromComponent mapping.redfishTarget).isSome || mapping.targetKey =
          "LINKX")).map (fun mapping =>
          ⟨mapping, none,
            if mapping.targetKey = "LINKX" then lastOrder
            else flashPosition nodeType mapping.redfishTarget⟩)

def selectedFirmwareMappingMatches (mapping : FirmwareTargetMapping) (selected : List String) : Bool :=
  let candidates := [toAsciiLowercase mapping.targetKey, toAsciiLowercase mapping.redfishTarget] ++
    if mapping.defaultApply then [toAsciiLowercase mapping.sourceComponent] else []
  selected.any (fun wanted =>
    candidates.any (fun candidate => firmwareSourceComponentMatches candidate (toAsciiLowercase wanted)))

end Manifest

namespace Selectors.ComponentSelection

open Manifest

def names : ComponentSelection → List String
  | defaultOnly | all => []
  | components names => names

def matchesTargetMapping (selection : ComponentSelection) (mapping : FirmwareTargetMapping) : Bool :=
  match selection with
  | defaultOnly => mapping.defaultApply
  | all => true
  | components names => selectedFirmwareMappingMatches mapping names

def matchesProfileTarget (selection : ComponentSelection) (target : FirmwareTargetPlan) : Bool :=
  match selection with
  | defaultOnly => target.defaultApply
  | all => true
  | components names => names.any target.matchesComponent

end Selectors.ComponentSelection

end RackManagement
