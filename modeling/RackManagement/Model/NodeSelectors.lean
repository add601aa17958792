import Mathlib.Data.String.Basic
import RackManagement.Model.FabricLayout

/-!
# Node selectors

A request selects settings for node types by numbers of the wire format or by descriptors.
-/

namespace RackManagement

open Library

inductive ProductFamily
  | gb200 | gb300 | vrnvl72
deriving DecidableEq

namespace NodeType

def productFamily : NodeType → ProductFamily
  | computeGb200Nvidia | computeGb200Wiwynn | computeGb200Dell | powershelfGb200Liteon | switchGb200Nvidia
  | powershelfGb200Delta => .gb200
  | computeGb300Nvidia | switchGb300Nvidia | powershelfGb300Liteon | powershelfGb300Delta |
    computeGb300Lenovo
  | computeGb300Supermicro => .gb300
  | computeVrnvl72Nvidia | switchVrnvl72Nvidia | powershelfVrnvl72Liteon | powershelfVrnvl72Delta =>
    .vrnvl72

def supportsFlintInbandFirmware : NodeType → Bool
  | computeGb200Nvidia | computeGb200Wiwynn => true
  | _ => false

def asStr : NodeType → String
  | computeGb200Nvidia => "compute_gb200_nvidia"
  | computeGb200Wiwynn => "compute_gb200_wiwynn"
  | computeGb200Dell => "compute_gb200_dell"
  | powershelfGb200Liteon => "powershelf_gb200_liteon"
  | switchGb200Nvidia => "switch_gb200_nvidia"
  | powershelfGb200Delta => "powershelf_gb200_delta"
  | computeGb300Nvidia => "compute_gb300_nvidia"
  | switchGb300Nvidia => "switch_gb300_nvidia"
  | powershelfGb300Liteon => "powershelf_gb300_liteon"
  | powershelfGb300Delta => "powershelf_gb300_delta"
  | computeGb300Lenovo => "compute_gb300_lenovo"
  | computeGb300Supermicro => "compute_gb300_supermicro"
  | computeVrnvl72Nvidia => "compute_vrnvl72_nvidia"
  | switchVrnvl72Nvidia => "switch_vrnvl72_nvidia"
  | powershelfVrnvl72Liteon => "powershelf_vrnvl72_liteon"
  | powershelfVrnvl72Delta => "powershelf_vrnvl72_delta"

end NodeType

namespace Selectors

inductive ProtoNodeType
  | unspecified | computeGb200Nvidia | powershelfGb200Liteon | switchGb200Nvidia | powershelfGb200Delta
  | computeGb300Nvidia | switchGb300Nvidia | powershelfGb300Liteon | powershelfGb300Delta |
    computeGb300Lenovo
  | computeVrnvl72Nvidia | switchVrnvl72Nvidia
deriving DecidableEq

namespace ProtoNodeType

def number : ProtoNodeType → Int
  | unspecified => 0
  | computeGb200Nvidia => 1
  | powershelfGb200Liteon => 2
  | switchGb200Nvidia => 3
  | powershelfGb200Delta => 4
  | computeGb300Nvidia => 5
  | switchGb300Nvidia => 6
  | powershelfGb300Liteon => 7
  | powershelfGb300Delta => 8
  | computeGb300Lenovo => 9
  | computeVrnvl72Nvidia => 10
  | switchVrnvl72Nvidia => 11

def tryFrom (value : Int) : Option ProtoNodeType :=
  [unspecified, computeGb200Nvidia, powershelfGb200Liteon, switchGb200Nvidia, powershelfGb200Delta,
    computeGb300Nvidia,
    switchGb300Nvidia, powershelfGb300Liteon, powershelfGb300Delta, computeGb300Lenovo,
      computeVrnvl72Nvidia,
    switchVrnvl72Nvidia].find? (fun protoType => protoType.number = value)

def toDomain : ProtoNodeType → Option NodeType
  | computeGb200Nvidia => some .computeGb200Nvidia
  | powershelfGb200Liteon => some .powershelfGb200Liteon
  | switchGb200Nvidia => some .switchGb200Nvidia
  | powershelfGb200Delta => some .powershelfGb200Delta
  | computeGb300Nvidia => some .computeGb300Nvidia
  | switchGb300Nvidia => some .switchGb300Nvidia
  | powershelfGb300Liteon => some .powershelfGb300Liteon
  | powershelfGb300Delta => some .powershelfGb300Delta
  | computeGb300Lenovo => some .computeGb300Lenovo
  | computeVrnvl72Nvidia => some .computeVrnvl72Nvidia
  | switchVrnvl72Nvidia => some .switchVrnvl72Nvidia
  | unspecified => none

end ProtoNodeType

def protoNodeTypeToDomain (value : Int) :
    Option NodeType := (ProtoNodeType.tryFrom value).bind ProtoNodeType.toDomain

/-- Some node types have only a descriptor on the wire. -/
def domainNodeTypeToProto : NodeType → ProtoNodeType
  | .computeGb200Nvidia => .computeGb200Nvidia
  | .computeGb200Wiwynn | .computeGb200Dell => .unspecified
  | .powershelfGb200Liteon => .powershelfGb200Liteon
  | .switchGb200Nvidia => .switchGb200Nvidia
  | .powershelfGb200Delta => .powershelfGb200Delta
  | .computeGb300Nvidia => .computeGb300Nvidia
  | .switchGb300Nvidia => .switchGb300Nvidia
  | .powershelfGb300Liteon => .powershelfGb300Liteon
  | .powershelfGb300Delta => .powershelfGb300Delta
  | .computeGb300Lenovo => .computeGb300Lenovo
  | .computeGb300Supermicro => .unspecified
  | .computeVrnvl72Nvidia => .computeVrnvl72Nvidia
  | .switchVrnvl72Nvidia => .switchVrnvl72Nvidia
  | .powershelfVrnvl72Liteon => .unspecified
  | .powershelfVrnvl72Delta => .unspecified

structure NodeDescriptor where
  attributes : FiniteMap String String

inductive NodeTypeResolutionError
  | unknownNodeType (value : Int)
  | missingDescriptor
  | missingAttribute (key : String)
  | unsupportedAttribute (key : String)
  | unsupportedDescriptor (role vendor productFamily : String)
  | duplicateDescriptor (nodeType : String)
deriving DecidableEq

structure DescriptorRule where
  role : String
  vendor : String
  productFamily : ProductFamily
  nodeType : NodeType

def descriptorRules : List DescriptorRule :=
  [⟨"compute", "nvidia", .gb200, .computeGb200Nvidia⟩,
    ⟨"compute", "wiwynn", .gb200, .computeGb200Wiwynn⟩,
    ⟨"compute", "dell", .gb200, .computeGb200Dell⟩,
    ⟨"compute", "nvidia", .gb300, .computeGb300Nvidia⟩,
    ⟨"compute", "lenovo", .gb300, .computeGb300Lenovo⟩,
    ⟨"compute", "supermicro", .gb300, .computeGb300Supermicro⟩,
    ⟨"compute", "nvidia", .vrnvl72, .computeVrnvl72Nvidia⟩,
    ⟨"switch", "nvidia", .gb200, .switchGb200Nvidia⟩,
    ⟨"switch", "nvidia", .gb300, .switchGb300Nvidia⟩,
    ⟨"switch", "nvidia", .vrnvl72, .switchVrnvl72Nvidia⟩,
    ⟨"power_shelf", "liteon", .gb200, .powershelfGb200Liteon⟩,
    ⟨"power_shelf", "delta", .gb200, .powershelfGb200Delta⟩,
    ⟨"power_shelf", "liteon", .gb300, .powershelfGb300Liteon⟩,
    ⟨"power_shelf", "delta", .gb300, .powershelfGb300Delta⟩,
    ⟨"power_shelf", "liteon", .vrnvl72, .powershelfVrnvl72Liteon⟩,
    ⟨"power_shelf", "delta", .vrnvl72, .powershelfVrnvl72Delta⟩]

def normalizeDescriptorValue (value : String) : String :=
  String.ofList ((toAsciiLowercase (trim value)).toList.filter (fun c => c ≠ ' ' && c ≠ '-' && c ≠ '_'))

def isSupportedDescriptorAttribute (key : String) : Bool :=
  key = "role" || key = "vendor" || key = "product_family" || key = "inventory_profile"

def validateDescriptorAttributes (descriptor : NodeDescriptor) : Except NodeTypeResolutionError Unit :=
  match (descriptor.attributes.keys.filter (fun key => !isSupportedDescriptorAttribute key)).min? with
  | some key => .error (.unsupportedAttribute key)
  | none => .ok ()

def requiredDescriptorValue (descriptor : NodeDescriptor) (key : String) :
    Except NodeTypeResolutionError String :=
  match ((descriptor.attributes.lookup key).map trim).filter (fun value => !value.isEmpty) with
  | some value => .ok value
  | none => .error (.missingAttribute key)

def parseProductFamily (value : String) : Option ProductFamily :=
  match normalizeDescriptorValue value with
  | "gb200" => some .gb200
  | "gb300" => some .gb300
  | "vrnvl72" => some .vrnvl72
  | _ => none

def productFamilyName : ProductFamily → String
  | .gb200 => "gb200"
  | .gb300 => "gb300"
  | .vrnvl72 => "vrnvl72"

def descriptorVendor : NodeType → String
  | .computeGb200Nvidia | .computeGb300Nvidia | .switchGb200Nvidia | .switchGb300Nvidia |
    .computeVrnvl72Nvidia
  | .switchVrnvl72Nvidia => "nvidia"
  | .powershelfGb200Liteon | .powershelfGb300Liteon | .powershelfVrnvl72Liteon => "liteon"
  | .powershelfGb200Delta | .powershelfGb300Delta | .powershelfVrnvl72Delta => "delta"
  | .computeGb300Lenovo => "lenovo"
  | .computeGb300Supermicro => "supermicro"
  | .computeGb200Wiwynn => "wiwynn"
  | .computeGb200Dell => "dell"

def roleName : NodeKind → String
  | .compute => "compute"
  | .powershelf => "power_shelf"
  | .switch => "switch"

def resolveNodeDescriptor (descriptor : Option NodeDescriptor) : Except NodeTypeResolutionError NodeType :=
  match descriptor with
  | none => .error .missingDescriptor
  | some descriptor => do
    validateDescriptorAttributes descriptor
    let normalizedRole := normalizeDescriptorValue (← requiredDescriptorValue descriptor "role")
    let normalizedVendor := normalizeDescriptorValue (← requiredDescriptorValue descriptor "vendor")
    let familyValue ← requiredDescriptorValue descriptor "product_family"
    match parseProductFamily familyValue with
    | none => .error (.unsupportedDescriptor normalizedRole normalizedVendor
      (normalizeDescriptorValue familyValue))
    | some productFamily =>
      match descriptorRules.find? (fun rule => normalizedRole = normalizeDescriptorValue rule.role &&
          productFamily = rule.productFamily &&
            normalizedVendor = normalizeDescriptorValue rule.vendor) with
      | some rule => .ok rule.nodeType
      | none => .error (.unsupportedDescriptor normalizedRole normalizedVendor
        (productFamilyName productFamily))

def resolveNodeType (nodeType : Option Int) (descriptor : Option NodeDescriptor) :
    Except NodeTypeResolutionError NodeType :=
  match nodeType with
  | none => resolveNodeDescriptor descriptor
  | some value =>
    match ProtoNodeType.tryFrom value with
    | none => .error (.unknownNodeType value)
    | some .unspecified => resolveNodeDescriptor descriptor
    | some protoType =>
      match protoType.toDomain with
      | some domainType => .ok domainType
      | none => .error (.unknownNodeType value)

variable (nodeType : NodeType)

def domainNodeTypeToDescriptor : NodeDescriptor :=
  ⟨((AList.singleton "role" (roleName nodeType.kind)).insert "vendor"
    (descriptorVendor nodeType)).insert "product_family"
    (productFamilyName nodeType.productFamily)⟩

structure DescriptorEntry (α : Type) where
  nodeDescriptor : Option NodeDescriptor
  setting : Option α

def nodeTypeOfKey (key : Int) : Except NodeTypeResolutionError NodeType :=
  match protoNodeTypeToDomain key with
  | some nodeType => .ok nodeType
  | none => .error (.unknownNodeType key)

section Settings

variable {α : Type}

/-- The loop of a normalization: the node types seen, the entries kept and the settings by number. -/
structure Normalizing (α : Type) where
  seen : List NodeType
  retained : List (DescriptorEntry α)
  settings : FiniteMap Int α

/-- An entry takes the default if its setting is absent, and gives way to an enum-keyed setting. -/
def normalizeEntry [Inhabited α] (state : Normalizing α) (entry : DescriptorEntry α) :
    Except NodeTypeResolutionError (Normalizing α) := do
  let nodeType ← resolveNodeType none entry.nodeDescriptor
  failIf (nodeType ∈ state.seen) (.duplicateDescriptor nodeType.asStr)
  let protoType := domainNodeTypeToProto nodeType
  let setting := entry.setting.getD default
  return {
    seen := nodeType :: state.seen
    retained :=
      if protoType = .unspecified then
        state.retained ++ [⟨some (domainNodeTypeToDescriptor nodeType), some setting⟩]
      else state.retained
    settings :=
      if protoType = .unspecified ∨ protoType.number ∈ state.settings then state.settings
      else state.settings.insert protoType.number setting }

def normalizeSelectors [Inhabited α] (settings : FiniteMap Int α) (entries : List (DescriptorEntry α)) :
    Except NodeTypeResolutionError (FiniteMap Int α × List (DescriptorEntry α)) := do
  let _ ← settings.keys.mapM nodeTypeOfKey
  let state ← entries.foldlM normalizeEntry ⟨[], [], settings⟩
  return (state.settings, state.retained)

def resolveKey (resolved : FiniteMap NodeType α) (entry : Sigma (fun _ : Int => α)) :
    Except NodeTypeResolutionError (FiniteMap NodeType α) := do
  let nodeType ← nodeTypeOfKey entry.1
  return resolved.insert nodeType entry.2

/-- An entry without a setting is only checked. -/
def resolveEntry (state : List NodeType × FiniteMap NodeType α) (entry : DescriptorEntry α) :
    Except NodeTypeResolutionError (List NodeType × FiniteMap NodeType α) := do
  let nodeType ← resolveNodeType none entry.nodeDescriptor
  failIf (nodeType ∈ state.1) (.duplicateDescriptor nodeType.asStr)
  return (nodeType :: state.1,
    match entry.setting with
    | some setting => if nodeType ∈ state.2 then state.2 else state.2.insert nodeType setting
    | none => state.2)

def resolveSelectors (settings : FiniteMap Int α) (entries : List (DescriptorEntry α)) :
    Except NodeTypeResolutionError (FiniteMap NodeType α) := do
  let resolved ← settings.entries.foldlM resolveKey ∅
  let state ← entries.foldlM resolveEntry ([], resolved)
  return state.2

end Settings

structure FirmwareTarget where
  target : String
  filename : String
deriving DecidableEq

structure FirmwareTargetList where
  targets : List FirmwareTarget
deriving DecidableEq

structure FirmwareObjectComponentFilter where
  components : List String
deriving DecidableEq

instance : Inhabited FirmwareTargetList := ⟨⟨[]⟩⟩

instance : Inhabited FirmwareObjectComponentFilter := ⟨⟨[]⟩⟩

def normalizeFirmwareTargetSelectors (firmwareTargets : FiniteMap Int FirmwareTargetList)
    (descriptorFirmwareTargets : List (DescriptorEntry FirmwareTargetList)) :=
  normalizeSelectors firmwareTargets descriptorFirmwareTargets

def normalizeComponentFilterSelectors (componentFilters : FiniteMap Int FirmwareObjectComponentFilter)
    (descriptorComponentFilters : List (DescriptorEntry FirmwareObjectComponentFilter)) :=
  normalizeSelectors componentFilters descriptorComponentFilters

def resolveFirmwareTargetSelectors (firmwareTargets : FiniteMap Int FirmwareTargetList)
    (descriptorFirmwareTargets : List (DescriptorEntry FirmwareTargetList)) :=
  resolveSelectors firmwareTargets descriptorFirmwareTargets

def resolveComponentFilterSelectors (componentFilters : FiniteMap Int FirmwareObjectComponentFilter)
    (descriptorComponentFilters : List (DescriptorEntry FirmwareObjectComponentFilter)) :=
  resolveSelectors componentFilters descriptorComponentFilters

inductive ComponentSelection
  | defaultOnly
  | all
  | components (names : List String)
deriving DecidableEq

def validateFirmwareObjectComponentSelection (components : List String) : Except String Unit :=
  failIf (nodeType.supportsFlintInbandFirmware = true ∧
      components.any (fun component =>
        toAsciiLowercase (trim component) = toAsciiLowercase "BF3_BFB") = true)
    ("BF3_BFB and Arm OS installation are not supported; select BF3_NIC with a " ++
      "Flint-compatible firmware image")

def componentFilterSelection (filter : FirmwareObjectComponentFilter) :
    Except String ComponentSelection := do
  validateFirmwareObjectComponentSelection nodeType filter.components
  return if filter.components.isEmpty then .all else .components filter.components

/-- Without any filter the names given for all nodes count, and no names mean the defaults. -/
def selectionForNodeType (componentFilters : FiniteMap NodeType FirmwareObjectComponentFilter)
    (globalComponents : List String) (nodeType : NodeType) : Except String (Option ComponentSelection) :=
  if componentFilters.isEmpty then do
    validateFirmwareObjectComponentSelection nodeType globalComponents
    return some (if globalComponents.isEmpty then .defaultOnly else .components globalComponents)
  else
    match componentFilters.lookup nodeType with
    | none => .ok none
    | some filter => some <$> componentFilterSelection nodeType filter

end Selectors

end RackManagement
