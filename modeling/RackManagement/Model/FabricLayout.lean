import Mathlib.Algebra.Ring.Int.Defs
import Mathlib.Data.Prod.Lex
import Mathlib.Data.String.Basic
import RackManagement.Library.Fallible
import RackManagement.Library.OrderedSet
import RackManagement.Library.Text

/-!
# Fabric layout profiles

The deployment rules of `config/fabric_layout.rs` with the checks that a profile passes before it is
used.
-/

namespace RackManagement

open Library

inductive FabricLinkState
  | up | down
deriving DecidableEq

structure FabricPosition where
  trayIndex : Nat
  slotNumber : Nat
deriving DecidableEq

lemma FabricPosition.coordinates_injective :
    Function.Injective (fun p : FabricPosition => toLex (p.trayIndex, p.slotNumber)) := by
  rintro ⟨trayIndex, slotNumber⟩ ⟨otherIndex, otherSlot⟩ h
  obtain ⟨rfl, rfl⟩ := Prod.mk.inj (toLex.injective h)
  rfl

instance : LinearOrder FabricPosition := LinearOrder.lift' _ FabricPosition.coordinates_injective

inductive NodeKind
  | compute | powershelf | switch
deriving DecidableEq

inductive NodeType
  | computeGb200Nvidia | computeGb200Wiwynn | computeGb200Dell | powershelfGb200Liteon | switchGb200Nvidia
  | powershelfGb200Delta | computeGb300Nvidia | switchGb300Nvidia | powershelfGb300Liteon |
    powershelfGb300Delta
  | computeGb300Lenovo | computeGb300Supermicro | computeVrnvl72Nvidia | switchVrnvl72Nvidia
  | powershelfVrnvl72Liteon | powershelfVrnvl72Delta
deriving DecidableEq

namespace NodeType

def fromStableName (value : String) : Option NodeType :=
  [("compute_gb200_nvidia", computeGb200Nvidia), ("compute_gb200_wiwynn", computeGb200Wiwynn),
    ("compute_gb200_dell", computeGb200Dell), ("powershelf_gb200_liteon", powershelfGb200Liteon),
    ("switch_gb200_nvidia", switchGb200Nvidia), ("powershelf_gb200_delta", powershelfGb200Delta),
    ("compute_gb300_nvidia", computeGb300Nvidia), ("switch_gb300_nvidia", switchGb300Nvidia),
    ("powershelf_gb300_liteon", powershelfGb300Liteon), ("powershelf_gb300_delta", powershelfGb300Delta),
    ("compute_gb300_lenovo", computeGb300Lenovo), ("compute_gb300_supermicro", computeGb300Supermicro),
    ("compute_vrnvl72_nvidia", computeVrnvl72Nvidia), ("switch_vrnvl72_nvidia", switchVrnvl72Nvidia),
    ("powershelf_vrnvl72_liteon", powershelfVrnvl72Liteon),
      ("powershelf_vrnvl72_delta", powershelfVrnvl72Delta)].lookup value

def kind : NodeType → NodeKind
  | computeGb200Nvidia | computeGb200Wiwynn | computeGb200Dell | computeGb300Nvidia | computeGb300Lenovo
  | computeGb300Supermicro | computeVrnvl72Nvidia => .compute
  | powershelfGb200Liteon | powershelfGb200Delta | powershelfGb300Liteon | powershelfGb300Delta
  | powershelfVrnvl72Liteon | powershelfVrnvl72Delta => .powershelf
  | switchGb200Nvidia | switchGb300Nvidia | switchVrnvl72Nvidia => .switch

end NodeType

def checkedI64 (value : Int) : Option Int := if -2 ^ 63 ≤ value ∧ value < 2 ^ 63 then some value else none

def checkedU32 (value : Int) : Option Nat := if 0 ≤ value ∧ value < 2 ^ 32 then some value.toNat else none

/-- The number that a text is the shortest decimal form of. -/
def canonicalU32 (text : String) : Option Nat :=
  let number := text.toList.foldl (fun number c => number * 10 + (c.toNat - 48)) 0
  if text ≠ "" ∧ toString number = text ∧ number < 2 ^ 32 then some number else none

inductive Coordinate
  | trayIndex | slotNumber
deriving DecidableEq

structure IndexTerm where
  node : NodeKind
  coordinate : Coordinate
  divisor : Nat
  modulus : Option Nat
  remap : Option (OrderedMap String Nat)
  multiplier : Int

namespace IndexTerm

def validate (term : IndexTerm) : Except String Unit := do
  failIf (term.node = .powershelf) "node: must be compute or switch"
  failIf (term.divisor = 0) "divisor: must be positive"
  failIf (term.modulus = some 0) "modulus: must be positive"
  failIf (term.remap.any (fun map =>
    map.keys.isEmpty || map.keys.any (fun key => (canonicalU32 key).isNone)) = true)
    "remap: must be nonempty with canonical decimal u32 keys"

/-- Division, remainder, remapping and scaling, in this order. -/
def evaluate (term : IndexTerm) (compute switch : FabricPosition) : Except String Int := do
  let position ←
    match term.node with
    | .compute => .ok compute
    | .switch => .ok switch
    | .powershelf => .error "node: must be compute or switch"
  let coordinate :=
    match term.coordinate with
    | .trayIndex => position.trayIndex
    | .slotNumber => position.slotNumber
  failIf (term.divisor = 0) "divisor: must be positive"
  let quotient := coordinate / term.divisor
  failIf (term.modulus = some 0) "modulus: must be positive"
  let transformed := (term.modulus.map (quotient % ·)).getD quotient
  let mapped ←
    match term.remap with
    | none => .ok transformed
    | some remap =>
      match remap.lookup (toString transformed) with
      | none => .error "remap: does not cover a supplied coordinate"
      | some mapped => .ok mapped
  match checkedI64 (mapped * term.multiplier) with
  | none => .error "multiplier: arithmetic overflow"
  | some value => .ok value

end IndexTerm

/-- Trays whose transformed coordinates are equal. -/
structure DiscoveredGroup where
  computes : OrderedSet FabricPosition
  switches : OrderedSet FabricPosition

structure FabricGrouping where
  compute : IndexTerm
  switch : IndexTerm

namespace FabricGrouping

def validate (grouping : FabricGrouping) : Except String Unit := do
  grouping.compute.validate
  grouping.switch.validate
  failIf (grouping.compute.node ≠ .compute ∨ grouping.switch.node ≠ .switch)
    "grouping transforms must use coordinates of their declared node role"

def groupNumbers (term : IndexTerm) (positions : OrderedSet FabricPosition) :
    Except String (List (Int × FabricPosition)) :=
  positions.toList.mapM (fun position => do return (← term.evaluate position position, position))

def members (numbers : List (Int × FabricPosition)) (group : Int) : OrderedSet FabricPosition :=
  .ofList ((numbers.filter (fun entry => entry.1 = group)).map Prod.snd)

def resolve (grouping : FabricGrouping) (computes switches : OrderedSet FabricPosition) :
    Except String (List DiscoveredGroup) := do
  grouping.validate
  let computeGroups ← groupNumbers grouping.compute computes
  let switchGroups ← groupNumbers grouping.switch switches
  return (sortDedup (switchGroups.map Prod.fst)).filterMap (fun group =>
    let computes := members computeGroups group
    if computes.isEmpty then none else some ⟨computes, members switchGroups group⟩)

end FabricGrouping

abbrev LinkStates := OrderedMap String FabricLinkState

structure LinkRule where
  namePrefix : String
  base : Int
  terms : List IndexTerm
  offsets : List Int
  width : Nat
  state : FabricLinkState

namespace LinkRule

variable (rule : LinkRule)

def firstNumber (compute switch : FabricPosition) : Except String Int :=
  rule.terms.zipIdx.foldlM (fun sum (term, index) => do
    let value ← (term.evaluate compute switch).mapError (fun error => s!"terms[{index}].{error}")
    match checkedI64 (sum + value) with
    | none => .error s!"terms[{index}]: arithmetic overflow while adding to base"
    | some sum => .ok sum) rule.base

def assignLane (index : Nat) (start : Int) (targets : LinkStates × List String) (lane : Nat) :
    Except String (LinkStates × List String) :=
  match checkedI64 (start + lane) with
  | none => .error s!"offsets[{index}]: arithmetic overflow within block"
  | some number =>
    match checkedU32 number with
    | none => .error s!"offsets[{index}]: interface number is out of range"
    | some 0 => .error s!"offsets[{index}]: interface number must be positive"
    | some number =>
      let id := s!"{rule.namePrefix}{number}"
      if id ∈ targets.2 then .error s!"offsets[{index}]: assigns an interface more than once"
      else if (targets.1.lookup id).isNone then
        .error s!"offsets[{index}]: targets an uncontrolled interface"
      else .ok (targets.1.insert id rule.state, id :: targets.2)

def assignBlock (first : Int) (targets : LinkStates × List String) (offset : Int × Nat) :
    Except String (LinkStates × List String) :=
  match checkedI64 (first + offset.1) with
  | none => .error s!"offsets[{offset.2}]: arithmetic overflow"
  | some start => (List.range rule.width).foldlM (rule.assignLane offset.2 start) targets

/-- One numbered block per offset for a pair of trays, with the interfaces assigned so far. -/
def apply (compute switch : FabricPosition) (targets : LinkStates × List String) :
    Except String (LinkStates × List String) := do
  let first ← rule.firstNumber compute switch
  rule.offsets.zipIdx.foldlM (rule.assignBlock first) targets

end LinkRule

structure FabricLinkCalculation where
  defaultState : FabricLinkState
  rules : List LinkRule

namespace FabricLinkCalculation

def validateRule (rule : LinkRule) (index : Nat) : Except String Unit := do
  failIf (rule.namePrefix = "" ∨ rule.namePrefix.toList.all Char.isLower = false)
    s!"rules[{index}].prefix: must contain lowercase ASCII letters"
  failIf (rule.offsets = []) s!"rules[{index}].offsets: must be nonempty"
  failIf (rule.width = 0) s!"rules[{index}].width: must be positive"
  rule.terms.zipIdx.forM (fun (term, termIndex) =>
    term.validate.mapError (fun error => s!"rules[{index}].terms[{termIndex}].{error}"))

variable (calculation : FabricLinkCalculation)

def validate : Except String Unit := do
  failIf (calculation.rules.isEmpty = true) "rules: must be nonempty"
  calculation.rules.zipIdx.forM (fun (rule, index) => validateRule rule index)

def applyRules (switch : FabricPosition) (targets : LinkStates × List String)
    (compute : FabricPosition) : Except String (LinkStates × List String) :=
  calculation.rules.zipIdx.foldlM (fun targets (rule, index) =>
    (rule.apply compute switch targets).mapError (fun error => s!"rules[{index}].{error}")) targets

def expandSwitch (computes : OrderedSet FabricPosition) (switch : FabricPosition)
    (interfaces : OrderedSet String) : Except String LinkStates := do
  let states : LinkStates := .ofList (interfaces.toList.map (fun id => (id, calculation.defaultState)))
  let targets ← computes.toList.foldlM (calculation.applyRules switch) (states, [])
  return targets.1

def expand (computes switches : OrderedSet FabricPosition)
    (interfaces : OrderedSet String) : Except String (List (FabricPosition × LinkStates)) := do
  calculation.validate
  failIf (computes.isEmpty || switches.isEmpty || interfaces.isEmpty)
    "link calculation inventory and interfaces must be nonempty"
  switches.toList.mapM (fun position =>
    do return (position, ← calculation.expandSwitch computes position interfaces))

end FabricLinkCalculation

inductive FabricStaticConfigAction
  | set (value : String)
  | remove

structure FabricStaticConfigTarget where
  configFileName : String
  key : String
  action : FabricStaticConfigAction

structure FabricControllerRule where
  topologyType : String
  staticConfigs : List FabricStaticConfigTarget

def nmxCFmConfigFile : String := "fm_config"

def nmxCTopologyKey : String := "MNNVL_TOPOLOGY"

def isNonHiddenBasename (name : String) : Bool :=
  name ≠ "" && name.toList.all (fun c => c.isAlphanum || c = '_' || c = '.' || c = '-') &&
    !startsWith "." name

def validateStaticConfigName (file key : String) : Except String Unit := do
  failIf (isNonHiddenBasename file =
    false) "config_file_name: managed static configuration requires a file basename"
  failIf (key = "" ∨ key.toList.all (fun c => c.isAlphanum || c = '_') = false ∨
    key.toList.head?.any Char.isDigit = true)
    "key: managed static configuration requires an identifier key"

def equalsIgnoringAsciiCase (a b : String) : Bool := toAsciiLowercase a = toAsciiLowercase b

def validateStaticConfigKey (file key : String) : Except String Unit := do
  validateStaticConfigName file key
  failIf (equalsIgnoringAsciiCase file nmxCFmConfigFile = true ∧
    equalsIgnoringAsciiCase key nmxCTopologyKey = true)
    "key: managed static configuration topology must use the dedicated topology field"

def isControl (c : Char) : Bool := c.toNat < 32 || (127 ≤ c.toNat && c.toNat < 160)

def validateStaticConfigValue (value : String) : Except String Unit :=
  failIf (value = "" ∨ trim value ≠ value ∨ value.toList.any isControl = true ∨
      value.toList.any (fun c => c ∈ ['\\', '\'', '"', '#', ';']) = true)
    ("managed static configuration values must be nonempty unquoted literal lines without surrounding whitespace, " ++
      "escaping, comments, or control characters")

structure FabricRule where
  computeTrayCount : Nat
  switchTrayCount : Nat
  grouping : Option FabricGrouping
  controllerRules : List FabricControllerRule

/-- What a hardware profile says about the layout of its fabrics. -/
structure FabricLayoutProfile where
  switchNodeTypes : OrderedSet String
  computeNodeTypes : OrderedSet String
  physicalTopology : String
  computeTrayCount : Nat
  switchTrayCount : Nat
  fullLinkStates : LinkStates
  fabricRules : List FabricRule
  linkCalculation : FabricLinkCalculation

def maxPositions : Nat := 256
def maxOptions : Nat := 256
def maxInterfaces : Nat := 1024
def maxStaticConfigKeys : Nat := 1024

namespace FabricLayoutProfile

/-- A controller rule with the places of its fabric rule and of itself. -/
structure LocatedRule where
  fabricIndex : Nat
  ruleIndex : Nat
  fabric : FabricRule
  rule : FabricControllerRule

variable (profile : FabricLayoutProfile)

def controllerRules : List LocatedRule :=
  profile.fabricRules.zipIdx.flatMap (fun (fabric, fabricIndex) =>
    fabric.controllerRules.zipIdx.map (fun (rule, ruleIndex) => ⟨fabricIndex, ruleIndex, fabric, rule⟩))

def targetKey (target : FabricStaticConfigTarget) : String ×ₗ String :=
  toLex (target.configFileName, target.key)

def managedKeys : OrderedSet (String ×ₗ String) :=
  .ofList (profile.controllerRules.flatMap (fun located => located.rule.staticConfigs.map targetKey))

def checkTarget (location : String) (keys : List (String ×ₗ String))
    (target : FabricStaticConfigTarget × Nat) :
    Except String (List (String ×ₗ String)) := do
  let targetLocation := s!"{location}.static_configs[{target.2}]"
  (validateStaticConfigKey target.1.configFileName target.1.key).mapError (fun error =>
    s!"{targetLocation}.{error}")
  match target.1.action with
  | .set value =>
    (validateStaticConfigValue value).mapError (fun error => s!"{targetLocation}.action.value: {error}")
  | .remove => .ok ()
  failIf (targetKey target.1 ∈ keys)
    s!"{targetLocation}.key: controller targets must be unique within each file"
  return targetKey target.1 :: keys

/-- The topologies seen with sizes, and those whose full size can be restored. -/
structure SeenRules where
  selectors : List (String × Nat × Nat) := []
  restorationTopologies : List String := []

def checkControllerRule (seen : SeenRules) (located : LocatedRule) :
    Except String SeenRules := do
  let location := s!"fabric_rules[{located.fabricIndex}].controller_rules[{located.ruleIndex}]"
  let topology := located.rule.topologyType
  (validateStaticConfigValue topology).mapError (fun error => s!"{location}.topology_type: {error}")
  let size := (located.fabric.computeTrayCount, located.fabric.switchTrayCount)
  failIf ((topology, size) ∈ seen.selectors)
    s!"{location}.topology_type: controller rule topology and size selectors must be unique"
  let keys ← located.rule.staticConfigs.zipIdx.foldlM (checkTarget location) []
  failIf (OrderedSet.ofList keys ≠ profile.managedKeys)
    (s!"{location}.static_configs: controller targets must cover exactly the managed static configuration keys")
  return ⟨(topology, size) :: seen.selectors,
    if size = (profile.computeTrayCount,
      profile.switchTrayCount) then topology :: seen.restorationTopologies
    else seen.restorationTopologies⟩

def validateControllerRules : Except String Unit :=
  if profile.controllerRules.isEmpty then .ok ()
  else
    match profile.fabricRules.findIdx? (fun fabric => fabric.controllerRules.isEmpty) with
    | some index =>
      .error (s!"fabric_rules[{index}].controller_rules: at least one rule is required when the profile declares " ++
        "controller settings")
    | none => do
      failIf (maxOptions < profile.controllerRules.length)
        "fabric_rules: total controller rule count exceeds 256"
      failIf (maxStaticConfigKeys < profile.managedKeys.size)
        "fabric_rules: managed static configuration key count exceeds 1024"
      let seen ← profile.controllerRules.foldlM profile.checkControllerRule {}
      failIf (OrderedSet.ofList (seen.selectors.map Prod.fst) ≠
        OrderedSet.ofList seen.restorationTopologies)
        "fabric_rules: every controller topology requires a full-capacity restoration rule"

def isControlledInterface (id : String) : Bool :=
  (((stripStart "acp" id).or (stripStart "fnm" id)).bind canonicalU32).any (fun number => 0 < number)

def namesNodeTypes (types : OrderedSet String) (kind : NodeKind) : Bool :=
  !types.isEmpty &&
    types.toList.all (fun name => (NodeType.fromStableName name).any (fun nodeType => nodeType.kind = kind))

def checkFabricRule (sizes : List (Nat × Nat)) (rule : FabricRule) :
    Except String (List (Nat × Nat)) := do
  let size := (rule.computeTrayCount, rule.switchTrayCount)
  failIf (rule.computeTrayCount = 0 ∨ rule.switchTrayCount = 0 ∨
    profile.computeTrayCount < rule.computeTrayCount ∨
      profile.switchTrayCount < rule.switchTrayCount ∨ size ∈ sizes)
    "fabric sizes must be unique, positive, and fit within the physical inventory"
  match rule.grouping, decide (size = (profile.computeTrayCount, profile.switchTrayCount)) with
  | some grouping, false => grouping.validate
  | none, true => .ok ()
  | _, _ => .error "grouping is required only for smaller fabric sizes"
  return size :: sizes

def validate : Except String Unit := do
  failIf (trim profile.physicalTopology = "" ∨ profile.computeTrayCount = 0 ∨ profile.switchTrayCount = 0 ∨
      maxPositions < profile.computeTrayCount + profile.switchTrayCount ∨
        profile.fabricRules.isEmpty = true ∨
      maxOptions < profile.fabricRules.length ∨ profile.fullLinkStates.size = 0 ∨
      maxInterfaces < profile.fullLinkStates.size)
    "profile identity, inventory, fabric rules, and interfaces must be bounded and nonempty"
  failIf (namesNodeTypes profile.switchNodeTypes .switch = false ∨
    namesNodeTypes profile.computeNodeTypes .compute = false)
    "profile node selectors must name canonical node types of the declared role"
  failIf (profile.fullLinkStates.keys.all isControlledInterface = false)
    "controlled interfaces must be expanded supported interface names"
  profile.linkCalculation.validate
  let sizes ← profile.fabricRules.foldlM profile.checkFabricRule []
  failIf ((profile.computeTrayCount, profile.switchTrayCount) ∉ sizes)
    "fabric rules must include the full physical inventory size"
  profile.validateControllerRules

end FabricLayoutProfile

end RackManagement
