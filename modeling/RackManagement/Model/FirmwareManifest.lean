import RackManagement.Library.Json
import RackManagement.Library.Paths
import RackManagement.Library.Url
import RackManagement.Model.NodeSelectors
import RackManagement.Model.PldmPackage

/-!
# Firmware manifests and their artifacts

The release catalog of `domain/firmware_manifest.rs`, its payload locations and the identity of an
artifact.
-/

namespace RackManagement

open Library

namespace Manifest

structure Location where
  location : Option String
  locationType : Option String
  packageName : Option String
  artifactType : Option String
  fileName : Option String
  sha256 : Option String
  required : Option Bool

structure SubComponent where
  component : String
  version : String
  skuId : Option String
  componentType : Option String

structure Component where
  linkxRollout : Option Json
  component : String
  version : Option String
  channel : Option String
  bundle : Option String
  fileNames : List String
  locations : List Location
  subcomponents : List SubComponent

structure Components where
  software : List Component
  firmware : List Component

structure BoardSku where
  skuId : Option String
  name : String
  boardType : String
  components : Components

structure Milestone where
  name : String
  state : Option String
  boardSkus : List BoardSku

structure FirmwareManifest where
  productName : String
  milestones : List Milestone

inductive PlanError
  | invalid (message : String)
  | noComponents (message : String)
  | cache (message : String)
deriving DecidableEq

variable (manifest : FirmwareManifest)

def singleMilestone : Except PlanError Milestone :=
  match manifest.milestones with
  | [milestone] => .ok milestone
  | milestones =>
    .error (.invalid s!"Milestones must contain exactly one milestone; found {milestones.length}")

def nonempty (value : Option String) : Option String := value.filter (fun value => trim value ≠ "")

inductive LookupKey
  | computeNode | switchTray | powerShelf
deriving DecidableEq

def lookupKeyFromBoardType (boardType : String) : Option LookupKey :=
  let boardType := trim boardType
  if equalsIgnoringAsciiCase boardType "Compute Tray" ||
    equalsIgnoringAsciiCase boardType "Compute Node" then
    some .computeNode
  else if equalsIgnoringAsciiCase boardType "Switch Tray" then some .switchTray
  else if equalsIgnoringAsciiCase boardType "PowerShelf" ||
    equalsIgnoringAsciiCase boardType "Power Shelf" then
    some .powerShelf
  else none

def boardMatches (boardType : String) (nodeType : NodeType) : Bool :=
  match lookupKeyFromBoardType boardType, nodeType.kind with
  | some .computeNode, .compute => true
  | some .computeNode, .powershelf => true
  | some .switchTray, .switch => true
  | some .powerShelf, .powershelf => true
  | _, _ => false

def channel (component : Component) : Option String :=
  nonempty component.channel <|>
    if equalsIgnoringAsciiCase manifest.productName "VR-NVL72" &&
        component.component ∈ ["HMC", "BMC", "BMC+CPLD+SMA+ERoT+SBIOS"] then some "Prod"
    else none

def inChannel (component : Component) (firmwareType : String) : Bool :=
  (channel manifest component).any (fun channel =>
    equalsIgnoringAsciiCase (trim channel) (trim firmwareType))

/-- Spaces and hyphens are interchangeable. -/
def firmwareSourceComponentMatches (actual expected : String) : Bool :=
  let separators := fun c : Char => if c = '-' then ' ' else c
  actual.toList.map separators = expected.toList.map separators

def normalizedFirmwareIdentity (value : String) : String :=
  String.ofList ((value.toList.filter Char.isAlphanum).map Char.toLower)

def firmwareVersionsMatch (installed proposed : String) : Bool :=
  equalsIgnoringAsciiCase (trim installed) (trim proposed)

variable (component : String)

/-- The name up to the first comma and the first colon. -/
def leadingName : String :=
  (splitAll ':' ((splitAll ',' component).headD component)).headD component

def normalizedComponentCategory (hgxComponent : Bool) : String :=
  let normalized := normalizedFirmwareIdentity component
  let has := fun part => containsText part normalized
  if has "inforom" then "inforom"
  else if has "erot" then "erot"
  else if has "smr" || has "fpga" then "fpga"
  else if has "cpld" then "cpld"
  else if has "sbios" || has "bios" || has "cpu" then "sbios"
  else if has "hmc" || (hgxComponent && has "bmc") then "hmc"
  else if has "bmc" then "bmc"
  else if startsWith "nvswitchsma" normalized || normalized = "sma" then "sma"
  else if has "gpu" && !has "sma" then "gpu"
  else if has "pcie" then "pcieswitch"
  else if has "cx7" then "cx7"
  else if has "cx8" then "cx8"
  else if has "bf3" || has "bluefield3" then "bf3nic"
  else if has "pmc" then "pmc"
  else if has "psu" then "psu"
  else normalized

def normalizedManifestComponent : String :=
  normalizedComponentCategory (leadingName component) false

def instanceStarts : List String :=
  ["pcieswitchconfig", "inforomgpu", "erotfpga", "erotbmc", "erotcpu", "hgxbmc", "fpga", "cpld",
    "bmc", "hmc", "cpu", "gpu"]

def firmwareComponentInstanceIdentity : Option String :=
  let normalized := normalizedFirmwareIdentity (leadingName component)
  let normalized :=
    (["hgxfw", "hgx", "mgxfw", "mgx", "fw"].findSome? (fun start =>
      stripStart start normalized)).getD normalized
  instanceStarts.findSome? (fun start => do
    let number ← stripStart start normalized
    if number ≠ "" && number.toList.all Char.isDigit then some (start ++ number) else none)

def firmwareComponentInstancesMatch (component candidate : String) : Bool :=
  match firmwareComponentInstanceIdentity component, firmwareComponentInstanceIdentity candidate with
  | some componentInstance, some targetInstance => componentInstance = targetInstance
  | some _, none => false
  | _, _ => true

def manifestComponentMatchesTarget (component targetKey : String) : Bool :=
  normalizedManifestComponent component = normalizedManifestComponent targetKey &&
    firmwareComponentInstancesMatch component targetKey

inductive BasenameError
  | empty | unsupportedCharacters | hidden

def validateNonHiddenBasename (name : String) : Except BasenameError Unit := do
  failIf (name = "") .empty
  failIf (name.toList.all (fun c => c.isAlphanum || c = '_' || c = '.' || c = '-') =
    false) .unsupportedCharacters
  failIf (startsWith "." name = true) .hidden

inductive ArtifactPathError
  | missingFilename (location : String)
  | emptyFilename
  | nonHiddenBasename (filename : String)
  | unsafeCharacters (filename : String)
  | unsafeCacheSubdir (cacheSubdir : String)

def ArtifactPathError.toString : ArtifactPathError → String
  | missingFilename location => s!"location must end with a filename: {location}"
  | emptyFilename => "artifact filename must not be empty"
  | nonHiddenBasename filename => s!"location filename must be a non-hidden basename: {filename}"
  | unsafeCharacters filename => s!"location filename contains unsafe characters: {filename}"
  | unsafeCacheSubdir cacheSubdir => s!"artifact cache subdirectory is not path-safe: {cacheSubdir}"

def validateArtifactFilename (filename : String) : Except ArtifactPathError Unit :=
  match validateNonHiddenBasename filename with
  | .ok () => .ok ()
  | .error .empty => .error .emptyFilename
  | .error .unsupportedCharacters => .error (.unsafeCharacters filename)
  | .error .hidden => .error (.nonHiddenBasename filename)

def artifactCachePath (cacheDir cacheSubdir filename : String) : Except ArtifactPathError String := do
  validateArtifactFilename filename
  failIf (cacheSubdir ≠ "" ∧ (validateNonHiddenBasename cacheSubdir).isOk = false)
    (.unsafeCacheSubdir cacheSubdir)
  return joinPath (joinPath cacheDir cacheSubdir) filename

def lastPathSegment (url : Url) : Option String :=
  (stripStart "/" url.path).bind (fun rest => (splitAll '/' rest).getLast?)

variable (lib : UrlLibrary)

def filenameFromLocation (location : String) : Except ArtifactPathError String := do
  failIf (endsWith "/" location = true ∨ endsWith "\\" location = true) (.missingFilename location)
  let filename := match lib.parse location with
    | .ok url => lastPathSegment url
    | .error _ => fileName location
  match filename.filter (· ≠ "") with
  | none => .error (.missingFilename location)
  | some filename => do
    validateArtifactFilename filename
    return filename

def advertisedFilename (location : Location) : Option String :=
  nonempty location.fileName <|> location.location.bind (fun source =>
    (filenameFromLocation lib source).toOption)

def hasDownloadLocation (location : Location) : Bool := (nonempty location.location).isSome

def locationIsFirmwarePayload (locationType : Option String) : Bool :=
  locationType.any (fun locationType =>
    equalsIgnoringAsciiCase locationType "Firmware" || equalsIgnoringAsciiCase locationType "Binary")

def locationIsRecoveryPayload (locationType : Option String) (artifactName : String) : Bool :=
  let name := toAsciiLowercase artifactName
  endsWith ".fwpkg" name &&
    (locationType.any (fun locationType => equalsIgnoringAsciiCase locationType "Firmware-Recovery") ||
      containsText "_recovery" name)

def flintFirmwarePayloadFilename (filename : String) : Bool :=
  let filename := toAsciiLowercase filename
  endsWith ".bin" filename || endsWith ".pldm" filename

def firmwarePayloadAllowedForComponent (component filename : String) : Bool :=
  if equalsIgnoringAsciiCase component "LINKX" then endsWith ".bin" (toAsciiLowercase filename)
  else if equalsIgnoringAsciiCase component "BF3_BFB" then false
  else if ["CX7", "CX8", "BF3_NIC"].any
    (equalsIgnoringAsciiCase component) then flintFirmwarePayloadFilename filename
  else true

def recoveryPayloadLocation (location : Location) : Bool :=
  (advertisedFilename lib location).any (locationIsRecoveryPayload location.artifactType)

def payloadLocation (manifest : FirmwareManifest) (component : Component)
    (location : Location) : Bool :=
  if recoveryPayloadLocation lib location then false
  else
    let inferredVrBmc := equalsIgnoringAsciiCase manifest.productName "VR-NVL72" &&
      equalsIgnoringAsciiCase component.component "BMC" && (nonempty location.artifactType).isNone &&
      (advertisedFilename lib location).any (fun name => endsWith ".fwpkg" (toAsciiLowercase name))
    (locationIsFirmwarePayload location.artifactType || inferredVrBmc) &&
      (advertisedFilename lib location).all (firmwarePayloadAllowedForComponent component.component)

/-- Only binary images can be installed on a switch. -/
def downloadableNvosLocation (location : Location) : Bool :=
  hasDownloadLocation location &&
    (advertisedFilename lib location).any (fun name => endsWith ".bin" (toAsciiLowercase name))

structure LinkxPolicy where
  currentVersion : String
  targetVersion : String
  sha256 : String
deriving DecidableEq

/-- What other libraries compute: URLs, the hash function and the serialized forms. -/
structure Tools where
  url : UrlLibrary
  digest : Pldm.Bytes → Vector UInt8 32
  manifestToVec : FirmwareManifest → Except String Pldm.Bytes
  identityToVec : String × String × String × String × String → Except String Pldm.Bytes
  linkxPolicyFromValue : Json → Except String LinkxPolicy

variable (tools : Tools)

def hexDigest (bytes : Pldm.Bytes) : String := Pldm.hexText (tools.digest bytes).toList

def manifestRevision (manifest : FirmwareManifest) : Except PlanError String :=
  match tools.manifestToVec manifest with
  | .ok bytes => .ok (hexDigest tools bytes)
  | .error error => .error (.invalid error)

structure Artifact where
  id : String
  filename : String
  source : String
  transport : String
  sha256 : Option String
  required : Bool
  context : String

namespace Artifact

def orInvalid {α : Type} (message : String) : Option α → Except PlanError α
  | some value => .ok value
  | none => .error (.invalid message)

def fromLocation (revision context : String) (location : Location) : Except PlanError Artifact := do
  let source ← orInvalid s!"{context}.Location is required for an update" (nonempty location.location)
  let transport ← orInvalid s!"{context}.LocationType is required for an update"
    (nonempty location.locationType)
  let filename ← orInvalid s!"{context} must specify a safe FileName or URL basename"
    (advertisedFilename tools.url location)
  failIf ((artifactCachePath "" "artifact" filename).isOk = false)
    (.invalid s!"{context}.FileName must be a safe filename")
  match tools.identityToVec (revision, context, source, transport, filename) with
  | .error error => .error (.invalid error)
  | .ok identity => .ok {
      id := hexDigest tools identity
      filename := filename
      source := source
      transport := transport
      sha256 := location.sha256
      required := location.required.getD true
      context := context }

def cachePath (artifact : Artifact) (cache : String) : Except PlanError String :=
  match artifactCachePath cache artifact.id artifact.filename with
  | .ok path => .ok path
  | .error error => .error (.cache error.toString)

end Artifact

def locationContext (board : Nat) (collection : String) (component location : Nat) : String :=
  s!"Milestones[0].BoardSKUs[{board}].Components.{collection}[{component}].Locations[{location}]"

end Manifest

end RackManagement
