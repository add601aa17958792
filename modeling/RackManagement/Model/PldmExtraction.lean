import Mathlib.Data.List.Sort
import RackManagement.Library.FiniteMap
import RackManagement.Library.Paths
import RackManagement.Model.PldmPackage

/-!
# Extraction of component images

The unpacking part of `pldm.rs`. An operation of the operating system may fail at any time.
-/

namespace RackManagement.Pldm

open Library FallibleState

structure ImageFaults where
  seek : Option String
  create : Option String
  /-- By the number of the chunk. -/
  read : Nat → Option String
  write : Nat → Option String
  rename : Option String

structure Faults where
  openPackage : Option String
  metadata : Bool
  createDir : Option String
  image : Nat → ImageFaults

/-- The files of the output directory by their paths, and the paths that were created, truncated or renamed. -/
structure OutputDirectory where
  present : Bool
  files : FiniteMap String Bytes
  touched : List String

abbrev Extraction (α : Type) := EStateM Failure OutputDirectory α

def operation (message : String) (fault : Option String) : Extraction Unit :=
  throwIf (fault.map (fun error => .error s!"{message}: {error}"))

def removeNotApplicable : List Char → List Char
  | '_' :: 'N' :: '/' :: 'A' :: rest => removeNotApplicable rest
  | c :: rest => c :: removeNotApplicable rest
  | [] => []

def collapseUnderscores : List Char → List Char
  | [] => []
  | c :: rest => if c = '_' ∧ rest.head? = some '_' then collapseUnderscores rest
    else c :: collapseUnderscores rest

def sanitizeFileNameComponent (fileName : List Char) : List Char :=
  fileName.map (fun c => if c.isAlphanum || c = '.' || c = '_' || c = '-' then c else '_')

def applicableUpTo (applicable : UInt64) (index : Nat) : Nat :=
  ((List.range (index + 1)).foldl (fun (count, rest) _ => (if rest &&& 1 = 1 then count + 1
    else count, rest >>> 1))
    (0, applicable)).1

def recordFileName (record : DeviceIdRecord) (index : Nat) : String :=
  let name := record.componentImageSetVersionString
  if ',' ∈ name.toList then
    (splitAll ',' name).getD (applicableUpTo record.applicableComponents index - 1) ""
  else name

def imageFileName (base version : String) : String :=
  let replaced := removeNotApplicable (base.toList.map (fun c => if c = ':' then '_' else c))
  let fileName := sanitizeFileNameComponent (replaced ++ '_' :: version.toList)
  let ending := if "FW-Package".toList.isPrefixOf fileName then ".fwpkg" else "_image.bin"
  String.ofList (collapseUnderscores (fileName ++ ending.toList))

/-- The name of an image from the first record that has one for it; empty if none has. -/
def firstFileName (mask : UInt64) (index : Nat) (version : String) : List DeviceIdRecord → String
  | [] => ""
  | record :: records =>
    if record.applicableComponents &&& mask ≠ mask then firstFileName mask index version records
    else
      let base := recordFileName record index
      if base.isEmpty then firstFileName mask index version records else imageFileName base version

def getImageFileName (records : List DeviceIdRecord) (index : Nat) (version : String) :
    Except Panic String := do
  let mask ← shiftLeft 1 index
  return firstFileName mask index version records

def finalFileName (baseName hash : String) : String :=
  let start := String.ofList (hash.toList.take 8)
  match stripEnd "_image.bin" baseName with
  | some stripped => s!"{stripped}_{start}_image.bin"
  | none =>
    match stripEnd ".fwpkg" baseName with
    | some stripped => s!"{stripped}_{start}.fwpkg"
    | none => s!"{baseName}_{start}"

def extractedFilePath (outDir fileName : String) : Except String String :=
  if '/' ∈ fileName.toList ∨ '\\' ∈ fileName.toList then
    .error s!"Unsafe PLDM output file name contains path separators: {fileName}"
  else if fileName.isEmpty ∨ fileName = "." ∨ fileName = ".." then
    .error s!"Unsafe PLDM output file name contains path components: {fileName}"
  else .ok (joinPath outDir fileName)

def checkedAdd (a b : Nat) : Option Nat := if a + b < 2 ^ 64 then some (a + b) else none

def checkRange (pkgSize : Nat) (seen : Nat × List (Nat × Nat)) (image : ComponentImageInfo) :
    Except String (Nat × List (Nat × Nat)) :=
  let start := image.locationOffset.toNat
  let size := image.size.toNat
  match checkedAdd start size with
  | none => .error s!"Component offset {start} + size {size} overflows"
  | some stop =>
    if pkgSize < stop then .error s!"Component offset {start} + size {size} exceeds package size {pkgSize}"
    else
      match checkedAdd seen.1 size with
      | none => .error "Total PLDM extracted component size overflow"
      | some total =>
        if pkgSize < total then
          .error s!"Total PLDM extracted component size {total} exceeds package size {pkgSize}"
        else .ok (total, if 0 < size then seen.2 ++ [(start, stop)] else seen.2)

def checkOverlaps : List (Nat × Nat) → Except String Unit
  | previous :: next :: rest =>
    if next.1 < previous.2 then
      .error (s!"PLDM component image ranges overlap: {previous.1}..{previous.2} overlaps " ++
        s!"{next.1}..{next.2}")
    else checkOverlaps (next :: rest)
  | _ => .ok ()

/-- Refuses images that leave the package or overlap. -/
def validateComponentImageRanges (images : List ComponentImageInfo) (pkgSize : Nat) :
    Except String Unit := do
  let ranges ← images.foldlM (checkRange pkgSize) (0, [])
  checkOverlaps (ranges.2.insertionSort (fun left right => left.1 ≤ right.1))

def createFile (path : String) : Extraction Unit :=
  modify (fun output =>
    { output with files := output.files.insert path [], touched := output.touched ++ [path] })

def appendFile (path : String) (chunk : Bytes) : Extraction Unit :=
  modify (fun output =>
    { output with files := output.files.insert path ((output.files.lookup path).getD [] ++ chunk) })

def renameFile (source target : String) : Extraction Unit :=
  modify (fun output =>
    { output with
      files :=
        match output.files.lookup source with
        | some content => (output.files.erase source).insert target content
        | none => output.files
      touched := output.touched ++ [source, target] })

def renameExtracted (fault : ImageFaults) (tmpPath finalPath : String) : Extraction Unit := do
  operation s!"Cannot rename {tmpPath} -> {finalPath}" fault.rename
  renameFile tmpPath finalPath

section Extract

variable (faults : Faults) (sha256 : Bytes → String) (package : Bytes) (outDir : String)

def bufferSize : Nat := 8192

def copyImage (fault : ImageFaults) (path : String) :
    (fuel chunk position remaining : Nat) → (hashed : Bytes) → Extraction Bytes
  | 0, _, _, _, hashed => return hashed
  | fuel + 1, chunk, position, remaining, hashed => do
    if remaining = 0 then return hashed
    else
      let toRead := min remaining bufferSize
      orPanic (sliceBound toRead bufferSize)
      operation "Read error" (fault.read chunk)
      if package.length < position + toRead then throw (.error "Read error: failed to fill whole buffer")
      else
        let bytes := (package.drop position).take toRead
        operation "Write error" (fault.write chunk)
        appendFile path bytes
        let rest ← orPanic (subtract remaining toRead)
        copyImage fault path fuel (chunk + 1) (position + toRead) rest (hashed ++ bytes)

def extractImage (records : List DeviceIdRecord) (index : Nat) (image : ComponentImageInfo) :
    Extraction ComponentImageInfo := do
  let baseName ← orPanic (getImageFileName records index image.versionString)
  if baseName.isEmpty then return image
  else
    let fault := faults.image index
    let tmpPath ← orError (extractedFilePath outDir baseName)
    operation "Seek error" fault.seek
    operation s!"Cannot create {tmpPath}" fault.create
    createFile tmpPath
    let hashed ← copyImage package fault tmpPath image.size.toNat 0 image.locationOffset.toNat
      image.size.toNat []
    let shaHex := sha256 hashed
    let finalPath ← orError (extractedFilePath outDir (finalFileName baseName shaHex))
    runIf (finalPath ≠ tmpPath) (renameExtracted fault tmpPath finalPath)
    return { image with
      fwImageName := some finalPath
      sha256 := some shaHex
      imageSize := some image.size.toUInt64 }

def createDirAll : Extraction Unit := do
  operation "Cannot create dir" faults.createDir
  modify (fun output => { output with present := true })

def extractFiles (images : List ComponentImageInfo) (records : List DeviceIdRecord) :
    Extraction (List ComponentImageInfo) := do
  let pkgSize := if faults.metadata then 0 else package.length
  orError (validateComponentImageRanges images pkgSize)
  let output ← get
  runIf (output.present = false) (createDirAll faults)
  images.zipIdx.mapM (fun image => extractImage faults sha256 package outDir records image.2 image.1)

def readPackage : Extraction PldmParsedData := fun output =>
  match parsePackage (.start package) with
  | .ok data _ => .ok data output
  | .error error _ => .error error output

/-- Reads a package and, on demand, extracts its images. -/
def parse (path : String) (doUnpack : Bool) : Extraction PldmParsedData := do
  operation s!"Cannot open {path}" faults.openPackage
  let data ← readPackage package
  if doUnpack then
    let componentImages ← extractFiles faults sha256 package outDir data.componentImages data.deviceRecords
    return { data with componentImages := componentImages }
  else return data

end Extract

end RackManagement.Pldm
