import Mathlib.Algebra.Ring.Nat
import RackManagement.Library.FallibleState
import RackManagement.Library.Text

/-!
# PLDM firmware packages

The package format as `pldm.rs` reads it.
-/

namespace RackManagement.Pldm

open Library FallibleState

abbrev Bytes := List UInt8

inductive Panic
  | shiftOverflow (amount : Nat)
  | indexOutOfBounds (index length : Nat)
  | subtractionUnderflow (left right : Nat)
  /-- The formatter takes widths of 16 bits. -/
  | formatWidth (width : Nat)
deriving DecidableEq

inductive Failure
  | error (message : String)
  | panic (reason : Panic)
deriving DecidableEq

def shiftLeft (value : UInt64) (amount : Nat) : Except Panic UInt64 :=
  if amount < 64 then .ok (value <<< amount.toUInt64) else .error (.shiftOverflow amount)

def element {α : Type} (l : List α) (index : Nat) : Except Panic α :=
  match l[index]? with
  | some a => .ok a
  | none => .error (.indexOutOfBounds index l.length)

def sliceBound (stop length : Nat) : Except Panic Unit :=
  if stop ≤ length then .ok () else .error (.indexOutOfBounds stop length)

def subtract (left right : Nat) : Except Panic Nat :=
  if right ≤ left then .ok (left - right) else .error (.subtractionUnderflow left right)

def orPanic {σ α : Type} (x : Except Panic α) : EStateM Failure σ α := fromExcept (x.mapError Failure.panic)

def orError {σ α : Type} (x : Except String α) : EStateM Failure σ α :=
  fromExcept (x.mapError Failure.error)

/-- `String::from_utf8_lossy`: an ill-formed piece becomes one replacement character. -/
def decodeSequence (first : UInt8) (rest : Bytes) : Char × Nat :=
  let isContinuation := fun (b : UInt8) => 0x80 ≤ b && b ≤ 0xBF
  let isSecond := fun (b : UInt8) =>
    if first = 0xE0 then 0xA0 ≤ b && b ≤ 0xBF
    else if first = 0xED then 0x80 ≤ b && b ≤ 0x9F
    else if first = 0xF0 then 0x90 ≤ b && b ≤ 0xBF
    else if first = 0xF4 then 0x80 ≤ b && b ≤ 0x8F
    else isContinuation b
  let read := fun (count : Nat) (lead : UInt8) =>
    let valid :=
      match rest.take count with
      | [] => []
      | second :: more => if isSecond second then second :: more.takeWhile isContinuation else []
    if valid.length = count then
      (Char.ofNat (valid.foldl (fun value b => value * 64 + (b - 0x80).toNat) (first - lead).toNat), count)
    else ('�', valid.length)
  if first < 0x80 then (Char.ofNat first.toNat, 0)
  else if 0xC2 ≤ first && first ≤ 0xDF then read 1 0xC0
  else if 0xE0 ≤ first && first ≤ 0xEF then read 2 0xE0
  else if 0xF0 ≤ first && first ≤ 0xF4 then read 3 0xF0
  else ('�', 0)

def decodeFrom : (fuel : Nat) → Bytes → List Char
  | 0, _ => []
  | _, [] => []
  | fuel + 1, first :: rest =>
    let decoded := decodeSequence first rest
    decoded.1 :: decodeFrom fuel (rest.drop decoded.2)

variable (bytes : Bytes)

def fromUtf8Lossy : String := String.ofList (decodeFrom bytes.length bytes)

def hexByteText (b : UInt8) : String :=
  String.ofList [Nat.digitChar (b.toNat / 16), Nat.digitChar (b.toNat % 16)]

def hexText : String := String.join (bytes.map hexByteText)

def formatUuidBytes : Except Panic String :=
  if bytes.length < 16 then .ok ""
  else do
    let parts ← [[0, 1, 2, 3], [4, 5], [6, 7], [8, 9], [10, 11, 12, 13, 14, 15]].mapM (fun part =>
      part.mapM (element bytes))
    return "-".intercalate (parts.map hexText)

def littleEndian : Bytes → Nat
  | [] => 0
  | b :: rest => b.toNat + 256 * littleEndian rest

variable (n : Nat)

def hexNumber : String := String.ofList (Nat.toDigits 16 n)

def padStart (width : Nat) (text : String) : Except Panic String :=
  if width < 2 ^ 16 then .ok (String.ofList (List.replicate (width - text.length) '0' ++ text.toList))
  else .error (.formatWidth width)

/-- The bytes are collected in a number of 128 bits. -/
def paddedHexLe : Except Panic String :=
  if bytes.isEmpty then .ok "0x"
  else do
    let value := bytes.reverse.foldl (fun acc b => (acc * 256) % 2 ^ 128 + b.toNat) 0
    let padded ← padStart (bytes.length * 2) (hexNumber value)
    return s!"0x{padded}"

def parseTimestamp (ts : Bytes) : Except Panic String :=
  if ts.length < 13 then .ok ""
  else do
    let year ← [10, 11].mapM (element ts)
    let month ← element ts 9
    let day ← element ts 8
    let hour ← element ts 7
    let minute ← element ts 6
    let second ← element ts 5
    let micro ← [2, 3, 4].mapM (element ts)
    let utc ← [0, 1].mapM (element ts)
    -- the offset is a signed number of two bytes
    let utcRaw := littleEndian utc
    let offset := if utcRaw < 2 ^ 15 then s!"+{utcRaw}" else s!"-{2 ^ 16 - utcRaw}"
    return s!"{littleEndian year}-{month}-{day} {hour}:{minute}:{second}:{littleEndian micro} {offset}"

structure PackageFile where
  bytes : Bytes
  position : Nat

def PackageFile.start : PackageFile := ⟨bytes, 0⟩

def PackageFile.moveTo (f : PackageFile) (position : Nat) : PackageFile := { f with position := position }

abbrev PackageReader (α : Type) := EStateM Failure PackageFile α

def refuse (p : Prop) [Decidable p] (message : String) : PackageReader Unit := refuseIf p (.error message)

/-- A read over the end of the file stops there. -/
def readExact : EStateM String PackageFile Bytes := fun f =>
  if f.position + n ≤ f.bytes.length then
    .ok ((f.bytes.drop f.position).take n) (f.moveTo (f.position + n))
  else .error "failed to fill whole buffer" (f.moveTo (max f.position f.bytes.length))

def readBytes : PackageReader Bytes :=
  mapError (fun error => .error s!"Read error: {error}") (readExact n)

def readU8 : PackageReader UInt8 := return .ofNat (littleEndian (← readBytes 1))

def readU16Le : PackageReader UInt16 := return .ofNat (littleEndian (← readBytes 2))

def readU32Le : PackageReader UInt32 := return .ofNat (littleEndian (← readBytes 4))

def skipBytes : EStateM String PackageFile Unit := fun f =>
  let target := f.position + n
  if 2 ^ 64 ≤ target then .error "skip offset overflow" f
  else if f.bytes.length < target then
    .error s!"skip target {target} exceeds file length {f.bytes.length}" f
  else .ok () (f.moveTo target)

def skipArea (message : String) : PackageReader Unit := do
  let length ← readU32Le
  runIf (0 < length) (mapError (fun error => .error s!"{message}: {error}") (skipBytes length.toNat))

def readString : PackageReader String := return fromUtf8Lossy ((← readBytes n).takeWhile (· ≠ 0))

def validUuids : List Bytes :=
  [[0xF0, 0x18, 0x87, 0x8C, 0xCB, 0x7D, 0x49, 0x43, 0x98, 0x00, 0xA0, 0x2F, 0x05, 0x9A, 0xCA, 0x02],
    [0x12, 0x44, 0xD2, 0x64, 0x8D, 0x7D, 0x47, 0x18, 0xA0, 0x30, 0xFC, 0x8A, 0x56, 0x58, 0x7D, 0x5A],
    [0x31, 0x19, 0xCE, 0x2F, 0xE8, 0x0A, 0x4A, 0x99, 0xAF, 0x6D, 0x46, 0xF8, 0xB1, 0x21, 0xF6, 0xBF],
    [0x7B, 0x29, 0x1C, 0x99, 0x6D, 0xB6, 0x42, 0x08, 0x80, 0x1B, 0x02, 0x02, 0x6E, 0x46, 0x3C, 0x78]]

structure PldmHeader where
  identifier : String
  formatRevision : UInt8
  releaseDatetime : String
  componentBitmapBitLength : UInt16
  versionString : String

structure RawDescriptor where
  isInitial : Bool
  descriptorType : UInt16
  data : Bytes
  vendorTitle : Option String
  vendorData : Option Bytes

structure DeviceIdRecord where
  componentImageSetVersionString : String
  applicableComponents : UInt64
  descriptors : List RawDescriptor

/-- A component image. The last three fields are set when the image has been extracted. -/
structure ComponentImageInfo where
  identifier : UInt16
  locationOffset : UInt32
  size : UInt32
  versionString : String
  fwImageName : Option String
  sha256 : Option String
  imageSize : Option UInt64

structure PldmParsedData where
  header : PldmHeader
  deviceRecords : List DeviceIdRecord
  componentImages : List ComponentImageInfo

def parseHeader : PackageReader PldmHeader := do
  let uuidBytes ← readBytes 16
  let identifier ← orPanic (formatUuidBytes uuidBytes)
  refuse (uuidBytes ∉ validUuids) s!"Not a valid PLDM package: UUID {identifier}"
  let formatRevision ← readU8
  let _headerSize ← readU16Le
  let tsBytes ← readBytes 13
  let releaseDatetime ← orPanic (parseTimestamp tsBytes)
  let componentBitmapBitLength ← readU16Le
  let _verStringType ← readU8
  let verStringLen ← readU8
  let versionString ← readString verStringLen.toNat
  return ⟨identifier, formatRevision, releaseDatetime, componentBitmapBitLength, versionString⟩

def parseVendorDescriptor (descriptorType : UInt16) (length : Nat) : PackageReader RawDescriptor := do
  refuse (length < 2) s!"Malformed vendor descriptor: length {length} is shorter than the title metadata"
  let _titleType ← readU8
  let titleLen ← readU8
  let title ← readString titleLen.toNat
  let headerLen := 2 + titleLen.toNat
  refuse (length < headerLen)
    s!"Malformed vendor descriptor: length {length} is shorter than title metadata plus title ({headerLen} bytes)"
  let vendorDataLen ← orPanic (subtract length headerLen)
  let vendorData ← readBytes vendorDataLen
  return ⟨false, descriptorType, [], some title, some vendorData⟩

/-- The first descriptor of a record is never read as a vendor descriptor. -/
def parseDescriptor (j : Nat) : PackageReader RawDescriptor := do
  let descriptorType ← readU16Le
  let length ← readU16Le
  if j ≠ 0 && descriptorType = 0xFFFF then parseVendorDescriptor descriptorType length.toNat
  else
    let data ← readBytes length.toNat
    return ⟨j = 0, descriptorType, data, none, none⟩

def componentBits : Except Panic UInt64 :=
  bytes.zipIdx.foldlM (fun bits b => do
    let shifted ← shiftLeft b.1.toUInt64 (b.2 * 8)
    return bits ||| shifted) 0

variable (header : PldmHeader)

def parseDeviceRecord (bitmapBytes : Nat) : PackageReader DeviceIdRecord := do
  let _recordLength ← readU16Le
  let descriptorCount ← readU8
  let _deviceUpdateFlags ← readU32Le
  let _cisvStringType ← readU8
  let cisvStringLen ← readU8
  let fwPkgDataLen ← readU16Le
  runIf (4 ≤ header.formatRevision) (skipArea "Skip reference manifest error")
  let acBytes ← readBytes bitmapBytes
  let applicableComponents ← orPanic (componentBits acBytes)
  let componentImageSetVersionString ← readString cisvStringLen.toNat
  let descriptors ← (List.range descriptorCount.toNat).mapM parseDescriptor
  let _fwPkgData ← readBytes fwPkgDataLen.toNat
  return ⟨componentImageSetVersionString, applicableComponents, descriptors⟩

def checkBitLength : PackageReader Unit :=
  refuse (64 < header.componentBitmapBitLength)
    s!"Unsupported component bitmap bit length: {header.componentBitmapBitLength}"

def parseDeviceRecords : PackageReader (List DeviceIdRecord) := do
  let count ← readU8
  checkBitLength header
  let bitmapBytes := (header.componentBitmapBitLength.toNat + 7) / 8
  (List.range count.toNat).mapM (fun _ => parseDeviceRecord header bitmapBytes)

def parseDownstreamArea : PackageReader Unit := do
  let _count ← readU8
  return ()

def parseComponentImage : PackageReader ComponentImageInfo := do
  let _classification ← readU16Le
  let identifier ← readU16Le
  let _comparisonStamp ← readBytes 4
  let _options ← readU16Le
  let _activationMethod ← readU16Le
  let locationOffset ← readU32Le
  let size ← readU32Le
  let _verStringType ← readU8
  let verStringLen ← readU8
  let versionString ← readString verStringLen.toNat
  runIf (3 ≤ header.formatRevision) (skipArea "Skip opaque data error")
  return ⟨identifier, locationOffset, size, versionString, none, none, none⟩

def parseComponentImages : PackageReader (List ComponentImageInfo) := do
  let count ← readU16Le
  checkBitLength header
  refuse (header.componentBitmapBitLength < count)
    (s!"Unsupported component image count: {count} exceeds component bitmap bit length " ++
      s!"{header.componentBitmapBitLength}")
  (List.range count.toNat).mapM (fun _ => parseComponentImage header)

/-- Everything up to the images themselves. The checksums are read and not compared. -/
def parsePackage : PackageReader PldmParsedData := do
  let header ← parseHeader
  let deviceRecords ← parseDeviceRecords header
  runIf (1 < header.formatRevision) parseDownstreamArea
  let componentImages ← parseComponentImages header
  ignoreError readU32Le
  runIf (4 ≤ header.formatRevision) (ignoreError readU32Le)
  return ⟨header, deviceRecords, componentImages⟩

end RackManagement.Pldm
