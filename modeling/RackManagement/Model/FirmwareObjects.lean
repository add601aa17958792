import Mathlib.Data.Finset.Basic
import Mathlib.Data.Finset.Lattice.Lemmas
import RackManagement.Library.FiniteMap
import RackManagement.Library.Runs
import RackManagement.Model.RmsError

/-!
# Firmware objects

The catalog of `memory/firmware_object.rs`, the handlers that add and delete an object, and the
preparation task, cut at their awaits into atomic steps. `step` leaves out store errors;
`stepOrFail` has them.
-/

namespace RackManagement

open Library

structure Artifact where
  id : String
  required : Bool
  context : String
deriving DecidableEq

structure FirmwareManifest where
  objectId : String
  revision : String
  catalogArtifacts : Except String (List Artifact)

variable (manifest : FirmwareManifest)

/-- `materialize` keeps one reference for each artifact ID. -/
def FirmwareManifest.artifactIds : Finset String :=
  match manifest.catalogArtifacts with
  | .ok artifacts => (artifacts.map Artifact.id).toFinset
  | .error _ => ∅

/-- The reference kept for an ID is the last one. -/
def FirmwareManifest.artifact (id : String) : Option Artifact :=
  match manifest.catalogArtifacts with
  | .ok artifacts => artifacts.reverse.find? (fun artifact => artifact.id == id)
  | .error _ => none

inductive Preparation
  | preparing
  | ready
  | failed (message : String)
deriving DecidableEq

structure ArtifactCatalog where
  formatVersion : Nat
  revision : String
  preparation : Preparation
  readyArtifacts : Finset String
deriving DecidableEq

def catalogVersion : Nat := 1

def ArtifactCatalog.preparing : ArtifactCatalog :=
  ⟨catalogVersion, manifest.revision, .preparing, ∅⟩

structure FirmwareObject where
  id : String
  rackHardwareType : String
  available : Bool
  isDefault : Bool
  config : FirmwareManifest
  parsedComponents : Option ArtifactCatalog
  created : Nat
  updated : Nat

abbrev FirmwareCatalog := FiniteMap String FirmwareObject

namespace FirmwareCatalog

def notFound (id : String) : RmsError := ⟨.notFound, "firmware object " ++ id ++ " not found"⟩

variable (catalog : FirmwareCatalog)

def create (id hardwareType : String) (config : FirmwareManifest)
    (parsedComponents : Option ArtifactCatalog) (now : Nat) :
    Except RmsError (FirmwareObject × FirmwareCatalog) :=
  if (catalog.lookup id).isSome then
    .error (.alreadyExists ("firmware object " ++ id ++ " already exists"))
  else
    let firmware : FirmwareObject := ⟨id, hardwareType, false, false, config, parsedComponents, now, now⟩
    .ok (firmware, catalog.insert id firmware)

/-- Clears the other defaults of the hardware type and marks the row, under one lock. -/
def setDefault (id : String) (now : Nat) : Except RmsError (FirmwareObject × FirmwareCatalog) :=
  match catalog.lookup id with
  | none => .error (notFound id)
  | some target =>
    let cleared : FirmwareCatalog := catalog.mapValues (fun firmware =>
      if firmware.id ≠ id ∧ firmware.rackHardwareType = target.rackHardwareType ∧ firmware.isDefault then
        { firmware with isDefault := false, updated := now }
      else firmware)
    match cleared.lookup id with
    | none => .error (notFound id)
    | some firmware =>
      let firmware := { firmware with isDefault := true, updated := now }
      .ok (firmware, cleared.insert id firmware)

def setDefaultIfNone (id : String) (now : Nat) :
    Except RmsError (FirmwareObject × FirmwareCatalog) :=
  match catalog.lookup id with
  | none => .error (notFound id)
  | some firmware =>
    let defaultExists := catalog.values.any (fun other =>
      other.rackHardwareType == firmware.rackHardwareType && other.isDefault)
    if defaultExists then .ok (firmware, catalog)
    else
      let firmware := { firmware with isDefault := true, updated := now }
      .ok (firmware, catalog.insert id firmware)

/-- Publishes into the row only if it is the incarnation that the caller names. -/
def finishPreparation (id : String) (created : Nat) (metadata : ArtifactCatalog)
    (available : Bool) (now : Nat) : Except RmsError (FirmwareObject × FirmwareCatalog) :=
  match (catalog.lookup id).filter (fun firmware => firmware.created == created) with
  | none => .error ⟨.notFound, "firmware object incarnation " ++ id ++ " not found"⟩
  | some firmware =>
    let firmware :=
      { firmware with parsedComponents := some metadata, available := available, updated := now }
    .ok (firmware, catalog.insert id firmware)

def delete (id : String) : Except RmsError FirmwareCatalog :=
  if (catalog.lookup id).isSome then .ok (catalog.erase id) else .error (notFound id)

end FirmwareCatalog

/-- A single path component that names neither the directory nor its parent. -/
def validateFirmwareObjectId (id : String) : Bool :=
  id != "" && id != "." && id != ".." && !id.toList.contains '/' && !id.toList.contains '\\'

inductive WorkerPhase
  | materializing
  | collected (result : Except String (Finset String))
  | publishing
  | releasing
  | finished

/-- The task's local data. Some unresolved artifacts have a cached file under validation or under removal. -/
structure Worker where
  manifest : FirmwareManifest
  catalog : ArtifactCatalog
  phase : WorkerPhase
  unresolved : Finset String
  checking : Finset String
  condemned : Finset String
  ready : Finset String
  failures : List String

inductive PreparationStep
  | probe (artifact : String)
  | reuse (artifact : String)
  | condemn (artifact : String)
  | unlink (artifact : String)
  | store (artifact : String)
  | fail (artifact : String) (message : String)
  | panicked
  | collect
  | checkCancelled

inductive FileEffect
  | untouched
  | placed (artifact : String)
  | removed (artifact : String)

namespace Worker

def start : Worker :=
  let phase :=
    match manifest.catalogArtifacts with
    | .error message => .collected (.error message)
    | .ok [] => .collected (.error "manifest contains no downloadable artifacts")
    | .ok _ => .materializing
  ⟨manifest, .preparing manifest, phase, manifest.artifactIds, ∅, ∅, ∅, []⟩

variable (w : Worker)

def isMaterializing : Bool :=
  match w.phase with
  | .materializing => true
  | _ => false

def isIdle (artifact : String) : Bool :=
  artifact ∈ w.unresolved ∧ artifact ∉ w.checking ∧ artifact ∉ w.condemned

/-- A failed download counts against the preparation only if the artifact is required. -/
def failuresAfter (artifact message : String) : List String :=
  match w.manifest.artifact artifact with
  | some reference =>
    if reference.required then w.failures ++ [reference.context ++ ": " ++ message] else w.failures
  | none => w.failures

def materialized (cancelled : Bool) : Except String (Finset String) :=
  if cancelled then .error "artifact preparation cancelled"
  else if w.failures.isEmpty then .ok w.ready
  else .error ("artifact preparation failed: " ++ "; ".intercalate w.failures)

def catalogOf : Except String (Finset String) → ArtifactCatalog
  | .ok ready => { w.catalog with readyArtifacts := ready, preparation := .ready }
  | .error message => { w.catalog with preparation := .failed message }

/-- One step, given whether the token is cancelled and which files the cache holds. -/
def step (cancelled : Bool) (cached : Finset String) :
    PreparationStep → Option (Worker × FileEffect)
  | .probe artifact =>
    if w.isMaterializing ∧ w.isIdle artifact ∧ artifact ∈ cached then
      some ({ w with checking := insert artifact w.checking }, .untouched)
    else none
  | .reuse artifact =>
    if w.isMaterializing ∧ artifact ∈ w.unresolved ∧ artifact ∈ w.checking then
      some ({ w with
        unresolved := w.unresolved.erase artifact
        checking := w.checking.erase artifact
        ready := insert artifact w.ready }, .untouched)
    else none
  | .condemn artifact =>
    if w.isMaterializing ∧ artifact ∈ w.checking then
      some ({ w with
        checking := w.checking.erase artifact
        condemned := insert artifact w.condemned }, .untouched)
    else none
  -- The removal runs on a blocking thread, which a cancellation does not stop.
  | .unlink artifact =>
    if artifact ∈ w.condemned then
      some ({ w with condemned := w.condemned.erase artifact }, .removed artifact)
    else none
  -- The same holds for the rename that puts a complete file in place.
  | .store artifact =>
    if w.isIdle artifact then
      some ({ w with
        unresolved := w.unresolved.erase artifact
        ready := insert artifact w.ready }, .placed artifact)
    else none
  | .fail artifact message =>
    if w.isMaterializing ∧ artifact ∈ w.unresolved then
      some ({ w with
        unresolved := w.unresolved.erase artifact
        checking := w.checking.erase artifact
        failures := w.failuresAfter artifact message }, .untouched)
    else none
  | .panicked =>
    if w.isMaterializing then
      some ({ w with phase := .collected (.error "artifact preparation panicked") }, .untouched)
    else none
  -- A cancelled token ends every download that is still running.
  | .collect =>
    if w.isMaterializing ∧ (w.unresolved = ∅ ∨ cancelled) then
      some ({ w with phase := .collected (w.materialized cancelled) }, .untouched)
    else none
  | .checkCancelled =>
    match w.phase with
    | .collected result =>
      if cancelled then some ({ w with catalog := w.catalogOf result, phase := .releasing }, .untouched)
      else some ({ w with catalog := w.catalogOf result, phase := .publishing }, .untouched)
    | _ => none

end Worker

structure AddFirmwareObjectRequest where
  manifest : FirmwareManifest
  hardwareType : String
  setDefault : Bool

inductive AddPhase
  | created
  | selected (firmware : FirmwareObject)
  | spawned (firmware : FirmwareObject) (worker : Worker)
  | failed (error : RmsError)

/-- A running add. The row that `create` returned is kept to say which row the call made. -/
structure AddCall where
  request : AddFirmwareObjectRequest
  own : FirmwareObject
  phase : AddPhase

/-- `taken` holds the token of the map until it is cancelled. -/
inductive DeletePhase
  | taken (token : Nat)
  | cancelled
  | removing
  | finished
  | failed (error : RmsError)
deriving DecidableEq

structure DeleteCall where
  id : String
  phase : DeletePhase

/-- The token of an add is named by its call. -/
structure FirmwareService where
  catalog : FirmwareCatalog
  cancellations : FiniteMap String Nat
  cancelledTokens : Finset Nat
  files : Finset (String × String)
  adds : FiniteMap Nat AddCall
  deletes : FiniteMap Nat DeleteCall

/-- The atomic steps of the two requests and of the workers. -/
inductive FirmwareAction
  | create (call : Nat) (request : AddFirmwareObjectRequest) (now : Nat)
  | selectDefault (call : Nat) (now : Nat)
  | register (call : Nat)
  | prepare (call : Nat) (action : PreparationStep)
  | publish (call : Nat) (now : Nat)
  | release (call : Nat)
  | cancelDownload (call : Nat) (id : String)
  | cancelToken (call : Nat)
  | deleteRow (call : Nat)
  | removeFile (call : Nat) (artifact : String)
  | removeDirectory (call : Nat)

namespace FirmwareService

def empty : FirmwareService := ⟨∅, ∅, ∅, ∅, ∅, ∅⟩

variable (s : FirmwareService)

def setAdd (call : Nat) (add : AddCall) (phase : AddPhase) : FirmwareService :=
  { s with adds := s.adds.insert call { add with phase := phase } }

def setDelete (call : Nat) (id : String) (phase : DeletePhase) : FirmwareService :=
  { s with deletes := s.deletes.insert call ⟨id, phase⟩ }

def withFiles (id : String) : FileEffect → FirmwareService
  | .untouched => s
  | .placed artifact => { s with files := insert (id, artifact) s.files }
  | .removed artifact => { s with files := s.files.erase (id, artifact) }

def cached (id : String) (worker : Worker) : Finset String :=
  worker.manifest.artifactIds.filter (fun artifact => (id, artifact) ∈ s.files)

def create (call : Nat) (request : AddFirmwareObjectRequest) (now : Nat) : Option FirmwareService :=
  if (s.adds.lookup call).isSome ∨ request.hardwareType = "" ∨
      !validateFirmwareObjectId request.manifest.objectId then none
  else
    match s.catalog.create request.manifest.objectId request.hardwareType request.manifest
        (some (.preparing request.manifest)) now with
    | .error _ => some s
    | .ok (own, catalog) =>
      some { s with
        catalog := catalog
        adds := s.adds.insert call ⟨request, own, .created⟩ }

def selectDefault (call now : Nat) : Option FirmwareService := do
  let add ← s.adds.lookup call
  match add.phase with
  | .created =>
    let id := add.request.manifest.objectId
    let selection :=
      if add.request.setDefault then s.catalog.setDefault id now else s.catalog.setDefaultIfNone id now
    match selection with
    | .error error => some (s.setAdd call add (.failed error))
    | .ok (firmware, catalog) => some { s.setAdd call add (.selected firmware) with catalog := catalog }
  | _ => none

def register (call : Nat) : Option FirmwareService := do
  let add ← s.adds.lookup call
  match add.phase with
  | .selected firmware =>
    some { s.setAdd call add (.spawned firmware (.start add.request.manifest)) with
      cancellations := s.cancellations.insert add.request.manifest.objectId call }
  | _ => none

def prepare (call : Nat) (action : PreparationStep) : Option FirmwareService := do
  let add ← s.adds.lookup call
  match add.phase with
  | .spawned firmware worker =>
    let (worker, effect) ← worker.step (call ∈ s.cancelledTokens) (s.cached firmware.id worker) action
    some ((s.setAdd call add (.spawned firmware worker)).withFiles firmware.id effect)
  | _ => none

/-- The result goes to the row that has the ID and the creation time of the task's row. -/
def publish (call now : Nat) : Option FirmwareService := do
  let add ← s.adds.lookup call
  match add.phase with
  | .spawned firmware worker =>
    match worker.phase with
    | .publishing =>
      let s' := s.setAdd call add (.spawned firmware { worker with phase := .releasing })
      match s.catalog.finishPreparation firmware.id firmware.created worker.catalog
          (worker.catalog.preparation = .ready) now with
      | .error _ => some s'
      | .ok (_, catalog) => some { s' with catalog := catalog }
    | _ => none
  | _ => none

def release (call : Nat) : Option FirmwareService := do
  let add ← s.adds.lookup call
  match add.phase with
  | .spawned firmware worker =>
    match worker.phase with
    | .releasing =>
      let cancellations :=
        if call ∈ s.cancelledTokens then s.cancellations else s.cancellations.erase firmware.id
      some { s.setAdd call add (.spawned firmware { worker with phase := .finished }) with
        cancellations := cancellations }
    | _ => none
  | _ => none

/-- Takes the token out of the map. Without one there is nothing to cancel. -/
def cancelDownload (call : Nat) (id : String) : Option FirmwareService :=
  if (s.deletes.lookup call).isSome ∨ !validateFirmwareObjectId id then none
  else
    let phase :=
      match s.cancellations.lookup id with
      | some token => DeletePhase.taken token
      | none => .cancelled
    some { s.setDelete call id phase with cancellations := s.cancellations.erase id }

/-- Cancels the token after the lock of the map has been released. -/
def cancelToken (call : Nat) : Option FirmwareService := do
  let delete ← s.deletes.lookup call
  match delete.phase with
  | .taken token =>
    some { s.setDelete call delete.id .cancelled with cancelledTokens := insert token s.cancelledTokens }
  | _ => none

def deleteRow (call : Nat) : Option FirmwareService := do
  let delete ← s.deletes.lookup call
  match delete.phase with
  | .cancelled =>
    match s.catalog.delete delete.id with
    | .error error => some (s.setDelete call delete.id (.failed error))
    | .ok catalog => some { s.setDelete call delete.id .removing with catalog := catalog }
  | _ => none

/-- The directory is removed file by file. -/
def removeFile (call : Nat) (artifact : String) : Option FirmwareService := do
  let delete ← s.deletes.lookup call
  match delete.phase with
  | .removing => some (s.withFiles delete.id (.removed artifact))
  | _ => none

def removeDirectory (call : Nat) : Option FirmwareService := do
  let delete ← s.deletes.lookup call
  match delete.phase with
  | .removing => some (s.setDelete call delete.id .finished)
  | _ => none

/-- One step of the service. `none` means that it cannot be taken now. -/
def step : FirmwareAction → Option FirmwareService
  | .create call request now => s.create call request now
  | .selectDefault call now => s.selectDefault call now
  | .register call => s.register call
  | .prepare call action => s.prepare call action
  | .publish call now => s.publish call now
  | .release call => s.release call
  | .cancelDownload call id => s.cancelDownload call id
  | .cancelToken call => s.cancelToken call
  | .deleteRow call => s.deleteRow call
  | .removeFile call artifact => s.removeFile call artifact
  | .removeDirectory call => s.removeDirectory call

end FirmwareService

/-- A step of a call, or one whose catalog operation fails with an error and no effect. -/
inductive StoreAction
  | completes (action : FirmwareAction)
  | createFails
  | selectDefaultFails (call : Nat) (error : RmsError)
  | publishFails (call : Nat)
  | deleteRowFails (call : Nat) (error : RmsError)

namespace FirmwareService

def failSelectDefault (s : FirmwareService) (call : Nat) (error : RmsError) : Option FirmwareService := do
  let add ← s.adds.lookup call
  match add.phase with
  | .created => some (s.setAdd call add (.failed error))
  | _ => none

def failPublish (s : FirmwareService) (call : Nat) : Option FirmwareService := do
  let add ← s.adds.lookup call
  match add.phase with
  | .spawned firmware worker =>
    match worker.phase with
    | .publishing => some (s.setAdd call add (.spawned firmware { worker with phase := .releasing }))
    | _ => none
  | _ => none

def failDeleteRow (s : FirmwareService) (call : Nat) (error : RmsError) : Option FirmwareService := do
  let delete ← s.deletes.lookup call
  match delete.phase with
  | .cancelled => some (s.setDelete call delete.id (.failed error))
  | _ => none

/-- A step, or the failure of its access to the store. -/
def stepOrFail (s : FirmwareService) : StoreAction → Option FirmwareService
  | .completes action => s.step action
  | .createFails => some s
  | .selectDefaultFails call error => s.failSelectDefault call error
  | .publishFails call => s.failPublish call
  | .deleteRowFails call error => s.failDeleteRow call error

end FirmwareService

end RackManagement
