import RackManagement.Library.FallibleProgram
import RackManagement.Model.ManagedConfigFile

/-!
# Reconciliation of a controller's configuration

`reconcile_config` as a program that sends requests to a controller and reads again after every
write.
-/

namespace RackManagement

open Library

/-- The calls to the controller. -/
inductive ConfigRequest
  | getStaticConfigFiles (files : List String) (gateway : String)
  | setStaticConfigFile (file content gateway : String)
  | setStaticConfig (file key value gateway : String)

def ConfigRequest.isWrite : ConfigRequest → Bool
  | getStaticConfigFiles _ _ => false
  | _ => true

/-- Files, an acknowledgement, or an error of the client. -/
inductive ConfigReply
  | files (response : ManagedConfigFile.NmxGetStaticConfigResponse)
  | acknowledged
  | failed

namespace ManagedConfigFile

structure ReconcileState where
  current : ManagedConfigSnapshot
  changed : Bool

abbrev ReconcileProgram := FallibleProgram ReconcileState ConfigRequest ConfigReply String

def ReconcileState.initial : ReconcileState := ⟨⟨.empty, .empty⟩, false⟩

section

variable (config : ManagedConfig) (gateway : String)

def readReply : ConfigReply → Except String ManagedConfigSnapshot
  | .files response => completeConfig response config.entries
  | _ => .error "managed configuration read unavailable"

/-- An empty target is not read. -/
def readConfig : ReconcileProgram ManagedConfigSnapshot :=
  if config.entries.entries.isEmpty then pure ⟨.empty, .empty⟩
  else do
    let reply ← FallibleProgram.send (.getStaticConfigFiles (requiredFiles config.entries).toList gateway)
    match readReply config reply with
    | .ok current => return current
    | .error error => throw error

def refresh : ReconcileProgram Unit := do
  let current ← readConfig config gateway
  FallibleProgram.update (fun state => { state with current := current })

def currentFile (file : String) : ReconcileProgram String := do
  match (← FallibleProgram.read).current.files.lookup file with
  | some content => return content
  | none => throw "controller omitted a requested configuration file"

/-- The records of a file, for comparison without regard to their order. -/
def sortedRecords (content : String) : List String :=
  ((textLines content.toList).map String.ofList).insertionSort (· ≤ ·)

def holdsValue (current : ManagedConfigSnapshot) (key : String ×ₗ String) (value : String) : Bool :=
  current.values.lookup key = some (some value)

/-- Writes the file without the settings to remove; only the read after it is evidence. -/
def replaceFile (file replacement : String) : ReconcileProgram Unit := do
  FallibleProgram.update (fun state => { state with changed := true })
  let _ ← FallibleProgram.send (.setStaticConfigFile file replacement gateway)
  refresh config gateway
  let returned ← currentFile file
  if sortedRecords returned = sortedRecords replacement then return ()
  else throw "managed configuration file write did not pass preservation readback"

def removeSettings (file : String) : ReconcileProgram Unit := do
  refresh config gateway
  let content ← currentFile file
  match replacementConfigFile file content config.entries with
  | .error error => throw error
  | .ok replacement =>
    if replacement = content then return () else replaceFile config gateway file replacement

def writeValue (key : String ×ₗ String) (value : String) : ReconcileProgram Unit := do
  FallibleProgram.update (fun state => { state with changed := true })
  let _ ← FallibleProgram.send (.setStaticConfig (ofLex key).1 (ofLex key).2 value gateway)
  refresh config gateway
  if holdsValue (← FallibleProgram.read).current key value then return ()
  else throw "managed configuration write did not pass readback"

def setSetting (entry : (String ×ₗ String) × Option String) : ReconcileProgram Unit :=
  match entry.2 with
  | none => return ()
  | some value => do
    if holdsValue (← FallibleProgram.read).current entry.1 value then return ()
    else writeValue config gateway entry.1 value

def deletions (current : ManagedConfigSnapshot) : OrderedSet String :=
  .ofList ((config.entries.entries.filter (fun entry =>
    entry.2.isNone && (current.values.lookup entry.1).any Option.isSome)).map (fun entry =>
      (ofLex entry.1).1))

/-- Brings the managed settings to their desired values and tells whether it wrote. -/
def reconcileConfig : ReconcileProgram Bool := do
  refresh config gateway
  (deletions config (← FallibleProgram.read).current).toList.forM (removeSettings config gateway)
  config.entries.entries.forM (setSetting config gateway)
  let last ← readConfig config gateway
  if configMatches last config then return (← FallibleProgram.read).changed
  else throw "managed configuration batch readback failed"

end

end ManagedConfigFile

end RackManagement
