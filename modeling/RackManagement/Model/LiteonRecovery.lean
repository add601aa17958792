import RackManagement.Library.Json
import RackManagement.Library.Session
import RackManagement.Model.JobState

/-!
# Recovery of a LiteOn all-PSU update

The poll of `liteon_recovery.rs` with the readings of `powershelf_rftarget.rs`. Each reply comes
with the instant at which the poll goes on, and the timeout of a step may strike at any wait.
-/

namespace RackManagement

open Library

def secs (n : Nat) : Duration := n * 1000000000

def stepTimeout : Duration := secs 60

def pmcOfflineTimeout : Duration := secs (30 * 60)

def repushSettleTime : Duration := secs 300

def liteonPsuUpdateTimeout : Duration := secs 3600

/-- The requests that the recovery sends to the controller. -/
inductive LiteonRequest
  | trackedTask (taskId : String)
  | taskCollection
  | listedTask (uri : String)
  | powerUnits
  | powerUnit (deviceId : String)
  | updateService
  | upload (uri : String)
deriving DecidableEq

/-- A body that is not JSON is missing. `timedOut` drops the step that waits. -/
inductive LiteonReply
  | transportError
  | response (status : Nat) (body : Option Json)
  | uploaded (accepted : Bool) (response : Json)
  | timedOut

namespace Liteon

def lastSegment (uri : String) : String := (splitAll '/' (trimEndMatches '/' uri)).getLastD ""

def isAsciiDigit (c : Char) : Bool := 48 ≤ c.toNat && c.toNat ≤ 57

def deviceIdFromMemberUri (uri : String) : Option String :=
  (stripStart "powerdevice" (lastSegment uri)).filter (fun id => id != "" && id.toList.all isAsciiDigit)

def parseVersionPart (part : String) : Option Nat :=
  let trimmed := trim part
  let hex := ((stripStart "0x" trimmed).orElse (fun _ => stripStart "0X" trimmed)).getD trimmed
  hexByte hex

def parseVersionPair (version : String) : Option (Nat × Nat) :=
  match splitAll '/' version with
  | [first, second] => do
    let first ← parseVersionPart (trim first)
    let second ← parseVersionPart (trim second)
    return (first, second)
  | _ => none

def fileName (path : String) : Option String :=
  ((splitAll '/' path).filter (fun part => part != "" && part != ".")).getLast?.filter (fun part =>
    part != "..")

def underscoreModelTokens : Nat := 3

def packageToken (part : String) : Option (Nat × Nat) :=
  match part.toList with
  | [a, b, c, d] => do
    let a ← hexDigit a
    let b ← hexDigit b
    let c ← hexDigit c
    let d ← hexDigit d
    return (a * 16 + b, c * 16 + d)
  | _ => none

def packageTargetVersion (updateFile : String) : Option (Nat × Nat) := do
  let filename ← fileName updateFile
  let skip := if startsWith "sp_" (toAsciiLowercase filename) then underscoreModelTokens else 0
  ((splitAll '_' filename).drop skip).findSome? packageToken

def hexUpper (n : Nat) : Char := Char.ofNat (if n < 10 then 48 + n else 55 + n)

def targetVersionLabel (target : Nat × Nat) : String :=
  String.ofList
    [hexUpper (target.1 / 16), hexUpper (target.1 % 16), hexUpper (target.2 / 16), hexUpper (target.2 % 16)]

def statusIsFailure (value : Option String) : Bool :=
  value.any (fun value =>
    ["critical", "error", "exception", "failed", "failure", "cancelled", "canceled", "disabled",
      "warning"].contains (toAsciiLowercase (trim value)))

def responseMatchesTarget (psu : Json) (target : Nat × Nat) : Bool :=
  ((psu.getStr "Version").bind parseVersionPair).any (fun version => version == target)

def statusIsNonFailure (psu : Json) : Bool :=
  (psu.get "error").isNone && !statusIsFailure (psu.getStr "state") &&
    !statusIsFailure (psu.getStr "status")

def responseReadyAtTarget (psu : Json) (target : Nat × Nat) : Bool :=
  responseMatchesTarget psu target && statusIsNonFailure psu &&
    (psu.get "updateProgress").bind Json.asI64 == some 0

def taskIdFromRedfishPath (path : String) : Option String :=
  match (splitAll '/' (trimEndMatches '/' (trim path))).reverse with
  | taskId :: parent :: _ =>
    let taskId := trim taskId
    if toAsciiLowercase (trim parent) != "tasks" || taskId == "" then none else some taskId
  | _ => none

def taskIdFromUpdateResponse (response : Json) : Option String :=
  match ((response.getStr "Id").map trim).filter (fun id => id != "") with
  | some id => some id
  | none =>
    match (response.getStr "@odata.id").bind taskIdFromRedfishPath with
    | some id => some id
    | none =>
      ((response.get "Messages").bind Json.asArray).bind (fun messages =>
        messages.findSome? (fun message =>
          ((message.get "MessageArgs").bind Json.asArray).bind (fun args =>
            (args.filterMap Json.asStr).findSome? taskIdFromRedfishPath)))

end Liteon

inductive RecoveryPhase
  | pollTask
  | validate
deriving DecidableEq

abbrev PollResult := Bool × Json

structure PendingPush where
  uri : String
  unknownOutcome : PollResult

structure RecoveryState where
  phase : RecoveryPhase
  taskId : String
  deadline : Instant
  offlineSince : Option Instant
  idleSince : Option Instant
  attempts : Nat
  lastTask : Json
  lastValidation : Json
  terminal : Option Json
  blockedBy : Option String
  pendingPush : Option PendingPush

namespace RecoveryState

def new (taskId : String) (started : Instant) : RecoveryState where
  phase := .pollTask
  taskId := taskId
  deadline := started + liteonPsuUpdateTimeout
  offlineSince := none
  idleSince := none
  attempts := 0
  lastTask := .object []
  lastValidation := .object []
  terminal := none
  blockedBy := none
  pendingPush := none

variable (s : RecoveryState)

def annotate (originalTaskId : String) (details : Json) : Json :=
  ((details.insert "Id" (.string originalTaskId)).insert "monitored_task_id" (.string s.taskId)).insert
    "repush_attempts" (.integer s.attempts)

def running (originalTaskId : String) : Json :=
  s.annotate originalTaskId (.object
    [("TaskState", .string "Running"), ("TaskStatus", .string "OK"),
      ("stage", .string "liteon_psu_all_recovery"),
      ("PercentComplete", (s.lastTask.get "PercentComplete").getD (.integer 0)),
      ("Messages", (s.lastTask.get "Messages").getD (.array [])), ("task", s.lastTask),
      ("devices", (s.lastValidation.get "devices").getD (.array [])),
      ("mismatched", (s.lastValidation.get "mismatched").getD (.array [])),
      ("blocked_by", .ofOption (s.blockedBy.map .string))])

def finish (originalTaskId : String) (details : Json) : PollResult × RecoveryState :=
  let details := s.annotate originalTaskId details
  ((true, details), { s with terminal := some details })

def fail (originalTaskId message : String) : PollResult × RecoveryState :=
  s.finish originalTaskId (.object
    [("TaskState", .string "Exception"), ("TaskStatus", .string "Critical"),
      ("stage", .string "liteon_psu_all_recovery"),
      ("Messages",
        .array [.object [("Message", .string message), ("MessageSeverity", .string "Critical")]]),
      ("validation", s.lastValidation)])

def deadlineMessage : String :=
  match s.blockedBy with
  | some task =>
    "All-PSU update exceeded its one-hour deadline while PMC task " ++ task ++ " was still active"
  | none => "All-PSU update exceeded its one-hour deadline"

def expired (now : Instant) (id : String) : Option (PollResult × RecoveryState) :=
  if now ≥ s.deadline then some (s.fail id s.deadlineMessage)
  else if s.offlineSince.any (fun since => now - since ≥ pmcOfflineTimeout) then
    some (s.fail id "PMC did not recover within 30 minutes")
  else none

def unavailable (now : Instant) (id : String) (started : Instant) : PollResult × RecoveryState :=
  let s := { s with offlineSince := some (s.offlineSince.getD started), idleSince := none }
  (s.expired now id).getD ((true, s.running id), s)

end RecoveryState

def reportedVersions (validation : Json) : List (String × String) :=
  (((validation.get "devices").bind Json.asArray).getD []).filterMap (fun device => do
    let id ← device.getStr "device_id"
    let version ← device.getStr "version"
    return (id, trim version))

/-- The first read is never a change. Of two entries for one device the map keeps the last. -/
def psuVersionsChanged (previous current : Json) : Bool :=
  let before := (reportedVersions previous).reverse
  let after := (reportedVersions current).reverse
  !before.isEmpty && !(before ++ after).all (fun entry => before.lookup entry.1 == after.lookup entry.1)

def slots : List String := ["1", "2", "3", "4", "5", "6"]

namespace DeviceEntry

def make (deviceId : String) (psu : Json) (target : Nat × Nat) : Json :=
  .object [("device_id", .string deviceId), ("version", .ofOption (psu.get "Version")),
    ("state", .ofOption (psu.get "state")), ("status", .ofOption (psu.get "status")),
    ("updateProgress", .ofOption (psu.get "updateProgress")),
    ("at_target", .bool (Liteon.responseReadyAtTarget psu target))]

variable (device : Json)

def isFailed : Bool :=
  Liteon.statusIsFailure (device.getStr "state") || Liteon.statusIsFailure (device.getStr "status")

def isUnreadable : Bool :=
  (device.get "error").isSome || ((device.getStr "version").bind Liteon.parseVersionPair).isNone ||
    ((device.get "updateProgress").bind Json.asU64).isNone ||
    (device.getStr "state").all (fun value => trim value == "") ||
    (device.getStr "status").all (fun value => trim value == "")

def isIdle : Bool := (device.get "updateProgress").bind Json.asU64 == some 0

def isAtTarget : Bool := (device.get "at_target").bind Json.asBool == some true

end DeviceEntry

namespace RecoveryState

variable (s : RecoveryState)

def followTask (id : String) (details : Json) : PollResult × RecoveryState :=
  match details.getStr "TaskState" with
  | none => s.fail id "Task response has no TaskState"
  | some taskState =>
    if ["Killed", "Cancelled", "Canceled"].contains taskState then s.finish id details
    else
      let ended := ["Completed", "Exception", "Failed", "Interrupted"].contains taskState
      let s := { s with lastTask := details, offlineSince := none, idleSince := none }
      if !ended then ((true, s.running id), s)
      else
        let s := { s with offlineSince := none, phase := .validate }
        ((true, s.running id), s)

def taskVanished (id : String) (blocker : Option String) : PollResult × RecoveryState :=
  let s :=
    match blocker with
    | some _ => { s with blockedBy := blocker, offlineSince := none, idleSince := none }
    | none => { s with blockedBy := none, offlineSince := none, phase := .validate }
  ((true, s.running id), s)

/-- A version that changed since the previous read restarts the settle clock. -/
def recordValidation (validation : Json) : RecoveryState :=
  { s with
    lastValidation := validation
    idleSince := if psuVersionsChanged s.lastValidation validation then none else s.idleSince }

def sixSlotsMessage : String := "Cannot verify all six PSU inventory entries; no package was re-pushed"

def judge (now : Instant) (id : String) (validation : Json) : Option (PollResult × RecoveryState) :=
  match (validation.get "devices").bind Json.asArray with
  | none => some (s.finish id validation)
  | some devices =>
    if devices.length ≠ 6 ∨
      !slots.all (fun slot => devices.any (fun device => device.getStr "device_id" == some slot)) then
      some (s.fail id sixSlotsMessage)
    else if devices.any DeviceEntry.isFailed then
      some (s.fail id "A PSU reports a failed state or status; no package was re-pushed")
    else if devices.any DeviceEntry.isUnreadable then some (s.unavailable now id now)
    else
      let idle := devices.all DeviceEntry.isIdle
      let lagging := devices.countP (fun device => !DeviceEntry.isAtTarget device)
      if idle && lagging == 0 then some (s.finish id validation)
      else if !idle then
        let s := { s with offlineSince := none, idleSince := none, phase := .pollTask }
        some ((true, s.running id), s)
      else none

def repushBlocked (id blocker : String) : PollResult × RecoveryState :=
  let s := { s with blockedBy := some blocker, offlineSince := none, idleSince := none, phase := .pollTask }
  ((true, s.running id), s)

/-- An upload is considered once the shelf has settled; an indeterminate result is recorded before it is sent. -/
def repush (now : Instant) (id : String) (status : Nat) (service : Json) :
    PollResult × RecoveryState :=
  let idleSince := s.idleSince.getD now
  let s := { s with blockedBy := none, idleSince := some idleSince }
  if now - idleSince < repushSettleTime then
    let s := { s with offlineSince := none, phase := .pollTask }
    ((true, s.running id), s)
  else
    match s.expired now id with
    | some expired => expired
    | none =>
      match (service.getStr "HttpPushUri").filter (fun uri => uri != "" && status == 200) with
      | none => s.fail id "UpdateService did not advertise HttpPushUri; no package was re-pushed"
      | some uri =>
        let s := { s with attempts := s.attempts + 1 }
        let (unknownOutcome, s) :=
          s.fail id "Re-push outcome is unknown; automatic recovery stopped to avoid a duplicate upload"
        let s := { s with pendingPush := some { uri, unknownOutcome } }
        ((true, s.running id), s)

def accepted (id taskId : String) (response : Json) : PollResult × RecoveryState :=
  let s := { s with
    taskId := taskId
    phase := .pollTask
    offlineSince := none
    idleSince := none
    lastTask := response
    terminal := none }
  ((true, s.running id), s)

def stepBudget (started : Instant) : Duration :=
  let offlineRemaining :=
    match s.offlineSince with
    | none => stepTimeout
    | some since => pmcOfflineTimeout - (started - since)
  min (min stepTimeout (s.deadline - started)) offlineRemaining

end RecoveryState

/-- The recovery state that the lock guards, and the clock. -/
structure PollState where
  recovery : RecoveryState
  now : Instant

abbrev LiteonAnswer := Instant × LiteonReply

abbrev LiteonExchange := LiteonRequest × LiteonAnswer

abbrev Poll := Program PollState LiteonRequest LiteonAnswer

/-- A step ends early with a result, or its timeout drops it. -/
inductive StepExit
  | result (result : PollResult)
  | timedOut

namespace Poll

def now : Poll Instant := .transact (fun s => (s.now, s))

def recovery : Poll RecoveryState := .transact (fun s => (s.recovery, s))

def send (request : LiteonRequest) : Poll LiteonReply :=
  .ask request (fun answer s => (answer.2, { s with now := answer.1 }))

def conclude {α : Type} (f : RecoveryState → Instant → α × RecoveryState) : Poll α :=
  .transact (fun s => ((f s.recovery s.now).1, { s with recovery := (f s.recovery s.now).2 }))

def finishStep (f : RecoveryState → Instant → PollResult × RecoveryState) :
    Poll (Except StepExit PollResult) := do
  let result ← conclude f
  return .ok result

def isOutage (status : Nat) : Bool := status ≥ 500 || [401, 403, 408, 429].contains status

def wellFormed (body : Option Json) : Option Json :=
  body.filter (fun body => body.isObject && (body.get "error").isNone)

def stopped {α : Type} (ended : PollResult × RecoveryState) : Except StepExit α × RecoveryState :=
  (.error (.result ended.1), ended.2)

/-- What a read makes of the reply. Outages share one budget; malformed data ends the
recovery. -/
def receive (s : RecoveryState) (id : String) (allowMissing : Bool) (started now : Instant) :
    LiteonReply → Except StepExit (Nat × Json) × RecoveryState
  | .timedOut => (.error .timedOut, s)
  | .response status body =>
    if isOutage status then stopped (s.unavailable now id started)
    else if status = 404 ∧ allowMissing then (.ok (status, .object []), s)
    else if status ≠ 200 then
      stopped (s.fail id
        ("Recovery read returned HTTP " ++ toString status ++ "; no package was re-pushed"))
    else
      match wellFormed body with
      | some body => (.ok (status, body), s)
      | none => stopped (s.fail id "Recovery read returned malformed data; no package was re-pushed")
  | _ => stopped (s.unavailable now id started)

def recoveryGet (request : LiteonRequest) (id : String) (allowMissing : Bool) :
    Poll (Except StepExit (Nat × Json)) := do
  let started ← now
  let reply ← send request
  conclude (fun s now => receive s id allowMissing started now reply)

def isFinished (taskState : String) : Bool :=
  ["Completed", "Exception", "Killed", "Cancelled", "Canceled", "Failed"].contains taskState

/-- The list may go on elsewhere. -/
def isTruncated (tasks : Json) (members : List Json) : Bool :=
  (tasks.get "Members@odata.nextLink").isSome || (tasks.get "@odata.nextLink").isSome ||
    ((tasks.get "Members@odata.count").bind Json.asU64).any (fun count => count != members.length)

def memberLabel (member : Json) : String :=
  ((member.getStr "@odata.id").map Liteon.lastSegment).getD "(unidentified)"

def blockingMember (id : String) : List Json → Poll (Except StepExit (Option String))
  | [] => return .ok none
  | member :: members =>
    match member.getStr "TaskState" with
    | some taskState =>
      if isFinished taskState then blockingMember id members else return .ok (some (memberLabel member))
    | none =>
      match member.getStr "@odata.id" with
      | none => return .ok (some (memberLabel member))
      | some uri => do
        match ← recoveryGet (.listedTask uri) id true with
        | .error exit => return .error exit
        | .ok (status, task) =>
          if status = 404 ∨ (task.getStr "TaskState").any isFinished then blockingMember id members
          else return .ok (some (memberLabel member))

def blockingTask (id : String) : Poll (Except StepExit (Option String)) := do
  match ← recoveryGet .taskCollection id false with
  | .error exit => return .error exit
  | .ok (_, tasks) =>
    match (tasks.get "Members").bind Json.asArray with
    | none => conclude (fun s _ =>
      stopped (s.fail id "Task collection has no Members array; no package was re-pushed"))
    | some members =>
      if isTruncated tasks members then return .ok (some "(task list is paginated)")
      else blockingMember id members

def readDevices (id : String) (target : Nat × Nat) :
    List String → List Json → Poll (Except StepExit (List Json))
  | [], devices => return .ok devices
  | deviceId :: deviceIds, devices => do
    match ← recoveryGet (.powerUnit deviceId) id false with
    | .error exit => return .error exit
    | .ok (_, psu) => readDevices id target deviceIds (devices ++ [DeviceEntry.make deviceId psu target])

variable (collection : Json)

def collectionMembers : Option (List Json) := (collection.get "Members").bind Json.asArray

def collectionIds : List String :=
  ((collectionMembers collection).getD []).filterMap (fun member =>
    (member.getStr "@odata.id").bind Liteon.deviceIdFromMemberUri)

/-- The collection names the six slots and nothing else. -/
def namesSixSlots : Bool :=
  (collectionMembers collection).any (fun members => members.length == 6) &&
    (collectionIds collection).length == 6 &&
    slots.all (fun slot => (collectionIds collection).contains slot) &&
    (collection.get "Members@odata.nextLink").isNone

def validationReport (devices : List Json) (target : Nat × Nat) : Json :=
  .object [("TaskState", .string "Completed"), ("TaskStatus", .string "OK"),
    ("PercentComplete", .integer 100),
    ("stage", .string "liteon_psu_all_validation"), ("devices", .array devices),
    ("expected", .string (Liteon.targetVersionLabel target))]

def validation (id : String) (target : Nat × Nat) : Poll (Except StepExit Json) := do
  match ← recoveryGet .powerUnits id false with
  | .error exit => return .error exit
  | .ok (_, collection) =>
    if !namesSixSlots collection then conclude (fun s _ =>
      stopped (s.fail id RecoveryState.sixSlotsMessage))
    else do
      match ← readDevices id target (collectionIds collection) [] with
      | .error exit => return .error exit
      | .ok devices => return .ok (validationReport devices target)

def pollTaskPhase (id : String) : Poll (Except StepExit PollResult) := do
  let s ← recovery
  match ← recoveryGet (.trackedTask s.taskId) id true with
  | .error exit => return .error exit
  | .ok (status, details) =>
    if status = 404 then do
      match ← blockingTask id with
      | .error exit => return .error exit
      | .ok blocker => finishStep (fun s _ => s.taskVanished id blocker)
    else finishStep (fun s _ => s.followTask id details)

def repushPackage (id : String) : Poll (Except StepExit PollResult) := do
  match ← recoveryGet .updateService id false with
  | .error exit => return .error exit
  | .ok (status, service) =>
    match ← blockingTask id with
    | .error exit => return .error exit
    | .ok (some blocker) => finishStep (fun s _ => s.repushBlocked id blocker)
    | .ok none => finishStep (fun s now => s.repush now id status service)

def assess (id : String) (validation : Json) : Poll (Option PollResult) :=
  conclude (fun s now =>
    let s := s.recordValidation validation
    match s.judge now id validation with
    | some (result, s) => (some result, s)
    | none => (none, s))

def cannotDetermineMessage : String :=
  "Cannot determine the PSU package version; automatic re-push is disabled"

def validatePhase (id updateFile : String) : Poll (Except StepExit PollResult) :=
  match Liteon.packageTargetVersion updateFile with
  | none => finishStep (fun s _ => s.fail id cannotDetermineMessage)
  | some target => do
    match ← validation id target with
    | .error exit => return .error exit
    | .ok validation => do
      match ← assess id validation with
      | some result => return .ok result
      | none => repushPackage id

def recoveryStep (id updateFile : String) : Poll (Except StepExit PollResult) := do
  let s ← recovery
  match s.phase with
  | .pollTask => pollTaskPhase id
  | .validate => validatePhase id updateFile

def dispatchRepush (id : String) (push : PendingPush) : Poll PollResult := do
  let reply ← send (.upload push.uri)
  match reply with
  | .uploaded true response =>
    match (Liteon.taskIdFromUpdateResponse response).filter (fun taskId => taskId != "") with
    | some taskId => conclude (fun s _ => s.accepted id taskId response)
    | none => return push.unknownOutcome
  | _ => return push.unknownOutcome

/-- A step that timed out counts as an outage, unless it had already ended the recovery. -/
def stepTimedOut (id : String) (started : Instant) : Poll PollResult :=
  conclude (fun s now =>
    match s.terminal with
    | some terminal => ((true, terminal), s)
    | none => s.unavailable now id started)

def afterStep (id : String) (result : PollResult) : Poll PollResult := do
  let push ← conclude (fun s _ => (s.pendingPush, { s with pendingPush := none }))
  match push with
  | some push => dispatchRepush id push
  | none => return result

def afterOutcome (id : String) (started : Instant) : Except StepExit PollResult → Poll PollResult
  | .error .timedOut => stepTimedOut id started
  | .error (.result result) => afterStep id result
  | .ok result => afterStep id result

def poll (updateFile id : String) : Poll PollResult := do
  let s ← recovery
  match s.terminal with
  | some terminal => return (true, terminal)
  | none => do
    let started ← now
    match s.expired started id with
    | some expired => conclude (fun _ _ => expired)
    | none => do
      let outcome ← recoveryStep id updateFile
      afterOutcome id started outcome

def contended (id : String) : PollResult :=
  (true, .object [("Id", .string id), ("TaskState", .string "Running"), ("TaskStatus", .string "OK"),
    ("stage", .string "liteon_psu_all_recovery"),
    ("Messages", .array [.object [("Message", .string "Another poll is advancing this update")]])])

end Poll

structure PollCall where
  instant : Instant
  originalTaskId : String

abbrev LiteonSession := Session PollState LiteonRequest LiteonAnswer PollResult

abbrev LiteonEvent := SessionEvent PollCall LiteonAnswer

namespace LiteonSession

/-- The clock never goes back. -/
def arrive (call : PollCall) (s : PollState) : Option PollState :=
  if s.now ≤ call.instant then some { s with now := call.instant } else none

def allowed (s : PollState) (_ : LiteonRequest) (answer : LiteonAnswer) : Prop := s.now ≤ answer.1

instance (s : PollState) (q : LiteonRequest) (answer : LiteonAnswer) : Decidable (allowed s q answer) :=
  inferInstanceAs (Decidable (s.now ≤ answer.1))

def new (taskId : String) (started : Instant) : LiteonSession where
  state := { recovery := .new taskId started, now := started }
  active := none
  records := []
  contended := []

/-- One event of the session: a poll arrives, gets an answer or is dropped. -/
def step (updateFile : String) : LiteonSession → LiteonEvent → Option LiteonSession :=
  Session.step (fun call => Poll.poll updateFile call.originalTaskId) arrive
    (fun call => Poll.contended call.originalTaskId) allowed

end LiteonSession

end RackManagement
