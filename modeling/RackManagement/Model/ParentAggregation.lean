import RackManagement.Model.JobState

/-!
# Aggregation of a parent from its children

The counting of `refresh_parent_state` and the payloads with which a parent is sealed.
-/

namespace RackManagement

def JobError.debugName : JobError → String
  | .unspecified => "Unspecified"
  | .internal => "Internal"
  | .other => "Other"
  | .invalidArgument => "InvalidArgument"
  | .failedPrecondition => "FailedPrecondition"
  | .clientError => "ClientError"
  | .serverError => "ServerError"
  | .timeout => "Timeout"
  | .invalidResponse => "InvalidResponse"
  | .unauthenticated => "Unauthenticated"
  | .targetNotFound => "TargetNotFound"
  | .fileNotFound => "FileNotFound"
  | .updateInProgress => "UpdateInProgress"

structure FailedChild where
  jobId : String
  nodeId : String
  errorCode : JobError
  errorMessage : String
  resultJson : String
deriving DecidableEq

structure ParentCounts where
  total : Nat
  completed : Nat
  failed : Nat
  running : Nat
  queued : Nat
  missing : Nat
  failedChildren : List FailedChild
deriving DecidableEq

def snapshotPayload : JobLifecycleState → JobError × String × String
  | .failed _ failure message resultJson => (failure, message, resultJson)
  | .completed _ resultJson => (.unspecified, "", resultJson)
  | _ => (.unspecified, "", "")

def failedChild (child : JobSnapshot) : FailedChild :=
  let (errorCode, errorMessage, resultJson) := snapshotPayload child.state
  ⟨child.jobId.value, child.nodeId, errorCode, errorMessage, resultJson⟩

def countFragment (count : Nat) (label : String) : String :=
  if count > 0 then ", " ++ toString count ++ " " ++ label else ""

def missingJobsSuffix (missing : Nat) : String :=
  if missing > 0 then " (" ++ toString missing ++ " jobs missing)" else ""

namespace ParentCounts

def start (total : Nat) : ParentCounts := ⟨total, 0, 0, 0, 0, 0, []⟩

variable (counts : ParentCounts)

def done : Nat := counts.completed + counts.failed + counts.missing

def runningDescription (jobType : JobType) : String :=
  "Batch " ++ jobType.batchNoun ++ " in progress (" ++ toString counts.done ++ "/" ++
    toString counts.total ++ " complete" ++ countFragment counts.running "running" ++
    countFragment counts.queued "queued" ++ ")"

def countChild (child : JobSnapshot) : ParentCounts :=
  match child.state with
  | .completed _ _ => { counts with completed := counts.completed + 1 }
  | .failed _ _ _ _ =>
    { counts with failed := counts.failed + 1, failedChildren := counts.failedChildren ++
      [failedChild child] }
  | .running _ => { counts with running := counts.running + 1 }
  | .queued _ => { counts with queued := counts.queued + 1 }

def readChild : Option JobSnapshot → ParentCounts
  | none => { counts with missing := counts.missing + 1 }
  | some child => counts.countChild child

end ParentCounts

def collectParentCounts (get : JobId → Option JobSnapshot) (childIds : List JobId) : ParentCounts :=
  childIds.foldl (fun counts childId => counts.readChild (get childId)) (ParentCounts.start childIds.length)

structure FirmwareChildResultTarget where
  component : String
  firmwareFile : String
deriving DecidableEq

structure FirmwareChildResultRedfish where
  code : Option String
  message : Option String
  severity : Option String
  resolution : Option String
deriving DecidableEq

structure FirmwareChildResult where
  status : Option String
  phase : Option String
  errorCode : Option String
  errorMessage : Option String
  summaryText : Option String
  target : Option FirmwareChildResultTarget
  targetId : Option String
  redfish : Option FirmwareChildResultRedfish
  rawError : Option String
deriving DecidableEq

namespace FirmwareChildResult

def isEmpty (result : FirmwareChildResult) : Bool :=
  result.status.isNone && result.phase.isNone && result.errorCode.isNone && result.errorMessage.isNone &&
    result.summaryText.isNone && result.target.isNone && result.targetId.isNone &&
    result.redfish.isNone && result.rawError.isNone

def summary (result : FirmwareChildResult) : Option String := result.summaryText.or result.errorMessage

end FirmwareChildResult

structure FirmwareFailedChildDetail where
  jobId : String
  nodeId : String
  errorCode : String
  errorMessage : String
  summary : Option String
  result : Option FirmwareChildResult
  rawResultJson : Option String
deriving DecidableEq

structure SwitchFailedChildDetail where
  jobId : String
  nodeId : String
  errorMessage : String
deriving DecidableEq

structure ParentFailureResult (δ : Type) where
  completed : Nat
  failed : Nat
  missing : Nat
  total : Nat
  failedJobs : List δ

/-- The JSON serializer and parser, as far as job results use them. A serializer failure is
the empty text. -/
structure ResultCodec where
  firmwareParentFailure : ParentFailureResult FirmwareFailedChildDetail → String
  switchParentFailure : ParentFailureResult SwitchFailedChildDetail → String
  parseChildResult : String → Option FirmwareChildResult
  parseStatus : String → Option (Option String)

section Sealing

variable (codec : ResultCodec)

def resultIsAlreadyUpToDate (resultJson : String) : Bool :=
  codec.parseStatus resultJson == some (some "already_up_to_date")

def parseChildResult (resultJson : String) :
    Option String × Option FirmwareChildResult × Option String :=
  if resultJson = "" then (none, none, none)
  else
    match (codec.parseChildResult resultJson).filter (fun result => !result.isEmpty) with
    | some result => (result.summary, some result, none)
    | none => (none, none, some resultJson)

def firmwareFailedChildDetail (child : FailedChild) : FirmwareFailedChildDetail :=
  let (summary, result, rawResultJson) := parseChildResult codec child.resultJson
  ⟨child.jobId, child.nodeId, child.errorCode.debugName, child.errorMessage, summary, result, rawResultJson⟩

def switchFailedChildDetail (child : FailedChild) : SwitchFailedChildDetail :=
  ⟨child.jobId, child.nodeId, child.errorMessage⟩

def parentFailureResultJson (jobType : JobType) (counts : ParentCounts) : String :=
  match jobType with
  | .firmwareUpdate => codec.firmwareParentFailure
    ⟨counts.completed, counts.failed, counts.missing, counts.total,
      counts.failedChildren.map (firmwareFailedChildDetail codec)⟩
  | _ => codec.switchParentFailure
    ⟨counts.completed, counts.failed, counts.missing, counts.total,
      counts.failedChildren.map switchFailedChildDetail⟩

def parentFailure (counts : ParentCounts) (jobType : JobType) : JobFailure :=
  let description := "Batch complete: " ++ toString counts.completed ++ "/" ++ toString counts.total ++
    " succeeded, " ++ toString counts.failed ++ " failed" ++ countFragment counts.missing "missing"
  let message := toString (counts.failed + counts.missing) ++ " of " ++ toString counts.total ++ " " ++
    jobType.batchNounPlural ++ " failed" ++ missingJobsSuffix counts.missing
  ((JobFailure.new .other message).withDescription description).withResultJson
    (parentFailureResultJson codec jobType counts)

def completionDescription (total skipped : Nat) (jobType : JobType) : String :=
  if skipped = total then "All " ++ toString total ++ " nodes already up to date"
  else if skipped > 0 then
    toString (total - skipped) ++ "/" ++ toString total ++ " " ++ jobType.batchNounPlural ++
      " applied, " ++ toString skipped ++ " already up to date"
  else "All " ++ toString total ++ " " ++ jobType.batchNounPlural ++ " completed successfully"

/-- Whether a lookup of `count_skipped_children` finds a child that had nothing to do. -/
def isSkippedChild (child : Option JobSnapshot) : Bool :=
  child.any (fun child => resultIsAlreadyUpToDate codec (snapshotPayload child.state).2.2)

end Sealing

end RackManagement
