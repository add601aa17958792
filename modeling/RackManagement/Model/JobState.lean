import RackManagement.Library.IpAddr

/-!
# Jobs

The data of `orchestrator/job_lifecycle`. Spans, cancellation tokens and wall-clock times are left
out; instants are ticks of the monotonic clock.
-/

namespace RackManagement

open Library

structure JobId where
  value : String
deriving DecidableEq

abbrev Instant := Nat

/-- A span of monotonic time, in the ticks of `Instant`. -/
abbrev Duration := Nat

inductive JobError
  | unspecified | internal | other | invalidArgument | failedPrecondition | clientError
  | serverError | timeout | invalidResponse | unauthenticated | targetNotFound | fileNotFound
  | updateInProgress
deriving DecidableEq

def JobError.metricsLabel : JobError → String
  | .unspecified => "unspecified"
  | .internal => "internal"
  | .other => "other"
  | .invalidArgument => "invalid_argument"
  | .failedPrecondition => "failed_precondition"
  | .clientError => "client_error"
  | .serverError => "server_error"
  | .timeout => "timeout"
  | .invalidResponse => "invalid_response"
  | .unauthenticated => "unauthenticated"
  | .targetNotFound => "target_not_found"
  | .fileNotFound => "file_not_found"
  | .updateInProgress => "update_in_progress"

inductive JobType
  | firmwareUpdate | switchCertificate | switchMtlsDisable | switchSdnFactoryDefaultReset
  | switchFactoryDefaultReset | switchSystemPasswordUpdate | switchSystemImageUpdate
  | configureScaleUpFabricManagerV2 | coldRebootSequence | systemValidation
deriving DecidableEq

namespace JobType

def batchNoun : JobType → String
  | firmwareUpdate => "firmware update"
  | switchCertificate => "switch certificate install"
  | switchMtlsDisable => "switch mTLS disable"
  | switchSdnFactoryDefaultReset => "switch SDN factory-default reset"
  | switchFactoryDefaultReset => "switch factory-default reset"
  | switchSystemPasswordUpdate => "switch system password update"
  | switchSystemImageUpdate => "switch system image update"
  | configureScaleUpFabricManagerV2 => "scale-up fabric configuration"
  | coldRebootSequence => "cold reboot"
  | systemValidation => "system validation"

def batchNounPlural : JobType → String
  | firmwareUpdate => "firmware updates"
  | switchCertificate => "switch certificate installs"
  | switchMtlsDisable => "switch mTLS disables"
  | switchSdnFactoryDefaultReset => "switch SDN factory-default resets"
  | switchFactoryDefaultReset => "switch factory-default resets"
  | switchSystemPasswordUpdate => "switch system password updates"
  | switchSystemImageUpdate => "switch system image updates"
  | configureScaleUpFabricManagerV2 => "scale-up fabric configurations"
  | coldRebootSequence => "cold reboots"
  | systemValidation => "system validations"

end JobType

/-- Payload of a failed job. The error is represented by the code that `job_error_of`
recovers from it. -/
structure JobFailure where
  error : JobError
  description : String
  message : String
  resultJson : Option String
deriving DecidableEq

namespace JobFailure

def new (error : JobError) (message : String) : JobFailure := ⟨error, "Failed", message, none⟩

def withDescription (failure : JobFailure) (description : String) : JobFailure :=
  { failure with description := description }

def withResultJson (failure : JobFailure) (resultJson : String) : JobFailure :=
  { failure with resultJson := some resultJson }

end JobFailure

inductive JobLifecycleState
  | queued (description : String)
  | running (description : String)
  | completed (description resultJson : String)
  | failed (description : String) (failure : JobError) (message resultJson : String)
deriving DecidableEq

namespace JobLifecycleState

def isQueued : JobLifecycleState → Bool
  | queued _ => true
  | _ => false

def isRunning : JobLifecycleState → Bool
  | running _ => true
  | _ => false

def isCompleted : JobLifecycleState → Bool
  | completed _ _ => true
  | _ => false

def isFailed : JobLifecycleState → Bool
  | failed _ _ _ _ => true
  | _ => false

def isTerminal : JobLifecycleState → Bool
  | completed _ _ => true
  | failed _ _ _ _ => true
  | _ => false

end JobLifecycleState

def failedState (failure : JobFailure) : JobLifecycleState :=
  .failed failure.description failure.error failure.message (failure.resultJson.getD "")

/-- An identity alias that must remain exclusive while a mutation is active. -/
inductive JobScope
  | logicalNode (rackId nodeId : String)
  | physicalSwitch (chassisSerialNumber : String) (trayIndex : UInt32)
  | endpoint (host : String) (port : UInt16)
deriving DecidableEq

namespace JobScope

def normalizeHost (host : String) : String :=
  let host := trimEndMatches ']' (trimStartMatches '[' (trim host))
  let zoned := do
    let (address, zone) ← splitOnce '%' host
    let address ← IpAddr.parseIpv6 address
    return IpAddr.toString (.v6 address) ++ "%" ++ zone
  match zoned with
  | some host => host
  | none =>
    match IpAddr.parse host with
    | some address => address.toCanonical.toString
    | none => toAsciiLowercase (trimEndMatches '.' host)

def normalized : JobScope → JobScope
  | endpoint host port => endpoint (normalizeHost host) port
  | physicalSwitch chassisSerialNumber trayIndex => physicalSwitch (trim chassisSerialNumber) trayIndex
  | logicalNode rackId nodeId => logicalNode rackId nodeId

end JobScope

structure JobDomain where
  droppedFailure : JobFailure
  atCapacityFailure : (current max : Nat) → JobFailure
  nodeBusyFailure : (rackId nodeId : String) → (activeJobId : JobId) → JobFailure
  scopeBusyFailure : JobScope → (ownerId : JobId) → JobFailure
  parentUnavailableFailure : (parentJobId : JobId) → JobFailure
  inactiveJobFailure : (jobId : JobId) → JobFailure := parentUnavailableFailure
  shuttingDownFailure : JobFailure
  shutdownFailure : JobFailure := droppedFailure

/-- The texts that the serializer and the debug formatter produce for job failures. -/
structure FailureText where
  debugScope : JobScope → String
  resultJson : JobError → (errorMessage : String) → String

def jobFailure (text : FailureText) (errorCode : JobError) (errorMessage : String) : JobFailure :=
  (JobFailure.new errorCode errorMessage).withResultJson (text.resultJson errorCode errorMessage)

def rmsJobDomain (text : FailureText) : JobDomain where
  droppedFailure :=
    (jobFailure text .internal "job abandoned before recording a terminal state").withDescription
      "Abandoned"
  atCapacityFailure current max := jobFailure text .internal
    ("job tracker at capacity (" ++ toString current ++ "/" ++ toString max ++
      " jobs); retry after in-flight jobs finish")
  nodeBusyFailure rackId nodeId activeJobId := jobFailure text .updateInProgress
    ("job already in progress for rack " ++ rackId ++ " node " ++ nodeId ++
      " (job_id " ++ activeJobId.value ++ ")")
  scopeBusyFailure scope ownerId := jobFailure text .updateInProgress
    ("mutation scope " ++ text.debugScope scope ++ " is occupied (owner_id " ++ ownerId.value ++ ")")
  parentUnavailableFailure parentJobId := jobFailure text .internal
    ("parent job " ++ parentJobId.value ++ " is missing, terminal, or already a child")
  inactiveJobFailure jobId := jobFailure text .internal
    ("job " ++ jobId.value ++ " is missing or terminal; mutation aliases cannot be admitted")
  shuttingDownFailure := jobFailure text .internal "server is shutting down; new jobs are not accepted"
  shutdownFailure :=
    (jobFailure text .other "job cancelled because the server is shutting down").withDescription "Cancelled"

structure JobSpec where
  rackId : String
  nodeId : String
  workflowType : Option JobType
  initialState : JobLifecycleState
deriving DecidableEq

namespace JobSpec

def new (rackId nodeId queuedDescription : String) : JobSpec :=
  ⟨rackId, nodeId, none, .queued queuedDescription⟩

def newParent (rackId runningDescription : String) : JobSpec :=
  ⟨rackId, "", none, .running runningDescription⟩

def withWorkflowType (spec : JobSpec) (workflowType : JobType) : JobSpec :=
  { spec with workflowType := some workflowType }

end JobSpec

structure JobSnapshot where
  jobId : JobId
  state : JobLifecycleState
  rackId : String
  nodeId : String
  updatedAtMono : Instant
  monoInversionWarned : Bool
  childJobIds : List JobId
  parentJobId : Option JobId
  workflowType : Option JobType
deriving DecidableEq

namespace JobSnapshot

def new (spec : JobSpec) (parentJobId : Option JobId) (jobId : JobId) (now : Instant) : JobSnapshot where
  jobId := jobId
  state := spec.initialState
  rackId := spec.rackId
  nodeId := spec.nodeId
  updatedAtMono := now
  monoInversionWarned := false
  childJobIds := []
  parentJobId := parentJobId
  workflowType := spec.workflowType

def isParent (job : JobSnapshot) : Bool := !job.childJobIds.isEmpty

def touch (job : JobSnapshot) (now : Instant) : JobSnapshot := { job with updatedAtMono := now }

end JobSnapshot

end RackManagement
