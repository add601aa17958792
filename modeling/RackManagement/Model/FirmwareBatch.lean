import RackManagement.Model.JobTracker
import RackManagement.Model.NodeSelectors
import RackManagement.Model.RmsError

/-!
# Admission of a firmware batch

The loop of `handle_batch_update_firmware_with_expected_versions` that admits the nodes of a batch, with
the refreshes of the batch parent that it runs. What the checks of a node find is part of the node. No
other call acts on the tracker while the loop runs.
-/

namespace RackManagement

open Library

namespace FirmwareBatch

/-- The registry and the parents whose handles are stored. -/
structure Tracker where
  registry : JobRegistry
  parentJobHandles : FiniteSet JobId

namespace Tracker

variable (codec : ResultCodec) (t : Tracker)

def update (jobId : JobId) (mark : JobMark) (now : Instant) : Tracker :=
  { t with registry := (t.registry.update jobId mark.transition now).2 }

def sealParent (parentId : JobId) (mark : JobMark) (now : Instant) : Tracker :=
  if parentId ∈ t.parentJobHandles then
    { t with parentJobHandles := t.parentJobHandles.erase parentId }.update parentId mark now
  else t

def terminalMark (childIds : List JobId) (counts : ParentCounts) (jobType : JobType) : JobMark :=
  if counts.failed > 0 || counts.missing > 0 then .failed (parentFailure codec counts jobType)
  else
    let skipped := childIds.countP (fun childId => isSkippedChild codec (t.registry.get childId))
    .completed (completionDescription counts.total skipped jobType) ""

def refreshParentState (parentId : JobId) (now : Instant) : Tracker :=
  match t.registry.get parentId with
  | none => t
  | some parent =>
    if !parent.isParent || parent.state.isTerminal then t
    else
      match parent.workflowType with
      | none => t
      | some jobType =>
        let counts := collectParentCounts t.registry.get parent.childJobIds
        if counts.total = 0 then t
        else if counts.done = counts.total then
          t.sealParent parentId (t.terminalMark codec parent.childJobIds counts jobType) now
        else t.update parentId (.running (counts.runningDescription jobType)) now

def refreshParentForChild (childId : JobId) (now : Instant) : Tracker :=
  match (t.registry.get childId).bind JobSnapshot.parentJobId with
  | none => t
  | some parentId => t.refreshParentState codec parentId now

end Tracker

/-- A node of the request: what each of its checks returns, the scopes of the device that is built for it,
and what the calls for it read from their environment. -/
structure BatchNode where
  rackId : String
  nodeId : String
  nodeType : Except String NodeType
  hasCredentials : Except String (NodeType → Bool)
  expectedInventory : Except String Unit
  recovery : Except String Unit
  built : Except String Unit
  nvueClient : Except String Unit
  switchScopes : Except String (List JobScope)
  inputs : CreateInputs
  cancelled : Bool
  now : Instant

/-- What the loop takes from the service and the request. `hasTargets` says for which node types firmware
targets were resolved, and `failureResult` is the message and the result text of a failed admission. -/
structure Service where
  text : FailureText
  codec : ResultCodec
  hasTargets : NodeType → Bool
  fabricOperation : List JobScope → Except RmsError Unit
  failureResult : JobError → String → String × String
  metadata : NodeType → ResultMetadata

/-- What the loop has built: the tracker, the jobs and the skipped nodes. -/
structure Batch where
  tracker : Tracker
  jobs : List (String × JobId)
  nodeResults : List (String × String)

def Batch.skip (batch : Batch) (tracker : Tracker) (nodeId message : String) : Batch :=
  { batch with tracker := tracker, nodeResults := batch.nodeResults ++ [(nodeId, message)] }

variable (service : Service)

def checkNode (node : BatchNode) : Except String NodeType := do
  let nodeType ← node.nodeType
  failIf (!service.hasTargets nodeType) s!"No firmware targets provided for node type {nodeType.asStr}"
  let hasCredentials ← node.hasCredentials
  let source := if nodeType.kind = .switch then "host" else "BMC"
  failIf (!hasCredentials nodeType) s!"Missing {source} credentials for node {node.nodeId}"
  node.expectedInventory
  node.recovery
  node.built.mapError (fun message => s!"Failed to construct node for type {nodeType.asStr}: {message}")
  node.nvueClient
  return nodeType

def fabricFailure (error : RmsError) : JobFailure :=
  let code :=
    match error.code with
    | .alreadyExists => JobError.updateInProgress
    | .invalidArgument => .invalidArgument
    | .cancelled => .other
    | _ => .internal
  JobFailure.new code error.message

def admitKnownSwitchJobScopes (r : JobRegistry) (jobId : JobId) (cancelled : Bool)
    (scopes : List JobScope) :
    Except JobFailure Unit × JobRegistry :=
  match r.reserveJobScopes (rmsJobDomain service.text) jobId scopes with
  | (.error failure, r) =>
    (.error (if cancelled then JobFailure.new .other
      "switch mutation cancelled before alias admission" else failure), r)
  | (.ok (), r) => ((service.fabricOperation scopes).mapError fabricFailure, r)

def admitFirmwareNodeForJob (r : JobRegistry) (jobId : JobId) (node : BatchNode) (nodeType : NodeType) :
    Except JobFailure Unit × JobRegistry :=
  if nodeType.kind ≠ .switch then (.ok (), r)
  else
    match node.switchScopes with
    | .error message => (.error (JobFailure.new .internal message), r)
    | .ok scopes => admitKnownSwitchJobScopes service r jobId node.cancelled scopes

def create (r : JobRegistry) (request : JobRequest) (inputs : CreateInputs) :
    Option (Except JobFailure JobSnapshot × JobRegistry) :=
  r.createJobWithScopes (rmsJobDomain service.text) request.spec request.parentJobId request.requireNodeIdle
    request.scopes inputs

/-- One pass of the loop. `none` means that the creation of the child does not return. -/
def admitNode (parentId : JobId) (batch : Batch) (node : BatchNode) : Option Batch :=
  match checkNode service node with
  | .error message => some (batch.skip batch.tracker node.nodeId message)
  | .ok nodeType =>
    match create service batch.tracker.registry
      (.childJob parentId node.rackId node.nodeId) node.inputs with
    | none => none
    | some (.error failure, r) =>
      some (batch.skip { batch.tracker with registry := r } node.nodeId failure.message)
    | some (.ok child, r) =>
      let tracker := { batch.tracker with registry := r }.refreshParentState service.codec parentId node.now
      match admitFirmwareNodeForJob service tracker.registry child.jobId node nodeType with
      | (.ok (), r) =>
        some { batch with tracker := { tracker with registry := r }, jobs := batch.jobs ++
          [(node.nodeId, child.jobId)] }
      | (.error failure, r) =>
        let (message, resultJson) := service.failureResult failure.error failure.message
        let sealing := (JobFailure.new failure.error message).withResultJson resultJson
        let tracker := { tracker with registry := r }.update child.jobId
          (.failed (failureWithMetadata (service.metadata nodeType) sealing)) node.now
        some (batch.skip
          (tracker.refreshParentForChild service.codec child.jobId node.now) node.nodeId failure.message)

def createParentJob (tracker : Tracker) (rackId : String) (inputs : CreateInputs) :
    Option (JobId × Batch) :=
  match create service tracker.registry (.parentJob rackId .firmwareUpdate) inputs with
  | some (.ok parent, r) =>
    some (parent.jobId, ⟨⟨r, tracker.parentJobHandles.insert parent.jobId⟩, [], []⟩)
  | _ => none

/-- The loop over the nodes of the batch. -/
def admitNodes (parentId : JobId) (batch : Batch) (nodes : List BatchNode) : Option Batch :=
  nodes.foldlM (admitNode service parentId) batch

end FirmwareBatch

end RackManagement
