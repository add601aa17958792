import RackManagement.Model.JobRegistry
import RackManagement.Model.ParentAggregation

/-!
# The job tracker

The calls of `job_tracker.rs` and of the job handles, cut into steps that take the registry lock
once or run one observer.
-/

namespace RackManagement

open Library

inductive JobRequest
  | jobIfNodeIdle (rackId nodeId : String)
  | childJob (parentJobId : JobId) (rackId nodeId : String)
  | visibleWorkflowJobIfNodeIdle (rackId nodeId : String) (jobType : JobType)
  | scopedJob (rackId nodeId : String) (jobType : JobType) (scopes : List JobScope)
  | parentJob (rackId : String) (jobType : JobType)

namespace JobRequest

def spec : JobRequest → JobSpec
  | jobIfNodeIdle rackId nodeId => JobSpec.new rackId nodeId "Queued"
  | childJob _ rackId nodeId => JobSpec.new rackId nodeId "Queued"
  | visibleWorkflowJobIfNodeIdle rackId nodeId jobType =>
    (JobSpec.new rackId nodeId "Queued").withWorkflowType jobType
  | scopedJob rackId nodeId jobType _ => (JobSpec.new rackId nodeId "Queued").withWorkflowType jobType
  | parentJob rackId jobType =>
    (JobSpec.newParent rackId ("Batch " ++ jobType.batchNoun ++ " accepting child jobs")).withWorkflowType
      jobType

def parentJobId : JobRequest → Option JobId
  | childJob parentJobId _ _ => some parentJobId
  | _ => none

def requireNodeIdle : JobRequest → Bool
  | parentJob _ _ => false
  | _ => true

def scopes : JobRequest → List JobScope
  | scopedJob _ _ _ scopes => scopes
  | _ => []

def isParent : JobRequest → Bool
  | parentJob _ _ => true
  | _ => false

def registryOp (request : JobRequest) (inputs : CreateInputs) : RegistryOp :=
  .create request.spec request.parentJobId request.requireNodeIdle request.scopes inputs

end JobRequest

/-- The trusted metadata of a handle, as the merge that the serializer performs with it on
a result. -/
abbrev ResultMetadata := Option (String → String)

def resultWithMetadata (metadata : ResultMetadata) (resultJson : String) : String :=
  match metadata with
  | none => resultJson
  | some merge => merge resultJson

def failureWithMetadata (metadata : ResultMetadata) (failure : JobFailure) : JobFailure :=
  match metadata with
  | none => failure
  | some merge => { failure with resultJson := some (merge (failure.resultJson.getD "")) }

inductive HandleCall
  | progress (description : String)
  | complete (description resultJson : String)
  | completeVerified (description resultJson : String)
  | fail (failure : JobFailure)
  | drop (cancelled : Bool)

variable (D : JobDomain)

def HandleCall.mark (metadata : ResultMetadata) : HandleCall → JobMark
  | progress description => .running description
  | complete description resultJson => .completed description (resultWithMetadata metadata resultJson)
  | completeVerified description resultJson =>
    .completed description (resultWithMetadata metadata resultJson)
  | fail failure => .failed (failureWithMetadata metadata failure)
  | drop cancelled =>
    .failed (failureWithMetadata metadata (if cancelled then D.shutdownFailure else D.droppedFailure))

inductive ObserverCall
  | created (snapshot : JobSnapshot)
  | terminal (snapshot : JobSnapshot)
deriving DecidableEq

def ObserverCall.terminalSnapshots : ObserverCall → List JobSnapshot
  | .created _ => []
  | .terminal snapshot => [snapshot]

namespace RegistryState

def observerCalls (s : RegistryState) : RegistryOp → List ObserverCall
  | .create spec parentJobId requireNodeIdle scopes inputs =>
    match s.registry.createJobWithScopes D spec parentJobId requireNodeIdle scopes inputs with
    | some (.ok record, _) => [.created record]
    | _ => []
  | .mark jobId mark now =>
    match (s.registry.update jobId mark.transition now).1.2 with
    | some (.terminal snapshot) => [.terminal snapshot]
    | _ => []
  | _ => []

end RegistryState

/-- Labels of the in-flight gauge: the workflow type and whether the job is a leaf. -/
abbrev WorkflowLabel := JobType × Bool

/-- Lifecycle events by label, state and error code, and the number of workflows in flight. -/
structure WorkflowMetrics where
  counts : WorkflowLabel → (workflowState errorCode : String) → Nat
  inFlight : WorkflowLabel → Int

namespace WorkflowMetrics

def empty : WorkflowMetrics := ⟨fun _ _ _ => 0, fun _ => 0⟩

variable (m : WorkflowMetrics)

def countEvent (label : WorkflowLabel) (workflowState errorCode : String) : WorkflowMetrics :=
  { m with counts := fun l s e =>
      if l = label ∧ s = workflowState ∧ e = errorCode then m.counts l s e + 1 else m.counts l s e }

def addInFlight (label : WorkflowLabel) (delta : Int) : WorkflowMetrics :=
  { m with inFlight := fun l => if l = label then m.inFlight l + delta else m.inFlight l }

def labelOf (snapshot : JobSnapshot) : Option WorkflowLabel :=
  snapshot.workflowType.map (fun workflowType => (workflowType, snapshot.nodeId != ""))

def recordStarted (snapshot : JobSnapshot) : WorkflowMetrics :=
  match labelOf snapshot with
  | none => m
  | some label => (m.countEvent label "queued" "none").addInFlight label 1

def recordTerminal (snapshot : JobSnapshot) : WorkflowMetrics :=
  match labelOf snapshot with
  | none => m
  | some label =>
    match snapshot.state with
    | .completed _ _ => (m.countEvent label "completed" "none").addInFlight label (-1)
    | .failed _ failure _ _ => (m.countEvent label "failed" failure.metricsLabel).addInFlight label (-1)
    | _ => m

def observe : ObserverCall → WorkflowMetrics
  | .created snapshot => m.recordStarted snapshot
  | .terminal snapshot => m.recordTerminal snapshot

end WorkflowMetrics

/-- A `refresh_parent_state` in progress. `childIds` is the list of the parent's snapshot. -/
inductive RefreshCall
  | counting (parentId : JobId) (jobType : JobType) (childIds unread : List JobId) (counts : ParentCounts)
  | skipping (parentId : JobId) (jobType : JobType) (childIds unread : List JobId) (total skipped : Nat)
  | sealing (parentId : JobId) (childIds : List JobId) (mark : JobMark)
  | reporting (parentId : JobId) (description : String)

namespace RefreshCall

variable (codec : ResultCodec)

/-- The start of a refresh, from the snapshot of the parent. `none` is an early return. -/
def start (parentId : JobId) (parent : Option JobSnapshot) : Option RefreshCall :=
  match parent with
  | none => none
  | some parent =>
    if !parent.isParent || parent.state.isTerminal then none
    else parent.workflowType.map (fun jobType =>
      .counting parentId jobType parent.childJobIds parent.childJobIds
        (ParentCounts.start parent.childJobIds.length))

def afterCounting (parentId : JobId) (jobType : JobType) (childIds : List JobId) (counts : ParentCounts) :
    Option RefreshCall :=
  if counts.total = 0 then none
  else if counts.done = counts.total then
    if counts.failed > 0 || counts.missing > 0 then
      some (.sealing parentId childIds (.failed (parentFailure codec counts jobType)))
    else some (.skipping parentId jobType childIds childIds counts.total 0)
  else some (.reporting parentId (counts.runningDescription jobType))

def advance (get : JobId → Option JobSnapshot) : RefreshCall → Option RefreshCall
  | counting parentId jobType childIds [] counts => afterCounting codec parentId jobType childIds counts
  | counting parentId jobType childIds (childId :: unread) counts =>
    some (.counting parentId jobType childIds unread (counts.readChild (get childId)))
  | skipping parentId jobType childIds [] total skipped =>
    some (.sealing parentId childIds (.completed (completionDescription total skipped jobType) ""))
  | skipping parentId jobType childIds (childId :: unread) total skipped =>
    some (.skipping parentId jobType childIds unread total
      (if isSkippedChild codec (get childId) then skipped + 1 else skipped))
  | call => some call

end RefreshCall

/-- The tracker's calls. A refresh of a parent is made in several of them. -/
inductive TrackerOp
  | create (request : JobRequest) (inputs : CreateInputs)
  | storeParentHandle (jobId : JobId)
  | removeQueuedJob (jobId : JobId)
  | reserveMutation (scopes : List JobScope) (jobIds : List JobId)
  | dropReservation (ownerId : JobId)
  | reserveJobScopes (jobId : JobId) (scopes : List JobScope)
  | handle (jobId : JobId) (metadata : ResultMetadata) (call : HandleCall) (now : Instant)
  | markRunning (jobId : JobId) (description : String) (now : Instant)
  | markCompleted (jobId : JobId) (resultJson : Option String) (now : Instant)
  | markFailedWithResult (jobId : JobId) (errorCode : JobError) (errorMessage : String)
      (resultJson : Option String) (now : Instant)
  | drainParentHandles
  | failForShutdown (jobId : JobId) (now : Instant)
  | cleanupExpired (now : Instant)
  | beginShutdown
  | startRefresh (caller : Nat) (parentId : JobId)
  | stepRefresh (caller : Nat) (now : Instant)
  | runObserver (index : Nat)

/-- The registry, the refreshes that are on their way and the observer calls. -/
structure TrackerState where
  core : RegistryState
  newParents : List JobId
  parentJobHandles : FiniteSet JobId
  refreshes : FiniteMap Nat RefreshCall
  pending : List ObserverCall
  notified : List JobSnapshot
  metrics : WorkflowMetrics

namespace TrackerState

def initial (ttl : Duration) (maxJobs : Nat) : TrackerState :=
  ⟨RegistryState.initial ttl maxJobs, [], FiniteSet.empty, ∅, [], [], WorkflowMetrics.empty⟩

abbrev jobs (s : TrackerState) : JobStore := s.core.jobs

def perform (s : TrackerState) (op : RegistryOp) : Option TrackerState :=
  (s.core.step D op).map (fun core =>
    { s with core := core, pending := s.pending ++ s.core.observerCalls D op })

def setRefresh (s : TrackerState) (caller : Nat) : Option RefreshCall → TrackerState
  | none => { s with refreshes := s.refreshes.erase caller }
  | some call => { s with refreshes := s.refreshes.insert caller call }

/-- Seals a parent with its handle. Without a handle nothing happens. -/
def sealParent (s : TrackerState) (parentId : JobId) (mark : JobMark) (now : Instant) :
    Option TrackerState :=
  if parentId ∈ s.parentJobHandles then
    { s with parentJobHandles := s.parentJobHandles.erase parentId }.perform D (.mark parentId mark now)
  else some s

def createdIds (calls : List ObserverCall) : List JobId :=
  calls.filterMap (fun call =>
    match call with
    | .created snapshot => some snapshot.jobId
    | .terminal _ => none)

/-- One step. `none` means that the step is not enabled. -/
def step (text : FailureText) (codec : ResultCodec) (s : TrackerState) : TrackerOp → Option TrackerState
  | .create request inputs =>
    let op := request.registryOp inputs
    let created := if request.isParent then createdIds (s.core.observerCalls (rmsJobDomain text) op) else []
    (s.perform (rmsJobDomain text) op).map (fun t => { t with newParents := created ++ t.newParents })
  | .storeParentHandle jobId =>
    if jobId ∈ s.newParents then
      some { s with
        newParents := s.newParents.erase jobId
        parentJobHandles := s.parentJobHandles.insert jobId }
    else none
  | .removeQueuedJob jobId => s.perform (rmsJobDomain text) (.removeQueuedLeaf jobId)
  | .reserveMutation scopes jobIds => s.perform (rmsJobDomain text) (.reserveMutation scopes jobIds)
  | .dropReservation ownerId => s.perform (rmsJobDomain text) (.dropReservation ownerId)
  | .reserveJobScopes jobId scopes => s.perform (rmsJobDomain text) (.reserveJobScopes jobId scopes)
  | .handle jobId metadata call now =>
    s.perform (rmsJobDomain text) (.mark jobId (call.mark (rmsJobDomain text) metadata) now)
  | .markRunning jobId description now =>
    s.perform (rmsJobDomain text) (.mark jobId (.running description) now)
  | .markCompleted jobId resultJson now =>
    s.sealParent (rmsJobDomain text) jobId (.completed "Completed" (resultJson.getD "")) now
  | .markFailedWithResult jobId errorCode errorMessage resultJson now =>
    let resultJson := resultJson.getD (text.resultJson errorCode errorMessage)
    s.sealParent (rmsJobDomain text) jobId
      (.failed ((JobFailure.new errorCode errorMessage).withResultJson resultJson)) now
  | .drainParentHandles => some { s with parentJobHandles := FiniteSet.empty }
  | .failForShutdown jobId now =>
    s.perform (rmsJobDomain text) (.mark jobId (.failed (rmsJobDomain text).shutdownFailure) now)
  | .cleanupExpired now => s.perform (rmsJobDomain text) (.cleanupExpired now)
  | .beginShutdown => s.perform (rmsJobDomain text) .beginShutdown
  | .startRefresh caller parentId =>
    if (s.refreshes.lookup caller).isSome then none
    else some (s.setRefresh caller (RefreshCall.start parentId (s.jobs.get parentId)))
  | .stepRefresh caller now =>
    match s.refreshes.lookup caller with
    | none => none
    | some (.sealing parentId _ mark) =>
      (s.setRefresh caller none).sealParent (rmsJobDomain text) parentId mark now
    | some (.reporting parentId description) =>
      (s.setRefresh caller none).perform (rmsJobDomain text) (.mark parentId (.running description) now)
    | some call => some (s.setRefresh caller (call.advance codec s.jobs.get))
  | .runObserver index =>
    match s.pending[index]? with
    | none => none
    | some call =>
      some { s with
        pending := s.pending.eraseIdx index
        metrics := s.metrics.observe call
        notified := s.notified ++ call.terminalSnapshots }

end TrackerState

end RackManagement
