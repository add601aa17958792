import RackManagement.Model.JobStore

/-!
# The job registry

The operations of `job_lifecycle/registry.rs`, each of which holds the registry's lock. Generated
identifiers and clock readings are arguments.
-/

namespace RackManagement

open Library

/-- The tracked jobs with the limits that apply to them. -/
structure JobRegistry where
  jobs : JobStore
  ttl : Duration
  maxJobs : Nat
  shuttingDown : Bool

/-- The identifiers that a creation draws, and its three readings of the clock. -/
structure CreateInputs where
  jobIds : List JobId
  sweepAt : Instant
  createdAt : Instant
  attachedAt : Instant
deriving DecidableEq

def runningTransition (description : String) (state : JobLifecycleState) : Option JobLifecycleState :=
  if state.isTerminal then none else some (.running description)

def completedTransition (description resultJson : String) (state : JobLifecycleState) :
    Option JobLifecycleState :=
  if state.isTerminal then none else some (.completed description resultJson)

def failedTransition (failure : JobFailure) (state : JobLifecycleState) : Option JobLifecycleState :=
  if state.isTerminal then none else some (failedState failure)

namespace JobRegistry

def withCapacity (ttl : Duration) (maxJobs : Nat) : JobRegistry := ⟨JobStore.empty, ttl, maxJobs, false⟩

variable (r : JobRegistry)

def get (jobId : JobId) : Option JobSnapshot := r.jobs.get jobId

/-- The normalized scopes of a creation, with the node's own alias when the node must
be idle. -/
def admissionScopes (spec : JobSpec) (requireNodeIdle : Bool) (scopes : List JobScope) : List JobScope :=
  scopes.map JobScope.normalized ++
    (if requireNodeIdle && spec.nodeId != "" then [.logicalNode spec.rackId spec.nodeId] else [])

variable (D : JobDomain) (r : JobRegistry)

def admissionFailure (spec : JobSpec) (parentJobId : Option JobId)
    (requireNodeIdle : Bool) (scopes : List JobScope) : Option JobFailure :=
  if r.shuttingDown then some D.shuttingDownFailure
  else
    match parentJobId.filter (fun parent => !r.jobs.canAcceptChild parent) with
    | some parent => some (D.parentUnavailableFailure parent)
    | none =>
      match if requireNodeIdle then r.jobs.activeJobForNode spec.rackId spec.nodeId else none with
      | some activeJobId => some (D.nodeBusyFailure spec.rackId spec.nodeId activeJobId)
      | none =>
        (r.jobs.conflictingScope scopes).map (fun (scope, ownerId) => D.scopeBusyFailure scope ownerId)

def atCapacity : Bool := r.maxJobs ≤ r.jobs.trackedJobCount

def capacityCheck (now : Instant) : Option JobFailure × JobRegistry :=
  let r := if r.atCapacity then { r with jobs := r.jobs.cleanupExpired now r.ttl } else r
  let current := r.jobs.trackedJobCount
  (if r.maxJobs ≤ current then some (D.atCapacityFailure current r.maxJobs) else none, r)

/-- `none` when no generated identifier is vacant or the parent refuses the child. -/
def publish (spec : JobSpec) (parentJobId : Option JobId) (scopes : List JobScope)
    (inputs : CreateInputs) : Option (JobSnapshot × JobRegistry) :=
  match inputs.jobIds with
  | [] => none
  | jobId :: nextJobIds =>
    match r.jobs.insertWithIdGenerator (JobSnapshot.new spec parentJobId jobId inputs.createdAt)
        nextJobIds with
    | none => none
    | some (record, jobs) =>
      let jobs := jobs.reserveScopes record.jobId scopes
      if parentJobId.isSome then
        match jobs.attachChild record inputs.attachedAt with
        | (true, jobs) => some (record, { r with jobs := jobs })
        | (false, _) => none
      else some (record, { r with jobs := jobs })

/-- Admits every supplied alias before publishing a job record. `none` means that the
call does not return. -/
def createJobWithScopes (spec : JobSpec) (parentJobId : Option JobId)
    (requireNodeIdle : Bool) (scopes : List JobScope) (inputs : CreateInputs) :
    Option (Except JobFailure JobSnapshot × JobRegistry) :=
  let scopes := admissionScopes spec requireNodeIdle scopes
  match r.admissionFailure D spec parentJobId requireNodeIdle scopes with
  | some failure => some (.error failure, r)
  | none =>
    match r.capacityCheck D inputs.sweepAt with
    | (some failure, r) => some (.error failure, r)
    | (none, r) =>
      match r.publish spec parentJobId scopes inputs with
      | none => none
      | some (record, r) => some (.ok record, r)

def reserveMutation (scopes : List JobScope) (jobIds : List JobId) :
    Option (Except JobFailure JobId × JobRegistry) :=
  let scopes := scopes.map JobScope.normalized
  if r.shuttingDown then some (.error D.shuttingDownFailure, r)
  else
    match r.jobs.conflictingScope scopes with
    | some (scope, ownerId) => some (.error (D.scopeBusyFailure scope ownerId), r)
    | none =>
      match jobIds.find? (fun jobId => !r.jobs.idTaken jobId) with
      | none => none
      | some ownerId => some (.ok ownerId, { r with jobs := r.jobs.reserveScopes ownerId scopes })

def dropReservation (ownerId : JobId) : JobRegistry :=
  { r with jobs := r.jobs.releaseScopes ownerId }

def reserveJobScopes (jobId : JobId) (scopes : List JobScope) :
    Except JobFailure Unit × JobRegistry :=
  let scopes := scopes.map JobScope.normalized
  if r.shuttingDown then (.error D.shuttingDownFailure, r)
  else if (r.jobs.get jobId).all (fun job => job.state.isTerminal) then
    (.error (D.inactiveJobFailure jobId), r)
  else
    match r.jobs.conflictingScopeExcept scopes (some jobId) with
    | some (scope, ownerId) => (.error (D.scopeBusyFailure scope ownerId), r)
    | none => (.ok (), { r with jobs := r.jobs.reserveScopes jobId scopes })

def update (jobId : JobId)
    (transition : JobLifecycleState → Option JobLifecycleState) (now : Instant) :
    (Bool × Option LifecycleTransition) × JobRegistry :=
  let (outcome, jobs) := r.jobs.transitionState jobId transition now
  (outcome, { r with jobs := jobs })

def removeQueuedLeaf (jobId : JobId) : Bool × JobRegistry :=
  let (removed, jobs) := r.jobs.removeQueuedLeaf jobId
  (removed, { r with jobs := jobs })

def cleanupExpired (now : Instant) : JobRegistry :=
  { r with jobs := r.jobs.cleanupExpired now r.ttl }

def beginShutdown : JobRegistry := { r with shuttingDown := true }

def nonTerminalJobIds : List JobId :=
  (r.jobs.byId.values.filter (fun job => !job.state.isTerminal)).map JobSnapshot.jobId

end JobRegistry

inductive JobMark
  | running (description : String)
  | completed (description resultJson : String)
  | failed (failure : JobFailure)
deriving DecidableEq

def JobMark.transition : JobMark → JobLifecycleState → Option JobLifecycleState
  | .running description => runningTransition description
  | .completed description resultJson => completedTransition description resultJson
  | .failed failure => failedTransition failure

/-- The operations that take the registry's lock. -/
inductive RegistryOp
  | create (spec : JobSpec) (parentJobId : Option JobId) (requireNodeIdle : Bool)
      (scopes : List JobScope) (inputs : CreateInputs)
  | reserveMutation (scopes : List JobScope) (jobIds : List JobId)
  | dropReservation (ownerId : JobId)
  | reserveJobScopes (jobId : JobId) (scopes : List JobScope)
  | mark (jobId : JobId) (mark : JobMark) (now : Instant)
  | removeQueuedLeaf (jobId : JobId)
  | cleanupExpired (now : Instant)
  | beginShutdown

/-- A registry with the guards that are held and the instant of the latest sweep. -/
structure RegistryState where
  registry : JobRegistry
  reservations : List JobId
  lastSweep : Option Instant

namespace RegistryState

def initial (ttl : Duration) (maxJobs : Nat) : RegistryState :=
  ⟨JobRegistry.withCapacity ttl maxJobs, [], none⟩

abbrev jobs (s : RegistryState) : JobStore := s.registry.jobs

def sweepOf (D : JobDomain) (s : RegistryState) : RegistryOp → Option Instant
  | .create spec parentJobId requireNodeIdle scopes inputs =>
    let scopes := JobRegistry.admissionScopes spec requireNodeIdle scopes
    if (s.registry.admissionFailure D spec parentJobId requireNodeIdle scopes).isNone &&
        s.registry.atCapacity then some inputs.sweepAt
    else none
  | .cleanupExpired now => some now
  | _ => none

/-- One operation. A guard can be dropped only while it is held. -/
def step (D : JobDomain) (s : RegistryState) (op : RegistryOp) : Option RegistryState :=
  let lastSweep := (s.sweepOf D op).or s.lastSweep
  match op with
  | .create spec parentJobId requireNodeIdle scopes inputs =>
    (s.registry.createJobWithScopes D spec parentJobId requireNodeIdle scopes inputs).map
      (fun (_, registry) => { s with registry := registry, lastSweep := lastSweep })
  | .reserveMutation scopes jobIds =>
    (s.registry.reserveMutation D scopes jobIds).map (fun (outcome, registry) =>
      match outcome with
      | .ok ownerId => { s with registry := registry, reservations := ownerId :: s.reservations }
      | .error _ => { s with registry := registry })
  | .dropReservation ownerId =>
    if ownerId ∈ s.reservations then
      some { s with
        registry := s.registry.dropReservation ownerId
        reservations := s.reservations.erase ownerId }
    else none
  | .reserveJobScopes jobId scopes =>
    some { s with registry := (s.registry.reserveJobScopes D jobId scopes).2 }
  | .mark jobId mark now => some { s with registry := (s.registry.update jobId mark.transition now).2 }
  | .removeQueuedLeaf jobId => some { s with registry := (s.registry.removeQueuedLeaf jobId).2 }
  | .cleanupExpired now => some { s with registry := s.registry.cleanupExpired now, lastSweep := lastSweep }
  | .beginShutdown => some { s with registry := s.registry.beginShutdown }

end RegistryState

end RackManagement
