import RackManagement.Library.BucketIndex
import RackManagement.Library.OwnerTable
import RackManagement.Model.JobState

/-!
# The job store

The records and their indexes, as in `job_lifecycle/store.rs`. Hash maps iterate in the order of the
entries.
-/

namespace RackManagement

open Library

structure JobStore where
  byId : FiniteMap JobId JobSnapshot
  activeByNode : BucketIndex String String JobId
  activeByScope : FiniteMap JobScope JobId
  scopesByOwner : FiniteMap JobId (FiniteSet JobScope)

inductive LifecycleTransition
  | started (snapshot : JobSnapshot)
  | progress (snapshot : JobSnapshot)
  | terminal (snapshot : JobSnapshot)
deriving DecidableEq

def shouldIndex (job : JobSnapshot) : Bool := job.nodeId != "" && !job.state.isTerminal

/-- A reading of `now` before the timestamp counts as zero elapsed time. -/
def isOlderThan (now timestamp : Instant) (ttl : Duration) : Bool := ttl ≤ now - timestamp

def warnIfMonotonicTimestampInFuture (now : Instant) (job : JobSnapshot) : JobSnapshot :=
  if now ≥ job.updatedAtMono ∨ job.monoInversionWarned then job
  else { job with monoInversionWarned := true }

/-- The inversion check of a sweep, which looks at terminal records only. -/
def warnTerminal (now : Instant) (job : JobSnapshot) : JobSnapshot :=
  if job.state.isTerminal then warnIfMonotonicTimestampInFuture now job else job

def expired (now : Instant) (ttl : Duration) (job : JobSnapshot) : Bool :=
  job.state.isTerminal && isOlderThan now job.updatedAtMono ttl

/-- Child identifiers protected by parents that have not expired. -/
def protectedChildren (jobs : FiniteMap JobId JobSnapshot) (now : Instant) (ttl : Duration) :
    List JobId :=
  ((FiniteMap.values jobs).filter (fun job => job.isParent && !expired now ttl job)).flatMap
    JobSnapshot.childJobIds

namespace JobStore

def empty : JobStore := ⟨∅, ∅, ∅, ∅⟩

def trackedJobCount (s : JobStore) : Nat := FiniteMap.size s.byId

def get (s : JobStore) (jobId : JobId) : Option JobSnapshot := s.byId.lookup jobId

def activeJobForNode (s : JobStore) (rackId nodeId : String) : Option JobId :=
  s.activeByNode.first rackId nodeId

/-- Logical aliases also check the jobs that were created without an explicit scope list. -/
def busyOwner (s : JobStore) (ownerId : Option JobId) (scope : JobScope) : Option JobId :=
  ((s.activeByScope.lookup scope).filter (fun active => some active != ownerId)).or
    (match scope with
      | .logicalNode rackId nodeId =>
        (s.activeByNode.bucket rackId nodeId).bind
          (fun jobs => jobs.toList.find? (fun active => some active != ownerId))
      | _ => none)

/-- Finds overlap while allowing the named worker to reuse its own aliases. -/
def conflictingScopeExcept (s : JobStore) (scopes : List JobScope) (ownerId : Option JobId) :
    Option (JobScope × JobId) :=
  scopes.findSome? (fun scope => (s.busyOwner ownerId scope).map (fun owner => (scope, owner)))

def conflictingScope (s : JobStore) (scopes : List JobScope) : Option (JobScope × JobId) :=
  s.conflictingScopeExcept scopes none

/-- Includes direct-mutation owners that have no retained job record. -/
def hasScopeOwner (s : JobStore) (ownerId : JobId) : Bool := (s.scopesByOwner.lookup ownerId).isSome

def aliases (s : JobStore) : OwnerTable JobScope JobId := ⟨s.activeByScope, s.scopesByOwner⟩

def reserveScopes (s : JobStore) (ownerId : JobId) (scopes : List JobScope) : JobStore :=
  let table := s.aliases.reserve ownerId scopes
  { s with activeByScope := table.ownerOf, scopesByOwner := table.keysOf }

def releaseScopes (s : JobStore) (ownerId : JobId) : JobStore :=
  let table := s.aliases.release ownerId
  { s with activeByScope := table.ownerOf, scopesByOwner := table.keysOf }

def canAcceptChild (s : JobStore) (parentJobId : JobId) : Bool :=
  match s.byId.lookup parentJobId with
  | none => false
  | some parent => !parent.state.isTerminal && parent.parentJobId.isNone

def attachChild (s : JobStore) (child : JobSnapshot) (now : Instant) : Bool × JobStore :=
  match child.parentJobId with
  | none => (false, s)
  | some parentJobId =>
    match s.byId.lookup parentJobId with
    | none => (false, s)
    | some parent =>
      if parent.state.isTerminal || parent.parentJobId.isSome then (false, s)
      else
        let parent := { parent with childJobIds := parent.childJobIds ++ [child.jobId] }.touch now
        (true, { s with byId := s.byId.insert parentJobId parent })

def removeActiveJob (s : JobStore) (rackId nodeId : String) (jobId : JobId) : JobStore :=
  { s with activeByNode := s.activeByNode.remove rackId nodeId jobId }

def addActiveJob (s : JobStore) (rackId nodeId : String) (jobId : JobId) : JobStore :=
  { s with activeByNode := s.activeByNode.add rackId nodeId jobId }

def remove (s : JobStore) (jobId : JobId) : Option JobSnapshot × JobStore :=
  match s.byId.lookup jobId with
  | none => (none, s)
  | some record =>
    let s := { s with byId := s.byId.erase jobId }
    let s := s.removeActiveJob record.rackId record.nodeId record.jobId
    (some record, s.releaseScopes jobId)

/-- Removes an unstarted leaf job. Running, terminal, parent and parent-linked jobs
remain tracked. -/
def removeQueuedLeaf (s : JobStore) (jobId : JobId) : Bool × JobStore :=
  match s.byId.lookup jobId with
  | none => (false, s)
  | some record =>
    if record.isParent || record.parentJobId.isSome || !record.state.isQueued then (false, s)
    else
      let (removed, s) := s.remove jobId
      (removed.isSome, s)

def classifyTransition (before : JobLifecycleState) (record : JobSnapshot) : Option LifecycleTransition :=
  if before.isQueued && record.state.isRunning then some (.started record)
  else if before.isRunning && record.state.isRunning then some (.progress record)
  else if !before.isTerminal && record.state.isTerminal then some (.terminal record)
  else none

/-- The transition returns the replacement state, or `none` to leave the job unchanged. -/
def transitionState (s : JobStore) (jobId : JobId)
    (transition : JobLifecycleState → Option JobLifecycleState) (now : Instant) :
    (Bool × Option LifecycleTransition) × JobStore :=
  match s.byId.lookup jobId with
  | none => ((false, none), s)
  | some record =>
    match transition record.state with
    | none => ((false, none), s)
    | some nextState =>
      let updated := { record with state := nextState }.touch now
      let wasIndexed := shouldIndex record
      let isIndexed := shouldIndex updated
      let event := classifyTransition record.state updated
      let s := { s with byId := s.byId.insert jobId updated }
      let s :=
        match event with
        | some (.terminal _) => s.releaseScopes jobId
        | _ => s
      let s :=
        if wasIndexed != isIndexed then
          if isIndexed then s.addActiveJob updated.rackId updated.nodeId updated.jobId
          else s.removeActiveJob updated.rackId updated.nodeId updated.jobId
        else s
      ((true, event), s)

/-- Whether a sweep at `now` evicts a record. Everything is decided against the records
before the sweep. -/
def evictable (jobs : FiniteMap JobId JobSnapshot) (now : Instant) (ttl : Duration)
    (jobId : JobId) (job : JobSnapshot) : Bool :=
  let removable := !job.isParent ||
    !job.childJobIds.any (fun childJobId => (jobs.lookup childJobId).isSome)
  expired now ttl job && !(protectedChildren jobs now ttl).contains jobId && removable

def warnFutureTimestamps (s : JobStore) (now : Instant) : JobStore :=
  { s with byId := FiniteMap.mapValues (warnTerminal now) s.byId }

def expiredIds (s : JobStore) (now : Instant) (ttl : Duration) : List JobId :=
  FiniteMap.filterKeys (evictable s.byId now ttl) s.byId

/-- An expired parent with retained children remains until a later pass. -/
def cleanupExpired (s : JobStore) (now : Instant) (ttl : Duration) : JobStore :=
  let s := s.warnFutureTimestamps now
  (s.expiredIds now ttl).foldl (fun s jobId => (s.remove jobId).2) s

def idTaken (s : JobStore) (jobId : JobId) : Bool :=
  s.hasScopeOwner jobId || (s.byId.lookup jobId).isSome

def insertVacant (s : JobStore) (record : JobSnapshot) : JobStore :=
  let s := { s with byId := s.byId.insert record.jobId record }
  if shouldIndex record then s.addActiveJob record.rackId record.nodeId record.jobId else s

/-- Replaces a taken identifier by the next generated one. `none` means that they are used up. -/
def insertWithIdGenerator (s : JobStore) (record : JobSnapshot) :
    (nextJobIds : List JobId) → Option (JobSnapshot × JobStore)
  | [] => if s.idTaken record.jobId then none else some (record, s.insertVacant record)
  | jobId :: nextJobIds =>
    if s.idTaken record.jobId then s.insertWithIdGenerator { record with jobId := jobId } nextJobIds
    else some (record, s.insertVacant record)

end JobStore

end RackManagement
