import RackManagement.Proofs.RegistryOperations

/-!
# Steps of the registry as effects

A step is a sweep, if the operation runs one, followed by one effect on the state after it.
-/

namespace RackManagement.RegistryState

open Library JobRegistry Option

variable (D : JobDomain) (s : RegistryState)

def withJobs (jobs : JobStore) : RegistryState :=
  { s with registry := s.registry.withJobs jobs }

variable (s : RegistryState)

@[simp] lemma jobs_withJobs (jobs : JobStore) : (s.withJobs jobs).jobs = jobs := rfl

@[simp] lemma maxJobs_withJobs (jobs : JobStore) :
    (s.withJobs jobs).registry.maxJobs = s.registry.maxJobs := rfl

def sweep (now : Instant) : RegistryState :=
  { s.withJobs (s.jobs.cleanupExpired now s.registry.ttl) with lastSweep := some now }

@[simp] lemma jobs_sweep (now : Instant) :
    (s.sweep now).jobs = s.jobs.cleanupExpired now s.registry.ttl := rfl

/-- The state in which an operation takes effect: after its sweep, if it runs one. -/
def afterSweep (op : RegistryOp) : RegistryState :=
  match s.sweepOf D op with
  | none => s
  | some now => s.sweep now

abbrev newRecord (spec : JobSpec) (parentJobId : Option JobId) (jobId : JobId) (inputs : CreateInputs) :
    JobSnapshot :=
  JobSnapshot.new spec parentJobId jobId inputs.createdAt

/-- What an operation does to the state in which it takes effect, with its guards. -/
inductive Effect (u : RegistryState) : RegistryOp → RegistryState → Prop
  | unchanged (op : RegistryOp) : Effect u op u
  | created {spec : JobSpec} {parentJobId : Option JobId} {requireNodeIdle : Bool} {scopes : List JobScope}
      {inputs : CreateInputs} (jobId : JobId) (drawn : jobId ∈ inputs.jobIds)
      (vacant : u.jobs.idTaken jobId = false)
      (parent : ∀ parentId, parentJobId = some parentId → u.jobs.canAcceptChild parentId = true)
      (idle : requireNodeIdle = true →
        ∀ active, ¬u.jobs.activeByNode.Contains spec.rackId spec.nodeId active)
      (free : u.jobs.conflictingScope (admissionScopes spec requireNodeIdle scopes) = none)
      (room : u.jobs.trackedJobCount < u.registry.maxJobs) :
      Effect u (.create spec parentJobId requireNodeIdle scopes inputs)
        (u.withJobs (u.jobs.publishRecord (newRecord spec parentJobId jobId inputs)
          (admissionScopes spec requireNodeIdle scopes) inputs.attachedAt))
  | reserved {scopes : List JobScope} {jobIds : List JobId} (ownerId : JobId)
      (drawn : ownerId ∈ jobIds) (vacant : u.jobs.idTaken ownerId = false)
      (free : u.jobs.conflictingScope (scopes.map JobScope.normalized) = none) :
      Effect u (.reserveMutation scopes jobIds)
        { u.withJobs (u.jobs.reserveScopes ownerId (scopes.map JobScope.normalized)) with
          reservations := ownerId :: u.reservations }
  | dropped (ownerId : JobId) (held : ownerId ∈ u.reservations) :
      Effect u (.dropReservation ownerId)
        { u.withJobs (u.jobs.releaseScopes ownerId) with reservations := u.reservations.erase ownerId }
  | extended (jobId : JobId) (scopes : List JobScope) (job : JobSnapshot)
      (tracked : u.jobs.get jobId = some job) (live : job.state.isTerminal = false)
      (free : u.jobs.conflictingScopeExcept (scopes.map JobScope.normalized) (some jobId) = none) :
      Effect u (.reserveJobScopes jobId scopes)
        (u.withJobs (u.jobs.reserveScopes jobId (scopes.map JobScope.normalized)))
  | moved (jobId : JobId) (mark : JobMark) (now : Instant) (job : JobSnapshot)
      (tracked : u.jobs.get jobId = some job) (live : job.state.isTerminal = false) :
      Effect u (.mark jobId mark now) (u.withJobs (u.jobs.moveTo jobId job mark.target now))
  | removed (jobId : JobId) (job : JobSnapshot) (tracked : u.jobs.get jobId = some job)
      (childless : job.childJobIds = []) (top : job.parentJobId = none)
      (queued : job.state.isQueued = true) :
      Effect u (.removeQueuedLeaf jobId) (u.withJobs (u.jobs.remove jobId).2)
  | closed : Effect u .beginShutdown { u with registry := u.registry.beginShutdown }

section Create

variable {D} {s : RegistryState} {spec : JobSpec} {parentJobId : Option JobId} {requireNodeIdle : Bool}
  {scopes : List JobScope} (inputs : CreateInputs)

lemma sweepOf_create_of_failure {failure : JobFailure}
    (h : s.registry.admissionFailure D spec parentJobId requireNodeIdle
      (admissionScopes spec requireNodeIdle scopes) = some failure) :
    s.sweepOf D (.create spec parentJobId requireNodeIdle scopes inputs) = none := by
  simp [sweepOf, h]

section

variable (h : s.registry.admissionFailure D spec parentJobId requireNodeIdle
  (admissionScopes spec requireNodeIdle scopes) = none)
include h

lemma sweepOf_create_of_admitted : s.sweepOf D (.create spec parentJobId requireNodeIdle scopes inputs) =
      if s.registry.atCapacity then some inputs.sweepAt else none := by
  simp [sweepOf, h]

lemma afterSweep_create_of_admitted :
    s.afterSweep D (.create spec parentJobId requireNodeIdle scopes inputs) =
      { s with
        registry := s.registry.swept inputs.sweepAt
        lastSweep := (s.sweepOf D (.create spec parentJobId requireNodeIdle scopes inputs)).or
          s.lastSweep } := by
  unfold afterSweep JobRegistry.swept
  rw [sweepOf_create_of_admitted inputs h]
  by_cases hfull : s.registry.atCapacity = true
  · simp only [hfull, if_true]
    rfl
  · simp [hfull]

end

variable (hcons : s.jobs.Consistent)
include hcons

lemma guards_afterSweep (h : s.registry.admissionFailure D spec parentJobId requireNodeIdle
      (admissionScopes spec requireNodeIdle scopes) = none) :
    let u := s.registry.swept inputs.sweepAt
    (∀ parentId, parentJobId = some parentId → u.jobs.canAcceptChild parentId = true) ∧
    (requireNodeIdle = true →
      ∀ active, ¬u.jobs.activeByNode.Contains spec.rackId spec.nodeId active) ∧
    u.jobs.conflictingScope (admissionScopes spec requireNodeIdle scopes) = none := by
  obtain ⟨_, hparent, hidle, hfree⟩ := s.registry.admissionFailure_eq_none D h
  simp only [JobStore.activeJobForNode_eq_none_iff] at hidle
  unfold JobRegistry.swept
  split
  · refine ⟨fun parentId hp => ?_, fun hi active => ?_, ?_⟩
    · exact s.jobs.canAcceptChild_cleanupExpired _ _ (hparent parentId hp)
    · exact fun hc => hidle hi active ((hcons.contains_cleanupExpired _ _ _ _ _).mp hc)
    · exact hcons.conflictingScope_cleanupExpired _ _ hfree
  · exact ⟨hparent, hidle, hfree⟩

variable {t : RegistryState}

lemma create_cases
    (h : s.step D (.create spec parentJobId requireNodeIdle scopes inputs) = some t) :
    let u := s.afterSweep D (.create spec parentJobId requireNodeIdle scopes inputs)
    let create := s.registry.createJobWithScopes D spec parentJobId requireNodeIdle scopes inputs
    ((∃ failure registry, create = some (.error failure, registry)) ∧ t = u) ∨
    ∃ jobId registry, create = some (.ok (newRecord spec parentJobId jobId inputs), registry) ∧
      jobId ∈ inputs.jobIds ∧ u.jobs.idTaken jobId = false ∧
      (∀ parentId, parentJobId = some parentId → u.jobs.canAcceptChild parentId = true) ∧
      (requireNodeIdle = true →
        ∀ active, ¬u.jobs.activeByNode.Contains spec.rackId spec.nodeId active) ∧
      u.jobs.conflictingScope (admissionScopes spec requireNodeIdle scopes) = none ∧
      u.jobs.trackedJobCount < u.registry.maxJobs ∧
      t = u.withJobs (u.jobs.publishRecord (newRecord spec parentJobId jobId inputs)
        (admissionScopes spec requireNodeIdle scopes) inputs.attachedAt) := by
  simp only [step, map_eq_some_iff] at h
  obtain ⟨⟨outcome, registry⟩, hcreate, ht⟩ := h
  obtain ⟨failure, hfail, rfl, rfl⟩ | ⟨haccept, ⟨failure, rfl⟩, rfl⟩ |
    ⟨haccept, hroom, record, rfl, hpub⟩ :=
    s.registry.createJobWithScopes_cases D hcreate
  · have hsweep := sweepOf_create_of_failure inputs hfail
    refine .inl ⟨⟨_, _, hcreate⟩, ?_⟩
    rw [← ht, hsweep]
    unfold afterSweep
    rw [hsweep]
    rfl
  · refine .inl ⟨⟨_, _, hcreate⟩, ?_⟩
    rw [← ht, ← afterSweep_create_of_admitted inputs haccept]
  · obtain ⟨hparent, hidle, hfree⟩ := guards_afterSweep inputs hcons haccept
    obtain ⟨jobId, hmem, hvacant, hrecord, rfl⟩ := publish_eq_some _ hparent hpub
    subst hrecord
    rw [afterSweep_create_of_admitted inputs haccept]
    exact .inr ⟨jobId, _, hcreate, hmem, hvacant, hparent, hidle, hfree, hroom, ht.symm⟩

lemma create_effect
    (h : s.step D (.create spec parentJobId requireNodeIdle scopes inputs) = some t) :
    Effect (s.afterSweep D (.create spec parentJobId requireNodeIdle scopes inputs))
      (.create spec parentJobId requireNodeIdle scopes inputs) t := by
  obtain ⟨_, rfl⟩ | ⟨jobId, _, _, hdrawn, hvacant, hparent, hidle, hfree, hroom, rfl⟩ :=
    create_cases inputs hcons h
  · exact .unchanged _
  · exact .created jobId hdrawn hvacant hparent hidle hfree hroom

end Create

section Other

variable {D} {s : RegistryState}

lemma step_mark_cases {jobId : JobId} {mark : JobMark} {now : Instant}
    (h : s.step D (.mark jobId mark now) = some t) :
    ((∀ record, s.jobs.get jobId = some record → record.state.isTerminal = true) ∧ t = s) ∨
    ∃ record, s.jobs.get jobId = some record ∧ record.state.isTerminal = false ∧
      t = s.withJobs (s.jobs.moveTo jobId record mark.target now) := by
  simp only [step, some.injEq] at h
  rw [← h]
  obtain ⟨hnone, hupdate⟩ | ⟨job, hget, hlive, hupdate⟩ := s.registry.update_cases jobId mark now
  · rw [hupdate]
    exact .inl ⟨hnone, rfl⟩
  · rw [hupdate]
    exact .inr ⟨job, hget, hlive, rfl⟩

/-- Every step is a sweep, if the operation runs one, followed by an effect. -/
theorem step_effect {op : RegistryOp} (hcons : s.jobs.Consistent)
    (h : s.step D op = some t) : Effect (s.afterSweep D op) op t := by
  cases op with
  | create spec parentJobId requireNodeIdle scopes inputs => exact create_effect inputs hcons h
  | reserveMutation scopes jobIds =>
    simp only [step, map_eq_some_iff] at h
    obtain ⟨⟨outcome, registry⟩, hreserve, ht⟩ := h
    obtain ⟨failure, rfl, rfl⟩ | ⟨ownerId, rfl, hdrawn, hvacant, hfree, rfl⟩ :=
      s.registry.reserveMutation_cases D hreserve
    · rw [← ht]
      exact .unchanged _
    · rw [← ht]
      exact .reserved ownerId hdrawn hvacant hfree
  | dropReservation ownerId =>
    simp only [step] at h
    split at h
    · rename_i hheld
      cases h
      exact .dropped ownerId hheld
    · cases h
  | reserveJobScopes jobId scopes =>
    simp only [step, some.injEq] at h
    rw [← h]
    obtain ⟨failure, hrefuse⟩ | ⟨job, hget, hlive, hfree, hreserve⟩ :=
      s.registry.reserveJobScopes_cases D jobId scopes
    · rw [hrefuse]
      exact .unchanged _
    · rw [hreserve]
      exact .extended jobId scopes job hget hlive hfree
  | mark jobId mark now =>
    obtain ⟨_, rfl⟩ | ⟨job, hget, hlive, rfl⟩ := step_mark_cases h
    · exact .unchanged _
    · exact .moved jobId mark now job hget hlive
  | removeQueuedLeaf jobId =>
    simp only [step, JobRegistry.removeQueuedLeaf, some.injEq] at h
    rw [← h]
    obtain hkeep | ⟨job, hget, hchildless, htop, hqueued, hremove⟩ :=
      s.registry.jobs.removeQueuedLeaf_cases jobId
    · rw [hkeep]
      exact .unchanged _
    · rw [hremove]
      exact .removed jobId job hget hchildless htop hqueued
  | cleanupExpired now =>
    simp only [step, some.injEq] at h
    rw [← h]
    exact .unchanged _
  | beginShutdown =>
    simp only [step, some.injEq] at h
    rw [← h]
    exact .closed

end Other

end RackManagement.RegistryState
