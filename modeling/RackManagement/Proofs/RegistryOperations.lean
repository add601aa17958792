import RackManagement.Model.JobRegistry
import RackManagement.Proofs.StoreConsistency

/-!
# What a registry operation does

The admission checks in terms of the indexes, and the outcome of every operation.
-/

namespace RackManagement

open Library Option

namespace JobStore

variable (s : JobStore)

lemma busyOwner_eq_none_iff (ownerId : Option JobId) (scope : JobScope) : s.busyOwner ownerId scope = none ↔
      (∀ other, s.activeByScope.lookup scope = some other → some other = ownerId) ∧
      (∀ rackId nodeId other, scope = .logicalNode rackId nodeId →
        s.activeByNode.Contains rackId nodeId other → some other = ownerId) := by
  have hscope : ((s.activeByScope.lookup scope).filter (fun active => some active != ownerId)) = none ↔
      ∀ other, s.activeByScope.lookup scope = some other → some other = ownerId := by
    cases s.activeByScope.lookup scope <;> simp
  unfold busyOwner
  rw [or_eq_none_iff, hscope]
  apply and_congr_right
  intro _
  cases scope with
  | logicalNode rackId nodeId =>
    cases hb : s.activeByNode.bucket rackId nodeId with
    | none =>
      refine iff_of_true (by simp [hb]) ?_
      rintro rackId' nodeId' other he ⟨members, hm, _⟩
      cases he
      rw [hb] at hm
      cases hm
    | some members =>
      simp only [hb, bind_some, List.find?_eq_none, bne_iff_ne, ne_eq, not_not]
      constructor
      · rintro hall rackId' nodeId' other he ⟨members', hm, hmem⟩
        cases he
        rw [hb] at hm
        cases hm
        exact hall other hmem
      · intro hall other hmem
        exact hall rackId nodeId other rfl ⟨members, hb, hmem⟩
  | physicalSwitch chassisSerialNumber trayIndex => simp
  | endpoint host port => simp

variable (scopes : List JobScope)

lemma conflictingScopeExcept_eq_none_iff (ownerId : Option JobId) :
    s.conflictingScopeExcept scopes ownerId = none ↔
      ∀ scope ∈ scopes, s.busyOwner ownerId scope = none := by
  simp [conflictingScopeExcept, List.findSome?_eq_none_iff]

lemma conflictingScope_eq_none_iff : s.conflictingScope scopes = none ↔ ∀ scope ∈ scopes,
      s.activeByScope.lookup scope = none ∧
      ∀ rackId nodeId other, scope = .logicalNode rackId nodeId →
        ¬s.activeByNode.Contains rackId nodeId other := by
  rw [conflictingScope, conflictingScopeExcept_eq_none_iff]
  refine forall₂_congr (fun scope _ => ?_)
  rw [busyOwner_eq_none_iff, eq_none_iff_forall_ne_some]
  simp

lemma activeJobForNode_eq_none_iff (rackId nodeId : String) :
    s.activeJobForNode rackId nodeId = none ↔ ∀ jobId, ¬s.activeByNode.Contains rackId nodeId jobId :=
  BucketIndex.first_eq_none_iff _ _ _

namespace Consistent

variable {s} (h : s.Consistent) (now : Instant) (ttl : Duration)
include h

lemma contains_cleanupExpired (rackId nodeId : String) (jobId : JobId) :
    (s.cleanupExpired now ttl).activeByNode.Contains rackId nodeId jobId ↔
      s.activeByNode.Contains rackId nodeId jobId := by
  rw [(h.cleanupExpired now ttl).indexed, h.indexed]
  constructor
  · rintro ⟨record, hget, hindex, hrack, hnode⟩
    obtain ⟨_, job, hjob, rfl⟩ := (get_cleanupExpired_eq_some s now ttl jobId record).mp hget
    exact ⟨job, hjob, by simpa using hindex, by simpa using hrack, by simpa using hnode⟩
  · rintro ⟨job, hjob, hindex, hrack, hnode⟩
    have hlive : job.state.isTerminal = false := by simp [shouldIndex] at hindex; exact hindex.2
    exact ⟨job, get_cleanupExpired_of_live now hjob hlive, hindex, hrack, hnode⟩

lemma ownerOf_cleanupExpired (scope : JobScope) (ownerId : JobId) :
    (s.cleanupExpired now ttl).activeByScope.lookup scope = some ownerId ↔
      ownerId ∉ s.expiredIds now ttl ∧ s.activeByScope.lookup scope = some ownerId := by
  have hafter := (h.cleanupExpired now ttl).coherent.inverse scope ownerId
  have hbefore := h.coherent.inverse scope ownerId
  rw [OwnerTable.Holds, keysOf_cleanupExpired] at hafter
  rw [OwnerTable.Holds] at hbefore
  refine hafter.trans ?_
  by_cases hmem : ownerId ∈ s.expiredIds now ttl
  · simp [hmem]
  · rw [if_neg hmem, ← hbefore]
    simp [hmem, aliases]

lemma conflictingScope_cleanupExpired {scopes : List JobScope} (hfree : s.conflictingScope scopes = none) :
    (s.cleanupExpired now ttl).conflictingScope scopes = none := by
  rw [conflictingScope_eq_none_iff] at hfree ⊢
  intro scope hscope
  obtain ⟨hnone, hnode⟩ := hfree scope hscope
  constructor
  · rw [eq_none_iff_forall_ne_some]
    intro ownerId hown
    rw [h.ownerOf_cleanupExpired] at hown
    rw [hnone] at hown
    cases hown.2
  · intro rackId nodeId other he
    rw [h.contains_cleanupExpired]
    exact hnode rackId nodeId other he

end Consistent

variable {parentId : JobId}

lemma canAcceptChild_cleanupExpired (now : Instant) (ttl : Duration)
    (h : s.canAcceptChild parentId = true) : (s.cleanupExpired now ttl).canAcceptChild parentId = true := by
  rw [canAcceptChild_iff] at h ⊢
  obtain ⟨parent, hget, hlive, htop⟩ := h
  exact ⟨parent, get_cleanupExpired_of_live now hget hlive, hlive, htop⟩

lemma ne_of_get {s : JobStore} {jobId other : JobId} {job : JobSnapshot} (h : s.get jobId = some job)
    (hvacant : s.get other = none) : jobId ≠ other := by
  rintro rfl
  rw [h] at hvacant
  cases hvacant

variable {record parent : JobSnapshot}

lemma get_beside {s : JobStore}
    (hget : s.get parentId = some parent) (hvacant : s.get record.jobId = none) :
    ((s.insertVacant record).reserveScopes record.jobId scopes).get parentId = some parent := by
  rw [get_reserveScopes, get_insertVacant, if_neg (ne_of_get hget hvacant), hget]

def publishRecord (record : JobSnapshot) (scopes : List JobScope) (attachedAt : Instant) : JobStore :=
  let t := (s.insertVacant record).reserveScopes record.jobId scopes
  match record.parentJobId with
  | none => t
  | some parentId =>
    match t.get parentId with
    | none => t
    | some parent => t.setRecord parentId (withChild parent record.jobId attachedAt)

variable {record : JobSnapshot}

lemma publishRecord_top (h : record.parentJobId = none) (scopes : List JobScope)
    (attachedAt : Instant) :
    s.publishRecord record scopes attachedAt =
      (s.insertVacant record).reserveScopes record.jobId scopes := by
  simp only [publishRecord, h]

lemma publishRecord_child
    (h : record.parentJobId = some parentId) (hget : s.get parentId = some parent)
    (hvacant : s.get record.jobId = none) (scopes : List JobScope) (attachedAt : Instant) :
    s.publishRecord record scopes attachedAt =
      ((s.insertVacant record).reserveScopes record.jobId scopes).setRecord parentId
        (withChild parent record.jobId attachedAt) := by
  simp only [publishRecord, h, get_beside scopes hget hvacant]

section Publish

variable (record : JobSnapshot) (scopes : List JobScope) (attachedAt : Instant)

lemma aliases_publishRecord :
    (s.publishRecord record scopes attachedAt).aliases = s.aliases.reserve record.jobId scopes := by
  have hinsert := s.aliases_insertVacant record
  unfold publishRecord
  dsimp only
  split
  · rw [aliases_reserveScopes, hinsert]
  · split
    · rw [aliases_reserveScopes, hinsert]
    · rw [aliases_setRecord, aliases_reserveScopes, hinsert]

lemma activeByNode_publishRecord :
    (s.publishRecord record scopes attachedAt).activeByNode = (s.insertVacant record).activeByNode := by
  unfold publishRecord
  dsimp only
  split
  · rfl
  · split <;> rfl

variable {record} (hvacant : s.get record.jobId = none)
  (hparent : ∀ parentId, record.parentJobId = some parentId → s.canAcceptChild parentId = true)
include hvacant hparent

lemma get_publishRecord (jobId : JobId) : (s.publishRecord record scopes attachedAt).get jobId =
      if jobId = record.jobId then some record
      else if record.parentJobId = some jobId then
        (s.get jobId).map (fun parent => withChild parent record.jobId attachedAt)
      else s.get jobId := by
  cases hp : record.parentJobId with
  | none =>
    rw [publishRecord_top s hp, get_reserveScopes, get_insertVacant]
    simp
  | some parentId =>
    obtain ⟨parent, hget, _, _⟩ := (s.canAcceptChild_iff parentId).mp (hparent parentId hp)
    have hne := ne_of_get hget hvacant
    rw [publishRecord_child s hp hget hvacant, get_setRecord, get_reserveScopes, get_insertVacant]
    by_cases hid : jobId = parentId
    · simp [hid, hne, hget]
    · have hid' : ¬parentId = jobId := fun he => hid he.symm
      simp [hid, hid']

lemma trackedJobCount_publishRecord :
    (s.publishRecord record scopes attachedAt).trackedJobCount = s.trackedJobCount + 1 := by
  have hinsert := s.trackedJobCount_insertVacant record hvacant
  cases hp : record.parentJobId with
  | none => rw [publishRecord_top s hp, trackedJobCount_reserveScopes, hinsert]
  | some parentId =>
    obtain ⟨parent, hget, _, _⟩ := (s.canAcceptChild_iff parentId).mp (hparent parentId hp)
    rw [publishRecord_child s hp hget hvacant,
      trackedJobCount_setRecord _ _ _ (get_beside scopes hget hvacant),
      trackedJobCount_reserveScopes, hinsert]

lemma Consistent.publishRecord (h : s.Consistent) (hfree : s.conflictingScope scopes = none) :
    (s.publishRecord record scopes attachedAt).Consistent := by
  have hunowned : ∀ scope ∈ scopes, ∀ other,
      (s.insertVacant record).activeByScope.lookup scope = some other → other = record.jobId := by
    intro scope hscope other hown
    have halias : (s.insertVacant record).activeByScope = s.activeByScope :=
      congrArg OwnerTable.ownerOf (s.aliases_insertVacant record)
    rw [halias, ((s.conflictingScope_eq_none_iff scopes).mp hfree scope hscope).1] at hown
    cases hown
  have htop := (h.insertVacant hvacant).reserveScopes hunowned
  cases hp : record.parentJobId with
  | none =>
    rw [publishRecord_top s hp]
    exact htop
  | some parentId =>
    obtain ⟨parent, hget, _, _⟩ := (s.canAcceptChild_iff parentId).mp (hparent parentId hp)
    rw [publishRecord_child s hp hget hvacant]
    exact htop.setRecord (get_beside scopes hget hvacant) rfl rfl rfl rfl

end Publish

end JobStore

namespace JobMark

def target : JobMark → JobLifecycleState
  | .running description => .running description
  | .completed description resultJson => .completed description resultJson
  | .failed failure => failedState failure

lemma transition_eq (mark : JobMark) (state : JobLifecycleState) :
    mark.transition state = if state.isTerminal then none else some mark.target := by
  cases mark <;> rfl

lemma target_isRunning_or_isTerminal (mark : JobMark) :
    mark.target.isRunning = true ∨ mark.target.isTerminal = true := by
  cases mark with
  | running description => exact .inl rfl
  | completed description resultJson => exact .inr rfl
  | failed failure => exact .inr rfl

end JobMark

namespace JobRegistry

variable (D : JobDomain) (r : JobRegistry)

def swept (now : Instant) : JobRegistry := if r.atCapacity then r.cleanupExpired now else r

def withJobs (jobs : JobStore) : JobRegistry := { r with jobs := jobs }

lemma capacityCheck_eq (now : Instant) : r.capacityCheck D now =
      (if (r.swept now).maxJobs ≤ (r.swept now).jobs.trackedJobCount then
          some (D.atCapacityFailure (r.swept now).jobs.trackedJobCount (r.swept now).maxJobs)
        else none, r.swept now) := rfl

variable {spec : JobSpec} {parentJobId : Option JobId} {scopes : List JobScope} {inputs : CreateInputs}
  {r' : JobRegistry}

lemma admissionFailure_eq_none {requireNodeIdle : Bool}
    (h : r.admissionFailure D spec parentJobId requireNodeIdle scopes = none) :
    r.shuttingDown = false ∧
      (∀ parentId, parentJobId = some parentId → r.jobs.canAcceptChild parentId = true) ∧
      (requireNodeIdle = true → r.jobs.activeJobForNode spec.rackId spec.nodeId = none) ∧
      r.jobs.conflictingScope scopes = none := by
  unfold admissionFailure at h
  by_cases hdown : r.shuttingDown = true
  · rw [if_pos hdown] at h
    cases h
  · rw [if_neg hdown] at h
    cases hparent : parentJobId.filter (fun parent => !r.jobs.canAcceptChild parent) with
    | some parent =>
      simp only [hparent] at h
      cases h
    | none =>
      simp only [hparent] at h
      cases hnode : if requireNodeIdle then r.jobs.activeJobForNode spec.rackId spec.nodeId else none with
      | some activeJobId =>
        simp only [hnode] at h
        cases h
      | none =>
        simp only [hnode, map_eq_none_iff] at h
        refine ⟨by simpa using hdown, ?_, ?_, h⟩
        · rintro parentId rfl
          simpa using hparent
        · intro hidle
          simpa [hidle] using hnode

lemma createJobWithScopes_cases {requireNodeIdle : Bool} {outcome : Except JobFailure JobSnapshot}
    (h : r.createJobWithScopes D spec parentJobId requireNodeIdle scopes inputs = some (outcome, r')) :
    let effective := admissionScopes spec requireNodeIdle scopes
    (∃ failure, r.admissionFailure D spec parentJobId requireNodeIdle effective = some failure ∧
      outcome = .error failure ∧ r' = r) ∨
    (r.admissionFailure D spec parentJobId requireNodeIdle effective = none ∧
      (∃ failure, outcome = .error failure) ∧ r' = r.swept inputs.sweepAt) ∨
    (r.admissionFailure D spec parentJobId requireNodeIdle effective = none ∧
      (r.swept inputs.sweepAt).jobs.trackedJobCount < (r.swept inputs.sweepAt).maxJobs ∧
      ∃ record, outcome = .ok record ∧
        (r.swept inputs.sweepAt).publish spec parentJobId effective inputs = some (record, r')) := by
  intro effective
  unfold createJobWithScopes at h
  cases haccept : r.admissionFailure D spec parentJobId requireNodeIdle effective with
  | some failure =>
    simp only [effective] at haccept
    simp only [haccept, some.injEq, Prod.mk.injEq] at h
    exact .inl ⟨failure, rfl, h.1.symm, h.2.symm⟩
  | none =>
    simp only [effective] at haccept
    simp only [haccept, capacityCheck_eq] at h
    by_cases hfull : (r.swept inputs.sweepAt).maxJobs ≤ (r.swept inputs.sweepAt).jobs.trackedJobCount
    · simp only [hfull, if_true, some.injEq, Prod.mk.injEq] at h
      exact .inr (.inl ⟨rfl, ⟨_, h.1.symm⟩, h.2.symm⟩)
    · simp only [hfull, if_false] at h
      cases hpub : (r.swept inputs.sweepAt).publish spec parentJobId effective inputs with
      | none =>
        simp only [effective] at hpub
        simp only [hpub] at h
        cases h
      | some result =>
        obtain ⟨record, r''⟩ := result
        simp only [effective] at hpub
        simp only [hpub, some.injEq, Prod.mk.injEq] at h
        refine .inr (.inr ⟨rfl, by omega, record, h.1.symm, ?_⟩)
        rw [h.2]

lemma publish_eq_of_insert {firstId : JobId} {nextJobIds : List JobId} {jobs : JobStore}
    (hids : inputs.jobIds = firstId :: nextJobIds)
    (hparent : ∀ parentId, parentJobId = some parentId → r.jobs.canAcceptChild parentId = true)
    (hinsert : r.jobs.insertWithIdGenerator (JobSnapshot.new spec parentJobId firstId inputs.createdAt)
      nextJobIds = some (record, jobs)) :
    r.publish spec parentJobId scopes inputs =
      some (record, r.withJobs (r.jobs.publishRecord record scopes inputs.attachedAt)) := by
  obtain ⟨jobId, _, hfree, hrecord, hjobs⟩ := r.jobs.insertWithIdGenerator_eq_some hinsert
  have hvacant : r.jobs.get record.jobId = none := by
    rw [hrecord]
    exact ((r.jobs.idTaken_eq_false_iff jobId).mp hfree).2
  have hlink : record.parentJobId = parentJobId := by rw [hrecord, JobSnapshot.new]
  unfold publish
  simp only [hids, hinsert]
  cases hp : parentJobId with
  | none =>
    rw [r.jobs.publishRecord_top (hlink.trans hp), hjobs]
    rfl
  | some parentId =>
    obtain ⟨parent, hget, hlive, htop⟩ := (r.jobs.canAcceptChild_iff parentId).mp (hparent parentId hp)
    have hget' := JobStore.get_beside scopes hget hvacant
    have hattach := JobStore.attachChild_of_parent _ inputs.attachedAt (hlink.trans hp) hget' hlive htop
    rw [r.jobs.publishRecord_child (hlink.trans hp) hget hvacant]
    simp only [hjobs, hattach, isSome_some, if_true]
    rfl

lemma publish_eq_some
    (hparent : ∀ parentId, parentJobId = some parentId → r.jobs.canAcceptChild parentId = true)
    (h : r.publish spec parentJobId scopes inputs = some (record, r')) :
    ∃ jobId ∈ inputs.jobIds, r.jobs.idTaken jobId = false ∧
      record = JobSnapshot.new spec parentJobId jobId inputs.createdAt ∧
      r' = r.withJobs (r.jobs.publishRecord record scopes inputs.attachedAt) := by
  cases hids : inputs.jobIds with
  | nil =>
    unfold publish at h
    simp only [hids] at h
    cases h
  | cons firstId nextJobIds =>
    cases hinsert : r.jobs.insertWithIdGenerator
        (JobSnapshot.new spec parentJobId firstId inputs.createdAt) nextJobIds with
    | none =>
      unfold publish at h
      simp only [hids, hinsert] at h
      cases h
    | some result =>
      obtain ⟨inserted, jobs⟩ := result
      rw [r.publish_eq_of_insert hids hparent hinsert, some.injEq, Prod.mk.injEq] at h
      obtain ⟨rfl, rfl⟩ := h
      obtain ⟨jobId, hmem, hfree, hrecord, _⟩ := r.jobs.insertWithIdGenerator_eq_some hinsert
      exact ⟨jobId, hmem, hfree, hrecord, rfl⟩

lemma reserveMutation_cases {jobIds : List JobId} {outcome : Except JobFailure JobId}
    (h : r.reserveMutation D scopes jobIds = some (outcome, r')) :
    (∃ failure, outcome = .error failure ∧ r' = r) ∨
    ∃ ownerId, outcome = .ok ownerId ∧ ownerId ∈ jobIds ∧ r.jobs.idTaken ownerId = false ∧
      r.jobs.conflictingScope (scopes.map JobScope.normalized) = none ∧
      r' = r.withJobs (r.jobs.reserveScopes ownerId (scopes.map JobScope.normalized)) := by
  unfold reserveMutation at h
  dsimp only at h
  split at h
  · cases h
    exact .inl ⟨_, rfl, rfl⟩
  · split at h
    · cases h
      exact .inl ⟨_, rfl, rfl⟩
    · rename_i hfree
      split at h
      · cases h
      · rename_i ownerId hfind
        cases h
        have hvacant := List.find?_some hfind
        rw [Bool.not_eq_true'] at hvacant
        exact .inr ⟨ownerId, rfl, List.mem_of_find?_eq_some hfind, hvacant, hfree, rfl⟩

lemma reserveJobScopes_cases (jobId : JobId) (scopes : List JobScope) :
    (∃ failure, r.reserveJobScopes D jobId scopes = (.error failure, r)) ∨
    ∃ job, r.jobs.get jobId = some job ∧ job.state.isTerminal = false ∧
      r.jobs.conflictingScopeExcept (scopes.map JobScope.normalized) (some jobId) = none ∧
      r.reserveJobScopes D jobId scopes =
        (.ok (), r.withJobs (r.jobs.reserveScopes jobId (scopes.map JobScope.normalized))) := by
  unfold reserveJobScopes
  dsimp only
  split
  · exact .inl ⟨_, rfl⟩
  · split
    · exact .inl ⟨_, rfl⟩
    · rename_i hactive
      split
      · exact .inl ⟨_, rfl⟩
      · rename_i hfree
        cases hget : r.jobs.get jobId with
        | none => exact absurd (by rw [hget]; rfl) hactive
        | some job =>
          rw [hget, all_some, Bool.not_eq_true] at hactive
          exact .inr ⟨job, rfl, hactive, hfree, rfl⟩

lemma update_cases (jobId : JobId) (mark : JobMark) (now : Instant) :
    ((∀ record, r.jobs.get jobId = some record → record.state.isTerminal = true) ∧
      r.update jobId mark.transition now = ((false, none), r)) ∨
    ∃ record, r.jobs.get jobId = some record ∧ record.state.isTerminal = false ∧
      r.update jobId mark.transition now =
        ((true, JobStore.classifyTransition record.state (JobStore.withState record mark.target now)),
          r.withJobs (r.jobs.moveTo jobId record mark.target now)) := by
  unfold update
  cases hget : r.jobs.get jobId with
  | none =>
    refine .inl ⟨by simp, ?_⟩
    rw [r.jobs.transitionState_of_get_none hget]
  | some record =>
    by_cases hterm : record.state.isTerminal = true
    · refine .inl ⟨by simp [hterm], ?_⟩
      have hrefuse : mark.transition record.state = none := by rw [mark.transition_eq, if_pos hterm]
      rw [r.jobs.transitionState_of_refused hget hrefuse]
    · have hnext : mark.transition record.state = some mark.target := by
        rw [mark.transition_eq, if_neg hterm]
      have hlive : record.state.isTerminal = false := by simpa using hterm
      refine .inr ⟨record, rfl, hlive, ?_⟩
      rw [r.jobs.transitionState_of_live hget hlive hnext mark.target_isRunning_or_isTerminal]
      rfl

end JobRegistry

end RackManagement
