import RackManagement.Library.Runs
import RackManagement.Proofs.RegistryEffects

/-! # The registry invariant -/

namespace RackManagement

open Library JobRegistry JobStore

namespace RegistryState

variable {D : JobDomain} {s t u : RegistryState} {op : RegistryOp}

lemma consistent_afterSweep (h : s.jobs.Consistent) : (s.afterSweep D op).jobs.Consistent := by
  unfold afterSweep
  split
  · exact h
  · exact h.cleanupExpired _ _

lemma Effect.consistent (he : Effect u op t) (h : u.jobs.Consistent) : t.jobs.Consistent := by
  cases he with
  | unchanged => exact h
  | created jobId drawn vacant parent idle free room =>
    have hvacant := ((u.jobs.idTaken_eq_false_iff jobId).mp vacant).2
    exact JobStore.Consistent.publishRecord u.jobs _ _ hvacant parent h free
  | reserved ownerId drawn vacant free =>
    apply h.reserveScopes
    intro scope hscope other hown
    rw [((u.jobs.conflictingScope_eq_none_iff _).mp free scope hscope).1] at hown
    cases hown
  | dropped ownerId held => exact h.releaseScopes ownerId
  | extended jobId scopes job tracked live free =>
    apply h.reserveScopes
    intro scope hscope other hown
    have hbusy := (u.jobs.conflictingScopeExcept_eq_none_iff _ _).mp free scope hscope
    have howner := ((u.jobs.busyOwner_eq_none_iff _ _).mp hbusy).1 other hown
    exact Option.some.inj howner
  | moved jobId mark now job tracked live => exact h.moveTo tracked live now
  | removed jobId job tracked childless top queued => exact h.remove jobId
  | closed => exact h

lemma step_consistent (h : s.jobs.Consistent) (hstep : s.step D op = some t) : t.jobs.Consistent :=
  (step_effect h hstep).consistent (consistent_afterSweep h)

def Bounded (s : RegistryState) : Prop := s.jobs.trackedJobCount ≤ s.registry.maxJobs

lemma bounded_afterSweep (h : s.Bounded) : (s.afterSweep D op).Bounded := by
  unfold afterSweep
  split
  · exact h
  · exact (s.jobs.trackedJobCount_cleanupExpired_le _ _).trans h

lemma Effect.bounded (he : Effect u op t) (h : u.Bounded) : t.Bounded := by
  unfold Bounded at h ⊢
  cases he with
  | created jobId drawn vacant parent idle free room =>
    have hvacant := ((u.jobs.idTaken_eq_false_iff jobId).mp vacant).2
    rw [jobs_withJobs, maxJobs_withJobs, u.jobs.trackedJobCount_publishRecord _ _ hvacant parent]
    omega
  | moved jobId mark now job tracked live =>
    rw [jobs_withJobs, u.jobs.trackedJobCount_moveTo _ _ _ tracked]
    exact h
  | removed jobId job tracked childless top queued =>
    exact (u.jobs.trackedJobCount_remove_le jobId).trans h
  | unchanged => exact h
  | reserved ownerId drawn vacant free => exact h
  | dropped ownerId held => exact h
  | extended jobId scopes job tracked live free => exact h
  | closed => exact h

/-- Every owner of aliases is a direct mutation whose guard is held or a live job. -/
def OwnersActive (s : RegistryState) : Prop :=
  ∀ ownerId, s.jobs.aliases.IsOwner ownerId →
    ownerId ∈ s.reservations ∨ ∃ job, s.jobs.get ownerId = some job ∧ job.state.isTerminal = false

end RegistryState

/-- A creation starts its job in a state that is not terminal. -/
def RegistryOp.startsLive : RegistryOp → Bool
  | .create spec _ _ _ _ => !spec.initialState.isTerminal
  | _ => true

namespace RegistryState

variable {D : JobDomain} {s t u : RegistryState} {op : RegistryOp}

lemma ownersActive_sweep (h : s.OwnersActive) (now : Instant) : (s.sweep now).OwnersActive := by
  intro ownerId howner
  unfold OwnerTable.IsOwner at howner
  rw [jobs_sweep, keysOf_cleanupExpired] at howner
  split at howner
  · cases howner
  · rename_i hkeep
    rcases h ownerId howner with hheld | ⟨job, hget, hlive⟩
    · exact .inl hheld
    · refine .inr ⟨warnTerminal now job, ?_, by simpa using hlive⟩
      exact (s.jobs.get_cleanupExpired_eq_some _ _ _ _).mpr ⟨hkeep, job, hget, rfl⟩

lemma ownersActive_afterSweep (h : s.OwnersActive) : (s.afterSweep D op).OwnersActive := by
  unfold afterSweep
  split
  · exact h
  · exact ownersActive_sweep h _

lemma live_publishRecord {jobs : JobStore} {record : JobSnapshot} (scopes : List JobScope)
    (attachedAt : Instant) (hvacant : jobs.get record.jobId = none)
    (hparent : ∀ parentId, record.parentJobId = some parentId → jobs.canAcceptChild parentId = true)
    {jobId : JobId} {job : JobSnapshot} (hget : jobs.get jobId = some job)
    (hlive : job.state.isTerminal = false) :
    ∃ job', (jobs.publishRecord record scopes attachedAt).get jobId = some job' ∧
      job'.state.isTerminal = false := by
  have hne := ne_of_get hget hvacant
  rw [jobs.get_publishRecord scopes attachedAt hvacant hparent, if_neg hne, hget]
  split
  · exact ⟨withChild job record.jobId attachedAt, rfl, hlive⟩
  · exact ⟨job, rfl, hlive⟩

lemma Effect.ownersActive (he : Effect u op t) (hlive : op.startsLive = true) (h : u.OwnersActive) :
    t.OwnersActive := by
  intro ownerId howner
  cases he with
  | unchanged => exact h ownerId howner
  | closed => exact h ownerId howner
  | @created spec parentJobId requireNodeIdle scopes inputs jobId drawn vacant parent idle free room =>
    have hvacant := ((u.jobs.idTaken_eq_false_iff jobId).mp vacant).2
    rw [jobs_withJobs, aliases_publishRecord, OwnerTable.isOwner_reserve] at howner
    rcases howner with hold | ⟨rfl, _⟩
    · rcases h ownerId hold with hheld | ⟨job, hget, hjob⟩
      · exact .inl hheld
      · exact .inr (live_publishRecord _ _ hvacant parent hget hjob)
    · refine .inr ⟨newRecord spec parentJobId ownerId inputs, ?_, ?_⟩
      · rw [jobs_withJobs, u.jobs.get_publishRecord _ _ hvacant parent]
        exact if_pos rfl
      · exact (Bool.not_eq_true' _).mp hlive
  | reserved newOwner drawn vacant free =>
    have hcases := (OwnerTable.isOwner_reserve u.jobs.aliases newOwner ownerId _).mp howner
    rcases hcases with hold | ⟨rfl, _⟩
    · rcases h ownerId hold with hheld | hjob
      · exact .inl (List.mem_cons_of_mem _ hheld)
      · exact .inr hjob
    · exact .inl List.mem_cons_self
  | dropped droppedId held =>
    have hcases := (OwnerTable.isOwner_release u.jobs.aliases droppedId ownerId).mp howner
    rcases h ownerId hcases.2 with hheld | hjob
    · exact .inl ((List.mem_erase_of_ne hcases.1).mpr hheld)
    · exact .inr hjob
  | extended jobId scopes job tracked live free =>
    have hcases := (OwnerTable.isOwner_reserve u.jobs.aliases jobId ownerId _).mp howner
    rcases hcases with hold | ⟨rfl, _⟩
    · exact h ownerId hold
    · exact .inr ⟨job, tracked, live⟩
  | moved jobId mark now job tracked live =>
    rw [jobs_withJobs, aliases_moveTo] at howner
    by_cases hterm : mark.target.isTerminal = true
    · rw [if_pos hterm, OwnerTable.isOwner_release] at howner
      rw [jobs_withJobs, get_moveTo, if_neg howner.1]
      exact h ownerId howner.2
    · rw [if_neg hterm] at howner
      rcases h ownerId howner with hheld | ⟨owned, hget, howned⟩
      · exact .inl hheld
      · refine .inr ?_
        rw [jobs_withJobs, get_moveTo]
        split
        · exact ⟨_, rfl, Bool.eq_false_of_not_eq_true hterm⟩
        · exact ⟨owned, hget, howned⟩
  | removed jobId job tracked childless top queued =>
    unfold OwnerTable.IsOwner at howner
    rw [jobs_withJobs, keysOf_remove, tracked] at howner
    split at howner
    · cases howner
    · rename_i hne
      have hne' : ownerId ≠ jobId := fun heq => hne ⟨heq, rfl⟩
      rw [jobs_withJobs, get_remove, if_neg hne']
      exact h ownerId howner

lemma step_ownersActive (hcons : s.jobs.Consistent) (hlive : op.startsLive = true) (h : s.OwnersActive)
    (hstep : s.step D op = some t) : t.OwnersActive :=
  (step_effect hcons hstep).ownersActive hlive (ownersActive_afterSweep h)

/-- The indexes list what the records say, and the capacity is kept. -/
structure IndexesAgree (s : RegistryState) : Prop where
  activeByNode : ∀ rackId nodeId jobId, s.jobs.activeByNode.Contains rackId nodeId jobId ↔
    ∃ job, s.jobs.get jobId = some job ∧ job.nodeId ≠ "" ∧ job.state.isTerminal = false ∧
      job.rackId = rackId ∧ job.nodeId = nodeId
  noEmptyBucket : s.jobs.activeByNode.Pruned
  inverse : ∀ scope ownerId, s.jobs.activeByScope.lookup scope = some ownerId ↔
    ∃ scopes, s.jobs.scopesByOwner.lookup ownerId = some scopes ∧ scope ∈ scopes
  noEmptyOwner : ∀ ownerId scopes, s.jobs.scopesByOwner.lookup ownerId = some scopes →
    ∃ scope, scope ∈ scopes
  capacity : s.jobs.trackedJobCount ≤ s.registry.maxJobs

lemma IndexesAgree.of_consistent (h : s.jobs.Consistent) (hbound : s.Bounded) : s.IndexesAgree where
  activeByNode := by
    intro rackId nodeId jobId
    rw [h.indexed]
    simp only [shouldIndex, Bool.and_eq_true, bne_iff_ne, Bool.not_eq_true', and_assoc]
  noEmptyBucket := h.pruned
  inverse := h.coherent.inverse
  noEmptyOwner := h.coherent.nonempty
  capacity := hbound

lemma run_consistent {ttl : Duration} {maxJobs : Nat} {ops : List RegistryOp}
    (h : run (step D) (initial ttl maxJobs) ops = some s) : s.jobs.Consistent := by
  refine run_invariant (I := fun s => s.jobs.Consistent) ?_ consistent_empty h
  intro s op t hs hstep
  exact step_consistent hs hstep

lemma run_bounded {ttl : Duration} {maxJobs : Nat} {ops : List RegistryOp}
    (h : run (step D) (initial ttl maxJobs) ops = some s) : s.Bounded := by
  let I : RegistryState → Prop := fun s => s.jobs.Consistent ∧ s.Bounded
  have hinit : I (initial ttl maxJobs) := ⟨consistent_empty, Nat.zero_le maxJobs⟩
  have hstep : ∀ s op t, I s → step D s op = some t → I t := by
    intro s op t hs hstep
    exact ⟨step_consistent hs.1 hstep, (step_effect hs.1 hstep).bounded (bounded_afterSweep hs.2)⟩
  exact (run_invariant hstep hinit h).2

/-- The indexes agree with the records, and if every job starts live, every owner of aliases is a
held guard or a live job. -/
theorem run_indexesAgree_and_ownersActive {ttl : Duration} {maxJobs : Nat} {ops : List RegistryOp}
    (h : run (step D) (initial ttl maxJobs) ops = some s) :
    s.IndexesAgree ∧ ((∀ op ∈ ops, op.startsLive = true) → s.OwnersActive) := by
  have hcons := run_consistent h
  have hbound := run_bounded h
  refine ⟨.of_consistent hcons hbound, fun hlive => ?_⟩
  let I : RegistryState → Prop := fun s => s.jobs.Consistent ∧ s.OwnersActive
  have hinit : I (initial ttl maxJobs) := by
    refine ⟨consistent_empty, fun ownerId howner => ?_⟩
    simp [OwnerTable.IsOwner, initial, withCapacity, empty, aliases] at howner
  have hstep : ∀ s op t, op ∈ ops → I s → step D s op = some t → I t := by
    intro s op t hop hs hst
    exact ⟨step_consistent hs.1 hst, step_ownersActive hs.1 (hlive op hop) hs.2 hst⟩
  exact (run_invariant_of_mem hstep hinit h).2

/-- The tracker's domain with failures printed without their JSON form. -/
def plainDomain : JobDomain := rmsJobDomain ⟨fun _ => "scope", fun _ errorMessage => errorMessage⟩

/-- A guard and a job on a node: a run with an owner of each kind. -/
def guardAndJob : List RegistryOp :=
  [.reserveMutation [.physicalSwitch "chassis" 1] [⟨"guard"⟩],
    .create (JobSpec.new "rack" "node" "queued") none true [] ⟨[⟨"guard"⟩, ⟨"job"⟩], 0, 0, 0⟩]

theorem run_guardAndJob_ownersActive :
    ∃ s, run (step plainDomain) (initial 60 10) guardAndJob = some s ∧ s.IndexesAgree ∧ s.OwnersActive := by
  have h : run (step plainDomain) (initial 60 10) guardAndJob = some _ := rfl
  have hmain := run_indexesAgree_and_ownersActive h
  exact ⟨_, h, hmain.1, hmain.2 (by decide)⟩

/-- A job created in a terminal state keeps the aliases it was created with. -/
theorem created_terminal_not_ownersActive : ∃ s, run (step plainDomain) (initial 60 10)
      [.create { JobSpec.new "rack" "" "queued" with initialState := .completed "done" "" } none false
        [.logicalNode "rack" "node"] ⟨[⟨"job"⟩], 0, 0, 0⟩] = some s ∧ ¬s.OwnersActive := by
  refine ⟨_, rfl, fun h => ?_⟩
  rcases h ⟨"job"⟩ rfl with hheld | ⟨job, hget, hlive⟩
  · cases hheld
  · cases hget
    cases hlive

end RegistryState

end RackManagement
