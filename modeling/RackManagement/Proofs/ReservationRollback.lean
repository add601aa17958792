import RackManagement.Model.RebootReservation
import RackManagement.Proofs.TrackerSteps

/-!
# Rollback of a cold reboot's reservations

A handler that could not reserve every node leaves the indexes and the live jobs as it found them.
Only expired records may have been evicted.
-/

namespace RackManagement

open Library JobRegistry List JobStore

namespace JobStore

/-- A terminal record owns no aliases. -/
def TerminalUnowned (s : JobStore) : Prop :=
  ∀ jobId job, s.get jobId = some job → job.state.isTerminal = true → ¬s.aliases.IsOwner jobId

variable {s : JobStore}

lemma TerminalUnowned.cleanupExpired (h : s.TerminalUnowned) (now : Instant) (ttl : Duration) :
    (s.cleanupExpired now ttl).TerminalUnowned := by
  intro jobId record hget hterm howner
  obtain ⟨hkeep, job, hjob, rfl⟩ := (s.get_cleanupExpired_eq_some now ttl jobId record).mp hget
  rw [OwnerTable.IsOwner, keysOf_cleanupExpired, if_neg hkeep] at howner
  exact h jobId job hjob (by simpa using hterm) howner

lemma TerminalUnowned.publishRecord (h : s.TerminalUnowned) {record : JobSnapshot} (scopes : List JobScope)
    (attachedAt : Instant) (hvacant : s.get record.jobId = none)
    (hparent : ∀ parentId, record.parentJobId = some parentId → s.canAcceptChild parentId = true)
    (hlive : record.state.isTerminal = false) :
    (s.publishRecord record scopes attachedAt).TerminalUnowned := by
  intro jobId job hget hterm howner
  rw [aliases_publishRecord, OwnerTable.isOwner_reserve] at howner
  rw [s.get_publishRecord scopes attachedAt hvacant hparent] at hget
  split at hget
  case isTrue =>
    cases hget
    rw [hlive] at hterm
    cases hterm
  case isFalse hne =>
    have howner := howner.resolve_right (fun hnew => hne hnew.1)
    split at hget
    · obtain ⟨parent, hparentGet, rfl⟩ := Option.map_eq_some_iff.mp hget
      exact h jobId parent hparentGet hterm howner
    · exact h jobId job hget hterm howner

end JobStore

namespace RegistryState

variable {D : JobDomain} {s t u : RegistryState} {op : RegistryOp}

lemma Effect.terminalUnowned (he : Effect u op t) (hlive : op.startsLive = true)
    (h : u.jobs.TerminalUnowned) :
    t.jobs.TerminalUnowned := by
  cases he with
  | unchanged => exact h
  | closed => exact h
  | created jobId drawn vacant parent idle free room =>
    have hvacant := ((u.jobs.idTaken_eq_false_iff jobId).mp vacant).2
    exact JobStore.TerminalUnowned.publishRecord h _ _ hvacant parent ((Bool.not_eq_true' _).mp hlive)
  | reserved ownerId drawn vacant free =>
    intro jobId job hget hterm howner
    have hvacant := ((u.jobs.idTaken_eq_false_iff ownerId).mp vacant).2
    obtain hold | ⟨rfl, -⟩ := (OwnerTable.isOwner_reserve u.jobs.aliases ownerId jobId _).mp howner
    · exact h jobId job hget hterm hold
    · cases hvacant.symm.trans hget
  | dropped ownerId held =>
    intro jobId job hget hterm howner
    exact h jobId job hget hterm ((OwnerTable.isOwner_release u.jobs.aliases ownerId jobId).mp howner).2
  | extended extendedId scopes extended tracked live free =>
    intro jobId job hget hterm howner
    obtain hold | ⟨rfl, -⟩ := (OwnerTable.isOwner_reserve u.jobs.aliases extendedId jobId _).mp howner
    · exact h jobId job hget hterm hold
    · cases tracked.symm.trans hget
      cases live.symm.trans hterm
  | moved movedId mark now moved tracked live =>
    intro jobId job hget hterm howner
    rw [jobs_withJobs, aliases_moveTo] at howner
    rw [jobs_withJobs, get_moveTo] at hget
    by_cases hid : jobId = movedId
    · rw [if_pos hid] at hget
      cases hget
      have hended : mark.target.isTerminal = true := hterm
      rw [if_pos hended, OwnerTable.isOwner_release] at howner
      exact howner.1 hid
    · rw [if_neg hid] at hget
      split at howner
      · exact h jobId job hget hterm ((OwnerTable.isOwner_release u.jobs.aliases movedId jobId).mp howner).2
      · exact h jobId job hget hterm howner
  | removed removedId removed tracked childless top queued =>
    intro jobId job hget hterm howner
    rw [jobs_withJobs, get_remove] at hget
    rw [jobs_withJobs, aliases_remove_of_get tracked, OwnerTable.isOwner_release] at howner
    rw [if_neg howner.1] at hget
    exact h jobId job hget hterm howner.2

lemma step_terminalUnowned (hcons : s.jobs.Consistent) (hlive : op.startsLive = true)
    (h : s.jobs.TerminalUnowned)
    (hstep : s.step D op = some t) : t.jobs.TerminalUnowned := by
  apply (step_effect hcons hstep).terminalUnowned hlive
  unfold afterSweep
  split
  · exact h
  · exact h.cleanupExpired _ _

end RegistryState

namespace TrackerState

variable {text : FailureText} {codec : ResultCodec}

lemma run_consistent_and_terminalUnowned {ttl : Duration} {maxJobs : Nat} {ops : List TrackerOp}
    {s : TrackerState}
    (h : run (step text codec) (initial ttl maxJobs) ops = some s) :
    s.jobs.Consistent ∧ s.jobs.TerminalUnowned := by
  let I : TrackerState → Prop := fun s => s.jobs.Consistent ∧ s.jobs.TerminalUnowned
  have hinit : I (initial ttl maxJobs) := ⟨consistent_empty, fun _ _ hget => by cases hget⟩
  have hstep : ∀ s op t, I s → step text codec s op = some t → I t := by
    intro s op t hs hst
    refine ⟨step_consistent hs.1 hst, ?_⟩
    obtain hcore | ⟨rop, hlive, -, hrop⟩ := step_core hst
    · rw [jobs, hcore]
      exact hs.2
    · exact RegistryState.step_terminalUnowned hs.1 hlive hs.2 hrop
  exact run_invariant hstep hinit h

end TrackerState

namespace ColdReboot

section Records

/-- A live record stays as it was; a terminal one may have been marked or evicted by a sweep. -/
inductive Retained (sweeps : List Instant) (ttl : Duration) : Option JobSnapshot → Option JobSnapshot → Prop
  | absent : Retained sweeps ttl none none
  | live {job : JobSnapshot} (running : job.state.isTerminal = false) :
    Retained sweeps ttl (some job) (some job)
  | terminal {job : JobSnapshot} (ended : job.state.isTerminal = true) (warned : Bool) :
      Retained sweeps ttl (some job) (some { job with monoInversionWarned := warned })
  | evicted {job : JobSnapshot} {now : Instant} (swept : now ∈ sweeps)
    (expired : expired now ttl job = true) :
      Retained sweeps ttl (some job) none

variable {sweeps : List Instant} {ttl : Duration}

lemma Retained.refl (record : Option JobSnapshot) : Retained sweeps ttl record record := by
  cases record with
  | none => exact .absent
  | some job =>
    cases hterm : job.state.isTerminal with
    | false => exact .live hterm
    | true => exact .terminal hterm job.monoInversionWarned

variable {job : JobSnapshot} {s : JobStore} {jobId : JobId} {now : Instant}

lemma Retained.cleanupExpired {before : Option JobSnapshot}
    (h : Retained sweeps ttl before (s.get jobId)) (hnow : now ∈ sweeps) :
    Retained sweeps ttl before ((s.cleanupExpired now ttl).get jobId) := by
  generalize hget : s.get jobId = record at h
  cases h with
  | absent =>
    rw [s.get_cleanupExpired, hget]
    split <;> exact .absent
  | live running =>
    rw [get_cleanupExpired_of_live now hget running]
    exact .live running
  | @terminal job ended warned =>
    rw [s.get_cleanupExpired, hget]
    split
    case isTrue hmem =>
      obtain ⟨record, hrecord, hexpired, -⟩ := (s.mem_expiredIds now ttl jobId).mp hmem
      cases hget.symm.trans hrecord
      exact .evicted hnow hexpired
    case isFalse =>
      obtain ⟨warned, hwarned⟩ := warnTerminal_eq now { job with monoInversionWarned := warned }
      rw [Option.map_some, hwarned]
      exact .terminal ended warned
  | evicted swept expired =>
    rw [s.get_cleanupExpired, hget]
    split <;> exact .evicted swept expired

lemma Retained.live_iff {before after : Option JobSnapshot} (h : Retained sweeps ttl before after)
    (hlive : job.state.isTerminal = false) : after = some job ↔ before = some job := by
  cases h with
  | absent => exact Iff.rfl
  | live running => exact Iff.rfl
  | @terminal record ended warned =>
    refine iff_of_false ?_ ?_
    · intro heq
      cases heq
      cases hlive.symm.trans ended
    · intro heq
      cases heq
      cases hlive.symm.trans ended
  | evicted swept expired =>
    refine iff_of_false (by simp) ?_
    intro heq
    cases heq
    simp [RackManagement.expired, hlive] at expired

end Records

/-- The state of the registry while the jobs `ids` are reserved, compared with the state before. -/
structure Reserved (sweeps : List Instant) (start : JobRegistry) (ids : List JobId)
    (r : JobRegistry) : Prop where
  consistent : r.jobs.Consistent
  terminalUnowned : r.jobs.TerminalUnowned
  ttl : r.ttl = start.ttl
  leaf : ∀ jobId ∈ ids, ∃ job, r.jobs.get jobId = some job ∧ job.childJobIds = [] ∧ job.parentJobId = none ∧
    job.state.isQueued = true
  vacant : ∀ jobId ∈ ids, Retained sweeps start.ttl (start.jobs.get jobId) none
  records : ∀ jobId ∉ ids, Retained sweeps start.ttl (start.jobs.get jobId) (r.jobs.get jobId)
  unowned : ∀ ownerId ∈ ids, start.jobs.aliases.keysOf.lookup ownerId = none
  owners : ∀ ownerId ∉ ids, r.jobs.aliases.keysOf.lookup ownerId = start.jobs.aliases.keysOf.lookup ownerId

namespace Reserved

variable {D : JobDomain} {sweeps : List Instant} {start r : JobRegistry} {ids : List JobId}

lemma of_start (hcons : start.jobs.Consistent) (hterminal : start.jobs.TerminalUnowned) :
    Reserved sweeps start [] start where
  consistent := hcons
  terminalUnowned := hterminal
  ttl := rfl
  leaf := by simp
  vacant := by simp
  records := fun _ _ => .refl _
  unowned := by simp
  owners := fun _ _ => rfl

variable (h : Reserved sweeps start ids r)
include h

lemma cleanupExpired (hnow : now ∈ sweeps) : Reserved sweeps start ids (r.cleanupExpired now) where
  consistent := h.consistent.cleanupExpired now r.ttl
  terminalUnowned := h.terminalUnowned.cleanupExpired now r.ttl
  ttl := h.ttl
  leaf := by
    intro jobId hmem
    obtain ⟨job, hget, hchildless, htop, hqueued⟩ := h.leaf jobId hmem
    have hlive : job.state.isTerminal = false := by
      cases hstate : job.state <;> simp_all [JobLifecycleState.isQueued, JobLifecycleState.isTerminal]
    exact ⟨job, get_cleanupExpired_of_live now hget hlive, hchildless, htop, hqueued⟩
  vacant := h.vacant
  records := by
    intro jobId hmem
    have hretained := h.records jobId hmem
    rw [← h.ttl] at hretained ⊢
    exact hretained.cleanupExpired hnow
  unowned := h.unowned
  owners := by
    intro ownerId hmem
    rw [← h.owners ownerId hmem]
    refine (r.jobs.keysOf_cleanupExpired ownerId now r.ttl).trans ?_
    split
    case isFalse => rfl
    case isTrue hexpired =>
      -- an evicted record is terminal, so it had no aliases to give up
      obtain ⟨job, hget, hexpired, -⟩ := (r.jobs.mem_expiredIds now r.ttl ownerId).mp hexpired
      have hnot := h.terminalUnowned ownerId job hget (Bool.and_eq_true_iff.mp hexpired).1
      rw [OwnerTable.IsOwner, Option.not_isSome_iff_eq_none] at hnot
      exact hnot.symm

lemma swept (hnow : now ∈ sweeps) : Reserved sweeps start ids (r.swept now) := by
  unfold JobRegistry.swept
  split
  · exact h.cleanupExpired hnow
  · exact h

lemma conflictingScope_swept {scopes : List JobScope}
    (hfree : r.jobs.conflictingScope scopes = none) (now : Instant) :
    (r.swept now).jobs.conflictingScope scopes = none := by
  unfold JobRegistry.swept
  split
  · exact h.consistent.conflictingScope_cleanupExpired now r.ttl hfree
  · exact hfree

lemma publishRecord {record : JobSnapshot} {scopes : List JobScope} (attachedAt : Instant)
    (hvacant : r.jobs.idTaken record.jobId = false) (hfree : r.jobs.conflictingScope scopes = none)
    (hchildless : record.childJobIds = []) (htop : record.parentJobId = none)
    (hqueued : record.state.isQueued = true) :
    Reserved sweeps start (ids ++ [record.jobId])
      (r.withJobs (r.jobs.publishRecord record scopes attachedAt)) := by
  obtain ⟨hnotOwner, hnone⟩ := (r.jobs.idTaken_eq_false_iff record.jobId).mp hvacant
  have hparent :
      ∀ parentId, record.parentJobId = some parentId → r.jobs.canAcceptChild parentId = true := by
    rw [htop]
    intro parentId heq
    cases heq
  have hlive : record.state.isTerminal = false := by
    cases hstate : record.state <;> simp_all [JobLifecycleState.isQueued, JobLifecycleState.isTerminal]
  have hnew : record.jobId ∉ ids := by
    intro hmem
    obtain ⟨job, hget, -⟩ := h.leaf _ hmem
    cases hnone.symm.trans hget
  have hget : ∀ jobId, (r.jobs.publishRecord record scopes attachedAt).get jobId =
      if jobId = record.jobId then some record else r.jobs.get jobId := by
    intro jobId
    rw [r.jobs.get_publishRecord scopes attachedAt hnone hparent, htop]
    simp
  have hne : ∀ jobId, jobId ∉ ids ++ [record.jobId] → jobId ∉ ids ∧ jobId ≠ record.jobId := by
    intro jobId hmem
    simpa using hmem
  exact {
    consistent := h.consistent.publishRecord r.jobs scopes attachedAt hnone hparent hfree
    terminalUnowned := h.terminalUnowned.publishRecord scopes attachedAt hnone hparent hlive
    ttl := h.ttl
    leaf := by
      intro jobId hmem
      by_cases hid : jobId = record.jobId
      · exact ⟨record, (hget jobId).trans (if_pos hid), hchildless, htop, hqueued⟩
      · obtain ⟨job, hjob, hleaf⟩ := h.leaf jobId (by simpa [hid] using hmem)
        exact ⟨job, ((hget jobId).trans (if_neg hid)).trans hjob, hleaf⟩
    vacant := by
      intro jobId hmem
      obtain hmem | hmem := mem_append.mp hmem
      · exact h.vacant jobId hmem
      · rw [mem_singleton.mp hmem, ← hnone]
        exact h.records _ hnew
    records := by
      intro jobId hmem
      have hrecord := (hget jobId).trans (if_neg (hne jobId hmem).2)
      have hretained := h.records jobId (hne jobId hmem).1
      rw [← hrecord] at hretained
      exact hretained
    unowned := by
      intro ownerId hmem
      obtain hmem | hmem := mem_append.mp hmem
      · exact h.unowned ownerId hmem
      · rw [mem_singleton.mp hmem, ← h.owners _ hnew]
        simpa [OwnerTable.IsOwner] using hnotOwner
    owners := by
      intro ownerId hmem
      have hkeys : (r.jobs.publishRecord record scopes attachedAt).aliases.keysOf.lookup ownerId =
          r.jobs.aliases.keysOf.lookup ownerId := by
        rw [aliases_publishRecord]
        exact OwnerTable.keysOf_reserve_ne _ _ (hne ownerId hmem).2
      exact hkeys.trans (h.owners ownerId (hne ownerId hmem).1) }

lemma createJobIfNodeIdle {node : NodeReservation} (hnow : node.inputs.sweepAt ∈ sweeps)
    {outcome : Except JobFailure JobSnapshot} {r' : JobRegistry}
    (hcreate : createJobIfNodeIdle D r node = some (outcome, r')) :
    match outcome with
    | .ok record => Reserved sweeps start (ids ++ [record.jobId]) r'
    | .error _ => Reserved sweeps start ids r' := by
  obtain ⟨failure, -, rfl, rfl⟩ | ⟨-, ⟨failure, rfl⟩, rfl⟩ | ⟨hadmitted, -, record, rfl, hpublish⟩ :=
    r.createJobWithScopes_cases D hcreate
  · exact h
  · exact h.swept hnow
  · have hswept := h.swept hnow
    have hfree :=
      h.conflictingScope_swept (r.admissionFailure_eq_none D hadmitted).2.2.2 node.inputs.sweepAt
    obtain ⟨jobId, -, hvacant, hrecord, rfl⟩ := publish_eq_some _ (by rintro parentId ⟨⟩) hpublish
    subst hrecord
    exact hswept.publishRecord node.inputs.attachedAt hvacant hfree rfl rfl rfl

end Reserved

section Rollback

variable {D : JobDomain}

lemma removeQueuedJobs_eq {ids : List JobId} {r : JobRegistry}
    (h : ∀ jobId ∈ ids, ∀ job, r.jobs.get jobId = some job →
      job.childJobIds = [] ∧ job.parentJobId = none ∧ job.state.isQueued = true) :
    removeQueuedJobs r ids = r.withJobs (r.jobs.removeAll ids) := by
  induction ids generalizing r with
  | nil => rfl
  | cons jobId ids ih =>
    have hhead : (r.removeQueuedLeaf jobId).2 = r.withJobs (r.jobs.remove jobId).2 := by
      unfold JobRegistry.removeQueuedLeaf
      obtain hkept | ⟨job, -, -, -, -, hremoved⟩ := r.jobs.removeQueuedLeaf_cases jobId
      · cases hget : r.jobs.get jobId with
        | none =>
          rw [hkept, remove_of_get_none hget]
          rfl
        | some job =>
          obtain ⟨hchildless, htop, hqueued⟩ := h jobId mem_cons_self job hget
          cases hkept.symm.trans (r.jobs.removeQueuedLeaf_of_leaf hget hchildless htop hqueued)
      · rw [hremoved]
        rfl
    have hrest : ∀ other ∈ ids, ∀ job, (r.jobs.remove jobId).2.get other = some job →
        job.childJobIds = [] ∧ job.parentJobId = none ∧ job.state.isQueued = true := by
      intro other hmem job hget
      rw [get_remove] at hget
      split at hget
      · cases hget
      · exact h other (mem_cons_of_mem jobId hmem) job hget
    have hstep :
        removeQueuedJobs r (jobId :: ids) = removeQueuedJobs (r.removeQueuedLeaf jobId).2 ids := rfl
    rw [hstep, hhead, ih hrest]
    rfl

lemma foldl_dropHandle (dropped : JobId → DropInputs) {ids : List JobId} {r : JobRegistry}
    (h : ∀ jobId ∈ ids, r.jobs.get jobId = none) : ids.foldl (dropHandle D dropped) r = r := by
  induction ids with
  | nil => rfl
  | cons jobId ids ih =>
    have hhead : dropHandle D dropped r jobId = r := by
      obtain ⟨-, hupdate⟩ | ⟨job, hget, -⟩ :=
        r.update_cases jobId ((HandleCall.drop (dropped jobId).cancelled).mark D none) (dropped jobId).now
      · exact congrArg Prod.snd hupdate
      · cases (h jobId mem_cons_self).symm.trans hget
    rw [foldl_cons, hhead]
    exact ih (fun other hmem => h other (mem_cons_of_mem jobId hmem))

/-- The indexes and the live jobs are as before, and a missing record was expired at one of the sweeps. -/
structure RolledBack (sweeps : List Instant) (before after : JobRegistry) : Prop where
  racks : ∀ rackId, (after.jobs.activeByNode.lookup rackId).isSome =
    (before.jobs.activeByNode.lookup rackId).isSome
  nodes : ∀ rackId nodeId,
    (after.jobs.activeByNode.bucket rackId nodeId).isSome =
      (before.jobs.activeByNode.bucket rackId nodeId).isSome
  activeJobs : ∀ rackId nodeId jobId,
    after.jobs.activeByNode.Contains rackId nodeId jobId ↔
      before.jobs.activeByNode.Contains rackId nodeId jobId
  scopes : ∀ scope, after.jobs.activeByScope.lookup scope = before.jobs.activeByScope.lookup scope
  owners : ∀ ownerId, after.jobs.scopesByOwner.lookup ownerId = before.jobs.scopesByOwner.lookup ownerId
  live : ∀ jobId job, job.state.isTerminal = false →
    (after.jobs.get jobId = some job ↔ before.jobs.get jobId = some job)
  records : ∀ jobId, Retained sweeps before.ttl (before.jobs.get jobId) (after.jobs.get jobId)

variable {sweeps : List Instant} {start r : JobRegistry} {ids : List JobId}

lemma Reserved.rolledBack (hstart : start.jobs.Consistent) (h : Reserved sweeps start ids r) :
    RolledBack sweeps start (r.withJobs (r.jobs.removeAll ids)) := by
  have hcons : (r.jobs.removeAll ids).Consistent := h.consistent.removeAll ids
  have hrecords :
      ∀ jobId, Retained sweeps start.ttl (start.jobs.get jobId) ((r.jobs.removeAll ids).get jobId) := by
    intro jobId
    rw [get_removeAll]
    split
    case isTrue hmem => exact h.vacant jobId hmem
    case isFalse hmem => exact h.records jobId hmem
  have hlive : ∀ jobId job, job.state.isTerminal = false →
      ((r.jobs.removeAll ids).get jobId = some job ↔ start.jobs.get jobId = some job) :=
    fun jobId job hrunning => (hrecords jobId).live_iff hrunning
  have hactive : ∀ rackId nodeId jobId, (r.jobs.removeAll ids).activeByNode.Contains rackId nodeId jobId ↔
      start.jobs.activeByNode.Contains rackId nodeId jobId := by
    intro rackId nodeId jobId
    rw [hcons.indexed, hstart.indexed]
    apply exists_congr
    intro job
    by_cases hindex : shouldIndex job = true
    · have hrunning : job.state.isTerminal = false := by
        simp only [shouldIndex, Bool.and_eq_true, Bool.not_eq_true'] at hindex
        exact hindex.2
      rw [hlive jobId job hrunning]
    · simp [hindex]
  have howners : ∀ ownerId, (r.jobs.removeAll ids).aliases.keysOf.lookup ownerId =
      start.jobs.aliases.keysOf.lookup ownerId := by
    intro ownerId
    rw [keysOf_removeAll]
    by_cases hmem : ownerId ∈ ids
    · obtain ⟨job, hget, -⟩ := h.leaf ownerId hmem
      rw [if_pos ⟨hmem, by simp [hget]⟩, h.unowned ownerId hmem]
    · rw [if_neg (fun hboth => hmem hboth.1), h.owners ownerId hmem]
  exact {
    racks := by
      intro rackId
      rw [Bool.eq_iff_iff]
      refine (hcons.pruned.isSome_lookup_iff rackId).trans ?_
      simp only [hactive]
      exact (hstart.pruned.isSome_lookup_iff rackId).symm
    nodes := by
      intro rackId nodeId
      rw [Bool.eq_iff_iff]
      refine (hcons.pruned.isSome_bucket_iff rackId nodeId).trans ?_
      simp only [hactive]
      exact (hstart.pruned.isSome_bucket_iff rackId nodeId).symm
    activeJobs := hactive
    scopes := by
      intro scope
      apply Option.ext
      intro ownerId
      refine (hcons.coherent.inverse scope ownerId).trans ?_
      unfold OwnerTable.Holds
      rw [howners]
      exact (hstart.coherent.inverse scope ownerId).symm
    owners := howners
    live := hlive
    records := hrecords }

lemma rolledBack_of_reserveNodes {dropped : JobId → DropInputs} {nodes : List NodeReservation}
    {failure : JobFailure}
    {r' : JobRegistry} (hstart : start.jobs.Consistent)
    (hsweeps : ∀ node ∈ nodes, node.inputs.sweepAt ∈ sweeps)
    (h : Reserved sweeps start ids r)
    (hfail : reserveNodes D dropped nodes ids r = some (.error failure, r')) :
    RolledBack sweeps start r' := by
  induction nodes generalizing ids r with
  | nil => cases hfail
  | cons node nodes ih =>
    have hrest : ∀ other ∈ nodes, other.inputs.sweepAt ∈ sweeps :=
      fun other hmem => hsweeps other (mem_cons_of_mem node hmem)
    have hnow := hsweeps node mem_cons_self
    rw [reserveNodes] at hfail
    split at hfail
    · cases hfail
    · rename_i record next hcreate
      exact ih hrest (h.createJobIfNodeIdle hnow hcreate) hfail
    · rename_i refusal next hcreate
      have hrefused : Reserved sweeps start ids next := h.createJobIfNodeIdle hnow hcreate
      have hleaf : ∀ jobId ∈ ids, ∀ job, next.jobs.get jobId = some job →
          job.childJobIds = [] ∧ job.parentJobId = none ∧ job.state.isQueued = true := by
        intro jobId hmem job hget
        obtain ⟨leaf, hleaf, hrest⟩ := hrefused.leaf jobId hmem
        cases hget.symm.trans hleaf
        exact hrest
      have hgone : ∀ jobId ∈ ids, (next.withJobs (next.jobs.removeAll ids)).jobs.get jobId = none := by
        intro jobId hmem
        exact (next.jobs.get_removeAll ids jobId).trans (if_pos hmem)
      dsimp only at hfail
      rw [removeQueuedJobs_eq hleaf, foldl_dropHandle dropped hgone] at hfail
      cases hfail
      exact hrefused.rolledBack hstart

/-- If the reservation of any node is refused, the registry is rolled back completely. -/
theorem reserveNodes_rolls_back {text : FailureText} {codec : ResultCodec} {ttl : Duration} {maxJobs : Nat}
    {ops : List TrackerOp} {s : TrackerState} {dropped : JobId → DropInputs} {nodes : List NodeReservation}
    {failure : JobFailure} {after : JobRegistry}
    (hrun : run (TrackerState.step text codec) (TrackerState.initial ttl maxJobs) ops = some s)
    (hfail : reserveNodes (rmsJobDomain text) dropped nodes [] s.core.registry =
      some (.error failure, after)) :
    RolledBack (nodes.map (fun node => node.inputs.sweepAt)) s.core.registry after := by
  obtain ⟨hcons, hterminal⟩ := TrackerState.run_consistent_and_terminalUnowned hrun
  apply rolledBack_of_reserveNodes hcons _ (Reserved.of_start hcons hterminal) hfail
  intro node hmem
  exact mem_map_of_mem hmem

def busySecond : List NodeReservation :=
  [⟨"rack", "free", ⟨[⟨"first"⟩], 0, 0, 0⟩⟩, ⟨"rack", "busy", ⟨[⟨"second"⟩], 0, 0, 0⟩⟩]

def busyTracker : Option TrackerState :=
  run (TrackerState.step TrackerState.plainText TrackerState.plainCodec) (TrackerState.initial 60 10)
    [.create (.jobIfNodeIdle "rack" "busy") ⟨[⟨"job"⟩], 0, 0, 0⟩]

theorem busySecond_rolls_back : ∃ s failure after, busyTracker = some s ∧
      reserveNodes (rmsJobDomain TrackerState.plainText)
        (fun _ => ⟨false, 0⟩) busySecond [] s.core.registry =
        some (.error failure, after) ∧
      RolledBack (busySecond.map (fun node => node.inputs.sweepAt)) s.core.registry after := by
  have hrefused :
      ∃ failure after, busyTracker.bind (fun s => reserveNodes (rmsJobDomain TrackerState.plainText)
      (fun _ => ⟨false, 0⟩) busySecond [] s.core.registry) = some (.error failure, after) := ⟨_, _, rfl⟩
  obtain ⟨failure, after, hrefused⟩ := hrefused
  obtain ⟨s, hrun, hfail⟩ := Option.bind_eq_some_iff.mp hrefused
  exact ⟨s, failure, after, hrun, hfail, reserveNodes_rolls_back hrun hfail⟩

end Rollback

end ColdReboot

end RackManagement
