import Mathlib.Algebra.BigOperators.Group.List.Basic
import RackManagement.Proofs.TerminalNotification

/-!
# Accuracy of the in-flight gauge

The gauge of a label, corrected by the observer calls still to be made, is the number of live
visible jobs with it, as long as only hidden jobs are removed.
-/

namespace RackManagement

open Library JobRegistry Option

def inFlightAs (label : WorkflowLabel) (job : JobSnapshot) : Bool :=
  job.workflowType == some label.1 && (job.nodeId != "") == label.2 && !job.state.isTerminal

/-- The unfinished jobs that the gauge counts under a label. -/
def JobStore.inFlightCount (s : JobStore) (label : WorkflowLabel) : Nat :=
  FiniteMap.countValues (inFlightAs label) s.byId

def ObserverCall.delta (label : WorkflowLabel) : ObserverCall → Int
  | .created snapshot => if WorkflowMetrics.labelOf snapshot = some label then 1 else 0
  | .terminal snapshot =>
    if WorkflowMetrics.labelOf snapshot = some label ∧ snapshot.state.isTerminal = true then -1 else 0

variable (label : WorkflowLabel)

lemma delta_created (snapshot : JobSnapshot) : (ObserverCall.created snapshot).delta label =
      if WorkflowMetrics.labelOf snapshot = some label then 1 else 0 := rfl

lemma delta_terminal (snapshot : JobSnapshot) : (ObserverCall.terminal snapshot).delta label =
      if WorkflowMetrics.labelOf snapshot = some label ∧ snapshot.state.isTerminal = true then -1
      else 0 := rfl

lemma inFlightAs_eq (job : JobSnapshot) :
    inFlightAs label job =
      (decide (WorkflowMetrics.labelOf job = some label) && !job.state.isTerminal) := by
  obtain ⟨workflowType, isLeaf⟩ := label
  unfold inFlightAs WorkflowMetrics.labelOf
  cases job.workflowType with
  | none => simp
  | some jobType => simp [Prod.ext_iff, Bool.decide_and, beq_eq_decide]

namespace WorkflowMetrics

variable (m : WorkflowMetrics)

lemma inFlight_addInFlight (label other : WorkflowLabel) (delta : Int) :
    (m.addInFlight label delta).inFlight other = m.inFlight other + if label = other then delta else 0 := by
  by_cases h : other = label
  · simp [addInFlight, h]
  · have h' : ¬label = other := fun he => h he.symm
    simp [addInFlight, h, h']

lemma inFlight_recordStarted (snapshot : JobSnapshot) (label : WorkflowLabel) :
    (m.recordStarted snapshot).inFlight label =
      m.inFlight label + (ObserverCall.created snapshot).delta label := by
  unfold recordStarted
  rw [delta_created]
  cases labelOf snapshot with
  | none => simp
  | some own =>
    simp only [some.injEq]
    exact inFlight_addInFlight _ _ _ _

lemma inFlight_recordTerminal (snapshot : JobSnapshot) (label : WorkflowLabel) :
    (m.recordTerminal snapshot).inFlight label =
      m.inFlight label + (ObserverCall.terminal snapshot).delta label := by
  unfold recordTerminal
  rw [delta_terminal]
  cases labelOf snapshot with
  | none => simp
  | some own =>
    cases snapshot.state with
    | completed description resultJson =>
      simp only [some.injEq, JobLifecycleState.isTerminal, and_true]
      exact inFlight_addInFlight _ _ _ _
    | failed description failure message resultJson =>
      simp only [some.injEq, JobLifecycleState.isTerminal, and_true]
      exact inFlight_addInFlight _ _ _ _
    | queued description => simp [JobLifecycleState.isTerminal]
    | running description => simp [JobLifecycleState.isTerminal]

lemma inFlight_observe (call : ObserverCall) (label : WorkflowLabel) :
    (m.observe call).inFlight label = m.inFlight label + call.delta label := by
  cases call with
  | created snapshot => exact inFlight_recordStarted m snapshot label
  | terminal snapshot => exact inFlight_recordTerminal m snapshot label

end WorkflowMetrics

namespace JobStore

variable {s t : JobStore} {label : WorkflowLabel}

lemma inFlightCount_congr
    (h : ∀ jobId, (s.get jobId).any (inFlightAs label) = (t.get jobId).any (inFlightAs label)) :
    s.inFlightCount label = t.inFlightCount label :=
  FiniteMap.countValues_congr h

lemma inFlightCount_update (jobId : JobId) (h : ∀ other, other ≠ jobId →
      (s.get other).any (inFlightAs label) = (t.get other).any (inFlightAs label)) :
    t.inFlightCount label + ((s.get jobId).any (inFlightAs label)).toNat =
      s.inFlightCount label + ((t.get jobId).any (inFlightAs label)).toNat :=
  FiniteMap.countValues_update jobId h

lemma inFlightCount_cleanupExpired (now : Instant) (ttl : Duration) :
    (s.cleanupExpired now ttl).inFlightCount label = s.inFlightCount label := by
  apply inFlightCount_congr
  intro jobId
  rw [get_cleanupExpired]
  split
  · rename_i hexpired
    obtain ⟨job, hget, hexp, _⟩ := (s.mem_expiredIds now ttl jobId).mp hexpired
    have hterm : job.state.isTerminal = true := (Bool.and_eq_true_iff.mp hexp).1
    simp [hget, inFlightAs, hterm]
  · cases s.get jobId with
    | none => rfl
    | some job => simp [inFlightAs]

variable {jobId : JobId}

lemma inFlightCount_remove_hidden {job : JobSnapshot} (hget : s.get jobId = some job)
    (hhidden : job.workflowType = none) :
    (s.remove jobId).2.inFlightCount label = s.inFlightCount label := by
  apply inFlightCount_congr
  intro other
  rw [get_remove]
  split
  · rename_i ho
    rw [ho, hget, any_some]
    simp [inFlightAs, hhidden]
  · rfl

end JobStore

namespace RegistryState

variable {D : JobDomain} {s t u : RegistryState} {op : RegistryOp} {label : WorkflowLabel}

lemma inFlightCount_afterSweep (op : RegistryOp) :
    (s.afterSweep D op).jobs.inFlightCount label = s.jobs.inFlightCount label := by
  unfold afterSweep
  split
  · rfl
  · exact JobStore.inFlightCount_cleanupExpired _ _

lemma inFlightCount_publishRecord {record : JobSnapshot} {scopes : List JobScope} {attachedAt : Instant}
    (hvacant : u.jobs.get record.jobId = none) (hlive : record.state.isTerminal = false)
    (hparent : ∀ parentId, record.parentJobId = some parentId → u.jobs.canAcceptChild parentId = true) :
    ((u.jobs.publishRecord record scopes attachedAt).inFlightCount label : Int) =
      u.jobs.inFlightCount label + (ObserverCall.created record).delta label := by
  have hother : ∀ other, other ≠ record.jobId → (u.jobs.get other).any (inFlightAs label) =
      ((u.jobs.publishRecord record scopes attachedAt).get other).any (inFlightAs label) := by
    intro other hne
    rw [u.jobs.get_publishRecord _ _ hvacant hparent, if_neg hne]
    split
    · cases u.jobs.get other <;> rfl
    · rfl
  have hcount := JobStore.inFlightCount_update record.jobId hother
  rw [hvacant, u.jobs.get_publishRecord _ _ hvacant hparent, if_pos rfl, any_some, inFlightAs_eq,
    hlive] at hcount
  rw [delta_created]
  by_cases hlabel : WorkflowMetrics.labelOf record = some label
  · simp only [hlabel, decide_true, any_none, Bool.toNat_false, Bool.not_false, Bool.and_self,
      Bool.toNat_true] at hcount
    rw [if_pos hlabel]
    omega
  · simp only [hlabel, decide_false, any_none, Bool.toNat_false, Bool.false_and] at hcount
    rw [if_neg hlabel]
    omega

lemma inFlightCount_moveTo {job : JobSnapshot} {next : JobLifecycleState} {now : Instant}
    (hget : s.jobs.get jobId = some job) (hlive : job.state.isTerminal = false) :
    ((s.jobs.moveTo jobId job next now).inFlightCount label : Int) = s.jobs.inFlightCount label +
      (ObserverCall.terminal (JobStore.withState job next now)).delta label := by
  have hother : ∀ other, other ≠ jobId → (s.jobs.get other).any (inFlightAs label) =
      ((s.jobs.moveTo jobId job next now).get other).any (inFlightAs label) := by
    intro other hne
    rw [JobStore.get_moveTo, if_neg hne]
  have hcount := JobStore.inFlightCount_update jobId hother
  have hstate : (JobStore.withState job next now).state = next := rfl
  have hsame :
      WorkflowMetrics.labelOf (JobStore.withState job next now) = WorkflowMetrics.labelOf job := rfl
  rw [hget, JobStore.get_moveTo, if_pos rfl, any_some, any_some, inFlightAs_eq, inFlightAs_eq,
    hlive, hstate, hsame] at hcount
  rw [delta_terminal, hstate, hsame]
  by_cases hlabel : WorkflowMetrics.labelOf job = some label
  · cases hnext : next.isTerminal with
    | false =>
      simp only [hlabel, hnext, decide_true, Bool.not_false, Bool.and_self] at hcount
      simp only [hlabel, Bool.false_eq_true, and_false, if_false]
      omega
    | true =>
      simp only [hlabel, hnext, decide_true, Bool.not_false, Bool.not_true, Bool.and_self, Bool.and_false,
        Bool.toNat_true, Bool.toNat_false] at hcount
      simp only [hlabel, and_self, if_true]
      omega
  · simp only [hlabel, decide_false, Bool.false_and, Bool.toNat_false] at hcount
    simp only [hlabel, false_and, if_false]
    omega

lemma step_inFlightCount (hcons : s.jobs.Consistent) (hstep : s.step D op = some t)
    (hstart : op.startsLive = true)
    (hremoved : ∀ jobId job, op = .removeQueuedLeaf jobId → s.jobs.get jobId = some job →
      job.isParent = false → job.parentJobId = none → job.state.isQueued = true → job.workflowType = none) :
    (t.jobs.inFlightCount label : Int) =
      s.jobs.inFlightCount label + ((s.observerCalls D op).map (ObserverCall.delta label)).sum := by
  have hunchanged : t.jobs.inFlightCount label = (s.afterSweep D op).jobs.inFlightCount label →
      s.observerCalls D op = [] → (t.jobs.inFlightCount label : Int) =
        s.jobs.inFlightCount label + ((s.observerCalls D op).map (ObserverCall.delta label)).sum := by
    intro hcount hcalls
    rw [hcount, inFlightCount_afterSweep, hcalls]
    simp
  cases op with
  | create spec parentJobId requireNodeIdle scopes inputs =>
    obtain ⟨⟨failure, registry, hcreate⟩, rfl⟩ |
      ⟨jobId, registry, hcreate, _, hvacant, hparent, _, _, _, rfl⟩ :=
      create_cases inputs hcons hstep
    · apply hunchanged rfl
      simp only [observerCalls, hcreate]
    · have hlive : spec.initialState.isTerminal = false := by simpa [RegistryOp.startsLive] using hstart
      have hnone := ((JobStore.idTaken_eq_false_iff _ jobId).mp hvacant).2
      rw [jobs_withJobs, inFlightCount_publishRecord hnone hlive hparent, inFlightCount_afterSweep]
      simp only [observerCalls, hcreate, List.map_cons, List.map_nil, List.sum_cons, List.sum_nil, add_zero]
  | mark jobId mark now =>
    obtain ⟨hrefused, rfl⟩ | ⟨job, hget, hlive, rfl⟩ := step_mark_cases hstep
    · exact hunchanged rfl (observerCalls_mark_of_refused hrefused)
    · rw [jobs_withJobs, inFlightCount_moveTo hget hlive, observerCalls_mark_of_live hget hlive]
      split
      · simp
      · rename_i hnot
        have hstate : (JobStore.withState job mark.target now).state = mark.target := rfl
        simp [delta_terminal, hstate, hnot]
  | removeQueuedLeaf jobId =>
    have heffect := step_effect hcons hstep
    cases heffect with
    | unchanged => exact hunchanged rfl rfl
    | removed _ job tracked childless top queued =>
      have hleaf : job.isParent = false := by
        rw [JobSnapshot.isParent, childless, List.isEmpty_nil, Bool.not_true]
      have hhidden : job.workflowType = none := hremoved jobId job rfl tracked hleaf top queued
      exact hunchanged (JobStore.inFlightCount_remove_hidden tracked hhidden) rfl
  | reserveMutation scopes jobIds =>
    apply hunchanged _ rfl
    cases step_effect hcons hstep <;> rfl
  | dropReservation ownerId =>
    apply hunchanged _ rfl
    cases step_effect hcons hstep <;> rfl
  | reserveJobScopes jobId scopes =>
    apply hunchanged _ rfl
    cases step_effect hcons hstep <;> rfl
  | cleanupExpired now =>
    apply hunchanged _ rfl
    cases step_effect hcons hstep
    rfl
  | beginShutdown =>
    apply hunchanged _ rfl
    cases step_effect hcons hstep <;> rfl

end RegistryState

namespace TrackerState

variable {text : FailureText} {codec : ResultCodec} {s t : TrackerState} {op : TrackerOp}

/-- The queued leaf that a removal finds is not a visible job. -/
def RemovesOnlyHidden (s : TrackerState) (op : TrackerOp) (_ : TrackerState) : Prop :=
  ∀ jobId job, op = .removeQueuedJob jobId → s.jobs.get jobId = some job →
    job.isParent = false → job.parentJobId = none → job.state.isQueued = true → job.workflowType = none

/-- The gauge and the observer calls still to be made account for the jobs in flight. -/
structure GaugeSound (s : TrackerState) : Prop where
  consistent : s.jobs.Consistent
  balance : ∀ label, s.metrics.inFlight label + (s.pending.map (ObserverCall.delta label)).sum =
    s.jobs.inFlightCount label

lemma gaugeSound_initial (ttl : Duration) (maxJobs : Nat) : GaugeSound (initial ttl maxJobs) :=
  ⟨JobStore.consistent_empty, fun _ => rfl⟩

lemma registryOp_eq_removeQueuedLeaf
    (h : s.registryOp text op = some (.removeQueuedLeaf jobId)) : op = .removeQueuedJob jobId := by
  cases op with
  | removeQueuedJob other =>
    cases h
    rfl
  | stepRefresh caller now =>
    simp only [registryOp] at h
    split at h
    · split at h <;> cases h
    · cases h
    · cases h
  | markCompleted other resultJson now =>
    simp only [registryOp] at h
    split at h <;> cases h
  | markFailedWithResult other errorCode errorMessage resultJson now =>
    simp only [registryOp] at h
    split at h <;> cases h
  | _ => cases h

lemma GaugeSound.step (hs : GaugeSound s) (hhidden : RemovesOnlyHidden s op t)
    (h : s.step text codec op = some t) : GaugeSound t := by
  refine ⟨step_consistent hs.consistent h, fun label => ?_⟩
  have hbalance := hs.balance label
  cases step_progress h with
  | silent idle core pending notified metrics => rw [jobs, core, pending, metrics, hbalance]
  | performed rop performs step pending notified metrics =>
    have hremoved : ∀ jobId job, rop = .removeQueuedLeaf jobId → s.jobs.get jobId = some job →
        job.isParent = false → job.parentJobId = none → job.state.isQueued = true →
          job.workflowType = none := by
      rintro jobId job rfl
      exact hhidden jobId job (registryOp_eq_removeQueuedLeaf performs)
    have hcount : (t.core.jobs.inFlightCount label : Int) = s.core.jobs.inFlightCount label +
        ((s.core.observerCalls (rmsJobDomain text) rop).map (ObserverCall.delta label)).sum :=
      RegistryState.step_inFlightCount hs.consistent step (registryOp_spec text performs).1 hremoved
    rw [pending, metrics, List.map_append, List.sum_append, jobs, hcount, ← hbalance, add_assoc]
  | observed index call found idle core pending notified metrics =>
    have hsum := ((cons_eraseIdx_perm found).map (ObserverCall.delta label)).sum_eq
    rw [List.map_cons, List.sum_cons] at hsum
    rw [jobs, core, pending, metrics, WorkflowMetrics.inFlight_observe, add_assoc, hsum, hbalance]

/-- If removals take away no visible job, the gauge of each label is the number of tracked jobs in
flight with it whenever no observer call is outstanding. -/
theorem gauge_eq_inFlightCount {ttl : Duration} {maxJobs : Nat} {ops : List TrackerOp}
    (hhidden : Along (step text codec) RemovesOnlyHidden (initial ttl maxJobs) ops)
    (h : run (step text codec) (initial ttl maxJobs) ops = some s) (hquiet : s.pending = [])
    (label : WorkflowLabel) : s.metrics.inFlight label = s.jobs.inFlightCount label := by
  have hstep :
      ∀ s op t, GaugeSound s → RemovesOnlyHidden s op t → step text codec s op = some t → GaugeSound t :=
    fun _ _ _ hs hh hst => hs.step hh hst
  have hsound := run_invariant_along hstep (gaugeSound_initial ttl maxJobs) hhidden h
  have hbalance := hsound.balance label
  rw [hquiet] at hbalance
  simpa using hbalance

/-- A visible job next to a reservation that is rolled back, with the observers run. -/
def reservationRollback : List TrackerOp :=
  [.create (.visibleWorkflowJobIfNodeIdle "rack" "a" .firmwareUpdate) ⟨[⟨"visible"⟩], 0, 0, 0⟩,
    .runObserver 0,
    .create (.jobIfNodeIdle "rack" "b") ⟨[⟨"hidden"⟩], 0, 1, 1⟩, .runObserver 0,
      .removeQueuedJob ⟨"hidden"⟩]

theorem reservationRollback_gauge :
    ∃ s, run (step plainText plainCodec) (initial 60 10) reservationRollback = some s ∧
    s.metrics.inFlight (.firmwareUpdate, true) = s.jobs.inFlightCount (.firmwareUpdate, true) ∧
    s.jobs.inFlightCount (.firmwareUpdate, true) = 1 := by
  have hother : ∀ s op t, (∀ jobId, op ≠ .removeQueuedJob jobId) → RemovesOnlyHidden s op t :=
    fun s op t hne jobId _ hop => absurd hop (hne jobId)
  have hhidden :
      Along (step plainText plainCodec) RemovesOnlyHidden (initial 60 10) reservationRollback := by
    refine fun s hs => ⟨hother _ _ _ (by simp), ?_⟩
    cases hs
    refine fun s hs => ⟨hother _ _ _ (by simp), ?_⟩
    cases hs
    refine fun s hs => ⟨hother _ _ _ (by simp), ?_⟩
    cases hs
    refine fun s hs => ⟨hother _ _ _ (by simp), ?_⟩
    cases hs
    refine fun s hs => ⟨fun jobId job hop hget _ _ _ => ?_, trivial⟩
    cases hop
    cases hget
    rfl
  have h : run (step plainText plainCodec) (initial 60 10) reservationRollback = some _ := rfl
  exact ⟨_, h, gauge_eq_inFlightCount hhidden h rfl _, rfl⟩

/-- A visible job that is removed while it is still queued. -/
def visibleRemoved : List TrackerOp :=
  [.create (.visibleWorkflowJobIfNodeIdle "rack" "a" .firmwareUpdate) ⟨[⟨"visible"⟩], 0, 0, 0⟩,
    .runObserver 0,
    .removeQueuedJob ⟨"visible"⟩]

theorem visibleRemoved_leaks_gauge : ∃ s,
    run (step plainText plainCodec) (initial 60 10) visibleRemoved = some s ∧ s.pending = [] ∧
    s.jobs.trackedJobCount = 0 ∧ s.jobs.inFlightCount (.firmwareUpdate, true) = 0 ∧
    s.metrics.inFlight (.firmwareUpdate, true) = 1 := by
  have h : run (step plainText plainCodec) (initial 60 10) visibleRemoved = some _ := rfl
  exact ⟨_, h, rfl, rfl, rfl, rfl⟩

end TrackerState

end RackManagement
