import RackManagement.Model.JobTracker
import RackManagement.Proofs.ParentLinks
import RackManagement.Proofs.RecordEvolution

/-!
# Steps of the tracker

A step of the tracker performs at most one registry operation.
-/

namespace RackManagement

open Library JobRegistry Option

def TrackerOp.drawnIds : TrackerOp → List JobId
  | .create _ inputs => inputs.jobIds
  | .reserveMutation _ jobIds => jobIds
  | _ => []

/-- No generated identifier is issued twice. -/
def FreshIds (ops : List TrackerOp) : Prop := (ops.flatMap TrackerOp.drawnIds).Nodup

lemma FreshIds.of_append {past ops : List TrackerOp} (h : FreshIds (past ++ ops)) : FreshIds past := by
  unfold FreshIds at h ⊢
  rw [List.flatMap_append] at h
  exact h.of_append_left

lemma FreshIds.not_drawn {past : List TrackerOp} {op : TrackerOp} (h : FreshIds (past ++ [op]))
    {jobId : JobId} (hpast : jobId ∈ past.flatMap TrackerOp.drawnIds) : jobId ∉ op.drawnIds := by
  unfold FreshIds at h
  rw [List.flatMap_append, List.flatMap_singleton] at h
  exact fun hop => List.disjoint_of_nodup_append h hpast hop

namespace TrackerState

variable (text : FailureText)

def registryOp (s : TrackerState) : TrackerOp → Option RegistryOp
  | .create request inputs => some (request.registryOp inputs)
  | .removeQueuedJob jobId => some (.removeQueuedLeaf jobId)
  | .reserveMutation scopes jobIds => some (.reserveMutation scopes jobIds)
  | .dropReservation ownerId => some (.dropReservation ownerId)
  | .reserveJobScopes jobId scopes => some (.reserveJobScopes jobId scopes)
  | .handle jobId metadata call now => some (.mark jobId (call.mark (rmsJobDomain text) metadata) now)
  | .markRunning jobId description now => some (.mark jobId (.running description) now)
  | .markCompleted jobId resultJson now =>
    if jobId ∈ s.parentJobHandles then some (.mark jobId (.completed "Completed" (resultJson.getD "")) now)
    else none
  | .markFailedWithResult jobId errorCode errorMessage resultJson now =>
    if jobId ∈ s.parentJobHandles then
      some (.mark jobId (.failed ((JobFailure.new errorCode errorMessage).withResultJson
        (resultJson.getD (text.resultJson errorCode errorMessage)))) now)
    else none
  | .failForShutdown jobId now => some (.mark jobId (.failed (rmsJobDomain text).shutdownFailure) now)
  | .cleanupExpired now => some (.cleanupExpired now)
  | .beginShutdown => some .beginShutdown
  | .stepRefresh caller now =>
    match s.refreshes.lookup caller with
    | some (.sealing parentId _ mark) =>
      if parentId ∈ s.parentJobHandles then some (.mark parentId mark now) else none
    | some (.reporting parentId description) => some (.mark parentId (.running description) now)
    | _ => none
  | _ => none

variable {rop : RegistryOp} {u : TrackerState} {now : Instant}

lemma registryOp_spec {s : TrackerState} {op : TrackerOp}
    (h : s.registryOp text op = some rop) : rop.startsLive = true ∧ rop.drawnIds = op.drawnIds := by
  cases op with
  | create request inputs =>
    cases h
    cases request <;> exact ⟨rfl, rfl⟩
  | stepRefresh caller now =>
    simp only [registryOp] at h
    split at h
    · split at h <;> cases h
      exact ⟨rfl, rfl⟩
    · cases h
      exact ⟨rfl, rfl⟩
    · cases h
  | markCompleted jobId resultJson now =>
    simp only [registryOp] at h
    split at h <;> cases h
    exact ⟨rfl, rfl⟩
  | markFailedWithResult jobId errorCode errorMessage resultJson now =>
    simp only [registryOp] at h
    split at h <;> cases h
    exact ⟨rfl, rfl⟩
  | _ => cases h <;> exact ⟨rfl, rfl⟩

inductive Progress (s : TrackerState) (op : TrackerOp) (t : TrackerState) : Prop
  | silent (idle : s.registryOp text op = none) (core : t.core = s.core) (pending : t.pending = s.pending)
      (notified : t.notified = s.notified) (metrics : t.metrics = s.metrics)
  | performed (rop : RegistryOp) (performs : s.registryOp text op = some rop)
      (step : s.core.step (rmsJobDomain text) rop = some t.core)
      (pending : t.pending = s.pending ++ s.core.observerCalls (rmsJobDomain text) rop)
      (notified : t.notified = s.notified) (metrics : t.metrics = s.metrics)
  | observed (index : Nat) (call : ObserverCall) (found : s.pending[index]? = some call)
      (idle : s.registryOp text op = none) (core : t.core = s.core)
      (pending : t.pending = s.pending.eraseIdx index)
      (notified : t.notified = s.notified ++ call.terminalSnapshots)
      (metrics : t.metrics = s.metrics.observe call)

variable {text} {codec : ResultCodec} {s t : TrackerState} {op : TrackerOp}

lemma progress_perform (hcore : u.core = s.core)
    (hpending : u.pending = s.pending) (hnotified : u.notified = s.notified)
    (hmetrics : u.metrics = s.metrics)
    (hop : s.registryOp text op = some rop) (h : u.perform (rmsJobDomain text) rop = some t) :
    Progress text s op t := by
  simp only [perform, map_eq_some_iff] at h
  obtain ⟨core, hstep, rfl⟩ := h
  rw [hcore] at hstep
  refine .performed rop hop hstep ?_ hnotified hmetrics
  change u.pending ++ u.core.observerCalls _ rop = _
  rw [hcore, hpending]

lemma progress_sealParent {parentId : JobId} {mark : JobMark}
    (hcore : u.core = s.core) (hpending : u.pending = s.pending) (hnotified : u.notified = s.notified)
    (hmetrics : u.metrics = s.metrics) (hop : s.registryOp text op =
      if parentId ∈ u.parentJobHandles then some (.mark parentId mark now) else none)
    (h : u.sealParent (rmsJobDomain text) parentId mark now = some t) : Progress text s op t := by
  unfold sealParent at h
  by_cases hheld : parentId ∈ u.parentJobHandles
  · rw [if_pos hheld] at h hop
    exact progress_perform (u := { u with parentJobHandles := u.parentJobHandles.erase parentId })
      hcore hpending hnotified hmetrics hop h
  · rw [if_neg hheld] at h hop
    cases h
    exact .silent hop hcore hpending hnotified hmetrics

lemma progress_setRefresh (hidle : s.registryOp text op = none) (caller : Nat) (next : Option RefreshCall) :
    Progress text s op (s.setRefresh caller next) := by
  cases next <;> exact .silent hidle rfl rfl rfl rfl

lemma stepRefresh_cases {caller : Nat} (h : s.step text codec (.stepRefresh caller now) = some t) :
    (∃ parentId childIds mark, s.refreshes.lookup caller = some (.sealing parentId childIds mark) ∧
      (s.setRefresh caller none).sealParent (rmsJobDomain text) parentId mark now = some t) ∨
    (∃ parentId description, s.refreshes.lookup caller = some (.reporting parentId description) ∧
      (s.setRefresh caller none).perform (rmsJobDomain text)
        (.mark parentId (.running description) now) = some t) ∨
    ∃ call, s.refreshes.lookup caller = some call ∧ s.registryOp text (.stepRefresh caller now) = none ∧
      s.setRefresh caller (call.advance codec s.jobs.get) = t := by
  simp only [step] at h
  cases hcall : s.refreshes.lookup caller with
  | none =>
    simp only [hcall] at h
    cases h
  | some call =>
    cases call with
    | sealing parentId childIds mark =>
      simp only [hcall] at h
      exact .inl ⟨parentId, childIds, mark, rfl, h⟩
    | reporting parentId description =>
      simp only [hcall] at h
      exact .inr (.inl ⟨parentId, description, rfl, h⟩)
    | counting parentId jobType childIds unread counts =>
      have hidle : s.registryOp text (.stepRefresh caller now) = none := by simp only [registryOp, hcall]
      simp only [hcall, some.injEq] at h
      exact .inr (.inr ⟨_, rfl, hidle, h⟩)
    | skipping parentId jobType childIds unread total skipped =>
      have hidle : s.registryOp text (.stepRefresh caller now) = none := by simp only [registryOp, hcall]
      simp only [hcall, some.injEq] at h
      exact .inr (.inr ⟨_, rfl, hidle, h⟩)

/-- Every step is silent, performs one registry operation or runs one observer. -/
theorem step_progress (h : s.step text codec op = some t) : Progress text s op t := by
  cases op with
  | create request inputs =>
    simp only [step, map_eq_some_iff] at h
    obtain ⟨u, hperform, rfl⟩ := h
    obtain ⟨core, hstep, rfl⟩ := map_eq_some_iff.mp hperform
    exact .performed (request.registryOp inputs) rfl hstep rfl rfl rfl
  | storeParentHandle jobId =>
    simp only [step] at h
    split at h <;> cases h
    exact .silent rfl rfl rfl rfl rfl
  | removeQueuedJob jobId => exact progress_perform rfl rfl rfl rfl rfl h
  | reserveMutation scopes jobIds => exact progress_perform rfl rfl rfl rfl rfl h
  | dropReservation ownerId => exact progress_perform rfl rfl rfl rfl rfl h
  | reserveJobScopes jobId scopes => exact progress_perform rfl rfl rfl rfl rfl h
  | handle jobId metadata call now => exact progress_perform rfl rfl rfl rfl rfl h
  | markRunning jobId description now => exact progress_perform rfl rfl rfl rfl rfl h
  | markCompleted jobId resultJson now => exact progress_sealParent rfl rfl rfl rfl rfl h
  | markFailedWithResult jobId errorCode errorMessage resultJson now =>
    exact progress_sealParent rfl rfl rfl rfl rfl h
  | drainParentHandles =>
    cases h
    exact .silent rfl rfl rfl rfl rfl
  | failForShutdown jobId now => exact progress_perform rfl rfl rfl rfl rfl h
  | cleanupExpired now => exact progress_perform rfl rfl rfl rfl rfl h
  | beginShutdown => exact progress_perform rfl rfl rfl rfl rfl h
  | startRefresh caller parentId =>
    simp only [step] at h
    split at h <;> cases h
    exact progress_setRefresh rfl caller _
  | stepRefresh caller now =>
    rcases stepRefresh_cases h with
      ⟨parentId, childIds, mark, hcall, hseal⟩ | ⟨parentId, description, hcall, hreport⟩ |
        ⟨call, _, hidle, rfl⟩
    · refine progress_sealParent (u := s.setRefresh caller none) rfl rfl rfl rfl ?_ hseal
      simp only [registryOp, hcall]
      rfl
    · refine progress_perform (u := s.setRefresh caller none) rfl rfl rfl rfl ?_ hreport
      simp only [registryOp, hcall]
    · exact progress_setRefresh hidle caller _
  | runObserver index =>
    simp only [step] at h
    split at h
    · cases h
    · rename_i call hfound
      cases h
      exact .observed index call hfound rfl rfl rfl rfl rfl

lemma step_core (h : s.step text codec op = some t) :
    t.core = s.core ∨ ∃ rop, rop.startsLive = true ∧ rop.drawnIds = op.drawnIds ∧
      s.core.step (rmsJobDomain text) rop = some t.core := by
  cases step_progress h with
  | silent idle core => exact .inl core
  | performed rop performs step =>
    obtain ⟨hlive, hdrawn⟩ := registryOp_spec text performs
    exact .inr ⟨rop, hlive, hdrawn, step⟩
  | observed index call found idle core => exact .inl core

lemma step_consistent (hcons : s.jobs.Consistent) (h : s.step text codec op = some t) :
    t.jobs.Consistent := by
  rcases step_core h with hcore | ⟨rop, _, _, hstep⟩
  · rw [jobs, hcore]
    exact hcons
  · exact RegistryState.step_consistent hcons hstep

/-- What holds of the registry of a tracker after the steps `past`. -/
structure Sound (past : List TrackerOp) (s : TrackerState) : Prop where
  consistent : s.jobs.Consistent
  links : s.jobs.ParentLinks (fun job => job.state.isTerminal = false)
  drawn : ∀ jobId job, s.jobs.get jobId = some job → jobId ∈ past.flatMap TrackerOp.drawnIds

variable {past : List TrackerOp}

lemma sound_initial (ttl : Duration) (maxJobs : Nat) : Sound [] (initial ttl maxJobs) where
  consistent := JobStore.consistent_empty
  links := ⟨fun _ _ _ hget => (by cases hget), fun _ _ hget => (by cases hget)⟩
  drawn := fun _ _ hget => (by cases hget)

lemma Sound.evolves (hs : Sound past s) (h : s.step text codec op = some t) {jobId : JobId}
    {job' : JobSnapshot} (hfresh : jobId ∉ op.drawnIds) (hget : t.jobs.get jobId = some job') :
    ∃ job, s.jobs.get jobId = some job ∧ Evolves job job' := by
  rcases step_core h with hcore | ⟨rop, _, hdrawn, hstep⟩
  · rw [jobs, hcore] at hget
    exact ⟨job', hget, .refl job'⟩
  · rw [← hdrawn] at hfresh
    exact RegistryState.step_evolves hs.consistent hstep hfresh hget

lemma Sound.step (hs : Sound past s) (h : s.step text codec op = some t) : Sound (past ++ [op]) t := by
  have hdrawn : ∀ jobId job, t.jobs.get jobId = some job →
      jobId ∈ (past ++ [op]).flatMap TrackerOp.drawnIds := by
    intro jobId job' hget
    rw [List.flatMap_append, List.flatMap_singleton, List.mem_append]
    by_cases hop : jobId ∈ op.drawnIds
    · exact .inr hop
    · obtain ⟨job, hjob, _⟩ := hs.evolves h hop hget
      exact .inl (hs.drawn jobId job hjob)
  refine ⟨step_consistent hs.consistent h, ?_, hdrawn⟩
  rcases step_core h with hcore | ⟨rop, _, _, hstep⟩
  · rw [jobs, hcore]
    exact hs.links
  · exact RegistryState.step_liveParentLinks hs.consistent hs.links hstep

lemma lookup_setRefresh (s : TrackerState) (caller other : Nat) (next : Option RefreshCall) :
    (s.setRefresh caller next).refreshes.lookup other =
      if other = caller then next else s.refreshes.lookup other := by
  cases next with
  | none => exact FiniteMap.lookup_erase_eq_ite _ _ _
  | some call => exact FiniteMap.lookup_insert_eq_ite _ _ _ _

lemma core_setRefresh (s : TrackerState) (caller : Nat) (next : Option RefreshCall) :
    (s.setRefresh caller next).core = s.core := by
  cases next <;> rfl

lemma refreshes_perform {D : JobDomain} (h : u.perform D rop = some t) : t.refreshes = u.refreshes := by
  obtain ⟨core, _, rfl⟩ := map_eq_some_iff.mp h
  rfl

lemma refreshes_sealParent {D : JobDomain} {parentId : JobId} {mark : JobMark}
    (h : u.sealParent D parentId mark now = some t) : t.refreshes = u.refreshes := by
  unfold sealParent at h
  split at h
  · have hperform := refreshes_perform h
    exact hperform
  · cases h
    rfl

/-- Where the refreshes in progress after a step come from. -/
theorem step_refreshes (h : s.step text codec op = some t) {caller : Nat} {call : RefreshCall}
    (hcall : t.refreshes.lookup caller = some call) :
    s.refreshes.lookup caller = some call ∨
    (t.core = s.core ∧ ∃ parentId, RefreshCall.start parentId (s.jobs.get parentId) = some call) ∨
    (t.core = s.core ∧ ∃ old, s.refreshes.lookup caller = some old ∧
      old.advance codec s.jobs.get = some call) := by
  have hsame : t.refreshes = s.refreshes → s.refreshes.lookup caller = some call := fun he => he ▸ hcall
  have hended : ∀ other, t.refreshes = (s.setRefresh other none).refreshes →
      s.refreshes.lookup caller = some call := by
    intro other he
    rw [he, lookup_setRefresh] at hcall
    split at hcall
    · cases hcall
    · exact hcall
  cases op with
  | startRefresh starter parentId =>
    simp only [step] at h
    split at h <;> cases h
    rw [lookup_setRefresh] at hcall
    split at hcall
    · exact .inr (.inl ⟨core_setRefresh _ _ _, parentId, hcall⟩)
    · exact .inl hcall
  | stepRefresh stepper now =>
    rcases stepRefresh_cases h with ⟨_, _, _, _, hseal⟩ | ⟨_, _, _, hreport⟩ | ⟨old, hold, _, rfl⟩
    · exact .inl (hended stepper (refreshes_sealParent hseal))
    · exact .inl (hended stepper (refreshes_perform hreport))
    · rw [lookup_setRefresh] at hcall
      split at hcall
      · rename_i he
        exact .inr (.inr ⟨core_setRefresh _ _ _, old, he ▸ hold, hcall⟩)
      · exact .inl hcall
  | create request inputs =>
    simp only [step, map_eq_some_iff] at h
    obtain ⟨u, hperform, rfl⟩ := h
    have hrefreshes := refreshes_perform hperform
    exact .inl (hsame hrefreshes)
  | storeParentHandle jobId =>
    simp only [step] at h
    split at h <;> cases h
    exact .inl (hsame rfl)
  | runObserver index =>
    simp only [step] at h
    split at h <;> cases h
    exact .inl (hsame rfl)
  | drainParentHandles =>
    cases h
    exact .inl (hsame rfl)
  | markCompleted jobId resultJson now => exact .inl (hsame (refreshes_sealParent h))
  | markFailedWithResult jobId errorCode errorMessage resultJson now =>
    exact .inl (hsame (refreshes_sealParent h))
  | _ => exact .inl (hsame (refreshes_perform h))

def plainText : FailureText := ⟨fun _ => "", fun _ _ => ""⟩

def plainCodec : ResultCodec := ⟨fun _ => "", fun _ => "", fun _ => none, fun _ => none⟩

end TrackerState

end RackManagement
