import RackManagement.Library.Runs
import RackManagement.Model.FirmwareBatch

/-!
# A refresh of a parent that nothing interrupts

The steps of a refresh, taken one after the other, do to the tracker what the batch loop takes as one call.
-/

namespace RackManagement

open Library

/-- What the refresh does once the children are counted. -/
def FirmwareBatch.Tracker.afterCounting (t : Tracker) (codec : ResultCodec) (parentId : JobId)
    (jobType : JobType) (childIds : List JobId) (counts : ParentCounts) (now : Instant) : Tracker :=
  if counts.total = 0 then t
  else if counts.done = counts.total then
    t.sealParent parentId (t.terminalMark codec childIds counts jobType) now
  else t.update parentId (.running (counts.runningDescription jobType)) now

namespace TrackerState

/-- The part of the tracker that the batch loop works on. -/
def tracker (s : TrackerState) : FirmwareBatch.Tracker := ⟨s.core.registry, s.parentJobHandles⟩

section

variable (text : FailureText) (codec : ResultCodec) (caller : Nat) (now : Instant)

/-- The refresh of the caller comes to its end and leaves this tracker. -/
def Ends (s : TrackerState) (final : FirmwareBatch.Tracker) : Prop :=
  ∃ n t, run (step text codec) s (List.replicate n (.stepRefresh caller now)) = some t ∧
    t.refreshes.lookup caller = none ∧ t.tracker = final

end

variable {text : FailureText} {codec : ResultCodec} {caller : Nat} {now : Instant} {s t : TrackerState}
  {final : FirmwareBatch.Tracker} {parentId : JobId} {jobType : JobType} {childIds unread : List JobId}

lemma ends_of_idle (h : s.refreshes.lookup caller = none) (htracker : s.tracker = final) :
    Ends text codec caller now s final := ⟨0, s, rfl, h, htracker⟩

lemma ends_of_step (hstep : s.step text codec (.stepRefresh caller now) = some t)
    (h : Ends text codec caller now t final) : Ends text codec caller now s final := by
  obtain ⟨n, u, hrun, hend⟩ := h
  refine ⟨n + 1, u, ?_, hend⟩
  rw [List.replicate_succ, run_cons, hstep]
  exact hrun

lemma lookup_setRefresh_none : (s.setRefresh caller none).refreshes.lookup caller = none :=
  AList.lookup_erase _ _

lemma lookup_setRefresh_some (call : RefreshCall) :
    (s.setRefresh caller (some call)).refreshes.lookup caller = some call :=
  AList.lookup_insert _

/-- A mark with its observers' calls put off. -/
def marked (s : TrackerState) (D : JobDomain) (jobId : JobId) (mark : JobMark) (now : Instant) :
    TrackerState :=
  { s with
    core := { s.core with registry := (s.core.registry.update jobId mark.transition now).2 }
    pending := s.pending ++ s.core.observerCalls D (.mark jobId mark now) }

lemma perform_mark (D : JobDomain) (s : TrackerState) (jobId : JobId) (mark : JobMark) (now : Instant) :
    s.perform D (.mark jobId mark now) = some (s.marked D jobId mark now) := rfl

lemma ends_sealing {mark : JobMark}
    (hcall : s.refreshes.lookup caller = some (.sealing parentId childIds mark)) :
    Ends text codec caller now s (s.tracker.sealParent parentId mark now) := by
  have hstep : s.step text codec (.stepRefresh caller now) =
      (s.setRefresh caller none).sealParent (rmsJobDomain text) parentId mark now := by
        simp only [step, hcall]
  have hidle : (s.setRefresh caller none).refreshes.lookup caller = none := lookup_setRefresh_none
  by_cases hhandle : parentId ∈ s.parentJobHandles
  · rw [sealParent,
      if_pos (show parentId ∈ (s.setRefresh caller none).parentJobHandles from hhandle),
        perform_mark] at hstep
    rw [FirmwareBatch.Tracker.sealParent, if_pos (show parentId ∈ s.tracker.parentJobHandles from hhandle)]
    exact ends_of_step hstep (ends_of_idle hidle rfl)
  · rw [sealParent,
      if_neg (show parentId ∉ (s.setRefresh caller none).parentJobHandles from hhandle)] at hstep
    rw [FirmwareBatch.Tracker.sealParent, if_neg (show parentId ∉ s.tracker.parentJobHandles from hhandle)]
    exact ends_of_step hstep (ends_of_idle hidle rfl)

lemma ends_reporting {description : String}
    (hcall : s.refreshes.lookup caller = some (.reporting parentId description)) :
    Ends text codec caller now s (s.tracker.update parentId (.running description) now) := by
  have hstep : s.step text codec (.stepRefresh caller now) =
      some ((s.setRefresh caller none).marked (rmsJobDomain text) parentId (.running description) now) := by
    simp only [step, hcall, perform_mark]
  have hidle : (s.setRefresh caller none).refreshes.lookup caller = none := lookup_setRefresh_none
  exact ends_of_step hstep (ends_of_idle hidle rfl)

lemma ends_skipping {total skipped : Nat}
    (hcall : s.refreshes.lookup caller = some (.skipping parentId jobType childIds unread total skipped)) :
    Ends text codec caller now s (s.tracker.sealParent parentId (.completed (completionDescription total
      (skipped + unread.countP (fun childId =>
        isSkippedChild codec (s.tracker.registry.get childId))) jobType) "") now) := by
  induction unread generalizing s skipped with
  | nil =>
    have hstep : s.step text codec (.stepRefresh caller now) = some (s.setRefresh caller
        (some (.sealing parentId childIds
          (.completed (completionDescription total skipped jobType) "")))) := by
      simp only [step, hcall, RefreshCall.advance]
    exact ends_of_step hstep (ends_sealing (lookup_setRefresh_some _))
  | cons childId unread ih =>
    have hstep : s.step text codec (.stepRefresh caller now) = some (s.setRefresh caller
        (some (.skipping parentId jobType childIds unread total
          (if isSkippedChild codec (s.jobs.get childId) then skipped + 1 else skipped)))) := by
      simp only [step, hcall, RefreshCall.advance]
    have hcount : (if isSkippedChild codec (s.jobs.get childId) then skipped + 1 else skipped) +
          unread.countP (fun childId => isSkippedChild codec (s.tracker.registry.get childId)) =
        skipped + (childId :: unread).countP (fun childId =>
          isSkippedChild codec (s.tracker.registry.get childId)) := by
      rw [List.countP_cons]
      change _ = skipped + (_ + if isSkippedChild codec (s.jobs.get childId) = true then 1 else 0)
      split <;> omega
    rw [← hcount]
    exact ends_of_step hstep (ih (lookup_setRefresh_some _))

lemma ends_counted {counts : ParentCounts}
    (hcall : s.refreshes.lookup caller = some (.counting parentId jobType childIds [] counts)) :
    Ends text codec caller now s (s.tracker.afterCounting codec parentId jobType childIds counts now) := by
  have hstep : s.step text codec (.stepRefresh caller now) =
      some (s.setRefresh caller (RefreshCall.afterCounting codec parentId jobType childIds counts)) := by
    simp only [step, hcall, RefreshCall.advance]
  unfold RefreshCall.afterCounting at hstep
  unfold FirmwareBatch.Tracker.afterCounting
  by_cases hnone : counts.total = 0
  · rw [if_pos hnone] at hstep ⊢
    exact ends_of_step hstep (ends_of_idle lookup_setRefresh_none rfl)
  rw [if_neg hnone] at hstep ⊢
  by_cases hdone : counts.done = counts.total
  · rw [if_pos hdone] at hstep ⊢
    unfold FirmwareBatch.Tracker.terminalMark
    by_cases hfailed : (counts.failed > 0 || counts.missing > 0) = true
    · rw [if_pos hfailed] at hstep ⊢
      exact ends_of_step hstep (ends_sealing (lookup_setRefresh_some _))
    · rw [if_neg hfailed] at hstep ⊢
      refine ends_of_step hstep ?_
      rw [← Nat.zero_add (childIds.countP _)]
      exact ends_skipping (lookup_setRefresh_some _)
  · rw [if_neg hdone] at hstep ⊢
    exact ends_of_step hstep (ends_reporting (lookup_setRefresh_some _))

lemma ends_counting {counts : ParentCounts}
    (hcall : s.refreshes.lookup caller = some (.counting parentId jobType childIds unread counts))
    {all : ParentCounts}
    (hall : unread.foldl (fun counts childId =>
      counts.readChild (s.tracker.registry.get childId)) counts = all) :
    Ends text codec caller now s (s.tracker.afterCounting codec parentId jobType childIds all now) := by
  induction unread generalizing s counts with
  | nil =>
    cases hall
    exact ends_counted hcall
  | cons childId unread ih =>
    have hstep : s.step text codec (.stepRefresh caller now) = some (s.setRefresh caller
        (some (.counting parentId jobType childIds unread (counts.readChild (s.jobs.get childId))))) := by
      simp only [step, hcall, RefreshCall.advance]
    exact ends_of_step hstep (ih (lookup_setRefresh_some _) hall)

/-- A refresh that runs alone ends, and leaves the tracker that the batch loop goes on with. -/
theorem refresh_alone (text : FailureText) (codec : ResultCodec) (s : TrackerState) (caller : Nat)
    (parentId : JobId) (now : Instant) (hidle : s.refreshes.lookup caller = none) :
    ∃ n t, run (step text codec) s
      (.startRefresh caller parentId :: List.replicate n (.stepRefresh caller now)) = some t ∧
      t.refreshes.lookup caller = none ∧ t.tracker = s.tracker.refreshParentState codec parentId now := by
  suffices hends :
      Ends text codec caller now (s.setRefresh caller (RefreshCall.start parentId (s.jobs.get parentId)))
      (s.tracker.refreshParentState codec parentId now) by
    obtain ⟨n, t, hrun, hend⟩ := hends
    refine ⟨n, t, ?_, hend⟩
    rw [run_cons, step, if_neg (by simp [hidle])]
    exact hrun
  have hget : s.tracker.registry.get parentId = s.jobs.get parentId := rfl
  unfold RefreshCall.start FirmwareBatch.Tracker.refreshParentState
  rw [hget]
  cases hparent : s.jobs.get parentId with
  | none => exact ends_of_idle lookup_setRefresh_none rfl
  | some parent =>
    dsimp only
    split
    · exact ends_of_idle lookup_setRefresh_none rfl
    · cases htype : parent.workflowType with
      | none => exact ends_of_idle lookup_setRefresh_none rfl
      | some jobType => exact ends_counting (lookup_setRefresh_some _) rfl

end TrackerState

end RackManagement
