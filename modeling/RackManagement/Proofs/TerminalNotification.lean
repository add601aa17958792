import RackManagement.Library.Counting
import RackManagement.Proofs.TrackerSteps

/-! # Terminal states are final and noticed once -/

namespace RackManagement

open Library JobRegistry JobStore

namespace RegistryState

variable {D : JobDomain} {s t : RegistryState} {op : RegistryOp} {jobId : JobId} {job job' : JobSnapshot}

def evictedIds (D : JobDomain) (s : RegistryState) (op : RegistryOp) : List JobId :=
  match s.sweepOf D op with
  | none => []
  | some now => s.jobs.expiredIds now s.registry.ttl

variable {mark : JobMark} {now : Instant}

lemma observerCalls_mark_of_refused (h : ∀ record, s.jobs.get jobId = some record →
    record.state.isTerminal = true) : s.observerCalls D (.mark jobId mark now) = [] := by
  obtain ⟨_, hupdate⟩ | ⟨record, hget, hlive, _⟩ := s.registry.update_cases jobId mark now
  · simp only [observerCalls, hupdate]
  · rw [h record hget] at hlive
    cases hlive

lemma observerCalls_mark_of_live (hget : s.jobs.get jobId = some job)
    (hlive : job.state.isTerminal = false) :
    s.observerCalls D (.mark jobId mark now) =
      if mark.target.isTerminal then [.terminal (withState job mark.target now)] else [] := by
  obtain ⟨hnone, _⟩ | ⟨record, hrecord, _, hupdate⟩ := s.registry.update_cases jobId mark now
  · rw [hnone job hget] at hlive
    cases hlive
  · cases hget.symm.trans hrecord
    simp only [observerCalls, hupdate]
    rcases mark.target_isRunning_or_isTerminal with hrun | hterm
    · rw [JobLifecycleState.isTerminal_of_isRunning hrun]
      rcases classifyTransition_of_running job hlive hrun now with hc | hc
      · rw [hc]
        rfl
      · rw [hc]
        rfl
    · rw [classifyTransition_of_terminal hlive hterm, hterm]
      rfl

variable (hcons : s.jobs.Consistent)
include hcons

variable (hstep : s.step D op = some t)
include hstep

end RegistryState

namespace TrackerState

variable {text : FailureText} {codec : ResultCodec} {s t : TrackerState} {op : TrackerOp} {jobId : JobId}
  {job job' : JobSnapshot}

def evictedIds (text : FailureText) (s : TrackerState) (op : TrackerOp) : List JobId :=
  match s.registryOp text op with
  | none => []
  | some rop => s.core.evictedIds (rmsJobDomain text) rop

/-- The job is tracked before and after the operation, which does not evict it. -/
def Retains (text : FailureText) (jobId : JobId) (s : TrackerState) (op : TrackerOp)
    (t : TrackerState) : Prop :=
  jobId ∉ s.evictedIds text op ∧ (s.jobs.get jobId).isSome = true ∧ (t.jobs.get jobId).isSome = true

end TrackerState

end RackManagement
