import RackManagement.Proofs.RegistryConsistency

/-!
# How a record changes

The identity of a record never changes, its state moves forward, its list of children grows, and a
terminal record is final.
-/

namespace RackManagement

open Library JobRegistry JobStore

def RegistryOp.drawnIds : RegistryOp → List JobId
  | .create _ _ _ _ inputs => inputs.jobIds
  | .reserveMutation _ jobIds => jobIds
  | _ => []

/-- A lifecycle state stays, or a live one moves to running or to a terminal state. -/
def StateMove (before after : JobLifecycleState) : Prop :=
  after = before ∨ (before.isTerminal = false ∧ (after.isRunning = true ∨ after.isTerminal = true))

lemma StateMove.trans {a b c : JobLifecycleState} (hab : StateMove a b) (hbc : StateMove b c) :
    StateMove a c := by
  rcases hab with rfl | ⟨ha, _⟩
  · exact hbc
  · rcases hbc with rfl | ⟨_, hc⟩
    · rename_i hb
      exact .inr ⟨ha, hb⟩
    · exact .inr ⟨ha, hc⟩

structure Evolves (before after : JobSnapshot) : Prop where
  jobId : after.jobId = before.jobId
  rackId : after.rackId = before.rackId
  nodeId : after.nodeId = before.nodeId
  parentJobId : after.parentJobId = before.parentJobId
  workflowType : after.workflowType = before.workflowType
  children : before.childJobIds <+: after.childJobIds
  state : StateMove before.state after.state
  final : before.state.isTerminal = true → after.state = before.state ∧
    after.updatedAtMono = before.updatedAtMono ∧ after.childJobIds = before.childJobIds

namespace Evolves

variable {a b c : JobSnapshot}

lemma refl (a : JobSnapshot) : Evolves a a :=
  ⟨rfl, rfl, rfl, rfl, rfl, List.prefix_rfl, .inl rfl, fun _ => ⟨rfl, rfl, rfl⟩⟩

lemma trans (hab : Evolves a b) (hbc : Evolves b c) : Evolves a c where
  jobId := hbc.jobId.trans hab.jobId
  rackId := hbc.rackId.trans hab.rackId
  nodeId := hbc.nodeId.trans hab.nodeId
  parentJobId := hbc.parentJobId.trans hab.parentJobId
  workflowType := hbc.workflowType.trans hab.workflowType
  children := hab.children.trans hbc.children
  state := hab.state.trans hbc.state
  final := by
    intro ha
    obtain ⟨hstate, htime, hchildren⟩ := hab.final ha
    have hb : b.state.isTerminal = true := by rw [hstate, ha]
    obtain ⟨hstate', htime', hchildren'⟩ := hbc.final hb
    exact ⟨hstate'.trans hstate, htime'.trans htime, hchildren'.trans hchildren⟩

lemma live_of_live (h : Evolves a b) (hb : b.state.isTerminal = false) : a.state.isTerminal = false := by
  by_contra ha
  have hfinal := (h.final (Bool.eq_true_of_not_eq_false ha)).1
  rw [hfinal] at hb
  exact ha hb

lemma warnTerminal (now : Instant) (job : JobSnapshot) : Evolves job (warnTerminal now job) where
  jobId := warnTerminal_jobId now job
  rackId := warnTerminal_rackId now job
  nodeId := warnTerminal_nodeId now job
  parentJobId := warnTerminal_parentJobId now job
  workflowType := warnTerminal_workflowType now job
  children := by simp only [warnTerminal_childJobIds, List.prefix_rfl]
  state := .inl (warnTerminal_state now job)
  final := fun _ => ⟨warnTerminal_state now job, warnTerminal_updatedAtMono now job,
    warnTerminal_childJobIds now job⟩

variable {job : JobSnapshot}

lemma withChild (hlive : job.state.isTerminal = false) (childId : JobId) (now : Instant) :
    Evolves job (withChild job childId now) where
  jobId := rfl
  rackId := rfl
  nodeId := rfl
  parentJobId := rfl
  workflowType := rfl
  children := List.prefix_append _ _
  state := .inl rfl
  final := by
    intro hterm
    rw [hlive] at hterm
    cases hterm

lemma withState {next : JobLifecycleState} (hlive : job.state.isTerminal = false)
    (hnext : next.isRunning = true ∨ next.isTerminal = true) (now : Instant) :
    Evolves job (withState job next now) where
  jobId := rfl
  rackId := rfl
  nodeId := rfl
  parentJobId := rfl
  workflowType := rfl
  children := List.prefix_rfl
  state := .inr ⟨hlive, hnext⟩
  final := by
    intro hterm
    rw [hlive] at hterm
    cases hterm

end Evolves

namespace RegistryState

variable {D : JobDomain} {s t u : RegistryState} {op : RegistryOp} {jobId : JobId} {job' : JobSnapshot}

lemma evolves_afterSweep (h : (s.afterSweep D op).jobs.get jobId = some job') :
    ∃ job, s.jobs.get jobId = some job ∧ Evolves job job' := by
  unfold afterSweep at h
  split at h
  · exact ⟨job', h, .refl job'⟩
  · rename_i now _
    obtain ⟨_, job, hget, rfl⟩ := (s.jobs.get_cleanupExpired_eq_some _ _ _ _).mp h
    exact ⟨job, hget, .warnTerminal now job⟩

lemma Effect.evolves (he : Effect u op t) (hold : jobId ∈ op.drawnIds → ∃ job, u.jobs.get jobId = some job)
    (h : t.jobs.get jobId = some job') : ∃ job, u.jobs.get jobId = some job ∧ Evolves job job' := by
  cases he with
  | unchanged => exact ⟨job', h, .refl job'⟩
  | closed => exact ⟨job', h, .refl job'⟩
  | reserved ownerId drawn vacant free => exact ⟨job', h, .refl job'⟩
  | dropped ownerId held => exact ⟨job', h, .refl job'⟩
  | extended otherId scopes job tracked live free => exact ⟨job', h, .refl job'⟩
  | created newId drawn vacant parent idle free room =>
    have hvacant := ((u.jobs.idTaken_eq_false_iff newId).mp vacant).2
    have hne : jobId ≠ newId := by
      rintro rfl
      obtain ⟨job, hjob⟩ := hold drawn
      cases hvacant.symm.trans hjob
    rw [jobs_withJobs, u.jobs.get_publishRecord _ _ hvacant parent] at h
    split_ifs at h with hid hlink
    · exact absurd hid hne
    · obtain ⟨job, hget, rfl⟩ := Option.map_eq_some_iff.mp h
      obtain ⟨parent', hget', hlive, _⟩ := (u.jobs.canAcceptChild_iff jobId).mp (parent jobId hlink)
      cases hget.symm.trans hget'
      exact ⟨job, hget, .withChild hlive newId _⟩
    · exact ⟨job', h, .refl job'⟩
  | moved otherId mark now job tracked live =>
    rw [jobs_withJobs, get_moveTo] at h
    split at h
    · rename_i ho
      cases h
      exact ⟨job, ho ▸ tracked, .withState live mark.target_isRunning_or_isTerminal now⟩
    · exact ⟨job', h, .refl job'⟩
  | removed otherId job tracked childless top queued =>
    rw [jobs_withJobs, get_remove] at h
    split at h
    · cases h
    · exact ⟨job', h, .refl job'⟩

lemma Effect.sealed (he : Effect u op t) (hget : u.jobs.get jobId = some job)
    (hlive : job.state.isTerminal = false) (hget' : t.jobs.get jobId = some job')
    (hterm : job'.state.isTerminal = true) :
    ∃ mark now, op = .mark jobId mark now ∧ mark.target.isTerminal = true ∧
      t = u.withJobs (u.jobs.moveTo jobId job mark.target now) := by
  have hchanged : job'.state ≠ job.state := by
    intro he
    rw [he, hlive] at hterm
    cases hterm
  have hsame : t.jobs.get jobId ≠ u.jobs.get jobId := by
    intro he
    rw [he, hget] at hget'
    cases hget'
    exact hchanged rfl
  cases he with
  | unchanged => exact absurd rfl hsame
  | closed => exact absurd rfl hsame
  | reserved ownerId drawn vacant free => exact absurd rfl hsame
  | dropped ownerId held => exact absurd rfl hsame
  | extended otherId scopes job tracked live free => exact absurd rfl hsame
  | created newId drawn vacant parent idle free room =>
    have hvacant := ((u.jobs.idTaken_eq_false_iff newId).mp vacant).2
    have hne := ne_of_get hget hvacant
    rw [jobs_withJobs, u.jobs.get_publishRecord _ _ hvacant parent, hget] at hget'
    split_ifs at hget' with hid hlink
    · exact absurd hid hne
    · cases hget'
      exact absurd rfl hchanged
    · cases hget'
      exact absurd rfl hchanged
  | moved otherId mark now record tracked live =>
    have hid : jobId = otherId := by
      by_contra hne
      rw [jobs_withJobs, get_moveTo, if_neg hne] at hsame
      exact hsame rfl
    subst hid
    cases hget.symm.trans tracked
    rw [jobs_withJobs, get_moveTo, if_pos rfl] at hget'
    cases hget'
    exact ⟨mark, now, rfl, hterm, rfl⟩
  | removed otherId job tracked childless top queued =>
    rw [jobs_withJobs, get_remove] at hget' hsame
    split at hget'
    · cases hget'
    · rename_i hne
      rw [if_neg hne] at hsame
      exact absurd rfl hsame

/-- A record found after a step was there before, unless the step drew its identifier. -/
theorem step_evolves (hcons : s.jobs.Consistent) (hstep : s.step D op = some t)
    (hfresh : jobId ∉ op.drawnIds) (h : t.jobs.get jobId = some job') :
    ∃ job, s.jobs.get jobId = some job ∧ Evolves job job' := by
  obtain ⟨mid, hmid, hafter⟩ := (step_effect hcons hstep).evolves (fun hdrawn => absurd hdrawn hfresh) h
  obtain ⟨job, hjob, hbefore⟩ := evolves_afterSweep hmid
  exact ⟨job, hjob, hbefore.trans hafter⟩

end RegistryState

end RackManagement
