import RackManagement.Proofs.RecordEvolution

/-!
# After a shutdown has begun

Jobs and guards only go away, and failing the jobs that are left leaves none of them live.
-/

namespace RackManagement.RegistryState

open Library JobRegistry

variable {D : JobDomain} {s t u : RegistryState} {op : RegistryOp}

/-- `t` is closed and has no job and no guard that `s` does not have. -/
structure Drains (s t : RegistryState) : Prop where
  closed : t.registry.shuttingDown = true
  records : ∀ jobId job', t.jobs.get jobId = some job' → ∃ job, s.jobs.get jobId = some job ∧
    Evolves job job'
  guards : t.reservations ⊆ s.reservations

lemma Drains.refl (h : s.registry.shuttingDown = true) : Drains s s :=
  ⟨h, fun _ job hget => ⟨job, hget, .refl job⟩, List.Subset.refl _⟩

lemma Drains.trans (hst : Drains s t) (htu : Drains t u) : Drains s u where
  closed := htu.closed
  records := by
    intro jobId job'' hget
    obtain ⟨job', hget', hafter⟩ := htu.records jobId job'' hget
    obtain ⟨job, hjob, hbefore⟩ := hst.records jobId job' hget'
    exact ⟨job, hjob, hbefore.trans hafter⟩
  guards := fun _ h => hst.guards (htu.guards h)

/-- A closed registry refuses everything that would draw an identifier. -/
lemma step_drains (hcons : s.jobs.Consistent) (hdown : s.registry.shuttingDown = true)
    (h : s.step D op = some t) : Drains s t := by
  have hrecords : op.drawnIds = [] → ∀ jobId job', t.jobs.get jobId = some job' →
      ∃ job, s.jobs.get jobId = some job ∧ Evolves job job' :=
    fun hnone jobId job' => step_evolves hcons h (by simp [hnone])
  cases op with
  | create spec parentJobId requireNodeIdle scopes inputs =>
    simp [step, createJobWithScopes, admissionFailure, sweepOf, hdown] at h
    exact h ▸ .refl hdown
  | reserveMutation scopes jobIds =>
    simp [step, JobRegistry.reserveMutation, hdown] at h
    exact h ▸ .refl hdown
  | reserveJobScopes jobId scopes =>
    simp [step, JobRegistry.reserveJobScopes, hdown] at h
    exact h ▸ .refl hdown
  | dropReservation ownerId =>
    simp only [step] at h
    split at h <;> cases h
    exact ⟨hdown, hrecords rfl, List.erase_subset⟩
  | beginShutdown =>
    cases h
    exact ⟨rfl, hrecords rfl, List.Subset.refl _⟩
  | _ =>
    cases h
    exact ⟨hdown, hrecords rfl, List.Subset.refl _⟩

lemma run_drains {ops : List RegistryOp} (hcons : s.jobs.Consistent)
    (hdown : s.registry.shuttingDown = true)
    (h : run (step D) s ops = some t) : t.jobs.Consistent ∧ Drains s t := by
  refine run_invariant (I := fun t => t.jobs.Consistent ∧ Drains s t) ?_ ⟨hcons, .refl hdown⟩ h
  rintro u op v ⟨hu, hdrains⟩ hstep
  exact ⟨step_consistent hu hstep, hdrains.trans (step_drains hu hdrains.closed hstep)⟩

lemma mem_nonTerminalJobIds (hcons : s.jobs.Consistent) (jobId : JobId) :
    jobId ∈ s.registry.nonTerminalJobIds ↔ ∃ job, s.jobs.get jobId = some job ∧
      job.state.isTerminal = false := by
  simp only [nonTerminalJobIds, List.mem_map, List.mem_filter, FiniteMap.mem_values, Bool.not_eq_true']
  constructor
  · rintro ⟨job, ⟨⟨key, hget⟩, hlive⟩, rfl⟩
    exact ⟨job, (hcons.keyed key job hget).symm ▸ hget, hlive⟩
  · rintro ⟨job, hget, hlive⟩
    exact ⟨job, ⟨⟨jobId, hget⟩, hlive⟩, hcons.keyed jobId job hget⟩

lemma terminal_of_failed {jobId : JobId} {failure : JobFailure} {now : Instant} {job : JobSnapshot}
    (h : s.step D (.mark jobId (.failed failure) now) = some t) (hget : t.jobs.get jobId = some job) :
    job.state.isTerminal = true := by
  obtain ⟨hterm, rfl⟩ | ⟨record, _, _, rfl⟩ := step_mark_cases h
  · exact hterm job hget
  · rw [jobs_withJobs, JobStore.get_moveTo, if_pos rfl] at hget
    cases hget
    rfl

lemma run_ownersActive {ttl : Duration} {maxJobs : Nat} {ops : List RegistryOp}
    (hlive : ∀ op ∈ ops, op.startsLive = true)
    (h : run (step D) (initial ttl maxJobs) ops = some t) : t.OwnersActive := by
  let I (s : RegistryState) : Prop := s.jobs.Consistent ∧ s.OwnersActive
  have hinit : I (initial ttl maxJobs) := ⟨JobStore.consistent_empty, fun ownerId howner => by cases howner⟩
  refine (run_invariant_of_mem (I := I) (fun s op t hop hs hstep => ?_) hinit h).2
  exact ⟨step_consistent hs.1 hstep, step_ownersActive hs.1 (hlive op hop) hs.2 hstep⟩

/-- In every run, whatever is done after a shutdown has begun adds no job and no guard. Once every job
that was live at some point has been failed, no job is live, no node is occupied, and the aliases that
are still owned belong to guards that were held at that point. -/
theorem shutdown_drains {ttl : Duration} {maxJobs : Nat} {past rest : List RegistryOp}
    (hstarts : ∀ op ∈ past ++ rest, op.startsLive = true)
    (hpast : run (step D) (initial ttl maxJobs) past = some s)
    (hdown : s.registry.shuttingDown = true) (hrest : run (step D) s rest = some t) :
    Drains s t ∧
    ((∀ jobId ∈ s.registry.nonTerminalJobIds, ∃ failure now, .mark jobId (.failed failure) now ∈ rest) →
      t.registry.nonTerminalJobIds = [] ∧
        (∀ rackId nodeId jobId, ¬t.jobs.activeByNode.Contains rackId nodeId jobId) ∧
      ∀ scope ownerId, t.jobs.activeByScope.lookup scope = some ownerId → ownerId ∈ s.reservations) := by
  have howners : t.OwnersActive :=
    run_ownersActive hstarts (by rw [run_append, hpast, Option.bind_some, hrest])
  have hcons := run_consistent hpast
  obtain ⟨ht, hdrains⟩ := run_drains hcons hdown hrest
  refine ⟨hdrains, fun hfailed => ?_⟩
  have hended : ∀ jobId job', t.jobs.get jobId = some job' → job'.state.isTerminal = false → False := by
    intro jobId job' hget hlive
    obtain ⟨job, hjob, hevolves⟩ := hdrains.records jobId job' hget
    have hwas := (mem_nonTerminalJobIds hcons jobId).mpr ⟨job, hjob, hevolves.live_of_live hlive⟩
    obtain ⟨failure, now, hfail⟩ := hfailed jobId hwas
    obtain ⟨before, after, rfl⟩ := List.append_of_mem hfail
    rw [run_append, Option.bind_eq_some_iff] at hrest
    obtain ⟨u, hbefore, hrest⟩ := hrest
    rw [run_cons, Option.bind_eq_some_iff] at hrest
    obtain ⟨v, hstep, hafter⟩ := hrest
    -- the job was terminal right after it was failed, and evolved since
    obtain ⟨hu, hclosed⟩ := run_drains hcons hdown hbefore
    have hv := run_drains (step_consistent hu hstep) (step_drains hu hclosed.closed hstep).closed hafter
    obtain ⟨mid, hmid, hsince⟩ := hv.2.records jobId job' hget
    cases (terminal_of_failed hstep hmid).symm.trans (hsince.live_of_live hlive)
  refine ⟨List.eq_nil_iff_forall_not_mem.mpr fun jobId hmem => ?_, fun rackId nodeId jobId hcontains => ?_,
    fun scope ownerId howned => ?_⟩
  · obtain ⟨job, hget, hlive⟩ := (mem_nonTerminalJobIds ht jobId).mp hmem
    exact hended jobId job hget hlive
  · obtain ⟨job, hget, hindexed, _⟩ := (ht.indexed rackId nodeId jobId).mp hcontains
    exact hended jobId job hget (by simpa using (Bool.and_eq_true_iff.mp hindexed).2)
  · rcases howners ownerId (ht.coherent.isOwner_of_lookup howned) with hheld | ⟨job, hget, hlive⟩
    · exact hdrains.guards hheld
    · exact (hended ownerId job hget hlive).elim

/-- A job is created before a shutdown; after it a guard is refused and the job is failed. -/
def createThenClose : List RegistryOp :=
  [.create (JobSpec.new "rack" "node" "queued") none true [] ⟨[⟨"job"⟩], 0, 0, 0⟩, .beginShutdown]

def refuseThenFail : List RegistryOp :=
  [.reserveMutation [] [⟨"guard"⟩], .mark ⟨"job"⟩ (.failed plainDomain.shutdownFailure) 1]

theorem refuseThenFail_drains : ∃ s t, run (step plainDomain) (initial 60 10) createThenClose = some s ∧
    run (step plainDomain) s refuseThenFail = some t ∧ Drains s t ∧ t.registry.nonTerminalJobIds = [] := by
  have hpast : run (step plainDomain) (initial 60 10) createThenClose = some _ := rfl
  have hmain := shutdown_drains (by decide) hpast rfl (rfl : run _ _ refuseThenFail = some _)
  refine ⟨_, _, hpast, rfl, hmain.1, (hmain.2 fun jobId hmem => ?_).1⟩
  have hid : jobId = ⟨"job"⟩ := List.mem_singleton.mp hmem
  exact ⟨plainDomain.shutdownFailure, 1, by simp [hid, refuseThenFail]⟩

end RackManagement.RegistryState
