import RackManagement.Proofs.RegistryConsistency

/-! # Exclusion of mutation scopes -/

namespace RackManagement.RegistryState

open Library JobRegistry JobStore

variable {D : JobDomain} {s t u : RegistryState} {op : RegistryOp} {ownerId : JobId} {scope : JobScope}

/-- The operation succeeds and gives `scope` to `ownerId`. -/
def Grants (D : JobDomain) (s : RegistryState) (ownerId : JobId) (scope : JobScope) : RegistryOp → Prop
  | .create spec parentJobId requireNodeIdle scopes inputs =>
    ∃ record registry, s.registry.createJobWithScopes D spec parentJobId requireNodeIdle scopes inputs =
      some (.ok record, registry) ∧ record.jobId = ownerId ∧
      scope ∈ admissionScopes spec requireNodeIdle scopes
  | .reserveMutation scopes jobIds =>
    ∃ registry, s.registry.reserveMutation D scopes jobIds = some (.ok ownerId, registry) ∧
      scope ∈ scopes.map JobScope.normalized
  | .reserveJobScopes jobId scopes =>
    jobId = ownerId ∧ (∃ registry, s.registry.reserveJobScopes D jobId scopes = (.ok (), registry)) ∧
      scope ∈ scopes.map JobScope.normalized
  | _ => False

def OwnerTerminal (s : RegistryState) (ownerId : JobId) : Prop :=
  ∃ job, s.jobs.get ownerId = some job ∧ job.state.isTerminal = true

def Relinquishes (s : RegistryState) (ownerId : JobId) (op : RegistryOp) : Prop :=
  op = .dropReservation ownerId ∨
    (op = .removeQueuedLeaf ownerId ∧ (s.registry.removeQueuedLeaf ownerId).1 = true)

/-- The owner neither gives up its scopes nor has ended, before or after. -/
def KeepsOwner (ownerId : JobId) (s : RegistryState) (op : RegistryOp) (t : RegistryState) : Prop :=
  ¬s.Relinquishes ownerId op ∧ ¬s.OwnerTerminal ownerId ∧ ¬t.OwnerTerminal ownerId

lemma owned_afterSweep (hcons : s.jobs.Consistent) (hlive : ¬s.OwnerTerminal ownerId)
    (h : s.jobs.activeByScope.lookup scope = some ownerId) :
    (s.afterSweep D op).jobs.activeByScope.lookup scope = some ownerId := by
  unfold afterSweep
  split
  · exact h
  · rw [jobs_sweep, hcons.ownerOf_cleanupExpired]
    refine ⟨fun hexpired => hlive ?_, h⟩
    obtain ⟨job, hget, hexp, _⟩ := (s.jobs.mem_expiredIds _ _ ownerId).mp hexpired
    exact ⟨job, hget, (Bool.and_eq_true_iff.mp hexp).1⟩

lemma owned_reserve {jobs : JobStore} {scopes : List JobScope} {other : Option JobId} {newOwner : JobId}
    (hfree : jobs.conflictingScopeExcept scopes other = none)
    (hother : ∀ id, other = some id → id = newOwner)
    (h : jobs.aliases.ownerOf.lookup scope = some ownerId) :
    (jobs.aliases.reserve newOwner scopes).ownerOf.lookup scope = some ownerId := by
  rw [OwnerTable.ownerOf_reserve]
  by_cases hmem : scope ∈ scopes
  · have hbusy := (jobs.conflictingScopeExcept_eq_none_iff _ _).mp hfree scope hmem
    have hsame := ((jobs.busyOwner_eq_none_iff _ _).mp hbusy).1 ownerId h
    rw [if_pos hmem, hother ownerId hsame.symm]
  · rw [if_neg hmem, h]

lemma Effect.owned (he : Effect u op t) (hcons : u.jobs.Consistent)
    (hkeep : ¬u.Relinquishes ownerId op) (hlive : ¬t.OwnerTerminal ownerId)
    (h : u.jobs.activeByScope.lookup scope = some ownerId) :
    t.jobs.activeByScope.lookup scope = some ownerId := by
  cases he with
  | unchanged => exact h
  | closed => exact h
  | created jobId drawn vacant parent idle free room =>
    change (u.withJobs _).jobs.aliases.ownerOf.lookup scope = some ownerId
    rw [jobs_withJobs, aliases_publishRecord]
    exact owned_reserve free (by simp) h
  | reserved newOwner drawn vacant free => exact owned_reserve free (by simp) h
  | extended jobId scopes job tracked live free => exact owned_reserve free (by simp) h
  | dropped droppedId held =>
    have hne : ownerId ≠ droppedId := by
      rintro rfl
      exact hkeep (.inl rfl)
    exact (hcons.coherent.ownerOf_release droppedId ownerId scope).mpr ⟨hne, h⟩
  | moved jobId mark now job tracked live =>
    change (u.withJobs _).jobs.aliases.ownerOf.lookup scope = some ownerId
    rw [jobs_withJobs, aliases_moveTo]
    by_cases hterm : mark.target.isTerminal = true
    · have hne : ownerId ≠ jobId := by
        rintro rfl
        apply hlive
        refine ⟨withState job mark.target now, ?_, hterm⟩
        rw [jobs_withJobs, get_moveTo, if_pos rfl]
      rw [if_pos hterm]
      exact (hcons.coherent.ownerOf_release jobId ownerId scope).mpr ⟨hne, h⟩
    · rw [if_neg hterm]
      exact h
  | removed jobId job tracked childless top queued =>
    have hne : ownerId ≠ jobId := by
      rintro rfl
      apply hkeep
      refine .inr ⟨rfl, ?_⟩
      have hremove := u.jobs.removeQueuedLeaf_of_leaf tracked childless top queued
      unfold JobRegistry.removeQueuedLeaf
      rw [hremove]
    change (u.withJobs _).jobs.aliases.ownerOf.lookup scope = some ownerId
    rw [jobs_withJobs, aliases_remove_of_get tracked]
    exact (hcons.coherent.ownerOf_release jobId ownerId scope).mpr ⟨hne, h⟩

lemma step_owned (hcons : s.jobs.Consistent) (hstep : s.step D op = some t)
    (hkeep : KeepsOwner ownerId s op t) (h : s.jobs.activeByScope.lookup scope = some ownerId) :
    t.jobs.activeByScope.lookup scope = some ownerId := by
  obtain ⟨hrelinquish, hbefore, hafter⟩ := hkeep
  have hrelinquish' : ¬(s.afterSweep D op).Relinquishes ownerId op := by
    rintro (rfl | ⟨rfl, hremoved⟩)
    · exact hrelinquish (.inl rfl)
    · exact hrelinquish (.inr ⟨rfl, hremoved⟩)
  exact (step_effect hcons hstep).owned (consistent_afterSweep hcons) hrelinquish' hafter
    (owned_afterSweep hcons hbefore h)

lemma step_grants (hcons : s.jobs.Consistent) (hstep : s.step D op = some t)
    (h : s.Grants D ownerId scope op) : t.jobs.activeByScope.lookup scope = some ownerId := by
  change t.jobs.aliases.ownerOf.lookup scope = some ownerId
  cases op with
  | create spec parentJobId requireNodeIdle scopes inputs =>
    obtain ⟨record, registry, hcreate, hid, hmem⟩ := h
    simp only [step, hcreate, Option.map_some, Option.some.injEq] at hstep
    obtain ⟨_, _, hcontra, _⟩ | ⟨_, ⟨_, hcontra⟩, _⟩ | ⟨haccept, _, record', hok, hpub⟩ :=
      s.registry.createJobWithScopes_cases D hcreate
    · cases hcontra
    · cases hcontra
    · cases hok
      have hparent := (guards_afterSweep inputs hcons haccept).1
      obtain ⟨jobId, _, _, _, rfl⟩ := publish_eq_some _ hparent hpub
      rw [← hstep]
      change (publishRecord _ record _ _).aliases.ownerOf.lookup scope = some ownerId
      rw [aliases_publishRecord, OwnerTable.ownerOf_reserve, if_pos hmem, hid]
  | reserveMutation scopes jobIds =>
    obtain ⟨registry, hreserve, hmem⟩ := h
    simp only [step, hreserve, Option.map_some, Option.some.injEq] at hstep
    obtain ⟨_, hcontra, _⟩ | ⟨newOwner, hok, _, _, _, rfl⟩ := s.registry.reserveMutation_cases D hreserve
    · cases hcontra
    · cases hok
      rw [← hstep]
      change (s.jobs.aliases.reserve ownerId _).ownerOf.lookup scope = some ownerId
      rw [OwnerTable.ownerOf_reserve, if_pos hmem]
  | reserveJobScopes jobId scopes =>
    obtain ⟨rfl, ⟨registry, hreserve⟩, hmem⟩ := h
    simp only [step, hreserve, Option.some.injEq] at hstep
    obtain ⟨_, hcontra⟩ | ⟨job, _, _, _, hok⟩ := s.registry.reserveJobScopes_cases D jobId scopes
    · cases hreserve.symm.trans hcontra
    · cases hreserve.symm.trans hok
      rw [← hstep]
      change (s.jobs.aliases.reserve jobId _).ownerOf.lookup scope = some jobId
      rw [OwnerTable.ownerOf_reserve, if_pos hmem]
  | dropReservation ownerId => exact h.elim
  | mark jobId mark now => exact h.elim
  | removeQueuedLeaf jobId => exact h.elim
  | cleanupExpired now => exact h.elim
  | beginShutdown => exact h.elim

/-- Every admission of `scope` for somebody else than `ownerId` is refused and leaves the registry as it was. -/
structure ScopeClosed (D : JobDomain) (r : JobRegistry) (scope : JobScope) (ownerId : JobId) : Prop where
  create : ∀ spec parentJobId requireNodeIdle scopes inputs,
    scope ∈ admissionScopes spec requireNodeIdle scopes →
    ∃ failure, r.createJobWithScopes D spec parentJobId requireNodeIdle scopes inputs =
      some (.error failure, r)
  reserveMutation : ∀ scopes jobIds, scope ∈ scopes.map JobScope.normalized →
    ∃ failure, r.reserveMutation D scopes jobIds = some (.error failure, r)
  reserveJobScopes : ∀ jobId scopes, jobId ≠ ownerId → scope ∈ scopes.map JobScope.normalized →
    ∃ failure, r.reserveJobScopes D jobId scopes = (.error failure, r)

lemma conflictingScopeExcept_of_owned {jobs : JobStore} {scopes : List JobScope} (other : Option JobId)
    (h : jobs.activeByScope.lookup scope = some ownerId) (hmem : scope ∈ scopes)
    (hother : other ≠ some ownerId) :
    ∃ conflict, jobs.conflictingScopeExcept scopes other = some conflict := by
  rw [← Option.ne_none_iff_exists']
  intro hfree
  have hbusy := (jobs.conflictingScopeExcept_eq_none_iff _ _).mp hfree scope hmem
  exact hother (((jobs.busyOwner_eq_none_iff _ _).mp hbusy).1 ownerId h).symm

lemma scopeClosed_of_owned {r : JobRegistry} (h : r.jobs.activeByScope.lookup scope = some ownerId) :
    ScopeClosed D r scope ownerId where
  create := by
    intro spec parentJobId requireNodeIdle scopes inputs hmem
    obtain ⟨conflict, hconflict⟩ := conflictingScopeExcept_of_owned none h hmem (by simp)
    cases haccept : r.admissionFailure D spec parentJobId requireNodeIdle
        (admissionScopes spec requireNodeIdle scopes) with
    | none =>
      have hfree := (r.admissionFailure_eq_none D haccept).2.2.2
      cases hfree.symm.trans hconflict
    | some failure =>
      refine ⟨failure, ?_⟩
      unfold createJobWithScopes
      simp only [haccept]
  reserveMutation := by
    intro scopes jobIds hmem
    obtain ⟨conflict, hconflict⟩ := conflictingScopeExcept_of_owned none h hmem (by simp)
    unfold JobRegistry.reserveMutation conflictingScope
    by_cases hdown : r.shuttingDown = true
    · rw [if_pos hdown]
      exact ⟨_, rfl⟩
    · rw [if_neg hdown, hconflict]
      exact ⟨_, rfl⟩
  reserveJobScopes := by
    intro jobId scopes hne hmem
    have hother : some jobId ≠ some ownerId := fun he => hne (Option.some.inj he)
    obtain ⟨conflict, hconflict⟩ := conflictingScopeExcept_of_owned (some jobId) h hmem hother
    obtain hrefused | ⟨job, _, _, hfree, _⟩ := r.reserveJobScopes_cases D jobId scopes
    · exact hrefused
    · cases hfree.symm.trans hconflict

/-- A granted scope stays with its owner until the owner gives it up, and is closed to everybody else meanwhile. -/
theorem granted_scope_exclusive {ttl : Duration} {maxJobs : Nat} {before later : List RegistryOp}
    (hbefore : run (step D) (initial ttl maxJobs) before = some s) (hgrant : s.Grants D ownerId scope op)
    (hstep : s.step D op = some t) (hlater : run (step D) t later = some u)
    (hkeep : Along (step D) (KeepsOwner ownerId) t later) :
    u.jobs.activeByScope.lookup scope = some ownerId ∧ ScopeClosed D u.registry scope ownerId := by
  let I : RegistryState → Prop := fun s =>
    s.jobs.Consistent ∧ s.jobs.activeByScope.lookup scope = some ownerId
  have hcons := run_consistent hbefore
  have hstart : I t := ⟨step_consistent hcons hstep, step_grants hcons hstep hgrant⟩
  have hpreserve : ∀ s op t, I s → KeepsOwner ownerId s op t → step D s op = some t → I t := by
    intro s op t hs hk hst
    exact ⟨step_consistent hs.1 hst, step_owned hs.1 hst hk hs.2⟩
  have hend := run_invariant_along hpreserve hstart hkeep hlater
  exact ⟨hend.2, scopeClosed_of_owned hend.2⟩

/-- A guard is taken; then another node's job is created and a sweep runs. -/
def guarded : RegistryState :=
  (step plainDomain (initial 60 10) (.reserveMutation [.logicalNode "rack" "node"] [⟨"guard"⟩])).getD
    (initial 60 10)

def createThenSweep : List RegistryOp :=
  [.create (JobSpec.new "rack" "other" "queued") none true [] ⟨[⟨"job"⟩], 0, 0, 0⟩, .cleanupExpired 100]

theorem guard_exclusive_across_createThenSweep :
    ∃ u, run (step plainDomain) guarded createThenSweep = some u ∧
      u.jobs.activeByScope.lookup (.logicalNode "rack" "node") = some ⟨"guard"⟩ ∧
      ScopeClosed plainDomain u.registry (.logicalNode "rack" "node") ⟨"guard"⟩ := by
  have hbefore : run (step plainDomain) (initial 60 10) [] = some (initial 60 10) := rfl
  have hgrant : (initial 60 10).Grants plainDomain ⟨"guard"⟩ (.logicalNode "rack" "node")
      (.reserveMutation [.logicalNode "rack" "node"] [⟨"guard"⟩]) := ⟨_, rfl, by decide⟩
  have hstep : step plainDomain (initial 60 10)
      (.reserveMutation [.logicalNode "rack" "node"] [⟨"guard"⟩]) = some guarded := rfl
  have hlater : run (step plainDomain) guarded createThenSweep = some _ := rfl
  refine ⟨_, hlater, granted_scope_exclusive hbefore hgrant hstep hlater ?_⟩
  intro t ht
  cases ht
  refine ⟨⟨?_, ?_, ?_⟩, fun t ht => ?_⟩
  · rintro (h | ⟨h, _⟩) <;> cases h
  · rintro ⟨job, hget, _⟩
    cases hget
  · rintro ⟨job, hget, _⟩
    cases hget
  · cases ht
    refine ⟨⟨?_, ?_, ?_⟩, trivial⟩
    · rintro (h | ⟨h, _⟩) <;> cases h
    · rintro ⟨job, hget, _⟩
      cases hget
    · rintro ⟨job, hget, _⟩
      cases hget

/-- A job that is created in a terminal state is granted a scope, which the sweep takes from it. -/
theorem created_terminal_loses_scope : ∃ s t,
    let op : RegistryOp :=
      .create { JobSpec.new "rack" "" "queued" with initialState := .completed "done" "" }
      none false [.logicalNode "rack" "node"] ⟨[⟨"job"⟩], 0, 0, 0⟩
    (initial 60 10).Grants plainDomain ⟨"job"⟩ (.logicalNode "rack" "node") op ∧
      step plainDomain (initial 60 10) op = some s ∧ step plainDomain s (.cleanupExpired 100) = some t ∧
      t.jobs.activeByScope.lookup (.logicalNode "rack" "node") = none := by
  refine ⟨_, _, ⟨_, _, rfl, rfl, ?_⟩, rfl, rfl, rfl⟩
  decide

end RackManagement.RegistryState
