import RackManagement.Model.ParentAggregation
import RackManagement.Proofs.RegistryConsistency

/-!
# Parents and children under eviction

A retained child has its parent, and a parent that has not expired has all its children.
-/

namespace RackManagement

open Library JobRegistry List

namespace JobStore

/-- The links between parents and children. The parents that satisfy `K` have all the
children they list. -/
structure ParentLinks (K : JobSnapshot → Prop) (s : JobStore) : Prop where
  child : ∀ jobId job parentId, s.get jobId = some job → job.parentJobId = some parentId →
    ∃ parent, s.get parentId = some parent ∧ parent.childJobIds.count jobId = 1
  parent : ∀ parentId parent, s.get parentId = some parent → K parent →
    ∀ childId ∈ parent.childJobIds, ∃ job, s.get childId = some job ∧ job.parentJobId = some parentId

namespace ParentLinks

variable {s : JobStore} {K : JobSnapshot → Prop} (h : s.ParentLinks K)
include h

lemma sweep {K' : JobSnapshot → Prop} {now : Instant} {ttl : Duration}
    (hK : ∀ job, K' (warnTerminal now job) → K job ∧ expired now ttl job = false) :
    (s.cleanupExpired now ttl).ParentLinks K' where
  child := by
    intro jobId job' parentId hget' hlink'
    obtain ⟨_, job, hget, rfl⟩ := (s.get_cleanupExpired_eq_some _ _ _ _).mp hget'
    rw [warnTerminal_parentJobId] at hlink'
    obtain ⟨parent, hparent, hcount⟩ := h.child jobId job parentId hget hlink'
    have hmem : jobId ∈ parent.childJobIds := count_pos_iff.mp (by omega)
    have hkeep : parentId ∉ s.expiredIds now ttl := by
      intro hexpired
      obtain ⟨parent', hparent', _, _, hchildren⟩ := (s.mem_expiredIds _ _ _).mp hexpired
      cases hparent.symm.trans hparent'
      have hnone := hchildren jobId hmem
      rw [hget] at hnone
      cases hnone
    refine ⟨warnTerminal now parent, ?_, by rwa [warnTerminal_childJobIds]⟩
    exact (s.get_cleanupExpired_eq_some _ _ _ _).mpr ⟨hkeep, parent, hparent, rfl⟩
  parent := by
    intro parentId parent' hget' hkept childId hmem
    obtain ⟨_, parent, hget, rfl⟩ := (s.get_cleanupExpired_eq_some _ _ _ _).mp hget'
    obtain ⟨hold, hunexpired⟩ := hK parent hkept
    rw [warnTerminal_childJobIds] at hmem
    obtain ⟨job, hjob, hlink⟩ := h.parent parentId parent hget hold childId hmem
    have hkeep : childId ∉ s.expiredIds now ttl := by
      intro hexpired
      obtain ⟨_, _, _, hparents, _⟩ := (s.mem_expiredIds _ _ _).mp hexpired
      have hexp := hparents parentId parent hget hmem
      rw [hunexpired] at hexp
      cases hexp
    refine ⟨warnTerminal now job, ?_, by rwa [warnTerminal_parentJobId]⟩
    exact (s.get_cleanupExpired_eq_some _ _ _ _).mpr ⟨hkeep, job, hjob, rfl⟩

variable {jobId : JobId} {record : JobSnapshot}

lemma moveTo (hK : ∀ job, job.state.isTerminal = false → K job)
    (hget : s.get jobId = some record) (hlive : record.state.isTerminal = false)
    (next : JobLifecycleState) (now : Instant) : (s.moveTo jobId record next now).ParentLinks K := by
  have hafter : ∀ other job', (s.moveTo jobId record next now).get other = some job' →
      ∃ job, s.get other = some job ∧ job'.parentJobId = job.parentJobId ∧
        job'.childJobIds = job.childJobIds ∧ (K job' → K job) := by
    intro other job' hjob'
    rw [get_moveTo] at hjob'
    split at hjob'
    · rename_i ho
      cases hjob'
      exact ⟨record, ho ▸ hget, rfl, rfl, fun _ => hK record hlive⟩
    · exact ⟨job', hjob', rfl, rfl, id⟩
  have hbefore : ∀ other job, s.get other = some job →
      ∃ job', (s.moveTo jobId record next now).get other = some job' ∧
        job'.parentJobId = job.parentJobId ∧ job'.childJobIds = job.childJobIds := by
    intro other job hjob
    rw [get_moveTo]
    split
    · rename_i ho
      subst ho
      cases hget.symm.trans hjob
      exact ⟨_, rfl, rfl, rfl⟩
    · exact ⟨job, hjob, rfl, rfl⟩
  constructor
  · intro other job' parentId hjob' hlink'
    obtain ⟨job, hjob, hlink, _, _⟩ := hafter other job' hjob'
    obtain ⟨parent, hparent, hcount⟩ := h.child other job parentId hjob (hlink ▸ hlink')
    obtain ⟨parent', hparent', _, hchildren⟩ := hbefore parentId parent hparent
    exact ⟨parent', hparent', by rwa [hchildren]⟩
  · intro parentId parent' hparent' hkept childId hmem
    obtain ⟨parent, hparent, _, hchildren, hold⟩ := hafter parentId parent' hparent'
    rw [hchildren] at hmem
    obtain ⟨job, hjob, hlink⟩ := h.parent parentId parent hparent (hold hkept) childId hmem
    obtain ⟨job', hjob', hlink', _⟩ := hbefore childId job hjob
    exact ⟨job', hjob', hlink'.trans hlink⟩

lemma removeLeaf (hget : s.get jobId = some record)
    (hchildless : record.childJobIds = []) (htop : record.parentJobId = none) :
    (s.remove jobId).2.ParentLinks K where
  child := by
    intro other job parentId hjob hlink
    rw [get_remove] at hjob
    split at hjob
    · cases hjob
    · obtain ⟨parent, hparent, hcount⟩ := h.child other job parentId hjob hlink
      have hne : parentId ≠ jobId := by
        rintro rfl
        cases hget.symm.trans hparent
        rw [hchildless] at hcount
        cases hcount
      exact ⟨parent, by rw [get_remove, if_neg hne, hparent], hcount⟩
  parent := by
    intro parentId parent hparent hkept childId hmem
    rw [get_remove] at hparent
    split at hparent
    · cases hparent
    · obtain ⟨job, hjob, hlink⟩ := h.parent parentId parent hparent hkept childId hmem
      have hne : childId ≠ jobId := by
        rintro rfl
        cases hget.symm.trans hjob
        rw [htop] at hlink
        cases hlink
      exact ⟨job, by rw [get_remove, if_neg hne, hjob], hlink⟩

lemma unlisted_of_vacant {parentId : JobId} {parent : JobSnapshot} (hvacant : s.get jobId = none)
    (hget : s.get parentId = some parent) (hkept : K parent) : jobId ∉ parent.childJobIds := by
  intro hmem
  obtain ⟨job, hjob, _⟩ := h.parent parentId parent hget hkept jobId hmem
  rw [hvacant] at hjob
  cases hjob

variable {job : JobSnapshot}

omit h in
lemma get_publishRecord_of_get {other : JobId} (scopes : List JobScope)
    (attachedAt : Instant) (hvacant : s.get record.jobId = none)
    (hparent : ∀ parentId, record.parentJobId = some parentId → s.canAcceptChild parentId = true)
    (hjob : s.get other = some job) :
    ∃ job', (s.publishRecord record scopes attachedAt).get other = some job' ∧
      job'.parentJobId = job.parentJobId ∧
      ∀ jobId, jobId ≠ record.jobId → job'.childJobIds.count jobId = job.childJobIds.count jobId := by
  have hne := ne_of_get hjob hvacant
  rw [s.get_publishRecord scopes attachedAt hvacant hparent, if_neg hne, hjob]
  split
  · refine ⟨withChild job record.jobId attachedAt, rfl, rfl, fun jobId hid => ?_⟩
    have hcount : (job.childJobIds ++ [record.jobId]).count jobId = job.childJobIds.count jobId := by
      rw [count_append, count_singleton]
      simp [hid.symm]
    exact hcount
  · exact ⟨job, rfl, rfl, fun _ _ => rfl⟩

lemma publishRecord (hK : ∀ job, job.state.isTerminal = false → K job)
    (scopes : List JobScope) (attachedAt : Instant) (hvacant : s.get record.jobId = none)
    (hparent : ∀ parentId, record.parentJobId = some parentId → s.canAcceptChild parentId = true)
    (hnew : record.childJobIds = []) : (s.publishRecord record scopes attachedAt).ParentLinks K := by
  have hpub := s.get_publishRecord scopes attachedAt hvacant hparent
  constructor
  · intro jobId job' parentId hjob' hlink'
    by_cases hid : jobId = record.jobId
    · rw [hpub, if_pos hid] at hjob'
      cases hjob'
      obtain ⟨parent, hget, hlive, _⟩ := (s.canAcceptChild_iff parentId).mp (hparent parentId hlink')
      have hne := ne_of_get hget hvacant
      refine ⟨withChild parent record.jobId attachedAt, ?_, ?_⟩
      · rw [hpub, if_neg hne, if_pos hlink', hget]
        rfl
      · have hzero := count_eq_zero.mpr (h.unlisted_of_vacant hvacant hget (hK parent hlive))
        change (parent.childJobIds ++ [record.jobId]).count jobId = 1
        rw [hid, count_append, hzero, count_singleton_self]
    · rw [hpub, if_neg hid] at hjob'
      obtain ⟨job, hjob, hlink⟩ : ∃ job, s.get jobId = some job ∧ job.parentJobId = some parentId := by
        split at hjob'
        · obtain ⟨job, hjob, rfl⟩ := Option.map_eq_some_iff.mp hjob'
          exact ⟨job, hjob, hlink'⟩
        · exact ⟨job', hjob', hlink'⟩
      obtain ⟨parent, hget, hcount⟩ := h.child jobId job parentId hjob hlink
      obtain ⟨parent', hget', _, hsame⟩ := get_publishRecord_of_get scopes attachedAt hvacant hparent hget
      exact ⟨parent', hget', by rw [hsame jobId hid, hcount]⟩
  · intro parentId parent' hget' hkept childId hmem
    by_cases hid : parentId = record.jobId
    · rw [hpub, if_pos hid] at hget'
      cases hget'
      rw [hnew] at hmem
      cases hmem
    · rw [hpub, if_neg hid] at hget'
      have hchild : ∀ parent, s.get parentId = some parent → K parent → childId ∈ parent.childJobIds →
          ∃ job, (s.publishRecord record scopes attachedAt).get childId = some job ∧
            job.parentJobId = some parentId := by
        intro parent hget hkeep hlisted
        obtain ⟨job, hjob, hlink⟩ := h.parent parentId parent hget hkeep childId hlisted
        obtain ⟨job', hjob', hlink', _⟩ := get_publishRecord_of_get scopes attachedAt hvacant hparent hjob
        exact ⟨job', hjob', hlink'.trans hlink⟩
      by_cases hlink : record.parentJobId = some parentId
      · obtain ⟨parent, hget, hlive, _⟩ := (s.canAcceptChild_iff parentId).mp (hparent parentId hlink)
        rw [if_pos hlink, hget, Option.map_some] at hget'
        cases hget'
        rcases mem_append.mp hmem with hlisted | hlast
        · exact hchild parent hget (hK parent hlive) hlisted
        · rw [mem_singleton.mp hlast]
          exact ⟨record, by rw [hpub, if_pos rfl], hlink⟩
      · rw [if_neg hlink] at hget'
        exact hchild parent' hget' hkept hmem

end ParentLinks

end JobStore

lemma missing_foldl_readChild (get : JobId → Option JobSnapshot) (childIds : List JobId)
    (h : ∀ childId ∈ childIds, (get childId).isSome) (counts : ParentCounts) :
    (childIds.foldl (fun counts childId => counts.readChild (get childId)) counts).missing =
      counts.missing := by
  induction childIds generalizing counts with
  | nil => rfl
  | cons childId childIds ih =>
    have hrest : ∀ other ∈ childIds, (get other).isSome := fun other ho => h other (mem_cons_of_mem _ ho)
    obtain ⟨child, hchild⟩ := Option.isSome_iff_exists.mp (h childId mem_cons_self)
    have hone : (counts.readChild (get childId)).missing = counts.missing := by
      rw [hchild]
      unfold ParentCounts.readChild ParentCounts.countChild
      dsimp only
      split <;> rfl
    rw [foldl_cons, ih hrest, hone]

namespace RegistryState

variable {D : JobDomain} {s t u : RegistryState} {op : RegistryOp}

lemma Effect.parentLinks {K : JobSnapshot → Prop} (hK : ∀ job, job.state.isTerminal = false → K job)
    (he : Effect u op t) (h : u.jobs.ParentLinks K) : t.jobs.ParentLinks K := by
  cases he with
  | unchanged => exact h
  | closed => exact h
  | created jobId drawn vacant parent idle free room =>
    have hvacant := ((u.jobs.idTaken_eq_false_iff jobId).mp vacant).2
    exact h.publishRecord hK _ _ hvacant parent rfl
  | reserved ownerId drawn vacant free => exact ⟨h.child, h.parent⟩
  | dropped ownerId held => exact ⟨h.child, h.parent⟩
  | extended jobId scopes job tracked live free => exact ⟨h.child, h.parent⟩
  | moved jobId mark now job tracked live => exact h.moveTo hK tracked live mark.target now
  | removed jobId job tracked childless top queued => exact h.removeLeaf tracked childless top

lemma Effect.lastSweep_eq (he : Effect u op t) : t.lastSweep = u.lastSweep := by
  cases he <;> rfl

lemma Effect.ttl_eq (he : Effect u op t) : t.registry.ttl = u.registry.ttl := by
  cases he <;> rfl

lemma step_liveParentLinks (hcons : s.jobs.Consistent)
    (h : s.jobs.ParentLinks (fun job => job.state.isTerminal = false)) (hstep : s.step D op = some t) :
    t.jobs.ParentLinks (fun job => job.state.isTerminal = false) := by
  have hsweep : (s.afterSweep D op).jobs.ParentLinks (fun job => job.state.isTerminal = false) := by
    unfold afterSweep
    split
    · exact h
    · rename_i now _
      apply h.sweep
      intro job hlive
      rw [warnTerminal_state] at hlive
      exact ⟨hlive, by rw [expired, hlive, Bool.false_and]⟩
  exact (step_effect hcons hstep).parentLinks (fun _ hlive => hlive) hsweep

def Unexpired (s : RegistryState) (job : JobSnapshot) : Prop :=
  ∀ now, s.lastSweep = some now → expired now s.registry.ttl job = false

lemma unexpired_of_live (h : job.state.isTerminal = false) : s.Unexpired job := by
  intro now _
  rw [expired, h, Bool.false_and]

/-- The sweep of an operation, if it runs one, does not run earlier than the latest sweep. -/
def SweepsForward (D : JobDomain) (s : RegistryState) (op : RegistryOp) : Prop :=
  ∀ now last, s.sweepOf D op = some now → s.lastSweep = some last → last ≤ now

lemma expired_mono {last now : Instant} {ttl : Duration} (hle : last ≤ now)
    (h : expired now ttl job = false) : expired last ttl job = false := by
  unfold expired isOlderThan at h ⊢
  cases hterm : job.state.isTerminal with
  | false => rfl
  | true =>
    rw [hterm, Bool.true_and, decide_eq_false_iff_not] at h
    rw [Bool.true_and, decide_eq_false_iff_not]
    exact fun hold => h (hold.trans (Nat.sub_le_sub_right hle job.updatedAtMono))

lemma parentLinks_afterSweep (hforward : s.SweepsForward D op) (h : s.jobs.ParentLinks s.Unexpired) :
    (s.afterSweep D op).jobs.ParentLinks (s.afterSweep D op).Unexpired := by
  unfold afterSweep
  cases hsweep : s.sweepOf D op with
  | none => exact h
  | some now =>
    apply h.sweep
    intro job hkept
    have hnow : expired now s.registry.ttl job = false := by
      rw [← expired_warnTerminal now job]
      exact hkept now rfl
    refine ⟨fun last hlast => ?_, hnow⟩
    exact expired_mono (hforward now last hsweep hlast) hnow

lemma step_parentLinks (hcons : s.jobs.Consistent) (hforward : s.SweepsForward D op)
    (h : s.jobs.ParentLinks s.Unexpired) (hstep : s.step D op = some t) :
    t.jobs.ParentLinks t.Unexpired := by
  have heffect := step_effect hcons hstep
  have hlinks := heffect.parentLinks (fun _ => unexpired_of_live) (parentLinks_afterSweep hforward h)
  have hsame : t.Unexpired = (s.afterSweep D op).Unexpired := by
    funext job
    unfold Unexpired
    rw [heffect.lastSweep_eq, heffect.ttl_eq]
  rw [hsame]
  exact hlinks

/-- With sweeps in order, a child has its parent, which lists it once; a parent that is live or not
yet expired has all its children. -/
theorem run_parent_child_integrity {ttl : Duration} {maxJobs : Nat} {ops : List RegistryOp}
    (hforward : Along (step D) (fun s op _ => s.SweepsForward D op) (initial ttl maxJobs) ops)
    (h : run (step D) (initial ttl maxJobs) ops = some s) :
    (∀ jobId job parentId, s.jobs.get jobId = some job → job.parentJobId = some parentId →
      ∃ parent, s.jobs.get parentId = some parent ∧ parent.childJobIds.count jobId = 1) ∧
    (∀ parentId parent, s.jobs.get parentId = some parent →
      (parent.state.isTerminal = false ∨
        ∀ now, s.lastSweep = some now → isOlderThan now parent.updatedAtMono s.registry.ttl = false) →
      ∀ childId ∈ parent.childJobIds, (s.jobs.get childId).isSome) ∧
    (∀ parentId parent, s.jobs.get parentId = some parent → parent.state.isTerminal = false →
      (collectParentCounts s.jobs.get parent.childJobIds).missing = 0) := by
  let I : RegistryState → Prop := fun s => s.jobs.Consistent ∧ s.jobs.ParentLinks s.Unexpired
  have hinit : I (initial ttl maxJobs) := by
    refine ⟨JobStore.consistent_empty, ⟨?_, ?_⟩⟩
    · intro jobId job parentId hget
      cases hget
    · intro parentId parent hget
      cases hget
  have hstep : ∀ s op t, I s → s.SweepsForward D op → step D s op = some t → I t := by
    intro s op t hs hf hst
    exact ⟨step_consistent hs.1 hst, step_parentLinks hs.1 hf hs.2 hst⟩
  have hlinks := (run_invariant_along hstep hinit hforward h).2
  have hretained : ∀ parentId parent, s.jobs.get parentId = some parent → s.Unexpired parent →
      ∀ childId ∈ parent.childJobIds, (s.jobs.get childId).isSome := by
    intro parentId parent hget hkept childId hmem
    obtain ⟨job, hjob, _⟩ := hlinks.parent parentId parent hget hkept childId hmem
    rw [hjob]
    rfl
  refine ⟨hlinks.child, ?_, ?_⟩
  · intro parentId parent hget hyoung
    apply hretained parentId parent hget
    rcases hyoung with hlive | hyoung
    · exact unexpired_of_live hlive
    · intro now hnow
      rw [expired, hyoung now hnow, Bool.and_false]
  · intro parentId parent hget hlive
    exact missing_foldl_readChild _ _ (hretained parentId parent hget (unexpired_of_live hlive)) _

/-- A parent with one child that completes; a sweep later runs after the retention. -/
def parentChildSweep : List RegistryOp :=
  [.create (JobSpec.newParent "rack" "accepting") none false [] ⟨[⟨"parent"⟩], 0, 0, 0⟩,
    .create (JobSpec.new "rack" "node" "queued") (some ⟨"parent"⟩) true [] ⟨[⟨"child"⟩], 0, 1, 1⟩,
    .mark ⟨"child"⟩ (.completed "done" "") 2,
    .cleanupExpired 100]

theorem parentChildSweep_no_missing_child :
    ∃ s parent, run (step plainDomain) (initial 60 10) parentChildSweep = some s ∧
      s.jobs.get ⟨"parent"⟩ = some parent ∧ parent.childJobIds = [⟨"child"⟩] ∧
      (collectParentCounts s.jobs.get parent.childJobIds).missing = 0 := by
  have h : run (step plainDomain) (initial 60 10) parentChildSweep = some _ := rfl
  have hforward : Along (step plainDomain) (fun s op _ => s.SweepsForward plainDomain op)
      (initial 60 10) parentChildSweep := by
    intro s hs
    cases hs
    refine ⟨fun _ _ hnow _ => (by cases hnow), fun s hs => ?_⟩
    cases hs
    refine ⟨fun _ _ hnow _ => (by cases hnow), fun s hs => ?_⟩
    cases hs
    refine ⟨fun _ _ hnow _ => (by cases hnow), fun s hs => ?_⟩
    cases hs
    exact ⟨fun _ _ _ hlast => (by cases hlast), trivial⟩
  exact ⟨_, _, h, rfl, rfl, (run_parent_child_integrity hforward h).2.2 ⟨"parent"⟩ _ rfl rfl⟩

end RegistryState

end RackManagement
