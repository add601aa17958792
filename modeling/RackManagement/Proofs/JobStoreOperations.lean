import RackManagement.Model.JobStore

/-!
# What the store operations do

For each operation of the store: the records, the node index and the aliases afterwards.
-/

namespace RackManagement

open Library List FiniteMap Option

namespace JobLifecycleState

lemma isTerminal_of_isRunning {state : JobLifecycleState} (h : state.isRunning = true) :
    state.isTerminal = false := by
  cases state <;> simp_all [isRunning, isTerminal]

end JobLifecycleState

section Warning

variable (now : Instant) (job : JobSnapshot)

lemma warnTerminal_eq : ∃ warned, warnTerminal now job = { job with monoInversionWarned := warned } := by
  unfold warnTerminal warnIfMonotonicTimestampInFuture
  split_ifs
  · exact ⟨job.monoInversionWarned, rfl⟩
  · exact ⟨true, rfl⟩
  · exact ⟨job.monoInversionWarned, rfl⟩

@[simp] lemma warnTerminal_jobId : (warnTerminal now job).jobId = job.jobId := by
  obtain ⟨warned, h⟩ := warnTerminal_eq now job
  rw [h]

@[simp] lemma warnTerminal_state : (warnTerminal now job).state = job.state := by
  obtain ⟨warned, h⟩ := warnTerminal_eq now job
  rw [h]

@[simp] lemma warnTerminal_rackId : (warnTerminal now job).rackId = job.rackId := by
  obtain ⟨warned, h⟩ := warnTerminal_eq now job
  rw [h]

@[simp] lemma warnTerminal_nodeId : (warnTerminal now job).nodeId = job.nodeId := by
  obtain ⟨warned, h⟩ := warnTerminal_eq now job
  rw [h]

@[simp] lemma warnTerminal_updatedAtMono : (warnTerminal now job).updatedAtMono = job.updatedAtMono := by
  obtain ⟨warned, h⟩ := warnTerminal_eq now job
  rw [h]

@[simp] lemma warnTerminal_childJobIds : (warnTerminal now job).childJobIds = job.childJobIds := by
  obtain ⟨warned, h⟩ := warnTerminal_eq now job
  rw [h]

@[simp] lemma warnTerminal_parentJobId : (warnTerminal now job).parentJobId = job.parentJobId := by
  obtain ⟨warned, h⟩ := warnTerminal_eq now job
  rw [h]

@[simp] lemma warnTerminal_workflowType : (warnTerminal now job).workflowType = job.workflowType := by
  obtain ⟨warned, h⟩ := warnTerminal_eq now job
  rw [h]

@[simp] lemma shouldIndex_warnTerminal : shouldIndex (warnTerminal now job) = shouldIndex job := by
  simp [shouldIndex]

@[simp] lemma expired_warnTerminal (at' : Instant) (ttl : Duration) :
    expired at' ttl (warnTerminal now job) = expired at' ttl job := by
  simp [expired]

end Warning

namespace JobStore

variable (s : JobStore)

@[simp] lemma get_empty (jobId : JobId) : empty.get jobId = none := rfl

section Aliases

variable (ownerId : JobId) (scopes : List JobScope)

@[simp] lemma get_reserveScopes (jobId : JobId) :
    (s.reserveScopes ownerId scopes).get jobId = s.get jobId := rfl

@[simp] lemma aliases_reserveScopes :
    (s.reserveScopes ownerId scopes).aliases = s.aliases.reserve ownerId scopes := rfl

@[simp] lemma trackedJobCount_reserveScopes :
    (s.reserveScopes ownerId scopes).trackedJobCount = s.trackedJobCount := rfl

@[simp] lemma activeByNode_releaseScopes : (s.releaseScopes ownerId).activeByNode = s.activeByNode := rfl

end Aliases

variable (ownerId : JobId)

lemma hasScopeOwner_iff : s.hasScopeOwner ownerId = true ↔ s.aliases.IsOwner ownerId :=
  Iff.rfl

lemma idTaken_eq_false_iff (jobId : JobId) :
    s.idTaken jobId = false ↔ ¬s.aliases.IsOwner jobId ∧ s.get jobId = none := by
  rw [idTaken, Bool.or_eq_false_iff, ← Bool.not_eq_true, hasScopeOwner_iff, get, isSome_eq_false_iff,
    isNone_iff_eq_none]

section Insert

variable (record : JobSnapshot)

lemma get_insertVacant (jobId : JobId) :
    (s.insertVacant record).get jobId = if jobId = record.jobId then some record else s.get jobId := by
  unfold insertVacant
  split <;> exact lookup_insert_eq_ite _ _ _ _

@[simp] lemma aliases_insertVacant : (s.insertVacant record).aliases = s.aliases := by
  unfold insertVacant
  split <;> rfl

lemma activeByNode_insertVacant : (s.insertVacant record).activeByNode =
      if shouldIndex record then s.activeByNode.add record.rackId record.nodeId record.jobId
      else s.activeByNode := by
  unfold insertVacant
  split <;> rfl

lemma trackedJobCount_insertVacant (h : s.get record.jobId = none) :
    (s.insertVacant record).trackedJobCount = s.trackedJobCount + 1 := by
  have hsize := size_insert_of_lookup_none s.byId record.jobId record h
  unfold insertVacant
  split <;> exact hsize

lemma insertWithIdGenerator_eq_some {record inserted : JobSnapshot} {nextJobIds : List JobId}
    {t : JobStore} (h : s.insertWithIdGenerator record nextJobIds = some (inserted, t)) :
    ∃ jobId, jobId ∈ record.jobId :: nextJobIds ∧ s.idTaken jobId = false ∧
      inserted = { record with jobId := jobId } ∧ t = s.insertVacant inserted := by
  induction nextJobIds generalizing record with
  | nil =>
    rw [insertWithIdGenerator] at h
    by_cases htaken : s.idTaken record.jobId = true
    · rw [if_pos htaken] at h
      cases h
    · rw [if_neg htaken] at h
      cases h
      exact ⟨_, mem_cons_self, by simpa using htaken, rfl, rfl⟩
  | cons nextJobId nextJobIds ih =>
    rw [insertWithIdGenerator] at h
    by_cases htaken : s.idTaken record.jobId = true
    · rw [if_pos htaken] at h
      obtain ⟨jobId, hmem, hfree, hrecord, ht⟩ := ih h
      exact ⟨jobId, mem_cons_of_mem _ hmem, hfree, hrecord, ht⟩
    · rw [if_neg htaken] at h
      cases h
      exact ⟨_, mem_cons_self, by simpa using htaken, rfl, rfl⟩

end Insert

section Remove

variable {s} {jobId : JobId}

lemma remove_of_get_none (h : s.get jobId = none) : s.remove jobId = (none, s) := by
  unfold get at h
  unfold remove
  rw [h]

variable {record : JobSnapshot}

lemma remove_of_get (h : s.get jobId = some record) : s.remove jobId = (some record,
      (({ s with byId := s.byId.erase jobId }).removeActiveJob record.rackId record.nodeId
        record.jobId).releaseScopes jobId) := by
  unfold get at h
  unfold remove
  rw [h]

variable (s jobId)

lemma get_remove (other : JobId) : (s.remove jobId).2.get other = if other = jobId then none
    else s.get other := by
  cases h : s.get jobId with
  | none =>
    rw [remove_of_get_none h]
    by_cases ho : other = jobId
    · rw [if_pos ho, ho, h]
    · rw [if_neg ho]
  | some record =>
    rw [remove_of_get h]
    exact lookup_erase_eq_ite _ _ _

lemma aliases_remove_of_get {s : JobStore} {jobId : JobId}
    (h : s.get jobId = some record) : (s.remove jobId).2.aliases = s.aliases.release jobId := by
  rw [remove_of_get h]
  rfl

lemma keysOf_remove : (s.remove jobId).2.aliases.keysOf.lookup ownerId =
      if ownerId = jobId ∧ (s.get jobId).isSome then none else s.aliases.keysOf.lookup ownerId := by
  cases h : s.get jobId with
  | none => simp [remove_of_get_none h]
  | some record =>
    rw [aliases_remove_of_get h, OwnerTable.keysOf_release]
    simp

lemma trackedJobCount_remove_le : (s.remove jobId).2.trackedJobCount ≤ s.trackedJobCount := by
  cases h : s.get jobId with
  | none => rw [remove_of_get_none h]
  | some record =>
    rw [remove_of_get h]
    exact size_erase_le s.byId jobId

end Remove

section RemoveAll

variable (jobIds : List JobId)

def removeAll : JobStore := jobIds.foldl (fun s jobId => (s.remove jobId).2) s

lemma removeAll_cons (jobId : JobId) :
    s.removeAll (jobId :: jobIds) = (s.remove jobId).2.removeAll jobIds := rfl

lemma get_removeAll (jobId : JobId) :
    (s.removeAll jobIds).get jobId = if jobId ∈ jobIds then none else s.get jobId := by
  induction jobIds generalizing s with
  | nil => rfl
  | cons head tail ih =>
    rw [removeAll_cons, ih, get_remove]
    by_cases hhead : jobId = head <;> by_cases htail : jobId ∈ tail <;> simp [hhead, htail]

lemma keysOf_removeAll : (s.removeAll jobIds).aliases.keysOf.lookup ownerId =
      if ownerId ∈ jobIds ∧ (s.get ownerId).isSome then none
      else s.aliases.keysOf.lookup ownerId := by
  induction jobIds generalizing s with
  | nil => simp [removeAll]
  | cons head tail ih =>
    rw [removeAll_cons, ih, keysOf_remove, get_remove]
    by_cases hhead : ownerId = head
    · subst hhead
      simp
    · simp [hhead]

lemma trackedJobCount_removeAll_le : (s.removeAll jobIds).trackedJobCount ≤ s.trackedJobCount := by
  induction jobIds generalizing s with
  | nil => exact le_refl _
  | cons head tail ih =>
    have hhead := trackedJobCount_remove_le s head
    have htail := ih (s.remove head).2
    rw [removeAll_cons]
    omega

end RemoveAll

section Sweep

variable (now : Instant) (ttl : Duration) (jobId : JobId)

lemma get_warnFutureTimestamps :
    (s.warnFutureTimestamps now).get jobId = (s.get jobId).map (warnTerminal now) :=
  lookup_mapValues _ _ _

lemma mem_protectedChildren : jobId ∈ protectedChildren s.byId now ttl ↔
      ∃ parentId parent, s.get parentId = some parent ∧ jobId ∈ parent.childJobIds ∧
        expired now ttl parent = false := by
  simp only [protectedChildren, mem_flatMap, mem_filter, mem_values,
    Bool.and_eq_true, Bool.not_eq_true', get, JobSnapshot.isParent]
  constructor
  · rintro ⟨parent, ⟨⟨parentId, hget⟩, _, hlive⟩, hmem⟩
    exact ⟨parentId, parent, hget, hmem, hlive⟩
  · rintro ⟨parentId, parent, hget, hmem, hlive⟩
    have hne : parent.childJobIds.isEmpty = false := by
      rw [← Bool.not_eq_true, List.isEmpty_iff]
      exact List.ne_nil_of_mem hmem
    exact ⟨parent, ⟨⟨parentId, hget⟩, hne, hlive⟩, hmem⟩

/-- The eviction rule: an expired job, unless an unexpired parent lists it or one of its
own children is retained. -/
lemma mem_expiredIds : jobId ∈ s.expiredIds now ttl ↔
      ∃ job, s.get jobId = some job ∧ expired now ttl job = true ∧
        (∀ parentId parent, s.get parentId = some parent → jobId ∈ parent.childJobIds →
          expired now ttl parent = true) ∧
        ∀ childId ∈ job.childJobIds, s.get childId = none := by
  rw [expiredIds, mem_filterKeys]
  refine exists_congr (fun job => and_congr_right (fun _ => ?_))
  have hprotected : (protectedChildren s.byId now ttl).contains jobId = false ↔
      ∀ parentId parent, s.get parentId = some parent → jobId ∈ parent.childJobIds →
        expired now ttl parent = true := by
    rw [← Bool.not_eq_true, contains_iff_mem, mem_protectedChildren]
    push Not
    simp only [ne_eq, Bool.not_eq_false]
  have hchildren : (!job.isParent || !job.childJobIds.any (fun c => (s.byId.lookup c).isSome)) = true ↔
      ∀ childId ∈ job.childJobIds, s.get childId = none := by
    cases hc : job.childJobIds <;> simp [JobSnapshot.isParent, hc, get]
  simp only [evictable, Bool.and_eq_true, Bool.not_eq_true', hprotected, hchildren, and_assoc]

lemma expiredIds_warnFutureTimestamps (at' : Instant) (jobId : JobId) :
    jobId ∈ (s.warnFutureTimestamps at').expiredIds now ttl ↔ jobId ∈ s.expiredIds now ttl := by
  simp only [mem_expiredIds, get_warnFutureTimestamps, map_eq_some_iff, map_eq_none_iff]
  constructor
  · rintro ⟨_, ⟨job, hget, rfl⟩, hexp, hparents, hchildren⟩
    refine ⟨job, hget, by simpa using hexp, fun parentId parent hp hmem => ?_, by simpa using hchildren⟩
    simpa using hparents parentId _ ⟨parent, hp, rfl⟩ (by simpa using hmem)
  · rintro ⟨job, hget, hexp, hparents, hchildren⟩
    refine ⟨_, ⟨job, hget, rfl⟩, by simpa using hexp, ?_, by simpa using hchildren⟩
    rintro parentId _ ⟨parent, hp, rfl⟩ hmem
    simpa using hparents parentId parent hp (by simpa using hmem)

lemma cleanupExpired_eq : s.cleanupExpired now ttl =
      (s.warnFutureTimestamps now).removeAll ((s.warnFutureTimestamps now).expiredIds now ttl) := rfl

lemma get_cleanupExpired : (s.cleanupExpired now ttl).get jobId =
      if jobId ∈ s.expiredIds now ttl then none else (s.get jobId).map (warnTerminal now) := by
  rw [cleanupExpired_eq, get_removeAll, get_warnFutureTimestamps]
  simp only [expiredIds_warnFutureTimestamps]

variable {s ttl} in
lemma get_cleanupExpired_of_live {jobId : JobId} {job : JobSnapshot} (hget : s.get jobId = some job)
    (hlive : job.state.isTerminal = false) : (s.cleanupExpired now ttl).get jobId = some job := by
  have hkeep : jobId ∉ s.expiredIds now ttl := by
    intro hmem
    obtain ⟨record, hrecord, hexpired, -⟩ := (s.mem_expiredIds now ttl jobId).mp hmem
    cases hget.symm.trans hrecord
    simp [expired, hlive] at hexpired
  have hwarn : warnTerminal now job = job := by rw [warnTerminal, if_neg (by simp [hlive])]
  rw [s.get_cleanupExpired, if_neg hkeep, hget, map_some, hwarn]

lemma get_cleanupExpired_eq_some (record : JobSnapshot) :
    (s.cleanupExpired now ttl).get jobId = some record ↔
      jobId ∉ s.expiredIds now ttl ∧ ∃ job, s.get jobId = some job ∧ warnTerminal now job = record := by
  rw [get_cleanupExpired]
  split_ifs with h <;> simp [h]

lemma keysOf_cleanupExpired : (s.cleanupExpired now ttl).aliases.keysOf.lookup ownerId =
      if ownerId ∈ s.expiredIds now ttl then none else s.aliases.keysOf.lookup ownerId := by
  have hsome : ownerId ∈ s.expiredIds now ttl → (s.get ownerId).isSome := by
    intro hmem
    obtain ⟨job, hget, _⟩ := (mem_expiredIds s now ttl ownerId).mp hmem
    simp [hget]
  rw [cleanupExpired_eq, keysOf_removeAll, get_warnFutureTimestamps]
  simp only [expiredIds_warnFutureTimestamps, isSome_map]
  by_cases hmem : ownerId ∈ s.expiredIds now ttl
  · rw [if_pos ⟨hmem, hsome hmem⟩, if_pos hmem]
  · rw [if_neg (fun h => hmem h.1), if_neg hmem]
    rfl

lemma trackedJobCount_cleanupExpired_le :
    (s.cleanupExpired now ttl).trackedJobCount ≤ s.trackedJobCount := by
  have hwarn : (s.warnFutureTimestamps now).trackedJobCount = s.trackedJobCount :=
    size_mapValues _ _
  rw [cleanupExpired_eq, ← hwarn]
  exact trackedJobCount_removeAll_le _ _

end Sweep

section SetRecord

variable (jobId : JobId) (record : JobSnapshot)

def setRecord : JobStore := { s with byId := s.byId.insert jobId record }

lemma get_setRecord (other : JobId) :
    (s.setRecord jobId record).get other = if other = jobId then some record else s.get other :=
  lookup_insert_eq_ite _ _ _ _

@[simp] lemma activeByNode_setRecord : (s.setRecord jobId record).activeByNode = s.activeByNode := rfl

@[simp] lemma aliases_setRecord : (s.setRecord jobId record).aliases = s.aliases := rfl

lemma trackedJobCount_setRecord {old : JobSnapshot} (h : s.get jobId = some old) :
    (s.setRecord jobId record).trackedJobCount = s.trackedJobCount :=
  size_insert_of_lookup_some s.byId jobId record old h

end SetRecord

lemma canAcceptChild_iff (parentId : JobId) : s.canAcceptChild parentId = true ↔
      ∃ parent, s.get parentId = some parent ∧ parent.state.isTerminal = false ∧
        parent.parentJobId = none := by
  unfold canAcceptChild get
  cases s.byId.lookup parentId <;> simp

def withChild (parent : JobSnapshot) (childId : JobId) (now : Instant) : JobSnapshot :=
  { parent with childJobIds := parent.childJobIds ++ [childId] }.touch now

variable (now : Instant)

lemma attachChild_of_parent {child parent : JobSnapshot} {parentId : JobId}
    (hchild : child.parentJobId = some parentId) (hget : s.get parentId = some parent)
    (hlive : parent.state.isTerminal = false) (htop : parent.parentJobId = none) :
    s.attachChild child now = (true, s.setRecord parentId (withChild parent child.jobId now)) := by
  unfold get at hget
  have hcond : (parent.state.isTerminal || parent.parentJobId.isSome) = false := by
    rw [hlive, htop]
    rfl
  unfold attachChild
  simp only [hchild, hget, hcond]
  rfl

lemma removeQueuedLeaf_of_leaf {jobId : JobId} (hget : s.get jobId = some record)
    (hchildless : record.childJobIds = []) (htop : record.parentJobId = none)
    (hqueued : record.state.isQueued = true) :
    s.removeQueuedLeaf jobId = (true, (s.remove jobId).2) := by
  have hremove := remove_of_get hget
  have hcond : (record.isParent || record.parentJobId.isSome || !record.state.isQueued) = false := by
    simp [JobSnapshot.isParent, hchildless, htop, hqueued]
  unfold get at hget
  unfold removeQueuedLeaf
  simp only [hget, hcond, hremove]
  rfl

lemma removeQueuedLeaf_cases (jobId : JobId) : s.removeQueuedLeaf jobId = (false, s) ∨
      ∃ record, s.get jobId = some record ∧ record.childJobIds = [] ∧ record.parentJobId = none ∧
        record.state.isQueued = true ∧ s.removeQueuedLeaf jobId = (true, (s.remove jobId).2) := by
  cases hget : s.get jobId with
  | none =>
    unfold get at hget
    unfold removeQueuedLeaf
    rw [hget]
    exact .inl rfl
  | some record =>
    by_cases hkeep : (record.isParent || record.parentJobId.isSome || !record.state.isQueued) = true
    · unfold get at hget
      unfold removeQueuedLeaf
      simp only [hget, hkeep]
      exact .inl rfl
    · simp only [JobSnapshot.isParent, Bool.or_eq_true, Bool.not_eq_true', not_or, Bool.not_eq_true,
        Bool.not_eq_false, List.isEmpty_iff, isSome_eq_false_iff,
        isNone_iff_eq_none] at hkeep
      obtain ⟨⟨hchildless, htop⟩, hqueued⟩ := hkeep
      exact .inr ⟨record, rfl, hchildless, htop, hqueued,
        s.removeQueuedLeaf_of_leaf hget hchildless htop hqueued⟩

section Transition

variable {jobId : JobId} {record : JobSnapshot} {next : JobLifecycleState}
  {transition : JobLifecycleState → Option JobLifecycleState}

def withState (record : JobSnapshot) (next : JobLifecycleState) (now : Instant) : JobSnapshot :=
  { record with state := next }.touch now

/-- A store after a live record moved to `next`: a terminal state gives up the aliases
and the node. -/
def moveTo (jobId : JobId) (record : JobSnapshot) (next : JobLifecycleState) (now : Instant) : JobStore :=
  let t := s.setRecord jobId (withState record next now)
  if next.isTerminal then
    let t := t.releaseScopes jobId
    if shouldIndex record then t.removeActiveJob record.rackId record.nodeId record.jobId else t
  else t

lemma transitionState_of_get_none (h : s.get jobId = none) (now : Instant) :
    s.transitionState jobId transition now = ((false, none), s) := by
  unfold get at h
  unfold transitionState
  rw [h]

lemma transitionState_of_refused (hget : s.get jobId = some record)
    (h : transition record.state = none) (now : Instant) :
    s.transitionState jobId transition now = ((false, none), s) := by
  unfold get at hget
  unfold transitionState
  simp only [hget, h]

variable {before : JobLifecycleState}

lemma classifyTransition_of_running (record : JobSnapshot) (hbefore : before.isTerminal = false)
    (hnext : next.isRunning = true) (now : Instant) :
    classifyTransition before (withState record next now) = some (.started (withState record next now)) ∨
    classifyTransition before (withState record next now) =
      some (.progress (withState record next now)) := by
  unfold classifyTransition
  have hstate : (withState record next now).state.isRunning = true := hnext
  cases before <;> simp_all [JobLifecycleState.isTerminal, JobLifecycleState.isQueued,
    JobLifecycleState.isRunning]

lemma classifyTransition_of_terminal (hbefore : before.isTerminal = false)
    (hnext : next.isTerminal = true) (now : Instant) :
    classifyTransition before (withState record next now) =
      some (.terminal (withState record next now)) := by
  have hrunning : (withState record next now).state.isRunning = false := by
    by_contra h
    have hlive := JobLifecycleState.isTerminal_of_isRunning (Bool.eq_true_of_not_eq_false h)
    exact absurd (hlive.symm.trans hnext) (by decide)
  have hterminal : (withState record next now).state.isTerminal = true := hnext
  simp only [classifyTransition, hrunning, hterminal, hbefore, Bool.and_false, Bool.not_false,
    Bool.and_self, Bool.false_eq_true, if_false, if_true]

lemma transitionState_of_some (hget : s.get jobId = some record)
    (h : transition record.state = some next) (now : Instant) :
    s.transitionState jobId transition now =
      ((true, classifyTransition record.state (withState record next now)),
        let t :=
          match classifyTransition record.state (withState record next now) with
          | some (.terminal _) => (s.setRecord jobId (withState record next now)).releaseScopes jobId
          | _ => s.setRecord jobId (withState record next now)
        if shouldIndex record != shouldIndex (withState record next now) then
          if shouldIndex (withState record next now) then
            t.addActiveJob record.rackId record.nodeId record.jobId
          else t.removeActiveJob record.rackId record.nodeId record.jobId
        else t) := by
  unfold get at hget
  unfold transitionState
  simp only [hget, h]
  rfl

lemma transitionState_of_live (hget : s.get jobId = some record)
    (hlive : record.state.isTerminal = false) (h : transition record.state = some next)
    (hnext : next.isRunning = true ∨ next.isTerminal = true) (now : Instant) :
    s.transitionState jobId transition now =
      ((true, classifyTransition record.state (withState record next now)),
        s.moveTo jobId record next now) := by
  rw [transitionState_of_some s hget h, Prod.mk.injEq]
  refine ⟨rfl, ?_⟩
  rcases hnext with hrun | hterm
  · have hnot := JobLifecycleState.isTerminal_of_isRunning hrun
    have hindex : shouldIndex (withState record next now) = shouldIndex record := by
      simp [shouldIndex, withState, JobSnapshot.touch, hlive, hnot]
    have hmove : s.moveTo jobId record next now = s.setRecord jobId (withState record next now) := by
      simp [moveTo, hnot]
    rcases classifyTransition_of_running record hlive hrun now with hc | hc
    · simp [hc, hindex, hmove]
    · simp [hc, hindex, hmove]
  · have hindex : shouldIndex (withState record next now) = false := by
      simp [shouldIndex, withState, JobSnapshot.touch, hterm]
    rw [classifyTransition_of_terminal hlive hterm, hindex, moveTo, if_pos hterm]
    cases hi : shouldIndex record <;> rfl

variable (jobId record next)

lemma get_moveTo (other : JobId) : (s.moveTo jobId record next now).get other =
      if other = jobId then some (withState record next now) else s.get other := by
  rw [← get_setRecord]
  unfold moveTo
  split_ifs <;> rfl

lemma activeByNode_moveTo : (s.moveTo jobId record next now).activeByNode =
      if next.isTerminal && shouldIndex record then
        s.activeByNode.remove record.rackId record.nodeId record.jobId
      else s.activeByNode := by
  unfold moveTo
  by_cases hterm : next.isTerminal = true <;> by_cases hindex : shouldIndex record = true <;>
    simp [hterm, hindex, removeActiveJob]

lemma aliases_moveTo : (s.moveTo jobId record next now).aliases =
      if next.isTerminal then s.aliases.release jobId else s.aliases := by
  unfold moveTo
  split_ifs <;> rfl

lemma trackedJobCount_moveTo {old : JobSnapshot} (h : s.get jobId = some old) (now : Instant) :
    (s.moveTo jobId record next now).trackedJobCount = s.trackedJobCount := by
  rw [← trackedJobCount_setRecord s jobId (withState record next now) h]
  unfold moveTo
  split_ifs <;> rfl

end Transition

end JobStore

end RackManagement
