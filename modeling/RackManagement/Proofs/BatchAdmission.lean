import Mathlib.Data.List.Count
import RackManagement.Model.FirmwareBatch
import RackManagement.Proofs.TrackerSteps

/-!
# Admission of the nodes of a firmware batch

While an admitted child is live the refreshes of the loop keep the parent live. A child that is sealed
when no other child is live takes the parent with it.
-/

namespace RackManagement

open Library List JobStore Option

namespace ParentCounts

lemma readChild_total_done (counts : ParentCounts) (child : Option JobSnapshot) :
    (counts.readChild child).total = counts.total ∧ (counts.readChild child).done =
      counts.done + if child.all (fun child => child.state.isTerminal) then 1 else 0 := by
  cases child with
  | none => simp [readChild, done, Nat.add_assoc]
  | some child =>
    rw [readChild, countChild]
    cases hstate : child.state <;> simp [hstate, done, JobLifecycleState.isTerminal] <;> omega

lemma done_collectParentCounts_lt {get : JobId → Option JobSnapshot} {childIds : List JobId}
    {childId : JobId}
    {child : JobSnapshot} (hmem : childId ∈ childIds) (hget : get childId = some child)
    (hlive : child.state.isTerminal = false) :
    (collectParentCounts get childIds).done < (collectParentCounts get childIds).total := by
  let ended (id : JobId) : Bool := (get id).all (fun child => child.state.isTerminal)
  have hfold : ∀ (ids : List JobId) (counts : ParentCounts),
      let after := ids.foldl (fun counts id => readChild counts (get id)) counts
      after.total = counts.total ∧ after.done = counts.done + ids.countP ended := by
    intro ids
    induction ids with
    | nil => exact fun counts => ⟨rfl, rfl⟩
    | cons id ids ih =>
      intro counts
      obtain ⟨htotal, hdone⟩ := ih (counts.readChild (get id))
      obtain ⟨hsame, hstep⟩ := counts.readChild_total_done (get id)
      refine ⟨htotal.trans hsame, hdone.trans ?_⟩
      rw [hstep, countP_cons, Nat.add_right_comm, Nat.add_assoc]
  obtain ⟨htotal, hdone⟩ := hfold childIds (start childIds.length)
  have hcount : childIds.countP ended < childIds.length :=
    countP_lt_length_iff.mpr ⟨childId, hmem, by simp [ended, hget, hlive]⟩
  rw [collectParentCounts, htotal, hdone]
  simpa [start, done] using hcount

end ParentCounts

namespace JobRegistry

lemma get_update (r : JobRegistry) (jobId : JobId) (mark : JobMark) (now : Instant) (other : JobId) :
    (r.update jobId mark.transition now).2.get other =
      if other = jobId then (r.get jobId).map (fun record =>
        if record.state.isTerminal then record else withState record mark.target now)
      else r.get other := by
  rcases r.update_cases jobId mark now with ⟨hended, hupdate⟩ | ⟨record, hget, hlive, hupdate⟩
  · rw [hupdate]
    split
    · subst other
      cases hget : r.get jobId with
      | none => rfl
      | some record => simp [hended record hget]
    · rfl
  · rw [hupdate]
    refine (r.jobs.get_moveTo now _ _ _ other).trans ?_
    simp [get, hget, hlive]

variable {jobId : JobId}

lemma get_swept_of_live {r : JobRegistry} {job : JobSnapshot} (hget : r.get jobId = some job)
    (hlive : job.state.isTerminal = false) (now : Instant) : (r.swept now).get jobId = some job := by
  unfold swept
  split
  · exact get_cleanupExpired_of_live now hget hlive
  · exact hget

end JobRegistry

namespace FirmwareBatch

variable {service : Service} {parentId childId : JobId} {r r' : JobRegistry} {child : JobSnapshot}
  {t : Tracker}

/-- A live child that a live batch parent lists. -/
structure Linked (parentId : JobId) (r : JobRegistry) (childId : JobId) : Prop where
  parent : ∃ parent, r.get parentId = some parent ∧ parent.state.isTerminal = false ∧
    parent.parentJobId = none ∧
    childId ∈ parent.childJobIds
  child : ∃ child, r.get childId = some child ∧ child.state.isTerminal = false ∧
    child.parentJobId = some parentId

namespace Linked

section

variable (h : Linked parentId r childId)
include h

lemma ne : childId ≠ parentId := by
  rintro rfl
  obtain ⟨⟨parent, hparent, -, htop, -⟩, child, hchild, -, hlink⟩ := h
  cases hparent.symm.trans hchild
  cases htop.symm.trans hlink

lemma of_get (hget : r'.get = r.get) : Linked parentId r' childId := by
  obtain ⟨hparent, hchild⟩ := h
  rw [← hget] at hparent hchild
  exact ⟨hparent, hchild⟩

lemma swept (now : Instant) : Linked parentId (r.swept now) childId := by
  obtain ⟨⟨parent, hparent, hopen, hrest⟩, child, hchild, hlive, hlink⟩ := h
  exact ⟨⟨parent, JobRegistry.get_swept_of_live hparent hopen now, hopen, hrest⟩,
    child, JobRegistry.get_swept_of_live hchild hlive now, hlive, hlink⟩

lemma update (hne : childId ≠ jobId) {mark : JobMark}
    (hmark : parentId = jobId → mark.target.isTerminal = false) (now : Instant) :
    Linked parentId (r.update jobId mark.transition now).2 childId := by
  obtain ⟨⟨parent, hparent, hopen, hrest⟩, child, hchild, hkept⟩ := h
  refine ⟨?_, child, by rw [r.get_update, if_neg hne, hchild], hkept⟩
  rw [r.get_update]
  split
  · rename_i heq
    subst heq
    rw [hparent, map_some, if_neg (by simp [hopen])]
    exact ⟨_, rfl, hmark rfl, hrest⟩
  · exact ⟨parent, hparent, hopen, hrest⟩

end

/-- As long as a child is live, a refresh moves the parent at most, and only to running. -/
lemma refreshParentState_cases (h : Linked parentId t.registry childId) (codec : ResultCodec)
    (now : Instant) :
    t.refreshParentState codec parentId now = t ∨ ∃ mark : JobMark, mark.target.isTerminal = false ∧
      t.refreshParentState codec parentId now = t.update parentId mark now := by
  obtain ⟨⟨parent, hparent, -, -, hmem⟩, child, hchild, hlive, -⟩ := h
  have hlt := ParentCounts.done_collectParentCounts_lt hmem hchild hlive
  unfold Tracker.refreshParentState
  simp only [hparent]
  split
  · exact .inl rfl
  · split
    · exact .inl rfl
    · rw [if_neg (Nat.ne_of_gt (Nat.zero_lt_of_lt hlt)), if_neg hlt.ne]
      exact .inr ⟨.running _, rfl, rfl⟩

lemma refresh (h : Linked parentId t.registry childId) (codec : ResultCodec) (now : Instant) :
    Linked parentId (t.refreshParentState codec parentId now).registry childId := by
  rcases h.refreshParentState_cases codec now with hsame | ⟨mark, hmark, hupdate⟩
  · rw [hsame]
    exact h
  · rw [hupdate]
    exact h.update h.ne (fun _ => hmark) now

end Linked

section Creation

variable {rackId nodeId : String} {inputs : CreateInputs}

/-- A created child is published in a registry that may have been swept. -/
structure Created (parentId : JobId) (rackId nodeId : String) (inputs : CreateInputs) (r : JobRegistry)
    (child : JobSnapshot) (r' : JobRegistry) : Prop where
  link : child.parentJobId = some parentId
  live : child.state.isTerminal = false
  accepts : r.jobs.canAcceptChild parentId = true
  untaken : (r.swept inputs.sweepAt).jobs.idTaken child.jobId = false
  after : r' = (r.swept inputs.sweepAt).withJobs ((r.swept inputs.sweepAt).jobs.publishRecord child
    (JobRegistry.admissionScopes (JobSpec.new rackId nodeId "Queued") true []) inputs.attachedAt)

lemma canAcceptChild_swept (h : r.jobs.canAcceptChild parentId = true) (now : Instant) :
    (r.swept now).jobs.canAcceptChild parentId = true := by
  unfold JobRegistry.swept
  split
  · exact r.jobs.canAcceptChild_cleanupExpired _ _ h
  · exact h

lemma created_of_create
    (h : create service r (.childJob parentId rackId nodeId) inputs = some (.ok child, r')) :
    Created parentId rackId nodeId inputs r child r' := by
  rcases JobRegistry.createJobWithScopes_cases _ _ h with ⟨_, _, hout, _⟩ | ⟨_, ⟨_, hout⟩, _⟩ |
    ⟨hgrant, _, record, hout, hpub⟩
  · cases hout
  · cases hout
  · cases hout
    obtain ⟨-, haccept, -, -⟩ := JobRegistry.admissionFailure_eq_none _ _ hgrant
    have hswept := fun id hid => canAcceptChild_swept (haccept id hid) inputs.sweepAt
    obtain ⟨jobId, -, hvacant, rfl, hafter⟩ := JobRegistry.publish_eq_some _ hswept hpub
    exact ⟨rfl, rfl, haccept parentId rfl, hvacant, hafter⟩

lemma eq_or_swept_of_refused {failure : JobFailure}
    (h : create service r (.childJob parentId rackId nodeId) inputs = some (.error failure, r')) :
    r' = r ∨ r' = r.swept inputs.sweepAt := by
  rcases JobRegistry.createJobWithScopes_cases _ _ h with ⟨_, _, _, hsame⟩ | ⟨_, _, hswept⟩ |
    ⟨_, _, _, hout, _⟩
  · exact .inl hsame
  · exact .inr hswept
  · cases hout

variable (hcreated : Created parentId rackId nodeId inputs r child r')
include hcreated

lemma Created.vacant : (r.swept inputs.sweepAt).jobs.get child.jobId = none :=
  ((idTaken_eq_false_iff _ _).mp hcreated.untaken).2

lemma Created.get (jobId : JobId) : r'.get jobId =
      if jobId = child.jobId then some child
      else if some parentId = some jobId then
        ((r.swept inputs.sweepAt).get jobId).map (fun parent =>
          withChild parent child.jobId inputs.attachedAt)
      else (r.swept inputs.sweepAt).get jobId := by
  have haccepts :
      ∀ id, child.parentJobId = some id → (r.swept inputs.sweepAt).jobs.canAcceptChild id = true := by
    intro id hid
    rw [hcreated.link] at hid
    cases hid
    exact canAcceptChild_swept hcreated.accepts inputs.sweepAt
  rw [hcreated.after, ← hcreated.link]
  exact (r.swept inputs.sweepAt).jobs.get_publishRecord _ _ hcreated.vacant haccepts jobId

lemma Created.parent : ∃ parent, r.get parentId = some parent ∧ parent.state.isTerminal = false ∧
    parent.parentJobId = none ∧
      r'.get parentId = some (withChild parent child.jobId inputs.attachedAt) := by
  obtain ⟨parent, hget, hlive, htop⟩ := (r.jobs.canAcceptChild_iff parentId).mp hcreated.accepts
  have hswept := JobRegistry.get_swept_of_live hget hlive inputs.sweepAt
  refine ⟨parent, hget, hlive, htop, ?_⟩
  rw [hcreated.get, if_neg (ne_of_get hswept hcreated.vacant), if_pos rfl, hswept, map_some]

lemma Created.linked : Linked parentId r' child.jobId := by
  obtain ⟨parent, -, hlive, htop, hafter⟩ := hcreated.parent
  exact ⟨⟨_, hafter, hlive, htop, mem_append_right _ mem_cons_self⟩,
    child, by rw [hcreated.get, if_pos rfl], hcreated.live, hcreated.link⟩

lemma Created.ne (h : Linked parentId r childId) : childId ≠ child.jobId := by
  obtain ⟨-, record, hget, hlive, -⟩ := h
  exact ne_of_get (JobRegistry.get_swept_of_live hget hlive inputs.sweepAt) hcreated.vacant

lemma Linked.created (h : Linked parentId r childId) : Linked parentId r' childId := by
  have hne := h.ne
  have hother := hcreated.ne h
  obtain ⟨⟨parent, hparent, -, -, hmem⟩, record, hget, hlive, hlink⟩ := h
  obtain ⟨found, hfound, hopen, htop, hafter⟩ := hcreated.parent
  cases hparent.symm.trans hfound
  refine ⟨⟨_, hafter, hopen, htop, mem_append_left _ hmem⟩, record, ?_, hlive, hlink⟩
  rw [hcreated.get, if_neg hother, if_neg (fun he => hne (some.inj he).symm)]
  exact JobRegistry.get_swept_of_live hget hlive inputs.sweepAt

end Creation

lemma get_admitFirmwareNodeForJob (service : Service) (r : JobRegistry) (jobId : JobId)
    (node : BatchNode) (nodeType : NodeType) :
    (admitFirmwareNodeForJob service r jobId node nodeType).2.get = r.get := by
  unfold admitFirmwareNodeForJob admitKnownSwitchJobScopes
  split
  · rfl
  · split
    · rfl
    · rename_i scopes _
      rcases r.reserveJobScopes_cases (rmsJobDomain service.text) jobId scopes with ⟨failure, heq⟩ |
        ⟨_, _, _, _, heq⟩
      · rw [heq]
      · rw [heq]
        rfl

variable {batch batch' : Batch} {node : BatchNode}

lemma linked_of_sealed (hchild : Linked parentId t.registry childId) {other : JobId}
    (h : Linked parentId t.registry other)
    (hne : other ≠ childId) (codec : ResultCodec) (mark : JobMark) (now : Instant) :
    Linked parentId
      ((t.update childId mark now).refreshParentForChild codec childId now).registry other := by
  have hsealed : Linked parentId (t.update childId mark now).registry other :=
    h.update hne (fun he => absurd he.symm hchild.ne) now
  have hparent :
      ((t.update childId mark now).registry.get childId).bind JobSnapshot.parentJobId = some parentId := by
    obtain ⟨-, child, hget, hlive, hlink⟩ := hchild
    rw [Tracker.update, JobRegistry.get_update, if_pos rfl, hget, map_some, if_neg (by simp [hlive])]
    exact hlink
  rw [Tracker.refreshParentForChild, hparent]
  exact hsealed.refresh codec now

section

variable (h : ∀ entry ∈ batch.jobs, Linked parentId batch.tracker.registry entry.2)
include h

lemma linked_admitNode (hnode : admitNode service parentId batch node = some batch') :
    ∀ entry ∈ batch'.jobs, Linked parentId batch'.tracker.registry entry.2 := by
  unfold admitNode at hnode
  split at hnode
  · cases hnode
    exact h
  · rename_i nodeType _
    split at hnode
    · cases hnode
    · rename_i failure r' hcreate
      cases hnode
      rcases eq_or_swept_of_refused hcreate with rfl | rfl
      · exact h
      · exact fun entry hmem => (h entry hmem).swept _
    · rename_i child r' hcreate
      have hcreated := created_of_create hcreate
      dsimp only at hnode
      have hrefreshed : ∀ jobId, Linked parentId r' jobId → Linked parentId
          (Tracker.refreshParentState service.codec
            ⟨r', batch.tracker.parentJobHandles⟩ parentId node.now).registry jobId :=
        fun jobId hlinked => hlinked.refresh service.codec node.now
      generalize Tracker.refreshParentState _ _ _ _ = tracker at hrefreshed hnode
      have hsame := get_admitFirmwareNodeForJob service tracker.registry child.jobId node nodeType
      generalize admitFirmwareNodeForJob service tracker.registry child.jobId node nodeType =
        admission at hnode hsame
      have hchild := (hrefreshed child.jobId hcreated.linked).of_get hsame
      have hothers := fun entry hmem => (hrefreshed _ ((h entry hmem).created hcreated)).of_get hsame
      split at hnode
      · cases hnode
        intro entry hmem
        rcases mem_append.mp hmem with hold | hnew
        · exact hothers entry hold
        · cases mem_singleton.mp hnew
          exact hchild
      · cases hnode
        intro entry hmem
        exact linked_of_sealed (t := ⟨_, tracker.parentJobHandles⟩) hchild (hothers entry hmem)
          (hcreated.ne (h entry hmem)) _ _ _

end

/-- Every pass reports its node once: with the message of a refusal, or with a new job. -/
lemma admitNode_reports (hnode : admitNode service parentId batch node = some batch') :
    (∃ message, batch'.jobs = batch.jobs ∧
      batch'.nodeResults = batch.nodeResults ++ [(node.nodeId, message)]) ∨
    ∃ child r',
      create service batch.tracker.registry (.childJob parentId node.rackId node.nodeId) node.inputs =
        some (.ok child, r') ∧
      batch'.jobs = batch.jobs ++ [(node.nodeId, child.jobId)] ∧
        batch'.nodeResults = batch.nodeResults := by
  unfold admitNode at hnode
  split at hnode
  · cases hnode
    exact .inl ⟨_, rfl, rfl⟩
  · split at hnode
    · cases hnode
    · cases hnode
      exact .inl ⟨_, rfl, rfl⟩
    · rename_i child r' hcreate
      dsimp only at hnode
      split at hnode <;> cases hnode
      · exact .inr ⟨child, r', hcreate, rfl, rfl⟩
      · exact .inl ⟨_, rfl, rfl⟩

/-- What is reported for the nodes that the loop has passed. -/
structure Reported (parentId : JobId) (nodeIds : List String) (batch : Batch) : Prop where
  nodes : (batch.jobs.map Prod.fst ++ batch.nodeResults.map Prod.fst).Perm nodeIds
  distinct : (batch.jobs.map Prod.snd).Nodup
  linked : ∀ entry ∈ batch.jobs, Linked parentId batch.tracker.registry entry.2

lemma Reported.admitNode {nodeIds : List String} (h : Reported parentId nodeIds batch)
    (hnode : admitNode service parentId batch node = some batch') :
    Reported parentId (nodeIds ++ [node.nodeId]) batch' := by
  have hlinked := linked_admitNode h.linked hnode
  obtain ⟨message, hjobs, hresults⟩ | ⟨child, r', hcreate, hjobs, hresults⟩ := admitNode_reports hnode
  · refine ⟨?_, hjobs ▸ h.distinct, hlinked⟩
    rw [hjobs, hresults, map_append, ← append_assoc]
    exact h.nodes.append_right _
  · have hcreated := created_of_create hcreate
    refine ⟨?_, ?_, hlinked⟩
    · rw [hjobs, hresults, map_append, append_assoc]
      exact (perm_append_comm.append_left _).trans (by simpa using h.nodes.append_right [node.nodeId])
    · rw [hjobs, map_append, nodup_append']
      refine ⟨h.distinct, nodup_singleton _, fun jobId hold hnew => ?_⟩
      obtain ⟨entry, hmem, rfl⟩ := mem_map.mp hold
      exact hcreated.ne (h.linked entry hmem) (mem_singleton.mp hnew)

variable {nodes : List BatchNode}

lemma Reported.admitNodes {nodeIds : List String} (h : Reported parentId nodeIds batch)
    (hnodes : admitNodes service parentId batch nodes = some batch') :
    Reported parentId (nodeIds ++ nodes.map BatchNode.nodeId) batch' := by
  induction nodes generalizing batch nodeIds with
  | nil =>
    cases hnodes
    rw [map_nil, append_nil]
    exact h
  | cons node nodes ih =>
    obtain ⟨next, hnode, hrest⟩ := bind_eq_some_iff.mp hnodes
    rw [map_cons, append_cons]
    exact ih (h.admitNode hnode) hrest

/-- What a scope admission reads of a registry besides its records. -/
def SameIndexes (r r' : JobRegistry) : Prop :=
  r'.jobs.aliases = r.jobs.aliases ∧ r'.jobs.activeByNode = r.jobs.activeByNode ∧
    r'.shuttingDown = r.shuttingDown

lemma sameIndexes_refresh (h : Linked parentId t.registry childId) (codec : ResultCodec) (now : Instant) :
    SameIndexes t.registry (t.refreshParentState codec parentId now).registry := by
  rcases h.refreshParentState_cases codec now with hsame | ⟨mark, hmark, hupdate⟩
  · rw [hsame]
    exact ⟨rfl, rfl, rfl⟩
  · rw [hupdate, Tracker.update]
    rcases t.registry.update_cases parentId mark now with ⟨-, hsame⟩ | ⟨record, -, -, hmoved⟩
    · rw [hsame]
      exact ⟨rfl, rfl, rfl⟩
    · rw [hmoved]
      refine ⟨?_, ?_, rfl⟩
      · rw [JobRegistry.withJobs, aliases_moveTo, if_neg (by simp [hmark])]
      · rw [JobRegistry.withJobs, activeByNode_moveTo, if_neg (by simp [hmark])]

/-- A node that passes its checks and finds its device idle. -/
structure Startable (service : Service) (r : JobRegistry) (node : BatchNode) (nodeType : NodeType) :
    Prop where
  checked : checkNode service node = .ok nodeType
  accepting : r.shuttingDown = false
  idle : r.jobs.activeJobForNode node.rackId node.nodeId = none
  aliasFree : r.jobs.conflictingScope
    (JobRegistry.admissionScopes (JobSpec.new node.rackId node.nodeId "Queued") true []) = none

/-- The scopes of a switch are known, nobody holds them and no fabric operation covers them. -/
def ScopesFree (service : Service) (r : JobRegistry) (node : BatchNode) (nodeType : NodeType) : Prop :=
  nodeType.kind = .switch → ∃ scopes, node.switchScopes = .ok scopes ∧
    r.jobs.conflictingScope (scopes.map JobScope.normalized) = none ∧
      service.fabricOperation scopes = .ok ()

/-- A startable node for which there is room and an identifier, and whose scopes are free. -/
structure Admissible (service : Service) (r : JobRegistry) (node : BatchNode) (nodeType : NodeType) : Prop
    extends Startable service r node nodeType where
  capacity : (r.swept node.inputs.sweepAt).jobs.trackedJobCount < r.maxJobs
  identifier : ∃ jobId ∈ node.inputs.jobIds, (r.swept node.inputs.sweepAt).jobs.idTaken jobId = false
  scopesFree : ScopesFree service (r.swept node.inputs.sweepAt) node nodeType

/-- The first startable node of a list finds its scopes free, all judged against one registry. -/
def Opens (service : Service) (r : JobRegistry) : List BatchNode → Prop
  | [] => True
  | node :: nodes => (∃ nodeType, Startable service r node nodeType ∧ ScopesFree service r node nodeType) ∨
      (∀ nodeType, ¬Startable service r node nodeType) ∧ Opens service r nodes

section Startable

variable {nodeType : NodeType}

lemma Startable.admissionFailure (h : Startable service r node nodeType)
    (haccept : r.jobs.canAcceptChild parentId = true) :
    r.admissionFailure (rmsJobDomain service.text) (JobSpec.new node.rackId node.nodeId "Queued")
      (some parentId) true
      (JobRegistry.admissionScopes (JobSpec.new node.rackId node.nodeId "Queued") true []) = none := by
  have hparent : (some parentId).filter (fun id => !r.jobs.canAcceptChild id) = none := by simp [haccept]
  have hidle : r.jobs.activeJobForNode (JobSpec.new node.rackId node.nodeId "Queued").rackId
      (JobSpec.new node.rackId node.nodeId "Queued").nodeId = none := h.idle
  unfold JobRegistry.admissionFailure
  simp only [h.accepting, hparent, hidle, h.aliasFree]
  rfl

lemma startable_of_admissionFailure (hchecked : checkNode service node = .ok nodeType)
    (h : r.admissionFailure (rmsJobDomain service.text)
      (JobSpec.new node.rackId node.nodeId "Queued") (some parentId)
      true (JobRegistry.admissionScopes (JobSpec.new node.rackId node.nodeId "Queued") true []) = none) :
    Startable service r node nodeType := by
  obtain ⟨hopen, -, hidle, hfree⟩ := JobRegistry.admissionFailure_eq_none _ _ h
  exact ⟨hchecked, hopen, hidle rfl, hfree⟩

lemma Startable.unique (h : Startable service r node nodeType) {other : NodeType}
    (hother : Startable service r node other) : other = nodeType :=
  Except.ok.inj (hother.checked.symm.trans h.checked)

lemma Startable.opens_cons (h : Startable service r node nodeType) :
    Opens service r (node :: nodes) ↔ ScopesFree service r node nodeType := by
  constructor
  · rintro (⟨other, hother, hfree⟩ | ⟨hnone, -⟩)
    · rw [← h.unique hother]
      exact hfree
    · exact absurd h (hnone nodeType)
  · exact fun hfree => .inl ⟨nodeType, h, hfree⟩

lemma opens_cons_of_not_startable (h : ∀ nodeType, ¬Startable service r node nodeType)
    {nodes : List BatchNode} :
    Opens service r (node :: nodes) ↔ Opens service r nodes := by
  constructor
  · rintro (⟨nodeType, hstart, -⟩ | ⟨-, hrest⟩)
    · exact absurd hstart (h nodeType)
    · exact hrest
  · exact fun hrest => .inr ⟨h, hrest⟩

end Startable

lemma isSome_insertWithIdGenerator {s : JobStore} {record : JobSnapshot} {nextJobIds : List JobId}
    (hmem : jobId ∈ record.jobId :: nextJobIds) (hvacant : s.idTaken jobId = false) :
    (s.insertWithIdGenerator record nextJobIds).isSome = true := by
  induction nextJobIds generalizing record with
  | nil =>
    cases mem_singleton.mp hmem
    rw [insertWithIdGenerator, if_neg (by simp [hvacant])]
    rfl
  | cons nextJobId nextJobIds ih =>
    rw [insertWithIdGenerator]
    split
    · rename_i htaken
      apply ih
      rcases mem_cons.mp hmem with rfl | hrest
      · rw [hvacant] at htaken
        cases htaken
      · exact hrest
    · rfl

lemma Admissible.create {nodeType : NodeType} (h : Admissible service r node nodeType)
    (haccept : r.jobs.canAcceptChild parentId = true) :
    ∃ child r', create service r (.childJob parentId node.rackId node.nodeId) node.inputs =
      some (.ok child, r') := by
  let spec := JobSpec.new node.rackId node.nodeId "Queued"
  let swept := r.swept node.inputs.sweepAt
  have hgrant := h.toStartable.admissionFailure haccept
  have hroom : ¬swept.maxJobs ≤ swept.jobs.trackedJobCount := by
    have hmax : swept.maxJobs = r.maxJobs := by
      simp only [swept, JobRegistry.swept]
      split <;> rfl
    have hcapacity : swept.jobs.trackedJobCount < r.maxJobs := h.capacity
    omega
  obtain ⟨jobId, hmem, hvacant⟩ := h.identifier
  obtain ⟨firstId, nextJobIds, hids⟩ := exists_cons_of_ne_nil (ne_nil_of_mem hmem)
  rw [hids] at hmem
  let first := JobSnapshot.new spec (some parentId) firstId node.inputs.createdAt
  have hsome : (swept.jobs.insertWithIdGenerator first nextJobIds).isSome = true :=
    isSome_insertWithIdGenerator hmem hvacant
  obtain ⟨⟨child, jobs⟩, hinsert⟩ := isSome_iff_exists.mp hsome
  have haccepts : ∀ id, some parentId = some id → swept.jobs.canAcceptChild id = true := by
    rintro id ⟨⟩
    exact canAcceptChild_swept haccept node.inputs.sweepAt
  obtain ⟨r', hpublish⟩ :
    ∃ r', swept.publish spec (some parentId) (JobRegistry.admissionScopes spec true []) node.inputs =
      some (child, r') := ⟨_, swept.publish_eq_of_insert hids haccepts hinsert⟩
  refine ⟨child, r', ?_⟩
  unfold FirmwareBatch.create JobRegistry.createJobWithScopes
  dsimp only [JobRequest.spec, JobRequest.parentJobId, JobRequest.requireNodeIdle, JobRequest.scopes]
  simp only [spec, swept] at hroom hpublish
  simp only [hgrant, JobRegistry.capacityCheck_eq, if_neg hroom, hpublish]

variable {inputs : CreateInputs}

lemma Created.conflictingScopeExcept_eq_none {rackId nodeId : String} {scopes : List JobScope}
    (hcreated : Created parentId rackId nodeId inputs r child r')
    (hfree : (r.swept inputs.sweepAt).jobs.conflictingScope scopes = none) :
    r'.jobs.conflictingScopeExcept scopes (some child.jobId) = none := by
  rw [conflictingScope_eq_none_iff] at hfree
  rw [conflictingScopeExcept_eq_none_iff]
  intro scope hmem
  obtain ⟨hunowned, hunindexed⟩ := hfree scope hmem
  rw [busyOwner_eq_none_iff, hcreated.after]
  constructor
  · intro other hother
    have howner := congrArg (fun table => table.ownerOf.lookup scope) (aliases_publishRecord
      (r.swept inputs.sweepAt).jobs child
        (JobRegistry.admissionScopes (JobSpec.new rackId nodeId "Queued") true [])
      inputs.attachedAt)
    rw [OwnerTable.ownerOf_reserve] at howner
    split at howner
    · exact hother.symm.trans howner
    · cases (hother.symm.trans howner).trans hunowned
  · intro rackId' nodeId' other hscope hother
    rw [JobRegistry.withJobs, activeByNode_publishRecord, activeByNode_insertVacant] at hother
    split at hother
    · rcases (BucketIndex.contains_add _ _ _ _ _ _ _).mp hother with hold | ⟨-, -, rfl⟩
      · exact absurd hold (hunindexed rackId' nodeId' other hscope)
      · rfl
    · exact absurd hother (hunindexed rackId' nodeId' other hscope)

lemma Created.conflictingScope_eq_none {rackId nodeId : String} {scopes : List JobScope}
    (hcreated : Created parentId rackId nodeId inputs r child r')
    (hcons : (r.swept inputs.sweepAt).jobs.Consistent)
    (halias : (r.swept inputs.sweepAt).jobs.conflictingScope
      (JobRegistry.admissionScopes (JobSpec.new rackId nodeId "Queued") true []) = none)
    (hfree : r'.jobs.conflictingScopeExcept scopes (some child.jobId) = none) :
    (r.swept inputs.sweepAt).jobs.conflictingScope scopes = none := by
  obtain ⟨hunowned, hvacant⟩ := (idTaken_eq_false_iff _ _).mp hcreated.untaken
  rw [conflictingScope_eq_none_iff] at halias ⊢
  rw [conflictingScopeExcept_eq_none_iff] at hfree
  intro scope hmem
  obtain ⟨howned, hindexed⟩ := (busyOwner_eq_none_iff _ _ _).mp (hfree scope hmem)
  rw [hcreated.after] at howned hindexed
  constructor
  · by_cases hown : scope ∈ JobRegistry.admissionScopes (JobSpec.new rackId nodeId "Queued") true []
    · exact (halias scope hown).1
    · refine eq_none_iff_forall_ne_some.mpr (fun other hother => hunowned ?_)
      have hsame := congrArg (fun table => table.ownerOf.lookup scope) (aliases_publishRecord
        (r.swept inputs.sweepAt).jobs child
          (JobRegistry.admissionScopes (JobSpec.new rackId nodeId "Queued") true [])
        inputs.attachedAt)
      rw [OwnerTable.ownerOf_reserve, if_neg hown] at hsame
      cases some.inj (howned other (hsame.trans hother))
      exact hcons.coherent.isOwner_of_lookup hother
  · intro rackId' nodeId' other hscope hother
    have hkept := hindexed rackId' nodeId' other hscope (by
      rw [JobRegistry.withJobs, activeByNode_publishRecord, activeByNode_insertVacant]
      split
      · exact (BucketIndex.contains_add _ _ _ _ _ _ _).mpr (.inl hother)
      · exact hother)
    obtain ⟨job, hget, -⟩ := (hcons.indexed rackId' nodeId' other).mp hother
    rw [some.inj hkept, hvacant] at hget
    cases hget

section Scopes

variable {nodeType : NodeType} {after : JobRegistry}
  (hcreated : Created parentId node.rackId node.nodeId node.inputs r child r')
    (hindexes : SameIndexes r' after)
include hcreated hindexes

lemma Created.admitted_of_scopesFree (hopen : r.shuttingDown = false)
    (hfree : ScopesFree service (r.swept node.inputs.sweepAt) node nodeType)
    (hchild : Linked parentId after child.jobId) :
    ∃ final, admitFirmwareNodeForJob service after child.jobId node nodeType = (.ok (), final) := by
  unfold admitFirmwareNodeForJob
  split
  · exact ⟨_, rfl⟩
  · rename_i hswitch
    obtain ⟨scopes, hscopes, hunheld, hfabric⟩ := hfree (not_not.mp hswitch)
    obtain ⟨haliases, hnodes, hdown⟩ := hindexes
    obtain ⟨-, record, hget, hlive, -⟩ := hchild
    have hunblocked :
        after.jobs.conflictingScopeExcept (scopes.map JobScope.normalized) (some child.jobId) = none := by
      have hbefore := hcreated.conflictingScopeExcept_eq_none hunheld
      have hscope : after.jobs.activeByScope = r'.jobs.activeByScope := congrArg OwnerTable.ownerOf haliases
      simp only [conflictingScopeExcept, busyOwner, hscope, hnodes] at hbefore ⊢
      exact hbefore
    have haccepting : after.shuttingDown = false := by
      rw [hdown, hcreated.after]
      refine Eq.trans ?_ hopen
      simp only [JobRegistry.withJobs, JobRegistry.swept]
      split <;> rfl
    have hrecord : after.jobs.get child.jobId = some record := hget
    simp only [hscopes, admitKnownSwitchJobScopes, JobRegistry.reserveJobScopes, haccepting,
      hrecord, all_some,
      hlive, hunblocked, hfabric]
    exact ⟨_, rfl⟩

lemma Created.scopesFree_of_admitted (hcons : (r.swept node.inputs.sweepAt).jobs.Consistent)
    (halias : (r.swept node.inputs.sweepAt).jobs.conflictingScope
      (JobRegistry.admissionScopes (JobSpec.new node.rackId node.nodeId "Queued") true []) = none)
    {final : JobRegistry}
    (hadmitted : admitFirmwareNodeForJob service after child.jobId node nodeType = (.ok (), final)) :
    ScopesFree service (r.swept node.inputs.sweepAt) node nodeType := by
  intro hswitch
  unfold admitFirmwareNodeForJob at hadmitted
  rw [if_neg (not_not.mpr hswitch)] at hadmitted
  cases hscopes : node.switchScopes with
  | error message =>
    simp only [hscopes] at hadmitted
    cases hadmitted
  | ok scopes =>
    simp only [hscopes, admitKnownSwitchJobScopes] at hadmitted
    rcases after.reserveJobScopes_cases (rmsJobDomain service.text) child.jobId scopes with
      ⟨failure, hrefused⟩ | ⟨_, _, _, hunblocked, hreserved⟩
    · simp only [hrefused] at hadmitted
      cases hadmitted
    · simp only [hreserved, Prod.mk.injEq] at hadmitted
      refine ⟨scopes, rfl, hcreated.conflictingScope_eq_none hcons halias ?_, ?_⟩
      · obtain ⟨haliases, hnodes, -⟩ := hindexes
        have hscope : after.jobs.activeByScope = r'.jobs.activeByScope :=
          congrArg OwnerTable.ownerOf haliases
        simp only [conflictingScopeExcept, busyOwner, hscope, hnodes] at hunblocked ⊢
        exact hunblocked
      · cases hfabric : service.fabricOperation scopes with
        | ok => rfl
        | error failure =>
          rw [hfabric] at hadmitted
          cases hadmitted.1

end Scopes

/-- A linked child that is the only child of its parent. -/
structure Lone (parentId : JobId) (r : JobRegistry) (childId : JobId) : Prop where
  linked : Linked parentId r childId
  alone : ∀ parent, r.get parentId = some parent → parent.childJobIds = [childId] ∧
    parent.workflowType.isSome = true

namespace Lone

lemma of_get (h : Lone parentId r childId) (hget : r'.get = r.get) : Lone parentId r' childId :=
  ⟨h.linked.of_get hget, fun parent hparent => h.alone parent (hget ▸ hparent)⟩

lemma refresh (h : Lone parentId t.registry childId) (codec : ResultCodec) (now : Instant) :
    Lone parentId (t.refreshParentState codec parentId now).registry childId ∧
      (t.refreshParentState codec parentId now).parentJobHandles = t.parentJobHandles := by
  have hlinked := h.linked.refresh codec now
  rcases h.linked.refreshParentState_cases codec now with hsame | ⟨mark, -, hupdate⟩
  · rw [hsame]
    exact ⟨h, rfl⟩
  · rw [hupdate] at hlinked ⊢
    refine ⟨⟨hlinked, fun parent hparent => ?_⟩, rfl⟩
    rw [Tracker.update, JobRegistry.get_update, if_pos rfl] at hparent
    obtain ⟨record, hrecord, rfl⟩ := map_eq_some_iff.mp hparent
    split <;> exact h.alone record hrecord

/-- When the only child of a parent ends, the refresh for it seals the parent. -/
lemma seals (h : Lone parentId t.registry childId) (hhandle : parentId ∈ t.parentJobHandles)
    (codec : ResultCodec)
    (failure : JobFailure) (now : Instant) :
    ((t.update childId (.failed failure) now).refreshParentForChild codec childId
      now).registry.jobs.canAcceptChild
      parentId = false := by
  obtain ⟨⟨parent, hparent, hopen, -, -⟩, child, hchild, hlive, hlink⟩ := h.linked
  obtain ⟨hchildren, htyped⟩ := h.alone parent hparent
  obtain ⟨jobType, htype⟩ := isSome_iff_exists.mp htyped
  let u := t.update childId (.failed failure) now
  have hended : u.registry.get childId = some (withState child (failedState failure) now) := by
    simp only [u, Tracker.update, JobRegistry.get_update, if_true, hchild, map_some, hlive]
    rfl
  have hkept : u.registry.get parentId = some parent := by
    simp only [u, Tracker.update, JobRegistry.get_update, if_neg h.linked.ne.symm, hparent]
  have hheld : parentId ∈ u.parentJobHandles := hhandle
  have hcounts : (collectParentCounts u.registry.get [childId]).total = 1 ∧
      (collectParentCounts u.registry.get [childId]).done = 1 := by
    have hread := (ParentCounts.start 1).readChild_total_done (u.registry.get childId)
    rw [hended] at hread
    simp only [collectParentCounts, foldl_cons, foldl_nil, length_singleton, hended]
    exact hread
  have hmark :
      (u.terminalMark codec [childId]
        (collectParentCounts u.registry.get [childId]) jobType).target.isTerminal =
      true := by
    unfold Tracker.terminalMark
    split <;> rfl
  have hrefresh : u.refreshParentState codec parentId now = u.sealParent parentId
      (u.terminalMark codec [childId] (collectParentCounts u.registry.get [childId]) jobType) now := by
    simp [Tracker.refreshParentState, hkept, JobSnapshot.isParent, hchildren, hopen, htype, hcounts]
  have hparentOf : (u.registry.get childId).bind JobSnapshot.parentJobId = some parentId := by
    rw [hended]
    exact hlink
  rw [← Bool.not_eq_true, canAcceptChild_iff, Tracker.refreshParentForChild, hparentOf]
  dsimp only
  rw [hrefresh, Tracker.sealParent, if_pos hheld]
  rintro ⟨after, hafter, hstill, -⟩
  have hsealed := (u.registry.get_update parentId _ now parentId).symm.trans hafter
  rw [if_pos rfl, hkept, map_some, if_neg (by simp [hopen])] at hsealed
  cases hsealed
  exact absurd (hmark.symm.trans hstill) (by simp)

end Lone

/-- The batch parent before the first child, with its handle, in a registry with room. -/
structure Opening (parentId : JobId) (t : Tracker) : Prop where
  parent : ∃ parent, t.registry.get parentId = some parent ∧ parent.state.isTerminal = false ∧
    parent.parentJobId = none ∧ parent.childJobIds = [] ∧ parent.workflowType.isSome = true
  handle : parentId ∈ t.parentJobHandles
  consistent : t.registry.jobs.Consistent
  room : t.registry.atCapacity = false

lemma opening_of_createParentJob {tracker : Tracker} {rackId : String} {start : Batch}
    (hcons : tracker.registry.jobs.Consistent)
    (hparent : createParentJob service tracker rackId inputs = some (parentId, start))
    (hroom : start.tracker.registry.atCapacity = false) :
    Opening parentId start.tracker ∧ start.jobs = [] := by
  unfold createParentJob at hparent
  split at hparent
  · rename_i parent r' hcreate
    cases hparent
    refine ⟨?_, rfl⟩
    rcases JobRegistry.createJobWithScopes_cases _ _ hcreate with ⟨_, _, hout, _⟩ |
      ⟨_, ⟨_, hout⟩, _⟩ | ⟨-, -, record, hout, hpub⟩
    · cases hout
    · cases hout
    · cases hout
      have htop : ∀ id, (none : Option JobId) = some id →
          (tracker.registry.swept inputs.sweepAt).jobs.canAcceptChild id = true := by
        rintro id ⟨⟩
      obtain ⟨jobId, -, huntaken, rfl, rfl⟩ := JobRegistry.publish_eq_some _ htop hpub
      have hvacant := ((idTaken_eq_false_iff _ _).mp huntaken).2
      have hswept : (tracker.registry.swept inputs.sweepAt).jobs.Consistent := by
        unfold JobRegistry.swept
        split
        · exact hcons.cleanupExpired _ _
        · exact hcons
      let parent :=
        JobSnapshot.new (JobRequest.parentJob rackId .firmwareUpdate).spec none jobId inputs.createdAt
      have hget :
          ((tracker.registry.swept inputs.sweepAt).jobs.publishRecord parent
            [] inputs.attachedAt).get jobId =
          some parent :=
        (get_publishRecord _ _ _ hvacant htop jobId).trans (if_pos rfl)
      have hafter :
          ((tracker.registry.swept inputs.sweepAt).jobs.publishRecord parent
            [] inputs.attachedAt).Consistent :=
        JobStore.Consistent.publishRecord _ _ _ hvacant htop hswept rfl
      exact ⟨⟨parent, hget, rfl, rfl, rfl, rfl⟩, (FiniteSet.mem_insert _ _ _).mpr (.inl rfl), hafter, hroom⟩
  · cases hparent

namespace Opening

variable {nodeType : NodeType} (h : Opening parentId t)
include h

lemma canAcceptChild : t.registry.jobs.canAcceptChild parentId = true := by
  obtain ⟨parent, hget, hlive, htop, -⟩ := h.parent
  exact (canAcceptChild_iff _ _).mpr ⟨parent, hget, hlive, htop⟩

lemma swept (now : Instant) : t.registry.swept now = t.registry := by
  rw [JobRegistry.swept, if_neg (by simp [h.room])]

lemma created (hstart : Startable service t.registry node nodeType)
    {outcome : Except JobFailure JobSnapshot}
    (hcreate : create service t.registry (.childJob parentId node.rackId node.nodeId) node.inputs =
      some (outcome, r')) :
    ∃ child, outcome = .ok child := by
  have hgrant := hstart.admissionFailure h.canAcceptChild
  have hroom : ¬t.registry.maxJobs ≤ t.registry.jobs.trackedJobCount := by
    simpa [JobRegistry.atCapacity] using h.room
  unfold create JobRegistry.createJobWithScopes at hcreate
  dsimp only [JobRequest.spec, JobRequest.parentJobId, JobRequest.requireNodeIdle,
    JobRequest.scopes] at hcreate
  simp only [hgrant, JobRegistry.capacityCheck_eq, h.swept, if_neg hroom] at hcreate
  split at hcreate
  · cases hcreate
  · cases hcreate
    exact ⟨_, rfl⟩

lemma lone (hcreated : Created parentId node.rackId node.nodeId node.inputs t.registry child r') :
    Lone parentId r' child.jobId := by
  obtain ⟨parent, hget, -, -, hchildless, htyped⟩ := h.parent
  obtain ⟨found, hfound, -, -, hafter⟩ := hcreated.parent
  cases hget.symm.trans hfound
  refine ⟨hcreated.linked, fun record hrecord => ?_⟩
  cases hafter.symm.trans hrecord
  refine ⟨?_, htyped⟩
  rw [withChild, JobSnapshot.touch, hchildless]
  rfl

lemma tracker_admitNode (hbatch : batch.tracker = t)
    (hnone : ∀ nodeType, ¬Startable service t.registry node nodeType)
    (hnode : admitNode service parentId batch node = some batch') :
    batch'.tracker = t ∧ batch'.jobs = batch.jobs := by
  subst hbatch
  unfold admitNode at hnode
  split at hnode
  · cases hnode
    exact ⟨rfl, rfl⟩
  · rename_i nodeType hchecked
    split at hnode
    · cases hnode
    · rename_i failure r' hcreate
      cases hnode
      rcases JobRegistry.createJobWithScopes_cases _ _ hcreate with ⟨_, _, _, rfl⟩ |
        ⟨hgrant, -, -⟩ | ⟨_, _, _, hout, _⟩
      · exact ⟨rfl, rfl⟩
      · exact absurd (startable_of_admissionFailure hchecked hgrant) (hnone nodeType)
      · cases hout
    · rename_i child r' hcreate
      rcases JobRegistry.createJobWithScopes_cases _ _ hcreate with ⟨_, _, hout, _⟩ |
        ⟨_, ⟨_, hout⟩, _⟩ | ⟨hgrant, -, -⟩
      · cases hout
      · cases hout
      · exact absurd (startable_of_admissionFailure hchecked hgrant) (hnone nodeType)

/-- The first startable node decides: it is admitted, or it takes the parent with it. -/
lemma admitNode (hbatch : batch.tracker = t) (hstart : Startable service t.registry node nodeType)
    (hnode : admitNode service parentId batch node = some batch') :
    ScopesFree service t.registry node nodeType ∧ batch'.jobs ≠ [] ∨
    ¬ScopesFree service t.registry node nodeType ∧
      batch'.tracker.registry.jobs.canAcceptChild parentId = false := by
  subst hbatch
  unfold FirmwareBatch.admitNode at hnode
  simp only [hstart.checked] at hnode
  split at hnode
  · cases hnode
  · rename_i failure r' hcreate
    obtain ⟨child, hout⟩ := h.created hstart hcreate
    cases hout
  · rename_i child r' hcreate
    have hcreated := created_of_create hcreate
    obtain ⟨hlone, hhandles⟩ :=
      Lone.refresh (t := ⟨r', batch.tracker.parentJobHandles⟩) (h.lone hcreated) service.codec node.now
    have hindexes :=
      sameIndexes_refresh (t := ⟨r', batch.tracker.parentJobHandles⟩) hcreated.linked service.codec node.now
    generalize Tracker.refreshParentState _ _ _ _ = tracker at hlone hhandles hindexes hnode
    have hsame := get_admitFirmwareNodeForJob service tracker.registry child.jobId node nodeType
    split at hnode
    · rename_i final hadmitted
      cases hnode
      have hfree := hcreated.scopesFree_of_admitted hindexes (by rw [h.swept]; exact h.consistent)
        (by rw [h.swept]; exact hstart.aliasFree) hadmitted
      rw [h.swept] at hfree
      exact .inl ⟨hfree, by simp⟩
    · rename_i failure final hrefused
      cases hnode
      refine .inr ⟨fun hfree => ?_, ?_⟩
      · obtain ⟨other, hadmitted⟩ := hcreated.admitted_of_scopesFree hindexes hstart.accepting
          (by rw [h.swept]; exact hfree) hlone.linked
        cases hadmitted.symm.trans hrefused
      · rw [hrefused] at hsame
        exact Lone.seals (t := ⟨final, tracker.parentJobHandles⟩) (hlone.of_get hsame)
          (hhandles ▸ h.handle) _ _ _

end Opening

lemma canAcceptChild_of_linked (h : Linked parentId r childId) : r.jobs.canAcceptChild parentId = true := by
  obtain ⟨parent, hget, hlive, htop, -⟩ := h.parent
  exact (canAcceptChild_iff _ _).mpr ⟨parent, hget, hlive, htop⟩

/-- Once a node is admitted the parent stays open. -/
lemma canAcceptChild_admitNodes
    (hlinked : ∀ entry ∈ batch.jobs, Linked parentId batch.tracker.registry entry.2)
    (hjobs : batch.jobs ≠ [])
    (hnodes : admitNodes service parentId batch nodes = some batch') :
    batch'.tracker.registry.jobs.canAcceptChild parentId = true := by
  induction nodes generalizing batch with
  | nil =>
    cases hnodes
    obtain ⟨entry, hmem⟩ := exists_mem_of_ne_nil _ hjobs
    exact canAcceptChild_of_linked (hlinked entry hmem)
  | cons node nodes ih =>
    obtain ⟨next, hnode, hrest⟩ := bind_eq_some_iff.mp hnodes
    refine ih (linked_admitNode hlinked hnode) ?_ hrest
    obtain ⟨_, hsame, -⟩ | ⟨_, _, -, hnew, -⟩ := admitNode_reports hnode
    · rw [hsame]
      exact hjobs
    · simp [hnew]

lemma canAcceptChild_of_swept (now : Instant) (h : (r.swept now).jobs.canAcceptChild parentId = true) :
    r.jobs.canAcceptChild parentId = true := by
  unfold JobRegistry.swept at h
  split at h
  · rw [canAcceptChild_iff] at h ⊢
    obtain ⟨record, hget, hlive, htop⟩ := h
    obtain ⟨-, parent, hparent, rfl⟩ := (get_cleanupExpired_eq_some _ _ _ _ _).mp hget
    exact ⟨parent, hparent, by simpa using hlive, by simpa using htop⟩
  · exact h

/-- Once the parent is sealed it stays sealed. -/
lemma closed_admitNodes (h : batch.tracker.registry.jobs.canAcceptChild parentId = false)
    (hnodes : admitNodes service parentId batch nodes = some batch') :
    batch'.tracker.registry.jobs.canAcceptChild parentId = false := by
  induction nodes generalizing batch with
  | nil =>
    cases hnodes
    exact h
  | cons node nodes ih =>
    obtain ⟨next, hnode, hrest⟩ := bind_eq_some_iff.mp hnodes
    refine ih ?_ hrest
    unfold admitNode at hnode
    split at hnode
    · cases hnode
      exact h
    · split at hnode
      · cases hnode
      · rename_i failure r' hcreate
        cases hnode
        rcases eq_or_swept_of_refused hcreate with rfl | rfl
        · exact h
        · exact Bool.eq_false_iff.mpr fun hswept =>
            Bool.eq_false_iff.mp h (canAcceptChild_of_swept _ hswept)
      · rename_i child r' hcreate
        exact absurd (created_of_create hcreate).accepts (Bool.eq_false_iff.mp h)

lemma Opening.canAcceptChild_admitNodes_iff (h : Opening parentId t) (hbatch : batch.tracker = t)
    (hjobs : batch.jobs = []) (hnodes : admitNodes service parentId batch nodes = some batch') :
    batch'.tracker.registry.jobs.canAcceptChild parentId = true ↔ Opens service t.registry nodes := by
  induction nodes generalizing batch with
  | nil =>
    cases hnodes
    exact iff_of_true (hbatch ▸ h.canAcceptChild) trivial
  | cons node nodes ih =>
    obtain ⟨next, hnode, hrest⟩ := bind_eq_some_iff.mp hnodes
    by_cases hstart : ∃ nodeType, Startable service t.registry node nodeType
    · obtain ⟨nodeType, hstart⟩ := hstart
      rw [hstart.opens_cons]
      rcases h.admitNode hbatch hstart hnode with ⟨hfree, hadmitted⟩ | ⟨hheld, hclosed⟩
      · exact iff_of_true
          (canAcceptChild_admitNodes (linked_admitNode (by simp [hjobs]) hnode) hadmitted hrest) hfree
      · exact iff_of_false (Bool.eq_false_iff.mp (closed_admitNodes hclosed hrest)) hheld
    · have hnone := not_exists.mp hstart
      obtain ⟨htracker, hsame⟩ := h.tracker_admitNode hbatch hnone hnode
      rw [opens_cons_of_not_startable hnone]
      exact ih htracker (hsame.trans hjobs) hrest

/-- An admissible node is admitted if and only if the first startable node before it found its scopes free
when the loop began. -/
theorem admissible_node_admitted_iff (service : Service) (tracker : Tracker) (rackId : String)
    (inputs : CreateInputs)
    (parentId : JobId) (start batch : Batch) (earlier : List BatchNode) (node : BatchNode)
    (nodeType : NodeType)
    (hconsistent : tracker.registry.jobs.Consistent)
    (hparent : createParentJob service tracker rackId inputs = some (parentId, start))
    (hroom : start.tracker.registry.atCapacity = false)
    (hearlier : admitNodes service parentId start earlier = some batch)
    (hnode : Admissible service batch.tracker.registry node nodeType) :
    (∃ after jobId, admitNode service parentId batch node = some after ∧
      after.jobs = batch.jobs ++ [(node.nodeId, jobId)] ∧ Linked parentId after.tracker.registry jobId) ↔
      Opens service start.tracker.registry earlier := by
  obtain ⟨hopening, hjobs⟩ := opening_of_createParentJob hconsistent hparent hroom
  rw [← hopening.canAcceptChild_admitNodes_iff rfl hjobs hearlier]
  constructor
  · rintro ⟨after, jobId, hadmitted, hnew, -⟩
    obtain ⟨_, hsame, -⟩ | ⟨child, r, hcreate, -, -⟩ := admitNode_reports hadmitted
    · simp [hsame] at hnew
    · exact (created_of_create hcreate).accepts
  · intro haccept
    obtain ⟨child, r, hcreate⟩ := hnode.create haccept
    have hcreated := created_of_create hcreate
    let tracker₁ : Tracker := ⟨r, batch.tracker.parentJobHandles⟩
    let tracker₂ := tracker₁.refreshParentState service.codec parentId node.now
    have hbefore : Linked parentId tracker₁.registry child.jobId := hcreated.linked
    have hchild : Linked parentId tracker₂.registry child.jobId := hbefore.refresh service.codec node.now
    have hindexes := sameIndexes_refresh hbefore service.codec node.now
    obtain ⟨final, hgrant⟩ :=
      hcreated.admitted_of_scopesFree hindexes hnode.accepting hnode.scopesFree hchild
    have hresult : admitNode service parentId batch node = some { batch with
        tracker := { tracker₂ with registry := final }
        jobs := batch.jobs ++ [(node.nodeId, child.jobId)] } := by
      simp only [admitNode, hnode.checked, hcreate, hgrant, tracker₁, tracker₂]
    have hsame := get_admitFirmwareNodeForJob service tracker₂.registry child.jobId node nodeType
    rw [hgrant] at hsame
    exact ⟨_, child.jobId, hresult, rfl, hchild.of_get hsame⟩

/-- A tracker in which the switch of tray 1 is held by somebody else. -/
def heldTracker : Tracker :=
  ⟨⟨empty.reserveScopes ⟨"owner"⟩ [.physicalSwitch "" 1], 60, 10, false⟩, FiniteSet.empty⟩

def plainService : Service :=
  ⟨TrackerState.plainText, TrackerState.plainCodec, fun _ => true, fun _ => .ok (), fun _ _ =>
    ("", ""), fun _ => none⟩

def switchNode (nodeId : String) (trayIndex : UInt32) : BatchNode :=
  ⟨"rack", nodeId, .ok .switchGb200Nvidia, .ok (fun _ => true), .ok (), .ok (), .ok (), .ok (),
    .ok [.physicalSwitch "" trayIndex], ⟨[⟨nodeId⟩], 0, 0, 0⟩, false, 0⟩

lemma heldTracker_consistent : heldTracker.registry.jobs.Consistent :=
  consistent_empty.reserveScopes (by simp [empty])

theorem free_admitted_after_other : ∃ parentId start batch after jobId,
    createParentJob plainService heldTracker "rack" ⟨[⟨"parent"⟩], 0, 0, 0⟩ = some (parentId, start) ∧
    admitNodes plainService parentId start [switchNode "other" 3] = some batch ∧
    admitNode plainService parentId batch (switchNode "free" 2) = some after ∧
    after.jobs = batch.jobs ++ [("free", jobId)] := by
  obtain ⟨start, batch, hparent, hroom, hearlier, hopens, hfree⟩ : ∃ start batch,
      createParentJob plainService heldTracker "rack" ⟨[⟨"parent"⟩], 0, 0, 0⟩ = some (⟨"parent"⟩, start) ∧
      start.tracker.registry.atCapacity = false ∧
      admitNodes plainService ⟨"parent"⟩ start [switchNode "other" 3] = some batch ∧
      Opens plainService start.tracker.registry [switchNode "other" 3] ∧
      Admissible plainService batch.tracker.registry (switchNode "free" 2) .switchGb200Nvidia :=
    ⟨_, _, rfl, by decide +kernel, rfl,
      .inl ⟨.switchGb200Nvidia, ⟨rfl, by decide +kernel, by decide +kernel, by decide +kernel⟩,
        fun _ => ⟨_, rfl, by decide +kernel, rfl⟩⟩,
      ⟨⟨rfl, by decide +kernel, by decide +kernel, by decide +kernel⟩, by decide +kernel,
        ⟨⟨"free"⟩, by decide, by decide +kernel⟩, fun _ => ⟨_, rfl, by decide +kernel, rfl⟩⟩⟩
  obtain ⟨after, jobId, hafter, hnew, -⟩ := (admissible_node_admitted_iff plainService heldTracker "rack"
    ⟨[⟨"parent"⟩], 0, 0, 0⟩
      ⟨"parent"⟩ start batch _ _ _ heldTracker_consistent hparent hroom hearlier hfree).mpr hopens
  exact ⟨_, start, batch, after, jobId, hparent, hearlier, hafter, hnew⟩

/-- The same node after one whose scopes are held: its child is sealed and takes the parent with it. -/
theorem free_refused_after_held : ∃ parentId start batch after alone,
    createParentJob plainService heldTracker "rack" ⟨[⟨"parent"⟩], 0, 0, 0⟩ = some (parentId, start) ∧
    admitNodes plainService parentId start [switchNode "held" 1] = some batch ∧
    Admissible plainService batch.tracker.registry (switchNode "free" 2) .switchGb200Nvidia ∧
    admitNode plainService parentId batch (switchNode "free" 2) = some after ∧ after.jobs = [] ∧
    admitNodes plainService parentId start [switchNode "free" 2] = some alone ∧
      alone.jobs = [("free", ⟨"free"⟩)] :=
  ⟨⟨"parent"⟩, _, _, _, _, rfl, rfl, ⟨⟨rfl, by decide +kernel, by decide +kernel, by decide +kernel⟩,
    by decide +kernel, ⟨⟨"free"⟩, by decide, by decide +kernel⟩, fun _ => ⟨_, rfl, by decide +kernel, rfl⟩⟩,
    rfl, rfl, rfl, rfl⟩

/-- A batch reports every node of the request once, with a job or with a message, and the jobs are different
live children of the live parent. -/
theorem admitNodes_reports_every_node (service : Service) (tracker : Tracker) (rackId : String)
    (inputs : CreateInputs) (parentId : JobId) (start batch : Batch) (nodes : List BatchNode)
    (hparent : createParentJob service tracker rackId inputs = some (parentId, start))
    (hnodes : admitNodes service parentId start nodes = some batch) :
    Reported parentId (nodes.map BatchNode.nodeId) batch := by
  have hstart : Reported parentId [] start := by
    unfold createParentJob at hparent
    split at hparent <;> cases hparent
    exact ⟨.refl _, nodup_nil, by simp⟩
  exact hstart.admitNodes hnodes

/-- The batch of a node that is admitted and one whose switch is held. -/
theorem free_and_held_reported : ∃ parentId start batch,
    createParentJob plainService heldTracker "rack" ⟨[⟨"parent"⟩], 0, 0, 0⟩ = some (parentId, start) ∧
    admitNodes plainService parentId start [switchNode "free" 2, switchNode "held" 1] = some batch ∧
    batch.jobs.map Prod.fst = ["free"] ∧ batch.nodeResults.map Prod.fst = ["held"] ∧
    Reported parentId ["free", "held"] batch := by
  refine ⟨⟨"parent"⟩, _, _, rfl, rfl, rfl, rfl, ?_⟩
  exact admitNodes_reports_every_node plainService heldTracker "rack" ⟨[⟨"parent"⟩], 0, 0, 0⟩ _ _ _
    [switchNode "free" 2, switchNode "held" 1] rfl rfl

end FirmwareBatch

end RackManagement
