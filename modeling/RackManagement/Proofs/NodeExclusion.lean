import RackManagement.Proofs.RegistryConsistency

/-!
# Exclusion on a node

Occupancy of a node is split between the node index and the alias of the node. Together they name at
most one owner.
-/

namespace RackManagement

open Library JobRegistry JobStore

/-- A creation on a node asks for the node to be idle. -/
def RegistryOp.checksNodeIdle : RegistryOp → Bool
  | .create spec _ requireNodeIdle _ _ => spec.nodeId == "" || requireNodeIdle
  | _ => true

namespace JobStore

/-- `jobId` is an active job of the node or owns the node's alias. -/
def Occupies (s : JobStore) (rackId nodeId : String) (jobId : JobId) : Prop :=
  s.activeByNode.Contains rackId nodeId jobId ∨
    s.activeByScope.lookup (.logicalNode rackId nodeId) = some jobId

def NodesExclusive (s : JobStore) : Prop :=
  ∀ rackId nodeId first second, s.Occupies rackId nodeId first → s.Occupies rackId nodeId second →
    first = second

variable {s t : JobStore}

lemma NodesExclusive.mono (h : s.NodesExclusive)
    (hsub : ∀ rackId nodeId jobId, t.Occupies rackId nodeId jobId → s.Occupies rackId nodeId jobId) :
    t.NodesExclusive := by
  intro rackId nodeId first second hfirst hsecond
  have hfirst' := hsub rackId nodeId first hfirst
  have hsecond' := hsub rackId nodeId second hsecond
  exact h rackId nodeId first second hfirst' hsecond'

lemma NodesExclusive.reserve {scopes : List JobScope} {ownerId : JobId} (h : s.NodesExclusive)
    (hnodes : ∀ rackId nodeId jobId, t.activeByNode.Contains rackId nodeId jobId →
      s.activeByNode.Contains rackId nodeId jobId ∨
        (jobId = ownerId ∧ JobScope.logicalNode rackId nodeId ∈ scopes))
    (haliases : t.aliases = s.aliases.reserve ownerId scopes)
    (hfree : ∀ rackId nodeId, JobScope.logicalNode rackId nodeId ∈ scopes →
      ∀ jobId, s.activeByNode.Contains rackId nodeId jobId → jobId = ownerId) : t.NodesExclusive := by
  have howner : ∀ scope, t.activeByScope.lookup scope =
      if scope ∈ scopes then some ownerId else s.activeByScope.lookup scope := by
    intro scope
    have hlookup := OwnerTable.ownerOf_reserve s.aliases ownerId scopes scope
    rw [← haliases] at hlookup
    exact hlookup
  intro rackId nodeId first second hfirst hsecond
  by_cases hmem : JobScope.logicalNode rackId nodeId ∈ scopes
  · have hall : ∀ jobId, t.Occupies rackId nodeId jobId → jobId = ownerId := by
      intro jobId hocc
      rcases hocc with hnode | halias
      · rcases hnodes rackId nodeId jobId hnode with hold | hnew
        · exact hfree rackId nodeId hmem jobId hold
        · exact hnew.1
      · rw [howner, if_pos hmem] at halias
        exact (Option.some.inj halias).symm
    rw [hall first hfirst, hall second hsecond]
  · have hold : ∀ jobId, t.Occupies rackId nodeId jobId → s.Occupies rackId nodeId jobId := by
      intro jobId hocc
      rcases hocc with hnode | halias
      · rcases hnodes rackId nodeId jobId hnode with hold | hnew
        · exact .inl hold
        · exact absurd hnew.2 hmem
      · rw [howner, if_neg hmem] at halias
        exact .inr halias
    exact h rackId nodeId first second (hold first hfirst) (hold second hsecond)

end JobStore

namespace RegistryState

variable {D : JobDomain} {s t u : RegistryState} {op : RegistryOp}

lemma nodesExclusive_afterSweep (hcons : s.jobs.Consistent) (h : s.jobs.NodesExclusive) :
    (s.afterSweep D op).jobs.NodesExclusive := by
  unfold afterSweep
  split
  · exact h
  · apply h.mono
    rintro rackId nodeId jobId (hnode | halias)
    · exact .inl ((hcons.contains_cleanupExpired _ _ _ _ _).mp hnode)
    · exact .inr ((hcons.ownerOf_cleanupExpired _ _ _ _).mp halias).2

lemma contains_publishRecord {jobs : JobStore} {spec : JobSpec} {parentJobId : Option JobId}
    {requireNodeIdle : Bool} {scopes : List JobScope} {inputs : CreateInputs} {newId : JobId}
    (hidle : (spec.nodeId == "" || requireNodeIdle) = true) {rackId nodeId : String} {jobId : JobId}
    (h : (jobs.publishRecord (newRecord spec parentJobId newId inputs)
      (admissionScopes spec requireNodeIdle scopes) inputs.attachedAt).activeByNode.Contains
        rackId nodeId jobId) :
    jobs.activeByNode.Contains rackId nodeId jobId ∨
      (jobId = newId ∧
        JobScope.logicalNode rackId nodeId ∈ admissionScopes spec requireNodeIdle scopes) := by
  rw [activeByNode_publishRecord, activeByNode_insertVacant] at h
  split at h
  · rename_i hindex
    rw [BucketIndex.contains_add] at h
    rcases h with hold | ⟨hrack, hnode, hid⟩
    · exact .inl hold
    · have hne : (spec.nodeId != "") = true := (Bool.and_eq_true_iff.mp hindex).1
      have hreq : requireNodeIdle = true := by
        rw [bne_iff_ne] at hne
        simpa [hne] using hidle
      refine .inr ⟨hid, List.mem_append_right _ ?_⟩
      rw [hreq, hne, hrack, hnode]
      exact List.mem_singleton_self _
  · exact .inl h

lemma Effect.nodesExclusive (he : Effect u op t) (hcons : u.jobs.Consistent)
    (hidle : op.checksNodeIdle = true) (h : u.jobs.NodesExclusive) : t.jobs.NodesExclusive := by
  cases he with
  | unchanged => exact h
  | closed => exact h
  | created jobId drawn vacant parent idle free room =>
    have hfree := (u.jobs.conflictingScope_eq_none_iff _).mp free
    refine h.reserve (fun _ _ _ hnode => contains_publishRecord hidle hnode)
      (u.jobs.aliases_publishRecord _ _ _) ?_
    intro rackId nodeId hmem active hnode
    exact absurd hnode ((hfree _ hmem).2 rackId nodeId active rfl)
  | reserved ownerId drawn vacant free =>
    have hfree := (u.jobs.conflictingScope_eq_none_iff _).mp free
    refine h.reserve (fun _ _ _ hnode => .inl hnode) (u.jobs.aliases_reserveScopes _ _) ?_
    intro rackId nodeId hmem active hnode
    exact absurd hnode ((hfree _ hmem).2 rackId nodeId active rfl)
  | extended jobId scopes job tracked live free =>
    have hfree := (u.jobs.conflictingScopeExcept_eq_none_iff _ _).mp free
    refine h.reserve (fun _ _ _ hnode => .inl hnode) (u.jobs.aliases_reserveScopes _ _) ?_
    intro rackId nodeId hmem active hnode
    have hbusy := (u.jobs.busyOwner_eq_none_iff _ _).mp (hfree _ hmem)
    exact Option.some.inj (hbusy.2 rackId nodeId active rfl hnode)
  | dropped ownerId held =>
    apply h.mono
    rintro rackId nodeId jobId (hnode | halias)
    · exact .inl hnode
    · exact .inr ((hcons.coherent.ownerOf_release ownerId jobId _).mp halias).2
  | moved jobId mark now job tracked live =>
    apply h.mono
    rintro rackId nodeId other (hnode | halias)
    · rw [jobs_withJobs, activeByNode_moveTo] at hnode
      split at hnode
      · exact .inl ((BucketIndex.contains_remove _ _ _ _ _ _ _).mp hnode).1
      · exact .inl hnode
    · change (u.withJobs _).jobs.aliases.ownerOf.lookup _ = some other at halias
      rw [jobs_withJobs, aliases_moveTo] at halias
      split at halias
      · exact .inr ((hcons.coherent.ownerOf_release jobId other _).mp halias).2
      · exact .inr halias
  | removed jobId job tracked childless top queued =>
    apply h.mono
    rintro rackId nodeId other (hnode | halias)
    · rw [jobs_withJobs, remove_of_get tracked] at hnode
      exact .inl ((BucketIndex.contains_remove _ _ _ _ _ _ _).mp hnode).1
    · change (u.withJobs _).jobs.aliases.ownerOf.lookup _ = some other at halias
      rw [jobs_withJobs, aliases_remove_of_get tracked] at halias
      exact .inr ((hcons.coherent.ownerOf_release jobId other _).mp halias).2

/-- The live jobs of a node, and the owner of its scope. -/
def nodeOccupants (s : RegistryState) (rackId nodeId : String) : Set JobId :=
  { jobId | (∃ job, s.jobs.get jobId = some job ∧ job.nodeId ≠ "" ∧ job.state.isTerminal = false ∧
      job.rackId = rackId ∧ job.nodeId = nodeId) ∨
    s.jobs.activeByScope.lookup (.logicalNode rackId nodeId) = some jobId }

/-- When every job of a node is created with the idle check, a node never has two
occupants. -/
theorem nodeOccupants_subsingleton {ttl : Duration} {maxJobs : Nat} {ops : List RegistryOp}
    (hidle : ∀ op ∈ ops, op.checksNodeIdle = true)
    (h : run (step D) (initial ttl maxJobs) ops = some s) (rackId nodeId : String) :
    (s.nodeOccupants rackId nodeId).Subsingleton := by
  let I : RegistryState → Prop := fun s => s.jobs.Consistent ∧ s.jobs.NodesExclusive
  have hinit : I (initial ttl maxJobs) := by
    refine ⟨consistent_empty, ?_⟩
    rintro rackId nodeId first second (hnode | halias) _
    · exact absurd hnode (BucketIndex.not_contains_empty _ _ _)
    · cases halias
  have hstep : ∀ s op t, op ∈ ops → I s → step D s op = some t → I t := by
    intro s op t hop hs hst
    have heffect := step_effect hs.1 hst
    refine ⟨step_consistent hs.1 hst, ?_⟩
    exact heffect.nodesExclusive (consistent_afterSweep hs.1) (hidle op hop)
      (nodesExclusive_afterSweep hs.1 hs.2)
  obtain ⟨hcons, hexclusive⟩ := run_invariant_of_mem hstep hinit h
  have hocc : ∀ jobId ∈ s.nodeOccupants rackId nodeId, s.jobs.Occupies rackId nodeId jobId := by
    rintro jobId (⟨job, hget, hne, hlive, hrack, hnode⟩ | halias)
    · refine .inl ((hcons.indexed _ _ _).mpr ⟨job, hget, ?_, hrack, hnode⟩)
      simp [shouldIndex, hne, hlive]
    · exact .inr halias
  intro first hfirst second hsecond
  exact hexclusive rackId nodeId first second (hocc first hfirst) (hocc second hsecond)

/-- A job takes a node; a guard and a second job are refused there. -/
def contendedNode : List RegistryOp :=
  [.create (JobSpec.new "rack" "node" "queued") none true [] ⟨[⟨"first"⟩], 0, 0, 0⟩,
    .reserveMutation [.logicalNode "rack" "node"] [⟨"guard"⟩],
    .create (JobSpec.new "rack" "node" "queued") none true [] ⟨[⟨"second"⟩], 0, 0, 0⟩]

theorem contendedNode_one_occupant : ∃ s, run (step plainDomain) (initial 60 10) contendedNode = some s ∧
      ⟨"first"⟩ ∈ s.nodeOccupants "rack" "node" ∧ (s.nodeOccupants "rack" "node").Subsingleton := by
  have h : run (step plainDomain) (initial 60 10) contendedNode = some _ := rfl
  exact ⟨_, h, .inr rfl, nodeOccupants_subsingleton (by decide) h "rack" "node"⟩

end RegistryState

end RackManagement
