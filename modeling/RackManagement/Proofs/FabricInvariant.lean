import RackManagement.Proofs.FabricCalls

/-! # Invariant of the fabric registry -/

namespace RackManagement

open Library List FiniteMap

/-- What an operation must satisfy to stand beside the operations of a table. -/
structure FitsBeside (operations : FiniteMap String FabricOperation) (jobId : String)
    (operation : FabricOperation) : Prop where
  vacant : operations.lookup jobId = none
  owner : operation.jobId = jobId
  sorted : operation.intent.scopeKeys.Pairwise (· < ·)
  keyed : operation.intent.scopeKeys ≠ []
  disjoint : ∀ k other, operations.lookup k = some other →
    operation.intent.scopeKeys.Disjoint other.intent.scopeKeys
  exclusive : ∀ k other, operations.lookup k = some other →
    Disjoint operation.pendingControllers other.pendingControllers
  room : operations.size < maxOperations

/-- Each operation is stored under its own job with sorted keys, and two of them share neither a key
nor a pending controller. -/
structure OperationsWellFormed (operations : FiniteMap String FabricOperation) : Prop where
  owner : ∀ jobId operation, operations.lookup jobId = some operation → operation.jobId = jobId
  sorted : ∀ jobId operation, operations.lookup jobId = some operation →
    operation.intent.scopeKeys.Pairwise (· < ·)
  keyed : ∀ jobId operation, operations.lookup jobId = some operation → operation.intent.scopeKeys ≠ []
  disjoint : ∀ jobId other operation operation', operations.lookup jobId = some operation →
    operations.lookup other = some operation' → jobId ≠ other →
    operation.intent.scopeKeys.Disjoint operation'.intent.scopeKeys
  exclusive : ∀ jobId other operation operation', operations.lookup jobId = some operation →
    operations.lookup other = some operation' → jobId ≠ other →
    Disjoint operation.pendingControllers operation'.pendingControllers
  bounded : operations.size ≤ maxOperations

namespace OperationsWellFormed

variable {operations : FiniteMap String FabricOperation} {jobId : String} {operation : FabricOperation}

lemma empty : OperationsWellFormed ∅ where
  owner := fun _ _ h => (by cases h)
  sorted := fun _ _ h => (by cases h)
  keyed := fun _ _ h => (by cases h)
  disjoint := fun _ _ _ _ h => (by cases h)
  exclusive := fun _ _ _ _ h => (by cases h)
  bounded := Nat.zero_le _

variable (h : OperationsWellFormed operations)
include h

lemma erase (jobId : String) : OperationsWellFormed (operations.erase jobId) := by
  have hold : ∀ k operation, (operations.erase jobId).lookup k = some operation →
      operations.lookup k = some operation := fun k operation hk => (lookup_erase_eq_some hk).2
  refine ⟨?_, ?_, ?_, ?_, ?_, le_trans (size_erase_le operations jobId) h.bounded⟩
  · exact fun k operation hk => h.owner k operation (hold k operation hk)
  · exact fun k operation hk => h.sorted k operation (hold k operation hk)
  · exact fun k operation hk => h.keyed k operation (hold k operation hk)
  · exact fun k k' o o' hk hk' => h.disjoint k k' o o' (hold k o hk) (hold k' o' hk')
  · exact fun k k' o o' hk hk' => h.exclusive k k' o o' (hold k o hk) (hold k' o' hk')

lemma insert (hfits : FitsBeside operations jobId operation) :
    OperationsWellFormed (operations.insert jobId operation) := by
  have hsize := size_insert_of_lookup_none operations jobId operation hfits.vacant
  have hroom := hfits.room
  constructor
  · exact forall_insert h.owner hfits.owner
  · exact forall_insert h.sorted hfits.sorted
  · exact forall_insert h.keyed hfits.keyed
  · exact pairwise_insert (fun _ _ hd => hd.symm) h.disjoint hfits.disjoint
  · exact pairwise_insert (fun _ _ hd => hd.symm) h.exclusive hfits.exclusive
  · omega

variable (hget : operations.lookup jobId = some operation)
include hget

lemma fitsBeside_erase : FitsBeside (operations.erase jobId) jobId operation := by
  refine ⟨?_, h.owner _ _ hget, h.sorted _ _ hget, h.keyed _ _ hget, ?_, ?_, ?_⟩
  · rw [lookup_erase_eq_ite, if_pos rfl]
  · intro k other hk
    obtain ⟨hne, hold⟩ := lookup_erase_eq_some hk
    exact h.disjoint jobId k operation other hget hold hne.symm
  · intro k other hk
    obtain ⟨hne, hold⟩ := lookup_erase_eq_some hk
    exact h.exclusive jobId k operation other hget hold hne.symm
  · have hsize := size_erase_of_lookup_some operations jobId operation hget
    have hbound := h.bounded
    omega

lemma withPending {pending : Finset ControllerIdentity}
    (hpending : ∀ k other, k ≠ jobId → operations.lookup k = some other →
      Disjoint pending other.pendingControllers) :
    OperationsWellFormed (operations.insert jobId { operation with pendingControllers := pending }) := by
  have hfits := h.fitsBeside_erase hget
  have hfits' :
      FitsBeside (operations.erase jobId) jobId { operation with pendingControllers := pending } := by
    refine ⟨hfits.vacant, hfits.owner, hfits.sorted, hfits.keyed, hfits.disjoint, ?_, hfits.room⟩
    intro k other hk
    obtain ⟨hne, hold⟩ := lookup_erase_eq_some hk
    exact hpending k other hne hold
  have hinsert := (h.erase jobId).insert hfits'
  rwa [insert_erase] at hinsert

lemma erasePending (controller : ControllerIdentity) : OperationsWellFormed (operations.insert jobId
      { operation with pendingControllers := operation.pendingControllers.erase controller }) := by
  apply h.withPending hget
  intro k other hne hold
  exact (h.exclusive jobId k operation other hget hold hne.symm).mono_left (Finset.erase_subset _ _)

end OperationsWellFormed

namespace FabricOperationRegistry

variable {s t : FabricOperationRegistry} {c : FabricCall}

/-- No controller is both pending and proven, and the bounds are kept. -/
structure WellFormed (s : FabricOperationRegistry) : Prop where
  operations : OperationsWellFormed s.operations
  unproven : ∀ jobId operation, s.operations.lookup jobId = some operation →
    ∀ proof ∈ s.proofs, proof.controller ∉ operation.pendingControllers
  single : (s.proofs.map ActivationProof.controller).Nodup
  proofsBounded : s.proofs.length ≤ maxActivationProofs

variable (proofs : List ActivationProof)

def withProof (proof : ActivationProof) : List ActivationProof :=
  proofs.filter (fun other => other.controller != proof.controller) ++ [proof]

lemma publishProof_eq (proof : ActivationProof) : publishProof proofs proof =
      if (withProof proofs proof).length > maxActivationProofs then (withProof proofs proof).tail
      else withProof proofs proof := rfl

lemma publishProof_sublist (proof : ActivationProof) :
    (publishProof proofs proof).Sublist (withProof proofs proof) := by
  rw [publishProof_eq]
  split
  · exact tail_sublist _
  · exact List.Sublist.refl _

variable {proofs : List ActivationProof}

lemma mem_withProof {proof other : ActivationProof} : other ∈ withProof proofs proof ↔
      (other ∈ proofs ∧ other.controller ≠ proof.controller) ∨ other = proof := by
  simp [withProof]

lemma nodup_withProof (h : (proofs.map ActivationProof.controller).Nodup)
    (proof : ActivationProof) : ((withProof proofs proof).map ActivationProof.controller).Nodup := by
  unfold withProof
  rw [map_append, nodup_append]
  refine ⟨h.sublist (filter_sublist.map _), nodup_singleton _, ?_⟩
  intro a ha b hb
  obtain ⟨other, hother, rfl⟩ := mem_map.mp ha
  have hne : other.controller ≠ proof.controller := by simpa using (mem_filter.mp hother).2
  have heq : b = proof.controller := by simpa using hb
  rw [heq]
  exact hne

lemma length_publishProof_le (h : proofs.length ≤ maxActivationProofs)
    (proof : ActivationProof) : (publishProof proofs proof).length ≤ maxActivationProofs := by
  have hfilter : (withProof proofs proof).length ≤ proofs.length + 1 := by
    unfold withProof
    rw [length_append, length_singleton]
    have hle := length_filter_le (fun other => other.controller != proof.controller) proofs
    omega
  rw [publishProof_eq]
  split
  · rw [length_tail]
    omega
  · omega

namespace WellFormed

variable {jobId : String} {operation : FabricOperation}

variable (h : s.WellFormed)
include h

lemma key_eq {k : String}
    (htracked : s.operations.lookup k = some operation) (howner : operation.jobId = jobId) : k = jobId := by
  rw [← howner, h.operations.owner k operation htracked]

variable {operations : FiniteMap String FabricOperation}

lemma of_filter (hoperations : OperationsWellFormed operations) (keep : ActivationProof → Bool)
    (hunproven : ∀ jobId operation, operations.lookup jobId = some operation →
      ∀ proof ∈ s.proofs, keep proof = true → proof.controller ∉ operation.pendingControllers) :
    WellFormed ⟨operations, s.proofs.filter keep⟩ := by
  refine ⟨hoperations, ?_, h.single.sublist (filter_sublist.map _), ?_⟩
  · intro jobId operation hget proof hmem
    obtain ⟨hproof, hkeep⟩ := mem_filter.mp hmem
    exact hunproven jobId operation hget proof hproof hkeep
  · exact le_trans (length_filter_le keep s.proofs) h.proofsBounded

lemma of_operations (hoperations : OperationsWellFormed operations)
    (hunproven : ∀ jobId operation, operations.lookup jobId = some operation →
      ∀ proof ∈ s.proofs, proof.controller ∉ operation.pendingControllers) :
    WellFormed { s with operations := operations } :=
  ⟨hoperations, hunproven, h.single, h.proofsBounded⟩

lemma insertNew {intent : FabricOperationIntent}
    (hkeyed : intent.scopeKeys ≠ []) (hvacant : s.operations.lookup jobId = none)
    (hfree : ∀ k other, s.operations.lookup k = some other → ¬other.SharesKey intent.scopeKeys)
    (hroom : s.operations.size < maxOperations) :
    WellFormed { s with operations := s.operations.insert jobId ⟨jobId, intent.normalized, ∅⟩ } := by
  have hfits : FitsBeside s.operations jobId ⟨jobId, intent.normalized, ∅⟩ := by
    refine ⟨hvacant, rfl, pairwise_lt_sortDedup _, sortDedup_ne_nil hkeyed, ?_, ?_, hroom⟩
    · intro k other hother key hkey hkey'
      exact hfree k other hother ⟨key, hkey', mem_sortDedup.mp hkey⟩
    · intro k other _
      exact Finset.disjoint_empty_left _
  apply h.of_operations (h.operations.insert hfits)
  exact forall_insert h.unproven (fun _ _ => Finset.notMem_empty _)

lemma handOver {holder : String}
    (hheld : s.operations.lookup holder = some operation) (hvacant : s.operations.lookup jobId = none) :
    WellFormed { s with
      operations := (s.operations.erase holder).insert jobId
        ⟨jobId, operation.intent, operation.pendingControllers⟩ } := by
  have hfits := h.operations.fitsBeside_erase hheld
  have hfits' : FitsBeside (s.operations.erase holder) jobId
      ⟨jobId, operation.intent, operation.pendingControllers⟩ := by
    refine ⟨?_, rfl, hfits.sorted, hfits.keyed, hfits.disjoint, hfits.exclusive, hfits.room⟩
    rw [lookup_erase_eq_ite]
    split
    · rfl
    · exact hvacant
  apply h.of_operations ((h.operations.erase holder).insert hfits')
  intro k other hk proof hproof
  rcases lookup_insert_eq_some hk with ⟨rfl, rfl⟩ | ⟨_, hold⟩
  · exact h.unproven holder operation hheld proof hproof
  · exact h.unproven k other (lookup_erase_eq_some hold).2 proof hproof

variable (htracked : s.operations.lookup jobId = some operation)
include htracked

lemma addPending (controllers : List ControllerIdentity)
    (hfree : ∀ k other, s.operations.lookup k = some other → other.jobId ≠ jobId →
      ∀ controller ∈ controllers, controller ∉ other.pendingControllers) :
    OperationsWellFormed (s.operations.insert jobId
      { operation with pendingControllers := operation.pendingControllers ∪ controllers.toFinset }) := by
  apply h.operations.withPending htracked
  intro k other hne hold
  rw [Finset.disjoint_union_left]
  refine ⟨h.operations.exclusive jobId k operation other htracked hold hne.symm, ?_⟩
  rw [Finset.disjoint_left]
  intro controller hmem
  have howner : other.jobId ≠ jobId := by rwa [h.operations.owner k other hold]
  exact hfree k other hold howner controller (mem_toFinset.mp hmem)

lemma unproven_publish {k : String} {other : FabricOperation} {proof new : ActivationProof}
    (hpending : new.controller ∈ operation.pendingControllers) (hproof : proof ∈ publishProof s.proofs new)
    (hk : (s.operations.insert jobId { operation with
      pendingControllers := operation.pendingControllers.erase new.controller }).lookup k = some other) :
    proof.controller ∉ other.pendingControllers := by
  have hmem := mem_withProof.mp ((publishProof_sublist _ _).subset hproof)
  rcases lookup_insert_eq_some hk with ⟨rfl, rfl⟩ | ⟨hne, hold⟩
  · rcases hmem with ⟨hproof, _⟩ | rfl
    · exact fun hmem => h.unproven k operation htracked proof hproof (Finset.mem_of_mem_erase hmem)
    · exact Finset.notMem_erase _ _
  · rcases hmem with ⟨hproof, _⟩ | rfl
    · exact h.unproven k other hold proof hproof
    · have hexclusive := h.operations.exclusive jobId k operation other htracked hold hne.symm
      exact Finset.disjoint_left.mp hexclusive hpending

end WellFormed

lemma Commit.wellFormed (hc : Commit s c t) (h : s.WellFormed) : t.WellFormed := by
  cases hc with
  | admitted intent jobId keyed vacant free room => exact h.insertNew keyed vacant free room
  | transferred intent jobId previousJobId holder operation vacant tracked owner same =>
    obtain rfl := h.key_eq tracked owner
    rw [← same]
    exact h.handOver tracked vacant
  | marked jobId controllers operation tracked free =>
    apply h.of_filter (h.addPending tracked controllers free)
    intro k other hk proof hproof hkeep
    rcases lookup_insert_eq_some hk with ⟨rfl, rfl⟩ | ⟨_, hold⟩
    · have hnew : proof.controller ∉ controllers := by simpa using hkeep
      rw [Finset.mem_union, mem_toFinset, not_or]
      exact ⟨h.unproven k operation tracked proof hproof, hnew⟩
    · exact h.unproven k other hold proof hproof
  | cleared jobId controller operation tracked =>
    apply h.of_operations (h.operations.erasePending tracked controller)
    apply forall_insert h.unproven
    intro proof hproof hmem
    exact h.unproven jobId operation tracked proof hproof (Finset.mem_of_mem_erase hmem)
  | recorded jobId controller digest scopeKeys operation tracked pending =>
    refine ⟨h.operations.erasePending tracked controller, ?_,
      (nodup_withProof h.single _).sublist ((publishProof_sublist _ _).map _),
      length_publishProof_le h.proofsBounded _⟩
    intro k other hk proof hproof
    exact h.unproven_publish tracked pending hproof hk
  | finished jobId operation tracked verified =>
    apply h.of_operations (h.operations.erase jobId)
    intro k other hk
    exact h.unproven k other (lookup_erase_eq_some hk).2
  | released jobId operation tracked =>
    apply h.of_filter (h.operations.erase jobId)
    intro k other hk proof hproof _
    exact h.unproven k other (lookup_erase_eq_some hk).2 proof hproof
  | invalidated scopeKeys =>
    apply h.of_filter h.operations
    intro k other hk proof hproof _
    exact h.unproven k other hk proof hproof

lemma wellFormed_empty : empty.WellFormed :=
  ⟨.empty, fun _ _ h => (by cases h), nodup_nil, Nat.zero_le _⟩

lemma WellFormed.apply (h : s.WellFormed) (c : FabricCall) : (s.apply c).WellFormed := by
  by_cases hsucceeds : s.succeeds c = true
  · exact (commit_of_succeeds hsucceeds).wellFormed h
  · rw [apply_of_not_succeeds (by simpa using hsucceeds)]
    exact h

lemma wellFormed_foldl (h : s.WellFormed) (calls : List FabricCall) :
    (calls.foldl FabricOperationRegistry.apply s).WellFormed := by
  induction calls generalizing s with
  | nil => exact h
  | cons c calls ih => exact ih (h.apply c)

lemma wellFormed_after (calls : List FabricCall) : (after calls).WellFormed :=
  wellFormed_foldl wellFormed_empty calls

/-- After any calls on the default registry, operations and pending controllers are disjoint, proofs
and pending controllers exclude each other, and both collections are bounded. -/
theorem registry_invariant (calls : List FabricCall) :
    (∀ jobId other operation operation', (after calls).operations.lookup jobId = some operation →
      (after calls).operations.lookup other = some operation' → jobId ≠ other →
      operation.intent.scopeKeys.Disjoint operation'.intent.scopeKeys ∧
      Disjoint operation.pendingControllers operation'.pendingControllers) ∧
    (∀ jobId operation, (after calls).operations.lookup jobId = some operation →
      operation.jobId = jobId ∧ operation.intent.scopeKeys.Pairwise (· ≤ ·) ∧
      operation.intent.scopeKeys.Nodup ∧ operation.intent.scopeKeys ≠ [] ∧
      ∀ proof ∈ (after calls).proofs, proof.controller ∉ operation.pendingControllers) ∧
    ((after calls).proofs.map ActivationProof.controller).Nodup ∧
    (after calls).operations.size ≤ 256 ∧ (after calls).proofs.length ≤ 1024 := by
  have h := wellFormed_after calls
  refine ⟨?_, ?_, h.single, h.operations.bounded, h.proofsBounded⟩
  · intro jobId other operation operation' hget hget' hne
    exact ⟨h.operations.disjoint jobId other operation operation' hget hget' hne,
      h.operations.exclusive jobId other operation operation' hget hget' hne⟩
  · intro jobId operation hget
    have hsorted := h.operations.sorted jobId operation hget
    exact ⟨h.operations.owner jobId operation hget, hsorted.imp le_of_lt, hsorted.imp ne_of_lt,
      h.operations.keyed jobId operation hget, h.unproven jobId operation hget⟩

end FabricOperationRegistry

end RackManagement
