import RackManagement.Model.FabricOperation

/-!
# Calls of the fabric registry

A call fails and leaves the registry alone, or it commits with the checks that it passed.
-/

namespace RackManagement

open Library

namespace FabricOperationIntent

def normalized (intent : FabricOperationIntent) : FabricOperationIntent :=
  { intent with scopeKeys := sortDedup intent.scopeKeys }

lemma normalize_eq_ok {intent intent' : FabricOperationIntent} (h : intent.normalize = .ok intent') :
    intent' = intent.normalized ∧ intent.scopeKeys ≠ [] := by
  unfold normalize at h
  split at h
  · cases h
  · rename_i hvalid
    simp only [Bool.or_eq_true, List.isEmpty_iff, not_or] at hvalid
    cases h
    exact ⟨rfl, hvalid.1.1⟩

end FabricOperationIntent

def FabricOperation.SharesKey (operation : FabricOperation) (keys : List String) : Prop :=
  ∃ key ∈ operation.intent.scopeKeys, key ∈ keys

namespace FabricOperationRegistry

variable {s t : FabricOperationRegistry}

def withPending (s : FabricOperationRegistry) (jobId : String) (operation : FabricOperation)
    (pending : Finset ControllerIdentity) : FabricOperationRegistry :=
  { s with operations := s.operations.insert jobId { operation with pendingControllers := pending } }

inductive Commit (s : FabricOperationRegistry) : FabricCall → FabricOperationRegistry → Prop
  | admitted (intent : FabricOperationIntent) (jobId : String) (keyed : intent.scopeKeys ≠ [])
      (vacant : s.operations.lookup jobId = none)
      (free : ∀ k other, s.operations.lookup k = some other → ¬other.SharesKey intent.scopeKeys)
      (room : s.operations.size < maxOperations) :
      Commit s (.admitOperation intent jobId none)
        { s with operations := s.operations.insert jobId ⟨jobId, intent.normalized, ∅⟩ }
  | transferred (intent : FabricOperationIntent) (jobId previousJobId : String) (holder : String)
      (operation : FabricOperation) (vacant : s.operations.lookup jobId = none)
      (tracked : s.operations.lookup holder = some operation) (owner : operation.jobId = previousJobId)
      (same : operation.intent = intent.normalized) :
      Commit s (.admitOperation intent jobId (some previousJobId))
        { s with
          operations := (s.operations.erase previousJobId).insert jobId
            ⟨jobId, intent.normalized, operation.pendingControllers⟩ }
  | marked (jobId : String) (controllers : List ControllerIdentity) (operation : FabricOperation)
      (tracked : s.operations.lookup jobId = some operation)
      (free : ∀ k other, s.operations.lookup k = some other → other.jobId ≠ jobId →
        ∀ controller ∈ controllers, controller ∉ other.pendingControllers) :
      Commit s (.markPending jobId controllers)
        { s.withPending jobId operation (operation.pendingControllers ∪ controllers.toFinset) with
          proofs := s.proofs.filter (fun proof => !controllers.contains proof.controller) }
  | cleared (jobId : String) (controller : ControllerIdentity) (operation : FabricOperation)
      (tracked : s.operations.lookup jobId = some operation) :
      Commit s (.clearInactive jobId controller)
        (s.withPending jobId operation (operation.pendingControllers.erase controller))
  | recorded (jobId : String) (controller : ControllerIdentity) (digest : String) (scopeKeys : List String)
      (operation : FabricOperation) (tracked : s.operations.lookup jobId = some operation)
      (pending : controller ∈ operation.pendingControllers) :
      Commit s (.recordActivation jobId controller digest scopeKeys)
        { s.withPending jobId operation (operation.pendingControllers.erase controller) with
          proofs := publishProof s.proofs ⟨controller, digest, sortDedup scopeKeys⟩ }
  | finished (jobId : String) (operation : FabricOperation)
      (tracked : s.operations.lookup jobId = some operation) (verified : operation.pendingControllers = ∅) :
      Commit s (.finish jobId) { s with operations := s.operations.erase jobId }
  | released (jobId : String) (operation : FabricOperation)
      (tracked : s.operations.lookup jobId = some operation) :
      Commit s (.releaseFailed jobId)
        { operations := s.operations.erase jobId
          proofs := s.proofs.filter (fun proof => proof.controller ∉ operation.pendingControllers) }
  | invalidated (scopeKeys : List String) :
      Commit s (.invalidateAndRequireClear scopeKeys)
        { s with
          proofs := s.proofs.filter (fun proof =>
            !proof.scopeKeys.any (fun key => scopeKeys.contains key)) }

variable {intent : FabricOperationIntent}

lemma mem_overlapping {operation : FabricOperation} :
    operation ∈ s.operations.valuesInOrder.filter (fun operation => operation.intent.scopeKeys.any
        (fun key => (binarySearch intent.normalized.scopeKeys key).isOk)) ↔
      (∃ k, s.operations.lookup k = some operation) ∧ operation.SharesKey intent.scopeKeys := by
  have hsorted : intent.normalized.scopeKeys.Pairwise (· ≤ ·) :=
    (pairwise_lt_sortDedup intent.scopeKeys).imp le_of_lt
  rw [List.mem_filter, FiniteMap.mem_valuesInOrder, List.any_eq_true]
  simp only [isOk_binarySearch_iff hsorted]
  unfold FabricOperation.SharesKey FabricOperationIntent.normalized
  simp only [mem_sortDedup]

lemma admissionPending_cases {previous : Option FabricOperation}
    {previousJobId : Option String} {pending : Finset ControllerIdentity}
    (h : s.admissionPending intent previous previousJobId = .ok pending) :
    (previous = none ∧ previousJobId = none ∧ s.operations.size < maxOperations ∧ pending = ∅) ∨
    ∃ operation, previous = some operation ∧ previousJobId = some operation.jobId ∧
      operation.intent = intent ∧ pending = operation.pendingControllers := by
  unfold admissionPending at h
  split at h
  · split at h
    · cases h
    · rename_i hroom
      cases h
      exact .inl ⟨rfl, rfl, not_le.mp hroom, rfl⟩
  · rename_i operation previousJobId
    split at h
    · cases h
    · rename_i hsame
      simp only [not_or, not_not] at hsame
      obtain ⟨howner, hkeys, hrule⟩ := hsame
      cases h
      refine .inr ⟨operation, rfl, by rw [howner], ?_, rfl⟩
      cases hintent : operation.intent
      cases intent
      simp_all
  · cases h
  · cases h

variable (s : FabricOperationRegistry)

lemma admitOperation_cases (intent : FabricOperationIntent) (jobId : String)
    (previousJobId : Option String) :
    (∃ error, s.admitOperation intent jobId previousJobId = (.error error, s)) ∨
    ∃ operation t, s.admitOperation intent jobId previousJobId = (.ok operation, t) ∧
      Commit s (.admitOperation intent jobId previousJobId) t := by
  unfold admitOperation
  cases hnormalize : intent.normalize with
  | error error => exact .inl ⟨error, rfl⟩
  | ok normal =>
    obtain ⟨rfl, hkeys⟩ := FabricOperationIntent.normalize_eq_ok hnormalize
    simp only
    split
    · exact .inl ⟨_, rfl⟩
    · split
      · exact .inl ⟨_, rfl⟩
      · rename_i hvacant
        have hnone : s.operations.lookup jobId = none := by simpa using hvacant
        split
        · exact .inl ⟨_, rfl⟩
        · cases hpending : s.admissionPending intent.normalized (List.head? _) previousJobId with
          | error error => exact .inl ⟨error, rfl⟩
          | ok pending =>
            refine .inr ⟨_, _, rfl, ?_⟩
            obtain ⟨hhead, rfl, hroom, rfl⟩ | ⟨operation, hhead, rfl, hintent, rfl⟩ :=
              admissionPending_cases hpending
            · have hempty := List.head?_eq_none_iff.mp hhead
              refine .admitted intent jobId hkeys hnone ?_ hroom
              intro k other hother hshares
              have hmem := mem_overlapping.mpr ⟨⟨k, hother⟩, hshares⟩
              rw [hempty] at hmem
              cases hmem
            · obtain ⟨⟨holder, htracked⟩, _⟩ := mem_overlapping.mp (List.mem_of_mem_head? hhead)
              exact .transferred intent jobId operation.jobId holder operation hnone htracked rfl hintent

def FailsOrCommits (s : FabricOperationRegistry) (c : FabricCall)
    (result : Except RmsError Unit × FabricOperationRegistry) : Prop :=
  (∃ error, result = (.error error, s)) ∨ ∃ t, result = (.ok (), t) ∧ Commit s c t

variable (jobId : String)

lemma markPending_cases (controllers : List ControllerIdentity) :
    s.FailsOrCommits (.markPending jobId controllers) (s.markPending jobId controllers) := by
  unfold markPending
  cases htracked : s.operations.lookup jobId with
  | none => exact .inl ⟨_, rfl⟩
  | some operation =>
    simp only
    split
    · exact .inl ⟨_, rfl⟩
    · rename_i hfree
      refine .inr ⟨_, rfl, .marked jobId controllers operation htracked ?_⟩
      intro k other hother hne controller hmem hpending
      apply hfree
      apply List.any_eq_true.mpr
      refine ⟨other, FiniteMap.mem_valuesInOrder.mpr ⟨k, hother⟩, ?_⟩
      simp only [Bool.and_eq_true, bne_iff_ne, List.any_eq_true, decide_eq_true_eq]
      exact ⟨hne, controller, hmem, hpending⟩

lemma clearInactive_cases (controller : ControllerIdentity) :
    s.FailsOrCommits (.clearInactive jobId controller) (s.clearInactive jobId controller) := by
  unfold clearInactive
  cases htracked : s.operations.lookup jobId with
  | none => exact .inl ⟨_, rfl⟩
  | some operation => exact .inr ⟨_, rfl, .cleared jobId controller operation htracked⟩

lemma recordActivation_cases (controller : ControllerIdentity)
    (digest : String) (scopeKeys : List String) :
    s.FailsOrCommits (.recordActivation jobId controller digest scopeKeys)
      (s.recordActivation jobId controller digest scopeKeys) := by
  unfold recordActivation
  simp only
  split
  · exact .inl ⟨_, rfl⟩
  · cases htracked : s.operations.lookup jobId with
    | none => exact .inl ⟨_, rfl⟩
    | some operation =>
      simp only
      split
      · exact .inl ⟨_, rfl⟩
      · split
        · exact .inl ⟨_, rfl⟩
        · rename_i hpending
          exact .inr ⟨_, rfl,
            .recorded jobId controller digest scopeKeys operation htracked (not_not.mp hpending)⟩

lemma finish_cases : s.FailsOrCommits (.finish jobId) (s.finish jobId) := by
  unfold finish
  cases htracked : s.operations.lookup jobId with
  | none => exact .inl ⟨_, rfl⟩
  | some operation =>
    simp only
    split
    · exact .inl ⟨_, rfl⟩
    · rename_i hverified
      exact .inr ⟨_, rfl, .finished jobId operation htracked (not_not.mp hverified)⟩

lemma releaseFailed_cases : s.FailsOrCommits (.releaseFailed jobId) (s.releaseFailed jobId) := by
  unfold releaseFailed
  cases htracked : s.operations.lookup jobId with
  | none => exact .inl ⟨_, rfl⟩
  | some operation => exact .inr ⟨_, rfl, .released jobId operation htracked⟩

lemma invalidateAndRequireClear_cases (scopeKeys : List String) :
    s.FailsOrCommits (.invalidateAndRequireClear scopeKeys) (s.invalidateAndRequireClear scopeKeys) := by
  unfold invalidateAndRequireClear
  simp only
  split
  · exact .inl ⟨_, rfl⟩
  · split
    · exact .inl ⟨_, rfl⟩
    · exact .inr ⟨_, rfl, .invalidated scopeKeys⟩

/-- Every call fails and changes nothing, or commits. -/
theorem call_cases (c : FabricCall) : s.FailsOrCommits c (s.call c) := by
  cases c with
  | admitOperation intent jobId previousJobId =>
    unfold FailsOrCommits call
    rcases s.admitOperation_cases intent jobId previousJobId with ⟨error, h⟩ | ⟨operation, t, h, hcommit⟩
    · simp only [h]
      exact .inl ⟨error, rfl⟩
    · simp only [h]
      exact .inr ⟨t, rfl, hcommit⟩
  | markPending jobId controllers => exact s.markPending_cases jobId controllers
  | clearInactive jobId controller => exact s.clearInactive_cases jobId controller
  | recordActivation jobId controller digest scopeKeys =>
    exact s.recordActivation_cases jobId controller digest scopeKeys
  | finish jobId => exact s.finish_cases jobId
  | releaseFailed jobId => exact s.releaseFailed_cases jobId
  | invalidateAndRequireClear scopeKeys => exact s.invalidateAndRequireClear_cases scopeKeys

variable {s}

lemma commit_of_succeeds {c : FabricCall} (h : s.succeeds c = true) : Commit s c (s.apply c) := by
  unfold succeeds at h
  unfold apply
  rcases call_cases s c with ⟨error, hcall⟩ | ⟨t, hcall, hcommit⟩
  · rw [hcall] at h
    cases h
  · rw [hcall]
    exact hcommit

lemma apply_of_not_succeeds {c : FabricCall} (h : s.succeeds c = false) : s.apply c = s := by
  unfold succeeds at h
  unfold apply
  rcases call_cases s c with ⟨error, hcall⟩ | ⟨t, hcall, _⟩
  · rw [hcall]
  · rw [hcall] at h
    cases h

end FabricOperationRegistry

end RackManagement
