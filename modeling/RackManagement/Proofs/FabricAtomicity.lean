import Mathlib.Data.Finset.Lattice.Lemmas
import RackManagement.Model.FabricTransactions

/-!
# Failures of the registry's calls are atomic

Each body is a sequence of checks followed by writes that cannot fail, except that of
`release_failed`, whose removal has no effect when it fails.
-/

namespace RackManagement

open Library

namespace FabricTransaction

open FabricOperationRegistry

lemma readOnly_operationOf (jobId : String) : ReadOnly (operationOf jobId) := by
  intro s
  exact readOnly_okOr ownerChanged (s.operations.lookup jobId) s

lemma neverFails_removePrevious (previousJobId : Option String) :
    NeverFails (removePrevious previousJobId) := by
  cases previousJobId with
  | none => exact neverFails_pure ()
  | some previousJobId => exact neverFails_modify _

lemma failureAtomic_admitOperation (intent : FabricOperationIntent) (jobId : String)
    (previousJobId : Option String) : FailureAtomic (admitOperation intent jobId previousJobId) := by
  unfold admitOperation
  apply (readOnly_fromExcept _).bind_failureAtomic
  intro normal
  apply (readOnly_refuseIf _ _).bind_failureAtomic
  intro _
  apply readOnly_get.bind_failureAtomic
  intro s
  apply (readOnly_refuseIf _ _).bind_failureAtomic
  intro _
  apply (readOnly_refuseIf _ _).bind_failureAtomic
  intro _
  apply (readOnly_fromExcept _).bind_failureAtomic
  intro pendingControllers
  apply NeverFails.failureAtomic
  apply (neverFails_removePrevious previousJobId).bind
  intro _
  apply (neverFails_modify _).bind
  intro _
  exact neverFails_pure _

variable (jobId : String)

lemma failureAtomic_markPending (controllers : List ControllerIdentity) :
    FailureAtomic (markPending jobId controllers) := by
  unfold markPending
  apply readOnly_get.bind_failureAtomic
  intro s
  apply (readOnly_refuseIf _ _).bind_failureAtomic
  intro _
  apply (readOnly_refuseIf _ _).bind_failureAtomic
  intro _
  apply (readOnly_operationOf jobId).bind_failureAtomic
  intro _
  apply NeverFails.failureAtomic
  apply (neverFails_modify _).bind
  intro _
  exact neverFails_modify _

lemma failureAtomic_clearInactive (controller : ControllerIdentity) :
    FailureAtomic (clearInactive jobId controller) := by
  unfold clearInactive
  apply (readOnly_operationOf jobId).bind_failureAtomic
  intro _
  exact (neverFails_modify _).failureAtomic

lemma failureAtomic_recordActivation (controller : ControllerIdentity) (digest : String)
    (scopeKeys : List String) : FailureAtomic (recordActivation jobId controller digest scopeKeys) := by
  unfold recordActivation
  apply (readOnly_refuseIf _ _).bind_failureAtomic
  intro _
  apply (readOnly_operationOf jobId).bind_failureAtomic
  intro operation
  apply (readOnly_refuseIf _ _).bind_failureAtomic
  intro _
  apply (readOnly_refuseIf _ _).bind_failureAtomic
  intro _
  apply NeverFails.failureAtomic
  apply (neverFails_modify _).bind
  intro _
  apply (neverFails_modify _).bind
  intro _
  apply (neverFails_modify _).bind
  intro _
  exact neverFails_modify _

lemma failureAtomic_finish : FailureAtomic (finish jobId) := by
  unfold finish
  apply (readOnly_operationOf jobId).bind_failureAtomic
  intro operation
  apply (readOnly_refuseIf _ _).bind_failureAtomic
  intro _
  exact (neverFails_modify _).failureAtomic

lemma failureAtomic_releaseFailed : FailureAtomic (releaseFailed jobId) := by
  intro s error t h
  change (okOr ownerChanged (s.operations.lookup jobId) >>= fun operation =>
    retainProofs (fun proof => proof.controller ∉ operation.pendingControllers))
      { s with operations := s.operations.erase jobId } = .error error t at h
  cases htracked : s.operations.lookup jobId with
  | none =>
    -- The removal of a key without an entry leaves the map as it is.
    rw [htracked] at h
    cases h
    rw [FiniteMap.erase_of_lookup_none _ _ htracked]
  | some operation =>
    rw [htracked] at h
    cases h

lemma failureAtomic_invalidateAndRequireClear (scopeKeys : List String) :
    FailureAtomic (invalidateAndRequireClear scopeKeys) := by
  unfold invalidateAndRequireClear
  apply (readOnly_refuseIf _ _).bind_failureAtomic
  intro _
  apply readOnly_get.bind_failureAtomic
  intro s
  apply (readOnly_refuseIf _ _).bind_failureAtomic
  intro _
  exact (neverFails_modify _).failureAtomic

/-! The bodies compute the calls. -/

lemma outcome_operationOf_bind {α : Type} (jobId : String) (f : FabricOperation → FabricTransaction α)
    (s : FabricOperationRegistry) :
    outcome ((operationOf jobId >>= f) s) = match s.operations.lookup jobId with
      | none => (.error ownerChanged, s)
      | some operation => outcome (f operation s) := by
  unfold operationOf
  rw [bind_assoc, outcome_get_bind, outcome_okOr_bind]
  cases s.operations.lookup jobId <;> rfl

lemma outcome_admitOperation (s : FabricOperationRegistry) (intent : FabricOperationIntent) (jobId : String)
    (previousJobId : Option String) :
    outcome (admitOperation intent jobId previousJobId s) =
      s.admitOperation intent jobId previousJobId := by
  have hsecond (overlapping : List FabricOperation) :
      overlapping.tail.head?.isSome = decide (1 < overlapping.length) := by
    match overlapping with
    | [] => rfl
    | [_] => rfl
    | _ :: _ :: _ => simp
  unfold admitOperation FabricOperationRegistry.admitOperation
  rw [outcome_fromExcept_bind]
  cases intent.normalize with
  | error error => rfl
  | ok normal =>
    simp only [outcome_refuseIf_bind, outcome_get_bind, outcome_fromExcept_bind, hsecond, decide_eq_true_eq]
    congr 3
    cases s.admissionPending normal _ previousJobId with
    | error error => rfl
    | ok pendingControllers => cases previousJobId <;> rfl

lemma foldl_insert_eq_union (controllers : List ControllerIdentity) (pending : Finset ControllerIdentity) :
    controllers.foldl (fun pending controller => insert controller pending) pending =
      pending ∪ controllers.toFinset := by
  induction controllers generalizing pending with
  | nil => simp
  | cons controller controllers ih =>
    rw [List.foldl_cons, ih, List.toFinset_cons, Finset.insert_union, Finset.union_insert]

variable (s : FabricOperationRegistry)

lemma outcome_markPending (jobId : String) (controllers : List ControllerIdentity) :
    outcome (markPending jobId controllers s) = s.markPending jobId controllers := by
  unfold markPending FabricOperationRegistry.markPending writePending
  simp only [outcome_get_bind, outcome_refuseIf_bind, outcome_operationOf_bind, outcome_modify_bind]
  cases htracked : s.operations.lookup jobId with
  | none => rfl
  | some operation =>
    simp only [Option.isNone_some, Bool.false_eq_true, ↓reduceIte, foldl_insert_eq_union]
    rfl

lemma outcome_clearInactive (jobId : String) (controller : ControllerIdentity) :
    outcome (clearInactive jobId controller s) = s.clearInactive jobId controller := by
  unfold clearInactive FabricOperationRegistry.clearInactive writePending
  simp only [outcome_operationOf_bind, outcome_modify]
  cases s.operations.lookup jobId <;> rfl

lemma outcome_recordActivation (jobId : String) (controller : ControllerIdentity)
    (digest : String) (scopeKeys : List String) :
    outcome (recordActivation jobId controller digest scopeKeys s) =
      s.recordActivation jobId controller digest scopeKeys := by
  unfold recordActivation FabricOperationRegistry.recordActivation
  unfold writePending retainProofs pushBackProof evictOldestProof publishProof
  simp only [outcome_refuseIf_bind, outcome_operationOf_bind, outcome_modify_bind, outcome_modify]
  congr 1
  cases s.operations.lookup jobId with
  | none => rfl
  | some operation =>
    simp only [decide_eq_true_eq]
    congr 3
    split <;> rfl

lemma outcome_finish (jobId : String) : outcome (finish jobId s) = s.finish jobId := by
  unfold finish FabricOperationRegistry.finish removeOperation
  rw [outcome_operationOf_bind]
  cases s.operations.lookup jobId with
  | none => rfl
  | some operation => simp only [outcome_refuseIf_bind, outcome_modify, decide_eq_true_eq]

lemma outcome_releaseFailed (jobId : String) : outcome (releaseFailed jobId s) = s.releaseFailed jobId := by
  unfold releaseFailed FabricOperationRegistry.releaseFailed removeOperation retainProofs
  simp only [outcome_get_bind, outcome_modify_bind, outcome_okOr_bind, outcome_modify]
  cases htracked : s.operations.lookup jobId with
  | none => simp only [FiniteMap.erase_of_lookup_none _ _ htracked]
  | some operation => rfl

lemma outcome_invalidateAndRequireClear (scopeKeys : List String) :
    outcome (invalidateAndRequireClear scopeKeys s) = s.invalidateAndRequireClear scopeKeys := by
  unfold invalidateAndRequireClear FabricOperationRegistry.invalidateAndRequireClear retainProofs
  simp only [outcome_get_bind, outcome_refuseIf_bind, outcome_modify]

end FabricTransaction

namespace FabricCall

lemma outcome_transaction (s : FabricOperationRegistry) (c : FabricCall) :
    outcome (c.transaction s) = s.call c := by
  cases c with
  | admitOperation intent jobId previousJobId =>
    have h := FabricTransaction.outcome_admitOperation s intent jobId previousJobId
    simp only [transaction, FabricOperationRegistry.call, ← h, bind_apply]
    cases FabricTransaction.admitOperation intent jobId previousJobId s <;> rfl
  | markPending jobId controllers => exact FabricTransaction.outcome_markPending s jobId controllers
  | clearInactive jobId controller => exact FabricTransaction.outcome_clearInactive s jobId controller
  | recordActivation jobId controller digest scopeKeys =>
    exact FabricTransaction.outcome_recordActivation s jobId controller digest scopeKeys
  | finish jobId => exact FabricTransaction.outcome_finish s jobId
  | releaseFailed jobId => exact FabricTransaction.outcome_releaseFailed s jobId
  | invalidateAndRequireClear scopeKeys =>
    exact FabricTransaction.outcome_invalidateAndRequireClear s scopeKeys

lemma failureAtomic_transaction (c : FabricCall) : FailureAtomic c.transaction := by
  cases c with
  | admitOperation intent jobId previousJobId =>
    have hatomic := FabricTransaction.failureAtomic_admitOperation intent jobId previousJobId
    exact hatomic.bind_neverFails (fun _ => neverFails_pure ())
  | markPending jobId controllers => exact FabricTransaction.failureAtomic_markPending jobId controllers
  | clearInactive jobId controller => exact FabricTransaction.failureAtomic_clearInactive jobId controller
  | recordActivation jobId controller digest scopeKeys =>
    exact FabricTransaction.failureAtomic_recordActivation jobId controller digest scopeKeys
  | finish jobId => exact FabricTransaction.failureAtomic_finish jobId
  | releaseFailed jobId => exact FabricTransaction.failureAtomic_releaseFailed jobId
  | invalidateAndRequireClear scopeKeys =>
    exact FabricTransaction.failureAtomic_invalidateAndRequireClear scopeKeys

/-- A call that returns an error leaves the operations and the proofs as they were. -/
theorem failed_call_leaves_registry {s t : FabricOperationRegistry} {c : FabricCall} {error : RmsError}
    (h : c.transaction s = .error error t) :
    t.operations = s.operations ∧ t.proofs = s.proofs ∧ s.call c = (.error error, s) := by
  have hsame : t = s := failureAtomic_transaction c s error t h
  have hcall := outcome_transaction s c
  rw [h, hsame] at hcall
  subst hsame
  exact ⟨rfl, rfl, hcall.symm⟩

def twoOwners : FabricOperationRegistry :=
  FabricOperationRegistry.after
    [.admitOperation ⟨["left"], "rule"⟩ "job-1" none, .admitOperation ⟨["right"], "rule"⟩ "job-2" none,
      .markPending "job-1" [⟨"rack", 1⟩], .recordActivation "job-1" ⟨"rack", 1⟩ "digest" ["left"],
      .markPending "job-2" [⟨"rack", 2⟩]]

/-- A batch refused for its last controller keeps the proof of its first one. -/
theorem refused_batch_leaves_registry :
    (markPending "job-1" [⟨"rack", 1⟩, ⟨"rack", 2⟩]).transaction twoOwners =
      .error (.alreadyExists "controller activation is pending under another fabric operation") twoOwners ∧
    twoOwners.call (markPending "job-1" [⟨"rack", 1⟩, ⟨"rack", 2⟩]) =
      (.error (.alreadyExists "controller activation is pending under another fabric operation"),
        twoOwners) :=
  ⟨rfl, (failed_call_leaves_registry
    (c := markPending "job-1" [⟨"rack", 1⟩, ⟨"rack", 2⟩]) (s := twoOwners) rfl).2.2⟩

end FabricCall

end RackManagement
