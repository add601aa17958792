import RackManagement.Library.Runs
import RackManagement.Proofs.FabricInvariant

/-!
# Ownership of pending controllers

A pending controller stays with its operation, or the one that took it over, until the current owner
clears it.
-/

namespace RackManagement.FabricOperationRegistry

open Library FiniteMap

variable {s t : FabricOperationRegistry} {c : FabricCall} {controller : ControllerIdentity}
  {owner jobId : String}

def PendingUnder (operations : FiniteMap String FabricOperation) (controller : ControllerIdentity)
    (jobId : String) : Prop :=
  ∃ operation, operations.lookup jobId = some operation ∧ controller ∈ operation.pendingControllers

/-- The job to which a call hands the operation of `owner`. -/
def nextOwner (s : FabricOperationRegistry) (owner : String) (c : FabricCall) : String :=
  match c with
  | .admitOperation _ jobId (some previousJobId) =>
    if previousJobId = owner ∧ s.succeeds c = true then jobId else owner
  | _ => owner

/-- The registry together with the latest job in a chain of transfers. -/
def trackOwner (p : FabricOperationRegistry × String) (c : FabricCall) : FabricOperationRegistry × String :=
  (p.1.apply c, p.1.nextOwner p.2 c)

/-- A successful call by the current owner that ends a pending activation. -/
def ReleasesPending (controller : ControllerIdentity) (p : FabricOperationRegistry × String)
    (c : FabricCall) : Prop :=
  p.1.succeeds c = true ∧
  match c with
  | .clearInactive jobId other => jobId = p.2 ∧ other = controller
  | .recordActivation jobId other _ _ => jobId = p.2 ∧ other = controller
  | .releaseFailed jobId => jobId = p.2
  | _ => False

/-- The calls that only the job owning an operation may make. -/
def IsOwnerCall (jobId : String) : FabricCall → Prop
  | .markPending other _ => other = jobId
  | .clearInactive other _ => other = jobId
  | .recordActivation other _ _ _ => other = jobId
  | .finish other => other = jobId
  | .releaseFailed other => other = jobId
  | _ => False

def Admits (jobId : String) (s : FabricOperationRegistry) (c : FabricCall) : Prop :=
  s.succeeds c = true ∧ ∃ intent previousJobId, c = .admitOperation intent jobId previousJobId

lemma ne_of_lookup {operations : FiniteMap String FabricOperation} {operation : FabricOperation}
    (h : operations.lookup owner = some operation) (hnone : operations.lookup jobId = none) :
    owner ≠ jobId := by
  rintro rfl
  rw [h] at hnone
  cases hnone

section Table

variable {operations : FiniteMap String FabricOperation} {operation : FabricOperation}

lemma pendingUnder_insert_of_ne (h : PendingUnder operations controller owner) (hne : owner ≠ jobId) :
    PendingUnder (operations.insert jobId operation) controller owner := by
  obtain ⟨own, hown, hmem⟩ := h
  refine ⟨own, ?_, hmem⟩
  rw [lookup_insert_eq_ite, if_neg hne]
  exact hown

lemma pendingUnder_erase_of_ne (h : PendingUnder operations controller owner) (hne : owner ≠ jobId) :
    PendingUnder (operations.erase jobId) controller owner := by
  obtain ⟨own, hown, hmem⟩ := h
  refine ⟨own, ?_, hmem⟩
  rw [lookup_erase_eq_ite, if_neg hne]
  exact hown

lemma pendingUnder_insert_self (hmem : controller ∈ operation.pendingControllers) :
    PendingUnder (operations.insert jobId operation) controller jobId := by
  refine ⟨operation, ?_, hmem⟩
  rw [lookup_insert_eq_ite, if_pos rfl]

lemma pendingUnder_withPending (h : PendingUnder operations controller owner)
    (htracked : operations.lookup jobId = some operation) {pending : Finset ControllerIdentity}
    (hkept : owner = jobId → controller ∈ operation.pendingControllers → controller ∈ pending) :
    PendingUnder
      (operations.insert jobId { operation with pendingControllers := pending }) controller owner := by
  by_cases heq : owner = jobId
  · obtain ⟨own, hown, hmem⟩ := h
    rw [heq] at hown
    cases hown.symm.trans htracked
    rw [heq]
    exact pendingUnder_insert_self (hkept heq hmem)
  · exact pendingUnder_insert_of_ne h heq

end Table

lemma nextOwner_of_not_succeeds (h : s.succeeds c = false) : s.nextOwner owner c = owner := by
  unfold nextOwner
  split
  · rw [if_neg]
    rw [h]
    simp
  · rfl

lemma pendingUnder_apply (h : s.WellFormed) (hpending : PendingUnder s.operations controller owner)
    (hkept : ¬ReleasesPending controller (s, owner) c) :
    PendingUnder (s.apply c).operations controller (s.nextOwner owner c) := by
  by_cases hsucceeds : s.succeeds c = true
  · have hcommit := commit_of_succeeds hsucceeds
    obtain ⟨own, hown, hmem⟩ := hpending
    have hpending : PendingUnder s.operations controller owner := ⟨own, hown, hmem⟩
    unfold ReleasesPending at hkept
    unfold nextOwner
    simp only [hsucceeds, true_and] at hkept
    generalize s.apply c = t at hcommit
    cases hcommit with
    | admitted intent jobId keyed vacant free room =>
      exact pendingUnder_insert_of_ne hpending (ne_of_lookup hown vacant)
    | transferred intent jobId previousJobId holder operation vacant tracked howner same =>
      obtain rfl := h.key_eq tracked howner
      simp only [hsucceeds, and_true]
      split
      · rename_i heq
        subst heq
        cases hown.symm.trans tracked
        exact pendingUnder_insert_self hmem
      · rename_i hne
        have herased := pendingUnder_erase_of_ne hpending (fun he => hne he.symm)
        exact pendingUnder_insert_of_ne herased (ne_of_lookup hown vacant)
    | marked jobId controllers operation tracked free =>
      exact pendingUnder_withPending hpending tracked (fun _ => Finset.mem_union_left _)
    | cleared jobId other operation tracked =>
      apply pendingUnder_withPending hpending tracked
      intro heq hold
      have hne : controller ≠ other := fun he => hkept ⟨heq.symm, he.symm⟩
      exact Finset.mem_erase_of_ne_of_mem hne hold
    | recorded jobId other digest scopeKeys operation tracked pending =>
      apply pendingUnder_withPending hpending tracked
      intro heq hold
      have hne : controller ≠ other := fun he => hkept ⟨heq.symm, he.symm⟩
      exact Finset.mem_erase_of_ne_of_mem hne hold
    | finished jobId operation tracked verified =>
      have hne : owner ≠ jobId := by
        rintro rfl
        cases hown.symm.trans tracked
        rw [verified] at hmem
        exact absurd hmem (Finset.notMem_empty _)
      exact pendingUnder_erase_of_ne hpending hne
    | released jobId operation tracked =>
      have hne : owner ≠ jobId := fun he => hkept he.symm
      exact pendingUnder_erase_of_ne hpending hne
    | invalidated scopeKeys => exact hpending
  · have hfails : s.succeeds c = false := by simpa using hsucceeds
    rw [apply_of_not_succeeds hfails, nextOwner_of_not_succeeds hfails]
    exact hpending

lemma pendingUnder_markPending {controllers : List ControllerIdentity}
    (hsucceeds : s.succeeds (.markPending jobId controllers) = true) (hmem : controller ∈ controllers) :
    PendingUnder (s.apply (.markPending jobId controllers)).operations controller jobId := by
  have hcommit := commit_of_succeeds hsucceeds
  generalize s.apply (.markPending jobId controllers) = t at hcommit
  cases hcommit with
  | marked _ _ operation tracked free =>
    exact pendingUnder_insert_self (Finset.mem_union_right _ (List.mem_toFinset.mpr hmem))

lemma PendingUnder.unique (h : s.WellFormed) (hpending : PendingUnder s.operations controller owner)
    (hother : PendingUnder s.operations controller jobId) : jobId = owner := by
  obtain ⟨operation, hget, hmem⟩ := hpending
  obtain ⟨other, hget', hmem'⟩ := hother
  by_contra hne
  have hexclusive := h.operations.exclusive jobId owner other operation hget' hget hne
  exact Finset.disjoint_left.mp hexclusive hmem' hmem

lemma finish_of_pendingUnder (hpending : PendingUnder s.operations controller owner) :
    ∃ error, s.call (.finish owner) = (.error error, s) := by
  rcases call_cases s (.finish owner) with hfails | ⟨t, _, hcommit⟩
  · exact hfails
  · obtain ⟨own, hown, hmem⟩ := hpending
    cases hcommit with
    | finished _ operation tracked verified =>
      cases hown.symm.trans tracked
      rw [verified] at hmem
      exact absurd hmem (Finset.notMem_empty _)

lemma fst_foldl_trackOwner (p : FabricOperationRegistry × String) (calls : List FabricCall) :
    (calls.foldl trackOwner p).1 = calls.foldl FabricOperationRegistry.apply p.1 := by
  induction calls generalizing p with
  | nil => rfl
  | cons c calls ih => exact ih (trackOwner p c)

lemma lookup_apply_of_none (hnone : s.operations.lookup jobId = none) (hnot : ¬Admits jobId s c) :
    (s.apply c).operations.lookup jobId = none := by
  by_cases hsucceeds : s.succeeds c = true
  · have hcommit := commit_of_succeeds hsucceeds
    generalize s.apply c = t at hcommit
    have hinsert :
        ∀ (operations : FiniteMap String FabricOperation) (other : String) (operation : FabricOperation),
        operations.lookup jobId = none → other ≠ jobId →
        (operations.insert other operation).lookup jobId = none := by
      intro operations other operation hold hne
      rw [lookup_insert_eq_ite, if_neg hne.symm]
      exact hold
    have herase : ∀ other, (s.operations.erase other).lookup jobId = none := by
      intro other
      rw [lookup_erase_eq_ite, hnone, ite_self]
    cases hcommit with
    | admitted intent other keyed vacant free room =>
      apply hinsert _ _ _ hnone
      rintro rfl
      exact hnot ⟨hsucceeds, intent, none, rfl⟩
    | transferred intent other previousJobId holder operation vacant tracked howner same =>
      apply hinsert _ _ _ (herase previousJobId)
      rintro rfl
      exact hnot ⟨hsucceeds, intent, some previousJobId, rfl⟩
    | marked other controllers operation tracked free =>
      exact hinsert _ _ _ hnone (ne_of_lookup tracked hnone)
    | cleared other controller operation tracked => exact hinsert _ _ _ hnone (ne_of_lookup tracked hnone)
    | recorded other controller digest scopeKeys operation tracked pending =>
      exact hinsert _ _ _ hnone (ne_of_lookup tracked hnone)
    | finished other operation tracked verified => exact herase other
    | released other operation tracked => exact herase other
    | invalidated scopeKeys => exact hnone
  · rw [apply_of_not_succeeds (by simpa using hsucceeds)]
    exact hnone

lemma lookup_transferred {intent : FabricOperationIntent} {previousJobId : String} (h : s.WellFormed)
    (hsucceeds : s.succeeds (.admitOperation intent jobId (some previousJobId)) = true) :
    (s.apply (.admitOperation intent jobId (some previousJobId))).operations.lookup previousJobId =
      none := by
  have hcommit := commit_of_succeeds hsucceeds
  generalize s.apply (.admitOperation intent jobId (some previousJobId)) = t at hcommit
  cases hcommit with
  | transferred _ _ _ holder operation vacant tracked howner same =>
    obtain rfl := h.key_eq tracked howner
    rw [lookup_insert_eq_ite, if_neg (ne_of_lookup tracked vacant), lookup_erase_eq_ite,
      if_pos rfl]

lemma ownerCall_fails (hnone : s.operations.lookup jobId = none) (hcall : IsOwnerCall jobId c) :
    ∃ error, s.call c = (.error error, s) := by
  rcases call_cases s c with hfails | ⟨t, _, hcommit⟩
  · exact hfails
  · exfalso
    cases hcommit with
    | admitted intent other keyed vacant free room => exact hcall
    | transferred intent other previousJobId holder operation vacant tracked howner same => exact hcall
    | invalidated scopeKeys => exact hcall
    | marked other controllers operation tracked free => exact ne_of_lookup tracked hnone hcall
    | cleared other controller operation tracked => exact ne_of_lookup tracked hnone hcall
    | recorded other controller digest scopeKeys operation tracked pending =>
      exact ne_of_lookup tracked hnone hcall
    | finished other operation tracked verified => exact ne_of_lookup tracked hnone hcall
    | released other operation tracked => exact ne_of_lookup tracked hnone hcall

/-- A marked controller stays pending under the current owner in the chain of transfers until that
owner releases it. Every call of a superseded job fails and changes nothing. -/
theorem pending_kept_and_stale_owner_fenced (before rest : List FabricCall) :
    (∀ jobId controllers controller, (after before).succeeds (.markPending jobId controllers) = true →
      controller ∈ controllers →
      Throughout trackOwner (fun p c => ¬ReleasesPending controller p c)
        (after (before ++ [.markPending jobId controllers]), jobId) rest →
      let s := after (before ++ .markPending jobId controllers :: rest)
      let owner := (rest.foldl trackOwner (after (before ++ [.markPending jobId controllers]), jobId)).2
      PendingUnder s.operations controller owner ∧
      (∀ other, PendingUnder s.operations controller other → other = owner) ∧
      ∃ error, s.call (.finish owner) = (.error error, s)) ∧
    (∀ intent jobId previousJobId,
      (after before).succeeds (.admitOperation intent jobId (some previousJobId)) = true →
      Throughout FabricOperationRegistry.apply (fun s c => ¬Admits previousJobId s c)
        (after (before ++ [.admitOperation intent jobId (some previousJobId)])) rest →
      let s := after (before ++ .admitOperation intent jobId (some previousJobId) :: rest)
      ∀ c, IsOwnerCall previousJobId c → ∃ error, s.call c = (.error error, s)) := by
  have hsnoc : ∀ c, after (before ++ [c]) = (after before).apply c := by
    intro c
    unfold after
    rw [List.foldl_append]
    rfl
  have hsplit :
      ∀ c, after (before ++ c :: rest) =
        rest.foldl FabricOperationRegistry.apply (after (before ++ [c])) := by
    intro c
    unfold after
    rw [← List.foldl_append, List.append_assoc, List.singleton_append]
  constructor
  · intro jobId controllers controller hsucceeds hmem hkept
    let I : FabricOperationRegistry × String → Prop := fun p =>
      p.1.WellFormed ∧ PendingUnder p.1.operations controller p.2
    have hstart : I (after (before ++ [.markPending jobId controllers]), jobId) := by
      refine ⟨wellFormed_after _, ?_⟩
      rw [hsnoc]
      exact pendingUnder_markPending hsucceeds hmem
    have hstep : ∀ p c, I p → ¬ReleasesPending controller p c → I (trackOwner p c) :=
      fun p c hp hnot => ⟨hp.1.apply c, pendingUnder_apply hp.1 hp.2 hnot⟩
    obtain ⟨hwell, hpending⟩ := foldl_invariant_throughout hstep hstart hkept
    rw [fst_foldl_trackOwner, ← hsplit] at hwell hpending
    exact ⟨hpending, fun other hother => hpending.unique hwell hother, finish_of_pendingUnder hpending⟩
  · intro intent jobId previousJobId hsucceeds hkept
    have hstart : (after (before ++ [.admitOperation intent jobId (some previousJobId)])).operations.lookup
        previousJobId = none := by
      rw [hsnoc]
      exact lookup_transferred (wellFormed_after before) hsucceeds
    let Vacated : FabricOperationRegistry → Prop := fun s => s.operations.lookup previousJobId = none
    have hstep : ∀ s c, Vacated s → ¬Admits previousJobId s c → Vacated (s.apply c) :=
      fun s c hs hnot => lookup_apply_of_none hs hnot
    have hnone := foldl_invariant_throughout hstep hstart hkept
    rw [← hsplit] at hnone
    intro s c hcall
    exact ownerCall_fails hnone hcall

/-- An operation with one pending controller, which a second job takes over. -/
def takeover : List FabricCall :=
  [.admitOperation ⟨["switch"], "rule"⟩ "first" none, .markPending "first" [⟨"chassis", 1⟩],
    .admitOperation ⟨["switch"], "rule"⟩ "second" (some "first")]

theorem takeover_pending_and_fenced : PendingUnder (after takeover).operations ⟨"chassis", 1⟩ "second" ∧
    (∃ error, (after takeover).call (.finish "second") = (.error error, after takeover)) ∧
    ∃ error, (after takeover).call (.clearInactive "first" ⟨"chassis", 1⟩) =
      (.error error, after takeover) := by
  have hpending := (pending_kept_and_stale_owner_fenced [.admitOperation ⟨["switch"], "rule"⟩ "first" none]
    [.admitOperation ⟨["switch"], "rule"⟩ "second" (some "first")]).1 "first" [⟨"chassis", 1⟩]
      ⟨"chassis", 1⟩
    (by decide) (by decide) ⟨fun hreleases => hreleases.2, trivial⟩
  have hfenced := (pending_kept_and_stale_owner_fenced
    [.admitOperation ⟨["switch"], "rule"⟩ "first" none, .markPending "first" [⟨"chassis", 1⟩]] []).2
    ⟨["switch"], "rule"⟩ "second" "first" (by decide) trivial
  exact ⟨hpending.1, hpending.2.2, hfenced _ rfl⟩

end RackManagement.FabricOperationRegistry
