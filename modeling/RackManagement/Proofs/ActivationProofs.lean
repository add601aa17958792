import RackManagement.Library.Runs
import RackManagement.Proofs.FabricInvariant

/-! # Which activation proofs are retained -/

namespace RackManagement.FabricOperationRegistry

open Library List

variable {s : FabricOperationRegistry} {proof : ActivationProof}

/-- A publication that pushes out the proof of the controller as the oldest. -/
def Evicts (s : FabricOperationRegistry) (controller : ControllerIdentity)
    (published : ActivationProof) : Prop :=
  let retained := withProof s.proofs published
  maxActivationProofs < retained.length ∧ retained.head?.map ActivationProof.controller = some controller

/-- A successful call that takes away the proof of a controller with the given keys. -/
def EndsProof (controller : ControllerIdentity) (scopeKeys : List String) (s : FabricOperationRegistry)
    (c : FabricCall) : Prop :=
  s.succeeds c = true ∧
  match c with
  | .markPending _ controllers => controller ∈ controllers
  | .recordActivation _ other digest keys =>
    other = controller ∨ s.Evicts controller ⟨other, digest, sortDedup keys⟩
  | .invalidateAndRequireClear keys => ∃ key ∈ scopeKeys, key ∈ keys
  | _ => False

def PublishesProof (proof : ActivationProof) (s : FabricOperationRegistry) (c : FabricCall) : Prop :=
  ∃ jobId keys, c = .recordActivation jobId proof.controller proof.digest keys ∧ s.succeeds c = true ∧
    sortDedup keys = proof.scopeKeys

lemma mem_publishProof (hsingle : (s.proofs.map ActivationProof.controller).Nodup)
    (published : ActivationProof) :
    proof ∈ publishProof s.proofs published ↔ proof = published ∨
      (proof ∈ s.proofs ∧ proof.controller ≠ published.controller ∧
        ¬s.Evicts proof.controller published) := by
  have hnodup := nodup_withProof hsingle published
  rw [publishProof_eq]
  unfold Evicts
  by_cases hfull : (withProof s.proofs published).length > maxActivationProofs
  · rw [if_pos hfull]
    -- The proofs before the new one are not empty, and the first of them goes.
    cases hothers : s.proofs.filter (fun other => other.controller != published.controller) with
    | nil =>
      rw [withProof, hothers, nil_append, length_singleton] at hfull
      exact absurd hfull (by decide)
    | cons oldest others =>
      have hlist : withProof s.proofs published = oldest :: (others ++ [published]) := by
        rw [withProof, hothers, cons_append]
      have hmem :
          (proof ∈ s.proofs ∧ proof.controller ≠ published.controller) ↔ proof ∈ oldest :: others := by
        rw [← hothers, mem_filter, bne_iff_ne]
      rw [hlist, map_cons, nodup_cons, map_append, mem_append, not_or] at hnodup
      simp only [hlist, tail_cons, mem_append, mem_singleton, head?_cons, Option.map_some,
        Option.some.injEq] at hfull ⊢
      rw [← and_assoc, hmem, mem_cons]
      constructor
      · rintro (hother | rfl)
        · refine .inr ⟨.inr hother, fun hevicted => hnodup.1.1 ?_⟩
          rw [hevicted.2]
          exact mem_map_of_mem hother
        · exact .inl rfl
      · rintro (rfl | ⟨rfl | hother, hkept⟩)
        · exact .inr rfl
        · exact absurd ⟨hfull, rfl⟩ hkept
        · exact .inl hother
  · rw [if_neg hfull, mem_withProof]
    constructor
    · rintro (⟨hmem, hne⟩ | rfl)
      · exact .inr ⟨hmem, hne, fun hevicted => hfull hevicted.1⟩
      · exact .inl rfl
    · rintro (rfl | ⟨hmem, hne, _⟩)
      · exact .inr rfl
      · exact .inl ⟨hmem, hne⟩

lemma mem_proofs_apply (h : s.WellFormed) (c : FabricCall) (proof : ActivationProof) :
    proof ∈ (s.apply c).proofs ↔ PublishesProof proof s c ∨
      (proof ∈ s.proofs ∧ ¬EndsProof proof.controller proof.scopeKeys s c) := by
  by_cases hsucceeds : s.succeeds c = true
  · have hcommit := commit_of_succeeds hsucceeds
    unfold PublishesProof EndsProof
    simp only [hsucceeds, true_and]
    generalize s.apply c = t at hcommit
    cases hcommit with
    | admitted intent jobId keyed vacant free room => simp
    | transferred intent jobId previousJobId holder operation vacant tracked owner same => simp
    | marked jobId controllers operation tracked free => simp
    | cleared jobId controller operation tracked => simp [withPending]
    | finished jobId operation tracked verified => simp
    | invalidated scopeKeys => simp
    | released jobId operation tracked =>
      have hkept := h.unproven jobId operation tracked proof
      simp only [mem_filter, decide_eq_true_eq, reduceCtorEq, false_and, exists_false, not_false_eq_true,
        and_true, false_or]
      exact ⟨fun hmem => hmem.1, fun hmem => ⟨hmem, hkept hmem⟩⟩
    | recorded jobId controller digest scopeKeys operation tracked pending =>
      have hpublished : (∃ other keys, FabricCall.recordActivation jobId controller digest scopeKeys =
          .recordActivation other proof.controller proof.digest keys ∧ sortDedup keys = proof.scopeKeys) ↔
          proof = ⟨controller, digest, sortDedup scopeKeys⟩ := by
        constructor
        · rintro ⟨_, keys, hcall, hkeys⟩
          obtain ⟨_, hcontroller, hdigest, hscope⟩ := FabricCall.recordActivation.inj hcall
          rw [hcontroller, hdigest, hscope, hkeys]
        · rintro rfl
          exact ⟨jobId, scopeKeys, rfl, rfl⟩
      rw [mem_publishProof h.single, hpublished, not_or, ne_comm]
  · have hfails : s.succeeds c = false := by simpa using hsucceeds
    rw [apply_of_not_succeeds hfails]
    simp [PublishesProof, EndsProof, hfails]

def publishedBy (s : FabricOperationRegistry) (c : FabricCall) : List ActivationProof :=
  if s.succeeds c then
    match c with
    | .recordActivation _ controller digest scopeKeys => [⟨controller, digest, sortDedup scopeKeys⟩]
    | _ => []
  else []

def published (s : FabricOperationRegistry) : List FabricCall → List ActivationProof
  | [] => []
  | c :: calls => s.publishedBy c ++ published (s.apply c) calls

lemma proofs_apply_sublist (s : FabricOperationRegistry) (c : FabricCall) :
    (s.apply c).proofs.Sublist (s.proofs ++ s.publishedBy c) := by
  unfold publishedBy
  by_cases hsucceeds : s.succeeds c = true
  · have hcommit := commit_of_succeeds hsucceeds
    rw [if_pos hsucceeds]
    generalize s.apply c = t at hcommit
    cases hcommit with
    | recorded jobId controller digest scopeKeys operation tracked pending =>
      exact (publishProof_sublist _ _).trans (filter_sublist.append_right _)
    | marked jobId controllers operation tracked free =>
      rw [append_nil]
      exact filter_sublist
    | released jobId operation tracked =>
      rw [append_nil]
      exact filter_sublist
    | invalidated scopeKeys =>
      rw [append_nil]
      exact filter_sublist
    | _ => exact sublist_append_left _ _
  · rw [if_neg hsucceeds, apply_of_not_succeeds (by simpa using hsucceeds), append_nil]

lemma proofs_foldl_sublist (s : FabricOperationRegistry) (calls : List FabricCall) :
    (calls.foldl FabricOperationRegistry.apply s).proofs.Sublist (s.proofs ++ s.published calls) := by
  induction calls generalizing s with
  | nil => rw [published, append_nil, foldl_nil]
  | cons c calls ih =>
    rw [published, ← append_assoc]
    exact (ih (s.apply c)).trans ((proofs_apply_sublist s c).append_right _)

/-- A proof is retained exactly if a successful call published it and no later call ended it; proofs
stand in the order of their publication. -/
theorem hasActivationProof_iff_published (calls : List FabricCall) (controller : ControllerIdentity)
    (digest : String) :
    ((after calls).hasActivationProof controller digest = true ↔
      ∃ before jobId keys rest, calls = before ++ .recordActivation jobId controller digest keys :: rest ∧
        (after before).succeeds (.recordActivation jobId controller digest keys) = true ∧
        Throughout FabricOperationRegistry.apply (fun s c => ¬EndsProof controller keys s c)
          (after (before ++ [.recordActivation jobId controller digest keys])) rest) ∧
    (after calls).proofs.Sublist (empty.published calls) := by
  refine ⟨?_, proofs_foldl_sublist empty calls⟩
  have hhistory : ∀ proof, proof ∈ (after calls).proofs ↔ ∃ before c rest, calls = before ++ c :: rest ∧
      PublishesProof proof (after before) c ∧ Throughout FabricOperationRegistry.apply
        (fun s c => ¬EndsProof proof.controller proof.scopeKeys s c) (after (before ++ [c])) rest := by
    intro proof
    let Retained : FabricOperationRegistry → Prop := fun s => proof ∈ s.proofs
    have hstep : ∀ s c, WellFormed s → (Retained (s.apply c) ↔ PublishesProof proof s c ∨
        (Retained s ∧ ¬EndsProof proof.controller proof.scopeKeys s c)) :=
      fun s c h => mem_proofs_apply h c proof
    have habsent : ¬Retained empty := not_mem_nil
    exact present_iff_added (fun s c h => h.apply c) hstep wellFormed_empty habsent calls
  have hkeys : ∀ keys : List String, EndsProof controller (sortDedup keys) = EndsProof controller keys := by
    intro keys
    unfold EndsProof
    funext s c
    simp only [mem_sortDedup]
  constructor
  · intro hproof
    obtain ⟨proof, hmem, hsame⟩ := any_eq_true.mp hproof
    obtain ⟨rfl, rfl⟩ : proof.controller = controller ∧ proof.digest = digest := by simpa using hsame
    obtain ⟨before, _, rest, hcalls, ⟨jobId, keys, rfl, hsucceeds, hscope⟩, hkept⟩ :=
      (hhistory proof).mp hmem
    refine ⟨before, jobId, keys, rest, hcalls, hsucceeds, ?_⟩
    rw [← hkeys, hscope]
    exact hkept
  · rintro ⟨before, jobId, keys, rest, hcalls, hsucceeds, hkept⟩
    have hmem : ⟨controller, digest, sortDedup keys⟩ ∈ (after calls).proofs := by
      apply (hhistory _).mpr
      refine ⟨before, _, rest, hcalls, ⟨jobId, keys, rfl, hsucceeds, rfl⟩, ?_⟩
      rw [hkeys]
      exact hkept
    exact any_eq_true.mpr ⟨_, hmem, by simp⟩

end RackManagement.FabricOperationRegistry
