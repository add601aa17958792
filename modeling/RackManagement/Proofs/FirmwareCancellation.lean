import RackManagement.Proofs.FirmwareIncarnations

/-!
# Deletes and running preparations

An add puts its token into the map after it created the row, so a delete in between does not cancel
it, and a delete takes the token out of the map before it cancels it. If the calls keep out of each
other's way, a delete stops the only add that is alive.
-/

namespace RackManagement

open Library FiniteMap

@[simp] def WorkerPhase.isFinished : WorkerPhase → Bool
  | .finished => true
  | _ => false

lemma WorkerPhase.isFinished_eq_false {phase : WorkerPhase} (h : phase ≠ .finished) :
    phase.isFinished = false := by
  cases phase with
  | finished => exact absurd rfl h
  | _ => rfl

namespace AddPhase

@[simp] def isUnregistered : AddPhase → Bool
  | .created | .selected _ => true
  | _ => false

@[simp] def isRunning : AddPhase → Bool
  | .spawned _ worker => !worker.phase.isFinished
  | _ => false

end AddPhase

namespace DeletePhase

@[simp] def isWithdrawing : DeletePhase → Bool
  | .taken _ | .cancelled => true
  | _ => false

/-- The token that the delete has taken and not yet cancelled. -/
@[simp] def token : DeletePhase → Option Nat
  | .taken token => some token
  | _ => none

end DeletePhase

lemma isRunning_of_step {firmware : FirmwareObject} {w w' : Worker} {cancelled : Bool}
    {cached : Finset String}
    {action : PreparationStep} {effect : FileEffect}
    (h : w.step cancelled cached action = some (w', effect))
    (hrunning : (AddPhase.spawned firmware w').isRunning = true) :
    (AddPhase.spawned firmware w).isRunning = true := by
  cases Worker.step_phase h with
  | kept hkept =>
    rw [AddPhase.isRunning, hkept] at hrunning
    exact hrunning
  | collected result hbefore => simp [hbefore]
  | decided result hbefore => simp [hbefore]

namespace FirmwareService

variable {s t : FirmwareService} {action : StoreAction} {call : Nat} {add : AddCall}

/-- The call may still put its token into the map, or its task runs on. -/
def Live (s : FirmwareService) (call : Nat) (add : AddCall) : Prop :=
  add.phase.isUnregistered = true ∨ add.phase.isRunning = true ∧ call ∉ s.cancelledTokens

/-- A call never becomes alive again, and its task runs from the step that puts its token into the map. -/
structure Continues (s : FirmwareService) (action : StoreAction) (t : FirmwareService) (call : Nat)
    (before after : AddCall) : Prop where
  request : after.request = before.request
  live : t.Live call after → s.Live call before
  running : after.phase.isRunning = true → before.phase.isRunning = true ∨
    action = .completes (.register call) ∧ t.cancellations.lookup before.objectId = some call

variable {after : AddCall} {other : Nat} {id : String} {actions : List StoreAction} {before : DeleteCall}

lemma Continues.objectId {before : AddCall} (h : Continues s action t call before after) :
    after.objectId = before.objectId := by
  unfold AddCall.objectId
  rw [h.request]

lemma continues_setAdd (hafter : t.adds.lookup other = some after)
    (hadd : s.adds.lookup call = some add) {phase : AddPhase}
    (hunregistered : phase.isUnregistered = true → add.phase.isUnregistered = true)
    (hrunning : phase.isRunning = true → add.phase.isRunning = true)
    (ht : t.adds = (s.setAdd call add phase).adds) (htokens : t.cancelledTokens = s.cancelledTokens) :
    ∃ before, s.adds.lookup other = some before ∧ Continues s action t other before after := by
  rw [ht] at hafter
  rcases lookup_insert_eq_some hafter with ⟨rfl, rfl⟩ | ⟨_, hold⟩
  · refine ⟨add, hadd, rfl, ?_, fun hrun => .inl (hrunning hrun)⟩
    unfold Live
    rw [htokens]
    exact Or.imp hunregistered (And.imp_left hrunning)
  · refine ⟨after, hold, rfl, ?_, .inl⟩
    unfold Live
    rw [htokens]
    exact fun h => h

lemma Continues.refl (action : StoreAction) (call : Nat) (add : AddCall)
    (htokens : ∀ token ∈ s.cancelledTokens, token ∈ t.cancelledTokens) :
    Continues s action t call add add :=
  ⟨rfl, Or.imp_right (And.imp_right (fun hnot hold => hnot (htokens call hold))), .inl⟩

@[simp] lemma withFiles_cancelledTokens (s : FirmwareService) (id : String) (effect : FileEffect) :
    (s.withFiles id effect).cancelledTokens = s.cancelledTokens := by
  cases effect <;> rfl

@[simp] lemma withFiles_cancellations (s : FirmwareService) (id : String) (effect : FileEffect) :
    (s.withFiles id effect).cancellations = s.cancellations := by
  cases effect <;> rfl

@[simp] lemma withFiles_deletes (s : FirmwareService) (id : String) (effect : FileEffect) :
    (s.withFiles id effect).deletes = s.deletes := by
  cases effect <;> rfl

lemma continues_of_transition (h : Transition s action t) (hafter : t.adds.lookup call = some after) :
    (∃ request now, action = .completes (.create call request now) ∧ s.adds.lookup call = none ∧
      after.phase = .created ∧
        s.catalog.lookup after.objectId = none ∧ (t.catalog.lookup after.objectId).isSome = true) ∨
      ∃ before, s.adds.lookup call = some before ∧ Continues s action t call before after := by
  cases h with
  | created other request now free vacant =>
    rcases lookup_insert_eq_some hafter with ⟨rfl, rfl⟩ | ⟨_, hold⟩
    · refine .inl ⟨request, now, rfl, free, rfl, vacant, ?_⟩
      change (AList.lookup request.manifest.objectId
        (AList.insert request.manifest.objectId _ s.catalog)).isSome = true
      rw [AList.lookup_insert]
      rfl
    · exact .inr ⟨after, hold, .refl _ _ _ (fun _ h => h)⟩
  | selectionFailed other now add error tracked =>
    exact .inr (continues_setAdd hafter tracked (by simp) (by simp) rfl rfl)
  | selectionErrored other add error tracked =>
    exact .inr (continues_setAdd hafter tracked (by simp) (by simp) rfl rfl)
  | selected other now add firmware catalog tracked hphase =>
    exact .inr (continues_setAdd hafter tracked (by simp [hphase]) (by simp) rfl rfl)
  | registered other add firmware tracked hphase =>
    right
    rcases lookup_insert_eq_some hafter with ⟨rfl, rfl⟩ | ⟨_, hold⟩
    · exact ⟨add, tracked, rfl, fun _ => .inl (by simp [hphase]), fun _ =>
        .inr ⟨rfl, AList.lookup_insert _⟩⟩
    · exact ⟨after, hold, .refl _ _ _ (fun _ h => h)⟩
  | prepared other action add firmware worker worker' effect tracked hphase hstep =>
    have hregistered :
        (AddPhase.spawned firmware worker').isUnregistered = true →
          add.phase.isUnregistered = true := by simp
    refine .inr
      (continues_setAdd hafter tracked hregistered ?_ (withFiles_adds _ _ _)
        (withFiles_cancelledTokens _ _ _))
    rw [hphase]
    exact isRunning_of_step hstep
  | published other now add firmware worker row available tracked hphase hpublishing =>
    exact .inr (continues_setAdd hafter tracked (by simp) (by simp [hphase, hpublishing]) rfl rfl)
  | unpublished other now add firmware worker tracked hphase hpublishing =>
    exact .inr (continues_setAdd hafter tracked (by simp) (by simp [hphase, hpublishing]) rfl rfl)
  | publicationErrored other add firmware worker tracked hphase hpublishing =>
    exact .inr (continues_setAdd hafter tracked (by simp) (by simp [hphase, hpublishing]) rfl rfl)
  | released other add firmware worker tracked =>
    exact .inr (continues_setAdd hafter tracked (by simp) (by simp) rfl rfl)
  | tokenCancelled delete withdrawal token =>
    exact .inr ⟨after, hafter, .refl _ _ _ (fun _ hold => Finset.mem_insert_of_mem hold)⟩
  | _ => exact .inr ⟨after, hafter, .refl _ _ _ (fun _ h => h)⟩

lemma cancelledTokens_of_transition (h : Transition s action t) {token : Nat}
    (htoken : token ∈ s.cancelledTokens) : token ∈ t.cancelledTokens := by
  cases h with
  | prepared => exact (withFiles_cancelledTokens _ _ _).symm ▸ htoken
  | tokenCancelled => exact Finset.mem_insert_of_mem htoken
  | _ => exact htoken

lemma rows_of_transition (h : Transition s action t) (hnone : t.catalog.lookup id = none) :
    s.catalog.lookup id = none ∨ ∃ call, action = .completes (.deleteRow call) ∧
      s.deletes.lookup call = some ⟨id, .cancelled⟩ := by
  cases h with
  | created call request now =>
    exact .inl (FirmwareCatalog.keeps_insert (fun _ h => h) _ _ id hnone)
  | selected call now add firmware catalog tracked hphase row retouched kept => exact .inl (kept id hnone)
  | prepared =>
    rw [withFiles_catalog] at hnone
    exact .inl hnone
  | published call now add firmware worker row =>
    exact .inl (FirmwareCatalog.keeps_insert (fun _ h => h) _ _ id hnone)
  | rowDeleted call delete tracked hphase =>
    rw [lookup_erase_eq_ite] at hnone
    split_ifs at hnone with heq
    · right
      obtain ⟨deleted, phase⟩ := delete
      cases hphase
      cases heq
      exact ⟨call, rfl, tracked⟩
    · exact .inl hnone
  | _ => exact .inl hnone

/-- A delete of the object has taken the token of a call and not yet cancelled it. -/
def Holding (s : FirmwareService) (id : String) (token : Nat) : Prop :=
  ∃ delete, s.deletes.lookup delete = some ⟨id, .taken token⟩

inductive Remapped (s t : FirmwareService) (id : String) : Prop
  | kept (hlookup : t.cancellations.lookup id = s.cancellations.lookup id)
  | registered (call : Nat) (add : AddCall) (hadd : s.adds.lookup call = some add) (hid : add.objectId = id)
      (hlive : s.Live call add) (hlookup : t.cancellations.lookup id = some call)
  | released (call : Nat) (add : AddCall) (hadd : s.adds.lookup call = some add) (hid : add.objectId = id)
      (hlive : s.Live call add)
      (hended : ∀ after, t.adds.lookup call = some after → after.phase.isRunning = false)
  | taken (token : Nat) (hmapped : s.cancellations.lookup id = some token) (hholding : t.Holding id token)

lemma remapped_of_transition (hkeyed : Keyed s.catalog s.adds) (h : Transition s action t)
    (id : String) : Remapped s t id := by
  cases h with
  | registered call add firmware tracked hphase =>
    by_cases hid : id = add.objectId
    · subst hid
      exact .registered call add tracked rfl (.inl (by simp [hphase])) (AList.lookup_insert _)
    · exact .kept (AList.lookup_insert_ne hid)
  | released call add firmware worker tracked hphase hreleasing =>
    by_cases hcancelled : call ∈ s.cancelledTokens
    · exact .kept (by rw [if_pos hcancelled])
    · have hcarried : firmware.id = add.objectId :=
        hkeyed.carried call add tracked firmware (by simp [AddCall.firmware, hphase])
      by_cases hid : id = firmware.id
      · refine .released call add tracked (hcarried.symm.trans hid.symm)
          (.inr ⟨by simp [hphase, hreleasing], hcancelled⟩) ?_
        intro after hafter
        cases (AList.lookup_insert _).symm.trans hafter
        rfl
      · rw [if_neg hcancelled]
        exact .kept (AList.lookup_erase_ne hid)
  | prepared => exact .kept (by rw [withFiles_cancellations]; rfl)
  | tokenTaken delete other token free mapped =>
    by_cases hid : id = other
    · subst hid
      exact .taken token mapped ⟨delete, AList.lookup_insert _⟩
    · exact .kept (AList.lookup_erase_ne hid)
  | tokenMissing delete other free unmapped =>
    by_cases hid : id = other
    · subst hid
      exact .kept ((AList.lookup_erase _ _).trans unmapped.symm)
    · exact .kept (AList.lookup_erase_ne hid)
  | fileRemoved => exact .kept rfl
  | _ => exact .kept rfl

/-- A delete of the object has looked for the token and not yet deleted the row. -/
def Withdrawn (s : FirmwareService) (id : String) : Prop :=
  ∃ call phase, s.deletes.lookup call = some ⟨id, phase⟩ ∧ phase.isWithdrawing = true

/-- A delete of the object has cancelled the token and not yet deleted the row. -/
def Withdrawing (s : FirmwareService) (id : String) : Prop :=
  ∃ call, s.deletes.lookup call = some ⟨id, .cancelled⟩

lemma withdrawn_setDelete {delete : DeleteCall} {phase : DeletePhase}
    (hdelete : s.deletes.lookup call = some delete)
    (hphase : phase.isWithdrawing = true → delete.phase.isWithdrawing = true)
    (h : (s.setDelete call delete.id phase).Withdrawn id) : s.Withdrawn id := by
  obtain ⟨other, after, hafter, hwithdrawing⟩ := h
  rcases lookup_insert_eq_some hafter with ⟨-, heq⟩ | ⟨-, hold⟩
  · cases heq
    exact ⟨call, delete.phase, hdelete, hphase hwithdrawing⟩
  · exact ⟨other, after, hold, hwithdrawing⟩

lemma withdrawn_of_transition (h : Transition s action t) (hdelete : t.Withdrawn id) :
    s.Withdrawn id ∨ (∃ call, action = .completes (.cancelDownload call id)) ∧
      ∀ token, s.cancellations.lookup id = some token → t.Holding id token := by
  cases h with
  | prepared =>
    rw [Withdrawn, withFiles_deletes] at hdelete
    exact .inl hdelete
  | tokenTaken delete other token free mapped =>
    obtain ⟨call, phase, hcall, hphase⟩ := hdelete
    rcases lookup_insert_eq_some hcall with ⟨-, heq⟩ | ⟨-, hold⟩
    · cases heq
      refine .inr ⟨⟨delete, rfl⟩, fun latest hlatest => ⟨delete, ?_⟩⟩
      cases mapped.symm.trans hlatest
      exact AList.lookup_insert _
    · exact .inl ⟨call, phase, hold, hphase⟩
  | tokenMissing delete other free unmapped =>
    obtain ⟨call, phase, hcall, hphase⟩ := hdelete
    rcases lookup_insert_eq_some hcall with ⟨-, heq⟩ | ⟨-, hold⟩
    · cases heq
      refine .inr ⟨⟨delete, rfl⟩, fun latest hlatest => ?_⟩
      cases unmapped.symm.trans hlatest
    · exact .inl ⟨call, phase, hold, hphase⟩
  | tokenCancelled call delete token tracked hphase =>
    exact .inl (withdrawn_setDelete tracked (by simp [hphase]) hdelete)
  | deleteFailed call delete error tracked => exact .inl (withdrawn_setDelete tracked (by simp) hdelete)
  | deletionErrored call delete error tracked => exact .inl (withdrawn_setDelete tracked (by simp) hdelete)
  | rowDeleted call delete tracked =>
    have hphase : DeletePhase.removing.isWithdrawing = true → delete.phase.isWithdrawing = true := by simp
    exact .inl (withdrawn_setDelete tracked hphase hdelete)
  | directoryRemoved call delete tracked => exact .inl (withdrawn_setDelete tracked (by simp) hdelete)
  | _ => exact .inl hdelete

variable {delete : Nat}

lemma holding_setDelete_of_ne {token other : Nat} {deleted : String} {phase : DeletePhase}
    (hholding : s.deletes.lookup delete = some ⟨id, .taken token⟩) (hne : delete ≠ other)
    (ht : t.deletes = (s.setDelete other deleted phase).deletes) : t.Holding id token :=
  ⟨delete, by rw [ht, setDelete, AList.lookup_insert_ne hne, hholding]⟩

/-- A delete gives a token up only by cancelling it. -/
lemma holding_of_transition (h : Transition s action t) {token : Nat} (hholding : s.Holding id token) :
    t.Holding id token ∨ token ∈ t.cancelledTokens := by
  obtain ⟨delete, hdelete⟩ := hholding
  have hne : ∀ {other : Nat} {before : DeleteCall}, s.deletes.lookup other = some before →
      before.phase ≠ .taken token → delete ≠ other := by
    rintro other before hbefore hphase rfl
    cases hbefore.symm.trans hdelete
    exact hphase rfl
  cases h with
  | prepared => exact .inl ⟨delete, by rw [withFiles_deletes]; exact hdelete⟩
  | tokenTaken other deleted latest free =>
    exact .inl (holding_setDelete_of_ne hdelete (ne_of_lookup hdelete free) rfl)
  | tokenMissing other deleted free =>
    exact .inl (holding_setDelete_of_ne hdelete (ne_of_lookup hdelete free) rfl)
  | tokenCancelled other before latest tracked hphase =>
    by_cases hsame : delete = other
    · subst hsame
      cases tracked.symm.trans hdelete
      cases hphase
      exact .inr (Finset.mem_insert_self _ _)
    · exact .inl (holding_setDelete_of_ne hdelete hsame rfl)
  | deleteFailed other before error tracked hphase =>
    exact .inl (holding_setDelete_of_ne hdelete (hne tracked (by simp [hphase])) rfl)
  | deletionErrored other before error tracked hphase =>
    exact .inl (holding_setDelete_of_ne hdelete (hne tracked (by simp [hphase])) rfl)
  | rowDeleted other before tracked hphase =>
    exact .inl (holding_setDelete_of_ne hdelete (hne tracked (by simp [hphase])) rfl)
  | directoryRemoved other before tracked hphase =>
    exact .inl (holding_setDelete_of_ne hdelete (hne tracked (by simp [hphase])) rfl)
  | _ => exact .inl ⟨delete, hdelete⟩

/-- The only add of an object that is alive is the one whose token is in the map, still to be put there or
held by a delete. -/
structure Guarded (s : FirmwareService) : Prop where
  keyed : Keyed s.catalog s.adds
  present : ∀ call add, s.adds.lookup call = some add → s.Live call add →
    s.catalog.lookup add.objectId ≠ none
  unique : ∀ call add other add', s.adds.lookup call = some add → s.adds.lookup other = some add' →
    s.Live call add → s.Live other add' → add.objectId = add'.objectId → call = other
  registered :
    ∀ call add, s.adds.lookup call = some add → add.phase.isRunning = true → call ∉ s.cancelledTokens →
    s.cancellations.lookup add.objectId = some call ∨ s.Holding add.objectId call
  withdrawn :
    ∀ call add, s.adds.lookup call = some add → s.Withdrawn add.objectId → add.phase.isRunning = true →
    call ∈ s.cancelledTokens ∨ s.Holding add.objectId call

def registration (s : FirmwareService) : StoreAction → Option AddCall
  | .completes (.register call) => s.adds.lookup call
  | _ => none

def deletion (s : FirmwareService) : StoreAction → Option DeleteCall
  | .completes (.deleteRow call) => s.deletes.lookup call
  | _ => none

/-- Tokens are registered while no delete of the object is between its steps. Rows are deleted while no add of
the object is between its steps and no delete of it holds a token. -/
def Orderly (s : FirmwareService) (action : StoreAction) : Prop :=
  (∀ add ∈ s.registration action, ∀ delete ∈ s.deletes.values, delete.id = add.objectId →
      delete.phase.isWithdrawing = false) ∧
    ∀ delete ∈ s.deletion action,
      (∀ add ∈ s.adds.values, add.objectId = delete.id → add.phase.isUnregistered = false) ∧
      ∀ other ∈ s.deletes.values, other.id = delete.id → other.phase.token = none

instance (s : FirmwareService) (action : StoreAction) : Decidable (s.Orderly action) :=
  inferInstanceAs (Decidable (_ ∧ _))

lemma guarded_empty : Guarded empty where
  keyed := .empty
  present := by simp [empty]
  unique := by simp [empty]
  registered := by simp [empty]
  withdrawn := by simp [empty]

lemma Guarded.not_live_of_deleteRow (h : Guarded s) (horderly : s.Orderly (.completes (.deleteRow delete)))
    (hadd : s.adds.lookup call = some add)
    (hdelete : s.deletes.lookup delete = some ⟨add.objectId, .cancelled⟩) :
    ¬s.Live call add := by
  rintro (hunregistered | ⟨hrunning, htoken⟩)
  · have hnot := (horderly.2 _ hdelete).1 add ((mem_values _ _).mpr ⟨call, hadd⟩) rfl
    cases hnot.symm.trans hunregistered
  · obtain hcancelled | ⟨other, hother⟩ := h.withdrawn call add hadd ⟨delete, _, hdelete, rfl⟩ hrunning
    · exact htoken hcancelled
    · have hnone := (horderly.2 _ hdelete).2 _ ((mem_values _ _).mpr ⟨other, hother⟩) rfl
      cases hnone

lemma Guarded.step (h : Guarded s) (horderly : s.Orderly action) (hstep : Transition s action t) :
    Guarded t := by
  constructor
  · exact keyed_of_transition h.keyed hstep
  · intro call after hafter hlive hnone
    obtain ⟨_, _, _, _, _, -, hrow⟩ | ⟨before, hbefore, hcontinues⟩ := continues_of_transition hstep hafter
    · rw [hnone] at hrow
      cases hrow
    · rw [hcontinues.objectId] at hnone
      have hwas := hcontinues.live hlive
      obtain hold | ⟨delete, rfl, hdelete⟩ := rows_of_transition hstep hnone
      · exact h.present call before hbefore hwas hold
      · exact h.not_live_of_deleteRow horderly hbefore hdelete hwas
  · intro call after other after' hafter hafter' hlive hlive' hsame
    obtain ⟨_, _, haction, _, _, hvacant, _⟩ | ⟨before, hbefore, hcontinues⟩ :=
      continues_of_transition hstep hafter
    · obtain ⟨_, _, haction', _⟩ | ⟨before', hbefore', hcontinues'⟩ := continues_of_transition hstep hafter'
      · cases haction.symm.trans haction'
        rfl
      · rw [hsame, hcontinues'.objectId] at hvacant
        exact absurd hvacant (h.present other before' hbefore' (hcontinues'.live hlive'))
    · obtain ⟨_, _, _, _, _, hvacant, _⟩ | ⟨before', hbefore', hcontinues'⟩ :=
        continues_of_transition hstep hafter'
      · rw [← hsame, hcontinues.objectId] at hvacant
        exact absurd hvacant (h.present call before hbefore (hcontinues.live hlive))
      · rw [hcontinues.objectId, hcontinues'.objectId] at hsame
        exact h.unique call before other before' hbefore hbefore' (hcontinues.live hlive)
          (hcontinues'.live hlive') hsame
  · intro call after hafter hrunning htoken
    obtain ⟨_, _, _, _, hphase, _⟩ | ⟨before, hbefore, hcontinues⟩ := continues_of_transition hstep hafter
    · rw [hphase] at hrunning
      cases hrunning
    · rw [hcontinues.objectId]
      obtain hran | ⟨-, hlookup⟩ := hcontinues.running hrunning
      · have hold : call ∉ s.cancelledTokens :=
          fun hold => htoken (cancelledTokens_of_transition hstep hold)
        obtain hmapped | hholding := h.registered call before hbefore hran hold
        · cases remapped_of_transition h.keyed hstep before.objectId with
          | kept hlookup => exact .inl (hlookup.trans hmapped)
          | registered other add hadd hid hlive hlookup =>
            rw [h.unique call before other add hbefore hadd (.inr ⟨hran, hold⟩) hlive hid.symm]
            exact .inl hlookup
          | released other add hadd hid hlive hended =>
            cases h.unique call before other add hbefore hadd (.inr ⟨hran, hold⟩) hlive hid.symm
            cases (hended after hafter).symm.trans hrunning
          | taken token hlatest hholding =>
            cases hmapped.symm.trans hlatest
            exact .inr hholding
        · exact .inr ((holding_of_transition hstep hholding).resolve_right htoken)
      · exact .inl hlookup
  · intro call after hafter hdelete hrunning
    obtain ⟨_, _, _, _, hphase, _⟩ | ⟨before, hbefore, hcontinues⟩ := continues_of_transition hstep hafter
    · rw [hphase] at hrunning
      cases hrunning
    · rw [hcontinues.objectId] at hdelete ⊢
      obtain hran | ⟨rfl, -⟩ := hcontinues.running hrunning
      · by_cases htoken : call ∈ s.cancelledTokens
        · exact .inl (cancelledTokens_of_transition hstep htoken)
        · have hheld :
              s.Holding before.objectId call → call ∈ t.cancelledTokens ∨ t.Holding before.objectId call :=
            fun hholding => (holding_of_transition hstep hholding).symm
          obtain hwas | ⟨-, htaken⟩ := withdrawn_of_transition hstep hdelete
          · exact hheld ((h.withdrawn call before hbefore hwas hran).resolve_left htoken)
          · obtain hmapped | hholding := h.registered call before hbefore hran htoken
            · exact .inr (htaken call hmapped)
            · exact hheld hholding
      · obtain ⟨delete, phase, hwas, hphase⟩ | ⟨⟨_, haction⟩, -⟩ := withdrawn_of_transition hstep hdelete
        · have hnot := horderly.1 before hbefore _ ((mem_values _ _).mpr ⟨delete, hwas⟩) rfl
          cases hnot.symm.trans hphase
        · cases haction

lemma lookup_setAdd_ne_none {phase : AddPhase} (h : s.adds.lookup other ≠ none) :
    (s.setAdd call add phase).adds.lookup other ≠ none := by
  rw [setAdd, lookup_insert_eq_ite]
  split_ifs
  · simp
  · exact h

lemma known_of_transition (h : Transition s action t) (hknown : s.adds.lookup call ≠ none) :
    t.adds.lookup call ≠ none := by
  cases h with
  | created other request now free =>
    rw [lookup_insert_eq_ite]
    split_ifs
    · simp
    · exact hknown
  | prepared =>
    rw [withFiles_adds]
    exact lookup_setAdd_ne_none hknown
  | selectionFailed => exact lookup_setAdd_ne_none hknown
  | selectionErrored => exact lookup_setAdd_ne_none hknown
  | selected => exact lookup_setAdd_ne_none hknown
  | registered => exact lookup_setAdd_ne_none hknown
  | published => exact lookup_setAdd_ne_none hknown
  | unpublished => exact lookup_setAdd_ne_none hknown
  | publicationErrored => exact lookup_setAdd_ne_none hknown
  | released => exact lookup_setAdd_ne_none hknown
  | _ => exact hknown

lemma not_live_of_run (h : run stepOrFail s actions = some t)
    (hadd : s.adds.lookup call = some add) (hlive : ¬s.Live call add)
    (hafter : t.adds.lookup call = some after) : ¬t.Live call after := by
  have hinvariant :
      t.adds.lookup call ≠ none ∧ ∀ after, t.adds.lookup call = some after → ¬t.Live call after := by
    refine run_invariant (I := fun t : FirmwareService => t.adds.lookup call ≠ none ∧
      ∀ after, t.adds.lookup call = some after → ¬t.Live call after) ?_ ⟨by simp [hadd], ?_⟩ h
    · rintro u action v ⟨hknown, hdead⟩ hstep
      have htransition := stepOrFail_transition hstep
      refine ⟨known_of_transition htransition hknown, fun after hafter hlive => ?_⟩
      obtain ⟨_, _, _, hfree, _⟩ | ⟨before, hbefore, hcontinues⟩ :=
        continues_of_transition htransition hafter
      · exact hknown hfree
      · exact hdead before hbefore (hcontinues.live hlive)
    · intro after hafter
      cases hadd.symm.trans hafter
      exact hlive
  exact hinvariant.2 after hafter

/-- How a delete goes on: it keeps its object, and a failure is final. -/
structure DeleteContinues (before after : DeleteCall) : Prop where
  id : after.id = before.id
  failed : ∀ error, before.phase = .failed error → after.phase = .failed error

lemma setDelete_continues {delete : DeleteCall} (hdelete : s.deletes.lookup other = some delete)
    (hphase : ∀ error, delete.phase ≠ .failed error) (phase : DeletePhase)
    (hbefore : s.deletes.lookup call = some before) :
    ∃ after, (s.setDelete other delete.id phase).deletes.lookup call = some after ∧
      DeleteContinues before after := by
  rw [setDelete, lookup_insert_eq_ite]
  split_ifs with heq
  · subst heq
    cases hdelete.symm.trans hbefore
    exact ⟨_, rfl, rfl, fun error hfailed => absurd hfailed (hphase error)⟩
  · exact ⟨before, hbefore, rfl, fun _ h => h⟩

lemma delete_of_transition (h : Transition s action t) (hbefore : s.deletes.lookup call = some before) :
    ∃ after, t.deletes.lookup call = some after ∧ DeleteContinues before after := by
  cases h with
  | prepared =>
    rw [withFiles_deletes]
    exact ⟨before, hbefore, rfl, fun _ h => h⟩
  | tokenTaken other id token free =>
    exact ⟨before, (AList.lookup_insert_ne (ne_of_lookup hbefore free)).trans hbefore, rfl, fun _ h => h⟩
  | tokenMissing other id free =>
    exact ⟨before, (AList.lookup_insert_ne (ne_of_lookup hbefore free)).trans hbefore, rfl, fun _ h => h⟩
  | tokenCancelled other delete token tracked hphase =>
    exact setDelete_continues tracked (by simp [hphase]) .cancelled hbefore
  | deleteFailed other delete error tracked hphase =>
    exact setDelete_continues tracked (by simp [hphase]) _ hbefore
  | deletionErrored other delete error tracked hphase =>
    exact setDelete_continues tracked (by simp [hphase]) _ hbefore
  | rowDeleted other delete tracked hphase =>
    exact setDelete_continues tracked (by simp [hphase]) .removing hbefore
  | directoryRemoved other delete tracked hphase =>
    exact setDelete_continues tracked (by simp [hphase]) _ hbefore
  | _ => exact ⟨before, hbefore, rfl, fun _ h => h⟩

lemma delete_of_run (h : run stepOrFail s actions = some t) {after : DeleteCall}
    (hbefore : s.deletes.lookup call = some before) (hafter : t.deletes.lookup call = some after) :
    DeleteContinues before after := by
  have hinvariant : ∃ after, t.deletes.lookup call = some after ∧ DeleteContinues before after := by
    refine run_invariant (I := fun t : FirmwareService => ∃ after, t.deletes.lookup call = some after ∧
      DeleteContinues before after) ?_ ⟨before, hbefore, rfl, fun _ h => h⟩ h
    rintro u action v ⟨middle, hmiddle, hcontinues⟩ hstep
    obtain ⟨after, hafter, hnext⟩ := delete_of_transition (stepOrFail_transition hstep) hmiddle
    exact ⟨after, hafter, hnext.id.trans hcontinues.id, fun error h =>
      hnext.failed error (hcontinues.failed error h)⟩
  obtain ⟨_, hlookup, hcontinues⟩ := hinvariant
  cases hlookup.symm.trans hafter
  exact hcontinues

lemma cancelled_of_finished {u : FirmwareService}
    (hdelete : s.stepOrFail (.completes (.deleteRow delete)) = some t)
    (h : run stepOrFail t actions = some u)
    (hfinished : u.deletes.lookup delete = some ⟨id, .finished⟩) :
    s.deletes.lookup delete = some ⟨id, .cancelled⟩ := by
  cases stepOrFail_transition hdelete with
  | deleteFailed _ before error tracked =>
    have hcontinues := delete_of_run h (AList.lookup_insert _) hfinished
    cases hcontinues.failed error rfl
  | rowDeleted _ before tracked hphase =>
    have hcontinues := delete_of_run h (AList.lookup_insert _) hfinished
    obtain ⟨deleted, phase⟩ := before
    cases hphase
    cases hcontinues.id
    exact tracked

/-- If deletes and registrations of an object keep out of each other's steps, a delete that has
succeeded has stopped every earlier add of its row. -/
theorem finished_delete_stops_preparations {past later : List StoreAction} {u : FirmwareService}
    {delete : Nat} {id : String}
    (hpast : run stepOrFail empty past = some s)
    (hdelete : s.stepOrFail (.completes (.deleteRow delete)) = some t)
    (horderly : Along stepOrFail (fun s action _ => s.Orderly action) empty
      (past ++ [.completes (.deleteRow delete)]))
    (hlater : run stepOrFail t later = some u) (hfinished : u.deletes.lookup delete = some ⟨id, .finished⟩)
    {before after : AddCall} (hbefore : s.adds.lookup call = some before) (hid : before.objectId = id)
    (hafter : u.adds.lookup call = some after) {firmware : FirmwareObject} {worker : Worker}
    (hspawned : after.phase = .spawned firmware worker) :
    call ∈ u.cancelledTokens ∨ worker.phase = .finished := by
  have hguarded : Guarded s :=
    run_invariant_along (fun s action t h hP hstep =>
      h.step hP (stepOrFail_transition hstep)) guarded_empty horderly.left hpast
  have hcancelled := cancelled_of_finished hdelete hlater hfinished
  have hdead : ¬s.Live call before :=
    hguarded.not_live_of_deleteRow (horderly.last hpast hdelete) hbefore (hid ▸ hcancelled)
  have hrun : run stepOrFail s (.completes (.deleteRow delete) :: later) = some u := by
    rw [run_cons, hdelete]
    exact hlater
  have hstopped := not_live_of_run hrun hbefore hdead hafter
  by_contra hnot
  obtain ⟨htoken, hrunning⟩ := not_or.mp hnot
  apply hstopped
  refine .inr ⟨?_, htoken⟩
  rw [hspawned, AddPhase.isRunning, WorkerPhase.isFinished_eq_false hrunning]
  rfl

/-- A delete whose object is being prepared. -/
def deletedWhilePreparing : List StoreAction :=
  [.completes (.create 1 ⟨firstManifest, "rack", false⟩ 10), .completes (.selectDefault 1 11),
    .completes (.register 1),
    .completes (.cancelDownload 2 "rack_1"), .completes (.cancelToken 2)]

theorem deletedWhilePreparing_stops :
    ∃ s t u after worker, run stepOrFail empty deletedWhilePreparing = some s ∧
    s.stepOrFail (.completes (.deleteRow 2)) = some t ∧
      t.stepOrFail (.completes (.removeDirectory 2)) = some u ∧
    u.adds.lookup 1 = some after ∧ after.worker = some worker ∧ worker.isMaterializing = true ∧
    (1 ∈ u.cancelledTokens ∨ worker.phase = .finished) := by
  have horderly : Along stepOrFail (fun s action _ => s.Orderly action) empty
      (deletedWhilePreparing ++ [.completes (.deleteRow 2)]) := by
    decide +kernel
  refine ⟨_, _, _, _, _, rfl, rfl, rfl, rfl, rfl, rfl, ?_⟩
  exact finished_delete_stops_preparations rfl rfl horderly
    (show run stepOrFail _ [.completes (.removeDirectory 2)] = _ from rfl)
    rfl rfl rfl rfl rfl

/-- The delete runs between an add's default selection and its registration. -/
def deletedBeforeRegistration : List StoreAction :=
  [.completes (.create 1 ⟨firstManifest, "rack", false⟩ 10), .completes (.selectDefault 1 11),
    .completes (.cancelDownload 2 "rack_1"), .completes (.deleteRow 2), .completes (.removeDirectory 2),
    .completes (.register 1)]

/-- The delete has succeeded, and the task runs with a token that nobody cancels. -/
theorem deletedBeforeRegistration_runs_on :
    ∃ s add worker, run stepOrFail empty deletedBeforeRegistration = some s ∧
    s.deletes.lookup 2 = some ⟨"rack_1", .finished⟩ ∧ s.adds.lookup 1 = some add ∧ add.objectId = "rack_1" ∧
    add.worker = some worker ∧ worker.isMaterializing = true ∧ 1 ∉ s.cancelledTokens ∧
      s.catalog.lookup "rack_1" = none := by
  refine ⟨_, _, _, rfl, rfl, rfl, rfl, rfl, rfl, by decide, rfl⟩

end FirmwareService

end RackManagement
