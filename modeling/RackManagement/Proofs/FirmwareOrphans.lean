import RackManagement.Proofs.FirmwareCancellation

/-! # Rows that wait for a preparation -/

namespace RackManagement

open Library FiniteMap

/-- The row says that its artifacts are still being fetched. -/
def FirmwareObject.IsPreparing (row : FirmwareObject) : Prop :=
  ∃ catalog ∈ row.parsedComponents, catalog.preparation = .preparing

lemma FirmwareObject.SameContents.isPreparing {row row' : FirmwareObject} (h : row.SameContents row')
    (hpreparing : row'.IsPreparing) : row.IsPreparing := by
  unfold IsPreparing at hpreparing ⊢
  rw [← h.parsedComponents]
  exact hpreparing

instance (row : FirmwareObject) : Decidable row.IsPreparing :=
  inferInstanceAs (Decidable (∃ catalog ∈ row.parsedComponents, catalog.preparation = .preparing))

@[simp] def WorkerPhase.isPending : WorkerPhase → Bool
  | .materializing | .collected _ | .publishing => true
  | _ => false

@[simp] def AddPhase.isPending : AddPhase → Bool
  | .created | .selected _ => true
  | .spawned _ worker => worker.phase.isPending
  | .failed _ => false

lemma Worker.isPending_start (manifest : FirmwareManifest) : (start manifest).phase.isPending = true := by
  unfold start
  dsimp only
  split <;> rfl

lemma Worker.isPending_of_step {w w' : Worker} {cached : Finset String} {action : PreparationStep}
    {effect : FileEffect}
    (h : w.step false cached action = some (w', effect)) (hpending : w.phase.isPending = true) :
    w'.phase.isPending = true := by
  cases step_phase h with
  | kept hkept =>
    rw [hkept]
    exact hpending
  | collected result hbefore hafter => simp [hafter]
  | decided result hbefore hcatalog hafter => simp [hafter]

/-- What a task publishes is not `Preparing`. -/
def Worker.Decided (w : Worker) : Prop := w.phase = .publishing → w.catalog.preparation ≠ .preparing

lemma Worker.decided_of_step {w w' : Worker} {cancelled : Bool} {cached : Finset String}
    {action : PreparationStep}
    {effect : FileEffect} (h : w.step cancelled cached action = some (w', effect))
    (hdecided : w.Decided) : w'.Decided := by
  cases step_phase h with
  | kept hkept hcatalog =>
    unfold Decided
    rw [hkept, hcatalog]
    exact hdecided
  | collected result hbefore hafter =>
    intro hphase
    cases hafter.symm.trans hphase
  | decided result hbefore hcatalog hafter =>
    intro _
    rw [hcatalog]
    cases result <;> simp [catalogOf]

lemma Worker.decided_start (manifest : FirmwareManifest) : (start manifest).Decided := by
  intro hphase
  unfold start at hphase
  dsimp only at hphase
  split at hphase <;> cases hphase

lemma AddPhase.isRunning_of_isPending {phase : AddPhase} (h : phase.isPending = true) :
    phase.isUnregistered = true ∨ phase.isRunning = true := by
  cases phase with
  | created => exact .inl rfl
  | selected firmware => exact .inl rfl
  | failed error => cases h
  | spawned firmware worker =>
    right
    rw [isRunning]
    rw [isPending] at h
    cases hphase : worker.phase <;> simp_all

namespace FirmwareService

variable {s t : FirmwareService} {action : StoreAction} {call : Nat} {add : AddCall} {row : FirmwareObject}

def failing (s : FirmwareService) : StoreAction → Option String
  | .selectDefaultFails call _ | .publishFails call => (s.adds.lookup call).map AddCall.objectId
  | .deleteRowFails call _ => (s.deletes.lookup call).map DeleteCall.id
  | _ => none

/-- No store call fails while the object's row is `Preparing`. -/
def Sparing (s : FirmwareService) (action : StoreAction) : Prop :=
  ∀ id ∈ s.failing action, ∀ row ∈ s.catalog.lookup id, ¬row.IsPreparing

instance (s : FirmwareService) (action : StoreAction) : Decidable (s.Sparing action) :=
  inferInstanceAs (Decidable (∀ id ∈ s.failing action, ∀ row ∈ s.catalog.lookup id, ¬row.IsPreparing))

/-- The call created the row and goes on to publish into it. -/
structure Attends (s : FirmwareService) (call : Nat) (add : AddCall) (row : FirmwareObject) : Prop where
  objectId : add.objectId = row.id
  own : add.own.id = row.id ∧ add.own.created = row.created
  carried : ∀ firmware ∈ add.firmware, firmware.created = row.created
  pending : add.phase.isPending = true
  uncancelled : call ∉ s.cancelledTokens

structure Tended (s : FirmwareService) : Prop where
  keyed : Keyed s.catalog s.adds
  mapped : ∀ id token, s.cancellations.lookup id = some token →
    ∃ add, s.adds.lookup token = some add ∧ add.objectId = id
  held : ∀ id token, s.Holding id token → ∃ add, s.adds.lookup token = some add ∧ add.objectId = id
  cancelled : ∀ token ∈ s.cancelledTokens, s.adds.lookup token ≠ none
  decided : ∀ call add, s.adds.lookup call = some add → ∀ worker ∈ add.worker, worker.Decided
  attended : ∀ id row, s.catalog.lookup id = some row → row.IsPreparing →
    s.Withdrawing id ∨ ∃ call add, s.adds.lookup call = some add ∧ s.Attends call add row

lemma tended_empty : Tended empty where
  keyed := .empty
  mapped := by simp [empty]
  held := by simp [empty, Holding]
  cancelled := by simp [empty]
  decided := by simp [empty]
  attended := by simp [empty]

variable {id : String} {before : FirmwareObject} {token : Nat}

lemma preparing_of_transition (hdecided : ∀ call add, s.adds.lookup call = some add →
    ∀ worker ∈ add.worker, worker.Decided)
    (h : Transition s action t) (hrow : t.catalog.lookup id = some row) (hpreparing : row.IsPreparing) :
    (∃ call request now, action = .completes (.create call request now) ∧ s.adds.lookup call = none ∧
        t.adds.lookup call = some ⟨request, row, .created⟩ ∧ row = request.row now) ∨
      ∃ before, s.catalog.lookup id = some before ∧ before.IsPreparing ∧ row.id = before.id ∧
        row.created = before.created := by
  cases h with
  | created call request now free vacant =>
    rcases lookup_insert_eq_some hrow with ⟨_, rfl⟩ | ⟨_, hold⟩
    · exact .inl ⟨call, request, now, rfl, free, AList.lookup_insert _, rfl⟩
    · exact .inr ⟨row, hold, hpreparing, rfl, rfl⟩
  | selected call now add firmware catalog tracked hphase selected retouched =>
    obtain ⟨before, hbefore, hsame⟩ := retouched id row hrow
    exact .inr ⟨before, hbefore, hsame.isPreparing hpreparing, hsame.id, hsame.created⟩
  | prepared =>
    rw [withFiles_catalog] at hrow
    exact .inr ⟨row, hrow, hpreparing, rfl, rfl⟩
  | published call now add firmware worker published available tracked hphase hpublishing =>
    rcases lookup_insert_eq_some hrow with ⟨_, rfl⟩ | ⟨_, hold⟩
    · obtain ⟨_, ⟨⟩, hcatalog⟩ := hpreparing
      exact absurd hcatalog
        (hdecided call add tracked worker (by simp [AddCall.worker, hphase]) hpublishing)
    · exact .inr ⟨row, hold, hpreparing, rfl, rfl⟩
  | rowDeleted call delete => exact .inr ⟨row, (lookup_erase_eq_some hrow).2, hpreparing, rfl, rfl⟩
  | fileRemoved => exact .inr ⟨row, hrow, hpreparing, rfl, rfl⟩
  | _ => exact .inr ⟨row, hrow, hpreparing, rfl, rfl⟩

lemma withdrawing_setDelete_of_ne {delete other : Nat} {deleted : String} {phase : DeletePhase}
    (hdelete : s.deletes.lookup delete = some ⟨id, .cancelled⟩) (hne : delete ≠ other)
    (ht : t.deletes = (s.setDelete other deleted phase).deletes) : t.Withdrawing id :=
  ⟨delete, by rw [ht, setDelete, AList.lookup_insert_ne hne, hdelete]⟩

lemma withdrawing_kept (h : Transition s action t) (hsparing : s.Sparing action)
    (hwithdrawing : s.Withdrawing id) (hbefore : s.catalog.lookup id = some before)
    (hpreparing : before.IsPreparing) (hrow : t.catalog.lookup id ≠ none) : t.Withdrawing id := by
  obtain ⟨delete, hdelete⟩ := hwithdrawing
  cases h with
  | prepared => exact ⟨delete, by rw [withFiles_deletes]; exact hdelete⟩
  | tokenTaken other deleted token free =>
    exact withdrawing_setDelete_of_ne hdelete (ne_of_lookup hdelete free) rfl
  | tokenMissing other deleted free =>
    exact withdrawing_setDelete_of_ne hdelete (ne_of_lookup hdelete free) rfl
  | tokenCancelled other deleted token tracked hphase =>
    refine withdrawing_setDelete_of_ne hdelete ?_ rfl
    rintro rfl
    cases tracked.symm.trans hdelete
    cases hphase
  | deleteFailed other deleted error tracked hphase vacant =>
    refine withdrawing_setDelete_of_ne hdelete ?_ rfl
    rintro rfl
    cases tracked.symm.trans hdelete
    cases vacant.symm.trans hbefore
  | deletionErrored other deleted error tracked hphase =>
    refine withdrawing_setDelete_of_ne hdelete ?_ rfl
    rintro rfl
    have hfailing : s.failing (.deleteRowFails delete error) = some id := by rw [failing, hdelete]; rfl
    exact hsparing id hfailing before hbefore hpreparing
  | rowDeleted other deleted tracked hphase =>
    refine withdrawing_setDelete_of_ne hdelete ?_ rfl
    rintro rfl
    cases tracked.symm.trans hdelete
    exact hrow (AList.lookup_erase _ _)
  | directoryRemoved other deleted tracked hphase =>
    refine withdrawing_setDelete_of_ne hdelete ?_ rfl
    rintro rfl
    cases tracked.symm.trans hdelete
    cases hphase
  | _ => exact ⟨delete, hdelete⟩

lemma Attends.of_row (h : s.Attends call add before) (hid : row.id = before.id)
    (hcreated : row.created = before.created) : s.Attends call add row where
  objectId := by rw [hid, h.objectId]
  own := by rw [hid, hcreated]; exact h.own
  carried := by rw [hcreated]; exact h.carried
  pending := h.pending
  uncancelled := h.uncancelled

lemma Attends.setAdd (h : s.Attends call add row) (hadd : s.adds.lookup call = some add)
    {other : Nat} {changed : AddCall} (hchanged : s.adds.lookup other = some changed) {phase : AddPhase}
    (ht : t.adds = (s.setAdd other changed phase).adds) (htokens : t.cancelledTokens = s.cancelledTokens)
    (hself : other = call → changed = add → phase.isPending = true ∧
      ∀ firmware ∈ ({ changed with phase := phase } : AddCall).firmware, firmware.created = row.created) :
    ∃ after, t.adds.lookup call = some after ∧ t.Attends call after row := by
  rw [ht, FirmwareService.setAdd, lookup_insert_eq_ite]
  split_ifs with heq
  · subst heq
    cases hadd.symm.trans hchanged
    obtain ⟨hpending, hcarried⟩ := hself rfl rfl
    exact ⟨_, rfl, h.objectId, h.own, hcarried, hpending, htokens ▸ h.uncancelled⟩
  · exact ⟨add, hadd, h.objectId, h.own, h.carried, h.pending, htokens ▸ h.uncancelled⟩

lemma Attends.carries (h : s.Attends call add row) {firmware : FirmwareObject}
    (hfirmware : add.firmware = some firmware) :
    firmware.created = row.created := h.carried firmware hfirmware

lemma attended_of_transition (h : Tended s) (hstep : Transition s action t) (hsparing : s.Sparing action)
    (hbefore : s.catalog.lookup id = some before) (hwas : before.IsPreparing)
    (hrow : t.catalog.lookup id = some row) (hpreparing : row.IsPreparing) (hid : row.id = before.id)
    (hcreated : row.created = before.created) (hadd : s.adds.lookup call =
      some add) (hattends : s.Attends call add row) :
    t.Withdrawing id ∨ ∃ after, t.adds.lookup call = some after ∧ t.Attends call after row := by
  have hobject : add.objectId = id := by rw [hattends.objectId, hid, h.keyed.rows id before hbefore]
  cases hstep with
  | created other request now free =>
    have hne : call ≠ other := by
      rintro rfl
      cases free.symm.trans hadd
    exact .inr ⟨add, (AList.lookup_insert_ne hne).trans hadd, hattends.objectId, hattends.own,
      hattends.carried,
      hattends.pending, hattends.uncancelled⟩
  | selectionFailed other now changed error tracked hphase vacant =>
    refine .inr (hattends.setAdd hadd tracked rfl rfl ?_)
    rintro rfl rfl
    change s.catalog.lookup changed.objectId = none at vacant
    rw [hobject] at vacant
    cases vacant.symm.trans hbefore
  | selectionErrored other changed error tracked hphase =>
    refine .inr (hattends.setAdd hadd tracked rfl rfl ?_)
    rintro rfl rfl
    have hfailing : s.failing (.selectDefaultFails other error) = some id := by
      rw [failing, hadd, Option.map_some, hobject]
    exact absurd hwas (hsparing id hfailing before hbefore)
  | selected other now changed firmware catalog tracked hphase selected =>
    refine .inr (hattends.setAdd hadd tracked rfl rfl ?_)
    rintro rfl rfl
    refine ⟨rfl, ?_⟩
    rintro _ ⟨⟩
    change catalog.lookup changed.objectId = some firmware at selected
    rw [hobject] at selected
    cases selected.symm.trans hrow
    rfl
  | registered other changed firmware tracked hphase =>
    refine .inr (hattends.setAdd hadd tracked rfl rfl ?_)
    rintro rfl rfl
    refine ⟨Worker.isPending_start _, ?_⟩
    rintro _ ⟨⟩
    exact hattends.carries (by simp [AddCall.firmware, hphase])
  | prepared other action changed firmware worker worker' effect tracked hphase hstep =>
    have hadds := withFiles_adds (s.setAdd other changed (.spawned firmware worker')) firmware.id effect
    refine .inr (hattends.setAdd hadd tracked hadds (withFiles_cancelledTokens _ _ _) ?_)
    rintro rfl rfl
    have hpending := hattends.pending
    rw [hphase] at hpending
    rw [decide_eq_false hattends.uncancelled] at hstep
    refine ⟨Worker.isPending_of_step hstep hpending, ?_⟩
    rintro _ ⟨⟩
    exact hattends.carries (by simp [AddCall.firmware, hphase])
  | published other now changed firmware worker published available tracked hphase hpublishing =>
    refine .inr (hattends.setAdd hadd tracked rfl rfl ?_)
    rintro rfl rfl
    -- The publication went into the row, which is then no longer `Preparing`.
    have hcarried := h.keyed.carried other changed hadd firmware (by simp [AddCall.firmware, hphase])
    have hpublished : (s.catalog.insert firmware.id
        { published with parsedComponents := some worker.catalog, available := available, updated :=
          now }).lookup id =
          some row := hrow
    rw [hcarried, hobject, AList.lookup_insert] at hpublished
    cases hpublished
    obtain ⟨_, ⟨⟩, hcatalog⟩ := hpreparing
    exact absurd hcatalog
      (h.decided other changed hadd worker (by simp [AddCall.worker, hphase]) hpublishing)
  | unpublished other now changed firmware worker tracked hphase hpublishing missing =>
    refine .inr (hattends.setAdd hadd tracked rfl rfl ?_)
    rintro rfl rfl
    have hfirmware : changed.firmware = some firmware := by simp [AddCall.firmware, hphase]
    have hcarried := h.keyed.carried other changed hadd firmware hfirmware
    rw [hcarried, hobject] at missing
    exact absurd (hcreated.symm.trans (hattends.carries hfirmware).symm) (missing before hbefore)
  | publicationErrored other changed firmware worker tracked hphase hpublishing =>
    refine .inr (hattends.setAdd hadd tracked rfl rfl ?_)
    rintro rfl rfl
    have hfailing : s.failing (.publishFails other) = some id := by
      rw [failing, hadd, Option.map_some, hobject]
    exact absurd hwas (hsparing id hfailing before hbefore)
  | released other changed firmware worker tracked hphase hreleasing =>
    refine .inr (hattends.setAdd hadd tracked rfl rfl ?_)
    rintro rfl rfl
    have hpending := hattends.pending
    rw [hphase, AddPhase.isPending, hreleasing] at hpending
    cases hpending
  | tokenCancelled delete deleted token tracked hphase =>
    by_cases htoken : call = token
    · subst htoken
      obtain ⟨deletedId, phase⟩ := deleted
      cases hphase
      obtain ⟨taken, hlookup, hdeleted⟩ := h.held deletedId call ⟨delete, tracked⟩
      cases hlookup.symm.trans hadd
      cases hdeleted.symm.trans hobject
      exact .inl ⟨delete, AList.lookup_insert _⟩
    · refine .inr
        ⟨add, hadd, hattends.objectId, hattends.own, hattends.carried, hattends.pending, fun hnew => ?_⟩
      exact (Finset.mem_insert.mp hnew).elim htoken hattends.uncancelled
  | _ =>
    exact .inr ⟨add, hadd, hattends.objectId, hattends.own, hattends.carried, hattends.pending,
      hattends.uncancelled⟩

lemma mapped_before (h : Transition s action t) (hmapped : t.cancellations.lookup id = some token) :
    s.cancellations.lookup id = some token ∨ ∃ add, s.adds.lookup token = some add ∧ add.objectId = id := by
  cases h with
  | registered call add firmware tracked hphase =>
    rcases lookup_insert_eq_some hmapped with ⟨rfl, rfl⟩ | ⟨_, hold⟩
    · exact .inr ⟨add, tracked, rfl⟩
    · exact .inl hold
  | prepared =>
    rw [withFiles_cancellations] at hmapped
    exact .inl hmapped
  | released call add firmware worker =>
    change (if call ∈ s.cancelledTokens then s.cancellations
      else s.cancellations.erase firmware.id).lookup id = _ at hmapped
    split_ifs at hmapped
    · exact .inl hmapped
    · exact .inl (lookup_erase_eq_some hmapped).2
  | tokenTaken => exact .inl (lookup_erase_eq_some hmapped).2
  | tokenMissing => exact .inl (lookup_erase_eq_some hmapped).2
  | _ => exact .inl hmapped

lemma holding_setDelete {delete other : Nat} {deleted : String} {phase : DeletePhase}
    (hphase : phase.token = none) (ht : t.deletes = (s.setDelete other deleted phase).deletes)
    (h : t.deletes.lookup delete = some ⟨id, .taken token⟩) : s.Holding id token := by
  rw [ht] at h
  rcases lookup_insert_eq_some h with ⟨-, heq⟩ | ⟨-, hold⟩
  · cases heq
    cases hphase
  · exact ⟨delete, hold⟩

lemma held_before (h : Transition s action t) (hholding : t.Holding id token) :
    s.Holding id token ∨ s.cancellations.lookup id = some token := by
  obtain ⟨delete, hdelete⟩ := hholding
  cases h with
  | prepared =>
    rw [withFiles_deletes] at hdelete
    exact .inl ⟨delete, hdelete⟩
  | tokenTaken other deleted latest free mapped =>
    rcases lookup_insert_eq_some hdelete with ⟨-, heq⟩ | ⟨-, hold⟩
    · cases heq
      exact .inr mapped
    · exact .inl ⟨delete, hold⟩
  | tokenMissing => exact .inl (holding_setDelete rfl rfl hdelete)
  | tokenCancelled => exact .inl (holding_setDelete rfl rfl hdelete)
  | deleteFailed => exact .inl (holding_setDelete rfl rfl hdelete)
  | deletionErrored => exact .inl (holding_setDelete rfl rfl hdelete)
  | rowDeleted => exact .inl (holding_setDelete rfl rfl hdelete)
  | directoryRemoved => exact .inl (holding_setDelete rfl rfl hdelete)
  | _ => exact .inl ⟨delete, hdelete⟩

lemma cancelled_before (h : Transition s action t) (htoken : token ∈ t.cancelledTokens) :
    token ∈ s.cancelledTokens ∨ ∃ id, s.Holding id token := by
  cases h with
  | prepared =>
    rw [withFiles_cancelledTokens] at htoken
    exact .inl htoken
  | tokenCancelled call delete latest tracked hphase =>
    obtain rfl | hold := Finset.mem_insert.mp htoken
    · obtain ⟨deleted, phase⟩ := delete
      cases hphase
      exact .inr ⟨deleted, call, tracked⟩
    · exact .inl hold
  | _ => exact .inl htoken

lemma Tended.known_of_cancelled (h : Tended s) (hstep : Transition s action t)
    (htoken : token ∈ t.cancelledTokens) : s.adds.lookup token ≠ none := by
  obtain hold | ⟨id, hholding⟩ := cancelled_before hstep htoken
  · exact h.cancelled token hold
  · obtain ⟨add, hadd, -⟩ := h.held id token hholding
    simp [hadd]

lemma objectId_of_transition (h : Transition s action t) (hadd : s.adds.lookup call = some add) :
    ∃ after, t.adds.lookup call = some after ∧ after.objectId = add.objectId := by
  have hknown : s.adds.lookup call ≠ none := by simp [hadd]
  obtain ⟨after, hafter⟩ := Option.ne_none_iff_exists'.mp (known_of_transition h hknown)
  obtain ⟨_, _, _, hfree, _⟩ | ⟨before, hbefore, hcontinues⟩ := continues_of_transition h hafter
  · cases hfree.symm.trans hadd
  · cases hbefore.symm.trans hadd
    exact ⟨after, hafter, hcontinues.objectId⟩

lemma Tended.mapped_of_transition (h : Tended s) (hstep : Transition s action t)
    (hmapped : t.cancellations.lookup id = some token) :
    ∃ add, t.adds.lookup token = some add ∧ add.objectId = id := by
  have hadd : ∃ add, s.adds.lookup token = some add ∧ add.objectId = id := by
    obtain hold | hnew := mapped_before hstep hmapped
    · exact h.mapped id token hold
    · exact hnew
  obtain ⟨add, hadd, rfl⟩ := hadd
  exact objectId_of_transition hstep hadd

lemma Tended.held_of_transition (h : Tended s) (hstep : Transition s action t)
    (hholding : t.Holding id token) :
    ∃ add, t.adds.lookup token = some add ∧ add.objectId = id := by
  have hadd : ∃ add, s.adds.lookup token = some add ∧ add.objectId = id := by
    obtain hold | hmapped := held_before hstep hholding
    · exact h.held id token hold
    · exact h.mapped id token hmapped
  obtain ⟨add, hadd, rfl⟩ := hadd
  exact objectId_of_transition hstep hadd

lemma decided_of_transition (h : ∀ call add, s.adds.lookup call = some add →
    ∀ worker ∈ add.worker, worker.Decided)
    (hstep : Transition s action t) :
    ∀ call add, t.adds.lookup call = some add → ∀ worker ∈ add.worker, worker.Decided := by
  cases hstep with
  | created => exact forall_insert h (fun _ hworker => nomatch hworker)
  | selectionFailed => exact forall_insert h (fun _ hworker => nomatch hworker)
  | selectionErrored => exact forall_insert h (fun _ hworker => nomatch hworker)
  | selected => exact forall_insert h (fun _ hworker => nomatch hworker)
  | registered call add firmware =>
    refine forall_insert h ?_
    rintro _ ⟨⟩
    exact Worker.decided_start _
  | prepared call action add firmware worker worker' effect tracked hphase hstep =>
    rw [withFiles_adds]
    refine forall_insert h ?_
    rintro _ ⟨⟩
    exact Worker.decided_of_step hstep (h call add tracked worker (by simp [AddCall.worker, hphase]))
  | published =>
    refine forall_insert h ?_
    rintro _ ⟨⟩ ⟨⟩
  | unpublished =>
    refine forall_insert h ?_
    rintro _ ⟨⟩ ⟨⟩
  | publicationErrored =>
    refine forall_insert h ?_
    rintro _ ⟨⟩ ⟨⟩
  | released =>
    refine forall_insert h ?_
    rintro _ ⟨⟩ ⟨⟩
  | fileRemoved => exact h
  | _ => exact h

lemma Tended.step (h : Tended s) (hsparing : s.Sparing action) (hstep : Transition s action t) :
    Tended t := by
  refine ⟨keyed_of_transition h.keyed hstep, fun _ _ hmapped => h.mapped_of_transition hstep hmapped,
    fun _ _ hholding => h.held_of_transition hstep hholding,
    fun _ htoken =>
      known_of_transition hstep (h.known_of_cancelled hstep htoken),
        decided_of_transition h.decided hstep, ?_⟩
  intro id row hrow hpreparing
  obtain ⟨call, request, now, rfl, hfree, hadd, rfl⟩ | ⟨before, hbefore, hwas, hid, hcreated⟩ :=
    preparing_of_transition h.decided hstep hrow hpreparing
  · refine .inr ⟨call, _, hadd, rfl, ⟨rfl, rfl⟩, fun _ hcarried =>
      (nomatch hcarried), rfl, fun htoken => ?_⟩
    exact h.known_of_cancelled hstep htoken hfree
  · obtain hwithdrawing | ⟨call, add, hadd, hattends⟩ := h.attended id before hbefore hwas
    · exact .inl (withdrawing_kept hstep hsparing hwithdrawing hbefore hwas (by simp [hrow]))
    · obtain hdelete | ⟨after, hafter, hattends'⟩ :=
        attended_of_transition h hstep hsparing hbefore hwas hrow hpreparing
        hid hcreated hadd (hattends.of_row hid hcreated)
      · exact .inl hdelete
      · exact .inr ⟨call, after, hafter, hattends'⟩

/-- If no store call fails while its row is `Preparing`, each such row belongs to an add or a
running task, unless a delete is about to remove it. -/
theorem preparing_rows_are_attended {actions : List StoreAction}
    (hrun : run stepOrFail empty actions = some s)
    (hsparing : Along stepOrFail (fun s action _ => s.Sparing action) empty actions) {id : String}
    (hrow : s.catalog.lookup id = some row) (hpreparing : row.IsPreparing) (hdelete : ¬s.Withdrawing id) :
    ∃ call add, s.adds.lookup call = some add ∧ add.own.id = row.id ∧ add.own.created = row.created ∧
      (add.phase.isUnregistered = true ∨ add.phase.isRunning = true ∧ call ∉ s.cancelledTokens) := by
  have htended : Tended s :=
    run_invariant_along (fun s action t h hP hstep =>
      h.step hP (stepOrFail_transition hstep)) tended_empty hsparing hrun
  obtain ⟨call, add, hadd, hattends⟩ := (htended.attended id row hrow hpreparing).resolve_left hdelete
  refine ⟨call, add, hadd, hattends.own.1, hattends.own.2, ?_⟩
  obtain hunregistered | hrunning := AddPhase.isRunning_of_isPending hattends.pending
  · exact .inl hunregistered
  · exact .inr ⟨hrunning, hattends.uncancelled⟩

def storeError : RmsError := .internal "store unavailable"

/-- A delete of a prepared object fails in the store, and then another object is added. -/
def failedDeletion : List StoreAction :=
  [.completes (.create 1 ⟨firstManifest, "rack", true⟩ 10), .completes (.selectDefault 1 11),
    .completes (.register 1),
    .completes (.prepare 1 (.store "a")), .completes (.prepare 1 .collect),
      .completes (.prepare 1 .checkCancelled),
    .completes (.publish 1 12), .completes (.release 1), .completes (.cancelDownload 2 "rack_1"),
    .deleteRowFails 2 storeError,
    .completes (.create 3 ⟨⟨"rack_2", "third", .ok [⟨"c", true, "board[0]"⟩]⟩, "rack", false⟩ 20),
    .completes (.selectDefault 3 21), .completes (.register 3)]

theorem failedDeletion_attended : ∃ s row, run stepOrFail empty failedDeletion = some s ∧
    s.catalog.lookup "rack_2" = some row ∧ row.IsPreparing ∧
    ∃ call add, s.adds.lookup call = some add ∧ add.own.id = row.id ∧ add.own.created = row.created ∧
      (add.phase.isUnregistered = true ∨ add.phase.isRunning = true ∧ call ∉ s.cancelledTokens) := by
  have hsparing : Along stepOrFail (fun s action _ => s.Sparing action) empty failedDeletion := by
    decide +kernel
  have hstate :
      ∃ s ∈ run stepOrFail empty failedDeletion, (∃ row ∈ s.catalog.lookup "rack_2", row.IsPreparing) ∧
      ∀ delete ∈ s.deletes.values, delete.id ≠ "rack_2" := by
    decide +kernel
  obtain ⟨s, hs, ⟨row, hrow, hpreparing⟩, hdeletes⟩ := hstate
  refine ⟨s, row, hs, hrow, hpreparing, preparing_rows_are_attended hs hsparing hrow hpreparing ?_⟩
  rintro ⟨delete, hdelete⟩
  exact hdeletes _ ((mem_values _ _).mpr ⟨delete, hdelete⟩) rfl

/-- The default selection of an add fails in the store after the row has been created. -/
def failedSelection : List StoreAction :=
  [.completes (.create 1 ⟨firstManifest, "rack", false⟩ 10), .selectDefaultFails 1 storeError]

/-- The row is `Preparing`, no call goes on with it, and the object cannot be added again. -/
theorem failedSelection_orphan : ∃ s row, run stepOrFail empty failedSelection = some s ∧
    s.catalog.lookup "rack_1" = some row ∧ row.IsPreparing ∧
    (∀ add ∈ s.adds.values, add.phase.isUnregistered = false ∧ add.phase.isRunning = false) ∧
      s.deletes.values = [] ∧
    s.stepOrFail (.completes (.create 2 ⟨firstManifest, "rack", false⟩ 20)) = some s := by
  refine ⟨_, _, rfl, rfl, by decide +kernel, by decide +kernel, rfl, rfl⟩

end FirmwareService

end RackManagement
