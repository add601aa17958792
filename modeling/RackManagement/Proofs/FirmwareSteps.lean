import RackManagement.Model.FirmwareObjects

/-! # Steps of the firmware-object calls -/

namespace RackManagement

open Library FiniteMap Option

/-- Only the default flag and the time of the last update may differ. -/
structure FirmwareObject.SameContents (row row' : FirmwareObject) : Prop where
  id : row'.id = row.id
  created : row'.created = row.created
  config : row'.config = row.config
  parsedComponents : row'.parsedComponents = row.parsedComponents

lemma FirmwareObject.SameContents.refl (row : FirmwareObject) : row.SameContents row :=
  ⟨rfl, rfl, rfl, rfl⟩

def FirmwareCatalog.Retouched (catalog catalog' : FirmwareCatalog) : Prop :=
  ∀ id row', catalog'.lookup id = some row' → ∃ row, catalog.lookup id = some row ∧ row.SameContents row'

namespace FirmwareCatalog

variable {catalog catalog' : FirmwareCatalog} {id : String} {now : Nat} {error : RmsError}

lemma Retouched.insert {row row' : FirmwareObject}
    (h : Retouched catalog catalog') (hrow : catalog.lookup id = some row) (hsame : row.SameContents row') :
    Retouched catalog (catalog'.insert id row') := by
  intro k other hk
  rcases lookup_insert_eq_some hk with ⟨rfl, rfl⟩ | ⟨_, hold⟩
  · exact ⟨row, hrow, hsame⟩
  · exact h k other hold

lemma retouched_refl (catalog : FirmwareCatalog) : Retouched catalog catalog :=
  fun _ row' h => ⟨row', h, .refl row'⟩

/-- No row is lost. -/
def Keeps (catalog catalog' : FirmwareCatalog) : Prop :=
  ∀ id, catalog'.lookup id = none → catalog.lookup id = none

lemma keeps_insert (h : Keeps catalog catalog') (id : String) (row : FirmwareObject) :
    Keeps catalog (catalog'.insert id row) := by
  intro k hk
  rw [lookup_insert_eq_ite] at hk
  split_ifs at hk
  exact h k hk

variable {firmware : FirmwareObject}

lemma setDefault_eq_ok (h : catalog.setDefault id now = .ok (firmware, catalog')) :
    catalog'.lookup id = some firmware ∧ Retouched catalog catalog' ∧ Keeps catalog catalog' := by
  unfold setDefault at h
  cases hrow : catalog.lookup id with
  | none =>
    rw [hrow] at h
    cases h
  | some target =>
    rw [hrow] at h
    simp only [lookup_mapValues, hrow, map_some] at h
    cases h
    have hcleared : Retouched catalog (catalog.mapValues (fun firmware =>
        if firmware.id ≠ id ∧ firmware.rackHardwareType = target.rackHardwareType ∧ firmware.isDefault then
          { firmware with isDefault := false, updated := now }
        else firmware)) := by
      intro k row' hk
      rw [lookup_mapValues, map_eq_some_iff] at hk
      obtain ⟨row, hold, rfl⟩ := hk
      refine ⟨row, hold, ?_⟩
      split
      · exact ⟨rfl, rfl, rfl, rfl⟩
      · exact .refl row
    refine ⟨by rw [AList.lookup_insert], hcleared.insert hrow ?_, keeps_insert (fun k hk => ?_) _ _⟩
    · split
      · exact ⟨rfl, rfl, rfl, rfl⟩
      · exact ⟨rfl, rfl, rfl, rfl⟩
    · rw [lookup_mapValues, map_eq_none_iff] at hk
      exact hk

lemma setDefaultIfNone_eq_ok (h : catalog.setDefaultIfNone id now = .ok (firmware, catalog')) :
    catalog'.lookup id = some firmware ∧ Retouched catalog catalog' ∧ Keeps catalog catalog' := by
  unfold setDefaultIfNone at h
  cases hrow : catalog.lookup id with
  | none =>
    rw [hrow] at h
    cases h
  | some target =>
    rw [hrow] at h
    simp only at h
    split at h
    · cases h
      exact ⟨hrow, retouched_refl catalog, fun _ hk => hk⟩
    · cases h
      exact ⟨by rw [AList.lookup_insert], (retouched_refl catalog).insert hrow ⟨rfl, rfl, rfl, rfl⟩,
        keeps_insert (fun _ hk => hk) _ _⟩

lemma setDefault_eq_error (h : catalog.setDefault id now = .error error) : catalog.lookup id = none := by
  unfold setDefault at h
  cases hrow : catalog.lookup id with
  | none => rfl
  | some target =>
    rw [hrow] at h
    simp only [lookup_mapValues, hrow, map_some] at h
    cases h

lemma setDefaultIfNone_eq_error (h : catalog.setDefaultIfNone id now = .error error) :
    catalog.lookup id = none := by
  unfold setDefaultIfNone at h
  cases hrow : catalog.lookup id with
  | none => rfl
  | some target =>
    rw [hrow] at h
    simp only at h
    split at h <;> cases h

variable {created : Nat} {metadata : ArtifactCatalog}

lemma finishPreparation_eq_ok {available : Bool} {row' : FirmwareObject}
    (h : catalog.finishPreparation id created metadata available now = .ok (row', catalog')) :
    ∃ row, catalog.lookup id = some row ∧ row.created = created ∧ catalog' = catalog.insert id row' ∧
      row' = { row with parsedComponents := some metadata, available := available, updated := now } := by
  unfold finishPreparation at h
  cases hrow : (catalog.lookup id).filter (fun firmware => firmware.created == created) with
  | none =>
    rw [hrow] at h
    cases h
  | some row =>
    rw [hrow] at h
    cases h
    obtain ⟨hlookup, hcreated⟩ := filter_eq_some_iff.mp hrow
    exact ⟨row, hlookup, by simpa using hcreated, rfl, rfl⟩

lemma finishPreparation_eq_error
    {available : Bool} (h : catalog.finishPreparation id created metadata available now = .error error)
    {row : FirmwareObject} (hrow : catalog.lookup id = some row) : row.created ≠ created := by
  intro hcreated
  have hfilter : (catalog.lookup id).filter (fun firmware => firmware.created == created) = some row := by
    rw [hrow, filter_some, if_pos (by simpa using hcreated)]
  rw [finishPreparation, hfilter] at h
  cases h

end FirmwareCatalog

namespace Worker

variable {w w' : Worker} {cancelled : Bool} {cached : Finset String} {action : PreparationStep}
  {effect : FileEffect}

/-- The artifacts whose file the task has seen or put in place and counts on. -/
def held (w : Worker) : Finset String := w.checking ∪ w.ready

/-- The task works on the artifacts of its own manifest. -/
structure Sound (w : Worker) : Prop where
  unresolved_listed : w.unresolved ⊆ w.manifest.artifactIds
  ready_listed : w.ready ⊆ w.manifest.artifactIds
  collected_ready : ∀ ready, w.phase = .collected (.ok ready) → ready ⊆ w.ready
  catalog_revision : w.catalog.revision = w.manifest.revision
  catalog_ready : w.catalog.readyArtifacts ⊆ w.ready

lemma sound_start (manifest : FirmwareManifest) : (start manifest).Sound where
  unresolved_listed := subset_rfl
  ready_listed := Finset.empty_subset _
  collected_ready := by
    intro ready h
    unfold start at h
    split at h <;> cases h
  catalog_revision := rfl
  catalog_ready := subset_rfl

lemma held_start (manifest : FirmwareManifest) : (start manifest).held = ∅ := rfl

inductive StepEffect (w : Worker) (cached : Finset String) : PreparationStep → Worker → FileEffect → Prop
  | probed (artifact : String) (present : artifact ∈ cached) :
      StepEffect w cached (.probe artifact) { w with checking := insert artifact w.checking } .untouched
  | reused (artifact : String) (listed : artifact ∈ w.unresolved) (seen : artifact ∈ w.checking) :
      StepEffect w cached (.reuse artifact)
        { w with
          unresolved := w.unresolved.erase artifact
          checking := w.checking.erase artifact
          ready := insert artifact w.ready }
        .untouched
  | condemned (artifact : String) :
      StepEffect w cached (.condemn artifact)
        { w with
          checking := w.checking.erase artifact
          condemned := insert artifact w.condemned }
        .untouched
  | unlinked (artifact : String) :
      StepEffect w cached (.unlink artifact) { w with condemned := w.condemned.erase artifact }
        (.removed artifact)
  | stored (artifact : String) (listed : artifact ∈ w.unresolved) :
      StepEffect w cached (.store artifact)
        { w with
          unresolved := w.unresolved.erase artifact
          ready := insert artifact w.ready }
        (.placed artifact)
  | failed (artifact message : String) :
      StepEffect w cached (.fail artifact message)
        { w with
          unresolved := w.unresolved.erase artifact
          checking := w.checking.erase artifact
          failures := w.failuresAfter artifact message }
        .untouched
  | ended (action : PreparationStep) (result : Except String (Finset String))
    (hresult : ∀ ready, result = .ok ready → ready = w.ready) :
      StepEffect w cached action { w with phase := .collected result } .untouched
  | decided (result : Except String (Finset String)) (collected : w.phase = .collected result)
      (phase : WorkerPhase) (hphase : ∀ result, phase ≠ .collected result) :
      StepEffect w cached .checkCancelled
        { w with catalog := w.catalogOf result, phase := phase } .untouched

lemma materialized_ready {ready : Finset String} (h : w.materialized cancelled = .ok ready) :
    ready = w.ready := by
  unfold materialized at h
  split at h
  · cases h
  · split at h
    · cases h
      rfl
    · cases h

lemma step_effect (h : w.step cancelled cached action = some (w', effect)) :
    StepEffect w cached action w' effect := by
  cases action with
  | probe artifact =>
    obtain ⟨hguard, heq⟩ := ite_none_right_eq_some.mp h
    cases heq
    exact .probed artifact hguard.2.2
  | reuse artifact =>
    obtain ⟨hguard, heq⟩ := ite_none_right_eq_some.mp h
    cases heq
    exact .reused artifact hguard.2.1 hguard.2.2
  | condemn artifact =>
    obtain ⟨_, heq⟩ := ite_none_right_eq_some.mp h
    cases heq
    exact .condemned artifact
  | unlink artifact =>
    obtain ⟨_, heq⟩ := ite_none_right_eq_some.mp h
    cases heq
    exact .unlinked artifact
  | store artifact =>
    obtain ⟨hguard, heq⟩ := ite_none_right_eq_some.mp h
    cases heq
    have hidle := of_decide_eq_true hguard
    exact .stored artifact hidle.1
  | fail artifact message =>
    obtain ⟨_, heq⟩ := ite_none_right_eq_some.mp h
    cases heq
    exact .failed artifact message
  | panicked =>
    obtain ⟨_, heq⟩ := ite_none_right_eq_some.mp h
    cases heq
    exact .ended _ _ (fun _ h => by cases h)
  | collect =>
    obtain ⟨_, heq⟩ := ite_none_right_eq_some.mp h
    cases heq
    exact .ended _ _ (fun _ => materialized_ready)
  | checkCancelled =>
    simp only [step] at h
    split at h
    · rename_i result hphase
      split at h
      · cases h
        exact .decided result hphase _ (fun _ h => by cases h)
      · cases h
        exact .decided result hphase _ (fun _ h => by cases h)
    · cases h

inductive PhaseStep (w : Worker) (cancelled : Bool) (w' : Worker) : Prop
  | kept (hphase : w'.phase = w.phase) (hcatalog : w'.catalog = w.catalog)
  | collected (result : Except String (Finset String)) (hbefore : w.phase = .materializing)
      (hafter : w'.phase = .collected result)
  | decided (result : Except String (Finset String)) (hbefore : w.phase = .collected result)
      (hcatalog : w'.catalog = w.catalogOf result) (hafter : w'.phase = if cancelled then .releasing
        else .publishing)

lemma isMaterializing_eq_true (h : w.isMaterializing = true) : w.phase = .materializing := by
  unfold isMaterializing at h
  split at h
  · assumption
  · cases h

lemma step_phase (h : w.step cancelled cached action = some (w', effect)) : PhaseStep w cancelled w' := by
  cases action with
  | panicked =>
    obtain ⟨hguard, heq⟩ := ite_none_right_eq_some.mp h
    cases heq
    exact .collected _ (isMaterializing_eq_true hguard) rfl
  | collect =>
    obtain ⟨hguard, heq⟩ := ite_none_right_eq_some.mp h
    cases heq
    exact .collected _ (isMaterializing_eq_true hguard.1) rfl
  | checkCancelled =>
    simp only [step] at h
    split at h
    · rename_i result hphase
      split at h
      · rename_i hcancelled
        cases h
        exact .decided result hphase rfl (if_pos hcancelled).symm
      · rename_i hcancelled
        cases h
        exact .decided result hphase rfl (if_neg hcancelled).symm
    · cases h
  | _ =>
    obtain ⟨_, heq⟩ := ite_none_right_eq_some.mp h
    cases heq
    exact .kept rfl rfl

lemma step_manifest (h : StepEffect w cached action w' effect) : w'.manifest = w.manifest := by
  cases h <;> rfl

lemma step_held (h : StepEffect w cached action w' effect) {artifact : String}
    (hheld : artifact ∈ w'.held) :
    artifact ∈ w.held ∨ (artifact ∈ cached ∧ effect = .untouched) ∨ effect = .placed artifact := by
  unfold held at hheld ⊢
  cases h with
  | probed other present =>
    simp only [Finset.insert_union, Finset.mem_insert] at hheld
    rcases hheld with rfl | hold
    · exact .inr (.inl ⟨present, rfl⟩)
    · exact .inl hold
  | reused other listed seen =>
    simp only [Finset.mem_union, Finset.mem_erase, Finset.mem_insert] at hheld ⊢
    rcases hheld with ⟨_, hold⟩ | rfl | hold
    · exact .inl (.inl hold)
    · exact .inl (.inl seen)
    · exact .inl (.inr hold)
  | condemned other =>
    simp only [Finset.mem_union, Finset.mem_erase] at hheld ⊢
    rcases hheld with ⟨_, hold⟩ | hold
    · exact .inl (.inl hold)
    · exact .inl (.inr hold)
  | unlinked other => exact .inl hheld
  | stored other listed =>
    simp only [Finset.mem_union, Finset.mem_insert] at hheld ⊢
    rcases hheld with hold | rfl | hold
    · exact .inl (.inl hold)
    · exact .inr (.inr rfl)
    · exact .inl (.inr hold)
  | failed other message =>
    simp only [Finset.mem_union, Finset.mem_erase] at hheld ⊢
    rcases hheld with ⟨_, hold⟩ | hold
    · exact .inl (.inl hold)
    · exact .inl (.inr hold)
  | ended action result hresult => exact .inl hheld
  | decided result collected phase hphase => exact .inl hheld

lemma Sound.setPhase (hw : w.Sound) (phase : WorkerPhase) (hphase : ∀ result, phase ≠ .collected result) :
    ({ w with phase := phase } : Worker).Sound :=
  ⟨hw.unresolved_listed, hw.ready_listed, fun _ h =>
    absurd h (hphase _), hw.catalog_revision, hw.catalog_ready⟩

lemma Sound.step (hw : w.Sound) (h : StepEffect w cached action w' effect) : w'.Sound := by
  obtain ⟨hunresolved, hready, hcollected, hrevision, hcatalog⟩ := hw
  cases h with
  | probed other present => exact ⟨hunresolved, hready, hcollected, hrevision, hcatalog⟩
  | reused other listed seen =>
    have hgrown : w.ready ⊆ insert other w.ready := Finset.subset_insert other w.ready
    exact ⟨(Finset.erase_subset _ _).trans hunresolved, Finset.insert_subset (hunresolved listed) hready,
      fun ready h => (hcollected ready h).trans hgrown, hrevision, hcatalog.trans hgrown⟩
  | condemned other => exact ⟨hunresolved, hready, hcollected, hrevision, hcatalog⟩
  | unlinked other => exact ⟨hunresolved, hready, hcollected, hrevision, hcatalog⟩
  | stored other listed =>
    have hgrown : w.ready ⊆ insert other w.ready := Finset.subset_insert other w.ready
    exact ⟨(Finset.erase_subset _ _).trans hunresolved, Finset.insert_subset (hunresolved listed) hready,
      fun ready h => (hcollected ready h).trans hgrown, hrevision, hcatalog.trans hgrown⟩
  | failed other message =>
    exact ⟨(Finset.erase_subset _ _).trans hunresolved, hready, hcollected, hrevision, hcatalog⟩
  | ended action result hresult =>
    refine ⟨hunresolved, hready, ?_, hrevision, hcatalog⟩
    intro ready h
    simp only [WorkerPhase.collected.injEq] at h
    exact (hresult ready h).subset
  | decided result collected phase hphase =>
    refine ⟨hunresolved, hready, fun ready h => absurd h (hphase _), ?_, ?_⟩
    · cases result <;> exact hrevision
    · cases result with
      | error message => exact hcatalog
      | ok ready => exact hcollected ready collected

end Worker

def AddCall.firmware (add : AddCall) : Option FirmwareObject :=
  match add.phase with
  | .selected firmware => some firmware
  | .spawned firmware _ => some firmware
  | _ => none

def AddCall.worker (add : AddCall) : Option Worker :=
  match add.phase with
  | .spawned _ worker => some worker
  | _ => none

def AddFirmwareObjectRequest.row (request : AddFirmwareObjectRequest) (now : Nat) : FirmwareObject :=
  ⟨request.manifest.objectId, request.hardwareType, false, false, request.manifest,
    some (.preparing request.manifest), now, now⟩

namespace FirmwareService

variable {s t : FirmwareService} {action : FirmwareAction}

@[simp] lemma withFiles_catalog (s : FirmwareService) (id : String) (effect : FileEffect) :
    (s.withFiles id effect).catalog = s.catalog := by
  cases effect <;> rfl

@[simp] lemma withFiles_adds (s : FirmwareService) (id : String) (effect : FileEffect) :
    (s.withFiles id effect).adds = s.adds := by
  cases effect <;> rfl

/-- All that a step does, with the guards under which it does it. -/
inductive Transition (s : FirmwareService) : StoreAction → FirmwareService → Prop
  | createFailed : Transition s .createFails s
  | refused (call : Nat) (request : AddFirmwareObjectRequest) (now : Nat) :
      Transition s (.completes (.create call request now)) s
  | created (call : Nat) (request : AddFirmwareObjectRequest) (now : Nat) (free : s.adds.lookup call = none)
      (vacant : s.catalog.lookup request.manifest.objectId = none) :
      Transition s (.completes (.create call request now))
        { s with
          catalog := s.catalog.insert request.manifest.objectId (request.row now)
          adds := s.adds.insert call ⟨request, request.row now, .created⟩ }
  | selectionFailed (call now : Nat) (add : AddCall) (error : RmsError)
    (tracked : s.adds.lookup call = some add)
      (hphase : add.phase = .created) (vacant : s.catalog.lookup add.request.manifest.objectId = none) :
      Transition s (.completes (.selectDefault call now)) (s.setAdd call add (.failed error))
  | selectionErrored (call : Nat) (add : AddCall) (error : RmsError)
    (tracked : s.adds.lookup call = some add)
      (hphase : add.phase = .created) :
      Transition s (.selectDefaultFails call error) (s.setAdd call add (.failed error))
  | selected (call now : Nat) (add : AddCall) (firmware : FirmwareObject) (catalog : FirmwareCatalog)
      (tracked : s.adds.lookup call = some add) (hphase : add.phase = .created)
      (row : catalog.lookup add.request.manifest.objectId = some firmware)
      (retouched : FirmwareCatalog.Retouched s.catalog catalog)
      (kept : FirmwareCatalog.Keeps s.catalog catalog) :
      Transition s (.completes (.selectDefault call now))
        { s.setAdd call add (.selected firmware) with catalog := catalog }
  | registered (call : Nat) (add : AddCall) (firmware : FirmwareObject)
    (tracked : s.adds.lookup call = some add)
      (hphase : add.phase = .selected firmware) :
      Transition s (.completes (.register call))
        { s.setAdd call add (.spawned firmware (.start add.request.manifest)) with
          cancellations := s.cancellations.insert add.request.manifest.objectId call }
  | prepared (call : Nat) (action : PreparationStep) (add : AddCall) (firmware : FirmwareObject)
      (worker worker' : Worker) (effect : FileEffect) (tracked : s.adds.lookup call = some add)
      (hphase : add.phase = .spawned firmware worker)
      (hstep : worker.step (call ∈ s.cancelledTokens) (s.cached firmware.id worker) action =
        some (worker', effect)) :
      Transition s (.completes (.prepare call action))
        ((s.setAdd call add (.spawned firmware worker')).withFiles firmware.id effect)
  | published (call now : Nat) (add : AddCall) (firmware : FirmwareObject) (worker : Worker)
      (row : FirmwareObject) (available : Bool) (tracked : s.adds.lookup call = some add)
      (hphase : add.phase = .spawned firmware worker) (hpublishing : worker.phase = .publishing)
      (hrow : s.catalog.lookup firmware.id = some row) (hcreated : row.created = firmware.created) :
      Transition s (.completes (.publish call now))
        { s.setAdd call add (.spawned firmware { worker with phase := .releasing }) with
          catalog := s.catalog.insert firmware.id
            { row with parsedComponents := some worker.catalog, available := available, updated := now } }
  | unpublished (call now : Nat) (add : AddCall) (firmware : FirmwareObject) (worker : Worker)
      (tracked : s.adds.lookup call = some add) (hphase : add.phase = .spawned firmware worker)
      (hpublishing : worker.phase = .publishing)
      (missing : ∀ row, s.catalog.lookup firmware.id = some row → row.created ≠ firmware.created) :
      Transition s (.completes (.publish call now))
        (s.setAdd call add (.spawned firmware { worker with phase := .releasing }))
  | publicationErrored (call : Nat) (add : AddCall) (firmware : FirmwareObject) (worker : Worker)
      (tracked : s.adds.lookup call = some add) (hphase : add.phase = .spawned firmware worker)
      (hpublishing : worker.phase = .publishing) :
      Transition s (.publishFails call)
        (s.setAdd call add (.spawned firmware { worker with phase := .releasing }))
  | released (call : Nat) (add : AddCall) (firmware : FirmwareObject) (worker : Worker)
      (tracked : s.adds.lookup call = some add) (hphase : add.phase = .spawned firmware worker)
      (hreleasing : worker.phase = .releasing) :
      Transition s (.completes (.release call))
        { s.setAdd call add (.spawned firmware { worker with phase := .finished }) with
          cancellations := if call ∈ s.cancelledTokens then s.cancellations
            else s.cancellations.erase firmware.id }
  | tokenTaken (call : Nat) (id : String) (token : Nat) (free : s.deletes.lookup call = none)
      (mapped : s.cancellations.lookup id = some token) :
      Transition s (.completes (.cancelDownload call id))
        { s.setDelete call id (.taken token) with cancellations := s.cancellations.erase id }
  | tokenMissing (call : Nat) (id : String) (free : s.deletes.lookup call = none)
      (unmapped : s.cancellations.lookup id = none) :
      Transition s (.completes (.cancelDownload call id))
        { s.setDelete call id .cancelled with cancellations := s.cancellations.erase id }
  | tokenCancelled (call : Nat) (delete : DeleteCall) (token : Nat)
    (tracked : s.deletes.lookup call = some delete)
      (hphase : delete.phase = .taken token) :
      Transition s (.completes (.cancelToken call))
        { s.setDelete call delete.id .cancelled with cancelledTokens := insert token s.cancelledTokens }
  | deleteFailed (call : Nat) (delete : DeleteCall) (error : RmsError)
    (tracked : s.deletes.lookup call = some delete)
      (hphase : delete.phase = .cancelled) (vacant : s.catalog.lookup delete.id = none) :
      Transition s (.completes (.deleteRow call)) (s.setDelete call delete.id (.failed error))
  | deletionErrored (call : Nat) (delete : DeleteCall) (error : RmsError)
    (tracked : s.deletes.lookup call = some delete)
      (hphase : delete.phase = .cancelled) :
      Transition s (.deleteRowFails call error) (s.setDelete call delete.id (.failed error))
  | rowDeleted (call : Nat) (delete : DeleteCall) (tracked : s.deletes.lookup call = some delete)
      (hphase : delete.phase = .cancelled) :
      Transition s (.completes (.deleteRow call))
        { s.setDelete call delete.id .removing with catalog := s.catalog.erase delete.id }
  | fileRemoved (call : Nat) (artifact : String) (delete : DeleteCall)
    (tracked : s.deletes.lookup call = some delete) :
      Transition s (.completes (.removeFile call artifact)) (s.withFiles delete.id (.removed artifact))
  | directoryRemoved (call : Nat) (delete : DeleteCall) (tracked : s.deletes.lookup call = some delete)
      (hphase : delete.phase = .removing) :
      Transition s (.completes (.removeDirectory call)) (s.setDelete call delete.id .finished)

variable {call now : Nat}

lemma create_transition {request : AddFirmwareObjectRequest} (h : s.create call request now = some t) :
    Transition s (.completes (.create call request now)) t := by
  unfold create at h
  obtain ⟨hguard, h⟩ := ite_none_left_eq_some.mp h
  have hfree : s.adds.lookup call = none := by
    simp only [not_or, isSome_iff_ne_none, ne_eq, not_not] at hguard
    exact hguard.1
  unfold FirmwareCatalog.create at h
  cases hrow : s.catalog.lookup request.manifest.objectId with
  | none =>
    simp only [hrow] at h
    cases h
    exact .created call request now hfree hrow
  | some row =>
    simp only [hrow] at h
    cases h
    exact .refused call request now

lemma selectDefault_transition (h : s.selectDefault call now = some t) :
    Transition s (.completes (.selectDefault call now)) t := by
  obtain ⟨add, hadd, h⟩ := bind_eq_some_iff.mp h
  cases hphase : add.phase with
  | created =>
    simp only [hphase] at h
    generalize hselection : (if add.request.setDefault = true
      then s.catalog.setDefault add.request.manifest.objectId now
      else s.catalog.setDefaultIfNone add.request.manifest.objectId now) = selection at h
    cases selection with
    | error error =>
      cases h
      refine .selectionFailed call now add error hadd hphase ?_
      split at hselection
      · exact FirmwareCatalog.setDefault_eq_error hselection
      · exact FirmwareCatalog.setDefaultIfNone_eq_error hselection
    | ok result =>
      obtain ⟨firmware, catalog⟩ := result
      cases h
      have hselected : catalog.lookup add.request.manifest.objectId = some firmware ∧
          FirmwareCatalog.Retouched s.catalog catalog ∧ FirmwareCatalog.Keeps s.catalog catalog := by
        split at hselection
        · exact FirmwareCatalog.setDefault_eq_ok hselection
        · exact FirmwareCatalog.setDefaultIfNone_eq_ok hselection
      exact .selected call now add firmware catalog hadd hphase hselected.1 hselected.2.1 hselected.2.2
  | selected firmware => simp [hphase] at h
  | spawned firmware worker => simp [hphase] at h
  | failed error => simp [hphase] at h

lemma register_transition (h : s.register call = some t) :
    Transition s (.completes (.register call)) t := by
  obtain ⟨add, hadd, h⟩ := bind_eq_some_iff.mp h
  cases hphase : add.phase with
  | selected firmware =>
    simp only [hphase] at h
    cases h
    exact .registered call add firmware hadd hphase
  | created => simp [hphase] at h
  | spawned firmware worker => simp [hphase] at h
  | failed error => simp [hphase] at h

lemma prepare_transition {action : PreparationStep} (h : s.prepare call action = some t) :
    Transition s (.completes (.prepare call action)) t := by
  obtain ⟨add, hadd, h⟩ := bind_eq_some_iff.mp h
  cases hphase : add.phase with
  | spawned firmware worker =>
    simp only [hphase] at h
    obtain ⟨⟨worker', effect⟩, hstep, h⟩ := bind_eq_some_iff.mp h
    cases h
    exact .prepared call action add firmware worker worker' effect hadd hphase hstep
  | created => simp [hphase] at h
  | selected firmware => simp [hphase] at h
  | failed error => simp [hphase] at h

lemma publish_transition (h : s.publish call now = some t) :
    Transition s (.completes (.publish call now)) t := by
  obtain ⟨add, hadd, h⟩ := bind_eq_some_iff.mp h
  cases hphase : add.phase with
  | spawned firmware worker =>
    simp only [hphase] at h
    split at h
    · rename_i hpublishing
      cases hfinish : s.catalog.finishPreparation firmware.id firmware.created worker.catalog
          (worker.catalog.preparation = .ready) now with
      | error error =>
        rw [hfinish] at h
        cases h
        exact .unpublished call now add firmware worker hadd hphase hpublishing
          (fun _ => FirmwareCatalog.finishPreparation_eq_error hfinish)
      | ok result =>
        obtain ⟨row', catalog⟩ := result
        rw [hfinish] at h
        cases h
        obtain ⟨row, hrow, hcreated, rfl, rfl⟩ := FirmwareCatalog.finishPreparation_eq_ok hfinish
        exact .published call now add firmware worker row _ hadd hphase hpublishing hrow hcreated
    · cases h
  | created => simp [hphase] at h
  | selected firmware => simp [hphase] at h
  | failed error => simp [hphase] at h

lemma release_transition (h : s.release call = some t) : Transition s (.completes (.release call)) t := by
  obtain ⟨add, hadd, h⟩ := bind_eq_some_iff.mp h
  cases hphase : add.phase with
  | spawned firmware worker =>
    simp only [hphase] at h
    split at h
    · rename_i hreleasing
      cases h
      exact .released call add firmware worker hadd hphase hreleasing
    · cases h
  | created => simp [hphase] at h
  | selected firmware => simp [hphase] at h
  | failed error => simp [hphase] at h

lemma cancelDownload_transition {id : String} (h : s.cancelDownload call id = some t) :
    Transition s (.completes (.cancelDownload call id)) t := by
  unfold cancelDownload at h
  obtain ⟨hguard, h⟩ := ite_none_left_eq_some.mp h
  have hfree : s.deletes.lookup call = none := by
    simp only [not_or, isSome_iff_ne_none, ne_eq, not_not] at hguard
    exact hguard.1
  cases hmapped : s.cancellations.lookup id with
  | none =>
    rw [hmapped] at h
    cases h
    exact .tokenMissing call id hfree hmapped
  | some token =>
    rw [hmapped] at h
    cases h
    exact .tokenTaken call id token hfree hmapped

lemma cancelToken_transition (h : s.cancelToken call = some t) :
    Transition s (.completes (.cancelToken call)) t := by
  obtain ⟨delete, hdelete, h⟩ := bind_eq_some_iff.mp h
  split at h
  · rename_i token hphase
    cases h
    exact .tokenCancelled call delete token hdelete hphase
  · cases h

lemma deleteRow_transition (h : s.deleteRow call = some t) :
    Transition s (.completes (.deleteRow call)) t := by
  obtain ⟨delete, hdelete, h⟩ := bind_eq_some_iff.mp h
  split at h
  · rename_i hphase
    unfold FirmwareCatalog.delete at h
    split at h
    · rename_i error hresult
      cases h
      split at hresult
      · cases hresult
      · rename_i hvacant
        exact .deleteFailed call delete error hdelete hphase (by simpa using hvacant)
    · rename_i catalog hresult
      cases h
      split at hresult
      · cases hresult
        exact .rowDeleted call delete hdelete hphase
      · cases hresult
  · cases h

lemma removeFile_transition {artifact : String} (h : s.removeFile call artifact = some t) :
    Transition s (.completes (.removeFile call artifact)) t := by
  obtain ⟨delete, hdelete, h⟩ := bind_eq_some_iff.mp h
  split at h
  · cases h
    exact .fileRemoved call artifact delete hdelete
  · cases h

lemma removeDirectory_transition (h : s.removeDirectory call = some t) :
    Transition s (.completes (.removeDirectory call)) t := by
  obtain ⟨delete, hdelete, h⟩ := bind_eq_some_iff.mp h
  split at h
  · rename_i hphase
    cases h
    exact .directoryRemoved call delete hdelete hphase
  · cases h

lemma step_transition (h : s.step action = some t) : Transition s (.completes action) t := by
  cases action with
  | create call request now => exact create_transition h
  | selectDefault call now => exact selectDefault_transition h
  | register call => exact register_transition h
  | prepare call action => exact prepare_transition h
  | publish call now => exact publish_transition h
  | release call => exact release_transition h
  | cancelDownload call id => exact cancelDownload_transition h
  | cancelToken call => exact cancelToken_transition h
  | deleteRow call => exact deleteRow_transition h
  | removeFile call artifact => exact removeFile_transition h
  | removeDirectory call => exact removeDirectory_transition h

lemma stepOrFail_transition {action : StoreAction} (h : s.stepOrFail action = some t) :
    Transition s action t := by
  cases action with
  | completes action => exact step_transition h
  | createFails =>
    cases h
    exact .createFailed
  | selectDefaultFails call error =>
    obtain ⟨add, hadd, h⟩ := bind_eq_some_iff.mp h
    split at h
    · rename_i hphase
      cases h
      exact .selectionErrored call add error hadd hphase
    · cases h
  | publishFails call =>
    obtain ⟨add, hadd, h⟩ := bind_eq_some_iff.mp h
    split at h
    · rename_i firmware worker hphase
      split at h
      · rename_i hpublishing
        cases h
        exact .publicationErrored call add firmware worker hadd hphase hpublishing
      · cases h
    · cases h
  | deleteRowFails call error =>
    obtain ⟨delete, hdelete, h⟩ := bind_eq_some_iff.mp h
    split at h
    · rename_i hphase
      cases h
      exact .deletionErrored call delete error hdelete hphase
    · cases h

end FirmwareService

def AddCall.objectId (add : AddCall) : String := add.request.manifest.objectId

/-- Rows are stored, and carried by the calls, under their own ID. -/
structure Keyed (catalog : FirmwareCatalog) (adds : FiniteMap Nat AddCall) : Prop where
  rows : ∀ id row, catalog.lookup id = some row → row.id = id
  carried : ∀ call add, adds.lookup call = some add → ∀ firmware ∈ add.firmware, firmware.id = add.objectId

namespace Keyed

variable {catalog : FirmwareCatalog} {adds : FiniteMap Nat AddCall} {call : Nat} {add : AddCall}

lemma empty : Keyed ∅ ∅ := ⟨by simp, by simp⟩

lemma setPhase (h : Keyed catalog adds) (hadd : adds.lookup call = some add) (phase : AddPhase)
    (hfirmware : ∀ firmware ∈ ({ add with phase := phase } : AddCall).firmware, firmware ∈ add.firmware) :
    Keyed catalog (adds.insert call { add with phase := phase }) :=
  ⟨h.rows, forall_insert h.carried (fun firmware hcarried =>
    h.carried call add hadd firmware (hfirmware firmware hcarried))⟩

lemma setWorker (h : Keyed catalog adds) (hadd : adds.lookup call = some add)
    (hfirmware : add.firmware = some firmware) (worker : Worker) :
    Keyed catalog (adds.insert call { add with phase := .spawned firmware worker }) := by
  refine h.setPhase hadd _ (fun other hother => ?_)
  cases hother
  exact hfirmware

end Keyed

lemma FirmwareService.keyed_of_transition {s t : FirmwareService} {action : StoreAction}
    (h : Keyed s.catalog s.adds) (hstep : Transition s action t) : Keyed t.catalog t.adds := by
  cases hstep with
  | created call request now free vacant =>
    exact ⟨forall_insert h.rows rfl, forall_insert h.carried (fun _ hcarried => nomatch hcarried)⟩
  | selectionFailed call now add error tracked =>
    exact h.setPhase tracked _ (fun _ hcarried => nomatch hcarried)
  | selectionErrored call add error tracked =>
    exact h.setPhase tracked _ (fun _ hcarried => nomatch hcarried)
  | selected call now add firmware catalog tracked hphase row retouched =>
    have hrows : ∀ id row', catalog.lookup id = some row' → row'.id = id := by
      intro id row' hrow'
      obtain ⟨old, hold, hsame⟩ := retouched id row' hrow'
      exact hsame.id.trans (h.rows id old hold)
    refine ⟨hrows, forall_insert h.carried ?_⟩
    rintro _ ⟨⟩
    exact hrows _ firmware row
  | registered call add firmware tracked hphase =>
    exact h.setWorker tracked (by simp [AddCall.firmware, hphase]) _
  | prepared call action add firmware worker worker' effect tracked hphase =>
    rw [withFiles_catalog, withFiles_adds]
    exact h.setWorker tracked (by simp [AddCall.firmware, hphase]) _
  | published call now add firmware worker row available tracked hphase hpublishing hrow =>
    have hfirmware : add.firmware = some firmware := by simp [AddCall.firmware, hphase]
    have hworker := h.setWorker tracked hfirmware { worker with phase := .releasing }
    exact ⟨forall_insert hworker.rows (h.rows _ row hrow), hworker.carried⟩
  | unpublished call now add firmware worker tracked hphase =>
    exact h.setWorker tracked (by simp [AddCall.firmware, hphase]) _
  | publicationErrored call add firmware worker tracked hphase =>
    exact h.setWorker tracked (by simp [AddCall.firmware, hphase]) _
  | released call add firmware worker tracked hphase =>
    exact h.setWorker tracked (by simp [AddCall.firmware, hphase]) _
  | rowDeleted call delete =>
    exact ⟨fun id row hrow => h.rows id row (lookup_erase_eq_some hrow).2, h.carried⟩
  | fileRemoved call artifact delete =>
    rw [withFiles_catalog, withFiles_adds]
    exact h
  | _ => exact h

/-- Every row, and every row that a call carries, was made by one of the calls. -/
structure Provenance (catalog : FirmwareCatalog) (adds : FiniteMap Nat AddCall) : Prop where
  own_request : ∀ k add, adds.lookup k = some add →
    add.own.id = add.request.manifest.objectId ∧ add.own.config = add.request.manifest
  row_made : ∀ id row, catalog.lookup id = some row →
    row.id = id ∧ ∃ k add, adds.lookup k = some add ∧ add.own.id = id ∧ add.own.created = row.created
  firmware_made : ∀ k add firmware, adds.lookup k = some add → add.firmware = some firmware →
    ∃ j other, adds.lookup j = some other ∧ other.own.id = firmware.id ∧
      other.own.created = firmware.created
  worker_sound : ∀ k add worker, adds.lookup k = some add → add.worker = some worker →
    worker.Sound ∧ worker.manifest = add.request.manifest

namespace Provenance

variable {catalog catalog' : FirmwareCatalog} {adds : FiniteMap Nat AddCall} {call : Nat} {add : AddCall}

lemma empty : Provenance ∅ ∅ where
  own_request := by simp
  row_made := by simp
  firmware_made := by simp
  worker_sound := by simp

lemma made_setPhase (hadd : adds.lookup call = some add) (phase : AddPhase) {id : String}
    (h : ∃ k other, adds.lookup k = some other ∧ other.own.id = id ∧ other.own.created = created) :
    ∃ k other, (adds.insert call { add with phase := phase }).lookup k = some other ∧
      other.own.id = id ∧ other.own.created = created := by
  obtain ⟨k, other, hother, hid, hcreated⟩ := h
  by_cases hk : k = call
  · subst hk
    rw [hadd] at hother
    cases hother
    exact ⟨k, _, AList.lookup_insert _, hid, hcreated⟩
  · exact ⟨k, other, by rw [AList.lookup_insert_ne hk, hother], hid, hcreated⟩

variable (h : Provenance catalog adds)
include h

lemma setPhase (hadd : adds.lookup call = some add) (phase : AddPhase)
    (hfirmware : ∀ firmware, ({ add with phase := phase } : AddCall).firmware = some firmware →
      ∃ k other, adds.lookup k = some other ∧ other.own.id = firmware.id ∧
        other.own.created = firmware.created)
    (hworker : ∀ worker, ({ add with phase := phase } : AddCall).worker = some worker →
      worker.Sound ∧ worker.manifest = add.request.manifest) :
    Provenance catalog (adds.insert call { add with phase := phase }) where
  own_request := forall_insert h.own_request (h.own_request call add hadd)
  row_made id row hrow := ⟨(h.row_made id row hrow).1, made_setPhase hadd phase (h.row_made id row hrow).2⟩
  firmware_made k other firmware hother hcarried := by
    apply made_setPhase hadd phase
    rcases lookup_insert_eq_some hother with ⟨_, rfl⟩ | ⟨_, hold⟩
    · exact hfirmware firmware hcarried
    · exact h.firmware_made k other firmware hold hcarried
  worker_sound k other worker hother hspawned := by
    rcases lookup_insert_eq_some hother with ⟨_, rfl⟩ | ⟨_, hold⟩
    · exact hworker worker hspawned
    · exact h.worker_sound k other worker hold hspawned

lemma setWorker (hadd : adds.lookup call = some add)
    {worker worker' : Worker} (hphase : add.phase = .spawned firmware worker)
    (hstep : worker.Sound → worker'.Sound ∧ worker'.manifest = worker.manifest) :
    Provenance catalog (adds.insert call { add with phase := .spawned firmware worker' }) := by
  have hmade := h.firmware_made call add firmware hadd (by simp [AddCall.firmware, hphase])
  have hworker := h.worker_sound call add worker hadd (by simp [AddCall.worker, hphase])
  obtain ⟨hsound, hmanifest⟩ := hstep hworker.1
  refine h.setPhase hadd (.spawned firmware worker') ?_ ?_
  · intro _ hfirmware
    cases hfirmware
    exact hmade
  · intro _ hsame
    cases hsame
    exact ⟨hsound, hmanifest.trans hworker.2⟩

lemma setCatalog (hrows : ∀ id row', catalog'.lookup id = some row' →
      ∃ row, catalog.lookup id = some row ∧ row'.id = row.id ∧ row'.created = row.created) :
    Provenance catalog' adds where
  own_request := h.own_request
  row_made id row' hrow' := by
    obtain ⟨row, hrow, hid, hcreated⟩ := hrows id row' hrow'
    rw [hid, hcreated]
    exact h.row_made id row hrow
  firmware_made := h.firmware_made
  worker_sound := h.worker_sound

lemma create (request : AddFirmwareObjectRequest) (now : Nat) (free : adds.lookup call = none) :
    Provenance (catalog.insert request.manifest.objectId (request.row now))
      (adds.insert call ⟨request, request.row now, .created⟩) := by
  have hmade : ∀ {id : String} {created : Nat},
      (∃ k other, adds.lookup k = some other ∧ other.own.id = id ∧ other.own.created = created) →
      ∃ k other, (adds.insert call ⟨request, request.row now, .created⟩).lookup k = some other ∧
        other.own.id = id ∧ other.own.created = created := by
    rintro id created ⟨k, other, hother, hid, hcreated⟩
    have hk : k ≠ call := by
      rintro rfl
      simp [free] at hother
    exact ⟨k, other, by rw [AList.lookup_insert_ne hk, hother], hid, hcreated⟩
  refine ⟨forall_insert h.own_request ⟨rfl, rfl⟩, ?_, ?_, ?_⟩
  · intro id row hrow
    rcases lookup_insert_eq_some hrow with ⟨rfl, rfl⟩ | ⟨_, hold⟩
    · exact ⟨rfl, call, _, AList.lookup_insert _, rfl, rfl⟩
    · exact ⟨(h.row_made id row hold).1, hmade (h.row_made id row hold).2⟩
  · intro k add firmware hadd hfirmware
    rcases lookup_insert_eq_some hadd with ⟨_, rfl⟩ | ⟨_, hold⟩
    · cases hfirmware
    · exact hmade (h.firmware_made k add firmware hold hfirmware)
  · intro k add worker hadd hworker
    rcases lookup_insert_eq_some hadd with ⟨_, rfl⟩ | ⟨_, hold⟩
    · cases hworker
    · exact h.worker_sound k add worker hold hworker

end Provenance

namespace FirmwareService

variable {s t : FirmwareService} {action : FirmwareAction}

lemma provenance_step (h : Provenance s.catalog s.adds) (hstep : s.step action = some t) :
    Provenance t.catalog t.adds := by
  cases step_transition hstep with
  | refused call request now => exact h
  | created call request now free vacant => exact h.create request now free
  | selectionFailed call now add error tracked =>
    exact h.setPhase tracked _ (fun _ h => by cases h) (fun _ h => by cases h)
  | selected call now add firmware catalog tracked hphase row retouched =>
    have hselected : ∀ carried,
        ({ add with phase := .selected firmware } : AddCall).firmware = some carried →
        ∃ k other, s.adds.lookup k = some other ∧ other.own.id = carried.id ∧
          other.own.created = carried.created := by
      intro _ hfirmware
      cases hfirmware
      obtain ⟨old, hold, hsame⟩ := retouched _ firmware row
      obtain ⟨hid, hmade⟩ := h.row_made _ old hold
      rw [hsame.id, hsame.created, hid]
      exact hmade
    have hphase := h.setPhase tracked (.selected firmware) hselected (fun _ h => by cases h)
    apply hphase.setCatalog
    intro id row' hrow'
    obtain ⟨old, hold, hsame⟩ := retouched id row' hrow'
    exact ⟨old, hold, hsame.id, hsame.created⟩
  | registered call add firmware tracked hphase =>
    have hmade := h.firmware_made call add firmware tracked (by simp [AddCall.firmware, hphase])
    refine h.setPhase tracked (.spawned firmware (.start add.request.manifest)) ?_ ?_
    · intro _ hfirmware
      cases hfirmware
      exact hmade
    · intro _ hworker
      cases hworker
      exact ⟨Worker.sound_start _, rfl⟩
  | prepared call action add firmware worker worker' effect tracked hphase hworker =>
    rw [withFiles_catalog, withFiles_adds]
    exact h.setWorker tracked hphase (fun hsound =>
      ⟨hsound.step (Worker.step_effect hworker), Worker.step_manifest (Worker.step_effect hworker)⟩)
  | published call now add firmware worker row available tracked hphase hpublishing hrow hcreated =>
    have hworker := h.setWorker tracked hphase
      (fun hsound => ⟨hsound.setPhase .releasing (fun _ h => by cases h), rfl⟩)
    apply hworker.setCatalog
    intro id row' hrow'
    rcases lookup_insert_eq_some hrow' with ⟨rfl, rfl⟩ | ⟨_, hold⟩
    · exact ⟨row, hrow, rfl, rfl⟩
    · exact ⟨row', hold, rfl, rfl⟩
  | unpublished call now add firmware worker tracked hphase =>
    exact h.setWorker tracked hphase
      (fun hsound => ⟨hsound.setPhase .releasing (fun _ h => by cases h), rfl⟩)
  | released call add firmware worker tracked hphase =>
    exact h.setWorker tracked hphase
      (fun hsound => ⟨hsound.setPhase .finished (fun _ h => by cases h), rfl⟩)
  | tokenTaken call id token => exact h
  | tokenMissing call id => exact h
  | tokenCancelled call delete token => exact h
  | deleteFailed call delete error => exact h
  | rowDeleted call delete =>
    apply h.setCatalog
    intro k row hrow
    exact ⟨row, (lookup_erase_eq_some hrow).2, rfl, rfl⟩
  | fileRemoved call artifact delete tracked =>
    rw [withFiles_catalog, withFiles_adds]
    exact h
  | directoryRemoved call delete => exact h

end FirmwareService

end RackManagement
