import RackManagement.Proofs.FirmwareIncarnations

/-!
# Files of the ready artifacts

All incarnations of an object share one cache directory, which a delete empties after it has deleted
the row.
-/

namespace RackManagement

open Library FiniteMap

/-- The delete call has not returned. -/
def DeletePhase.isOpen : DeletePhase → Bool
  | .taken _ | .cancelled | .removing => true
  | _ => false

namespace FirmwareService

variable {s t : FirmwareService} {action : FirmwareAction} {file : String × String}

def DeleteInProgress (s : FirmwareService) (id : String) : Prop :=
  ∃ delete ∈ s.deletes.values, delete.id = id ∧ delete.phase.isOpen = true

/-- Unless a deletion is on its way, every artifact of a ready object is on disk. -/
def ReadyFilesPresent (s : FirmwareService) (id : String) : Prop :=
  ¬s.DeleteInProgress id → ∀ row catalog, s.catalog.lookup id = some row →
    row.parsedComponents = some catalog → catalog.preparation = .ready →
    ∀ artifact ∈ catalog.readyArtifacts, (id, artifact) ∈ s.files

def removal (s : FirmwareService) : FirmwareAction → Option (String × String)
  | .removeFile call artifact => (s.deletes.lookup call).map (fun delete => (delete.id, artifact))
  | .prepare call (.unlink artifact) =>
    ((s.adds.lookup call).bind AddCall.firmware).map (fun firmware => (firmware.id, artifact))
  | _ => none

/-- The object's row lists the artifact as ready, or a preparation for that row has found the file
or put it in place. -/
def Claimed (s : FirmwareService) (file : String × String) : Prop :=
  ∃ row ∈ s.catalog.lookup file.1,
    (∃ catalog ∈ row.parsedComponents, file.2 ∈ catalog.readyArtifacts) ∨
    ∃ add ∈ s.adds.values, ∃ firmware ∈ add.firmware, ∃ worker ∈ add.worker,
      firmware.id = file.1 ∧ firmware.created = row.created ∧ file.2 ∈ worker.held

/-- A step removes only files without a claim on them. -/
def RemovesUnclaimed (s : FirmwareService) (action : FirmwareAction) : Prop :=
  ∀ file ∈ s.removal action, ¬s.Claimed file

instance (s : FirmwareService) (file : String × String) : Decidable (s.Claimed file) :=
  inferInstanceAs (Decidable (∃ row ∈ s.catalog.lookup file.1,
    (∃ catalog ∈ row.parsedComponents, file.2 ∈ catalog.readyArtifacts) ∨
    ∃ add ∈ s.adds.values, ∃ firmware ∈ add.firmware, ∃ worker ∈ add.worker,
      firmware.id = file.1 ∧ firmware.created = row.created ∧ file.2 ∈ worker.held))

instance (s : FirmwareService) (action : FirmwareAction) : Decidable (s.RemovesUnclaimed action) :=
  inferInstanceAs (Decidable (∀ file ∈ s.removal action, ¬s.Claimed file))

/-- A file that a row's catalog lists, or that a call's task counts on for that row. -/
inductive Claim (catalog : FirmwareCatalog) (adds : FiniteMap Nat AddCall) (file : String × String) : Prop
  | listed (row : FirmwareObject) (metadata : ArtifactCatalog) (hrow : catalog.lookup file.1 = some row)
      (hparsed : row.parsedComponents = some metadata) (hready : file.2 ∈ metadata.readyArtifacts)
  | held (row : FirmwareObject) (k : Nat) (add : AddCall) (firmware : FirmwareObject) (worker : Worker)
      (hrow : catalog.lookup file.1 = some row) (hadd : adds.lookup k = some add)
      (hphase : add.phase = .spawned firmware worker) (hid : firmware.id = file.1)
      (hcreated : firmware.created = row.created) (hheld : file.2 ∈ worker.held)

lemma claimed_iff : s.Claimed file ↔ Claim s.catalog s.adds file := by
  constructor
  · rintro ⟨row, hrow,
      ⟨metadata, hparsed, hready⟩ | ⟨add, hadd, firmware, hfirmware, worker, hworker, hid, hcreated, hheld⟩⟩
    · exact .listed row metadata hrow hparsed hready
    · obtain ⟨k, hk⟩ := (mem_values _ _).mp hadd
      have hphase : add.phase = .spawned firmware worker := by
        unfold AddCall.firmware at hfirmware
        unfold AddCall.worker at hworker
        cases hphase : add.phase <;> simp_all
      exact .held row k add firmware worker hrow hk hphase hid hcreated hheld
  · rintro (⟨row, metadata, hrow, hparsed, hready⟩ |
      ⟨row, k, add, firmware, worker, hrow, hadd, hphase, hid, hcreated, hheld⟩)
    · exact ⟨row, hrow, .inl ⟨metadata, hparsed, hready⟩⟩
    · refine ⟨row, hrow,
        .inr ⟨add, (mem_values _ _).mpr ⟨k, hadd⟩, firmware, ?_, worker, ?_, hid, hcreated, hheld⟩⟩
      · simp [AddCall.firmware, hphase]
      · simp [AddCall.worker, hphase]

namespace Claim

variable {catalog catalog' : FirmwareCatalog} {adds : FiniteMap Nat AddCall} {call : Nat} {add : AddCall}

lemma retouch (h : Claim catalog' adds file) (hretouched : FirmwareCatalog.Retouched catalog catalog') :
    Claim catalog adds file := by
  cases h with
  | listed row' metadata hrow' hparsed hready =>
    obtain ⟨row, hrow, hsame⟩ := hretouched _ row' hrow'
    exact .listed row metadata hrow (by rw [← hsame.parsedComponents, hparsed]) hready
  | held row' k add firmware worker hrow' hadd hphase hid hcreated hheld =>
    obtain ⟨row, hrow, hsame⟩ := hretouched _ row' hrow'
    exact .held row k add firmware worker hrow hadd hphase hid (by rw [hcreated, hsame.created]) hheld

lemma setPhase {phase : AddPhase} (h : Claim catalog (adds.insert call { add with phase := phase }) file) :
    Claim catalog adds file ∨ ∃ row firmware worker, catalog.lookup file.1 = some row ∧
      phase = .spawned firmware worker ∧ firmware.id = file.1 ∧ firmware.created = row.created ∧
      file.2 ∈ worker.held := by
  cases h with
  | listed row metadata hrow hparsed hready => exact .inl (.listed row metadata hrow hparsed hready)
  | held row k other firmware worker hrow hother hphase hid hcreated hheld =>
    rcases lookup_insert_eq_some hother with ⟨_, rfl⟩ | ⟨_, hold⟩
    · exact .inr ⟨row, firmware, worker, hrow, hphase, hid, hcreated, hheld⟩
    · exact .inl (.held row k other firmware worker hrow hold hphase hid hcreated hheld)

lemma of_setPhase {phase : AddPhase} (hphase : ∀ firmware worker, phase ≠ .spawned firmware worker)
    (h : Claim catalog (adds.insert call { add with phase := phase }) file) : Claim catalog adds file := by
  rcases h.setPhase with hold | ⟨_, firmware, worker, _, hspawned, _⟩
  · exact hold
  · exact absurd hspawned (hphase firmware worker)

variable {firmware : FirmwareObject}

lemma of_setWorkerPhase (hadd : adds.lookup call = some add) {worker : Worker}
    (hphase : add.phase = .spawned firmware worker) (phase : WorkerPhase) (h : Claim catalog
      (adds.insert call { add with phase := .spawned firmware { worker with phase := phase } }) file) :
    Claim catalog adds file := by
  rcases h.setPhase with hold | ⟨row, _, _, hrow, hspawned, hid, hcreated, hmem⟩
  · exact hold
  · cases hspawned
    exact .held row call add firmware worker hrow hadd hphase hid hcreated hmem

lemma of_create (hmade : Provenance catalog adds) (request : AddFirmwareObjectRequest) (now : Nat)
    (fresh : ∀ k add, adds.lookup k = some add → add.own.id = request.manifest.objectId →
      add.own.created ≠ now)
    (h : Claim (catalog.insert request.manifest.objectId (request.row now))
      (adds.insert call ⟨request, request.row now, .created⟩) file) : Claim catalog adds file := by
  cases h with
  | listed row metadata hrow hparsed hready =>
    rcases lookup_insert_eq_some hrow with ⟨_, rfl⟩ | ⟨_, hold⟩
    · cases hparsed
      simp [ArtifactCatalog.preparing] at hready
    · exact .listed row metadata hold hparsed hready
  | held row k add firmware worker hrow hadd hphase hid hcreated hheld =>
    rcases lookup_insert_eq_some hadd with ⟨_, rfl⟩ | ⟨_, hadd⟩
    · cases hphase
    · rcases lookup_insert_eq_some hrow with ⟨hnew, rfl⟩ | ⟨_, hold⟩
      · -- The task carries a creation time that some call used before.
        obtain ⟨j, other, hother, hother_id, hother_created⟩ :=
          hmade.firmware_made k add firmware hadd (by simp [AddCall.firmware, hphase])
        exact absurd (hother_created.trans hcreated)
          (fresh j other hother (by rw [hother_id, hid, hnew]))
      · exact .held row k add firmware worker hold hadd hphase hid hcreated hheld

lemma of_publish (hadd : adds.lookup call = some add) {worker : Worker}
    (hphase : add.phase = .spawned firmware worker) (hsound : worker.Sound) {row : FirmwareObject}
    (hrow : catalog.lookup firmware.id = some row) (hcreated : row.created = firmware.created)
    (available : Bool) (now : Nat) (h : Claim (catalog.insert firmware.id
        { row with parsedComponents := some worker.catalog, available := available, updated := now
          }) adds file) :
    Claim catalog adds file := by
  cases h with
  | listed row' metadata hrow' hparsed hready =>
    rcases lookup_insert_eq_some hrow' with ⟨hid, rfl⟩ | ⟨_, hold⟩
    · cases hparsed
      have hheld : file.2 ∈ worker.held := Finset.mem_union_right _ (hsound.catalog_ready hready)
      exact .held row call add firmware worker (by rw [hid, hrow]) hadd hphase hid.symm hcreated.symm hheld
    · exact .listed row' metadata hold hparsed hready
  | held row' k other carried task hrow' hother hspawned hid hcarried hheld =>
    rcases lookup_insert_eq_some hrow' with ⟨hkey, rfl⟩ | ⟨_, hold⟩
    · exact .held row k other carried task (by rw [hkey, hrow]) hother hspawned hid hcarried hheld
    · exact .held row' k other carried task hold hother hspawned hid hcarried hheld

end Claim

def ClaimsKept (s : FirmwareService) : Prop :=
  ∀ file, Claim s.catalog s.adds file → file ∈ s.files

lemma ClaimsKept.remove {f : String × String} (h : s.ClaimsKept) (hunclaimed : ¬s.Claimed f)
    {file : String × String} (hfile : Claim s.catalog s.adds file) : file ∈ s.files.erase f := by
  refine Finset.mem_erase.mpr ⟨?_, h file hfile⟩
  rintro rfl
  exact hunclaimed (claimed_iff.mpr hfile)

lemma claimsKept_prepare {call : Nat} {action : PreparationStep} {add : AddCall}
    {worker worker' : Worker} {effect : FileEffect} (h : s.ClaimsKept)
    (hremoves : s.RemovesUnclaimed (.prepare call action)) (hadd : s.adds.lookup call = some add)
    (hphase : add.phase = .spawned firmware worker)
    (hstep : worker.StepEffect (s.cached firmware.id worker) action worker' effect) :
    ((s.setAdd call add (.spawned firmware worker')).withFiles firmware.id effect).ClaimsKept := by
  intro file hclaim
  rw [withFiles_catalog, withFiles_adds] at hclaim
  have hcases : Claim s.catalog s.adds file ∨ (file ∈ s.files ∧ effect = .untouched) ∨
      effect = .placed file.2 ∧ file.1 = firmware.id := by
    rcases hclaim.setPhase with hold | ⟨row, _, _, hrow, hspawned, hid, hcreated, hmem⟩
    · exact .inl hold
    · cases hspawned
      rcases Worker.step_held hstep hmem with hheld | ⟨hcached, heffect⟩ | hplaced
      · exact .inl (.held row call add firmware worker hrow hadd hphase hid hcreated hheld)
      · have hpresent := (Finset.mem_filter.mp hcached).2
        rw [hid] at hpresent
        exact .inr (.inl ⟨hpresent, heffect⟩)
      · exact .inr (.inr ⟨hplaced, hid.symm⟩)
  cases effect with
  | untouched =>
    rcases hcases with hold | ⟨hpresent, _⟩ | ⟨hplaced, _⟩
    · exact h file hold
    · exact hpresent
    · cases hplaced
  | placed artifact =>
    rcases hcases with hold | ⟨_, huntouched⟩ | ⟨hplaced, hid⟩
    · exact Finset.mem_insert_of_mem (h file hold)
    · cases huntouched
    · cases hplaced
      exact Finset.mem_insert.mpr (.inl (Prod.ext hid rfl))
  | removed artifact =>
    have hunclaimed : ¬s.Claimed (firmware.id, artifact) := by
      cases hstep
      exact hremoves _ (by simp [removal, hadd, AddCall.firmware, hphase])
    rcases hcases with hold | ⟨_, huntouched⟩ | ⟨hplaced, _⟩
    · exact h.remove hunclaimed hold
    · cases huntouched
    · cases hplaced

lemma claimsKept_step
    (hmade : Provenance s.catalog s.adds) (h : s.ClaimsKept) (hfresh : s.FreshCreation action)
    (hremoves : s.RemovesUnclaimed action) (hstep : s.step action = some t) : t.ClaimsKept := by
  cases step_transition hstep with
  | refused call request now => exact h
  | created call request now free vacant =>
    intro file hclaim
    apply h file
    apply hclaim.of_create hmade request now
    rintro k add hadd hid rfl
    exact hfresh.ne hadd (by rw [hid]; rfl)
  | selectionFailed call now add error tracked =>
    exact fun file hclaim => h file (hclaim.of_setPhase (fun _ _ h => by cases h))
  | selected call now add firmware catalog tracked hphase row retouched =>
    intro file hclaim
    have hold : Claim s.catalog _ file := Claim.retouch hclaim retouched
    exact h file (hold.of_setPhase (fun _ _ h => by cases h))
  | registered call add firmware tracked hphase =>
    intro file hclaim
    rcases Claim.setPhase hclaim with hold | ⟨_, _, _, _, hspawned, _, _, hmem⟩
    · exact h file hold
    · cases hspawned
      simp [Worker.held_start] at hmem
  | prepared call action add firmware worker worker' effect tracked hphase hworker =>
    exact claimsKept_prepare h hremoves tracked hphase (Worker.step_effect hworker)
  | published call now add firmware worker row available tracked hphase hpublishing hrow hcreated =>
    intro file hclaim
    have hsound := (hmade.worker_sound call add worker tracked (by simp [AddCall.worker, hphase])).1
    have hreleasing : Claim s.catalog _ file :=
      Claim.of_publish (AList.lookup_insert _) rfl (hsound.setPhase .releasing (fun _ h => by cases h))
        hrow hcreated available now hclaim
    exact h file (hreleasing.of_setWorkerPhase tracked hphase .releasing)
  | unpublished call now add firmware worker tracked hphase =>
    exact fun file hclaim => h file (Claim.of_setWorkerPhase tracked hphase .releasing hclaim)
  | released call add firmware worker tracked hphase =>
    exact fun file hclaim => h file (Claim.of_setWorkerPhase tracked hphase .finished hclaim)
  | tokenTaken call id token => exact h
  | tokenMissing call id => exact h
  | tokenCancelled call delete token => exact h
  | deleteFailed call delete error => exact h
  | rowDeleted call delete =>
    intro file hclaim
    have hretouched : FirmwareCatalog.Retouched s.catalog (s.catalog.erase delete.id) :=
      fun _ row hrow => ⟨row, (lookup_erase_eq_some hrow).2, .refl row⟩
    exact h file (Claim.retouch hclaim hretouched)
  | fileRemoved call artifact delete tracked =>
    intro file hclaim
    exact h.remove (hremoves _ (by simp [removal, tracked])) hclaim
  | directoryRemoved call delete => exact h

/-- In every run with fresh creation times whose steps remove no claimed file, ready artifacts have their files. -/
theorem ready_artifacts_have_files {ops : List FirmwareAction} {t : FirmwareService}
    (hrun : run step empty ops = some t)
    (hP : Along step (fun s action _ => s.FreshCreation action ∧ s.RemovesUnclaimed action) empty ops)
    (id : String) : t.ReadyFilesPresent id := by
  let I : FirmwareService → Prop := fun s => Provenance s.catalog s.adds ∧ s.ClaimsKept
  have hstep : ∀ s action t, I s → s.FreshCreation action ∧ s.RemovesUnclaimed action →
      step s action = some t → I t :=
    fun s action t h hP hstep => ⟨provenance_step h.1 hstep, claimsKept_step h.1 h.2 hP.1 hP.2 hstep⟩
  have hempty : I empty := by
    refine ⟨Provenance.empty, ?_⟩
    rintro file (⟨row, _, hrow, _⟩ | ⟨row, _, _, _, _, hrow, _⟩)
    · simp [empty] at hrow
    · simp [empty] at hrow
  have hkept := (run_invariant_along hstep hempty hP hrun).2
  intro _ row catalog hrow hparsed _ artifact hready
  exact hkept (id, artifact) (.listed row catalog hrow hparsed hready)

/-- The run in which the second add begins after the first one's delete has ended. -/
theorem addedInTurn_files : ∃ t row catalog, run step empty addedInTurn = some t ∧
    t.catalog.lookup "rack_1" = some row ∧ row.parsedComponents = some catalog ∧
    catalog.preparation = .ready ∧ catalog.readyArtifacts = {"b"} ∧ t.ReadyFilesPresent "rack_1" := by
  have hP : Along step (fun s action _ => s.FreshCreation action ∧ s.RemovesUnclaimed action) empty
      addedInTurn := by
    decide +kernel
  exact ⟨_, _, _, rfl, rfl, rfl, rfl, rfl, ready_artifacts_have_files rfl hP "rack_1"⟩

/-- The object is added again, and prepared, before the delete empties the directory. -/
def addedWhileDeleting : List FirmwareAction :=
  [.create 1 ⟨firstManifest, "rack", true⟩ 10, .selectDefault 1 11, .register 1, .prepare 1 (.store "a"),
    .prepare 1 .collect, .prepare 1 .checkCancelled, .publish 1 12, .release 1, .cancelDownload 1 "rack_1",
    .deleteRow 1, .create 2 ⟨firstManifest, "rack", true⟩ 20, .selectDefault 2 21, .register 2,
    .prepare 2 (.probe "a"), .prepare 2 (.reuse "a"), .prepare 2 .collect, .prepare 2 .checkCancelled,
    .publish 2 22, .release 2, .removeFile 1 "a", .removeDirectory 1]

/-- The delete is over and the object is ready, but the file is gone. -/
theorem addedWhileDeleting_loses_file : ∃ t, run step empty addedWhileDeleting = some t ∧
    Along step (fun s action _ => s.FreshCreation action) empty addedWhileDeleting ∧
    ¬t.DeleteInProgress "rack_1" ∧ ¬t.ReadyFilesPresent "rack_1" := by
  have hdone : ∃ t, run step empty addedWhileDeleting = some t ∧ ¬t.DeleteInProgress "rack_1" :=
    ⟨_, rfl, by unfold DeleteInProgress; decide +kernel⟩
  obtain ⟨t, hrun, hdone⟩ := hdone
  refine ⟨t, hrun, by decide +kernel, hdone, ?_⟩
  intro h
  cases hrun
  exact absurd (h hdone _ _ rfl rfl rfl "a" (by decide)) (by decide)

end FirmwareService

end RackManagement
