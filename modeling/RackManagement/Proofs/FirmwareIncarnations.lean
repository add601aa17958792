import RackManagement.Proofs.FirmwareSteps

/-!
# Incarnations of a firmware object

A preparation publishes into the row with the creation time that its add took from the default
selection. Another incarnation may come between the two catalog operations of an add.
-/

namespace RackManagement

open Library FiniteMap

/-- The row's catalog lists artifacts of the manifest that the row stores. -/
def FirmwareObject.Described (row : FirmwareObject) : Prop :=
  ∃ catalog, row.parsedComponents = some catalog ∧ catalog.revision = row.config.revision ∧
    catalog.readyArtifacts ⊆ row.config.artifactIds

/-- Rows and calls agree on which call made which row, and each call carries its own. -/
structure Incarnations (catalog : FirmwareCatalog) (adds : FiniteMap Nat AddCall) : Prop where
  row_config : ∀ id row k add, catalog.lookup id = some row → adds.lookup k = some add → add.own.id = id →
    add.own.created = row.created → row.config = add.own.config
  firmware_own : ∀ k add firmware, adds.lookup k = some add → add.firmware = some firmware →
    firmware.id = add.own.id ∧ firmware.created = add.own.created
  described : ∀ id row, catalog.lookup id = some row → row.Described

namespace Incarnations

variable {catalog catalog' : FirmwareCatalog} {adds : FiniteMap Nat AddCall} {call : Nat} {add : AddCall}

lemma empty : Incarnations ∅ ∅ where
  row_config := by simp
  firmware_own := by simp
  described := by simp

variable (h : Incarnations catalog adds)
include h

lemma setPhase (hadd : adds.lookup call = some add) (phase : AddPhase)
    (hfirmware : ∀ firmware, ({ add with phase := phase } : AddCall).firmware = some firmware →
      firmware.id = add.own.id ∧ firmware.created = add.own.created) :
    Incarnations catalog (adds.insert call { add with phase := phase }) where
  row_config id row k other hrow hother := by
    rcases lookup_insert_eq_some hother with ⟨_, rfl⟩ | ⟨_, hold⟩
    · exact h.row_config id row call add hrow hadd
    · exact h.row_config id row k other hrow hold
  firmware_own k other firmware hother hcarried := by
    rcases lookup_insert_eq_some hother with ⟨_, rfl⟩ | ⟨_, hold⟩
    · exact hfirmware firmware hcarried
    · exact h.firmware_own k other firmware hold hcarried
  described := h.described

lemma setWorker (hadd : adds.lookup call = some add) {firmware : FirmwareObject}
    (hfirmware : add.firmware = some firmware) (worker : Worker) :
    Incarnations catalog (adds.insert call { add with phase := .spawned firmware worker }) := by
  refine h.setPhase hadd (.spawned firmware worker) ?_
  intro _ hsame
  cases hsame
  exact h.firmware_own call add firmware hadd hfirmware

lemma retouch (hretouched : FirmwareCatalog.Retouched catalog catalog') : Incarnations catalog' adds where
  row_config id row' k add hrow' hadd hid hcreated := by
    obtain ⟨row, hrow, hsame⟩ := hretouched id row' hrow'
    rw [hsame.config]
    exact h.row_config id row k add hrow hadd hid (by rw [hcreated, hsame.created])
  firmware_own := h.firmware_own
  described id row' hrow' := by
    obtain ⟨row, hrow, hsame⟩ := hretouched id row' hrow'
    obtain ⟨described, hparsed, hrevision, hready⟩ := h.described id row hrow
    refine ⟨described, by rw [hsame.parsedComponents, hparsed], ?_, ?_⟩
    · rw [hsame.config, hrevision]
    · rw [hsame.config]
      exact hready

lemma erase (id : String) : Incarnations (catalog.erase id) adds :=
  h.retouch (fun _ row hrow => ⟨row, (lookup_erase_eq_some hrow).2, .refl row⟩)

lemma create (request : AddFirmwareObjectRequest) (now : Nat)
    (fresh : ∀ k add, adds.lookup k = some add → add.own.id = request.manifest.objectId →
      add.own.created ≠ now) :
    Incarnations (catalog.insert request.manifest.objectId (request.row now))
      (adds.insert call ⟨request, request.row now, .created⟩) where
  row_config id row k add hrow hadd hid hcreated := by
    rcases lookup_insert_eq_some hrow with ⟨rfl, rfl⟩ | ⟨hne, hold⟩
    · rcases lookup_insert_eq_some hadd with ⟨_, rfl⟩ | ⟨_, hold⟩
      · rfl
      · exact absurd hcreated (fresh k add hold hid)
    · rcases lookup_insert_eq_some hadd with ⟨_, rfl⟩ | ⟨_, hadd⟩
      · exact absurd hid.symm hne
      · exact h.row_config id row k add hold hadd hid hcreated
  firmware_own k add firmware hadd hfirmware := by
    rcases lookup_insert_eq_some hadd with ⟨_, rfl⟩ | ⟨_, hold⟩
    · cases hfirmware
    · exact h.firmware_own k add firmware hold hfirmware
  described := forall_insert h.described ⟨_, rfl, rfl, Finset.empty_subset _⟩

lemma publish {id : String} {row : FirmwareObject}
    (hrow : catalog.lookup id = some row) (metadata : ArtifactCatalog) (available : Bool) (now : Nat)
    (hrevision : metadata.revision = row.config.revision)
    (hready : metadata.readyArtifacts ⊆ row.config.artifactIds) :
    Incarnations
      (catalog.insert id
        { row with parsedComponents := some metadata, available := available, updated := now })
      adds where
  row_config k other j add hother hadd := by
    rcases lookup_insert_eq_some hother with ⟨rfl, rfl⟩ | ⟨_, hold⟩
    · exact h.row_config _ row j add hrow hadd
    · exact h.row_config k other j add hold hadd
  firmware_own := h.firmware_own
  described := forall_insert h.described ⟨metadata, rfl, hrevision, hready⟩

end Incarnations

namespace FirmwareService

variable {s t : FirmwareService} {action : FirmwareAction}

def creation : FirmwareAction → Option (String × Nat)
  | .create _ request now => some (request.manifest.objectId, now)
  | _ => none

/-- Two incarnations of an object do not share a creation time. -/
def FreshCreation (s : FirmwareService) (action : FirmwareAction) : Prop :=
  ∀ add ∈ s.adds.values, creation action ≠ some (add.own.id, add.own.created)

def selection (s : FirmwareService) : FirmwareAction → Option AddCall
  | .selectDefault call _ => s.adds.lookup call
  | _ => none

/-- A default selection finds the row that its own call created, or none. -/
def SelectsOwnRow (s : FirmwareService) (action : FirmwareAction) : Prop :=
  ∀ add ∈ s.selection action, ∀ row ∈ s.catalog.lookup add.own.id, row.created = add.own.created

def publication (s : FirmwareService) : FirmwareAction → Option (AddCall × FirmwareObject)
  | .publish call _ => do
    let add ← s.adds.lookup call
    match add.phase with
    | .spawned firmware worker =>
      match worker.phase with
      | .publishing =>
        let row ← (s.catalog.lookup firmware.id).filter (fun row => row.created == firmware.created)
        some (add, row)
      | _ => none
    | _ => none
  | _ => none

/-- A publication that succeeds updates the row that its call created. -/
def PublishesIntoOwnRow (s : FirmwareService) (action : FirmwareAction) : Prop :=
  ∀ publication ∈ s.publication action,
    publication.2.id = publication.1.own.id ∧ publication.2.created = publication.1.own.created

instance (s : FirmwareService) (action : FirmwareAction) : Decidable (s.FreshCreation action) :=
  inferInstanceAs (Decidable (∀ add ∈ s.adds.values, creation action ≠ some (add.own.id, add.own.created)))

instance (s : FirmwareService) (action : FirmwareAction) : Decidable (s.SelectsOwnRow action) :=
  inferInstanceAs (Decidable (∀ add ∈ s.selection action, ∀ row ∈ s.catalog.lookup add.own.id,
    row.created = add.own.created))

lemma FreshCreation.ne (h : s.FreshCreation action) {k : Nat} {add : AddCall}
    (hadd : s.adds.lookup k = some add) : creation action ≠ some (add.own.id, add.own.created) :=
  h add ((mem_values _ _).mpr ⟨k, hadd⟩)

lemma publication_eq_some {call now : Nat} {add : AddCall} {row : FirmwareObject}
    (h : s.publication (.publish call now) = some (add, row)) :
    ∃ firmware worker, s.adds.lookup call = some add ∧ add.phase = .spawned firmware worker ∧
      s.catalog.lookup firmware.id = some row ∧ row.created = firmware.created := by
  obtain ⟨add', hadd, h⟩ := Option.bind_eq_some_iff.mp h
  split at h
  · rename_i firmware worker hphase
    split at h
    · obtain ⟨row', hfilter, h⟩ := Option.bind_eq_some_iff.mp h
      cases h
      obtain ⟨hrow, hcreated⟩ := Option.filter_eq_some_iff.mp hfilter
      exact ⟨firmware, worker, hadd, hphase, hrow, by simpa using hcreated⟩
    · cases h
  · cases h

lemma incarnations_step (hmade : Provenance s.catalog s.adds) (h : Incarnations s.catalog s.adds)
    (hfresh : s.FreshCreation action) (hselect : s.SelectsOwnRow action) (hstep : s.step action = some t) :
    Incarnations t.catalog t.adds := by
  cases step_transition hstep with
  | refused call request now => exact h
  | created call request now free vacant =>
    apply h.create request now
    rintro k add hadd hid rfl
    exact hfresh.ne hadd (by rw [hid]; rfl)
  | selectionFailed call now add error tracked => exact h.setPhase tracked _ (fun _ h => by cases h)
  | selected call now add firmware catalog tracked hphase row retouched =>
    refine (h.setPhase tracked (.selected firmware) ?_).retouch retouched
    intro _ hfirmware
    cases hfirmware
    obtain ⟨old, hold, hsame⟩ := retouched _ firmware row
    rw [← (hmade.own_request call add tracked).1] at hold
    have hcreated := hselect add tracked old hold
    exact ⟨by rw [hsame.id, (hmade.row_made _ old hold).1], by rw [hsame.created, hcreated]⟩
  | registered call add firmware tracked hphase =>
    exact h.setWorker tracked (by simp [AddCall.firmware, hphase]) _
  | prepared call action add firmware worker worker' effect tracked hphase hworker =>
    rw [withFiles_catalog, withFiles_adds]
    exact h.setWorker tracked (by simp [AddCall.firmware, hphase]) worker'
  | published call now add firmware worker row available tracked hphase hpublishing hrow hcreated =>
    have hfirmware : add.firmware = some firmware := by simp [AddCall.firmware, hphase]
    have hown := h.firmware_own call add firmware tracked hfirmware
    obtain ⟨hsound, hmanifest⟩ :=
      hmade.worker_sound call add worker tracked (by simp [AddCall.worker, hphase])
    have hconfig : row.config = worker.manifest := by
      rw [hmanifest, ← (hmade.own_request call add tracked).2]
      exact h.row_config _ row call add hrow tracked hown.1.symm (by rw [hcreated, hown.2])
    refine (h.setWorker tracked hfirmware _).publish hrow worker.catalog available now ?_ ?_
    · rw [hconfig, hsound.catalog_revision]
    · rw [hconfig]
      exact hsound.catalog_ready.trans hsound.ready_listed
  | unpublished call now add firmware worker tracked hphase =>
    exact h.setWorker tracked (by simp [AddCall.firmware, hphase]) _
  | released call add firmware worker tracked hphase =>
    exact h.setWorker tracked (by simp [AddCall.firmware, hphase]) _
  | tokenTaken call id token => exact h
  | tokenMissing call id => exact h
  | tokenCancelled call delete token => exact h
  | deleteFailed call delete error => exact h
  | rowDeleted call delete => exact h.erase delete.id
  | fileRemoved call artifact delete tracked =>
    rw [withFiles_catalog, withFiles_adds]
    exact h
  | directoryRemoved call delete => exact h

lemma publishesIntoOwnRow (hmade : Provenance s.catalog s.adds) (h : Incarnations s.catalog s.adds)
    (action : FirmwareAction) : s.PublishesIntoOwnRow action := by
  cases action with
  | publish call now =>
    rintro ⟨add, row⟩ hpublication
    obtain ⟨firmware, worker, hadd, hphase, hrow, hcreated⟩ := publication_eq_some hpublication
    have hown := h.firmware_own call add firmware hadd (by simp [AddCall.firmware, hphase])
    exact ⟨(hmade.row_made _ row hrow).1.trans hown.1, hcreated.trans hown.2⟩
  | _ => exact fun _ h => by cases h

/-- If creation times are fresh and every default selection finds its own call's row, every
publication updates the row of its own call. -/
theorem publications_keep_to_their_incarnation {ops : List FirmwareAction} {t : FirmwareService}
    (hrun : run step empty ops = some t)
    (hP : Along step (fun s action _ => s.FreshCreation action ∧ s.SelectsOwnRow action) empty ops) :
    Along step (fun s action _ => s.PublishesIntoOwnRow action) empty ops ∧
      ∀ id row, t.catalog.lookup id = some row → row.Described := by
  let I : FirmwareService → Prop := fun s => Provenance s.catalog s.adds ∧ Incarnations s.catalog s.adds
  have hstep : ∀ s action t, I s → s.FreshCreation action ∧ s.SelectsOwnRow action →
      step s action = some t → I t :=
    fun s action t h hP hstep => ⟨provenance_step h.1 hstep, incarnations_step h.1 h.2 hP.1 hP.2 hstep⟩
  have hempty : I empty := ⟨Provenance.empty, Incarnations.empty⟩
  constructor
  · have hpublish : ∀ s action t, I s → s.FreshCreation action ∧ s.SelectsOwnRow action →
        step s action = some t → s.PublishesIntoOwnRow action :=
      fun s action t h _ _ => publishesIntoOwnRow h.1 h.2 action
    exact along_of_invariant_along hstep hpublish hempty hP
  · exact (run_invariant_along hstep hempty hP hrun).2.described

def firstManifest : FirmwareManifest := ⟨"rack_1", "first", .ok [⟨"a", true, "board[0]"⟩]⟩

def secondManifest : FirmwareManifest := ⟨"rack_1", "second", .ok [⟨"b", true, "board[0]"⟩]⟩

/-- An add that is prepared and deleted, and after it an add of the other manifest. -/
def addedInTurn : List FirmwareAction :=
  [.create 1 ⟨firstManifest, "rack", true⟩ 10, .selectDefault 1 11, .register 1, .prepare 1 (.store "a"),
    .prepare 1 .collect, .prepare 1 .checkCancelled, .publish 1 12, .release 1, .cancelDownload 1 "rack_1",
    .deleteRow 1, .removeFile 1 "a", .removeDirectory 1, .create 2 ⟨secondManifest, "rack", false⟩ 20,
    .selectDefault 2 21, .register 2, .prepare 2 (.store "b"), .prepare 2 .collect,
      .prepare 2 .checkCancelled,
    .publish 2 22]

theorem addedInTurn_publications : ∃ t row, run step empty addedInTurn = some t ∧
    t.catalog.lookup "rack_1" = some row ∧ row.created = 20 ∧ row.available = true ∧ row.Described := by
  have hP : Along step (fun s action _ => s.FreshCreation action ∧
      s.SelectsOwnRow action) empty addedInTurn := by
    decide +kernel
  refine ⟨_, _, rfl, rfl, rfl, rfl, ?_⟩
  exact (publications_keep_to_their_incarnation rfl hP).2 "rack_1" _ rfl

/-- The first add is deleted and the second made between its two catalog operations. -/
def crossedAdds : List FirmwareAction :=
  [.create 1 ⟨firstManifest, "rack", false⟩ 10, .cancelDownload 1 "rack_1", .deleteRow 1,
    .removeDirectory 1,
    .create 2 ⟨secondManifest, "rack", false⟩ 20, .selectDefault 1 21, .register 1, .prepare 1 (.store "a"),
    .prepare 1 .collect, .prepare 1 .checkCancelled]

/-- The first add then publishes its artifacts into the second one's row. -/
theorem crossedAdds_publish_into_other_row : ∃ s t row, run step empty crossedAdds = some s ∧
    Along step (fun s action _ => s.FreshCreation action) empty crossedAdds ∧
    ¬s.PublishesIntoOwnRow (.publish 1 22) ∧ s.step (.publish 1 22) = some t ∧
    t.catalog.lookup "rack_1" = some row ∧ row.config = secondManifest ∧ row.available = true ∧
    ¬row.Described := by
  refine ⟨_, _, _, rfl, by decide +kernel, ?_, rfl, rfl, rfl, rfl, ?_⟩
  · intro h
    have hrow := (h _ rfl).2
    exact absurd hrow (by decide)
  · rintro ⟨catalog, hparsed, hrevision, _⟩
    cases hparsed
    exact absurd hrevision (by decide)

end FirmwareService

end RackManagement
