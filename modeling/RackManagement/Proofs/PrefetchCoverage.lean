import RackManagement.Proofs.FirmwareSelection

/-! # Prefetched artifacts -/

namespace RackManagement.Manifest

open Library Selectors List

variable {tools : Tools} {manifest : FirmwareManifest} {nodeType : NodeType} {firmwareType : String}
  {selection : ComponentSelection} {profile : Option HardwareUpdatePlan}

lemma isAlphanum_digitChar : ∀ n < 16, (Nat.digitChar n).isAlphanum = true := by decide

lemma isAlphanum_of_mem_hexByteText {b : UInt8} {c : Char} (h : c ∈ (Pldm.hexByteText b).toList) :
    c.isAlphanum = true := by
  have hb := b.toNat_lt
  rw [Pldm.hexByteText, String.toList_ofList, mem_pair] at h
  obtain rfl | rfl := h
  · exact isAlphanum_digitChar _ (by omega)
  · exact isAlphanum_digitChar _ (by omega)

lemma isAlphanum_of_mem_hexText {bytes : Pldm.Bytes} {c : Char} (h : c ∈ (Pldm.hexText bytes).toList) :
    c.isAlphanum = true := by
  rw [Pldm.hexText, String.toList_join, mem_flatMap] at h
  obtain ⟨text, htext, hc⟩ := h
  obtain ⟨b, -, rfl⟩ := mem_map.mp htext
  exact isAlphanum_of_mem_hexByteText hc

lemma hexText_ne_empty {bytes : Pldm.Bytes} (h : bytes ≠ []) : Pldm.hexText bytes ≠ "" := by
  obtain ⟨b, bytes, rfl⟩ := exists_cons_of_ne_nil h
  intro hempty
  have hlist := congrArg String.toList hempty
  rw [Pldm.hexText, String.toList_join, map_cons, flatMap_cons, Pldm.hexByteText,
    String.toList_ofList] at hlist
  cases hlist

lemma validateNonHiddenBasename_of_alphanum {name : String} (hname : name ≠ "")
    (h : ∀ c ∈ name.toList, c.isAlphanum = true) : validateNonHiddenBasename name = .ok () := by
  have hall : name.toList.all (fun c => c.isAlphanum || c = '_' || c = '.' || c = '-') = true := by
    rw [all_eq_true]
    intro c hc
    simp [h c hc]
  have hstart : startsWith "." name = false := by
    rw [startsWith]
    cases hlist : name.toList with
    | nil => rfl
    | cons c rest =>
      have hc : c.isAlphanum = true := h c (by simp [hlist])
      have hne : '.' ≠ c := by
        rintro rfl
        exact absurd hc (by decide)
      simp [isPrefixOf, hne]
  unfold validateNonHiddenBasename
  refine bind_eq_ok.mpr
    ⟨(), failIf_eq_ok.mpr hname, bind_eq_ok.mpr ⟨(), failIf_eq_ok.mpr ?_, failIf_eq_ok.mpr ?_⟩⟩
  · rw [hall]
    simp
  · rw [hstart]
    simp

lemma validateNonHiddenBasename_hexDigest (bytes : Pldm.Bytes) :
    validateNonHiddenBasename (hexDigest tools bytes) = .ok () := by
  have hlength : (tools.digest bytes).toList.length = 32 := Vector.length_toList
  apply validateNonHiddenBasename_of_alphanum
  · apply hexText_ne_empty
    intro hnil
    rw [hnil] at hlength
    cases hlength
  · intro c hc
    exact isAlphanum_of_mem_hexText hc

lemma isOk_artifactCachePath_iff {cacheDir cacheSubdir filename : String} :
    (artifactCachePath cacheDir cacheSubdir filename).isOk = true ↔
      validateArtifactFilename filename = .ok () ∧
        (cacheSubdir ≠ "" → (validateNonHiddenBasename cacheSubdir).isOk = true) := by
  rw [isOk_iff_exists]
  unfold artifactCachePath
  constructor
  · rintro ⟨path, h⟩
    obtain ⟨_, hfilename, h⟩ := bind_eq_ok.mp h
    obtain ⟨_, hsubdir, -⟩ := bind_eq_ok.mp h
    have hsubdir := failIf_eq_ok.mp hsubdir
    exact ⟨hfilename, fun hne => by simpa [hne] using hsubdir⟩
  · rintro ⟨hfilename, hsubdir⟩
    refine ⟨_, bind_eq_ok.mpr ⟨(), hfilename, bind_eq_ok.mpr ⟨(), failIf_eq_ok.mpr ?_, rfl⟩⟩⟩
    rintro ⟨hne, hbad⟩
    rw [hsubdir hne] at hbad
    cases hbad

variable {revision channel : String} {artifact : Artifact} {artifacts : List Artifact}
  {selected : List SelectedComponent} {component : SelectedComponent} {targets : List PlannedTarget}
  {target : PlannedTarget}

lemma isOk_cachePath {context : String} {location : Location}
    (h : Artifact.fromLocation tools revision context location = .ok artifact) (cache : String) :
    (artifact.cachePath cache).isOk = true := by
  unfold Artifact.fromLocation at h
  obtain ⟨source, -, h⟩ := bind_eq_ok.mp h
  obtain ⟨transport, -, h⟩ := bind_eq_ok.mp h
  obtain ⟨filename, -, h⟩ := bind_eq_ok.mp h
  obtain ⟨_, hfilename, h⟩ := bind_eq_ok.mp h
  have hfilename := failIf_eq_ok.mp hfilename
  rw [Bool.not_eq_false, isOk_artifactCachePath_iff] at hfilename
  split at h
  case h_1 => cases h
  case h_2 identity _ =>
  cases h
  have hpath : (artifactCachePath cache (hexDigest tools identity) filename).isOk = true := by
    rw [isOk_artifactCachePath_iff]
    refine ⟨hfilename.1, fun _ => ?_⟩
    rw [validateNonHiddenBasename_hexDigest]
    rfl
  obtain ⟨path, hpath⟩ := isOk_iff_exists.mp hpath
  simp only [Artifact.cachePath, hpath]
  rfl

/-- An artifact with the identity and the file of a prefetched one. -/
def Prefetched (artifacts : List Artifact) (artifact : Artifact) : Prop :=
  ∃ prefetched ∈ artifacts, prefetched.id = artifact.id ∧
    ∀ cache, prefetched.cachePath cache = artifact.cachePath cache

/-- The artifact of a reference of the catalog, whether required there or not. -/
def Refers (tools : Tools) (manifest : FirmwareManifest) (artifact : Artifact) : Prop :=
  ∃ revision milestone board context location found, manifestRevision tools manifest = .ok revision ∧
    singleMilestone manifest = .ok milestone ∧ board ∈ milestone.boardSkus.zipIdx ∧
    (context, location) ∈ catalogBoard tools manifest board ∧
    Artifact.fromLocation tools revision context location = .ok found ∧
      artifact = { found with required := true }

lemma Refers.prefetched (h : Refers tools manifest artifact)
    (hcatalog : catalogArtifacts tools manifest = .ok artifacts) : Prefetched artifacts artifact := by
  obtain ⟨revision, milestone, board, context, location, found, hrevision, hmilestone, hboard,
    hreference, hfound, rfl⟩ := h
  unfold catalogArtifacts at hcatalog
  rw [hrevision, hmilestone] at hcatalog
  have hmem := mem_flatMap.mpr ⟨board, hboard, hreference⟩
  obtain ⟨prefetched, hprefetched, heq⟩ := exists_mem_of_mapM hcatalog hmem
  cases hfound.symm.trans heq
  exact ⟨found, hprefetched, rfl, fun cache => rfl⟩

lemma Refers.isOk_cachePath (h : Refers tools manifest artifact) (cache : String) :
    (artifact.cachePath cache).isOk = true := by
  obtain ⟨revision, milestone, board, context, location, found, -, -, -, -, hfound, rfl⟩ := h
  exact Manifest.isOk_cachePath hfound cache

lemma lookupKey_of_boardMatches {boardType : String} (h : boardMatches boardType nodeType = true) :
    (lookupKeyFromBoardType boardType).isNone = false := by
  unfold boardMatches at h
  cases hkey : lookupKeyFromBoardType boardType with
  | none =>
    rw [hkey] at h
    cases h
  | some key => rfl

variable {location : Location × Nat}

lemma refers_of_selected {found : Artifact} (hselected :
      selectComponentsWithProfile tools.url manifest nodeType firmwareType selection profile = .ok selected)
    (hmem : component ∈ selected) (hrevision : manifestRevision tools manifest = .ok revision)
    (hlocation : location ∈ component.component.locations.zipIdx)
    (hpayload : (payloadLocation tools.url manifest component.component location.1 ||
      recoveryPayloadLocation tools.url location.1) = true)
    (hdownload : hasDownloadLocation location.1 = true)
    (hfound : Artifact.fromLocation tools revision
      (locationContext component.board "Firmware" component.index location.2)
      location.1 = .ok found) : Refers tools manifest { found with required := true } := by
  obtain ⟨milestone, board, hmilestone, hboard, hmatches, hcomponent⟩ :=
    exists_board_of_mem_select hselected hmem
  refine ⟨revision, milestone, (board, component.board), _, location.1, found, hrevision,
    hmilestone, hboard, ?_, hfound, rfl⟩
  rw [catalogBoard, if_neg (by simp [lookupKey_of_boardMatches hmatches])]
  apply mem_append_left
  refine mem_flatMap.mpr ⟨(component.component, component.index), hcomponent, ?_⟩
  refine mem_map.mpr ⟨location, mem_filter.mpr ⟨hlocation, ?_⟩, rfl⟩
  simp only [hpayload, hdownload, Bool.and_self]

variable {byKey : OrderedMap String (List PlannedTarget)}

lemma mem_lookup_addTargets {entry : SelectedComponent × List PlannedTarget}
    {key : String} (h : (addTargets byKey entry).lookup key = some targets) (hmem : target ∈ targets) :
    target ∈ entry.2 ∨ ∃ targets, byKey.lookup key = some targets ∧ target ∈ targets := by
  rw [addTargets, OrderedMap.lookup_insert] at h
  split at h
  case isFalse => exact .inr ⟨targets, h, hmem⟩
  case isTrue heq =>
  cases h
  obtain hmem | hmem := mem_append.mp hmem
  · cases hlookup : byKey.lookup entry.1.mapping.targetKey with
    | none =>
      rw [hlookup] at hmem
      cases hmem
    | some targets =>
      rw [hlookup] at hmem
      exact .inr ⟨targets, heq ▸ hlookup, hmem⟩
  · exact .inl hmem

lemma exists_planned_of_lookup {planned : List (SelectedComponent × List PlannedTarget)}
    {key : String}
    (h : (planned.foldl addTargets byKey).lookup key = some targets) (hmem : target ∈ targets) :
    (∃ entry ∈ planned, target ∈ entry.2) ∨ ∃ targets, byKey.lookup key = some targets ∧
      target ∈ targets := by
  induction planned generalizing byKey with
  | nil => exact .inr ⟨targets, h, hmem⟩
  | cons entry planned ih =>
    obtain ⟨other, hother, htarget⟩ | ⟨before, hbefore, htarget⟩ := ih h
    · exact .inl ⟨other, mem_cons_of_mem _ hother, htarget⟩
    · obtain htarget | htarget := mem_lookup_addTargets hbefore htarget
      · exact .inl ⟨entry, mem_cons_self, htarget⟩
      · exact .inr htarget

lemma eq_of_checkTargets {entry : String × List PlannedTarget}
    (h : checkTargets nodeType firmwareType entry = .ok targets) : targets = entry.2 := by
  obtain ⟨_, -, h⟩ := bind_eq_ok.mp h
  obtain ⟨_, -, h⟩ := bind_eq_ok.mp h
  cases h
  rfl

lemma exists_artifact_of_mem_mergeSwitchTargets (h : target ∈ mergeSwitchTargets nodeType targets) :
    ∃ before ∈ targets, target.artifact = before.artifact := by
  unfold mergeSwitchTargets at h
  split at h
  case h_2 => cases h
  case h_1 first rest =>
  split at h
  · cases mem_singleton.mp h
    exact ⟨first, mem_cons_self, rfl⟩
  · exact ⟨target, h, rfl⟩

lemma exists_planned_of_mem_plan {plan : FirmwarePlan}
    (h : firmwarePlanWithProfile tools manifest nodeType firmwareType selection profile = .ok plan)
    (hmem : target ∈ plan.targets) :
    ∃ selected revision,
      selectComponentsWithProfile tools.url manifest nodeType firmwareType selection profile =
        .ok selected ∧
      manifestRevision tools manifest = .ok revision ∧ ∃ component ∈ selected, ∃ targets,
        planComponent tools manifest nodeType revision component = .ok targets ∧
          ∃ planned ∈ targets, target.artifact = planned.artifact := by
  unfold firmwarePlanWithProfile at h
  obtain ⟨selected, hselected, h⟩ := bind_eq_ok.mp h
  obtain ⟨revision, hrevision, h⟩ := bind_eq_ok.mp h
  obtain ⟨planned, hplanned, h⟩ := bind_eq_ok.mp h
  obtain ⟨targets, htargets, h⟩ := bind_eq_ok.mp h
  cases h
  obtain ⟨before, hbefore, hartifact⟩ := exists_artifact_of_mem_mergeSwitchTargets hmem
  rw [mem_insertionSort, mem_flatten] at hbefore
  obtain ⟨group, hgroup, hbefore⟩ := hbefore
  obtain ⟨entry, hentry, hcheck⟩ := exists_of_mem_mapM htargets hgroup
  rw [eq_of_checkTargets hcheck] at hbefore
  obtain ⟨entry, hentry, hbefore⟩ | ⟨_, hnone, -⟩ :=
    exists_planned_of_lookup (OrderedMap.mem_entries_iff.mp hentry) hbefore
  · obtain ⟨component, hcomponent, hplan⟩ := exists_of_mem_mapM hplanned hentry
    obtain ⟨found, hfound, hplan⟩ := bind_eq_ok.mp hplan
    cases hplan
    exact ⟨selected, revision, hselected, hrevision, component, hcomponent, found, hfound, before,
      hbefore, hartifact⟩
  · cases hnone

lemma refers_of_mem_plan {plan : FirmwarePlan}
    (h : firmwarePlanWithProfile tools manifest nodeType firmwareType selection profile = .ok plan)
    (hmem : target ∈ plan.targets) : Refers tools manifest target.artifact := by
  obtain ⟨selected, revision, hselected, hrevision, component, hcomponent, targets, htargets,
    planned, hplanned, hartifact⟩ :=
    exists_planned_of_mem_plan h hmem
  rw [hartifact]
  obtain ⟨policy, -, htargets⟩ := bind_eq_ok.mp htargets
  obtain ⟨location, hlocation, hplanned⟩ := exists_of_mem_mapM htargets hplanned
  obtain ⟨hlocation, heligible⟩ := mem_filter.mp hlocation
  rw [Bool.and_eq_true, Bool.and_eq_true] at heligible
  unfold planTarget at hplanned
  obtain ⟨found, hfound, hplanned⟩ := bind_eq_ok.mp hplanned
  obtain ⟨firmware, -, hplanned⟩ := bind_eq_ok.mp hplanned
  obtain ⟨_, -, hplanned⟩ := bind_eq_ok.mp hplanned
  cases hplanned
  exact refers_of_selected hselected hcomponent hrevision hlocation
    (by rw [heligible.1.1, Bool.true_or]) heligible.2 hfound

lemma refers_of_switchImage {softwareType : String} {image : Artifact}
    (h : switchImage tools manifest softwareType = .ok image) : Refers tools manifest image := by
  unfold switchImage at h
  obtain ⟨revision, hrevision, h⟩ := bind_eq_ok.mp h
  obtain ⟨milestone, hmilestone, h⟩ := bind_eq_ok.mp h
  obtain ⟨images, himages, h⟩ := bind_eq_ok.mp h
  split at h
  case h_2 => cases h
  case h_1 only =>
  cases h
  obtain ⟨entry, hentry, himage⟩ := exists_of_mem_mapM himages mem_cons_self
  obtain ⟨board, hboard, hentry⟩ := mem_flatMap.mp hentry
  obtain ⟨component, hcomponent, rfl⟩ := mem_map.mp hentry
  obtain ⟨hboard, hswitch⟩ := mem_filter.mp hboard
  obtain ⟨hcomponent, hnvos⟩ := mem_filter.mp hcomponent
  rw [decide_eq_true_eq] at hswitch
  rw [Bool.and_eq_true] at hnvos
  unfold switchImageOf at himage
  obtain ⟨location, hlocation, himage⟩ := bind_eq_ok.mp himage
  obtain ⟨found, hfound, himage⟩ := bind_eq_ok.mp himage
  cases himage
  have hmem : location ∈ component.1.locations.zipIdx.filter (fun location =>
      downloadableNvosLocation tools.url location.1) := by
    unfold selectNvosLocation at hlocation
    split at hlocation
    case h_1 heq =>
      cases hlocation
      rw [heq]
      exact mem_cons_self
    case h_2 => cases hlocation
    case h_3 => cases hlocation
  refine ⟨revision, milestone, board, _, location.1, found, hrevision, hmilestone, hboard, ?_, hfound, rfl⟩
  rw [catalogBoard, hswitch, if_neg (by simp), if_pos rfl]
  apply mem_append_right
  exact mem_flatMap.mpr ⟨component, mem_filter.mpr ⟨hcomponent, hnvos.1⟩,
    mem_map.mpr ⟨location, hmem, rfl⟩⟩

/-- An artifact refers to the catalog once it counts as required. -/
def RefersRequired (tools : Tools) (manifest : FirmwareManifest) (artifact : Artifact) : Prop :=
  Refers tools manifest { artifact with required := true }

lemma refersRequired_recoveryCandidates {found next : List Artifact × List Artifact}
    (hselected : selectComponentsWithProfile tools.url manifest nodeType channel selection none =
      .ok selected)
    (hmem : component ∈ selected) (hrevision : manifestRevision tools manifest = .ok revision)
    (hlocation : location ∈ component.component.locations.zipIdx)
    (hfound : (∀ artifact ∈ found.1, RefersRequired tools manifest artifact) ∧
      ∀ artifact ∈ found.2, RefersRequired tools manifest artifact)
    (h : recoveryCandidates tools manifest nodeType revision component found location = .ok next) :
    (∀ artifact ∈ next.1, RefersRequired tools manifest artifact) ∧
      ∀ artifact ∈ next.2, RefersRequired tools manifest artifact := by
  have hadd : ∀ {artifacts : List Artifact} {artifact : Artifact},
    (∀ other ∈ artifacts, RefersRequired tools manifest other) →
      RefersRequired tools manifest artifact →
        ∀ other ∈ artifacts ++ [artifact], RefersRequired tools manifest other := by
    intro artifacts artifact hartifacts hartifact other hother
    obtain hother | hother := mem_append.mp hother
    · exact hartifacts other hother
    · exact mem_singleton.mp hother ▸ hartifact
  unfold recoveryCandidates at h
  split at h
  case isFalse =>
    cases h
    exact hfound
  case isTrue hdownload =>
  dsimp only at h
  split at h
  case isTrue hrecovery =>
    obtain ⟨artifact, hartifact, h⟩ := bind_eq_ok.mp h
    cases h
    have hrefers :=
      refers_of_selected hselected hmem hrevision hlocation
        (by rw [hrecovery, Bool.or_true]) hdownload hartifact
    exact ⟨hfound.1, hadd hfound.2 hrefers⟩
  case isFalse =>
  split at h
  case isTrue hregular =>
    obtain ⟨artifact, hartifact, h⟩ := bind_eq_ok.mp h
    cases h
    rw [Bool.and_eq_true] at hregular
    have hrefers :=
      refers_of_selected hselected hmem hrevision hlocation
        (by rw [hregular.1, Bool.true_or]) hdownload hartifact
    exact ⟨hadd hfound.1 hrefers, hfound.2⟩
  case isFalse =>
    cases h
    exact hfound

lemma mem_of_atMostOne {what : String}
    (h : atMostOne nodeType channel what artifacts = .ok (some artifact)) : artifact ∈ artifacts := by
  unfold atMostOne at h
  split at h
  case h_1 =>
    cases h
    exact mem_cons_self
  case h_2 => cases h
  case h_3 => cases h

variable {recovery : RecoveryArtifacts}

lemma refers_of_recoveryOf
    (hselected : selectComponentsWithProfile tools.url manifest nodeType channel selection none =
      .ok selected)
    (hmem : component ∈ selected)
    (h : recoveryOf tools manifest nodeType channel component = .ok (some recovery)) :
    Refers tools manifest recovery.regular ∧ Refers tools manifest recovery.recovery := by
  unfold recoveryOf at h
  obtain ⟨revision, hrevision, h⟩ := bind_eq_ok.mp h
  obtain ⟨found, hfound, h⟩ := bind_eq_ok.mp h
  have hrefers := foldlM_invariant
    (fun found : List Artifact × List Artifact =>
      (∀ artifact ∈ found.1, RefersRequired tools manifest artifact) ∧
      ∀ artifact ∈ found.2, RefersRequired tools manifest artifact)
    (fun _ _ hlocation _ hbefore hnext =>
      refersRequired_recoveryCandidates hselected hmem hrevision hlocation hbefore hnext) hfound
        ⟨by simp, by simp⟩
  obtain ⟨package, hpackage, h⟩ := bind_eq_ok.mp h
  cases package with
  | none => cases h
  | some package =>
    obtain ⟨regular, hregular, h⟩ := bind_eq_ok.mp h
    cases regular with
    | none => cases h
    | some regular =>
      cases h
      exact ⟨hrefers.1 regular (mem_of_atMostOne hregular), hrefers.2 package (mem_of_atMostOne hpackage)⟩

lemma refers_of_recoveryArtifacts
    (h : recoveryArtifacts tools manifest nodeType = .ok (some recovery)) :
    Refers tools manifest recovery.regular ∧ Refers tools manifest recovery.recovery := by
  unfold recoveryArtifacts at h
  obtain ⟨milestone, -, h⟩ := bind_eq_ok.mp h
  obtain ⟨channel, -, h⟩ := bind_eq_ok.mp h
  cases channel with
  | none => cases h
  | some channel =>
    simp only at h
    split at h
    case h_1 => cases h
    case h_2 => cases h
    case h_3 selected hselected =>
    split at h
    case h_1 => cases h
    case h_3 => cases h
    case h_2 component hfilter =>
    have hmem : component ∈ selected.filter (fun component => component.mapping.targetKey = "HMC") := by
      rw [hfilter]
      exact mem_cons_self
    exact refers_of_recoveryOf hselected (mem_of_mem_filter hmem) h

lemma isOk_readyFile {isFile : String → Bool} {cache : String}
    {ready : List String} (unavailable : String) (missing : String → String)
    (hrefers : Refers tools manifest artifact)
    (hcatalog : catalogArtifacts tools manifest = .ok artifacts)
    (hready : ∀ prefetched ∈ artifacts, prefetched.id ∈ ready ∧
      ∀ path, prefetched.cachePath cache = .ok path → isFile path = true) :
    (readyFile isFile cache ready artifact unavailable missing).isOk = true := by
  obtain ⟨prefetched, hmem, hid, hpath⟩ := hrefers.prefetched hcatalog
  obtain ⟨hprefetched, hfile⟩ := hready prefetched hmem
  obtain ⟨path, hok⟩ := isOk_iff_exists.mp (hrefers.isOk_cachePath cache)
  refine isOk_iff_exists.mpr
    ⟨path, bind_eq_ok.mpr ⟨(), failIf_eq_ok.mpr ?_, bind_eq_ok.mpr ⟨path, hok, ?_⟩⟩⟩
  · rw [← hid]
    exact not_not_intro hprefetched
  · refine bind_eq_ok.mpr ⟨(), failIf_eq_ok.mpr ?_, rfl⟩
    rw [hfile path ((hpath cache).trans hok)]
    simp

/-- What an update, a recovery or a switch image takes from a manifest is among the prefetched artifacts. -/
theorem catalogArtifacts_cover (tools : Tools) (manifest : FirmwareManifest) (nodeType : NodeType)
    (firmwareType : String)
    (selection : ComponentSelection) (profile : Option HardwareUpdatePlan) (artifacts : List Artifact)
    (hcatalog : catalogArtifacts tools manifest = .ok artifacts) :
    (∀ plan, firmwarePlanWithProfile tools manifest nodeType firmwareType selection profile = .ok plan →
      (∀ target ∈ plan.targets, Prefetched artifacts target.artifact) ∧
      ∀ isFile cache ready, (∀ prefetched ∈ artifacts, prefetched.id ∈ ready ∧
          ∀ path, prefetched.cachePath cache = .ok path → isFile path = true) →
        (plan.resolve isFile cache ready).isOk = true) ∧
    (∀ recovery, recoveryArtifacts tools manifest nodeType = .ok (some recovery) →
      (Prefetched artifacts recovery.regular ∧ Prefetched artifacts recovery.recovery) ∧
      ∀ isFile cache ready, (∀ prefetched ∈ artifacts, prefetched.id ∈ ready ∧
          ∀ path, prefetched.cachePath cache = .ok path → isFile path = true) →
        (recovery.resolve isFile cache ready).isOk = true) ∧
    ∀ image, switchImage tools manifest firmwareType = .ok image → Prefetched artifacts image := by
  refine ⟨?_, ?_, ?_⟩
  · intro plan hplan
    refine ⟨fun target htarget => (refers_of_mem_plan hplan htarget).prefetched hcatalog, ?_⟩
    intro isFile cache ready hready
    rw [FirmwarePlan.resolve, isOk_mapM_iff]
    intro target htarget
    exact isOk_bind (isOk_readyFile _ _ (refers_of_mem_plan hplan htarget) hcatalog hready) (fun _ _ => rfl)
  · intro recovery hrecovery
    obtain ⟨hregular, hpackage⟩ := refers_of_recoveryArtifacts hrecovery
    refine ⟨⟨hregular.prefetched hcatalog, hpackage.prefetched hcatalog⟩, ?_⟩
    intro isFile cache ready hready
    unfold RecoveryArtifacts.resolve
    exact isOk_bind (isOk_readyFile _ _ hregular hcatalog hready) (fun _ _ =>
      isOk_bind (isOk_readyFile _ _ hpackage hcatalog hready) (fun _ _ => rfl))
  · intro image himage
    exact (refers_of_switchImage himage).prefetched hcatalog

/-- The bundle, its BIOS image, its recovery package and the switch image are four artifacts. -/
theorem hmcManifest_covered : ∃ artifacts plan recovery image,
    catalogArtifacts pathTools (hmcManifest ["1.0"]) = .ok artifacts ∧ (artifacts.map Artifact.id).Nodup ∧
    firmwarePlanWithProfile pathTools
      (hmcManifest ["1.0"]) .computeGb300Supermicro "prod" .defaultOnly none = .ok plan ∧
    plan.targets.length = 2 ∧ (∀ target ∈ plan.targets, Prefetched artifacts target.artifact) ∧
    recoveryArtifacts pathTools (hmcManifest ["1.0"]) .computeGb300Supermicro = .ok (some recovery) ∧
    Prefetched artifacts recovery.regular ∧ Prefetched artifacts recovery.recovery ∧
    switchImage pathTools (hmcManifest ["1.0"]) "prod" = .ok image ∧ Prefetched artifacts image := by
  obtain ⟨artifacts, hartifacts, hdistinct⟩ :=
    exists_of_any (x := catalogArtifacts pathTools (hmcManifest ["1.0"]))
    (p := fun artifacts => (artifacts.map Artifact.id).Nodup) (by decide +kernel)
  obtain ⟨plan, hplan, htargets⟩ := exists_of_any (p := fun plan => plan.targets.length = 2)
    (x := firmwarePlanWithProfile pathTools
      (hmcManifest ["1.0"]) .computeGb300Supermicro "prod" .defaultOnly none)
    (by decide +kernel)
  obtain ⟨found, hrecovery, hfound⟩ := exists_of_any (p := Option.isSome)
    (x := recoveryArtifacts pathTools (hmcManifest ["1.0"]) .computeGb300Supermicro) (by decide +kernel)
  obtain ⟨recovery, rfl⟩ := Option.isSome_iff_exists.mp hfound
  obtain ⟨image, himage⟩ := isOk_iff_exists.mp
    (show (switchImage pathTools (hmcManifest ["1.0"]) "prod").isOk = true by decide +kernel)
  obtain ⟨hplanned, hrecovered, hswitch⟩ := catalogArtifacts_cover pathTools (hmcManifest ["1.0"])
    .computeGb300Supermicro "prod" .defaultOnly none artifacts hartifacts
  exact ⟨artifacts, plan, recovery, image, hartifacts, of_decide_eq_true hdistinct, hplan,
    of_decide_eq_true htargets,
    (hplanned plan hplan).1, hrecovery, (hrecovered recovery hrecovery).1.1,
      (hrecovered recovery hrecovery).1.2,
    himage, hswitch image himage⟩

end RackManagement.Manifest
