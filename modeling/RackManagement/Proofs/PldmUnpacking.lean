import RackManagement.Library.Deposits
import RackManagement.Library.Fallible
import RackManagement.Model.PldmExtraction

/-! # What unpacking leaves in the output directory -/

namespace RackManagement.Pldm

open Library FallibleState List

/-- The path names an entry of the output directory itself. -/
def IsDirectChild (outDir path : String) : Prop :=
  ∃ fileName, path = joinPath outDir fileName ∧ fileName ≠ "" ∧ fileName ≠ "." ∧ fileName ≠ ".." ∧
    '/' ∉ fileName.toList

lemma extractedFilePath_eq_ok {outDir fileName path : String}
    (h : extractedFilePath outDir fileName = .ok path) :
    path = joinPath outDir fileName ∧ IsDirectChild outDir path := by
  unfold extractedFilePath at h
  split at h
  case isTrue => cases h
  case isFalse hseparators =>
    split at h
    case isTrue => cases h
    case isFalse hcomponents =>
      cases h
      simp only [not_or] at hseparators hcomponents
      refine ⟨rfl, fileName, rfl, ?_, hcomponents.2.1, hcomponents.2.2, hseparators.1⟩
      rintro rfl
      exact hcomponents.1 rfl

/-- Only entries of the output directory have been touched. -/
def Confined (outDir : String) (output : OutputDirectory) : Prop :=
  ∀ path ∈ output.touched, IsDirectChild outDir path

lemma orPanic_eq_ok {σ α : Type} {x : Except Panic α} {a : α} {s t : σ}
    (h : orPanic x s = .ok a t) : x = .ok a ∧ t = s := by
  obtain ⟨hx, ht⟩ := fromExcept_eq_ok h
  exact ⟨mapError_eq_ok hx, ht⟩

lemma orError_eq_ok {σ α : Type} {x : Except String α} {a : α} {s t : σ}
    (h : orError x s = .ok a t) : x = .ok a ∧ t = s := by
  obtain ⟨hx, ht⟩ := fromExcept_eq_ok h
  exact ⟨mapError_eq_ok hx, ht⟩

section Confinement

variable {outDir : String}

lemma keeps_operation (message : String) (fault : Option String) :
    Keeps (Confined outDir) (operation message fault) :=
  .throwIf _

lemma keeps_orPanic {α : Type} (x : Except Panic α) : Keeps (Confined outDir) (orPanic x) := .fromExcept _

lemma keeps_orError {α : Type} (x : Except String α) : Keeps (Confined outDir) (orError x) := .fromExcept _

lemma keeps_createFile {path : String} (hpath : IsDirectChild outDir path) :
    Keeps (Confined outDir) (createFile path) := by
  apply Keeps.modify
  intro output houtput other hother
  obtain hother | rfl := mem_append.mp hother |>.imp_right mem_singleton.mp
  · exact houtput other hother
  · exact hpath

lemma keeps_appendFile (path : String) (chunk : Bytes) : Keeps (Confined outDir) (appendFile path chunk) :=
  .modify (fun _ houtput => houtput)

lemma keeps_renameExtracted (fault : ImageFaults) {source target : String}
    (hsource : IsDirectChild outDir source)
    (htarget : IsDirectChild outDir target) :
    Keeps (Confined outDir) (renameExtracted fault source target) := by
  apply Keeps.bind (keeps_operation _ _)
  intro _
  apply Keeps.modify
  intro output houtput other hother
  simp only [mem_append, mem_cons, not_mem_nil, or_false] at hother
  obtain hother | rfl | rfl := hother
  · exact houtput other hother
  · exact hsource
  · exact htarget

lemma keeps_copyImage (package : Bytes) (fault : ImageFaults) (path : String)
    (fuel chunk position remaining : Nat)
    (hashed : Bytes) :
    Keeps (Confined outDir) (copyImage package fault path fuel chunk position remaining hashed) := by
  induction fuel generalizing chunk position remaining hashed with
  | zero => exact .pure hashed
  | succ fuel ih =>
    unfold copyImage
    split
    · exact .pure hashed
    · apply Keeps.bind (keeps_orPanic _)
      intro _
      apply Keeps.bind (keeps_operation _ _)
      intro _
      split
      · exact fun _ houtput => houtput
      · apply Keeps.bind (keeps_operation _ _)
        intro _
        apply Keeps.bind (keeps_appendFile path _)
        intro _
        apply Keeps.bind (keeps_orPanic _)
        intro rest
        exact ih _ _ _ _

variable (faults : Faults) (sha256 : Bytes → String)

lemma keeps_extractImage (package : Bytes) (records : List DeviceIdRecord)
    (index : Nat) (image : ComponentImageInfo) :
    Keeps (Confined outDir) (extractImage faults sha256 package outDir records index image) := by
  unfold extractImage
  apply Keeps.bind (keeps_orPanic _)
  intro baseName
  dsimp only
  split
  · exact .pure image
  · refine Keeps.bind_of_ok (keeps_orError _) ?_
    intro tmpPath _ _ htmp
    have htmpChild := (extractedFilePath_eq_ok (orError_eq_ok htmp).1).2
    apply Keeps.bind (keeps_operation _ _)
    intro _
    apply Keeps.bind (keeps_operation _ _)
    intro _
    apply Keeps.bind (keeps_createFile htmpChild)
    intro _
    apply Keeps.bind (keeps_copyImage _ _ _ _ _ _ _ _)
    intro hashed
    refine Keeps.bind_of_ok (keeps_orError _) ?_
    intro finalPath _ _ hfinal
    have hfinalChild := (extractedFilePath_eq_ok (orError_eq_ok hfinal).1).2
    apply Keeps.bind (.runIf (keeps_renameExtracted _ htmpChild hfinalChild))
    intro _
    exact .pure _

lemma keeps_extractFiles (package : Bytes) (images : List ComponentImageInfo)
    (records : List DeviceIdRecord) :
    Keeps (Confined outDir) (extractFiles faults sha256 package outDir images records) := by
  unfold extractFiles
  refine Keeps.bind (keeps_orError _) ?_
  intro _
  refine Keeps.bind (fun _ houtput => houtput) ?_
  intro output
  refine Keeps.bind (.runIf (.bind (keeps_operation _ _) (fun _ => .modify (fun _ houtput => houtput)))) ?_
  intro _
  apply Keeps.mapM
  intro image
  exact keeps_extractImage faults sha256 package records image.2 image.1

lemma keeps_readPackage (package : Bytes) : Keeps (Confined outDir) (readPackage package) := by
  intro output houtput
  unfold readPackage
  split
  · exact houtput
  · exact houtput

lemma keeps_parse (package : Bytes) (path : String) (doUnpack : Bool) :
    Keeps (Confined outDir) (parse faults sha256 package outDir path doUnpack) := by
  apply Keeps.bind (keeps_operation _ _)
  intro _
  apply Keeps.bind (keeps_readPackage package)
  intro data
  split
  · exact .bind (keeps_extractFiles _ _ _ _ _) (fun images => .pure _)
  · exact .pure data

end Confinement

def ComponentImageInfo.content (image : ComponentImageInfo) (package : Bytes) : Bytes :=
  (package.drop image.locationOffset.toNat).take image.size.toNat

/-- The hash and the size of an extracted image are those of its bytes. -/
def ComponentImageInfo.Described (image : ComponentImageInfo) (sha256 : Bytes → String)
    (package : Bytes) : Prop :=
  image.fwImageName.isSome = true →
    image.sha256 = some (sha256 (image.content package)) ∧
      image.imageSize.map UInt64.toNat = some (image.content package).length

/-- The temporary and the final path of an image that has a name, with its bytes. -/
def deposit? (sha256 : Bytes → String) (package : Bytes) (outDir : String) (records : List DeviceIdRecord)
    (entry : ComponentImageInfo × Nat) : Option (Deposit String Bytes) :=
  let base := firstFileName (1 <<< entry.2.toUInt64) entry.2 entry.1.versionString records
  let content := entry.1.content package
  if base.isEmpty then none
  else some ⟨joinPath outDir base, joinPath outDir (finalFileName base (sha256 content)), content⟩

variable {records : List DeviceIdRecord}

lemma getImageFileName_eq_ok {index : Nat} {version name : String}
    (h : getImageFileName records index version = .ok name) :
    name = firstFileName (1 <<< index.toUInt64) index version records := by
  obtain ⟨mask, hmask, hname⟩ := Library.bind_eq_ok.mp h
  unfold shiftLeft at hmask
  split at hmask
  case isFalse => cases hmask
  case isTrue =>
    cases hmask
    cases hname
    rfl

lemma subtract_eq_ok {left right difference : Nat} (h : subtract left right = .ok difference) :
    difference = left - right := by
  unfold subtract at h
  split at h
  case isTrue =>
    cases h
    rfl
  case isFalse => cases h

variable {output output' : OutputDirectory}

lemma operation_eq_ok {message : String} {fault : Option String} {u : Unit}
    (h : operation message fault output = .ok u output') : output' = output := throwIf_eq_ok h

lemma copyImage_eq_ok {package : Bytes} {fault : ImageFaults} {path : String}
    {fuel chunk position remaining : Nat}
    {hashed result written : Bytes}
    (h : copyImage package fault path fuel chunk position remaining hashed output = .ok result output')
    (hfuel : remaining ≤ fuel) (hwritten : output.files.lookup path = some written) :
    result = hashed ++ (package.drop position).take remaining ∧
      ((package.drop position).take remaining).length = remaining ∧
      output'.files.lookup path = some (written ++ (package.drop position).take remaining) ∧
      ∀ name, name ≠ path → output'.files.lookup name = output.files.lookup name := by
  induction fuel generalizing chunk position remaining hashed written output with
  | zero =>
    obtain rfl : remaining = 0 := by omega
    obtain ⟨rfl, rfl⟩ := pure_eq_ok h
    simpa using hwritten
  | succ fuel ih =>
    unfold copyImage at h
    split at h
    case isTrue hdone =>
      subst hdone
      obtain ⟨rfl, rfl⟩ := pure_eq_ok h
      simpa using hwritten
    case isFalse hmore =>
      obtain ⟨_, sliced, hslice, hsliced⟩ := bind_eq_ok h
      rw [(orPanic_eq_ok hslice).2] at hsliced
      obtain ⟨_, middle, hread, hcopy⟩ := bind_eq_ok hsliced
      rw [operation_eq_ok hread] at hcopy
      split at hcopy
      case isTrue => cases hcopy
      case isFalse hlength =>
        obtain ⟨_, middle', hwrite, happended⟩ := bind_eq_ok hcopy
        rw [operation_eq_ok hwrite] at happended
        obtain ⟨_, _, happend, hsubtract⟩ := bind_eq_ok happended
        cases happend
        obtain ⟨rest, _, hleft, hrest⟩ := bind_eq_ok hsubtract
        rw [(orPanic_eq_ok hleft).2, subtract_eq_ok (orPanic_eq_ok hleft).1] at hrest
        have hbuffer : 0 < bufferSize := by decide
        have hstep : min remaining bufferSize ≤ remaining := by omega
        have hwritten' := (FiniteMap.lookup_insert_eq_ite output.files path path
          ((output.files.lookup path).getD [] ++
            (package.drop position).take (min remaining bufferSize))).trans (if_pos rfl)
        have hjoined : (package.drop position).take (min remaining bufferSize) ++
            (package.drop (position + min remaining bufferSize)).take
              (remaining - min remaining bufferSize) =
              (package.drop position).take remaining := by
          rw [← drop_drop, ← take_add, Nat.add_sub_cancel' hstep]
        obtain ⟨hresult, hlen, hfile, hothers⟩ := ih hrest (by omega) hwritten'
        rw [hwritten, Option.getD_some, append_assoc, hjoined] at hfile
        rw [append_assoc, hjoined] at hresult
        refine ⟨hresult, ?_, hfile, ?_⟩
        · simp only [length_take, length_drop] at hlen ⊢
          omega
        · intro name hname
          rw [hothers name hname, FiniteMap.lookup_insert_eq_ite, if_neg hname]

section Extracted

variable {faults : Faults} {sha256 : Bytes → String} {package : Bytes} {outDir : String}
  {records : List DeviceIdRecord}

variable {output output' : OutputDirectory}

lemma runIf_renameExtracted_eq_ok {fault : ImageFaults} {source target : String} {u : Unit}
    {content : Bytes}
    (h : runIf (target ≠ source) (renameExtracted fault source target) output = .ok u output')
    (hsource : output.files.lookup source = some content) :
    Deposit.Stores output.files ⟨source, target, content⟩ output'.files := by
  intro name
  dsimp only
  unfold runIf at h
  split at h
  case isFalse hsame =>
    obtain rfl := (pure_eq_ok h).2
    rw [not_not] at hsame
    subst hsame
    split
    case isTrue hname => rw [hname, hsource]
    case isFalse => rfl
  case isTrue hne =>
    obtain ⟨_, middle, hrename, hmove⟩ := bind_eq_ok h
    rw [operation_eq_ok hrename] at hmove
    cases hmove
    dsimp only
    rw [hsource]
    dsimp only
    rw [FiniteMap.lookup_insert_eq_ite, FiniteMap.lookup_erase_eq_ite]

lemma extractImage_eq_ok {index : Nat} {image extracted : ComponentImageInfo}
    (h : extractImage faults sha256 package outDir records index image output = .ok extracted output')
    (hnew : image.fwImageName = none) :
    extracted.Described sha256 package ∧
      extracted.fwImageName =
        (deposit? sha256 package outDir records (extracted, index)).map Deposit.final ∧
      match deposit? sha256 package outDir records (extracted, index) with
      | none => output'.files = output.files
      | some deposit => Deposit.Stores output.files deposit output'.files := by
  unfold extractImage at h
  obtain ⟨baseName, named, hname, h₀⟩ := bind_eq_ok h
  rw [(orPanic_eq_ok hname).2] at h₀
  have hbase := getImageFileName_eq_ok (orPanic_eq_ok hname).1
  dsimp only at h₀
  split at h₀
  case isTrue hempty =>
    obtain ⟨rfl, rfl⟩ := pure_eq_ok h₀
    have hnone : deposit? sha256 package outDir records (extracted, index) = none := by
      rw [deposit?, ← hbase, if_pos hempty]
    rw [hnone]
    refine ⟨?_, hnew, rfl⟩
    intro hsome
    simp [hnew] at hsome
  case isFalse hnamed =>
    obtain ⟨tmpPath, start, htmp, h₁⟩ := bind_eq_ok h₀
    obtain ⟨hpath, rfl⟩ := orError_eq_ok htmp
    obtain ⟨_, sought, hseek, h₂⟩ := bind_eq_ok h₁
    rw [operation_eq_ok hseek] at h₂
    obtain ⟨_, opened, hopen, h₃⟩ := bind_eq_ok h₂
    rw [operation_eq_ok hopen] at h₃
    obtain ⟨_, created, hcreate, h₄⟩ := bind_eq_ok h₃
    cases hcreate
    obtain ⟨hashed, copied, hcopy, h₅⟩ := bind_eq_ok h₄
    have hempty := (FiniteMap.lookup_insert_eq_ite start.files tmpPath tmpPath []).trans (if_pos rfl)
    obtain ⟨hhashed, hlength, hfile, hothers⟩ := copyImage_eq_ok hcopy le_rfl hempty
    rw [nil_append] at hhashed hfile
    subst hhashed
    obtain ⟨finalPath, moved, hfinal, h₆⟩ := bind_eq_ok h₅
    obtain ⟨hpath', rfl⟩ := orError_eq_ok hfinal
    obtain ⟨_, renamed, hrename, h₇⟩ := bind_eq_ok h₆
    obtain ⟨rfl, rfl⟩ := pure_eq_ok h₇
    have hstores := runIf_renameExtracted_eq_ok hrename hfile
    have hdeposit : deposit? sha256 package outDir records (image, index) =
        some ⟨tmpPath, finalPath, image.content package⟩ := by
      rw [(extractedFilePath_eq_ok hpath).1, (extractedFilePath_eq_ok hpath').1, deposit?, ← hbase,
        if_neg hnamed]
      rfl
    refine ⟨fun _ => ⟨rfl, ?_⟩, ?_⟩
    · have hsize : (image.content package).length = image.size.toNat := hlength
      simpa [ComponentImageInfo.content] using hsize.symm
    · -- The three fields that are set do not enter the names.
      change some finalPath = (deposit? sha256 package outDir records (image, index)).map Deposit.final ∧
        match deposit? sha256 package outDir records (image, index) with
        | none => output'.files = start.files
        | some deposit => Deposit.Stores start.files deposit output'.files
      rw [hdeposit]
      refine ⟨rfl, fun name => (hstores name).trans ?_⟩
      dsimp only
      split
      case isTrue => rfl
      case isFalse =>
        split
        case isTrue => rfl
        case isFalse hname => rw [hothers name hname, FiniteMap.lookup_insert_eq_ite, if_neg hname]

variable {images extracted : List ComponentImageInfo}

lemma mapM_extractImage_eq_ok {first : Nat} (h : ((images.zipIdx first).mapM (fun image =>
      extractImage faults sha256 package outDir records image.2 image.1))
      output = .ok extracted output')
    (hnew : ∀ image ∈ images, image.fwImageName = none) :
    (∀ image ∈ extracted, image.Described sha256 package) ∧
      (∀ entry ∈ extracted.zipIdx first,
        entry.1.fwImageName = (deposit? sha256 package outDir records entry).map Deposit.final) ∧
      Deposit.StoresAll output.files
        ((extracted.zipIdx first).filterMap (deposit? sha256 package outDir records))
        output'.files := by
  induction images generalizing extracted first output with
  | nil =>
    obtain ⟨rfl, rfl⟩ := pure_eq_ok h
    exact ⟨by simp, by simp, .nil _⟩
  | cons image images ih =>
    rw [forall_mem_cons] at hnew
    rw [zipIdx_cons] at h
    obtain ⟨head, rest, middle, hhead, hrest, rfl⟩ := mapM_cons_eq_ok h
    obtain ⟨hdescribed, hnamed, hstores⟩ := extractImage_eq_ok hhead hnew.1
    obtain ⟨hdescribedRest, hnamedRest, hstoresRest⟩ := ih hrest hnew.2
    rw [forall_mem_cons, zipIdx_cons, forall_mem_cons, filterMap_cons]
    refine ⟨⟨hdescribed, hdescribedRest⟩, ⟨hnamed, hnamedRest⟩, ?_⟩
    cases hdeposit : deposit? sha256 package outDir records (head, first) with
    | none =>
      rw [hdeposit] at hstores
      simpa only [hstores] using hstoresRest
    | some deposit =>
      rw [hdeposit] at hstores
      exact .cons hstores hstoresRest

end Extracted

lemma yields_parsePackage :
    Yields parsePackage (fun data => ∀ image ∈ data.componentImages, image.fwImageName = none) := by
  have himage : ∀ header, Yields (parseComponentImage header) (fun image => image.fwImageName = none) := by
    intro header
    unfold parseComponentImage
    iterate 11 refine .bind (fun _ => ?_)
    exact .pure rfl
  have himages : ∀ header, Yields (parseComponentImages header)
      (fun images => ∀ image ∈ images, image.fwImageName = none) := by
    intro header
    unfold parseComponentImages
    iterate 3 refine .bind (fun _ => ?_)
    exact .mapM (fun _ => himage header) _
  unfold parsePackage
  refine .bind (fun header => .bind (fun _ => .bind (fun _ => .bind_of (himages header) ?_)))
  intro images hnew
  exact .bind (fun _ => .bind (fun _ => .pure hnew))

section Deposits

variable (data : PldmParsedData) (sha256 : Bytes → String) (package : Bytes) (outDir : String)

def PldmParsedData.deposits : List (Deposit String Bytes) :=
  data.componentImages.zipIdx.filterMap (deposit? sha256 package outDir data.deviceRecords)

/-- The last image that uses a path as its temporary or its final path has it as its final path, and has
these bytes. -/
def PldmParsedData.Keeps (path : String) (content : Bytes) : Prop :=
  ∃ last, Deposit.lastUse path (data.deposits sha256 package outDir) = some last ∧ last.final = path ∧
    last.content = content

end Deposits

section Call

variable {faults : Faults} {sha256 : Bytes → String} {package : Bytes} {outDir path : String}

variable {output output' : OutputDirectory}

lemma files_runIf_createDirAll {p : Prop} [Decidable p] {u : Unit}
    (h : runIf p (createDirAll faults) output = .ok u output') : output'.files = output.files := by
  unfold runIf at h
  split at h
  case isFalse => rw [(pure_eq_ok h).2]
  case isTrue =>
    obtain ⟨_, middle, hcreate, hmodify⟩ := bind_eq_ok h
    rw [operation_eq_ok hcreate] at hmodify
    cases hmodify
    rfl

lemma extractFiles_eq_ok
    (h : extractFiles faults sha256 package outDir images records output = .ok extracted output')
    (hnew : ∀ image ∈ images, image.fwImageName = none) :
    (∀ image ∈ extracted, image.Described sha256 package) ∧
      (∀ entry ∈ extracted.zipIdx,
        entry.1.fwImageName = (deposit? sha256 package outDir records entry).map Deposit.final) ∧
      Deposit.StoresAll output.files (extracted.zipIdx.filterMap (deposit? sha256 package outDir records))
        output'.files := by
  unfold extractFiles at h
  obtain ⟨_, validated, hvalid, h₁⟩ := bind_eq_ok h
  rw [(orError_eq_ok hvalid).2] at h₁
  obtain ⟨_, looked, hget, h₂⟩ := bind_eq_ok h₁
  cases hget
  obtain ⟨_, prepared, hdir, h₃⟩ := bind_eq_ok h₂
  have himages := mapM_extractImage_eq_ok h₃ hnew
  rw [files_runIf_createDirAll hdir] at himages
  exact himages

lemma parse_eq_ok {data : PldmParsedData}
    (h : parse faults sha256 package outDir path true output = .ok data output') :
    (∀ image ∈ data.componentImages, image.Described sha256 package) ∧
      (∀ entry ∈ data.componentImages.zipIdx,
        entry.1.fwImageName = (deposit? sha256 package outDir data.deviceRecords entry).map Deposit.final) ∧
      Deposit.StoresAll output.files (data.deposits sha256 package outDir) output'.files := by
  obtain ⟨_, opened, hopen, h₁⟩ := bind_eq_ok h
  rw [operation_eq_ok hopen] at h₁
  obtain ⟨parsed, start, hread, h₂⟩ := bind_eq_ok h₁
  obtain ⟨images, extracted, hextract, h₃⟩ := bind_eq_ok h₂
  obtain ⟨rfl, rfl⟩ := pure_eq_ok h₃
  unfold readPackage at hread
  split at hread
  case h_2 => cases hread
  case h_1 data file hparse =>
    cases hread
    exact extractFiles_eq_ok hextract (yields_parsePackage _ _ _ hparse)

end Call

/-- Unpacking touches only files of the output directory. If it returns, each image has the path of its
names and its hash, and its bytes are there if and only if the last image that uses this path left them. -/
theorem parse_unpacks (faults : Faults) (sha256 : Bytes → String) (package : Bytes) (outDir path : String)
    (present : Bool) :
    (∀ touched ∈ (outcome (parse faults sha256 package outDir path true ⟨present, ∅, []⟩)).2.touched,
      IsDirectChild outDir touched) ∧
    ∀ data output, parse faults sha256 package outDir path true ⟨present, ∅, []⟩ = .ok data output →
      (∀ image ∈ data.componentImages, image.Described sha256 package) ∧
      (∀ entry ∈ data.componentImages.zipIdx,
        entry.1.fwImageName = (deposit? sha256 package outDir data.deviceRecords entry).map Deposit.final) ∧
      ∀ image ∈ data.componentImages, ∀ fwImageName, image.fwImageName = some fwImageName →
        (output.files.lookup fwImageName = some (image.content package) ↔
          data.Keeps sha256 package outDir fwImageName (image.content package)) := by
  refine ⟨keeps_parse faults sha256 package path true _ (by simp [Confined]), ?_⟩
  intro data output hparse
  obtain ⟨hdescribed, hnamed, hstores⟩ := parse_eq_ok hparse
  exact ⟨hdescribed, hnamed, fun image _ fwImageName _ => hstores.lookup_eq_some_iff⟩

def noFaults : Faults := ⟨none, false, none, fun _ => ⟨none, none, fun _ => none, fun _ => none, none⟩⟩

def imageEntry (offset : UInt8) (version : String) : Bytes :=
  replicate 12 0 ++ [offset, 0, 0, 0, 1, 0, 0, 0, 1, version.length.toUInt8] ++
    version.toList.map (fun c => c.toNat.toUInt8)

/-- A package with one record, named `A`, for two images of one byte. -/
def twoImages (version : String) : Bytes :=
  let offset := (version.length + 101).toUInt8
  [0xF0, 0x18, 0x87, 0x8C, 0xCB, 0x7D, 0x49, 0x43, 0x98, 0x00, 0xA0, 0x2F, 0x05, 0x9A, 0xCA, 0x02] ++
    [1, 0, 0] ++ replicate 13 0 ++ [8, 0, 1, 0] ++ [1, 0, 0, 0, 0, 0, 0, 0, 1, 1, 0, 0, 3, 65] ++
    [2, 0] ++ imageEntry offset "1" ++ imageEntry (offset + 1) version ++ [0, 0, 0, 0] ++ [0, 1]

def imageHash (bytes : Bytes) : String :=
  if bytes = [0] then "6e340b9cffb37a989ca544e6bb780a2c78901d3fb33738768511a30617afa01d"
  else "4bf5122f344554c53bde2ebb8cd2b7e3d1600ad631c385a5d7cce23c7785459a"

def unpack (version : String) : EStateM.Result Failure OutputDirectory PldmParsedData :=
  parse noFaults imageHash (twoImages version) "/out" "package" true ⟨true, ∅, []⟩

/-- Whether every image has a path that keeps its bytes. -/
def keepsImages (package : Bytes) : EStateM.Result Failure OutputDirectory PldmParsedData → Bool
  | .ok data _ => data.componentImages.all (fun image => image.fwImageName.any (fun fwImageName =>
      (Deposit.lastUse fwImageName (data.deposits imageHash package "/out")).any (fun last =>
        last.final = fwImageName && last.content = image.content package)))
  | .error _ _ => false

theorem otherVersion_unpacks : ∃ data output, unpack "2" = .ok data output ∧
    ∀ image ∈ data.componentImages, ∃ fwImageName, image.fwImageName = some fwImageName ∧
      output.files.lookup fwImageName = some (image.content (twoImages "2")) := by
  have hrun : keepsImages (twoImages "2") (unpack "2") = true := by decide +kernel
  cases hresult : unpack "2" with
  | error message output =>
    rw [hresult] at hrun
    cases hrun
  | ok data output =>
    rw [hresult] at hrun
    simp only [keepsImages, all_eq_true, Option.any_eq_true, Bool.and_eq_true, decide_eq_true_eq] at hrun
    refine ⟨data, output, rfl, fun image himage => ?_⟩
    obtain ⟨fwImageName, hname, hkept⟩ := hrun image himage
    obtain ⟨-, -, hunpacks⟩ :=
      (parse_unpacks noFaults imageHash (twoImages "2") "/out" "package" true).2 data output hresult
    exact ⟨fwImageName, hname, (hunpacks image himage fwImageName hname).mpr hkept⟩

def losesImage : EStateM.Result Failure OutputDirectory PldmParsedData → Bool
  | .ok data output => data.componentImages.any (fun image =>
      image.fwImageName.any (fun fwImageName => (output.files.lookup fwImageName).isNone))
  | .error _ _ => false

/-- The second image's temporary name is the final name of the first. -/
theorem hashVersion_loses_image : ∃ data output, unpack "1_6e340b9c" = .ok data output ∧
    ∃ image ∈ data.componentImages, ∃ fwImageName, image.fwImageName = some fwImageName ∧
      output.files.lookup fwImageName = none := by
  have hrun : losesImage (unpack "1_6e340b9c") = true := by decide +kernel
  cases hresult : unpack "1_6e340b9c" with
  | error message output =>
    rw [hresult] at hrun
    cases hrun
  | ok data output =>
    rw [hresult] at hrun
    simp only [losesImage, any_eq_true, Option.any_eq_true, Option.isNone_iff_eq_none] at hrun
    obtain ⟨image, himage, fwImageName, hname, hlost⟩ := hrun
    exact ⟨data, output, rfl, image, himage, fwImageName, hname, hlost⟩

end RackManagement.Pldm
