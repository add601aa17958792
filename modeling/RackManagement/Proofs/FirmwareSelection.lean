import RackManagement.Model.FirmwarePlan

/-!
# Selected components

The loop over the candidates succeeds if and only if every candidate that applies has a channel and
the selected candidates of a target are of one board.
-/

namespace RackManagement.Manifest

open Library Selectors List

variable {lib : UrlLibrary} {manifest : FirmwareManifest} {nodeType : NodeType} {firmwareType : String}
  {selection : ComponentSelection} {profile : Option HardwareUpdatePlan} {prefersBios : Bool}

def Candidate.chosen (manifest : FirmwareManifest) (nodeType : NodeType) (firmwareType : String)
    (selection : ComponentSelection) (profile : Option HardwareUpdatePlan) (prefersBios : Bool)
    (candidate : Candidate) : Bool :=
  candidate.applies nodeType selection profile && inChannel manifest candidate.component firmwareType &&
    !candidate.isOtherErot nodeType prefersBios

def Candidate.targetKey (candidate : Candidate) : String := candidate.mapping.mapping.targetKey

def Selection.add (state : Selection) (candidate : Candidate) : Selection :=
  (state.1.insert candidate.targetKey candidate.board, state.2 ++ [candidate.selected])

def Candidate.Labelled (manifest : FirmwareManifest) (nodeType : NodeType) (selection : ComponentSelection)
    (profile : Option HardwareUpdatePlan) (candidate : Candidate) : Prop :=
  candidate.applies nodeType selection profile = true → (channel manifest candidate.component).isSome = true

lemma selectCandidate_eq_ok {state next : Selection} {candidate : Candidate} :
    selectCandidate manifest nodeType firmwareType selection profile prefersBios state candidate =
      .ok next ↔
      candidate.Labelled manifest nodeType selection profile ∧
      (candidate.chosen manifest nodeType firmwareType selection profile prefersBios = true →
        ∀ board, state.1.lookup candidate.targetKey = some board → board = candidate.board) ∧
      next = if candidate.chosen manifest nodeType firmwareType selection profile prefersBios
        then state.add candidate
        else state := by
  unfold selectCandidate Candidate.Labelled Candidate.chosen inChannel Candidate.targetKey Selection.add
  by_cases happlies : candidate.applies nodeType selection profile = true
  case neg =>
    simp only [happlies, Bool.false_eq_true, if_false, Bool.false_and, false_implies, true_and,
      Except.ok.injEq]
    exact eq_comm
  rw [if_pos happlies]
  cases hchannel : channel manifest candidate.component with
  | none => simp [happlies]
  | some channel =>
    simp only [happlies, Option.isSome_some, implies_true, true_and, Bool.true_and, Option.any_some]
    by_cases hchosen : (equalsIgnoringAsciiCase (trim channel) (trim firmwareType) &&
        !candidate.isOtherErot nodeType prefersBios) = true
    case neg =>
      simp only [hchosen, Bool.false_eq_true, if_false, false_implies, true_and, Except.ok.injEq]
      exact eq_comm
    simp only [hchosen, if_true, true_implies]
    cases hlookup : state.1.lookup candidate.mapping.mapping.targetKey with
    | none =>
      simp only [Except.ok.injEq, reduceCtorEq, false_implies, implies_true, true_and]
      exact eq_comm
    | some previous =>
      by_cases hboard : previous = candidate.board
      · simp [hboard, Candidate.targetKey, eq_comm]
      · simp [hboard]

section Loop

variable {step : Selection → Candidate → Except PlanError Selection} {chosen : Candidate → Bool}
  {labelled : Candidate → Prop}

/-- A step of the loop: it adds a chosen candidate unless its target was found on another board. -/
def Selects (step : Selection → Candidate → Except PlanError Selection) (chosen : Candidate → Bool)
    (labelled : Candidate → Prop) : Prop :=
  ∀ state candidate next, step state candidate = .ok next ↔ labelled candidate ∧
    (chosen candidate = true → ∀ board, state.1.lookup candidate.targetKey = some board →
      board = candidate.board) ∧
    next = if chosen candidate then state.add candidate else state

structure Tracks (chosen : Candidate → Bool) (seen : List Candidate) (state : Selection) : Prop where
  boards : ∀ targetKey board, state.1.lookup targetKey = some board ↔
    ∃ candidate ∈ seen, chosen candidate = true ∧ candidate.targetKey = targetKey ∧ candidate.board = board
  selected : state.2 = (seen.filter chosen).map Candidate.selected

/-- The chosen candidates of a target are of one board. -/
def OneBoard (chosen : Candidate → Bool) (candidates : List Candidate) : Prop :=
  ∀ a ∈ candidates, ∀ b ∈ candidates, chosen a = true → chosen b = true →
    a.targetKey = b.targetKey → a.board = b.board

lemma Tracks.nil : Tracks chosen [] (∅, []) where
  boards targetKey board := by simp
  selected := rfl

variable {seen : List Candidate} {state : Selection} {candidate : Candidate}

lemma Tracks.oneBoard (h : Tracks chosen seen state) : OneBoard chosen seen := by
  intro a ha b hb hchosena hchosenb hkey
  have hlookupa := (h.boards a.targetKey a.board).mpr ⟨a, ha, hchosena, rfl, rfl⟩
  have hlookupb := (h.boards a.targetKey b.board).mpr ⟨b, hb, hchosenb, hkey.symm, rfl⟩
  exact Option.some.inj (hlookupa.symm.trans hlookupb)

lemma exists_mem_snoc_iff {p : Candidate → Prop} (hlast : ¬p candidate) :
    (∃ found ∈ seen ++ [candidate], p found) ↔ ∃ found ∈ seen, p found := by
  simp only [mem_append, mem_singleton, or_and_right, exists_or, exists_eq_left, hlast, or_false]

lemma Tracks.skip (h : Tracks chosen seen state)
    (hchosen : chosen candidate = false) : Tracks chosen (seen ++ [candidate]) state where
  boards targetKey board := by
    rw [h.boards, exists_mem_snoc_iff]
    simp [hchosen]
  selected := by simp [h.selected, hchosen]

lemma Tracks.add (h : Tracks chosen seen state) (hchosen : chosen candidate = true)
    (hboard : ∀ board, state.1.lookup candidate.targetKey = some board → board = candidate.board) :
    Tracks chosen (seen ++ [candidate]) (state.add candidate) where
  boards targetKey board := by
    rw [Selection.add, FiniteMap.lookup_insert_eq_ite]
    by_cases hkey : targetKey = candidate.targetKey
    · rw [if_pos hkey, Option.some.injEq]
      constructor
      · intro heq
        exact ⟨candidate, by simp, hchosen, hkey.symm, heq⟩
      · rintro ⟨found, hfound, hfoundchosen, hfoundkey, hfoundboard⟩
        obtain hfound | hfound := mem_append.mp hfound
        · have hlookup :=
            (h.boards targetKey board).mpr ⟨found, hfound, hfoundchosen, hfoundkey, hfoundboard⟩
          rw [hkey] at hlookup
          exact (hboard board hlookup).symm
        · rw [← hfoundboard, mem_singleton.mp hfound]
    · rw [if_neg hkey, h.boards, exists_mem_snoc_iff]
      exact fun hlast => hkey hlast.2.1.symm
  selected := by simp [Selection.add, h.selected, hchosen]

variable (hselects : Selects step chosen labelled)
include hselects

section

variable (h : Tracks chosen seen state)
include h

lemma Tracks.next {next : Selection} (hnext : step state candidate = .ok next) :
    labelled candidate ∧ Tracks chosen (seen ++ [candidate]) next := by
  obtain ⟨hlabelled, hboard, rfl⟩ := (hselects state candidate next).mp hnext
  refine ⟨hlabelled, ?_⟩
  by_cases hchosen : chosen candidate = true
  · rw [if_pos hchosen]
    exact h.add hchosen (hboard hchosen)
  · rw [if_neg hchosen]
    exact h.skip (by simpa using hchosen)

lemma Tracks.run {rest : List Candidate} {final : Selection}
    (hfinal : rest.foldlM step state = .ok final) :
    (∀ candidate ∈ rest, labelled candidate) ∧ Tracks chosen (seen ++ rest) final := by
  induction rest generalizing seen state with
  | nil =>
    cases hfinal
    exact ⟨by simp, by rwa [append_nil]⟩
  | cons candidate rest ih =>
    rw [foldlM_cons] at hfinal
    obtain ⟨next, hnext, hfinal⟩ := bind_eq_ok.mp hfinal
    obtain ⟨hlabelled, htracks⟩ := h.next hselects hnext
    obtain ⟨hrest, htracks⟩ := ih htracks hfinal
    rw [append_assoc, singleton_append] at htracks
    exact ⟨forall_mem_cons.mpr ⟨hlabelled, hrest⟩, htracks⟩

lemma Tracks.exists_run {rest : List Candidate} (hlabelled : ∀ candidate ∈ rest, labelled candidate)
    (hone : OneBoard chosen (seen ++ rest)) : ∃ final, rest.foldlM step state = .ok final := by
  induction rest generalizing seen state with
  | nil => exact ⟨state, rfl⟩
  | cons candidate rest ih =>
    have hnext : step state candidate = .ok (if chosen candidate then state.add candidate else state) := by
      refine (hselects _ _ _).mpr ⟨hlabelled candidate (by simp), ?_, rfl⟩
      intro hchosen board hlookup
      obtain ⟨found, hfound, hfoundchosen, hkey, hboard⟩ := (h.boards _ _).mp hlookup
      rw [← hboard]
      exact hone found (by simp [hfound]) candidate (by simp) hfoundchosen hchosen hkey
    have htracks := (h.next hselects hnext).2
    obtain ⟨final, hfinal⟩ :=
      ih htracks (fun other hother => hlabelled other (mem_cons_of_mem _ hother)) (by
      rwa [append_assoc, singleton_append])
    refine ⟨final, ?_⟩
    rw [foldlM_cons]
    exact bind_eq_ok.mpr ⟨_, hnext, hfinal⟩

end

lemma foldlM_selects_iff {candidates : List Candidate} {selected : List SelectedComponent} :
    (∃ final, candidates.foldlM step (∅, []) = .ok final ∧ final.2 = selected) ↔
      (∀ candidate ∈ candidates, labelled candidate) ∧ OneBoard chosen candidates ∧
        selected = (candidates.filter chosen).map Candidate.selected := by
  constructor
  · rintro ⟨final, hfinal, rfl⟩
    obtain ⟨hlabelled, htracks⟩ := Tracks.nil.run hselects hfinal
    exact ⟨hlabelled, htracks.oneBoard, htracks.selected⟩
  · rintro ⟨hlabelled, hone, rfl⟩
    obtain ⟨final, hfinal⟩ := Tracks.nil.exists_run hselects hlabelled hone
    exact ⟨final, hfinal, (Tracks.nil.run hselects hfinal).2.selected⟩

end Loop

lemma selects_selectCandidate :
    Selects (selectCandidate manifest nodeType firmwareType selection profile prefersBios)
      (Candidate.chosen manifest nodeType firmwareType selection profile prefersBios)
      (Candidate.Labelled manifest nodeType selection profile) :=
  fun _ _ _ => selectCandidate_eq_ok

variable {selected : List SelectedComponent}

lemma checkRequested_eq_ok {requested : String} :
    checkRequested nodeType firmwareType selected requested = .ok () ↔
      selected.any (SelectedComponent.isRequested requested) = true := by
  rw [checkRequested, failIf_eq_ok, Bool.not_eq_false]

def chosenCandidates (lib : UrlLibrary) (manifest : FirmwareManifest) (nodeType : NodeType)
    (firmwareType : String)
    (selection : ComponentSelection) (profile : Option HardwareUpdatePlan) (milestone : Milestone) :
    List Candidate :=
  (candidates nodeType profile milestone.boardSkus).filter
    (Candidate.chosen manifest nodeType firmwareType selection profile
    (prefersSwitchBiosErot lib manifest nodeType firmwareType milestone.boardSkus))

/-- The candidates that apply are labelled, no target is on two boards and every requested name is found. -/
structure Selectable (lib : UrlLibrary) (manifest : FirmwareManifest) (nodeType : NodeType)
    (firmwareType : String)
    (selection : ComponentSelection) (profile : Option HardwareUpdatePlan) (milestone : Milestone) :
    Prop where
  labelled : ∀ candidate ∈ candidates nodeType profile milestone.boardSkus,
    candidate.Labelled manifest nodeType selection profile
  oneBoard : OneBoard (Candidate.chosen manifest nodeType firmwareType selection profile
    (prefersSwitchBiosErot lib manifest nodeType firmwareType milestone.boardSkus))
    (candidates nodeType profile milestone.boardSkus)
  requested : ∀ requested ∈ selection.names,
    ((chosenCandidates lib manifest nodeType firmwareType selection profile milestone).map
      Candidate.selected).any
      (SelectedComponent.isRequested requested) = true
  nonempty : chosenCandidates lib manifest nodeType firmwareType selection profile milestone ≠ []

lemma selectComponentsWithProfile_eq_ok :
    selectComponentsWithProfile lib manifest nodeType firmwareType selection profile = .ok selected ↔
      ∃ milestone, singleMilestone manifest = .ok milestone ∧
        Selectable lib manifest nodeType firmwareType selection profile milestone ∧
        selected = (chosenCandidates lib manifest nodeType firmwareType selection profile
          milestone).map Candidate.selected := by
  unfold selectComponentsWithProfile
  rw [bind_eq_ok]
  refine exists_congr (fun milestone => and_congr_right (fun _ => ?_))
  constructor
  · intro h
    obtain ⟨state, hstate, h⟩ := bind_eq_ok.mp h
    obtain ⟨_, hrequested, h⟩ := bind_eq_ok.mp h
    obtain ⟨_, hnonempty, h⟩ := bind_eq_ok.mp h
    cases h
    obtain ⟨hlabelled, hone, hselected⟩ :=
      (foldlM_selects_iff selects_selectCandidate).mp ⟨state, hstate, rfl⟩
    have hnonempty := failIf_eq_ok.mp hnonempty
    rw [hselected] at hrequested hnonempty
    refine ⟨⟨hlabelled, hone, ?_, ?_⟩, hselected⟩
    · intro requested hmem
      exact checkRequested_eq_ok.mp (forM_eq_ok.mp hrequested requested hmem)
    · intro hnil
      exact hnonempty (map_eq_nil_iff.mpr hnil)
  · rintro ⟨⟨hlabelled, hone, hrequested, hnonempty⟩, rfl⟩
    obtain ⟨state, hstate, hselected⟩ :=
      (foldlM_selects_iff selects_selectCandidate).mpr ⟨hlabelled, hone, rfl⟩
    refine bind_eq_ok.mpr ⟨state, hstate, bind_eq_ok.mpr ⟨(), ?_, bind_eq_ok.mpr ⟨(), ?_, ?_⟩⟩⟩
    · rw [hselected]
      exact forM_eq_ok.mpr (fun requested hmem => checkRequested_eq_ok.mpr (hrequested requested hmem))
    · rw [hselected]
      exact failIf_eq_ok.mpr (fun hnil => hnonempty (map_eq_nil_iff.mp hnil))
    · rw [hselected]
      rfl

lemma exists_board_of_mem_select {component : SelectedComponent}
    (h : selectComponentsWithProfile lib manifest nodeType firmwareType selection profile = .ok selected)
    (hmem : component ∈ selected) :
    ∃ milestone board, singleMilestone manifest = .ok milestone ∧
      (board, component.board) ∈ milestone.boardSkus.zipIdx ∧
      boardMatches board.boardType nodeType = true ∧
      (component.component, component.index) ∈ board.components.firmware.zipIdx := by
  obtain ⟨milestone, hmilestone, -, rfl⟩ := selectComponentsWithProfile_eq_ok.mp h
  obtain ⟨candidate, hcandidate, rfl⟩ := mem_map.mp hmem
  obtain ⟨board, hboard, hcandidate⟩ := mem_flatMap.mp (mem_of_mem_filter hcandidate)
  unfold boardCandidates at hcandidate
  split at hcandidate
  case isFalse => cases hcandidate
  case isTrue hmatches =>
  obtain ⟨entry, hentry, hcandidate⟩ := mem_flatMap.mp hcandidate
  obtain ⟨mapping, -, rfl⟩ := mem_map.mp hcandidate
  exact ⟨milestone, board.1, hmilestone, hboard, hmatches, hentry⟩

def pathTools : Tools where
  url := ⟨fun _ => .error "relative URL without a base", fun _ _ => none, Url.path, fun _ =>
    none, fun _ => none⟩
  digest bytes := Vector.replicate 32 (bytes.foldl (fun total b => total * 31 + b) 0)
  manifestToVec _ := .ok []
  identityToVec identity := .ok (identity.2.2.2.2.toList.map (fun c => .ofNat c.toNat))
  linkxPolicyFromValue _ := .error "missing field"

def fileLocation (path artifactType : String) : Location :=
  ⟨some path, some "file", none, some artifactType, none, none, none⟩

/-- A bundle of the production channel. -/
def prodComponent (name version : String) (locations : List Location) : Component :=
  ⟨none, name, some version, some "Prod", none, [], locations, []⟩

/-- A compute board with a bundle of each version, its BIOS image and recovery package, and a switch
board with an operating system. -/
def hmcManifest (versions : List String) : FirmwareManifest where
  productName := "GB300"
  milestones := [⟨"1.3.6", none,
    [⟨none, "", "Compute Node", [], versions.map (fun version => prodComponent "HMC" version
      [fileLocation "/images/hmc_nosbios.fwpkg" "Firmware", fileLocation "/images/bios.bin" "Firmware",
        fileLocation "/images/hmc_recovery.fwpkg" "Firmware-Recovery"])⟩,
    ⟨none, "", "Switch Tray",
      [prodComponent "NVOS" "25.02" [fileLocation "/images/nvos.bin" "Binary"]], []⟩]⟩]

end RackManagement.Manifest
