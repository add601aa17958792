import RackManagement.Proofs.FirmwareSelection

/-! # Expected versions -/

namespace RackManagement.Manifest

open Library Selectors List

variable {lib : UrlLibrary} {nodeType : NodeType} {firmwareType : String} {selection : ComponentSelection}
  {profile : Option HardwareUpdatePlan}

/-- The same board with its firmware components in another order. -/
structure BoardSku.Reordered (board board' : BoardSku) : Prop where
  skuId : board'.skuId = board.skuId
  name : board'.name = board.name
  boardType : board'.boardType = board.boardType
  software : board'.components.software = board.components.software
  firmware : board.components.firmware.Perm board'.components.firmware

structure Milestone.Reordered (milestone milestone' : Milestone) : Prop where
  name : milestone'.name = milestone.name
  state : milestone'.state = milestone.state
  boardSkus : List.Forall₂ BoardSku.Reordered milestone.boardSkus milestone'.boardSkus

/-- The manifests differ in the order of the firmware entries of their boards only. -/
structure FirmwareManifest.Reordered (manifest manifest' : FirmwareManifest) : Prop where
  productName : manifest'.productName = manifest.productName
  milestones : List.Forall₂ Milestone.Reordered manifest.milestones manifest'.milestones

/-- A candidate without its position on the board. -/
def Candidate.bare (candidate : Candidate) : Candidate := { candidate with index := 0 }

def SelectedComponent.bare (selected : SelectedComponent) : SelectedComponent :=
  { selected with index := 0 }

lemma map_bare_boardCandidates (board : BoardSku × Nat) :
    (boardCandidates nodeType profile board).map Candidate.bare =
      if boardMatches board.1.boardType nodeType then
        board.1.components.firmware.flatMap (fun component =>
          componentCandidates nodeType profile board.2 (component, 0))
      else [] := by
  unfold boardCandidates
  split
  case isFalse => rfl
  case isTrue =>
  rw [map_flatMap, ← zipIdx_map_fst 0 board.1.components.firmware, flatMap_map, zipIdx_map_fst]
  refine flatMap_congr (fun component _ => ?_)
  rw [componentCandidates, map_map]
  rfl

lemma perm_flatMap_zipIdx {α β : Type} {R : α → α → Prop} {f : α × Nat → List β}
    (hf : ∀ a b i, R a b → (f (a, i)).Perm (f (b, i))) {l l' : List α} (h : List.Forall₂ R l l') (n : Nat) :
    ((l.zipIdx n).flatMap f).Perm ((l'.zipIdx n).flatMap f) := by
  induction h generalizing n with
  | nil => exact .refl _
  | cons hab _ ih =>
    rw [zipIdx_cons, zipIdx_cons, flatMap_cons, flatMap_cons]
    exact (hf _ _ n hab).append (ih (n + 1))

variable {boards boards' : List BoardSku}

lemma perm_map_bare_candidates (h : List.Forall₂ BoardSku.Reordered boards boards') :
    ((candidates nodeType profile boards).map Candidate.bare).Perm
      ((candidates nodeType profile boards').map Candidate.bare) := by
  rw [candidates, candidates, map_flatMap, map_flatMap]
  apply perm_flatMap_zipIdx _ h
  intro board board' i hboard
  rw [map_bare_boardCandidates, map_bare_boardCandidates, hboard.boardType]
  split
  · exact hboard.firmware.flatMap_right _
  · exact .refl _

lemma perm_flatMap_firmware (h : List.Forall₂ BoardSku.Reordered boards boards') :
    ((boards.filter (fun board => boardMatches board.boardType nodeType)).flatMap (fun board =>
      board.components.firmware)).Perm
      ((boards'.filter (fun board => boardMatches board.boardType nodeType)).flatMap
        (fun board => board.components.firmware)) := by
  induction h with
  | nil => exact .refl _
  | @cons board board' _ _ hboard _ ih =>
    rw [filter_cons, filter_cons, hboard.boardType]
    split
    · exact hboard.firmware.append ih
    · exact ih

lemma Candidate.eq_of_bare_eq {a b : Candidate} (h : a.bare = b.bare) :
    a.targetKey = b.targetKey ∧ a.board = b.board := by
  cases a
  cases b
  cases h
  exact ⟨rfl, rfl⟩

section

variable {candidates candidates' : List Candidate}
  (h : (candidates.map Candidate.bare).Perm (candidates'.map Candidate.bare))
include h

lemma exists_of_mem_of_perm_bare {candidate' : Candidate} (hmem : candidate' ∈ candidates') :
    ∃ candidate ∈ candidates, candidate.bare = candidate'.bare :=
  mem_map.mp (h.mem_iff.mpr (mem_map_of_mem hmem))

lemma forall_of_perm_bare {p : Candidate → Prop} (hp : ∀ candidate, p candidate ↔ p candidate.bare)
    (hall : ∀ candidate ∈ candidates, p candidate) : ∀ candidate ∈ candidates', p candidate := by
  intro candidate' hmem
  obtain ⟨candidate, hcandidate, hbare⟩ := exists_of_mem_of_perm_bare h hmem
  rw [hp, ← hbare, ← hp]
  exact hall candidate hcandidate

variable {chosen : Candidate → Bool}

lemma oneBoard_of_perm_bare (hchosen : ∀ candidate, chosen candidate = chosen candidate.bare)
    (hone : OneBoard chosen candidates) : OneBoard chosen candidates' := by
  intro a' ha' b' hb' hchosena hchosenb hkey
  obtain ⟨a, ha, hbarea⟩ := exists_of_mem_of_perm_bare h ha'
  obtain ⟨b, hb, hbareb⟩ := exists_of_mem_of_perm_bare h hb'
  rw [hchosen, ← hbarea, ← hchosen] at hchosena
  rw [hchosen, ← hbareb, ← hchosen] at hchosenb
  obtain ⟨hkeya, hboarda⟩ := Candidate.eq_of_bare_eq hbarea
  obtain ⟨hkeyb, hboardb⟩ := Candidate.eq_of_bare_eq hbareb
  rw [← hboarda, ← hboardb]
  exact hone a ha b hb hchosena hchosenb (by rw [hkeya, hkeyb, hkey])

lemma perm_filter_bare (hchosen : ∀ candidate, chosen candidate = chosen candidate.bare) :
    ((candidates.filter chosen).map Candidate.bare).Perm
      ((candidates'.filter chosen).map Candidate.bare) := by
  have hcomp : chosen ∘ Candidate.bare = chosen := funext (fun candidate => (hchosen candidate).symm)
  have hfilter := h.filter chosen
  rwa [filter_map, filter_map, hcomp] at hfilter

end

lemma singleMilestone_eq_ok {manifest : FirmwareManifest} {milestone : Milestone} :
    singleMilestone manifest = .ok milestone ↔ manifest.milestones = [milestone] := by
  unfold singleMilestone
  split
  case h_1 only heq =>
    rw [heq]
    simp
  case h_2 hne =>
    constructor
    · intro h
      cases h
    · intro h
      exact absurd h (hne milestone)

variable {selected : List SelectedComponent}

lemma selectComponentsWithProfile_reordered {manifest manifest' : FirmwareManifest}
    (hreordered : manifest.Reordered manifest')
    (h : selectComponentsWithProfile lib manifest nodeType firmwareType selection profile = .ok selected) :
    ∃ selected', selectComponentsWithProfile lib manifest' nodeType firmwareType selection profile =
      .ok selected' ∧
      (selected.map SelectedComponent.bare).Perm (selected'.map SelectedComponent.bare) := by
  obtain ⟨milestone, hmilestone, hselectable, rfl⟩ := selectComponentsWithProfile_eq_ok.mp h
  obtain ⟨productName, milestones⟩ := manifest
  obtain ⟨productName', milestones'⟩ := manifest'
  obtain ⟨hname, hmilestones⟩ := hreordered
  cases hname
  cases singleMilestone_eq_ok.mp hmilestone
  obtain ⟨milestone', hmilestone', rfl⟩ :
    ∃ milestone', milestone.Reordered milestone' ∧ milestones' = [milestone'] := by
    cases hmilestones with
    | cons hhead htail =>
      cases htail
      exact ⟨_, hhead, rfl⟩
  have hcandidates : ((candidates nodeType profile milestone.boardSkus).map Candidate.bare).Perm
      ((candidates nodeType profile milestone'.boardSkus).map Candidate.bare) :=
        perm_map_bare_candidates hmilestone'.boardSkus
  have hprefers :
      prefersSwitchBiosErot lib ⟨productName, [milestone']⟩ nodeType firmwareType milestone'.boardSkus =
      prefersSwitchBiosErot lib ⟨productName, [milestone]⟩ nodeType firmwareType milestone.boardSkus := by
    unfold prefersSwitchBiosErot
    rw [(perm_flatMap_firmware hmilestone'.boardSkus).any_eq]
    rfl
  have hchosen :
      ((chosenCandidates lib
        ⟨productName, [milestone]⟩ nodeType firmwareType selection profile milestone).map
      Candidate.bare).Perm
        ((chosenCandidates lib ⟨productName, [milestone']⟩ nodeType firmwareType selection profile
        milestone').map Candidate.bare) := by
    unfold chosenCandidates
    rw [hprefers]
    exact perm_filter_bare hcandidates (fun _ => rfl)
  have hselected :
      ∀ candidates : List Candidate, (candidates.map Candidate.selected).map SelectedComponent.bare =
      (candidates.map Candidate.bare).map Candidate.selected := by
    intro candidates
    rw [map_map, map_map]
    rfl
  have hperm := hchosen.map Candidate.selected
  rw [← hselected, ← hselected] at hperm
  refine ⟨_, selectComponentsWithProfile_eq_ok.mpr ⟨milestone', rfl, ⟨?_, ?_, ?_, ?_⟩, rfl⟩, hperm⟩
  · exact forall_of_perm_bare hcandidates (fun _ => Iff.rfl) hselectable.labelled
  · rw [hprefers]
    exact oneBoard_of_perm_bare hcandidates (fun _ => rfl) hselectable.oneBoard
  · intro requested hrequested
    have hbare : ∀ selected : List SelectedComponent, (selected.map SelectedComponent.bare).any
        (SelectedComponent.isRequested requested) =
          selected.any (SelectedComponent.isRequested requested) := by
      intro selected
      rw [any_map]
      rfl
    rw [← hbare, ← hperm.any_eq, hbare]
    exact hselectable.requested requested hrequested
  · intro hnil
    rw [hnil] at hchosen
    exact hselectable.nonempty (map_eq_nil_iff.mp hchosen.eq_nil)

def proposalsOf (selected : List SelectedComponent) : List FirmwareManifestExpectation :=
  selected.flatMap SelectedComponent.proposals

lemma proposalsOf_perm {selected selected' : List SelectedComponent}
    (h : (selected.map SelectedComponent.bare).Perm (selected'.map SelectedComponent.bare)) :
    (proposalsOf selected).Perm (proposalsOf selected') := by
  have hbare : ∀ selected : List SelectedComponent, proposalsOf selected =
      (selected.map SelectedComponent.bare).flatMap SelectedComponent.proposals := by
    intro selected
    rw [flatMap_map]
    rfl
  rw [hbare, hbare]
  exact h.flatMap_right _

lemma trim_version_of_mem_proposalsOf {proposal : FirmwareManifestExpectation}
    (h : proposal ∈ proposalsOf selected) : trim proposal.version = proposal.version := by
  obtain ⟨component, -, h⟩ := mem_flatMap.mp h
  obtain ⟨expectation, hexpectation, h⟩ := mem_flatMap.mp h
  obtain ⟨target, -, rfl⟩ := mem_map.mp h
  unfold SelectedComponent.proposed at hexpectation
  dsimp only at hexpectation
  split at hexpectation
  · split at hexpectation
    · cases mem_singleton.mp hexpectation
      exact trimBy_trimBy _ _
    · cases hexpectation
  · obtain ⟨sub, -, rfl⟩ := mem_map.mp hexpectation
    exact trimBy_trimBy _ _

lemma sameVersion_iff {a b : FirmwareManifestExpectation} :
    a.sameVersion b = true ↔ toAsciiLowercase (trim a.version) = toAsciiLowercase (trim b.version) := by
  rw [FirmwareManifestExpectation.sameVersion, firmwareVersionsMatch, equalsIgnoringAsciiCase,
    decide_eq_true_eq]

lemma agreement_sameVersion : Agreement FirmwareManifestExpectation.sameVersion where
  refl _ := sameVersion_iff.mpr rfl
  symm _ _ h := sameVersion_iff.mpr (sameVersion_iff.mp h).symm
  trans _ _ _ hab hbc := sameVersion_iff.mpr ((sameVersion_iff.mp hab).trans (sameVersion_iff.mp hbc))

lemma conflictingVersions_ne_none (a b : FirmwareManifestExpectation) (nodeType : NodeType)
    (firmwareType : String) :
    conflictingVersions a b ≠
      .invalid (s!"no comparable firmware versions found in manifest for node type {nodeType.asStr} " ++
        s!"({firmwareType})") := by
  intro h
  have htext := congrArg (fun text : String => text.toList.head?) (PlanError.invalid.inj h)
  have hconflict :
      "firmware manifest has conflicting versions for component ".toList.head? = some 'f' := by
        decide +kernel
  have hnone : "no comparable firmware versions found in manifest for node type ".toList.head? =
    some 'n' := by decide +kernel
  simp only [String.toList_append, append_assoc, head?_append, toString, hconflict, hnone] at htext
  simp at htext

section Expectations

variable {manifest : FirmwareManifest} {selected : List SelectedComponent}
  {returned : List FirmwareManifestExpectation}

def mergeProposals (selected : List SelectedComponent) :
    Except PlanError (OrderedMap FirmwareManifestExpectation.Key FirmwareManifestExpectation) :=
  mergeValues FirmwareManifestExpectation.key FirmwareManifestExpectation.sameVersion
    conflictingVersions (proposalsOf selected)

variable {merged : OrderedMap FirmwareManifestExpectation.Key FirmwareManifestExpectation}

lemma merged_mergeProposals (h : mergeProposals selected = .ok merged) :
    Merged FirmwareManifestExpectation.key FirmwareManifestExpectation.sameVersion
      (proposalsOf selected) merged :=
  merged_of_mergeValues agreement_sameVersion.refl h

section

variable (hselected :
  selectComponentsWithProfile lib manifest nodeType firmwareType selection profile = .ok selected)
include hselected

lemma expectationsWithProfile_eq_ok :
    expectationsWithProfile lib manifest nodeType firmwareType selection profile = .ok returned ↔
      ∃ merged, mergeProposals selected = .ok merged ∧ merged.entries ≠ [] ∧ returned = merged.values := by
  unfold expectationsWithProfile
  rw [bind_eq_ok]
  constructor
  · rintro ⟨other, hother, h⟩
    cases hselected.symm.trans hother
    obtain ⟨merged, hmerged, h⟩ := bind_eq_ok.mp h
    obtain ⟨_, hentries, h⟩ := bind_eq_ok.mp h
    cases h
    exact ⟨merged, hmerged, failIf_eq_ok.mp hentries, rfl⟩
  · rintro ⟨merged, hmerged, hentries, rfl⟩
    exact ⟨selected, hselected,
      bind_eq_ok.mpr ⟨merged, hmerged, bind_eq_ok.mpr ⟨(), failIf_eq_ok.mpr hentries, rfl⟩⟩⟩

lemma isOk_expectationsWithProfile :
    (expectationsWithProfile lib manifest nodeType firmwareType selection profile).isOk = true ↔
      ¬Conflicting FirmwareManifestExpectation.key FirmwareManifestExpectation.sameVersion
        (proposalsOf selected) ∧
        proposalsOf selected ≠ [] := by
  have hmerges : (mergeProposals selected).isOk = true ↔ ¬Conflicting FirmwareManifestExpectation.key
      FirmwareManifestExpectation.sameVersion (proposalsOf selected) :=
        isOk_mergeValues agreement_sameVersion
  rw [isOk_iff_exists, ← hmerges, isOk_iff_exists]
  simp only [expectationsWithProfile_eq_ok hselected]
  have hempty :
      ∀ {merged}, mergeProposals selected = .ok merged →
        (merged.entries = [] ↔ proposalsOf selected = []) := by
    intro merged hmerged
    have hkeys : ∀ k, k ∈ merged.keys ↔ ∃ proposal ∈ proposalsOf selected, proposal.key = k :=
      fun _ => (merged_mergeProposals hmerged).mem_keys_iff
    rw [← map_eq_nil_iff (f := Prod.fst), eq_nil_iff_forall_not_mem, eq_nil_iff_forall_not_mem]
    constructor
    · intro hnone proposal hproposal
      exact hnone _ ((hkeys _).mpr ⟨proposal, hproposal, rfl⟩)
    · intro hnone key hkey
      obtain ⟨proposal, hproposal, -⟩ := (hkeys key).mp hkey
      exact hnone proposal hproposal
  constructor
  · rintro ⟨_, merged, hmerged, hentries, -⟩
    exact ⟨⟨merged, hmerged⟩, fun hnil => hentries ((hempty hmerged).mpr hnil)⟩
  · rintro ⟨⟨merged, hmerged⟩, hproposals⟩
    exact ⟨_, merged, hmerged, fun hnil => hproposals ((hempty hmerged).mp hnil), rfl⟩

lemma expectationsWithProfile_conflict_iff :
    (∃ a b, expectationsWithProfile lib manifest nodeType firmwareType selection profile =
      .error (conflictingVersions a b)) ↔
      Conflicting FirmwareManifestExpectation.key FirmwareManifestExpectation.sameVersion
        (proposalsOf selected) := by
  have hexpand : expectationsWithProfile lib manifest nodeType firmwareType selection profile =
      (mergeProposals selected >>= fun merged => failIf (merged.entries = []) (PlanError.invalid
        (s!"no comparable firmware versions found in manifest for node type {nodeType.asStr} " ++
          s!"({firmwareType})")) >>=
          fun _ => pure merged.values) := by
    rw [expectationsWithProfile, hselected]
    rfl
  rw [hexpand]
  constructor
  · rintro ⟨a, b, h⟩
    obtain h | ⟨merged, -, h⟩ := bind_eq_error h
    · obtain ⟨a, ha, b, hb, hkey, hversion, -⟩ := exists_conflict_of_mergeValues agreement_sameVersion h
      exact ⟨a, ha, b, hb, hkey, hversion⟩
    · obtain h | ⟨_, -, h⟩ := bind_eq_error h
      · exact absurd (failIf_eq_error h) (conflictingVersions_ne_none a b nodeType firmwareType)
      · cases h
  · intro hconflicting
    cases hmerged : mergeProposals selected with
    | ok merged =>
      exact absurd hconflicting
        (not_conflicting_of_merged agreement_sameVersion (merged_mergeProposals hmerged))
    | error error =>
      obtain ⟨a, -, b, -, -, -, rfl⟩ := exists_conflict_of_mergeValues agreement_sameVersion hmerged
      exact ⟨a, b, rfl⟩

end

lemma merged_values_represent (h : mergeProposals selected = .ok merged) :
    (merged.values.map FirmwareManifestExpectation.key).Nodup ∧
      (∀ expectation ∈ merged.values, expectation ∈ proposalsOf selected) ∧
      ∀ proposal ∈ proposalsOf selected, ∃ expectation ∈ merged.values,
        expectation.key = proposal.key ∧ expectation.sameVersion proposal = true := by
  have hmerged := merged_mergeProposals h
  refine ⟨?_, ?_, ?_⟩
  · rw [hmerged.map_key_values]
    exact merged.nodup_keys
  · intro expectation hexpectation
    obtain ⟨entry, hentry, rfl⟩ := mem_map.mp hexpectation
    exact (hmerged.key_eq hentry).1
  · intro proposal hproposal
    obtain ⟨kept, hkept, hversion⟩ := hmerged.found proposal hproposal
    have hentry : (proposal.key, kept) ∈ merged.entries := OrderedMap.mem_entries_iff.mpr hkept
    exact ⟨kept, mem_map.mpr ⟨_, hentry, rfl⟩, (hmerged.key_eq hentry).2, hversion⟩

end Expectations

/-- Expected versions conflict if and only if two proposals of one key differ; the order of a
board's components changes nothing but the case of letters. -/
theorem expectationsWithProfile_unambiguous (lib : UrlLibrary) (manifest : FirmwareManifest)
    (nodeType : NodeType)
    (firmwareType : String) (selection : ComponentSelection) (profile : Option HardwareUpdatePlan)
    (selected : List SelectedComponent)
    (hselected : selectComponentsWithProfile lib manifest nodeType firmwareType selection profile =
      .ok selected) :
    ((∃ a b, expectationsWithProfile lib manifest nodeType firmwareType selection profile =
      .error (conflictingVersions a b)) ↔
      ∃ a ∈ proposalsOf selected, ∃ b ∈ proposalsOf selected, a.key = b.key ∧
        toAsciiLowercase (trim a.version) ≠ toAsciiLowercase (trim b.version)) ∧
    (∀ returned, expectationsWithProfile lib manifest nodeType firmwareType selection profile =
      .ok returned →
      (returned.map FirmwareManifestExpectation.key).Nodup ∧
        ∀ proposal ∈ proposalsOf selected, ∃ expectation ∈ returned,
        expectation.key = proposal.key ∧
          toAsciiLowercase (trim expectation.version) = toAsciiLowercase (trim proposal.version)) ∧
    ∀ manifest', manifest.Reordered manifest' →
      (expectationsWithProfile lib manifest' nodeType firmwareType selection profile).isOk =
        (expectationsWithProfile lib manifest nodeType firmwareType selection profile).isOk ∧
      ∀ returned returned',
        expectationsWithProfile lib manifest nodeType firmwareType selection profile = .ok returned →
        expectationsWithProfile lib manifest' nodeType firmwareType selection profile = .ok returned' →
        List.Forall₂ (fun a b => a.key = b.key ∧ toAsciiLowercase a.version = toAsciiLowercase b.version)
          returned returned' := by
  refine ⟨?_, ?_, ?_⟩
  · rw [expectationsWithProfile_conflict_iff hselected]
    simp only [Conflicting, ← Bool.not_eq_true, sameVersion_iff, ne_eq]
  · intro returned hreturned
    obtain ⟨merged, hmerged, -, rfl⟩ := (expectationsWithProfile_eq_ok hselected).mp hreturned
    obtain ⟨hnodup, -, hfound⟩ := merged_values_represent hmerged
    refine ⟨hnodup, fun proposal hproposal => ?_⟩
    obtain ⟨expectation, hexpectation, hkey, hversion⟩ := hfound proposal hproposal
    exact ⟨expectation, hexpectation, hkey, sameVersion_iff.mp hversion⟩
  · intro manifest' hreordered
    obtain ⟨selected', hselected', hperm⟩ := selectComponentsWithProfile_reordered hreordered hselected
    have hproposals := proposalsOf_perm hperm
    constructor
    · rw [Bool.eq_iff_iff, isOk_expectationsWithProfile hselected, isOk_expectationsWithProfile hselected']
      simp only [Conflicting, hproposals.mem_iff, ne_eq, eq_nil_iff_forall_not_mem]
    · intro returned returned' hreturned hreturned'
      obtain ⟨merged, hmerged, -, rfl⟩ := (expectationsWithProfile_eq_ok hselected).mp hreturned
      obtain ⟨merged', hmerged', -, rfl⟩ := (expectationsWithProfile_eq_ok hselected').mp hreturned'
      have hsame := (merged_mergeProposals hmerged).forall₂_of_perm agreement_sameVersion hproposals
        (merged_mergeProposals hmerged')
      refine (forall₂_iff_zip.mpr ⟨hsame.length_eq, fun hab => ?_⟩)
      obtain ⟨hkey, hversion⟩ := (forall₂_iff_zip.mp hsame).2 hab
      have hmem := of_mem_zip hab
      have ha := trim_version_of_mem_proposalsOf ((merged_values_represent hmerged).2.1 _ hmem.1)
      have hb := trim_version_of_mem_proposalsOf ((merged_values_represent hmerged').2.1 _ hmem.2)
      rw [sameVersion_iff, ha, hb] at hversion
      exact ⟨hkey, hversion⟩

def hmcSelection (versions : List String) : Except PlanError (List SelectedComponent) :=
  selectComponentsWithProfile pathTools.url
    (hmcManifest versions) .computeGb300Supermicro "prod" .defaultOnly none

def hmcExpectations (versions : List String) : Except PlanError (List FirmwareManifestExpectation) :=
  expectationsWithProfile pathTools.url
    (hmcManifest versions) .computeGb300Supermicro "prod" .defaultOnly none

lemma hmcManifest_reordered {versions versions' : List String} (h : versions.Perm versions') :
    (hmcManifest versions).Reordered (hmcManifest versions') := by
  refine ⟨rfl,
    .cons ⟨rfl, rfl, .cons ⟨rfl, rfl, rfl, rfl, h.map _⟩ (.cons ⟨rfl, rfl, rfl, rfl, .refl _⟩ .nil)⟩ .nil⟩

/-- Two bundles propose both keys twice: versions that differ in case agree, in either order, and
others conflict. -/
theorem hmcVersions_unambiguous :
    (∃ selected returned, hmcSelection ["1.0a", "1.0A "] = .ok selected ∧
      (proposalsOf selected).length = 4 ∧
      hmcExpectations ["1.0a", "1.0A "] = .ok returned ∧ returned.length = 2 ∧
      (returned.map FirmwareManifestExpectation.key).Nodup ∧
      (∀ proposal ∈ proposalsOf selected, ∃ expectation ∈ returned, expectation.key = proposal.key) ∧
      (hmcExpectations ["1.0A ", "1.0a"]).isOk = true) ∧
    ∃ selected, hmcSelection ["1.0a", "2.0"] = .ok selected ∧
      ∃ a ∈ proposalsOf selected, ∃ b ∈ proposalsOf selected,
      a.key = b.key ∧ toAsciiLowercase (trim a.version) ≠ toAsciiLowercase (trim b.version) := by
  constructor
  · obtain ⟨selected, hselected, hproposed⟩ := exists_of_any (x := hmcSelection ["1.0a", "1.0A "])
      (p := fun selected => (proposalsOf selected).length = 4) (by decide +kernel)
    obtain ⟨returned, hreturned, htwo⟩ := exists_of_any (x := hmcExpectations ["1.0a", "1.0A "])
      (p := fun returned => returned.length = 2) (by decide +kernel)
    obtain ⟨-, hsound, horder⟩ :=
      expectationsWithProfile_unambiguous pathTools.url (hmcManifest ["1.0a", "1.0A "])
      .computeGb300Supermicro "prod" .defaultOnly none selected hselected
    obtain ⟨hnodup, hfound⟩ := hsound returned hreturned
    refine ⟨selected, returned, hselected, of_decide_eq_true hproposed, hreturned,
      of_decide_eq_true htwo, hnodup,
      fun proposal hproposal => ?_, ?_⟩
    · obtain ⟨expectation, hexpectation, hkey, -⟩ := hfound proposal hproposal
      exact ⟨expectation, hexpectation, hkey⟩
    · have hsame := (horder _ (hmcManifest_reordered (.swap "1.0A " "1.0a" []))).1
      exact hsame.trans (isOk_iff_exists.mpr ⟨returned, hreturned⟩)
  · obtain ⟨selected, hselected⟩ := isOk_iff_exists.mp
      (show (hmcSelection ["1.0a", "2.0"]).isOk = true by decide +kernel)
    have hconflict : hmcExpectations ["1.0a", "2.0"] =
        .error (conflictingVersions ⟨"HMC", "1.0a", "", ""⟩ ⟨"HMC", "2.0", "", ""⟩) := by decide +kernel
    exact ⟨selected, hselected,
      (expectationsWithProfile_unambiguous pathTools.url (hmcManifest ["1.0a", "2.0"])
      .computeGb300Supermicro "prod" .defaultOnly none selected hselected).1.mp ⟨_, _, hconflict⟩⟩

end RackManagement.Manifest
