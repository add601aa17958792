import RackManagement.Model.ManagedConfigFile

/-! # Rewriting configuration files -/

namespace RackManagement.ManagedConfigFile

open Library List

variable {file : String} {desired : ConfigEntries}

def directiveKey (line : List Char) : Option String :=
  match splitDirective line with
  | .ok (some directive) => some directive.1
  | _ => none

/-- The line is not the directive of a setting to remove. -/
def isKept (file : String) (desired : ConfigEntries) (line : List Char) : Bool :=
  !(directiveKey line).any (isRemoved file desired)

def physicalLines (content : String) : List (List Char) := splitInclusive '\n' content.toList

def keptLines (file : String) (desired : ConfigEntries) (content : String) : List (List Char) :=
  (physicalLines content).filter (isKept file desired)

variable {line : List Char} {seen : List String} {lines : List (List Char)}
  {directives : List ManagedDirective}

lemma isKept_of_none (h : splitDirective line = .ok none) : isKept file desired line = true := by
  rw [isKept, directiveKey, h]
  rfl

lemma isKept_of_some {directive : String × List Char} (h : splitDirective line = .ok (some directive)) :
    isKept file desired line = !isRemoved file desired directive.1 := by
  rw [isKept, directiveKey, h]
  rfl

lemma directivesFrom_cons {offset : Nat} :
    directivesFrom file desired offset seen (line :: lines) = .ok directives ↔
      (splitDirective line = .ok none ∧
        directivesFrom file desired (offset + byteLength line) seen lines = .ok directives) ∨
      ∃ key text value rest, splitDirective line = .ok (some (key, text)) ∧ key ∉ seen ∧
        readValue file desired key text = .ok value ∧
        directivesFrom file desired (offset + byteLength line) (key :: seen) lines = .ok rest ∧
        directives = ⟨offset, offset + byteLength line, key, value⟩ :: rest := by
  constructor
  · intro h
    obtain ⟨split, hsplit, h⟩ := bind_eq_ok.mp h
    cases split with
    | none => exact .inl ⟨hsplit, h⟩
    | some directive =>
      obtain ⟨_, hfresh, h⟩ := bind_eq_ok.mp h
      obtain ⟨value, hvalue, h⟩ := bind_eq_ok.mp h
      obtain ⟨rest, hrest, h⟩ := bind_eq_ok.mp h
      cases h
      exact .inr ⟨_, _, value, rest, hsplit, failIf_eq_ok.mp hfresh, hvalue, hrest, rfl⟩
  · rintro (⟨hsplit, h⟩ | ⟨key, text, value, rest, hsplit, hfresh, hvalue, hrest, rfl⟩)
    · exact bind_eq_ok.mpr ⟨none, hsplit, h⟩
    · refine bind_eq_ok.mpr ⟨some (key, text), hsplit, ?_⟩
      refine bind_eq_ok.mpr ⟨(), failIf_eq_ok.mpr hfresh, ?_⟩
      refine bind_eq_ok.mpr ⟨value, hvalue, ?_⟩
      exact bind_eq_ok.mpr ⟨rest, hrest, rfl⟩

lemma keptFrom_eq (finished pending : List Char)
    (h : directivesFrom file desired (byteLength (finished ++ pending)) seen lines = .ok directives) :
    keptFrom file desired (finished ++ pending ++ lines.flatten) (byteLength finished) directives =
      .ok (pending ++ (lines.filter (isKept file desired)).flatten) := by
  induction lines generalizing finished pending seen directives with
  | nil =>
    cases h
    rw [keptFrom, flatten_nil, append_nil, dropBytes_append, filter_nil, flatten_nil, append_nil]
    rfl
  | cons line lines ih =>
    obtain ⟨hsplit, h⟩ | ⟨key, text, value, rest, hsplit, -, -, hrest, rfl⟩ := directivesFrom_cons.mp h
    · -- a comment stays pending
      rw [← byteLength_append, append_assoc] at h
      have hkept := ih finished (pending ++ line) h
      rw [filter_cons_of_pos (isKept_of_none hsplit), flatten_cons, flatten_cons]
      simpa only [append_assoc] using hkept
    · have hpending : sliceBytes (finished ++ pending ++ (line :: lines).flatten) (byteLength finished)
          (byteLength (finished ++ pending)) = some pending := sliceBytes_append finished pending _
      have hrecord :
          sliceBytes (finished ++ pending ++ (line :: lines).flatten) (byteLength (finished ++ pending))
          (byteLength (finished ++ pending) + byteLength line) = some line := by
        rw [← byteLength_append, flatten_cons, ← append_assoc]
        exact sliceBytes_append (finished ++ pending) line _
      have hkept := ih (finished ++ pending ++ line) [] (by
        rw [append_nil, byteLength_append (finished ++ pending) line]
        exact hrest)
      rw [byteLength_append (finished ++ pending) line, append_nil, append_assoc _ line,
        ← flatten_cons, nil_append] at hkept
      have hisKept : isKept file desired line = !isRemoved file desired key := isKept_of_some hsplit
      refine bind_eq_ok.mpr ⟨pending, congrArg orInvalid hpending, ?_⟩
      cases hremoved : isRemoved file desired key with
      | true =>
        rw [hremoved] at hisKept
        rw [filter_cons_of_neg (by simp [hisKept])]
        exact bind_eq_ok.mpr ⟨_, hkept, rfl⟩
      | false =>
        rw [hremoved] at hisKept
        rw [filter_cons_of_pos hisKept]
        refine bind_eq_ok.mpr ⟨line, congrArg orInvalid hrecord, ?_⟩
        exact bind_eq_ok.mpr ⟨_, hkept, congrArg Except.ok (append_assoc pending line _)⟩

lemma replacementConfigFile_eq {content : String}
    (h : managedDirectives file content desired = .ok directives) :
    replacementConfigFile file content desired =
      .ok (String.ofList (keptLines file desired content).flatten) := by
  have hkept := keptFrom_eq [] [] h
  rw [nil_append, nil_append, nil_append, flatten_splitInclusive] at hkept
  refine bind_eq_ok.mpr ⟨directives, h, ?_⟩
  exact bind_eq_ok.mpr ⟨_, hkept, rfl⟩

lemma physicalLines_kept (content : String) :
    physicalLines (String.ofList (keptLines file desired content).flatten) =
      keptLines file desired content := by
  rw [physicalLines, String.toList_ofList]
  exact ((areLines_splitInclusive _ _).filter _).splitInclusive

lemma keptLines_kept (content : String) :
    keptLines file desired (String.ofList (keptLines file desired content).flatten) =
      keptLines file desired content := by
  rw [keptLines, physicalLines_kept, keptLines, filter_filter]
  simp only [Bool.and_self]

def settings (directives : List ManagedDirective) : List (String × String) :=
  directives.map (fun directive => (directive.key, directive.value))

lemma settings_cons (directive : ManagedDirective) (directives : List ManagedDirective) :
    settings (directive :: directives) = (directive.key, directive.value) :: settings directives := rfl

lemma directivesFrom_kept {offset : Nat} (start : Nat) {known : List String}
    (h : directivesFrom file desired offset seen lines = .ok directives) (hknown : known ⊆ seen) :
    ∃ kept, directivesFrom file desired start known (lines.filter (isKept file desired)) = .ok kept ∧
      settings kept = (settings directives).filter (fun setting => !isRemoved file desired setting.1) := by
  induction lines generalizing offset start seen known directives with
  | nil =>
    cases h
    exact ⟨[], rfl, rfl⟩
  | cons line lines ih =>
    obtain ⟨hsplit, h⟩ | ⟨key, text, value, rest, hsplit, hfresh, hvalue, hrest, rfl⟩ :=
      directivesFrom_cons.mp h
    · obtain ⟨kept, hkept, hsettings⟩ := ih (start + byteLength line) h hknown
      rw [filter_cons_of_pos (isKept_of_none hsplit)]
      exact ⟨kept, directivesFrom_cons.mpr (.inl ⟨hsplit, hkept⟩), hsettings⟩
    · have hisKept : isKept file desired line = !isRemoved file desired key := isKept_of_some hsplit
      cases hremoved : isRemoved file desired key with
      | true =>
        rw [hremoved] at hisKept
        obtain ⟨kept, hkept, hsettings⟩ := ih start hrest (fun _ hmem => mem_cons_of_mem _ (hknown hmem))
        rw [filter_cons_of_neg (by simp [hisKept])]
        refine ⟨kept, hkept, ?_⟩
        rw [hsettings, settings_cons, filter_cons_of_neg (by simp [hremoved])]
      | false =>
        rw [hremoved] at hisKept
        obtain ⟨kept, hkept, hsettings⟩ := ih (start + byteLength line) hrest (cons_subset_cons key hknown)
        rw [filter_cons_of_pos hisKept]
        refine ⟨_, directivesFrom_cons.mpr
          (.inr ⟨key, text, value, kept, hsplit, fun hmem => hfresh (hknown hmem),
          hvalue, hkept, rfl⟩), ?_⟩
        rw [settings_cons, hsettings, settings_cons, filter_cons_of_pos (by simp [hremoved])]

/-- A replacement is the text without the directives to remove, and is read as before without these settings. -/
theorem replacementConfigFile_exact {content : String} {directives : List ManagedDirective}
    (h : managedDirectives file content desired = .ok directives) :
    ∃ result, replacementConfigFile file content desired = .ok result ∧
      result.toList = ((physicalLines content).filter (isKept file desired)).flatten ∧
      (∃ kept, managedDirectives file result desired = .ok kept ∧
        settings kept = (settings directives).filter (fun setting => !isRemoved file desired setting.1)) ∧
      replacementConfigFile file result desired = .ok result := by
  refine ⟨_, replacementConfigFile_eq h, String.toList_ofList, ?_⟩
  obtain ⟨kept, hkept, hsettings⟩ := directivesFrom_kept 0 h (List.Subset.refl [])
  have hread :
      managedDirectives file (String.ofList (keptLines file desired content).flatten) desired =
        .ok kept := by
    rw [managedDirectives, ← physicalLines, physicalLines_kept]
    exact hkept
  refine ⟨⟨kept, hread, hsettings⟩, ?_⟩
  rw [replacementConfigFile_eq hread, keptLines_kept]

/-- A comment, a directive to remove, one that is kept and one that is not owned. -/
theorem replacementConfigFile_mixed :
    ∃ result, replacementConfigFile "fm_config" "# limits\nOLD = 1\nMODE=on\n\nraw 'x\n"
        (.ofList [(toLex ("fm_config", "MODE"), some "on"), (toLex ("fm_config", "OLD"), none)]) =
          .ok result ∧
      result = "# limits\nMODE=on\n\nraw 'x\n" ∧
      replacementConfigFile "fm_config" result
        (.ofList [(toLex ("fm_config", "MODE"), some "on"), (toLex ("fm_config", "OLD"), none)]) =
          .ok result := by
  have hok : (managedDirectives "fm_config" "# limits\nOLD = 1\nMODE=on\n\nraw 'x\n"
      (.ofList [(toLex ("fm_config", "MODE"), some "on"), (toLex ("fm_config", "OLD"), none)])).isOk
        = true := by
    decide +kernel
  obtain ⟨directives, hdirectives⟩ := isOk_iff_exists.mp hok
  obtain ⟨result, hresult, htext, -, hagain⟩ := replacementConfigFile_exact hdirectives
  refine ⟨result, hresult, ?_, hagain⟩
  rw [← String.toList_inj, htext]
  decide +kernel

end RackManagement.ManagedConfigFile
