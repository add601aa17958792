import RackManagement.Proofs.ConfigRewrites

/-!
# Reading settings back

Stored values are read back as they are desired, except those that start with the equals sign and
are separated from their key by a space only.
-/

namespace RackManagement

open Library List OrderedMap

namespace ManagedConfigFile

variable {file : String} {desired : ConfigEntries}

/-! ### Snapshots -/

variable {offset : Nat} {seen : List String} {directives : List ManagedDirective}
  {key value name content without file : String} {values : ConfigEntries} {current : ManagedConfigSnapshot}
  {files : List ConfigFileContent}

lemma keys_of_directivesFrom {lines : List (List Char)}
    (h : directivesFrom file desired offset seen lines = .ok directives) :
    ((settings directives).map Prod.fst).Nodup ∧
      ∀ key ∈ (settings directives).map Prod.fst, key ∉ seen := by
  induction lines generalizing offset seen directives with
  | nil =>
    cases h
    exact ⟨nodup_nil, fun _ hmem => absurd hmem not_mem_nil⟩
  | cons line lines ih =>
    obtain ⟨-, h⟩ | ⟨key, text, value, rest, -, hfresh, -, hrest, rfl⟩ := directivesFrom_cons.mp h
    · exact ih h
    · obtain ⟨hnodup, hseen⟩ := ih hrest
      constructor
      · refine nodup_cons.mpr ⟨fun hmem => ?_, hnodup⟩
        exact hseen key hmem mem_cons_self
      · intro other hother
        obtain rfl | hother := mem_cons.mp hother
        · exact hfresh
        · exact fun hmem => hseen other hother (mem_cons_of_mem _ hmem)

lemma directivesFrom_moved {lines : List (List Char)} (start : Nat) {known : List String}
    (h : directivesFrom file desired offset seen lines = .ok directives)
    (hknown : ∀ key ∈ (settings directives).map Prod.fst, key ∉ known) :
    ∃ moved, directivesFrom file desired start known lines = .ok moved ∧
      settings moved = settings directives := by
  induction lines generalizing offset start seen known directives with
  | nil =>
    cases h
    exact ⟨[], rfl, rfl⟩
  | cons line lines ih =>
    obtain ⟨hsplit, h⟩ | ⟨key, text, value, rest, hsplit, -, hvalue, hrest, rfl⟩ := directivesFrom_cons.mp h
    · obtain ⟨moved, hmoved, hsettings⟩ := ih (start + byteLength line) h hknown
      exact ⟨moved, directivesFrom_cons.mpr (.inl ⟨hsplit, hmoved⟩), hsettings⟩
    · have hfresh := (keys_of_directivesFrom hrest).2
      have hrestKnown : ∀ other ∈ (settings rest).map Prod.fst, other ∉ key :: known := by
        intro other hother hmem
        obtain rfl | hmem := mem_cons.mp hmem
        · exact hfresh other hother mem_cons_self
        · exact hknown other (mem_cons_of_mem _ hother) hmem
      obtain ⟨moved, hmoved, hsettings⟩ := ih (start + byteLength line) hrest hrestKnown
      refine ⟨_, directivesFrom_cons.mpr
        (.inr ⟨key, text, value, moved, hsplit, hknown key mem_cons_self, hvalue,
        hmoved, rfl⟩), ?_⟩
      rw [settings_cons, hsettings, settings_cons]

lemma directivesFrom_inserted {before after : List (List Char)} (start : Nat) {line : List Char}
    {text : List Char}
    (h : directivesFrom file desired offset seen (before ++ after) = .ok directives)
    (hsplit : splitDirective line = .ok (some (key, text)))
    (hvalue : readValue file desired key text = .ok value)
    (hseen : key ∉ seen) (hfresh : key ∉ (settings directives).map Prod.fst) :
    ∃ inserted, directivesFrom file desired start seen (before ++ line :: after) = .ok inserted ∧
      (settings inserted).Perm ((key, value) :: settings directives) := by
  induction before generalizing offset start seen directives with
  | nil =>
    have hknown : ∀ other ∈ (settings directives).map Prod.fst, other ∉ key :: seen := by
      intro other hother hmem
      obtain rfl | hmem := mem_cons.mp hmem
      · exact hfresh hother
      · exact (keys_of_directivesFrom h).2 other hother hmem
    obtain ⟨moved, hmoved, hsettings⟩ := directivesFrom_moved (start + byteLength line) h hknown
    refine ⟨_, directivesFrom_cons.mpr
      (.inr ⟨key, text, value, moved, hsplit, hseen, hvalue, hmoved, rfl⟩), ?_⟩
    rw [settings_cons, hsettings]
  | cons first before ih =>
    obtain ⟨hfirst, h⟩ | ⟨other, otherText, otherValue, rest, hfirst, hother, hotherValue, hrest, rfl⟩ :=
      directivesFrom_cons.mp h
    · obtain ⟨inserted, hinserted, hperm⟩ := ih (start + byteLength first) h hseen hfresh
      exact ⟨inserted, directivesFrom_cons.mpr (.inl ⟨hfirst, hinserted⟩), hperm⟩
    · rw [settings_cons, map_cons, mem_cons, not_or] at hfresh
      have hseen' : key ∉ other :: seen := not_mem_cons_of_ne_of_not_mem hfresh.1 hseen
      obtain ⟨inserted, hinserted, hperm⟩ := ih (start + byteLength first) hrest hseen' hfresh.2
      refine ⟨_, directivesFrom_cons.mpr
        (.inr ⟨other, otherText, otherValue, inserted, hfirst, hother, hotherValue,
        hinserted, rfl⟩), ?_⟩
      rw [settings_cons, settings_cons]
      exact (hperm.cons _).trans (List.Perm.swap _ _ _)

/-- The value of a setting, or its absence, as the directives of its file have it. -/
def Establishes (values : ConfigEntries) (file key : String) (directives : List ManagedDirective) : Prop :=
  ∃ found, values.lookup (toLex (file, key)) = some found ∧ ∀ value, found = some value ↔
    (key, value) ∈ settings directives

lemma Establishes.lookup_eq {others : ConfigEntries} {moved : List ManagedDirective}
    (h : Establishes values file key directives) (hothers : Establishes others file key moved)
    (hsame : ∀ value, (key, value) ∈ settings directives ↔ (key, value) ∈ settings moved) :
    values.lookup (toLex (file, key)) = others.lookup (toLex (file, key)) := by
  obtain ⟨found, hfound, hvalue⟩ := h
  obtain ⟨other, hother, hotherValue⟩ := hothers
  have heq : found = other := by
    ext value
    rw [hvalue, hsame, hotherValue]
  rw [hfound, hother, heq]

lemma lookup_addDirectives_of_ne {key : String ×ₗ String}
    (h : ∀ directive ∈ directives, key ≠ toLex (file, directive.key)) :
    (directives.foldl (addDirective file desired) values).lookup key = values.lookup key := by
  induction directives generalizing values with
  | nil => rfl
  | cons directive directives ih =>
    obtain ⟨hfirst, hrest⟩ := forall_mem_cons.mp h
    rw [foldl_cons, ih hrest, addDirective]
    split
    · rw [lookup_insert, if_neg hfirst]
    · rfl

lemma establishes_addDirectives (hnodup : ((settings directives).map Prod.fst).Nodup)
    (howned : (desired.lookup (toLex (file, key))).isSome = true)
    (hstart : values.lookup (toLex (file, key)) = some none) :
    Establishes (directives.foldl (addDirective file desired) values) file key directives := by
  induction directives generalizing values with
  | nil => exact ⟨none, hstart, fun value => by simp [settings]⟩
  | cons directive directives ih =>
    rw [settings_cons, map_cons, nodup_cons] at hnodup
    rw [foldl_cons]
    by_cases heq : key = directive.key
    · -- no later directive has this key
      have hlater : ∀ other ∈ directives, toLex (file, key) ≠ toLex (file, other.key) := by
        intro other hother hsame
        apply hnodup.1
        have hkey : key = other.key := (Prod.mk.inj (toLex.injective hsame)).2
        rw [← heq, hkey]
        exact mem_map.mpr ⟨_, mem_map_of_mem hother, rfl⟩
      rw [heq] at howned hlater ⊢
      refine ⟨some directive.value, ?_, ?_⟩
      · rw [lookup_addDirectives_of_ne hlater, addDirective, if_pos howned, lookup_insert, if_pos rfl]
      · intro value
        rw [settings_cons, mem_cons, Option.some.injEq, Prod.mk.injEq, eq_comm]
        constructor
        · exact fun hvalue => .inl ⟨rfl, hvalue⟩
        · rintro (hvalue | hmem)
          · exact hvalue.2
          · exact absurd (mem_map_of_mem hmem) hnodup.1
    · have hkept : (addDirective file desired values directive).lookup (toLex (file, key)) = some none := by
        have hne : toLex (file, key) ≠ toLex (file, directive.key) :=
          fun hsame => heq (Prod.mk.inj (toLex.injective hsame)).2
        rw [addDirective]
        split
        · rw [lookup_insert, if_neg hne, hstart]
        · exact hstart
      obtain ⟨found, hfound, hvalue⟩ := ih hnodup.2 hkept
      refine ⟨found, hfound, fun value => ?_⟩
      rw [hvalue value, settings_cons, mem_cons, Prod.mk.injEq]
      exact (or_iff_right (fun hfirst => heq hfirst.1)).symm

def Records (desired : ConfigEntries) (current : ManagedConfigSnapshot) (file : ConfigFileContent) : Prop :=
  ∃ directives, managedDirectives file.configFileName file.configFileContent desired = .ok directives ∧
    current.files.lookup file.configFileName = some file.configFileContent ∧
    ∀ key, (desired.lookup (toLex (file.configFileName, key))).isSome = true →
      Establishes current.values file.configFileName key directives

variable {next : ManagedConfigSnapshot} {added : ConfigFileContent}

lemma addFile_other (h : addFile desired current added = .ok next)
    (hne : name ≠ added.configFileName) :
    next.files.lookup name = current.files.lookup name ∧
      ∀ key, next.values.lookup (toLex (name, key)) = current.values.lookup (toLex (name, key)) := by
  unfold addFile at h
  split at h
  case isFalse =>
    cases h
    exact ⟨rfl, fun _ => rfl⟩
  case isTrue =>
    obtain ⟨directives, -, h⟩ := bind_eq_ok.mp h
    cases h
    refine ⟨?_, fun key => lookup_addDirectives_of_ne ?_⟩
    · rw [lookup_insert, if_neg hne]
    · intro directive _ hsame
      exact hne (Prod.mk.inj (toLex.injective hsame)).1

lemma addFile_records (h : addFile desired current added = .ok next)
    (hrequired : added.configFileName ∈ requiredFiles desired)
    (hstart : ∀ key, (desired.lookup (toLex (added.configFileName, key))).isSome = true →
      current.values.lookup (toLex (added.configFileName, key)) = some none) :
        Records desired next added := by
  unfold addFile at h
  rw [if_pos hrequired] at h
  obtain ⟨directives, hdirectives, h⟩ := bind_eq_ok.mp h
  cases h
  refine ⟨directives, hdirectives, ?_, fun key howned => ?_⟩
  · rw [lookup_insert, if_pos rfl]
  · exact establishes_addDirectives (keys_of_directivesFrom hdirectives).1 howned (hstart key howned)

variable {result : ManagedConfigSnapshot}

lemma addFiles_spec (hnodup : (files.map ConfigFileContent.configFileName).Nodup)
    (h : files.foldlM (addFile desired) current = .ok result)
    (hstart : ∀ added ∈ files, ∀ key, (desired.lookup (toLex (added.configFileName, key))).isSome = true →
      current.values.lookup (toLex (added.configFileName, key)) = some none) :
    (∀ added ∈ files, added.configFileName ∈ requiredFiles desired → Records desired result added) ∧
      ∀ name ∉ files.map ConfigFileContent.configFileName, result.files.lookup name =
        current.files.lookup name ∧
        ∀ key, result.values.lookup (toLex (name, key)) = current.values.lookup (toLex (name, key)) := by
  induction files generalizing current with
  | nil =>
    cases h
    exact ⟨fun _ hmem => absurd hmem not_mem_nil, fun _ _ => ⟨rfl, fun _ => rfl⟩⟩
  | cons added files ih =>
    rw [foldlM_cons] at h
    rw [map_cons, nodup_cons] at hnodup
    obtain ⟨next, hnext, h⟩ := bind_eq_ok.mp h
    obtain ⟨hfirst, hlater⟩ := forall_mem_cons.mp hstart
    have hnextStart :
        ∀ other ∈ files, ∀ key, (desired.lookup (toLex (other.configFileName, key))).isSome = true →
        next.values.lookup (toLex (other.configFileName, key)) = some none := by
      intro other hother key howned
      have hne : other.configFileName ≠ added.configFileName :=
        fun heq => hnodup.1 (heq ▸ mem_map_of_mem hother)
      rw [(addFile_other hnext hne).2 key]
      exact hlater other hother key howned
    obtain ⟨hrecords, hothers⟩ := ih hnodup.2 h hnextStart
    constructor
    · intro other hother hrequired
      obtain rfl | hother := mem_cons.mp hother
      · obtain ⟨directives, hdirectives, hcontent, hvalues⟩ := addFile_records hnext hrequired hfirst
        obtain ⟨hsameFile, hsameValues⟩ := hothers _ hnodup.1
        refine ⟨directives, hdirectives, hsameFile.trans hcontent, fun key howned => ?_⟩
        obtain ⟨found, hfound, hvalue⟩ := hvalues key howned
        exact ⟨found, (hsameValues key).trans hfound, hvalue⟩
      · exact hrecords other hother hrequired
    · intro name hname
      rw [map_cons, mem_cons, not_or] at hname
      obtain ⟨hsameFile, hsameValues⟩ := hothers name hname.2
      obtain ⟨hfile, hvalues⟩ := addFile_other hnext hname.1
      exact ⟨hsameFile.trans hfile, fun key => (hsameValues key).trans (hvalues key)⟩

lemma mem_requiredFiles (h : (desired.lookup (toLex (name, key))).isSome = true) :
    name ∈ requiredFiles desired :=
  OrderedSet.mem_ofList.mpr (mem_map.mpr ⟨toLex (name, key), mem_keys_iff.mpr h, rfl⟩)

/-- Every required file is returned once, and its directives can be read. -/
structure Complete (desired : ConfigEntries) (files : List ConfigFileContent) : Prop where
  nodup : (files.map ConfigFileContent.configFileName).Nodup
  returned : ∀ name ∈ requiredFiles desired, name ∈ files.map ConfigFileContent.configFileName
  readable : ∀ added ∈ files, added.configFileName ∈ requiredFiles desired →
    ∃ directives, managedDirectives added.configFileName added.configFileContent desired = .ok directives

lemma completeConfig_eq_ok {response : NmxGetStaticConfigResponse}
    (h : completeConfig response desired = .ok result) : ∃ files, response.staticConfig.join = some files ∧
      Complete desired files ∧
      ∀ added ∈ files, added.configFileName ∈ requiredFiles desired → Records desired result added := by
  unfold completeConfig at h
  cases hfiles : response.staticConfig.join with
  | none =>
    rw [hfiles] at h
    cases h
  | some files =>
    rw [hfiles] at h
    obtain ⟨_, hnodup, h⟩ := bind_eq_ok.mp h
    obtain ⟨_, hreturned, h⟩ := bind_eq_ok.mp h
    have hnodup := not_not.mp (failIf_eq_ok.mp hnodup)
    have hstart : ∀ key : String ×ₗ String, (desired.lookup key).isSome = true →
        (ofList (desired.keys.map (fun key => (key, (none : Option String))))).lookup key = some none := by
      intro key howned
      apply lookup_ofList_of_mem
      · rw [map_map]
        exact (map_id desired.keys).symm ▸ desired.nodup_keys
      · exact mem_map_of_mem (mem_keys_iff.mpr howned)
    have hrecords := (addFiles_spec hnodup h (fun added _ key howned => hstart _ howned)).1
    refine ⟨files, rfl, ⟨hnodup, not_not.mp (failIf_eq_ok.mp hreturned), ?_⟩, hrecords⟩
    intro added hadded hrequired
    obtain ⟨directives, hdirectives, -⟩ := hrecords added hadded hrequired
    exact ⟨directives, hdirectives⟩

lemma exists_addFiles (current : ManagedConfigSnapshot)
    (h : ∀ added ∈ files, added.configFileName ∈ requiredFiles desired →
      ∃ directives, managedDirectives added.configFileName added.configFileContent desired =
        .ok directives) :
    ∃ result, files.foldlM (addFile desired) current = .ok result := by
  induction files generalizing current with
  | nil => exact ⟨current, rfl⟩
  | cons added files ih =>
    obtain ⟨hfirst, hlater⟩ := forall_mem_cons.mp h
    have hnext : ∃ next, addFile desired current added = .ok next := by
      unfold addFile
      split
      case isTrue hrequired =>
        obtain ⟨directives, hdirectives⟩ := hfirst hrequired
        exact ⟨_, bind_eq_ok.mpr ⟨directives, hdirectives, rfl⟩⟩
      case isFalse => exact ⟨current, rfl⟩
    obtain ⟨next, hnext⟩ := hnext
    obtain ⟨result, hresult⟩ := ih next hlater
    exact ⟨result, by rw [foldlM_cons, hnext]; exact hresult⟩

lemma Complete.exists_snapshot (h : Complete desired files) :
    ∃ result, completeConfig ⟨some (some files)⟩ desired = .ok result := by
  obtain ⟨result, hresult⟩ := exists_addFiles
    ⟨.empty, .ofList (desired.keys.map (fun key => (key, none)))⟩ h.readable
  refine ⟨result, bind_eq_ok.mpr ⟨(), failIf_eq_ok.mpr (not_not.mpr h.nodup), ?_⟩⟩
  exact bind_eq_ok.mpr ⟨(), failIf_eq_ok.mpr (not_not.mpr h.returned), hresult⟩

/-! ### Stored settings -/

/-- The ways in which a setting may be stored. -/
inductive StoredForm
  | equals | space | spacedEquals
deriving DecidableEq

def StoredForm.separator : StoredForm → List Char
  | equals => ['=']
  | space => [' ']
  | spacedEquals => [' ', '=', ' ']

variable (form : StoredForm)

def StoredForm.line (key value : String) : List Char :=
  key.toList ++ form.separator ++ value.toList

/-- The text that is read from the stored form of a value. -/
def StoredForm.read : StoredForm → List Char → List Char
  | space, value => trimChars (stripEquals value)
  | _, value => value

/-- The content is the other text with the setting stored on a line of its own, which ends with a newline, with
a carriage return and a newline, or with the file. -/
def Stores (key value : String) (content without : String) : Prop :=
  ∃ before terminator after : List Char, content.toList = before ++
    (form.line key value ++ terminator) ++ after ∧
    without.toList = before ++ after ∧ (before = [] ∨ before.getLast? = some '\n') ∧
    (terminator = ['\n'] ∨ terminator = ['\r', '\n'] ∨ terminator = [] ∧ after = [])

lemma toNat_of_isAlphanum {c : Char} (h : c.isAlphanum = true) :
    (48 ≤ c.toNat ∧ c.toNat ≤ 57) ∨ (65 ≤ c.toNat ∧ c.toNat ≤ 90) ∨ (97 ≤ c.toNat ∧ c.toNat ≤ 122) := by
  have hclass : ((c.isUpper || c.isLower) || c.isDigit) = true := h
  rw [Bool.or_eq_true, Bool.or_eq_true] at hclass
  obtain (hupper | hlower) | hdigit := hclass
  · have hrange : 'A'.toNat ≤ c.toNat ∧ c.toNat ≤ 'Z'.toNat := of_decide_eq_true hupper
    exact .inr (.inl hrange)
  · have hrange : 'a'.toNat ≤ c.toNat ∧ c.toNat ≤ 'z'.toNat :=
      (Bool.and_eq_true_iff.mp hlower).imp of_decide_eq_true of_decide_eq_true
    exact .inr (.inr hrange)
  · have hrange : '0'.toNat ≤ c.toNat ∧ c.toNat ≤ '9'.toNat :=
      (Bool.and_eq_true_iff.mp hdigit).imp of_decide_eq_true of_decide_eq_true
    exact .inl hrange

structure KeyChars (key : List Char) : Prop where
  ne_nil : key ≠ []
  isKeyChar : ∀ c ∈ key, isKeyChar c = true
  isSeparator : ∀ c ∈ key, isSeparator c = false
  notComment : ∀ c ∈ key, c ≠ '#' ∧ c ≠ ';'

lemma keyChars_of_validate (h : validateStaticConfigName file key = .ok ()) : KeyChars key.toList := by
  obtain ⟨_, -, h⟩ := bind_eq_ok.mp h
  have h := failIf_eq_ok.mp h
  simp only [not_or, Bool.not_eq_false, all_eq_true, Bool.or_eq_true, decide_eq_true_eq] at h
  have hnat : ∀ c ∈ key.toList, c = '_' ∨ (48 ≤ c.toNat ∧ c.toNat ≤ 57) ∨ (65 ≤ c.toNat ∧ c.toNat ≤ 90) ∨
      (97 ≤ c.toNat ∧ c.toNat ≤ 122) := by
    intro c hc
    obtain halnum | hunderscore := h.2.1 c hc
    · exact .inr (toNat_of_isAlphanum halnum)
    · exact .inl hunderscore
  refine ⟨fun hnil => h.1 (String.toList_inj.mp (by rw [hnil]; rfl)), ?_, ?_, ?_⟩
  · intro c hc
    simp only [ManagedConfigFile.isKeyChar, Bool.or_eq_true, decide_eq_true_eq]
    obtain halnum | hunderscore := h.2.1 c hc
    · exact .inl (.inl (.inl halnum))
    · exact .inl (.inl (.inr hunderscore))
  · intro c hc
    obtain rfl | hrange := hnat c hc
    · rfl
    · have hne : c ≠ '=' := by
        rintro rfl
        revert hrange
        decide
      simp only [ManagedConfigFile.isSeparator, isWhitespace, Bool.or_eq_false_iff, Bool.and_eq_false_iff,
        decide_eq_false_iff_not]
      refine ⟨hne, ?_⟩
      omega
  · intro c hc
    obtain rfl | hrange := hnat c hc
    · decide
    · constructor
      · rintro rfl
        revert hrange
        decide
      · rintro rfl
        revert hrange
        decide

structure ValueChars (value : List Char) : Prop where
  ne_nil : value ≠ []
  trimmed : trimChars value = value
  supported : ∀ c ∈ value, isUnsupported c = false

lemma valueChars_of_validate (h : validateStaticConfigValue value = .ok ()) : ValueChars value.toList := by
  have h := failIf_eq_ok.mp h
  simp only [not_or, not_not, ne_eq, Bool.not_eq_true, any_eq_false, mem_cons, decide_eq_true_eq,
    not_mem_nil, or_false] at h
  obtain ⟨hne, htrim, hcontrol, hspecial⟩ := h
  refine ⟨fun hnil => hne (String.toList_inj.mp (by rw [hnil]; rfl)), ?_, fun c hc => ?_⟩
  · have hlist := congrArg String.toList htrim
    rw [trim, trimBy, String.toList_ofList] at hlist
    exact hlist
  · have hspecial := hspecial c hc
    simp only [isUnsupported, isQuote, Bool.or_eq_false_iff, decide_eq_false_iff_not]
    tauto

namespace StoredForm

variable {key value : String} {form : StoredForm}

lemma line_ne_nil (hkey : KeyChars key.toList) : form.line key value ≠ [] := by
  intro h
  have h := append_eq_nil_iff.mp (append_eq_nil_iff.mp h).1
  exact hkey.ne_nil h.1

lemma head?_line (hkey : KeyChars key.toList) : (form.line key value).head? = key.toList.head? := by
  rw [line, append_assoc, head?_append_of_ne_nil _ hkey.ne_nil]

lemma getLast?_line (hvalue : ValueChars value.toList) :
    (form.line key value).getLast? = value.toList.getLast? := by
  rw [line, getLast?_append_of_ne_nil _ hvalue.ne_nil]

lemma isWhitespace_of_isSeparator {c : Char} (h : isSeparator c = false) : isWhitespace c = false :=
  (Bool.or_eq_false_iff.mp h).2

lemma trimChars_line (hkey : KeyChars key.toList) (hvalue : ValueChars value.toList) :
    trimChars (form.line key value) = form.line key value := by
  rw [trimChars_eq_self_iff, head?_line hkey, getLast?_line hvalue]
  refine ⟨fun c hc => ?_, (trimChars_eq_self_iff.mp hvalue.trimmed).2⟩
  exact isWhitespace_of_isSeparator (hkey.isSeparator c (mem_of_mem_head? hc))

lemma trailingBackslashes_line (hvalue : ValueChars value.toList) :
    trailingBackslashes (form.line key value) = 0 := by
  obtain ⟨c, hc⟩ := Option.ne_none_iff_exists'.mp (fun h => hvalue.ne_nil (getLast?_eq_none_iff.mp h))
  have hhead : (form.line key value).reverse.head? = some c := by
    rw [head?_reverse, getLast?_line hvalue, hc]
  have hsupported := hvalue.supported c (mem_of_mem_getLast? hc)
  obtain ⟨rest, hrest⟩ := head?_eq_some_iff.mp hhead
  rw [trailingBackslashes, hrest, takeWhile_cons_of_neg]
  · rfl
  · intro hbackslash
    rw [of_decide_eq_true hbackslash] at hsupported
    cases hsupported

lemma dropWhile_line (hkey : KeyChars key.toList) :
    (form.line key value).takeWhile (fun c => !isSeparator c) = key.toList ∧
      (form.line key value).dropWhile (fun c => !isSeparator c) = form.separator ++ value.toList := by
  have hkeyPass : ∀ c ∈ key.toList, (!isSeparator c) = true :=
    fun c hc => by rw [hkey.isSeparator c hc]; rfl
  rw [line, append_assoc, takeWhile_append_of_pos hkeyPass, dropWhile_append_of_pos hkeyPass]
  have hspace : isWhitespace ' ' = true := rfl
  cases form <;> simp [separator, isSeparator, hspace]

lemma read_eq (hvalue : ValueChars value.toList) :
    trimChars (stripEquals ((form.separator ++ value.toList).dropWhile isWhitespace)) =
      form.read value.toList := by
  have hhead := (trimChars_eq_self_iff.mp hvalue.trimmed).1
  cases form with
  | equals => exact hvalue.trimmed
  | space =>
    have hdrop : (space.separator ++ value.toList).dropWhile isWhitespace = value.toList := by
      rw [separator, singleton_append, dropWhile_cons_of_pos (by decide), dropWhile_eq_self.mpr hhead]
    rw [hdrop]
    rfl
  | spacedEquals =>
    have hdrop :
        (spacedEquals.separator ++ value.toList).dropWhile isWhitespace = '=' :: ' ' :: value.toList := by
      rw [separator, cons_append, dropWhile_cons_of_pos (by decide)]
      exact dropWhile_cons_of_neg (by decide)
    have htrim : trimChars (' ' :: value.toList) = trimChars value.toList := by
      rw [trimChars, dropWhile_cons_of_pos (by decide), trimChars]
    rw [hdrop, stripEquals, htrim, hvalue.trimmed]
    rfl

lemma splitDirective_line (hkey : KeyChars key.toList) (hvalue : ValueChars value.toList)
    {terminator : List Char}
    (hterminator : ∀ c ∈ terminator, isWhitespace c = true) :
    splitDirective (form.line key value ++ terminator) = .ok (some (key, form.read value.toList)) := by
  have hne : form.line key value ≠ [] := line_ne_nil hkey
  have htrim := trimChars_append hne (trimChars_line hkey hvalue) hterminator
  have hparts : (form.line key value).takeWhile (fun c => !isSeparator c) = key.toList ∧ _ :=
    dropWhile_line hkey
  obtain ⟨htake, hdrop⟩ := hparts
  have hkeyTrim : trimChars key.toList = key.toList := trimChars_eq_self_iff.mpr
    ⟨fun c hc => isWhitespace_of_isSeparator (hkey.isSeparator c (mem_of_mem_head? hc)),
      fun c hc => isWhitespace_of_isSeparator (hkey.isSeparator c (mem_of_mem_getLast? hc))⟩
  have hnotComment :
      ¬(form.line key value = [] ∨
        (form.line key value).head?.any (fun c => c = '#' || c = ';') = true) := by
    rintro (hnil | hcomment)
    · exact hne hnil
    · rw [head?_line hkey] at hcomment
      obtain ⟨c, hc, hmark⟩ := (Option.any_eq_true _ _).mp hcomment
      have hne := hkey.notComment c (mem_of_mem_head? hc)
      simp [hne.1, hne.2] at hmark
  have hseparator : form.separator ++ value.toList ≠ [] := by
    cases form <;> simp [separator]
  rw [splitDirective, htrim, if_neg hnotComment, trailingBackslashes_line hvalue, htake, hdrop, hkeyTrim]
  refine bind_eq_ok.mpr ⟨(), failIf_eq_ok.mpr (by decide), ?_⟩
  refine bind_eq_ok.mpr ⟨(), failIf_eq_ok.mpr hseparator, ?_⟩
  refine bind_eq_ok.mpr ⟨(), failIf_eq_ok.mpr ?_, ?_⟩
  · rintro (hnil | hchars)
    · exact hkey.ne_nil hnil
    · rw [all_eq_true.mpr hkey.isKeyChar] at hchars
      cases hchars
  · rw [read_eq hvalue, String.ofList_toList]
    rfl

lemma read_subset (value : List Char) : form.read value ⊆ value := by
  cases form with
  | equals => exact List.Subset.refl _
  | spacedEquals => exact List.Subset.refl _
  | space =>
    apply List.Subset.trans (trimChars_subset _)
    unfold stripEquals
    split
    · exact subset_cons_self _ _
    · exact List.Subset.refl _

lemma read_eq_self_iff (hvalue : ValueChars value.toList) :
    form.read value.toList = value.toList ↔ ¬(form = .space ∧ value.toList.head? = some '=') := by
  cases form with
  | equals => simp [read]
  | spacedEquals => simp [read]
  | space =>
    rw [read]
    cases hchars : value.toList with
    | nil => exact absurd hchars hvalue.ne_nil
    | cons c chars =>
      by_cases hequals : c = '='
      · rw [hequals, stripEquals]
        refine iff_of_false (fun h => ?_) (by simp)
        have hlength := length_trimChars_le chars
        rw [h, length_cons] at hlength
        omega
      · have hstrip : stripEquals (c :: chars) = c :: chars := by
          unfold stripEquals
          split
          · rename_i heq
            exact absurd (cons.inj heq).1 hequals
          · rfl
        rw [hstrip, ← hchars, hvalue.trimmed]
        refine iff_of_true rfl ?_
        rw [hchars]
        simpa using hequals

end StoredForm

lemma readValue_of_supported {text : List Char}
    (howned : (desired.lookup (toLex (file, key))).isSome = true)
    (hsupported : ∀ c ∈ text, isUnsupported c = false) :
    readValue file desired key text = .ok (String.ofList text) := by
  have hunquote : unquote text = .ok text := by
    cases text with
    | nil => rfl
    | cons c text =>
      have hc := hsupported c mem_cons_self
      simp only [isUnsupported, Bool.or_eq_false_iff] at hc
      rw [unquote, hc.1.1.1.2]
      rfl
  have hany : text.any isUnsupported = false := by
    rw [any_eq_false]
    intro c hc
    rw [hsupported c hc]
    decide
  rw [readValue, if_pos howned, hunquote]
  refine bind_eq_ok.mpr ⟨text, rfl, ?_⟩
  refine bind_eq_ok.mpr ⟨(), failIf_eq_ok.mpr ?_, rfl⟩
  rw [hany]
  decide

lemma newline_notMem_line (hkey : KeyChars key.toList)
    (hvalue : ValueChars value.toList) : '\n' ∉ form.line key value := by
  intro hmem
  rw [StoredForm.line, mem_append, mem_append] at hmem
  obtain (hmem | hmem) | hmem := hmem
  · cases hkey.isSeparator _ hmem
  · cases form <;> simp [StoredForm.separator] at hmem
  · cases hvalue.supported _ hmem

variable {form : StoredForm}

lemma exists_lines_of_stores (hkey : KeyChars key.toList)
    (hvalue : ValueChars value.toList) (h : Stores form key value content without) :
    ∃ before after : List (List Char), ∃ terminator : List Char, (∀ c ∈ terminator, isWhitespace c = true) ∧
      splitInclusive '\n' content.toList = before ++ (form.line key value ++ terminator) :: after ∧
      splitInclusive '\n' without.toList = before ++ after := by
  obtain ⟨before, terminator, after, hcontent, hwithout, hbefore, hterminator⟩ := h
  have hnewline := newline_notMem_line form hkey hvalue
  refine ⟨splitInclusive '\n' before, splitInclusive '\n' after, terminator, ?_, ?_, ?_⟩
  · obtain rfl | rfl | ⟨rfl, -⟩ := hterminator <;> exact all_eq_true.mp (by decide)
  · rw [hcontent, append_assoc, splitInclusive_append hbefore]
    congr 1
    obtain rfl | rfl | ⟨rfl, rfl⟩ := hterminator
    · exact splitInclusive_cons hnewline after
    · have hreturn : '\n' ∉ form.line key value ++ ['\r'] := by simpa using hnewline
      simpa using splitInclusive_cons hreturn after
    · rw [append_nil, append_nil]
      exact splitInclusive_last hnewline (StoredForm.line_ne_nil hkey)
  · rw [hwithout, splitInclusive_append hbefore]

lemma exists_managedDirectives_of_stores (hkey : KeyChars key.toList) (hvalue : ValueChars value.toList)
    (howned : (desired.lookup (toLex (file, key))).isSome = true)
    (hstores : Stores form key value content without)
    (h : managedDirectives file without desired = .ok directives)
    (habsent : ∀ other, (key, other) ∉ settings directives) :
    ∃ inserted, managedDirectives file content desired = .ok inserted ∧
      (settings inserted).Perm ((key, String.ofList (form.read value.toList)) :: settings directives) := by
  obtain ⟨before, after, terminator, hterminator, hcontent, hwithout⟩ :=
    exists_lines_of_stores hkey hvalue hstores
  have hfresh : key ∉ (settings directives).map Prod.fst := by
    intro hmem
    obtain ⟨⟨_, other⟩, hsetting, rfl⟩ := mem_map.mp hmem
    exact habsent other hsetting
  rw [managedDirectives, hwithout] at h
  rw [managedDirectives, hcontent]
  refine directivesFrom_inserted 0 h
    (StoredForm.splitDirective_line hkey hvalue hterminator) ?_ not_mem_nil hfresh
  exact readValue_of_supported howned (fun c hc => hvalue.supported c (form.read_subset _ hc))

lemma lookup_of_establishes (h : Establishes values file key directives)
    (hmem : (key, value) ∈ settings directives) :
    values.lookup (toLex (file, key)) = some (some value) := by
  obtain ⟨found, hfound, hvalue⟩ := h
  rw [hfound, (hvalue value).mpr hmem]

lemma chars_of_owned (config : ManagedConfig)
    (howned : config.entries.lookup (toLex (file, key)) = some (some value)) :
    KeyChars key.toList ∧ ValueChars value.toList := by
  have hmem : (toLex (file, key), some value) ∈ config.entries.entries := mem_entries_iff.mpr howned
  obtain ⟨_, hname, hvalue⟩ := bind_eq_ok.mp (forM_eq_ok.mp config.valid _ hmem)
  exact ⟨keyChars_of_validate (mapError_eq_ok hname), valueChars_of_validate (mapError_eq_ok hvalue)⟩

variable {base : ManagedConfigSnapshot}

lemma lookup_other_file {others : List ConfigFileContent} (hcomplete : Complete desired files)
    (hbase : ∀ added ∈ files, added.configFileName ∈ requiredFiles desired → Records desired base added)
    (hcurrent : ∀ added ∈ others, added.configFileName ∈ requiredFiles desired →
      Records desired current added)
    (hsame : ∀ added ∈ files, added.configFileName ≠ file → added ∈ others) (hne : name ≠ file)
    (howned : (desired.lookup (toLex (name, key))).isSome = true) :
    current.values.lookup (toLex (name, key)) = base.values.lookup (toLex (name, key)) := by
  have hrequired := mem_requiredFiles howned
  obtain ⟨added, hadded, rfl⟩ := mem_map.mp (hcomplete.returned name hrequired)
  obtain ⟨directives, hdirectives, -, hvalues⟩ := hbase added hadded hrequired
  obtain ⟨others, hothers, -, hotherValues⟩ := hcurrent added (hsame added hadded hne) hrequired
  have heq : others = directives := Except.ok.inj (hothers.symm.trans hdirectives)
  rw [heq] at hotherValues
  exact (hotherValues key howned).lookup_eq (hvalues key howned) (fun _ => Iff.rfl)

lemma configMatches_iff {config : ManagedConfig} :
    configMatches current config = true ↔
      ∀ entry ∈ config.entries.entries, current.values.lookup entry.1 = some entry.2 := by
  simp only [configMatches, all_eq_true, decide_eq_true_eq]

lemma exists_current_of_stores (config : ManagedConfig) {left right : List ConfigFileContent}
    (howned : config.entries.lookup (toLex (file, key)) = some (some value))
    (hstores : Stores form key value content without)
    (hbase : completeConfig ⟨some (some (left ++ ⟨file, without⟩ :: right))⟩ config.entries = .ok base)
    (habsent : base.values.lookup (toLex (file, key)) = some none) :
    ∃ current, completeConfig ⟨some (some (left ++ ⟨file, content⟩ :: right))⟩ config.entries =
      .ok current ∧
      current.values.lookup (toLex (file, key)) = some (some (String.ofList (form.read value.toList))) ∧
      ∀ entry ∈ config.entries.entries, entry.1 ≠ toLex (file, key) →
        current.values.lookup entry.1 = base.values.lookup entry.1 := by
  obtain ⟨hkey, hvalue⟩ := chars_of_owned config howned
  have hisOwned : (config.entries.lookup (toLex (file, key))).isSome = true := by rw [howned]; rfl
  have hrequired := mem_requiredFiles hisOwned
  obtain ⟨files, hfiles, hcomplete, hrecords⟩ := completeConfig_eq_ok hbase
  obtain rfl : left ++ ⟨file, without⟩ :: right = files := Option.some.inj hfiles
  obtain ⟨directives, hdirectives, -, hestablished⟩ := hrecords ⟨file, without⟩ (by simp) hrequired
  have hnoSetting : ∀ other, (key, other) ∉ settings directives := by
    intro other hmem
    rw [lookup_of_establishes (hestablished key hisOwned) hmem] at habsent
    cases habsent
  obtain ⟨inserted, hinserted, hperm⟩ :=
    exists_managedDirectives_of_stores hkey hvalue hisOwned hstores hdirectives hnoSetting
  -- the read with the setting is complete, too
  have hcontent : Complete config.entries (left ++ ⟨file, content⟩ :: right) := by
    refine ⟨by simpa using hcomplete.nodup, by simpa using hcomplete.returned, ?_⟩
    intro added hadded hname
    by_cases heq : added = ⟨file, content⟩
    · rw [heq]
      exact ⟨inserted, hinserted⟩
    · have hmem : added ∈ left ++ ⟨file, without⟩ :: right := by
        simp only [mem_append, mem_cons] at hadded ⊢
        tauto
      exact hcomplete.readable added hmem hname
  obtain ⟨current, hcurrent⟩ := hcontent.exists_snapshot
  obtain ⟨files, hfiles, -, hcurrentRecords⟩ := completeConfig_eq_ok hcurrent
  obtain rfl : left ++ ⟨file, content⟩ :: right = files := Option.some.inj hfiles
  obtain ⟨again, hagain, -, hcurrentValues⟩ := hcurrentRecords ⟨file, content⟩ (by simp) hrequired
  obtain rfl : inserted = again := Except.ok.inj (hinserted.symm.trans hagain)
  refine ⟨current, hcurrent, ?_, ?_⟩
  · exact lookup_of_establishes (hcurrentValues key hisOwned) (hperm.mem_iff.mpr mem_cons_self)
  · intro entry hentry hne
    have hentryOwned : (config.entries.lookup entry.1).isSome = true := by
      rw [mem_entries_iff.mp hentry]
      rfl
    by_cases hfile : (ofLex entry.1).1 = file
    · subst hfile
      have hother : (ofLex entry.1).2 ≠ key := fun heq => hne (by rw [← heq]; rfl)
      apply (hcurrentValues _ hentryOwned).lookup_eq (hestablished _ hentryOwned)
      intro other
      rw [hperm.mem_iff, mem_cons, Prod.mk.injEq]
      exact or_iff_right (fun heq => hother heq.1)
    · refine lookup_other_file hcomplete hrecords hcurrentRecords ?_ hfile hentryOwned
      intro added hadded hname
      simp only [mem_append, mem_cons] at hadded ⊢
      obtain hadded | rfl | hadded := hadded
      · exact .inl hadded
      · exact absurd rfl hname
      · exact .inr (.inr hadded)

/-- A stored setting is read back as desired, unless its value starts with the equals sign after a space only. -/
theorem stored_setting_reads_back (config : ManagedConfig) {file key value : String} {form : StoredForm}
    {content without : String} {left right : List ConfigFileContent} {base : ManagedConfigSnapshot}
    (howned : config.entries.lookup (toLex (file, key)) = some (some value))
    (hstores : Stores form key value content without)
    (hbase : completeConfig ⟨some (some (left ++ ⟨file, without⟩ :: right))⟩ config.entries = .ok base)
    (habsent : base.values.lookup (toLex (file, key)) = some none) :
    ∃ current, completeConfig ⟨some (some (left ++ ⟨file, content⟩ :: right))⟩ config.entries =
      .ok current ∧
      (current.values.lookup (toLex (file, key)) = some (some value) ↔
        ¬(form = .space ∧ value.toList.head? = some '=')) ∧
      (configMatches current config = true ↔ ¬(form = .space ∧ value.toList.head? = some '=') ∧
        ∀ entry ∈ config.entries.entries, entry.1 ≠ toLex (file, key) →
          base.values.lookup entry.1 = some entry.2) := by
  obtain ⟨current, hcurrent, hread, hothers⟩ := exists_current_of_stores config howned hstores hbase habsent
  have hagrees : current.values.lookup (toLex (file, key)) = some (some value) ↔
      ¬(form = .space ∧ value.toList.head? = some '=') := by
    rw [hread, ← StoredForm.read_eq_self_iff (chars_of_owned config howned).2, Option.some.injEq,
      Option.some.injEq,
      ← String.toList_inj, String.toList_ofList]
  refine ⟨current, hcurrent, hagrees, ?_⟩
  rw [configMatches_iff, ← hagrees]
  constructor
  · intro h
    refine ⟨h (toLex (file, key), some value) (mem_entries_iff.mpr howned), fun entry hentry hne => ?_⟩
    rw [← hothers entry hentry hne]
    exact h entry hentry
  · rintro ⟨hown, hrest⟩ entry hentry
    by_cases hne : entry.1 = toLex (file, key)
    · have hvalue := mem_entries_iff.mp hentry
      rw [hne, howned] at hvalue
      rw [hne, hown, hvalue]
    · rw [hothers entry hentry hne]
      exact hrest entry hentry hne

def modeConfig : ManagedConfig :=
  ⟨.ofList [(toLex ("fm_config", "MODE"), some "a=b")], eq_ok_of_isOk (by decide +kernel)⟩

theorem modeConfig_reads_back :
    ∃ current, completeConfig
      ⟨some (some [⟨"fm_config", "# mode\nMODE a=b\n"⟩])⟩ modeConfig.entries = .ok current ∧
      configMatches current modeConfig = true := by
  have hok : (completeConfig ⟨some (some [⟨"fm_config", "# mode\n"⟩])⟩ modeConfig.entries).toOption.map
      (fun base => base.values.entries) = some [(toLex ("fm_config", "MODE"), none)] := by decide +kernel
  cases hbase : completeConfig ⟨some (some [⟨"fm_config", "# mode\n"⟩])⟩ modeConfig.entries with
  | error error =>
    rw [hbase] at hok
    cases hok
  | ok base =>
    rw [hbase] at hok
    have hvalues : base.values.entries = [(toLex ("fm_config", "MODE"), none)] := Option.some.inj hok
    have habsent : base.values.lookup (toLex ("fm_config", "MODE")) = some none := by
      rw [OrderedMap.lookup, hvalues]
      rfl
    have hstores : Stores .space "MODE" "a=b" "# mode\nMODE a=b\n" "# mode\n" :=
      ⟨"# mode\n".toList, ['\n'], [], by decide, by decide, .inr (by decide), .inl rfl⟩
    have hbase :
        completeConfig ⟨some (some ([] ++ ⟨"fm_config", "# mode\n"⟩ :: []))⟩ modeConfig.entries =
          .ok base := hbase
    obtain ⟨current, hcurrent, -, hmatches⟩ :=
      stored_setting_reads_back modeConfig rfl hstores hbase habsent
    refine ⟨current, hcurrent, hmatches.mpr ⟨by decide, ?_⟩⟩
    intro entry hentry hne
    have hentries : modeConfig.entries.entries = [(toLex ("fm_config", "MODE"), some "a=b")] := by
      decide +kernel
    rw [hentries, mem_singleton] at hentry
    exact absurd (congrArg Prod.fst hentry) hne

def equalsConfig : ManagedConfig :=
  ⟨.ofList [(toLex ("fm_config", "MODE"), some "=x")], eq_ok_of_isOk (by decide +kernel)⟩

/-- The equals sign at the start of a value is taken for the separator. -/
theorem equalsConfig_misread :
    (completeConfig ⟨some (some [⟨"fm_config", "MODE =x\n"⟩])⟩ equalsConfig.entries).toOption.map
        (fun current => (current.values.entries, configMatches current equalsConfig)) =
      some ([(toLex ("fm_config", "MODE"), some "x")], false) := by
  decide +kernel

end ManagedConfigFile

end RackManagement
