import RackManagement.Model.ConfigReconciliation
import RackManagement.Proofs.ConfigRewrites

/-! # Soundness of a reconciliation -/

namespace RackManagement.ManagedConfigFile

open Library

variable {config : ManagedConfig} {gateway : String}

abbrev ConfigExchange := ConfigRequest × ConfigReply

/-- The complete read that an exchange is, if it is one. -/
def snapshotOf (config : ManagedConfig) (exchange : ConfigExchange) : Option ManagedConfigSnapshot :=
  if exchange.1.isWrite then none else (readReply config exchange.2).toOption

/-- The complete read with which the exchanges end. -/
def lastRead (config : ManagedConfig) (past : List ConfigExchange) : Option ManagedConfigSnapshot :=
  past.getLast?.bind (snapshotOf config)

/-- A write directly follows a complete read, of which a replacement keeps the other lines. -/
def Justified (config : ManagedConfig) (past : List ConfigExchange) : ConfigRequest → Prop
  | .getStaticConfigFiles _ _ => True
  | .setStaticConfigFile file content _ => ∃ current replaced, lastRead config past = some current ∧
      current.files.lookup file = some replaced ∧
      content.toList = ((physicalLines replaced).filter (isKept file config.entries)).flatten
  | .setStaticConfig _ _ _ _ => ∃ current, lastRead config past = some current

def Wrote (past : List ConfigExchange) : Prop := ∃ exchange ∈ past, exchange.1.isWrite = true

/-- Every replacement was read back with its records. -/
def Returned (config : ManagedConfig) (past : List ConfigExchange) : Prop :=
  ∀ earlier file content gateway reply later,
    past = earlier ++ (.setStaticConfigFile file content gateway, reply) :: later →
      ∃ read rest current returned, later = read :: rest ∧ snapshotOf config read = some current ∧
        current.files.lookup file = some returned ∧ sortedRecords returned = sortedRecords content

variable {past : List ConfigExchange} {exchange : ConfigExchange} {file : String}

lemma wrote_concat : Wrote (past ++ [exchange]) ↔ Wrote past ∨ exchange.1.isWrite = true := by
  simp [Wrote, or_and_right, exists_or]

lemma lastRead_concat (past : List ConfigExchange) (exchange : ConfigExchange) :
    lastRead config (past ++ [exchange]) = snapshotOf config exchange := by
  rw [lastRead, List.getLast?_concat, Option.bind_some]

lemma Returned.concat (h : Returned config past)
    (hother : ∀ file content gateway, exchange.1 ≠ .setStaticConfigFile file content gateway) :
    Returned config (past ++ [exchange]) := by
  intro earlier file content gateway reply later heq
  obtain ⟨-, -, rfl⟩ | ⟨rest, rfl, hpast⟩ := Interaction.concat_eq_append_cons heq
  · exact absurd rfl (hother file content gateway)
  · obtain ⟨read, others, current, returned, rfl, hread⟩ := h _ _ _ _ _ _ hpast
    exact ⟨read, others ++ [exchange], current, returned, rfl, hread⟩

variable {current : ManagedConfigSnapshot}

lemma isWrite_of_snapshotOf
    (h : snapshotOf config exchange = some current) : exchange.1.isWrite = false := by
  unfold snapshotOf at h
  split at h
  case isTrue => cases h
  case isFalse hread => simpa using hread

lemma Returned.replaced (h : Returned config past) {content gateway : String}
    {reply : ConfigReply} {read : ConfigExchange} {returned : String}
    (hread : snapshotOf config read = some current) (hfile : current.files.lookup file = some returned)
    (hrecords : sortedRecords returned = sortedRecords content) :
    Returned config (past ++ [(.setStaticConfigFile file content gateway, reply)] ++ [read]) := by
  intro earlier other otherContent otherGateway otherReply later heq
  obtain ⟨-, -, rfl⟩ | ⟨rest, rfl, hpast⟩ := Interaction.concat_eq_append_cons heq
  · cases isWrite_of_snapshotOf hread
  · obtain ⟨rfl, -, hexchange⟩ | ⟨before, rfl, hbefore⟩ := Interaction.concat_eq_append_cons hpast
    · cases hexchange
      exact ⟨read, [], current, returned, rfl, hread, hfile, hrecords⟩
    · obtain ⟨first, others, found, back, rfl, hfound⟩ := h _ _ _ _ _ _ hbefore
      exact ⟨first, others ++ [_] ++ [read], found, back, rfl, hfound⟩

def reconcileContract (config : ManagedConfig) :
    FallibleProgram.Contract ReconcileState ConfigRequest ConfigReply String where
  allowed _ _ _ := True
  Wait past _ request := Justified config past request
  Fails _ _ _ := True

/-- The state is what the exchanges so far have shown and done. -/
structure Sound (config : ManagedConfig) (past : List ConfigExchange) (s : ReconcileState) : Prop where
  read : lastRead config past = some s.current
  changed : s.changed = true ↔ Wrote past
  returned : Returned config past

variable {P : List ConfigExchange → ReconcileState → Prop}

open FallibleProgram (Triple)

lemma currentFile_triple : Triple (reconcileContract config) P (currentFile file) (fun content past s =>
    P past s ∧ s.current.files.lookup file = some content) := by
  have hread :
      Triple (reconcileContract config) P FallibleProgram.read (fun state past s => state = s ∧ P past s) :=
    Triple.read (fun past s hP => ⟨rfl, hP⟩)
  apply hread.bind
  intro state
  cases hfile : state.current.files.lookup file with
  | some content =>
    apply Triple.pure
    rintro past s ⟨rfl, hP⟩
    exact ⟨hP, hfile⟩
  | none => exact Triple.throw (fun _ _ _ => trivial)

/-- The text of the file in the last read without the lines of the settings to remove. -/
def IsReplacement (config : ManagedConfig) (s : ReconcileState) (file replacement : String) : Prop :=
  ∃ replaced, s.current.files.lookup file = some replaced ∧
    replacement.toList = ((physicalLines replaced).filter (isKept file config.entries)).flatten

lemma eq_of_replacementConfigFile {content replacement : String}
    (h : replacementConfigFile file content config.entries = .ok replacement) :
    replacement.toList = ((physicalLines content).filter (isKept file config.entries)).flatten := by
  obtain ⟨directives, hdirectives, -⟩ := bind_eq_ok.mp h
  have heq := h.symm.trans (replacementConfigFile_eq hdirectives)
  rw [Except.ok.inj heq, String.toList_ofList]
  rfl

lemma read_sound :
    Triple (reconcileContract config) (Sound config) FallibleProgram.read (fun _ => Sound config) :=
  Triple.read (fun _ _ h => h)

section Triples

variable (hne : config.entries.entries.isEmpty = false)
include hne

lemma readConfig_triple :
    Triple (reconcileContract config) P (readConfig config gateway) (fun current past s =>
      ∃ earlier exchange, past = earlier ++ [exchange] ∧ P earlier s ∧ exchange.1.isWrite = false ∧
        snapshotOf config exchange = some current) := by
  rw [readConfig, if_neg (by simp [hne])]
  have hsend : Triple (reconcileContract config) P
      (FallibleProgram.send (.getStaticConfigFiles (requiredFiles config.entries).toList gateway))
      (fun reply past s => ∃ earlier, past = earlier ++
        [(.getStaticConfigFiles (requiredFiles config.entries).toList gateway, reply)] ∧ P earlier s) :=
    Triple.send (fun _ _ _ => trivial) (fun past s reply hP _ => ⟨past, rfl, hP⟩)
  apply hsend.bind
  intro reply
  cases hreply : readReply config reply with
  | ok current =>
    apply Triple.pure
    rintro past s ⟨earlier, rfl, hP⟩
    refine ⟨earlier, _, rfl, hP, rfl, ?_⟩
    rw [snapshotOf, hreply]
    rfl
  | error error => exact Triple.throw (fun _ _ _ => trivial)

lemma refresh_triple : Triple (reconcileContract config) P (refresh config gateway) (fun _ past s =>
      ∃ earlier exchange before, past = earlier ++ [exchange] ∧ P earlier ⟨before, s.changed⟩ ∧
        exchange.1.isWrite = false ∧ snapshotOf config exchange = some s.current) := by
  apply (readConfig_triple hne).bind
  intro current
  apply Triple.update
  rintro past s ⟨earlier, exchange, rfl, hP, hread, hsnapshot⟩
  exact ⟨earlier, exchange, s.current, rfl, hP, hread, hsnapshot⟩

lemma refresh_sound :
    Triple (reconcileContract config) (fun past s => (s.changed = true ↔ Wrote past) ∧ Returned config past)
      (refresh config gateway) (fun _ => Sound config) := by
  apply (refresh_triple hne).post
  rintro _ past s ⟨earlier, exchange, before, rfl, ⟨hchanged, hreturned⟩, hread, hsnapshot⟩
  refine ⟨(lastRead_concat earlier exchange).trans hsnapshot, ?_, hreturned.concat ?_⟩
  · rw [wrote_concat, hread, ← hchanged]
    simp
  · intro file content gateway heq
    rw [heq] at hread
    cases hread

lemma replaceFile_sound {replacement : String} :
    Triple (reconcileContract config)
      (fun past s => Sound config past s ∧ IsReplacement config s file replacement)
      (replaceFile config gateway file replacement) (fun _ => Sound config) := by
  -- the write is recorded, sent, read back and compared
  have hmark : Triple (reconcileContract config)
      (fun past s => Sound config past s ∧ IsReplacement config s file replacement)
      (FallibleProgram.update (fun state => { state with changed := true })) (fun _ past s =>
        (lastRead config past = some s.current ∧ Returned config past ∧ s.changed = true) ∧
          IsReplacement config s file replacement) :=
    Triple.update (fun past s h => ⟨⟨h.1.read, h.1.returned, rfl⟩, h.2⟩)
  have hsend : Triple (reconcileContract config) (fun past s =>
        (lastRead config past = some s.current ∧ Returned config past ∧ s.changed = true) ∧
          IsReplacement config s file replacement)
      (FallibleProgram.send (.setStaticConfigFile file replacement gateway)) (fun _ past s =>
        ∃ earlier reply, past = earlier ++ [(.setStaticConfigFile file replacement gateway, reply)] ∧
          Returned config earlier ∧ s.changed = true) := by
    apply Triple.send
    · rintro past s ⟨⟨hread, -, -⟩, replaced, hfile, htext⟩
      exact ⟨s.current, replaced, hread, hfile, htext⟩
    · rintro past s reply ⟨⟨-, hreturned, hchanged⟩, -⟩ -
      exact ⟨past, reply, rfl, hreturned, hchanged⟩
  apply hmark.bind
  intro _
  apply hsend.bind
  intro _
  apply (refresh_triple hne).bind
  intro _
  apply currentFile_triple.bind
  intro returned
  split
  case isFalse => exact Triple.throw (fun _ _ _ => trivial)
  case isTrue hrecords =>
    apply Triple.pure
    rintro past s
      ⟨⟨sent, read, before, rfl, ⟨earlier, reply, rfl, hreturned, hchanged⟩, -, hsnapshot⟩, hfile⟩
    refine ⟨(lastRead_concat _ read).trans hsnapshot, ?_, hreturned.replaced hsnapshot hfile hrecords⟩
    have hwrote : Wrote (earlier ++ [(.setStaticConfigFile file replacement gateway, reply)] ++ [read]) :=
      wrote_concat.mpr (.inl (wrote_concat.mpr (.inr rfl)))
    exact iff_of_true hchanged hwrote

lemma removeSettings_sound :
    Triple (reconcileContract config) (Sound config) (removeSettings config gateway file)
      (fun _ => Sound config) := by
  have hrefresh :
      Triple (reconcileContract config) (Sound config) (refresh config gateway) (fun _ => Sound config) :=
    (refresh_sound hne).pre (fun _ _ h => ⟨h.changed, h.returned⟩)
  apply hrefresh.bind
  intro _
  apply currentFile_triple.bind
  intro content
  cases hreplacement : replacementConfigFile file content config.entries with
  | error error => exact Triple.throw (fun _ _ _ => trivial)
  | ok replacement =>
    dsimp only
    split
    · exact Triple.pure (fun _ _ h => h.1)
    · apply (replaceFile_sound hne).pre
      rintro past s ⟨hsound, hfile⟩
      exact ⟨hsound, content, hfile, eq_of_replacementConfigFile hreplacement⟩

lemma writeValue_sound {key : String ×ₗ String} {value : String} :
    Triple (reconcileContract config) (Sound config) (writeValue config gateway key value)
      (fun _ => Sound config) := by
  have hmark : Triple (reconcileContract config) (Sound config)
      (FallibleProgram.update (fun state => { state with changed := true })) (fun _ past s =>
        lastRead config past = some s.current ∧ Returned config past ∧ s.changed = true) :=
    Triple.update (fun past s h => ⟨h.read, h.returned, rfl⟩)
  have hsend : Triple (reconcileContract config) (fun past s =>
        lastRead config past = some s.current ∧ Returned config past ∧ s.changed = true)
      (FallibleProgram.send (.setStaticConfig (ofLex key).1 (ofLex key).2 value gateway)) (fun _ past s =>
        (s.changed = true ↔ Wrote past) ∧ Returned config past) := by
    apply Triple.send
    · rintro past s ⟨hread, -, -⟩
      exact ⟨s.current, hread⟩
    · rintro past s reply ⟨-, hreturned, hchanged⟩ -
      refine ⟨iff_of_true hchanged (wrote_concat.mpr (.inr rfl)), hreturned.concat ?_⟩
      intro file content gateway heq
      cases heq
  apply hmark.bind
  intro _
  apply hsend.bind
  intro _
  apply (refresh_sound hne).bind
  intro _
  apply read_sound.bind
  intro state
  split
  · exact Triple.pure (fun _ _ h => h)
  · exact Triple.throw (fun _ _ _ => trivial)

lemma setSetting_sound {entry : (String ×ₗ String) × Option String} :
    Triple (reconcileContract config) (Sound config) (setSetting config gateway entry)
      (fun _ => Sound config) := by
  unfold setSetting
  cases entry.2 with
  | none => exact Triple.pure (fun _ _ h => h)
  | some value =>
    apply read_sound.bind
    intro state
    split
    · exact Triple.pure (fun _ _ h => h)
    · exact writeValue_sound hne

end Triples

/-- The last exchange is a complete read that has every value and every absence as desired. -/
structure Succeeded (config : ManagedConfig) (changed : Bool) (past : List ConfigExchange) : Prop where
  settled : ∀ entry ∈ config.entries.entries,
    ∃ current, lastRead config past = some current ∧ current.values.lookup entry.1 = some entry.2
  changed : changed = false ↔ ¬Wrote past
  returned : Returned config past

lemma not_wrote_nil : ¬Wrote [] := by
  rintro ⟨exchange, hmem, -⟩
  cases hmem

lemma returned_nil : Returned config [] := by
  intro earlier file content gateway reply later heq
  cases List.append_ne_nil_of_right_ne_nil earlier (List.cons_ne_nil _ later) heq.symm

lemma reconcileConfig_triple (hne : config.entries.entries.isEmpty = false) :
    Triple (reconcileContract config) (fun past s => past = [] ∧ s.changed = false)
      (reconcileConfig config gateway)
      (fun changed past _ => Succeeded config changed past) := by
  have hstart :
      Triple (reconcileContract config) (fun past s => past = [] ∧ s.changed = false)
        (refresh config gateway)
      (fun _ => Sound config) := by
    apply (refresh_sound hne).pre
    rintro past s ⟨rfl, hchanged⟩
    exact ⟨iff_of_false (by simp [hchanged]) not_wrote_nil, returned_nil⟩
  apply hstart.bind
  intro _
  apply read_sound.bind
  intro state
  refine Triple.bind (R := fun _ => Sound config) (Triple.forM (I := fun _ => Sound config) ?_) ?_
  · intro finished file later _
    exact removeSettings_sound hne
  intro _
  refine Triple.bind (R := fun _ => Sound config) (Triple.forM (I := fun _ => Sound config) ?_) ?_
  · intro finished entry later _
    exact setSetting_sound hne
  intro _
  apply (readConfig_triple hne).bind
  intro last
  split
  case isFalse => exact Triple.throw (fun _ _ _ => trivial)
  case isTrue hmatches =>
    refine Triple.bind (R := fun changed past _ => Succeeded config changed.changed past)
      (Triple.read ?_) ?_
    · rintro past s ⟨earlier, exchange, rfl, hsound, hexchange, hsnapshot⟩
      have hvalues := List.all_eq_true.mp hmatches
      refine ⟨fun entry hentry => ⟨last, (lastRead_concat earlier exchange).trans hsnapshot, ?_⟩, ?_, ?_⟩
      · exact of_decide_eq_true (hvalues entry hentry)
      · rw [wrote_concat, hexchange, ← hsound.changed]
        simp
      · apply hsound.returned.concat
        intro file content gateway heq
        rw [heq] at hexchange
        cases hexchange
    · intro state
      exact Triple.pure (fun _ _ h => h)

lemma reconcileConfig_empty (hempty : config.entries.entries.isEmpty = true) :
    (reconcileConfig config gateway).run .initial = .done .initial (.ok false) := by
  obtain ⟨⟨entries, hentries⟩⟩ := config
  obtain rfl := List.isEmpty_iff.mp hempty
  rfl

/-- A write directly follows a complete read; a success means that the last read is as desired, and
reports whether anything was written. -/
theorem reconcileConfig_sound (config : ManagedConfig) (gateway : String)
    (env : List ConfigExchange → ConfigRequest → ConfigReply) :
    let run := Interaction.play env [] ((reconcileConfig config gateway).run .initial)
    Interaction.Historic (Justified config) run.1 ∧
      ∀ changed, run.2.2 = .ok changed → Succeeded config changed run.1 := by
  cases hempty : config.entries.entries.isEmpty with
  | true =>
    rw [reconcileConfig_empty hempty]
    refine ⟨Interaction.historic_nil, ?_⟩
    intro changed hok
    obtain rfl := Except.ok.inj hok
    refine ⟨?_, iff_of_true rfl not_wrote_nil, returned_nil⟩
    intro entry hentry
    rw [List.isEmpty_iff.mp hempty] at hentry
    cases hentry
  | false =>
    have htriple : Triple (reconcileContract config) _ (reconcileConfig config gateway) _ :=
      reconcileConfig_triple hempty
    have hmeets := (htriple [] .initial ⟨rfl, rfl⟩).historic Interaction.historic_nil
    have hanswers : ∀ s past request, (reconcileContract config).allowed s request (env past request) :=
      fun _ _ _ => trivial
    have hend := hmeets.play hanswers
    refine ⟨hend.2, ?_⟩
    intro changed hok
    have hends := hend.1
    rw [hok] at hends
    exact hends

def modeRemoval : ManagedConfig :=
  ⟨.ofList [(toLex ("fm_config", "MODE"), none)], eq_ok_of_isOk (by decide +kernel)⟩

/-- A controller that has the setting until a write, and that acknowledges nothing. -/
def silentController (past : List ConfigExchange) : ConfigRequest → ConfigReply
  | .getStaticConfigFiles _ _ =>
    .files ⟨some (some
      [⟨"fm_config", if past.any (fun exchange => exchange.1.isWrite) then "# mode\n"
        else "# mode\nMODE a\n"⟩])⟩
  | _ => .failed

theorem modeRemoval_reconciled :
    let run := Interaction.play silentController [] ((reconcileConfig modeRemoval "gateway").run .initial)
    run.2.2 = .ok true ∧ Succeeded modeRemoval true run.1 := by
  have hok : (Interaction.play silentController []
      ((reconcileConfig modeRemoval "gateway").run .initial)).2.2 = .ok true := by
    decide +kernel
  exact ⟨hok, (reconcileConfig_sound modeRemoval "gateway" silentController).2 true hok⟩

end RackManagement.ManagedConfigFile
