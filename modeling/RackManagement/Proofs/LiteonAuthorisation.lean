import RackManagement.Proofs.LiteonUploads

/-!
# What authorises an upload

While the settle clock runs, some earlier poll observed an idle and incomplete shelf, and no poll
since saw anything else.
-/

namespace RackManagement

open Library List

def versionOf (validation : Json) (slot : String) : Option String :=
  (reportedVersions validation).reverse.lookup slot

lemma versionOf_eq_of_not_changed {previous current : Json}
    (h : psuVersionsChanged previous current = false)
    (hne : reportedVersions previous ≠ []) (slot : String) :
    versionOf previous slot = versionOf current slot := by
  have hall : ∀ entry ∈ (reportedVersions previous).reverse ++ (reportedVersions current).reverse,
      versionOf previous entry.1 = versionOf current entry.1 := by
    have hagree := h
    simp only [psuVersionsChanged, isEmpty_reverse, isEmpty_eq_false_iff.mpr hne, Bool.not_false,
      Bool.true_and, Bool.not_eq_false', all_eq_true, beq_iff_eq] at hagree
    exact hagree
  by_cases hreported :
    ∃ entry ∈ (reportedVersions previous).reverse ++ (reportedVersions current).reverse, entry.1 = slot
  · obtain ⟨entry, hmem, rfl⟩ := hreported
    exact hall entry hmem
  · -- A slot that neither reports has no version in either.
    have habsent : ∀ entries : List (String × String),
        entries ⊆ (reportedVersions previous).reverse ++ (reportedVersions current).reverse →
          entries.lookup slot = none := by
      intro entries hsubset
      rw [lookup_eq_none_iff]
      intro entry hmem
      rw [bne_iff_ne]
      exact fun heq => hreported ⟨entry, hsubset hmem, heq.symm⟩
    rw [versionOf, versionOf, habsent _ (subset_append_left _ _), habsent _ (subset_append_right _ _)]

def Trace.AgreesWith (trace : Trace) (validation : Json) : Prop :=
  ∀ reading ∈ trace.psuReadings, ∀ version, reading.2.getStr "Version" = some version →
    versionOf validation reading.1 = some (trim version)

lemma reportedVersions_report (readings : List (String × Json)) (target : Nat × Nat) :
    reportedVersions
      (Poll.validationReport (readings.map (fun r => DeviceEntry.make r.1 r.2 target)) target) =
      readings.filterMap (fun r => (r.2.getStr "Version").map (fun version => (r.1, trim version))) := by
  rw [reportedVersions, RecoveryState.devices_report, Option.getD_some, filterMap_map]
  congr 1
  funext r
  simp only [Function.comp_apply, DeviceEntry.getStr_make_device_id, DeviceEntry.getStr_make_version]
  cases r.2.getStr "Version" <;> rfl

lemma keys_sublist (readings : List (String × Json)) :
    ((readings.filterMap (fun r =>
      (r.2.getStr "Version").map (fun version => (r.1, trim version)))).map Prod.fst).Sublist
      (readings.map Prod.fst) := by
  induction readings with
  | nil => exact .slnil
  | cons reading readings ih =>
    cases hversion : reading.2.getStr "Version" with
    | none => simpa [hversion] using ih.cons reading.1
    | some version => simpa [hversion] using ih

section Validated

variable {target : Nat × Nat} {trace : Trace} {validation : Json} (h : Validated target trace validation)

include h

lemma Validated.mem_reportedVersions {reading : String × Json} (hmem : reading ∈ trace.psuReadings)
    {version : String} (hversion : reading.2.getStr "Version" = some version) :
    (reading.1, trim version) ∈ reportedVersions validation := by
  rw [h.report, reportedVersions_report]
  exact mem_filterMap.mpr ⟨reading, hmem, by rw [hversion]; rfl⟩

lemma Validated.nodup_reportedVersions : ((reportedVersions validation).map Prod.fst).Nodup := by
  have hslots : (trace.psuReadings.map Prod.fst).Nodup := h.readsSlots.slots_perm.nodup_iff.mpr (by decide)
  have hsublist :
      ((reportedVersions validation).map Prod.fst).Sublist (trace.psuReadings.map Prod.fst) := by
    rw [h.report, reportedVersions_report]
    exact keys_sublist _
  exact hslots.sublist hsublist

lemma Validated.agreesWith : trace.AgreesWith validation := by
  intro reading hmem version hversion
  apply Json.lookup_of_mem_nodup
  · rw [map_reverse, nodup_reverse]
    exact h.nodup_reportedVersions
  · exact mem_reverse.mpr (h.mem_reportedVersions hmem hversion)

lemma Validated.reportedVersions_ne_nil (hsettled : ∀ reading ∈ trace.psuReadings, Settled reading.2) :
    reportedVersions validation ≠ [] := by
  have hone : "1" ∈ trace.psuReadings.map Prod.fst := h.readsSlots.slots_perm.mem_iff.mpr (by decide)
  obtain ⟨reading, hmem, -⟩ := mem_map.mp hone
  obtain ⟨pair, hpair⟩ := (hsettled reading hmem).version
  obtain ⟨version, hversion, -⟩ := Option.bind_eq_some_iff.mp hpair
  exact ne_nil_of_mem (h.mem_reportedVersions hmem hversion)

end Validated

/-- An earlier poll saw the shelf idle and incomplete, and the polls since then saw nothing else and
the same versions. -/
def Observed (updateFile : String) (records : List PollRecord) (s : RecoveryState)
    (since : Instant) : Prop :=
  ∃ before observation after target, records = before ++ observation :: after ∧
    Liteon.packageTargetVersion updateFile = some target ∧
      Trace.IdleIncomplete target observation.exchanges ∧
    (∀ exchange ∈ observation.exchanges, exchange.2.1 ≤ since) ∧
    (∀ r ∈ after, Trace.Undisturbed r.exchanges) ∧
    (∀ r ∈ observation :: after, Trace.AgreesWith r.exchanges s.lastValidation) ∧
    reportedVersions s.lastValidation ≠ []

/-- As long as no poll was dropped, the settle clock counts from an observation. -/
def ClockObserved (updateFile : String) (records : List PollRecord) (s : PollState) : Prop :=
  (∃ r ∈ records, r.result = none) ∨
    (s.recovery.terminal = none → ∀ since, s.recovery.idleSince = some since →
      Observed updateFile records s.recovery since)

lemma Trace.AgreesWith.of_versionOf_eq {trace : Trace} {previous current : Json}
    (h : trace.AgreesWith previous)
    (heq : ∀ slot, versionOf previous slot = versionOf current slot) : trace.AgreesWith current := by
  intro reading hmem version hversion
  rw [← heq]
  exact h reading hmem version hversion

lemma Trace.agreesWith_of_psuReadings_eq_nil {trace : Trace} (h : trace.psuReadings = [])
    (validation : Json) :
    trace.AgreesWith validation := by
  intro reading hmem
  rw [h] at hmem
  simp at hmem

variable {updateFile : String}

lemma Observed.extend {records : List PollRecord} {s t : RecoveryState} {since : Instant}
    {r : PollRecord} (h : Observed updateFile records s since)
    (hundisturbed : Trace.Undisturbed r.exchanges)
    (hsame : SameVersions s r.exchanges t) : Observed updateFile (records ++ [r]) t since := by
  obtain ⟨before, observation, after, target, rfl, htarget, hidle, htimed, hafter, hagree, hne⟩ := h
  have hversions : (∀ found ∈ observation :: after, Trace.AgreesWith found.exchanges t.lastValidation) ∧
      Trace.AgreesWith r.exchanges t.lastValidation ∧ reportedVersions t.lastValidation ≠ [] := by
    obtain ⟨hnil, hlast⟩ | ⟨⟨other, hvalidated⟩, hunchanged⟩ := hsame
    · rw [hlast]
      exact ⟨hagree, Trace.agreesWith_of_psuReadings_eq_nil hnil _, hne⟩
    · have heq := versionOf_eq_of_not_changed hunchanged hne
      refine ⟨fun found hmem => (hagree found hmem).of_versionOf_eq heq, hvalidated.agreesWith, ?_⟩
      exact hvalidated.reportedVersions_ne_nil hundisturbed.psus
  refine ⟨before, observation, after ++ [r], target, by simp, htarget, hidle, htimed, ?_, ?_, hversions.2.2⟩
  · exact forall_mem_append.mpr ⟨hafter, by simpa using hundisturbed⟩
  · rw [← cons_append]
    exact forall_mem_append.mpr ⟨hversions.1, by simpa using hversions.2.1⟩

lemma observed_of_idleIncomplete {target : Nat × Nat} {t : RecoveryState} {since : Instant}
    {r : PollRecord} (records : List PollRecord)
    (htarget : Liteon.packageTargetVersion updateFile = some target)
    (hidle : Trace.IdleIncomplete target r.exchanges)
    (htimed : ∀ exchange ∈ r.exchanges, exchange.2.1 ≤ since)
    (hvalidated : Validated target r.exchanges t.lastValidation) :
    Observed updateFile (records ++ [r]) t since :=
  ⟨records, r, [], target, rfl, htarget, hidle, htimed, by simp, by simpa using hvalidated.agreesWith,
    hvalidated.reportedVersions_ne_nil hidle.settled⟩

lemma clockObserved_keptByPolls : KeptByPolls updateFile (ClockObserved updateFile) where
  later h _ := h
  ended := by
    intro records s since trace now result t h hsince hend
    obtain ⟨r, hmem, hr⟩ | h := h
    · exact .inl ⟨r, mem_append_left _ hmem, hr⟩
    refine .inr fun (hterminal : t.terminal = none) clock (hclock : t.idleSince = some clock) => ?_
    cases hend with
    | replayed hstored htrace =>
      rw [hstored] at hterminal
      cases hterminal
    | closed hopen hreads hcloses hcompleted =>
      rw [hcloses.terminal] at hterminal
      cases hterminal
    | goesOn hopen hreads hgoes hkept =>
      obtain hnone | ⟨hsame, hundisturbed, hversions⟩ |
        ⟨hnow, htimed, target, htarget, hidle, hvalidated⟩ := hkept
      · rw [hnone] at hclock
        cases hclock
      · exact (h hopen clock (hsame ▸ hclock)).extend hundisturbed hversions
      · cases hnow.symm.trans hclock
        exact observed_of_idleIncomplete records htarget hidle htimed hvalidated
    | uploaded hopen htrace hreads hauthorised hlater hsent hanswered houtcome =>
      obtain ⟨-, -, hidle⟩ | ⟨-, hcloses, -⟩ := houtcome
      · rw [hidle] at hclock
        cases hclock
      · rw [hcloses.terminal] at hterminal
        cases hterminal
  dropped := by
    intro records s since trace state q h hwait
    exact .inl ⟨⟨trace, some q, none⟩, by simp, rfl⟩

/-- The two polls read the same version of every slot that both read. -/
def SameReadings (first second : Trace) : Prop :=
  ∀ slot psu other, (slot, psu) ∈ first.psuReadings → (slot, other) ∈ second.psuReadings →
    ∀ version otherVersion, psu.getStr "Version" = some version →
      other.getStr "Version" = some otherVersion →
      trim version = trim otherVersion

lemma sameReadings_of_agreesWith {first second : Trace} {validation : Json}
    (hfirst : first.AgreesWith validation)
    (hsecond : second.AgreesWith validation) : SameReadings first second := by
  intro slot psu other hpsu hother version otherVersion hversion hotherVersion
  have heq := (hfirst _ hpsu version hversion).symm.trans (hsecond _ hother otherVersion hotherVersion)
  exact Option.some.inj heq

namespace LiteonSession

variable {updateFile taskId : String} {started : Instant} {session : LiteonSession}
  {events : List LiteonEvent}

/-- An upload is sent only if the shelf was just read idle and incomplete, with no task left, and
had been so for a settling period. -/
theorem upload_is_authorised (hrun : run (step updateFile) (new taskId started) events = some session)
    (hcomplete : ∀ r ∈ session.records, r.result ≠ none)
    {waiting : WaitingCall PollState LiteonRequest LiteonAnswer PollResult}
    (hactive : session.active = some waiting)
    {uri : String} (hupload : waiting.request = .upload uri) :
    ∃ target, Liteon.packageTargetVersion updateFile = some target ∧
      Trace.IdleIncomplete target waiting.exchanges ∧
      ∃ before observation after, session.records = before ++ observation :: after ∧
        Trace.IdleIncomplete target observation.exchanges ∧
        (∃ last ∈ waiting.exchanges, ∀ exchange ∈ observation.exchanges, exchange.2.1 +
          repushSettleTime ≤ last.2.1) ∧
        (∀ r ∈ after, Trace.Undisturbed r.exchanges ∧ SameReadings observation.exchanges r.exchanges) ∧
        SameReadings observation.exchanges waiting.exchanges := by
  obtain ⟨s, since, hobserved, -, hwait⟩ :=
    (kept_of_keptByPolls clockObserved_keptByPolls (.inr fun _ since h => by cases h) hrun).2
      waiting hactive
  obtain ⟨r, hmem, hr⟩ | hobserved := hobserved
  · exact absurd hr (hcomplete r hmem)
  obtain ⟨exchanges, request, resume⟩ := waiting
  obtain rfl : request = .upload uri := hupload
  cases hwait with
  | read hopen hreads hstep => cases hstep.read
  | upload _ hopen hreads hauthorised hsince hsent =>
    obtain ⟨clock, hclock, hsettled⟩ := hauthorised.settled
    obtain ⟨target, validation, htarget, hidle, hvalidated, hunchanged⟩ := hauthorised.observed
    obtain ⟨before, observation, after, other, hrecords, hother, hobservation, htimed, hafter,
      hagree, hne⟩ :=
      hobserved hopen clock hclock
    cases htarget.symm.trans hother
    have heq := versionOf_eq_of_not_changed hunchanged hne
    have hfirst : Trace.AgreesWith observation.exchanges s.lastValidation :=
      hagree observation mem_cons_self
    obtain ⟨last, hlast, hnow⟩ := hauthorised.reached
    refine ⟨target, htarget, hidle, before, observation, after, hrecords, hobservation,
      ⟨last, hlast, ?_⟩, ?_, ?_⟩
    · intro exchange hmem
      rw [hnow]
      exact (Nat.add_le_add_right (htimed exchange hmem) _).trans hsettled
    · intro r hmem
      exact ⟨hafter r hmem, sameReadings_of_agreesWith hfirst (hagree r (mem_cons_of_mem _ hmem))⟩
    · exact sameReadings_of_agreesWith (hfirst.of_versionOf_eq heq) hvalidated.agreesWith

theorem settledPolls_authorised :
    ∃ session waiting, run (step samplePackage) (new "7" 0) settledPolls = some session ∧
      session.active = some waiting ∧ waiting.request = .upload "/upload" ∧
      ∃ target, Liteon.packageTargetVersion samplePackage = some target ∧
        Trace.IdleIncomplete target waiting.exchanges := by
  have hfacts : (run (step samplePackage) (new "7" 0) settledPolls).map (fun s =>
      (s.active.map WaitingCall.request, s.records.map (fun r => r.result.isSome))) =
      some (some (.upload "/upload"), [true, true, true]) := by decide +kernel
  obtain ⟨session, hrun, hfacts⟩ := Option.map_eq_some_iff.mp hfacts
  obtain ⟨hrequest, hresults⟩ := Prod.mk.inj hfacts
  obtain ⟨waiting, hactive, hrequest⟩ := Option.map_eq_some_iff.mp hrequest
  have hcomplete : ∀ r ∈ session.records, r.result ≠ none := by
    intro r hmem hnone
    have hfound := mem_map_of_mem (f := fun r : PollRecord => r.result.isSome) hmem
    rw [hresults] at hfound
    simp [hnone] at hfound
  obtain ⟨target, htarget, hidle, -⟩ := upload_is_authorised hrun hcomplete hactive hrequest
  exact ⟨session, waiting, hrun, hactive, hrequest, target, htarget, hidle⟩

end LiteonSession

end RackManagement
