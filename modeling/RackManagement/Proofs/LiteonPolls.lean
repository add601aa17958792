import Mathlib.Data.List.Perm.Subperm
import RackManagement.Proofs.LiteonSteps
import RackManagement.Proofs.LiteonVerdicts

/-! # What a poll can do -/

namespace RackManagement

open Library Library.Interaction Option

/-- A PSU at the target version, healthy and idle. -/
structure AtTarget (target : Nat × Nat) (psu : Json) : Prop where
  version : (psu.getStr "Version").bind Liteon.parseVersionPair = some target
  state : Liteon.statusIsFailure (psu.getStr "state") = false
  status : Liteon.statusIsFailure (psu.getStr "status") = false
  progress : (psu.get "updateProgress").bind Json.asU64 = some 0

lemma filled_of_not_all {value : Option String} (h : value.all (fun value => trim value == "") = false) :
    ∃ text, value = some text ∧ trim text ≠ "" := by
  cases value with
  | none => simp at h
  | some text => exact ⟨text, rfl, by simpa using h⟩

variable {psu validation : Json} {target : Nat × Nat} {s t : RecoveryState} {trace : Trace} {now : Instant}

lemma settled_of_entry {slot : String} (h : RecoveryState.HealthyEntry (DeviceEntry.make slot psu target))
    (hidle : DeviceEntry.isIdle (DeviceEntry.make slot psu target) = true) : Settled psu := by
  obtain ⟨hfailed, hunreadable⟩ := h
  simp only [DeviceEntry.isFailed, DeviceEntry.getStr_make_state, DeviceEntry.getStr_make_status,
    Bool.or_eq_false_iff] at hfailed
  simp only [DeviceEntry.isUnreadable, DeviceEntry.getStr_make_version, DeviceEntry.getStr_make_state,
    DeviceEntry.getStr_make_status, Bool.or_eq_false_iff] at hunreadable
  rw [DeviceEntry.isIdle_make, beq_iff_eq] at hidle
  obtain ⟨⟨⟨⟨-, hversion⟩, -⟩, hstate⟩, hstatus⟩ := hunreadable
  obtain ⟨state, hstate, hstateText⟩ := filled_of_not_all hstate
  obtain ⟨status, hstatus, hstatusText⟩ := filled_of_not_all hstatus
  refine ⟨?_, ⟨state, hstate, hstateText, hstate ▸ hfailed.1⟩,
    ⟨status, hstatus, hstatusText, hstatus ▸ hfailed.2⟩, hidle⟩
  exact isSome_iff_exists.mp (by simpa using hversion)

lemma asI64_eq_zero {value : Option Json} (h : value.bind Json.asU64 = some 0) :
    value.bind Json.asI64 = some 0 := by
  obtain ⟨json, rfl, hjson⟩ := bind_eq_some_iff.mp h
  cases json with
  | integer n =>
    simp only [Json.asU64, ite_none_right_eq_some, some.injEq] at hjson
    obtain ⟨⟨hn, -⟩, hzero⟩ := hjson
    obtain rfl : n = 0 := by omega
    rfl
  | _ => simp [Json.asU64] at hjson

lemma Settled.readyAtTarget_iff (h : Settled psu) (herror : psu.get "error" = none) (target : Nat × Nat) :
    Liteon.responseReadyAtTarget psu target = true ↔
      (psu.getStr "Version").bind Liteon.parseVersionPair = some target := by
  obtain ⟨version, hversion⟩ := h.version
  obtain ⟨state, hstate, -, hstateOk⟩ := h.state
  obtain ⟨status, hstatus, -, hstatusOk⟩ := h.status
  simp [Liteon.responseReadyAtTarget, Liteon.responseMatchesTarget, Liteon.statusIsNonFailure,
    hversion, hstate, hstatus,
    hstateOk, hstatusOk, herror, asI64_eq_zero h.progress]

lemma atTarget_of_entry {slot : String} (h : RecoveryState.HealthyEntry (DeviceEntry.make slot psu target))
    (hidle : DeviceEntry.isIdle (DeviceEntry.make slot psu target) = true)
    (hready : DeviceEntry.isAtTarget (DeviceEntry.make slot psu target) = true)
    (herror : psu.get "error" = none) :
    AtTarget target psu := by
  have hsettled := settled_of_entry h hidle
  rw [DeviceEntry.isAtTarget_make] at hready
  obtain ⟨state, hstate, -, hstateOk⟩ := hsettled.state
  obtain ⟨status, hstatus, -, hstatusOk⟩ := hsettled.status
  exact ⟨(hsettled.readyAtTarget_iff herror target).mp hready, hstate ▸ hstateOk,
    hstatus ▸ hstatusOk, hsettled.progress⟩

/-- The inventory has six members, one for each slot. -/
def NamesSlots (collection : Json) : Prop :=
  (Poll.collectionMembers collection).any (fun members => members.length == 6) = true ∧
    (Poll.collectionIds collection).Perm slots

lemma namesSlots_of_namesSixSlots {collection : Json} (h : Poll.namesSixSlots collection = true) :
    NamesSlots collection := by
  simp only [Poll.namesSixSlots, Bool.and_eq_true, beq_iff_eq, List.all_eq_true, List.contains_iff_mem] at h
  obtain ⟨⟨⟨hmembers, hlength⟩, hslots⟩, -⟩ := h
  have hnodup : slots.Nodup := by decide
  exact ⟨hmembers, ((hnodup.subperm hslots).perm_of_length_le (by rw [hlength]; decide)).symm⟩

namespace Trace

/-- The six slots were named and read. -/
structure ReadsSlots (trace : Trace) : Prop where
  collection :
    ∃ collection, trace.Answered .powerUnits (.response 200 (some collection)) ∧ NamesSlots collection
  slots_perm : (trace.psuReadings.map Prod.fst).Perm slots

/-- An idle shelf with a PSU that is not at the target, and no task. -/
structure IdleIncomplete (target : Nat × Nat) (trace : Trace) : Prop where
  reads : trace.ReadsSlots
  settled : ∀ reading ∈ trace.psuReadings, Settled reading.2
  incomplete :
    ∃ reading ∈ trace.psuReadings, (reading.2.getStr "Version").bind Liteon.parseVersionPair ≠ some target
  tasks : trace.ReadsClearTasks

/-- The exchanges read all slots, and each runs the target version. -/
structure AllAtTarget (target : Nat × Nat) (trace : Trace) : Prop where
  reads : trace.ReadsSlots
  atTarget : ∀ reading ∈ trace.psuReadings, AtTarget target reading.2

end Trace

section Validated

variable {target : Nat × Nat} {trace : Trace} {validation : Json} (h : Validated target trace validation)

include h

lemma Validated.readsSlots : trace.ReadsSlots := by
  obtain ⟨collection, hanswered, hsix, hids⟩ := h.collection
  have hnames := namesSlots_of_namesSixSlots hsix
  exact ⟨⟨collection, hanswered, hnames⟩, hids ▸ hnames.2⟩

lemma Validated.judge_cases (s : RecoveryState) (now : Instant) (id : String) :
    (∃ result t, s.judge now id validation = some (result, t) ∧ Closes s t result ∧
        (Completed result → trace.AllAtTarget target)) ∨
      (∃ result t, s.judge now id validation = some (result, t) ∧ GoesOn s t result ∧ t.idleSince = none) ∨
      s.judge now id validation = none ∧ (∀ reading ∈ trace.psuReadings, Settled reading.2) ∧
        ∃ reading ∈ trace.psuReadings, (reading.2.getStr "Version").bind Liteon.parseVersionPair ≠
          some target := by
  rw [h.report]
  obtain ⟨result, t, hjudge, hcloses, hcompleted⟩ | hgoes | ⟨hjudge, hsettled, device, hdevice, hlagging⟩ :=
    s.judge_cases now id (trace.psuReadings.map (fun r => DeviceEntry.make r.1 r.2 target)) target
  · refine .inl ⟨result, t, hjudge, hcloses, fun hresult => ⟨h.readsSlots, fun reading hmem => ?_⟩⟩
    obtain ⟨hhealthy, hidle, hready⟩ := hcompleted hresult _ (List.mem_map_of_mem hmem)
    exact atTarget_of_entry hhealthy hidle hready (h.no_error reading hmem)
  · exact .inr (.inl hgoes)
  · have hall : ∀ reading ∈ trace.psuReadings, Settled reading.2 := by
      intro reading hmem
      obtain ⟨hhealthy, hidle⟩ := hsettled _ (List.mem_map_of_mem hmem)
      exact settled_of_entry hhealthy hidle
    refine .inr (.inr ⟨hjudge, hall, ?_⟩)
    obtain ⟨reading, hmem, rfl⟩ := List.mem_map.mp hdevice
    refine ⟨reading, hmem, fun hversion => ?_⟩
    have hready := ((hall reading hmem).readyAtTarget_iff (h.no_error reading hmem) target).mpr hversion
    rw [DeviceEntry.isAtTarget_make, hready] at hlagging
    cases hlagging

end Validated

/-- The versions are those of the last validation. -/
def SameVersions (s : RecoveryState) (trace : Trace) (t : RecoveryState) : Prop :=
  (trace.psuReadings = [] ∧ t.lastValidation = s.lastValidation) ∨
    (∃ target, Validated target trace t.lastValidation) ∧
      psuVersionsChanged s.lastValidation t.lastValidation = false

/-- What a poll leaves of the settle clock: nothing, the earlier observation, or one of its own. -/
def ClockKept (updateFile : String) (s : RecoveryState) (trace : Trace) (now : Instant)
    (t : RecoveryState) : Prop :=
  t.idleSince = none ∨
    (t.idleSince = s.idleSince ∧ trace.Undisturbed ∧ SameVersions s trace t) ∨
    t.idleSince = some now ∧ (∀ exchange ∈ trace, exchange.2.1 ≤ now) ∧
      ∃ target, Liteon.packageTargetVersion updateFile = some target ∧ trace.IdleIncomplete target ∧
        Validated target trace t.lastValidation

/-- What has been established when the upload is sent. -/
structure Authorised (updateFile : String) (s : RecoveryState) (trace : Trace) (now : Instant) : Prop where
  settled : ∃ since, s.idleSince = some since ∧ since + repushSettleTime ≤ now
  early : now < s.deadline
  undisturbed : trace.Undisturbed
  answered_by : ∀ exchange ∈ trace, exchange.2.1 ≤ now
  reached : ∃ exchange ∈ trace, exchange.2.1 = now
  observed : ∃ target validation, Liteon.packageTargetVersion updateFile = some target ∧
    trace.IdleIncomplete target ∧
    Validated target trace validation ∧ psuVersionsChanged s.lastValidation validation = false

def delivered : Except StepExit PollResult → Option PollResult
  | .ok result => some result
  | .error (.result result) => some result
  | .error .timedOut => none

/-- A step from an open state without a pending push times out, gives a result or decides on
an upload. -/
inductive StepOutcome (updateFile : String) (s : RecoveryState) (trace : Trace) (now : Instant) :
    Option PollResult → RecoveryState → Prop
  | timedOut {t : RecoveryState} (hterminal : t.terminal = none) (hdeadline : t.deadline = s.deadline)
    (hpending : t.pendingPush = none) : StepOutcome updateFile s trace now none t
  | closes {result : PollResult} {t : RecoveryState} (hcloses : Closes s t result)
    (hcompleted : Completed result →
      ∃ target, Liteon.packageTargetVersion updateFile = some target ∧ trace.AllAtTarget target) :
    StepOutcome updateFile s trace now (some result) t
  | goesOn {result : PollResult} {t : RecoveryState} (hgoes : GoesOn s t result)
    (hclock : ClockKept updateFile s trace now t) : StepOutcome updateFile s trace now (some result) t
  | pushes {result : PollResult} {t : RecoveryState} (hauthorised : Authorised updateFile s trace now)
    (hpushes : RecoveryState.Pushes s t now) : StepOutcome updateFile s trace now (some result) t

lemma Closes.of_recordValidation {result : PollResult}
    (h : Closes (s.recordValidation validation) t result) : Closes s t result :=
  ⟨h.ok, h.terminal, h.deadline, h.pendingPush⟩

lemma GoesOn.of_recordValidation {result : PollResult}
    (h : GoesOn (s.recordValidation validation) t result) : GoesOn s t result :=
  ⟨h.running, h.terminal, h.deadline, h.pendingPush⟩

lemma ReadExit.outcome {id updateFile : String} {recorded : RecoveryState}
    {exit : StepExit} (hrecorded : recorded = s ∨ ∃ validation, recorded = s.recordValidation validation)
    (hterminal : s.terminal = none) (hpending : s.pendingPush = none)
    (h : ReadExit recorded id now exit t) :
    StepOutcome updateFile s trace now (delivered (.error exit)) t := by
  have hclosed : ∀ {t result}, Closes recorded t result → Closes s t result := by
    obtain rfl | ⟨validation, rfl⟩ := hrecorded
    · exact fun h => h
    · exact Closes.of_recordValidation
  have hgoing : ∀ {t result}, GoesOn recorded t result → GoesOn s t result := by
    obtain rfl | ⟨validation, rfl⟩ := hrecorded
    · exact fun h => h
    · exact GoesOn.of_recordValidation
  cases h with
  | timedOut =>
    obtain rfl | ⟨validation, rfl⟩ := hrecorded
    · exact .timedOut hterminal rfl hpending
    · exact .timedOut hterminal rfl hpending
  | unavailable started =>
    obtain ⟨hcloses, hcompleted⟩ | ⟨hgoes, hidle⟩ := recorded.unavailable_cases now id started
    · exact .closes (hclosed hcloses) (fun h => absurd h hcompleted)
    · exact .goesOn (hgoing hgoes) (.inl hidle)
  | failed message =>
    exact .closes (hclosed (recorded.fail_closes id message))
      (fun h => absurd h (recorded.fail_not_completed id message))

lemma Rechecked.undisturbed
    (h : Rechecked target trace now validation)
    (hsettled : ∀ reading ∈ trace.psuReadings, Settled reading.2) :
    trace.Undisturbed :=
  ⟨h.readable, fun taskId reply hanswered =>
    absurd hanswered (h.untracked taskId reply), h.seesNoTask, hsettled⟩

theorem StepEnd.outcome {id updateFile : String}
    {outcome : Except StepExit PollResult} (hterminal : s.terminal = none) (hpending : s.pendingPush = none)
    (h : StepEnd id updateFile s trace now outcome t) :
    StepOutcome updateFile s trace now (delivered outcome) t := by
  cases h with
  | stopped recorded hrecorded hexit => exact hexit.outcome hrecorded hterminal hpending
  | unversioned =>
    exact .closes (s.fail_closes id _) (fun h => absurd h (s.fail_not_completed id _))
  | followed details =>
    obtain ⟨hcloses, hcompleted⟩ | ⟨hgoes, hidle⟩ := s.followTask_cases id details
    · exact .closes hcloses (fun h => absurd h hcompleted)
    · exact .goesOn hgoes (.inl hidle)
  | taskBlocked label => exact .goesOn (s.taskVanished_goesOn id _) (.inl rfl)
  | vanished hundisturbed hreadings =>
    exact .goesOn (s.taskVanished_goesOn id none) (.inr (.inl ⟨rfl, hundisturbed, .inl ⟨hreadings, rfl⟩⟩))
  | judged target validation htarget hvalidated hjudge =>
    obtain ⟨result, t, heq, hcloses, hcompleted⟩ | ⟨result, t, heq, hgoes, hidle⟩ | ⟨hnone, -⟩ :=
      hvalidated.judge_cases (s.recordValidation validation) now id
    · cases hjudge.symm.trans heq
      exact .closes hcloses.of_recordValidation (fun h => ⟨target, htarget, hcompleted h⟩)
    · cases hjudge.symm.trans heq
      exact .goesOn hgoes.of_recordValidation (.inl hidle)
    · cases hjudge.symm.trans hnone
  | repushBlocked validation label =>
    exact .goesOn
      ((s.recordValidation validation).repushBlocked_goesOn id label).of_recordValidation (.inl rfl)
  | repushed target validation earlier status service htarget hrechecked hjudge =>
    have hvalidated := hrechecked.validated
    obtain ⟨_, _, heq, -⟩ | ⟨_, _, heq, -⟩ | ⟨-, hsettled, hincomplete⟩ :=
      hvalidated.judge_cases (s.recordValidation validation) earlier id
    · cases hjudge.symm.trans heq
    · cases hjudge.symm.trans heq
    have hidle : trace.IdleIncomplete target :=
      ⟨hvalidated.readsSlots, hsettled, hincomplete, hrechecked.readsTasks⟩
    have hundisturbed := hrechecked.undisturbed hsettled
    obtain ⟨hgoes, hclock, hlast, -⟩ | ⟨hcloses, hcompleted⟩ | hpushes :=
      (s.recordValidation validation).repush_cases now id status service
    · refine .goesOn hgoes.of_recordValidation (.inr ?_)
      rw [← show (s.recordValidation validation).lastValidation = validation from rfl,
        ← hlast] at hvalidated
      cases hrecorded : (s.recordValidation validation).idleSince with
      | none =>
        rw [hrecorded, getD_none] at hclock
        exact .inr ⟨hclock, hrechecked.answered_by, target, htarget, hidle, hvalidated⟩
      | some since =>
        obtain ⟨hsince, hchanged⟩ := RecoveryState.idleSince_recordValidation hrecorded
        rw [hrecorded, getD_some] at hclock
        exact .inl ⟨hclock.trans hsince.symm, hundisturbed,
          .inr ⟨⟨target, hvalidated⟩, by rw [hlast]; exact hchanged⟩⟩
    · exact .closes hcloses.of_recordValidation (fun h => absurd h hcompleted)
    · obtain ⟨since, hsince, hsettle⟩ := hpushes.settled
      obtain ⟨hidleSince, hchanged⟩ := RecoveryState.idleSince_recordValidation hsince
      have hsettled : ∃ since, s.idleSince = some since ∧ since + repushSettleTime ≤ now :=
        ⟨since, hidleSince, hsettle⟩
      exact .pushes
        ⟨hsettled, hpushes.early, hundisturbed, hrechecked.answered_by, hrechecked.reached, target,
        validation, htarget, hidle, hvalidated, hchanged⟩
          ⟨hsettled, hpushes.early, hpushes.deadline, hpushes.push⟩

/-- An accepted upload with a task ID that is not empty. -/
def LiteonReply.Accepted (reply : LiteonReply) : Prop :=
  ∃ response taskId, reply = .uploaded true response ∧
    Liteon.taskIdFromUpdateResponse response = some taskId ∧ taskId ≠ ""

def Trace.OnlyReads (trace : Trace) : Prop := ∀ exchange ∈ trace, exchange.1.isUpload = false

/-- The state in which a poll waits. The terminal result is stored before the upload is
sent. -/
inductive PollWait (updateFile : String) (s : RecoveryState) (since : Instant) (trace : Trace)
    (state : PollState) :
    LiteonRequest → Prop
  | read {q : LiteonRequest} (hopen : s.terminal = none) (hreads : trace.OnlyReads)
    (hstep : StepWait s since state q) :
    PollWait updateFile s since trace state q
  | upload (uri : String) {sent : Instant} {details : Json} (hopen : s.terminal = none)
    (hreads : trace.OnlyReads)
    (hauthorised : Authorised updateFile s trace sent) (hsince : since ≤ sent) (hsent : sent ≤ state.now)
    (hterminal : state.recovery.terminal = some details) (hcompleted : ¬Completed (true, details))
    (hdeadline : state.recovery.deadline = s.deadline)
    (hpending : state.recovery.pendingPush = none) : PollWait updateFile s since trace state (.upload uri)

inductive PollEnd (updateFile : String) (s : RecoveryState) (since : Instant) (trace : Trace)
    (now : Instant) :
    PollResult → RecoveryState → Prop
  | replayed {terminal : Json} (hterminal : s.terminal = some terminal) (htrace : trace = []) :
    PollEnd updateFile s since trace now (true, terminal) s
  | closed {result : PollResult} {t : RecoveryState} (hopen : s.terminal = none) (hreads : trace.OnlyReads)
    (hcloses : Closes s t result)
    (hcompleted : Completed result →
      ∃ target, Liteon.packageTargetVersion updateFile = some target ∧ trace.AllAtTarget target) :
    PollEnd updateFile s since trace now result t
  | goesOn {result : PollResult} {t : RecoveryState} (hopen : s.terminal = none) (hreads : trace.OnlyReads)
    (hgoes : GoesOn s t result) (hclock : ClockKept updateFile s trace now t) :
    PollEnd updateFile s since trace now result t
  | uploaded {reads : Trace} {uri : String} {answer : LiteonAnswer} {sent : Instant} {result : PollResult}
    {t : RecoveryState} (hopen : s.terminal = none) (htrace : trace = reads ++ [(.upload uri, answer)])
    (hreads : reads.OnlyReads) (hauthorised : Authorised updateFile s reads sent) (hsince : since ≤ sent)
    (hsent : sent ≤ now) (hanswered : answer.1 ≤ now)
    (houtcome : answer.2.Accepted ∧ GoesOn s t result ∧ t.idleSince = none ∨
      ¬answer.2.Accepted ∧ Closes s t result ∧ ¬Completed result) :
        PollEnd updateFile s since trace now result t

namespace Poll

variable {id updateFile : String} {s t : RecoveryState} {since now : Instant} {trace : Trace}

def PollMeets (updateFile : String) (s : RecoveryState) (since : Instant) :
    Trace → Interaction PollState LiteonRequest LiteonAnswer PollResult → Prop :=
  Meets LiteonSession.allowed (PollWait updateFile s since) (fun trace state result =>
    since ≤ state.now ∧ PollEnd updateFile s since trace state.now result state.recovery)

lemma dispatchRepush_meets {push : PendingPush} (hopen : s.terminal = none)
    (hpendingNone : s.pendingPush = none)
    (hreads : trace.OnlyReads) (hauthorised : Authorised updateFile s trace now) (hsince : since ≤ now)
    (hdeadline : t.deadline = s.deadline) (hok : push.unknownOutcome.1 = true)
    (hterminal : t.terminal = some push.unknownOutcome.2) (hcompleted : ¬Completed push.unknownOutcome) :
    PollMeets updateFile s since trace (dispatchRepush id push ⟨{ t with pendingPush := none }, now⟩) := by
  refine ⟨.upload push.uri hopen hreads hauthorised hsince
    (Nat.le_refl now) hterminal hcompleted hdeadline rfl, ?_⟩
  rintro ⟨u, reply⟩ (hu : now ≤ u)
  have hrefused : ¬reply.Accepted → PollEnd updateFile s since (trace ++ [(.upload push.uri, (u, reply))]) u
      push.unknownOutcome { t with pendingPush := none } := fun h =>
    .uploaded hopen rfl hreads hauthorised hsince hu (Nat.le_refl u)
      (.inr ⟨h, ⟨hok, hterminal, hdeadline, hpendingNone.symm⟩, hcompleted⟩)
  have hlater : since ≤ u := hsince.trans hu
  cases reply with
  | uploaded accepted response =>
    cases accepted with
    | false => exact ⟨hlater, hrefused (by rintro ⟨_, _, h, -⟩; cases h)⟩
    | true =>
      dsimp only [Interaction.bind]
      cases hid : (Liteon.taskIdFromUpdateResponse response).filter (fun taskId => taskId != "") with
      | some taskId =>
        obtain ⟨hresponse, hne⟩ := filter_eq_some_iff.mp hid
        have haccepted : (LiteonReply.uploaded true response).Accepted :=
          ⟨response, taskId, rfl, hresponse, by simpa using hne⟩
        exact ⟨hlater, .uploaded hopen rfl hreads hauthorised hsince hu (Nat.le_refl u)
          (.inl ⟨haccepted,
            ⟨RecoveryState.taskState_running _ id, hopen.symm, hdeadline, hpendingNone.symm⟩, rfl⟩)⟩
      | none =>
        refine ⟨hlater, hrefused ?_⟩
        rintro ⟨_, taskId, h, hresponse, hne⟩
        cases h
        simp [hresponse, hne] at hid
  | _ => exact ⟨hlater, hrefused (by rintro ⟨_, _, h, -⟩; cases h)⟩

variable {result : PollResult}

lemma afterStep_of_none (h : t.pendingPush = none) :
    afterStep id result ⟨t, now⟩ = .done ⟨t, now⟩ result := by
  obtain ⟨phase, taskId, deadline, offlineSince, idleSince, attempts, lastTask, lastValidation,
    terminal, blockedBy,
    pendingPush⟩ := t
  obtain rfl : pendingPush = none := h
  rfl

lemma afterStep_of_some {push : PendingPush} (h : t.pendingPush = some push) :
    afterStep id result ⟨t, now⟩ = dispatchRepush id push ⟨{ t with pendingPush := none }, now⟩ := by
  obtain ⟨phase, taskId, deadline, offlineSince, idleSince, attempts, lastTask, lastValidation,
    terminal, blockedBy,
    pendingPush⟩ := t
  obtain rfl : pendingPush = some push := h
  rfl

lemma afterStep_meets (hopen : s.terminal = none) (hpending : s.pendingPush = none)
    (hreads : trace.OnlyReads) (hsince : since ≤ now)
    (h : StepOutcome updateFile s trace now (some result) t) :
    PollMeets updateFile s since trace (afterStep id result ⟨t, now⟩) := by
  cases h with
  | closes hcloses hcompleted =>
    rw [afterStep_of_none (hcloses.pendingPush.trans hpending)]
    exact ⟨hsince, .closed hopen hreads hcloses hcompleted⟩
  | goesOn hgoes hclock =>
    rw [afterStep_of_none (hgoes.pendingPush.trans hpending)]
    exact ⟨hsince, .goesOn hopen hreads hgoes hclock⟩
  | pushes hauthorised hpushes =>
    obtain ⟨push, hpush, hok, hterminal, hcompleted⟩ := hpushes.push
    rw [afterStep_of_some hpush]
    exact dispatchRepush_meets hopen hpending hreads hauthorised hsince hpushes.deadline hok
      hterminal hcompleted

lemma stepTimedOut_meets {started : Instant} (hopen : s.terminal = none) (hpending : s.pendingPush = none)
    (hreads : trace.OnlyReads) (hsince : since ≤ now) (h : StepOutcome updateFile s trace now none t) :
    PollMeets updateFile s since trace (stepTimedOut id started ⟨t, now⟩) := by
  cases h with
  | timedOut hterminal hdeadline hpendingPush =>
    have heq : stepTimedOut id started ⟨t, now⟩ =
        .done ⟨(t.unavailable now id started).2, now⟩ (t.unavailable now id started).1 := by
      simp only [stepTimedOut, conclude, Program.transact, hterminal]
    rw [heq]
    refine ⟨hsince, ?_⟩
    obtain ⟨hcloses, hcompleted⟩ | ⟨hgoes, hidle⟩ := t.unavailable_cases now id started
    · refine .closed hopen hreads ⟨hcloses.ok, hcloses.terminal, hcloses.deadline.trans hdeadline, ?_⟩
        (fun h => absurd h hcompleted)
      rw [hcloses.pendingPush, hpendingPush, hpending]
    · refine .goesOn hopen hreads ⟨hgoes.running, ?_, hgoes.deadline.trans hdeadline, ?_⟩ (.inl hidle)
      · rw [hgoes.terminal, hterminal, hopen]
      · rw [hgoes.pendingPush, hpendingPush, hpending]

lemma poll_of_terminal {terminal : Json} (h : s.terminal = some terminal) :
    poll updateFile id ⟨s, now⟩ = .done ⟨s, now⟩ (true, terminal) := by
  rw [poll, Program.bind_apply]
  simp only [recovery, Program.transact, Interaction.bind, h]
  rfl

lemma poll_of_expired {ended : PollResult × RecoveryState} (hopen : s.terminal = none)
    (h : s.expired now id = some ended) : poll updateFile id ⟨s, now⟩ = .done ⟨ended.2, now⟩ ended.1 := by
  rw [poll, Program.bind_apply]
  simp only [recovery, Program.transact, Interaction.bind, hopen]
  rw [Program.bind_apply]
  simp only [Poll.now, Program.transact, Interaction.bind, h]
  rfl

lemma poll_of_open (hopen : s.terminal = none) (h : s.expired now id = none) : poll updateFile id ⟨s, now⟩ =
      (recoveryStep id updateFile ⟨s, now⟩).bind (fun outcome state =>
        afterOutcome id now outcome state) := by
  rw [poll, Program.bind_apply]
  simp only [recovery, Program.transact, Interaction.bind, hopen]
  rw [Program.bind_apply]
  simp only [Poll.now, Program.transact, Interaction.bind, h]
  rfl

/-- A poll that holds the lock, from a state in which no push is pending. -/
theorem poll_meets (updateFile id : String) (hpending : s.pendingPush = none) (hsince : since ≤ now) :
    PollMeets updateFile s since [] (poll updateFile id ⟨s, now⟩) := by
  have hnil : Trace.OnlyReads [] := by simp [Trace.OnlyReads]
  cases hopen : s.terminal with
  | some terminal =>
    rw [poll_of_terminal hopen]
    exact ⟨hsince, .replayed hopen rfl⟩
  | none =>
    cases hexpired : s.expired now id with
    | some ended =>
      obtain ⟨hcloses, hcompleted⟩ := RecoveryState.expired_closes hexpired
      rw [poll_of_expired hopen hexpired]
      exact ⟨hsince, .closed hopen hnil hcloses (fun h => absurd h hcompleted)⟩
    | none =>
      rw [poll_of_open hopen hexpired]
      apply Meets.bind
      have hstep := recoveryStep_meets id updateFile s hsince
      have hrequests :=
        hstep.requests (K := fun q : LiteonRequest => q.isUpload = false) (fun _ _ _ h => h.read) hnil
      apply hrequests.mono
      · rintro trace state q ⟨hwait, hreads⟩
        exact .read hopen hreads hwait
      · rintro trace state outcome ⟨⟨hlater, hend⟩, hreads⟩
        have houtcome := hend.outcome hopen hpending
        cases outcome with
        | ok result => exact afterStep_meets hopen hpending hreads hlater houtcome
        | error exit =>
          cases exit with
          | result result => exact afterStep_meets hopen hpending hreads hlater houtcome
          | timedOut => exact stepTimedOut_meets hopen hpending hreads hlater houtcome

end Poll

end RackManagement
