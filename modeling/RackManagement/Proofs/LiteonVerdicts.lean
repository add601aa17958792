import RackManagement.Model.LiteonRecovery

/-!
# The results a recovery can give

Each function that gives a result is characterised by what it stores and what it does to the settle
clock.
-/

namespace RackManagement

open Library List

namespace DeviceEntry

variable (slot : String) (psu : Json) (target : Nat × Nat)

lemma asStr_ofOption (value : Option Json) : (Json.ofOption value).asStr = value.bind Json.asStr := by
  cases value <;> rfl

lemma asU64_ofOption (value : Option Json) : (Json.ofOption value).asU64 = value.bind Json.asU64 := by
  cases value <;> rfl

lemma getStr_make_device_id : (make slot psu target).getStr "device_id" = some slot := by
  simp [make, Json.getStr, Json.get, Json.asStr]

lemma getStr_make_version : (make slot psu target).getStr "version" = psu.getStr "Version" := by
  simp [make, Json.getStr, Json.get, Json.lookup_cons, asStr_ofOption]

lemma getStr_make_state : (make slot psu target).getStr "state" = psu.getStr "state" := by
  simp [make, Json.getStr, Json.get, Json.lookup_cons, asStr_ofOption]

lemma getStr_make_status : (make slot psu target).getStr "status" = psu.getStr "status" := by
  simp [make, Json.getStr, Json.get, Json.lookup_cons, asStr_ofOption]

lemma isIdle_make :
    isIdle (make slot psu target) = ((psu.get "updateProgress").bind Json.asU64 == some 0) := by
  simp [make, isIdle, Json.get, Json.lookup_cons, asU64_ofOption]

lemma isAtTarget_make : isAtTarget (make slot psu target) = Liteon.responseReadyAtTarget psu target := by
  simp [make, isAtTarget, Json.get, Json.lookup_cons, Json.asBool]

end DeviceEntry

structure Closes (s t : RecoveryState) (result : PollResult) : Prop where
  ok : result.1 = true
  terminal : t.terminal = some result.2
  deadline : t.deadline = s.deadline
  pendingPush : t.pendingPush = s.pendingPush

structure GoesOn (s t : RecoveryState) (result : PollResult) : Prop where
  running : result.2.getStr "TaskState" = some "Running"
  terminal : t.terminal = s.terminal
  deadline : t.deadline = s.deadline
  pendingPush : t.pendingPush = s.pendingPush

/-- The result reports a completed update. -/
def Completed (result : PollResult) : Prop := result.2.getStr "TaskState" = some "Completed"

lemma Closes.result_eq {s t : RecoveryState} {result : PollResult} (h : Closes s t result) {terminal : Json}
    (hterminal : t.terminal = some terminal) : result = (true, terminal) := by
  cases h.terminal.symm.trans hterminal
  exact Prod.ext h.ok rfl

lemma GoesOn.not_completed {s t : RecoveryState} {result : PollResult} (h : GoesOn s t result) :
    ¬Completed result := by
  rw [Completed, h.running]
  simp

namespace RecoveryState

variable {s t : RecoveryState} {result : PollResult} {id : String} {now : Instant}

lemma taskState_annotate (s : RecoveryState) (id : String) (details : Json) :
    (s.annotate id details).getStr "TaskState" = details.getStr "TaskState" := by
  simp only [annotate, Json.getStr, Json.get_insert_of_ne (show "TaskState" ≠ "repush_attempts" by decide),
    Json.get_insert_of_ne (show "TaskState" ≠ "monitored_task_id" by decide),
    Json.get_insert_of_ne (show "TaskState" ≠ "Id" by decide)]

lemma taskState_running (s : RecoveryState) (id : String) :
    (s.running id).getStr "TaskState" = some "Running" :=
  s.taskState_annotate id _

lemma finish_closes (s : RecoveryState) (id : String) (details : Json) :
    Closes s (s.finish id details).2 (s.finish id details).1 := ⟨rfl, rfl, rfl, rfl⟩

lemma fail_closes (s : RecoveryState) (id message : String) :
    Closes s (s.fail id message).2 (s.fail id message).1 := s.finish_closes id _

lemma fail_not_completed (s : RecoveryState) (id message : String) : ¬Completed (s.fail id message).1 := by
  simp only [Completed, fail, finish, taskState_annotate]
  simp [Json.getStr, Json.get, Json.asStr]

lemma expired_closes (h : s.expired now id = some (result, t)) : Closes s t result ∧ ¬Completed result := by
  unfold expired at h
  split at h
  · cases h
    exact ⟨s.fail_closes _ _, s.fail_not_completed _ _⟩
  · split at h
    · cases h
      exact ⟨s.fail_closes _ _, s.fail_not_completed _ _⟩
    · cases h

lemma expired_eq_none_iff :
    s.expired now id = none ↔ now < s.deadline ∧
      ∀ since ∈ s.offlineSince, now - since < pmcOfflineTimeout := by
  unfold expired
  split
  · rename_i hdeadline
    simp [Nat.not_lt.mpr hdeadline]
  · rename_i hdeadline
    cases hsince : s.offlineSince with
    | none => simpa using hdeadline
    | some since => simpa using fun _ => Nat.lt_of_not_le hdeadline

lemma unavailable_cases (s : RecoveryState) (now : Instant) (id : String) (started : Instant) :
    (Closes s (s.unavailable now id started).2 (s.unavailable now id started).1 ∧
        ¬Completed (s.unavailable now id started).1) ∨
      GoesOn s (s.unavailable now id started).2 (s.unavailable now id started).1 ∧
        (s.unavailable now id started).2.idleSince = none := by
  let offline : RecoveryState :=
    { s with offlineSince := some (s.offlineSince.getD started), idleSince := none }
  have heq : s.unavailable now id started =
    (offline.expired now id).getD ((true, offline.running id), offline) := rfl
  cases hexpired : offline.expired now id with
  | some ended =>
    obtain ⟨hcloses, hcompleted⟩ := expired_closes hexpired
    rw [heq, hexpired]
    exact .inl ⟨⟨hcloses.ok, hcloses.terminal, hcloses.deadline, hcloses.pendingPush⟩, hcompleted⟩
  | none =>
    rw [heq, hexpired]
    exact .inr ⟨⟨taskState_running _ id, rfl, rfl, rfl⟩, rfl⟩

lemma followTask_cases (s : RecoveryState) (id : String) (details : Json) :
    (Closes s (s.followTask id details).2 (s.followTask id details).1 ∧
      ¬Completed (s.followTask id details).1) ∨
      GoesOn s (s.followTask id details).2 (s.followTask id details).1 ∧
        (s.followTask id details).2.idleSince = none := by
  fun_cases followTask with
  | case1 hstate => exact .inl ⟨s.fail_closes _ _, s.fail_not_completed _ _⟩
  | case2 taskState hstate hkilled =>
    refine .inl ⟨s.finish_closes id details, ?_⟩
    change ¬(s.annotate id details).getStr "TaskState" = some "Completed"
    rw [taskState_annotate, hstate]
    rintro hcompleted
    cases hcompleted
    simp at hkilled
  | case3 => exact .inr ⟨⟨taskState_running _ id, rfl, rfl, rfl⟩, rfl⟩
  | case4 => exact .inr ⟨⟨taskState_running _ id, rfl, rfl, rfl⟩, rfl⟩

lemma taskVanished_goesOn (s : RecoveryState) (id : String) (blocker : Option String) :
    GoesOn s (s.taskVanished id blocker).2 (s.taskVanished id blocker).1 := by
  cases blocker with
  | none => exact ⟨taskState_running _ id, rfl, rfl, rfl⟩
  | some label => exact ⟨taskState_running _ id, rfl, rfl, rfl⟩

lemma repushBlocked_goesOn (s : RecoveryState) (id label : String) :
    GoesOn s (s.repushBlocked id label).2 (s.repushBlocked id label).1 :=
  ⟨taskState_running _ id, rfl, rfl, rfl⟩

/-- The upload that a step decides on. -/
structure Pushes (s t : RecoveryState) (now : Instant) : Prop where
  settled : ∃ since, s.idleSince = some since ∧ since + repushSettleTime ≤ now
  early : now < s.deadline
  deadline : t.deadline = s.deadline
  push : ∃ push, t.pendingPush = some push ∧ push.unknownOutcome.1 = true ∧
    t.terminal = some push.unknownOutcome.2 ∧ ¬Completed push.unknownOutcome

lemma settled_of_elapsed {idleSince : Option Instant} (h : ¬now - idleSince.getD now < repushSettleTime) :
    ∃ since, idleSince = some since ∧ since + repushSettleTime ≤ now := by
  have hpos : 0 < repushSettleTime := by decide
  have helapsed :
      ∀ now since settle : Nat, 0 < settle → ¬now - since < settle → since + settle ≤ now := by omega
  cases idleSince with
  | none =>
    rw [Option.getD_none, Nat.sub_self] at h
    exact absurd hpos h
  | some since => exact ⟨since, rfl, helapsed now since _ hpos h⟩

lemma repush_cases (s : RecoveryState) (now : Instant) (id : String) (status : Nat) (service : Json) :
    (GoesOn s (s.repush now id status service).2 (s.repush now id status service).1 ∧
        (s.repush now id status service).2.idleSince = some (s.idleSince.getD now) ∧
        (s.repush now id status service).2.lastValidation = s.lastValidation ∧
        (s.repush now id status service).2.phase = .pollTask) ∨
      (Closes s (s.repush now id status service).2 (s.repush now id status service).1 ∧
        ¬Completed (s.repush now id status service).1) ∨
      Pushes s (s.repush now id status service).2 now := by
  fun_cases repush with
  | case1 => exact .inl ⟨⟨taskState_running _ id, rfl, rfl, rfl⟩, rfl, rfl, rfl⟩
  | case2 idleSince _ hsettled expired hexpired =>
    obtain ⟨hcloses, hcompleted⟩ := expired_closes hexpired
    exact .inr (.inl ⟨⟨hcloses.ok, hcloses.terminal, hcloses.deadline, hcloses.pendingPush⟩, hcompleted⟩)
  | case3 idleSince timed hsettled hexpired hservice =>
    have hcloses :=
      timed.fail_closes id "UpdateService did not advertise HttpPushUri; no package was re-pushed"
    exact .inr (.inl
      ⟨⟨hcloses.ok, hcloses.terminal, hcloses.deadline, hcloses.pendingPush⟩, fail_not_completed _ _ _⟩)
  | case4 idleSince timed hsettled hexpired uri hservice counted unknownOutcome failed hfailed pushed =>
    have hearly : now < timed.deadline := (expired_eq_none_iff.mp hexpired).1
    have hcloses : Closes counted failed unknownOutcome := by
      have := counted.fail_closes id
        "Re-push outcome is unknown; automatic recovery stopped to avoid a duplicate upload"
      rwa [hfailed] at this
    have hcompleted : ¬Completed unknownOutcome := by
      have := counted.fail_not_completed id
        "Re-push outcome is unknown; automatic recovery stopped to avoid a duplicate upload"
      rwa [hfailed] at this
    exact .inr (.inr ⟨settled_of_elapsed hsettled, hearly, hcloses.deadline,
      ⟨uri, unknownOutcome⟩, rfl, hcloses.ok, hcloses.terminal, hcompleted⟩)

lemma repush_of_settled {since : Instant} {service : Json} {uri : String} (hidle : s.idleSince = some since)
    (hsettled : since + repushSettleTime ≤ now) (hexpired : s.expired now id = none)
    (huri : service.getStr "HttpPushUri" = some uri) (hne : uri ≠ "") :
    ∃ push, (s.repush now id 200 service).2.pendingPush = some push := by
  have helapsed : ¬now - s.idleSince.getD now < repushSettleTime := by
    have harith : ∀ now since settle : Nat, since + settle ≤ now → ¬now - since < settle := by omega
    rw [hidle]
    exact harith now since _ hsettled
  have hbudget := expired_eq_none_iff.mp hexpired
  have hopen :
      ({ s with blockedBy := none, idleSince := some (s.idleSince.getD now) } :
        RecoveryState).expired now id =
      none := expired_eq_none_iff.mpr hbudget
  have hservice : (service.getStr "HttpPushUri").filter (fun uri =>
      uri != "" && (200 : Nat) == 200) = some uri := by
    simp [huri, hne]
  simp only [repush, helapsed, hopen, hservice, ↓reduceIte]
  exact ⟨_, rfl⟩

lemma idleSince_recordValidation {validation : Json} {since : Instant}
    (h : (s.recordValidation validation).idleSince = some since) :
    s.idleSince = some since ∧ psuVersionsChanged s.lastValidation validation = false := by
  unfold recordValidation at h
  split at h
  · cases h
  · rename_i hchanged
    exact ⟨h, by simpa using hchanged⟩

lemma devices_report (devices : List Json) (target : Nat × Nat) :
    ((Poll.validationReport devices target).get "devices").bind Json.asArray = some devices := by
  simp [Poll.validationReport, Json.get, Json.lookup_cons, Json.asArray]

/-- A device entry without a failure whose fields can be read. -/
def HealthyEntry (device : Json) : Prop :=
  DeviceEntry.isFailed device = false ∧ DeviceEntry.isUnreadable device = false

lemma healthyEntry_of_not_any {devices : List Json} (hfailed : ¬devices.any DeviceEntry.isFailed = true)
    (hunreadable : ¬devices.any DeviceEntry.isUnreadable = true) {device : Json} (hmem : device ∈ devices) :
    HealthyEntry device := by
  rw [Bool.not_eq_true, any_eq_false] at hfailed hunreadable
  exact ⟨by simpa using hfailed device hmem, by simpa using hunreadable device hmem⟩

lemma judge_cases (s : RecoveryState) (now : Instant) (id : String) (devices : List Json)
    (target : Nat × Nat) :
    (∃ result t, s.judge now id (Poll.validationReport devices target) = some (result, t) ∧
      Closes s t result ∧
        (Completed result → ∀ device ∈ devices,
          HealthyEntry device ∧ DeviceEntry.isIdle device = true ∧ DeviceEntry.isAtTarget device = true)) ∨
      (∃ result t, s.judge now id (Poll.validationReport devices target) = some (result, t) ∧
        GoesOn s t result ∧
        t.idleSince = none) ∨
      s.judge now id (Poll.validationReport devices target) = none ∧
        (∀ device ∈ devices, HealthyEntry device ∧ DeviceEntry.isIdle device = true) ∧
        ∃ device ∈ devices, DeviceEntry.isAtTarget device = false := by
  fun_cases judge with
  | case1 hdevices =>
    rw [devices_report] at hdevices
    cases hdevices
  | case2 found hdevices hslots =>
    exact .inl ⟨_, _, rfl, s.fail_closes _ _, fun h => absurd h (s.fail_not_completed _ _)⟩
  | case3 found hdevices hslots hfailed =>
    exact .inl ⟨_, _, rfl, s.fail_closes _ _, fun h => absurd h (s.fail_not_completed _ _)⟩
  | case4 found hdevices hslots hfailed hunreadable =>
    obtain ⟨hcloses, hcompleted⟩ | hgoes := s.unavailable_cases now id now
    · exact .inl ⟨_, _, rfl, hcloses, fun h => absurd h hcompleted⟩
    · exact .inr (.inl ⟨_, _, rfl, hgoes⟩)
  | case5 found hdevices hslots hfailed hunreadable idle lagging hdone =>
    refine .inl ⟨_, _, rfl, s.finish_closes id _, fun _ => ?_⟩
    obtain rfl : devices = found := by rwa [devices_report, Option.some.injEq] at hdevices
    rw [Bool.and_eq_true, all_eq_true, beq_iff_eq, countP_eq_zero] at hdone
    intro device hmem
    exact ⟨healthyEntry_of_not_any hfailed hunreadable hmem,
      hdone.1 device hmem, by simpa using hdone.2 device hmem⟩
  | case6 found hdevices hslots hfailed hunreadable idle lagging hdone hbusy =>
    exact .inr (.inl ⟨_, _, rfl, ⟨taskState_running _ id, rfl, rfl, rfl⟩, rfl⟩)
  | case7 found hdevices hslots hfailed hunreadable idle lagging hdone hbusy =>
    obtain rfl : devices = found := by rwa [devices_report, Option.some.injEq] at hdevices
    have hidle : devices.all DeviceEntry.isIdle = true := by
      rwa [Bool.not_eq_true, Bool.not_eq_false'] at hbusy
    have hlagging : 0 < devices.countP (fun device => !DeviceEntry.isAtTarget device) := by
      apply Nat.pos_of_ne_zero
      intro hzero
      exact hdone (Bool.and_eq_true_iff.mpr ⟨hidle, beq_iff_eq.mpr hzero⟩)
    obtain ⟨device, hmem, hdevice⟩ := countP_pos_iff.mp hlagging
    refine .inr (.inr ⟨rfl, fun device hmem => ?_, device, hmem, by simpa using hdevice⟩)
    exact ⟨healthyEntry_of_not_any hfailed hunreadable hmem, all_eq_true.mp hidle device hmem⟩

lemma judge_eq_none {devices : List Json} {target : Nat × Nat} (hlength : devices.length = 6)
    (hslots : ∀ slot ∈ slots, ∃ device ∈ devices, device.getStr "device_id" = some slot)
    (hdevices : ∀ device ∈ devices, HealthyEntry device ∧ DeviceEntry.isIdle device = true)
    (hlagging : ∃ device ∈ devices, DeviceEntry.isAtTarget device = false) :
    s.judge now id (Poll.validationReport devices target) = none := by
  have hall :
      slots.all (fun slot => devices.any (fun device => device.getStr "device_id" == some slot)) =
        true := by
    simpa [all_eq_true, any_eq_true] using hslots
  have hfailed : devices.any DeviceEntry.isFailed = false :=
    any_eq_false.mpr (fun device hmem => by simp [(hdevices device hmem).1.1])
  have hunreadable : devices.any DeviceEntry.isUnreadable = false :=
    any_eq_false.mpr (fun device hmem => by simp [(hdevices device hmem).1.2])
  have hidle : devices.all DeviceEntry.isIdle = true :=
    all_eq_true.mpr (fun device hmem => (hdevices device hmem).2)
  have hcount : devices.countP (fun device => !DeviceEntry.isAtTarget device) ≠ 0 := by
    obtain ⟨device, hmem, hdevice⟩ := hlagging
    exact (countP_pos_iff.mpr ⟨device, hmem, by simp [hdevice]⟩).ne'
  simp [judge, devices_report, hlength, hall, hfailed, hunreadable, hidle, hcount]

end RecoveryState

end RackManagement
