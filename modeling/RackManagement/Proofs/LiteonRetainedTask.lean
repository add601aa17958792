import RackManagement.Proofs.LiteonUploads

/-!
# A retained finished task

Under a controller that retains the finished task, every other poll reads it and stops the settle
clock, so that the package is uploaded again by the first poll or by none.
-/

namespace RackManagement

open Library Library.Interaction LiteonSession List

/-- A controller whose answers do not change. -/
structure SteadyPmc where
  task : Json
  tasks : Json
  listed : String → Json
  inventory : Json
  psu : String → Json
  service : Json
  uploaded : LiteonReply

variable (pmc : SteadyPmc)

def SteadyPmc.reply : LiteonRequest → LiteonReply
  | .trackedTask _ => .response 200 (some pmc.task)
  | .taskCollection => .response 200 (some pmc.tasks)
  | .listedTask uri => .response 200 (some (pmc.listed uri))
  | .powerUnits => .response 200 (some pmc.inventory)
  | .powerUnit slot => .response 200 (some (pmc.psu slot))
  | .updateService => .response 200 (some pmc.service)
  | .upload _ => pmc.uploaded

/-- A body that a read accepts. -/
def Sane (body : Json) : Prop := body.isObject = true ∧ body.get "error" = none

/-- The list entry or the task itself says that it has finished. -/
def SteadyPmc.Finished (member : Json) : Prop :=
  (∃ taskState, member.getStr "TaskState" = some taskState ∧ Poll.isFinished taskState = true) ∨
    ∃ uri taskState, member.getStr "TaskState" = none ∧ member.getStr "@odata.id" = some uri ∧
      Sane (pmc.listed uri) ∧
      (pmc.listed uri).getStr "TaskState" = some taskState ∧ Poll.isFinished taskState = true

/-- The controller retains the finished task while the shelf is idle and incomplete. -/
structure SteadyPmc.Retains (pmc : SteadyPmc) (updateFile : String) (target : Nat × Nat) : Prop where
  target_eq : Liteon.packageTargetVersion updateFile = some target
  task : Sane pmc.task ∧
    ∃ taskState ∈ ["Completed", "Exception", "Failed"], pmc.task.getStr "TaskState" = some taskState
  tasks : Sane pmc.tasks ∧ ∃ members, (pmc.tasks.get "Members").bind Json.asArray = some members ∧
    Poll.isTruncated pmc.tasks members = false ∧ ∀ member ∈ members, pmc.Finished member
  service : Sane pmc.service ∧ ∃ uri, pmc.service.getStr "HttpPushUri" = some uri ∧ uri ≠ ""
  inventory : Sane pmc.inventory ∧ Poll.namesSixSlots pmc.inventory = true
  psus : ∀ slot ∈ slots, Sane (pmc.psu slot) ∧ Settled (pmc.psu slot)
  incomplete : ∃ slot ∈ slots, ((pmc.psu slot).getStr "Version").bind Liteon.parseVersionPair ≠ some target

/-- When a poll comes and when its requests are answered. -/
structure PollTimes where
  arrival : Instant
  answered : Nat → Instant

namespace PollTimes

variable (times : PollTimes) (pmc : SteadyPmc)

def env (past : Trace) (q : LiteonRequest) : LiteonAnswer := (times.answered past.length, pmc.reply q)

def clock (past : Trace) : Instant :=
  match past.length with
  | 0 => times.arrival
  | n + 1 => times.answered n

lemma clock_snoc (past : Trace) (exchange : LiteonExchange) :
    times.clock (past ++ [exchange]) = times.answered past.length := by
  simp [clock]

end PollTimes

section Play

variable (times : PollTimes) {pmc : SteadyPmc} (id : String) (s : RecoveryState) (past : Trace)

lemma receive_of_sane {body : Json} (hbody : Sane body) (allowMissing : Bool) (started now : Instant) :
    Poll.receive s id allowMissing started now (.response 200 (some body)) = (.ok (200, body), s) := by
  have hwell : Poll.wellFormed (some body) = some body := by
    simp [Poll.wellFormed, hbody.1, hbody.2]
  have hout : Poll.isOutage 200 = false := by decide
  simp [Poll.receive, hout, hwell]

lemma play_recoveryGet {q : LiteonRequest} {body : Json} (hbody : Sane body)
    (hreply : pmc.reply q = .response 200 (some body)) (allowMissing : Bool) :
    play (times.env pmc) past (Poll.recoveryGet q id allowMissing ⟨s, times.clock past⟩) =
      (past ++ [(q, times.env pmc past q)], ⟨s, times.clock (past ++ [(q, times.env pmc past q)])⟩,
        .ok (200, body)) := by
  rw [times.clock_snoc, Poll.recoveryGet_apply]
  simp only [play, PollTimes.env, hreply, receive_of_sane _ _ hbody]

lemma play_blockingMember {members : List Json} (hmembers : ∀ member ∈ members, pmc.Finished member) :
    ∃ more, Trace.OnlyReads more ∧
      play (times.env pmc) past (Poll.blockingMember id members ⟨s, times.clock past⟩) =
        (past ++ more, ⟨s, times.clock (past ++ more)⟩, .ok none) := by
  induction members generalizing past with
  | nil => exact ⟨[], by simp [Trace.OnlyReads], by rw [append_nil]; rfl⟩
  | cons member members ih =>
    rw [forall_mem_cons] at hmembers
    obtain ⟨taskState, hstate, hfinished⟩ |
      ⟨uri, taskState, hstate, huri, hsane, htask, hfinished⟩ := hmembers.1
    · obtain ⟨more, hreads, hplay⟩ := ih past hmembers.2
      refine ⟨more, hreads, ?_⟩
      simp only [Poll.blockingMember, hstate, hfinished, ↓reduceIte]
      exact hplay
    · let exchange : LiteonExchange := (.listedTask uri, times.env pmc past (.listedTask uri))
      obtain ⟨more, hreads, hplay⟩ := ih (past ++ [exchange]) hmembers.2
      refine ⟨exchange :: more, forall_mem_cons.mpr ⟨rfl, hreads⟩, ?_⟩
      rw [append_assoc] at hplay
      simp only [Poll.blockingMember, hstate, huri, Program.bind_apply]
      rw [play_bind, play_recoveryGet times id s past hsane rfl]
      simp only [htask, Option.any_some, hfinished, or_true, ↓reduceIte]
      exact hplay

variable {updateFile : String} {target : Nat × Nat} (hpmc : pmc.Retains updateFile target)

include hpmc

lemma play_blockingTask :
    ∃ more, Trace.OnlyReads more ∧ play (times.env pmc) past (Poll.blockingTask id ⟨s, times.clock past⟩) =
      (past ++ more, ⟨s, times.clock (past ++ more)⟩, .ok none) := by
  obtain ⟨hsane, members, hmembers, htruncated, hfinished⟩ := hpmc.tasks
  let exchange : LiteonExchange := (.taskCollection, times.env pmc past .taskCollection)
  obtain ⟨more, hreads, hplay⟩ := play_blockingMember times id s (past ++ [exchange]) hfinished
  refine ⟨exchange :: more, forall_mem_cons.mpr ⟨rfl, hreads⟩, ?_⟩
  rw [append_assoc] at hplay
  simp only [Poll.blockingTask, Program.bind_apply]
  rw [play_bind, play_recoveryGet times id s past hsane rfl]
  simp only [hmembers, htruncated, Bool.false_eq_true, ↓reduceIte]
  exact hplay

lemma play_readDevices {ids : List String} (hids : ∀ slot ∈ ids, slot ∈ slots) (devices : List Json) :
    ∃ more, Trace.OnlyReads more ∧
      play (times.env pmc) past (Poll.readDevices id target ids devices ⟨s, times.clock past⟩) =
        (past ++ more, ⟨s, times.clock (past ++ more)⟩,
          .ok (devices ++ ids.map (fun slot => DeviceEntry.make slot (pmc.psu slot) target))) := by
  induction ids generalizing past devices with
  | nil => exact ⟨[], by simp [Trace.OnlyReads], by rw [append_nil, map_nil, append_nil]; rfl⟩
  | cons slot ids ih =>
    rw [forall_mem_cons] at hids
    let exchange : LiteonExchange := (.powerUnit slot, times.env pmc past (.powerUnit slot))
    obtain ⟨more, hreads, hplay⟩ :=
      ih (past ++ [exchange]) hids.2 (devices ++ [DeviceEntry.make slot (pmc.psu slot) target])
    refine ⟨exchange :: more, forall_mem_cons.mpr ⟨rfl, hreads⟩, ?_⟩
    rw [append_assoc, append_assoc] at hplay
    simp only [Poll.readDevices, Program.bind_apply]
    rw [play_bind, play_recoveryGet times id s past (hpmc.psus slot hids.1).1 rfl]
    exact hplay

def SteadyPmc.report (pmc : SteadyPmc) (target : Nat × Nat) : Json :=
  Poll.validationReport
    ((Poll.collectionIds pmc.inventory).map (fun slot =>
      DeviceEntry.make slot (pmc.psu slot) target)) target

lemma play_validation :
    ∃ more, Trace.OnlyReads more ∧
      play (times.env pmc) past (Poll.validation id target ⟨s, times.clock past⟩) =
      (past ++ more, ⟨s, times.clock (past ++ more)⟩, .ok (pmc.report target)) := by
  obtain ⟨hsane, hsix⟩ := hpmc.inventory
  have hids : ∀ slot ∈ Poll.collectionIds pmc.inventory, slot ∈ slots :=
    fun slot hmem => (namesSlots_of_namesSixSlots hsix).2.mem_iff.mp hmem
  let exchange : LiteonExchange := (.powerUnits, times.env pmc past .powerUnits)
  obtain ⟨more, hreads, hplay⟩ := play_readDevices times id s (past ++ [exchange]) hpmc hids []
  refine ⟨exchange :: more, forall_mem_cons.mpr ⟨rfl, hreads⟩, ?_⟩
  rw [append_assoc] at hplay
  simp only [Poll.validation, Program.bind_apply]
  rw [play_bind, play_recoveryGet times id s past hsane rfl]
  simp only [hsix, Bool.not_true, Bool.false_eq_true, ↓reduceIte]
  change play _ _ (Interaction.bind _ _) = _
  rw [play_bind, hplay]
  rfl

omit hpmc in
lemma entry_of_settled {slot : String} {psu : Json} (h : Settled psu) :
    RecoveryState.HealthyEntry (DeviceEntry.make slot psu target) ∧
      DeviceEntry.isIdle (DeviceEntry.make slot psu target) = true := by
  obtain ⟨version, hversion⟩ := h.version
  obtain ⟨state, hstate, hstateText, hstateOk⟩ := h.state
  obtain ⟨status, hstatus, hstatusText, hstatusOk⟩ := h.status
  have herror : (DeviceEntry.make slot psu target).get "error" = none := by
    simp [DeviceEntry.make, Json.get, Json.lookup_cons]
  have hprogress : ((DeviceEntry.make slot psu target).get "updateProgress").bind Json.asU64 = some 0 := by
    simpa [DeviceEntry.make, Json.get, Json.lookup_cons, DeviceEntry.asU64_ofOption] using h.progress
  refine ⟨⟨?_, ?_⟩, ?_⟩
  · simp only [DeviceEntry.isFailed, DeviceEntry.getStr_make_state, DeviceEntry.getStr_make_status,
      hstate, hstatus,
      hstateOk, hstatusOk, Bool.or_self]
  · simp [DeviceEntry.isUnreadable, DeviceEntry.getStr_make_version, DeviceEntry.getStr_make_state,
      DeviceEntry.getStr_make_status, herror, hprogress, hversion, hstate, hstatus, hstateText, hstatusText]
  · rw [DeviceEntry.isIdle, hprogress]
    rfl

lemma judge_report (now : Instant) : s.judge now id (pmc.report target) = none := by
  have hperm := (namesSlots_of_namesSixSlots hpmc.inventory.2).2
  have hentries : ∀ slot ∈ Poll.collectionIds pmc.inventory,
      RecoveryState.HealthyEntry (DeviceEntry.make slot (pmc.psu slot) target) ∧
        DeviceEntry.isIdle (DeviceEntry.make slot (pmc.psu slot) target) = true :=
    fun slot hmem => entry_of_settled (hpmc.psus slot (hperm.mem_iff.mp hmem)).2
  obtain ⟨slot, hslot, hversion⟩ := hpmc.incomplete
  have hsettled := (hpmc.psus slot hslot).2
  have hlagging : DeviceEntry.isAtTarget (DeviceEntry.make slot (pmc.psu slot) target) = false := by
    rw [DeviceEntry.isAtTarget_make, Bool.eq_false_iff, ne_eq,
      hsettled.readyAtTarget_iff (hpmc.psus slot hslot).1.2]
    exact hversion
  apply RecoveryState.judge_eq_none
  · rw [length_map, hperm.length_eq]
    rfl
  · intro slot hslot
    exact ⟨_, mem_map_of_mem (hperm.mem_iff.mpr hslot), DeviceEntry.getStr_make_device_id _ _ _⟩
  · intro device hmem
    obtain ⟨slot, hslot, rfl⟩ := mem_map.mp hmem
    exact hentries slot hslot
  · exact ⟨_, mem_map_of_mem (hperm.mem_iff.mpr hslot), hlagging⟩

lemma play_repushPackage :
    ∃ more, Trace.OnlyReads more ∧ play (times.env pmc) past (Poll.repushPackage id ⟨s, times.clock past⟩) =
      (past ++ more,
        ⟨(s.repush (times.clock (past ++ more)) id 200 pmc.service).2, times.clock (past ++ more)⟩,
        .ok (s.repush (times.clock (past ++ more)) id 200 pmc.service).1) := by
  let exchange : LiteonExchange := (.updateService, times.env pmc past .updateService)
  obtain ⟨more, hreads, hplay⟩ := play_blockingTask times id s (past ++ [exchange]) hpmc
  refine ⟨exchange :: more, forall_mem_cons.mpr ⟨rfl, hreads⟩, ?_⟩
  rw [append_assoc] at hplay
  simp only [Poll.repushPackage, Program.bind_apply]
  rw [play_bind, play_recoveryGet times id s past hpmc.service.1 rfl]
  change play _ _ (Interaction.bind _ _) = _
  rw [play_bind, hplay]
  rfl

lemma play_validatePhase : ∃ more, Trace.OnlyReads more ∧
      play (times.env pmc) [] (Poll.validatePhase id updateFile ⟨s, times.clock []⟩) =
        (more, ⟨((s.recordValidation (pmc.report target)).repush
          (times.clock more) id 200 pmc.service).2, times.clock more⟩,
          .ok ((s.recordValidation (pmc.report target)).repush
            (times.clock more) id 200 pmc.service).1) := by
  obtain ⟨inventory, hinventory, hplay⟩ := play_validation times id s [] hpmc
  obtain ⟨more, hmore, hrepush⟩ :=
    play_repushPackage times id (s.recordValidation (pmc.report target)) ([] ++ inventory) hpmc
  refine ⟨inventory ++ more, forall_mem_append.mpr ⟨hinventory, hmore⟩, ?_⟩
  have hassess : Poll.assess id (pmc.report target) ⟨s, times.clock ([] ++ inventory)⟩ =
      .done ⟨s.recordValidation (pmc.report target), times.clock ([] ++ inventory)⟩ none := by
    simp only [Poll.assess, Poll.conclude, Program.transact,
      judge_report id (s.recordValidation (pmc.report target)) hpmc]
  simp only [Poll.validatePhase, hpmc.target_eq, Program.bind_apply]
  rw [play_bind, hplay]
  change play _ _ (Interaction.bind _ _) = _
  rw [play_bind, hassess]
  exact hrepush

lemma play_pollTaskPhase :
    ∃ more, Trace.OnlyReads more ∧ play (times.env pmc) [] (Poll.pollTaskPhase id ⟨s, times.clock []⟩) =
      (more, ⟨(s.followTask id pmc.task).2, times.clock more⟩, .ok (s.followTask id pmc.task).1) := by
  refine ⟨[(.trackedTask s.taskId, times.env pmc []
    (.trackedTask s.taskId))], by simp [Trace.OnlyReads, LiteonRequest.isUpload], ?_⟩
  change play _ _
    (Interaction.bind (Poll.recoveryGet (.trackedTask s.taskId) id true ⟨s, times.clock []⟩) _) = _
  rw [play_bind, play_recoveryGet times id s [] hpmc.task.1 rfl]
  rfl

end Play

/-- A poll under a steady controller: its exchanges, the state it leaves and its result. -/
def SteadyPmc.poll (updateFile id : String) (s : RecoveryState) (times : PollTimes) :
    Trace × PollState × PollResult :=
  play (times.env pmc) [] (Poll.poll updateFile id ⟨s, times.arrival⟩)

/-- The settle clock does not count in this phase, or it has been stopped. -/
def Stuck (s : RecoveryState) : Prop :=
  s.pendingPush = none ∧ (s.terminal ≠ none ∨ s.phase = .pollTask ∨ s.idleSince = none)

lemma traceUploads_ne_zero {reads trace : Trace} {uri : String} {answer : LiteonAnswer}
    (h : reads ++ [(.upload uri, answer)] <+: trace) : traceUploads trace ≠ 0 := by
  have hle : traceUploads (reads ++ [(.upload uri, answer)]) ≤ traceUploads trace := h.sublist.countP_le
  have hone : traceUploads [(.upload uri, answer)] = 1 := rfl
  rw [traceUploads_append] at hle
  omega

section Polls

variable {pmc : SteadyPmc} {updateFile : String} {target : Nat × Nat}
  (hpmc : pmc.Retains updateFile target) (id : String)
  {s : RecoveryState} {times : PollTimes}

lemma poll_of_step {trace : Trace} {state : PollState} {result : PollResult} (hopen : s.terminal = none)
    (hexpired : s.expired times.arrival id = none)
    (hstep : play (times.env pmc) [] (Poll.recoveryStep id updateFile ⟨s, times.arrival⟩) =
      (trace, state, .ok result)) :
    pmc.poll updateFile id s times = play (times.env pmc) trace (Poll.afterStep id result state) := by
  rw [SteadyPmc.poll, Poll.poll_of_open hopen hexpired, play_bind, hstep]
  rfl

include hpmc

section

variable (hopen : s.terminal = none)
include hopen

lemma poll_of_pollTask (hexpired : s.expired times.arrival id = none) (hphase : s.phase = .pollTask) :
    ∃ more, Trace.OnlyReads more ∧ pmc.poll updateFile id s times =
      play (times.env pmc) more (Poll.afterStep id (s.followTask id pmc.task).1
        ⟨(s.followTask id pmc.task).2, times.clock more⟩) := by
  obtain ⟨more, hreads, hplay⟩ := play_pollTaskPhase times id s hpmc
  refine ⟨more, hreads, poll_of_step id hopen hexpired ?_⟩
  rw [Poll.recoveryStep_apply, hphase]
  exact hplay

lemma poll_of_validate (hexpired : s.expired times.arrival id = none) (hphase : s.phase = .validate) :
    ∃ more, Trace.OnlyReads more ∧ pmc.poll updateFile id s times =
      play (times.env pmc) more (Poll.afterStep id
        ((s.recordValidation (pmc.report target)).repush (times.clock more) id 200 pmc.service).1
        ⟨((s.recordValidation (pmc.report target)).repush (times.clock more) id 200 pmc.service).2,
          times.clock more⟩) := by
  obtain ⟨more, hreads, hplay⟩ := play_validatePhase times id s hpmc
  refine ⟨more, hreads, poll_of_step id hopen hexpired ?_⟩
  rw [Poll.recoveryStep_apply, hphase]
  exact hplay

variable (hpending : s.pendingPush = none)
include hpending

omit hpmc in
lemma expired_poll {ended : PollResult × RecoveryState}
    (hexpired : s.expired times.arrival id = some ended) :
    traceUploads (pmc.poll updateFile id s times).1 = 0 ∧
      Stuck (pmc.poll updateFile id s times).2.1.recovery := by
  have hcloses := (RecoveryState.expired_closes hexpired).1
  rw [SteadyPmc.poll, Poll.poll_of_expired hopen hexpired]
  exact ⟨rfl, hcloses.pendingPush.trans hpending, .inl (by simp [play, hcloses.terminal])⟩

lemma pollTask_poll (hexpired : s.expired times.arrival id = none) (hphase : s.phase = .pollTask) :
    traceUploads (pmc.poll updateFile id s times).1 = 0 ∧
      Stuck (pmc.poll updateFile id s times).2.1.recovery := by
  obtain ⟨more, hreads, hpoll⟩ := poll_of_pollTask hpmc id hopen hexpired hphase
  obtain ⟨hcloses, -⟩ | ⟨hgoes, hidle⟩ := s.followTask_cases id pmc.task
  · have hnone := hcloses.pendingPush.trans hpending
    rw [hpoll, Poll.afterStep_of_none hnone]
    exact ⟨traceUploads_of_onlyReads hreads, hnone, .inl (by simp [play, hcloses.terminal])⟩
  · have hnone := hgoes.pendingPush.trans hpending
    rw [hpoll, Poll.afterStep_of_none hnone]
    exact ⟨traceUploads_of_onlyReads hreads, hnone, .inr (.inr hidle)⟩

lemma validate_poll (hexpired : s.expired times.arrival id = none) (hphase : s.phase = .validate) :
    (traceUploads (pmc.poll updateFile id s times).1 = 0 ∧
      Stuck (pmc.poll updateFile id s times).2.1.recovery) ∨
      ∃ reads t, RecoveryState.Pushes (s.recordValidation (pmc.report target)) t (times.clock reads) := by
  obtain ⟨more, hreads, hpoll⟩ := poll_of_validate hpmc id hopen hexpired hphase
  obtain ⟨hgoes, -, -, hnext⟩ | ⟨hcloses, -⟩ | hpushes :=
    (s.recordValidation (pmc.report target)).repush_cases (times.clock more) id 200 pmc.service
  · have hnone := hgoes.pendingPush.trans hpending
    rw [hpoll, Poll.afterStep_of_none hnone]
    exact .inl ⟨traceUploads_of_onlyReads hreads, hnone, .inr (.inl hnext)⟩
  · have hnone := hcloses.pendingPush.trans hpending
    rw [hpoll, Poll.afterStep_of_none hnone]
    exact .inl ⟨traceUploads_of_onlyReads hreads, hnone, .inl (by simp [play, hcloses.terminal])⟩
  · exact .inr ⟨more, _, hpushes⟩

end

lemma stuck_poll (hstuck : Stuck s) :
    traceUploads (pmc.poll updateFile id s times).1 = 0 ∧
      Stuck (pmc.poll updateFile id s times).2.1.recovery := by
  obtain ⟨hpending, hstuck⟩ := hstuck
  cases hopen : s.terminal with
  | some terminal =>
    rw [SteadyPmc.poll, Poll.poll_of_terminal hopen]
    exact ⟨rfl, hpending, .inl (by simp [play, hopen])⟩
  | none =>
    cases hexpired : s.expired times.arrival id with
    | some ended => exact expired_poll id hopen hpending hexpired
    | none =>
      cases hphase : s.phase with
      | pollTask => exact pollTask_poll hpmc id hopen hpending hexpired hphase
      | validate =>
        obtain h | ⟨reads, t, hpushes⟩ := validate_poll hpmc id hopen hpending hexpired hphase
        · exact h
        · obtain ⟨since, hsince, -⟩ := hpushes.settled
          have hidle := (RecoveryState.idleSince_recordValidation hsince).1
          simp [hopen, hphase, hidle] at hstuck

lemma uploads_of_settled (hopen : s.terminal = none) (hexpired : s.expired times.arrival id = none)
    (hphase : s.phase = .validate) {since : Instant} (hidle : s.idleSince = some since)
    (hunchanged : psuVersionsChanged s.lastValidation (pmc.report target) = false)
    (hsettled : ∀ reads, since + repushSettleTime ≤ times.clock reads)
    (htimely : ∀ reads, reads ≠ [] → reads <+: (pmc.poll updateFile id s times).1 → Trace.OnlyReads reads →
      s.expired (times.clock reads) id = none) :
    traceUploads (pmc.poll updateFile id s times).1 ≠ 0 := by
  obtain ⟨more, hreads, hpoll⟩ := poll_of_validate hpmc id hopen hexpired hphase
  let recorded := s.recordValidation (pmc.report target)
  have hrecorded : recorded.idleSince = some since := by
    simp only [recorded, RecoveryState.recordValidation, hunchanged, Bool.false_eq_true, ↓reduceIte, hidle]
  have hintime : s.expired (times.clock more) id = none := by
    by_cases hnil : more = []
    · rw [hnil]
      exact hexpired
    · apply htimely more hnil _ hreads
      rw [hpoll]
      exact prefix_play _ more
  have hbudget := RecoveryState.expired_eq_none_iff.mp hintime
  obtain ⟨uri, huri, hne⟩ := hpmc.service.2
  have hrecordedInTime : recorded.expired (times.clock more) id = none :=
    RecoveryState.expired_eq_none_iff.mpr hbudget
  obtain ⟨push, hpush⟩ := RecoveryState.repush_of_settled hrecorded (hsettled more) hrecordedInTime huri hne
  rw [hpoll, Poll.afterStep_of_some hpush]
  -- The upload is the first request after the reads.
  have hsent : more ++ [(.upload push.uri, times.env pmc more (.upload push.uri))] <+:
      (play (times.env pmc) more (Poll.dispatchRepush id push
        ⟨{ (recorded.repush (times.clock more) id 200 pmc.service).2 with pendingPush := none },
          times.clock more⟩)).1 :=
    prefix_play _ _
  exact traceUploads_ne_zero hsent

end Polls

namespace SteadyPmc

section Schedules

variable (pmc : SteadyPmc) (updateFile id : String)

/-- Requests are answered in order, and the reads of a poll within the budget of its step. -/
structure Timely (s : RecoveryState) (times : PollTimes) : Prop where
  arrival_le : times.arrival ≤ times.answered 0
  ordered : ∀ k, times.answered k ≤ times.answered (k + 1)
  in_budget : ∀ reads, reads ≠ [] → reads <+: (pmc.poll updateFile id s times).1 → Trace.OnlyReads reads →
    times.clock reads < times.arrival + s.stepBudget times.arrival

def next (s : RecoveryState) (times : PollTimes) : RecoveryState :=
  (pmc.poll updateFile id s times).2.1.recovery

/-- Each poll comes after the one before has ended and within a minute of its arrival, up to
the deadline. -/
def Continues (deadline : Instant) : RecoveryState → Instant → Instant → List PollTimes → Prop
  | _, last, _, [] => deadline ≤ last + secs 60
  | s, last, ended, times :: polls =>
    ended ≤ times.arrival ∧ times.arrival ≤ last + secs 60 ∧ pmc.Timely updateFile id s times ∧
      Continues deadline (pmc.next updateFile id s times) times.arrival
        (times.clock (pmc.poll updateFile id s times).1) polls

/-- A schedule of polls from an instant to the deadline. -/
def Covers (s : RecoveryState) (first : Instant) : List PollTimes → Prop
  | [] => False
  | times :: polls =>
    times.arrival = first ∧ pmc.Timely updateFile id s times ∧
      pmc.Continues updateFile id s.deadline (pmc.next updateFile id s times) first
        (times.clock (pmc.poll updateFile id s times).1) polls

/-- Some poll sends the package. -/
def Sends : RecoveryState → List PollTimes → Prop
  | _, [] => False
  | s, times :: polls =>
    traceUploads (pmc.poll updateFile id s times).1 ≠ 0 ∨ Sends (pmc.next updateFile id s times) polls

/-- The shelf had settled when the schedule starts, and the first poll looks at it. -/
structure ReadyToPush (target : Nat × Nat) (s : RecoveryState) (first : Instant) : Prop where
  phase : s.phase = .validate
  settled : ∃ since, s.idleSince = some since ∧ since + repushSettleTime ≤ first
  unchanged : psuVersionsChanged s.lastValidation (pmc.report target) = false
  online : ∀ since ∈ s.offlineSince, first - since < pmcOfflineTimeout

end Schedules

variable {pmc : SteadyPmc} {updateFile : String} {target : Nat × Nat}
  (hpmc : pmc.Retains updateFile target) {id : String}
  {s : RecoveryState}

lemma arrival_le_clock {times : PollTimes} (h : pmc.Timely updateFile id s times) (past : Trace) :
    times.arrival ≤ times.clock past := by
  unfold PollTimes.clock
  cases past.length with
  | zero => exact Nat.le_refl _
  | succ n =>
    induction n with
    | zero => exact h.arrival_le
    | succ n ih => exact ih.trans (h.ordered n)

/-- Within the budget of the step no budget of the recovery runs out. -/
lemma expired_eq_none_of_budget {started now : Instant} (hexpired : s.expired started id = none)
    (hnow : now < started + s.stepBudget started) : s.expired now id = none := by
  obtain ⟨hdeadline, honline⟩ := RecoveryState.expired_eq_none_iff.mp hexpired
  have hbefore :
      ∀ now start deadline step offline : Nat, now < start + min (min step (deadline - start)) offline →
      start < deadline → now < deadline := by omega
  have hreach :
      ∀ now start step rest offline since : Nat, now < start + min (min step rest)
        (offline - (start - since)) →
      start - since < offline → now - since < offline := by omega
  refine RecoveryState.expired_eq_none_iff.mpr ⟨hbefore now started s.deadline _ _ hnow hdeadline, ?_⟩
  intro since hsince
  apply hreach now started stepTimeout (s.deadline - started) pmcOfflineTimeout since _
    (honline since hsince)
  have hoffline : s.offlineSince = some since := hsince
  simpa only [RecoveryState.stepBudget, hoffline] using hnow

lemma stepBudget_pos {started : Instant} (hexpired : s.expired started id = none) :
    0 < s.stepBudget started := by
  obtain ⟨hdeadline, honline⟩ := RecoveryState.expired_eq_none_iff.mp hexpired
  have hpos : 0 < stepTimeout := by decide
  have hrest : 0 < s.deadline - started := Nat.sub_pos_of_lt hdeadline
  unfold RecoveryState.stepBudget
  cases hoffline : s.offlineSince with
  | none => exact Nat.lt_min.mpr ⟨Nat.lt_min.mpr ⟨hpos, hrest⟩, hpos⟩
  | some since =>
    have honline := honline since hoffline
    exact Nat.lt_min.mpr ⟨Nat.lt_min.mpr ⟨hpos, hrest⟩, Nat.sub_pos_of_lt honline⟩

lemma open_of_request {times : PollTimes} (h : (pmc.poll updateFile id s times).1 ≠ []) :
    s.terminal = none ∧ s.expired times.arrival id = none := by
  have hopen : s.terminal = none := by
    cases hterminal : s.terminal with
    | none => rfl
    | some terminal =>
      rw [SteadyPmc.poll, Poll.poll_of_terminal hterminal] at h
      exact absurd rfl h
  refine ⟨hopen, ?_⟩
  cases hexpired : s.expired times.arrival id with
  | none => rfl
  | some ended =>
    rw [SteadyPmc.poll, Poll.poll_of_expired hopen hexpired] at h
    exact absurd rfl h

def promptly (t : Instant) : PollTimes := ⟨t, fun _ => t⟩

lemma clock_promptly (t : Instant) (past : Trace) : (promptly t).clock past = t := by
  unfold PollTimes.clock
  cases past.length <;> rfl

lemma timely_promptly (s : RecoveryState) (t : Instant) : pmc.Timely updateFile id s (promptly t) where
  arrival_le := Nat.le_refl t
  ordered _ := Nat.le_refl t
  in_budget reads hne hinit hreads := by
    have hsent : (pmc.poll updateFile id s (promptly t)).1 ≠ [] :=
      fun hnil => hne (prefix_nil.mp (hnil ▸ hinit))
    have hexpired : s.expired t id = none := (open_of_request hsent).2
    rw [clock_promptly]
    exact Nat.lt_add_of_pos_right (stepBudget_pos hexpired)

/-- Prompt polls, one a minute. -/
def everyMinute : Nat → Instant → List PollTimes
  | 0, _ => []
  | n + 1, t => promptly t :: everyMinute n (t + secs 60)

lemma continues_everyMinute {deadline last ended : Instant} {n : Nat} (s : RecoveryState)
    (hended : ended ≤ last + secs 60) (hn : deadline ≤ last + secs 60 * (n + 1)) :
    pmc.Continues updateFile id deadline s last ended (everyMinute n (last + secs 60)) := by
  induction n generalizing s last ended with
  | zero => simpa [Continues, everyMinute] using hn
  | succ n ih =>
    refine ⟨hended, Nat.le_refl _, timely_promptly s _, ih _ ?_ ?_⟩
    · rw [clock_promptly]
      exact Nat.le_add_right _ _
    · have harith :
          ∀ last minute n : Nat, last + minute * (n + 1 + 1) = last + minute + minute * (n + 1) := by
        intro last minute n
        ring
      exact (harith last (secs 60) n) ▸ hn

variable {first : Instant}

lemma covers_everyMinute {n : Nat} (hn : s.deadline ≤ first + secs 60 * (n + 1)) :
    pmc.Covers updateFile id s first (everyMinute (n + 1) first) := by
  refine ⟨rfl, timely_promptly s first, continues_everyMinute _ ?_ hn⟩
  rw [clock_promptly]
  exact Nat.le_add_right _ _

include hpmc

lemma not_sends_of_stuck (hstuck : Stuck s) (polls : List PollTimes) :
    ¬pmc.Sends updateFile id s polls := by
  induction polls generalizing s with
  | nil => exact fun h => h
  | cons times polls ih =>
    obtain ⟨hnone, hnext⟩ := stuck_poll hpmc id hstuck
    rintro (huploads | hsends)
    · exact huploads hnone
    · exact ih hnext hsends

variable (hopen : s.terminal = none)
include hopen

lemma sends_of_ready (hdeadline : first + secs 600 < s.deadline)
    (h : pmc.ReadyToPush target s first) {polls : List PollTimes}
    (hcovers : pmc.Covers updateFile id s first polls) : pmc.Sends updateFile id s polls := by
  cases polls with
  | nil => exact hcovers.elim
  | cons times polls =>
    obtain ⟨rfl, htimely, -⟩ := hcovers
    obtain ⟨since, hidle, hsettled⟩ := h.settled
    have hexpired : s.expired times.arrival id = none :=
      RecoveryState.expired_eq_none_iff.mpr ⟨(Nat.le_add_right _ _).trans_lt hdeadline, h.online⟩
    refine .inl (uploads_of_settled hpmc id hopen hexpired h.phase hidle h.unchanged ?_ ?_)
    · intro reads
      exact hsettled.trans (arrival_le_clock htimely reads)
    · intro reads hne hinit hreads
      exact expired_eq_none_of_budget hexpired (htimely.in_budget reads hne hinit hreads)

lemma stuck_after_prompt_poll (hpending : s.pendingPush = none)
    (h : ¬pmc.ReadyToPush target s first) :
    traceUploads (pmc.poll updateFile id s (promptly first)).1 = 0 ∧
      Stuck (pmc.next updateFile id s (promptly first)) := by
  cases hexpired : s.expired (promptly first).arrival id with
  | some ended => exact expired_poll id hopen hpending hexpired
  | none =>
    cases hphase : s.phase with
    | pollTask => exact pollTask_poll hpmc id hopen hpending hexpired hphase
    | validate =>
      obtain hstuck | ⟨reads, t, hpushes⟩ := validate_poll hpmc id hopen hpending hexpired hphase
      · exact hstuck
      · obtain ⟨since, hsince, hsettled⟩ := hpushes.settled
        rw [clock_promptly] at hsettled
        obtain ⟨hidle, hunchanged⟩ := RecoveryState.idleSince_recordValidation hsince
        have honline := (RecoveryState.expired_eq_none_iff.mp hexpired).2
        exact absurd ⟨hphase, ⟨since, hidle, hsettled⟩, hunchanged, honline⟩ h

lemma sends_iff_ready (hpending : s.pendingPush = none)
    (hdeadline : first + secs 600 < s.deadline) :
    (∀ polls, pmc.Covers updateFile id s first polls → pmc.Sends updateFile id s polls) ↔
      pmc.ReadyToPush target s first := by
  constructor
  · intro hsends
    by_contra hnot
    obtain ⟨hnone, hstuck⟩ := stuck_after_prompt_poll hpmc hopen hpending hnot
    -- Enough prompt polls to reach the deadline.
    have hn : s.deadline ≤ first + secs 60 * (s.deadline + 1) := by
      have hle : ∀ deadline first minute : Nat, 1 ≤ minute →
          deadline ≤ first + minute * (deadline + 1) := by
        intro deadline first minute hminute
        nlinarith
      exact hle _ _ _ (by decide)
    obtain huploads | hlater := hsends _ (covers_everyMinute hn)
    · exact huploads hnone
    · exact not_sends_of_stuck hpmc hstuck _ hlater
  · intro hready polls hcovers
    exact sends_of_ready hpmc hopen hdeadline hready hcovers

end SteadyPmc

namespace LiteonSession

variable {updateFile taskId : String} {started : Instant} {session : LiteonSession}
  {events : List LiteonEvent}

lemma pendingPush_eq_none (hrun : run (step updateFile) (new taskId started) events = some session) :
    session.state.recovery.pendingPush = none := by
  have hkept : KeptByPolls updateFile (fun _ s => s.recovery.pendingPush = none) :=
    ⟨fun h _ => h, fun h _ hend => hend.pendingPush h, fun h hwait => hwait.pendingPush h⟩
  exact (kept_of_keptByPolls hkept rfl hrun).1

/-- A controller that retains the completed task and an idle shelf that did not take the package. -/
def retainingPmc : SteadyPmc where
  task := .object [("TaskState", .string "Completed")]
  tasks := .object [("Members", .array [.object [("TaskState", .string "Completed")]])]
  listed _ := .null
  inventory := .object inventoryFields
  psu _ := .object (psuFields "0xf5 / 0xf5")
  service := .object [("HttpPushUri", .string "/upload")]
  uploaded := gone

lemma retainingPmc_retains : retainingPmc.Retains samplePackage (0xf6, 0xf8) where
  target_eq := by decide +kernel
  task := ⟨⟨rfl, by decide⟩, "Completed", by decide, by decide⟩
  tasks := by
    refine ⟨⟨rfl, by decide⟩, [.object [("TaskState", .string "Completed")]], rfl, by decide, ?_⟩
    intro member hmember
    rw [mem_singleton] at hmember
    exact .inl ⟨"Completed", by rw [hmember]; decide, by decide⟩
  service := ⟨⟨rfl, by decide⟩, "/upload", by decide, by decide⟩
  inventory := ⟨⟨rfl, by decide⟩, by decide +kernel⟩
  psus _ _ := by
    change Sane (.object (psuFields "0xf5 / 0xf5")) ∧ Settled (.object (psuFields "0xf5 / 0xf5"))
    refine ⟨⟨rfl, by decide⟩, ⟨(0xf5, 0xf5), by decide +kernel⟩, ⟨"Enabled", by decide, ?_⟩,
      ⟨"OK", by decide, ?_⟩, by decide⟩
    · decide +kernel
    · decide +kernel
  incomplete := ⟨"1", by decide, by decide +kernel⟩

/-- While the controller retains the finished task, every schedule of polls uploads the package
again if and only if the shelf had settled before and the first poll looks at it. -/
theorem retained_task_repush_iff (hrun : run (step updateFile) (new taskId started) events = some session)
    (hopen : session.state.recovery.terminal = none) {pmc : SteadyPmc} {target : Nat × Nat}
    (hpmc : pmc.Retains updateFile target) {first : Instant}
    (hdeadline : first + secs 600 < session.state.recovery.deadline) (id : String) :
    (∀ polls, pmc.Covers updateFile id session.state.recovery first polls →
        pmc.Sends updateFile id session.state.recovery polls) ↔
      pmc.ReadyToPush target session.state.recovery first :=
  SteadyPmc.sends_iff_ready hpmc hopen (pendingPush_eq_none hrun) hdeadline

/-- The last validation was made at 2 s, and the task has vanished once more since. -/
def lingeringPolls : List LiteonEvent :=
  pollAt (secs 1) vanishedReplies ++ pollAt (secs 2) lingeringReplies ++ pollAt (secs 60) vanishedReplies

theorem lingeringPolls_repush :
    ∃ session, run (step samplePackage) (new "7" 0) lingeringPolls = some session ∧
      ∀ polls, retainingPmc.Covers samplePackage "7" session.state.recovery (secs 400) polls →
        retainingPmc.Sends samplePackage "7" session.state.recovery polls := by
  have hstate : (run (step samplePackage) (new "7" 0) lingeringPolls).map (fun session =>
      let s := session.state.recovery
      (s.phase, s.idleSince, s.offlineSince, s.terminal.isSome, s.deadline,
        psuVersionsChanged s.lastValidation (retainingPmc.report (0xf6, 0xf8)))) =
      some (.validate, some (secs 2), none, false, liteonPsuUpdateTimeout, false) := by decide +kernel
  obtain ⟨session, hrun, hstate⟩ := Option.map_eq_some_iff.mp hstate
  simp only [Prod.mk.injEq, Option.isSome_eq_false_iff, Option.isNone_iff_eq_none] at hstate
  obtain ⟨hphase, hidle, hoffline, hopen, hdeadline, hunchanged⟩ := hstate
  have hready : retainingPmc.ReadyToPush (0xf6, 0xf8) session.state.recovery (secs 400) :=
    ⟨hphase, ⟨secs 2, hidle, by decide⟩, hunchanged, by simp [hoffline]⟩
  refine ⟨session, hrun, (retained_task_repush_iff hrun hopen retainingPmc_retains ?_ "7").mpr hready⟩
  rw [hdeadline]
  decide

/-- From the start of the recovery on, an hour of prompt polls sends nothing. -/
theorem retainingPmc_blocks : retainingPmc.Retains samplePackage (0xf6, 0xf8) ∧
      retainingPmc.Covers samplePackage "7" (new "7" 0).state.recovery 0 (SteadyPmc.everyMinute 60 0) ∧
      ¬retainingPmc.Sends samplePackage "7" (new "7" 0).state.recovery (SteadyPmc.everyMinute 60 0) := by
  refine ⟨retainingPmc_retains, SteadyPmc.covers_everyMinute (by decide), ?_⟩
  exact SteadyPmc.not_sends_of_stuck retainingPmc_retains ⟨rfl, .inr (.inr rfl)⟩ _

end LiteonSession

end RackManagement
