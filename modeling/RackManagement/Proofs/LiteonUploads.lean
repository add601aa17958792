import RackManagement.Proofs.LiteonSessions

/-! # Uploads over the life of a task -/

namespace RackManagement.LiteonSession

open Library List

variable {updateFile taskId : String} {started : Instant} {session last : LiteonSession}
  {events : List LiteonEvent}

def traceUploads (trace : Trace) : Nat := trace.countP (fun exchange => exchange.1.isUpload)

/-- The uploads that a poll sent, answered or not. -/
def recordUploads (r : PollRecord) : Nat :=
  traceUploads r.exchanges + if r.unanswered.any LiteonRequest.isUpload then 1 else 0

def uploads (session : LiteonSession) : Nat := (session.polls.map recordUploads).sum

/-- The poll sent an upload and did not see it accepted with a task ID. -/
def Unresolved (r : PollRecord) : Prop :=
  (∃ uri, r.unanswered = some (.upload uri)) ∨
    ∃ uri answer, (.upload uri, answer) ∈ r.exchanges ∧ ¬answer.2.Accepted

/-- A poll sends no upload, or one that was authorised. -/
inductive UploadEffect (updateFile : String) (s : RecoveryState) (since : Instant) (r : PollRecord)
    (t : RecoveryState)
    (now : Instant) : Prop
  | quiet (hnone : recordUploads r = 0) (hresolved : ¬Unresolved r) (hsince : since ≤ now)
    (hdeadline : t.deadline = s.deadline) (hopen : t.terminal = none → s.terminal = none)
    (hidle : t.terminal = none → ∀ u, t.idleSince = some u → s.idleSince = some u ∨ u = now)
  | upload {reads : Trace} {sent : Instant} (hone : recordUploads r = 1) (hopen : s.terminal = none)
    (hauthorised : Authorised updateFile s reads sent) (hreads : reads ⊆ r.exchanges)
    (hsince : since ≤ sent)
    (hsent : sent ≤ now) (hanswered : ∀ exchange ∈ r.exchanges, exchange.2.1 ≤ now)
    (hdeadline : t.deadline = s.deadline)
    (hresolved : t.terminal = none → ¬Unresolved r ∧ t.idleSince = none)

variable {trace : Trace} {s t : RecoveryState} {since now : Instant} {records : List PollRecord}
  {r : PollRecord}

lemma traceUploads_of_onlyReads (h : trace.OnlyReads) : traceUploads trace = 0 := by
  apply countP_eq_zero.mpr
  intro exchange hmem
  simp [h exchange hmem]

lemma traceUploads_append (first second : Trace) :
    traceUploads (first ++ second) = traceUploads first + traceUploads second :=
  countP_append

variable {unanswered : Option LiteonRequest} {result : Option PollResult}

lemma not_unresolved_of_onlyReads (h : trace.OnlyReads)
    (hunanswered : unanswered.any LiteonRequest.isUpload = false) :
    ¬Unresolved ⟨trace, unanswered, result⟩ := by
  rintro (⟨uri, huri⟩ | ⟨uri, answer, hmem, -⟩)
  · simp only at huri
    rw [huri] at hunanswered
    cases hunanswered
  · have hread := h _ hmem
    cases hread

lemma recordUploads_of_onlyReads (h : trace.OnlyReads)
    (hunanswered : unanswered.any LiteonRequest.isUpload = false) :
    recordUploads ⟨trace, unanswered, result⟩ = 0 := by
  simp [recordUploads, traceUploads_of_onlyReads h, hunanswered]

lemma uploadEffect_of_pollEnd {result : PollResult}
    (hsince : since ≤ now) (hend : PollEnd updateFile s since trace now result t) :
    UploadEffect updateFile s since ⟨trace, none, some result⟩ t now := by
  cases hend with
  | replayed hterminal htrace =>
    subst htrace
    have hnil : Trace.OnlyReads [] := by simp [Trace.OnlyReads]
    exact .quiet (recordUploads_of_onlyReads hnil rfl) (not_unresolved_of_onlyReads hnil rfl) hsince rfl
      (fun hnone => hnone) (fun _ u hu => .inl hu)
  | closed hopen hreads hcloses hcompleted =>
    apply UploadEffect.quiet (recordUploads_of_onlyReads hreads rfl)
      (not_unresolved_of_onlyReads hreads rfl) hsince
      hcloses.deadline (fun _ => hopen)
    intro hnone
    rw [hcloses.terminal] at hnone
    cases hnone
  | goesOn hopen hreads hgoes hclock =>
    apply UploadEffect.quiet (recordUploads_of_onlyReads hreads rfl)
      (not_unresolved_of_onlyReads hreads rfl) hsince
      hgoes.deadline (fun _ => hopen)
    intro _ u hu
    obtain hnone | ⟨hsame, -⟩ | ⟨hnow, -⟩ := hclock
    · rw [hnone] at hu
      cases hu
    · exact .inl (hsame ▸ hu)
    · rw [hnow] at hu
      exact .inr (Option.some.inj hu).symm
  | @uploaded reads uri answer sent _ _ hopen htrace hreads hauthorised hlater hsent hanswered houtcome =>
    subst htrace
    have hone : recordUploads ⟨reads ++ [(.upload uri, answer)], none, some result⟩ = 1 := by
      rw [recordUploads, traceUploads_append, traceUploads_of_onlyReads hreads]
      rfl
    have hall : ∀ exchange ∈ reads ++ [(.upload uri, answer)], exchange.2.1 ≤ now :=
      forall_mem_append.mpr ⟨fun exchange hmem =>
        (hauthorised.answered_by exchange hmem).trans hsent, by simpa using hanswered⟩
    obtain ⟨haccepted, hgoes, hidle⟩ | ⟨-, hcloses, -⟩ := houtcome
    · apply UploadEffect.upload hone hopen hauthorised
        (subset_append_left _ _) hlater hsent hall hgoes.deadline
      refine fun _ => ⟨?_, hidle⟩
      rintro (⟨other, hother⟩ | ⟨other, reply, hmem, hrefused⟩)
      · cases hother
      obtain hmem | hmem := mem_append.mp hmem
      · cases hreads _ hmem
      · cases mem_singleton.mp hmem
        exact hrefused haccepted
    · apply UploadEffect.upload hone hopen hauthorised
        (subset_append_left _ _) hlater hsent hall hcloses.deadline
      intro hnone
      rw [hcloses.terminal] at hnone
      cases hnone

lemma uploadEffect_of_pollWait {state : PollState}
    {q : LiteonRequest} (hwait : PollWait updateFile s since trace state q) :
    UploadEffect updateFile s since ⟨trace, some q, none⟩ state.recovery state.now := by
  cases hwait with
  | read hopen hreads hstep =>
    have hquiet : (some q).any LiteonRequest.isUpload = false := hstep.read
    have hframe : state.recovery.deadline = s.deadline ∧
        ∀ u, state.recovery.idleSince = some u → s.idleSince = some u := by
      obtain heq | ⟨validation, heq⟩ := hstep.recovery_eq
      · rw [heq]
        exact ⟨rfl, fun u hu => hu⟩
      · rw [heq]
        exact ⟨rfl, fun u hu => (RecoveryState.idleSince_recordValidation hu).1⟩
    exact .quiet (recordUploads_of_onlyReads hreads hquiet)
      (not_unresolved_of_onlyReads hreads hquiet) hstep.since_le
      hframe.1 (fun _ => hopen) (fun _ u hu => .inl (hframe.2 u hu))
  | upload uri hopen hreads hauthorised hsince hsent hterminal hcompleted hdeadline hpending =>
    have hone : recordUploads ⟨trace, some (.upload uri), none⟩ = 1 := by
      rw [recordUploads, traceUploads_of_onlyReads hreads]
      rfl
    apply UploadEffect.upload hone hopen hauthorised (List.Subset.refl _) hsince hsent
      (fun exchange hmem => (hauthorised.answered_by exchange hmem).trans hsent) hdeadline
    intro hnone
    rw [hterminal] at hnone
    cases hnone

lemma keptByPolls_of_uploadEffect {I : List PollRecord → PollState → Prop}
    (hlater : ∀ {records s now t}, I records ⟨s, now⟩ → now ≤ t → I records ⟨s, t⟩)
    (hstep : ∀ {records s since r t now}, I records ⟨s, since⟩ → UploadEffect updateFile s since r t now →
      I (records ++ [r]) ⟨t, now⟩) : KeptByPolls updateFile I where
  later := hlater
  ended h hsince hend := hstep h (uploadEffect_of_pollEnd hsince hend)
  dropped h hwait := hstep h (uploadEffect_of_pollWait hwait)

/-- Uploads are a settling period apart, counted from the start. -/
structure Spaced (started : Instant) (records : List PollRecord) (s : PollState) : Prop where
  deadline : s.recovery.deadline = started + liteonPsuUpdateTimeout
  bound : (records.map recordUploads).sum ≤ 11
  unresolved : ∀ r ∈ records, Unresolved r → s.recovery.terminal ≠ none
  elapsed : s.recovery.terminal = none →
    started + repushSettleTime * (records.map recordUploads).sum ≤ s.now
  idle : s.recovery.terminal = none → ∀ since, s.recovery.idleSince = some since →
    started + repushSettleTime * (records.map recordUploads).sum ≤ since

lemma Spaced.room {sent : Instant} (h : Spaced started records ⟨s, since⟩) (hopen : s.terminal = none)
    (hauthorised : Authorised updateFile s trace sent) : (records.map recordUploads).sum + 1 ≤ 11 ∧
      started + repushSettleTime * ((records.map recordUploads).sum + 1) ≤ sent := by
  obtain ⟨idleSince, hidle, hsettled⟩ := hauthorised.settled
  have hbefore := h.idle hopen idleSince hidle
  have hearly := hauthorised.early
  rw [h.deadline] at hearly
  have harith :
      ∀ start uploads idle sent : Nat, start + 300000000000 * uploads ≤ idle → idle + 300000000000 ≤ sent →
      sent < start + 3600000000000 → uploads + 1 ≤ 11 ∧
        start + 300000000000 * (uploads + 1) ≤ sent := by omega
  exact harith started _ idleSince sent hbefore hsettled hearly

lemma sum_uploads_snoc (records : List PollRecord) (r : PollRecord) :
    ((records ++ [r]).map recordUploads).sum = (records.map recordUploads).sum + recordUploads r := by
  simp

lemma Spaced.step (h : Spaced started records ⟨s, since⟩)
    (heffect : UploadEffect updateFile s since r t now) :
    Spaced started (records ++ [r]) ⟨t, now⟩ := by
  cases heffect with
  | quiet hnone hresolved hsince hdeadline hopen hidle =>
    have hsum : ((records ++ [r]).map recordUploads).sum = (records.map recordUploads).sum := by
      rw [sum_uploads_snoc, hnone, Nat.add_zero]
    refine ⟨hdeadline.trans h.deadline, hsum ▸ h.bound, ?_, ?_, ?_⟩
    · intro found hmem hfound hterminal
      obtain hmem | hmem := mem_append.mp hmem
      · exact h.unresolved found hmem hfound (hopen hterminal)
      · rw [mem_singleton.mp hmem] at hfound
        exact hresolved hfound
    · intro hterminal
      rw [hsum]
      exact (h.elapsed (hopen hterminal)).trans hsince
    · intro hterminal u hu
      rw [hsum]
      obtain hold | rfl := hidle hterminal u hu
      · exact h.idle (hopen hterminal) u hold
      · exact (h.elapsed (hopen hterminal)).trans hsince
  | upload hone hopen hauthorised hreads hsince hsent hanswered hdeadline hresolved =>
    obtain ⟨hbound, hroom⟩ := h.room hopen hauthorised
    refine ⟨hdeadline.trans h.deadline, ?_, ?_, ?_, ?_⟩
    · rw [sum_uploads_snoc, hone]
      exact hbound
    · intro found hmem hfound hterminal
      obtain hmem | hmem := mem_append.mp hmem
      · exact h.unresolved found hmem hfound hopen
      · rw [mem_singleton.mp hmem] at hfound
        exact (hresolved hterminal).1 hfound
    · intro _
      rw [sum_uploads_snoc, hone]
      exact hroom.trans hsent
    · intro hterminal u hu
      rw [(hresolved hterminal).2] at hu
      cases hu

lemma spaced_keptByPolls : KeptByPolls updateFile (Spaced started) :=
  keptByPolls_of_uploadEffect
    (fun h hle =>
      ⟨h.deadline, h.bound, h.unresolved, fun hnone => (h.elapsed hnone).trans hle, h.idle⟩) Spaced.step

lemma spaced_new (taskId : String) (started : Instant) :
    Spaced started [] ⟨.new taskId started, started⟩ where
  deadline := rfl
  bound := by simp
  unresolved := by simp
  elapsed _ := by simp
  idle _ since h := by cases h

/-- Later uploads are sent a settling period after everything in a poll with an earlier
one. -/
structure Apart (records : List PollRecord) (s : PollState) : Prop where
  earlier : s.recovery.terminal = none → ∀ r ∈ records, recordUploads r ≠ 0 → ∀ exchange ∈ r.exchanges,
    exchange.2.1 ≤ s.now ∧ ∀ since, s.recovery.idleSince = some since → exchange.2.1 ≤ since
  apart : ∀ before r, before ++ [r] <+: records → recordUploads r ≠ 0 →
    ∀ earlier ∈ before, recordUploads earlier ≠ 0 →
    ∃ last ∈ r.exchanges, ∀ exchange ∈ earlier.exchanges, exchange.2.1 + repushSettleTime ≤ last.2.1

lemma apart_snoc {s : PollState} (h : Apart records s)
    (hlast : recordUploads r ≠ 0 → ∀ earlier ∈ records, recordUploads earlier ≠ 0 →
      ∃ last ∈ r.exchanges, ∀ exchange ∈ earlier.exchanges, exchange.2.1 + repushSettleTime ≤ last.2.1)
    (before : List PollRecord) (found : PollRecord) (hinit : before ++ [found] <+: records ++ [r])
    (hfound : recordUploads found ≠ 0) (earlier : PollRecord) (hmem : earlier ∈ before)
    (hearlier : recordUploads earlier ≠ 0) :
    ∃ last ∈ found.exchanges, ∀ exchange ∈ earlier.exchanges, exchange.2.1 + repushSettleTime ≤
      last.2.1 := by
  obtain heq | hinit := prefix_concat_iff.mp hinit
  · obtain ⟨hbefore, hsingle⟩ := append_inj' heq rfl
    obtain rfl := singleton_inj.mp hsingle
    subst hbefore
    exact hlast hfound earlier hmem hearlier
  · exact h.apart before found hinit hfound earlier hmem hearlier

lemma Apart.step (h : Apart records ⟨s, since⟩) (heffect : UploadEffect updateFile s since r t now) :
    Apart (records ++ [r]) ⟨t, now⟩ := by
  cases heffect with
  | quiet hnone hresolved hsince hdeadline hopen hidle =>
    refine ⟨?_, apart_snoc h (fun hne => absurd hnone hne)⟩
    intro hterminal found hmem hfound exchange hexchange
    obtain hmem | hmem := mem_append.mp hmem
    · obtain ⟨hnow, hold⟩ := h.earlier (hopen hterminal) found hmem hfound exchange hexchange
      refine ⟨hnow.trans hsince, fun u hu => ?_⟩
      obtain hu | rfl := hidle hterminal u hu
      · exact hold u hu
      · exact hnow.trans hsince
    · rw [mem_singleton.mp hmem] at hfound
      exact absurd hnone hfound
  | upload hone hopen hauthorised hreads hsince hsent hanswered hdeadline hresolved =>
    refine ⟨?_, apart_snoc h ?_⟩
    · intro hterminal found hmem hfound exchange hexchange
      refine ⟨?_, fun u hu => ?_⟩
      · obtain hmem | hmem := mem_append.mp hmem
        · exact (h.earlier hopen found hmem hfound exchange hexchange).1.trans (hsince.trans hsent)
        · rw [mem_singleton.mp hmem] at hexchange
          exact hanswered exchange hexchange
      · rw [(hresolved hterminal).2] at hu
        cases hu
    · intro _ earlier hmem hearlier
      obtain ⟨idleSince, hidleSince, hsettled⟩ := hauthorised.settled
      obtain ⟨last, hlast, hnow⟩ := hauthorised.reached
      refine ⟨last, hreads hlast, fun exchange hexchange => ?_⟩
      have hbefore := (h.earlier hopen earlier hmem hearlier exchange hexchange).2 idleSince hidleSince
      rw [hnow]
      exact (Nat.add_le_add_right hbefore _).trans hsettled

lemma apart_keptByPolls : KeptByPolls updateFile Apart :=
  keptByPolls_of_uploadEffect (fun h hle => ⟨fun hnone r hmem hr exchange hexchange =>
    ⟨(h.earlier hnone r hmem hr exchange hexchange).1.trans hle,
      (h.earlier hnone r hmem hr exchange hexchange).2⟩,
      h.apart⟩) Apart.step

lemma apart_new (s : PollState) : Apart [] s where
  earlier := by simp
  apart before r hinit := by simp at hinit

/-- After an upload that was not seen to be accepted, no later poll sends anything. At most eleven
uploads are sent for a task. -/
theorem repush_never_replayed_and_bounded
    (hrun : run (step updateFile) (new taskId started) events = some session) :
    (∀ r ∈ session.records, Unresolved r → session.active = none ∧
        ∃ terminal, session.state.recovery.terminal = some terminal ∧
          ∀ more last, run (step updateFile) session more = some last →
            last.active = none ∧
              ∃ n, last.records = session.records ++ replicate n ⟨[], none, some (true, terminal)⟩) ∧
      (∀ before r, before ++ [r] <+: session.polls → recordUploads r ≠ 0 →
        ∀ earlier ∈ before, recordUploads earlier ≠ 0 →
          ∃ last ∈ r.exchanges, ∀ exchange ∈ earlier.exchanges, exchange.2.1 + repushSettleTime ≤
            last.2.1) ∧
      session.state.recovery.deadline = started + liteonPsuUpdateTimeout ∧ session.uploads ≤ 11 := by
  have hkept := kept_of_keptByPolls spaced_keptByPolls (spaced_new taskId started) hrun
  have hapart := kept_of_keptByPolls apart_keptByPolls (apart_new _) hrun
  refine ⟨?_, hapart.1.apart, hkept.1.deadline, hkept.1.bound⟩
  intro r hmem hunresolved
  cases hactive : session.active with
  | none =>
    have hne := hkept.1.unresolved r (mem_append_left _ hmem) hunresolved
    obtain ⟨terminal, hterminal⟩ := Option.ne_none_iff_exists'.mp hne
    refine ⟨rfl, terminal, hterminal, fun more last hmore => ?_⟩
    obtain ⟨⟨hlast, -⟩, hrecords⟩ := over_run ⟨hactive, hterminal⟩ hmore
    exact ⟨hlast, hrecords⟩
  | some waiting =>
    obtain ⟨s, since, hspaced, -, hwait⟩ := hkept.2 waiting hactive
    exact absurd hwait.opened.1 (hspaced.unresolved r hmem hunresolved)

def gone : LiteonReply := .response 404 none

/-- The tracked task is gone; the shelf is idle and incomplete. -/
def vanishedReplies : List LiteonReply := [gone, found [("Members", .array [])]]

def lingeringReplies : List LiteonReply :=
  inventoryReply :: replicate 6 (psuReply "0xf5 / 0xf5") ++
    [found [("HttpPushUri", .string "/upload")], found [("Members", .array [])]]

/-- The shelf stays idle and incomplete for more than the settling period, so that the package is uploaded again. -/
def settledPolls : List LiteonEvent :=
  pollAt (secs 1) vanishedReplies ++ pollAt (secs 2) lingeringReplies ++ pollAt (secs 60) vanishedReplies ++
    pollAt (secs 400) lingeringReplies

/-- The poll is dropped while it waits for the upload; another one follows. -/
def droppedPolls : List LiteonEvent := settledPolls ++ .drop :: pollAt (secs 460) []

theorem droppedPolls_never_replayed :
    ∃ session, run (step samplePackage) (new "7" 0) droppedPolls = some session ∧
      session.records.map CallRecord.unanswered = [none, none, none, some (.upload "/upload"), none] ∧
      session.active = none ∧ (∃ terminal, session.state.recovery.terminal = some terminal) ∧
        session.uploads ≤ 11 := by
  have hunanswered :
      (run (step samplePackage) (new "7" 0) droppedPolls).map (fun s =>
        s.records.map CallRecord.unanswered) =
      some [none, none, none, some (.upload "/upload"), none] := by decide +kernel
  obtain ⟨session, hrun, hunanswered⟩ := Option.map_eq_some_iff.mp hunanswered
  have hmem : some (.upload "/upload") ∈ session.records.map CallRecord.unanswered := by
    rw [hunanswered]
    decide
  obtain ⟨r, hmem, hr⟩ := mem_map.mp hmem
  obtain ⟨hreplayed, -, -, hbound⟩ := repush_never_replayed_and_bounded hrun
  obtain ⟨hactive, terminal, hterminal, -⟩ := hreplayed r hmem (.inl ⟨"/upload", hr⟩)
  exact ⟨session, hrun, hunanswered, hactive, ⟨terminal, hterminal⟩, hbound⟩

end RackManagement.LiteonSession
