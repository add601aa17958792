import RackManagement.Proofs.LiteonPolls

/-!
# Polls of one task

Invariants of the polls made on one task, wherever a poll is dropped and however polls overlap.
-/

namespace RackManagement

open Library Library.Interaction List Option

abbrev PollRecord := CallRecord LiteonRequest LiteonAnswer PollResult

variable {s : RecoveryState} {since : Instant} {state : PollState} {q : LiteonRequest} {updateFile : String}
  {trace : Trace}

lemma StepWait.later {t : Instant}
    (h : StepWait s since state q) (ht : state.now ≤ t) : StepWait s since { state with now := t } q :=
  ⟨h.read, h.since_le.trans ht, h.recovery_eq⟩

section

variable (h : PollWait updateFile s since trace state q)
include h

lemma PollWait.later {t : Instant} (ht : state.now ≤ t) :
    PollWait updateFile s since trace { state with now := t } q := by
  cases h with
  | read hopen hreads hstep => exact .read hopen hreads (hstep.later ht)
  | upload uri hopen hreads hauthorised hsince hsent hterminal hcompleted hdeadline hpending =>
    exact .upload uri hopen hreads hauthorised hsince
      (hsent.trans ht) hterminal hcompleted hdeadline hpending

lemma PollWait.opened : s.terminal = none ∧ trace.OnlyReads := by
  cases h with
  | read hopen hreads => exact ⟨hopen, hreads⟩
  | upload uri hopen hreads => exact ⟨hopen, hreads⟩

lemma PollWait.pendingPush (hpending : s.pendingPush = none) : state.recovery.pendingPush = none := by
  cases h with
  | read hopen hreads hstep =>
    obtain heq | ⟨validation, heq⟩ := hstep.recovery_eq
    · rw [heq, hpending]
    · rw [heq]
      exact hpending
  | upload uri hopen hreads hauthorised hsince hsent hterminal hcompleted hdeadline hnone => exact hnone

end

lemma PollEnd.pendingPush {t : RecoveryState} {now : Instant}
    {result : PollResult} (h : PollEnd updateFile s since trace now result t)
    (hpending : s.pendingPush = none) :
    t.pendingPush = none := by
  cases h with
  | replayed hterminal htrace => exact hpending
  | closed hopen hreads hcloses hcompleted => exact hcloses.pendingPush.trans hpending
  | goesOn hopen hreads hgoes hclock => exact hgoes.pendingPush.trans hpending
  | uploaded hopen htrace hreads hauthorised hsince hsent hanswered houtcome =>
    obtain ⟨-, hgoes, -⟩ | ⟨-, hcloses, -⟩ := houtcome
    · exact hgoes.pendingPush.trans hpending
    · exact hcloses.pendingPush.trans hpending

/-- A property of the ended polls and the state that every poll keeps, wherever it ends or is
dropped. -/
structure KeptByPolls (updateFile : String) (I : List PollRecord → PollState → Prop) : Prop where
  later : ∀ {records s now t}, I records ⟨s, now⟩ → now ≤ t → I records ⟨s, t⟩
  ended : ∀ {records s since trace now result t}, I records ⟨s, since⟩ → since ≤ now →
    PollEnd updateFile s since trace now result t → I (records ++ [⟨trace, none, some result⟩]) ⟨t, now⟩
  dropped : ∀ {records s since trace state q}, I records ⟨s, since⟩ →
    PollWait updateFile s since trace state q → I (records ++ [⟨trace, some q, none⟩]) state

namespace LiteonSession

variable {updateFile taskId : String} {started : Instant} {I : List PollRecord → PollState → Prop}

/-- The polls that held the lock; the one in progress as if it were dropped now. -/
def polls (session : LiteonSession) : List PollRecord :=
  session.records ++
    (session.active.map (fun waiting => ⟨waiting.exchanges, some waiting.request, none⟩)).toList

/-- A poll in progress was started in a state that has the property. -/
def InProgress (updateFile : String) (I : List PollRecord → PollState → Prop) (records : List PollRecord)
    (trace : Trace) (state : PollState) (q : LiteonRequest) : Prop :=
  ∃ s since, I records ⟨s, since⟩ ∧ s.pendingPush = none ∧ PollWait updateFile s since trace state q

lemma keptByCalls (h : KeptByPolls updateFile I) :
    Session.KeptByCalls (fun call : PollCall => Poll.poll updateFile call.originalTaskId) arrive allowed
      (fun records s => I records s ∧ s.recovery.pendingPush = none) (InProgress updateFile I) where
  call records call s t hI harrive := by
    obtain ⟨hle, hsome⟩ := ite_none_right_eq_some.mp harrive
    cases hsome
    have hlater : I records ⟨s.recovery, call.instant⟩ := h.later hI.1 hle
    apply (Poll.poll_meets updateFile call.originalTaskId hI.2 (Nat.le_refl call.instant)).mono
    · intro trace state q hwait
      exact ⟨s.recovery, call.instant, hlater, hI.2, hwait⟩
    · rintro trace state result ⟨hsince, hend⟩
      exact ⟨h.ended hlater hsince hend, hend.pendingPush hI.2⟩
  contend records trace call s t q hwait harrive := by
    obtain ⟨hle, hsome⟩ := ite_none_right_eq_some.mp harrive
    cases hsome
    obtain ⟨recovery, since, hI, hpending, hpoll⟩ := hwait
    exact ⟨recovery, since, hI, hpending, hpoll.later hle⟩
  drop records trace s q hwait := by
    obtain ⟨recovery, since, hI, hpending, hpoll⟩ := hwait
    exact ⟨h.dropped hI hpoll, hpoll.pendingPush hpending⟩
  later call s t q answer harrive hallowed := by
    obtain ⟨hle, hsome⟩ := ite_none_right_eq_some.mp harrive
    cases hsome
    exact hle.trans hallowed

variable {session last : LiteonSession} {events : List LiteonEvent}

theorem kept_of_keptByPolls (h : KeptByPolls updateFile I) (hnew : I [] ⟨.new taskId started, started⟩)
    (hrun : run (step updateFile) (new taskId started) events = some session) :
    I session.polls session.state ∧
      ∀ waiting, session.active = some waiting →
        InProgress updateFile I session.records waiting.exchanges session.state waiting.request := by
  have hkept :=
    Session.kept_run (keptByCalls h) (show Session.Kept _ _ _ (new taskId started) from ⟨hnew, rfl⟩) hrun
  unfold Session.Kept at hkept
  cases hactive : session.active with
  | none =>
    rw [hactive] at hkept
    refine ⟨?_, fun waiting h => by cases h⟩
    simpa [polls, hactive] using hkept.1
  | some waiting =>
    rw [hactive] at hkept
    obtain ⟨s, since, hI, hpending, hwait⟩ := hkept.1
    refine ⟨?_, ?_⟩
    · simpa [polls, hactive] using h.dropped hI hwait
    · rintro other hother
      cases hother
      exact ⟨s, since, hI, hpending, hwait⟩

section Final

/-- A poll that returns the stored result and sends nothing. -/
def replay (terminal : Json) : PollRecord := ⟨[], none, some (true, terminal)⟩

/-- No poll is in progress and the terminal result is stored. -/
def Over (terminal : Json) (session : LiteonSession) : Prop :=
  session.active = none ∧ session.state.recovery.terminal = some terminal

lemma over_step {terminal : Json} {event : LiteonEvent} {next : LiteonSession} (h : Over terminal session)
    (hstep : step updateFile session event = some next) :
    Over terminal next ∧ next.records = session.records ++ [replay terminal] := by
  obtain ⟨hactive, hterminal⟩ := h
  cases event with
  | call call =>
    obtain ⟨s, harrive, hnext⟩ := bind_eq_some_iff.mp hstep
    obtain ⟨-, hs⟩ := ite_none_right_eq_some.mp harrive
    have hpoll : Poll.poll updateFile call.originalTaskId s = .done s (true, terminal) := by
      cases hs
      exact Poll.poll_of_terminal hterminal
    rw [hactive] at hnext
    simp only [hpoll] at hnext
    cases hnext
    cases hs
    exact ⟨⟨rfl, hterminal⟩, rfl⟩
  | answer answer =>
    obtain ⟨waiting, hwaiting, -⟩ := bind_eq_some_iff.mp hstep
    rw [hactive] at hwaiting
    cases hwaiting
  | drop =>
    obtain ⟨waiting, hwaiting, -⟩ := bind_eq_some_iff.mp hstep
    rw [hactive] at hwaiting
    cases hwaiting

lemma over_run {terminal : Json} (h : Over terminal session)
    (hrun : run (step updateFile) session events = some last) :
    Over terminal last ∧ ∃ n, last.records = session.records ++ replicate n (replay terminal) := by
  refine run_invariant (I := fun s => Over terminal s ∧
    ∃ n, s.records = session.records ++ replicate n (replay terminal))
    ?_ ⟨h, 0, by simp⟩ hrun
  rintro s event t ⟨hover, n, hn⟩ hstep
  obtain ⟨hnext, hrecords⟩ := over_step hover hstep
  exact ⟨hnext, n + 1, by rw [hrecords, hn, append_assoc, replicate_succ']⟩

end Final

section Verdicts

/-- Some poll gave this result after reading all six PSUs at the target. -/
def Justified (updateFile : String) (records : List PollRecord) (result : PollResult) : Prop :=
  ∃ r ∈ records, r.result = some result ∧
    ∃ target, Liteon.packageTargetVersion updateFile = some target ∧ Trace.AllAtTarget target r.exchanges

/-- Every verdict of completion is justified by a poll up to the one that gives it. -/
structure Sound (updateFile : String) (records : List PollRecord) (s : PollState) : Prop where
  stored : ∀ terminal, s.recovery.terminal = some terminal → Completed (true, terminal) →
    Justified updateFile records (true, terminal)
  given : ∀ before r, before ++ [r] <+: records → ∀ result, r.result = some result → Completed result →
    Justified updateFile (before ++ [r]) result

variable {records : List PollRecord}

lemma Justified.append {result : PollResult} (h : Justified updateFile records result)
    (r : PollRecord) : Justified updateFile (records ++ [r]) result := by
  obtain ⟨found, hmem, hfound⟩ := h
  exact ⟨found, mem_append_left [r] hmem, hfound⟩

lemma Sound.snoc {s t : PollState} (h : Sound updateFile records s) {r : PollRecord}
    (hgiven : ∀ result, r.result = some result → Completed result →
      Justified updateFile (records ++ [r]) result)
    (hstored : ∀ terminal, t.recovery.terminal = some terminal → Completed (true, terminal) →
      s.recovery.terminal = some terminal ∨ r.result = some (true, terminal)) :
    Sound updateFile (records ++ [r]) t where
  stored terminal hterminal hcompleted := by
    obtain hold | hnew := hstored terminal hterminal hcompleted
    · exact (h.stored terminal hold hcompleted).append r
    · exact hgiven _ hnew hcompleted
  given before last hinit result hresult hcompleted := by
    obtain heq | hinit := prefix_concat_iff.mp hinit
    · obtain ⟨hbefore, hlast⟩ := append_inj' heq rfl
      obtain rfl := singleton_inj.mp hlast
      subst hbefore
      exact hgiven result hresult hcompleted
    · exact h.given before last hinit result hresult hcompleted

lemma sound_keptByPolls : KeptByPolls updateFile (Sound updateFile) where
  later h _ := ⟨h.stored, h.given⟩
  ended := by
    intro records s since trace now result t h hsince hend
    cases hend with
    | replayed hterminal htrace =>
      apply h.snoc
      · intro result hresult hcompleted
        cases hresult
        exact (h.stored _ hterminal hcompleted).append _
      · intro terminal hstored _
        exact .inl hstored
    | closed hopen hreads hcloses hcompleted =>
      apply h.snoc
      · intro result hresult hresultCompleted
        cases hresult
        obtain ⟨target, htarget, hread⟩ := hcompleted hresultCompleted
        exact ⟨⟨trace, none, some _⟩, by simp, rfl, target, htarget, hread⟩
      · intro terminal hterminal _
        exact .inr (congrArg some (hcloses.result_eq hterminal))
    | goesOn hopen hreads hgoes hclock =>
      apply h.snoc
      · intro result hresult hcompleted
        cases hresult
        exact absurd hcompleted hgoes.not_completed
      · intro terminal hterminal _
        exact .inl (hgoes.terminal ▸ hterminal)
    | uploaded hopen htrace hreads hauthorised hsince hsent hanswered houtcome =>
      obtain ⟨-, hgoes, -⟩ | ⟨-, hcloses, hincomplete⟩ := houtcome
      · apply h.snoc
        · intro result hresult hcompleted
          cases hresult
          exact absurd hcompleted hgoes.not_completed
        · intro terminal hterminal _
          exact .inl (hgoes.terminal ▸ hterminal)
      · apply h.snoc
        · intro result hresult hcompleted
          cases hresult
          exact absurd hcompleted hincomplete
        · intro terminal hterminal _
          exact .inr (congrArg some (hcloses.result_eq hterminal))
  dropped := by
    intro records s since trace state q h hwait
    apply h.snoc
    · intro result hresult
      cases hresult
    · intro terminal hterminal hcompleted
      cases hwait with
      | read hopen hreads hstep =>
        obtain heq | ⟨validation, heq⟩ := hstep.recovery_eq
        · exact .inl (heq ▸ hterminal)
        · rw [heq] at hterminal
          exact .inl hterminal
      | upload uri hopen hreads hauthorised hsince hsent hunknown hunknownCompleted =>
        cases hunknown.symm.trans hterminal
        exact absurd hcompleted hunknownCompleted

lemma sound_new (taskId : String) (started : Instant) :
    Sound updateFile [] ⟨.new taskId started, started⟩ where
  stored terminal h := by cases h
  given before r hinit := by simp at hinit

lemma contended_not_completed (id : String) : ¬Completed (Poll.contended id) := by
  simp [Completed, Poll.contended, Json.getStr, Json.get, Json.lookup_cons, Json.asStr]

/-- A poll says that the update is complete only if all six PSUs were read at the target version; a
stored result is returned by every later poll, which sends nothing. -/
theorem verdicts_sound_and_final (hrun : run (step updateFile) (new taskId started) events = some session) :
    (∀ before r, before ++ [r] <+: session.records → ∀ result, r.result = some result → Completed result →
        ∃ earlier ∈ before ++ [r], earlier.result = some result ∧
          ∃ target, Liteon.packageTargetVersion updateFile = some target ∧
            Trace.AllAtTarget target earlier.exchanges) ∧
      (∀ result ∈ session.contended, ¬Completed result) ∧
      ∀ terminal, session.active = none → session.state.recovery.terminal = some terminal →
        ∀ more last, run (step updateFile) session more = some last →
          last.active = none ∧ last.state.recovery.terminal = some terminal ∧
            ∃ n, last.records = session.records ++ replicate n ⟨[], none, some (true, terminal)⟩ := by
  have hkept := kept_of_keptByPolls sound_keptByPolls (sound_new taskId started) hrun
  refine ⟨?_, ?_, ?_⟩
  · intro before r hinit
    exact hkept.1.given before r (hinit.trans (prefix_append _ _))
  · have hbusy : ∀ call : PollCall, ¬Completed (Poll.contended call.originalTaskId) :=
      fun call => contended_not_completed call.originalTaskId
    have hnone : ∀ result ∈ (new taskId started).contended, ¬Completed result := by simp [new]
    exact Session.contended_run hbusy hnone hrun
  · intro terminal hactive hterminal more last hmore
    obtain ⟨⟨hactive, hterminal⟩, hrecords⟩ := over_run ⟨hactive, hterminal⟩ hmore
    exact ⟨hactive, hterminal, hrecords⟩

def resultStates (session : LiteonSession) : List (Option String) :=
  session.records.map (fun r => r.result.bind (fun result => result.2.getStr "TaskState"))

def found (fields : List (String × Json)) : LiteonReply := .response 200 (some (.object fields))

def psuFields (version : String) : List (String × Json) :=
  [("Version", .string version), ("state", .string "Enabled"), ("status", .string "OK"),
    ("updateProgress", .integer 0)]

def psuReply (version : String) : LiteonReply := found (psuFields version)

def inventoryFields : List (String × Json) :=
  [("Members",
    .array (slots.map (fun slot => .object [("@odata.id", .string ("/PowerUnits/powerdevice" ++ slot))])))]

def inventoryReply : LiteonReply := found inventoryFields

def pollAt (t : Instant) (replies : List LiteonReply) : List LiteonEvent :=
  .call ⟨t, "7"⟩ :: replies.map (fun reply => .answer (t, reply))

def samplePackage : String := "SP-2552-7RD_F6F8_x.bin"

/-- The task completes and the PSUs are found at the target. -/
def completedPolls : List LiteonEvent :=
  pollAt 0 [found [("TaskState", .string "Completed")]] ++
    pollAt 1 (inventoryReply :: replicate 6 (psuReply "0xf6 / 0xf8"))

theorem completedPolls_verdicts :
    ∃ session, run (step samplePackage) (new "7" 0) completedPolls = some session ∧
      resultStates session = [some "Running", some "Completed"] ∧
      ∃ r ∈ session.records, ∃ target, Liteon.packageTargetVersion samplePackage = some target ∧
        Trace.AllAtTarget target r.exchanges := by
  have hstates : (run (step samplePackage) (new "7" 0) completedPolls).map resultStates =
      some [some "Running", some "Completed"] := by decide +kernel
  obtain ⟨session, hrun, hstates⟩ := map_eq_some_iff.mp hstates
  refine ⟨session, hrun, hstates, ?_⟩
  obtain ⟨first, rest, hrecords, -, hrest⟩ := map_eq_cons_iff.mp hstates
  obtain ⟨second, others, hsecond, hresult, hnil⟩ := map_eq_cons_iff.mp hrest
  obtain ⟨result, hresult, hcompleted⟩ := bind_eq_some_iff.mp hresult
  have hall : [first] ++ [second] <+: session.records := by
    rw [hrecords, hsecond, map_eq_nil_iff.mp hnil]
    exact prefix_rfl
  obtain ⟨earlier, hmem, -, hread⟩ :=
    (verdicts_sound_and_final hrun).1 [first] second hall result hresult hcompleted
  exact ⟨earlier, hall.subset hmem, hread⟩

end Verdicts

end LiteonSession

end RackManagement
