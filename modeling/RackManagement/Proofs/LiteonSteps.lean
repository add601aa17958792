import RackManagement.Proofs.LiteonReads

/-!
# What a recovery step can do

Every request of a step is a read, and every end of the step is listed with what it has read.
-/

namespace RackManagement

open Library Library.Interaction

/-- A PSU with a version, a state and a status that can be read, healthy and idle. -/
structure Settled (psu : Json) : Prop where
  version : ∃ version, (psu.getStr "Version").bind Liteon.parseVersionPair = some version
  state : ∃ value, psu.getStr "state" = some value ∧ trim value ≠ "" ∧
    Liteon.statusIsFailure (some value) = false
  status : ∃ value, psu.getStr "status" = some value ∧ trim value ≠ "" ∧
    Liteon.statusIsFailure (some value) = false
  progress : (psu.get "updateProgress").bind Json.asU64 = some 0

/-- The poll saw no outage or timeout, no task, and no PSU that is not settled. -/
structure Trace.Undisturbed (trace : Trace) : Prop where
  readable : ∀ exchange ∈ trace, exchange.2.2.Readable
  untracked :
    ∀ taskId reply, trace.Answered (.trackedTask taskId) reply → ∃ body, reply = .response 404 body
  tasks : trace.SeesNoTask
  psus : ∀ reading ∈ trace.psuReadings, Settled reading.2

lemma Validated.append {target : Nat × Nat} {trace more : Trace} {validation : Json}
    (h : Validated target trace validation) (hmore : more.psuReadings = []) :
    Validated target (trace ++ more) validation := by
  have hreadings : Trace.psuReadings (trace ++ more) = trace.psuReadings := by
    rw [Trace.psuReadings_append, hmore, List.append_nil]
  obtain ⟨collection, hanswered, hsix, hids⟩ := h.collection
  refine ⟨⟨collection, hanswered.mono (List.subset_append_left _ _), hsix, ?_⟩, ?_, ?_⟩
  · rw [hreadings, hids]
  · rw [hreadings]
    exact h.no_error
  · rw [hreadings]
    exact h.report

structure Rechecked (target : Nat × Nat) (trace : Trace) (now : Instant) (validation : Json) : Prop where
  validated : Validated target trace validation
  untracked : ∀ taskId reply, ¬trace.Answered (.trackedTask taskId) reply
  readsTasks : trace.ReadsClearTasks
  seesNoTask : trace.SeesNoTask
  readable : ∀ exchange ∈ trace, exchange.2.2.Readable
  answered_by : ∀ exchange ∈ trace, exchange.2.1 ≤ now
  reached : ∃ exchange ∈ trace, exchange.2.1 = now

inductive StepEnd (id updateFile : String) (s : RecoveryState) (trace : Trace) (now : Instant) :
    Except StepExit PollResult → RecoveryState → Prop
  | stopped {exit : StepExit} {t : RecoveryState} (recorded : RecoveryState)
    (hrecorded : recorded = s ∨ ∃ validation, recorded = s.recordValidation validation)
    (hexit : ReadExit recorded id now exit t) : StepEnd id updateFile s trace now (.error exit) t
  | unversioned : StepEnd id updateFile s trace now (.ok (s.fail id Poll.cannotDetermineMessage).1)
    (s.fail id Poll.cannotDetermineMessage).2
  | followed (details : Json) :
    StepEnd id updateFile s trace now (.ok (s.followTask id details).1) (s.followTask id details).2
  | taskBlocked (label : String) :
    StepEnd id updateFile s trace now (.ok (s.taskVanished id (some label)).1)
      (s.taskVanished id (some label)).2
  | vanished (hundisturbed : trace.Undisturbed) (hreadings : trace.psuReadings = []) :
    StepEnd id updateFile s trace now (.ok (s.taskVanished id none).1) (s.taskVanished id none).2
  | judged {result : PollResult} {t : RecoveryState} (target : Nat × Nat) (validation : Json)
    (htarget : Liteon.packageTargetVersion updateFile = some target)
    (hvalidated : Validated target trace validation)
    (hjudge : (s.recordValidation validation).judge now id validation = some (result, t)) :
    StepEnd id updateFile s trace now (.ok result) t
  | repushBlocked (validation : Json) (label : String) :
    StepEnd id updateFile s trace now (.ok ((s.recordValidation validation).repushBlocked id label).1)
      ((s.recordValidation validation).repushBlocked id label).2
  | repushed (target : Nat × Nat) (validation : Json) (earlier : Instant) (status : Nat) (service : Json)
    (htarget : Liteon.packageTargetVersion updateFile = some target)
    (hrechecked : Rechecked target trace now validation)
    (hjudge : (s.recordValidation validation).judge earlier id validation = none) :
    StepEnd id updateFile s trace now (.ok ((s.recordValidation validation).repush now id status service).1)
      ((s.recordValidation validation).repush now id status service).2

structure StepWait (s : RecoveryState) (since : Instant) (state : PollState) (q : LiteonRequest) :
    Prop where
  read : q.isUpload = false
  since_le : since ≤ state.now
  recovery_eq : state.recovery = s ∨ ∃ validation, state.recovery = s.recordValidation validation

namespace Poll

variable {id updateFile : String} {s : RecoveryState} {since : Instant}

/-- What is to be shown of a step from the state `s`. -/
def StepMeets (id updateFile : String) (s : RecoveryState) (since : Instant) :
    Trace → Interaction PollState LiteonRequest LiteonAnswer (Except StepExit PollResult) → Prop :=
  Meets LiteonSession.allowed (fun _ => StepWait s since) (fun trace state result =>
    since ≤ state.now ∧ StepEnd id updateFile s trace state.now result state.recovery)

lemma stepWait_of_reading (s : RecoveryState) (since : Instant) {recovery : RecoveryState}
    (hrecovery : recovery = s ∨ ∃ validation, recovery = s.recordValidation validation) :
    ∀ trace now q, Reading since trace now → q.isUpload = false → StepWait s since ⟨recovery, now⟩ q :=
  fun _ _ _ h hq => ⟨hq, h.since_le, hrecovery⟩

lemma stepEnd_of_stops (id updateFile : String) (s : RecoveryState) (since : Instant)
    {recovery : RecoveryState}
    (hrecovery : recovery = s ∨ ∃ validation, recovery = s.recordValidation validation) :
    ∀ (trace : Trace) state exit, Stops id recovery since state exit →
      since ≤ state.now ∧ StepEnd id updateFile s trace state.now (.error exit) state.recovery :=
  fun _ _ _ h => ⟨h.1, .stopped recovery hrecovery h.2⟩

variable {now : Instant}

lemma pollTaskPhase_meets (hreading : Reading since [] now) :
    StepMeets id updateFile s since [] (pollTaskPhase id ⟨s, now⟩) := by
  have hwait := stepWait_of_reading s since (.inl rfl)
  have hexit := stepEnd_of_stops id updateFile s since (.inl rfl)
  apply Meets.bind
  apply Meets.bind
  apply recoveryGet_meets hreading (hwait _ _ _ hreading rfl)
  · intro t details herror hread
    exact ⟨hread.since_le, .followed details⟩
  · intro _ t body hread
    apply Meets.bind
    apply blockingTask_meets hwait hread
    · intro more u hmore honly hclear hseen
      have hnil : Trace.psuReadings ([(.trackedTask s.taskId, (t, .response 404 body))] ++ more) = [] := by
        rw [Trace.psuReadings_append, honly.psuReadings_eq_nil (fun _ => rfl)]
        rfl
      refine ⟨hmore.since_le, .vanished ⟨hmore.readable, ?_, ?_, ?_⟩ hnil⟩
      · rintro taskId reply ⟨v, hv⟩
        obtain hv | hv := List.mem_append.mp hv
        · cases List.mem_singleton.mp hv
          exact ⟨body, rfl⟩
        · exact absurd ⟨v, hv⟩ (honly.not_answered rfl reply)
      · exact hseen.append (fun reply => Trace.not_answered_singleton (by simp) t reply _)
      · intro reading hreading
        rw [List.nil_append, hnil] at hreading
        simp at hreading
    · intro trace u label h
      exact ⟨h.since_le, .taskBlocked label⟩
    · exact hexit
  · exact hexit

lemma repushPackage_meets {trace : Trace} {target : Nat × Nat} {validation : Json} {earlier : Instant}
    (htarget : Liteon.packageTargetVersion updateFile = some target) (hreading : Reading since trace now)
    (honly : trace.Only LiteonRequest.isInventory) (hvalidated : Validated target trace validation)
    (hjudge : (s.recordValidation validation).judge earlier id validation = none) :
    StepMeets id updateFile s since trace (repushPackage id ⟨s.recordValidation validation, now⟩) := by
  have hwait := stepWait_of_reading s since (.inr ⟨validation, rfl⟩)
  have hexit := stepEnd_of_stops id updateFile s since
    (.inr ⟨validation, rfl⟩)
  apply Meets.bind
  apply recoveryGet_meets hreading (hwait _ _ _ hreading rfl)
  · intro t service herror hread
    apply Meets.bind
    apply blockingTask_meets hwait hread
    · intro more u hmore htasks hclear hseen
      refine ⟨hmore.since_le, .repushed target validation earlier 200 service htarget ?_ hjudge⟩
      have hserver : ∀ q, q ≠ .updateService → (∀ reply, ¬trace.Answered q reply) →
          ∀ reply, ¬Trace.Answered
            (trace ++ [(.updateService, (t, .response 200 (some service)))]) q reply :=
        fun q hq htrace =>
          Trace.not_answered_append htrace (fun reply => Trace.not_answered_singleton hq t reply _)
      refine ⟨?_, ?_, hclear.append _, ?_, hmore.readable, hmore.answered_by,
        hmore.reached.resolve_left (by simp)⟩
      · exact (hvalidated.append rfl).append (htasks.psuReadings_eq_nil (fun _ => rfl))
      · intro taskId
        exact Trace.not_answered_append (hserver _ (by simp) (honly.not_answered rfl))
          (htasks.not_answered rfl)
      · exact hseen.append (hserver _ (by simp) (honly.not_answered rfl))
    · intro trace u label h
      exact ⟨h.since_le, .repushBlocked validation label⟩
    · exact hexit
  · intro hallow
    cases hallow
  · exact hexit

lemma validatePhase_meets (hreading : Reading since [] now) :
    StepMeets id updateFile s since [] (validatePhase id updateFile ⟨s, now⟩) := by
  unfold validatePhase
  cases htarget : Liteon.packageTargetVersion updateFile with
  | none => exact ⟨hreading.since_le, .unversioned⟩
  | some target =>
    apply Meets.bind
    apply validation_meets (stepWait_of_reading s since (.inl rfl)) hreading
    · intro more t validation hmore honly hvalidated
      rw [List.nil_append] at hmore
      cases hjudge : (s.recordValidation validation).judge t id validation with
      | some verdict =>
        have hassess : assess id validation ⟨s, t⟩ = .done ⟨verdict.2, t⟩ (some verdict.1) := by
          simp only [assess, conclude, Program.transact, hjudge]
        apply Meets.bind
        rw [hassess]
        exact ⟨hmore.since_le, .judged target validation htarget hvalidated hjudge⟩
      | none =>
        have hassess : assess id validation ⟨s, t⟩ = .done ⟨s.recordValidation validation, t⟩ none := by
          simp only [assess, conclude, Program.transact, hjudge]
        apply Meets.bind
        rw [hassess]
        exact repushPackage_meets htarget hmore honly hvalidated hjudge
    · exact stepEnd_of_stops id updateFile s since (.inl rfl)

lemma recoveryStep_apply (id updateFile : String) (s : RecoveryState) (now : Instant) :
    recoveryStep id updateFile ⟨s, now⟩ =
      match s.phase with
      | .pollTask => pollTaskPhase id ⟨s, now⟩
      | .validate => validatePhase id updateFile ⟨s, now⟩ := by
  change ((match s.phase with | .pollTask => _ | .validate => _ : Poll (Except StepExit PollResult))
    ⟨s, now⟩) = _
  cases s.phase <;> rfl

lemma recoveryStep_meets (id updateFile : String) (s : RecoveryState) (hnow : since ≤ now) :
    StepMeets id updateFile s since [] (recoveryStep id updateFile ⟨s, now⟩) := by
  have hreading : Reading since [] now := ⟨hnow, by simp, .inl rfl, by simp⟩
  rw [recoveryStep_apply]
  cases s.phase with
  | pollTask => exact pollTaskPhase_meets hreading
  | validate => exact validatePhase_meets hreading

end Poll

end RackManagement
