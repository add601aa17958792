import RackManagement.Model.LiteonRecovery

/-! # What a poll has read -/

namespace RackManagement

open Library Library.Interaction List

abbrev Trace := List LiteonExchange

namespace LiteonRequest

def isUpload : LiteonRequest → Bool
  | .upload _ => true
  | _ => false

def isListedTask : LiteonRequest → Bool
  | .listedTask _ => true
  | _ => false

variable (q : LiteonRequest)

def isTaskList : Bool := q == .taskCollection || q.isListedTask

def isPowerUnit : LiteonRequest → Bool
  | .powerUnit _ => true
  | _ => false

def isInventory : Bool := q == .powerUnits || q.isPowerUnit

end LiteonRequest

/-- The reply has one of the two forms with which the recovery goes on reading. -/
def LiteonReply.Readable (reply : LiteonReply) : Prop :=
  (∃ body, reply = .response 200 (some body)) ∨ ∃ body, reply = .response 404 body

namespace Trace

variable (trace : Trace)

def Answered (request : LiteonRequest) (reply : LiteonReply) : Prop :=
  ∃ t, (request, (t, reply)) ∈ trace

def psuReadings : List (String × Json) :=
  trace.filterMap (fun exchange =>
    match exchange with
    | (.powerUnit slot, (_, .response 200 (some psu))) => some (slot, psu)
    | _ => none)

/-- The list entry itself says that the task has finished, or the task was read and has
finished or is gone. -/
def FinishedOrGone (member : Json) : Prop :=
  (∃ taskState, member.getStr "TaskState" = some taskState ∧ Poll.isFinished taskState) ∨
    ∃ uri, member.getStr "TaskState" = none ∧ member.getStr "@odata.id" = some uri ∧
      ((∃ body, trace.Answered (.listedTask uri) (.response 404 body)) ∨
        ∃ task taskState, trace.Answered (.listedTask uri) (.response 200 (some task)) ∧
          task.getStr "TaskState" = some taskState ∧ Poll.isFinished taskState)

/-- An unpaginated list of tasks that have finished or are gone. -/
def TasksClear (tasks : Json) : Prop :=
  ∃ members, (tasks.get "Members").bind Json.asArray = some members ∧
    Poll.isTruncated tasks members = false ∧
    ∀ member ∈ members, trace.FinishedOrGone member

def ReadsClearTasks : Prop :=
  ∃ tasks, trace.Answered .taskCollection (.response 200 (some tasks)) ∧ trace.TasksClear tasks

/-- No task list was read that is not clear. -/
def SeesNoTask : Prop :=
  ∀ reply, trace.Answered .taskCollection reply → ∃ tasks, reply = .response 200 (some tasks) ∧
    trace.TasksClear tasks

variable {trace more second : Trace} {q : LiteonRequest} {kind : LiteonRequest → Bool}

lemma Answered.mono (hmore : trace ⊆ more) {reply : LiteonReply}
    (h : trace.Answered q reply) : more.Answered q reply := by
  obtain ⟨t, ht⟩ := h
  exact ⟨t, hmore ht⟩

lemma FinishedOrGone.mono (hmore : trace ⊆ more) {member : Json}
    (h : trace.FinishedOrGone member) : more.FinishedOrGone member := by
  obtain h | ⟨uri, hstate, huri, ⟨body, hgone⟩ | ⟨task, taskState, hread, htask⟩⟩ := h
  · exact .inl h
  · exact .inr ⟨uri, hstate, huri, .inl ⟨body, hgone.mono hmore⟩⟩
  · exact .inr ⟨uri, hstate, huri, .inr ⟨task, taskState, hread.mono hmore, htask⟩⟩

lemma TasksClear.mono (hmore : trace ⊆ more) {tasks : Json} (h : trace.TasksClear tasks) :
    more.TasksClear tasks := by
  obtain ⟨members, hmembers, htruncated, hclear⟩ := h
  exact ⟨members, hmembers, htruncated, fun member hmember => (hclear member hmember).mono hmore⟩

lemma psuReadings_append (first second : Trace) :
    Trace.psuReadings (first ++ second) = first.psuReadings ++ second.psuReadings :=
  filterMap_append

def Only (kind : LiteonRequest → Bool) (trace : Trace) : Prop := ∀ exchange ∈ trace, kind exchange.1 = true

lemma Only.mono {other : LiteonRequest → Bool} (h : ∀ q, kind q = true → other q = true)
    (honly : trace.Only kind) : trace.Only other := fun exchange hmem => h _ (honly exchange hmem)

lemma Only.not_answered (h : trace.Only kind)
    (hq : kind q = false) (reply : LiteonReply) : ¬trace.Answered q reply := by
  rintro ⟨t, ht⟩
  have hkind := h _ ht
  simp [hq] at hkind

lemma not_answered_append {first : Trace} (hfirst : ∀ reply, ¬first.Answered q reply)
    (hsecond : ∀ reply, ¬second.Answered q reply) (reply : LiteonReply) :
    ¬Trace.Answered (first ++ second) q reply := by
  rintro ⟨t, ht⟩
  obtain ht | ht := mem_append.mp ht
  · exact hfirst reply ⟨t, ht⟩
  · exact hsecond reply ⟨t, ht⟩

lemma SeesNoTask.append {first : Trace} (hfirst : ∀ reply, ¬first.Answered .taskCollection reply)
    (h : second.SeesNoTask) : Trace.SeesNoTask (first ++ second) := by
  rintro reply ⟨t, ht⟩
  obtain ht | ht := mem_append.mp ht
  · exact absurd ⟨t, ht⟩ (hfirst reply)
  · obtain ⟨tasks, hreply, hclear⟩ := h reply ⟨t, ht⟩
    exact ⟨tasks, hreply, hclear.mono (subset_append_right _ _)⟩

lemma ReadsClearTasks.append (h : second.ReadsClearTasks) (first : Trace) :
    Trace.ReadsClearTasks (first ++ second) := by
  obtain ⟨tasks, hread, hclear⟩ := h
  exact ⟨tasks, hread.mono (subset_append_right _ _), hclear.mono (subset_append_right _ _)⟩

lemma not_answered_singleton {other : LiteonRequest} (h : q ≠ other) (t : Instant)
    (reply answer : LiteonReply) :
    ¬Trace.Answered [(other, (t, answer))] q reply := by
  rintro ⟨u, hu⟩
  cases mem_singleton.mp hu
  exact h rfl

lemma Only.psuReadings_eq_nil (h : trace.Only kind)
    (hkind : ∀ slot, kind (.powerUnit slot) = false) : trace.psuReadings = [] := by
  apply filterMap_eq_nil_iff.mpr
  rintro ⟨q, t, reply⟩ hmem
  have hq := h _ hmem
  cases q with
  | powerUnit slot => simp [hkind] at hq
  | _ => rfl

end Trace

/-- The inventory named the six slots, and `validation` reports what was read of them. -/
structure Validated (target : Nat × Nat) (trace : Trace) (validation : Json) : Prop where
  collection : ∃ collection, trace.Answered .powerUnits (.response 200 (some collection)) ∧
    Poll.namesSixSlots collection = true ∧ trace.psuReadings.map Prod.fst = Poll.collectionIds collection
  no_error : ∀ reading ∈ trace.psuReadings, reading.2.get "error" = none
  report : validation =
    Poll.validationReport (trace.psuReadings.map (fun r => DeviceEntry.make r.1 r.2 target)) target

/-- How a read can end the step. -/
inductive ReadExit (s : RecoveryState) (id : String) (now : Instant) : StepExit → RecoveryState → Prop
  | timedOut : ReadExit s id now .timedOut s
  | unavailable (started : Instant) :
    ReadExit s id now (.result (s.unavailable now id started).1) (s.unavailable now id started).2
  | failed (message : String) : ReadExit s id now (.result (s.fail id message).1) (s.fail id message).2

/-- A poll has been reading since an instant, and every reply allowed it to go on. -/
structure Reading (since : Instant) (trace : Trace) (now : Instant) : Prop where
  since_le : since ≤ now
  answered_by : ∀ exchange ∈ trace, exchange.2.1 ≤ now
  reached : trace = [] ∨ ∃ exchange ∈ trace, exchange.2.1 = now
  readable : ∀ exchange ∈ trace, exchange.2.2.Readable

lemma Reading.snoc {since now t : Instant} {trace : Trace} (h : Reading since trace now) (ht : now ≤ t)
    {q : LiteonRequest} {reply : LiteonReply} (hreply : reply.Readable) :
    Reading since (trace ++ [(q, (t, reply))]) t where
  since_le := h.since_le.trans ht
  answered_by exchange hmem := by
    obtain hmem | hmem := mem_append.mp hmem
    · exact (h.answered_by exchange hmem).trans ht
    · rw [mem_singleton.mp hmem]
  reached := .inr ⟨(q, (t, reply)), by simp, rfl⟩
  readable exchange hmem := by
    obtain hmem | hmem := mem_append.mp hmem
    · exact h.readable exchange hmem
    · rw [mem_singleton.mp hmem]
      exact hreply

namespace Poll

section Reads

variable {id : String} {recovery : RecoveryState} {since : Instant}
  {Wait : Trace → PollState → LiteonRequest → Prop}

/-- The step ends with a read that stops it. -/
def Stops (id : String) (recovery : RecoveryState) (since : Instant) (s : PollState)
    (exit : StepExit) : Prop :=
  since ≤ s.now ∧ ReadExit recovery id s.now exit s.recovery

lemma receive_cases (s : RecoveryState) (id : String) (allowMissing : Bool) (started now : Instant)
    (reply : LiteonReply) : (∃ body, reply = .response 200 (some body) ∧ body.get "error" = none ∧
        receive s id allowMissing started now reply = (.ok (200, body), s)) ∨
      (allowMissing = true ∧ ∃ body, reply = .response 404 body ∧
        receive s id allowMissing started now reply = (.ok (404, .object []), s)) ∨
      ∃ exit t, receive s id allowMissing started now reply = (.error exit, t) ∧
        ReadExit s id now exit t := by
  fun_cases receive with
  | case1 => exact .inr (.inr ⟨_, _, rfl, .timedOut⟩)
  | case2 status body hout => exact .inr (.inr ⟨_, _, rfl, .unavailable started⟩)
  | case3 status body hout hmissing =>
    obtain ⟨rfl, hallow⟩ := hmissing
    exact .inr (.inl ⟨hallow, body, rfl, rfl⟩)
  | case4 status body hout hmissing hstatus => exact .inr (.inr ⟨_, _, rfl, .failed _⟩)
  | case5 status body hout hmissing hstatus found hbody =>
    obtain rfl : status = 200 := by simpa using hstatus
    obtain ⟨rfl, hgood⟩ := Option.filter_eq_some_iff.mp hbody
    have herror : found.get "error" = none := by
      rw [Bool.and_eq_true, Option.isNone_iff_eq_none] at hgood
      exact hgood.2
    exact .inl ⟨found, rfl, herror, rfl⟩
  | case6 status body hout hmissing hstatus hbody => exact .inr (.inr ⟨_, _, rfl, .failed _⟩)
  | case7 reply htimeout hresponse => exact .inr (.inr ⟨_, _, rfl, .unavailable started⟩)

lemma recoveryGet_apply (id : String) (allowMissing : Bool) (s : RecoveryState) (now : Instant) :
    recoveryGet q id allowMissing ⟨s, now⟩ = .wait ⟨s, now⟩ q (fun answer =>
      .done ⟨(receive s id allowMissing now answer.1 answer.2).2, answer.1⟩
        (receive s id allowMissing now answer.1 answer.2).1) := rfl

variable {trace : Trace} {now : Instant}

lemma recoveryGet_meets {allowMissing : Bool} {q : LiteonRequest}
    {Post : Trace → PollState → Except StepExit (Nat × Json) → Prop}
    (hreading : Reading since trace now) (hwait : Wait trace ⟨recovery, now⟩ q)
    (hok : ∀ t body, body.get "error" = none →
      Reading since (trace ++ [(q, (t, .response 200 (some body)))]) t →
      Post (trace ++ [(q, (t, .response 200 (some body)))]) ⟨recovery, t⟩ (.ok (200, body)))
    (hmissing : allowMissing = true → ∀ t body,
      Reading since (trace ++ [(q, (t, .response 404 body))]) t →
      Post (trace ++ [(q, (t, .response 404 body))]) ⟨recovery, t⟩ (.ok (404, .object [])))
    (hexit : ∀ trace s exit, Stops id recovery since s exit → Post trace s (.error exit)) :
    Meets LiteonSession.allowed Wait Post trace (recoveryGet q id allowMissing ⟨recovery, now⟩) := by
  rw [recoveryGet_apply]
  refine ⟨hwait, ?_⟩
  rintro ⟨t, reply⟩ (ht : now ≤ t)
  simp only [Meets]
  obtain ⟨body, rfl, herror, heq⟩ | ⟨hallow, body, rfl, heq⟩ | ⟨exit, u, heq, hu⟩ :=
    receive_cases recovery id allowMissing now t reply
  · rw [heq]
    exact hok t body herror (hreading.snoc ht (.inl ⟨body, rfl⟩))
  · rw [heq]
    exact hmissing hallow t body (hreading.snoc ht (.inr ⟨body, rfl⟩))
  · rw [heq]
    exact hexit _ _ _ ⟨hreading.since_le.trans ht, hu⟩

variable (hwait : ∀ trace now q, Reading since trace now → q.isUpload = false →
  Wait trace ⟨recovery, now⟩ q)

include hwait

variable (hreading : Reading since trace now)
include hreading

variable {Post : Trace → PollState → Except StepExit (Option String) → Prop}

lemma blockingMember_meets {members : List Json}
    (hclear : ∀ more t, Reading since (trace ++ more) t → Trace.Only LiteonRequest.isListedTask more →
      (∀ member ∈ members, Trace.FinishedOrGone more member) →
        Post (trace ++ more) ⟨recovery, t⟩ (.ok none))
    (hblocked : ∀ more t label, Reading since (trace ++ more) t →
      Post (trace ++ more) ⟨recovery, t⟩ (.ok (some label)))
    (hexit : ∀ trace s exit, Stops id recovery since s exit → Post trace s (.error exit)) :
    Meets LiteonSession.allowed Wait Post trace (blockingMember id members ⟨recovery, now⟩) := by
  induction members generalizing trace now with
  | nil =>
    have hend := hclear [] now (by simpa using hreading) (by simp [Trace.Only]) (by simp)
    rw [append_nil] at hend
    exact hend
  | cons member members ih =>
    have hstuck : Post trace ⟨recovery, now⟩ (.ok (some (memberLabel member))) := by
      have hend := hblocked [] now (memberLabel member) (by simpa using hreading)
      rwa [append_nil] at hend
    cases hstate : member.getStr "TaskState" with
    | some taskState =>
      by_cases hfinished : isFinished taskState = true
      · simp only [blockingMember, hstate, hfinished, ↓reduceIte]
        apply ih hreading _ hblocked
        intro more u hmore honly hrest
        apply hclear more u hmore honly
        exact forall_mem_cons.mpr ⟨.inl ⟨taskState, hstate, hfinished⟩, hrest⟩
      · simp only [blockingMember, hstate, hfinished, Bool.false_eq_true, ↓reduceIte]
        exact hstuck
    | none =>
      cases huri : member.getStr "@odata.id" with
      | none =>
        simp only [blockingMember, hstate, huri]
        exact hstuck
      | some uri =>
        simp only [blockingMember, hstate, huri]
        apply Meets.bind
        -- The task of this member is read; the rest of the list is read after it.
        have hnext : ∀ t reply, Reading since (trace ++ [(.listedTask uri, (t, reply))]) t →
            Trace.FinishedOrGone [(.listedTask uri, (t, reply))] member →
            Meets LiteonSession.allowed Wait Post (trace ++ [(.listedTask uri, (t, reply))])
              (blockingMember id members ⟨recovery, t⟩) := by
          intro t reply hread hgone
          apply ih hread
          · intro more u hmore honly hrest
            rw [append_assoc] at hmore ⊢
            apply hclear _ u hmore
            · exact forall_mem_cons.mpr ⟨rfl, honly⟩
            · rw [forall_mem_cons]
              exact ⟨hgone.mono (by simp), fun m hm => (hrest m hm).mono (by simp)⟩
          · intro more u label hmore
            rw [append_assoc] at hmore ⊢
            exact hblocked _ u label hmore
        apply recoveryGet_meets hreading (hwait trace now _ hreading rfl)
        · intro t body herror hread
          by_cases hfinished : (body.getStr "TaskState").any isFinished = true
          · simp only [hfinished, or_true, ↓reduceIte]
            obtain ⟨taskState, htask, hfin⟩ := (Option.any_eq_true _ _).mp hfinished
            exact hnext t _ hread
              (.inr ⟨uri, hstate, huri, .inr ⟨body, taskState, ⟨t, mem_singleton_self _⟩, htask, hfin⟩⟩)
          · have hneither : ¬(200 = 404 ∨ (body.getStr "TaskState").any isFinished = true) := by
              simpa using hfinished
            simp only [hneither, ↓reduceIte]
            exact hblocked _ _ _ hread
        · intro _ t body hread
          simp only [true_or, ↓reduceIte]
          exact hnext t _ hread (.inr ⟨uri, hstate, huri, .inl ⟨body, ⟨t, mem_singleton_self _⟩⟩⟩)
        · exact hexit

lemma blockingTask_meets
    (hclear : ∀ more t, Reading since (trace ++ more) t → Trace.Only LiteonRequest.isTaskList more →
      Trace.ReadsClearTasks more → Trace.SeesNoTask more → Post (trace ++ more) ⟨recovery, t⟩ (.ok none))
    (hblocked : ∀ trace t label, Reading since trace t → Post trace ⟨recovery, t⟩ (.ok (some label)))
    (hexit : ∀ trace s exit, Stops id recovery since s exit → Post trace s (.error exit)) :
    Meets LiteonSession.allowed Wait Post trace (blockingTask id ⟨recovery, now⟩) := by
  apply Meets.bind
  apply recoveryGet_meets hreading (hwait trace now _ hreading rfl)
  · intro t tasks herror hread
    cases hmembers : (tasks.get "Members").bind Json.asArray with
    | none =>
      simp only [hmembers]
      exact hexit _ _ _ ⟨hread.since_le, .failed _⟩
    | some members =>
      simp only [hmembers]
      split
      · exact hblocked _ _ _ hread
      · rename_i htruncated
        apply blockingMember_meets hwait hread
        · intro more u hmore honly hfinished
          have hlisted :
              Trace.TasksClear ([(.taskCollection, (t, .response 200 (some tasks)))] ++ more) tasks :=
            ⟨members, hmembers, by simpa using htruncated, fun m hm => (hfinished m hm).mono (by simp)⟩
          rw [append_assoc] at hmore ⊢
          apply hclear _ u hmore
          · exact forall_mem_cons.mpr ⟨rfl, honly.mono (fun q hq => by simp [LiteonRequest.isTaskList, hq])⟩
          · exact ⟨tasks, ⟨t, by simp⟩, hlisted⟩
          · rintro reply ⟨u, hu⟩
            obtain hu | hu := mem_append.mp hu
            · cases mem_singleton.mp hu
              exact ⟨tasks, rfl, hlisted⟩
            · exact absurd ⟨u, hu⟩ (honly.not_answered rfl reply)
        · intro more u label hmore
          exact hblocked _ u label hmore
        · exact hexit
  · intro hallow
    cases hallow
  · exact hexit

lemma readDevices_meets {target : Nat × Nat} {ids : List String} {devices : List Json}
    {Post : Trace → PollState → Except StepExit (List Json) → Prop}
    (hdone : ∀ more t, Reading since (trace ++ more) t → Trace.Only LiteonRequest.isPowerUnit more →
      (Trace.psuReadings more).map Prod.fst = ids →
        (∀ reading ∈ Trace.psuReadings more, reading.2.get "error" = none) →
      Post (trace ++ more) ⟨recovery, t⟩
        (.ok (devices ++ (Trace.psuReadings more).map (fun r => DeviceEntry.make r.1 r.2 target))))
    (hexit : ∀ trace s exit, Stops id recovery since s exit → Post trace s (.error exit)) :
    Meets LiteonSession.allowed Wait Post trace (readDevices id target ids devices ⟨recovery, now⟩) := by
  induction ids generalizing trace now devices with
  | nil =>
    have hend :=
      hdone [] now (by simpa using hreading) (by simp [Trace.Only]) rfl (by simp [Trace.psuReadings])
    simp only [Trace.psuReadings, append_nil, filterMap_nil, map_nil] at hend
    exact hend
  | cons slot ids ih =>
    apply Meets.bind
    apply recoveryGet_meets hreading (hwait trace now _ hreading rfl)
    · intro t psu herror hread
      apply ih hread
      intro more u hmore honly hids herrors
      have hreadings : Trace.psuReadings ((.powerUnit slot, (t, .response 200 (some psu))) :: more) =
          (slot, psu) :: Trace.psuReadings more := rfl
      have hend := hdone _ u (by simpa using hmore) (forall_mem_cons.mpr ⟨rfl, honly⟩)
        (by rw [hreadings, map_cons, hids]) (by simpa [hreadings, herror] using herrors)
      simpa [hreadings] using hend
    · intro hallow
      cases hallow
    · exact hexit

lemma validation_meets {target : Nat × Nat} {Post : Trace → PollState → Except StepExit Json → Prop}
    (hdone : ∀ more t validation, Reading since (trace ++ more) t →
      Trace.Only LiteonRequest.isInventory more → Validated target more validation →
      Post (trace ++ more) ⟨recovery, t⟩ (.ok validation))
    (hexit : ∀ trace s exit, Stops id recovery since s exit → Post trace s (.error exit)) :
    Meets LiteonSession.allowed Wait Post trace (validation id target ⟨recovery, now⟩) := by
  apply Meets.bind
  apply recoveryGet_meets hreading (hwait trace now _ hreading rfl)
  · intro t collection herror hread
    by_cases hsix : namesSixSlots collection = true
    · simp only [hsix, Bool.not_true, Bool.false_eq_true, ↓reduceIte]
      apply Meets.bind
      apply readDevices_meets hwait hread
      · intro more u hmore honly hids herrors
        rw [append_assoc] at hmore ⊢
        have hreadings : Trace.psuReadings ([(.powerUnits, (t, .response 200 (some collection)))] ++ more) =
            Trace.psuReadings more := rfl
        apply hdone _ u _ hmore
        · exact forall_mem_cons.mpr ⟨rfl, honly.mono (fun q hq => by simp [LiteonRequest.isInventory, hq])⟩
        · refine ⟨⟨collection, ⟨t, by simp⟩, hsix, ?_⟩, ?_, ?_⟩
          · rw [hreadings, hids]
          · rw [hreadings]
            exact herrors
          · rw [hreadings, nil_append]
      · exact hexit
    · simp only [hsix, Bool.not_false, ↓reduceIte]
      exact hexit _ _ _ ⟨hread.since_le, .failed _⟩
  · intro hallow
    cases hallow
  · exact hexit

end Reads

end Poll

end RackManagement
