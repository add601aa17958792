import RackManagement.Model.BatchProcessor

/-!
# The steps of the batch processor

What a step of the worker can do, said once: it moves on, receives a message, or answers the calls
it knows of.
-/

namespace RackManagement

open Library

namespace WorkerStage

@[simp] def holds : WorkerStage → Bool
  | .exporting _ | .exportingLast _ _ | .closingExport _ _ | .dropping => true
  | _ => false

@[simp] def failed : WorkerStage → Bool
  | .draining failed | .taking failed | .exporting failed | .exportingLast failed _ | .closing failed _
  | .closingTake failed _ | .closingExport failed _ | .closingExporter failed _ | .completing
    failed => failed
  | .expired _ => true
  | _ => false

@[simp] def drained : WorkerStage → Bool
  | .completing _ | .closingExporter _ _ => true
  | _ => false

@[simp] def request : WorkerStage → Option Nat
  | .exportingLast _ call | .expired call | .closing _ call | .closingTake _ call | .closingExport _ call
  | .closingExporter _ call => some call
  | _ => none

end WorkerStage

@[simp] def CallPhase.isUnsent : CallPhase → Bool
  | .started | .admitted => true
  | _ => false

namespace BatchProcessor

variable {s t : BatchProcessor}

def audience (s : BatchProcessor) : List Nat := s.flushWaiters ++ s.worker.request.toList

def performed (s : BatchProcessor) : Option QueueOperation → BatchProcessor
  | none => s
  | some operation => s.perform operation

def nextBatch (s : BatchProcessor) : List Nat := (s.queue.takeBatch s.queue.batchSize).1

inductive Moved (s : BatchProcessor) : Option QueueOperation → WorkerStage → Prop
  | idle {operation : Option QueueOperation} {stage : WorkerStage}
    (hoperation : operation = none ∨ operation = some .waitForBatch) (hbefore : s.worker.holds = false)
    (hafter : stage.holds = false) (hfailed : s.worker.failed = true → stage.failed = true)
    (hdrained : stage.drained = true → stage.failed = true) (hrequest : stage.request = s.worker.request) :
    Moved s operation stage
  | took {stage : WorkerStage} (hbefore : s.worker.holds = false) (hbatch : s.nextBatch ≠ [])
    (hafter : stage.holds = true) (hdrained : stage.drained = false)
    (hfailed : s.worker.failed = true → stage.failed = true)
    (hrequest : stage.request = s.worker.request) : Moved s (some (.takeBatch s.queue.batchSize)) stage
  | tookNone {stage : WorkerStage} (hbefore : s.worker.holds = false) (hbatch : s.nextBatch = [])
    (hafter : stage.holds = false) (hfailed : s.worker.failed = true → stage.failed = true)
    (hrequest : stage.request = s.worker.request) : Moved s (some (.takeBatch s.queue.batchSize)) stage
  | finished {failure : Option DropReason} {stage : WorkerStage} (hafter : stage.holds = false)
    (hdrained : stage.drained = false)
    (hfailed : s.worker.failed = true ∨ failure.isSome = true → stage.failed = true)
    (hrequest : stage.request = s.worker.request) : Moved s (some (.finishBatch failure)) stage
  | stopped (hstage : s.worker = .dropping) : Moved s (some (.stop .processorClosed)) .ended

/-- A stage that waits for messages, and the one at which the worker goes on. -/
structure Listens (before after : WorkerStage) : Prop where
  holds : after.holds = before.holds
  failed : after.failed = before.failed
  drained : after.drained = false
  request : before.request = none

/-- Some calls have got replies, each of which satisfies a condition. -/
def Answered (p : Nat → OTelSdkResult → Prop) (before after : FiniteMap Nat ProcessorCall) : Prop :=
  ∀ call, after.lookup call = before.lookup call ∨ ∃ c result, before.lookup call = some c ∧
    after.lookup call = some { c with reply := some result } ∧ p call result

/-- A call that gets a success hears it from a round that has neither failed nor been stopped. -/
def Truthful (s : BatchProcessor) (call : Nat) (result : OTelSdkResult) : Prop :=
  result = .ok () → call ∈ s.audience ∧ s.worker.drained = true ∧ s.worker.failed = false ∧
    s.isStopped = false

inductive Worked (s : BatchProcessor) : BatchProcessor → Prop
  | moved {operation : Option QueueOperation} {stage : WorkerStage} {requested : Bool}
    (h : Moved s operation stage) :
    Worked s { s.performed operation with worker := stage, flushRequested := requested }
  | resourceSet {rest : List Control} {stage : WorkerStage} (hcontrols : s.controls = .setResource :: rest)
    (hstage : Listens s.worker stage) (hrequest : stage.request = none) :
    Worked s { s with controls := rest, worker := stage }
  | flushReceived {call : Nat} {rest : List Control} {requested : Bool} {stage : WorkerStage}
    (hcontrols : s.controls = .flush call :: rest) (hstage : Listens s.worker stage)
    (hrequest : stage.request = none) :
    Worked s { s.markReceived call with
      controls := rest, flushWaiters := s.flushWaiters ++ [call], flushRequested :=
        requested, worker := stage }
  | shutdownReceived {call : Nat} {rest : List Control} {stage : WorkerStage}
    (hcontrols : s.controls = .shutdown call :: rest) (hstage : Listens s.worker stage)
    (hrequest : stage.request = some call) :
    Worked s { s.markReceived call with controls := rest, worker := stage }
  | completed {calls : FiniteMap Nat ProcessorCall} (hholds : s.worker.holds = false)
    (hreplied : Answered s.Truthful s.calls calls) :
    Worked s { s with calls := calls, flushWaiters := [], flushRequested := false, worker := .selecting }
  | left {operation : Option QueueOperation} {calls : FiniteMap Nat ProcessorCall}
    (hoperation : operation = none ∨ ∃ reason, operation = some (.stop reason))
    (hreplied : Answered s.Truthful s.calls calls) :
    Worked s { s.performed operation with calls := calls, flushWaiters := [], controls := [], worker := .dropping }

lemma lookup_updateCall (call other : Nat) (f : ProcessorCall → ProcessorCall) :
    (s.updateCall call f).calls.lookup other =
      if other = call then (s.calls.lookup call).map f else s.calls.lookup other := by
  unfold updateCall
  cases hcall : s.calls.lookup call with
  | none =>
    split_ifs with heq
    · rw [heq, hcall]
      rfl
    · rfl
  | some c =>
    rw [Option.map_some]
    exact FiniteMap.lookup_insert_eq_ite _ _ _ _

variable (call : Nat)

lemma updateCall_eq (f : ProcessorCall → ProcessorCall) :
    s.updateCall call f = { s with calls := (s.updateCall call f).calls } := by
  unfold updateCall
  cases s.calls.lookup call <;> rfl

lemma Answered.refl (p : Nat → OTelSdkResult → Prop) (calls : FiniteMap Nat ProcessorCall) :
    Answered p calls calls :=
  fun _ => .inl rfl

variable {p : Nat → OTelSdkResult → Prop} {call : Nat} {failed : Bool} {stage : WorkerStage}

lemma Answered.trans {first second third : FiniteMap Nat ProcessorCall}
    (h : Answered p first second) (h' : Answered p second third) : Answered p first third := by
  intro call
  obtain hlast | ⟨c, result, hc, hlast, hp⟩ := h' call
  · rw [hlast]
    exact h call
  · obtain hfirst | ⟨c', result', hc', hsecond, -⟩ := h call
    · exact .inr ⟨c, result, hfirst ▸ hc, hlast, hp⟩
    · cases hc.symm.trans hsecond
      exact .inr ⟨c', result, hc', hlast, hp⟩

lemma answered_reply {result : OTelSdkResult} (hp : p call result) :
    Answered p s.calls (s.reply call result).calls := by
  intro other
  rw [reply, lookup_updateCall]
  split_ifs with heq
  · subst heq
    cases hcall : s.calls.lookup other with
    | none => exact .inl rfl
    | some c => exact .inr ⟨c, result, rfl, rfl, hp⟩
  · exact .inl rfl

lemma answered_foldl_reply {result : OTelSdkResult} {waiters : List Nat}
    (hp : ∀ waiter ∈ waiters, p waiter result) :
    Answered p s.calls (waiters.foldl (fun s waiter => s.reply waiter result) s).calls := by
  induction waiters generalizing s with
  | nil => exact .refl _ _
  | cons waiter waiters ih =>
    obtain ⟨hwaiter, hwaiters⟩ := List.forall_mem_cons.mp hp
    exact (answered_reply hwaiter).trans (ih hwaiters)

variable (result : OTelSdkResult)

lemma foldl_reply_eq (waiters : List Nat) :
    waiters.foldl (fun s waiter => s.reply waiter result) s =
      { s with calls := (waiters.foldl (fun s waiter => s.reply waiter result) s).calls } := by
  induction waiters generalizing s with
  | nil => rfl
  | cons waiter waiters ih =>
    rw [List.foldl_cons, ih, reply, updateCall_eq]

lemma completeFlushWaiters_eq (failed : Bool) :
    s.completeFlushWaiters failed =
      { s with calls := (s.completeFlushWaiters failed).calls, flushWaiters := [] } := by
  unfold completeFlushWaiters
  rw [foldl_reply_eq]

lemma answered_completeFlushWaiters (hp : ∀ waiter ∈ s.flushWaiters, p waiter (outcome failed)) :
    Answered p s.calls (s.completeFlushWaiters failed).calls := answered_foldl_reply hp

lemma reply_eq :
    s.reply call result = { s with calls := (s.reply call result).calls } := updateCall_eq _ _

lemma completeFlushWaiters_reply_eq (failed : Bool) :
    (s.reply call result).completeFlushWaiters failed =
      { s with calls := ((s.reply call result).completeFlushWaiters failed).calls, flushWaiters := [] } := by
  rw [completeFlushWaiters_eq]
  generalize ((s.reply call result).completeFlushWaiters failed).calls = calls
  rw [reply_eq]

lemma outcome_eq_ok (h : outcome failed = .ok ()) : failed = false := by
  cases failed with
  | false => rfl
  | true => cases h

lemma Moved.worked {operation : Option QueueOperation} (h : Moved s operation stage) :
    Worked s ((s.performed operation).goTo stage) := by
  cases operation with
  | none => exact .moved h
  | some operation => exact .moved h

lemma worked_leave_failed : Worked s (s.completeFlushWaiters true).leave := by
  have hanswered : Answered s.Truthful s.calls (s.completeFlushWaiters true).calls :=
    answered_completeFlushWaiters (fun _ _ h => absurd (outcome_eq_ok h) (by decide))
  rw [completeFlushWaiters_eq]
  exact .left (.inl rfl) hanswered

lemma worked_leave : Worked s s.leave := @Worked.left s none s.calls (.inl rfl) (.refl _ _)

lemma worked_replyTimeout (reason : DropReason) (call : Nat) :
    Worked s ((s.perform (.stop reason)).replyTimeout call) := by
  let stopped := s.perform (.stop reason)
  have hreply : Answered s.Truthful s.calls (stopped.reply call (.error .timeout)).calls :=
    answered_reply (s := stopped) (fun h => nomatch h)
  have hwaiters : Answered s.Truthful (stopped.reply call (.error .timeout)).calls
      ((stopped.reply call (.error .timeout)).completeFlushWaiters true).calls :=
    answered_completeFlushWaiters (fun _ _ h => absurd (outcome_eq_ok h) (by decide))
  change Worked s ((stopped.reply call (.error .timeout)).completeFlushWaiters true).leave
  rw [completeFlushWaiters_reply_eq]
  exact @Worked.left s (some (.stop reason)) _ (.inr ⟨reason, rfl⟩) (hreply.trans hwaiters)

lemma worked_exporterShutsDown (ok : Bool) (hstage : s.worker = .closingExporter failed call) :
    Worked s (((s.reply call (outcome (failed || (!ok || s.isStopped)))).completeFlushWaiters
      (failed || (!ok || s.isStopped))).leave) := by
  generalize hresult : (failed || (!ok || s.isStopped)) = result
  have htruthful : ∀ other ∈ s.audience, s.Truthful other (outcome result) := by
    intro other hother hok
    have hfalse := hresult.trans (outcome_eq_ok hok)
    simp only [Bool.or_eq_false_iff] at hfalse
    rw [hstage]
    exact ⟨hother, rfl, hfalse.1, hfalse.2.2⟩
  have hcall : call ∈ s.audience := by
    rw [audience, hstage]
    exact List.mem_append_right _ List.mem_cons_self
  have hreply : Answered s.Truthful s.calls (s.reply call (outcome result)).calls :=
    answered_reply (htruthful call hcall)
  have hwaiters : Answered s.Truthful (s.reply call (outcome result)).calls
      ((s.reply call (outcome result)).completeFlushWaiters result).calls := by
    apply answered_completeFlushWaiters
    intro waiter hwaiter
    rw [reply_eq] at hwaiter
    exact htruthful waiter (List.mem_append_left _ hwaiter)
  rw [completeFlushWaiters_reply_eq]
  exact @Worked.left s none _ (.inl rfl) (hreply.trans hwaiters)

lemma worked_complete (hstage : s.worker = .completing failed) :
    Worked s ({ s.completeFlushWaiters (failed || s.isStopped) with flushRequested := false }.goTo
      .selecting) := by
  have hanswered : Answered s.Truthful s.calls (s.completeFlushWaiters (failed || s.isStopped)).calls := by
    apply answered_completeFlushWaiters
    intro waiter hwaiter hok
    have hfalse := Bool.or_eq_false_iff.mp (outcome_eq_ok hok)
    rw [hstage]
    exact ⟨List.mem_append_left _ hwaiter, rfl, hfalse.1, hfalse.2⟩
  rw [completeFlushWaiters_eq]
  exact .completed (by rw [hstage]; rfl) hanswered

lemma markReceived_eq (controls : List Control) (waiters : List Nat) (requested : Bool)
    (stage : WorkerStage) :
    ({ s with controls := controls, flushWaiters := waiters, flushRequested := requested
      }.markReceived call).goTo stage =
      { s.markReceived call with
        controls := controls, flushWaiters := waiters, flushRequested := requested, worker := stage } := by
  unfold markReceived updateCall
  dsimp only
  cases s.calls.lookup call <;> rfl

lemma worked_flushReceived {rest : List Control} {requested : Bool} (hcontrols : s.controls =
      .flush call :: rest) (hstage : Listens s.worker stage) (hrequest : stage.request = none) :
    Worked s (({ s with
      controls := rest
      flushWaiters := s.flushWaiters ++ [call]
      flushRequested := requested }.markReceived call).goTo stage) := by
  rw [markReceived_eq]
  exact .flushReceived hcontrols hstage hrequest

lemma worked_shutdownReceived {rest : List Control}
    (hcontrols : s.controls = .shutdown call :: rest) (hstage : Listens s.worker stage)
    (hrequest : stage.request =
      some call) : Worked s (({ s with controls := rest }.markReceived call).goTo stage) := by
  rw [markReceived_eq]
  have hsame : s.markReceived call = { s.markReceived call with
      flushWaiters := s.flushWaiters, flushRequested := s.flushRequested } := by
    unfold markReceived
    rw [updateCall_eq]
  have hworked := Worked.shutdownReceived hcontrols hstage hrequest
  rw [hsame] at hworked
  exact hworked

lemma worked_receiveSelecting (hstage : s.worker = .selecting) (h : s.receiveSelecting = some t) :
    Worked s t := by
  unfold receiveSelecting at h
  split at h
  · cases h
  · rename_i hcontrols
    cases h
    exact worked_flushReceived hcontrols (by rw [hstage]; exact ⟨rfl, rfl, rfl, rfl⟩) rfl
  · rename_i hcontrols
    cases h
    exact .resourceSet hcontrols (by rw [hstage]; exact ⟨rfl, rfl, rfl, rfl⟩) rfl
  · rename_i hcontrols
    cases h
    exact worked_shutdownReceived hcontrols (by rw [hstage]; exact ⟨rfl, rfl, rfl, rfl⟩) rfl

lemma worked_receiveExporting (hstage : s.worker = .exporting failed)
    (h : s.receiveExporting failed = some t) : Worked s t := by
  unfold receiveExporting at h
  split at h
  · cases h
  · rename_i hcontrols
    cases h
    exact worked_flushReceived hcontrols (by rw [hstage]; exact ⟨rfl, rfl, rfl, rfl⟩) rfl
  · rename_i hcontrols
    cases h
    exact .resourceSet hcontrols (by rw [hstage]; exact ⟨rfl, rfl, rfl, rfl⟩) rfl
  · rename_i hcontrols
    cases h
    exact worked_shutdownReceived hcontrols (by rw [hstage]; exact ⟨rfl, rfl, rfl, rfl⟩) rfl

lemma worked_goTo (hbefore : s.worker.holds = false) (hafter : stage.holds = false)
    (hfailed : s.worker.failed = true → stage.failed = true)
    (hdrained : stage.drained = true → stage.failed = true)
    (hrequest : stage.request = s.worker.request) : Worked s (s.goTo stage) :=
  Moved.worked (.idle (.inl rfl) hbefore hafter hfailed hdrained hrequest)

lemma worked_finishBatch {failure : Option DropReason} (hafter : stage.holds = false)
    (hdrained : stage.drained = false)
    (hfailed : s.worker.failed = true ∨ failure.isSome = true → stage.failed = true)
    (hrequest : stage.request = s.worker.request) :
    Worked s ((s.perform (.finishBatch failure)).goTo stage) :=
  Moved.worked (.finished hafter hdrained hfailed hrequest)

lemma worked_takeBatch {empty full : WorkerStage} (hbefore : s.worker.holds = false)
    (hempty : empty.holds = false)
    (hfull : full.holds = true) (hdrained : full.drained = false)
    (hfailedEmpty : s.worker.failed = true → empty.failed = true)
    (hfailedFull : s.worker.failed = true → full.failed = true)
    (hrequestEmpty : empty.request = s.worker.request)
    (hrequestFull : full.request = s.worker.request)
    (h : (if (s.queue.takeBatch s.queue.batchSize).1.isEmpty = true then
        some ((s.perform (.takeBatch s.queue.batchSize)).goTo empty)
      else some ((s.perform (.takeBatch s.queue.batchSize)).goTo full)) = some t) : Worked s t := by
  split_ifs at h with hbatch
  · cases h
    exact Moved.worked (.tookNone hbefore (List.isEmpty_iff.mp hbatch) hempty hfailedEmpty hrequestEmpty)
  · cases h
    exact Moved.worked
      (.took hbefore (fun hnil => hbatch (List.isEmpty_iff.mpr hnil)) hfull hdrained hfailedFull
      hrequestFull)

lemma worked_exportReturns (ok : Bool) (hafter : stage.holds = false) (hdrained : stage.drained = false)
    (hfailed : stage.failed = (s.worker.failed || !ok)) (hrequest : stage.request = s.worker.request) :
    Worked s ((s.perform (.finishBatch (exportFailure ok))).goTo stage) := by
  apply worked_finishBatch hafter hdrained _ hrequest
  rw [hfailed]
  cases ok <;> simp [exportFailure]

/-- Each action of the worker, at each stage that knows it, is one of the kinds of step. -/
lemma worked_of_work {action : WorkerStep} (h : s.work action = some t) : Worked s t := by
  unfold work at h
  -- `contradiction` drops the alternatives of `work` that are for other actions
  cases action with
  | start =>
    split at h <;> try contradiction
    next hstarting =>
      cases h
      apply worked_goTo <;> simp [hstarting]
  | noticeStop =>
    split at h <;> try contradiction
    split_ifs at h
    cases h
    exact worked_leave_failed
  | receive =>
    split at h <;> try contradiction
    next hselecting => exact worked_receiveSelecting hselecting h
    next hexporting => exact worked_receiveExporting hexporting h
  | disconnect =>
    split at h <;> try contradiction
    · split_ifs at h
      cases h
      exact worked_leave
    next hexporting =>
      split_ifs at h
      cases h
      apply worked_finishBatch <;> simp [hexporting]
  | wake =>
    split at h <;> try contradiction
    next hselecting =>
      split_ifs at h
      cases h
      exact Moved.worked
        (.idle (.inr rfl) (by simp [hselecting]) rfl (by simp [hselecting]) (by simp)
          (by simp [hselecting]))
  | ready =>
    split at h <;> try contradiction
    next hselecting =>
      split_ifs at h
      cases h
      apply worked_goTo <;> simp [hselecting]
  | tick =>
    split at h <;> try contradiction
    next hselecting =>
      cases h
      exact @Worked.moved s none .deciding _
        (.idle (.inl rfl) (by simp [hselecting]) rfl (by simp [hselecting]) (by simp)
          (by simp [hselecting]))
  | decide =>
    split at h <;> try contradiction
    next hdeciding =>
      split_ifs at h <;> cases h <;> apply worked_goTo <;> simp [hdeciding]
  | checkStopped =>
    split at h <;> try contradiction
    next hdraining =>
      split_ifs at h <;> cases h
      · exact worked_leave_failed
      · apply worked_goTo <;> simp [hdraining]
    next hclosing =>
      split_ifs at h <;> cases h <;> apply worked_goTo <;> simp [hclosing]
  | takeBatch =>
    split at h <;> try contradiction
    next htaking => apply worked_takeBatch _ _ _ _ _ _ _ _ h <;> simp [htaking]
    next hclosingTake => apply worked_takeBatch _ _ _ _ _ _ _ _ h <;> simp [hclosingTake]
  | complete =>
    split at h <;> try contradiction
    next hcompleting =>
      cases h
      exact worked_complete hcompleting
  | exportReturns ok =>
    split at h <;> try contradiction
    all_goals cases h
    next hexporting => apply worked_exportReturns <;> simp [hexporting]
    next hexportingLast => apply worked_exportReturns <;> simp [hexportingLast]
    next hclosingExport => apply worked_exportReturns <;> simp [hclosingExport]
  | exportTimesOut shutdownFirst =>
    split at h <;> try contradiction
    next hexporting =>
      cases h
      apply worked_finishBatch <;> simp [hexporting]
    next hexportingLast =>
      split_ifs at h <;> cases h <;> apply worked_finishBatch <;> simp [hexportingLast]
    next hclosingExport =>
      split_ifs at h <;> cases h
      · exact worked_replyTimeout _ _
      · apply worked_finishBatch <;> simp [hclosingExport]
  | stopExpired =>
    split at h <;> try contradiction
    cases h
    exact worked_replyTimeout _ _
  | deadlinePasses =>
    split at h <;> try contradiction
    cases h
    exact worked_replyTimeout _ _
  | exporterShutsDown ok =>
    split at h <;> try contradiction
    next hclosingExporter =>
      cases h
      exact worked_exporterShutsDown _ hclosingExporter
  | drop =>
    split at h <;> try contradiction
    split_ifs at h
    cases h
    exact worked_leave
  | stop =>
    split at h <;> try contradiction
    next hdropping =>
      cases h
      exact Moved.worked (.stopped hdropping)

inductive Called (s : BatchProcessor) (call : Nat) (c : ProcessorCall) : BatchProcessor → Prop
  | moved {phase : CallPhase} (hunsent : phase.isUnsent = true → c.phase.isUnsent = true)
    (hreturned : phase = .returned (.ok ()) → c.reply = some (.ok ())) :
    Called s call c { s with calls := s.calls.insert call { c with phase := phase } }
  | sent (hphase : c.phase = .admitted) :
    Called s call c { s with
      calls := s.calls.insert call { c with phase := .waiting }, controls :=
        s.controls ++ [control call c.kind] }
  | stopped {reason : DropReason} {error : OTelSdkError} :
    Called s call c { s with
      calls := s.calls.insert call { c with phase := .returned (.error error) }
      accounts := s.accounts.perform (.stop reason) }

lemma updateCall_of_lookup {c : ProcessorCall} (hc : s.calls.lookup call = some c)
    (f : ProcessorCall → ProcessorCall) :
    s.updateCall call f = { s with calls := s.calls.insert call (f c) } := by
  rw [updateCall, hc]

lemma called_of_callStep {action : CallStep} (hstep : s.callStep call action = some t) :
    ∃ c, s.calls.lookup call = some c ∧ Called s call c t := by
  obtain ⟨c, hc, h⟩ := Option.bind_eq_some_iff.mp hstep
  refine ⟨c, hc, ?_⟩
  have hmoved : ∀ phase : CallPhase, (phase.isUnsent = true → c.phase.isUnsent = true) →
      (phase = .returned (.ok ()) → c.reply = some (.ok ())) →
      Called s call c (s.updateCall call (fun c => { c with phase := phase })) := by
    intro phase hunsent hreturned
    rw [updateCall_of_lookup hc]
    exact .moved hunsent hreturned
  dsimp only at h
  split at h
  · rename_i hphase
    cases h
    split_ifs
    · exact hmoved _ (by simp [hphase]) (by simp)
    · exact hmoved _ (by simp) (by simp)
  · rename_i hphase
    split_ifs at h
    · cases h
      rw [updateCall_of_lookup hc]
      exact .sent hphase
    · split at h
      · cases h
        exact hmoved _ (by simp) (by simp)
      · cases h
        exact hmoved _ (by simp) (by simp)
  · obtain ⟨result, hresult, h⟩ := Option.map_eq_some_iff.mp h
    cases h
    refine hmoved _ (by simp) (fun hreturned => ?_)
    cases hreturned
    exact hresult
  · split at h
    · cases h
      exact hmoved _ (by simp) (by simp)
    · cases h
      split_ifs
      · exact hmoved _ (by simp) (by simp)
      · exact hmoved _ (by simp) (by simp)
  · cases h
    rw [updateCall_of_lookup hc]
    exact .stopped
  · cases h

lemma accounts_performed (operation : Option QueueOperation) :
    (s.performed operation).accounts = s.accounts ∨
      ∃ performed, (s.performed operation).accounts = s.accounts.perform performed := by
  cases operation with
  | none => exact .inl rfl
  | some performed => exact .inr ⟨performed, rfl⟩

lemma accounts_of_worked (h : Worked s t) :
    t.accounts = s.accounts ∨ ∃ operation, t.accounts = s.accounts.perform operation := by
  cases h with
  | moved => exact accounts_performed _
  | resourceSet => exact .inl rfl
  | flushReceived =>
    rw [markReceived, updateCall_eq]
    exact .inl rfl
  | shutdownReceived =>
    rw [markReceived, updateCall_eq]
    exact .inl rfl
  | completed => exact .inl rfl
  | left => exact accounts_performed _

lemma accounts_of_step {event : ProcessorEvent} (h : s.step event = some t) :
    t.accounts = s.accounts ∨ ∃ operation, t.accounts = s.accounts.perform operation := by
  cases event with
  | push =>
    rw [step] at h
    split_ifs at h
    cases h
    exact .inr ⟨.push, rfl⟩
  | setResource =>
    rw [step] at h
    split_ifs at h
    all_goals
      cases h
      exact .inl rfl
  | forceFlush call =>
    rw [step] at h
    split_ifs at h
    cases h
    exact .inl rfl
  | shutdownWithTimeout call =>
    rw [step] at h
    split_ifs at h
    cases h
    exact .inr ⟨.closeAdmission, rfl⟩
  | call call action =>
    obtain ⟨c, -, hcalled⟩ := called_of_callStep h
    cases hcalled with
    | moved => exact .inl rfl
    | sent => exact .inl rfl
    | @stopped reason _ => exact .inr ⟨.stop reason, rfl⟩
  | worker action => exact accounts_of_worked (worked_of_work h)
  | dropSender =>
    cases h
    exact .inl rfl

end BatchProcessor

end RackManagement
