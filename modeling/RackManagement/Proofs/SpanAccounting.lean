import RackManagement.Proofs.ProcessorSteps

/-!
# Span accounting

Every offered span is delivered, dropped for one reason, pending or in flight.
-/

namespace RackManagement

open Library List

lemma TraceMetrics.totalDropped_dropSpans (metrics : TraceMetrics) (reason : DropReason) (count : Nat) :
    (metrics.dropSpans reason count).totalDropped = metrics.totalDropped + count := by
  unfold totalDropped dropSpans
  cases reason
  all_goals
    simp only [Function.update_self, Function.update_of_ne, ne_eq, reduceCtorEq, not_false_eq_true]
    omega

structure SpanQueue.Claimed (queue : SpanQueue) (failure : Option DropReason) (result : SpanQueue) :
    Prop where
  pending : result.state.pending = queue.state.pending
  inFlight : result.state.inFlight = 0
  accepting : result.state.accepting = queue.state.accepting
  stopped : result.state.stopped = queue.state.stopped
  capacity : result.capacity = queue.capacity
  batchSize : result.batchSize = queue.batchSize
  totalDropped : result.metrics.totalDropped =
    queue.metrics.totalDropped + if failure.isSome then queue.state.inFlight else 0
  failedBatches : result.metrics.failedBatches =
    queue.metrics.failedBatches + if failure.isSome ∧ queue.state.inFlight ≠ 0 then 1 else 0

lemma SpanQueue.claimed_finishBatchLocked (queue : SpanQueue) (failure : Option DropReason) :
    queue.Claimed failure (queue.finishBatchLocked failure).2 := by
  unfold finishBatchLocked
  by_cases hzero : queue.state.inFlight = 0
  · rw [if_pos hzero]
    exact ⟨rfl, rfl, rfl, rfl, rfl, rfl, by simp [hzero], by simp [hzero]⟩
  · rw [if_neg hzero]
    cases failure with
    | none => exact ⟨rfl, rfl, rfl, rfl, rfl, rfl, by simp, by simp⟩
    | some reason =>
      refine ⟨rfl, rfl, rfl, rfl, rfl, rfl, ?_, ?_⟩
      · exact TraceMetrics.totalDropped_dropSpans _ _ _
      · simp [hzero, TraceMetrics.failBatch, TraceMetrics.dropSpans]

namespace SpanAccounts

variable {accounts : SpanAccounts}

/-- At most the latest batch is without an outcome, and the queue counts its spans. -/
inductive Flying (accounts : SpanAccounts) : Prop
  | landed (hcount : accounts.queue.state.inFlight = 0)
    (hsettled : ∀ batch ∈ accounts.batches, batch.outcome ≠ none)
  | flying (batch : TakenBatch) (rest : List TakenBatch) (hbatches : accounts.batches = batch :: rest)
    (houtcome : batch.outcome = none) (hcount : accounts.queue.state.inFlight = batch.spans.length)
    (hne : batch.spans ≠ []) (hsettled : ∀ batch ∈ rest, batch.outcome ≠ none)

lemma spansOf_cons (p : Option BatchOutcome → Bool) (batch : TakenBatch) (batches : List TakenBatch) :
    spansOf p (batch :: batches) = (if p batch.outcome then batch.spans else []) ++ spansOf p batches := by
  unfold spansOf
  by_cases h : p batch.outcome = true
  · rw [filter_cons_of_pos (by simpa using h), flatMap_cons, if_pos h]
  · rw [filter_cons_of_neg (by simpa using h), if_neg h, nil_append]

structure Settled (accounts : SpanAccounts) (failure : Option DropReason)
    (batches : List TakenBatch) : Prop where
  settled : ∀ batch ∈ batches, batch.outcome ≠ none
  delivered : (spansOf isDelivered batches).length =
    accounts.delivered.length + if failure.isSome then 0 else accounts.queue.state.inFlight
  failed : batches.countP (fun batch => isFailed batch.outcome) =
    accounts.batches.countP (fun batch => isFailed batch.outcome) +
      if failure.isSome ∧ accounts.queue.state.inFlight ≠ 0 then 1 else 0

lemma settled_settled (h : accounts.Flying) (failure : Option DropReason) :
    accounts.Settled failure (accounts.settled failure) := by
  unfold settled
  cases h with
  | landed hcount hsettled =>
    rw [if_pos hcount]
    exact ⟨hsettled, by simp [hcount, delivered], by simp [hcount]⟩
  | flying batch rest hbatches houtcome hcount hne hsettled =>
    have hzero : accounts.queue.state.inFlight ≠ 0 := by
      rw [hcount]
      exact fun hlength => hne (length_eq_zero_iff.mp hlength)
    have hdelivered : accounts.delivered = spansOf isDelivered rest := by
      rw [delivered, hbatches, spansOf_cons, houtcome]
      rfl
    have hfailed : accounts.batches.countP (fun batch => isFailed batch.outcome) =
        rest.countP (fun batch => isFailed batch.outcome) := by
      rw [hbatches, countP_cons, houtcome]
      rfl
    rw [if_neg hzero, hbatches]
    refine ⟨forall_mem_cons.mpr ⟨by simp, hsettled⟩, ?_, ?_⟩
    · rw [spansOf_cons, hdelivered, hcount]
      cases failure with
      | none => simp [isDelivered, Nat.add_comm]
      | some reason => simp [isDelivered]
    · rw [countP_cons, hfailed]
      cases failure with
      | none => simp [isFailed]
      | some reason => simp [isFailed, hzero]

structure Balanced (accounts : SpanAccounts) : Prop where
  conserved : accounts.offered = accounts.delivered.length + accounts.queue.metrics.totalDropped +
    accounts.queue.state.pending.length + accounts.queue.state.inFlight
  failures : accounts.queue.metrics.failedBatches =
    accounts.batches.countP (fun batch => isFailed batch.outcome)
  pending_le : accounts.queue.state.pending.length ≤ accounts.queue.capacity
  inFlight_le : accounts.queue.state.inFlight ≤ accounts.queue.batchSize
  flying : accounts.Flying
  stopped : accounts.queue.state.stopped = true → accounts.queue.state.pending = [] ∧
    accounts.queue.state.inFlight = 0 ∧
    accounts.queue.state.accepting = false

lemma balanced_new (capacity batchSize : Nat) : (new capacity batchSize).Balanced where
  conserved := rfl
  failures := rfl
  pending_le := Nat.zero_le _
  inFlight_le := Nat.zero_le _
  flying := .landed rfl (fun _ hmem => by cases hmem)
  stopped := fun h => by cases h

lemma Flying.of_eq {other : SpanAccounts} (h : accounts.Flying)
    (hcount : other.queue.state.inFlight = accounts.queue.state.inFlight)
    (hbatches : other.batches = accounts.batches) : other.Flying := by
  cases h with
  | landed hzero hsettled => exact .landed (hcount.trans hzero) (hbatches ▸ hsettled)
  | flying batch rest hold houtcome hlength hne hsettled =>
    exact .flying batch rest (hbatches.trans hold) houtcome (hcount.trans hlength) hne hsettled

section

variable (h : accounts.Balanced)
include h

lemma Balanced.push : (accounts.perform .push).Balanced := by
  have hconserved := h.conserved
  have hdropped : ∀ reason, accounts.offered + 1 = accounts.delivered.length +
      (accounts.queue.metrics.dropSpans reason 1).totalDropped + accounts.queue.state.pending.length +
      accounts.queue.state.inFlight := by
    intro reason
    rw [TraceMetrics.totalDropped_dropSpans]
    omega
  rw [perform, SpanQueue.push]
  split_ifs with hclosed hfull
  · exact ⟨hdropped _, h.failures, h.pending_le, h.inFlight_le, h.flying.of_eq rfl rfl, h.stopped⟩
  · exact ⟨hdropped _, h.failures, h.pending_le, h.inFlight_le, h.flying.of_eq rfl rfl, h.stopped⟩
  · refine ⟨?_, h.failures, ?_, h.inFlight_le, h.flying.of_eq rfl rfl, fun hstopped => ?_⟩
    · change accounts.offered + 1 = accounts.delivered.length + accounts.queue.metrics.totalDropped +
        (accounts.queue.state.pending ++ [_]).length + accounts.queue.state.inFlight
      rw [length_append, length_singleton]
      omega
    · change (accounts.queue.state.pending ++ [_]).length ≤ accounts.queue.capacity
      rw [length_append, length_singleton]
      have hle := h.pending_le
      omega
    · exact absurd (h.stopped hstopped).2.2 hclosed

lemma Balanced.waitForBatch : (accounts.perform .waitForBatch).Balanced :=
  ⟨h.conserved, h.failures, h.pending_le, h.inFlight_le, h.flying.of_eq rfl rfl, h.stopped⟩

lemma Balanced.closeAdmission : (accounts.perform .closeAdmission).Balanced :=
  ⟨h.conserved, h.failures, h.pending_le, h.inFlight_le, h.flying.of_eq rfl rfl,
    fun hstopped => ⟨(h.stopped hstopped).1, (h.stopped hstopped).2.1, rfl⟩⟩

lemma Balanced.takeBatch (hidle : accounts.queue.state.inFlight = 0) :
    (accounts.perform (.takeBatch accounts.queue.batchSize)).Balanced := by
  have hconserved := h.conserved
  have hpending := h.pending_le
  have hsettled : ∀ batch ∈ accounts.batches, batch.outcome ≠ none := by
    cases h.flying with
    | landed _ hsettled => exact hsettled
    | flying batch _ _ _ hcount hne _ => exact absurd (length_eq_zero_iff.mp (hcount.symm.trans hidle)) hne
  rw [perform, SpanQueue.takeBatch]
  dsimp only
  generalize hcount : min accounts.queue.state.pending.length accounts.queue.batchSize = count
  have hlength : (accounts.queue.state.pending.take count).length = count := by
    rw [length_take]
    omega
  by_cases hempty : (accounts.queue.state.pending.take count).isEmpty = true
  · have hzero : count = 0 := hlength.symm.trans (length_eq_zero_iff.mpr (isEmpty_iff.mp hempty))
    rw [if_pos hempty, hzero, drop_zero]
    rw [hidle] at hconserved
    exact ⟨hconserved, h.failures, hpending, Nat.zero_le _, .landed rfl hsettled,
      fun hstopped => ⟨(h.stopped hstopped).1, rfl, (h.stopped hstopped).2.2⟩⟩
  · rw [if_neg hempty]
    refine ⟨?_, ?_, ?_, ?_, ?_, fun hstopped => ?_⟩
    · have hdelivered :
          spansOf isDelivered (⟨accounts.queue.state.pending.take count, none⟩ :: accounts.batches) =
          accounts.delivered := by
        rw [spansOf_cons]
        rfl
      change accounts.offered = (spansOf isDelivered (_ :: accounts.batches)).length +
        accounts.queue.metrics.totalDropped + (accounts.queue.state.pending.drop count).length + count
      rw [hdelivered, length_drop]
      omega
    · rw [countP_cons]
      exact h.failures
    · rw [length_drop]
      exact Nat.le_trans (Nat.sub_le _ _) hpending
    · change count ≤ accounts.queue.batchSize
      omega
    · exact .flying _ _ rfl rfl hlength.symm (fun hnil => hempty (isEmpty_iff.mpr hnil)) hsettled
    · have hnil := (h.stopped hstopped).1
      rw [hnil, take_nil] at hempty
      exact absurd rfl hempty

lemma Balanced.finishBatch (failure : Option DropReason) :
    (accounts.perform (.finishBatch failure)).Balanced := by
  have hconserved := h.conserved
  have hclaimed := accounts.queue.claimed_finishBatchLocked failure
  have hsettled := settled_settled h.flying failure
  have hstate :
      (accounts.perform (.finishBatch failure)).queue = (accounts.queue.finishBatchLocked failure).2 := rfl
  constructor
  · change accounts.offered = (spansOf isDelivered (accounts.settled failure)).length +
      (accounts.queue.finishBatchLocked failure).2.metrics.totalDropped +
      (accounts.queue.finishBatchLocked failure).2.state.pending.length +
      (accounts.queue.finishBatchLocked failure).2.state.inFlight
    rw [hsettled.delivered, hclaimed.totalDropped, hclaimed.pending, hclaimed.inFlight]
    split <;> omega
  · change (accounts.queue.finishBatchLocked failure).2.metrics.failedBatches = _
    rw [hclaimed.failedBatches, h.failures]
    exact hsettled.failed.symm
  · rw [hstate, hclaimed.pending, hclaimed.capacity]
    exact h.pending_le
  · rw [hstate, hclaimed.inFlight]
    exact Nat.zero_le _
  · exact .landed hclaimed.inFlight hsettled.settled
  · rw [hstate, hclaimed.stopped, hclaimed.pending, hclaimed.inFlight, hclaimed.accepting]
    exact fun hstopped => ⟨(h.stopped hstopped).1, rfl, (h.stopped hstopped).2.2⟩

lemma Balanced.stop (reason : DropReason) : (accounts.perform (.stop reason)).Balanced := by
  have hconserved := h.conserved
  rw [perform]
  by_cases hstopped : accounts.queue.state.stopped = true
  · rw [if_pos hstopped, SpanQueue.stop, if_pos hstopped]
    exact ⟨hconserved, h.failures, h.pending_le, h.inFlight_le, h.flying.of_eq rfl rfl,
      fun hstopped => ⟨(h.stopped hstopped).1, (h.stopped hstopped).2.1, rfl⟩⟩
  · rw [if_neg hstopped, SpanQueue.stop, if_neg hstopped]
    let closed : SpanQueue :=
      { accounts.queue with state := { accounts.queue.state with accepting := false, stopped := true } }
    have hclaimed := closed.claimed_finishBatchLocked (some reason)
    have hsettled := settled_settled h.flying (some reason)
    have hdelivered := hsettled.delivered
    have hdropped := hclaimed.totalDropped
    simp only [Option.isSome_some, if_true] at hdelivered hdropped
    refine ⟨?_, ?_, Nat.zero_le _, ?_, .landed hclaimed.inFlight hsettled.settled,
      fun _ => ⟨rfl, hclaimed.inFlight, hclaimed.accepting⟩⟩
    · change accounts.offered = (spansOf isDelivered (accounts.settled (some reason))).length +
        (TraceMetrics.dropSpans (closed.finishBatchLocked (some reason)).2.metrics reason
          (closed.finishBatchLocked (some reason)).2.state.pending.length).totalDropped + 0 +
        (closed.finishBatchLocked (some reason)).2.state.inFlight
      rw [TraceMetrics.totalDropped_dropSpans, hdropped, hdelivered, hclaimed.inFlight, hclaimed.pending]
      change accounts.offered = accounts.delivered.length + 0 + (accounts.queue.metrics.totalDropped +
        accounts.queue.state.inFlight + accounts.queue.state.pending.length) + 0 + 0
      omega
    · change (closed.finishBatchLocked (some reason)).2.metrics.failedBatches = _
      rw [hclaimed.failedBatches]
      exact (congrArg (· + _) h.failures).trans hsettled.failed.symm
    · change (closed.finishBatchLocked (some reason)).2.state.inFlight ≤ _
      rw [hclaimed.inFlight]
      exact Nat.zero_le _

end

lemma stop_claimed (queue : SpanQueue) (reason : DropReason) :
    (queue.stop reason).2.capacity = queue.capacity ∧ (queue.stop reason).2.batchSize = queue.batchSize ∧
      (queue.stop reason).2.state.stopped = true := by
  rw [SpanQueue.stop]
  split_ifs with hstopped
  · exact ⟨rfl, rfl, hstopped⟩
  · have hclaimed := SpanQueue.claimed_finishBatchLocked
      { queue with state := { queue.state with accepting := false, stopped := true } } (some reason)
    exact ⟨hclaimed.capacity, hclaimed.batchSize, hclaimed.stopped⟩

lemma sizes_perform (operation : QueueOperation) :
    (accounts.perform operation).queue.capacity = accounts.queue.capacity ∧
    (accounts.perform operation).queue.batchSize = accounts.queue.batchSize := by
  cases operation with
  | push =>
    rw [perform, SpanQueue.push]
    split_ifs <;> exact ⟨rfl, rfl⟩
  | waitForBatch => exact ⟨rfl, rfl⟩
  | closeAdmission => exact ⟨rfl, rfl⟩
  | takeBatch max => exact ⟨rfl, rfl⟩
  | finishBatch failure =>
    have hclaimed := accounts.queue.claimed_finishBatchLocked failure
    exact ⟨hclaimed.capacity, hclaimed.batchSize⟩
  | stop reason =>
    have hstop := stop_claimed accounts.queue reason
    rw [perform]
    split_ifs <;> exact ⟨hstop.1, hstop.2.1⟩

lemma stopped_perform_stop (reason : DropReason) :
    (accounts.perform (.stop reason)).queue.state.stopped = true := by
  rw [perform]
  split_ifs <;> exact (stop_claimed accounts.queue reason).2.2

lemma perform_of_stopped (h : accounts.Balanced) (hstopped : accounts.queue.state.stopped = true)
    (operation : QueueOperation) :
    (accounts.perform operation).batches = accounts.batches ∧
      (accounts.perform operation).queue.state.stopped = true := by
  obtain ⟨hpending, hinFlight, hclosed⟩ := h.stopped hstopped
  cases operation with
  | push =>
    rw [perform, SpanQueue.push, if_pos hclosed]
    exact ⟨rfl, hstopped⟩
  | waitForBatch => exact ⟨rfl, hstopped⟩
  | closeAdmission => exact ⟨rfl, hstopped⟩
  | takeBatch max =>
    rw [perform, SpanQueue.takeBatch, hpending, take_nil]
    exact ⟨rfl, hstopped⟩
  | finishBatch failure =>
    have hclaimed := accounts.queue.claimed_finishBatchLocked failure
    exact ⟨if_pos hinFlight, hclaimed.stopped.trans hstopped⟩
  | stop reason => exact ⟨by rw [perform, if_pos hstopped], stopped_perform_stop reason⟩

end SpanAccounts

namespace BatchProcessor

variable {s t : BatchProcessor}

/-- The accounts balance, and no batch is in flight unless the worker holds it. -/
structure Accounted (s : BatchProcessor) : Prop where
  balanced : s.accounts.Balanced
  idle : s.worker.holds = false → s.queue.state.inFlight = 0

lemma Accounted.stop (h : Accounted s) (reason : DropReason) (stage : WorkerStage) :
    (s.accounts.perform (.stop reason)).Balanced ∧
      (stage.holds = false → (s.accounts.perform (.stop reason)).queue.state.inFlight = 0) := by
  have hbalanced := h.balanced.stop reason
  exact ⟨hbalanced, fun _ => (hbalanced.stopped (SpanAccounts.stopped_perform_stop reason)).2.1⟩

lemma Accounted.moved (h : Accounted s) {operation : Option QueueOperation} {stage : WorkerStage}
    (hmoved : Moved s operation stage) (requested : Bool) :
    Accounted { s.performed operation with worker := stage, flushRequested := requested } := by
  cases hmoved with
  | idle hoperation hbefore =>
    obtain rfl | rfl := hoperation
    · exact ⟨h.balanced, fun _ => h.idle hbefore⟩
    · exact ⟨h.balanced.waitForBatch, fun _ => h.idle hbefore⟩
  | took hbefore hbatch hafter =>
    refine ⟨h.balanced.takeBatch (h.idle hbefore), fun hnot => ?_⟩
    cases hafter.symm.trans hnot
  | tookNone hbefore hbatch =>
    refine ⟨h.balanced.takeBatch (h.idle hbefore), fun _ => ?_⟩
    have hlength := congrArg length hbatch
    rw [nextBatch, SpanQueue.takeBatch, length_take] at hlength
    change min s.queue.state.pending.length s.queue.batchSize = 0
    rw [length_nil] at hlength
    omega
  | finished =>
    exact ⟨h.balanced.finishBatch _, fun _ => (s.queue.claimed_finishBatchLocked _).inFlight⟩
  | stopped =>
    have hstop := h.stop .processorClosed .ended
    exact ⟨hstop.1, hstop.2⟩

lemma Accounted.worked (h : Accounted s) (hworked : Worked s t) : Accounted t := by
  cases hworked with
  | moved hmoved => exact h.moved hmoved _
  | resourceSet _ hstage => exact ⟨h.balanced, fun hholds => h.idle (hstage.holds ▸ hholds)⟩
  | flushReceived _ hstage =>
    rw [markReceived, updateCall_eq]
    exact ⟨h.balanced, fun hholds => h.idle (hstage.holds ▸ hholds)⟩
  | shutdownReceived _ hstage =>
    rw [markReceived, updateCall_eq]
    exact ⟨h.balanced, fun hholds => h.idle (hstage.holds ▸ hholds)⟩
  | completed hholds => exact ⟨h.balanced, fun _ => h.idle hholds⟩
  | left hoperation =>
    obtain rfl | ⟨reason, rfl⟩ := hoperation
    · exact ⟨h.balanced, fun hholds => by cases hholds⟩
    · exact ⟨h.balanced.stop reason, fun hholds => by cases hholds⟩

lemma Accounted.step (h : Accounted s) {event : ProcessorEvent} (hstep : s.step event = some t) :
    Accounted t := by
  cases event with
  | push =>
    rw [BatchProcessor.step] at hstep
    split_ifs at hstep
    cases hstep
    refine ⟨h.balanced.push, fun hholds => ?_⟩
    change (s.queue.push _).state.inFlight = 0
    rw [SpanQueue.push]
    split_ifs <;> exact h.idle hholds
  | setResource =>
    rw [BatchProcessor.step] at hstep
    split_ifs at hstep
    · cases hstep
      exact ⟨h.balanced, h.idle⟩
    · cases hstep
      exact h
  | forceFlush call =>
    rw [BatchProcessor.step] at hstep
    split_ifs at hstep
    cases hstep
    exact ⟨h.balanced, h.idle⟩
  | shutdownWithTimeout call =>
    rw [BatchProcessor.step] at hstep
    split_ifs at hstep
    cases hstep
    exact ⟨h.balanced.closeAdmission, h.idle⟩
  | call call action =>
    obtain ⟨c, -, hcalled⟩ := called_of_callStep hstep
    cases hcalled with
    | moved => exact ⟨h.balanced, h.idle⟩
    | sent => exact ⟨h.balanced, h.idle⟩
    | @stopped reason _ =>
      have hstop := h.stop reason s.worker
      exact ⟨hstop.1, hstop.2⟩
  | worker action => exact h.worked (worked_of_work hstep)
  | dropSender =>
    cases hstep
    exact ⟨h.balanced, h.idle⟩

variable {events : List ProcessorEvent}

lemma accounted_of_run {capacity batchSize : Nat}
    (h : run step (new capacity batchSize) events = some s) : Accounted s :=
  run_invariant (fun _ _ _ haccounted hstep => haccounted.step hstep)
    ⟨SpanAccounts.balanced_new capacity batchSize, fun _ => rfl⟩ h

lemma sizes_of_step {event : ProcessorEvent} (h : s.step event = some t) :
    t.queue.capacity = s.queue.capacity ∧ t.queue.batchSize = s.queue.batchSize := by
  obtain heq | ⟨operation, heq⟩ := accounts_of_step h
  · rw [queue, heq]
    exact ⟨rfl, rfl⟩
  · rw [queue, heq]
    exact SpanAccounts.sizes_perform operation

lemma sizes_of_run {capacity batchSize : Nat} (h : run step (new capacity batchSize) events = some s) :
    s.queue.capacity = capacity ∧ s.queue.batchSize = batchSize := by
  refine run_invariant (I := fun s : BatchProcessor => s.queue.capacity = capacity ∧
    s.queue.batchSize = batchSize) ?_
    ⟨rfl, rfl⟩ h
  intro s event t hsizes hstep
  obtain ⟨hcapacity, hbatchSize⟩ := sizes_of_step hstep
  exact ⟨hcapacity.trans hsizes.1, hbatchSize.trans hsizes.2⟩

lemma batches_of_run_of_stopped (haccounted : Accounted s) (hstopped : s.isStopped = true)
    (h : run step s events = some t) : t.accounts.batches = s.accounts.batches ∧ t.isStopped = true := by
  have hinvariant : Accounted t ∧ t.accounts.batches = s.accounts.batches ∧ t.isStopped = true := by
    refine run_invariant
      (I := fun t : BatchProcessor => Accounted t ∧ t.accounts.batches = s.accounts.batches ∧
        t.isStopped = true) ?_
      ⟨haccounted, rfl, hstopped⟩ h
    rintro u event v ⟨hu, hbatches, hstopped⟩ hstep
    refine ⟨hu.step hstep, ?_⟩
    obtain heq | ⟨operation, heq⟩ := accounts_of_step hstep
    · rw [isStopped, queue, heq]
      exact ⟨hbatches, hstopped⟩
    · have hperform := SpanAccounts.perform_of_stopped hu.balanced hstopped operation
      rw [isStopped, queue, heq]
      exact ⟨hperform.1.trans hbatches, hperform.2⟩
  exact hinvariant.2

/-- Every span is accounted for once, sizes are kept, and after a stop nothing is pending, in flight
or ever delivered. -/
theorem run_conserves_spans (capacity batchSize : Nat) {events : List ProcessorEvent}
    (h : run step (new capacity batchSize) events = some s) :
    s.accounts.offered = s.accounts.delivered.length + s.queue.metrics.totalDropped + s.queue.len +
      s.queue.state.inFlight ∧
      s.queue.len ≤ capacity ∧ s.queue.state.inFlight ≤ batchSize ∧
      s.queue.metrics.failedBatches =
        (s.accounts.batches.filter (fun batch => SpanAccounts.isFailed batch.outcome)).length ∧
      (∀ reason, (s.perform (.stop reason)).isStopped = true) ∧
      (s.isStopped = true → ∀ later t, run step s later = some t →
        t.queue.len = 0 ∧ t.queue.state.inFlight = 0 ∧ t.accounts.delivered = s.accounts.delivered) := by
  have haccounted := accounted_of_run h
  obtain ⟨hcapacity, hbatchSize⟩ := sizes_of_run h
  refine ⟨haccounted.balanced.conserved, ?_, ?_, ?_, fun reason =>
    SpanAccounts.stopped_perform_stop reason, ?_⟩
  · rw [← hcapacity]
    exact haccounted.balanced.pending_le
  · rw [← hbatchSize]
    exact haccounted.balanced.inFlight_le
  · rw [← countP_eq_length_filter]
    exact haccounted.balanced.failures
  · intro hstopped later t hlater
    obtain ⟨hbatches, hstill⟩ := batches_of_run_of_stopped haccounted hstopped hlater
    have hempty := (run_invariant (fun _ _ _ haccounted hstep => haccounted.step hstep) haccounted hlater :
      Accounted t).balanced.stopped hstill
    refine ⟨?_, hempty.2.1, ?_⟩
    · rw [SpanQueue.len, queue, hempty.1, length_nil]
    · rw [SpanAccounts.delivered, hbatches, SpanAccounts.delivered]

/-- A shutdown times out while a span is exported and claims it; the export that succeeds afterwards
counts for nothing. -/
def lateExport : List ProcessorEvent :=
  [.push, .push, .push, .worker .start, .worker .ready, .worker .decide, .worker .checkStopped,
    .worker .takeBatch,
    .shutdownWithTimeout 0, .call 0 .send, .call 0 (.giveUp false), .call 0 .stop,
      .worker (.exportReturns true)]

theorem lateExport_conserves : ∃ s, run step (new 2 1) lateExport = some s ∧
    (s.accounts.offered, s.queue.metrics.totalDropped, s.queue.metrics.failedBatches, s.isStopped) =
      (3, 3, 1, true) ∧
    s.accounts.offered =
      s.accounts.delivered.length + s.queue.metrics.totalDropped + s.queue.len +
        s.queue.state.inFlight := by
  have hcounts : (run step (new 2 1) lateExport).map (fun s =>
      (s.accounts.offered, s.queue.metrics.totalDropped, s.queue.metrics.failedBatches, s.isStopped)) =
      some (3, 3, 1, true) := by decide +kernel
  obtain ⟨s, hs, hcounts⟩ := Option.map_eq_some_iff.mp hcounts
  exact ⟨s, hs, hcounts, (run_conserves_spans 2 1 hs).1⟩

end BatchProcessor

end RackManagement
