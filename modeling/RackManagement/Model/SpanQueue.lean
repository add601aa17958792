import Mathlib.Logic.Function.Basic

/-!
# The span queue

The bounded queue of `observability/span_queue.rs` with its loss counters. A span is the number of
its offer.
-/

namespace RackManagement

inductive DropReason
  | exportError | exportTimeout | processorClosed | queueFull | shutdownTimeout
deriving DecidableEq

structure TraceMetrics where
  droppedSpans : DropReason → Nat
  failedBatches : Nat

namespace TraceMetrics

def zero : TraceMetrics := ⟨fun _ => 0, 0⟩

variable (metrics : TraceMetrics)

def dropSpans (reason : DropReason) (count : Nat) : TraceMetrics :=
  { metrics with droppedSpans :=
    Function.update metrics.droppedSpans reason (metrics.droppedSpans reason + count) }

def failBatch : TraceMetrics :=
  { metrics with failedBatches := metrics.failedBatches + 1 }

def totalDropped : Nat :=
  metrics.droppedSpans .exportError + metrics.droppedSpans .exportTimeout +
    metrics.droppedSpans .processorClosed +
    metrics.droppedSpans .queueFull + metrics.droppedSpans .shutdownTimeout

end TraceMetrics

structure QueueState where
  pending : List Nat
  inFlight : Nat
  accepting : Bool
  stopped : Bool
  exportFailureActive : Bool

inductive ExportDiagnostic
  | failing (spanCount : Nat)
  | recovered
deriving DecidableEq

structure SpanQueue where
  state : QueueState
  capacity : Nat
  batchSize : Nat
  metrics : TraceMetrics
  available : Bool

namespace SpanQueue

def new (capacity batchSize : Nat) : SpanQueue :=
  ⟨⟨[], 0, true, false, false⟩, capacity, batchSize, .zero, false⟩

variable (queue : SpanQueue)

def push (span : Nat) : SpanQueue :=
  if queue.state.accepting = false then { queue with metrics := queue.metrics.dropSpans .processorClosed 1 }
  else if queue.state.pending.length = queue.capacity then
    { queue with metrics := queue.metrics.dropSpans .queueFull 1 }
  else
    { queue with
      state := { queue.state with pending := queue.state.pending ++ [span] }
      available := queue.available || queue.state.pending.length + 1 = queue.batchSize }

def waitForBatch : SpanQueue := { queue with available := false }

def len : Nat := queue.state.pending.length

def closeAdmission : Bool × SpanQueue :=
  (queue.state.accepting, { queue with state := { queue.state with accepting := false } })

def takeBatch (max : Nat) : List Nat × SpanQueue :=
  let count := min queue.state.pending.length max
  (queue.state.pending.take count,
    { queue with state :=
      { queue.state with inFlight := count, pending := queue.state.pending.drop count } })

def finishBatchLocked (failure : Option DropReason) : Option ExportDiagnostic × SpanQueue :=
  let spanCount := queue.state.inFlight
  let claimed := { queue with state := { queue.state with inFlight := 0 } }
  if spanCount = 0 then (none, claimed)
  else
    let wasFailing := queue.state.exportFailureActive
    let claimed := { claimed with state := { claimed.state with exportFailureActive := failure.isSome } }
    match failure with
    | some reason =>
      (if wasFailing then none else some (.failing spanCount),
        { claimed with metrics := (claimed.metrics.dropSpans reason spanCount).failBatch })
    | none => (if wasFailing then some .recovered else none, claimed)

def finishBatch (failure : Option DropReason) : Option ExportDiagnostic × SpanQueue :=
  queue.finishBatchLocked failure

def stop (reason : DropReason) : Option ExportDiagnostic × SpanQueue :=
  let queue := { queue with state := { queue.state with accepting := false } }
  if queue.state.stopped then (none, queue)
  else
    let queue := { queue with state := { queue.state with stopped := true } }
    let (diagnostic, queue) := queue.finishBatchLocked (some reason)
    (diagnostic, { queue with
      metrics := queue.metrics.dropSpans reason queue.state.pending.length
      state := { queue.state with pending := [] } })

end SpanQueue

inductive BatchOutcome
  | delivered
  | failed (reason : DropReason)
deriving DecidableEq

structure TakenBatch where
  spans : List Nat
  outcome : Option BatchOutcome
deriving DecidableEq

/-- The queue with what became of the spans: the batches taken, the latest first, and the spans
claimed while they waited. -/
structure SpanAccounts where
  queue : SpanQueue
  offered : Nat
  batches : List TakenBatch
  claimed : List Nat

/-- The calls of the queue, each made under its lock. -/
inductive QueueOperation
  | push
  | waitForBatch
  | closeAdmission
  | takeBatch (max : Nat)
  | finishBatch (failure : Option DropReason)
  | stop (reason : DropReason)

namespace SpanAccounts

def new (capacity batchSize : Nat) : SpanAccounts := ⟨.new capacity batchSize, 0, [], []⟩

variable (accounts : SpanAccounts)

def settled (failure : Option DropReason) : List TakenBatch :=
  if accounts.queue.state.inFlight = 0 then accounts.batches
  else
    match accounts.batches with
    | [] => []
    | batch :: batches => { batch with outcome := some (failure.elim .delivered .failed) } :: batches

/-- One call of the queue, with what becomes of the spans. -/
def perform : QueueOperation → SpanAccounts
  | .push => { accounts with queue := accounts.queue.push accounts.offered, offered :=
    accounts.offered + 1 }
  | .waitForBatch => { accounts with queue := accounts.queue.waitForBatch }
  | .closeAdmission => { accounts with queue := accounts.queue.closeAdmission.2 }
  | .takeBatch max =>
    let (batch, queue) := accounts.queue.takeBatch max
    { accounts with
      queue := queue
      batches := if batch.isEmpty then accounts.batches else ⟨batch, none⟩ :: accounts.batches }
  | .finishBatch failure =>
    { accounts with queue := (accounts.queue.finishBatch failure).2, batches := accounts.settled failure }
  | .stop reason =>
    if accounts.queue.state.stopped then { accounts with queue := (accounts.queue.stop reason).2 }
    else
      { accounts with
        queue := (accounts.queue.stop reason).2
        batches := accounts.settled (some reason)
        claimed := accounts.claimed ++ accounts.queue.state.pending }

def spansOf (p : Option BatchOutcome → Bool) (batches : List TakenBatch) : List Nat :=
  (batches.filter (fun batch => p batch.outcome)).flatMap TakenBatch.spans

def isInFlight : Option BatchOutcome → Bool
  | none => true
  | some _ => false

def isDelivered : Option BatchOutcome → Bool
  | some .delivered => true
  | _ => false

def isFailed : Option BatchOutcome → Bool
  | some (.failed _) => true
  | _ => false

def inFlight : List Nat := spansOf isInFlight accounts.batches

/-- The spans of batches that were finished with no failure while in flight. -/
def delivered : List Nat := spansOf isDelivered accounts.batches

def lost : List Nat := spansOf isFailed accounts.batches ++ accounts.claimed

end SpanAccounts

end RackManagement
