import RackManagement.Library.FiniteMap
import RackManagement.Library.Runs
import RackManagement.Model.SpanQueue

/-!
# The batch processor

The export worker of `observability/batch.rs`, its callers and the threads that push spans, cut into
steps with at most one queue operation each. The order that `biased` prescribes is not modelled, so
there are more runs here.
-/

namespace RackManagement

open Library

inductive OTelSdkError
  | alreadyShutdown
  | timeout
  | internalFailure (message : String)
deriving DecidableEq

abbrev OTelSdkResult := Except OTelSdkError Unit

inductive Control
  | flush (call : Nat)
  | setResource
  | shutdown (call : Nat)
deriving DecidableEq

/-- `failed` is the flag of the current round; `shutdown` is the call whose request is served. -/
inductive WorkerStage
  | starting
  | selecting
  | deciding
  | draining (failed : Bool)
  | taking (failed : Bool)
  | exporting (failed : Bool)
  | exportingLast (failed : Bool) (shutdown : Nat)
  | expired (shutdown : Nat)
  | closing (failed : Bool) (shutdown : Nat)
  | closingTake (failed : Bool) (shutdown : Nat)
  | closingExport (failed : Bool) (shutdown : Nat)
  | closingExporter (failed : Bool) (shutdown : Nat)
  | completing (failed : Bool)
  | dropping
  | ended
deriving DecidableEq

/-- The worker can be dropped where it awaits, and where the exporter may panic. -/
def WorkerStage.canDrop : WorkerStage → Bool
  | .starting | .selecting | .exporting _ | .exportingLast _ _ | .closingExport _ _ |
    .closingExporter _ _ => true
  | _ => false

def WorkerStage.isRunning : WorkerStage → Bool
  | .dropping | .ended => false
  | _ => true

inductive CallKind
  | flush | shutdown
deriving DecidableEq

inductive CallPhase
  | started
  | admitted
  | waiting
  | stopping (reason : DropReason) (error : OTelSdkError)
  | returned (result : OTelSdkResult)
deriving DecidableEq

/-- A call with its reply channel. Its spans and those lost when its message was received say what a reply means. -/
structure ProcessorCall where
  kind : CallKind
  snapshot : List Nat
  phase : CallPhase
  reply : Option OTelSdkResult
  lostAtReceipt : Option (List Nat)
deriving DecidableEq

structure BatchProcessor where
  accounts : SpanAccounts
  worker : WorkerStage
  flushWaiters : List Nat
  flushRequested : Bool
  controls : List Control
  calls : FiniteMap Nat ProcessorCall
  senderDropped : Bool

inductive WorkerStep
  | start
  | noticeStop
  | receive
  | disconnect
  | wake
  | ready
  | tick
  | decide
  | checkStopped
  | takeBatch
  | exportReturns (ok : Bool)
  | exportTimesOut (shutdownFirst : Bool)
  | deadlinePasses
  | stopExpired
  | exporterShutsDown (ok : Bool)
  | complete
  | drop
  | stop

inductive CallStep
  | checkAccepting
  | send
  | receiveReply
  | giveUp (disconnected : Bool)
  | stop

/-- What the callers, the worker and the owner of the processor do. -/
inductive ProcessorEvent
  | push
  | setResource
  | forceFlush (call : Nat)
  | shutdownWithTimeout (call : Nat)
  | call (call : Nat) (step : CallStep)
  | worker (step : WorkerStep)
  | dropSender

namespace BatchProcessor

def new (capacity batchSize : Nat) : BatchProcessor :=
  ⟨.new capacity batchSize, .starting, [], false, [], ∅, false⟩

variable (s : BatchProcessor)

def queue : SpanQueue := s.accounts.queue

def isStopped : Bool := s.queue.state.stopped

def perform (operation : QueueOperation) : BatchProcessor :=
  { s with accounts := s.accounts.perform operation }

def goTo (stage : WorkerStage) : BatchProcessor := { s with worker := stage }

variable (call : Nat)

def updateCall (f : ProcessorCall → ProcessorCall) : BatchProcessor :=
  match s.calls.lookup call with
  | none => s
  | some c => { s with calls := s.calls.insert call (f c) }

def reply (result : OTelSdkResult) : BatchProcessor :=
  s.updateCall call (fun c => { c with reply := some result })

def outcome (failed : Bool) : OTelSdkResult :=
  if failed then .error (.internalFailure "one or more trace batches were not delivered") else .ok ()

def completeFlushWaiters (failed : Bool) : BatchProcessor :=
  { s.flushWaiters.foldl (fun s waiter => s.reply waiter (outcome failed)) s with flushWaiters := [] }

/-- The worker's locals are dropped, with the receiver and the replies it still holds. -/
def leave : BatchProcessor :=
  { s with worker := .dropping, flushWaiters := [], controls := [] }

def markReceived : BatchProcessor :=
  s.updateCall call (fun c => { c with lostAtReceipt := some s.accounts.lost })

def receiveSelecting : Option BatchProcessor :=
  match s.controls with
  | [] => none
  | .flush call :: rest =>
    some (({ s with
      controls := rest
      flushWaiters := s.flushWaiters ++ [call]
      flushRequested := true }.markReceived call).goTo .deciding)
  | .setResource :: rest => some ({ s with controls := rest }.goTo .deciding)
  | .shutdown call :: rest =>
    some (({ s with controls := rest }.markReceived call).goTo (.closing false call))

def receiveExporting (failed : Bool) : Option BatchProcessor :=
  match s.controls with
  | [] => none
  | .flush call :: rest =>
    some (({ s with controls := rest, flushWaiters := s.flushWaiters ++
      [call] }.markReceived call).goTo (.exporting failed))
  | .setResource :: rest => some ({ s with controls := rest }.goTo (.exporting failed))
  | .shutdown call :: rest =>
    some (({ s with controls := rest }.markReceived call).goTo (.exportingLast failed call))

def replyTimeout : BatchProcessor :=
  ((s.reply call (.error .timeout)).completeFlushWaiters true).leave

def exportFailure (ok : Bool) : Option DropReason := if ok then none else some .exportError

/-- One action of the worker. `none` means that it cannot be taken at its stage. -/
def work (action : WorkerStep) : Option BatchProcessor :=
  match action, s.worker with
  | .start, .starting => some (s.goTo .selecting)
  | .noticeStop, .selecting => if s.isStopped then some (s.completeFlushWaiters true).leave else none
  | .receive, .selecting => s.receiveSelecting
  | .disconnect, .selecting => if s.senderDropped ∧ s.controls = [] then some s.leave else none
  | .wake, .selecting => if s.queue.available then some ((s.perform .waitForBatch).goTo .deciding) else none
  | .ready, .selecting =>
    if s.queue.batchSize ≤ s.queue.len ∨ s.flushRequested then some (s.goTo .deciding) else none
  | .tick, .selecting => some ({ s with flushRequested := 0 < s.queue.len }.goTo .deciding)
  | .decide, .deciding =>
    if s.queue.batchSize ≤ s.queue.len ∨ s.flushRequested then some (s.goTo (.draining false))
    else some (s.goTo .selecting)
  | .checkStopped, .draining failed =>
    if s.isStopped then some (s.completeFlushWaiters true).leave else some (s.goTo (.taking failed))
  | .takeBatch, .taking failed =>
    let next := s.perform (.takeBatch s.queue.batchSize)
    if (s.queue.takeBatch s.queue.batchSize).1.isEmpty then some (next.goTo (.completing failed))
    else some (next.goTo (.exporting failed))
  | .complete, .completing failed =>
    some ({ s.completeFlushWaiters (failed || s.isStopped) with flushRequested := false }.goTo .selecting)
  -- export_batch
  | .exportReturns ok, .exporting failed =>
    some ((s.perform (.finishBatch (exportFailure ok))).goTo (.draining (failed || !ok)))
  | .exportTimesOut _, .exporting _ =>
    some ((s.perform (.finishBatch (some .exportTimeout))).goTo (.draining true))
  | .receive, .exporting failed => s.receiveExporting failed
  | .disconnect, .exporting _ =>
    if s.senderDropped ∧ s.controls = [] then
      some ((s.perform (.finishBatch (some .processorClosed))).goTo (.draining true))
    else none
  | .exportReturns ok, .exportingLast failed call =>
    some ((s.perform (.finishBatch (exportFailure ok))).goTo (.closing (failed || !ok) call))
  | .exportTimesOut shutdownFirst, .exportingLast _ call =>
    if shutdownFirst then some ((s.perform (.finishBatch (some .shutdownTimeout))).goTo (.expired call))
    else some ((s.perform (.finishBatch (some .exportTimeout))).goTo (.closing true call))
  | .stopExpired, .expired call => some ((s.perform (.stop .shutdownTimeout)).replyTimeout call)
  -- shutdown_worker
  | .checkStopped, .closing failed call =>
    if s.isStopped then some (s.goTo (.closingExporter true call))
    else some (s.goTo (.closingTake failed call))
  | .deadlinePasses, .closingTake _ call => some ((s.perform (.stop .shutdownTimeout)).replyTimeout call)
  | .takeBatch, .closingTake failed call =>
    let next := s.perform (.takeBatch s.queue.batchSize)
    if (s.queue.takeBatch s.queue.batchSize).1.isEmpty then some (next.goTo (.closingExporter failed call))
    else some (next.goTo (.closingExport failed call))
  | .exportReturns ok, .closingExport failed call =>
    some ((s.perform (.finishBatch (exportFailure ok))).goTo (.closing (failed || !ok) call))
  | .exportTimesOut shutdownFirst, .closingExport _ call =>
    if shutdownFirst then some ((s.perform (.stop .shutdownTimeout)).replyTimeout call)
    else some ((s.perform (.finishBatch (some .exportTimeout))).goTo (.closing true call))
  | .exporterShutsDown ok, .closingExporter failed call =>
    let failed := failed || (!ok || s.isStopped)
    some (((s.reply call (outcome failed)).completeFlushWaiters failed).leave)
  -- the worker's end
  | .drop, stage => if stage.canDrop then some s.leave else none
  | .stop, .dropping => some ((s.perform (.stop .processorClosed)).goTo .ended)
  | _, _ => none

def workerStopped : OTelSdkError := .internalFailure "trace worker stopped"

def unsettled : List Nat := s.queue.state.pending ++ s.accounts.inFlight

def control : CallKind → Control
  | .flush => .flush call
  | .shutdown => .shutdown call

/-- One action of a caller that waits for a flush or a shutdown. -/
def callStep (action : CallStep) : Option BatchProcessor := do
  let c ← s.calls.lookup call
  let go (phase : CallPhase) : BatchProcessor := s.updateCall call (fun c => { c with phase := phase })
  match action, c.phase with
  | .checkAccepting, .started =>
    some (if s.queue.state.accepting then go .admitted else go (.returned (.error .alreadyShutdown)))
  | .send, .admitted =>
    if s.senderDropped then none
    else if s.worker.isRunning then some { go .waiting with controls := s.controls ++
      [control call c.kind] }
    else
      match c.kind with
      | .flush => some (go (.returned (.error workerStopped)))
      | .shutdown => some (go (.stopping .processorClosed workerStopped))
  | .receiveReply, .waiting => c.reply.map (fun result => go (.returned result))
  -- The reply may come while the caller gives up.
  | .giveUp disconnected, .waiting =>
    match c.kind with
    | .flush => some (go (.returned (.error .timeout)))
    | .shutdown =>
      some (if disconnected then go (.stopping .processorClosed workerStopped)
        else go (.stopping .shutdownTimeout .timeout))
  | .stop, .stopping reason error => some ((go (.returned (.error error))).perform (.stop reason))
  | _, _ => none

/-- A flush starts; its spans are those that are pending or in flight now. -/
def forceFlush : BatchProcessor :=
  { s with calls := s.calls.insert call ⟨.flush, s.unsettled, .started, none, none⟩ }

def shutdownWithTimeout : BatchProcessor :=
  let phase : CallPhase :=
    if s.queue.closeAdmission.1 then .admitted else .returned (.error .alreadyShutdown)
  { s.perform .closeAdmission with calls := s.calls.insert call ⟨.shutdown, s.unsettled, phase,
    none, none⟩ }

/-- One event. Whole runs are the interleavings of these. -/
def step : ProcessorEvent → Option BatchProcessor
  | .push => if s.senderDropped then none else some (s.perform .push)
  | .setResource =>
    if s.senderDropped then none
    else some (if s.worker.isRunning then { s with controls := s.controls ++ [.setResource] } else s)
  | .forceFlush call =>
    if s.senderDropped ∨ (s.calls.lookup call).isSome then none else some (s.forceFlush call)
  | .shutdownWithTimeout call =>
    if s.senderDropped ∨ (s.calls.lookup call).isSome then none else some (s.shutdownWithTimeout call)
  | .call call action => s.callStep call action
  | .worker action => s.work action
  | .dropSender => some { s with senderDropped := true }

end BatchProcessor

end RackManagement
