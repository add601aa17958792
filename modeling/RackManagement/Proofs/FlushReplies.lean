import RackManagement.Proofs.SpanAccounting

/-!
# What a successful flush or shutdown says

The worker answers a call from the failure flag of the round that received its message. A batch that
fails before belongs to an earlier round, so the call returns success although its spans are lost.
-/

namespace RackManagement

open Library List Option

namespace SpanAccounts

variable {accounts : SpanAccounts} {span : Nat}

variable {p : Option BatchOutcome → Bool}

lemma mem_spansOf {batches : List TakenBatch} :
    span ∈ spansOf p batches ↔ ∃ batch ∈ batches, p batch.outcome = true ∧ span ∈ batch.spans := by
  simp [spansOf, mem_flatMap, mem_filter, and_assoc]

/-! ### The record of spans -/

def recorded (accounts : SpanAccounts) : List Nat :=
  accounts.queue.state.pending ++ accounts.claimed ++ accounts.batches.flatMap TakenBatch.spans

lemma mem_recorded_iff : span ∈ accounts.recorded ↔
    span ∈ accounts.queue.state.pending ∨ span ∈ accounts.inFlight ∨ span ∈ accounts.delivered ∨
      span ∈ accounts.lost := by
  have hbatches : (∃ batch ∈ accounts.batches, span ∈ batch.spans) ↔
      span ∈ spansOf isInFlight accounts.batches ∨ span ∈ spansOf isDelivered accounts.batches ∨
        span ∈ spansOf isFailed accounts.batches := by
    simp only [mem_spansOf]
    constructor
    · rintro ⟨batch, hbatch, hspan⟩
      cases houtcome : batch.outcome with
      | none => exact .inl ⟨batch, hbatch, by rw [houtcome]; rfl, hspan⟩
      | some outcome =>
        cases outcome with
        | delivered => exact .inr (.inl ⟨batch, hbatch, by rw [houtcome]; rfl, hspan⟩)
        | failed reason => exact .inr (.inr ⟨batch, hbatch, by rw [houtcome]; rfl, hspan⟩)
    · rintro (⟨batch, hbatch, -, hspan⟩ | ⟨batch, hbatch, -, hspan⟩ | ⟨batch, hbatch, -, hspan⟩)
      all_goals exact ⟨batch, hbatch, hspan⟩
  rw [recorded, mem_append, mem_append, mem_flatMap, hbatches, inFlight, delivered, lost, mem_append]
  tauto

lemma flatMap_settled (failure : Option DropReason) :
    (accounts.settled failure).flatMap TakenBatch.spans = accounts.batches.flatMap TakenBatch.spans := by
  unfold settled
  split_ifs
  · rfl
  · cases accounts.batches <;> rfl

lemma recorded_perform (accounts : SpanAccounts) (operation : QueueOperation) :
    (accounts.perform operation).recorded.Perm accounts.recorded ∨
      (operation = .push ∧
        (accounts.perform operation).recorded.Perm (accounts.offered :: accounts.recorded)) := by
  cases operation with
  | push =>
    rw [perform, SpanQueue.push]
    split_ifs
    · exact .inl (.refl _)
    · exact .inl (.refl _)
    · refine .inr ⟨rfl, ?_⟩
      change List.Perm (accounts.queue.state.pending ++ [accounts.offered] ++ accounts.claimed ++ _) _
      rw [append_assoc, append_assoc, singleton_append, recorded, append_assoc]
      exact perm_middle
  | waitForBatch => exact .inl (.refl _)
  | closeAdmission => exact .inl (.refl _)
  | takeBatch max =>
    left
    rw [perform, SpanQueue.takeBatch]
    dsimp only
    generalize min accounts.queue.state.pending.length max = count
    have hbatches : (if (accounts.queue.state.pending.take count).isEmpty then accounts.batches
          else ⟨accounts.queue.state.pending.take count, none⟩ :: accounts.batches).flatMap
            TakenBatch.spans =
        accounts.queue.state.pending.take count ++ accounts.batches.flatMap TakenBatch.spans := by
      split_ifs with hempty
      · rw [isEmpty_iff.mp hempty, nil_append]
      · rfl
    rw [recorded, recorded, hbatches]
    have hmoved := perm_append_comm_assoc (accounts.queue.state.pending.drop count ++ accounts.claimed)
      (accounts.queue.state.pending.take count) (accounts.batches.flatMap TakenBatch.spans)
    rw [← append_assoc (accounts.queue.state.pending.take count), ← append_assoc
      (accounts.queue.state.pending.take count), take_append_drop] at hmoved
    exact hmoved
  | finishBatch failure =>
    have hclaimed := accounts.queue.claimed_finishBatchLocked failure
    left
    change List.Perm ((accounts.queue.finishBatchLocked failure).2.state.pending ++ accounts.claimed ++
      (accounts.settled failure).flatMap TakenBatch.spans) _
    rw [hclaimed.pending, flatMap_settled]
    exact .refl _
  | stop reason =>
    left
    rw [perform]
    by_cases hstopped : accounts.queue.state.stopped = true
    · rw [if_pos hstopped, SpanQueue.stop, if_pos hstopped]
      exact .refl _
    · rw [if_neg hstopped, SpanQueue.stop, if_neg hstopped]
      change List.Perm ([] ++ (accounts.claimed ++ accounts.queue.state.pending) ++
        (accounts.settled (some reason)).flatMap TakenBatch.spans) _
      rw [nil_append, flatMap_settled]
      exact perm_append_comm.append_right _

/-- Spans have distinct numbers, given out in order. -/
structure Distinct (accounts : SpanAccounts) : Prop where
  nodup : accounts.recorded.Nodup
  lt_offered : ∀ span ∈ accounts.recorded, span < accounts.offered

lemma offered_perform (operation : QueueOperation) :
    accounts.offered ≤ (accounts.perform operation).offered := by
  cases operation with
  | push => exact Nat.le_succ _
  | stop reason =>
    rw [perform]
    split_ifs <;> exact Nat.le_refl _
  | _ => exact Nat.le_refl _

lemma Distinct.perform (h : accounts.Distinct) (operation : QueueOperation) :
    (accounts.perform operation).Distinct := by
  obtain hperm | ⟨rfl, hperm⟩ := recorded_perform accounts operation
  · refine ⟨hperm.nodup_iff.mpr h.nodup, fun span hspan => ?_⟩
    exact Nat.lt_of_lt_of_le (h.lt_offered span (hperm.mem_iff.mp hspan)) (offered_perform operation)
  · have hnew : accounts.offered ∉ accounts.recorded := fun hmem => Nat.lt_irrefl _ (h.lt_offered _ hmem)
    refine ⟨hperm.nodup_iff.mpr (nodup_cons.mpr ⟨hnew, h.nodup⟩), fun span hspan => ?_⟩
    obtain rfl | hold := mem_cons.mp (hperm.mem_iff.mp hspan)
    · exact Nat.lt_succ_self _
    · exact Nat.lt_succ_of_lt (h.lt_offered span hold)

lemma Distinct.not_mem_lost (h : accounts.Distinct) (hspan : span ∈ accounts.delivered) :
    span ∉ accounts.lost := by
  intro hlost
  obtain ⟨batch, hbatch, hdelivered, hmem⟩ := mem_spansOf.mp hspan
  obtain ⟨-, hbatches, hclaimed⟩ := nodup_append'.mp h.nodup
  rw [lost, mem_append] at hlost
  obtain hfailed | hclaim := hlost
  · obtain ⟨other, hother, hfailed, hmem'⟩ := mem_spansOf.mp hfailed
    have hne : batch ≠ other := by
      rintro rfl
      cases houtcome : batch.outcome with
      | none => simp [houtcome, isDelivered] at hdelivered
      | some outcome => cases outcome <;> simp_all [isDelivered, isFailed]
    have hsymm : Std.Symm (Function.onFun List.Disjoint TakenBatch.spans) :=
      ⟨fun _ _ hdisjoint => hdisjoint.symm⟩
    exact (nodup_flatMap.mp hbatches).2.forall hbatch hother hne hmem hmem'
  · exact hclaimed (mem_append_right _ hclaim) (mem_flatMap.mpr ⟨batch, hbatch, hmem⟩)

/-! ### What is permanent -/

structure Grows (before after : SpanAccounts) : Prop where
  recorded : ∀ span ∈ before.recorded, span ∈ after.recorded
  delivered : ∀ span ∈ before.delivered, span ∈ after.delivered
  lost : ∀ span ∈ before.lost, span ∈ after.lost
  stopped : before.queue.state.stopped = true → after.queue.state.stopped = true

lemma mem_spansOf_settled (hp : p none = false) (h : accounts.Flying)
    (failure : Option DropReason) (hspan : span ∈ spansOf p accounts.batches) :
    span ∈ spansOf p (accounts.settled failure) := by
  unfold settled
  cases h with
  | landed hcount =>
    rw [if_pos hcount]
    exact hspan
  | flying batch rest hbatches houtcome hcount hne =>
    have hzero : accounts.queue.state.inFlight ≠ 0 := by
      rw [hcount]
      exact fun hlength => hne (length_eq_zero_iff.mp hlength)
    rw [hbatches, spansOf_cons, houtcome, hp] at hspan
    rw [if_neg hzero, hbatches, spansOf_cons]
    exact mem_append_right _ hspan

lemma mem_spansOf_perform (hp : p none = false) (h : accounts.Flying)
    (operation : QueueOperation) (hspan : span ∈ spansOf p accounts.batches) :
    span ∈ spansOf p (accounts.perform operation).batches := by
  cases operation with
  | takeBatch max =>
    rw [perform]
    dsimp only
    split_ifs
    · exact hspan
    · rw [spansOf_cons]
      exact mem_append_right _ hspan
  | finishBatch failure => exact mem_spansOf_settled hp h failure hspan
  | stop reason =>
    rw [perform]
    split_ifs
    · exact hspan
    · exact mem_spansOf_settled hp h (some reason) hspan
  | _ => exact hspan

lemma mem_claimed_perform (operation : QueueOperation) (hspan : span ∈ accounts.claimed) :
    span ∈ (accounts.perform operation).claimed := by
  cases operation with
  | stop reason =>
    rw [perform]
    split_ifs
    · exact hspan
    · exact mem_append_left _ hspan
  | _ => exact hspan

lemma grows_perform (h : accounts.Balanced) (operation : QueueOperation) :
    accounts.Grows (accounts.perform operation) where
  recorded := by
    intro span hspan
    obtain hperm | ⟨-, hperm⟩ := recorded_perform accounts operation
    · exact hperm.mem_iff.mpr hspan
    · exact hperm.mem_iff.mpr (mem_cons_of_mem _ hspan)
  delivered := fun _ hspan => mem_spansOf_perform rfl h.flying operation hspan
  lost := by
    intro span hspan
    obtain hfailed | hclaimed := mem_append.mp hspan
    · exact mem_append_left _ (mem_spansOf_perform rfl h.flying operation hfailed)
    · exact mem_append_right _ (mem_claimed_perform operation hclaimed)
  stopped := fun hstopped => (perform_of_stopped h hstopped operation).2

lemma Grows.refl (accounts : SpanAccounts) : accounts.Grows accounts :=
  ⟨fun _ h => h, fun _ h => h, fun _ h => h, fun h => h⟩

/-! ### What is lost -/

lemma lost_takeBatch (max : Nat) : (accounts.perform (.takeBatch max)).lost = accounts.lost := by
  rw [perform, lost, lost]
  dsimp only
  split_ifs
  · rfl
  · rw [spansOf_cons]
    rfl

lemma lost_finishBatch_none (h : accounts.Flying) :
    (accounts.perform (.finishBatch none)).lost = accounts.lost := by
  change spansOf isFailed (accounts.settled none) ++ accounts.claimed = _
  rw [settled, lost]
  split_ifs
  · rfl
  · cases h with
    | landed hcount => contradiction
    | flying batch rest hbatches houtcome =>
      rw [hbatches, spansOf_cons, spansOf_cons, houtcome]
      rfl

lemma mem_delivered_of_takeBatch_eq_nil (h : accounts.Flying)
    (hidle : accounts.queue.state.inFlight = 0) {max : Nat}
    (hmax : 0 < max) (hnil : (accounts.queue.takeBatch max).1 = []) (hspan : span ∈ accounts.recorded)
    (hlost : span ∉ accounts.lost) : span ∈ accounts.delivered := by
  have hpending : accounts.queue.state.pending = [] := by
    have hlength := congrArg length hnil
    rw [SpanQueue.takeBatch, length_take, length_nil] at hlength
    apply length_eq_zero_iff.mp
    omega
  obtain hmem | hmem | hmem | hmem := mem_recorded_iff.mp hspan
  · rw [hpending] at hmem
    cases hmem
  · obtain ⟨batch, hbatch, houtcome, -⟩ := mem_spansOf.mp hmem
    cases h with
    | landed hcount hsettled =>
      cases hnone : batch.outcome with
      | none => exact absurd hnone (hsettled batch hbatch)
      | some outcome =>
        rw [hnone] at houtcome
        cases houtcome
    | flying latest rest hbatches hlatest hcount hne =>
      exact absurd (length_eq_zero_iff.mp (hcount.symm.trans hidle)) hne
  · exact hmem
  · exact absurd hmem hlost

end SpanAccounts

/-! ### Calls -/

namespace ProcessorCall

variable {c : ProcessorCall} {before after : SpanAccounts}

/-- No span that the call is about was lost before the worker received its message. -/
def Clean (c : ProcessorCall) : Prop :=
  ∃ lost, c.lostAtReceipt = some lost ∧ ∀ span ∈ c.snapshot, span ∉ lost

def Succeeds (c : ProcessorCall) : Prop := c.reply = some (.ok ()) ∨ c.phase = .returned (.ok ())

/-- A successful call was received; if no span of it was lost by then, all are delivered. -/
structure Sound (accounts : SpanAccounts) (c : ProcessorCall) : Prop where
  tracked : ∀ span ∈ c.snapshot, span ∈ accounts.recorded
  receipt : ∀ lost, c.lostAtReceipt = some lost → ∀ span ∈ lost, span ∈ accounts.lost
  kept : c.Succeeds → c.lostAtReceipt.isSome = true ∧
    (c.Clean → ∀ span ∈ c.snapshot, span ∈ accounts.delivered)

lemma Sound.grows (h : c.Sound before) (hgrows : before.Grows after) : c.Sound after where
  tracked := fun span hspan => hgrows.recorded span (h.tracked span hspan)
  receipt := fun lost hlost span hspan => hgrows.lost span (h.receipt lost hlost span hspan)
  kept := by
    intro hsucceeds
    obtain ⟨hsome, hdelivered⟩ := h.kept hsucceeds
    exact ⟨hsome, fun hclean span hspan => hgrows.delivered span (hdelivered hclean span hspan)⟩

lemma Sound.clean_of_received (h : c.Sound before) (hsome : c.lostAtReceipt.isSome = true)
    (hclean : { c with lostAtReceipt := some before.lost }.Clean) : c.Clean := by
  obtain ⟨lost, hlost⟩ := isSome_iff_exists.mp hsome
  obtain ⟨_, ⟨⟩, hnone⟩ := hclean
  exact ⟨lost, hlost, fun span hspan hmem => hnone span hspan (h.receipt lost hlost span hmem)⟩

lemma Sound.received (h : c.Sound before) : { c with lostAtReceipt := some before.lost }.Sound before where
  tracked := h.tracked
  receipt := by
    rintro _ ⟨⟩ span hspan
    exact hspan
  kept := by
    intro hsucceeds
    obtain ⟨hsome, hdelivered⟩ := h.kept hsucceeds
    exact ⟨rfl, fun hclean => hdelivered (h.clean_of_received hsome hclean)⟩

end ProcessorCall

@[simp] def Control.caller : Control → Option Nat
  | .flush call | .shutdown call => some call
  | .setResource => none

namespace BatchProcessor

variable {s t : BatchProcessor}

/-- What the worker can still promise: its round has failed, or none of the call's spans is lost and
an empty queue means delivery. -/
def Hopeful (s : BatchProcessor) (c : ProcessorCall) : Prop :=
  c.lostAtReceipt.isSome = true ∧
    (c.Clean → s.worker.failed = true ∨ s.isStopped = true ∨
      ∀ span ∈ c.snapshot, span ∉ s.accounts.lost ∧ (s.worker.drained = true → span ∈ s.accounts.delivered))

structure Honest (s : BatchProcessor) : Prop where
  accounted : Accounted s
  distinct : s.accounts.Distinct
  sound : ∀ call c, s.calls.lookup call = some c → c.Sound s.accounts
  audienceKnown : ∀ call ∈ s.audience, (s.calls.lookup call).isSome = true
  callersKnown :
    ∀ message ∈ s.controls, ∀ call, message.caller = some call → (s.calls.lookup call).isSome = true
  hopeful : ∀ call ∈ s.audience, ∀ c, s.calls.lookup call = some c → s.Hopeful c

variable {c : ProcessorCall} {stage : WorkerStage} {call : Nat}

lemma Hopeful.of_stage (h : s.Hopeful c) (hgrows : s.accounts.Grows t.accounts)
    (hfailed : s.worker.failed = true → t.worker.failed = true)
    (hlost : t.worker.failed = true ∨ t.isStopped = true ∨ t.accounts.lost = s.accounts.lost)
    (hdrained : t.worker.drained = true → t.worker.failed = true ∨ s.worker.drained = true ∨
      ∀ span ∈ c.snapshot, span ∉ s.accounts.lost → span ∈ t.accounts.delivered) : t.Hopeful c := by
  refine ⟨h.1, fun hclean => ?_⟩
  obtain hold | hold | hold := h.2 hclean
  · exact .inl (hfailed hold)
  · exact .inr (.inl (hgrows.stopped hold))
  · obtain hnew | hnew | hnew := hlost
    · exact .inl hnew
    · exact .inr (.inl hnew)
    · by_cases hfailing : t.worker.failed = true
      · exact .inl hfailing
      · refine .inr (.inr fun span hspan => ⟨hnew ▸ (hold span hspan).1, fun hempty => ?_⟩)
        obtain hempty | hdelivered := (hdrained hempty).resolve_left hfailing
        · exact hgrows.delivered span ((hold span hspan).2 hempty)
        · exact hdelivered span hspan (hold span hspan).1

lemma grows_performed (h : Accounted s) (operation : Option QueueOperation) :
    s.accounts.Grows (s.performed operation).accounts := by
  cases operation with
  | none => exact .refl _
  | some operation => exact SpanAccounts.grows_perform h.balanced operation

lemma distinct_performed (h : s.accounts.Distinct) (operation : Option QueueOperation) :
    (s.performed operation).accounts.Distinct := by
  cases operation with
  | none => exact h
  | some operation => exact h.perform operation

lemma performed_eq (operation : Option QueueOperation) :
    s.performed operation = { s with accounts := (s.performed operation).accounts } := by
  cases operation <;> rfl

variable {operation : Option QueueOperation}

lemma Honest.of_accounts (h : Honest s) {requested : Bool}
    (haccounted : Accounted { s.performed operation with worker := stage, flushRequested := requested })
    (hrequest : stage.request = s.worker.request)
    (hhopeful : ∀ c : ProcessorCall, c.Sound s.accounts → s.Hopeful c →
      { s.performed operation with worker := stage, flushRequested := requested }.Hopeful c) :
    Honest { s.performed operation with worker := stage, flushRequested := requested } := by
  have haudience :
      { s.performed operation with worker := stage, flushRequested := requested }.audience =
        s.audience := by
    rw [performed_eq, audience, audience, ← hrequest]
  have hcalls : (s.performed operation).calls = s.calls := by rw [performed_eq]
  have hcontrols : (s.performed operation).controls = s.controls := by rw [performed_eq]
  refine ⟨haccounted, distinct_performed h.distinct operation, ?_, ?_, ?_, ?_⟩
  · intro call c hc
    exact (h.sound call c (hcalls ▸ hc)).grows (grows_performed h.accounted operation)
  · intro call hcall
    exact hcalls ▸ h.audienceKnown call (haudience ▸ hcall)
  · intro message hmessage
    exact hcalls ▸ h.callersKnown message (hcontrols ▸ hmessage)
  · intro call hcall c hc
    have hc' : s.calls.lookup call = some c := hcalls ▸ hc
    exact hhopeful c (h.sound call c hc') (h.hopeful call (haudience ▸ hcall) c hc')

lemma Honest.moved (h : Honest s) (hsize : 0 < s.queue.batchSize)
    (hmoved : Moved s operation stage) (requested : Bool) :
    Honest { s.performed operation with worker := stage, flushRequested := requested } := by
  have haccounted := h.accounted.moved hmoved requested
  have hgrows := grows_performed h.accounted operation
  cases hmoved with
  | idle hoperation hbefore hafter hfailed hdrained hrequest =>
    refine h.of_accounts haccounted hrequest (fun c _ hhopeful => ?_)
    refine hhopeful.of_stage hgrows hfailed (.inr (.inr ?_)) (fun hempty => .inl (hdrained hempty))
    obtain rfl | rfl := hoperation <;> rfl
  | took hbefore hbatch hafter hdrained hfailed hrequest =>
    refine h.of_accounts haccounted hrequest (fun c _ hhopeful => ?_)
    refine hhopeful.of_stage hgrows hfailed (.inr (.inr (SpanAccounts.lost_takeBatch _))) (fun hempty => ?_)
    cases hdrained.symm.trans hempty
  | tookNone hbefore hbatch hafter hfailed hrequest =>
    refine h.of_accounts haccounted hrequest (fun c hsound hhopeful => ?_)
    refine hhopeful.of_stage hgrows hfailed (.inr (.inr (SpanAccounts.lost_takeBatch _)))
      (fun _ => .inr (.inr ?_))
    intro span hspan hlost
    apply hgrows.delivered
    exact SpanAccounts.mem_delivered_of_takeBatch_eq_nil h.accounted.balanced.flying
      (h.accounted.idle hbefore) hsize hbatch
      (hsound.tracked span hspan) hlost
  | @finished failure stage hafter hdrained hfailed hrequest =>
    refine h.of_accounts haccounted hrequest (fun c _ hhopeful => ?_)
    refine hhopeful.of_stage hgrows (fun hold => hfailed (.inl hold)) ?_ (fun hempty => ?_)
    · cases failure with
      | none => exact .inr (.inr (SpanAccounts.lost_finishBatch_none h.accounted.balanced.flying))
      | some reason => exact .inl (hfailed (.inr rfl))
    · cases hdrained.symm.trans hempty
  | stopped hstage =>
    refine h.of_accounts haccounted (by rw [hstage]; rfl) (fun c _ hhopeful => ?_)
    exact ⟨hhopeful.1, fun _ => .inr (.inl (SpanAccounts.stopped_perform_stop _))⟩

/-! ### Messages -/

lemma lookup_markReceived {other : Nat} (hc : (s.markReceived call).calls.lookup other = some c) :
    s.calls.lookup other = some c ∧ other ≠ call ∨
      other = call ∧ ∃ before, s.calls.lookup other = some before ∧
        c = { before with lostAtReceipt := some s.accounts.lost } := by
  rw [markReceived, lookup_updateCall] at hc
  split_ifs at hc with heq
  · obtain ⟨before, hbefore, rfl⟩ := map_eq_some_iff.mp hc
    exact .inr ⟨heq, before, heq ▸ hbefore, rfl⟩
  · exact .inl ⟨hc, heq⟩

lemma isSome_lookup_markReceived (call other : Nat) :
    ((s.markReceived call).calls.lookup other).isSome = (s.calls.lookup other).isSome := by
  rw [markReceived, lookup_updateCall]
  split_ifs with heq
  · rw [heq, isSome_map]
  · rfl

lemma Honest.received (h : Honest s) {message : Control} {rest : List Control} {waiters : List Nat}
    {requested : Bool} (hcontrols : s.controls = message :: rest) (hcaller : message.caller = some call)
    (hstage : Listens s.worker stage)
    (haudience : ∀ other ∈ waiters ++ stage.request.toList, other ∈ s.audience ∨ other = call)
    (haccounted : Accounted { s.markReceived call with
      controls := rest, flushWaiters := waiters, flushRequested := requested, worker := stage }) :
    Honest { s.markReceived call with
      controls := rest, flushWaiters := waiters, flushRequested := requested, worker := stage } := by
  have haccounts : (s.markReceived call).accounts = s.accounts := by rw [markReceived, updateCall_eq]
  have hcall := h.callersKnown message (hcontrols ▸ mem_cons_self) call hcaller
  refine ⟨haccounted, haccounts ▸ h.distinct, ?_, ?_, ?_, ?_⟩
  · intro other c hc
    rw [haccounts]
    obtain ⟨hc, -⟩ | ⟨-, before, hbefore, rfl⟩ := lookup_markReceived hc
    · exact h.sound other c hc
    · exact (h.sound other before hbefore).received
  · intro other hother
    refine (isSome_lookup_markReceived call other).trans ?_
    obtain hold | rfl := haudience other hother
    · exact h.audienceKnown other hold
    · exact hcall
  · intro message' hmessage other hother
    refine (isSome_lookup_markReceived call other).trans ?_
    exact h.callersKnown message' (hcontrols ▸ mem_cons_of_mem _ hmessage) other hother
  · intro other hother c hc
    rw [Hopeful, isStopped, queue, haccounts]
    have hundrained : stage.drained ≠ true := Bool.eq_false_iff.mp hstage.drained
    obtain ⟨hc, hne⟩ | ⟨-, before, hbefore, rfl⟩ := lookup_markReceived hc
    · obtain ⟨hsome, hpromise⟩ := h.hopeful other ((haudience other hother).resolve_right hne) c hc
      refine ⟨hsome, fun hclean => ?_⟩
      obtain hfailed | hstopped | hsafe := hpromise hclean
      · exact .inl (hstage.failed.trans hfailed)
      · exact .inr (.inl hstopped)
      · exact .inr (.inr fun span hspan =>
          ⟨(hsafe span hspan).1, fun hdrained => absurd hdrained hundrained⟩)
    · refine ⟨rfl, ?_⟩
      rintro ⟨_, ⟨⟩, hnone⟩
      exact .inr (.inr fun span hspan => ⟨hnone span hspan, fun hdrained => absurd hdrained hundrained⟩)

lemma Honest.sound_of_answered (h : Honest s) {calls : FiniteMap Nat ProcessorCall}
    (hanswered : Answered s.Truthful s.calls calls) (hc : calls.lookup call = some c) :
    c.Sound s.accounts := by
  obtain hsame | ⟨before, result, hbefore, hafter, htruthful⟩ := hanswered call
  · exact h.sound call c (hsame ▸ hc)
  · cases hc.symm.trans hafter
    have hsound := h.sound call before hbefore
    refine ⟨hsound.tracked, hsound.receipt, ?_⟩
    rintro (hreply | hreturned)
    · obtain ⟨haudience, hdrained, hfailed, hstopped⟩ := htruthful (some.inj hreply)
      obtain ⟨hsome, hpromise⟩ := h.hopeful call haudience before hbefore
      refine ⟨hsome, fun hclean => ?_⟩
      obtain hold | hold | hold := hpromise hclean
      · cases hfailed.symm.trans hold
      · cases hstopped.symm.trans hold
      · exact fun span hspan => (hold span hspan).2 hdrained
    · exact hsound.kept (.inr hreturned)

lemma isSome_lookup_of_answered {p : Nat → OTelSdkResult → Prop}
    {before after : FiniteMap Nat ProcessorCall}
    (h : Answered p before after) (call : Nat) :
    (after.lookup call).isSome = (before.lookup call).isSome := by
  obtain hsame | ⟨c, result, hbefore, hafter, -⟩ := h call
  · rw [hsame]
  · rw [hbefore, hafter]
    rfl

section

variable (h : Honest s)
include h

lemma Honest.worked (hsize : 0 < s.queue.batchSize) (hworked : Worked s t) : Honest t := by
  have haccounted := h.accounted.worked hworked
  cases hworked with
  | moved hmoved => exact h.moved hsize hmoved _
  | @resourceSet rest stage hcontrols hstage hrequest =>
    have haudience : { s with controls := rest, worker := stage }.audience = s.audience := by
      rw [audience, audience, hrequest, hstage.request]
    refine ⟨haccounted, h.distinct, h.sound, fun call hcall =>
      h.audienceKnown call (haudience ▸ hcall), ?_, ?_⟩
    · exact fun message hmessage => h.callersKnown message (hcontrols ▸ mem_cons_of_mem _ hmessage)
    · intro call hcall c hc
      refine (h.hopeful call (haudience ▸ hcall) c hc).of_stage (.refl _) ?_ (.inr (.inr rfl)) ?_
      · exact fun hfailed => hstage.failed.trans hfailed
      · exact fun hdrained => absurd hdrained (Bool.eq_false_iff.mp hstage.drained)
  | flushReceived hcontrols hstage hrequest =>
    refine h.received hcontrols rfl hstage ?_ haccounted
    intro other hother
    rw [hrequest, toList_none, append_nil, mem_append, mem_singleton] at hother
    exact hother.imp_left (mem_append_left _)
  | @shutdownReceived call rest stage hcontrols hstage hrequest =>
    refine h.received hcontrols rfl hstage ?_ haccounted
    intro other hother
    have hwaiters : (s.markReceived call).flushWaiters = s.flushWaiters := by
      rw [markReceived, updateCall_eq]
    rw [hrequest, toList_some, hwaiters, mem_append, mem_singleton] at hother
    exact hother.imp_left (mem_append_left _)
  | completed hholds hanswered =>
    refine ⟨haccounted, h.distinct, fun _ _ hc => h.sound_of_answered hanswered hc, fun _ hcall =>
      (by cases hcall), ?_,
      fun _ hcall => (by cases hcall)⟩
    intro message hmessage call hcaller
    exact (isSome_lookup_of_answered hanswered call).trans (h.callersKnown message hmessage call hcaller)
  | @left operation calls hoperation hanswered =>
    refine ⟨haccounted, distinct_performed h.distinct operation, ?_, fun _ hcall => (by cases hcall),
      fun _ hmessage => (by cases hmessage), fun _ hcall => (by cases hcall)⟩
    exact fun _ _ hc => (h.sound_of_answered hanswered hc).grows (grows_performed h.accounted operation)

/-! ### Callers -/

lemma Honest.perform {operation : QueueOperation} (haccounted : Accounted (s.perform operation))
    (hlost : (s.perform operation).isStopped = true ∨
      (s.perform operation).accounts.lost = s.accounts.lost) :
    Honest (s.perform operation) := by
  change Honest { s.performed (some operation) with worker := s.worker, flushRequested := s.flushRequested }
  refine h.of_accounts haccounted rfl ?_
  intro c _ hhopeful
  exact hhopeful.of_stage (grows_performed h.accounted _) (fun hfailed => hfailed) (.inr hlost)
    (fun hdrained => .inr (.inl hdrained))

lemma Honest.insert (hsound : c.Sound s.accounts)
    (hhopeful : call ∈ s.audience → s.Hopeful c) : Honest { s with calls := s.calls.insert call c } := by
  have hknown :
      ∀ other, (s.calls.lookup other).isSome = true →
        ((s.calls.insert call c).lookup other).isSome = true := by
    intro other hother
    rw [FiniteMap.lookup_insert_eq_ite]
    split_ifs
    · rfl
    · exact hother
  refine ⟨⟨h.accounted.balanced, h.accounted.idle⟩, h.distinct, ?_, fun other hother =>
    hknown other (h.audienceKnown other hother),
    fun message hmessage other hother => hknown other (h.callersKnown message hmessage other hother), ?_⟩
  · exact FiniteMap.forall_insert h.sound hsound
  · intro other hother d hd
    rw [FiniteMap.lookup_insert_eq_ite] at hd
    split_ifs at hd with heq
    · cases hd
      exact hhopeful (heq ▸ hother)
    · exact h.hopeful other hother d hd

lemma Honest.phase (hc : s.calls.lookup call = some c) {phase : CallPhase}
    (hphase : phase = .returned (.ok ()) → c.reply = some (.ok ())) :
    Honest { s with calls := s.calls.insert call { c with phase := phase } } := by
  have hsound := h.sound call c hc
  refine h.insert ⟨hsound.tracked, hsound.receipt, ?_⟩ (fun hcall => h.hopeful call hcall c hc)
  rintro (hreply | hreturned)
  · exact hsound.kept (.inl hreply)
  · exact hsound.kept (.inl (hphase hreturned))

lemma Honest.send {message : Control}
    (hknown : ∀ call, message.caller = some call → (s.calls.lookup call).isSome = true) :
    Honest { s with controls := s.controls ++ [message] } := by
  refine ⟨⟨h.accounted.balanced, h.accounted.idle⟩, h.distinct, h.sound, h.audienceKnown, ?_, h.hopeful⟩
  exact forall_mem_append.mpr ⟨h.callersKnown, forall_mem_singleton.mpr hknown⟩

lemma Honest.start (hnew : ¬(s.calls.lookup call).isSome = true)
    (hsnapshot : ∀ span ∈ c.snapshot, span ∈ s.accounts.recorded) (hreceipt : c.lostAtReceipt = none)
    (hsucceeds : ¬c.Succeeds) : Honest { s with calls := s.calls.insert call c } := by
  refine h.insert ⟨hsnapshot, ?_, fun h => absurd h hsucceeds⟩ (fun hcall =>
    absurd (h.audienceKnown call hcall) hnew)
  intro lost hlost
  cases hreceipt.symm.trans hlost

end

lemma mem_recorded_of_mem_unsettled {span : Nat} (h : span ∈ s.unsettled) : span ∈ s.accounts.recorded := by
  rw [SpanAccounts.mem_recorded_iff]
  obtain hpending | hflying := mem_append.mp h
  · exact .inl hpending
  · exact .inr (.inl hflying)

lemma Honest.step (h : Honest s) (hsize : 0 < s.queue.batchSize) {event : ProcessorEvent}
    (hstep : s.step event = some t) : Honest t := by
  have haccounted := h.accounted.step hstep
  cases event with
  | push =>
    rw [BatchProcessor.step] at hstep
    split_ifs at hstep
    cases hstep
    exact h.perform haccounted (.inr rfl)
  | setResource =>
    rw [BatchProcessor.step] at hstep
    split_ifs at hstep
    · cases hstep
      exact h.send (fun _ hcaller => by cases hcaller)
    · cases hstep
      exact h
  | forceFlush call =>
    rw [BatchProcessor.step] at hstep
    split_ifs at hstep with hguard
    cases hstep
    refine h.start (fun hknown => hguard (.inr hknown)) (fun _ => mem_recorded_of_mem_unsettled) rfl ?_
    rintro (hreply | hreturned)
    · cases hreply
    · cases hreturned
  | shutdownWithTimeout call =>
    rw [BatchProcessor.step] at hstep
    split_ifs at hstep with hguard
    cases hstep
    have hclosed : Honest (s.perform .closeAdmission) :=
      h.perform ⟨haccounted.balanced, haccounted.idle⟩ (.inr rfl)
    refine hclosed.start (fun hknown => hguard (.inr hknown))
      (fun _ => mem_recorded_of_mem_unsettled (s := s)) rfl ?_
    rintro (hreply | hreturned)
    · cases hreply
    · dsimp only at hreturned
      split_ifs at hreturned
      cases hreturned
  | call call action =>
    obtain ⟨c, hc, hcalled⟩ := called_of_callStep hstep
    cases hcalled with
    | moved _ hreturned => exact h.phase hc hreturned
    | sent =>
      have hwaiting : Honest { s with calls := s.calls.insert call { c with phase := .waiting } } :=
        h.phase hc (fun hreturned => by cases hreturned)
      refine hwaiting.send ?_
      intro other hother
      have hcaller : (control call c.kind).caller = some call := by cases c.kind <;> rfl
      cases hcaller.symm.trans hother
      rw [FiniteMap.lookup_insert_eq_ite, if_pos rfl]
      rfl
    | @stopped reason error =>
      have hphase :
          Honest { s with calls := s.calls.insert call { c with phase := .returned (.error error) } } :=
        h.phase hc (fun hreturned => by cases hreturned)
      exact hphase.perform haccounted (.inl (SpanAccounts.stopped_perform_stop reason))
  | worker action => exact h.worked hsize (worked_of_work hstep)
  | dropSender =>
    cases hstep
    exact ⟨haccounted, h.distinct, h.sound, h.audienceKnown, h.callersKnown, h.hopeful⟩

lemma honest_new (capacity batchSize : Nat) : Honest (new capacity batchSize) where
  accounted := ⟨SpanAccounts.balanced_new capacity batchSize, fun _ => rfl⟩
  distinct := ⟨nodup_nil, fun _ hspan => by cases hspan⟩
  sound := fun _ _ hc => by cases hc
  audienceKnown := fun _ hcall => by cases hcall
  callersKnown := fun _ hmessage => by cases hmessage
  hopeful := fun _ hcall => by cases hcall

variable {events : List ProcessorEvent}

lemma honest_of_run {capacity batchSize : Nat} (hsize : 0 < batchSize)
    (h : run step (new capacity batchSize) events = some s) : Honest s := by
  have hinvariant : Honest s ∧ 0 < s.queue.batchSize := by
    refine run_invariant (I := fun s : BatchProcessor => Honest s ∧ 0 < s.queue.batchSize) ?_
      ⟨honest_new capacity batchSize, hsize⟩ h
    rintro s event t ⟨hhonest, hpositive⟩ hstep
    exact ⟨hhonest.step hpositive hstep, (sizes_of_step hstep).2 ▸ hpositive⟩
  exact hinvariant.1

/-- The export ends with the round, before the worker looks at the message of the flush. -/
def flushDuringExport (ok : Bool) : List ProcessorEvent :=
  [.push, .worker .start, .worker .wake, .worker .decide, .worker .checkStopped, .worker .takeBatch,
    .forceFlush 0, .call 0 .checkAccepting, .call 0 .send, .worker (.exportReturns ok),
      .worker .checkStopped,
    .worker .takeBatch, .worker .complete, .worker .receive, .worker .decide, .worker .checkStopped,
      .worker .takeBatch,
    .worker .complete, .call 0 .receiveReply]

/-- The flush returns successfully after its span is lost. -/
theorem flushDuringExport_lost : ((run step (new 4 1) (flushDuringExport false)).map fun s =>
      ((s.calls.lookup 0).map fun c => (c.phase, c.snapshot), s.accounts.delivered, s.accounts.lost)) =
      some (some (.returned (.ok ()), [0]), [], [0]) := by
  decide +kernel

/-- A successful flush or shutdown has had all its spans delivered if and only if none was lost
before the worker received its message. -/
theorem delivered_iff_clean_of_returned_ok {capacity batchSize : Nat} (hsize : 0 < batchSize)
    {events : List ProcessorEvent}
    (h : run step (new capacity batchSize) events = some s) {call : Nat} {c : ProcessorCall}
    (hc : s.calls.lookup call = some c) (hok : c.phase = .returned (.ok ())) :
    (∀ span ∈ c.snapshot, span ∈ s.accounts.delivered) ↔ c.Clean := by
  have hhonest := honest_of_run hsize h
  have hsound := hhonest.sound call c hc
  obtain ⟨hsome, hdelivered⟩ := hsound.kept (.inr hok)
  refine ⟨fun hall => ?_, hdelivered⟩
  obtain ⟨lost, hlost⟩ := isSome_iff_exists.mp hsome
  refine ⟨lost, hlost, fun span hspan hmem => ?_⟩
  exact hhonest.distinct.not_mem_lost (hall span hspan) (hsound.receipt lost hlost span hmem)

theorem flushDuringExport_delivered :
    ∃ s c, run step (new 4 1) (flushDuringExport true) = some s ∧ s.calls.lookup 0 = some c ∧
      c.phase = .returned (.ok ()) ∧ c.snapshot = [0] ∧
        ((∀ span ∈ c.snapshot, span ∈ s.accounts.delivered) ↔ c.Clean) := by
  have hrun : ((run step (new 4 1) (flushDuringExport true)).bind fun s => s.calls.lookup 0).map
      (fun c => (c.phase, c.snapshot)) = some (.returned (.ok ()), [0]) := by
    decide +kernel
  obtain ⟨c, hbind, hc⟩ := map_eq_some_iff.mp hrun
  obtain ⟨s, hs, hlookup⟩ := bind_eq_some_iff.mp hbind
  obtain ⟨hphase, hsnapshot⟩ := Prod.mk.inj hc
  exact ⟨s, c, hs, hlookup, hphase, hsnapshot,
    delivered_iff_clean_of_returned_ok (by decide) hs hlookup hphase⟩

lemma grows_of_run (hs : Accounted s) (h : run step s events = some t) :
    s.accounts.Grows t.accounts := by
  let I (t : BatchProcessor) : Prop := Accounted t ∧ s.accounts.Grows t.accounts
  have hstep : ∀ u event v, I u → step u event = some v → I v := by
    rintro u event v ⟨hu, hgrows⟩ hstep
    refine ⟨hu.step hstep, ?_⟩
    obtain heq | ⟨operation, heq⟩ := accounts_of_step hstep
    · exact heq ▸ hgrows
    · have hmore := SpanAccounts.grows_perform hu.balanced operation
      exact heq ▸ ⟨fun _ h => hmore.recorded _ (hgrows.recorded _ h), fun _ h =>
        hmore.delivered _ (hgrows.delivered _ h),
        fun _ h => hmore.lost _ (hgrows.lost _ h), fun h => hmore.stopped (hgrows.stopped h)⟩
  exact (run_invariant hstep ⟨hs, .refl _⟩ h).2

lemma distinct_of_run {capacity batchSize : Nat}
    (h : run step (new capacity batchSize) events = some s) : s.accounts.Distinct := by
  refine run_invariant (I := fun s : BatchProcessor => s.accounts.Distinct) ?_
    (honest_new capacity batchSize).distinct h
  intro s event t hdistinct hstep
  obtain heq | ⟨operation, heq⟩ := accounts_of_step hstep
  · exact heq ▸ hdistinct
  · exact heq ▸ hdistinct.perform operation

/-- No span waits or is exported twice, and a span that was delivered or lost never becomes the other. -/
theorem spans_settle_once {capacity batchSize : Nat} {events later : List ProcessorEvent}
    (h : run step (new capacity batchSize) events = some s) (hlater : run step s later = some t) :
    s.accounts.recorded.Nodup ∧
    (∀ span ∈ s.accounts.delivered, span ∈ t.accounts.delivered ∧ span ∉ t.accounts.lost) ∧
    ∀ span ∈ s.accounts.lost, span ∈ t.accounts.lost ∧ span ∉ t.accounts.delivered := by
  have hwhole : run step (new capacity batchSize) (events ++ later) = some t := by
    rw [run_append, h, bind_some, hlater]
  have hdistinct := distinct_of_run hwhole
  have hgrows := grows_of_run (accounted_of_run h) hlater
  refine ⟨(distinct_of_run h).nodup, fun span hspan => ?_, fun span hspan => ?_⟩
  · have hdelivered := hgrows.delivered span hspan
    exact ⟨hdelivered, hdistinct.not_mem_lost hdelivered⟩
  · have hlost := hgrows.lost span hspan
    exact ⟨hlost, fun hdelivered => hdistinct.not_mem_lost hdelivered hlost⟩

theorem flushDuringExport_settles_once : ∃ s, run step (new 4 1) (flushDuringExport true) = some s ∧
    ∀ later t, run step s later = some t → ∀ span ∈ s.accounts.delivered, span ∉ t.accounts.lost := by
  obtain ⟨s, hs⟩ : ∃ s, run step (new 4 1) (flushDuringExport true) = some s :=
    isSome_iff_exists.mp (by decide +kernel)
  exact ⟨s, hs, fun later t hlater span hspan => ((spans_settle_once hs hlater).2.1 span hspan).2⟩

end BatchProcessor

end RackManagement
