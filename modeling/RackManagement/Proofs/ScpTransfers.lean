import RackManagement.Model.ScpTransfer

/-! # Exactness of SCP transfers -/

namespace RackManagement.Scp

open Library List
open Pldm (Bytes)

open FallibleProgram (Triple Contract)

abbrev Exchange := Request × Reply

def sent (past : List Exchange) : Bytes := past.flatMap sentBy

def received (past : List Exchange) : Bytes := past.flatMap receivedBy

lemma sent_append (past later : List Exchange) : sent (past ++ later) = sent past ++ sent later :=
  flatMap_append

lemma received_append (past later : List Exchange) :
    received (past ++ later) = received past ++ received later :=
  flatMap_append

section Transfer

variable (transfer : ScpTransfer) (source : Bytes)

def payload : Bytes := source.take transfer.fileSizeBytes.toNat

def expected : Bytes := controlRecord transfer ++ payload transfer source ++ [0]

/-- A write continues the expected sequence; the payload waits for one acknowledgement, and the
terminator for a complete source. -/
def Justified (past : List Exchange) : Request → Prop
  | .write bytes =>
    sent past ++ bytes <+: expected transfer source ∧
      ((controlRecord transfer).length < (sent past ++ bytes).length → received past = [0]) ∧
      ((controlRecord transfer ++ payload transfer source).length < (sent past ++ bytes).length →
        transfer.fileSizeBytes.toNat ≤ source.length)
  | _ => True

def contract (ε : Type) : Contract Bytes Request Reply ε where
  allowed _ _ _ := True
  Wait past _ request := Justified transfer source past request
  Fails _ _ _ := True

variable {transfer source} {ε : Type} {P : List Exchange → Bytes → Prop}

lemma perform_triple (request : Request) {error : String → SshError}
    (h : ∀ past s, P past s → Justified transfer source past request) :
    Triple (contract transfer source Stop) P (perform request error) (fun reply past s =>
      reply.ending = .success ∧ ∃ earlier, past = earlier ++ [(request, reply)] ∧ P earlier s) := by
  have hsend : Triple (contract transfer source Stop) P (FallibleProgram.send request) (fun reply past s =>
      ∃ earlier, past = earlier ++ [(request, reply)] ∧ P earlier s) :=
    .send h (fun past s reply hP _ => ⟨past, rfl, hP⟩)
  apply hsend.bind
  intro reply
  cases hending : reply.ending with
  | success => exact .pure (fun past s hpast => ⟨hending, hpast⟩)
  | failed details => exact .throw (fun _ _ _ => trivial)
  | cancelled => exact .throw (fun _ _ _ => trivial)
  | timedOut => exact .throw (fun _ _ _ => trivial)

variable {operation : String} {count : Nat}

lemma guarded_triple {α : Type} {step : Step α} {R : α → List Exchange → Bytes → Prop}
    (h : Triple (contract transfer source Stop) P step R) :
    Triple (contract transfer source SshError) P
      (withScpTimeoutAndCancellation transfer operation step) R := .mapError h

/-- The step appends exchanges that send these bytes and receive those. -/
def Appends (P : List Exchange → Bytes → Prop) (bytes acknowledgements : Bytes)
    (past : List Exchange) (s : Bytes) : Prop :=
  ∃ earlier later, past = earlier ++ later ∧ P earlier s ∧ sent later = bytes ∧
    received later = acknowledgements

lemma writeAndFlush_triple {bytes : Bytes} {writing flushing : String}
    (h : ∀ past s, P past s → Justified transfer source past (.write bytes)) :
    Triple (contract transfer source Stop) P (writeAndFlush transfer bytes writing flushing)
      (fun _ => Appends P bytes []) := by
  unfold writeAndFlush
  apply (perform_triple _ h).bind
  intro first
  refine (perform_triple .flush (fun _ _ _ => trivial)).bind (fun second => ?_)
  apply Triple.pure
  rintro past s ⟨-, earlier, rfl, hsuccess, start, rfl, hP⟩
  refine ⟨start, _, append_assoc _ _ _, hP, ?_, rfl⟩
  change (if first.ending = .success then bytes else _) ++ ([] ++ []) = bytes
  rw [if_pos hsuccess]
  simp

lemma eq_of_parseScpResponse {response : Bytes}
    (h : parseScpResponse transfer operation response = .ok true) : response = [0] := by
  unfold parseScpResponse at h
  cases response with
  | nil => cases h
  | cons status message =>
    dsimp only at h
    split at h
    case isTrue hstatus =>
      split at h
      case isTrue hempty =>
        rw [hstatus, isEmpty_iff.mp hempty]
      case isFalse => cases h
    case isFalse =>
      split at h
      case isTrue =>
        split at h
        case h_1 => split at h <;> cases h
        case h_2 => cases h
      case isFalse => cases h

lemma responseLoop_fails (fuel : Nat) {response : Bytes} (hne : response ≠ []) :
    Triple (contract transfer source Stop) P (responseLoop transfer operation fuel response)
      (fun _ _ _ => False) := by
  induction fuel generalizing response P with
  | zero => exact .throw (fun _ _ _ => trivial)
  | succ fuel ih =>
    unfold responseLoop
    refine (perform_triple .receive (fun _ _ _ => trivial)).bind (fun reply => ?_)
    dsimp only
    split
    case h_1 => exact .throw (fun _ _ _ => trivial)
    case h_2 hparse =>
      have hlength := congrArg length (eq_of_parseScpResponse hparse)
      have hpos := length_pos_of_ne_nil hne
      rw [length_append, length_singleton, length_singleton] at hlength
      omega
    case h_3 => exact ih (append_ne_nil_of_left_ne_nil hne _)

lemma readScpResponse_triple :
    Triple (contract transfer source Stop) P (readScpResponse transfer operation)
      (fun _ => Appends P [] [0]) := by
  unfold readScpResponse responseLoop
  refine (perform_triple .receive (fun _ _ _ => trivial)).bind (fun reply => ?_)
  dsimp only
  rw [nil_append]
  split
  case h_1 => exact .throw (fun _ _ _ => trivial)
  case h_2 hparse =>
    apply Triple.pure
    rintro past s ⟨hsuccess, earlier, rfl, hP⟩
    refine ⟨earlier, _, rfl, hP, rfl, ?_⟩
    change (if reply.ending = .success then [reply.byte] else []) ++ [] = [0]
    rw [if_pos hsuccess, eq_of_parseScpResponse hparse]
    rfl
  case h_3 =>
    exact (responseLoop_fails _ (cons_ne_nil _ _)).post (fun _ _ _ hfalse => hfalse.elim)

/-- The control record and this much of the source have been written. -/
structure Copying (transfer : ScpTransfer) (source : Bytes) (count : Nat) (past : List Exchange)
    (s : Bytes) : Prop where
  sent : sent past = controlRecord transfer ++ source.take count
  received : received past = [0]
  rest : s = source.drop count
  inside : count ≤ source.length

lemma writeScpControlRecord_triple :
    Triple (contract transfer source SshError) (fun past s => past = [] ∧ s = source)
      (writeScpControlRecord transfer)
      (fun _ => Copying transfer source 0) := by
  unfold writeScpControlRecord
  have hwrite : ∀ past (s : Bytes), past = [] ∧ s = source →
      Justified transfer source past (.write (controlRecord transfer)) := by
    rintro past s ⟨rfl, rfl⟩
    refine ⟨?_, ?_, ?_⟩
    · exact (prefix_append _ _).trans (prefix_append _ _)
    · intro hlength
      exact absurd hlength (lt_irrefl _)
    · intro hlength
      rw [length_append] at hlength
      exact absurd hlength (by simp [sent])
  refine (guarded_triple (writeAndFlush_triple hwrite)).bind (fun _ => ?_)
  refine (guarded_triple readScpResponse_triple).post (fun _ past s h => ?_)
  obtain ⟨earlier, later, rfl, ⟨start, written, rfl, ⟨rfl, rfl⟩, hsent, hreceived⟩, hnone, hack⟩ := h
  refine ⟨?_, ?_, ?_, ?_⟩
  · rw [sent_append, sent_append, hsent, hnone]
    simp [Scp.sent]
  · rw [received_append, received_append, hreceived, hack]
    rfl
  · rw [drop_zero]
  · exact Nat.zero_le _

/-- A chunk has been read after this much of the source was written. -/
structure Holding (transfer : ScpTransfer) (source : Bytes) (count capacity : Nat) (chunk : Bytes)
    (past : List Exchange) (s : Bytes) : Prop where
  sent : sent past = controlRecord transfer ++ source.take count
  received : received past = [0]
  chunk_eq : chunk = (source.drop count).take chunk.length
  fits : chunk.length ≤ capacity
  rest : s = source.drop (count + chunk.length)
  inside : count ≤ source.length

lemma readLocalFile_triple {capacity : Nat} (hcapacity : 0 < capacity) :
    Triple (contract transfer source Stop) (Copying transfer source count) (readLocalFile transfer capacity)
      (Holding transfer source count capacity) := by
  unfold readLocalFile
  refine (perform_triple (.readLocal capacity) (fun _ _ _ => trivial)).bind (fun reply => ?_)
  refine (Triple.read (R := fun rest past s => rest = s ∧
    ∃ earlier, past = earlier ++ [(.readLocal capacity, reply)] ∧
    Copying transfer source count earlier s) ?_).bind (fun rest => ?_)
  · rintro past s ⟨-, hpast⟩
    exact ⟨rfl, hpast⟩
  · refine (Triple.update (R := fun _ =>
      Holding transfer source count capacity (nextChunk reply.amount capacity rest)) ?_).bind
      (fun _ => .pure (fun _ _ h => h))
    rintro past s ⟨rfl, earlier, rfl, hcopying⟩
    refine ⟨?_, ?_, ?_, ?_, ?_, hcopying.inside⟩
    · rw [sent_append, hcopying.sent]
      exact append_nil _
    · rw [received_append, hcopying.received]
      rfl
    · rw [hcopying.rest]
      unfold nextChunk
      rw [length_take]
      exact take_eq_take_min
    · have hlength :
          (nextChunk reply.amount capacity rest).length ≤ max 1 (min reply.amount capacity) :=
            length_take_le _ _
      omega
    · rw [hcopying.rest, drop_drop]

lemma writeChunk_triple {capacity : Nat} {chunk : Bytes}
    (hsize : count + capacity ≤ transfer.fileSizeBytes.toNat) :
    Triple (contract transfer source Stop) (Holding transfer source count capacity chunk)
      (writeChunk transfer chunk)
      (fun _ => Copying transfer source (count + chunk.length)) := by
  have htake : chunk = (source.drop count).take chunk.length →
      source.take count ++ chunk = source.take (count + chunk.length) := by
    intro hchunk
    rw [take_add, ← hchunk]
  unfold writeChunk
  refine (perform_triple _ (fun past s hholding => ?_)).bind (fun reply => .pure ?_)
  · have hwritten : sent past ++ chunk = controlRecord transfer ++ source.take (count + chunk.length) := by
      rw [hholding.sent, append_assoc, htake hholding.chunk_eq]
    have hfits := hholding.fits
    have hstart : sent past ++ chunk <+: controlRecord transfer ++ payload transfer source := by
      rw [hwritten, prefix_append_right_inj]
      exact take_prefix_take_left (by omega)
    refine ⟨hstart.trans (prefix_append _ _), fun _ => hholding.received, ?_⟩
    intro hlength
    exact absurd hlength (not_lt.mpr hstart.length_le)
  · rintro past s ⟨hsuccess, earlier, rfl, hholding⟩
    have hlength := congrArg length hholding.chunk_eq
    rw [length_take, length_drop] at hlength
    have hinside := hholding.inside
    refine ⟨?_, ?_, hholding.rest, by omega⟩
    · have hsent : sent [(Request.write chunk, reply)] = chunk := by
        change (if reply.ending = .success then chunk else _) ++ [] = chunk
        rw [if_pos hsuccess, append_nil]
      rw [sent_append, hholding.sent, hsent, append_assoc, htake hholding.chunk_eq]
    · rw [received_append, hholding.received]
      rfl

lemma payloadLoop_triple {fuel remaining : Nat} (hfuel : remaining ≤ fuel)
    (hsize : count + remaining = transfer.fileSizeBytes.toNat) :
    Triple (contract transfer source SshError) (Copying transfer source count)
      (payloadLoop transfer fuel remaining count)
      (fun bytesSent past s => bytesSent = transfer.fileSizeBytes.toNat ∧
        Copying transfer source transfer.fileSizeBytes.toNat past s) := by
  induction fuel generalizing remaining count with
  | zero =>
    have hcount : count = transfer.fileSizeBytes.toNat := by omega
    exact .pure (fun past s h => ⟨hcount, hcount ▸ h⟩)
  | succ fuel ih =>
    unfold payloadLoop
    by_cases hdone : remaining = 0
    · have hcount : count = transfer.fileSizeBytes.toNat := by omega
      rw [if_pos hdone]
      exact .pure (fun past s h => ⟨hcount, hcount ▸ h⟩)
    · rw [if_neg hdone]
      have hbuffer : 0 < uploadBufferSizeBytes := by decide
      dsimp only
      rw [if_neg (not_lt.mpr (min_le_right _ _))]
      refine (guarded_triple (readLocalFile_triple (by omega))).bind (fun chunk => ?_)
      split
      · exact .throw (fun _ _ _ => trivial)
      · split
        · exact .throw (fun _ _ _ => trivial)
        · rename_i hnonempty _
          refine Triple.of_fact (fun hfits : chunk.length ≤ min remaining uploadBufferSizeBytes =>
            ?_) (fun _ _ h => h.fits)
          refine (guarded_triple (writeChunk_triple (by omega))).bind (fun _ => ?_)
          exact ih (by omega) (by omega)

lemma shutdownStream_triple :
    Triple (contract transfer source Stop) P (shutdownStream transfer) (fun _ => Appends P [] []) := by
  unfold shutdownStream
  refine (perform_triple .shutdown (fun _ _ _ => trivial)).bind (fun reply => .pure ?_)
  rintro past s ⟨-, earlier, rfl, hP⟩
  exact ⟨earlier, _, rfl, hP, rfl, rfl⟩

/-- Everything has been written, and then one more acknowledgement was received. -/
structure Finished (transfer : ScpTransfer) (source : Bytes) (past : List Exchange) : Prop where
  sent : sent past = expected transfer source
  complete : transfer.fileSizeBytes.toNat ≤ source.length
  acknowledged : ∃ before after, past = before ++ after ∧ Scp.sent before = expected transfer source ∧
    received before = [0] ∧ received after = [0]

lemma finishScpFile_triple :
    Triple (contract transfer source SshError)
      (Copying transfer source transfer.fileSizeBytes.toNat) (finishScpFile transfer)
      (fun _ past _ => Finished transfer source past) := by
  have hwrite : ∀ past s, Copying transfer source transfer.fileSizeBytes.toNat past s →
      Justified transfer source past (.write [0]) := by
    intro past s h
    refine ⟨?_, fun _ => h.received, fun _ => h.inside⟩
    rw [h.sent]
    exact prefix_rfl
  unfold finishScpFile
  refine (guarded_triple (writeAndFlush_triple hwrite)).bind (fun _ => ?_)
  refine (guarded_triple readScpResponse_triple).bind (fun _ => ?_)
  refine (guarded_triple shutdownStream_triple).post ?_
  rintro _ past s ⟨earlier, shutdown, rfl,
    ⟨written, response, rfl, ⟨copied, terminator, rfl, hcopying, hzero, hnothing⟩, hnone, hack⟩,
    hclosed, hsilent⟩
  have hbefore : sent (copied ++ terminator) = expected transfer source := by
    rw [sent_append, hcopying.sent, hzero]
    rfl
  refine ⟨?_, hcopying.inside, copied ++ terminator, response ++ shutdown, append_assoc _ _ _,
    hbefore, ?_, ?_⟩
  · rw [sent_append, sent_append, hbefore, hnone, hclosed, append_nil, append_nil]
  · rw [received_append, hcopying.received, hnothing, append_nil]
  · rw [received_append, hack, hsilent, append_nil]

lemma sendScpFile_triple :
    Triple (contract transfer source SshError) (fun past s => past = [] ∧ s = source) (sendScpFile transfer)
      (fun bytesSent past _ => bytesSent = transfer.fileSizeBytes.toNat ∧
        Finished transfer source past) := by
  unfold sendScpFile
  refine writeScpControlRecord_triple.bind (fun _ => ?_)
  refine (payloadLoop_triple le_rfl (Nat.zero_add _)).bind (fun bytesSent => ?_)
  refine Triple.of_fact (fun hcount : bytesSent = transfer.fileSizeBytes.toNat => ?_) (fun _ _ h => h.1)
  refine (finishScpFile_triple.pre (fun _ _ h => h.2)).bind (fun _ => .pure ?_)
  exact fun past s h => ⟨hcount, h⟩

lemma sentBy_isStart (bytes : Bytes) (reply : Reply) : sentBy (.write bytes, reply) <+: bytes := by
  change (if reply.ending = .success then bytes else bytes.take reply.amount) <+: bytes
  split
  · exact prefix_rfl
  · exact take_prefix _ _

lemma historic_sent {past : List Exchange} (h : Interaction.Historic (Justified transfer source) past) :
    sent past <+: expected transfer source ∧
      ((controlRecord transfer).length < (sent past).length → [0] <+: received past) ∧
      ((controlRecord transfer ++ payload transfer source).length < (sent past).length →
        transfer.fileSizeBytes.toNat ≤ source.length) := by
  induction past using reverseRecOn with
  | nil => exact ⟨List.nil_prefix, by simp [sent], by simp [sent]⟩
  | append_singleton past exchange ih =>
    obtain ⟨request, reply⟩ := exchange
    have hpast := ih h.left
    have hrequest := h past (request, reply) [] rfl
    have hsent : sent (past ++ [(request, reply)]) = sent past ++ sentBy (request, reply) := by
      rw [sent_append]
      exact congrArg (sent past ++ ·) (append_nil _)
    have hreceived : received past <+: received (past ++ [(request, reply)]) := by
      rw [received_append]
      exact prefix_append _ _
    cases request with
    | write bytes =>
      have hstart : sent past ++ sentBy (.write bytes, reply) <+: sent past ++ bytes := by
        rw [prefix_append_right_inj]
        exact sentBy_isStart bytes reply
      have hlength := hstart.length_le
      rw [hsent]
      refine ⟨hstart.trans hrequest.1, ?_, ?_⟩
      · intro hlong
        rw [← hrequest.2.1 (lt_of_lt_of_le hlong hlength)]
        exact hreceived
      · intro hlong
        exact hrequest.2.2 (lt_of_lt_of_le hlong hlength)
    | flush | receive | readLocal capacity | shutdown =>
      rw [hsent]
      change sent past ++ [] <+: _ ∧ (_ < (sent past ++ []).length → _) ∧ (_ < (sent past ++ []).length → _)
      rw [append_nil]
      exact ⟨hpast.1, fun hlong => (hpast.2.1 hlong).trans hreceived, hpast.2.2⟩

end Transfer

/-- What is written is a prefix of the expected sequence, no payload goes out before a zero byte was
received, and a return means that everything was written and acknowledged. -/
theorem sendScpFile_exact (transfer : ScpTransfer) (source : Bytes)
    (env : List Exchange → Request → Reply) :
    let run := Interaction.play env [] ((sendScpFile transfer).run source)
    sent run.1 <+: expected transfer source ∧
    (∀ before after, run.1 = before ++ after → (controlRecord transfer).length < (sent before).length →
      [0] <+: received before) ∧
    (∀ bytesSent, run.2.2 = .ok bytesSent → bytesSent = transfer.fileSizeBytes.toNat ∧
      sent run.1 = expected transfer source ∧
      ∃ before after, run.1 = before ++ after ∧ sent before = expected transfer source ∧
        received before = [0] ∧ received after = [0]) ∧
    (source.length < transfer.fileSizeBytes.toNat →
      (∃ error, run.2.2 = .error error) ∧ sent run.1 <+: controlRecord transfer ++ source) := by
  intro run
  have htriple : Triple (contract transfer source SshError) _ (sendScpFile transfer) _ := sendScpFile_triple
  have hmeets := (htriple [] source ⟨rfl, rfl⟩).historic Interaction.historic_nil
  have hanswers :
      ∀ s past request, (contract transfer source SshError).allowed s request (env past request) :=
    fun _ _ _ => trivial
  have hend := hmeets.play hanswers
  obtain ⟨hstart, hacknowledged, hcomplete⟩ := historic_sent hend.2
  refine ⟨hstart, ?_, ?_, ?_⟩
  · intro before after hsplit
    have hhistory := hend.2
    change Interaction.Historic _ run.1 at hhistory
    rw [hsplit] at hhistory
    exact (historic_sent hhistory.left).2.1
  · intro bytesSent hok
    have hreturned := hend.1
    change FallibleProgram.Ends _ _ run.1 run.2.1 run.2.2 at hreturned
    rw [hok] at hreturned
    exact ⟨hreturned.1, hreturned.2.sent, hreturned.2.acknowledged⟩
  · intro hshort
    constructor
    · cases hresult : run.2.2 with
      | error error => exact ⟨error, rfl⟩
      | ok bytesSent =>
        have hreturned := hend.1
        change FallibleProgram.Ends _ _ run.1 run.2.1 run.2.2 at hreturned
        rw [hresult] at hreturned
        exact absurd hreturned.2.complete (not_le.mpr hshort)
    · have hlength : (sent run.1).length ≤ (controlRecord transfer ++ payload transfer source).length := by
        by_contra hlong
        exact absurd (hcomplete (not_le.mp hlong)) (not_le.mpr hshort)
      have hpayload : payload transfer source = source := take_of_length_le (le_of_lt hshort)
      rw [hpayload] at hlength
      have hwhole : controlRecord transfer ++ source <+: expected transfer source := by
        rw [expected, hpayload]
        exact prefix_append _ _
      exact prefix_of_prefix_length_le hstart hwhole hlength

-- a sink that acknowledges everything, and reads of two bytes at most
example : (Interaction.play (fun _ _ => ⟨.success, 2, 0⟩) []
    ((sendScpFile ⟨"host", "image", "image", "image", 3, 30⟩).run
    [7, 8, 9])).2.2.toOption = some 3 := by
  decide +kernel

end RackManagement.Scp
