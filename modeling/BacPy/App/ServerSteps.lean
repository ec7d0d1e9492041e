import BacPy.App.ServerTsm
import BacPy.Segmentation.Reassembly

/-! What one step of the server TSM can do to the transaction objects and their table.

Every handler and timer acts on at most one entry of the table: it leaves it alone, rewrites its
object with a timer armed, or aborts it. Invariants of the server are derived from these cases.
-/

namespace BacPy

open Library

namespace ServerTransaction

/-- A segmented request is being received or a segmented response is being sent. -/
def Segmenting (txn : ServerTransaction) : Prop :=
  txn.state = .segmentedRequest ∨ txn.state = .segmentedResponse

/-- The parts of a transaction agree with its state: a segmented transfer has its receiver or
sender, and segment timers are armed during transfers only.
-/
structure Coherent (txn : ServerTransaction) : Prop where
  request : txn.state = .segmentedRequest → txn.segmentReceiver.isSome
  response : txn.state = .segmentedResponse → txn.segmentSender.isSome
  segmentTimer : ∀ waitForSeg,
    txn.timeoutHandle = some (.onServerSegmentTimeout waitForSeg) → txn.Segmenting

variable {txn : ServerTransaction}

/-- Outside transfers nothing is required of receiver and sender. -/
theorem Coherent.of_settled (settled : txn.state = .awaitResponse ∨ txn.state = .idle)
    (timer : txn.timeoutHandle = none ∨ txn.timeoutHandle = some .onTimeout)
    : txn.Coherent where
  request := fun receiving => by rw [receiving] at settled; simp at settled
  response := fun sending => by rw [sending] at settled; simp at settled
  segmentTimer := fun waitForSeg armed => by rw [armed] at timer; simp at timer

/-- Cancelling the timer of a coherent transaction leaves it coherent. -/
theorem Coherent.cancelTimeout (coherent : txn.Coherent)
    : txn.cancelTimeout.Coherent where
  request := coherent.request
  response := coherent.response
  segmentTimer := fun _ armed => by cases armed

theorem Coherent.release (coherent : txn.Coherent)
    : ({ txn with cachedResponse := none } : ServerTransaction).Coherent where
  request := coherent.request
  response := coherent.response
  segmentTimer := coherent.segmentTimer

/-- What stays of a transaction while its transfer goes on: its key, the capabilities of the
client, the cached response unless it is released, and the segments of the response.
-/
structure Continues (old new : ServerTransaction) : Prop where
  key : new.key = old.key
  maxApduLength : new.clientMaxApduLength = old.clientMaxApduLength
  maxSegments : new.clientMaxSegments = old.clientMaxSegments
  accepted : new.segmentedResponseAccepted = old.segmentedResponseAccepted
  cached : new.cachedResponse = old.cachedResponse ∨ new.cachedResponse = none
  sender : ∀ sender', new.segmentSender = some sender' →
    ∃ sender, old.segmentSender = some sender ∧ sender'.segments = sender.segments

/-- The APDU carries a segment of the current response window. -/
def InWindow (txn : ServerTransaction) (apdu : APDU) : Prop :=
  ∃ sender segment, txn.segmentSender = some sender ∧ segment ∈ sender.fillWindow
    ∧ apdu = .complexAck (txn.responseSegmentPdu sender segment)

/-- During a transfer the server sends SegmentACKs and segments of the response window. -/
def Sends (txn : ServerTransaction) (apdu : APDU) : Prop :=
  (∃ ack, apdu = .segmentAck ack) ∨ txn.InWindow apdu

/-- With a sender, the window is sent and its timer armed. -/
theorem fillAndSendResponseWindow_fst {sender : SegmentSender}
    (sending : txn.segmentSender = some sender)
    : txn.fillAndSendResponseWindow.1 = txn.startServerSegmentTimeout := by
  simp [fillAndSendResponseWindow, sending]

theorem fillAndSendResponseWindow_sends {apdu : APDU}
    (member : apdu ∈ txn.fillAndSendResponseWindow.2)
    : txn.fillAndSendResponseWindow.1.Sends apdu := by
  unfold fillAndSendResponseWindow at member ⊢
  split at member
  · cases member
  · next sender sending =>
      obtain ⟨segment, inside, rfl⟩ := List.mem_map.mp member
      exact Or.inr ⟨sender, segment, sending, inside, rfl⟩

end ServerTransaction

namespace ServerTSM

@[simp] theorem get_write (self : ServerTSM) (ref other : Nat) (txn)
    : (self.write ref txn).objects.get other
      = if other = ref then some txn else self.objects.get other :=
  Dict.get_set ..

@[simp] theorem write_transactions (self : ServerTSM) (ref : Nat) (txn)
    : (self.write ref txn).transactions = self.transactions :=
  rfl

/-- `lookup` follows the table and then the reference. -/
theorem lookup_eq_some {self : ServerTSM} {key : Key} {ref : Nat} {txn : ServerTransaction}
    : self.lookup key = some (ref, txn)
      ↔ self.transactions.get key = some ref ∧ self.objects.get ref = some txn := by
  simp only [lookup, Option.bind_eq_some_iff, Option.map_eq_some_iff, Prod.mk.injEq]
  constructor
  · rintro ⟨other, stored, object, found, rfl, rfl⟩
    exact ⟨stored, found⟩
  · rintro ⟨stored, found⟩
    exact ⟨ref, stored, txn, found, rfl, rfl⟩

-- Steps on one entry

/-- The entry under a key makes progress in its transfer, or is aborted. -/
inductive EntryAction (self : ServerTSM) (key : Key) : ServerTSM → List Sent → Prop
  | rewritten {ref old new apdus} (stored : self.transactions.get key = some ref)
    (found : self.objects.get ref = some old) (segmenting : old.Segmenting)
    (continues : old.Continues new) (coherent : new.Coherent)
    (armed : new.timeoutHandle.isSome) (sends : ∀ apdu ∈ apdus, new.Sends apdu)
    : EntryAction self key (self.write ref new) (sentFor ref new true apdus)
  | aborted {ref old new reason} (stored : self.transactions.get key = some ref)
    (found : self.objects.get ref = some old) (segmenting : old.Segmenting)
    (continues : old.Continues new) (coherent : new.Coherent)
    : EntryAction self key (self.abortServerTransaction ref new reason).1
        (self.abortServerTransaction ref new reason).2

/-- What a handler or a segment timer does to the entry under a key during a transfer. -/
inductive EntryStep (self : ServerTSM) (key : Key) (next : ServerTSM) (sent : List Sent) : Prop
  | unchanged (same : next = self) (silent : sent = [])
  | acted (action : self.EntryAction key next sent)

/-- What `receive_confirmed_request` does and returns. -/
inductive Received (self : ServerTSM) (key : Key) (pdu : ConfirmedRequestPDU)
    : ServerTSM × List Sent × Option (Nat × Option Bytes) → Prop
  | entry {next sent result} (step : self.EntryStep key next sent)
    (noData : ∀ ref data, result ≠ some (ref, some data))
    : Received self key pdu (next, sent, result)
  | resent {ref old response} (stored : self.transactions.get key = some ref)
    (found : self.objects.get ref = some old) (elsewhere : old.state ≠ .segmentedRequest)
    (cached : old.cachedResponse = some response)
    : Received self key pdu (self, [{
        apdu := response
        destination := key.1
        expectingReply := false
        transaction := some ref
      }], none)
  | completed {ref old new ack data} (stored : self.transactions.get key = some ref)
    (found : self.objects.get ref = some old) (receiving : old.state = .segmentedRequest)
    (continues : old.Continues new) (awaits : new.state = .awaitResponse)
    (unarmed : new.timeoutHandle = none) (numbered : pdu.sequenceNumber.isSome)
    : Received self key pdu (self.write ref new, sentFor ref new true [.segmentAck ack],
        some (ref, some data))
  | created {txn apdus data} (absent : self.lookup key = none) (keyed : txn.key = key)
    (coherent : txn.Coherent) (armed : txn.timeoutHandle.isSome)
    (fresh : txn.cachedResponse = none ∧ txn.segmentSender = none)
    (awaits : data.isSome → txn.state = .awaitResponse)
    (maxApduLength : txn.clientMaxApduLength = pdu.maxApduLength)
    (acks : ∀ apdu ∈ apdus, ∃ ack, apdu = .segmentAck ack)
    : Received self key pdu (
        {
          self.write self.nextRef txn with
          nextRef := self.nextRef + 1
          transactions := self.transactions.set key self.nextRef
        },
        sentFor self.nextRef txn true apdus, some (self.nextRef, data))

-- The handlers

def AllCoherent (self : ServerTSM) : Prop :=
  ∀ ref txn, self.objects.get ref = some txn → txn.Coherent

variable {self : ServerTSM} {key : Key} {ref : Nat} {txn : ServerTransaction}

/-- A later segment of a request either completes it or steps its entry. -/
theorem handleRequestSegment_received {pdu} (stored : self.transactions.get key = some ref)
    (found : self.objects.get ref = some txn) (receiving : txn.state = .segmentedRequest)
    (coherent : txn.Coherent)
    : self.Received key pdu (self.handleRequestSegment ref txn pdu) := by
  have segmenting : txn.Segmenting := Or.inl receiving
  unfold handleRequestSegment
  split
  · next receiver sequenceNumber _ numbered =>
      have complete := @SegmentReceiver.isComplete_of_receiveSegment receiver sequenceNumber
        pdu.serviceRequest pdu.moreFollows
      generalize receiver.receiveSegment sequenceNumber pdu.serviceRequest pdu.moreFollows
        = outcome at complete ⊢
      obtain ⟨receiver, action, ackSeq⟩ := outcome
      have rearmed (apdus : List APDU)
          (acks : ∀ apdu ∈ apdus, ∃ ack, apdu = APDU.segmentAck ack)
          : self.EntryAction key
              (self.write ref { txn with segmentReceiver := some receiver }.startSegmentTimeout)
              (sentFor ref { txn with segmentReceiver := some receiver }.startSegmentTimeout true
                apdus) := by
        refine .rewritten stored found segmenting ?_ ?_ rfl fun apdu member =>
          Or.inl (acks apdu member)
        · exact ⟨rfl, rfl, rfl, rfl, Or.inl rfl, fun sender' sending => ⟨sender', sending, rfl⟩⟩
        · exact ⟨fun _ => rfl, coherent.response, fun _ _ => segmenting⟩
      have oneAck (ack : SegmentAckPDU)
          : ∀ apdu ∈ [APDU.segmentAck ack], ∃ ack, apdu = APDU.segmentAck ack := by
        intro apdu member
        exact ⟨ack, List.mem_singleton.mp member⟩
      cases action with
      | complete =>
        obtain ⟨data, reassembled⟩ := SegmentReceiver.toOption_reassemble (complete rfl)
        dsimp only at reassembled ⊢
        rw [reassembled]
        exact .completed stored found receiving
          ⟨rfl, rfl, rfl, rfl, Or.inl rfl, fun sender' sending => ⟨sender', sending, rfl⟩⟩
          rfl rfl (by simp [numbered])
      | sendAck => exact .entry (.acted (rearmed _ (oneAck _))) (by simp)
      | resendLastAck => exact .entry (.acted (rearmed _ (oneAck _))) (by simp)
      | proceed => exact .entry (.acted (rearmed [] (by simp))) (by simp)
      | abort =>
        exact .entry (.acted (.aborted stored found segmenting
          ⟨rfl, rfl, rfl, rfl, Or.inl rfl, fun sender' sending => ⟨sender', sending, rfl⟩⟩
          ⟨fun _ => rfl, coherent.response, fun _ _ => segmenting⟩)) (by simp)
  · exact .entry (.unchanged rfl rfl) (by simp)

/-- The new-request branch stores one new object with an armed timer. -/
theorem receiveNewRequest_received {pdu : ConfirmedRequestPDU} {source : BACnetAddress}
    (absent : self.lookup (source, pdu.invokeId) = none)
    : self.Received (source, pdu.invokeId) pdu (self.receiveNewRequest pdu source) := by
  have oneAck (ack : SegmentAckPDU)
      : ∀ apdu ∈ [APDU.segmentAck ack], ∃ ack, apdu = APDU.segmentAck ack := by
    intro apdu member
    exact ⟨ack, List.mem_singleton.mp member⟩
  have settled (txn : ServerTransaction) (awaits : txn.state = .awaitResponse)
      (armed : txn.timeoutHandle = some .onTimeout)
      : txn.Coherent :=
    .of_settled (Or.inl awaits) (Or.inr armed)
  let receiving := { newTransaction pdu source with segmentReceiver := some (self.newReceiver pdu) }
  unfold receiveNewRequest
  split
  · split
    · exact @Received.created self _ pdu
        { receiving with state := .segmentedRequest }.startSegmentTimeout _ none absent rfl
        ⟨fun _ => rfl, fun sending => (by cases sending), fun _ _ => Or.inl rfl⟩ rfl ⟨rfl, rfl⟩
        (fun data => by cases data) rfl (oneAck _)
    · exact @Received.created self _ pdu receiving _ _ absent rfl (settled _ rfl rfl) rfl
        ⟨rfl, rfl⟩ (fun _ => rfl) rfl (oneAck _)
  · exact @Received.created self _ pdu (newTransaction pdu source) [] _ absent rfl
      (settled _ rfl rfl) rfl ⟨rfl, rfl⟩ (fun _ => rfl) rfl (by simp)

/-- `receive_confirmed_request` by its cases: a segment of a transfer, a duplicate, a new
request.
-/
theorem receiveConfirmedRequest_received {pdu : ConfirmedRequestPDU} {source : BACnetAddress}
    (coherent : self.AllCoherent)
    : self.Received (source, pdu.invokeId) pdu (self.receiveConfirmedRequest pdu source) := by
  unfold receiveConfirmedRequest
  split
  · next ref existing present =>
      obtain ⟨stored, found⟩ := lookup_eq_some.mp present
      split
      · next receiving =>
          exact handleRequestSegment_received stored found receiving (coherent ref existing found)
      · next elsewhere =>
        split
        · next response cached => exact .resent stored found elsewhere cached
        · exact .entry (.unchanged rfl rfl) (by simp)
  · next absent => exact receiveNewRequest_received absent

/-- A window of the response keeps its entry coherent and armed. -/
theorem fillAndSendResponseWindow_action {new : ServerTransaction} {sender : SegmentSender}
    (stored : self.transactions.get key = some ref) (found : self.objects.get ref = some txn)
    (segmenting : txn.Segmenting) (continues : txn.Continues new)
    (state : new.state = .segmentedResponse) (sending : new.segmentSender = some sender)
    : self.EntryAction key (self.writeAndSend ref new.fillAndSendResponseWindow).1
        (self.writeAndSend ref new.fillAndSendResponseWindow).2 := by
  have sends := @ServerTransaction.fillAndSendResponseWindow_sends new
  have moved := ServerTransaction.fillAndSendResponseWindow_fst sending
  unfold writeAndSend
  rw [moved] at sends ⊢
  refine .rewritten stored found segmenting ?_ ?_ rfl fun apdu member => sends member
  · exact ⟨continues.key, continues.maxApduLength, continues.maxSegments, continues.accepted,
      continues.cached, continues.sender⟩
  · refine ⟨fun receiving => ?_, fun _ => by simp [ServerTransaction.startServerSegmentTimeout,
      sending], fun _ _ => Or.inr state⟩
    rw [ServerTransaction.startServerSegmentTimeout, state] at receiving
    cases receiving

theorem handleSegmentAckForResponse_step (coherent : self.AllCoherent) (source : BACnetAddress)
    (pdu : SegmentAckPDU)
    : self.EntryStep (source, pdu.invokeId) (self.handleSegmentAckForResponse source pdu).1
        (self.handleSegmentAckForResponse source pdu).2 := by
  unfold handleSegmentAckForResponse
  split
  · exact .unchanged rfl rfl
  · next ref txn present =>
      obtain ⟨stored, found⟩ := lookup_eq_some.mp present
      split
      · exact .unchanged rfl rfl
      · next sending =>
          have state : txn.state = .segmentedResponse := not_not.mp sending
          have segmenting : txn.Segmenting := Or.inr state
          split
          · exact .unchanged rfl rfl
          · next sender hasSender =>
              have same : (sender.handleSegmentAck pdu.sequenceNumber pdu.actualWindowSize
                  pdu.negativeAck).1.segments = sender.segments :=
                rfl
              split
              · exact .acted (.aborted stored found segmenting ⟨rfl, rfl, rfl, rfl, Or.inl rfl,
                  fun sender' sending => ⟨sender', sending, rfl⟩⟩ (coherent ref txn found))
              · dsimp only
                split
                · refine .acted (@EntryAction.rewritten self _ ref txn _ [] stored found
                    segmenting ⟨rfl, rfl, rfl, rfl, Or.inl rfl, ?_⟩
                    (.of_settled (Or.inr rfl) (Or.inr rfl)) rfl (by simp))
                  exact fun sender' sending => by cases sending
                · refine .acted (fillAndSendResponseWindow_action stored found segmenting
                    ⟨rfl, rfl, rfl, rfl, Or.inl rfl, ?_⟩ state rfl)
                  intro sender' sending
                  exact ⟨sender, hasSender, Option.some.inj sending ▸ same⟩

/-- A segment timer acts on a transfer under its key: it retries or aborts. -/
theorem onServerSegmentTimeout_action (stored : self.transactions.get key = some ref)
    (found : self.objects.get ref = some txn) (segmenting : txn.Segmenting)
    (coherent : txn.Coherent)
    : self.EntryAction key (self.onServerSegmentTimeout key).1
        (self.onServerSegmentTimeout key).2 := by
  have present : self.lookup key = some (ref, txn) := lookup_eq_some.mpr ⟨stored, found⟩
  have kept : txn.Continues { txn with segRetryCount := txn.segRetryCount + 1 } :=
    ⟨rfl, rfl, rfl, rfl, Or.inl rfl, fun sender' sending => ⟨sender', sending, rfl⟩⟩
  have same : txn.Continues txn :=
    ⟨rfl, rfl, rfl, rfl, Or.inl rfl, fun sender' sending => ⟨sender', sending, rfl⟩⟩
  unfold onServerSegmentTimeout
  simp only [present]
  split
  · next receiving =>
      obtain ⟨receiver, hasReceiver⟩ := Option.isSome_iff_exists.mp (coherent.request receiving)
      split
      · split
        · next noReceiver => simp [hasReceiver] at noReceiver
        · next receiver' hasReceiver' =>
            refine .rewritten stored found segmenting ⟨rfl, rfl, rfl, rfl, Or.inl rfl,
              fun sender' sending => ⟨sender', sending, rfl⟩⟩
              ⟨coherent.request, coherent.response, fun _ _ => segmenting⟩ rfl ?_
            intro apdu member
            exact Or.inl ⟨_, List.mem_singleton.mp member⟩
      · exact .aborted stored found segmenting same coherent
  · next sending =>
      obtain ⟨sender, hasSender⟩ := Option.isSome_iff_exists.mp (coherent.response sending)
      split
      · exact fillAndSendResponseWindow_action stored found segmenting kept sending hasSender
      · exact .aborted stored found segmenting same coherent
  · next notReceiving notSending =>
      rcases segmenting with receiving | sending
      · exact absurd receiving notReceiving
      · exact absurd sending notSending

/-- A segment timer leaves an entry alone that is not in a transfer. -/
theorem onServerSegmentTimeout_settled (stored : self.transactions.get key = some ref)
    (found : self.objects.get ref = some txn) (settled : ¬ txn.Segmenting)
    : self.onServerSegmentTimeout key = (self, []) := by
  have present : self.lookup key = some (ref, txn) := lookup_eq_some.mpr ⟨stored, found⟩
  unfold onServerSegmentTimeout
  simp only [present]
  cases state : txn.state with
  | segmentedRequest => exact absurd (Or.inl state) settled
  | segmentedResponse => exact absurd (Or.inr state) settled
  | idle => rfl
  | awaitResponse => rfl

end ServerTSM

end BacPy
