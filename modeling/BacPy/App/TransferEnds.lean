import BacPy.App.ServerSteps
import BacPy.Segmentation.Transfer

/-! The two TSMs drive their segmented transfers as the two ends of a transfer.

A transaction stands for an end while its transfer lasts. Each handler and each segment timer
then sends the messages of that end and leaves a transaction that stands for it again, unless the
transfer is over.
-/

namespace BacPy

open Library

/-- The segment a PDU carries: sequence number, data and more-follows flag. -/
def APDU.segment? : APDU → Option (Nat × Bytes × Bool)
  | .confirmedRequest pdu =>
    if pdu.segmented then
      pdu.sequenceNumber.map fun seqNum => (seqNum, pdu.serviceRequest, pdu.moreFollows)
    else none
  | .complexAck pdu =>
    if pdu.segmented then
      pdu.sequenceNumber.map fun seqNum => (seqNum, pdu.serviceAck, pdu.moreFollows)
    else none
  | _ => none

def SegmentAckPDU.acknowledgement (pdu : SegmentAckPDU) : Acknowledgement where
  sequenceNumber := pdu.sequenceNumber
  actualWindowSize := pdu.actualWindowSize
  negative := pdu.negativeAck

def APDU.acknowledgement? : APDU → Option Acknowledgement
  | .segmentAck pdu => some pdu.acknowledgement
  | _ => none

/-- The segments among the PDUs sent. -/
def segmentsOf (sent : List Sent) : List (Nat × Bytes × Bool) :=
  sent.filterMap fun message => message.apdu.segment?

/-- The acknowledgements among the PDUs sent. -/
def acksOf (sent : List Sent) : List Acknowledgement :=
  sent.filterMap fun message => message.apdu.acknowledgement?

/-- A step follows the step of an end: it sends the same messages, and what it leaves stands for
the end afterwards, or for no end once the transfer is over.
-/
structure Follows {Party End Message : Type} (standsFor : Party → End → Prop)
    (stepped : End × Bool × List Message) (next : Party) (messages : List Message) : Prop where
  messages : messages = stepped.2.2
  continues : stepped.2.1 = true → standsFor next stepped.1
  ends : stepped.2.1 = false → ∀ other, ¬ standsFor next other

section Runs

variable {Party End Event Message : Type} {standsFor : Party → End → Prop} {acting : End}
  {messages sent : List Message} {next : Party}

theorem Follows.goesOn (same : messages = sent) (stands : standsFor next acting)
    : Follows standsFor (acting, true, sent) next messages :=
  ⟨same, fun _ => stands, by rintro ⟨⟩⟩

theorem Follows.over (same : messages = sent) (none : ∀ other, ¬ standsFor next other)
    : Follows standsFor (acting, false, sent) next messages :=
  ⟨same, by rintro ⟨⟩, fun _ => none⟩

/-- The steps of a party follow those of an end until the transfer is over. -/
def FollowsAll (standsFor : Party → End → Prop) (act : End → Event → End × Bool × List Message)
    (step : Party → Event → Party × List Message)
    : End → Party → List Event → Prop
  | _, _, [] => True
  | acting, party, event :: rest =>
    Follows standsFor (act acting event) (step party event).1 (step party event).2
      ∧ ((act acting event).2.1 = true →
        FollowsAll standsFor act step (act acting event).1 (step party event).1 rest)

/-- If every step follows, a whole run does, by induction on its events. -/
theorem followsAll {act : End → Event → End × Bool × List Message} {step party}
    (each : ∀ {acting party} event, standsFor party acting →
      Follows standsFor (act acting event) (step party event).1 (step party event).2)
    (stands : standsFor party acting) (events)
    : FollowsAll standsFor act step acting party events := by
  induction events generalizing acting party with
  | nil => trivial
  | cons event rest ih =>
    have follows := each event stands
    exact ⟨follows, fun active => ih (follows.continues active)⟩

end Runs

/-- What happens to one end of a transfer. -/
inductive TransferEvent (Pdu : Type) where
  | arrives (pdu : Pdu)
  | timeout

def SendingEnd.act (retries : Nat) (sending : SendingEnd)
    : TransferEvent SegmentAckPDU → SendingEnd × Bool × List (Nat × Bytes × Bool)
  | .arrives pdu => sending.onSegmentAck pdu.acknowledgement
  | .timeout => sending.onSegmentTimeout retries

def ReceivingEnd.act (retries : Nat) (receiving : ReceivingEnd)
    : TransferEvent (Nat × Bytes × Bool) → ReceivingEnd × Bool × List Acknowledgement
  | .arrives segment => receiving.onSegment segment.1 segment.2.1 segment.2.2
  | .timeout => receiving.onSegmentTimeout retries

-- Client transactions

namespace ClientTransaction

/-- The transaction is the sending end of its request. -/
structure SendsAs (txn : ClientTransaction) (sending : SendingEnd) : Prop where
  pending : txn.future = .pending
  state : txn.state = .segmentedRequest
  sender : txn.segmentSender = some sending.sender
  count : txn.segRetryCount = sending.segRetryCount

/-- The transaction is the receiving end of its response. -/
structure ReceivesAs (txn : ClientTransaction) (receiving : ReceivingEnd) : Prop where
  pending : txn.future = .pending
  state : txn.state = .segmentedConfirmation
  receiver : txn.segmentReceiver = some receiving.receiver
  count : txn.segRetryCount = receiving.segRetryCount

end ClientTransaction

namespace ClientTSM

variable {self : ClientTSM} {txn : ClientTransaction}

theorem segmentsOf_fillAndSendRequestWindow {sender} (sending : txn.segmentSender = some sender)
    : segmentsOf (self.fillAndSendRequestWindow txn).2 = sender.fillWindow := by
  simp [fillAndSendRequestWindow, sending, segmentsOf, List.filterMap_map,
    APDU.segment?, requestSegmentPdu]

theorem abortTransaction_future {txn} {reason : AbortReason}
    : (abortTransaction txn reason).1.future ≠ .pending := by
  intro pending
  simp only [abortTransaction] at pending
  split at pending
  · next done =>
      rw [pending] at done
      cases done
  · cases pending

/-- `handle_segment_ack` acts as the sending end does on an acknowledgement. -/
theorem onSegmentAck_follows {sending} (sends : txn.SendsAs sending) (pdu : SegmentAckPDU)
    : Follows ClientTransaction.SendsAs (sending.onSegmentAck pdu.acknowledgement)
        (self.onSegmentAck txn pdu).1 (segmentsOf (self.onSegmentAck txn pdu).2) := by
  have ready : ¬ txn.state ≠ .segmentedRequest := not_not.mpr sends.state
  change Follows _ (sending.onSegmentAck
    ⟨pdu.sequenceNumber, pdu.actualWindowSize, pdu.negativeAck⟩) _ _
  simp only [onSegmentAck, if_neg ready, sends.sender, SendingEnd.onSegmentAck]
  by_cases outside : pdu.actualWindowSize < 1 ∨ 127 < pdu.actualWindowSize
  · rw [if_pos outside, if_pos outside]
    exact .over rfl fun _ stands => abortTransaction_future stands.pending
  · rw [if_neg outside, if_neg outside]
    by_cases complete : (sending.sender.handleSegmentAck pdu.sequenceNumber pdu.actualWindowSize
        pdu.negativeAck).2 = true
    · rw [if_pos complete, if_pos complete]
      refine .over rfl fun _ stands => ?_
      cases stands.state
    · rw [if_neg complete, if_neg complete]
      exact .goesOn (segmentsOf_fillAndSendRequestWindow rfl) ⟨sends.pending, sends.state, rfl, rfl⟩

/-- `_on_segment_timeout` acts as the sending end does, while the request is sent. -/
theorem onSegmentTimeout_follows_sending {sending} (sends : txn.SendsAs sending)
    : Follows ClientTransaction.SendsAs (sending.onSegmentTimeout self.retries)
        (self.onSegmentTimeout txn).1 (segmentsOf (self.onSegmentTimeout txn).2) := by
  simp only [onSegmentTimeout, sends.state, sends.count, SendingEnd.onSegmentTimeout]
  by_cases retry : sending.segRetryCount < self.retries
  · rw [if_pos retry, if_pos retry]
    refine .goesOn (segmentsOf_fillAndSendRequestWindow sends.sender) ?_
    simp only [fillAndSendRequestWindow, sends.sender]
    exact ⟨sends.pending, rfl, rfl, rfl⟩
  · rw [if_neg retry, if_neg retry]
    exact .over rfl fun _ stands => abortTransaction_future stands.pending

/-- The SegmentACK of a client carries the acknowledgement of the receiving end. -/
theorem acksOf_sendClientSegmentAck {receiver} (receiving : txn.segmentReceiver = some receiver)
    (seq : Nat) (negative : Bool)
    : acksOf (sendClientSegmentAck txn seq negative)
      = [⟨seq, receiver.actualWindowSize, negative⟩] := by
  simp [sendClientSegmentAck, receiving, acksOf, APDU.acknowledgement?,
    SegmentAckPDU.acknowledgement]

theorem onResponseSegment_follows {receiving} (receives : txn.ReceivesAs receiving) {pdu seqNum}
    (numbered : pdu.sequenceNumber = some seqNum)
    : Follows ClientTransaction.ReceivesAs
        (receiving.onSegment seqNum pdu.serviceAck pdu.moreFollows)
        (onResponseSegment txn pdu).1 (acksOf (onResponseSegment txn pdu).2) := by
  have ready : ¬ txn.state ≠ .segmentedConfirmation := not_not.mpr receives.state
  have complete := @SegmentReceiver.isComplete_of_receiveSegment receiving.receiver seqNum
    pdu.serviceAck pdu.moreFollows
  simp only [onResponseSegment, if_neg ready, receives.receiver, numbered, ReceivingEnd.onSegment]
  generalize receiving.receiver.receiveSegment seqNum pdu.serviceAck pdu.moreFollows = outcome
    at complete ⊢
  obtain ⟨receiver, action, ackSeq⟩ := outcome
  have again (timer : Option ClientTimer)
      : ({ txn with segmentReceiver := some receiver, timeoutHandle := timer }
          : ClientTransaction).ReceivesAs { receiving with receiver } :=
    ⟨receives.pending, receives.state, rfl, receives.count⟩
  cases action with
  | complete =>
    obtain ⟨data, reassembled⟩ := SegmentReceiver.toOption_reassemble (complete rfl)
    dsimp only at reassembled ⊢
    cases done : receiver.reassemble with
    | error raised =>
      rw [done] at reassembled
      cases reassembled
    | ok data =>
      dsimp only
      refine .over (acksOf_sendClientSegmentAck rfl _ _) fun _ stands => ?_
      cases stands.pending
  | sendAck | resendLastAck =>
    dsimp only
    exact .goesOn (acksOf_sendClientSegmentAck rfl _ _) (again _)
  | proceed => exact .goesOn rfl (again _)
  | abort => exact .over rfl fun _ stands => abortTransaction_future stands.pending

/-- `_on_segment_timeout` acts as the receiving end does, while the response arrives. -/
theorem onSegmentTimeout_follows_receiving {receiving} (receives : txn.ReceivesAs receiving)
    : Follows ClientTransaction.ReceivesAs (receiving.onSegmentTimeout self.retries)
        (self.onSegmentTimeout txn).1 (acksOf (self.onSegmentTimeout txn).2) := by
  simp only [onSegmentTimeout, receives.state, receives.count, receives.receiver,
    ReceivingEnd.onSegmentTimeout]
  by_cases retry : receiving.segRetryCount < self.retries
  · rw [if_pos retry, if_pos retry]
    dsimp only
    exact .goesOn (acksOf_sendClientSegmentAck rfl _ _) ⟨receives.pending, rfl, rfl, rfl⟩
  · rw [if_neg retry, if_neg retry]
    exact .over rfl fun _ stands => abortTransaction_future stands.pending

def sendingStep (self : ClientTSM) (txn : ClientTransaction)
    : TransferEvent SegmentAckPDU → ClientTransaction × List (Nat × Bytes × Bool)
  | .arrives pdu => (self.onSegmentAck txn pdu).map id segmentsOf
  | .timeout => (self.onSegmentTimeout txn).map id segmentsOf

/-- The segments of a response come in PDUs that agree in everything else. -/
def receivingStep (self : ClientTSM) (response : ComplexAckPDU) (txn : ClientTransaction)
    : TransferEvent (Nat × Bytes × Bool) → ClientTransaction × List Acknowledgement
  | .arrives (seqNum, serviceAck, moreFollows) =>
    (self.onSegmentedComplexAck txn
      { response with sequenceNumber := some seqNum, serviceAck, moreFollows }).map id acksOf
  | .timeout => (self.onSegmentTimeout txn).map id acksOf

end ClientTSM

-- Server transactions

namespace ServerTSM

variable {self : ServerTSM} {key : Key} {ref retries : Nat} {txn : ServerTransaction}

/-- The transaction under the key, in one of the states of a transfer. -/
structure Holds (key : Key) (retries : Nat) (state : ServerTransactionState) (count : Nat)
    (tsm : ServerTSM) (ref : Nat) (txn : ServerTransaction)
    : Prop where
  present : tsm.lookup key = some (ref, txn)
  keyed : txn.key = key
  retries : tsm.retries = retries
  state : txn.state = state
  count : txn.segRetryCount = count

/-- The transaction under the key is the receiving end of its request. -/
def ReceivesAs (key : Key) (retries : Nat) (self : ServerTSM) (receiving : ReceivingEnd) : Prop :=
  ∃ ref txn, Holds key retries .segmentedRequest receiving.segRetryCount self ref txn
    ∧ txn.segmentReceiver = some receiving.receiver

/-- The transaction under the key is the sending end of its response. -/
def SendsAs (key : Key) (retries : Nat) (self : ServerTSM) (sending : SendingEnd) : Prop :=
  ∃ ref txn, Holds key retries .segmentedResponse sending.segRetryCount self ref txn
    ∧ txn.segmentSender = some sending.sender

/-- Rewriting the object under a key is seen by the next lookup. -/
theorem lookup_write {old} (present : self.lookup key = some (ref, old)) (new)
    : (self.write ref new).lookup key = some (ref, new) := by
  obtain ⟨stored, _⟩ := lookup_eq_some.mp present
  exact lookup_eq_some.mpr ⟨stored, by simp⟩

/-- What is held after a write is what has been written. -/
theorem Holds.state_of_write {old new state count other found}
    (holds : Holds key retries state count (self.write ref new) other found)
    (present : self.lookup key = some (ref, old))
    : new.state = state := by
  cases (lookup_write present new).symm.trans holds.present
  exact holds.state

/-- An aborted transaction is no longer in the table. -/
theorem lookup_abortServerTransaction (keyed : txn.key = key) (reason : AbortReason)
    : (self.abortServerTransaction ref txn reason).1.lookup key = none := by
  simp [abortServerTransaction, lookup, keyed]

theorem not_receivesAs (absent : self.lookup key = none) (other : ReceivingEnd)
    : ¬ ReceivesAs key retries self other := by
  rintro ⟨_, _, ⟨present, _⟩, _⟩
  cases absent.symm.trans present

theorem not_sendsAs (absent : self.lookup key = none) (other : SendingEnd)
    : ¬ SendsAs key retries self other := by
  rintro ⟨_, _, ⟨present, _⟩, _⟩
  cases absent.symm.trans present

theorem handleRequestSegment_follows {receiving : ReceivingEnd} {seqNum : Nat}
    {pdu : ConfirmedRequestPDU}
    (holds : Holds key retries .segmentedRequest receiving.segRetryCount self ref txn)
    (receiver : txn.segmentReceiver = some receiving.receiver)
    (numbered : pdu.sequenceNumber = some seqNum)
    : Follows (ReceivesAs key retries)
        (receiving.onSegment seqNum pdu.serviceRequest pdu.moreFollows)
        (self.handleRequestSegment ref txn pdu).1
        (acksOf (self.handleRequestSegment ref txn pdu).2.1) := by
  simp only [handleRequestSegment, receiver, numbered, ReceivingEnd.onSegment]
  generalize receiving.receiver.receiveSegment seqNum pdu.serviceRequest pdu.moreFollows = outcome
  obtain ⟨receiver, action, ackSeq⟩ := outcome
  have again : ReceivesAs key retries
      (self.write ref { txn with segmentReceiver := some receiver }.startSegmentTimeout)
      { receiving with receiver } :=
    ⟨ref, _, ⟨lookup_write holds.present _, holds.keyed, holds.retries, holds.state, holds.count⟩,
      rfl⟩
  cases action with
  | complete =>
    refine .over rfl fun _ stands => ?_
    obtain ⟨_, _, other, _⟩ := stands
    cases other.state_of_write holds.present
  | sendAck | resendLastAck => exact .goesOn rfl again
  | proceed => exact .goesOn rfl again
  | abort =>
    have aborted : ({ txn with segmentReceiver := some receiver } : ServerTransaction).key = key :=
      holds.keyed
    exact .over rfl (not_receivesAs (lookup_abortServerTransaction aborted .invalidApduInThisState))

theorem segmentsOf_fillAndSendResponseWindow {sender} (sending : txn.segmentSender = some sender)
    : segmentsOf (self.writeAndSend ref txn.fillAndSendResponseWindow).2 = sender.fillWindow := by
  simp [writeAndSend, ServerTransaction.fillAndSendResponseWindow, sending, segmentsOf, sentFor,
    List.filterMap_map, APDU.segment?, ServerTransaction.responseSegmentPdu]

/-- A window is sent by a transaction that goes on sending. -/
theorem fillAndSendResponseWindow_follows {old count} {sending : SendingEnd}
    (holds : Holds key retries .segmentedResponse count self ref old)
    (sender : txn.segmentSender = some sending.sender)
    (counts : txn.segRetryCount = sending.segRetryCount) (keyed : txn.key = key)
    (state : txn.state = .segmentedResponse)
    : Follows (SendsAs key retries) (sending, true, sending.sender.fillWindow)
        (self.writeAndSend ref txn.fillAndSendResponseWindow).1
        (segmentsOf (self.writeAndSend ref txn.fillAndSendResponseWindow).2) := by
  refine .goesOn (segmentsOf_fillAndSendResponseWindow sender) ?_
  rw [writeAndSend, ServerTransaction.fillAndSendResponseWindow_fst sender]
  exact ⟨ref, _, ⟨lookup_write holds.present _, keyed, holds.retries, state, counts⟩, sender⟩

/-- `handle_segment_ack_for_response` acts as the sending end does on an acknowledgement. -/
theorem handleSegmentAckForResponse_follows {sending : SendingEnd} {source : BACnetAddress}
    {pdu : SegmentAckPDU} (sends : SendsAs (source, pdu.invokeId) retries self sending)
    : Follows (SendsAs (source, pdu.invokeId) retries) (sending.onSegmentAck pdu.acknowledgement)
        (self.handleSegmentAckForResponse source pdu).1
        (segmentsOf (self.handleSegmentAckForResponse source pdu).2) := by
  obtain ⟨ref, txn, holds, sender⟩ := sends
  change Follows _ (sending.onSegmentAck
    ⟨pdu.sequenceNumber, pdu.actualWindowSize, pdu.negativeAck⟩) _ _
  simp only [handleSegmentAckForResponse, holds.present, if_neg (not_not.mpr holds.state), sender,
    SendingEnd.onSegmentAck]
  by_cases outside : pdu.actualWindowSize < 1 ∨ 127 < pdu.actualWindowSize
  · rw [if_pos outside, if_pos outside]
    exact .over rfl (not_sendsAs (lookup_abortServerTransaction holds.keyed _))
  · rw [if_neg outside, if_neg outside]
    by_cases complete : (sending.sender.handleSegmentAck pdu.sequenceNumber pdu.actualWindowSize
        pdu.negativeAck).2 = true
    · rw [if_pos complete, if_pos complete]
      refine .over rfl fun _ stands => ?_
      obtain ⟨_, _, other, _⟩ := stands
      cases other.state_of_write holds.present
    · rw [if_neg complete, if_neg complete]
      exact fillAndSendResponseWindow_follows holds rfl rfl holds.keyed holds.state

/-- `_on_server_segment_timeout` acts as the receiving end does, while the request arrives. -/
theorem onServerSegmentTimeout_follows_receiving {receiving}
    (receives : ReceivesAs key retries self receiving)
    : Follows (ReceivesAs key retries) (receiving.onSegmentTimeout retries)
        (self.onServerSegmentTimeout key).1 (acksOf (self.onServerSegmentTimeout key).2) := by
  obtain ⟨ref, txn, holds, receiver⟩ := receives
  simp only [onServerSegmentTimeout, holds.present, holds.state, receiver, holds.count,
    holds.retries, ReceivingEnd.onSegmentTimeout]
  by_cases retry : receiving.segRetryCount < retries
  · rw [if_pos retry, if_pos retry]
    exact .goesOn rfl
      ⟨ref, _, ⟨lookup_write holds.present _, holds.keyed, holds.retries, rfl, rfl⟩, rfl⟩
  · rw [if_neg retry, if_neg retry]
    exact .over rfl (not_receivesAs (lookup_abortServerTransaction holds.keyed _))

/-- `_on_server_segment_timeout` acts as the sending end does, while the response is sent. -/
theorem onServerSegmentTimeout_follows_sending {sending} (sends : SendsAs key retries self sending)
    : Follows (SendsAs key retries) (sending.onSegmentTimeout retries)
        (self.onServerSegmentTimeout key).1 (segmentsOf (self.onServerSegmentTimeout key).2) := by
  obtain ⟨ref, txn, holds, sender⟩ := sends
  simp only [onServerSegmentTimeout, holds.present, holds.state, holds.count, holds.retries,
    SendingEnd.onSegmentTimeout]
  by_cases retry : sending.segRetryCount < retries
  · rw [if_pos retry, if_pos retry]
    exact fillAndSendResponseWindow_follows holds sender rfl holds.keyed rfl
  · rw [if_neg retry, if_neg retry]
    exact .over rfl (not_sendsAs (lookup_abortServerTransaction holds.keyed _))

/-- SegmentACKs of the source for the transaction, and the segment timer. -/
def sendingStep (key : Key) (self : ServerTSM)
    : TransferEvent SegmentAckPDU → ServerTSM × List (Nat × Bytes × Bool)
  | .arrives pdu =>
    (self.handleSegmentAckForResponse key.1 { pdu with invokeId := key.2 }).map id segmentsOf
  | .timeout => (self.onServerSegmentTimeout key).map id segmentsOf

/-- The segments of a request come in PDUs that agree in everything else. -/
def receivingStep (key : Key) (request : ConfirmedRequestPDU) (self : ServerTSM)
    : TransferEvent (Nat × Bytes × Bool) → ServerTSM × List Acknowledgement
  | .arrives (seqNum, serviceRequest, moreFollows) =>
    let (next, sent, _) := self.receiveConfirmedRequest
      { request with
        invokeId := key.2, sequenceNumber := some seqNum, serviceRequest, moreFollows } key.1
    (next, acksOf sent)
  | .timeout => (self.onServerSegmentTimeout key).map id acksOf

/-- The TSM with a transaction of its own under the key. -/
def holding (self : ServerTSM) (key : Key) (ref : Nat) (txn : ServerTransaction) : ServerTSM :=
  { self.write ref { txn with source := key.1, invokeId := key.2 } with
    transactions := self.transactions.set key ref }

theorem lookup_holding {txn}
    : (self.holding key ref txn).lookup key
      = some (ref, { txn with source := key.1, invokeId := key.2 }) :=
  lookup_eq_some.mpr ⟨by simp [holding], by simp [holding, write]⟩

/-- A server sends a response, and receives a request, as the ends of a transfer do, whatever
arrives and however often its timer fires.
-/
theorem server_follows_ends (self : ServerTSM) (key : Key) (ref : Nat) (txn : ServerTransaction)
    (request : ConfirmedRequestPDU)
    : (∀ sender events, FollowsAll (SendsAs key self.retries) (SendingEnd.act self.retries)
        (sendingStep key) { sender, segRetryCount := txn.segRetryCount }
        (self.holding key ref
          { txn with state := .segmentedResponse, segmentSender := some sender }) events)
      ∧ ∀ receiver events, FollowsAll (ReceivesAs key self.retries) (ReceivingEnd.act self.retries)
        (receivingStep key request) { receiver, segRetryCount := txn.segRetryCount }
        (self.holding key ref
          { txn with state := .segmentedRequest, segmentReceiver := some receiver }) events := by
  refine ⟨fun sender => followsAll (fun event sends => ?_)
      ⟨ref, _, ⟨lookup_holding, rfl, rfl, rfl, rfl⟩, rfl⟩,
    fun receiver => followsAll (fun event receives => ?_)
      ⟨ref, _, ⟨lookup_holding, rfl, rfl, rfl, rfl⟩, rfl⟩⟩
  · cases event with
    | arrives pdu =>
      exact @handleSegmentAckForResponse_follows _ _ _ _ { pdu with invokeId := key.2 } sends
    | timeout => exact onServerSegmentTimeout_follows_sending sends
  · cases event with
    | arrives segment =>
      obtain ⟨seqNum, serviceRequest, moreFollows⟩ := segment
      obtain ⟨ref, txn, holds, receiver⟩ := receives
      simp only [receivingStep, receiveConfirmedRequest, holds.present, holds.state, if_true]
      exact @handleRequestSegment_follows _ _ _ _ _ _ _
        { request with
          invokeId := key.2, sequenceNumber := some seqNum, serviceRequest, moreFollows }
        holds receiver rfl
    | timeout => exact onServerSegmentTimeout_follows_receiving receives

end ServerTSM

end BacPy
