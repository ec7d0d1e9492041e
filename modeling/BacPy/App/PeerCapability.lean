import BacPy.App.ServerInvariants

/-! What the client said it can take: the length of an APDU, and whether and in how many segments.

Responses and segments are built within these limits. A cached response to a segmented transfer
is the whole response, and a duplicate request gets it in one piece.
-/

namespace BacPy

open Library

def ComplexAckPDU.encodedLength (pdu : ComplexAckPDU) : Nat :=
  (if pdu.segmented then 5 else 3) + pdu.serviceAck.length

namespace ServerTransaction

/-- The ComplexACK fits the client of the transaction: its length, and for a segment also that
the client accepts segmentation and the number of segments.
-/
def Fits (txn : ServerTransaction) (ack : ComplexAckPDU) : Prop :=
  ack.encodedLength ≤ txn.clientMaxApduLength
    ∧ (ack.segmented = true → txn.segmentedResponseAccepted = true
      ∧ ∃ sender, txn.segmentSender = some sender
        ∧ checkSegmentCount sender.segments.length txn.clientMaxSegments = true)

/-- A response is sent in segments only as the client allows, and cached in one piece. -/
structure SendsWithinLimits (txn : ServerTransaction) : Prop where
  segments : ∀ sender, txn.segmentSender = some sender
    → txn.segmentedResponseAccepted = true
      ∧ checkSegmentCount sender.segments.length txn.clientMaxSegments = true
      ∧ ∀ segment ∈ sender.segments, segment.length + 5 ≤ txn.clientMaxApduLength
  whole : ∀ ack, txn.cachedResponse = some (.complexAck ack) → ack.segmented = false

/-- A transfer that goes on keeps to the limits. -/
theorem Continues.sendsWithinLimits {old new : ServerTransaction} (continues : old.Continues new)
    (within : old.SendsWithinLimits)
    : new.SendsWithinLimits := by
  constructor
  · intro sender' sending
    obtain ⟨sender, sendingOld, same⟩ := continues.sender sender' sending
    rw [continues.accepted, continues.maxApduLength, continues.maxSegments, same]
    exact within.segments sender sendingOld
  · intro ack cached
    rcases continues.cached with same | released
    · exact within.whole ack (same ▸ cached)
    · rw [released] at cached
      cases cached

variable {txn : ServerTransaction}

/-- The segments of the window fit the client. -/
theorem SendsWithinLimits.fits (within : txn.SendsWithinLimits)
    {ack : ComplexAckPDU} (sends : txn.Sends (.complexAck ack))
    : txn.Fits ack := by
  rcases sends with ⟨segmentAck, same⟩ | ⟨sender, segment, sending, member, same⟩
  · cases same
  · cases same
    obtain ⟨accepted, counted, short⟩ := within.segments sender sending
    have length := short segment.2.1 (SegmentSender.segment_of_mem_fillWindow member)
    refine ⟨?_, fun _ => ⟨accepted, sender, sending, counted⟩⟩
    rw [Nat.add_comm] at length
    exact length

theorem sendingResponse_within {sender : SegmentSender} {serviceChoice window : Nat} {data : Bytes}
    (accepted : txn.segmentedResponseAccepted = true)
    (created : SegmentSender.create data txn.invokeId serviceChoice txn.clientMaxApduLength
      .complexAck window txn.clientMaxSegments = .ok sender)
    : (txn.sendingResponse sender serviceChoice data).SendsWithinLimits := by
  obtain ⟨split, counted, _⟩ := SegmentSender.create_spec created
  obtain ⟨_, _, short⟩ := splitPayload_spec split
  constructor
  · intro sender' sending
    cases sending
    refine ⟨accepted, counted, fun segment member => ?_⟩
    have length := short segment member
    simp only [computeMaxSegmentPayload, complexAckSegmentOverhead] at length
    simp only [sendingResponse]
    omega
  · intro ack cached
    cases cached
    rfl

/-- Timers are no part of the limits. -/
theorem SendsWithinLimits.startServerSegmentTimeout (within : txn.SendsWithinLimits)
    : txn.startServerSegmentTimeout.SendsWithinLimits :=
  ⟨within.segments, within.whole⟩

theorem SendsWithinLimits.cancelTimeout (within : txn.SendsWithinLimits)
    : txn.cancelTimeout.SendsWithinLimits :=
  ⟨within.segments, within.whole⟩

theorem SendsWithinLimits.release (within : txn.SendsWithinLimits)
    : ({ txn with cachedResponse := none } : ServerTransaction).SendsWithinLimits :=
  ⟨within.segments, fun _ cached => by cases cached⟩

end ServerTransaction

namespace ServerTSM

variable {self next : ServerTSM} {key : Key} {ref : Nat} {txn : ServerTransaction}
  {sent : List Sent}

/-- Every object keeps to the limits of its client. -/
def WithinLimits (self : ServerTSM) : Prop :=
  ∀ ref txn, self.objects.get ref = some txn → txn.SendsWithinLimits

/-- Every ComplexACK sent for a transaction fits the client of that transaction. -/
def AcksFit (self : ServerTSM) (sent : List Sent) : Prop :=
  ∀ message ∈ sent, ∀ ref ack, message.transaction = some ref → message.apdu = .complexAck ack
    → ∃ txn, self.objects.get ref = some txn ∧ txn.Fits ack

theorem acksFit_nil (self : ServerTSM) : self.AcksFit [] := fun _ member => by cases member

/-- PDUs sent for one object fit if each of them fits its client. -/
theorem acksFit_sentFor {expectingReply apdus sending} (found : self.objects.get ref = some txn)
    (fits : ∀ ack, .complexAck ack ∈ apdus → txn.Fits ack)
    : self.AcksFit (sentFor ref sending expectingReply apdus) := by
  intro message member ref' ack marked isAck
  obtain ⟨apdu, inside, rfl⟩ := List.mem_map.mp member
  cases marked
  cases isAck
  exact ⟨txn, found, fits ack inside⟩

theorem WithinLimits.write (within : self.WithinLimits) (limits : txn.SendsWithinLimits)
    : (self.write ref txn).WithinLimits := by
  intro other txn' found
  rw [get_write] at found
  split at found
  · exact Option.some.inj found ▸ limits
  · exact within other txn' found

theorem WithinLimits.abort {reason : AbortReason} (within : self.WithinLimits)
    (limits : txn.SendsWithinLimits)
    : (self.abortServerTransaction ref txn reason).1.WithinLimits
      ∧ (self.abortServerTransaction ref txn reason).1.AcksFit
        (self.abortServerTransaction ref txn reason).2 := by
  have written : (self.write ref { txn.cancelTimeout with cachedResponse := none }).WithinLimits :=
    within.write limits.cancelTimeout.release
  refine ⟨written, ?_⟩
  intro message member ref' ack _ isAck
  simp only [abortServerTransaction, sentFor, List.map_cons, List.map_nil,
    List.mem_singleton] at member
  rw [member] at isAck
  cases isAck

/-- Progress or abort of a transfer keeps to the limits. -/
theorem WithinLimits.entryStep (within : self.WithinLimits)
    (step : self.EntryStep key next sent)
    : next.WithinLimits ∧ next.AcksFit sent := by
  cases step with
  | unchanged same silent =>
    rw [same, silent]
    exact ⟨within, acksFit_nil self⟩
  | acted action =>
    cases action with
    | @rewritten ref old new apdus stored found segmenting continues coherent armed sends =>
      have limits := continues.sendsWithinLimits (within ref old found)
      refine ⟨within.write limits, acksFit_sentFor (by rw [get_write, if_pos rfl]) ?_⟩
      exact fun ack member => limits.fits (sends _ member)
    | @aborted ref old new reason stored found segmenting continues coherent =>
      exact within.abort (continues.sendsWithinLimits (within ref old found))

theorem WithinLimits.received {pdu : ConfirmedRequestPDU} {result : Option (Nat × Option Bytes)}
    (within : self.WithinLimits) (received : self.Received key pdu (next, sent, result))
    : next.WithinLimits
      ∧ ((∀ ref txn ack, self.transactions.get key = some ref → self.objects.get ref = some txn
            → txn.state ≠ .segmentedRequest → txn.cachedResponse = some (.complexAck ack)
            → txn.Fits ack)
        → next.AcksFit sent) := by
  generalize outcome : (next, sent, result) = triple at received
  cases received with
  | entry step noData =>
    cases outcome
    exact ⟨(within.entryStep step).1, fun _ => (within.entryStep step).2⟩
  | @resent ref old response stored found elsewhere cached =>
    cases outcome
    refine ⟨within, fun cachedFits => ?_⟩
    intro message member ref' ack marked isAck
    rw [List.mem_singleton.mp member] at marked isAck
    cases marked
    cases isAck
    exact ⟨old, found, cachedFits ref old ack stored found elsewhere cached⟩
  | @completed ref old new ack data stored found receiving continues awaits unarmed numbered =>
    cases outcome
    refine ⟨within.write (continues.sendsWithinLimits (within ref old found)), fun _ => ?_⟩
    exact acksFit_sentFor (by rw [get_write, if_pos rfl]) (by simp)
  | @created txn apdus data absent keyed coherent armed fresh awaits maxApduLength acks =>
    cases outcome
    have limits : txn.SendsWithinLimits := by
      constructor
      · intro sender sending
        rw [fresh.2] at sending
        cases sending
      · intro ack cached
        rw [fresh.1] at cached
        cases cached
    refine ⟨within.write limits, fun _ => ?_⟩
    refine @acksFit_sentFor _ self.nextRef txn _ _ _ (by dsimp only; rw [get_write, if_pos rfl]) ?_
    intro ack member
    obtain ⟨segmentAck, same⟩ := acks _ member
    cases same

/-- The response at the end of a dispatch fits the client, whole or in segments. -/
theorem WithinLimits.finished {source : BACnetAddress} (within : self.WithinLimits)
    (found : self.objects.get ref = some txn)
    (step : Application.Finished self ref txn source next sent)
    : next.WithinLimits ∧ next.AcksFit sent := by
  have limits := within ref txn found
  cases step with
  | @responded response fits =>
    have answered : ({ txn.startTimeout with cachedResponse := some response, state := .idle }
        : ServerTransaction).SendsWithinLimits := by
      refine ⟨limits.segments, fun ack cached => ?_⟩
      obtain ⟨_, _, same, _⟩ := fits ack (Option.some.inj cached)
      rw [same]
      rfl
    have written : (self.completeTransaction ref txn response).WithinLimits :=
      within.write answered
    refine ⟨written, ?_⟩
    intro message member ref' ack marked isAck
    rw [List.mem_singleton.mp member] at marked isAck
    cases marked
    refine ⟨_, by dsimp only [completeTransaction]; rw [get_write, if_pos rfl], ?_⟩
    obtain ⟨serviceChoice, data, rfl, short⟩ := fits ack isAck
    simp only [computeMaxSegmentPayload, complexAckSegmentOverhead] at short
    refine ⟨?_, fun segmented => by cases segmented⟩
    simp only [ComplexAckPDU.encodedLength, unsegmentedComplexAck, Bool.false_eq_true, if_false,
      ServerTransaction.startTimeout]
    omega
  | @segmented sender serviceChoice data accepted created =>
    have sending := ServerTransaction.sendingResponse_within accepted created
    have sends := @ServerTransaction.fillAndSendResponseWindow_sends
      (txn.sendingResponse sender serviceChoice data)
    have moved := ServerTransaction.fillAndSendResponseWindow_fst
      (show (txn.sendingResponse sender serviceChoice data).segmentSender = some sender from rfl)
    unfold writeAndSend
    rw [moved] at sends ⊢
    have armed := sending.startServerSegmentTimeout
    refine ⟨within.write armed, acksFit_sentFor (by rw [get_write, if_pos rfl]) ?_⟩
    exact fun ack member => armed.fits (sends member)
  | aborted => exact within.abort limits

/-- A timer sends segments within the limits. -/
theorem WithinLimits.fired (within : self.WithinLimits) (coherent : self.AllCoherent)
    (step : self.fireTimer ref = some (next, sent))
    : next.WithinLimits ∧ next.AcksFit sent := by
  simp only [fireTimer, Option.bind_eq_some_iff, Option.map_eq_some_iff] at step
  obtain ⟨txn, found, timer, armed, acted⟩ := step
  have spent : (self.write ref txn.cancelTimeout).WithinLimits :=
    within.write (within ref txn found).cancelTimeout
  cases timer with
  | onTimeout =>
    dsimp only at acted
    unfold onTimeout at acted
    split at acted
    · cases acted
      exact ⟨spent, acksFit_nil _⟩
    · next other txn' present =>
        cases acted
        have limits := spent other txn' (lookup_eq_some.mp present).2
        exact ⟨spent.write limits.release, acksFit_nil _⟩
  | onServerSegmentTimeout waitForSeg =>
    dsimp only at acted
    cases present : (self.write ref txn.cancelTimeout).lookup txn.key with
    | none =>
      simp only [onServerSegmentTimeout, present, Prod.mk.injEq] at acted
      rw [← acted.1, ← acted.2]
      exact ⟨spent, acksFit_nil _⟩
    | some entry =>
      obtain ⟨other, txn'⟩ := entry
      obtain ⟨stored, found'⟩ := lookup_eq_some.mp present
      by_cases segmenting : txn'.Segmenting
      · have coherent' : txn'.Coherent := by
          rw [get_write] at found'
          split at found'
          · exact Option.some.inj found' ▸ (coherent ref txn found).cancelTimeout
          · exact coherent other txn' found'
        have action := onServerSegmentTimeout_action stored found' segmenting coherent'
        rw [acted] at action
        exact spent.entryStep (.acted action)
      · rw [onServerSegmentTimeout_settled stored found' segmenting] at acted
        cases acted
        exact ⟨spent, acksFit_nil _⟩

end ServerTSM

namespace Application

variable {self next : Application} {event : Event} {sent : List Sent}

/-- One step of an application together with the PDUs it has just sent. -/
def transmit (self : Application × List Sent) (event : Event) : Option (Application × List Sent) :=
  self.1.step event

/-- A duplicate of an answered request arrives, and the cached response is a ComplexACK longer
than the client can take.
-/
def ResendsOversized (self : Application) (event : Event) : Prop :=
  ∃ pdu source ref txn ack, self.requestOf event = some (pdu, source)
    ∧ self.serverTsm.transactions.get (source, pdu.invokeId) = some ref
    ∧ self.serverTsm.objects.get ref = some txn
    ∧ txn.state ≠ .segmentedRequest
    ∧ txn.cachedResponse = some (.complexAck ack)
    ∧ txn.clientMaxApduLength < ack.encodedLength

/-- Every effect sends ComplexACKs that fit, unless it resends an oversized response. -/
theorem Effect.withinLimits (effect : self.Effect event next sent)
    (coherent : self.serverTsm.AllCoherent) (within : self.serverTsm.WithinLimits)
    : next.serverTsm.WithinLimits
      ∧ (¬ self.ResendsOversized event → next.serverTsm.AcksFit sent) := by
  have cachedFits {pdu : ConfirmedRequestPDU} {source : BACnetAddress}
      (request : self.requestOf event = some (pdu, source)) (small : ¬ self.ResendsOversized event)
      : ∀ ref txn ack, self.serverTsm.transactions.get (source, pdu.invokeId) = some ref
          → self.serverTsm.objects.get ref = some txn → txn.state ≠ .segmentedRequest
          → txn.cachedResponse = some (.complexAck ack) → txn.Fits ack := by
    intro ref txn ack stored found elsewhere cached
    refine ⟨?_, fun segmented => ?_⟩
    · by_contra long
      exact small ⟨pdu, source, ref, txn, ack, request, stored, found, elsewhere, cached,
        Nat.lt_of_not_le long⟩
    · rw [(within ref txn found).whole ack cached] at segmented
      cases segmented
  cases effect with
  | quiet same tasks client =>
    rw [same]
    refine ⟨within, fun _ message member ref ack marked => ?_⟩
    rw [client message member] at marked
    cases marked
  | entry unowned step tasks =>
    exact ⟨(within.entryStep step).1, fun _ => (within.entryStep step).2⟩
  | received request received idle tasks =>
    exact ⟨(within.received received).1,
      fun small => (within.received received).2 (cachedFits request small)⟩
  | accepted request received tasks =>
    exact ⟨(within.received received).1,
      fun small => (within.received received).2 (cachedFits request small)⟩
  | refused request received plain tasks =>
    exact ⟨(within.received received).1,
      fun small => (within.received received).2 (cachedFits request small)⟩
  | dropped starts task drops same tasks silent =>
    rw [same, silent]
    exact ⟨within, fun _ => ServerTSM.acksFit_nil _⟩
  | finished ends task found step tasks =>
    exact ⟨(within.finished found step).1, fun _ => (within.finished found step).2⟩
  | fired fires step tasks =>
    exact ⟨(within.fired coherent step).1, fun _ => (within.fired coherent step).2⟩

/-- The resent response of an oversized duplicate does not fit the client. -/
theorem not_acksFit_of_resend (oversized : self.ResendsOversized event)
    (moved : self.step event = some (next, sent))
    : ¬ next.serverTsm.AcksFit sent := by
  obtain ⟨pdu, source, ref, txn, ack, request, stored, found, elsewhere, cached, long⟩ := oversized
  have present := ServerTSM.lookup_eq_some.mpr ⟨stored, found⟩
  have resent : self.serverTsm.receiveConfirmedRequest pdu source = (self.serverTsm, [{
        apdu := .complexAck ack
        destination := source
        expectingReply := false
        transaction := some ref
      }], none) := by
    simp only [ServerTSM.receiveConfirmedRequest, present, elsewhere, if_false, cached]
  have outcome : next.serverTsm = self.serverTsm ∧ sent = [{
        apdu := .complexAck ack
        destination := source
        expectingReply := false
        transaction := some ref
      }] := by
    cases event with
    | apduReceived data source' =>
      simp only [requestOf] at request
      split at request
      · next pdu' decoded =>
          obtain ⟨segmented, request⟩ := Option.ite_none_right_eq_some.mp request
          cases request
          simp only [step, onApduReceived, decoded, dispatchApdu, segmented, if_true,
            handleSegmentedRequest, resent, Option.some.injEq, Prod.mk.injEq] at moved
          exact ⟨moved.1 ▸ rfl, moved.2.symm⟩
      · cases request
    | taskStarts index =>
      simp only [requestOf] at request
      split at request
      · next pdu' source' present =>
          cases request
          simp only [step, present, Option.bind_some, startTask, resent, Option.map_some,
            Option.some.injEq, Prod.mk.injEq] at moved
          exact ⟨moved.1 ▸ rfl, moved.2.symm⟩
      · cases request
    | _ => cases request
  intro fits
  rw [outcome.1, outcome.2] at fits
  obtain ⟨txn', found', fit⟩ := fits _ (List.mem_singleton_self _) ref ack rfl rfl
  rw [found] at found'
  cases found'
  exact absurd fit.1 (Nat.not_le.mpr long)

/-- Every ComplexACK a run sends fits the client of its transaction exactly when no duplicate
request meets a cached ComplexACK that is longer than its client can take.
-/
theorem always_acksFit_iff (clientTsm : ClientTSM) (retries proposedWindowSize : Nat)
    (events : List Event)
    : Always transmit (fun app => app.1.serverTsm.AcksFit app.2)
        (started clientTsm retries proposedWindowSize, []) events
      ↔ Meets transmit (fun app event => ¬ app.1.ResendsOversized event)
          (started clientTsm retries proposedWindowSize, []) events := by
  refine @always_iff_meets (Application × List Sent) Event transmit _
    (fun app => app.1.ServerSound ∧ app.1.serverTsm.WithinLimits
      ∧ app.1.serverTsm.AcksFit app.2) _ ?_ ?_ ?_ _ _ ?_
  · rintro app event app' ⟨sound, within, _⟩ small moved
    have effect := step_effect sound.1.coherent sound.2 moved
    obtain ⟨kept, fits⟩ := effect.withinLimits sound.1.coherent within
    exact ⟨step_serverSound sound moved, kept, fits small⟩
  · exact fun inv => inv.2.2
  · rintro app event app' _ oversized moved
    exact not_acksFit_of_resend (not_not.mp oversized) moved
  · refine ⟨serverSound_started clientTsm retries proposedWindowSize, ?_,
      ServerTSM.acksFit_nil _⟩
    intro ref txn found
    cases found

/-- A client that takes 50 octets reads a 60-octet value, gets it in two segments, and repeats
its request.
-/
def repeatedReadEvents : List Event :=
  let read : Event := .apduReceived [0x02, 0x00, 7, 12, 0x0C] { macAddress := [10] }
  [read, .taskStarts 0, .handlerEnds 0 (.result (some (List.replicate 60 0))),
    .apduReceived [0x40, 7, 1, 16] { macAddress := [10] }, read, .taskStarts 0]

/-- The duplicate request is answered with one ComplexACK of 63 octets. -/
theorem repeatedRead_resends_oversized
    : (run transmit (started {} 3 16, []) repeatedReadEvents).map (fun app =>
          (app.2.map fun message => (encodeApdu message.apdu).toOption.map List.length,
            (app.1.serverTsm.objects.get 0).map ServerTransaction.clientMaxApduLength))
        = some ([some 63], some 50)
      ∧ ¬ Always transmit (fun app => app.1.serverTsm.AcksFit app.2) (started {} 3 16, [])
          repeatedReadEvents := by
  refine ⟨by decide +kernel, fun always => ?_⟩
  have reached : (run transmit (started {} 3 16, []) repeatedReadEvents).map (fun app =>
      (app.2, (app.1.serverTsm.objects.get 0).map ServerTransaction.clientMaxApduLength))
      = some ([{
          apdu := .complexAck (unsegmentedComplexAck 7 12 (List.replicate 60 0))
          destination := { macAddress := [10] }
          expectingReply := false
          transaction := some 0
        }], some 50) := by
    decide +kernel
  obtain ⟨final, ran, facts⟩ := Option.map_eq_some_iff.mp reached
  obtain ⟨resent, client⟩ := Prod.mk.inj facts
  have fits := always_iff_prefixes.mp always repeatedReadEvents [] final (by simp) ran
  rw [resent] at fits
  obtain ⟨txn, found, short, _⟩ := fits _ (List.mem_singleton_self _) 0 _ rfl rfl
  rw [found, Option.map_some, Option.some.injEq] at client
  rw [client] at short
  exact absurd short (by decide)

end Application

end BacPy
