import BacPy.App.ApplicationSteps
import BacPy.Exchange.System

/-! Integrity of a segmented request: what the server hands to its application is the payload
that the client has split.

The client sends genuine segments only, whatever arrives at it. The receiver of the server keeps
to them as long as it is created from segment 0; one created from a later segment files it under
index 0.
-/

namespace BacPy

open Library

/-- A request of a client that goes out in at most 128 segments. -/
structure SegmentedRequest where
  payload : Bytes
  maxApdu : Nat
  segments : List Bytes
  long : computeMaxSegmentPayload maxApdu .confirmedRequest < payload.length
  split : splitPayload payload (computeMaxSegmentPayload maxApdu .confirmedRequest) = .ok segments
  few : segments.length ≤ 128

/-- The PDU carries one of the segments, with its number and flag. -/
def ConfirmedRequestPDU.IsSegmentOf (pdu : ConfirmedRequestPDU) (segments : List Bytes) : Prop :=
  pdu.segmented = true ∧ ∃ idx, idx < segments.length ∧ pdu.sequenceNumber = some idx
    ∧ pdu.serviceRequest = segments.getD idx []
    ∧ pdu.moreFollows = decide (idx < segments.length - 1)

-- The client

namespace SegmentedRequest

/-- The transaction sends this request, in these segments. -/
structure SentBy (request : SegmentedRequest) (txn : ClientTransaction) : Prop where
  payload : txn.requestData = request.payload
  maxApdu : txn.effectiveMaxApdu = request.maxApdu
  segments : ∀ sender, txn.segmentSender = some sender → sender.segments = request.segments

variable {request : SegmentedRequest} {tsm : ClientTSM} {old : ClientTransaction}
  {stepped : ClientTransaction × List Sent}

/-- A handler goes on sending this request. -/
theorem SentBy.progress (sentBy : request.SentBy old) (progress : tsm.Progress old stepped)
    : request.SentBy stepped.1 where
  payload := progress.requestData.trans sentBy.payload
  maxApdu := progress.effectiveMaxApdu.trans sentBy.maxApdu
  segments := by
    intro sender sending
    rcases progress.sender sender sending with ⟨before, found, same⟩ | anew
    · rw [same, sentBy.segments before found]
    · rw [sentBy.payload, sentBy.maxApdu, request.split] at anew
      exact (Except.ok.inj anew).symm

/-- What a handler sends of the request is segments of it. -/
theorem SentBy.isSegmentOf (sentBy : request.SentBy old) (progress : tsm.Progress old stepped) {pdu}
    (sent : .confirmedRequest pdu ∈ stepped.2.map Sent.apdu)
    : pdu.IsSegmentOf request.segments := by
  have now := sentBy.progress progress
  obtain ⟨message, member, same⟩ := List.mem_map.mp sent
  have emits := progress.emits message member
  rw [same] at emits
  cases emits with
  | whole short =>
    rw [now.maxApdu, now.payload] at short
    exact absurd request.long short
  | @segment sender entry sending inside =>
    obtain ⟨idx, _, upper, rfl⟩ := SegmentSender.mem_fillWindow.mp inside
    have few := request.few
    rw [← now.segments sender sending] at few ⊢
    have index : idx < sender.segments.length :=
      Nat.lt_of_lt_of_le upper (Nat.min_le_left _ _)
    refine ⟨rfl, idx, index, ?_, rfl, rfl⟩
    simp only [ClientTSM.requestSegmentPdu]
    rw [Nat.mod_eq_of_lt (by omega)]

def OnlySentBy (request : SegmentedRequest) (tsm : ClientTSM) : Prop :=
  ∀ key txn, tsm.transactions.get key = some txn → request.SentBy txn

/-- A handler of the client keeps to the request. -/
theorem OnlySentBy.update (only : request.OnlySentBy tsm) {key body}
    (progress : ∀ txn, tsm.Progress txn (body txn))
    : request.OnlySentBy (tsm.update key body).1
      ∧ ∀ pdu, .confirmedRequest pdu ∈ (tsm.update key body).2.map Sent.apdu
        → pdu.IsSegmentOf request.segments := by
  unfold ClientTSM.update
  split
  · exact ⟨only, by simp⟩
  · next txn found =>
      split
      · exact ⟨only, by simp⟩
      · refine ⟨?_, fun pdu sent => (only key txn found).isSegmentOf (progress txn) sent⟩
        intro other new stored
        rw [Dict.get_set] at stored
        split at stored
        · cases stored
          exact (only key txn found).progress (progress txn)
        · exact only other new stored

theorem OnlySentBy.sendRequest (only : request.OnlySentBy tsm) (serviceChoice : Nat)
    (destination : BACnetAddress) {maxApduOverride}
    (fits : maxApduOverride.getD tsm.maxApduLength = request.maxApdu)
    : request.OnlySentBy
        (tsm.sendRequest serviceChoice request.payload destination maxApduOverride).2.1
      ∧ ∀ pdu, .confirmedRequest pdu
          ∈ (tsm.sendRequest serviceChoice request.payload destination maxApduOverride).2.2.map
            Sent.apdu
        → pdu.IsSegmentOf request.segments := by
  unfold ClientTSM.sendRequest
  split
  · exact ⟨only, by simp⟩
  · next invokeId allocating allocated =>
      obtain ⟨_, counter, rfl⟩ := ClientTSM.allocateInvokeId_spec allocated
      dsimp only
      split
      · exact ⟨only, by simp⟩
      · next txn sent transmitted =>
          have progress := (ClientTSM.Progress.refl _ _).transmit transmitted
          have fresh : request.SentBy {
              invokeId, destination, serviceChoice, requestData := request.payload
              effectiveMaxApdu := maxApduOverride.getD tsm.maxApduLength
            } :=
            ⟨rfl, fits, by simp⟩
          refine ⟨?_, fun pdu sent => fresh.isSegmentOf progress sent⟩
          intro key new stored
          rw [Dict.get_set] at stored
          split at stored
          · cases stored
            exact fresh.progress progress
          · exact only key new stored

end SegmentedRequest

-- The server TSM

namespace ServerTSM

def AllHold (tsm : ServerTSM) (segments : List Bytes) : Prop :=
  ∀ ref txn receiver, tsm.objects.get ref = some txn → txn.segmentReceiver = some receiver
    → receiver.HoldsPartOf segments

variable {self next : ServerTSM} {segments : List Bytes} {ref : Nat}
  {txn new : ServerTransaction}

theorem AllHold.write (allHold : self.AllHold segments)
    (holds : ∀ receiver, new.segmentReceiver = some receiver → receiver.HoldsPartOf segments)
    : (self.write ref new).AllHold segments := by
  intro other found receiver stored receiving
  rw [get_write] at stored
  split at stored
  · cases stored
    exact holds receiver receiving
  · exact allHold other found receiver stored receiving

theorem AllHold.rewrite (allHold : self.AllHold segments)
    (found : self.objects.get ref = some txn)
    (same : new.segmentReceiver = txn.segmentReceiver)
    : (self.write ref new).AllHold segments :=
  allHold.write fun receiver receiving => allHold ref txn receiver found (same ▸ receiving)

theorem AllHold.abort (allHold : self.AllHold segments) (found : self.objects.get ref = some txn)
    (same : new.segmentReceiver = txn.segmentReceiver) {reason}
    : (self.abortServerTransaction ref new reason).1.AllHold segments :=
  @AllHold.rewrite self segments ref txn { new.cancelTimeout with cachedResponse := none }
    allHold found same

/-- A window of the response leaves the receivers alone. -/
theorem AllHold.fillAndSendResponseWindow (allHold : self.AllHold segments)
    (found : self.objects.get ref = some txn)
    (same : new.segmentReceiver = txn.segmentReceiver)
    : (self.writeAndSend ref new.fillAndSendResponseWindow).1.AllHold segments := by
  unfold writeAndSend ServerTransaction.fillAndSendResponseWindow
  split <;> exact allHold.rewrite found same

/-- The end of a handler leaves the receivers alone. -/
theorem AllHold.finished {source sent} (allHold : self.AllHold segments)
    (found : self.objects.get ref = some txn)
    (finished : Application.Finished self ref txn source next sent)
    : next.AllHold segments := by
  cases finished with
  | responded _ =>
    exact @AllHold.rewrite self segments ref txn _ allHold found rfl
  | segmented _ _ => exact allHold.fillAndSendResponseWindow found rfl
  | aborted => exact allHold.abort found rfl

/-- A SegmentACK for a response leaves the receivers alone. -/
theorem AllHold.handleSegmentAckForResponse (allHold : self.AllHold segments)
    (source : BACnetAddress) (pdu : SegmentAckPDU)
    : (self.handleSegmentAckForResponse source pdu).1.AllHold segments := by
  unfold ServerTSM.handleSegmentAckForResponse
  split
  · exact allHold
  · next ref txn present =>
      obtain ⟨_, found⟩ := lookup_eq_some.mp present
      split
      · exact allHold
      · split
        · exact allHold
        · split
          · exact allHold.abort found rfl
          · dsimp only
            split
            · exact @AllHold.rewrite self segments ref txn _ allHold found rfl
            · exact allHold.fillAndSendResponseWindow found rfl

/-- Timers leave the receivers alone. -/
theorem AllHold.fired {sent} (allHold : self.AllHold segments)
    (fired : self.fireTimer ref = some (next, sent))
    : next.AllHold segments := by
  simp only [fireTimer, Option.bind_eq_some_iff, Option.map_eq_some_iff] at fired
  obtain ⟨txn, found, timer, _, stepped⟩ := fired
  have spent : (self.write ref txn.cancelTimeout).AllHold segments := allHold.rewrite found rfl
  cases timer with
  | onTimeout =>
    simp only [ServerTSM.onTimeout] at stepped
    split at stepped
    · cases stepped
      exact spent
    · next present =>
        cases stepped
        exact @AllHold.rewrite _ segments _ _ _ spent (lookup_eq_some.mp present).2 rfl
  | onServerSegmentTimeout waitForSeg =>
    simp only [ServerTSM.onServerSegmentTimeout] at stepped
    split at stepped
    · cases stepped
      exact spent
    · next present =>
        have here := (lookup_eq_some.mp present).2
        split at stepped
        · split at stepped
          · split at stepped
            · cases stepped
              exact @AllHold.rewrite _ segments _ _ _ spent here rfl
            · cases stepped
              exact @AllHold.rewrite _ segments _ _ _ spent here rfl
          · cases stepped
            exact @AllHold.abort _ segments _ _ _ spent here rfl .tsmTimeout
        · split at stepped
          · have moved := congrArg Prod.fst stepped
            dsimp only at moved
            rw [← moved]
            exact spent.fillAndSendResponseWindow here rfl
          · cases stepped
            exact @AllHold.abort _ segments _ _ _ spent here rfl .tsmTimeout
        · cases stepped
          exact spent

/-- A later segment of the request: the receiver goes on holding part of it, and what it
reassembles is the whole of it.
-/
theorem AllHold.handleRequestSegment {pdu} (allHold : self.AllHold segments)
    (few : segments.length ≤ 128) (genuine : pdu.IsSegmentOf segments)
    (found : self.objects.get ref = some txn)
    : (self.handleRequestSegment ref txn pdu).1.AllHold segments
      ∧ ∀ target data, (self.handleRequestSegment ref txn pdu).2.2 = some (target, some data)
        → data = segments.flatten := by
  obtain ⟨_, idx, inside, numbered, sameData, more⟩ := genuine
  unfold ServerTSM.handleRequestSegment
  split
  · next receiver sequenceNumber receiving numbered' =>
      have number : sequenceNumber = idx % 256 := by
        rw [numbered, Option.some.injEq] at numbered'
        omega
      have complete := @SegmentReceiver.isComplete_of_receiveSegment receiver sequenceNumber
        pdu.serviceRequest pdu.moreFollows
      have holds := (allHold ref txn receiver found receiving).receiveSegment few inside more
      rw [← sameData, ← number] at holds
      generalize receiver.receiveSegment sequenceNumber pdu.serviceRequest pdu.moreFollows
        = outcome at complete holds ⊢
      obtain ⟨receiver', action, ackSeq⟩ := outcome
      have kept (timer : Option ServerTimer) (state : ServerTransactionState)
          : (self.write ref
              { txn with segmentReceiver := some receiver', timeoutHandle := timer, state }).AllHold
                segments :=
        allHold.write fun other same => Option.some.inj same ▸ holds
      cases action with
      | complete =>
        refine ⟨kept _ _, fun target data result => ?_⟩
        have reassembled := holds.reassemble few (complete rfl)
        simp only [Option.some.injEq, Prod.mk.injEq] at result
        dsimp only at reassembled
        rw [reassembled] at result
        exact (Option.some.inj result.2).symm
      | sendAck | resendLastAck | proceed => exact ⟨kept _ _, by simp⟩
      | abort =>
        refine ⟨?_, by simp⟩
        exact allHold.write fun other same => Option.some.inj same ▸ holds
  · exact ⟨allHold, by simp⟩

/-- A new request that begins with its segment 0. -/
theorem AllHold.receiveNewRequest {pdu} (allHold : self.AllHold segments)
    (few : segments.length ≤ 128) (genuine : pdu.IsSegmentOf segments)
    (first : pdu.sequenceNumber = some 0) (source : BACnetAddress)
    : (self.receiveNewRequest pdu source).1.AllHold segments
      ∧ ∀ target data, (self.receiveNewRequest pdu source).2.2 = some (target, some data)
        → data = segments.flatten := by
  obtain ⟨segmented, idx, inside, numbered, sameData, more⟩ := genuine
  obtain rfl : idx = 0 := Option.some.inj (numbered.symm.trans first)
  have holds (tsm : ServerTSM) : (tsm.newReceiver pdu).HoldsPartOf segments := by
    unfold newReceiver
    rw [sameData]
    exact SegmentReceiver.HoldsPartOf.create inside more
  have stored (tsm : ServerTSM) (new : ServerTransaction)
      (receiving : new.segmentReceiver = some (tsm.newReceiver pdu))
      : (self.write self.nextRef new).AllHold segments :=
    allHold.write fun receiver same => by
      rw [receiving, Option.some.injEq] at same
      exact same ▸ holds tsm
  unfold ServerTSM.receiveNewRequest
  simp only [segmented, if_true]
  split
  · exact ⟨stored _ _ rfl, by simp⟩
  · next last =>
      refine ⟨stored _ _ rfl, fun target data result => ?_⟩
      have whole : pdu.moreFollows = false := by simpa using last
      have complete (tsm : ServerTSM) : (tsm.newReceiver pdu).isComplete = true := by
        unfold newReceiver
        rw [whole]
        exact SegmentReceiver.create_isComplete ..
      simp only [Option.some.injEq, Prod.mk.injEq] at result
      rw [(holds _).reassemble few (complete _)] at result
      exact (Option.some.inj result.2).symm

/-- `receive_confirmed_request` returns the payload or no data, as long as no transaction begins
with a later segment.
-/
theorem AllHold.receiveConfirmedRequest {pdu} (allHold : self.AllHold segments)
    (few : segments.length ≤ 128) (genuine : pdu.IsSegmentOf segments) (source : BACnetAddress)
    (first : self.lookup (source, pdu.invokeId) = none → pdu.sequenceNumber = some 0)
    : (self.receiveConfirmedRequest pdu source).1.AllHold segments
      ∧ ∀ target data, (self.receiveConfirmedRequest pdu source).2.2 = some (target, some data)
        → data = segments.flatten := by
  unfold ServerTSM.receiveConfirmedRequest
  split
  · next present =>
      split
      · exact allHold.handleRequestSegment few genuine (lookup_eq_some.mp present).2
      · split <;> exact ⟨allHold, by simp⟩
  · next absent => exact allHold.receiveNewRequest few genuine (first absent) source

end ServerTSM

-- The server application

def Task.Carries (payload : Bytes) : Task → Prop
  | .dispatchRequest _ _ data _ | .awaitHandler _ _ data _ => data = payload
  | .handleConfirmedRequest _ _ | .handleUnconfirmedRequest _ _ => True

namespace Application

/-- All that was handed over to dispatch tasks and to handlers is the payload. -/
structure HandsOver (app : Application) (payload : Bytes) : Prop where
  tasks : ∀ task ∈ app.backgroundTasks, task.Carries payload
  calls : ∀ call ∈ app.handlerCalls, call.serviceData = payload

/-- The server reassembles the request, which comes in segments only. -/
structure Reassembles (app : Application) (request : SegmentedRequest) : Prop
    extends app.HandsOver request.payload where
  receivers : app.serverTsm.AllHold request.segments
  segmented : ∀ pdu source, .handleConfirmedRequest pdu source ∉ app.backgroundTasks

variable {self next : Application} {request : SegmentedRequest}

/-- A segment that arrives, unless it begins a transaction as a later one. -/
theorem Reassembles.handleSegmentedRequest {pdu} (reassembles : self.Reassembles request)
    (genuine : pdu.IsSegmentOf request.segments) (source : BACnetAddress)
    (first : self.serverTsm.lookup (source, pdu.invokeId) = none → pdu.sequenceNumber = some 0)
    : (self.handleSegmentedRequest pdu source).1.Reassembles request := by
  have received := reassembles.receivers.receiveConfirmedRequest request.few genuine source first
  rw [flatten_splitPayload request.split] at received
  unfold Application.handleSegmentedRequest
  generalize self.serverTsm.receiveConfirmedRequest pdu source = outcome at received ⊢
  obtain ⟨serverTsm, sent, result⟩ := outcome
  dsimp only at received ⊢
  split
  · next ref data =>
      refine ⟨⟨?_, reassembles.calls⟩, received.1, ?_⟩
      · intro task member
        rcases List.mem_append.mp member with old | new
        · exact reassembles.tasks task old
        · rw [List.mem_singleton.mp new]
          exact received.2 ref data rfl
      · intro other source' member
        rcases List.mem_append.mp member with old | new
        · exact reassembles.segmented other source' old
        · cases List.mem_singleton.mp new
  · exact ⟨⟨reassembles.tasks, reassembles.calls⟩, received.1, reassembles.segmented⟩

/-- Whatever arrives, the server reassembles the request. -/
theorem Reassembles.dispatchApdu {apdu} (reassembles : self.Reassembles request)
    (source : BACnetAddress)
    (genuine : ∀ pdu, apdu = .confirmedRequest pdu → pdu.IsSegmentOf request.segments
      ∧ (self.serverTsm.lookup (source, pdu.invokeId) = none → pdu.sequenceNumber = some 0))
    : (self.dispatchApdu source apdu).1.Reassembles request := by
  cases apdu with
  | confirmedRequest pdu =>
    obtain ⟨isSegment, first⟩ := genuine pdu rfl
    simp only [Application.dispatchApdu, isSegment.1, if_true]
    exact reassembles.handleSegmentedRequest isSegment source first
  | unconfirmedRequest pdu =>
    refine ⟨⟨?_, reassembles.calls⟩, reassembles.receivers, ?_⟩
    · intro task member
      rcases List.mem_append.mp member with old | new
      · exact reassembles.tasks task old
      · rw [List.mem_singleton.mp new]
        trivial
    · intro other source' member
      rcases List.mem_append.mp member with old | new
      · exact reassembles.segmented other source' old
      · cases List.mem_singleton.mp new
  | segmentAck pdu =>
    simp only [Application.dispatchApdu]
    split
    · exact ⟨⟨reassembles.tasks, reassembles.calls⟩, reassembles.receivers,
        reassembles.segmented⟩
    · exact ⟨⟨reassembles.tasks, reassembles.calls⟩,
        reassembles.receivers.handleSegmentAckForResponse source pdu, reassembles.segmented⟩
  | _ =>
    exact ⟨⟨reassembles.tasks, reassembles.calls⟩, reassembles.receivers,
      reassembles.segmented⟩

theorem finishDispatch_handlerCalls (self : Application) (ref serviceChoice : Nat) (txn)
    (source : BACnetAddress) (outcome)
    : (self.finishDispatch ref txn serviceChoice source outcome).1.handlerCalls
      = self.handlerCalls := by
  unfold finishDispatch
  split
  · split
    · split <;> rfl
    · rfl
  · rfl

theorem Reassembles.startDispatch (reassembles : self.Reassembles request) {serviceData}
    (carries : serviceData = request.payload) (ref serviceChoice : Nat) (source : BACnetAddress)
    : (self.startDispatch ref serviceChoice serviceData source).1.Reassembles request
      ∧ ∀ task, (self.startDispatch ref serviceChoice serviceData source).2 = some task
        → task.Carries request.payload
          ∧ ∀ pdu source', task ≠ .handleConfirmedRequest pdu source' := by
  unfold Application.startDispatch
  split
  · exact ⟨reassembles, by simp⟩
  · refine ⟨⟨⟨reassembles.tasks, ?_⟩, reassembles.receivers, reassembles.segmented⟩, ?_⟩
    · intro call member
      rcases List.mem_append.mp member with old | new
      · exact reassembles.calls call old
      · rw [List.mem_singleton.mp new]
        exact carries
    · intro task left
      cases left
      exact ⟨carries, by simp⟩

/-- Tasks, handlers, timers and the DCC state keep the server reassembling the request. -/
theorem Reassembles.step {event sent} (reassembles : self.Reassembles request)
    (internal : Exchange.isInternal event = true) (stepped : self.step event = some (next, sent))
    : next.Reassembles request := by
  cases event with
  | taskStarts index =>
    simp only [Application.step, Option.bind_eq_some_iff, Option.map_eq_some_iff] at stepped
    obtain ⟨task, present, ⟨started, sent', waiting⟩, starts, result⟩ := stepped
    cases result
    have member := List.mem_of_getElem? present
    have left : started.Reassembles request
        ∧ ∀ task, waiting = some task → task.Carries request.payload
          ∧ ∀ pdu source', task ≠ .handleConfirmedRequest pdu source' := by
      cases task with
      | handleConfirmedRequest pdu source => exact absurd member (reassembles.segmented _ _)
      | handleUnconfirmedRequest pdu source =>
        cases starts
        exact ⟨reassembles, by simp⟩
      | dispatchRequest ref serviceChoice serviceData source =>
        cases starts
        exact reassembles.startDispatch (reassembles.tasks _ member) ref serviceChoice source
      | awaitHandler ref serviceChoice serviceData source => cases starts
    refine ⟨⟨?_, left.1.calls⟩, left.1.receivers, ?_⟩
    · intro task member
      rcases mem_replaceTask member with old | new
      · exact left.1.tasks task old
      · exact (left.2 task new).1
    · intro pdu source member
      rcases mem_replaceTask member with old | new
      · exact left.1.segmented pdu source old
      · exact (left.2 _ new).2 pdu source rfl
  | handlerEnds index outcome =>
    simp only [Application.step, Option.bind_eq_some_iff, Option.map_eq_some_iff] at stepped
    obtain ⟨task, _, ⟨ended, sent'⟩, ends, result⟩ := stepped
    cases result
    cases task with
    | awaitHandler ref serviceChoice serviceData source =>
      simp only [handlerEnds, Option.map_eq_some_iff] at ends
      obtain ⟨txn, found, finished⟩ := ends
      let app := { self with handlerOutcomes := self.handlerOutcomes ++ [(ref, outcome)] }
      have tasks := finishDispatch_tasks app ref serviceChoice txn source outcome
      have calls := finishDispatch_handlerCalls app ref serviceChoice txn source outcome
      have step := @finishDispatch_finished app ref serviceChoice txn source outcome
      rw [finished] at tasks calls step
      dsimp only at tasks calls
      refine ⟨⟨?_, ?_⟩, reassembles.receivers.finished found step, ?_⟩
      · intro task member
        exact reassembles.tasks task (tasks ▸ List.mem_of_mem_eraseIdx member)
      · intro call member
        exact reassembles.calls call (calls ▸ member)
      · intro pdu source' member
        exact reassembles.segmented pdu source' (tasks ▸ List.mem_of_mem_eraseIdx member)
    | _ => cases ends
  | serverTimerFires ref =>
    simp only [Application.step, Option.map_eq_some_iff] at stepped
    obtain ⟨⟨tsm, sent'⟩, fired, result⟩ := stepped
    cases result
    exact ⟨⟨reassembles.tasks, reassembles.calls⟩, reassembles.receivers.fired fired,
      reassembles.segmented⟩
  | dccStateChanges state =>
    cases stepped
    exact ⟨⟨reassembles.tasks, reassembles.calls⟩, reassembles.receivers,
      reassembles.segmented⟩
  | _ => cases internal

/-- The APDU is a segment other than segment 0 of a request without a transaction. -/
def beginsLate (self : Application) (source : BACnetAddress) : APDU → Bool
  | .confirmedRequest pdu =>
    pdu.segmented && (self.serverTsm.lookup (source, pdu.invokeId)).isNone
      && pdu.sequenceNumber != some 0
  | _ => false

end Application

-- The exchange

namespace Exchange

/-- `send_request` is called. -/
def Event.isCall : Event → Bool
  | .requestCalled _ _ _ => true
  | _ => false

/-- The step hands the server a later segment of a request that it has no transaction for. -/
def BeginsLate (self : Exchange) : Event → Prop
  | .arrivesAtServer index =>
    ∃ apdu ∈ self.toServer[index]?, self.server.beginsLate self.clientAddress apdu = true
  | _ => False

instance (self : Exchange) : DecidablePred self.BeginsLate
  | .arrivesAtServer _ => inferInstanceAs (Decidable (∃ apdu ∈ _, _))
  | .requestCalled _ _ _ | .requestReturns _ | .clientTimerFires _ | .arrivesAtClient _
  | .serverActs _ => inferInstanceAs (Decidable False)

/-- Client and network keep to the request, and the server reassembles it. -/
structure Intact (exchange : Exchange) (request : SegmentedRequest) : Prop where
  client : request.OnlySentBy exchange.client
  underway : ∀ pdu, .confirmedRequest pdu ∈ exchange.toServer
    → pdu.IsSegmentOf request.segments
  server : exchange.server.Reassembles request

variable {self next : Exchange} {request : SegmentedRequest}

theorem Intact.withClient {stepped} (intact : self.Intact request)
    (keeps : request.OnlySentBy stepped.1
      ∧ ∀ pdu, .confirmedRequest pdu ∈ stepped.2.map Sent.apdu
        → pdu.IsSegmentOf request.segments)
    : (self.withClient stepped).Intact request where
  client := keeps.1
  underway := by
    intro pdu member
    rcases List.mem_append.mp member with old | new
    · exact intact.underway pdu old
    · exact keeps.2 pdu new
  server := intact.server

/-- Every step keeps the exchange intact, unless it calls again or begins a transaction late. -/
theorem Intact.step {event} (intact : self.Intact request) (honest : ¬ self.BeginsLate event)
    (single : event.isCall = false) (stepped : self.step .hostile event = some next)
    : next.Intact request := by
  cases event with
  | requestCalled serviceChoice requestData maxApduOverride => cases single
  | requestReturns invokeId =>
    simp only [Exchange.step, Option.bind_eq_some_iff] at stepped
    obtain ⟨txn, _, returned⟩ := stepped
    split at returned
    · cases returned
      refine ⟨?_, intact.underway, intact.server⟩
      intro key txn stored
      simp only [ClientTSM.finish, Dict.get_pop] at stored
      split at stored
      · cases stored
      · exact intact.client key txn stored
    · cases returned
  | clientTimerFires invokeId =>
    simp only [Exchange.step, Option.map_eq_some_iff] at stepped
    obtain ⟨moved, fired, rfl⟩ := stepped
    obtain ⟨body, progress, rfl⟩ := ClientTSM.fireTimer_update fired
    exact intact.withClient (intact.client.update progress)
  | arrivesAtServer index =>
    simp only [Exchange.step, Option.map_eq_some_iff] at stepped
    obtain ⟨⟨apdu, rest⟩, taken, rfl⟩ := stepped
    have member := Discipline.mem_of_take taken
    have here : self.toServer[index]? = some apdu := by
      obtain ⟨other, present, same⟩ := Option.map_eq_some_iff.mp taken
      cases same
      exact present
    refine ⟨intact.client, fun pdu underway => intact.underway pdu
      (Discipline.mem_of_mem_rest taken underway), ?_⟩
    apply intact.server.dispatchApdu
    intro pdu isRequest
    subst isRequest
    have isSegment := intact.underway pdu member
    refine ⟨isSegment, fun absent => ?_⟩
    by_contra late
    exact honest ⟨_, here, by simp [Application.beginsLate, isSegment.1, absent, late]⟩
  | arrivesAtClient index =>
    simp only [Exchange.step, Option.map_eq_some_iff] at stepped
    obtain ⟨⟨apdu, rest⟩, _, rfl⟩ := stepped
    have here : ({ self with toClient := rest } : Exchange).Intact request :=
      ⟨intact.client, intact.underway, intact.server⟩
    apply here.withClient
    rcases self.client.receive_cases self.serverAddress apdu with same | ⟨key, body, progress, same⟩
    · rw [same]
      exact ⟨intact.client, by simp⟩
    · rw [same]
      exact intact.client.update progress
  | serverActs event =>
    simp only [Exchange.step] at stepped
    split at stepped
    · next internal =>
        obtain ⟨⟨server, sent⟩, moved, rfl⟩ := Option.map_eq_some_iff.mp stepped
        exact ⟨intact.client, intact.underway, intact.server.step internal moved⟩
    · cases stepped

def opened (clientAddress serverAddress : BACnetAddress) (client : ClientTSM)
    (retries proposedWindowSize : Nat) : Exchange where
  clientAddress
  serverAddress
  client
  server := Application.started {} retries proposedWindowSize

/-- A server without transactions has reassembled nothing. -/
theorem reassembles_started (request) (retries proposedWindowSize : Nat)
    : (Application.started {} retries proposedWindowSize).Reassembles request where
  tasks := by simp [Application.started]
  calls := by simp [Application.started]
  receivers := by
    intro ref txn receiver stored
    simp [Application.started] at stored
  segmented := by simp [Application.started]

/-- As long as no transaction begins with a later segment, everything that the server hands over
is the payload of the client, whatever the network does.
-/
theorem always_handsOver (clientAddress serverAddress : BACnetAddress) (client : ClientTSM)
    (retries proposedWindowSize serviceChoice : Nat) (request : SegmentedRequest)
    {maxApduOverride : Option Nat} {events : List Event}
    (idle : client.transactions = Dict.empty)
    (fits : maxApduOverride.getD client.maxApduLength = request.maxApdu)
    (single : ∀ event ∈ events, event.isCall = false)
    (honest : Meets (step .hostile) (fun exchange event => ¬ exchange.BeginsLate event)
      (opened clientAddress serverAddress client retries proposedWindowSize)
      (.requestCalled serviceChoice request.payload maxApduOverride :: events))
    : Always (step .hostile) (fun exchange => exchange.server.HandsOver request.payload)
        (opened clientAddress serverAddress client retries proposedWindowSize)
        (.requestCalled serviceChoice request.payload maxApduOverride :: events) := by
  have nothing : request.OnlySentBy client := by
    intro key txn stored
    rw [idle] at stored
    cases stored
  have start : (opened clientAddress serverAddress client retries proposedWindowSize).Intact
      request :=
    ⟨nothing, by simp [opened], reassembles_started request retries proposedWindowSize⟩
  refine ⟨start.server.toHandsOver, fun next called => ?_⟩
  obtain ⟨_, later⟩ := honest next called
  cases called
  have begun := start.withClient (nothing.sendRequest serviceChoice serverAddress fits)
  exact @always_of_meets _ _ _ _ (fun exchange => exchange.Intact request) _
    (fun intact allowed stepped => intact.step allowed.1 allowed.2 stepped)
    (fun intact => intact.server.toHandsOver) _ _ begun (later.and_forall single)

set_option maxRecDepth 4096 in
/-- A request of 60 octets to a server that takes 50. -/
def twoSegments : SegmentedRequest where
  payload := List.replicate 44 1 ++ List.replicate 16 2
  maxApdu := 50
  segments := [List.replicate 44 1, List.replicate 16 2]
  long := by decide
  split := by rfl
  few := by decide

/-- The two segments arrive in order, the first one twice, and the handler is called. -/
theorem orderlyRequest_handsOver
    : Always (step .hostile) (fun exchange => exchange.server.HandsOver twoSegments.payload)
        (opened { macAddress := [10] } { macAddress := [20] } {} 3 16)
        [.requestCalled 15 twoSegments.payload (some 50), .arrivesAtServer 0, .arrivesAtServer 0,
          .arrivesAtServer 1, .serverActs (.taskStarts 0)] :=
  always_handsOver { macAddress := [10] } { macAddress := [20] } {} 3 16 15 twoSegments rfl rfl
    (by decide) (by decide +kernel)

/-- Segment 0 is lost, and the server hands over segment 1 as the whole request. -/
theorem lostFirstSegment_truncates
    : (run (step .hostile) (opened { macAddress := [10] } { macAddress := [20] } {} 3 16)
          [.requestCalled 15 twoSegments.payload (some 50), .arrivesAtServer 1]).map
            (fun exchange => exchange.server.backgroundTasks)
        = some [.dispatchRequest 0 15 (List.replicate 16 2) { macAddress := [10] }]
      ∧ ¬ Always (step .hostile) (fun exchange => exchange.server.HandsOver twoSegments.payload)
          (opened { macAddress := [10] } { macAddress := [20] } {} 3 16)
          [.requestCalled 15 twoSegments.payload (some 50), .arrivesAtServer 1] := by
  have reached : (run (step .hostile) (opened { macAddress := [10] } { macAddress := [20] } {} 3 16)
      [.requestCalled 15 twoSegments.payload (some 50), .arrivesAtServer 1]).map
        (fun exchange => exchange.server.backgroundTasks)
      = some [.dispatchRequest 0 15 (List.replicate 16 2) { macAddress := [10] }] := by
    decide +kernel
  refine ⟨reached, fun always => ?_⟩
  obtain ⟨final, ran, tasks⟩ := Option.map_eq_some_iff.mp reached
  have handsOver := (always_iff_prefixes.mp always _ [] final (by simp) ran).tasks
  rw [tasks] at handsOver
  have truncated : List.replicate 16 2 = twoSegments.payload :=
    handsOver _ (List.mem_singleton_self _)
  exact absurd (congrArg List.length truncated) (by decide)

end Exchange

end BacPy
