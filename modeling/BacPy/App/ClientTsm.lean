import BacPy.Encoding.Apdu
import BacPy.Network.Address
import BacPy.Segmentation.Manager

/-! Client Transaction State Machine (Clause 5.4.4).

Every handler of the source looks its transaction up by (address, invoke ID), changes that one
transaction and sends PDUs to its destination. The handlers are therefore functions on a
transaction, lifted to the table by `ClientTSM.update`.
-/

namespace BacPy

open Library

/-- The key of both transaction tables. -/
abbrev Key := BACnetAddress × Nat

/-- One call of `network.send`. For server transactions `transaction` names the transaction
object on whose behalf the PDU is sent; it is an observation of the model, not sent data.
-/
structure Sent where
  apdu : APDU
  destination : BACnetAddress
  expectingReply : Bool
  transaction : Option Nat := none
  deriving DecidableEq

/-- The exceptions a client future can end with (`services/errors.py`). -/
inductive BACnetException where
  | bacnetError (errorClass : ErrorClass) (errorCode : ErrorCode) (errorData : Bytes)
  | rejectError (reason : RejectReason)
  | abortError (reason : AbortReason)
  | timeoutError (message : String)
  deriving DecidableEq

/-- An `asyncio.Future[bytes]`. -/
inductive Future where
  | pending
  | result (data : Bytes)
  | exception (error : BACnetException)
  | cancelled
  deriving DecidableEq

def Future.done : Future → Bool
  | .pending => false
  | _ => true

/-- `pdu.proposed_window_size or 1` -/
def orOne : Option Nat → Nat
  | none => 1
  | some 0 => 1
  | some size => size

/-- `ClientTransactionState` (Clause 5.4.4). -/
inductive ClientTransactionState where
  | idle | segmentedRequest | awaitConfirmation | segmentedConfirmation
  deriving DecidableEq

/-- The callback of an armed client timer: `_on_timeout`, or `_on_segment_timeout` after T_seg
or T_wait_for_seg.
-/
inductive ClientTimer where
  | onTimeout
  | onSegmentTimeout (waitForSeg : Bool)
  deriving DecidableEq

/-- `ClientTransaction`. Each start of a timer cancels the one before, so a transaction has at
most one armed timer; the handle of a timer that has fired is as good as none.
-/
structure ClientTransaction where
  invokeId : Nat
  destination : BACnetAddress
  serviceChoice : Nat
  requestData : Bytes
  effectiveMaxApdu : Nat
  future : Future := .pending
  retryCount : Nat := 0
  timeoutHandle : Option ClientTimer := none
  state : ClientTransactionState := .idle
  segmentSender : Option SegmentSender := none
  segmentReceiver : Option SegmentReceiver := none
  segRetryCount : Nat := 0

/-- The key under which `send_request` stores the transaction. -/
def ClientTransaction.key (txn : ClientTransaction) : Key := (txn.destination, txn.invokeId)

/-- `ClientTSM`: its settings, the table of outstanding requests and the next invoke ID. -/
structure ClientTSM where
  retries : Nat := 3
  maxApduLength : Nat := 1476
  maxSegments : Option Nat := none
  proposedWindowSize : Nat := 16
  transactions : Dict Key ClientTransaction := Dict.empty
  nextInvokeId : Nat := 0

namespace ClientTSM

-- Sending

def confirmedRequestPdu (self : ClientTSM) (txn : ClientTransaction) : ConfirmedRequestPDU where
  segmented := false
  moreFollows := false
  segmentedResponseAccepted := true
  maxSegments := self.maxSegments
  maxApduLength := txn.effectiveMaxApdu
  invokeId := txn.invokeId
  sequenceNumber := none
  proposedWindowSize := none
  serviceChoice := txn.serviceChoice
  serviceRequest := txn.requestData

def sendConfirmedRequest (self : ClientTSM) (txn : ClientTransaction)
    : ClientTransaction × List Sent :=
  ({ txn with state := .awaitConfirmation, timeoutHandle := some .onTimeout },
    [{
      apdu := .confirmedRequest (self.confirmedRequestPdu txn)
      destination := txn.destination
      expectingReply := true
    }])

def requestSegmentPdu (self : ClientTSM) (txn : ClientTransaction) (sender : SegmentSender)
    : Nat × Bytes × Bool → ConfirmedRequestPDU
  | (seqNum, segData, moreFollows) => {
      segmented := true
      moreFollows
      segmentedResponseAccepted := true
      maxSegments := self.maxSegments
      maxApduLength := txn.effectiveMaxApdu
      invokeId := txn.invokeId
      sequenceNumber := some seqNum
      proposedWindowSize := some sender.proposedWindowSize
      serviceChoice := txn.serviceChoice
      serviceRequest := segData
    }

def fillAndSendRequestWindow (self : ClientTSM) (txn : ClientTransaction)
    : ClientTransaction × List Sent :=
  match txn.segmentSender with
  | none => (txn, [])
  | some sender =>
    ({ txn with timeoutHandle := some (.onSegmentTimeout true) },
      sender.fillWindow.map fun segment => {
        apdu := .confirmedRequest (self.requestSegmentPdu txn sender segment)
        destination := txn.destination
        expectingReply := true
      })

/-- `_send_segmented_request`. A `ValueError` of `split_payload` leaves the transaction as it
is and is raised to the caller.
-/
def sendSegmentedRequest (self : ClientTSM) (txn : ClientTransaction)
    : Except PyException (ClientTransaction × List Sent) :=
  match SegmentSender.create txn.requestData txn.invokeId txn.serviceChoice
      txn.effectiveMaxApdu .confirmedRequest self.proposedWindowSize with
  | .error (.segmentation error) =>
    .ok ({ txn with future := .exception (.abortError error.abortReason) }, [])
  | .error (.python error) => .error error
  | .ok sender =>
    .ok (self.fillAndSendRequestWindow
      { txn with segmentSender := some sender, state := .segmentedRequest })

/-- The choice between a segmented and an unsegmented request. -/
def transmit (self : ClientTSM) (txn : ClientTransaction)
    : Except PyException (ClientTransaction × List Sent) :=
  if computeMaxSegmentPayload txn.effectiveMaxApdu .confirmedRequest < txn.requestData.length then
    self.sendSegmentedRequest txn
  else
    .ok (self.sendConfirmedRequest txn)

def sendClientSegmentAck (txn : ClientTransaction) (seq : Nat) (negative : Bool) : List Sent :=
  match txn.segmentReceiver with
  | none => []
  | some receiver =>
    [{
      apdu := .segmentAck {
        negativeAck := negative
        sentByServer := false
        invokeId := txn.invokeId
        sequenceNumber := seq
        actualWindowSize := receiver.actualWindowSize
      }
      destination := txn.destination
      expectingReply := true
    }]

def abortTransaction (txn : ClientTransaction) (reason : AbortReason)
    : ClientTransaction × List Sent :=
  (if txn.future.done then txn
    else { txn with timeoutHandle := none, future := .exception (.abortError reason) },
    [{
      apdu := .abort { sentByServer := false, invokeId := txn.invokeId, abortReason := reason }
      destination := txn.destination
      expectingReply := false
    }])

-- Handlers of one transaction, entered while its future is pending

/-- `handle_simple_ack` and `handle_complex_ack` (with the empty or the received data). -/
def onAck (txn : ClientTransaction) (data : Bytes) : ClientTransaction :=
  if txn.state ≠ .awaitConfirmation then txn
  else { txn with timeoutHandle := none, future := .result data }

/-- `handle_error`, `handle_reject` and `handle_abort`. -/
def onFailure (txn : ClientTransaction) (error : BACnetException) : ClientTransaction :=
  { txn with timeoutHandle := none, future := .exception error }

/-- `handle_segment_ack` -/
def onSegmentAck (self : ClientTSM) (txn : ClientTransaction) (pdu : SegmentAckPDU)
    : ClientTransaction × List Sent :=
  if txn.state ≠ .segmentedRequest then (txn, [])
  else match txn.segmentSender with
  | none => (txn, [])
  | some sender =>
    if pdu.actualWindowSize < 1 ∨ 127 < pdu.actualWindowSize then
      abortTransaction txn .windowSizeOutOfRange
    else
      let (sender, complete) :=
        sender.handleSegmentAck pdu.sequenceNumber pdu.actualWindowSize pdu.negativeAck
      let txn := { txn with segmentSender := some sender, segRetryCount := 0 }
      if complete then
        ({
          txn with
          state := .awaitConfirmation
          segmentSender := none
          timeoutHandle := some .onTimeout
        }, [])
      else
        self.fillAndSendRequestWindow txn

/-- The first branch of `handle_segmented_complex_ack`: segment 0 of a segmented response. -/
def onFirstResponseSegment (self : ClientTSM) (txn : ClientTransaction) (pdu : ComplexAckPDU)
    : ClientTransaction × List Sent :=
  let receiver := SegmentReceiver.create pdu.serviceAck pdu.serviceChoice
    (orOne pdu.proposedWindowSize) pdu.moreFollows self.proposedWindowSize
  let txn := {
    txn with
    timeoutHandle := none
    segmentReceiver := some receiver
    state := .segmentedConfirmation
  }
  if pdu.moreFollows then
    ({ txn with timeoutHandle := some (.onSegmentTimeout false) },
      sendClientSegmentAck txn 0 false)
  else
    match receiver.reassemble with
    | .ok data => ({ txn with future := .result data }, [])
    | .error _ => (txn, [])

/-- The rest of `handle_segmented_complex_ack`: a later segment of the response. -/
def onResponseSegment (txn : ClientTransaction) (pdu : ComplexAckPDU)
    : ClientTransaction × List Sent :=
  if txn.state ≠ .segmentedConfirmation then (txn, [])
  else match txn.segmentReceiver, pdu.sequenceNumber with
  | some receiver, some sequenceNumber =>
    let (receiver, action, ackSeq) :=
      receiver.receiveSegment sequenceNumber pdu.serviceAck pdu.moreFollows
    let txn := { txn with segmentReceiver := some receiver }
    match action with
    | .complete =>
      let sent := sendClientSegmentAck txn ackSeq.toNat false
      match receiver.reassemble with
      | .ok data => ({ txn with timeoutHandle := none, future := .result data }, sent)
      | .error _ => ({ txn with timeoutHandle := none }, sent)
    | .sendAck | .resendLastAck =>
      ({ txn with timeoutHandle := some (.onSegmentTimeout false) },
        sendClientSegmentAck txn ackSeq.toNat false)
    | .proceed => ({ txn with timeoutHandle := some (.onSegmentTimeout false) }, [])
    | .abort => abortTransaction txn .invalidApduInThisState
  | _, _ => (txn, [])

/-- `handle_segmented_complex_ack` -/
def onSegmentedComplexAck (self : ClientTSM) (txn : ClientTransaction) (pdu : ComplexAckPDU)
    : ClientTransaction × List Sent :=
  if pdu.sequenceNumber = some 0 ∧ txn.state = .awaitConfirmation then
    self.onFirstResponseSegment txn pdu
  else
    onResponseSegment txn pdu

def onTimeout (self : ClientTSM) (txn : ClientTransaction) : ClientTransaction × List Sent :=
  if txn.retryCount < self.retries then
    let txn := { txn with retryCount := txn.retryCount + 1 }
    match self.transmit txn with
    | .ok sent => sent
    | .error _ => (txn, [])
  else
    ({
      txn with
      future := .exception (.timeoutError s!"No response after {self.retries} retries")
    }, [])

def onSegmentTimeout (self : ClientTSM) (txn : ClientTransaction)
    : ClientTransaction × List Sent :=
  match txn.state with
  | .segmentedRequest =>
    if txn.segRetryCount < self.retries then
      self.fillAndSendRequestWindow { txn with segRetryCount := txn.segRetryCount + 1 }
    else
      abortTransaction txn .tsmTimeout
  | .segmentedConfirmation =>
    if txn.segRetryCount < self.retries then
      let txn := { txn with segRetryCount := txn.segRetryCount + 1 }
      match txn.segmentReceiver with
      | none => (txn, [])
      | some receiver =>
        ({ txn with timeoutHandle := some (.onSegmentTimeout false) },
          sendClientSegmentAck txn receiver.lastAckSeq true)
    else
      abortTransaction txn .tsmTimeout
  | _ => (txn, [])

-- The table of transactions

/-- `txn = self._transactions.get(key)`, the guard `if txn and not txn.future.done()` shared by
all handlers, and the changes of the handler's body to that transaction object.
-/
def update (self : ClientTSM) (key : Key)
    (body : ClientTransaction → ClientTransaction × List Sent)
    : ClientTSM × List Sent :=
  match self.transactions.get key with
  | none => (self, [])
  | some txn =>
    if txn.future.done then (self, [])
    else
      let (txn, sent) := body txn
      ({ self with transactions := self.transactions.set key txn }, sent)

/-- The handler's body decides what becomes of a transaction whose future is pending. -/
theorem get_update_self {self : ClientTSM} {key : Key} {txn : ClientTransaction}
    {body : ClientTransaction → ClientTransaction × List Sent}
    (found : self.transactions.get key = some txn) (pending : txn.future.done = false)
    : (self.update key body).1.transactions.get key = some (body txn).1 := by
  simp [update, found, pending]

/-- A handler leaves the transactions under all other keys alone. -/
theorem get_update_ne {self : ClientTSM} {key other : Key}
    {body : ClientTransaction → ClientTransaction × List Sent} (different : other ≠ key)
    : (self.update key body).1.transactions.get other = self.transactions.get other := by
  unfold update
  split
  · rfl
  · split
    · rfl
    · exact Dict.get_set_ne different

def handleSimpleAck (self : ClientTSM) (source : BACnetAddress) (invokeId _serviceChoice : Nat)
    : ClientTSM × List Sent :=
  self.update (source, invokeId) fun txn => (onAck txn [], [])

def handleComplexAck (self : ClientTSM) (source : BACnetAddress) (invokeId _serviceChoice : Nat)
    (data : Bytes)
    : ClientTSM × List Sent :=
  self.update (source, invokeId) fun txn => (onAck txn data, [])

def handleError (self : ClientTSM) (source : BACnetAddress) (invokeId : Nat)
    (errorClass : ErrorClass) (errorCode : ErrorCode) (errorData : Bytes)
    : ClientTSM × List Sent :=
  self.update (source, invokeId) fun txn =>
    (onFailure txn (.bacnetError errorClass errorCode errorData), [])

def handleReject (self : ClientTSM) (source : BACnetAddress) (invokeId : Nat)
    (reason : RejectReason)
    : ClientTSM × List Sent :=
  self.update (source, invokeId) fun txn => (onFailure txn (.rejectError reason), [])

def handleAbort (self : ClientTSM) (source : BACnetAddress) (invokeId : Nat)
    (reason : AbortReason)
    : ClientTSM × List Sent :=
  self.update (source, invokeId) fun txn => (onFailure txn (.abortError reason), [])

def handleSegmentAck (self : ClientTSM) (source : BACnetAddress) (pdu : SegmentAckPDU)
    : ClientTSM × List Sent :=
  self.update (source, pdu.invokeId) fun txn => self.onSegmentAck txn pdu

def handleSegmentedComplexAck (self : ClientTSM) (source : BACnetAddress) (pdu : ComplexAckPDU)
    : ClientTSM × List Sent :=
  self.update (source, pdu.invokeId) fun txn => self.onSegmentedComplexAck txn pdu

/-- The branches of `_on_apdu_received` that hand an APDU to the client TSM. -/
def receive (self : ClientTSM) (source : BACnetAddress) : APDU → ClientTSM × List Sent
  | .simpleAck pdu => self.handleSimpleAck source pdu.invokeId pdu.serviceChoice
  | .complexAck pdu =>
    if pdu.segmented then self.handleSegmentedComplexAck source pdu
    else self.handleComplexAck source pdu.invokeId pdu.serviceChoice pdu.serviceAck
  | .error pdu =>
    self.handleError source pdu.invokeId pdu.errorClass pdu.errorCode pdu.errorData
  | .reject pdu => self.handleReject source pdu.invokeId pdu.rejectReason
  | .abort pdu => self.handleAbort source pdu.invokeId pdu.abortReason
  | .segmentAck pdu => if pdu.sentByServer then self.handleSegmentAck source pdu else (self, [])
  | .confirmedRequest _ | .unconfirmedRequest _ => (self, [])

/-- The armed timer of the transaction fires: its handle is spent, then its callback runs. -/
def fireTimer (self : ClientTSM) (key : Key) : Option (ClientTSM × List Sent) :=
  (self.transactions.get key).bind fun txn =>
    txn.timeoutHandle.map fun timer =>
      self.update key fun txn =>
        let txn := { txn with timeoutHandle := none }
        match timer with
        | .onTimeout => self.onTimeout txn
        | .onSegmentTimeout _ => self.onSegmentTimeout txn

-- Calls

/-- `_allocate_invoke_id`: the first free invoke ID from the counter on, and the counter after
the search, for at most `rounds` tries.
-/
def allocateInvokeId (self : ClientTSM) (destination : BACnetAddress)
    : Nat → Except PyException (Nat × ClientTSM)
  | 0 => .error (.runtimeError "No available invoke IDs for this peer")
  | rounds + 1 =>
    let iid := self.nextInvokeId
    let self := { self with nextInvokeId := (self.nextInvokeId + 1) % 256 }
    if (self.transactions.get (destination, iid)).isNone then .ok (iid, self)
    else allocateInvokeId self destination rounds

/-- `send_request` up to `await future`: the invoke ID of the call, or the exception that ends
it at once.
-/
def sendRequest (self : ClientTSM) (serviceChoice : Nat) (requestData : Bytes)
    (destination : BACnetAddress) (maxApduOverride : Option Nat)
    : Except PyException Nat × ClientTSM × List Sent :=
  match self.allocateInvokeId destination 256 with
  | .error error => (.error error, self, [])
  | .ok (invokeId, self) =>
    let txn : ClientTransaction := {
      invokeId, destination, serviceChoice, requestData
      effectiveMaxApdu := maxApduOverride.getD self.maxApduLength
    }
    match self.transmit txn with
    | .error error => (.error error, self, [])
    | .ok (txn, sent) =>
      (.ok invokeId, { self with transactions := self.transactions.set txn.key txn }, sent)

/-- The `finally` block of `send_request`, run when the future is done. -/
def finish (self : ClientTSM) (key : Key) : ClientTSM :=
  { self with transactions := self.transactions.pop key }

end ClientTSM

end BacPy
