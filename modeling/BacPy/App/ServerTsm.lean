import BacPy.App.ClientTsm

/-! Server Transaction State Machine (Clause 5.4.5).

Handlers and timers outlive the table entry they belong to: a handler holds its transaction
object, while a timer acts on whatever the table holds under its key. The model keeps both, a
heap of transaction objects and a table from keys to objects.
-/

namespace BacPy

open Library

/-- `ServerTransactionState` (Clause 5.4.5). -/
inductive ServerTransactionState where
  | idle | segmentedRequest | awaitResponse | segmentedResponse
  deriving DecidableEq

/-- The callback of an armed server timer: `_on_timeout`, or `_on_server_segment_timeout` after
T_seg or T_wait_for_seg.
-/
inductive ServerTimer where
  | onTimeout
  | onServerSegmentTimeout (waitForSeg : Bool)
  deriving DecidableEq

/-- `ServerTransaction`: an incoming confirmed request being processed. The source caches the
encoded response, the model the APDU it encodes.
-/
structure ServerTransaction where
  invokeId : Nat
  source : BACnetAddress
  serviceChoice : Nat
  state : ServerTransactionState := .idle
  cachedResponse : Option APDU := none
  timeoutHandle : Option ServerTimer := none
  segmentReceiver : Option SegmentReceiver := none
  segmentSender : Option SegmentSender := none
  segRetryCount : Nat := 0
  clientMaxApduLength : Nat := 1476
  clientMaxSegments : Option Nat := none
  segmentedResponseAccepted : Bool := false

/-- The key under which `receive_confirmed_request` stores the transaction. -/
def ServerTransaction.key (txn : ServerTransaction) : Key := (txn.source, txn.invokeId)

def unsegmentedComplexAck (invokeId serviceChoice : Nat) (serviceAck : Bytes) : ComplexAckPDU where
  segmented := false
  moreFollows := false
  invokeId
  sequenceNumber := none
  proposedWindowSize := none
  serviceChoice
  serviceAck

-- Steps on one transaction object

namespace ServerTransaction

/-- `_start_timeout`, `_restart_timeout` -/
def startTimeout (txn : ServerTransaction) : ServerTransaction :=
  { txn with timeoutHandle := some .onTimeout }

/-- `_start_segment_timeout`, `_restart_segment_timeout` -/
def startSegmentTimeout (txn : ServerTransaction) : ServerTransaction :=
  { txn with timeoutHandle := some (.onServerSegmentTimeout false) }

def startServerSegmentTimeout (txn : ServerTransaction) : ServerTransaction :=
  { txn with timeoutHandle := some (.onServerSegmentTimeout true) }

def cancelTimeout (txn : ServerTransaction) : ServerTransaction :=
  { txn with timeoutHandle := none }

def responseSegmentPdu (txn : ServerTransaction) (sender : SegmentSender)
    : Nat × Bytes × Bool → ComplexAckPDU
  | (seqNum, segData, moreFollows) => {
      segmented := true
      moreFollows
      invokeId := txn.invokeId
      sequenceNumber := some seqNum
      proposedWindowSize := some sender.proposedWindowSize
      serviceChoice := sender.serviceChoice
      serviceAck := segData
    }

/-- The transaction while `sender` sends the response to it. The whole ComplexACK is cached,
however long, for retransmission detection.
-/
def sendingResponse (txn : ServerTransaction) (sender : SegmentSender) (serviceChoice : Nat)
    (responseData : Bytes)
    : ServerTransaction :=
  {
    txn with
    segmentSender := some sender
    state := .segmentedResponse
    cachedResponse := some
      (.complexAck (unsegmentedComplexAck txn.invokeId serviceChoice responseData))
  }

def fillAndSendResponseWindow (txn : ServerTransaction) : ServerTransaction × List APDU :=
  match txn.segmentSender with
  | none => (txn, [])
  | some sender =>
    (txn.startServerSegmentTimeout,
      sender.fillWindow.map fun segment => .complexAck (txn.responseSegmentPdu sender segment))

/-- `_send_server_segment_ack`, for a TSM with the given window size. -/
def sendServerSegmentAck (txn : ServerTransaction) (ourWindowSize seq : Nat) (negative : Bool)
    : APDU :=
  .segmentAck {
    negativeAck := negative
    sentByServer := true
    invokeId := txn.invokeId
    sequenceNumber := seq
    actualWindowSize := match txn.segmentReceiver with
      | some receiver => receiver.actualWindowSize
      | none => ourWindowSize
  }

end ServerTransaction

-- The objects and the table of transactions

/-- `ServerTSM`: its settings, the transaction objects by reference, and the table. -/
structure ServerTSM where
  retries : Nat := 3
  proposedWindowSize : Nat := 16
  objects : Dict Nat ServerTransaction := Dict.empty
  nextRef : Nat := 0
  transactions : Dict Key Nat := Dict.empty

namespace ServerTSM

/-- Write an object back. -/
def write (self : ServerTSM) (ref : Nat) (txn : ServerTransaction) : ServerTSM :=
  { self with objects := self.objects.set ref txn }

/-- The object the table holds under a key. -/
def lookup (self : ServerTSM) (key : Key) : Option (Nat × ServerTransaction) :=
  (self.transactions.get key).bind fun ref =>
    (self.objects.get ref).map fun txn => (ref, txn)

/-- PDUs sent to the source of a transaction on its behalf. -/
def sentFor (ref : Nat) (txn : ServerTransaction) (expectingReply : Bool) (apdus : List APDU)
    : List Sent :=
  apdus.map fun apdu =>
    { apdu, destination := txn.source, expectingReply, transaction := some ref }

/-- Write a transaction back after sending PDUs that expect a reply. -/
def writeAndSend (self : ServerTSM) (ref : Nat) (stepped : ServerTransaction × List APDU)
    : ServerTSM × List Sent :=
  (self.write ref stepped.1, sentFor ref stepped.1 true stepped.2)

def abortServerTransaction (self : ServerTSM) (ref : Nat) (txn : ServerTransaction)
    (reason : AbortReason)
    : ServerTSM × List Sent :=
  let aborted := { txn.cancelTimeout with cachedResponse := none }
  ({ self.write ref aborted with transactions := self.transactions.pop txn.key },
    sentFor ref txn false
      [.abort { sentByServer := true, invokeId := txn.invokeId, abortReason := reason }])

/-- `handle_request_segment`, entered with the transaction of the segment's key. The returned
reference and data are those of the source; the data is absent while segments are missing.
-/
def handleRequestSegment (self : ServerTSM) (ref : Nat) (txn : ServerTransaction)
    (pdu : ConfirmedRequestPDU)
    : ServerTSM × List Sent × Option (Nat × Option Bytes) :=
  match txn.segmentReceiver, pdu.sequenceNumber with
  | some receiver, some sequenceNumber =>
    let (receiver, action, ackSeq) :=
      receiver.receiveSegment sequenceNumber pdu.serviceRequest pdu.moreFollows
    let txn := { txn with segmentReceiver := some receiver }
    let ack := txn.sendServerSegmentAck self.proposedWindowSize ackSeq.toNat false
    match action with
    | .complete =>
      let txn := { txn.cancelTimeout with state := .awaitResponse }
      let (self, sent) := self.writeAndSend ref (txn, [ack])
      (self, sent, some (ref, receiver.reassemble.toOption))
    | .sendAck | .resendLastAck =>
      let (self, sent) := self.writeAndSend ref (txn.startSegmentTimeout, [ack])
      (self, sent, some (ref, none))
    | .proceed =>
      let (self, sent) := self.writeAndSend ref (txn.startSegmentTimeout, [])
      (self, sent, some (ref, none))
    | .abort =>
      let (self, sent) := self.abortServerTransaction ref txn .invalidApduInThisState
      (self, sent, none)
  | _, _ => (self, [], none)

def newTransaction (pdu : ConfirmedRequestPDU) (source : BACnetAddress) : ServerTransaction :=
  {
    invokeId := pdu.invokeId
    source
    serviceChoice := pdu.serviceChoice
    state := .awaitResponse
    timeoutHandle := some .onTimeout
    clientMaxApduLength := pdu.maxApduLength
    clientMaxSegments := pdu.maxSegments
    segmentedResponseAccepted := pdu.segmentedResponseAccepted
  }

/-- The receiver created from the first segment of a request to arrive. -/
def newReceiver (self : ServerTSM) (pdu : ConfirmedRequestPDU) : SegmentReceiver :=
  SegmentReceiver.create pdu.serviceRequest pdu.serviceChoice (orOne pdu.proposedWindowSize)
    pdu.moreFollows self.proposedWindowSize

/-- The new-request branch of `receive_confirmed_request`. -/
def receiveNewRequest (self : ServerTSM) (pdu : ConfirmedRequestPDU) (source : BACnetAddress)
    : ServerTSM × List Sent × Option (Nat × Option Bytes) :=
  let ref := self.nextRef
  let txn := newTransaction pdu source
  let self := {
    self with
    nextRef := ref + 1
    transactions := self.transactions.set (source, pdu.invokeId) ref
  }
  if pdu.segmented then
    let receiver := self.newReceiver pdu
    let txn := { txn with segmentReceiver := some receiver }
    let ack := txn.sendServerSegmentAck self.proposedWindowSize 0 false
    if pdu.moreFollows then
      let txn := { txn with state := .segmentedRequest }.startSegmentTimeout
      let (self, sent) := self.writeAndSend ref (txn, [ack])
      (self, sent, some (ref, none))
    else
      let (self, sent) := self.writeAndSend ref (txn, [ack])
      (self, sent, some (ref, receiver.reassemble.toOption))
  else
    (self.write ref txn, [], some (ref, some pdu.serviceRequest))

/-- `receive_confirmed_request`: the transaction of the request with its data, if that is
complete; `none` for a duplicate, whose cached response is resent.
-/
def receiveConfirmedRequest (self : ServerTSM) (pdu : ConfirmedRequestPDU)
    (source : BACnetAddress)
    : ServerTSM × List Sent × Option (Nat × Option Bytes) :=
  match self.lookup (source, pdu.invokeId) with
  | some (ref, existing) =>
    if existing.state = .segmentedRequest then
      self.handleRequestSegment ref existing pdu
    else
      match existing.cachedResponse with
      | some response => (self, [{
          apdu := response
          destination := source
          expectingReply := false
          transaction := some ref
        }], none)
      | none => (self, [], none)
  | none => self.receiveNewRequest pdu source

/-- `start_segmented_response`. A `ValueError` of `split_payload` is raised to the caller. -/
def startSegmentedResponse (self : ServerTSM) (ref : Nat) (txn : ServerTransaction)
    (serviceChoice : Nat) (responseData : Bytes)
    : Except PyException (ServerTSM × List Sent) :=
  if ¬ txn.segmentedResponseAccepted then
    .ok (self.abortServerTransaction ref txn .segmentationNotSupported)
  else
    match SegmentSender.create responseData txn.invokeId serviceChoice txn.clientMaxApduLength
        .complexAck self.proposedWindowSize txn.clientMaxSegments with
    | .error (.segmentation _) => .ok (self.abortServerTransaction ref txn .apduTooLong)
    | .error (.python error) => .error error
    | .ok sender =>
      .ok (self.writeAndSend ref
        (txn.sendingResponse sender serviceChoice responseData).fillAndSendResponseWindow)

def handleSegmentAckForResponse (self : ServerTSM) (source : BACnetAddress) (pdu : SegmentAckPDU)
    : ServerTSM × List Sent :=
  match self.lookup (source, pdu.invokeId) with
  | none => (self, [])
  | some (ref, txn) =>
    if txn.state ≠ .segmentedResponse then (self, [])
    else match txn.segmentSender with
    | none => (self, [])
    | some sender =>
      if pdu.actualWindowSize < 1 ∨ 127 < pdu.actualWindowSize then
        self.abortServerTransaction ref txn .windowSizeOutOfRange
      else
        let (sender, complete) :=
          sender.handleSegmentAck pdu.sequenceNumber pdu.actualWindowSize pdu.negativeAck
        if complete then
          (self.write ref {
            txn.startTimeout with
            segRetryCount := 0
            state := .idle
            segmentSender := none
          }, [])
        else
          self.writeAndSend ref ({
            txn with
            segRetryCount := 0
            segmentSender := some sender
          } : ServerTransaction).fillAndSendResponseWindow

def completeTransaction (self : ServerTSM) (ref : Nat) (txn : ServerTransaction)
    (response : APDU)
    : ServerTSM :=
  self.write ref { txn.startTimeout with cachedResponse := some response, state := .idle }

def onTimeout (self : ServerTSM) (key : Key) : ServerTSM × List Sent :=
  match self.lookup key with
  | none => ({ self with transactions := self.transactions.pop key }, [])
  | some (ref, txn) =>
    ({
      self.write ref { txn with cachedResponse := none } with
      transactions := self.transactions.pop key
    }, [])

def onServerSegmentTimeout (self : ServerTSM) (key : Key) : ServerTSM × List Sent :=
  match self.lookup key with
  | none => (self, [])
  | some (ref, txn) =>
    let retried := { txn with segRetryCount := txn.segRetryCount + 1 }
    match txn.state with
    | .segmentedRequest =>
      if txn.segRetryCount < self.retries then
        match txn.segmentReceiver with
        | none => (self.write ref retried, [])
        | some receiver =>
          self.writeAndSend ref (retried.startSegmentTimeout,
            [retried.sendServerSegmentAck self.proposedWindowSize receiver.lastAckSeq true])
      else
        self.abortServerTransaction ref txn .tsmTimeout
    | .segmentedResponse =>
      if txn.segRetryCount < self.retries then
        self.writeAndSend ref retried.fillAndSendResponseWindow
      else
        self.abortServerTransaction ref txn .tsmTimeout
    | _ => (self, [])

/-- The armed timer of an object fires: its handle is spent, then its callback acts on the key
of the object.
-/
def fireTimer (self : ServerTSM) (ref : Nat) : Option (ServerTSM × List Sent) :=
  (self.objects.get ref).bind fun txn =>
    txn.timeoutHandle.map fun timer =>
      let self := self.write ref txn.cancelTimeout
      match timer with
      | .onTimeout => self.onTimeout txn.key
      | .onServerSegmentTimeout _ => self.onServerSegmentTimeout txn.key

end ServerTSM

end BacPy
