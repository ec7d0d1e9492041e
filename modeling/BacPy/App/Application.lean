import BacPy.App.ServerTsm

/-! The receive path of `BACnetApplication`: dispatch of received APDUs to the two transaction
state machines, and the background tasks that execute service handlers.

A handler is code of the application's user. It runs between two steps of the model, the start
of its task and its outcome, and anything may happen in between.
-/

namespace BacPy

open Library

/-- How the awaited service handler ends. -/
inductive HandlerOutcome where
  | result (data : Option Bytes)
  | bacnetError (errorClass : ErrorClass) (errorCode : ErrorCode) (errorData : Bytes)
  | rejectError (reason : RejectReason)
  | abortError (reason : AbortReason)
  /-- `ValueError`, `IndexError` or `struct.error` -/
  | malformedData
  | otherException

/-- A background task: spawned and not yet started, or suspended in the `await` of a service
handler.
-/
inductive Task where
  | handleConfirmedRequest (pdu : ConfirmedRequestPDU) (source : BACnetAddress)
  | handleUnconfirmedRequest (pdu : UnconfirmedRequestPDU) (source : BACnetAddress)
  | dispatchRequest (ref serviceChoice : Nat) (serviceData : Bytes) (source : BACnetAddress)
  | awaitHandler (ref serviceChoice : Nat) (serviceData : Bytes) (source : BACnetAddress)
  deriving DecidableEq

def Task.transaction? : Task → Option Nat
  | .dispatchRequest ref .. | .awaitHandler ref .. => some ref
  | _ => none

/-- One execution of a confirmed service handler, an observation of the model. -/
structure HandlerCall where
  transaction : Nat
  serviceChoice : Nat
  serviceData : Bytes
  source : BACnetAddress
  deriving DecidableEq

/-- `BACnetApplication`, running: the parts its receive path works on, and the handler
executions started and ended so far.
-/
structure Application where
  clientTsm : ClientTSM := {}
  serverTsm : ServerTSM := {}
  dccState : EnableDisable := .enable
  backgroundTasks : List Task := []
  handlerCalls : List HandlerCall := []
  handlerOutcomes : List (Nat × HandlerOutcome) := []

def dccAllowedServices : List Nat := [deviceCommunicationControl, reinitializeDevice]

namespace Application

/-- The DCC check of `_dispatch_request`. -/
def dccDrops (self : Application) (serviceChoice : Nat) : Bool :=
  self.dccState = .disable ∧ serviceChoice ∉ dccAllowedServices

def spawnTask (self : Application) (task : Task) : Application :=
  { self with backgroundTasks := self.backgroundTasks ++ [task] }

def withClient (self : Application) (stepped : ClientTSM × List Sent)
    : Application × List Sent :=
  ({ self with clientTsm := stepped.1 }, stepped.2)

def withServer (self : Application) (stepped : ServerTSM × List Sent)
    : Application × List Sent :=
  ({ self with serverTsm := stepped.1 }, stepped.2)

def handleSegmentedRequest (self : Application) (pdu : ConfirmedRequestPDU)
    (source : BACnetAddress)
    : Application × List Sent :=
  let (serverTsm, sent, result) := self.serverTsm.receiveConfirmedRequest pdu source
  let self := { self with serverTsm }
  match result with
  | some (ref, some data) =>
    (self.spawnTask (.dispatchRequest ref pdu.serviceChoice data source), sent)
  | _ => (self, sent)

/-- The branches of `_on_apdu_received` on a decoded APDU. -/
def dispatchApdu (self : Application) (source : BACnetAddress) : APDU → Application × List Sent
  | .confirmedRequest pdu =>
    if pdu.segmented then self.handleSegmentedRequest pdu source
    else (self.spawnTask (.handleConfirmedRequest pdu source), [])
  | .unconfirmedRequest pdu => (self.spawnTask (.handleUnconfirmedRequest pdu source), [])
  | .simpleAck pdu =>
    self.withClient (self.clientTsm.handleSimpleAck source pdu.invokeId pdu.serviceChoice)
  | .complexAck pdu =>
    self.withClient
      (if pdu.segmented then
        self.clientTsm.handleSegmentedComplexAck source pdu
      else
        self.clientTsm.handleComplexAck source pdu.invokeId pdu.serviceChoice pdu.serviceAck)
  | .error pdu =>
    self.withClient
      (self.clientTsm.handleError source pdu.invokeId pdu.errorClass pdu.errorCode pdu.errorData)
  | .reject pdu =>
    self.withClient (self.clientTsm.handleReject source pdu.invokeId pdu.rejectReason)
  | .abort pdu =>
    self.withClient (self.clientTsm.handleAbort source pdu.invokeId pdu.abortReason)
  | .segmentAck pdu =>
    if pdu.sentByServer then self.withClient (self.clientTsm.handleSegmentAck source pdu)
    else self.withServer (self.serverTsm.handleSegmentAckForResponse source pdu)

/-- `_on_apdu_received`: an APDU that does not decode is dropped. -/
def onApduReceived (self : Application) (data : Bytes) (source : BACnetAddress)
    : Application × List Sent :=
  match decodeApdu data with
  | .error _ => (self, [])
  | .ok pdu => self.dispatchApdu source pdu

-- Background tasks

/-- `_dispatch_request` up to the `await` of the service handler: the task that waits for it,
unless DCC forbids the service.
-/
def startDispatch (self : Application) (ref serviceChoice : Nat) (serviceData : Bytes)
    (source : BACnetAddress)
    : Application × Option Task :=
  if self.dccDrops serviceChoice then (self, none)
  else
    ({
      self with
      handlerCalls := self.handlerCalls ++
        [{ transaction := ref, serviceChoice, serviceData, source }]
    }, some (.awaitHandler ref serviceChoice serviceData source))

/-- A spawned task starts: the PDUs it sends and the suspended task, if it is not finished. The
handling of unconfirmed requests touches neither transaction state machine.
-/
def startTask (self : Application) : Task → Option (Application × List Sent × Option Task)
  | .handleConfirmedRequest pdu source =>
    let (serverTsm, sent, result) := self.serverTsm.receiveConfirmedRequest pdu source
    let self := { self with serverTsm }
    match result with
    | some (ref, some data) =>
      let (self, waiting) := self.startDispatch ref pdu.serviceChoice data source
      some (self, sent, waiting)
    | _ => some (self, sent, none)
  | .handleUnconfirmedRequest _ _ => some (self, [], none)
  | .dispatchRequest ref serviceChoice serviceData source =>
    let (self, waiting) := self.startDispatch ref serviceChoice serviceData source
    some (self, [], waiting)
  | .awaitHandler .. => none

/-- The response PDU to an outcome other than a result that needs segmentation. -/
def responsePdu (invokeId serviceChoice : Nat) : HandlerOutcome → APDU
  | .result none => .simpleAck { invokeId, serviceChoice }
  | .result (some data) => .complexAck (unsegmentedComplexAck invokeId serviceChoice data)
  | .bacnetError errorClass errorCode errorData =>
    .error { invokeId, serviceChoice, errorClass, errorCode, errorData }
  | .rejectError reason => .reject { invokeId, rejectReason := reason }
  | .abortError reason => .abort { sentByServer := true, invokeId, abortReason := reason }
  | .malformedData => .reject { invokeId, rejectReason := .invalidParameterDataType }
  | .otherException => .abort { sentByServer := true, invokeId, abortReason := .other }

/-- The end of `_dispatch_request`: send the response and complete the transaction. -/
def respond (self : Application) (ref : Nat) (txn : ServerTransaction) (source : BACnetAddress)
    (response : APDU)
    : Application × List Sent :=
  self.withServer (self.serverTsm.completeTransaction ref txn response,
    [{ apdu := response, destination := source, expectingReply := false, transaction := some ref }])

/-- `_dispatch_request` after the handler has ended. -/
def finishDispatch (self : Application) (ref : Nat) (txn : ServerTransaction)
    (serviceChoice : Nat) (source : BACnetAddress) (outcome : HandlerOutcome)
    : Application × List Sent :=
  match outcome with
  | .result (some data) =>
    if computeMaxSegmentPayload txn.clientMaxApduLength .complexAck < data.length then
      match self.serverTsm.startSegmentedResponse ref txn serviceChoice data with
      | .ok stepped => self.withServer stepped
      -- the `ValueError` of `split_payload` meets the clause for malformed data
      | .error _ => self.respond ref txn source
          (responsePdu txn.invokeId serviceChoice .malformedData)
    else
      self.respond ref txn source (responsePdu txn.invokeId serviceChoice outcome)
  | _ => self.respond ref txn source (responsePdu txn.invokeId serviceChoice outcome)

def handlerEnds (self : Application) (outcome : HandlerOutcome)
    : Task → Option (Application × List Sent)
  | .awaitHandler ref serviceChoice _ source =>
    (self.serverTsm.objects.get ref).map fun txn =>
      { self with handlerOutcomes := self.handlerOutcomes ++ [(ref, outcome)] }.finishDispatch
        ref txn serviceChoice source outcome
  | _ => none

-- The application as a machine

/-- What can happen to a running application. -/
inductive Event where
  /-- `_on_apdu_received` -/
  | apduReceived (data : Bytes) (source : BACnetAddress)
  /-- a spawned background task gets its first turn -/
  | taskStarts (index : Nat)
  /-- the handler awaited by a background task ends -/
  | handlerEnds (index : Nat) (outcome : HandlerOutcome)
  /-- the timer armed for a server transaction fires -/
  | serverTimerFires (ref : Nat)
  /-- the timer armed for a client transaction fires -/
  | clientTimerFires (key : Key)
  /-- a DeviceCommunicationControl request or the end of its duration -/
  | dccStateChanges (state : EnableDisable)
  /-- `send_request` is called -/
  | requestCalled (serviceChoice : Nat) (requestData : Bytes) (destination : BACnetAddress)
    (maxApduOverride : Option Nat)
  /-- a `send_request` call whose future is done returns -/
  | requestReturns (key : Key)

def replaceTask (tasks : List Task) (index : Nat) : Option Task → List Task
  | some task => tasks.set index task
  | none => tasks.eraseIdx index

/-- One step of the application, and the PDUs it sends; `none` where the event cannot happen. -/
def step (self : Application) : Event → Option (Application × List Sent)
  | .apduReceived data source => some (self.onApduReceived data source)
  | .taskStarts index =>
    self.backgroundTasks[index]?.bind fun task =>
      (self.startTask task).map fun (self, sent, waiting) =>
        ({ self with backgroundTasks := replaceTask self.backgroundTasks index waiting }, sent)
  | .handlerEnds index outcome =>
    self.backgroundTasks[index]?.bind fun task =>
      (self.handlerEnds outcome task).map fun (self, sent) =>
        ({ self with backgroundTasks := self.backgroundTasks.eraseIdx index }, sent)
  | .serverTimerFires ref => (self.serverTsm.fireTimer ref).map self.withServer
  | .clientTimerFires key => (self.clientTsm.fireTimer key).map self.withClient
  | .dccStateChanges state => some ({ self with dccState := state }, [])
  | .requestCalled serviceChoice requestData destination maxApduOverride =>
    let (_, clientTsm, sent) :=
      self.clientTsm.sendRequest serviceChoice requestData destination maxApduOverride
    some ({ self with clientTsm }, sent)
  | .requestReturns key =>
    (self.clientTsm.transactions.get key).bind fun txn =>
      if txn.future.done then some ({ self with clientTsm := self.clientTsm.finish key }, [])
      else none

/-- One step, without the PDUs it sends. -/
def advance (self : Application) (event : Event) : Option Application :=
  (self.step event).map Prod.fst

theorem advance_eq_some {self next : Application} {event : Event}
    : self.advance event = some next ↔ ∃ sent, self.step event = some (next, sent) := by
  simp [advance, Option.map_eq_some_iff]

def started (clientTsm : ClientTSM) (retries proposedWindowSize : Nat) : Application where
  clientTsm
  serverTsm := { retries, proposedWindowSize }

end Application

end BacPy
