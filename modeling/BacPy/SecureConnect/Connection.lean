import BacPy.SecureConnect.Bvlc

/-! `SCConnection`: the state machine of a BACnet/SC connection (Annex AB.6.2). -/

namespace BacPy

/-- What an operation on a WebSocket raises. -/
inductive ScException where
  /-- an `OSError`, such as a `TimeoutError` or a `ConnectionError` -/
  | osError
  /-- the `ConnectionClosed` of the WebSocket library -/
  | connectionClosed
  | python (raised : PyException)
  /-- any other exception that is not a cancellation -/
  | other
  deriving DecidableEq

inductive SCConnectionState where
  | idle
  | awaitingWebsocket
  | awaitingAccept
  | awaitingRequest
  | connected
  | disconnecting
  deriving DecidableEq

inductive SCConnectionRole where
  | initiating
  | accepting

structure SCConnection where
  localVmac : SCVMAC
  localUuid : DeviceUUID
  maxBvlc : Nat := 1600
  maxNpdu : Nat := 1497
  hubMode : Bool := false
  state : SCConnectionState := .idle
  role : Option SCConnectionRole := none
  /-- `_ws is not None`, and its transport has not been closed -/
  hasWebSocket : Bool := false
  msgIdCounter : UInt16 := 0
  peerVmac : Option SCVMAC := none
  peerUuid : Option DeviceUUID := none
  peerMaxBvlc : Nat := 0
  peerMaxNpdu : Nat := 0

namespace SCConnection

/-- Whether `_go_idle` calls `on_disconnected`. -/
def wasConnected (conn : SCConnection) : Bool :=
  conn.state = .connected ∨ conn.state = .disconnecting

def goIdle (conn : SCConnection) : SCConnection :=
  if conn.state = .idle then conn else { conn with state := .idle, hasWebSocket := false }

@[simp] theorem state_goIdle (conn : SCConnection) : conn.goIdle.state = .idle := by
  unfold goIdle
  split
  · assumption
  · rfl

@[simp] theorem peerVmac_goIdle (conn : SCConnection) : conn.goIdle.peerVmac = conn.peerVmac := by
  unfold goIdle
  split <;> rfl

/-- What the payload of the peer's handshake message says about the peer. -/
def withPeer (conn : SCConnection) (payload : ConnectPayload) : SCConnection :=
  {
    conn with
    peerVmac := some payload.vmac
    peerUuid := some payload.uuid
    peerMaxBvlc := payload.maxBvlcLength
    peerMaxNpdu := payload.maxNpduLength
  }

-- Messages

def canSend (conn : SCConnection) : Bool := conn.state = .connected ∧ conn.hasWebSocket

/-- `send_raw`, with what the WebSocket does: the frame that is sent. -/
def sendRaw (conn : SCConnection) (data : Bytes) (ws : Except ScException Unit)
    : Except ScException Bytes :=
  if conn.canSend then ws.map fun _ => data else .error .osError

def sendMessage (conn : SCConnection) (msg : SCMessage) (ws : Except ScException Unit)
    : Except ScException Bytes :=
  if conn.canSend then
    match msg.encode with
    | .error raised => .error (.python raised)
    | .ok data => ws.map fun _ => data
  else .error .osError

/-- Whether a frame is within the limit of the connection: others are dropped by `_process_frame`, or
refused by the WebSocket protocol, which has the same limit.
-/
def fits (conn : SCConnection) (raw : Bytes) : Bool := raw.length ≤ conn.maxBvlc

/-- What `_receive_loop` and `_handle_message` pass to `on_message` of a frame. -/
def passesOn (conn : SCConnection) (raw : Bytes) : Option SCMessage :=
  if conn.canSend ∧ conn.fits raw then
    match SCMessage.decode raw conn.hubMode with
    | .error _ => none
    | .ok msg =>
      match msg.function with
      | .disconnectRequest | .heartbeatRequest | .heartbeatAck => none
      | _ => some msg
  else none

-- The accepting peer

/-- `accept`, up to where it waits for the Connect-Request. -/
def beginAccept (conn : SCConnection) : SCConnection :=
  { conn with role := some .accepting, hasWebSocket := true, state := .awaitingRequest }

/-- What `accept` makes of what it waited for. -/
inductive RequestOutcome where
  /-- it goes idle and returns -/
  | idle
  | raised (exception : ScException)
  | request (payload : ConnectPayload)

def readRequest (received : Except ScException Bytes) : RequestOutcome :=
  match received with
  | .error .osError => .idle
  | .error exception => .raised exception
  | .ok raw =>
    match SCMessage.decode raw with
    | .error raised => if raised.isValueError then .idle else .raised (.python raised)
    | .ok request =>
      if request.function ≠ .connectRequest then .idle
      else
        match ConnectPayload.decode request.payload with
        | .error raised => .raised (.python raised)
        | .ok payload => .request payload

-- The initiating peer

/-- `initiate`, up to where it makes its Connect-Request. -/
def beginInitiate (conn : SCConnection) : SCConnection :=
  { conn with role := some .initiating, hasWebSocket := true, state := .awaitingAccept }

/-- The Connect-Request of `initiate`, and the connection that has taken a message id for it. -/
def connectRequest (conn : SCConnection) : Except PyException (SCConnection × Bytes) := do
  let payload ← ConnectPayload.encode {
    vmac := conn.localVmac
    uuid := conn.localUuid
    maxBvlcLength := conn.maxBvlc
    maxNpduLength := conn.maxNpdu
  }
  let conn := { conn with msgIdCounter := conn.msgIdCounter + 1 }
  let frame ← SCMessage.encode {
    function := .connectRequest
    messageId := conn.msgIdCounter
    payload
  }
  .ok (conn, frame)

/-- What `initiate` makes of what it waited for. -/
inductive ResponseOutcome where
  /-- it goes idle and returns -/
  | idle
  /-- the same, and it calls `on_vmac_collision` -/
  | collision
  | raised (exception : ScException)
  | accepted (payload : ConnectPayload)

def errorCodeNodeDuplicateVmac : UInt16 := 0x0071

/-- The answer to the Connect-Request. -/
def readResponse (received : Except ScException Bytes) : ResponseOutcome :=
  match received with
  | .error .osError => .idle
  | .error exception => .raised exception
  | .ok raw =>
    match SCMessage.decode raw with
    | .error raised => if raised.isValueError then .idle else .raised (.python raised)
    | .ok response =>
      match response.function with
      | .connectAccept =>
        match ConnectPayload.decode response.payload with
        | .error raised => .raised (.python raised)
        | .ok payload => .accepted payload
      | .bvlcResult =>
        match BvlcResultPayload.decode response.payload with
        | .error raised => .raised (.python raised)
        | .ok result =>
          if result.resultCode = .nak ∧ result.errorCode = errorCodeNodeDuplicateVmac then
            .collision
          else .idle
      | _ => .idle

end SCConnection

end BacPy
