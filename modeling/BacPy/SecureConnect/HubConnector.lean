import BacPy.SecureConnect.Connection
import Mathlib.Algebra.Order.Ring.Unbundled.Rat

/-! `SCHubConnector`: the loop that connects to the primary hub or the failover hub, from one await
point to the next (Annex AB.5.2).
-/

namespace BacPy

inductive SCHubConnectionStatus where
  | noHubConnection
  | connectedToPrimary
  | connectedToFailover
  deriving DecidableEq

/-- `SCHubConnector` with its configuration. -/
structure SCHubConnector where
  localVmac : SCVMAC
  localUuid : DeviceUUID
  primaryHubUri : String := ""
  failoverHubUri : Option String := none
  minReconnectTime : Rat := 10
  maxReconnectTime : Rat := 600
  maxBvlcLength : Nat := 1600
  maxNpduLength : Nat := 1497
  connection : Option SCConnection := none
  connectedTo : SCHubConnectionStatus := .noHubConnection
  reconnectDelay : Rat := minReconnectTime
  running : Bool := false
  /-- `_connected_event` is set -/
  connectedEvent : Bool := false

/-- Where the task of `_connect_loop` is. -/
inductive LoopPhase where
  /-- in `SCWebSocket.connect` -/
  | connecting (status : SCHubConnectionStatus)
  /-- in `initiate`, sending the Connect-Request -/
  | sendingRequest (status : SCHubConnectionStatus)
  /-- in `initiate`, waiting for the Connect-Accept -/
  | awaitingAccept (status : SCHubConnectionStatus)
  /-- in `_run_until_disconnected` -/
  | connected
  | sleeping
  /-- the loop has been left without an exception, or by a cancellation -/
  | ended
  /-- an exception has left the loop -/
  | raised (exception : ScException)
  deriving DecidableEq

/-- A connector with its loop, and the connection that its last attempt has made. -/
structure ConnectLoop where
  connector : SCHubConnector
  phase : LoopPhase
  attempt : Option SCConnection := none

namespace SCHubConnector

def failover (connector : SCHubConnector) : LoopPhase :=
  if connector.failoverHubUri.any fun uri => uri ≠ "" then .connecting .connectedToFailover
  else .sleeping

def loopHead (connector : SCHubConnector) : LoopPhase :=
  if !connector.running then .ended
  else if connector.primaryHubUri ≠ "" then .connecting .connectedToPrimary
  else connector.failover

/-- What follows an attempt that has failed. -/
def nextAfter (connector : SCHubConnector) (status : SCHubConnectionStatus) : LoopPhase :=
  if status = .connectedToPrimary then connector.failover else .sleeping

def start (connector : SCHubConnector) : ConnectLoop :=
  let connector := { connector with running := true }
  { connector, phase := connector.loopHead }

def resetBackoff (connector : SCHubConnector) : SCHubConnector :=
  { connector with reconnectDelay := connector.minReconnectTime }

def increaseBackoff (connector : SCHubConnector) : SCHubConnector :=
  {
    connector with
    reconnectDelay := min (connector.reconnectDelay * 2) connector.maxReconnectTime
  }

/-- The connection that `_try_connect` makes. -/
def makeConnection (connector : SCHubConnector) : SCConnection where
  localVmac := connector.localVmac
  localUuid := connector.localUuid
  maxBvlc := connector.maxBvlcLength
  maxNpdu := connector.maxNpduLength

end SCHubConnector

namespace ConnectLoop

/-- What happens next to the loop; each event ends at an await point, or ends the loop. -/
inductive Event where
  /-- `SCWebSocket.connect` is over -/
  | webSocket (outcome : Except ScException Unit)
  /-- the WebSocket has sent the Connect-Request, or has raised -/
  | sent (outcome : Except ScException Unit)
  /-- the wait for the Connect-Accept is over; its timeout is an OSError -/
  | received (outcome : Except ScException Bytes)
  /-- the connection goes idle -/
  | disconnected
  /-- the sleep between two rounds is over -/
  | slept
  /-- `stop` -/
  | stop

/-- `_try_connect` behind the WebSocket handshake, up to where `initiate` sends. -/
def begin (loop : ConnectLoop) (status : SCHubConnectionStatus) : ConnectLoop :=
  let conn := loop.connector.makeConnection.beginInitiate
  match conn.connectRequest with
  | .error raised => { loop with phase := .raised (.python raised), attempt := some conn }
  | .ok (conn, _) => { loop with phase := .sendingRequest status, attempt := some conn }

/-- `_try_connect` of an attempt that has failed. -/
def fail (loop : ConnectLoop) (status : SCHubConnectionStatus) (conn : SCConnection)
    : ConnectLoop :=
  { loop with phase := loop.connector.nextAfter status, attempt := some conn.goIdle }

/-- `_try_connect` of an attempt that has succeeded, up to where `_run_until_disconnected` waits. -/
def succeed (loop : ConnectLoop) (status : SCHubConnectionStatus) (conn : SCConnection)
    : ConnectLoop :=
  {
    connector := {
      loop.connector.resetBackoff with
      connection := some conn
      connectedTo := status
      connectedEvent := true
    }
    phase := .connected
    attempt := some conn
  }

/-- `initiate` and `_try_connect`, behind the wait for the Connect-Accept. -/
def answered (loop : ConnectLoop) (status : SCHubConnectionStatus) (conn : SCConnection)
    (received : Except ScException Bytes)
    : ConnectLoop :=
  match SCConnection.readResponse received with
  | .idle | .collision => loop.fail status conn
  | .raised exception => { loop with phase := .raised exception }
  | .accepted payload =>
    loop.succeed status { conn.withPeer payload with state := .connected }

/-- `_run_until_disconnected`, behind its wait. -/
def afterDisconnect (loop : ConnectLoop) : ConnectLoop :=
  let connector := {
    loop.connector with
    connection := none
    connectedTo := .noHubConnection
    connectedEvent := false
  }
  { connector, phase := connector.loopHead, attempt := loop.attempt.map SCConnection.goIdle }

/-- `stop`: the task is cancelled where it is, and the connection goes idle that it has recorded. -/
def stop (loop : ConnectLoop) : ConnectLoop :=
  let connector := {
    loop.connector with
    running := false
    connection := none
    connectedTo := .noHubConnection
  }
  match loop.phase with
  | .raised _ => { loop with connector }
  | .connected =>
    { connector, phase := .ended, attempt := loop.attempt.map SCConnection.goIdle }
  | _ => { loop with connector, phase := .ended }

/-- One step of the loop; an event that it does not wait for has no successor. -/
def step (loop : ConnectLoop) : Event → Option ConnectLoop
  | .webSocket outcome =>
    match loop.phase, outcome with
    | .connecting status, .ok () => some (loop.begin status)
    | .connecting status, .error _ =>
      some { loop with phase := loop.connector.nextAfter status, attempt := none }
    | _, _ => none
  | .sent outcome =>
    match loop.phase, outcome with
    | .sendingRequest status, .ok () => some { loop with phase := .awaitingAccept status }
    | .sendingRequest _, .error exception => some { loop with phase := .raised exception }
    | _, _ => none
  | .received outcome =>
    match loop.phase, loop.attempt with
    | .awaitingAccept status, some conn => some (loop.answered status conn outcome)
    | _, _ => none
  | .disconnected => if loop.phase = .connected then some loop.afterDisconnect else none
  | .slept =>
    if loop.phase = .sleeping then
      let connector := loop.connector.increaseBackoff
      some { loop with connector, phase := connector.loopHead }
    else none
  | .stop => if loop.connector.running then some loop.stop else none

end ConnectLoop

end BacPy
