import BacPy.SecureConnect.HubFunction

/-! `SCTransport` and `SCNodeSwitch`: how an NPDU is sent over a direct connection or over the hub
(Annex AB.4).
-/

namespace BacPy

open Library

-- Direct connections

/-- `SCNodeSwitch`, as far as it is about the direct connections that there are. -/
structure SCNodeSwitch where
  directConnections : OrderedDict SCVMAC SCConnection := {}

namespace SCNodeSwitch

def hasDirect (switch : SCNodeSwitch) (dest : SCVMAC) : Bool :=
  (switch.directConnections.get dest).any fun conn => conn.state = .connected

/-- `send_direct`: the frame that is sent, if there is a connection and its WebSocket does not fail. -/
def sendDirect (switch : SCNodeSwitch) (dest : SCVMAC) (msg : SCMessage)
    (ws : Except ScException Unit)
    : Except ScException (Option Bytes) :=
  match switch.directConnections.get dest with
  | none => .ok none
  | some conn =>
    if conn.state ≠ .connected then .ok none
    else
      match conn.sendMessage msg ws with
      | .ok frame => .ok (some frame)
      | .error .osError => .ok none
      | .error exception => .error exception

end SCNodeSwitch

-- The transport

def unicastHeader (vmac : SCVMAC) (macAddress : Bytes) : Bytes :=
  [BvlcSCFunction.encapsulatedNpdu.toOctet, 0x0C, 0, 0] ++ vmac.address ++ macAddress

/-- `SCTransport`; each cached header is that of its destination. -/
structure SCTransport where
  vmac : SCVMAC
  unicastHeaderCache : OrderedDict Bytes Bytes := {}
  nodeSwitch : Option SCNodeSwitch := none
  /-- the connection of the hub connector -/
  hubConnection : Option SCConnection := none
  headers : ∀ mac header, unicastHeaderCache.get mac = some header
    → header = unicastHeader vmac mac := by exact nofun

/-- What a scheduled task is to send. -/
inductive SendTask where
  /-- `_send_raw_via_hub` -/
  | rawViaHub (data : Bytes)
  /-- `_send_direct_or_hub` -/
  | directOrHub (dest : SCVMAC) (directMsg hubMsg : SCMessage)

/-- The frame that a task has sent. -/
inductive SentFrame where
  | nothing
  | direct (frame : Bytes)
  | viaHub (frame : Bytes)

namespace SCTransport

def unicastCacheMax : Nat := 256

/-- The fast path of `send_unicast`. -/
def sendCached (transport : SCTransport) (npdu macAddress : Bytes) : SCTransport × SendTask :=
  match transport.unicastHeaderCache.get macAddress with
  | some header => (transport, .rawViaHub (header ++ npdu))
  | none =>
    let header := unicastHeader transport.vmac macAddress
    let cache :=
      if unicastCacheMax ≤ transport.unicastHeaderCache.size then {}
      else transport.unicastHeaderCache
    let headers : ∀ mac found, (cache.set macAddress header).get mac = some found
        → found = unicastHeader transport.vmac mac := by
      intro mac found there
      rw [OrderedDict.get_set] at there
      split at there
      · next same => rw [same, ← Option.some.inj there]
      · unfold cache at there
        split at there
        · cases there
        · exact transport.headers mac found there
    ({ transport with unicastHeaderCache := cache.set macAddress header, headers },
      .rawViaHub (header ++ npdu))

/-- The message over a direct connection, without VMACs. -/
def directMessage (npdu : Bytes) : SCMessage where
  function := .encapsulatedNpdu
  messageId := 0
  payload := npdu

def hubMessage (vmac dest : SCVMAC) (npdu : Bytes) : SCMessage where
  function := .encapsulatedNpdu
  messageId := 0
  originating := some vmac
  destination := some dest
  payload := npdu

/-- `send_unicast`: the transport behind it, and the task that is scheduled. -/
def sendUnicast (transport : SCTransport) (npdu macAddress : Bytes)
    : Except PyException (SCTransport × SendTask) :=
  match transport.nodeSwitch with
  | none => .ok (transport.sendCached npdu macAddress)
  | some switch => do
      let dest ← SCVMAC.make macAddress
      if switch.hasDirect dest then
        .ok (transport,
          .directOrHub dest (directMessage npdu) (hubMessage transport.vmac dest npdu))
      else .ok (transport.sendCached npdu macAddress)

/-- `SCHubConnector.send` and `send_raw` for a frame that has been sent, or not. -/
def overHub (outcome : Except ScException Bytes) : SentFrame :=
  match outcome with
  | .ok frame => .viaHub frame
  | .error _ => .nothing

/-- A scheduled task, with the connections that there are when it runs, and with what their WebSockets
do. A ConnectionError of the hub connector is caught, other exceptions end the task.
-/
def runTask (transport : SCTransport) (directWs hubWs : Except ScException Unit)
    : SendTask → SentFrame
  | .rawViaHub data =>
    match transport.hubConnection with
    | none => .nothing
    | some conn => overHub (conn.sendRaw data hubWs)
  | .directOrHub dest directMsg hubMsg =>
    let direct : Except ScException (Option Bytes) :=
      match transport.nodeSwitch with
      | none => .ok none
      | some switch => switch.sendDirect dest directMsg directWs
    match direct with
    | .error _ => .nothing
    | .ok (some frame) => .direct frame
    | .ok none =>
      match transport.hubConnection with
      | none => .nothing
      | some conn => overHub (conn.sendMessage hubMsg hubWs)

/-- Whether or not the header is cached, the same octets are sent. -/
theorem sendCached_task (transport : SCTransport) (npdu macAddress : Bytes)
    : (transport.sendCached npdu macAddress).2
      = .rawViaHub (unicastHeader transport.vmac macAddress ++ npdu) := by
  unfold sendCached
  split
  · next header found => rw [transport.headers macAddress header found]
  · rfl

theorem plain_directMessage (npdu : Bytes) : (directMessage npdu).Plain := ⟨rfl, rfl⟩

theorem plain_hubMessage (vmac dest : SCVMAC) (npdu : Bytes)
    : (hubMessage vmac dest npdu).Plain :=
  ⟨rfl, rfl⟩

/-- The cached header and the encoder of messages agree. -/
theorem plainOctets_hubMessage (vmac dest : SCVMAC) (npdu : Bytes)
    : (hubMessage vmac dest npdu).plainOctets = unicastHeader vmac dest.address ++ npdu := by
  have flags : (hubMessage vmac dest npdu).flags = 0x0C := by
    simp only [SCMessage.flags, hubMessage, Option.isSome_some, if_true, ne_eq, not_true, if_false]
    rfl
  rw [SCMessage.plainOctets, flags]
  simp [hubMessage, vmacOctets, unicastHeader, toBytes]

-- Receiving

/-- The call of the receive callback for an Encapsulated-NPDU: the NPDU and its source. -/
def receiveCall (msg : SCMessage) : Option (Bytes × Bytes) :=
  if msg.function = .encapsulatedNpdu ∧ msg.payload ≠ [] then
    some (msg.payload, (msg.originating.map SCVMAC.address).getD (List.replicate 6 0))
  else none

/-- `_on_hub_message`, as far as it calls the receive callback. -/
def onHubMessage (msg : SCMessage) : Option (Bytes × Bytes) := receiveCall msg

def onDirectMessage (msg : SCMessage) : Option (Bytes × Bytes) := receiveCall msg

end SCTransport

end BacPy
