import BacPy.Library.OrderedDict
import BacPy.SecureConnect.Connection

/-! `SCHubFunction`: the hub's table of connections, from one await point to the next (Annex AB.5.3). -/

namespace BacPy

open Library

/-- Where the task of a client is: at the WebSocket handshake, at one of the await points of `accept`,
or through with it.
-/
inductive AcceptPhase where
  | upgrading
  | awaitingRequest
  | sendingNak
  | sendingAccept
  | over
  deriving DecidableEq

/-- A client of the hub: its connection, and the tasks about it. -/
structure HubClient where
  conn : SCConnection
  phase : AcceptPhase
  /-- a task with `disconnect()` has been created and has not started -/
  disconnectScheduled : Bool := false

/-- `SCHubFunction`; clients are known by numbers. -/
structure SCHubFunction where
  hubVmac : SCVMAC
  hubUuid : DeviceUUID
  maxConnections : Nat := 1000
  maxBvlcLength : Nat := 6000
  maxNpduLength : Nat := 1497
  connections : OrderedDict SCVMAC Nat := {}
  uuidMap : OrderedDict DeviceUUID SCVMAC := {}
  pendingVmacs : OrderedDict SCVMAC Rat := {}
  clients : Nat → Option HubClient := fun _ => none

namespace SCHubFunction

def withClient (hub : SCHubFunction) (id : Nat) (client : HubClient) : SCHubFunction :=
  { hub with clients := Function.update hub.clients id (some client) }

@[simp] theorem clients_withClient (hub : SCHubFunction) (id : Nat) (client : HubClient)
    : (hub.withClient id client).clients id = some client :=
  Function.update_self ..

theorem clients_withClient_ne {hub : SCHubFunction} {id other : Nat} {client : HubClient}
    (different : other ≠ id)
    : (hub.withClient id client).clients other = hub.clients other :=
  Function.update_of_ne different ..

/-- The connection that `_handle_client` makes. -/
def makeConnection (hub : SCHubFunction) : SCConnection where
  localVmac := hub.hubVmac
  localUuid := hub.hubUuid
  maxBvlc := hub.maxBvlcLength
  maxNpdu := hub.maxNpduLength
  hubMode := true

/-- `self._pending_vmacs.pop(vmac, None)`, if there is a VMAC. -/
def release (hub : SCHubFunction) (vmac : Option SCVMAC) : SCHubFunction :=
  match vmac with
  | none => hub
  | some vmac => { hub with pendingVmacs := hub.pendingVmacs.pop vmac }

@[simp] theorem connections_release (hub : SCHubFunction) (vmac : Option SCVMAC)
    : (hub.release vmac).connections = hub.connections := by
  cases vmac <;> rfl

@[simp] theorem clients_release (hub : SCHubFunction) (vmac : Option SCVMAC)
    : (hub.release vmac).clients = hub.clients := by
  cases vmac <;> rfl

@[simp] theorem uuidMap_release (hub : SCHubFunction) (vmac : Option SCVMAC)
    : (hub.release vmac).uuidMap = hub.uuidMap := by
  cases vmac <;> rfl

@[simp] theorem maxConnections_release (hub : SCHubFunction) (vmac : Option SCVMAC)
    : (hub.release vmac).maxConnections = hub.maxConnections := by
  cases vmac <;> rfl

/-- The first loop of `_check_vmac`: entries older than 30 seconds are dropped. -/
def purge (hub : SCHubFunction) (now : Rat) : SCHubFunction :=
  let stale := hub.pendingVmacs.entries.filter fun entry => 30 < now - entry.2
  { hub with pendingVmacs := (stale.map Prod.fst).foldl OrderedDict.pop hub.pendingVmacs }

def registeredUuid (hub : SCHubFunction) (vmac : SCVMAC) : Option (Option DeviceUUID) := do
  let id ← hub.connections.get vmac
  let client ← hub.clients id
  some client.conn.peerUuid

def checkVmac (hub : SCHubFunction) (now : Rat) (vmac : SCVMAC) (uuid : DeviceUUID)
    : SCHubFunction × Bool :=
  let hub := hub.purge now
  if (hub.registeredUuid vmac).any fun existing => existing ≠ some uuid then (hub, false)
  else if (hub.pendingVmacs.get vmac).isSome then (hub, false)
  else if hub.maxConnections ≤ hub.pendingVmacs.size then (hub, false)
  else ({ hub with pendingVmacs := hub.pendingVmacs.set vmac now }, true)

theorem clients_checkVmac (hub : SCHubFunction) (now : Rat) (vmac : SCVMAC) (uuid : DeviceUUID)
    : (hub.checkVmac now vmac uuid).1.clients = hub.clients := by
  unfold checkVmac
  dsimp only
  repeat' split
  all_goals rfl

theorem connections_checkVmac (hub : SCHubFunction) (now : Rat) (vmac : SCVMAC)
    (uuid : DeviceUUID)
    : (hub.checkVmac now vmac uuid).1.connections = hub.connections := by
  unfold checkVmac
  dsimp only
  repeat' split
  all_goals rfl

/-- A task is made that disconnects a client. -/
def scheduleDisconnect (hub : SCHubFunction) (id : Nat) : SCHubFunction :=
  match hub.clients id with
  | none => hub
  | some client => hub.withClient id { client with disconnectScheduled := true }

/-- The part of `_on_node_connected` about a UUID that was connected with another VMAC. -/
def dropFormer (hub : SCHubFunction) (vmac : SCVMAC) (uuid : DeviceUUID) : SCHubFunction :=
  match hub.uuidMap.get uuid with
  | none => hub
  | some former =>
    if former = vmac then hub
    else
      match hub.connections.get former with
      | none => hub
      | some id =>
        { hub with connections := hub.connections.pop former }.scheduleDisconnect id

/-- Dropping a former connection changes nothing of a client but that its disconnect is scheduled. -/
theorem map_dropFormer {Item : Type} (read : HubClient → Item)
    (unread : ∀ client : HubClient, read { client with disconnectScheduled := true } = read client)
    (hub : SCHubFunction) (vmac : SCVMAC) (uuid : DeviceUUID) (id : Nat)
    : ((hub.dropFormer vmac uuid).clients id).map read = (hub.clients id).map read := by
  have scheduled : ∀ (hub : SCHubFunction) (other : Nat),
      ((hub.scheduleDisconnect other).clients id).map read = (hub.clients id).map read := by
    intro hub other
    unfold scheduleDisconnect
    split
    · rfl
    · next client there =>
        by_cases same : id = other
        · rw [same, clients_withClient, there]
          exact congrArg some (unread client)
        · rw [clients_withClient_ne same]
  unfold dropFormer
  split
  · rfl
  · split
    · rfl
    · split
      · rfl
      · exact scheduled _ _

@[simp] theorem connections_scheduleDisconnect (hub : SCHubFunction) (id : Nat)
    : (hub.scheduleDisconnect id).connections = hub.connections := by
  unfold scheduleDisconnect
  split <;> rfl

/-- The former VMAC of a UUID is taken out of the table. -/
theorem get_dropFormer {hub : SCHubFunction} {vmac former : SCVMAC} {uuid : DeviceUUID}
    (mapped : hub.uuidMap.get uuid = some former) (different : former ≠ vmac)
    : (hub.dropFormer vmac uuid).connections.get former = none := by
  unfold dropFormer
  rw [mapped]
  dsimp only
  rw [if_neg different]
  split
  · assumption
  · simp

def onNodeConnected (hub : SCHubFunction) (id : Nat) (conn : SCConnection) : SCHubFunction :=
  match conn.peerVmac, conn.peerUuid with
  | some vmac, some uuid =>
    let hub := (hub.release vmac).dropFormer vmac uuid
    {
      hub with
      connections := hub.connections.set vmac id
      uuidMap := hub.uuidMap.set uuid vmac
    }
  | _, _ => hub

/-- The table behind `_on_node_connected`. -/
theorem connections_onNodeConnected (hub : SCHubFunction) {id : Nat} {conn : SCConnection}
    {vmac : SCVMAC} {uuid : DeviceUUID} (peerVmac : conn.peerVmac = some vmac)
    (peerUuid : conn.peerUuid = some uuid)
    : (hub.onNodeConnected id conn).connections
      = ((hub.release vmac).dropFormer vmac uuid).connections.set vmac id := by
  simp [onNodeConnected, peerVmac, peerUuid]

theorem map_onNodeConnected {Item : Type} (read : HubClient → Item)
    (unread : ∀ client : HubClient, read { client with disconnectScheduled := true } = read client)
    (hub : SCHubFunction) (id other : Nat) (conn : SCConnection)
    : ((hub.onNodeConnected id conn).clients other).map read = (hub.clients other).map read := by
  unfold onNodeConnected
  split
  · exact (map_dropFormer read unread ..).trans (by rw [clients_release])
  · rfl

/-- A connection with a UUID that is not in `_uuid_map` is put into the table. -/
theorem onNodeConnected_new (hub : SCHubFunction) {id conn vmac uuid}
    (peerVmac : conn.peerVmac = some vmac) (peerUuid : conn.peerUuid = some uuid)
    (newUuid : hub.uuidMap.get uuid = none)
    : hub.onNodeConnected id conn = {
        hub with
        connections := hub.connections.set vmac id
        uuidMap := hub.uuidMap.set uuid vmac
        pendingVmacs := hub.pendingVmacs.pop vmac
      } := by
  simp [onNodeConnected, release, dropFormer, peerVmac, peerUuid, newUuid]

def onNodeDisconnected (hub : SCHubFunction) (id : Nat) (conn : SCConnection) : SCHubFunction :=
  let hub := hub.release conn.peerVmac
  match conn.peerVmac with
  | none => hub
  | some vmac =>
    let hub :=
      if hub.connections.get vmac = some id then
        { hub with connections := hub.connections.pop vmac }
      else hub
    match conn.peerUuid with
    | none => hub
    | some uuid =>
      if hub.uuidMap.get uuid = some vmac then { hub with uuidMap := hub.uuidMap.pop uuid }
      else hub

/-- A connection that is registered is taken out of the table and out of `_uuid_map`. -/
theorem onNodeDisconnected_registered (hub : SCHubFunction) {id conn vmac uuid}
    (peerVmac : conn.peerVmac = some vmac) (peerUuid : conn.peerUuid = some uuid)
    (found : hub.connections.get vmac = some id) (mapped : hub.uuidMap.get uuid = some vmac)
    : hub.onNodeDisconnected id conn = {
        hub with
        connections := hub.connections.pop vmac
        uuidMap := hub.uuidMap.pop uuid
        pendingVmacs := hub.pendingVmacs.pop vmac
      } := by
  simp [onNodeDisconnected, release, peerVmac, peerUuid, found, mapped]

/-- `_go_idle` of a client's connection, with its callback. -/
def goIdle (hub : SCHubFunction) (id : Nat) (client : HubClient) : SCHubFunction :=
  let idle := hub.withClient id { client with conn := client.conn.goIdle }
  if client.conn.wasConnected then idle.onNodeDisconnected id client.conn else idle

-- Steps

/-- What happens next at a hub; each event ends at an await point. -/
inductive HubEvent where
  /-- a TCP connection is accepted: `_handle_client` starts -/
  | arrives (id : Nat)
  /-- its WebSocket handshake is over, well or badly -/
  | upgraded (id : Nat) (succeeded : Bool)
  /-- the wait of `accept` for the Connect-Request is over -/
  | received (id : Nat) (received : Except ScException Bytes) (now : Rat)
  /-- the Connect-Accept or the NAK has been sent, or sending it has failed -/
  | sent (id : Nat) (outcome : Except ScException Unit)
  /-- a task with `disconnect()` starts -/
  | disconnectStarts (id : Nat)
  /-- the connection goes idle: the peer disconnects, the WebSocket fails, or `disconnect()` ends -/
  | goesIdle (id : Nat)

/-- `accept`, behind its wait for the Connect-Request. -/
def acceptRequest (hub : SCHubFunction) (id : Nat) (client : HubClient)
    (received : Except ScException Bytes) (now : Rat)
    : SCHubFunction :=
  match SCConnection.readRequest received with
  | .idle => hub.goIdle id { client with phase := .over }
  | .raised _ => hub.withClient id { client with phase := .over }
  | .request payload =>
    let (hub, acceptable) := hub.checkVmac now payload.vmac payload.uuid
    if acceptable then
      hub.withClient id
        { client with conn := client.conn.withPeer payload, phase := .sendingAccept }
    else hub.withClient id { client with phase := .sendingNak }

/-- A client whose handshake is complete. -/
def connected (client : HubClient) : HubClient :=
  { client with conn := { client.conn with state := .connected }, phase := .over }

/-- `accept` and `_accept_with_cleanup`, behind the sending of the answer. -/
def answerSent (hub : SCHubFunction) (id : Nat) (client : HubClient)
    (outcome : Except ScException Unit)
    : SCHubFunction :=
  let done := { client with phase := .over }
  match outcome, client.phase with
  | .error _, _ => (hub.withClient id done).release client.conn.peerVmac
  | .ok (), .sendingAccept =>
    ((hub.withClient id (connected client)).onNodeConnected id (connected client).conn).release
      client.conn.peerVmac
  | .ok (), _ => (hub.goIdle id done).release client.conn.peerVmac

section Accepted

variable (hub : SCHubFunction) (id : Nat) {client : HubClient} {vmac : SCVMAC} {uuid : DeviceUUID}
  (accepting : client.phase = .sendingAccept) (peerVmac : client.conn.peerVmac = some vmac)
  (peerUuid : client.conn.peerUuid = some uuid)

include accepting

theorem answerSent_accept
    : hub.answerSent id client (.ok ())
      = ((hub.withClient id (connected client)).onNodeConnected id (connected client).conn).release
          client.conn.peerVmac := by
  simp only [answerSent, accepting]

/-- A Connect-Accept changes the connection of its own client only. -/
theorem conn_answerSent {other : Nat} (different : other ≠ id)
    : ((hub.answerSent id client (.ok ())).clients other).map HubClient.conn
      = (hub.clients other).map HubClient.conn := by
  rw [answerSent_accept hub id accepting, clients_release,
    map_onNodeConnected HubClient.conn fun _ => rfl, clients_withClient_ne different]

include peerVmac peerUuid

/-- The table behind a Connect-Accept: the VMAC is the client's, whoever had it. -/
theorem connections_answerSent
    : (hub.answerSent id client (.ok ())).connections
      = (((hub.withClient id (connected client)).release vmac).dropFormer vmac uuid).connections.set
          vmac id := by
  rw [answerSent_accept hub id accepting, connections_release,
    connections_onNodeConnected _ (show (connected client).conn.peerVmac = some vmac from peerVmac)
      (show (connected client).conn.peerUuid = some uuid from peerUuid)]

end Accepted

/-- `disconnect`, up to where it waits for its background tasks or is done. -/
def beginDisconnect (hub : SCHubFunction) (id : Nat) (client : HubClient) : SCHubFunction :=
  let started := { client with disconnectScheduled := false }
  if client.conn.state ≠ .connected ∨ !client.conn.hasWebSocket then hub.goIdle id started
  else
    hub.withClient id { started with conn := { client.conn with state := .disconnecting } }

def step (hub : SCHubFunction) : HubEvent → Option SCHubFunction
  | .arrives id =>
    match hub.clients id with
    | some _ => none
    | none =>
      if hub.maxConnections ≤ hub.connections.size then some hub
      else some (hub.withClient id { conn := hub.makeConnection, phase := .upgrading })
  | .upgraded id succeeded => do
      let client ← hub.clients id
      if client.phase ≠ .upgrading then none
      else if succeeded then
        some (hub.withClient id
          { client with conn := client.conn.beginAccept, phase := .awaitingRequest })
      else some (hub.withClient id { client with phase := .over })
  | .received id received now => do
      let client ← hub.clients id
      if client.phase ≠ .awaitingRequest then none
      else some (hub.acceptRequest id client received now)
  | .sent id outcome => do
      let client ← hub.clients id
      if client.phase ≠ .sendingNak ∧ client.phase ≠ .sendingAccept then none
      else some (hub.answerSent id client outcome)
  | .disconnectStarts id => do
      let client ← hub.clients id
      if client.disconnectScheduled then some (hub.beginDisconnect id client) else none
  | .goesIdle id => do
      let client ← hub.clients id
      if client.conn.wasConnected then some (hub.goIdle id client) else none

end SCHubFunction

end BacPy

/-! How the hub forwards messages: the headers that it rewrites, and whom it forwards to. -/

namespace BacPy

open Library

namespace SCMessage

-- Messages without header options

def Plain (msg : SCMessage) : Prop := msg.destOptions = [] ∧ msg.dataOptions = []

/-- The octets of a message without header options. -/
def plainOctets (msg : SCMessage) : Bytes :=
  msg.function.toOctet :: msg.flags :: (toBytes msg.messageId.toNat 2
    ++ (vmacOctets msg.originating ++ (vmacOctets msg.destination ++ msg.payload)))

theorem encode_plain {msg : SCMessage} (plain : msg.Plain) : msg.encode = .ok msg.plainOctets := by
  rw [encode, plain.1, plain.2]
  rfl

/-- A VMAC is read back from where it has been put. -/
theorem decodeVmac_octets (vmac : Option SCVMAC) (rest : Bytes) (text : String)
    : decodeVmac vmac.isSome (vmacOctets vmac ++ rest) text = .ok (vmac, rest) := by
  cases vmac with
  | none => rfl
  | some vmac =>
    have six := vmac.six
    have taken : (vmac.address ++ rest).take 6 = vmac.address := List.take_left' six
    have left : (vmac.address ++ rest).drop 6 = rest := List.drop_left' six
    have long : ¬ (vmac.address ++ rest).length < 6 := by simp; omega
    rw [show vmacOctets (some vmac) = vmac.address from rfl, decodeVmac, if_pos (by rfl),
      if_neg long, taken, left, SCVMAC.make_address]
    rfl

/-- The flags of a message without header options say which VMACs there are. -/
theorem flags_plain {msg : SCMessage} (plain : msg.Plain)
    : decide (msg.flags &&& 0x08 ≠ 0) = msg.originating.isSome
      ∧ decide (msg.flags &&& 0x04 ≠ 0) = msg.destination.isSome
      ∧ msg.flags &&& 0x02 = 0 ∧ msg.flags &&& 0x01 = 0 := by
  rw [flags, plain.1, plain.2]
  generalize msg.originating.isSome = originating
  generalize msg.destination.isSome = destination
  cases originating <;> cases destination <;> decide

/-- A message without header options is read back. -/
theorem decode_plainOctets {msg : SCMessage} (plain : msg.Plain)
    : decode msg.plainOctets = .ok msg := by
  obtain ⟨originating, destination, destOptions, dataOptions⟩ := flags_plain plain
  have id : UInt16.ofNat (fromBytes (toBytes msg.messageId.toNat 2)) = msg.messageId := by
    rw [fromBytes_toBytes (by simpa using msg.messageId.toNat_lt)]
    exact UInt16.ofNat_toNat
  refine decode_eq_ok.mpr ⟨msg.flags, _, _, vmacOctets msg.originating ++ _,
    vmacOctets msg.destination ++ msg.payload, msg.payload, msg.payload, msg.payload, rfl, id.symm,
    ?_, ?_, ?_, ?_, rfl⟩
  · rw [originating]
    exact decodeVmac_octets ..
  · rw [destination]
    exact decodeVmac_octets ..
  · rw [destOptions, plain.1]
    rfl
  · rw [dataOptions, plain.2]
    rfl

end SCMessage

-- The rewriting of headers

/-- New VMACs instead of those of a message; the options and the payload stay. The message has been
decoded, so that it reaches behind its VMACs.
-/
def rewriteForHub (vmacFlags : UInt8) (vmacs : Bytes) (raw : Bytes) : Bytes :=
  match raw with
  | function :: flags :: first :: second :: rest =>
    let flags := flags &&& 0x0F
    let skipped := (if flags &&& 0x08 ≠ 0 then 6 else 0) + (if flags &&& 0x04 ≠ 0 then 6 else 0)
    function :: ((flags &&& 0x03) ||| vmacFlags) :: first :: second
      :: (vmacs ++ rest.drop skipped)
  | raw => raw

def rewriteForHubUnicast (raw sourceVmac : Bytes) : Bytes := rewriteForHub 0x08 sourceVmac raw

def rewriteForHubBroadcast (raw sourceVmac : Bytes) : Bytes :=
  rewriteForHub (0x08 ||| 0x04) (sourceVmac ++ SCVMAC.broadcast.address) raw

/-- What the flags of a rewritten header say. -/
theorem flags_rewritten (flags : UInt8)
    : ((flags &&& 0x0F) &&& 0x08 ≠ 0 ↔ flags &&& 0x08 ≠ 0)
      ∧ ((flags &&& 0x0F) &&& 0x04 ≠ 0 ↔ flags &&& 0x04 ≠ 0)
      ∧ ((flags &&& 0x0F &&& 0x03 ||| 0x08) &&& 0x08 ≠ 0
        ∧ (flags &&& 0x0F &&& 0x03 ||| 0x08) &&& 0x04 = 0
        ∧ (flags &&& 0x0F &&& 0x03 ||| 0x08) &&& 0x02 = flags &&& 0x02
        ∧ (flags &&& 0x0F &&& 0x03 ||| 0x08) &&& 0x01 = flags &&& 0x01)
      ∧ (flags &&& 0x0F &&& 0x03 ||| (0x08 ||| 0x04)) &&& 0x08 ≠ 0
        ∧ (flags &&& 0x0F &&& 0x03 ||| (0x08 ||| 0x04)) &&& 0x04 ≠ 0
        ∧ (flags &&& 0x0F &&& 0x03 ||| (0x08 ||| 0x04)) &&& 0x02 = flags &&& 0x02
        ∧ (flags &&& 0x0F &&& 0x03 ||| (0x08 ||| 0x04)) &&& 0x01 = flags &&& 0x01 := by
  obtain ⟨bits⟩ := flags
  revert bits
  decide +kernel

/-- Where the rest of a message begins that is forwarded. -/
theorem drop_vmacs {flags : UInt8} {rest behindOriginating behindDestination : Bytes}
    {originating destination : Option SCVMAC} {text text' : String}
    (first : SCMessage.decodeVmac (flags &&& 0x08 ≠ 0) rest text = .ok (originating, behindOriginating))
    (second : SCMessage.decodeVmac (flags &&& 0x04 ≠ 0) behindOriginating text'
      = .ok (destination, behindDestination))
    : rest.drop ((if (flags &&& 0x0F) &&& 0x08 ≠ 0 then 6 else 0)
        + (if (flags &&& 0x0F) &&& 0x04 ≠ 0 then 6 else 0))
      = behindDestination := by
  obtain ⟨sameOriginating, sameDestination, _⟩ := flags_rewritten flags
  rw [SCMessage.rest_of_decodeVmac second, SCMessage.rest_of_decodeVmac first, List.drop_drop]
  simp only [sameOriginating, sameDestination, decide_eq_true_eq]

/-- A rewritten unicast is the same message with the sender's VMAC only. -/
theorem decode_rewriteForHubUnicast {raw : Bytes} {msg : SCMessage}
    (decoded : SCMessage.decode raw = .ok msg) (source : SCVMAC)
    : SCMessage.decode (rewriteForHubUnicast raw source.address)
      = .ok { msg with originating := some source, destination := none } := by
  obtain ⟨flags, first, second, rest, behindOriginating, behindDestination, behindDest, payload,
    rfl, id, originating, destination, destOptions, dataOptions, same⟩ :=
    SCMessage.decode_eq_ok.mp decoded
  obtain ⟨_, _, ⟨hasOriginating, hasDestination, hasDestOptions, hasDataOptions⟩, _⟩ :=
    flags_rewritten flags
  rw [rewriteForHubUnicast, rewriteForHub, drop_vmacs originating destination]
  refine SCMessage.decode_eq_ok.mpr ⟨_, first, second, _, behindDestination, behindDestination,
    behindDest, payload, rfl, id, ?_, ?_, ?_, ?_, same⟩
  · rw [decide_eq_true hasOriginating]
    exact SCMessage.decodeVmac_octets (some source) behindDestination _
  · rw [decide_eq_false (not_not.mpr hasDestination)]
    rfl
  · rw [hasDestOptions]
    exact destOptions
  · rw [hasDataOptions]
    exact dataOptions

/-- A rewritten broadcast is the same message with the sender's VMAC and the broadcast VMAC. -/
theorem decode_rewriteForHubBroadcast {raw : Bytes} {msg : SCMessage}
    (decoded : SCMessage.decode raw = .ok msg) (source : SCVMAC)
    : SCMessage.decode (rewriteForHubBroadcast raw source.address)
      = .ok { msg with originating := some source, destination := some SCVMAC.broadcast } := by
  obtain ⟨flags, first, second, rest, behindOriginating, behindDestination, behindDest, payload,
    rfl, id, originating, destination, destOptions, dataOptions, same⟩ :=
    SCMessage.decode_eq_ok.mp decoded
  obtain ⟨_, _, _, hasOriginating, hasDestination, hasDestOptions, hasDataOptions⟩ :=
    flags_rewritten flags
  rw [rewriteForHubBroadcast, rewriteForHub, drop_vmacs originating destination,
    List.append_assoc]
  refine SCMessage.decode_eq_ok.mpr ⟨_, first, second, _,
    SCVMAC.broadcast.address ++ behindDestination, behindDestination, behindDest, payload, rfl, id,
    ?_, ?_, ?_, ?_, same⟩
  · rw [decide_eq_true hasOriginating]
    exact SCMessage.decodeVmac_octets (some source) _ _
  · rw [decide_eq_true hasDestination]
    exact SCMessage.decodeVmac_octets (some SCVMAC.broadcast) behindDestination _
  · rw [hasDestOptions]
    exact destOptions
  · rw [hasDataOptions]
    exact dataOptions

-- Routing

namespace SCHubFunction

/-- Whether a client can be sent to. -/
def canSend (hub : SCHubFunction) (id : Nat) : Bool :=
  match hub.clients id with
  | none => false
  | some client => client.conn.canSend

/-- `_unicast`: the frame that is sent, and over which connection. -/
def unicast (hub : SCHubFunction) (msg : SCMessage) (raw : Option Bytes) : List (Nat × Bytes) :=
  match msg.destination.bind hub.connections.get with
  | none => []
  | some id =>
    if hub.canSend id then
      match raw, msg.encode with
      | some data, _ => [(id, data)]
      | none, .ok data => [(id, data)]
      | none, .error _ => []
    else []

/-- `_broadcast`: the frames that are sent, and over which connections. -/
def broadcast (hub : SCHubFunction) (msg : SCMessage) (exclude : SCVMAC) (raw : Option Bytes)
    : Except PyException (List (Nat × Bytes)) := do
  let encoded ← match raw with
    | some data => .ok data
    | none => msg.encode
  let targets := hub.connections.entries.filter fun entry => entry.1 ≠ exclude ∧ hub.canSend entry.2
  .ok (targets.map fun entry => (entry.2, encoded))

/-- `_on_node_message`: the frames that the hub sends for a message of a connected node; what it raises
is caught and logged.
-/
def onNodeMessage (hub : SCHubFunction) (source : SCConnection) (msg : SCMessage) (raw : Bytes)
    : List (Nat × Bytes) :=
  match source.peerVmac with
  | none => []
  | some peer =>
    if msg.originating.any fun originating => originating ≠ peer then []
    else if msg.destination.any fun destination => !destination.isBroadcast then
      hub.unicast msg (if raw ≠ [] then some (rewriteForHubUnicast raw peer.address) else none)
    else
      (hub.broadcast msg peer
        (if raw ≠ [] then some (rewriteForHubBroadcast raw peer.address) else none)).toOption.getD []

end SCHubFunction

end BacPy
