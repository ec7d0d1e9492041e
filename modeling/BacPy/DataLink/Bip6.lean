import BacPy.DataLink.Bbmd6
import Mathlib.Algebra.Order.Ring.Unbundled.Rat

/-! `BIP6Transport`: a BACnet/IPv6 port that has been started (Annex U). -/

namespace BacPy

open Library

-- Address resolution

structure VMACEntry where
  address : BIP6Address
  lastSeen : Rat

structure VMACCache where
  entries : OrderedDict Bytes VMACEntry := {}
  ttl : Rat := 300
  maxEntries : Nat := 4096

namespace VMACCache

def evictStale (cache : VMACCache) (now : Rat) : VMACCache :=
  let stale := cache.entries.entries.filter fun entry => cache.ttl < now - entry.2.lastSeen
  { cache with entries := (stale.map Prod.fst).foldl OrderedDict.pop cache.entries }

/-- The cache without the entry that was seen first. -/
def dropOldest (cache : VMACCache) : VMACCache :=
  match cache.entries.entries.argmin fun entry => entry.2.lastSeen with
  | none => cache
  | some oldest => { cache with entries := cache.entries.pop oldest.1 }

/-- The room that `put` makes for a new entry. -/
def makeRoom (cache : VMACCache) (now : Rat) : VMACCache :=
  let cache := cache.evictStale now
  if cache.maxEntries ≤ cache.entries.size then cache.dropOldest else cache

def put (cache : VMACCache) (now : Rat) (vmac : Bytes) (address : BIP6Address) : VMACCache :=
  let cache :=
    if (cache.entries.get vmac).isNone ∧ cache.maxEntries ≤ cache.entries.size then
      cache.makeRoom now
    else cache
  { cache with entries := cache.entries.set vmac { address, lastSeen := now } }

/-- `get`: the address, and the cache without the entry if that is stale. -/
def get (cache : VMACCache) (now : Rat) (vmac : Bytes) : Option BIP6Address × VMACCache :=
  match cache.entries.get vmac with
  | none => (none, cache)
  | some entry =>
    if cache.ttl < now - entry.lastSeen then
      (none, { cache with entries := cache.entries.pop vmac })
    else (some entry.address, cache)

end VMACCache

structure PendingResolution where
  npdu : Bytes
  created : Rat

-- The port

/-- `ForeignDevice6Manager`: where it registers, and whether it is registered. -/
structure ForeignDevice6Manager where
  bbmdAddress : BIP6Address
  localVmac : Bytes
  isRegistered : Bool := false

/-- `BIP6Transport`, once it has been started. -/
structure BIP6Transport where
  localAddress : BIP6Address
  vmac : Bytes
  multicastAddress : BitVec 128
  port : UInt16
  /-- `_receive_callback is not None` -/
  hasReceiveCallback : Bool := true
  vmacCache : VMACCache := {}
  pendingResolutions : OrderedDict Bytes (List PendingResolution) := {}
  bbmd : Option BBMD6Manager := none
  foreignDevice : Option ForeignDevice6Manager := none

/-- What a transport does: it sends datagrams, and calls its receive callback. -/
inductive Bip6Output where
  | sendto (data : Bytes) (destination : BIP6Address)
  | receive (npdu sourceVmac : Bytes)
  deriving DecidableEq

/-- `Bvlc6ResultCode(value)`, and whether it is a success. -/
def isSuccess6 (value : Nat) : Option Bool :=
  if value = 0 then some true
  else if value ∈ [0x30, 0x40, 0x50, 0x60, 0x70] then some false
  else none

/-- `ForeignDevice6Manager.handle_bvlc_result`; an unknown code raises without a change. -/
def ForeignDevice6Manager.handleBvlcResult (device : ForeignDevice6Manager) (data : Bytes)
    : ForeignDevice6Manager :=
  if data.length < 2 then device
  else
    match isSuccess6 (fromBytes (slice data 0 2)) with
    | some isRegistered => { device with isRegistered }
    | none => device

/-- `msg.source_vmac`, where it is neither missing nor empty. -/
def Bvll6Message.source (msg : Bvll6Message) : Option Bytes :=
  msg.sourceVmac.filter fun vmac => vmac ≠ []

namespace BIP6Transport

/-- A call of the receive callback, if there is one. -/
def deliver (transport : BIP6Transport) (npdu sourceVmac : Bytes) : List Bip6Output :=
  if transport.hasReceiveCallback then [.receive npdu sourceVmac] else []

def multicastGroup (transport : BIP6Transport) : BIP6Address where
  host := transport.multicastAddress
  port := transport.port

/-- What the callbacks of the BBMD do: `_send_raw`, `_send_multicast` and `_bbmd_local_deliver`. -/
def perform (transport : BIP6Transport) : Bbmd6Output → List Bip6Output
  | .send data destination => [.sendto data destination]
  | .multicast data => [.sendto data transport.multicastGroup]
  | .localBroadcast npdu sourceVmac => transport.deliver npdu sourceVmac

/-- `attach_bbmd`: the BBMD that it makes. -/
def makeBbmd (transport : BIP6Transport) (bdtEntries : List BDT6Entry) : BBMD6Manager where
  localAddress := transport.localAddress
  localVmac := transport.vmac
  hasLocalBroadcast := true
  hasMulticastSend := true
  bdt := bdtEntries

/-- A message sent to a station, if it can be encoded. -/
def sendTo (encoded : Except PyException Bytes) (destination : BIP6Address) : List Bip6Output :=
  match encoded with
  | .error _ => []
  | .ok bvll => [.sendto bvll destination]

/-- `self._vmac_cache.put(...)` -/
def remember (transport : BIP6Transport) (now : Rat) (vmac : Bytes) (address : BIP6Address)
    : BIP6Transport :=
  { transport with vmacCache := transport.vmacCache.put now vmac address }

def handleAddressResolution (transport : BIP6Transport) (now : Rat) (sourceVmac payload : Bytes)
    (sender : BIP6Address)
    : BIP6Transport × List Bip6Output :=
  if payload.length < 3 then (transport, [])
  else
    let ack := encodeBvll6 .addressResolutionAck [] (some transport.vmac) (some sourceVmac)
    (transport.remember now sourceVmac sender,
      if slice payload 0 3 = transport.vmac then sendTo ack sender else [])

/-- The NPDUs that `_flush_pending` sends: those that have waited for 30 seconds at most, up to one
that cannot be encoded.
-/
def sendPending (transport : BIP6Transport) (now : Rat) (vmac : Bytes) (address : BIP6Address)
    : List PendingResolution → List Bip6Output
  | [] => []
  | item :: rest =>
    if 30 < now - item.created then sendPending transport now vmac address rest
    else
      match encodeBvll6 .originalUnicastNpdu item.npdu (some transport.vmac) (some vmac) with
      | .error _ => []
      | .ok bvll => .sendto bvll address :: sendPending transport now vmac address rest

def flushPending (transport : BIP6Transport) (now : Rat) (vmac : Bytes) (address : BIP6Address)
    : BIP6Transport × List Bip6Output :=
  let pending := (transport.pendingResolutions.get vmac).getD []
  ({ transport with pendingResolutions := transport.pendingResolutions.pop vmac },
    transport.sendPending now vmac address pending)

def handleAddressResolutionAck (transport : BIP6Transport) (now : Rat) (sourceVmac : Bytes)
    (sender : BIP6Address)
    : BIP6Transport × List Bip6Output :=
  (transport.remember now sourceVmac sender).flushPending now sourceVmac sender

def handleVirtualAddressResolution (transport : BIP6Transport) (now : Rat) (sourceVmac : Bytes)
    (sender : BIP6Address)
    : BIP6Transport × List Bip6Output :=
  (transport.remember now sourceVmac sender,
    sendTo (encodeBvll6 .virtualAddressResolutionAck [] (some transport.vmac) (some sourceVmac))
      sender)

def handleBvlc6Result (transport : BIP6Transport) (data : Bytes) (source : BIP6Address)
    : BIP6Transport :=
  match transport.foreignDevice with
  | none => transport
  | some device =>
    if source = device.bbmdAddress then
      { transport with foreignDevice := some (device.handleBvlcResult data) }
    else transport

/-- `_send_bvlc6_nak`, where there is no BBMD. -/
def sendBvlc6Nak (transport : BIP6Transport) (resultCode : Bvlc6ResultCode)
    (destination : BIP6Address)
    : List Bip6Output :=
  if transport.bbmd.isNone then
    sendTo (encodeBvll6 .bvlcResult (toBytes resultCode.toNat 2) (some transport.vmac)) destination
  else []

/-- The normal receive path of `_on_datagram_received`; most messages need a source VMAC. -/
def receiveMessage (transport : BIP6Transport) (now : Rat) (msg : Bvll6Message)
    (sender : BIP6Address)
    : BIP6Transport × List Bip6Output :=
  match msg.function, msg.source with
  | .originalUnicastNpdu, some vmac => (transport, transport.deliver msg.data vmac)
  | .originalBroadcastNpdu, some vmac => (transport, transport.deliver msg.data vmac)
  | .forwardedNpdu, some vmac => (transport, transport.deliver msg.data vmac)
  | .addressResolution, some vmac => transport.handleAddressResolution now vmac msg.data sender
  | .forwardedAddressResolution, some vmac =>
    transport.handleAddressResolution now vmac msg.data sender
  | .addressResolutionAck, some vmac => transport.handleAddressResolutionAck now vmac sender
  | .virtualAddressResolution, some vmac =>
    transport.handleVirtualAddressResolution now vmac sender
  | .virtualAddressResolutionAck, some vmac => (transport.remember now vmac sender, [])
  | .bvlcResult, _ => (transport.handleBvlc6Result msg.data sender, [])
  | .registerForeignDevice, _ =>
    (transport, transport.sendBvlc6Nak .registerForeignDeviceNak sender)
  | .deleteForeignDeviceTableEntry, _ =>
    (transport, transport.sendBvlc6Nak .deleteForeignDeviceTableEntryNak sender)
  | .distributeBroadcastNpdu, _ =>
    (transport, transport.sendBvlc6Nak .distributeBroadcastToNetworkNak sender)
  | _, _ => (transport, [])

/-- A message that the BBMD looks at first. What raises there ends the handling. -/
def receiveWithBbmd (transport : BIP6Transport) (bbmd : BBMD6Manager) (now : Rat)
    (msg : Bvll6Message) (sender : BIP6Address)
    : BIP6Transport × List Bip6Output :=
  let bbmdSource :=
    if msg.function = .forwardedNpdu then msg.originatingAddress.getD sender else sender
  match bbmd.handleBvlc now msg.function msg.data bbmdSource msg.sourceVmac with
  | .error _ => (transport, [])
  | .ok (bbmd, outputs, handled) =>
    let transport := { transport with bbmd := some bbmd }
    let performed := outputs.flatMap transport.perform
    if handled ∨ msg.function = .forwardedNpdu then (transport, performed)
    else
      let (transport, delivered) := transport.receiveMessage now msg sender
      (transport, performed ++ delivered)

theorem receiveWithBbmd_of_ok {transport : BIP6Transport} {bbmd after : BBMD6Manager} {now : Rat}
    {msg : Bvll6Message} {sender : BIP6Address} {outputs : List Bbmd6Output} {handled : Bool}
    (looked : bbmd.handleBvlc now msg.function msg.data
      (if msg.function = .forwardedNpdu then msg.originatingAddress.getD sender else sender)
      msg.sourceVmac = .ok (after, outputs, handled))
    (taken : handled ∨ msg.function = .forwardedNpdu)
    : transport.receiveWithBbmd bbmd now msg sender
      = ({ transport with bbmd := some after },
        outputs.flatMap { transport with bbmd := some after }.perform) := by
  unfold receiveWithBbmd
  dsimp only
  rw [looked]
  exact if_pos taken

/-- `_on_datagram_received`: the transport afterwards, and what it has done. -/
def onDatagramReceived (transport : BIP6Transport) (now : Rat) (data : Bytes) (addr : BIP6Address)
    : BIP6Transport × List Bip6Output :=
  match decodeBvll6 data with
  | .error _ => (transport, [])
  | .ok msg =>
    if msg.source = some transport.vmac then (transport, [])
    else
      let transport := (msg.source.map fun vmac => transport.remember now vmac addr).getD transport
      match transport.bbmd with
      | none => transport.receiveMessage now msg addr
      | some bbmd => transport.receiveWithBbmd bbmd now msg addr

def forwardOwnBroadcast (transport : BIP6Transport) (npdu : Bytes) (now : Rat)
    : Except PyException (List Bip6Output) :=
  match transport.bbmd with
  | none => .ok []
  | some bbmd => do
      let (_, outputs, _) ← bbmd.handleBvlc now .originalBroadcastNpdu npdu transport.localAddress
        (some transport.vmac)
      .ok (outputs.flatMap transport.perform)

/-- `send_broadcast`: what it does, and the exception that it raises in the end, if any. -/
def sendBroadcast (transport : BIP6Transport) (npdu : Bytes) (now : Rat)
    : List Bip6Output × Option PyException :=
  match transport.foreignDevice.filter ForeignDevice6Manager.isRegistered with
  | some device =>
    match encodeBvll6 .distributeBroadcastNpdu npdu (some device.localVmac) with
    | .error raised => ([], some raised)
    | .ok bvll => ([.sendto bvll device.bbmdAddress], none)
  | none =>
    match encodeBvll6 .originalBroadcastNpdu npdu (some transport.vmac) with
    | .error raised => ([], some raised)
    | .ok bvll =>
      match transport.forwardOwnBroadcast npdu now with
      | .error raised => ([.sendto bvll transport.multicastGroup], some raised)
      | .ok forwarded => (.sendto bvll transport.multicastGroup :: forwarded, none)

/-- The queue of a VMAC with one more NPDU; of 16 that wait already, the first one is dropped. -/
def enqueue (pending : List PendingResolution) (npdu : Bytes) (now : Rat)
    : List PendingResolution :=
  (if 16 ≤ pending.length then pending.drop 1 else pending) ++ [{ npdu, created := now }]

def queue (transport : BIP6Transport) (npdu macAddress : Bytes) (now : Rat)
    : Except PyException (BIP6Transport × List Bip6Output) :=
  let waiting := transport.pendingResolutions.get macAddress
  if waiting.isNone ∧ 1024 ≤ transport.pendingResolutions.size then .ok (transport, [])
  else do
    let pending := enqueue (waiting.getD []) npdu now
    let bvll ← encodeBvll6 .addressResolution macAddress (some transport.vmac)
    .ok (
      {
        transport with
        pendingResolutions := transport.pendingResolutions.set macAddress pending
      },
      [.sendto bvll transport.multicastGroup])

def sendUnicast (transport : BIP6Transport) (npdu macAddress : Bytes) (now : Rat)
    : Except PyException (BIP6Transport × List Bip6Output) :=
  let (destination, vmacCache) := transport.vmacCache.get now macAddress
  let transport := { transport with vmacCache }
  match destination with
  | none => transport.queue npdu macAddress now
  | some destination => do
      let bvll ← encodeBvll6 .originalUnicastNpdu npdu (some transport.vmac) (some macAddress)
      .ok (transport, [.sendto bvll destination])

end BIP6Transport

end BacPy
