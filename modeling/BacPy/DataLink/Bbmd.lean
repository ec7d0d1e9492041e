import BacPy.DataLink.Bvll
import BacPy.Library.OrderedDict

/-! `BBMDManager`: a BACnet/IP Broadcast Management Device (Annexes J.4 and J.5). -/

namespace BacPy

open Library

/-- `BDTEntry`; the mask is four octets, as their number. -/
structure BDTEntry where
  address : BIPAddress
  broadcastMask : UInt32
  deriving DecidableEq

/-- `FDTEntry`; registration caps the time to live at 3600 seconds. -/
structure FDTEntry where
  address : BIPAddress
  ttl : Nat
  expiry : Rat

def BDTEntry.encode (entry : BDTEntry) : Bytes :=
  entry.address.encode ++ toBytes entry.broadcastMask.toNat 4

def BDTEntry.decode (data : Bytes) : Except PyException BDTEntry := do
  let address ← BIPAddress.decode (slice data 0 6)
  .ok { address, broadcastMask := UInt32.ofNat (fromBytes (slice data 6 10)) }

def FDTEntry.remaining (entry : FDTEntry) (now : Rat) : Nat :=
  min 65535 (entry.expiry - now).floor.toNat

def allOnesMask : UInt32 := 0xFFFFFFFF

def computeForwardAddress (entry : BDTEntry) : BIPAddress where
  host := entry.address.host ||| ~~~entry.broadcastMask
  port := entry.address.port

theorem keyed_empty (address entry)
    (found : ({} : OrderedDict BIPAddress FDTEntry).get address = some entry)
    : entry.address = address := by
  cases found

/-- `BBMDManager`. All entries of the foreign device table are stored under their own addresses. -/
structure BBMDManager where
  localAddress : BIPAddress
  /-- `_local_broadcast is not None` -/
  hasLocalBroadcast : Bool := false
  broadcastAddress : Option BIPAddress := none
  maxFdtEntries : Nat := 128
  maxBdtEntries : Nat := 128
  acceptFdRegistrations : Bool := true
  allowWriteBdt : Bool := false
  globalAddress : Option BIPAddress := none
  bdt : List BDTEntry := []
  fdt : OrderedDict BIPAddress FDTEntry := {}
  keyed : ∀ address entry, fdt.get address = some entry → entry.address = address := by
    exact keyed_empty

/-- What a BBMD does: it sends datagrams, and calls its local broadcast callback. -/
inductive BbmdOutput where
  | send (data : Bytes) (destination : BIPAddress)
  | localBroadcast (npdu : Bytes) (source : BIPAddress)

namespace BBMDManager

def setBdt (manager : BBMDManager) (entries : List BDTEntry) : BBMDManager :=
  { manager with bdt := entries }

/-- The destinations in `_bdt_peers`, as `_rebuild_forward_cache` computes them. -/
def peers (manager : BBMDManager) : List BIPAddress :=
  (manager.bdt.filter fun entry => entry.address ≠ manager.localAddress).map computeForwardAddress

/-- `_is_unicast_bdt_mask`; the last entry for an address counts. -/
def isUnicastBdtMask (manager : BBMDManager) (address : BIPAddress) : Bool :=
  match manager.bdt.reverse.find? fun entry => entry.address = address with
  | some entry => entry.broadcastMask = allOnesMask
  | none => true

def foreignDevices (manager : BBMDManager) : List BIPAddress :=
  manager.fdt.values.map FDTEntry.address

def localBroadcast (manager : BBMDManager) (npdu : Bytes) (source : BIPAddress)
    : List BbmdOutput :=
  if manager.hasLocalBroadcast then [.localBroadcast npdu source] else []

/-- `_encode_bvlc_result`, sent to a station. -/
def sendResult (manager : BBMDManager) (resultCode : BvlcResultCode) (destination : BIPAddress)
    : Except PyException (BBMDManager × List BbmdOutput) := do
  let result ← encodeBvll .bvlcResult (toBytes resultCode.toNat 2)
  .ok (manager, [.send result destination])

-- Broadcast forwarding

/-- The loops of `_forward_to_peers_and_fds`: all peers and foreign devices that are not left out. -/
def recipients (manager : BBMDManager) (originatingSource : BIPAddress)
    (excludeFd : Option BIPAddress)
    : List BIPAddress :=
  (manager.peers.filter fun dest =>
    dest ≠ originatingSource ∧ some dest ≠ manager.globalAddress)
    ++ manager.foreignDevices.filter fun fd => some fd ≠ excludeFd

def forwardToPeersAndFds (manager : BBMDManager) (npdu : Bytes) (originatingSource : BIPAddress)
    (excludeFd : Option BIPAddress := none)
    : Except PyException (List BbmdOutput) := do
  let forwardedSource := manager.globalAddress.getD originatingSource
  let forwarded ← encodeBvll .forwardedNpdu npdu (some forwardedSource)
  .ok ((manager.recipients originatingSource excludeFd).map fun dest => .send forwarded dest)

def handleOriginalBroadcast (manager : BBMDManager) (npdu : Bytes) (source : BIPAddress)
    : Except PyException (List BbmdOutput) :=
  manager.forwardToPeersAndFds npdu source

/-- Where a Forwarded-NPDU from a peer is broadcast again. -/
def wire (manager : BBMDManager) (udpSource : BIPAddress) : List BIPAddress :=
  if manager.isUnicastBdtMask udpSource then manager.broadcastAddress.toList else []

def handleForwardedNpdu (manager : BBMDManager) (npdu : Bytes)
    (originatingSource udpSource : BIPAddress)
    : Except PyException (List BbmdOutput) := do
  let forwarded ← encodeBvll .forwardedNpdu npdu (some originatingSource)
  let fds := manager.foreignDevices.filter fun fd => fd ≠ originatingSource
  .ok ((fds ++ manager.wire udpSource).map (fun dest => .send forwarded dest)
    ++ manager.localBroadcast npdu originatingSource)

def handleDistributeBroadcast (manager : BBMDManager) (npdu : Bytes) (source : BIPAddress)
    : Except PyException (List BbmdOutput) := do
  if (manager.fdt.get source).isNone then
    let (_, outputs) ← manager.sendResult .distributeBroadcastToNetworkNak source
    .ok outputs
  else
    let outputs ← manager.forwardToPeersAndFds npdu source (some source)
    .ok (outputs ++ manager.localBroadcast npdu source)

-- Foreign devices

/-- The entry of a device in the foreign device table. -/
def register (manager : BBMDManager) (source : BIPAddress) (ttl : Nat) (expiry : Rat)
    : BBMDManager :=
  { manager with
    fdt := manager.fdt.set source { address := source, ttl, expiry }
    keyed := by
      intro address entry found
      rw [OrderedDict.get_set] at found
      split at found
      · next same => rw [← Option.some.inj found, same]
      · exact manager.keyed address entry found }

/-- `del self._fdt[addr]` -/
def unregister (manager : BBMDManager) (address : BIPAddress) : BBMDManager :=
  { manager with
    fdt := manager.fdt.pop address
    keyed := by
      intro other entry found
      rw [OrderedDict.get_pop] at found
      split at found
      · cases found
      · exact manager.keyed other entry found }

def handleRegisterForeignDevice (manager : BBMDManager) (now : Rat) (data : Bytes)
    (source : BIPAddress)
    : Except PyException (BBMDManager × List BbmdOutput) :=
  let ttl := fromBytes (slice data 0 2)
  if manager.acceptFdRegistrations = false ∨ data.length < 2 ∨ ttl < 1 then
    manager.sendResult .registerForeignDeviceNak source
  else if (manager.fdt.get source).isNone ∧ manager.maxFdtEntries ≤ manager.fdt.size then
    manager.sendResult .registerForeignDeviceNak source
  else
    let ttl := min ttl 3600
    (manager.register source ttl (now + ttl + 30)).sendResult .successfulCompletion source

def handleReadFdt (manager : BBMDManager) (now : Rat) (source : BIPAddress)
    : Except PyException (BBMDManager × List BbmdOutput) := do
  let payload := manager.fdt.values.flatMap fun fd =>
    fd.address.encode ++ toBytes fd.ttl 2 ++ toBytes (fd.remaining now) 2
  let ack ← encodeBvll .readForeignDeviceTableAck payload
  .ok (manager, [.send ack source])

def handleDeleteFdtEntry (manager : BBMDManager) (data : Bytes) (source : BIPAddress)
    : Except PyException (BBMDManager × List BbmdOutput) :=
  if data.length < 6 then manager.sendResult .deleteForeignDeviceTableEntryNak source
  else do
    let addr ← BIPAddress.decode (slice data 0 6)
    if (manager.fdt.get addr).isSome then
      (manager.unregister addr).sendResult .successfulCompletion source
    else manager.sendResult .deleteForeignDeviceTableEntryNak source

def purgeExpiredFdtEntries (manager : BBMDManager) (now : Rat) : BBMDManager :=
  let expired := manager.fdt.entries.filter fun entry => entry.2.expiry ≤ now
  (expired.map Prod.fst).foldl unregister manager

-- Broadcast distribution table

def handleReadBdt (manager : BBMDManager) (source : BIPAddress)
    : Except PyException (BBMDManager × List BbmdOutput) := do
  let ack ← encodeBvll .readBroadcastDistributionTableAck (manager.bdt.flatMap BDTEntry.encode)
  .ok (manager, [.send ack source])

/-- The entries of ten octets that data consists of. -/
def decodeBdt (data : Bytes) : Except PyException (List BDTEntry) :=
  (List.range (data.length / 10)).mapM fun i =>
    BDTEntry.decode (slice data (10 * i) (10 * i + 10))

def handleWriteBdt (manager : BBMDManager) (data : Bytes) (source : BIPAddress)
    : Except PyException (BBMDManager × List BbmdOutput) :=
  if manager.allowWriteBdt = false ∨ data.length % 10 ≠ 0
      ∨ manager.maxBdtEntries < data.length / 10 then
    manager.sendResult .writeBroadcastDistributionTableNak source
  else do
    let entries ← decodeBdt data
    (manager.setBdt entries).sendResult .successfulCompletion source

-- Dispatch

/-- What a handler for broadcasts leaves: the tables as they were, and whether the message is also
delivered on the normal path.
-/
def unchanged (manager : BBMDManager) (outputs : Except PyException (List BbmdOutput))
    (consumed : Bool)
    : Except PyException (BBMDManager × List BbmdOutput × Bool) := do
  let outputs ← outputs
  .ok (manager, outputs, consumed)

/-- What a handler for table management leaves; its messages are always consumed. -/
def managed (result : Except PyException (BBMDManager × List BbmdOutput))
    : Except PyException (BBMDManager × List BbmdOutput × Bool) := do
  let (manager, outputs) ← result
  .ok (manager, outputs, true)

def handleBvlc (manager : BBMDManager) (now : Rat) (function : BvlcFunction) (data : Bytes)
    (source : BIPAddress) (udpSource : Option BIPAddress := none)
    : Except PyException (BBMDManager × List BbmdOutput × Bool) :=
  if function = .forwardedNpdu
      ∧ (source = manager.localAddress ∨ some source = manager.globalAddress) then
    .ok (manager, [], true)
  else
    match function with
    | .originalBroadcastNpdu =>
      manager.unchanged (manager.handleOriginalBroadcast data source) false
    | .forwardedNpdu =>
      manager.unchanged (manager.handleForwardedNpdu data source (udpSource.getD source)) false
    | .registerForeignDevice => managed (manager.handleRegisterForeignDevice now data source)
    | .readBroadcastDistributionTable => managed (manager.handleReadBdt source)
    | .writeBroadcastDistributionTable => managed (manager.handleWriteBdt data source)
    | .readForeignDeviceTable => managed (manager.handleReadFdt now source)
    | .deleteForeignDeviceTableEntry => managed (manager.handleDeleteFdtEntry data source)
    | .distributeBroadcastToNetwork =>
      manager.unchanged (manager.handleDistributeBroadcast data source) true
    | _ => .ok (manager, [], false)

end BBMDManager

end BacPy
