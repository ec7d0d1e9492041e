import BacPy.DataLink.Bvll6
import BacPy.Library.OrderedDict

/-! `BBMD6Manager`: a BACnet/IPv6 Broadcast Management Device (Annex U). -/

namespace BacPy

open Library

structure BDT6Entry where
  address : BIP6Address

structure FDT6Entry where
  address : BIP6Address
  vmac : Bytes
  ttl : Nat
  expiry : Rat

/-- `BBMD6Manager`. All entries of the foreign device table are stored under their own addresses. -/
structure BBMD6Manager where
  localAddress : BIP6Address
  localVmac : Bytes
  /-- `_local_broadcast is not None` -/
  hasLocalBroadcast : Bool := false
  /-- `_multicast_send is not None` -/
  hasMulticastSend : Bool := false
  maxFdtEntries : Nat := 128
  acceptFdRegistrations : Bool := true
  bdt : List BDT6Entry := []
  fdt : OrderedDict BIP6Address FDT6Entry := {}
  keyed : ∀ address entry, fdt.get address = some entry → entry.address = address := by
    exact fun _ _ found => nomatch found

/-- What a BBMD does: it sends datagrams to an address or to the multicast group, and calls its local
broadcast callback.
-/
inductive Bbmd6Output where
  | send (data : Bytes) (destination : BIP6Address)
  | multicast (data : Bytes)
  | localBroadcast (npdu sourceVmac : Bytes)

namespace BBMD6Manager

/-- The addresses in the table but the BBMD's own one. -/
def peers (manager : BBMD6Manager) : List BIP6Address :=
  (manager.bdt.map BDT6Entry.address).filter fun address => address ≠ manager.localAddress

def foreignDevices (manager : BBMD6Manager) : List BIP6Address :=
  manager.fdt.values.map FDT6Entry.address

def localBroadcast (manager : BBMD6Manager) (npdu sourceVmac : Bytes) : List Bbmd6Output :=
  if manager.hasLocalBroadcast then [.localBroadcast npdu sourceVmac] else []

/-- A call of the multicast callback, if there is one. -/
def multicastSend (manager : BBMD6Manager) (data : Bytes) : List Bbmd6Output :=
  if manager.hasMulticastSend then [.multicast data] else []

/-- `_encode_bvlc6_result`, sent to a station. -/
def sendResult (manager : BBMD6Manager) (resultCode : Bvlc6ResultCode) (destination : BIP6Address)
    : Except PyException (BBMD6Manager × List Bbmd6Output) := do
  let result ← encodeBvll6 .bvlcResult (toBytes resultCode.toNat 2) (some manager.localVmac)
  .ok (manager, [.send result destination])

-- Broadcast forwarding

/-- The Forwarded-NPDU that the BBMD makes of an NPDU; its source VMAC is the BBMD's own. -/
def encodeForwarded (manager : BBMD6Manager) (npdu : Bytes) (originatingSource : BIP6Address)
    : Except PyException Bytes :=
  encodeBvll6 .forwardedNpdu npdu (some manager.localVmac) none (some originatingSource)

/-- The loops of `_forward_to_peers_and_fds`: all peers and foreign devices that are not left out. -/
def recipients (manager : BBMD6Manager) (originatingSource : BIP6Address)
    (excludeFd : Option BIP6Address)
    : List BIP6Address :=
  (manager.peers.filter fun address => address ≠ originatingSource)
    ++ manager.foreignDevices.filter fun fd => some fd ≠ excludeFd

/-- `_forward_to_peers_and_fds`; the VMAC of the originating device is not used. -/
def forwardToPeersAndFds (manager : BBMD6Manager) (npdu : Bytes) (originatingSource : BIP6Address)
    (_sourceVmac : Bytes) (excludeFd : Option BIP6Address := none)
    : Except PyException (List Bbmd6Output) := do
  let forwarded ← manager.encodeForwarded npdu originatingSource
  .ok ((manager.recipients originatingSource excludeFd).map fun dest => .send forwarded dest)

def handleOriginalBroadcast (manager : BBMD6Manager) (npdu : Bytes) (source : BIP6Address)
    (sourceVmac : Bytes)
    : Except PyException (List Bbmd6Output) :=
  manager.forwardToPeersAndFds npdu source sourceVmac

def handleForwardedNpdu (manager : BBMD6Manager) (npdu : Bytes) (originatingSource : BIP6Address)
    (sourceVmac : Bytes)
    : Except PyException (List Bbmd6Output) :=
  if originatingSource = manager.localAddress then .ok []
  else do
    let forwarded ← manager.encodeForwarded npdu originatingSource
    let fds := manager.foreignDevices.filter fun fd => fd ≠ originatingSource
    .ok (fds.map (fun fd => .send forwarded fd) ++ manager.multicastSend forwarded
      ++ manager.localBroadcast npdu sourceVmac)

def handleDistributeBroadcast (manager : BBMD6Manager) (npdu : Bytes) (source : BIP6Address)
    (sourceVmac : Bytes)
    : Except PyException (List Bbmd6Output) := do
  if (manager.fdt.get source).isNone then
    let (_, outputs) ← manager.sendResult .distributeBroadcastToNetworkNak source
    .ok outputs
  else
    let outputs ← manager.forwardToPeersAndFds npdu source sourceVmac (some source)
    let forwarded ← manager.encodeForwarded npdu source
    .ok (outputs ++ manager.multicastSend forwarded ++ manager.localBroadcast npdu sourceVmac)

def handleAddressResolution (manager : BBMD6Manager) (data : Bytes) (source : BIP6Address)
    (sourceVmac : Bytes)
    : Except PyException (List Bbmd6Output) := do
  let forwarded ←
    encodeBvll6 .forwardedAddressResolution data (some sourceVmac) none (some source)
  let fds := manager.foreignDevices.filter fun fd => fd ≠ source
  .ok ((manager.peers ++ fds).map fun dest => .send forwarded dest)

-- Foreign devices

/-- The entry of a device in the foreign device table. -/
def register (manager : BBMD6Manager) (source : BIP6Address) (vmac : Bytes) (ttl : Nat)
    (expiry : Rat)
    : BBMD6Manager :=
  { manager with
    fdt := manager.fdt.set source { address := source, vmac, ttl, expiry }
    keyed := by
      intro address entry found
      rw [OrderedDict.get_set] at found
      split at found
      · next same => rw [← Option.some.inj found, same]
      · exact manager.keyed address entry found }

/-- `del self._fdt[addr]` -/
def unregister (manager : BBMD6Manager) (address : BIP6Address) : BBMD6Manager :=
  { manager with
    fdt := manager.fdt.pop address
    keyed := by
      intro other entry found
      rw [OrderedDict.get_pop] at found
      split at found
      · cases found
      · exact manager.keyed other entry found }

def handleRegisterForeignDevice (manager : BBMD6Manager) (now : Rat) (data : Bytes)
    (source : BIP6Address) (sourceVmac : Bytes)
    : Except PyException (BBMD6Manager × List Bbmd6Output) :=
  let ttl := fromBytes (slice data 0 2)
  if manager.acceptFdRegistrations = false ∨ data.length < 2 ∨ ttl < 1 then
    manager.sendResult .registerForeignDeviceNak source
  else if (manager.fdt.get source).isNone ∧ manager.maxFdtEntries ≤ manager.fdt.size then
    manager.sendResult .registerForeignDeviceNak source
  else
    (manager.register source sourceVmac ttl (now + ttl + 30)).sendResult .successfulCompletion source

def handleDeleteFdtEntry (manager : BBMD6Manager) (data : Bytes) (source : BIP6Address)
    : Except PyException (BBMD6Manager × List Bbmd6Output) :=
  if data.length < 18 then manager.sendResult .deleteForeignDeviceTableEntryNak source
  else do
    let addr ← BIP6Address.decode (slice data 0 18)
    if (manager.fdt.get addr).isSome then
      (manager.unregister addr).sendResult .successfulCompletion source
    else manager.sendResult .deleteForeignDeviceTableEntryNak source

-- Dispatch

/-- What a handler that keeps the tables leaves, and whether the message is consumed. -/
def unchanged (manager : BBMD6Manager) (outputs : Except PyException (List Bbmd6Output))
    (consumed : Bool)
    : Except PyException (BBMD6Manager × List Bbmd6Output × Bool) := do
  let outputs ← outputs
  .ok (manager, outputs, consumed)

/-- What a handler for table management leaves; its messages are always consumed. -/
def managed (result : Except PyException (BBMD6Manager × List Bbmd6Output))
    : Except PyException (BBMD6Manager × List Bbmd6Output × Bool) := do
  let (manager, outputs) ← result
  .ok (manager, outputs, true)

def handleBvlc (manager : BBMD6Manager) (now : Rat) (function : Bvlc6Function) (data : Bytes)
    (source : BIP6Address) (sourceVmac : Option Bytes := none)
    : Except PyException (BBMD6Manager × List Bbmd6Output × Bool) :=
  let vmac := sourceVmac.getD []
  match function with
  | .originalBroadcastNpdu =>
    manager.unchanged (manager.handleOriginalBroadcast data source vmac) false
  | .forwardedNpdu => manager.unchanged (manager.handleForwardedNpdu data source vmac) false
  | .registerForeignDevice => managed (manager.handleRegisterForeignDevice now data source vmac)
  | .deleteForeignDeviceTableEntry => managed (manager.handleDeleteFdtEntry data source)
  | .distributeBroadcastNpdu =>
    manager.unchanged (manager.handleDistributeBroadcast data source vmac) true
  | .addressResolution => manager.unchanged (manager.handleAddressResolution data source vmac) true
  | _ => .ok (manager, [], false)

end BBMD6Manager

end BacPy
