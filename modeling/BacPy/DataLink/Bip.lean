import BacPy.DataLink.Bbmd

/-! `BIPTransport`: a BACnet/IP port that has been started (Annex J). -/

namespace BacPy

/-- `_is_confirmed_request_npdu`: the offset after an address that may be there. -/
def skipAddress (npdu : Bytes) (present : Bool) (offset : Nat) : Option Nat :=
  if present then (fun length : UInt8 => offset + 3 + length.toNat) <$> npdu[offset + 2]?
  else some offset

def isConfirmedRequestNpdu (npdu : Bytes) : Bool :=
  match npdu with
  | _ :: control :: _ :: _ =>
    let hasDestination : Bool := control &&& 0x20 ≠ 0
    if control &&& 0x80 ≠ 0 then false
    else
      match (skipAddress npdu hasDestination 2).bind
          (skipAddress npdu (control &&& 0x08 ≠ 0)) with
      | none => false
      | some offset =>
        match npdu[if hasDestination then offset + 1 else offset]? with
        | none => false
        | some first => first >>> 4 = 0
  | _ => false

/-- `ForeignDeviceManager`: where it registers, and whether it is registered. -/
structure ForeignDeviceManager where
  bbmdAddress : BIPAddress
  isRegistered : Bool := false

/-- `BIPTransport`, once it has been started. -/
structure BIPTransport where
  localAddress : BIPAddress
  port : UInt16
  broadcastAddress : UInt32
  /-- `_multicast_address`, if multicast is enabled -/
  multicastAddress : Option UInt32 := none
  /-- `_receive_callback is not None` -/
  hasReceiveCallback : Bool := true
  bbmd : Option BBMDManager := none
  foreignDevice : Option ForeignDeviceManager := none

/-- What a transport does: it sends datagrams, and calls its receive callback. -/
inductive BipOutput where
  | sendto (data : Bytes) (destination : BIPAddress)
  | receive (npdu sourceMac : Bytes)

def bvlcNakMap : BvlcFunction → Option BvlcResultCode
  | .writeBroadcastDistributionTable => some .writeBroadcastDistributionTableNak
  | .readBroadcastDistributionTable => some .readBroadcastDistributionTableNak
  | .registerForeignDevice => some .registerForeignDeviceNak
  | .readForeignDeviceTable => some .readForeignDeviceTableNak
  | .deleteForeignDeviceTableEntry => some .deleteForeignDeviceTableEntryNak
  | .distributeBroadcastToNetwork => some .distributeBroadcastToNetworkNak
  | _ => none

/-- `BvlcResultCode(value)`, and whether it is a success. -/
def isSuccess (value : Nat) : Option Bool :=
  if value = 0 then some true
  else if value ∈ [0x10, 0x20, 0x30, 0x40, 0x50, 0x60] then some false
  else none

/-- `ForeignDeviceManager.handle_bvlc_result`; an unknown code raises without a change. -/
def ForeignDeviceManager.handleBvlcResult (device : ForeignDeviceManager) (data : Bytes)
    : ForeignDeviceManager :=
  if data.length < 2 then device
  else
    match isSuccess (fromBytes (slice data 0 2)) with
    | some isRegistered => { device with isRegistered }
    | none => device

namespace BIPTransport

/-- A call of the receive callback, if there is one. -/
def deliver (transport : BIPTransport) (npdu : Bytes) (source : BIPAddress) : List BipOutput :=
  if transport.hasReceiveCallback then [.receive npdu source.encode] else []

/-- `_bbmd_local_deliver`, and the delivery of broadcasts on the normal path: confirmed requests
are dropped.
-/
def deliverBroadcast (transport : BIPTransport) (npdu : Bytes) (source : BIPAddress)
    : List BipOutput :=
  if isConfirmedRequestNpdu npdu then [] else transport.deliver npdu source

def perform (transport : BIPTransport) : BbmdOutput → List BipOutput
  | .send data destination => [.sendto data destination]
  | .localBroadcast npdu source => transport.deliverBroadcast npdu source

/-- `attach_bbmd`: the BBMD that it makes. -/
def makeBbmd (transport : BIPTransport) (bdtEntries : List BDTEntry) : BBMDManager :=
  BBMDManager.setBdt
    {
      localAddress := transport.localAddress
      hasLocalBroadcast := true
      broadcastAddress := some { host := transport.broadcastAddress, port := transport.port }
    }
    bdtEntries

/-- `_handle_bvlc_result`, for the foreign device. -/
def handleBvlcResult (transport : BIPTransport) (data : Bytes) (source : BIPAddress)
    : BIPTransport :=
  match transport.foreignDevice with
  | none => transport
  | some device =>
    if source = device.bbmdAddress then
      { transport with foreignDevice := some (device.handleBvlcResult data) }
    else transport

/-- The normal receive path of `_on_datagram_received`. -/
def receiveMessage (transport : BIPTransport) (msg : BvllMessage) (source : BIPAddress)
    : BIPTransport × List BipOutput :=
  match msg.function with
  | .originalUnicastNpdu => (transport, transport.deliver msg.data source)
  | .originalBroadcastNpdu => (transport, transport.deliverBroadcast msg.data source)
  | .forwardedNpdu =>
    match msg.originatingAddress with
    | none => (transport, [])
    | some originatingAddress =>
      (transport, transport.deliverBroadcast msg.data originatingAddress)
  | .bvlcResult => (transport.handleBvlcResult msg.data source, [])
  | _ => (transport, [])

def sendBvlcNak (resultCode : BvlcResultCode) (destination : BIPAddress) : List BipOutput :=
  match encodeBvll .bvlcResult (toBytes resultCode.toNat 2) with
  | .error _ => []
  | .ok bvll => [.sendto bvll destination]

def receiveWithoutBbmd (transport : BIPTransport) (msg : BvllMessage) (source : BIPAddress)
    : BIPTransport × List BipOutput :=
  match bvlcNakMap msg.function with
  | some nakCode => (transport, sendBvlcNak nakCode source)
  | none => transport.receiveMessage msg source

/-- A message that the BBMD looks at first. Whatever raises there leaves everything as it was. -/
def receiveWithBbmd (transport : BIPTransport) (bbmd : BBMDManager) (now : Rat)
    (msg : BvllMessage) (source : BIPAddress)
    : BIPTransport × List BipOutput :=
  let bbmdSource :=
    if msg.function = .forwardedNpdu then msg.originatingAddress.getD source else source
  match bbmd.handleBvlc now msg.function msg.data bbmdSource (some source) with
  | .error _ => (transport, [])
  | .ok (bbmd, outputs, handled) =>
    let transport := { transport with bbmd := some bbmd }
    let performed := outputs.flatMap transport.perform
    if handled ∨ msg.function = .forwardedNpdu then (transport, performed)
    else
      let (transport, delivered) := transport.receiveMessage msg source
      (transport, performed ++ delivered)

/-- `_on_datagram_received`: the transport afterwards, and what it has done. -/
def onDatagramReceived (transport : BIPTransport) (now : Rat) (data : Bytes) (addr : BIPAddress)
    : BIPTransport × List BipOutput :=
  match decodeBvll data with
  | .error _ => (transport, [])
  | .ok msg =>
    if addr = transport.localAddress then (transport, [])
    else
      match transport.bbmd with
      | none => transport.receiveWithoutBbmd msg addr
      | some bbmd => transport.receiveWithBbmd bbmd now msg addr

def forwardOwnBroadcast (transport : BIPTransport) (npdu : Bytes) (now : Rat)
    : Except PyException (List BipOutput) :=
  match transport.bbmd with
  | none => .ok []
  | some bbmd => do
      let (_, outputs, _) ← bbmd.handleBvlc now .originalBroadcastNpdu npdu transport.localAddress
      .ok (outputs.flatMap transport.perform)

/-- `send_broadcast`: what it does, and the exception that it raises in the end, if any. -/
def sendBroadcast (transport : BIPTransport) (npdu : Bytes) (now : Rat)
    : List BipOutput × Option PyException :=
  match transport.foreignDevice.filter ForeignDeviceManager.isRegistered with
  | some device =>
    match encodeBvll .distributeBroadcastToNetwork npdu with
    | .error raised => ([], some raised)
    | .ok bvll => ([.sendto bvll device.bbmdAddress], none)
  | none =>
    match encodeBvll .originalBroadcastNpdu npdu with
    | .error raised => ([], some raised)
    | .ok bvll =>
      let hosts := transport.multicastAddress.toList ++ [transport.broadcastAddress]
      let sent := hosts.map fun host => .sendto bvll { host, port := transport.port }
      match transport.forwardOwnBroadcast npdu now with
      | .error raised => (sent, some raised)
      | .ok forwarded => (sent ++ forwarded, none)

/-- `send_unicast`: it reads the first six octets of the MAC address. -/
def sendUnicast (npdu macAddress : Bytes) : List BipOutput × Option PyException :=
  match BIPAddress.decode macAddress, encodeBvll .originalUnicastNpdu npdu with
  | .error _, _ => ([], some (.indexError "index out of range"))
  | _, .error raised => ([], some raised)
  | .ok destination, .ok bvll => ([.sendto bvll destination], none)

end BIPTransport

end BacPy
