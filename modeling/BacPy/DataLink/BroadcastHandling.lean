import BacPy.DataLink.Bip

/-! What a BACnet/IP port does about broadcasts: one equation for each kind of message. -/

namespace BacPy

open Library

namespace BIPTransport

variable {transport : BIPTransport} {bbmd : BBMDManager} {now : Rat} {data npdu : Bytes}
  {addr origin : BIPAddress}

/-- The same datagram to many destinations. -/
def sendAll (data : Bytes) (destinations : List BIPAddress) : List BipOutput :=
  destinations.map fun dest => .sendto data dest

/-- What the local broadcast callback of the BBMD does. -/
def deliverByBbmd (transport : BIPTransport) (bbmd : BBMDManager) (npdu : Bytes)
    (source : BIPAddress)
    : List BipOutput :=
  if bbmd.hasLocalBroadcast then transport.deliverBroadcast npdu source else []

/-- The Forwarded-NPDU to all destinations, and what is delivered besides; nothing if the NPDU is too
long for one.
-/
def forwardAll (npdu : Bytes) (origin : BIPAddress) (destinations : List BIPAddress)
    (delivered : List BipOutput)
    : List BipOutput :=
  match encodeBvll .forwardedNpdu npdu (some origin) with
  | .error _ => []
  | .ok forwarded => sendAll forwarded destinations ++ delivered

theorem flatMap_send (data : Bytes) (destinations)
    : (destinations.map fun dest => BbmdOutput.send data dest).flatMap transport.perform
      = sendAll data destinations := by
  induction destinations with
  | nil => rfl
  | cons first rest ih =>
    rw [List.map_cons, List.flatMap_cons, ih]
    rfl

theorem flatMap_localBroadcast (npdu : Bytes) (source : BIPAddress)
    : (bbmd.localBroadcast npdu source).flatMap transport.perform
      = transport.deliverByBbmd bbmd npdu source := by
  unfold BBMDManager.localBroadcast deliverByBbmd
  split
  · exact List.flatMap_singleton ..
  · rfl

theorem same_of_bbmd (attached : transport.bbmd = some bbmd)
    : { transport with bbmd := some bbmd } = transport := by
  rw [← attached]

theorem receive_original (attached : transport.bbmd = some bbmd)
    (other : addr ≠ transport.localAddress)
    (decoded : decodeBvll data = .ok { function := .originalBroadcastNpdu, data := npdu })
    : transport.onDatagramReceived now data addr
      = (transport, forwardAll npdu (bbmd.globalAddress.getD addr) (bbmd.recipients addr none)
          (transport.deliverBroadcast npdu addr)) := by
  unfold onDatagramReceived
  simp only [decoded, if_neg other, attached, receiveWithBbmd, BBMDManager.handleBvlc,
    BBMDManager.unchanged, BBMDManager.handleOriginalBroadcast, BBMDManager.forwardToPeersAndFds,
    reduceCtorEq, false_and, if_false, bind, Except.bind, forwardAll]
  cases encodeBvll .forwardedNpdu npdu (some (bbmd.globalAddress.getD addr)) with
  | error raised => rfl
  | ok forwarded =>
    simp only [same_of_bbmd attached, flatMap_send, Bool.false_eq_true, or_self, if_false]
    rfl

/-- A Distribute-Broadcast-To-Network of a registered foreign device is forwarded, and delivered by
the BBMD.
-/
theorem receive_distribute (attached : transport.bbmd = some bbmd)
    (other : addr ≠ transport.localAddress) (registered : (bbmd.fdt.get addr).isSome)
    (decoded : decodeBvll data = .ok { function := .distributeBroadcastToNetwork, data := npdu })
    : transport.onDatagramReceived now data addr
      = (transport, forwardAll npdu (bbmd.globalAddress.getD addr)
          (bbmd.recipients addr (some addr)) (transport.deliverByBbmd bbmd npdu addr)) := by
  have known : (bbmd.fdt.get addr).isNone = false := Option.isNone_eq_false_iff.mpr registered
  unfold onDatagramReceived
  simp only [decoded, if_neg other, attached, receiveWithBbmd, BBMDManager.handleBvlc,
    BBMDManager.unchanged, BBMDManager.handleDistributeBroadcast, BBMDManager.forwardToPeersAndFds,
    reduceCtorEq, false_and, if_false, bind, Except.bind, forwardAll, known, Bool.false_eq_true]
  cases encodeBvll .forwardedNpdu npdu (some (bbmd.globalAddress.getD addr)) with
  | error raised => rfl
  | ok forwarded =>
    simp only [same_of_bbmd attached, List.flatMap_append, flatMap_send, flatMap_localBroadcast,
      true_or, if_true]

/-- A Distribute-Broadcast-To-Network of anyone else is refused. -/
theorem receive_distribute_unknown (attached : transport.bbmd = some bbmd)
    (other : addr ≠ transport.localAddress) (unknown : (bbmd.fdt.get addr).isNone)
    (decoded : decodeBvll data = .ok { function := .distributeBroadcastToNetwork, data := npdu })
    : transport.onDatagramReceived now data addr
      = (transport, sendBvlcNak .distributeBroadcastToNetworkNak addr) := by
  unfold onDatagramReceived
  simp only [decoded, if_neg other, attached, receiveWithBbmd, BBMDManager.handleBvlc,
    BBMDManager.unchanged, BBMDManager.handleDistributeBroadcast, BBMDManager.sendResult,
    reduceCtorEq, false_and, if_false, bind, Except.bind, unknown, if_true, sendBvlcNak]
  cases encodeBvll .bvlcResult (toBytes BvlcResultCode.distributeBroadcastToNetworkNak.toNat 2) with
  | error raised => rfl
  | ok result => simp only [same_of_bbmd attached, true_or, if_true]; rfl

/-- A Forwarded-NPDU goes to the foreign devices, perhaps onto the wire, and to the application. -/
theorem receive_forwarded (attached : transport.bbmd = some bbmd)
    (other : addr ≠ transport.localAddress)
    (decoded : decodeBvll data
      = .ok { function := .forwardedNpdu, data := npdu, originatingAddress := some origin })
    : transport.onDatagramReceived now data addr
      = (transport,
          if origin = bbmd.localAddress ∨ some origin = bbmd.globalAddress then []
          else forwardAll npdu origin
            ((bbmd.foreignDevices.filter fun fd => fd ≠ origin) ++ bbmd.wire addr)
            (transport.deliverByBbmd bbmd npdu origin)) := by
  unfold onDatagramReceived
  simp only [decoded, if_neg other, attached, receiveWithBbmd, BBMDManager.handleBvlc,
    BBMDManager.unchanged, BBMDManager.handleForwardedNpdu, if_true, true_and, Option.getD_some,
    bind, Except.bind, forwardAll]
  by_cases own : origin = bbmd.localAddress ∨ some origin = bbmd.globalAddress
  · simp only [if_pos own, same_of_bbmd attached, true_or, if_true]
    rfl
  · simp only [if_neg own]
    cases encodeBvll .forwardedNpdu npdu (some origin) with
    | error raised => rfl
    | ok forwarded =>
      simp only [same_of_bbmd attached, List.flatMap_append, flatMap_send,
        flatMap_localBroadcast, or_true, if_true]

end BIPTransport

end BacPy

/-! Broadcasts of foreign devices: whom a Distribute-Broadcast-To-Network reaches. -/

namespace BacPy

open Library

namespace BIPTransport

/-- Where the datagrams among the outputs go. -/
def destinations (outputs : List BipOutput) : List BIPAddress :=
  outputs.filterMap fun output =>
    match output with
    | .sendto _ destination => some destination
    | .receive .. => none

/-- How often the outputs call the receive callback. -/
def deliveries (outputs : List BipOutput) : Nat :=
  outputs.countP fun output =>
    match output with
    | .sendto .. => false
    | .receive .. => true

theorem destinations_append (first second)
    : destinations (first ++ second) = destinations first ++ destinations second :=
  List.filterMap_append

theorem deliveries_append (first second)
    : deliveries (first ++ second) = deliveries first + deliveries second :=
  List.countP_append

theorem destinations_sendAll (data : Bytes) (destinations)
    : BIPTransport.destinations (sendAll data destinations) = destinations := by
  induction destinations with
  | nil => rfl
  | cons first rest ih => exact congrArg (first :: ·) ih

theorem deliveries_sendAll (data : Bytes) (destinations)
    : deliveries (sendAll data destinations) = 0 := by
  rw [deliveries, List.countP_eq_zero]
  intro output member
  obtain ⟨dest, _, rfl⟩ := List.mem_map.mp member
  exact Bool.false_ne_true

variable {transport : BIPTransport} {bbmd : BBMDManager} {now : Rat} {data npdu : Bytes}
  {addr : BIPAddress} {localNodes : List BIPAddress}

theorem deliverBroadcast_eq (npdu : Bytes) (source : BIPAddress)
    : transport.deliverBroadcast npdu source
      = if isConfirmedRequestNpdu npdu = false ∧ transport.hasReceiveCallback then
          [.receive npdu source.encode]
        else [] := by
  unfold deliverBroadcast deliver
  cases isConfirmedRequestNpdu npdu <;> cases transport.hasReceiveCallback <;> rfl

/-- The BBMD delivers to its own application, once or not at all. -/
theorem deliverByBbmd_eq (npdu : Bytes) (source : BIPAddress)
    : transport.deliverByBbmd bbmd npdu source
      = if bbmd.hasLocalBroadcast ∧ isConfirmedRequestNpdu npdu = false
            ∧ transport.hasReceiveCallback then [.receive npdu source.encode]
        else [] := by
  unfold deliverByBbmd
  rw [deliverBroadcast_eq]
  cases bbmd.hasLocalBroadcast <;> simp

/-- All nodes of the local subnet, the own application, all peers, and all foreign devices but the
originator are reached exactly once.
-/
structure ReachesAll (bbmd : BBMDManager) (originator : BIPAddress) (localNodes : List BIPAddress)
    (outputs : List BipOutput)
    : Prop where
  localNodes : ∀ node ∈ localNodes, node ≠ originator →
    (destinations outputs).countP (fun dest => dest = node ∨ some dest = bbmd.broadcastAddress) = 1
  application : deliveries outputs = 1
  peers : ∀ peer ∈ bbmd.peers, (destinations outputs).count peer = 1
  foreignDevices : ∀ fd ∈ bbmd.foreignDevices, fd ≠ originator →
    (destinations outputs).count fd = 1

/-- The tables list every peer and foreign device once, and lead to every other local node once;
the NPDU fits a Forwarded-NPDU and may be delivered.
-/
structure Distributable (transport : BIPTransport) (bbmd : BBMDManager) (originator : BIPAddress)
    (localNodes : List BIPAddress) (npdu : Bytes)
    : Prop where
  remote : originator ≠ transport.localAddress
  fits : npdu.length ≤ 65525
  deliverable : bbmd.hasLocalBroadcast ∧ isConfirmedRequestNpdu npdu = false
    ∧ transport.hasReceiveCallback
  wired : ∀ node ∈ localNodes, node ≠ originator →
    (bbmd.recipients originator (some originator)).countP
      (fun dest => dest = node ∨ some dest = bbmd.broadcastAddress) = 1
  peers : ∀ peer ∈ bbmd.peers, (bbmd.recipients originator (some originator)).count peer = 1
  foreignDevices : ∀ fd ∈ bbmd.foreignDevices, fd ≠ originator →
    (bbmd.recipients originator (some originator)).count fd = 1

/-- The device 192.168.0.9. -/
def remoteDevice : BIPAddress := { host := 0xC0A80009, port := 0xBAC0 }

/-- A port at 10.0.0.1 on the subnet 10.0.0.0/24. -/
def plainPort : BIPTransport where
  localAddress := { host := 0x0A000001, port := 0xBAC0 }
  port := 0xBAC0
  broadcastAddress := 0x0A0000FF

/-- Its BBMD, with a peer at 10.0.1.1 and a registered foreign device. -/
def plainBbmd : BBMDManager :=
  (plainPort.makeBbmd [
    { address := { host := 0x0A000001, port := 0xBAC0 }, broadcastMask := 0xFFFFFF00 },
    { address := { host := 0x0A000101, port := 0xBAC0 }, broadcastMask := 0xFFFFFF00 }]).register
      remoteDevice 60 90

end BIPTransport

end BacPy
