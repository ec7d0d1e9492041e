import BacPy.App.Application
import BacPy.DataLink.BroadcastHandling
import BacPy.Encoding.ApduRoundTrip
import BacPy.Network.NetworkLayer
import BacPy.Network.NpduCodec

/-! A BACnet/IP device: the port, the network layer and the application behind each other, from the
PDUs of one device to those of another.
-/

namespace BacPy

open Library

structure BipDevice where
  port : BIPTransport
  layer : NetworkLayer := {}
  application : Application := {}

/-- A device at work, with what its port and its application have put out so far. -/
structure BipDevice.Working where
  device : BipDevice
  datagrams : List BipOutput := []
  sent : List Sent := []

namespace BipDevice

variable (clock : Nat → Rat) (now : Rat)

-- Sending

/-- What the port does for the network layer, up to the first exception. -/
def put (port : BIPTransport) : List LayerOutput → List BipOutput
  | [] => []
  | output :: rest =>
    let (outputs, raised) :=
      match output with
      | .unicast destination frame => BIPTransport.sendUnicast frame destination
      | .broadcast frame => port.sendBroadcast frame now
      | .deliver .. | .dispatch .. => ([], none)
    outputs ++ if raised.isSome then [] else put port rest

/-- `NetworkLayer.send` of a PDU of the application. -/
def send (device : BipDevice) (message : Sent) : BipDevice × List BipOutput :=
  match encodeApdu message.apdu with
  | .error _ => (device, [])
  | .ok apdu =>
    let layering := (NetworkLayer.send clock apdu message.destination message.expectingReply .normal
      { layer := device.layer }).2
    ({ device with layer := layering.layer }, put now device.port layering.outputs)

-- Receiving

/-- What the network layer puts out while it receives. -/
def handOver (working : Working) : LayerOutput → Working
  | .deliver apdu source =>
    let (application, sent) := working.device.application.onApduReceived apdu source
    { working with
      device := { working.device with application }
      sent := working.sent ++ sent }
  | output =>
    { working with datagrams := working.datagrams ++ put now working.device.port [output] }

/-- What the port does while it receives. -/
def takeUp (working : Working) : BipOutput → Working
  | .sendto data destination =>
    { working with datagrams := working.datagrams ++ [.sendto data destination] }
  | .receive npdu sourceMac =>
    let layering :=
      (NetworkLayer.onNpduReceived clock npdu sourceMac { layer := working.device.layer }).2
    layering.outputs.foldl (handOver now)
      { working with device := { working.device with layer := layering.layer } }

def receive (working : Working) (data : Bytes) (addr : BIPAddress) : Working :=
  let (port, outputs) := working.device.port.onDatagramReceived now data addr
  outputs.foldl (takeUp clock now) { working with device := { working.device with port } }

-- From device to device

/-- A message that a device sends while a time is read from the clocks. -/
structure Post where
  sender : BipDevice
  message : Sent
  clock : Nat → Rat
  now : Rat

/-- The message is a PDU for the station with this address, from another one. -/
structure Post.IsFor (post : Post) (address : BIPAddress) : Prop where
  destination : post.message.destination = { macAddress := address.encode }
  wellFormed : post.message.apdu.WellFormed
  short : ∀ apdu, encodeApdu post.message.apdu = .ok apdu → apdu.length ≤ 65529
  other : post.sender.port.localAddress ≠ address

/-- The datagrams that a post consists of arrive where they are sent to. -/
def Working.gets (working : Working) (post : Post) : Working :=
  (post.sender.send post.clock post.now post.message).2.foldl
    (fun working output =>
      match output with
      | .receive .. => working
      | .sendto data destination =>
        if destination = working.device.port.localAddress then
          receive post.clock post.now working data post.sender.port.localAddress
        else working)
    working

/-- The application of the device is given a PDU. -/
def Working.dispatches (working : Working) (post : Post) : Working :=
  let (application, sent) := working.device.application.dispatchApdu
    { macAddress := post.sender.port.localAddress.encode } post.message.apdu
  { working with device := { working.device with application }, sent := working.sent ++ sent }

-- What arrives

theorem decodeApdu_encoded {pdu : APDU} (valid : pdu.WellFormed)
    : (encodeApdu pdu >>= decodeApdu) = .ok pdu := by
  cases pdu with
  | confirmedRequest pdu => exact decodeApdu_confirmedRequest_encoded valid
  | unconfirmedRequest pdu => exact decodeApdu_unconfirmedRequest_encoded valid
  | simpleAck pdu => exact decodeApdu_simpleAck_encoded valid.1 valid.2
  | complexAck pdu => exact decodeApdu_complexAck_encoded valid
  | segmentAck pdu => exact decodeApdu_segmentAck_encoded valid
  | error pdu => exact decodeApdu_error_encoded valid.1 valid.2
  | reject pdu => exact decodeApdu_reject_encoded valid
  | abort pdu => exact decodeApdu_abort_encoded valid

/-- The port hands a unicast on, whether or not a BBMD looks at it first. -/
theorem onDatagramReceived_unicast {port : BIPTransport} {data npdu : Bytes} {addr : BIPAddress}
    (decoded : decodeBvll data = .ok { function := .originalUnicastNpdu, data := npdu })
    (other : addr ≠ port.localAddress)
    : port.onDatagramReceived now data addr = (port, port.deliver npdu addr) := by
  rw [BIPTransport.onDatagramReceived, decoded]
  dsimp only
  rw [if_neg other]
  cases attached : port.bbmd with
  | none => rfl
  | some bbmd =>
    unfold BIPTransport.receiveWithBbmd
    have passes : bbmd.handleBvlc now .originalUnicastNpdu npdu addr (some addr)
        = .ok (bbmd, [], false) :=
      rfl
    simp only [reduceCtorEq, if_false, passes, BIPTransport.same_of_bbmd attached,
      Bool.false_eq_true, or_self, List.flatMap_nil, List.nil_append]
    rfl

/-- The NPDU in which a PDU goes to a station of the own network, and its octets. -/
def localNpdu (expectingReply : Bool) (apdu : Bytes) : NPDU := { expectingReply, apdu }

def localOctets (expectingReply : Bool) (apdu : Bytes) : Bytes :=
  0x01 :: (localNpdu expectingReply apdu).control.encode :: apdu

theorem decodeNpdu_localOctets {expectingReply apdu}
    : decodeNpdu (localOctets expectingReply apdu) = .ok (localNpdu expectingReply apdu) := by
  have wellFormed : (localNpdu expectingReply apdu).WellFormed :=
    ⟨by simp [localNpdu], by simp [localNpdu], by simp [localNpdu], by simp [localNpdu]⟩
  have encoded : encodeNpdu (localNpdu expectingReply apdu)
      = .ok (localOctets expectingReply apdu) :=
    rfl
  have back := roundTrip_iff.mpr wellFormed
  rwa [encoded] at back

/-- A PDU for a station of the own network goes out as one unicast. -/
theorem send_local {device : BipDevice} {message : Sent} {address : BIPAddress} {apdu frame}
    (destination : message.destination = { macAddress := address.encode })
    (encoded : encodeApdu message.apdu = .ok apdu)
    (framed : encodeBvll .originalUnicastNpdu (localOctets message.expectingReply apdu) = .ok frame)
    : device.send clock now message = (device, [.sendto frame address]) := by
  have passed : NetworkLayer.send clock apdu { macAddress := address.encode }
        message.expectingReply .normal { layer := device.layer }
      = (.ok (), {
          layer := device.layer
          outputs := [.unicast address.encode (localOctets message.expectingReply apdu)]
        }) :=
    rfl
  have read := BIPAddress.decode_encode address []
  rw [List.append_nil] at read
  simp [send, encoded, destination, passed, put, BIPTransport.sendUnicast, read, framed]

variable {working : Working} {post : Post}

/-- A post arrives as its PDU. -/
theorem gets_eq (heard : working.device.port.hasReceiveCallback = true)
    (sound : post.IsFor working.device.port.localAddress)
    : working.gets post = working.dispatches post := by
  obtain ⟨apdu, encoded, decoded⟩ := bind_eq_ok.mp (decodeApdu_encoded sound.wellFormed)
  let npdu := localOctets post.message.expectingReply apdu
  obtain ⟨frame, framed⟩ : ∃ frame, encodeBvll .originalUnicastNpdu npdu = .ok frame := by
    have short := sound.short apdu encoded
    have length : npdu.length = apdu.length + 2 := rfl
    exact ⟨_, bind_eq_ok.mpr ⟨_, packLength_ok (by omega), rfl⟩⟩
  have taken : NetworkLayer.onNpduReceived post.clock npdu post.sender.port.localAddress.encode
        { layer := working.device.layer }
      = (.ok (), {
          layer := working.device.layer
          outputs := [.deliver apdu { macAddress := post.sender.port.localAddress.encode }]
        }) := by
    rw [NetworkLayer.onNpduReceived, decodeNpdu_localOctets]
    rfl
  have dispatched (source : BACnetAddress) : working.device.application.onApduReceived apdu source
      = working.device.application.dispatchApdu source post.message.apdu := by
    rw [Application.onApduReceived, decoded]
  simp only [Working.gets, send_local _ _ sound.destination encoded framed, List.foldl_cons,
    List.foldl_nil, if_true, receive,
    onDatagramReceived_unicast _ (decodeBvll_other (by decide) framed) sound.other,
    BIPTransport.deliver, heard, takeUp, taken, handOver, dispatched]
  rfl

/-- At a device that listens, unicasts of any other devices have exactly the effect that their PDUs
have at its application, in the order in which they arrive.
-/
theorem unicasts_arrive (heard : working.device.port.hasReceiveCallback = true) (posts : List Post)
    (sound : ∀ post ∈ posts, post.IsFor working.device.port.localAddress)
    : posts.foldl Working.gets working = posts.foldl Working.dispatches working := by
  induction posts generalizing working with
  | nil => rfl
  | cons post rest ih =>
    obtain ⟨first, others⟩ := List.forall_mem_cons.mp sound
    rw [List.foldl_cons, List.foldl_cons, gets_eq heard first]
    exact ih heard others

def station (host : UInt32) : BipDevice where
  port := {
    localAddress := { host, port := 0xBAC0 }
    port := 0xBAC0
    broadcastAddress := 0xC0A800FF
  }

/-- A station asks another one who it is. -/
def inquiry : Post where
  sender := station 0xC0A80001
  message := {
    apdu := .unconfirmedRequest { serviceChoice := 8, serviceRequest := [] }
    destination := { macAddress := [0xC0, 0xA8, 0, 2, 0xBA, 0xC0] }
    expectingReply := false
  }
  clock _ := 0
  now := 0

theorem unicasts_arrive_inquiry
    : [inquiry].foldl Working.gets { device := station 0xC0A80002 }
      = [inquiry].foldl Working.dispatches { device := station 0xC0A80002 } := by
  refine unicasts_arrive rfl [inquiry] fun post listed => ?_
  cases List.mem_singleton.mp listed
  exact ⟨rfl, (by decide : 8 < 256), fun apdu encoded => by cases encoded; decide, by decide⟩

end BipDevice

end BacPy
