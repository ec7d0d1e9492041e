import BacPy.DataLink.Bvll

/-! BVLL of BACnet/IPv6: datagrams with virtual MAC addresses (Annex U). -/

namespace BacPy

-- Addresses

/-- `BIP6Address`: an IPv6 address, as its number, and a UDP port. -/
structure BIP6Address where
  host : BitVec 128
  port : UInt16
  deriving DecidableEq

namespace BIP6Address

def encode (address : BIP6Address) : Bytes :=
  toBytes address.host.toNat 16 ++ toBytes address.port.toNat 2

def decode (data : Bytes) : Except PyException BIP6Address :=
  if data.length < 18 then
    .error (.valueError s!"BIP6Address requires at least 18 bytes, got {data.length}")
  else
    .ok {
      host := BitVec.ofNat 128 (fromBytes (slice data 0 16))
      port := UInt16.ofNat (fromBytes (slice data 16 18))
    }

@[simp] theorem length_encode (address : BIP6Address) : address.encode.length = 18 := by
  simp [encode]

/-- An address is read back from its octets. -/
theorem decode_encode (address : BIP6Address) : decode address.encode = .ok address := by
  obtain ⟨host, port⟩ := address
  have hostRead := slice_append [] (toBytes host.toNat 16) (toBytes port.toNat 2)
  have portRead := slice_append (toBytes host.toNat 16) (toBytes port.toNat 2) []
  rw [length_toBytes, length_toBytes, List.append_nil] at portRead
  rw [length_toBytes, List.nil_append, List.length_nil] at hostRead
  unfold decode encode
  rw [if_neg (by simp), hostRead, portRead,
    fromBytes_toBytes (show host.toNat < 256 ^ 16 from host.isLt),
    fromBytes_toBytes (show port.toNat < 256 ^ 2 from port.toNat_lt)]
  simp

end BIP6Address

-- Messages

inductive Bvlc6Function where
  | bvlcResult | originalUnicastNpdu | originalBroadcastNpdu | addressResolution
  | forwardedAddressResolution | addressResolutionAck | virtualAddressResolution
  | virtualAddressResolutionAck | forwardedNpdu | registerForeignDevice
  | deleteForeignDeviceTableEntry | secureBvll | distributeBroadcastNpdu
  deriving DecidableEq

namespace Bvlc6Function

/-- The number of each `Bvlc6Function`. -/
def toOctet : Bvlc6Function → UInt8
  | .bvlcResult => 0x00
  | .originalUnicastNpdu => 0x01
  | .originalBroadcastNpdu => 0x02
  | .addressResolution => 0x03
  | .forwardedAddressResolution => 0x04
  | .addressResolutionAck => 0x05
  | .virtualAddressResolution => 0x06
  | .virtualAddressResolutionAck => 0x07
  | .forwardedNpdu => 0x08
  | .registerForeignDevice => 0x09
  | .deleteForeignDeviceTableEntry => 0x0A
  | .secureBvll => 0x0B
  | .distributeBroadcastNpdu => 0x0C

/-- `Bvlc6Function(value)` -/
def ofOctet (value : UInt8) : Option Bvlc6Function :=
  match value.toNat with
  | 0x00 => some .bvlcResult
  | 0x01 => some .originalUnicastNpdu
  | 0x02 => some .originalBroadcastNpdu
  | 0x03 => some .addressResolution
  | 0x04 => some .forwardedAddressResolution
  | 0x05 => some .addressResolutionAck
  | 0x06 => some .virtualAddressResolution
  | 0x07 => some .virtualAddressResolutionAck
  | 0x08 => some .forwardedNpdu
  | 0x09 => some .registerForeignDevice
  | 0x0A => some .deleteForeignDeviceTableEntry
  | 0x0B => some .secureBvll
  | 0x0C => some .distributeBroadcastNpdu
  | _ => none

@[simp] theorem ofOctet_toOctet (function : Bvlc6Function)
    : ofOctet function.toOctet = some function := by
  cases function <;> rfl

def hasSourceVmac (function : Bvlc6Function) : Bool := function ≠ .secureBvll

def hasDestVmac : Bvlc6Function → Bool
  | .originalUnicastNpdu | .addressResolutionAck | .virtualAddressResolutionAck => true
  | _ => false

def hasOriginatingAddress : Bvlc6Function → Bool
  | .forwardedNpdu | .forwardedAddressResolution => true
  | _ => false

def name : Bvlc6Function → String
  | .bvlcResult => "BVLC_RESULT"
  | .originalUnicastNpdu => "ORIGINAL_UNICAST_NPDU"
  | .originalBroadcastNpdu => "ORIGINAL_BROADCAST_NPDU"
  | .addressResolution => "ADDRESS_RESOLUTION"
  | .forwardedAddressResolution => "FORWARDED_ADDRESS_RESOLUTION"
  | .addressResolutionAck => "ADDRESS_RESOLUTION_ACK"
  | .virtualAddressResolution => "VIRTUAL_ADDRESS_RESOLUTION"
  | .virtualAddressResolutionAck => "VIRTUAL_ADDRESS_RESOLUTION_ACK"
  | .forwardedNpdu => "FORWARDED_NPDU"
  | .registerForeignDevice => "REGISTER_FOREIGN_DEVICE"
  | .deleteForeignDeviceTableEntry => "DELETE_FOREIGN_DEVICE_TABLE_ENTRY"
  | .secureBvll => "SECURE_BVLL"
  | .distributeBroadcastNpdu => "DISTRIBUTE_BROADCAST_NPDU"

end Bvlc6Function

inductive Bvlc6ResultCode where
  | successfulCompletion | addressResolutionNak | virtualAddressResolutionNak
  | registerForeignDeviceNak | deleteForeignDeviceTableEntryNak | distributeBroadcastToNetworkNak

/-- The number of each `Bvlc6ResultCode`. -/
def Bvlc6ResultCode.toNat : Bvlc6ResultCode → Nat
  | .successfulCompletion => 0x0000
  | .addressResolutionNak => 0x0030
  | .virtualAddressResolutionNak => 0x0040
  | .registerForeignDeviceNak => 0x0050
  | .deleteForeignDeviceTableEntryNak => 0x0060
  | .distributeBroadcastToNetworkNak => 0x0070

structure Bvll6Message where
  function : Bvlc6Function
  data : Bytes
  sourceVmac : Option Bytes := none
  destVmac : Option Bytes := none
  originatingAddress : Option BIP6Address := none

-- Encoding and decoding

/-- A VMAC in a message, where the function has one. -/
def encodeVmac (present : Bool) (vmac : Option Bytes) (text : String) : Except PyException Bytes :=
  if present then
    match vmac with
    | some vmac => if vmac.length = 3 then .ok vmac else .error (.valueError text)
    | none => .error (.valueError text)
  else .ok []

/-- The originating address in a message, where the function has one. -/
def encodeOriginatingAddress (function : Bvlc6Function) (address : Option BIP6Address)
    : Except PyException Bytes :=
  if function.hasOriginatingAddress then
    match address with
    | some address => .ok address.encode
    | none => .error (.valueError s!"{function.name} requires originating_address")
  else .ok []

def encodeBvll6 (function : Bvlc6Function) (payload : Bytes)
    (sourceVmac destVmac : Option Bytes := none) (originatingAddress : Option BIP6Address := none)
    : Except PyException Bytes := do
  let source ← encodeVmac function.hasSourceVmac sourceVmac
    s!"{function.name} requires a 3-byte source VMAC"
  let dest ← encodeVmac function.hasDestVmac destVmac
    s!"{function.name} requires a 3-byte destination VMAC"
  let origin ← encodeOriginatingAddress function originatingAddress
  let body := source ++ (dest ++ (origin ++ payload))
  let length ← packLength (4 + body.length)
  .ok (0x82 :: function.toOctet :: (length ++ body))

/-- A VMAC at an offset, where the function has one, and the offset behind it. -/
def decodeVmac (present : Bool) (data : Bytes) (offset length : Nat) (text : String)
    : Except PyException (Option Bytes × Nat) :=
  if present then
    if length < offset + 3 then .error (.valueError text)
    else .ok (some (slice data offset (offset + 3)), offset + 3)
  else .ok (none, offset)

def decodeOriginatingAddress (function : Bvlc6Function) (data : Bytes) (offset length : Nat)
    : Except PyException (Option BIP6Address × Nat) :=
  if function.hasOriginatingAddress then
    if length < offset + 18 then
      .error (.valueError s!"{function.name} truncated: missing originating address")
    else do
      let address ← BIP6Address.decode (slice data offset (offset + 18))
      .ok (some address, offset + 18)
  else .ok (none, offset)

/-- The part of `decode_bvll6` behind the header. -/
def decodeFields (function : Bvlc6Function) (data : Bytes) (length : Nat)
    : Except PyException Bvll6Message := do
  let (sourceVmac, offset) ← decodeVmac function.hasSourceVmac data 4 length
    s!"{function.name} truncated: missing source VMAC"
  let (destVmac, offset) ← decodeVmac function.hasDestVmac data offset length
    s!"{function.name} truncated: missing destination VMAC"
  let (originatingAddress, offset) ← decodeOriginatingAddress function data offset length
  .ok { function, data := slice data offset length, sourceVmac, destVmac, originatingAddress }

def decodeBvll6 (data : Bytes) : Except PyException Bvll6Message :=
  match data with
  | type :: function :: first :: second :: _ =>
    if type ≠ 0x82 then .error (.valueError s!"Invalid BVLC type: {type.toNat}")
    else
      match Bvlc6Function.ofOctet function with
      | none => .error (.valueError s!"{function.toNat} is not a valid Bvlc6Function")
      | some function =>
        let length := fromBytes [first, second]
        if length < 4 ∨ data.length < length then
          .error (.valueError
            s!"Invalid BVLL6 length: declared {length}, actual {data.length}")
        else decodeFields function data length
  | _ =>
    .error (.valueError s!"BVLL6 data too short: need at least 4 bytes, got {data.length}")

variable {encoded payload part : Bytes} {function : Bvlc6Function}

/-- A VMAC has three octets. -/
theorem encodeVmac_ok_iff {vmac text}
    : encodeVmac true (some vmac) text = .ok part ↔ vmac.length = 3 ∧ part = vmac := by
  rw [encodeVmac, if_pos rfl]
  by_cases three : vmac.length = 3
  · simp [three, eq_comm]
  · simp [three]

/-- A VMAC is read where it was written. -/
theorem decodeVmac_encoded {present vmac text length} (before after : Bytes) (otherText : String)
    (encodes : encodeVmac present vmac text = .ok part)
    (fits : before.length + part.length ≤ length)
    : decodeVmac present (before ++ (part ++ after)) before.length length otherText
      = .ok (if present then vmac else none, before.length + part.length) := by
  unfold encodeVmac at encodes
  unfold decodeVmac
  cases present with
  | false =>
    cases encodes
    rfl
  | true =>
    rw [if_pos rfl] at encodes
    cases vmac with
    | none => cases encodes
    | some vmac =>
      dsimp only at encodes
      split at encodes
      · next three =>
          obtain rfl := Except.ok.inj encodes
          have read := slice_append before vmac after
          rw [three] at read fits
          rw [if_pos rfl, if_neg (by omega), if_pos rfl, read, three]
      · cases encodes

/-- The originating address is read where it was written. -/
theorem decodeOriginatingAddress_encoded {address length} (before after : Bytes)
    (encodes : encodeOriginatingAddress function address = .ok part)
    (fits : before.length + part.length ≤ length)
    : decodeOriginatingAddress function (before ++ (part ++ after)) before.length length
      = .ok (if function.hasOriginatingAddress then address else none,
          before.length + part.length) := by
  unfold encodeOriginatingAddress at encodes
  unfold decodeOriginatingAddress
  split at encodes
  · next has =>
      split at encodes
      · next address =>
          cases encodes
          have read := slice_append before address.encode after
          rw [BIP6Address.length_encode] at read fits
          rw [if_pos has, if_neg (by omega), if_pos has, read, BIP6Address.decode_encode,
            BIP6Address.length_encode]
          rfl
      · cases encodes
  · next has =>
      cases encodes
      rw [if_neg has, if_neg has]
      rfl

def readMessage (function : Bvlc6Function) (payload : Bytes) (sourceVmac destVmac : Option Bytes)
    (originatingAddress : Option BIP6Address)
    : Bvll6Message where
  function
  data := payload
  sourceVmac := if function.hasSourceVmac then sourceVmac else none
  destVmac := if function.hasDestVmac then destVmac else none
  originatingAddress := if function.hasOriginatingAddress then originatingAddress else none

/-- The fields are read as they were written behind a header. -/
theorem decodeFields_encoded (payload : Bytes)
    {sourceVmac destVmac originatingAddress source dest origin header text otherText}
    (four : header.length = 4)
    (sourceEncodes : encodeVmac function.hasSourceVmac sourceVmac text = .ok source)
    (destEncodes : encodeVmac function.hasDestVmac destVmac otherText = .ok dest)
    (originEncodes : encodeOriginatingAddress function originatingAddress = .ok origin)
    : decodeFields function (header ++ (source ++ (dest ++ (origin ++ payload))))
        (4 + (source ++ (dest ++ (origin ++ payload))).length)
      = .ok (readMessage function payload sourceVmac destVmac originatingAddress) := by
  let length := 4 + (source ++ (dest ++ (origin ++ payload))).length
  have total : length
      = 4 + source.length + dest.length + origin.length + payload.length := by
    simp only [length, List.length_append]
    omega
  have readSource := decodeVmac_encoded header (dest ++ (origin ++ payload))
    s!"{function.name} truncated: missing source VMAC" sourceEncodes
    (show header.length + source.length ≤ length by omega)
  have readDest := decodeVmac_encoded (header ++ source) (origin ++ payload)
    s!"{function.name} truncated: missing destination VMAC" destEncodes
    (show (header ++ source).length + dest.length ≤ length by rw [List.length_append]; omega)
  have readOrigin := decodeOriginatingAddress_encoded (header ++ source ++ dest) payload
    originEncodes
    (show (header ++ source ++ dest).length + origin.length ≤ length by
      simp only [List.length_append]; omega)
  have readPayload := slice_append (header ++ source ++ dest ++ origin) payload []
  simp only [List.length_append, List.append_assoc, List.append_nil, four, total, ← Nat.add_assoc]
    at readSource readDest readOrigin readPayload
  change decodeFields function _ length = _
  unfold decodeFields
  simp only [readSource, readDest, readOrigin, bind, Except.bind, total, readPayload, readMessage]

theorem decodeBvll6_encoded {sourceVmac destVmac originatingAddress}
    (encodes : encodeBvll6 function payload sourceVmac destVmac originatingAddress = .ok encoded)
    : decodeBvll6 encoded
      = .ok (readMessage function payload sourceVmac destVmac originatingAddress) := by
  obtain ⟨source, sourceEncodes, rest⟩ := bind_eq_ok.mp encodes
  obtain ⟨dest, destEncodes, rest⟩ := bind_eq_ok.mp rest
  obtain ⟨origin, originEncodes, rest⟩ := bind_eq_ok.mp rest
  obtain ⟨length, packed, same⟩ := bind_eq_ok.mp rest
  obtain ⟨first, second, rfl, whole⟩ := packLength_eq_ok packed
  cases same
  have fields : decodeFields function ([0x82, function.toOctet, first, second] ++ _) _ = _ :=
    decodeFields_encoded payload rfl sourceEncodes destEncodes originEncodes
  rw [← whole] at fields
  simp only [List.cons_append, List.nil_append] at fields ⊢
  unfold decodeBvll6
  simp only [ne_eq, not_true_eq_false, if_false, Bvlc6Function.ofOctet_toOctet]
  rw [if_neg, fields]
  rw [whole]
  simp only [List.length_cons]
  omega

end BacPy
