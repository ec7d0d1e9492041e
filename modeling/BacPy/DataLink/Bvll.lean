import BacPy.Encoding.Octets
import Mathlib.Data.UInt

/-! BVLL (BACnet Virtual Link Layer): datagrams of BACnet/IP (Annex J). -/

namespace BacPy

-- Addresses

/-- `BIPAddress`: an IPv4 address, as its number, and a UDP port. -/
structure BIPAddress where
  host : UInt32
  port : UInt16
  deriving DecidableEq

namespace BIPAddress

def encode (address : BIPAddress) : Bytes :=
  toBytes address.host.toNat 4 ++ toBytes address.port.toNat 2

def decode (data : Bytes) : Except PyException BIPAddress :=
  if data.length < 6 then
    .error (.valueError s!"BIPAddress requires at least 6 bytes, got {data.length}")
  else
    .ok {
      host := UInt32.ofNat (fromBytes (slice data 0 4))
      port := UInt16.ofNat (fromBytes (slice data 4 6))
    }

@[simp] theorem length_encode (address : BIPAddress) : address.encode.length = 6 := by
  simp [encode]

/-- An address is read back from its octets. -/
theorem decode_encode (address : BIPAddress) (rest : Bytes)
    : decode (address.encode ++ rest) = .ok address := by
  obtain ⟨host, port⟩ := address
  have hostRead := slice_append [] (toBytes host.toNat 4) (toBytes port.toNat 2 ++ rest)
  have portRead := slice_append (toBytes host.toNat 4) (toBytes port.toNat 2) rest
  rw [length_toBytes, length_toBytes] at portRead
  rw [length_toBytes, List.nil_append, List.length_nil] at hostRead
  unfold decode encode
  rw [if_neg (by simp; omega), List.append_assoc, hostRead, portRead,
    fromBytes_toBytes (show host.toNat < 256 ^ 4 from host.toNat_lt),
    fromBytes_toBytes (show port.toNat < 256 ^ 2 from port.toNat_lt)]
  simp

end BIPAddress

-- Messages

inductive BvlcFunction where
  | bvlcResult | writeBroadcastDistributionTable | readBroadcastDistributionTable
  | readBroadcastDistributionTableAck | forwardedNpdu | registerForeignDevice
  | readForeignDeviceTable | readForeignDeviceTableAck | deleteForeignDeviceTableEntry
  | distributeBroadcastToNetwork | originalUnicastNpdu | originalBroadcastNpdu | secureBvll
  deriving DecidableEq

/-- The number of each `BvlcFunction`. -/
def BvlcFunction.toOctet : BvlcFunction → UInt8
  | .bvlcResult => 0x00
  | .writeBroadcastDistributionTable => 0x01
  | .readBroadcastDistributionTable => 0x02
  | .readBroadcastDistributionTableAck => 0x03
  | .forwardedNpdu => 0x04
  | .registerForeignDevice => 0x05
  | .readForeignDeviceTable => 0x06
  | .readForeignDeviceTableAck => 0x07
  | .deleteForeignDeviceTableEntry => 0x08
  | .distributeBroadcastToNetwork => 0x09
  | .originalUnicastNpdu => 0x0A
  | .originalBroadcastNpdu => 0x0B
  | .secureBvll => 0x0C

/-- `_BVLC_FUNCTIONS` -/
def BvlcFunction.ofOctet (value : UInt8) : Option BvlcFunction :=
  match value.toNat with
  | 0x00 => some .bvlcResult
  | 0x01 => some .writeBroadcastDistributionTable
  | 0x02 => some .readBroadcastDistributionTable
  | 0x03 => some .readBroadcastDistributionTableAck
  | 0x04 => some .forwardedNpdu
  | 0x05 => some .registerForeignDevice
  | 0x06 => some .readForeignDeviceTable
  | 0x07 => some .readForeignDeviceTableAck
  | 0x08 => some .deleteForeignDeviceTableEntry
  | 0x09 => some .distributeBroadcastToNetwork
  | 0x0A => some .originalUnicastNpdu
  | 0x0B => some .originalBroadcastNpdu
  | 0x0C => some .secureBvll
  | _ => none

@[simp] theorem BvlcFunction.ofOctet_toOctet (function : BvlcFunction)
    : ofOctet function.toOctet = some function := by
  cases function <;> rfl

inductive BvlcResultCode where
  | successfulCompletion | writeBroadcastDistributionTableNak | readBroadcastDistributionTableNak
  | registerForeignDeviceNak | readForeignDeviceTableNak | deleteForeignDeviceTableEntryNak
  | distributeBroadcastToNetworkNak
  deriving DecidableEq

/-- The number of each `BvlcResultCode`. -/
def BvlcResultCode.toNat : BvlcResultCode → Nat
  | .successfulCompletion => 0x0000
  | .writeBroadcastDistributionTableNak => 0x0010
  | .readBroadcastDistributionTableNak => 0x0020
  | .registerForeignDeviceNak => 0x0030
  | .readForeignDeviceTableNak => 0x0040
  | .deleteForeignDeviceTableEntryNak => 0x0050
  | .distributeBroadcastToNetworkNak => 0x0060

structure BvllMessage where
  function : BvlcFunction
  data : Bytes
  originatingAddress : Option BIPAddress := none
  deriving DecidableEq

-- Encoding and decoding

/-- `struct.pack_into("!H", buf, 2, total)` -/
def packLength (total : Nat) : Except PyException Bytes :=
  if total < 65536 then .ok (toBytes total 2)
  else .error (.structError "'H' format requires 0 <= number <= 65535")

def encodeBvll (function : BvlcFunction) (payload : Bytes)
    (originatingAddress : Option BIPAddress := none)
    : Except PyException Bytes :=
  if function = .forwardedNpdu then
    match originatingAddress with
    | none => .error (.valueError "Forwarded-NPDU requires originating_address")
    | some originatingAddress => do
        let length ← packLength (4 + 6 + payload.length)
        .ok (0x81 :: function.toOctet :: (length ++ (originatingAddress.encode ++ payload)))
  else do
    let length ← packLength (4 + payload.length)
    .ok (0x81 :: function.toOctet :: (length ++ payload))

def decodeBvll (data : Bytes) : Except PyException BvllMessage :=
  match data with
  | type :: function :: first :: second :: _ =>
    if type ≠ 0x81 then .error (.valueError s!"Invalid BVLC type: {type.toNat}")
    else
      match BvlcFunction.ofOctet function with
      | none => .error (.valueError s!"Unknown BVLC function: {function.toNat}")
      | some function =>
        let length := fromBytes [first, second]
        if length < 4 ∨ data.length < length then
          .error (.valueError
            s!"Invalid BVLL length: declared {length}, actual {data.length}")
        else if function = .forwardedNpdu then
          if length < 10 then
            .error (.valueError
              s!"Forwarded-NPDU too short: need at least 10 bytes, got {length}")
          else do
            let originatingAddress ← BIPAddress.decode (slice data 4 10)
            .ok {
              function
              data := slice data 10 length
              originatingAddress := some originatingAddress
            }
        else .ok { function, data := slice data 4 length }
  | _ =>
    .error (.valueError s!"BVLL data too short: need at least 4 bytes, got {data.length}")

variable {encoded payload : Bytes} {function : BvlcFunction}

theorem packLength_ok {total} (small : total < 65536)
    : packLength total = .ok (toBytes total 2) :=
  if_pos small

/-- The two octets of the length give the length back. -/
theorem packLength_eq_ok {total} (packed : packLength total = .ok encoded)
    : ∃ first second, encoded = [first, second] ∧ fromBytes [first, second] = total := by
  unfold packLength at packed
  split at packed
  · next fits =>
      have number := fromBytes_toBytes (show total < 256 ^ 2 by omega)
      rw [Except.ok.inj packed] at number
      have size := length_toBytes total 2
      rw [Except.ok.inj packed] at size
      obtain ⟨first, second, rfl⟩ := List.length_eq_two.mp size
      exact ⟨first, second, rfl, number⟩
  · cases packed

/-- A Forwarded-NPDU is read as it was written. -/
theorem decodeBvll_forwarded {originatingAddress}
    (encodes : encodeBvll .forwardedNpdu payload (some originatingAddress) = .ok encoded)
    : decodeBvll encoded
      = .ok {
          function := .forwardedNpdu
          data := payload
          originatingAddress := some originatingAddress
        } := by
  obtain ⟨length, packed, same⟩ := bind_eq_ok.mp encodes
  obtain ⟨first, second, rfl, whole⟩ := packLength_eq_ok packed
  cases same
  have address := BIPAddress.decode_encode originatingAddress []
  rw [List.append_nil] at address
  have origin : slice (0x81 :: BvlcFunction.forwardedNpdu.toOctet :: [first, second]
      ++ (originatingAddress.encode ++ payload)) 4 10 = originatingAddress.encode := by
    have part := slice_append (0x81 :: BvlcFunction.forwardedNpdu.toOctet :: [first, second])
      originatingAddress.encode payload
    rwa [BIPAddress.length_encode] at part
  have rest : slice (0x81 :: BvlcFunction.forwardedNpdu.toOctet :: [first, second]
      ++ (originatingAddress.encode ++ payload)) 10 (4 + 6 + payload.length) = payload := by
    have part := slice_append (0x81 :: BvlcFunction.forwardedNpdu.toOctet :: [first, second]
      ++ originatingAddress.encode) payload []
    simpa using part
  simp only [List.cons_append, List.nil_append] at origin rest ⊢
  unfold decodeBvll
  simp only [ne_eq, not_true_eq_false, if_false, BvlcFunction.ofOctet_toOctet, whole, if_true]
  rw [if_neg (by simp; omega), if_neg (by omega), origin, address, rest]
  rfl

/-- Any other message is read as it was written, without an address. -/
theorem decodeBvll_other {originatingAddress} (other : function ≠ .forwardedNpdu)
    (encodes : encodeBvll function payload originatingAddress = .ok encoded)
    : decodeBvll encoded = .ok { function, data := payload } := by
  unfold encodeBvll at encodes
  rw [if_neg other] at encodes
  obtain ⟨length, packed, same⟩ := bind_eq_ok.mp encodes
  obtain ⟨first, second, rfl, whole⟩ := packLength_eq_ok packed
  cases same
  have rest : slice (0x81 :: function.toOctet :: [first, second] ++ payload) 4 (4 + payload.length)
      = payload := by
    have part := slice_append (0x81 :: function.toOctet :: [first, second]) payload []
    simpa using part
  simp only [List.cons_append, List.nil_append] at rest ⊢
  unfold decodeBvll
  simp only [ne_eq, not_true_eq_false, if_false, BvlcFunction.ofOctet_toOctet, whole]
  rw [if_neg (by simp; omega), if_neg other, rest]

/-- A Forwarded-NPDU can be encoded exactly if its length fits two octets. -/
theorem encodeBvll_forwarded_ok {originatingAddress}
    : (∃ encoded, encodeBvll .forwardedNpdu payload (some originatingAddress) = .ok encoded)
      ↔ payload.length ≤ 65525 := by
  constructor
  · rintro ⟨encoded, encodes⟩
    obtain ⟨length, packed, _⟩ := bind_eq_ok.mp encodes
    unfold packLength at packed
    split at packed
    · omega
    · cases packed
  · intro fits
    exact ⟨_, bind_eq_ok.mpr ⟨_, packLength_ok (by omega), rfl⟩⟩

theorem encodeBvll_original_ok (fits : payload.length ≤ 65525)
    : ∃ encoded, encodeBvll .originalBroadcastNpdu payload = .ok encoded := by
  exact ⟨_, bind_eq_ok.mpr ⟨_, packLength_ok (by omega), rfl⟩⟩

theorem originatingAddress_of_decoded {data msg} (decoded : decodeBvll data = .ok msg)
    : if msg.function = .forwardedNpdu then msg.originatingAddress.isSome
      else msg.originatingAddress = none := by
  unfold decodeBvll at decoded
  split at decoded
  · split at decoded
    · cases decoded
    · split at decoded
      · cases decoded
      · dsimp only at decoded
        split at decoded
        · cases decoded
        · split at decoded
          · next forwarded =>
              split at decoded
              · cases decoded
              · obtain ⟨address, _, same⟩ := bind_eq_ok.mp decoded
                rw [← Except.ok.inj same, if_pos forwarded]
                rfl
          · next other => rw [← Except.ok.inj decoded, if_neg other]
  · cases decoded

end BacPy
