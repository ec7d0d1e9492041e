import BacPy.Encoding.Octets
import Mathlib.Data.UInt

/-! BVLC-SC: the messages of BACnet/SC (Annex AB.2). -/

namespace BacPy

-- Addresses

/-- `SCVMAC`: six octets. -/
structure SCVMAC where
  address : Bytes
  six : address.length = 6
  deriving DecidableEq

namespace SCVMAC

/-- `SCVMAC(address)` -/
def make (address : Bytes) : Except PyException SCVMAC :=
  if six : address.length = 6 then .ok ⟨address, six⟩
  else .error (.valueError s!"VMAC must be 6 bytes, got {address.length}")

def broadcast : SCVMAC := ⟨[0xFF, 0xFF, 0xFF, 0xFF, 0xFF, 0xFF], rfl⟩

/-- The locally administered VMAC 02:00:00:00:00:`number`. -/
def numbered (number : UInt8) : SCVMAC := ⟨[2, 0, 0, 0, 0, number], rfl⟩

def isBroadcast (vmac : SCVMAC) : Bool := vmac.address = broadcast.address

@[simp] theorem make_address (vmac : SCVMAC) : make vmac.address = .ok vmac := dif_pos vmac.six

end SCVMAC

/-- `DeviceUUID`: 16 octets. -/
structure DeviceUUID where
  value : Bytes
  sixteen : value.length = 16
  deriving DecidableEq

def DeviceUUID.repeated (octet : UInt8) : DeviceUUID := ⟨List.replicate 16 octet, rfl⟩

/-- `DeviceUUID(value)` -/
def DeviceUUID.make (value : Bytes) : Except PyException DeviceUUID :=
  if sixteen : value.length = 16 then .ok ⟨value, sixteen⟩
  else .error (.valueError s!"Device UUID must be 16 bytes, got {value.length}")

-- Functions

inductive BvlcSCFunction where
  | bvlcResult | encapsulatedNpdu | addressResolution | addressResolutionAck | advertisement
  | advertisementSolicitation | connectRequest | connectAccept | disconnectRequest | disconnectAck
  | heartbeatRequest | heartbeatAck | proprietaryMessage
  deriving DecidableEq

namespace BvlcSCFunction

/-- The number of each `BvlcSCFunction`. -/
def toOctet : BvlcSCFunction → UInt8
  | .bvlcResult => 0x00
  | .encapsulatedNpdu => 0x01
  | .addressResolution => 0x02
  | .addressResolutionAck => 0x03
  | .advertisement => 0x04
  | .advertisementSolicitation => 0x05
  | .connectRequest => 0x06
  | .connectAccept => 0x07
  | .disconnectRequest => 0x08
  | .disconnectAck => 0x09
  | .heartbeatRequest => 0x0A
  | .heartbeatAck => 0x0B
  | .proprietaryMessage => 0x0C

/-- `BvlcSCFunction(value)`, and `_SC_FUNCTIONS[value]` -/
def ofOctet (value : UInt8) : Option BvlcSCFunction :=
  match value.toNat with
  | 0x00 => some .bvlcResult
  | 0x01 => some .encapsulatedNpdu
  | 0x02 => some .addressResolution
  | 0x03 => some .addressResolutionAck
  | 0x04 => some .advertisement
  | 0x05 => some .advertisementSolicitation
  | 0x06 => some .connectRequest
  | 0x07 => some .connectAccept
  | 0x08 => some .disconnectRequest
  | 0x09 => some .disconnectAck
  | 0x0A => some .heartbeatRequest
  | 0x0B => some .heartbeatAck
  | 0x0C => some .proprietaryMessage
  | _ => none

@[simp] theorem ofOctet_toOctet (function)
    : ofOctet function.toOctet = some function := by
  cases function <;> rfl

/-- Each function has one number. -/
theorem ofOctet_eq_some {value function}
    : ofOctet value = some function ↔ value = function.toOctet := by
  refine ⟨fun same => ?_, fun same => same ▸ ofOctet_toOctet function⟩
  unfold ofOctet at same
  split at same
  case h_14 => cases same
  all_goals
    next number =>
      cases same
      exact UInt8.toNat_inj.mp number

/-- The numbers of functions. -/
theorem isSome_ofOctet_iff (value : UInt8) : (ofOctet value).isSome ↔ value ≤ 0x0C := by
  obtain ⟨bits⟩ := value
  revert bits
  decide +kernel

end BvlcSCFunction

-- Header options

structure SCHeaderOption where
  type : Nat
  mustUnderstand : Bool
  data : Bytes := []
  deriving DecidableEq

namespace SCHeaderOption

/-- The marker of an option without the flag for its data. -/
def marker (option : SCHeaderOption) (more : Bool) : UInt8 :=
  (UInt8.ofNat option.type &&& 0x1F) ||| (if more then 0x80 else 0)
    ||| (if option.mustUnderstand then 0x40 else 0)

def encode (option : SCHeaderOption) (more : Bool) : Except PyException Bytes :=
  match option.data with
  | [] => .ok [option.marker more]
  | data =>
    if data.length < 65536 then
      .ok ((option.marker more ||| 0x20) :: (toBytes data.length 2 ++ data))
    else .error (.structError "'H' format requires 0 <= number <= 65535")

/-- The data of an option behind its marker, and what follows it. -/
def decodeData (hasData : Bool) (data : Bytes) : Except PyException (Bytes × Bytes) :=
  if hasData then
    match data with
    | first :: second :: rest =>
      let length := fromBytes [first, second]
      if 512 < length then
        .error (.valueError
          s!"Header option data too large: {length} bytes exceeds limit (512)")
      else if rest.length < length then
        .error (.valueError
          s!"Header option data truncated: need {length} bytes, have {rest.length}")
      else .ok (rest.take length, rest.drop length)
    | _ => .error (.valueError "Header option truncated: missing Header Length")
  else .ok ([], data)

/-- `decode_list`, with room for so many more options: the options, and what follows them. -/
def decodeList : Nat → Bytes → Except PyException (List SCHeaderOption × Bytes)
  | _, [] => .ok ([], [])
  | 0, _ => .error (.valueError "Too many header options (32)")
  | room + 1, marker :: data => do
      let (optionData, rest) ← decodeData (marker &&& 0x20 ≠ 0) data
      let option := {
        type := (marker &&& 0x1F).toNat
        mustUnderstand := marker &&& 0x40 ≠ 0
        data := optionData
      }
      if marker &&& 0x80 ≠ 0 then
        let (options, rest) ← decodeList room rest
        .ok (option :: options, rest)
      else .ok ([option], rest)

end SCHeaderOption

def encodeOptions : List SCHeaderOption → Except PyException Bytes
  | [] => .ok []
  | option :: rest => do
      let first ← option.encode (rest ≠ [])
      let others ← encodeOptions rest
      .ok (first ++ others)

-- Messages

structure SCMessage where
  function : BvlcSCFunction
  messageId : UInt16
  originating : Option SCVMAC := none
  destination : Option SCVMAC := none
  destOptions : List SCHeaderOption := []
  dataOptions : List SCHeaderOption := []
  payload : Bytes := []
  deriving DecidableEq

def vmacOctets (vmac : Option SCVMAC) : Bytes := (vmac.map SCVMAC.address).getD []

namespace SCMessage

def flags (msg : SCMessage) : UInt8 :=
  (if msg.originating.isSome then 0x08 else 0) ||| (if msg.destination.isSome then 0x04 else 0)
    ||| (if msg.destOptions ≠ [] then 0x02 else 0) ||| (if msg.dataOptions ≠ [] then 0x01 else 0)

def encode (msg : SCMessage) : Except PyException Bytes := do
  let destOptions ← encodeOptions msg.destOptions
  let dataOptions ← encodeOptions msg.dataOptions
  .ok (msg.function.toOctet :: msg.flags :: (toBytes msg.messageId.toNat 2
    ++ (vmacOctets msg.originating ++ (vmacOctets msg.destination
      ++ (destOptions ++ (dataOptions ++ msg.payload))))))

def decodeVmac (present : Bool) (data : Bytes) (text : String)
    : Except PyException (Option SCVMAC × Bytes) :=
  if present then
    if data.length < 6 then .error (.valueError text)
    else do
      let vmac ← SCVMAC.make (data.take 6)
      .ok (some vmac, data.drop 6)
  else .ok (none, data)

/-- Options that may be there, and what follows them. -/
def decodeOptions (present : Bool) (data : Bytes)
    : Except PyException (List SCHeaderOption × Bytes) :=
  if present then SCHeaderOption.decodeList 32 data else .ok ([], data)

def decode (data : Bytes) (skipPayload : Bool := false) : Except PyException SCMessage :=
  match data with
  | function :: flags :: first :: second :: rest =>
    match BvlcSCFunction.ofOctet function with
    | none => .error (.valueError s!"Unknown BVLC-SC function: {function.toNat}")
    | some function => do
        let (originating, rest) ← decodeVmac (flags &&& 0x08 ≠ 0) rest
          "Truncated: missing Originating Virtual Address"
        let (destination, rest) ← decodeVmac (flags &&& 0x04 ≠ 0) rest
          "Truncated: missing Destination Virtual Address"
        let (destOptions, rest) ← decodeOptions (flags &&& 0x02 ≠ 0) rest
        let (dataOptions, rest) ← decodeOptions (flags &&& 0x01 ≠ 0) rest
        .ok {
          function
          messageId := UInt16.ofNat (fromBytes [first, second])
          originating
          destination
          destOptions
          dataOptions
          payload := if skipPayload then [] else rest
        }
  | _ =>
    .error (.valueError
      s!"BVLC-SC message too short: need at least 4 bytes, got {data.length}")

/-- What follows a VMAC that may be there. -/
theorem rest_of_decodeVmac {present data rest text vmac}
    (decoded : decodeVmac present data text = .ok (vmac, rest))
    : rest = data.drop (if present then 6 else 0) := by
  cases present with
  | false =>
    cases decoded
    rfl
  | true =>
    rw [decodeVmac, if_pos rfl] at decoded
    split at decoded
    · cases decoded
    · obtain ⟨_, _, same⟩ := bind_eq_ok.mp decoded
      cases same
      rfl

theorem decode_eq_ok {data skipPayload msg}
    : decode data skipPayload = .ok msg
      ↔ ∃ flags first second rest behindOriginating behindDestination behindDest payload,
        data = msg.function.toOctet :: flags :: first :: second :: rest
        ∧ msg.messageId = UInt16.ofNat (fromBytes [first, second])
        ∧ decodeVmac (flags &&& 0x08 ≠ 0) rest "Truncated: missing Originating Virtual Address"
          = .ok (msg.originating, behindOriginating)
        ∧ decodeVmac (flags &&& 0x04 ≠ 0) behindOriginating
          "Truncated: missing Destination Virtual Address" = .ok (msg.destination, behindDestination)
        ∧ decodeOptions (flags &&& 0x02 ≠ 0) behindDestination = .ok (msg.destOptions, behindDest)
        ∧ decodeOptions (flags &&& 0x01 ≠ 0) behindDest = .ok (msg.dataOptions, payload)
        ∧ msg.payload = if skipPayload then [] else payload := by
  constructor
  · intro decoded
    unfold decode at decoded
    split at decoded
    · next octet flags first second rest =>
        split at decoded
        · cases decoded
        · next function known =>
            rw [BvlcSCFunction.ofOctet_eq_some] at known
            obtain ⟨⟨originating, behindOriginating⟩, first', decoded⟩ := bind_eq_ok.mp decoded
            obtain ⟨⟨destination, behindDestination⟩, second', decoded⟩ := bind_eq_ok.mp decoded
            obtain ⟨⟨destOptions, behindDest⟩, third, decoded⟩ := bind_eq_ok.mp decoded
            obtain ⟨⟨dataOptions, payload⟩, fourth, same⟩ := bind_eq_ok.mp decoded
            cases same
            exact ⟨flags, first, second, rest, behindOriginating, behindDestination, behindDest,
              payload, known ▸ rfl, rfl, first', second', third, fourth, rfl⟩
    · cases decoded
  · rintro ⟨flags, first, second, rest, behindOriginating, behindDestination, behindDest, payload,
      rfl, id, originating, destination, destOptions, dataOptions, same⟩
    unfold decode
    dsimp only
    rw [BvlcSCFunction.ofOctet_toOctet]
    refine bind_eq_ok.mpr ⟨_, originating, bind_eq_ok.mpr ⟨_, destination, bind_eq_ok.mpr
      ⟨_, destOptions, bind_eq_ok.mpr ⟨_, dataOptions, ?_⟩⟩⟩⟩
    dsimp only
    rw [← id, ← same]

theorem onlyValueErrors_decodeVmac (present : Bool) (data : Bytes) (text : String)
    : OnlyValueErrors (decodeVmac present data text) := by
  unfold decodeVmac SCVMAC.make
  split
  · split
    · exact .valueError text
    · refine OnlyValueErrors.bind ?_ fun _ => .ok _
      split
      · exact .ok _
      · exact .valueError _
  · exact .ok _

theorem onlyValueErrors_decodeData (hasData : Bool) (data : Bytes)
    : OnlyValueErrors (SCHeaderOption.decodeData hasData data) := by
  unfold SCHeaderOption.decodeData
  split
  · split
    · dsimp only
      split
      · exact .valueError _
      · split
        · exact .valueError _
        · exact .ok _
    · exact .valueError _
  · exact .ok _

/-- By induction on the room for options. -/
theorem onlyValueErrors_decodeList (room : Nat) (data : Bytes)
    : OnlyValueErrors (SCHeaderOption.decodeList room data) := by
  induction room generalizing data with
  | zero =>
    cases data with
    | nil => exact .ok _
    | cons marker data => exact .valueError _
  | succ room ih =>
    cases data with
    | nil => exact .ok _
    | cons marker data =>
      refine (onlyValueErrors_decodeData _ data).bind fun item => ?_
      dsimp only
      split
      · exact (ih _).bind fun _ => .ok _
      · exact .ok _

theorem onlyValueErrors_decodeOptions (present : Bool) (data : Bytes)
    : OnlyValueErrors (decodeOptions present data) := by
  unfold decodeOptions
  split
  · exact onlyValueErrors_decodeList 32 data
  · exact .ok _

/-- A message that cannot be decoded raises a ValueError. -/
theorem onlyValueErrors_decode (data : Bytes) (skipPayload : Bool)
    : OnlyValueErrors (decode data skipPayload) := by
  unfold decode
  split
  · split
    · exact .valueError _
    · refine .bind (onlyValueErrors_decodeVmac _ _ _) fun originating => ?_
      refine .bind (onlyValueErrors_decodeVmac _ _ _) fun destination => ?_
      refine .bind (onlyValueErrors_decodeOptions _ _) fun destOptions => ?_
      exact .bind (onlyValueErrors_decodeOptions _ _) fun dataOptions => .ok _
  · exact .valueError _

/-- Where the payload is skipped, the rest of the message is the same. -/
theorem decode_skipPayload {data msg} (decoded : decode data = .ok msg)
    : decode data true = .ok { msg with payload := [] } := by
  obtain ⟨flags, first, second, rest, behindOriginating, behindDestination, behindDest, payload,
    same, id, originating, destination, destOptions, dataOptions, _⟩ := decode_eq_ok.mp decoded
  exact decode_eq_ok.mpr ⟨flags, first, second, rest, behindOriginating, behindDestination,
    behindDest, payload, same, id, originating, destination, destOptions, dataOptions, rfl⟩

end SCMessage

-- Payloads

/-- `struct.pack("!H", value)` -/
def packShort (value : Nat) : Except PyException Bytes :=
  if value < 65536 then .ok (toBytes value 2)
  else .error (.structError "'H' format requires 0 <= number <= 65535")

/-- `_ConnectPayload`: of a Connect-Request or a Connect-Accept. -/
structure ConnectPayload where
  vmac : SCVMAC
  uuid : DeviceUUID
  maxBvlcLength : Nat
  maxNpduLength : Nat

namespace ConnectPayload

def encode (payload : ConnectPayload) : Except PyException Bytes := do
  let maxBvlc ← packShort payload.maxBvlcLength
  let maxNpdu ← packShort payload.maxNpduLength
  .ok (payload.vmac.address ++ (payload.uuid.value ++ (maxBvlc ++ maxNpdu)))

def decode (data : Bytes) : Except PyException ConnectPayload :=
  if data.length < 26 then
    .error (.valueError s!"Connect payload too short: need 26 bytes, got {data.length}")
  else do
    let vmac ← SCVMAC.make (slice data 0 6)
    let uuid ← DeviceUUID.make (slice data 6 22)
    .ok {
      vmac
      uuid
      maxBvlcLength := fromBytes (slice data 22 24)
      maxNpduLength := fromBytes (slice data 24 26)
    }

/-- A payload can be decoded exactly if it has 26 octets. -/
theorem decode_ok_iff {data}
    : (∃ payload, decode data = .ok payload) ↔ 26 ≤ data.length := by
  unfold decode
  by_cases short : data.length < 26
  · rw [if_pos short]
    exact iff_of_false (fun ⟨_, same⟩ => nomatch same) (by omega)
  · rw [if_neg short]
    have six : (slice data 0 6).length = 6 := by simp [slice]; omega
    have sixteen : (slice data 6 22).length = 16 := by simp [slice]; omega
    refine iff_of_true ⟨_, bind_eq_ok.mpr ⟨⟨_, six⟩, dif_pos six, bind_eq_ok.mpr
      ⟨⟨_, sixteen⟩, dif_pos sixteen, rfl⟩⟩⟩ (by omega)

end ConnectPayload

inductive SCResultCode where
  | ack
  | nak
  deriving DecidableEq

/-- `SCResultCode(value)` -/
def SCResultCode.ofOctet (value : UInt8) : Option SCResultCode :=
  match value.toNat with
  | 0 => some .ack
  | 1 => some .nak
  | _ => none

/-- The number of each `SCResultCode`. -/
def SCResultCode.toOctet : SCResultCode → UInt8
  | .ack => 0
  | .nak => 1

theorem SCResultCode.eq_of_ofOctet {value code} (same : ofOctet value = some code)
    : value = code.toOctet := by
  unfold ofOctet at same
  split at same
  case h_3 => cases same
  all_goals
    next number =>
      cases same
      exact UInt8.toNat_inj.mp number

/-- `BvlcResultPayload`; the details are kept as octets. -/
structure BvlcResultPayload where
  forFunction : BvlcSCFunction
  resultCode : SCResultCode
  errorHeaderMarker : UInt8 := 0
  errorClass : UInt16 := 0
  errorCode : UInt16 := 0
  errorDetails : Bytes := []

namespace BvlcResultPayload

def decode (data : Bytes) : Except PyException BvlcResultPayload :=
  match data with
  | function :: result :: rest =>
    match BvlcSCFunction.ofOctet function, SCResultCode.ofOctet result with
    | none, _ => .error (.valueError s!"{function.toNat} is not a valid BvlcSCFunction")
    | some _, none => .error (.valueError s!"{result.toNat} is not a valid SCResultCode")
    | some forFunction, some .ack => .ok { forFunction, resultCode := .ack }
    | some forFunction, some .nak =>
      if rest.length < 5 then
        .error (.valueError
          s!"BVLC-Result NAK payload too short: need at least 7 bytes, got {data.length}")
      else
        .ok {
          forFunction
          resultCode := .nak
          errorHeaderMarker := rest.getD 0 0
          errorClass := UInt16.ofNat (fromBytes (slice data 3 5))
          errorCode := UInt16.ofNat (fromBytes (slice data 5 7))
          errorDetails := data.drop 7
        }
  | _ =>
    .error (.valueError
      s!"BVLC-Result payload too short: need at least 2 bytes, got {data.length}")

/-- A payload can be decoded exactly if it has a function, a result code, and the octets of a NAK. -/
theorem decode_ok_iff {data}
    : (∃ payload, decode data = .ok payload)
      ↔ ∃ function result rest, data = function :: result :: rest ∧ function ≤ 0x0C
        ∧ (result = 0 ∨ result = 1 ∧ 5 ≤ rest.length) := by
  match data with
  | [] => exact iff_of_false (fun ⟨_, same⟩ => nomatch same) nofun
  | [_] => exact iff_of_false (fun ⟨_, same⟩ => nomatch same) nofun
  | function :: result :: rest =>
    have known := BvlcSCFunction.isSome_ofOctet_iff function
    constructor
    · rintro ⟨payload, decoded⟩
      refine ⟨function, result, rest, rfl, ?_⟩
      unfold decode at decoded
      dsimp only at decoded
      split at decoded
      · cases decoded
      · cases decoded
      · next found code => exact ⟨known.mp (by rw [found]; rfl), .inl (SCResultCode.eq_of_ofOctet code)⟩
      · next found code =>
          split at decoded
          · cases decoded
          · next long =>
              exact ⟨known.mp (by rw [found]; rfl),
                .inr ⟨SCResultCode.eq_of_ofOctet code, not_lt.mp long⟩⟩
    · rintro ⟨_, _, _, same, small, code⟩
      cases same
      obtain ⟨forFunction, found⟩ := Option.isSome_iff_exists.mp (known.mpr small)
      unfold decode
      dsimp only
      rw [found]
      rcases code with rfl | ⟨rfl, long⟩
      · exact ⟨_, rfl⟩
      · exact ⟨_, if_neg (not_lt.mpr long)⟩

end BvlcResultPayload

end BacPy
