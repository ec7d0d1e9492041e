import BacPy.Network.Address

/-! NPDU encoding and decoding (Clause 6). -/

namespace BacPy

inductive NetworkPriority where
  | normal | urgent | criticalEquipment | lifeSafety
  deriving DecidableEq

/-- The number of each `NetworkPriority`. -/
def NetworkPriority.toNat : NetworkPriority → Nat
  | .normal => 0
  | .urgent => 1
  | .criticalEquipment => 2
  | .lifeSafety => 3

/-- `NPDU`; the version is always 1. -/
structure NPDU where
  isNetworkMessage : Bool := false
  expectingReply : Bool := false
  priority : NetworkPriority := .normal
  destination : Option BACnetAddress := none
  source : Option BACnetAddress := none
  hopCount : Nat := 255
  messageType : Option Nat := none
  vendorId : Option Nat := none
  apdu : Bytes := []
  networkMessageData : Bytes := []
  deriving DecidableEq

-- The control octet

/-- The fields of the control octet. -/
structure Control where
  isNetworkMessage : Bool
  hasDestination : Bool
  hasSource : Bool
  expectingReply : Bool
  priority : NetworkPriority

/-- The control octet; bits 6 and 4 are reserved. -/
def Control.encode (control : Control) : UInt8 :=
  UInt8.ofNat control.priority.toNat
    ||| (if control.isNetworkMessage then 0x80 else 0)
    ||| (if control.hasDestination then 0x20 else 0)
    ||| (if control.hasSource then 0x08 else 0)
    ||| (if control.expectingReply then 0x04 else 0)

def Control.decode (octet : UInt8) : Control where
  isNetworkMessage := octet &&& 0x80 ≠ 0
  hasDestination := octet &&& 0x20 ≠ 0
  hasSource := octet &&& 0x08 ≠ 0
  expectingReply := octet &&& 0x04 ≠ 0
  priority :=
    match (octet &&& 0x03).toNat with
    | 0 => .normal
    | 1 => .urgent
    | 2 => .criticalEquipment
    | _ => .lifeSafety

theorem Control.decode_encode (control : Control) : Control.decode control.encode = control := by
  obtain ⟨isNetworkMessage, hasDestination, hasSource, expectingReply, priority⟩ := control
  cases isNetworkMessage <;> cases hasDestination <;> cases hasSource <;> cases expectingReply
    <;> cases priority <;> rfl

-- Encoding

/-- `struct.pack("!HB", network, len(mac))`, and the address after it. -/
def packAddress (network : Nat) (mac : Bytes) : Except PyException Bytes :=
  if 0xFFFF < network then .error (.structError "'H' format requires 0 <= number <= 65535")
  else if 0xFF < mac.length then .error (.structError "ubyte format requires 0 <= number <= 255")
  else .ok (toBytes network 2 ++ [UInt8.ofNat mac.length] ++ mac)

/-- The checks on the destination of an NPDU: its network number and its address. -/
def checkDestination : Option BACnetAddress → Except PyException (Option (Nat × Bytes))
  | none => .ok none
  | some dest =>
    match dest.network with
    | none =>
      .error (.valueError "Destination network must be set when destination is present")
    | some dnet => .ok (some (dnet, dest.macAddress))

/-- The checks on the source of an NPDU: its network number and its address. -/
def checkSource : Option BACnetAddress → Except PyException (Option (Nat × Bytes))
  | none => .ok none
  | some src =>
    match src.network with
    | none =>
      .error (.valueError "Source network must be set when source is present (must be 1-65534)")
    | some snet =>
      if snet = 0xFFFF then
        .error (.valueError "SNET cannot be 0xFFFF (global broadcast is not a valid source)")
      else if snet = 0 then .error (.valueError "SNET cannot be 0 (must be 1-65534)")
      else if src.macAddress.isEmpty then
        .error (.valueError "SLEN cannot be 0 when source is present")
      else .ok (some (snet, src.macAddress))

def checkMessageType (npdu : NPDU) : Except PyException (Option Nat) :=
  if npdu.isNetworkMessage then
    match npdu.messageType with
    | none => .error (.valueError "message_type must be set when is_network_message is True")
    | some messageType => .ok (some messageType)
  else .ok none

def encodeAddress : Option (Nat × Bytes) → Except PyException Bytes
  | none => .ok []
  | some (network, mac) => packAddress network mac

def encodeHopCount (present : Bool) (hopCount : Nat) : Except PyException Bytes :=
  if present then (fun hops => [hops]) <$> octet hopCount else .ok []

def encodeVendorId (messageType : Nat) (vendorId : Option Nat) : Except PyException Bytes :=
  if messageType < 0x80 then .ok []
  else if 0xFFFF < vendorId.getD 0 then
    .error (.structError "'H' format requires 0 <= number <= 65535")
  else .ok (toBytes (vendorId.getD 0) 2)

def encodePayload (npdu : NPDU) : Option Nat → Except PyException Bytes
  | some messageType => do
      let type ← octet messageType
      let vendor ← encodeVendorId messageType npdu.vendorId
      .ok (type :: vendor ++ npdu.networkMessageData)
  | none => .ok npdu.apdu

def NPDU.control (npdu : NPDU) : Control where
  isNetworkMessage := npdu.isNetworkMessage
  hasDestination := npdu.destination.isSome
  hasSource := npdu.source.isSome
  expectingReply := npdu.expectingReply
  priority := npdu.priority

def encodeNpdu (npdu : NPDU) : Except PyException Bytes := do
  let destination ← checkDestination npdu.destination
  let source ← checkSource npdu.source
  let messageType ← checkMessageType npdu
  let destination ← encodeAddress destination
  let source ← encodeAddress source
  let hopCount ← encodeHopCount npdu.destination.isSome npdu.hopCount
  let payload ← encodePayload npdu messageType
  .ok (0x01 :: npdu.control.encode :: (destination ++ (source ++ (hopCount ++ payload))))

/-- `encode_npdu_local_delivery`. A network message always has a type here. -/
def encodeNpduLocalDelivery (npdu : NPDU) (sourceNetwork : Nat) (sourceMac : Bytes)
    : Except PyException Bytes := do
  let messageType ← checkMessageType npdu
  let control := { npdu.control with hasDestination := false, hasSource := true }
  let source ← packAddress sourceNetwork sourceMac
  let payload ← encodePayload npdu messageType
  .ok (0x01 :: control.encode :: (source ++ payload))

-- Decoding

def decodeDestination (data : Bytes) (offset : Nat) : Except PyException (BACnetAddress × Nat) := do
  if data.length < offset + 3 then
    .error (.valueError
      s!"NPDU too short for destination: need {offset + 3} bytes, got {data.length}")
  else
    let dnet := fromBytes (slice data offset (offset + 2))
    let dlen ← octetAt data (offset + 2)
    let offset := offset + 3
    if 0 < dlen.toNat ∧ data.length < offset + dlen.toNat then
      .error (.valueError
        (s!"NPDU destination address truncated: DLEN={dlen.toNat} but only "
          ++ s!"{data.length - offset} bytes remain"))
    else
      let destination ← BACnetAddress.make dnet (slice data offset (offset + dlen.toNat))
      .ok (destination, offset + dlen.toNat)

def decodeSource (data : Bytes) (offset : Nat) : Except PyException (BACnetAddress × Nat) := do
  if data.length < offset + 3 then
    .error (.valueError
      s!"NPDU too short for source: need {offset + 3} bytes, got {data.length}")
  else
    let snet := fromBytes (slice data offset (offset + 2))
    if snet = 0xFFFF then
      .error (.valueError "Source SNET cannot be 0xFFFF (global broadcast)")
    else if snet = 0 then .error (.valueError "Source SNET cannot be 0 (must be 1-65534)")
    else
      let slen ← octetAt data (offset + 2)
      let offset := offset + 3
      if slen = 0 then .error (.valueError "Source SLEN cannot be 0 when source is present")
      else if data.length < offset + slen.toNat then
        .error (.valueError
          (s!"NPDU source address truncated: SLEN={slen.toNat} but only "
            ++ s!"{data.length - offset} bytes remain"))
      else
        let source ← BACnetAddress.make snet (slice data offset (offset + slen.toNat))
        .ok (source, offset + slen.toNat)

def decodeMessage (data : Bytes) (offset : Nat) : Except PyException (Nat × Option Nat × Bytes) := do
  if data.length ≤ offset then
    .error (.valueError "NPDU too short for network message type")
  else
    let messageType ← octetAt data offset
    let offset := offset + 1
    if messageType.toNat < 0x80 then .ok (messageType.toNat, none, data.drop offset)
    else if data.length < offset + 2 then
      .error (.valueError "NPDU too short for proprietary vendor ID: need 2 bytes")
    else
      .ok (messageType.toNat, some (fromBytes (slice data offset (offset + 2))),
        data.drop (offset + 2))

/-- A part of an NPDU that is there if a bit of the control octet says so. -/
def decodeIf {Part : Type} (present : Bool)
    (decode : Bytes → Nat → Except PyException (Part × Nat)) (data : Bytes) (offset : Nat)
    : Except PyException (Option Part × Nat) := do
  if present then
    let (part, offset) ← decode data offset
    .ok (some part, offset)
  else .ok (none, offset)

def decodeHopCount (data : Bytes) (offset : Nat) : Except PyException (Nat × Nat) := do
  if data.length ≤ offset then .error (.valueError "NPDU too short for hop count")
  else
    let hopCount ← octetAt data offset
    .ok (hopCount.toNat, offset + 1)

def decodeNpdu (data : Bytes) : Except PyException NPDU := do
  if data.length < 2 then
    .error (.valueError s!"NPDU data too short: need at least 2 bytes, got {data.length}")
  else
    let version ← octetAt data 0
    if version ≠ 1 then
      .error (.valueError s!"Unsupported BACnet protocol version: {version.toNat}")
    else
      let control := Control.decode (← octetAt data 1)
      let (destination, offset) ← decodeIf control.hasDestination decodeDestination data 2
      let (source, offset) ← decodeIf control.hasSource decodeSource data offset
      let (hopCount, offset) ← decodeIf control.hasDestination decodeHopCount data offset
      let npdu : NPDU := {
        isNetworkMessage := control.isNetworkMessage
        expectingReply := control.expectingReply
        priority := control.priority
        destination
        source
        hopCount := hopCount.getD 255
      }
      if control.isNetworkMessage then
        let (messageType, vendorId, networkMessageData) ← decodeMessage data offset
        .ok { npdu with messageType := some messageType, vendorId, networkMessageData }
      else .ok { npdu with apdu := data.drop offset }

-- Round trip

/-- What goes over the wire of an NPDU: the hop count only with a destination, and of the payload
only the kind that the NPDU has.
-/
def NPDU.carried (npdu : NPDU) : NPDU :=
  { npdu with
    hopCount := if npdu.destination.isSome then npdu.hopCount else 255
    messageType := if npdu.isNetworkMessage then npdu.messageType else none
    vendorId :=
      if npdu.isNetworkMessage ∧ 0x80 ≤ npdu.messageType.getD 0 then some (npdu.vendorId.getD 0)
      else none
    apdu := if npdu.isNetworkMessage then [] else npdu.apdu
    networkMessageData := if npdu.isNetworkMessage then npdu.networkMessageData else [] }

variable {data encoded : Bytes}

theorem packAddress_eq_ok {network mac}
    : packAddress network mac = .ok encoded
      ↔ network ≤ 0xFFFF ∧ mac.length ≤ 0xFF
        ∧ encoded = toBytes network 2 ++ [UInt8.ofNat mac.length] ++ mac := by
  unfold packAddress
  split
  · next large => simp [Nat.not_le.mpr large]
  · next small =>
      split
      · next long => simp [Nat.not_le.mpr long]
      · next short => simp [Nat.not_lt.mp small, Nat.not_lt.mp short, eq_comm]

/-- The fields of a packed address are read from where they were put. -/
theorem read_packAddress {network mac} (before after : Bytes)
    (packed : packAddress network mac = .ok encoded)
    : fromBytes (slice (before ++ (encoded ++ after)) before.length (before.length + 2)) = network
      ∧ octetAt (before ++ (encoded ++ after)) (before.length + 2) = .ok (UInt8.ofNat mac.length)
      ∧ (UInt8.ofNat mac.length).toNat = mac.length
      ∧ slice (before ++ (encoded ++ after)) (before.length + 3) (before.length + 3 + mac.length)
        = mac
      ∧ encoded.length = 3 + mac.length := by
  obtain ⟨fits, short, rfl⟩ := packAddress_eq_ok.mp packed
  have number := slice_append before (toBytes network 2) ([UInt8.ofNat mac.length] ++ mac ++ after)
  rw [length_toBytes] at number
  have length := octetAt_append (before ++ toBytes network 2)
    ([UInt8.ofNat mac.length] ++ mac ++ after) 0
  rw [List.length_append, length_toBytes] at length
  have address := slice_append (before ++ toBytes network 2 ++ [UInt8.ofNat mac.length]) mac after
  rw [List.length_append, List.length_append, length_toBytes, List.length_singleton] at address
  simp only [List.append_assoc] at number length address ⊢
  refine ⟨?_, length, ?_, address, by simp; omega⟩
  · rw [number, fromBytes_toBytes (by omega)]
  · rw [UInt8.toNat_ofNat', Nat.mod_eq_of_lt (by omega)]

theorem decodeDestination_encoded {dest fields} (before after : Bytes)
    (checked : checkDestination (some dest) = .ok fields)
    (packed : encodeAddress fields = .ok encoded)
    : decodeDestination (before ++ (encoded ++ after)) before.length
      = .ok (dest, before.length + encoded.length) := by
  unfold checkDestination at checked
  cases known : dest.network with
  | none => simp [known] at checked
  | some dnet =>
    simp only [known, Except.ok.injEq] at checked
    subst checked
    obtain ⟨number, length, exact_, address, size⟩ := read_packAddress before after packed
    have same : BACnetAddress.make dnet dest.macAddress = .ok dest :=
      BACnetAddress.make_eq_ok.mpr ⟨known, rfl⟩
    unfold decodeDestination
    rw [if_neg (by simp; omega)]
    simp only [number, length, bind, Except.bind, exact_, address, same]
    rw [if_neg (by simp; omega), size, Nat.add_assoc]

theorem decodeSource_encoded {src fields} (before after : Bytes)
    (checked : checkSource (some src) = .ok fields) (packed : encodeAddress fields = .ok encoded)
    : decodeSource (before ++ (encoded ++ after)) before.length
      = .ok (src, before.length + encoded.length) := by
  unfold checkSource at checked
  cases known : src.network with
  | none => simp [known] at checked
  | some snet =>
    simp only [known] at checked
    split at checked
    · cases checked
    · next notGlobal =>
        split at checked
        · cases checked
        · next notZero =>
            split at checked
            · cases checked
            · next someMac =>
                cases checked
                obtain ⟨number, length, exact_, address, size⟩ :=
                  read_packAddress before after packed
                have same : BACnetAddress.make snet src.macAddress = .ok src :=
                  BACnetAddress.make_eq_ok.mpr ⟨known, rfl⟩
                have notEmpty : UInt8.ofNat src.macAddress.length ≠ 0 := by
                  intro zero
                  rw [zero] at exact_
                  exact someMac (List.isEmpty_iff_length_eq_zero.mpr exact_.symm)
                unfold decodeSource
                rw [if_neg (by simp; omega)]
                simp only [number, length, bind, Except.bind, exact_, address, same,
                  if_neg notGlobal, if_neg notZero, if_neg notEmpty]
                rw [if_neg (by simp; omega), size, Nat.add_assoc]

theorem decodeHopCount_encoded {hopCount} (before after : Bytes)
    (packed : encodeHopCount true hopCount = .ok encoded)
    : decodeHopCount (before ++ (encoded ++ after)) before.length
      = .ok (hopCount, before.length + encoded.length) := by
  obtain ⟨hops, fits, rfl⟩ := map_eq_ok.mp packed
  unfold octet at fits
  split at fits
  · next small =>
      cases fits
      have read := octetAt_append before ([UInt8.ofNat hopCount] ++ after) 0
      rw [Nat.add_zero] at read
      unfold decodeHopCount
      rw [if_neg (by simp), read]
      simp only [List.singleton_append, octetAt_zero, bind, Except.bind, UInt8.toNat_ofNat',
        List.length_singleton, Nat.mod_eq_of_lt small]
  · cases fits

theorem decodeMessage_encoded {npdu messageType} (before : Bytes)
    (packed : encodePayload npdu (some messageType) = .ok encoded)
    : decodeMessage (before ++ encoded) before.length
      = .ok (messageType, if 0x80 ≤ messageType then some (npdu.vendorId.getD 0) else none,
        npdu.networkMessageData) := by
  obtain ⟨type, fits, later⟩ := bind_eq_ok.mp packed
  obtain ⟨vendor, vendorEncoded, same⟩ := bind_eq_ok.mp later
  cases same
  unfold octet at fits
  split at fits
  · next small =>
      cases fits
      have typeRead : (UInt8.ofNat messageType).toNat = messageType := by
        rw [UInt8.toNat_ofNat', Nat.mod_eq_of_lt small]
      have read := octetAt_append before
        (UInt8.ofNat messageType :: vendor ++ npdu.networkMessageData) 0
      rw [Nat.add_zero] at read
      unfold decodeMessage
      rw [if_neg (by simp), read]
      simp only [List.cons_append, octetAt_zero, bind, Except.bind, typeRead]
      unfold encodeVendorId at vendorEncoded
      split at vendorEncoded
      · next standard =>
          cases vendorEncoded
          rw [if_pos standard, if_neg (by omega)]
          simp [List.drop_append]
      · next proprietary =>
          split at vendorEncoded
          · cases vendorEncoded
          · next vendorFits =>
              cases vendorEncoded
              rw [if_neg proprietary, if_neg (by simp; omega), if_pos (by omega)]
              have number := slice_append (before ++ [UInt8.ofNat messageType])
                (toBytes (npdu.vendorId.getD 0) 2) npdu.networkMessageData
              rw [List.length_append, List.length_singleton, length_toBytes,
                List.append_assoc, List.singleton_append] at number
              rw [number, fromBytes_toBytes (by omega)]
              have rest : (before ++ UInt8.ofNat messageType
                  :: (toBytes (npdu.vendorId.getD 0) 2 ++ npdu.networkMessageData)).drop
                    (before.length + 1 + 2) = npdu.networkMessageData := by
                have split : before ++ UInt8.ofNat messageType
                    :: (toBytes (npdu.vendorId.getD 0) 2 ++ npdu.networkMessageData)
                    = (before ++ UInt8.ofNat messageType :: toBytes (npdu.vendorId.getD 0) 2)
                      ++ npdu.networkMessageData := by simp
                rw [split]
                exact List.drop_left' (by simp)
              rw [rest]
  · cases fits

theorem decodeIf_destination {npdu : NPDU} {fields : Option (Nat × Bytes)} (before after : Bytes)
    (checked : checkDestination npdu.destination = .ok fields)
    (packed : encodeAddress fields = .ok encoded)
    : decodeIf npdu.destination.isSome decodeDestination (before ++ (encoded ++ after)) before.length
      = .ok (npdu.destination, before.length + encoded.length) := by
  cases known : npdu.destination with
  | none =>
    rw [known] at checked
    cases checked
    cases packed
    rfl
  | some dest =>
    rw [known] at checked
    simp [decodeIf, decodeDestination_encoded before after checked packed, bind, Except.bind]

theorem decodeIf_source {npdu : NPDU} {fields : Option (Nat × Bytes)} (before after : Bytes)
    (checked : checkSource npdu.source = .ok fields) (packed : encodeAddress fields = .ok encoded)
    : decodeIf npdu.source.isSome decodeSource (before ++ (encoded ++ after)) before.length
      = .ok (npdu.source, before.length + encoded.length) := by
  cases known : npdu.source with
  | none =>
    rw [known] at checked
    cases checked
    cases packed
    rfl
  | some src =>
    rw [known] at checked
    simp [decodeIf, decodeSource_encoded before after checked packed, bind, Except.bind]

theorem decodeIf_hopCount {present hopCount} (before after : Bytes)
    (packed : encodeHopCount present hopCount = .ok encoded)
    : decodeIf present decodeHopCount (before ++ (encoded ++ after)) before.length
      = .ok (if present then some hopCount else none, before.length + encoded.length) := by
  cases present with
  | false =>
    cases packed
    rfl
  | true => simp [decodeIf, decodeHopCount_encoded before after packed, bind, Except.bind]

theorem decodeNpdu_encodeNpdu {npdu : NPDU} (encodes : encodeNpdu npdu = .ok data)
    : decodeNpdu data = .ok npdu.carried := by
  obtain ⟨dest, destChecked, later⟩ := bind_eq_ok.mp encodes
  obtain ⟨src, srcChecked, later⟩ := bind_eq_ok.mp later
  obtain ⟨type, typeChecked, later⟩ := bind_eq_ok.mp later
  obtain ⟨destination, destPacked, later⟩ := bind_eq_ok.mp later
  obtain ⟨source, srcPacked, later⟩ := bind_eq_ok.mp later
  obtain ⟨hops, hopsPacked, later⟩ := bind_eq_ok.mp later
  obtain ⟨payload, payloadPacked, same⟩ := bind_eq_ok.mp later
  cases same
  have readDest := decodeIf_destination [0x01, npdu.control.encode] (source ++ (hops ++ payload))
    destChecked destPacked
  have readSrc := decodeIf_source ([0x01, npdu.control.encode] ++ destination) (hops ++ payload)
    srcChecked srcPacked
  have readHops := decodeIf_hopCount ([0x01, npdu.control.encode] ++ destination ++ source) payload
    hopsPacked
  have header : ([0x01, npdu.control.encode] : Bytes).length = 2 := rfl
  rw [header] at readDest
  rw [List.length_append, header] at readSrc
  rw [List.length_append, List.length_append, header] at readHops
  simp only [List.append_assoc, List.cons_append, List.nil_append] at readDest readSrc readHops
  unfold decodeNpdu
  rw [if_neg (by simp)]
  simp only [octetAt_zero, octetAt_succ, bind, Except.bind, ne_eq, not_true_eq_false, if_false,
    Control.decode_encode, NPDU.control]
  rw [← NPDU.control, readDest]
  dsimp only
  rw [readSrc]
  dsimp only
  rw [readHops]
  dsimp only
  have hopsRead : (if npdu.destination.isSome then some npdu.hopCount else none).getD 255
      = if npdu.destination.isSome then npdu.hopCount else 255 := by
    split <;> rfl
  cases network : npdu.isNetworkMessage with
  | true =>
    unfold checkMessageType at typeChecked
    rw [if_pos network] at typeChecked
    cases messageType : npdu.messageType with
    | none => simp [messageType] at typeChecked
    | some number =>
      simp only [messageType, Except.ok.injEq] at typeChecked
      subst typeChecked
      have readMessage := decodeMessage_encoded
        ([0x01, npdu.control.encode] ++ destination ++ source ++ hops) payloadPacked
      rw [List.length_append, List.length_append, List.length_append, header] at readMessage
      simp only [List.append_assoc, List.cons_append, List.nil_append] at readMessage
      rw [if_pos rfl, readMessage]
      simp [NPDU.carried, network, messageType, hopsRead]
  | false =>
    unfold checkMessageType at typeChecked
    rw [network, if_neg (by simp)] at typeChecked
    cases typeChecked
    cases payloadPacked
    have rest : ([0x01, npdu.control.encode] ++ destination ++ source ++ hops ++ npdu.apdu).drop
        (2 + destination.length + source.length + hops.length) = npdu.apdu :=
      List.drop_left' (by simp; omega)
    simp only [List.append_assoc, List.cons_append, List.nil_append] at rest
    rw [if_neg (by simp), rest]
    simp [NPDU.carried, network, hopsRead]

/-- A source is read only if it is one that may be sent. -/
theorem decodeSource_packAddress {network mac src offset} (before after : Bytes)
    (packed : packAddress network mac = .ok encoded)
    (decoded : decodeSource (before ++ (encoded ++ after)) before.length = .ok (src, offset))
    : network ≠ 0xFFFF ∧ network ≠ 0 ∧ mac.isEmpty = false ∧ network ≤ 0xFFFF := by
  obtain ⟨number, length, exact_, address, size⟩ := read_packAddress before after packed
  have fits := (packAddress_eq_ok.mp packed).1
  unfold decodeSource at decoded
  rw [if_neg (by simp; omega)] at decoded
  simp only [number, length, bind, Except.bind] at decoded
  split at decoded
  · cases decoded
  · next notGlobal =>
      split at decoded
      · cases decoded
      · next notZero =>
          split at decoded
          · cases decoded
          · next someMac =>
              refine ⟨notGlobal, notZero, ?_, fits⟩
              cases mac with
              | nil => exact absurd rfl someMac
              | cons first rest => rfl

/-- A local delivery that can be decoded is the NPDU without its destination, and with the source
that was given.
-/
theorem encodeNpdu_of_localDelivery {npdu sent network mac}
    (encodes : encodeNpduLocalDelivery npdu network mac = .ok data)
    (decoded : decodeNpdu data = .ok sent)
    : ∃ source, encodeNpdu { npdu with destination := none, source := some source } = .ok data := by
  obtain ⟨type, typeChecked, later⟩ := bind_eq_ok.mp encodes
  obtain ⟨source, packed, later⟩ := bind_eq_ok.mp later
  obtain ⟨payload, payloadPacked, same⟩ := bind_eq_ok.mp later
  cases same
  set control := { npdu.control with hasDestination := false, hasSource := true } with controlEq
  unfold decodeNpdu at decoded
  rw [if_neg (by simp)] at decoded
  simp only [octetAt_zero, octetAt_succ, bind, Except.bind, ne_eq, not_true_eq_false, if_false,
    Control.decode_encode, controlEq, decodeIf, Bool.false_eq_true, if_true] at decoded
  cases read : decodeSource (0x01 :: control.encode :: (source ++ payload)) 2 with
  | error raised =>
    rw [controlEq] at read
    simp [read] at decoded
  | ok result =>
    obtain ⟨notGlobal, notZero, someMac, fits⟩ :=
      decodeSource_packAddress [0x01, control.encode] payload packed read
    have inRange : network = 0xFFFF ∨ 1 ≤ network ∧ network ≤ 65534 := by omega
    let source : BACnetAddress :=
      { network := some network, macAddress := mac, inRange := by simpa using inRange }
    have sourceChecked : checkSource (some source) = .ok (some (network, mac)) := by
      simp [checkSource, source, notGlobal, notZero, someMac]
    have typeChecked :
        checkMessageType { npdu with destination := none, source := some source } = .ok type :=
      typeChecked
    have payloadPacked :
        encodePayload { npdu with destination := none, source := some source } type
          = .ok payload := by
      rw [← payloadPacked]
      cases type <;> rfl
    refine ⟨source, ?_⟩
    unfold encodeNpdu
    dsimp only
    rw [sourceChecked, typeChecked]
    simp only [checkDestination, encodeAddress, encodeHopCount, bind, Except.bind, packed,
      payloadPacked, Option.isSome_none, Bool.false_eq_true, if_false]
    rfl

end BacPy
