import BacPy.Network.Npdu

/-! NPDUs that survive the wire, and octets that are the only encoding of what they decode to. -/

namespace BacPy

-- From values to octets and back

/-- A destination has a network number, and its address fits the length octet. -/
def ValidDestination (address : BACnetAddress) : Prop :=
  address.network.isSome ∧ address.macAddress.length ≤ 0xFF

/-- A source is a station of a known network. -/
def ValidSource (address : BACnetAddress) : Prop :=
  address.network.isSome ∧ address.network ≠ some 0xFFFF ∧ address.macAddress ≠ []
    ∧ address.macAddress.length ≤ 0xFF

/-- The vendor identifier is there for the proprietary message types, 0x80 to 0xFF. -/
def ValidMessage (messageType vendorId : Option Nat) : Prop :=
  ∃ type ∈ messageType, type < 256
    ∧ if type < 0x80 then vendorId = none else ∃ vendor ∈ vendorId, vendor ≤ 0xFFFF

/-- The fields fit the format, and no field has a value where the format has no place for it: the
hop count without a destination, and the fields of the other kind of payload.
-/
structure NPDU.WellFormed (npdu : NPDU) : Prop where
  destination : ∀ address ∈ npdu.destination, ValidDestination address
  source : ∀ address ∈ npdu.source, ValidSource address
  hopCount : if npdu.destination.isSome then npdu.hopCount < 256 else npdu.hopCount = 255
  payload :
    if npdu.isNetworkMessage then
      ValidMessage npdu.messageType npdu.vendorId ∧ npdu.apdu = []
    else
      npdu.messageType = none ∧ npdu.vendorId = none ∧ npdu.networkMessageData = []

variable {npdu : NPDU} {data encoded : Bytes}

theorem encodeDestination_ok_iff {destination}
    : (∃ octets, (checkDestination destination >>= encodeAddress) = .ok octets)
      ↔ ∀ address ∈ destination, ValidDestination address := by
  cases destination with
  | none => simp [checkDestination, encodeAddress, bind, Except.bind]
  | some address =>
    obtain ⟨network, mac, valid⟩ := address
    cases network with
    | none => simp [checkDestination, ValidDestination, bind, Except.bind]
    | some number =>
      have fits : number ≤ 0xFFFF := by
        rcases valid number rfl with rfl | inRange <;> omega
      simp [checkDestination, encodeAddress, ValidDestination, bind, Except.bind,
        packAddress_eq_ok, fits]

theorem encodeSource_ok_iff {source}
    : (∃ octets, (checkSource source >>= encodeAddress) = .ok octets)
      ↔ ∀ address ∈ source, ValidSource address := by
  cases source with
  | none => simp [checkSource, encodeAddress, bind, Except.bind]
  | some address =>
    obtain ⟨network, mac, valid⟩ := address
    cases network with
    | none => simp [checkSource, ValidSource, bind, Except.bind]
    | some number =>
      have fits : number ≤ 0xFFFF := by
        rcases valid number rfl with rfl | inRange <;> omega
      have positive : number ≠ 0 := by
        rcases valid number rfl with rfl | inRange <;> omega
      by_cases everywhere : number = 0xFFFF
      · simp [checkSource, ValidSource, bind, Except.bind, everywhere]
      · by_cases empty : mac = []
        · simp [checkSource, ValidSource, bind, Except.bind, everywhere, positive, empty]
        · simp [checkSource, encodeAddress, ValidSource, bind, Except.bind,
            packAddress_eq_ok, fits, everywhere, positive, empty]

theorem encodePayload_ok_iff
    : (∃ octets, (checkMessageType npdu >>= encodePayload npdu) = .ok octets)
      ↔ (npdu.isNetworkMessage → ∃ type ∈ npdu.messageType, type < 256
          ∧ (0x80 ≤ type → npdu.vendorId.getD 0 ≤ 0xFFFF)) := by
  unfold checkMessageType
  split
  · next network =>
      cases npdu.messageType with
      | none => simp [bind, Except.bind, network]
      | some type =>
        by_cases small : type < 256
        · by_cases standard : type < 0x80
          · have notProprietary : ¬ 0x80 ≤ type := by omega
            simp [bind, Except.bind, encodePayload, octet_ok small, encodeVendorId, standard,
              network, small, notProprietary]
          · have proprietary : 0x80 ≤ type := by omega
            by_cases fits : npdu.vendorId.getD 0 ≤ 0xFFFF
            · have fits' : ¬ 0xFFFF < npdu.vendorId.getD 0 := by omega
              simp [bind, Except.bind, encodePayload, octet_ok small, encodeVendorId, standard,
                small, fits, fits']
            · have large : 0xFFFF < npdu.vendorId.getD 0 := by omega
              simp [bind, Except.bind, encodePayload, octet_ok small, encodeVendorId, standard,
                network, fits, large]
        · simp [bind, Except.bind, encodePayload, octet, network, small]
  · next apdu => simp [bind, Except.bind, encodePayload, apdu]

theorem encodeHopCount_ok_iff {present hopCount}
    : (∃ octets, encodeHopCount present hopCount = .ok octets) ↔ (present → hopCount < 256) := by
  cases present with
  | false => simp [encodeHopCount]
  | true =>
    by_cases small : hopCount < 256
    · simp [encodeHopCount, octet, small, Functor.map, Except.map]
    · simp [encodeHopCount, octet, small, Functor.map, Except.map]

/-- The fields of an NPDU that were checked and encoded part by part make up its encoding. -/
theorem encodeNpdu_parts {destination source hops payload}
    (dest : (checkDestination npdu.destination >>= encodeAddress) = .ok destination)
    (src : (checkSource npdu.source >>= encodeAddress) = .ok source)
    (hopCount : encodeHopCount npdu.destination.isSome npdu.hopCount = .ok hops)
    (message : (checkMessageType npdu >>= encodePayload npdu) = .ok payload)
    : encodeNpdu npdu
      = .ok (0x01 :: npdu.control.encode :: (destination ++ (source ++ (hops ++ payload)))) := by
  obtain ⟨dest, destChecked, destPacked⟩ := bind_eq_ok.mp dest
  obtain ⟨src, srcChecked, srcPacked⟩ := bind_eq_ok.mp src
  obtain ⟨type, typeChecked, payloadPacked⟩ := bind_eq_ok.mp message
  rw [encodeNpdu, destChecked, srcChecked, typeChecked]
  simp only [bind, Except.bind, destPacked, srcPacked, hopCount, payloadPacked]

theorem encodeNpdu_ok_iff
    : (∃ data, encodeNpdu npdu = .ok data)
      ↔ (∃ octets, (checkDestination npdu.destination >>= encodeAddress) = .ok octets)
        ∧ (∃ octets, (checkSource npdu.source >>= encodeAddress) = .ok octets)
        ∧ (∃ octets, encodeHopCount npdu.destination.isSome npdu.hopCount = .ok octets)
        ∧ ∃ octets, (checkMessageType npdu >>= encodePayload npdu) = .ok octets := by
  constructor
  · rintro ⟨data, encodes⟩
    obtain ⟨dest, destChecked, later⟩ := bind_eq_ok.mp encodes
    obtain ⟨src, srcChecked, later⟩ := bind_eq_ok.mp later
    obtain ⟨type, typeChecked, later⟩ := bind_eq_ok.mp later
    obtain ⟨destination, destPacked, later⟩ := bind_eq_ok.mp later
    obtain ⟨source, srcPacked, later⟩ := bind_eq_ok.mp later
    obtain ⟨hops, hopsPacked, later⟩ := bind_eq_ok.mp later
    obtain ⟨payload, payloadPacked, _⟩ := bind_eq_ok.mp later
    exact ⟨⟨destination, bind_eq_ok.mpr ⟨dest, destChecked, destPacked⟩⟩,
      ⟨source, bind_eq_ok.mpr ⟨src, srcChecked, srcPacked⟩⟩, ⟨hops, hopsPacked⟩,
      ⟨payload, bind_eq_ok.mpr ⟨type, typeChecked, payloadPacked⟩⟩⟩
  · rintro ⟨⟨destination, dest⟩, ⟨source, src⟩, ⟨hops, hopCount⟩, payload, message⟩
    exact ⟨_, encodeNpdu_parts dest src hopCount message⟩

/-- An NPDU is what it carries if it has no value where the format has no place for it. -/
theorem carried_eq_iff
    : npdu.carried = npdu
      ↔ (npdu.destination = none → npdu.hopCount = 255)
        ∧ if npdu.isNetworkMessage then
            npdu.vendorId = (if 0x80 ≤ npdu.messageType.getD 0 then some (npdu.vendorId.getD 0)
              else none)
            ∧ npdu.apdu = []
          else npdu.messageType = none ∧ npdu.vendorId = none ∧ npdu.networkMessageData = [] := by
  obtain ⟨network, reply, priority, destination, source, hopCount, type, vendor, apdu, message⟩ :=
    npdu
  cases network <;> cases destination <;> simp [NPDU.carried, eq_comm]

/-- The NPDUs that come back as they were are exactly the well-formed ones. -/
theorem roundTrip_iff : (encodeNpdu npdu >>= decodeNpdu) = .ok npdu ↔ npdu.WellFormed := by
  have carried : (encodeNpdu npdu >>= decodeNpdu) = .ok npdu
      ↔ (∃ data, encodeNpdu npdu = .ok data) ∧ npdu.carried = npdu := by
    rw [bind_eq_ok]
    constructor
    · rintro ⟨data, encodes, decodes⟩
      rw [decodeNpdu_encodeNpdu encodes] at decodes
      exact ⟨⟨data, encodes⟩, Except.ok.inj decodes⟩
    · rintro ⟨⟨data, encodes⟩, same⟩
      exact ⟨data, encodes, same ▸ decodeNpdu_encodeNpdu encodes⟩
  rw [carried, encodeNpdu_ok_iff, encodeDestination_ok_iff, encodeSource_ok_iff,
    encodeHopCount_ok_iff, encodePayload_ok_iff, carried_eq_iff]
  constructor
  · rintro ⟨⟨destination, source, hops, type⟩, unused, payload⟩
    refine ⟨destination, source, ?_, ?_⟩
    · split
      · next present => exact hops present
      · next absent => exact unused (by simpa using absent)
    · split
      · next network =>
          rw [if_pos network] at payload
          obtain ⟨number, known, small, vendorFits⟩ := type network
          refine ⟨⟨number, known, small, ?_⟩, payload.2⟩
          have vendor := payload.1
          rw [Option.mem_def.mp known, Option.getD_some] at vendor
          split
          · next standard => rw [vendor, if_neg (by omega)]
          · next proprietary =>
              rw [if_pos (by omega)] at vendor
              exact ⟨npdu.vendorId.getD 0, vendor, vendorFits (by omega)⟩
      · next apdu => rwa [if_neg apdu] at payload
  · rintro ⟨destination, source, hops, payload⟩
    refine ⟨⟨destination, source, fun present => by rwa [if_pos present] at hops, ?_⟩,
      fun absent => by rwa [absent, if_neg (by simp)] at hops, ?_⟩
    · intro network
      rw [if_pos network] at payload
      obtain ⟨⟨number, known, small, vendor⟩, _⟩ := payload
      refine ⟨number, known, small, fun proprietary => ?_⟩
      rw [if_neg (by omega)] at vendor
      obtain ⟨identifier, given, fits⟩ := vendor
      rwa [Option.mem_def.mp given]
    · split
      · next network =>
          rw [if_pos network] at payload
          obtain ⟨⟨number, known, small, vendor⟩, empty⟩ := payload
          rw [Option.mem_def.mp known, Option.getD_some]
          refine ⟨?_, empty⟩
          split at vendor
          · next standard => rw [vendor, if_neg (by omega)]
          · next proprietary =>
              obtain ⟨identifier, given, fits⟩ := vendor
              rw [if_pos (by omega), Option.mem_def.mp given, Option.getD_some]
      · next apdu => rwa [if_neg apdu] at payload

-- From octets to values and back

/-- The network number, the length and the address in front of an offset are what would be packed
there.
-/
theorem packAddress_read {offset length} (present : offset + 3 + length.toNat ≤ data.length)
    (lengthRead : octetAt data (offset + 2) = .ok length)
    : ∃ octets, packAddress (fromBytes (slice data offset (offset + 2)))
          (slice data (offset + 3) (offset + 3 + length.toNat)) = .ok octets
        ∧ data.drop offset = octets ++ data.drop (offset + 3 + length.toNat) := by
  have short := length.toNat_lt
  have macSize := length_slice present
  obtain ⟨fits, number⟩ := twoOctets_read (show offset + 2 ≤ data.length by omega)
  refine ⟨_, packAddress_eq_ok.mpr ⟨fits, by omega, rfl⟩, ?_⟩
  rw [number, macSize, UInt8.ofNat_toNat, drop_eq_slice_append (Nat.le_add_right offset 2),
    drop_eq_cons lengthRead,
    drop_eq_slice_append (Nat.le_add_right (offset + 3) length.toNat)]
  simp only [List.append_assoc, List.cons_append, List.nil_append]

theorem decodeDestination_read {offset next address}
    (decoded : decodeDestination data offset = .ok (address, next))
    : ∃ octets, (checkDestination (some address) >>= encodeAddress) = .ok octets
        ∧ data.drop offset = octets ++ data.drop next := by
  unfold decodeDestination at decoded
  split at decoded
  · cases decoded
  · next header =>
      obtain ⟨length, lengthRead, later⟩ := bind_eq_ok.mp decoded
      dsimp only at later
      split at later
      · cases later
      · next complete =>
          obtain ⟨destination, made, same⟩ := bind_eq_ok.mp later
          obtain ⟨rfl, rfl⟩ := Prod.mk.inj (Except.ok.inj same)
          obtain ⟨known, mac⟩ := BACnetAddress.make_eq_ok.mp made
          have present : offset + 3 + length.toNat ≤ data.length := by omega
          obtain ⟨octets, packed, split⟩ := packAddress_read present lengthRead
          refine ⟨octets, ?_, split⟩
          simp only [checkDestination, known, mac, bind, Except.bind, encodeAddress, packed]

theorem decodeSource_read {offset next address}
    (decoded : decodeSource data offset = .ok (address, next))
    : ∃ octets, (checkSource (some address) >>= encodeAddress) = .ok octets
        ∧ data.drop offset = octets ++ data.drop next := by
  unfold decodeSource at decoded
  split at decoded
  · cases decoded
  · next header =>
      dsimp only at decoded
      split at decoded
      · cases decoded
      · next notGlobal =>
          split at decoded
          · cases decoded
          · next notZero =>
              obtain ⟨length, lengthRead, later⟩ := bind_eq_ok.mp decoded
              split at later
              · cases later
              · next someMac =>
                  split at later
                  · cases later
                  · next complete =>
                      obtain ⟨source, made, same⟩ := bind_eq_ok.mp later
                      obtain ⟨rfl, rfl⟩ := Prod.mk.inj (Except.ok.inj same)
                      obtain ⟨known, mac⟩ := BACnetAddress.make_eq_ok.mp made
                      have present : offset + 3 + length.toNat ≤ data.length := by omega
                      obtain ⟨octets, packed, split⟩ := packAddress_read present lengthRead
                      have positive : length.toNat ≠ 0 := by
                        intro zero
                        exact someMac (UInt8.toNat_inj.mp (by simpa using zero))
                      have nonempty : source.macAddress ≠ [] := by
                        rw [mac, ← List.length_pos_iff]
                        simp [slice]
                        omega
                      refine ⟨octets, ?_, split⟩
                      rw [← mac] at packed
                      simp only [checkSource, known, notGlobal, notZero, nonempty, bind,
                        Except.bind, encodeAddress, packed, List.isEmpty_iff, if_false]

theorem decodeHopCount_read {offset next hopCount}
    (decoded : decodeHopCount data offset = .ok (hopCount, next))
    : ∃ octets, encodeHopCount true hopCount = .ok octets
        ∧ data.drop offset = octets ++ data.drop next := by
  unfold decodeHopCount at decoded
  split at decoded
  · cases decoded
  · obtain ⟨hops, read, same⟩ := bind_eq_ok.mp decoded
    obtain ⟨rfl, rfl⟩ := Prod.mk.inj (Except.ok.inj same)
    refine ⟨[hops], ?_, drop_eq_cons read⟩
    simp [encodeHopCount, octet_ok hops.toNat_lt, Functor.map, Except.map]

theorem decodeMessage_read {offset messageType vendorId message}
    (decoded : decodeMessage data offset = .ok (messageType, vendorId, message))
    (fields : npdu.vendorId = vendorId ∧ npdu.networkMessageData = message)
    : encodePayload npdu (some messageType) = .ok (data.drop offset) := by
  obtain ⟨vendorField, messageField⟩ := fields
  unfold decodeMessage at decoded
  split at decoded
  · cases decoded
  · next present =>
      obtain ⟨type, read, later⟩ := bind_eq_ok.mp decoded
      have small := type.toNat_lt
      dsimp only at later
      split at later
      · next standard =>
          obtain ⟨rfl, rfl, rfl⟩ := by simpa using later
          simp [encodePayload, octet_ok small, encodeVendorId, standard, messageField, bind,
            Except.bind, drop_eq_cons read]
      · next proprietary =>
          split at later
          · cases later
          · next enough =>
              obtain ⟨rfl, rfl, rfl⟩ := by simpa using later
              obtain ⟨fits, vendor⟩ :=
                twoOctets_read (show offset + 1 + 2 ≤ data.length by omega)
              have inRange : ¬ 0xFFFF < fromBytes (slice data (offset + 1) (offset + 1 + 2)) := by
                omega
              have split : data.drop (offset + 1)
                  = slice data (offset + 1) (offset + 1 + 2) ++ data.drop (offset + 1 + 2) :=
                drop_eq_slice_append (Nat.le_add_right (offset + 1) 2)
              simp [encodePayload, octet_ok small, encodeVendorId, proprietary, vendorField,
                messageField, inRange, vendor, bind, Except.bind, drop_eq_cons read, split]

/-- A control octet whose reserved bits are zero is the encoding of its fields. -/
theorem Control.encode_decode {octet} (reserved : octet &&& 0x50 = 0)
    : (Control.decode octet).encode = octet := by
  revert reserved
  obtain ⟨bits⟩ := octet
  revert bits
  decide +kernel

theorem decodeIf_read {Part : Type} {present decode}
    (encode : Option Part → Except PyException Bytes) {part offset next}
    (absent : encode none = .ok [])
    (read : ∀ {item next}, decode data offset = .ok (item, next)
      → ∃ octets, encode (some item) = .ok octets ∧ data.drop offset = octets ++ data.drop next)
    (decoded : decodeIf present decode data offset = .ok (part, next))
    : part.isSome = present
      ∧ ∃ octets, encode part = .ok octets ∧ data.drop offset = octets ++ data.drop next := by
  cases present with
  | false =>
    obtain ⟨rfl, rfl⟩ := Prod.mk.inj (Except.ok.inj decoded)
    exact ⟨rfl, [], absent, rfl⟩
  | true =>
    obtain ⟨⟨item, after⟩, here, same⟩ := bind_eq_ok.mp decoded
    obtain ⟨rfl, rfl⟩ := Prod.mk.inj (Except.ok.inj same)
    exact ⟨rfl, read here⟩

/-- Octets that are accepted are put together of the encoded parts of their NPDU, but for the control
octet, of which the reserved bits are not read.
-/
theorem decodeNpdu_parts (decodes : decodeNpdu data = .ok npdu)
    : ∃ octet destination source hops payload,
        data[1]? = some octet ∧ npdu.control = Control.decode octet
        ∧ (checkDestination npdu.destination >>= encodeAddress) = .ok destination
        ∧ (checkSource npdu.source >>= encodeAddress) = .ok source
        ∧ encodeHopCount npdu.destination.isSome npdu.hopCount = .ok hops
        ∧ (checkMessageType npdu >>= encodePayload npdu) = .ok payload
        ∧ data = 0x01 :: octet :: (destination ++ (source ++ (hops ++ payload))) := by
  unfold decodeNpdu at decodes
  split at decodes
  · cases decodes
  · obtain ⟨version, versionRead, later⟩ := bind_eq_ok.mp decodes
    split at later
    · cases later
    · next current =>
        rw [not_not] at current
        obtain ⟨octet, octetRead, later⟩ := bind_eq_ok.mp later
        obtain ⟨⟨destination, afterDest⟩, destRead, later⟩ := bind_eq_ok.mp later
        obtain ⟨⟨source, afterSrc⟩, srcRead, later⟩ := bind_eq_ok.mp later
        obtain ⟨⟨hops, afterHops⟩, hopsRead, later⟩ := bind_eq_ok.mp later
        dsimp only at destRead srcRead hopsRead later
        have found : data[1]? = some octet := by
          unfold octetAt at octetRead
          split at octetRead
          · next found => exact (Except.ok.inj octetRead) ▸ found
          · cases octetRead
        obtain ⟨destPresent, destOctets, destEncoded, destSplit⟩ :=
          decodeIf_read (fun part => checkDestination part >>= encodeAddress) rfl
            decodeDestination_read destRead
        obtain ⟨srcPresent, srcOctets, srcEncoded, srcSplit⟩ :=
          decodeIf_read (fun part => checkSource part >>= encodeAddress) rfl
            decodeSource_read srcRead
        obtain ⟨hopsPresent, hopsOctets, hopsEncoded, hopsSplit⟩ :=
          decodeIf_read (fun part => encodeHopCount part.isSome (part.getD 255)) rfl
            decodeHopCount_read hopsRead
        have whole : data = 0x01 :: octet
            :: (destOctets ++ (srcOctets ++ (hopsOctets ++ data.drop afterHops))) := by
          have start := drop_eq_cons versionRead
          rw [List.drop_zero, drop_eq_cons octetRead, destSplit, srcSplit, hopsSplit,
            current] at start
          exact start
        rw [hopsPresent, ← destPresent] at hopsEncoded
        split at later
        · next network =>
            obtain ⟨⟨messageType, vendorId, message⟩, messageRead, same⟩ := bind_eq_ok.mp later
            cases same
            refine ⟨octet, destOctets, srcOctets, hopsOctets, data.drop afterHops, found, ?_,
              destEncoded, srcEncoded, hopsEncoded, ?_, whole⟩
            · simp [NPDU.control, destPresent, srcPresent]
            · simp only [checkMessageType, network, if_true, bind, Except.bind]
              exact decodeMessage_read messageRead ⟨rfl, rfl⟩
        · next apdu =>
            cases later
            refine ⟨octet, destOctets, srcOctets, hopsOctets, data.drop afterHops, found, ?_,
              destEncoded, srcEncoded, hopsEncoded, ?_, whole⟩
            · simp [NPDU.control, destPresent, srcPresent]
            · simp only [checkMessageType, apdu, bind, Except.bind]
              rfl

/-- Octets that are accepted, with the reserved bits zero, are the encoding of their NPDU. -/
theorem encodeNpdu_decodeNpdu (decodes : decodeNpdu data = .ok npdu)
    (reserved : ∀ control ∈ data[1]?, control &&& 0x50 = 0)
    : encodeNpdu npdu = .ok data := by
  obtain ⟨octet, destination, source, hops, payload, found, control, dest, src, hopCount, message,
    whole⟩ := decodeNpdu_parts decodes
  rw [encodeNpdu_parts dest src hopCount message, control,
    Control.encode_decode (reserved octet found), ← whole]

/-- Well-formed NPDUs come back as they were, and accepted octets without reserved bits are
encoded to themselves.
-/
theorem npdu_codec
    : (∀ npdu : NPDU, npdu.WellFormed → (encodeNpdu npdu >>= decodeNpdu) = .ok npdu)
      ∧ ∀ (data : Bytes) (npdu : NPDU), decodeNpdu data = .ok npdu
        → (∀ control ∈ data[1]?, control &&& 0x50 = 0)
        → encodeNpdu npdu = .ok data :=
  ⟨fun _ valid => roundTrip_iff.mpr valid,
    fun _ _ decodes reserved => encodeNpdu_decodeNpdu decodes reserved⟩

/-- A broadcast of a proprietary message to network 5, both ways. -/
theorem npdu_codec_proprietary
    : (encodeNpdu {
        isNetworkMessage := true, destination := some { network := some 5 }, hopCount := 254
        messageType := some 0x80, vendorId := some 555, networkMessageData := [1, 2]
      } >>= decodeNpdu)
      = .ok {
        isNetworkMessage := true, destination := some { network := some 5 }, hopCount := 254
        messageType := some 0x80, vendorId := some 555, networkMessageData := [1, 2] }
      ∧ encodeNpdu { destination := some { network := some 5 }, hopCount := 254, apdu := [7] }
        = .ok [0x01, 0x20, 0, 5, 0, 254, 7] := by
  refine ⟨npdu_codec.1 _ ?_, npdu_codec.2 _ _ rfl (by decide +kernel)⟩
  constructor
  · simp [ValidDestination]
  · simp
  · decide
  · simp [ValidMessage]

end BacPy
