import BacPy.Network.NpduCodec
import BacPy.Network.Router

/-! The last hop of an NPDU: the encoder for local delivery, which puts its octets together by
itself, agrees with the general one.
-/

namespace BacPy

open Library

variable {npdu : NPDU} {data frame mac : Bytes} {network : Nat} {source : BACnetAddress}

/-- The NPDU as it is put on the network of its destination. -/
def NPDU.localCopy (npdu : NPDU) (source : BACnetAddress) : NPDU :=
  { npdu with destination := none, source := some source }

/-- What is read of such an NPDU: all but the address specifiers, and the hop count with them. -/
def NPDU.lastHop (npdu : NPDU) (source : BACnetAddress) : NPDU :=
  { npdu with destination := none, source := some source, hopCount := 255 }

-- The two encoders

/-- A source that the general encoder accepts is one that can be packed. -/
theorem checkSource_made {fields} (made : BACnetAddress.make network mac = .ok source)
    (checked : checkSource (some source) = .ok fields)
    : fields = some (network, mac) := by
  obtain ⟨known, address⟩ := BACnetAddress.make_eq_ok.mp made
  unfold checkSource at checked
  simp only [known, address] at checked
  split at checked
  · cases checked
  · split at checked
    · cases checked
    · split at checked
      · cases checked
      · exact (Except.ok.inj checked).symm

theorem encodeNpduLocalDelivery_eq (made : BACnetAddress.make network mac = .ok source)
    (general : encodeNpdu (npdu.localCopy source) = .ok data)
    : encodeNpduLocalDelivery npdu network mac = .ok data := by
  obtain ⟨dest, destChecked, later⟩ := bind_eq_ok.mp general
  obtain ⟨src, srcChecked, later⟩ := bind_eq_ok.mp later
  obtain ⟨type, typeChecked, later⟩ := bind_eq_ok.mp later
  obtain ⟨destination, destPacked, later⟩ := bind_eq_ok.mp later
  obtain ⟨packed, srcPacked, later⟩ := bind_eq_ok.mp later
  obtain ⟨hops, hopsPacked, later⟩ := bind_eq_ok.mp later
  obtain ⟨payload, payloadPacked, same⟩ := bind_eq_ok.mp later
  -- nothing is there for the destination and its hop count
  cases destChecked
  cases destPacked
  cases hopsPacked
  obtain rfl := checkSource_made made srcChecked
  have payload' : encodePayload npdu type = .ok payload := by
    rw [← payloadPacked]
    cases type with
    | none => rfl
    | some number => rfl
  have type' : checkMessageType npdu = .ok type := typeChecked
  have packed' : packAddress network mac = .ok packed := srcPacked
  rw [← same, encodeNpduLocalDelivery, type']
  simp only [bind, Except.bind, packed', payload']
  rfl

/-- What was received has no value where the format has no place for it. -/
theorem carried_of_received (decoded : decodeNpdu frame = .ok npdu) : npdu.carried = npdu := by
  unfold decodeNpdu at decoded
  split at decoded
  · cases decoded
  · obtain ⟨version, _, later⟩ := bind_eq_ok.mp decoded
    split at later
    · cases later
    · obtain ⟨octet, _, later⟩ := bind_eq_ok.mp later
      obtain ⟨⟨destination, afterDest⟩, destRead, later⟩ := bind_eq_ok.mp later
      obtain ⟨⟨source, afterSrc⟩, _, later⟩ := bind_eq_ok.mp later
      obtain ⟨⟨hops, afterHops⟩, hopsRead, later⟩ := bind_eq_ok.mp later
      dsimp only at destRead hopsRead later
      have unaddressed : destination = none → hops.getD 255 = 255 := by
        rintro rfl
        cases present : (Control.decode octet).hasDestination with
        | false =>
          rw [present] at hopsRead
          rw [← (Prod.mk.inj (Except.ok.inj hopsRead)).1]
          rfl
        | true =>
          rw [present] at destRead
          obtain ⟨_, _, same⟩ := bind_eq_ok.mp destRead
          cases same
      split at later
      · next message =>
          obtain ⟨⟨type, vendor, contents⟩, messageRead, same⟩ := bind_eq_ok.mp later
          cases same
          refine carried_eq_iff.mpr ⟨unaddressed, ?_⟩
          rw [if_pos message]
          refine ⟨?_, rfl⟩
          unfold decodeMessage at messageRead
          split at messageRead
          · cases messageRead
          · obtain ⟨number, _, rest⟩ := bind_eq_ok.mp messageRead
            dsimp only at rest
            split at rest
            · next standard =>
                obtain ⟨rfl, parts⟩ := Prod.mk.inj (Except.ok.inj rest)
                obtain ⟨rfl, _⟩ := Prod.mk.inj parts
                exact (if_neg (Nat.not_le.mpr standard)).symm
            · next proprietary =>
                split at rest
                · cases rest
                · obtain ⟨rfl, parts⟩ := Prod.mk.inj (Except.ok.inj rest)
                  obtain ⟨rfl, _⟩ := Prod.mk.inj parts
                  exact (if_pos (Nat.not_lt.mp proprietary)).symm
      · next data =>
          cases later
          refine carried_eq_iff.mpr ⟨unaddressed, ?_⟩
          rw [if_neg data]
          exact ⟨rfl, rfl, rfl⟩

/-- What was received fits the format. -/
theorem wellFormed_of_received (decoded : decodeNpdu frame = .ok npdu) : npdu.WellFormed := by
  obtain ⟨octet, destination, source, hops, payload, _, _, dest, src, hopCount, message, _⟩ :=
    decodeNpdu_parts decoded
  have encoded := encodeNpdu_parts dest src hopCount message
  refine roundTrip_iff.mp (bind_eq_ok.mpr ⟨_, encoded, ?_⟩)
  rw [decodeNpdu_encodeNpdu encoded, carried_of_received decoded]

theorem decodeNpdu_localCopy (received : decodeNpdu frame = .ok npdu)
    (general : encodeNpdu (npdu.localCopy source) = .ok data)
    : decodeNpdu data = .ok (npdu.lastHop source) := by
  have whole := carried_of_received received
  rw [decodeNpdu_encodeNpdu general]
  have carried : (npdu.localCopy source).carried = npdu.carried.lastHop source := rfl
  rw [carried, whole]

-- The router

namespace NetworkRouter

/-- The station that an NPDU is from: the one it names, or its sender on the network of the port. -/
def originOf (table : RoutingTable) (arrivalPortId : Nat) (npdu : NPDU) (sourceMac : Bytes)
    : Option (Nat × Bytes) :=
  (npdu.source.bind fun source => source.network.map (·, source.macAddress)).or
    ((table.getPort arrivalPortId).map fun port => (port.networkNumber, sourceMac))

theorem encodeDelivery_of_origin {table arrivalPortId sourceMac}
    (origin : originOf table arrivalPortId npdu sourceMac = some (network, mac))
    : encodeDelivery table arrivalPortId npdu sourceMac
      = encodeNpduLocalDelivery npdu network mac := by
  unfold originOf at origin
  unfold encodeDelivery
  cases named : npdu.source.bind fun source => source.network.map (·, source.macAddress) with
  | some station =>
    rw [named, Option.some_or] at origin
    cases origin
    rfl
  | none =>
    rw [named, Option.none_or] at origin
    obtain ⟨port, known, same⟩ := Option.map_eq_some_iff.mp origin
    obtain ⟨rfl, rfl⟩ := Prod.mk.inj same
    rw [known]

/-- The encoder for local delivery gives the octets of the general one, so that a router puts an NPDU
on its last network with other address specifiers and nothing else changed.
-/
theorem localDelivery_is_general (npdu : NPDU)
    : (∀ network mac source data, BACnetAddress.make network mac = .ok source
        → encodeNpdu (npdu.localCopy source) = .ok data
        → encodeNpduLocalDelivery npdu network mac = .ok data)
      ∧ ∀ routing arrivalPortId destPort destination frame sourceMac network mac source data,
        decodeNpdu frame = .ok npdu → npdu.destination = some destination
        → originOf routing.router.routingTable arrivalPortId npdu sourceMac = some (network, mac)
        → BACnetAddress.make network mac = .ok source
        → encodeNpdu (npdu.localCopy source) = .ok data
        → deliverToDirectlyConnected arrivalPortId npdu sourceMac destPort routing
            = (.ok (), { routing with outputs := routing.outputs ++ [.send destPort.portId
                (if destination.macAddress.isEmpty then none else some destination.macAddress)
                data] })
          ∧ decodeNpdu data = .ok (npdu.lastHop source) := by
  refine ⟨fun _ _ _ _ made general => encodeNpduLocalDelivery_eq made general, ?_⟩
  intro routing arrivalPortId destPort destination frame sourceMac network mac source data received
    addressed origin made general
  have encoded := (encodeDelivery_of_origin origin).trans (encodeNpduLocalDelivery_eq made general)
  refine ⟨?_, decodeNpdu_localCopy received general⟩
  unfold deliverToDirectlyConnected
  rw [addressed]
  change (do
    let encoded ← Stateful.lift (encodeDelivery routing.router.routingTable arrivalPortId npdu
      sourceMac)
    emit (.send destPort.portId
      (if destination.macAddress.isEmpty then none else some destination.macAddress) encoded))
      routing = _
  rw [encoded]
  rfl

/-- An urgent proprietary message for network 5, from a station of network 2. -/
theorem localDelivery_proprietary
    : encodeNpduLocalDelivery {
        isNetworkMessage := true, priority := .urgent, messageType := some 0x80
        vendorId := some 555, networkMessageData := [7]
        destination := some { network := some 5 }, hopCount := 9
      } 2 [1, 2] = .ok [0x01, 0x89, 0, 2, 2, 1, 2, 0x80, 2, 43, 7] :=
  (localDelivery_is_general _).1 2 [1, 2] { network := some 2, macAddress := [1, 2] } _ rfl
    (by decide +kernel)

end NetworkRouter

end BacPy
