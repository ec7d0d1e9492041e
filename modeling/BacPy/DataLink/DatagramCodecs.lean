import BacPy.DataLink.Bvll6

/-! The datagrams of BACnet/IP and BACnet/IPv6 are read as they were written, whatever the octets
are that follow them.
-/

namespace BacPy

variable {data : Bytes}

-- Trailing octets

/-- A part of the octets is the same part of more octets. -/
theorem slice_of_append {stop} (inside : stop ≤ data.length) (start : Nat) (trailing : Bytes)
    : slice (data ++ trailing) start stop = slice data start stop := by
  unfold slice
  by_cases ordered : start ≤ stop
  · have before : start ≤ data.length := Nat.le_trans ordered inside
    rw [List.drop_append_of_le_length before, List.take_append_of_le_length]
    rw [List.length_drop]
    omega
  · have nothing : stop - start = 0 := by omega
    rw [nothing, List.take_zero, List.take_zero]

/-- A message is read from the octets of its declared length, and no others. -/
theorem decodeBvll_append {msg} (decoded : decodeBvll data = .ok msg) (trailing : Bytes)
    : decodeBvll (data ++ trailing) = .ok msg := by
  unfold decodeBvll at decoded
  split at decoded
  · next type code first second rest =>
      split at decoded
      · cases decoded
      · next known =>
          split at decoded
          · cases decoded
          · next function found =>
              dsimp only at decoded
              split at decoded
              · cases decoded
              · next fits =>
                  simp only [not_or, Nat.not_lt] at fits
                  obtain ⟨header, inside⟩ := fits
                  have length : ¬ (fromBytes [first, second] < 4
                      ∨ (type :: code :: first :: second :: rest ++ trailing).length
                        < fromBytes [first, second]) := by
                    rw [List.length_append]
                    omega
                  unfold decodeBvll
                  simp only [List.cons_append] at length ⊢
                  rw [if_neg known]
                  simp only [found]
                  rw [if_neg length]
                  split at decoded
                  · next forwarded =>
                      split at decoded
                      · cases decoded
                      · next whole =>
                          have address := slice_of_append
                            (Nat.le_trans (Nat.not_lt.mp whole) inside) 4 trailing
                          have contents := slice_of_append inside 10 trailing
                          simp only [List.cons_append] at address contents
                          rw [if_pos forwarded, if_neg whole, address, contents, ← decoded]
                  · next other =>
                      have contents := slice_of_append inside 4 trailing
                      simp only [List.cons_append] at contents
                      rw [if_neg other, contents, ← decoded]
  · cases decoded

theorem decodeVmac_append {length} (inside : length ≤ data.length) (present : Bool) (offset : Nat)
    (trailing : Bytes) (text : String)
    : decodeVmac present (data ++ trailing) offset length text
      = decodeVmac present data offset length text := by
  unfold decodeVmac
  split
  · split
    · rfl
    · next whole => rw [slice_of_append (by omega)]
  · rfl

theorem decodeOriginatingAddress_append {length} (inside : length ≤ data.length)
    (function : Bvlc6Function) (offset : Nat) (trailing : Bytes)
    : decodeOriginatingAddress function (data ++ trailing) offset length
      = decodeOriginatingAddress function data offset length := by
  unfold decodeOriginatingAddress
  split
  · split
    · rfl
    · next whole => rw [slice_of_append (by omega)]
  · rfl

theorem decodeFields_append {length} (inside : length ≤ data.length) (function : Bvlc6Function)
    (trailing : Bytes)
    : decodeFields function (data ++ trailing) length = decodeFields function data length := by
  unfold decodeFields
  simp only [decodeVmac_append inside, decodeOriginatingAddress_append inside,
    slice_of_append inside]

/-- A message of BACnet/IPv6 is read from the octets of its declared length, and no others. -/
theorem decodeBvll6_append {msg} (decoded : decodeBvll6 data = .ok msg) (trailing : Bytes)
    : decodeBvll6 (data ++ trailing) = .ok msg := by
  unfold decodeBvll6 at decoded
  split at decoded
  · next type code first second rest =>
      split at decoded
      · cases decoded
      · next known =>
          split at decoded
          · cases decoded
          · next function found =>
              dsimp only at decoded
              split at decoded
              · cases decoded
              · next fits =>
                  simp only [not_or, Nat.not_lt] at fits
                  obtain ⟨header, inside⟩ := fits
                  have length : ¬ (fromBytes [first, second] < 4
                      ∨ (type :: code :: first :: second :: rest ++ trailing).length
                        < fromBytes [first, second]) := by
                    rw [List.length_append]
                    omega
                  have fields := decodeFields_append inside function trailing
                  unfold decodeBvll6
                  simp only [List.cons_append] at length fields ⊢
                  rw [if_neg known]
                  simp only [found]
                  rw [if_neg length, fields, decoded]
  · cases decoded

-- Round trips

/-- A message has an originating address if its function has one, and its length fits its field. -/
structure BvllMessage.WellFormed (msg : BvllMessage) : Prop where
  originatingAddress : msg.originatingAddress.isSome = decide (msg.function = .forwardedNpdu)
  fits : 4 + (if msg.function = .forwardedNpdu then 6 else 0) + msg.data.length ≤ 65535

/-- A message has the fields of its function, and its length fits its field. -/
structure Bvll6Message.WellFormed (msg : Bvll6Message) : Prop where
  sourceVmac : msg.sourceVmac.isSome = msg.function.hasSourceVmac
  destVmac : msg.destVmac.isSome = msg.function.hasDestVmac
  originatingAddress : msg.originatingAddress.isSome = msg.function.hasOriginatingAddress
  vmacs : (∀ vmac ∈ msg.sourceVmac, vmac.length = 3) ∧ ∀ vmac ∈ msg.destVmac, vmac.length = 3
  fits : 4 + (if msg.function.hasSourceVmac then 3 else 0) + (if msg.function.hasDestVmac then 3 else 0)
    + (if msg.function.hasOriginatingAddress then 18 else 0) + msg.data.length ≤ 65535

/-- `encode_bvll` of the parts of a message. -/
def BvllMessage.encode (msg : BvllMessage) : Except PyException Bytes :=
  encodeBvll msg.function msg.data msg.originatingAddress

/-- `encode_bvll6` of the parts of a message. -/
def Bvll6Message.encode (msg : Bvll6Message) : Except PyException Bytes :=
  encodeBvll6 msg.function msg.data msg.sourceVmac msg.destVmac msg.originatingAddress

theorem BvllMessage.encode_decodes {msg} (valid : msg.WellFormed)
    : ∃ encoded, msg.encode = .ok encoded ∧ decodeBvll encoded = .ok msg := by
  obtain ⟨function, data, originatingAddress⟩ := msg
  obtain ⟨origin, fits⟩ := valid
  dsimp only at origin fits
  by_cases forwarded : function = .forwardedNpdu
  · subst forwarded
    cases originatingAddress with
    | none => cases origin
    | some address =>
      have room : data.length ≤ 65525 := by
        rw [if_pos rfl] at fits
        omega
      obtain ⟨encoded, encodes⟩ := (@encodeBvll_forwarded_ok data address).mpr room
      exact ⟨encoded, encodes, decodeBvll_forwarded encodes⟩
  · rw [if_neg forwarded] at fits
    cases originatingAddress with
    | some address =>
      rw [decide_eq_false forwarded] at origin
      cases origin
    | none =>
      have encodes : encodeBvll function data none
          = .ok (0x81 :: function.toOctet :: (toBytes (4 + data.length) 2 ++ data)) := by
        unfold encodeBvll
        rw [if_neg forwarded, packLength_ok (Nat.lt_succ_of_le fits)]
        rfl
      exact ⟨_, encodes, decodeBvll_other forwarded encodes⟩

theorem encodeVmac_given {present vmac} (text : String) (given : vmac.isSome = present)
    (three : ∀ octets ∈ vmac, octets.length = 3)
    : ∃ part, encodeVmac present vmac text = .ok part
        ∧ part.length = if present then 3 else 0 := by
  cases vmac with
  | none =>
    obtain rfl := given
    exact ⟨[], rfl, rfl⟩
  | some octets =>
    obtain rfl := given
    have size := three octets rfl
    exact ⟨octets, encodeVmac_ok_iff.mpr ⟨size, rfl⟩, size⟩

theorem encodeOriginatingAddress_given {function address}
    (given : address.isSome = function.hasOriginatingAddress)
    : ∃ part, encodeOriginatingAddress function address = .ok part
        ∧ part.length = if function.hasOriginatingAddress then 18 else 0 := by
  unfold encodeOriginatingAddress
  rw [← given]
  cases address with
  | none => exact ⟨[], rfl, rfl⟩
  | some address => exact ⟨address.encode, rfl, address.length_encode⟩

/-- What is read is the message itself, if it has the fields of its function and no others. -/
theorem readMessage_of_given {msg} (valid : msg.WellFormed)
    : readMessage msg.function msg.data msg.sourceVmac msg.destVmac msg.originatingAddress = msg := by
  have kept {Field : Type} {field : Option Field} {present : Bool} (given : field.isSome = present)
      : (if present then field else none) = field := by
    cases field with
    | none => exact ite_self none
    | some value =>
      obtain rfl := given
      rfl
  rw [readMessage, kept valid.sourceVmac, kept valid.destVmac, kept valid.originatingAddress]

/-- A well-formed message of BACnet/IPv6 can be encoded, and is read from what it is encoded to. -/
theorem Bvll6Message.encode_decodes {msg} (valid : msg.WellFormed)
    : ∃ encoded, msg.encode = .ok encoded ∧ decodeBvll6 encoded = .ok msg := by
  obtain ⟨source, sourceEncodes, sourceLength⟩ := encodeVmac_given
    s!"{msg.function.name} requires a 3-byte source VMAC" valid.sourceVmac valid.vmacs.1
  obtain ⟨dest, destEncodes, destLength⟩ := encodeVmac_given
    s!"{msg.function.name} requires a 3-byte destination VMAC" valid.destVmac valid.vmacs.2
  obtain ⟨origin, originEncodes, originLength⟩ := encodeOriginatingAddress_given
    valid.originatingAddress
  have total : 4 + (source ++ (dest ++ (origin ++ msg.data))).length ≤ 65535 := by
    have fits := valid.fits
    rw [← sourceLength, ← destLength, ← originLength] at fits
    simp only [List.length_append]
    omega
  have encodes : ∃ encoded, msg.encode = .ok encoded := by
    refine ⟨_, bind_eq_ok.mpr ⟨source, sourceEncodes, bind_eq_ok.mpr ⟨dest, destEncodes,
      bind_eq_ok.mpr ⟨origin, originEncodes, bind_eq_ok.mpr ⟨_, packLength_ok (Nat.lt_succ_of_le total), rfl⟩⟩⟩⟩⟩
  obtain ⟨encoded, encodes⟩ := encodes
  refine ⟨encoded, encodes, ?_⟩
  rw [decodeBvll6_encoded encodes, readMessage_of_given valid]

/-- In both versions, a message that has the fields of its function, and whose length fits its field,
is encoded and read back as it was, whatever octets follow it.
-/
theorem datagrams_read_back
    : (∀ msg : BvllMessage, msg.WellFormed → ∃ encoded, msg.encode = .ok encoded
        ∧ ∀ trailing, decodeBvll (encoded ++ trailing) = .ok msg)
      ∧ ∀ msg : Bvll6Message, msg.WellFormed → ∃ encoded, msg.encode = .ok encoded
        ∧ ∀ trailing, decodeBvll6 (encoded ++ trailing) = .ok msg := by
  constructor
  · intro msg valid
    obtain ⟨encoded, encodes, decodes⟩ := msg.encode_decodes valid
    exact ⟨encoded, encodes, fun trailing => decodeBvll_append decodes trailing⟩
  · intro msg valid
    obtain ⟨encoded, encodes, decodes⟩ := msg.encode_decodes valid
    exact ⟨encoded, encodes, fun trailing => decodeBvll6_append decodes trailing⟩

/-- An Address-Resolution-ACK with two octets behind it. -/
theorem datagrams_read_back_ack
    : decodeBvll6 ([0x82, 5, 0, 10, 1, 2, 3, 4, 5, 6] ++ [7, 7])
      = .ok {
        function := .addressResolutionAck, data := []
        sourceVmac := some [1, 2, 3], destVmac := some [4, 5, 6]
      } := by
  let msg : Bvll6Message := {
    function := .addressResolutionAck, data := []
    sourceVmac := some [1, 2, 3], destVmac := some [4, 5, 6] }
  obtain ⟨encoded, encodes, decodes⟩ :=
    datagrams_read_back.2 msg ⟨rfl, rfl, rfl, by decide, by decide⟩
  have octets : msg.encode = .ok [0x82, 5, 0, 10, 1, 2, 3, 4, 5, 6] := by decide
  cases encodes.symm.trans octets
  exact decodes [7, 7]

end BacPy
