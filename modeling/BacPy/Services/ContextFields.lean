import BacPy.Encoding.NestedValues
import BacPy.Encoding.Reencoding

/-! Context-tagged service parameters, and the COV notification that is built of them. -/

namespace BacPy

def maxDecodedItems : Nat := 10000

def encodeContextTagged (tagNumber : Nat) (data : Bytes) : Except PyException Bytes := do
  let header ← encodeTag tagNumber .context data.length
  .ok (header ++ data)

/-- `encode_context_tagged` of an unsigned number. -/
def encodeContextUnsigned (tagNumber : Nat) (value : Int) : Except PyException Bytes := do
  let data ← encodeUnsignedInt value
  encodeContextTagged tagNumber data

def encodeContextObjectId (tagNumber : Nat) (identifier : ObjectIdentifier)
    : Except PyException Bytes :=
  encodeContextTagged tagNumber identifier.encode

def encodeContextOptional (tagNumber : Nat) : Option Nat → Except PyException Bytes
  | none => .ok []
  | some value => encodeContextUnsigned tagNumber value

theorem encodeContextTagged_ok_iff {number} (inRange : number ≤ 254) {data}
    : (∃ octets, encodeContextTagged number data = .ok octets) ↔ data.length < 256 ^ 4 := by
  rw [encodeContextTagged, bind_const_ok_iff fun header => returned_ok_iff _,
    encodeTag_ok_iff inRange, and_true]

/-- A number is encoded behind a context tag if it fits in four octets. -/
theorem encodeContextUnsigned_ok_iff {number : Nat} (inRange : number ≤ 254) {value : Nat}
    : (∃ octets, encodeContextUnsigned number value = .ok octets) ↔ value ≤ 0xFFFFFFFF := by
  have natural : encodeUnsignedInt value = encodeUnsigned value := by
    rw [encodeUnsignedInt, if_neg (by omega), Int.toNat_natCast]
  unfold encodeContextUnsigned
  rw [natural, ← encodeUnsigned_ok_iff]
  constructor
  · rintro ⟨octets, encoded⟩
    obtain ⟨data, here, _⟩ := bind_eq_ok.mp encoded
    exact ⟨data, here⟩
  · rintro ⟨data, here⟩
    have short : data.length < 256 ^ 4 := by
      have := length_encodeUnsigned here
      omega
    obtain ⟨octets, encoded⟩ := (encodeContextTagged_ok_iff inRange).mpr short
    exact ⟨octets, bind_eq_ok.mpr ⟨data, here, encoded⟩⟩

/-- `BACnetPropertyValue`, its value as raw application-tagged octets. -/
structure BACnetPropertyValue where
  propertyIdentifier : PropertyIdentifier
  propertyArrayIndex : Option Nat := none
  value : Bytes := []
  priority : Option Nat := none
  deriving DecidableEq

def BACnetPropertyValue.encode (pv : BACnetPropertyValue) : Except PyException Bytes := do
  let identifier ← encodeContextUnsigned 0 pv.propertyIdentifier.number
  let arrayIndex ← encodeContextOptional 1 pv.propertyArrayIndex
  let priority ← encodeContextOptional 3 pv.priority
  .ok (identifier ++ arrayIndex ++ encodeOpeningTag 2 ++ pv.value ++ encodeClosingTag 2 ++ priority)

structure COVNotificationRequest where
  subscriberProcessIdentifier : Nat
  initiatingDeviceIdentifier : ObjectIdentifier
  monitoredObjectIdentifier : ObjectIdentifier
  timeRemaining : Int
  listOfValues : List BACnetPropertyValue

def COVNotificationRequest.encode (request : COVNotificationRequest)
    : Except PyException Bytes := do
  let process ← encodeContextUnsigned 0 request.subscriberProcessIdentifier
  let device ← encodeContextObjectId 1 request.initiatingDeviceIdentifier
  let monitored ← encodeContextObjectId 2 request.monitoredObjectIdentifier
  let timeRemaining ← encodeContextUnsigned 3 request.timeRemaining
  let values ← request.listOfValues.mapM BACnetPropertyValue.encode
  .ok (process ++ device ++ monitored ++ timeRemaining ++ encodeOpeningTag 4 ++ values.flatten
    ++ encodeClosingTag 4)

end BacPy

/-! Context-tagged fields of services and constructed types: what is written for them, and that it is
read back wherever it stands.
-/

namespace BacPy

open Library

-- Encoders and decoders

def encodeOptional {Field : Type} (encode : Field → Except PyException Bytes)
    : Option Field → Except PyException Bytes
  | none => .ok []
  | some value => encode value

def encodeContextEnumerated (tagNumber value : Nat) : Except PyException Bytes := do
  let data ← encodeEnumerated value
  encodeContextTagged tagNumber data

/-- Octets between an opening and a closing tag. -/
def enclose (tagNumber : Nat) (inner : Bytes) : Bytes :=
  encodeOpeningTag tagNumber ++ (inner ++ encodeClosingTag tagNumber)

def decodeElement (data : Bytes) (offset : Nat) : Except PyException (Tag × Bytes × Nat) := do
  let (tag, offset) ← decodeTag data offset
  .ok (tag, slice data offset (offset + tag.length), offset + tag.length)

-- What is read back

def IsField (number : Nat) (content chunk : Bytes) : Prop :=
  ∃ header, TagHeader header { number, cls := .context, length := content.length }
    ∧ chunk = header ++ content

theorem isField_of_tagged {number content chunk}
    (encoded : encodeContextTagged number content = .ok chunk) (sane : content.length ≤ 1048576)
    : IsField number content chunk := by
  obtain ⟨header, tagged, same⟩ := bind_eq_ok.mp encoded
  exact ⟨header, encodeTag_header tagged sane, (Except.ok.inj same).symm⟩

theorem isField_of_unsigned {number value : Nat} {chunk : Bytes}
    (encoded : encodeContextUnsigned number value = .ok chunk)
    : ∃ content, IsField number content chunk ∧ decodeUnsigned content = value := by
  obtain ⟨content, unsigned, tagged⟩ := bind_eq_ok.mp encoded
  rw [encodeUnsignedInt_natCast] at unsigned
  have short := length_encodeUnsigned unsigned
  obtain ⟨_, rfl⟩ := encodeUnsigned_eq_ok.mp unsigned
  exact ⟨_, isField_of_tagged tagged (by omega), fromBytes_toBytes (lt_unsignedSize value)⟩

theorem isField_of_enumerated {number value chunk}
    (encoded : encodeContextEnumerated number value = .ok chunk)
    : ∃ content, IsField number content chunk ∧ decodeUnsigned content = value := by
  obtain ⟨content, unsigned, tagged⟩ := bind_eq_ok.mp encoded
  have short := length_encodeUnsigned unsigned
  obtain ⟨_, rfl⟩ := encodeUnsigned_eq_ok.mp unsigned
  exact ⟨_, isField_of_tagged tagged (by omega), fromBytes_toBytes (lt_unsignedSize value)⟩

theorem isField_of_objectId {number identifier chunk}
    (encoded : encodeContextObjectId number identifier = .ok chunk)
    : IsField number identifier.encode chunk :=
  isField_of_tagged encoded (by rw [ObjectIdentifier.encode, length_toBytes]; omega)

section Elements

variable {data chunk rest : Bytes} {offset : Nat}

theorem decodeElement_field {number content} (field : IsField number content chunk)
    (here : data.drop offset = chunk ++ rest)
    : decodeElement data offset
      = .ok ({ number, cls := .context, length := content.length }, content,
          offset + chunk.length) := by
  obtain ⟨header, reads, rfl⟩ := field
  rw [List.append_assoc] at here
  have value := slice_here (drop_behind here)
  simp only [decodeElement, reads.decoded here, bind, Except.bind, value]
  rw [List.length_append, Nat.add_assoc]

/-- A tag of an element is in front of its end. -/
theorem decodeElement_forward {tag content later}
    (read : decodeElement data offset = .ok (tag, content, later))
    : offset < later := by
  obtain ⟨⟨tag, newOffset⟩, decoded, same⟩ := bind_eq_ok.mp read
  obtain ⟨header, reads, rfl, _⟩ := decodeTag_read decoded
  have moved := reads.length_pos
  simp only [Except.ok.injEq, Prod.mk.injEq] at same
  omega

theorem decodeTag_forward {tag later} (read : decodeTag data offset = .ok (tag, later))
    : offset < later := by
  obtain ⟨header, reads, rfl, _⟩ := decodeTag_read read
  have moved := reads.length_pos
  omega

end Elements

-- What can be encoded

theorem encodeContextObjectId_ok {number} (inRange : number ≤ 254) (identifier)
    : ∃ octets, encodeContextObjectId number identifier = .ok octets :=
  (encodeContextTagged_ok_iff inRange).mpr (by rw [ObjectIdentifier.encode, length_toBytes]; omega)

theorem encodeContextEnumerated_ok {number value} (inRange : number ≤ 254)
    (small : value ≤ 0xFFFFFFFF)
    : ∃ octets, encodeContextEnumerated number value = .ok octets := by
  obtain ⟨data, encoded⟩ := encodeUnsigned_ok_iff.mpr small
  have short := length_encodeUnsigned encoded
  obtain ⟨octets, tagged⟩ := (encodeContextTagged_ok_iff inRange).mpr
    (show data.length < 256 ^ 4 by omega)
  exact ⟨octets, bind_eq_ok.mpr ⟨data, encoded, tagged⟩⟩

theorem encodeOptional_ok {Field : Type} {encoder : Field → Except PyException Bytes}
    {field : Option Field} (each : ∀ value ∈ field, ∃ octets, encoder value = .ok octets)
    : ∃ octets, encodeOptional encoder field = .ok octets := by
  cases field with
  | none => exact ⟨[], rfl⟩
  | some value => exact each value rfl

theorem encodeContextOptional_ok {number : Nat} (inRange : number ≤ 254) {field : Option Nat}
    (small : ∀ value ∈ field, value ≤ 0xFFFFFFFF)
    : ∃ octets, encodeContextOptional number field = .ok octets := by
  cases field with
  | none => exact ⟨[], rfl⟩
  | some value => exact (encodeContextUnsigned_ok_iff inRange).mpr (small value rfl)

end BacPy
