import BacPy.Encoding.ValueStreams
import BacPy.Services.PropertyLists

/-! The answers of ReadProperty, as a client decodes them, and identifiers in them. -/

namespace BacPy

open Library

namespace ReadPropertyACK

def decode : Decoder ReadPropertyACK := do
  let objectIdentifier ← .objectIdentifier
  let propertyIdentifier ← .propertyIdentifier
  let propertyArrayIndex ← .unsignedAhead fun tag =>
    tag.cls = .context ∧ tag.number = 2 ∧ tag.isOpening = false
  let _opening ← .tag
  let propertyValue ← Decoder.rawValue 3
  pure { objectIdentifier, propertyIdentifier, propertyArrayIndex, propertyValue }

theorem encode_joined (ack : ReadPropertyACK)
    : ack.encode = joined [
        encodeContextObjectId 0 ack.objectIdentifier,
        encodeContextUnsigned 1 ack.propertyIdentifier.number,
        encodeContextOptional 2 ack.propertyArrayIndex,
        .ok (encodeOpeningTag 3),
        .ok ack.propertyValue,
        .ok (encodeClosingTag 3)
      ] := by
  unfold encode
  cases encodeContextObjectId 0 ack.objectIdentifier with
  | error refusal => rfl
  | ok object =>
    cases encodeContextUnsigned 1 ack.propertyIdentifier.number with
    | error refusal => rfl
    | ok identifier =>
      cases encodeContextOptional 2 ack.propertyArrayIndex with
      | error refusal => rfl
      | ok arrayIndex => simp [joined, bind, Except.bind]

theorem carries {ack} (index : ∀ index ∈ ack.propertyArrayIndex, index ≤ 0xFFFFFFFF)
    (nested : WellNested ack.propertyValue)
    : CarriesField (Tag.IsContext 0) ack.encode decode ack := by
  rw [encode_joined]
  exact (carries_contextObjectId (by decide) ack.objectIdentifier).andThen
    ((carries_propertyIdentifier (by decide) ack.propertyIdentifier).andThen
      ((carries_unsignedAhead (by decide) index (by grind [Tag.IsContext])
          (by grind [Tag.Opens])).before
        ((carries_openingTag (show 3 ≤ 254 by decide)).andThen
          ((carries_rawValue (by decide) nested).consItems
            (show Carries (fun _ => True) (fun _ => True) (joined []) _ _ from .nil _)))))

end ReadPropertyACK

-- Identifiers

section Identifiers

variable {identifiers : List ObjectIdentifier} {octets : Bytes}

def taggedIdentifiers : List ObjectIdentifier → TaggedValues
  | [] => .nil
  | identifier :: rest => .primitive .application 12 identifier.encode (taggedIdentifiers rest)

/-- Identifiers are encoded to the tagged values that they are, by induction on them. -/
theorem encode_taggedIdentifiers (identifiers)
    : (taggedIdentifiers identifiers).WellFormed ∧ (taggedIdentifiers identifiers).levels = 0
      ∧ encodeItems (identifiers.map .objectIdentifier) false
        = raising (taggedIdentifiers identifiers).encode := by
  induction identifiers with
  | nil => exact ⟨trivial, rfl, rfl⟩
  | cons identifier rest ih =>
    obtain ⟨wellFormed, levels, encoded⟩ := ih
    have few : identifier.encode.length = 4 := by rw [ObjectIdentifier.encode, length_toBytes]
    refine ⟨⟨by decide, by omega, by decide, wellFormed⟩, levels, ?_⟩
    rw [List.map_cons, encodeItems, encoded, taggedIdentifiers, TaggedValues.encode,
      encodePropertyValue, encodeScalar, encodeApplicationTagged]
    cases encodeTag 12 .application identifier.encode.length with
    | error refusal => rfl
    | ok header =>
      cases (taggedIdentifiers rest).encode with
      | error refusal => rfl
      | ok later => simp [raising, bind, Except.bind, Except.mapError]

theorem encodeItems_singleton (value : Value) (intAsReal : Bool)
    : encodeItems [value] intAsReal = encodePropertyValue value intAsReal := by
  rw [encodeItems, encodeItems]
  cases encodePropertyValue value intAsReal with
  | error raised => rfl
  | ok octets => simp [bind, Except.bind]

/-- Identifiers can stand between the tags of a property value. -/
theorem wellNested_identifiers
    (encoded : encodeItems (identifiers.map .objectIdentifier) false = .ok octets)
    : WellNested octets := by
  obtain ⟨wellFormed, levels, same⟩ := encode_taggedIdentifiers identifiers
  rw [same, raising_eq_ok] at encoded
  exact ⟨taggedIdentifiers identifiers, wellFormed, by omega, encoded⟩

theorem decoded_identifiers [JapaneseCodec] {values}
    (encoded : encodeItems (identifiers.map .objectIdentifier) false = .ok octets)
    (decoded : decodeAllApplicationValues octets = .ok values)
    : values = identifiers.map .objectIdentifier := by
  have same : identifiers.map Value.objectIdentifier
      = (identifiers.map Scalar.objectIdentifier).map .scalar := by
    rw [List.map_map]
    rfl
  rw [same] at encoded
  obtain ⟨_, encodings⟩ := (encodeItems_eq_ok (fun value listed => by
    obtain ⟨identifier, _, rfl⟩ := List.mem_map.mp listed
    trivial)).mp encoded
  obtain ⟨_, rfl⟩ := (ApplicationValue.decodeValuesFrom_encodings [] encodings
    (Nat.lt_succ_self _)).mp decoded
  simp only [List.map_map]
  rfl

end Identifiers

end BacPy
