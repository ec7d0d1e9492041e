import BacPy.Types.AuditRoundTrip

/-! An encoded notification is a sequence of context-tagged elements: the source, the operation, and
what follows it. This is all that the decoders of its surroundings look at.
-/

namespace BacPy

open Library

/-- A field is balanced by itself. -/
theorem IsField.plainlyNested {number content chunk} (field : IsField number content chunk)
    (levels : Option Nat)
    : PlainlyNested levels 0 chunk := by
  obtain ⟨header, reads, rfl⟩ := field
  have whole : PlainlyNested levels 0 (header ++ (content ++ [])) :=
    .primitive reads rfl rfl rfl .done
  rwa [List.append_nil] at whole

/-- A field, or balanced octets between an opening and a closing tag. -/
def Element (levels : Option Nat) (number : Nat) (chunk : Bytes) : Prop :=
  (∃ content, IsField number content chunk)
    ∨ ∃ inner, number ≤ 254 ∧ chunk = enclose number inner ∧ PlainlyNested levels 0 inner

/-- Elements whose tag numbers are in a range. -/
inductive Elements (levels : Option Nat) (low high : Nat) : Bytes → Prop
  | nil : Elements levels low high []
  | cons {number : Nat} {chunk rest : Bytes} (above : low ≤ number) (below : number < high)
      (element : Element levels number chunk) (behind : Elements levels low high rest)
      : Elements levels low high (chunk ++ rest)

section Sequences

variable {levels limit : Option Nat} {number low high : Nat} {chunk rest : Bytes}

theorem Elements.append (first : Elements levels low high chunk)
    (second : Elements levels low high rest)
    : Elements levels low high (chunk ++ rest) := by
  induction first with
  | nil => exact second
  | cons above below element _ ih =>
    rw [List.append_assoc]
    exact .cons above below element ih

theorem Element.elements (element : Element levels number chunk) (above : low ≤ number)
    (below : number < high)
    : Elements levels low high chunk := by
  have whole : Elements levels low high (chunk ++ []) := .cons above below element .nil
  rwa [List.append_nil] at whole

theorem Elements.widen {low' high'} (elements : Elements levels low high chunk) (lower : low' ≤ low)
    (higher : high ≤ high')
    : Elements levels low' high' chunk := by
  induction elements with
  | nil => exact .nil
  | cons above below element _ ih => exact .cons (by omega) (by omega) element ih

/-- An element is balanced one level further out. -/
theorem Element.plainlyNested (element : Element (limit.map (· - 1)) number chunk)
    (positive : ∀ most ∈ limit, 1 ≤ most)
    : PlainlyNested limit 0 chunk := by
  obtain ⟨content, field⟩ | ⟨inner, inRange, rfl, nested⟩ := element
  · exact field.plainlyNested limit
  · have closed : PlainlyNested limit (0 + 1) (encodeClosingTag number ++ []) :=
      .closing (encodeClosingTag_header inRange) rfl .done
    rw [List.append_nil] at closed
    exact .opening (encodeOpeningTag_header inRange) rfl positive
      (nested.append (room_inside positive) closed)

theorem Elements.plainlyNested (elements : Elements (limit.map (· - 1)) low high chunk)
    (positive : ∀ most ∈ limit, 1 ≤ most)
    : PlainlyNested limit 0 chunk := by
  induction elements with
  | nil => exact .done
  | cons _ _ element _ ih => exact (element.plainlyNested positive).append_same ih

end Sequences

namespace BACnetAuditNotification

section Encodings

variable {levels : Option Nat} {number : Nat} {n : BACnetAuditNotification} {chunk : Bytes}

theorem element_recipient {device} (inRange : number ≤ 254)
    (encoded : encodeRecipient number device = .ok chunk)
    : Element levels number chunk := by
  obtain ⟨inner, recipient, same⟩ := bind_eq_ok.mp encoded
  cases same
  exact .inr ⟨inner, inRange, rfl, (isField_of_objectId recipient).plainlyNested levels⟩

/-- A part that need not be there is an element if it is. -/
theorem elements_optional {Field : Type} {encoder : Field → Except PyException Bytes}
    {field : Option Field} {low high : Nat} (encoded : encodeOptional encoder field = .ok chunk)
    (above : low ≤ number) (below : number < high)
    (present : ∀ value ∈ field, encoder value = .ok chunk → Element levels number chunk)
    : Elements levels low high chunk := by
  cases field with
  | none =>
    cases encoded
    exact .nil
  | some value => exact (present value rfl encoded).elements above below

theorem elements_optionalUnsigned {field : Option Nat} {low high : Nat}
    (encoded : encodeContextOptional number field = .ok chunk)
    (above : low ≤ number) (below : number < high)
    : Elements levels low high chunk := by
  cases field with
  | none =>
    cases encoded
    exact .nil
  | some value =>
    obtain ⟨content, field, _⟩ := isField_of_unsigned encoded
    exact Element.elements (.inl ⟨content, field⟩) above below

theorem elements_source (encoded : n.encodeSource = .ok chunk) : Elements levels 2 4 chunk := by
  obtain ⟨device, encodedDevice, encoded⟩ := bind_eq_ok.mp encoded
  obtain ⟨object, encodedObject, encoded⟩ := bind_eq_ok.mp encoded
  cases encoded
  have first : Elements levels 2 4 device := elements_optional encodedDevice (Nat.le_refl 2)
    (by omega) fun _ _ encoded => element_recipient (by omega) encoded
  have second : Elements levels 2 4 object := elements_optional encodedObject (show 2 ≤ 3 by omega)
    (by omega) fun _ _ encoded => .inl ⟨_, isField_of_objectId encoded⟩
  exact first.append second

theorem elements_request (wellFormed : n.WellFormed) (encoded : n.encodeRequest = .ok chunk)
    : Elements levels 5 10 chunk := by
  obtain ⟨source, encodedSource, encoded⟩ := bind_eq_ok.mp encoded
  obtain ⟨target, encodedTarget, encoded⟩ := bind_eq_ok.mp encoded
  obtain ⟨invokeId, encodedInvokeId, encoded⟩ := bind_eq_ok.mp encoded
  obtain ⟨userId, encodedUserId, encoded⟩ := bind_eq_ok.mp encoded
  obtain ⟨role, encodedRole, encoded⟩ := bind_eq_ok.mp encoded
  cases encoded
  have first : Elements levels 5 10 source := elements_optional encodedSource (Nat.le_refl 5)
    (by omega) fun comment given encoded => .inl ⟨_, isField_of_tagged encoded
      (wellFormed.comments _ (by simp) comment given)⟩
  have second : Elements levels 5 10 target := elements_optional encodedTarget
    (show 5 ≤ 6 by omega) (by omega) fun comment given encoded => .inl ⟨_, isField_of_tagged encoded
      (wellFormed.comments _ (by simp) comment given)⟩
  exact first.append (second.append ((elements_optionalUnsigned encodedInvokeId (by omega)
    (by omega)).append ((elements_optionalUnsigned encodedUserId (by omega) (by omega)).append
      (elements_optionalUnsigned encodedRole (by omega) (by omega)))))

theorem elements_target (encoded : n.encodeTarget = .ok chunk) : Elements levels 10 14 chunk := by
  obtain ⟨device, encodedDevice, encoded⟩ := bind_eq_ok.mp encoded
  obtain ⟨object, encodedObject, encoded⟩ := bind_eq_ok.mp encoded
  obtain ⟨property, encodedProperty, encoded⟩ := bind_eq_ok.mp encoded
  obtain ⟨priority, encodedPriority, encoded⟩ := bind_eq_ok.mp encoded
  cases encoded
  have first : Elements levels 10 14 device := elements_optional encodedDevice (Nat.le_refl 10)
    (by omega) fun _ _ encoded => element_recipient (by omega) encoded
  have second : Elements levels 10 14 object := elements_optional encodedObject
    (show 10 ≤ 11 by omega) (by omega) fun _ _ encoded => .inl ⟨_, isField_of_objectId encoded⟩
  have third : Elements levels 10 14 property := by
    refine elements_optional encodedProperty (show 10 ≤ 12 by omega) (by omega)
      fun value _ encoded => ?_
    obtain ⟨identifier, encodedIdentifier, encoded⟩ := bind_eq_ok.mp encoded
    obtain ⟨index, encodedIndex, same⟩ := bind_eq_ok.mp encoded
    cases same
    obtain ⟨_, field, _⟩ := isField_of_unsigned encodedIdentifier
    have nested : PlainlyNested levels 0 index := by
      cases given : n.targetArrayIndex with
      | none =>
        rw [given] at encodedIndex
        cases encodedIndex
        exact .done
      | some value =>
        rw [given] at encodedIndex
        obtain ⟨_, field, _⟩ := isField_of_unsigned encodedIndex
        exact field.plainlyNested levels
    exact .inr ⟨_, by omega, rfl, (field.plainlyNested levels).append_same nested⟩
  exact first.append (second.append (third.append (elements_optionalUnsigned encodedPriority
    (by omega) (by omega))))

theorem elements_values (nested : n.ValuesNested levels) : Elements levels 14 16 n.encodeValues := by
  have part {number : Nat} (above : 14 ≤ number) (below : number < 16) {value : Option Bytes}
      (nested : ∀ octets ∈ value, PlainlyNested levels 0 octets)
      : Elements levels 14 16 ((value.map (enclose number)).getD []) := by
    cases value with
    | none => exact .nil
    | some octets =>
      exact Element.elements (.inr ⟨octets, by omega, rfl, nested octets rfl⟩) above below
  exact (part (Nat.le_refl 14) (by omega) nested.1).append (part (by omega) (by omega) nested.2)

theorem elements_result (encoded : encodeResult n.resultErrorClass n.resultErrorCode = .ok chunk)
    : Elements levels 16 17 chunk := by
  unfold encodeResult at encoded
  split at encoded
  · obtain ⟨first, class_, encoded⟩ := bind_eq_ok.mp encoded
    obtain ⟨second, code, same⟩ := bind_eq_ok.mp encoded
    cases same
    obtain ⟨_, field, _⟩ := isField_of_enumerated class_
    obtain ⟨_, field', _⟩ := isField_of_enumerated code
    exact Element.elements (.inr ⟨_, by omega, rfl,
      (field.plainlyNested levels).append_same (field'.plainlyNested levels)⟩)
      (Nat.le_refl 16) (by omega)
  · cases encoded
    exact .nil

theorem elements_body (wellFormed : n.WellFormed) (encoded : n.encodeBody = .ok chunk)
    : ∃ operation fields result, chunk = operation ++ (fields ++ (n.encodeValues ++ result))
        ∧ (∃ content, IsField 4 content operation)
        ∧ ∀ levels, Elements levels 5 14 fields ∧ Elements levels 16 17 result := by
  obtain ⟨operation, encodedOperation, encoded⟩ := bind_eq_ok.mp encoded
  obtain ⟨request, encodedRequest, encoded⟩ := bind_eq_ok.mp encoded
  obtain ⟨target, encodedTarget, encoded⟩ := bind_eq_ok.mp encoded
  obtain ⟨result, encodedResult, encoded⟩ := bind_eq_ok.mp encoded
  cases encoded
  obtain ⟨_, field, _⟩ := isField_of_enumerated encodedOperation
  refine ⟨operation, request ++ target, result, by simp only [List.append_assoc], ⟨_, field⟩,
    fun levels => ⟨?_, elements_result encodedResult⟩⟩
  exact ((elements_request wellFormed encodedRequest).widen (by omega) (by omega)).append
    ((elements_target encodedTarget).widen (by omega) (by omega))

/-- An encoded notification is balanced one level further out than its values. -/
theorem plainlyNested_encode {limit} (positive : ∀ most ∈ limit, 1 ≤ most)
    (wellFormed : n.WellFormed) (nested : n.ValuesNested (limit.map (· - 1)))
    (encoded : n.encode = .ok chunk)
    : PlainlyNested limit 0 chunk := by
  obtain ⟨source, encodedSource, encoded⟩ := bind_eq_ok.mp encoded
  obtain ⟨body, encodedBody, encoded⟩ := bind_eq_ok.mp encoded
  cases encoded
  obtain ⟨operation, fields, result, rfl, ⟨_, field⟩, elements⟩ :=
    elements_body wellFormed encodedBody
  obtain ⟨first, second⟩ := elements (limit.map (· - 1))
  exact ((elements_source encodedSource).plainlyNested positive).append_same
    ((field.plainlyNested limit).append_same ((first.plainlyNested positive).append_same
      (((elements_values nested).plainlyNested positive).append_same (second.plainlyNested positive))))

end Encodings

end BACnetAuditNotification

end BacPy

/-! Audit log records that survive the wire, and what the decoder makes of those that do not. -/

namespace BacPy

open Library

theorem encodeUnsigned64_ok {value} (fits : value ≤ 0xFFFFFFFFFFFFFFFF)
    : ∃ data, encodeUnsigned64 value = .ok data ∧ data.length ≤ 8
        ∧ decodeUnsigned64 data = value := by
  unfold encodeUnsigned64
  split
  · next small =>
      refine ⟨_, rfl, by simp, ?_⟩
      rw [decodeUnsigned64, fromBytes, List.foldl_cons, List.foldl_nil, Nat.zero_mul, Nat.zero_add,
        UInt8.toNat_ofNat', Nat.mod_eq_of_lt (by omega)]
  · next large =>
      rw [if_neg (by omega)]
      have bits : Nat.log2 value < 64 := by
        rw [Nat.log2_lt (by omega)]
        omega
      have size : (Nat.log2 value + 1 + 7) / 8 = unsignedSize value := by
        rw [unsignedSize]
        omega
      rw [size]
      exact ⟨_, rfl, by rw [length_toBytes, unsignedSize]; omega,
        fromBytes_toBytes (lt_unsignedSize value)⟩

namespace BACnetAuditLogRecord

/-- The sequence number and the fields of the notification fit their encoding. -/
structure WellFormed (record : BACnetAuditLogRecord) : Prop where
  sequenceNumber : record.sequenceNumber ≤ 0xFFFFFFFFFFFFFFFF
  notification : record.notification.WellFormed

variable {record : BACnetAuditLogRecord} {octets : Bytes}

theorem encode_parts (wellFormed : record.WellFormed) (encoded : record.encode = .ok octets)
    : ∃ number content notification, octets = number ++ enclose 1 notification
        ∧ IsField 0 content number ∧ decodeUnsigned64 content = record.sequenceNumber
        ∧ record.notification.encode = .ok notification := by
  obtain ⟨data, unsigned, short, value⟩ := encodeUnsigned64_ok wellFormed.sequenceNumber
  obtain ⟨data', unsigned', encoded⟩ := bind_eq_ok.mp encoded
  rw [unsigned] at unsigned'
  cases unsigned'
  obtain ⟨number, tagged, encoded⟩ := bind_eq_ok.mp encoded
  obtain ⟨notification, inner, same⟩ := bind_eq_ok.mp encoded
  exact ⟨number, data, notification, (Except.ok.inj same).symm,
    isField_of_tagged tagged (by omega), value, inner⟩

theorem encode_ok (wellFormed : record.WellFormed) : ∃ octets, record.encode = .ok octets := by
  obtain ⟨data, unsigned, short, _⟩ := encodeUnsigned64_ok wellFormed.sequenceNumber
  obtain ⟨number, tagged⟩ := (encodeContextTagged_ok_iff (show 0 ≤ 254 by omega)).mpr
    (show data.length < 256 ^ 4 by omega)
  obtain ⟨notification, inner⟩ := BACnetAuditNotification.encode_ok wellFormed.notification
  exact ⟨_, bind_eq_ok.mpr ⟨data, unsigned, bind_eq_ok.mpr ⟨number, tagged,
    bind_eq_ok.mpr ⟨notification, inner, rfl⟩⟩⟩⟩

/-- Only balanced octets are taken from between the tags. -/
theorem decodeInner_iff {data inner rest offset}
    (here : data.drop offset = inner ++ (encodeClosingTag 1 ++ rest))
    : Prod.fst <$> decodeInner data offset = .ok inner ↔ PlainlyNested none 0 inner := by
  constructor
  · intro returned
    obtain ⟨⟨value, ended⟩, read, same⟩ := map_eq_ok.mp returned
    obtain ⟨⟨found, _⟩, scanned, read⟩ := bind_eq_ok.mp read
    cases found with
    | none => cases read
    | some found =>
      change value = inner at same
      obtain ⟨sliced, _⟩ := Prod.mk.inj (Except.ok.inj read)
      rw [← same, ← sliced]
      exact (closingFound_of_scan scanned found rfl).2.1 (Nat.le_refl 1)
  · intro nested
    obtain ⟨found, value⟩ :=
      BACnetAuditNotification.scanValue_read (show 1 ≤ 254 by omega) nested here
    simp only [decodeInner, found, bind, Except.bind, value, Functor.map, Except.map]

variable [JapaneseCodec]

/-- What is between the tags of a record is decoded as a notification. -/
theorem decode_parts {number content notification} (field : IsField 0 content number)
    (nested : PlainlyNested none 0 notification)
    : decode (number ++ enclose 1 notification) = (BACnetAuditNotification.decode notification).map
        fun n => { sequenceNumber := decodeUnsigned64 content, notification := n } := by
  have start : (number ++ enclose 1 notification).drop 0
      = number ++ (encodeOpeningTag 1 ++ (notification ++ (encodeClosingTag 1 ++ []))) := by
    rw [List.drop_zero, enclose, List.append_nil]
  have behind := drop_behind start
  have inside := drop_behind behind
  obtain ⟨⟨inner, ended⟩, read, same⟩ := map_eq_ok.mp ((decodeInner_iff inside).mpr nested)
  change inner = notification at same
  rw [same] at read
  simp only [decode, decodeElement_field field start, bind, Except.bind,
    (encodeOpeningTag_header (show 1 ≤ 254 by omega)).decoded behind, read]
  cases BACnetAuditNotification.decode notification with
  | error raised => rfl
  | ok n => rfl

/-- Whatever is decoded, its raw values are balanced. -/
theorem valuesNested_decode {data} (decoded : decode data = .ok record)
    : record.notification.ValuesNested none := by
  obtain ⟨_, _, decoded⟩ := bind_eq_ok.mp decoded
  obtain ⟨_, _, decoded⟩ := bind_eq_ok.mp decoded
  obtain ⟨_, _, decoded⟩ := bind_eq_ok.mp decoded
  obtain ⟨notification, inner, same⟩ := bind_eq_ok.mp decoded
  cases same
  exact BACnetAuditNotification.valuesNested_decode inner

theorem decode_encode (wellFormed : record.WellFormed)
    (nested : record.notification.ValuesNested none) (encoded : record.encode = .ok octets)
    : decode octets
      = .ok { record with notification := record.notification.overlay {} } := by
  obtain ⟨number, content, notification, rfl, field, value, inner⟩ := encode_parts wellFormed encoded
  have balanced : PlainlyNested none 0 notification :=
    BACnetAuditNotification.plainlyNested_encode (by simp) wellFormed.notification nested inner
  have decoded := (BACnetAuditNotification.fills_encode wellFormed.notification nested inner).decode
  rw [decode_parts field balanced, decoded, value]
  rfl

/-- A record survives the wire exactly if its notification does. -/
theorem roundTrip_iff (wellFormed : record.WellFormed)
    : (record.encode >>= decode) = .ok record
      ↔ record.notification.Whole ∧ record.notification.ValuesNested none := by
  obtain ⟨octets, encoded⟩ := encode_ok wellFormed
  constructor
  · intro survives
    obtain ⟨octets', encoded', decoded⟩ := bind_eq_ok.mp survives
    have nested := valuesNested_decode decoded
    rw [decode_encode wellFormed nested encoded', Except.ok.injEq] at decoded
    have same := congrArg BACnetAuditLogRecord.notification decoded
    exact ⟨BACnetAuditNotification.overlay_default_iff.mp same, nested⟩
  · rintro ⟨whole, nested⟩
    have decoded := decode_encode wellFormed nested encoded
    rw [BACnetAuditNotification.overlay_default_iff.mpr whole] at decoded
    exact bind_eq_ok.mpr ⟨octets, encoded, decoded⟩

end BACnetAuditLogRecord

end BacPy
