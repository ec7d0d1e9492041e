import BacPy.Types.AuditTypes

/-! Audit notifications and records that survive the wire: all whose raw values the written out loops
take for whole values.
-/

namespace BacPy

open Library

namespace BACnetAuditNotification

/-- The numbers fit their encoding, and no comment is so long that the decoder refuses it. -/
structure WellFormed (n : BACnetAuditNotification) : Prop where
  numbers : ∀ field ∈ [n.invokeId, n.sourceUserId, n.sourceUserRole, n.targetProperty,
    n.targetArrayIndex, n.targetPriority, n.resultErrorClass, n.resultErrorCode],
    ∀ value ∈ field, value ≤ 0xFFFFFFFF
  comments : ∀ field ∈ [n.sourceComment, n.targetComment], ∀ comment ∈ field,
    (encodeCharacterString comment).length ≤ 1048576

/-- The raw values are balanced when every length field counts octets. -/
def ValuesNested (levels : Option Nat) (n : BACnetAuditNotification) : Prop :=
  (∀ value ∈ n.targetValue, PlainlyNested levels 0 value)
    ∧ ∀ value ∈ n.currentValue, PlainlyNested levels 0 value

/-- No part is left out of the encoding: the index has its property, and the error both parts. -/
def Whole (n : BACnetAuditNotification) : Prop :=
  (n.targetProperty = none → n.targetArrayIndex = none)
    ∧ (n.resultErrorClass = none ↔ n.resultErrorCode = none)

-- What the decoder makes of the parts

/-- The fields of the source, over those that are there. -/
def setSource (n m : BACnetAuditNotification) : BACnetAuditNotification :=
  { m with
    sourceDevice := n.sourceDevice.or m.sourceDevice
    sourceObject := n.sourceObject.or m.sourceObject }

/-- The fields that describe the request. -/
def setRequest (n m : BACnetAuditNotification) : BACnetAuditNotification :=
  { m with
    sourceComment := n.sourceComment.or m.sourceComment
    targetComment := n.targetComment.or m.targetComment
    invokeId := n.invokeId.or m.invokeId
    sourceUserId := n.sourceUserId.or m.sourceUserId
    sourceUserRole := n.sourceUserRole.or m.sourceUserRole }

/-- The fields of the target. An index without a property has not been encoded. -/
def setTarget (n m : BACnetAuditNotification) : BACnetAuditNotification :=
  { m with
    targetDevice := n.targetDevice.or m.targetDevice
    targetObject := n.targetObject.or m.targetObject
    targetProperty := n.targetProperty.or m.targetProperty
    targetArrayIndex := (n.targetProperty.bind fun _ => n.targetArrayIndex).or m.targetArrayIndex
    targetPriority := n.targetPriority.or m.targetPriority }

/-- The raw values and the error, which has been encoded if it is whole. -/
def setOutcome (n m : BACnetAuditNotification) : BACnetAuditNotification :=
  { m with
    targetValue := n.targetValue.or m.targetValue
    currentValue := n.currentValue.or m.currentValue
    resultErrorClass := (n.resultErrorCode.bind fun _ => n.resultErrorClass).or m.resultErrorClass
    resultErrorCode := (n.resultErrorClass.bind fun _ => n.resultErrorCode).or m.resultErrorCode }

/-- The fields from the operation on. -/
def setBody (n m : BACnetAuditNotification) : BACnetAuditNotification :=
  n.setOutcome (n.setTarget (n.setRequest { m with operation := n.operation }))

/-- All the fields that have been encoded, over those that are there. -/
def overlay (n m : BACnetAuditNotification) : BACnetAuditNotification := n.setBody (n.setSource m)

section Lemmas

variable {n : BACnetAuditNotification}

/-- A whole notification is laid over the defaults as it is. -/
theorem overlay_default_iff : n.overlay {} = n ↔ n.Whole := by
  obtain ⟨operation, sourceDevice, sourceObject, sourceComment, targetComment, invokeId,
    sourceUserId, sourceUserRole, targetDevice, targetObject, targetProperty, targetArrayIndex,
    targetPriority, targetValue, currentValue, errorClass, errorCode⟩ := n
  simp only [overlay, setBody, setSource, setRequest, setTarget, setOutcome, Option.or_none, mk.injEq, Whole,
    true_and]
  cases targetProperty <;> cases errorClass <;> cases errorCode <;> simp [eq_comm]

theorem ValuesNested.unlimited {levels} (nested : n.ValuesNested levels)
    : n.ValuesNested none :=
  ⟨fun value given => (nested.1 value given).unlimited,
    fun value given => (nested.2 value given).unlimited⟩

/-- A raw value that is stored is what the loop has gone through. -/
theorem nested_of_found {data offset result kept}
    (scanned : scanToClosing none data offset = .ok result)
    (nested : ∀ value ∈ kept, PlainlyNested none 0 value)
    : ∀ value ∈ (result.1.map (slice data offset)).or kept, PlainlyNested none 0 value := by
  intro value given
  cases found : result.1 with
  | none =>
    rw [found] at given
    exact nested value given
  | some position =>
    rw [found] at given
    cases given
    exact (closingFound_of_scan scanned position found).2.1 (Nat.le_refl 1)

theorem valuesNested_decodeConstructed {data number offset later n'}
    (read : decodeConstructed data number offset n = .ok (n', later)) (nested : n.ValuesNested none)
    : n'.ValuesNested none := by
  unfold decodeConstructed at read
  split at read
  all_goals obtain ⟨found, inner, same⟩ := bind_eq_ok.mp read
  all_goals obtain ⟨rfl, _⟩ := Prod.mk.inj (Except.ok.inj same)
  all_goals first
    | exact nested
    | exact ⟨nested_of_found inner nested.1, nested.2⟩
    | exact ⟨nested.1, nested_of_found inner nested.2⟩

-- What can be encoded

theorem encodeRecipient_ok (number : Nat) (device)
    : ∃ octets, encodeRecipient number device = .ok octets := by
  rw [encodeRecipient, bind_const_ok_iff fun _ => returned_ok_iff _]
  exact ⟨encodeContextObjectId_ok (by omega) device, trivial⟩

theorem encodeComment_ok {number} (inRange : number ≤ 254) {comment}
    (short : (encodeCharacterString comment).length ≤ 1048576)
    : ∃ octets, encodeComment number comment = .ok octets :=
  (encodeContextTagged_ok_iff inRange).mpr (by omega)

theorem encodeTargetProperty_ok (wellFormed : n.WellFormed) {property}
    (given : property ∈ n.targetProperty)
    : ∃ octets, encodeTargetProperty n.targetArrayIndex property = .ok octets := by
  rw [encodeTargetProperty, bind_const_ok_iff fun _ => bind_const_ok_iff fun _ => returned_ok_iff _]
  exact ⟨(encodeContextUnsigned_ok_iff (by omega)).mpr
      (wellFormed.numbers _ (by simp) property given),
    encodeContextOptional_ok (by omega) (wellFormed.numbers _ (by simp)), trivial⟩

theorem encodeResult_ok (wellFormed : n.WellFormed)
    : ∃ octets, encodeResult n.resultErrorClass n.resultErrorCode = .ok octets := by
  have classFits := wellFormed.numbers n.resultErrorClass (by simp)
  have codeFits := wellFormed.numbers n.resultErrorCode (by simp)
  cases givenClass : n.resultErrorClass with
  | none => exact ⟨[], rfl⟩
  | some errorClass =>
    cases givenCode : n.resultErrorCode with
    | none => exact ⟨[], rfl⟩
    | some errorCode =>
      rw [encodeResult, bind_const_ok_iff fun _ => bind_const_ok_iff fun _ => returned_ok_iff _]
      exact ⟨encodeContextEnumerated_ok (by omega) (classFits errorClass givenClass),
        encodeContextEnumerated_ok (by omega) (codeFits errorCode givenCode), trivial⟩

theorem encode_ok (wellFormed : n.WellFormed) : ∃ octets, n.encode = .ok octets := by
  have source : ∃ octets, n.encodeSource = .ok octets := by
    rw [encodeSource, bind_const_ok_iff fun _ => bind_const_ok_iff fun _ => returned_ok_iff _]
    exact ⟨encodeOptional_ok fun device _ => encodeRecipient_ok 2 device,
      encodeOptional_ok fun object _ => encodeContextObjectId_ok (by omega) object, trivial⟩
  have operation : ∃ octets, encodeContextEnumerated 4 n.operation = .ok octets :=
    encodeContextEnumerated_ok (by omega) (by omega)
  have request : ∃ octets, n.encodeRequest = .ok octets := by
    rw [encodeRequest, bind_const_ok_iff fun _ => bind_const_ok_iff fun _ => bind_const_ok_iff
      fun _ => bind_const_ok_iff fun _ => bind_const_ok_iff fun _ => returned_ok_iff _]
    exact ⟨encodeOptional_ok fun comment given =>
        encodeComment_ok (by omega) (wellFormed.comments _ (by simp) comment given),
      encodeOptional_ok fun comment given =>
        encodeComment_ok (by omega) (wellFormed.comments _ (by simp) comment given),
      encodeContextOptional_ok (by omega) (wellFormed.numbers _ (by simp)),
      encodeContextOptional_ok (by omega) (wellFormed.numbers _ (by simp)),
      encodeContextOptional_ok (by omega) (wellFormed.numbers _ (by simp)), trivial⟩
  have target : ∃ octets, n.encodeTarget = .ok octets := by
    rw [encodeTarget, bind_const_ok_iff fun _ => bind_const_ok_iff fun _ => bind_const_ok_iff
      fun _ => bind_const_ok_iff fun _ => returned_ok_iff _]
    exact ⟨encodeOptional_ok fun device _ => encodeRecipient_ok 10 device,
      encodeOptional_ok fun object _ => encodeContextObjectId_ok (by omega) object,
      encodeOptional_ok fun property given => encodeTargetProperty_ok wellFormed given,
      encodeContextOptional_ok (by omega) (wellFormed.numbers _ (by simp)), trivial⟩
  have body : ∃ octets, n.encodeBody = .ok octets := by
    rw [encodeBody, bind_const_ok_iff fun _ => bind_const_ok_iff fun _ => bind_const_ok_iff
      fun _ => bind_const_ok_iff fun _ => returned_ok_iff _]
    exact ⟨operation, request, target, encodeResult_ok wellFormed, trivial⟩
  rw [encode, bind_const_ok_iff fun _ => bind_const_ok_iff fun _ => returned_ok_iff _]
  exact ⟨source, body, trivial⟩

end Lemmas

section Parts

variable [JapaneseCodec] {n : BACnetAuditNotification} {chunk : Bytes}

theorem fills_source (encoded : n.encodeSource = .ok chunk) : Fills chunk n.setSource := by
  obtain ⟨device, encodedDevice, encoded⟩ := bind_eq_ok.mp encoded
  obtain ⟨object, encodedObject, encoded⟩ := bind_eq_ok.mp encoded
  cases encoded
  have fillsDevice := fills_optional
    (fun field m => { m with sourceDevice := field.or m.sourceDevice }) encodedDevice
    (fun _ => rfl) fun value _ encoded => by
      obtain ⟨inner, recipient, same⟩ := bind_eq_ok.mp encoded
      cases same
      refine fills_enclosed (by omega) fun data offset rest m here => ?_
      simp only [decodeConstructed, decodeRecipient_read (by omega) recipient here, bind,
        Except.bind]
  have fillsObject := fills_optional
    (fun field m => { m with sourceObject := field.or m.sourceObject }) encodedObject
    (fun _ => rfl) fun value _ encoded => fills_field (isField_of_objectId encoded) fun m => by
      simp only [decodePrimitive, decodeObjectIdentifier_content, bind, Except.bind]
      rfl
  exact fillsDevice.append fillsObject

theorem fills_operation {operation : Fin 16}
    (encoded : encodeContextEnumerated 4 operation = .ok chunk)
    : Fills chunk fun m => { m with operation } := by
  obtain ⟨content, field, same⟩ := isField_of_enumerated encoded
  refine fills_field field fun m => ?_
  simp only [decodePrimitive, auditOperation, same, operation.isLt, dif_pos, Fin.eta, bind,
    Except.bind]

theorem fills_request (wellFormed : n.WellFormed) (encoded : n.encodeRequest = .ok chunk)
    : Fills chunk n.setRequest := by
  obtain ⟨source, encodedSource, encoded⟩ := bind_eq_ok.mp encoded
  obtain ⟨target, encodedTarget, encoded⟩ := bind_eq_ok.mp encoded
  obtain ⟨invokeId, encodedInvokeId, encoded⟩ := bind_eq_ok.mp encoded
  obtain ⟨userId, encodedUserId, encoded⟩ := bind_eq_ok.mp encoded
  obtain ⟨role, encodedRole, encoded⟩ := bind_eq_ok.mp encoded
  cases encoded
  have fillsSource := fills_optional
    (fun field m => { m with sourceComment := field.or m.sourceComment }) encodedSource
    (fun _ => rfl) fun comment given encoded =>
      fills_field (isField_of_tagged encoded (wellFormed.comments _ (by simp) comment given))
        fun m => by
          simp only [decodePrimitive, decodeCharacterString_content, bind, Except.bind]
          rfl
  have fillsTarget := fills_optional
    (fun field m => { m with targetComment := field.or m.targetComment }) encodedTarget
    (fun _ => rfl) fun comment given encoded =>
      fills_field (isField_of_tagged encoded (wellFormed.comments _ (by simp) comment given))
        fun m => by
          simp only [decodePrimitive, decodeCharacterString_content, bind, Except.bind]
          rfl
  have fillsInvokeId := fills_optionalUnsigned
    (fun field m => { m with invokeId := field.or m.invokeId }) encodedInvokeId
    (fun _ => rfl) fun _ _ => rfl
  have fillsUserId := fills_optionalUnsigned
    (fun field m => { m with sourceUserId := field.or m.sourceUserId }) encodedUserId
    (fun _ => rfl) fun _ _ => rfl
  have fillsRole := fills_optionalUnsigned
    (fun field m => { m with sourceUserRole := field.or m.sourceUserRole }) encodedRole
    (fun _ => rfl) fun _ _ => rfl
  exact fillsSource.append (fillsTarget.append (fillsInvokeId.append (fillsUserId.append fillsRole)))

theorem fills_target (encoded : n.encodeTarget = .ok chunk) : Fills chunk n.setTarget := by
  obtain ⟨device, encodedDevice, encoded⟩ := bind_eq_ok.mp encoded
  obtain ⟨object, encodedObject, encoded⟩ := bind_eq_ok.mp encoded
  obtain ⟨property, encodedProperty, encoded⟩ := bind_eq_ok.mp encoded
  obtain ⟨priority, encodedPriority, encoded⟩ := bind_eq_ok.mp encoded
  cases encoded
  have fillsDevice := fills_optional
    (fun field m => { m with targetDevice := field.or m.targetDevice }) encodedDevice
    (fun _ => rfl) fun value _ encoded => by
      obtain ⟨inner, recipient, same⟩ := bind_eq_ok.mp encoded
      cases same
      refine fills_enclosed (by omega) fun data offset rest m here => ?_
      simp only [decodeConstructed, decodeRecipient_read (by omega) recipient here, bind,
        Except.bind]
  have fillsObject := fills_optional
    (fun field m => { m with targetObject := field.or m.targetObject }) encodedObject
    (fun _ => rfl) fun value _ encoded => fills_field (isField_of_objectId encoded) fun m => by
      simp only [decodePrimitive, decodeObjectIdentifier_content, bind, Except.bind]
      rfl
  have fillsProperty := fills_optional
    (fun field m => { m with
      targetProperty := field.or m.targetProperty
      targetArrayIndex := (field.bind fun _ => n.targetArrayIndex).or m.targetArrayIndex })
    encodedProperty (fun _ => rfl) fun value _ encoded => by
      obtain ⟨first, identifier, encoded⟩ := bind_eq_ok.mp encoded
      obtain ⟨second, index, same⟩ := bind_eq_ok.mp encoded
      cases same
      refine fills_enclosed (by omega) fun data offset rest m here => ?_
      simp only [decodeConstructed, decodeTargetProperty_read identifier index here, bind,
        Except.bind]
      rfl
  have fillsPriority := fills_optionalUnsigned
    (fun field m => { m with targetPriority := field.or m.targetPriority }) encodedPriority
    (fun _ => rfl) fun _ _ => rfl
  exact fillsDevice.append (fillsObject.append (fillsProperty.append fillsPriority))

theorem fills_values (nested : n.ValuesNested none)
    : Fills n.encodeValues fun m => { m with
        targetValue := n.targetValue.or m.targetValue
        currentValue := n.currentValue.or m.currentValue } := by
  obtain ⟨nestedTarget, nestedCurrent⟩ := nested
  have fillsTarget : Fills ((n.targetValue.map (enclose 14)).getD [])
      fun m => { m with targetValue := n.targetValue.or m.targetValue } := by
    cases given : n.targetValue with
    | none => exact .nil
    | some value =>
      refine fills_enclosed (by omega) fun data offset rest m here => ?_
      obtain ⟨found, read⟩ := scanValue_read (by omega) (nestedTarget value given) here
      simp only [decodeConstructed, found, bind, Except.bind, Option.map_some, read]
  have fillsCurrent : Fills ((n.currentValue.map (enclose 15)).getD [])
      fun m => { m with currentValue := n.currentValue.or m.currentValue } := by
    cases given : n.currentValue with
    | none => exact .nil
    | some value =>
      refine fills_enclosed (by omega) fun data offset rest m here => ?_
      obtain ⟨found, read⟩ := scanValue_read (by omega) (nestedCurrent value given) here
      simp only [decodeConstructed, found, bind, Except.bind, Option.map_some, read]
  exact fillsTarget.append fillsCurrent

theorem fills_result (encoded : encodeResult n.resultErrorClass n.resultErrorCode = .ok chunk)
    : Fills chunk fun m => { m with
        resultErrorClass := (n.resultErrorCode.bind fun _ => n.resultErrorClass).or m.resultErrorClass
        resultErrorCode :=
          (n.resultErrorClass.bind fun _ => n.resultErrorCode).or m.resultErrorCode } := by
  cases givenClass : n.resultErrorClass with
  | none =>
    rw [givenClass] at encoded
    cases encoded
    cases n.resultErrorCode with
    | none => exact .nil
    | some errorCode => exact .nil
  | some errorClass =>
    cases givenCode : n.resultErrorCode with
    | none =>
      rw [givenClass, givenCode] at encoded
      cases encoded
      exact .nil
    | some errorCode =>
      rw [givenClass, givenCode] at encoded
      obtain ⟨first, class_, encoded⟩ := bind_eq_ok.mp encoded
      obtain ⟨second, code, same⟩ := bind_eq_ok.mp encoded
      cases same
      refine fills_enclosed (by omega) fun data offset rest m here => ?_
      simp only [decodeConstructed, decodeResult_read class_ code here, bind, Except.bind]
      rfl

theorem fills_body (wellFormed : n.WellFormed) (nested : n.ValuesNested none)
    (encoded : n.encodeBody = .ok chunk)
    : Fills chunk n.setBody := by
  obtain ⟨operation, encodedOperation, encoded⟩ := bind_eq_ok.mp encoded
  obtain ⟨request, encodedRequest, encoded⟩ := bind_eq_ok.mp encoded
  obtain ⟨target, encodedTarget, encoded⟩ := bind_eq_ok.mp encoded
  obtain ⟨result, encodedResult, encoded⟩ := bind_eq_ok.mp encoded
  cases encoded
  exact (fills_operation encodedOperation).append ((fills_request wellFormed encodedRequest).append
    ((fills_target encodedTarget).append ((fills_values nested).append
      (fills_result encodedResult))))

/-- The decoder stores every field that was encoded, and nothing else. -/
theorem fills_encode (wellFormed : n.WellFormed) (nested : n.ValuesNested none)
    (encoded : n.encode = .ok chunk)
    : Fills chunk n.overlay := by
  obtain ⟨source, encodedSource, encoded⟩ := bind_eq_ok.mp encoded
  obtain ⟨body, encodedBody, encoded⟩ := bind_eq_ok.mp encoded
  cases encoded
  exact (fills_source encodedSource).append (fills_body wellFormed nested encodedBody)

/-- Nothing is left over behind the last part. -/
theorem Fills.decode {set} (fills : Fills chunk set)
    : decode chunk = .ok (set {}) := by
  have whole := fills chunk 0 [] {} (List.append_nil chunk).symm
  rw [Nat.zero_add] at whole
  rw [BACnetAuditNotification.decode, whole]
  exact scan_past (Nat.le_refl _)

-- What can be decoded at all

/-- The branches without an opening tag leave the raw values alone. -/
theorem valuesNested_decodePrimitive {number content n'}
    (read : decodePrimitive number content n = .ok n') (nested : n.ValuesNested none)
    : n'.ValuesNested none := by
  unfold decodePrimitive at read
  split at read
  all_goals first
    | (obtain ⟨_, _, same⟩ := bind_eq_ok.mp read; obtain rfl := Except.ok.inj same; exact nested)
    | (obtain rfl := Except.ok.inj read; exact nested)

/-- Whatever is decoded, its raw values are balanced: they are what a loop has gone through. -/
theorem valuesNested_decodeFrom {data offset result}
    (decoded : decodeFrom data offset n = .ok result) (nested : n.ValuesNested none)
    : result.ValuesNested none := by
  refine scan_induction (fun _ n result => n.ValuesNested none → result.ValuesNested none)
    (decodeField_advances data) ?past ?stop ?next decoded nested
  case past =>
    intro offset n result _ ended nested
    cases ended
    exact nested
  case stop =>
    intro offset n result _ went
    obtain ⟨⟨tag, newOffset⟩, _, went⟩ := bind_eq_ok.mp went
    dsimp only at went
    split at went
    · cases went
    · split at went
      · obtain ⟨_, _, same⟩ := bind_eq_ok.mp went
        cases same
      · obtain ⟨_, _, same⟩ := bind_eq_ok.mp went
        cases same
  case next =>
    intro offset n later changed result _ went ih nested
    refine ih ?_
    obtain ⟨⟨tag, newOffset⟩, _, went⟩ := bind_eq_ok.mp went
    dsimp only at went
    split at went
    · obtain ⟨_, rfl⟩ := Round.next.inj (Except.ok.inj went)
      exact nested
    · split at went
      · obtain ⟨_, read, same⟩ := bind_eq_ok.mp went
        obtain ⟨_, rfl⟩ := Round.next.inj (Except.ok.inj same)
        exact valuesNested_decodeConstructed read nested
      · obtain ⟨_, read, same⟩ := bind_eq_ok.mp went
        obtain ⟨_, rfl⟩ := Round.next.inj (Except.ok.inj same)
        exact valuesNested_decodePrimitive read nested

theorem valuesNested_decode {data} (decoded : decode data = .ok n) : n.ValuesNested none :=
  valuesNested_decodeFrom decoded ⟨fun _ given => (nomatch given), fun _ given => (nomatch given)⟩

/-- A notification survives the wire exactly if it is whole and its raw values are balanced. -/
theorem roundTrip_iff (wellFormed : n.WellFormed)
    : (n.encode >>= decode) = .ok n ↔ n.Whole ∧ n.ValuesNested none := by
  obtain ⟨octets, encoded⟩ := encode_ok wellFormed
  constructor
  · intro survives
    obtain ⟨octets', encoded', decoded⟩ := bind_eq_ok.mp survives
    have nested := valuesNested_decode decoded
    have again := (fills_encode wellFormed nested encoded').decode
    rw [decoded, Except.ok.injEq] at again
    exact ⟨overlay_default_iff.mp again.symm, nested⟩
  · rintro ⟨whole, nested⟩
    have decoded := (fills_encode wellFormed nested encoded).decode
    rw [overlay_default_iff.mpr whole] at decoded
    exact bind_eq_ok.mpr ⟨octets, encoded, decoded⟩

end Parts

end BACnetAuditNotification

end BacPy
