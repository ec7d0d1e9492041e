import BacPy.Encoding.Apdu

/-! What `encode_apdu` writes is what `decode_apdu` reads, for each PDU type. -/

namespace BacPy

-- Well-formed values

/-- The sequence number and the window size are octets, and there exactly when the PDU is
segmented.
-/
def SegmentationFieldsValid (segmented : Bool) (sequenceNumber proposedWindowSize : Option Nat)
    : Prop :=
  sequenceNumber.isSome = segmented ∧ proposedWindowSize.isSome = segmented
    ∧ (∀ number ∈ sequenceNumber, number < 256) ∧ ∀ size ∈ proposedWindowSize, size < 256

structure ConfirmedRequestPDU.WellFormed (pdu : ConfirmedRequestPDU) : Prop where
  maxSegments : pdu.maxSegments ∈ [none, some 2, some 4, some 8, some 16, some 32, some 64]
  maxApduLength : pdu.maxApduLength ∈ [50, 128, 206, 480, 1024, 1476]
  invokeId : pdu.invokeId < 256
  segmentation :
    SegmentationFieldsValid pdu.segmented pdu.sequenceNumber pdu.proposedWindowSize
  serviceChoice : pdu.serviceChoice < 256

structure ComplexAckPDU.WellFormed (pdu : ComplexAckPDU) : Prop where
  invokeId : pdu.invokeId < 256
  segmentation :
    SegmentationFieldsValid pdu.segmented pdu.sequenceNumber pdu.proposedWindowSize
  serviceChoice : pdu.serviceChoice < 256

structure SegmentAckPDU.WellFormed (pdu : SegmentAckPDU) : Prop where
  invokeId : pdu.invokeId < 256
  sequenceNumber : pdu.sequenceNumber < 256
  actualWindowSize : pdu.actualWindowSize < 256

/-- Every octet field of the PDU is an octet, and the fields of the confirmed requests and the
complex ACKs are ones the formats can carry. Nothing is asked of the payloads.
-/
def APDU.WellFormed : APDU → Prop
  | .confirmedRequest pdu => pdu.WellFormed
  | .unconfirmedRequest pdu => pdu.serviceChoice < 256
  | .simpleAck pdu => pdu.invokeId < 256 ∧ pdu.serviceChoice < 256
  | .complexAck pdu => pdu.WellFormed
  | .segmentAck pdu => pdu.WellFormed
  | .error pdu => pdu.invokeId < 256 ∧ pdu.serviceChoice < 256
  | .reject pdu => pdu.invokeId < 256
  | .abort pdu => pdu.invokeId < 256

-- Header fields

theorem toNat_ofNat_octet {value} (small : value < 256)
    : (UInt8.ofNat value).toNat = value := by
  rw [UInt8.toNat_ofNat', Nat.mod_eq_of_lt small]

/-- The capability octet of a confirmed request holds both codes. -/
theorem decode_capabilities (maxSegments : Option Nat) (maxApduLength : Nat)
    : ∃ byte1, octet (encodeMaxSegments maxSegments <<< 4 ||| encodeMaxApdu maxApduLength)
          = .ok byte1
        ∧ ((byte1 >>> 4) &&& 0x07).toNat = encodeMaxSegments maxSegments
        ∧ (byte1 &&& 0x0F).toNat = encodeMaxApdu maxApduLength := by
  have table : ∀ first < 8, ∀ second < 6,
      first <<< 4 ||| second < 256
        ∧ ((UInt8.ofNat (first <<< 4 ||| second) >>> 4) &&& 0x07).toNat = first
        ∧ (UInt8.ofNat (first <<< 4 ||| second) &&& 0x0F).toNat = second := by
    decide
  have first : encodeMaxSegments maxSegments < 8 := by unfold encodeMaxSegments; split <;> omega
  have second : encodeMaxApdu maxApduLength < 6 := by unfold encodeMaxApdu; split <;> omega
  obtain ⟨small, segmentsRead, lengthRead⟩ := table _ first _ second
  exact ⟨_, octet_ok small, segmentsRead, lengthRead⟩

/-- The segmentation fields are read from where they were put, and nothing is read if the PDU is
not segmented.
-/
theorem decodeSegmentationFields_encoded {segmented sequenceNumber proposedWindowSize}
    (valid : SegmentationFieldsValid segmented sequenceNumber proposedWindowSize)
    : ∃ fields, encodeSegmentationFields segmented sequenceNumber proposedWindowSize = .ok fields
        ∧ fields.length = (if segmented then 2 else 0)
        ∧ ∀ (before after : Bytes) (minLen : Nat) (pduName : String),
            (segmented → minLen ≤ (before ++ (fields ++ after)).length) →
            decodeSegmentationFields (before ++ (fields ++ after)) before.length segmented minLen
                pduName
              = .ok (sequenceNumber, proposedWindowSize, before.length + fields.length) := by
  obtain ⟨sequencePresent, windowPresent, sequenceSmall, windowSmall⟩ := valid
  cases segmented with
  | false =>
    obtain rfl : sequenceNumber = none := by simpa using sequencePresent
    obtain rfl : proposedWindowSize = none := by simpa using windowPresent
    refine ⟨[], rfl, rfl, fun before after minLen pduName long => ?_⟩
    simp [decodeSegmentationFields]
  | true =>
    obtain ⟨number, rfl⟩ := Option.isSome_iff_exists.mp sequencePresent
    obtain ⟨size, rfl⟩ := Option.isSome_iff_exists.mp windowPresent
    have numberSmall := sequenceSmall number rfl
    have sizeSmall := windowSmall size rfl
    refine ⟨[UInt8.ofNat number, UInt8.ofNat size], ?_, rfl,
      fun before after minLen pduName long => ?_⟩
    · simp [encodeSegmentationFields, octet_ok numberSmall, octet_ok sizeSmall, bind,
        Except.bind]
    · have first := octetAt_append before ([UInt8.ofNat number, UInt8.ofNat size] ++ after) 0
      have second := octetAt_append before ([UInt8.ofNat number, UInt8.ofNat size] ++ after) 1
      have enough := long rfl
      rw [Nat.add_zero] at first
      unfold decodeSegmentationFields
      rw [if_neg (by simp), if_neg (by omega), first, second]
      simp [bind, Except.bind, toNat_ofNat_octet numberSmall, toNat_ofNat_octet sizeSmall]

-- Enumerated contents

theorem ErrorClass.ofNat?_toNat (errorClass : ErrorClass)
    : ErrorClass.ofNat? errorClass.toNat = some errorClass := by
  cases errorClass <;> rfl

theorem ErrorCode.ofNat?_toNat (errorCode : ErrorCode)
    : ErrorCode.ofNat? errorCode.toNat = some errorCode := by
  cases errorCode <;> rfl

theorem RejectReason.ofNat?_toNat (reason : RejectReason)
    : RejectReason.ofNat? reason.toNat = some reason := by
  cases reason <;> rfl

theorem AbortReason.ofNat?_toNat (reason : AbortReason)
    : AbortReason.ofNat? reason.toNat = some reason := by
  cases reason <;> rfl

/-- The content octets of an enumerated value: one to four of them (Clause 20.2.11). -/
structure EnumeratedContent where
  octets : Bytes
  nonempty : 0 < octets.length := by decide
  short : octets.length ≤ 4 := by decide

namespace EnumeratedContent

/-- The number the octets stand for. -/
def value (content : EnumeratedContent) : Nat := fromBytes content.octets

/-- The application-tagged value. -/
def tagged (content : EnumeratedContent) : Bytes :=
  UInt8.ofNat (tagEnumerated <<< 4 ||| content.octets.length) :: content.octets

/-- The minimal content of a number below 2^32, as `encode_unsigned` chooses it. -/
theorem exists_encode {number} (small : number < 2 ^ 32)
    : ∃ content : EnumeratedContent, content.value = number
        ∧ encodeApplicationEnumerated number = .ok content.tagged := by
  have header (size : Nat) (short : size ≤ 4)
      : encodeTag tagEnumerated .application size
        = .ok [UInt8.ofNat (tagEnumerated <<< 4 ||| size)] := by
    simp [encodeTag, tagEnumerated, TagClass.toNat, short]
  by_cases one : number ≤ 0xFF
  · refine ⟨⟨[UInt8.ofNat number], by simp, by simp⟩, ?_, ?_⟩
    · simp only [value, fromBytes, List.foldl_cons, List.foldl_nil, UInt8.toNat_ofNat']
      omega
    · simp only [encodeApplicationEnumerated, encodeEnumerated, encodeUnsigned, one, if_true,
        encodeApplicationTagged, bind, Except.bind, List.length_singleton,
        header 1 (by decide), tagged]
      rfl
  · have positive : number ≠ 0 := by omega
    have bits : Nat.log2 number < 32 := (Nat.log2_lt positive).mpr small
    have fits : number < 256 ^ ((Nat.log2 number + 1 + 7) / 8) := by
      calc number < 2 ^ (Nat.log2 number + 1) := Nat.lt_log2_self
        _ ≤ 2 ^ (8 * ((Nat.log2 number + 1 + 7) / 8)) :=
          Nat.pow_le_pow_right (by decide) (by omega)
        _ = 256 ^ ((Nat.log2 number + 1 + 7) / 8) := by rw [Nat.pow_mul]
    have inRange : ¬ 0xFFFFFFFF < number := by omega
    refine ⟨⟨toBytes number ((Nat.log2 number + 1 + 7) / 8), ?_, ?_⟩, ?_, ?_⟩
    · rw [length_toBytes]; omega
    · rw [length_toBytes]; omega
    · exact fromBytes_toBytes fits
    · simp only [encodeApplicationEnumerated, encodeEnumerated, encodeUnsigned, one, inRange,
        if_false, encodeApplicationTagged, bind, Except.bind, length_toBytes,
        header _ (show (Nat.log2 number + 1 + 7) / 8 ≤ 4 by omega), tagged]
      rfl

end EnumeratedContent

/-- The decoder of one Error-PDU field reads an enumerated value back. -/
theorem decodeErrorField_tagged (before after : Bytes) (content : EnumeratedContent)
    (field : String)
    : decodeErrorField (before ++ (content.tagged ++ after)) before.length field
      = .ok (content.value, before.length + content.tagged.length) := by
  have header := decodeTag_application_short before (content.octets ++ after)
    (show tagEnumerated ≤ 14 by decide) content.short
  have whole : before ++ (content.tagged ++ after)
      = before ++ UInt8.ofNat (tagEnumerated <<< 4 ||| content.octets.length)
          :: (content.octets ++ after) :=
    rfl
  have present : ¬ (before ++ (content.tagged ++ after)).length
      < before.length + 1 + content.octets.length := by
    simp only [List.length_append, EnumeratedContent.tagged, List.length_cons]
    omega
  have read := slice_append
    (before ++ [UInt8.ofNat (tagEnumerated <<< 4 ||| content.octets.length)])
    content.octets after
  simp only [List.append_assoc, List.singleton_append, List.length_append,
    List.length_singleton] at read
  rw [whole] at present ⊢
  simp only [decodeErrorField, header, bind, Except.bind, present, if_false, read,
    decodeEnumerated, decodeUnsigned, EnumeratedContent.value, EnumeratedContent.tagged,
    List.length_cons]
  congr 2
  omega

/-- The decoder of an Error-PDU reads both numbers, and raises unless both are members. -/
theorem decodeError_tagged (invokeId serviceChoice : UInt8)
    (errorClass errorCode : EnumeratedContent) (errorData : Bytes)
    : decodeError ([0x50, invokeId, serviceChoice]
          ++ (errorClass.tagged ++ (errorCode.tagged ++ errorData)))
      = (enumMember "ErrorClass" ErrorClass.ofNat? errorClass.value).bind fun classMember =>
          (enumMember "ErrorCode" ErrorCode.ofNat? errorCode.value).bind fun codeMember =>
            .ok {
              invokeId := invokeId.toNat
              serviceChoice := serviceChoice.toNat
              errorClass := classMember
              errorCode := codeMember
              errorData
            } := by
  have readClass := decodeErrorField_tagged [0x50, invokeId, serviceChoice]
    (errorCode.tagged ++ errorData) errorClass "error class"
  have readCode := decodeErrorField_tagged ([0x50, invokeId, serviceChoice] ++ errorClass.tagged)
    errorData errorCode "error code"
  simp only [List.append_assoc, List.length_append, List.length_cons, List.length_nil,
    Nat.zero_add, Nat.reduceAdd] at readClass readCode
  have long : ¬ ([0x50, invokeId, serviceChoice]
      ++ (errorClass.tagged ++ (errorCode.tagged ++ errorData))).length < 5 := by
    have classLength := errorClass.nonempty
    simp only [EnumeratedContent.tagged, List.length_append, List.length_cons, List.length_nil]
    omega
  have rest : ([0x50, invokeId, serviceChoice]
      ++ (errorClass.tagged ++ (errorCode.tagged ++ errorData))).drop
        (3 + errorClass.tagged.length + errorCode.tagged.length) = errorData := by
    rw [← List.append_assoc, ← List.append_assoc]
    apply List.drop_left'
    simp
    omega
  have second : octetAt ([0x50, invokeId, serviceChoice]
      ++ (errorClass.tagged ++ (errorCode.tagged ++ errorData))) 1 = .ok invokeId := rfl
  have third : octetAt ([0x50, invokeId, serviceChoice]
      ++ (errorClass.tagged ++ (errorCode.tagged ++ errorData))) 2 = .ok serviceChoice := rfl
  simp only [decodeError, long, if_false, bind, Except.bind, second, third, readClass, readCode,
    rest]

-- The PDU types

theorem firstOctet_fields (pduType : PduType) (eight four two one : Bool)
    : ∃ byte0, octet (pduType.toNat <<< 4 ||| flag eight 0x08 ||| flag four 0x04 ||| flag two 0x02
          ||| flag one 0x01) = .ok byte0
        ∧ PduType.ofNat? ((byte0 >>> 4) &&& 0x0F).toNat = some pduType
        ∧ bit byte0 0x08 = eight ∧ bit byte0 0x04 = four ∧ bit byte0 0x02 = two
        ∧ bit byte0 0x01 = one := by
  refine ⟨_, octet_ok ?_, ?_⟩
  all_goals
    cases pduType <;> cases eight <;> cases four <;> cases two <;> cases one <;> decide

theorem octetAt_one (first second : UInt8) (rest : Bytes)
    : octetAt (first :: second :: rest) 1 = .ok second :=
  rfl

theorem octetAt_two (first second third : UInt8) (rest : Bytes)
    : octetAt (first :: second :: third :: rest) 2 = .ok third :=
  rfl

@[simp] theorem flag_false (bit : Nat) : flag false bit = 0 := rfl

/-- The decoder of the type in the first octet reads the whole PDU. -/
theorem decodeApdu_cons (byte0 : UInt8) (rest : Bytes)
    : decodeApdu (byte0 :: rest)
      = match PduType.ofNat? ((byte0 >>> 4) &&& 0x0F).toNat with
        | none => .error (.valueError
            ("Unknown PDU type nibble: " ++ hex ((byte0 >>> 4) &&& 0x0F).toNat))
        | some .confirmedRequest => .confirmedRequest <$> decodeConfirmedRequest (byte0 :: rest)
        | some .unconfirmedRequest =>
          .unconfirmedRequest <$> decodeUnconfirmedRequest (byte0 :: rest)
        | some .simpleAck => .simpleAck <$> decodeSimpleAck (byte0 :: rest)
        | some .complexAck => .complexAck <$> decodeComplexAck (byte0 :: rest)
        | some .segmentAck => .segmentAck <$> decodeSegmentAck (byte0 :: rest)
        | some .error => .error <$> decodeError (byte0 :: rest)
        | some .reject => .reject <$> decodeReject (byte0 :: rest)
        | some .abort => .abort <$> decodeAbort (byte0 :: rest) := by
  rw [decodeApdu, if_neg (by simp)]
  rfl

/-- The service choice stands behind the header and the segmentation fields, and the payload behind
it.
-/
theorem service_and_payload (header fields : Bytes) (service : UInt8) (payload : Bytes)
    : octetAt (header ++ (fields ++ service :: payload)) (header.length + fields.length)
        = .ok service
      ∧ (header ++ (fields ++ service :: payload)).drop (header.length + fields.length + 1)
        = payload := by
  constructor
  · have read := octetAt_append (header ++ fields) (service :: payload) 0
    rwa [List.length_append, List.append_assoc, Nat.add_zero] at read
  · rw [← List.append_assoc, ← List.singleton_append, ← List.append_assoc]
    exact List.drop_left' (by simp; omega)

/-- What a Confirmed-Request is read as: its capabilities are those that their codes stand for. -/
def ConfirmedRequestPDU.advertised (pdu : ConfirmedRequestPDU) : ConfirmedRequestPDU := {
  pdu with
  maxSegments := decodeMaxSegments (encodeMaxSegments pdu.maxSegments)
  maxApduLength := decodeMaxApdu (encodeMaxApdu pdu.maxApduLength)
}

/-- Whatever the capabilities are, the request is read as what it advertises. -/
theorem decodeApdu_confirmedRequest_advertised {pdu}
    (octets : pdu.invokeId < 256 ∧ pdu.serviceChoice < 256)
    (segmentation :
      SegmentationFieldsValid pdu.segmented pdu.sequenceNumber pdu.proposedWindowSize)
    : (encodeConfirmedRequest pdu >>= decodeApdu) = .ok (.confirmedRequest pdu.advertised) := by
  obtain ⟨byte0, packed, dispatched, segmented, moreFollows, accepted, _⟩ :=
    firstOctet_fields .confirmedRequest pdu.segmented pdu.moreFollows
      pdu.segmentedResponseAccepted false
  obtain ⟨byte1, capabilities, maxSegments, maxApduLength⟩ :=
    decode_capabilities pdu.maxSegments pdu.maxApduLength
  obtain ⟨fields, fieldsPacked, size, fieldsRead⟩ :=
    decodeSegmentationFields_encoded segmentation
  rw [flag_false, Nat.or_zero] at packed
  have encoded : encodeConfirmedRequest pdu
      = .ok ([byte0, byte1, UInt8.ofNat pdu.invokeId]
          ++ (fields ++ UInt8.ofNat pdu.serviceChoice :: pdu.serviceRequest)) := by
    rw [encodeConfirmedRequest, packed, capabilities, octet_ok octets.1, fieldsPacked,
      octet_ok octets.2]
    simp [bind, Except.bind]
  have read := fieldsRead [byte0, byte1, UInt8.ofNat pdu.invokeId]
    (UInt8.ofNat pdu.serviceChoice :: pdu.serviceRequest) 6 "ConfirmedRequest"
    (fun isSegmented => by simp [size, isSegmented]; omega)
  obtain ⟨service, payload⟩ := service_and_payload [byte0, byte1, UInt8.ofNat pdu.invokeId] fields
    (UInt8.ofNat pdu.serviceChoice) pdu.serviceRequest
  have decoded : decodeConfirmedRequest ([byte0, byte1, UInt8.ofNat pdu.invokeId]
      ++ (fields ++ UInt8.ofNat pdu.serviceChoice :: pdu.serviceRequest)) = .ok pdu.advertised := by
    simp only [List.length_cons, List.length_nil, Nat.zero_add, Nat.reduceAdd, List.cons_append,
      List.nil_append] at read service payload ⊢
    rw [decodeConfirmedRequest, if_neg (by simp; omega)]
    simp only [octetAt_zero, octetAt_one, octetAt_two, bind, Except.bind, segmented,
      read, service, payload, moreFollows, accepted, maxSegments, maxApduLength,
      toNat_ofNat_octet octets.1, toNat_ofNat_octet octets.2, ConfirmedRequestPDU.advertised]
  refine bind_eq_ok.mpr ⟨_, encoded, ?_⟩
  rw [List.cons_append] at decoded ⊢
  rw [decodeApdu_cons, dispatched]
  exact congrArg (APDU.confirmedRequest <$> ·) decoded

/-- Well-formed capabilities have codes of their own. -/
theorem ConfirmedRequestPDU.WellFormed.advertised_eq {pdu : ConfirmedRequestPDU}
    (valid : pdu.WellFormed)
    : pdu.advertised = pdu := by
  have segments : ∀ given ∈ [none, some 2, some 4, some 8, some 16, some 32, some 64],
      decodeMaxSegments (encodeMaxSegments given) = given := by
    decide
  have length : ∀ given ∈ [50, 128, 206, 480, 1024, 1476],
      decodeMaxApdu (encodeMaxApdu given) = given := by
    decide
  rw [ConfirmedRequestPDU.advertised, segments _ valid.maxSegments, length _ valid.maxApduLength]

theorem decodeApdu_confirmedRequest_encoded {pdu : ConfirmedRequestPDU} (valid : pdu.WellFormed)
    : (encodeConfirmedRequest pdu >>= decodeApdu) = .ok (.confirmedRequest pdu) := by
  rw [decodeApdu_confirmedRequest_advertised ⟨valid.invokeId, valid.serviceChoice⟩
    valid.segmentation, valid.advertised_eq]

theorem decodeApdu_unconfirmedRequest_encoded {pdu} (serviceChoice : pdu.serviceChoice < 256)
    : (encodeUnconfirmedRequest pdu >>= decodeApdu) = .ok (.unconfirmedRequest pdu) := by
  have encoded : encodeUnconfirmedRequest pdu
      = .ok (0x10 :: UInt8.ofNat pdu.serviceChoice :: pdu.serviceRequest) := by
    rw [encodeUnconfirmedRequest, octet_ok serviceChoice]
    rfl
  have decoded : decodeApdu (0x10 :: UInt8.ofNat pdu.serviceChoice :: pdu.serviceRequest)
      = .ok (.unconfirmedRequest {
          serviceChoice := (UInt8.ofNat pdu.serviceChoice).toNat
          serviceRequest := pdu.serviceRequest
        }) := by
    rw [decodeApdu_cons]
    simp [decodeUnconfirmedRequest, bind, Except.bind, PduType.ofNat?]
    rfl
  rw [toNat_ofNat_octet serviceChoice] at decoded
  exact bind_eq_ok.mpr ⟨_, encoded, decoded⟩

theorem decodeApdu_simpleAck_encoded {pdu} (invokeId : pdu.invokeId < 256)
    (serviceChoice : pdu.serviceChoice < 256)
    : (encodeSimpleAck pdu >>= decodeApdu) = .ok (.simpleAck pdu) := by
  have encoded : encodeSimpleAck pdu
      = .ok [0x20, UInt8.ofNat pdu.invokeId, UInt8.ofNat pdu.serviceChoice] := by
    rw [encodeSimpleAck, octet_ok invokeId, octet_ok serviceChoice]
    rfl
  have decoded : decodeApdu [0x20, UInt8.ofNat pdu.invokeId, UInt8.ofNat pdu.serviceChoice]
      = .ok (.simpleAck {
          invokeId := (UInt8.ofNat pdu.invokeId).toNat
          serviceChoice := (UInt8.ofNat pdu.serviceChoice).toNat
        }) :=
    rfl
  rw [toNat_ofNat_octet invokeId, toNat_ofNat_octet serviceChoice] at decoded
  exact bind_eq_ok.mpr ⟨_, encoded, decoded⟩

theorem decodeApdu_complexAck_encoded {pdu} (valid : pdu.WellFormed)
    : (encodeComplexAck pdu >>= decodeApdu) = .ok (.complexAck pdu) := by
  obtain ⟨byte0, packed, dispatched, segmented, moreFollows, _⟩ :=
    firstOctet_fields .complexAck pdu.segmented pdu.moreFollows false false
  obtain ⟨fields, fieldsPacked, size, fieldsRead⟩ :=
    decodeSegmentationFields_encoded valid.segmentation
  rw [flag_false, flag_false, Nat.or_zero, Nat.or_zero] at packed
  have encoded : encodeComplexAck pdu
      = .ok ([byte0, UInt8.ofNat pdu.invokeId]
          ++ (fields ++ UInt8.ofNat pdu.serviceChoice :: pdu.serviceAck)) := by
    rw [encodeComplexAck, packed, octet_ok valid.invokeId, fieldsPacked,
      octet_ok valid.serviceChoice]
    simp [bind, Except.bind]
  have read := fieldsRead [byte0, UInt8.ofNat pdu.invokeId]
    (UInt8.ofNat pdu.serviceChoice :: pdu.serviceAck) 5 "ComplexACK"
    (fun isSegmented => by simp [size, isSegmented]; omega)
  obtain ⟨service, payload⟩ := service_and_payload [byte0, UInt8.ofNat pdu.invokeId] fields
    (UInt8.ofNat pdu.serviceChoice) pdu.serviceAck
  have decoded : decodeComplexAck ([byte0, UInt8.ofNat pdu.invokeId]
      ++ (fields ++ UInt8.ofNat pdu.serviceChoice :: pdu.serviceAck)) = .ok pdu := by
    simp only [List.length_cons, List.length_nil, Nat.zero_add, Nat.reduceAdd, List.cons_append,
      List.nil_append] at read service payload ⊢
    rw [decodeComplexAck, if_neg (by simp; omega)]
    simp only [octetAt_zero, octetAt_one, bind, Except.bind, segmented, read, service, payload,
      moreFollows, toNat_ofNat_octet valid.invokeId, toNat_ofNat_octet valid.serviceChoice]
  refine bind_eq_ok.mpr ⟨_, encoded, ?_⟩
  rw [List.cons_append] at decoded ⊢
  rw [decodeApdu_cons, dispatched]
  exact congrArg (APDU.complexAck <$> ·) decoded

theorem decodeApdu_segmentAck_encoded {pdu} (valid : pdu.WellFormed)
    : (encodeSegmentAck pdu >>= decodeApdu) = .ok (.segmentAck pdu) := by
  obtain ⟨byte0, packed, dispatched, _, _, negativeAck, sentByServer⟩ :=
    firstOctet_fields .segmentAck false false pdu.negativeAck pdu.sentByServer
  rw [flag_false, flag_false, Nat.or_zero, Nat.or_zero] at packed
  have encoded : encodeSegmentAck pdu = .ok [byte0, UInt8.ofNat pdu.invokeId,
      UInt8.ofNat pdu.sequenceNumber, UInt8.ofNat pdu.actualWindowSize] := by
    rw [encodeSegmentAck, packed, octet_ok valid.invokeId, octet_ok valid.sequenceNumber,
      octet_ok valid.actualWindowSize]
    rfl
  have decoded : decodeSegmentAck [byte0, UInt8.ofNat pdu.invokeId,
        UInt8.ofNat pdu.sequenceNumber, UInt8.ofNat pdu.actualWindowSize]
      = .ok {
          negativeAck := bit byte0 0x02
          sentByServer := bit byte0 0x01
          invokeId := (UInt8.ofNat pdu.invokeId).toNat
          sequenceNumber := (UInt8.ofNat pdu.sequenceNumber).toNat
          actualWindowSize := (UInt8.ofNat pdu.actualWindowSize).toNat
        } :=
    rfl
  rw [negativeAck, sentByServer, toNat_ofNat_octet valid.invokeId,
    toNat_ofNat_octet valid.sequenceNumber, toNat_ofNat_octet valid.actualWindowSize] at decoded
  refine bind_eq_ok.mpr ⟨_, encoded, ?_⟩
  rw [decodeApdu_cons, dispatched]
  exact congrArg (APDU.segmentAck <$> ·) decoded

theorem decodeApdu_error_encoded {pdu} (invokeId : pdu.invokeId < 256)
    (serviceChoice : pdu.serviceChoice < 256)
    : (encodeError pdu >>= decodeApdu) = .ok (.error pdu) := by
  have classKnown := ErrorClass.ofNat?_toNat pdu.errorClass
  have codeKnown := ErrorCode.ofNat?_toNat pdu.errorCode
  have classSmall := (ErrorClass.isSome_ofNat? _).mp (Option.isSome_of_eq_some classKnown)
  have codeSmall := (ErrorCode.isSome_ofNat? _).mp (Option.isSome_of_eq_some codeKnown)
  obtain ⟨errorClass, classValue, classPacked⟩ :=
    EnumeratedContent.exists_encode (show pdu.errorClass.toNat < 2 ^ 32 by omega)
  obtain ⟨errorCode, codeValue, codePacked⟩ :=
    EnumeratedContent.exists_encode (show pdu.errorCode.toNat < 2 ^ 32 by omega)
  have encoded : encodeError pdu
      = .ok ([0x50, UInt8.ofNat pdu.invokeId, UInt8.ofNat pdu.serviceChoice]
          ++ (errorClass.tagged ++ (errorCode.tagged ++ pdu.errorData))) := by
    rw [encodeError, octet_ok invokeId, octet_ok serviceChoice, classPacked, codePacked]
    simp [bind, Except.bind, octet, PduType.toNat]
  have decoded := decodeError_tagged (UInt8.ofNat pdu.invokeId) (UInt8.ofNat pdu.serviceChoice)
    errorClass errorCode pdu.errorData
  rw [classValue, codeValue, enumMember, enumMember, classKnown, codeKnown,
    toNat_ofNat_octet invokeId, toNat_ofNat_octet serviceChoice] at decoded
  refine bind_eq_ok.mpr ⟨_, encoded, ?_⟩
  exact congrArg (APDU.error <$> ·) decoded

theorem decodeApdu_reject_encoded {pdu} (invokeId : pdu.invokeId < 256)
    : (encodeReject pdu >>= decodeApdu) = .ok (.reject pdu) := by
  have known := RejectReason.ofNat?_toNat pdu.rejectReason
  have small := (RejectReason.isSome_ofNat? _).mp (Option.isSome_of_eq_some known)
  have reason : pdu.rejectReason.toNat < 256 := by omega
  have encoded : encodeReject pdu
      = .ok [0x60, UInt8.ofNat pdu.invokeId, UInt8.ofNat pdu.rejectReason.toNat] := by
    rw [encodeReject, octet_ok invokeId, octet_ok reason]
    rfl
  have decoded : decodeReject [0x60, UInt8.ofNat pdu.invokeId, UInt8.ofNat pdu.rejectReason.toNat]
      = .ok pdu := by
    rw [decodeReject, if_neg (by simp)]
    simp only [octetAt_one, octetAt_two, bind, Except.bind, toNat_ofNat_octet invokeId,
      toNat_ofNat_octet reason, enumMember, known]
  refine bind_eq_ok.mpr ⟨_, encoded, ?_⟩
  exact congrArg (APDU.reject <$> ·) decoded

theorem decodeApdu_abort_encoded {pdu} (invokeId : pdu.invokeId < 256)
    : (encodeAbort pdu >>= decodeApdu) = .ok (.abort pdu) := by
  have known := AbortReason.ofNat?_toNat pdu.abortReason
  have small := (AbortReason.isSome_ofNat? _).mp (Option.isSome_of_eq_some known)
  have reason : pdu.abortReason.toNat < 256 := by omega
  obtain ⟨byte0, packed, dispatched, _, _, _, sentByServer⟩ :=
    firstOctet_fields .abort false false false pdu.sentByServer
  simp only [flag_false, Nat.or_zero] at packed
  have encoded : encodeAbort pdu
      = .ok [byte0, UInt8.ofNat pdu.invokeId, UInt8.ofNat pdu.abortReason.toNat] := by
    rw [encodeAbort, packed, octet_ok invokeId, octet_ok reason]
    rfl
  have decoded : decodeAbort [byte0, UInt8.ofNat pdu.invokeId, UInt8.ofNat pdu.abortReason.toNat]
      = .ok pdu := by
    rw [decodeAbort, if_neg (by simp)]
    simp only [octetAt_zero, octetAt_one, octetAt_two, bind, Except.bind,
      toNat_ofNat_octet invokeId, toNat_ofNat_octet reason, enumMember, known, sentByServer]
  refine bind_eq_ok.mpr ⟨_, encoded, ?_⟩
  rw [decodeApdu_cons, dispatched]
  exact congrArg (APDU.abort <$> ·) decoded

-- All PDU types

/-- Decoding what was encoded from a well-formed PDU gives the PDU back, with its payload. -/
theorem decodeApdu_encodeApdu {pdu : APDU} (valid : pdu.WellFormed)
    : (encodeApdu pdu >>= decodeApdu) = .ok pdu := by
  cases pdu with
  | confirmedRequest pdu => exact decodeApdu_confirmedRequest_encoded valid
  | unconfirmedRequest pdu => exact decodeApdu_unconfirmedRequest_encoded valid
  | simpleAck pdu => exact decodeApdu_simpleAck_encoded valid.1 valid.2
  | complexAck pdu => exact decodeApdu_complexAck_encoded valid
  | segmentAck pdu => exact decodeApdu_segmentAck_encoded valid
  | error pdu => exact decodeApdu_error_encoded valid.1 valid.2
  | reject pdu => exact decodeApdu_reject_encoded valid
  | abort pdu => exact decodeApdu_abort_encoded valid

/-- A segment of a request with 64 segments accepted, and its payload. -/
theorem decodeApdu_encodeApdu_segment
    : (encodeApdu (.confirmedRequest {
        segmented := true, moreFollows := true, segmentedResponseAccepted := true,
        maxSegments := some 64, maxApduLength := 1476, invokeId := 7, sequenceNumber := some 255,
        proposedWindowSize := some 16, serviceChoice := 12, serviceRequest := [0x0C, 0x02]
      }) >>= decodeApdu)
      = .ok (.confirmedRequest {
        segmented := true, moreFollows := true, segmentedResponseAccepted := true,
        maxSegments := some 64, maxApduLength := 1476, invokeId := 7, sequenceNumber := some 255,
        proposedWindowSize := some 16, serviceChoice := 12, serviceRequest := [0x0C, 0x02]
      }) :=
  decodeApdu_encodeApdu ⟨by decide, by decide, by decide, by simp [SegmentationFieldsValid],
    by decide⟩

end BacPy
