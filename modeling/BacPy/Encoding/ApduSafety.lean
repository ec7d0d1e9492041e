import BacPy.Encoding.Apdu

/-! What `decode_apdu` does with octets that are no APDU: it raises a ValueError, it reads no octet that
is not there, and the variable part of what it returns is the end of the octets.

`Within` has the decoders again, with slices that raise an IndexError where they leave the buffer.
-/

namespace BacPy

-- Reads inside of the buffer

namespace Within

/-- `data[start:stop]` of a buffer with both ends in it. -/
def slice (data : Bytes) (start stop : Nat) : Except PyException Bytes :=
  if start ≤ stop ∧ stop ≤ data.length then .ok (BacPy.slice data start stop)
  else .error (.indexError "slice outside of the buffer")

/-- `data[start:]` of a buffer with the start in it. -/
def rest (data : Bytes) (start : Nat) : Except PyException Bytes :=
  if start ≤ data.length then .ok (data.drop start)
  else .error (.indexError "slice outside of the buffer")

/-- The extended length after an initial octet with L/V/T 5, 6 or 7. -/
def decodeExtendedLength (buf : Bytes) (offset : Nat) : Except PyException (Nat × Nat) := do
  if buf.length ≤ offset then
    .error (.valueError "Tag decode: truncated extended length")
  else
    let ext ← octetAt buf offset
    let offset := offset + 1
    if ext.toNat ≤ 253 then
      .ok (ext.toNat, offset)
    else if ext.toNat = 254 then
      if buf.length < offset + 2 then
        .error (.valueError "Tag decode: truncated 2-byte extended length")
      else
        let content ← slice buf offset (offset + 2)
        .ok (fromBytes content, offset + 2)
    else if buf.length < offset + 4 then
      .error (.valueError "Tag decode: truncated 4-byte extended length")
    else
      let content ← slice buf offset (offset + 4)
      .ok (fromBytes content, offset + 4)

def decodeTag (buf : Bytes) (offset : Nat) : Except PyException (Tag × Nat) := do
  if buf.length ≤ offset then
    .error (.valueError s!"Tag decode: offset {offset} beyond buffer length {buf.length}")
  else
    let initial ← octetAt buf offset
    let (tagNumber, offset) ← decodeTagNumber buf initial (offset + 1)
    let cls := if (initial >>> 3) &&& 0x01 = 0 then TagClass.application else .context
    let lvt := (initial &&& 0x07).toNat
    if cls = .context ∧ lvt = 6 then
      .ok ({ number := tagNumber, cls, length := 0, isOpening := true }, offset)
    else if cls = .context ∧ lvt = 7 then
      .ok ({ number := tagNumber, cls, length := 0, isClosing := true }, offset)
    else
      let (length, offset) ← if lvt < 5 then .ok (lvt, offset) else decodeExtendedLength buf offset
      if 1048576 < length then
        .error (.valueError
          (s!"Tag length ({length}) exceeds sanity limit (1048576 bytes): "
            ++ "possible malformed or malicious packet"))
      else
        .ok ({ number := tagNumber, cls, length }, offset)

def decodeConfirmedRequest (data : Bytes) : Except PyException ConfirmedRequestPDU := do
  if data.length < 4 then
    .error (.valueError
      (s!"ConfirmedRequest too short: need at least 4 bytes, got {data.length}"))
  else
    let byte0 ← octetAt data 0
    let byte1 ← octetAt data 1
    let invokeId ← octetAt data 2
    let (sequenceNumber, proposedWindowSize, offset) ←
      decodeSegmentationFields data 3 (bit byte0 0x08) 6 "ConfirmedRequest"
    let serviceChoice ← octetAt data offset
    let serviceRequest ← rest data (offset + 1)
    .ok {
      segmented := bit byte0 0x08
      moreFollows := bit byte0 0x04
      segmentedResponseAccepted := bit byte0 0x02
      maxSegments := decodeMaxSegments ((byte1 >>> 4) &&& 0x07).toNat
      maxApduLength := decodeMaxApdu (byte1 &&& 0x0F).toNat
      invokeId := invokeId.toNat
      sequenceNumber
      proposedWindowSize
      serviceChoice := serviceChoice.toNat
      serviceRequest
    }

def decodeUnconfirmedRequest (data : Bytes) : Except PyException UnconfirmedRequestPDU := do
  if data.length < 2 then
    .error (.valueError
      (s!"UnconfirmedRequest too short: need at least 2 bytes, got {data.length}"))
  else
    let serviceChoice ← octetAt data 1
    let serviceRequest ← rest data 2
    .ok { serviceChoice := serviceChoice.toNat, serviceRequest }

def decodeComplexAck (data : Bytes) : Except PyException ComplexAckPDU := do
  if data.length < 3 then
    .error (.valueError s!"ComplexACK too short: need at least 3 bytes, got {data.length}")
  else
    let byte0 ← octetAt data 0
    let invokeId ← octetAt data 1
    let (sequenceNumber, proposedWindowSize, offset) ←
      decodeSegmentationFields data 2 (bit byte0 0x08) 5 "ComplexACK"
    let serviceChoice ← octetAt data offset
    let serviceAck ← rest data (offset + 1)
    .ok {
      segmented := bit byte0 0x08
      moreFollows := bit byte0 0x04
      invokeId := invokeId.toNat
      sequenceNumber
      proposedWindowSize
      serviceChoice := serviceChoice.toNat
      serviceAck
    }

/-- One application-tagged enumerated field of an Error-PDU, and the offset after it. -/
def decodeErrorField (data : Bytes) (offset : Nat) (field : String)
    : Except PyException (Nat × Nat) := do
  let (tag, offset) ← decodeTag data offset
  if data.length < offset + tag.length then
    .error (.valueError
      (s!"ErrorPDU truncated at {field}: need {tag.length} bytes at offset {offset}"))
  else
    let content ← slice data offset (offset + tag.length)
    .ok (decodeEnumerated content, offset + tag.length)

def decodeError (data : Bytes) : Except PyException ErrorPDU := do
  if data.length < 5 then
    .error (.valueError s!"ErrorPDU too short: need at least 5 bytes, got {data.length}")
  else
    let invokeId ← octetAt data 1
    let serviceChoice ← octetAt data 2
    let (classNumber, offset) ← decodeErrorField data 3 "error class"
    let errorClass ← enumMember "ErrorClass" ErrorClass.ofNat? classNumber
    let (codeNumber, offset) ← decodeErrorField data offset "error code"
    let errorCode ← enumMember "ErrorCode" ErrorCode.ofNat? codeNumber
    let errorData ← if offset < data.length then rest data offset else .ok []
    .ok {
      invokeId := invokeId.toNat
      serviceChoice := serviceChoice.toNat
      errorClass
      errorCode
      errorData
    }

def decodeApdu (data : Bytes) : Except PyException APDU := do
  if data.length < 1 then
    .error (.valueError "APDU data too short: need at least 1 byte")
  else
    let byte0 ← octetAt data 0
    let nibble := ((byte0 >>> 4) &&& 0x0F).toNat
    match PduType.ofNat? nibble with
    | none => .error (.valueError ("Unknown PDU type nibble: " ++ hex nibble))
    | some .confirmedRequest => .confirmedRequest <$> decodeConfirmedRequest data
    | some .unconfirmedRequest => .unconfirmedRequest <$> decodeUnconfirmedRequest data
    | some .simpleAck => .simpleAck <$> decodeSimpleAck data
    | some .complexAck => .complexAck <$> decodeComplexAck data
    | some .segmentAck => .segmentAck <$> decodeSegmentAck data
    | some .error => .error <$> decodeError data
    | some .reject => .reject <$> decodeReject data
    | some .abort => .abort <$> decodeAbort data

theorem slice_eq_ok {data start stop} (ordered : start ≤ stop) (inside : stop ≤ data.length)
    : slice data start stop = .ok (BacPy.slice data start stop) :=
  if_pos ⟨ordered, inside⟩

theorem rest_eq_ok {data start} (inside : start ≤ data.length)
    : rest data start = .ok (data.drop start) :=
  if_pos inside

/-- Steps that agree on what the first step can return. -/
theorem bind_congr_ok {Item Result : Type} {first : Except PyException Item}
    {next other : Item → Except PyException Result}
    (same : ∀ item, first = .ok item → next item = other item)
    : (first >>= next) = (first >>= other) := by
  cases first with
  | error raised => rfl
  | ok item => exact same item rfl

theorem decodeExtendedLength_eq (buf : Bytes) (offset : Nat)
    : decodeExtendedLength buf offset = BacPy.decodeExtendedLength buf offset := by
  unfold decodeExtendedLength BacPy.decodeExtendedLength
  split
  · rfl
  · refine bind_congr_ok fun ext _ => ?_
    dsimp only
    split
    · rfl
    · split
      · split
        · rfl
        · rw [slice_eq_ok (by omega) (by omega)]
          rfl
      · split
        · rfl
        · rw [slice_eq_ok (by omega) (by omega)]
          rfl

theorem decodeTag_eq (buf : Bytes) (offset : Nat)
    : decodeTag buf offset = BacPy.decodeTag buf offset := by
  unfold decodeTag BacPy.decodeTag
  simp only [decodeExtendedLength_eq]

end Within

theorem lt_of_octetAt {data : Bytes} {offset : Nat} {read : UInt8}
    (found : octetAt data offset = .ok read)
    : offset < data.length := by
  unfold octetAt at found
  split at found
  · next same => exact (List.getElem?_eq_some_iff.mp same).1
  · cases found

namespace Within

theorem decodeErrorField_eq (data : Bytes) (offset : Nat) (field : String)
    : decodeErrorField data offset field = BacPy.decodeErrorField data offset field := by
  unfold decodeErrorField BacPy.decodeErrorField
  rw [decodeTag_eq]
  refine bind_congr_ok fun (tag, offset) _ => ?_
  dsimp only
  split
  · rfl
  · rw [slice_eq_ok (by omega) (by omega)]
    rfl

theorem decodeConfirmedRequest_eq (data : Bytes)
    : decodeConfirmedRequest data = BacPy.decodeConfirmedRequest data := by
  unfold decodeConfirmedRequest BacPy.decodeConfirmedRequest
  split
  · rfl
  · refine bind_congr_ok fun byte0 _ => bind_congr_ok fun byte1 _ => bind_congr_ok fun id _ => ?_
    refine bind_congr_ok fun (sequence, window, offset) _ => bind_congr_ok fun service read => ?_
    rw [rest_eq_ok (lt_of_octetAt read)]
    rfl

theorem decodeUnconfirmedRequest_eq (data : Bytes)
    : decodeUnconfirmedRequest data = BacPy.decodeUnconfirmedRequest data := by
  unfold decodeUnconfirmedRequest BacPy.decodeUnconfirmedRequest
  split
  · rfl
  · refine bind_congr_ok fun service read => ?_
    rw [rest_eq_ok (lt_of_octetAt read)]
    rfl

theorem decodeComplexAck_eq (data : Bytes)
    : decodeComplexAck data = BacPy.decodeComplexAck data := by
  unfold decodeComplexAck BacPy.decodeComplexAck
  split
  · rfl
  · refine bind_congr_ok fun byte0 _ => bind_congr_ok fun id _ => ?_
    refine bind_congr_ok fun (sequence, window, offset) _ => bind_congr_ok fun service read => ?_
    rw [rest_eq_ok (lt_of_octetAt read)]
    rfl

theorem decodeError_eq (data : Bytes)
    : decodeError data = BacPy.decodeError data := by
  unfold decodeError BacPy.decodeError
  split
  · rfl
  · simp only [decodeErrorField_eq]
    refine bind_congr_ok fun id _ => bind_congr_ok fun service _ => ?_
    refine bind_congr_ok fun (classNumber, offset) _ => bind_congr_ok fun errorClass _ => ?_
    refine bind_congr_ok fun (codeNumber, offset) _ => bind_congr_ok fun errorCode _ => ?_
    dsimp only
    split
    · next more =>
        rw [rest_eq_ok (Nat.le_of_lt more)]
        rfl
    · next ended =>
        rw [List.drop_eq_nil_of_le (Nat.not_lt.mp ended)]
        rfl

/-- No slice leaves the buffer. -/
theorem decodeApdu_eq (data : Bytes)
    : decodeApdu data = BacPy.decodeApdu data := by
  unfold decodeApdu BacPy.decodeApdu
  simp only [decodeConfirmedRequest_eq, decodeUnconfirmedRequest_eq, decodeComplexAck_eq,
    decodeError_eq] <;> rfl

end Within

-- Only ValueErrors

namespace OnlyValueErrors

variable {Item Result : Type}

/-- The second step need only be right for what the first step returns. -/
theorem bind_ok {first : Except PyException Item} {next : Item → Except PyException Result}
    (here : OnlyValueErrors first) (later : ∀ item, first = .ok item → OnlyValueErrors (next item))
    : OnlyValueErrors (first >>= next) := by
  cases first with
  | error raised => exact fun _ same => Except.error.inj same ▸ here raised rfl
  | ok item => exact later item rfl

theorem map {outcome : Except PyException Item} {build : Item → Result}
    (here : OnlyValueErrors outcome)
    : OnlyValueErrors (build <$> outcome) := by
  cases outcome with
  | error raised => exact fun _ same => Except.error.inj same ▸ here raised rfl
  | ok item => exact ok (build item)

theorem octetAt {data offset} (inside : offset < data.length)
    : OnlyValueErrors (octetAt data offset) := by
  rw [BacPy.octetAt, List.getElem?_eq_getElem inside]
  exact ok _

end OnlyValueErrors

theorem onlyValueErrors_enumMember {Member : Type} (name : String) (ofNat? : Nat → Option Member)
    (value : Nat)
    : OnlyValueErrors (enumMember name ofNat? value) := by
  unfold enumMember
  split
  · exact .ok _
  · exact .valueError _

theorem onlyValueErrors_decodeExtendedLength (buf : Bytes) (offset : Nat)
    : OnlyValueErrors (decodeExtendedLength buf offset) := by
  unfold decodeExtendedLength
  split
  · exact .valueError _
  · refine .bind (.octetAt (by omega)) fun ext => ?_
    dsimp only
    split
    · exact .ok _
    · split
      · split
        · exact .valueError _
        · exact .ok _
      · split
        · exact .valueError _
        · exact .ok _

theorem onlyValueErrors_decodeTagNumber (buf : Bytes) (initial : UInt8) (offset : Nat)
    : OnlyValueErrors (decodeTagNumber buf initial offset) := by
  unfold decodeTagNumber
  dsimp only
  split
  · split
    · exact .valueError _
    · exact .bind (.octetAt (by omega)) fun extended => .ok _
  · exact .ok _

/-- The end of `decode_tag`, of a length and the offset behind it. -/
theorem onlyValueErrors_sized (number : Nat) (cls : TagClass)
    {sized : Except PyException (Nat × Nat)} (here : OnlyValueErrors sized)
    : OnlyValueErrors (do
        let (length, offset) ← sized
        if 1048576 < length then
          .error (.valueError
            (s!"Tag length ({length}) exceeds sanity limit (1048576 bytes): "
              ++ "possible malformed or malicious packet"))
        else
          .ok (({ number, cls, length } : Tag), offset)) := by
  refine here.bind fun (length, offset) => ?_
  dsimp only
  split
  · exact .valueError _
  · exact .ok _

theorem onlyValueErrors_decodeTag (buf : Bytes) (offset : Nat)
    : OnlyValueErrors (decodeTag buf offset) := by
  unfold decodeTag
  split
  · exact .valueError _
  · refine .bind (.octetAt (by omega)) fun initial => ?_
    refine .bind (onlyValueErrors_decodeTagNumber _ _ _) fun (number, offset) => ?_
    generalize (if (initial >>> 3) &&& 0x01 = 0 then TagClass.application else .context) = cls
    dsimp only
    split
    · exact .ok _
    · split
      · exact .ok _
      · split
        · exact onlyValueErrors_sized number cls (.ok _)
        · exact onlyValueErrors_sized number cls (onlyValueErrors_decodeExtendedLength _ _)

theorem onlyValueErrors_decodeSegmentationFields {data offset minLen} (segmented : Bool)
    (pduName : String) (room : offset + 2 ≤ minLen)
    : OnlyValueErrors (decodeSegmentationFields data offset segmented minLen pduName) := by
  unfold decodeSegmentationFields
  split
  · exact .ok _
  · split
    · exact .valueError _
    · exact .bind (.octetAt (by omega)) fun _ => .bind (.octetAt (by omega)) fun _ => .ok _

/-- An octet follows the segmentation fields, or the place where they would be. -/
theorem lt_of_decodeSegmentationFields {data : Bytes} {offset minLen next : Nat} {segmented : Bool}
    {pduName : String} {sequence window : Option Nat} (whole : offset < data.length)
    (room : offset + 2 < minLen)
    (decoded : decodeSegmentationFields data offset segmented minLen pduName
      = .ok (sequence, window, next))
    : next < data.length := by
  unfold decodeSegmentationFields at decoded
  split at decoded
  · obtain ⟨_, _, rfl⟩ := Prod.mk.injEq .. ▸ Except.ok.inj decoded
    exact whole
  · split at decoded
    · cases decoded
    · simp only [bind_eq_ok, Except.ok.injEq, Prod.mk.injEq] at decoded
      obtain ⟨_, _, _, _, _, _, rfl⟩ := decoded
      omega

theorem onlyValueErrors_decodeConfirmedRequest (data : Bytes)
    : OnlyValueErrors (decodeConfirmedRequest data) := by
  unfold decodeConfirmedRequest
  split
  · exact .valueError _
  · refine .bind (.octetAt (by omega)) fun byte0 => .bind (.octetAt (by omega)) fun byte1 => ?_
    refine .bind (.octetAt (by omega)) fun id => ?_
    refine .bind_ok (onlyValueErrors_decodeSegmentationFields _ _ (by omega)) ?_
    rintro ⟨sequence, window, offset⟩ decoded
    have inside := lt_of_decodeSegmentationFields (by omega) (by omega) decoded
    exact .bind (.octetAt inside) fun service => .ok _

theorem onlyValueErrors_decodeUnconfirmedRequest (data : Bytes)
    : OnlyValueErrors (decodeUnconfirmedRequest data) := by
  unfold decodeUnconfirmedRequest
  split
  · exact .valueError _
  · exact .bind (.octetAt (by omega)) fun service => .ok _

theorem onlyValueErrors_decodeSimpleAck (data : Bytes)
    : OnlyValueErrors (decodeSimpleAck data) := by
  unfold decodeSimpleAck
  split
  · exact .valueError _
  · exact .bind (.octetAt (by omega)) fun id => .bind (.octetAt (by omega)) fun service => .ok _

theorem onlyValueErrors_decodeComplexAck (data : Bytes)
    : OnlyValueErrors (decodeComplexAck data) := by
  unfold decodeComplexAck
  split
  · exact .valueError _
  · refine .bind (.octetAt (by omega)) fun byte0 => .bind (.octetAt (by omega)) fun id => ?_
    refine .bind_ok (onlyValueErrors_decodeSegmentationFields _ _ (by omega)) ?_
    rintro ⟨sequence, window, offset⟩ decoded
    have inside := lt_of_decodeSegmentationFields (by omega) (by omega) decoded
    exact .bind (.octetAt inside) fun service => .ok _

theorem onlyValueErrors_decodeSegmentAck (data : Bytes)
    : OnlyValueErrors (decodeSegmentAck data) := by
  unfold decodeSegmentAck
  split
  · exact .valueError _
  · refine .bind (.octetAt (by omega)) fun byte0 => .bind (.octetAt (by omega)) fun id => ?_
    exact .bind (.octetAt (by omega)) fun seq => .bind (.octetAt (by omega)) fun window => .ok _

theorem onlyValueErrors_decodeErrorField (data : Bytes) (offset : Nat) (field : String)
    : OnlyValueErrors (decodeErrorField data offset field) := by
  refine .bind (onlyValueErrors_decodeTag data offset) fun (tag, offset) => ?_
  dsimp only
  split
  · exact .valueError _
  · exact .ok _

theorem onlyValueErrors_decodeError (data : Bytes)
    : OnlyValueErrors (decodeError data) := by
  unfold decodeError
  split
  · exact .valueError _
  · refine .bind (.octetAt (by omega)) fun id => .bind (.octetAt (by omega)) fun service => ?_
    refine .bind (onlyValueErrors_decodeErrorField _ _ _) fun (classNumber, offset) => ?_
    refine .bind (onlyValueErrors_enumMember _ _ _) fun errorClass => ?_
    refine .bind (onlyValueErrors_decodeErrorField _ _ _) fun (codeNumber, offset) => ?_
    exact .bind (onlyValueErrors_enumMember _ _ _) fun errorCode => .ok _

theorem onlyValueErrors_decodeReject (data : Bytes)
    : OnlyValueErrors (decodeReject data) := by
  unfold decodeReject
  split
  · exact .valueError _
  · refine .bind (.octetAt (by omega)) fun id => .bind (.octetAt (by omega)) fun reason => ?_
    exact .bind (onlyValueErrors_enumMember _ _ _) fun rejectReason => .ok _

theorem onlyValueErrors_decodeAbort (data : Bytes)
    : OnlyValueErrors (decodeAbort data) := by
  unfold decodeAbort
  split
  · exact .valueError _
  · refine .bind (.octetAt (by omega)) fun byte0 => .bind (.octetAt (by omega)) fun id => ?_
    refine .bind (.octetAt (by omega)) fun reason => ?_
    exact .bind (onlyValueErrors_enumMember _ _ _) fun abortReason => .ok _

/-- Octets that cannot be decoded raise a ValueError. -/
theorem onlyValueErrors_decodeApdu (data : Bytes)
    : OnlyValueErrors (decodeApdu data) := by
  unfold decodeApdu
  split
  · exact .valueError _
  · refine .bind (.octetAt (by omega)) fun byte0 => ?_
    dsimp only
    split
    · exact .valueError _
    · exact (onlyValueErrors_decodeConfirmedRequest data).map
    · exact (onlyValueErrors_decodeUnconfirmedRequest data).map
    · exact (onlyValueErrors_decodeSimpleAck data).map
    · exact (onlyValueErrors_decodeComplexAck data).map
    · exact (onlyValueErrors_decodeSegmentAck data).map
    · exact (onlyValueErrors_decodeError data).map
    · exact (onlyValueErrors_decodeReject data).map
    · exact (onlyValueErrors_decodeAbort data).map

-- Variable parts

/-- The octets behind the header of an APDU: of the service, or of the error. -/
def APDU.variablePart : APDU → Bytes
  | .confirmedRequest pdu => pdu.serviceRequest
  | .unconfirmedRequest pdu => pdu.serviceRequest
  | .complexAck pdu => pdu.serviceAck
  | .error pdu => pdu.errorData
  | _ => []

/-- The variable part is the end of the decoded octets. -/
theorem variablePart_suffix {data apdu} (decoded : decodeApdu data = .ok apdu)
    : apdu.variablePart <:+ data := by
  unfold decodeApdu at decoded
  split at decoded
  · cases decoded
  · obtain ⟨byte0, _, selected⟩ := bind_eq_ok.mp decoded
    dsimp only at selected
    split at selected
    · cases selected
    all_goals obtain ⟨pdu, ran, rfl⟩ := map_eq_ok.mp selected
    · unfold decodeConfirmedRequest at ran
      split at ran
      · cases ran
      · simp only [bind_eq_ok, Except.ok.injEq] at ran
        obtain ⟨_, _, _, _, _, _, _, _, _, _, rfl⟩ := ran
        exact List.drop_suffix ..
    · unfold decodeUnconfirmedRequest at ran
      split at ran
      · cases ran
      · simp only [bind_eq_ok, Except.ok.injEq] at ran
        obtain ⟨_, _, rfl⟩ := ran
        exact List.drop_suffix ..
    · exact List.nil_suffix
    · unfold decodeComplexAck at ran
      split at ran
      · cases ran
      · simp only [bind_eq_ok, Except.ok.injEq] at ran
        obtain ⟨_, _, _, _, _, _, _, _, rfl⟩ := ran
        exact List.drop_suffix ..
    · exact List.nil_suffix
    · unfold decodeError at ran
      split at ran
      · cases ran
      · simp only [bind_eq_ok, Except.ok.injEq] at ran
        obtain ⟨_, _, _, _, _, _, _, _, _, _, _, _, rfl⟩ := ran
        exact List.drop_suffix ..
    · exact List.nil_suffix
    · exact List.nil_suffix

/-- Whatever the octets are, nothing but a ValueError is raised, no read leaves the buffer, and the
variable part of a returned APDU is the end of the octets.
-/
theorem decodeApdu_contained (data : Bytes)
    : OnlyValueErrors (decodeApdu data) ∧ Within.decodeApdu data = decodeApdu data
      ∧ ∀ apdu, decodeApdu data = .ok apdu → apdu.variablePart <:+ data :=
  ⟨onlyValueErrors_decodeApdu data, Within.decodeApdu_eq data, fun _ => variablePart_suffix⟩

end BacPy
