import BacPy.Encoding.Tags
import BacPy.Types.Enums

/-! APDU values with their encoding and decoding (Clause 20.1).

`encodeApdu` and `decodeApdu` dispatch to one function for each PDU type, as in the source.
-/

namespace BacPy

-- PDU values

structure ConfirmedRequestPDU where
  segmented : Bool
  moreFollows : Bool
  segmentedResponseAccepted : Bool
  maxSegments : Option Nat
  maxApduLength : Nat
  invokeId : Nat
  sequenceNumber : Option Nat
  proposedWindowSize : Option Nat
  serviceChoice : Nat
  serviceRequest : Bytes
  deriving DecidableEq

structure UnconfirmedRequestPDU where
  serviceChoice : Nat
  serviceRequest : Bytes
  deriving DecidableEq

structure SimpleAckPDU where
  invokeId : Nat
  serviceChoice : Nat
  deriving DecidableEq

structure ComplexAckPDU where
  segmented : Bool
  moreFollows : Bool
  invokeId : Nat
  sequenceNumber : Option Nat
  proposedWindowSize : Option Nat
  serviceChoice : Nat
  serviceAck : Bytes
  deriving DecidableEq

structure SegmentAckPDU where
  negativeAck : Bool
  sentByServer : Bool
  invokeId : Nat
  sequenceNumber : Nat
  actualWindowSize : Nat
  deriving DecidableEq

structure ErrorPDU where
  invokeId : Nat
  serviceChoice : Nat
  errorClass : ErrorClass
  errorCode : ErrorCode
  errorData : Bytes := []
  deriving DecidableEq

structure RejectPDU where
  invokeId : Nat
  rejectReason : RejectReason
  deriving DecidableEq

structure AbortPDU where
  sentByServer : Bool
  invokeId : Nat
  abortReason : AbortReason
  deriving DecidableEq

/-- `APDU`: the union of all PDU types. -/
inductive APDU where
  | confirmedRequest (pdu : ConfirmedRequestPDU)
  | unconfirmedRequest (pdu : UnconfirmedRequestPDU)
  | simpleAck (pdu : SimpleAckPDU)
  | complexAck (pdu : ComplexAckPDU)
  | segmentAck (pdu : SegmentAckPDU)
  | error (pdu : ErrorPDU)
  | reject (pdu : RejectPDU)
  | abort (pdu : AbortPDU)
  deriving DecidableEq

-- Header fields

/-- `_encode_max_segments` (Clause 20.1.2.4): 3 bits, 7 for counts without a code. -/
def encodeMaxSegments : Option Nat → Nat
  | none => 0
  | some 2 => 1
  | some 4 => 2
  | some 8 => 3
  | some 16 => 4
  | some 32 => 5
  | some 64 => 6
  | some _ => 7

def maxSegmentsDecodeTuple : List (Option Nat) :=
  [none, some 2, some 4, some 8, some 16, some 32, some 64, none]

/-- `_decode_max_segments` of a 3-bit field. -/
def decodeMaxSegments (value : Nat) : Option Nat := (maxSegmentsDecodeTuple[value]?).join

def maxApduDecodeTuple : List Nat := [50, 128, 206, 480, 1024, 1476]

/-- `_encode_max_apdu` (Clause 20.1.2.5): 5 for lengths without a code. -/
def encodeMaxApdu : Nat → Nat
  | 50 => 0
  | 128 => 1
  | 206 => 2
  | 480 => 3
  | 1024 => 4
  | 1476 => 5
  | _ => 5

/-- `_decode_max_apdu`: 1476 for codes beyond the table. -/
def decodeMaxApdu (value : Nat) : Nat := maxApduDecodeTuple.getD value 1476

def encodeSegmentationFields (segmented : Bool) (sequenceNumber proposedWindowSize : Option Nat)
    : Except PyException Bytes := do
  if segmented then
    let sequence ← octet (sequenceNumber.getD 0)
    let window ← octet (proposedWindowSize.getD 1)
    .ok [sequence, window]
  else
    .ok []

def decodeSegmentationFields (data : Bytes) (offset : Nat) (segmented : Bool) (minLen : Nat)
    (pduName : String)
    : Except PyException (Option Nat × Option Nat × Nat) := do
  if ¬ segmented then
    .ok (none, none, offset)
  else if data.length < minLen then
    .error (.valueError
      (s!"Segmented {pduName} too short: need at least {minLen} bytes, got {data.length}"))
  else
    let sequence ← octetAt data offset
    let window ← octetAt data (offset + 1)
    .ok (some sequence.toNat, some window.toNat, offset + 2)

def flag (set : Bool) (bit : Nat) : Nat := if set then bit else 0

-- Encoding

def encodeConfirmedRequest (pdu : ConfirmedRequestPDU) : Except PyException Bytes := do
  let byte0 ← octet (PduType.confirmedRequest.toNat <<< 4 ||| flag pdu.segmented 0x08
    ||| flag pdu.moreFollows 0x04 ||| flag pdu.segmentedResponseAccepted 0x02)
  let byte1 ← octet (encodeMaxSegments pdu.maxSegments <<< 4 ||| encodeMaxApdu pdu.maxApduLength)
  let invokeId ← octet pdu.invokeId
  let fields ← encodeSegmentationFields pdu.segmented pdu.sequenceNumber pdu.proposedWindowSize
  let serviceChoice ← octet pdu.serviceChoice
  .ok ([byte0, byte1, invokeId] ++ fields ++ [serviceChoice] ++ pdu.serviceRequest)

def encodeUnconfirmedRequest (pdu : UnconfirmedRequestPDU) : Except PyException Bytes := do
  let byte0 ← octet (PduType.unconfirmedRequest.toNat <<< 4)
  let serviceChoice ← octet pdu.serviceChoice
  .ok ([byte0, serviceChoice] ++ pdu.serviceRequest)

def encodeSimpleAck (pdu : SimpleAckPDU) : Except PyException Bytes := do
  let byte0 ← octet (PduType.simpleAck.toNat <<< 4)
  let invokeId ← octet pdu.invokeId
  let serviceChoice ← octet pdu.serviceChoice
  .ok [byte0, invokeId, serviceChoice]

def encodeComplexAck (pdu : ComplexAckPDU) : Except PyException Bytes := do
  let byte0 ← octet (PduType.complexAck.toNat <<< 4 ||| flag pdu.segmented 0x08
    ||| flag pdu.moreFollows 0x04)
  let invokeId ← octet pdu.invokeId
  let fields ← encodeSegmentationFields pdu.segmented pdu.sequenceNumber pdu.proposedWindowSize
  let serviceChoice ← octet pdu.serviceChoice
  .ok ([byte0, invokeId] ++ fields ++ [serviceChoice] ++ pdu.serviceAck)

def encodeSegmentAck (pdu : SegmentAckPDU) : Except PyException Bytes := do
  let byte0 ← octet (PduType.segmentAck.toNat <<< 4 ||| flag pdu.negativeAck 0x02
    ||| flag pdu.sentByServer 0x01)
  let invokeId ← octet pdu.invokeId
  let sequence ← octet pdu.sequenceNumber
  let window ← octet pdu.actualWindowSize
  .ok [byte0, invokeId, sequence, window]

def encodeError (pdu : ErrorPDU) : Except PyException Bytes := do
  let byte0 ← octet (PduType.error.toNat <<< 4)
  let invokeId ← octet pdu.invokeId
  let serviceChoice ← octet pdu.serviceChoice
  let errorClass ← encodeApplicationEnumerated pdu.errorClass.toNat
  let errorCode ← encodeApplicationEnumerated pdu.errorCode.toNat
  .ok ([byte0, invokeId, serviceChoice] ++ errorClass ++ errorCode ++ pdu.errorData)

def encodeReject (pdu : RejectPDU) : Except PyException Bytes := do
  let byte0 ← octet (PduType.reject.toNat <<< 4)
  let invokeId ← octet pdu.invokeId
  let reason ← octet pdu.rejectReason.toNat
  .ok [byte0, invokeId, reason]

def encodeAbort (pdu : AbortPDU) : Except PyException Bytes := do
  let byte0 ← octet (PduType.abort.toNat <<< 4 ||| flag pdu.sentByServer 0x01)
  let invokeId ← octet pdu.invokeId
  let reason ← octet pdu.abortReason.toNat
  .ok [byte0, invokeId, reason]

def encodeApdu : APDU → Except PyException Bytes
  | .confirmedRequest pdu => encodeConfirmedRequest pdu
  | .unconfirmedRequest pdu => encodeUnconfirmedRequest pdu
  | .simpleAck pdu => encodeSimpleAck pdu
  | .complexAck pdu => encodeComplexAck pdu
  | .segmentAck pdu => encodeSegmentAck pdu
  | .error pdu => encodeError pdu
  | .reject pdu => encodeReject pdu
  | .abort pdu => encodeAbort pdu

-- Decoding

/-- Whether a bit of an octet is set. -/
def bit (byte mask : UInt8) : Bool := byte &&& mask != 0

/-- `Enum(value)`: the member, or the ValueError of a number outside the enumeration. -/
def enumMember {Member : Type} (name : String) (ofNat? : Nat → Option Member) (value : Nat)
    : Except PyException Member :=
  match ofNat? value with
  | some member => .ok member
  | none => .error (.valueError s!"{value} is not a valid {name}")

def decodeConfirmedRequest (data : Bytes) : Except PyException ConfirmedRequestPDU := do
  if data.length < 4 then
    .error (.valueError
      (s!"ConfirmedRequest too short: need at least 4 bytes, got {data.length}"))
  else
    let byte0 ← octetAt data 0
    let byte1 ← octetAt data 1
    let invokeId ← octetAt data 2
    let (sequenceNumber, proposedWindowSize, offset) ←
      decodeSegmentationFields data 3 (bit byte0 0x08) 6 "ConfirmedRequest"
    let serviceChoice ← octetAt data offset
    .ok {
      segmented := bit byte0 0x08
      moreFollows := bit byte0 0x04
      segmentedResponseAccepted := bit byte0 0x02
      maxSegments := decodeMaxSegments ((byte1 >>> 4) &&& 0x07).toNat
      maxApduLength := decodeMaxApdu (byte1 &&& 0x0F).toNat
      invokeId := invokeId.toNat
      sequenceNumber
      proposedWindowSize
      serviceChoice := serviceChoice.toNat
      serviceRequest := data.drop (offset + 1)
    }

def decodeUnconfirmedRequest (data : Bytes) : Except PyException UnconfirmedRequestPDU := do
  if data.length < 2 then
    .error (.valueError
      (s!"UnconfirmedRequest too short: need at least 2 bytes, got {data.length}"))
  else
    let serviceChoice ← octetAt data 1
    .ok { serviceChoice := serviceChoice.toNat, serviceRequest := data.drop 2 }

def decodeSimpleAck (data : Bytes) : Except PyException SimpleAckPDU := do
  if data.length < 3 then
    .error (.valueError s!"SimpleACK too short: need at least 3 bytes, got {data.length}")
  else
    let invokeId ← octetAt data 1
    let serviceChoice ← octetAt data 2
    .ok { invokeId := invokeId.toNat, serviceChoice := serviceChoice.toNat }

def decodeComplexAck (data : Bytes) : Except PyException ComplexAckPDU := do
  if data.length < 3 then
    .error (.valueError s!"ComplexACK too short: need at least 3 bytes, got {data.length}")
  else
    let byte0 ← octetAt data 0
    let invokeId ← octetAt data 1
    let (sequenceNumber, proposedWindowSize, offset) ←
      decodeSegmentationFields data 2 (bit byte0 0x08) 5 "ComplexACK"
    let serviceChoice ← octetAt data offset
    .ok {
      segmented := bit byte0 0x08
      moreFollows := bit byte0 0x04
      invokeId := invokeId.toNat
      sequenceNumber
      proposedWindowSize
      serviceChoice := serviceChoice.toNat
      serviceAck := data.drop (offset + 1)
    }

def decodeSegmentAck (data : Bytes) : Except PyException SegmentAckPDU := do
  if data.length < 4 then
    .error (.valueError s!"SegmentACK too short: need at least 4 bytes, got {data.length}")
  else
    let byte0 ← octetAt data 0
    let invokeId ← octetAt data 1
    let sequence ← octetAt data 2
    let window ← octetAt data 3
    .ok {
      negativeAck := bit byte0 0x02
      sentByServer := bit byte0 0x01
      invokeId := invokeId.toNat
      sequenceNumber := sequence.toNat
      actualWindowSize := window.toNat
    }

/-- One application-tagged enumerated field of an Error-PDU, and the offset after it. Neither
the class nor the number of the tag is checked.
-/
def decodeErrorField (data : Bytes) (offset : Nat) (field : String)
    : Except PyException (Nat × Nat) := do
  let (tag, offset) ← decodeTag data offset
  if data.length < offset + tag.length then
    .error (.valueError
      (s!"ErrorPDU truncated at {field}: need {tag.length} bytes at offset {offset}"))
  else
    .ok (decodeEnumerated (slice data offset (offset + tag.length)), offset + tag.length)

def decodeError (data : Bytes) : Except PyException ErrorPDU := do
  if data.length < 5 then
    .error (.valueError s!"ErrorPDU too short: need at least 5 bytes, got {data.length}")
  else
    let invokeId ← octetAt data 1
    let serviceChoice ← octetAt data 2
    let (classNumber, offset) ← decodeErrorField data 3 "error class"
    let errorClass ← enumMember "ErrorClass" ErrorClass.ofNat? classNumber
    let (codeNumber, offset) ← decodeErrorField data offset "error code"
    let errorCode ← enumMember "ErrorCode" ErrorCode.ofNat? codeNumber
    .ok {
      invokeId := invokeId.toNat
      serviceChoice := serviceChoice.toNat
      errorClass
      errorCode
      errorData := data.drop offset
    }

def decodeReject (data : Bytes) : Except PyException RejectPDU := do
  if data.length < 3 then
    .error (.valueError s!"RejectPDU too short: need at least 3 bytes, got {data.length}")
  else
    let invokeId ← octetAt data 1
    let reason ← octetAt data 2
    let rejectReason ← enumMember "RejectReason" RejectReason.ofNat? reason.toNat
    .ok { invokeId := invokeId.toNat, rejectReason }

def decodeAbort (data : Bytes) : Except PyException AbortPDU := do
  if data.length < 3 then
    .error (.valueError s!"AbortPDU too short: need at least 3 bytes, got {data.length}")
  else
    let byte0 ← octetAt data 0
    let invokeId ← octetAt data 1
    let reason ← octetAt data 2
    let abortReason ← enumMember "AbortReason" AbortReason.ofNat? reason.toNat
    .ok { sentByServer := bit byte0 0x01, invokeId := invokeId.toNat, abortReason }

/-- A nibble in hexadecimal, as the format `:#x` prints it. -/
def hex (value : Nat) : String := "0x" ++ String.ofList (Nat.toDigits 16 value)

/-- `decode_apdu`: the type nibble of the first octet selects the decoder. -/
def decodeApdu (data : Bytes) : Except PyException APDU := do
  if data.length < 1 then
    .error (.valueError "APDU data too short: need at least 1 byte")
  else
    let byte0 ← octetAt data 0
    let nibble := ((byte0 >>> 4) &&& 0x0F).toNat
    match PduType.ofNat? nibble with
    | none => .error (.valueError ("Unknown PDU type nibble: " ++ hex nibble))
    | some .confirmedRequest => .confirmedRequest <$> decodeConfirmedRequest data
    | some .unconfirmedRequest => .unconfirmedRequest <$> decodeUnconfirmedRequest data
    | some .simpleAck => .simpleAck <$> decodeSimpleAck data
    | some .complexAck => .complexAck <$> decodeComplexAck data
    | some .segmentAck => .segmentAck <$> decodeSegmentAck data
    | some .error => .error <$> decodeError data
    | some .reject => .reject <$> decodeReject data
    | some .abort => .abort <$> decodeAbort data

theorem decodeConfirmedRequest_unsegmented {data pdu}
    (decoded : decodeConfirmedRequest data = .ok pdu) (whole : pdu.segmented = false)
    : pdu.sequenceNumber = none := by
  unfold decodeConfirmedRequest at decoded
  split at decoded
  · cases decoded
  · simp only [bind_eq_ok, Except.ok.injEq] at decoded
    obtain ⟨byte0, _, byte1, _, invokeId, _, ⟨sequence, window, offset⟩, fields, service, _, rfl⟩ :=
      decoded
    dsimp only at whole
    simp only [decodeSegmentationFields, whole, Bool.false_eq_true, not_false_eq_true, if_true,
      Except.ok.injEq, Prod.mk.injEq] at fields
    exact fields.1.symm

/-- A Confirmed-Request comes from its own decoder. -/
theorem decodeApdu_confirmedRequest {data pdu}
    (decoded : decodeApdu data = .ok (.confirmedRequest pdu))
    : decodeConfirmedRequest data = .ok pdu := by
  unfold decodeApdu at decoded
  split at decoded
  · cases decoded
  · simp only [bind_eq_ok] at decoded
    obtain ⟨byte0, _, decoded⟩ := decoded
    split at decoded
    · cases decoded
    all_goals
      obtain ⟨value, found, same⟩ := map_eq_ok.mp decoded
      cases same
    exact found
end BacPy
