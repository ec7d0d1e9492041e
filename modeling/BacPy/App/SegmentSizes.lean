import BacPy.App.ServerTsm
import BacPy.Segmentation.WindowSafety

/-! The APDUs of the segments that a client or a server sends: none is longer than the length that the
payload has been split for.
-/

namespace BacPy

open Library

-- Segments

/-- All pieces but the last one are as long as they may be. -/
theorem length_pieces {payload size idx} (positive : 0 < size)
    (notLast : idx + 1 < (pieces payload size).length)
    : ((pieces payload size).getD idx []).length = size := by
  have inside : idx < (pieces payload size).length := by omega
  have count : (pieces payload size).length = (payload.length + size - 1) / size := by
    simp [pieces]
  have before : (idx + 1) * size < payload.length := by
    rw [count] at notLast
    have reached := (Nat.lt_div_iff_mul_lt positive).mp notLast
    have commuted := Nat.mul_comm size (idx + 1)
    omega
  have piece : (pieces payload size).getD idx [] = slice payload (idx * size) (idx * size + size) := by
    rw [List.getD_eq_getElem?_getD, List.getElem?_eq_getElem inside, Option.getD_some]
    simp [pieces]
  rw [Nat.succ_mul] at before
  rw [piece, slice, List.length_take, List.length_drop]
  omega

/-- All segments of a payload but the last one are as long as they may be. -/
theorem length_splitPayload {payload maxSegmentSize segments}
    (split : splitPayload payload maxSegmentSize = .ok segments) {idx}
    (notLast : idx + 1 < segments.length)
    : ((segments.getD idx []).length : Int) = maxSegmentSize := by
  unfold splitPayload at split
  split at split
  · cases split
  · next positive =>
      split at split
      · cases split
        exact absurd notLast (by simp)
      · cases split
        rw [length_pieces (by omega) notLast]
        omega

-- Encodings

/-- The first octets of a Confirmed-Request are octets. -/
theorem small_header (segmented moreFollows accepted : Bool) (maxSegments : Option Nat)
    (maxApduLength : Nat)
    : PduType.confirmedRequest.toNat <<< 4 ||| flag segmented 0x08 ||| flag moreFollows 0x04
          ||| flag accepted 0x02 < 256
      ∧ encodeMaxSegments maxSegments <<< 4 ||| encodeMaxApdu maxApduLength < 256 := by
  have table : ∀ first < 8, ∀ second < 6, first <<< 4 ||| second < 256 := by decide
  have first : encodeMaxSegments maxSegments < 8 := by unfold encodeMaxSegments; split <;> omega
  have second : encodeMaxApdu maxApduLength < 6 := by unfold encodeMaxApdu; split <;> omega
  refine ⟨?_, table _ first _ second⟩
  cases segmented <;> cases moreFollows <;> cases accepted <;> decide

/-- A segment of a request has six octets before its data. -/
theorem encode_requestSegment {pdu seq window} (segmented : pdu.segmented = true)
    (sequenceNumber : pdu.sequenceNumber = some seq)
    (proposedWindowSize : pdu.proposedWindowSize = some window) (small : seq < 256 ∧ window < 256)
    (octets : pdu.invokeId < 256 ∧ pdu.serviceChoice < 256)
    : ∃ encoded, encodeApdu (.confirmedRequest pdu) = .ok encoded
        ∧ encoded.length = 6 + pdu.serviceRequest.length := by
  obtain ⟨first, second⟩ := small_header pdu.segmented pdu.moreFollows pdu.segmentedResponseAccepted
    pdu.maxSegments pdu.maxApduLength
  show ∃ encoded, encodeConfirmedRequest pdu = .ok encoded ∧ _
  unfold encodeConfirmedRequest encodeSegmentationFields
  rw [octet_ok first, octet_ok second, octet_ok octets.1, octet_ok octets.2, segmented,
    sequenceNumber, proposedWindowSize, Option.getD_some, Option.getD_some, octet_ok small.1,
    octet_ok small.2]
  refine ⟨_, rfl, ?_⟩
  simp only [List.cons_append, List.nil_append, List.length_cons]
  omega

/-- A segment of a response has five octets before its data. -/
theorem encode_responseSegment {pdu seq window} (segmented : pdu.segmented = true)
    (sequenceNumber : pdu.sequenceNumber = some seq)
    (proposedWindowSize : pdu.proposedWindowSize = some window) (small : seq < 256 ∧ window < 256)
    (octets : pdu.invokeId < 256 ∧ pdu.serviceChoice < 256)
    : ∃ encoded, encodeApdu (.complexAck pdu) = .ok encoded
        ∧ encoded.length = 5 + pdu.serviceAck.length := by
  have first : PduType.complexAck.toNat <<< 4 ||| flag pdu.segmented 0x08
      ||| flag pdu.moreFollows 0x04 < 256 := by
    generalize pdu.segmented = segmented
    generalize pdu.moreFollows = moreFollows
    cases segmented <;> cases moreFollows <;> decide
  show ∃ encoded, encodeComplexAck pdu = .ok encoded ∧ _
  unfold encodeComplexAck encodeSegmentationFields
  rw [octet_ok first, octet_ok octets.1, octet_ok octets.2, segmented,
    sequenceNumber, proposedWindowSize, Option.getD_some, Option.getD_some, octet_ok small.1,
    octet_ok small.2]
  refine ⟨_, rfl, ?_⟩
  simp only [List.cons_append, List.nil_append, List.length_cons]
  omega

-- The segments of a transfer

/-- The octets of a segment's header. -/
def segmentOverhead : SegmentedPduType → Nat
  | .confirmedRequest => 6
  | .complexAck => 5

def APDU.sequenceNumber : APDU → Option Nat
  | .confirmedRequest pdu => pdu.sequenceNumber
  | .complexAck pdu => pdu.sequenceNumber
  | _ => none

/-- Whether more segments follow an APDU. -/
def APDU.moreFollows : APDU → Bool
  | .confirmedRequest pdu => pdu.moreFollows
  | .complexAck pdu => pdu.moreFollows
  | _ => false

/-- The APDU that a client or a server builds of an entry of the window; its service choice and invoke
ID are octets.
-/
inductive BuiltOf (sender : SegmentSender) (entry : Nat × Bytes × Bool) : SegmentedPduType → APDU → Prop
  | request (tsm : ClientTSM) (txn : ClientTransaction)
    (octets : txn.invokeId < 256 ∧ txn.serviceChoice < 256)
    : BuiltOf sender entry .confirmedRequest (.confirmedRequest (tsm.requestSegmentPdu txn sender entry))
  | response (txn : ServerTransaction) (octets : txn.invokeId < 256 ∧ sender.serviceChoice < 256)
    : BuiltOf sender entry .complexAck (.complexAck (txn.responseSegmentPdu sender entry))

/-- The APDU of a segment is within the length, has the number of the segment, and says that more
follow unless it is the last one.
-/
structure LegalSegment (apdu : APDU) (maxApduLength idx count : Nat) : Prop where
  short : ∃ encoded, encodeApdu apdu = .ok encoded ∧ encoded.length ≤ maxApduLength
  number : apdu.sequenceNumber = some (idx % 256)
  more : apdu.moreFollows = decide (idx < count - 1)

/-- Acknowledgements and windows leave the segments as they are. -/
theorem WindowRun.segments_of_run {state final events}
    (ran : run WindowRun.step state events = some final)
    : final.sender.segments = state.sender.segments
      ∧ final.sender.proposedWindowSize = state.sender.proposedWindowSize
      ∧ final.sender.serviceChoice = state.sender.serviceChoice := by
  refine @invariant_every_run _ _ WindowRun.step (fun reached =>
    reached.sender.segments = state.sender.segments
      ∧ reached.sender.proposedWindowSize = state.sender.proposedWindowSize
      ∧ reached.sender.serviceChoice = state.sender.serviceChoice) ?_ _ _ _ ⟨rfl, rfl, rfl⟩ ran
  intro reached event next same stepped
  cases event <;> cases stepped <;> exact same

section Legal

variable {payload : Bytes} {invokeId serviceChoice maxApduLength : Nat} {pduType : SegmentedPduType}
  {proposedWindowSize : Nat} {peerMaxSegments : Option Nat} {sender : SegmentSender}

/-- An entry of a window is the number, the data and the flag of a segment, and so is its APDU. -/
theorem legal_of_mem_fillWindow {entry apdu} (listed : entry ∈ sender.fillWindow)
    (proposed : sender.proposedWindowSize < 256)
    (fits : ∀ segment ∈ sender.segments, segmentOverhead pduType + segment.length ≤ maxApduLength)
    (built : BuiltOf sender entry pduType apdu)
    : ∃ idx < sender.segments.length, entry.2.1 = sender.segments.getD idx []
        ∧ LegalSegment apdu maxApduLength idx sender.segments.length := by
  have small := fits _ (SegmentSender.segment_of_mem_fillWindow listed)
  obtain ⟨idx, _, upper, rfl⟩ := SegmentSender.mem_fillWindow.mp listed
  have inside : idx < sender.segments.length := Nat.lt_of_lt_of_le upper (Nat.min_le_left ..)
  have octet : idx % 256 < 256 := Nat.mod_lt _ (by decide)
  refine ⟨idx, inside, rfl, ?_⟩
  generalize entered : (idx % 256, sender.segments.getD idx [],
    decide (idx < sender.segments.length - 1)) = entry at small built
  cases built with
  | request tsm txn octets =>
    subst entered
    obtain ⟨encoded, same, length⟩ := @encode_requestSegment
      (tsm.requestSegmentPdu txn sender (idx % 256, _, _)) (idx % 256) sender.proposedWindowSize rfl rfl rfl ⟨octet, proposed⟩ octets
    exact ⟨⟨encoded, same, length ▸ small⟩, rfl, rfl⟩
  | response txn octets =>
    subst entered
    obtain ⟨encoded, same, length⟩ := @encode_responseSegment
      (txn.responseSegmentPdu sender (idx % 256, _, _)) (idx % 256) sender.proposedWindowSize rfl rfl rfl ⟨octet, proposed⟩ octets
    exact ⟨⟨encoded, same, length ▸ small⟩, rfl, rfl⟩

/-- A created sender has the payload in segments that are as long as they may be, but for the last one.
Whatever windows and acknowledgements there are, what is built of its windows are legal segments.
-/
theorem segments_legal (room : segmentOverhead pduType < maxApduLength)
    (created : SegmentSender.create payload invokeId serviceChoice maxApduLength pduType
      proposedWindowSize peerMaxSegments = .ok sender)
    (proposed : proposedWindowSize < 256)
    : sender.segments.flatten = payload
      ∧ (∀ idx, idx + 1 < sender.segments.length →
        (sender.segments.getD idx []).length = maxApduLength - segmentOverhead pduType)
      ∧ ∀ events state, run WindowRun.step { sender } events = some state →
        ∀ entry ∈ state.sender.fillWindow, ∀ apdu, BuiltOf state.sender entry pduType apdu →
          ∃ idx < sender.segments.length, entry.2.1 = sender.segments.getD idx []
            ∧ LegalSegment apdu maxApduLength idx sender.segments.length := by
  obtain ⟨split, _, _, _, window, _⟩ := SegmentSender.create_spec created
  have overhead : computeMaxSegmentPayload maxApduLength pduType
      = maxApduLength - (segmentOverhead pduType : Int) := by
    cases pduType <;> rfl
  rw [overhead] at split
  refine ⟨flatten_splitPayload split, fun idx notLast => ?_, fun events state ran entry listed apdu built => ?_⟩
  · have length := length_splitPayload split notLast
    omega
  · obtain ⟨segments, sameWindow, _⟩ := WindowRun.segments_of_run ran
    dsimp only at segments sameWindow
    rw [← segments]
    refine legal_of_mem_fillWindow listed (by omega) (fun segment member => ?_) built
    rw [segments] at member
    have short := (splitPayload_spec split).2.2 segment member
    omega

end Legal

/-- Five octets in three segments of a request of at most eight octets. -/
def fiveOctets : SegmentSender where
  segments := [[1, 2], [3, 4], [5]]
  invokeId := 7
  serviceChoice := 15
  proposedWindowSize := 2
  actualWindowSize := 2

/-- A client sends the five octets; the second window, after the acknowledgement of the first one, has
the last segment.
-/
theorem segments_legal_fiveOctets
    : fiveOctets.segments.flatten = [1, 2, 3, 4, 5]
      ∧ (fiveOctets.segments.getD 0 []).length = 8 - 6
      ∧ ∃ idx < 3, [5] = fiveOctets.segments.getD idx []
          ∧ LegalSegment
              (.confirmedRequest (ClientTSM.requestSegmentPdu {}
                {
                  invokeId := 7
                  destination := { macAddress := [7] }
                  serviceChoice := 15
                  requestData := []
                  effectiveMaxApdu := 8
                }
                fiveOctets (2, [5], false)))
              8 idx 3 := by
  obtain ⟨whole, length, built⟩ := @segments_legal [1, 2, 3, 4, 5] 7 15 8 .confirmedRequest 2 none
    fiveOctets (by decide) rfl (by decide)
  refine ⟨whole, length 0 (by decide), ?_⟩
  exact built [.fillWindow, .segmentAck 1 2 false] _ rfl (2, [5], false) (by decide) _
    (.request {} _ ⟨by decide, by decide⟩)

end BacPy
