import BacPy.App.ClientSteps
import BacPy.Encoding.ApduRoundTrip

/-! What a client says in a request about the responses that it can take: the number of segments and
the length of an APDU. Both go out as codes of a table, and a number without a code goes out as the
largest one.
-/

namespace BacPy

/-- The advertised number of segments is not above the given one. Unspecified, which is read of more
than 64 too, is advertised only where nothing or more than 64 is given.
-/
def SegmentsNotAbove (given advertised : Option Nat) : Prop :=
  match advertised with
  | none => ∀ count ∈ given, 64 < count
  | some limit => ∀ count ∈ given, limit ≤ count

/-- A number of segments is not overstated if it has a code, or is above 64. -/
theorem segmentsNotAbove_iff (given : Option Nat)
    : SegmentsNotAbove given (decodeMaxSegments (encodeMaxSegments given))
      ↔ ∀ count ∈ given, count ∈ [2, 4, 8, 16, 32, 64] ∨ 64 < count := by
  cases given with
  | none => simp [encodeMaxSegments, decodeMaxSegments, maxSegmentsDecodeTuple, SegmentsNotAbove]
  | some count =>
    by_cases listed : count ∈ [2, 4, 8, 16, 32, 64]
    · have coded : ∀ count ∈ [2, 4, 8, 16, 32, 64],
          decodeMaxSegments (encodeMaxSegments (some count)) = some count := by
        decide
      rw [coded count listed]
      simp only [SegmentsNotAbove, Option.mem_some_iff, forall_eq', le_refl, listed, true_or]
    · have unspecified : decodeMaxSegments (encodeMaxSegments (some count)) = none := by
        simp only [List.mem_cons, List.not_mem_nil, or_false, not_or] at listed
        unfold encodeMaxSegments
        split
        all_goals first | rfl | simp_all
      rw [unspecified]
      simp only [SegmentsNotAbove, Option.mem_some_iff, forall_eq', listed, false_or]

/-- A length is not overstated if it has a code, or is above the largest one that has. -/
theorem maxApdu_le_iff (given : Nat)
    : decodeMaxApdu (encodeMaxApdu given) ≤ given
      ↔ given ∈ [50, 128, 206, 480, 1024, 1476] ∨ 1476 < given := by
  by_cases listed : given ∈ [50, 128, 206, 480, 1024, 1476]
  · have coded : ∀ given ∈ [50, 128, 206, 480, 1024, 1476],
        decodeMaxApdu (encodeMaxApdu given) = given := by
      decide
    simp only [coded given listed, le_refl, listed, true_or]
  · have largest : decodeMaxApdu (encodeMaxApdu given) = 1476 := by
      simp only [List.mem_cons, List.not_mem_nil, or_false, not_or] at listed
      unfold encodeMaxApdu
      split
      all_goals first | rfl | simp_all
    rw [largest, or_iff_right listed]
    simp only [List.mem_cons, List.not_mem_nil, or_false, not_or] at listed
    omega

theorem lt_of_octet {value packed} (encoded : octet value = .ok packed)
    : value < 256 := by
  unfold octet at encoded
  split at encoded
  · assumption
  · cases encoded

/-- Segmentation fields that could be encoded are octets. -/
theorem segmentationFieldsValid_of_encoded {segmented sequenceNumber proposedWindowSize fields}
    (sequence : sequenceNumber.isSome = segmented) (window : proposedWindowSize.isSome = segmented)
    (encoded : encodeSegmentationFields segmented sequenceNumber proposedWindowSize = .ok fields)
    : SegmentationFieldsValid segmented sequenceNumber proposedWindowSize := by
  refine ⟨sequence, window, ?_⟩
  cases segmented with
  | false =>
    obtain rfl : sequenceNumber = none := by simpa using sequence
    obtain rfl : proposedWindowSize = none := by simpa using window
    exact ⟨nofun, nofun⟩
  | true =>
    obtain ⟨number, rfl⟩ := Option.isSome_iff_exists.mp sequence
    obtain ⟨size, rfl⟩ := Option.isSome_iff_exists.mp window
    simp only [encodeSegmentationFields, if_true, bind_eq_ok] at encoded
    obtain ⟨_, numberPacked, _, sizePacked, _⟩ := encoded
    simp only [Option.mem_some_iff, forall_eq']
    exact ⟨lt_of_octet numberPacked, lt_of_octet sizePacked⟩

/-- A request that could be encoded is read as what it advertises, if it has segmentation fields just
where it is a segment.
-/
theorem decodeApdu_of_encoded {pdu octets} (sequence : pdu.sequenceNumber.isSome = pdu.segmented)
    (window : pdu.proposedWindowSize.isSome = pdu.segmented)
    (encoded : encodeConfirmedRequest pdu = .ok octets)
    : decodeApdu octets = .ok (.confirmedRequest pdu.advertised) := by
  have parts := encoded
  simp only [encodeConfirmedRequest, bind_eq_ok] at parts
  obtain ⟨_, _, _, _, _, id, _, fields, _, service, _⟩ := parts
  have read := decodeApdu_confirmedRequest_advertised ⟨lt_of_octet id, lt_of_octet service⟩
    (segmentationFieldsValid_of_encoded sequence window fields)
  rw [encoded] at read
  exact read

namespace ClientTSM

variable {self : ClientTSM} {txn : ClientTransaction} {pdu : ConfirmedRequestPDU} {octets : Bytes}

/-- A request of the client, whole or in segments, says what the client and the transaction have. -/
theorem Emits.capabilities (emits : Emits self txn (.confirmedRequest pdu))
    : pdu.maxSegments = self.maxSegments ∧ pdu.maxApduLength = txn.effectiveMaxApdu
      ∧ pdu.sequenceNumber.isSome = pdu.segmented
      ∧ pdu.proposedWindowSize.isSome = pdu.segmented := by
  cases emits with
  | whole short => exact ⟨rfl, rfl, rfl, rfl⟩
  | segment sending inside => exact ⟨rfl, rfl, rfl, rfl⟩

/-- What a receiver reads of an encoded request states neither more segments than the client takes
nor a longer APDU.
-/
def NotOverstated (self : ClientTSM) (txn : ClientTransaction) (octets : Bytes) : Prop :=
  ∃ read, decodeApdu octets = .ok (.confirmedRequest read)
    ∧ SegmentsNotAbove self.maxSegments read.maxSegments
    ∧ read.maxApduLength ≤ txn.effectiveMaxApdu

/-- The numbers that the client goes by have codes, or are larger than all that have. -/
structure Representable (tsm : ClientTSM) (txn : ClientTransaction) : Prop where
  segments : ∀ count ∈ tsm.maxSegments, count ∈ [2, 4, 8, 16, 32, 64] ∨ 64 < count
  length : txn.effectiveMaxApdu ∈ [50, 128, 206, 480, 1024, 1476] ∨ 1476 < txn.effectiveMaxApdu

/-- No request that the client sends for a transaction overstates what it takes, if and only if the
numbers are representable.
-/
theorem notOverstated_iff (emits : Emits self txn (.confirmedRequest pdu))
    (encoded : encodeApdu (.confirmedRequest pdu) = .ok octets)
    : self.NotOverstated txn octets ↔ self.Representable txn := by
  obtain ⟨segments, length, sequence, window⟩ := emits.capabilities
  have read := decodeApdu_of_encoded sequence window encoded
  have advertised : self.NotOverstated txn octets
      ↔ SegmentsNotAbove self.maxSegments (decodeMaxSegments (encodeMaxSegments self.maxSegments))
        ∧ decodeMaxApdu (encodeMaxApdu txn.effectiveMaxApdu) ≤ txn.effectiveMaxApdu := by
    simp only [NotOverstated, read, Except.ok.injEq, APDU.confirmedRequest.injEq, exists_eq_left',
      ConfirmedRequestPDU.advertised, segments, length]
  rw [advertised, segmentsNotAbove_iff, maxApdu_le_iff]
  exact ⟨fun both => ⟨both.1, both.2⟩, fun both => ⟨both.segments, both.length⟩⟩

/-- A request without data, to a peer with a limit of 480 octets. -/
def bareRequest : ClientTransaction where
  invokeId := 7
  destination := { macAddress := [1] }
  serviceChoice := 15
  requestData := []
  effectiveMaxApdu := 480

/-- A client that takes 16 segments. -/
theorem notOverstated_sixteen
    : ClientTSM.NotOverstated { maxSegments := some 16 } bareRequest [2, 67, 7, 15] :=
  (@notOverstated_iff { maxSegments := some 16 } bareRequest _ _ (.whole (by decide)) rfl).mpr
    ⟨by decide, by decide⟩

/-- A client that takes 3 segments says that it takes more than 64, and one whose peer takes 500
octets says 1476.
-/
theorem overstated
    : ¬ (∀ (self : ClientTSM) (txn : ClientTransaction) (pdu : ConfirmedRequestPDU) (octets : Bytes),
        (∀ count ∈ self.maxSegments, 0 < count) → 50 ≤ txn.effectiveMaxApdu →
        Emits self txn (.confirmedRequest pdu) →
        encodeApdu (.confirmedRequest pdu) = .ok octets → self.NotOverstated txn octets)
      ∧ ¬ ClientTSM.NotOverstated { maxSegments := some 3 } bareRequest [2, 115, 7, 15]
      ∧ ¬ ClientTSM.NotOverstated {} { bareRequest with effectiveMaxApdu := 500 } [2, 5, 7, 15] := by
  have segments : ¬ ClientTSM.NotOverstated { maxSegments := some 3 } bareRequest [2, 115, 7, 15] := by
    rintro ⟨read, decoded, notAbove, _⟩
    cases decoded
    exact absurd (notAbove 3 rfl) (by decide)
  refine ⟨fun always => segments ?_, segments, ?_⟩
  · exact always { maxSegments := some 3 } bareRequest _ _ (by simp) (by decide) (.whole (by decide)) rfl
  · rintro ⟨read, decoded, _, short⟩
    cases decoded
    exact absurd short (by decide)

end ClientTSM

end BacPy
