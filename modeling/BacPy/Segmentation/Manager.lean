import BacPy.Encoding.Octets
import BacPy.Library.Dict
import BacPy.Types.Enums

/-! APDU segmentation and reassembly (Clause 5.2/5.4): the sending and the receiving side of
one segmented transfer, without any I/O.
-/

namespace BacPy

open Library

/-- `_MAX_REASSEMBLY_SIZE`: 1 MiB cap on total reassembly size. -/
def maxReassemblySize : Nat := 1048576

def confirmedRequestSegmentOverhead : Int := 6

def complexAckSegmentOverhead : Int := 5

/-- `SegmentationError`: the payload needs more segments than the peer accepts. -/
structure SegmentationError where
  abortReason : AbortReason
  message : String

/-- The exceptions of `SegmentSender.create`. -/
inductive SenderError where
  | segmentation (error : SegmentationError)
  | python (error : PyException)

/-- `SegmentAction`: what the receiver should do after processing a segment. -/
inductive SegmentAction where
  | proceed | sendAck | resendLastAck | complete | abort

/-- The `pdu_type` argument that selects the header overhead. -/
inductive SegmentedPduType where
  | confirmedRequest | complexAck

-- Pure functions per Clause 5.4

/-- `in_window`: `(seqA - seqB) mod 256 < ActualWindowSize`. -/
def inWindow (seqA seqB actualWindowSize : Nat) : Bool :=
  ((seqA : Int) - seqB) % 256 < actualWindowSize

/-- `duplicate_in_window`: `Wm < (seqA - seqB) mod 256 <= 255` where
`Wm = max(ActualWindowSize, ProposedWindowSize)`.
-/
def duplicateInWindow (seqA seqB actualWindowSize proposedWindowSize : Nat) : Bool :=
  let wm : Int := max actualWindowSize proposedWindowSize
  let diff := ((seqA : Int) - seqB) % 256
  wm < diff ∧ diff ≤ 255

def computeMaxSegmentPayload (maxApduLength : Nat) (pduType : SegmentedPduType) : Int :=
  maxApduLength - (match pduType with
    | .confirmedRequest => confirmedRequestSegmentOverhead
    | .complexAck => complexAckSegmentOverhead)

/-- The pieces `payload[i : i + size]` for `i` in `range(0, len(payload), size)`. -/
def pieces (payload : Bytes) (size : Nat) : List Bytes :=
  (List.range ((payload.length + size - 1) / size)).map fun k =>
    slice payload (k * size) (k * size + size)

def splitPayload (payload : Bytes) (maxSegmentSize : Int) : Except PyException (List Bytes) :=
  if maxSegmentSize ≤ 0 then
    .error (.valueError s!"max_segment_size must be positive, got {maxSegmentSize}")
  else if payload.length = 0 then
    .ok [[]]
  else
    .ok (pieces payload maxSegmentSize.toNat)

def checkSegmentCount (numSegments : Nat) : Option Nat → Bool
  | none => true
  | some maxSegments => numSegments ≤ maxSegments

-- Sending side

/-- `SegmentSender`: segments by absolute 0-based index, 8-bit sequence numbers on the wire. -/
structure SegmentSender where
  segments : List Bytes
  invokeId : Nat
  serviceChoice : Nat
  proposedWindowSize : Nat
  actualWindowSize : Nat
  windowStartIdx : Nat := 0

def SegmentSender.create (payload : Bytes) (invokeId serviceChoice maxApduLength : Nat)
    (pduType : SegmentedPduType) (proposedWindowSize : Nat) (peerMaxSegments : Option Nat := none)
    : Except SenderError SegmentSender :=
  match splitPayload payload (computeMaxSegmentPayload maxApduLength pduType) with
  | .error error => .error (.python error)
  | .ok segments =>
    if checkSegmentCount segments.length peerMaxSegments then
      .ok {
        segments, invokeId, serviceChoice, proposedWindowSize
        actualWindowSize := proposedWindowSize
      }
    else
      .error (.segmentation {
        abortReason := .apduTooLong
        message := s!"Payload requires {segments.length} segments but peer accepts "
          ++ s!"at most {peerMaxSegments.getD 0}"
      })

namespace SegmentSender

/-- `is_complete`: all segments have been acknowledged. -/
def isComplete (self : SegmentSender) : Bool := self.segments.length ≤ self.windowStartIdx

/-- The index after the last one of the current window. -/
def endIdx (self : SegmentSender) : Nat :=
  min self.segments.length (self.windowStartIdx + self.actualWindowSize)

/-- `fill_window`: sequence number, data and more-follows flag of the window's segments. -/
def fillWindow (self : SegmentSender) : List (Nat × Bytes × Bool) :=
  (List.range' self.windowStartIdx (self.endIdx - self.windowStartIdx)).map fun idx =>
    (idx % 256, self.segments.getD idx [], decide (idx < self.segments.length - 1))

/-- `_seq_to_idx`: the first index at or above `_window_start_idx - actual_window_size` with
the sequence number, else the window start.
-/
def seqToIdx (self : SegmentSender) (seq : Nat) : Nat :=
  let searchStart := self.windowStartIdx - self.actualWindowSize
  ((List.range' searchStart (self.segments.length - searchStart)).find? fun idx =>
    idx % 256 == seq).getD self.windowStartIdx

/-- `handle_segment_ack`: the sender after a SegmentACK, and whether all segments have been
acknowledged. The `negative` flag of the source only selects a log message.
-/
def handleSegmentAck (self : SegmentSender) (ackSeq actualWindowSize : Nat) (_negative : Bool)
    : SegmentSender × Bool :=
  let self' := {
    self with
    actualWindowSize
    windowStartIdx := self.seqToIdx ackSeq + 1
  }
  (self', self'.isComplete)

end SegmentSender

-- Receiving side

/-- `SegmentReceiver`: reassembly of received segments by absolute 0-based index. Everything below
the expected index has been received.
-/
structure SegmentReceiver where
  segments : Dict Nat Bytes
  expectedIdx : Nat
  actualWindowSize : Nat
  proposedWindowSize : Nat
  serviceChoice : Nat
  finalIdx : Option Nat
  lastAckSeq : Nat
  windowStartIdx : Nat
  totalBytes : Nat
  gapless : ∀ index, index < expectedIdx → (segments.get index).isSome

namespace SegmentReceiver

/-- `create`: a receiver holding the first segment (sequence number 0). -/
def create (firstSegmentData : Bytes) (serviceChoice proposedWindowSize : Nat)
    (moreFollows : Bool) (ourWindowSize : Nat)
    : SegmentReceiver where
  segments := Dict.empty.set 0 firstSegmentData
  expectedIdx := 1
  actualWindowSize := min ourWindowSize proposedWindowSize
  proposedWindowSize
  serviceChoice
  finalIdx := if moreFollows then none else some 0
  lastAckSeq := 0
  windowStartIdx := 1
  totalBytes := firstSegmentData.length
  gapless := by
    intro index first
    rw [Nat.lt_one_iff.mp first, Dict.get_set_self]
    rfl

def isComplete (self : SegmentReceiver) : Bool :=
  match self.finalIdx with
  | none => false
  | some finalIdx => finalIdx < self.expectedIdx

/-- `_seq_to_abs_idx`: the index near `_expected_idx` with the sequence number. -/
def seqToAbsIdx (self : SegmentReceiver) (seqNum : Nat) : Nat :=
  let expectedSeq := self.expectedIdx % 256
  self.expectedIdx + (((seqNum : Int) - expectedSeq) % 256).toNat

/-- The store of `receive_segment`: the data under its index, replacing an older copy in the
byte count.
-/
def store (self : SegmentReceiver) (absIdx : Nat) (data : Bytes) : SegmentReceiver :=
  let counted := match self.segments.get absIdx with
    | some old => self.totalBytes - old.length
    | none => self.totalBytes
  {
    self with
    segments := self.segments.set absIdx data
    totalBytes := counted + data.length
    gapless := by
      intro index below
      rw [Dict.get_set]
      split
      · rfl
      · exact self.gapless index below
  }

/-- The final index, expected index and last sequence number after a segment is stored. -/
def record (self : SegmentReceiver) (absIdx seqNum : Nat) (moreFollows : Bool)
    : SegmentReceiver where
  segments := self.segments
  expectedIdx := self.segments.firstAbsent self.expectedIdx
  actualWindowSize := self.actualWindowSize
  proposedWindowSize := self.proposedWindowSize
  serviceChoice := self.serviceChoice
  finalIdx := if moreFollows then self.finalIdx else some absIdx
  lastAckSeq := seqNum
  windowStartIdx := self.windowStartIdx
  totalBytes := self.totalBytes
  gapless := by
    intro index below
    by_cases earlier : index < self.expectedIdx
    · exact self.gapless index earlier
    · exact Dict.firstAbsent_present _ _ (Nat.le_of_not_lt earlier) below

/-- The rest of `receive_segment` for a segment stored within the size cap: the record of the
segment, and the acknowledgement at a window boundary.
-/
def advance (self : SegmentReceiver) (absIdx seqNum : Nat) (moreFollows : Bool)
    : SegmentReceiver × SegmentAction × Int :=
  let self := self.record absIdx seqNum moreFollows
  if self.isComplete then
    ({ self with windowStartIdx := self.expectedIdx }, .complete, seqNum)
  else if self.windowStartIdx + self.actualWindowSize ≤ self.expectedIdx then
    ({ self with windowStartIdx := self.expectedIdx }, .sendAck, seqNum)
  else
    (self, .proceed, seqNum)

/-- `receive_segment`: the receiver after a segment, the action to take and the sequence
number to acknowledge (-1 for an abort).
-/
def receiveSegment (self : SegmentReceiver) (seqNum : Nat) (data : Bytes) (moreFollows : Bool)
    : SegmentReceiver × SegmentAction × Int :=
  let expectedSeq := self.expectedIdx % 256
  if inWindow seqNum expectedSeq self.actualWindowSize then
    let absIdx := self.seqToAbsIdx seqNum
    let stored := self.store absIdx data
    if maxReassemblySize < stored.totalBytes then
      (stored, .abort, -1)
    else
      stored.advance absIdx seqNum moreFollows
  else if duplicateInWindow seqNum expectedSeq self.actualWindowSize self.proposedWindowSize then
    (self, .resendLastAck, self.lastAckSeq)
  else
    (self, .abort, -1)

/-- `self._segments[i]` -/
def segment (self : SegmentReceiver) (i : Nat) : Except PyException Bytes :=
  match self.segments.get i with
  | some data => .ok data
  | none => .error (.keyError i)

/-- `reassemble`: all segments in order, if the transfer is complete. -/
def reassemble (self : SegmentReceiver) : Except PyException Bytes :=
  match self.finalIdx with
  | some finalIdx =>
    if self.isComplete then
      List.flatten <$> (List.range (finalIdx + 1)).mapM self.segment
    else
      .error (.valueError "Cannot reassemble: not all segments received")
  | none => .error (.valueError "Cannot reassemble: not all segments received")

end SegmentReceiver

end BacPy
