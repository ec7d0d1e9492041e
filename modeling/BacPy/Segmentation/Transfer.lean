import BacPy.Segmentation.Reassembly

/-! Facts about the sending side of a segmented transfer: the sizes of the segments, and which
segments a window holds.
-/

namespace BacPy

open Library

/-- No piece is longer than the size asked for. -/
theorem length_le_of_mem_pieces {payload piece size} (member : piece ∈ pieces payload size)
    : piece.length ≤ size := by
  obtain ⟨k, _, rfl⟩ := List.mem_map.mp member
  simp only [slice, List.length_take, Nat.add_sub_cancel_left]
  exact Nat.min_le_left _ _

/-- A payload is split into segments of at most the size asked for, which is positive. -/
theorem splitPayload_spec {payload maxSegmentSize segments}
    (split : splitPayload payload maxSegmentSize = .ok segments)
    : 0 < maxSegmentSize ∧ segments ≠ []
      ∧ ∀ segment ∈ segments, (segment.length : Int) ≤ maxSegmentSize := by
  unfold splitPayload at split
  split at split
  · cases split
  · next positive =>
      have size : 0 < maxSegmentSize := Int.not_le.mp positive
      split at split
      · cases split
        refine ⟨size, by simp, ?_⟩
        intro segment member
        rw [List.mem_singleton.mp member]
        exact Int.le_of_lt size
      · next nonempty =>
          cases split
          refine ⟨size, ?_, ?_⟩
          · intro none
            have count := congrArg List.length none
            simp only [pieces, List.length_map, List.length_range, List.length_nil] at count
            have positiveSize : 0 < maxSegmentSize.toNat := by omega
            rw [Nat.div_eq_zero_iff_lt positiveSize] at count
            omega
          · intro segment member
            have short := length_le_of_mem_pieces member
            omega

namespace SegmentSender

theorem create_spec
    {payload invokeId serviceChoice maxApduLength pduType proposedWindowSize peerMaxSegments sender}
    (created : create payload invokeId serviceChoice maxApduLength pduType proposedWindowSize
      peerMaxSegments = .ok sender)
    : splitPayload payload (computeMaxSegmentPayload maxApduLength pduType) = .ok sender.segments
      ∧ checkSegmentCount sender.segments.length peerMaxSegments = true
      ∧ sender.windowStartIdx = 0
      ∧ sender.actualWindowSize = proposedWindowSize
      ∧ sender.proposedWindowSize = proposedWindowSize
      ∧ sender.serviceChoice = serviceChoice := by
  unfold create at created
  split at created
  · cases created
  · next segments split =>
      split at created
      · next counted =>
          cases created
          exact ⟨split, counted, rfl, rfl, rfl, rfl⟩
      · cases created

theorem mem_fillWindow {self : SegmentSender} {entry : Nat × Bytes × Bool}
    : entry ∈ self.fillWindow ↔ ∃ idx, self.windowStartIdx ≤ idx ∧ idx < self.endIdx
        ∧ entry = (idx % 256, self.segments.getD idx [],
          decide (idx < self.segments.length - 1)) := by
  simp only [fillWindow, List.mem_map, List.mem_range'_1]
  constructor
  · rintro ⟨idx, ⟨lower, upper⟩, rfl⟩
    exact ⟨idx, lower, by omega, rfl⟩
  · rintro ⟨idx, lower, upper, rfl⟩
    exact ⟨idx, ⟨lower, by omega⟩, rfl⟩

theorem segment_of_mem_fillWindow {self : SegmentSender} {entry : Nat × Bytes × Bool}
    (member : entry ∈ self.fillWindow)
    : entry.2.1 ∈ self.segments := by
  obtain ⟨idx, _, upper, rfl⟩ := mem_fillWindow.mp member
  have inside : idx < self.segments.length := Nat.lt_of_lt_of_le upper (Nat.min_le_left _ _)
  simp [List.getD_eq_getElem?_getD, List.getElem?_eq_getElem inside]

/-- The segment that is searched first among those with the number is found. -/
theorem seqToIdx_eq {self : SegmentSender} {idx : Nat}
    (lower : self.windowStartIdx - self.actualWindowSize ≤ idx)
    (near : idx < self.windowStartIdx - self.actualWindowSize + 256)
    (inside : idx < self.segments.length)
    : self.seqToIdx (idx % 256) = idx := by
  have found : (List.range' (self.windowStartIdx - self.actualWindowSize)
      (self.segments.length - (self.windowStartIdx - self.actualWindowSize))).find?
        (fun other => other % 256 == idx % 256) = some idx := by
    rw [List.find?_eq_some_iff_getElem]
    refine ⟨by simp, idx - (self.windowStartIdx - self.actualWindowSize), ?_, ?_, ?_⟩
    · rw [List.length_range']
      omega
    · rw [List.getElem_range']
      omega
    · intro j earlier
      rw [List.getElem_range']
      simp only [Nat.one_mul, Bool.not_eq_true', beq_eq_false_iff_ne, ne_eq]
      omega
  simp [seqToIdx, found]

end SegmentSender

/-- The payload is the concatenation of its segments. -/
theorem flatten_pieces (payload : Bytes) {size} (positive : 0 < size)
    : (pieces payload size).flatten = payload := by
  have upTo (count : Nat) : ((List.range count).map fun k =>
      slice payload (k * size) (k * size + size)).flatten = payload.take (count * size) := by
    induction count with
    | zero => simp
    | succ count ih =>
      rw [List.range_succ, List.map_append, List.flatten_append, ih]
      simp only [List.map_cons, List.map_nil, List.flatten_cons, List.flatten_nil,
        List.append_nil, slice, Nat.add_sub_cancel_left, Nat.succ_mul]
      rw [List.take_add]
  unfold pieces
  rw [upTo, List.take_of_length_le]
  have covers : payload.length + size - 1 < (payload.length + size - 1) / size * size + size :=
    Nat.lt_div_mul_add positive
  omega

/-- Splitting loses nothing. -/
theorem flatten_splitPayload {payload maxSegmentSize segments}
    (split : splitPayload payload maxSegmentSize = .ok segments)
    : segments.flatten = payload := by
  obtain ⟨positive, _⟩ := splitPayload_spec split
  unfold splitPayload at split
  split at split
  · omega
  · split at split
    · next empty =>
        cases split
        rw [List.length_eq_zero_iff.mp empty]
        rfl
    · cases split
      exact flatten_pieces payload (by omega)

end BacPy

/-! One segmented transfer between its two ends, driven as the TSMs drive them.

The network is hostile: every segment and every SegmentACK that was ever sent may arrive at any
time, any number of times, or never.
-/

namespace BacPy

open Library

-- The two ends

/-- A SegmentACK: acknowledged sequence number, actual window size and negative flag. -/
structure Acknowledgement where
  sequenceNumber : Nat
  actualWindowSize : Nat
  negative : Bool

/-- What a TSM keeps while it sends: the sender and its retry count. -/
structure SendingEnd where
  sender : SegmentSender
  segRetryCount : Nat := 0

namespace SendingEnd

/-- The handling of a SegmentACK by a sending TSM: the end afterwards, whether it goes on sending,
and the window it sends.
-/
def onSegmentAck (self : SendingEnd) (ack : Acknowledgement)
    : SendingEnd × Bool × List (Nat × Bytes × Bool) :=
  if ack.actualWindowSize < 1 ∨ 127 < ack.actualWindowSize then (self, false, [])
  else
    let (sender, complete) :=
      self.sender.handleSegmentAck ack.sequenceNumber ack.actualWindowSize ack.negative
    if complete then ({ sender }, false, []) else ({ sender }, true, sender.fillWindow)

/-- The segment timeout of a sending TSM: the window again, or the end of the transfer. -/
def onSegmentTimeout (self : SendingEnd) (retries : Nat)
    : SendingEnd × Bool × List (Nat × Bytes × Bool) :=
  if self.segRetryCount < retries then
    ({ self with segRetryCount := self.segRetryCount + 1 }, true, self.sender.fillWindow)
  else (self, false, [])

end SendingEnd

/-- What a TSM keeps while it receives: the receiver and its retry count. -/
structure ReceivingEnd where
  receiver : SegmentReceiver
  segRetryCount : Nat := 0

namespace ReceivingEnd

def acknowledgement (self : ReceivingEnd) (seq : Nat) (negative : Bool) : Acknowledgement where
  sequenceNumber := seq
  actualWindowSize := self.receiver.actualWindowSize
  negative

/-- The handling of a segment by a receiving TSM: the end afterwards, whether it goes on
receiving, and the acknowledgements it sends.
-/
def onSegment (self : ReceivingEnd) (seqNum : Nat) (data : Bytes) (moreFollows : Bool)
    : ReceivingEnd × Bool × List Acknowledgement :=
  let (receiver, action, ackSeq) := self.receiver.receiveSegment seqNum data moreFollows
  let self := { self with receiver }
  match action with
  | .complete => (self, false, [self.acknowledgement ackSeq.toNat false])
  | .sendAck | .resendLastAck => (self, true, [self.acknowledgement ackSeq.toNat false])
  | .proceed => (self, true, [])
  | .abort => (self, false, [])

/-- The segment timeout of a receiving TSM: a negative SegmentACK with the last acknowledged
number, or the end of the transfer.
-/
def onSegmentTimeout (self : ReceivingEnd) (retries : Nat)
    : ReceivingEnd × Bool × List Acknowledgement :=
  if self.segRetryCount < retries then
    ({ self with segRetryCount := self.segRetryCount + 1 }, true,
      [self.acknowledgement self.receiver.lastAckSeq true])
  else (self, false, [])

end ReceivingEnd

-- The transfer as a machine

/-- A transfer: its two ends, whether each is still active, and everything sent so far. -/
structure Transfer where
  retries : Nat
  sendingEnd : SendingEnd
  sending : Bool := true
  receivingEnd : ReceivingEnd
  receiving : Bool
  segments : List (Nat × Bytes × Bool)
  acks : List Acknowledgement

namespace Transfer

/-- What happens to a transfer. -/
inductive Event where
  | segmentArrives (index : Nat)
  | ackArrives (index : Nat)
  | sendingTimeout
  | receivingTimeout
  deriving DecidableEq

def withSending (self : Transfer) (stepped : SendingEnd × Bool × List (Nat × Bytes × Bool))
    : Transfer :=
  {
    self with
    sendingEnd := stepped.1
    sending := stepped.2.1
    segments := self.segments ++ stepped.2.2
  }

def withReceiving (self : Transfer) (stepped : ReceivingEnd × Bool × List Acknowledgement)
    : Transfer :=
  {
    self with
    receivingEnd := stepped.1
    receiving := stepped.2.1
    acks := self.acks ++ stepped.2.2
  }

/-- One step of the transfer; an end that is no longer active takes none. -/
def step (self : Transfer) : Event → Option Transfer
  | .segmentArrives index =>
    if self.receiving then
      self.segments[index]?.map fun (seqNum, data, moreFollows) =>
        self.withReceiving (self.receivingEnd.onSegment seqNum data moreFollows)
    else none
  | .ackArrives index =>
    if self.sending then
      self.acks[index]?.map fun ack => self.withSending (self.sendingEnd.onSegmentAck ack)
    else none
  | .sendingTimeout =>
    if self.sending then
      some (self.withSending (self.sendingEnd.onSegmentTimeout self.retries))
    else none
  | .receivingTimeout =>
    if self.receiving then
      some (self.withReceiving (self.receivingEnd.onSegmentTimeout self.retries))
    else none

/-- The start of a transfer: the first window is sent, and the receiver was created from segment
0 and has acknowledged it.
-/
def start (retries ourWindowSize : Nat) (sender : SegmentSender) : Transfer :=
  let moreFollows := decide (0 < sender.segments.length - 1)
  let receivingEnd : ReceivingEnd := {
    receiver := SegmentReceiver.create (sender.segments.getD 0 []) sender.serviceChoice
      sender.proposedWindowSize moreFollows ourWindowSize
  }
  {
    retries
    sendingEnd := { sender }
    receivingEnd
    receiving := moreFollows
    segments := sender.fillWindow
    acks := [receivingEnd.acknowledgement 0 false]
  }

end Transfer

end BacPy
