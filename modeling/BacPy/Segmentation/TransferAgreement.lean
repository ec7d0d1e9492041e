import BacPy.Library.Runs
import BacPy.Segmentation.Transfer

/-! Agreement of the two ends of a transfer: the sender never moves its window past the first
segment the receiver is still missing.

Acknowledgements at window boundaries carry the number of the segment that was expected. An
acknowledgement that repeats `last_ack_seq` carries the number of the last segment stored, which
lies beyond a gap when segments were lost.
-/

namespace BacPy

open Library

namespace Transfer

/-- The sender is not ahead of the receiver, and a complete sender has a complete receiver. -/
structure Agrees (transfer : Transfer) : Prop where
  behind : transfer.sendingEnd.sender.windowStartIdx ≤ transfer.receivingEnd.receiver.expectedIdx
  complete : transfer.sendingEnd.sender.isComplete = true
    → ∀ idx, idx < transfer.sendingEnd.sender.segments.length
      → transfer.receivingEnd.receiver.segments.get idx
        = transfer.sendingEnd.sender.segments[idx]?

/-- The step uses a number it should not: an acknowledgement repeats `last_ack_seq` although that
segment lies beyond a gap, or an acknowledgement arrives that is older than one window.
-/
def Misleads (self : Transfer) : Event → Prop
  | .receivingTimeout =>
    self.receivingEnd.receiver.expectedIdx ≤ self.receivingEnd.receiver.lastAckSeq
  | .segmentArrives index =>
    ∃ segment ∈ self.segments[index]?,
      inWindow segment.1 (self.receivingEnd.receiver.expectedIdx % 256)
        self.receivingEnd.receiver.actualWindowSize = false
      ∧ self.receivingEnd.receiver.expectedIdx ≤ self.receivingEnd.receiver.lastAckSeq
  | .ackArrives index =>
    ∃ ack ∈ self.acks[index]?, ack.sequenceNumber
      < self.sendingEnd.sender.windowStartIdx - self.sendingEnd.sender.actualWindowSize
  | .sendingTimeout => False

instance (self : Transfer) : DecidablePred self.Misleads
  | .receivingTimeout => inferInstanceAs (Decidable (_ ≤ _))
  | .segmentArrives _ => inferInstanceAs (Decidable (∃ segment ∈ _, _))
  | .ackArrives _ => inferInstanceAs (Decidable (∃ ack ∈ _, _))
  | .sendingTimeout => inferInstanceAs (Decidable False)

/-- What the ends and the network share during a transfer of at most 128 segments. -/
structure Consistent (transfer : Transfer) (segments : List Bytes) : Prop where
  payload : transfer.sendingEnd.sender.segments = segments
  few : segments.length ≤ 128
  window : 1 ≤ transfer.receivingEnd.receiver.actualWindowSize
    ∧ transfer.receivingEnd.receiver.actualWindowSize ≤ 127
  sent : ∀ entry ∈ transfer.segments, ∃ idx, idx < segments.length
    ∧ entry = (idx, segments.getD idx [], decide (idx < segments.length - 1))
  holds : transfer.receivingEnd.receiver.HoldsPartOf segments
  acked : ∀ ack ∈ transfer.acks,
    ack.sequenceNumber < transfer.receivingEnd.receiver.expectedIdx
  behind : transfer.sendingEnd.sender.windowStartIdx ≤ transfer.receivingEnd.receiver.expectedIdx
  inside : transfer.receiving = true → transfer.receivingEnd.receiver.expectedIdx
    < transfer.receivingEnd.receiver.windowStartIdx
      + transfer.receivingEnd.receiver.actualWindowSize
  missing : transfer.receiving = true
    → transfer.receivingEnd.receiver.segments.get transfer.receivingEnd.receiver.expectedIdx = none

variable {self next : Transfer} {segments : List Bytes} {event : Event}

/-- Consistency gives agreement: the segments below the expected index are the sender's. -/
theorem Consistent.agrees (consistent : self.Consistent segments) : self.Agrees where
  behind := consistent.behind
  complete := by
    intro complete idx inside
    have all : self.sendingEnd.sender.segments.length
        ≤ self.sendingEnd.sender.windowStartIdx :=
      of_decide_eq_true complete
    have behind := consistent.behind
    obtain ⟨data, stored⟩ := Option.isSome_iff_exists.mp
      (self.receivingEnd.receiver.gapless idx (by omega))
    rw [stored, consistent.payload]
    rw [consistent.payload] at inside
    rw [List.getElem?_eq_getElem inside, (consistent.holds.stored idx data
        (by have few := consistent.few; omega) stored).2,
      List.getD_eq_getElem?_getD, List.getElem?_eq_getElem inside, Option.getD_some]

/-- The window of a sender with at most 128 segments consists of segments under their index. -/
theorem mem_fillWindow_few {sender : SegmentSender} (few : sender.segments.length ≤ 128)
    {entry : Nat × Bytes × Bool} (member : entry ∈ sender.fillWindow)
    : ∃ idx, idx < sender.segments.length
      ∧ entry = (idx, sender.segments.getD idx [],
        decide (idx < sender.segments.length - 1)) := by
  obtain ⟨idx, _, upper, rfl⟩ := SegmentSender.mem_fillWindow.mp member
  have inside : idx < sender.segments.length := Nat.lt_of_lt_of_le upper (Nat.min_le_left _ _)
  exact ⟨idx, inside, by rw [Nat.mod_eq_of_lt (by omega)]⟩

-- Steps of the sending end

/-- A step of the sending end keeps the transfer consistent, if it keeps the segments and does
not overtake the receiver.
-/
theorem Consistent.withSending {stepped : SendingEnd × Bool × List (Nat × Bytes × Bool)}
    (consistent : self.Consistent segments)
    (payload : stepped.1.sender.segments = segments)
    (behind : stepped.1.sender.windowStartIdx ≤ self.receivingEnd.receiver.expectedIdx)
    (window : ∀ entry ∈ stepped.2.2, entry ∈ stepped.1.sender.fillWindow)
    : (self.withSending stepped).Consistent segments where
  payload := payload
  few := consistent.few
  window := consistent.window
  sent := by
    intro entry member
    rcases List.mem_append.mp member with old | new
    · exact consistent.sent entry old
    · have few := consistent.few
      rw [← payload] at few ⊢
      exact mem_fillWindow_few few (window entry new)
  holds := consistent.holds
  acked := consistent.acked
  behind := behind
  inside := consistent.inside
  missing := consistent.missing

/-- An acknowledgement that is not too old moves the window right behind its own segment. -/
theorem Consistent.ackArrives {ack} (consistent : self.Consistent segments)
    (member : ack ∈ self.acks)
    (recent : self.sendingEnd.sender.windowStartIdx - self.sendingEnd.sender.actualWindowSize
      ≤ ack.sequenceNumber)
    : (self.withSending (self.sendingEnd.onSegmentAck ack)).Consistent segments := by
  have acked := consistent.acked ack member
  have bound := consistent.holds.expectedIdx_le consistent.few
  have few := consistent.few
  have found : self.sendingEnd.sender.seqToIdx ack.sequenceNumber = ack.sequenceNumber := by
    have small : ack.sequenceNumber % 256 = ack.sequenceNumber := Nat.mod_eq_of_lt (by omega)
    have same := SegmentSender.seqToIdx_eq recent (by omega)
      (show ack.sequenceNumber < self.sendingEnd.sender.segments.length by
        rw [consistent.payload]; omega)
    rwa [small] at same
  have moved : (self.sendingEnd.sender.handleSegmentAck ack.sequenceNumber ack.actualWindowSize
      ack.negative).1.windowStartIdx = ack.sequenceNumber + 1 :=
    congrArg (· + 1) found
  unfold SendingEnd.onSegmentAck
  split
  · exact consistent.withSending consistent.payload consistent.behind (by simp)
  · dsimp only
    split
    · exact consistent.withSending consistent.payload (by rw [moved]; omega) (by simp)
    · exact consistent.withSending consistent.payload (by rw [moved]; omega) (by simp)

/-- A timeout sends the window again. -/
theorem Consistent.sendingTimeout (consistent : self.Consistent segments)
    : (self.withSending (self.sendingEnd.onSegmentTimeout self.retries)).Consistent segments := by
  unfold SendingEnd.onSegmentTimeout
  split
  · exact consistent.withSending consistent.payload consistent.behind (by simp)
  · exact consistent.withSending consistent.payload consistent.behind (by simp)

-- Steps of the receiving end

/-- A step of the receiving end that acknowledges received segments only. -/
theorem Consistent.withReceiving {stepped} (consistent : self.Consistent segments)
    (sameWindow : stepped.1.receiver.actualWindowSize
      = self.receivingEnd.receiver.actualWindowSize)
    (holds : stepped.1.receiver.HoldsPartOf segments)
    (grows : self.receivingEnd.receiver.expectedIdx ≤ stepped.1.receiver.expectedIdx)
    (acked : ∀ ack ∈ stepped.2.2, ack.sequenceNumber < stepped.1.receiver.expectedIdx)
    (inside : stepped.2.1 = true → stepped.1.receiver.expectedIdx
      < stepped.1.receiver.windowStartIdx + stepped.1.receiver.actualWindowSize)
    (missing : stepped.2.1 = true
      → stepped.1.receiver.segments.get stepped.1.receiver.expectedIdx = none)
    : (self.withReceiving stepped).Consistent segments where
  payload := consistent.payload
  few := consistent.few
  window := by
    have window := consistent.window
    rw [← sameWindow] at window
    exact window
  sent := consistent.sent
  holds := holds
  acked := by
    intro ack member
    rcases List.mem_append.mp member with old | new
    · exact Nat.lt_of_lt_of_le (consistent.acked ack old) grows
    · exact acked ack new
  behind := Nat.le_trans consistent.behind grows
  inside := inside
  missing := missing

/-- A timeout repeats the last number, which was received. -/
theorem Consistent.receivingTimeout (consistent : self.Consistent segments)
    (receiving : self.receiving = true)
    (received : self.receivingEnd.receiver.lastAckSeq < self.receivingEnd.receiver.expectedIdx)
    : (self.withReceiving (self.receivingEnd.onSegmentTimeout self.retries)).Consistent
        segments := by
  unfold ReceivingEnd.onSegmentTimeout
  split
  · refine consistent.withReceiving rfl consistent.holds (Nat.le_refl _) ?_
      (fun _ => consistent.inside receiving) (fun _ => consistent.missing receiving)
    intro ack member
    rw [List.mem_singleton.mp member]
    exact received
  · exact consistent.withReceiving rfl consistent.holds (Nat.le_refl _) (by simp) (by simp) (by simp)

/-- A segment within the window is its own index again: 128 segments and a window of 127 leave
no other index with its number.
-/
theorem Consistent.resolves (consistent : self.Consistent segments) {idx}
    (inside : idx < segments.length)
    (near : cyclicOffset 256 idx self.receivingEnd.receiver.expectedIdx
      < self.receivingEnd.receiver.actualWindowSize)
    : self.receivingEnd.receiver.expectedIdx
      + cyclicOffset 256 idx self.receivingEnd.receiver.expectedIdx = idx := by
  have few := consistent.few
  have bound := consistent.holds.expectedIdx_le few
  obtain ⟨_, upper⟩ := consistent.window
  rcases consistent.holds.resolves few inside with own | beyond
  · exact own
  · omega

/-- A segment that moves the expected index is the expected one, so that its number is the number
of a received segment.
-/
theorem lt_record_expectedIdx {receiver : SegmentReceiver} {idx : Nat} {data : Bytes}
    {moreFollows : Bool} (missing : receiver.segments.get receiver.expectedIdx = none)
    (moved : receiver.expectedIdx
      < ((receiver.store idx data).record idx (idx % 256) moreFollows).expectedIdx)
    : idx < ((receiver.store idx data).record idx (idx % 256) moreFollows).expectedIdx := by
  have present := Dict.firstAbsent_present (receiver.store idx data).segments
    receiver.expectedIdx (Nat.le_refl _) moved
  rw [SegmentReceiver.store_get] at present
  split at present
  · next same => exact same ▸ moved
  · rw [missing] at present
    cases present

/-- A segment that arrives keeps the transfer consistent, unless it is a duplicate whose answer
repeats a number beyond a gap.
-/
theorem Consistent.segmentArrives (consistent : self.Consistent segments)
    (receiving : self.receiving = true) {idx : Nat} (inside : idx < segments.length)
    (received : ¬ cyclicOffset 256 idx self.receivingEnd.receiver.expectedIdx
        < self.receivingEnd.receiver.actualWindowSize
      → self.receivingEnd.receiver.lastAckSeq < self.receivingEnd.receiver.expectedIdx)
    : (self.withReceiving (self.receivingEnd.onSegment (idx % 256) (segments.getD idx [])
        (decide (idx < segments.length - 1)))).Consistent segments := by
  have holds := @SegmentReceiver.HoldsPartOf.receiveSegment _ _ _ _ consistent.holds
    consistent.few inside rfl
  have small : idx % 256 ≤ idx := Nat.mod_le ..
  have started := consistent.inside receiving
  rw [SegmentReceiver.receiveSegment_eq] at holds
  unfold ReceivingEnd.onSegment
  rw [SegmentReceiver.receiveSegment_eq]
  by_cases near : cyclicOffset 256 idx self.receivingEnd.receiver.expectedIdx
      < self.receivingEnd.receiver.actualWindowSize
  · rw [if_pos near, consistent.resolves inside near] at holds ⊢
    by_cases oversized : maxReassemblySize
        < (self.receivingEnd.receiver.store idx (segments.getD idx [])).totalBytes
    · rw [if_pos oversized] at holds ⊢
      exact consistent.withReceiving rfl holds (Nat.le_refl _) (by simp) (by simp) (by simp)
    · rw [if_neg oversized] at holds ⊢
      have grows := SegmentReceiver.le_record_expectedIdx
        (self.receivingEnd.receiver.store idx (segments.getD idx [])) idx (idx % 256)
        (decide (idx < segments.length - 1))
      rcases SegmentReceiver.advance_cases
          (self.receivingEnd.receiver.store idx (segments.getD idx [])) idx (idx % 256)
          (decide (idx < segments.length - 1))
        with ⟨complete, moved⟩ | ⟨_, boundary, moved⟩ | ⟨_, before, moved⟩
      · rw [moved] at holds ⊢
        refine consistent.withReceiving rfl holds grows ?_ (by simp) (by simp)
        intro ack member
        obtain ⟨finalIdx, final, below⟩ := SegmentReceiver.isComplete_iff.mp complete
        have bound := holds.expectedIdx_le consistent.few
        have few := consistent.few
        dsimp only at below bound
        have last := holds.final finalIdx (by omega) final
        rw [List.mem_singleton.mp member]
        change idx % 256 < _
        dsimp only
        omega
      · rw [moved] at holds ⊢
        have overtaken := lt_record_expectedIdx (consistent.missing receiving)
          (Nat.lt_of_lt_of_le started boundary)
        refine consistent.withReceiving rfl holds grows ?_ ?_ ?_
        · intro ack member
          rw [List.mem_singleton.mp member]
          exact Nat.lt_of_le_of_lt small overtaken
        · intro _
          exact Nat.lt_add_of_pos_right consistent.window.1
        · intro _
          exact Dict.get_firstAbsent ..
      · rw [moved] at holds ⊢
        exact consistent.withReceiving rfl holds grows (by simp) (fun _ => before)
          (fun _ => Dict.get_firstAbsent ..)
  · rw [if_neg near]
    by_cases duplicate : max self.receivingEnd.receiver.actualWindowSize
        self.receivingEnd.receiver.proposedWindowSize
        < cyclicOffset 256 idx self.receivingEnd.receiver.expectedIdx
    · rw [if_pos duplicate]
      refine consistent.withReceiving rfl consistent.holds (Nat.le_refl _) ?_
        (fun _ => started) (fun _ => consistent.missing receiving)
      intro ack member
      rw [List.mem_singleton.mp member]
      exact received near
    · rw [if_neg duplicate]
      exact consistent.withReceiving rfl consistent.holds (Nat.le_refl _) (by simp) (by simp)
        (by simp)

-- Whole transfers

/-- Every step that does not mislead keeps the transfer consistent. -/
theorem Consistent.step (consistent : self.Consistent segments) (honest : ¬ self.Misleads event)
    (stepped : self.step event = some next)
    : next.Consistent segments := by
  cases event with
  | segmentArrives index =>
    simp only [Transfer.step] at stepped
    split at stepped
    · next receiving =>
        obtain ⟨entry, found, rfl⟩ := Option.map_eq_some_iff.mp stepped
        obtain ⟨idx, inside, rfl⟩ := consistent.sent _ (List.mem_of_getElem? found)
        have few := consistent.few
        have number : idx % 256 = idx := Nat.mod_eq_of_lt (by omega)
        have kept := @Consistent.segmentArrives _ _ consistent receiving idx inside (by
          intro far
          by_contra beyond
          refine honest ⟨_, found, ?_, Nat.le_of_not_lt beyond⟩
          rw [← number, Bool.eq_false_iff, ne_eq, inWindow_iff]
          exact far)
        rw [number] at kept
        exact kept
    · cases stepped
  | ackArrives index =>
    simp only [Transfer.step] at stepped
    split at stepped
    · obtain ⟨ack, found, rfl⟩ := Option.map_eq_some_iff.mp stepped
      apply consistent.ackArrives (List.mem_of_getElem? found)
      by_contra old
      exact honest ⟨ack, found, Nat.lt_of_not_le old⟩
    · cases stepped
  | sendingTimeout =>
    simp only [Transfer.step] at stepped
    split at stepped
    · cases stepped
      exact consistent.sendingTimeout
    · cases stepped
  | receivingTimeout =>
    simp only [Transfer.step] at stepped
    split at stepped
    · next receiving =>
        cases stepped
        exact consistent.receivingTimeout receiving (Nat.lt_of_not_le honest)
    · cases stepped

theorem consistent_start {sender : SegmentSender} (nonempty : sender.segments ≠ [])
    (few : sender.segments.length ≤ 128) (atStart : sender.windowStartIdx = 0)
    {proposed ours : Nat} (sameWindow : sender.proposedWindowSize = proposed)
    (window : 1 ≤ proposed ∧ proposed ≤ 127) (ourWindow : 1 ≤ ours ∧ ours ≤ 127) (retries : Nat)
    : (start retries ours sender).Consistent sender.segments where
  payload := rfl
  few := few
  window := by
    simp only [start, SegmentReceiver.create, sameWindow]
    omega
  sent := fun _ member => mem_fillWindow_few few member
  holds := SegmentReceiver.HoldsPartOf.create (List.length_pos_of_ne_nil nonempty) rfl
  acked := by
    intro ack member
    rw [List.mem_singleton.mp member]
    exact Nat.one_pos
  behind := by
    simp only [start, atStart]
    omega
  inside := by
    intro _
    simp only [start, SegmentReceiver.create, sameWindow]
    omega
  missing := by
    intro _
    simp [start, SegmentReceiver.create, Dict.get_set]

/-- As long as no step misleads, the sender is never ahead of the receiver, and it is complete
only when the receiver holds every segment.
-/
theorem always_agrees {payload : Bytes} {invokeId serviceChoice maxApduLength : Nat}
    {pduType : SegmentedPduType} {window ours : Nat} {peerMaxSegments : Option Nat}
    {sender : SegmentSender}
    (created : SegmentSender.create payload invokeId serviceChoice maxApduLength pduType window
      peerMaxSegments = .ok sender)
    (few : sender.segments.length ≤ 128) (sending : 1 ≤ window ∧ window ≤ 127)
    (receiving : 1 ≤ ours ∧ ours ≤ 127) (retries : Nat) (events : List Event)
    (honest : Meets step (fun transfer event => ¬ transfer.Misleads event)
      (start retries ours sender) events)
    : Always step Agrees (start retries ours sender) events := by
  obtain ⟨split, _, atStart, _, proposed, _⟩ := SegmentSender.create_spec created
  exact always_of_meets (fun consistent allowed stepped => consistent.step allowed stepped)
    Consistent.agrees
    (consistent_start (splitPayload_spec split).2.1 few atStart proposed sending receiving
      retries) honest

/-- A request of 150 octets in four segments. -/
def fourSegments : SegmentSender where
  segments :=
    [List.replicate 44 0, List.replicate 44 0, List.replicate 44 0, List.replicate 18 0]
  invokeId := 7
  serviceChoice := 15
  proposedWindowSize := 4
  actualWindowSize := 4

set_option maxRecDepth 4096 in
theorem fourSegments_created
    : SegmentSender.create (List.replicate 150 0) 7 15 50 .confirmedRequest 4
      = .ok fourSegments := by
  rfl

/-- A segment is lost, and the sender repeats the window before the receiver complains. -/
theorem retransmission_agrees
    : Always step Agrees (start 3 4 fourSegments)
        [.segmentArrives 1, .segmentArrives 3, .sendingTimeout, .segmentArrives 6,
          .ackArrives 1] :=
  @always_agrees (List.replicate 150 0) 7 15 50 .confirmedRequest 4 4 none fourSegments
    fourSegments_created
    (by decide) (by decide) (by decide) 3 _ (by decide +kernel)

/-- Segment 1 is lost and the others arrive. The negative SegmentACK repeats the number of the
last one, and the sender is done.
-/
theorem timeout_overtakes_receiver
    : SegmentSender.create (List.replicate 150 0) 7 15 50 .confirmedRequest 4
        = .ok fourSegments
      ∧ (run step (start 3 4 fourSegments)
          [.segmentArrives 2, .segmentArrives 3, .receivingTimeout, .ackArrives 1]).map
            (fun transfer => (transfer.sendingEnd.sender.windowStartIdx,
              transfer.sendingEnd.sender.isComplete,
              transfer.receivingEnd.receiver.expectedIdx,
              transfer.receivingEnd.receiver.segments.get 1))
        = some (4, true, 1, none)
      ∧ ¬ Always step Agrees (start 3 4 fourSegments)
          [.segmentArrives 2, .segmentArrives 3, .receivingTimeout, .ackArrives 1] := by
  have reached : (run step (start 3 4 fourSegments)
      [.segmentArrives 2, .segmentArrives 3, .receivingTimeout, .ackArrives 1]).map
        (fun transfer => (transfer.sendingEnd.sender.windowStartIdx,
          transfer.sendingEnd.sender.isComplete,
          transfer.receivingEnd.receiver.expectedIdx,
          transfer.receivingEnd.receiver.segments.get 1))
      = some (4, true, 1, none) := by
    decide +kernel
  refine ⟨fourSegments_created, reached, fun always => ?_⟩
  obtain ⟨final, ran, facts⟩ := Option.map_eq_some_iff.mp reached
  have behind := (always_iff_prefixes.mp always _ [] final (by simp) ran).behind
  simp only [Prod.mk.injEq] at facts
  omega

end Transfer

end BacPy
