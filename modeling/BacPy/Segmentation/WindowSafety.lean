import BacPy.Library.Runs
import BacPy.Segmentation.Transfer

/-! The window of a sender under acknowledgements of any kind. The index that an acknowledgement stands
for is found by its number only, so that one that does not name a segment around the window moves it
anywhere.
-/

namespace BacPy

open Library

/-- A sender, and how many segments `fill_window` has gone through: all indices below have been
returned.
-/
structure WindowRun where
  sender : SegmentSender
  returned : Nat := 0

namespace WindowRun

/-- What is done with a sender. -/
inductive Event where
  | fillWindow
  | segmentAck (ackSeq actualWindowSize : Nat) (negative : Bool)

/-- What a SegmentACK can have: an octet, and a window size from 1 to 127. -/
def Event.Legal : Event → Prop
  | .fillWindow => True
  | .segmentAck ackSeq actualWindowSize _ =>
    ackSeq ≤ 255 ∧ 1 ≤ actualWindowSize ∧ actualWindowSize ≤ 127

/-- One step. The highest index that `fill_window` returns is the last one of the window. -/
def step (state : WindowRun) : Event → Option WindowRun
  | .fillWindow => some { state with returned := max state.returned state.sender.endIdx }
  | .segmentAck ackSeq actualWindowSize negative =>
    some { state with sender := (state.sender.handleSegmentAck ackSeq actualWindowSize negative).1 }

/-- The first index of the window before the current one. -/
def previousStart (state : WindowRun) : Nat :=
  state.sender.windowStartIdx - state.sender.actualWindowSize

/-- The segment belongs to the current window or to the previous one. -/
def InWindows (state : WindowRun) (idx : Nat) : Prop :=
  state.previousStart ≤ idx ∧ idx < state.sender.endIdx

/-- The window moves forward only, not beyond what has been returned, and not at all on an
acknowledgement that stands for no segment of the current or the previous window.
-/
structure Safe (state : WindowRun) (event : Event) : Prop where
  forward : ∀ next, state.step event = some next →
    state.sender.windowStartIdx ≤ next.sender.windowStartIdx
  returned : ∀ next, state.step event = some next → next.sender.windowStartIdx ≤ next.returned
  unmoved : ∀ next, state.step event = some next →
    ∀ ackSeq actualWindowSize negative, event = .segmentAck ackSeq actualWindowSize negative →
      (∀ idx, state.InWindows idx → idx % 256 ≠ ackSeq) →
        next.sender.windowStartIdx = state.sender.windowStartIdx

/-- The number of an acknowledgement is that of a segment which has been returned, from the last one
before the window to the end of the window, and of no other segment from the previous window on.
-/
def NamesSegment (state : WindowRun) : Event → Prop
  | .fillWindow => True
  | .segmentAck ackSeq _ _ =>
    ∃ idx, idx % 256 = ackSeq ∧ state.sender.windowStartIdx ≤ idx + 1 ∧ state.InWindows idx
      ∧ idx < state.returned ∧ ∀ other, state.previousStart ≤ other → other < idx → other % 256 ≠ ackSeq

/-- What has been returned are segments, and the window starts at most behind them. -/
structure Ordered (state : WindowRun) : Prop where
  started : state.sender.windowStartIdx ≤ state.returned
  segments : state.returned ≤ state.sender.segments.length

end WindowRun

namespace SegmentSender

variable {self : SegmentSender} {seq idx : Nat}

/-- The index of a number: the first one from the start of the search, or the window start. -/
theorem seqToIdx_cases (self : SegmentSender) (seq : Nat)
    : (∃ idx, self.seqToIdx seq = idx ∧ idx % 256 = seq
        ∧ self.windowStartIdx - self.actualWindowSize ≤ idx ∧ idx < self.segments.length
        ∧ ∀ other, self.windowStartIdx - self.actualWindowSize ≤ other → other < idx → other % 256 ≠ seq)
      ∨ self.seqToIdx seq = self.windowStartIdx
        ∧ ∀ other, self.windowStartIdx - self.actualWindowSize ≤ other
          → other < self.segments.length → other % 256 ≠ seq := by
  unfold seqToIdx
  dsimp only
  generalize self.windowStartIdx - self.actualWindowSize = start
  cases found : (List.range' start (self.segments.length - start)).find? fun idx => idx % 256 == seq with
  | none =>
    refine .inr ⟨rfl, fun other lower upper same => ?_⟩
    refine List.find?_eq_none.mp found other (List.mem_range'_1.mpr ⟨lower, by omega⟩) ?_
    exact beq_iff_eq.mpr same
  | some idx =>
    obtain ⟨hit, position, inside, rfl, before⟩ := List.find?_eq_some_iff_getElem.mp found
    rw [List.length_range'] at inside
    rw [List.getElem_range', Nat.one_mul] at hit
    refine .inl ⟨start + position, by rw [List.getElem_range', Nat.one_mul]; rfl,
      beq_iff_eq.mp hit, Nat.le_add_right .., by omega, fun other lower upper same => ?_⟩
    have earlier := before (other - start) (by omega)
    rw [List.getElem_range', Nat.one_mul, Nat.add_sub_cancel' lower, same] at earlier
    simp at earlier

end SegmentSender

namespace WindowRun

variable {state : WindowRun} {event : Event}

theorem endIdx_le (sender : SegmentSender)
    : sender.endIdx ≤ sender.segments.length
      ∧ sender.endIdx ≤ sender.windowStartIdx + sender.actualWindowSize :=
  ⟨Nat.min_le_left .., Nat.min_le_right ..⟩

theorem Ordered.safe_fillWindow (ordered : state.Ordered) : state.Safe .fillWindow where
  forward := by
    rintro _ ⟨⟩
    exact Nat.le_refl _
  returned := by
    rintro _ ⟨⟩
    exact Nat.le_trans ordered.started (Nat.le_max_left ..)
  unmoved := nofun

section Acknowledgements

variable {ackSeq actualWindowSize : Nat} {negative : Bool}

/-- A safe acknowledgement names a segment: any other one would move the window, though it stands for
no segment of the two windows.
-/
theorem names_of_safe (safe : state.Safe (.segmentAck ackSeq actualWindowSize negative))
    : state.NamesSegment (.segmentAck ackSeq actualWindowSize negative) := by
  have forward := safe.forward _ rfl
  have returned := safe.returned _ rfl
  have unmoved := safe.unmoved _ rfl _ _ _ rfl
  obtain ⟨inside, window⟩ := endIdx_le state.sender
  simp only [SegmentSender.handleSegmentAck] at forward returned unmoved
  rcases state.sender.seqToIdx_cases ackSeq with ⟨idx, found, number, lower, upper, first⟩ | ⟨fallback, missing⟩
  · rw [found] at forward returned unmoved
    refine ⟨idx, number, forward, ⟨lower, ?_⟩, returned, first⟩
    by_contra beyond
    have stays := unmoved fun other ⟨low, high⟩ => first other low (by
      unfold SegmentSender.endIdx at beyond high
      omega)
    unfold SegmentSender.endIdx at beyond
    omega
  · rw [fallback] at unmoved
    have stays := unmoved fun other ⟨low, high⟩ => missing other low (Nat.lt_of_lt_of_le high inside)
    omega

/-- An acknowledgement that names a segment is safe: the segment is the one that is found. -/
theorem safe_of_names (names : state.NamesSegment (.segmentAck ackSeq actualWindowSize negative))
    : state.Safe (.segmentAck ackSeq actualWindowSize negative) := by
  obtain ⟨idx, number, forward, inWindows, returned, first⟩ := names
  obtain ⟨inside, _⟩ := endIdx_le state.sender
  have found : state.sender.seqToIdx ackSeq = idx := by
    rcases state.sender.seqToIdx_cases ackSeq with ⟨other, found, number', lower, _, first'⟩ | ⟨_, missing⟩
    · rcases Nat.lt_trichotomy other idx with before | same | behind
      · exact absurd number' (first other lower before)
      · exact found.trans same
      · exact absurd number (first' idx inWindows.1 behind)
    · exact absurd number (missing idx inWindows.1 (Nat.lt_of_lt_of_le inWindows.2 inside))
  refine ⟨?_, ?_, ?_⟩
  · rintro _ ⟨⟩
    simpa only [SegmentSender.handleSegmentAck, found] using forward
  · rintro _ ⟨⟩
    simpa only [SegmentSender.handleSegmentAck, found] using Nat.succ_le_of_lt returned
  · rintro _ ⟨⟩ _ _ _ ⟨⟩ apart
    exact absurd number (apart idx inWindows)

end Acknowledgements

/-- A step is safe exactly if its acknowledgement, if it is one, names a segment. -/
theorem Ordered.safe_iff (ordered : state.Ordered) : state.Safe event ↔ state.NamesSegment event := by
  cases event with
  | fillWindow => exact iff_of_true ordered.safe_fillWindow trivial
  | segmentAck ackSeq actualWindowSize negative => exact ⟨names_of_safe, safe_of_names⟩

/-- A safe step leaves what has been returned in order. -/
theorem Ordered.step (ordered : state.Ordered) (safe : state.Safe event) {next}
    (stepped : state.step event = some next)
    : next.Ordered := by
  refine ⟨safe.returned next stepped, ?_⟩
  cases event with
  | fillWindow =>
    cases stepped
    exact Nat.max_le.mpr ⟨ordered.segments, (endIdx_le state.sender).1⟩
  | segmentAck ackSeq actualWindowSize negative =>
    cases stepped
    exact ordered.segments

/-- In a run every step moves the window safely if and only if every acknowledgement names a segment. -/
theorem safe_run_iff {sender : SegmentSender} (fresh : sender.windowStartIdx = 0) (events : List Event)
    : Meets step Safe { sender } events ↔ Meets step NamesSegment { sender } events :=
  @meets_congr _ _ step Safe Ordered NamesSegment
    (fun ordered safe stepped => Ordered.step ordered safe stepped)
    (fun ordered _ => Ordered.safe_iff ordered) _ _ ⟨fresh.le, Nat.zero_le _⟩

/-- A sender with 20 segments and windows of four. -/
def twentySegments : SegmentSender where
  segments := (List.range 20).map fun idx => [UInt8.ofNat idx]
  invokeId := 7
  serviceChoice := 15
  proposedWindowSize := 4
  actualWindowSize := 4

/-- The first window and its last acknowledgement. -/
theorem safe_run_twentySegments
    : Meets step Safe { sender := twentySegments } [.fillWindow, .segmentAck 3 4 false] := by
  refine (safe_run_iff rfl _).mpr ?_
  rintro _ ⟨⟩
  refine ⟨trivial, ?_⟩
  rintro _ ⟨⟩
  exact ⟨⟨3, rfl, by decide, ⟨by decide, by decide⟩, by decide, by decide⟩, trivial⟩

/-- An acknowledgement whose number has not been sent skips seven segments. -/
theorem forged_ack_skips
    : ¬ ∀ (sender : SegmentSender) (events : List Event), sender.windowStartIdx = 0 →
        (∀ event ∈ events, event.Legal) → Meets step Safe { sender } events := by
  intro safe
  have legal : ∀ event ∈ [Event.fillWindow, .segmentAck 10 4 false], event.Legal := by
    simp [Event.Legal]
  have here := safe twentySegments [.fillWindow, .segmentAck 10 4 false] rfl legal
  obtain ⟨⟨_, returned, _⟩, _⟩ := (here _ rfl).2 _ rfl
  exact absurd (returned _ rfl) (by decide)

end WindowRun

/-- The sequence numbers of a window, and of the segment before it, are those of one index only, at every
wraparound and on both sides.
-/
theorem sequence_numbers_unambiguous
    : (∀ (self : SegmentSender) (idx : Nat), 1 ≤ self.actualWindowSize → self.actualWindowSize ≤ 127 →
        self.windowStartIdx - 1 ≤ idx →
          idx < min self.segments.length (self.windowStartIdx + self.actualWindowSize) →
            self.seqToIdx (idx % 256) = idx)
      ∧ ∀ (self : SegmentReceiver) (offset : Nat), self.actualWindowSize ≤ 256 →
          offset < self.actualWindowSize →
            self.seqToAbsIdx ((self.expectedIdx + offset) % 256) = self.expectedIdx + offset := by
  constructor
  · intro self idx positive small lower upper
    -- The search starts at most a window before `idx`, and no number comes twice in 254 indices.
    apply SegmentSender.seqToIdx_eq
    · omega
    · omega
    · exact lt_of_lt_of_le upper (Nat.min_le_left _ _)
  · intro self offset small inside
    rw [SegmentReceiver.seqToAbsIdx_eq, cyclicOffset_of_le (Nat.le_add_right _ _) (by omega),
      Nat.add_sub_cancel_left]

/-- A window behind the second wraparound, and a receiver at its end. -/
theorem sequence_numbers_second_wraparound
    : SegmentSender.seqToIdx {
        segments := List.replicate 3000 [0], invokeId := 1, serviceChoice := 14
        proposedWindowSize := 127, actualWindowSize := 127, windowStartIdx := 500 } (520 % 256) = 520
      ∧ (SegmentReceiver.create [0] 14 4 true 8).seqToAbsIdx ((1 + 3) % 256) = 1 + 3 := by
  refine ⟨sequence_numbers_unambiguous.1 _ 520 (by decide) (by decide) (by decide) ?_,
    sequence_numbers_unambiguous.2 (SegmentReceiver.create [0] 14 4 true 8) 3 (by decide) (by decide)⟩
  rw [List.length_replicate]
  decide

end BacPy
