import BacPy.Library.SequenceNumbers
import BacPy.Segmentation.Manager

/-! Facts about the receiving side of a segmented transfer: what one segment changes, and that a
complete receiver always reassembles.
-/

namespace BacPy

open Library

/-- A map of a list whose elements all succeed succeeds. -/
theorem mapM_eq_ok {Item Result Failure : Type} {items : List Item}
    {attempt : Item → Except Failure Result} {value : Item → Result}
    (succeeds : ∀ item ∈ items, attempt item = .ok (value item))
    : items.mapM attempt = .ok (items.map value) := by
  induction items with
  | nil => rfl
  | cons item rest ih =>
    have later := ih fun other member => succeeds other (List.mem_cons_of_mem _ member)
    simp [List.mapM_cons, succeeds item List.mem_cons_self, later, bind, Except.bind, pure,
      Except.pure]

/-- The window test compares the cyclic offset of the indices with the window size. -/
theorem inWindow_iff (idx base window : Nat)
    : inWindow (idx % 256) (base % 256) window = true ↔ cyclicOffset 256 idx base < window := by
  have same := cyclicOffset_mod 256 idx base
  unfold cyclicOffset at same ⊢
  simp only [inWindow, decide_eq_true_eq]
  omega

/-- The duplicate test compares the same offset with the larger of the two window sizes. -/
theorem duplicateInWindow_iff (idx base actual proposed : Nat)
    : duplicateInWindow (idx % 256) (base % 256) actual proposed = true
      ↔ max actual proposed < cyclicOffset 256 idx base := by
  have same := cyclicOffset_mod 256 idx base
  unfold cyclicOffset at same ⊢
  simp only [duplicateInWindow, decide_eq_true_eq]
  omega

namespace SegmentReceiver

variable {self : SegmentReceiver}

theorem isComplete_iff
    : self.isComplete = true ↔ ∃ finalIdx, self.finalIdx = some finalIdx
        ∧ finalIdx < self.expectedIdx := by
  unfold isComplete
  cases self.finalIdx <;> simp

/-- A complete receiver reassembles the data of all indices up to the final one, because it has
no gaps.
-/
theorem reassemble_of_isComplete {finalIdx : Nat}
    (final : self.finalIdx = some finalIdx) (below : finalIdx < self.expectedIdx)
    : self.reassemble = .ok ((List.range (finalIdx + 1)).map fun index =>
        (self.segments.get index).getD []).flatten := by
  have complete : self.isComplete = true := isComplete_iff.mpr ⟨finalIdx, final, below⟩
  have read : (List.range (finalIdx + 1)).mapM self.segment
      = .ok ((List.range (finalIdx + 1)).map fun index => (self.segments.get index).getD []) := by
    apply mapM_eq_ok
    intro index member
    have present := self.gapless index (by have := List.mem_range.mp member; omega)
    obtain ⟨data, stored⟩ := Option.isSome_iff_exists.mp present
    simp [segment, stored]
  simp only [reassemble, final, complete, if_true, read]
  rfl

/-- Reassembly of a complete receiver never raises. -/
theorem toOption_reassemble (complete : self.isComplete = true)
    : ∃ data, self.reassemble.toOption = some data := by
  obtain ⟨finalIdx, final, below⟩ := isComplete_iff.mp complete
  exact ⟨_, by rw [reassemble_of_isComplete final below]; rfl⟩

/-- The absolute index of a sequence number is as far ahead as its cyclic offset. -/
theorem seqToAbsIdx_eq (self : SegmentReceiver) (idx : Nat)
    : self.seqToAbsIdx (idx % 256)
      = self.expectedIdx + cyclicOffset 256 idx self.expectedIdx := by
  have same := cyclicOffset_mod 256 idx self.expectedIdx
  unfold cyclicOffset at same ⊢
  simp only [seqToAbsIdx]
  omega

/-- `receive_segment` in terms of the offset of the segment from the expected index. -/
theorem receiveSegment_eq (self : SegmentReceiver) (idx : Nat) (data : Bytes)
    (moreFollows : Bool)
    : self.receiveSegment (idx % 256) data moreFollows
      = if cyclicOffset 256 idx self.expectedIdx < self.actualWindowSize then
          if maxReassemblySize < (self.store
              (self.expectedIdx + cyclicOffset 256 idx self.expectedIdx) data).totalBytes then
            (self.store (self.expectedIdx + cyclicOffset 256 idx self.expectedIdx) data,
              .abort, -1)
          else
            (self.store (self.expectedIdx + cyclicOffset 256 idx self.expectedIdx) data).advance
              (self.expectedIdx + cyclicOffset 256 idx self.expectedIdx) (idx % 256) moreFollows
        else if max self.actualWindowSize self.proposedWindowSize
            < cyclicOffset 256 idx self.expectedIdx then
          (self, .resendLastAck, self.lastAckSeq)
        else
          (self, .abort, -1) := by
  unfold receiveSegment
  simp only [inWindow_iff, duplicateInWindow_iff, seqToAbsIdx_eq]

@[simp] theorem store_get (self : SegmentReceiver) (absIdx other : Nat) (data : Bytes)
    : (self.store absIdx data).segments.get other
      = if other = absIdx then some data else self.segments.get other :=
  Dict.get_set ..

/-- Recording a segment moves the expected index past everything received. -/
theorem le_record_expectedIdx (self : SegmentReceiver) (absIdx seqNum : Nat) (moreFollows : Bool)
    : self.expectedIdx ≤ (self.record absIdx seqNum moreFollows).expectedIdx :=
  Dict.le_firstAbsent ..

/-- The answer to a recorded segment: completion, an acknowledgement at the window boundary, or
nothing.
-/
theorem advance_cases (self : SegmentReceiver) (absIdx seqNum : Nat) (moreFollows : Bool)
    : let recorded := self.record absIdx seqNum moreFollows
      (recorded.isComplete = true
        ∧ self.advance absIdx seqNum moreFollows
          = ({ recorded with windowStartIdx := recorded.expectedIdx },
            SegmentAction.complete, (seqNum : Int)))
      ∨ (recorded.isComplete = false
        ∧ recorded.windowStartIdx + recorded.actualWindowSize ≤ recorded.expectedIdx
        ∧ self.advance absIdx seqNum moreFollows
          = ({ recorded with windowStartIdx := recorded.expectedIdx },
            SegmentAction.sendAck, (seqNum : Int)))
      ∨ (recorded.isComplete = false
        ∧ recorded.expectedIdx < recorded.windowStartIdx + recorded.actualWindowSize
        ∧ self.advance absIdx seqNum moreFollows = (recorded, SegmentAction.proceed, (seqNum : Int))) := by
  unfold advance
  dsimp only
  split
  · next complete => exact Or.inl ⟨complete, rfl⟩
  · next incomplete =>
      have missing := Bool.eq_false_iff.mpr incomplete
      split
      · next boundary => exact Or.inr (Or.inl ⟨missing, boundary, rfl⟩)
      · next inside => exact Or.inr (Or.inr ⟨missing, Nat.lt_of_not_le inside, rfl⟩)

/-- A single-segment transfer is complete from the start. -/
theorem create_isComplete (data : Bytes) (serviceChoice window ours : Nat)
    : (create data serviceChoice window false ours).isComplete = true :=
  rfl

/-- Only a complete receiver answers with `COMPLETE`. -/
theorem isComplete_of_advance {absIdx seqNum : Nat} {moreFollows : Bool}
    (done : (self.advance absIdx seqNum moreFollows).2.1 = .complete)
    : (self.advance absIdx seqNum moreFollows).1.isComplete = true := by
  unfold advance at done ⊢
  dsimp only at done ⊢
  split at done
  · next complete =>
      rw [if_pos complete]
      exact complete
  · split at done <;> cases done

/-- Only a complete receiver answers with `COMPLETE`. -/
theorem isComplete_of_receiveSegment {seqNum : Nat} {data : Bytes}
    {moreFollows : Bool} (done : (self.receiveSegment seqNum data moreFollows).2.1 = .complete)
    : (self.receiveSegment seqNum data moreFollows).1.isComplete = true := by
  unfold receiveSegment at done ⊢
  dsimp only at done ⊢
  split at done
  · next inside =>
      rw [if_pos inside]
      split at done
      · cases done
      · next small =>
          rw [if_neg small]
          exact isComplete_of_advance done
  · split at done <;> cases done

-- Receiving the segments of one payload

/-- Everything received so far under the indices of one cycle of sequence numbers is a segment of
`segments` under its index, and the final index, once known, is the last one. A window of more
than half a cycle may store duplicates under indices beyond.
-/
structure HoldsPartOf (receiver : SegmentReceiver) (segments : List Bytes) : Prop where
  stored : ∀ idx data, idx < 256 → receiver.segments.get idx = some data
    → idx < segments.length ∧ data = segments.getD idx []
  final : ∀ finalIdx, finalIdx < 256 → receiver.finalIdx = some finalIdx
    → finalIdx + 1 = segments.length

namespace HoldsPartOf

variable {self : SegmentReceiver} {segments : List Bytes} {idx seqNum : Nat} {moreFollows : Bool}

/-- The expected index is at most the number of segments. -/
theorem expectedIdx_le (holds : self.HoldsPartOf segments) (few : segments.length ≤ 128)
    : self.expectedIdx ≤ segments.length := by
  by_contra beyond
  obtain ⟨data, stored⟩ := Option.isSome_iff_exists.mp
    (self.gapless segments.length (Nat.lt_of_not_le beyond))
  exact Nat.lt_irrefl _ (holds.stored _ data (by omega) stored).1

/-- A receiver created from the first segment. -/
theorem create {serviceChoice window ours} (nonempty : 0 < segments.length)
    (more : moreFollows = decide (0 < segments.length - 1))
    : (create (segments.getD 0 []) serviceChoice window moreFollows ours).HoldsPartOf
        segments where
  stored := by
    intro idx data _ stored
    simp only [SegmentReceiver.create, Dict.get_set, Dict.get_empty] at stored
    split at stored
    · next first => exact ⟨first ▸ nonempty, by rw [first, ← Option.some.inj stored]⟩
    · cases stored
  final := by
    intro finalIdx _ final
    rw [more] at final
    simp only [SegmentReceiver.create] at final
    split at final
    · cases final
    · next last =>
        cases final
        have none := of_decide_eq_false (Bool.eq_false_iff.mpr last)
        omega

/-- Storing a segment under its index, or beyond the cycle. -/
theorem store (holds : self.HoldsPartOf segments) {absIdx} (inside : idx < segments.length)
    (resolved : absIdx = idx ∨ 256 ≤ absIdx)
    : (self.store absIdx (segments.getD idx [])).HoldsPartOf segments where
  stored := by
    intro other data cycle stored
    rw [store_get] at stored
    split at stored
    · next same =>
        rcases resolved with own | beyond
        · rw [same, own]
          exact ⟨inside, (Option.some.inj stored).symm⟩
        · omega
    · exact holds.stored other data cycle stored
  final := holds.final

/-- Recording a segment whose flag is right. -/
theorem record (holds : self.HoldsPartOf segments) {absIdx : Nat} (inside : idx < segments.length)
    (resolved : absIdx = idx ∨ 256 ≤ absIdx)
    (more : moreFollows = decide (idx < segments.length - 1))
    : (self.record absIdx seqNum moreFollows).HoldsPartOf segments where
  stored := holds.stored
  final := by
    intro finalIdx cycle final
    simp only [SegmentReceiver.record] at final
    split at final
    · exact holds.final finalIdx cycle final
    · next last =>
        cases final
        rw [more] at last
        have none := of_decide_eq_false (Bool.eq_false_iff.mpr last)
        omega

/-- Only the window start changes at a window boundary. -/
theorem restart (holds : self.HoldsPartOf segments) (start : Nat)
    : ({ self with windowStartIdx := start } : SegmentReceiver).HoldsPartOf segments :=
  ⟨holds.stored, holds.final⟩

/-- With at most 128 segments a number resolves to its own index or beyond the cycle. -/
theorem resolves (holds : self.HoldsPartOf segments) (few : segments.length ≤ 128)
    (inside : idx < segments.length)
    : self.expectedIdx + cyclicOffset 256 idx self.expectedIdx = idx
      ∨ 256 ≤ self.expectedIdx + cyclicOffset 256 idx self.expectedIdx := by
  have bound := holds.expectedIdx_le few
  by_cases ahead : self.expectedIdx ≤ idx
  · rw [cyclicOffset_of_le ahead (by omega)]
    omega
  · rw [cyclicOffset_of_lt (by omega) (by omega)]
    omega

theorem receiveSegment (holds : self.HoldsPartOf segments) (few : segments.length ≤ 128)
    (inside : idx < segments.length) (more : moreFollows = decide (idx < segments.length - 1))
    : (self.receiveSegment (idx % 256) (segments.getD idx []) moreFollows).1.HoldsPartOf
        segments := by
  have resolved := holds.resolves few inside
  rw [receiveSegment_eq]
  generalize self.expectedIdx + cyclicOffset 256 idx self.expectedIdx = absIdx at resolved ⊢
  split
  · have stored := holds.store inside resolved
    split
    · exact stored
    · have recorded := @HoldsPartOf.record _ _ _ (idx % 256) _ stored _ inside resolved more
      rcases (self.store absIdx (segments.getD idx [])).advance_cases absIdx (idx % 256)
          moreFollows
        with ⟨_, moved⟩ | ⟨_, _, moved⟩ | ⟨_, _, moved⟩
      · rw [moved]
        exact recorded.restart _
      · rw [moved]
        exact recorded.restart _
      · rw [moved]
        exact recorded
  · split <;> exact holds

theorem reassemble (holds : self.HoldsPartOf segments) (few : segments.length ≤ 128)
    (complete : self.isComplete = true)
    : self.reassemble = .ok segments.flatten := by
  obtain ⟨finalIdx, final, below⟩ := isComplete_iff.mp complete
  rw [reassemble_of_isComplete final below]
  have bound := holds.expectedIdx_le few
  have last := holds.final finalIdx (by omega) final
  congr 2
  apply List.ext_getElem
  · simp [last]
  · intro idx left right
    have stored := self.gapless idx (by omega)
    obtain ⟨data, found⟩ := Option.isSome_iff_exists.mp stored
    simp only [List.getElem_map, List.getElem_range, found, Option.getD_some,
      (holds.stored idx data (by omega) found).2, List.getD_eq_getElem?_getD,
      List.getElem?_eq_getElem right]

end HoldsPartOf

end SegmentReceiver

end BacPy
