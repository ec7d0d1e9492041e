import BacPy.Segmentation.Reassembly

/-! A receiver that gets the segments of a payload in any order, some of them lost and others several
times. As long as there are no more segments than sequence numbers outside one window, every number
in the window is that of its own segment.
-/

namespace BacPy.SegmentReceiver

open Library

def storedBytes (self : SegmentReceiver) : Nat := self.segments.total List.length

def receive (segments : List Bytes) (self : SegmentReceiver) (idx : Nat) : SegmentReceiver :=
  (self.receiveSegment (idx % 256) (segments.getD idx [])
    (decide (idx < segments.length - 1))).1

/-- The receiver after segments of the payload have arrived in this order. -/
def receiveAll (segments : List Bytes) (self : SegmentReceiver) (arrivals : List Nat)
    : SegmentReceiver :=
  arrivals.foldl (receive segments) self

/-- Everything that is stored is a segment of the payload under its own index, and is counted. -/
structure Collects (receiver : SegmentReceiver) (segments : List Bytes) : Prop where
  stored : ∀ idx data, receiver.segments.get idx = some data
    → idx < segments.length ∧ data = segments.getD idx []
  final : ∀ finalIdx, receiver.finalIdx = some finalIdx → finalIdx + 1 = segments.length
  counted : receiver.totalBytes = receiver.storedBytes
  room : segments.length + receiver.actualWindowSize ≤ 256

/-- The octets of the segments, by their indices. -/
theorem sum_lengths (segments : List Bytes)
    : ((List.range segments.length).map fun idx => (segments.getD idx []).length).sum
      = segments.flatten.length := by
  rw [List.length_flatten]
  refine congrArg List.sum (List.ext_getElem (by simp) fun idx left right => ?_)
  have inside : idx < segments.length := by simpa using left
  simp [List.getD_eq_getElem?_getD, List.getElem?_eq_getElem inside]

namespace Collects

variable {self : SegmentReceiver} {segments : List Bytes} {idx seqNum : Nat}

/-- The expected index is at most the number of segments. -/
theorem expectedIdx_le (collects : self.Collects segments) : self.expectedIdx ≤ segments.length := by
  by_contra beyond
  obtain ⟨data, stored⟩ := Option.isSome_iff_exists.mp
    (self.gapless segments.length (Nat.lt_of_not_le beyond))
  exact Nat.lt_irrefl _ (collects.stored _ data stored).1

/-- No more is stored than the payload has. -/
theorem totalBytes_le (collects : self.Collects segments)
    : self.totalBytes ≤ segments.flatten.length := by
  rw [collects.counted, ← sum_lengths]
  refine self.segments.total_le fun other data found => ?_
  obtain ⟨inside, rfl⟩ := collects.stored other data found
  exact ⟨List.mem_range.mpr inside, Nat.le_refl _⟩

/-- A receiver created from the first segment. -/
theorem create (nonempty : segments ≠ []) {serviceChoice proposed ours}
    (room : segments.length + min ours proposed ≤ 256)
    : (create (segments.getD 0 []) serviceChoice proposed (decide (0 < segments.length - 1))
        ours).Collects segments where
  stored := by
    intro idx data found
    simp only [SegmentReceiver.create, Dict.get_set, Dict.get_empty] at found
    split at found
    · next first =>
        exact ⟨first ▸ List.length_pos_of_ne_nil nonempty, by rw [first, ← Option.some.inj found]⟩
    · cases found
  final := by
    intro finalIdx final
    have several := List.length_pos_of_ne_nil nonempty
    simp only [SegmentReceiver.create] at final
    split at final
    · cases final
    · next last =>
        cases final
        have only := of_decide_eq_false (Bool.eq_false_iff.mpr last)
        omega
  counted := by
    have sum := (Dict.empty : Dict Nat Bytes).total_set List.length 0 (segments.getD 0 [])
    rw [Dict.get_empty] at sum
    have none : (Dict.empty : Dict Nat Bytes).total List.length = 0 := rfl
    rw [none, Option.map_none, Option.getD_none, Nat.add_zero, Nat.zero_add] at sum
    exact sum.symm
  room := room

/-- Storing a segment under its index. -/
theorem store (collects : self.Collects segments) (inside : idx < segments.length)
    : (self.store idx (segments.getD idx [])).Collects segments where
  stored := by
    intro other data found
    rw [store_get] at found
    split at found
    · next same =>
        subst same
        exact ⟨inside, (Option.some.inj found).symm⟩
    · exact collects.stored other data found
  final := collects.final
  counted := by
    have sum := self.segments.total_set List.length idx (segments.getD idx [])
    have counted := collects.counted
    unfold storedBytes at counted ⊢
    simp only [SegmentReceiver.store]
    cases old : self.segments.get idx with
    | none =>
      rw [old, Option.map_none, Option.getD_none] at sum
      dsimp only
      omega
    | some former =>
      rw [old, Option.map_some, Option.getD_some] at sum
      -- without it the total is as much smaller
      have part := self.segments.total_set List.length idx []
      rw [old, Option.map_some, Option.getD_some, List.length_nil,
        Nat.add_zero] at part
      dsimp only
      rw [← part] at sum
      rw [counted, ← part, Nat.add_sub_cancel]
      omega
  room := collects.room

/-- Recording a segment with its own flag. -/
theorem record (collects : self.Collects segments) (inside : idx < segments.length)
    : (self.record idx seqNum (decide (idx < segments.length - 1))).Collects segments where
  stored := collects.stored
  final := by
    intro finalIdx final
    simp only [SegmentReceiver.record] at final
    split at final
    · exact collects.final finalIdx final
    · next last =>
        cases final
        have only := of_decide_eq_false (Bool.eq_false_iff.mpr last)
        omega
  counted := collects.counted
  room := collects.room

/-- Only the window start changes at a window boundary. -/
theorem restart (collects : self.Collects segments) (start : Nat)
    : ({ self with windowStartIdx := start } : SegmentReceiver).Collects segments :=
  ⟨collects.stored, collects.final, collects.counted, collects.room⟩

/-- A number in the window is that of its own segment: earlier ones are farther away than the window
reaches around the cycle.
-/
theorem resolves (collects : self.Collects segments) (inside : idx < segments.length)
    (inWindow : cyclicOffset 256 idx self.expectedIdx < self.actualWindowSize)
    : self.expectedIdx + cyclicOffset 256 idx self.expectedIdx = idx := by
  have bound := collects.expectedIdx_le
  have room := collects.room
  by_cases ahead : self.expectedIdx ≤ idx
  · rw [cyclicOffset_of_le ahead (by omega)]
    omega
  · rw [cyclicOffset_of_lt (by omega) (by omega)] at inWindow
    omega

/-- Whatever segment arrives, the receiver collects. -/
theorem receive (collects : self.Collects segments)
    (fits : segments.flatten.length ≤ maxReassemblySize) (inside : idx < segments.length)
    : (self.receive segments idx).Collects segments := by
  unfold SegmentReceiver.receive
  rw [receiveSegment_eq]
  split
  · next inWindow =>
      rw [collects.resolves inside inWindow]
      have stored := collects.store inside
      rw [if_neg (Nat.not_lt.mpr (Nat.le_trans stored.totalBytes_le fits))]
      have recorded := @Collects.record _ _ idx (idx % 256) stored inside
      rcases (self.store idx (segments.getD idx [])).advance_cases idx (idx % 256)
          (decide (idx < segments.length - 1)) with ⟨_, moved⟩ | ⟨_, _, moved⟩ | ⟨_, _, moved⟩
      · rw [moved]
        exact recorded.restart _
      · rw [moved]
        exact recorded.restart _
      · rw [moved]
        exact recorded
  · split <;> exact collects

/-- Whatever segments arrive in whatever order, by induction on the arrivals. -/
theorem receiveAll (collects : self.Collects segments)
    (fits : segments.flatten.length ≤ maxReassemblySize) {arrivals}
    (inside : ∀ idx ∈ arrivals, idx < segments.length)
    : (self.receiveAll segments arrivals).Collects segments := by
  induction arrivals generalizing self with
  | nil => exact collects
  | cons idx rest ih =>
    rw [List.forall_mem_cons] at inside
    exact ih (collects.receive fits inside.1) inside.2

theorem reassemble (collects : self.Collects segments) (complete : self.isComplete = true)
    : self.reassemble = .ok segments.flatten := by
  obtain ⟨finalIdx, final, below⟩ := isComplete_iff.mp complete
  rw [reassemble_of_isComplete final below]
  have last := collects.final finalIdx final
  congr 2
  refine List.ext_getElem (by simp [last]) fun idx left right => ?_
  obtain ⟨data, found⟩ := Option.isSome_iff_exists.mp (self.gapless idx (by omega))
  obtain ⟨_, rfl⟩ := collects.stored idx data found
  simp [found, List.getD_eq_getElem?_getD, List.getElem?_eq_getElem right]

end Collects

/-- In every order of arrivals the count is that of what is stored, everything below the expected index
is stored, and a receiver that becomes complete gives the payload.
-/
theorem reassembles_any_order {payload : Bytes} {segments : List Bytes} (nonempty : segments ≠ [])
    (whole : segments.flatten = payload) (fits : payload.length ≤ maxReassemblySize)
    {serviceChoice proposedWindowSize ourWindowSize : Nat}
    (few : segments.length ≤ 256 - min ourWindowSize proposedWindowSize) (arrivals : List Nat)
    (inside : ∀ idx ∈ arrivals, idx < segments.length)
    : let receiver := (create (segments.getD 0 []) serviceChoice proposedWindowSize
          (decide (0 < segments.length - 1)) ourWindowSize).receiveAll segments arrivals
      (receiver.isComplete = true → receiver.reassemble = .ok payload)
        ∧ receiver.totalBytes = receiver.storedBytes
        ∧ ∀ index < receiver.expectedIdx, (receiver.segments.get index).isSome := by
  subst whole
  have positive := List.length_pos_of_ne_nil nonempty
  have collects := (@Collects.create segments nonempty serviceChoice proposedWindowSize ourWindowSize
    (by omega)).receiveAll fits inside
  exact ⟨collects.reassemble, collects.counted, SegmentReceiver.gapless _⟩

/-- Three segments of which the last one arrives first. -/
theorem reassembles_any_order_three
    : ((create [1] 12 4 true 4).receiveAll [[1], [2], [3]] [2, 1, 1, 0]).reassemble = .ok [1, 2, 3] := by
  have assembled := (@reassembles_any_order [1, 2, 3] [[1], [2], [3]] (by decide) rfl (by decide) 12 4 4
    (by decide) [2, 1, 1, 0] (by decide)).1
  exact assembled (by decide +kernel)

end BacPy.SegmentReceiver
