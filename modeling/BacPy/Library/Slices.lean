import Mathlib.Data.List.Basic

/-! The items of a list at the positions between two integers, of which either may lie outside. -/

namespace BacPy.Library

variable {Item : Type*} {items : List Item} {start stop : Int}

/-- The items at the positions from `start` to before `stop` that the list has, in order. -/
def within (items : List Item) (start stop : Int) : List Item :=
  items.zipIdx.filterMap fun entry =>
    if start ≤ entry.2 ∧ (entry.2 : Int) < stop then some entry.1 else none

/-- They are what is left of the list when its end and then its beginning is cut off, by induction
on the items.
-/
theorem within_eq (items : List Item) (start stop : Int)
    : within items start stop = (items.take stop.toNat).drop start.toNat := by
  have shifted : ∀ offset : Nat,
      ((items.zipIdx offset).filterMap fun entry =>
        if start ≤ entry.2 ∧ (entry.2 : Int) < stop then some entry.1 else none)
      = (items.take (stop - offset).toNat).drop (start - offset).toNat := by
    induction items with
    | nil => intro offset; simp
    | cons item rest ih =>
      intro offset
      rw [List.zipIdx_cons, List.filterMap_cons, ih (offset + 1)]
      by_cases ended : stop ≤ offset
      · have noMore : (stop - offset).toNat = 0 := by omega
        have noneLater : (stop - (offset + 1 : Nat)).toNat = 0 := by omega
        rw [if_neg (by omega), noMore, noneLater]
        simp
      · have further : (stop - offset).toNat = (stop - (offset + 1 : Nat)).toNat + 1 := by omega
        by_cases started : start ≤ offset
        · have here : (start - offset).toNat = 0 := by omega
          have later : (start - (offset + 1 : Nat)).toNat = 0 := by omega
          rw [if_pos ⟨started, by omega⟩, further, here, later]
          rfl
        · have before : (start - offset).toNat = (start - (offset + 1 : Nat)).toNat + 1 := by
            omega
          rw [if_neg (by omega), further, before]
          rfl
  have whole := shifted 0
  rwa [Int.natCast_zero, Int.sub_zero, Int.sub_zero] at whole

theorem length_within (items : List Item) (start stop : Int)
    : (within items start stop).length = min stop.toNat items.length - start.toNat := by
  rw [within_eq, List.length_drop, List.length_take]

/-- Between two adjacent ranges, no item is lost and none is there twice. -/
theorem within_append {middle} (ordered : start ≤ middle) (behind : middle ≤ stop)
    : within items start middle ++ within items middle stop = within items start stop := by
  rw [within_eq, within_eq, within_eq]
  have shorter : items.take middle.toNat = (items.take stop.toNat).take middle.toNat := by
    rw [List.take_take, Nat.min_eq_left (Int.toNat_le_toNat behind)]
  have parts : (items.take stop.toNat).drop start.toNat
      = ((items.take stop.toNat).drop start.toNat).take (middle.toNat - start.toNat)
        ++ ((items.take stop.toNat).drop start.toNat).drop (middle.toNat - start.toNat) :=
    (List.take_append_drop ..).symm
  have split : start.toNat + (middle.toNat - start.toNat) = middle.toNat :=
    Nat.add_sub_cancel' (Int.toNat_le_toNat ordered)
  rw [parts, shorter, List.drop_drop, split, ← List.drop_take]

/-- The same for what is left of the list behind a range that may reach over its end. -/
theorem within_append_length {middle} (ordered : start ≤ middle)
    : within items start middle ++ within items middle items.length
      = within items start items.length := by
  by_cases behind : middle ≤ items.length
  · exact within_append ordered behind
  · have nothing : within items middle items.length = [] := by
      rw [← List.length_eq_zero_iff, length_within]
      omega
    rw [nothing, List.append_nil, within_eq, within_eq, List.take_of_length_le (by omega),
      List.take_of_length_le (by omega)]

/-- All positions of the list. -/
theorem within_all (early : start ≤ 0) (late : (items.length : Int) ≤ stop)
    : within items start stop = items := by
  rw [within_eq, List.take_of_length_le (by omega), Int.toNat_of_nonpos early, List.drop_zero]

end BacPy.Library
