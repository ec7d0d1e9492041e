import Mathlib.Data.List.Basic

/-! Writing a run of items into a list at any position: over what is there, across the end, or
behind it with a gap that is filled.
-/

namespace BacPy.Library

variable {Item : Type*} {fill : Item} {items : List Item} {start : Nat}

/-- The list, long enough to be written from a position on. -/
def extended (fill : Item) (old : List Item) (start : Nat) : List Item :=
  old ++ List.replicate (start - old.length) fill

/-- The items in the place of those at the same positions. -/
def overwrite (fill : Item) (old : List Item) (start : Nat) (items : List Item) : List Item :=
  (extended fill old start).take start ++ items
    ++ (extended fill old start).drop (start + items.length)

/-- The new list has the items from the position on, the filling between the old end and the
position, and is otherwise the old list.
-/
structure Overwritten (fill : Item) (old : List Item) (start : Nat) (items new : List Item)
    : Prop where
  length : new.length = max (max old.length start) (start + items.length)
  written : ∀ index < items.length, new[start + index]? = items[index]?
  gap : ∀ index, old.length ≤ index → index < start → new[index]? = some fill
  kept : ∀ index < old.length, index < start ∨ start + items.length ≤ index
    → new[index]? = old[index]?

theorem length_extended (old : List Item) : (extended fill old start).length = max old.length start := by
  rw [extended, List.length_append, List.length_replicate]
  omega

theorem getElem?_extended_of_lt {old index} (inside : index < old.length)
    : (extended fill old start)[index]? = old[index]? := by
  rw [extended, List.getElem?_append_left inside]

theorem getElem?_extended_of_gap {old index} (outside : old.length ≤ index) (before : index < start)
    : (extended fill old start)[index]? = some fill := by
  rw [extended, List.getElem?_append_right outside, List.getElem?_replicate, if_pos (by omega)]

/-- What a write below, at and above the position leaves. -/
theorem getElem?_overwrite (old : List Item) (index : Nat)
    : (overwrite fill old start items)[index]?
      = if index < start then (extended fill old start)[index]?
        else if index < start + items.length then items[index - start]?
        else (extended fill old start)[index]? := by
  have long : start ≤ (extended fill old start).length := by
    rw [length_extended]
    exact Nat.le_max_right ..
  have front : ((extended fill old start).take start).length = start :=
    List.length_take_of_le long
  unfold overwrite
  rw [List.append_assoc]
  split
  · next below =>
      rw [List.getElem?_append_left (by omega), List.getElem?_take_of_lt below]
  · next notBelow =>
      rw [List.getElem?_append_right (by omega), front]
      split
      · next inside => rw [List.getElem?_append_left (by omega)]
      · next above =>
          rw [List.getElem?_append_right (by omega), List.getElem?_drop]
          congr 1
          omega

theorem overwritten_overwrite (old : List Item)
    : Overwritten fill old start items (overwrite fill old start items) where
  length := by
    have long := @length_extended _ fill start old
    simp only [overwrite, List.length_append, List.length_take, List.length_drop, long]
    omega
  written index inside := by
    rw [getElem?_overwrite, if_neg (by omega), if_pos (by omega), Nat.add_sub_cancel_left]
  gap index outside before := by
    rw [getElem?_overwrite, if_pos before, getElem?_extended_of_gap outside before]
  kept index inside apart := by
    rw [getElem?_overwrite]
    split
    · exact getElem?_extended_of_lt inside
    · rw [if_neg (by omega), getElem?_extended_of_lt inside]

/-- An append is a write at the end. -/
theorem overwrite_length (old : List Item) : overwrite fill old old.length items = old ++ items := by
  have same : extended fill old old.length = old := by
    rw [extended, Nat.sub_self, List.replicate_zero, List.append_nil]
  rw [overwrite, same, List.take_length, List.drop_eq_nil_of_le (Nat.le_add_right ..),
    List.append_nil]

/-- A write from the beginning leaves what is behind the items. -/
theorem overwrite_zero (old : List Item)
    : overwrite fill old 0 items = items ++ old.drop items.length := by
  have same : extended fill old 0 = old := by
    rw [extended, Nat.zero_sub, List.replicate_zero, List.append_nil]
  rw [overwrite, same, List.take_zero, List.nil_append, Nat.zero_add]

/-- The same write again changes nothing. -/
theorem overwrite_zero_again (old : List Item)
    : overwrite fill (overwrite fill old 0 items) 0 items = overwrite fill old 0 items := by
  rw [overwrite_zero, overwrite_zero, List.drop_left]

/-- A write from the beginning covers the old list if it is not longer than the items, and only
then.
-/
theorem overwrite_zero_eq_iff {old}
    : overwrite fill old 0 items = items ↔ old.length ≤ items.length := by
  rw [overwrite_zero]
  constructor
  · intro covered
    have lengths := congrArg List.length covered
    rw [List.length_append, List.length_drop] at lengths
    omega
  · intro short
    rw [List.drop_eq_nil_of_le short, List.append_nil]

end BacPy.Library
