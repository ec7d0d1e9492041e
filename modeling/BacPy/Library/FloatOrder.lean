import Mathlib.Data.Prod.Lex
import Mathlib.Algebra.Order.Ring.Int

/-! The order of floating-point numbers: NaN apart, it is the order of what they are made of. -/

namespace BacPy.Library.FloatOrder

open Float.Model

/-- Where a number stands: its sign and kind, its exponent and its mantissa. The kinds in their
order are the negative infinity, negative numbers, the zeros, positive numbers and the positive
infinity.
-/
def rank : UnpackedFloat → Option (Int ×ₗ Int ×ₗ Int)
  | .notANumber => none
  | .infinity .negative => some (toLex (-2, toLex (0, 0)))
  | .finite .negative mantissa exponent _ => some (toLex (-1, toLex (-exponent, -mantissa)))
  | .zero _ => some (toLex (0, toLex (0, 0)))
  | .finite .positive mantissa exponent _ => some (toLex (1, toLex (exponent, mantissa)))
  | .infinity .positive => some (toLex (2, toLex (0, 0)))

/-- Negation turns an order around. -/
theorem compare_neg (first second : Int) : compare (-first) (-second) = compare second first := by
  rcases lt_trichotomy first second with less | same | greater
  · rw [compare_gt_iff_gt.mpr (neg_lt_neg less), compare_gt_iff_gt.mpr less]
  · subst same
    simp
  · rw [compare_lt_iff_lt.mpr (neg_lt_neg greater), compare_lt_iff_lt.mpr greater]

theorem compare_cast (first second : Nat)
    : compare (first : Int) (second : Int) = compare first second := by
  rcases lt_trichotomy first second with less | same | greater
  · rw [compare_lt_iff_lt.mpr (Int.ofNat_lt.mpr less), compare_lt_iff_lt.mpr less]
  · subst same
    simp
  · rw [compare_gt_iff_gt.mpr (Int.ofNat_lt.mpr greater), compare_gt_iff_gt.mpr greater]

/-- Comparing two numbers is comparing where they stand. -/
theorem compare_eq (first second : UnpackedFloat)
    : first.compare second = (rank first).bind fun left => (rank second).map (compare left) := by
  rcases first with ⟨_ | _⟩ | _ | _ | ⟨_ | _, mantissa, exponent, _⟩ <;>
    rcases second with ⟨_ | _⟩ | _ | _ | ⟨_ | _, mantissa', exponent', _⟩ <;>
    try rfl
  · show some ((compare exponent exponent').then (compare mantissa mantissa')).swap
      = some (compare (toLex ((-1 : Int), toLex (-exponent, -(mantissa : Int))))
        (toLex ((-1 : Int), toLex (-exponent', -(mantissa' : Int)))))
    simp [Prod.Lex.compare_def, compareLex, compareOn, compare_neg, compare_cast,
      Ordering.swap_then, ← Std.OrientedCmp.eq_swap]
  · show some ((compare exponent exponent').then (compare mantissa mantissa'))
      = some (compare (toLex ((1 : Int), toLex (exponent, (mantissa : Int))))
        (toLex ((1 : Int), toLex (exponent', (mantissa' : Int)))))
    simp [Prod.Lex.compare_def, compareLex, compareOn, compare_cast]

/-- One float is below another if it stands below it. -/
theorem lt_iff (first second : Float)
    : first < second ↔ ∃ left right, rank first.toModel.unpack = some left
        ∧ rank second.toModel.unpack = some right ∧ left < right := by
  have expand : first < second
      ↔ (first.toModel.unpack.compare second.toModel.unpack == some .lt) = true := by
    show ((decide (Float.Model.lt _ _ = true)) = true) ↔ _
    rw [decide_eq_true_iff]
    rfl
  rw [expand, compare_eq]
  cases rank first.toModel.unpack <;> cases rank second.toModel.unpack <;> simp [compare_lt_iff_lt]

theorem le_iff (first second : Float)
    : first ≤ second ↔ ∃ left right, rank first.toModel.unpack = some left
        ∧ rank second.toModel.unpack = some right ∧ left ≤ right := by
  have expand : first ≤ second
      ↔ (first.toModel.unpack.compare second.toModel.unpack).any (·.isLE) = true := by
    show ((decide (Float.Model.le _ _ = true)) = true) ↔ _
    rw [decide_eq_true_iff]
    rfl
  rw [expand, compare_eq]
  cases rank first.toModel.unpack <;> cases rank second.toModel.unpack <;>
    simp [← compare_le_iff_le, Ordering.isLE_iff_ne_gt]

/-- What is not above a float is below everything that the float is below. -/
theorem lt_of_le_of_lt {first second third : Float} (before : first ≤ second)
    (after : second < third)
    : first < third := by
  obtain ⟨left, middle, stands, stands', below⟩ := (le_iff first second).mp before
  obtain ⟨same, right, again, stands'', above⟩ := (lt_iff second third).mp after
  obtain rfl : middle = same := Option.some.inj (stands'.symm.trans again)
  exact (lt_iff first third).mpr ⟨left, right, stands, stands'', below.trans_lt above⟩

end BacPy.Library.FloatOrder
