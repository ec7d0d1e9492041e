import Mathlib.Data.Int.ModEq

/-! Cyclic sequence numbers: how far one number is ahead of another, modulo a period. -/

namespace BacPy.Library

/-- How far `ahead` is ahead of `base`, counted cyclically modulo `period`. -/
def cyclicOffset (period ahead base : Nat) : Nat :=
  (((ahead : Int) - base) % period).toNat

/-- Only the residues matter for the offset. -/
@[simp] theorem cyclicOffset_mod (period ahead base : Nat)
    : cyclicOffset period (ahead % period) (base % period)
      = cyclicOffset period ahead base := by
  simp [cyclicOffset, Int.sub_emod]

/-- A number less than one period ahead has its true distance as offset. -/
theorem cyclicOffset_of_le {period ahead base} (le : base ≤ ahead) (near : ahead < base + period)
    : cyclicOffset period ahead base = ahead - base := by
  unfold cyclicOffset
  rw [Int.emod_eq_of_lt (by omega) (by omega)]
  omega

/-- A number at most one period behind shows up on the far side of the cycle. -/
theorem cyclicOffset_of_lt {period ahead base} (lt : ahead < base) (near : base ≤ ahead + period)
    : cyclicOffset period ahead base = period - (base - ahead) := by
  unfold cyclicOffset
  have shifted : ((ahead : Int) - base) % period = (ahead - base + period) % period := by simp
  by_cases whole : base = ahead + period
  · have zero : (ahead : Int) - base + period = 0 := by omega
    rw [shifted, zero]
    simp [whole]
  · rw [shifted, Int.emod_eq_of_lt (by omega) (by omega)]
    omega

end BacPy.Library
