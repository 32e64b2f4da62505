import Mathlib.Algebra.Order.Field.Basic
import Mathlib.Tactic.Common
import Mathlib.Tactic.Linarith

/-! A bucket that refills at a constant rate up to its capacity. -/

namespace WinBack.Library

variable {K : Type} [Field K] [LinearOrder K]

/-- The level some time after it was seen. -/
def refill (capacity level rate elapsed : K) : K := min capacity (level + elapsed * rate)

variable {capacity level rate elapsed later required : K}

theorem refill_le : refill capacity level rate elapsed ≤ capacity := min_le_left _ _

variable [IsStrictOrderedRing K]

theorem refill_nonneg (holds : 0 ≤ capacity) (filled : 0 ≤ level) (restores : 0 ≤ rate) (since : 0 ≤ elapsed) :
    0 ≤ refill capacity level rate elapsed :=
  le_min holds (add_nonneg filled (mul_nonneg since restores))

theorem refill_mono (restores : 0 ≤ rate) (longer : elapsed ≤ later) :
    refill capacity level rate elapsed ≤ refill capacity level rate later := by
  apply min_le_min le_rfl
  have gained := mul_le_mul_of_nonneg_right longer restores
  linarith

/-- A level within the capacity is reached once the refill has made up what it lacks. -/
theorem le_refill (restores : 0 ≤ rate) (longer : elapsed ≤ later) (fits : required ≤ capacity)
    (deficit : required - refill capacity level rate elapsed ≤ (later - elapsed) * rate) :
    required ≤ refill capacity level rate later := by
  rcases min_choice capacity (level + elapsed * rate) with full | short
  · calc
      required ≤ capacity := fits
      _ = refill capacity level rate elapsed := full.symm
      _ ≤ refill capacity level rate later := refill_mono restores longer
  · apply le_min fits
    rw [refill, short] at deficit
    linarith

end WinBack.Library
