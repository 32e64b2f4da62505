import Mathlib.Algebra.Field.Basic
import Mathlib.Algebra.GroupWithZero.Basic
import Mathlib.Data.List.Induction
import Mathlib.Tactic.Ring
import Mathlib.Tactic.Common

/-! Positional notation, the first digit being the greatest: the number that digits denote from a place on,
also behind the point. -/

namespace WinBack.Library.Positional

variable {Value : Type} [Field Value] {base : Value} {digits front back : List Nat} {digit : Nat} {place : ℤ}

/-- What the digits denote, the first of them at the place. -/
def valueFrom (base : Value) : List Nat → ℤ → Value
  | [], _ => 0
  | digit :: rest, place => digit * base ^ place + valueFrom base rest (place - 1)

/-- What they denote as a whole number. -/
def numeral (radix : Nat) (digits : List Nat) : Nat := digits.foldl (fun value digit => radix * value + digit) 0

theorem valueFrom_append :
    valueFrom base (front ++ back) place = valueFrom base front place + valueFrom base back (place - front.length) := by
  induction front generalizing place with
  | nil => simp [valueFrom]
  | cons digit rest ih =>
    rw [List.cons_append, valueFrom, valueFrom, ih, List.length_cons, Nat.cast_succ, add_assoc,
      show place - 1 - (rest.length : ℤ) = place - (rest.length + 1) by ring]

/-- Another place is another power of the base. -/
theorem valueFrom_add (nonzero : base ≠ 0) (shift : ℤ) :
    valueFrom base digits (place + shift) = base ^ shift * valueFrom base digits place := by
  induction digits generalizing place with
  | nil => simp [valueFrom]
  | cons digit rest ih =>
    rw [valueFrom, valueFrom, show place + shift - 1 = place - 1 + shift by ring, ih, zpow_add₀ nonzero]
    ring

theorem valueFrom_zeros (count : Nat) : valueFrom base (List.replicate count 0) place = 0 := by
  induction count generalizing place with
  | zero => rfl
  | succ count ih =>
    rw [List.replicate_succ, valueFrom, ih, Nat.cast_zero, zero_mul, add_zero]

theorem numeral_snoc (radix : Nat) : numeral radix (digits ++ [digit]) = radix * numeral radix digits + digit := by
  rw [numeral, List.foldl_append]
  rfl

/-- A whole number ends at the place of the units. -/
theorem valueFrom_numeral {radix : Nat} (nonzero : (radix : Value) ≠ 0) :
    valueFrom (radix : Value) digits (digits.length - 1) = numeral radix digits := by
  induction digits using List.reverseRecOn with
  | nil => simp [valueFrom, numeral]
  | append_singleton earlier last ih =>
    rw [numeral_snoc, valueFrom_append, List.length_append, List.length_singleton, Nat.cast_add, Nat.cast_one,
      show (earlier.length : ℤ) + 1 - 1 = earlier.length - 1 + 1 by ring, valueFrom_add nonzero, ih,
      show (earlier.length : ℤ) - 1 + 1 - earlier.length = 0 by ring, valueFrom, valueFrom, zpow_one, zpow_zero]
    push_cast
    ring

end WinBack.Library.Positional
