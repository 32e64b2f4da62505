import Mathlib.Data.List.Basic
import Mathlib.Tactic.Common

/-! Whole numbers as text: which letters they are written with. -/

namespace WinBack.Library.Numeral

variable {number : Nat} {letter : Char}

theorem isDigit_toString (listed : letter ∈ (toString number).toList) : letter.isDigit = true := by
  rw [Nat.toString_eq_ofList_toDigits, String.toList_ofList] at listed
  exact Nat.isDigit_of_mem_toDigits (by decide) (by decide) listed

theorem toString_ne_nil (number : Nat) : (toString number).toList ≠ [] := by
  rw [Nat.toString_eq_ofList_toDigits, String.toList_ofList]
  exact Nat.toDigits_ne_nil

/-- A negative number has a sign before its digits. -/
theorem letters_int (number : Int) : (toString number).toList ≠ [] ∧
    ∀ letter ∈ (toString number).toList, letter.isDigit = true ∨ letter = '-' := by
  cases number with
  | ofNat number => exact ⟨toString_ne_nil number, fun letter listed => .inl (isDigit_toString listed)⟩
  | negSucc number =>
    change ("-" ++ toString (number + 1)).toList ≠ [] ∧ ∀ letter ∈ ("-" ++ toString (number + 1)).toList, _
    rw [String.toList_append]
    refine ⟨List.append_ne_nil_of_left_ne_nil (by decide) _, fun letter listed => ?_⟩
    rcases List.mem_append.mp listed with sign | digit
    · exact .inr (List.mem_singleton.mp sign)
    · exact .inl (isDigit_toString digit)

end WinBack.Library.Numeral
