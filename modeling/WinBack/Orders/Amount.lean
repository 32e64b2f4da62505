import WinBack.Library.Positional
import WinBack.Orders.Money
import Mathlib.Algebra.Order.Field.Rat

/-! Which texts are amounts of money, and what they denote. -/

namespace WinBack

open Library Library.Positional

/-- One or more digits, and after a point one or two more. -/
structure Amount where
  whole : List Char
  fraction : List Char
  nonempty : whole ≠ []
  digits : ∀ char ∈ whole ++ fraction, char.isDigit = true
  short : fraction.length ≤ 2

namespace Amount

def digit (char : Char) : Nat := char.toNat - '0'.toNat

/-- Without decimals there is no point. -/
def text (amount : Amount) : String :=
  .ofList (if amount.fraction = [] then amount.whole else amount.whole ++ '.' :: amount.fraction)

/-- The decimal value. -/
def value (amount : Amount) : ℚ := valueFrom 10 ((amount.whole ++ amount.fraction).map digit) (amount.whole.length - 1)

variable {amount : Amount} {chars : List Char}

theorem ofDigitChars_numeral : Nat.ofDigitChars 10 chars 0 = numeral 10 (chars.map digit) := by
  rw [Nat.ofDigitChars_eq_foldl, numeral, List.foldl_map]
  rfl

/-- Padding with zeros leaves the value behind the point. -/
theorem valueFrom_rightpad (short : chars.length ≤ 2) :
    (numeral 10 ((chars.rightpad 2 '0').map digit) : ℚ) = 100 * valueFrom 10 (chars.map digit) (-1) := by
  have length : (chars.rightpad 2 '0').length = 2 := by
    rw [List.rightpad, List.length_append, List.length_replicate]
    omega
  have whole := @valueFrom_numeral ℚ _ ((chars.rightpad 2 '0').map digit) 10 (by norm_num)
  have zeros : (List.replicate (2 - chars.length) '0').map digit = List.replicate (2 - chars.length) 0 := List.map_replicate
  rw [List.length_map, length, show ((2 : Nat) : ℤ) - 1 = -1 + 2 by norm_num, valueFrom_add (by norm_num), List.rightpad,
    List.map_append, zeros, valueFrom_append, valueFrom_zeros, add_zero] at whole
  rw [List.rightpad, List.map_append, zeros]
  norm_num at whole ⊢
  exact whole.symm

/-- The cents of an amount are a hundred times its value. -/
theorem cents_eq (amount : Amount) :
    ((Nat.ofDigitChars 10 amount.whole 0 * 100 + Nat.ofDigitChars 10 (amount.fraction.rightpad 2 '0') 0 : Nat) : ℚ) =
      100 * amount.value := by
  have units := @valueFrom_numeral ℚ _ (amount.whole.map digit) 10 (by norm_num)
  rw [List.length_map] at units
  rw [Nat.cast_add, Nat.cast_mul, ofDigitChars_numeral, ofDigitChars_numeral, valueFrom_rightpad amount.short, value,
    List.map_append, valueFrom_append, List.length_map, show (amount.whole.length : ℤ) - 1 - amount.whole.length = -1 by ring]
  push_cast at units ⊢
  rw [units]
  ring

theorem parse_text (amount : Amount) : parseMoneyToCents amount.text =
    .ok (Nat.ofDigitChars 10 amount.whole 0 * 100 + Nat.ofDigitChars 10 (amount.fraction.rightpad 2 '0') 0) := by
  have dotless {char : Char} (listed : char ∈ amount.whole ++ amount.fraction) : char ≠ '.' := fun dot =>
    absurd (dot ▸ amount.digits char listed) (by decide)
  have whole : '.' ∉ amount.whole := fun dot => dotless (List.mem_append_left _ dot) rfl
  have fraction : '.' ∉ amount.fraction := fun dot => dotless (List.mem_append_right _ dot) rfl
  have all : (amount.whole ++ amount.fraction).all Char.isDigit = true := List.all_eq_true.mpr amount.digits
  have short := amount.short
  unfold parseMoneyToCents text
  rw [String.toList_ofList]
  split
  · rename_i none
    rw [none, List.append_nil] at all
    rw [List.splitOn_eq_singleton whole]
    dsimp only
    rw [none, List.append_nil, if_pos ⟨amount.nonempty, all⟩]
  · rename_i some
    rw [List.splitOn_append_cons_self_of_not_mem whole, List.splitOn_eq_singleton fraction]
    dsimp only
    rw [if_pos ⟨List.length_pos_iff.mpr some, short⟩, if_pos ⟨amount.nonempty, all⟩]

/-- Nothing else is accepted. -/
theorem exists_of_parse {value : String} {cents : Nat} (parsed : parseMoneyToCents value = .ok cents) :
    ∃ amount : Amount, amount.text = value := by
  have joined : ['.'].intercalate (value.toList.splitOn '.') = value.toList := List.intercalate_splitOn '.'
  unfold parseMoneyToCents at parsed
  dsimp only at parsed
  split at parsed
  · rename_i whole pieces
    rw [pieces, List.intercalate_singleton] at joined
    split at parsed
    · rename_i accepted
      refine ⟨⟨whole, [], accepted.1, List.all_eq_true.mp accepted.2, Nat.zero_le 2⟩, ?_⟩
      rw [text, if_pos rfl]
      exact (congrArg String.ofList joined).trans String.ofList_toList
    · cases parsed
  · rename_i whole fraction pieces
    rw [pieces, List.intercalate_cons_cons, List.intercalate_singleton, List.append_assoc, List.singleton_append] at joined
    split at parsed
    · rename_i length
      split at parsed
      · rename_i accepted
        refine ⟨⟨whole, fraction, accepted.1, List.all_eq_true.mp accepted.2, length.2⟩, ?_⟩
        rw [text, if_neg (List.length_pos_iff.mp length.1)]
        exact (congrArg String.ofList joined).trans String.ofList_toList
      · cases parsed
    · cases parsed
  · cases parsed

/-- An amount is read exactly, and two that are read alike have one value. -/
theorem money_parsing_exact :
    (∀ value : String, (∃ cents, parseMoneyToCents value = .ok cents) ↔ ∃ amount : Amount, amount.text = value) ∧
    (∀ amount : Amount, ∃ cents, parseMoneyToCents amount.text = .ok cents ∧ (cents : ℚ) = 100 * amount.value) ∧
    ∀ first second : Amount, parseMoneyToCents first.text = parseMoneyToCents second.text ↔ first.value = second.value := by
  refine ⟨fun value => ⟨fun ⟨cents, parsed⟩ => exists_of_parse parsed, ?_⟩, fun amount => ⟨_, parse_text amount, cents_eq amount⟩,
    fun first second => ?_⟩
  · rintro ⟨amount, rfl⟩
    exact ⟨_, parse_text amount⟩
  · have left := cents_eq first
    have right := cents_eq second
    rw [parse_text first, parse_text second, Except.ok.injEq, ← @Nat.cast_inj ℚ, left, right]
    exact mul_right_inj' (by norm_num)

end Amount

end WinBack
