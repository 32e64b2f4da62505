import WinBack.Customer.Snapshot
import WinBack.Library.Shape

/-! Money as text, with up to two decimals, and in cents. -/

namespace WinBack

open Library

def malformedMoney (value : String) : RepositoryError := .validation
  ("parseMoneyToCents: malformed money string " ++ quoted value) "money.invalid_format" [("received", value)]

/-- `/^(\d+)(?:\.(\d{1,2}))?$/`, the decimals padded to two. -/
def parseMoneyToCents (value : String) : Except RepositoryError Nat :=
  let cents (whole fraction : List Char) : Except RepositoryError Nat :=
    if whole ≠ [] ∧ (whole ++ fraction).all Char.isDigit = true then
      .ok (Nat.ofDigitChars 10 whole 0 * 100 + Nat.ofDigitChars 10 (fraction.rightpad 2 '0') 0)
    else .error (malformedMoney value)
  match value.toList.splitOn '.' with
  | [whole] => cents whole []
  | [whole, fraction] =>
    if 1 ≤ fraction.length ∧ fraction.length ≤ 2 then cents whole fraction else .error (malformedMoney value)
  | _ => .error (malformedMoney value)

section Spelling

/-- How many decimals an amount is written with, where they are enough for it. -/
inductive Spelling where
  | whole | tenths | hundredths
  deriving DecidableEq, Repr

def decimals (spelling : Spelling) (cents : Nat) : List Char :=
  if spelling = .whole ∧ cents % 100 = 0 then []
  else if spelling ≠ .hundredths ∧ cents % 10 = 0 then [(cents % 100 / 10).digitChar]
  else [(cents % 100 / 10).digitChar, (cents % 10).digitChar]

def Spelling.amount (spelling : Spelling) (cents : Nat) : String :=
  let whole := Nat.toDigits 10 (cents / 100)
  match decimals spelling cents with
  | [] => .ofList whole
  | fraction => .ofList (whole ++ '.' :: fraction)

theorem decimals_digits {spelling : Spelling} {cents : Nat} {char : Char} (listed : char ∈ decimals spelling cents) :
    char.isDigit = true := by
  have tens : cents % 100 / 10 < 10 := by omega
  have ones : cents % 10 < 10 := Nat.mod_lt _ (by decide)
  unfold decimals at listed
  split at listed
  · cases listed
  · split at listed
    · obtain rfl := List.mem_singleton.mp listed
      exact Nat.isDigit_digitChar.trans (decide_eq_true tens)
    · rcases List.mem_pair.mp listed with rfl | rfl
      · exact Nat.isDigit_digitChar.trans (decide_eq_true tens)
      · exact Nat.isDigit_digitChar.trans (decide_eq_true ones)

theorem decimals_length (spelling : Spelling) (cents : Nat) : (decimals spelling cents).length ≤ 2 := by
  unfold decimals
  split
  · exact Nat.zero_le 2
  · split
    · exact Nat.le_succ 1
    · exact le_rfl

/-- Padded, the decimals are the cents beyond the whole units. -/
theorem decimals_value (spelling : Spelling) (cents : Nat) :
    Nat.ofDigitChars 10 ((decimals spelling cents).rightpad 2 '0') 0 = cents % 100 := by
  have tens : cents % 100 / 10 < 10 := by omega
  have ones : cents % 10 < 10 := Nat.mod_lt _ (by decide)
  have zero : '0' = Nat.digitChar 0 := rfl
  unfold decimals
  split
  · rename_i exact
    rw [exact.2]
    rfl
  · split
    · rename_i exact
      change Nat.ofDigitChars 10 [_, '0'] 0 = _
      rw [zero, Nat.ofDigitChars_cons_digitChar_of_lt_ten tens, Nat.ofDigitChars_cons_digitChar_of_lt_ten (by decide),
        Nat.ofDigitChars_nil]
      omega
    · change Nat.ofDigitChars 10 [_, _] 0 = _
      rw [Nat.ofDigitChars_cons_digitChar_of_lt_ten tens, Nat.ofDigitChars_cons_digitChar_of_lt_ten ones,
        Nat.ofDigitChars_nil]
      omega

/-- However many decimals an amount is written with, it is read as the same cents. -/
theorem parseMoneyToCents_amount (spelling : Spelling) (cents : Nat) :
    parseMoneyToCents (spelling.amount cents) = .ok cents := by
  have digits : ∀ char ∈ Nat.toDigits 10 (cents / 100), char.isDigit = true := fun _ listed =>
    Nat.isDigit_of_mem_toDigits (by decide) (by decide) listed
  have dotless {text : List Char} (all : ∀ char ∈ text, char.isDigit = true) : '.' ∉ text := fun dot =>
    absurd (all '.' dot) (by decide)
  have value := decimals_value spelling cents
  have parsed : Nat.ofDigitChars 10 (Nat.toDigits 10 (cents / 100)) 0 = cents / 100 := Nat.ofDigitChars_ten_toDigits
  have total : cents / 100 * 100 + cents % 100 = cents := by omega
  have fraction : ∀ char ∈ decimals spelling cents, char.isDigit = true := fun _ => decimals_digits
  have short := decimals_length spelling cents
  unfold parseMoneyToCents Spelling.amount
  cases shown : decimals spelling cents with
  | nil =>
    rw [shown] at value
    dsimp only
    rw [String.toList_ofList, List.splitOn_eq_singleton (dotless digits)]
    dsimp only
    rw [List.append_nil, if_pos ⟨Nat.toDigits_ne_nil, List.all_eq_true.mpr digits⟩, parsed, value, total]
  | cons first rest =>
    rw [shown] at value fraction short
    have all : ∀ char ∈ Nat.toDigits 10 (cents / 100) ++ first :: rest, char.isDigit = true := fun char listed =>
      (List.mem_append.mp listed).elim (digits char) (fraction char)
    dsimp only
    rw [String.toList_ofList, List.splitOn_append_cons_self_of_not_mem (dotless digits),
      List.splitOn_eq_singleton (dotless fraction)]
    dsimp only
    rw [if_pos ⟨by simp, short⟩, if_pos ⟨Nat.toDigits_ne_nil, List.all_eq_true.mpr all⟩, parsed, value, total]

example : parseMoneyToCents "100.5" = .ok 10050 := by decide

end Spelling

end WinBack
