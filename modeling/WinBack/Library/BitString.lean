import Mathlib.Data.List.Basic
import Mathlib.Data.Nat.Bitwise
import Mathlib.Tactic.Common

/-! Numbers as strings of bits, the greatest first: how strings are joined, shifted and cut, and that numbers
of one width are read back from them. -/

namespace WinBack.Library.BitString

variable {width high low number first second : Nat} {numbers others : List Nat}

/-- The low bits of a number. -/
def bits : Nat → Nat → List Bool
  | 0, _ => []
  | width + 1, number => number.testBit width :: bits width number

@[simp] theorem length_bits (width number : Nat) : (bits width number).length = width := by
  induction width with
  | zero => rfl
  | succ width ih => rw [bits, List.length_cons, ih]

theorem bits_append (high low number : Nat) : bits (high + low) number = bits high (number / 2 ^ low) ++ bits low number := by
  induction high with
  | zero => rw [Nat.zero_add, bits, List.nil_append]
  | succ high ih =>
    rw [Nat.succ_add, bits, bits, ih, List.cons_append, Nat.testBit_div_two_pow]

theorem bits_congr (same : ∀ place < width, first.testBit place = second.testBit place) : bits width first = bits width second := by
  induction width with
  | zero => rfl
  | succ width ih =>
    rw [bits, bits, same width (Nat.lt_succ_self width), ih fun place below => same place (Nat.lt_succ_of_lt below)]

/-- Greater bits do not count. -/
theorem bits_mod (width number : Nat) : bits width (number % 2 ^ width) = bits width number :=
  bits_congr fun place below => by rw [Nat.testBit_mod_two_pow, decide_eq_true below, Bool.true_and]

theorem bits_zero (width : Nat) : bits width 0 = List.replicate width false := by
  induction width with
  | zero => rfl
  | succ width ih => rw [bits, ih, Nat.zero_testBit, List.replicate_succ]

/-- Two strings, one behind the other, are one number. -/
theorem bits_join (below : second < 2 ^ low) : bits (high + low) (first * 2 ^ low + second) = bits high first ++ bits low second := by
  have quotient : (first * 2 ^ low + second) / 2 ^ low = first := by
    rw [Nat.mul_comm, Nat.mul_add_div (Nat.two_pow_pos low), Nat.div_eq_of_lt below, Nat.add_zero]
  have remainder : (first * 2 ^ low + second) % 2 ^ low = second := by
    rw [Nat.mul_comm, Nat.mul_add_mod, Nat.mod_eq_of_lt below]
  rw [bits_append, quotient, ← bits_mod low, remainder]

theorem bits_injective (small : first < 2 ^ width) (other : second < 2 ^ width) (same : bits width first = bits width second) :
    first = second := by
  induction width generalizing first second with
  | zero =>
    rw [Nat.pow_zero, Nat.lt_one_iff] at small other
    rw [small, other]
  | succ width ih =>
    obtain ⟨top, rest⟩ := List.cons.inj same
    have reduced : first % 2 ^ width = second % 2 ^ width :=
      ih (Nat.mod_lt _ (Nat.two_pow_pos width)) (Nat.mod_lt _ (Nat.two_pow_pos width)) (by rw [bits_mod, bits_mod, rest])
    refine Nat.eq_of_testBit_eq fun place => ?_
    rcases lt_trichotomy place width with below | rfl | above
    · have lower := congrArg (·.testBit place) reduced
      simpa [Nat.testBit_mod_two_pow, below] using lower
    · exact top
    · have wide : 2 ^ (width + 1) ≤ 2 ^ place := Nat.pow_le_pow_right (by decide) above
      rw [Nat.testBit_lt_two_pow (small.trans_le wide), Nat.testBit_lt_two_pow (other.trans_le wide)]

/-- The strings of many numbers, one behind the other. -/
def string (width : Nat) (numbers : List Nat) : List Bool := numbers.flatMap (bits width)

theorem string_append (front back : List Nat) : string width (front ++ back) = string width front ++ string width back :=
  List.flatMap_append

@[simp] theorem length_string (width : Nat) (numbers : List Nat) : (string width numbers).length = width * numbers.length := by
  induction numbers with
  | nil => rfl
  | cons number rest ih =>
    rw [string, List.flatMap_cons, List.length_append, length_bits, List.length_cons, Nat.mul_succ, Nat.add_comm, ← ih]
    rfl

/-- The first numbers are the first bits. -/
theorem string_take (width count : Nat) (numbers : List Nat) :
    string width (numbers.take count) = (string width numbers).take (width * count) := by
  induction numbers generalizing count with
  | nil => rw [List.take_nil, string, List.flatMap_nil, List.take_nil]
  | cons number rest ih =>
    cases count with
    | zero => rfl
    | succ count =>
      have length : (bits width number).length = width := length_bits width number
      rw [List.take_succ_cons, string, List.flatMap_cons, string, List.flatMap_cons, Nat.mul_succ, Nat.add_comm,
        List.take_append, length, Nat.add_sub_cancel_left,
        List.take_of_length_le (length.trans_le (Nat.le_add_right width _))]
      exact congrArg _ (ih count)

theorem string_injective (positive : 0 < width) (small : ∀ number ∈ numbers, number < 2 ^ width)
    (other : ∀ number ∈ others, number < 2 ^ width) (same : string width numbers = string width others) : numbers = others := by
  induction numbers generalizing others with
  | nil =>
    have lengths := congrArg List.length same
    rw [length_string, length_string, List.length_nil, Nat.mul_zero, eq_comm, Nat.mul_eq_zero] at lengths
    exact (List.length_eq_zero_iff.mp (lengths.resolve_left positive.ne')).symm
  | cons number rest ih =>
    cases others with
    | nil =>
      have lengths := congrArg List.length same
      rw [length_string, length_string, List.length_nil, Nat.mul_zero, Nat.mul_eq_zero] at lengths
      exact absurd (lengths.resolve_left positive.ne') (Nat.succ_ne_zero _)
    | cons head tail =>
      rw [string, List.flatMap_cons, string, List.flatMap_cons] at same
      obtain ⟨heads, tails⟩ := List.append_inj same (by rw [length_bits, length_bits])
      rw [bits_injective (small number List.mem_cons_self) (other head List.mem_cons_self) heads,
        ih (fun number listed => small number (List.mem_cons_of_mem _ listed))
          (fun number listed => other number (List.mem_cons_of_mem _ listed)) tails]

end WinBack.Library.BitString
