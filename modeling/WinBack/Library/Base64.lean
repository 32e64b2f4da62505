import Mathlib.Tactic.Common

/-! Base64 texts: three bytes are four symbols. A reader takes both alphabets, passes over what is in neither, and stops
at the padding. -/

namespace WinBack.Library.Base64

def alphabet : List Char := "ABCDEFGHIJKLMNOPQRSTUVWXYZabcdefghijklmnopqrstuvwxyz0123456789+/".toList

def symbol (value : Nat) : Char := alphabet[value]?.getD 'A'

/-- The last two symbols have a second form. -/
def value? (char : Char) : Option Nat :=
  if char = '-' then some 62
  else if char = '_' then some 63
  else if char ∈ alphabet then some (alphabet.idxOf char)
  else none

/-- The values of the symbols. -/
def values : List UInt8 → List Nat
  | [] => []
  | [first] => [first.toNat / 4, first.toNat % 4 * 16]
  | [first, second] => [first.toNat / 4, first.toNat % 4 * 16 + second.toNat / 16, second.toNat % 16 * 4]
  | first :: second :: third :: rest =>
    first.toNat / 4 :: (first.toNat % 4 * 16 + second.toNat / 16) :: (second.toNat % 16 * 4 + third.toNat / 64) ::
      third.toNat % 64 :: values rest

/-- Bits that are no byte are dropped. -/
def bytes : List Nat → List UInt8
  | first :: second :: third :: fourth :: rest =>
    .ofNat (first * 4 + second / 16) :: .ofNat (second % 16 * 16 + third / 4) :: .ofNat (third % 4 * 64 + fourth) :: bytes rest
  | [first, second, third] => [.ofNat (first * 4 + second / 16), .ofNat (second % 16 * 16 + third / 4)]
  | [first, second] => [.ofNat (first * 4 + second / 16)]
  | _ => []

def encode (data : List UInt8) : List Char :=
  (values data).map symbol ++ List.replicate ((3 - data.length % 3) % 3) '='

def decode (text : List Char) : List UInt8 := bytes ((text.takeWhile (· ≠ '=')).filterMap value?)

set_option maxRecDepth 4000 in
theorem symbol_spec {value : Nat} (small : value < 64) : value? (symbol value) = some value ∧ symbol value ≠ '=' := by
  have every : ∀ value : Fin 64, value? (symbol value.val) = some value.val ∧ symbol value.val ≠ '=' := by decide
  exact every ⟨value, small⟩

theorem values_small (data : List UInt8) : ∀ value ∈ values data, value < 64 := by
  induction data using values.induct with
  | case1 => exact fun _ member => (nomatch member)
  | case2 first =>
    have bound := first.toNat_lt
    simp only [values, List.forall_mem_cons, List.not_mem_nil, false_implies, implies_true, and_true]
    omega
  | case3 first second =>
    have bound := first.toNat_lt
    have other := second.toNat_lt
    simp only [values, List.forall_mem_cons, List.not_mem_nil, false_implies, implies_true, and_true]
    omega
  | case4 first second third rest ih =>
    have bound := first.toNat_lt
    have other := second.toNat_lt
    have last := third.toNat_lt
    simp only [values, List.forall_mem_cons]
    exact ⟨by omega, by omega, by omega, by omega, ih⟩

theorem ofNat_eq {byte : UInt8} {number : Nat} (same : number = byte.toNat) : UInt8.ofNat number = byte := by
  rw [same, UInt8.ofNat_toNat]

theorem bytes_values (data : List UInt8) : bytes (values data) = data := by
  induction data using values.induct with
  | case1 => rfl
  | case2 first => rw [values, bytes, @ofNat_eq first _ (by omega)]
  | case3 first second =>
    have bound := second.toNat_lt
    rw [values, bytes, @ofNat_eq first _ (by omega), @ofNat_eq second _ (by omega)]
  | case4 first second third rest ih =>
    have bound := second.toNat_lt
    have other := third.toNat_lt
    rw [values, bytes, ih, @ofNat_eq first _ (by omega), @ofNat_eq second _ (by omega), @ofNat_eq third _ (by omega)]

theorem read_symbols {numbers : List Nat} (small : ∀ value ∈ numbers, value < 64) :
    (numbers.map symbol).filterMap value? = numbers := by
  induction numbers with
  | nil => rfl
  | cons value rest ih =>
    obtain ⟨first, others⟩ := List.forall_mem_cons.mp small
    rw [List.map_cons, List.filterMap_cons_some (symbol_spec first).1, ih others]

/-- What was written is read back. -/
theorem decode_encode (data : List UInt8) : decode (encode data) = data := by
  have symbols : ∀ char ∈ (values data).map symbol, decide (char ≠ '=') = true := by
    intro char member
    obtain ⟨value, listed, rfl⟩ := List.mem_map.mp member
    simpa using (symbol_spec (values_small data value listed)).2
  have padding (count : Nat) : (List.replicate count '=').takeWhile (· ≠ '=') = [] := by cases count <;> rfl
  rw [decode, encode, List.takeWhile_append_of_pos symbols, padding, List.append_nil, read_symbols (values_small data),
    bytes_values]

end WinBack.Library.Base64
