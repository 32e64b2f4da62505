import WinBack.Library.BitString

/-! The base32 encoder: bytes as a stream of bits, one symbol for each five of them. -/

namespace WinBack.Base32

open Library

section Encoding

/-- Without I, L, O and U. -/
def crockfordAlphabet : String := "0123456789ABCDEFGHJKMNPQRSTVWXYZ"

def bitsPerByte : Nat := 8

def bitsPerSymbol : Nat := 5

def symbolMask : BitVec 32 := 0b11111

/-- Shifts are of 32-bit integers, the count modulo 32. -/
def shiftLeft (value : BitVec 32) (count : Nat) : BitVec 32 := value <<< (count % 32)

def shiftRight (value : BitVec 32) (count : Nat) : BitVec 32 := value >>> (count % 32)

/-- Nothing beyond the end. -/
def charAt (text : String) (index : Nat) : String := .ofList text.toList[index]?.toList

/-- What the loop carries. -/
structure Encoder where
  accumulator : BitVec 32 := 0
  bits : Nat := 0
  output : String := ""

def Encoder.push (encoder : Encoder) (byte : UInt8) : Encoder := { encoder with
  accumulator := shiftLeft encoder.accumulator bitsPerByte ||| byte.toBitVec.setWidth 32
  bits := encoder.bits + bitsPerByte }

/-- One round of the inner loop; of the accumulator only the bits that are left are kept. -/
def Encoder.emit (encoder : Encoder) : Encoder :=
  let bits := encoder.bits - bitsPerSymbol
  { accumulator := encoder.accumulator &&& (shiftLeft 1 bits - 1)
    bits
    output := encoder.output ++ charAt crockfordAlphabet (shiftRight encoder.accumulator bits &&& symbolMask).toNat }

/-- The inner loop. -/
def Encoder.drain (encoder : Encoder) : Encoder :=
  if bitsPerSymbol ≤ encoder.bits then encoder.emit.drain else encoder
termination_by encoder.bits
decreasing_by
  rename_i enough
  exact Nat.sub_lt (Nat.lt_of_lt_of_le (by decide) enough) (by decide)

/-- A group that is not full is the left part of a last symbol. -/
def Encoder.finish (encoder : Encoder) : String :=
  if 0 < encoder.bits then
    encoder.output ++ charAt crockfordAlphabet
      (shiftLeft encoder.accumulator (bitsPerSymbol - encoder.bits) &&& symbolMask).toNat
  else encoder.output

def encodeCrockfordBase32 (input : List UInt8) : String :=
  (input.foldl (fun (encoder : Encoder) byte => (encoder.push byte).drain) {}).finish

end Encoding

section Invariant

open BitString

/-- The bits of the input. -/
def inputBits (input : List UInt8) : List Bool := string bitsPerByte (input.map UInt8.toNat)

/-- The value of a symbol is its place in the alphabet. -/
def symbolValue (symbol : Char) : Nat := crockfordAlphabet.toList.idxOf symbol

def symbolBits (symbols : List Char) : List Bool := string bitsPerSymbol (symbols.map symbolValue)

/-- The states of the loops, with the bytes that were taken. -/
inductive Encoder.Reached : List UInt8 → Encoder → Prop where
  | start : Reached [] {}
  | push {taken : List UInt8} {encoder : Encoder} (earlier : Reached taken encoder) (drained : encoder.bits < bitsPerSymbol)
      (byte : UInt8) : Reached (taken ++ [byte]) (encoder.push byte)
  | emit {taken : List UInt8} {encoder : Encoder} (earlier : Reached taken encoder) (enough : bitsPerSymbol ≤ encoder.bits) :
      Reached taken encoder.emit

/-- The symbols and what is left in the accumulator are the bytes. -/
structure Encoder.Holds (taken : List UInt8) (encoder : Encoder) : Prop where
  spells : symbolBits encoder.output.toList ++ BitString.bits encoder.bits encoder.accumulator.toNat = inputBits taken
  bounded : encoder.accumulator.toNat < 2 ^ encoder.bits
  within : encoder.bits ≤ 12
  symbols : ∀ symbol ∈ encoder.output.toList, symbol ∈ crockfordAlphabet.toList

variable {taken input : List UInt8} {encoder : Encoder} {index count : Nat} {byte : UInt8}

theorem symbolBits_append (front back : List Char) : symbolBits (front ++ back) = symbolBits front ++ symbolBits back := by
  rw [symbolBits, List.map_append, string_append]
  rfl

/-- Below 32 there is a symbol, and it has that value. -/
theorem charAt_alphabet (small : index < 32) :
    ∃ symbol ∈ crockfordAlphabet.toList, (charAt crockfordAlphabet index).toList = [symbol] ∧ symbolValue symbol = index := by
  have every : ∀ index : Fin 32, crockfordAlphabet.toList[index.val]?.map symbolValue = some index.val := by decide
  obtain ⟨symbol, found, value⟩ := Option.map_eq_some_iff.mp (every ⟨index, small⟩)
  refine ⟨symbol, List.mem_of_getElem? found, ?_, value⟩
  rw [charAt, String.toList_ofList, found]
  rfl

theorem toNat_shiftLeft {value : BitVec 32} (few : count < 32) (fits : value.toNat * 2 ^ count < 2 ^ 32) :
    (shiftLeft value count).toNat = value.toNat * 2 ^ count := by
  rw [shiftLeft, Nat.mod_eq_of_lt few, BitVec.toNat_shiftLeft, Nat.shiftLeft_eq, Nat.mod_eq_of_lt fits]

theorem toNat_shiftRight {value : BitVec 32} (few : count < 32) : (shiftRight value count).toNat = value.toNat / 2 ^ count := by
  rw [shiftRight, Nat.mod_eq_of_lt few, BitVec.toNat_ushiftRight, Nat.shiftRight_eq_div_pow]

theorem toNat_mask {value : BitVec 32} : (value &&& symbolMask).toNat = value.toNat % 32 := by
  rw [BitVec.toNat_and, show symbolMask.toNat = 2 ^ 5 - 1 from rfl, Nat.and_two_pow_sub_one_eq_mod]

/-- A mask of the low bits. -/
theorem toNat_low {value : BitVec 32} (few : count < 32) : (value &&& (shiftLeft 1 count - 1)).toNat = value.toNat % 2 ^ count := by
  have power : 2 ^ count < 2 ^ 32 := Nat.pow_lt_pow_right (by decide) few
  have positive : 0 < 2 ^ count := Nat.two_pow_pos count
  have unit : (1 : BitVec 32).toNat = 1 := rfl
  have one : (shiftLeft 1 count).toNat = 2 ^ count := by
    rw [toNat_shiftLeft few (by rwa [unit, Nat.one_mul]), unit, Nat.one_mul]
  have low : (shiftLeft 1 count - 1).toNat = 2 ^ count - 1 := by
    rw [BitVec.toNat_sub_of_le (by rw [BitVec.le_def, one]; exact positive), one]
    rfl
  rw [BitVec.toNat_and, low, Nat.and_two_pow_sub_one_eq_mod]

theorem holds_start : Encoder.Holds [] {} := by
  refine ⟨rfl, Nat.zero_lt_one, Nat.zero_le 12, fun symbol listed => absurd listed List.not_mem_nil⟩

theorem Encoder.Holds.toNat_push (holds : Encoder.Holds taken encoder) (drained : encoder.bits < bitsPerSymbol) (byte : UInt8) :
    (encoder.push byte).accumulator.toNat = encoder.accumulator.toNat * 2 ^ 8 + byte.toNat := by
  have small : encoder.accumulator.toNat < 2 ^ 5 :=
    holds.bounded.trans_le (Nat.pow_le_pow_right (by decide) (le_of_lt drained))
  have octet : byte.toNat < 2 ^ 8 := byte.toNat_lt
  have shifted : (shiftLeft encoder.accumulator bitsPerByte).toNat = encoder.accumulator.toNat * 2 ^ 8 :=
    toNat_shiftLeft (by decide) (by change _ * 2 ^ 8 < _; omega)
  have widened : (byte.toBitVec.setWidth 32).toNat = byte.toNat := by
    rw [BitVec.toNat_setWidth, UInt8.toNat_toBitVec, Nat.mod_eq_of_lt (octet.trans (by decide))]
  change (shiftLeft encoder.accumulator bitsPerByte ||| byte.toBitVec.setWidth 32).toNat = _
  rw [BitVec.toNat_or, shifted, widened, Nat.mul_comm, Nat.two_pow_add_eq_or_of_lt octet]

theorem inputBits_snoc (taken : List UInt8) (byte : UInt8) :
    inputBits (taken ++ [byte]) = inputBits taken ++ BitString.bits 8 byte.toNat := by
  rw [inputBits, List.map_append, string_append, List.map_singleton, string, string, List.flatMap_singleton]
  rfl

theorem Encoder.Holds.push (holds : Encoder.Holds taken encoder) (drained : encoder.bits < bitsPerSymbol) (byte : UInt8) :
    Encoder.Holds (taken ++ [byte]) (encoder.push byte) := by
  have octet : byte.toNat < 2 ^ 8 := byte.toNat_lt
  have bounded := holds.bounded
  have joined := holds.toNat_push drained byte
  refine ⟨?_, ?_, ?_, holds.symbols⟩
  · rw [joined, inputBits_snoc, ← holds.spells, List.append_assoc, ← bits_join octet]
    rfl
  · rw [joined]
    change _ < 2 ^ (encoder.bits + 8)
    rw [Nat.pow_add]
    omega
  · change encoder.bits + 8 ≤ 12
    change encoder.bits < 5 at drained
    omega

/-- A symbol is appended whose value is the index. -/
theorem symbolBits_charAt {output : String} (small : index < 32) :
    symbolBits (output ++ charAt crockfordAlphabet index).toList = symbolBits output.toList ++ BitString.bits 5 index := by
  obtain ⟨symbol, _, text, value⟩ := charAt_alphabet small
  rw [String.toList_append, text, symbolBits_append]
  congr 1
  rw [symbolBits, List.map_singleton, value, string, List.flatMap_singleton]
  rfl

theorem mem_charAt {output : String} (small : index < 32) (symbols : ∀ symbol ∈ output.toList, symbol ∈ crockfordAlphabet.toList) :
    ∀ symbol ∈ (output ++ charAt crockfordAlphabet index).toList, symbol ∈ crockfordAlphabet.toList := by
  obtain ⟨letter, known, text, _⟩ := charAt_alphabet small
  intro symbol listed
  rw [String.toList_append, text] at listed
  rcases List.mem_append.mp listed with earlier | last
  · exact symbols symbol earlier
  · obtain rfl := List.mem_singleton.mp last
    exact known

theorem Encoder.Holds.emit (holds : Encoder.Holds taken encoder) (enough : bitsPerSymbol ≤ encoder.bits) :
    Encoder.Holds taken encoder.emit := by
  obtain ⟨left, split⟩ : ∃ left, encoder.bits = 5 + left := Nat.exists_eq_add_of_le enough
  have within := holds.within
  have few : left < 32 := by omega
  have rest : encoder.bits - bitsPerSymbol = left := by
    rw [split]
    exact Nat.add_sub_cancel_left 5 left
  have top : encoder.accumulator.toNat / 2 ^ left < 32 := by
    have bounded := holds.bounded
    rw [split, Nat.pow_add] at bounded
    exact Nat.div_lt_of_lt_mul (by rw [Nat.mul_comm]; exact bounded)
  have index : (shiftRight encoder.accumulator left &&& symbolMask).toNat = encoder.accumulator.toNat / 2 ^ left := by
    rw [toNat_mask, toNat_shiftRight few, Nat.mod_eq_of_lt top]
  unfold Encoder.emit
  rw [rest]
  refine ⟨?_, ?_, ?_, ?_⟩
  · dsimp only
    rw [index, symbolBits_charAt top, toNat_low few, bits_mod, List.append_assoc, ← bits_append, ← split]
    exact holds.spells
  · dsimp only
    rw [toNat_low few]
    exact Nat.mod_lt _ (Nat.two_pow_pos left)
  · dsimp only
    omega
  · dsimp only
    rw [index]
    exact mem_charAt top holds.symbols

/-- In every state of the loops. -/
theorem Encoder.Reached.holds (reached : Encoder.Reached taken encoder) : Encoder.Holds taken encoder := by
  induction reached with
  | start => exact holds_start
  | push _ drained byte ih => exact ih.push drained byte
  | emit _ enough ih => exact ih.emit enough

/-- The inner loop stops before a whole symbol is left. -/
theorem Encoder.Reached.drain (reached : Encoder.Reached taken encoder) :
    Encoder.Reached taken encoder.drain ∧ encoder.drain.bits < bitsPerSymbol := by
  induction encoder using Encoder.drain.induct with
  | case1 encoder enough ih =>
    rw [Encoder.drain, if_pos enough]
    exact ih (reached.emit enough)
  | case2 encoder short =>
    rw [Encoder.drain, if_neg short]
    exact ⟨reached, not_le.mp short⟩

/-- The loop over the bytes. -/
theorem reached_foldl (reached : Encoder.Reached taken encoder) (drained : encoder.bits < bitsPerSymbol) (input : List UInt8) :
    Encoder.Reached (taken ++ input) (input.foldl (fun (encoder : Encoder) byte => (encoder.push byte).drain) encoder) ∧
      (input.foldl (fun (encoder : Encoder) byte => (encoder.push byte).drain) encoder).bits < bitsPerSymbol := by
  induction input generalizing taken encoder with
  | nil =>
    rw [List.append_nil]
    exact ⟨reached, drained⟩
  | cons byte rest ih =>
    obtain ⟨next, short⟩ := (reached.push drained byte).drain
    rw [List.foldl_cons, List.append_cons]
    exact ih next short

/-- The output is what the end of the loop makes of a state that it reached. -/
theorem encode_reached (input : List UInt8) :
    ∃ encoder, Encoder.Reached input encoder ∧ encoder.bits < bitsPerSymbol ∧ encodeCrockfordBase32 input = encoder.finish := by
  obtain ⟨reached, short⟩ := reached_foldl .start (by decide) input
  exact ⟨_, reached, short, rfl⟩

theorem Encoder.Holds.toNat_last (holds : Encoder.Holds taken encoder) (drained : encoder.bits < bitsPerSymbol) :
    (shiftLeft encoder.accumulator (bitsPerSymbol - encoder.bits)).toNat =
      encoder.accumulator.toNat * 2 ^ (bitsPerSymbol - encoder.bits) ∧
      encoder.accumulator.toNat * 2 ^ (bitsPerSymbol - encoder.bits) < 32 := by
  have few : bitsPerSymbol - encoder.bits < 32 := (Nat.sub_le _ _).trans_lt (by decide)
  have small : encoder.accumulator.toNat * 2 ^ (bitsPerSymbol - encoder.bits) < 32 := by
    calc encoder.accumulator.toNat * 2 ^ (bitsPerSymbol - encoder.bits)
        < 2 ^ encoder.bits * 2 ^ (bitsPerSymbol - encoder.bits) :=
          Nat.mul_lt_mul_of_pos_right holds.bounded (Nat.two_pow_pos _)
      _ = 32 := by
          rw [← Nat.pow_add, Nat.add_sub_cancel' (le_of_lt drained)]
          rfl
  exact ⟨toNat_shiftLeft few (small.trans (by decide)), small⟩

/-- The symbols spell the bytes, and fewer than five zeros. -/
theorem encode_spells (input : List UInt8) : (∀ symbol ∈ (encodeCrockfordBase32 input).toList, symbol ∈ crockfordAlphabet.toList) ∧
    ∃ padding < 5, symbolBits (encodeCrockfordBase32 input).toList = inputBits input ++ List.replicate padding false := by
  obtain ⟨encoder, reached, drained, same⟩ := encode_reached input
  have holds := reached.holds
  rw [same]
  unfold Encoder.finish
  split
  · rename_i some
    obtain ⟨exact, small⟩ := holds.toNat_last drained
    have index : (shiftLeft encoder.accumulator (bitsPerSymbol - encoder.bits) &&& symbolMask).toNat =
        encoder.accumulator.toNat * 2 ^ (bitsPerSymbol - encoder.bits) := by
      rw [toNat_mask, exact, Nat.mod_eq_of_lt small]
    rw [index]
    refine ⟨mem_charAt small holds.symbols, bitsPerSymbol - encoder.bits, Nat.sub_lt (by decide) some, ?_⟩
    have cut : BitString.bits 5 (encoder.accumulator.toNat * 2 ^ (bitsPerSymbol - encoder.bits)) =
        BitString.bits encoder.bits encoder.accumulator.toNat ++ List.replicate (bitsPerSymbol - encoder.bits) false := by
      have joined := @bits_join encoder.bits (bitsPerSymbol - encoder.bits) encoder.accumulator.toNat 0 (Nat.two_pow_pos _)
      rw [Nat.add_sub_cancel' (le_of_lt drained), Nat.add_zero, bits_zero] at joined
      exact joined
    rw [symbolBits_charAt small, cut, ← List.append_assoc, holds.spells]
  · rename_i none
    have empty : encoder.bits = 0 := Nat.eq_zero_of_not_pos none
    refine ⟨holds.symbols, 0, by decide, ?_⟩
    have spells := holds.spells
    rw [empty, BitString.bits, List.append_nil] at spells
    rw [spells, List.replicate_zero, List.append_nil]

example : encodeCrockfordBase32 [0x48, 0x65] = "91JG" := by decide +kernel

end Invariant

section Faithful

open BitString

variable {first second : List UInt8} {count : Nat}

/-- Five bits a symbol, rounded up. -/
theorem length_encode (input : List UInt8) : (encodeCrockfordBase32 input).length = (8 * input.length + 4) / 5 := by
  obtain ⟨_, padding, few, spells⟩ := encode_spells input
  have lengths := congrArg List.length spells
  rw [symbolBits, length_string, List.length_map, List.length_append, inputBits, length_string, List.length_map,
    List.length_replicate, String.length_toList] at lengths
  change 5 * _ = 8 * _ + _ at lengths
  omega

theorem symbolValue_lt {symbol : Char} (known : symbol ∈ crockfordAlphabet.toList) : symbolValue symbol < 2 ^ bitsPerSymbol :=
  (List.idxOf_lt_length_of_mem known).trans_eq rfl

/-- Symbols of the alphabet are their bits. -/
theorem symbolBits_injective {symbols others : List Char} (known : ∀ symbol ∈ symbols, symbol ∈ crockfordAlphabet.toList)
    (other : ∀ symbol ∈ others, symbol ∈ crockfordAlphabet.toList) (same : symbolBits symbols = symbolBits others) :
    symbols = others := by
  have values : symbols.map symbolValue = others.map symbolValue := by
    refine string_injective (by decide) ?_ ?_ same
    · intro number listed
      obtain ⟨symbol, present, rfl⟩ := List.mem_map.mp listed
      exact symbolValue_lt (known symbol present)
    · intro number listed
      obtain ⟨symbol, present, rfl⟩ := List.mem_map.mp listed
      exact symbolValue_lt (other symbol present)
  have restored (chars : List Char) (listed : ∀ symbol ∈ chars, symbol ∈ crockfordAlphabet.toList) :
      chars.map some = (chars.map symbolValue).map fun value => crockfordAlphabet.toList[value]? := by
    rw [List.map_map]
    exact List.map_congr_left fun symbol present => (List.getElem?_idxOf (listed symbol present)).symm
  refine (List.map_inj_right fun _ _ => Option.some.inj).mp ?_
  rw [restored symbols known, restored others other, values]

theorem inputBits_injective (same : inputBits first = inputBits second) : first = second := by
  have values : first.map UInt8.toNat = second.map UInt8.toNat := by
    refine string_injective (by decide) ?_ ?_ same
    all_goals
      intro number listed
      obtain ⟨byte, _, rfl⟩ := List.mem_map.mp listed
      exact byte.toNat_lt
  exact (List.map_inj_right fun _ _ => UInt8.toNat_inj.mp).mp values

theorem length_inputBits (input : List UInt8) : (inputBits input).length = 8 * input.length := by
  rw [inputBits, length_string, List.length_map]
  rfl

theorem symbolBits_take (symbols : List Char) (count : Nat) :
    symbolBits (symbols.take count) = (symbolBits symbols).take (5 * count) := by
  rw [symbolBits, List.map_take, string_take]
  rfl

/-- The first symbols are the first bits: of two inputs that both reach that far, or that are equally long. -/
theorem take_encode_iff (reach : first.length = second.length ∨ 5 * count ≤ 8 * first.length ∧ 5 * count ≤ 8 * second.length) :
    (encodeCrockfordBase32 first).toList.take count = (encodeCrockfordBase32 second).toList.take count ↔
      (inputBits first).take (5 * count) = (inputBits second).take (5 * count) := by
  obtain ⟨known, padding, few, spells⟩ := encode_spells first
  obtain ⟨other, filling, short, spelled⟩ := encode_spells second
  have symbols : (encodeCrockfordBase32 first).toList.take count = (encodeCrockfordBase32 second).toList.take count ↔
      (inputBits first ++ List.replicate padding false).take (5 * count) =
        (inputBits second ++ List.replicate filling false).take (5 * count) := by
    rw [← spells, ← spelled, ← symbolBits_take, ← symbolBits_take]
    refine ⟨congrArg symbolBits, symbolBits_injective ?_ ?_⟩
    · exact fun symbol listed => known symbol (List.mem_of_mem_take listed)
    · exact fun symbol listed => other symbol (List.mem_of_mem_take listed)
  rw [symbols]
  rcases reach with equal | ⟨enough, also⟩
  · have lengths := congrArg List.length spells
    have others := congrArg List.length spelled
    rw [symbolBits, length_string, List.length_append, length_inputBits, List.length_replicate] at lengths others
    change 5 * _ = _ at lengths
    change 5 * _ = _ at others
    obtain rfl : padding = filling := by omega
    have level : (inputBits first).length = (inputBits second).length := by rw [length_inputBits, length_inputBits, equal]
    rw [List.take_append, List.take_append, level]
    exact ⟨fun same => List.append_inj_left same (by rw [List.length_take, List.length_take, level]), fun same => by rw [same]⟩
  · rw [List.take_append_of_le_length (by rwa [length_inputBits]), List.take_append_of_le_length (by rwa [length_inputBits])]

/-- The encoder spells the bits of its input, and loses none of them on the way. -/
theorem crockford_faithful :
    (∀ input : List UInt8, (encodeCrockfordBase32 input).length = (8 * input.length + 4) / 5 ∧
      (∀ symbol ∈ (encodeCrockfordBase32 input).toList, symbol ∈ crockfordAlphabet.toList) ∧
      ∃ padding < 5, symbolBits (encodeCrockfordBase32 input).toList = inputBits input ++ List.replicate padding false) ∧
    (∀ first second : List UInt8, first.length = second.length → encodeCrockfordBase32 first = encodeCrockfordBase32 second →
      first = second) ∧
    (∀ (first second : List UInt8) (count : Nat),
      first.length = second.length ∨ 5 * count ≤ 8 * first.length ∧ 5 * count ≤ 8 * second.length →
      ((encodeCrockfordBase32 first).toList.take count = (encodeCrockfordBase32 second).toList.take count ↔
        (inputBits first).take (5 * count) = (inputBits second).take (5 * count))) ∧
    (∀ input : List UInt8, ∃ encoder, Encoder.Reached input encoder ∧ encoder.bits < bitsPerSymbol ∧
      encodeCrockfordBase32 input = encoder.finish) ∧
    ∀ taken encoder, Encoder.Reached taken encoder → encoder.accumulator.toNat < 2 ^ 13 ∧
      (encoder.bits < bitsPerSymbol →
        (∀ byte, (encoder.push byte).accumulator.toNat = encoder.accumulator.toNat * 2 ^ 8 + byte.toNat) ∧
        (shiftLeft encoder.accumulator (bitsPerSymbol - encoder.bits)).toNat =
          encoder.accumulator.toNat * 2 ^ (bitsPerSymbol - encoder.bits)) := by
  refine ⟨fun input => ⟨length_encode input, encode_spells input⟩, fun first second equal same => ?_,
    fun first second count reach => take_encode_iff reach, encode_reached, fun taken encoder reached => ?_⟩
  · have whole := (@take_encode_iff first second (8 * first.length) (.inl equal)).mp (by rw [same])
    rw [List.take_of_length_le (by rw [length_inputBits]; omega), List.take_of_length_le (by rw [length_inputBits]; omega)] at whole
    exact inputBits_injective whole
  · have holds := reached.holds
    have wide : 2 ^ encoder.bits < 2 ^ 13 := Nat.pow_lt_pow_right (by decide) (Nat.lt_succ_of_le holds.within)
    exact ⟨holds.bounded.trans wide, fun drained => ⟨holds.toNat_push drained, (holds.toNat_last drained).1⟩⟩

end Faithful

end WinBack.Base32
