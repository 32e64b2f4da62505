import Mathlib.Data.List.Sort
import Mathlib.Tactic.Common

/-! Quantiles of a sorted sample by the nearest-rank rule, and how many values of
the sample a value must exceed to exceed a quantile. -/

namespace WinBack.Library.Quantile

variable {Value : Type} [LinearOrder Value]

/-- The index of the value at `part / parts` of a sample, kept inside it. -/
def position (parts part size : Nat) : Nat :=
  max 0 (min (size - 1) ((size * part + (parts - 1)) / parts - 1))

/-- How many values of the sample lie strictly below. -/
def below (value : Value) (sample : List Value) : Nat := sample.countP (· < value)

theorem below_perm {value : Value} {first second : List Value} (same : first.Perm second) :
    below value first = below value second := same.countP_eq _

theorem below_lt_length {value : Value} {sample : List Value} (member : value ∈ sample) :
    below value sample < sample.length := by
  refine lt_of_le_of_ne List.countP_le_length fun all => ?_
  have smaller := List.countP_eq_length.mp all value member
  simp at smaller

/-- Of two values the one that exceeds all that the other exceeds has at least as many below it. -/
theorem below_le_below_iff {first second : Value} {sample : List Value} :
    below first sample ≤ below second sample ↔ ∀ value ∈ sample, value < first → value < second := by
  constructor
  · intro fewer value member smaller
    by_contra notBelow
    rw [not_lt] at notBelow
    -- all that `second` exceeds is below `value`, and `value` itself is counted only for `first`
    have strict : below second sample < below first sample := by
      have split := List.perm_cons_erase member
      rw [below, below, split.countP_eq, split.countP_eq, List.countP_cons, List.countP_cons,
        if_neg (by simpa using notBelow), if_pos (by simpa using smaller)]
      have rest : (sample.erase value).countP (· < second) ≤ (sample.erase value).countP (· < first) :=
        List.countP_mono_left fun other _ less => by
          simp only [decide_eq_true_eq] at less ⊢
          exact less.trans (lt_of_le_of_lt notBelow smaller)
      omega
    omega
  · intro exceeds
    refine List.countP_mono_left fun value member smaller => ?_
    simp only [decide_eq_true_eq] at smaller ⊢
    exact exceeds value member smaller

theorem position_lt {parts part size : Nat} (nonempty : 0 < size) : position parts part size < size := by
  unfold position
  omega

/-- In a sorted sample the values below come first. -/
theorem getElem_lt_iff {sample : List Value} (sorted : sample.Pairwise (· ≤ ·)) {index : Nat}
    (inside : index < sample.length) (value : Value) : sample[index] < value ↔ index < below value sample := by
  induction sample generalizing index with
  | nil => cases inside
  | cons head tail ih =>
    obtain ⟨least, rest⟩ := List.pairwise_cons.mp sorted
    have count : below value (head :: tail) = below value tail + if head < value then 1 else 0 := by
      simp [below, List.countP_cons]
    cases index with
    | zero =>
      rw [count, List.getElem_cons_zero]
      split
      · simp [*]
      · rename_i notBelow
        have none : below value tail = 0 := by
          simp only [below, List.countP_eq_zero, decide_eq_true_eq]
          intro other member smaller
          exact notBelow (lt_of_le_of_lt (least other member) smaller)
        simp [none, notBelow]
    | succ index =>
      have shorter : index < tail.length := by simpa using inside
      rw [count, List.getElem_cons_succ, ih rest shorter]
      split
      · omega
      · rename_i notBelow
        have none : below value tail = 0 := by
          simp only [below, List.countP_eq_zero, decide_eq_true_eq]
          intro other member smaller
          exact notBelow (lt_of_le_of_lt (least other member) smaller)
        omega

theorem position_eq {parts part size : Nat} (nonempty : 0 < size) (proper : part < parts) :
    position parts part size = (size * part + (parts - 1)) / parts - 1 := by
  have share : size * part ≤ size * parts := Nat.mul_le_mul_left _ proper.le
  have bound : (size * part + (parts - 1)) / parts < size + 1 := by
    rw [Nat.div_lt_iff_lt_mul (by omega), Nat.add_mul]
    omega
  unfold position
  omega

/-- The value at `part / parts` of a sorted sample. -/
def quantile (parts part : Nat) (sample : List Value) (nonempty : 0 < sample.length) : Value :=
  sample.get ⟨position parts part sample.length, position_lt nonempty⟩

/-- A value exceeds the quantile at `part / parts` exactly when that share of the
sample lies below it. -/
theorem quantile_lt_iff {parts part : Nat} {sample : List Value} (sorted : sample.Pairwise (· ≤ ·))
    (nonempty : 0 < sample.length) (proper : part < parts) (positive : 0 < part) (value : Value) :
    quantile parts part sample nonempty < value ↔ sample.length * part ≤ parts * below value sample := by
  have shares : 0 < sample.length * part := Nat.mul_pos nonempty positive
  have ceiling : 0 < (sample.length * part + (parts - 1)) / parts := Nat.div_pos (by omega) (by omega)
  have exceeds : (sample.length * part + (parts - 1)) / parts < below value sample + 1 ↔
      sample.length * part ≤ parts * below value sample := by
    rw [Nat.div_lt_iff_lt_mul (by omega), Nat.add_mul, Nat.mul_comm (below value sample)]
    omega
  have index := position_eq nonempty proper
  rw [quantile, List.get_eq_getElem, getElem_lt_iff sorted, ← exceeds]
  dsimp only
  omega

/-- In a sorted sample the first so many values have fewer than so many below them. -/
theorem le_countP_below {sample : List Value} (sorted : sample.Pairwise (· ≤ ·)) {bound : Nat} (inside : bound ≤ sample.length) :
    bound ≤ sample.countP fun value => decide (below value sample < bound) := by
  have front : ∀ value ∈ sample.take bound, decide (below value sample < bound) = true := by
    intro value member
    obtain ⟨index, early, rfl⟩ := List.mem_take_iff_getElem.mp member
    have notBelow : ¬index < below sample[index] sample := by
      rw [← getElem_lt_iff sorted]
      exact lt_irrefl _
    exact decide_eq_true (by omega)
  calc
    bound = (sample.take bound).length := by rw [List.length_take, min_eq_left inside]
    _ = (sample.take bound).countP _ := (List.countP_eq_length.mpr front).symm
    _ ≤ sample.countP _ := (List.take_sublist bound sample).countP_le

/-- And no others, where the values are distinct. -/
theorem countP_below {sample : List Value} (sorted : sample.Pairwise (· ≤ ·)) (distinct : sample.Nodup) {bound : Nat}
    (inside : bound ≤ sample.length) : (sample.countP fun value => decide (below value sample < bound)) = bound := by
  apply le_antisymm _ (le_countP_below sorted inside)
  have rear : ∀ value ∈ sample.drop bound, ¬decide (below value sample < bound) = true := by
    intro value member
    obtain ⟨index, late, rfl⟩ := List.mem_drop_iff_getElem.mp member
    rw [decide_eq_true_eq, not_lt]
    cases bound with
    | zero => exact Nat.zero_le _
    | succ last =>
      have strict := (sorted.and distinct).imp fun ⟨le, ne⟩ => lt_of_le_of_ne le ne
      rw [Nat.succ_le_iff, ← getElem_lt_iff sorted (by omega)]
      exact List.pairwise_iff_getElem.mp strict last (last + 1 + index) (by omega) (by omega) (by omega)
  calc
    sample.countP _ = (sample.take bound ++ sample.drop bound).countP _ := by rw [List.take_append_drop]
    _ = (sample.take bound).countP _ + 0 := by rw [List.countP_append, List.countP_eq_zero.mpr rear]
    _ ≤ (sample.take bound).length := List.countP_le_length
    _ ≤ bound := List.length_take_le bound sample

end WinBack.Library.Quantile
