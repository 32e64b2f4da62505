import Mathlib.Data.List.Forall2

/-! Computations that may fail: what a success of a composed computation says about
its parts. -/

namespace WinBack.Library

universe u v

variable {Error : Type u} {Before After : Type v}

theorem map_eq_ok_iff {change : Before → After} {result : Except Error Before} {after : After} :
    result.map change = .ok after ↔ ∃ before, result = .ok before ∧ change before = after := by
  cases result <;> simp [Except.map]

theorem toOption_eq_some_iff {result : Except Error Before} {value : Before} :
    result.toOption = some value ↔ result = .ok value := by
  cases result <;> simp [Except.toOption]

theorem bind_eq_ok_iff {first : Except Error Before} {rest : Before → Except Error After} {after : After} :
    first >>= rest = .ok after ↔ ∃ before, first = .ok before ∧ rest before = .ok after := by
  cases first <;> simp [bind, Except.bind]

end WinBack.Library
