import Mathlib.Data.List.Chain
import Mathlib.Tactic.Common

/-! What a variable goes through: the moves from one value to another, in order. A trail
ends where the variable stands. -/

namespace WinBack.Library

structure Move (Value : Type) where
  oldState : Value
  newState : Value
  deriving DecidableEq, Repr

variable {Value : Type} {start middle finish : Value} {moves : List (Move Value)} {move : Move Value}

/-- The moves lead from `start` to `finish`, each from where the one before ended. -/
inductive Trail (start : Value) : List (Move Value) → Value → Prop where
  | nil : Trail start [] start
  | snoc {moves : List (Move Value)} {middle finish : Value} (earlier : Trail start moves middle)
      (moved : middle ≠ finish) : Trail start (moves ++ [⟨middle, finish⟩]) finish

namespace Trail

/-- The moves alone determine where a trail ends. -/
theorem finish_eq (trail : Trail start moves finish) :
    finish = (moves.getLast?.map Move.newState).getD start := by
  cases trail with
  | nil => rfl
  | snoc => simp

/-- Each move of a trail starts where the one before ended. -/
theorem isChain (trail : Trail start moves finish) :
    moves.IsChain fun move next => next.oldState = move.newState := by
  induction trail with
  | nil => exact .nil
  | snoc earlier _ ih =>
    refine List.isChain_append.mpr ⟨ih, .singleton _, ?_⟩
    intro last ends next starts
    have here := earlier.finish_eq
    rw [ends] at here
    obtain rfl : _ = next := by simpa using starts
    simpa using here

/-- A trail goes on only from where it ends. -/
theorem snoc_iff (trail : Trail start moves middle) :
    Trail start (moves ++ [move]) finish ↔ move.oldState = middle ∧ move.newState = finish ∧ middle ≠ finish := by
  constructor
  · intro longer
    generalize whole : moves ++ [move] = all at longer
    cases longer with
    | nil => simp at whole
    | snoc earlier moved =>
      obtain ⟨rfl, rfl⟩ := List.append_inj' whole rfl |>.imp_right fun same => List.singleton_inj.mp same
      rw [earlier.finish_eq, ← trail.finish_eq] at moved ⊢
      exact ⟨rfl, rfl, moved⟩
  · rintro ⟨rfl, rfl, moved⟩
    exact .snoc trail moved

end Trail

/-- The move between two readings of a variable, if it moved at all. -/
def movement [DecidableEq Value] (before after : Value) : List (Move Value) :=
  if before = after then [] else [⟨before, after⟩]

@[simp] theorem movement_self [DecidableEq Value] (value : Value) : movement value value = [] := if_pos rfl

theorem movement_of_ne [DecidableEq Value] {before after : Value} (moved : before ≠ after) :
    movement before after = [⟨before, after⟩] := if_neg moved

theorem Trail.extend [DecidableEq Value] (trail : Trail start moves middle) (finish : Value) :
    Trail start (moves ++ movement middle finish) finish := by
  by_cases same : middle = finish
  · subst same
    simpa using trail
  · rw [movement_of_ne same]
    exact .snoc trail same

end WinBack.Library
