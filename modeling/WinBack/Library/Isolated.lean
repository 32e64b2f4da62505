import Mathlib.Data.List.Nodup
import Mathlib.Data.List.Perm.Basic

/-! Passes over a shared state, one for each key, where a pass reads and changes nothing but the view of its own key:
what a pass answers and leaves in its view does not depend on the other passes, nor on their order. -/

namespace WinBack.Library

variable {State Key Answer : Type} {View : Key → Type}

/-- One pass after the other, with what each has answered. -/
def passAll (pass : Key → State → Answer × State) : List Key → State → List Answer × State
  | [], state => ([], state)
  | key :: rest, state =>
    let (answer, next) := pass key state
    let (answers, last) := passAll pass rest next
    (answer :: answers, last)

structure Isolated (good : State → Prop) (view : (key : Key) → State → View key) (pass : Key → State → Answer × State) :
    Prop where
  keeps : ∀ key state, good state → good (pass key state).2
  apart : ∀ key other state, good state → other ≠ key → view other (pass key state).2 = view other state
  own : ∀ key first second, good first → good second → view key first = view key second →
    (pass key first).1 = (pass key second).1 ∧ view key (pass key first).2 = view key (pass key second).2

namespace Isolated

variable {good : State → Prop} {view : (key : Key) → State → View key} {pass : Key → State → Answer × State}
  {keys : List Key} {state : State}

theorem view_of_not_mem (isolated : Isolated good view pass) (start : good state) {key : Key} (absent : key ∉ keys) :
    view key (passAll pass keys state).2 = view key state := by
  induction keys generalizing state with
  | nil => rfl
  | cons first rest ih =>
    obtain ⟨here, later⟩ := not_or.mp (List.mem_cons.not.mp absent)
    exact (ih (isolated.keeps first state start) later).trans (isolated.apart first key state start here)

/-- The view of a key after all passes is what its own pass alone leaves. -/
theorem view_of_mem (isolated : Isolated good view pass) (distinct : keys.Nodup) (start : good state) {key : Key}
    (listed : key ∈ keys) : view key (passAll pass keys state).2 = view key (pass key state).2 := by
  induction keys generalizing state with
  | nil => cases listed
  | cons first rest ih =>
    obtain ⟨absent, distinct⟩ := List.nodup_cons.mp distinct
    have next := isolated.keeps first state start
    rcases List.mem_cons.mp listed with rfl | later
    · exact isolated.view_of_not_mem next absent
    · have apart : key ≠ first := fun same => absent (same ▸ later)
      exact (ih distinct next later).trans (isolated.own key _ _ next start (isolated.apart first key state start apart)).2

/-- A pass answers as it would alone. -/
theorem answers_passAll (isolated : Isolated good view pass) (distinct : keys.Nodup) (start : good state) :
    (passAll pass keys state).1 = keys.map fun key => (pass key state).1 := by
  induction keys generalizing state with
  | nil => rfl
  | cons first rest ih =>
    obtain ⟨absent, distinct⟩ := List.nodup_cons.mp distinct
    have next := isolated.keeps first state start
    refine congrArg (List.cons _) ((ih distinct next).trans (List.map_congr_left fun key later => ?_))
    have apart : key ≠ first := fun same => absent (same ▸ later)
    exact (isolated.own key _ _ next start (isolated.apart first key state start apart)).1

end Isolated

end WinBack.Library
