/-! Labelled transition systems with a deterministic step: the label carries every
choice the environment makes. Runs may be restricted to steps that meet a
condition on the state before the step. -/

namespace WinBack.Library

/-- `none` means that the label is not enabled in the state. -/
structure Machine (State Label : Type) where
  step : State → Label → Option State

namespace Machine

variable {State Label : Type} {machine : Machine State Label}

/-- The states of runs from `origin` whose every step meets `allowed`. -/
inductive Reach (machine : Machine State Label) (allowed : State → Label → Prop) (origin : State) :
    State → Prop where
  | origin : Reach machine allowed origin origin
  | step {middle final : State} {label : Label} (earlier : Reach machine allowed origin middle)
      (permitted : allowed middle label) (moved : machine.step middle label = some final) :
      Reach machine allowed origin final

variable {allowed weaker : State → Label → Prop} {origin middle final : State}

/-- What holds at the origin and is kept by every permitted step holds throughout. -/
theorem Reach.invariant {Holds : State → Prop} (reach : Reach machine allowed origin final)
    (start : Holds origin)
    (keeps : ∀ middle label final, allowed middle label → machine.step middle label = some final →
      Holds middle → Holds final) :
    Holds final := by
  induction reach with
  | origin => exact start
  | step earlier permitted moved ih => exact keeps _ _ _ permitted moved ih

/-- `Reach.step` with the label written out. -/
theorem Reach.extend (earlier : Reach machine allowed origin middle) (label : Label)
    (permitted : allowed middle label) (moved : machine.step middle label = some final) :
    Reach machine allowed origin final := .step earlier permitted moved

theorem Reach.trans (first : Reach machine allowed origin middle)
    (second : Reach machine allowed middle final) : Reach machine allowed origin final := by
  induction second with
  | origin => exact first
  | step earlier permitted moved ih => exact .step ih permitted moved

theorem Reach.mono (reach : Reach machine allowed origin final)
    (relax : ∀ state label, allowed state label → weaker state label) :
    Reach machine weaker origin final := by
  induction reach with
  | origin => exact .origin
  | step earlier permitted moved ih => exact .step ih (relax _ _ permitted) moved

/-- A run whose steps meet one condition meets every condition that follows from
it in the states of the run. -/
theorem Reach.weaken {Holds : State → Prop} (reach : Reach machine allowed origin final)
    (start : Holds origin)
    (keeps : ∀ middle label final, allowed middle label → machine.step middle label = some final →
      Holds middle → Holds final)
    (relax : ∀ middle label final, Holds middle → machine.step middle label = some final →
      allowed middle label → weaker middle label) :
    Reach machine weaker origin final := by
  induction reach with
  | origin => exact .origin
  | step earlier permitted moved ih =>
    exact .step ih (relax _ _ _ (earlier.invariant start keeps) moved permitted) moved

/-- A run with the states that it has passed, the last one first. -/
inductive Passed (machine : Machine State Label) (allowed : State → Label → Prop) (origin : State) :
    List State → State → Prop where
  | origin : Passed machine allowed origin [] origin
  | step {past : List State} {middle final : State} {label : Label}
      (earlier : Passed machine allowed origin past middle) (permitted : allowed middle label)
      (moved : machine.step middle label = some final) : Passed machine allowed origin (middle :: past) final

/-- Every run has passed some states. -/
theorem Reach.passed (reach : Reach machine allowed origin final) : ∃ past, Passed machine allowed origin past final := by
  induction reach with
  | origin => exact ⟨[], .origin⟩
  | step earlier permitted moved ih =>
    obtain ⟨past, passed⟩ := ih
    exact ⟨_, passed.step permitted moved⟩

/-- Execute a schedule, refusing a step that does not meet the condition. -/
def runWhere (machine : Machine State Label) (allowed : State → Label → Bool) :
    State → List Label → Option State
  | state, [] => some state
  | state, label :: rest =>
    if allowed state label then
      match machine.step state label with
      | some next => runWhere machine allowed next rest
      | none => none
    else none

theorem runWhere_reach {check : State → Label → Bool} {labels : List Label}
    (ran : machine.runWhere check origin labels = some final) :
    Reach machine (fun state label => check state label = true) origin final := by
  have general : ∀ labels state, Reach machine (fun state label => check state label = true) origin state →
      machine.runWhere check state labels = some final →
      Reach machine (fun state label => check state label = true) origin final := by
    intro labels
    induction labels with
    | nil =>
      intro state reached ran
      cases Option.some.inj ran
      exact reached
    | cons label rest ih =>
      intro state reached ran
      simp only [runWhere] at ran
      split at ran
      · rename_i permitted
        split at ran
        · rename_i next moved
          exact ih next (.step reached permitted moved) ran
        · cases ran
      · cases ran
  exact general labels origin .origin ran

/-- The end of an executed schedule is reached. -/
theorem reach_get {check : State → Label → Bool} {labels : List Label}
    (ran : (machine.runWhere check origin labels).isSome) :
    Reach machine (fun state label => check state label = true) origin
      ((machine.runWhere check origin labels).get ran) :=
  runWhere_reach (Option.some_get ran).symm

end Machine

end WinBack.Library
