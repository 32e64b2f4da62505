import Mathlib.Data.List.Basic
import Mathlib.Tactic.Common

/-! Services that answer every request. What is counted over a run is compared request by request. -/

namespace WinBack.Library

/-- A request is answered in every state, and leaves the next one. -/
structure Service (State Request Answer : Type) where
  perform : State → Request → Answer × State

namespace Service

variable {State Request Answer : Type} (service : Service State Request Answer)

section Runs

def run : State → List Request → State
  | state, [] => state
  | state, request :: rest => run (service.perform state request).2 rest

/-- Every request of the run meets the condition in the state that it comes to. -/
def Throughout (holds : State → Request → Prop) (state : State) (requests : List Request) : Prop :=
  ∀ front request back, requests = front ++ request :: back → holds (service.run state front) request

/-- A quantity summed up over the requests of a run. -/
def total (amount : State → Request → Nat) : State → List Request → Nat
  | _, [] => 0
  | state, request :: rest => amount state request + total amount (service.perform state request).2 rest

end Runs

variable {service} {state : State} {request : Request} {requests : List Request} {holds weaker : State → Request → Prop}

theorem throughout_nil : service.Throughout holds state [] := by
  intro front request back split
  cases front <;> cases split

theorem throughout_cons : service.Throughout holds state (request :: requests) ↔
    holds state request ∧ service.Throughout holds (service.perform state request).2 requests := by
  constructor
  · intro throughout
    refine ⟨throughout [] request requests rfl, fun front later back split => ?_⟩
    exact throughout (request :: front) later back (congrArg (request :: ·) split)
  · rintro ⟨here, rest⟩ front later back split
    cases front with
    | nil =>
      obtain ⟨rfl, _⟩ := List.cons.inj split
      exact here
    | cons first front =>
      obtain ⟨rfl, remaining⟩ := List.cons.inj split
      exact rest front later back remaining

theorem throughout_congr (same : ∀ state request, holds state request ↔ weaker state request) :
    service.Throughout holds state requests ↔ service.Throughout weaker state requests := by
  constructor <;> intro throughout front request back split
  · exact (same _ request).mp (throughout front request back split)
  · exact (same _ request).mpr (throughout front request back split)

/-- What every request adds, the run adds. -/
theorem measure_run {measure : State → Nat} {gain : State → Request → Nat}
    (gains : ∀ state request, measure (service.perform state request).2 = measure state + gain state request) :
    measure (service.run state requests) = measure state + service.total gain state requests := by
  induction requests generalizing state with
  | nil => rfl
  | cons request requests ih =>
    calc measure (service.run (service.perform state request).2 requests)
      _ = measure (service.perform state request).2 + service.total gain (service.perform state request).2 requests := ih
      _ = measure state + (gain state request + service.total gain (service.perform state request).2 requests) := by
        rw [gains, Nat.add_assoc]

theorem total_le {small large : State → Request → Nat} (below : ∀ state request, small state request ≤ large state request) :
    service.total small state requests ≤ service.total large state requests := by
  induction requests generalizing state with
  | nil => exact Nat.le_refl 0
  | cons request requests ih => exact Nat.add_le_add (below state request) ih

/-- Two quantities, one never above the other, have the same total exactly when they agree at every request. -/
theorem total_eq_iff {small large : State → Request → Nat} (below : ∀ state request, small state request ≤ large state request) :
    service.total small state requests = service.total large state requests ↔
      service.Throughout (fun state request => small state request = large state request) state requests := by
  induction requests generalizing state with
  | nil => exact iff_of_true rfl throughout_nil
  | cons request requests ih =>
    rw [throughout_cons, ← ih]
    have here := below state request
    have rest : service.total small (service.perform state request).2 requests ≤
        service.total large (service.perform state request).2 requests := total_le below
    simp only [total]
    omega

end Service

end WinBack.Library
