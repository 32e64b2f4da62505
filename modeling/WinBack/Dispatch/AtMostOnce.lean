import WinBack.Dispatch.Ownership

/-! At-most-once send: when a thrown provider error means that the message was not
accepted, no interleaving of passes, sweeps, redeliveries and crashes makes the
provider accept a message twice. -/

namespace WinBack.Dispatch

open Library

def acceptedSends (world : World) (messageId : MessageId) : Nat :=
  world.backend.sends.countP fun record => record.messageId == messageId && record.accepted

/-- A provider call that throws was not accepted. -/
def thrownUnaccepted : Label → Bool
  | .act _ choice => !choice.accepted || choice.outcome.acknowledged
  | _ => true

/-- What every state of such a run satisfies. -/
structure SingleOwner (world : World) : Prop where
  disciplined : world.tasks.Every Disciplined
  exclusive : ∀ messageId, Exclusive SendRecord.accepted messageId world
  clean : ∀ messageId, Clean SendRecord.accepted [.refused] messageId world

variable {context : DrainerContext} {origin world next final : World} {label : Label}

theorem SingleOwner.start (idle : Idle origin) : SingleOwner origin := by
  refine ⟨?_, fun _ => .start idle, fun _ => .start idle⟩
  intro task member
  simp [idle.tasks] at member

/-- Under the assumption on throws a refused send leaves nothing accepted, so the
revert that follows it is safe. -/
theorem SingleOwner.step (single : SingleOwner world) (honest : thrownUnaccepted label = true)
    (moved : (machine context).step world label = some next) : SingleOwner next := by
  have event := event_of_step single.disciplined moved
  refine ⟨disciplined_step single.disciplined moved, fun messageId => ?_, fun messageId => ?_⟩
  · exact (single.exclusive messageId).step event
      (reverts_of_clean single.disciplined single.clean (by simp))
  · refine (single.clean messageId).step (by simp) (single.exclusive messageId) event ?_
    intro slot choice messageId same _ accepted
    subst same
    have taken : choice.accepted = true := accepted
    exact .inl (by simpa [thrownUnaccepted, taken] using honest)

/-- The provider accepts at most one send of each message. -/
theorem at_most_one_accepted (idle : Idle origin)
    (reach : Machine.Reach (machine context) (fun _ label => thrownUnaccepted label = true) origin final)
    (messageId : MessageId) : acceptedSends final messageId ≤ 1 := by
  have single : SingleOwner final := by
    apply reach.invariant (SingleOwner.start idle)
    intro middle label next honest moved single
    exact single.step honest moved
  have last := (single.exclusive messageId).last
  simp only [World.settled] at last
  unfold acceptedSends
  omega

/-- One sweep and two deliveries of its job: the first pass crashes after the
provider accepted, the redelivered one stops at the replay guard. -/
def crashedSchedule : List Label :=
  [.tick] ++ acts 0 5 smooth ++ [.settle 0, .deliver 0] ++ acts 1 12 smooth ++
    [.crash 1, .stall 0, .deliver 0] ++ acts 2 2 smooth ++ [.settle 2]

theorem crashed_run : ((machine utcContext).runWhere (fun _ label => thrownUnaccepted label)
    oneDraftWorld crashedSchedule).isSome := by decide

def crashedWorld : World := ((machine utcContext).runWhere (fun _ label => thrownUnaccepted label)
  oneDraftWorld crashedSchedule).get crashed_run

theorem at_most_one_accepted_after_crash :
    acceptedSends crashedWorld "d" ≤ 1 ∧ acceptedSends crashedWorld "d" = 1 :=
  ⟨at_most_one_accepted ⟨rfl, rfl⟩ (Machine.reach_get crashed_run) "d", by decide⟩

end WinBack.Dispatch
