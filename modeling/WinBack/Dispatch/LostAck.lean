import WinBack.Dispatch.Ownership

/-! Lost acknowledgements. The retryable flag reads a lost acknowledgement as a
clean failure, so the worker reverts the target and the queue's retry sends the
message again. Runs whose reverts never follow a lost acknowledgement do keep the
target closed. -/

namespace WinBack.Dispatch

open Library CampaignRepository

def lostAcks (world : World) (messageId : MessageId) : Nat :=
  world.settled SendRecord.lostAcknowledgement messageId

/-- No provider call follows a lost acknowledgement of the same message, and the
target of such a message is in no state from which a later pass calls again. -/
structure LostAcksFinal (world : World) : Prop where
  unrepeated : world.backend.sends.Pairwise fun earlier later =>
    earlier.lostAcknowledgement = true → later.messageId ≠ earlier.messageId
  closed : ∀ messageId, 0 < lostAcks world messageId →
    ¬Open (targetStatus world.backend.db messageId) ∧ world.tally messageId [.owner] = 0

/-- The run's reverts leave lost acknowledgements alone. -/
def revertsAcknowledged (world : World) (label : Label) : Bool :=
  revertsUnsealed SendRecord.lostAcknowledgement world label

structure LostAckSafe (world : World) : Prop where
  disciplined : world.tasks.Every Disciplined
  exclusive : ∀ messageId, Exclusive SendRecord.lostAcknowledgement messageId world
  unrepeated : world.backend.sends.Pairwise fun earlier later =>
    earlier.lostAcknowledgement = true → later.messageId ≠ earlier.messageId

variable {context : DrainerContext} {origin world next final : World} {label : Label}

theorem LostAckSafe.start (idle : Idle origin) : LostAckSafe origin := by
  refine ⟨?_, fun _ => .start idle, by simp [idle.sends]⟩
  intro task member
  simp [idle.tasks] at member

/-- Only an owner sends, and an owner finds no lost acknowledgement of its message. -/
theorem unrepeated_step (safe : LostAckSafe world) (event : Event world next label) :
    next.backend.sends.Pairwise fun earlier later =>
      earlier.lostAcknowledgement = true → later.messageId ≠ earlier.messageId := by
  have kept (sends : next.backend.sends = world.backend.sends) :
      next.backend.sends.Pairwise fun earlier later =>
        earlier.lostAcknowledgement = true → later.messageId ≠ earlier.messageId := by
    rw [sends]
    exact safe.unrepeated
  cases event with
  | spawned tasks fresh db sends | cleared live tasks db sends | around tasks sends targets messages =>
    exact kept sends
  | swept live phase afterPhase tag effect tasks => exact kept effect.sends
  | passed live phase pending allowed afterPhase tag effect tasks =>
    cases effect with
    | idle unmoved idling => exact kept unmoved.sends
    | move effect =>
      cases effect with
      | claim silent onto absent statuses merchants messages => exact kept silent.sends
      | suppress call onto moved | postpone onto moved | start onto moved | complete moved | revert moved
      | reject status onto moved => exact kept moved.sends
      | send record possible decided db jobs sends onto =>
        rename_i slot choice task after payload reached request
        have owner : 0 < world.tally payload.messageId [.owner] :=
          Pool.tally_pos live ((holds_pass phase _).mpr ⟨rfl, by simp⟩)
        have last := (safe.exclusive payload.messageId).last
        have none : lostAcks world payload.messageId = 0 := by
          unfold lostAcks
          omega
        rw [sends, List.pairwise_append]
        refine ⟨safe.unrepeated, by simp, ?_⟩
        intro earlier member later appended lost same
        cases List.mem_singleton.mp appended
        rw [lostAcks, World.settled, List.countP_eq_zero] at none
        rw [decided] at same
        exact none earlier member (by simp [lost, ← same])

theorem LostAckSafe.step (safe : LostAckSafe world) (reverts : revertsAcknowledged world label = true)
    (moved : (machine context).step world label = some next) : LostAckSafe next := by
  have event := event_of_step safe.disciplined moved
  exact ⟨disciplined_step safe.disciplined moved,
    fun messageId => (safe.exclusive messageId).step event reverts, unrepeated_step safe event⟩

theorem LostAckSafe.acksFinal (safe : LostAckSafe world) : LostAcksFinal world := by
  refine ⟨safe.unrepeated, fun messageId lost => ?_⟩
  have exclusive := safe.exclusive messageId
  have last := exclusive.last
  unfold lostAcks at lost
  refine ⟨fun opened => ?_, by omega⟩
  have free := (exclusive.free opened).2
  omega

/-- In every run whose reverts follow no lost acknowledgement, a lost
acknowledgement is final. -/
theorem lost_acks_final (idle : Idle origin)
    (reach : Machine.Reach (machine context)
      (fun world label => revertsAcknowledged world label = true) origin final) :
    LostAcksFinal final := by
  refine LostAckSafe.acksFinal ?_
  apply reach.invariant (LostAckSafe.start idle)
  intro middle label next reverts moved safe
  exact safe.step reverts moved

/-- SES accepts the message and answers 503. -/
def serverError : Choice where
  now := 10 * msPerHour
  outcome := .ses (.thrown { errorClass := .other, httpStatusCode := some 503 })
  accepted := true

/-- The first pass gets the 503 and dies before its revert; the redelivered pass
stops at the replay guard. -/
def lostThenCrashed : List Label :=
  [.tick] ++ acts 0 5 smooth ++ [.settle 0, .deliver 0] ++ acts 1 12 serverError ++
    [.crash 1, .stall 0, .deliver 0] ++ acts 2 2 smooth ++ [.settle 2]

theorem lostThenCrashed_run :
    ((machine utcContext).runWhere revertsAcknowledged oneDraftWorld lostThenCrashed).isSome := by
  decide

def lostThenCrashedWorld : World :=
  ((machine utcContext).runWhere revertsAcknowledged oneDraftWorld lostThenCrashed).get
    lostThenCrashed_run

theorem lost_acks_final_after_crash :
    LostAcksFinal lostThenCrashedWorld ∧ lostAcks lostThenCrashedWorld "d" = 1 :=
  ⟨lost_acks_final ⟨rfl, rfl⟩ (Machine.reach_get lostThenCrashed_run), by decide⟩

/-- The pass survives the 503, reverts the target and throws; the queue's retry
sends the accepted message a second time. -/
def lostThenRetried : List Label :=
  [.tick] ++ acts 0 5 smooth ++ [.settle 0, .deliver 0] ++ acts 1 13 serverError ++
    [.settle 1, .deliver 0] ++ acts 2 13 smooth ++ [.settle 2]

theorem lostThenRetried_run :
    ((machine utcContext).runWhere (fun _ _ => true) oneDraftWorld lostThenRetried).isSome := by
  decide

def lostThenRetriedWorld : World :=
  ((machine utcContext).runWhere (fun _ _ => true) oneDraftWorld lostThenRetried).get
    lostThenRetried_run

theorem lost_ack_resent :
    ¬∀ context origin final, Idle origin →
      Machine.Reach (machine context) (fun _ _ => True) origin final → LostAcksFinal final := by
  intro final
  have reach := (Machine.reach_get lostThenRetried_run).mono fun _ _ _ => trivial
  have unrepeated := (final utcContext oneDraftWorld lostThenRetriedWorld ⟨rfl, rfl⟩ reach).unrepeated
  revert unrepeated
  decide

end WinBack.Dispatch
