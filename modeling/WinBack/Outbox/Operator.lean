import WinBack.Outbox.Phases
import WinBack.Outbox.Tick

/-! The operator's commands on the outbox, between the calls of any number of ticks. -/

namespace WinBack.Outbox

open Library Script

section Commands

structure EventSummary where
  id : String
  merchantId : MerchantId
  type : String
  shop : String
  deriving DecidableEq, Repr

/-- `tx.outboxEvent.findUnique` with the shop of the merchant. -/
def findSummary (eventId : String) (db : Db) : Option EventSummary :=
  (db.outboxEvents.find? (·.id == eventId)).bind fun event =>
    (db.merchants.find? (·.id == event.merchantId)).map fun merchant =>
      ⟨event.id, event.merchantId, event.type, merchant.shop⟩

inductive DeadLetterResult where
  | notFound
  | alreadyDeadLettered (event : EventSummary)
  | deadLettered (event : EventSummary)
  deriving DecidableEq, Repr

inductive ReplayResult where
  | notFound
  | notInDlq (event : EventSummary)
  | replayed (event : EventSummary)
  deriving DecidableEq, Repr

def operatorAudit (event : EventSummary) (actorId action reason : String) : AuditLog where
  merchantId := some event.merchantId
  shop := some event.shop
  actorType := .operator
  actorId := some actorId
  action
  targetType := some "outbox_event"
  targetId := some event.id
  context := .obj [("reason", .str reason), ("eventType", .str event.type)]

/-- The row is not looked at again: only a dead-lettered one is refused. -/
def forceDeadLetter (eventId reason actorId : String) (now : Date) (db : Db) : DeadLetterResult × Db :=
  match findSummary eventId db with
  | none => (.notFound, db)
  | some event =>
    let (wasAlreadyDeadLettered, marked) :=
      OutboxRepository.markDeadLettered eventId ("operator-forced: " ++ reason) now db
    if wasAlreadyDeadLettered then (.alreadyDeadLettered event, marked)
    else (.deadLettered event, { marked with
      auditLogs := marked.auditLogs ++ [operatorAudit event actorId "outbox.dead_letter_forced" reason] })

def replayEvent (eventId reason actorId : String) (db : Db) : ReplayResult × Db :=
  match findSummary eventId db with
  | none => (.notFound, db)
  | some event =>
    let (wasDeadLettered, requeued) := OutboxRepository.requeueDeadLettered eventId db
    if wasDeadLettered then
      (.replayed event, { requeued with
        auditLogs := requeued.auditLogs ++ [operatorAudit event actorId "outbox.replay" reason] })
    else (.notInDlq event, requeued)

end Commands

section Machine

/-- The ids that the tick has claimed and not marked yet, in order. -/
def settling : Discipline Call Call.Value Thrown (List String) where
  allowed unmarked
    | .mark id _ => unmarked.head? = some id
    | .claimBatch _ => unmarked = []
    | _ => True
  next unmarked request answer :=
    match request, answer with
    | .claimBatch _, .ok rows => rows.map (·.id)
    | .mark _ .processed, .error _ => unmarked
    | .mark _ _, _ => unmarked.tail
    | .commit, _ | .rollback, _ => []
    | _, _ => unmarked

/-- One step of a tick, of an operator, or of the other components. -/
inductive Operation where
  | start (batchSize : Nat)
  | act (slot : Nat) (choice : Choice)
  | expire (slot : Nat)
  | crash (slot : Nat)
  | forceDeadLetter (eventId reason actorId : String) (now : Date)
  | replayEvent (eventId reason actorId : String)
  | elsewhere (after : Db)

abbrev Floor := World (List String)

namespace Floor

/-- The other components publish and delete events. -/
def publishes (floor : Floor) (after : Db) : Bool :=
  after.outboxEvents.rows.all fun row => OutboxRepository.claimable row ||
    floor.db.outboxEvents.any fun old => old.id == row.id && old.processedAt == row.processedAt &&
      old.deadLetteredAt == row.deadLetteredAt

def elsewhere (floor : Floor) (after : Db) : Option Floor :=
  if floor.publishes after then some { floor with db := after } else none

end Floor

def operated (context : DrainerContext) : Machine Floor Operation where
  step floor
    | .start batchSize => some (floor.start [] context batchSize)
    | .act slot choice => floor.act settling slot choice
    | .expire slot => floor.expire slot
    | .crash slot => floor.crash slot
    | .forceDeadLetter eventId reason actorId now =>
      floor.operate eventId (forceDeadLetter eventId reason actorId now floor.db).2
    | .replayEvent eventId reason actorId => floor.operate eventId (replayEvent eventId reason actorId floor.db).2
    | .elsewhere after => floor.elsewhere after

end Machine

section Obeys

variable {context : DrainerContext} {unmarked : List String}

/-- Whatever is returned has settled the ids; a throw leaves the rest to the rollback. -/
def Leaves {Result : Type} (unmarked : List String) (reached : List String) (outcome : Except Thrown Result) : Prop :=
  ∀ result, outcome = .ok result → reached = unmarked

theorem Handles.settling {script : Program Unit} (handles : Handles script) :
    script.Obeys settling unmarked fun reached _ => reached = unmarked := by
  induction script with
  | done outcome => rfl
  | call request resume ih =>
    obtain ⟨handler, rest⟩ := handles
    have moves (answer : Except Thrown request.Value) : Outbox.settling.next unmarked request answer = unmarked := by
      cases request <;> first | rfl | cases handler
    have permitted : Outbox.settling.allowed unmarked request := by
      cases request <;> trivial
    refine ⟨permitted, fun answer => ?_⟩
    rw [moves]
    exact ih answer (rest answer)

theorem drainRow_settling (row : OutboxEvent) (rest : List String) :
    (drainRow context row).Obeys settling (row.id :: rest) (Leaves rest) := by
  have records (thrown : Thrown) :
      (mark row.id (failureMark context row thrown)).Obeys settling (row.id :: rest) (Leaves rest) := by
    refine ⟨rfl, fun answer result done => ?_⟩
    cases named : failureMark context row thrown with
    | processed => exact absurd named (failureMark_ne thrown)
    | failed error => cases answer <;> rfl
    | deadLettered error => cases answer <;> rfl
  refine (obeys_tryCatch ..).mpr ((obeys_bind ..).mpr ?_)
  refine (dispatchEvent_handles context row).settling.mono fun reached outcome same => ?_
  subst same
  cases outcome with
  | error thrown => exact records thrown
  | ok value =>
    refine ⟨rfl, fun answer => ?_⟩
    cases answer with
    | error thrown => exact records thrown
    | ok value => exact fun _ _ => rfl

theorem drainRows_settling (rows : List OutboxEvent) :
    (drainRows context rows).Obeys settling (rows.map (·.id)) (Leaves []) := by
  induction rows with
  | nil => exact fun _ _ => rfl
  | cons row rest ih =>
    refine obeys_ite.mpr ⟨fun _ => ?_, fun _ => ?_⟩
    · refine obeys_perform_bind.mpr ⟨rfl, fun thrown => nofun, fun value => ?_⟩
      refine (obeys_bind ..).mpr (ih.mono fun reached outcome left => ?_)
      cases outcome with
      | error thrown => exact nofun
      | ok deferredRows => exact fun _ _ => left deferredRows rfl
    · refine (obeys_bind ..).mpr ((drainRow_settling row _).mono fun reached outcome left => ?_)
      cases outcome with
      | error thrown => exact nofun
      | ok value =>
        obtain rfl := left value rfl
        exact ih

theorem runDeferred_settling (rows : List OutboxEvent) :
    (runDeferred context rows).Obeys settling unmarked fun _ _ => True := by
  induction rows with
  | nil => trivial
  | cons row rest ih =>
    refine (obeys_bind ..).mpr ((obeys_tryCatch ..).mpr ?_)
    refine (dispatchEvent_handles context row).settling.mono fun reached outcome same => ?_
    subst same
    cases outcome with
    | ok value => exact ih
    | error thrown =>
      refine (obeys_tryCatch ..).mpr ⟨trivial, fun answer => ?_⟩
      cases answer with
      | error refusal => exact ih
      | ok value => exact ih

theorem runDrainTick_settling (context : DrainerContext) (batchSize : Nat) :
    (runDrainTick context batchSize).Obeys settling [] fun _ _ => True := by
  refine (obeys_bind ..).mpr ((obeys_bind ..).mpr ((obeys_tryCatch ..).mpr ?_))
  have leaves (unmarked : List String) (thrown : Thrown) :
      (do perform .rollback; throw thrown : Program (Nat × List OutboxEvent)).Obeys settling unmarked
        fun _ outcome => ∃ thrown, outcome = .error thrown :=
    ⟨trivial, fun answer => by cases answer <;> exact ⟨_, rfl⟩⟩
  refine obeys_perform_bind.mpr ⟨rfl, fun thrown => ?_, fun rows => ?_⟩
  · refine (leaves _ thrown).mono fun _ outcome ended => ?_
    obtain ⟨thrown, rfl⟩ := ended
    trivial
  · refine (obeys_bind ..).mpr ((drainRows_settling rows).mono fun reached outcome _ => ?_)
    cases outcome with
    | error thrown =>
      refine (leaves reached thrown).mono fun _ outcome ended => ?_
      obtain ⟨thrown, rfl⟩ := ended
      trivial
    | ok deferredRows =>
      refine obeys_perform_bind.mpr ⟨trivial, fun _ => trivial, fun _ => ?_⟩
      refine (obeys_bind ..).mpr ((runDeferred_settling deferredRows).mono fun _ outcome _ => ?_)
      cases outcome <;> trivial

end Obeys

end WinBack.Outbox
