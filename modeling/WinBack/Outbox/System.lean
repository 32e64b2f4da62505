import WinBack.Library.Machine
import WinBack.Library.Pool
import WinBack.Outbox.Drainer

/-! The drainer among its replicas: any number of ticks make one call at a time in any
order, their transactions time out, processes die between calls, operators dead-letter
and replay rows, and the other components write the store. -/

namespace WinBack.Outbox

open Library
open Generation (AiGenerateJobPayload)

/-- A mark that its transaction has not committed. -/
structure Marked where
  id : String
  mark : Mark
  now : Date
  deriving DecidableEq, Repr

/-- An open drain transaction: the rows it has locked, and its marks in order. -/
structure Transaction where
  claimed : List String
  marks : List Marked := []
  deriving DecidableEq, Repr

/-- A locked row cannot go away, so no mark misses its row at the commit. -/
def Marked.apply (db : Db) (marked : Marked) : Db := (marked.mark.write marked.id marked.now db).toOption.getD db

def Transaction.apply (transaction : Transaction) (db : Db) : Db := transaction.marks.foldl Marked.apply db

/-- The two rows that a delivery of an event created. -/
structure Creation where
  eventId : String
  generationId : String
  messageId : MessageId
  deriving DecidableEq, Repr

/-- What one tick sees: the store, the queue, its transaction and the rows that others have
locked. `created` is a history that no call reads. -/
structure View where
  db : Db
  jobs : List AiGenerateJobPayload
  transaction : Option Transaction
  locked : List String
  created : List Creation

/-- What the environment decides about one call. -/
structure Choice where
  now : Date := 0
  count : Int := 1                      -- the hourly counter after the increment
  titles : List String := []
  generationId : String := ""
  messageId : MessageId := ""
  fails : Bool := false                 -- it is not carried out
  lost : Bool := false                  -- it is, and its answer does not come back
  closes : Bool := false                -- the failure ends the transaction
  outcome : Except Thrown Unit := .ok ()

def connectionLost : Thrown := .other "Connection lost"

def transactionClosed : Thrown := .other "Transaction already closed"

def refused : RepositoryError → Thrown
  | .recordNotFound => .other "Record not found"
  | .uniqueConstraint => .other "Unique constraint failed"
  | _ => .other "Foreign key constraint failed"

def Choice.carryOut {Result : Type} (choice : Choice) (view next : View) (result : Result) :
    Except Thrown Result × View :=
  if choice.fails then (.error connectionLost, view)
  else (if choice.lost then .error connectionLost else .ok result, next)

theorem Choice.carryOut_cases {Result : Type} {choice : Choice} {view next reached : View} {result : Result}
    {answer : Except Thrown Result} (ran : choice.carryOut view next result = (answer, reached)) :
    choice.fails = true ∧ answer = .error connectionLost ∧ reached = view ∨
      choice.fails = false ∧ choice.lost = true ∧ answer = .error connectionLost ∧ reached = next ∨
      choice.fails = false ∧ choice.lost = false ∧ answer = .ok result ∧ reached = next := by
  unfold carryOut at ran
  split at ran
  · rename_i fails
    cases ran
    exact .inl ⟨fails, rfl, rfl⟩
  · rename_i carried
    have carried : choice.fails = false := by simpa using carried
    split at ran
    · rename_i lost
      cases ran
      exact .inr (.inl ⟨carried, lost, rfl, rfl⟩)
    · rename_i back
      cases ran
      exact .inr (.inr ⟨carried, by simpa using back, rfl, rfl⟩)

/-- A job id that is in the queue already adds nothing. -/
def enqueue (payload : AiGenerateJobPayload) (jobs : List AiGenerateJobPayload) : List AiGenerateJobPayload :=
  if jobs.any (·.aiGenerationId == payload.aiGenerationId) then jobs else jobs ++ [payload]

/-- What the handlers of other events and the GDPR processors write is a step of the other
components. -/
def exec (view : View) (request : Call) (choice : Choice) : Option (Except Thrown request.Value × View) :=
  match request with
  | .query read => some (choice.carryOut view view (read.eval view.db))
  | .clock => some (.ok choice.now, view)
  | .incrementAndCheck _ capPerHour =>
    some (choice.carryOut view view ⟨decide (choice.count ≤ capPerHour), choice.count⟩)
  | .findRecentPurchasedTitles _ _ => some (choice.carryOut view view choice.titles)
  | .appendAudit row =>
    some (choice.carryOut view { view with db := { view.db with auditLogs := view.db.auditLogs ++ [row] } } ())
  | .createGeneration eventId merchantId customerId args =>
    match createGeneration merchantId customerId (args choice.generationId choice.messageId) choice.now view.db with
    | .error error => some (.error (refused error), view)
    | .ok db => some (choice.carryOut view { view with
        db
        created := view.created ++ [⟨eventId, choice.generationId, choice.messageId⟩] } choice.generationId)
  | .enqueue payload => some (choice.carryOut view { view with jobs := enqueue payload view.jobs } ())
  | .process _ _ _ _ | .handled _ => some (choice.outcome, view)
  | .claimBatch limit =>
    let rows := OutboxRepository.claimBatch limit view.locked view.db
    some (choice.carryOut view { view with transaction := some { claimed := rows.map (·.id) } } rows)
  | .mark id mark =>
    match view.transaction with
    | none => some (.error transactionClosed, view)
    | some transaction =>
      if view.db.outboxEvents.any (·.id == id) then
        some (choice.carryOut (if choice.closes then { view with transaction := none } else view)
          { view with transaction := some { transaction with marks := transaction.marks ++ [⟨id, mark, choice.now⟩] } } ())
      else some (.error (refused .recordNotFound), view)
  | .commit =>
    match view.transaction with
    | none => some (.error transactionClosed, view)
    | some transaction =>
      some (choice.carryOut { view with transaction := none }
        { view with
          db := transaction.apply view.db
          transaction := none } ())
  | .rollback => some (.ok (), { view with transaction := none })
  | .markDeferredFailed id error =>
    match OutboxRepository.markDeferredFailed id error choice.now view.db with
    | .error error => some (.error (refused error), view)
    | .ok db => some (choice.carryOut view { view with db } ())

section Machine

variable {Phase : Type} (discipline : Discipline Call Call.Value Thrown Phase) (fresh : Phase)

abbrev DrainTask (Phase : Type) := Task Unit Call Call.Value Thrown Phase

structure Tick (Phase : Type) where
  transaction : Option Transaction := none
  task : DrainTask Phase

def Tick.claimed (tick : Tick Phase) : List String := tick.transaction.elim [] (·.claimed)

structure World (Phase : Type) where
  db : Db
  jobs : List AiGenerateJobPayload := []
  ticks : Pool (Tick Phase) := []
  created : List Creation := []

/-- One step of the drainer or of what happens around it. -/
inductive Label where
  | start (batchSize : Nat)
  | act (slot : Nat) (choice : Choice)
  | expire (slot : Nat)                             -- the transaction of a tick times out
  | crash (slot : Nat)                              -- the process of a tick dies
  | forceDeadLetter (id error : String) (now : Date)
  | replay (id : String)
  | elsewhere (after : Db)

/-- The rows locked by the ticks of a pool. -/
def locked (ticks : Pool (Tick Phase)) : List String := ticks.flatMap fun slot => slot.elim [] Tick.claimed

theorem mem_locked {ticks : Pool (Tick Phase)} {id : String} :
    id ∈ locked ticks ↔ ∃ slot tick, ticks.task? slot = some tick ∧ id ∈ tick.claimed := by
  unfold locked
  rw [List.mem_flatMap]
  constructor
  · rintro ⟨item, member, listed⟩
    cases item with
    | none => cases listed
    | some tick =>
      obtain ⟨slot, live⟩ := Pool.mem_task? member
      exact ⟨slot, tick, live, listed⟩
  · rintro ⟨slot, tick, live, listed⟩
    exact ⟨some tick, Pool.task?_mem live, listed⟩

namespace World

def view (world : World Phase) (slot : Nat) (tick : Tick Phase) : View where
  db := world.db
  jobs := world.jobs
  transaction := tick.transaction
  locked := locked (world.ticks.clear slot)
  created := world.created

/-- `runDrainTick`, whose result only the scheduling of the next tick reads. -/
def start (context : DrainerContext) (world : World Phase) (batchSize : Nat) : World Phase :=
  { world with ticks := world.ticks.spawn { task := ⟨(), fresh, do
      let _ ← runDrainTick context batchSize
      return⟩ } }

def act (world : World Phase) (slot : Nat) (choice : Choice) : Option (World Phase) :=
  (world.ticks.task? slot).bind fun tick =>
    (tick.task.advance discipline exec (world.view slot tick) choice).map fun (view, task) =>
      { db := view.db
        jobs := view.jobs
        ticks := world.ticks.put slot ⟨view.transaction, task⟩
        created := view.created }

def expire (world : World Phase) (slot : Nat) : Option (World Phase) :=
  (world.ticks.task? slot).map fun tick =>
    { world with ticks := world.ticks.put slot { tick with transaction := none } }

def crash (world : World Phase) (slot : Nat) : Option (World Phase) :=
  (world.ticks.task? slot).map fun _ => { world with ticks := world.ticks.clear slot }

/-- An operator's write waits for the lock of its row. -/
def operate (world : World Phase) (id : String) (db : Db) : Option (World Phase) :=
  if id ∈ locked world.ticks then none else some { world with db }

/-- The other components add no generation and no message, do not touch a locked row, and
publish events under new ids; no one takes a processed mark back. -/
def foreign (world : World Phase) (after : Db) : Bool :=
  (after.aiGenerations.rows.all fun row => world.db.aiGenerations.any (·.id == row.id)) &&
  (after.messages.rows.all fun row =>
    world.db.messages.any fun old => old.id == row.id && old.aiGenerationId == row.aiGenerationId) &&
  ((locked world.ticks).all fun id => decide (id ∈ unprocessed after)) &&
  ((unprocessed after).all fun id =>
    decide (id ∈ unprocessed world.db) || world.created.all fun creation => creation.eventId != id)

def elsewhere (world : World Phase) (after : Db) : Option (World Phase) :=
  if world.foreign after then some { world with db := after } else none

end World

def machine (context : DrainerContext) : Machine (World Phase) Label where
  step world
    | .start batchSize => some (world.start fresh context batchSize)
    | .act slot choice => world.act discipline slot choice
    | .expire slot => world.expire slot
    | .crash slot => world.crash slot
    | .forceDeadLetter id error now => world.operate id (OutboxRepository.markDeadLettered id error now world.db).2
    | .replay id => world.operate id (OutboxRepository.requeueDeadLettered id world.db).2
    | .elsewhere after => world.elsewhere after

end Machine

end WinBack.Outbox
