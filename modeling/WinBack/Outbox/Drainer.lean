import WinBack.Outbox.Handlers

/-! One tick of the drainer: rows are claimed and marked in one transaction, around their
handlers; deferred handlers run after it. -/

namespace WinBack.Outbox

open Library

def defaultBatchSize : Nat := 100

/-- The bookkeeping for a handler that threw. -/
def failureMark (context : DrainerContext) (row : OutboxEvent) (thrown : Thrown) : Mark :=
  if !isRetryable thrown || decide (maxOutboxAttempts ≤ row.attempts + 1) then .deadLettered (context.message thrown)
  else .failed (context.message thrown)

/-- The processed mark stands inside the `try`. -/
def drainRow (context : DrainerContext) (row : OutboxEvent) : Program Unit :=
  tryCatch
    (do
      dispatchEvent context row
      mark row.id .processed)
    fun thrown => mark row.id (failureMark context row thrown)

/-- With the rows whose handlers are deferred. -/
def drainRows (context : DrainerContext) : List OutboxEvent → Program (List OutboxEvent)
  | [] => return []
  | row :: rest => do
    if marksBeforeInvoke row then
      mark row.id .processed
      let deferredRows ← drainRows context rest
      return row :: deferredRows
    else
      drainRow context row
      drainRows context rest

/-- `prisma.$transaction(body)`. -/
def transaction {Result : Type} (body : Program Result) : Program Result := do
  let result ← tryCatch body fun thrown => do
    perform .rollback
    throw thrown
  perform .commit
  return result

/-- Only a log line tells that the marker of a deferred failure was not written. -/
def runDeferred (context : DrainerContext) : List OutboxEvent → Program Unit
  | [] => return
  | row :: rest => do
    tryCatch (dispatchEvent context row) fun thrown =>
      tryCatch (perform (.markDeferredFailed row.id (context.message thrown))) fun _ => return
    runDeferred context rest

structure RunDrainTickResult where
  claimed : Nat
  hasMore : Bool
  deriving DecidableEq, Repr

def runDrainTick (context : DrainerContext) (batchSize : Nat := defaultBatchSize) : Program RunDrainTickResult := do
  let (claimed, deferredRows) ← transaction do
    let rows ← perform (.claimBatch batchSize)
    let deferredRows ← drainRows context rows
    return (rows.length, deferredRows)
  runDeferred context deferredRows
  return ⟨claimed, claimed == batchSize⟩

end WinBack.Outbox
