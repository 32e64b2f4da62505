import Mathlib.Data.List.Sort
import WinBack.Customer.Repository
import WinBack.Library.Shape

/-! The outbox table: its event types, how a batch is claimed and what is written on a
row afterwards. -/

namespace WinBack

open Library

inductive OutboxEventType where
  | merchantInstalled | merchantUninstalled | merchantNeedsReauth | merchantShopDetailsFetched
  | merchantBackfillCompleted | merchantScopesUpdated
  | customerCreated | customerUpdated | customerDeleted | customerRedacted | customerStateChanged
  | orderPlaced | orderUpdated | orderCancelled | orderRefunded
  | productCreated | productUpdated | productDeleted
  | gdprCustomerDataRequested | gdprCustomerRedacted | gdprShopRedacted
  deriving DecidableEq, Repr

namespace OutboxEventType

def all : List OutboxEventType :=
  [.merchantInstalled, .merchantUninstalled, .merchantNeedsReauth, .merchantShopDetailsFetched,
    .merchantBackfillCompleted, .merchantScopesUpdated, .customerCreated, .customerUpdated, .customerDeleted,
    .customerRedacted, .customerStateChanged, .orderPlaced, .orderUpdated, .orderCancelled, .orderRefunded,
    .productCreated, .productUpdated, .productDeleted, .gdprCustomerDataRequested, .gdprCustomerRedacted,
    .gdprShopRedacted]

def text : OutboxEventType → String
  | .merchantInstalled => "merchant.installed"
  | .merchantUninstalled => "merchant.uninstalled"
  | .merchantNeedsReauth => "merchant.needs_reauth"
  | .merchantShopDetailsFetched => "merchant.shop_details_fetched"
  | .merchantBackfillCompleted => "merchant.backfill_completed"
  | .merchantScopesUpdated => "merchant.scopes_updated"
  | .customerCreated => "customer.created"
  | .customerUpdated => "customer.updated"
  | .customerDeleted => "customer.deleted"
  | .customerRedacted => "customer.redacted"
  | .customerStateChanged => "customer.state_changed"
  | .orderPlaced => "order.placed"
  | .orderUpdated => "order.updated"
  | .orderCancelled => "order.cancelled"
  | .orderRefunded => "order.refunded"
  | .productCreated => "product.created"
  | .productUpdated => "product.updated"
  | .productDeleted => "product.deleted"
  | .gdprCustomerDataRequested => "gdpr.customer_data_requested"
  | .gdprCustomerRedacted => "gdpr.customer_redacted"
  | .gdprShopRedacted => "gdpr.shop_redacted"

def ofText? (text : String) : Option OutboxEventType := all.find? (·.text == text)

@[simp] theorem ofText?_text (type : OutboxEventType) : ofText? type.text = some type := by
  cases type <;> decide

end OutboxEventType

namespace Outbox

def maxOutboxAttempts : Nat := 10

/-- Marked in the claiming transaction, handled after it. -/
def markBeforeInvokeEvents : List OutboxEventType := [.gdprShopRedacted, .merchantInstalled]

def marksBeforeInvoke (row : OutboxEvent) : Bool :=
  (OutboxEventType.ofText? row.type).any fun type => decide (type ∈ markBeforeInvokeEvents)

/-- What a handler throws: an `AppError` with its flag, or any other error. -/
inductive Thrown where
  | app (code message : String) (retryable : Bool)
  | zod (issues : List Issue)
  | other (message : String)
  deriving DecidableEq, Repr

/-- `new ValidationError(message)`. -/
def Thrown.validation (message : String) : Thrown := .app "validation.failed" message false

/-- An `AppError` says so itself; everything else is worth another attempt. -/
def isRetryable : Thrown → Bool
  | .app _ _ retryable => retryable
  | _ => true

end Outbox

namespace OutboxRepository

def errorMaxChars : Nat := 1000

def claimable (row : OutboxEvent) : Bool := row.processedAt.isNone && row.deadLetteredAt.isNone

/-- `ORDER BY "createdAt" LIMIT limit FOR UPDATE SKIP LOCKED`. -/
def claimBatch (limit : Nat) (locked : List String) (db : Db) : List OutboxEvent :=
  (((db.outboxEvents.rows.filter claimable).insertionSort fun first second => first.createdAt ≤ second.createdAt)
    |>.filter fun row => decide (row.id ∉ locked)).take limit

/-- `tx.outboxEvent.update({ where: { id }, data })`. -/
def update (id : String) (change : OutboxEvent → OutboxEvent) (keeps : ∀ row, (change row).id = row.id) (db : Db) :
    Except RepositoryError Db :=
  if db.outboxEvents.any (·.id == id) then
    .ok { db with outboxEvents := db.outboxEvents.updateMany (·.id == id) change keeps }
  else .error .recordNotFound

def markProcessed (id : String) (now : Date) : Db → Except RepositoryError Db :=
  update id (fun row => { row with processedAt := some now }) fun _ => rfl

def markFailed (id error : String) : Db → Except RepositoryError Db :=
  update id (fun row => { row with
    attempts := row.attempts + 1
    lastError := some (utf16Prefix errorMaxChars error) }) fun _ => rfl

def markDeferredFailed (id error : String) (now : Date) : Db → Except RepositoryError Db :=
  update id (fun row => { row with
    deferredFailedAt := some now
    lastError := some (utf16Prefix errorMaxChars error) }) fun _ => rfl

/-- `where: { id, deadLetteredAt: null }`. -/
def undelivered (id : String) (row : OutboxEvent) : Bool := row.id == id && row.deadLetteredAt.isNone

/-- With whether the row was dead-lettered already, or is not there. -/
def markDeadLettered (id error : String) (now : Date) (db : Db) : Bool × Db :=
  (db.outboxEvents.count (undelivered id) == 0, { db with
    outboxEvents := db.outboxEvents.updateMany (undelivered id) (fun row => { row with
      deadLetteredAt := some now
      attempts := row.attempts + 1
      lastError := some (utf16Prefix errorMaxChars error) }) fun _ => rfl })

/-- `where: { id, deadLetteredAt: { not: null } }`. -/
def deadLettered (id : String) (row : OutboxEvent) : Bool := row.id == id && row.deadLetteredAt.isSome

/-- With whether the row was dead-lettered. -/
def requeueDeadLettered (id : String) (db : Db) : Bool × Db :=
  (0 < db.outboxEvents.count (deadLettered id), { db with
    outboxEvents := db.outboxEvents.updateMany (deadLettered id) (fun row => { row with
      deadLetteredAt := none
      attempts := 0
      lastError := none }) fun _ => rfl })

end OutboxRepository

namespace Outbox

/-- The drainer's bookkeeping on one row. -/
inductive Mark where
  | processed
  | failed (error : String)
  | deadLettered (error : String)
  deriving DecidableEq, Repr

def Mark.write (mark : Mark) (id : String) (now : Date) (db : Db) : Except RepositoryError Db :=
  match mark with
  | .processed => OutboxRepository.markProcessed id now db
  | .failed error => OutboxRepository.markFailed id error db
  | .deadLettered error => .ok (OutboxRepository.markDeadLettered id error now db).2

theorem event_eq_of_id {db : Db} {first second : OutboxEvent} (here : first ∈ db.outboxEvents.rows)
    (there : second ∈ db.outboxEvents.rows) (same : first.id = second.id) : first = second :=
  db.outboxEvents.eq_of_clash here there (by simp [Indexed.clash, Indexed.index, same])

section Unprocessed

open OutboxRepository

/-- The ids of the rows that no tick has marked processed. -/
def unprocessed (db : Db) : List String :=
  db.outboxEvents.links fun row => if row.processedAt.isNone then some row.id else none

variable {id : String} {now : Date} {mark : Mark} {db next : Db} {row : OutboxEvent} {limit : Nat} {locked : List String}

theorem mem_unprocessed : id ∈ unprocessed db ↔ ∃ row ∈ db.outboxEvents.rows, row.id = id ∧ row.processedAt = none := by
  unfold unprocessed
  rw [Table.mem_links]
  refine exists_congr fun row => and_congr_right fun _ => ?_
  cases row.processedAt <;> simp

theorem nodup_claimed (limit : Nat) (locked : List String) (db : Db) :
    ((claimBatch limit locked db).map (·.id)).Nodup := by
  have distinct : (db.outboxEvents.rows.map (·.id)).Nodup := by
    rw [List.nodup_iff_pairwise_ne, List.pairwise_map]
    refine db.outboxEvents.unique.imp fun free same => ?_
    simp [Indexed.clash, Indexed.index, same] at free
  have sorted := (List.perm_insertionSort (fun first second : OutboxEvent => first.createdAt ≤ second.createdAt)
    (db.outboxEvents.rows.filter claimable)).map (·.id)
  refine (sorted.nodup_iff.mpr (distinct.sublist (List.filter_sublist.map _))).sublist (List.Sublist.map _ ?_)
  exact (List.take_sublist _ _).trans List.filter_sublist

/-- A claimed row is stored, free and neither processed nor dead-lettered. -/
theorem claimed_iff (member : row ∈ claimBatch limit locked db) :
    row ∈ db.outboxEvents.rows ∧ claimable row = true ∧ row.id ∉ locked := by
  have kept := List.mem_of_mem_take member
  simp only [List.mem_filter, List.mem_insertionSort, decide_eq_true_eq] at kept
  exact ⟨kept.1.1, kept.1.2, kept.2⟩

theorem unprocessed_of_claimed (member : row ∈ claimBatch limit locked db) : row.id ∈ unprocessed db := by
  obtain ⟨stored, free, _⟩ := claimed_iff member
  rw [claimable, Bool.and_eq_true, Option.isNone_iff_eq_none] at free
  exact mem_unprocessed.mpr ⟨row, stored, rfl, free.1⟩

/-- A write that leaves `processedAt` alone. -/
theorem unprocessed_congr {filter : OutboxEvent → Bool} {change : OutboxEvent → OutboxEvent}
    (rows : next.outboxEvents.rows = db.outboxEvents.rows.map fun row => if filter row then change row else row)
    (same : ∀ row, (change row).id = row.id ∧ (change row).processedAt = row.processedAt) :
    unprocessed next = unprocessed db := by
  refine Table.links_update rows fun row => ?_
  rw [(same row).1, (same row).2]

theorem unprocessed_markProcessed (marked : markProcessed id now db = .ok next) :
    (∃ outboxEvents, next = { db with outboxEvents }) ∧ id ∉ unprocessed next ∧
      ∀ other, other ≠ id → (other ∈ unprocessed next ↔ other ∈ unprocessed db) := by
  unfold markProcessed update at marked
  split at marked
  · cases marked
    refine ⟨⟨_, rfl⟩, fun member => ?_, fun other apart => ?_⟩
    · obtain ⟨row, stored, named, free⟩ := mem_unprocessed.mp member
      obtain ⟨old, present, rfl⟩ := List.mem_map.mp stored
      split at free
      · cases free
      · rename_i unmatched
        rw [if_neg unmatched] at named
        exact unmatched (by simpa using named)
    · rw [mem_unprocessed, mem_unprocessed]
      constructor
      · rintro ⟨row, stored, named, free⟩
        obtain ⟨old, present, rfl⟩ := List.mem_map.mp stored
        split at named
        · rename_i matched
          exact absurd (named.symm.trans (beq_iff_eq.mp matched)) apart
        · rename_i unmatched
          rw [if_neg unmatched] at free
          exact ⟨old, present, named, free⟩
      · rintro ⟨row, stored, named, free⟩
        refine ⟨row, List.mem_map.mpr ⟨row, stored, ?_⟩, named, free⟩
        rw [if_neg (by simpa [named] using apart)]
  · cases marked

/-- Only a processed mark settles a row, and only its own. -/
theorem unprocessed_write (written : mark.write id now db = .ok next) :
    (∃ outboxEvents, next = { db with outboxEvents }) ∧
      (mark = .processed → id ∉ unprocessed next) ∧
      ∀ other, (mark = .processed → other ≠ id) → (other ∈ unprocessed next ↔ other ∈ unprocessed db) := by
  cases mark with
  | processed =>
    obtain ⟨frame, own, others⟩ := unprocessed_markProcessed written
    exact ⟨frame, fun _ => own, fun other apart => others other (apart rfl)⟩
  | failed error =>
    simp only [Mark.write, markFailed, update] at written
    split at written
    · cases written
      exact ⟨⟨_, rfl⟩, by simp, fun other _ => .of_eq (congrArg (other ∈ ·) (unprocessed_congr rfl fun _ => ⟨rfl, rfl⟩))⟩
    · cases written
  | deadLettered error =>
    cases written
    exact ⟨⟨_, rfl⟩, by simp, fun other _ => .of_eq (congrArg (other ∈ ·) (unprocessed_congr rfl fun _ => ⟨rfl, rfl⟩))⟩

end Unprocessed

end Outbox

end WinBack
