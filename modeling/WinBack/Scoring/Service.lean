import Mathlib.Data.String.Basic
import WinBack.Library.Paging
import WinBack.Scoring.Cohort

/-! The three entry points of the scoring service: the inline recompute of one
customer, the first pass over a merchant and the periodic decay sweep. The sweeps read
the cohort once and go through the customers page by page, one transaction a page. -/

namespace WinBack.Scoring

open Library

/-- A generated id: longer than every id in use. -/
def cuid (db : Db) : String :=
  String.ofList (List.replicate (1 + (db.outboxEvents.rows.map fun row => row.id.length).sum) 'c')

/-- A customer that is not here, or no longer live, is skipped before the cohort is read. -/
def recompute (merchantId : MerchantId) (customerId : CustomerId) (now : Date) (db : Db) :
    Except RepositoryError Db :=
  match db.customers.find? fun row => row.id == customerId && row.deletedAt == none with
  | none => .ok db
  | some customer => do
    let snapshot ← CohortSnapshot.read merchantId now db
    CustomerScoreService.recompute merchantId customerId (snapshot.scored customer (cuid db)) now db

def decayWorkingSetStates : List CustomerState := [.active, .warm, .atRisk, .dormant]

/-- The rows of a page query: live customers of the merchant by id, in some sweeps
only those in given states. -/
def selected (merchantId : MerchantId) (states : Option (List CustomerState)) (db : Db) : List Customer :=
  (db.customers.rows.filter fun row =>
    row.merchantId == merchantId && row.deletedAt == none && states.all fun states => decide (row.state ∈ states))
    |>.insertionSort fun first second => first.id ≤ second.id

/-- One transaction of a sweep. -/
def rescorePage (merchant : Merchant) (snapshot : CohortSnapshot)
    (announced : Option CustomerScoreService.Announcement) : List Customer → Db → Except RepositoryError Db
  | [], db => .ok db
  | customer :: rest, db => do
    let db ← CustomerScoreService.applyScore merchant customer (snapshot.scored customer (cuid db)) announced
      snapshot.now db
    rescorePage merchant snapshot announced rest db

section Sweeps

variable (merchant : Merchant) (snapshot : CohortSnapshot)
  (announced : Option CustomerScoreService.Announcement) (states : Option (List CustomerState)) (batchSize : Nat)

def fetch (cursor : Option CustomerId) (db : Db) : List Customer :=
  Paging.page Customer.id batchSize cursor (selected merchant.id states db)

/-- The page loop of both sweeps. -/
def pages (db : Db) : Paging.Swept Db Customer RepositoryError :=
  Paging.sweep Customer.id batchSize (fetch merchant states batchSize) (rescorePage merchant snapshot announced)
    (db.customers.rows.length + 1) none db

end Sweeps

def merchantNotFound (operation : String) (merchantId : MerchantId) : RepositoryError :=
  .thrown (operation ++ ": merchant " ++ merchantId ++ " not found")

/-- What both sweeps read before their first page. -/
def begin (operation : String) (merchantId : MerchantId) (now : Date) (db : Db) :
    Except RepositoryError (Merchant × CohortSnapshot) :=
  match db.merchants.find? (·.id == merchantId) with
  | none => .error (merchantNotFound operation merchantId)
  | some merchant => (CohortSnapshot.read merchantId now db).map fun snapshot => (merchant, snapshot)

/-- A pass that throws keeps the pages that it committed. -/
structure Pass (Result : Type) where
  outcome : Except RepositoryError Result
  db : Db
  evaluated : List Customer

section BulkRescore

structure BulkRescoreResult where
  customersScored : Nat
  batches : Nat
  cohortSize : Nat
  deriving DecidableEq, Repr

def scoringInitializedAudit (merchant : Merchant) (actorId : String) (result : BulkRescoreResult)
    (insufficientCohort : Bool) : AuditLog where
  merchantId := some merchant.id
  shop := some merchant.shop
  actorType := .system
  actorId := some actorId
  action := "merchant.scoring_initialized"
  targetType := some "merchant"
  targetId := some merchant.id
  context := .obj [
    ("customersScored", .num result.customersScored),
    ("batches", .num result.batches),
    ("cohortSize", .num result.cohortSize),
    ("insufficientCohort", .bool insufficientCohort)]

/-- The final transaction: the flag and one audit row. -/
def initializeScoring (merchant : Merchant) (actorId : String) (now : Date) (result : BulkRescoreResult)
    (insufficientCohort : Bool) (db : Db) : Db := { db with
  merchants := db.merchants.updateMany (·.id == merchant.id)
    (fun row => { row with scoringInitializedAt := some now }) fun _ => rfl
  auditLogs := db.auditLogs ++ [scoringInitializedAudit merchant actorId result insufficientCohort] }

/-- The first pass: every live customer, nothing announced. -/
def bulkRescore (merchantId : MerchantId) (actorId : String) (now : Date) (batchSize : Nat) (db : Db) :
    Pass BulkRescoreResult :=
  match begin "bulkRescore" merchantId now db with
  | .error error => ⟨.error error, db, []⟩
  | .ok (merchant, snapshot) =>
    let swept := pages merchant snapshot none none batchSize db
    match swept.ending with
    | .done =>
      let result := ⟨swept.visited.length, swept.batches, snapshot.cohort.length⟩
      ⟨.ok result, initializeScoring merchant actorId now result snapshot.isInsufficientCohort swept.state,
        swept.visited⟩
    | .threw error => ⟨.error error, swept.state, swept.visited⟩
    | .outOfFuel => ⟨.error (.thrown "out of fuel"), swept.state, swept.visited⟩

end BulkRescore

section DecayRescore

structure DecayRescoreResult where
  customersEvaluated : Nat
  transitions : Nat
  emitted : Nat
  batches : Nat
  cohortSize : Nat
  deriving DecidableEq, Repr

/-- The periodic sweep: customers in the recency bands only, transitions announced. -/
def decayRescore (merchantId : MerchantId) (actorId : String) (now : Date) (batchSize : Nat) (db : Db) :
    Pass DecayRescoreResult :=
  match begin "decayRescore" merchantId now db with
  | .error error => ⟨.error error, db, []⟩
  | .ok (merchant, snapshot) =>
    let swept := pages merchant snapshot (some ⟨actorId, some "decay_sweep"⟩) (some decayWorkingSetStates) batchSize db
    match swept.ending with
    | .done =>
      let transitions := swept.visited.countP fun row => row.state ≠ (snapshot.resolve row).newState
      let emitted := if merchant.scoringInitializedAt.isSome then transitions else 0
      ⟨.ok ⟨swept.visited.length, transitions, emitted, swept.batches, snapshot.cohort.length⟩,
        swept.state, swept.visited⟩
    | .threw error => ⟨.error error, swept.state, swept.visited⟩
    | .outOfFuel => ⟨.error (.thrown "out of fuel"), swept.state, swept.visited⟩

end DecayRescore

end WinBack.Scoring
