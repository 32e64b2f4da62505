import WinBack.Customer.Orders

/-! The scoring service. What the cohort makes of a customer is an argument, the
resolved score; this module is about the rows that a score writes. -/

namespace WinBack

open Library

structure ResolvedCustomerScore where
  rDays : Int
  fCount : Int
  mCents : Int
  rQuintile : Option Int := none
  fQuintile : Option Int := none
  mQuintile : Option Int := none
  churnRiskScore : Option Rat := none
  newState : CustomerState
  deriving DecidableEq, Repr

/-- The outcome of reading the cohort for one customer, with the id of a new event. -/
structure Scored where
  score : ResolvedCustomerScore
  cohortSize : Nat := 0
  branch : String := "scorable"
  eventId : String
  deriving DecidableEq, Repr

def quintile (value : Option Int) : Json := value.elim .null fun rank => .num rank

section Payload

structure CustomerStateChangedInput where
  merchantId : MerchantId
  customerId : CustomerId
  shopifyCustomerId : String
  oldState : CustomerState
  newState : CustomerState
  computedAt : Date
  rfmScore : ResolvedCustomerScore

def customerGidPrefix : String := "gid://shopify/Customer/"

/-- What `customerStateChangedPayloadSchema` asks of a payload built from typed fields.
An ISO date-time has four digits for the year. -/
def CustomerStateChangedInput.valid (input : CustomerStateChangedInput) : Bool :=
  let rank (value : Option Int) := value.all fun rank => 1 ≤ rank && rank ≤ 5
  let year := Calendar.year (input.computedAt / msPerDay)
  input.merchantId != "" && input.customerId != "" &&
    input.shopifyCustomerId.toList.take customerGidPrefix.length == customerGidPrefix.toList &&
    0 ≤ input.rfmScore.rDays && 0 ≤ input.rfmScore.fCount && 0 ≤ input.rfmScore.mCents &&
    0 ≤ year && year ≤ 9999 &&
    rank input.rfmScore.rQuintile && rank input.rfmScore.fQuintile && rank input.rfmScore.mQuintile

def CustomerStateChangedInput.payload (input : CustomerStateChangedInput) : Json := .obj [
  ("merchantId", .str input.merchantId),
  ("customerId", .str input.customerId),
  ("shopifyCustomerId", .str input.shopifyCustomerId),
  ("oldState", .str input.oldState.text),
  ("newState", .str input.newState.text),
  ("computedAt", .str (Calendar.toISOString input.computedAt)),
  ("rfmScore", .obj [
    ("rDays", .num input.rfmScore.rDays),
    ("fCount", .num input.rfmScore.fCount),
    ("mCents", .str (toString input.rfmScore.mCents)),
    ("rQuintile", quintile input.rfmScore.rQuintile),
    ("fQuintile", quintile input.rfmScore.fQuintile),
    ("mQuintile", quintile input.rfmScore.mQuintile)])]

def buildCustomerStateChangedPayload (input : CustomerStateChangedInput) : Except RepositoryError Json :=
  if input.valid then .ok input.payload else .error (.thrown "ZodError")

/-- The customer that a payload is about. -/
def payloadCustomer (payload : Json) : Option (CustomerId × MerchantId) :=
  match payload.get? "customerId", payload.get? "merchantId" with
  | some (.str customerId), some (.str merchantId) => some (customerId, merchantId)
  | _, _ => none

theorem payloadCustomer_payload (input : CustomerStateChangedInput) :
    payloadCustomer input.payload = some (input.customerId, input.merchantId) := rfl

end Payload

namespace CustomerScoreService

def stateChangedType : String := "customer.state_changed"

/-- `CustomerScoreRepository.upsertScore`. The tenant is part of the lookup, so the
score of another merchant under the same customer is a conflict. -/
def upsertScore (merchantId : MerchantId) (customerId : CustomerId) (score : ResolvedCustomerScore)
    (currency : String) (computedAt : Date) (db : Db) : Except RepositoryError Db :=
  let named (row : CustomerScore) := row.customerId == customerId && row.merchantId == merchantId
  let write (row : CustomerScore) : CustomerScore := { row with
    rDays := score.rDays
    fCount := score.fCount
    mCents := score.mCents
    currency
    rQuintile := score.rQuintile
    fQuintile := score.fQuintile
    mQuintile := score.mQuintile
    churnRiskScore := score.churnRiskScore
    computedAt }
  if db.customerScores.any named then
    .ok { db with customerScores := db.customerScores.updateMany named write fun _ => rfl }
  else
    match db.customerScores.insert? (write {
        merchantId, customerId, rDays := 0, fCount := 0, mCents := 0, currency, computedAt }) with
    | none => .error .uniqueConstraint
    | some customerScores =>
      if db.customers.any (·.id == customerId) && db.merchants.any (·.id == merchantId) then
        .ok { db with customerScores }
      else .error .foreignKey

/-- `tx.customer.update({ where: { id }, data: { state } })`. -/
def updateState (merchantId : MerchantId) (customerId : CustomerId) (state : CustomerState) (db : Db) :
    Except RepositoryError Db :=
  let named (row : Customer) := row.id == customerId && row.merchantId == merchantId
  if db.customers.any named then
    .ok { db with customers := db.customers.updateMany named (fun row => { row with state }) fun _ => rfl }
  else .error .recordNotFound

/-- The audit row of a transition; the decay sweep adds its trigger. -/
def stateChangedAudit (merchant : Merchant) (customer : Customer) (scored : Scored) (currency actorId : String)
    (trigger : Option String) : AuditLog where
  merchantId := some merchant.id
  shop := some merchant.shop
  actorType := .system
  actorId := some actorId
  action := "customer.state_changed"
  targetType := some "customer"
  targetId := some customer.id
  context := .obj ([
    ("oldState", .str customer.state.text),
    ("newState", .str scored.score.newState.text),
    ("rDays", .num scored.score.rDays),
    ("fCount", .num scored.score.fCount),
    ("mCents", .str (toString scored.score.mCents)),
    ("rQuintile", quintile scored.score.rQuintile),
    ("fQuintile", quintile scored.score.fQuintile),
    ("mQuintile", quintile scored.score.mQuintile),
    ("churnRiskScore", scored.score.churnRiskScore.elim .null .num),
    ("currency", .str currency),
    ("cohortSize", .num scored.cohortSize),
    ("branch", .str scored.branch)] ++ (trigger.map fun trigger => ("trigger", .str trigger)).toList)

/-- Audit row and outbox event of a transition. -/
def emit (merchant : Merchant) (customer : Customer) (scored : Scored) (currency actorId : String)
    (trigger : Option String) (now : Date) (db : Db) : Except RepositoryError Db := do
  let payload ← buildCustomerStateChangedPayload {
    merchantId := merchant.id
    customerId := customer.id
    shopifyCustomerId := customer.shopifyCustomerId
    oldState := customer.state
    newState := scored.score.newState
    computedAt := now
    rfmScore := scored.score }
  match db.outboxEvents.insert? {
      id := scored.eventId, merchantId := merchant.id, type := stateChangedType, payload, createdAt := now } with
  | none => .error .uniqueConstraint
  | some outboxEvents => .ok { db with
      outboxEvents
      auditLogs := db.auditLogs ++ [stateChangedAudit merchant customer scored currency actorId trigger] }

/-- Which passes announce a transition, and under which name. -/
structure Announcement where
  actorId : String
  trigger : Option String := none
  deriving DecidableEq, Repr

/-- Score row, state and, where the merchant's first pass is over, the announcement. -/
def applyScore (merchant : Merchant) (customer : Customer) (scored : Scored)
    (announced : Option Announcement) (now : Date) (db : Db) : Except RepositoryError Db := do
  let currency := (merchant.currency.getD "USD").toUpper
  let db ← upsertScore merchant.id customer.id scored.score currency now db
  if customer.state = scored.score.newState then return db
  let db ← updateState merchant.id customer.id scored.score.newState db
  match announced, merchant.scoringInitializedAt with
  | some announced, some _ => emit merchant customer scored currency announced.actorId announced.trigger now db
  | _, _ => return db

/-- A customer that is not here, or no longer live, is skipped. -/
def recompute (merchantId : MerchantId) (customerId : CustomerId) (scored : Scored) (now : Date) (db : Db) :
    Except RepositoryError Db :=
  match db.customers.find? fun row => row.id == customerId && row.deletedAt == none with
  | none => .ok db
  | some customer =>
    match db.merchants.find? (·.id == merchantId) with
    | none => .error (.thrown ("CustomerScoreService.recompute: merchant " ++ merchantId ++
        " not found (deleted while parent tx was open?)"))
    | some merchant => applyScore merchant customer scored (some { actorId := "drainer" }) now db

/-- One batch of `bulkRescore` (nothing is announced) or `decayRescore`, over live
customers of the merchant that the page query selects. -/
def rescoreBatch (merchant : Merchant) (announced : Option Announcement) (now : Date) :
    List (Customer × Scored) → Db → Except RepositoryError Db
  | [], db => .ok db
  | (customer, scored) :: rest, db => do
    let db ← applyScore merchant customer scored announced now db
    rescoreBatch merchant announced now rest db

end CustomerScoreService

end WinBack
