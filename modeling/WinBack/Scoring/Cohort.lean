import Mathlib.Data.List.Dedup
import WinBack.Scoring.Math

/-! The scorable cohort of a merchant: live aggregates over its paid orders of the
trailing window, and what the cohort makes of a customer. -/

namespace WinBack

open Library

namespace CustomerScoreRepository

def windowMs : Int := 365 * msPerDay

/-- The `WHERE` clause. Nothing in it asks whether the customer is live. -/
def counted (merchantId : MerchantId) (now : Date) (order : Order) : Bool :=
  order.merchantId == merchantId && order.financialStatus == some .paid && !order.isTest &&
    decide (now - windowMs ≤ order.placedAt) && order.customerId.isSome

/-- `COALESCE("shopifyProcessedAt", "placedAt")`. -/
def paidAt (order : Order) : Date := order.shopifyProcessedAt.getD order.placedAt

/-- The aggregates of one group. -/
def aggregate (now : Date) (customerId : CustomerId) (orders : List Order) : CustomerScoreCohortRow where
  customerId
  rDays := (now - (orders.map paidAt).max?.getD 0) / msPerDay
  fCount := orders.length
  mCents := (orders.map (·.totalAmountCents)).sum

def ordersOf (merchantId : MerchantId) (now : Date) (customerId : CustomerId) (db : Db) : List Order :=
  db.orders.rows.filter fun order => counted merchantId now order && order.customerId == some customerId

/-- `GROUP BY "customerId"`: the groups come in no particular order. -/
def readCohort (merchantId : MerchantId) (now : Date) (db : Db) : List CustomerScoreCohortRow :=
  ((db.orders.rows.filter (counted merchantId now)).filterMap (·.customerId)).dedup.map fun customerId =>
    aggregate now customerId (ordersOf merchantId now customerId db)

end CustomerScoreRepository

/-- What a pass holds of the cohort. -/
structure CohortSnapshot where
  cohort : List CustomerScoreCohortRow
  boundaries : Option QuintileBoundaries
  now : Date
  deriving DecidableEq, Repr

namespace CohortSnapshot

def isInsufficientCohort (snapshot : CohortSnapshot) : Bool :=
  snapshot.cohort.length < insufficientCohortThreshold

def read (merchantId : MerchantId) (now : Date) (db : Db) : Except RepositoryError CohortSnapshot :=
  let cohort := CustomerScoreRepository.readCohort merchantId now db
  (boundariesOf cohort (cohort.length < insufficientCohortThreshold)).map fun boundaries =>
    ⟨cohort, boundaries, now⟩

/-- What a reading yields. -/
def of (merchantId : MerchantId) (now : Date) (db : Db) : CohortSnapshot :=
  let cohort := CustomerScoreRepository.readCohort merchantId now db
  ⟨cohort, (boundariesOf cohort (cohort.length < insufficientCohortThreshold)).toOption.join, now⟩

def cohortRow? (snapshot : CohortSnapshot) (customer : Customer) : Option CustomerScoreCohortRow :=
  snapshot.cohort.find? (·.customerId == customer.id)

/-- The two branches: in the cohort, or a lurker scored by account age. -/
def resolve (snapshot : CohortSnapshot) (customer : Customer) : ResolvedCustomerScore :=
  match snapshot.cohortRow? customer with
  | some row => resolveScorableCustomerWithBoundaries row snapshot.boundaries snapshot.isInsufficientCohort
  | none => resolveLurker (customer.shopifyCreatedAt.getD customer.createdAt) snapshot.now
      snapshot.isInsufficientCohort

def scored (snapshot : CohortSnapshot) (customer : Customer) (eventId : String) : Scored where
  score := snapshot.resolve customer
  cohortSize := snapshot.cohort.length
  branch := if (snapshot.cohortRow? customer).isSome then "scorable" else "lurker"
  eventId

end CohortSnapshot

/-- What the cohort of a store makes of a customer. -/
def scoreFor (merchantId : MerchantId) (now : Date) (db : Db) (customer : Customer) : ResolvedCustomerScore :=
  (CohortSnapshot.of merchantId now db).resolve customer

section Reading

open CustomerScoreRepository

variable {merchantId : MerchantId} {now : Date} {db : Db} {customerId : CustomerId}

/-- The guard of the boundaries makes the reading total. -/
theorem read_eq (merchantId : MerchantId) (now : Date) (db : Db) :
    CohortSnapshot.read merchantId now db = .ok (CohortSnapshot.of merchantId now db) := by
  obtain ⟨boundaries, computed⟩ := boundariesOf_ok (readCohort merchantId now db)
  simp [CohortSnapshot.read, CohortSnapshot.of, computed, Except.map, Except.toOption]

/-- The cohort is read from the orders alone. -/
theorem snapshot_congr {next : Db} (orders : next.orders = db.orders) :
    CohortSnapshot.of merchantId now next = CohortSnapshot.of merchantId now db := by
  have same : readCohort merchantId now next = readCohort merchantId now db := by
    unfold readCohort ordersOf
    rw [orders]
  unfold CohortSnapshot.of
  rw [same]

theorem mem_groups : customerId ∈ ((db.orders.rows.filter (counted merchantId now)).filterMap (·.customerId)).dedup ↔
    ordersOf merchantId now customerId db ≠ [] := by
  rw [List.mem_dedup, List.mem_filterMap, Ne, List.eq_nil_iff_forall_not_mem, not_forall_not]
  simp [ordersOf, and_assoc]

/-- A customer is in the cohort when it has an order there, with the aggregates of its orders. -/
theorem find?_readCohort :
    (readCohort merchantId now db).find? (·.customerId == customerId) =
      if ordersOf merchantId now customerId db = [] then none
      else some (aggregate now customerId (ordersOf merchantId now customerId db)) := by
  unfold readCohort
  rw [List.find?_map]
  have own : ((fun row : CustomerScoreCohortRow => row.customerId == customerId) ∘ fun customerId =>
      aggregate now customerId (ordersOf merchantId now customerId db)) = (· == customerId) := rfl
  rw [own]
  split
  · rename_i none
    rw [List.find?_eq_none.mpr, Option.map_none]
    intro other member same
    rw [beq_iff_eq.mp same] at member
    exact mem_groups.mp member none
  · rename_i present
    cases found : ((db.orders.rows.filter (counted merchantId now)).filterMap (·.customerId)).dedup.find?
        (· == customerId) with
    | none => simpa using List.find?_eq_none.mp found customerId (mem_groups.mpr present)
    | some other =>
      have same : other = customerId := by simpa using List.find?_some found
      rw [same, Option.map_some]

end Reading

end WinBack
