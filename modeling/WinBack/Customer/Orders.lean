import WinBack.Customer.Repository

/-! The order repository: an order is linked to the live customer that its body names. -/

namespace WinBack

open Library

/-- The webhook body after validation: amounts in cents, dates as instants. Line
items are left out: they name no customer. -/
structure ShopifyOrderWebhookBody where
  id : ShopifyId
  customer : Option ShopifyId := none
  test : Bool := false
  financialStatus : Option String := none
  totalAmountCents : Int := 0
  createdAt : Date
  processedAt : Option Date := none

inductive QualifyingTransition where
  | paidNew | paidContinued | nonPaid | noChange
  deriving DecidableEq, Repr

def validFinancialStatuses : List (String × OrderFinancialStatus) :=
  [("pending", .pending), ("authorized", .authorized), ("partially_paid", .partiallyPaid), ("paid", .paid),
    ("partially_refunded", .partiallyRefunded), ("refunded", .refunded), ("voided", .voided)]

namespace OrderRepository

def parseFinancialStatus : Option String → Except RepositoryError (Option OrderFinancialStatus)
  | none => .ok none
  | some value =>
    match validFinancialStatuses.lookup value with
    | some status => .ok (some status)
    | none => .error (.validation ("Unknown Shopify financial_status: \"" ++ value ++ "\"")
        "order.invalid_financial_status" [("received", value)])

def computeQualifyingTransition (previous new : Option OrderFinancialStatus) : QualifyingTransition :=
  if new ≠ some .paid then .nonPaid
  else
    match previous with
    | none => .paidNew
    | some .paid => .noChange
    | some _ => .paidContinued

/-- A guest checkout and a customer that is not here, or no longer live, give no link. -/
def resolveCustomerFk (merchantId : MerchantId) (body : ShopifyOrderWebhookBody) (db : Db) : Option CustomerId := do
  let id ← body.customer
  let gid ← toShopifyCustomerGid id
  let found ← CustomerRepository.findByShopifyId db merchantId gid
  return found.id

structure UpsertResult where
  orderId : String
  customerId : Option CustomerId
  isNewOrder : Bool
  qualifyingTransition : QualifyingTransition
  previousFinancialStatus : Option OrderFinancialStatus
  deriving DecidableEq, Repr

def named (merchantId : MerchantId) (gid : String) (row : Order) : Bool :=
  row.merchantId == merchantId && row.shopifyOrderId == gid

/-- The columns that an upsert writes. -/
def write (body : ShopifyOrderWebhookBody) (status : Option OrderFinancialStatus)
    (customerId : Option CustomerId) (row : Order) : Order := { row with
  isTest := body.test
  financialStatus := status
  customerId
  totalAmountCents := body.totalAmountCents
  placedAt := body.createdAt
  shopifyProcessedAt := body.processedAt }

def upsertFromWebhook (merchantId : MerchantId) (body : ShopifyOrderWebhookBody) (newId : String) (db : Db) :
    Except RepositoryError (UpsertResult × Db) :=
  match toShopifyOrderGid body.id with
  | none => .error (.validation "Order webhook body.id is not a valid numeric id" "order.invalid_id"
      [("received", body.id.shown)])
  | some gid =>
    let existing := db.orders.find? (named merchantId gid)
    let previous := existing.bind (·.financialStatus)
    match parseFinancialStatus body.financialStatus with
    | .error error => .error error
    | .ok status =>
      let customerId := resolveCustomerFk merchantId body db
      let result (orderId : String) : UpsertResult :=
        ⟨orderId, customerId, existing.isNone, computeQualifyingTransition previous status, previous⟩
      match existing with
      | some stored => .ok (result stored.id, { db with
          orders := db.orders.updateMany (named merchantId gid) (write body status customerId) fun _ => rfl })
      | none =>
        match db.orders.insert? (write body status customerId
            { id := newId, merchantId, shopifyOrderId := gid, customerId, placedAt := body.createdAt }) with
        | none => .error .uniqueConstraint
        | some orders =>
          if db.merchants.any (·.id == merchantId) then .ok (result newId, { db with orders }) else .error .foreignKey

/-- The statement of the upsert, once the customer is resolved. -/
def place (merchantId : MerchantId) (gid : String) (body : ShopifyOrderWebhookBody)
    (status : Option OrderFinancialStatus) (customerId : Option CustomerId) (newId : String) (db : Db) :
    Except RepositoryError (String × Db) :=
  match db.orders.find? (named merchantId gid) with
  | some stored => .ok (stored.id, { db with
      orders := db.orders.updateMany (named merchantId gid) (write body status customerId) fun _ => rfl })
  | none =>
    match db.orders.insert? (write body status customerId
        { id := newId, merchantId, shopifyOrderId := gid, customerId, placedAt := body.createdAt }) with
    | none => .error .uniqueConstraint
    | some orders => if db.merchants.any (·.id == merchantId) then .ok (newId, { db with orders }) else .error .foreignKey

theorem upsertFromWebhook_eq {merchantId : MerchantId} {body : ShopifyOrderWebhookBody} {gid newId : String}
    {status : Option OrderFinancialStatus} {db : Db} (wrapped : toShopifyOrderGid body.id = some gid)
    (parsed : parseFinancialStatus body.financialStatus = .ok status) :
    (upsertFromWebhook merchantId body newId db).map (fun (result, db) => (result.customerId, db)) =
      (place merchantId gid body status (resolveCustomerFk merchantId body db) newId db).map fun (_, db) =>
        (resolveCustomerFk merchantId body db, db) := by
  simp only [upsertFromWebhook, wrapped, parsed, place]
  cases db.orders.find? (named merchantId gid) with
  | some stored => rfl
  | none =>
    dsimp only
    cases db.orders.insert? (write body status (resolveCustomerFk merchantId body db) {
        id := newId, merchantId, shopifyOrderId := gid, customerId := resolveCustomerFk merchantId body db,
        placedAt := body.createdAt }) with
    | none => rfl
    | some orders =>
      dsimp only
      split
      · rfl
      · rfl

/-- `OrderPageProcessor.processItems`, after the nodes are mapped to webhook bodies;
every body comes with the id of a new row. -/
def processItems (merchantId : MerchantId) :
    List (ShopifyOrderWebhookBody × String) → Db → Except RepositoryError Db
  | [], db => .ok db
  | (body, newId) :: rest, db => do
    let (_, db) ← upsertFromWebhook merchantId body newId db
    processItems merchantId rest db

end OrderRepository

end WinBack
