import WinBack.Schema

/-! The customer repository: identifiers, the two ingest paths of a customer and the
soft delete. Reads of customers get the soft-delete filter; writes do not. -/

namespace WinBack

open Library

inductive RepositoryError where
  | validation (message code : String) (fields : List (String × String))
  | uniqueConstraint
  | recordNotFound
  | foreignKey
  | thrown (message : String)
  deriving DecidableEq, Repr

section Gid

/-- A REST identifier: a safe integer or a string. -/
inductive ShopifyId where
  | number (value : Int)
  | text (value : String)
  deriving DecidableEq, Repr

/-- `String(id)`. -/
def ShopifyId.shown : ShopifyId → String
  | .number value => toString value
  | .text value => value

/-- `/^\d+$/`. -/
def isNumeric (text : String) : Bool :=
  !text.toList.isEmpty && text.toList.all Char.isDigit

def wrapGid (resource : String) (numericId : ShopifyId) : Option String :=
  if isNumeric numericId.shown then some ("gid://shopify/" ++ resource ++ "/" ++ numericId.shown) else none

def toShopifyCustomerGid (numericId : ShopifyId) : Option String := wrapGid "Customer" numericId

def toShopifyOrderGid (numericId : ShopifyId) : Option String := wrapGid "Order" numericId

/-- `/^gid:\/\/shopify\/[A-Za-z][A-Za-z0-9]*\/(\d+)$/`. -/
def parseGid (gid : String) : Option String :=
  let scheme := "gid://shopify/".toList
  if gid.toList.take scheme.length = scheme then
    match (gid.toList.drop scheme.length).splitOn '/' with
    | [first :: resource, digit :: digits] =>
      if first.isAlpha && resource.all Char.isAlphanum && (digit :: digits).all Char.isDigit then some gid else none
    | _ => none
  else none

end Gid

section Ingest

/-- Every state but an exact match of the four fails closed. -/
def toEmailMarketingConsentState (shopifyState : Option String) : EmailMarketingConsentState :=
  match (shopifyState.getD "").toLower with
  | "subscribed" => .subscribed
  | "pending" => .pending
  | "unsubscribed" => .unsubscribed
  | _ => .notSubscribed

/-- White space and line ends, as `trim` removes them. -/
def isSpace (char : Char) : Bool :=
  "\t\n\x0b\x0c\r \u00a0\u1680\u2028\u2029\u202f\u205f\u3000\ufeff".toList.contains char ||
    (0x2000 ≤ char.toNat && char.toNat ≤ 0x200a)

def trim (text : List Char) : List Char :=
  ((text.dropWhile isSpace).reverse.dropWhile isSpace).reverse

/-- Comma-separated tags, without the blank ones. -/
def splitTags (tags : Option String) : List String :=
  match tags with
  | none => []
  | some tags => (((tags.toList.splitOn ',').map trim).filter fun tag => !tag.isEmpty).map String.ofList

/-- The columns that an ingest writes; `none` leaves a column as it is. -/
structure CustomerPatch where
  email : Option String
  phone : Option String
  firstName : Option String
  lastName : Option String
  acceptsMarketing : Option Bool
  acceptsSms : Option Bool
  emailMarketingConsentState : Option EmailMarketingConsentState
  ordersCount : Option Int
  tags : List String
  shopifyCreatedAt : Option (Option Date)
  shopifyUpdatedAt : Option Date

def CustomerPatch.apply (patch : CustomerPatch) (row : Customer) : Customer := { row with
  email := patch.email
  phone := patch.phone
  firstName := patch.firstName
  lastName := patch.lastName
  acceptsMarketing := patch.acceptsMarketing.getD row.acceptsMarketing
  acceptsSms := patch.acceptsSms.getD row.acceptsSms
  emailMarketingConsentState := patch.emailMarketingConsentState.getD row.emailMarketingConsentState
  ordersCount := patch.ordersCount.getD row.ordersCount
  tags := patch.tags
  shopifyCreatedAt := patch.shopifyCreatedAt.getD row.shopifyCreatedAt
  shopifyUpdatedAt := patch.shopifyUpdatedAt }

/-- The webhook body after validation, its dates as instants. -/
structure ShopifyCustomerWebhookBody where
  id : ShopifyId
  email : Option String := none
  phone : Option String := none
  firstName : Option String := none
  lastName : Option String := none
  emailMarketingConsent : Option String := none    -- its `state`
  smsMarketingConsent : Option String := none      -- its `state`
  ordersCount : Option Int := none
  tags : Option String := none
  createdAt : Date
  updatedAt : Date

/-- Only a subscription sets the two coarse flags; they are never cleared. -/
def ShopifyCustomerWebhookBody.sharedFields (body : ShopifyCustomerWebhookBody) : CustomerPatch where
  email := body.email
  phone := body.phone
  firstName := body.firstName
  lastName := body.lastName
  acceptsMarketing := if body.emailMarketingConsent = some "subscribed" then some true else none
  acceptsSms := if body.smsMarketingConsent = some "subscribed" then some true else none
  emailMarketingConsentState := body.emailMarketingConsent.map fun state => toEmailMarketingConsentState (some state)
  ordersCount := body.ordersCount
  tags := splitTags body.tags
  shopifyCreatedAt := some (some body.createdAt)
  shopifyUpdatedAt := some body.updatedAt

/-- A node of the customers page, its numbers and dates parsed. -/
structure ShopifyCustomerNode where
  id : String
  email : Option String := none
  phone : Option String := none
  firstName : Option String := none
  lastName : Option String := none
  emailMarketingConsent : Option String := none    -- its `marketingState`
  smsMarketingConsent : Option String := none      -- its `marketingState`
  numberOfOrders : Int := 0
  tags : List String := []
  createdAt : Option Date := none
  updatedAt : Option Date := none

def ShopifyCustomerNode.shopifyOwned (node : ShopifyCustomerNode) : CustomerPatch where
  email := node.email
  phone := node.phone
  firstName := node.firstName
  lastName := node.lastName
  acceptsMarketing := some (node.emailMarketingConsent == some "SUBSCRIBED")
  acceptsSms := some (node.smsMarketingConsent == some "SUBSCRIBED")
  emailMarketingConsentState := some (toEmailMarketingConsentState node.emailMarketingConsent)
  ordersCount := some node.numberOfOrders
  tags := node.tags
  shopifyCreatedAt := none
  shopifyUpdatedAt := node.updatedAt

end Ingest

namespace CustomerRepository

/-- `where: { merchantId_shopifyCustomerId }`. -/
def named (merchantId : MerchantId) (gid : String) (row : Customer) : Bool :=
  row.merchantId == merchantId && row.shopifyCustomerId == gid

/-- The same lookup as a read, which the soft-delete filter narrows. -/
def findByShopifyId (db : Db) (merchantId : MerchantId) (gid : String) : Option Customer :=
  db.customers.find? fun row => named merchantId gid row && row.deletedAt == none

/-- `tx.customer.upsert`: a write, so a soft-deleted row is updated as well. -/
def upsert (merchantId : MerchantId) (gid : String) (newId : CustomerId) (create update : CustomerPatch)
    (now : Date) (db : Db) : Except RepositoryError (CustomerId × Db) :=
  match db.customers.find? (named merchantId gid) with
  | some stored => .ok (stored.id, { db with
      customers := db.customers.updateMany (named merchantId gid) update.apply fun _ => rfl })
  | none =>
    match db.customers.insert? (create.apply { id := newId, merchantId, shopifyCustomerId := gid, createdAt := now }) with
    | none => .error .uniqueConstraint
    | some customers =>
      if db.merchants.any (·.id == merchantId) then .ok (newId, { db with customers }) else .error .foreignKey

structure UpsertResult where
  customerId : CustomerId
  isNewCustomer : Bool
  deriving DecidableEq, Repr

def upsertFromWebhook (merchantId : MerchantId) (body : ShopifyCustomerWebhookBody) (newId : CustomerId)
    (now : Date) (db : Db) : Except RepositoryError (UpsertResult × Db) :=
  match toShopifyCustomerGid body.id with
  | none => .error (.validation "Customer webhook body.id is not a valid numeric id" "customer.invalid_id"
      [("received", body.id.shown)])
  | some gid =>
    let existing := findByShopifyId db merchantId gid
    (upsert merchantId gid newId body.sharedFields body.sharedFields now db).map fun (customerId, db) =>
      (⟨customerId, existing.isNone⟩, db)

/-- `CustomerPageProcessor.processItems`; every item comes with the id of a new row. -/
def processItems (merchantId : MerchantId) (now : Date) :
    List (ShopifyCustomerNode × CustomerId) → Db → Except RepositoryError Db
  | [], db => .ok db
  | (node, newId) :: rest, db =>
    match parseGid node.id with
    | none => processItems merchantId now rest db
    | some gid => do
      let (_, db) ← upsert merchantId gid newId
        { node.shopifyOwned with shopifyCreatedAt := some node.createdAt } node.shopifyOwned now db
      processItems merchantId now rest db

/-- The answer is whether a live row was there. -/
def softDelete (merchantId : MerchantId) (gid : String) (now : Date) (db : Db) : Bool × Db :=
  let live (row : Customer) := named merchantId gid row && row.deletedAt == none
  (0 < db.customers.count live, { db with
    customers := db.customers.updateMany live (fun row => { row with deletedAt := some now }) fun _ => rfl })

end CustomerRepository

/-- `handleCustomerDeleted`, given the id of a payload that the schema has accepted. -/
def handleCustomerDeleted (merchantId : MerchantId) (id : ShopifyId) (now : Date) (db : Db) :
    Except RepositoryError (Bool × Db) :=
  match toShopifyCustomerGid id with
  | none => .error (.validation "Customer delete webhook body.id is not a valid numeric id" "customer.invalid_id"
      [("received", id.shown)])
  | some gid => .ok (CustomerRepository.softDelete merchantId gid now db)

end WinBack
