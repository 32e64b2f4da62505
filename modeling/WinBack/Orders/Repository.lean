import WinBack.Customer.Orders
import WinBack.Orders.Money

/-! The order repository with every column that it writes, and the line items. -/

namespace WinBack.Orders

open Library

section Rows

inductive OrderFulfillmentStatus where
  | fulfilled | partially | unfulfilled | restocked
  deriving DecidableEq, Repr

/-- The columns that an upsert writes. -/
structure SharedFields where
  shopifyOrderNumber : Option String
  isTest : Bool
  financialStatus : Option OrderFinancialStatus
  fulfillmentStatus : Option OrderFulfillmentStatus
  customerId : Option CustomerId
  currency : String
  presentmentCurrency : Option String
  subtotalAmountCents : Nat
  totalAmountCents : Nat
  totalTaxCents : Nat
  totalDiscountCents : Nat
  presentmentTotalCents : Option Nat
  placedAt : Date
  cancelledAt : Option Date
  shopifyProcessedAt : Option Date
  shopifyUpdatedAt : Option Date
  deriving DecidableEq, Repr

structure Order extends SharedFields where
  id : String
  merchantId : MerchantId
  shopifyOrderId : String
  createdAt : Date
  deriving DecidableEq, Repr

def SharedFields.apply (fields : SharedFields) (row : Order) : Order := { row with toSharedFields := fields }

/-- `lineItemShared`. -/
structure LineItemFields where
  productId : Option String
  productVariantId : Option String
  title : String
  quantity : Int
  unitPriceCents : Nat
  currency : String
  deriving DecidableEq, Repr

structure OrderLineItem extends LineItemFields where
  id : String
  merchantId : MerchantId
  orderId : String
  shopifyLineItemId : String
  createdAt : Date
  deriving DecidableEq, Repr

def LineItemFields.apply (fields : LineItemFields) (row : OrderLineItem) : OrderLineItem := { row with toLineItemFields := fields }

structure Product where
  id : String
  merchantId : MerchantId
  shopifyProductId : String
  deletedAt : Option Date := none
  deriving DecidableEq, Repr

structure ProductVariant where
  id : String
  merchantId : MerchantId
  shopifyVariantId : String
  deletedAt : Option Date := none
  deriving DecidableEq, Repr

instance : Indexed Order := .ofKeys Order.id fun row => (row.merchantId, row.shopifyOrderId)
instance : Indexed OrderLineItem := .ofKeys OrderLineItem.id fun row => (row.merchantId, row.orderId, row.shopifyLineItemId)
instance : Indexed Product := .ofKeys Product.id fun row => (row.merchantId, row.shopifyProductId)
instance : Indexed ProductVariant := .ofKeys ProductVariant.id fun row => (row.merchantId, row.shopifyVariantId)

/-- The tables that an upsert of an order reads or writes. -/
structure Store where
  merchants : Table Merchant := ∅
  customers : Table Customer := ∅
  products : Table Product := ∅
  productVariants : Table ProductVariant := ∅
  orders : Table Order := ∅
  orderLineItems : Table OrderLineItem := ∅

end Rows

section Body

structure ShopifyMoney where
  amount : String
  currencyCode : String
  deriving DecidableEq, Repr

structure ShopifyMoneySet where
  shopMoney : ShopifyMoney
  presentmentMoney : ShopifyMoney
  deriving DecidableEq, Repr

/-- A line item of a body; its flat price is not read. -/
structure ShopifyOrderLineItem where
  id : ShopifyId
  productId : Option ShopifyId
  variantId : Option ShopifyId
  title : String
  quantity : Int
  priceSet : ShopifyMoneySet
  deriving DecidableEq, Repr

/-- The webhook body, its dates as instants. -/
structure ShopifyOrderWebhookBody where
  id : ShopifyId
  name : Option String
  test : Bool
  financialStatus : Option String
  fulfillmentStatus : Option String
  customer : Option ShopifyId
  currency : String
  presentmentCurrency : Option String
  subtotalPriceSet : ShopifyMoneySet
  totalPriceSet : ShopifyMoneySet
  totalTaxSet : Option ShopifyMoneySet
  totalDiscountsSet : Option ShopifyMoneySet
  createdAt : Date
  updatedAt : Date
  processedAt : Option Date
  cancelledAt : Option Date
  lineItems : List ShopifyOrderLineItem
  deriving DecidableEq, Repr

end Body

def toShopifyProductGid (numericId : ShopifyId) : Option String := wrapGid "Product" numericId

def toShopifyVariantGid (numericId : ShopifyId) : Option String := wrapGid "ProductVariant" numericId

def toShopifyLineItemGid (numericId : ShopifyId) : Option String := wrapGid "LineItem" numericId

section Fields

def moneyOrZero : Option ShopifyMoneySet → Except RepositoryError Nat
  | none => .ok 0
  | some set => parseMoneyToCents set.shopMoney.amount

def validFulfillmentStatuses : List (String × OrderFulfillmentStatus) :=
  [("fulfilled", .fulfilled), ("partial", .partially), ("unfulfilled", .unfulfilled), ("restocked", .restocked)]

/-- An unknown value is only logged: no gate depends on it. -/
def parseFulfillmentStatus (value : Option String) : Option OrderFulfillmentStatus :=
  value.bind fun value => validFulfillmentStatuses.lookup value

def presentmentTotal (body : ShopifyOrderWebhookBody) : Except RepositoryError (Option Nat) :=
  match body.presentmentCurrency with
  | none => .ok none
  | some _ => (parseMoneyToCents body.totalPriceSet.presentmentMoney.amount).map some

/-- A guest checkout and a customer that is not here, or no longer live, give no link. -/
def resolveCustomerFk (merchantId : MerchantId) (customer : Option ShopifyId) (store : Store) : Option CustomerId := do
  let id ← customer
  let gid ← toShopifyCustomerGid id
  let found ← CustomerRepository.findByShopifyId { customers := store.customers } merchantId gid
  return found.id

def sharedFields (merchantId : MerchantId) (body : ShopifyOrderWebhookBody) (store : Store) :
    Except RepositoryError SharedFields := do
  let financialStatus ← OrderRepository.parseFinancialStatus body.financialStatus
  let subtotalAmountCents ← parseMoneyToCents body.subtotalPriceSet.shopMoney.amount
  let totalAmountCents ← parseMoneyToCents body.totalPriceSet.shopMoney.amount
  let totalTaxCents ← moneyOrZero body.totalTaxSet
  let totalDiscountCents ← moneyOrZero body.totalDiscountsSet
  let presentmentTotalCents ← presentmentTotal body
  return {
    shopifyOrderNumber := body.name
    isTest := body.test
    financialStatus
    fulfillmentStatus := parseFulfillmentStatus body.fulfillmentStatus
    customerId := resolveCustomerFk merchantId body.customer store
    currency := body.currency
    presentmentCurrency := body.presentmentCurrency
    subtotalAmountCents
    totalAmountCents
    totalTaxCents
    totalDiscountCents
    presentmentTotalCents
    placedAt := body.createdAt
    cancelledAt := body.cancelledAt
    shopifyProcessedAt := body.processedAt
    shopifyUpdatedAt := some body.updatedAt }

/-- The two maps of `batchedFkLookups`; reads leave out what is deleted. -/
def productFk (merchantId : MerchantId) (store : Store) (id : ShopifyId) : Option String := do
  let gid ← toShopifyProductGid id
  let found ← store.products.find? fun row =>
    row.merchantId == merchantId && row.shopifyProductId == gid && row.deletedAt == none
  return found.id

def variantFk (merchantId : MerchantId) (store : Store) (id : ShopifyId) : Option String := do
  let gid ← toShopifyVariantGid id
  let found ← store.productVariants.find? fun row =>
    row.merchantId == merchantId && row.shopifyVariantId == gid && row.deletedAt == none
  return found.id

def lineItemFields (merchantId : MerchantId) (currency : String) (lineItem : ShopifyOrderLineItem) (store : Store) :
    Except RepositoryError LineItemFields := do
  let unitPriceCents ← parseMoneyToCents lineItem.priceSet.shopMoney.amount
  return {
    productId := lineItem.productId.bind (productFk merchantId store)
    productVariantId := lineItem.variantId.bind (variantFk merchantId store)
    title := lineItem.title
    quantity := lineItem.quantity
    unitPriceCents
    currency }

end Fields

namespace OrderRepository

export WinBack.OrderRepository (parseFinancialStatus computeQualifyingTransition UpsertResult)

/-- `where: { merchantId_shopifyOrderId }`. -/
def named (merchantId : MerchantId) (gid : String) (row : Order) : Bool :=
  row.merchantId == merchantId && row.shopifyOrderId == gid

/-- `where: { merchantId_orderId_shopifyLineItemId }`. -/
def listed (merchantId : MerchantId) (orderId gid : String) (row : OrderLineItem) : Bool :=
  row.merchantId == merchantId && row.orderId == orderId && row.shopifyLineItemId == gid

/-- `tx.order.upsert`. -/
def place (merchantId : MerchantId) (gid : String) (fields : SharedFields) (newId : String) (now : Date) (store : Store) :
    Except RepositoryError (String × Store) :=
  match store.orders.find? (named merchantId gid) with
  | some stored => .ok (stored.id, { store with
      orders := store.orders.updateMany (named merchantId gid) fields.apply fun _ => rfl })
  | none =>
    match store.orders.insert? { fields with id := newId, merchantId, shopifyOrderId := gid, createdAt := now } with
    | none => .error .uniqueConstraint
    | some orders => if store.merchants.any (·.id == merchantId) then .ok (newId, { store with orders }) else .error .foreignKey

/-- `tx.orderLineItem.upsert`; the order is there. -/
def placeLineItem (merchantId : MerchantId) (orderId gid : String) (fields : LineItemFields) (newId : String) (now : Date)
    (store : Store) : Except RepositoryError Store :=
  match store.orderLineItems.find? (listed merchantId orderId gid) with
  | some _ => .ok { store with
      orderLineItems := store.orderLineItems.updateMany (listed merchantId orderId gid) fields.apply fun _ => rfl }
  | none =>
    match store.orderLineItems.insert? { fields with
      id := newId, merchantId, orderId, shopifyLineItemId := gid, createdAt := now } with
    | none => .error .uniqueConstraint
    | some orderLineItems => .ok { store with orderLineItems }

/-- Every line item comes with the id of a new row. -/
def placeLineItems (merchantId : MerchantId) (orderId currency : String) (now : Date) :
    List (ShopifyOrderLineItem × String) → Store → Except RepositoryError Store
  | [], store => .ok store
  | (lineItem, newId) :: rest, store =>
    match toShopifyLineItemGid lineItem.id with
    | none => .error (.validation "Line item id is not a valid numeric id" "order.line_item.invalid_id"
        [("received", lineItem.id.shown), ("orderId", orderId)])
    | some gid => do
      let fields ← lineItemFields merchantId currency lineItem store
      let store ← placeLineItem merchantId orderId gid fields newId now store
      placeLineItems merchantId orderId currency now rest store

/-- The ids of new rows. -/
structure NewIds where
  order : String
  lineItem : Nat → String

def NewIds.zip (ids : NewIds) (lineItems : List ShopifyOrderLineItem) : List (ShopifyOrderLineItem × String) :=
  lineItems.zipIdx.map fun (lineItem, index) => (lineItem, ids.lineItem index)

def upsertFromWebhook (merchantId : MerchantId) (body : ShopifyOrderWebhookBody) (ids : NewIds) (now : Date) (store : Store) :
    Except RepositoryError (UpsertResult × Store) :=
  match toShopifyOrderGid body.id with
  | none => .error (.validation "Order webhook body.id is not a valid numeric id" "order.invalid_id"
      [("received", body.id.shown)])
  | some gid => do
    let existing := store.orders.find? (named merchantId gid)
    let previous := existing.bind (·.financialStatus)
    let fields ← sharedFields merchantId body store
    let (orderId, placed) ← place merchantId gid fields ids.order now store
    let after ← placeLineItems merchantId orderId body.currency now (ids.zip body.lineItems) placed
    return (⟨orderId, fields.customerId, existing.isNone,
      computeQualifyingTransition previous fields.financialStatus, previous⟩, after)

end OrderRepository

end WinBack.Orders
