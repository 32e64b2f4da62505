import WinBack.Library.Fallible
import WinBack.Orders.Repository

/-! An order as Shopify has it, in the two encodings that reach the store, and the adapter from the node
of a GraphQL page to the body of a webhook. -/

namespace WinBack.Orders

open Library

section Node

structure MoneyBag where
  shopMoney : ShopifyMoney
  presentmentMoney : ShopifyMoney
  deriving DecidableEq, Repr

structure ShopifyOrderLineItemNode where
  id : String
  title : String
  quantity : Int
  originalUnitPriceSet : MoneyBag
  product : Option String
  variant : Option String
  deriving DecidableEq, Repr

/-- A node of the orders page, its dates as instants. -/
structure ShopifyOrderNode where
  id : String
  name : Option String
  test : Bool
  displayFinancialStatus : Option String
  displayFulfillmentStatus : Option String
  currencyCode : String
  presentmentCurrencyCode : Option String
  createdAt : Date
  updatedAt : Date
  processedAt : Option Date
  cancelledAt : Option Date
  subtotalPriceSet : MoneyBag
  totalPriceSet : MoneyBag
  totalTaxSet : Option MoneyBag
  totalDiscountsSet : Option MoneyBag
  customer : Option String
  lineItems : List ShopifyOrderLineItemNode
  deriving DecidableEq, Repr

/-- `lineItemsFirst` of the page query. -/
def lineItemsPerOrder : Nat := 250

end Node

section Adapter

/-- `/^gid:\/\/shopify\/[A-Za-z][A-Za-z0-9]*\/(\d+)$/`, its digits. -/
def extractNumericIdFromGid (gid : String) : Option String :=
  let scheme := "gid://shopify/".toList
  if gid.toList.take scheme.length = scheme then
    match (gid.toList.drop scheme.length).splitOn '/' with
    | [first :: resource, digit :: digits] =>
      if first.isAlpha && resource.all Char.isAlphanum && (digit :: digits).all Char.isDigit
      then some (.ofList (digit :: digits)) else none
    | _ => none
  else none

def financialStatusMap : List (String × Option String) :=
  [("AUTHORIZED", "authorized"), ("EXPIRED", none), ("PAID", "paid"), ("PARTIALLY_PAID", "partially_paid"),
    ("PARTIALLY_REFUNDED", "partially_refunded"), ("PENDING", "pending"), ("REFUNDED", "refunded"), ("VOIDED", "voided")]

/-- A value that is not in the map is logged and stored as null. -/
def mapFinancialStatus (value : Option String) : Option String :=
  value.bind fun value => (financialStatusMap.lookup value).join

def fulfillmentStatusMap : List (String × String) :=
  [("FULFILLED", "fulfilled"), ("PARTIALLY_FULFILLED", "partial"), ("UNFULFILLED", "unfulfilled"), ("RESTOCKED", "restocked")]

def mapFulfillmentStatus (value : Option String) : Option String :=
  value.bind fun value => fulfillmentStatusMap.lookup value

def moneyBagToWebhookSet (bag : MoneyBag) : ShopifyMoneySet := ⟨bag.shopMoney, bag.presentmentMoney⟩

/-- A line item whose identifier is malformed is skipped. -/
def mapLineItem (node : ShopifyOrderLineItemNode) : Option ShopifyOrderLineItem := do
  let id ← extractNumericIdFromGid node.id
  return {
    id := .text id
    productId := (node.product.bind extractNumericIdFromGid).map .text
    variantId := (node.variant.bind extractNumericIdFromGid).map .text
    title := node.title
    quantity := node.quantity
    priceSet := moneyBagToWebhookSet node.originalUnitPriceSet }

/-- So is an order. -/
def mapOrderNodeToWebhookBody (node : ShopifyOrderNode) : Option ShopifyOrderWebhookBody := do
  let id ← extractNumericIdFromGid node.id
  return {
    id := .text id
    name := node.name
    test := node.test
    financialStatus := mapFinancialStatus node.displayFinancialStatus
    fulfillmentStatus := mapFulfillmentStatus node.displayFulfillmentStatus
    customer := (node.customer.bind extractNumericIdFromGid).map .text
    currency := node.currencyCode
    presentmentCurrency := node.presentmentCurrencyCode
    subtotalPriceSet := moneyBagToWebhookSet node.subtotalPriceSet
    totalPriceSet := moneyBagToWebhookSet node.totalPriceSet
    totalTaxSet := node.totalTaxSet.map moneyBagToWebhookSet
    totalDiscountsSet := node.totalDiscountsSet.map moneyBagToWebhookSet
    createdAt := node.createdAt
    updatedAt := node.updatedAt
    processedAt := node.processedAt
    cancelledAt := node.cancelledAt
    lineItems := node.lineItems.filterMap mapLineItem }

/-- What the types of a body leave to check: `quantity: z.number().int().nonnegative()`. -/
def shopifyOrderWebhookBodySchema (body : ShopifyOrderWebhookBody) : Except RepositoryError ShopifyOrderWebhookBody :=
  if body.lineItems.all fun lineItem => decide (0 ≤ lineItem.quantity) then .ok body
  else .error (.thrown "Too small: expected number to be >=0")

/-- `OrderPageProcessor.processItems`; every node comes with the ids of new rows. -/
def processItems (merchantId : MerchantId) (now : Date) :
    List (ShopifyOrderNode × OrderRepository.NewIds) → Store → Except RepositoryError Store
  | [], store => .ok store
  | (node, ids) :: rest, store =>
    match mapOrderNodeToWebhookBody node with
    | none => processItems merchantId now rest store
    | some mapped => do
      let body ← shopifyOrderWebhookBodySchema mapped
      let (_, store) ← OrderRepository.upsertFromWebhook merchantId body ids now store
      processItems merchantId now rest store

/-- A page skips a malformed node, and upserts the body of any other one. -/
theorem processItems_cons {merchantId : MerchantId} {now : Date} {node : ShopifyOrderNode} {ids : OrderRepository.NewIds}
    {rest : List (ShopifyOrderNode × OrderRepository.NewIds)} {store after : Store}
    (done : processItems merchantId now ((node, ids) :: rest) store = .ok after) :
    mapOrderNodeToWebhookBody node = none ∧ processItems merchantId now rest store = .ok after ∨
      ∃ body result middle, mapOrderNodeToWebhookBody node = some body ∧
        OrderRepository.upsertFromWebhook merchantId body ids now store = .ok (result, middle) ∧
        processItems merchantId now rest middle = .ok after := by
  unfold processItems at done
  split at done
  · rename_i malformed
    exact .inl ⟨malformed, done⟩
  · rename_i mapped wellFormed
    obtain ⟨body, checked, done⟩ := bind_eq_ok_iff.mp done
    obtain rfl : mapped = body := by
      unfold shopifyOrderWebhookBodySchema at checked
      split at checked <;> cases checked
      rfl
    obtain ⟨⟨result, middle⟩, upserted, done⟩ := bind_eq_ok_iff.mp done
    exact .inr ⟨mapped, result, middle, wellFormed, upserted, done⟩

end Adapter

section Order

/-- `OrderDisplayFinancialStatus`. -/
inductive FinancialStatus where
  | authorized | expired | paid | partiallyPaid | partiallyRefunded | pending | refunded | voided
  deriving DecidableEq, Repr

/-- As a REST body spells it. -/
def FinancialStatus.rest : FinancialStatus → String
  | .authorized => "authorized"
  | .expired => "expired"
  | .paid => "paid"
  | .partiallyPaid => "partially_paid"
  | .partiallyRefunded => "partially_refunded"
  | .pending => "pending"
  | .refunded => "refunded"
  | .voided => "voided"

/-- As GraphQL spells it. -/
def FinancialStatus.graphql : FinancialStatus → String
  | .authorized => "AUTHORIZED"
  | .expired => "EXPIRED"
  | .paid => "PAID"
  | .partiallyPaid => "PARTIALLY_PAID"
  | .partiallyRefunded => "PARTIALLY_REFUNDED"
  | .pending => "PENDING"
  | .refunded => "REFUNDED"
  | .voided => "VOIDED"

/-- A status that GraphQL displays while some items may have been fulfilled. -/
inductive Underway where
  | inProgress | onHold | open | pendingFulfillment | requestDeclined | scheduled
  deriving DecidableEq, Repr

def Underway.graphql : Underway → String
  | .inProgress => "IN_PROGRESS"
  | .onHold => "ON_HOLD"
  | .open => "OPEN"
  | .pendingFulfillment => "PENDING_FULFILLMENT"
  | .requestDeclined => "REQUEST_DECLINED"
  | .scheduled => "SCHEDULED"

/-- `OrderDisplayFulfillmentStatus`. -/
inductive Fulfillment where
  | fulfilled | partially | unfulfilled | restocked
  | underway (display : Underway) (begun : Bool)
  deriving DecidableEq, Repr

/-- REST has no word for an order of which nothing has been fulfilled. -/
def Fulfillment.rest : Fulfillment → Option String
  | .fulfilled => some "fulfilled"
  | .partially => some "partial"
  | .unfulfilled => none
  | .restocked => some "restocked"
  | .underway _ begun => if begun then some "partial" else none

def Fulfillment.graphql : Fulfillment → String
  | .fulfilled => "FULFILLED"
  | .partially => "PARTIALLY_FULFILLED"
  | .unfulfilled => "UNFULFILLED"
  | .restocked => "RESTOCKED"
  | .underway display _ => display.graphql

/-- An amount in cents, in the currency of the shop and in that of the customer. -/
structure Money where
  shop : Nat
  presentment : Nat
  deriving DecidableEq, Repr

structure LineItem where
  id : Nat
  product : Option Nat := none
  variant : Option Nat := none
  title : String := ""
  quantity : Nat := 1
  unitPrice : Money := ⟨0, 0⟩
  deriving DecidableEq, Repr

structure ShopifyOrder where
  id : Nat
  name : Option String := none
  test : Bool := false
  financialStatus : Option FinancialStatus := none
  fulfillment : Fulfillment := .unfulfilled
  customer : Option Nat := none
  currency : String := "USD"
  presentmentCurrency : Option String := none
  subtotal : Money := ⟨0, 0⟩
  total : Money := ⟨0, 0⟩
  tax : Option Money := none
  discounts : Option Money := none
  createdAt : Date
  updatedAt : Date
  processedAt : Option Date := none
  cancelledAt : Option Date := none
  lineItems : List LineItem := []
  distinct : (lineItems.map (·.id)).Nodup := by simp

/-- REST sends numbers for the identifiers. -/
def restId (id : Nat) : ShopifyId := .number id

variable (order : ShopifyOrder) (spelling : Spelling)

def ShopifyOrder.money (amount : Money) : ShopifyMoney × ShopifyMoney :=
  (⟨spelling.amount amount.shop, order.currency⟩,
    ⟨spelling.amount amount.presentment, order.presentmentCurrency.getD order.currency⟩)

def ShopifyOrder.moneySet (amount : Money) : ShopifyMoneySet :=
  ⟨(order.money spelling amount).1, (order.money spelling amount).2⟩

def ShopifyOrder.moneyBag (amount : Money) : MoneyBag :=
  ⟨(order.money spelling amount).1, (order.money spelling amount).2⟩

def ShopifyOrder.toBodyLineItem (lineItem : LineItem) : ShopifyOrderLineItem where
  id := restId lineItem.id
  productId := lineItem.product.map restId
  variantId := lineItem.variant.map restId
  title := lineItem.title
  quantity := lineItem.quantity
  priceSet := order.moneySet spelling lineItem.unitPrice

def ShopifyOrder.toWebhookBody : ShopifyOrderWebhookBody where
  id := restId order.id
  name := order.name
  test := order.test
  financialStatus := order.financialStatus.map (·.rest)
  fulfillmentStatus := order.fulfillment.rest
  customer := order.customer.map restId
  currency := order.currency
  presentmentCurrency := order.presentmentCurrency
  subtotalPriceSet := order.moneySet spelling order.subtotal
  totalPriceSet := order.moneySet spelling order.total
  totalTaxSet := order.tax.map (order.moneySet spelling)
  totalDiscountsSet := order.discounts.map (order.moneySet spelling)
  createdAt := order.createdAt
  updatedAt := order.updatedAt
  processedAt := order.processedAt
  cancelledAt := order.cancelledAt
  lineItems := order.lineItems.map (order.toBodyLineItem spelling)

def gidOf (resource : String) (id : Nat) : String := "gid://shopify/" ++ resource ++ "/" ++ toString id

def ShopifyOrder.toLineItemNode (lineItem : LineItem) : ShopifyOrderLineItemNode where
  id := gidOf "LineItem" lineItem.id
  title := lineItem.title
  quantity := lineItem.quantity
  originalUnitPriceSet := order.moneyBag spelling lineItem.unitPrice
  product := lineItem.product.map (gidOf "Product")
  variant := lineItem.variant.map (gidOf "ProductVariant")

/-- GraphQL sends global identifiers, and as many line items as the query asks for. -/
def ShopifyOrder.toNode : ShopifyOrderNode where
  id := gidOf "Order" order.id
  name := order.name
  test := order.test
  displayFinancialStatus := order.financialStatus.map (·.graphql)
  displayFulfillmentStatus := some order.fulfillment.graphql
  currencyCode := order.currency
  presentmentCurrencyCode := order.presentmentCurrency
  createdAt := order.createdAt
  updatedAt := order.updatedAt
  processedAt := order.processedAt
  cancelledAt := order.cancelledAt
  subtotalPriceSet := order.moneyBag spelling order.subtotal
  totalPriceSet := order.moneyBag spelling order.total
  totalTaxSet := order.tax.map (order.moneyBag spelling)
  totalDiscountsSet := order.discounts.map (order.moneyBag spelling)
  customer := order.customer.map (gidOf "Customer")
  lineItems := (order.lineItems.take lineItemsPerOrder).map (order.toLineItemNode spelling)

end Order

end WinBack.Orders
