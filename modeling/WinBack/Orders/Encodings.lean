import WinBack.Orders.Node
import WinBack.Library.Fallible

/-! What the repository reads in the two encodings of an order. -/

namespace WinBack.Orders

open Library

section Identifiers

variable {resource : String} {id : Nat}

/-- The digits of a global identifier. -/
def textId (id : Nat) : ShopifyId := .text (toString id)

/-- `[A-Za-z][A-Za-z0-9]*`. -/
def resourceName (resource : String) : Bool :=
  match resource.toList with
  | first :: rest => first.isAlpha && rest.all Char.isAlphanum
  | [] => false

theorem extractNumericIdFromGid_gidOf (proper : resourceName resource = true) :
    extractNumericIdFromGid (gidOf resource id) = some (toString id) := by
  have digits : ∀ char ∈ (toString id).toList, char.isDigit = true := fun _ => Numeral.isDigit_toString
  have shown : (gidOf resource id).toList = "gid://shopify/".toList ++ (resource.toList ++ '/' :: (toString id).toList) := by
    rw [gidOf, String.toList_append, String.toList_append, String.toList_append]
    simp only [List.append_assoc]
    rfl
  have slash : '/' ∉ (toString id).toList := fun listed => absurd (digits '/' listed) (by decide)
  cases named : resource.toList with
  | nil => simp [resourceName, named] at proper
  | cons first rest =>
    obtain ⟨letter, letters⟩ : first.isAlpha = true ∧ rest.all Char.isAlphanum = true := by
      simpa [resourceName, named, Bool.and_eq_true] using proper
    have clean : '/' ∉ first :: rest := by
      intro listed
      rcases List.mem_cons.mp listed with rfl | later
      · exact absurd letter (by decide)
      · exact absurd (List.all_eq_true.mp letters '/' later) (by decide)
    unfold extractNumericIdFromGid
    dsimp only
    rw [shown, List.take_left, List.drop_left, named, List.splitOn_append_cons_self_of_not_mem clean,
      List.splitOn_eq_singleton slash, if_pos rfl]
    cases number : (toString id).toList with
    | nil => exact absurd number (Numeral.toString_ne_nil id)
    | cons digit others =>
      rw [number] at digits
      have all : (digit :: others).all Char.isDigit = true := List.all_eq_true.mpr digits
      refine (if_pos (Bool.and_eq_true .. |>.mpr ⟨Bool.and_eq_true .. |>.mpr ⟨letter, letters⟩, all⟩)).trans ?_
      rw [← number, String.ofList_toList]

theorem isNumeric_toString (id : Nat) : isNumeric (toString id) = true := by
  unfold isNumeric
  rw [Bool.and_eq_true, List.all_eq_true]
  exact ⟨by simp, fun _ => Numeral.isDigit_toString⟩

theorem wrapGid_restId (resource : String) (id : Nat) : wrapGid resource (restId id) = some (gidOf resource id) :=
  if_pos (isNumeric_toString id)

theorem wrapGid_textId (resource : String) (id : Nat) : wrapGid resource (textId id) = some (gidOf resource id) :=
  if_pos (isNumeric_toString id)

theorem gidOf_injective {first second : Nat} (same : gidOf resource first = gidOf resource second) : first = second := by
  have digits : toString first = toString second := String.append_right_inj _ |>.mp same
  have number := congrArg (fun text => parseIntOrZero (some text)) digits
  simpa only [parseIntOrZero_toString, Int.natCast_inj] using number

end Identifiers

section Statuses

/-- What the store has for a status; an expired order has none. -/
def FinancialStatus.stored : FinancialStatus → Option OrderFinancialStatus
  | .authorized => some .authorized
  | .expired => none
  | .paid => some .paid
  | .partiallyPaid => some .partiallyPaid
  | .partiallyRefunded => some .partiallyRefunded
  | .pending => some .pending
  | .refunded => some .refunded
  | .voided => some .voided

/-- The adapter leaves nothing that the repository could reject. -/
theorem parseFinancialStatus_graphql (status : Option FinancialStatus) :
    OrderRepository.parseFinancialStatus (mapFinancialStatus (status.map (·.graphql))) = .ok (status.bind (·.stored)) := by
  cases status with
  | none => rfl
  | some status => cases status <;> decide

theorem parseFinancialStatus_rest {status : Option FinancialStatus} (valid : status ≠ some .expired) :
    OrderRepository.parseFinancialStatus (status.map (·.rest)) = .ok (status.bind (·.stored)) := by
  cases status with
  | none => rfl
  | some status =>
    cases status with
    | expired => exact absurd rfl valid
    | _ => decide

/-- A webhook of an expired order is refused. -/
theorem parseFinancialStatus_expired : OrderRepository.parseFinancialStatus (some FinancialStatus.expired.rest) =
    .error (.validation "Unknown Shopify financial_status: \"expired\"" "order.invalid_financial_status"
      [("received", "expired")]) := by
  decide

def Fulfillment.viaWebhook (fulfillment : Fulfillment) : Option OrderFulfillmentStatus :=
  parseFulfillmentStatus fulfillment.rest

def Fulfillment.viaBackfill (fulfillment : Fulfillment) : Option OrderFulfillmentStatus :=
  parseFulfillmentStatus (mapFulfillmentStatus (some fulfillment.graphql))

theorem mapFulfillmentStatus_underway (display : Underway) : mapFulfillmentStatus (some display.graphql) = none := by
  cases display <;> decide

/-- REST calls an order partly fulfilled or nothing at all where GraphQL displays something else. -/
theorem fulfillment_agrees (fulfillment : Fulfillment) : fulfillment.viaWebhook = fulfillment.viaBackfill ↔
    fulfillment ≠ .unfulfilled ∧ ∀ display, fulfillment ≠ .underway display true := by
  cases fulfillment with
  | underway display begun =>
    have shown : Fulfillment.viaBackfill (.underway display begun) = none :=
      congrArg parseFulfillmentStatus (mapFulfillmentStatus_underway display)
    have partially : parseFulfillmentStatus (some "partial") = some .partially := by decide
    rw [shown]
    cases begun with
    | false => simp [Fulfillment.viaWebhook, Fulfillment.rest, parseFulfillmentStatus]
    | true => simp [Fulfillment.viaWebhook, Fulfillment.rest, partially]
  | unfulfilled =>
    have shown : Fulfillment.viaBackfill .unfulfilled = some .unfulfilled := by decide
    simp [shown, Fulfillment.viaWebhook, Fulfillment.rest, parseFulfillmentStatus]
  | fulfilled | partially | restocked => exact iff_of_true (by decide) (by simp)

end Statuses

section Columns

variable (merchantId : MerchantId) (order : ShopifyOrder) (store : Store) (spelling : Spelling)

/-- The columns of an order, but for the fulfillment, which the encodings may read apart. -/
def ShopifyOrder.columns (fulfillmentStatus : Option OrderFulfillmentStatus) : SharedFields where
  shopifyOrderNumber := order.name
  isTest := order.test
  financialStatus := order.financialStatus.bind (·.stored)
  fulfillmentStatus
  customerId := resolveCustomerFk merchantId (order.customer.map restId) store
  currency := order.currency
  presentmentCurrency := order.presentmentCurrency
  subtotalAmountCents := order.subtotal.shop
  totalAmountCents := order.total.shop
  totalTaxCents := (order.tax.map (·.shop)).getD 0
  totalDiscountCents := (order.discounts.map (·.shop)).getD 0
  presentmentTotalCents := order.presentmentCurrency.map fun _ => order.total.presentment
  placedAt := order.createdAt
  cancelledAt := order.cancelledAt
  shopifyProcessedAt := order.processedAt
  shopifyUpdatedAt := some order.updatedAt

def LineItem.columns (lineItem : LineItem) (currency : String) : LineItemFields where
  productId := (lineItem.product.map restId).bind (productFk merchantId store)
  productVariantId := (lineItem.variant.map restId).bind (variantFk merchantId store)
  title := lineItem.title
  quantity := lineItem.quantity
  unitPriceCents := lineItem.unitPrice.shop
  currency

def ShopifyOrder.adaptedLineItem (lineItem : LineItem) : ShopifyOrderLineItem where
  id := textId lineItem.id
  productId := lineItem.product.map textId
  variantId := lineItem.variant.map textId
  title := lineItem.title
  quantity := lineItem.quantity
  priceSet := order.moneySet spelling lineItem.unitPrice

/-- The body that the adapter makes of a node. -/
def ShopifyOrder.adapted : ShopifyOrderWebhookBody := { order.toWebhookBody spelling with
  id := textId order.id
  financialStatus := mapFinancialStatus (order.financialStatus.map (·.graphql))
  fulfillmentStatus := mapFulfillmentStatus (some order.fulfillment.graphql)
  customer := order.customer.map textId
  lineItems := (order.lineItems.take lineItemsPerOrder).map (order.adaptedLineItem spelling) }

variable {merchantId order store spelling}

theorem bind_extract {id : Option Nat} {resource : String} (proper : resourceName resource = true) :
    (id.map (gidOf resource)).bind extractNumericIdFromGid = id.map toString := by
  cases id with
  | none => rfl
  | some id => exact extractNumericIdFromGid_gidOf proper

theorem mapLineItem_toLineItemNode (lineItem : LineItem) :
    mapLineItem (order.toLineItemNode spelling lineItem) = some (order.adaptedLineItem spelling lineItem) := by
  have id := @extractNumericIdFromGid_gidOf "LineItem" lineItem.id (by decide)
  have product := @bind_extract lineItem.product "Product" (by decide)
  have variant := @bind_extract lineItem.variant "ProductVariant" (by decide)
  simp only [mapLineItem, ShopifyOrder.toLineItemNode, id, product, variant, Option.map_map]
  rfl

theorem mapOrderNodeToWebhookBody_toNode :
    mapOrderNodeToWebhookBody (order.toNode spelling) = some (order.adapted spelling) := by
  have id := @extractNumericIdFromGid_gidOf "Order" order.id (by decide)
  have customer := @bind_extract order.customer "Customer" (by decide)
  simp only [mapOrderNodeToWebhookBody, ShopifyOrder.toNode, id, customer, Option.map_map, List.filterMap_map,
    Function.comp_def, mapLineItem_toLineItemNode, List.filterMap_eq_map']
  rfl

theorem resolveCustomerFk_text (customer : Option Nat) :
    resolveCustomerFk merchantId (customer.map textId) store =
      resolveCustomerFk merchantId (customer.map restId) store := by
  cases customer with
  | none => rfl
  | some id =>
    simp only [resolveCustomerFk, Option.map_some, toShopifyCustomerGid, wrapGid_textId, wrapGid_restId, Option.bind_eq_bind,
      Option.bind_some]

theorem productFk_text (product : Option Nat) :
    (product.map textId).bind (productFk merchantId store) =
      (product.map restId).bind (productFk merchantId store) := by
  cases product with
  | none => rfl
  | some id =>
    simp only [productFk, Option.map_some, toShopifyProductGid, wrapGid_textId, wrapGid_restId, Option.bind_eq_bind,
      Option.bind_some]

theorem variantFk_text (variant : Option Nat) :
    (variant.map textId).bind (variantFk merchantId store) =
      (variant.map restId).bind (variantFk merchantId store) := by
  cases variant with
  | none => rfl
  | some id =>
    simp only [variantFk, Option.map_some, toShopifyVariantGid, wrapGid_textId, wrapGid_restId, Option.bind_eq_bind,
      Option.bind_some]

theorem moneyOrZero_set (amount : Option Money) :
    moneyOrZero (amount.map (order.moneySet spelling)) = .ok ((amount.map (·.shop)).getD 0) := by
  cases amount with
  | none => rfl
  | some amount => exact parseMoneyToCents_amount spelling amount.shop

theorem presentmentTotal_toWebhookBody : presentmentTotal (order.toWebhookBody spelling) =
    .ok (order.presentmentCurrency.map fun _ => order.total.presentment) := by
  unfold presentmentTotal ShopifyOrder.toWebhookBody
  cases order.presentmentCurrency with
  | none => rfl
  | some currency => exact congrArg (Except.map some) (parseMoneyToCents_amount spelling order.total.presentment)

theorem sharedFields_toWebhookBody (valid : order.financialStatus ≠ some .expired) :
    sharedFields merchantId (order.toWebhookBody spelling) store =
      .ok (order.columns merchantId store order.fulfillment.viaWebhook) := by
  unfold sharedFields
  rw [presentmentTotal_toWebhookBody]
  simp only [ShopifyOrder.toWebhookBody, parseFinancialStatus_rest valid, ShopifyOrder.moneySet, ShopifyOrder.money,
    parseMoneyToCents_amount, moneyOrZero_set]
  rfl

theorem sharedFields_expired (expired : order.financialStatus = some .expired) :
    sharedFields merchantId (order.toWebhookBody spelling) store =
      .error (.validation "Unknown Shopify financial_status: \"expired\"" "order.invalid_financial_status"
        [("received", "expired")]) := by
  unfold sharedFields
  simp only [ShopifyOrder.toWebhookBody, expired, Option.map_some, parseFinancialStatus_expired]
  rfl

theorem sharedFields_adapted : sharedFields merchantId (order.adapted spelling) store =
    .ok (order.columns merchantId store order.fulfillment.viaBackfill) := by
  have presentment : presentmentTotal (order.adapted spelling) =
      .ok (order.presentmentCurrency.map fun _ => order.total.presentment) := presentmentTotal_toWebhookBody
  unfold sharedFields
  rw [presentment]
  simp only [ShopifyOrder.adapted, ShopifyOrder.toWebhookBody, parseFinancialStatus_graphql, ShopifyOrder.moneySet,
    ShopifyOrder.money, parseMoneyToCents_amount, moneyOrZero_set, resolveCustomerFk_text]
  rfl

end Columns

end WinBack.Orders
