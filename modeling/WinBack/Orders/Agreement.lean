import Mathlib.Data.List.Nodup
import WinBack.Orders.Encodings
import WinBack.Orders.Writes

/-! Whether the two ways of ingesting an order leave the same rows. -/

namespace WinBack.Orders

open Library WinBack.Orders.OrderRepository

section Upsert

variable {merchantId : MerchantId} {gid : String} {fields : SharedFields} {ids : NewIds} {now : Date} {store : Store}
  {writes : List LineItemWrite}

/-- An upsert once its body is read. -/
def upsertRead (merchantId : MerchantId) (gid : String) (fields : SharedFields) (writes : List LineItemWrite) (newId : String)
    (now : Date) (store : Store) : Except RepositoryError Store := do
  let (orderId, placed) ← place merchantId gid fields newId now store
  placeAll merchantId orderId now writes placed

/-- What an upsert does depends on what is read of the body alone. -/
theorem upsertFromWebhook_read {body : ShopifyOrderWebhookBody} (wrapped : toShopifyOrderGid body.id = some gid)
    (read : sharedFields merchantId body store = .ok fields)
    (items : List.Forall₂ (Reads merchantId body.currency store) (ids.zip body.lineItems) writes) :
    (upsertFromWebhook merchantId body ids now store).map Prod.snd = upsertRead merchantId gid fields writes ids.order now store := by
  simp only [upsertFromWebhook, wrapped, read, upsertRead, bind, Except.bind]
  cases placed : place merchantId gid fields ids.order now store with
  | error error => rfl
  | ok result =>
    obtain ⟨orderId, next⟩ := result
    have kept := (place_eq placed).1
    have same : placeLineItems merchantId orderId body.currency now (ids.zip body.lineItems) next =
        placeAll merchantId orderId now writes next :=
      placeLineItems_eq (items.imp fun lineItem write read => by rwa [Reads, lineItemFields_congr lineItem.1 (by rw [kept])])
    dsimp only
    rw [same]
    cases placeAll merchantId orderId now writes next <;> rfl

end Upsert

section Order

variable {merchantId : MerchantId} {order : ShopifyOrder} {spelling rest graphql : Spelling} {ids : NewIds} {now : Date}
  {store : Store}

def ShopifyOrder.writes (merchantId : MerchantId) (order : ShopifyOrder) (ids : NewIds) (store : Store) : List LineItemWrite :=
  order.lineItems.zipIdx.map fun (lineItem, index) =>
    ⟨gidOf "LineItem" lineItem.id, lineItem.columns merchantId store order.currency, ids.lineItem index⟩

theorem lineItemFields_toBodyLineItem (lineItem : LineItem) :
    lineItemFields merchantId order.currency (order.toBodyLineItem spelling lineItem) store =
      .ok (lineItem.columns merchantId store order.currency) := by
  simp only [lineItemFields, ShopifyOrder.toBodyLineItem, ShopifyOrder.moneySet, ShopifyOrder.money, parseMoneyToCents_amount]
  rfl

theorem lineItemFields_adaptedLineItem (lineItem : LineItem) :
    lineItemFields merchantId order.currency (order.adaptedLineItem spelling lineItem) store =
      .ok (lineItem.columns merchantId store order.currency) := by
  simp only [lineItemFields, ShopifyOrder.adaptedLineItem, ShopifyOrder.moneySet, ShopifyOrder.money, parseMoneyToCents_amount,
    productFk_text, variantFk_text]
  rfl

/-- Line items are read one by one, each with the id of its place. -/
theorem zip_read {encode : LineItem → ShopifyOrderLineItem}
    (wrapped : ∀ lineItem : LineItem, toShopifyLineItemGid (encode lineItem).id = some (gidOf "LineItem" lineItem.id))
    (read : ∀ lineItem : LineItem, lineItemFields merchantId order.currency (encode lineItem) store =
      .ok (lineItem.columns merchantId store order.currency)) :
    List.Forall₂ (Reads merchantId order.currency store) (ids.zip (order.lineItems.map encode))
      (order.writes merchantId ids store) := by
  unfold NewIds.zip ShopifyOrder.writes
  rw [List.zipIdx_map, List.map_map, List.forall₂_map_left_iff, List.forall₂_map_right_iff, List.forall₂_same]
  exact fun item _ => ⟨wrapped item.1, read item.1, rfl⟩

theorem webhook_read (valid : order.financialStatus ≠ some .expired) :
    (upsertFromWebhook merchantId (order.toWebhookBody spelling) ids now store).map Prod.snd =
      upsertRead merchantId (gidOf "Order" order.id) (order.columns merchantId store order.fulfillment.viaWebhook)
        (order.writes merchantId ids store) ids.order now store := by
  exact upsertFromWebhook_read (wrapGid_restId _ _) (sharedFields_toWebhookBody valid)
    (zip_read (fun _ => wrapGid_restId _ _) lineItemFields_toBodyLineItem)

theorem adapted_read (few : order.lineItems.length ≤ lineItemsPerOrder) :
    (upsertFromWebhook merchantId (order.adapted spelling) ids now store).map Prod.snd =
      upsertRead merchantId (gidOf "Order" order.id) (order.columns merchantId store order.fulfillment.viaBackfill)
        (order.writes merchantId ids store) ids.order now store := by
  have whole : (order.adapted spelling).lineItems = order.lineItems.map (order.adaptedLineItem spelling) :=
    congrArg (List.map _) (List.take_of_length_le few)
  refine upsertFromWebhook_read (wrapGid_textId _ _) sharedFields_adapted ?_
  rw [whole]
  exact zip_read (fun _ => wrapGid_textId _ _) lineItemFields_adaptedLineItem

/-- A page of one order. -/
def backfilled (merchantId : MerchantId) (now : Date) (order : ShopifyOrder) (spelling : Spelling) (ids : NewIds)
    (store : Store) : Except RepositoryError Store :=
  processItems merchantId now [(order.toNode spelling, ids)] store

theorem backfilled_read (few : order.lineItems.length ≤ lineItemsPerOrder) :
    backfilled merchantId now order spelling ids store =
      upsertRead merchantId (gidOf "Order" order.id) (order.columns merchantId store order.fulfillment.viaBackfill)
        (order.writes merchantId ids store) ids.order now store := by
  have quantities : shopifyOrderWebhookBodySchema (order.adapted spelling) = .ok (order.adapted spelling) := by
    refine if_pos (List.all_eq_true.mpr fun lineItem listed => ?_)
    obtain ⟨item, _, rfl⟩ := List.mem_map.mp listed
    exact decide_eq_true (Int.natCast_nonneg item.quantity)
  have read : (upsertFromWebhook merchantId (order.adapted spelling) ids now store).map Prod.snd = _ := adapted_read few
  rw [← read, backfilled, processItems, mapOrderNodeToWebhookBody_toNode]
  simp only [quantities, bind, Except.bind, processItems]
  cases upsertFromWebhook merchantId (order.adapted spelling) ids now store <;> rfl

end Order

section Agreement

variable {merchantId : MerchantId} {order : ShopifyOrder} {rest graphql : Spelling} {ids : NewIds} {now : Date} {store : Store}

/-- The rows that processing leaves; one that throws is rolled back. -/
def rowsAfter (store : Store) : Except RepositoryError Store → Table Order × Table OrderLineItem
  | .ok after => (after.orders, after.orderLineItems)
  | .error _ => (store.orders, store.orderLineItems)

/-- No row has a new id. -/
structure Fresh (ids : NewIds) (store : Store) : Prop where
  order : ∀ row ∈ store.orders.rows, row.id ≠ ids.order
  lineItem : ∀ row ∈ store.orderLineItems.rows, ∀ index, row.id ≠ ids.lineItem index
  injective : Function.Injective ids.lineItem

/-- The rows are those that a backfill of the order would leave. -/
def AsBackfilled (merchantId : MerchantId) (order : ShopifyOrder) (store : Store) : Prop :=
  ∃ row, store.orders.find? (named merchantId (gidOf "Order" order.id)) = some row ∧
    row.toSharedFields = order.columns merchantId store order.fulfillment.viaBackfill ∧
    ∀ lineItem ∈ order.lineItems, itemOf merchantId row.id (gidOf "LineItem" lineItem.id) store =
      some (lineItem.columns merchantId store order.currency)

theorem writes_distinct : ((order.writes merchantId ids store).map (·.gid)).Nodup := by
  have gids : (order.writes merchantId ids store).map (·.gid) = order.lineItems.map fun lineItem => gidOf "LineItem" lineItem.id := by
    unfold ShopifyOrder.writes
    conv_rhs => rw [← List.zipIdx_map_fst 0 order.lineItems]
    rw [List.map_map, List.map_map]
    rfl
  have injective : Function.Injective (gidOf "LineItem") := fun _ _ => gidOf_injective
  have distinct := (List.nodup_map_iff injective).mpr order.distinct
  rw [List.map_map] at distinct
  rw [gids]
  exact distinct

theorem writes_fresh (fresh : Fresh ids store) : ((order.writes merchantId ids store).map (·.newId)).Nodup := by
  have indexes : (order.writes merchantId ids store).map (·.newId) = (List.range' 0 order.lineItems.length).map ids.lineItem := by
    unfold ShopifyOrder.writes
    rw [List.map_map, ← List.zipIdx_map_snd 0 order.lineItems, List.map_map]
    rfl
  rw [indexes]
  exact (List.nodup_map_iff fresh.injective).mpr List.nodup_range'

theorem mem_writes {write : LineItemWrite} : write ∈ order.writes merchantId ids store ↔
    ∃ index lineItem, order.lineItems[index]? = some lineItem ∧
      write = ⟨gidOf "LineItem" lineItem.id, lineItem.columns merchantId store order.currency, ids.lineItem index⟩ := by
  unfold ShopifyOrder.writes
  rw [List.mem_map]
  constructor
  · rintro ⟨⟨lineItem, index⟩, listed, rfl⟩
    exact ⟨index, lineItem, List.mem_zipIdx_iff_getElem?.mp listed, rfl⟩
  · rintro ⟨index, lineItem, found, rfl⟩
    exact ⟨(lineItem, index), List.mem_zipIdx_iff_getElem?.mpr found, rfl⟩

/-- An upsert that is read goes through for a merchant that is there. -/
theorem upsertRead_ok {gid : String} {fields : SharedFields} (merchant : store.merchants.any (·.id == merchantId) = true)
    (fresh : Fresh ids store) : ∃ orderId placed after,
      place merchantId gid fields ids.order now store = .ok (orderId, placed) ∧
      placeAll merchantId orderId now (order.writes merchantId ids store) placed = .ok after ∧
      upsertRead merchantId gid fields (order.writes merchantId ids store) ids.order now store = .ok after := by
  obtain ⟨⟨orderId, placed⟩, first⟩ := @place_ok merchantId gid ids.order fields now store merchant fresh.order
  have unused : ∀ write ∈ order.writes merchantId ids store, ∀ row ∈ placed.orderLineItems.rows, row.id ≠ write.newId := by
    intro write listed row stored
    obtain ⟨index, lineItem, _, rfl⟩ := mem_writes.mp listed
    rw [(place_eq first).1] at stored
    exact fresh.lineItem row stored index
  obtain ⟨after, later⟩ := @placeAll_ok merchantId orderId now placed _ unused (writes_fresh fresh)
  exact ⟨orderId, placed, after, first, later, bind_eq_ok_iff.mpr ⟨_, first, later⟩⟩

theorem placeAll_orders {orderId : String} {writes : List LineItemWrite} {after : Store}
    (placed : placeAll merchantId orderId now writes store = .ok after) : after.orders = store.orders := by
  induction writes generalizing store with
  | nil =>
    cases placed
    rfl
  | cons write rest ih =>
    obtain ⟨between, first, later⟩ := bind_eq_ok_iff.mp placed
    rw [ih later, placeLineItem_eq first]

/-- A backfill leaves the rows alone exactly when they are as it would leave them. -/
theorem backfilled_same_iff (few : order.lineItems.length ≤ lineItemsPerOrder)
    (merchant : store.merchants.any (·.id == merchantId) = true) (fresh : Fresh ids store) :
    (store.orders, store.orderLineItems) = rowsAfter store (backfilled merchantId now order graphql ids store) ↔
      AsBackfilled merchantId order store := by
  obtain ⟨orderId, placed, after, first, later, whole⟩ := @upsertRead_ok merchantId order ids now store
    (gidOf "Order" order.id) (order.columns merchantId store order.fulfillment.viaBackfill) merchant fresh
  obtain ⟨kept, _, named⟩ := place_eq first
  have items : placed.orderLineItems = store.orderLineItems := by rw [kept]
  have stored (gid : String) : itemOf merchantId orderId gid placed = itemOf merchantId orderId gid store := by
    rw [itemOf, items, itemOf]
  have lines : store.orderLineItems = after.orderLineItems ↔ ∀ lineItem ∈ order.lineItems,
      itemOf merchantId orderId (gidOf "LineItem" lineItem.id) store = some (lineItem.columns merchantId store order.currency) := by
    rw [← items, eq_comm, placeAll_same_iff writes_distinct later]
    constructor
    · intro same lineItem listed
      obtain ⟨index, found⟩ := List.getElem?_of_mem listed
      rw [← stored]
      exact same _ (mem_writes.mpr ⟨index, lineItem, found, rfl⟩)
    · intro same write listed
      obtain ⟨index, lineItem, found, rfl⟩ := mem_writes.mp listed
      rw [stored]
      exact same lineItem (List.mem_of_getElem? found)
  rw [backfilled_read few, whole, rowsAfter, Prod.mk.injEq, lines, placeAll_orders later, eq_comm, place_same_iff first,
    AsBackfilled]
  constructor
  · rintro ⟨⟨row, found, columns⟩, same⟩
    rw [found] at named
    exact ⟨row, found, columns, named ▸ same⟩
  · rintro ⟨row, found, columns, same⟩
    rw [found] at named
    exact ⟨⟨row, found, columns⟩, named ▸ same⟩

/-- When the two ways leave the same rows. -/
def IngestsAlike (merchantId : MerchantId) (order : ShopifyOrder) (store : Store) : Prop :=
  if order.financialStatus = some .expired then AsBackfilled merchantId order store
  else order.fulfillment ≠ .unfulfilled ∧ ∀ display, order.fulfillment ≠ .underway display true

/-- Whatever is stored, and however the amounts are spelled: a webhook and a backfill leave the same rows
of an order exactly when both encodings say the same of its fulfillment, or, for an expired order, when
the backfill has nothing to change. -/
theorem order_ingestion_agrees (few : order.lineItems.length ≤ lineItemsPerOrder)
    (merchant : store.merchants.any (·.id == merchantId) = true) (fresh : Fresh ids store) :
    rowsAfter store ((upsertFromWebhook merchantId (order.toWebhookBody rest) ids now store).map Prod.snd) =
        rowsAfter store (backfilled merchantId now order graphql ids store) ↔
      IngestsAlike merchantId order store := by
  unfold IngestsAlike
  split
  · rename_i expired
    have refused : (upsertFromWebhook merchantId (order.toWebhookBody rest) ids now store).map Prod.snd =
        .error (.validation "Unknown Shopify financial_status: \"expired\"" "order.invalid_financial_status"
          [("received", "expired")]) := by
      have wrapped : toShopifyOrderGid (order.toWebhookBody rest).id = some (gidOf "Order" order.id) := wrapGid_restId _ _
      simp only [upsertFromWebhook, wrapped, sharedFields_expired expired]
      rfl
    rw [refused]
    exact backfilled_same_iff few merchant fresh
  · rename_i valid
    rw [webhook_read valid, ← fulfillment_agrees]
    constructor
    · intro same
      obtain ⟨orderId, placed, after, first, later, whole⟩ := @upsertRead_ok merchantId order ids now store
        (gidOf "Order" order.id) (order.columns merchantId store order.fulfillment.viaWebhook) merchant fresh
      obtain ⟨otherId, other, final, second, rest, backfill⟩ := @upsertRead_ok merchantId order ids now store
        (gidOf "Order" order.id) (order.columns merchantId store order.fulfillment.viaBackfill) merchant fresh
      rw [whole, backfilled_read few, backfill] at same
      have orders : placed.orders = other.orders := by
        rw [← placeAll_orders later, ← placeAll_orders rest]
        exact congrArg Prod.fst same
      have rows := (place_eq first).2.1
      rw [orders, (place_eq second).2.1] at rows
      have columns := congrArg (fun row : Option Order => row.map (·.toSharedFields)) rows
      simp only [Option.map_some, written_fields, Option.some.injEq] at columns
      exact (congrArg SharedFields.fulfillmentStatus columns).symm
    · intro same
      rw [same, backfilled_read few]

end Agreement

section Samples

def sampleStore : Store where
  merchants := .single { id := "m", shop := "shop.myshopify.com" }

def sampleIds : NewIds := ⟨"o", fun index => "l" ++ toString index⟩

/-- The payment of an order never came. -/
def expiredOrder : ShopifyOrder where
  id := 1
  financialStatus := some .expired
  fulfillment := .fulfilled
  createdAt := 1
  updatedAt := 2
  lineItems := [{ id := 1, unitPrice := ⟨1095, 1095⟩ }]

/-- A paid order waits to be shipped. -/
def unshippedOrder : ShopifyOrder := { expiredOrder with financialStatus := some .paid, fulfillment := .unfulfilled }

def shippedOrder : ShopifyOrder := { expiredOrder with financialStatus := some .paid }

def sampleRows (order : ShopifyOrder) : (Table Order × Table OrderLineItem) × (Table Order × Table OrderLineItem) :=
  (rowsAfter sampleStore ((upsertFromWebhook "m" (order.toWebhookBody .hundredths) sampleIds 5 sampleStore).map Prod.snd),
    rowsAfter sampleStore (backfilled "m" 5 order .tenths sampleIds sampleStore))

/-- A webhook refuses the expired order that a backfill stores; and it leaves out the fulfillment that a
backfill stores of an order that nothing has been shipped of. -/
theorem order_ingestion_differs :
    ¬(∀ order : ShopifyOrder, order.lineItems.length ≤ lineItemsPerOrder → (sampleRows order).1 = (sampleRows order).2) ∧
      ¬∀ order : ShopifyOrder, order.lineItems.length ≤ lineItemsPerOrder → order.financialStatus ≠ some .expired →
        (sampleRows order).1 = (sampleRows order).2 := by
  constructor
  · intro claim
    have differs : (sampleRows expiredOrder).1.1.rows ≠ (sampleRows expiredOrder).2.1.rows := by decide
    exact differs (congrArg (fun rows : Table Order × Table OrderLineItem => rows.1.rows) (claim expiredOrder (by decide)))
  · intro claim
    have differs : (sampleRows unshippedOrder).1.1.rows ≠ (sampleRows unshippedOrder).2.1.rows := by decide
    exact differs (congrArg (fun rows : Table Order × Table OrderLineItem => rows.1.rows)
      (claim unshippedOrder (by decide) (by decide)))

theorem sampleStore_fresh : Fresh sampleIds sampleStore where
  order _ listed := absurd listed List.not_mem_nil
  lineItem _ listed := absurd listed List.not_mem_nil
  injective first second same := by
    have digits : toString first = toString second := String.append_right_inj _ |>.mp same
    have number := congrArg (fun text => parseIntOrZero (some text)) digits
    simpa only [parseIntOrZero_toString, Int.natCast_inj] using number

theorem order_ingestion_agrees_shipped : (sampleRows shippedOrder).1 = (sampleRows shippedOrder).2 := by
  have agrees := @order_ingestion_agrees "m" shippedOrder .hundredths .tenths sampleIds 5 sampleStore (by decide)
    (by decide) sampleStore_fresh
  rw [IngestsAlike, if_neg (by decide)] at agrees
  exact agrees.mpr ⟨by decide, nofun⟩

end Samples

end WinBack.Orders
