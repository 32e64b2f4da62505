import WinBack.Orders.Writes

/-! The coarse order repository, which the scoring reads, is what is left of this one when the other
columns and the line items are forgotten. -/

namespace WinBack.Orders

open Library WinBack.Orders.OrderRepository

def Order.coarse (row : Order) : WinBack.Order where
  id := row.id
  merchantId := row.merchantId
  customerId := row.customerId
  shopifyOrderId := row.shopifyOrderId
  totalAmountCents := row.totalAmountCents
  financialStatus := row.financialStatus
  isTest := row.isTest
  placedAt := row.placedAt
  shopifyProcessedAt := row.shopifyProcessedAt

/-- The total comes parsed. -/
def ShopifyOrderWebhookBody.coarse (body : ShopifyOrderWebhookBody) (totalAmountCents : Nat) :
    WinBack.ShopifyOrderWebhookBody where
  id := body.id
  customer := body.customer
  test := body.test
  financialStatus := body.financialStatus
  totalAmountCents
  createdAt := body.createdAt
  processedAt := body.processedAt

/-- The tables of the coarse model are those of this one, row by row. -/
structure Coarse (store : Store) (db : Db) : Prop where
  merchants : db.merchants = store.merchants
  customers : db.customers = store.customers
  orders : db.orders.rows = store.orders.rows.map Order.coarse

variable {merchantId : MerchantId} {gid : String} {body : ShopifyOrderWebhookBody} {fields : SharedFields} {ids : NewIds}
  {newId orderId : String} {now : Date} {store after : Store} {db : Db}

theorem Coarse.find? (coarse : Coarse store db) : db.orders.find? (WinBack.OrderRepository.named merchantId gid) =
    (store.orders.find? (named merchantId gid)).map Order.coarse := by
  rw [Table.find?, coarse.orders, List.find?_map]
  rfl

theorem Coarse.resolveCustomerFk (coarse : Coarse store db) : WinBack.OrderRepository.resolveCustomerFk merchantId
    (body.coarse fields.totalAmountCents) db = resolveCustomerFk merchantId body.customer store := by
  unfold WinBack.OrderRepository.resolveCustomerFk Orders.resolveCustomerFk CustomerRepository.findByShopifyId
  rw [coarse.customers]
  rfl

/-- What is read of a body, as far as the coarse columns go. -/
theorem sharedFields_coarse (read : sharedFields merchantId body store = .ok fields) :
    parseFinancialStatus body.financialStatus = .ok fields.financialStatus ∧
      fields.customerId = Orders.resolveCustomerFk merchantId body.customer store ∧
      ∀ row : Order, (fields.apply row).coarse = WinBack.OrderRepository.write (body.coarse fields.totalAmountCents)
        fields.financialStatus fields.customerId row.coarse := by
  unfold sharedFields at read
  obtain ⟨_, status, read⟩ := bind_eq_ok_iff.mp read
  obtain ⟨_, _, read⟩ := bind_eq_ok_iff.mp read
  obtain ⟨_, _, read⟩ := bind_eq_ok_iff.mp read
  obtain ⟨_, _, read⟩ := bind_eq_ok_iff.mp read
  obtain ⟨_, _, read⟩ := bind_eq_ok_iff.mp read
  obtain ⟨_, _, read⟩ := bind_eq_ok_iff.mp read
  cases read
  exact ⟨status, rfl, fun _ => rfl⟩

/-- An order that is not stored yet. -/
theorem coarse_place_new {order : WinBack.Order} {status : Option OrderFinancialStatus} {customerId : Option CustomerId}
    {coarseBody : WinBack.ShopifyOrderWebhookBody} {orders : Table WinBack.Order}
    (absent : db.orders.find? (WinBack.OrderRepository.named merchantId gid) = none)
    (row : WinBack.OrderRepository.write coarseBody status customerId
      { id := newId, merchantId, shopifyOrderId := gid, customerId, placedAt := coarseBody.createdAt } = order)
    (fitted : db.orders.insert? order = some orders) (merchant : db.merchants.any (·.id == merchantId) = true) :
    WinBack.OrderRepository.place merchantId gid coarseBody status customerId newId db = .ok (newId, { db with orders }) := by
  unfold WinBack.OrderRepository.place
  rw [absent]
  dsimp only
  rw [row, fitted]
  exact if_pos merchant

/-- The coarse upsert of the order follows the full one. -/
theorem place_coarse (coarse : Coarse store db) (read : sharedFields merchantId body store = .ok fields)
    (placed : place merchantId gid fields newId now store = .ok (orderId, after)) :
    ∃ next, WinBack.OrderRepository.place merchantId gid (body.coarse fields.totalAmountCents) fields.financialStatus
      fields.customerId newId db = .ok (orderId, next) ∧ Coarse after next := by
  obtain ⟨_, _, columns⟩ := sharedFields_coarse read
  have same := @coarse.find? merchantId gid
  unfold place at placed
  cases found : store.orders.find? (named merchantId gid) with
  | some stored =>
    rw [found] at placed same
    cases placed
    unfold WinBack.OrderRepository.place
    rw [same]
    refine ⟨_, rfl, coarse.merchants, coarse.customers, ?_⟩
    change db.orders.rows.map (fun row => if WinBack.OrderRepository.named merchantId gid row then _ else row) =
      (store.orders.rows.map fun row => if named merchantId gid row then fields.apply row else row).map Order.coarse
    rw [coarse.orders, List.map_map, List.map_map]
    refine List.map_congr_left fun row _ => ?_
    rw [Function.comp_apply, Function.comp_apply]
    change (if named merchantId gid row then _ else _) = _
    split
    · exact (columns row).symm
    · rfl
  | none =>
    rw [found] at placed
    dsimp only at placed
    split at placed
    · cases placed
    · rename_i orders inserted
      split at placed
      · rename_i merchant
        cases placed
        obtain ⟨rows, free⟩ := Table.insert?_rows inserted
        have row : WinBack.OrderRepository.write (body.coarse fields.totalAmountCents) fields.financialStatus fields.customerId
            { id := newId, merchantId, shopifyOrderId := gid, customerId := fields.customerId, placedAt := body.createdAt } =
            Order.coarse { fields with id := newId, merchantId, shopifyOrderId := gid, createdAt := now } :=
          (columns { fields with id := newId, merchantId, shopifyOrderId := gid, createdAt := now }).symm
        have fits : ∃ next, db.orders.insert? (Order.coarse { fields with
            id := newId, merchantId, shopifyOrderId := gid, createdAt := now }) = some next := by
          cases refused : db.orders.insert? (Order.coarse { fields with
            id := newId, merchantId, shopifyOrderId := gid, createdAt := now }) with
          | some next => exact ⟨next, rfl⟩
          | none =>
            obtain ⟨taken, stored, clash⟩ := Table.insert?_none refused
            rw [coarse.orders] at stored
            obtain ⟨old, listed, rfl⟩ := List.mem_map.mp stored
            exact absurd (free old listed) (Bool.not_eq_false _ ▸ clash)
        obtain ⟨next, fitted⟩ := fits
        rw [found] at same
        rw [← coarse.merchants] at merchant
        refine ⟨_, coarse_place_new same row fitted merchant, coarse.merchants, coarse.customers, ?_⟩
        dsimp only
        rw [(Table.insert?_rows fitted).1, rows, coarse.orders, List.map_append, List.map_singleton]
      · cases placed

/-- Whatever the full upsert does to the orders, the coarse one does to what the scoring sees of them. -/
theorem upsertFromWebhook_coarse {result : UpsertResult} (coarse : Coarse store db)
    (done : upsertFromWebhook merchantId body ids now store = .ok (result, after)) :
    ∃ totalAmountCents next, WinBack.OrderRepository.upsertFromWebhook merchantId (body.coarse totalAmountCents) ids.order db =
      .ok (result, next) ∧ Coarse after next := by
  unfold upsertFromWebhook at done
  split at done
  · cases done
  · rename_i gid wrapped
    obtain ⟨fields, read, done⟩ := bind_eq_ok_iff.mp done
    obtain ⟨⟨orderId, placed⟩, first, done⟩ := bind_eq_ok_iff.mp done
    obtain ⟨final, later, done⟩ := bind_eq_ok_iff.mp done
    obtain ⟨parsed, customer, _⟩ := sharedFields_coarse read
    obtain ⟨next, upserted, reached⟩ := place_coarse coarse read first
    cases done
    have still : Coarse after next := by
      rw [placeLineItems_frame later]
      exact ⟨reached.merchants, reached.customers, reached.orders⟩
    refine ⟨fields.totalAmountCents, next, ?_, still⟩
    have resolved := @Coarse.resolveCustomerFk merchantId body fields store db coarse
    have wrapped : toShopifyOrderGid (body.coarse fields.totalAmountCents).id = some gid := wrapped
    have parsed : parseFinancialStatus (body.coarse fields.totalAmountCents).financialStatus = .ok fields.financialStatus := parsed
    rw [customer] at upserted ⊢
    unfold WinBack.OrderRepository.upsertFromWebhook WinBack.OrderRepository.place at *
    rw [wrapped]
    dsimp only
    rw [parsed, resolved, coarse.find?]
    rw [coarse.find?] at upserted
    cases found : store.orders.find? (named merchantId gid) with
    | some stored =>
      rw [found] at upserted
      cases upserted
      rfl
    | none =>
      rw [found] at upserted
      dsimp only [Option.map_none] at upserted ⊢
      split at upserted
      · cases upserted
      · rename_i orders inserted
        split at upserted
        · rename_i merchant
          cases upserted
          exact if_pos merchant
        · cases upserted

end WinBack.Orders
