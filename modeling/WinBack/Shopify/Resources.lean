import WinBack.Orders.Node
import WinBack.Orders.Writes
import WinBack.Shopify.Backfill
import WinBack.Shopify.Reruns

/-! The two resources that are backfilled, customers and orders, and the rows that their pages write. -/

namespace WinBack.Runner

open Library

/-- `BACKFILL_RESOURCES`. -/
inductive Resource where
  | customers | orders
  deriving DecidableEq, Repr

namespace Resource

def text : Resource → String
  | .customers => "customers"
  | .orders => "orders"

@[reducible] def Item : Resource → Type
  | .customers => ShopifyCustomerNode
  | .orders => Orders.ShopifyOrderNode

@[reducible] def Tables : Resource → Type
  | .customers => Db
  | .orders => Orders.Store

/-- New ids for the items of a page, and the clock. -/
@[reducible] def Seed : Resource → Type
  | .customers => (Nat → CustomerId) × Date
  | .orders => (Nat → Orders.OrderRepository.NewIds) × Date

@[reducible] def Row : Resource → Type
  | .customers => Customer
  | .orders => Orders.Order

/-- `CustomerPageProcessor` and `OrderPageProcessor`. -/
def process : (resource : Resource) → PageProcessor resource.Item resource.Tables resource.Seed
  | .customers => Backfill.customerPageProcessor
  | .orders => fun merchantId seed items store => Orders.processItems merchantId seed.2
      (items.zipIdx.map fun (item, index) => (item, seed.1 index)) store

/-- The row of a merchant's customer or order. -/
def row? : (resource : Resource) → resource.Tables → MerchantId × String → Option resource.Row
  | .customers => fun db key => db.customers.find? (CustomerRepository.named key.1 key.2)
  | .orders => fun store key => store.orders.find? (Orders.OrderRepository.named key.1 key.2)

/-- A row without what its creation gave it. -/
def anonymous : (resource : Resource) → resource.Row → resource.Row
  | .customers => fun row => { row with id := "", createdAt := 0 }
  | .orders => fun row => { row with id := "", createdAt := 0 }

/-- The table of the resource by its unique key: a row that was there before is seen whole, a new one but
for its id and the date of its creation. -/
def view (resource : Resource) (prior tables : resource.Tables) (key : MerchantId × String) : Option resource.Row :=
  (resource.row? tables key).map fun row => if (resource.row? prior key).isSome then row else resource.anonymous row

/-- The rows that were there still are. -/
def Lasting (resource : Resource) (prior tables : resource.Tables) : Prop :=
  ∀ key, (resource.row? prior key).isSome → (resource.row? tables key).isSome

/-- What a write of one row does to the view. -/
theorem view_put {resource : Resource} {prior tables after : resource.Tables} {write : Upsert (MerchantId × String) resource.Row}
    {made : resource.Row} (lasting : resource.Lasting prior tables)
    (written : resource.row? after write.key = some ((resource.row? tables write.key).elim made write.update))
    (others : ∀ key, key ≠ write.key → resource.row? after key = resource.row? tables key)
    (creates : resource.anonymous made = write.create)
    (updates : ∀ row, resource.anonymous (write.update row) = write.update (resource.anonymous row)) :
    resource.Lasting prior after ∧ resource.view prior after = Upsert.put (resource.view prior tables) write := by
  constructor
  · intro key present
    by_cases same : key = write.key
    · rw [same, written]
      rfl
    · rw [others key same]
      exact lasting key present
  · funext key
    by_cases same : key = write.key
    · subst same
      rw [Upsert.put_self, view, written, view, Option.map_some]
      cases found : resource.row? tables write.key with
      | none =>
        have absent : ¬(resource.row? prior write.key).isSome = true := fun present => by
          have kept := lasting write.key present
          rw [found] at kept
          cases kept
        rw [if_neg absent]
        exact congrArg some creates
      | some row =>
        simp only [Option.elim_some, Option.map_some]
        split
        · rfl
        · rw [updates]
    · rw [Upsert.put_other same, view, view, others key same]

end Resource

section Customers

open CustomerRepository

variable {merchantId : MerchantId} {now : Date} {prior db after : Db}

/-- The write of a customer node; a malformed identifier is skipped. -/
def customerWrite (merchantId : MerchantId) (node : ShopifyCustomerNode) : Option (Upsert (MerchantId × String) Customer) :=
  (parseGid node.id).map fun gid => {
    key := (merchantId, gid)
    create := { CustomerPatch.apply { node.shopifyOwned with shopifyCreatedAt := some node.createdAt } (blank merchantId gid "" 0) with
      id := ""
      createdAt := 0 }
    update := node.shopifyOwned.apply }

theorem customers_view {items : List (ShopifyCustomerNode × CustomerId)} (lasting : Resource.Lasting .customers prior db)
    (done : processItems merchantId now items db = .ok after) :
    Resource.Lasting .customers prior after ∧ Resource.view .customers prior after =
      Upsert.putAll ((items.map Prod.fst).filterMap (customerWrite merchantId)) (Resource.view .customers prior db) := by
  induction items generalizing db with
  | nil =>
    cases done
    exact ⟨lasting, rfl⟩
  | cons item rest ih =>
    obtain ⟨node, newId⟩ := item
    unfold processItems at done
    rw [List.map_cons]
    split at done
    · rename_i malformed
      rw [List.filterMap_cons_none (by rw [customerWrite, malformed]; rfl)]
      exact ih lasting done
    · rename_i gid wellFormed
      obtain ⟨⟨customerId, next⟩, upserted, done⟩ := bind_eq_ok_iff.mp done
      have written : next.customers.find? (named merchantId gid) = some ((db.customers.find? (named merchantId gid)).elim
          (CustomerPatch.apply { node.shopifyOwned with shopifyCreatedAt := some node.createdAt } (blank merchantId gid newId now))
          node.shopifyOwned.apply) := by
        rw [find_upsert upserted]
        cases db.customers.find? (named merchantId gid) <;> rfl
      let write : Upsert (MerchantId × String) Customer := ⟨(merchantId, gid),
        { CustomerPatch.apply { node.shopifyOwned with shopifyCreatedAt := some node.createdAt } (blank merchantId gid "" 0) with
          id := ""
          createdAt := 0 }, node.shopifyOwned.apply⟩
      rw [List.filterMap_cons_some (show customerWrite merchantId node = some write by rw [customerWrite, wellFormed]; rfl)]
      obtain ⟨lasts, seen⟩ := @Resource.view_put .customers prior db next write _ lasting written
        (fun key apart => find_upsert_other upserted apart) rfl fun _ => rfl
      obtain ⟨still, whole⟩ := ih lasts done
      exact ⟨still, by rw [whole, seen]; rfl⟩

theorem customers_overwriting (items : List ShopifyCustomerNode) :
    Upsert.Overwriting (items.filterMap (customerWrite merchantId)) where
  update_update first here second there row := by
    obtain ⟨_, _, made⟩ := List.mem_filterMap.mp here
    obtain ⟨_, _, remade⟩ := List.mem_filterMap.mp there
    obtain ⟨_, _, rfl⟩ := Option.map_eq_some_iff.mp made
    obtain ⟨_, _, rfl⟩ := Option.map_eq_some_iff.mp remade
    rfl
  update_create write here := by
    obtain ⟨_, _, made⟩ := List.mem_filterMap.mp here
    obtain ⟨_, _, rfl⟩ := Option.map_eq_some_iff.mp made
    rfl

end Customers

section Orders

open Orders Orders.OrderRepository

variable {merchantId : MerchantId} {now : Date} {prior store after : Orders.Store}

/-- The write of an order node, as long as it is well formed and its columns can be read. -/
def orderWrite (merchantId : MerchantId) (prior : Orders.Store) (node : ShopifyOrderNode) :
    Option (Upsert (MerchantId × String) Orders.Order) := do
  let body ← mapOrderNodeToWebhookBody node
  let gid ← toShopifyOrderGid body.id
  let fields ← (sharedFields merchantId body prior).toOption
  return {
    key := (merchantId, gid)
    create := { fields with id := "", merchantId, shopifyOrderId := gid, createdAt := 0 }
    update := fields.apply }

theorem sharedFields_congr {body : Orders.ShopifyOrderWebhookBody} (same : store.customers = prior.customers) :
    sharedFields merchantId body store = sharedFields merchantId body prior := by
  unfold sharedFields resolveCustomerFk
  rw [same]

theorem orders_view {items : List (ShopifyOrderNode × NewIds)} (lasting : Resource.Lasting .orders prior store)
    (same : store.customers = prior.customers) (done : processItems merchantId now items store = .ok after) :
    (Resource.Lasting .orders prior after ∧ after.customers = prior.customers) ∧ Resource.view .orders prior after =
      Upsert.putAll ((items.map Prod.fst).filterMap (orderWrite merchantId prior)) (Resource.view .orders prior store) := by
  induction items generalizing store with
  | nil =>
    cases done
    exact ⟨⟨lasting, same⟩, rfl⟩
  | cons item rest ih =>
    obtain ⟨node, ids⟩ := item
    rw [List.map_cons]
    rcases processItems_cons done with ⟨malformed, done⟩ | ⟨body, result, next, wellFormed, upserted, done⟩
    · rw [List.filterMap_cons_none (by rw [orderWrite, malformed]; rfl)]
      exact ih lasting same done
    · obtain ⟨gid, fields, orderId, placed, wrapped, read, first, frame⟩ := upsertFromWebhook_cases upserted
      have orders : next.orders = placed.orders := by rw [frame]
      have customers : next.customers = placed.customers := by rw [frame]
      obtain ⟨kept, written, _⟩ := place_eq first
      rw [sharedFields_congr same] at read
      let write : Upsert (MerchantId × String) Orders.Order := ⟨(merchantId, gid),
        { fields with id := "", merchantId, shopifyOrderId := gid, createdAt := 0 }, fields.apply⟩
      have writes : orderWrite merchantId prior node = some write := by
        rw [orderWrite, wellFormed, Option.bind_eq_bind, Option.bind_some, wrapped, Option.bind_eq_bind, Option.bind_some, read]
        rfl
      rw [List.filterMap_cons_some writes]
      have row : Resource.row? .orders next (merchantId, gid) = some ((Resource.row? .orders store (merchantId, gid)).elim
          { fields with id := ids.order, merchantId, shopifyOrderId := gid, createdAt := now } fields.apply) := by
        change next.orders.find? (named merchantId gid) = _
        rw [orders, written]
        rfl
      have others (key : MerchantId × String) (apart : key ≠ (merchantId, gid)) :
          Resource.row? .orders next key = Resource.row? .orders store key := by
        change next.orders.find? (named key.1 key.2) = _
        rw [orders]
        exact place_other first apart
      obtain ⟨lasts, seen⟩ := @Resource.view_put .orders prior store next write _ lasting row others rfl fun _ => rfl
      have still : next.customers = prior.customers := by
        rw [customers, kept]
        exact same
      obtain ⟨steady, whole⟩ := ih lasts still done
      exact ⟨steady, by rw [whole, seen]; rfl⟩

theorem orders_overwriting (items : List ShopifyOrderNode) :
    Upsert.Overwriting (items.filterMap (orderWrite merchantId prior)) := by
  have shape {write : Upsert (MerchantId × String) Orders.Order} (here : write ∈ items.filterMap (orderWrite merchantId prior)) :
      ∃ gid fields, write = ⟨(merchantId, gid), { fields with id := "", merchantId, shopifyOrderId := gid, createdAt := 0 },
        SharedFields.apply fields⟩ := by
    obtain ⟨_, _, made⟩ := List.mem_filterMap.mp here
    obtain ⟨_, _, made⟩ := Option.bind_eq_some_iff.mp made
    obtain ⟨gid, _, made⟩ := Option.bind_eq_some_iff.mp made
    obtain ⟨fields, _, made⟩ := Option.bind_eq_some_iff.mp made
    exact ⟨gid, fields, (Option.some.inj made).symm⟩
  refine ⟨fun first here second there row => ?_, fun write here => ?_⟩
  · obtain ⟨_, _, rfl⟩ := shape here
    obtain ⟨_, _, rfl⟩ := shape there
    rfl
  · obtain ⟨_, _, rfl⟩ := shape here
    rfl

end Orders

section Ingestions

variable (merchantId : MerchantId)

/-- Both processors write by upserts that overwrite each other. -/
def Resource.ingestion : (resource : Resource) → (prior : resource.Tables) →
    Ingestion resource.process merchantId (MerchantId × String) resource.Row
  | .customers, prior => {
    Steady := Resource.Lasting .customers prior
    view := Resource.view .customers prior
    writes := customerWrite merchantId
    keeps := fun {seed items _ _} steady done => by
      have seen := customers_view steady done
      rw [List.map_map] at seen
      exact (List.zipIdx_map_fst 0 items) ▸ seen
    overwriting := customers_overwriting }
  | .orders, prior => {
    Steady := fun store => Resource.Lasting .orders prior store ∧ store.customers = prior.customers
    view := Resource.view .orders prior
    writes := orderWrite merchantId prior
    keeps := fun {seed items _ _} steady done => by
      have seen := orders_view steady.1 steady.2 done
      rw [List.map_map] at seen
      exact (List.zipIdx_map_fst 0 items) ▸ seen
    overwriting := orders_overwriting }

theorem Resource.steady_origin (resource : Resource) (prior : resource.Tables) : (resource.ingestion merchantId prior).Steady prior := by
  cases resource with
  | customers => exact fun _ present => present
  | orders => exact ⟨fun _ present => present, rfl⟩

theorem Resource.view_ingestion (resource : Resource) (prior tables : resource.Tables) :
    (resource.ingestion merchantId prior).view tables = resource.view prior tables := by
  cases resource <;> rfl

end Ingestions

end WinBack.Runner
