import WinBack.Customer.Newest
import WinBack.Orders.Node
import WinBack.Orders.Writes

/-! Snapshots of an order in the order in which they are processed, and what both records hold in the end. -/

namespace WinBack.Orders

open Library WinBack.Orders.OrderRepository

section Events

/-- A transaction that ingests orders of a merchant. -/
inductive OrderEvent where
  | upserted (body : ShopifyOrderWebhookBody) (ids : NewIds) (now : Date)
  | backfilled (items : List (ShopifyOrderNode × NewIds)) (now : Date)

namespace OrderEvent

def process (merchantId : MerchantId) (store : Store) : OrderEvent → Except RepositoryError Store
  | .upserted body ids now => (upsertFromWebhook merchantId body ids now store).map Prod.snd
  | .backfilled items now => processItems merchantId now items store

/-- What an event says of the order; a node is read as a body. -/
def snapshots (gid : String) : OrderEvent → List ShopifyOrderWebhookBody
  | .upserted body _ _ => if toShopifyOrderGid body.id = some gid then [body] else []
  | .backfilled items _ => items.filterMap fun item =>
    (mapOrderNodeToWebhookBody item.1).filter fun body => toShopifyOrderGid body.id == some gid

end OrderEvent

/-- Financial status, cancellation and totals. -/
structure Figures where
  financialStatus : Option OrderFinancialStatus
  cancelledAt : Option Date
  currency : String
  subtotalAmountCents : Nat
  totalAmountCents : Nat
  totalTaxCents : Nat
  totalDiscountCents : Nat
  presentmentTotalCents : Option Nat
  deriving DecidableEq, Repr

def SharedFields.figures (fields : SharedFields) : Figures where
  financialStatus := fields.financialStatus
  cancelledAt := fields.cancelledAt
  currency := fields.currency
  subtotalAmountCents := fields.subtotalAmountCents
  totalAmountCents := fields.totalAmountCents
  totalTaxCents := fields.totalTaxCents
  totalDiscountCents := fields.totalDiscountCents
  presentmentTotalCents := fields.presentmentTotalCents

/-- What a body says they are, where it can be read. They do not depend on what is stored. -/
def ShopifyOrderWebhookBody.figures (body : ShopifyOrderWebhookBody) : Option Figures :=
  ((sharedFields "" body {}).map SharedFields.figures).toOption

theorem figures_of_sharedFields {merchantId : MerchantId} {body : ShopifyOrderWebhookBody} {store : Store} {fields : SharedFields}
    (read : sharedFields merchantId body store = .ok fields) : body.figures = some fields.figures := by
  obtain ⟨financialStatus, status, read⟩ := bind_eq_ok_iff.mp read
  obtain ⟨subtotalAmountCents, subtotal, read⟩ := bind_eq_ok_iff.mp read
  obtain ⟨totalAmountCents, total, read⟩ := bind_eq_ok_iff.mp read
  obtain ⟨totalTaxCents, tax, read⟩ := bind_eq_ok_iff.mp read
  obtain ⟨totalDiscountCents, discount, read⟩ := bind_eq_ok_iff.mp read
  obtain ⟨presentmentTotalCents, presentment, read⟩ := bind_eq_ok_iff.mp read
  cases read
  simp only [ShopifyOrderWebhookBody.figures, sharedFields, status, subtotal, total, tax, discount, presentment]
  rfl

end Events

section Rows

variable {merchantId : MerchantId} {gid : String} {ids : NewIds} {now : Date} {store after first last : Store}
  {body newest : ShopifyOrderWebhookBody} {result : UpsertResult} {events : List OrderEvent}

/-- The figures of the order; one that is not there has none. -/
def figuresOf (merchantId : MerchantId) (gid : String) (store : Store) : Figures :=
  ((store.orders.find? (named merchantId gid)).map fun row => row.figures).getD ⟨none, none, "", 0, 0, 0, 0, none⟩

def Placed (merchantId : MerchantId) (gid : String) (store : Store) : Prop :=
  (store.orders.find? (named merchantId gid)).isSome = true

/-- What some bodies leave. -/
structure Overwritten (merchantId : MerchantId) (gid : String) (bodies : List ShopifyOrderWebhookBody) (store after : Store) :
    Prop where
  figures : figuresOf merchantId gid after =
    (lastCarried ShopifyOrderWebhookBody.figures bodies).getD (figuresOf merchantId gid store)
  placed : Placed merchantId gid after ↔ Placed merchantId gid store ∨ bodies ≠ []
  read : ∀ body ∈ bodies, body.figures ≠ none

theorem Overwritten.refl (store : Store) : Overwritten merchantId gid [] store store where
  figures := rfl
  placed := by simp
  read _ none := absurd none List.not_mem_nil

theorem Overwritten.trans {middle : Store} {earlier later : List ShopifyOrderWebhookBody}
    (early : Overwritten merchantId gid earlier store middle) (late : Overwritten merchantId gid later middle after) :
    Overwritten merchantId gid (earlier ++ later) store after where
  figures := by
    rw [late.figures, early.figures, getD_lastCarried_append]
  placed := by rw [late.placed, early.placed, append_ne_nil_iff, or_assoc]
  read body listed := (List.mem_append.mp listed).elim (early.read body) (late.read body)

theorem overwritten_upsert (done : upsertFromWebhook merchantId body ids now store = .ok (result, after)) :
    Overwritten merchantId gid (if toShopifyOrderGid body.id = some gid then [body] else []) store after := by
  obtain ⟨own, fields, orderId, placed, wrapped, read, first, frame⟩ := upsertFromWebhook_cases done
  have orders : after.orders = placed.orders := by rw [frame]
  have figures := figures_of_sharedFields read
  by_cases here : own = gid
  · subst here
    have found := (place_eq first).2.1
    rw [← orders] at found
    rw [if_pos wrapped]
    exact {
      figures := by
        rw [lastCarried_singleton, figures, figuresOf, found, Option.map_some, written_fields]
        rfl
      placed := by simp [Placed, found]
      read := fun other listed => by
        obtain rfl := List.mem_singleton.mp listed
        rw [figures]
        exact Option.some_ne_none _ }
  · have same : after.orders.find? (named merchantId gid) = store.orders.find? (named merchantId gid) := by
      rw [orders]
      exact place_other first fun alike => here (Prod.mk.inj alike).2.symm
    rw [if_neg fun alike => here (Option.some.inj (wrapped.symm.trans alike))]
    exact {
      figures := by
        rw [figuresOf, same]
        rfl
      placed := by simp [Placed, same]
      read := fun _ none => absurd none List.not_mem_nil }

theorem overwritten_process {event : OrderEvent} (done : event.process merchantId store = .ok after) :
    Overwritten merchantId gid (event.snapshots gid) store after := by
  cases event with
  | upserted body ids now =>
    obtain ⟨⟨result, next⟩, upserted, rfl⟩ := map_eq_ok_iff.mp done
    exact overwritten_upsert upserted
  | backfilled items now =>
    replace done : processItems merchantId now items store = .ok after := done
    induction items generalizing store with
    | nil =>
      cases done
      exact .refl _
    | cons item rest ih =>
      simp only [OrderEvent.snapshots, List.filterMap_cons]
      rcases processItems_cons done with ⟨malformed, done⟩ | ⟨body, result, middle, wellFormed, upserted, done⟩
      · rw [malformed]
        exact ih done
      · have both := (@overwritten_upsert merchantId gid _ _ _ _ _ _ upserted).trans (ih done)
        rw [wellFormed]
        by_cases here : toShopifyOrderGid body.id = some gid
        · rw [if_pos here] at both
          rw [Option.filter_some, if_pos (beq_iff_eq.mpr here)]
          exact both
        · rw [if_neg here] at both
          rw [Option.filter_some, if_neg fun same => here (beq_iff_eq.mp same)]
          exact both

def processAll (merchantId : MerchantId) (events : List OrderEvent) (store : Store) : Except RepositoryError Store :=
  events.foldlM (fun store event => event.process merchantId store) store

/-- The row has the figures of a snapshot exactly when the snapshot processed last has them, too. -/
theorem figures_iff_lasting (ran : processAll merchantId events first = .ok last)
    (listed : newest ∈ events.flatMap (OrderEvent.snapshots gid)) :
    ∃ row, last.orders.find? (named merchantId gid) = some row ∧ (newest.figures = some row.figures ↔
      lastCarried ShopifyOrderWebhookBody.figures (events.flatMap (OrderEvent.snapshots gid)) = newest.figures) := by
  have step (store : Store) (event : OrderEvent) (next : Store) (done : event.process merchantId store = .ok next) :
      Overwritten merchantId gid (event.snapshots gid) store next := overwritten_process done
  have placed : Placed merchantId gid last :=
    (present_run (fun store event next done => (step store event next done).placed) ran).mpr (.inr (List.ne_nil_of_mem listed))
  have held := column_run (figuresOf merchantId gid) (fun store event next done => (step store event next done).figures) ran
  obtain ⟨event, member, listing⟩ := List.mem_flatMap.mp listed
  obtain ⟨_, _, done⟩ := processed_of_run ran event member
  obtain ⟨figures, read⟩ := Option.ne_none_iff_exists'.mp ((step _ _ _ done).read newest listing)
  obtain ⟨row, found⟩ := Option.isSome_iff_exists.mp placed
  rw [figuresOf, found, Option.map_some, Option.getD_some] at held
  refine ⟨row, found, ?_⟩
  rw [read, ← getD_lastCarried_iff listed read, ← held, Option.some.injEq]
  exact eq_comm

end Rows

end WinBack.Orders

namespace WinBack

open Library
open Orders (OrderEvent)

/-- Whatever the order in which snapshots are processed, the newest one is what the row shows exactly when the values that
it carries are the last ones; and a customer whose newest event is its deletion is gone exactly when its row was there, or
a snapshot of it was processed before some deletion, or none was at all. -/
theorem newest_snapshot_exact (merchantId : MerchantId) (customer order : String) :
    (∀ (events : List CustomerEvent) (first last : Db) (newest : CustomerPatch),
      processAll merchantId events first = .ok last →
      Newest CustomerPatch.shopifyUpdatedAt newest (events.flatMap (CustomerEvent.snapshots customer)) →
      ∃ row, last.customers.find? (CustomerRepository.named merchantId customer) = some row ∧
        (newest.Shown row ↔ newest.Lasting (events.flatMap (CustomerEvent.snapshots customer)))) ∧
    (∀ (events : List CustomerEvent) (first last : Db),
      processAll merchantId events first = .ok last → NewestDeletion customer events →
      (Gone (last.customers.find? (CustomerRepository.named merchantId customer)) ↔
        (first.customers.find? (CustomerRepository.named merchantId customer)).isSome = true ∨
        events.flatMap (CustomerEvent.snapshots customer) = [] ∨
        ∃ earlier event later, events = earlier ++ event :: later ∧ event.deletion customer ≠ none ∧
          earlier.flatMap (CustomerEvent.snapshots customer) ≠ [])) ∧
    (∀ (events : List OrderEvent) (first last : Orders.Store) (newest : Orders.ShopifyOrderWebhookBody),
      Orders.processAll merchantId events first = .ok last →
      Newest (fun body => some body.updatedAt) newest (events.flatMap (OrderEvent.snapshots order)) →
      ∃ row, last.orders.find? (Orders.OrderRepository.named merchantId order) = some row ∧
        (newest.figures = some row.figures ↔
          lastCarried Orders.ShopifyOrderWebhookBody.figures (events.flatMap (OrderEvent.snapshots order)) = newest.figures)) := by
  refine ⟨fun events first last newest ran latest => shown_iff_lasting ran latest.listed,
    fun events first last ran newest => ?_,
    fun events first last newest ran latest => Orders.figures_iff_lasting ran latest.listed⟩
  obtain ⟨event, listed, madeAt, deleted, _⟩ := newest
  exact gone_iff_deleted_after ran ⟨event, listed, Option.ne_none_iff_exists'.mpr ⟨madeAt, deleted⟩⟩

section Samples

open CustomerRepository (named)

def bareShop : Db where
  merchants := .single { id := "m", shop := "m.myshopify.com" }

/-- `customers/update` for a customer who moves from one address to another. -/
def addressed (email : String) (updatedAt : Date) : CustomerEvent :=
  .upserted { id := .text "7", email := some email, createdAt := 0, updatedAt } "c"
    { score := { rDays := 0, fCount := 0, mCents := 0, newState := .active }, eventId := "e" } 9

def sevenDeleted : CustomerEvent := .deleted (.text "7") 3 9

def bodyOf (financialStatus : String) (updatedAt : Date) : Orders.ShopifyOrderWebhookBody where
  id := .text "1"
  name := none
  test := false
  financialStatus := some financialStatus
  fulfillmentStatus := none
  customer := none
  currency := "USD"
  presentmentCurrency := none
  subtotalPriceSet := ⟨⟨"1.00", "USD"⟩, ⟨"1.00", "USD"⟩⟩
  totalPriceSet := ⟨⟨"1.00", "USD"⟩, ⟨"1.00", "USD"⟩⟩
  totalTaxSet := none
  totalDiscountsSet := none
  createdAt := 0
  updatedAt
  processedAt := none
  cancelledAt := none
  lineItems := []

/-- `orders/updated`. -/
def statused (financialStatus : String) (updatedAt : Date) : OrderEvent :=
  .upserted (bodyOf financialStatus updatedAt) ⟨"o", fun index => "l" ++ toString index⟩ 9

def customersAfter (events : List CustomerEvent) : Option Db := (processAll "m" events bareShop).toOption

def ordersAfter (events : List OrderEvent) : Option Orders.Store :=
  (Orders.processAll "m" events { merchants := bareShop.merchants }).toOption

def patchOf (email : String) (updatedAt : Date) : CustomerPatch :=
  ShopifyCustomerWebhookBody.sharedFields { id := .text "7", email := some email, createdAt := 0, updatedAt }

theorem snapshots_addressed (email : String) (updatedAt : Date) :
    (addressed email updatedAt).snapshots "gid://shopify/Customer/7" = [patchOf email updatedAt] := by
  have wrapped : toShopifyCustomerGid (.text "7") = some "gid://shopify/Customer/7" := by decide
  exact if_pos wrapped

theorem snapshots_statused (financialStatus : String) (updatedAt : Date) :
    (statused financialStatus updatedAt).snapshots "gid://shopify/Order/1" = [bodyOf financialStatus updatedAt] := by
  have wrapped : toShopifyOrderGid (.text "1") = some "gid://shopify/Order/1" := by decide
  exact if_pos wrapped

theorem snapshots_two (first second : String) (early late : Date) :
    [addressed first early, addressed second late].flatMap (CustomerEvent.snapshots "gid://shopify/Customer/7") =
      [patchOf first early, patchOf second late] := by
  simp only [List.flatMap_cons, List.flatMap_nil, snapshots_addressed, List.cons_append, List.nil_append]

theorem bodies_two (first second : String) (early late : Date) :
    [statused first early, statused second late].flatMap (OrderEvent.snapshots "gid://shopify/Order/1") =
      [bodyOf first early, bodyOf second late] := by
  simp only [List.flatMap_cons, List.flatMap_nil, snapshots_statused, List.cons_append, List.nil_append]

/-- Both are processed in the order of `updated_at`. -/
def addressesInOrder : List CustomerEvent := [addressed "a@example.com" 1, addressed "b@example.com" 2]

def statusesInOrder : List OrderEvent := [statused "pending" 1, statused "paid" 2]

def deletedLast : List CustomerEvent := [addressed "a@example.com" 1, sevenDeleted]

theorem addresses_in_order : (customersAfter addressesInOrder).isSome = true := by decide

theorem deleted_last : (customersAfter deletedLast).isSome = true := by decide

theorem statuses_in_order : (ordersAfter statusesInOrder).isSome = true := by decide

theorem newest_snapshot_in_order :
    (∃ row, ((customersAfter addressesInOrder).get addresses_in_order).customers.find?
      (named "m" "gid://shopify/Customer/7") = some row ∧ (patchOf "b@example.com" 2).Shown row) ∧
    Gone (((customersAfter deletedLast).get deleted_last).customers.find? (named "m" "gid://shopify/Customer/7")) ∧
    ∃ row, ((ordersAfter statusesInOrder).get statuses_in_order).orders.find?
      (Orders.OrderRepository.named "m" "gid://shopify/Order/1") = some row ∧ (bodyOf "paid" 2).figures = some row.figures := by
  obtain ⟨customers, deletions, orders⟩ := newest_snapshot_exact "m" "gid://shopify/Customer/7" "gid://shopify/Order/1"
  refine ⟨?_, ?_, ?_⟩
  · obtain ⟨row, found, shown⟩ := customers addressesInOrder bareShop _ (patchOf "b@example.com" 2)
      (toOption_eq_some_iff.mp (Option.some_get addresses_in_order).symm) (by
        rw [addressesInOrder, snapshots_two]
        exact ⟨by simp, 2, rfl, by simp [patchOf, ShopifyCustomerWebhookBody.sharedFields]⟩)
    refine ⟨row, found, shown.mpr fun column value carries => ?_⟩
    rw [addressesInOrder, snapshots_two]
    cases column <;> exact carries
  · have deletes : sevenDeleted.deletion "gid://shopify/Customer/7" = some 3 := by decide
    have said : deletedLast.flatMap (CustomerEvent.snapshots "gid://shopify/Customer/7") = [patchOf "a@example.com" 1] := by
      simp only [deletedLast, List.flatMap_cons, List.flatMap_nil, snapshots_addressed, List.append_nil]
      rfl
    refine (deletions deletedLast bareShop _
      (toOption_eq_some_iff.mp (Option.some_get deleted_last).symm) ?_).mpr (.inr (.inr ?_))
    · refine ⟨sevenDeleted, by simp [deletedLast], 3, deletes, ?_⟩
      rw [said]
      simp [patchOf, ShopifyCustomerWebhookBody.sharedFields]
    · refine ⟨[addressed "a@example.com" 1], sevenDeleted, [], rfl, by simp [deletes], ?_⟩
      simp [snapshots_addressed]
  · obtain ⟨row, found, shown⟩ := orders statusesInOrder { merchants := bareShop.merchants } _
      (bodyOf "paid" 2) (toOption_eq_some_iff.mp (Option.some_get statuses_in_order).symm) (by
        rw [statusesInOrder, bodies_two]
        exact ⟨by simp, 2, rfl, by simp [bodyOf]⟩)
    refine ⟨row, found, shown.mpr ?_⟩
    rw [statusesInOrder, bodies_two]
    decide

/-- Both are processed in the other order. -/
def addressesReversed : List CustomerEvent := [addressed "b@example.com" 2, addressed "a@example.com" 1]

def statusesReversed : List OrderEvent := [statused "paid" 2, statused "pending" 1]

def deletedFirst : List CustomerEvent := [sevenDeleted, addressed "a@example.com" 1]

theorem addresses_reversed : (customersAfter addressesReversed).isSome = true := by decide

theorem deleted_first : (customersAfter deletedFirst).isSome = true := by decide

theorem statuses_reversed : (ordersAfter statusesReversed).isSome = true := by decide

/-- The older snapshot stays, and the deleted customer is live. -/
theorem stale_snapshots_win :
    (¬∀ (merchantId : MerchantId) (gid : String) (events : List CustomerEvent) (first last : Db) (newest : CustomerPatch),
      processAll merchantId events first = .ok last →
      ((events.flatMap (CustomerEvent.snapshots gid)).map CustomerPatch.shopifyUpdatedAt).Nodup →
      Newest CustomerPatch.shopifyUpdatedAt newest (events.flatMap (CustomerEvent.snapshots gid)) →
      ∃ row, last.customers.find? (named merchantId gid) = some row ∧ newest.Shown row) ∧
    (¬∀ (merchantId : MerchantId) (gid : String) (events : List CustomerEvent) (first last : Db),
      processAll merchantId events first = .ok last → NewestDeletion gid events →
      Gone (last.customers.find? (named merchantId gid))) ∧
    ¬∀ (merchantId : MerchantId) (gid : String) (events : List OrderEvent) (first last : Orders.Store)
      (newest : Orders.ShopifyOrderWebhookBody), Orders.processAll merchantId events first = .ok last →
      ((events.flatMap (OrderEvent.snapshots gid)).map fun body => body.updatedAt).Nodup →
      Newest (fun body => some body.updatedAt) newest (events.flatMap (OrderEvent.snapshots gid)) →
      ∃ row, last.orders.find? (Orders.OrderRepository.named merchantId gid) = some row ∧
        newest.figures = some row.figures := by
  refine ⟨fun claim => ?_, fun claim => ?_, fun claim => ?_⟩
  · have ran := toOption_eq_some_iff.mp (Option.some_get addresses_reversed).symm
    obtain ⟨row, found, shown⟩ := claim "m" "gid://shopify/Customer/7" addressesReversed bareShop _ (patchOf "b@example.com" 2) ran
      (by rw [addressesReversed, snapshots_two]; decide)
      (by
        rw [addressesReversed, snapshots_two]
        exact ⟨by simp, 2, rfl, by simp [patchOf, ShopifyCustomerWebhookBody.sharedFields]⟩)
    have kept : (((customersAfter addressesReversed).get addresses_reversed).customers.find?
        (named "m" "gid://shopify/Customer/7")).map (fun row => row.email) = some (some "a@example.com") := by decide
    rw [found] at kept
    have moved : row.email = some "b@example.com" := shown .email _ rfl
    rw [Option.map_some, moved] at kept
    exact absurd kept (by decide)
  · have ran := toOption_eq_some_iff.mp (Option.some_get deleted_first).symm
    have deletes : sevenDeleted.deletion "gid://shopify/Customer/7" = some 3 := by decide
    have said : deletedFirst.flatMap (CustomerEvent.snapshots "gid://shopify/Customer/7") = [patchOf "a@example.com" 1] := by
      simp only [deletedFirst, List.flatMap_cons, List.flatMap_nil, snapshots_addressed, List.append_nil]
      rfl
    have gone := claim "m" "gid://shopify/Customer/7" deletedFirst bareShop _ ran
      ⟨sevenDeleted, by simp [deletedFirst], 3, deletes, by
        rw [said]
        simp [patchOf, ShopifyCustomerWebhookBody.sharedFields]⟩
    have live : ¬Gone (((customersAfter deletedFirst).get deleted_first).customers.find?
        (named "m" "gid://shopify/Customer/7")) := by decide
    exact live gone
  · have ran := toOption_eq_some_iff.mp (Option.some_get statuses_reversed).symm
    obtain ⟨row, found, shown⟩ := claim "m" "gid://shopify/Order/1" statusesReversed { merchants := bareShop.merchants } _
      (bodyOf "paid" 2) ran (by rw [statusesReversed, bodies_two]; decide)
      (by
        rw [statusesReversed, bodies_two]
        exact ⟨by simp, 2, rfl, by simp [bodyOf]⟩)
    have kept : (((ordersAfter statusesReversed).get statuses_reversed).orders.find?
        (Orders.OrderRepository.named "m" "gid://shopify/Order/1")).map (fun row => some row.figures) =
          some (bodyOf "pending" 1).figures := by decide
    rw [found, Option.map_some, ← shown] at kept
    exact absurd kept (by decide)

end Samples

end WinBack
