import WinBack.Customer.Ingestion
import WinBack.Scoring.Reflected

/-! A customer and its orders, whichever arrives first. An order is linked while it is
upserted and at no other time, and a score counts linked orders only. -/

namespace WinBack.Scoring.Arrival

open Library CustomerScoreRepository CustomerScoreService Webhooks

/-- An event of an order, with the id of a new row. -/
structure OrderEvent where
  body : ShopifyOrderWebhookBody
  newId : String
  now : Date

structure CustomerEvent where
  body : ShopifyCustomerWebhookBody
  newId : CustomerId
  now : Date

inductive Event where
  | customer (event : CustomerEvent)
  | order (event : OrderEvent)

section Handlers

variable (merchantId : MerchantId)

/-- One transaction: the upsert, and the recompute of the customer that it linked. -/
def handleOrderEvent (event : OrderEvent) (db : Db) : Except RepositoryError Db := do
  let (upserted, db) ← OrderRepository.upsertFromWebhook merchantId event.body event.newId db
  match upserted.customerId with
  | none => return db
  | some customerId => recompute merchantId customerId event.now db

/-- `runUpsert`. -/
def handleCustomerEvent (event : CustomerEvent) (db : Db) : Except RepositoryError Db := do
  let (upserted, db) ← CustomerRepository.upsertFromWebhook merchantId event.body event.newId event.now db
  recompute merchantId upserted.customerId event.now db

def process (db : Db) : Event → Except RepositoryError Db
  | .customer event => handleCustomerEvent merchantId event db
  | .order event => handleOrderEvent merchantId event db

def processAll : List Event → Db → Except RepositoryError Db
  | [], db => .ok db
  | event :: rest, db => do
    let db ← process merchantId db event
    processAll rest db

end Handlers

variable {merchantId : MerchantId} {customerId : CustomerId} {gid number other newId : String} {now : Date}
  {body : ShopifyOrderWebhookBody} {status : Option OrderFinancialStatus} {link : Option CustomerId} {db after : Db}

section Lookups

/-- An order without its id, which no event decides. -/
def decided (row : Order) : Order := { row with id := "" }

def orderAt (merchantId : MerchantId) (number : String) (db : Db) : Option Order :=
  (db.orders.find? (OrderRepository.named merchantId number)).map decided

/-- The order after an upsert, whatever it was before. -/
def written (merchantId : MerchantId) (number : String) (body : ShopifyOrderWebhookBody) (link : Option CustomerId) :
    Order :=
  OrderRepository.write body (OrderRepository.parseFinancialStatus body.financialStatus).toOption.join link
    { id := "", merchantId, shopifyOrderId := number, customerId := none, placedAt := 0 }

theorem orderAt_place {orderId : String} (parsed : OrderRepository.parseFinancialStatus body.financialStatus = .ok status)
    (placed : OrderRepository.place merchantId number body status link newId db = .ok (orderId, after)) (other : String) :
    orderAt merchantId other after =
      if other = number then some (written merchantId number body link) else orderAt merchantId other db := by
  have decides (row : Order) (owner : row.merchantId = merchantId) (named : row.shopifyOrderId = number) :
      decided (OrderRepository.write body status link row) = written merchantId number body link := by
    simp [decided, written, OrderRepository.write, parsed, Except.toOption, owner, named]
  have named_iff (row : Order) : OrderRepository.named merchantId number row = true ↔
      row.merchantId = merchantId ∧ row.shopifyOrderId = number := by
    simp [OrderRepository.named]
  unfold OrderRepository.place at placed
  split at placed
  · rename_i stored found
    cases placed
    obtain ⟨owner, named⟩ := (named_iff stored).mp (Table.find?_mem found).2
    have updated := @Table.find?_updateMany _ _ db.orders (OrderRepository.named merchantId other)
      (OrderRepository.named merchantId number) (OrderRepository.write body status link) (fun _ => rfl) fun _ => rfl
    unfold orderAt
    dsimp only
    rw [updated]
    by_cases same : other = number
    · rw [if_pos same, same, found, Option.map_some, Option.map_some, if_pos (Table.find?_mem found).2]
      exact congrArg some (decides stored owner named)
    · rw [if_neg same]
      cases there : db.orders.find? (OrderRepository.named merchantId other) with
      | none => rfl
      | some row =>
        have apart : OrderRepository.named merchantId number row = false := by
          have holds := (Table.find?_mem there).2
          simp only [OrderRepository.named, Bool.and_eq_true, beq_iff_eq] at holds
          simp [OrderRepository.named, holds, same]
        rw [Option.map_some, apart]
        rfl
  · rename_i missing
    split at placed
    · cases placed
    · rename_i orders inserted
      split at placed
      · cases placed
        unfold orderAt
        dsimp only
        rw [Table.find?_insert? inserted]
        by_cases same : other = number
        · have own : OrderRepository.named merchantId number (OrderRepository.write body status link {
              id := newId, merchantId, shopifyOrderId := number, customerId := link, placedAt := body.createdAt }) =
              true := by
            simp [OrderRepository.named, OrderRepository.write]
          rw [if_pos same, same, missing, Option.none_or, if_pos own, Option.map_some]
          exact congrArg some (decides _ rfl rfl)
        · have apart : OrderRepository.named merchantId other (OrderRepository.write body status link {
              id := newId, merchantId, shopifyOrderId := number, customerId := link, placedAt := body.createdAt }) =
              false := by
            simp [OrderRepository.named, OrderRepository.write, Ne.symm same]
          rw [if_neg same, apart, if_neg Bool.false_ne_true, Option.or_none]
      · cases placed

/-- Who the row of a customer is, and whether it is live. -/
def seen (merchantId : MerchantId) (gid : String) (db : Db) : Option (CustomerId × Option Date) :=
  (db.customers.find? (CustomerRepository.named merchantId gid)).map fun row => (row.id, row.deletedAt)

theorem findByShopifyId_eq :
    (CustomerRepository.findByShopifyId db merchantId gid).map (·.id) =
      (seen merchantId gid db).bind fun row => if row.2 = none then some row.1 else none := by
  have pins : ∀ first second : Customer, CustomerRepository.named merchantId gid first = true →
      CustomerRepository.named merchantId gid second = true →
        Indexed.clash (Indexed.index first) (Indexed.index second) = true := by
    intro first second here there
    simp only [CustomerRepository.named, Bool.and_eq_true, beq_iff_eq] at here there
    simp [Indexed.clash, Indexed.index, here, there]
  unfold CustomerRepository.findByShopifyId seen
  cases found : db.customers.find? (CustomerRepository.named merchantId gid) with
  | none =>
    have absent := Table.find?_none_iff.mp found
    have none : db.customers.find? (fun row => CustomerRepository.named merchantId gid row && row.deletedAt == none) =
        none := by
      rw [Table.find?_none_iff]
      intro row stored
      rw [absent row stored, Bool.false_and]
    rw [none]
    rfl
  | some row =>
    obtain ⟨stored, named⟩ := Table.find?_mem found
    by_cases live : row.deletedAt = none
    · have same : db.customers.find? (fun row => CustomerRepository.named merchantId gid row && row.deletedAt == none) =
          some row := by
        refine (Table.find?_eq_some_iff ?_).mpr ⟨stored, by simp [named, live]⟩
        intro first second here there
        rw [Bool.and_eq_true] at here there
        exact pins first second here.1 there.1
      rw [same]
      simp [live]
    · have none : db.customers.find? (fun row => CustomerRepository.named merchantId gid row && row.deletedAt == none) =
          none := by
        rw [Table.find?_none_iff]
        intro other present
        by_cases also : CustomerRepository.named merchantId gid other = true
        · have same := Table.eq_of_clash db.customers present stored (pins other row also named)
          rw [same, beq_eq_false_iff_ne.mpr live, Bool.and_false]
        · simp [also]
      rw [none]
      simp [live]

end Lookups

section Steps

/-- The score of the customer counts the orders that are linked to it. -/
def Counted (merchantId : MerchantId) (customerId : CustomerId) (now : Date) (db : Db) : Prop :=
  ∃ score, scoreOf customerId db = some score ∧ score.fCount = (ordersOf merchantId now customerId db).length ∧
    score.mCents = ((ordersOf merchantId now customerId db).map (·.totalAmountCents)).sum

theorem orderAt_congr (same : after.orders = db.orders) : orderAt merchantId number after = orderAt merchantId number db := by
  rw [orderAt, orderAt, same]

/-- A scoring leaves the orders, and every customer but for its state. -/
theorem applyScore_seen {merchant : Merchant} {customer : Customer} {scored : Scored} {announced : Option Announcement}
    (applied : applyScore merchant customer scored announced now db = .ok after) :
    seen merchantId gid after = seen merchantId gid db := by
  obtain ⟨upserted, wrote, rest⟩ := bind_eq_ok_iff.mp applied
  obtain ⟨customerScores, rfl⟩ := upsertScore_frame wrote
  split at rest
  · cases rest
    rfl
  · obtain ⟨middle, updated, last⟩ := bind_eq_ok_iff.mp rest
    have same : seen merchantId gid middle = seen merchantId gid db := by
      unfold updateState at updated
      dsimp only at updated
      split at updated
      · cases updated
        have updated := @Table.find?_updateMany _ _ db.customers (CustomerRepository.named merchantId gid)
          (fun row => row.id == customer.id && row.merchantId == merchant.id)
          (fun row => { row with state := scored.score.newState }) (fun _ => rfl) fun _ => rfl
        refine (congrArg _ updated).trans ?_
        rw [Option.map_map]
        congr 1
        funext row
        simp only [Function.comp_apply]
        split <;> rfl
      · cases updated
    split at last
    · obtain ⟨⟨outboxEvents, auditLogs, rfl⟩, _⟩ := emit_transitions last
      exact same
    · cases last
      exact same

theorem recompute_ok (done : recompute merchantId customerId now db = .ok after) :
    after.orders = db.orders ∧ (∀ gid, seen merchantId gid after = seen merchantId gid db) ∧
      (live customerId db = true → Counted merchantId customerId now after) := by
  unfold recompute at done
  split at done
  · rename_i missing
    cases done
    refine ⟨rfl, fun _ => rfl, ?_⟩
    intro alive
    rw [live, missing] at alive
    cases alive
  · rename_i customer found
    rw [read_eq] at done
    simp only [bind, Except.bind, CustomerScoreService.recompute, found] at done
    split at done
    · cases done
    · obtain ⟨orders, _, ⟨row, scored, count, sum, _⟩, _⟩ := applyScore_scores done
      have about : customer.id = customerId := by
        simpa using (Bool.and_eq_true_iff.mp (Table.find?_mem found).2).1
      obtain ⟨_, counted, summed⟩ := @scoreFor_aggregates merchantId customer now db
      refine ⟨orders, fun _ => applyScore_seen done, fun _ => ⟨row, about ▸ scored, ?_, ?_⟩⟩
      · rw [count, ← about]
        unfold ordersOf
        rw [orders]
        exact counted
      · rw [sum, ← about]
        unfold ordersOf
        rw [orders]
        exact summed

/-- The link that an upsert gives to an order of the customer. -/
theorem resolveCustomerFk_eq (own : body.customer.bind toShopifyCustomerGid = some gid) :
    OrderRepository.resolveCustomerFk merchantId body db =
      (seen merchantId gid db).bind fun row => if row.2 = none then some row.1 else none := by
  obtain ⟨id, named, wrapped⟩ := Option.bind_eq_some_iff.mp own
  rw [← findByShopifyId_eq]
  simp only [OrderRepository.resolveCustomerFk, named, wrapped, bind, Option.bind_some]
  cases CustomerRepository.findByShopifyId db merchantId gid <;> rfl

theorem live_of_seen (there : seen merchantId gid db = some (customerId, none)) : live customerId db = true := by
  obtain ⟨row, found, same⟩ := Option.map_eq_some_iff.mp there
  obtain ⟨rfl, alive⟩ := Prod.mk.inj same
  unfold live
  rw [Option.isSome_iff_ne_none, Ne, Table.find?_none_iff]
  intro none
  have dead := none row (Table.find?_mem found).1
  simp [alive] at dead

/-- What an event of an order leaves. -/
theorem handleOrderEvent_ok {event : OrderEvent} (own : event.body.customer.bind toShopifyCustomerGid = some gid)
    (done : handleOrderEvent merchantId event db = .ok after) :
    ∃ number, toShopifyOrderGid event.body.id = some number ∧
      (∀ other, orderAt merchantId other after =
        if other = number then
          some (written merchantId number event.body
            ((seen merchantId gid db).bind fun row => if row.2 = none then some row.1 else none))
        else orderAt merchantId other db) ∧
      (∀ gid, seen merchantId gid after = seen merchantId gid db) ∧
      ∀ customerId, seen merchantId gid db = some (customerId, none) → Counted merchantId customerId event.now after := by
  obtain ⟨⟨result, middle⟩, upserted, rest⟩ := bind_eq_ok_iff.mp done
  have wrapped : ∃ number, toShopifyOrderGid event.body.id = some number := by
    cases malformed : toShopifyOrderGid event.body.id with
    | none =>
      simp only [OrderRepository.upsertFromWebhook, malformed] at upserted
      cases upserted
    | some number => exact ⟨number, rfl⟩
  obtain ⟨number, wrapped⟩ := wrapped
  have parsed : ∃ status, OrderRepository.parseFinancialStatus event.body.financialStatus = .ok status := by
    cases known : OrderRepository.parseFinancialStatus event.body.financialStatus with
    | error error =>
      simp only [OrderRepository.upsertFromWebhook, wrapped, known] at upserted
      cases upserted
    | ok status => exact ⟨status, rfl⟩
  obtain ⟨status, parsed⟩ := parsed
  have same := @OrderRepository.upsertFromWebhook_eq merchantId event.body number event.newId status db wrapped parsed
  rw [upserted] at same
  obtain ⟨⟨orderId, placed⟩, place, equal⟩ := map_eq_ok_iff.mp same.symm
  obtain ⟨linked, rfl⟩ := Prod.mk.inj equal
  have orders := orderAt_place parsed place
  obtain ⟨table, rfl⟩ := place_frame place
  rw [resolveCustomerFk_eq own] at orders linked
  refine ⟨number, wrapped, ?_⟩
  dsimp only at rest
  cases link : result.customerId with
  | none =>
    rw [link] at rest linked
    cases rest
    refine ⟨orders, fun _ => rfl, ?_⟩
    intro customerId there
    have also : seen merchantId gid { db with orders := table } = some (customerId, none) := there
    rw [also] at linked
    cases linked
  | some customerId =>
    rw [link] at rest linked
    obtain ⟨kept, visible, counts⟩ := recompute_ok rest
    refine ⟨fun other => (orderAt_congr kept).trans (orders other), visible, ?_⟩
    intro other there
    have also : seen merchantId gid { db with orders := table } = some (other, none) := there
    rw [also] at linked
    cases linked
    exact counts (live_of_seen also)

/-- What the event of a customer leaves that was not there. -/
theorem handleCustomerEvent_ok {event : CustomerEvent} (about : toShopifyCustomerGid event.body.id = some gid)
    (absent : seen merchantId gid db = none) (done : handleCustomerEvent merchantId event db = .ok after) :
    after.orders = db.orders ∧ seen merchantId gid after = some (event.newId, none) ∧
      Counted merchantId event.newId event.now after := by
  obtain ⟨⟨result, middle⟩, upserted, rest⟩ := bind_eq_ok_iff.mp done
  simp only [CustomerRepository.upsertFromWebhook, about] at upserted
  obtain ⟨⟨customerId, stored⟩, wrote, equal⟩ := map_eq_ok_iff.mp upserted
  obtain ⟨rfl, rfl⟩ := Prod.mk.inj equal
  have missing : db.customers.find? (CustomerRepository.named merchantId gid) = none := Option.map_eq_none_iff.mp absent
  have found := find_upsert wrote
  rw [missing, Option.map_none, Option.getD_none] at found
  have fresh : stored.orders = db.orders ∧ customerId = event.newId := by
    simp only [CustomerRepository.upsert, missing] at wrote
    split at wrote
    · cases wrote
    · split at wrote
      · cases wrote
        exact ⟨rfl, rfl⟩
      · cases wrote
  obtain ⟨orders, rfl⟩ := fresh
  have there : seen merchantId gid stored = some (event.newId, none) := congrArg _ found
  obtain ⟨kept, visible, counts⟩ := recompute_ok rest
  exact ⟨kept.trans orders, (visible gid).trans there, counts (live_of_seen there)⟩

end Steps

section Runs

theorem processAll_append {events later : List Event} :
    processAll merchantId (events ++ later) db = (processAll merchantId events db).bind (processAll merchantId later) := by
  induction events generalizing db with
  | nil => rfl
  | cons event rest ih =>
    rw [List.cons_append, processAll, processAll]
    cases process merchantId db event with
    | error error => rfl
    | ok next => exact ih

/-- The body of the last event of an order. -/
def latest (number : String) : List OrderEvent → Option ShopifyOrderWebhookBody
  | [] => none
  | event :: rest =>
    (latest number rest).or (if toShopifyOrderGid event.body.id = some number then some event.body else none)

theorem latest_append {events later : List OrderEvent} :
    latest number (events ++ later) = (latest number later).or (latest number events) := by
  induction events with
  | nil => rw [List.nil_append, latest, Option.or_none]
  | cons event rest ih => rw [List.cons_append, latest, latest, ih, Option.or_assoc]

theorem latest_isSome {events : List OrderEvent} :
    (latest number events).isSome = true ↔ ∃ event ∈ events, toShopifyOrderGid event.body.id = some number := by
  induction events with
  | nil => simp [latest]
  | cons event rest ih =>
    rw [latest, Option.isSome_or, Bool.or_eq_true, ih, List.exists_mem_cons_iff, or_comm]
    apply or_congr_left
    split
    · rename_i named
      simp [named]
    · rename_i apart
      simp [apart]

/-- Events of orders alone leave the customer as it is, here or not. -/
theorem orders_processed {events : List OrderEvent} {who : Option (CustomerId × Option Date)}
    (own : ∀ event ∈ events, event.body.customer.bind toShopifyCustomerGid = some gid)
    (known : seen merchantId gid db = who) (done : processAll merchantId (events.map .order) db = .ok after) :
    seen merchantId gid after = who ∧
      (∀ number, orderAt merchantId number after =
        ((latest number events).map fun body =>
          written merchantId number body (who.bind fun row => if row.2 = none then some row.1 else none)).or
            (orderAt merchantId number db)) ∧
      ∀ customerId, who = some (customerId, none) → ∀ last ∈ events.getLast?,
        Counted merchantId customerId last.now after := by
  induction events generalizing db with
  | nil =>
    cases done
    exact ⟨known, fun _ => rfl, fun _ _ last none => absurd none (Option.not_mem_none last)⟩
  | cons event rest ih =>
    obtain ⟨middle, processed, later⟩ := bind_eq_ok_iff.mp done
    obtain ⟨number, wrapped, orders, visible, counts⟩ := handleOrderEvent_ok (own event List.mem_cons_self) processed
    rw [known] at orders counts
    obtain ⟨kept, lookups, counted⟩ :=
      ih (fun event listed => own event (List.mem_cons_of_mem _ listed)) ((visible gid).trans known) later
    refine ⟨kept, ?_, ?_⟩
    · intro other
      rw [lookups other, orders other, latest, wrapped]
      cases latest other rest with
      | some body => rfl
      | none =>
        by_cases same : other = number
        · rw [if_pos same, if_pos (congrArg some same.symm), same]
          rfl
        · rw [if_neg same, if_neg fun named => same (Option.some.inj named).symm]
          rfl
    · intro customerId there last final
      cases rest with
      | nil =>
        cases later
        cases final
        exact counts customerId there
      | cons next others =>
        rw [List.getLast?_cons_cons] at final
        exact counted customerId there last final

/-- A way for a customer and its orders to arrive: what comes before the customer, and what after. -/
structure Arrangement where
  before : List OrderEvent
  created : CustomerEvent
  after : List OrderEvent

namespace Arrangement

def events (arrangement : Arrangement) : List Event :=
  arrangement.before.map .order ++ .customer arrangement.created :: arrangement.after.map .order

def orderEvents (arrangement : Arrangement) : List OrderEvent := arrangement.before ++ arrangement.after

/-- When the last event was processed. -/
def ends (arrangement : Arrangement) : Date := (arrangement.after.getLast?.map (·.now)).getD arrangement.created.now

/-- The events are those of one customer and of its orders. -/
structure Concerns (gid : String) (arrangement : Arrangement) : Prop where
  customer : toShopifyCustomerGid arrangement.created.body.id = some gid
  orders : ∀ event ∈ arrangement.orderEvents, event.body.customer.bind toShopifyCustomerGid = some gid

def Names (number : String) (arrangement : Arrangement) : Prop :=
  ∃ event ∈ arrangement.orderEvents, toShopifyOrderGid event.body.id = some number

/-- Some event of the order comes after the customer. -/
def Late (number : String) (arrangement : Arrangement) : Prop :=
  ∃ event ∈ arrangement.after, toShopifyOrderGid event.body.id = some number

end Arrangement

variable {arrangement first second : Arrangement} {final : Db}

theorem arranged (absent : seen merchantId gid db = none) (concerns : arrangement.Concerns gid)
    (done : processAll merchantId arrangement.events db = .ok final) :
    (∀ number, orderAt merchantId number final =
      ((latest number arrangement.after).map fun body =>
        written merchantId number body (some arrangement.created.newId)).or
          (((latest number arrangement.before).map fun body => written merchantId number body none).or
            (orderAt merchantId number db))) ∧
      Counted merchantId arrangement.created.newId arrangement.ends final := by
  rw [Arrangement.events, processAll_append] at done
  obtain ⟨early, ran, rest⟩ := bind_eq_ok_iff.mp done
  obtain ⟨stored, created, later⟩ := bind_eq_ok_iff.mp rest
  obtain ⟨missing, before, _⟩ :=
    orders_processed (fun event listed => concerns.orders event (List.mem_append_left _ listed)) absent ran
  obtain ⟨orders, there, counted⟩ := handleCustomerEvent_ok concerns.customer missing created
  obtain ⟨_, after, counts⟩ :=
    orders_processed (fun event listed => concerns.orders event (List.mem_append_right _ listed)) there later
  constructor
  · intro number
    rw [after number, orderAt_congr orders, before number]
    rfl
  · cases last : arrangement.after.getLast? with
    | some event =>
      rw [Arrangement.ends, last]
      exact counts _ rfl event last
    | none =>
      rw [List.getLast?_eq_none_iff] at last
      rw [Arrangement.ends, last]
      rw [last] at later
      cases later
      exact counted

end Runs

section Commuting

/-- The customer that an order is linked to. -/
def linkOf (merchantId : MerchantId) (number : String) (db : Db) : Option CustomerId :=
  (db.orders.find? (OrderRepository.named merchantId number)).bind (·.customerId)

theorem linkOf_eq : linkOf merchantId number db = (orderAt merchantId number db).bind (·.customerId) := by
  rw [linkOf, orderAt, Option.bind_map]
  rfl

theorem decided_nodup (keep : Order → Bool) : ((db.orders.rows.filter keep).map decided).Nodup := by
  rw [List.Nodup, List.pairwise_map]
  refine (db.orders.unique.filter keep).imp ?_
  intro one two apart same
  have owner : (decided one).merchantId = (decided two).merchantId := congrArg _ same
  have number : (decided one).shopifyOrderId = (decided two).shopifyOrderId := congrArg _ same
  have owner : one.merchantId = two.merchantId := owner
  have number : one.shopifyOrderId = two.shopifyOrderId := number
  simp [Indexed.clash, Indexed.index, owner, number] at apart

theorem orderAt_of_mem {row : Order} (stored : row ∈ db.orders.rows) (owner : row.merchantId = merchantId) :
    orderAt merchantId row.shopifyOrderId db = some (decided row) := by
  have found : db.orders.find? (OrderRepository.named merchantId row.shopifyOrderId) = some row :=
    (Table.find?_eq_some_iff named_pins).mpr ⟨stored, by simp [OrderRepository.named, owner]⟩
  rw [orderAt, found, Option.map_some]

/-- The same lookups make the same orders count. -/
theorem ordersOf_perm {first second : Db}
    (same : ∀ number, orderAt merchantId number first = orderAt merchantId number second) :
    ((ordersOf merchantId now customerId first).map decided).Perm ((ordersOf merchantId now customerId second).map decided) := by
  have half {first second : Db} (same : ∀ number, orderAt merchantId number first = orderAt merchantId number second)
      {order : Order} (listed : order ∈ (ordersOf merchantId now customerId first).map decided) :
      order ∈ (ordersOf merchantId now customerId second).map decided := by
    obtain ⟨row, member, rfl⟩ := List.mem_map.mp listed
    obtain ⟨stored, counts⟩ := List.mem_filter.mp member
    have owner : row.merchantId = merchantId := by
      simp only [counted, Bool.and_eq_true, beq_iff_eq] at counts
      exact counts.1.1.1.1.1
    have there := (same row.shopifyOrderId).symm.trans (orderAt_of_mem stored owner)
    obtain ⟨twin, found, alike⟩ := Option.map_eq_some_iff.mp there
    refine List.mem_map.mpr ⟨twin, List.mem_filter.mpr ⟨(Table.find?_mem found).1, ?_⟩, alike⟩
    exact (congrArg (fun order => counted merchantId now order && order.customerId == some customerId) alike).trans counts
  refine (List.perm_ext_iff_of_nodup (decided_nodup _) (decided_nodup _)).mpr fun order => ?_
  exact ⟨half same, half fun number => (same number).symm⟩

variable {arrangement first second : Arrangement} {final other : Db}

theorem linkOf_arranged (absent : seen merchantId gid db = none) (concerns : arrangement.Concerns gid)
    (done : processAll merchantId arrangement.events db = .ok final) (named : arrangement.Names number) :
    (linkOf merchantId number final = some arrangement.created.newId ↔ arrangement.Late number) ∧
      (linkOf merchantId number final = none ↔ ¬arrangement.Late number) := by
  obtain ⟨lookups, _⟩ := arranged absent concerns done
  rw [linkOf_eq, lookups number, Arrangement.Late, ← latest_isSome]
  cases late : latest number arrangement.after with
  | some body => simp [written, OrderRepository.write]
  | none =>
    have early : (latest number arrangement.before).isSome = true := by
      have both := latest_isSome.mpr named
      rw [Arrangement.orderEvents, latest_append, late, Option.none_or] at both
      exact both
    obtain ⟨body, earlier⟩ := Option.isSome_iff_exists.mp early
    simp [earlier, written, OrderRepository.write]

/-- The columns that two arrangements leave to an order. -/
theorem orderAt_arranged (absent : seen merchantId gid db = none) (here : first.Concerns gid)
    (there : second.Concerns gid) (ran : processAll merchantId first.events db = .ok final)
    (also : processAll merchantId second.events db = .ok other) (same : first.created.newId = second.created.newId)
    (lasts : ∀ number, latest number first.orderEvents = latest number second.orderEvents)
    (late : ∀ number, first.Late number ↔ second.Late number) (number : String) :
    orderAt merchantId number final = orderAt merchantId number other := by
  have lasts := lasts number
  have late := late number
  rw [(arranged absent here ran).1 number, (arranged absent there also).1 number, same]
  rw [Arrangement.orderEvents, Arrangement.orderEvents, latest_append, latest_append] at lasts
  rw [Arrangement.Late, Arrangement.Late, ← latest_isSome, ← latest_isSome] at late
  cases one : latest number first.after with
  | some body =>
    cases two : latest number second.after with
    | some twin =>
      rw [one, two, Option.some_or, Option.some_or] at lasts
      cases lasts
      rfl
    | none => simp [one, two] at late
  | none =>
    cases two : latest number second.after with
    | some twin => simp [one, two] at late
    | none =>
      rw [one, two, Option.none_or, Option.none_or] at lasts
      rw [lasts]

/-- A customer and its orders, in whatever order they arrive: an order ends up linked to the
customer if and only if one of its events comes after the customer, and the score counts
the linked orders. Two arrangements that end the events of each order alike agree on the
links if and only if the same orders come late, and then on the score. -/
theorem arrivals_commute_iff (absent : seen merchantId gid db = none) (here : first.Concerns gid)
    (there : second.Concerns gid) (ran : processAll merchantId first.events db = .ok final)
    (also : processAll merchantId second.events db = .ok other) (same : first.created.newId = second.created.newId)
    (lasts : ∀ number, latest number first.orderEvents = latest number second.orderEvents) :
    (∀ number, first.Names number →
      (linkOf merchantId number final = some first.created.newId ↔ first.Late number) ∧
        (linkOf merchantId number final = none ↔ ¬first.Late number)) ∧
    Counted merchantId first.created.newId first.ends final ∧
    ((∀ number, first.Names number → linkOf merchantId number final = linkOf merchantId number other) ↔
      ∀ number, first.Late number ↔ second.Late number) ∧
    ((∀ number, first.Late number ↔ second.Late number) → first.ends = second.ends →
      ∃ score twin, scoreOf first.created.newId final = some score ∧ scoreOf first.created.newId other = some twin ∧
        score.fCount = twin.fCount ∧ score.mCents = twin.mCents) := by
  have names (number : String) : first.Names number ↔ second.Names number := by
    rw [Arrangement.Names, Arrangement.Names, ← latest_isSome, ← latest_isSome, lasts number]
  have late_names {arrangement : Arrangement} {number : String} (late : arrangement.Late number) :
      arrangement.Names number := by
    obtain ⟨event, listed, named⟩ := late
    exact ⟨event, List.mem_append_right _ listed, named⟩
  refine ⟨fun number => linkOf_arranged absent here ran, (arranged absent here ran).2, ?_, ?_⟩
  · constructor
    · intro links number
      constructor
      · intro late
        have linked := (linkOf_arranged absent here ran (late_names late)).1.mpr late
        rw [links number (late_names late), same] at linked
        exact (linkOf_arranged absent there also ((names number).mp (late_names late))).1.mp linked
      · intro late
        have named := (names number).mpr (late_names late)
        have linked := (linkOf_arranged absent there also (late_names late)).1.mpr late
        rw [← links number named, ← same] at linked
        exact (linkOf_arranged absent here ran named).1.mp linked
    · intro late number _
      rw [linkOf_eq, linkOf_eq, orderAt_arranged absent here there ran also same lasts late number]
  · intro late ends
    obtain ⟨score, scored, count, sum⟩ := (arranged absent here ran).2
    obtain ⟨twin, matched, count', sum'⟩ := (arranged absent there also).2
    have orders := @ordersOf_perm merchantId first.created.newId first.ends final other
      (orderAt_arranged absent here there ran also same lasts late)
    refine ⟨score, twin, scored, same ▸ matched, ?_, ?_⟩
    · have lengths := orders.length_eq
      rw [List.length_map, List.length_map] at lengths
      rw [count, count', lengths, same, ends]
    · have sums := (orders.map (·.totalAmountCents)).sum_eq
      rw [List.map_map, List.map_map] at sums
      rw [sum, sum', ← same, ← ends]
      exact sums

end Commuting

section Samples

def emptyShop : Db where
  merchants := .single { id := "m", shop := "m.myshopify.com" }

def arrival : CustomerEvent where
  body := { id := .number 7, createdAt := 0, updatedAt := 0 }
  newId := "c"
  now := 5

/-- An event of the one order of the customer. -/
def orderEvent (status : String) : OrderEvent where
  body := {
    id := .number 1
    customer := some (.number 7)
    financialStatus := some status
    totalAmountCents := 900
    createdAt := 0 }
  newId := "o"
  now := 5

def customerFirst : Arrangement := ⟨[], arrival, [orderEvent "paid"]⟩

def orderFirst : Arrangement := ⟨[orderEvent "paid"], arrival, []⟩

/-- The link of the order and the raw score, once everything has arrived. -/
def outcome (arrangement : Arrangement) : Option (Option CustomerId × Option (Int × Int)) :=
  (processAll "m" arrangement.events emptyShop).toOption.map fun db =>
    (linkOf "m" "gid://shopify/Order/1" db, (scoreOf "c" db).map fun score => (score.fCount, score.mCents))

/-- The order that comes first is never linked; and of two events of one order the later one counts. -/
theorem order_before_customer :
    outcome customerFirst = some (some "c", some (1, 900)) ∧ outcome orderFirst = some (none, some (0, 0)) ∧
      outcome ⟨[], arrival, [orderEvent "pending", orderEvent "paid"]⟩ = some (some "c", some (1, 900)) ∧
      outcome ⟨[], arrival, [orderEvent "paid", orderEvent "pending"]⟩ = some (some "c", some (0, 0)) := by
  decide

def orderTwice : Arrangement := ⟨[orderEvent "paid"], arrival, [orderEvent "paid"]⟩

theorem concerns_arrival {arrangement : Arrangement} (customer : arrangement.created = arrival)
    (orders : ∀ event ∈ arrangement.orderEvents, event.body.customer = some (.number 7)) :
    arrangement.Concerns "gid://shopify/Customer/7" := by
  constructor
  · rw [customer]
    decide
  · intro event listed
    rw [orders event listed]
    decide

/-- A second event of the order makes up for the first one. -/
theorem order_again_linked :
    ∃ final other, processAll "m" customerFirst.events emptyShop = .ok final ∧
      processAll "m" orderTwice.events emptyShop = .ok other ∧
      linkOf "m" "gid://shopify/Order/1" final = some "c" ∧
      linkOf "m" "gid://shopify/Order/1" final = linkOf "m" "gid://shopify/Order/1" other := by
  have once : (processAll "m" customerFirst.events emptyShop).toOption.isSome = true := by decide
  have twice : (processAll "m" orderTwice.events emptyShop).toOption.isSome = true := by decide
  obtain ⟨final, ran⟩ := Option.isSome_iff_exists.mp once
  obtain ⟨other, also⟩ := Option.isSome_iff_exists.mp twice
  have ran := toOption_eq_some_iff.mp ran
  have also := toOption_eq_some_iff.mp also
  have named : toShopifyOrderGid (orderEvent "paid").body.id = some "gid://shopify/Order/1" := by decide
  have lasts (number : String) : latest number customerFirst.orderEvents = latest number orderTwice.orderEvents := by
    change latest number [orderEvent "paid"] = latest number [orderEvent "paid", orderEvent "paid"]
    simp only [latest, Option.none_or, Option.or_self]
  have late (number : String) : customerFirst.Late number ↔ orderTwice.Late number := Iff.rfl
  have agree := arrivals_commute_iff (by decide)
    (concerns_arrival rfl (by simp [Arrangement.orderEvents, customerFirst, orderEvent]))
    (concerns_arrival rfl (by simp [Arrangement.orderEvents, orderTwice, orderEvent])) ran also rfl lasts
  have names : customerFirst.Names "gid://shopify/Order/1" := ⟨orderEvent "paid", List.mem_singleton_self _, named⟩
  exact ⟨final, other, ran, also, (agree.1 _ names).1.mpr ⟨orderEvent "paid", List.mem_singleton_self _, named⟩,
    agree.2.2.1.mpr late _ names⟩

end Samples

end WinBack.Scoring.Arrival
