import WinBack.Scoring.Chain

/-! The webhook transactions next to the sweeps, statement by statement. Under READ
COMMITTED a statement reads what is committed when it runs, and what its own transaction
wrote before; what a transaction wrote shows to the others when it commits. -/

namespace WinBack.Scoring.Webhooks

open Library CustomerScoreService

/-- What a webhook writes before it scores. The customer of an order is resolved first. -/
inductive Write where
  | customer (merchantId : MerchantId) (body : ShopifyCustomerWebhookBody) (newId : CustomerId) (now : Date)
  | order (merchantId : MerchantId) (gid : String) (body : ShopifyOrderWebhookBody)
      (status : Option OrderFinancialStatus) (customerId : Option CustomerId) (newId : String)

namespace Write

def merchantId : Write → MerchantId
  | .customer merchantId _ _ _ => merchantId
  | .order merchantId _ _ _ _ _ => merchantId

/-- The customer to score, and the store. -/
def perform (db : Db) : Write → Except RepositoryError (Option CustomerId × Db)
  | .customer merchantId body newId now =>
    (CustomerRepository.upsertFromWebhook merchantId body newId now db).map fun (result, db) =>
      (some result.customerId, db)
  | .order merchantId gid body status customerId newId =>
    (OrderRepository.place merchantId gid body status customerId newId db).map fun (_, db) => (customerId, db)

/-- The customer that the order of the webhook is linked to so far. -/
def linked? (db : Db) : Write → Option CustomerId
  | .customer _ _ _ _ => none
  | .order merchantId gid _ _ _ _ => (db.orders.find? (OrderRepository.named merchantId gid)).bind (·.customerId)

end Write

/-- `handleOrderEvent` and the customer handlers, as one transaction that nothing interrupts. -/
def handle (write : Write) (now : Date) (db : Db) : Except RepositoryError Db := do
  let (customerId, db) ← write.perform db
  match customerId with
  | none => return db
  | some customerId => recompute write.merchantId customerId now db

/-- What a sweep was started with: the first pass announces nothing and takes every state. -/
structure Sweep where
  merchant : Merchant
  announced : Option Announcement := none
  states : Option (List CustomerState) := none
  now : Date
  batchSize : Nat

/-- What a transaction scores. `cohortAt` and `readAt` are how much had been logged when the
cohort and the customers were read. -/
structure Page where
  merchant : Merchant
  snapshot : CohortSnapshot
  cohortAt : Nat
  announced : Option Announcement
  customers : List Customer
  readAt : Nat
  sweep : Option Sweep := none

inductive Stage where
  | upserting (write : Write) (now : Date)
  | locating (merchantId : MerchantId) (customerId : CustomerId) (now : Date)
  | recomputing (merchantId : MerchantId) (customer : Customer) (now : Date) (merchant : Option Merchant) (readAt : Nat)
  | sweeping (sweep : Sweep) (snapshot : Option (CohortSnapshot × Nat)) (cursor : Option CustomerId)
  | writing (page : Page)
  | written    -- nothing to score

structure Task where
  write : Option Write := none
  stage : Stage

namespace Task

/-- The store as the transaction sees it. Its own write stands on what is committed by now. -/
def own (db : Db) (task : Task) : Except RepositoryError Db :=
  match task.write with
  | none => .ok db
  | some write => (write.perform db).map Prod.snd

/-- The next statement. A task that throws ends. -/
def read (clock : Nat) (db : Db) (task : Task) : Option Task :=
  (task.own db).toOption.bind fun db =>
    match task.stage with
    | .upserting write now => (write.perform db).toOption.map fun (customerId, _) => {
        write := some write
        stage := customerId.elim .written fun customerId => .locating write.merchantId customerId now }
    | .locating merchantId customerId now =>
      match db.customers.find? fun row => row.id == customerId && row.deletedAt == none with
      | none => some { task with stage := .written }
      | some customer => some { task with stage := .recomputing merchantId customer now none clock }
    | .recomputing merchantId customer now none readAt =>
      (db.merchants.find? (·.id == merchantId)).map fun merchant =>
        { task with stage := .recomputing merchantId customer now (some merchant) readAt }
    | .recomputing merchantId customer now (some merchant) readAt =>
      (CohortSnapshot.read merchantId now db).toOption.map fun snapshot => { task with stage := .writing {
        merchant
        snapshot
        cohortAt := clock
        announced := some { actorId := "drainer" }
        customers := [customer]
        readAt } }
    | .sweeping sweep none cursor =>
      (CohortSnapshot.read sweep.merchant.id sweep.now db).toOption.map fun snapshot =>
        { task with stage := .sweeping sweep (some (snapshot, clock)) cursor }
    | .sweeping sweep (some (snapshot, cohortAt)) cursor => some { task with stage := .writing {
        merchant := sweep.merchant
        snapshot
        cohortAt
        announced := sweep.announced
        customers := fetch sweep.merchant sweep.states sweep.batchSize cursor db
        readAt := clock
        sweep := some sweep } }
    | .writing _ => some task
    | .written => some task

/-- What the transaction commits, once it has read all it reads. -/
def commit? (db : Db) (task : Task) : Option (Except RepositoryError Db) :=
  match task.stage with
  | .written => some (task.own db)
  | .writing page => some do
    let db ← task.own db
    rescorePage page.merchant page.snapshot page.announced page.customers db
  | _ => none

/-- A page that is not full is the last one of its sweep. -/
def next? (task : Task) : Option Task :=
  match task.stage with
  | .writing page =>
    match page.sweep, page.customers.getLast? with
    | some sweep, some last =>
      if page.customers.length < sweep.batchSize then none
      else some { stage := .sweeping sweep (some (page.snapshot, page.cohortAt)) (some last.id) }
    | _, _ => none
  | _ => none

end Task

/-- A customer as a committed transaction scored it. -/
structure Evaluation where
  customerId : CustomerId
  oldState : CustomerState
  newState : CustomerState
  announced : Bool
  readAt : Nat
  deriving DecidableEq, Repr

/-- What is logged of a commit. No statement reads the log. -/
inductive Entry where
  | placed (before after : Option CustomerId)
  | scored (evaluation : Evaluation)
  deriving DecidableEq, Repr

def Page.evaluate (page : Page) (row : Customer) : Evaluation where
  customerId := row.id
  oldState := row.state
  newState := (page.snapshot.resolve row).newState
  announced := decide (row.state ≠ (page.snapshot.resolve row).newState) && page.announced.isSome &&
    page.merchant.scoringInitializedAt.isSome
  readAt := page.readAt

namespace Task

def placements (db : Db) (task : Task) : List Entry :=
  match task.write with
  | some (.order merchantId gid body status customerId newId) =>
    [.placed (Write.linked? db (.order merchantId gid body status customerId newId)) customerId]
  | _ => []

def scorings (task : Task) : List Entry :=
  match task.stage with
  | .writing page => page.customers.map fun row => .scored (page.evaluate row)
  | _ => []

def entries (db : Db) (task : Task) : List Entry := task.placements db ++ task.scorings

end Task

structure World where
  db : Db
  tasks : Pool Task := []
  log : List Entry := []

inductive Label where
  | customerEvent (merchantId : MerchantId) (body : ShopifyCustomerWebhookBody) (newId : CustomerId) (now : Date)
  | orderEvent (merchantId : MerchantId) (body : ShopifyOrderWebhookBody) (newId : String) (now : Date)
  | recompute (merchantId : MerchantId) (customerId : CustomerId) (now : Date)
  | bulkRescore (merchantId : MerchantId) (now : Date) (batchSize : Nat)
  | decayRescore (merchantId : MerchantId) (actorId : String) (now : Date) (batchSize : Nat)
  | customersBackfilled (merchantId : MerchantId) (items : List (ShopifyCustomerNode × CustomerId)) (now : Date)
  | ordersBackfilled (merchantId : MerchantId) (items : List (ShopifyOrderWebhookBody × String))
  | read (slot : Nat)
  | commit (slot : Nat)
  | abort (slot : Nat)
  | elsewhere (after : Db)

/-- Whom an announced transition is about, and what it says. -/
def announcement (row : OutboxEvent) : Option (Option Compliance.Reference × Option (Move CustomerState)) :=
  if row.type = stateChangedType then some (payloadCustomer row.payload, payloadMove row.payload) else none

/-- `Customer.state` and the announced transitions are the scoring service's own. -/
def Undisturbed (db after : Db) : Prop :=
  (after.customers.rows.map fun row => (row.id, row.state)) = (db.customers.rows.map fun row => (row.id, row.state)) ∧
    after.outboxEvents.rows.filterMap announcement = db.outboxEvents.rows.filterMap announcement

instance (db after : Db) : Decidable (Undisturbed db after) := inferInstanceAs (Decidable (_ ∧ _))

namespace World

def start (stage : Stage) (world : World) : World := { world with tasks := world.tasks.spawn { stage } }

def settle (slot : Nat) (next : Option Task) (world : World) : World :=
  { world with tasks := next.elim (world.tasks.clear slot) fun task => world.tasks.put slot task }

/-- A statement of its own that throws changes nothing. -/
def become (result : Except RepositoryError Db) (world : World) : World :=
  match result with
  | .error _ => world
  | .ok after => { world with db := after }

def commit (slot : Nat) (task : Task) (after : Db) (world : World) : World :=
  { world with db := after, log := world.log ++ task.entries world.db }.settle slot task.next?

end World

def machine : Machine World Label where
  step world
    | .customerEvent merchantId body newId now =>
      some (world.start (.upserting (.customer merchantId body newId now) now))
    | .orderEvent merchantId body newId now =>
      match toShopifyOrderGid body.id, OrderRepository.parseFinancialStatus body.financialStatus with
      | some gid, .ok status =>
        let customerId := OrderRepository.resolveCustomerFk merchantId body world.db
        some (world.start (.upserting (.order merchantId gid body status customerId newId) now))
      | _, _ => some world
    | .recompute merchantId customerId now => some (world.start (.locating merchantId customerId now))
    | .bulkRescore merchantId now batchSize =>
      match world.db.merchants.find? (·.id == merchantId) with
      | none => some world
      | some merchant => some (world.start (.sweeping { merchant, now, batchSize } none none))
    | .decayRescore merchantId actorId now batchSize =>
      match world.db.merchants.find? (·.id == merchantId) with
      | none => some world
      | some merchant => some (world.start (.sweeping {
          merchant
          announced := some ⟨actorId, some "decay_sweep"⟩
          states := some decayWorkingSetStates
          now
          batchSize } none none))
    | .customersBackfilled merchantId items now =>
      some (world.become (CustomerRepository.processItems merchantId now items world.db))
    | .ordersBackfilled merchantId items =>
      some (world.become (OrderRepository.processItems merchantId items world.db))
    | .read slot => (world.tasks.task? slot).map fun task => world.settle slot (task.read world.log.length world.db)
    | .commit slot => (world.tasks.task? slot).bind fun task => (task.commit? world.db).map fun result =>
      match result with
      | .error _ => world.settle slot none
      | .ok after => world.commit slot task after
    | .abort slot => some (world.settle slot none)
    | .elsewhere after => if Undisturbed world.db after then some { world with db := after } else none

/-- An order upsert writes orders only. -/
theorem place_frame {merchantId : MerchantId} {gid newId orderId : String} {db after : Db} {body : ShopifyOrderWebhookBody}
    {status : Option OrderFinancialStatus} {link : Option CustomerId}
    (done : OrderRepository.place merchantId gid body status link newId db = .ok (orderId, after)) :
    ∃ orders, after = { db with orders } := by
  unfold OrderRepository.place at done
  split at done
  · cases done
    exact ⟨_, rfl⟩
  · split at done
    · cases done
    · split at done
      · cases done
        exact ⟨_, rfl⟩
      · cases done

section Alone

variable {write : Write} {now : Date} {db own : Db} {merchantId : MerchantId} {customerId : CustomerId}
  {customer : Customer} {merchant : Merchant}

/-- The reads of a recompute that nothing interrupts. -/
theorem recompute_alone {task : Task} (sees : task.own db = .ok own)
    (live : (own.customers.find? fun row => row.id == customerId && row.deletedAt == none) = some customer)
    (found : own.merchants.find? (·.id == merchantId) = some merchant) (clock : Nat) :
    ∃ last, (((({ task with stage := .locating merchantId customerId now } : Task).read clock db).bind
        (Task.read clock db)).bind (Task.read clock db)) = some last ∧ last.next? = none ∧
      last.commit? db = some (recompute merchantId customerId now own) := by
  refine ⟨{ task with stage := .writing {
      merchant
      snapshot := .of merchantId now own
      cohortAt := clock
      announced := some { actorId := "drainer" }
      customers := [customer]
      readAt := clock } }, ?_, rfl, ?_⟩
  · have sees' (stage : Stage) : ({ task with stage } : Task).own db = .ok own := sees
    have first : ({ task with stage := .locating merchantId customerId now } : Task).read clock db =
        some { task with stage := .recomputing merchantId customer now none clock } := by
      simp only [Task.read, sees', Except.toOption, Option.bind_some, live]
    have second : ({ task with stage := .recomputing merchantId customer now none clock } : Task).read clock db =
        some { task with stage := .recomputing merchantId customer now (some merchant) clock } := by
      simp only [Task.read, sees', Except.toOption, Option.bind_some, found, Option.map_some]
    rw [first, Option.bind_some, second, Option.bind_some]
    simp only [Task.read, sees', Except.toOption, Option.bind_some, read_eq, Option.map_some]
  · have sees' (stage : Stage) : ({ task with stage } : Task).own db = .ok own := sees
    simp only [Task.commit?, sees', rescorePage, recompute, live, read_eq, CustomerScoreService.recompute, found, bind,
      Except.bind, CohortSnapshot.of]
    split <;> simp_all

/-- A webhook that nothing interrupts does what its handler does. -/
theorem handle_alone (performed : write.perform db = .ok (some customerId, own))
    (live : (own.customers.find? fun row => row.id == customerId && row.deletedAt == none) = some customer)
    (found : own.merchants.find? (·.id == write.merchantId) = some merchant) (clock : Nat) :
    ∃ last, ((((({ stage := .upserting write now } : Task).read clock db).bind (Task.read clock db)).bind
        (Task.read clock db)).bind (Task.read clock db)) = some last ∧ last.next? = none ∧
      last.commit? db = some (handle write now db) := by
  have sees : ({ write := some write, stage := .written } : Task).own db = .ok own := by
    simp [Task.own, performed, Except.map]
  obtain ⟨last, reads, single, commits⟩ := @recompute_alone now _ _ _ _ _ _ _ sees live found clock
  refine ⟨last, ?_, single, ?_⟩
  · have first : ({ stage := .upserting write now } : Task).read clock db =
        some { write := some write, stage := .locating write.merchantId customerId now } := by
      simp [Task.read, Task.own, performed, Except.toOption]
    rw [first]
    exact reads
  · rw [commits, handle, performed]
    rfl

end Alone

end WinBack.Scoring.Webhooks
