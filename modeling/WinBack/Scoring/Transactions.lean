import WinBack.Library.Machine
import WinBack.Library.Pool
import WinBack.Library.Trail
import WinBack.Scoring.Sweep

/-! Recomputes and decay sweeps that run at the same time, read by read. Every statement
reads what is committed when it runs; what a transaction writes shows when it commits. -/

namespace WinBack.Scoring

open Library CustomerScoreService

/-- A transaction that has read all it reads. -/
structure Page where
  merchant : Merchant
  snapshot : CohortSnapshot
  announced : Announcement
  customers : List Customer
  /-- The page size of a sweep; a recompute has one customer and nothing to go on with. -/
  batchSize : Option Nat := none

inductive Task where
  | recomputing (merchantId : MerchantId) (customer : Customer) (now : Date) (merchant : Option Merchant)
  | sweeping (merchant : Merchant) (actorId : String) (now : Date) (batchSize : Nat)
      (snapshot : Option CohortSnapshot) (cursor : Option CustomerId)
  | writing (page : Page)

/-- The next read. A task that finds no merchant throws and ends. -/
def Task.read (db : Db) : Task → Option Task
  | .recomputing merchantId customer now none =>
    (db.merchants.find? (·.id == merchantId)).map fun merchant => .recomputing merchantId customer now (some merchant)
  | .recomputing merchantId customer now (some merchant) =>
    (CohortSnapshot.read merchantId now db).toOption.map fun snapshot =>
      .writing { merchant, snapshot, announced := { actorId := "drainer" }, customers := [customer] }
  | .sweeping merchant actorId now batchSize none cursor =>
    (CohortSnapshot.read merchant.id now db).toOption.map fun snapshot =>
      .sweeping merchant actorId now batchSize (some snapshot) cursor
  | .sweeping merchant actorId _ batchSize (some snapshot) cursor => some (.writing {
      merchant
      snapshot
      announced := ⟨actorId, some "decay_sweep"⟩
      customers := fetch merchant (some decayWorkingSetStates) batchSize cursor db
      batchSize := some batchSize })
  | .writing page => some (.writing page)

namespace Page

def write (page : Page) (db : Db) : Except RepositoryError Db :=
  rescorePage page.merchant page.snapshot (some page.announced) page.customers db

/-- What the task of a committed page does next: a page that is not full is the last one. -/
def next? (page : Page) : Option Task :=
  match page.batchSize, page.customers.getLast? with
  | some batchSize, some last =>
    if page.customers.length < batchSize then none
    else some (.sweeping page.merchant page.announced.actorId page.snapshot.now batchSize (some page.snapshot)
      (some last.id))
  | _, _ => none

end Page

inductive Label where
  | recompute (merchantId : MerchantId) (customerId : CustomerId) (now : Date)
  | decayRescore (merchantId : MerchantId) (actorId : String) (now : Date) (batchSize : Nat)
  | read (slot : Nat)
  | commit (slot : Nat)
  | abort (slot : Nat)
  | elsewhere (after : Db)

/-- `moves` records what `Customer.state` of one customer went through. -/
structure World where
  db : Db
  tasks : Pool Task := []
  moves : List (Move CustomerState) := []

/-- The move of a customer between two stores. -/
def moved (customerId : CustomerId) (db after : Db) : List (Move CustomerState) :=
  match stateOf customerId db, stateOf customerId after with
  | some before, some state => movement before state
  | _, _ => []

/-- The store after a transaction. -/
def World.become (customerId : CustomerId) (after : Db) (world : World) : World :=
  { world with db := after, moves := world.moves ++ moved customerId world.db after }

def World.settle (slot : Nat) (next : Option Task) (world : World) : World :=
  { world with tasks := next.elim (world.tasks.clear slot) fun task => world.tasks.put slot task }

/-- Scoring with an eye on one customer. -/
def scoring (customerId : CustomerId) : Machine World Label where
  step world
    | .recompute merchantId customerId now =>
      match world.db.customers.find? fun row => row.id == customerId && row.deletedAt == none with
      | none => some world
      | some customer => some { world with tasks := world.tasks.spawn (.recomputing merchantId customer now none) }
    | .decayRescore merchantId actorId now batchSize =>
      match world.db.merchants.find? (·.id == merchantId) with
      | none => some world
      | some merchant =>
        some { world with tasks := world.tasks.spawn (.sweeping merchant actorId now batchSize none none) }
    | .read slot => (world.tasks.task? slot).map fun task => world.settle slot (task.read world.db)
    | .commit slot =>
      match world.tasks.task? slot with
      | some (.writing page) =>
        match page.write world.db with
        | .error _ => some (world.settle slot none)
        | .ok after => some ((world.become customerId after).settle slot page.next?)
      | _ => none
    | .abort slot => some (world.settle slot none)
    | .elsewhere after => some (world.become customerId after)

section Alone

variable {merchantId : MerchantId} {customerId : CustomerId} {now : Date} {db : Db} {customer : Customer}
  {merchant : Merchant} {actorId : String} {batchSize : Nat} {snapshot : CohortSnapshot} {cursor : Option CustomerId}

/-- A recompute that nothing interrupts is the one of the service. -/
theorem recompute_alone
    (live : (db.customers.find? fun row => row.id == customerId && row.deletedAt == none) = some customer)
    (found : db.merchants.find? (·.id == merchantId) = some merchant) :
    ∃ page, ((Task.recomputing merchantId customer now none).read db).bind (Task.read db) = some (.writing page) ∧
      page.next? = none ∧ page.write db = recompute merchantId customerId now db := by
  refine ⟨{
      merchant
      snapshot := .of merchantId now db
      announced := { actorId := "drainer" }
      customers := [customer] }, ?_, rfl, ?_⟩
  · simp [Task.read, found, read_eq, Except.toOption]
  · simp only [Page.write, rescorePage, recompute, live, read_eq, CustomerScoreService.recompute, found, bind,
      Except.bind, CohortSnapshot.of]
    split <;> simp_all

/-- The page loop of a decay sweep. -/
def decayFrom (merchant : Merchant) (snapshot : CohortSnapshot) (actorId : String) (batchSize fuel : Nat)
    (cursor : Option CustomerId) (db : Db) : Db :=
  (Paging.sweep Customer.id batchSize (fetch merchant (some decayWorkingSetStates) batchSize)
    (rescorePage merchant snapshot (some ⟨actorId, some "decay_sweep"⟩)) fuel cursor db).state

theorem decayRescore_db (stored : merchant ∈ db.merchants.rows) (actorId : String) (now : Date) (batchSize : Nat) :
    (decayRescore merchant.id actorId now batchSize db).db =
      decayFrom merchant (.of merchant.id now db) actorId batchSize (db.customers.rows.length + 1) none db := by
  simp only [decayRescore, begin_eq _ stored]
  split
  · rfl
  · rfl
  · rfl

/-- A page that nothing interrupts is one turn of the page loop. -/
theorem decayFrom_alone (fuel : Nat) : ∃ page,
    (Task.sweeping merchant actorId snapshot.now batchSize (some snapshot) cursor).read db = some (.writing page) ∧
      decayFrom merchant snapshot actorId batchSize (fuel + 1) cursor db =
        match page.write db with
        | .error _ => db
        | .ok next =>
          match page.next? with
          | some (.sweeping merchant actorId _ batchSize (some snapshot) cursor) =>
            decayFrom merchant snapshot actorId batchSize fuel cursor next
          | _ => next := by
  refine ⟨_, rfl, ?_⟩
  unfold decayFrom Page.next? Page.write
  rw [Paging.sweep]
  dsimp only
  cases rescorePage merchant snapshot (some ⟨actorId, some "decay_sweep"⟩)
      (fetch merchant (some decayWorkingSetStates) batchSize cursor db) db with
  | error => rfl
  | ok next =>
    cases (fetch merchant (some decayWorkingSetStates) batchSize cursor db).getLast? with
    | none => rfl
    | some last =>
      dsimp only
      by_cases short : (fetch merchant (some decayWorkingSetStates) batchSize cursor db).length < batchSize
      · rw [if_pos short, if_pos short]
      · rw [if_neg short, if_neg short]

end Alone

end WinBack.Scoring
