import WinBack.Shopify.Backfill

/-! What an install leaves of the customers, over any history of the job. -/

namespace WinBack.Backfill

open Library CustomerRepository
open Runner (BackfillJob BackfillRunResult Cursor FinalStatus Progress Thrown jobFor pageLimitExceeded)

section Shop

/-- The customers of a shop, as the connection sorts them. -/
structure Connection where
  customers : List ShopifyCustomer := []
  sorted : customers.Pairwise fun first second => first.id < second.id := by simp

/-- A cursor has passed every customer up to the one it stands for. -/
def passed (cursor : Option Cursor) (customer : ShopifyCustomer) : Bool := cursor.any fun last => decide (customer.id ≤ last)

def Connection.ahead (connection : Connection) (cursor : Option Cursor) : List ShopifyCustomer :=
  connection.customers.filter fun customer => !passed cursor customer

def Connection.page (connection : Connection) (first : Nat) (cursor : Option Cursor) : Page where
  items := ((connection.ahead cursor).take first).map ShopifyCustomer.toNode
  endCursor := ((connection.ahead cursor).take first).getLast?.map (·.id)
  hasNextPage := decide (first < (connection.ahead cursor).length)

/-- The rows that an install and its backfill touch. -/
structure Store where
  db : Db := {}
  sessions : Table Session := ∅
  backfillJobs : Table BackfillJob := ∅

/-- What comes to a call from outside: Shopify's side of it, the clock, new ids and whether the call
or its answer is lost. -/
structure Choice where
  connection : Connection := {}
  rejects : Bool := false    -- Shopify answers 401
  details : ShopDetails := {}
  now : Date := 0
  eventId : String := ""
  newId : Nat → CustomerId := fun _ => ""
  fails : Bool := false
  lost : Bool := false
  message : String := ""

end Shop

section Server

variable (decrypt : String → Option String)

/-- What comes to a transaction. -/
def Choice.fate (choice : Choice) : Runner.Choice Unit where
  seed := ()
  fails := if choice.fails then some (.other choice.message) else none
  loses := if choice.lost then some (.other choice.message) else none
  now := choice.now
  message := choice.message

def committed {Value : Type} (choice : Choice) (done : Except RepositoryError (Value × Store)) (store : Store) :
    Except Thrown Value × Store := Runner.transact choice.fate done store

/-- `AdminClient` up to the response: a 401 marks the merchant. -/
def authorized (merchantId : MerchantId) (choice : Choice) (store : Store) : Except Thrown Unit × Store :=
  match Shopify.getOfflineToken decrypt merchantId store.sessions store.db with
  | none => (.error (.tokenRevoked ("No usable offline token for merchant " ++ merchantId)), store)
  | some _ =>
    if choice.fails then (.error (.other choice.message), store)
    else if choice.rejects then
      match Shopify.markTokenRevoked merchantId choice.eventId choice.now store.db with
      | .error _ => (.error (.other choice.message), store)
      | .ok db => (.error (.tokenRevoked ("Merchant " ++ merchantId ++ " returned 401 (token revoked)")), { store with db })
    else (.ok (), store)

/-- Shopify takes from 1 to 250 for `first`. -/
def answerCustomers (merchantId : MerchantId) (first : Nat) (cursor : Option Cursor) (choice : Choice) (store : Store) :
    Except Thrown (Option Page) × Store :=
  match authorized decrypt merchantId choice store with
  | (.error thrown, store) => (.error thrown, store)
  | (.ok (), store) =>
    if 1 ≤ first ∧ first ≤ 250 then (.ok (some (choice.connection.page first cursor)), store)
    else (.error (.other choice.message), store)

def shopDetailsFetched (details : ShopDetails) : Json :=
  let text (value : Option String) := value.elim Json.null .str
  .obj [("country", text details.country), ("currency", text details.currency), ("plan", text details.plan)]

def updateEnrichment (merchantId : MerchantId) (details : ShopDetails) (eventId : String) (now : Date) (db : Db) :
    Except RepositoryError Db :=
  if db.merchants.any (·.id == merchantId) then
    Shopify.createEvent merchantId .merchantShopDetailsFetched (shopDetailsFetched details) eventId now { db with
      merchants := db.merchants.updateMany (·.id == merchantId) (fun row => { row with
        name := details.name
        currency := details.currency
        timezone := details.timezone }) fun _ => rfl }
  else .error .recordNotFound

/-- It throws nothing. -/
def answerEnrich (merchantId : MerchantId) (choice : Choice) (store : Store) : Bool × Store :=
  match authorized decrypt merchantId choice store with
  | (.error _, store) => (false, store)
  | (.ok (), store) =>
    match updateEnrichment merchantId choice.details choice.eventId choice.now store.db with
    | .error _ => (false, store)
    | .ok db => (!choice.lost, { store with db })

/-- A change of the jobs alone. -/
def onJobs {Value : Type} (change : Table BackfillJob → Except RepositoryError (Value × Table BackfillJob)) (store : Store) :
    Except RepositoryError (Value × Store) :=
  (change store.backfillJobs).map fun (value, backfillJobs) => (value, { store with backfillJobs })

/-- A new job needs its merchant. -/
def getOrCreate (merchantId : MerchantId) (resource : String) (pageSize : Nat) (store : Store) :
    Except RepositoryError (BackfillJob × Store) :=
  if store.backfillJobs.any (jobFor merchantId resource) || store.db.merchants.any (·.id == merchantId) then
    onJobs (Runner.BackfillJobRepository.getOrCreate merchantId resource pageSize) store
  else .error .foreignKey

/-- The page and the cursor in one transaction. -/
def commitPage (merchantId : MerchantId) (resource : String) (items : List ShopifyCustomerNode)
    (newCursor : Option Cursor) (newId : Nat → CustomerId) (now : Date) (store : Store) :
    Except RepositoryError (Unit × Store) := do
  let db ← Runner.processPage customerPageProcessor merchantId (newId, now) items store.db
  onJobs (Runner.BackfillJobRepository.commitPage merchantId resource items.length newCursor) { store with db }

def complete (merchantId : MerchantId) (resource : String) (pagesProcessed itemsProcessed : Nat) (eventId : String)
    (now : Date) (store : Store) : Except RepositoryError (Unit × Store) := do
  let (_, store) ← onJobs (Runner.BackfillJobRepository.markCompleted merchantId resource now) store
  let db ← Shopify.createEvent merchantId .merchantBackfillCompleted
    (Runner.backfillCompleted resource pagesProcessed itemsProcessed) eventId now store.db
  return ((), { store with db })

/-- A call of the runner. -/
def serve (store : Store) (request : Runner.Call ShopifyCustomerNode) (choice : Choice) :
    Except Thrown request.Value × Store :=
  match request with
  | .getOrCreate merchantId resource pageSize => committed choice (getOrCreate merchantId resource pageSize store) store
  | .markStarted merchantId resource =>
    committed choice (onJobs (Runner.BackfillJobRepository.markStarted merchantId resource choice.now) store) store
  | .fetch merchantId cursor pageSize =>
    let (answer, store) := answerCustomers decrypt merchantId pageSize cursor choice store
    (answer.map fetched, store)
  | .commitPage merchantId resource items newCursor =>
    committed choice (commitPage merchantId resource items newCursor choice.newId choice.now store) store
  | .complete merchantId resource pagesProcessed itemsProcessed =>
    committed choice (complete merchantId resource pagesProcessed itemsProcessed choice.eventId choice.now store) store
  | .markPaused merchantId resource error =>
    committed choice (onJobs (Runner.BackfillJobRepository.markPaused merchantId resource error) store) store
  | .markFailed merchantId resource error =>
    committed choice (onJobs (Runner.BackfillJobRepository.markFailed merchantId resource error) store) store

def exec (store : Store) (request : Call) (choice : Choice) : Except Thrown request.Value × Store :=
  match request with
  | .enrichInstall merchantId =>
    let (answer, store) := answerEnrich decrypt merchantId choice store
    (.ok answer, store)
  | .runner request => serve decrypt store request choice

/-- The handler alone, with what comes to each of its calls. -/
def alone (choices : Nat → Choice) (state : Nat × Store) (request : Call) : Except Thrown request.Value × (Nat × Store) :=
  let (answer, store) := exec decrypt state.2 request (choices state.1)
  (answer, state.1 + 1, store)

/-- The handler's runner, with what comes to each of its calls. -/
def serving (choices : Nat → Choice) (state : Nat × Store) (request : Runner.Call ShopifyCustomerNode) :
    Except Thrown request.Value × (Nat × Store) := alone decrypt choices state (.runner request)

end Server

section Pages

variable {connection : Connection} {cursor : Option Cursor} {first : Nat} {snapshot : ShopifyCustomer}

/-- The customers of a page. -/
def Connection.taken (connection : Connection) (first : Nat) (cursor : Option Cursor) : List ShopifyCustomer :=
  (connection.ahead cursor).take first

theorem mem_ahead : snapshot ∈ connection.ahead cursor ↔ snapshot ∈ connection.customers ∧ passed cursor snapshot = false := by
  rw [Connection.ahead, List.mem_filter, Bool.not_eq_true']

/-- The connection has one customer of an id. -/
theorem Connection.eq_of_id {other : ShopifyCustomer} (here : snapshot ∈ connection.customers)
    (there : other ∈ connection.customers) (same : snapshot.id = other.id) : snapshot = other := by
  have apart : connection.customers.Pairwise fun first second => first.id ≠ second.id :=
    connection.sorted.imp fun before => before.ne
  have symmetric : Std.Symm fun first second : ShopifyCustomer => first.id ≠ second.id := ⟨fun _ _ => Ne.symm⟩
  by_contra different
  exact apart.forall here there different same

theorem ahead_sorted : (connection.ahead cursor).Pairwise fun first second => first.id < second.id :=
  connection.sorted.filter _

theorem not_mem_taken (before : passed cursor snapshot = true) : snapshot ∉ connection.taken first cursor := fun taken =>
  Bool.false_ne_true ((mem_ahead.mp (List.mem_of_mem_take taken)).2.symm.trans before)

/-- What the page leaves is not passed by its cursor. -/
theorem not_passed_of_not_mem (here : snapshot ∈ connection.ahead cursor) (left : snapshot ∉ connection.taken first cursor) :
    passed ((connection.taken first cursor).getLast?.map (·.id)) snapshot = false := by
  have whole : connection.taken first cursor ++ (connection.ahead cursor).drop first = connection.ahead cursor :=
    List.take_append_drop _ _
  have later : snapshot ∈ (connection.ahead cursor).drop first := by
    rw [← whole, List.mem_append] at here
    exact here.resolve_left left
  have apart := (List.pairwise_append.mp (whole.symm ▸ ahead_sorted)).2.2
  cases ended : (connection.taken first cursor).getLast? with
  | none => rfl
  | some last =>
    have before := apart last (List.mem_of_getLast? ended) snapshot later
    exact decide_eq_false (not_le.mpr before)

/-- A page short of the whole has a customer, and all that were passed stay so. -/
theorem passed_of_passed (positive : 1 ≤ first) (before : passed cursor snapshot = true)
    (more : (connection.page first cursor).hasNextPage = true) :
    passed (connection.page first cursor).endCursor snapshot = true := by
  have longer : first < (connection.ahead cursor).length := of_decide_eq_true more
  change passed ((connection.taken first cursor).getLast?.map (·.id)) snapshot = true
  cases ended : (connection.taken first cursor).getLast? with
  | none =>
    have empty := congrArg List.length (List.getLast?_eq_none_iff.mp ended)
    rw [Connection.taken, List.length_take, List.length_nil] at empty
    omega
  | some last =>
    obtain ⟨_, beyond⟩ := mem_ahead.mp (List.mem_of_mem_take (List.mem_of_getLast? ended))
    obtain ⟨stop, rfl, reached⟩ := Option.any_eq_true _ _ |>.mp before
    have after : stop < last.id := not_le.mp (of_decide_eq_false beyond)
    exact decide_eq_true ((of_decide_eq_true reached).trans after.le)

end Pages

section Answers

variable {decrypt : String → Option String} {choice : Choice} {store next : Store} {db after : Db} {merchantId : MerchantId}
  {resource : String}

theorem customers_createEvent {type : OutboxEventType} {payload : Json} {id : String} {now : Date}
    (created : Shopify.createEvent merchantId type payload id now db = .ok after) : after.customers = db.customers := by
  unfold Shopify.createEvent Webhook.publish at created
  dsimp only at created
  split at created
  · cases created
  · cases created
    rfl

/-- Only the page transaction writes customers, and only the calls of the job write its row. -/
theorem authorized_keeps : (authorized decrypt merchantId choice store).2.db.customers = store.db.customers ∧
    (authorized decrypt merchantId choice store).2.backfillJobs = store.backfillJobs := by
  unfold authorized
  repeat' split
  all_goals try exact ⟨rfl, rfl⟩
  rename_i marked
  refine ⟨?_, rfl⟩
  unfold Shopify.markTokenRevoked at marked
  split at marked
  · have kept := customers_createEvent marked
    exact kept
  · cases marked

theorem authorized_ok {store next : Store} (ran : authorized decrypt merchantId choice store = (.ok (), next)) :
    next = store := by
  unfold authorized at ran
  repeat' split at ran
  all_goals cases ran
  rfl

theorem answerEnrich_keeps : (answerEnrich decrypt merchantId choice store).2.db.customers = store.db.customers ∧
    (answerEnrich decrypt merchantId choice store).2.backfillJobs = store.backfillJobs := by
  obtain ⟨customers, jobs⟩ := @authorized_keeps decrypt choice store merchantId
  unfold answerEnrich
  split
  · rename_i refused
    rw [refused] at customers jobs
    exact ⟨customers, jobs⟩
  · rename_i accepted
    obtain rfl := authorized_ok accepted
    split
    · exact ⟨rfl, rfl⟩
    · rename_i enriched
      unfold updateEnrichment at enriched
      split at enriched
      · have kept := customers_createEvent enriched
        exact ⟨kept, rfl⟩
      · cases enriched

theorem onJobs_keeps {Value : Type} {change : Table BackfillJob → Except RepositoryError (Value × Table BackfillJob)}
    {value : Value} (changed : onJobs change store = .ok (value, next)) : next.db = store.db := by
  obtain ⟨_, _, same⟩ := map_eq_ok_iff.mp changed
  cases same
  rfl

theorem processPage_eq {seed : (Nat → CustomerId) × Date} {items : List ShopifyCustomerNode} :
    Runner.processPage customerPageProcessor merchantId seed items db = customerPageProcessor merchantId seed items db := by
  cases items <;> rfl

theorem fetch_ok {merchantId : MerchantId} {first : Nat} {cursor : Option Cursor} {page : Page}
    (ran : serve decrypt store (.fetch merchantId cursor first) choice = (.ok page, next)) :
    next = store ∧ 1 ≤ first ∧ page = choice.connection.page first cursor := by
  have fetched : (answerCustomers decrypt merchantId first cursor choice store).1.map fetched = .ok page :=
    congrArg Prod.fst ran
  have left : (answerCustomers decrypt merchantId first cursor choice store).2 = next := congrArg Prod.snd ran
  unfold answerCustomers at fetched left
  split at fetched
  · cases fetched
  · rename_i accepted
    rw [accepted] at left
    obtain rfl := authorized_ok accepted
    dsimp only at left
    split at fetched
    · rename_i within
      rw [if_pos within] at left
      cases fetched
      exact ⟨left.symm, within.1, rfl⟩
    · cases fetched

/-- A page that is stored leaves its customers as Shopify has them, and every other customer. -/
theorem commitPage_ok {connection : Connection} {first : Nat} {cursor newCursor : Option Cursor} {newId : Nat → CustomerId}
    {now : Date} {value : Unit} {snapshot : ShopifyCustomer} (here : snapshot ∈ connection.customers)
    (stored : commitPage merchantId resource (connection.page first cursor).items newCursor newId now store =
      .ok (value, next)) :
    ownedOf merchantId snapshot.toNode.id next.db =
      if snapshot ∈ connection.taken first cursor then some snapshot.shopifyOwned
      else ownedOf merchantId snapshot.toNode.id store.db := by
  obtain ⟨db, processed, updated⟩ := bind_eq_ok_iff.mp stored
  rw [processPage_eq] at processed
  rw [onJobs_keeps updated]
  let items := (connection.taken first cursor).zipIdx.map fun item => (item.1, newId item.2)
  have listed : items.map Prod.fst = connection.taken first cursor := by
    simp only [items, List.map_map]
    exact List.zipIdx_map_fst _ _
  have shape : ((connection.page first cursor).items.zipIdx.map fun item => (item.1, newId item.2)) =
      items.map fun item => (item.1.toNode, item.2) := by
    simp only [items, Connection.page, List.zipIdx_map, List.map_map]
    rfl
  have same (item : ShopifyCustomer × CustomerId) (member : item ∈ items) (named : item.1.id = snapshot.id) :
      item.1 = snapshot := by
    have taken : item.1 ∈ connection.taken first cursor := listed ▸ List.mem_map_of_mem member
    obtain ⟨stored, _⟩ := mem_ahead.mp (List.mem_of_mem_take taken)
    exact connection.eq_of_id stored here named
  have owned := ownedOf_processItems same (shape ▸ show processItems _ _ _ _ = _ from processed)
  rw [listed] at owned
  exact owned

end Answers

section Runs

variable {decrypt : String → Option String} {choices : Nat → Choice} {store after : Store} {merchantId : MerchantId}
  {resource : String} {snapshot : ShopifyCustomer} {count last pageSize left : Nat} {cursor : Option Cursor} {page : Page}
  {progress reached : Progress}

theorem counted {Result : Type} (script : Runner.Program ShopifyCustomerNode Result) (state : Nat × Store) :
    state.1 ≤ (Script.run (serving decrypt choices) state script).2.1 := by
  induction script generalizing state with
  | done outcome => exact le_rfl
  | call request resume ih => exact (Nat.le_succ _).trans (ih _ (serving decrypt choices state request).2)

theorem ownedOf_congr {gid : String} {first second : Db} (same : first.customers = second.customers) :
    ownedOf merchantId gid first = ownedOf merchantId gid second := by
  rw [ownedOf, ownedOf, same]

theorem performed {request : Runner.Call ShopifyCustomerNode} {answer : Except Thrown request.Value}
    (ran : Script.run (serving decrypt choices) (count, store) (Runner.perform request) = (answer, (last, after))) :
    last = count + 1 ∧ serve decrypt store request (choices count) = (answer, after) := by
  have first := congrArg Prod.fst ran
  have second := congrArg Prod.snd ran
  obtain ⟨rfl, rfl⟩ := Prod.mk.inj second
  exact ⟨rfl, Prod.ext first rfl⟩

theorem runPage_lt {outcome : Except Thrown Page} (ran : Script.run (serving decrypt choices) (count, store)
    (Runner.runPage ShopifyCustomerNode merchantId resource pageSize cursor) = (outcome, (last, after))) : count < last := by
  have called : count < (Script.run (serving decrypt choices) (count, store)
      (Runner.runPage ShopifyCustomerNode merchantId resource pageSize cursor)).2.1 :=
    (Nat.lt_succ_self _).trans_le (counted _ (serving decrypt choices (count, store) (.fetch merchantId cursor pageSize)).2)
  rw [ran] at called
  exact called

/-- A page that goes through leaves its customers as Shopify has them, and every other customer. -/
theorem runPage_ok (ran : Script.run (serving decrypt choices) (count, store)
      (Runner.runPage ShopifyCustomerNode merchantId resource pageSize cursor) = (.ok page, (last, after)))
    (here : snapshot ∈ (choices count).connection.customers) :
    1 ≤ pageSize ∧ page = (choices count).connection.page pageSize cursor ∧
      ownedOf merchantId snapshot.toNode.id after.db =
        if snapshot ∈ (choices count).connection.taken pageSize cursor then some snapshot.shopifyOwned
        else ownedOf merchantId snapshot.toNode.id store.db := by
  rw [Runner.runPage] at ran
  obtain ⟨page, ⟨_, between⟩, asked, ran⟩ := Script.run_bind_eq_ok _ ran
  obtain ⟨rfl, answered⟩ := performed asked
  obtain ⟨rfl, positive, rfl⟩ := fetch_ok answered
  obtain ⟨_, ⟨_, _⟩, stored, ran⟩ := Script.run_bind_eq_ok _ ran
  cases ran
  exact ⟨positive, rfl, commitPage_ok here (Runner.transact_ok (performed stored).2)⟩

/-- The pages from a cursor on, when they come to their end: the customers that the cursor has not
passed are as Shopify has them, the others as they were. -/
theorem pages_resync (ran : Script.run (serving decrypt choices) (count, store)
      (Runner.pages ShopifyCustomerNode merchantId resource pageSize left progress) = (.ok (reached, .ok ()), (last, after)))
    (steady : ∀ call, call < last → snapshot ∈ (choices call).connection.customers) :
    ownedOf merchantId snapshot.toNode.id after.db =
      if passed progress.cursor snapshot then ownedOf merchantId snapshot.toNode.id store.db
      else some snapshot.shopifyOwned := by
  induction left generalizing count store progress with
  | zero => cases ran
  | succ left ih =>
    rw [Runner.pages, Script.run_bind, Script.run_attempted] at ran
    rcases paged : Script.run (serving decrypt choices) (count, store)
      (Runner.runPage ShopifyCustomerNode merchantId resource pageSize progress.cursor) with ⟨thrown | page, between, next⟩
    · rw [paged] at ran
      cases ran
    · rw [paged] at ran
      dsimp only at ran
      have later : between ≤ last := by
        have counted := @counted decrypt choices _ (if page.hasNextPage then
          Runner.pages ShopifyCustomerNode merchantId resource pageSize left (Runner.advance _ progress page)
          else pure (Runner.advance _ progress page, if left = 0 then .error pageLimitExceeded else .ok ())) (between, next)
        rw [ran] at counted
        exact counted
      have here : snapshot ∈ (choices count).connection.customers :=
        steady count ((runPage_lt paged).trans_le later)
      obtain ⟨positive, rfl, owned⟩ := runPage_ok paged here
      split at ran
      · rename_i more
        rw [ih ran, owned]
        change (if passed ((choices count).connection.page pageSize progress.cursor).endCursor snapshot then _ else _) = _
        cases before : passed progress.cursor snapshot with
        | true =>
          rw [passed_of_passed positive before more, if_pos rfl, if_neg (not_mem_taken before), if_pos rfl]
        | false =>
          rw [if_neg Bool.false_ne_true]
          split
          · rename_i passes
            refine if_pos ?_
            by_contra left
            have ahead := not_passed_of_not_mem (mem_ahead.mpr ⟨here, before⟩) left
            exact Bool.false_ne_true (ahead.symm.trans passes)
          · rfl
      · rename_i ended
        cases left with
        | zero => cases ran
        | succ left =>
          cases ran
          rw [owned]
          cases before : passed progress.cursor snapshot with
          | true =>
            rw [if_neg (not_mem_taken before), if_pos rfl]
          | false =>
            have whole : (choices count).connection.taken pageSize progress.cursor =
                (choices count).connection.ahead progress.cursor :=
              List.take_of_length_le (not_lt.mp fun longer => ended (decide_eq_true longer))
            rw [if_pos (whole ▸ mem_ahead.mpr ⟨here, before⟩), if_neg Bool.false_ne_true]

theorem complete_keeps {pagesProcessed itemsProcessed : Nat} {eventId : String} {now : Date} {value : Unit}
    (completed : complete merchantId resource pagesProcessed itemsProcessed eventId now store = .ok (value, after)) :
    after.db.customers = store.db.customers := by
  obtain ⟨⟨_, between⟩, updated, rest⟩ := bind_eq_ok_iff.mp completed
  obtain ⟨db, created, done⟩ := bind_eq_ok_iff.mp rest
  cases done
  rw [customers_createEvent created, onJobs_keeps updated]

theorem work_resync {job : BackfillJob} (ran : Script.run (serving decrypt choices) (count, store)
      (Runner.work ShopifyCustomerNode merchantId resource job) = (.ok (reached, .ok ()), (last, after)))
    (steady : ∀ call, call ≤ last → snapshot ∈ (choices call).connection.customers) :
    ownedOf merchantId snapshot.toNode.id after.db =
      if passed job.cursor snapshot then ownedOf merchantId snapshot.toNode.id store.db else some snapshot.shopifyOwned := by
  rw [Runner.work] at ran
  obtain ⟨⟨progress, thrown | value⟩, ⟨between, next⟩, paged, ran⟩ := Script.run_bind_eq_ok _ ran
  · cases ran
  · obtain ⟨outcome, ⟨final, stored⟩, tried, ran⟩ := Script.run_bind_eq_ok _ ran
    rw [Script.run_attempted] at tried
    cases ran
    obtain ⟨completed, rest⟩ := Prod.mk.inj tried
    obtain ⟨rfl, done⟩ := performed (Prod.ext (Except.ok.inj completed) rest)
    rw [ownedOf_congr (complete_keeps (Runner.transact_ok done))]
    exact pages_resync paged fun call early => steady call (early.le.trans (Nat.le_succ _))

/-- The job of the merchant, if there is one, would still come to the customer. -/
def Awaits (merchantId : MerchantId) (snapshot : ShopifyCustomer) (store : Store) : Prop :=
  ∀ job ∈ store.backfillJobs.find? (jobFor merchantId customerBackfillResource),
    job.status ≠ .completed ∧ passed job.cursor snapshot = false

theorem getOrCreate_eq {job : BackfillJob} (got : getOrCreate merchantId resource pageSize store = .ok (job, after)) :
    after.db = store.db ∧ (store.backfillJobs.find? (jobFor merchantId resource) = some job ∨
      store.backfillJobs.find? (jobFor merchantId resource) = none ∧ job = { merchantId, resource, pageSize }) := by
  unfold getOrCreate at got
  split at got
  · refine ⟨onJobs_keeps got, ?_⟩
    obtain ⟨_, gotten, same⟩ := map_eq_ok_iff.mp got
    cases same
    rcases Runner.BackfillJobRepository.getOrCreate_ok gotten with ⟨found, _⟩ | ⟨absent, made, _⟩
    · exact .inl found
    · exact .inr ⟨absent, made⟩
  · cases got

theorem awaits_iff {job : BackfillJob} (got : getOrCreate merchantId customerBackfillResource pageSize store = .ok (job, after)) :
    Awaits merchantId snapshot store ↔ job.status ≠ .completed ∧ passed job.cursor snapshot = false := by
  unfold Awaits
  rcases (getOrCreate_eq got).2 with found | ⟨absent, rfl⟩
  · rw [found]
    exact ⟨fun awaits => awaits job rfl, fun ahead _ same => Option.some.inj same ▸ ahead⟩
  · rw [absent]
    exact ⟨fun _ => ⟨nofun, rfl⟩, fun _ _ none => by cases none⟩

theorem run_resync {result : BackfillRunResult} (ran : Script.run (serving decrypt choices) (count, store)
      (Runner.run ShopifyCustomerNode merchantId customerBackfillResource pageSize) = (.ok result, (last, after)))
    (completed : result.finalStatus = .completed)
    (steady : ∀ call, call ≤ last → snapshot ∈ (choices call).connection.customers) :
    ownedOf merchantId snapshot.toNode.id after.db = some snapshot.shopifyOwned ↔
      Awaits merchantId snapshot store ∨ ownedOf merchantId snapshot.toNode.id store.db = some snapshot.shopifyOwned := by
  rw [Runner.run] at ran
  obtain ⟨job, ⟨between, next⟩, got, ran⟩ := Script.run_bind_eq_ok _ ran
  have stored := Runner.transact_ok (performed got).2
  rw [awaits_iff stored, ← (getOrCreate_eq stored).1]
  split at ran
  · rename_i ended
    cases ran
    simp [ended]
  · rename_i unfinished
    obtain ⟨_, ⟨started, running⟩, begun, ran⟩ := Script.run_bind_eq_ok _ ran
    have same : running.db = next.db := onJobs_keeps (Runner.transact_ok (performed begun).2)
    obtain ⟨⟨progress, (message | message) | _⟩, ⟨stopped, final⟩, worked, ran⟩ := Script.run_bind_eq_ok _ ran
    · obtain ⟨_, _, _, ran⟩ := Script.run_bind_eq_ok _ ran
      cases ran
      cases completed
    · obtain ⟨_, _, _, ran⟩ := Script.run_bind_eq_ok _ ran
      cases ran
    · cases ran
      rw [work_resync worked steady, same]
      cases passed job.cursor snapshot <;> simp [unfinished]

/-- Whatever earlier installs left of the rows and of the job: when the handler returns with its
backfill reported completed, a customer of the connection that stayed as it is meanwhile is stored
as Shopify has it exactly when the job still had to come to the customer, or it was so before. -/
theorem backfill_resyncs {context : Outbox.DrainerContext} {row : OutboxEvent} {before : Store}
    (returned : Script.run (alone decrypt choices) (0, before) (handleMerchantInstalled context row) =
      (.ok .completed, (last, after)))
    (steady : ∀ call, call ≤ last → snapshot ∈ (choices call).connection.customers) :
    ownedOf row.merchantId snapshot.toNode.id after.db = some snapshot.shopifyOwned ↔
      Awaits row.merchantId snapshot before ∨
        ownedOf row.merchantId snapshot.toNode.id before.db = some snapshot.shopifyOwned := by
  unfold handleMerchantInstalled at returned
  split at returned
  · cases returned
  · obtain ⟨_, ⟨begun, first⟩, enriched, returned⟩ := Script.run_bind_eq_ok _ returned
    obtain ⟨result, ⟨stopped, final⟩, ran, returned⟩ := Script.run_bind_eq_ok _ returned
    obtain ⟨customers, jobs⟩ := @answerEnrich_keeps decrypt (choices 0) before row.merchantId
    have stored : first = (answerEnrich decrypt row.merchantId (choices 0) before).2 :=
      (congrArg (fun ran => ran.2.2) enriched).symm
    rw [run, Script.run_within] at ran
    obtain ⟨status, rfl, rfl⟩ : result.finalStatus = .completed ∧ stopped = last ∧ final = after := by
      simpa using returned
    have resynced := run_resync ran status steady
    rw [stored, Awaits, jobs, ownedOf_congr customers] at resynced
    exact resynced

end Runs

section History

variable (encrypt : String → String) (decrypt : String → Option String) (context : Outbox.DrainerContext)

/-- What comes about for a shop: an install with its session, a run of the handler, an uninstall. -/
inductive Happening where
  | installs (args : Shopify.CompleteInstallArgs) (newId : MerchantId) (eventId : String) (now : Date)
  | handles (row : OutboxEvent) (choices : Nat → Choice)
  | uninstalls (merchantId : MerchantId) (now : Date)

def Happening.apply (store : Store) : Happening → Store
  | .installs args newId eventId now =>
    match Shopify.completeInstall args newId eventId now store.db with
    | .error _ => store
    | .ok (_, db) => { store with
        db
        sessions := storeSession ⟨offlineSessionId args.shop, encrypt args.accessToken⟩ store.sessions }
  | .handles row choices => (Script.run (alone decrypt choices) (0, store) (handleMerchantInstalled context row)).2.2
  | .uninstalls merchantId now => { store with db := (MerchantRepository.markUninstalled merchantId now store.db).2 }

/-- The store that a history leaves. -/
def after (history : List Happening) : Store := history.foldl (Happening.apply encrypt decrypt context) {}

end History

section Samples

def sampleContext : Outbox.DrainerContext where
  aiConfig := { provider := .openai, model := "gpt-4.1-mini" }
  buildWinbackPrompt _ := ⟨"", ""⟩
  isDatetime _ := true
  zodMessage _ := "Invalid input"

def sampleArgs : Shopify.CompleteInstallArgs := ⟨"shop.myshopify.com", "token", "read_customers"⟩

def sampleInstalled (id : String) (isNewInstall : Bool) : OutboxEvent where
  id
  merchantId := "m"
  type := OutboxEventType.merchantInstalled.text
  payload := Shopify.installedPayload sampleArgs isNewInstall
  createdAt := 1

def subscribed : ShopifyCustomer := { unsubscribed with emailMarketingConsent := some .subscribed, updatedAt := 2 }

/-- The connection has the one customer, as it is at each call. -/
def listing (label : String) (snapshot : Nat → ShopifyCustomer) (call : Nat) : Choice where
  connection := ⟨[snapshot call], List.pairwise_singleton _ _⟩
  now := 10
  eventId := label ++ toString call
  newId _ := "c"

def firstInstall : List Happening := [.installs sampleArgs "m" "e" 1]

/-- The customer unsubscribes before the shop installs again. -/
def secondInstall : List Happening := firstInstall ++
  [.handles (sampleInstalled "e" true) (listing "b" fun _ => subscribed), .uninstalls "m" 20, .installs sampleArgs "n" "f" 30]

/-- The customer unsubscribes while its page is being stored. -/
def moving (call : Nat) : ShopifyCustomer := if call < 4 then subscribed else unsubscribed

/-- One run of the handler after a history. -/
def handled (history : List Happening) (row : OutboxEvent) (choices : Nat → Choice) : Except Thrown FinalStatus × (Nat × Store) :=
  Script.run (alone some choices) (0, after id some sampleContext history) (handleMerchantInstalled sampleContext row)

/-- The stored job of the first install is completed, so the second reads no page; and a customer that
changes after its page is read is stored as it was, even by the first. -/
theorem reinstall_skips :
    (¬∀ (history : List Happening) (row : OutboxEvent) (choices : Nat → Choice) (snapshot : ShopifyCustomer) (last : Nat)
      (final : Store), handled history row choices = (.ok .completed, (last, final)) →
      (∀ call, call ≤ last → snapshot ∈ (choices call).connection.customers) →
      ownedOf row.merchantId snapshot.toNode.id final.db = some snapshot.shopifyOwned) ∧
    ¬∀ (history : List Happening) (row : OutboxEvent) (choices : Nat → Choice) (snapshot : ShopifyCustomer) (last : Nat)
      (final : Store), handled history row choices = (.ok .completed, (last, final)) →
      Awaits row.merchantId snapshot (after id some sampleContext history) →
      snapshot ∈ (choices last).connection.customers →
      ownedOf row.merchantId snapshot.toNode.id final.db = some snapshot.shopifyOwned := by
  constructor
  · intro claim
    let ended := handled secondInstall (sampleInstalled "f" false) (listing "d" fun _ => unsubscribed)
    have completed : ended.1 = .ok .completed := by decide
    have stale : ownedOf "m" unsubscribed.toNode.id ended.2.2.db ≠ some unsubscribed.shopifyOwned := by decide
    exact stale (claim _ (sampleInstalled "f" false) (listing "d" fun _ => unsubscribed) unsubscribed ended.2.1
      ended.2.2 (Prod.ext completed rfl) fun _ _ => List.mem_singleton_self _)
  · intro claim
    let ended := handled firstInstall (sampleInstalled "e" true) (listing "b" moving)
    have completed : ended.1 = .ok .completed := by decide
    have stopped : ended.2.1 = 6 := by decide
    have stale : ownedOf "m" unsubscribed.toNode.id ended.2.2.db ≠ some unsubscribed.shopifyOwned := by decide
    have listed : unsubscribed ∈ (listing "b" moving ended.2.1).connection.customers := by
      rw [stopped]
      exact List.mem_singleton_self _
    refine stale (claim firstInstall (sampleInstalled "e" true) (listing "b" moving) unsubscribed ended.2.1 ended.2.2
      (Prod.ext completed rfl) ?_ listed)
    intro job stored
    cases stored

/-- The first install stores the customer as it is. -/
theorem backfill_resyncs_first_install :
    ownedOf "m" subscribed.toNode.id
      (handled firstInstall (sampleInstalled "e" true) (listing "b" fun _ => subscribed)).2.2.db = some subscribed.shopifyOwned := by
  let ended := handled firstInstall (sampleInstalled "e" true) (listing "b" fun _ => subscribed)
  have completed : ended.1 = .ok .completed := by decide
  have resyncs := @backfill_resyncs some (listing "b" fun _ => subscribed) ended.2.2 subscribed ended.2.1 sampleContext
    (sampleInstalled "e" true) _ (Prod.ext completed rfl) fun _ _ => List.mem_singleton_self _
  refine resyncs.mpr (.inl fun job stored => ?_)
  cases stored

end Samples

end WinBack.Backfill
