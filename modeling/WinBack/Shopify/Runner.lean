import WinBack.Customer.Repository
import WinBack.Library.Crash
import WinBack.Library.Fallible

/-! The backfill runner for any resource: a job that is resumed from its cursor, page by page. Its fetcher answers from a
connection that does not change, its processor writes a page to the tables of the resource, and the process may be lost
between two calls. -/

namespace WinBack.Runner

open Library

variable {Item Tables Seed : Type}

section Rows

inductive BackfillStatus where
  | pending | running | paused | completed | failed
  deriving DecidableEq, Repr

/-- What a page ended with; only the connection reads it. -/
abbrev Cursor := Nat

structure BackfillJob where
  merchantId : MerchantId
  resource : String
  status : BackfillStatus := .pending
  cursor : Option Cursor := none
  pageSize : Nat := 50
  itemsProcessed : Nat := 0
  pagesProcessed : Nat := 0
  attempts : Nat := 0
  lastError : Option String := none
  startedAt : Option Date := none
  completedAt : Option Date := none
  deriving DecidableEq, Repr

instance : Indexed BackfillJob := .ofKey fun row => (row.merchantId, row.resource)

def jobFor (merchantId : MerchantId) (resource : String) (row : BackfillJob) : Bool :=
  row.merchantId == merchantId && row.resource == resource

/-- `ResourcePage`. -/
structure ResourcePage (Item : Type) where
  items : List Item
  endCursor : Option Cursor
  hasNextPage : Bool

/-- `ShopifyTokenRevokedError`, or any other error, with its message. -/
inductive Thrown where
  | tokenRevoked (message : String)
  | other (message : String)
  deriving DecidableEq, Repr

def Thrown.message : Thrown → String
  | .tokenRevoked message | .other message => message

end Rows

section Calls

/-- One atomic call. A page is stored in one transaction with the cursor; so is the completion with its event. -/
inductive Call (Item : Type) where
  | getOrCreate (merchantId : MerchantId) (resource : String) (pageSize : Nat)
  | markStarted (merchantId : MerchantId) (resource : String)
  | fetch (merchantId : MerchantId) (cursor : Option Cursor) (pageSize : Nat)
  | commitPage (merchantId : MerchantId) (resource : String) (items : List Item) (newCursor : Option Cursor)
  | complete (merchantId : MerchantId) (resource : String) (pagesProcessed itemsProcessed : Nat)
  | markPaused (merchantId : MerchantId) (resource error : String)
  | markFailed (merchantId : MerchantId) (resource error : String)

@[reducible] def Call.Value : Call Item → Type
  | .getOrCreate _ _ _ => BackfillJob
  | .fetch _ _ _ => ResourcePage Item
  | .markStarted _ _ | .commitPage _ _ _ _ | .complete _ _ _ _ | .markPaused _ _ _ | .markFailed _ _ _ => Unit

abbrev Program (Item : Type) := Script (Call Item) Call.Value Thrown

def perform (request : Call Item) : Program Item request.Value := Script.perform request

end Calls

section Run

def maxPagesHardLimit : Nat := 10_000

def pageLimitExceeded : Thrown := .other
  ("Backfill page limit (" ++ toString maxPagesHardLimit ++ ") exceeded — likely a non-advancing cursor.")

/-- What the run carries from page to page. -/
structure Progress where
  cursor : Option Cursor
  pagesProcessed : Nat
  itemsProcessed : Nat
  deriving DecidableEq, Repr

inductive FinalStatus where
  | completed | paused
  deriving DecidableEq, Repr

structure BackfillRunResult where
  pagesProcessed : Nat
  itemsProcessed : Nat
  finalStatus : FinalStatus
  deriving DecidableEq, Repr

variable (Item : Type) (merchantId : MerchantId) (resource : String)

def runPage (pageSize : Nat) (cursor : Option Cursor) : Program Item (ResourcePage Item) := do
  let page ← perform (.fetch merchantId cursor pageSize)
  perform (.commitPage merchantId resource page.items page.endCursor)
  return page

def advance (progress : Progress) (page : ResourcePage Item) : Progress where
  cursor := page.endCursor
  pagesProcessed := progress.pagesProcessed + 1
  itemsProcessed := progress.itemsProcessed + page.items.length

/-- The loop with so many pages left under the limit; also the last page must not reach it. -/
def pages (pageSize : Nat) : Nat → Progress → Program Item (Progress × Except Thrown Unit)
  | 0, progress => return (progress, .error pageLimitExceeded)
  | left + 1, progress => do
    match ← Script.attempted (runPage Item merchantId resource pageSize progress.cursor) with
    | .error thrown => return (progress, .error thrown)
    | .ok page =>
      if page.hasNextPage then pages pageSize left (advance Item progress page)
      else return (advance Item progress page, if left = 0 then .error pageLimitExceeded else .ok ())

/-- The pages and the completion, as far as they came. -/
def work (job : BackfillJob) : Program Item (Progress × Except Thrown Unit) := do
  let (progress, outcome) ← pages Item merchantId resource job.pageSize maxPagesHardLimit
    ⟨job.cursor, job.pagesProcessed, job.itemsProcessed⟩
  match outcome with
  | .error thrown => return (progress, .error thrown)
  | .ok () => do
    let outcome ← Script.attempted (perform (.complete merchantId resource progress.pagesProcessed progress.itemsProcessed))
    return (progress, outcome)

/-- How a run ends whose work is done or failed. -/
def settle (progress : Progress) : Except Thrown Unit → Program Item BackfillRunResult
  | .ok () => return ⟨progress.pagesProcessed, progress.itemsProcessed, .completed⟩
  | .error (.tokenRevoked message) => do
    perform (.markPaused merchantId resource message)
    return ⟨progress.pagesProcessed, progress.itemsProcessed, .paused⟩
  | .error thrown => do
    perform (.markFailed merchantId resource thrown.message)
    throw thrown

/-- `BackfillRunner.run`. -/
def run (pageSize : Nat := 50) : Program Item BackfillRunResult := do
  let job ← perform (.getOrCreate merchantId resource pageSize)
  if job.status = .completed then
    return ⟨job.pagesProcessed, job.itemsProcessed, .completed⟩
  else do
    perform (.markStarted merchantId resource)
    let (progress, outcome) ← work Item merchantId resource job
    settle Item merchantId resource progress outcome

end Run

section Jobs

def errorMaxChars : Nat := 1000

def started (now : Date) (row : BackfillJob) : BackfillJob := { row with
  status := .running
  startedAt := some now
  lastError := none }

def paused (error : String) (row : BackfillJob) : BackfillJob := { row with
  status := .paused
  lastError := some (utf16Prefix errorMaxChars error) }

def failed (error : String) (row : BackfillJob) : BackfillJob := { row with
  status := .failed
  attempts := row.attempts + 1
  lastError := some (utf16Prefix errorMaxChars error) }

def paged (itemsInPage : Nat) (newCursor : Option Cursor) (row : BackfillJob) : BackfillJob := { row with
  cursor := newCursor
  itemsProcessed := row.itemsProcessed + itemsInPage
  pagesProcessed := row.pagesProcessed + 1 }

def completed (now : Date) (row : BackfillJob) : BackfillJob := { row with
  status := .completed
  completedAt := some now
  lastError := none }

namespace BackfillJobRepository

def getOrCreate (merchantId : MerchantId) (resource : String) (pageSize : Nat) (backfillJobs : Table BackfillJob) :
    Except RepositoryError (BackfillJob × Table BackfillJob) :=
  match backfillJobs.find? (jobFor merchantId resource) with
  | some job => .ok (job, backfillJobs)
  | none =>
    match backfillJobs.insert? { merchantId, resource, pageSize } with
    | none => .error .uniqueConstraint
    | some backfillJobs => .ok ({ merchantId, resource, pageSize }, backfillJobs)

/-- `backfillJob.update({ where: { merchantId_resource }, data })`. -/
def updateJob (merchantId : MerchantId) (resource : String) (change : BackfillJob → BackfillJob)
    (keeps : ∀ row, Indexed.index (change row) = Indexed.index row) (backfillJobs : Table BackfillJob) :
    Except RepositoryError (Unit × Table BackfillJob) :=
  if backfillJobs.any (jobFor merchantId resource) then
    .ok ((), backfillJobs.updateMany (jobFor merchantId resource) change keeps)
  else .error .recordNotFound

section Methods

variable (merchantId : MerchantId) (resource : String)

def markStarted (now : Date) : Table BackfillJob → Except RepositoryError (Unit × Table BackfillJob) :=
  updateJob merchantId resource (started now) fun _ => rfl

def commitPage (itemsInPage : Nat) (newCursor : Option Cursor) :
    Table BackfillJob → Except RepositoryError (Unit × Table BackfillJob) :=
  updateJob merchantId resource (paged itemsInPage newCursor) fun _ => rfl

def markCompleted (now : Date) : Table BackfillJob → Except RepositoryError (Unit × Table BackfillJob) :=
  updateJob merchantId resource (completed now) fun _ => rfl

def markPaused (error : String) : Table BackfillJob → Except RepositoryError (Unit × Table BackfillJob) :=
  updateJob merchantId resource (paused error) fun _ => rfl

def markFailed (error : String) : Table BackfillJob → Except RepositoryError (Unit × Table BackfillJob) :=
  updateJob merchantId resource (failed error) fun _ => rfl

end Methods

variable {merchantId : MerchantId} {resource : String} {pageSize : Nat} {backfillJobs after : Table BackfillJob}
  {job : BackfillJob}

/-- The job that is there, or a new one. -/
theorem getOrCreate_ok (got : getOrCreate merchantId resource pageSize backfillJobs = .ok (job, after)) :
    backfillJobs.find? (jobFor merchantId resource) = some job ∧ after = backfillJobs ∨
      backfillJobs.find? (jobFor merchantId resource) = none ∧ job = { merchantId, resource, pageSize } ∧
        backfillJobs.insert? job = some after := by
  unfold getOrCreate at got
  split at got
  · rename_i found
    cases got
    exact .inl ⟨found, rfl⟩
  · rename_i absent
    split at got
    · cases got
    · rename_i inserted
      cases got
      exact .inr ⟨absent, rfl, inserted⟩

theorem updateJob_ok {change : BackfillJob → BackfillJob} {keeps : ∀ row, Indexed.index (change row) = Indexed.index row}
    {value : Unit} (updated : updateJob merchantId resource change keeps backfillJobs = .ok (value, after)) :
    backfillJobs.any (jobFor merchantId resource) = true ∧
      after.find? (jobFor merchantId resource) = (backfillJobs.find? (jobFor merchantId resource)).map change := by
  have stable (row : BackfillJob) : jobFor merchantId resource (change row) = jobFor merchantId resource row := by
    obtain ⟨merchant, named⟩ := Prod.mk.inj (keeps row)
    simp only [jobFor, merchant, named]
  unfold updateJob at updated
  split at updated
  · rename_i present
    cases updated
    refine ⟨present, ?_⟩
    rw [Table.find?_updateMany stable]
    cases found : backfillJobs.find? (jobFor merchantId resource) with
    | none => rfl
    | some job => rw [Option.map_some, Option.map_some, if_pos (Table.find?_mem found).2]
  · cases updated

end BackfillJobRepository

def backfillCompleted (resource : String) (pagesProcessed itemsProcessed : Nat) : Json :=
  .obj [("resource", .str resource), ("pagesProcessed", .num pagesProcessed), ("itemsProcessed", .num itemsProcessed)]

end Jobs

section Server

/-- A connection whose contents do not change; a cursor stands for the items up to it. -/
structure Connection (Item : Type) where
  items : List Item

/-- How many items a cursor has passed. -/
def offset (cursor : Option Cursor) : Nat := cursor.getD 0

def Connection.page (connection : Connection Item) (first : Nat) (cursor : Option Cursor) : ResourcePage Item where
  items := (connection.items.drop (offset cursor)).take first
  endCursor := if connection.items.length ≤ offset cursor then none else some (min (offset cursor + first) connection.items.length)
  hasNextPage := decide (offset cursor + first < connection.items.length)

/-- `PageProcessor`: the seed gives the transaction its new ids and its clock. -/
abbrev PageProcessor (Item Tables Seed : Type) := MerchantId → Seed → List Item → Tables → Except RepositoryError Tables

/-- The tables of the resource, the jobs and the published events. -/
structure Store (Tables : Type) where
  tables : Tables
  backfillJobs : Table BackfillJob := ∅
  published : List (MerchantId × Json) := []

/-- What comes to a call from outside: whether it fails, or takes effect and its answer is lost. -/
structure Choice (Seed : Type) where
  seed : Seed
  fails : Option Thrown := none
  loses : Option Thrown := none
  now : Date := 0
  message : String := ""

/-- A transaction on a store. -/
def transact {Value State : Type} (choice : Choice Seed) (done : Except RepositoryError (Value × State)) (store : State) :
    Except Thrown Value × State :=
  match choice.fails, done with
  | some thrown, _ => (.error thrown, store)
  | none, .error _ => (.error (.other choice.message), store)
  | none, .ok (value, next) => (choice.loses.elim (.ok value) .error, next)

theorem transact_cases {Value State : Type} {choice : Choice Seed} {state next : State}
    {done : Except RepositoryError (Value × State)} {answer : Except Thrown Value} (ran : transact choice done state = (answer, next)) :
    next = state ∧ (∃ thrown, answer = .error thrown) ∨ ∃ value, done = .ok (value, next) ∧
      (answer = .ok value ∨ ∃ thrown, answer = .error thrown) := by
  unfold transact at ran
  split at ran
  · cases ran
    exact .inl ⟨rfl, _, rfl⟩
  · cases ran
    exact .inl ⟨rfl, _, rfl⟩
  · cases ran
    refine .inr ⟨_, rfl, ?_⟩
    cases choice.loses with
    | none => exact .inl rfl
    | some thrown => exact .inr ⟨thrown, rfl⟩

theorem transact_ok {Value State : Type} {choice : Choice Seed} {state next : State}
    {done : Except RepositoryError (Value × State)} {value : Value} (ran : transact choice done state = (.ok value, next)) : done = .ok (value, next) := by
  rcases transact_cases ran with ⟨_, thrown, failed⟩ | ⟨other, committed, same | ⟨thrown, failed⟩⟩
  · cases failed
  · cases same
    exact committed
  · cases failed

/-- A change of the jobs alone. -/
def onJobs {Value : Type} (change : Table BackfillJob → Except RepositoryError (Value × Table BackfillJob))
    (store : Store Tables) : Except RepositoryError (Value × Store Tables) :=
  (change store.backfillJobs).map fun (value, backfillJobs) => (value, { store with backfillJobs })

theorem onJobs_ok {Value : Type} {change : Table BackfillJob → Except RepositoryError (Value × Table BackfillJob)}
    {value : Value} {store next : Store Tables} (changed : onJobs change store = .ok (value, next)) :
    ∃ backfillJobs, change store.backfillJobs = .ok (value, backfillJobs) ∧ next = { store with backfillJobs } := by
  obtain ⟨⟨_, backfillJobs⟩, written, same⟩ := map_eq_ok_iff.mp changed
  cases same
  exact ⟨backfillJobs, written, rfl⟩

/-- An empty page is not processed. -/
def processPage (process : PageProcessor Item Tables Seed) (merchantId : MerchantId) (seed : Seed) (items : List Item)
    (tables : Tables) : Except RepositoryError Tables :=
  if items.isEmpty then .ok tables else process merchantId seed items tables

/-- The page and the cursor in one transaction. -/
def commitPage (process : PageProcessor Item Tables Seed) (merchantId : MerchantId) (resource : String) (items : List Item)
    (newCursor : Option Cursor) (seed : Seed) (store : Store Tables) : Except RepositoryError (Unit × Store Tables) := do
  let tables ← processPage process merchantId seed items store.tables
  onJobs (BackfillJobRepository.commitPage merchantId resource items.length newCursor) { store with tables }

def complete (merchantId : MerchantId) (resource : String) (pagesProcessed itemsProcessed : Nat) (now : Date)
    (store : Store Tables) : Except RepositoryError (Unit × Store Tables) := do
  let (_, store) ← onJobs (BackfillJobRepository.markCompleted merchantId resource now) store
  return ((), { store with
    published := store.published ++ [(merchantId, backfillCompleted resource pagesProcessed itemsProcessed)] })

/-- Shopify takes from 1 to 250 for `first`. -/
def fetch (connection : Connection Item) (cursor : Option Cursor) (pageSize : Nat) (choice : Choice Seed) :
    Except Thrown (ResourcePage Item) :=
  match choice.fails.or choice.loses with
  | some thrown => .error thrown
  | none =>
    if 1 ≤ pageSize ∧ pageSize ≤ 250 then .ok (connection.page pageSize cursor) else .error (.other choice.message)

def exec (connection : Connection Item) (process : PageProcessor Item Tables Seed) (store : Store Tables) (request : Call Item)
    (choice : Choice Seed) : Except Thrown request.Value × Store Tables :=
  match request with
  | .getOrCreate merchantId resource pageSize =>
    transact choice (onJobs (BackfillJobRepository.getOrCreate merchantId resource pageSize) store) store
  | .markStarted merchantId resource =>
    transact choice (onJobs (BackfillJobRepository.markStarted merchantId resource choice.now) store) store
  | .fetch _ cursor pageSize => (fetch connection cursor pageSize choice, store)
  | .commitPage merchantId resource items newCursor =>
    transact choice (commitPage process merchantId resource items newCursor choice.seed store) store
  | .complete merchantId resource pagesProcessed itemsProcessed =>
    transact choice (complete merchantId resource pagesProcessed itemsProcessed choice.now store) store
  | .markPaused merchantId resource error =>
    transact choice (onJobs (BackfillJobRepository.markPaused merchantId resource error) store) store
  | .markFailed merchantId resource error =>
    transact choice (onJobs (BackfillJobRepository.markFailed merchantId resource error) store) store

/-- One run of the runner: the page size that its caller gives, and what comes to its calls, up to where
its process is lost. -/
structure Session (Seed : Type) where
  pageSize : Nat := 50
  choices : List (Choice Seed)

variable (connection : Connection Item) (process : PageProcessor Item Tables Seed) (merchantId : MerchantId) (resource : String)

/-- What is left of a run, and the store it leaves. -/
def Session.ran (session : Session Seed) (store : Store Tables) : Program Item BackfillRunResult × Store Tables :=
  (run Item merchantId resource session.pageSize).cut (exec connection process) session.choices store

def Session.outcome? (session : Session Seed) (store : Store Tables) : Option (Except Thrown BackfillRunResult) :=
  (session.ran connection process merchantId resource store).1.outcome?

def Session.after (store : Store Tables) (session : Session Seed) : Store Tables :=
  (session.ran connection process merchantId resource store).2

/-- The store after runs that follow each other. -/
def afterAll (sessions : List (Session Seed)) (store : Store Tables) : Store Tables :=
  sessions.foldl (Session.after connection process merchantId resource) store

end Server

end WinBack.Runner
