import WinBack.Customer.Orders
import WinBack.Library.Machine
import WinBack.Library.Pool
import WinBack.Library.Trail

/-! What the webhooks of an order report of its payment, statement by statement. A transaction reads
the stored status in one statement and writes the order in a later one, and under READ COMMITTED
another transaction may commit between the two. -/

namespace WinBack.Qualifying

open Library OrderRepository

inductive Stage where
  | reading
  | resolving (gid : String) (existing : Option Order) (status : Option OrderFinancialStatus)
  | placing (gid : String) (existing : Option Order) (status : Option OrderFinancialStatus)
      (customerId : Option CustomerId)

/-- One `upsertFromWebhook`. -/
structure Transaction where
  merchantId : MerchantId
  body : ShopifyOrderWebhookBody
  newId : String
  stage : Stage := .reading

/-- The stored status of an order, if the order is there at all. -/
abbrev Stored := Option (Option OrderFinancialStatus)

def statusAt (merchantId : MerchantId) (gid : String) (db : Db) : Stored :=
  (db.orders.find? (named merchantId gid)).map (·.financialStatus)

namespace Transaction

/-- The next read. A transaction that throws ends. -/
def read (db : Db) (transaction : Transaction) : Option Transaction :=
  match transaction.stage with
  | .reading =>
    (toShopifyOrderGid transaction.body.id).bind fun gid =>
      (parseFinancialStatus transaction.body.financialStatus).toOption.map fun status =>
        { transaction with stage := .resolving gid (db.orders.find? (named transaction.merchantId gid)) status }
  | .resolving gid existing status => some { transaction with
      stage := .placing gid existing status (resolveCustomerFk transaction.merchantId transaction.body db) }
  | .placing _ _ _ _ => some transaction

/-- The upsert, which shows when the transaction commits. -/
def commit? (db : Db) (transaction : Transaction) : Option (Except RepositoryError (UpsertResult × Db)) :=
  match transaction.stage with
  | .placing gid existing status customerId =>
    let previous := existing.bind (·.financialStatus)
    some ((place transaction.merchantId gid transaction.body status customerId transaction.newId db).map
      fun (orderId, db) =>
        (⟨orderId, customerId, existing.isNone, computeQualifyingTransition previous status, previous⟩, db))
  | _ => none

/-- A transaction that nothing interrupts is the one of the repository. -/
theorem commit?_alone (merchantId : MerchantId) (body : ShopifyOrderWebhookBody) (newId : String) (db : Db) :
    match (read db ⟨merchantId, body, newId, .reading⟩).bind (read db) with
    | some ready => ready.commit? db = some (upsertFromWebhook merchantId body newId db)
    | none => ∃ error, upsertFromWebhook merchantId body newId db = .error error := by
  cases wrapped : toShopifyOrderGid body.id with
  | none => simp [read, upsertFromWebhook, wrapped]
  | some gid =>
    cases parsed : parseFinancialStatus body.financialStatus with
    | error error => simp [read, upsertFromWebhook, wrapped, parsed, Except.toOption]
    | ok status =>
      simp only [read, wrapped, parsed, Except.toOption, Option.bind_some, Option.map_some, commit?, upsertFromWebhook,
        place]
      congr 1
      cases db.orders.find? (named merchantId gid) with
      | some stored => rfl
      | none =>
        dsimp only
        split
        · rfl
        · split
          · rfl
          · rfl

end Transaction

inductive Label where
  | webhook (merchantId : MerchantId) (body : ShopifyOrderWebhookBody) (newId : String)
  | read (slot : Nat)
  | commit (slot : Nat)
  | abort (slot : Nat)
  | elsewhere (after : Db)

/-- One commit, with the stored status of its order just before. -/
structure Report where
  merchantId : MerchantId
  gid : String
  before : Stored
  status : Option OrderFinancialStatus
  result : UpsertResult
  deriving DecidableEq

/-- `moves` records what the status of one order went through; no step reads it, or the reports. -/
structure World where
  db : Db
  transactions : Pool Transaction := []
  reports : List Report := []
  moves : List (Move Stored) := []

/-- The report of a transaction that commits in `db`. -/
def Transaction.reports (db : Db) (transaction : Transaction) (result : UpsertResult) : List Report :=
  match transaction.stage with
  | .placing gid _ status _ =>
    [⟨transaction.merchantId, gid, statusAt transaction.merchantId gid db, status, result⟩]
  | _ => []

/-- Webhooks with an eye on one order. The other tables may change at any time. -/
def webhooks (merchantId : MerchantId) (gid : String) : Machine World Label where
  step world
    | .webhook merchantId body newId =>
      some { world with transactions := world.transactions.spawn { merchantId, body, newId } }
    | .read slot => (world.transactions.task? slot).map fun transaction => { world with transactions :=
        ((transaction.read world.db).elim (world.transactions.clear slot) (world.transactions.put slot ·)) }
    | .commit slot =>
      (world.transactions.task? slot).bind fun transaction =>
        (transaction.commit? world.db).map fun
          | .error _ => { world with transactions := world.transactions.clear slot }
          | .ok (result, db) => {
              db
              transactions := world.transactions.clear slot
              reports := world.reports ++ transaction.reports world.db result
              moves := world.moves ++ movement (statusAt merchantId gid world.db) (statusAt merchantId gid db) }
    | .abort slot => some { world with transactions := world.transactions.clear slot }
    | .elsewhere after => some { world with db := { after with orders := world.db.orders } }

namespace Report

/-- What the four results stand for, said of the order as the upsert found it. -/
structure Faithful (report : Report) : Prop where
  paidNew_iff : report.result.qualifyingTransition = .paidNew ↔ report.before = none ∧ report.status = some .paid
  paidContinued_iff : report.result.qualifyingTransition = .paidContinued ↔
    (∃ status, report.before = some status ∧ status ≠ some .paid) ∧ report.status = some .paid
  noChange_iff : report.result.qualifyingTransition = .noChange ↔
    report.before = some (some .paid) ∧ report.status = some .paid
  nonPaid_iff : report.result.qualifyingTransition = .nonPaid ↔ report.status ≠ some .paid

def move (report : Report) : Move Stored := ⟨report.before, some report.status⟩

/-- An entry into paid is reported. -/
def enters (merchantId : MerchantId) (gid : String) (report : Report) : Bool :=
  report.merchantId == merchantId && report.gid == gid &&
    (report.result.qualifyingTransition == .paidNew || report.result.qualifyingTransition == .paidContinued)

end Report

/-- The order becomes paid. -/
def entry (move : Move Stored) : Bool := move.oldState != some (some .paid) && move.newState == some (some .paid)

/-- A transaction that writes `paid` has read no status if and only if no order is there, and has
read `paid` if and only if the order is paid, at its upsert. -/
def Transaction.Told (db : Db) (transaction : Transaction) : Prop :=
  match transaction.stage with
  | .placing gid existing status _ => status = some .paid →
    (existing.bind (·.financialStatus) = none ↔ statusAt transaction.merchantId gid db = none) ∧
      (existing.bind (·.financialStatus) = some .paid ↔ statusAt transaction.merchantId gid db = some (some .paid))
  | _ => True

instance (db : Db) (transaction : Transaction) : Decidable (transaction.Told db) := by
  unfold Transaction.Told
  split
  · infer_instance
  · infer_instance

def Told (world : World) : Label → Prop
  | .commit slot => ∀ transaction ∈ world.transactions.task? slot, transaction.Told world.db
  | _ => True

instance (world : World) : DecidablePred (Told world)
  | .commit slot => inferInstanceAs (Decidable (∀ transaction ∈ world.transactions.task? slot, transaction.Told world.db))
  | .webhook _ _ _ | .read _ | .abort _ | .elsewhere _ => .isTrue trivial

variable {merchantId owner : MerchantId} {gid number newId orderId : String} {body : ShopifyOrderWebhookBody}
  {status : Option OrderFinancialStatus} {link : Option CustomerId} {db after : Db} {world next : World}
  {transaction : Transaction} {result : UpsertResult} {report : Report}

section Steps

theorem statusAt_place (placed : place owner number body status link newId db = .ok (orderId, after)) :
    statusAt merchantId gid after =
      if owner = merchantId ∧ number = gid then some status else statusAt merchantId gid db := by
  have named_iff (merchantId : MerchantId) (gid : String) (row : Order) : named merchantId gid row = true ↔
      row.merchantId = merchantId ∧ row.shopifyOrderId = gid := by
    simp [named]
  unfold place at placed
  split at placed
  · rename_i stored found
    cases placed
    have owned := (named_iff owner number stored).mp (Table.find?_mem found).2
    have updated := @Table.find?_updateMany _ _ db.orders (named merchantId gid) (named owner number)
      (write body status link) (fun _ => rfl) fun _ => rfl
    unfold statusAt
    dsimp only
    rw [updated]
    by_cases same : owner = merchantId ∧ number = gid
    · rw [if_pos same]
      obtain ⟨rfl, rfl⟩ := same
      rw [found, Option.map_some, Option.map_some, if_pos (Table.find?_mem found).2]
      rfl
    · rw [if_neg same]
      cases there : db.orders.find? (named merchantId gid) with
      | none => rfl
      | some row =>
        have held := (named_iff merchantId gid row).mp (Table.find?_mem there).2
        have other : ¬named owner number row = true := by
          rw [named_iff, held.1, held.2]
          exact fun held => same ⟨held.1.symm, held.2.symm⟩
        rw [Option.map_some, if_neg other]
  · rename_i missing
    split at placed
    · cases placed
    · rename_i orders inserted
      split at placed
      · cases placed
        unfold statusAt
        dsimp only
        rw [Table.find?_insert? inserted]
        by_cases same : owner = merchantId ∧ number = gid
        · rw [if_pos same]
          obtain ⟨rfl, rfl⟩ := same
          rw [missing, Option.none_or, if_pos (by simp [named, write])]
          rfl
        · have other : ¬named merchantId gid (write body status link {
              id := newId, merchantId := owner, shopifyOrderId := number, customerId := link,
              placedAt := body.createdAt }) = true := by
            rw [named_iff]
            exact same
          rw [if_neg same, if_neg other, Option.or_none]
      · cases placed

/-- What a commit does to the order that is watched, and what it reports. -/
theorem commit?_ok (committed : transaction.commit? db = some (.ok (result, after))) :
    ∃ gid existing status customerId, transaction.stage = .placing gid existing status customerId ∧
      result.qualifyingTransition = computeQualifyingTransition (existing.bind (·.financialStatus)) status ∧
      ∀ merchantId number, statusAt merchantId number after =
        if transaction.merchantId = merchantId ∧ gid = number then some status else statusAt merchantId number db := by
  unfold Transaction.commit? at committed
  split at committed
  · rename_i gid existing status customerId stage
    cases placed : place transaction.merchantId gid transaction.body status customerId transaction.newId db with
    | error error =>
      rw [placed] at committed
      cases committed
    | ok placement =>
      rw [placed] at committed
      cases committed
      exact ⟨gid, existing, status, customerId, stage, rfl, fun _ _ => statusAt_place placed⟩
  · cases committed

/-- What the repository reports of an order that it read as `previous`, where the stored one is `before`. -/
theorem computeQualifyingTransition_spec (previous : Option OrderFinancialStatus) :
    (computeQualifyingTransition previous status = .paidNew ↔ status = some .paid ∧ previous = none) ∧
      (computeQualifyingTransition previous status = .paidContinued ↔
        status = some .paid ∧ previous ≠ none ∧ previous ≠ some .paid) ∧
      (computeQualifyingTransition previous status = .noChange ↔ status = some .paid ∧ previous = some .paid) ∧
      (computeQualifyingTransition previous status = .nonPaid ↔ status ≠ some .paid) := by
  unfold computeQualifyingTransition
  by_cases paid : status = some .paid
  · rw [if_neg (not_not.mpr paid)]
    cases previous with
    | none => simp [paid]
    | some previous => cases previous <;> simp [paid]
  · simp [paid]

/-- A report is true to the order if and only if its transaction had been told the truth. -/
theorem faithful_iff {existing : Option Order} (stage : transaction.stage = .placing gid existing status link)
    (reported : report.result.qualifyingTransition =
      computeQualifyingTransition (existing.bind (·.financialStatus)) status)
    (before : report.before = statusAt transaction.merchantId gid db) (written : report.status = status) :
    report.Faithful ↔ transaction.Told db := by
  obtain ⟨paidNew, paidContinued, noChange, nonPaid⟩ :=
    @computeQualifyingTransition_spec status (existing.bind (·.financialStatus))
  unfold Transaction.Told
  rw [stage]
  by_cases paid : status = some .paid
  · subst paid
    dsimp only
    rw [← before]
    constructor
    · rintro ⟨absent, _, same, _⟩
      rw [reported, written] at absent same
      rw [paidNew] at absent
      rw [noChange] at same
      exact fun _ => by simpa using And.intro absent same
    · intro told
      obtain ⟨absent, same⟩ := told rfl
      refine ⟨?_, ?_, ?_, ?_⟩
      · rw [reported, paidNew, absent, written]
        exact and_comm
      · rw [reported, paidContinued, Ne, Ne, absent, same, written]
        cases report.before with
        | none => simp
        | some status => simp
      · rw [reported, noChange, same, written]
        exact and_comm
      · rw [reported, nonPaid, written]
  · refine ⟨fun _ same => absurd same paid, fun _ => ⟨?_, ?_, ?_, ?_⟩⟩
    · simp [reported, paidNew, written, paid]
    · simp [reported, paidContinued, written, paid]
    · simp [reported, noChange, written, paid]
    · rw [reported, nonPaid, written]

/-- The reports of a commit, and what it does to the order that is watched. -/
theorem commit_cases {slot : Nat} (moved : (webhooks merchantId gid).step world (.commit slot) = some next) :
    (next.reports = world.reports ∧ next.moves = world.moves ∧
        statusAt merchantId gid next.db = statusAt merchantId gid world.db) ∨
      ∃ transaction report, world.transactions.task? slot = some transaction ∧
        (report.Faithful ↔ transaction.Told world.db) ∧
        report.before = statusAt report.merchantId report.gid world.db ∧
        next.reports = world.reports ++ [report] ∧
        next.moves = world.moves ++ movement (statusAt merchantId gid world.db) (statusAt merchantId gid next.db) ∧
        statusAt merchantId gid next.db =
          if report.merchantId = merchantId ∧ report.gid = gid then some report.status
          else statusAt merchantId gid world.db := by
  obtain ⟨transaction, live, ended⟩ := Option.bind_eq_some_iff.mp moved
  obtain ⟨outcome, committed, rfl⟩ := Option.map_eq_some_iff.mp ended
  cases outcome with
  | error error => exact .inl ⟨rfl, rfl, rfl⟩
  | ok outcome =>
    obtain ⟨result, after⟩ := outcome
    obtain ⟨number, existing, status, customerId, stage, computed, stands⟩ := commit?_ok committed
    let report : Report := ⟨transaction.merchantId, number, statusAt transaction.merchantId number world.db, status, result⟩
    have reports : transaction.reports world.db result = [report] := by rw [Transaction.reports, stage]
    refine .inr ⟨transaction, report, live, faithful_iff stage computed rfl rfl, rfl, ?_, rfl, ?_⟩
    · exact congrArg (world.reports ++ ·) reports
    · exact stands merchantId gid

end Steps

section Runs

/-- Everything that a run has to keep. -/
structure Kept (merchantId : MerchantId) (gid : String) (start : Db) (world : World) : Prop where
  faithful : ∀ report ∈ world.reports, report.Faithful
  once : (world.reports.filter (·.enters merchantId gid)).map Report.move = world.moves.filter entry
  trail : Trail (statusAt merchantId gid start) world.moves (statusAt merchantId gid world.db)

/-- A faithful report of an order tells whether the order becomes paid. -/
theorem enters_iff (faithful : report.Faithful) (owner : report.merchantId = merchantId) (own : report.gid = gid) :
    report.enters merchantId gid = entry report.move := by
  obtain ⟨paidNew, paidContinued, _, _⟩ := faithful
  rw [Bool.eq_iff_iff]
  simp only [Report.enters, owner, own, BEq.rfl, Bool.true_and, Bool.or_eq_true, beq_iff_eq, paidNew, paidContinued,
    entry, Report.move, Bool.and_eq_true, bne_iff_ne, Option.some.injEq]
  cases report.before with
  | none => simp
  | some status => simp

theorem Kept.commit {start : Db} {slot : Nat} (kept : Kept merchantId gid start world)
    (told : Told world (.commit slot)) (moved : (webhooks merchantId gid).step world (.commit slot) = some next) :
    Kept merchantId gid start next := by
  rcases commit_cases moved with ⟨reports, moves, stands⟩ | ⟨transaction, report, live, truth, before, reports, moves, stands⟩
  · exact ⟨reports ▸ kept.faithful, by rw [reports, moves]; exact kept.once, by rw [moves, stands]; exact kept.trail⟩
  · have faithful : report.Faithful := truth.mpr (told transaction live)
    refine ⟨?_, ?_, ?_⟩
    · intro other listed
      rw [reports] at listed
      rcases List.mem_append.mp listed with earlier | fresh
      · exact kept.faithful other earlier
      · rw [List.mem_singleton.mp fresh]
        exact faithful
    · rw [reports, moves, List.filter_append, List.filter_append, List.map_append, kept.once]
      congr 1
      by_cases same : report.merchantId = merchantId ∧ report.gid = gid
      · rw [if_pos same] at stands
        rw [same.1, same.2] at before
        rw [stands, ← before, List.filter_singleton, enters_iff faithful same.1 same.2]
        by_cases still : report.before = some report.status
        · have none : entry report.move = false := by simp [entry, Report.move, still]
          rw [none, still, movement_self]
          rfl
        · rw [movement_of_ne still, List.filter_singleton]
          change List.map Report.move (bif entry report.move then [report] else []) =
            bif entry report.move then [report.move] else []
          cases entry report.move <;> rfl
      · rw [if_neg same] at stands
        have apart : report.enters merchantId gid = false := by
          rw [Report.enters, Bool.and_eq_false_iff]
          exact .inl (by simpa using same)
        rw [stands, movement_self, List.filter_singleton, apart]
        rfl
    · rw [moves]
      exact kept.trail.extend _

theorem kept_step {start : Db} {label : Label} (kept : Kept merchantId gid start world) (told : Told world label)
    (moved : (webhooks merchantId gid).step world label = some next) : Kept merchantId gid start next := by
  cases label with
  | webhook owner body newId =>
    cases moved
    exact ⟨kept.faithful, kept.once, kept.trail⟩
  | read slot =>
    obtain ⟨transaction, _, rfl⟩ := Option.map_eq_some_iff.mp moved
    exact ⟨kept.faithful, kept.once, kept.trail⟩
  | commit slot => exact kept.commit told moved
  | abort slot =>
    cases moved
    exact ⟨kept.faithful, kept.once, kept.trail⟩
  | elsewhere after =>
    cases moved
    exact ⟨kept.faithful, kept.once, kept.trail⟩

/-- In every run in which each transaction that writes `paid` has been told the truth, each report is
true to the order as the upsert found it, and the reports of an entry into paid are, one by one, the
entries that the order went through. The report of the next commit is true if and only if its
transaction has been told the truth. -/
theorem transitions_reported_once {start : Db}
    (reach : (webhooks merchantId gid).Reach Told { db := start } world) :
    (∀ report ∈ world.reports, report.Faithful) ∧
      Trail (statusAt merchantId gid start) world.moves (statusAt merchantId gid world.db) ∧
      (world.reports.filter (·.enters merchantId gid)).map Report.move = world.moves.filter entry ∧
      ∀ slot next report, (webhooks merchantId gid).step world (.commit slot) = some next →
        next.reports = world.reports ++ [report] → (report.Faithful ↔ Told world (.commit slot)) := by
  have kept : Kept merchantId gid start world := by
    apply reach.invariant
    · exact ⟨fun report listed => absurd listed List.not_mem_nil, rfl, .nil⟩
    · exact fun middle label final told moved kept => kept_step kept told moved
  refine ⟨kept.faithful, kept.trail, kept.once, ?_⟩
  intro slot next report moved reported
  rcases commit_cases moved with ⟨reports, _, _⟩ | ⟨transaction, other, live, truth, _, reports, _, _⟩
  · rw [reports] at reported
    simp at reported
  · rw [reports] at reported
    obtain rfl : other = report := by simpa using reported
    rw [truth, Told, live]
    simp

end Runs

section Samples

def sampleGid : String := "gid://shopify/Order/1"

def shopWith (orders : Table Order) : Db where
  merchants := .single { id := "m", shop := "m.myshopify.com" }
  orders

def storedOrder (status : Option OrderFinancialStatus) : Db :=
  shopWith (.single {
    id := "o"
    merchantId := "m"
    customerId := none
    shopifyOrderId := sampleGid
    financialStatus := status
    placedAt := 0 })

def paidBody : ShopifyOrderWebhookBody where
  id := .number 1
  financialStatus := some "paid"
  createdAt := 0

def paidWebhook (newId : String) : Label := .webhook "m" paidBody newId

/-- Both transactions read before either writes. -/
def sideBySide : List Label :=
  [paidWebhook "o1", paidWebhook "o2", .read 0, .read 1, .read 0, .read 1, .commit 0, .commit 1]

def oneByOne : List Label :=
  [paidWebhook "o1", .read 0, .read 0, .commit 0, paidWebhook "o2", .read 1, .read 1, .commit 1]

def schedule (start : Db) (labels : List Label) : Option World :=
  (webhooks "m" sampleGid).runWhere (fun _ _ => true) { db := start } labels

def toldSchedule (start : Db) (labels : List Label) : Option World :=
  (webhooks "m" sampleGid).runWhere (fun world label => decide (Told world label)) { db := start } labels

theorem sideBySide_runs : (schedule (shopWith ∅) sideBySide).isSome := by decide

def alone : List Label := [paidWebhook "o1", .read 0, .read 0, .commit 0]

theorem alone_runs : (schedule (storedOrder none) alone).isSome := by decide

theorem oneByOne_runs : (toldSchedule (storedOrder (some .pending)) oneByOne).isSome := by decide

/-- Two transactions report one entry; and an order whose status is not known yet counts as new. -/
theorem paid_reported_twice :
    (¬∀ (merchantId : MerchantId) (gid : String) (start : Db) (world : World),
      (webhooks merchantId gid).Reach (fun _ _ => True) { db := start } world →
      (world.reports.filter (·.enters merchantId gid)).map Report.move = world.moves.filter entry) ∧
    ¬∀ (merchantId : MerchantId) (gid : String) (start : Db) (world : World),
      (webhooks merchantId gid).Reach (fun _ _ => True) { db := start } world →
      ∀ report ∈ world.reports, report.Faithful := by
  constructor
  · intro claim
    have reach := (Machine.reach_get sideBySide_runs).mono fun _ _ _ => trivial
    have once := congrArg List.length (claim "m" sampleGid _ ((schedule (shopWith ∅) sideBySide).get sideBySide_runs) reach)
    have twice : (((schedule (shopWith ∅) sideBySide).get sideBySide_runs).reports.filter
        (·.enters "m" sampleGid)).length = 2 := by decide
    have entries : (((schedule (shopWith ∅) sideBySide).get sideBySide_runs).moves.filter entry).length = 1 := by
      decide
    rw [List.length_map, twice, entries] at once
    cases once
  · intro claim
    have reach := (Machine.reach_get alone_runs).mono fun _ _ _ => trivial
    have reported : ((schedule (storedOrder none) alone).get alone_runs).reports =
        [⟨"m", sampleGid, some none, some .paid, ⟨"o", none, false, .paidNew, none⟩⟩] := by decide
    have faithful := claim "m" sampleGid _ ((schedule (storedOrder none) alone).get alone_runs) reach
    rw [reported] at faithful
    have absent := ((faithful _ (List.mem_singleton_self _)).paidNew_iff.mp rfl).1
    cases absent

/-- Two webhooks of an order, one after the other: the first reports that it becomes paid. -/
theorem paid_reported_once :
    let world := (toldSchedule (storedOrder (some .pending)) oneByOne).get oneByOne_runs
    world.reports.map (·.result.qualifyingTransition) = [.paidContinued, .noChange] ∧
      (world.reports.filter (·.enters "m" sampleGid)).map Report.move = world.moves.filter entry := by
  have reach := (Machine.reach_get oneByOne_runs).mono fun _ _ => of_decide_eq_true
  exact ⟨by decide, (transitions_reported_once reach).2.2.1⟩

end Samples

end WinBack.Qualifying
