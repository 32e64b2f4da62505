import WinBack.Scoring.Announced
import WinBack.Scoring.Webhooks

/-! What a decay sweep knows of its customers. The cohort is read once, before the first batch;
orders that are committed since then are in no batch of the sweep. -/

namespace WinBack.Scoring.Webhooks

open Library CustomerScoreService

variable {merchant : Merchant} {merchantId : MerchantId} {now : Date} {row : Customer} {state : CustomerState}
  {snapshot : CohortSnapshot} {announced : Option Announcement} {customer : Customer} {scored : Scored}
  {rows : List Customer} {task next : Task} {db after : Db}

section Bands

/-- The band that a customer's own committed orders give it. -/
def ownBand (merchantId : MerchantId) (now : Date) (db : Db) (row : Customer) : CustomerState :=
  stateFromRecency (recencyDays merchantId now db row)

/-- A recency band beyond the customer's own. -/
def MoreLapsed (merchantId : MerchantId) (now : Date) (db : Db) (row : Customer) (state : CustomerState) : Prop :=
  state ∈ bands ∧ lapse (ownBand merchantId now db row) < lapse state

instance (merchantId : MerchantId) (now : Date) (db : Db) (row : Customer) (state : CustomerState) :
    Decidable (MoreLapsed merchantId now db row state) := inferInstanceAs (Decidable (_ ∧ _))

/-- A cohort that is read now gives every customer its own band, or none. -/
theorem not_moreLapsed_of_read :
    ¬MoreLapsed merchantId now db row ((CohortSnapshot.of merchantId now db).resolve row).newState := by
  rintro ⟨banded, beyond⟩
  have given : ((CohortSnapshot.of merchantId now db).resolve row).newState = band merchantId now db row :=
    scoreFor_newState
  rw [given] at banded beyond
  unfold band at banded beyond
  split at banded
  · exact absurd banded (by decide)
  · rename_i enough
    rw [if_neg enough] at beyond
    exact lt_irrefl _ beyond

end Bands

section Rows

/-- A scoring changes nothing of a customer row but its state. -/
theorem applyScore_rows (applied : applyScore merchant customer scored announced now db = .ok after) :
    ∀ row ∈ after.customers.rows, ∃ old ∈ db.customers.rows, row = { old with state := row.state } := by
  intro row member
  rcases applyScore_customers applied with same | moved
  · rw [same] at member
    exact ⟨row, member, rfl⟩
  · rw [moved] at member
    obtain ⟨old, present, rfl⟩ := List.mem_map.mp member
    refine ⟨old, present, ?_⟩
    split <;> rfl

theorem rescorePage_rows (done : rescorePage merchant snapshot announced rows db = .ok after) :
    ∀ row ∈ after.customers.rows, ∃ old ∈ db.customers.rows, row = { old with state := row.state } := by
  induction rows generalizing db with
  | nil =>
    cases done
    exact fun row member => ⟨row, member, rfl⟩
  | cons customer rest ih =>
    obtain ⟨middle, applied, following⟩ := bind_eq_ok_iff.mp done
    intro row member
    obtain ⟨between, present, same⟩ := ih following row member
    obtain ⟨old, stored, equal⟩ := applyScore_rows applied between present
    refine ⟨old, stored, ?_⟩
    rw [same, equal]

def Write.isOrder : Write → Bool
  | .order _ _ _ _ _ _ => true
  | .customer _ _ _ _ => false

theorem isOrder_of_none : ∀ write ∈ (none : Option Write), write.isOrder = true := by
  simp

/-- A task of an order webhook or of a sweep. -/
structure Task.Ordered (task : Task) : Prop where
  write : ∀ write ∈ task.write, write.isOrder = true
  stage : match task.stage with
    | .upserting write _ => write.isOrder = true
    | .sweeping _ _ _ => task.write = none
    | _ => True

theorem Task.Ordered.own (ordered : task.Ordered) {own : Db} (sees : task.own db = .ok own) :
    own.customers = db.customers := by
  have plain := ordered.write
  unfold Task.own at sees
  split at sees
  · cases sees
    rfl
  · rename_i write wrote
    obtain ⟨⟨scored, middle⟩, performed, same⟩ := map_eq_ok_iff.mp sees
    cases same
    cases write with
    | customer => cases plain _ wrote
    | order =>
      obtain ⟨⟨orderId, other⟩, placed, equal⟩ := map_eq_ok_iff.mp performed
      cases equal
      obtain ⟨orders, rfl⟩ := place_frame placed
      rfl

theorem Task.Ordered.restated (ordered : task.Ordered) (done : task.commit? db = some (.ok after)) :
    ∀ row ∈ after.customers.rows, ∃ old ∈ db.customers.rows, row = { old with state := row.state } := by
  unfold Task.commit? at done
  split at done
  · rw [ordered.own (Option.some.inj done)]
    exact fun row member => ⟨row, member, rfl⟩
  · obtain ⟨own, sees, scored⟩ := bind_eq_ok_iff.mp (Option.some.inj done)
    have kept := rescorePage_rows scored
    rwa [ordered.own sees] at kept
  · cases done

theorem Task.Ordered.read (ordered : task.Ordered) {clock : Nat} (moved : task.read clock db = some next) :
    next.Ordered := by
  obtain ⟨own, sees, step⟩ := Option.bind_eq_some_iff.mp moved
  have stage := ordered.stage
  split at step
  · rename_i write now here
    obtain ⟨⟨scored, after⟩, _, rfl⟩ := Option.map_eq_some_iff.mp step
    rw [here] at stage
    refine ⟨fun other wrote => Option.some.inj wrote ▸ stage, ?_⟩
    cases scored <;> trivial
  · split at step
    · cases step
      exact ⟨ordered.write, trivial⟩
    · cases step
      exact ⟨ordered.write, trivial⟩
  · obtain ⟨merchant, _, rfl⟩ := Option.map_eq_some_iff.mp step
    exact ⟨ordered.write, trivial⟩
  · obtain ⟨snapshot, _, rfl⟩ := Option.map_eq_some_iff.mp step
    exact ⟨ordered.write, trivial⟩
  · rename_i here
    obtain ⟨snapshot, _, rfl⟩ := Option.map_eq_some_iff.mp step
    rw [here] at stage
    exact ⟨ordered.write, stage⟩
  · cases step
    exact ⟨ordered.write, trivial⟩
  · cases step
    exact ordered
  · cases step
    exact ordered

end Rows

section Sweeps

variable {world last : World} {label : Label} {slot : Nat}

def Stage.holds? : Stage → Option (Sweep × CohortSnapshot × Option CustomerId)
  | .sweeping sweep (some (snapshot, _)) cursor => some (sweep, snapshot, cursor)
  | _ => none

theorem Stage.holds?_eq_some {stage : Stage} {sweep : Sweep} {cursor : Option CustomerId}
    (holds : stage.holds? = some (sweep, snapshot, cursor)) :
    ∃ cohortAt, stage = .sweeping sweep (some (snapshot, cohortAt)) cursor := by
  unfold Stage.holds? at holds
  split at holds
  · cases holds
    exact ⟨_, rfl⟩
  · cases holds

/-- The sweep, the cohort and the cursor of the batches to come. -/
def Task.ahead? (task : Task) : Option (Sweep × CohortSnapshot × Option CustomerId) :=
  task.stage.holds?.or (task.next?.bind fun next => next.stage.holds?)

def Beyond (cursor : Option CustomerId) (row : Customer) : Prop := ∀ last ∈ cursor, last < row.id

instance (cursor : Option CustomerId) (row : Customer) : Decidable (Beyond cursor row) :=
  inferInstanceAs (Decidable (∀ last ∈ cursor, last < row.id))

/-- No customer that the sweep has yet to come to is less lapsed after a commit, as the sweep
counts the days. -/
def Task.spared (db after : Db) (task : Task) : Bool :=
  task.ahead?.all fun (sweep, _, cursor) => db.customers.rows.all fun row =>
    decide (Beyond cursor row →
      lapse (ownBand sweep.merchant.id sweep.now db row) ≤ lapse (ownBand sweep.merchant.id sweep.now after row))

/-- Order webhooks and decay sweeps. -/
def ordersAndDecay : Label → Bool
  | .orderEvent _ _ _ _ | .decayRescore _ _ _ _ | .read _ | .commit _ | .abort _ => true
  | _ => false

/-- No commit makes a customer less lapsed that a sweep has read the cohort for and has yet to
come to. -/
def steady (world : World) (label : Label) : Bool :=
  ordersAndDecay label && match label with
    | .commit slot =>
      match (world.tasks.task? slot).bind (Task.commit? world.db) with
      | some (.ok after) => world.tasks.all fun task => task.all (Task.spared world.db after)
      | _ => true
    | _ => true

/-- The batches to come take no customer further than its own orders do. -/
structure Task.Current (db : Db) (task : Task) : Prop where
  ordered : task.Ordered
  ahead : ∀ sweep snapshot cursor, task.ahead? = some (sweep, snapshot, cursor) →
    ∀ row ∈ db.customers.rows, Beyond cursor row →
      ¬MoreLapsed sweep.merchant.id sweep.now db row (snapshot.resolve row).newState

theorem Task.Current.kept (current : task.Current db) (spared : task.spared db after = true)
    (restated : ∀ row ∈ after.customers.rows, ∃ old ∈ db.customers.rows, row = { old with state := row.state }) :
    task.Current after where
  ordered := current.ordered
  ahead sweep snapshot cursor held row member yet := by
    obtain ⟨old, stored, same⟩ := restated row member
    have named : old.id = row.id := by rw [same]
    have beyond : Beyond cursor old := by
      unfold Beyond
      rwa [named]
    have earlier := current.ahead sweep snapshot cursor held old stored beyond
    have further : lapse (ownBand sweep.merchant.id sweep.now db old) ≤
        lapse (ownBand sweep.merchant.id sweep.now after old) := by
      unfold Task.spared at spared
      rw [held, Option.all_some, List.all_eq_true] at spared
      exact of_decide_eq_true (spared old stored) beyond
    rw [same]
    rintro ⟨banded, lapsed⟩
    exact earlier ⟨banded, further.trans_lt lapsed⟩

/-- A batch is read beyond the cursor, and the next cursor is the last of the batch. -/
theorem beyond_of_fetched {cursor : Option CustomerId} {states : Option (List CustomerState)} {batchSize : Nat}
    (member : customer ∈ fetch merchant states batchSize cursor db) : Beyond cursor customer := by
  intro last held
  rw [Option.mem_def] at held
  subst held
  exact Paging.cursor_lt_of_mem_page (selected_sorted _ _ _) member

theorem Task.Current.read (current : task.Current db) {clock : Nat} (moved : task.read clock db = some next) :
    next.Current db where
  ordered := current.ordered.read moved
  ahead sweep snapshot cursor held row member yet := by
    obtain ⟨own, sees, step⟩ := Option.bind_eq_some_iff.mp moved
    have stage := current.ordered.stage
    have earlier := current.ahead
    split at step
    · obtain ⟨⟨scored, after⟩, _, rfl⟩ := Option.map_eq_some_iff.mp step
      cases scored <;> cases held
    · split at step
      · cases step
        cases held
      · cases step
        cases held
    · obtain ⟨merchant, _, rfl⟩ := Option.map_eq_some_iff.mp step
      cases held
    · obtain ⟨snapshot, _, rfl⟩ := Option.map_eq_some_iff.mp step
      cases held
    · rename_i begun from' here
      obtain ⟨read, reads, rfl⟩ := Option.map_eq_some_iff.mp step
      rw [here] at stage
      have alone : own = db := by
        unfold Task.own at sees
        rw [stage] at sees
        exact (Option.some.inj sees).symm
      rw [read_eq] at reads
      cases reads
      cases held
      rw [alone]
      exact not_moreLapsed_of_read
    · rename_i begun cohort cohortAt from' here
      have holds : task.ahead? = some (begun, cohort, from') := by
        unfold Task.ahead?
        rw [here]
        rfl
      cases step
      unfold Task.ahead? Task.next? at held
      dsimp only at held
      split at held
      · rename_i same ends
        split at held
        · cases held
        · cases held
          cases same
          refine earlier _ _ _ holds row member fun key at' => ?_
          have before := beyond_of_fetched (List.mem_of_getLast? ends) key at'
          exact before.trans (yet _ rfl)
      · cases held
    · cases step
      exact earlier _ _ _ held row member yet
    · cases step
      exact earlier _ _ _ held row member yet

/-- A sweep goes on with the cohort that it holds. -/
theorem Task.Current.onward (current : task.Current db) (more : task.next? = some next) : next.Current db := by
  have general := more
  unfold Task.next? at more
  split at more
  · rename_i page here
    split at more
    · split at more
      · cases more
      · cases more
        refine ⟨⟨isOrder_of_none, rfl⟩, fun sweep snapshot cursor held row member yet => ?_⟩
        refine current.ahead sweep snapshot cursor ?_ row member yet
        unfold Task.ahead?
        rw [here, general]
        exact held
    · cases more
  · cases more

theorem current_start {stage : Stage} (plain : ({ stage } : Task).Ordered) (idle : ({ stage } : Task).ahead? = none) :
    ({ stage } : Task).Current db where
  ordered := plain
  ahead _ _ _ held := by
    rw [idle] at held
    cases held

theorem current_step {label : Label} (current : world.tasks.Every (Task.Current world.db))
    (timely : steady world label = true) (stepped : machine.step world label = some last) :
    last.tasks.Every (Task.Current last.db) := by
  obtain ⟨ours, timely⟩ := Bool.and_eq_true_iff.mp timely
  have settled {next : Option Task} (db : Db) (every : world.tasks.Every (Task.Current db))
      (fine : ∀ task ∈ next, task.Current db) (slot : Nat) :
      (next.elim (world.tasks.clear slot) fun task => world.tasks.put slot task).Every (Task.Current db) := by
    cases next with
    | none => exact every.clear
    | some task => exact every.put (fine task rfl)
  cases label with
  | orderEvent owner body newId now =>
    simp only [machine] at stepped
    split at stepped
    · cases stepped
      exact current.spawn (current_start ⟨isOrder_of_none, rfl⟩ rfl)
    · cases stepped
      exact current
  | decayRescore owner actorId now batchSize =>
    simp only [machine] at stepped
    split at stepped
    · cases stepped
      exact current
    · cases stepped
      exact current.spawn (current_start ⟨isOrder_of_none, rfl⟩ rfl)
  | read slot =>
    obtain ⟨task, live, rfl⟩ := Option.map_eq_some_iff.mp stepped
    exact settled world.db current (fun next moved => (current.get live).read moved) slot
  | commit slot =>
    obtain ⟨task, live, finished⟩ := Option.bind_eq_some_iff.mp stepped
    obtain ⟨result, done, rfl⟩ := Option.map_eq_some_iff.mp finished
    cases result with
    | error error => exact @settled none world.db current (fun _ more => nomatch more) slot
    | ok after =>
      have restated := (current.get live).ordered.restated done
      have spared : ∀ other, some other ∈ world.tasks → other.spared world.db after = true := by
        simp only [live, Option.bind_some, done, List.all_eq_true] at timely
        exact fun other member => timely _ member
      have kept : world.tasks.Every (Task.Current after) := fun other member =>
        (current other member).kept (spared other member) restated
      exact settled after kept (fun next more => (kept.get live).onward more) slot
  | abort slot =>
    cases stepped
    exact @settled none world.db current (fun _ more => nomatch more) slot
  | customerEvent | recompute | bulkRescore | customersBackfilled | ordersBackfilled | elsewhere => cases ours

/-- Whatever state a commit gives a customer, and announces, is no more lapsed than the band of
the customer's own orders was at the start. -/
def NotBehind (merchantId : MerchantId) (now : Date) (start db after : Db) : Prop :=
  ∀ customerId, stateOf customerId after = stateOf customerId db ∧
      transitions customerId after = transitions customerId db ∨
    ∃ row ∈ start.customers.rows, row.id = customerId ∧ ∃ state announced, stateOf customerId after = some state ∧
      transitions customerId after = transitions customerId db ++ announced ∧
      (∀ move ∈ announced, move.newState = state) ∧ ¬MoreLapsed merchantId now start row state

theorem notBehind_rescored {start : Db} {now : Date} (done : rescorePage merchant snapshot announced rows db = .ok after)
    (distinct : (rows.map (·.id)).Nodup)
    (fresh : ∀ row ∈ rows, row ∈ start.customers.rows ∧
      ¬MoreLapsed merchant.id now start row (snapshot.resolve row).newState) :
    NotBehind merchant.id now start db after := by
  intro customerId
  by_cases listed : customerId ∈ rows.map (·.id)
  · obtain ⟨row, member, rfl⟩ := List.mem_map.mp listed
    obtain ⟨stored, behind⟩ := fresh row member
    rcases rescorePage_fate done distinct member with ⟨_, kept, silent⟩ | moved
    · exact .inl ⟨kept, silent⟩
    · refine .inr ⟨row, stored, rfl, _, _, moved.stands, moved.announced, fun move told => ?_, behind⟩
      split at told
      · rw [List.mem_singleton.mp told]
      · cases told
  · exact .inl (rescorePage_apart done listed)

/-- The batches of a sweep are of the working set, beyond the cursor. -/
theorem batch_fresh {task batch : Task} {sweep : Sweep} {clock : Nat} {cursor : Option CustomerId}
    (current : task.Current db) (sweeping : task.stage.holds? = some (sweep, snapshot, cursor)) (started : task.read clock db = some batch) : batch.write = none ∧ ∃ page, batch.stage = .writing page ∧
      page.merchant = sweep.merchant ∧ (page.customers.map (·.id)).Nodup ∧ ∀ row ∈ page.customers,
        row ∈ db.customers.rows ∧
          ¬MoreLapsed sweep.merchant.id sweep.now db row (page.snapshot.resolve row).newState := by
  have holds : task.ahead? = some (sweep, snapshot, cursor) := by
    unfold Task.ahead?
    rw [sweeping]
    rfl
  obtain ⟨cohortAt, here⟩ := Stage.holds?_eq_some sweeping
  have alone : task.write = none := by
    have stage := current.ordered.stage
    rwa [here] at stage
  have sees : task.own db = .ok db := by
    unfold Task.own
    rw [alone]
  unfold Task.read at started
  rw [sees, here] at started
  cases started
  refine ⟨alone, _, rfl, rfl, fetch_nodup _ _ _ _ _, fun row member => ?_⟩
  have stored := (mem_selected.mp (Paging.page_sublist.subset member)).1
  exact ⟨stored, current.ahead sweep snapshot cursor holds row stored (beyond_of_fetched member)⟩

/-- The sweep of a slot that holds its cohort, and the batch that its next statement reads. -/
def World.starts? (slot : Nat) (world : World) : Option (Sweep × Task) :=
  (world.tasks.task? slot).bind fun task => task.stage.holds?.bind fun (sweep, _) =>
    (task.read world.log.length world.db).map fun batch => (sweep, batch)

theorem starts?_step {sweep : Sweep} {batch : Task} (starts : world.starts? slot = some (sweep, batch)) :
    machine.step world (.read slot) = some { world with tasks := world.tasks.put slot batch } := by
  obtain ⟨task, live, holding⟩ := Option.bind_eq_some_iff.mp starts
  obtain ⟨held, _, reads⟩ := Option.bind_eq_some_iff.mp holding
  obtain ⟨next, read, same⟩ := Option.map_eq_some_iff.mp reads
  cases same
  simp only [machine, live, Option.map_some, read]
  rfl

/-- In every run of order webhooks and decay sweeps in which no commit makes a customer less
lapsed that a sweep has yet to come to, a batch takes no customer further than the orders that
were there when it started, whatever is committed before it commits itself. -/
theorem decay_not_behind {before later : World} {sweep : Sweep} {batch : Task}
    (reach : machine.Reach (fun world label => steady world label = true) { db } before)
    (starts : before.starts? slot = some (sweep, batch)) (waits : later.tasks.task? slot = some batch)
    (commits : machine.step later (.commit slot) = some last) :
    NotBehind sweep.merchant.id sweep.now before.db later.db last.db := by
  obtain ⟨task, live, holding⟩ := Option.bind_eq_some_iff.mp starts
  obtain ⟨⟨begun, snapshot, cursor⟩, sweeping, reads⟩ := Option.bind_eq_some_iff.mp holding
  obtain ⟨next, read, same⟩ := Option.map_eq_some_iff.mp reads
  cases same
  have current := (reach.invariant (fun _ member => by cases member) fun _ _ _ timely stepped current =>
    current_step current timely stepped).get live
  obtain ⟨alone, page, writing, named, distinct, fresh⟩ := batch_fresh current sweeping read
  obtain ⟨present, found, finished⟩ := Option.bind_eq_some_iff.mp commits
  cases waits.symm.trans found
  obtain ⟨result, done, rfl⟩ := Option.map_eq_some_iff.mp finished
  cases result with
  | error error => exact fun _ => .inl ⟨rfl, rfl⟩
  | ok after =>
    unfold Task.commit? Task.own at done
    rw [writing, alone] at done
    rw [← named] at fresh ⊢
    exact notBehind_rescored (Option.some.inj done) distinct fresh

end Sweeps

section Batches

/-- The webhook of an order on the day of the sweep. -/
def boughtToday : ShopifyOrderWebhookBody where
  id := .text "11"
  customer := some (.text "1")
  financialStatus := some "paid"
  totalAmountCents := 100
  createdAt := dormantDay

/-- The order commits before the sweep reads the cohort. -/
def boughtBefore : List Label :=
  [.decayRescore "m" "scheduler" dormantDay 10, .orderEvent "m" boughtToday "x" dormantDay,
    .read 1, .read 1, .read 1, .read 1, .commit 1, .read 0]

/-- It commits after that. -/
def boughtAfter : List Label :=
  [.decayRescore "m" "scheduler" dormantDay 10, .read 0, .orderEvent "m" boughtToday "x" dormantDay,
    .read 1, .read 1, .read 1, .read 1, .commit 1]

def swept? (check : World → Label → Bool) (labels : List Label) : Option World :=
  machine.runWhere check { db := lapsed } labels

/-- The batch of the sweep is read, and committed with nothing in between. -/
def World.batched? (world : World) : Option World :=
  (world.starts? 0).bind fun (_, batch) => machine.step { world with tasks := world.tasks.put 0 batch } (.commit 0)

theorem bought_before : (swept? steady boughtBefore).isSome = true := by decide

theorem bought_after : (swept? (fun _ label => ordersAndDecay label) boughtAfter).isSome = true := by decide

theorem batched_before : (((swept? steady boughtBefore).get bought_before).batched?).isSome = true := by decide

theorem batched_after :
    (((swept? (fun _ label => ordersAndDecay label) boughtAfter).get bought_after).batched?).isSome = true := by
  decide

/-- The sweep finds that the customer has bought, and moves the others only. -/
theorem decay_not_behind_bought_before : ∃ before sweep batch last, swept? steady boughtBefore = some before ∧
    before.starts? 0 = some (sweep, batch) ∧ before.batched? = some last ∧ stateOf "a" last.db = some .active ∧
    stateOf "b" last.db = some .dormant ∧ NotBehind sweep.merchant.id sweep.now before.db before.db last.db := by
  let before := (swept? steady boughtBefore).get bought_before
  have batched := (Option.some_get batched_before).symm
  obtain ⟨⟨sweep, batch⟩, starts, commits⟩ := Option.bind_eq_some_iff.mp batched
  let later : World := { before with tasks := before.tasks.put 0 batch }
  have waits : later.tasks.task? 0 = some batch := Pool.task?_put (by decide)
  have behind := decay_not_behind (Machine.reach_get bought_before) starts waits commits
  exact ⟨_, sweep, batch, _, (Option.some_get bought_before).symm, starts, batched, by decide, by decide,
    behind⟩

/-- Otherwise it announces that the customer, who bought today, went dormant. -/
theorem decay_overwrites_an_order :
    ¬∀ (db : Db) (slot : Nat) (before later last : World) (sweep : Sweep) (batch : Task),
      machine.Reach (fun _ label => ordersAndDecay label = true) { db } before →
      before.starts? slot = some (sweep, batch) →
      machine.Reach (fun _ label => ordersAndDecay label = true) before later →
      later.tasks.task? slot = some batch → machine.step later (.commit slot) = some last →
      NotBehind sweep.merchant.id sweep.now before.db later.db last.db := by
  intro claim
  let before := (swept? (fun _ label => ordersAndDecay label) boughtAfter).get bought_after
  obtain ⟨⟨sweep, batch⟩, starts, commits⟩ := Option.bind_eq_some_iff.mp (Option.some_get batched_after).symm
  let later : World := { before with tasks := before.tasks.put 0 batch }
  have waits : later.tasks.task? 0 = some batch := Pool.task?_put (by decide)
  have named : (before.starts? 0).map (fun started => (started.1.merchant.id, started.1.now)) = some ("m", dormantDay) := by
    decide
  rw [starts] at named
  obtain ⟨owner, clock⟩ := Prod.mk.inj (Option.some.inj named)
  have written : stateOf "a" (before.batched?.get batched_after).db = some .dormant := by decide
  have stood : stateOf "a" before.db = some .active := by decide
  have behind : ∀ row ∈ before.db.customers.rows, row.id = "a" → MoreLapsed "m" dormantDay before.db row .dormant := by
    decide
  rcases claim lapsed 0 _ _ _ sweep batch (Machine.reach_get bought_after) starts
    (.step .origin rfl (starts?_step starts)) waits commits "a" with ⟨kept, _⟩ | ⟨row, stored, about, state, _, moved, _, _, fresh⟩
  · exact absurd (written.symm.trans (kept.trans stood)) (by decide)
  · cases written.symm.trans moved
    rw [owner, clock] at fresh
    exact fresh (behind row stored about)

end Batches

end WinBack.Scoring.Webhooks
