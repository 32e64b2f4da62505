import WinBack.Library.Isolated
import WinBack.Scoring.Sweep

/-! The daily decay sweep over all merchants: each is rescored on its own, and what a pass that throws or is cut short
leaves behind is nobody else's business. -/

namespace WinBack.Scoring

open Library

section DecaySweep

def decayRescoreBatchSize : Nat := 500

def decaySweepActorId : String := "scheduler"

/-- The merchants of a tick: initialized and live, in no particular order. -/
def sweptMerchants (db : Db) : List MerchantId :=
  (db.merchants.rows.filter fun merchant =>
    merchant.scoringInitializedAt.isSome && merchant.uninstalledAt.isNone && merchant.tokenRevokedAt.isNone).map (·.id)

/-- What the environment decides about one merchant: the clock, and after how many pages the database goes away. -/
structure PassChoice where
  now : Date := 0
  stops : Option Nat := none

/-- The page loop of `decayRescore`. -/
def decayPages (merchant : Merchant) (snapshot : CohortSnapshot) (fuel : Nat) (db : Db) :
    Paging.Swept Db Customer RepositoryError :=
  Paging.sweep Customer.id decayRescoreBatchSize (fetch merchant (some decayWorkingSetStates) decayRescoreBatchSize)
    (rescorePage merchant snapshot (some ⟨decaySweepActorId, some "decay_sweep"⟩)) fuel none db

/-- The result, if the pass does not throw, and what it has committed. -/
def merchantPass (choice : PassChoice) (merchantId : MerchantId) (db : Db) : Option DecayRescoreResult × Db :=
  match choice.stops with
  | none =>
    let pass := decayRescore merchantId decaySweepActorId choice.now decayRescoreBatchSize db
    (pass.outcome.toOption, pass.db)
  | some pages =>
    match begin "decayRescore" merchantId choice.now db with
    | .error _ => (none, db)
    | .ok (merchant, snapshot) => (none, (decayPages merchant snapshot pages db).state)

structure DecaySweepReport where
  candidates : Nat
  merchantsSwept : Nat
  merchantsFailed : Nat
  totalTransitions : Nat
  totalEmitted : Nat
  deriving DecidableEq, Repr

def DecaySweepReport.of (results : List (Option DecayRescoreResult)) : DecaySweepReport where
  candidates := results.length
  merchantsSwept := (results.filterMap id).length
  merchantsFailed := results.countP Option.isNone
  totalTransitions := ((results.filterMap id).map (·.transitions)).sum
  totalEmitted := ((results.filterMap id).map (·.emitted)).sum

/-- A merchant whose pass throws is counted, and the next one has its turn. -/
def runDecaySweep (choices : MerchantId → PassChoice) (rows : List MerchantId) (db : Db) : DecaySweepReport × Db :=
  let (results, db) := passAll (fun merchantId => merchantPass (choices merchantId) merchantId) rows db
  (.of results, db)

end DecaySweep

section Portion

/-- What scoring reads and writes of one merchant. -/
@[ext] structure Portion where
  merchant : Option Merchant
  customers : List Customer
  orders : List Order
  scores : CustomerId → Option CustomerScore

def portion (merchantId : MerchantId) (db : Db) : Portion where
  merchant := db.merchants.find? (·.id == merchantId)
  customers := db.customers.rows.filter (·.merchantId == merchantId)
  orders := db.orders.rows.filter (·.merchantId == merchantId)
  scores customerId := (scoreOf customerId db).filter (·.merchantId == merchantId)

variable {merchant : Merchant} {snapshot : CohortSnapshot} {states : Option (List CustomerState)} {merchantId other : MerchantId}
  {ids : List CustomerId} {now : Date} {db next first second : Db}

theorem filter_own {Row : Type} {rows : List Row} {own accepts : Row → Bool} (narrow : ∀ row, accepts row = true → own row = true) :
    rows.filter accepts = (rows.filter own).filter accepts := by
  rw [List.filter_filter]
  refine List.filter_congr fun row _ => ?_
  cases accepted : accepts row with
  | false => rfl
  | true => rw [narrow row accepted]; rfl

theorem snapshot_own (same : portion merchantId first = portion merchantId second) :
    CohortSnapshot.of merchantId now first = CohortSnapshot.of merchantId now second := by
  have orders : first.orders.rows.filter (·.merchantId == merchantId) = second.orders.rows.filter (·.merchantId == merchantId) :=
    congrArg Portion.orders same
  have counted (accepts : Order → Bool) (narrow : ∀ order, accepts order = true → (order.merchantId == merchantId) = true) :
      first.orders.rows.filter accepts = second.orders.rows.filter accepts := by
    rw [filter_own narrow, orders, ← filter_own narrow]
  have cohort : CustomerScoreRepository.readCohort merchantId now first = CustomerScoreRepository.readCohort merchantId now second := by
    unfold CustomerScoreRepository.readCohort CustomerScoreRepository.ordersOf
    rw [counted _ fun order taken => by simp_all [CustomerScoreRepository.counted]]
    refine List.map_congr_left fun customerId _ => ?_
    rw [counted _ fun order taken => by simp_all [CustomerScoreRepository.counted]]
  unfold CohortSnapshot.of
  rw [cohort]

theorem begin_own (operation : String) (same : portion merchantId first = portion merchantId second) :
    begin operation merchantId now first = begin operation merchantId now second := by
  have found : first.merchants.find? (·.id == merchantId) = second.merchants.find? (·.id == merchantId) :=
    congrArg Portion.merchant same
  unfold begin
  rw [found, read_eq, read_eq, snapshot_own same]

theorem selected_own (same : portion merchantId first = portion merchantId second) :
    selected merchantId states first = selected merchantId states second := by
  have customers : first.customers.rows.filter (·.merchantId == merchantId) =
      second.customers.rows.filter (·.merchantId == merchantId) := congrArg Portion.customers same
  have narrow (row : Customer) (taken : (row.merchantId == merchantId && row.deletedAt == none &&
      states.all fun states => decide (row.state ∈ states)) = true) : (row.merchantId == merchantId) = true := by
    simp_all
  unfold selected
  rw [filter_own narrow, customers, ← filter_own narrow]

/-- The customers of a page are the merchant's. -/
def OwnIds (merchantId : MerchantId) (ids : List CustomerId) (db : Db) : Prop :=
  ∀ id ∈ ids, ∃ row ∈ db.customers.rows, row.id = id ∧ row.merchantId = merchantId

theorem customers_page (page : ScoredPage merchant snapshot ids db next) (merchantId : MerchantId) :
    next.customers.rows.filter (·.merchantId == merchantId) =
      (db.customers.rows.filter (·.merchantId == merchantId)).map (settled snapshot ids) := by
  rw [page.customers, List.filter_map]
  congr 1
  refine List.filter_congr fun row _ => ?_
  dsimp only [Function.comp]
  unfold settled
  split <;> rfl

/-- One page over two stores that the merchant cannot tell apart. -/
theorem ScoredPage.portion_own {after : Db} (page : ScoredPage merchant snapshot ids first next)
    (other : ScoredPage merchant snapshot ids second after) (own : OwnIds merchant.id ids first)
    (same : portion merchant.id first = portion merchant.id second) : portion merchant.id next = portion merchant.id after := by
  ext1
  · simp only [portion, page.merchants, other.merchants]
    exact congrArg Portion.merchant same
  · simp only [portion]
    rw [customers_page page, customers_page other]
    exact congrArg (List.map _) (congrArg Portion.customers same)
  · simp only [portion, page.orders, other.orders]
    exact congrArg Portion.orders same
  · funext customerId
    simp only [portion]
    by_cases listed : customerId ∈ ids
    · obtain ⟨row, stored, rfl, owner⟩ := own customerId listed
      have customers : first.customers.rows.filter (·.merchantId == merchant.id) =
          second.customers.rows.filter (·.merchantId == merchant.id) := congrArg Portion.customers same
      have mine : row ∈ first.customers.rows.filter (·.merchantId == merchant.id) :=
        List.mem_filter.mpr ⟨stored, beq_iff_eq.mpr owner⟩
      rw [customers] at mine
      rw [page.scored row stored listed, other.scored row (List.mem_of_mem_filter mine) listed]
    · rw [page.others customerId listed, other.others customerId listed]
      exact congrFun (congrArg Portion.scores same) customerId

/-- A page of one merchant is nothing to another. -/
theorem ScoredPage.portion_apart (page : ScoredPage merchant snapshot ids db next) (own : OwnIds merchant.id ids db)
    (scores : ScoresOwned db) (apart : other ≠ merchant.id) : portion other next = portion other db := by
  ext1
  · simp only [portion, page.merchants]
  · simp only [portion]
    rw [customers_page page]
    refine (List.map_congr_left fun row listed => ?_).trans (List.map_id _)
    obtain ⟨stored, owner⟩ := List.mem_filter.mp listed
    refine settled_of_not_mem fun scored => ?_
    obtain ⟨same, present, named, foreign⟩ := own row.id scored
    obtain rfl := customer_unique present stored named
    exact apart ((beq_iff_eq.mp owner).symm.trans foreign)
  · simp only [portion, page.orders]
  · funext customerId
    simp only [portion]
    by_cases listed : customerId ∈ ids
    · obtain ⟨row, stored, rfl, owner⟩ := own customerId listed
      rw [page.scored row stored listed]
      have before : (scoreOf row.id db).filter (·.merchantId == other) = none := by
        rw [Option.filter_eq_none_iff]
        intro score found foreign
        obtain ⟨present, named⟩ := Table.find?_mem found
        have owned := scores score present row stored (beq_iff_eq.mp named).symm
        exact apart ((beq_iff_eq.mp foreign).symm.trans (owned.symm.trans owner))
      rw [before, Option.filter_eq_none_iff]
      intro score written foreign
      obtain rfl := Option.some.inj written
      exact apart (beq_iff_eq.mp foreign).symm
    · rw [page.others customerId listed]

end Portion

section Passes

variable {merchant : Merchant} {snapshot : CohortSnapshot} {merchantId other : MerchantId} {choice : PassChoice} {fuel : Nat}
  {db next first second : Db} {customers : List Customer}

theorem ownIds_of_sublist {states : Option (List CustomerState)} (listed : customers.Sublist (selected merchant.id states db)) :
    OwnIds merchant.id (customers.map (·.id)) db := by
  intro id member
  obtain ⟨row, present, rfl⟩ := List.mem_map.mp member
  obtain ⟨stored, owner, _⟩ := mem_selected.mp (listed.subset present)
  exact ⟨row, stored, rfl, owner⟩

theorem fetch_sublist (cursor : Option CustomerId) (db : Db) :
    (fetch merchant (some decayWorkingSetStates) decayRescoreBatchSize cursor db).Sublist
      (selected merchant.id (some decayWorkingSetStates) db) := Paging.page_sublist

/-- However many pages a pass has committed, no other merchant sees them. -/
theorem decayPages_apart (ready : Ready merchant db) :
    Ready merchant (decayPages merchant snapshot fuel db).state ∧ ∀ other, other ≠ merchant.id →
      portion other (decayPages merchant snapshot fuel db).state = portion other db := by
  let Holds (_ : List Customer) (state : Db) : Prop :=
    Ready merchant state ∧ ∀ other, other ≠ merchant.id → portion other state = portion other db
  have start : Holds [] db := ⟨ready, fun _ _ => rfl⟩
  refine Paging.sweep_invariant start fun seen cursor state next held done => ?_
  obtain ⟨ready, same⟩ := held
  have listed := @fetch_sublist merchant cursor state
  have page := (rescorePage_spec (pageable_of_sublist ready.known ready.scores listed)).2 next done
  exact ⟨ready.after page, fun other apart =>
    (page.portion_apart (ownIds_of_sublist listed) ready.scores apart).trans (same other apart)⟩

/-- Over two stores that the merchant cannot tell apart, its pages go side by side. -/
theorem decayPages_own (here : Ready merchant first) (there : Ready merchant second)
    (same : portion merchant.id first = portion merchant.id second) :
    let one := decayPages merchant snapshot fuel first
    let two := decayPages merchant snapshot fuel second
    portion merchant.id one.state = portion merchant.id two.state ∧ one.visited = two.visited ∧ one.batches = two.batches ∧
      (one.ending = .done ↔ two.ending = .done) := by
  let Related (first second : Db) : Prop :=
    Ready merchant first ∧ Ready merchant second ∧ portion merchant.id first = portion merchant.id second
  have start : Related first second := ⟨here, there, same⟩
  obtain ⟨⟨_, _, left⟩, rest⟩ := Paging.sweep_related start
    (fun cursor first second related => congrArg (Paging.page Customer.id decayRescoreBatchSize cursor)
      (selected_own related.2.2))
    fun cursor first second related => by
      obtain ⟨here, there, same⟩ := related
      have listed := @fetch_sublist merchant cursor first
      have present : (fetch merchant (some decayWorkingSetStates) decayRescoreBatchSize cursor first).Sublist
          (selected merchant.id (some decayWorkingSetStates) second) := selected_own same ▸ listed
      obtain ⟨runs, leaves⟩ := rescorePage_spec (pageable_of_sublist here.known here.scores listed)
      obtain ⟨runs', leaves'⟩ := rescorePage_spec (pageable_of_sublist there.known there.scores present)
      cases done : rescorePage merchant snapshot (some ⟨decaySweepActorId, some "decay_sweep"⟩)
          (fetch merchant (some decayWorkingSetStates) decayRescoreBatchSize cursor first) first with
      | ok next =>
        obtain ⟨after, also⟩ := runs'.mpr (runs.mp ⟨next, done⟩)
        have page := leaves next done
        have page' := leaves' after also
        exact .inr ⟨next, after, done, also, here.after page, there.after page',
          page.portion_own page' (ownIds_of_sublist listed) same⟩
      | error error =>
        cases also : rescorePage merchant snapshot (some ⟨decaySweepActorId, some "decay_sweep"⟩)
            (fetch merchant (some decayWorkingSetStates) decayRescoreBatchSize cursor first) second with
        | error error' => exact .inl ⟨error, error', done, also⟩
        | ok after =>
          obtain ⟨next, went⟩ := runs.mpr (runs'.mp ⟨after, also⟩)
          rw [done] at went
          cases went
  exact ⟨left, rest⟩

theorem ready_of_begun {operation : String} {now : Date} (scores : ScoresOwned db)
    (begun : begin operation merchantId now db = .ok (merchant, snapshot)) :
    merchant.id = merchantId ∧ Ready merchant db ∧ snapshot = .of merchantId now db := by
  unfold begin at begun
  split at begun
  · cases begun
  · rename_i found
    rw [read_eq] at begun
    obtain ⟨rfl, rfl⟩ := Prod.mk.inj (Except.ok.inj begun)
    obtain ⟨stored, named⟩ := Table.find?_mem found
    exact ⟨beq_iff_eq.mp named, ready_of_stored stored scores, rfl⟩

/-- A pass that is not cut short has all the fuel it needs. -/
theorem pages_eq_decayPages (ready : Ready merchant db) (enough : db.customers.rows.length < fuel) :
    pages merchant snapshot (some ⟨decaySweepActorId, some "decay_sweep"⟩) (some decayWorkingSetStates) decayRescoreBatchSize db =
      decayPages merchant snapshot fuel db :=
  (Paging.sweep_more (@pages_visited merchant snapshot _ _ db decayRescoreBatchSize ready).2.1 enough).symm

/-- What a whole pass answers and leaves, by its pages. -/
theorem decayRescore_of_begun {actorId : String} {batchSize : Nat} {now : Date}
    (begun : begin "decayRescore" merchantId now db = .ok (merchant, snapshot)) :
    let swept := pages merchant snapshot (some ⟨actorId, some "decay_sweep"⟩) (some decayWorkingSetStates) batchSize db
    let transitions := swept.visited.countP fun row => row.state ≠ (snapshot.resolve row).newState
    (decayRescore merchantId actorId now batchSize db).db = swept.state ∧
      (decayRescore merchantId actorId now batchSize db).outcome.toOption =
        if swept.ending = .done then
          some ⟨swept.visited.length, transitions, if merchant.scoringInitializedAt.isSome then transitions else 0,
            swept.batches, snapshot.cohort.length⟩
        else none := by
  unfold decayRescore
  rw [begun]
  dsimp only
  split
  · rename_i ending
    rw [if_pos ending]
    exact ⟨rfl, rfl⟩
  · rename_i ending
    rw [if_neg (by rw [ending]; exact fun same => (nomatch same))]
    exact ⟨rfl, rfl⟩
  · rename_i ending
    rw [if_neg (by rw [ending]; exact fun same => (nomatch same))]
    exact ⟨rfl, rfl⟩

theorem merchantPass_begun_error {error : RepositoryError}
    (begun : begin "decayRescore" merchantId choice.now db = .error error) : merchantPass choice merchantId db = (none, db) := by
  unfold merchantPass
  split
  · unfold decayRescore
    rw [begun]
    rfl
  · rw [begun]

/-- A pass writes its pages. -/
theorem merchantPass_db (scores : ScoresOwned db) (begun : begin "decayRescore" merchantId choice.now db = .ok (merchant, snapshot)) :
    ∃ fuel, (merchantPass choice merchantId db).2 = (decayPages merchant snapshot fuel db).state := by
  obtain ⟨rfl, ready, rfl⟩ := ready_of_begun scores begun
  unfold merchantPass
  split
  · exact ⟨_, (decayRescore_of_begun begun).1.trans (congrArg Paging.Swept.state (pages_eq_decayPages ready (Nat.lt_succ_self _)))⟩
  · rename_i pages _
    rw [begun]
    exact ⟨pages, rfl⟩

theorem merchantPass_apart (scores : ScoresOwned db) :
    ScoresOwned (merchantPass choice merchantId db).2 ∧ ∀ other, other ≠ merchantId →
      portion other (merchantPass choice merchantId db).2 = portion other db := by
  cases begun : begin "decayRescore" merchantId choice.now db with
  | error error =>
    rw [merchantPass_begun_error begun]
    exact ⟨scores, fun _ _ => rfl⟩
  | ok read =>
    obtain ⟨merchant, snapshot⟩ := read
    obtain ⟨fuel, left⟩ := merchantPass_db scores begun
    obtain ⟨rfl, ready, _⟩ := ready_of_begun scores begun
    obtain ⟨after, same⟩ := @decayPages_apart merchant snapshot fuel db ready
    rw [left]
    exact ⟨after.scores, same⟩

theorem merchantPass_own (here : ScoresOwned first) (there : ScoresOwned second)
    (same : portion merchantId first = portion merchantId second) :
    (merchantPass choice merchantId first).1 = (merchantPass choice merchantId second).1 ∧
      portion merchantId (merchantPass choice merchantId first).2 = portion merchantId (merchantPass choice merchantId second).2 := by
  cases begun : begin "decayRescore" merchantId choice.now first with
  | error error =>
    rw [merchantPass_begun_error begun, merchantPass_begun_error (begin_own "decayRescore" same ▸ begun)]
    exact ⟨rfl, same⟩
  | ok read =>
    obtain ⟨merchant, snapshot⟩ := read
    have also : begin "decayRescore" merchantId choice.now second = .ok (merchant, snapshot) := begin_own "decayRescore" same ▸ begun
    obtain ⟨rfl, ready, _⟩ := ready_of_begun here begun
    obtain ⟨_, ready', _⟩ := ready_of_begun there also
    unfold merchantPass
    split
    · let fuel := first.customers.rows.length + second.customers.rows.length + 1
      obtain ⟨state, visited, batches, ending⟩ := @decayPages_own merchant snapshot fuel first second ready ready' same
      obtain ⟨left, answer⟩ := @decayRescore_of_begun merchant snapshot merchant.id first decaySweepActorId decayRescoreBatchSize _ begun
      obtain ⟨left', answer'⟩ := @decayRescore_of_begun merchant snapshot merchant.id second decaySweepActorId decayRescoreBatchSize _ also
      rw [pages_eq_decayPages ready (show first.customers.rows.length < fuel by omega)] at left answer
      rw [pages_eq_decayPages ready' (show second.customers.rows.length < fuel by omega)] at left' answer'
      dsimp only
      refine ⟨?_, by rw [left, left', state]⟩
      rw [answer, answer', visited, batches]
      simp only [ending]
    · rename_i pages _
      rw [begun, also]
      exact ⟨rfl, (@decayPages_own merchant snapshot pages first second ready ready' same).1⟩

/-- The passes of a tick do not see each other. -/
theorem merchantPass_isolated (choices : MerchantId → PassChoice) :
    Isolated ScoresOwned portion fun merchantId => merchantPass (choices merchantId) merchantId where
  keeps _ _ scores := (merchantPass_apart scores).1
  apart _ other _ scores := (merchantPass_apart scores).2 other
  own _ _ _ here there same := merchantPass_own here there same

theorem sweptMerchants_nodup (db : Db) : (sweptMerchants db).Nodup := by
  have distinct : (db.merchants.rows.map (·.id)).Nodup := by
    rw [List.nodup_iff_pairwise_ne, List.pairwise_map]
    refine db.merchants.unique.imp fun free same => ?_
    simp [Indexed.clash, Indexed.index, same] at free
  exact distinct.sublist (List.filter_sublist.map _)

/-- A tick over the merchants in any order, with passes that throw and passes that are cut short: every merchant is left
as its own pass alone leaves it, and is reported so; a merchant that is not swept is left alone. -/
theorem decay_sweep_isolated (choices : MerchantId → PassChoice) (db : Db) (scores : ScoresOwned db) {rows : List MerchantId}
    (listed : rows.Perm (sweptMerchants db)) :
    (runDecaySweep choices rows db).1 = .of (rows.map fun merchantId => (merchantPass (choices merchantId) merchantId db).1) ∧
    ∀ merchantId, portion merchantId (runDecaySweep choices rows db).2 =
      if merchantId ∈ sweptMerchants db then portion merchantId (merchantPass (choices merchantId) merchantId db).2
      else portion merchantId db := by
  have isolated := merchantPass_isolated choices
  have distinct := listed.nodup_iff.mpr (sweptMerchants_nodup db)
  refine ⟨congrArg DecaySweepReport.of (isolated.answers_passAll distinct scores), fun merchantId => ?_⟩
  split
  · rename_i member
    exact isolated.view_of_mem distinct scores (listed.mem_iff.mpr member)
  · rename_i absent
    exact isolated.view_of_not_mem scores fun member => absent (listed.mem_iff.mp member)

/-- Two initialized merchants with a customer each, and one that is gone. -/
def twoTenants : Db where
  merchants := ⟨[{ id := "m", shop := "m.myshopify.com", scoringInitializedAt := some 0 },
    { id := "n", shop := "n.myshopify.com", scoringInitializedAt := some 0 },
    { id := "o", shop := "o.myshopify.com", scoringInitializedAt := some 0, uninstalledAt := some 1 }], by decide⟩
  customers := ⟨[{ id := "a", merchantId := "m", shopifyCustomerId := "gid://shopify/Customer/1" },
    { id := "b", merchantId := "n", shopifyCustomerId := "gid://shopify/Customer/2" }], by decide⟩

/-- The database goes away before the first page of `n`. -/
def outageForN (merchantId : MerchantId) : PassChoice := { stops := if merchantId = "n" then some 0 else none }

theorem decay_sweep_isolated_outage :
    let swept := runDecaySweep outageForN ["n", "m"] twoTenants
    stateOf "a" swept.2 = some .insufficientData ∧ stateOf "b" swept.2 = some .active ∧
      swept.1 = .of (["n", "m"].map fun merchantId => (merchantPass (outageForN merchantId) merchantId twoTenants).1) ∧
      ∀ merchantId, portion merchantId swept.2 =
        if merchantId ∈ sweptMerchants twoTenants then
          portion merchantId (merchantPass (outageForN merchantId) merchantId twoTenants).2
        else portion merchantId twoTenants := by
  have scores : ScoresOwned twoTenants := fun score member => (nomatch member)
  exact ⟨by decide, by decide, decay_sweep_isolated outageForN twoTenants scores (by decide)⟩

end Passes

end WinBack.Scoring
