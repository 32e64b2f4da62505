import WinBack.Scoring.Agreement

/-! What soft-deleted customers can do to the scores of the others. The cohort is read
with raw SQL over the orders, so a deleted customer still counts in it: for its
size, and among the rows that lie below another. -/

namespace WinBack.Scoring

open Library CustomerScoreRepository

variable {merchant : Merchant} {merchantId : MerchantId} {actorId : String} {now : Date} {batchSize : Nat}
  {customer : Customer} {db first second : Db}

/-- The order belongs to a customer that is soft-deleted here. -/
def OfDeleted (db : Db) (customerId : Option CustomerId) : Prop :=
  ∃ customer ∈ db.customers.rows, customer.deletedAt ≠ none ∧ customerId = some customer.id

/-- The stores differ only in soft-deleted customers, their orders and their scores. -/
structure SameButDeleted (first second : Db) : Prop where
  merchants : first.merchants = second.merchants
  customers : ∀ row, row.deletedAt = none → (row ∈ first.customers.rows ↔ row ∈ second.customers.rows)
  orders : ∀ order, (order ∈ first.orders.rows ∧ ¬OfDeleted first order.customerId) ↔
    (order ∈ second.orders.rows ∧ ¬OfDeleted second order.customerId)
  scores : ∀ score, (score ∈ first.customerScores.rows ∧ ¬OfDeleted first (some score.customerId)) ↔
    (score ∈ second.customerScores.rows ∧ ¬OfDeleted second (some score.customerId))

instance (db : Db) (customerId : Option CustomerId) : Decidable (OfDeleted db customerId) :=
  inferInstanceAs (Decidable (∃ customer ∈ db.customers.rows, _))

/-- Comparing the rows that are not of deleted customers. -/
theorem sameButDeleted_of_filters (merchants : first.merchants = second.merchants)
    (customers : first.customers.rows.filter (fun row => decide (row.deletedAt = none)) =
      second.customers.rows.filter fun row => decide (row.deletedAt = none))
    (orders : first.orders.rows.filter (fun row => decide ¬OfDeleted first row.customerId) =
      second.orders.rows.filter fun row => decide ¬OfDeleted second row.customerId)
    (scores : first.customerScores.rows.filter (fun row => decide ¬OfDeleted first (some row.customerId)) =
      second.customerScores.rows.filter fun row => decide ¬OfDeleted second (some row.customerId)) :
    SameButDeleted first second where
  merchants := merchants
  customers row live := by
    have both := congrArg (row ∈ ·) customers
    simpa [List.mem_filter, live] using both
  orders order := by
    have both := congrArg (order ∈ ·) orders
    simpa only [List.mem_filter, decide_eq_true_eq, eq_iff_iff] using both
  scores score := by
    have both := congrArg (score ∈ ·) scores
    simpa only [List.mem_filter, decide_eq_true_eq, eq_iff_iff] using both

def rankedValues : List (CustomerScoreCohortRow → Int) :=
  [CustomerScoreCohortRow.rDays, CustomerScoreCohortRow.fCount, CustomerScoreCohortRow.mCents]

/-- How many fifths of the cohort lie entirely below a value. -/
def fifthsBelow (value : CustomerScoreCohortRow → Int) (cohort : List CustomerScoreCohortRow) (own : Int) : Nat :=
  5 * cohortBelow value cohort own / cohort.length

/-- The two cohorts rank the live customers alike. -/
def SameRanks (merchantId : MerchantId) (now : Date) (first second : Db) : Prop :=
  let one := readCohort merchantId now first
  let other := readCohort merchantId now second
  liveCustomers merchantId first = [] ∨
    ((one.length < insufficientCohortThreshold ↔ other.length < insufficientCohortThreshold) ∧
      (one.length < insufficientCohortThreshold ∨
        ∀ customer ∈ liveCustomers merchantId first, ∀ row, one.find? (·.customerId == customer.id) = some row →
          ∀ value ∈ rankedValues, fifthsBelow value one (value row) = fifthsBelow value other (value row)))

section Aggregates

theorem aggregate_perm {customerId : CustomerId} {some other : List Order} (same : some.Perm other) :
    aggregate now customerId some = aggregate now customerId other := by
  have latest : (some.map paidAt).max? = (other.map paidAt).max? := by
    apply Option.ext
    intro date
    rw [List.max?_eq_some_iff, List.max?_eq_some_iff]
    simp only [(same.map paidAt).mem_iff]
  unfold aggregate
  rw [latest, same.length_eq, (same.map _).sum_eq]

theorem nodup_orders (db : Db) : db.orders.rows.Nodup := by
  refine db.orders.unique.imp fun free same => ?_
  simp [Indexed.clash, Indexed.index, same] at free

theorem not_ofDeleted (stored : customer ∈ db.customers.rows) (live : customer.deletedAt = none) :
    ¬OfDeleted db (some customer.id) := by
  rintro ⟨other, present, gone, same⟩
  rw [customer_unique present stored (Option.some.inj same).symm] at gone
  exact gone live

/-- A live customer has the same orders in both stores. -/
theorem ordersOf_perm (same : SameButDeleted first second) (stored : customer ∈ first.customers.rows)
    (live : customer.deletedAt = none) :
    (ordersOf merchantId now customer.id first).Perm (ordersOf merchantId now customer.id second) := by
  refine (List.perm_ext_iff_of_nodup ((nodup_orders first).filter _) ((nodup_orders second).filter _)).mpr fun order => ?_
  simp only [List.mem_filter, Bool.and_eq_true, beq_iff_eq]
  refine and_congr_left fun matched => ?_
  have there := (same.customers customer live).mp stored
  have orders := same.orders order
  rw [matched.2] at orders
  simpa [not_ofDeleted stored live, not_ofDeleted there live] using orders

theorem cohortRow_eq (same : SameButDeleted first second) (stored : customer ∈ first.customers.rows)
    (live : customer.deletedAt = none) :
    (readCohort merchantId now first).find? (·.customerId == customer.id) =
      (readCohort merchantId now second).find? (·.customerId == customer.id) := by
  have orders := @ordersOf_perm merchantId now customer first second same stored live
  have empty : ordersOf merchantId now customer.id first = [] ↔ ordersOf merchantId now customer.id second = [] := by
    rw [← List.length_eq_zero_iff, ← List.length_eq_zero_iff, orders.length_eq]
  rw [find?_readCohort, find?_readCohort, aggregate_perm orders]
  simp only [empty]

end Aggregates

section Resolution

theorem stateFromRecency_ne (rDays : Int) : stateFromRecency rDays ≠ .insufficientData := by
  unfold stateFromRecency
  repeat' split
  all_goals decide

/-- In a sufficient cohort the ranks are the fifths that lie below. -/
theorem scoreFor_sufficient {row : CustomerScoreCohortRow}
    (enough : ¬(readCohort merchantId now db).length < insufficientCohortThreshold)
    (found : (readCohort merchantId now db).find? (·.customerId == customer.id) = some row) :
    let rank (value : CustomerScoreCohortRow → Int) : Int :=
      1 + fifthsBelow value (readCohort merchantId now db) (value row)
    scoreFor merchantId now db customer = {
      rDays := row.rDays
      fCount := row.fCount
      mCents := row.mCents
      rQuintile := some (invert (rank CustomerScoreCohortRow.rDays))
      fQuintile := some (rank CustomerScoreCohortRow.fCount)
      mQuintile := some (rank CustomerScoreCohortRow.mCents)
      churnRiskScore := some (computeChurnRiskScore (invert (rank CustomerScoreCohortRow.rDays))
        (rank CustomerScoreCohortRow.fCount) (rank CustomerScoreCohortRow.mCents))
      newState := stateFromRecency row.rDays } := by
  have member := List.mem_of_find?_eq_some found
  have ranks (value : CustomerScoreCohortRow → Int) (nonempty) :=
    @rank_eq (readCohort merchantId now db) value nonempty (value row) (List.mem_map_of_mem member)
  simp only [scoreFor, CohortSnapshot.resolve, CohortSnapshot.cohortRow?, CohortSnapshot.of, found, boundariesOf,
    computeQuintileBoundaries, enough, decide_false, Bool.false_eq_true, if_false, dif_neg, not_false_eq_true,
    Except.map, Except.toOption, Option.join_some, CohortSnapshot.isInsufficientCohort,
    resolveScorableCustomerWithBoundaries, assignRQuintile, assignFQuintile, assignMQuintile, ranks, fifthsBelow]

/-- In an insufficient cohort nothing but the own orders matters. -/
theorem scoreFor_insufficient (short : (readCohort merchantId now db).length < insufficientCohortThreshold) :
    scoreFor merchantId now db customer =
      match (readCohort merchantId now db).find? (·.customerId == customer.id) with
      | some row => resolveScorableCustomerWithBoundaries row none true
      | none => resolveLurker (customer.shopifyCreatedAt.getD customer.createdAt) now true := by
  have boundaries : (CohortSnapshot.of merchantId now db).boundaries = none := by
    simp [CohortSnapshot.of, boundariesOf, short, Except.toOption]
  have insufficient : (CohortSnapshot.of merchantId now db).isInsufficientCohort = true := decide_eq_true short
  unfold scoreFor CohortSnapshot.resolve
  rw [boundaries, insufficient]
  rfl

theorem scoreFor_lurker (enough : ¬(readCohort merchantId now db).length < insufficientCohortThreshold)
    (missing : (readCohort merchantId now db).find? (·.customerId == customer.id) = none) :
    scoreFor merchantId now db customer =
      resolveLurker (customer.shopifyCreatedAt.getD customer.createdAt) now false := by
  simp only [scoreFor, CohortSnapshot.resolve, CohortSnapshot.cohortRow?, CohortSnapshot.of, missing, enough,
    decide_false, CohortSnapshot.isInsufficientCohort]

/-- The band tells whether the cohort was insufficient. -/
theorem insufficientData_iff : (scoreFor merchantId now db customer).newState = .insufficientData ↔
    (readCohort merchantId now db).length < insufficientCohortThreshold := by
  by_cases short : (readCohort merchantId now db).length < insufficientCohortThreshold
  · rw [scoreFor_insufficient short]
    refine iff_of_true ?_ short
    split <;> rfl
  · refine iff_of_false ?_ short
    cases found : (readCohort merchantId now db).find? (·.customerId == customer.id) with
    | none =>
      rw [scoreFor_lurker short found]
      exact stateFromRecency_ne _
    | some row =>
      rw [scoreFor_sufficient short found]
      exact stateFromRecency_ne _

end Resolution

section TwoStores

variable (same : SameButDeleted first second) (stored : customer ∈ first.customers.rows)
  (live : customer.deletedAt = none)
include same stored live

/-- The two cohorts make the same of a live customer when they are both insufficient,
or rank its aggregates alike. -/
theorem scoreFor_eq_iff : scoreFor merchantId now first customer = scoreFor merchantId now second customer ↔
    ((readCohort merchantId now first).length < insufficientCohortThreshold ↔
      (readCohort merchantId now second).length < insufficientCohortThreshold) ∧
    ((readCohort merchantId now first).length < insufficientCohortThreshold ∨
      ∀ row, (readCohort merchantId now first).find? (·.customerId == customer.id) = some row →
        ∀ value ∈ rankedValues, fifthsBelow value (readCohort merchantId now first) (value row) =
          fifthsBelow value (readCohort merchantId now second) (value row)) := by
  have rows := @cohortRow_eq merchantId now customer first second same stored live
  constructor
  · intro equal
    have flags : (readCohort merchantId now first).length < insufficientCohortThreshold ↔
        (readCohort merchantId now second).length < insufficientCohortThreshold := by
      rw [← @insufficientData_iff merchantId now customer first, equal, insufficientData_iff]
    refine ⟨flags, or_iff_not_imp_left.mpr fun enough row found value ranked => ?_⟩
    rw [scoreFor_sufficient enough found, scoreFor_sufficient (mt flags.mpr enough) (rows ▸ found)] at equal
    simp only [ResolvedCustomerScore.mk.injEq, Option.some.injEq, invert] at equal
    simp only [rankedValues, List.mem_cons, List.not_mem_nil, or_false] at ranked
    rcases ranked with rfl | rfl | rfl <;> omega
  · rintro ⟨flags, short | ranks⟩
    · rw [scoreFor_insufficient short, scoreFor_insufficient (flags.mp short), rows]
    · by_cases short : (readCohort merchantId now first).length < insufficientCohortThreshold
      · rw [scoreFor_insufficient short, scoreFor_insufficient (flags.mp short), rows]
      · cases found : (readCohort merchantId now first).find? (·.customerId == customer.id) with
        | none => rw [scoreFor_lurker short found, scoreFor_lurker (mt flags.mpr short) (rows ▸ found)]
        | some row =>
          have equal (value) (ranked : value ∈ rankedValues) := ranks row found value ranked
          simp only [rankedValues, List.forall_mem_cons, List.not_mem_nil, false_imp_iff, forall_const] at equal
          rw [scoreFor_sufficient short found, scoreFor_sufficient (mt flags.mpr short) (rows ▸ found)]
          simp only [equal.1, equal.2.1, equal.2.2.1]

/-- What both stores held of a live customer is the same. -/
theorem scoreOf_eq : scoreOf customer.id first = scoreOf customer.id second := by
  have there := (same.customers customer live).mp stored
  apply Option.ext
  intro score
  have pins : ∀ one other : CustomerScore, (one.customerId == customer.id) = true → (other.customerId == customer.id) = true →
      Indexed.clash (Indexed.index one) (Indexed.index other) = true := by
    simp +contextual [Indexed.clash, Indexed.index]
  rw [scoreOf, scoreOf, Table.find?_eq_some_iff pins, Table.find?_eq_some_iff pins]
  refine and_congr_left fun about => ?_
  have scores := same.scores score
  rw [beq_iff_eq.mp about] at scores
  simpa [not_ofDeleted stored live, not_ofDeleted there live] using scores

/-- Scoring the same customers alike leaves the same of a live customer. -/
theorem sameScore_of_pages {one other : CohortSnapshot} {ids : List CustomerId} {next later : Db}
    (early : ScoredPage merchant one ids first next) (late : ScoredPage merchant other ids second later)
    (alike : one.resolve customer = other.resolve customer) (instant : one.now = other.now) :
    SameScore customer.id next later := by
  have there := (same.customers customer live).mp stored
  refine ⟨?_, ?_⟩
  · by_cases listed : customer.id ∈ ids
    · rw [early.scored customer stored listed, late.scored customer there listed, alike, instant]
    · rw [early.others _ listed, late.others _ listed, scoreOf_eq same stored live]
  · rw [early.state stored, late.state there, alike]

end TwoStores

section Influence

theorem selected_eq (same : SameButDeleted first second) (states : Option (List CustomerState)) :
    selected merchantId states first = selected merchantId states second := by
  have irrefl : Std.Irrefl fun first second : Customer => first.id < second.id := ⟨fun _ => lt_irrefl _⟩
  have antisymm : Std.Antisymm fun first second : Customer => first.id < second.id :=
    ⟨fun _ _ before after => absurd before after.asymm⟩
  refine (selected_sorted merchantId states first).eq_of_mem_iff (selected_sorted merchantId states second) fun row => ?_
  rw [mem_selected, mem_selected]
  constructor
  · rintro ⟨present, owner, live, band⟩
    exact ⟨(same.customers row live).mp present, owner, live, band⟩
  · rintro ⟨present, owner, live, band⟩
    exact ⟨(same.customers row live).mpr present, owner, live, band⟩

/-- A score row and a band tell all of a resolved score. -/
theorem writtenScore_inj {customerId : CustomerId} {one other : ResolvedCustomerScore}
    (rows : writtenScore merchant customerId one now = writtenScore merchant customerId other now)
    (bands : one.newState = other.newState) : one = other := by
  cases one
  cases other
  simp_all [writtenScore]

/-- Cohorts rank the live customers alike when they make the same of each. -/
theorem alike_iff_sameRanks (same : SameButDeleted first second) :
    (∀ customer ∈ liveCustomers merchantId first,
      scoreFor merchantId now first customer = scoreFor merchantId now second customer) ↔
      SameRanks merchantId now first second := by
  have each (customer : Customer) (listed : customer ∈ liveCustomers merchantId first) :=
    have found := mem_selected.mp listed
    @scoreFor_eq_iff merchantId now customer first second same found.1 found.2.2.1
  unfold SameRanks
  dsimp only
  constructor
  · intro alike
    rcases List.eq_nil_or_concat (liveCustomers merchantId first) with none | ⟨_, customer, some⟩
    · exact .inl none
    · have listed : customer ∈ liveCustomers merchantId first := by simp [some]
      refine .inr ⟨((each customer listed).mp (alike customer listed)).1, or_iff_not_imp_left.mpr fun enough => ?_⟩
      intro other listed'
      exact ((each other listed').mp (alike other listed')).2.resolve_left enough
  · rintro (none | ⟨flags, ranks⟩) customer listed
    · rw [none] at listed
      cases listed
    · exact (each customer listed).mpr ⟨flags, ranks.imp_right fun all => all customer listed⟩

variable (same : SameButDeleted first second) (stored : merchant ∈ first.merchants.rows)
  (here : ScoresOwned first) (there : ScoresOwned second)
include same stored here there

/-- The first pass leaves the same exactly where the cohorts make the same of a customer. -/
theorem bulk_same_iff (positive : 0 < batchSize) (listed : customer ∈ liveCustomers merchant.id first) :
    SameScore customer.id (bulkRescore merchant.id actorId now batchSize first).db
        (bulkRescore merchant.id actorId now batchSize second).db ↔
      scoreFor merchant.id now first customer = scoreFor merchant.id now second customer := by
  obtain ⟨present, _, live, _⟩ := mem_selected.mp listed
  have present' := (same.customers customer live).mp present
  obtain ⟨one, early, customers, scores⟩ := bulkRescore_scored actorId now stored here positive
  obtain ⟨other, late, customers', scores'⟩ := bulkRescore_scored actorId now (same.merchants ▸ stored) there positive
  have inside : customer.id ∈ (liveCustomers merchant.id first).map (·.id) := List.mem_map_of_mem listed
  have inside' : customer.id ∈ (liveCustomers merchant.id second).map (·.id) := by
    rwa [liveCustomers, ← selected_eq same]
  unfold SameScore scoreOf stateOf
  rw [customers, customers', scores, scores']
  change scoreOf _ one = scoreOf _ other ∧ stateOf _ one = stateOf _ other ↔ _
  rw [early.scored customer present inside, late.scored customer present' inside', early.state present,
    late.state present', if_pos inside, if_pos inside', Option.some.injEq, Option.some.injEq]
  constructor
  · rintro ⟨rows, bands⟩
    exact writtenScore_inj rows bands
  · intro alike
    have resolved : (CohortSnapshot.of merchant.id now first).resolve customer =
        (CohortSnapshot.of merchant.id now second).resolve customer := alike
    exact ⟨by rw [resolved]; rfl, by rw [resolved]⟩

theorem recomputed_same (listed : customer ∈ liveCustomers merchant.id first)
    (alike : scoreFor merchant.id now first customer = scoreFor merchant.id now second customer) :
    SameScore customer.id (recomputed merchant.id now first customer) (recomputed merchant.id now second customer) := by
  obtain ⟨present, owner, live, _⟩ := mem_selected.mp listed
  have present' := (same.customers customer live).mp present
  have pageable {db : Db} (stored : merchant ∈ db.merchants.rows) (scores : ScoresOwned db)
      (present : customer ∈ db.customers.rows) : Pageable merchant [customer] db := {
    known := (ready_of_stored stored scores).known
    stored := by simpa using ⟨present, owner⟩
    distinct := by simp
    scores := scores }
  have early := recomputeAll_scored now stored (pageable stored here present) (by simpa using live)
  have late := recomputeAll_scored now (same.merchants ▸ stored) (pageable (same.merchants ▸ stored) there present')
    (by simpa using live)
  have fine : accepted merchant now second customer = accepted merchant now first customer := by
    unfold accepted
    rw [alike]
  have ids : ([customer].filter (accepted merchant now second)).map (·.id) =
      ([customer].filter (accepted merchant now first)).map (·.id) := by
    simp [List.filter_cons, fine]
  rw [ids] at late
  exact sameScore_of_pages same present live early late alike rfl

theorem decay_same (listed : customer ∈ liveCustomers merchant.id first)
    (alike : ∀ row ∈ liveCustomers merchant.id first,
      scoreFor merchant.id now first row = scoreFor merchant.id now second row) :
    SameScore customer.id (decayRescore merchant.id actorId now batchSize first).db
      (decayRescore merchant.id actorId now batchSize second).db := by
  obtain ⟨present, _, live, _⟩ := mem_selected.mp listed
  have early := decayRescore_scored actorId now batchSize stored here
  have late := decayRescore_scored actorId now batchSize (same.merchants ▸ stored) there
  have everywhere (row : Customer) (member : row ∈ selected merchant.id (some decayWorkingSetStates) first) :
      (CohortSnapshot.of merchant.id now first).resolve row = (CohortSnapshot.of merchant.id now second).resolve row :=
    have found := mem_selected.mp member
    alike row (mem_selected.mpr ⟨found.1, found.2.1, found.2.2.1, rfl⟩)
  have evaluated : (decayRescore merchant.id actorId now batchSize second).evaluated =
      (decayRescore merchant.id actorId now batchSize first).evaluated := by
    rw [decayRescore_evaluated stored, decayRescore_evaluated (same.merchants ▸ stored),
      (pages_visited (ready_of_stored stored here)).1,
      (pages_visited (ready_of_stored (same.merchants ▸ stored) there)).1, ← selected_eq same]
    refine (Paging.visited_congr (fun row member => ?_) fun row member => ?_).symm
    · unfold passes
      rw [everywhere row member]
      rfl
    · unfold stays
      rw [everywhere row member]
  rw [evaluated] at late
  exact sameScore_of_pages same present live early late (alike customer listed) rfl

/-- Soft-deleted customers leave every live customer's score and state alone exactly
when the cohorts with and without them rank the live customers alike. -/
theorem deleted_do_not_influence_iff (positive : 0 < batchSize) :
    (∀ customer ∈ liveCustomers merchant.id first,
      SameScore customer.id (recomputed merchant.id now first customer) (recomputed merchant.id now second customer) ∧
      SameScore customer.id (bulkRescore merchant.id actorId now batchSize first).db
        (bulkRescore merchant.id actorId now batchSize second).db ∧
      SameScore customer.id (decayRescore merchant.id actorId now batchSize first).db
        (decayRescore merchant.id actorId now batchSize second).db) ↔
      SameRanks merchant.id now first second := by
  rw [← alike_iff_sameRanks same]
  constructor
  · intro unchanged customer listed
    exact (bulk_same_iff same stored here there positive listed).mp (unchanged customer listed).2.1
  · intro alike customer listed
    exact ⟨recomputed_same same stored here there listed (alike customer listed),
      (bulk_same_iff same stored here there positive listed).mpr (alike customer listed),
      decay_same same stored here there listed alike⟩

end Influence

section FiveCustomers

/-- Four live customers and a soft-deleted one; some of them bought once. -/
def fiveCustomers (paid : Table Order) : Db where
  merchants := .single { id := "m", shop := "m.myshopify.com" }
  customers := ⟨[buyer "a" "1", buyer "b" "2", buyer "c" "3", buyer "d" "4",
    { buyer "e" "5" with deletedAt := some 0 }], by decide⟩
  orders := paid

def ordersOfLive : Table Order :=
  ⟨["a", "b", "c", "d"].map (purchase · 100), by decide⟩

theorem scoresOwned_fiveCustomers (paid : Table Order) : ScoresOwned (fiveCustomers paid) := by
  intro score member
  cases member

/-- The order of the deleted customer makes the cohort of four sufficient. -/
theorem deleted_customer_completes_cohort :
    ¬∀ (merchant : Merchant) (now : Date) (first second : Db), SameButDeleted first second →
      merchant ∈ first.merchants.rows → ScoresOwned first → ScoresOwned second →
      ∀ customer ∈ liveCustomers merchant.id first, SameScore customer.id
        (recomputed merchant.id now first customer) (recomputed merchant.id now second customer) := by
  intro claim
  have same : SameButDeleted (fiveCustomers ordersOfLive) (fiveCustomers fivePurchases) :=
    sameButDeleted_of_filters rfl rfl (by decide) rfl
  have equal := claim { id := "m", shop := "m.myshopify.com" } 0 _ _ same (by decide)
    (scoresOwned_fiveCustomers _) (scoresOwned_fiveCustomers _)
  exact absurd equal (by decide +kernel)

end FiveCustomers

section SixCustomers

/-- Five live customers and a soft-deleted one. -/
def sixCustomers (paid : Table Order) : Db where
  merchants := .single { id := "m", shop := "m.myshopify.com" }
  customers := ⟨[buyer "a" "1", buyer "b" "2", buyer "c" "3", buyer "d" "4", buyer "e" "5",
    { buyer "f" "6" with deletedAt := some 0 }], by decide⟩
  orders := paid

/-- The deleted customer has spent the least. -/
def amountsOfAll : Table Order :=
  ⟨[purchase "a" 500, purchase "b" 400, purchase "c" 300, purchase "d" 200, purchase "e" 100, purchase "f" 50], by decide⟩

theorem scoresOwned_sixCustomers (paid : Table Order) : ScoresOwned (sixCustomers paid) := by
  intro score member
  cases member

/-- Two sufficient cohorts: below every live customer, the deleted one moves none of them to another fifth. -/
theorem deleted_order_ignored :
    (CustomerScoreRepository.readCohort "m" 0 (sixCustomers fiveBought.orders)).length = 5 ∧
    (CustomerScoreRepository.readCohort "m" 0 (sixCustomers amountsOfAll)).length = 6 ∧
    ∀ customer ∈ liveCustomers "m" (sixCustomers fiveBought.orders),
    SameScore customer.id (recomputed "m" 0 (sixCustomers fiveBought.orders) customer)
        (recomputed "m" 0 (sixCustomers amountsOfAll) customer) ∧
      SameScore customer.id (bulkRescore "m" "operator" 0 2 (sixCustomers fiveBought.orders)).db
        (bulkRescore "m" "operator" 0 2 (sixCustomers amountsOfAll)).db ∧
      SameScore customer.id (decayRescore "m" "operator" 0 2 (sixCustomers fiveBought.orders)).db
        (decayRescore "m" "operator" 0 2 (sixCustomers amountsOfAll)).db := by
  have same : SameButDeleted (sixCustomers fiveBought.orders) (sixCustomers amountsOfAll) :=
    sameButDeleted_of_filters rfl rfl (by decide) rfl
  have stored : ({ id := "m", shop := "m.myshopify.com" } : Merchant) ∈ (sixCustomers fiveBought.orders).merchants.rows := by
    decide
  have ranks : SameRanks "m" 0 (sixCustomers fiveBought.orders) (sixCustomers amountsOfAll) :=
    .inr ⟨by decide, .inr (by decide)⟩
  exact ⟨by decide, by decide, (deleted_do_not_influence_iff same stored (scoresOwned_sixCustomers _)
    (scoresOwned_sixCustomers _) (by decide)).mpr ranks⟩

end SixCustomers

end WinBack.Scoring
