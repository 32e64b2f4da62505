import WinBack.Scoring.Sweep

/-! The sweeps against the inline recompute. Both resolve a customer by the same cohort,
which scoring leaves alone, so they differ only where a recompute throws. -/

namespace WinBack.Scoring

open Library CustomerScoreService

variable {merchant : Merchant} {actorId : String} {now : Date} {batchSize : Nat} {customer : Customer}
  {order : List Customer} {db next : Db}

/-- The live customers of a merchant, by id. -/
def liveCustomers (merchantId : MerchantId) (db : Db) : List Customer := selected merchantId none db

/-- One recompute in a transaction of its own; one that throws leaves the store as it was. -/
def recomputed (merchantId : MerchantId) (now : Date) (db : Db) (customer : Customer) : Db :=
  match recompute merchantId customer.id now db with
  | .ok next => next
  | .error _ => db

def recomputeAll (merchantId : MerchantId) (now : Date) (order : List Customer) (db : Db) : Db :=
  order.foldl (recomputed merchantId now) db

/-- The two stores hold the same score and the same state of a customer. -/
def SameScore (customerId : CustomerId) (first second : Db) : Prop :=
  scoreOf customerId first = scoreOf customerId second ∧ stateOf customerId first = stateOf customerId second

instance (customerId : CustomerId) (first second : Db) : Decidable (SameScore customerId first second) :=
  inferInstanceAs (Decidable (_ ∧ _))

/-- A recompute of the customer does not throw. -/
def accepted (merchant : Merchant) (now : Date) (db : Db) (customer : Customer) : Bool :=
  announceable merchant customer (scoreFor merchant.id now db customer) now

section Recompute

theorem accepted_congr (orders : next.orders = db.orders) : accepted merchant now next = accepted merchant now db := by
  unfold accepted scoreFor
  rw [snapshot_congr orders]

/-- A recompute of a live customer scores it, or throws where its transition cannot be announced. -/
theorem recompute_eq (stored : merchant ∈ db.merchants.rows) (present : customer ∈ db.customers.rows)
    (live : customer.deletedAt = none) :
    recompute merchant.id customer.id now db =
      applyScore merchant customer ((CohortSnapshot.of merchant.id now db).scored customer (cuid db))
        (some { actorId := "drainer" }) now db := by
  have found : db.customers.find? (fun row => row.id == customer.id && row.deletedAt == none) = some customer :=
    (Table.find?_eq_some_iff (by simp +contextual [Indexed.clash, Indexed.index])).mpr ⟨present, by simp [live]⟩
  have owner : db.merchants.find? (·.id == merchant.id) = some merchant :=
    (Table.find?_eq_some_iff (by simp +contextual [Indexed.clash, Indexed.index])).mpr ⟨stored, beq_self_eq_true _⟩
  simp only [recompute, found, read_eq, bind, Except.bind, CustomerScoreService.recompute, owner]

/-- Which customers a sequence of recomputes scores. -/
theorem recomputeAll_scored (now : Date) (stored : merchant ∈ db.merchants.rows) (pageable : Pageable merchant order db)
    (live : ∀ customer ∈ order, customer.deletedAt = none) :
    ScoredPage merchant (CohortSnapshot.of merchant.id now db)
      ((order.filter (accepted merchant now db)).map (·.id)) db (recomputeAll merchant.id now order db) := by
  induction order generalizing db with
  | nil => exact .refl pageable.scores
  | cons customer rest ih =>
    have free : ∀ row ∈ db.outboxEvents.rows,
        row.id ≠ ((CohortSnapshot.of merchant.id now db).scored customer (cuid db)).eventId := cuid_free db
    have alone : recompute merchant.id customer.id now db = _ :=
      recompute_eq stored (pageable.stored customer List.mem_cons_self).1 (live customer List.mem_cons_self)
    have others : ∀ row ∈ rest, row.deletedAt = none := fun row member => live row (List.mem_cons_of_mem _ member)
    change ScoredPage merchant _ _ db (recomputeAll merchant.id now rest (recomputed merchant.id now db customer))
    by_cases fine : accepted merchant now db customer = true
    · have fit : publishable merchant (some { actorId := "drainer" }) customer
          ((CohortSnapshot.of merchant.id now db).scored customer (cuid db)).score now = true := fine
      obtain ⟨middle, applied, once⟩ := applyScore_ok pageable.head free fit
      have moved : recomputed merchant.id now db customer = middle := by
        unfold recomputed
        rw [alone, applied]
      have later := ih (once.merchants ▸ stored) (pageable.tail once) others
      rw [snapshot_congr once.orders, accepted_congr once.orders] at later
      rw [moved, List.filter_cons_of_pos fine]
      exact (once.page pageable).trans later
    · have unfit : publishable merchant (some { actorId := "drainer" }) customer
          ((CohortSnapshot.of merchant.id now db).scored customer (cuid db)).score now = false :=
        Bool.eq_false_iff.mpr fine
      obtain ⟨error, refused⟩ := applyScore_refused pageable.head unfit
      have unmoved : recomputed merchant.id now db customer = db := by
        unfold recomputed
        rw [alone, refused]
      rw [unmoved, List.filter_cons_of_neg fine]
      exact ih stored pageable.rest others

end Recompute

section Sweeps

/-- The first pass scores every live customer. -/
theorem bulkRescore_scored (actorId : String) (now : Date) (stored : merchant ∈ db.merchants.rows)
    (scores : ScoresOwned db) (positive : 0 < batchSize) :
    ∃ state, ScoredPage merchant (CohortSnapshot.of merchant.id now db) ((liveCustomers merchant.id db).map (·.id))
        db state ∧
      (bulkRescore merchant.id actorId now batchSize db).db.customers = state.customers ∧
      (bulkRescore merchant.id actorId now batchSize db).db.customerScores = state.customerScores := by
  have ready := ready_of_stored stored scores
  obtain ⟨all, done⟩ := @pages_all merchant (CohortSnapshot.of merchant.id now db) db batchSize ready positive
  have scored := @pages_scored merchant (CohortSnapshot.of merchant.id now db) none none db batchSize ready
  rw [all] at scored
  refine ⟨_, scored, ?_, ?_⟩ <;>
    simp only [bulkRescore, begin_eq "bulkRescore" stored, done, initializeScoring]

/-- A decay sweep scores the customers that it evaluates, none of which throws. -/
theorem decayRescore_scored (actorId : String) (now : Date) (batchSize : Nat) (stored : merchant ∈ db.merchants.rows)
    (scores : ScoresOwned db) :
    ScoredPage merchant (CohortSnapshot.of merchant.id now db)
      ((decayRescore merchant.id actorId now batchSize db).evaluated.map (·.id)) db
      (decayRescore merchant.id actorId now batchSize db).db := by
  have scored := @pages_scored merchant (CohortSnapshot.of merchant.id now db) (some ⟨actorId, some "decay_sweep"⟩)
    (some decayWorkingSetStates) db batchSize (ready_of_stored stored scores)
  simp only [decayRescore, begin_eq "decayRescore" stored]
  split <;> exact scored

/-- Two stores that scored a customer by the same cohort hold the same score of it. -/
theorem sameScore_of_scored {first second : List CustomerId} {one other : Db} {snapshot : CohortSnapshot}
    (early : ScoredPage merchant snapshot first db one) (late : ScoredPage merchant snapshot second db other)
    (stored : customer ∈ db.customers.rows) (here : customer.id ∈ first) (there : customer.id ∈ second) :
    SameScore customer.id one other := by
  refine ⟨?_, ?_⟩
  · rw [early.scored customer stored here, late.scored customer stored there]
  · rw [early.state stored, late.state stored, if_pos here, if_pos there]

theorem SameScore.congr {customerId : CustomerId} {first other second : Db} (same : SameScore customerId first second)
    (customers : other.customers = first.customers) (customerScores : other.customerScores = first.customerScores) :
    SameScore customerId other second := by
  unfold SameScore scoreOf stateOf at same ⊢
  rwa [customers, customerScores]

end Sweeps

section Agreement

/-- The recomputes leave the state of a customer whose transition they cannot announce. -/
theorem mem_accepted (stored : customer ∈ db.customers.rows) (listed : ∀ row ∈ order, row ∈ db.customers.rows)
    (member : customer ∈ order) :
    customer.id ∈ (order.filter (accepted merchant now db)).map (·.id) ↔ accepted merchant now db customer = true := by
  rw [List.mem_map]
  constructor
  · rintro ⟨other, kept, same⟩
    obtain ⟨present, fine⟩ := List.mem_filter.mp kept
    rwa [← customer_unique (listed other present) stored same]
  · intro fine
    exact ⟨customer, List.mem_filter.mpr ⟨member, fine⟩, rfl⟩

/-- The sweeps and the recomputes of all live customers, in any order, agree exactly
when no recompute throws. -/
theorem scoring_agrees_iff (stored : merchant ∈ db.merchants.rows) (scores : ScoresOwned db) (positive : 0 < batchSize)
    (sweepSize : Nat) (every : order.Perm (liveCustomers merchant.id db)) :
    ((∀ customer ∈ liveCustomers merchant.id db, SameScore customer.id
        (bulkRescore merchant.id actorId now batchSize db).db (recomputeAll merchant.id now order db)) ∧
      ∀ customer ∈ (decayRescore merchant.id actorId now sweepSize db).evaluated, SameScore customer.id
        (decayRescore merchant.id actorId now sweepSize db).db (recomputeAll merchant.id now order db)) ↔
      ∀ customer ∈ liveCustomers merchant.id db,
        announceable merchant customer (scoreFor merchant.id now db customer) now = true := by
  have ready := ready_of_stored stored scores
  have present (row : Customer) (member : row ∈ liveCustomers merchant.id db) := mem_selected.mp member
  have listed (row : Customer) (member : row ∈ order) : row ∈ db.customers.rows :=
    (present row (every.subset member)).1
  have whole := pageable_of_sublist ready.known ready.scores (List.Sublist.refl (liveCustomers merchant.id db))
  have pageable : Pageable merchant order db := {
    known := whole.known
    stored := fun row member => whole.stored row (every.subset member)
    distinct := (every.map (·.id)).nodup_iff.mpr whole.distinct
    scores := scores }
  have single := recomputeAll_scored now stored pageable fun row member => (present row (every.subset member)).2.2.1
  obtain ⟨state, bulk, customers, customerScores⟩ := bulkRescore_scored actorId now stored scores positive
  have decay := decayRescore_scored actorId now sweepSize stored scores
  have reached (customer : Customer) (member : customer ∈ liveCustomers merchant.id db)
      (fine : accepted merchant now db customer = true) :
      customer.id ∈ (order.filter (accepted merchant now db)).map (·.id) :=
    (mem_accepted (present customer member).1 listed (every.mem_iff.mpr member)).mpr fine
  constructor
  · rintro ⟨agrees, _⟩ customer member
    by_contra unfit
    have found := (present customer member).1
    have unscored : customer.id ∉ (order.filter (accepted merchant now db)).map (·.id) := fun kept =>
      unfit ((mem_accepted found listed (every.mem_iff.mpr member)).mp kept)
    have states := (agrees customer member).2
    have moved := bulk.state found
    rw [stateOf, customers, ← stateOf, moved, single.state found, if_pos (List.mem_map_of_mem member), if_neg unscored]
      at states
    -- a customer that keeps its band needs no announcement
    exact unfit (by simp [announceable, scoreFor, Option.some.inj states])
  · intro fine
    refine ⟨fun customer member => ?_, fun customer evaluated => ?_⟩
    · exact (sameScore_of_scored bulk single (present customer member).1 (List.mem_map_of_mem member)
        (reached customer member (fine customer member))).congr customers customerScores
    · obtain ⟨selected, announced⟩ := announceable_of_evaluated stored scores evaluated
      have found := mem_selected.mp selected
      have member : customer ∈ liveCustomers merchant.id db :=
        mem_selected.mpr ⟨found.1, found.2.1, found.2.2.1, rfl⟩
      exact sameScore_of_scored decay single found.1 (List.mem_map_of_mem evaluated) (reached customer member announced)

end Agreement

section OneCustomer

/-- A merchant past its first pass, with one active customer whose only order was
processed one millisecond after the sweep's `now`. -/
def orderAhead : Db where
  merchants := .single { id := "m", shop := "m.myshopify.com", scoringInitializedAt := some 0 }
  customers := .single { id := "a", merchantId := "m", shopifyCustomerId := "gid://shopify/Customer/1" }
  orders := .single {
    id := "o"
    merchantId := "m"
    customerId := some "a"
    shopifyOrderId := "gid://shopify/Order/1"
    totalAmountCents := 500
    financialStatus := some .paid
    placedAt := 1 }

theorem scoresOwned_orderAhead : ScoresOwned orderAhead := by
  intro score member
  cases member

/-- One millisecond before it, the customer bought minus one days ago: the first pass
writes the score, the recompute throws. -/
theorem recompute_throws_where_bulk_writes :
    ¬∀ (merchant : Merchant) (actorId : String) (now : Date) (batchSize : Nat) (db : Db) (order : List Customer),
      merchant ∈ db.merchants.rows → ScoresOwned db → 0 < batchSize → order.Perm (liveCustomers merchant.id db) →
      ∀ customer ∈ liveCustomers merchant.id db, SameScore customer.id
        (bulkRescore merchant.id actorId now batchSize db).db (recomputeAll merchant.id now order db) := by
  intro claim
  have same := claim { id := "m", shop := "m.myshopify.com", scoringInitializedAt := some 0 } "operator" 0 1 orderAhead
    (liveCustomers "m" orderAhead) (by decide) scoresOwned_orderAhead (by decide) (.refl _)
  exact absurd same (by decide)

end OneCustomer

section SixCustomers

/-- A merchant past its first pass, with five customers who spent different amounts and one who bought nothing. -/
def fiveBought : Db where
  merchants := .single { id := "m", shop := "m.myshopify.com", scoringInitializedAt := some 0 }
  customers := ⟨[buyer "a" "1", buyer "b" "2", buyer "c" "3", buyer "d" "4", buyer "e" "5", buyer "f" "6"], by decide⟩
  orders := ⟨[purchase "a" 500, purchase "b" 400, purchase "c" 300, purchase "d" 200, purchase "e" 100], by decide⟩

/-- From the orders on, the cohort is sufficient and all three agree, whatever the sizes of the batches and the order of the
recomputes. -/
theorem scoring_agrees_after_order :
    insufficientCohortThreshold ≤ (CustomerScoreRepository.readCohort "m" 1 fiveBought).length ∧
      (∀ customer ∈ liveCustomers "m" fiveBought, SameScore customer.id
        (bulkRescore "m" "operator" 1 2 fiveBought).db
        (recomputeAll "m" 1 (liveCustomers "m" fiveBought).reverse fiveBought)) ∧
      ∀ customer ∈ (decayRescore "m" "operator" 1 4 fiveBought).evaluated, SameScore customer.id
        (decayRescore "m" "operator" 1 4 fiveBought).db
        (recomputeAll "m" 1 (liveCustomers "m" fiveBought).reverse fiveBought) := by
  have stored : ({ id := "m", shop := "m.myshopify.com", scoringInitializedAt := some 0 } : Merchant) ∈
      fiveBought.merchants.rows := by decide
  have owned : ScoresOwned fiveBought := by
    intro score member
    cases member
  exact ⟨by decide, (scoring_agrees_iff stored owned (by decide) 4 (List.reverse_perm _)).mpr (by decide)⟩

end SixCustomers

end WinBack.Scoring
