import WinBack.Scoring.Bands

/-! Which scores can be announced. The payload schema of a transition asks for days that
are not negative; a customer's days are, where it paid for an order after the clock of
the pass. -/

namespace WinBack.Scoring

open Library CustomerScoreRepository CustomerScoreService

variable {merchant : Merchant} {merchantId : MerchantId} {customer : Customer} {now : Date} {db next : Db}

section Fields

/-- The band that the orders of a store give a customer. -/
def band (merchantId : MerchantId) (now : Date) (db : Db) (customer : Customer) : CustomerState :=
  if (readCohort merchantId now db).length < insufficientCohortThreshold then .insufficientData
  else stateFromRecency (recencyDays merchantId now db customer)

theorem scoreFor_newState : (scoreFor merchantId now db customer).newState = band merchantId now db customer := by
  unfold band
  split
  · rename_i short
    exact insufficientData_iff.mpr short
  · rename_i enough
    exact scoreFor_band (Nat.not_lt.mp enough)

/-- The aggregates of a score are those of the customer's own counted orders. -/
theorem scoreFor_aggregates : (scoreFor merchantId now db customer).rDays = recencyDays merchantId now db customer ∧
    (scoreFor merchantId now db customer).fCount = (ordersOf merchantId now customer.id db).length ∧
    (scoreFor merchantId now db customer).mCents =
      ((ordersOf merchantId now customer.id db).map (·.totalAmountCents)).sum := by
  have found : (CohortSnapshot.of merchantId now db).cohortRow? customer = _ := find?_readCohort
  unfold scoreFor CohortSnapshot.resolve recencyDays
  rw [found]
  by_cases none : ordersOf merchantId now customer.id db = []
  · rw [if_pos none, if_pos none, none]
    exact ⟨rfl, rfl, rfl⟩
  · rw [if_neg none, if_neg none]
    dsimp only [resolveScorableCustomerWithBoundaries]
    split
    · exact ⟨rfl, rfl, rfl⟩
    · exact ⟨rfl, rfl, rfl⟩

def inQuintiles (value : Option Int) : Bool := value.all fun rank => 1 ≤ rank && rank ≤ 5

/-- A score is ranked in quintiles, or not at all. -/
theorem resolve_inQuintiles (snapshot : CohortSnapshot) (customer : Customer) :
    inQuintiles (snapshot.resolve customer).rQuintile = true ∧
      inQuintiles (snapshot.resolve customer).fQuintile = true ∧
      inQuintiles (snapshot.resolve customer).mQuintile = true := by
  unfold CohortSnapshot.resolve
  split
  · rename_i row _
    unfold resolveScorableCustomerWithBoundaries
    split
    · rename_i boundaries _ _
      have recency := rank_bounds row.rDays boundaries.r
      have frequency := rank_bounds row.fCount boundaries.f
      have monetary := rank_bounds row.mCents boundaries.m
      simp only [inQuintiles, assignRQuintile, invert, assignFQuintile, assignMQuintile, Option.all_some,
        Bool.and_eq_true, decide_eq_true_eq]
      omega
    · exact ⟨rfl, rfl, rfl⟩
  · exact ⟨rfl, rfl, rfl⟩

end Fields

section Ingest

/-- A customer row as the ingest writes it. -/
structure Identified (customer : Customer) : Prop where
  named : customer.id ≠ ""
  gid : customerGidPrefix.toList <+: customer.shopifyCustomerId.toList

/-- What the ingest promises about the rows that scoring reads. -/
structure Ingested (db : Db) : Prop where
  merchants : ∀ merchant ∈ db.merchants.rows, merchant.id ≠ ""
  customers : ∀ customer ∈ db.customers.rows, Identified customer
  orders : ∀ order ∈ db.orders.rows, 0 ≤ order.totalAmountCents

theorem prefixed_gid {id : ShopifyId} {gid : String} (wrapped : toShopifyCustomerGid id = some gid) :
    customerGidPrefix.toList <+: gid.toList := by
  simp only [toShopifyCustomerGid, wrapGid, Option.ite_none_right_eq_some, Option.some.injEq] at wrapped
  rw [← wrapped.2, String.toList_append]
  exact List.prefix_append _ _

/-- An upsert of a customer under a customer gid. -/
theorem ingested_upsert {gid : String} {newId : CustomerId} {create update : CustomerPatch} {customerId : CustomerId}
    (ingested : Ingested db) (fresh : newId ≠ "") (wrapped : customerGidPrefix.toList <+: gid.toList)
    (done : CustomerRepository.upsert merchantId gid newId create update now db = .ok (customerId, next)) :
    Ingested next := by
  unfold CustomerRepository.upsert at done
  split at done
  · cases done
    refine ⟨ingested.merchants, fun customer member => ?_, ingested.orders⟩
    obtain ⟨old, stored, rfl⟩ := List.mem_map.mp member
    have kept := ingested.customers old stored
    split
    · exact ⟨kept.named, kept.gid⟩
    · exact kept
  · split at done
    · cases done
    · rename_i customers inserted
      split at done
      · cases done
        refine ⟨ingested.merchants, fun customer member => ?_, ingested.orders⟩
        rw [(Table.insert?_rows inserted).1] at member
        rcases List.mem_append.mp member with old | new
        · exact ingested.customers customer old
        · rw [List.mem_singleton.mp new]
          exact ⟨fresh, wrapped⟩
      · cases done

theorem ingested_customer {body : ShopifyCustomerWebhookBody} {newId : CustomerId}
    {result : CustomerRepository.UpsertResult} (ingested : Ingested db) (fresh : newId ≠ "")
    (done : CustomerRepository.upsertFromWebhook merchantId body newId now db = .ok (result, next)) :
    Ingested next := by
  unfold CustomerRepository.upsertFromWebhook at done
  split at done
  · cases done
  · rename_i gid wrapped
    obtain ⟨⟨customerId, after⟩, upserted, same⟩ := map_eq_ok_iff.mp done
    cases same
    exact ingested_upsert ingested fresh (prefixed_gid wrapped) upserted

/-- `parseMoneyToCents` refuses a sign. -/
theorem ingested_order {body : ShopifyOrderWebhookBody} {newId : String} {result : OrderRepository.UpsertResult}
    (ingested : Ingested db) (amount : 0 ≤ body.totalAmountCents)
    (done : OrderRepository.upsertFromWebhook merchantId body newId db = .ok (result, next)) : Ingested next := by
  unfold OrderRepository.upsertFromWebhook at done
  split at done
  · cases done
  · dsimp only at done
    split at done
    · cases done
    · split at done
      · cases done
        refine ⟨ingested.merchants, ingested.customers, fun order member => ?_⟩
        obtain ⟨old, stored, rfl⟩ := List.mem_map.mp member
        split
        · exact amount
        · exact ingested.orders old stored
      · split at done
        · cases done
        · rename_i orders inserted
          split at done
          · cases done
            refine ⟨ingested.merchants, ingested.customers, fun order member => ?_⟩
            rw [(Table.insert?_rows inserted).1] at member
            rcases List.mem_append.mp member with old | new
            · exact ingested.orders order old
            · rw [List.mem_singleton.mp new]
              exact amount
          · cases done

theorem ScoredPage.ingested {snapshot : CohortSnapshot} {ids : List CustomerId}
    (page : ScoredPage merchant snapshot ids db next) (ingested : Ingested db) : Ingested next where
  merchants := page.merchants ▸ ingested.merchants
  customers customer member := by
    rw [page.customers] at member
    obtain ⟨old, stored, rfl⟩ := List.mem_map.mp member
    have kept := ingested.customers old stored
    unfold settled
    split
    · exact ⟨kept.named, kept.gid⟩
    · exact kept
  orders := page.orders ▸ ingested.orders

end Ingest

section Presentable

/-- The transition of the customer is one that the schema admits: there is none, or it is not
announced, or no counted order of the customer was paid after the clock, whose year has four
digits. -/
def Presentable (merchant : Merchant) (now : Date) (db : Db) (customer : Customer) : Prop :=
  merchant.scoringInitializedAt = none ∨ customer.state = band merchant.id now db customer ∨
    ((∀ order ∈ ordersOf merchant.id now customer.id db, paidAt order ≤ now) ∧
      0 ≤ Calendar.year (now / msPerDay) ∧ Calendar.year (now / msPerDay) ≤ 9999)

instance (merchant : Merchant) (now : Date) (db : Db) (customer : Customer) :
    Decidable (Presentable merchant now db customer) :=
  inferInstanceAs (Decidable (_ ∨ _ ∨ _))

theorem recencyDays_nonneg_iff :
    0 ≤ recencyDays merchantId now db customer ↔ ∀ order ∈ ordersOf merchantId now customer.id db, paidAt order ≤ now := by
  unfold recencyDays
  split
  · rename_i none
    refine iff_of_true ?_ (by simp [none])
    unfold accountDays lurkerRDays
    dsimp only
    split
    · exact le_rfl
    · rename_i past
      exact Int.ediv_nonneg (Int.not_le.mp past).le (by decide)
  · rename_i some
    obtain ⟨last, latest⟩ : ∃ last, ((ordersOf merchantId now customer.id db).map paidAt).max? = .some last := by
      cases paid : ordersOf merchantId now customer.id db with
      | nil => exact absurd paid some
      | cons order rest => exact ⟨_, List.max?_cons'⟩
    have days : paidDays merchantId now db customer = (now - last) / msPerDay := by
      simp only [paidDays, aggregate, latest, Option.getD_some]
    have whole : 0 ≤ (now - last) / msPerDay ↔ 0 ≤ now - last := Int.ediv_nonneg_iff_of_pos (by decide)
    rw [days, whole, Int.sub_nonneg]
    obtain ⟨member, most⟩ := List.max?_eq_some_iff.mp latest
    constructor
    · intro before order listed
      exact (most _ (List.mem_map_of_mem listed)).trans before
    · intro before
      obtain ⟨order, listed, rfl⟩ := List.mem_map.mp member
      exact before order listed

/-- Apart from the days and the clock a score always passes. -/
theorem announceable_iff (ingested : Ingested db) (stored : merchant ∈ db.merchants.rows)
    (identified : Identified customer) :
    announceable merchant customer (scoreFor merchant.id now db customer) now = true ↔
      Presentable merchant now db customer := by
  obtain ⟨rDays, fCount, mCents⟩ := @scoreFor_aggregates merchant.id customer now db
  obtain ⟨recency, frequency, monetary⟩ := resolve_inQuintiles (CohortSnapshot.of merchant.id now db) customer
  have gid := List.prefix_iff_eq_take.mp identified.gid
  rw [String.length_toList] at gid
  have amounts : 0 ≤ ((ordersOf merchant.id now customer.id db).map (·.totalAmountCents)).sum := by
    refine List.sum_nonneg fun amount listed => ?_
    obtain ⟨order, member, rfl⟩ := List.mem_map.mp listed
    exact ingested.orders order (List.mem_of_mem_filter member)
  unfold inQuintiles at recency frequency monetary
  unfold announceable Presentable CustomerStateChangedInput.valid
  simp only [rDays, fCount, mCents, scoreFor_newState, ← gid, ← recencyDays_nonneg_iff, amounts]
  simp only [scoreFor, recency, frequency, monetary]
  simp [ingested.merchants merchant stored, identified.named, and_assoc, or_assoc]

theorem decayRescore_ok_iff (actorId : String) (batchSize : Nat) (stored : merchant ∈ db.merchants.rows) :
    (∃ result, (decayRescore merchant.id actorId now batchSize db).outcome = .ok result) ↔
      (pages merchant (CohortSnapshot.of merchant.id now db) (some ⟨actorId, some "decay_sweep"⟩)
        (some decayWorkingSetStates) batchSize db).ending = .done := by
  simp only [decayRescore, begin_eq "decayRescore" stored]
  split
  · rename_i done
    exact iff_of_true ⟨_, rfl⟩ done
  · rename_i threw
    exact iff_of_false (by simp) (by simp [threw])
  · rename_i endless
    exact iff_of_false (by simp) (by simp [endless])

/-- A recompute and a sweep fail on nothing else: the ranks, the count and the sum are always
what the schema asks for. -/
theorem transitions_valid_iff (actorId : String) (batchSize : Nat) (ingested : Ingested db) (scores : ScoresOwned db)
    (stored : merchant ∈ db.merchants.rows) :
    (∀ customer ∈ liveCustomers merchant.id db,
      (∃ next, recompute merchant.id customer.id now db = .ok next) ↔ Presentable merchant now db customer) ∧
    ((∃ result, (decayRescore merchant.id actorId now batchSize db).outcome = .ok result) ↔
      ∀ customer ∈ Paging.fetched batchSize (fun row => decide (band merchant.id now db row ∈ decayWorkingSetStates))
        (workingSet merchant.id db), Presentable merchant now db customer) := by
  constructor
  · intro customer listed
    obtain ⟨present, owner, live, _⟩ := mem_selected.mp listed
    rw [recompute_eq stored present live, ← announceable_iff ingested stored (ingested.customers customer present)]
    have one : [customer].Sublist (selected merchant.id none db) := List.singleton_sublist.mpr listed
    exact applyScore_iff (pageable_of_sublist (ready_of_stored stored scores).known scores one).head (cuid_free db)
  · obtain ⟨_, _, done⟩ := @pages_visited merchant (CohortSnapshot.of merchant.id now db)
      (some ⟨actorId, some "decay_sweep"⟩) (some decayWorkingSetStates) db batchSize (ready_of_stored stored scores)
    have bands : stays (CohortSnapshot.of merchant.id now db) (some decayWorkingSetStates) =
        fun row => decide (band merchant.id now db row ∈ decayWorkingSetStates) := by
      funext row
      rw [← scoreFor_newState]
      rfl
    rw [decayRescore_ok_iff actorId batchSize stored, done, bands]
    refine forall₂_congr fun row listed => ?_
    have selected := Paging.visited_sublist.subset listed
    exact announceable_iff ingested stored (ingested.customers row (mem_selected.mp selected).1)

section OrderAhead

theorem ingested_orderAhead : Ingested orderAhead where
  merchants merchant member := by
    rw [List.mem_singleton.mp member]
    decide
  customers customer member := by
    rw [List.mem_singleton.mp member]
    exact ⟨by decide, by decide⟩
  orders order member := by
    rw [List.mem_singleton.mp member]
    decide

/-- From the order on, its customer is scored by both. -/
theorem transitions_valid_after_order :
    (∀ customer ∈ liveCustomers "m" orderAhead, ∃ next, recompute "m" customer.id 1 orderAhead = .ok next) ∧
      ∃ result, (decayRescore "m" "scheduler" 1 10 orderAhead).outcome = .ok result := by
  have stored : ({ id := "m", shop := "m.myshopify.com", scoringInitializedAt := some 0 } : Merchant) ∈
      orderAhead.merchants.rows := by decide
  obtain ⟨recomputes, sweep⟩ :=
    @transitions_valid_iff _ 1 _ "scheduler" 10 ingested_orderAhead scoresOwned_orderAhead stored
  have presentable : ∀ customer ∈ orderAhead.customers.rows,
      Presentable { id := "m", shop := "m.myshopify.com", scoringInitializedAt := some 0 } 1 orderAhead customer := by
    decide
  refine ⟨fun customer listed => ?_, sweep.mpr fun customer fetched => ?_⟩
  · exact (recomputes customer listed).mpr (presentable customer (mem_selected.mp listed).1)
  · exact presentable customer (mem_selected.mp (Paging.visited_sublist.subset fetched)).1

/-- One millisecond before it the customer bought minus one days ago: the recompute throws. -/
theorem recompute_throws_ahead :
    ¬∀ (merchant : Merchant) (now : Date) (db : Db), merchant ∈ db.merchants.rows → Ingested db → ScoresOwned db →
      ∀ customer ∈ liveCustomers merchant.id db, ∃ next, recompute merchant.id customer.id now db = .ok next := by
  intro claim
  have scored := claim { id := "m", shop := "m.myshopify.com", scoringInitializedAt := some 0 } 0 orderAhead (by decide)
    ingested_orderAhead scoresOwned_orderAhead
    { id := "a", merchantId := "m", shopifyCustomerId := "gid://shopify/Customer/1" } (by decide)
  obtain ⟨next, done⟩ := scored
  have refused : (recompute "m" "a" 0 orderAhead).toOption.isNone = true := by decide
  rw [done] at refused
  cases refused

end OrderAhead

end Presentable

end WinBack.Scoring
