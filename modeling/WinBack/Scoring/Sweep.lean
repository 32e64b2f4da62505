import WinBack.Compliance.Linked
import WinBack.Scoring.Effect

/-! A sweep is a page loop over the live customers of a merchant. A page moves only its
own customers, to the band that the cohort snapshot gives them. -/

namespace WinBack.Scoring

open Library CustomerScoreService

variable {merchant : Merchant} {snapshot : CohortSnapshot} {announced : Option Announcement}
  {states : Option (List CustomerState)} {merchantId : MerchantId} {customer : Customer} {rows : List Customer}
  {db next : Db} {batchSize : Nat} {now : Date}

section Selection

theorem mem_selected : customer ∈ selected merchantId states db ↔
    customer ∈ db.customers.rows ∧ customer.merchantId = merchantId ∧ customer.deletedAt = none ∧
      states.all (fun states => decide (customer.state ∈ states)) = true := by
  simp [selected, List.mem_insertionSort, and_assoc]

theorem nodup_ids (db : Db) : (db.customers.rows.map (·.id)).Nodup := by
  rw [List.nodup_iff_pairwise_ne, List.pairwise_map]
  refine db.customers.unique.imp fun free same => ?_
  simp [Indexed.clash, Indexed.index, same] at free

theorem selected_sorted (merchantId : MerchantId) (states : Option (List CustomerState)) (db : Db) :
    (selected merchantId states db).Pairwise fun first second => first.id < second.id := by
  have ordered : (selected merchantId states db).Pairwise fun first second => first.id ≤ second.id :=
    List.pairwise_insertionSort (fun first second : Customer => first.id ≤ second.id) _
  have distinct : ((selected merchantId states db).map (·.id)).Nodup := by
    have same := (List.perm_insertionSort (fun first second : Customer => first.id ≤ second.id)
      (db.customers.rows.filter fun row => row.merchantId == merchantId && row.deletedAt == none &&
        states.all fun states => decide (row.state ∈ states))).map (·.id)
    exact same.nodup_iff.mpr ((nodup_ids db).sublist (List.filter_sublist.map _))
  rw [List.nodup_iff_pairwise_ne, List.pairwise_map] at distinct
  exact ordered.imp₂ (fun _ _ before apart => lt_of_le_of_ne before apart) distinct

theorem pageable_of_sublist (known : db.merchants.any (·.id == merchant.id) = true) (scores : ScoresOwned db)
    (listed : rows.Sublist (selected merchant.id states db)) : Pageable merchant rows db where
  known := known
  stored row member :=
    have found := mem_selected.mp (listed.subset member)
    ⟨found.1, found.2.1⟩
  distinct := by
    rw [List.nodup_iff_pairwise_ne, List.pairwise_map]
    exact ((selected_sorted merchant.id states db).sublist listed).imp fun before same => absurd same before.ne
  scores := scores

end Selection

/-- The store of every history has owned scores. -/
theorem scoresOwned_of_linked {pipeline : Compliance.Pipeline} (linked : Compliance.Linked pipeline) :
    ScoresOwned pipeline.db := by
  intro score member customer stored same
  have owned := linked.scores _ (Table.mem_links.mpr ⟨score, member, rfl⟩)
  exact Compliance.merchant_of_owner stored (same ▸ owned)

/-- A store that a sweep of the merchant can run on. -/
structure Ready (merchant : Merchant) (db : Db) : Prop where
  known : db.merchants.any (·.id == merchant.id) = true
  scores : ScoresOwned db

/-- Whether the row of a customer passes its page. -/
def passes (merchant : Merchant) (snapshot : CohortSnapshot) (announced : Option Announcement) (row : Customer) : Bool :=
  publishable merchant announced row (snapshot.resolve row) snapshot.now

/-- Whether a customer is still selected once it is scored. -/
def stays (snapshot : CohortSnapshot) (states : Option (List CustomerState)) (row : Customer) : Bool :=
  states.all fun states => decide ((snapshot.resolve row).newState ∈ states)

theorem ready_of_stored (stored : merchant ∈ db.merchants.rows) (scores : ScoresOwned db) : Ready merchant db where
  known := List.any_eq_true.mpr ⟨merchant, stored, beq_self_eq_true _⟩
  scores := scores

theorem begin_eq (operation : String) (stored : merchant ∈ db.merchants.rows) :
    begin operation merchant.id now db = .ok (merchant, CohortSnapshot.of merchant.id now db) := by
  have found : db.merchants.find? (·.id == merchant.id) = some merchant :=
    (Table.find?_eq_some_iff (by simp +contextual [Indexed.clash, Indexed.index])).mpr ⟨stored, beq_self_eq_true _⟩
  simp [begin, found, read_eq, Except.map]

section Pages

theorem Ready.after {ids : List CustomerId} (ready : Ready merchant db)
    (page : ScoredPage merchant snapshot ids db next) :
    Ready merchant next where
  known := by
    rw [page.merchants]
    exact ready.known
  scores := page.scores

/-- The rows of other customers are selected as before. -/
theorem selected_others {ids : List CustomerId} (page : ScoredPage merchant snapshot ids db next) :
    (selected merchantId states next).filter (fun row => decide ¬row.id ∈ ids) =
      (selected merchantId states db).filter fun row => decide ¬row.id ∈ ids := by
  have irrefl : Std.Irrefl fun first second : Customer => first.id < second.id := ⟨fun _ => lt_irrefl _⟩
  have antisymm : Std.Antisymm fun first second : Customer => first.id < second.id :=
    ⟨fun _ _ before after => absurd before after.asymm⟩
  refine ((selected_sorted merchantId states next).filter _).eq_of_mem_iff
    ((selected_sorted merchantId states db).filter _) fun row => ?_
  simp only [List.mem_filter, decide_eq_true_eq]
  refine and_congr_left fun apart => ?_
  rw [mem_selected, mem_selected, page.customers, List.mem_map]
  refine and_congr_left fun _ => ⟨?_, fun member => ⟨row, member, settled_of_not_mem apart⟩⟩
  rintro ⟨old, member, rfl⟩
  rwa [settled_of_not_mem (by simpa using apart)]

/-- A scored customer is selected exactly when its new band is. -/
theorem selected_scored {ids : List CustomerId} (page : ScoredPage merchant snapshot ids db next) {row : Customer}
    (listed : row.id ∈ ids) (found : row ∈ selected merchant.id states db) :
    row.id ∈ (selected merchant.id states next).map (·.id) ↔ stays snapshot states row = true := by
  obtain ⟨stored, owner, live, _⟩ := mem_selected.mp found
  have moved : { row with state := (snapshot.resolve row).newState } ∈ next.customers.rows := by
    rw [page.customers]
    exact List.mem_map.mpr ⟨row, stored, settled_of_mem listed⟩
  rw [List.mem_map]
  constructor
  · rintro ⟨other, selected, same⟩
    obtain ⟨present, _, _, band⟩ := mem_selected.mp selected
    rw [customer_unique present moved same] at band
    exact band
  · intro band
    exact ⟨_, mem_selected.mpr ⟨moved, owner, live, band⟩, rfl⟩

/-- Each row of a sweep settles its own fate. -/
theorem steady (merchant : Merchant) (snapshot : CohortSnapshot) (announced : Option Announcement)
    (states : Option (List CustomerState)) :
    Paging.Steady Customer.id (selected merchant.id states) (rescorePage merchant snapshot announced)
      (passes merchant snapshot announced) (stays snapshot states) (Ready merchant) where
  sorted db _ := selected_sorted merchant.id states db
  runs _ _ ready listed := (rescorePage_spec (pageable_of_sublist ready.known ready.scores listed)).1
  keeps _ _ _ ready listed done :=
    ready.after ((rescorePage_spec (pageable_of_sublist ready.known ready.scores listed)).2 _ done)
  others _ _ _ ready listed done :=
    selected_others ((rescorePage_spec (pageable_of_sublist ready.known ready.scores listed)).2 _ done)
  stay _ _ _ ready listed done _ member :=
    selected_scored ((rescorePage_spec (pageable_of_sublist ready.known ready.scores listed)).2 _ done)
      (List.mem_map_of_mem member) (listed.subset member)

end Pages

section Passes

/-- What a pass visits, and that it comes to an end. -/
theorem pages_visited (ready : Ready merchant db) :
    (pages merchant snapshot announced states batchSize db).visited =
        Paging.visited batchSize (passes merchant snapshot announced) (stays snapshot states)
          (selected merchant.id states db) ∧
      (pages merchant snapshot announced states batchSize db).ending ≠ .outOfFuel ∧
      ((pages merchant snapshot announced states batchSize db).ending = .done ↔
        ∀ row ∈ Paging.fetched batchSize (stays snapshot states) (selected merchant.id states db),
          passes merchant snapshot announced row = true) := by
  refine Paging.sweep_visited (steady merchant snapshot announced states) ready ?_
  rw [selected, List.length_insertionSort]
  exact Nat.lt_succ_of_le (List.length_filter_le _ _)

/-- What a pass leaves: every visited customer is scored, the others are as before. -/
theorem pages_scored (ready : Ready merchant db) :
    ScoredPage merchant snapshot ((pages merchant snapshot announced states batchSize db).visited.map (·.id)) db
      (pages merchant snapshot announced states batchSize db).state := by
  let Holds (seen : List Customer) (state : Db) : Prop :=
    Ready merchant state ∧ ScoredPage merchant snapshot (seen.map (·.id)) db state
  have start : Holds [] db := ⟨ready, .refl ready.scores⟩
  have keeps : ∀ seen cursor state next, Holds seen state →
      rescorePage merchant snapshot announced (fetch merchant states batchSize cursor state) state = .ok next →
      Holds (seen ++ fetch merchant states batchSize cursor state) next := by
    intro seen cursor state next ⟨ready', early⟩ done
    have listed : (fetch merchant states batchSize cursor state).Sublist (selected merchant.id states state) :=
      Paging.page_sublist
    have late := (rescorePage_spec (pageable_of_sublist ready'.known ready'.scores listed)).2 next done
    refine ⟨ready'.after late, ?_⟩
    rw [List.map_append]
    exact early.trans late
  have kept : Holds ([] ++ (pages merchant snapshot announced states batchSize db).visited)
      (pages merchant snapshot announced states batchSize db).state := Paging.sweep_invariant start keeps
  exact kept.2

/-- The state of a customer after some customers are scored. -/
theorem ScoredPage.state {ids : List CustomerId} (page : ScoredPage merchant snapshot ids db next)
    (stored : customer ∈ db.customers.rows) :
    stateOf customer.id next =
      some (if customer.id ∈ ids then (snapshot.resolve customer).newState else customer.state) := by
  have moved : settled snapshot ids customer ∈ next.customers.rows := by
    rw [page.customers]
    exact List.mem_map_of_mem stored
  have found : next.customers.find? (·.id == customer.id) = some (settled snapshot ids customer) :=
    (Table.find?_eq_some_iff (by simp +contextual [Indexed.clash, Indexed.index])).mpr ⟨moved, by simp⟩
  rw [stateOf, found, Option.map_some]
  unfold settled
  split <;> rfl

/-- The first pass throws nothing and visits every live customer. -/
theorem pages_all (ready : Ready merchant db) (positive : 0 < batchSize) :
    (pages merchant snapshot none none batchSize db).visited = selected merchant.id none db ∧
      (pages merchant snapshot none none batchSize db).ending = .done := by
  obtain ⟨visited, _, done⟩ := @pages_visited merchant snapshot none none db batchSize ready
  refine ⟨?_, done.mpr fun _ _ => rfl⟩
  rw [visited, Paging.visited_eq_iff positive]
  exact ⟨fun _ _ => rfl, fun _ _ _ => by simp [stays, Option.all_eq_true]⟩

/-- The live customers that a decay sweep is to evaluate, by id. -/
def workingSet (merchantId : MerchantId) (db : Db) : List Customer :=
  selected merchantId (some decayWorkingSetStates) db

theorem decayRescore_evaluated {actorId : String} (stored : merchant ∈ db.merchants.rows) :
    (decayRescore merchant.id actorId now batchSize db).evaluated =
      (pages merchant (CohortSnapshot.of merchant.id now db) (some ⟨actorId, some "decay_sweep"⟩)
        (some decayWorkingSetStates) batchSize db).visited := by
  simp only [decayRescore, begin_eq "decayRescore" stored]
  split <;> rfl

/-- A committed page held no transition that cannot be announced. -/
theorem announceable_of_evaluated {actorId : String} (stored : merchant ∈ db.merchants.rows) (scores : ScoresOwned db)
    (evaluated : customer ∈ (decayRescore merchant.id actorId now batchSize db).evaluated) :
    customer ∈ workingSet merchant.id db ∧
      announceable merchant customer (scoreFor merchant.id now db customer) now = true := by
  have visited := (@pages_visited merchant (CohortSnapshot.of merchant.id now db) (some ⟨actorId, some "decay_sweep"⟩)
    (some decayWorkingSetStates) db batchSize (ready_of_stored stored scores)).1
  rw [decayRescore_evaluated stored, visited] at evaluated
  have passed : passes merchant (CohortSnapshot.of merchant.id now db) (some ⟨actorId, some "decay_sweep"⟩) customer =
      true := Paging.passes_of_visited evaluated
  exact ⟨Paging.visited_sublist.subset evaluated, passed⟩

end Passes

section Samples

def buyer (id gid : String) : Customer := { id, merchantId := "m", shopifyCustomerId := customerGidPrefix ++ gid }

/-- The one order of a customer. -/
def purchase (customerId : CustomerId) (totalAmountCents : Int) : Order where
  id := customerId
  merchantId := "m"
  customerId := some customerId
  shopifyOrderId := customerId
  totalAmountCents
  financialStatus := some .paid
  placedAt := 0

/-- Five customers who spent the same. -/
def fivePurchases : Table Order := ⟨["a", "b", "c", "d", "e"].map (purchase · 100), by decide⟩

end Samples

end WinBack.Scoring
