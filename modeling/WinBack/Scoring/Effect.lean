import Mathlib.Algebra.Order.BigOperators.Group.List
import WinBack.Library.Fallible
import WinBack.Scoring.Service

/-! What scoring one customer does to the store: its score row and its state, and
nothing else of what scores are computed from. -/

namespace WinBack.Scoring

open Library CustomerScoreService

/-- The stored score of a customer. -/
def scoreOf (customerId : CustomerId) (db : Db) : Option CustomerScore :=
  db.customerScores.find? (·.customerId == customerId)

def stateOf (customerId : CustomerId) (db : Db) : Option CustomerState :=
  (db.customers.find? (·.id == customerId)).map (·.state)

/-- The score row that a scoring of the customer writes. -/
def writtenScore (merchant : Merchant) (customerId : CustomerId) (score : ResolvedCustomerScore) (now : Date) :
    CustomerScore where
  merchantId := merchant.id
  customerId
  rDays := score.rDays
  fCount := score.fCount
  mCents := score.mCents
  currency := (merchant.currency.getD "USD").toUpper
  rQuintile := score.rQuintile
  fQuintile := score.fQuintile
  mQuintile := score.mQuintile
  churnRiskScore := score.churnRiskScore
  computedAt := now

/-- The customer makes no transition that is announced, or one whose payload passes its schema. -/
def announceable (merchant : Merchant) (customer : Customer) (score : ResolvedCustomerScore) (now : Date) : Bool :=
  merchant.scoringInitializedAt.isNone || customer.state == score.newState ||
    CustomerStateChangedInput.valid {
      merchantId := merchant.id
      customerId := customer.id
      shopifyCustomerId := customer.shopifyCustomerId
      oldState := customer.state
      newState := score.newState
      computedAt := now
      rfmScore := score }

/-- A pass that announces nothing has nothing to validate. -/
def publishable (merchant : Merchant) (announced : Option Announcement) (customer : Customer)
    (score : ResolvedCustomerScore) (now : Date) : Bool :=
  announced.isNone || announceable merchant customer score now

/-- Score rows carry the merchant of their customer. -/
def ScoresOwned (db : Db) : Prop :=
  ∀ score ∈ db.customerScores.rows, ∀ customer ∈ db.customers.rows, customer.id = score.customerId →
    customer.merchantId = score.merchantId

/-- A customer of a merchant that is here, in a store whose scores are owned. -/
structure Scorable (merchant : Merchant) (customer : Customer) (db : Db) : Prop where
  known : db.merchants.any (·.id == merchant.id) = true
  stored : ∃ row ∈ db.customers.rows, row.id = customer.id
  owned : ∀ row ∈ db.customers.rows, row.id = customer.id → row.merchantId = merchant.id
  scores : ScoresOwned db

/-- The store after a customer is scored. -/
structure ScoredOnce (merchant : Merchant) (customer : Customer) (score : ResolvedCustomerScore) (now : Date)
    (db next : Db) : Prop where
  customers : next.customers.rows = db.customers.rows.map fun row =>
    if row.id = customer.id ∧ customer.state ≠ score.newState then { row with state := score.newState } else row
  score : scoreOf customer.id next = some (writtenScore merchant customer.id score now)
  others : ∀ customerId, customerId ≠ customer.id → scoreOf customerId next = scoreOf customerId db
  scores : ScoresOwned next
  merchants : next.merchants = db.merchants
  orders : next.orders = db.orders

theorem cuid_free (db : Db) : ∀ row ∈ db.outboxEvents.rows, row.id ≠ cuid db := by
  intro row member same
  have listed : row.id.length ∈ db.outboxEvents.rows.map fun row => row.id.length := List.mem_map_of_mem member
  have bound := List.single_le_sum (fun _ _ => Nat.zero_le _) _ listed
  have length : row.id.length = 1 + (db.outboxEvents.rows.map fun row => row.id.length).sum := by
    conv_lhs => rw [same]
    simp [cuid]
  omega

variable {merchant : Merchant} {customer : Customer} {scored : Scored} {announced : Option Announcement} {now : Date}
  {db next : Db}

section Upsert

/-- The lookup of an upsert misses no score row of the customer. -/
theorem named_iff (scorable : Scorable merchant customer db) {row : CustomerScore}
    (member : row ∈ db.customerScores.rows) :
    (row.customerId == customer.id && row.merchantId == merchant.id) = (row.customerId == customer.id) := by
  cases about : row.customerId == customer.id with
  | false => rfl
  | true =>
    obtain ⟨stored, present, same⟩ := scorable.stored
    have owner := scorable.scores row member stored present (same.trans (beq_iff_eq.mp about).symm)
    rw [← owner, scorable.owned stored present same]
    simp

section Written

variable {merchantId : MerchantId} {customerId : CustomerId} {score : ResolvedCustomerScore} {currency : String}

/-- The row of the customer is the one of this upsert. -/
theorem scoreOf_upsertScore (upserted : upsertScore merchantId customerId score currency now db = .ok next) :
    scoreOf customerId next = some {
      merchantId
      customerId
      rDays := score.rDays
      fCount := score.fCount
      mCents := score.mCents
      currency
      rQuintile := score.rQuintile
      fQuintile := score.fQuintile
      mQuintile := score.mQuintile
      churnRiskScore := score.churnRiskScore
      computedAt := now } := by
  unfold upsertScore at upserted
  dsimp only at upserted
  split at upserted
  · rename_i stored
    cases upserted
    obtain ⟨row, member, named⟩ := List.any_eq_true.mp stored
    obtain ⟨about, owner⟩ := Bool.and_eq_true_iff.mp named
    have found : db.customerScores.find? (·.customerId == customerId) = some row :=
      (Table.find?_eq_some_iff (by simp +contextual [Indexed.clash, Indexed.index])).mpr ⟨member, about⟩
    unfold scoreOf
    dsimp only
    rw [Table.find?_updateMany, found, Option.map_some, if_pos named]
    · simp [beq_iff_eq.mp about, beq_iff_eq.mp owner]
    · exact fun _ => rfl
  · split at upserted
    · cases upserted
    · rename_i customerScores inserted
      split at upserted
      · cases upserted
        have unscored : db.customerScores.find? (·.customerId == customerId) = none := by
          rw [Table.find?_none_iff]
          intro row member
          simpa [Indexed.clash, Indexed.index] using (Table.insert?_rows inserted).2 row member
        unfold scoreOf
        rw [Table.find?_insert? inserted, unscored]
        exact if_pos (beq_self_eq_true customerId)
      · cases upserted

theorem scoreOf_upsertScore_other
    (upserted : upsertScore merchantId customerId score currency now db = .ok next) {other : CustomerId}
    (apart : other ≠ customerId) : scoreOf other next = scoreOf other db := by
  unfold upsertScore at upserted
  dsimp only at upserted
  split at upserted
  · cases upserted
    unfold scoreOf
    dsimp only
    rw [Table.find?_updateMany]
    · cases there : db.customerScores.find? (·.customerId == other) with
      | none => rfl
      | some row =>
        have different : row.customerId = other := by simpa using (Table.find?_mem there).2
        simp [different, apart]
    · exact fun _ => rfl
  · split at upserted
    · cases upserted
    · rename_i customerScores inserted
      split at upserted
      · cases upserted
        unfold scoreOf
        rw [Table.find?_insert? inserted]
        simp [Ne.symm apart]
      · cases upserted

end Written

/-- The upsert of a scorable customer goes through. -/
theorem upsertScore_ok (scorable : Scorable merchant customer db) (score : ResolvedCustomerScore) (now : Date) :
    ∃ customerScores, upsertScore merchant.id customer.id score (merchant.currency.getD "USD").toUpper now db =
        .ok { db with customerScores } ∧ ScoresOwned { db with customerScores } := by
  unfold upsertScore
  dsimp only
  split
  · refine ⟨_, rfl, fun other listed => ?_⟩
    obtain ⟨old, present, rfl⟩ := List.mem_map.mp listed
    split
    · exact scorable.scores old present
    · exact scorable.scores old present
  · rename_i missing
    split
    · rename_i refused
      obtain ⟨other, member, clash⟩ := Table.insert?_none refused
      refine absurd (List.any_eq_true.mpr ⟨other, member, ?_⟩) missing
      rw [named_iff scorable member]
      simpa [Indexed.clash, Indexed.index] using clash
    · rename_i customerScores inserted
      obtain ⟨stored, present, same⟩ := scorable.stored
      have known : db.customers.any (·.id == customer.id) = true :=
        List.any_eq_true.mpr ⟨stored, present, by simp [same]⟩
      rw [known, scorable.known]
      refine ⟨_, rfl, fun other listed customer' present' same' => ?_⟩
      rcases List.mem_append.mp ((Table.insert?_rows inserted).1 ▸ listed) with old | new
      · exact scorable.scores other old customer' present' same'
      · rw [List.mem_singleton.mp new] at same' ⊢
        exact scorable.owned customer' present' same'

end Upsert

section Apply

/-- The state update reaches the row of the customer. -/
theorem updateState_spec (scorable : Scorable merchant customer db) (state : CustomerState) :
    ∃ customers, updateState merchant.id customer.id state db = .ok { db with customers } ∧
      customers.rows = db.customers.rows.map fun row => if row.id = customer.id then { row with state } else row := by
  obtain ⟨stored, present, same⟩ := scorable.stored
  have named : db.customers.any (fun row => row.id == customer.id && row.merchantId == merchant.id) = true :=
    List.any_eq_true.mpr ⟨stored, present, by simp [same, scorable.owned stored present same]⟩
  unfold updateState
  dsimp only
  rw [if_pos named]
  refine ⟨_, rfl, List.map_congr_left fun row member => ?_⟩
  by_cases about : row.id = customer.id
  · simp [about, scorable.owned row member about]
  · simp [about]

/-- The announcement goes through when its payload passes. -/
theorem emit_ok {currency actorId : String} {trigger : Option String}
    (free : ∀ row ∈ db.outboxEvents.rows, row.id ≠ scored.eventId)
    (valid : CustomerStateChangedInput.valid {
      merchantId := merchant.id
      customerId := customer.id
      shopifyCustomerId := customer.shopifyCustomerId
      oldState := customer.state
      newState := scored.score.newState
      computedAt := now
      rfmScore := scored.score } = true) :
    ∃ outboxEvents auditLogs, emit merchant customer scored currency actorId trigger now db =
      .ok { db with outboxEvents, auditLogs } := by
  unfold emit buildCustomerStateChangedPayload
  rw [if_pos valid]
  simp only [bind, Except.bind]
  split
  · rename_i refused
    obtain ⟨other, member, clash⟩ := Table.insert?_none refused
    exact absurd (by simpa [Indexed.clash, Indexed.index] using clash) (free other member)
  · exact ⟨_, _, rfl⟩

theorem scoredOnce_of_tables {score : ResolvedCustomerScore} {customerScores : Table CustomerScore}
    (rows : next.customers.rows = db.customers.rows.map fun row =>
      if row.id = customer.id ∧ customer.state ≠ score.newState then { row with state := score.newState } else row)
    (scores : next.customerScores = customerScores) (merchants : next.merchants = db.merchants)
    (orders : next.orders = db.orders)
    (written : scoreOf customer.id { db with customerScores } = some (writtenScore merchant customer.id score now))
    (others : ∀ customerId, customerId ≠ customer.id →
      scoreOf customerId { db with customerScores } = scoreOf customerId db)
    (owned : ScoresOwned { db with customerScores }) : ScoredOnce merchant customer score now db next where
  customers := rows
  score := by
    unfold scoreOf at written ⊢
    rw [scores, ← written]
  others customerId apart := by
    have kept := others customerId apart
    unfold scoreOf at kept ⊢
    rw [scores, ← kept]
  scores row member customer' present same := by
    rw [scores] at member
    rw [rows] at present
    obtain ⟨old, listed, rfl⟩ := List.mem_map.mp present
    have kept := owned row member old listed
    split at same
    · rename_i changed
      rw [if_pos changed]
      exact kept same
    · rename_i unchanged
      rw [if_neg unchanged]
      exact kept same
  merchants := merchants
  orders := orders

theorem applyScore_ok (scorable : Scorable merchant customer db)
    (free : ∀ row ∈ db.outboxEvents.rows, row.id ≠ scored.eventId)
    (fine : publishable merchant announced customer scored.score now = true) :
    ∃ next, applyScore merchant customer scored announced now db = .ok next ∧
      ScoredOnce merchant customer scored.score now db next := by
  obtain ⟨customerScores, upserted, owned⟩ := upsertScore_ok scorable scored.score now
  have written := scoreOf_upsertScore upserted
  have others : ∀ other, other ≠ customer.id →
      scoreOf other { db with customerScores } = scoreOf other db := fun _ => scoreOf_upsertScore_other upserted
  simp only [applyScore, upserted, bind, Except.bind]
  split
  · rename_i unchanged
    refine ⟨_, rfl, scoredOnce_of_tables ?_ rfl rfl rfl written others owned⟩
    simp [unchanged]
  · rename_i changed
    have scorable' : Scorable merchant customer { db with customerScores } := { scorable with scores := owned }
    obtain ⟨customers, moved, rows⟩ := updateState_spec scorable' scored.score.newState
    have moved' : customers.rows = db.customers.rows.map fun row =>
        if row.id = customer.id ∧ customer.state ≠ scored.score.newState then { row with state := scored.score.newState }
        else row := by simpa [changed] using rows
    simp only [moved]
    split
    · rename_i announcement initialized _ set
      have valid := fine
      simp only [publishable, announceable, set, Option.isNone_some, Bool.false_or,
        beq_eq_false_iff_ne.mpr changed] at valid
      obtain ⟨outboxEvents, auditLogs, emitted⟩ := emit_ok
        (show ∀ row ∈ ({ db with customerScores, customers } : Db).outboxEvents.rows, row.id ≠ scored.eventId from free)
        valid
      exact ⟨_, emitted, scoredOnce_of_tables moved' rfl rfl rfl written others owned⟩
    · exact ⟨_, rfl, scoredOnce_of_tables moved' rfl rfl rfl written others owned⟩

/-- An announcement that fails its schema throws, and nothing is written. -/
theorem applyScore_refused (scorable : Scorable merchant customer db)
    (unfit : publishable merchant announced customer scored.score now = false) :
    ∃ error, applyScore merchant customer scored announced now db = .error error := by
  obtain ⟨customerScores, upserted, owned⟩ := upsertScore_ok scorable scored.score now
  have scorable' : Scorable merchant customer { db with customerScores } := { scorable with scores := owned }
  obtain ⟨customers, moved, _⟩ := updateState_spec scorable' scored.score.newState
  simp only [publishable, announceable, Bool.or_eq_false_iff] at unfit
  obtain ⟨loud, ⟨set, changed⟩, invalid⟩ := unfit
  obtain ⟨announcement, rfl⟩ := Option.isSome_iff_exists.mp (by simpa using loud)
  obtain ⟨initializedAt, flagged⟩ := Option.isSome_iff_exists.mp (by simpa using set)
  simp only [applyScore, upserted, bind, Except.bind, if_neg (beq_eq_false_iff_ne.mp changed), moved, flagged]
  unfold emit buildCustomerStateChangedPayload
  simp [invalid, bind, Except.bind]

/-- One scoring goes through exactly when its transition can be announced. -/
theorem applyScore_iff (scorable : Scorable merchant customer db)
    (free : ∀ row ∈ db.outboxEvents.rows, row.id ≠ scored.eventId) :
    (∃ next, applyScore merchant customer scored announced now db = .ok next) ↔
      publishable merchant announced customer scored.score now = true := by
  constructor
  · rintro ⟨next, applied⟩
    by_contra unfit
    obtain ⟨error, refused⟩ := applyScore_refused scorable (Bool.eq_false_iff.mpr unfit)
    rw [refused] at applied
    cases applied
  · intro fine
    obtain ⟨next, applied, _⟩ := applyScore_ok scorable free fine
    exact ⟨next, applied⟩

theorem scoredOnce_of_applyScore (scorable : Scorable merchant customer db)
    (free : ∀ row ∈ db.outboxEvents.rows, row.id ≠ scored.eventId)
    (applied : applyScore merchant customer scored announced now db = .ok next) :
    ScoredOnce merchant customer scored.score now db next := by
  obtain ⟨other, again, once⟩ := applyScore_ok scorable free ((applyScore_iff scorable free).mp ⟨next, applied⟩)
  rw [applied] at again
  cases again
  exact once

end Apply

section Pages

variable {snapshot : CohortSnapshot} {rows : List Customer}

/-- The rows of a page as the store holds them. -/
structure Pageable (merchant : Merchant) (rows : List Customer) (db : Db) : Prop where
  known : db.merchants.any (·.id == merchant.id) = true
  stored : ∀ row ∈ rows, row ∈ db.customers.rows ∧ row.merchantId = merchant.id
  distinct : (rows.map (·.id)).Nodup
  scores : ScoresOwned db

/-- A customer row after some customers are scored. -/
def settled (snapshot : CohortSnapshot) (ids : List CustomerId) (row : Customer) : Customer :=
  if row.id ∈ ids then { row with state := (snapshot.resolve row).newState } else row

theorem settled_of_mem {ids : List CustomerId} {row : Customer} (member : row.id ∈ ids) :
    settled snapshot ids row = { row with state := (snapshot.resolve row).newState } := if_pos member

theorem settled_of_not_mem {ids : List CustomerId} {row : Customer} (apart : row.id ∉ ids) :
    settled snapshot ids row = row := if_neg apart

@[simp] theorem settled_id (ids : List CustomerId) (row : Customer) : (settled snapshot ids row).id = row.id := by
  unfold settled
  split <;> rfl

/-- What the cohort makes of a customer does not depend on its band. -/
@[simp] theorem resolve_settled (ids : List CustomerId) (row : Customer) :
    snapshot.resolve (settled snapshot ids row) = snapshot.resolve row := by
  unfold settled
  split <;> rfl

theorem settled_append (first second : List CustomerId) (row : Customer) :
    settled snapshot (first ++ second) row = settled snapshot second (settled snapshot first row) := by
  by_cases later : row.id ∈ second
  · rw [settled_of_mem (List.mem_append.mpr (.inr later)), settled_of_mem (by simpa using later), resolve_settled]
    unfold settled
    split <;> rfl
  · rw [@settled_of_not_mem snapshot second (settled snapshot first row) (by simpa using later)]
    unfold settled
    simp [later]

/-- The store after some customers are scored, each as the cohort snapshot has it. -/
structure ScoredPage (merchant : Merchant) (snapshot : CohortSnapshot) (ids : List CustomerId) (db next : Db) :
    Prop where
  customers : next.customers.rows = db.customers.rows.map (settled snapshot ids)
  scored : ∀ row ∈ db.customers.rows, row.id ∈ ids →
    scoreOf row.id next = some (writtenScore merchant row.id (snapshot.resolve row) snapshot.now)
  others : ∀ customerId, customerId ∉ ids → scoreOf customerId next = scoreOf customerId db
  scores : ScoresOwned next
  merchants : next.merchants = db.merchants
  orders : next.orders = db.orders

theorem ScoredPage.refl (scores : ScoresOwned db) : ScoredPage merchant snapshot [] db db where
  customers := by
    have same : settled snapshot [] = id := by
      funext row
      simp [settled]
    rw [same, List.map_id]
  scored _ _ member := absurd member List.not_mem_nil
  others _ _ := rfl
  scores := scores
  merchants := rfl
  orders := rfl

theorem ScoredPage.trans {first second : List CustomerId} {middle : Db}
    (early : ScoredPage merchant snapshot first db middle) (late : ScoredPage merchant snapshot second middle next) :
    ScoredPage merchant snapshot (first ++ second) db next where
  customers := by
    rw [late.customers, early.customers, List.map_map]
    exact List.map_congr_left fun row _ => (settled_append first second row).symm
  scored row member listed := by
    have moved : settled snapshot first row ∈ middle.customers.rows := by
      rw [early.customers]
      exact List.mem_map_of_mem member
    by_cases later : row.id ∈ second
    · simpa using late.scored _ moved (by simpa using later)
    · rw [late.others row.id later]
      exact early.scored row member ((List.mem_append.mp listed).resolve_right later)
  others customerId apart := by
    rw [List.mem_append, not_or] at apart
    rw [late.others customerId apart.2, early.others customerId apart.1]
  scores := late.scores
  merchants := late.merchants.trans early.merchants
  orders := late.orders.trans early.orders

theorem Pageable.head {rest : List Customer} (pageable : Pageable merchant (customer :: rest) db) :
    Scorable merchant customer db := by
  obtain ⟨stored, owner⟩ := pageable.stored customer List.mem_cons_self
  exact {
    known := pageable.known
    stored := ⟨customer, stored, rfl⟩
    owned := fun row member same => by rw [customer_unique member stored same, owner]
    scores := pageable.scores }

theorem Pageable.rest {rest : List Customer} (pageable : Pageable merchant (customer :: rest) db) :
    Pageable merchant rest db where
  known := pageable.known
  stored row member := pageable.stored row (List.mem_cons_of_mem _ member)
  distinct := (List.nodup_cons.mp pageable.distinct).2
  scores := pageable.scores

/-- Scoring the first row of a page leaves the others as the page read them. -/
theorem Pageable.tail {rest : List Customer} {score : ResolvedCustomerScore}
    (pageable : Pageable merchant (customer :: rest) db) (once : ScoredOnce merchant customer score now db next) :
    Pageable merchant rest next where
  known := by
    rw [once.merchants]
    exact pageable.known
  stored row member := by
    obtain ⟨present, owner⟩ := pageable.stored row (List.mem_cons_of_mem _ member)
    have apart : row.id ≠ customer.id := by
      intro same
      exact (List.nodup_cons.mp pageable.distinct).1 (List.mem_map.mpr ⟨row, member, same⟩)
    rw [once.customers]
    exact ⟨List.mem_map.mpr ⟨row, present, by simp [apart]⟩, owner⟩
  distinct := (List.nodup_cons.mp pageable.distinct).2
  scores := once.scores

/-- Scoring one customer is a page of one. -/
theorem ScoredOnce.page {rest : List Customer} (pageable : Pageable merchant (customer :: rest) db)
    (once : ScoredOnce merchant customer (snapshot.resolve customer) snapshot.now db next) :
    ScoredPage merchant snapshot [customer.id] db next where
  customers := by
    have stored := (pageable.stored customer List.mem_cons_self).1
    rw [once.customers]
    refine List.map_congr_left fun row member => ?_
    by_cases same : row.id = customer.id
    · obtain rfl := customer_unique member stored same
      rw [settled_of_mem (List.mem_singleton.mpr rfl)]
      by_cases changed : row.state = (snapshot.resolve row).newState
      · rw [if_neg (by simp [changed]), ← changed]
      · rw [if_pos ⟨rfl, changed⟩]
    · rw [if_neg (by simp [same]), settled_of_not_mem (by simpa using same)]
  scored row member listed := by
    have stored := (pageable.stored customer List.mem_cons_self).1
    obtain rfl := customer_unique member stored (List.mem_singleton.mp listed)
    exact once.score
  others customerId apart := once.others customerId (by simpa using apart)
  scores := once.scores
  merchants := once.merchants
  orders := once.orders

/-- One page: it goes through when every transition can be announced. -/
theorem rescorePage_spec (pageable : Pageable merchant rows db) :
    ((∃ next, rescorePage merchant snapshot announced rows db = .ok next) ↔
      ∀ row ∈ rows, publishable merchant announced row (snapshot.resolve row) snapshot.now = true) ∧
    ∀ next, rescorePage merchant snapshot announced rows db = .ok next →
      ScoredPage merchant snapshot (rows.map (·.id)) db next := by
  induction rows generalizing db with
  | nil =>
    refine ⟨by simp [rescorePage], fun next done => ?_⟩
    cases done
    exact .refl pageable.scores
  | cons customer rest ih =>
    have free : ∀ row ∈ db.outboxEvents.rows, row.id ≠ (snapshot.scored customer (cuid db)).eventId := cuid_free db
    have first : (∃ middle, applyScore merchant customer (snapshot.scored customer (cuid db)) announced snapshot.now db =
        .ok middle) ↔ publishable merchant announced customer (snapshot.resolve customer) snapshot.now = true :=
      applyScore_iff pageable.head free
    have step {next : Db} : rescorePage merchant snapshot announced (customer :: rest) db = .ok next ↔
        ∃ middle, applyScore merchant customer (snapshot.scored customer (cuid db)) announced snapshot.now db =
            .ok middle ∧ rescorePage merchant snapshot announced rest middle = .ok next := bind_eq_ok_iff
    have spec {middle : Db} (applied : applyScore merchant customer (snapshot.scored customer (cuid db)) announced
        snapshot.now db = .ok middle) :
        ScoredOnce merchant customer (snapshot.resolve customer) snapshot.now db middle ∧ Pageable merchant rest middle :=
      have once := scoredOnce_of_applyScore pageable.head free applied
      ⟨once, pageable.tail once⟩
    constructor
    · rw [List.forall_mem_cons]
      constructor
      · rintro ⟨next, done⟩
        obtain ⟨middle, applied, later⟩ := step.mp done
        exact ⟨first.mp ⟨middle, applied⟩, (ih (spec applied).2).1.mp ⟨next, later⟩⟩
      · rintro ⟨fine, others⟩
        obtain ⟨middle, applied⟩ := first.mpr fine
        obtain ⟨next, later⟩ := (ih (spec applied).2).1.mpr others
        exact ⟨next, step.mpr ⟨middle, applied, later⟩⟩
    · intro next done
      obtain ⟨middle, applied, later⟩ := step.mp done
      obtain ⟨once, ahead⟩ := spec applied
      exact (once.page pageable).trans ((ih ahead).2 next later)

end Pages

end WinBack.Scoring
