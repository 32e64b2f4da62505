import WinBack.Scoring.Announced
import WinBack.Scoring.Webhooks

/-! When the scores reflect the committed orders. An order webhook scores the one customer that
its order is linked to now, by the cohort that it could see. -/

namespace WinBack.Scoring.Webhooks

open Library CustomerScoreRepository CustomerScoreService

variable {merchantId : MerchantId} {customerId : CustomerId} {now : Date} {value : Int → Int} {gid newId : String}
  {body : ShopifyOrderWebhookBody} {status : Option OrderFinancialStatus} {link : Option CustomerId} {db after : Db}

section Weights

/-- What an order adds to an aggregate of the customer. -/
def weigh (merchantId : MerchantId) (now : Date) (customerId : CustomerId) (value : Int → Int) (order : Order) : Int :=
  if counted merchantId now order && order.customerId == some customerId then value order.totalAmountCents else 0

theorem weigh_apart {order : Order} (apart : order.customerId ≠ some customerId) :
    weigh merchantId now customerId value order = 0 := by simp [weigh, apart]

theorem sum_ordersOf : ((ordersOf merchantId now customerId db).map fun order => value order.totalAmountCents).sum =
    db.orders.total (weigh merchantId now customerId value) := by
  unfold ordersOf Table.total
  induction db.orders.rows with
  | nil => rfl
  | cons order rest ih =>
    rw [List.filter_cons, List.map_cons, List.sum_cons, ← ih, weigh]
    split
    · rw [List.map_cons, List.sum_cons]
    · rw [zero_add]

theorem length_ordersOf : ((ordersOf merchantId now customerId db).length : Int) =
    db.orders.total (weigh merchantId now customerId fun _ => 1) := by
  rw [← sum_ordersOf]
  simp

/-- The aggregate without the order itself. -/
def weighOthers (merchantId : MerchantId) (gid : String) (now : Date) (customerId : CustomerId) (value : Int → Int)
    (order : Order) : Int :=
  if OrderRepository.named merchantId gid order then 0 else weigh merchantId now customerId value order

/-- What the order adds once it is written. -/
def share (merchantId : MerchantId) (body : ShopifyOrderWebhookBody) (status : Option OrderFinancialStatus)
    (now : Date) (customerId : CustomerId) (value : Int → Int) : Int :=
  weigh merchantId now customerId value (OrderRepository.write body status (some customerId)
    { id := "", merchantId, shopifyOrderId := "", customerId := none, placedAt := 0 })

theorem named_pins (first second : Order) (here : OrderRepository.named merchantId gid first = true)
    (there : OrderRepository.named merchantId gid second = true) :
    Indexed.clash (Indexed.index first) (Indexed.index second) = true := by
  simp only [OrderRepository.named, Bool.and_eq_true, beq_iff_eq] at here there
  simp [Indexed.clash, Indexed.index, here, there]

theorem total_write {measure : Order → Int} {row : Order} (stored : row ∈ db.orders.rows)
    (matched : OrderRepository.named merchantId gid row = true) :
    (db.orders.updateMany (OrderRepository.named merchantId gid) (OrderRepository.write body status link) fun _ => rfl).total
        measure =
      db.orders.total measure + (measure (OrderRepository.write body status link row) - measure row) :=
  Table.total_updateMany named_pins stored matched

theorem weigh_write {row : Order} (owner : row.merchantId = merchantId) :
    weigh merchantId now customerId value (OrderRepository.write body status (some customerId) row) =
      share merchantId body status now customerId value := by
  unfold share weigh counted OrderRepository.write
  rw [owner]

/-- An aggregate of the customer after an order was linked to it. -/
theorem place_total {orderId : String}
    (placed : OrderRepository.place merchantId gid body status (some customerId) newId db = .ok (orderId, after)) :
    after.orders.total (weigh merchantId now customerId value) =
      db.orders.total (weighOthers merchantId gid now customerId value) +
        share merchantId body status now customerId value := by
  unfold OrderRepository.place at placed
  split at placed
  · rename_i row found
    cases placed
    obtain ⟨stored, matched⟩ := Table.find?_mem found
    have owner : row.merchantId = merchantId := by
      simp only [OrderRepository.named, Bool.and_eq_true, beq_iff_eq] at matched
      exact matched.1
    refine (total_write stored matched).trans ?_
    rw [Table.total_pinned named_pins stored matched, weigh_write owner]
    unfold weighOthers
    omega
  · rename_i missing
    split at placed
    · cases placed
    · rename_i orders inserted
      split at placed
      · cases placed
        have unnamed : db.orders.total (weighOthers merchantId gid now customerId value) =
            db.orders.total (weigh merchantId now customerId value) :=
          Table.total_congr fun row member => if_neg (by simpa using Table.find?_none_iff.mp missing row member)
        dsimp only
        rw [Table.total_insert? inserted, unnamed]
        exact congrArg _ (weigh_write rfl)
      · cases placed

/-- An order that was and is linked to others leaves every aggregate of the customer. -/
theorem place_apart {orderId : String} {measure : Order → Int}
    (own : ∀ order, order.customerId ≠ some customerId → measure order = 0)
    (before : (db.orders.find? (OrderRepository.named merchantId gid)).bind (·.customerId) ≠ some customerId)
    (later : link ≠ some customerId)
    (placed : OrderRepository.place merchantId gid body status link newId db = .ok (orderId, after)) :
    after.orders.total measure = db.orders.total measure := by
  unfold OrderRepository.place at placed
  split at placed
  · rename_i row found
    cases placed
    obtain ⟨stored, matched⟩ := Table.find?_mem found
    have was : row.customerId ≠ some customerId := by simpa [found] using before
    have writes : measure (OrderRepository.write body status link row) = 0 := own _ later
    refine (total_write stored matched).trans ?_
    rw [writes, own row was]
    omega
  · split at placed
    · cases placed
    · rename_i orders inserted
      split at placed
      · cases placed
        have writes := own (OrderRepository.write body status link
          { id := newId, merchantId, shopifyOrderId := gid, customerId := link, placedAt := body.createdAt }) later
        dsimp only
        rw [Table.total_insert? inserted, writes, add_zero]
      · cases placed

theorem weighOthers_apart {order : Order} (apart : order.customerId ≠ some customerId) :
    weighOthers merchantId gid now customerId value order = 0 := by
  unfold weighOthers
  rw [weigh_apart apart]
  split <;> rfl

end Weights

section Scores

variable {merchant : Merchant} {customer : Customer} {scored : Scored} {announced : Option Announcement}

/-- The customer is here and not soft-deleted. -/
def live (customerId : CustomerId) (db : Db) : Bool :=
  (db.customers.find? fun row => row.id == customerId && row.deletedAt == none).isSome

/-- The score of the customer counts its orders in the window that the score was computed for. -/
def Reflected (merchantId : MerchantId) (customerId : CustomerId) (db : Db) : Prop :=
  ∃ score, scoreOf customerId db = some score ∧
    score.fCount = (ordersOf merchantId score.computedAt customerId db).length ∧
    score.mCents = ((ordersOf merchantId score.computedAt customerId db).map (·.totalAmountCents)).sum

theorem updateState_live {state : CustomerState} (updated : updateState merchantId customerId state db = .ok after)
    (other : CustomerId) : live other after = live other db := by
  unfold updateState at updated
  dsimp only at updated
  split at updated
  · cases updated
    unfold live
    dsimp only
    rw [Table.find?_updateMany]
    · exact Option.isSome_map
    · exact fun _ => rfl
  · cases updated

/-- What a scoring does to scores, orders and liveness. -/
theorem applyScore_scores (applied : applyScore merchant customer scored announced now db = .ok after) :
    after.orders = db.orders ∧ (∀ other, live other after = live other db) ∧
      (∃ row, scoreOf customer.id after = some row ∧ row.fCount = scored.score.fCount ∧
        row.mCents = scored.score.mCents ∧ row.computedAt = now) ∧
      ∀ other, other ≠ customer.id → scoreOf other after = scoreOf other db := by
  obtain ⟨upserted, written, rest⟩ := bind_eq_ok_iff.mp applied
  have own : ∃ row, scoreOf customer.id upserted = some row ∧ row.fCount = scored.score.fCount ∧
      row.mCents = scored.score.mCents ∧ row.computedAt = now := ⟨_, scoreOf_upsertScore written, rfl, rfl, rfl⟩
  have others : ∀ other, other ≠ customer.id → scoreOf other upserted = scoreOf other db :=
    fun _ => scoreOf_upsertScore_other written
  obtain ⟨customerScores, rfl⟩ := upsertScore_frame written
  split at rest
  · cases rest
    exact ⟨rfl, fun _ => rfl, own, others⟩
  · obtain ⟨middle, updated, last⟩ := bind_eq_ok_iff.mp rest
    have alive := updateState_live updated
    obtain ⟨customers, rfl, _⟩ := updateState_cases updated
    split at last
    · obtain ⟨⟨outboxEvents, auditLogs, rfl⟩, _⟩ := emit_transitions last
      exact ⟨rfl, alive, own, others⟩
    · cases last
      exact ⟨rfl, alive, own, others⟩

end Scores

section Tasks

variable {log entries : List Entry} {task next : Task} {world : World} {page : Page} {customer : Customer}

/-- The order was or is linked to the customer. -/
def Entry.concerns (customerId : CustomerId) : Entry → Bool
  | .placed before after => before == some customerId || after == some customerId
  | .scored _ => false

/-- The order that is written is linked to no other customer, and no order of its customer was
written since the cohort was read. -/
def Task.inStep (world : World) (task : Task) : Bool :=
  ((task.placements world.db).all fun entry =>
    match entry with
    | .placed before after => before == none || before == after
    | .scored _ => true) &&
  match task.stage with
  | .writing page => page.customers.all fun customer =>
      (world.log.drop page.cohortAt).all fun entry => !entry.concerns customer.id
  | _ => true

/-- The aggregate that a score of the customer should show once the order is written. -/
def expected (merchantId : MerchantId) (gid : String) (body : ShopifyOrderWebhookBody)
    (status : Option OrderFinancialStatus) (now : Date) (customerId : CustomerId) (value : Int → Int) (db : Db) : Int :=
  db.orders.total (weighOthers merchantId gid now customerId value) + share merchantId body status now customerId value

/-- The task writes an order that it links to the customer. -/
def Task.Links (merchantId : MerchantId) (customerId : CustomerId) (task : Task) : Prop :=
  ∃ gid body status newId, task.write = some (.order merchantId gid body status (some customerId) newId)

/-- What a page shows of its customer, as long as no other order of it is written. -/
def Page.Shows (merchantId : MerchantId) (db : Db) (log : List Entry) (task : Task) (page : Page) : Prop :=
  ∃ customer gid body status newId, page.customers = [customer] ∧ page.sweep = none ∧
    task.write = some (.order merchantId gid body status (some customer.id) newId) ∧ page.cohortAt ≤ log.length ∧
    ((∀ entry ∈ log.drop page.cohortAt, entry.concerns customer.id = false) →
      (page.snapshot.resolve customer).fCount =
          expected merchantId gid body status page.snapshot.now customer.id (fun _ => 1) db ∧
        (page.snapshot.resolve customer).mCents =
          expected merchantId gid body status page.snapshot.now customer.id (fun amount => amount) db)

/-- How far an order webhook is. -/
def Task.Follows (merchantId : MerchantId) (db : Db) (log : List Entry) (task : Task) : Prop :=
  match task.stage with
  | .upserting (.order owner _ _ _ _ _) _ => owner = merchantId ∧ task.write = none
  | .locating owner customerId _ => owner = merchantId ∧ task.Links merchantId customerId
  | .recomputing owner customer _ _ _ => owner = merchantId ∧ task.Links merchantId customer.id
  | .writing page => page.Shows merchantId db log task
  | .written => ∃ gid body status link newId, task.write = some (.order merchantId gid body status link newId) ∧
      ∀ customerId ∈ link, live customerId db = false
  | _ => False

/-- A commit that leaves liveness, and the orders of the customers that it does not concern. -/
structure Apart (entries : List Entry) (db after : Db) : Prop where
  live : ∀ customerId, live customerId after = live customerId db
  orders : ∀ customerId, (∀ entry ∈ entries, entry.concerns customerId = false) → ∀ measure : Order → Int,
    (∀ order, order.customerId ≠ some customerId → measure order = 0) → after.orders.total measure = db.orders.total measure
  scores : ∀ customerId, (∀ entry ∈ entries, entry.concerns customerId = false) →
    scoreOf customerId after = scoreOf customerId db

theorem Task.Follows.grow (follows : task.Follows merchantId db log) (apart : Apart entries db after) :
    task.Follows merchantId after (log ++ entries) := by
  unfold Task.Follows at follows ⊢
  split at follows
  · exact follows
  · exact follows
  · exact follows
  · obtain ⟨customer, gid, body, status, newId, rows, single, write, early, shows⟩ := follows
    refine ⟨customer, gid, body, status, newId, rows, single, write, ?_, fun quiet => ?_⟩
    · rw [List.length_append]
      exact Nat.le_add_right_of_le early
    · rw [List.drop_append_of_le_length early] at quiet
      have same (now : Date) (value : Int → Int) := apart.orders customer.id
        (fun entry member => quiet entry (List.mem_append_right _ member))
        (weighOthers merchantId gid now customer.id value) fun _ => weighOthers_apart
      have kept := shows fun entry member => quiet entry (List.mem_append_left _ member)
      unfold expected at kept ⊢
      rwa [same, same]
  · obtain ⟨gid, body, status, link, newId, write, dead⟩ := follows
    exact ⟨gid, body, status, link, newId, write, fun customerId linked =>
      (apart.live customerId).trans (dead customerId linked)⟩
  · exact follows

/-- What a linking task sees. -/
theorem Task.Links.own (links : task.Links merchantId customerId) {own : Db} (sees : task.own db = .ok own) :
    ∃ gid body status newId orderId, task.write = some (.order merchantId gid body status (some customerId) newId) ∧
      OrderRepository.place merchantId gid body status (some customerId) newId db = .ok (orderId, own) := by
  obtain ⟨gid, body, status, newId, write⟩ := links
  unfold Task.own at sees
  rw [write] at sees
  obtain ⟨⟨scored, middle⟩, performed, same⟩ := map_eq_ok_iff.mp sees
  obtain ⟨⟨orderId, other⟩, placed, equal⟩ := map_eq_ok_iff.mp performed
  cases same
  cases equal
  exact ⟨gid, body, status, newId, orderId, write, placed⟩

theorem Task.Follows.read (follows : task.Follows merchantId db log) (moved : task.read log.length db = some next) :
    next.Follows merchantId db log := by
  obtain ⟨own, sees, step⟩ := Option.bind_eq_some_iff.mp moved
  have owned : task.own db = .ok own := toOption_eq_some_iff.mp sees
  unfold Task.Follows at follows
  split at follows
  · rename_i owner gid body status link newId now stage
    obtain ⟨rfl, fresh⟩ := follows
    rw [stage] at step
    obtain ⟨⟨scored, after⟩, performed, rfl⟩ := Option.map_eq_some_iff.mp step
    obtain ⟨⟨orderId, other⟩, placed, equal⟩ := map_eq_ok_iff.mp (toOption_eq_some_iff.mp performed)
    cases equal
    cases link with
    | none => exact ⟨gid, body, status, none, newId, rfl, fun customerId linked => by cases linked⟩
    | some customerId => exact ⟨rfl, gid, body, status, newId, rfl⟩
  · rename_i owner customerId now stage
    obtain ⟨rfl, links⟩ := follows
    obtain ⟨gid, body, status, newId, orderId, write, placed⟩ := links.own owned
    obtain ⟨orders, rfl⟩ := place_frame placed
    rw [stage] at step
    dsimp only at step
    split at step
    · rename_i missing
      cases step
      refine ⟨gid, body, status, some customerId, newId, write, fun other linked => ?_⟩
      cases linked
      exact (congrArg Option.isSome missing).trans rfl
    · rename_i customer found
      cases step
      have about : customer.id = customerId := by simpa using (Bool.and_eq_true_iff.mp (Table.find?_mem found).2).1
      exact ⟨rfl, gid, body, status, newId, about ▸ write⟩
  · rename_i owner customer now merchant readAt stage
    obtain ⟨rfl, links⟩ := follows
    rw [stage] at step
    dsimp only at step
    cases merchant with
    | none =>
      obtain ⟨merchant, _, rfl⟩ := Option.map_eq_some_iff.mp step
      exact ⟨rfl, links⟩
    | some merchant =>
      obtain ⟨gid, body, status, newId, orderId, write, placed⟩ := links.own owned
      obtain ⟨snapshot, reads, rfl⟩ := Option.map_eq_some_iff.mp step
      rw [read_eq] at reads
      cases reads
      refine ⟨customer, gid, body, status, newId, rfl, rfl, write, le_rfl, fun _ => ?_⟩
      obtain ⟨_, count, sum⟩ := @scoreFor_aggregates owner customer now own
      refine ⟨count.trans ?_, sum.trans ?_⟩
      · rw [length_ordersOf, place_total placed]
        rfl
      · exact (@sum_ordersOf owner customer.id now (fun amount => amount) own).trans (place_total placed)
  · rename_i page stage
    rw [stage] at step
    cases step
    unfold Task.Follows
    rw [stage]
    exact follows
  · rename_i stage
    rw [stage] at step
    cases step
    unfold Task.Follows
    rw [stage]
    exact follows
  · exact follows.elim

/-- What an order webhook commits: its order, and the score of the customer it links it to. -/
theorem Task.Follows.commits (follows : task.Follows merchantId db log) (done : task.commit? db = some (.ok after)) :
    ∃ gid body status link newId orderId own, task.write = some (.order merchantId gid body status link newId) ∧
      OrderRepository.place merchantId gid body status link newId db = .ok (orderId, own) ∧
      after.orders = own.orders ∧ (∀ other, live other after = live other db) ∧
      (∀ other, some other ≠ link → scoreOf other after = scoreOf other db) ∧
      ∀ customerId ∈ link, live customerId db = false ∨ ∃ page row, task.stage = .writing page ∧
        scoreOf customerId after = some row ∧ row.computedAt = page.snapshot.now ∧ page.Shows merchantId db log task ∧
        ∃ customer ∈ page.customers, customer.id = customerId ∧ row.fCount = (page.snapshot.resolve customer).fCount ∧
          row.mCents = (page.snapshot.resolve customer).mCents := by
  unfold Task.commit? at done
  unfold Task.Follows at follows
  split at done
  · rename_i stage
    simp only [stage] at follows
    obtain ⟨gid, body, status, link, newId, write, dead⟩ := follows
    have own := Option.some.inj done
    unfold Task.own at own
    rw [write] at own
    obtain ⟨⟨scored, middle⟩, performed, same⟩ := map_eq_ok_iff.mp own
    obtain ⟨⟨orderId, other⟩, placed, equal⟩ := map_eq_ok_iff.mp performed
    cases same
    cases equal
    refine ⟨gid, body, status, link, newId, orderId, _, write, placed, rfl, ?_, ?_,
      fun customerId linked => .inl (dead customerId linked)⟩
    · obtain ⟨orders, rfl⟩ := place_frame placed
      exact fun _ => rfl
    · obtain ⟨orders, rfl⟩ := place_frame placed
      exact fun _ _ => rfl
  · rename_i page stage
    simp only [stage] at follows
    have shows := follows
    obtain ⟨customer, gid, body, status, newId, rows, single, write, _⟩ := follows
    obtain ⟨own, sees, scored⟩ := bind_eq_ok_iff.mp (Option.some.inj done)
    have links : task.Links merchantId customer.id := ⟨gid, body, status, newId, write⟩
    obtain ⟨gid', body', status', newId', orderId, write', placed⟩ := links.own sees
    rw [rows] at scored
    obtain ⟨middle, applied, rest⟩ := bind_eq_ok_iff.mp scored
    cases rest
    obtain ⟨orders, alive, ⟨row, found, count, sum, computed⟩, others⟩ := applyScore_scores applied
    refine ⟨gid', body', status', some customer.id, newId', orderId, own, write', placed, orders, fun other => ?_,
      fun other apart => ?_, fun customerId linked => ?_⟩
    · rw [alive]
      obtain ⟨placedOrders, rfl⟩ := place_frame placed
      rfl
    · rw [others other fun same => apart (congrArg some same)]
      obtain ⟨placedOrders, rfl⟩ := place_frame placed
      rfl
    · cases linked
      exact .inr ⟨page, row, stage, found, computed, shows, customer, rows ▸ List.mem_singleton_self _, rfl, count, sum⟩
  · cases done

theorem Task.Follows.apart (follows : task.Follows merchantId db log) (done : task.commit? db = some (.ok after)) :
    Apart (task.entries db) db after := by
  obtain ⟨gid, body, status, link, newId, orderId, own, write, placed, orders, alive, scores, _⟩ := follows.commits done
  have logged : .placed (Write.linked? db (.order merchantId gid body status link newId)) link ∈ task.entries db := by
    apply List.mem_append_left
    simp [Task.placements, write]
  have unlinked {customerId : CustomerId} (quiet : ∀ entry ∈ task.entries db, entry.concerns customerId = false) :
      Write.linked? db (.order merchantId gid body status link newId) ≠ some customerId ∧ link ≠ some customerId := by
    have neither := quiet _ logged
    simpa only [Entry.concerns, Bool.or_eq_false_iff, beq_eq_false_iff_ne] using neither
  exact {
    live := alive
    orders := fun customerId quiet measure own => by
      rw [orders]
      exact place_apart own (unlinked quiet).1 (unlinked quiet).2 placed
    scores := fun customerId quiet => scores customerId (Ne.symm (unlinked quiet).2) }

/-- Reflected scores stay so while no order of the customer is written. -/
theorem Reflected.kept (reflected : Reflected merchantId customerId db) (apart : Apart entries db after)
    (quiet : ∀ entry ∈ entries, entry.concerns customerId = false) : Reflected merchantId customerId after := by
  obtain ⟨score, found, count, sum⟩ := reflected
  have same (value : Int → Int) := apart.orders customerId quiet (weigh merchantId score.computedAt customerId value)
    fun _ => weigh_apart
  refine ⟨score, (apart.scores customerId quiet).trans found, ?_, ?_⟩
  · rw [length_ordersOf, same, ← length_ordersOf, count]
  · exact sum.trans (sum_ordersOf.trans ((same fun amount => amount).symm.trans sum_ordersOf.symm))

/-- An order webhook that is in step leaves the score of its customer reflected. -/
theorem Task.Follows.reflects (follows : task.Follows merchantId world.db world.log)
    (inStep : task.inStep world = true) (done : task.commit? world.db = some (.ok after))
    (concerned : ∃ entry ∈ task.entries world.db, entry.concerns customerId = true)
    (alive : live customerId after = true) : Reflected merchantId customerId after := by
  obtain ⟨gid, body, status, link, newId, orderId, own, write, placed, orders, lives, _, scores⟩ := follows.commits done
  obtain ⟨linked, timely⟩ := Bool.and_eq_true_iff.mp inStep
  have placements : task.placements world.db =
      [.placed (Write.linked? world.db (.order merchantId gid body status link newId)) link] := by
    simp [Task.placements, write]
  have here : link = some customerId := by
    obtain ⟨entry, member, concerns⟩ := concerned
    rcases List.mem_append.mp member with placement | scoring
    · rw [placements, List.mem_singleton] at placement
      subst placement
      simp only [placements, List.all_cons, List.all_nil, Bool.and_true, Bool.or_eq_true, beq_iff_eq] at linked
      simp only [Entry.concerns, Bool.or_eq_true, beq_iff_eq] at concerns
      rcases concerns with before | now
      · rcases linked with none | same
        · rw [none] at before
          cases before
        · exact same.symm.trans before
      · exact now
    · unfold Task.scorings at scoring
      split at scoring
      · obtain ⟨row, _, rfl⟩ := List.mem_map.mp scoring
        cases concerns
      · cases scoring
  rcases scores customerId here with dead | ⟨page, row, stage, found, computed, shows, customer, member, rfl, count, sum⟩
  · rw [lives, dead] at alive
    cases alive
  · obtain ⟨other, gid', body', status', newId', rows, _, write', _, exact_⟩ := shows
    rw [rows, List.mem_singleton] at member
    subst member
    rw [write] at write'
    cases write'
    rw [stage] at timely
    have quiet : ∀ entry ∈ world.log.drop page.cohortAt, entry.concerns customer.id = false := by
      simpa [rows] using timely
    obtain ⟨shownCount, shownSum⟩ := exact_ quiet
    refine ⟨row, found, ?_, ?_⟩
    · rw [count, shownCount, length_ordersOf, orders, computed, place_total placed]
      rfl
    · rw [sum, shownSum]
      refine ((@sum_ordersOf merchantId customer.id row.computedAt (fun amount => amount) after).trans ?_).symm
      rw [orders, computed, place_total placed]
      rfl

end Tasks

section Runs

variable {world last : World} {task : Task} {slot : Nat} {label : Label} {log entries : List Entry}

/-- The steps of order webhooks of one merchant. -/
def ordersOnly (merchantId : MerchantId) : Label → Bool
  | .orderEvent owner _ _ _ => owner == merchantId
  | .read _ | .commit _ | .abort _ => true
  | _ => false

/-- They commit in step with each other. -/
def inStep (merchantId : MerchantId) (world : World) (label : Label) : Bool :=
  ordersOnly merchantId label &&
    match label with
    | .commit slot => (world.tasks.task? slot).all (Task.inStep world)
    | _ => true

/-- An order of the customer was written in the run. -/
def Touched (customerId : CustomerId) (log : List Entry) : Prop := ∃ entry ∈ log, entry.concerns customerId = true

structure Reflecting (merchantId : MerchantId) (world : World) : Prop where
  scores : ∀ customerId, Touched customerId world.log → live customerId world.db = true →
    Reflected merchantId customerId world.db
  tasks : world.tasks.Every (Task.Follows merchantId world.db world.log)

theorem Reflecting.settle (reflecting : Reflecting merchantId world) {next : Option Task}
    (follows : ∀ task ∈ next, task.Follows merchantId world.db world.log) (slot : Nat) :
    Reflecting merchantId (world.settle slot next) where
  scores := reflecting.scores
  tasks := by
    cases next with
    | none => exact reflecting.tasks.clear
    | some task => exact reflecting.tasks.put (follows task rfl)

theorem Reflecting.committed (reflecting : Reflecting merchantId world)
    (follows : task.Follows merchantId world.db world.log) (timely : task.inStep world = true)
    (done : task.commit? world.db = some (.ok after)) :
    Reflecting merchantId { world with db := after, log := world.log ++ task.entries world.db } where
  scores customerId touched alive := by
    have apart := follows.apart done
    by_cases concerned : ∃ entry ∈ task.entries world.db, entry.concerns customerId = true
    · exact follows.reflects timely done concerned alive
    · have quiet : ∀ entry ∈ task.entries world.db, entry.concerns customerId = false := fun entry member =>
        Bool.eq_false_iff.mpr fun concerns => concerned ⟨entry, member, concerns⟩
      obtain ⟨entry, member, concerns⟩ := touched
      have before : entry ∈ world.log := (List.mem_append.mp member).resolve_right fun added =>
        concerned ⟨entry, added, concerns⟩
      exact (reflecting.scores customerId ⟨entry, before, concerns⟩ ((apart.live customerId).symm.trans alive)).kept apart
        quiet
  tasks other member := (reflecting.tasks other member).grow (follows.apart done)

theorem Task.Follows.next? (follows : task.Follows merchantId db log) : task.next? = none := by
  unfold Task.next?
  unfold Task.Follows at follows
  split
  · rename_i page stage
    rw [stage] at follows
    obtain ⟨customer, gid, body, status, newId, rows, single, _⟩ := follows
    rw [single]
  · rfl

theorem Reflecting.step (reflecting : Reflecting merchantId world) (timely : inStep merchantId world label = true)
    (stepped : machine.step world label = some last) : Reflecting merchantId last := by
  obtain ⟨ours, timely⟩ := Bool.and_eq_true_iff.mp timely
  cases label with
  | orderEvent owner body newId now =>
    simp only [machine] at stepped
    split at stepped
    · cases stepped
      exact {
        scores := reflecting.scores
        tasks := reflecting.tasks.spawn ⟨beq_iff_eq.mp ours, rfl⟩ }
    · cases stepped
      exact reflecting
  | read slot =>
    obtain ⟨task, live, rfl⟩ := Option.map_eq_some_iff.mp stepped
    exact reflecting.settle (fun next moved => (reflecting.tasks.get live).read moved) slot
  | commit slot =>
    obtain ⟨task, live, finished⟩ := Option.bind_eq_some_iff.mp stepped
    obtain ⟨result, done, rfl⟩ := Option.map_eq_some_iff.mp finished
    have follows := reflecting.tasks.get live
    cases result with
    | error error => exact reflecting.settle (fun _ more => by cases more) slot
    | ok after =>
      have ready : task.inStep world = true := by simpa [live] using timely
      refine (reflecting.committed follows ready done).settle (fun next more => ?_) slot
      rw [follows.next?] at more
      cases more
  | abort slot =>
    cases stepped
    exact reflecting.settle (fun _ more => by cases more) slot
  | customerEvent | recompute | bulkRescore | decayRescore | customersBackfilled | ordersBackfilled | elsewhere =>
    cases ours

/-- In every run of order webhooks of a merchant in which each commits on an order that no other
customer has, and with its customer's other orders as its cohort showed them, the score of
every live customer whose order was written counts what is committed. -/
theorem scores_reflect_orders (reach : machine.Reach (fun world label => inStep merchantId world label = true) { db } world)
    (touched : Touched customerId world.log) (alive : live customerId world.db = true) :
    Reflected merchantId customerId world.db := by
  have start : Reflecting merchantId { db } := {
    scores := fun _ touched => by
      obtain ⟨_, member, _⟩ := touched
      cases member
    tasks := fun _ member => by cases member }
  have reflecting := reach.invariant start fun _ _ _ timely stepped reflecting => reflecting.step timely stepped
  exact reflecting.scores customerId touched alive

end Runs

section TwoOrders

def boughtBy (number customer : String) : ShopifyOrderWebhookBody where
  id := .text number
  customer := some (.text customer)
  financialStatus := some "paid"
  totalAmountCents := 100
  createdAt := 0

/-- Two more orders of a customer, the second after the first has committed. -/
def ordersInTurn : List Label :=
  [.orderEvent "m" (boughtBy "11" "1") "x" 0, .read 0, .read 0, .read 0, .read 0, .commit 0,
    .orderEvent "m" (boughtBy "12" "1") "y" 0, .read 1, .read 1, .read 1, .read 1, .commit 1]

/-- Both read the cohort before either commits. -/
def ordersTogether : List Label :=
  [.orderEvent "m" (boughtBy "11" "1") "x" 0, .read 0, .read 0, .read 0, .read 0,
    .orderEvent "m" (boughtBy "12" "1") "y" 0, .read 1, .read 1, .read 1, .read 1, .commit 0, .commit 1]

def bought? (check : World → Label → Bool) (labels : List Label) : Option World :=
  machine.runWhere check { db := lapsed } labels

theorem bought_in_turn : (bought? (inStep "m") ordersInTurn).isSome = true := by decide

theorem bought_together : (bought? (fun _ label => ordersOnly "m" label) ordersTogether).isSome = true := by decide

/-- With the order that was there before the customer has three. -/
theorem scores_reflect_three : ∃ world score, bought? (inStep "m") ordersInTurn = some world ∧
    scoreOf "a" world.db = some score ∧ score.fCount = 3 ∧ Reflected "m" "a" world.db := by
  have reflected := scores_reflect_orders (Machine.reach_get bought_in_turn)
    (show Touched "a" ((bought? (inStep "m") ordersInTurn).get bought_in_turn).log by unfold Touched; decide)
    (by decide)
  have count : (scoreOf "a" ((bought? (inStep "m") ordersInTurn).get bought_in_turn).db).map (·.fCount) = some 3 := by
    decide
  obtain ⟨score, found, three⟩ := Option.map_eq_some_iff.mp count
  exact ⟨_, score, (Option.some_get bought_in_turn).symm, found, three, reflected⟩

/-- Each counts itself and the order before: the score stays at two. -/
theorem score_misses_an_order :
    ¬∀ (merchantId : MerchantId) (customerId : CustomerId) (db : Db) (world : World),
      machine.Reach (fun _ label => ordersOnly merchantId label = true) { db } world →
      world.tasks.all Option.isNone = true → Touched customerId world.log → live customerId world.db = true →
      Reflected merchantId customerId world.db := by
  intro claim
  obtain ⟨score, found, count, _⟩ := claim "m" "a" lapsed _ (Machine.reach_get bought_together) (by decide)
    (by unfold Touched; decide) (by decide)
  have two : (scoreOf "a" ((bought? (fun _ label => ordersOnly "m" label) ordersTogether).get bought_together).db).map
      (fun score => (score.fCount, score.computedAt)) = some (2, 0) := by decide
  obtain ⟨same, start⟩ := Prod.mk.inj (Option.some.inj ((congrArg (Option.map fun score : CustomerScore =>
    (score.fCount, score.computedAt)) found).symm.trans two))
  rw [same, start] at count
  exact absurd count (by decide)

end TwoOrders

end WinBack.Scoring.Webhooks
