import WinBack.Library.Machine
import WinBack.Scoring.Agreement

/-! The first pass with soft deletes between its pages, crashes and reruns. A page finds
its place by the cursor row; once that row is soft-deleted, the page drops the first
live customer after it instead. -/

namespace WinBack.Scoring.FirstPass

open Library

/-- A pass that has read its merchant and its cohort. -/
structure Running where
  merchant : Merchant
  snapshot : CohortSnapshot
  actorId : String
  batchSize : Nat
  cursor : Option CustomerId := none
  complete : Bool := false
  scored : List CustomerId := []
  batches : Nat := 0

/-- `finished` is the last pass that set the flag, until another pass starts. -/
structure State where
  db : Db
  running : Option Running := none
  finished : Option Running := none

inductive Label where
  | started (actorId : String) (now : Date) (batchSize : Nat)
  | batch
  | finalized
  | crashed
  | deleted (merchantId : MerchantId) (gid : String) (now : Date)

def Running.result (pass : Running) : BulkRescoreResult :=
  ⟨pass.scored.length, pass.batches, pass.snapshot.cohort.length⟩

/-- The pass after a page committed: a page that is not full is the last one. -/
def Running.advance (pass : Running) (rows : List Customer) : Running := { pass with
  cursor := (rows.getLast?.map (·.id)).or pass.cursor
  complete := decide (rows.length < pass.batchSize) || rows.isEmpty
  scored := pass.scored ++ rows.map (·.id)
  batches := pass.batches + 1 }

def Running.page (pass : Running) (db : Db) : List Customer :=
  fetch pass.merchant none pass.batchSize pass.cursor db

/-- One transaction of `bulkRescore` on one merchant, or one of what happens around it. -/
def machine (merchantId : MerchantId) : Machine State Label where
  step state
    | .started actorId now batchSize =>
      if state.running.isNone && decide (0 < batchSize) then
        match begin "bulkRescore" merchantId now state.db with
        | .error _ => none
        | .ok (merchant, snapshot) =>
          some { state with running := some { merchant, snapshot, actorId, batchSize }, finished := none }
      else none
    | .batch =>
      match state.running with
      | none => none
      | some pass =>
        if pass.complete then none
        else
          match rescorePage pass.merchant pass.snapshot none (pass.page state.db) state.db with
          | .error _ => some { state with running := none }
          | .ok next => some { state with db := next, running := some (pass.advance (pass.page state.db)) }
    | .finalized =>
      match state.running with
      | none => none
      | some pass =>
        if pass.complete then some {
          db := initializeScoring pass.merchant pass.actorId pass.snapshot.now pass.result
            pass.snapshot.isInsufficientCohort state.db
          finished := some pass }
        else none
    | .crashed => some { state with running := none }
    | .deleted merchantId gid now =>
      some { state with db := (CustomerRepository.softDelete merchantId gid now state.db).2 }

/-- The page that is read next still finds its cursor row, or nothing lies behind it. -/
def inPlace (state : State) : Bool :=
  state.running.all fun pass => pass.cursor.all fun cursor =>
    (selected pass.merchant.id none state.db).any (·.id == cursor) ||
      (selected pass.merchant.id none state.db).all fun row => decide (row.id ≤ cursor)

/-- Pages are read in place. -/
def inPlaceOnly (state : State) : Label → Bool
  | .batch => inPlace state
  | _ => true

/-- The customer has a score of the pass. -/
def ScoredBy (pass : Running) (db : Db) (customer : Customer) : Prop :=
  customer.id ∈ pass.scored ∧ scoreOf customer.id db =
    some (writtenScore pass.merchant customer.id (pass.snapshot.resolve customer) pass.snapshot.now)

/-- Every live customer up to the cursor has a score of the pass. -/
structure Covers (merchantId : MerchantId) (db : Db) (pass : Running) : Prop where
  own : pass.merchant.id = merchantId
  positive : 0 < pass.batchSize
  scored : ∀ customer ∈ liveCustomers merchantId db,
    (pass.complete = true ∨ ∃ cursor, pass.cursor = some cursor ∧ customer.id ≤ cursor) → ScoredBy pass db customer

structure Invariant (merchantId : MerchantId) (state : State) : Prop where
  exclusive : state.running.isSome = true → state.finished = none
  known : state.db.merchants.any (·.id == merchantId) = true
  scores : ScoresOwned state.db
  running : ∀ pass, state.running = some pass → Covers merchantId state.db pass
  finished : ∀ pass, state.finished = some pass →
    (∀ customer ∈ liveCustomers merchantId state.db, ScoredBy pass state.db customer) ∧
      ∀ merchant ∈ state.db.merchants.rows, merchant.id = merchantId →
        merchant.scoringInitializedAt = some pass.snapshot.now

variable {merchantId : MerchantId} {state next : State} {pass : Running} {customer : Customer} {db later : Db}

section Deletes

/-- A soft delete hides customers and changes nothing about the others. -/
theorem live_of_softDelete {owner : MerchantId} {gid : String} {now : Date}
    (live : customer ∈ liveCustomers merchantId (CustomerRepository.softDelete owner gid now db).2) :
    customer ∈ liveCustomers merchantId db := by
  obtain ⟨stored, named, undeleted, _⟩ := mem_selected.mp live
  obtain ⟨old, present, rfl⟩ := List.mem_map.mp stored
  split at undeleted
  · cases undeleted
  · rename_i untouched
    rw [if_neg untouched] at named ⊢
    exact mem_selected.mpr ⟨present, named, undeleted, rfl⟩

theorem scoresOwned_softDelete {owner : MerchantId} {gid : String} {now : Date} (scores : ScoresOwned db) :
    ScoresOwned (CustomerRepository.softDelete owner gid now db).2 := by
  intro score member customer stored same
  obtain ⟨old, present, rfl⟩ := List.mem_map.mp stored
  split at same
  · rename_i matched
    rw [if_pos matched]
    exact scores score member old present same
  · rename_i unmatched
    rw [if_neg unmatched]
    exact scores score member old present same

theorem invariant_deleted {owner : MerchantId} {gid : String} {now : Date} (invariant : Invariant merchantId state) :
    Invariant merchantId { state with db := (CustomerRepository.softDelete owner gid now state.db).2 } where
  exclusive := invariant.exclusive
  known := invariant.known
  scores := scoresOwned_softDelete invariant.scores
  running pass runs := {
    own := (invariant.running pass runs).own
    positive := (invariant.running pass runs).positive
    scored := fun customer live => (invariant.running pass runs).scored customer (live_of_softDelete live) }
  finished pass done :=
    ⟨fun customer live => (invariant.finished pass done).1 customer (live_of_softDelete live),
      (invariant.finished pass done).2⟩

end Deletes

section Pages

/-- The live customers that the pass has not reached. -/
def Running.ahead (pass : Running) (db : Db) : List Customer :=
  match pass.cursor with
  | none => selected pass.merchant.id none db
  | some cursor => Paging.beyond Customer.id cursor (selected pass.merchant.id none db)

theorem ahead_sublist (pass : Running) (db : Db) : (pass.ahead db).Sublist (selected pass.merchant.id none db) := by
  unfold Running.ahead
  split
  · exact .refl _
  · exact List.filter_sublist

theorem mem_ahead (live : customer ∈ selected pass.merchant.id none db) :
    customer ∈ pass.ahead db ∨ ∃ cursor, pass.cursor = some cursor ∧ customer.id ≤ cursor := by
  unfold Running.ahead
  split
  · exact .inl live
  · rename_i cursor found
    rcases le_or_gt customer.id cursor with reached | after
    · exact .inr ⟨cursor, found, reached⟩
    · exact .inl (List.mem_filter.mpr ⟨live, decide_eq_true after⟩)

/-- A page read in place starts right behind the cursor. -/
theorem page_eq (runs : state.running = some pass) (place : inPlace state = true) :
    pass.page state.db = (pass.ahead state.db).take pass.batchSize := by
  unfold Running.page Running.ahead fetch
  simp only [inPlace, runs, Option.all_some] at place
  cases found : pass.cursor with
  | none => rfl
  | some cursor =>
    simp only [found, Option.all_some, Bool.or_eq_true, List.any_eq_true, List.all_eq_true, beq_iff_eq,
      decide_eq_true_eq] at place
    have sorted := selected_sorted pass.merchant.id none state.db
    by_cases present : cursor ∈ (selected pass.merchant.id none state.db).map Customer.id
    · exact Paging.page_of_mem sorted present
    · have reached : ∀ row ∈ selected pass.merchant.id none state.db, row.id ≤ cursor := by
        refine place.resolve_left fun found => present ?_
        obtain ⟨row, member, same⟩ := found
        exact List.mem_map.mpr ⟨row, member, same⟩
      have nothing : Paging.beyond Customer.id cursor (selected pass.merchant.id none state.db) = [] :=
        List.filter_eq_nil_iff.mpr fun row member => by
          rw [decide_eq_true_eq, not_lt]
          exact reached row member
      change _ = (Paging.beyond Customer.id cursor (selected pass.merchant.id none state.db)).take pass.batchSize
      rw [Paging.page_of_not_mem present, nothing, List.drop_nil]

/-- What a page leaves behind the new cursor was ahead of it and is ahead still. -/
theorem reached_of_page {rows : List Customer} (page : rows = (pass.ahead db).take pass.batchSize)
    (positive : 0 < pass.batchSize) (member : customer ∈ pass.ahead db) (unread : customer ∉ rows)
    (reached : (pass.advance rows).complete = true ∨
      ∃ cursor, (pass.advance rows).cursor = some cursor ∧ customer.id ≤ cursor) : False := by
  have behind : customer ∈ (pass.ahead db).drop pass.batchSize := by
    rw [← List.take_append_drop pass.batchSize (pass.ahead db), List.mem_append, ← page] at member
    exact member.resolve_left unread
  have longer : pass.batchSize < (pass.ahead db).length := by
    have := List.length_pos_of_mem behind
    rw [List.length_drop] at this
    omega
  have full : rows.length = pass.batchSize := by
    rw [page, List.length_take]
    omega
  have nonempty : rows ≠ [] := by
    rintro rfl
    rw [List.length_nil] at full
    omega
  obtain ⟨last, ends⟩ := Option.ne_none_iff_exists'.mp (mt List.getLast?_eq_none_iff.mp nonempty)
  rcases reached with complete | ⟨cursor, moved, before⟩
  · simp only [Running.advance, full, lt_irrefl, decide_false, Bool.false_or, List.isEmpty_iff] at complete
    simp [complete] at ends
  · simp only [Running.advance, ends, Option.map_some, Option.some_or, Option.some.injEq] at moved
    have sorted := (selected_sorted pass.merchant.id none db).sublist (ahead_sublist pass db)
    rw [← List.take_append_drop pass.batchSize (pass.ahead db), List.pairwise_append, ← page] at sorted
    have after := sorted.2.2 last (List.mem_of_getLast? ends) customer behind
    rw [← moved] at before
    exact absurd after (not_lt.mpr before)

/-- A page read in place extends what the pass covers. -/
theorem covers_batch (covers : Covers merchantId state.db pass) (runs : state.running = some pass)
    (place : inPlace state = true)
    (page : ScoredPage pass.merchant pass.snapshot ((pass.page state.db).map (·.id)) state.db later) :
    Covers merchantId later (pass.advance (pass.page state.db)) where
  own := covers.own
  positive := covers.positive
  scored customer live reached := by
    obtain ⟨stored, named, undeleted, _⟩ := mem_selected.mp live
    rw [page.customers] at stored
    obtain ⟨old, present, rfl⟩ := List.mem_map.mp stored
    have same : (settled pass.snapshot ((pass.page state.db).map (·.id)) old).merchantId = old.merchantId ∧
        (settled pass.snapshot ((pass.page state.db).map (·.id)) old).deletedAt = old.deletedAt := by
      unfold settled
      split <;> exact ⟨rfl, rfl⟩
    have found : old ∈ liveCustomers merchantId state.db :=
      mem_selected.mpr ⟨present, same.1 ▸ named, same.2 ▸ undeleted, rfl⟩
    simp only [ScoredBy, Running.advance, settled_id, resolve_settled]
    by_cases read : old.id ∈ (pass.page state.db).map (·.id)
    · exact ⟨List.mem_append.mpr (.inr read), page.scored old present read⟩
    · have unread : old ∉ pass.page state.db := fun member => read (List.mem_map_of_mem member)
      have earlier : ∃ cursor, pass.cursor = some cursor ∧ old.id ≤ cursor := by
        refine (mem_ahead (covers.own ▸ found)).resolve_left fun member => ?_
        rw [settled_id] at reached
        exact reached_of_page (page_eq runs place) covers.positive member unread reached
      obtain ⟨listed, score⟩ := covers.scored old found (.inr earlier)
      exact ⟨List.mem_append.mpr (.inl listed), (page.others old.id read).trans score⟩

end Pages

section Runs

theorem Invariant.ready (invariant : Invariant merchantId state) (covers : Covers merchantId state.db pass) :
    Ready pass.merchant state.db where
  known := covers.own ▸ invariant.known
  scores := invariant.scores

/-- A pass that dies leaves what its pages committed. -/
theorem invariant_crashed (invariant : Invariant merchantId state) :
    Invariant merchantId { state with running := none } where
  exclusive runs := by cases runs
  known := invariant.known
  scores := invariant.scores
  running _ runs := by cases runs
  finished := invariant.finished

theorem invariant_started {actorId : String} {now : Date} {batchSize : Nat} {merchant : Merchant}
    {snapshot : CohortSnapshot} (invariant : Invariant merchantId state) (positive : 0 < batchSize)
    (began : begin "bulkRescore" merchantId now state.db = .ok (merchant, snapshot)) :
    Invariant merchantId { state with running := some { merchant, snapshot, actorId, batchSize }, finished := none } where
  exclusive _ := rfl
  known := invariant.known
  scores := invariant.scores
  running pass runs := by
    cases runs
    have own : merchant.id = merchantId := by
      unfold begin at began
      split at began
      · cases began
      · rename_i found
        obtain ⟨_, _, same⟩ := map_eq_ok_iff.mp began
        cases same
        simpa using (Table.find?_mem found).2
    exact {
      own := own
      positive := positive
      scored := fun _ _ reached => by
        rcases reached with complete | ⟨_, moved, _⟩
        · cases complete
        · cases moved }
  finished _ done := by cases done

theorem invariant_batch (invariant : Invariant merchantId state) (runs : state.running = some pass)
    (place : inPlace state = true)
    (done : rescorePage pass.merchant pass.snapshot none (pass.page state.db) state.db = .ok later) :
    Invariant merchantId { state with db := later, running := some (pass.advance (pass.page state.db)) } := by
  have covers := invariant.running pass runs
  have ready := invariant.ready covers
  have listed : (pass.page state.db).Sublist (selected pass.merchant.id none state.db) := Paging.page_sublist
  have page := (rescorePage_spec (pageable_of_sublist ready.known ready.scores listed)).2 later done
  exact {
    exclusive := fun _ => invariant.exclusive (by rw [runs]; rfl)
    known := by
      rw [page.merchants]
      exact invariant.known
    scores := page.scores
    running := by
      rintro _ ⟨⟩
      exact covers_batch covers runs place page
    finished := fun _ finished => by
      have none : state.finished = none := invariant.exclusive (by rw [runs]; rfl)
      rw [none] at finished
      cases finished }

/-- The flag is set by a pass that has read its last page. -/
theorem invariant_finalized (invariant : Invariant merchantId state) (runs : state.running = some pass)
    (complete : pass.complete = true) :
    Invariant merchantId {
      db := initializeScoring pass.merchant pass.actorId pass.snapshot.now pass.result
        pass.snapshot.isInsufficientCohort state.db
      finished := some pass } := by
  have covers := invariant.running pass runs
  exact {
    exclusive := fun running => by cases running
    known := by
      obtain ⟨merchant, stored, same⟩ := List.any_eq_true.mp invariant.known
      refine List.any_eq_true.mpr ⟨_, List.mem_map.mpr ⟨merchant, stored, rfl⟩, ?_⟩
      split <;> exact same
    scores := invariant.scores
    running := fun _ running => by cases running
    finished := by
      rintro _ ⟨⟩
      refine ⟨fun customer live => covers.scored customer live (.inl complete), fun merchant stored same => ?_⟩
      obtain ⟨old, present, rfl⟩ := List.mem_map.mp stored
      split
      · rfl
      · rename_i other
        rw [if_neg other] at same
        simp [covers.own, same] at other }

/-- One step of a run whose pages are read in place. -/
theorem invariant_step {label : Label} (invariant : Invariant merchantId state)
    (place : inPlaceOnly state label = true) (moved : (machine merchantId).step state label = some next) :
    Invariant merchantId next := by
  cases label with
  | started actorId now batchSize =>
    simp only [machine] at moved
    split at moved
    · rename_i free
      split at moved
      · cases moved
      · rename_i began
        cases moved
        simp only [Bool.and_eq_true, decide_eq_true_eq] at free
        exact invariant_started invariant free.2 began
    · cases moved
  | batch =>
    simp only [machine] at moved
    split at moved
    · cases moved
    · rename_i pass runs
      split at moved
      · cases moved
      · split at moved
        · cases moved
          exact invariant_crashed invariant
        · rename_i later done
          cases moved
          exact invariant_batch invariant runs place done
  | finalized =>
    simp only [machine] at moved
    split at moved
    · cases moved
    · rename_i pass runs
      split at moved
      · rename_i complete
        cases moved
        exact invariant_finalized invariant runs complete
      · cases moved
  | crashed =>
    cases moved
    exact invariant_crashed invariant
  | deleted owner gid now =>
    cases moved
    exact invariant_deleted invariant

/-- Once a pass has set the flag, every customer that is still live has a score that this
pass wrote, in every run whose pages are read in place. -/
theorem first_pass_complete {merchant : Merchant} (known : merchant ∈ db.merchants.rows) (scores : ScoresOwned db)
    (reach : (machine merchant.id).Reach (fun state label => inPlaceOnly state label = true) { db } state)
    (finished : state.finished = some pass) :
    (∀ row ∈ state.db.merchants.rows, row.id = merchant.id → row.scoringInitializedAt = some pass.snapshot.now) ∧
      ∀ customer ∈ liveCustomers merchant.id state.db, customer.id ∈ pass.scored ∧
        scoreOf customer.id state.db =
          some (writtenScore pass.merchant customer.id (pass.snapshot.resolve customer) pass.snapshot.now) := by
  have start : Invariant merchant.id { db } := {
    exclusive := fun _ => rfl
    known := (ready_of_stored known scores).known
    scores := scores
    running := fun _ runs => by cases runs
    finished := fun _ done => by cases done }
  have invariant := reach.invariant start fun _ _ _ place moved invariant => invariant_step invariant place moved
  exact ⟨(invariant.finished pass finished).2, (invariant.finished pass finished).1⟩

end Runs

section ThreeLurkers

def threeLurkers : Db where
  merchants := .single { id := "m", shop := "m.myshopify.com" }
  customers := ⟨[{ id := "a", merchantId := "m", shopifyCustomerId := "1" },
    { id := "b", merchantId := "m", shopifyCustomerId := "2" },
    { id := "c", merchantId := "m", shopifyCustomerId := "3" }], by decide⟩

theorem scoresOwned_threeLurkers : ScoresOwned threeLurkers := by
  intro score member
  cases member

/-- A pass by pages of one, after a crash, with one soft delete behind its first page. -/
def passDeleting (gid : String) : List Label :=
  [.started "operator" 0 1, .batch, .crashed, .started "operator" 1 1, .batch, .deleted "m" gid 2, .batch, .batch,
    .finalized]

def afterwards (allowed : State → Label → Bool) (gid : String) : Option State :=
  (machine "m").runWhere allowed { db := threeLurkers } (passDeleting gid)

theorem first_pass_completes_around_delete :
    ∃ state pass, (machine "m").Reach (fun state label => inPlaceOnly state label = true) { db := threeLurkers } state ∧
      state.finished = some pass ∧
      (∀ row ∈ state.db.merchants.rows, row.id = "m" → row.scoringInitializedAt = some pass.snapshot.now) ∧
      ∀ customer ∈ liveCustomers "m" state.db, customer.id ∈ pass.scored ∧
        scoreOf customer.id state.db =
          some (writtenScore pass.merchant customer.id (pass.snapshot.resolve customer) pass.snapshot.now) := by
  have stored : ({ id := "m", shop := "m.myshopify.com" } : Merchant) ∈ threeLurkers.merchants.rows := by decide
  have done : ((afterwards inPlaceOnly "2").get (by decide)).finished.isSome = true := by decide
  have reach := Machine.reach_get (show (afterwards inPlaceOnly "2").isSome = true by decide)
  have finished := (Option.some_get done).symm
  exact ⟨_, _, reach, finished, first_pass_complete stored scoresOwned_threeLurkers reach finished⟩

/-- A pass by pages of one that loses its first cursor row. -/
def skipping : Option State :=
  (machine "m").runWhere (fun _ _ => true) { db := threeLurkers }
    [.started "operator" 0 1, .batch, .deleted "m" "1" 2, .batch, .batch, .finalized]

/-- The soft delete hits the cursor row: the second customer is dropped and stays unscored. -/
theorem first_pass_skips_after_cursor_delete :
    ¬∀ (merchant : Merchant) (db : Db) (state : State) (pass : Running), merchant ∈ db.merchants.rows → ScoresOwned db →
      (machine merchant.id).Reach (fun _ _ => True) { db } state → state.finished = some pass →
      ∀ customer ∈ liveCustomers merchant.id state.db, (scoreOf customer.id state.db).isSome = true := by
  intro claim
  have done : (skipping.get (by decide)).finished.isSome = true := by decide
  have reach := Machine.reach_get (show skipping.isSome = true by decide)
  have scored := claim { id := "m", shop := "m.myshopify.com" } threeLurkers _ _ (by decide) scoresOwned_threeLurkers
    (reach.mono fun _ _ _ => trivial) (Option.some_get done).symm
  exact absurd scored (by decide)

end ThreeLurkers

end WinBack.Scoring.FirstPass
