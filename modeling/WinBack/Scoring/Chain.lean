import WinBack.Scoring.Transactions

/-! The announced transitions of one customer. A transaction announces the band that it
read as the old one, and writes the new one whatever the row holds by then. -/

namespace WinBack.Scoring

open Library CustomerScoreService

/-- The transition that a payload announces. -/
def payloadMove (payload : Json) : Option (Move CustomerState) :=
  match payload.get? "oldState", payload.get? "newState" with
  | some (.str oldState), some (.str newState) =>
    (CustomerState.ofText? oldState).bind fun oldState =>
      (CustomerState.ofText? newState).map fun newState => ⟨oldState, newState⟩
  | _, _ => none

/-- The transition of the customer that an event announces. -/
def transition (customerId : CustomerId) (row : OutboxEvent) : Option (Move CustomerState) :=
  if row.type = stateChangedType ∧ (payloadCustomer row.payload).map Prod.fst = some customerId then
    payloadMove row.payload
  else none

/-- The announced transitions of a customer, in the order of their commits. -/
def transitions (customerId : CustomerId) (db : Db) : List (Move CustomerState) :=
  db.outboxEvents.links (transition customerId)

def merchantOf (customerId : CustomerId) (db : Db) : Option MerchantId :=
  (db.customers.find? (·.id == customerId)).map (·.merchantId)

/-- `scoringInitializedAt` is set. -/
def initialized (merchantId : MerchantId) (db : Db) : Bool :=
  db.merchants.rows.all fun merchant => merchant.id != merchantId || merchant.scoringInitializedAt.isSome

/-- What the rest of the system leaves alone. -/
def undisturbed (merchantId : MerchantId) (customerId : CustomerId) (db after : Db) : Bool :=
  decide (stateOf customerId after = stateOf customerId db) &&
    decide (merchantOf customerId after = merchantOf customerId db) &&
    decide (transitions customerId after = transitions customerId db) && initialized merchantId after

/-- A transaction that moves the customer commits while `Customer.state` is what it read. -/
def upToDate (merchantId : MerchantId) (customerId : CustomerId) (world : World) : Label → Bool
  | .commit slot =>
    match world.tasks.task? slot with
    | some (.writing page) => page.customers.all fun customer => customer.id != customerId ||
        decide (customer.state = (page.snapshot.resolve customer).newState) ||
        decide (stateOf customerId world.db = some customer.state)
    | _ => true
  | .elsewhere after => undisturbed merchantId customerId world.db after
  | _ => true

/-- The merchant as a task holds it is past its first pass. -/
def Flagged (merchantId : MerchantId) (merchant : Merchant) : Prop :=
  merchant.id = merchantId → merchant.scoringInitializedAt.isSome = true

structure Page.Sound (merchantId : MerchantId) (page : Page) : Prop where
  flagged : Flagged merchantId page.merchant
  distinct : (page.customers.map (·.id)).Nodup

def Task.Sound (merchantId : MerchantId) : Task → Prop
  | .recomputing _ _ _ merchant => ∀ read ∈ merchant, Flagged merchantId read
  | .sweeping merchant _ _ _ _ _ => Flagged merchantId merchant
  | .writing page => page.Sound merchantId

/-- The announced transitions are what the customer went through. -/
structure Chained (merchantId : MerchantId) (customerId : CustomerId) (before : CustomerState)
    (earlier : List (Move CustomerState)) (world : World) : Prop where
  owner : merchantOf customerId world.db = some merchantId
  set : initialized merchantId world.db = true
  announced : transitions customerId world.db = earlier ++ world.moves
  trail : ∃ state, stateOf customerId world.db = some state ∧ Trail before world.moves state
  tasks : world.tasks.Every (Task.Sound merchantId)

variable {merchantId : MerchantId} {customerId : CustomerId} {merchant : Merchant} {customer : Customer} {scored : Scored}
  {announcement : Announcement} {announced : Option Announcement} {now : Date} {snapshot : CohortSnapshot} {rows : List Customer} {db next : Db}

section Writing

theorem payloadMove_payload (input : CustomerStateChangedInput) :
    payloadMove input.payload = some ⟨input.oldState, input.newState⟩ := by
  simp [payloadMove, CustomerStateChangedInput.payload, Json.get?_cons]

theorem upsertScore_frame {score : ResolvedCustomerScore} {currency : String}
    (upserted : upsertScore merchantId customerId score currency now db = .ok next) :
    ∃ customerScores, next = { db with customerScores } := by
  unfold upsertScore at upserted
  dsimp only at upserted
  split at upserted
  · cases upserted
    exact ⟨_, rfl⟩
  · split at upserted
    · cases upserted
    · split at upserted
      · cases upserted
        exact ⟨_, rfl⟩
      · cases upserted

/-- The state update goes by customer and merchant, and asks nothing about the old state. -/
theorem updateState_cases {state : CustomerState} (updated : updateState merchantId customerId state db = .ok next) :
    ∃ customers, next = { db with customers } ∧ merchantOf customerId db = some merchantId ∧
      (∀ other, merchantOf other next = merchantOf other db) ∧ stateOf customerId next = some state ∧
      ∀ other, other ≠ customerId → stateOf other next = stateOf other db := by
  unfold updateState at updated
  dsimp only at updated
  split at updated
  · rename_i stored
    cases updated
    obtain ⟨row, member, named⟩ := List.any_eq_true.mp stored
    obtain ⟨same, owned⟩ : row.id = customerId ∧ row.merchantId = merchantId := by simpa using named
    have found : db.customers.find? (·.id == customerId) = some row :=
      (Table.find?_eq_some_iff (by simp +contextual [Indexed.clash, Indexed.index])).mpr ⟨member, by simp [same]⟩
    have lookup (other : CustomerId) : (db.customers.updateMany
          (fun row => row.id == customerId && row.merchantId == merchantId) (fun row => { row with state }) fun _ => rfl).find?
        (·.id == other) = (db.customers.find? (·.id == other)).map fun row =>
          if row.id == customerId && row.merchantId == merchantId then { row with state } else row :=
      Table.find?_updateMany fun _ => rfl
    refine ⟨_, rfl, by simp [merchantOf, found, owned], fun other => ?_, ?_, fun other apart => ?_⟩
    · simp only [merchantOf, lookup, Option.map_map]
      congr 1
      funext row
      simp only [Function.comp]
      split <;> rfl
    · simp [stateOf, lookup, found, same, owned]
    · simp only [stateOf, lookup, Option.map_map]
      cases there : db.customers.find? (·.id == other) with
      | none => rfl
      | some stored =>
        have named : stored.id = other := by simpa using (Table.find?_mem there).2
        simp [named, apart]
  · cases updated

/-- The event announces the state that was read and the state that was computed. -/
theorem emit_transitions {currency actorId : String} {trigger : Option String}
    (emitted : emit merchant customer scored currency actorId trigger now db = .ok next) :
    (∃ outboxEvents auditLogs, next = { db with outboxEvents, auditLogs }) ∧
      transitions customer.id next = transitions customer.id db ++ [⟨customer.state, scored.score.newState⟩] ∧
      ∀ other, other ≠ customer.id → transitions other next = transitions other db := by
  obtain ⟨payload, built, rest⟩ := bind_eq_ok_iff.mp emitted
  unfold buildCustomerStateChangedPayload at built
  split at built
  · cases built
    split at rest
    · cases rest
    · rename_i outboxEvents inserted
      cases rest
      have rows := (Table.insert?_rows inserted).1
      refine ⟨⟨_, _, rfl⟩, ?_, fun other apart => ?_⟩
      · simp [transitions, Table.links, rows, transition, payloadCustomer_payload, payloadMove_payload]
      · simp [transitions, Table.links, rows, transition, payloadCustomer_payload, Ne.symm apart]
  · cases built

/-- A scoring changes nothing of the customers but the state of its own. -/
theorem applyScore_customers (applied : applyScore merchant customer scored announced now db = .ok next) :
    next.customers = db.customers ∨ next.customers = db.customers.updateMany
      (fun row => row.id == customer.id && row.merchantId == merchant.id)
      (fun row => { row with state := scored.score.newState }) fun _ => rfl := by
  obtain ⟨upserted, written, rest⟩ := bind_eq_ok_iff.mp applied
  obtain ⟨customerScores, rfl⟩ := upsertScore_frame written
  split at rest
  · cases rest
    exact .inl rfl
  · obtain ⟨middle, updated, last⟩ := bind_eq_ok_iff.mp rest
    unfold updateState at updated
    dsimp only at updated
    split at updated
    · cases updated
      split at last
      · obtain ⟨⟨outboxEvents, auditLogs, rfl⟩, _⟩ := emit_transitions last
        exact .inr rfl
      · cases last
        exact .inr rfl
    · cases updated

/-- A scoring that moves its customer, by what it writes about any customer. -/
structure Moved (merchant : Merchant) (customer : Customer) (state : CustomerState) (announced : Bool) (db next : Db) :
    Prop where
  apart : customer.state ≠ state
  owner : merchantOf customer.id db = some merchant.id
  stands : stateOf customer.id next = some state
  announced : transitions customer.id next =
    transitions customer.id db ++ if announced then [⟨customer.state, state⟩] else []

/-- What a scoring writes. -/
theorem applyScore_cases (applied : applyScore merchant customer scored announced now db = .ok next) :
    next.merchants = db.merchants ∧ (∀ other, merchantOf other next = merchantOf other db) ∧
      (∀ other, other ≠ customer.id → stateOf other next = stateOf other db ∧ transitions other next = transitions other db) ∧
      (customer.state = scored.score.newState ∧ stateOf customer.id next = stateOf customer.id db ∧
          transitions customer.id next = transitions customer.id db ∨
        Moved merchant customer scored.score.newState
          (announced.isSome && merchant.scoringInitializedAt.isSome) db next) := by
  obtain ⟨upserted, written, rest⟩ := bind_eq_ok_iff.mp applied
  obtain ⟨customerScores, rfl⟩ := upsertScore_frame written
  split at rest
  · rename_i unchanged
    cases rest
    exact ⟨rfl, fun _ => rfl, fun _ _ => ⟨rfl, rfl⟩, .inl ⟨unchanged, rfl, rfl⟩⟩
  · rename_i changed
    obtain ⟨middle, updated, last⟩ := bind_eq_ok_iff.mp rest
    obtain ⟨customers, rfl, owner, owners, state, others⟩ := updateState_cases updated
    have unannounced (loud : Bool) (silent : loud = false) {after : Db} (same : after.outboxEvents = db.outboxEvents) :
        transitions customer.id after =
          transitions customer.id db ++ if loud then [⟨customer.state, scored.score.newState⟩] else [] := by
      rw [silent, transitions, same]
      exact (List.append_nil _).symm
    cases announced with
    | none =>
      cases last
      exact ⟨rfl, owners, fun other apart => ⟨others other apart, rfl⟩,
        .inr ⟨changed, owner, state, unannounced _ rfl rfl⟩⟩
    | some announcement =>
      cases flagged : merchant.scoringInitializedAt with
      | none =>
        simp only [flagged] at last
        cases last
        exact ⟨rfl, owners, fun other apart => ⟨others other apart, rfl⟩,
          .inr ⟨changed, owner, state, unannounced _ rfl rfl⟩⟩
      | some initializedAt =>
        simp only [flagged] at last
        obtain ⟨⟨outboxEvents, auditLogs, rfl⟩, announced, quiet⟩ := emit_transitions last
        exact ⟨rfl, owners, fun other apart => ⟨others other apart, quiet other apart⟩,
          .inr ⟨changed, owner, state, announced⟩⟩

end Writing

section Pages

theorem rescorePage_keeps (done : rescorePage merchant snapshot announced rows db = .ok next) :
    next.merchants = db.merchants ∧ ∀ other, merchantOf other next = merchantOf other db := by
  induction rows generalizing db with
  | nil =>
    cases done
    exact ⟨rfl, fun _ => rfl⟩
  | cons customer rest ih =>
    obtain ⟨middle, applied, done⟩ := bind_eq_ok_iff.mp done
    obtain ⟨merchants, owners, _, _⟩ := applyScore_cases applied
    obtain ⟨merchants', owners'⟩ := ih done
    exact ⟨merchants'.trans merchants, fun other => (owners' other).trans (owners other)⟩

/-- A page leaves the other customers alone. -/
theorem rescorePage_apart (done : rescorePage merchant snapshot announced rows db = .ok next)
    (apart : customerId ∉ rows.map (·.id)) :
    stateOf customerId next = stateOf customerId db ∧ transitions customerId next = transitions customerId db := by
  induction rows generalizing db with
  | nil =>
    cases done
    exact ⟨rfl, rfl⟩
  | cons customer rest ih =>
    obtain ⟨other, later⟩ := not_or.mp (mt List.mem_cons.mpr apart)
    obtain ⟨middle, applied, done⟩ := bind_eq_ok_iff.mp done
    obtain ⟨_, _, others, _⟩ := applyScore_cases applied
    obtain ⟨state, quiet⟩ := others customerId other
    obtain ⟨state', quiet'⟩ := ih done later
    exact ⟨state'.trans state, quiet'.trans quiet⟩

/-- What a page does to one of its customers: nothing, or one move from what it read to what
it computed. -/
theorem rescorePage_fate (done : rescorePage merchant snapshot announced rows db = .ok next)
    (distinct : (rows.map (·.id)).Nodup) (member : customer ∈ rows) :
    customer.state = (snapshot.resolve customer).newState ∧ stateOf customer.id next = stateOf customer.id db ∧
        transitions customer.id next = transitions customer.id db ∨
      Moved merchant customer (snapshot.resolve customer).newState
        (announced.isSome && merchant.scoringInitializedAt.isSome) db next := by
  induction rows generalizing db with
  | nil => cases member
  | cons first rest ih =>
    obtain ⟨middle, applied, following⟩ := bind_eq_ok_iff.mp done
    obtain ⟨_, owners, others, own⟩ := applyScore_cases applied
    obtain ⟨once, apart⟩ := List.nodup_cons.mp distinct
    rcases List.mem_cons.mp member with rfl | later
    · obtain ⟨state', quiet⟩ := rescorePage_apart following once
      refine own.imp (fun ⟨settled, kept, silent⟩ => ⟨settled, state'.trans kept, quiet.trans silent⟩) fun moved => ?_
      exact {
        apart := moved.apart
        owner := moved.owner
        stands := state'.trans moved.stands
        announced := quiet.trans moved.announced }
    · have other : customer.id ≠ first.id := fun same => once (List.mem_map.mpr ⟨customer, later, same⟩)
      obtain ⟨state, quiet⟩ := others customer.id other
      refine (ih following apart later).imp (fun ⟨settled, kept, silent⟩ => ⟨settled, kept.trans state, silent.trans quiet⟩)
        fun moved => ?_
      exact {
        apart := moved.apart
        owner := (owners _).symm.trans moved.owner
        stands := moved.stands
        announced := quiet ▸ moved.announced }

/-- Of a merchant past its first pass every move is announced. -/
theorem rescorePage_cases (done : rescorePage merchant snapshot (some announcement) rows db = .ok next)
    (distinct : (rows.map (·.id)).Nodup) (flagged : Flagged merchantId merchant)
    (owner : merchantOf customerId db = some merchantId) :
    next.merchants = db.merchants ∧ merchantOf customerId next = some merchantId ∧
      ((∀ row ∈ rows, row.id = customerId → row.state = (snapshot.resolve row).newState) ∧
          stateOf customerId next = stateOf customerId db ∧ transitions customerId next = transitions customerId db ∨
        ∃ row ∈ rows, row.id = customerId ∧ row.state ≠ (snapshot.resolve row).newState ∧
          stateOf customerId next = some (snapshot.resolve row).newState ∧
          transitions customerId next =
            transitions customerId db ++ [⟨row.state, (snapshot.resolve row).newState⟩]) := by
  obtain ⟨merchants, owners⟩ := rescorePage_keeps done
  refine ⟨merchants, (owners customerId).trans owner, ?_⟩
  by_cases listed : customerId ∈ rows.map (·.id)
  · obtain ⟨row, member, rfl⟩ := List.mem_map.mp listed
    rcases rescorePage_fate done distinct member with ⟨settled, kept, silent⟩ | moved
    · refine .inl ⟨fun other present same => ?_, kept, silent⟩
      rwa [List.inj_on_of_nodup_map distinct present member same]
    · have named : merchant.id = merchantId := Option.some.inj (moved.owner.symm.trans owner)
      have announced := moved.announced
      rw [flagged named] at announced
      exact .inr ⟨row, member, rfl, moved.apart, moved.stands, announced⟩
  · obtain ⟨kept, silent⟩ := rescorePage_apart done listed
    exact .inl ⟨fun row member named => absurd (named ▸ List.mem_map_of_mem member) listed, kept, silent⟩

end Pages

section Runs

variable {world after : World} {before : CustomerState} {earlier : List (Move CustomerState)} {task : Task}

theorem flagged_of_find (set : initialized merchantId db = true) {id : MerchantId}
    (found : db.merchants.find? (·.id == id) = some merchant) : Flagged merchantId merchant := by
  intro named
  have flag := List.all_eq_true.mp set merchant (Table.find?_mem found).1
  simpa [named] using flag

theorem fetch_nodup (merchant : Merchant) (states : Option (List CustomerState)) (batchSize : Nat)
    (cursor : Option CustomerId) (db : Db) : ((fetch merchant states batchSize cursor db).map (·.id)).Nodup := by
  rw [List.nodup_iff_pairwise_ne, List.pairwise_map]
  exact ((selected_sorted merchant.id states db).sublist Paging.page_sublist).imp fun before same => absurd same before.ne

/-- A read keeps a task sound. -/
theorem Task.Sound.read (sound : task.Sound merchantId) (set : initialized merchantId db = true) {next : Task}
    (moved : task.read db = some next) : next.Sound merchantId := by
  unfold Task.read at moved
  split at moved
  · obtain ⟨merchant, found, rfl⟩ := Option.map_eq_some_iff.mp moved
    rintro read ⟨⟩
    exact flagged_of_find set found
  · obtain ⟨snapshot, _, rfl⟩ := Option.map_eq_some_iff.mp moved
    exact ⟨sound _ rfl, List.nodup_singleton _⟩
  · obtain ⟨snapshot, _, rfl⟩ := Option.map_eq_some_iff.mp moved
    exact sound
  · cases moved
    exact ⟨sound, fetch_nodup _ _ _ _ _⟩
  · cases moved
    exact sound

/-- A sweep goes on with the merchant that it read first. -/
theorem Page.Sound.onward {page : Page} (sound : page.Sound merchantId) {next : Task} (more : page.next? = some next) :
    next.Sound merchantId := by
  unfold Page.next? at more
  split at more
  · split at more
    · cases more
    · cases more
      exact sound.flagged
  · cases more

theorem Chained.settle (chained : Chained merchantId customerId before earlier world) {next : Option Task}
    (sound : ∀ task ∈ next, task.Sound merchantId) (slot : Nat) :
    Chained merchantId customerId before earlier (world.settle slot next) where
  owner := chained.owner
  set := chained.set
  announced := chained.announced
  trail := chained.trail
  tasks := by
    cases next with
    | none => exact chained.tasks.clear
    | some task => exact chained.tasks.put (sound task rfl)

theorem Chained.spawn (chained : Chained merchantId customerId before earlier world) (sound : task.Sound merchantId) :
    Chained merchantId customerId before earlier { world with tasks := world.tasks.spawn task } where
  owner := chained.owner
  set := chained.set
  announced := chained.announced
  trail := chained.trail
  tasks := chained.tasks.spawn sound

/-- A step that announces the move that it makes keeps the chain. -/
theorem Chained.become (chained : Chained merchantId customerId before earlier world)
    (owner : merchantOf customerId db = some merchantId) (set : initialized merchantId db = true)
    {state : CustomerState} (stands : stateOf customerId db = some state)
    (announced : ∀ standing, stateOf customerId world.db = some standing →
      transitions customerId db = transitions customerId world.db ++ movement standing state) :
    Chained merchantId customerId before earlier (world.become customerId db) := by
  obtain ⟨standing, stood, trail⟩ := chained.trail
  have walked : moved customerId world.db db = movement standing state := by simp [moved, stood, stands]
  exact {
    owner := owner
    set := set
    announced := by
      simp only [World.become]
      rw [announced standing stood, chained.announced, walked, List.append_assoc]
    trail := ⟨state, stands, by
      simp only [World.become]
      rw [walked]
      exact trail.extend state⟩
    tasks := chained.tasks }

theorem upToDate_iff {slot : Nat} {page : Page} (live : world.tasks.task? slot = some (.writing page)) :
    upToDate merchantId customerId world (.commit slot) = true ↔
      ∀ row ∈ page.customers, row.id = customerId → row.state ≠ (page.snapshot.resolve row).newState →
        stateOf customerId world.db = some row.state := by
  simp only [upToDate, live, List.all_eq_true]
  refine forall₂_congr fun row _ => ?_
  simp [or_iff_not_imp_left, and_imp]

theorem Chained.step {label : Label} (chained : Chained merchantId customerId before earlier world)
    (timely : upToDate merchantId customerId world label = true)
    (stepped : (scoring customerId).step world label = some after) :
    Chained merchantId customerId before earlier after := by
  cases label with
  | recompute owner other now =>
    simp only [scoring] at stepped
    split at stepped
    · cases stepped
      exact chained
    · cases stepped
      exact chained.spawn fun _ read => by cases read
  | decayRescore owner actorId now batchSize =>
    simp only [scoring] at stepped
    split at stepped
    · cases stepped
      exact chained
    · rename_i merchant found
      cases stepped
      exact chained.spawn (flagged_of_find chained.set found)
  | read slot =>
    obtain ⟨task, live, rfl⟩ := Option.map_eq_some_iff.mp stepped
    exact chained.settle (fun next moved => (chained.tasks.get live).read chained.set moved) slot
  | commit slot =>
    simp only [scoring] at stepped
    split at stepped
    · rename_i page live
      have sound : page.Sound merchantId := chained.tasks.get live
      split at stepped
      · cases stepped
        exact chained.settle (fun _ more => by cases more) slot
      · rename_i db done
        cases stepped
        obtain ⟨standing, stood, _⟩ := chained.trail
        obtain ⟨merchants, owner, fate⟩ := rescorePage_cases done sound.distinct sound.flagged chained.owner
        have set : initialized merchantId db = true := by
          rw [initialized, merchants]
          exact chained.set
        have announced : ∃ state, stateOf customerId db = some state ∧
            transitions customerId db = transitions customerId world.db ++ movement standing state := by
          rcases fate with ⟨_, kept, silent⟩ | ⟨row, member, named, apart, stands, announced⟩
          · exact ⟨standing, kept.trans stood, by rw [silent, movement_self, List.append_nil]⟩
          · have read := (upToDate_iff live).mp timely row member named apart
            obtain rfl : standing = row.state := Option.some.inj (stood.symm.trans read)
            exact ⟨_, stands, by rw [announced, movement_of_ne apart]⟩
        obtain ⟨state, stands, announced⟩ := announced
        refine (chained.become owner set stands fun other same => ?_).settle (fun _ more => sound.onward more) slot
        obtain rfl : standing = other := Option.some.inj (stood.symm.trans same)
        exact announced
    · cases stepped
  | abort slot =>
    cases stepped
    exact chained.settle (fun _ more => by cases more) slot
  | elsewhere db =>
    cases stepped
    simp only [upToDate, undisturbed, Bool.and_eq_true, decide_eq_true_eq] at timely
    obtain ⟨⟨⟨state, owner⟩, quiet⟩, set⟩ := timely
    obtain ⟨standing, stood, _⟩ := chained.trail
    refine chained.become (owner.trans chained.owner) set (state.trans stood) fun other same => ?_
    rw [stood] at same
    cases same
    rw [quiet, movement_self, List.append_nil]

/-- The condition is exact: a page that commits on another state than it read announces a
transition that does not follow the one before. -/
theorem commit_trail_iff {slot : Nat} {page : Page} (chained : Chained merchantId customerId before earlier world)
    (live : world.tasks.task? slot = some (.writing page)) (done : page.write world.db = .ok db) :
    (∃ added state, transitions customerId db = transitions customerId world.db ++ added ∧
        stateOf customerId db = some state ∧ Trail before (world.moves ++ added) state) ↔
      upToDate merchantId customerId world (.commit slot) = true := by
  have sound : page.Sound merchantId := chained.tasks.get live
  obtain ⟨standing, stood, trail⟩ := chained.trail
  obtain ⟨_, _, fate⟩ := rescorePage_cases done sound.distinct sound.flagged chained.owner
  rw [upToDate_iff live]
  constructor
  · rintro ⟨added, state, announced, stands, longer⟩ row member named apart
    rcases fate with ⟨settled, _⟩ | ⟨other, listed, same, _, _, moved⟩
    · exact absurd (settled row member named) apart
    · obtain rfl : other = row := List.inj_on_of_nodup_map sound.distinct listed member (same.trans named.symm)
      obtain rfl := List.append_cancel_left (moved.symm.trans announced)
      rw [stood, ← (trail.snoc_iff.mp longer).1]
  · intro timely
    rcases fate with ⟨_, kept, silent⟩ | ⟨row, member, named, apart, stands, announced⟩
    · exact ⟨[], standing, by rw [silent, List.append_nil], kept.trans stood, by rwa [List.append_nil]⟩
    · obtain rfl : standing = row.state := Option.some.inj (stood.symm.trans (timely row member named apart))
      exact ⟨_, _, announced, stands, trail.snoc_iff.mpr ⟨rfl, rfl, apart⟩⟩

/-- After the first pass, while every transaction that moves the customer commits on the
state that it read: what was announced is what the customer went through, and the
announced transitions lead from the state at the start to `Customer.state`. -/
theorem events_chain {db : Db} (stored : customer ∈ db.customers.rows)
    (set : initialized customer.merchantId db = true)
    (reach : (scoring customer.id).Reach
      (fun world label => upToDate customer.merchantId customer.id world label = true) { db } world) :
    transitions customer.id world.db = transitions customer.id db ++ world.moves ∧
      ∃ state, stateOf customer.id world.db = some state ∧ Trail customer.state world.moves state := by
  have found : db.customers.find? (·.id == customer.id) = some customer :=
    (Table.find?_eq_some_iff (by simp +contextual [Indexed.clash, Indexed.index])).mpr ⟨stored, beq_self_eq_true _⟩
  have start : Chained customer.merchantId customer.id customer.state (transitions customer.id db) { db } := {
    owner := by simp [merchantOf, found]
    set := set
    announced := (List.append_nil _).symm
    trail := ⟨customer.state, by simp [stateOf, found], .nil⟩
    tasks := fun _ member => by cases member }
  have chained := reach.invariant start fun _ _ _ timely moved chained => chained.step timely moved
  exact ⟨chained.announced, chained.trail⟩

end Runs

section LapsedCustomers

/-- Five customers who bought on the first day, with the first pass done. -/
def lapsed : Db where
  merchants := .single { id := "m", shop := "m.myshopify.com", scoringInitializedAt := some 0 }
  customers := ⟨[buyer "a" "1", buyer "b" "2", buyer "c" "3", buyer "d" "4", buyer "e" "5"], by decide⟩
  orders := fivePurchases

/-- A day on which they are dormant. -/
def dormantDay : Date := 200 * msPerDay

/-- A recompute, and after it a sweep. -/
def inTurn : List Label :=
  [.recompute "m" "a" dormantDay, .read 0, .read 0, .commit 0,
    .decayRescore "m" "scheduler" dormantDay 10, .read 1, .read 1, .commit 1]

/-- The sweep reads its page before the recompute commits. -/
def overlapping : List Label :=
  [.recompute "m" "a" dormantDay, .read 0, .read 0, .decayRescore "m" "scheduler" dormantDay 10, .read 1, .read 1,
    .commit 0, .commit 1]

/-- Nothing but scoring happens. -/
def scoringOnly : Label → Bool
  | .elsewhere _ => false
  | _ => true

def scored? (check : World → Label → Bool) (labels : List Label) : Option World :=
  (scoring "a").runWhere check { db := lapsed } labels

theorem inTurn_runs : (scored? (upToDate "m" "a") inTurn).isSome = true := by decide

theorem overlapping_runs : (scored? (fun _ label => scoringOnly label) overlapping).isSome = true := by decide

/-- The sweep finds the customer dormant and announces nothing. -/
theorem events_chain_in_turn : ∃ world,
    (scored? (upToDate "m" "a") inTurn) = some world ∧ world.moves = [⟨.active, .dormant⟩] ∧
      transitions "a" world.db = transitions "a" lapsed ++ world.moves ∧
      ∃ state, stateOf "a" world.db = some state ∧ Trail .active world.moves state := by
  have stored : buyer "a" "1" ∈ lapsed.customers.rows := by decide
  have walked : ((scored? (upToDate "m" "a") inTurn).get inTurn_runs).moves = [⟨.active, .dormant⟩] := by
    decide
  exact ⟨_, (Option.some_get inTurn_runs).symm, walked,
    events_chain stored (by decide) (Machine.reach_get inTurn_runs)⟩

/-- Both read the customer as active, and both announce that it went dormant. -/
theorem lapse_announced_twice :
    ¬∀ (customer : Customer) (db : Db) (world : World), customer ∈ db.customers.rows →
      initialized customer.merchantId db = true →
      (scoring customer.id).Reach (fun _ label => scoringOnly label = true) { db } world →
      ∃ announced state, transitions customer.id world.db = transitions customer.id db ++ announced ∧
        stateOf customer.id world.db = some state ∧ Trail customer.state announced state := by
  intro claim
  have stored : buyer "a" "1" ∈ lapsed.customers.rows := by decide
  obtain ⟨announced, state, events, _, trail⟩ :=
    claim (buyer "a" "1") lapsed _ stored (by decide) (Machine.reach_get overlapping_runs)
  have twice : transitions "a" ((scored? (fun _ label => scoringOnly label) overlapping).get overlapping_runs).db =
      transitions "a" lapsed ++ [⟨.active, .dormant⟩, ⟨.active, .dormant⟩] := by decide
  obtain rfl := List.append_cancel_left (twice.symm.trans events)
  exact absurd trail.isChain (by decide)

end LapsedCustomers

end WinBack.Scoring
