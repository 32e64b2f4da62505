import WinBack.Scoring.Webhooks

/-! What the announced transitions of a customer start from: a state that the service computed
before, or the column default of a row that it had not scored yet. -/

namespace WinBack.Scoring.Webhooks

open Library CustomerScoreService

variable {customerId : CustomerId} {log entries : List Entry} {state : CustomerState} {db after : Db}

section Log

/-- How the customer was scored so far. -/
def evaluations (customerId : CustomerId) (log : List Entry) : List Evaluation :=
  log.filterMap fun entry =>
    match entry with
    | .scored evaluation => if evaluation.customerId = customerId then some evaluation else none
    | .placed _ _ => none

/-- The transition that a scoring announced. -/
def Evaluation.move? (evaluation : Evaluation) : Option (Move CustomerState) :=
  if evaluation.announced then some ⟨evaluation.oldState, evaluation.newState⟩ else none

/-- The state was computed for the customer, or nothing was and it is the column default. -/
def Origin (customerId : CustomerId) (log : List Entry) (state : CustomerState) : Prop :=
  (∃ evaluation ∈ evaluations customerId log, evaluation.newState = state) ∨
    evaluations customerId log = [] ∧ state = .active

/-- The row of the customer was read when so much had been logged, as it stood then. -/
def Seen (customerId : CustomerId) (log : List Entry) (readAt : Nat) (state : CustomerState) : Prop :=
  readAt ≤ log.length ∧ Origin customerId (log.take readAt) state

/-- Every scoring of the customer started from what an earlier one computed, or from the
column default before the first. -/
def Descends (customerId : CustomerId) (log : List Entry) : Prop :=
  ∀ before evaluation after, log = before ++ .scored evaluation :: after → evaluation.customerId = customerId →
    Seen customerId before evaluation.readAt evaluation.oldState

@[simp] theorem evaluations_append (first second : List Entry) :
    evaluations customerId (first ++ second) = evaluations customerId first ++ evaluations customerId second :=
  List.filterMap_append

theorem mem_evaluations {evaluation : Evaluation} :
    evaluation ∈ evaluations customerId log ↔ .scored evaluation ∈ log ∧ evaluation.customerId = customerId := by
  simp only [evaluations, List.mem_filterMap]
  constructor
  · rintro ⟨entry, member, found⟩
    split at found
    · split at found
      · cases found
        exact ⟨member, ‹_›⟩
      · cases found
    · cases found
  · rintro ⟨member, about⟩
    exact ⟨_, member, if_pos about⟩

theorem Seen.append {readAt : Nat} (seen : Seen customerId log readAt state) (entries : List Entry) :
    Seen customerId (log ++ entries) readAt state := by
  refine ⟨?_, ?_⟩
  · rw [List.length_append]
    exact Nat.le_add_right_of_le seen.1
  · rw [List.take_append_of_le_length seen.1]
    exact seen.2

/-- A scoring that finds its customer in the state that it computes leaves the origin of every
state as it is. -/
theorem Origin.append (origin : Origin customerId log state)
    (settled : ∀ evaluation ∈ evaluations customerId entries, evaluation.oldState = evaluation.newState ∧
      Seen customerId log evaluation.readAt evaluation.oldState) : Origin customerId (log ++ entries) state := by
  unfold Origin
  rw [evaluations_append]
  rcases origin with ⟨evaluation, member, computed⟩ | ⟨unscored, rfl⟩
  · exact .inl ⟨evaluation, List.mem_append_left _ member, computed⟩
  · cases later : evaluations customerId entries with
    | nil => exact .inr ⟨by rw [unscored]; rfl, rfl⟩
    | cons evaluation rest =>
      obtain ⟨same, _, early⟩ := settled evaluation (later ▸ List.mem_cons_self)
      refine .inl ⟨evaluation, by simp, ?_⟩
      rcases early with ⟨other, member, _⟩ | ⟨_, default⟩
      · -- nothing was scored before, so nothing was scored before the read
        have earlier := (mem_evaluations.mp member)
        have scored := mem_evaluations.mpr ⟨List.mem_of_mem_take earlier.1, earlier.2⟩
        rw [unscored] at scored
        cases scored
      · exact same.symm.trans default

theorem Origin.computed {evaluation : Evaluation} (member : .scored evaluation ∈ log)
    (about : evaluation.customerId = customerId) : Origin customerId log evaluation.newState :=
  .inl ⟨evaluation, mem_evaluations.mpr ⟨member, about⟩, rfl⟩

theorem Descends.append (descends : Descends customerId log)
    (seen : ∀ evaluation, .scored evaluation ∈ entries → evaluation.customerId = customerId →
      Seen customerId log evaluation.readAt evaluation.oldState) : Descends customerId (log ++ entries) := by
  intro before evaluation later split about
  rcases List.append_eq_append_iff.mp split with ⟨middle, rfl, rest⟩ | ⟨middle, rfl, rest⟩
  · exact (seen evaluation (rest ▸ by simp) about).append middle
  · cases middle with
    | nil =>
      have here : entries = .scored evaluation :: later := by simpa using rest.symm
      have known := seen evaluation (here ▸ List.mem_cons_self) about
      simpa using known
    | cons entry middle =>
      obtain ⟨rfl, rfl⟩ := List.cons.inj rest
      exact descends before evaluation middle rfl about

end Log

section Stores

/-- `Customer.state` as a row has it, or as a new row would. -/
def standing (customerId : CustomerId) (db : Db) : CustomerState := (stateOf customerId db).getD .active

/-- A write that scores no one. -/
structure Quiet (customerId : CustomerId) (db after : Db) : Prop where
  standing : standing customerId after = standing customerId db
  transitions : transitions customerId after = transitions customerId db

theorem Quiet.refl (db : Db) : Quiet customerId db db := ⟨rfl, rfl⟩

theorem Quiet.trans {middle : Db} (early : Quiet customerId db middle) (late : Quiet customerId middle after) :
    Quiet customerId db after :=
  ⟨late.standing.trans early.standing, late.transitions.trans early.transitions⟩

theorem quiet_of_frame (customers : after.customers = db.customers) (events : after.outboxEvents = db.outboxEvents) :
    Quiet customerId db after where
  standing := by
    unfold Webhooks.standing stateOf
    rw [customers]
  transitions := by
    unfold Scoring.transitions
    rw [events]

/-- A customer upsert leaves the state of a stored row, and a new row has the default. -/
theorem quiet_upsert {merchantId : MerchantId} {gid : String} {newId id : CustomerId} {create update : CustomerPatch}
    {now : Date} (done : CustomerRepository.upsert merchantId gid newId create update now db = .ok (id, after)) :
    Quiet customerId db after := by
  unfold CustomerRepository.upsert at done
  split at done
  · cases done
    refine ⟨?_, rfl⟩
    have lookup : (db.customers.updateMany (CustomerRepository.named merchantId gid) update.apply fun _ => rfl).find?
        (·.id == customerId) = (db.customers.find? (·.id == customerId)).map fun row =>
          if CustomerRepository.named merchantId gid row then update.apply row else row :=
      Table.find?_updateMany fun _ => rfl
    unfold Webhooks.standing stateOf
    rw [lookup, Option.map_map]
    congr 2
    funext row
    simp only [Function.comp]
    split <;> rfl
  · split at done
    · cases done
    · rename_i customers inserted
      split at done
      · cases done
        refine ⟨?_, rfl⟩
        unfold Webhooks.standing stateOf
        rw [Table.find?_insert? inserted]
        cases db.customers.find? (·.id == customerId) with
        | some row => rfl
        | none =>
          dsimp only [Option.or]
          split <;> rfl
      · cases done

theorem quiet_processItems {merchantId : MerchantId} {now : Date} {items : List (ShopifyCustomerNode × CustomerId)}
    (done : CustomerRepository.processItems merchantId now items db = .ok after) : Quiet customerId db after := by
  induction items generalizing db with
  | nil =>
    cases done
    exact .refl _
  | cons item rest ih =>
    unfold CustomerRepository.processItems at done
    split at done
    · exact ih done
    · obtain ⟨⟨id, middle⟩, upserted, following⟩ := bind_eq_ok_iff.mp done
      exact (quiet_upsert upserted).trans (ih following)

theorem upsertOrder_frame {merchantId : MerchantId} {body : ShopifyOrderWebhookBody} {newId : String}
    {result : OrderRepository.UpsertResult}
    (done : OrderRepository.upsertFromWebhook merchantId body newId db = .ok (result, after)) :
    ∃ orders, after = { db with orders } := by
  unfold OrderRepository.upsertFromWebhook at done
  split at done
  · cases done
  · dsimp only at done
    split at done
    · cases done
    · split at done
      · cases done
        exact ⟨_, rfl⟩
      · split at done
        · cases done
        · split at done
          · cases done
            exact ⟨_, rfl⟩
          · cases done

theorem quiet_processOrders {merchantId : MerchantId} {items : List (ShopifyOrderWebhookBody × String)}
    (done : OrderRepository.processItems merchantId items db = .ok after) : Quiet customerId db after := by
  induction items generalizing db with
  | nil =>
    cases done
    exact .refl _
  | cons item rest ih =>
    obtain ⟨⟨result, middle⟩, upserted, following⟩ := bind_eq_ok_iff.mp done
    obtain ⟨orders, rfl⟩ := upsertOrder_frame upserted
    exact (quiet_of_frame rfl rfl : Quiet customerId db { db with orders }).trans (ih following)

theorem quiet_perform {write : Write} {scored : Option CustomerId}
    (done : write.perform db = .ok (scored, after)) : Quiet customerId db after := by
  cases write with
  | customer merchantId body newId now =>
    obtain ⟨⟨result, middle⟩, upserted, same⟩ := map_eq_ok_iff.mp done
    cases same
    unfold CustomerRepository.upsertFromWebhook at upserted
    split at upserted
    · cases upserted
    · obtain ⟨⟨id, other⟩, inner, equal⟩ := map_eq_ok_iff.mp upserted
      cases equal
      exact quiet_upsert inner
  | order merchantId gid body status link newId =>
    obtain ⟨⟨orderId, middle⟩, placed, same⟩ := map_eq_ok_iff.mp done
    cases same
    obtain ⟨orders, rfl⟩ := place_frame placed
    exact quiet_of_frame rfl rfl

theorem quiet_own {task : Task} (own : task.own db = .ok after) : Quiet customerId db after := by
  unfold Task.own at own
  split at own
  · cases own
    exact .refl db
  · obtain ⟨⟨scored, middle⟩, performed, same⟩ := map_eq_ok_iff.mp own
    cases same
    exact quiet_perform performed

theorem quiet_of_undisturbed (undisturbed : Undisturbed db after) : Quiet customerId db after where
  standing := by
    have lookup (db : Db) : stateOf customerId db =
        ((db.customers.rows.map fun row => (row.id, row.state)).find? (·.1 == customerId)).map Prod.snd := by
      rw [List.find?_map, Option.map_map]
      rfl
    unfold Webhooks.standing
    rw [lookup, lookup, undisturbed.1]
  transitions := by
    have listed (db : Db) : Scoring.transitions customerId db =
        (db.outboxEvents.rows.filterMap announcement).filterMap fun told =>
          if told.1.map Prod.fst = some customerId then told.2 else none := by
      rw [List.filterMap_filterMap]
      refine List.filterMap_congr fun row _ => ?_
      unfold transition announcement
      by_cases typed : row.type = stateChangedType
      · rw [if_pos typed, Option.bind_some]
        by_cases about : (payloadCustomer row.payload).map Prod.fst = some customerId
        · rw [if_pos ⟨typed, about⟩, if_pos about]
        · rw [if_neg fun both => about both.2, if_neg about]
      · rw [if_neg typed, if_neg fun both => typed both.1]
        rfl
    rw [listed, listed, undisturbed.2]

end Stores

section Tasks

variable {page : Page} {task next : Task} {clock : Nat} {row : Customer}

/-- What a task holds of the customer was read from its row. -/
def Task.Sound (customerId : CustomerId) (log : List Entry) (task : Task) : Prop :=
  match task.stage with
  | .recomputing _ customer _ _ readAt => customer.id = customerId → Seen customerId log readAt customer.state
  | .writing page => (page.customers.map (·.id)).Nodup ∧
      ∀ row ∈ page.customers, row.id = customerId → Seen customerId log page.readAt row.state
  | _ => True

theorem Task.Sound.append (sound : task.Sound customerId log) (entries : List Entry) :
    task.Sound customerId (log ++ entries) := by
  unfold Task.Sound at sound ⊢
  split at sound
  · exact fun about => (sound about).append entries
  · exact ⟨sound.1, fun row member about => (sound.2 row member about).append entries⟩
  · trivial

/-- A row that is read now has the state that its customer stands in. -/
theorem seen_of_row (origin : Origin customerId log (standing customerId db)) (member : row ∈ db.customers.rows)
    (about : row.id = customerId) : Seen customerId log log.length row.state := by
  have found : db.customers.find? (·.id == customerId) = some row :=
    (Table.find?_eq_some_iff (by simp +contextual [Indexed.clash, Indexed.index])).mpr ⟨member, by simp [about]⟩
  refine ⟨le_rfl, ?_⟩
  rw [List.take_length]
  simpa [standing, stateOf, found] using origin

theorem Task.Sound.read (sound : task.Sound customerId log) (origin : Origin customerId log (standing customerId db))
    (moved : task.read log.length db = some next) : next.Sound customerId log := by
  obtain ⟨own, sees, step⟩ := Option.bind_eq_some_iff.mp moved
  have owned : task.own db = .ok own := toOption_eq_some_iff.mp sees
  have origin' : Origin customerId log (standing customerId own) := (quiet_own owned).standing ▸ origin
  unfold Task.Sound at sound
  split at step
  · obtain ⟨⟨scored, after⟩, _, rfl⟩ := Option.map_eq_some_iff.mp step
    cases scored <;> trivial
  · split at step
    · cases step
      trivial
    · rename_i customer found
      cases step
      exact fun about => seen_of_row origin' (Table.find?_mem found).1 about
  · rename_i stage
    obtain ⟨merchant, _, rfl⟩ := Option.map_eq_some_iff.mp step
    rw [stage] at sound
    exact sound
  · rename_i stage
    obtain ⟨snapshot, _, rfl⟩ := Option.map_eq_some_iff.mp step
    rw [stage] at sound
    refine ⟨List.nodup_singleton _, fun row member => ?_⟩
    rw [List.mem_singleton.mp member]
    exact sound
  · obtain ⟨snapshot, _, rfl⟩ := Option.map_eq_some_iff.mp step
    trivial
  · cases step
    refine ⟨fetch_nodup _ _ _ _ _, fun row member about => seen_of_row origin' ?_ about⟩
    exact (mem_selected.mp (Paging.page_sublist.subset member)).1
  · cases step
    exact sound
  · cases step
    exact sound

/-- A page logs its rows, each once. -/
theorem evaluations_page {rows : List Customer} (distinct : (rows.map (·.id)).Nodup) (member : row ∈ rows)
    (about : row.id = customerId) :
    evaluations customerId (rows.map fun row => .scored (page.evaluate row)) = [page.evaluate row] := by
  have named : ∀ other ∈ rows, (page.evaluate other).customerId = customerId ↔ other = row := fun other listed =>
    ⟨fun same => List.inj_on_of_nodup_map distinct listed member (same.trans about.symm), fun same => same ▸ about⟩
  have once : rows.count row = 1 := List.count_eq_one_of_mem distinct.of_map member
  have kept : evaluations customerId (rows.map fun row => .scored (page.evaluate row)) =
      (rows.filter (· = row)).map page.evaluate := by
    rw [evaluations, List.filterMap_map, ← List.filterMap_eq_map, List.filterMap_filter]
    refine List.filterMap_congr fun other listed => ?_
    simp only [Function.comp, named other listed, decide_eq_true_eq]
  rw [kept, List.filter_eq, once]
  rfl

theorem evaluations_apart {rows : List Customer} (apart : customerId ∉ rows.map (·.id)) :
    evaluations customerId (rows.map fun row => .scored (page.evaluate row)) = [] := by
  refine List.eq_nil_iff_forall_not_mem.mpr fun evaluation member => ?_
  obtain ⟨listed, about⟩ := mem_evaluations.mp member
  obtain ⟨row, present, same⟩ := List.mem_map.mp listed
  cases same
  exact apart (List.mem_map.mpr ⟨row, present, about⟩)

/-- The write of a transaction scores no one. -/
theorem evaluations_entries (task : Task) (db : Db) :
    evaluations customerId (task.entries db) = evaluations customerId task.scorings := by
  have write : evaluations customerId (task.placements db) = [] := by
    unfold Task.placements
    split <;> rfl
  rw [Task.entries, evaluations_append, write, List.nil_append]

end Tasks

section Runs

variable {world last : World} {slot : Nat} {task : Task} {label : Label}

/-- The log accounts for `Customer.state` and for the announced transitions of the customer. -/
structure Lived (customerId : CustomerId) (world : World) : Prop where
  origin : Origin customerId world.log (standing customerId world.db)
  announced : transitions customerId world.db = (evaluations customerId world.log).filterMap Evaluation.move?
  log : Descends customerId world.log
  tasks : world.tasks.Every (Task.Sound customerId world.log)

theorem Lived.quiet (lived : Lived customerId world) (quiet : Quiet customerId world.db db) :
    Lived customerId { world with db } where
  origin := quiet.standing ▸ lived.origin
  announced := quiet.transitions ▸ lived.announced
  log := lived.log
  tasks := lived.tasks

theorem Lived.settle (lived : Lived customerId world) {next : Option Task}
    (sound : ∀ task ∈ next, task.Sound customerId world.log) (slot : Nat) :
    Lived customerId (world.settle slot next) where
  origin := lived.origin
  announced := lived.announced
  log := lived.log
  tasks := by
    cases next with
    | none => exact lived.tasks.clear
    | some task => exact lived.tasks.put (sound task rfl)

theorem Lived.start (lived : Lived customerId world) {stage : Stage}
    (sound : ({ stage } : Task).Sound customerId world.log) : Lived customerId (world.start stage) where
  origin := lived.origin
  announced := lived.announced
  log := lived.log
  tasks := lived.tasks.spawn sound

/-- What one commit adds: to the store, and to the log. -/
theorem Lived.committed (lived : Lived customerId world) (sound : task.Sound customerId world.log)
    (done : task.commit? world.db = some (.ok after)) :
    Lived customerId { world with db := after, log := world.log ++ task.entries world.db } := by
  have tasks : world.tasks.Every (Task.Sound customerId (world.log ++ task.entries world.db)) :=
    fun other member => (lived.tasks other member).append _
  have entries := @evaluations_entries customerId task world.db
  unfold Task.scorings at entries
  unfold Task.commit? at done
  unfold Task.Sound at sound
  split at done
  · rename_i stage
    simp only [stage] at entries
    have quiet : Quiet customerId world.db after := quiet_own (Option.some.inj done)
    exact {
      origin := quiet.standing ▸ lived.origin.append fun evaluation member => by rw [entries] at member; cases member
      announced := by
        change transitions customerId after = _
        rw [quiet.transitions, lived.announced, evaluations_append, entries]
        exact congrArg _ (List.append_nil _).symm
      log := lived.log.append fun evaluation member about => by
        have listed := mem_evaluations.mpr ⟨member, about⟩
        rw [entries] at listed
        cases listed
      tasks := tasks }
  · rename_i page stage
    simp only [stage] at entries sound
    obtain ⟨own, sees, scored⟩ := bind_eq_ok_iff.mp (Option.some.inj done)
    have quiet : Quiet customerId world.db own := quiet_own sees
    obtain ⟨distinct, read⟩ := sound
    have seen : ∀ evaluation, .scored evaluation ∈ task.entries world.db → evaluation.customerId = customerId →
        Seen customerId world.log evaluation.readAt evaluation.oldState := by
      intro evaluation member about
      have listed := mem_evaluations.mpr ⟨member, about⟩
      rw [entries, mem_evaluations] at listed
      obtain ⟨row, present, same⟩ := List.mem_map.mp listed.1
      cases same
      exact read row present about
    have grown (evaluated : List Evaluation) (same : evaluations customerId (task.entries world.db) = evaluated) :
        (evaluations customerId (world.log ++ task.entries world.db)).filterMap Evaluation.move? =
          transitions customerId own ++ evaluated.filterMap Evaluation.move? := by
      rw [evaluations_append, same, List.filterMap_append, quiet.transitions, lived.announced]
    by_cases here : customerId ∈ page.customers.map (·.id)
    · obtain ⟨row, member, rfl⟩ := List.mem_map.mp here
      rw [evaluations_page distinct member rfl] at entries
      have logged : .scored (page.evaluate row) ∈ task.entries world.db :=
        (mem_evaluations.mp (entries ▸ List.mem_singleton_self _)).1
      rcases rescorePage_fate scored distinct member with ⟨settled, kept, silent⟩ | moved
      · have unannounced : [page.evaluate row].filterMap Evaluation.move? = [] := by
          simp [Evaluation.move?, Page.evaluate, settled]
        have stood : standing row.id after = standing row.id world.db :=
          (congrArg (·.getD .active) kept).trans quiet.standing
        exact {
          origin := stood ▸ lived.origin.append fun evaluation listed => by
            rw [entries, List.mem_singleton] at listed
            subst listed
            exact ⟨settled, seen _ logged rfl⟩
          announced := by
            change transitions row.id after = _
            rw [grown _ entries, unannounced, List.append_nil, silent]
          log := lived.log.append seen
          tasks := tasks }
      · have stood : standing row.id after = (page.snapshot.resolve row).newState := congrArg (·.getD .active) moved.stands
        have told : [page.evaluate row].filterMap Evaluation.move? =
            if page.announced.isSome && page.merchant.scoringInitializedAt.isSome then
              [⟨row.state, (page.snapshot.resolve row).newState⟩] else [] := by
          cases loud : page.announced.isSome && page.merchant.scoringInitializedAt.isSome <;>
            simp [Evaluation.move?, Page.evaluate, moved.apart, loud]
        exact {
          origin := stood ▸ Origin.computed (List.mem_append_right _ logged) rfl
          announced := by
            change transitions row.id after = _
            rw [grown _ entries, told, moved.announced]
          log := lived.log.append seen
          tasks := tasks }
    · obtain ⟨kept, silent⟩ := rescorePage_apart scored here
      rw [evaluations_apart here] at entries
      have stood : standing customerId after = standing customerId world.db :=
        (congrArg (·.getD .active) kept).trans quiet.standing
      exact {
        origin := stood ▸ lived.origin.append fun evaluation member => by rw [entries] at member; cases member
        announced := by
          change transitions customerId after = _
          rw [grown _ entries, silent]
          exact (List.append_nil _).symm
        log := lived.log.append seen
        tasks := tasks }
  · cases done

theorem Lived.become (lived : Lived customerId world) {result : Except RepositoryError Db}
    (quiet : ∀ after, result = .ok after → Quiet customerId world.db after) : Lived customerId (world.become result) := by
  cases result with
  | error error => exact lived
  | ok after => exact lived.quiet (quiet after rfl)

theorem Lived.step (lived : Lived customerId world) (stepped : machine.step world label = some last) :
    Lived customerId last := by
  cases label with
  | customerEvent merchantId body newId now =>
    cases stepped
    exact lived.start trivial
  | orderEvent merchantId body newId now =>
    simp only [machine] at stepped
    split at stepped
    · cases stepped
      exact lived.start trivial
    · cases stepped
      exact lived
  | recompute merchantId other now =>
    cases stepped
    exact lived.start trivial
  | bulkRescore merchantId now batchSize =>
    simp only [machine] at stepped
    split at stepped
    · cases stepped
      exact lived
    · cases stepped
      exact lived.start trivial
  | decayRescore merchantId actorId now batchSize =>
    simp only [machine] at stepped
    split at stepped
    · cases stepped
      exact lived
    · cases stepped
      exact lived.start trivial
  | customersBackfilled merchantId items now =>
    cases stepped
    exact lived.become fun _ done => quiet_processItems done
  | ordersBackfilled merchantId items =>
    cases stepped
    exact lived.become fun _ done => quiet_processOrders done
  | read slot =>
    obtain ⟨task, live, rfl⟩ := Option.map_eq_some_iff.mp stepped
    exact lived.settle (fun next moved => (lived.tasks.get live).read lived.origin moved) slot
  | commit slot =>
    obtain ⟨task, live, finished⟩ := Option.bind_eq_some_iff.mp stepped
    obtain ⟨result, done, rfl⟩ := Option.map_eq_some_iff.mp finished
    cases result with
    | error error => exact lived.settle (fun _ more => by cases more) slot
    | ok after =>
      refine (lived.committed (lived.tasks.get live) done).settle (fun next more => ?_) slot
      -- a sweep goes on with nothing in hand
      unfold Task.next? at more
      split at more
      · split at more
        · split at more
          · cases more
          · cases more
            trivial
        · cases more
      · cases more
  | abort slot =>
    cases stepped
    exact lived.settle (fun _ more => by cases more) slot
  | elsewhere after =>
    obtain ⟨undisturbed, same⟩ := Option.ite_none_right_eq_some.mp stepped
    cases same
    exact lived.quiet (quiet_of_undisturbed undisturbed)

/-- In every run over the whole life of a customer each of its announced transitions starts from
a state that was computed for it before, or from the column default of a row that nothing
had scored when it was read. -/
theorem transitions_descend (absent : stateOf customerId db = none) (silent : transitions customerId db = [])
    (reach : machine.Reach (fun _ _ => True) { db } world) :
    transitions customerId world.db = (evaluations customerId world.log).filterMap Evaluation.move? ∧
      ∀ before evaluation after, world.log = before ++ .scored evaluation :: after →
        evaluation.customerId = customerId → evaluation.announced = true →
        (∃ earlier ∈ evaluations customerId before, earlier.newState = evaluation.oldState) ∨
          evaluations customerId (before.take evaluation.readAt) = [] ∧ evaluation.oldState = .active := by
  have start : Lived customerId { db } := {
    origin := .inr ⟨rfl, by simp [standing, absent]⟩
    announced := silent
    log := fun before _ _ split => by cases before <;> cases split
    tasks := fun _ member => by cases member }
  have lived := reach.invariant start fun _ _ _ _ stepped lived => lived.step stepped
  refine ⟨lived.announced, fun before evaluation after split about _ => ?_⟩
  obtain ⟨_, ⟨earlier, member, computed⟩ | default⟩ := lived.log before evaluation after split about
  · obtain ⟨listed, same⟩ := mem_evaluations.mp member
    exact .inl ⟨earlier, mem_evaluations.mpr ⟨List.mem_of_mem_take listed, same⟩, computed⟩
  · exact .inr default

end Runs

section NewCustomer

/-- The webhook of a customer whose account was opened on that day. -/
def opened (day : Int) : ShopifyCustomerWebhookBody where
  id := .text "7"
  createdAt := day * msPerDay
  updatedAt := day * msPerDay

/-- The webhook on day 200, and a sweep on day 300. -/
def learnedOf (day : Int) : List Label :=
  [.customerEvent "m" (opened day) "x" dormantDay, .read 0, .read 0, .read 0, .read 0, .commit 0,
    .decayRescore "m" "scheduler" (300 * msPerDay) 10, .read 1, .read 1, .commit 1]

def learned? (day : Int) : Option World := machine.runWhere (fun _ _ => true) { db := lapsed } (learnedOf day)

theorem learned_new : (learned? 200).isSome = true := by decide

theorem learned_old : (learned? 0).isSome = true := by decide

/-- A customer who opened the account on the day of the webhook is scored as active first, and
is announced to be at risk 100 days later. -/
theorem transitions_descend_new_account : ∃ world, learned? 200 = some world ∧
    transitions "x" world.db = [⟨.active, .atRisk⟩] ∧
    ∀ before evaluation after, world.log = before ++ .scored evaluation :: after → evaluation.customerId = "x" →
      evaluation.announced = true →
      (∃ earlier ∈ evaluations "x" before, earlier.newState = evaluation.oldState) ∨
        evaluations "x" (before.take evaluation.readAt) = [] ∧ evaluation.oldState = .active := by
  have told : transitions "x" ((learned? 200).get learned_new).db = [⟨.active, .atRisk⟩] := by decide
  have absent : stateOf "x" lapsed = none := by decide
  have silent : transitions "x" lapsed = [] := by decide
  exact ⟨_, (Option.some_get learned_new).symm, told,
    (transitions_descend absent silent ((Machine.reach_get learned_new).mono fun _ _ _ => trivial)).2⟩

/-- One who opened it 200 days before is announced to have gone dormant by the webhook that
told the store of it. -/
theorem default_announced_as_old :
    ¬∀ (customerId : CustomerId) (db : Db) (world : World), stateOf customerId db = none →
      transitions customerId db = [] → machine.Reach (fun _ _ => True) { db } world →
      ∀ before evaluation after, world.log = before ++ .scored evaluation :: after →
        evaluation.customerId = customerId → evaluation.announced = true →
        ∃ earlier ∈ evaluations customerId before, earlier.newState = evaluation.oldState := by
  intro claim
  have first : ((learned? 0).get learned_old).log = [] ++ .scored ⟨"x", .active, .dormant, true, 0⟩ ::
      ((learned? 0).get learned_old).log.tail := by decide
  obtain ⟨earlier, member, _⟩ := claim "x" lapsed _ (by decide) (by decide)
    ((Machine.reach_get learned_old).mono fun _ _ _ => trivial) _ _ _ first rfl rfl
  cases member

end NewCustomer

end WinBack.Scoring.Webhooks
