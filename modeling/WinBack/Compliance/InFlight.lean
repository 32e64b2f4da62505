import WinBack.Compliance.Touched
import WinBack.Outbox.Phases
import WinBack.Scoring.Transactions
import WinBack.Spend.Cap

/-! Redactions among the work that is under way: handlers of transitions, passes of the generation worker,
recomputes and decay sweeps. All of it decides on what it has read of a customer, and writes later. -/

namespace WinBack.Compliance

open Library Script
open Generation (AiGenerateJobPayload)
open Outbox (DrainerContext CustomerStateChangedPayload)

/-- A handler creates rows for the customer of its event, and for no other one. -/
def creates : Discipline Outbox.Call Outbox.Call.Value Outbox.Thrown (Option Reference) where
  allowed about
    | .query _ | .clock | .incrementAndCheck _ _ | .findRecentPurchasedTitles _ _ | .appendAudit _ | .enqueue _ => True
    | .createGeneration _ merchantId customerId _ => about = some (customerId, merchantId)
    | _ => False
  next about _ _ := about

abbrev Handling := Task OutboxEvent Outbox.Call Outbox.Call.Value Outbox.Thrown (Option Reference)

/-- `redacted` says whether the customer in view has been redacted; no step reads it. -/
structure World where
  db : Db
  jobs : List AiGenerateJobPayload := []
  created : List Outbox.Creation := []
  handlers : Pool Handling := []
  passes : Pool Generation.WorkerTask := []
  scorings : Pool Scoring.Task := []
  redacted : Bool := false

inductive Label where
  | transition (eventId : String)                    -- a handler starts: first delivery or again
  | handle (slot : Nat) (choice : Outbox.Choice)
  | drop (slot : Nat)
  | deliver (job : Generation.Job)
  | act (slot : Nat) (choice : Generation.Choice)
  | crash (slot : Nat)
  | recompute (merchantId : MerchantId) (customerId : CustomerId) (now : Date)
  | decayRescore (merchantId : MerchantId) (actorId : String) (now : Date) (batchSize : Nat)
  | read (slot : Nat)
  | commit (slot : Nat)
  | abort (slot : Nat)
  | redact (merchantId : MerchantId) (shop : String) (payload : CustomerRedactPayload) (now : Date)

/-- A handler holds no transaction between its calls. -/
def World.view (world : World) : Outbox.View where
  db := world.db
  jobs := world.jobs
  transaction := none
  locked := []
  created := world.created

/-- No work is under way. -/
def World.finished (world : World) : Bool :=
  world.handlers.all (fun slot => slot.all fun handling => handling.pending?.isNone) &&
    world.passes.all (fun slot => slot.all fun task => task.pending?.isNone) && world.scorings.all Option.isNone

def World.settle (slot : Nat) (next : Option Scoring.Task) (world : World) : World :=
  { world with scorings := next.elim (world.scorings.clear slot) fun task => world.scorings.put slot task }

/-- The request is for this customer, as its row has the identifier. -/
def Names (customerId : CustomerId) (merchantId : MerchantId) (payload : CustomerRedactPayload) (db : Db) : Prop :=
  ∃ row ∈ db.customers.rows, row.id = customerId ∧ row.merchantId = merchantId ∧
    payload.customerId.bind toShopifyCustomerGid = some row.shopifyCustomerId

instance (customerId : CustomerId) (db : Db) : Decidable (Live customerId db) :=
  inferInstanceAs (Decidable (∃ row ∈ _, _))

instance (customerId : CustomerId) (merchantId : MerchantId) (payload : CustomerRedactPayload) (db : Db) :
    Decidable (Names customerId merchantId payload db) :=
  inferInstanceAs (Decidable (∃ row ∈ _, _))

/-- The work on customers, with an eye on one of them. The callers of `recompute` name a customer of the merchant. -/
def inFlight (drainer : DrainerContext) (worker : Generation.WorkerContext) (customerId : CustomerId) :
    Machine World Label where
  step world
    | .transition eventId => (world.db.outboxEvents.find? (·.id == eventId)).bind fun row =>
      if row.type = CustomerScoreService.stateChangedType then some { world with
        handlers := world.handlers.spawn ⟨row, payloadCustomer row.payload, Outbox.handleCustomerStateChanged drainer row⟩ }
      else none
    | .handle slot choice => (world.handlers.task? slot).bind fun handling =>
      (handling.advance creates Outbox.exec world.view choice).map fun (view, next) => { world with
        db := view.db
        jobs := view.jobs
        created := view.created
        handlers := world.handlers.put slot next }
    | .drop slot => (world.handlers.task? slot).map fun _ => { world with handlers := world.handlers.clear slot }
    | .deliver job => some { world with
        passes := world.passes.spawn ⟨job, (), Generation.processAiGenerateJob worker job⟩ }
    | .act slot choice => (world.passes.task? slot).bind fun task =>
      (task.advance Generation.discipline Generation.exec world.db choice).map fun (db, next) =>
        { world with db, passes := world.passes.put slot next }
    | .crash slot => (world.passes.task? slot).map fun _ => { world with passes := world.passes.clear slot }
    | .recompute merchantId customerId now =>
      match world.db.customers.find? fun row => row.id == customerId && row.deletedAt == none with
      | none => some world
      | some customer =>
        if customer.merchantId = merchantId then
          some { world with scorings := world.scorings.spawn (.recomputing merchantId customer now none) }
        else none
    | .decayRescore merchantId actorId now batchSize =>
      match world.db.merchants.find? (·.id == merchantId) with
      | none => some world
      | some merchant => some { world with
          scorings := world.scorings.spawn (.sweeping merchant actorId now batchSize none none) }
    | .read slot => (world.scorings.task? slot).map fun task => world.settle slot (task.read world.db)
    | .commit slot =>
      match world.scorings.task? slot with
      | some (.writing page) =>
        match page.write world.db with
        | .error _ => some (world.settle slot none)
        | .ok db => some ({ world with db }.settle slot page.next?)
      | _ => none
    | .abort slot => some (world.settle slot none)
    | .redact merchantId shop payload now =>
      match processCustomerRedact merchantId shop payload now world.db with
      | .error _ => some world
      | .ok db => some { world with db, redacted := world.redacted || decide (Names customerId merchantId payload world.db) }

section Condition

variable (customerId : CustomerId)

/-- The step commits a transaction that inserts or refreshes rows of the customer. -/
def Inserts (world : World) : Label → Prop
  | .handle slot _ => ∃ handling eventId merchantId args, world.handlers.task? slot = some handling ∧
      handling.pending? = some (.createGeneration eventId merchantId customerId args)
  | .commit slot => ∃ page, world.scorings.task? slot = some (.writing page) ∧ ∃ customer ∈ page.customers, customer.id = customerId
  | _ => False

/-- Such a transaction commits while the customer is live, and so does the redaction. -/
def InTime (world : World) (label : Label) : Prop :=
  match label with
  | .redact merchantId _ payload _ => Names customerId merchantId payload world.db → Live customerId world.db
  | label => Inserts customerId world label → Live customerId world.db

theorem InTime.of_live {world : World} (label : Label) (live : Live customerId world.db) : InTime customerId world label := by
  cases label <;> exact fun _ => live

end Condition

section Handlers

variable {context : DrainerContext} {row : OutboxEvent} {payload : CustomerStateChangedPayload} {shop : String}
  {settings : MerchantSettings} {merchant : Merchant} {about : Option Reference}

theorem text_of_textAt {key text : String} {value : Json} (read : Outbox.textAt key value = some text) :
    value.get? key = some (.str text) := by
  unfold Outbox.textAt at read
  split at read
  · rename_i found
    cases read
    exact found
  · cases read

/-- A payload that is parsed is about its customer. -/
theorem payloadCustomer_of_parse {isDatetime : String → Bool} {value : Json}
    (parsed : Outbox.parseStateChanged isDatetime value = .ok payload) :
    payloadCustomer value = some (payload.customerId, payload.merchantId) := by
  unfold Outbox.parseStateChanged at parsed
  split at parsed
  · cases parsed
  · rename_i output accepted
    split at parsed
    · cases parsed
    · rename_i typed read
      cases parsed
      obtain ⟨fields, rfl, typed⟩ := Option.bind_eq_some_iff.mp read
      have distinct : ["merchantId", "customerId", "shopifyCustomerId", "oldState", "newState", "computedAt", "rfmScore"].Nodup := by
        decide
      obtain ⟨entries, given, customer⟩ := Shape.object_get? accepted (by decide) distinct (.tail _ (.head _))
      obtain ⟨_, again, merchant⟩ := Shape.object_get? accepted (by decide) distinct (.head _)
      cases given
      cases again
      obtain ⟨_, _, read⟩ := Option.bind_eq_some_iff.mp typed
      obtain ⟨merchantId, ofMerchant, read⟩ := Option.bind_eq_some_iff.mp read
      obtain ⟨customerId, ofCustomer, read⟩ := Option.bind_eq_some_iff.mp read
      obtain ⟨_, _, read⟩ := Option.bind_eq_some_iff.mp read
      obtain ⟨_, _, read⟩ := Option.bind_eq_some_iff.mp read
      obtain ⟨_, _, read⟩ := Option.bind_eq_some_iff.mp read
      obtain ⟨_, _, read⟩ := Option.bind_eq_some_iff.mp read
      obtain ⟨_, _, read⟩ := Option.bind_eq_some_iff.mp read
      obtain ⟨_, _, read⟩ := Option.bind_eq_some_iff.mp read
      obtain ⟨_, _, read⟩ := Option.bind_eq_some_iff.mp read
      cases read
      rw [payloadCustomer, ← (Shape.string_eq_ok customer).1, ← (Shape.string_eq_ok merchant).1,
        text_of_textAt ofCustomer, text_of_textAt ofMerchant]

theorem withinHourlyCap_creates : (Outbox.withinHourlyCap row payload shop settings).Obeys creates about
    fun reached _ => reached = about := by
  unfold Outbox.withinHourlyCap
  refine obeys_perform_bind.mpr ⟨trivial, fun _ => rfl, fun rateLimit => ?_⟩
  refine obeys_ite.mpr ⟨fun _ => rfl, fun _ => ?_⟩
  refine obeys_perform_bind.mpr ⟨trivial, fun _ => rfl, fun now => ?_⟩
  exact obeys_perform_bind.mpr ⟨trivial, fun _ => rfl, fun _ => rfl⟩

theorem withinSpendCap_creates : (Outbox.withinSpendCap context row payload shop settings).Obeys creates about
    fun reached _ => reached = about := by
  unfold Outbox.withinSpendCap
  refine obeys_perform_bind.mpr ⟨trivial, fun _ => rfl, fun now => ?_⟩
  refine obeys_perform_bind.mpr ⟨trivial, fun _ => rfl, fun spent => ?_⟩
  refine Outbox.obeys_orThrow (fun _ => rfl) fun estimated => ?_
  refine obeys_ite.mpr ⟨fun _ => rfl, fun _ => ?_⟩
  exact obeys_perform_bind.mpr ⟨trivial, fun _ => rfl, fun _ => rfl⟩

theorem createAndEnqueue_creates (known : about = some (payload.customerId, payload.merchantId)) :
    (Outbox.createAndEnqueue context row payload merchant settings).Obeys creates about fun _ _ => True := by
  unfold Outbox.createAndEnqueue
  refine obeys_perform_bind.mpr ⟨trivial, fun _ => trivial, fun customer => ?_⟩
  cases customer with
  | none => trivial
  | some customer =>
    refine obeys_perform_bind.mpr ⟨trivial, fun _ => trivial, fun recentProducts => ?_⟩
    refine Outbox.obeys_orThrow (fun _ => trivial) fun aiTone => ?_
    exact obeys_perform_bind.mpr ⟨known, fun _ => trivial, fun aiGenerationId => ⟨trivial, fun _ => trivial⟩⟩

theorem generateForTransition_creates (known : about = some (payload.customerId, payload.merchantId)) :
    (Outbox.generateForTransition context row payload).Obeys creates about fun _ _ => True := by
  unfold Outbox.generateForTransition
  refine obeys_perform_bind.mpr ⟨trivial, fun _ => trivial, fun billing => ?_⟩
  refine obeys_ite.mpr ⟨fun _ => trivial, fun _ => ?_⟩
  refine obeys_perform_bind.mpr ⟨trivial, fun _ => trivial, fun merchant => ?_⟩
  cases merchant with
  | none => trivial
  | some merchant =>
    refine obeys_perform_bind.mpr ⟨trivial, fun _ => trivial, fun settings => ?_⟩
    cases settings with
    | none => trivial
    | some settings =>
      refine (obeys_bind ..).mpr (withinHourlyCap_creates.mono fun reached outcome same => ?_)
      subst same
      cases outcome with
      | error error => trivial
      | ok within =>
        refine obeys_ite.mpr ⟨fun _ => ?_, fun _ => trivial⟩
        refine (obeys_bind ..).mpr (withinSpendCap_creates.mono fun reached outcome same => ?_)
        subst same
        cases outcome with
        | error error => trivial
        | ok within => exact obeys_ite.mpr ⟨fun _ => createAndEnqueue_creates known, fun _ => trivial⟩

/-- A handler creates rows for the customer that its event is about. -/
theorem handleCustomerStateChanged_creates :
    (Outbox.handleCustomerStateChanged context row).Obeys creates (payloadCustomer row.payload) fun _ _ => True := by
  unfold Outbox.handleCustomerStateChanged
  cases parsed : Outbox.parseStateChanged context.isDatetime row.payload with
  | error thrown => trivial
  | ok payload =>
    exact obeys_ite.mpr ⟨fun _ => generateForTransition_creates (payloadCustomer_of_parse parsed), fun _ => trivial⟩

/-- What a call of a handler writes: nothing about customers, or a generation with its message. -/
theorem handled_writes {request : Outbox.Call} {choice : Outbox.Choice} {view after : Outbox.View}
    {answer : Except Outbox.Thrown request.Value} (allowed : creates.allowed about request)
    (executed : Outbox.exec view request choice = some (answer, after)) :
    (∃ auditLogs, after.db = { view.db with auditLogs }) ∨ ∃ eventId merchantId customerId args created,
      request = .createGeneration eventId merchantId customerId args ∧ about = some (customerId, merchantId) ∧
        createGeneration merchantId customerId created choice.now view.db = .ok after.db := by
  have quiet {Result : Type} {kept : Outbox.View} {value : Result} {given : Except Outbox.Thrown Result}
      (ran : choice.carryOut view kept value = (given, after)) (same : ∃ auditLogs, kept.db = { view.db with auditLogs }) :
      ∃ auditLogs, after.db = { view.db with auditLogs } := by
    rcases Outbox.Choice.carryOut_cases ran with ⟨_, _, rfl⟩ | ⟨_, _, _, rfl⟩ | ⟨_, _, _, rfl⟩
    · exact ⟨_, rfl⟩
    · exact same
    · exact same
  cases request with
  | query | findRecentPurchasedTitles | incrementAndCheck | enqueue =>
    exact .inl (quiet (Option.some.inj executed) ⟨_, rfl⟩)
  | appendAudit log => exact .inl (quiet (Option.some.inj executed) ⟨_, rfl⟩)
  | clock =>
    cases executed
    exact .inl ⟨_, rfl⟩
  | createGeneration eventId merchantId customerId args =>
    simp only [Outbox.exec] at executed
    split at executed
    · cases executed
      exact .inl ⟨_, rfl⟩
    · rename_i db done
      rcases Outbox.Choice.carryOut_cases (Option.some.inj executed) with ⟨_, _, rfl⟩ | ⟨_, _, _, rfl⟩ | ⟨_, _, _, rfl⟩
      · exact .inl ⟨_, rfl⟩
      · exact .inr ⟨eventId, merchantId, customerId, args, _, rfl, allowed, done⟩
      · exact .inr ⟨eventId, merchantId, customerId, args, _, rfl, allowed, done⟩
  | process | handled | claimBatch | mark | commit | rollback | markDeferredFailed => exact absurd allowed not_false

end Handlers

section Redactions

variable {db next : Db} {merchantId : MerchantId} {customerId : CustomerId} {shop : String} {payload : CustomerRedactPayload}
  {now : Date} {pipeline : Pipeline}

/-- The row that a request names is the one with this id. -/
theorem stored_of_names (names : Names customerId merchantId payload db) (live : Live customerId db) :
    ∃ row ∈ db.customers.rows, row.id = customerId ∧ row.merchantId = merchantId ∧ row.deletedAt = none ∧
      payload.customerId.bind toShopifyCustomerGid = some row.shopifyCustomerId := by
  obtain ⟨row, stored, here, owned, named⟩ := names
  obtain ⟨other, present, there, alive⟩ := live
  have same : other = row :=
    db.customers.eq_of_clash present stored (by simp [Indexed.clash, Indexed.index, here, there])
  exact ⟨row, stored, here, owned, same ▸ alive, named⟩

/-- A redaction of a live customer leaves no row about it, and the customer deleted. -/
theorem cleared_of_redact (linked : Linked pipeline) (names : Names customerId merchantId payload pipeline.db)
    (live : Live customerId pipeline.db) (redacted : processCustomerRedact merchantId shop payload now pipeline.db = .ok next) :
    ¬Live customerId next ∧ ∀ table, mentions next customerId table = false := by
  obtain ⟨customer, stored, rfl, rfl, alive, named⟩ := stored_of_names names live
  obtain ⟨id, given, wrapped⟩ := Option.bind_eq_some_iff.mp named
  constructor
  · rintro ⟨row, present, here, undeleted⟩
    have found := findByShopifyId_eq_some_iff.mpr ⟨stored, rfl, rfl, alive⟩
    simp only [processCustomerRedact, given, Option.bind_some, wrapped, Option.map_some, found] at redacted
    split at redacted
    · cases redacted
    · rename_i customers updated
      obtain rfl := Except.ok.inj redacted
      dsimp only at present
      rw [customers_clear, Table.updateChecked?_rows updated] at present
      obtain ⟨old, listed, rfl⟩ := List.mem_map.mp present
      by_cases changed : (old.id == customer.id && old.merchantId == customer.merchantId) = true
      · rw [if_pos changed] at undeleted
        cases undeleted
      · rw [if_neg changed] at here
        have same : old = customer :=
          pipeline.db.customers.eq_of_clash listed stored (by simp [Indexed.clash, Indexed.index, here])
        exact changed (by simp [same])
  · intro table
    refine (erased_of_live linked stored given wrapped alive redacted).children table ?_
    cases table <;> decide

end Redactions

section Runs

variable {drainer : DrainerContext} {worker : Generation.WorkerContext} {customerId : CustomerId} {world next : World}
  {label : Label} {db : Db} {about : List Reference}

/-- A scoring task writes about customers of its merchant. -/
def Owned (owned : List Reference) : Scoring.Task → Prop
  | .recomputing merchantId customer _ merchant => (customer.id, merchantId) ∈ owned ∧ ∀ found ∈ merchant, found.id = merchantId
  | .sweeping .. => True
  | .writing page => ∀ customer ∈ page.customers, (customer.id, page.merchant.id) ∈ owned

/-- A redacted customer stays deleted and without rows. -/
structure Sound (customerId : CustomerId) (world : World) : Prop where
  linked : Linked { db := world.db }
  follow : world.handlers.Every fun handling => handling.Follows creates fun _ _ => True
  known : world.handlers.Every fun handling => ∀ reference ∈ handling.phase, reference ∈ owners world.db
  owned : world.scorings.Every (Owned (owners world.db))
  cleared : world.redacted = true → ¬Live customerId world.db ∧ ∀ table, mentions world.db customerId table = false

theorem Owned.mono {first second : List Reference} {task : Scoring.Task} (owned : Owned first task)
    (stay : ∀ reference ∈ first, reference ∈ second) : Owned second task := by
  cases task with
  | recomputing merchantId customer now merchant => exact ⟨stay _ owned.1, owned.2⟩
  | sweeping => trivial
  | writing page => exact fun customer listed => stay _ (owned customer listed)

/-- A transaction that is not about a redacted customer. -/
theorem Sound.write (sound : Sound customerId world) (grows : Grows world.db db) (touches : Touches about world.db db)
    (apart : world.redacted = true → ∀ merchantId, (customerId, merchantId) ∉ about) :
    Sound customerId { world with db } where
  linked := @Linked.grows _ sound.linked _ grows [] fun _ member => absurd member List.not_mem_nil
  follow := sound.follow
  known handling member reference about := grows.owners reference (sound.known handling member reference about)
  owned task member := (sound.owned task member).mono grows.owners
  cleared redacted := by
    obtain ⟨dead, nothing⟩ := sound.cleared redacted
    exact ⟨fun alive => dead (touches.live customerId alive), fun table => touches.spares (apart redacted) (nothing table)⟩

/-- A transaction without rows of any customer. -/
theorem Sound.quiet (sound : Sound customerId world) (grows : Grows world.db db) (touches : Touches [] world.db db) :
    Sound customerId { world with db } :=
  sound.write grows touches fun _ _ => List.not_mem_nil

/-- What a task reads next it may write about. -/
theorem Owned.read {task after : Scoring.Task} (owned : Owned (owners db) task) (step : task.read db = some after) :
    Owned (owners db) after := by
  cases task with
  | recomputing merchantId customer now merchant =>
    cases merchant with
    | none =>
      obtain ⟨merchant, found, rfl⟩ := Option.map_eq_some_iff.mp step
      refine ⟨owned.1, fun other same => ?_⟩
      obtain rfl := Option.mem_some_iff.mp same
      simpa using (Table.find?_mem found).2
    | some merchant =>
      obtain ⟨snapshot, _, rfl⟩ := Option.map_eq_some_iff.mp step
      intro other listed
      obtain rfl := List.mem_singleton.mp listed
      rw [owned.2 merchant rfl]
      exact owned.1
  | sweeping merchant actorId now batchSize snapshot cursor =>
    cases snapshot with
    | none =>
      obtain ⟨snapshot, _, rfl⟩ := Option.map_eq_some_iff.mp step
      trivial
    | some snapshot =>
      cases step
      intro customer listed
      obtain ⟨stored, same, _⟩ := Scoring.mem_selected.mp (Paging.page_sublist.subset listed)
      exact mem_owners.mpr ⟨customer, stored, rfl, same⟩
  | writing page =>
    cases step
    exact owned

theorem owned_next {page : Scoring.Page} {task : Scoring.Task} (next : page.next? = some task) : Owned (owners db) task := by
  unfold Scoring.Page.next? at next
  split at next
  · split at next
    · cases next
    · cases next
      trivial
  · cases next

theorem Sound.settle (sound : Sound customerId world) (slot : Nat) {after : Option Scoring.Task}
    (owned : ∀ task ∈ after, Owned (owners world.db) task) : Sound customerId (world.settle slot after) where
  linked := sound.linked
  follow := sound.follow
  known := sound.known
  owned := by
    cases after with
    | none => exact sound.owned.clear
    | some task => exact sound.owned.put (owned task rfl)
  cleared := sound.cleared

/-- A call of a handler writes about the customer of its event at most. -/
theorem Sound.handle (sound : Sound customerId world) {slot : Nat} {choice : Outbox.Choice}
    (moved : (inFlight drainer worker customerId).step world (.handle slot choice) = some next)
    (inTime : InTime customerId world (.handle slot choice)) : Sound customerId next := by
  obtain ⟨handling, live, moved⟩ := Option.bind_eq_some_iff.mp moved
  obtain ⟨⟨view, after⟩, advanced, rfl⟩ := Option.map_eq_some_iff.mp moved
  obtain ⟨request, answer, pending, allowed, executed, _, phase, follows⟩ := (sound.follow.get live).advance advanced
  have written : Sound customerId { world with db := view.db } := by
    rcases handled_writes allowed executed with ⟨auditLogs, same⟩ | ⟨eventId, merchantId, subject, args, created, rfl, about, done⟩
    · rw [same]
      exact sound.quiet (grows_audited _ _) (touches_audited _ _)
    · have owned := sound.known.get live _ about
      refine sound.write (grows_createGeneration owned done) (touches_createGeneration done) fun redacted scope here => ?_
      -- the generation is of this customer, so it is live, and not redacted
      obtain ⟨rfl, rfl⟩ := Prod.mk.inj (List.mem_singleton.mp here)
      exact (sound.cleared redacted).1 (inTime ⟨handling, eventId, scope, args, live, pending⟩)
  exact {
    linked := written.linked
    follow := written.follow.put follows
    known := written.known.put fun reference about => written.known.get live reference (by rwa [phase] at about)
    owned := written.owned
    cleared := written.cleared }

theorem Sound.act (sound : Sound customerId world) {slot : Nat} {choice : Generation.Choice}
    (moved : (inFlight drainer worker customerId).step world (.act slot choice) = some next) : Sound customerId next := by
  obtain ⟨task, live, moved⟩ := Option.bind_eq_some_iff.mp moved
  obtain ⟨⟨db, after⟩, advanced, rfl⟩ := Option.map_eq_some_iff.mp moved
  obtain ⟨request, _, answer, _, executed, _⟩ := Task.advance_cases advanced
  have written : Sound customerId { world with db } := by
    rcases Generation.exec_cases executed with rfl | ⟨scope, id, lastError, audits, _, rfl⟩ | ⟨scope, completion, _, done⟩
    · exact sound
    · refine sound.quiet ?_ ?_
      · exact (grows_markFailed id lastError _).trans (grows_audited _ _)
      · exact (touches_markFailed id lastError _).trans (touches_audited _ _)
    · exact sound.quiet (grows_completeGeneration done) (touches_completeGeneration done)
  exact { written with }

theorem Sound.commit (sound : Sound customerId world) {slot : Nat}
    (moved : (inFlight drainer worker customerId).step world (.commit slot) = some next)
    (inTime : InTime customerId world (.commit slot)) : Sound customerId next := by
  simp only [inFlight] at moved
  split at moved
  · rename_i page live
    split at moved
    · cases moved
      exact sound.settle slot fun _ none => absurd none (Option.not_mem_none _)
    · rename_i db done
      cases moved
      have owned := sound.owned.get live
      have written : Sound customerId { world with db } := by
        refine sound.write (grows_rescorePage owned done) (touches_rescorePage done) fun redacted scope here => ?_
        -- the page has a row of this customer, so it is live, and not redacted
        obtain ⟨customer, listed, same⟩ := List.mem_map.mp here
        exact (sound.cleared redacted).1 (inTime ⟨page, live, customer, listed, (Prod.mk.inj same).1⟩)
      exact written.settle slot fun task next => owned_next next
  · cases moved

theorem Sound.redact (sound : Sound customerId world) {merchantId : MerchantId} {shop : String} {payload : CustomerRedactPayload}
    {now : Date} (moved : (inFlight drainer worker customerId).step world (.redact merchantId shop payload now) = some next)
    (inTime : InTime customerId world (.redact merchantId shop payload now)) : Sound customerId next := by
  simp only [inFlight] at moved
  split at moved
  · cases moved
    exact sound
  · rename_i db done
    cases moved
    have written : Sound customerId { world with db } :=
      sound.quiet (grows_processCustomerRedact done) (touches_processCustomerRedact done)
    refine { written with cleared := fun redacted => ?_ }
    rcases Bool.or_eq_true_iff.mp redacted with before | names
    · exact written.cleared before
    · have named := of_decide_eq_true names
      exact cleared_of_redact sound.linked named (inTime named) done

theorem Sound.step (sound : Sound customerId world) (moved : (inFlight drainer worker customerId).step world label = some next)
    (inTime : InTime customerId world label) : Sound customerId next := by
  cases label with
  | transition eventId =>
    obtain ⟨row, found, moved⟩ := Option.bind_eq_some_iff.mp moved
    split at moved
    · rename_i typed
      cases moved
      refine { sound with follow := sound.follow.spawn handleCustomerStateChanged_creates, known := sound.known.spawn ?_ }
      intro reference about
      refine sound.linked.transitions reference (Table.mem_links.mpr ⟨row, (Table.find?_mem found).1, ?_⟩)
      exact (if_pos typed).trans about
    · cases moved
  | handle slot choice => exact sound.handle moved inTime
  | drop slot =>
    obtain ⟨_, _, rfl⟩ := Option.map_eq_some_iff.mp moved
    exact { sound with follow := sound.follow.clear, known := sound.known.clear }
  | deliver job =>
    cases moved
    exact { sound with }
  | act slot choice => exact sound.act moved
  | crash slot =>
    obtain ⟨_, _, rfl⟩ := Option.map_eq_some_iff.mp moved
    exact { sound with }
  | recompute merchantId subject now =>
    simp only [inFlight] at moved
    split at moved
    · cases moved
      exact sound
    · rename_i customer found
      split at moved
      · rename_i merchant
        cases moved
        refine { sound with owned := sound.owned.spawn ⟨?_, fun _ none => absurd none (Option.not_mem_none _)⟩ }
        exact mem_owners.mpr ⟨customer, (Table.find?_mem found).1, rfl, merchant⟩
      · cases moved
  | decayRescore merchantId actorId now batchSize =>
    simp only [inFlight] at moved
    split at moved
    · cases moved
      exact sound
    · cases moved
      exact { sound with owned := sound.owned.spawn trivial }
  | read slot =>
    obtain ⟨task, live, rfl⟩ := Option.map_eq_some_iff.mp moved
    exact sound.settle slot fun after step => (sound.owned.get live).read step
  | commit slot => exact sound.commit moved inTime
  | abort slot =>
    cases moved
    exact sound.settle slot fun _ none => absurd none (Option.not_mem_none _)
  | redact merchantId shop payload now => exact sound.redact moved inTime

/-- Where every transaction that writes about the customer, and the redaction, commits while the customer is live, none
of its rows is left once it is redacted, whatever else is under way. -/
theorem redaction_wins {pipeline : Pipeline} (reachable : Reachable pipeline) (drainer : DrainerContext)
    (worker : Generation.WorkerContext) (customerId : CustomerId)
    (reach : (inFlight drainer worker customerId).Reach (InTime customerId) { db := pipeline.db } world) :
    world.redacted = true → ∀ table ∈ customerRedactChildTables, mentions world.db customerId table = false := by
  have start : Sound customerId { db := pipeline.db } := {
    linked := by
      have linked := linked_of_reachable reachable
      exact { linked with jobs := fun _ member => absurd member List.not_mem_nil }
    follow := fun _ member => absurd member List.not_mem_nil
    known := fun _ member => absurd member List.not_mem_nil
    owned := fun _ member => absurd member List.not_mem_nil
    cleared := fun redacted => absurd redacted Bool.false_ne_true }
  have sound := reach.invariant start fun _ _ _ inTime moved sound => sound.step moved inTime
  exact fun redacted table _ => (sound.cleared redacted).2 table

end Runs

section Samples

open Outbox (winbackContext)
open Spend (winbackWorker)

/-- A paying merchant without customers, scored once before. -/
def scoredMerchant : Db where
  merchants := .single { id := "m", shop := "m.myshopify.com", scoringInitializedAt := some 0 }
  merchantSettings := .single { merchantId := "m" }
  billingSubscriptions := .single { merchantId := "m", status := .active }

theorem fresh_scoredMerchant : Fresh scoredMerchant := ⟨rfl, rfl, rfl, rfl, rfl, rfl, rfl, rfl⟩

/-- `customers/update` for a customer that scores at risk, and so is announced. -/
def lapsed : Operation :=
  .customerUpserted "m" { id := .text "7", createdAt := 0, updatedAt := 0 } "c"
    { score := { rDays := 70, fCount := 2, mCents := 4200, newState := .atRisk }, eventId := "e" } 1772323200000

def lapse? : Option Pipeline := history.runWhere (fun _ _ => true) { db := scoredMerchant } [lapsed]

theorem lapses : lapse?.isSome = true := by decide

theorem reachable_lapse : Reachable (lapse?.get lapses) :=
  ⟨scoredMerchant, fresh_scoredMerchant, (Machine.reach_get lapses).mono fun _ _ _ => trivial⟩

def inFlight? (check : World → Label → Bool) (labels : List Label) : Option World :=
  (inFlight winbackContext winbackWorker "c").runWhere check { db := (lapse?.get lapses).db } labels

/-- The handler has read the customer. -/
def looked : List Label := .transition "e" :: List.replicate 7 (.handle 0 {})

/-- It drafts a message for it. -/
def drafted : List Label := [.handle 0 {}, .handle 0 { generationId := "g", messageId := "s" }, .handle 0 {}]

def redaction : Label := .redact "m" "m.myshopify.com" redactSeven 5

def whileLive (world : World) (_ : Label) : Bool := decide (Live "c" world.db)

theorem drafts_first : (inFlight? whileLive (looked ++ drafted ++ [redaction])).isSome = true := by decide

theorem redaction_wins_last : ∃ world, inFlight? whileLive (looked ++ drafted ++ [redaction]) = some world ∧
    world.created = [⟨"e", "g", "s"⟩] ∧ world.redacted = true ∧
    ∀ table ∈ customerRedactChildTables, mentions world.db "c" table = false := by
  have marked : ((inFlight? whileLive (looked ++ drafted ++ [redaction])).get drafts_first).redacted = true := by decide
  have reach := (Machine.reach_get drafts_first).mono fun _ label live => InTime.of_live "c" label (of_decide_eq_true live)
  exact ⟨_, (Option.some_get drafts_first).symm, by decide, marked,
    redaction_wins reachable_lapse winbackContext winbackWorker "c" reach marked⟩

theorem redacts_first : (inFlight? (fun _ _ => true) (looked ++ [redaction] ++ drafted)).isSome = true := by decide

/-- The redaction commits after the handler has read the customer, and before it drafts. -/
theorem redaction_loses : ¬∀ (pipeline : Pipeline) (drainer : DrainerContext) (worker : Generation.WorkerContext)
    (customerId : CustomerId) (world : World), Reachable pipeline →
    (inFlight drainer worker customerId).Reach (fun _ _ => True) { db := pipeline.db } world →
    world.redacted = true → world.finished = true →
    ∀ table ∈ customerRedactChildTables, mentions world.db customerId table = false := by
  intro claim
  have reach := (Machine.reach_get redacts_first).mono fun _ _ _ => trivial
  have none := claim _ winbackContext winbackWorker "c" _ reachable_lapse reach (by decide) (by decide)
    .message (by decide)
  have one : mentions ((inFlight? (fun _ _ => true) (looked ++ [redaction] ++ drafted)).get redacts_first).db "c" .message = true := by
    decide
  exact Bool.false_ne_true (none.symm.trans one)

end Samples

end WinBack.Compliance
