import WinBack.Library.Fallible
import WinBack.Library.Machine
import WinBack.Library.Pool
import WinBack.Webhook.Ingest

/-! Deliveries among each other: any number of them make one call at a time in any order, fail or
die between calls, and the other components write the store. -/

namespace WinBack.Webhook

open Library Script

/-- What the environment decides about one call. -/
structure Choice where
  now : Date := 0
  eventId : String := ""
  fails : Bool := false    -- it is not carried out
  lost : Bool := false     -- it is, and its answer does not come back

def Choice.carryOut {Result : Type} (choice : Choice) (db next : Db) (result : Result) : Except Thrown Result × Db :=
  if choice.fails then (.error .connection, db)
  else (if choice.lost then .error .connection else .ok result, next)

def Choice.commit (choice : Choice) (db : Db) (write : Except RepositoryError Db) : Except Thrown Unit × Db :=
  match write with
  | .error error => (.error (.repository error), db)
  | .ok next => choice.carryOut db next ()

def exec (db : Db) (request : Call) (choice : Choice) : Option (Except Thrown request.Value × Db) :=
  match request with
  | .findMerchant shop => some (choice.carryOut db db ((db.merchants.find? (·.shop == shop)).map (·.id)))
  | .clock => some (.ok choice.now, db)
  | .respond _ => some (.ok (), db)
  | .log row => some (choice.commit db (appendLog row db))
  | .ingest key log event =>
    some (choice.commit db (ingest key (log choice.now) (event.map fun row => row choice.eventId choice.now) db))

theorem Choice.carryOut_store {Result : Type} {choice : Choice} {db reached after : Db} {result : Result}
    {answer : Except Thrown Result} (done : choice.carryOut db reached result = (answer, after)) :
    after = db ∨ after = reached := by
  unfold carryOut at done
  split at done <;> cases done
  · exact .inl rfl
  · exact .inr rfl

theorem Choice.commit_store {choice : Choice} {db after : Db} {write : Except RepositoryError Db}
    {answer : Except Thrown Unit} (done : choice.commit db write = (answer, after)) : after = db ∨ write = .ok after := by
  unfold commit at done
  split at done
  · cases done
    exact .inl rfl
  · exact (carryOut_store done).imp_right fun same => congrArg Except.ok same.symm

section Transaction

variable {key : IdempotencyKey} {log : WebhookLog} {event : Option OutboxEvent} {db next : Db}

/-- A transaction that goes through adds all its rows. -/
theorem ingest_ok (done : ingest key log event db = .ok next) :
    next.idempotencyKeys.rows = db.idempotencyKeys.rows ++ [key] ∧ next.webhookLogs = db.webhookLogs ++ [log] ∧
      next.outboxEvents.rows = db.outboxEvents.rows ++ event.toList := by
  obtain ⟨claimed, claims, rest⟩ := bind_eq_ok_iff.mp done
  obtain ⟨logged, logs, publishes⟩ := bind_eq_ok_iff.mp rest
  unfold claimKey at claims
  split at claims
  · cases claims
  · rename_i idempotencyKeys inserted
    split at claims
    · cases claims
      unfold appendLog at logs
      split at logs
      · cases logs
      · cases logs
        unfold publish at publishes
        split at publishes
        · cases publishes
          exact ⟨(Table.insert?_rows inserted).1, rfl, (List.append_nil _).symm⟩
        · split at publishes
          · cases publishes
          · rename_i event outboxEvents added
            cases publishes
            exact ⟨(Table.insert?_rows inserted).1, rfl, (Table.insert?_rows added).1⟩
    · cases claims

/-- With a new id for the event, a violation means that the key is taken. -/
theorem ingest_clash (fresh : ∀ row ∈ event, ∀ stored ∈ db.outboxEvents.rows, stored.id ≠ row.id)
    (failed : ingest key log event db = .error .uniqueConstraint) :
    ∃ stored ∈ db.idempotencyKeys.rows, stored.merchantId = key.merchantId ∧ stored.key = key.key := by
  unfold ingest claimKey at failed
  split at failed
  · rename_i refused
    obtain ⟨stored, listed, clash⟩ := Table.insert?_none refused
    exact ⟨stored, listed, Prod.mk.inj (eq_of_beq clash)⟩
  · split at failed
    · change (appendLog log _ >>= publish event) = _ at failed
      unfold appendLog at failed
      split at failed
      · cases failed
      · change publish event _ = _ at failed
        unfold publish at failed
        split at failed
        · cases failed
        · rename_i row
          split at failed
          · rename_i refused
            obtain ⟨stored, listed, clash⟩ := Table.insert?_none refused
            exact absurd (eq_of_beq clash) (fresh row rfl stored listed)
          · cases failed
    · cases failed

end Transaction

/-- The writes of a delivery. -/
def Call.Of (context : IngestContext) (args : IngestArgs) : Call → Prop
  | .findMerchant _ | .clock | .log _ | .respond _ => True
  | .ingest key row event => ∃ shop topic webhookId, args.topic = some topic ∧ args.webhookId = some webhookId ∧
      key.key = idempKey topic webhookId ∧
      row = ingestedLog key.merchantId shop topic webhookId args.rawBody (tryParseJson context args.rawBody) ∧
      event = (getOutboxEventForTopic topic).map
        (published key.merchantId topic webhookId (tryParseJson context args.rawBody))

def delivers (context : IngestContext) (args : IngestArgs) : Discipline Call Call.Value Thrown Unit where
  allowed _ request := request.Of context args
  next _ _ _ := ()

section Deliveries

variable {context : IngestContext} {args : IngestArgs} {shop topic webhookId : String} {merchantId : MerchantId}

theorem ingestFor_delivers (headed : args.topic = some topic) (identified : args.webhookId = some webhookId) :
    (ingestFor context shop topic webhookId args.rawBody merchantId).Obeys (delivers context args) () fun _ _ => True := by
  unfold ingestFor
  refine obeys_perform_bind.mpr ⟨trivial, fun _ => trivial, fun now => ?_⟩
  apply (obeys_tryCatch ..).mpr
  refine obeys_perform_bind.mpr ⟨?_, fun thrown => ?_, fun _ => trivial⟩
  · exact ⟨shop, topic, webhookId, headed, identified, rfl, rfl, rfl⟩
  · exact obeys_ite.mpr ⟨fun _ => trivial, fun _ => trivial⟩

/-- Every call of a delivery is of its own headers and body. -/
theorem ingestWebhook_delivers :
    (ingestWebhook context args).Obeys (delivers context args) () fun _ _ => True := by
  unfold ingestWebhook
  split
  · rename_i topic shop webhookId hmac headed _ identified _
    split
    · trivial
    · refine obeys_ite.mpr ⟨fun _ => ?_, fun _ => trivial⟩
      refine obeys_perform_bind.mpr ⟨trivial, fun _ => trivial, fun merchant => ?_⟩
      cases merchant with
      | none =>
        refine obeys_perform_bind.mpr ⟨trivial, fun _ => trivial, fun now => ?_⟩
        exact ⟨trivial, fun answer => by cases answer <;> trivial⟩
      | some merchantId => exact ingestFor_delivers headed identified
  · trivial

theorem action_delivers : (action context args).Obeys (delivers context args) () fun _ _ => True := by
  unfold action
  apply (obeys_bind ..).mpr
  apply (obeys_tryCatch ..).mpr
  apply (obeys_bind ..).mpr
  refine ingestWebhook_delivers.mono fun reached outcome _ => ?_
  cases outcome <;> exact ⟨trivial, fun _ => trivial⟩

end Deliveries

abbrev Delivery := Task IngestArgs Call Call.Value Thrown Unit

/-- `responses` is a history that no call reads. -/
structure World where
  db : Db
  deliveries : Pool Delivery := []
  responses : List (IngestArgs × Response) := []

/-- One step of a delivery or of what happens around it. -/
inductive Label where
  | deliver (args : IngestArgs)             -- Shopify posts: first delivery or retry
  | act (slot : Nat) (choice : Choice)
  | crash (slot : Nat)
  | elsewhere (after : Db)                  -- the other components write the store

def Call.response : Call → Option Response
  | .respond response => some response
  | _ => none

def machine (context : IngestContext) : Machine World Label where
  step world
    | .deliver args => some { world with deliveries := world.deliveries.spawn ⟨args, (), action context args⟩ }
    | .act slot choice => (world.deliveries.task? slot).bind fun delivery =>
      (delivery.advance (delivers context delivery.tag) exec world.db choice).map fun (db, next) => {
        db
        deliveries := world.deliveries.put slot next
        responses := world.responses ++ (delivery.pending?.bind Call.response).toList.map (delivery.tag, ·) }
    | .crash slot => (world.deliveries.task? slot).map fun _ =>
      { world with deliveries := world.deliveries.clear slot }
    | .elsewhere after => some { world with db := after }

/-- A delivery keeps to its headers and body. -/
def OfArgs (context : IngestContext) (delivery : Delivery) : Prop :=
  delivery.Follows (delivers context delivery.tag) fun _ _ => True

theorem step_ofArgs {context : IngestContext} {world after : World} {label : Label}
    (every : world.deliveries.Every (OfArgs context)) (moved : (machine context).step world label = some after) :
    after.deliveries.Every (OfArgs context) := by
  cases label with
  | deliver args =>
    cases moved
    exact every.spawn action_delivers
  | act slot choice =>
    obtain ⟨delivery, live, moved⟩ := Option.bind_eq_some_iff.mp moved
    obtain ⟨⟨db, next⟩, advanced, rfl⟩ := Option.map_eq_some_iff.mp moved
    obtain ⟨_, _, _, _, _, tag, _, onward⟩ := Task.Follows.advance (every.get live) advanced
    refine every.put ?_
    unfold OfArgs
    rwa [tag]
  | crash slot =>
    obtain ⟨_, _, rfl⟩ := Option.map_eq_some_iff.mp moved
    exact every.clear
  | elsewhere after =>
    cases moved
    exact every

end WinBack.Webhook
