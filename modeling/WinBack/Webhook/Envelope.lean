import WinBack.Outbox.Drainer
import WinBack.Webhook.System

/-! What a delivery about personal data leaves for the drainer. The row carries an envelope around
the body, and the schema of its handler asks for the fields of the body. -/

namespace WinBack.Webhook

open Library
open Outbox (GdprTopic DrainerContext dispatchEvent drainRow runDeferred maxOutboxAttempts)

def header : GdprTopic → String
  | .customerDataRequest => "customers/data_request"
  | .customerRedact => "customers/redact"
  | .shopRedact => "shop/redact"

def eventOf : GdprTopic → OutboxEventType
  | .customerDataRequest => .gdprCustomerDataRequested
  | .customerRedact => .gdprCustomerRedacted
  | .shopRedact => .gdprShopRedacted

@[simp] theorem getOutboxEventForTopic_header (topic : GdprTopic) :
    getOutboxEventForTopic (header topic) = some (eventOf topic) := by
  cases topic <;> decide

/-- The handler of a topic reads the payload. -/
def Parses (topic : GdprTopic) (payload : Json) : Prop := ∃ output, topic.schema (some payload) = .ok output

section Rejected

variable {topic : GdprTopic} {name webhookId : String} {body : Json} {row : OutboxEvent} {issues : List Issue}

/-- The envelope has no field `shop_domain`, whatever the body has. -/
theorem envelope_rejected (topic : GdprTopic) (name webhookId : String) (body : Json) :
    ∃ issues, topic.schema (some (envelope name webhookId body)) = .error issues ∧
      ⟨["shop_domain"], .invalidType "string" "undefined"⟩ ∈ issues := by
  have absent : (envelope name webhookId body).get? "shop_domain" = none := by
    simp [envelope, Json.get?_cons]
  cases topic with
  | customerDataRequest =>
    unfold GdprTopic.schema Outbox.customerDataRequestPayloadSchema
    exact Shape.object_missing_string (.tail _ (.head _)) absent
  | customerRedact =>
    unfold GdprTopic.schema Outbox.customerRedactPayloadSchema
    exact Shape.object_missing_string (.tail _ (.head _)) absent
  | shopRedact =>
    unfold GdprTopic.schema Outbox.shopRedactPayloadSchema
    exact Shape.object_missing_string (.tail _ (.head _)) absent

theorem envelope_unparsed (topic : GdprTopic) (name webhookId : String) (body : Json) :
    ¬Parses topic (envelope name webhookId body) := by
  rintro ⟨output, accepted⟩
  obtain ⟨issues, rejected, _⟩ := envelope_rejected topic name webhookId body
  rw [accepted] at rejected
  cases rejected

/-- The dispatch throws before it makes a call, and the drainer records that and no more. -/
structure Fails (drainer : DrainerContext) (row : OutboxEvent) (issues : List Issue) : Prop where
  dispatched : dispatchEvent drainer row = throw (.zod issues)
  drained : drainRow drainer row = Outbox.mark row.id (if maxOutboxAttempts ≤ row.attempts + 1 then
    .deadLettered (drainer.zodMessage issues) else .failed (drainer.zodMessage issues))
  deferred : ∀ rest, runDeferred drainer (row :: rest) = do
    tryCatch (Outbox.perform (.markDeferredFailed row.id (drainer.zodMessage issues))) fun _ => return
    runDeferred drainer rest

theorem dispatchEvent_rejected {drainer : DrainerContext} (type : row.type = (eventOf topic).text)
    (rejected : topic.schema (some row.payload) = .error issues) : dispatchEvent drainer row = throw (.zod issues) := by
  have handled : Outbox.handleGdpr topic row = throw (.zod issues) := by
    unfold Outbox.handleGdpr
    rw [rejected]
    rfl
  unfold dispatchEvent
  rw [type, OutboxEventType.ofText?_text]
  cases topic <;> exact handled

theorem fails_of_rejected (drainer : DrainerContext) (type : row.type = (eventOf topic).text)
    (rejected : topic.schema (some row.payload) = .error issues) : Fails drainer row issues := by
  have dispatched : dispatchEvent drainer row = throw (.zod issues) := dispatchEvent_rejected type rejected
  constructor
  · exact dispatched
  · unfold drainRow
    rw [dispatched]
    change Outbox.mark row.id (Outbox.failureMark drainer row (.zod issues)) = _
    simp [Outbox.failureMark, Outbox.isRetryable, DrainerContext.message]
  · intro rest
    rw [runDeferred, dispatched]
    rfl

end Rejected

section Written

variable {context : IngestContext} {args : IngestArgs} {topic : GdprTopic} {row : OutboxEvent}

/-- Some step of a delivery, in some run, appends the row. -/
def Writes (context : IngestContext) (args : IngestArgs) (row : OutboxEvent) : Prop :=
  ∃ origin world after slot choice delivery, origin.deliveries = [] ∧
    (machine context).Reach (fun _ _ => True) origin world ∧ world.deliveries.task? slot = some delivery ∧
    delivery.tag = args ∧ (machine context).step world (.act slot choice) = some after ∧
    after.db.outboxEvents.rows = world.db.outboxEvents.rows ++ [row]

/-- A delivery adds to the outbox what it publishes, and nothing else. -/
theorem exec_outbox {db after : Db} {request : Call} {choice : Choice} {answer : Except Thrown request.Value}
    (executed : exec db request choice = some (answer, after)) : after.outboxEvents = db.outboxEvents ∨
      ∃ key log event, request = .ingest key log event ∧ after.outboxEvents.rows =
        db.outboxEvents.rows ++ (event.map fun row => row choice.eventId choice.now).toList := by
  cases request with
  | findMerchant shop =>
    rcases Choice.carryOut_store (Option.some.inj executed) with rfl | rfl <;> exact .inl rfl
  | clock | respond response =>
    cases executed
    exact .inl rfl
  | log row =>
    rcases Choice.commit_store (Option.some.inj executed) with rfl | written
    · exact .inl rfl
    · unfold appendLog at written
      split at written <;> cases written
      exact .inl rfl
  | ingest key log event =>
    rcases Choice.commit_store (Option.some.inj executed) with rfl | written
    · exact .inl rfl
    · exact .inr ⟨key, log, event, rfl, (ingest_ok written).2.2⟩

theorem published_of_writes (writes : Writes context args row) (named : args.topic = some (header topic)) :
    ∃ merchantId webhookId body id createdAt,
      row = published merchantId (header topic) webhookId body (eventOf topic) id createdAt := by
  obtain ⟨origin, world, after, slot, choice, delivery, idle, reach, live, rfl, moved, appended⟩ := writes
  have every : world.deliveries.Every (OfArgs context) :=
    reach.invariant (fun _ member => by simp [idle] at member) fun _ _ _ _ moved every => step_ofArgs every moved
  obtain ⟨other, alive, moved⟩ := Option.bind_eq_some_iff.mp moved
  cases Option.some.inj (alive.symm.trans live)
  obtain ⟨⟨db, next⟩, advanced, rfl⟩ := Option.map_eq_some_iff.mp moved
  obtain ⟨request, answer, _, of, executed, _⟩ := Task.Follows.advance (every.get live) advanced
  rcases exec_outbox executed with same | ⟨key, log, event, rfl, added⟩
  · rw [show db.outboxEvents = world.db.outboxEvents from same] at appended
    simp at appended
  · obtain ⟨shop, topic, webhookId, headed, _, _, _, rfl⟩ := of
    cases headed.symm.trans named
    have single := List.append_cancel_left (added.symm.trans appended)
    simp only [getOutboxEventForTopic_header, Option.map_some, Option.toList_some, List.cons.injEq, and_true] at single
    exact ⟨_, webhookId, _, _, _, single.symm⟩

/-- No row that a delivery about personal data writes is read by its handler; every dispatch of it
fails, and is recorded as a failure. -/
theorem gdpr_rows_never_parse (writes : Writes context args row) (named : args.topic = some (header topic)) :
    row.type = (eventOf topic).text ∧ ¬Parses topic row.payload ∧
      ∀ (drainer : DrainerContext) (later : OutboxEvent), later.type = row.type → later.payload = row.payload →
        ∃ issues, Fails drainer later issues := by
  obtain ⟨merchantId, webhookId, body, id, createdAt, rfl⟩ := published_of_writes writes named
  refine ⟨rfl, envelope_unparsed topic _ _ _, fun drainer later type payload => ?_⟩
  obtain ⟨issues, rejected, _⟩ := envelope_rejected topic (header topic) webhookId body
  exact ⟨issues, fails_of_rejected drainer type (payload ▸ rejected)⟩

end Written

section Samples

deriving instance DecidableEq for OutboxEvent

def redactText : String :=
  "\x7b\"shop_id\":954889,\"shop_domain\":\"acme.myshopify.com\",\"customer\":\x7b\"id\":191167,\"email\":\"john@example.com\",\"phone\":\"555-625-1199\"\x7d,\"orders_to_redact\":[299938,280263]\x7d"

def redactBody : Json := .obj [("shop_id", .num 954889), ("shop_domain", .str "acme.myshopify.com"),
  ("customer", .obj [("id", .num 191167), ("email", .str "john@example.com"), ("phone", .str "555-625-1199")]),
  ("orders_to_redact", .arr [.num 299938, .num 280263])]

def redactDigest : String := "EZX+JOEqSIC5W2ff80F2HhYrRTsHj4q5BhrZeOgrPrc="

def redactContext : IngestContext where
  shopifyApiSecret := "secret"
  verifyHmacSha256Base64 secret rawBody headerValue :=
    secret == "secret" && rawBody == redactText && headerValue == redactDigest
  parseJson raw := if raw = redactText then some redactBody else none

def redactArgs : IngestArgs where
  topic := some "customers/redact"
  shop := some "Acme.myshopify.com"
  webhookId := some "b54557e4"
  hmac := some redactDigest
  rawBody := redactText

def installed : World where
  db := { merchants := .single { id := "m", shop := "acme.myshopify.com" } }

/-- The delivery has looked its merchant up and read the clock. -/
def authenticated : List Label := [.deliver redactArgs, .act 0 {}, .act 0 {}]

def redactRow : OutboxEvent :=
  published "m" "customers/redact" "b54557e4" redactBody .gdprCustomerRedacted "e" 5

/-- The delivery writes its row. -/
theorem redact_writes : Writes redactContext redactArgs redactRow := by
  have commits : (((machine redactContext).runWhere (fun _ _ => true) installed authenticated).bind fun world =>
      ((machine redactContext).step world (.act 0 { eventId := "e", now := 5 })).bind fun after =>
        (world.deliveries.task? 0).bind fun delivery =>
          if delivery.tag = redactArgs ∧ after.db.outboxEvents.rows = world.db.outboxEvents.rows ++ [redactRow] then some ()
          else none) = some () := by decide +kernel
  obtain ⟨world, ran, rest⟩ := Option.bind_eq_some_iff.mp commits
  obtain ⟨after, moved, rest⟩ := Option.bind_eq_some_iff.mp rest
  obtain ⟨delivery, live, rest⟩ := Option.bind_eq_some_iff.mp rest
  split at rest
  · rename_i facts
    exact ⟨installed, world, after, 0, _, delivery, rfl, (Machine.runWhere_reach ran).mono fun _ _ _ => trivial, live,
      facts.1, moved, facts.2⟩
  · cases rest

theorem redactBody_parses : Parses .customerRedact (tryParseJson redactContext redactArgs.rawBody) :=
  ⟨some redactBody, by decide +kernel⟩

theorem gdpr_rows_never_parse_redact : redactRow.type = "gdpr.customer_redacted" ∧ ¬Parses .customerRedact redactRow.payload ∧
    ∀ (drainer : DrainerContext) (later : OutboxEvent), later.type = redactRow.type → later.payload = redactRow.payload →
      ∃ issues, Fails drainer later issues :=
  gdpr_rows_never_parse redact_writes (show redactArgs.topic = some (header .customerRedact) from rfl)

/-- The body has what the handler asks for, and the row that is written for it has not. -/
theorem redact_lost_in_envelope : ¬∀ (context : IngestContext) (args : IngestArgs) (topic : GdprTopic) (row : OutboxEvent),
    Writes context args row → args.topic = some (header topic) → Parses topic (tryParseJson context args.rawBody) →
      Parses topic row.payload := by
  intro claim
  have parses := claim redactContext redactArgs .customerRedact redactRow redact_writes rfl redactBody_parses
  exact envelope_unparsed .customerRedact _ _ _ parses

end Samples

end WinBack.Webhook
