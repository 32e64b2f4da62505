import WinBack.Library.Script
import WinBack.Outbox.Repository

/-! One delivery of a webhook: its headers and its signature are checked, and one transaction
claims the idempotency key, logs the delivery and publishes its event. -/

namespace WinBack.Webhook

open Library

section Topics

def webhookTopicToEvent : List (String × OutboxEventType) :=
  [("customers/create", .customerCreated), ("customers/update", .customerUpdated),
    ("customers/delete", .customerDeleted), ("orders/create", .orderPlaced), ("orders/updated", .orderUpdated),
    ("orders/cancelled", .orderCancelled), ("products/create", .productCreated),
    ("products/update", .productUpdated), ("products/delete", .productDeleted),
    ("app/uninstalled", .merchantUninstalled), ("app/scopes_update", .merchantScopesUpdated)]

def gdprTopicToEvent : List (String × OutboxEventType) :=
  [("customers/data_request", .gdprCustomerDataRequested), ("customers/redact", .gdprCustomerRedacted),
    ("shop/redact", .gdprShopRedacted)]

def getOutboxEventForTopic (topic : String) : Option OutboxEventType :=
  (webhookTopicToEvent.lookup topic).or (gdprTopicToEvent.lookup topic)

end Topics

section Shop

def myshopify : List Char := ".myshopify.com".toList

def isHandleEnd (char : Char) : Bool := char.isAlphanum

/-- `/^[a-z0-9][a-z0-9-]{0,98}[a-z0-9]\.myshopify\.com$/i`. -/
def isValidShopDomain (shop : String) : Bool :=
  let chars := shop.toList.map Char.toLower
  let handle := chars.take (chars.length - myshopify.length)
  chars.drop handle.length == myshopify && decide (2 ≤ handle.length ∧ handle.length ≤ 100) &&
    handle.all (fun char => isHandleEnd char || char == '-') &&
    handle.head?.any isHandleEnd && handle.getLast?.any isHandleEnd

def normalizeShopDomain (shop : String) : Option String :=
  if isValidShopDomain shop then some (String.ofList (shop.toList.map Char.toLower)) else none

end Shop

/-- Deployment values, the check of a keyed digest and the parser of the runtime, which throws on
text that is not JSON. -/
structure IngestContext where
  shopifyWebhookSecret : Option String := none
  shopifyApiSecret : String
  verifyHmacSha256Base64 : String → String → String → Bool
  parseJson : String → Option Json

def verifyShopifyWebhookHmac (context : IngestContext) (secret rawBody headerValue : String) : Bool :=
  headerValue != "" && context.verifyHmacSha256Base64 secret rawBody headerValue

def malformedPrefixChars : Nat := 500

def tryParseJson (context : IngestContext) (raw : String) : Json :=
  if raw = "" then .obj []
  else (context.parseJson raw).getD
    (.obj [("_malformed", .bool true), ("_raw_prefix", .str (utf16Prefix malformedPrefixChars raw))])

structure IngestArgs where
  topic : Option String
  shop : Option String
  webhookId : Option String
  hmac : Option String
  rawBody : String
  deriving DecidableEq, Repr

inductive AcceptReason where
  | processed | duplicate | noMerchant | unknownTopic
  deriving DecidableEq, Repr

inductive RejectReason where
  | missingHeaders | invalidShop | hmac
  deriving DecidableEq, Repr

inductive IngestOutcome where
  | accept (reason : AcceptReason)
  | reject (status : Nat) (reason : RejectReason)
  deriving DecidableEq, Repr

section Rows

def idempotencyTtlMs : Int := 7 * 86_400_000

def idempKey (topic webhookId : String) : String := "webhook:" ++ topic ++ ":" ++ webhookId

/-- What the outbox row of a delivery carries. -/
def envelope (topic webhookId : String) (body : Json) : Json :=
  .obj [("topic", .str topic), ("webhookId", .str webhookId), ("body", body)]

def published (merchantId : MerchantId) (topic webhookId : String) (body : Json) (type : OutboxEventType)
    (id : String) (createdAt : Date) : OutboxEvent where
  id := id
  merchantId := merchantId
  type := type.text
  payload := envelope topic webhookId body
  createdAt := createdAt

def unmatchedLog (shop topic webhookId rawBody : String) (body : Json) (now : Date) : WebhookLog where
  merchantId := none
  shop := shop
  topic := topic
  shopifyWebhookId := some webhookId
  hmacOk := true
  status := "failed"
  errorCode := some "merchant_not_found"
  payload := body
  payloadSize := utf16Length rawBody
  processedAt := some now

def ingestedLog (merchantId : MerchantId) (shop topic webhookId rawBody : String) (body : Json) (now : Date) :
    WebhookLog where
  merchantId := some merchantId
  shop := shop
  topic := topic
  shopifyWebhookId := some webhookId
  idempotencyKey := some (idempKey topic webhookId)
  hmacOk := true
  status := "processed"
  errorCode := if getOutboxEventForTopic topic = none then some "unknown_topic_no_outbox" else none
  payload := body
  payloadSize := utf16Length rawBody
  processedAt := some now

/-- A JSON column takes no bare `null`. -/
def appendLog (log : WebhookLog) (db : Db) : Except RepositoryError Db :=
  if log.payload = .null then .error (.thrown "Argument payload must not be null")
  else .ok { db with webhookLogs := db.webhookLogs ++ [log] }

def claimKey (key : IdempotencyKey) (db : Db) : Except RepositoryError Db :=
  match db.idempotencyKeys.insert? key with
  | none => .error .uniqueConstraint
  | some idempotencyKeys =>
    if db.merchants.any (·.id == key.merchantId) then .ok { db with idempotencyKeys } else .error .foreignKey

def publish (event : Option OutboxEvent) (db : Db) : Except RepositoryError Db :=
  match event with
  | none => .ok db
  | some event =>
    match db.outboxEvents.insert? event with
    | none => .error .uniqueConstraint
    | some outboxEvents => .ok { db with outboxEvents }

/-- The transaction of a delivery: all three writes or none. -/
def ingest (key : IdempotencyKey) (log : WebhookLog) (event : Option OutboxEvent) (db : Db) :
    Except RepositoryError Db := do
  let db ← claimKey key db
  let db ← appendLog log db
  publish event db

end Rows

inductive Thrown where
  | repository (error : RepositoryError)
  | connection
  deriving DecidableEq, Repr

/-- What the route answers: the outcome, or the failure that makes Shopify retry. -/
inductive Response where
  | outcome (outcome : IngestOutcome)
  | failure (thrown : Thrown)
  deriving DecidableEq, Repr

/-- One atomic call. The store picks the id of an event, and the transaction reads the clock. -/
inductive Call where
  | findMerchant (shop : String)
  | clock
  | log (row : WebhookLog)
  | respond (response : Response)
  | ingest (key : IdempotencyKey) (log : Date → WebhookLog) (event : Option (String → Date → OutboxEvent))

@[reducible] def Call.Value : Call → Type
  | .findMerchant _ => Option MerchantId
  | .clock => Date
  | .log _ | .respond _ | .ingest _ _ _ => Unit

abbrev Program := Script Call Call.Value Thrown

def perform (request : Call) : Program request.Value := Script.perform request

/-- Any unique violation is taken for a delivery that was accepted before. -/
def ingestFor (context : IngestContext) (shop topic webhookId rawBody : String) (merchantId : MerchantId) :
    Program IngestOutcome := do
  let body := tryParseJson context rawBody
  let eventType := getOutboxEventForTopic topic
  let now ← perform .clock
  tryCatch
    (do
      perform (.ingest ⟨merchantId, idempKey topic webhookId, now + idempotencyTtlMs⟩
        (ingestedLog merchantId shop topic webhookId rawBody body)
        (eventType.map (published merchantId topic webhookId body)))
      return .accept (if eventType = none then .unknownTopic else .processed))
    fun thrown =>
      if thrown = .repository .uniqueConstraint then return .accept .duplicate else throw thrown

/-- Past the signature. A shop that is not installed is logged and acknowledged. -/
def ingestAuthenticated (context : IngestContext) (shop topic webhookId rawBody : String) : Program IngestOutcome := do
  match ← perform (.findMerchant shop) with
  | none =>
    let now ← perform .clock
    perform (.log (unmatchedLog shop topic webhookId rawBody (tryParseJson context rawBody) now))
    return .accept .noMerchant
  | some merchantId => ingestFor context shop topic webhookId rawBody merchantId

def ingestWebhook (context : IngestContext) (args : IngestArgs) : Program IngestOutcome :=
  match args.topic, args.shop, args.webhookId, args.hmac with
  | some topic, some shop, some webhookId, some hmac =>
    match normalizeShopDomain shop with
    | none => return .reject 400 .invalidShop
    | some shop =>
      if verifyShopifyWebhookHmac context (context.shopifyWebhookSecret.getD context.shopifyApiSecret)
          args.rawBody hmac then
        ingestAuthenticated context shop topic webhookId args.rawBody
      else return .reject 401 .hmac
  | _, _, _, _ => return .reject 400 .missingHeaders

/-- The route of `POST /webhooks`. -/
def action (context : IngestContext) (args : IngestArgs) : Program Unit := do
  let response ← tryCatch
    (do
      let outcome ← ingestWebhook context args
      return .outcome outcome)
    fun thrown => return .failure thrown
  perform (.respond response)

end WinBack.Webhook
