import WinBack.Generation.Worker
import WinBack.Outbox.Payloads
import WinBack.Tenant.AiTone

/-! The handlers behind `dispatchEvent`, as programs over atomic calls. They run on the
connection of the process: nothing they write belongs to the drain transaction. -/

namespace WinBack.Outbox

open Library
open Generation (AiConfig AiGenerateJobPayload estimateCostMicrocents)

section Prompt

structure WinbackPromptCustomer where
  firstName : Option String
  lastName : Option String
  rDays : Int
  fCount : Int
  mCents : Int
  currency : String
  triggerState : CustomerState
  previousState : CustomerState
  deriving DecidableEq, Repr

structure WinbackPromptMerchant where
  name : Option String
  shopCurrency : String
  aiTone : Option Json
  deriving DecidableEq, Repr

/-- `discount` is the percentage of the offer, if one is made. -/
structure WinbackPromptArgs where
  customer : WinbackPromptCustomer
  merchant : WinbackPromptMerchant
  recentProducts : List String
  discount : Option Int
  deriving DecidableEq, Repr

structure WinbackPromptResult where
  systemPrompt : String
  userPrompt : String
  deriving DecidableEq, Repr

end Prompt

/-- Deployment values, with the pure texts that are not spelled out here: the prompt, zod's
pattern for date-times and the message of a `ZodError`. -/
structure DrainerContext where
  aiConfig : AiConfig
  buildWinbackPrompt : WinbackPromptArgs → WinbackPromptResult
  isDatetime : String → Bool
  zodMessage : List Issue → String

/-- `err.message`. -/
def DrainerContext.message (context : DrainerContext) : Thrown → String
  | .app _ message _ => message
  | .zod issues => context.zodMessage issues
  | .other message => message

structure CustomerName where
  firstName : Option String
  lastName : Option String
  deriving DecidableEq, Repr

inductive Query where
  | billing (merchantId : MerchantId)
  | merchant (merchantId : MerchantId)
  | settings (merchantId : MerchantId)
  | monthSpend (merchantId : MerchantId) (asOf : Date)
  | customer (customerId : CustomerId)

@[reducible] def Query.Answer : Query → Type
  | .billing _ => Option BillingSubscriptionStatus
  | .merchant _ => Option Merchant
  | .settings _ => Option MerchantSettings
  | .monthSpend _ _ => Int
  | .customer _ => Option CustomerName

/-- `where: { merchantId, date: { gte: monthStart } }`. -/
def sinceMonthStart (merchantId : MerchantId) (asOf : Date) (row : AiSpendBucket) : Bool :=
  row.merchantId == merchantId && decide (utcFirstOfMonth asOf ≤ row.date)

def sumMonthSpend (merchantId : MerchantId) (asOf : Date) (db : Db) : Int :=
  db.aiSpendBuckets.total fun row => if sinceMonthStart merchantId asOf row then row.spentMicrocents else 0

/-- The tenant extension hides a soft-deleted customer. -/
def Query.eval (db : Db) : (query : Query) → query.Answer
  | .billing merchantId => (db.billingSubscriptions.find? (·.merchantId == merchantId)).map (·.status)
  | .merchant merchantId => db.merchants.find? (·.id == merchantId)
  | .settings merchantId => db.merchantSettings.find? (·.merchantId == merchantId)
  | .monthSpend merchantId asOf => sumMonthSpend merchantId asOf db
  | .customer customerId =>
    (db.customers.find? fun row => row.id == customerId && row.deletedAt.isNone).map
      fun row => ⟨row.firstName, row.lastName⟩

structure IncrementAndCheckResult where
  allowed : Bool
  currentCount : Int
  deriving DecidableEq, Repr

/-- One atomic call of a handler or of the drain loop; a transaction of a handler is one
call. `createGeneration` names the event it is made for, which no column holds. -/
inductive Call where
  | query (read : Query)
  | clock
  | incrementAndCheck (merchantId : MerchantId) (capPerHour : Int)
  | findRecentPurchasedTitles (merchantId : MerchantId) (customerId : CustomerId)
  | appendAudit (row : AuditLog)
  | createGeneration (eventId : String) (merchantId : MerchantId) (customerId : CustomerId)
      (args : String → MessageId → GenerationArgs)
  | enqueue (payload : AiGenerateJobPayload)
  | process (topic : GdprTopic) (merchantId : Option MerchantId) (shop : String) (payload : Json)
  | handled (row : OutboxEvent)
  | claimBatch (limit : Nat)
  | mark (id : String) (mark : Mark)
  | commit
  | rollback
  | markDeferredFailed (id error : String)

@[reducible] def Call.Value : Call → Type
  | .query read => read.Answer
  | .clock => Date
  | .incrementAndCheck _ _ => IncrementAndCheckResult
  | .findRecentPurchasedTitles _ _ => List String
  | .createGeneration _ _ _ _ => String
  | .claimBatch _ => List OutboxEvent
  | .appendAudit _ | .enqueue _ | .process _ _ _ _ | .handled _ | .mark _ _ | .commit | .rollback
  | .markDeferredFailed _ _ => Unit

abbrev Program := Script Call Call.Value Thrown

section Calls

def perform (request : Call) : Program request.Value := Script.perform request

def ask (read : Query) : Program read.Answer := perform (.query read)

def clock : Program Date := perform .clock

def mark (id : String) (mark : Mark) : Program Unit := perform (.mark id mark)

def orThrow {Result : Type} : Except Thrown Result → Program Result
  | .ok result => return result
  | .error thrown => throw thrown

end Calls

section StateChanged

def estimatedInputTokensForCeilingCheck : Int := 500

def microcentsPerCent : Int := 100_000

def msPerHourBucket : Int := 3_600_000

def isWinbackTriggerState : CustomerState → Bool
  | .atRisk | .dormant | .lost => true
  | .active | .warm | .insufficientData => false

/-- The audit row of a denied generation. -/
def deniedAudit (payload : CustomerStateChangedPayload) (shop action : String) (context : List (String × Json)) :
    AuditLog where
  merchantId := some payload.merchantId
  shop := some shop
  actorType := .system
  actorId := some "drainer"
  action := action
  targetType := some "customer"
  targetId := some payload.customerId
  context := .obj context

/-- The hourly counter is raised whatever the answer. -/
def withinHourlyCap (row : OutboxEvent) (payload : CustomerStateChangedPayload) (shop : String)
    (settings : MerchantSettings) : Program Bool := do
  let rateLimit ← perform (.incrementAndCheck payload.merchantId settings.hourlyGenerationCap)
  if rateLimit.allowed then
    return true
  let now ← clock
  perform (.appendAudit (deniedAudit payload shop "ai.rate_limited" [
    ("currentCount", .num rateLimit.currentCount),
    ("hourlyGenerationCap", .num settings.hourlyGenerationCap),
    ("hourBucket", .num (now / msPerHourBucket)),
    ("eventId", .str row.id)]))
  return false

def withinSpendCap (context : DrainerContext) (row : OutboxEvent) (payload : CustomerStateChangedPayload)
    (shop : String) (settings : MerchantSettings) : Program Bool := do
  let now ← clock
  let currentSpendMicrocents ← ask (.monthSpend payload.merchantId now)
  let estimatedCallMicrocents ← orThrow ((estimateCostMicrocents context.aiConfig.provider context.aiConfig.model
    estimatedInputTokensForCeilingCheck context.aiConfig.maxTokens).mapError .other)
  let capMicrocents := settings.monthlyAiSpendCapCents * microcentsPerCent
  if currentSpendMicrocents + estimatedCallMicrocents ≤ capMicrocents then
    return true
  perform (.appendAudit (deniedAudit payload shop "ai.spend_cap_exceeded" [
    ("currentSpendMicrocents", .str (toString currentSpendMicrocents)),
    ("capMicrocents", .str (toString capMicrocents)),
    ("estimatedCallMicrocents", .str (toString estimatedCallMicrocents)),
    ("monthlyAiSpendCapCents", .str (toString settings.monthlyAiSpendCapCents)),
    ("eventId", .str row.id)]))
  return false

def parseAiTone : Option Json → Except Thrown (Option Json)
  | none | some .null => .ok none
  | value => (Tenant.aiToneSchema value).mapError .zod

def promptCurrency (merchant : Merchant) : String := merchant.currency.getD "USD"

def discountValuePercent (settings : MerchantSettings) : Option Int :=
  if settings.winbackDiscountEnabled then some settings.winbackDiscountPercent else none

def winbackPromptArgs (payload : CustomerStateChangedPayload) (merchant : Merchant) (settings : MerchantSettings)
    (customer : CustomerName) (recentProducts : List String) (aiTone : Option Json) : WinbackPromptArgs where
  customer := {
    firstName := customer.firstName
    lastName := customer.lastName
    rDays := payload.rfmScore.rDays
    fCount := payload.rfmScore.fCount
    mCents := payload.rfmScore.mCents
    currency := promptCurrency merchant
    triggerState := payload.newState
    previousState := payload.oldState }
  merchant := {
    name := merchant.name
    shopCurrency := promptCurrency merchant
    aiTone }
  recentProducts
  discount := discountValuePercent settings

/-- What `createPending` and `createDraft` are given; the two ids are the store's. -/
def generationArgs (context : DrainerContext) (payload : CustomerStateChangedPayload) (merchant : Merchant)
    (settings : MerchantSettings) (prompt : WinbackPromptResult) (generationId : String) (messageId : MessageId) :
    GenerationArgs where
  triggerState := payload.newState.text
  previousState := payload.oldState.text
  rDays := payload.rfmScore.rDays
  fCount := payload.rfmScore.fCount
  mCents := payload.rfmScore.mCents
  currency := promptCurrency merchant
  churnRiskScore := none
  provider := context.aiConfig.provider.text
  modelId := context.aiConfig.model
  systemPrompt := prompt.systemPrompt
  userPrompt := prompt.userPrompt
  discountValuePercent := discountValuePercent settings
  generationId
  messageId

/-- The two rows are committed before the job is enqueued. -/
def createAndEnqueue (context : DrainerContext) (row : OutboxEvent) (payload : CustomerStateChangedPayload)
    (merchant : Merchant) (settings : MerchantSettings) : Program Unit := do
  match ← ask (.customer payload.customerId) with
  | none => return
  | some customer =>
    let recentProducts ← perform (.findRecentPurchasedTitles payload.merchantId payload.customerId)
    let aiTone ← orThrow (parseAiTone settings.aiTone)
    let prompt := context.buildWinbackPrompt (winbackPromptArgs payload merchant settings customer recentProducts aiTone)
    let aiGenerationId ← perform (.createGeneration row.id payload.merchantId payload.customerId
      (generationArgs context payload merchant settings prompt))
    perform (.enqueue ⟨aiGenerationId, payload.merchantId, payload.customerId⟩)

/-- The gates after the payload has been read. -/
def generateForTransition (context : DrainerContext) (row : OutboxEvent) (payload : CustomerStateChangedPayload) :
    Program Unit := do
  let billing ← ask (.billing payload.merchantId)
  if billing ≠ some .active ∧ billing ≠ some .trialing then
    return
  match ← ask (.merchant payload.merchantId) with
  | none => return
  | some merchant =>
    match ← ask (.settings payload.merchantId) with
    | none => return
    | some settings =>
      if ← withinHourlyCap row payload merchant.shop settings then
        if ← withinSpendCap context row payload merchant.shop settings then
          createAndEnqueue context row payload merchant settings

def handleCustomerStateChanged (context : DrainerContext) (row : OutboxEvent) : Program Unit := do
  let payload ← orThrow (parseStateChanged context.isDatetime row.payload)
  if isWinbackTriggerState payload.newState ∧ payload.oldState ≠ payload.newState then
    generateForTransition context row payload

end StateChanged

section Gdpr

/-- The adapter of one GDPR topic: parse, take the shop from the payload, hand over. Only the
customer topics are told the merchant of the row. -/
def handleGdpr (topic : GdprTopic) (row : OutboxEvent) : Program Unit := do
  let payload ← orThrow ((topic.schema (some row.payload)).mapError .zod)
  let payload := payload.getD .null
  perform (.process topic (if topic = .shopRedact then none else some row.merchantId)
    ((textAt "shop_domain" payload).getD "") payload)

def handleCustomerDataRequested : OutboxEvent → Program Unit := handleGdpr .customerDataRequest

def handleCustomerRedacted : OutboxEvent → Program Unit := handleGdpr .customerRedact

def handleShopRedacted : OutboxEvent → Program Unit := handleGdpr .shopRedact

end Gdpr

/-- The handlers of the merchant, customer and order events are one call each. -/
def dispatchEvent (context : DrainerContext) (row : OutboxEvent) : Program Unit :=
  match OutboxEventType.ofText? row.type with
  | none => throw (.validation s!"Unknown outbox event type: {row.type}")
  | some type =>
    match type with
    | .merchantInstalled | .merchantUninstalled | .customerCreated | .customerUpdated | .customerDeleted
    | .orderPlaced | .orderUpdated => perform (.handled row)
    | .merchantNeedsReauth | .merchantShopDetailsFetched | .merchantBackfillCompleted | .merchantScopesUpdated
    | .customerRedacted | .orderCancelled | .orderRefunded | .productCreated | .productUpdated
    | .productDeleted => return
    | .customerStateChanged => handleCustomerStateChanged context row
    | .gdprCustomerDataRequested => handleCustomerDataRequested row
    | .gdprCustomerRedacted => handleCustomerRedacted row
    | .gdprShopRedacted => handleShopRedacted row

end WinBack.Outbox
