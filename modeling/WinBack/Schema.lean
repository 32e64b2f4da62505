import WinBack.Library.Json
import WinBack.Library.Table
import WinBack.Library.Calendar

/-! Rows and tables of the Postgres schema, restricted to the columns that the
modelled functions read or write. Unique indexes are those of `schema.prisma`. -/

namespace WinBack

open Library

/-- Milliseconds since the Unix epoch, as a JavaScript `Date` holds them. -/
abbrev Date := Int

abbrev MerchantId := String
abbrev CustomerId := String
abbrev CampaignId := String
abbrev MessageId := String

def msPerHour : Int := 60 * 60 * 1000
def msPerDay : Int := 24 * msPerHour

def utcMidnight (now : Date) : Date := now / msPerDay * msPerDay

def utcFirstOfMonth (now : Date) : Date := Calendar.firstDayOfMonth (now / msPerDay) * msPerDay

inductive CustomerState where
  | active | warm | atRisk | dormant | lost | insufficientData
  deriving DecidableEq, Repr

def CustomerState.text : CustomerState → String
  | .active => "active"
  | .warm => "warm"
  | .atRisk => "at_risk"
  | .dormant => "dormant"
  | .lost => "lost"
  | .insufficientData => "insufficient_data"

def CustomerState.ofText? (text : String) : Option CustomerState :=
  [CustomerState.active, .warm, .atRisk, .dormant, .lost, .insufficientData].find? (·.text == text)

@[simp] theorem CustomerState.ofText?_text (state : CustomerState) : ofText? state.text = some state := by
  cases state <;> decide

inductive OrderFinancialStatus where
  | pending | authorized | partiallyPaid | paid | partiallyRefunded | refunded | voided
  deriving DecidableEq, Repr

inductive AiGenerationStatus where
  | pending | completed | failed
  deriving DecidableEq, Repr

inductive BillingSubscriptionStatus where
  | trialing | active | pastDue | cancelled | paused
  deriving DecidableEq, Repr

inductive MessageStatus where
  | draft | sent | suppressed | failed | bounced | opened | clicked
  deriving DecidableEq, Repr

inductive MessageChannel where
  | email
  deriving DecidableEq, Repr

inductive EmailMarketingConsentState where
  | subscribed | notSubscribed | pending | unsubscribed
  deriving DecidableEq, Repr

inductive CampaignStatus where
  | draft | active | paused | archived
  deriving DecidableEq, Repr

inductive CampaignTargetStatus where
  | pending | sending | sent | suppressed | deferred | failed
  deriving DecidableEq, Repr

inductive SuppressionReason where
  | unsubscribe | bounce | complaint | manual
  deriving DecidableEq, Repr

inductive AuditActorType where
  | system | merchant | operator
  deriving DecidableEq, Repr

structure Merchant where
  id : MerchantId
  shop : String
  name : Option String := none
  timezone : Option String := none
  currency : Option String := none
  scoringInitializedAt : Option Date := none
  uninstalledAt : Option Date := none
  tokenRevokedAt : Option Date := none
  deriving DecidableEq, Repr

structure MerchantSettings where
  merchantId : MerchantId
  sendTimeStartHour : Int := 9
  sendTimeEndHour : Int := 18
  defaultCooldownHours : Int := 168
  maxDailySendsPerCustomer : Int := 1
  monthlySendsCap : Int := 50000
  dailySendCap : Int := 2000
  attributionDirectWindowDays : Int := 14
  monthlyAiSpendCapCents : Int := 50000
  hourlyGenerationCap : Int := 100
  winbackDiscountEnabled : Bool := false
  winbackDiscountPercent : Int := 15
  aiTone : Option Json := none
  deriving DecidableEq, Repr

structure BillingSubscription where
  merchantId : MerchantId
  status : BillingSubscriptionStatus := .trialing
  deriving DecidableEq, Repr

structure Customer where
  id : CustomerId
  merchantId : MerchantId
  shopifyCustomerId : String
  email : Option String := none
  phone : Option String := none
  firstName : Option String := none
  lastName : Option String := none
  acceptsMarketing : Bool := false
  acceptsSms : Bool := false
  emailMarketingConsentState : EmailMarketingConsentState := .notSubscribed
  ordersCount : Int := 0
  state : CustomerState := .active
  tags : List String := []
  shopifyCreatedAt : Option Date := none
  shopifyUpdatedAt : Option Date := none
  deletedAt : Option Date := none
  createdAt : Date := 0
  deriving DecidableEq, Repr

structure CustomerScore where
  merchantId : MerchantId
  customerId : CustomerId
  rDays : Int
  fCount : Int
  mCents : Int
  currency : String
  rQuintile : Option Int := none
  fQuintile : Option Int := none
  mQuintile : Option Int := none
  churnRiskScore : Option Rat := none
  computedAt : Date
  deriving DecidableEq, Repr

structure Order where
  id : String
  merchantId : MerchantId
  customerId : Option CustomerId
  shopifyOrderId : String
  totalAmountCents : Int := 0
  financialStatus : Option OrderFinancialStatus := none
  isTest : Bool := false
  placedAt : Date
  shopifyProcessedAt : Option Date := none
  deriving DecidableEq, Repr

structure AiGeneration where
  id : String
  merchantId : MerchantId
  customerId : CustomerId
  triggerState : String
  previousState : String := ""
  rDays : Int := 0
  fCount : Int := 0
  mCents : Int := 0
  currency : String := "USD"
  churnRiskScore : Option Rat := none
  provider : String := ""
  modelId : String := ""
  systemPrompt : String := ""
  userPrompt : String := ""
  generatedText : Option String := none
  inputTokens : Option Int := none
  outputTokens : Option Int := none
  totalTokens : Option Int := none
  latencyMs : Option Int := none
  costMicrocents : Option Int := none
  discountValuePercent : Option Int := none
  discountCode : Option String := none
  shopifyDiscountId : Option String := none
  status : AiGenerationStatus := .pending
  failedAt : Option Date := none
  lastError : Option String := none
  createdAt : Date
  completedAt : Option Date := none
  deriving DecidableEq, Repr

structure AiSpendBucket where
  merchantId : MerchantId
  date : Date
  spentMicrocents : Int := 0
  generationCount : Int := 0
  deriving DecidableEq, Repr

structure Message where
  id : MessageId
  merchantId : MerchantId
  customerId : CustomerId
  aiGenerationId : String
  generatedText : String := ""
  status : MessageStatus := .draft
  channel : Option MessageChannel := none
  sentAt : Option Date := none
  provider : Option String := none
  providerMessageId : Option String := none
  deriving DecidableEq, Repr

structure Campaign where
  id : CampaignId
  merchantId : MerchantId
  status : CampaignStatus := .draft
  channel : MessageChannel := .email
  triggerStates : List String := []
  createdAt : Date
  deriving DecidableEq, Repr

structure CampaignTarget where
  merchantId : MerchantId
  campaignId : CampaignId
  messageId : MessageId
  customerId : CustomerId
  status : CampaignTargetStatus := .pending
  suppressedByGate : Option String := none
  sentAt : Option Date := none
  sendStartedAt : Option Date := none
  createdAt : Date
  deriving DecidableEq, Repr

structure Suppression where
  merchantId : MerchantId
  customerId : CustomerId
  channel : MessageChannel
  reason : SuppressionReason
  deriving DecidableEq, Repr

structure MessageQuotaBucket where
  merchantId : MerchantId
  date : Date
  sentCount : Nat := 0
  deriving DecidableEq, Repr

structure AuditLog where
  merchantId : Option MerchantId
  shop : Option String
  actorType : AuditActorType
  actorId : Option String := none
  action : String
  targetType : Option String := none
  targetId : Option String := none
  context : Json := .null

structure OutboxEvent where
  id : String
  merchantId : MerchantId
  type : String
  payload : Json
  createdAt : Date
  processedAt : Option Date := none
  attempts : Nat := 0
  lastError : Option String := none
  deadLetteredAt : Option Date := none
  deferredFailedAt : Option Date := none

structure IdempotencyKey where
  merchantId : MerchantId
  key : String
  expiresAt : Date
  deriving DecidableEq, Repr

structure WebhookLog where
  merchantId : Option MerchantId
  shop : String
  topic : String
  shopifyWebhookId : Option String := none
  idempotencyKey : Option String := none
  hmacOk : Bool
  status : String
  errorCode : Option String := none
  payload : Json
  payloadSize : Nat
  processedAt : Option Date := none

instance : Indexed Merchant := .ofKeys Merchant.id Merchant.shop
instance : Indexed MerchantSettings := .ofKey MerchantSettings.merchantId
instance : Indexed Customer := .ofKeys Customer.id fun row => (row.merchantId, row.shopifyCustomerId)
instance : Indexed CustomerScore := .ofKey CustomerScore.customerId
instance : Indexed Order := .ofKeys Order.id fun row => (row.merchantId, row.shopifyOrderId)
instance : Indexed AiGeneration := .ofKey AiGeneration.id
instance : Indexed AiSpendBucket := .ofKey fun row => (row.merchantId, row.date)
instance : Indexed BillingSubscription := .ofKey BillingSubscription.merchantId
instance : Indexed Message := .ofKeys Message.id Message.aiGenerationId
instance : Indexed Campaign := .ofKey Campaign.id
instance : Indexed CampaignTarget := .ofKey CampaignTarget.messageId
instance : Indexed Suppression := .ofKey fun row => (row.merchantId, row.customerId, row.channel)
instance : Indexed MessageQuotaBucket := .ofKey fun row => (row.merchantId, row.date)
instance : Indexed OutboxEvent := .ofKey OutboxEvent.id
instance : Indexed IdempotencyKey := .ofKey fun row => (row.merchantId, row.key)

/-- The store. Audit and webhook logs are append-only and have no unique index
beyond their generated id, so they are lists in insertion order. -/
structure Db where
  merchants : Table Merchant := ∅
  merchantSettings : Table MerchantSettings := ∅
  billingSubscriptions : Table BillingSubscription := ∅
  customers : Table Customer := ∅
  customerScores : Table CustomerScore := ∅
  orders : Table Order := ∅
  aiGenerations : Table AiGeneration := ∅
  aiSpendBuckets : Table AiSpendBucket := ∅
  messages : Table Message := ∅
  campaigns : Table Campaign := ∅
  campaignTargets : Table CampaignTarget := ∅
  suppressions : Table Suppression := ∅
  messageQuotaBuckets : Table MessageQuotaBucket := ∅
  auditLogs : List AuditLog := []
  outboxEvents : Table OutboxEvent := ∅
  idempotencyKeys : Table IdempotencyKey := ∅
  webhookLogs : List WebhookLog := []

instance : Inhabited Db := ⟨{}⟩

/-- A customer id names one row. -/
theorem customer_unique {db : Db} {first second : Customer} (here : first ∈ db.customers.rows)
    (there : second ∈ db.customers.rows) (same : first.id = second.id) : first = second :=
  db.customers.eq_of_clash here there (by simp [Indexed.clash, Indexed.index, same])

/-- Why a store statement throws instead of answering. -/
inductive DbError where
  | tenantScope    -- the tenant extension refused the arguments
  | foreignKey     -- a referenced row does not exist
  | connection     -- the connection or the transaction was lost
  deriving DecidableEq, Repr

end WinBack
