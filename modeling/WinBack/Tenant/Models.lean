import WinBack.Library.Object
import WinBack.Library.Json

/-! The models of the schema and their tenancy buckets, the keys by which a row can
be looked up, and the scope a client runs in. -/

namespace WinBack.Tenant

open Library

inductive Model where
  | merchant | merchantSettings | billingSubscription | session | customer | customerScore | product
  | productVariant | order | orderLineItem | webhookLog | outboxEvent | idempotencyKey | auditLog
  | backfillJob | aiGeneration | message | aiSpendBucket | campaign | campaignTarget | suppression
  | messageEvent | messageQuotaBucket
  deriving DecidableEq, Repr

def Model.name : Model → String
  | .merchant => "Merchant"
  | .merchantSettings => "MerchantSettings"
  | .billingSubscription => "BillingSubscription"
  | .session => "Session"
  | .customer => "Customer"
  | .customerScore => "CustomerScore"
  | .product => "Product"
  | .productVariant => "ProductVariant"
  | .order => "Order"
  | .orderLineItem => "OrderLineItem"
  | .webhookLog => "WebhookLog"
  | .outboxEvent => "OutboxEvent"
  | .idempotencyKey => "IdempotencyKey"
  | .auditLog => "AuditLog"
  | .backfillJob => "BackfillJob"
  | .aiGeneration => "AiGeneration"
  | .message => "Message"
  | .aiSpendBucket => "AiSpendBucket"
  | .campaign => "Campaign"
  | .campaignTarget => "CampaignTarget"
  | .suppression => "Suppression"
  | .messageEvent => "MessageEvent"
  | .messageQuotaBucket => "MessageQuotaBucket"

def tenantScopedModels : List Model :=
  [.merchantSettings, .billingSubscription, .customer, .customerScore, .product, .productVariant, .order,
    .orderLineItem, .outboxEvent, .idempotencyKey, .backfillJob, .aiGeneration, .message, .aiSpendBucket,
    .campaign, .campaignTarget, .suppression, .messageEvent, .messageQuotaBucket]

def tenantOptionalReadModels : List Model := [.webhookLog, .auditLog]

def softDeleteModels : List Model := [.customer, .product, .productVariant]

def unscopedModels : List Model := [.session]

/-- The models whose rows carry `merchantId`. -/
def Model.tenanted (model : Model) : Bool :=
  tenantScopedModels.contains model || tenantOptionalReadModels.contains model

/-- Every model belongs to exactly one bucket. -/
theorem Model.bucket (model : Model) :
    (model = .merchant ∨ model ∈ unscopedModels ∨ model.tenanted = true) ∧
      ¬(model = .merchant ∧ model ∈ unscopedModels) ∧ ¬(model = .merchant ∧ model.tenanted = true) ∧
      ¬(model ∈ unscopedModels ∧ model.tenanted = true) := by
  cases model <;> decide

/-- The column that names the tenant of a row. -/
def Model.ownerKey (model : Model) : String :=
  if model = .merchant then "id" else "merchantId"

theorem ownerKey_of_tenanted {model : Model} (tenanted : model.tenanted = true) :
    model.ownerKey = "merchantId" := by
  cases model <;> first | rfl | cases tenanted

/-- The compound unique keys, each of which contains `merchantId`. -/
def Model.compoundKeys : Model → List String
  | .customer => ["merchantId_shopifyCustomerId"]
  | .product => ["merchantId_shopifyProductId"]
  | .productVariant => ["merchantId_shopifyVariantId"]
  | .order => ["merchantId_shopifyOrderId"]
  | .orderLineItem => ["merchantId_orderId_shopifyLineItemId"]
  | .idempotencyKey => ["merchantId_key"]
  | .backfillJob => ["merchantId_resource"]
  | .aiSpendBucket | .messageQuotaBucket => ["merchantId_date"]
  | .suppression => ["merchantId_customerId_channel"]
  | .messageEvent => ["merchantId_providerEventId"]
  | _ => []

/-- The keys one of which a lookup of a single row must carry. -/
def Model.uniqueKeys : Model → List String
  | .merchant => ["id", "shop", "shopifyShopId"]
  | .merchantSettings | .billingSubscription => ["id", "merchantId"]
  | .customerScore => ["id", "customerId"]
  | .message => ["id", "aiGenerationId"]
  | .campaignTarget => ["id", "messageId"]
  | .idempotencyKey => Model.compoundKeys .idempotencyKey
  | model => "id" :: model.compoundKeys

inductive TenantScope where
  | tenant (merchantId : String)
  | system (reason : String)
  deriving DecidableEq, Repr

inductive ReadOperation where
  | findUnique | findUniqueOrThrow | findFirst | findFirstOrThrow | findMany | count | aggregate | groupBy
  deriving DecidableEq, Repr

inductive WriteOperation where
  | create | createMany | update | updateMany | upsert | delete | deleteMany
  deriving DecidableEq, Repr

def WriteOperation.name : WriteOperation → String
  | .create => "create"
  | .createMany => "createMany"
  | .update => "update"
  | .updateMany => "updateMany"
  | .upsert => "upsert"
  | .delete => "delete"
  | .deleteMany => "deleteMany"

end WinBack.Tenant
