import WinBack.Library.Script
import WinBack.Customer.Generation
import WinBack.Generation.Pricing

/-! The generation worker: one `ai.generate` job as a program over atomic calls. The
provider and Shopify are called between the transactions. -/

namespace WinBack.Generation

open Library

inductive AiProviderErrorCode where
  | rateLimit | transient | contentBlocked | auth | invalidRequest
  deriving DecidableEq, Repr

def AiProviderErrorCode.text : AiProviderErrorCode → String
  | .rateLimit => "rate_limit"
  | .transient => "transient"
  | .contentBlocked => "content_blocked"
  | .auth => "auth"
  | .invalidRequest => "invalid_request"

def AiProviderErrorCode.retryable : AiProviderErrorCode → Bool
  | .rateLimit | .transient => true
  | .contentBlocked | .auth | .invalidRequest => false

structure AiProviderError where
  code : AiProviderErrorCode
  message : String
  deriving DecidableEq, Repr

structure AiGenerateArgs where
  model : String
  systemPrompt : String
  userPrompt : String
  maxTokens : Int
  temperature : Rat
  deriving DecidableEq, Repr

structure AiGenerateResult where
  content : String
  inputTokens : Int
  outputTokens : Int
  totalTokens : Int
  latencyMs : Int
  deriving DecidableEq, Repr

structure CreateWinbackDiscountArgs where
  merchantId : MerchantId
  customerGid : String
  code : String
  valuePercent : Int
  endsAt : Date
  deriving DecidableEq, Repr

structure CreateWinbackDiscountResult where
  code : String
  shopifyDiscountId : String
  alreadyExisted : Bool
  deriving DecidableEq, Repr

/-- What a pass may throw. `foreign` is any other error, with its message. -/
inductive Thrown where
  | db (error : DbError)
  | repository (error : RepositoryError)
  | provider (error : AiProviderError)
  | foreign (message : String)
  deriving DecidableEq, Repr

/-- What Shopify answers to `discountCodeBasicCreate`, with the lookup that follows a
`TAKEN` user error. -/
inductive ShopifyOutcome where
  | created (id : String)
  | taken (existing : Option String)
  | userErrors
  | unreachable
  deriving DecidableEq, Repr

/-- A code that exists already is the one an earlier attempt minted. -/
def createWinbackDiscountCode (args : CreateWinbackDiscountArgs) :
    ShopifyOutcome → Except Thrown CreateWinbackDiscountResult
  | .created id => .ok ⟨args.code, id, false⟩
  | .taken (some id) => .ok ⟨args.code, id, true⟩
  | .taken none =>
    .error (.foreign "discountCodeBasicCreate returned TAKEN but codeDiscountNodeByCode found no node")
  | .userErrors => .error (.foreign "discountCodeBasicCreate returned userErrors")
  | .unreachable => .error (.foreign "Shopify Admin API unreachable")

structure AiGenerateJobPayload where
  aiGenerationId : String
  merchantId : MerchantId
  customerId : CustomerId
  deriving DecidableEq, Repr

/-- BullMQ's job around the payload. -/
structure Job where
  id : Option String
  attemptsMade : Nat := 0
  data : AiGenerateJobPayload
  deriving DecidableEq, Repr

/-- What the pickup selects: columns of the generation, of its merchant and of its customer. -/
structure Pickup where
  generation : AiGeneration
  shop : String
  shopifyCustomerId : String
  deletedAt : Option Date
  deriving DecidableEq, Repr

inductive Query where
  | pickup (aiGenerationId : String)
  | attributionWindow (merchantId : MerchantId)

@[reducible] def Query.Answer : Query → Type
  | .pickup _ => Option Pickup
  | .attributionWindow _ => Option Int

/-- `findUnique` by id alone, to which the tenant extension adds no filter. Foreign keys
keep the joined rows in place. -/
def Query.eval (db : Db) : (query : Query) → query.Answer
  | .pickup aiGenerationId => do
    let generation ← db.aiGenerations.find? (·.id == aiGenerationId)
    let merchant ← db.merchants.find? (·.id == generation.merchantId)
    let customer ← db.customers.find? (·.id == generation.customerId)
    return ⟨generation, merchant.shop, customer.shopifyCustomerId, customer.deletedAt⟩
  | .attributionWindow merchantId =>
    (db.merchantSettings.find? (·.merchantId == merchantId)).map (·.attributionDirectWindowDays)

/-- One atomic call; a transaction is one call. -/
inductive Call where
  | query (read : Query)
  | clock
  | generate (args : AiGenerateArgs)
  | mint (args : CreateWinbackDiscountArgs)
  | markFailed (scope : MerchantId) (aiGenerationId lastError : String)
  | refuse (scope : MerchantId) (aiGenerationId lastError : String) (audit : AuditLog)
  | complete (scope : MerchantId) (completion : Completion)

@[reducible] def Call.Value : Call → Type
  | .query read => read.Answer
  | .clock => Date
  | .generate _ => AiGenerateResult
  | .mint _ => CreateWinbackDiscountResult
  | .markFailed _ _ _ | .refuse _ _ _ _ | .complete _ _ => Unit

abbrev Program := Script Call Call.Value Thrown

structure AiConfig where
  provider : AiProviderName
  model : String
  maxTokens : Int := 300
  temperature : Rat := 7 / 10

/-- Deployment values, and the Crockford base-32 text of a keyed digest. -/
structure WorkerContext where
  aiConfig : AiConfig
  shopifyApiSecret : String
  keyedDigest : String → String → String

section Calls

def perform (request : Call) : Program request.Value := Script.perform request

def ask (read : Query) : Program read.Answer := perform (.query read)

def clock : Program Date := perform .clock

def generate (args : AiGenerateArgs) : Program AiGenerateResult := perform (.generate args)

def mint (args : CreateWinbackDiscountArgs) : Program CreateWinbackDiscountResult := perform (.mint args)

def markFailed (payload : AiGenerateJobPayload) (lastError : String) : Program Unit :=
  perform (.markFailed payload.merchantId payload.aiGenerationId lastError)

end Calls

def generationStalenessMs : Int := 24 * 60 * 60 * 1000

def defaultAttributionWindowDays : Int := 14

def auditErrorMessageMaxChars : Nat := 500

def winbackCodeBase32Length : Nat := 16

def deriveWinbackDiscountCode (context : WorkerContext) (merchantId : MerchantId) (aiGenerationId : String) : String :=
  "WB-" ++ utf16Prefix winbackCodeBase32Length
    (context.keyedDigest context.shopifyApiSecret (merchantId ++ ":" ++ aiGenerationId))

/-- The audit row of a generation that the provider refused for good. -/
def refusedAudit (job : Job) (shop : String) (error : AiProviderError) : AuditLog where
  merchantId := some job.data.merchantId
  shop := some shop
  actorType := .system
  actorId := some "drainer"
  action := if error.code = .contentBlocked then "ai.content_blocked" else "ai.generation_failed"
  targetType := some "ai_generation"
  targetId := some job.data.aiGenerationId
  context := .obj [("providerErrorCode", .str error.code.text), ("jobId", (job.id.map Json.str).getD .null),
    ("attempt", .num job.attemptsMade), ("errorMessage", .str (utf16Prefix auditErrorMessageMaxChars error.message))]

/-- Retryable and unknown errors are rethrown and leave the row pending. -/
def handleProviderError (job : Job) (shop : String) (thrown : Thrown) : Program Unit :=
  match thrown with
  | .provider error =>
    if error.code.retryable then throw thrown
    else perform (.refuse job.data.merchantId job.data.aiGenerationId error.code.text (refusedAudit job shop error))
  | _ => throw thrown

structure MintedDiscount where
  code : String
  shopifyDiscountId : String
  valuePercent : Int
  deriving DecidableEq, Repr

def discountCreatedAction : String := "discount.created"

def discountCreatedAudit (payload : AiGenerateJobPayload) (shop : String) (minted : MintedDiscount) : AuditLog where
  merchantId := some payload.merchantId
  shop := some shop
  actorType := .system
  actorId := some "drainer"
  action := discountCreatedAction
  targetType := some "ai_generation"
  targetId := some payload.aiGenerationId
  context := .obj [("shopifyDiscountId", .str minted.shopifyDiscountId), ("valuePercent", .num minted.valuePercent)]

/-- The discount of a generation that was created with one. -/
def mintDiscount (context : WorkerContext) (payload : AiGenerateJobPayload) (customerGid : String)
    (valuePercent : Int) : Program MintedDiscount := do
  let windowDays ← ask (.attributionWindow payload.merchantId)
  let now ← clock
  let created ← mint {
    merchantId := payload.merchantId
    customerGid
    code := deriveWinbackDiscountCode context payload.merchantId payload.aiGenerationId
    valuePercent
    endsAt := now + windowDays.getD defaultAttributionWindowDays * msPerDay }
  return ⟨created.code, created.shopifyDiscountId, valuePercent⟩

def completion (payload : AiGenerateJobPayload) (shop : String) (result : AiGenerateResult) (costMicrocents : Int)
    (minted : Option MintedDiscount) : Completion where
  args := {
    aiGenerationId := payload.aiGenerationId
    generatedText := (substituteDiscountTokens result.content
      (minted.map fun discount => ⟨discount.code, discount.valuePercent⟩)).text
    inputTokens := result.inputTokens
    outputTokens := result.outputTokens
    totalTokens := result.totalTokens
    latencyMs := result.latencyMs
    costMicrocents
    discountCode := minted.map (·.code)
    shopifyDiscountId := minted.map (·.shopifyDiscountId) }
  discountCreated := minted.map (discountCreatedAudit payload shop)

/-- The pass after the provider has answered. -/
def mintAndComplete (context : WorkerContext) (payload : AiGenerateJobPayload) (row : Pickup)
    (result : AiGenerateResult) : Program Unit :=
  match estimateCostMicrocents context.aiConfig.provider context.aiConfig.model result.inputTokens
      result.outputTokens with
  | .error message => throw (.foreign message)
  | .ok costMicrocents =>
    match row.generation.discountValuePercent with
    | none => perform (.complete payload.merchantId (completion payload row.shop result costMicrocents none))
    | some valuePercent =>
      if row.deletedAt ≠ none then markFailed payload "discount_customer_redacted"
      else do
        let minted ← mintDiscount context payload row.shopifyCustomerId valuePercent
        perform (.complete payload.merchantId (completion payload row.shop result costMicrocents (some minted)))

/-- One pass over one job. -/
def processAiGenerateJob (context : WorkerContext) (job : Job) : Program Unit := do
  match ← ask (.pickup job.data.aiGenerationId) with
  | none => return
  | some row =>
    if row.generation.status ≠ .pending then
      return
    let now ← clock
    if now - row.generation.createdAt > generationStalenessMs then
      markFailed job.data "generation_stale"
    else
      let result ← tryCatch
        (do
          let result ← generate {
            model := row.generation.modelId
            systemPrompt := row.generation.systemPrompt
            userPrompt := row.generation.userPrompt
            maxTokens := context.aiConfig.maxTokens
            temperature := context.aiConfig.temperature }
          return some result)
        fun thrown => do
          handleProviderError job row.shop thrown
          return none
      match result with
      | none => return
      | some result => mintAndComplete context job.data row result

end WinBack.Generation
