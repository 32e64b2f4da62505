import WinBack.Library.Fallible
import WinBack.Customer.Scoring

/-! The rows of the generation pipeline: a pending generation with its draft message
for a transition, and their completion or failure by the worker. -/

namespace WinBack

open Library

/-- `CreatePendingArgs`, with the ids of the two new rows. -/
structure GenerationArgs where
  triggerState : String
  previousState : String := ""
  rDays : Int := 0
  fCount : Int := 0
  mCents : Int := 0
  currency : String := "USD"
  churnRiskScore : Option Rat := none
  provider : String := ""
  modelId : String := ""
  systemPrompt : String
  userPrompt : String
  discountValuePercent : Option Int := none
  generationId : String
  messageId : MessageId
  deriving DecidableEq, Repr

structure MarkCompletedArgs where
  aiGenerationId : String
  generatedText : String
  inputTokens : Int
  outputTokens : Int
  totalTokens : Int
  latencyMs : Int
  costMicrocents : Int
  discountCode : Option String := none
  shopifyDiscountId : Option String := none
  deriving DecidableEq, Repr

namespace AiGenerationRepository

/-- The columns that `createPending` writes. -/
def created (merchantId : MerchantId) (customerId : CustomerId) (args : GenerationArgs) (now : Date) : AiGeneration where
  id := args.generationId
  merchantId := merchantId
  customerId := customerId
  triggerState := args.triggerState
  previousState := args.previousState
  rDays := args.rDays
  fCount := args.fCount
  mCents := args.mCents
  currency := args.currency
  churnRiskScore := args.churnRiskScore
  provider := args.provider
  modelId := args.modelId
  systemPrompt := args.systemPrompt
  userPrompt := args.userPrompt
  discountValuePercent := args.discountValuePercent
  createdAt := now

def createPending (merchantId : MerchantId) (customerId : CustomerId) (args : GenerationArgs) (now : Date) (db : Db) :
    Except RepositoryError Db :=
  match db.aiGenerations.insert? (created merchantId customerId args now) with
  | none => .error .uniqueConstraint
  | some aiGenerations =>
    if db.customers.any (·.id == customerId) && db.merchants.any (·.id == merchantId) then
      .ok { db with aiGenerations }
    else .error .foreignKey

/-- `where: { id, status: 'pending' }` under the tenant scope. -/
def pending (scope : MerchantId) (generationId : String) (row : AiGeneration) : Bool :=
  row.id == generationId && row.status == .pending && row.merchantId == scope

def complete (args : MarkCompletedArgs) (now : Date) (row : AiGeneration) : AiGeneration := { row with
  status := .completed
  generatedText := some args.generatedText
  inputTokens := some args.inputTokens
  outputTokens := some args.outputTokens
  totalTokens := some args.totalTokens
  latencyMs := some args.latencyMs
  costMicrocents := some args.costMicrocents
  discountCode := args.discountCode
  shopifyDiscountId := args.shopifyDiscountId
  completedAt := some now }

def markCompleted (scope : MerchantId) (args : MarkCompletedArgs) (now : Date) (db : Db) : Bool × Db :=
  (0 < db.aiGenerations.count (pending scope args.aiGenerationId), { db with
    aiGenerations := db.aiGenerations.updateMany (pending scope args.aiGenerationId)
      (complete args now) fun _ => rfl })

def lastErrorMaxChars : Nat := 1000

def markFailed (scope : MerchantId) (generationId lastError : String) (now : Date) (db : Db) : Bool × Db :=
  (0 < db.aiGenerations.count (pending scope generationId), { db with
    aiGenerations := db.aiGenerations.updateMany (pending scope generationId)
      (fun row => { row with
        status := .failed
        lastError := some (utf16Prefix lastErrorMaxChars lastError)
        failedAt := some now }) fun _ => rfl })

end AiGenerationRepository

namespace MessageRepository

def drafted (merchantId : MerchantId) (customerId : CustomerId) (args : GenerationArgs) : Message where
  id := args.messageId
  merchantId := merchantId
  customerId := customerId
  aiGenerationId := args.generationId

def createDraft (merchantId : MerchantId) (customerId : CustomerId) (args : GenerationArgs) (db : Db) :
    Except RepositoryError Db :=
  match db.messages.insert? (drafted merchantId customerId args) with
  | none => .error .uniqueConstraint
  | some messages =>
    if db.customers.any (·.id == customerId) && db.merchants.any (·.id == merchantId) &&
        db.aiGenerations.any (·.id == args.generationId) then
      .ok { db with messages }
    else .error .foreignKey

def updateGeneratedText (scope : MerchantId) (generationId generatedText : String) (db : Db) : Db :=
  { db with
    messages := db.messages.updateMany
      (fun row => row.aiGenerationId == generationId && row.merchantId == scope)
      (fun row => { row with generatedText }) fun _ => rfl }

end MessageRepository

/-- The transaction of `handleCustomerStateChanged`: both rows or neither. The reads
before it, of billing, settings, caps and the customer, decide whether it runs. -/
def createGeneration (merchantId : MerchantId) (customerId : CustomerId) (args : GenerationArgs) (now : Date)
    (db : Db) : Except RepositoryError Db := do
  let db ← AiGenerationRepository.createPending merchantId customerId args now db
  MessageRepository.createDraft merchantId customerId args db

theorem createGeneration_ok {merchantId : MerchantId} {customerId : CustomerId} {args : GenerationArgs} {now : Date}
    {db next : Db} (done : createGeneration merchantId customerId args now db = .ok next) :
    ∃ aiGenerations messages,
      db.aiGenerations.insert? (AiGenerationRepository.created merchantId customerId args now) = some aiGenerations ∧
        db.messages.insert? (MessageRepository.drafted merchantId customerId args) = some messages ∧
          next = { db with aiGenerations, messages } := by
  obtain ⟨middle, pending, drafted⟩ := bind_eq_ok_iff.mp done
  unfold AiGenerationRepository.createPending at pending
  split at pending
  · cases pending
  · rename_i aiGenerations generated
    split at pending
    · cases pending
      unfold MessageRepository.createDraft at drafted
      split at drafted
      · cases drafted
      · rename_i messages inserted
        split at drafted
        · cases drafted
          exact ⟨aiGenerations, messages, generated, inserted, rfl⟩
        · cases drafted
    · cases pending

namespace AiSpendBucketRepository

/-- `where: { merchantId_date }`. -/
def bucketOf (merchantId : MerchantId) (date : Date) (row : AiSpendBucket) : Bool :=
  row.merchantId == merchantId && row.date == utcMidnight date

/-- `INSERT ... ON CONFLICT DO UPDATE` on the bucket of the day. -/
def incrementSpend (merchantId : MerchantId) (date : Date) (deltaMicrocents : Int) (db : Db) :
    Except RepositoryError Db :=
  if db.aiSpendBuckets.any (bucketOf merchantId date) then
    .ok { db with
      aiSpendBuckets := db.aiSpendBuckets.updateMany (bucketOf merchantId date)
        (fun row => { row with
          spentMicrocents := row.spentMicrocents + deltaMicrocents
          generationCount := row.generationCount + 1 }) fun _ => rfl }
  else
    match db.aiSpendBuckets.insert? {
        merchantId
        date := utcMidnight date
        spentMicrocents := deltaMicrocents
        generationCount := 1 } with
    | none => .error .uniqueConstraint
    | some aiSpendBuckets =>
      if db.merchants.any (·.id == merchantId) then .ok { db with aiSpendBuckets } else .error .foreignKey

end AiSpendBucketRepository

/-- What the worker has in hand when it opens the completion transaction. -/
structure Completion where
  args : MarkCompletedArgs
  discountCreated : Option AuditLog := none

/-- The completion transaction of the generation worker; a replay writes nothing more. -/
def completeGeneration (scope : MerchantId) (completion : Completion) (now date : Date) (db : Db) :
    Except RepositoryError Db :=
  match AiGenerationRepository.markCompleted scope completion.args now db with
  | (false, db) => .ok db
  | (true, db) =>
    let db := MessageRepository.updateGeneratedText scope completion.args.aiGenerationId
      completion.args.generatedText db
    (AiSpendBucketRepository.incrementSpend scope date completion.args.costMicrocents db).map fun db =>
      { db with auditLogs := db.auditLogs ++ completion.discountCreated.toList }

end WinBack
