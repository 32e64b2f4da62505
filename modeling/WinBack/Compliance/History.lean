import WinBack.Library.Machine
import WinBack.Campaign.Repository
import WinBack.Customer.Generation
import WinBack.Compliance.Redact

/-! Histories of a store. Every operation that writes a customer or a row about one
is a label, and whatever else the system does is one more label that leaves those
rows alone. A row about a customer always carries the customer's merchant. -/

namespace WinBack.Compliance

open Library

/-- A customer together with the merchant it belongs to. -/
abbrev Reference := CustomerId × MerchantId

/-- The customer that an announced transition is about. -/
def eventReference (row : OutboxEvent) : Option Reference :=
  if row.type = CustomerScoreService.stateChangedType then payloadCustomer row.payload else none

/-- The store and the dispatch jobs in the queue. -/
structure Pipeline where
  db : Db
  jobs : List ClaimTargetArgs := []

inductive Operation where
  | customerUpserted (merchantId : MerchantId) (body : ShopifyCustomerWebhookBody) (newId : CustomerId)
      (scored : Scored) (now : Date)
  | customersBackfilled (merchantId : MerchantId) (items : List (ShopifyCustomerNode × CustomerId)) (now : Date)
  | customerDeleted (merchantId : MerchantId) (id : ShopifyId) (now : Date)
  | orderUpserted (merchantId : MerchantId) (body : ShopifyOrderWebhookBody) (newId : String)
      (scored : Scored) (now : Date)
  | ordersBackfilled (merchantId : MerchantId) (items : List (ShopifyOrderWebhookBody × String))
  | rescored (merchant : Merchant) (announced : Option CustomerScoreService.Announcement)
      (batch : List (Customer × Scored)) (now : Date)
  | generated (eventId : String) (args : GenerationArgs) (now : Date)
  | generationCompleted (merchantId : MerchantId) (completion : Completion) (now date : Date)
  | generationFailed (merchantId : MerchantId) (generationId lastError : String) (now : Date)
  | draftsPickedUp (merchantId : MerchantId)
  | targetClaimed (job : ClaimTargetArgs) (now : Date)
  | targetResolved (merchantId : MerchantId) (messageId : MessageId) (reason : String) (status : TerminalStatus)
  | sendingStarted (merchantId : MerchantId) (messageId : MessageId) (now : Date)
  | sendingReverted (merchantId : MerchantId) (messageId : MessageId)
  | targetDeferred (merchantId : MerchantId) (messageId : MessageId)
  | targetSent (merchantId : MerchantId) (args : MarkSentArgs)
  | customerRedacted (merchantId : MerchantId) (shop : String) (payload : CustomerRedactPayload) (now : Date)
  | elsewhere (next : Db)

/-- The transaction of `handleCustomerCreated` and `handleCustomerUpdated`. -/
def upsertCustomer (merchantId : MerchantId) (body : ShopifyCustomerWebhookBody) (newId : CustomerId)
    (scored : Scored) (now : Date) (db : Db) : Except RepositoryError Db := do
  let (result, db) ← CustomerRepository.upsertFromWebhook merchantId body newId now db
  CustomerScoreService.recompute merchantId result.customerId scored now db

/-- The transaction of `handleOrderEvent`. -/
def upsertOrder (merchantId : MerchantId) (body : ShopifyOrderWebhookBody) (newId : String)
    (scored : Scored) (now : Date) (db : Db) : Except RepositoryError Db := do
  let (result, db) ← OrderRepository.upsertFromWebhook merchantId body newId db
  match result.customerId with
  | none => return db
  | some customerId => CustomerScoreService.recompute merchantId customerId scored now db

/-- The jobs of one pickup. -/
def pickedUp (db : Db) (merchantId : MerchantId) : List ClaimTargetArgs :=
  (CampaignRepository.findDispatchableDrafts db merchantId).map fun draft =>
    ⟨merchantId, draft.campaignId, draft.messageId, draft.customerId⟩

/-- The tables about customers are the same, and no transition is announced. -/
def SameCustomers (db next : Db) : Prop :=
  next.customers = db.customers ∧ next.customerScores = db.customerScores ∧ next.orders = db.orders ∧
    next.aiGenerations = db.aiGenerations ∧ next.messages = db.messages ∧
    next.campaignTargets = db.campaignTargets ∧ next.suppressions = db.suppressions ∧
    ∀ reference ∈ next.outboxEvents.links eventReference, reference ∈ db.outboxEvents.links eventReference

instance (db next : Db) : Decidable (SameCustomers db next) :=
  inferInstanceAs (Decidable (_ ∧ _))

/-- The store after an operation; one that throws is rolled back and is no step. -/
def perform (db : Db) : Operation → Option Db
  | .customerUpserted merchantId body newId scored now =>
    (upsertCustomer merchantId body newId scored now db).toOption
  | .customersBackfilled merchantId items now =>
    (CustomerRepository.processItems merchantId now items db).toOption
  | .customerDeleted merchantId id now => ((handleCustomerDeleted merchantId id now db).map Prod.snd).toOption
  | .orderUpserted merchantId body newId scored now => (upsertOrder merchantId body newId scored now db).toOption
  | .ordersBackfilled merchantId items => (OrderRepository.processItems merchantId items db).toOption
  | .rescored merchant announced batch now =>
    -- the page query reads live customers of the merchant
    if ∀ item ∈ batch, item.1 ∈ db.customers.rows ∧ item.1.merchantId = merchant.id ∧ item.1.deletedAt = none then
      (CustomerScoreService.rescoreBatch merchant announced now batch db).toOption
    else none
  | .generated eventId args now =>
    ((db.outboxEvents.find? (·.id == eventId)).bind eventReference).bind fun (customerId, merchantId) =>
      (createGeneration merchantId customerId args now db).toOption
  | .generationCompleted merchantId completion now date =>
    (completeGeneration merchantId completion now date db).toOption
  | .generationFailed merchantId generationId lastError now =>
    some (AiGenerationRepository.markFailed merchantId generationId lastError now db).2
  | .draftsPickedUp _ => some db
  | .targetClaimed job now => some (CampaignRepository.claimTarget job.merchantId job now db).2
  | .targetResolved merchantId messageId reason status =>
    some (CampaignRepository.resolveTerminal merchantId messageId reason status db).2
  | .sendingStarted merchantId messageId now => some (CampaignRepository.startSending merchantId messageId now db).2
  | .sendingReverted merchantId messageId => some (CampaignRepository.revertToPending merchantId messageId db).2
  | .targetDeferred merchantId messageId => some (CampaignRepository.deferTarget merchantId messageId db).2
  | .targetSent merchantId args => some (CampaignRepository.markSentWithQuota merchantId args db).2
  | .customerRedacted merchantId shop payload now => (processCustomerRedact merchantId shop payload now db).toOption
  | .elsewhere next => if SameCustomers db next then some next else none

/-- A claim needs its job in the queue. -/
def Operation.queued (jobs : List ClaimTargetArgs) : Operation → Bool
  | .targetClaimed job _ => decide (job ∈ jobs)
  | _ => true

def Operation.enqueues (db : Db) : Operation → List ClaimTargetArgs
  | .draftsPickedUp merchantId => pickedUp db merchantId
  | _ => []

def history : Machine Pipeline Operation where
  step pipeline operation :=
    if operation.queued pipeline.jobs then
      (perform pipeline.db operation).map fun db =>
        { db, jobs := pipeline.jobs ++ operation.enqueues pipeline.db }
    else none

/-- A store that knows no customer yet. -/
structure Fresh (db : Db) : Prop where
  customers : db.customers = ∅
  customerScores : db.customerScores = ∅
  orders : db.orders = ∅
  aiGenerations : db.aiGenerations = ∅
  messages : db.messages = ∅
  campaignTargets : db.campaignTargets = ∅
  suppressions : db.suppressions = ∅
  transitions : db.outboxEvents.links eventReference = []

/-- The pipelines after any sequence of operations on a store that was fresh. -/
def Reachable (pipeline : Pipeline) : Prop :=
  ∃ db, Fresh db ∧ history.Reach (fun _ _ => True) { db } pipeline

end WinBack.Compliance
