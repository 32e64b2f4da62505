import WinBack.Schema
import Mathlib.Data.List.Sort

/-! The campaign repository: claim, gate reads, the guarded status writes and the
completion transaction. Every function is one atomic statement or transaction on
the store. The writes run under `withTenantScope(scope)`: the extension adds
`merchantId = scope` to the filter of an `updateMany`, and a `findUnique` keeps
the caller's filter. -/

namespace WinBack

open Library

/-- Per-tick, per-merchant cap on the number of drafts picked up. -/
def defaultDispatchTake : Nat := 500

structure DispatchableDraft where
  messageId : MessageId
  customerId : CustomerId
  campaignId : CampaignId
  deriving DecidableEq, Repr

structure ClaimTargetArgs where
  merchantId : MerchantId
  campaignId : CampaignId
  messageId : MessageId
  customerId : CustomerId
  deriving DecidableEq, Repr

inductive ClaimTargetResult where
  | claimed | alreadyClaimed
  deriving DecidableEq, Repr

structure DispatchContext where
  targetStatus : CampaignTargetStatus
  customerId : CustomerId
  consentState : EmailMarketingConsentState
  generationCreatedAt : Date
  timezone : Option String
  sendTimeStartHour : Int
  sendTimeEndHour : Int
  defaultCooldownHours : Int
  maxDailySendsPerCustomer : Int
  dailySendCap : Int
  monthlySendsCap : Int
  customerEmail : Option String
  shop : String
  generatedText : String
  deriving DecidableEq, Repr

structure DeferredTarget where
  messageId : MessageId
  campaignId : CampaignId
  customerId : CustomerId
  createdAt : Date
  campaignActive : Bool
  deriving DecidableEq, Repr

/-- The two terminal statuses `resolveTerminal` writes. -/
inductive TerminalStatus where
  | suppressed | failed
  deriving DecidableEq, Repr

def TerminalStatus.target : TerminalStatus → CampaignTargetStatus
  | .suppressed => .suppressed
  | .failed => .failed

def TerminalStatus.message : TerminalStatus → MessageStatus
  | .suppressed => .suppressed
  | .failed => .failed

structure MarkSentArgs where
  messageId : MessageId
  merchantId : MerchantId
  shop : String
  campaignId : CampaignId
  customerId : CustomerId
  providerMessageId : String
  now : Date
  deriving DecidableEq, Repr

namespace CampaignRepository

/-- Whether a campaign's trigger bands and status accept the draft of a generation. -/
def campaignAccepts (generation : AiGeneration) (campaign : Campaign) : Bool :=
  campaign.merchantId == generation.merchantId && campaign.status == .active &&
    campaign.channel == .email && campaign.triggerStates.contains generation.triggerState

/-- `ORDER BY c."createdAt" ASC, c."id" ASC`. -/
def campaignBefore (first second : Campaign) : Prop :=
  first.createdAt < second.createdAt ∨ first.createdAt = second.createdAt ∧ first.id ≤ second.id

instance : DecidableRel campaignBefore := fun first second =>
  inferInstanceAs (Decidable (first.createdAt < second.createdAt ∨
    first.createdAt = second.createdAt ∧ first.id ≤ second.id))

/-- The oldest accepting campaign wins. -/
def winningCampaign (db : Db) (generation : AiGeneration) : Option Campaign :=
  ((db.campaigns.rows.filter (campaignAccepts generation)).insertionSort campaignBefore).head?

/-- The pickup predicate for one message, paired with its winning campaign. -/
def dispatchableDraft? (db : Db) (merchantId : MerchantId) (message : Message) : Option DispatchableDraft :=
  if message.merchantId == merchantId && message.status == .draft && message.generatedText != "" &&
      db.customers.any (fun customer => customer.id == message.customerId &&
        customer.merchantId == message.merchantId && customer.deletedAt == none) &&
      !db.campaignTargets.any (fun target => target.messageId == message.id) then
    match db.aiGenerations.find? (fun generation => generation.id == message.aiGenerationId &&
        generation.merchantId == message.merchantId && generation.status == .completed) with
    | none => none
    | some generation => (winningCampaign db generation).map fun campaign =>
        ⟨message.id, message.customerId, campaign.id⟩
  else none

/-- The pickup: `DISTINCT ON (m."id")` in message order, at most `take` rows. -/
def findDispatchableDrafts (db : Db) (merchantId : MerchantId)
    (take : Nat := defaultDispatchTake) : List DispatchableDraft :=
  ((db.messages.rows.insertionSort fun first second => first.id ≤ second.id).filterMap
    (dispatchableDraft? db merchantId)).take take

/-- The claim. `messageId @unique` turns a second claim into `alreadyClaimed`;
the foreign keys are checked at the end of the statement. -/
def claimTarget (scope : MerchantId) (args : ClaimTargetArgs) (createdAt : Date) (db : Db) :
    Except DbError ClaimTargetResult × Db :=
  if args.merchantId != scope then (.error .tenantScope, db)
  else
    match db.campaignTargets.insert? {
        merchantId := args.merchantId
        campaignId := args.campaignId
        messageId := args.messageId
        customerId := args.customerId
        createdAt } with
    | none => (.ok .alreadyClaimed, db)
    | some targets =>
      if db.merchants.any (·.id == args.merchantId) && db.campaigns.any (·.id == args.campaignId) &&
          db.messages.any (·.id == args.messageId) && db.customers.any (·.id == args.customerId) then
        (.ok .claimed, { db with campaignTargets := targets })
      else (.error .foreignKey, db)

/-- The gate context of one target, keyed by `messageId`. `none` when the target
or its settings are gone. -/
def loadDispatchContext (db : Db) (messageId : MessageId) : Option DispatchContext := do
  let target ← db.campaignTargets.find? (·.messageId == messageId)
  let settings ← db.merchantSettings.find? (·.merchantId == target.merchantId)
  let merchant ← db.merchants.find? (·.id == target.merchantId)
  let customer ← db.customers.find? (·.id == target.customerId)
  let message ← db.messages.find? (·.id == target.messageId)
  let generation ← db.aiGenerations.find? (·.id == message.aiGenerationId)
  return {
    targetStatus := target.status
    customerId := target.customerId
    consentState := customer.emailMarketingConsentState
    generationCreatedAt := generation.createdAt
    timezone := merchant.timezone
    sendTimeStartHour := settings.sendTimeStartHour
    sendTimeEndHour := settings.sendTimeEndHour
    defaultCooldownHours := settings.defaultCooldownHours
    maxDailySendsPerCustomer := settings.maxDailySendsPerCustomer
    dailySendCap := settings.dailySendCap
    monthlySendsCap := settings.monthlySendsCap
    customerEmail := customer.email
    shop := merchant.shop
    generatedText := message.generatedText }

def isSuppressed (db : Db) (merchantId : MerchantId) (customerId : CustomerId)
    (channel : MessageChannel) : Bool :=
  db.suppressions.any fun row =>
    row.merchantId == merchantId && row.customerId == customerId && row.channel == channel

/-- Today's sent count, the first read of `getQuotaUsage`. -/
def daySentCount (db : Db) (merchantId : MerchantId) (now : Date) : Nat :=
  ((db.messageQuotaBuckets.find? fun row =>
    row.merchantId == merchantId && row.date == utcMidnight now).map (·.sentCount)).getD 0

/-- The running month sum, the second read of `getQuotaUsage`. -/
def monthSentCount (db : Db) (merchantId : MerchantId) (now : Date) : Nat :=
  ((db.messageQuotaBuckets.rows.filter fun row =>
    row.merchantId == merchantId && decide (utcFirstOfMonth now ≤ row.date)).map (·.sentCount)).sum

/-- Status of the target of a message, read without a tenant filter. -/
def targetStatus (db : Db) (messageId : MessageId) : Option CampaignTargetStatus :=
  (db.campaignTargets.find? (·.messageId == messageId)).map (·.status)

/-- The merchant that a target belongs to. -/
def targetMerchant (db : Db) (messageId : MessageId) : Option MerchantId :=
  (db.campaignTargets.find? (·.messageId == messageId)).map (·.merchantId)

def messageStatus (db : Db) (messageId : MessageId) : Option MessageStatus :=
  (db.messages.find? (·.id == messageId)).map (·.status)

/-- The merchant that a message belongs to. -/
def messageMerchant (db : Db) (messageId : MessageId) : Option MerchantId :=
  (db.messages.find? (·.id == messageId)).map (·.merchantId)

/-- `where: { messageId, status: { in: statuses } }` under the tenant scope. -/
def targetFilter (scope : MerchantId) (messageId : MessageId) (statuses : List CampaignTargetStatus)
    (target : CampaignTarget) : Bool :=
  target.messageId == messageId && statuses.contains target.status && target.merchantId == scope

/-- `where: { id, status: 'draft' }` under the tenant scope. -/
def draftFilter (scope : MerchantId) (messageId : MessageId) (message : Message) : Bool :=
  message.id == messageId && message.status == .draft && message.merchantId == scope

/-- Terminal outcome: target and message move together, or neither moves. -/
def resolveTerminal (scope : MerchantId) (messageId : MessageId) (reason : String)
    (status : TerminalStatus) (db : Db) : Bool × Db :=
  let filter := targetFilter scope messageId [.pending, .deferred, .sending]
  if db.campaignTargets.count filter = 0 then (false, db)
  else (true, { db with
    campaignTargets := db.campaignTargets.updateMany filter
      (fun target => { target with status := status.target, suppressedByGate := some reason })
      (fun _ => rfl)
    messages := db.messages.updateMany (draftFilter scope messageId)
      (fun message => { message with status := status.message }) (fun _ => rfl) })

/-- The compare-and-set of `startSending`: pending to sending. -/
def startSending (scope : MerchantId) (messageId : MessageId) (now : Date) (db : Db) : Bool × Db :=
  let filter := targetFilter scope messageId [.pending]
  (0 < db.campaignTargets.count filter, { db with
    campaignTargets := db.campaignTargets.updateMany filter
      (fun target => { target with status := .sending, sendStartedAt := some now }) (fun _ => rfl) })

/-- Retryable-error recovery: sending back to pending. -/
def revertToPending (scope : MerchantId) (messageId : MessageId) (db : Db) : Bool × Db :=
  let filter := targetFilter scope messageId [.sending]
  (0 < db.campaignTargets.count filter, { db with
    campaignTargets := db.campaignTargets.updateMany filter
      (fun target => { target with status := .pending, sendStartedAt := none }) (fun _ => rfl) })

/-- Transient outcome: the target waits, the message stays a draft. -/
def deferTarget (scope : MerchantId) (messageId : MessageId) (db : Db) : Bool × Db :=
  let filter := targetFilter scope messageId [.pending, .deferred]
  (0 < db.campaignTargets.count filter, { db with
    campaignTargets := db.campaignTargets.updateMany filter
      (fun target => { target with status := .deferred }) (fun _ => rfl) })

/-- `INSERT … ON CONFLICT DO NOTHING` of the day's bucket. -/
def ensureBucket (merchantId : MerchantId) (date : Date) (buckets : Table MessageQuotaBucket) :
    Table MessageQuotaBucket :=
  (buckets.insert? { merchantId, date }).getD buckets

def bucketFilter (merchantId : MerchantId) (date : Date) (row : MessageQuotaBucket) : Bool :=
  row.merchantId == merchantId && row.date == date

/-- The `dispatch.sent` audit row of a completion. -/
def sentAudit (args : MarkSentArgs) : AuditLog where
  merchantId := some args.merchantId
  shop := some args.shop
  actorType := .system
  actorId := some "drainer"
  action := "dispatch.sent"
  targetType := some "campaign_target"
  targetId := some args.messageId
  context := .obj [("campaignId", .str args.campaignId), ("customerId", .str args.customerId),
    ("providerMessageId", .str args.providerMessageId)]

/-- The completion transaction. `false` is the rolled-back compare-and-set miss;
a tenant mismatch of the bucket update throws and rolls back as well. -/
def markSentWithQuota (scope : MerchantId) (args : MarkSentArgs) (db : Db) :
    Except DbError Bool × Db :=
  let date := utcMidnight args.now
  let targets := targetFilter scope args.messageId [.sending]
  let messages := draftFilter scope args.messageId
  if db.campaignTargets.count targets = 0 then (.ok false, db)
  else if db.messages.count messages = 0 then (.ok false, db)
  else if args.merchantId != scope then (.error .tenantScope, db)
  else (.ok true, { db with
    campaignTargets := db.campaignTargets.updateMany targets
      (fun target => { target with status := .sent, sentAt := some args.now }) (fun _ => rfl)
    messages := db.messages.updateMany messages
      (fun message => { message with
        status := .sent
        sentAt := some args.now
        channel := some .email
        provider := some "amazon-ses"
        providerMessageId := some args.providerMessageId }) (fun _ => rfl)
    messageQuotaBuckets := (ensureBucket args.merchantId date db.messageQuotaBuckets).updateMany
      (bucketFilter args.merchantId date)
      (fun row => { row with sentCount := row.sentCount + 1 }) (fun _ => rfl)
    auditLogs := db.auditLogs ++ [sentAudit args] })

/-- Arm 2 of the sweep: every deferred target of the merchant. -/
def findDeferredTargets (db : Db) (merchantId : MerchantId) : List DeferredTarget :=
  (db.campaignTargets.rows.filter fun target =>
      target.merchantId == merchantId && target.status == .deferred).map fun target => {
    messageId := target.messageId
    campaignId := target.campaignId
    customerId := target.customerId
    createdAt := target.createdAt
    campaignActive := db.campaigns.any fun campaign =>
      campaign.id == target.campaignId && campaign.status == .active }

end CampaignRepository

/-- The smallest store with one dispatchable draft: merchant `m`, active campaign
`c`, subscribed customer `u`, draft message `d`. -/
def oneDraft : Db where
  merchants := ⟨[{ id := "m", shop := "m.myshopify.com", timezone := some "UTC" }], by simp⟩
  merchantSettings := ⟨[{ merchantId := "m" }], by simp⟩
  customers := ⟨[{
    id := "u"
    merchantId := "m"
    shopifyCustomerId := "gid://shopify/Customer/1"
    email := some "u@example.com"
    emailMarketingConsentState := .subscribed }], by simp⟩
  aiGenerations := ⟨[{
    id := "g"
    merchantId := "m"
    customerId := "u"
    triggerState := "dormant"
    status := .completed
    createdAt := 0 }], by simp⟩
  messages := ⟨[{
    id := "d"
    merchantId := "m"
    customerId := "u"
    aiGenerationId := "g"
    generatedText := "hello" }], by simp⟩
  campaigns := ⟨[{
    id := "c"
    merchantId := "m"
    status := .active
    triggerStates := ["dormant"]
    createdAt := 0 }], by simp⟩

example : CampaignRepository.findDispatchableDrafts oneDraft "m" = [⟨"d", "u", "c"⟩] := by decide

end WinBack
