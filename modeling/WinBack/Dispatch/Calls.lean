import WinBack.Campaign.Repository
import WinBack.Email.Ses
import WinBack.Library.Script

/-! The atomic calls of the dispatch subsystem and the backend that answers them:
the store, the e-mail provider's record of calls and the `campaign.dispatch` queue.
A choice fixes what the environment decides about one call. -/

namespace WinBack.Dispatch

open Library

structure CampaignDispatchJobPayload where
  merchantId : MerchantId
  messageId : MessageId
  campaignId : CampaignId
  customerId : CustomerId
  deriving DecidableEq, Repr

/-- Reads of the store. -/
inductive Query where
  | loadDispatchContext (messageId : MessageId)
  | isSuppressed (merchantId : MerchantId) (customerId : CustomerId)
  | hasQualifyingOrderSince (merchantId : MerchantId) (customerId : CustomerId) (since : Date)
  | countSentSince (merchantId : MerchantId) (customerId : CustomerId) (since : Date)
  | daySentCount (merchantId : MerchantId) (now : Date)
  | monthSentCount (merchantId : MerchantId) (now : Date)
  | targetStatus (messageId : MessageId)
  | liveMerchants
  | findDispatchableDrafts (merchantId : MerchantId)
  | findDeferredTargets (merchantId : MerchantId)

@[reducible] def Query.Answer : Query → Type
  | .loadDispatchContext _ => Option DispatchContext
  | .isSuppressed _ _ | .hasQualifyingOrderSince _ _ _ => Bool
  | .countSentSince _ _ _ | .daySentCount _ _ | .monthSentCount _ _ => Nat
  | .targetStatus _ => Option CampaignTargetStatus
  | .liveMerchants => List MerchantId
  | .findDispatchableDrafts _ => List DispatchableDraft
  | .findDeferredTargets _ => List DeferredTarget

/-- A paid, non-test order after the winback decision. -/
def OrderRepository.hasQualifyingOrderSince (db : Db) (merchantId : MerchantId) (customerId : CustomerId)
    (since : Date) : Bool :=
  db.orders.any fun order =>
    order.merchantId == merchantId && order.customerId == some customerId && !order.isTest &&
      (order.financialStatus == some .paid || order.financialStatus == some .partiallyPaid) &&
      decide (since < order.shopifyProcessedAt.getD order.placedAt)

def MessageRepository.countSentSince (db : Db) (merchantId : MerchantId) (customerId : CustomerId) (since : Date) : Nat :=
  db.messages.count fun message =>
    message.merchantId == merchantId && message.customerId == customerId && message.status == .sent &&
      message.sentAt.any fun sentAt => decide (since ≤ sentAt)

/-- Live merchants with an active e-mail campaign. -/
def DispatchSweep.liveMerchants (db : Db) : List MerchantId :=
  (db.merchants.rows.filter fun merchant =>
    merchant.uninstalledAt == none && merchant.tokenRevokedAt == none &&
      db.campaigns.any fun campaign =>
        campaign.merchantId == merchant.id && campaign.status == .active &&
          campaign.channel == .email).map (·.id)

def Query.eval (db : Db) : (query : Query) → query.Answer
  | .loadDispatchContext messageId => CampaignRepository.loadDispatchContext db messageId
  | .isSuppressed merchantId customerId =>
    CampaignRepository.isSuppressed db merchantId customerId .email
  | .hasQualifyingOrderSince merchantId customerId since =>
    OrderRepository.hasQualifyingOrderSince db merchantId customerId since
  | .countSentSince merchantId customerId since =>
    MessageRepository.countSentSince db merchantId customerId since
  | .daySentCount merchantId now => CampaignRepository.daySentCount db merchantId now
  | .monthSentCount merchantId now => CampaignRepository.monthSentCount db merchantId now
  | .targetStatus messageId => CampaignRepository.targetStatus db messageId
  | .liveMerchants => DispatchSweep.liveMerchants db
  | .findDispatchableDrafts merchantId => CampaignRepository.findDispatchableDrafts db merchantId
  | .findDeferredTargets merchantId => CampaignRepository.findDeferredTargets db merchantId

/-- One atomic call. Writes carry the tenant scope they run in. -/
inductive Call where
  | query (read : Query)
  | clock
  | claimTarget (scope : MerchantId) (args : ClaimTargetArgs)
  | resolveTerminal (scope : MerchantId) (messageId : MessageId) (reason : String)
      (status : TerminalStatus)
  | startSending (scope : MerchantId) (messageId : MessageId) (now : Date)
  | revertToPending (scope : MerchantId) (messageId : MessageId)
  | markSentWithQuota (scope : MerchantId) (args : MarkSentArgs)
  | deferTarget (scope : MerchantId) (messageId : MessageId)
  | appendAudit (row : AuditLog)
  | send (args : EmailSendArgs)
  | addBulk (payloads : List CampaignDispatchJobPayload)

@[reducible] def Call.Value : Call → Type
  | .query read => read.Answer
  | .clock => Date
  | .claimTarget _ _ => ClaimTargetResult
  | .resolveTerminal _ _ _ _ | .startSending _ _ _ | .revertToPending _ _ | .markSentWithQuota _ _
  | .deferTarget _ _ => Bool
  | .appendAudit _ | .addBulk _ => Unit
  | .send _ => EmailSendAccepted

/-- What a pass can catch. `foreign` is a throw of no known class. -/
inductive Thrown where
  | db (error : DbError)
  | provider (error : EmailProviderError)
  | foreign
  deriving DecidableEq, Repr

abbrev Program := Script Call Call.Value Thrown

/-- What a provider call comes back with: an SES outcome, or a throw that is no
`EmailProviderError`. -/
inductive ProviderOutcome where
  | ses (outcome : SdkOutcome)
  | foreign
  deriving DecidableEq, Repr

namespace ProviderOutcome

def answer : ProviderOutcome → Except Thrown EmailSendAccepted
  | .ses outcome => (AmazonSesProvider.send outcome).mapError .provider
  | .foreign => .error .foreign

def acknowledged : ProviderOutcome → Bool
  | .ses outcome => outcome.acknowledged
  | .foreign => false

def unacknowledged : ProviderOutcome → Bool
  | .ses outcome => outcome.unacknowledged
  | .foreign => true

end ProviderOutcome

/-- One provider call as the world has it: `written` says that the request left
this process, `accepted` that the provider accepted the message. -/
structure SendRecord where
  messageId : MessageId
  outcome : ProviderOutcome
  written : Bool
  accepted : Bool
  deriving DecidableEq, Repr

/-- An acknowledged message was accepted, only a written request can be, and a
rejected one was not. -/
def SendRecord.possible (record : SendRecord) : Bool :=
  if record.outcome.acknowledged then record.written && record.accepted
  else !record.accepted || (record.written && record.outcome.unacknowledged)

/-- The request may have been accepted, and no usable acknowledgement came back. -/
def SendRecord.lostAcknowledgement (record : SendRecord) : Bool :=
  record.written && record.outcome.unacknowledged

inductive JobState where
  | waiting
  | active (slot : Nat)
  | completed
  | failed
  deriving DecidableEq, Repr

/-- A queued job with the two counters that end its retries. -/
structure Job where
  payload : CampaignDispatchJobPayload
  attemptsMade : Nat := 0
  stalledCount : Nat := 0
  state : JobState := .waiting
  deriving DecidableEq, Repr

structure Backend where
  db : Db := {}
  sends : List SendRecord := []
  jobs : List Job := []

/-- The fate of a store or queue call: carried out, carried out with the answer
lost, or not carried out. -/
inductive Fate where
  | done | lost | failed
  deriving DecidableEq, Repr

structure Choice where
  fate : Fate := .done
  now : Date := 0
  outcome : ProviderOutcome := .foreign
  written : Bool := true
  accepted : Bool := false
  deriving DecidableEq, Repr

/-- Answer a write according to its fate. -/
def Fate.apply {Answer : Type} (fate : Fate) (backend : Backend)
    (write : Except DbError Answer × Db) : Except Thrown Answer × Backend :=
  match fate with
  | .done => (write.1.mapError .db, { backend with db := write.2 })
  | .lost => (.error (.db .connection), { backend with db := write.2 })
  | .failed => (.error (.db .connection), backend)

/-- A write that answers without throwing. -/
def answered {Answer : Type} (write : Answer × Db) : Except DbError Answer × Db := (.ok write.1, write.2)

/-- Execute one call. Only an impossible provider record is refused. -/
def exec (backend : Backend) (request : Call) (choice : Choice) :
    Option (Except Thrown request.Value × Backend) :=
  match request with
  | .query read =>
    some (if choice.fate = .done then .ok (read.eval backend.db) else .error (.db .connection), backend)
  | .clock => some (.ok choice.now, backend)
  | .claimTarget scope args =>
    some (choice.fate.apply backend (CampaignRepository.claimTarget scope args choice.now backend.db))
  | .resolveTerminal scope messageId reason status =>
    some (choice.fate.apply backend
      (answered (CampaignRepository.resolveTerminal scope messageId reason status backend.db)))
  | .startSending scope messageId now =>
    some (choice.fate.apply backend
      (answered (CampaignRepository.startSending scope messageId now backend.db)))
  | .revertToPending scope messageId =>
    some (choice.fate.apply backend
      (answered (CampaignRepository.revertToPending scope messageId backend.db)))
  | .markSentWithQuota scope args =>
    some (choice.fate.apply backend (CampaignRepository.markSentWithQuota scope args backend.db))
  | .deferTarget scope messageId =>
    some (choice.fate.apply backend
      (answered (CampaignRepository.deferTarget scope messageId backend.db)))
  | .appendAudit row =>
    some (choice.fate.apply backend
      (answered ((), { backend.db with auditLogs := backend.db.auditLogs ++ [row] })))
  | .send args =>
    let record : SendRecord := ⟨args.correlationId, choice.outcome, choice.written, choice.accepted⟩
    if record.possible then
      some (choice.outcome.answer, { backend with sends := backend.sends ++ [record] })
    else none
  | .addBulk payloads =>
    let queued := { backend with jobs := backend.jobs ++ payloads.map fun payload => { payload } }
    match choice.fate with
    | .done => some (.ok (), queued)
    | .lost => some (.error (.db .connection), queued)
    | .failed => some (.error (.db .connection), backend)

end WinBack.Dispatch
