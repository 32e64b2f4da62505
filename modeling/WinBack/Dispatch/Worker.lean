import WinBack.Dispatch.Calls

/-! The dispatch worker: the gate chain, the send path and the error handling of
one `campaign.dispatch` job, as a program over atomic calls. -/

namespace WinBack.Dispatch

open Library

/-- Deployment values of the drainer, and the hour `Intl.DateTimeFormat` prints for
an instant in a named timezone; `none` is its `RangeError`. -/
structure DrainerContext where
  emailFromAddress : String
  emailConfigurationSetName : Option String := none
  formatHour : String → Date → Option Int

section Calls

def perform (request : Call) : Program request.Value := Script.perform request

def ask (read : Query) : Program read.Answer := perform (.query read)

def clock : Program Date := perform .clock

def claimTarget (scope : MerchantId) (args : ClaimTargetArgs) : Program ClaimTargetResult :=
  perform (.claimTarget scope args)

def resolveTerminal (scope : MerchantId) (messageId : MessageId) (reason : String)
    (status : TerminalStatus) : Program Bool :=
  perform (.resolveTerminal scope messageId reason status)

def revertToPending (scope : MerchantId) (messageId : MessageId) : Program Bool :=
  perform (.revertToPending scope messageId)

def deferTarget (scope : MerchantId) (messageId : MessageId) : Program Bool :=
  perform (.deferTarget scope messageId)

def appendAudit (row : AuditLog) : Program Unit := perform (.appendAudit row)

def send (args : EmailSendArgs) : Program EmailSendAccepted := perform (.send args)

def addBulk (payloads : List CampaignDispatchJobPayload) : Program Unit :=
  perform (.addBulk payloads)

end Calls

inductive StartSendingResult where
  | started
  | noopNotPending (currentStatus : CampaignTargetStatus)
  | noopTargetMissing
  deriving DecidableEq, Repr

/-- The compare-and-set, then on a miss a separate read of the present status. -/
def startSending (scope : MerchantId) (messageId : MessageId) (now : Date) :
    Program StartSendingResult := do
  let started : Bool ← perform (.startSending scope messageId now)
  if started then
    return .started
  else
    match ← ask (.targetStatus messageId) with
    | none => return .noopTargetMissing
    | some current => return .noopNotPending current

inductive MarkSentResult where
  | sent
  | noopAlreadyTerminal (currentStatus : CampaignTargetStatus)
  deriving DecidableEq, Repr

/-- The completion transaction; a rolled-back compare-and-set re-reads the status. -/
def markSentWithQuota (scope : MerchantId) (args : MarkSentArgs) : Program MarkSentResult := do
  let committed : Bool ← perform (.markSentWithQuota scope args)
  if committed then
    return .sent
  else
    let current ← ask (.targetStatus args.messageId)
    return .noopAlreadyTerminal (current.getD .sent)

inductive TerminalGate where
  | suppression | consent | freshness | frequency
  deriving DecidableEq, Repr

def TerminalGate.text : TerminalGate → String
  | .suppression => "suppression"
  | .consent => "consent"
  | .freshness => "freshness"
  | .frequency => "frequency"

inductive TransientGate where
  | quietHours | quota
  deriving DecidableEq, Repr

inductive GateOutcome where
  | suppressed (gate : TerminalGate)
  | deferred (gate : TransientGate)
  | passed
  deriving DecidableEq, Repr

/-- Some ICU builds print 24 for midnight. -/
def hourInTimezone (context : DrainerContext) (timezone : String) (now : Date) : Option Int :=
  (context.formatHour timezone now).map fun hour => if hour = 24 then 0 else hour

def utcHour (now : Date) : Int := now / msPerHour % 24

/-- `[startHour, endHour)` on the merchant's clock, with the UTC fallback. -/
def isWithinSendWindow (context : DrainerContext) (timezone : Option String)
    (startHour endHour : Int) (now : Date) : Bool :=
  let localHour := (timezone.bind fun zone => hourInTimezone context zone now).getD (utcHour now)
  decide (startHour ≤ localHour ∧ localHour < endHour)

/-- The six gates, terminal before transient; the first hit decides. -/
def runGateChain (context : DrainerContext) (merchantId : MerchantId) (target : DispatchContext)
    (now : Date) : Program GateOutcome := do
  let customerId := target.customerId
  if ← ask (.isSuppressed merchantId customerId) then
    return .suppressed .suppression
  if target.consentState ≠ .subscribed then
    return .suppressed .consent
  if ← ask (.hasQualifyingOrderSince merchantId customerId target.generationCreatedAt) then
    return .suppressed .freshness
  let cooldownSince := now - target.defaultCooldownHours * msPerHour
  if 0 < (← ask (.countSentSince merchantId customerId cooldownSince)) then
    return .suppressed .frequency
  let today ← ask (.countSentSince merchantId customerId (utcMidnight now))
  if target.maxDailySendsPerCustomer ≤ today then
    return .suppressed .frequency
  if !isWithinSendWindow context target.timezone target.sendTimeStartHour target.sendTimeEndHour now then
    return .deferred .quietHours
  let daySentCount ← ask (.daySentCount merchantId now)
  let monthSentCount ← ask (.monthSentCount merchantId now)
  if target.dailySendCap ≤ daySentCount ∨ target.monthlySendsCap ≤ monthSentCount then
    return .deferred .quota
  return .passed

/-- The `dispatch.suppressed_by_ses` audit row. -/
def suppressedBySesAudit (payload : CampaignDispatchJobPayload) (shop : String)
    (error : EmailProviderError) : AuditLog where
  merchantId := some payload.merchantId
  shop := some shop
  actorType := .system
  actorId := some "drainer"
  action := "dispatch.suppressed_by_ses"
  targetType := some "campaign_target"
  targetId := some payload.messageId
  context := .obj [("campaignId", .str payload.campaignId), ("customerId", .str payload.customerId),
    ("errorCode", .str error.code.text)]

/-- A retryable or unknown error reverts and rethrows; every other one is terminal. -/
def handleSesError (payload : CampaignDispatchJobPayload) (shop : String) (thrown : Thrown) :
    Program Unit :=
  match thrown with
  | .provider error =>
    if error.retryable then do
      let _ ← revertToPending payload.merchantId payload.messageId
      throw thrown
    else if error.code = .recipientSuppressed then do
      let _ ← resolveTerminal payload.merchantId payload.messageId "ses_suppressed" .suppressed
      appendAudit (suppressedBySesAudit payload shop error)
    else do
      let _ ← resolveTerminal payload.merchantId payload.messageId error.code.text .failed
  | _ => do
    let _ ← revertToPending payload.merchantId payload.messageId
    throw thrown

def completionTxRetries : Nat := 3

/-- The in-pass retry budget of the completion; exhausting it is not an error. -/
def completeWithRetries (scope : MerchantId) (args : MarkSentArgs) : Nat → Program (Option MarkSentResult)
  | 0 => return none
  | attempts + 1 => tryCatch
    (do
      let result ← markSentWithQuota scope args
      return some result)
    fun _ => completeWithRetries scope args attempts

def deriveSubject : String := "We miss you"

/-- The send after a won compare-and-set, and its completion. -/
def sendAndComplete (context : DrainerContext) (payload : CampaignDispatchJobPayload)
    (target : DispatchContext) (recipient : String) (now : Date) : Program Unit := do
  let accepted ← tryCatch
    (do
      let accepted ← send {
        sender := context.emailFromAddress
        recipient
        subject := deriveSubject
        html := target.generatedText
        correlationId := payload.messageId
        configurationSetName := context.emailConfigurationSetName }
      return some accepted)
    fun thrown => do
      handleSesError payload target.shop thrown
      return none
  match accepted with
  | none => return
  | some accepted =>
    let _ ← completeWithRetries payload.merchantId {
      messageId := payload.messageId
      merchantId := payload.merchantId
      shop := target.shop
      campaignId := payload.campaignId
      customerId := payload.customerId
      providerMessageId := accepted.providerMessageId
      now } completionTxRetries

/-- The statuses that the replay guard stops at. -/
def replayGuard (status : CampaignTargetStatus) : Bool :=
  status == .suppressed || status == .sent || status == .failed || status == .sending

def claimArgs (payload : CampaignDispatchJobPayload) : ClaimTargetArgs where
  merchantId := payload.merchantId
  campaignId := payload.campaignId
  messageId := payload.messageId
  customerId := payload.customerId

/-- One pass over one job. -/
def processCampaignDispatchJob (context : DrainerContext) (payload : CampaignDispatchJobPayload) :
    Program Unit := do
  let _ ← claimTarget payload.merchantId (claimArgs payload)
  match ← ask (.loadDispatchContext payload.messageId) with
  | none => return
  | some target =>
    if replayGuard target.targetStatus then
      return
    let gateNow ← clock
    match ← runGateChain context payload.merchantId target gateNow with
    | .suppressed gate =>
      let _ ← resolveTerminal payload.merchantId payload.messageId gate.text .suppressed
    | .deferred _ =>
      let _ ← deferTarget payload.merchantId payload.messageId
    | .passed =>
      let recipient := target.customerEmail.getD ""
      if recipient = "" then
        let _ ← deferTarget payload.merchantId payload.messageId
      else
        let now ← clock
        match ← startSending payload.merchantId payload.messageId now with
        | .started => sendAndComplete context payload target recipient now
        | .noopTargetMissing | .noopNotPending _ => return

end WinBack.Dispatch
