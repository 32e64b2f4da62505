import WinBack.Dispatch.Worker

/-! The dispatch sweep: for every live merchant, fresh drafts (arm 1) and deferred
targets (arm 2) become jobs, and stale or paused deferred targets are resolved. -/

namespace WinBack.Dispatch

open Library

def maxDispatchAgeMs : Int := 3 * msPerDay

inductive DeferredFate where
  | stale | paused | reenter
  deriving DecidableEq, Repr

/-- What arm 2 does with a deferred target. -/
def deferredFate (startedAt : Date) (target : DeferredTarget) : DeferredFate :=
  if startedAt - target.createdAt > maxDispatchAgeMs then .stale
  else if target.campaignActive then .reenter
  else .paused

def draftJob (merchantId : MerchantId) (draft : DispatchableDraft) : CampaignDispatchJobPayload :=
  ⟨merchantId, draft.messageId, draft.campaignId, draft.customerId⟩

def deferredJob (merchantId : MerchantId) (target : DeferredTarget) : CampaignDispatchJobPayload :=
  ⟨merchantId, target.messageId, target.campaignId, target.customerId⟩

/-- Arm 2: resolve the stale and the paused, return the jobs of the rest. -/
def resolveDeferred (startedAt : Date) (merchantId : MerchantId) :
    List DeferredTarget → Program (List CampaignDispatchJobPayload)
  | [] => return []
  | target :: rest => do
    match deferredFate startedAt target with
    | .stale =>
      let _ ← resolveTerminal merchantId target.messageId "deferred_stale" .suppressed
      resolveDeferred startedAt merchantId rest
    | .paused =>
      let _ ← resolveTerminal merchantId target.messageId "campaign_paused" .suppressed
      resolveDeferred startedAt merchantId rest
    | .reenter =>
      let jobs ← resolveDeferred startedAt merchantId rest
      return deferredJob merchantId target :: jobs

/-- Both arms of one merchant. -/
def sweepMerchant (startedAt : Date) (merchantId : MerchantId) : Program Unit := do
  let drafts ← ask (.findDispatchableDrafts merchantId)
  let deferred ← ask (.findDeferredTargets merchantId)
  let reentered ← resolveDeferred startedAt merchantId deferred
  let toEnqueue := drafts.map (draftJob merchantId) ++ reentered
  if toEnqueue = [] then
    return
  else
    addBulk toEnqueue

/-- One failing merchant does not stop the others. -/
def sweepMerchants (startedAt : Date) : List MerchantId → Program Unit
  | [] => return
  | merchantId :: rest => do
    tryCatch (sweepMerchant startedAt merchantId) fun _ => pure ()
    sweepMerchants startedAt rest

def runDispatchSweep : Program Unit := do
  let startedAt ← clock
  let merchants ← ask .liveMerchants
  sweepMerchants startedAt merchants

end WinBack.Dispatch
