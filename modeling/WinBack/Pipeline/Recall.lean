import WinBack.Pipeline.System

/-! What a pass remembers: the row that a dispatch pass has loaded when it sends, and the code that a
generation pass has minted when it completes. -/

namespace WinBack

open Library Script

namespace Dispatch

/-- The message of a pass, and what it has loaded. -/
structure Recall where
  messageId : MessageId
  target : Option DispatchContext := none

/-- Any call but the load and the send. -/
def Call.Plain : Call → Prop
  | .query (.loadDispatchContext _) | .send _ => False
  | _ => True

/-- What is sent is what was loaded. -/
def recalling : Discipline Call Call.Value Thrown Recall where
  allowed phase
    | .query (.loadDispatchContext messageId) => messageId = phase.messageId
    | .send args => args.correlationId = phase.messageId ∧
      ∃ target, phase.target = some target ∧ args.html = target.generatedText ∧ target.customerEmail = some args.recipient
    | _ => True
  next
    | phase, .query (.loadDispatchContext _), .ok (some target) => { phase with target := some target }
    | phase, _, _ => phase

section Recall

variable {context : DrainerContext} {payload : CampaignDispatchJobPayload} {phase : Recall} {Result : Type}

/-- Plain calls change nothing. -/
theorem recall_only {script : Program Result} (only : script.Only Call.Plain) :
    script.Obeys recalling phase fun reached _ => reached = phase := by
  refine only.obeys (fun request plain => ?_) fun request answer plain => ?_
  · cases request with
    | query read => cases read <;> trivial
    | send args => exact plain.elim
    | _ => trivial
  · cases request with
    | query read => cases read <;> first | rfl | exact plain.elim
    | send args => exact plain.elim
    | _ => rfl

theorem recall_loaded (messageId : MessageId) (target : DispatchContext) :
    recalling.next phase (.query (.loadDispatchContext messageId)) (.ok (some target)) = { phase with target := some target } := rfl

theorem runGateChain_plain (merchantId : MerchantId) (target : DispatchContext) (now : Date) :
    (runGateChain context merchantId target now).Only Call.Plain := by
  unfold runGateChain
  refine .bind (only_perform.mpr trivial) fun suppressed => ?_
  split
  · trivial
  split
  · trivial
  refine .bind (only_perform.mpr trivial) fun ordered => ?_
  split
  · trivial
  refine .bind (only_perform.mpr trivial) fun cooling => ?_
  split
  · trivial
  refine .bind (only_perform.mpr trivial) fun today => ?_
  split
  · trivial
  split
  · trivial
  refine .bind (only_perform.mpr trivial) fun daySentCount => .bind (only_perform.mpr trivial) fun monthSentCount => ?_
  split <;> trivial

theorem handleSesError_plain (shop : String) (thrown : Thrown) : (handleSesError payload shop thrown).Only Call.Plain := by
  unfold handleSesError
  split
  · split
    · exact .bind (only_perform.mpr trivial) fun _ => trivial
    split
    · exact .bind (only_perform.mpr trivial) fun _ => only_perform.mpr trivial
    · exact .bind (only_perform.mpr trivial) fun _ => trivial
  · exact .bind (only_perform.mpr trivial) fun _ => trivial

theorem completeWithRetries_plain (scope : MerchantId) (args : MarkSentArgs) (attempts : Nat) :
    (completeWithRetries scope args attempts).Only Call.Plain := by
  induction attempts with
  | zero => trivial
  | succ attempts ih =>
    refine .tryCatch (.bind (.bind (only_perform.mpr trivial) fun committed => ?_) fun _ => trivial) fun _ => ih
    split
    · trivial
    · exact .bind (only_perform.mpr trivial) fun _ => trivial

theorem startSending_plain (scope : MerchantId) (messageId : MessageId) (now : Date) :
    (startSending scope messageId now).Only Call.Plain := by
  refine .bind (only_perform.mpr trivial) fun started => ?_
  split
  · trivial
  · refine .bind (only_perform.mpr trivial) fun current => ?_
    split <;> trivial

/-- The one send of a pass is of what it has loaded. -/
theorem sendAndComplete_recalls {target : DispatchContext} {recipient : String} (now : Date)
    (named : phase.messageId = payload.messageId) (loaded : phase.target = some target)
    (addressed : target.customerEmail = some recipient) :
    (sendAndComplete context payload target recipient now).Obeys recalling phase fun _ _ => True := by
  unfold sendAndComplete
  rw [obeys_bind, obeys_tryCatch]
  refine obeys_perform_bind.mpr ⟨⟨named.symm, target, loaded, rfl, addressed⟩, fun thrown => ?_, fun accepted => ?_⟩
  · refine (obeys_bind ..).mpr ((recall_only (handleSesError_plain target.shop thrown)).mono fun reached outcome _ => ?_)
    cases outcome <;> trivial
  · refine (obeys_bind ..).mpr ((recall_only (completeWithRetries_plain _ _ _)).mono fun reached outcome _ => ?_)
    cases outcome <;> trivial

/-- A pass sends what it has loaded for its own message. -/
theorem processCampaignDispatchJob_recalls :
    (processCampaignDispatchJob context payload).Obeys recalling ⟨payload.messageId, none⟩ fun _ _ => True := by
  unfold processCampaignDispatchJob
  refine obeys_perform_bind.mpr ⟨trivial, fun _ => trivial, fun _ => ?_⟩
  refine obeys_perform_bind.mpr ⟨rfl, fun _ => trivial, fun loaded => ?_⟩
  cases loaded with
  | none => trivial
  | some target =>
    rw [recall_loaded]
    refine obeys_ite.mpr ⟨fun _ => trivial, fun _ => ?_⟩
    refine obeys_perform_bind.mpr ⟨trivial, fun _ => trivial, fun gateNow => ?_⟩
    refine (obeys_bind ..).mpr ((recall_only (runGateChain_plain _ target gateNow)).mono ?_)
    rintro reached (error | outcome) rfl
    · trivial
    cases outcome with
    | suppressed gate => exact obeys_perform_bind.mpr ⟨trivial, fun _ => trivial, fun _ => trivial⟩
    | deferred gate => exact obeys_perform_bind.mpr ⟨trivial, fun _ => trivial, fun _ => trivial⟩
    | passed =>
      refine obeys_ite.mpr ⟨fun _ => ?_, fun addressed => ?_⟩
      · exact obeys_perform_bind.mpr ⟨trivial, fun _ => trivial, fun _ => trivial⟩
      refine obeys_perform_bind.mpr ⟨trivial, fun _ => trivial, fun now => ?_⟩
      refine (obeys_bind ..).mpr ((recall_only (startSending_plain _ _ now)).mono ?_)
      rintro reached (error | result) rfl
      · trivial
      cases result with
      | started =>
        refine sendAndComplete_recalls now rfl rfl ?_
        cases email : target.customerEmail with
        | none => simp [email] at addressed
        | some address => rfl
      | noopNotPending current => trivial
      | noopTargetMissing => trivial

theorem resolveDeferred_plain (startedAt : Date) (merchantId : MerchantId) (rest : List DeferredTarget) :
    (resolveDeferred startedAt merchantId rest).Only Call.Plain := by
  induction rest with
  | nil => trivial
  | cons target rest ih =>
    unfold resolveDeferred
    split
    · exact .bind (only_perform.mpr trivial) fun _ => ih
    · exact .bind (only_perform.mpr trivial) fun _ => ih
    · exact .bind ih fun _ => trivial

/-- A sweep neither loads nor sends. -/
theorem runDispatchSweep_plain : runDispatchSweep.Only Call.Plain := by
  refine .bind (only_perform.mpr trivial) fun startedAt => .bind (only_perform.mpr trivial) fun merchants => ?_
  induction merchants with
  | nil => trivial
  | cons merchantId rest ih =>
    refine .bind (.tryCatch ?_ fun _ => trivial) fun _ => ih
    refine .bind (only_perform.mpr trivial) fun drafts => .bind (only_perform.mpr trivial) fun targets => ?_
    refine .bind (resolveDeferred_plain startedAt merchantId targets) fun reentered => ?_
    dsimp only
    split
    · trivial
    · exact only_perform.mpr trivial

end Recall

end Dispatch

namespace Generation

/-- The job of a pass, and the code it has minted. -/
structure Recall where
  payload : AiGenerateJobPayload
  minted : Option String := none

/-- The text of a completion with a discount has the minted code in the place of the placeholder. -/
def Completion.Carries (completion : Completion) (minted : Option String) : Prop :=
  ∀ code, completion.args.discountCode = some code → minted = some code ∧
    ∃ content valuePercent, completion.args.generatedText = (substituteDiscountTokens content (some ⟨code, valuePercent⟩)).text

/-- Any call but the mint and the completion. -/
def Call.Plain : Call → Prop
  | .mint _ | .complete _ _ => False
  | _ => True

def recalling (context : WorkerContext) : Discipline Call Call.Value Thrown Recall where
  allowed phase
    | .mint args => args.code = deriveWinbackDiscountCode context phase.payload.merchantId phase.payload.aiGenerationId
    | .complete scope completion => scope = phase.payload.merchantId ∧
      completion.args.aiGenerationId = phase.payload.aiGenerationId ∧ Completion.Carries completion phase.minted
    | _ => True
  next
    | phase, .mint _, .ok created => { phase with minted := some created.code }
    | phase, _, _ => phase

section Recall

variable {context : WorkerContext} {job : Job} {phase : Recall} {Result : Type}

theorem recall_only {script : Program Result} (only : script.Only Call.Plain) :
    script.Obeys (recalling context) phase fun reached _ => reached = phase := by
  refine only.obeys (fun request plain => ?_) fun request answer plain => ?_
  · cases request <;> trivial
  · cases request <;> first | rfl | exact plain.elim

theorem recall_minted (args : CreateWinbackDiscountArgs) (created : CreateWinbackDiscountResult) :
    (recalling context).next phase (.mint args) (.ok created) = { phase with minted := some created.code } := rfl

theorem handleProviderError_plain (shop : String) (thrown : Thrown) : (handleProviderError job shop thrown).Only Call.Plain := by
  unfold handleProviderError
  split
  · split
    · trivial
    · exact only_perform.mpr trivial
  · trivial

/-- A completion carries the code that was minted for it. -/
theorem mintAndComplete_recalls (row : Pickup) (result : AiGenerateResult) :
    (mintAndComplete context job.data row result).Obeys (recalling context) ⟨job.data, none⟩ fun _ _ => True := by
  unfold mintAndComplete
  split
  · trivial
  · split
    · exact ⟨⟨rfl, rfl, fun code minted => by simp [completion] at minted⟩, fun _ => trivial⟩
    · split
      · exact ⟨trivial, fun _ => trivial⟩
      · refine (obeys_bind ..).mpr ?_
        refine obeys_perform_bind.mpr ⟨trivial, fun _ => trivial, fun windowDays => ?_⟩
        refine obeys_perform_bind.mpr ⟨trivial, fun _ => trivial, fun now => ?_⟩
        refine obeys_perform_bind.mpr ⟨rfl, fun _ => trivial, fun created => ?_⟩
        rw [recall_minted]
        refine ⟨⟨rfl, rfl, fun code minted => ?_⟩, fun _ => trivial⟩
        obtain rfl : created.code = code := Option.some.inj minted
        exact ⟨rfl, result.content, _, rfl⟩

theorem processAiGenerateJob_recalls :
    (processAiGenerateJob context job).Obeys (recalling context) ⟨job.data, none⟩ fun _ _ => True := by
  unfold processAiGenerateJob
  refine obeys_perform_bind.mpr ⟨trivial, fun _ => trivial, fun found => ?_⟩
  cases found with
  | none => trivial
  | some row =>
    refine obeys_ite.mpr ⟨fun _ => trivial, fun _ => ?_⟩
    refine obeys_perform_bind.mpr ⟨trivial, fun _ => trivial, fun now => ?_⟩
    refine obeys_ite.mpr ⟨fun _ => ⟨trivial, fun _ => trivial⟩, fun _ => ?_⟩
    rw [obeys_bind, obeys_tryCatch]
    refine obeys_perform_bind.mpr ⟨trivial, fun thrown => ?_, fun result => mintAndComplete_recalls row result⟩
    refine (obeys_bind ..).mpr ((recall_only (handleProviderError_plain row.shop thrown)).mono fun reached outcome _ => ?_)
    cases outcome <;> trivial

end Recall

end Generation

end WinBack
