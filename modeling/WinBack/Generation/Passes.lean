import WinBack.Generation.System

/-! What a pass over a job may ask for: every write is under the merchant of its job and names
the generation of its job, and a completion carries what the provider's answer costs. -/

namespace WinBack.Generation

open Library Script

/-- The writes of a pass over a job. -/
def Call.Of (context : WorkerContext) (job : Job) : Call → Prop
  | .query _ | .clock | .generate _ | .mint _ => True
  | .markFailed scope aiGenerationId _ => scope = job.data.merchantId ∧ aiGenerationId = job.data.aiGenerationId
  | .refuse scope aiGenerationId _ audit => scope = job.data.merchantId ∧ aiGenerationId = job.data.aiGenerationId ∧
      ∃ shop error, audit = refusedAudit job shop error
  | .complete scope completed => scope = job.data.merchantId ∧ ∃ shop result costMicrocents minted,
      estimateCostMicrocents context.aiConfig.provider context.aiConfig.model result.inputTokens result.outputTokens =
        .ok costMicrocents ∧
      completed = completion job.data shop result costMicrocents minted

def passes (context : WorkerContext) (job : Job) : Discipline Call Call.Value Thrown Unit where
  allowed _ request := request.Of context job
  next _ _ _ := ()

variable {context : WorkerContext} {job : Job}

theorem handleProviderError_makes (shop : String) (thrown : Thrown) :
    (handleProviderError job shop thrown).Obeys (passes context job) () fun _ _ => True := by
  unfold handleProviderError
  split
  · split
    · trivial
    · exact ⟨⟨rfl, rfl, shop, _, rfl⟩, fun _ => trivial⟩
  · trivial

theorem mintAndComplete_makes (row : Pickup) (result : AiGenerateResult) :
    (mintAndComplete context job.data row result).Obeys (passes context job) () fun _ _ => True := by
  unfold mintAndComplete
  split
  · trivial
  · rename_i costMicrocents costs
    split
    · exact ⟨⟨rfl, row.shop, result, costMicrocents, none, costs, rfl⟩, fun _ => trivial⟩
    · split
      · exact ⟨⟨rfl, rfl⟩, fun _ => trivial⟩
      · unfold mintDiscount
        apply (obeys_bind ..).mpr
        refine obeys_perform_bind.mpr ⟨trivial, fun _ => trivial, fun windowDays => ?_⟩
        refine obeys_perform_bind.mpr ⟨trivial, fun _ => trivial, fun now => ?_⟩
        refine obeys_perform_bind.mpr ⟨trivial, fun _ => trivial, fun created => ?_⟩
        exact ⟨⟨rfl, row.shop, result, costMicrocents, some _, costs, rfl⟩, fun _ => trivial⟩

/-- Every call of a pass is of its job. -/
theorem processAiGenerateJob_makes :
    (processAiGenerateJob context job).Obeys (passes context job) () fun _ _ => True := by
  unfold processAiGenerateJob
  refine obeys_perform_bind.mpr ⟨trivial, fun _ => trivial, fun picked => ?_⟩
  cases picked with
  | none => trivial
  | some row =>
    dsimp only
    split
    · trivial
    · refine obeys_perform_bind.mpr ⟨trivial, fun _ => trivial, fun now => ?_⟩
      split
      · exact ⟨⟨rfl, rfl⟩, fun _ => trivial⟩
      · simp only [obeys_bind, obeys_tryCatch, generate, perform, obeys_perform, obeys_pure]
        refine ⟨trivial, fun answer => ?_⟩
        cases answer with
        | error thrown =>
          refine (handleProviderError_makes row.shop thrown).mono fun reached outcome _ => ?_
          cases outcome <;> trivial
        | ok result => exact mintAndComplete_makes row result

/-- A pass keeps to its job. -/
def OfJob (context : WorkerContext) (task : WorkerTask) : Prop := task.Follows (passes context task.tag) fun _ _ => True

end WinBack.Generation
