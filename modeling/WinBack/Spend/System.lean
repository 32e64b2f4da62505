import WinBack.Generation.Passes
import WinBack.Outbox.Phases

/-! The two processes behind the spend cap: handlers of transitions, which check what is recorded
against the cap and create generations, and passes of the worker, which record what they cost. -/

namespace WinBack.Spend

open Library Script
open Generation (AiConfig AiGenerateJobPayload AiProviderName ModelCostRate estimateCostMicrocents providerCostRates)
open Outbox (CustomerStateChangedPayload DrainerContext microcentsPerCent)

/-- What a call of the configured model costs; a model without rates has no price. -/
def price (config : AiConfig) (inputTokens outputTokens : Int) : Int :=
  ((estimateCostMicrocents config.provider config.model inputTokens outputTokens).toOption).getD 0

/-- What a generation is taken to cost before it is made. -/
def estimate (context : DrainerContext) : Int :=
  price context.aiConfig Outbox.estimatedInputTokensForCeilingCheck context.aiConfig.maxTokens

theorem rates_nonneg {provider : AiProviderName} {model : String} {rates : ModelCostRate}
    (found : (providerCostRates provider).lookup model = some rates) : 0 ≤ rates.inputPer1M ∧ 0 ≤ rates.outputPer1M := by
  obtain ⟨_, _, listed, _⟩ := List.lookup_eq_some_iff.mp found
  have all : ∀ rated ∈ providerCostRates provider, 0 ≤ rated.2.inputPer1M ∧ 0 ≤ rated.2.outputPer1M := by
    cases provider <;> decide
  exact all (model, rates) (by simp [listed])

theorem price_nonneg {config : AiConfig} {inputTokens outputTokens : Int} (input : 0 ≤ inputTokens)
    (output : 0 ≤ outputTokens) : 0 ≤ price config inputTokens outputTokens := by
  unfold price estimateCostMicrocents
  split
  · exact le_refl _
  · rename_i rates found
    have known := rates_nonneg found
    exact Int.add_nonneg (Int.tdiv_nonneg (Int.mul_nonneg input known.1) (by decide))
      (Int.tdiv_nonneg (Int.mul_nonneg output known.2) (by decide))

/-- How far a handler is. It is granted a generation by the check at `asOf`. -/
inductive Gate where
  | asking (settings : Option (MerchantId × Int)) (asOf : Option Date)
  | granted (merchantId : MerchantId) (asOf : Date)
  | closed
  deriving DecidableEq, Repr

namespace Gate

def next (estimate : Int) : Gate → (request : Outbox.Call) → Except Outbox.Thrown request.Value → Gate
  | .asking _ asOf, .query (.settings merchantId), .ok (some settings) =>
    .asking (some (merchantId, settings.monthlyAiSpendCapCents)) asOf
  | .asking settings _, .clock, .ok now => .asking settings (some now)
  | .asking (some (_, capCents)) _, .query (.monthSpend merchantId asOf), .ok spent =>
    if spent + estimate ≤ capCents * microcentsPerCent then .granted merchantId asOf else .closed
  | .granted _ _, .createGeneration _ _ _ _, _ => .closed
  | gate, _, _ => gate

def allowed : Gate → Outbox.Call → Prop
  | .asking settings asOf, .query (.monthSpend merchantId since) =>
    (∃ capCents, settings = some (merchantId, capCents)) ∧ asOf = some since
  | .asking _ _, .query _ | .asking _ _, .clock | .asking _ _, .incrementAndCheck _ _ | .asking _ _, .appendAudit _ => True
  | .granted _ _, .query (.customer _) | .granted _ _, .findRecentPurchasedTitles _ _ => True
  | .granted merchantId _, .createGeneration _ owner _ _ => owner = merchantId
  | .closed, .appendAudit _ | .closed, .enqueue _ => True
  | _, _ => False

end Gate

def gates (estimate : Int) : Discipline Outbox.Call Outbox.Call.Value Outbox.Thrown Gate where
  allowed := Gate.allowed
  next := Gate.next estimate

section Handlers

variable {context : DrainerContext} {row : OutboxEvent} {payload : CustomerStateChangedPayload} {shop : String}
  {settings : MerchantSettings} {merchant : Merchant} {owner : MerchantId} {capCents : Int} {asOf : Option Date}

theorem withinHourlyCap_gates :
    (Outbox.withinHourlyCap row payload shop settings).Obeys (gates (estimate context)) (.asking (some (owner, capCents)) asOf)
      fun reached outcome => outcome = .ok true → reached = .asking (some (owner, capCents)) asOf := by
  unfold Outbox.withinHourlyCap
  refine obeys_perform_bind.mpr ⟨trivial, fun _ => nofun, fun rateLimit => ?_⟩
  refine obeys_ite.mpr ⟨fun _ _ => rfl, fun _ => ?_⟩
  refine obeys_perform_bind.mpr ⟨trivial, fun _ => nofun, fun now => ?_⟩
  refine obeys_perform_bind.mpr ⟨trivial, fun _ => nofun, fun _ => nofun⟩

/-- The check decides as the answer about the month's spend does. -/
theorem withinSpendCap_gates :
    (Outbox.withinSpendCap context row payload shop settings).Obeys (gates (estimate context))
      (.asking (some (payload.merchantId, settings.monthlyAiSpendCapCents)) asOf)
      fun reached outcome => outcome = .ok true → ∃ now, reached = .granted payload.merchantId now := by
  unfold Outbox.withinSpendCap
  refine obeys_perform_bind.mpr ⟨trivial, fun _ => nofun, fun now => ?_⟩
  refine obeys_perform_bind.mpr ⟨⟨⟨_, rfl⟩, rfl⟩, fun _ => nofun, fun spent => ?_⟩
  have estimated : estimate context = ((estimateCostMicrocents context.aiConfig.provider context.aiConfig.model
      Outbox.estimatedInputTokensForCeilingCheck context.aiConfig.maxTokens).toOption).getD 0 := rfl
  cases costs : estimateCostMicrocents context.aiConfig.provider context.aiConfig.model
      Outbox.estimatedInputTokensForCeilingCheck context.aiConfig.maxTokens with
  | error message => exact nofun
  | ok cost =>
    rw [costs] at estimated
    have learns : (gates (estimate context)).next (.asking (some (payload.merchantId, settings.monthlyAiSpendCapCents)) (some now))
        (.query (.monthSpend payload.merchantId now)) (.ok spent) =
        if spent + cost ≤ settings.monthlyAiSpendCapCents * microcentsPerCent then .granted payload.merchantId now
        else .closed := by
      rw [estimated]
      rfl
    refine obeys_ite.mpr ⟨fun within _ => ⟨now, learns.trans (if_pos within)⟩, fun beyond => ?_⟩
    refine obeys_perform_bind.mpr ⟨?_, fun _ => nofun, fun _ => nofun⟩
    exact (congrArg (fun gate => (gates (estimate context)).allowed gate _) (learns.trans (if_neg beyond))).mpr trivial

theorem createAndEnqueue_gates {now : Date} :
    (Outbox.createAndEnqueue context row payload merchant settings).Obeys (gates (estimate context))
      (.granted payload.merchantId now) fun _ _ => True := by
  unfold Outbox.createAndEnqueue
  refine obeys_perform_bind.mpr ⟨trivial, fun _ => trivial, fun customer => ?_⟩
  cases customer with
  | none => trivial
  | some customer =>
    refine obeys_perform_bind.mpr ⟨trivial, fun _ => trivial, fun recentProducts => ?_⟩
    refine Outbox.obeys_orThrow (fun _ => trivial) fun aiTone => ?_
    refine obeys_perform_bind.mpr ⟨rfl, fun _ => trivial, fun aiGenerationId => ?_⟩
    exact ⟨trivial, fun _ => trivial⟩

theorem generateForTransition_gates :
    (Outbox.generateForTransition context row payload).Obeys (gates (estimate context)) (.asking none none)
      fun _ _ => True := by
  unfold Outbox.generateForTransition
  refine obeys_perform_bind.mpr ⟨trivial, fun _ => trivial, fun billing => ?_⟩
  refine obeys_ite.mpr ⟨fun _ => trivial, fun _ => ?_⟩
  refine obeys_perform_bind.mpr ⟨trivial, fun _ => trivial, fun merchant => ?_⟩
  cases merchant with
  | none => trivial
  | some merchant =>
    refine obeys_perform_bind.mpr ⟨trivial, fun _ => trivial, fun settings => ?_⟩
    cases settings with
    | none => trivial
    | some settings =>
      apply (obeys_bind ..).mpr
      refine withinHourlyCap_gates.mono fun reached outcome open' => ?_
      cases outcome with
      | error error => trivial
      | ok within =>
        refine obeys_ite.mpr ⟨fun passes => ?_, fun _ => trivial⟩
        subst passes
        rw [open' rfl]
        apply (obeys_bind ..).mpr
        refine withinSpendCap_gates.mono fun reached outcome grants => ?_
        cases outcome with
        | error error => trivial
        | ok within =>
          refine obeys_ite.mpr ⟨fun passes => ?_, fun _ => trivial⟩
          subst passes
          obtain ⟨now, rfl⟩ := grants rfl
          exact createAndEnqueue_gates

theorem handleCustomerStateChanged_gates :
    (Outbox.handleCustomerStateChanged context row).Obeys (gates (estimate context)) (.asking none none)
      fun _ _ => True := by
  unfold Outbox.handleCustomerStateChanged
  refine Outbox.obeys_orThrow (fun _ => trivial) fun payload => ?_
  exact obeys_ite.mpr ⟨fun _ => generateForTransition_gates, fun _ => trivial⟩

end Handlers

abbrev Handling := Task OutboxEvent Outbox.Call Outbox.Call.Value Outbox.Thrown Gate

structure World where
  db : Db
  jobs : List AiGenerateJobPayload := []
  created : List Outbox.Creation := []
  handlers : Pool Handling := []
  passes : Pool Generation.WorkerTask := []

/-- One step of a handler or of the worker, or of what happens around them. -/
inductive Label where
  | transition (row : OutboxEvent)                   -- a handler starts: first delivery or again
  | handle (slot : Nat) (choice : Outbox.Choice)
  | drop (slot : Nat)                                -- the process of a handler dies
  | deliver (job : Generation.Job)
  | act (slot : Nat) (choice : Generation.Choice)
  | crash (slot : Nat)
  | outside (after : Db)

namespace World

/-- A handler holds no transaction between its calls. -/
def view (world : World) : Outbox.View where
  db := world.db
  jobs := world.jobs
  transaction := none
  locked := []
  created := world.created

/-- Other components write neither generations nor spend buckets. -/
def outside (world : World) (after : Db) : World :=
  { world with db := { after with
      aiGenerations := world.db.aiGenerations
      aiSpendBuckets := world.db.aiSpendBuckets } }

end World

def machine (drainer : DrainerContext) (worker : Generation.WorkerContext) : Machine World Label where
  step world
    | .transition row => some { world with
        handlers := world.handlers.spawn ⟨row, .asking none none, Outbox.handleCustomerStateChanged drainer row⟩ }
    | .handle slot choice => (world.handlers.task? slot).bind fun handling =>
      (handling.advance (gates (estimate drainer)) Outbox.exec world.view choice).map fun (view, next) => { world with
        db := view.db
        jobs := view.jobs
        created := view.created
        handlers := world.handlers.put slot next }
    | .drop slot => (world.handlers.task? slot).map fun _ => { world with handlers := world.handlers.clear slot }
    | .deliver job => some { world with
        passes := world.passes.spawn ⟨job, (), Generation.processAiGenerateJob worker job⟩ }
    | .act slot choice => (world.passes.task? slot).bind fun task =>
      (task.advance Generation.discipline Generation.exec world.db choice).map fun (db, next) =>
        { world with db, passes := world.passes.put slot next }
    | .crash slot => (world.passes.task? slot).map fun _ => { world with passes := world.passes.clear slot }
    | .outside after => some (world.outside after)

end WinBack.Spend
