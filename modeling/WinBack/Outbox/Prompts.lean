import WinBack.Outbox.Prompt
import WinBack.Outbox.Redelivery
import WinBack.Generation.Ledger

/-! What the model is asked for. Over every run of the drainer the prompts of a generation are built from its own columns,
so that an offer is spoken of exactly where the row has one. -/

namespace WinBack.Outbox

open Library Script
open Generation (Placeholder includesToken)

/-- The prompts of a generation are built from what its columns say. -/
structure Prompted (row : AiGeneration) (args : WinbackPromptArgs) : Prop where
  systemPrompt : row.systemPrompt = buildSystemPrompt args
  userPrompt : row.userPrompt = buildUserPrompt args
  discountValuePercent : row.discountValuePercent = args.discount
  triggerState : row.triggerState = args.customer.triggerState.text
  previousState : row.previousState = args.customer.previousState.text
  rDays : row.rDays = args.customer.rDays
  fCount : row.fCount = args.customer.fCount
  mCents : row.mCents = args.customer.mCents
  currency : row.currency = args.customer.currency
  winback : isWinbackTriggerState args.customer.triggerState = true ∧ args.customer.previousState ≠ args.customer.triggerState
  guided : ∀ tone ∈ args.merchant.aiTone, Guided tone

section Script

/-- What the call creates is prompted for what it is. -/
def Call.Prompts : Call → Prop
  | .createGeneration _ merchantId customerId args => ∀ generationId messageId now, ∃ prompt,
    Prompted (AiGenerationRepository.created merchantId customerId (args generationId messageId) now) prompt
  | _ => True

variable {context : DrainerContext} {row : OutboxEvent} {payload : CustomerStateChangedPayload} {merchant : Merchant}
  {settings : MerchantSettings} {Result Next : Type} (built : context.buildWinbackPrompt = buildWinbackPrompt)

theorem only_orThrow {plain : Call → Prop} {result : Except Thrown Next} {rest : Next → Program Result}
    (after : ∀ value, result = .ok value → (rest value).Only plain) : (orThrow result >>= rest).Only plain := by
  cases result with
  | error thrown => trivial
  | ok value => exact after value rfl

theorem only_ask (read : Query) : (ask read).Only Call.Prompts := only_perform.mpr trivial

theorem withinHourlyCap_only (shop : String) : (withinHourlyCap row payload shop settings).Only Call.Prompts := by
  refine .bind (only_perform.mpr trivial) fun rateLimit => ?_
  split
  · trivial
  · exact .bind (only_perform.mpr trivial) fun now => .bind (only_perform.mpr trivial) fun _ => trivial

theorem withinSpendCap_only (shop : String) : (withinSpendCap context row payload shop settings).Only Call.Prompts := by
  refine .bind (only_perform.mpr trivial) fun now => .bind (only_ask _) fun currentSpendMicrocents => ?_
  refine only_orThrow fun estimatedCallMicrocents _ => ?_
  dsimp only
  split
  · trivial
  · exact .bind (only_perform.mpr trivial) fun _ => trivial

include built

theorem createAndEnqueue_only
    (winback : isWinbackTriggerState payload.newState = true ∧ payload.oldState ≠ payload.newState) :
    (createAndEnqueue context row payload merchant settings).Only Call.Prompts := by
  refine .bind (only_ask _) fun customer => ?_
  cases customer with
  | none => trivial
  | some customer =>
    refine .bind (only_perform.mpr trivial) fun recentProducts => ?_
    refine only_orThrow fun aiTone parsed => ?_
    refine .bind (only_perform.mpr fun generationId messageId now => ?_) fun aiGenerationId => only_perform.mpr trivial
    have prompt := congrFun built (winbackPromptArgs payload merchant settings customer recentProducts aiTone)
    exact ⟨winbackPromptArgs payload merchant settings customer recentProducts aiTone, {
      systemPrompt := (congrArg WinbackPromptResult.systemPrompt prompt).trans (systemPrompt_build _)
      userPrompt := (congrArg WinbackPromptResult.userPrompt prompt).trans (userPrompt_build _)
      discountValuePercent := rfl
      triggerState := rfl
      previousState := rfl
      rDays := rfl
      fCount := rfl
      mCents := rfl
      currency := rfl
      winback
      guided := fun tone held => guided_of_parsed (parsed.trans (congrArg _ held)) }⟩

theorem generateForTransition_only
    (winback : isWinbackTriggerState payload.newState = true ∧ payload.oldState ≠ payload.newState) :
    (generateForTransition context row payload).Only Call.Prompts := by
  refine .bind (only_ask _) fun billing => ?_
  split
  · trivial
  refine .bind (only_ask _) fun merchant => ?_
  cases merchant with
  | none => trivial
  | some merchant =>
    refine .bind (only_ask _) fun settings => ?_
    cases settings with
    | none => trivial
    | some settings =>
      refine .bind (withinHourlyCap_only merchant.shop) fun within => ?_
      split
      · refine .bind (withinSpendCap_only merchant.shop) fun within => ?_
        split
        · exact createAndEnqueue_only built winback
        · trivial
      · trivial

theorem handleCustomerStateChanged_only : (handleCustomerStateChanged context row).Only Call.Prompts := by
  refine only_orThrow fun payload _ => ?_
  split
  · rename_i winback
    exact generateForTransition_only built winback
  · trivial

omit built in
theorem handleGdpr_only (topic : GdprTopic) : (handleGdpr topic row).Only Call.Prompts :=
  only_orThrow fun _ _ => only_perform.mpr trivial

theorem dispatchEvent_only : (dispatchEvent context row).Only Call.Prompts := by
  unfold dispatchEvent
  split
  · trivial
  · rename_i type _
    cases type with
    | customerStateChanged => exact handleCustomerStateChanged_only built
    | gdprCustomerDataRequested | gdprCustomerRedacted | gdprShopRedacted => exact handleGdpr_only _
    | merchantInstalled | merchantUninstalled | customerCreated | customerUpdated | customerDeleted | orderPlaced
    | orderUpdated => exact only_perform.mpr trivial
    | _ => trivial

theorem drainRows_only (rows : List OutboxEvent) : (drainRows context rows).Only Call.Prompts := by
  induction rows with
  | nil => trivial
  | cons row rest ih =>
    unfold drainRows
    split
    · exact .bind (only_perform.mpr trivial) fun _ => .bind ih fun deferredRows => trivial
    · refine .bind (.tryCatch ?_ fun thrown => only_perform.mpr trivial) fun _ => ih
      exact .bind (dispatchEvent_only built) fun _ => only_perform.mpr trivial

theorem runDeferred_only (rows : List OutboxEvent) : (runDeferred context rows).Only Call.Prompts := by
  induction rows with
  | nil => trivial
  | cons row rest ih =>
    refine .bind (.tryCatch (dispatchEvent_only built) fun thrown => ?_) fun _ => ih
    exact .tryCatch (only_perform.mpr trivial) fun _ => trivial

/-- Whatever a tick is answered, what it creates is prompted for what it is. -/
theorem runDrainTick_only (batchSize : Nat) : (runDrainTick context batchSize).Only Call.Prompts := by
  refine .bind ?_ fun (claimed, deferredRows) => .bind (runDeferred_only built deferredRows) fun _ => trivial
  refine .bind (.tryCatch ?_ fun thrown => .bind (only_perform.mpr trivial) fun _ => trivial) fun result =>
    .bind (only_perform.mpr trivial) fun _ => trivial
  exact .bind (only_perform.mpr trivial) fun rows => .bind (drainRows_only built rows) fun deferredRows => trivial

end Script

section Rows

/-- The columns that `createPending` writes and nobody rewrites. -/
def promptColumns (row : AiGeneration) : (String × String × Option Int) × (String × String) × (Int × Int × Int × String) :=
  ((row.systemPrompt, row.userPrompt, row.discountValuePercent), (row.triggerState, row.previousState),
    (row.rDays, row.fCount, row.mCents, row.currency))

/-- Each generation of the one is a generation of the other, with its prompts. -/
def keepsPrompts (db after : Db) : Bool :=
  after.aiGenerations.rows.all fun row => db.aiGenerations.rows.any fun old => promptColumns old == promptColumns row

variable {db after : Db} {row old : AiGeneration}

theorem Prompted.of_columns {args : WinbackPromptArgs} (prompted : Prompted old args)
    (same : promptColumns old = promptColumns row) : Prompted row args := by
  simp only [promptColumns, Prod.mk.injEq] at same
  obtain ⟨⟨system, user, discount⟩, ⟨trigger, previous⟩, days, count, cents, currency⟩ := same
  exact {
    systemPrompt := system ▸ prompted.systemPrompt
    userPrompt := user ▸ prompted.userPrompt
    discountValuePercent := discount ▸ prompted.discountValuePercent
    triggerState := trigger ▸ prompted.triggerState
    previousState := previous ▸ prompted.previousState
    rDays := days ▸ prompted.rDays
    fCount := count ▸ prompted.fCount
    mCents := cents ▸ prompted.mCents
    currency := currency ▸ prompted.currency
    winback := prompted.winback
    guided := prompted.guided }

theorem keepsPrompts_iff : keepsPrompts db after = true ↔
    ∀ row ∈ after.aiGenerations.rows, ∃ old ∈ db.aiGenerations.rows, promptColumns old = promptColumns row := by
  simp [keepsPrompts]

theorem keepsPrompts_refl (db : Db) : keepsPrompts db db = true :=
  keepsPrompts_iff.mpr fun row stored => ⟨row, stored, rfl⟩

/-- The generation workers are among the components that keep the prompts. -/
theorem keepsPrompts_worker {request : Generation.Call} {choice : Generation.Choice}
    {answer : Except Generation.Thrown request.Value}
    (executed : Generation.exec db request choice = some (answer, after)) : keepsPrompts db after = true := by
  have updated {matching : AiGeneration → Bool} {change : AiGeneration → AiGeneration}
      (rows : after.aiGenerations.rows = db.aiGenerations.rows.map fun row => if matching row then change row else row)
      (columns : ∀ row, promptColumns (change row) = promptColumns row) : keepsPrompts db after = true := by
    refine keepsPrompts_iff.mpr fun row stored => ?_
    rw [rows] at stored
    obtain ⟨old, present, rfl⟩ := List.mem_map.mp stored
    refine ⟨old, present, ?_⟩
    split
    · exact (columns old).symm
    · rfl
  rcases Generation.exec_cases executed with rfl | ⟨scope, generationId, lastError, audits, _, rfl⟩ |
      ⟨scope, completion, _, completed⟩
  · exact keepsPrompts_refl _
  · exact updated rfl fun row => rfl
  · exact updated (congrArg Table.rows (Generation.completeGeneration_generations completed).1) fun row => rfl

end Rows

section Run

variable {context : DrainerContext} {world next start final : World Phase} {label : Label} {view reached : View}
  {request : Call} {choice : Choice}

/-- What a call does to the generations. -/
theorem exec_generations {answer : Except Thrown request.Value} (ran : exec view request choice = some (answer, reached)) :
    reached.db.aiGenerations = view.db.aiGenerations ∨
      ∃ eventId merchantId customerId args, request = .createGeneration eventId merchantId customerId args ∧
        reached.db.aiGenerations.rows = view.db.aiGenerations.rows ++
          [AiGenerationRepository.created merchantId customerId (args choice.generationId choice.messageId) choice.now] := by
  have kept {Result : Type} {first between : View} {result : Result} {answer : Except Thrown Result}
      (carried : choice.carryOut first between result = (answer, reached))
      (before : first.db.aiGenerations = view.db.aiGenerations) (after : between.db.aiGenerations = view.db.aiGenerations) :
      reached.db.aiGenerations = view.db.aiGenerations := by
    rcases Choice.carryOut_cases carried with ⟨_, _, rfl⟩ | ⟨_, _, _, rfl⟩ | ⟨_, _, _, rfl⟩
    · exact before
    · exact after
    · exact after
  cases request with
  | createGeneration eventId merchantId customerId args =>
    simp only [exec] at ran
    split at ran
    · cases ran
      exact .inl rfl
    · rename_i db created
      obtain ⟨aiGenerations, messages, generated, _, rfl⟩ := createGeneration_ok created
      have rows := (Table.insert?_rows generated).1
      rcases Choice.carryOut_cases (Option.some.inj ran) with ⟨_, _, rfl⟩ | ⟨_, _, _, rfl⟩ | ⟨_, _, _, rfl⟩
      · exact .inl rfl
      · exact .inr ⟨eventId, merchantId, customerId, args, rfl, rows⟩
      · exact .inr ⟨eventId, merchantId, customerId, args, rfl, rows⟩
  | enqueue payload => exact .inl (kept (Option.some.inj ran) rfl rfl)
  | claimBatch limit => exact .inl (kept (Option.some.inj ran) rfl rfl)
  | mark id mark =>
    simp only [exec] at ran
    split at ran
    · cases ran
      exact .inl rfl
    · split at ran
      · refine .inl (kept (Option.some.inj ran) ?_ rfl)
        split <;> rfl
      · cases ran
        exact .inl rfl
  | commit =>
    simp only [exec] at ran
    split at ran
    · cases ran
      exact .inl rfl
    · rename_i transaction _
      exact .inl (kept (Option.some.inj ran) rfl (transaction.settles view.db).aiGenerations)
  | rollback =>
    cases ran
    exact .inl rfl
  | query | clock | incrementAndCheck | findRecentPurchasedTitles | appendAudit | process | handled | markDeferredFailed =>
    exact .inl (exec_quiet rfl ran).1.aiGenerations

/-- Rows and ticks are prompted for what they are. -/
structure Told (world : World Phase) : Prop where
  rows : ∀ row ∈ world.db.aiGenerations.rows, ∃ args, Prompted row args
  ticks : world.ticks.Every fun tick => tick.task.script.Only Call.Prompts

/-- The other components keep the prompts. -/
def promptsKept (world : World Phase) : Label → Bool
  | .elsewhere after => keepsPrompts world.db after
  | _ => true

theorem Told.act {slot : Nat} (told : Told world) (moved : world.act discipline slot choice = some next) : Told next := by
  obtain ⟨tick, live, moved⟩ := Option.bind_eq_some_iff.mp moved
  obtain ⟨⟨after, task⟩, advanced, rfl⟩ := Option.map_eq_some_iff.mp moved
  obtain ⟨request, answer, _, prompts, executed, continues⟩ := Task.advance_only (told.ticks.get live) advanced
  refine ⟨fun row stored => ?_, told.ticks.put continues⟩
  rcases exec_generations executed with same | ⟨eventId, merchantId, customerId, args, rfl, rows⟩
  · exact told.rows row (same ▸ stored)
  · rcases List.mem_append.mp (rows ▸ stored) with old | fresh
    · exact told.rows row old
    · obtain rfl := List.mem_singleton.mp fresh
      exact prompts _ _ _

theorem Told.operate {id : String} {db : Db} (told : Told world) (same : db.aiGenerations = world.db.aiGenerations)
    (moved : world.operate id db = some next) : Told next := by
  unfold World.operate at moved
  split at moved
  · cases moved
  · cases moved
    exact ⟨fun row stored => told.rows row (same ▸ stored), told.ticks⟩

theorem Told.elsewhere {after : Db} (told : Told world) (kept : keepsPrompts world.db after = true)
    (moved : world.elsewhere after = some next) : Told next := by
  unfold World.elsewhere at moved
  split at moved
  · cases moved
    refine ⟨fun row stored => ?_, told.ticks⟩
    obtain ⟨old, present, same⟩ := keepsPrompts_iff.mp kept row stored
    exact (told.rows old present).imp fun args prompted => prompted.of_columns same
  · cases moved

theorem Told.step (built : context.buildWinbackPrompt = buildWinbackPrompt) (told : Told world)
    (kept : promptsKept world label = true) (moved : (drainer context).step world label = some next) : Told next := by
  cases label with
  | start batchSize =>
    cases moved
    exact ⟨told.rows, told.ticks.spawn (.bind (runDrainTick_only built batchSize) fun _ => trivial)⟩
  | act slot choice => exact told.act moved
  | expire slot =>
    obtain ⟨tick, live, rfl⟩ := Option.map_eq_some_iff.mp moved
    have prompts : tick.task.script.Only Call.Prompts := told.ticks.get live
    exact ⟨told.rows, told.ticks.put prompts⟩
  | crash slot =>
    obtain ⟨tick, live, rfl⟩ := Option.map_eq_some_iff.mp moved
    exact ⟨told.rows, told.ticks.clear⟩
  | forceDeadLetter id error now =>
    have same : (OutboxRepository.markDeadLettered id error now world.db).2.aiGenerations = world.db.aiGenerations := rfl
    exact told.operate same moved
  | replay id =>
    have same : (OutboxRepository.requeueDeadLettered id world.db).2.aiGenerations = world.db.aiGenerations := rfl
    exact told.operate same moved
  | elsewhere after => exact told.elsewhere kept moved

/-- The drainer with the prompts of the source. -/
def prompting (context : DrainerContext) : DrainerContext := { context with buildWinbackPrompt }

/-- Over every run, whatever replicas, crashes and operators do: a generation is prompted for what its columns say. With a
percentage in the row both of its prompts name both placeholders; without one they name those alone that somebody has
written into a text. -/
theorem generations_prompted (unprompted : start.db.aiGenerations.rows = []) (idle : start.ticks = [])
    (reach : Machine.Reach (drainer (prompting context)) (fun world label => promptsKept world label = true) start final) :
    ∀ row ∈ final.db.aiGenerations.rows, ∃ args, Prompted row args ∧ ∀ placeholder : Placeholder,
      (row.discountValuePercent.isSome = true → includesToken placeholder.token row.systemPrompt = true ∧
        includesToken placeholder.token row.userPrompt = true) ∧
      (row.discountValuePercent = none → includesToken placeholder.token row.systemPrompt = true ∨
        includesToken placeholder.token row.userPrompt = true → ∃ text ∈ args.texts, brace ∈ text.toList) := by
  have empty : Told start := by
    refine ⟨fun row stored => ?_, fun tick listed => ?_⟩
    · rw [unprompted] at stored
      cases stored
    · rw [idle] at listed
      cases listed
  have told : Told final := reach.invariant empty fun _ _ _ kept moved told => told.step rfl kept moved
  intro row stored
  obtain ⟨args, prompted⟩ := told.rows row stored
  refine ⟨args, prompted, fun placeholder => ?_⟩
  rw [prompted.systemPrompt, prompted.userPrompt, prompted.discountValuePercent]
  refine ⟨fun offers => offered_tokens offers placeholder, fun unoffered includes => ?_⟩
  rcases includes with system | user
  · exact (From.prompts unoffered).1 (brace_of_includes system)
  · exact (From.prompts unoffered).2 (brace_of_includes user)

end Run

section Samples

/-- The lapse of a customer, for a merchant that offers ten percent. -/
def oneOffer : World Phase where
  db := { oneLapse.db with merchantSettings := .single {
    merchantId := "m"
    winbackDiscountEnabled := true
    winbackDiscountPercent := 10 } }

theorem offered_runs :
    ((drainer (prompting winbackContext)).runWhere promptsKept oneOffer (tickOf 0 "g" "s" {})).isSome = true := by
  decide

theorem generations_prompted_offer :
    (((drainer (prompting winbackContext)).runWhere promptsKept oneOffer (tickOf 0 "g" "s" {})).get
        offered_runs).db.aiGenerations.rows.map (·.discountValuePercent) = [some 10] ∧
      ∀ row ∈ (((drainer (prompting winbackContext)).runWhere promptsKept oneOffer (tickOf 0 "g" "s" {})).get
          offered_runs).db.aiGenerations.rows, ∃ args, Prompted row args ∧ ∀ placeholder : Placeholder,
        (row.discountValuePercent.isSome = true → includesToken placeholder.token row.systemPrompt = true ∧
          includesToken placeholder.token row.userPrompt = true) ∧
        (row.discountValuePercent = none → includesToken placeholder.token row.systemPrompt = true ∨
          includesToken placeholder.token row.userPrompt = true → ∃ text ∈ args.texts, brace ∈ text.toList) :=
  ⟨by decide, generations_prompted rfl rfl (Machine.reach_get offered_runs)⟩

end Samples

end WinBack.Outbox
