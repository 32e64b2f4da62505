import WinBack.Generation.Worker
import WinBack.Library.Machine
import WinBack.Library.Pool

/-! The generation worker among its duplicates: any number of passes make one call at a
time in any order, processes die between calls, and new generations arrive. -/

namespace WinBack.Generation

open Library Script

/-- What the environment decides about one call. A write may be carried out without its
answer coming back, or not at all. -/
structure Choice where
  now : Date := 0
  date : Date := 0    -- the second clock of the completion transaction
  written : Bool := true
  lost : Bool := false
  provider : Except Thrown AiGenerateResult := .error (.foreign "unreachable")
  shopify : ShopifyOutcome := .unreachable

def Choice.commit (choice : Choice) (db : Db) (write : Except RepositoryError Db) : Except Thrown Unit × Db :=
  match write with
  | .error error => (.error (.repository error), db)
  | .ok next =>
    if choice.written then (if choice.lost then .error (.db .connection) else .ok (), next)
    else (.error (.db .connection), db)

def exec (db : Db) (request : Call) (choice : Choice) : Option (Except Thrown request.Value × Db) :=
  match request with
  | .query read => some (if choice.lost then .error (.db .connection) else .ok (read.eval db), db)
  | .clock => some (.ok choice.now, db)
  | .generate _ => some (choice.provider, db)
  | .mint args => some (createWinbackDiscountCode args choice.shopify, db)
  | .markFailed scope aiGenerationId lastError =>
    some (choice.commit db (.ok (AiGenerationRepository.markFailed scope aiGenerationId lastError choice.now db).2))
  | .refuse scope aiGenerationId lastError audit =>
    let failed := (AiGenerationRepository.markFailed scope aiGenerationId lastError choice.now db).2
    some (choice.commit db (.ok { failed with auditLogs := failed.auditLogs ++ [audit] }))
  | .complete scope completion =>
    some (choice.commit db (completeGeneration scope completion choice.now choice.date db))

theorem Choice.commit_cases {choice : Choice} {db next : Db} {write : Except RepositoryError Db}
    {answer : Except Thrown Unit} (executed : some (choice.commit db write) = some (answer, next)) :
    next = db ∨ write = .ok next := by
  have same := Option.some.inj executed
  unfold Choice.commit at same
  split at same
  · cases same
    exact .inl rfl
  · split at same
    · cases same
      exact .inr rfl
    · cases same
      exact .inl rfl

/-- The generation that a call fails, and the audit rows that it adds. -/
def Call.failure? : Call → Option (MerchantId × String × String × List AuditLog)
  | .markFailed scope aiGenerationId lastError => some (scope, aiGenerationId, lastError, [])
  | .refuse scope aiGenerationId lastError audit => some (scope, aiGenerationId, lastError, [audit])
  | _ => none

/-- A call writes nothing, fails a generation or completes one. -/
theorem exec_cases {db next : Db} {request : Call} {choice : Choice} {answer : Except Thrown request.Value}
    (executed : exec db request choice = some (answer, next)) : next = db ∨
      (∃ scope aiGenerationId lastError audits, request.failure? = some (scope, aiGenerationId, lastError, audits) ∧
        next = { (AiGenerationRepository.markFailed scope aiGenerationId lastError choice.now db).2 with
          auditLogs := db.auditLogs ++ audits }) ∨
      ∃ scope completion, request = .complete scope completion ∧
        completeGeneration scope completion choice.now choice.date db = .ok next := by
  cases request with
  | query read | clock | generate args | mint args =>
    cases executed
    exact .inl rfl
  | markFailed scope aiGenerationId lastError =>
    rcases Choice.commit_cases executed with same | written
    · exact .inl same
    · refine .inr (.inl ⟨scope, aiGenerationId, lastError, [], rfl, ?_⟩)
      rw [List.append_nil]
      exact (Except.ok.inj written).symm
  | refuse scope aiGenerationId lastError audit =>
    rcases Choice.commit_cases executed with same | written
    · exact .inl same
    · exact .inr (.inl ⟨scope, aiGenerationId, lastError, [audit], rfl, (Except.ok.inj written).symm⟩)
  | complete scope completion =>
    rcases Choice.commit_cases executed with same | written
    · exact .inl same
    · exact .inr (.inr ⟨scope, completion, rfl, written⟩)

/-- The audit rows of a write name its generation, and only a completion announces a
discount. -/
def Call.Labelled : Call → Prop
  | .refuse _ _ _ audit => audit.action ≠ discountCreatedAction
  | .complete _ completion => ∀ audit ∈ completion.discountCreated, audit.targetId = some completion.args.aiGenerationId
  | _ => True

def discipline : Discipline Call Call.Value Thrown Unit where
  allowed _ request := request.Labelled
  next _ _ _ := ()

theorem refusedAudit_action (job : Job) (shop : String) (error : AiProviderError) :
    (refusedAudit job shop error).action ≠ discountCreatedAction := by
  unfold refusedAudit
  dsimp only
  split <;> decide

theorem handleProviderError_obeys (job : Job) (shop : String) (thrown : Thrown) :
    (handleProviderError job shop thrown).Obeys discipline () fun _ _ => True := by
  unfold handleProviderError
  split
  · split
    · trivial
    · exact ⟨refusedAudit_action job shop _, fun _ => trivial⟩
  · trivial

theorem mintAndComplete_obeys (context : WorkerContext) (payload : AiGenerateJobPayload) (row : Pickup)
    (result : AiGenerateResult) :
    (mintAndComplete context payload row result).Obeys discipline () fun _ _ => True := by
  unfold mintAndComplete
  split
  · trivial
  · split
    · exact ⟨fun audit listed => by simp [completion] at listed, fun _ => trivial⟩
    · split
      · exact ⟨trivial, fun _ => trivial⟩
      · simp only [obeys_bind, mintDiscount, ask, clock, mint, perform, obeys_perform, obeys_pure]
        refine ⟨trivial, fun answer => ?_⟩
        cases answer with
        | error => trivial
        | ok windowDays =>
          refine ⟨trivial, fun answer => ?_⟩
          cases answer with
          | error => trivial
          | ok now =>
            refine ⟨trivial, fun answer => ?_⟩
            cases answer with
            | error => trivial
            | ok created =>
              refine ⟨fun audit listed => ?_, fun _ => trivial⟩
              simp only [completion, Option.map_some, Option.mem_def, Option.some.injEq] at listed
              exact listed ▸ rfl

theorem processAiGenerateJob_obeys (context : WorkerContext) (job : Job) :
    (processAiGenerateJob context job).Obeys discipline () fun _ _ => True := by
  unfold processAiGenerateJob
  simp only [obeys_bind, ask, perform, obeys_perform]
  refine ⟨trivial, fun answer => ?_⟩
  rcases answer with error | _ | row
  · trivial
  · trivial
  · dsimp only
    split
    · trivial
    · simp only [obeys_bind, clock, perform, obeys_perform]
      refine ⟨trivial, fun answer => ?_⟩
      cases answer with
      | error => trivial
      | ok now =>
        dsimp only
        split
        · exact ⟨trivial, fun _ => trivial⟩
        · simp only [obeys_bind, obeys_tryCatch, generate, perform, obeys_perform, obeys_pure]
          refine ⟨trivial, fun answer => ?_⟩
          cases answer with
          | error thrown =>
            refine (handleProviderError_obeys job row.shop thrown).mono fun reached outcome _ => ?_
            cases outcome <;> trivial
          | ok result => exact mintAndComplete_obeys context job.data row result

abbrev WorkerTask := Task Job Call Call.Value Thrown Unit

structure World where
  db : Db
  tasks : Pool WorkerTask := []

/-- One step of a worker or of what happens around it. -/
inductive Label where
  | deliver (job : Job)                 -- a worker takes a job: fresh, retried or replayed
  | act (slot : Nat) (choice : Choice)  -- a pass makes its next call
  | crash (slot : Nat)                  -- the process of a pass dies
  | created (merchantId : MerchantId) (customerId : CustomerId) (args : GenerationArgs) (now : Date)
  | outside (db : Db) (rewrite : Message → Message) (audits : List AuditLog)

/-- Other components write every other table, every other column of messages and their
own audit rows. -/
def World.outside (world : World) (db : Db) (rewrite : Message → Message) (audits : List AuditLog) : World :=
  { world with db := { db with
      aiGenerations := world.db.aiGenerations
      aiSpendBuckets := world.db.aiSpendBuckets
      messages := world.db.messages.updateMany (fun _ => true) (fun row => { rewrite row with
        id := row.id
        merchantId := row.merchantId
        aiGenerationId := row.aiGenerationId
        generatedText := row.generatedText }) fun _ => rfl
      auditLogs := world.db.auditLogs ++ audits.filter fun row => row.action != discountCreatedAction } }

def machine (context : WorkerContext) : Machine World Label where
  step world
    | .deliver job => some { world with tasks := world.tasks.spawn ⟨job, (), processAiGenerateJob context job⟩ }
    | .act slot choice =>
      (world.tasks.task? slot).bind fun task =>
        (task.advance discipline exec world.db choice).map fun (db, next) => ⟨db, world.tasks.put slot next⟩
    | .crash slot => (world.tasks.task? slot).map fun _ => { world with tasks := world.tasks.clear slot }
    | .created merchantId customerId args now =>
      match createGeneration merchantId customerId args now world.db with
      | .error _ => none
      | .ok db => some { world with db }
    | .outside db rewrite audits => some (world.outside db rewrite audits)

/-- Every pass makes labelled calls only. -/
def Labelled (task : WorkerTask) : Prop := task.Follows discipline fun _ _ => True

variable {context : WorkerContext} {world next : World} {label : Label}

/-- What one step does to the store. -/
inductive Wrote (world next : World) : Prop where
  | nothing (same : next.db = world.db)
  | called (request : Call) (choice : Choice) (answer : Except Thrown request.Value) (labelled : request.Labelled)
      (executed : exec world.db request choice = some (answer, next.db))
  | created (merchantId : MerchantId) (customerId : CustomerId) (args : GenerationArgs) (now : Date)
      (done : createGeneration merchantId customerId args now world.db = .ok next.db)
  | outside (db : Db) (rewrite : Message → Message) (audits : List AuditLog)
      (same : next = world.outside db rewrite audits)

theorem wrote_of_step (every : world.tasks.Every Labelled) (moved : (machine context).step world label = some next) :
    next.tasks.Every Labelled ∧ Wrote world next := by
  cases label with
  | deliver job =>
    cases moved
    exact ⟨every.spawn (processAiGenerateJob_obeys context job), .nothing rfl⟩
  | act slot choice =>
    obtain ⟨task, live, moved⟩ := Option.bind_eq_some_iff.mp moved
    obtain ⟨⟨db, after⟩, advanced, rfl⟩ := Option.map_eq_some_iff.mp moved
    obtain ⟨request, answer, _, labelled, executed, _, _, follows⟩ := Task.Follows.advance (every.get live) advanced
    exact ⟨every.put follows, .called request choice answer labelled executed⟩
  | crash slot =>
    obtain ⟨task, live, rfl⟩ := Option.map_eq_some_iff.mp moved
    exact ⟨every.clear, .nothing rfl⟩
  | created merchantId customerId args now =>
    simp only [machine] at moved
    split at moved
    · cases moved
    · rename_i db done
      cases moved
      exact ⟨every, .created merchantId customerId args now done⟩
  | outside db rewrite audits =>
    cases moved
    exact ⟨every, .outside db rewrite audits rfl⟩

end WinBack.Generation
