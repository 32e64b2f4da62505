import WinBack.Compliance.Redact
import WinBack.Generation.FailureAudits

/-! The attempts at a generation and the code that Shopify has for it. An attempt that mints may
fail to complete; the next one asks the clock, the customer and the provider again, and in between the
row itself may be deleted. -/

namespace WinBack.Generation

open Library Script AiGenerationRepository

/-- How far an attempt is. `deleted` is whether its pickup showed a discount for a deleted customer. -/
inductive Attempt where
  | begun
  | picked (createdAt : Date) (deleted : Bool)
  | cleared (deleted : Bool)
  | turnedAway    -- it fails the generation next
  deriving DecidableEq, Repr

namespace Attempt

def picking (row : Pickup) : Attempt :=
  .picked row.generation.createdAt (row.generation.discountValuePercent.isSome && row.deletedAt.isSome)

def next : Attempt → (request : Call) → Except Thrown request.Value → Attempt
  | .begun, .query (.pickup _), .ok (some row) => picking row
  | .picked createdAt deleted, .clock, .ok now =>
    if now - createdAt > generationStalenessMs then .turnedAway else .cleared deleted
  | .cleared deleted, .generate _, .ok _ => if deleted then .turnedAway else .cleared deleted
  | .cleared deleted, .generate _, .error (.provider error) =>
    if error.code.retryable then .cleared deleted else .turnedAway
  | attempt, _, _ => attempt

def allowed (job : Job) : Attempt → Call → Prop
  | .begun, .query (.pickup aiGenerationId) => aiGenerationId = job.data.aiGenerationId
  | .picked _ _, .clock => True
  | .cleared _, .generate _ => True
  | .cleared false, .query (.attributionWindow _) | .cleared false, .clock | .cleared false, .mint _
  | .cleared false, .complete _ _ => True
  | .turnedAway, .markFailed _ aiGenerationId _ | .turnedAway, .refuse _ aiGenerationId _ _ =>
    aiGenerationId = job.data.aiGenerationId
  | _, _ => False

end Attempt

def attempts (job : Job) : Discipline Call Call.Value Thrown Attempt where
  allowed := Attempt.allowed job
  next := Attempt.next

section Passes

variable {context : WorkerContext} {job : Job} {args : AiGenerateArgs}

theorem handleProviderError_attempts (shop : String) (thrown : Thrown) (deleted : Bool) :
    (handleProviderError job shop thrown).Obeys (attempts job)
      ((Attempt.cleared deleted).next (.generate args) (.error thrown)) fun _ _ => True := by
  unfold handleProviderError
  cases thrown with
  | provider error =>
    dsimp only [Attempt.next]
    split
    · trivial
    · exact ⟨rfl, fun _ => trivial⟩
  | db | repository | foreign => trivial

/-- A code is minted for live customers only; for a deleted one the pass fails the generation. -/
theorem mintAndComplete_attempts (row : Pickup) (result : AiGenerateResult) :
    (mintAndComplete context job.data row result).Obeys (attempts job)
      ((Attempt.cleared (row.generation.discountValuePercent.isSome && row.deletedAt.isSome)).next (.generate args)
        (.ok result)) fun _ _ => True := by
  unfold mintAndComplete
  split
  · trivial
  · split
    · rename_i plain
      rw [plain]
      exact ⟨trivial, fun _ => trivial⟩
    · rename_i valuePercent discount
      rw [discount]
      split
      · rename_i deleted
        rw [Option.isSome_iff_ne_none.mpr deleted]
        exact ⟨rfl, fun _ => trivial⟩
      · rename_i kept
        rw [Option.isSome_eq_false_iff.mpr (Option.isNone_iff_eq_none.mpr (not_not.mp kept))]
        unfold mintDiscount
        apply (obeys_bind ..).mpr
        refine obeys_perform_bind.mpr ⟨trivial, fun _ => trivial, fun windowDays => ?_⟩
        refine obeys_perform_bind.mpr ⟨trivial, fun _ => trivial, fun now => ?_⟩
        refine obeys_perform_bind.mpr ⟨trivial, fun _ => trivial, fun created => ?_⟩
        exact ⟨trivial, fun _ => trivial⟩

theorem processAiGenerateJob_attempts :
    (processAiGenerateJob context job).Obeys (attempts job) .begun fun _ _ => True := by
  unfold processAiGenerateJob
  refine obeys_perform_bind.mpr ⟨rfl, fun _ => trivial, fun picked => ?_⟩
  cases picked with
  | none => trivial
  | some row =>
    dsimp only
    split
    · trivial
    · refine obeys_perform_bind.mpr ⟨trivial, fun _ => trivial, fun now => ?_⟩
      dsimp only [attempts, Attempt.next, Attempt.picking]
      split
      · rename_i stale
        exact ⟨rfl, fun _ => trivial⟩
      · simp only [obeys_bind, obeys_tryCatch, generate, perform, obeys_perform, obeys_pure]
        refine ⟨trivial, fun answer => ?_⟩
        cases answer with
        | error thrown =>
          refine (handleProviderError_attempts row.shop thrown _).mono fun reached outcome _ => ?_
          cases outcome <;> trivial
        | ok result => exact mintAndComplete_attempts row result

end Passes

abbrev Tried := Task Job Call Call.Value Thrown Attempt

/-- The passes with how far each is, and the generations that Shopify has a code for. -/
structure Attempts where
  db : Db
  tasks : Pool Tried := []
  minted : List String := []

/-- Shopify has the code after the call. The answer to a call that created it may be lost. -/
def Call.mints (choice : Choice) : Call → Bool
  | .mint _ =>
    match choice.shopify with
    | .created _ | .taken _ => true
    | .userErrors => false
    | .unreachable => choice.lost
  | _ => false

namespace Attempts

def aiGenerationId (task : Tried) : String := task.tag.data.aiGenerationId

def act (world : Attempts) (slot : Nat) (choice : Choice) (task : Tried) : Option Attempts :=
  (task.advance (attempts task.tag) exec world.db choice).map fun (db, next) => {
    db
    tasks := world.tasks.put slot next
    minted := if task.pending?.any (Call.mints choice) then aiGenerationId task :: world.minted else world.minted }

/-- A step of the workers or around them, or a deletion by the compliance processor. -/
inductive Step where
  | worker (label : Label)
  | customerRedact (merchantId : MerchantId) (shop : String) (payload : CustomerRedactPayload) (now : Date)
  | shopRedact (merchantId : MerchantId)

/-- `MerchantRepository.hardDelete` and its cascades, in the tables of the workers. -/
def hardDelete (merchantId : MerchantId) (db : Db) : Db :=
  { deleteGenerations db fun row => row.merchantId == merchantId with
    merchants := db.merchants.deleteMany fun row => row.id == merchantId
    merchantSettings := db.merchantSettings.deleteMany fun row => row.merchantId == merchantId
    customers := db.customers.deleteMany fun row => row.merchantId == merchantId
    aiSpendBuckets := db.aiSpendBuckets.deleteMany fun row => row.merchantId == merchantId }

def machine (context : WorkerContext) : Machine Attempts Step where
  step world
    | .worker (.deliver job) =>
      some { world with tasks := world.tasks.spawn ⟨job, .begun, processAiGenerateJob context job⟩ }
    | .worker (.act slot choice) => (world.tasks.task? slot).bind (world.act slot choice)
    | .worker (.crash slot) => (world.tasks.task? slot).map fun _ => { world with tasks := world.tasks.clear slot }
    | .worker (.created merchantId customerId args now) =>
      match createGeneration merchantId customerId args now world.db with
      | .error _ => none
      | .ok db => some { world with db }
    | .worker (.outside db rewrite audits) =>
      some { world with db := ((⟨world.db, []⟩ : World).outside db rewrite audits).db }
    | .customerRedact merchantId shop payload now =>
      match processCustomerRedact merchantId shop payload now world.db with
      | .error _ => none
      | .ok db => some { world with db }
    | .shopRedact merchantId => some { world with db := hardDelete merchantId world.db }

section Erasure

variable {context : WorkerContext} {world after : Attempts} {label : Label}

def plain (task : Tried) : WorkerTask := ⟨task.tag, (), task.script⟩

/-- The system without what no call reads. -/
def erase (world : Attempts) : World := ⟨world.db, world.tasks.map (Option.map plain)⟩

theorem task?_erase (slot : Nat) : world.erase.tasks.task? slot = (world.tasks.task? slot).map plain := by
  unfold erase Pool.task?
  rw [List.getElem?_map]
  cases world.tasks[slot]? with
  | none => rfl
  | some item => cases item <;> rfl

theorem advance_plain (task : Tried) (db : Db) (choice : Choice) :
    (plain task).advance discipline exec db choice =
      (task.advance (attempts task.tag) exec db choice).map fun (db, next) => (db, plain next) := by
  unfold Task.advance plain
  cases task.script with
  | done outcome => rfl
  | call request resume =>
    dsimp only
    cases exec db request choice with
    | none => rfl
    | some answered => rfl

/-- Attempts are passes. -/
theorem step_erase (moved : (machine context).step world (.worker label) = some after) :
    (Generation.machine context).step world.erase label = some after.erase := by
  cases label with
  | deliver job =>
    cases moved
    simp [Generation.machine, erase, Pool.spawn, plain]
  | act slot choice =>
    obtain ⟨task, live, acted⟩ := Option.bind_eq_some_iff.mp moved
    obtain ⟨⟨db, next⟩, advanced, rfl⟩ := Option.map_eq_some_iff.mp acted
    have step : (plain task).advance discipline exec world.db choice = some (db, plain next) := by
      rw [advance_plain, advanced]
      rfl
    simp only [Generation.machine, task?_erase, live, Option.map_some, Option.bind_some]
    refine (congrArg (Option.map _) step).trans ?_
    simp [erase, Pool.put, List.map_set]
  | crash slot =>
    obtain ⟨task, live, rfl⟩ := Option.map_eq_some_iff.mp moved
    simp only [Generation.machine, task?_erase, live, Option.map_some]
    simp [erase, Pool.clear, List.map_set]
  | created merchantId customerId args now =>
    simp only [machine] at moved
    split at moved
    · cases moved
    · rename_i db done
      cases moved
      have created : createGeneration merchantId customerId args now world.erase.db = .ok db := done
      simp only [Generation.machine, created]
      rfl
  | outside db rewrite audits =>
    cases moved
    rfl

end Erasure

section Runs

variable {context : WorkerContext} {world after origin last : Attempts} {move : Step} {db next : Db} {task : Tried}
  {merchantId : MerchantId} {shop : String} {payload : CustomerRedactPayload} {now : Date}

/-- The pass is about to fail its generation. -/
def turnedAway (task : Tried) : Bool := task.phase == .turnedAway && task.pending?.isSome

/-- The generation is there, completed or still pending. -/
def stands (aiGenerationId : String) (db : Db) : Bool :=
  db.aiGenerations.any fun row => row.id == aiGenerationId && row.status != .failed

/-- The generations that a step deletes: those of the customer that is redacted, if it is found, or of the shop. -/
def deletes (db : Db) : Step → AiGeneration → Bool
  | .worker _, _ => false
  | .customerRedact merchantId _ payload _, row =>
    ((payload.customerId.bind toShopifyCustomerGid).bind (CustomerRepository.findByShopifyId db merchantId)).any
      fun customer => row.merchantId == merchantId && row.customerId == customer.id
  | .shopRedact merchantId, row => row.merchantId == merchantId

/-- Once Shopify has the code, no attempt is turned away and the generation is not deleted; and none mints for a
generation that has failed or is gone, or that another attempt is about to fail. -/
def spares (world : Attempts) : Step → Bool
  | .worker (.act slot choice) => (world.tasks.task? slot).all fun task =>
    ((task.advance (attempts task.tag) exec world.db choice).all fun (_, next) =>
      decide (turnedAway next = true → turnedAway task = true ∨ aiGenerationId task ∉ world.minted)) &&
    decide (task.pending?.any (Call.mints choice) = true → stands (aiGenerationId task) world.db = true ∧
      world.tasks.tally (fun other => turnedAway other && aiGenerationId other == aiGenerationId task) = 0)
  | step => world.db.aiGenerations.rows.all fun row => deletes world.db step row → row.id ∉ world.minted

/-- A generation that Shopify has a code for stands, and no pass is about to fail it. -/
structure Spared (world : Attempts) : Prop where
  follows : world.tasks.Every fun task => task.Follows (attempts task.tag) fun _ _ => True
  standing : ∀ aiGenerationId ∈ world.minted, stands aiGenerationId world.db = true
  turned : world.tasks.Every fun task => turnedAway task = true → aiGenerationId task ∉ world.minted

theorem stands_iff {aiGenerationId : String} : stands aiGenerationId db = true ↔
    ∃ row ∈ db.aiGenerations.rows, row.id = aiGenerationId ∧ row.status ≠ .failed := by
  simp [stands, Table.any]

/-- A compare-and-set from `pending` leaves the other generations as they stand. -/
theorem stands_updateMany {scope : MerchantId} {id aiGenerationId : String} {change : AiGeneration → AiGeneration}
    (set : next.aiGenerations.rows = db.aiGenerations.rows.map fun row => if pending scope id row then change row else row)
    (kept : ∀ row, (change row).id = row.id) (standing : stands aiGenerationId db = true) :
    stands aiGenerationId next = true ∨ id = aiGenerationId ∧ ∃ old, (change old).status = .failed := by
  obtain ⟨row, present, named, status⟩ := stands_iff.mp standing
  by_cases matched : pending scope id row = true
  · have changed : change row ∈ next.aiGenerations.rows := by
      rw [set]
      exact List.mem_map.mpr ⟨row, present, if_pos matched⟩
    by_cases fails : (change row).status = .failed
    · simp only [pending, Bool.and_eq_true, beq_iff_eq] at matched
      exact .inr ⟨matched.1.1.symm.trans named, row, fails⟩
    · exact .inl (stands_iff.mpr ⟨change row, changed, (kept row).trans named, fails⟩)
  · have same : row ∈ next.aiGenerations.rows := by
      rw [set]
      exact List.mem_map.mpr ⟨row, present, if_neg matched⟩
    exact .inl (stands_iff.mpr ⟨row, same, named, status⟩)

/-- The generation that a write fails. -/
def fails? : Call → Option String
  | .markFailed _ aiGenerationId _ | .refuse _ aiGenerationId _ _ => some aiGenerationId
  | _ => none

theorem stands_called {request : Call} {choice : Choice} {answer : Except Thrown request.Value} {aiGenerationId : String}
    (executed : exec db request choice = some (answer, next)) (standing : stands aiGenerationId db = true) :
    stands aiGenerationId next = true ∨ fails? request = some aiGenerationId := by
  rcases exec_cases executed with rfl | ⟨scope, id, lastError, audits, failure, rfl⟩ | ⟨scope, completion, rfl, done⟩
  · exact .inl standing
  · refine (stands_updateMany rfl (by intro _; rfl) standing).imp_right fun ⟨same, _⟩ => ?_
    cases request <;> cases failure <;> exact congrArg some same
  · have rows := congrArg Table.rows (completeGeneration_generations done).1
    rcases stands_updateMany rows (by intro _; rfl) standing with after | ⟨_, old, completed⟩
    · exact .inl after
    · cases completed

/-- Rows go from the table, but not this one. -/
theorem stands_filter {gone : AiGeneration → Bool} {aiGenerationId : String}
    (rows : next.aiGenerations.rows = db.aiGenerations.rows.filter fun row => !gone row)
    (kept : ∀ row ∈ db.aiGenerations.rows, gone row = true → row.id ≠ aiGenerationId)
    (standing : stands aiGenerationId db = true) : stands aiGenerationId next = true := by
  obtain ⟨row, present, named, status⟩ := stands_iff.mp standing
  refine stands_iff.mpr ⟨row, ?_, named, status⟩
  rw [rows]
  refine List.mem_filter.mpr ⟨present, ?_⟩
  cases goes : gone row with
  | false => rfl
  | true => exact absurd named (kept row present goes)

theorem redacted_generations (redacted : processCustomerRedact merchantId shop payload now db = .ok next) :
    next.aiGenerations.rows = db.aiGenerations.rows.filter fun row =>
      !deletes db (.customerRedact merchantId shop payload now) row := by
  unfold deletes
  unfold processCustomerRedact at redacted
  cases given : payload.customerId with
  | none =>
    rw [given] at redacted
    cases redacted
    simp [given]
  | some numericId =>
    rw [given] at redacted
    cases wrapped : toShopifyCustomerGid numericId with
    | none =>
      simp only [Option.bind_some, wrapped, Option.map_none] at redacted
      cases redacted
      simp [given, wrapped]
    | some gid =>
      simp only [Option.bind_some, wrapped, Option.map_some] at redacted
      cases found : CustomerRepository.findByShopifyId db merchantId gid with
      | none =>
        rw [found] at redacted
        cases redacted
        simp [given, wrapped, found]
      | some customer =>
        rw [found] at redacted
        dsimp only at redacted
        split at redacted
        · cases redacted
        · cases redacted
          simp [given, wrapped, found, customerRedactChildTables, deleteChildren, deleteGenerations, deleteMessages]

/-- Only a pass that has been turned away fails its generation. -/
theorem turnedAway_of_fails {request : Call} {aiGenerationId : String} (asks : task.pending? = some request)
    (allowed : (attempts task.tag).allowed task.phase request) (fails : fails? request = some aiGenerationId) :
    turnedAway task = true ∧ Attempts.aiGenerationId task = aiGenerationId := by
  unfold turnedAway
  rw [asks]
  cases phase : task.phase <;> rw [phase] at allowed <;> cases request <;> cases fails
  all_goals first | exact ⟨rfl, allowed.symm⟩ | exact absurd allowed (by simp [attempts, Attempt.allowed])

/-- A pass that mints has not been turned away by what Shopify answers. -/
theorem not_turnedAway_of_mints {request : Call} {choice : Choice} {answer : Except Thrown request.Value} {after : Tried}
    (allowed : (attempts task.tag).allowed task.phase request) (mints : Call.mints choice request = true)
    (phase : after.phase = (attempts task.tag).next task.phase request answer) : turnedAway after = false := by
  cases request with
  | mint args =>
    cases stage : task.phase with
    | cleared deleted =>
      rw [stage] at phase
      have stays : after.phase = .cleared deleted := phase
      simp [turnedAway, stays]
    | begun | picked | turnedAway =>
      rw [stage] at allowed
      exact allowed.elim
  | query | clock | generate | markFailed | refuse | complete => cases mints

theorem Spared.act (spared : Spared world) {slot : Nat} {choice : Choice}
    (careful : spares world (.worker (.act slot choice)) = true)
    (live : world.tasks.task? slot = some task) (acted : world.act slot choice task = some after) : Spared after := by
  obtain ⟨⟨db, next⟩, advanced, rfl⟩ := Option.map_eq_some_iff.mp acted
  have follows : task.Follows (attempts task.tag) fun _ _ => True := spared.follows.get live
  obtain ⟨request, answer, asks, allowed, executed, tag, phase, onward⟩ := follows.advance advanced
  simp only [spares, live, Option.all_some, advanced, asks, Option.any_some, Bool.and_eq_true, decide_eq_true_eq] at careful
  obtain ⟨turning, minting⟩ := careful
  have named : aiGenerationId next = aiGenerationId task := congrArg (fun job => job.data.aiGenerationId) tag
  rw [asks, Option.any_some]
  constructor
  · refine spared.follows.put ?_
    rwa [tag]
  · intro id member
    have standing : stands id world.db = true := by
      by_cases mints : Call.mints choice request = true
      · rw [if_pos mints] at member
        rcases List.mem_cons.mp member with rfl | earlier
        · exact (minting mints).1
        · exact spared.standing id earlier
      · rw [if_neg mints] at member
        exact spared.standing id member
    rcases stands_called executed standing with after | write
    · exact after
    · obtain ⟨turned, rfl⟩ := turnedAway_of_fails asks allowed write
      have quiet : ¬Call.mints choice request = true := by
        cases request <;> cases write <;> exact Bool.false_ne_true
      rw [if_neg quiet] at member
      exact absurd member (spared.turned.get live turned)
  · by_cases mints : Call.mints choice request = true
    · rw [if_pos mints]
      have none : ∀ other, some other ∈ world.tasks → turnedAway other = true → aiGenerationId other ≠ aiGenerationId task := by
        intro other member turned same
        have counted : 0 < world.tasks.tally fun other => turnedAway other && aiGenerationId other == aiGenerationId task :=
          Pool.tally_pos_iff.mpr ⟨other, member, by simp [turned, same]⟩
        exact absurd (minting mints).2 (Nat.ne_of_gt counted)
      have every : world.tasks.Every fun other => turnedAway other = true →
          aiGenerationId other ∉ aiGenerationId task :: world.minted := fun other member turned listed =>
        (List.mem_cons.mp listed).elim (none other member turned) (spared.turned other member turned)
      refine every.put fun turned => ?_
      exact absurd (turned.symm.trans (not_turnedAway_of_mints allowed mints phase)) (by decide)
    · rw [if_neg mints]
      refine spared.turned.put fun turned => ?_
      rw [named]
      exact (turning turned).elim (spared.turned.get live) id

/-- A deletion that spares the generations with a code. -/
theorem Spared.deleted (spared : Spared world) (careful : (world.db.aiGenerations.rows.all fun row =>
      deletes world.db move row → row.id ∉ world.minted) = true)
    (rows : db.aiGenerations.rows = world.db.aiGenerations.rows.filter fun row => !deletes world.db move row) :
    Spared { world with db } where
  follows := spared.follows
  standing id minted := by
    refine stands_filter rows (fun row present goes => ?_) (spared.standing id minted)
    rintro rfl
    have free := List.all_eq_true.mp careful row present
    simp only [goes, forall_const, decide_eq_true_eq] at free
    exact free minted
  turned := spared.turned

theorem Spared.step (spared : Spared world) (careful : spares world move = true)
    (moved : (machine context).step world move = some after) : Spared after := by
  cases move with
  | worker label =>
    cases label with
    | deliver job =>
      cases moved
      exact {
        follows := spared.follows.spawn processAiGenerateJob_attempts
        standing := spared.standing
        turned := spared.turned.spawn fun turned => by cases turned }
    | act slot choice =>
      obtain ⟨task, live, acted⟩ := Option.bind_eq_some_iff.mp moved
      exact spared.act careful live acted
    | crash slot =>
      obtain ⟨task, live, rfl⟩ := Option.map_eq_some_iff.mp moved
      exact {
        follows := spared.follows.clear
        standing := spared.standing
        turned := spared.turned.clear }
    | created merchantId customerId args now =>
      simp only [machine] at moved
      split at moved
      · cases moved
      · rename_i db done
        cases moved
        obtain ⟨aiGenerations, messages, generated, _, rfl⟩ := createGeneration_ok done
        refine ⟨spared.follows, fun id minted => ?_, spared.turned⟩
        obtain ⟨row, present, stays⟩ := stands_iff.mp (spared.standing id minted)
        refine stands_iff.mpr ⟨row, ?_, stays⟩
        rw [(Table.insert?_rows generated).1]
        exact List.mem_append_left _ present
    | outside db rewrite audits =>
      cases moved
      exact ⟨spared.follows, spared.standing, spared.turned⟩
  | customerRedact merchantId shop payload now =>
    simp only [machine] at moved
    split at moved
    · cases moved
    · rename_i db redacted
      cases moved
      exact spared.deleted careful (redacted_generations redacted)
  | shopRedact merchantId =>
    cases moved
    exact spared.deleted careful rfl

/-- In every run in which, once Shopify has the code, no attempt is turned away and the row is not deleted, every code
belongs to a generation that is completed or still pending. -/
theorem minted_not_failed (idle : origin.tasks = []) (unminted : origin.minted = [])
    (reach : (machine context).Reach (fun world step => spares world step = true) origin last) :
    (∀ aiGenerationId ∈ last.minted, ∃ generation ∈ last.db.aiGenerations.rows,
      generation.id = aiGenerationId ∧ (generation.status = .completed ∨ generation.status = .pending)) ∧
    ∀ generation ∈ last.db.aiGenerations.rows, generation.id ∈ last.minted → generation.status ≠ .failed := by
  have start : Spared origin := {
    follows := fun _ member => by simp [idle] at member
    standing := fun _ member => by simp [unminted] at member
    turned := fun _ member => by simp [idle] at member }
  have spared := reach.invariant start fun _ _ _ careful moved spared => spared.step careful moved
  constructor
  · intro aiGenerationId minted
    obtain ⟨generation, stored, named, stays⟩ := stands_iff.mp (spared.standing aiGenerationId minted)
    refine ⟨generation, stored, named, ?_⟩
    cases status : generation.status with
    | completed => exact .inl rfl
    | pending => exact .inr rfl
    | failed => exact absurd status stays
  · intro generation stored minted
    obtain ⟨other, present, named, stays⟩ := stands_iff.mp (spared.standing generation.id minted)
    obtain rfl := last.db.aiGenerations.eq_of_clash present stored (by simp [Indexed.clash, Indexed.index, named])
    exact stays

end Runs

section TwoAttempts

/-- The first attempt mints, and its completion is not written. -/
def firstAttempt : List Label :=
  .deliver raceJob :: List.replicate 6 (.act 0 { answers "text" with shopify := .created "gid://shopify/DiscountCodeNode/1" }) ++
    [.act 0 { answers "text" with written := false }]

/-- The second one finds the code taken, and completes. -/
def completedLater : List Label := firstAttempt ++ .deliver raceJob :: List.replicate 7 (.act 1 (answers "text"))

/-- Or the provider refuses it. -/
def refusedLater : List Label :=
  firstAttempt ++ .deliver raceJob :: List.replicate 4 (.act 1 (refused ⟨.contentBlocked, "blocked"⟩))

def tried? (check : Attempts → Step → Bool) (steps : List Step) : Option Attempts :=
  (machine raceContext).runWhere check ⟨oneGeneration, [], []⟩ steps

theorem completed_later : (tried? spares (completedLater.map .worker)).isSome = true := by decide

theorem refused_later : (tried? (fun _ _ => true) (refusedLater.map .worker)).isSome = true := by decide

theorem minted_not_failed_completed_later : ∃ last, tried? spares (completedLater.map .worker) = some last ∧
    "g" ∈ last.minted ∧
    (∀ aiGenerationId ∈ last.minted, ∃ generation ∈ last.db.aiGenerations.rows,
      generation.id = aiGenerationId ∧ (generation.status = .completed ∨ generation.status = .pending)) ∧
    ∀ generation ∈ last.db.aiGenerations.rows, generation.id ∈ last.minted → generation.status ≠ .failed :=
  ⟨_, (Option.some_get completed_later).symm, by decide,
    minted_not_failed rfl rfl (Machine.reach_get completed_later)⟩

/-- The code that the first attempt minted is left with a failed generation. -/
theorem code_orphaned_by_refusal :
    ¬∀ (context : WorkerContext) (origin last : Attempts), origin.tasks = [] → origin.minted = [] →
      (machine context).Reach (fun _ _ => True) origin last →
      ∀ generation ∈ last.db.aiGenerations.rows, generation.id ∈ last.minted → generation.status ≠ .failed := by
  intro claim
  have none := claim raceContext ⟨oneGeneration, [], []⟩ _ rfl rfl
    ((Machine.reach_get refused_later).mono fun _ _ _ => trivial)
  revert none
  decide

/-- A redaction between the attempts leaves the code without a generation. -/
example : (tried? (fun _ _ => true) (firstAttempt.map .worker ++
    [.customerRedact "m" "m.myshopify.com" { customerId := some (.text "1") } 6])).map
      (fun last => (last.minted, last.db.aiGenerations.rows.length)) = some (["g"], 0) := by decide

end TwoAttempts

end Attempts

end WinBack.Generation
