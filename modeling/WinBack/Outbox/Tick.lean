import WinBack.Outbox.System

/-! What a tick that commits leaves of every row. Its handlers are programs of their own: of each
of them the bookkeeping sees only whether it returned and what it threw. -/

namespace WinBack.Outbox

open Library Script

section Seam

variable (context : DrainerContext) (dispatch : OutboxEvent → Program Unit)

/-- The tick with another dispatcher, `options.dispatch`. -/
def drainRowWith (row : OutboxEvent) : Program Unit :=
  tryCatch
    (do
      dispatch row
      mark row.id .processed)
    fun thrown => mark row.id (failureMark context row thrown)

def drainRowsWith : List OutboxEvent → Program (List OutboxEvent)
  | [] => return []
  | row :: rest => do
    if marksBeforeInvoke row then
      mark row.id .processed
      let deferredRows ← drainRowsWith rest
      return row :: deferredRows
    else
      drainRowWith context dispatch row
      drainRowsWith rest

def runDeferredWith : List OutboxEvent → Program Unit
  | [] => return
  | row :: rest => do
    tryCatch (dispatch row) fun thrown =>
      tryCatch (perform (.markDeferredFailed row.id (context.message thrown))) fun _ => return
    runDeferredWith rest

/-- The transaction of the tick. -/
def drainBatchWith (batchSize : Nat) : Program (Nat × List OutboxEvent) := do
  let rows ← perform (.claimBatch batchSize)
  let deferredRows ← drainRowsWith context dispatch rows
  return (rows.length, deferredRows)

def runDrainTickWith (batchSize : Nat) : Program RunDrainTickResult := do
  let (claimed, deferredRows) ← transaction (drainBatchWith context dispatch batchSize)
  runDeferredWith context dispatch deferredRows
  return ⟨claimed, claimed == batchSize⟩

end Seam

section Default

variable {context : DrainerContext}

theorem drainRows_eq (rows : List OutboxEvent) :
    drainRows context rows = drainRowsWith context (dispatchEvent context) rows := by
  induction rows with
  | nil => rfl
  | cons row rest ih => rw [drainRows, drainRowsWith, ih]; rfl

theorem runDeferred_eq (rows : List OutboxEvent) :
    runDeferred context rows = runDeferredWith context (dispatchEvent context) rows := by
  induction rows with
  | nil => rfl
  | cons row rest ih => rw [runDeferred, runDeferredWith, ih]

theorem runDrainTick_eq (batchSize : Nat) :
    runDrainTick context batchSize = runDrainTickWith context (dispatchEvent context) batchSize := by
  unfold runDrainTick runDrainTickWith drainBatchWith
  simp only [drainRows_eq, runDeferred_eq]

end Default

section Served

/-- The calls of the tick itself. -/
def Call.bookkeeping : Call → Bool
  | .claimBatch _ | .mark _ _ | .commit | .rollback | .markDeferredFailed _ _ => true
  | _ => false

/-- What a handler inside the transaction of the tick leaves: that transaction, and every row
that is there. It may publish. -/
structure Keeps (before after : View) : Prop where
  transaction : after.transaction = before.transaction
  rows : ∀ row ∈ before.db.outboxEvents.rows, row ∈ after.db.outboxEvents.rows

/-- The store answers the bookkeeping and carries it out. Nothing is said of the handlers that
run after the transaction. -/
structure Serves {Store : Type} (serve : Store → (request : Call) → Except Thrown request.Value × Store)
    (view : Store → View) : Prop where
  bookkeeping : ∀ store request, request.bookkeeping = true → ∃ choice : Choice, choice.fails = false ∧
    choice.lost = false ∧ exec (view store) request choice = some ((serve store request).1, view (serve store request).2)
  handler : ∀ store request, request.bookkeeping = false → (view store).transaction.isSome →
    Keeps (view store) (view (serve store request).2)

theorem Keeps.refl (view : View) : Keeps view view := ⟨rfl, fun _ => id⟩

theorem Keeps.trans {first second third : View} (early : Keeps first second) (late : Keeps second third) :
    Keeps first third :=
  ⟨late.transaction.trans early.transaction, fun row stored => late.rows row (early.rows row stored)⟩

/-- A handler makes none of the calls of the tick. -/
def handling : Discipline Call Call.Value Thrown Unit where
  allowed _ request := request.bookkeeping = false
  next _ _ _ := ()

def Handles (script : Program Unit) : Prop := script.Obeys handling () fun _ _ => True

variable {Store : Type} {serve : Store → (request : Call) → Except Thrown request.Value × Store} {view : Store → View}

theorem Handles.keeps (serves : Serves serve view) {script : Program Unit} (handles : Handles script) {store : Store}
    (isOpen : (view store).transaction.isSome) : Keeps (view store) (view (run serve store script).2) := by
  induction script generalizing store with
  | done outcome => exact .refl _
  | call request resume ih =>
    have first := serves.handler store request handles.1 isOpen
    exact first.trans (ih _ (handles.2 _) (first.transaction ▸ isOpen))

/-- The calls of the model that are none of the tick's write neither its transaction nor an
event. -/
structure Untouched (before after : View) : Prop where
  transaction : after.transaction = before.transaction
  outboxEvents : after.db.outboxEvents = before.db.outboxEvents

theorem Untouched.carried {Result : Type} {choice : Choice} {view next reached : View} {result : Result}
    {answer : Except Thrown Result} (untouched : Untouched view next)
    (ran : choice.carryOut view next result = (answer, reached)) : Untouched view reached := by
  rcases Choice.carryOut_cases ran with ⟨_, _, rfl⟩ | ⟨_, _, _, rfl⟩ | ⟨_, _, _, rfl⟩
  · exact ⟨rfl, rfl⟩
  · exact untouched
  · exact untouched

theorem exec_untouched {view next : View} {request : Call} {choice : Choice} {answer : Except Thrown request.Value}
    (handler : request.bookkeeping = false) (ran : exec view request choice = some (answer, next)) :
    Untouched view next := by
  cases request with
  | query read => exact .carried ⟨rfl, rfl⟩ (Option.some.inj ran)
  | incrementAndCheck merchantId capPerHour => exact .carried ⟨rfl, rfl⟩ (Option.some.inj ran)
  | findRecentPurchasedTitles merchantId customerId => exact .carried ⟨rfl, rfl⟩ (Option.some.inj ran)
  | appendAudit row | enqueue payload =>
    refine Untouched.carried ?_ (Option.some.inj ran)
    exact ⟨rfl, rfl⟩
  | createGeneration eventId merchantId customerId args =>
    simp only [exec] at ran
    split at ran
    · cases ran
      exact ⟨rfl, rfl⟩
    · rename_i db created
      obtain ⟨aiGenerations, messages, _, _, rfl⟩ := createGeneration_ok created
      refine Untouched.carried ?_ (Option.some.inj ran)
      exact ⟨rfl, rfl⟩
  | clock | process topic merchantId shop payload | handled row =>
    cases ran
    exact ⟨rfl, rfl⟩
  | claimBatch limit | mark id mark | commit | rollback | markDeferredFailed id error => cases handler

theorem exec_keeps {view next : View} {request : Call} {choice : Choice} {answer : Except Thrown request.Value}
    (handler : request.bookkeeping = false) (ran : exec view request choice = some (answer, next)) :
    Keeps view next := by
  obtain ⟨transaction, outboxEvents⟩ := exec_untouched handler ran
  exact ⟨transaction, fun row stored => outboxEvents ▸ stored⟩

end Served

section Handlers

variable {context : DrainerContext} {row : OutboxEvent} {Result Next : Type}

/-- A call of a handler and what follows it. -/
theorem handles_bind {request : Call} {rest : request.Value → Program Next} (handler : request.bookkeeping = false)
    (handles : ∀ answer, (rest answer).Obeys handling () fun _ _ => True) :
    (perform request >>= rest).Obeys handling () fun _ _ => True :=
  obeys_perform_bind.mpr ⟨handler, fun _ => trivial, handles⟩

theorem handles_orThrow {result : Except Thrown Result} {rest : Result → Program Next}
    (handles : ∀ value, (rest value).Obeys handling () fun _ _ => True) :
    (orThrow result >>= rest).Obeys handling () fun _ _ => True := by
  cases result with
  | error thrown => trivial
  | ok value => exact handles value

theorem handles_after {script : Program Result} {rest : Result → Program Next}
    (first : script.Obeys handling () fun _ _ => True)
    (handles : ∀ value, (rest value).Obeys handling () fun _ _ => True) :
    (script >>= rest).Obeys handling () fun _ _ => True := by
  apply (obeys_bind ..).mpr
  refine first.mono fun _ outcome _ => ?_
  cases outcome with
  | error thrown => trivial
  | ok value => exact handles value

theorem withinHourlyCap_handles (payload : CustomerStateChangedPayload) (shop : String) (settings : MerchantSettings) :
    (withinHourlyCap row payload shop settings).Obeys handling () fun _ _ => True := by
  refine handles_bind rfl fun rateLimit => ?_
  split
  · trivial
  · exact handles_bind rfl fun now => handles_bind rfl fun _ => trivial

theorem withinSpendCap_handles (payload : CustomerStateChangedPayload) (shop : String) (settings : MerchantSettings) :
    (withinSpendCap context row payload shop settings).Obeys handling () fun _ _ => True := by
  refine handles_bind rfl fun now => handles_bind rfl fun currentSpendMicrocents => handles_orThrow fun estimated => ?_
  dsimp only
  split
  · trivial
  · exact handles_bind rfl fun _ => trivial

theorem createAndEnqueue_handles (payload : CustomerStateChangedPayload) (merchant : Merchant)
    (settings : MerchantSettings) : Handles (createAndEnqueue context row payload merchant settings) := by
  refine handles_bind rfl fun customer => ?_
  cases customer with
  | none => trivial
  | some customer =>
    refine handles_bind rfl fun titles => handles_orThrow fun aiTone => handles_bind rfl fun aiGenerationId => ?_
    exact ⟨rfl, fun _ => trivial⟩

theorem generateForTransition_handles (payload : CustomerStateChangedPayload) :
    Handles (generateForTransition context row payload) := by
  refine handles_bind rfl fun billing => ?_
  split
  · trivial
  · refine handles_bind rfl fun merchant => ?_
    cases merchant with
    | none => trivial
    | some merchant =>
      refine handles_bind rfl fun settings => ?_
      cases settings with
      | none => trivial
      | some settings =>
        refine handles_after (withinHourlyCap_handles ..) fun below => ?_
        split
        · refine handles_after (withinSpendCap_handles ..) fun affordable => ?_
          split
          · exact createAndEnqueue_handles payload merchant settings
          · trivial
        · trivial

theorem handleGdpr_handles (topic : GdprTopic) : Handles (handleGdpr topic row) :=
  handles_orThrow fun _ => ⟨rfl, fun _ => trivial⟩

theorem dispatchEvent_handles (context : DrainerContext) (row : OutboxEvent) : Handles (dispatchEvent context row) := by
  unfold dispatchEvent
  split
  · trivial
  · rename_i type _
    cases type with
    | merchantInstalled | merchantUninstalled | customerCreated | customerUpdated | customerDeleted | orderPlaced
    | orderUpdated => exact ⟨rfl, fun _ => trivial⟩
    | merchantNeedsReauth | merchantShopDetailsFetched | merchantBackfillCompleted | merchantScopesUpdated
    | customerRedacted | orderCancelled | orderRefunded | productCreated | productUpdated | productDeleted => trivial
    | customerStateChanged =>
      refine handles_orThrow fun payload => ?_
      split
      · exact generateForTransition_handles payload
      · trivial
    | gdprCustomerDataRequested | gdprCustomerRedacted | gdprShopRedacted => exact handleGdpr_handles _

end Handlers

section Marks

/-- What a mark changes on its row. -/
def Mark.change (mark : Mark) (now : Date) (row : OutboxEvent) : OutboxEvent :=
  match mark with
  | .processed => { row with processedAt := some now }
  | .failed error => { row with
      attempts := row.attempts + 1
      lastError := some (utf16Prefix OutboxRepository.errorMaxChars error) }
  | .deadLettered error => { row with
      deadLetteredAt := some now
      attempts := row.attempts + 1
      lastError := some (utf16Prefix OutboxRepository.errorMaxChars error) }

@[simp] theorem Mark.change_id (mark : Mark) (now : Date) (row : OutboxEvent) : (mark.change now row).id = row.id := by
  cases mark <;> rfl

variable {db : Db} {row : OutboxEvent} {marked : Marked} {marks : List Marked}

/-- A mark changes its own row, unless that is dead-lettered already, and no other. -/
theorem Marked.mem_apply (stored : row ∈ db.outboxEvents.rows) (alive : row.deadLetteredAt = none) :
    (if row.id = marked.id then marked.mark.change marked.now row else row) ∈ (marked.apply db).outboxEvents.rows := by
  obtain ⟨id, mark, now⟩ := marked
  have updates (change : OutboxEvent → OutboxEvent) (keeps : ∀ row, (change row).id = row.id) :
      (if row.id = id then change row else row) ∈
        ((OutboxRepository.update id change keeps db).toOption.getD db).outboxEvents.rows := by
    unfold OutboxRepository.update
    split
    · exact List.mem_map.mpr ⟨row, stored, by simp⟩
    · rename_i absent
      have other : row.id ≠ id := fun same => absent (List.any_eq_true.mpr ⟨row, stored, by simp [same]⟩)
      rw [if_neg other]
      exact stored
  cases mark with
  | processed => exact updates _ _
  | failed error => exact updates _ _
  | deadLettered error =>
    refine List.mem_map.mpr ⟨row, stored, ?_⟩
    simp [OutboxRepository.undelivered, alive, Mark.change]

theorem Marked.mem_apply_other (stored : row ∈ db.outboxEvents.rows) (other : row.id ≠ marked.id) :
    row ∈ (marked.apply db).outboxEvents.rows := by
  obtain ⟨id, mark, now⟩ := marked
  have updates (change : OutboxEvent → OutboxEvent) (keeps : ∀ row, (change row).id = row.id) :
      row ∈ ((OutboxRepository.update id change keeps db).toOption.getD db).outboxEvents.rows := by
    unfold OutboxRepository.update
    split
    · exact List.mem_map.mpr ⟨row, stored, by simp [other]⟩
    · exact stored
  cases mark with
  | processed => exact updates _ _
  | failed error => exact updates _ _
  | deadLettered error => exact List.mem_map.mpr ⟨row, stored, by simp [OutboxRepository.undelivered, other]⟩

theorem mem_marks_other (stored : row ∈ db.outboxEvents.rows) (other : row.id ∉ marks.map (·.id)) :
    row ∈ (marks.foldl Marked.apply db).outboxEvents.rows := by
  induction marks generalizing db with
  | nil => exact stored
  | cons first rest ih =>
    rw [List.map_cons, List.mem_cons, not_or] at other
    exact ih (Marked.mem_apply_other stored other.1) other.2

/-- Marks on different rows do not meet. -/
theorem mem_marks (distinct : (marks.map (·.id)).Nodup) (stored : row ∈ db.outboxEvents.rows)
    (alive : row.deadLetteredAt = none) (listed : marked ∈ marks) (named : marked.id = row.id) :
    marked.mark.change marked.now row ∈ (marks.foldl Marked.apply db).outboxEvents.rows := by
  induction marks generalizing db with
  | nil => cases listed
  | cons first rest ih =>
    rw [List.map_cons, List.nodup_cons] at distinct
    rw [List.foldl_cons]
    have applied : (if row.id = first.id then first.mark.change first.now row else row) ∈ _ :=
      Marked.mem_apply stored alive
    rcases List.mem_cons.mp listed with rfl | later
    · rw [if_pos named.symm] at applied
      refine mem_marks_other applied ?_
      rw [Mark.change_id, ← named]
      exact distinct.1
    · have other : row.id ≠ first.id := fun same =>
        distinct.1 (List.mem_map.mpr ⟨marked, later, named.trans same⟩)
      rw [if_neg other] at applied
      exact ih distinct.2 applied later

end Marks

section Phase

variable {Store : Type} {serve : Store → (request : Call) → Except Thrown request.Value × Store} {view : Store → View}
  {context : DrainerContext} {dispatch : OutboxEvent → Program Unit} {outcome : OutboxEvent → Except Thrown Unit}

/-- How the tick marks a row in its transaction. -/
def verdict (context : DrainerContext) (outcome : OutboxEvent → Except Thrown Unit) (row : OutboxEvent) : Mark :=
  if marksBeforeInvoke row then .processed
  else match outcome row with
    | .ok _ => .processed
    | .error thrown => failureMark context row thrown

/-- An open transaction has more marks, and every row is still there. -/
def Grown (before after : View) (added : List Marked) : Prop :=
  ∃ transaction, before.transaction = some transaction ∧
    after.transaction = some { transaction with marks := transaction.marks ++ added } ∧
    ∀ row ∈ before.db.outboxEvents.rows, row ∈ after.db.outboxEvents.rows

theorem Grown.trans {first second third : View} {early late : List Marked} (grown : Grown first second early)
    (grows : Grown second third late) : Grown first third (early ++ late) := by
  obtain ⟨transaction, isOpen, grown, kept⟩ := grown
  obtain ⟨middle, still, grows, keeps⟩ := grows
  cases grown.symm.trans still
  refine ⟨transaction, isOpen, ?_, fun row stored => keeps row (kept row stored)⟩
  rw [grows, List.append_assoc]

theorem Grown.keeps {first second third : View} {late : List Marked} (keeps : Keeps first second)
    (grows : Grown second third late) : Grown first third late := by
  obtain ⟨transaction, isOpen, grows, kept⟩ := grows
  exact ⟨transaction, keeps.transaction ▸ isOpen, grows, fun row stored => kept row (keeps.rows row stored)⟩

theorem serve_mark (serves : Serves serve view) {store : Store} (isOpen : (view store).transaction.isSome)
    {row : OutboxEvent} (stored : row ∈ (view store).db.outboxEvents.rows) (mark : Mark) :
    (serve store (.mark row.id mark)).1 = .ok () ∧
      ∃ now, Grown (view store) (view (serve store (.mark row.id mark)).2) [⟨row.id, mark, now⟩] := by
  obtain ⟨choice, carried, back, ran⟩ := serves.bookkeeping store (.mark row.id mark) rfl
  obtain ⟨transaction, isOpen⟩ := Option.isSome_iff_exists.mp isOpen
  have present : (view store).db.outboxEvents.any (·.id == row.id) = true :=
    List.any_eq_true.mpr ⟨row, stored, beq_self_eq_true _⟩
  simp only [exec, isOpen, present, if_true, Choice.carryOut, carried, back, Bool.false_eq_true, if_false,
    Option.some.injEq, Prod.mk.injEq] at ran
  refine ⟨ran.1.symm, choice.now, transaction, isOpen, ?_, ?_⟩
  · rw [← ran.2]
  · rw [← ran.2]
    exact fun _ => id

/-- An ordinary row is marked by what its handler did. -/
theorem drainRow_marks (serves : Serves serve view) {row : OutboxEvent} (handles : Handles (dispatch row)) {store : Store}
    (isOpen : (view store).transaction.isSome) (stored : row ∈ (view store).db.outboxEvents.rows)
    (ordinary : marksBeforeInvoke row = false) (came : (run serve store (dispatch row)).1 = outcome row) :
    (run serve store (drainRowWith context dispatch row)).1 = .ok () ∧
      ∃ now, Grown (view store) (view (run serve store (drainRowWith context dispatch row)).2)
        [⟨row.id, verdict context outcome row, now⟩] := by
  have keeps := handles.keeps serves isOpen
  have still : (view (run serve store (dispatch row)).2).transaction.isSome := keeps.transaction ▸ isOpen
  have kept := keeps.rows row stored
  rw [verdict, ordinary, ← came]
  unfold drainRowWith
  rw [run_tryCatch, run_bind]
  cases ended : run serve store (dispatch row) with
  | mk answer after =>
    rw [ended] at keeps still kept
    cases answer with
    | error thrown =>
      dsimp only
      obtain ⟨marked, now, grown⟩ := serve_mark serves still kept (failureMark context row thrown)
      exact ⟨marked, now, .keeps keeps grown⟩
    | ok value =>
      obtain ⟨marked, now, grown⟩ := serve_mark serves still kept .processed
      dsimp only [mark, perform]
      rw [run_perform]
      cases done : serve after (.mark row.id .processed) with
      | mk answer last =>
        rw [done] at marked grown
        cases marked
        exact ⟨rfl, now, .keeps keeps grown⟩

/-- The first row of a batch, and then the rest of it. -/
def firstWith (context : DrainerContext) (dispatch : OutboxEvent → Program Unit) (row : OutboxEvent) : Program Unit :=
  if marksBeforeInvoke row then mark row.id .processed else drainRowWith context dispatch row

theorem run_drainRows_cons {row : OutboxEvent} {rest : List OutboxEvent} {store after : Store}
    (first : run serve store (firstWith context dispatch row) = (.ok (), after)) :
    run serve store (drainRowsWith context dispatch (row :: rest)) =
      ((run serve after (drainRowsWith context dispatch rest)).1.map fun deferredRows =>
        if marksBeforeInvoke row then row :: deferredRows else deferredRows,
        (run serve after (drainRowsWith context dispatch rest)).2) := by
  rw [drainRowsWith]
  unfold firstWith at first
  split
  · rename_i deferred
    rw [if_pos deferred] at first
    rw [run_bind, first]
    dsimp only
    rw [run_bind]
    cases run serve after (drainRowsWith context dispatch rest) with
    | mk answer last => cases answer <;> simp [Except.map]
  · rename_i ordinary
    rw [if_neg ordinary] at first
    rw [run_bind, first]
    dsimp only
    cases run serve after (drainRowsWith context dispatch rest) with
    | mk answer last => cases answer <;> simp [Except.map]

/-- Every row of the batch gets its own mark. -/
theorem drainRows_marks (serves : Serves serve view) (handles : ∀ row, Handles (dispatch row)) {rows : List OutboxEvent}
    {store : Store} (isOpen : (view store).transaction.isSome)
    (stored : ∀ row ∈ rows, row ∈ (view store).db.outboxEvents.rows)
    (came : ∀ earlier row rest, rows = earlier ++ row :: rest → marksBeforeInvoke row = false →
      (run serve (run serve store (drainRowsWith context dispatch earlier)).2 (dispatch row)).1 = outcome row) :
    (run serve store (drainRowsWith context dispatch rows)).1 = .ok (rows.filter marksBeforeInvoke) ∧
      ∃ added, (added.map fun marked => (marked.id, marked.mark)) =
          (rows.map fun row => (row.id, verdict context outcome row)) ∧
        Grown (view store) (view (run serve store (drainRowsWith context dispatch rows)).2) added := by
  induction rows generalizing store with
  | nil =>
    obtain ⟨transaction, isOpen⟩ := Option.isSome_iff_exists.mp isOpen
    exact ⟨rfl, [], rfl, transaction, isOpen, by rw [List.append_nil]; exact isOpen, fun _ => id⟩
  | cons row rest ih =>
    have here := stored row List.mem_cons_self
    have first : (run serve store (firstWith context dispatch row)).1 = .ok () ∧
        ∃ now, Grown (view store) (view (run serve store (firstWith context dispatch row)).2)
          [⟨row.id, verdict context outcome row, now⟩] := by
      cases deferred : marksBeforeInvoke row with
      | true =>
        rw [verdict, firstWith, if_pos deferred, if_pos deferred]
        exact serve_mark serves isOpen here .processed
      | false =>
        rw [firstWith, if_neg (by simp [deferred])]
        exact drainRow_marks serves (handles row) isOpen here deferred (came [] row rest rfl deferred)
    cases ended : run serve store (firstWith context dispatch row) with
    | mk answer after =>
      rw [ended] at first
      obtain ⟨rfl, now, grown⟩ := first
      obtain ⟨transaction, _, still, kept⟩ := id grown
      obtain ⟨done, added, marks, grows⟩ := @ih after (still ▸ rfl)
        (fun other listed => kept other (stored other (List.mem_cons_of_mem _ listed)))
        fun earlier other later split ordinary => by
          have came := came (row :: earlier) other later (by rw [split, List.cons_append]) ordinary
          rwa [run_drainRows_cons ended] at came
      rw [run_drainRows_cons ended]
      refine ⟨?_, ⟨row.id, verdict context outcome row, now⟩ :: added, by simp [marks], grown.trans grows⟩
      rw [done]
      cases deferred : marksBeforeInvoke row <;> simp [Except.map, deferred]

theorem serve_claim (serves : Serves serve view) (store : Store) (batchSize : Nat) :
    (serve store (.claimBatch batchSize)).1 =
        .ok (OutboxRepository.claimBatch batchSize (view store).locked (view store).db) ∧
      view (serve store (.claimBatch batchSize)).2 = { view store with transaction := some {
        claimed := (OutboxRepository.claimBatch batchSize (view store).locked (view store).db).map (·.id) } } := by
  obtain ⟨choice, carried, back, ran⟩ := serves.bookkeeping store (.claimBatch batchSize) rfl
  simp only [exec, Choice.carryOut, carried, back, Bool.false_eq_true, if_false, Option.some.injEq,
    Prod.mk.injEq] at ran
  exact ⟨ran.1.symm, ran.2.symm⟩

theorem serve_commit (serves : Serves serve view) {store : Store} {transaction : Transaction}
    (isOpen : (view store).transaction = some transaction) :
    (serve store .commit).1 = .ok () ∧
      (view (serve store .commit).2).db = transaction.apply (view store).db := by
  obtain ⟨choice, carried, back, ran⟩ := serves.bookkeeping store .commit rfl
  simp only [exec, isOpen, Choice.carryOut, carried, back, Bool.false_eq_true, if_false, Option.some.injEq,
    Prod.mk.injEq] at ran
  refine ⟨ran.1.symm, ?_⟩
  rw [← ran.2]

/-- The batch of a tick that starts here. -/
def batchOf (view : View) (batchSize : Nat) : List OutboxEvent :=
  OutboxRepository.claimBatch batchSize view.locked view.db

/-- What the transaction leaves of the rows. -/
structure Committed (context : DrainerContext) (outcome : OutboxEvent → Except Thrown Unit) (batch : List OutboxEvent)
    (before after : Table OutboxEvent) : Prop where
  others : ∀ row ∈ before.rows, row.id ∉ batch.map (·.id) → row ∈ after.rows
  marked : ∀ row ∈ batch, ∃ now, (verdict context outcome row).change now row ∈ after.rows

/-- The batch inside the transaction: every row has its mark, none is written yet. -/
theorem drainBatch_marks (serves : Serves serve view) (handles : ∀ row, Handles (dispatch row)) {store : Store}
    {batchSize : Nat}
    (came : ∀ earlier row rest, batchOf (view store) batchSize = earlier ++ row :: rest →
      marksBeforeInvoke row = false →
      (run serve (run serve (serve store (.claimBatch batchSize)).2 (drainRowsWith context dispatch earlier)).2
        (dispatch row)).1 = outcome row) :
    ∃ last transaction, run serve store (drainBatchWith context dispatch batchSize) =
        (.ok ((batchOf (view store) batchSize).length, (batchOf (view store) batchSize).filter marksBeforeInvoke), last) ∧
      (view last).transaction = some transaction ∧
      (transaction.marks.map fun marked => (marked.id, marked.mark)) =
        ((batchOf (view store) batchSize).map fun row => (row.id, verdict context outcome row)) ∧
      ∀ row ∈ (view store).db.outboxEvents.rows, row ∈ (view last).db.outboxEvents.rows := by
  obtain ⟨rows, opened⟩ := serve_claim serves store batchSize
  cases claimed : serve store (.claimBatch batchSize) with
  | mk answer first =>
    rw [claimed] at rows opened came
    dsimp only at rows opened came
    cases rows
    have stored : ∀ row ∈ batchOf (view store) batchSize, row ∈ (view first).db.outboxEvents.rows := fun row listed => by
      rw [opened]
      exact (claimed_iff listed).1
    obtain ⟨drained, added, marks, transaction, isOpen, still, kept⟩ :=
      drainRows_marks serves handles (opened ▸ rfl) stored came
    have asked : run serve store (perform (.claimBatch batchSize)) = (.ok (batchOf (view store) batchSize), first) :=
      claimed
    cases ended : run serve first (drainRowsWith context dispatch (batchOf (view store) batchSize)) with
    | mk answer last =>
      rw [ended] at drained still kept
      cases drained
      rw [opened] at isOpen kept
      cases isOpen
      refine ⟨last, _, ?_, still, marks, kept⟩
      rw [drainBatchWith, run_bind_ok serve asked, run_bind_ok serve ended]
      rfl

theorem transaction_commits (serves : Serves serve view) (handles : ∀ row, Handles (dispatch row)) {store : Store}
    {batchSize : Nat}
    (came : ∀ earlier row rest, batchOf (view store) batchSize = earlier ++ row :: rest →
      marksBeforeInvoke row = false →
      (run serve (run serve (serve store (.claimBatch batchSize)).2 (drainRowsWith context dispatch earlier)).2
        (dispatch row)).1 = outcome row) :
    (run serve store (transaction (drainBatchWith context dispatch batchSize))).1 =
        .ok ((batchOf (view store) batchSize).length, (batchOf (view store) batchSize).filter marksBeforeInvoke) ∧
      Committed context outcome (batchOf (view store) batchSize) (view store).db.outboxEvents
        (view (run serve store (transaction (drainBatchWith context dispatch batchSize))).2).db.outboxEvents := by
  obtain ⟨last, held, body, isOpen, marks, kept⟩ := drainBatch_marks serves handles came
  obtain ⟨committed, written⟩ := serve_commit serves isOpen
  have caught : run serve store (tryCatch (drainBatchWith context dispatch batchSize) fun thrown => do
      perform .rollback
      throw thrown) = (.ok ((batchOf (view store) batchSize).length,
        (batchOf (view store) batchSize).filter marksBeforeInvoke), last) := by
    rw [run_tryCatch, body]
  cases done : serve last .commit with
  | mk answer after =>
    rw [done] at committed written
    cases committed
    have commits : run serve last (perform .commit) = (.ok (), after) := done
    rw [Outbox.transaction, run_bind_ok serve caught, run_bind_ok serve commits]
    have ids : held.marks.map (·.id) = (batchOf (view store) batchSize).map (·.id) := by
      simpa [Function.comp_def] using congrArg (List.map Prod.fst) marks
    refine ⟨rfl, fun row here other => ?_, fun row listed => ?_⟩
    · rw [run_pure, written]
      exact mem_marks_other (kept row here) (by rwa [ids])
    · obtain ⟨marked, member, named⟩ := List.mem_map.mp (marks ▸ List.mem_map.mpr ⟨row, listed, rfl⟩ :
        (row.id, verdict context outcome row) ∈ held.marks.map fun marked => (marked.id, marked.mark))
      obtain ⟨sameId, sameMark⟩ := Prod.mk.inj named
      obtain ⟨here, free, _⟩ := claimed_iff listed
      rw [OutboxRepository.claimable, Bool.and_eq_true, Option.isNone_iff_eq_none, Option.isNone_iff_eq_none] at free
      refine ⟨marked.now, ?_⟩
      rw [run_pure, written, ← sameMark]
      refine mem_marks ?_ (kept row here) free.2 member sameId
      rw [ids]
      exact nodup_claimed _ _ _

end Phase

section Deferred

variable {Store : Type} {serve : Store → (request : Call) → Except Thrown request.Value × Store} {view : Store → View}
  {context : DrainerContext} {dispatch : OutboxEvent → Program Unit} {outcome : OutboxEvent → Except Thrown Unit}

/-- What a deferred handler leaves on its row, which is processed by then. -/
def aftermath (context : DrainerContext) (now : Date) (row : OutboxEvent) : Except Thrown Unit → OutboxEvent
  | .ok _ => row
  | .error thrown => { row with
      deferredFailedAt := some now
      lastError := some (utf16Prefix OutboxRepository.errorMaxChars (context.message thrown)) }

/-- A deferred handler does not itself write or delete the row. The one that redacts a shop
deletes the rows of the shop. -/
def Spared (serve : Store → (request : Call) → Except Thrown request.Value × Store) (view : Store → View)
    (context : DrainerContext) (dispatch : OutboxEvent → Program Unit) (store : Store) (rows : List OutboxEvent)
    (id : String) : Prop :=
  ∀ earlier row rest, rows = earlier ++ row :: rest →
    ∀ other ∈ (view (run serve store (runDeferredWith context dispatch earlier)).2).db.outboxEvents.rows, other.id = id →
      other ∈ (view (run serve (run serve store (runDeferredWith context dispatch earlier)).2
        (dispatch row)).2).db.outboxEvents.rows

/-- One deferred row: its handler, and the marker if that threw. -/
def deferredWith (context : DrainerContext) (dispatch : OutboxEvent → Program Unit) (row : OutboxEvent) : Program Unit :=
  tryCatch (dispatch row) fun thrown =>
    tryCatch (perform (.markDeferredFailed row.id (context.message thrown))) fun _ => return

theorem serve_markDeferredFailed (serves : Serves serve view) (store : Store) (id error : String) :
    ∃ now, ∀ row ∈ (view store).db.outboxEvents.rows,
      (if row.id = id then { row with
        deferredFailedAt := some now
        lastError := some (utf16Prefix OutboxRepository.errorMaxChars error) } else row) ∈
        (view (serve store (.markDeferredFailed id error)).2).db.outboxEvents.rows := by
  obtain ⟨choice, carried, back, ran⟩ := serves.bookkeeping store (.markDeferredFailed id error) rfl
  refine ⟨choice.now, fun row stored => ?_⟩
  unfold exec at ran
  dsimp only at ran
  split at ran
  · rename_i refusal refused
    obtain ⟨-, same⟩ := Prod.mk.inj (Option.some.inj ran)
    unfold OutboxRepository.markDeferredFailed OutboxRepository.update at refused
    split at refused
    · cases refused
    · rename_i absent
      rw [← same, if_neg fun named => absent (List.any_eq_true.mpr ⟨row, stored, by simp [named]⟩)]
      exact stored
  · rename_i db written
    obtain ⟨-, same⟩ := Prod.mk.inj (Option.some.inj ran)
    unfold OutboxRepository.markDeferredFailed OutboxRepository.update at written
    split at written
    · cases written
      have reached : (choice.carryOut (view store) _ ()).2 = _ := same
      rw [Choice.carryOut, if_neg (by simp [carried])] at reached
      rw [← reached]
      refine List.mem_map.mpr ⟨row, stored, ?_⟩
      split <;> simp_all
    · cases written

/-- The marker catches what it throws itself. -/
theorem deferredWith_accounts (serves : Serves serve view) {row : OutboxEvent} {store : Store}
    (came : (run serve store (dispatch row)).1 = outcome row) :
    (run serve store (deferredWith context dispatch row)).1 = .ok () ∧
      ∃ now, ∀ other ∈ (view store).db.outboxEvents.rows,
        other ∈ (view (run serve store (dispatch row)).2).db.outboxEvents.rows →
        (if other.id = row.id then aftermath context now other (outcome row) else other) ∈
          (view (run serve store (deferredWith context dispatch row)).2).db.outboxEvents.rows := by
  unfold deferredWith
  rw [run_tryCatch, ← came]
  cases ended : run serve store (dispatch row) with
  | mk answer after =>
    cases answer with
    | ok value =>
      refine ⟨rfl, 0, fun other _ kept => ?_⟩
      simpa [aftermath] using kept
    | error thrown =>
      obtain ⟨now, marked⟩ := serve_markDeferredFailed serves after row.id (context.message thrown)
      dsimp only [aftermath, perform]
      rw [run_tryCatch, run_perform]
      cases done : serve after (.markDeferredFailed row.id (context.message thrown)) with
      | mk answer last =>
        rw [done] at marked
        cases answer with
        | ok value => exact ⟨rfl, now, fun other _ kept => marked other kept⟩
        | error refusal => exact ⟨rfl, now, fun other _ kept => marked other kept⟩

/-- After the deferred handlers every row they spare is as its own handler left it. -/
theorem runDeferred_accounts (serves : Serves serve view) {rows : List OutboxEvent} (distinct : (rows.map (·.id)).Nodup)
    {store : Store}
    (came : ∀ earlier row rest, rows = earlier ++ row :: rest →
      (run serve (run serve store (runDeferredWith context dispatch earlier)).2 (dispatch row)).1 = outcome row) :
    (run serve store (runDeferredWith context dispatch rows)).1 = .ok () ∧
      ∀ stored ∈ (view store).db.outboxEvents.rows, Spared serve view context dispatch store rows stored.id →
        (stored.id ∉ rows.map (·.id) →
          stored ∈ (view (run serve store (runDeferredWith context dispatch rows)).2).db.outboxEvents.rows) ∧
        ∀ row ∈ rows, row.id = stored.id → ∃ now, aftermath context now stored (outcome row) ∈
          (view (run serve store (runDeferredWith context dispatch rows)).2).db.outboxEvents.rows := by
  induction rows generalizing store with
  | nil => exact ⟨rfl, fun stored here _ => ⟨fun _ => here, fun _ listed => nomatch listed⟩⟩
  | cons row rest ih =>
    rw [List.map_cons, List.nodup_cons] at distinct
    obtain ⟨caught, now, left⟩ := @deferredWith_accounts _ _ _ context _ _ serves row store (came [] row rest rfl)
    cases ended : run serve store (deferredWith context dispatch row) with
    | mk answer after =>
      rw [ended] at caught left
      cases caught
      have through (earlier : List OutboxEvent) :
          run serve store (runDeferredWith context dispatch (row :: earlier)) =
            run serve after (runDeferredWith context dispatch earlier) := run_bind_ok serve ended _
      obtain ⟨done, accounts⟩ := @ih distinct.2 after fun earlier other later split => by
        have came := came (row :: earlier) other later (by rw [split, List.cons_append])
        rwa [through] at came
      rw [through]
      refine ⟨done, fun stored here spared => ?_⟩
      have kept := left stored here (spared [] row rest rfl stored here rfl)
      have spares {changed : OutboxEvent} (same : changed.id = stored.id) :
          Spared serve view context dispatch after rest changed.id := fun earlier other later split => by
        have spared := spared (row :: earlier) other later (by rw [split, List.cons_append])
        rwa [through, ← same] at spared
      by_cases own : stored.id = row.id
      · rw [if_pos own] at kept
        have same : (aftermath context now stored (outcome row)).id = stored.id := by
          cases outcome row <;> rfl
        have later := (accounts _ kept (spares same)).1 (by rw [same, own]; exact distinct.1)
        refine ⟨fun absent => absurd (own ▸ List.mem_cons_self) absent, fun other listed named => ?_⟩
        rcases List.mem_cons.mp listed with rfl | listed
        · exact ⟨now, later⟩
        · exact absurd (List.mem_map.mpr ⟨other, listed, named.trans own⟩) distinct.1
      · rw [if_neg own] at kept
        obtain ⟨others, mine⟩ := accounts stored kept (spares rfl)
        refine ⟨fun absent => others fun later => absent (List.mem_cons_of_mem _ later), fun other listed named => ?_⟩
        rcases List.mem_cons.mp listed with rfl | listed
        · exact absurd named.symm own
        · exact mine other listed named

end Deferred

end WinBack.Outbox
