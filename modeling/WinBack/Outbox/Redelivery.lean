import WinBack.Outbox.Phases

/-! How often an event gets its generation, over every run of the drainer. -/

namespace WinBack.Outbox

open Library Script

section Commit

variable {db after : Db} {id : String} {marked : Marked} {marks : List Marked}

theorem present_of_unprocessed (member : id ∈ unprocessed db) : db.outboxEvents.any (·.id == id) = true := by
  obtain ⟨row, stored, named, _⟩ := mem_unprocessed.mp member
  refine List.any_eq_true.mpr ⟨row, stored, ?_⟩
  rw [named, beq_self_eq_true]

/-- What committing marks does to the store. -/
structure Settles (marks : List Marked) (db after : Db) : Prop where
  aiGenerations : after.aiGenerations = db.aiGenerations
  messages : after.messages = db.messages
  shrinks : ∀ id ∈ unprocessed after, id ∈ unprocessed db
  others : ∀ id, (∀ marked ∈ marks, marked.id ≠ id) → (id ∈ unprocessed after ↔ id ∈ unprocessed db)
  processed : ∀ marked ∈ marks, marked.mark = .processed → marked.id ∉ unprocessed after

theorem Settles.refl (db : Db) : Settles [] db db :=
  ⟨rfl, rfl, fun _ => id, fun _ _ => .rfl, nofun⟩

theorem Settles.apply (marked : Marked) (db : Db) : Settles [marked] db (marked.apply db) := by
  unfold Marked.apply
  cases written : marked.mark.write marked.id marked.now db with
  | error error =>
    refine ⟨rfl, rfl, fun _ => id, fun _ _ => .rfl, fun other listed processed member => ?_⟩
    obtain rfl := List.mem_singleton.mp listed
    have present : db.outboxEvents.any (·.id == other.id) = true := present_of_unprocessed member
    rw [processed, Mark.write, OutboxRepository.markProcessed, OutboxRepository.update, if_pos present] at written
    cases written
  | ok next =>
    obtain ⟨⟨outboxEvents, rfl⟩, own, others⟩ := unprocessed_write written
    refine ⟨rfl, rfl, fun other member => ?_, fun other apart => others other fun _ => ?_, fun other listed => ?_⟩
    · by_cases processed : marked.mark = .processed ∧ other = marked.id
      · exact absurd (processed.2 ▸ member) (own processed.1)
      · exact (others other fun is same => processed ⟨is, same⟩).mp member
    · exact (apart marked List.mem_cons_self).symm
    · obtain rfl := List.mem_singleton.mp listed
      exact own

theorem Settles.cons {middle : Db} (first : Settles [marked] db middle) (rest : Settles marks middle after) :
    Settles (marked :: marks) db after := by
  refine ⟨rest.aiGenerations.trans first.aiGenerations, rest.messages.trans first.messages,
    fun id member => first.shrinks id (rest.shrinks id member), fun id apart => ?_, fun other listed processed => ?_⟩
  · have here := first.others id fun other listed => apart other (List.mem_singleton.mp listed ▸ List.mem_cons_self)
    exact (rest.others id fun other listed => apart other (List.mem_cons_of_mem _ listed)).trans here
  · rcases List.mem_cons.mp listed with rfl | later
    · exact fun member => first.processed other List.mem_cons_self processed (rest.shrinks _ member)
    · exact rest.processed other later processed

theorem Transaction.settles (transaction : Transaction) (db : Db) :
    Settles transaction.marks db (transaction.apply db) := by
  unfold Transaction.apply
  induction transaction.marks generalizing db with
  | nil => exact .refl db
  | cons marked rest ih => exact (Settles.apply marked db).cons (ih (marked.apply db))

end Commit

section Condition

/-- The call commits the two rows of a generation. -/
def creates (view : View) (choice : Choice) : Call → Bool
  | .createGeneration _ merchantId customerId args => !choice.fails &&
    (createGeneration merchantId customerId (args choice.generationId choice.messageId) choice.now view.db).toBool
  | _ => false

/-- The rows of a generation are committed inside the drain transaction that claimed the
event, with the answer coming back; no call fails between them and the processed mark of the
event; and the transaction is neither rolled back, aborted nor lost before its commit. -/
def delivers (view : View) (phase : Phase) (choice : Choice) (request : Call) : Bool :=
  (!creates view choice request || view.transaction.isSome && !choice.lost) &&
  (phase.unmarked.isNone || !choice.fails && !choice.lost) &&
  (phase.created.isEmpty || match request with
    | .rollback => false
    | .commit => !choice.fails
    | .mark _ _ => !(choice.fails && choice.closes)
    | _ => true)

/-- A tick that has created a generation does not lose its transaction either. -/
def delivered (world : World Phase) : Label → Bool
  | .act slot choice => (world.ticks.task? slot).all fun tick =>
    tick.task.pending?.all fun request => delivers (world.view slot tick) tick.task.phase choice request
  | .expire slot | .crash slot => (world.ticks.task? slot).all fun tick => tick.task.phase.created.isEmpty
  | _ => true

end Condition

section Call

/-- What an open transaction guards. -/
structure Holding (db : Db) (phase : Phase) (transaction : Transaction) : Prop where
  locked : ∀ id ∈ transaction.claimed, id ∈ unprocessed db
  claimed : ∀ id ∈ phase.claimed, id ∈ transaction.claimed
  created : ∀ id ∈ phase.created, id ∈ transaction.claimed
  own : ∀ marked ∈ transaction.marks, marked.id ∈ transaction.claimed
  marked : ∀ id ∈ phase.created, phase.unmarked = some id ∨
    ∃ marked ∈ transaction.marks, marked.id = id ∧ marked.mark = .processed

/-- A tick with a generation that is not settled yet still has its transaction. -/
structure Steady (db : Db) (transaction : Option Transaction) (phase : Phase) : Prop where
  clean : phase.spoiled = false
  unmarked : ∀ id ∈ phase.unmarked, id ∈ phase.created
  held : ∀ current ∈ transaction, Holding db phase current
  closed : transaction = none → phase.created = []

def held (transaction : Option Transaction) : List String := transaction.elim [] (·.claimed)

/-- What a call adds to the history. -/
inductive History (view next : View) (before after : Phase) : Prop where
  | kept (created : next.created = view.created) (aiGenerations : next.db.aiGenerations = view.db.aiGenerations)
      (messages : next.db.messages = view.db.messages)
      (settled : ∀ id ∈ before.created, id ∈ unprocessed next.db → id ∈ after.created)
  | extended (creation : Creation) (generation : AiGeneration) (message : Message)
      (claimed : creation.eventId ∈ held view.transaction) (new : creation.eventId ∉ before.created)
      (created : next.created = view.created ++ [creation]) (phase : after.created = creation.eventId :: before.created)
      (aiGenerations : next.db.aiGenerations.rows = view.db.aiGenerations.rows ++ [generation])
      (messages : next.db.messages.rows = view.db.messages.rows ++ [message])
      (generationId : generation.id = creation.generationId) (messageId : message.id = creation.messageId)
      (aiGenerationId : message.aiGenerationId = creation.generationId)

/-- What one call of a tick does to what the ticks share. -/
structure Called (view next : View) (before after : Phase) : Prop where
  steady : Steady next.db next.transaction after
  claims : ∀ id ∈ held next.transaction, id ∈ held view.transaction ∨ id ∉ view.locked
  others : ∀ id, id ∉ held view.transaction → (id ∈ unprocessed next.db ↔ id ∈ unprocessed view.db)
  shrinks : ∀ id ∈ unprocessed next.db, id ∈ unprocessed view.db
  history : History view next before after

variable {view next : View} {phase after : Phase} {request : Call} {choice : Choice} {db : Db}
  {transaction : Transaction}

/-- The generations of a call: those of before, and those of the history it leaves. -/
theorem History.aiGenerations (history : History view next phase after) {row : AiGeneration}
    (stored : row ∈ next.db.aiGenerations.rows) :
    (row ∈ view.db.aiGenerations.rows ∨ ∃ creation ∈ next.created, creation.generationId = row.id) := by
  cases history with
  | kept _ aiGenerations => exact .inl (aiGenerations ▸ stored)
  | extended fresh generation _ _ _ created _ aiGenerations _ generationId =>
    rcases List.mem_append.mp (aiGenerations ▸ stored) with old | new
    · exact .inl old
    · obtain rfl := List.mem_singleton.mp new
      exact .inr ⟨fresh, created ▸ List.mem_append_right _ (List.mem_singleton_self _), generationId.symm⟩

theorem History.messages (history : History view next phase after) {row : Message}
    (stored : row ∈ next.db.messages.rows) :
    (row ∈ view.db.messages.rows ∨
      ∃ creation ∈ next.created, creation.messageId = row.id ∧ creation.generationId = row.aiGenerationId) := by
  cases history with
  | kept _ _ messages => exact .inl (messages ▸ stored)
  | extended fresh _ message _ _ created _ _ messages _ messageId aiGenerationId =>
    rcases List.mem_append.mp (messages ▸ stored) with old | new
    · exact .inl old
    · obtain rfl := List.mem_singleton.mp new
      exact .inr ⟨fresh, created ▸ List.mem_append_right _ (List.mem_singleton_self _), messageId.symm,
        aiGenerationId.symm⟩

/-- A call forgets nothing of the history. -/
theorem History.mono (history : History view next phase after) {creation : Creation}
    (listed : creation ∈ view.created) : creation ∈ next.created := by
  cases history with
  | kept created => exact created ▸ listed
  | extended _ _ _ _ _ created => exact created ▸ List.mem_append_left _ listed

/-- The tables that the drainer's history is about. -/
structure Same (db after : Db) : Prop where
  aiGenerations : after.aiGenerations = db.aiGenerations
  messages : after.messages = db.messages
  unprocessed : unprocessed after = unprocessed db

theorem Same.refl (db : Db) : Same db db := ⟨rfl, rfl, rfl⟩

theorem Steady.congr {transaction : Option Transaction} {after : Db} (steady : Steady db transaction phase)
    (same : unprocessed after = unprocessed db) : Steady after transaction phase :=
  ⟨steady.clean, steady.unmarked, fun current present =>
    { steady.held current present with locked := fun id claimed => same ▸ (steady.held current present).locked id claimed },
    steady.closed⟩

/-- A call that only writes elsewhere. -/
theorem Called.of_same (steady : Steady view.db view.transaction phase) (same : Same view.db next.db)
    (transaction : next.transaction = view.transaction) (created : next.created = view.created) :
    Called view next phase phase where
  steady := transaction ▸ steady.congr same.unprocessed
  claims _ held := .inl (transaction ▸ held)
  others _ _ := .of_eq (congrArg (_ ∈ ·) same.unprocessed)
  shrinks _ member := same.unprocessed ▸ member
  history := .kept created same.aiGenerations same.messages fun _ member _ => member

theorem Called.stays (steady : Steady view.db view.transaction phase) : Called view view phase phase :=
  .of_same steady (.refl _) rfl rfl

theorem Choice.carryOut_same {Result : Type} {reached : View} {result : Result} {answer : Except Thrown Result}
    (ran : choice.carryOut view next result = (answer, reached)) (same : Same view.db next.db)
    (transaction : next.transaction = view.transaction) (created : next.created = view.created) :
    Same view.db reached.db ∧ reached.transaction = view.transaction ∧ reached.created = view.created := by
  rcases carryOut_cases ran with ⟨_, _, rfl⟩ | ⟨_, _, _, rfl⟩ | ⟨_, _, _, rfl⟩
  · exact ⟨.refl _, rfl, rfl⟩
  · exact ⟨same, transaction, created⟩
  · exact ⟨same, transaction, created⟩

theorem exec_quiet {answer : Except Thrown request.Value} (quiet : request.quiet = true)
    (ran : exec view request choice = some (answer, next)) :
    Same view.db next.db ∧ next.transaction = view.transaction ∧ next.created = view.created := by
  cases request with
  | query read => exact Choice.carryOut_same (Option.some.inj ran) (.refl _) rfl rfl
  | clock =>
    cases ran
    exact ⟨.refl _, rfl, rfl⟩
  | incrementAndCheck merchantId capPerHour => exact Choice.carryOut_same (Option.some.inj ran) (.refl _) rfl rfl
  | findRecentPurchasedTitles merchantId customerId =>
    exact Choice.carryOut_same (Option.some.inj ran) (.refl _) rfl rfl
  | appendAudit row => exact Choice.carryOut_same (Option.some.inj ran) ⟨rfl, rfl, rfl⟩ rfl rfl
  | process topic merchantId shop payload =>
    cases ran
    exact ⟨.refl _, rfl, rfl⟩
  | handled row =>
    cases ran
    exact ⟨.refl _, rfl, rfl⟩
  | markDeferredFailed id error =>
    simp only [exec] at ran
    split at ran
    · cases ran
      exact ⟨.refl _, rfl, rfl⟩
    · rename_i db written
      refine Choice.carryOut_same (Option.some.inj ran) ?_ rfl rfl
      unfold OutboxRepository.markDeferredFailed OutboxRepository.update at written
      split at written
      · cases written
        exact ⟨rfl, rfl, unprocessed_congr rfl fun _ => ⟨rfl, rfl⟩⟩
      · cases written
  | createGeneration | enqueue | claimBatch | mark | commit | rollback => exact absurd quiet Bool.false_ne_true

theorem Steady.idle_of_closed {transaction : Option Transaction} (steady : Steady db transaction phase)
    (closed : transaction = none) : phase.unmarked = none := by
  refine Option.eq_none_iff_forall_not_mem.mpr fun id unmarked => ?_
  have listed := steady.unmarked id unmarked
  rw [steady.closed closed] at listed
  cases listed

/-- Once nothing is left to settle a transaction may end any way. -/
theorem Steady.over {transaction : Option Transaction} (steady : Steady db transaction phase)
    (none_created : phase.created = []) : Steady db none phase where
  clean := steady.clean
  unmarked := steady.unmarked
  held := nofun
  closed _ := none_created

theorem Steady.done {transaction : Option Transaction} (steady : Steady view.db transaction phase) (after : Db) :
    Steady after none { spoiled := phase.spoiled } :=
  ⟨steady.clean, nofun, nofun, fun _ => rfl⟩

/-- A transaction that created nothing ends without a write. -/
theorem Called.abandons (steady : Steady view.db view.transaction phase) (none_created : phase.created = []) :
    Called view { view with transaction := none } phase phase where
  steady := steady.over none_created
  claims := nofun
  others _ _ := .rfl
  shrinks _ := id
  history := .kept rfl rfl rfl fun _ member _ => member

theorem Called.closes (steady : Steady view.db view.transaction phase) (none_created : phase.created = []) :
    Called view { view with transaction := none } phase { spoiled := phase.spoiled } where
  steady := steady.done view.db
  claims := nofun
  others _ _ := .rfl
  shrinks _ := id
  history := .kept rfl rfl rfl fun _ member _ => by simp [none_created] at member

theorem called_create {eventId : String} {merchantId : MerchantId} {customerId : CustomerId}
    {args : String → MessageId → GenerationArgs} {answer : Except Thrown String}
    (steady : Steady view.db view.transaction phase)
    (allowed : phase.allows (.createGeneration eventId merchantId customerId args))
    (safe : delivers view phase choice (.createGeneration eventId merchantId customerId args) = true)
    (ran : exec view (.createGeneration eventId merchantId customerId args) choice = some (answer, next)) :
    Called view next phase (phase.next (.createGeneration eventId merchantId customerId args) answer) := by
  obtain ⟨idle, mine, new, named⟩ := allowed
  have stays (thrown : Thrown) : Called view view phase
      (phase.next (.createGeneration eventId merchantId customerId args) (.error thrown)) := by
    rw [show phase.next (.createGeneration eventId merchantId customerId args) (.error thrown) = phase from
      Phase.fail_idle idle]
    exact .stays steady
  simp only [exec] at ran
  split at ran
  · cases ran
    exact stays _
  · rename_i db created
    rcases Choice.carryOut_cases (Option.some.inj ran) with ⟨_, rfl, rfl⟩ | ⟨carried, lost, _, _⟩ | ⟨carried, _, rfl, rfl⟩
    · exact stays _
    · simp [delivers, creates, carried, created, lost, Except.toBool] at safe
    · obtain ⟨aiGenerations, messages, generated, drafted, rfl⟩ := createGeneration_ok created
      have isOpen : view.transaction.isSome = true := by
        simp only [delivers, creates, carried, created, Except.toBool, Bool.and_eq_true, Bool.not_false,
          Bool.true_and, Bool.not_true, Bool.false_or] at safe
        exact safe.1.1.1
      obtain ⟨transaction, present⟩ := Option.isSome_iff_exists.mp isOpen
      have holding := steady.held transaction present
      have claimed := holding.claimed eventId mine
      refine ⟨⟨steady.clean, ?_, ?_, ?_⟩, fun _ => .inl, fun _ _ => .rfl, fun _ => id, ?_⟩
      · intro id unmarked
        cases unmarked
        exact List.mem_cons_self
      · intro current held
        have same : current = transaction := Option.some.inj (held.symm.trans present)
        subst same
        refine ⟨holding.locked, holding.claimed, fun id listed => ?_, holding.own, fun id listed => ?_⟩
        · rcases List.mem_cons.mp listed with rfl | old
          · exact claimed
          · exact holding.created id old
        · rcases List.mem_cons.mp listed with rfl | old
          · exact .inl rfl
          · refine .inr ((holding.marked id old).resolve_left fun unmarked => ?_)
            rw [idle] at unmarked
            cases unmarked
      · intro closed
        exact absurd (closed.symm.trans present) nofun
      · refine .extended ⟨eventId, choice.generationId, choice.messageId⟩ _ _ ?_ new rfl rfl
          (Table.insert?_rows generated).1 (Table.insert?_rows drafted).1 ?_ ?_ ?_
        · rw [held, present]
          exact claimed
        · exact (named _ _).1
        · exact (named _ _).2
        · exact (named _ _).1

theorem called_enqueue {payload : Generation.AiGenerateJobPayload} {answer : Except Thrown Unit}
    (steady : Steady view.db view.transaction phase)
    (safe : delivers view phase choice (.enqueue payload) = true)
    (ran : exec view (.enqueue payload) choice = some (answer, next)) :
    Called view next phase (phase.next (.enqueue payload) answer) := by
  have ⟨same, transaction, created⟩ : Same view.db next.db ∧ next.transaction = view.transaction ∧
      next.created = view.created := Choice.carryOut_same (Option.some.inj ran) (.refl _) rfl rfl
  have unmoved : phase.next (.enqueue payload) answer = phase := by
    cases answer with
    | ok value => rfl
    | error thrown =>
      refine Phase.fail_idle ?_
      rcases Choice.carryOut_cases (Option.some.inj ran) with ⟨fails, _, _⟩ | ⟨_, lost, _, _⟩ | ⟨_, _, back, _⟩
      · simpa [delivers, creates, fails] using safe
      · simpa [delivers, creates, lost] using safe
      · cases back
  rw [unmoved]
  exact .of_same steady same transaction created

theorem called_claim {limit : Nat} {answer : Except Thrown (List OutboxEvent)}
    (steady : Steady view.db view.transaction phase) (allowed : phase.allows (.claimBatch limit))
    (ran : exec view (.claimBatch limit) choice = some (answer, next)) :
    Called view next phase (phase.next (.claimBatch limit) answer) := by
  cases (allowed : phase = {})
  have claims : ∀ id ∈ (OutboxRepository.claimBatch limit view.locked view.db).map (·.id),
      id ∈ unprocessed view.db ∧ id ∉ view.locked := by
    intro id listed
    obtain ⟨row, member, rfl⟩ := List.mem_map.mp listed
    exact ⟨unprocessed_of_claimed member, (claimed_iff member).2.2⟩
  have opened (phase : Phase) (clean : phase.spoiled = false) (created : phase.created = [])
      (unmarked : phase.unmarked = none)
      (claimed : ∀ id ∈ phase.claimed, id ∈ (OutboxRepository.claimBatch limit view.locked view.db).map (·.id)) :
      Called view { view with
        transaction := some { claimed := (OutboxRepository.claimBatch limit view.locked view.db).map (·.id) } }
        {} phase := by
    refine ⟨⟨clean, ?_, ?_, nofun⟩, fun id listed => .inr (claims id listed).2, fun _ _ => .rfl, fun _ => id,
      .kept rfl rfl rfl nofun⟩
    · rw [unmarked]
      exact nofun
    · intro current held
      cases held
      refine ⟨fun id listed => (claims id listed).1, claimed, ?_, nofun, ?_⟩
      · rw [created]
        exact nofun
      · rw [created]
        exact nofun
  rcases Choice.carryOut_cases (Option.some.inj ran) with ⟨_, rfl, rfl⟩ | ⟨_, _, rfl, rfl⟩ | ⟨_, _, rfl, rfl⟩
  · exact .stays steady
  · exact opened {} rfl rfl rfl nofun
  · refine opened _ ?_ rfl rfl fun _ => id
    simp [Phase.next, nodup_claimed limit view.locked view.db]

/-- A mark is added behind the ones of the transaction. -/
theorem Holding.snoc (holding : Holding db phase transaction) (marked : Marked) (mine : marked.id ∈ transaction.claimed)
    (claimed : after.claimed = phase.claimed) (created : after.created = phase.created)
    (settles : ∀ id, phase.unmarked = some id → after.unmarked = some id ∨ marked.id = id ∧ marked.mark = .processed) :
    Holding db after { transaction with marks := transaction.marks ++ [marked] } where
  locked := holding.locked
  claimed := claimed ▸ holding.claimed
  created := created ▸ holding.created
  own other listed := by
    rcases List.mem_append.mp listed with old | fresh
    · exact holding.own other old
    · exact List.mem_singleton.mp fresh ▸ mine
  marked id listed := by
    rcases holding.marked id (created ▸ listed) with unmarked | ⟨other, old, named⟩
    · rcases settles id unmarked with still | settled
      · exact .inl still
      · exact .inr ⟨marked, List.mem_append_right _ (List.mem_singleton_self _), settled⟩
    · exact .inr ⟨other, List.mem_append_left _ old, named⟩

/-- The processed mark of an event closes its gap; other marks come outside every gap. -/
theorem Phase.next_mark {rowId : String} {mark : Mark} (allowed : phase.allows (.mark rowId mark)) :
    rowId ∈ phase.claimed ∧ (phase.next (.mark rowId mark) (.ok ())).claimed = phase.claimed ∧
      (phase.next (.mark rowId mark) (.ok ())).created = phase.created ∧
      (phase.next (.mark rowId mark) (.ok ())).spoiled = phase.spoiled ∧
      (∀ id, (phase.next (.mark rowId mark) (.ok ())).unmarked = some id → phase.unmarked = some id) ∧
      ∀ id, phase.unmarked = some id → rowId = id ∧ mark = .processed := by
  cases mark with
  | processed => exact ⟨allowed.1, rfl, rfl, rfl, nofun, fun id unmarked => ⟨(allowed.2 id unmarked).symm, rfl⟩⟩
  | failed error | deadLettered error =>
    exact ⟨allowed.1, rfl, rfl, rfl, fun _ same => same, fun id unmarked => absurd (allowed.2.symm.trans unmarked) nofun⟩

theorem called_mark {rowId : String} {mark : Mark} {answer : Except Thrown Unit}
    (steady : Steady view.db view.transaction phase) (allowed : phase.allows (.mark rowId mark))
    (safe : delivers view phase choice (.mark rowId mark) = true)
    (ran : exec view (.mark rowId mark) choice = some (answer, next)) :
    Called view next phase (phase.next (.mark rowId mark) answer) := by
  obtain ⟨mine, claimed, created, clean, narrows, settles⟩ := Phase.next_mark allowed
  simp only [exec] at ran
  split at ran
  · rename_i closed
    cases ran
    rw [Phase.next_mark_error (steady.idle_of_closed closed)]
    exact .stays steady
  · rename_i transaction present
    have holding := steady.held transaction present
    have marks (reached : Phase) (sameClaimed : reached.claimed = phase.claimed)
        (sameCreated : reached.created = phase.created) (stillClean : reached.spoiled = phase.spoiled)
        (fewer : ∀ id, reached.unmarked = some id → phase.unmarked = some id) :
        Called view { view with
          transaction := some { transaction with
            marks := transaction.marks ++ [⟨rowId, mark, choice.now⟩] } } phase reached := by
      refine ⟨⟨stillClean.trans steady.clean, ?_, ?_, nofun⟩, fun id listed => .inl ?_, fun _ _ => .rfl,
        fun _ => id, .kept rfl rfl rfl fun id listed _ => sameCreated ▸ listed⟩
      · intro id unmarked
        exact sameCreated ▸ steady.unmarked id (fewer id unmarked)
      · intro current held
        cases held
        exact holding.snoc ⟨rowId, mark, choice.now⟩ (holding.claimed rowId mine) sameClaimed sameCreated
          fun id unmarked => .inr (settles id unmarked)
      · rw [held, present]
        exact listed
    simp only [delivers, creates, Bool.not_false, Bool.true_or, Bool.true_and, Bool.and_eq_true, Bool.or_eq_true,
      Option.isNone_iff_eq_none, List.isEmpty_iff] at safe
    obtain ⟨gap, kept⟩ := safe
    split at ran
    · rcases Choice.carryOut_cases (Option.some.inj ran) with ⟨fails, rfl, rfl⟩ | ⟨_, lost, rfl, rfl⟩ | ⟨_, _, rfl, rfl⟩
      · have idle : phase.unmarked = none := gap.resolve_right (by simp [fails])
        rw [Phase.next_mark_error idle]
        split
        · rename_i closes
          exact .abandons steady (kept.resolve_right (by simp [fails, closes]))
        · exact .stays steady
      · have idle : phase.unmarked = none := gap.resolve_right (by simp [lost])
        rw [Phase.next_mark_error idle]
        exact marks phase rfl rfl rfl fun _ same => same
      · exact marks _ claimed created clean narrows
    · rename_i missing
      cases ran
      exact absurd (present_of_unprocessed (holding.locked rowId (holding.claimed rowId mine))) missing

theorem called_commit {answer : Except Thrown Unit} (steady : Steady view.db view.transaction phase)
    (allowed : phase.allows .commit) (safe : delivers view phase choice .commit = true)
    (ran : exec view .commit choice = some (answer, next)) :
    Called view next phase (phase.next .commit answer) := by
  have idle : phase.unmarked = none := allowed
  simp only [exec] at ran
  split at ran
  · rename_i closed
    cases ran
    have closes := Called.closes steady (steady.closed closed)
    rw [← closed] at closes
    exact closes
  · rename_i transaction present
    have holding := steady.held transaction present
    have settles := transaction.settles view.db
    have commits : Called view { view with
        db := transaction.apply view.db
        transaction := none } phase { spoiled := phase.spoiled } := by
      refine ⟨steady.done _, nofun, fun id apart => settles.others id ?_, settles.shrinks,
        .kept rfl settles.aiGenerations settles.messages fun id listed member => ?_⟩
      · intro marked listed same
        refine apart ?_
        rw [held, present]
        exact same ▸ holding.own marked listed
      · rcases holding.marked id listed with unmarked | ⟨marked, present, rfl, processed⟩
        · exact absurd (idle.symm.trans unmarked) nofun
        · exact absurd member (settles.processed marked present processed)
    rcases Choice.carryOut_cases (Option.some.inj ran) with ⟨fails, rfl, rfl⟩ | ⟨_, _, rfl, rfl⟩ | ⟨_, _, rfl, rfl⟩
    · refine .closes steady ?_
      simpa [delivers, creates, fails, idle] using safe
    · exact commits
    · exact commits

/-- What a call of a tick does, in a run in which generations are delivered. -/
theorem called_of_exec {answer : Except Thrown request.Value} (steady : Steady view.db view.transaction phase)
    (allowed : discipline.allowed phase request) (safe : delivers view phase choice request = true)
    (ran : exec view request choice = some (answer, next)) :
    Called view next phase (discipline.next phase request answer) := by
  have allowed : phase.allows request := allowed.resolve_left (by simp [steady.clean])
  have quietly (quiet : request.quiet = true) (idle : phase.unmarked = none) :
      Called view next phase (phase.next request answer) := by
    obtain ⟨same, transaction, created⟩ := exec_quiet quiet ran
    rw [Phase.next_quiet quiet idle]
    exact .of_same steady same transaction created
  cases request with
  | createGeneration eventId merchantId customerId args => exact called_create steady allowed safe ran
  | enqueue payload => exact called_enqueue steady safe ran
  | claimBatch limit => exact called_claim steady allowed ran
  | mark id mark => exact called_mark steady allowed safe ran
  | commit => exact called_commit steady allowed safe ran
  | rollback =>
    cases ran
    refine .closes steady ?_
    simpa [delivers, creates] using And.right (Bool.and_eq_true_iff.mp safe)
  | query | clock | incrementAndCheck | findRecentPurchasedTitles | appendAudit | process | handled
  | markDeferredFailed => exact quietly rfl allowed

end Call

section Run

/-- The drainer with its history. -/
abbrev drainer (context : DrainerContext) : Machine (World Phase) Label := machine discipline {} context

/-- Nothing has run yet. -/
structure Idle (world : World Phase) : Prop where
  ticks : world.ticks = []
  created : world.created = []

/-- At most one generation, with one message, was ever created for an event; every row that
was not there at the start is one of these. -/
structure CreatedOnce (start world : World Phase) : Prop where
  once : ∀ eventId, (world.created.filter (·.eventId == eventId)).length ≤ 1
  aiGenerations : ∀ row ∈ world.db.aiGenerations.rows, start.db.aiGenerations.any (·.id == row.id) = true ∨
    ∃ creation ∈ world.created, creation.generationId = row.id
  messages : ∀ row ∈ world.db.messages.rows,
    (start.db.messages.any fun old => old.id == row.id && old.aiGenerationId == row.aiGenerationId) = true ∨
      ∃ creation ∈ world.created, creation.messageId = row.id ∧ creation.generationId = row.aiGenerationId

/-- Ticks lock different rows, and an event with a generation is processed or settled by the
tick that created it. -/
structure Guarded (start world : World Phase) : Prop where
  follows : ∀ {slot tick}, world.ticks.task? slot = some tick → tick.task.Follows discipline fun _ _ => True
  steady : ∀ {slot tick}, world.ticks.task? slot = some tick → Steady world.db tick.transaction tick.task.phase
  apart : ∀ {slot away tick other}, world.ticks.task? slot = some tick → world.ticks.task? away = some other →
    slot ≠ away → ∀ id ∈ tick.claimed, id ∉ other.claimed
  settled : ∀ creation ∈ world.created, creation.eventId ∈ unprocessed world.db →
    ∃ slot tick, world.ticks.task? slot = some tick ∧ creation.eventId ∈ tick.task.phase.created
  once : (world.created.map (·.eventId)).Nodup
  aiGenerations : ∀ row ∈ world.db.aiGenerations.rows, start.db.aiGenerations.any (·.id == row.id) = true ∨
    ∃ creation ∈ world.created, creation.generationId = row.id
  messages : ∀ row ∈ world.db.messages.rows,
    (start.db.messages.any fun old => old.id == row.id && old.aiGenerationId == row.aiGenerationId) = true ∨
      ∃ creation ∈ world.created, creation.messageId = row.id ∧ creation.generationId = row.aiGenerationId

variable {context : DrainerContext} {start world next : World Phase} {slot : Nat} {tick moved : Tick Phase} {label : Label}
  {view : View} {after : Phase}

theorem Idle.guarded (idle : Idle start) : Guarded start start := by
  have noTick : ∀ slot, start.ticks.task? slot = none := fun slot => by rw [idle.ticks]; rfl
  refine ⟨fun live => ?_, fun live => ?_, fun live => ?_, ?_, ?_, fun row stored => .inl ?_, fun row stored => .inl ?_⟩
  · exact absurd ((noTick _).symm.trans live) nofun
  · exact absurd ((noTick _).symm.trans live) nofun
  · exact absurd ((noTick _).symm.trans live) nofun
  · rw [idle.created]
    exact nofun
  · rw [idle.created]
    exact List.nodup_nil
  · exact List.any_eq_true.mpr ⟨row, stored, beq_self_eq_true _⟩
  · exact List.any_eq_true.mpr ⟨row, stored, by simp⟩

theorem Guarded.createdOnce (guarded : Guarded start world) : CreatedOnce start world where
  once eventId := by
    have counted := List.nodup_iff_count_le_one.mp guarded.once eventId
    rw [List.count, List.countP_map, List.countP_eq_length_filter] at counted
    exact counted
  aiGenerations := guarded.aiGenerations
  messages := guarded.messages

/-- A generation that is still to be settled is behind the locks of its tick. -/
theorem Steady.created_claimed {db : Db} (steady : Steady db tick.transaction tick.task.phase) {id : String}
    (listed : id ∈ tick.task.phase.created) : id ∈ tick.claimed := by
  cases present : tick.transaction with
  | none =>
    rw [steady.closed present] at listed
    cases listed
  | some transaction =>
    rw [Tick.claimed, present]
    exact (steady.held transaction present).created id listed

theorem Steady.claimed_unprocessed {db : Db} (steady : Steady db tick.transaction tick.task.phase) {id : String}
    (claimed : id ∈ tick.claimed) : id ∈ unprocessed db := by
  cases present : tick.transaction with
  | none =>
    rw [Tick.claimed, present] at claimed
    cases claimed
  | some transaction =>
    rw [Tick.claimed, present] at claimed
    exact (steady.held transaction present).locked id claimed

/-- A store in which the locked rows are still unprocessed. -/
theorem Steady.frame {db after : Db} (steady : Steady db tick.transaction tick.task.phase)
    (kept : ∀ id ∈ tick.claimed, id ∈ unprocessed after) : Steady after tick.transaction tick.task.phase where
  clean := steady.clean
  unmarked := steady.unmarked
  held transaction present := { steady.held transaction present with
    locked := fun id claimed => kept id (by rwa [Tick.claimed, present]) }
  closed := steady.closed

/-- An event that gets a generation had none. -/
theorem Guarded.new (guarded : Guarded start world) (live : world.ticks.task? slot = some tick) {eventId : String}
    (claimed : eventId ∈ tick.claimed) (new : eventId ∉ tick.task.phase.created) :
    eventId ∉ world.created.map (·.eventId) := by
  intro listed
  obtain ⟨creation, member, rfl⟩ := List.mem_map.mp listed
  obtain ⟨away, other, there, created⟩ :=
    guarded.settled creation member ((guarded.steady live).claimed_unprocessed claimed)
  by_cases same : slot = away
  · subst same
    cases Option.some.inj (live.symm.trans there)
    exact new created
  · exact guarded.apart live there same _ claimed ((guarded.steady there).created_claimed created)

/-- What a tick may hold after its call was its own or no other's. -/
theorem Guarded.unshared (guarded : Guarded start world) (live : world.ticks.task? slot = some tick)
    (called : Called (world.view slot tick) view tick.task.phase after) {away : Nat} {other : Tick Phase}
    (apart : slot ≠ away) (found : world.ticks.task? away = some other) :
    ∀ id ∈ held view.transaction, id ∉ other.claimed := by
  intro id claimed listed
  rcases called.claims id claimed with mine | free
  · exact guarded.apart live found apart id mine listed
  · exact free (mem_locked.mpr ⟨away, other, (Pool.task?_clear_other apart).trans found, listed⟩)

/-- An event of the history is settled, or its tick has not moved on. -/
theorem Guarded.still (guarded : Guarded start world) (live : world.ticks.task? slot = some tick) {creation : Creation}
    (listed : creation ∈ world.created)
    (member : creation.eventId ∈ unprocessed world.db)
    (carried : creation.eventId ∈ tick.task.phase.created → creation.eventId ∈ moved.task.phase.created) :
    ∃ away found, (world.ticks.put slot moved).task? away = some found ∧
      creation.eventId ∈ found.task.phase.created := by
  obtain ⟨away, other, found, created⟩ := guarded.settled creation listed member
  by_cases same : slot = away
  · subst same
    cases Option.some.inj (live.symm.trans found)
    exact ⟨slot, moved, Pool.task?_put (Pool.task?_lt live), carried created⟩
  · exact ⟨away, other, (Pool.task?_put_other same).trans found, created⟩

/-- The history after a call: every event of it is processed, or a tick has still to settle it. -/
theorem Guarded.settled_called (guarded : Guarded start world) (live : world.ticks.task? slot = some tick)
    (called : Called (world.view slot tick) view tick.task.phase moved.task.phase)
    {creation : Creation} (listed : creation ∈ view.created) (member : creation.eventId ∈ unprocessed view.db) :
    ∃ away found, (world.ticks.put slot moved).task? away = some found ∧
      creation.eventId ∈ found.task.phase.created := by
  cases called.history with
  | kept created _ _ settled =>
    rw [created] at listed
    exact guarded.still live listed (called.shrinks _ member) fun mine => settled _ mine member
  | extended fresh _ _ _ _ created phase =>
    rw [created] at listed
    rcases List.mem_append.mp listed with old | new
    · exact guarded.still live old (called.shrinks _ member) fun mine => phase ▸ List.mem_cons_of_mem _ mine
    · obtain rfl := List.mem_singleton.mp new
      exact ⟨slot, moved, Pool.task?_put (Pool.task?_lt live), phase ▸ List.mem_cons_self⟩

theorem Guarded.once_called (guarded : Guarded start world) (live : world.ticks.task? slot = some tick)
    (called : Called (world.view slot tick) view tick.task.phase after) :
    (view.created.map (·.eventId)).Nodup := by
  cases called.history with
  | kept created => exact created ▸ guarded.once
  | extended fresh _ _ claimed new created =>
    rw [created, List.map_append, List.map_singleton]
    have apart := guarded.new live claimed new
    refine List.nodup_append.mpr ⟨guarded.once, List.nodup_singleton _, fun id listed other single same => ?_⟩
    rw [List.mem_singleton.mp single] at same
    exact apart (same ▸ listed)

theorem Guarded.act (guarded : Guarded start world) {choice : Choice}
    (safe : delivered world (.act slot choice) = true) (moved : world.act discipline slot choice = some next) :
    Guarded start next := by
  obtain ⟨tick, live, moved⟩ := Option.bind_eq_some_iff.mp moved
  obtain ⟨⟨view, task⟩, advanced, rfl⟩ := Option.map_eq_some_iff.mp moved
  obtain ⟨request, answer, pending, allowed, executed, _, phase, follows⟩ :=
    Task.Follows.advance (guarded.follows live) advanced
  have safe : delivers (world.view slot tick) tick.task.phase choice request = true := by
    simpa [delivered, live, pending] using safe
  have steady : Steady (world.view slot tick).db (world.view slot tick).transaction tick.task.phase := guarded.steady live
  have called := called_of_exec steady allowed safe executed
  rw [← phase] at called
  constructor
  case follows =>
    intro away found present
    rcases Pool.task?_put_cases live present with ⟨_, rfl⟩ | ⟨_, old⟩
    · exact follows
    · exact guarded.follows old
  case steady =>
    intro away found present
    rcases Pool.task?_put_cases live present with ⟨_, rfl⟩ | ⟨apart, old⟩
    · exact called.steady
    · refine (guarded.steady old).frame fun id claimed => (called.others id fun mine => ?_).mpr
        ((guarded.steady old).claimed_unprocessed claimed)
      exact guarded.apart live old apart id mine claimed
  case apart =>
    intro first second _ _ left right away
    rcases Pool.task?_put_cases live left with ⟨rfl, rfl⟩ | ⟨_, old⟩
    · rcases Pool.task?_put_cases live right with ⟨rfl, _⟩ | ⟨apart, found⟩
      · exact absurd rfl away
      · exact guarded.unshared live called apart found
    · rcases Pool.task?_put_cases live right with ⟨rfl, rfl⟩ | ⟨_, found⟩
      · exact fun id mine listed => guarded.unshared live called away.symm old id listed mine
      · exact guarded.apart old found away
  case settled =>
    intro creation listed member
    exact guarded.settled_called live called listed member
  case once => exact guarded.once_called live called
  case aiGenerations =>
    intro row stored
    rcases called.history.aiGenerations stored with old | created
    · exact (guarded.aiGenerations row old).imp_right fun ⟨creation, listed, named⟩ =>
        ⟨creation, called.history.mono listed, named⟩
    · exact .inr created
  case messages =>
    intro row stored
    rcases called.history.messages stored with old | created
    · exact (guarded.messages row old).imp_right fun ⟨creation, listed, named⟩ =>
        ⟨creation, called.history.mono listed, named⟩
    · exact .inr created

/-- A store written from outside the ticks. -/
theorem Guarded.rewritten (guarded : Guarded start world) (db : Db)
    (locked : ∀ id ∈ Outbox.locked world.ticks, id ∈ unprocessed db)
    (settled : ∀ creation ∈ world.created, creation.eventId ∈ unprocessed db → creation.eventId ∈ unprocessed world.db)
    (aiGenerations : ∀ row ∈ db.aiGenerations.rows, world.db.aiGenerations.any (·.id == row.id) = true)
    (messages : ∀ row ∈ db.messages.rows,
      (world.db.messages.any fun old => old.id == row.id && old.aiGenerationId == row.aiGenerationId) = true) :
    Guarded start { world with db } where
  follows := guarded.follows
  steady live := (guarded.steady live).frame fun id claimed => locked id (mem_locked.mpr ⟨_, _, live, claimed⟩)
  apart := guarded.apart
  settled creation listed member := guarded.settled creation listed (settled creation listed member)
  once := guarded.once
  aiGenerations row stored := by
    obtain ⟨old, present, same⟩ := List.any_eq_true.mp (aiGenerations row stored)
    exact beq_iff_eq.mp same ▸ guarded.aiGenerations old present
  messages row stored := by
    obtain ⟨old, present, same⟩ := List.any_eq_true.mp (messages row stored)
    obtain ⟨sameId, sameGeneration⟩ := Bool.and_eq_true_iff.mp same
    exact beq_iff_eq.mp sameId ▸ beq_iff_eq.mp sameGeneration ▸ guarded.messages old present

theorem Guarded.same (guarded : Guarded start world) {db : Db} (same : Same world.db db) :
    Guarded start { world with db } := by
  refine guarded.rewritten db (fun id listed => ?_) (fun _ _ member => same.unprocessed ▸ member)
    (fun row stored => ?_) fun row stored => ?_
  · obtain ⟨slot, tick, live, claimed⟩ := mem_locked.mp listed
    exact same.unprocessed ▸ (guarded.steady live).claimed_unprocessed claimed
  · exact List.any_eq_true.mpr ⟨row, same.aiGenerations ▸ stored, beq_self_eq_true _⟩
  · exact List.any_eq_true.mpr ⟨row, same.messages ▸ stored, by simp⟩

theorem Guarded.elsewhere (guarded : Guarded start world) {after : Db} (moved : world.elsewhere after = some next) :
    Guarded start next := by
  unfold World.elsewhere World.foreign at moved
  split at moved
  · rename_i foreign
    cases moved
    simp only [Bool.and_eq_true, List.all_eq_true, Bool.or_eq_true, decide_eq_true_eq, bne_iff_ne] at foreign
    obtain ⟨⟨⟨aiGenerations, messages⟩, locked⟩, published⟩ := foreign
    refine guarded.rewritten after locked (fun creation listed member => ?_) aiGenerations messages
    exact (published _ member).resolve_right fun apart => apart creation listed rfl
  · cases moved

/-- Ticks that come without a transaction, and ticks with nothing left to settle that lose
theirs or go. -/
theorem Guarded.reticked (guarded : Guarded start world) {ticks : Pool (Tick Phase)}
    (each : ∀ slot tick, ticks.task? slot = some tick → world.ticks.task? slot = some tick ∨
      tick.transaction = none ∧ tick.task.Follows discipline (fun _ _ => True) ∧ Steady world.db none tick.task.phase)
    (kept : ∀ slot tick, world.ticks.task? slot = some tick → tick.task.phase.created ≠ [] →
      ticks.task? slot = some tick) :
    Guarded start { world with ticks } where
  follows live := (each _ _ live).elim guarded.follows fun fresh => fresh.2.1
  steady live := (each _ _ live).elim guarded.steady fun fresh => fresh.1.symm ▸ fresh.2.2
  apart live found away id mine listed := by
    rcases each _ _ live with old | ⟨closed, _⟩
    · rcases each _ _ found with other | ⟨closed, _⟩
      · exact guarded.apart old other away id mine listed
      · rw [Tick.claimed, closed] at listed
        cases listed
    · rw [Tick.claimed, closed] at mine
      cases mine
  settled creation listed member := by
    obtain ⟨slot, tick, live, created⟩ := guarded.settled creation listed member
    exact ⟨slot, tick, kept slot tick live (List.ne_nil_of_mem created), created⟩
  once := guarded.once
  aiGenerations := guarded.aiGenerations
  messages := guarded.messages

theorem Guarded.started (guarded : Guarded start world) (batchSize : Nat) :
    Guarded start (world.start {} context batchSize) := by
  refine guarded.reticked (fun slot tick present => ?_) fun slot tick live _ => ?_
  · by_cases last : slot < world.ticks.length
    · exact .inl (Pool.task?_spawn_lt last ▸ present)
    · have same : slot = world.ticks.length := by
        have inside := Pool.task?_lt present
        rw [Pool.length_spawn] at inside
        omega
      subst same
      obtain rfl := Option.some.inj (Pool.task?_spawn_last.symm.trans present)
      refine .inr ⟨rfl, ?_, rfl, nofun, nofun, fun _ => rfl⟩
      refine (obeys_bind _ _ _ _).mpr ((runDrainTick_obeys context batchSize).mono fun _ outcome _ => ?_)
      cases outcome <;> trivial
  · exact (Pool.task?_spawn_lt (Pool.task?_lt live)).trans live

theorem Guarded.expire (guarded : Guarded start world) (safe : delivered world (.expire slot) = true)
    (moved : world.expire slot = some next) : Guarded start next := by
  obtain ⟨tick, live, rfl⟩ := Option.map_eq_some_iff.mp moved
  have nothing : tick.task.phase.created = [] := by simpa [delivered, live] using safe
  refine guarded.reticked (fun away found present => ?_) fun away other found created => ?_
  · rcases Pool.task?_put_cases live present with ⟨rfl, rfl⟩ | ⟨_, old⟩
    · have follows : tick.task.Follows discipline fun _ _ => True := guarded.follows live
      exact .inr ⟨rfl, follows, (guarded.steady live).over nothing⟩
    · exact .inl old
  · by_cases same : slot = away
    · subst same
      cases Option.some.inj (live.symm.trans found)
      exact absurd nothing created
    · exact (Pool.task?_put_other same).trans found

theorem Guarded.crash (guarded : Guarded start world) (safe : delivered world (.crash slot) = true)
    (moved : world.crash slot = some next) : Guarded start next := by
  obtain ⟨tick, live, rfl⟩ := Option.map_eq_some_iff.mp moved
  have nothing : tick.task.phase.created = [] := by simpa [delivered, live] using safe
  refine guarded.reticked (fun away found present => ?_) fun away other found created => ?_
  · by_cases same : slot = away
    · subst same
      exact absurd ((Pool.task?_clear _ _).symm.trans present) nofun
    · exact .inl ((Pool.task?_clear_other same).symm.trans present)
  · by_cases same : slot = away
    · subst same
      cases Option.some.inj (live.symm.trans found)
      exact absurd nothing created
    · exact (Pool.task?_clear_other same).trans found

theorem Guarded.operated (guarded : Guarded start world) {id : String} {db : Db} (same : Same world.db db)
    (moved : world.operate id db = some next) : Guarded start next := by
  unfold World.operate at moved
  split at moved
  · cases moved
  · cases moved
    exact guarded.same same

theorem Guarded.step (guarded : Guarded start world) (safe : delivered world label = true)
    (moved : (drainer context).step world label = some next) : Guarded start next := by
  cases label with
  | start batchSize =>
    cases moved
    exact guarded.started batchSize
  | act slot choice => exact guarded.act safe moved
  | expire slot => exact guarded.expire safe moved
  | crash slot => exact guarded.crash safe moved
  | forceDeadLetter id error now =>
    have same : Same world.db (OutboxRepository.markDeadLettered id error now world.db).2 :=
      ⟨rfl, rfl, unprocessed_congr rfl fun _ => ⟨rfl, rfl⟩⟩
    exact guarded.operated same moved
  | replay id =>
    have same : Same world.db (OutboxRepository.requeueDeadLettered id world.db).2 :=
      ⟨rfl, rfl, unprocessed_congr rfl fun _ => ⟨rfl, rfl⟩⟩
    exact guarded.operated same moved
  | elsewhere after => exact guarded.elsewhere moved

/-- While every generation is delivered, no event gets a second one. -/
theorem generation_once (idle : Idle start)
    (reach : Machine.Reach (drainer context) (fun world label => delivered world label = true) start world) :
    CreatedOnce start world :=
  (reach.invariant idle.guarded fun _ _ _ safe moved guarded => guarded.step safe moved).createdOnce

section Samples

def winbackContext : DrainerContext where
  aiConfig := { provider := .openai, model := "gpt-4.1-mini" }
  buildWinbackPrompt args := ⟨args.merchant.name.getD "the store", args.customer.triggerState.text⟩
  isDatetime text := text == "2026-03-01T00:00:00.000Z"
  zodMessage _ := "Invalid input"

def lapse : OutboxEvent where
  id := "e"
  merchantId := "m"
  type := OutboxEventType.customerStateChanged.text
  payload := .obj [("merchantId", .str "m"), ("customerId", .str "c"),
    ("shopifyCustomerId", .str (customerGidPrefix ++ "1")), ("oldState", .str "active"), ("newState", .str "at_risk"),
    ("computedAt", .str "2026-03-01T00:00:00.000Z"),
    ("rfmScore", .obj [("rDays", .num 70), ("fCount", .num 2), ("mCents", .str "4200"), ("rQuintile", .num 2),
      ("fQuintile", .num 3), ("mQuintile", .num 3)])]
  createdAt := 0

/-- One lapse of a customer of a paying merchant waits in the outbox. -/
def oneLapse : World Phase where
  db := {
    merchants := .single { id := "m", shop := "shop" }
    merchantSettings := .single { merchantId := "m" }
    billingSubscriptions := .single { merchantId := "m", status := .active }
    customers := .single { id := "c", merchantId := "m", shopifyCustomerId := customerGidPrefix ++ "1" }
    outboxEvents := .single lapse }

/-- A tick that delivers the lapse, with what happens to its enqueue. -/
def tickOf (slot : Nat) (generationId : String) (messageId : MessageId) (enqueued : Choice) : List Label :=
  [.start 10] ++ List.replicate 9 (.act slot {}) ++ [.act slot { generationId, messageId }, .act slot enqueued] ++
    List.replicate 2 (.act slot {})

theorem delivered_runs :
    ((drainer winbackContext).runWhere delivered oneLapse (tickOf 0 "g" "s" {})).isSome = true := by
  decide

theorem generation_once_delivered :
    CreatedOnce oneLapse (((drainer winbackContext).runWhere delivered oneLapse (tickOf 0 "g" "s" {})).get delivered_runs) ∧
      (((drainer winbackContext).runWhere delivered oneLapse (tickOf 0 "g" "s" {})).get delivered_runs).created =
        [⟨"e", "g", "s"⟩] :=
  ⟨generation_once ⟨rfl, rfl⟩ (Machine.reach_get delivered_runs), by decide⟩

def redelivery : List Label := tickOf 0 "g" "s" { fails := true } ++ tickOf 1 "h" "t" {}

theorem redelivery_runs :
    ((drainer winbackContext).runWhere (fun _ _ => true) oneLapse redelivery).isSome = true := by
  decide

/-- The enqueue throws after the two rows are committed; the retry creates two more. -/
theorem generation_repeated :
    ¬∀ (context : DrainerContext) (start world : World Phase), Idle start →
      Machine.Reach (drainer context) (fun _ _ => True) start world → CreatedOnce start world := by
  intro claim
  have created := claim winbackContext oneLapse _ ⟨rfl, rfl⟩
    ((Machine.reach_get redelivery_runs).mono fun _ _ _ => trivial)
  have twice : (((drainer winbackContext).runWhere (fun _ _ => true) oneLapse redelivery).get redelivery_runs).created =
      [⟨"e", "g", "s"⟩, ⟨"e", "h", "t"⟩] := by decide
  have once := created.once "e"
  rw [twice] at once
  exact absurd once (by decide)

end Samples

end Run

end WinBack.Outbox
