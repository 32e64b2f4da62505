import Mathlib.Logic.Relation
import WinBack.Outbox.Redelivery
import WinBack.Outbox.Tick

/-! The law of a tick that commits, and of any number of them: what each row is afterwards, and
how often a row can fail before an operator asks for it again. -/

namespace WinBack.Outbox

open Library Script

section Law

variable {Store : Type} (serve : Store → (request : Call) → Except Thrown request.Value × Store) (view : Store → View)
  (context : DrainerContext) (dispatch : OutboxEvent → Program Unit) (outcome : OutboxEvent → Except Thrown Unit)
  (store : Store) (batchSize : Nat)

/-- The store once the transaction of the tick has ended. -/
def committed : Store := (run serve store (transaction (drainBatchWith context dispatch batchSize))).2

/-- The rows whose handlers are deferred. -/
def deferredOf : List OutboxEvent := (batchOf (view store) batchSize).filter marksBeforeInvoke

def finished : Store := (run serve store (runDrainTickWith context dispatch batchSize)).2

/-- What came of the handler of each row, in the store where the tick ran it. -/
structure Outcomes : Prop where
  ordinary : ∀ earlier row rest, batchOf (view store) batchSize = earlier ++ row :: rest → marksBeforeInvoke row = false →
    (run serve (run serve (serve store (.claimBatch batchSize)).2 (drainRowsWith context dispatch earlier)).2
      (dispatch row)).1 = outcome row
  deferred : ∀ earlier row rest, deferredOf view store batchSize = earlier ++ row :: rest →
    (run serve (run serve (committed serve context dispatch store batchSize) (runDeferredWith context dispatch earlier)).2
      (dispatch row)).1 = outcome row

/-- No deferred handler writes or deletes the row itself. -/
def Unhandled (id : String) : Prop :=
  Spared serve view context dispatch (committed serve context dispatch store batchSize) (deferredOf view store batchSize) id

/-- A row after the tick that claimed it. -/
def settled (row : OutboxEvent) (now later : Date) : OutboxEvent :=
  if marksBeforeInvoke row then aftermath context later ((verdict context outcome row).change now row) (outcome row)
  else (verdict context outcome row).change now row

def threw : Except Thrown Unit → Bool
  | .ok _ => false
  | .error _ => true

/-- The terms in which a row answers for its handler. -/
structure Accounted (row : OutboxEvent) (outcome : Except Thrown Unit) (after : OutboxEvent) : Prop where
  processed : after.processedAt.isSome = (marksBeforeInvoke row || !threw outcome)
  attempts : after.attempts = row.attempts + (!marksBeforeInvoke row && threw outcome).toNat
  deadLettered : after.deadLetteredAt.isSome = true ↔ marksBeforeInvoke row = false ∧
    ∃ thrown, outcome = .error thrown ∧ (isRetryable thrown = false ∨ maxOutboxAttempts ≤ row.attempts + 1)
  deferredFailed : if marksBeforeInvoke row && threw outcome then after.deferredFailedAt.isSome
    else after.deferredFailedAt = row.deferredFailedAt

/-- What a tick leaves of the rows: of a claimed row what its own handler makes of it, of every
other row the row. -/
structure Accounts (after : Table OutboxEvent) : Prop where
  claimed : ∀ row ∈ batchOf (view store) batchSize, Unhandled serve view context dispatch store batchSize row.id →
    ∃ now later, settled context outcome row now later ∈ after.rows
  others : ∀ row ∈ (view store).db.outboxEvents.rows, row.id ∉ (batchOf (view store) batchSize).map (·.id) →
    Unhandled serve view context dispatch store batchSize row.id → row ∈ after.rows

end Law

section Accounts

variable {Store : Type} {serve : Store → (request : Call) → Except Thrown request.Value × Store} {view : Store → View}
  {context : DrainerContext} {dispatch : OutboxEvent → Program Unit} {outcome : OutboxEvent → Except Thrown Unit}
  {store : Store} {batchSize : Nat}

theorem verdict_deferred {row : OutboxEvent} (deferred : marksBeforeInvoke row = true) :
    verdict context outcome row = .processed := if_pos deferred

@[simp] theorem settled_id (row : OutboxEvent) (now later : Date) : (settled context outcome row now later).id = row.id := by
  unfold settled aftermath
  split
  · split <;> exact Mark.change_id ..
  · exact Mark.change_id ..

/-- A tick whose bookkeeping is carried out returns, and leaves every row as it should. -/
theorem runDrainTick_accounts (serves : Serves serve view) (handles : ∀ row, Handles (dispatch row))
    (outcomes : Outcomes serve view context dispatch outcome store batchSize) :
    (run serve store (runDrainTickWith context dispatch batchSize)).1 =
        .ok ⟨(batchOf (view store) batchSize).length, (batchOf (view store) batchSize).length == batchSize⟩ ∧
      Accounts serve view context dispatch outcome store batchSize
        (view (finished serve context dispatch store batchSize)).db.outboxEvents := by
  obtain ⟨returned, others, marked⟩ := transaction_commits serves handles outcomes.ordinary
  have distinct : ((deferredOf view store batchSize).map (·.id)).Nodup :=
    (nodup_claimed _ _ _).sublist (List.filter_sublist.map _)
  obtain ⟨done, accounts⟩ := runDeferred_accounts serves distinct outcomes.deferred
  have ran : run serve store (runDrainTickWith context dispatch batchSize) =
      (.ok ⟨(batchOf (view store) batchSize).length, (batchOf (view store) batchSize).length == batchSize⟩,
        (run serve (committed serve context dispatch store batchSize)
          (runDeferredWith context dispatch (deferredOf view store batchSize))).2) := by
    rw [runDrainTickWith, run_bind_ok serve (Prod.ext returned rfl)]
    exact run_bind_ok serve (Prod.ext done rfl) _
  rw [finished, ran]
  refine ⟨rfl, ⟨fun row listed spared => ?_, fun row stored absent spared => ?_⟩⟩
  · obtain ⟨now, here⟩ := marked row listed
    obtain ⟨ordinary, deferred⟩ := accounts _ here (by rw [Mark.change_id]; exact spared)
    unfold settled
    split
    · rename_i late
      obtain ⟨later, last⟩ := deferred row (List.mem_filter.mpr ⟨listed, late⟩) (Mark.change_id ..).symm
      exact ⟨now, later, last⟩
    · rename_i early
      refine ⟨now, 0, ordinary fun also => ?_⟩
      obtain ⟨other, mine, named⟩ := List.mem_map.mp also
      obtain ⟨claimed, late⟩ := List.mem_filter.mp mine
      rw [Mark.change_id] at named
      exact early (List.inj_on_of_nodup_map (nodup_claimed _ _ _) claimed listed named ▸ late)
  · refine (accounts row (others row stored absent) spared).1 fun also => absent ?_
    obtain ⟨other, mine, named⟩ := List.mem_map.mp also
    exact List.mem_map.mpr ⟨other, List.mem_of_mem_filter mine, named⟩

theorem failureMark_deadLetters (row : OutboxEvent) (thrown : Thrown) :
    failureMark context row thrown = .deadLettered (context.message thrown) ∧
        (isRetryable thrown = false ∨ maxOutboxAttempts ≤ row.attempts + 1) ∨
      failureMark context row thrown = .failed (context.message thrown) ∧
        ¬(isRetryable thrown = false ∨ maxOutboxAttempts ≤ row.attempts + 1) := by
  unfold failureMark
  split <;> rename_i terminal <;>
    simp only [Bool.or_eq_true, Bool.not_eq_true', decide_eq_true_eq] at terminal
  · exact .inl ⟨rfl, terminal⟩
  · exact .inr ⟨rfl, terminal⟩

/-- A row that was free answers for its own handler, whatever the other rows' did. -/
theorem settled_accounted {row : OutboxEvent} (free : OutboxRepository.claimable row = true) (now later : Date) :
    Accounted row (outcome row) (settled context outcome row now later) := by
  rw [OutboxRepository.claimable, Bool.and_eq_true, Option.isNone_iff_eq_none, Option.isNone_iff_eq_none] at free
  cases deferred : marksBeforeInvoke row with
  | true =>
    rw [settled, if_pos deferred, verdict_deferred deferred]
    cases came : outcome row <;>
      exact ⟨by simp [aftermath, Mark.change, deferred], by simp [aftermath, Mark.change, deferred],
        by simp [aftermath, Mark.change, deferred, free.2], by simp [aftermath, Mark.change, deferred, threw]⟩
  | false =>
    rw [settled, if_neg (by simp [deferred]), verdict, if_neg (by simp [deferred])]
    cases came : outcome row with
    | ok value =>
      exact ⟨by simp [Mark.change, threw], by simp [Mark.change, threw], by simp [Mark.change, free.2],
        by simp [Mark.change, threw]⟩
    | error thrown =>
      rcases @failureMark_deadLetters context row thrown with ⟨marked, terminal⟩ | ⟨marked, again⟩
      · exact ⟨by simp [marked, Mark.change, threw, free.1, deferred], by simp [marked, Mark.change, threw, deferred],
          by simpa [marked, Mark.change, deferred] using terminal, by simp [marked, Mark.change, deferred]⟩
      · exact ⟨by simp [marked, Mark.change, threw, free.1, deferred], by simp [marked, Mark.change, threw, deferred],
          by simpa [marked, Mark.change, deferred, free.2] using again, by simp [marked, Mark.change, deferred]⟩

end Accounts

section Runs

/-- The store between ticks, with how often a handler of each row threw since an operator last
requeued the row. -/
structure Rounds where
  db : Db
  failures : String → Nat

/-- Whether the handler of the row of the batch with this id threw. -/
def failed (outcome : OutboxEvent → Except Thrown Unit) (batch : List OutboxEvent) (id : String) : Nat :=
  (batch.any fun row => row.id == id && threw (outcome row)).toNat

/-- An event is there before, or its id has no failure to its name. -/
def Known (rounds : Rounds) (row : OutboxEvent) : Prop :=
  row ∈ rounds.db.outboxEvents.rows ∨ rounds.failures row.id = 0

/-- A tick that commits, an operator's command, or a write of the other components, which
publish and delete. -/
inductive Rounds.Step (context : DrainerContext) : Rounds → Rounds → Prop
  | tick {Store : Type} {serve : Store → (request : Call) → Except Thrown request.Value × Store} {view : Store → View}
      {dispatch : OutboxEvent → Program Unit} {outcome : OutboxEvent → Except Thrown Unit} {store : Store}
      {batchSize : Nat} {failures : String → Nat} (serves : Serves serve view)
      (handles : ∀ row, Handles (dispatch row))
      (outcomes : Outcomes serve view context dispatch outcome store batchSize)
      (left : ∀ row ∈ (view (finished serve context dispatch store batchSize)).db.outboxEvents.rows,
        (∃ old ∈ (view store).db.outboxEvents.rows, old.id = row.id) ∧
            Unhandled serve view context dispatch store batchSize row.id ∨
          failures row.id = 0 ∧ row.id ∉ (batchOf (view store) batchSize).map (·.id)) :
      Step context ⟨(view store).db, failures⟩ ⟨(view (finished serve context dispatch store batchSize)).db,
        fun id => failures id + failed outcome (batchOf (view store) batchSize) id⟩
  | forceDeadLetter (before : Rounds) (id error : String) (now : Date) :
      Step context before ⟨(OutboxRepository.markDeadLettered id error now before.db).2, before.failures⟩
  | replay (before : Rounds) (id : String) :
      Step context before ⟨(OutboxRepository.requeueDeadLettered id before.db).2,
        if (OutboxRepository.requeueDeadLettered id before.db).1 then Function.update before.failures id 0
        else before.failures⟩
  | elsewhere (before : Rounds) (after : Db) (known : ∀ row ∈ after.outboxEvents.rows, Known before row) :
      Step context before ⟨after, before.failures⟩

/-- A free row that failed has an attempt for every failure, and one left. -/
structure Bounded (rounds : Rounds) : Prop where
  within : ∀ id, rounds.failures id ≤ maxOutboxAttempts
  counted : ∀ row ∈ rounds.db.outboxEvents.rows, OutboxRepository.claimable row = true →
    0 < rounds.failures row.id → rounds.failures row.id ≤ row.attempts ∧ row.attempts < maxOutboxAttempts

variable {context : DrainerContext}

theorem failed_absent {outcome : OutboxEvent → Except Thrown Unit} {batch : List OutboxEvent} {id : String}
    (absent : id ∉ batch.map (·.id)) : failed outcome batch id = 0 := by
  have none : (batch.any fun row => row.id == id && threw (outcome row)) = false := by
    refine List.any_eq_false.mpr fun row listed => ?_
    have other : row.id ≠ id := fun same => absent (List.mem_map.mpr ⟨row, listed, same⟩)
    simp [other]
  rw [failed, none]
  rfl

theorem failed_claimed {outcome : OutboxEvent → Except Thrown Unit} {view : View} {batchSize : Nat} {row : OutboxEvent}
    (listed : row ∈ batchOf view batchSize) :
    failed outcome (batchOf view batchSize) row.id = (threw (outcome row)).toNat := by
  have own : ((batchOf view batchSize).any fun other => other.id == row.id && threw (outcome other)) =
      threw (outcome row) := by
    rw [Bool.eq_iff_iff, List.any_eq_true]
    refine ⟨?_, fun thrown => ⟨row, listed, by simp [thrown]⟩⟩
    rintro ⟨other, member, both⟩
    rw [Bool.and_eq_true, beq_iff_eq] at both
    rw [← event_eq_of_id (claimed_iff member).1 (claimed_iff listed).1 both.1]
    exact both.2
  rw [failed, own]

section Tick

variable {Store : Type} {serve : Store → (request : Call) → Except Thrown request.Value × Store} {view : Store → View}
  {dispatch : OutboxEvent → Program Unit} {outcome : OutboxEvent → Except Thrown Unit} {store : Store} {batchSize : Nat}
  {failures : String → Nat}

/-- A row that has failed before is still below the ceiling when a tick claims it. -/
theorem Bounded.claims (bounded : Bounded ⟨(view store).db, failures⟩) {row : OutboxEvent}
    (listed : row ∈ batchOf (view store) batchSize) : failures row.id < maxOutboxAttempts ∧
      (0 < failures row.id → failures row.id ≤ row.attempts) := by
  obtain ⟨stored, free, _⟩ := claimed_iff listed
  have counted := bounded.counted row stored free
  rcases Nat.eq_zero_or_pos (failures row.id) with zero | some
  · exact ⟨zero ▸ by decide, fun some => absurd zero some.ne'⟩
  · obtain ⟨covered, below⟩ := counted some
    exact ⟨Nat.lt_of_le_of_lt covered below, fun _ => covered⟩

/-- A row that is free after its tick returned an error that was worth another attempt. -/
theorem Accounted.again {row after : OutboxEvent} {outcome : Except Thrown Unit} (accounted : Accounted row outcome after)
    (free : OutboxRepository.claimable after = true) :
    after.attempts = row.attempts + (threw outcome).toNat ∧ row.attempts + (threw outcome).toNat < maxOutboxAttempts := by
  rw [OutboxRepository.claimable, Bool.and_eq_true] at free
  obtain ⟨processed, attempts, deadLettered, _⟩ := accounted
  have unprocessed : after.processedAt.isSome = false := by simpa using free.1
  have alive : after.deadLetteredAt.isSome = false := by simpa using free.2
  rw [unprocessed] at processed
  obtain ⟨ordinary, thrown⟩ := Bool.or_eq_false_iff.mp processed.symm
  cases outcome with
  | ok value => cases thrown
  | error refusal =>
    rw [alive] at deadLettered
    have below : ¬maxOutboxAttempts ≤ row.attempts + 1 := fun ceiling =>
      Bool.false_ne_true (deadLettered.mpr ⟨ordinary, refusal, rfl, .inr ceiling⟩)
    refine ⟨?_, by simpa [threw] using below⟩
    simpa [ordinary] using attempts

theorem Bounded.tick (bounded : Bounded ⟨(view store).db, failures⟩) {after : Db}
    (drained : Accounts serve view context dispatch outcome store batchSize after.outboxEvents)
    (left : ∀ row ∈ after.outboxEvents.rows, (∃ old ∈ (view store).db.outboxEvents.rows, old.id = row.id) ∧
        Unhandled serve view context dispatch store batchSize row.id ∨
      failures row.id = 0 ∧ row.id ∉ (batchOf (view store) batchSize).map (·.id)) :
    Bounded ⟨after, fun id => failures id + failed outcome (batchOf (view store) batchSize) id⟩ where
  within id := by
    by_cases listed : id ∈ (batchOf (view store) batchSize).map (·.id)
    · obtain ⟨row, member, rfl⟩ := List.mem_map.mp listed
      have below := (bounded.claims member).1
      dsimp only at below ⊢
      rw [failed_claimed member]
      have once : (threw (outcome row)).toNat ≤ 1 := Bool.toNat_le _
      omega
    · dsimp only
      rw [failed_absent listed, Nat.add_zero]
      exact bounded.within id
  counted row stored free some := by
    dsimp only at some ⊢
    rcases left row stored with ⟨⟨old, was, named⟩, spared⟩ | ⟨zero, absent⟩
    · by_cases listed : old.id ∈ (batchOf (view store) batchSize).map (·.id)
      · obtain ⟨claimed, listed, same⟩ := List.mem_map.mp listed
        rw [event_eq_of_id (claimed_iff listed).1 was same] at listed
        obtain ⟨now, later, here⟩ := drained.claimed old listed (named ▸ spared)
        obtain rfl := event_eq_of_id stored here (by rw [settled_id, named])
        rw [settled_id, failed_claimed listed] at some ⊢
        obtain ⟨attempts, below⟩ := (settled_accounted (claimed_iff listed).2.1 now later).again free
        obtain ⟨_, covered⟩ := bounded.claims listed
        rw [attempts]
        refine ⟨?_, below⟩
        rcases Nat.eq_zero_or_pos (failures old.id) with zero | early
        · omega
        · have := covered early
          omega
      · have here := drained.others old was listed (named ▸ spared)
        obtain rfl := event_eq_of_id stored here named.symm
        rw [failed_absent listed, Nat.add_zero] at some ⊢
        exact bounded.counted row was free some
    · rw [zero, failed_absent absent] at some
      exact absurd some (Nat.lt_irrefl 0)

end Tick

theorem Bounded.step {before after : Rounds} (step : Rounds.Step context before after) (bounded : Bounded before) :
    Bounded after := by
  cases step with
  | tick serves handles outcomes left =>
    exact bounded.tick (runDrainTick_accounts serves handles outcomes).2 left
  | forceDeadLetter before id error now =>
    refine ⟨bounded.within, fun row stored free some => ?_⟩
    obtain ⟨old, was, rfl⟩ := List.mem_map.mp stored
    split at free
    · simp [OutboxRepository.claimable] at free
    · rename_i other
      rw [if_neg other] at some ⊢
      exact bounded.counted old was free some
  | replay before id =>
    have fewer (other : String) : (if (OutboxRepository.requeueDeadLettered id before.db).1 = true then
        Function.update before.failures id 0 else before.failures) other ≤ before.failures other := by
      split
      · rw [Function.update_apply]
        split
        · exact Nat.zero_le _
        · exact Nat.le_refl _
      · exact Nat.le_refl _
    refine ⟨fun other => (fewer other).trans (bounded.within other), fun row stored free some => ?_⟩
    obtain ⟨old, was, rfl⟩ := List.mem_map.mp stored
    have known := fewer old.id
    dsimp only at some ⊢
    split at free
    · rename_i requeued
      rw [if_pos requeued] at some
      have found : (OutboxRepository.requeueDeadLettered id before.db).1 = true :=
        decide_eq_true (List.countP_pos_iff.mpr ⟨old, was, requeued⟩)
      have same : old.id = id := beq_iff_eq.mp (Bool.and_eq_true .. ▸ requeued).1
      rw [if_pos found, Function.update_apply, if_pos same] at some
      exact absurd some (Nat.lt_irrefl 0)
    · rename_i other
      rw [if_neg other] at some ⊢
      obtain ⟨covered, below⟩ := bounded.counted old was free (some.trans_le known)
      exact ⟨known.trans covered, below⟩
  | elsewhere before after known =>
    refine ⟨bounded.within, fun row stored free some => ?_⟩
    rcases known row stored with was | zero
    · exact bounded.counted row was free some
    · exact absurd (zero ▸ some) (Nat.lt_irrefl 0)

/-- Runs start before any failure is counted. -/
theorem Bounded.run {db : Db} {reached : Rounds}
    (run : Relation.ReflTransGen (Rounds.Step context) ⟨db, fun _ => 0⟩ reached) : Bounded reached := by
  induction run with
  | refl => exact ⟨fun _ => Nat.zero_le _, fun _ _ _ some => absurd some (Nat.lt_irrefl 0)⟩
  | tail _ step ih => exact ih.step step

end Runs

section Alone

/-- A tick alone on the store, with the clock at each of its calls. -/
def alone (now : Nat → Date) (store : Nat × View) (request : Call) : Except Thrown request.Value × (Nat × View) :=
  match exec store.2 request { now := now store.1 } with
  | some (answer, next) => (answer, store.1 + 1, next)
  | none => (.error connectionLost, store)

theorem exec_total (view : View) (request : Call) (choice : Choice) :
    ∃ answer next, exec view request choice = some (answer, next) := by
  cases request <;> unfold exec <;> dsimp only <;> repeat' split
  all_goals exact ⟨_, _, rfl⟩

theorem alone_serves (now : Nat → Date) : Serves (alone now) Prod.snd where
  bookkeeping store request _ := by
    obtain ⟨answer, next, ran⟩ := exec_total store.2 request { now := now store.1 }
    refine ⟨{ now := now store.1 }, rfl, rfl, ?_⟩
    rw [alone, ran]
  handler store request handler _ := by
    obtain ⟨answer, next, ran⟩ := exec_total store.2 request { now := now store.1 }
    rw [alone, ran]
    exact exec_keeps handler ran

/-- A handler that only returns or throws. -/
def assigned (outcome : OutboxEvent → Except Thrown Unit) (row : OutboxEvent) : Program Unit := orThrow (outcome row)

variable {Store : Type} {serve : Store → (request : Call) → Except Thrown request.Value × Store} {view : Store → View}
  {context : DrainerContext} {outcome : OutboxEvent → Except Thrown Unit} {store : Store} {batchSize : Nat}

theorem run_assigned (store : Store) (row : OutboxEvent) :
    run serve store (assigned outcome row) = (outcome row, store) := by
  unfold assigned
  cases outcome row <;> rfl

theorem assigned_handles (row : OutboxEvent) : Handles (assigned outcome row) := by
  unfold assigned
  cases outcome row <;> trivial

/-- Every assignment of outcomes to the rows can come about. -/
theorem Outcomes.assigned : Outcomes serve view context (assigned outcome) outcome store batchSize where
  ordinary _ _ _ _ _ := by rw [run_assigned]
  deferred _ _ _ _ := by rw [run_assigned]

theorem unhandled_assigned (id : String) : Unhandled serve view context (assigned outcome) store batchSize id := by
  intro earlier row rest _ other stored _
  rw [run_assigned]
  exact stored

end Alone

section Law

variable {Store : Type} {serve : Store → (request : Call) → Except Thrown request.Value × Store} {view : Store → View}
  {context : DrainerContext} {dispatch : OutboxEvent → Program Unit} {outcome : OutboxEvent → Except Thrown Unit}
  {store : Store} {batchSize : Nat}

/-- A tick whose bookkeeping is carried out returns; each row it claimed answers for its own
handler and is a function of that and the clock, each row it did not claim is as it was. Over
any run of such ticks no row fails more often than the ceiling between two requeues. -/
theorem drain_tick_law (serves : Serves serve view) (handles : ∀ row, Handles (dispatch row))
    (outcomes : Outcomes serve view context dispatch outcome store batchSize) {db : Db} {reached : Rounds}
    (rounds : Relation.ReflTransGen (Rounds.Step context) ⟨db, fun _ => 0⟩ reached) :
    (run serve store (runDrainTickWith context dispatch batchSize)).1 =
        .ok ⟨(batchOf (view store) batchSize).length, (batchOf (view store) batchSize).length == batchSize⟩ ∧
      Accounts serve view context dispatch outcome store batchSize
        (view (finished serve context dispatch store batchSize)).db.outboxEvents ∧
      (∀ row ∈ batchOf (view store) batchSize, ∀ now later,
        Accounted row (outcome row) (settled context outcome row now later)) ∧
      ∀ id, reached.failures id ≤ maxOutboxAttempts := by
  obtain ⟨returned, drained⟩ := runDrainTick_accounts serves handles outcomes
  refine ⟨returned, drained, fun row listed now later => ?_, (Bounded.run rounds).within⟩
  exact settled_accounted (claimed_iff listed).2.1 now later

/-- The tick with its own dispatcher. -/
theorem runDrainTick_law (serves : Serves serve view)
    (outcomes : Outcomes serve view context (dispatchEvent context) outcome store batchSize) :
    Accounts serve view context (dispatchEvent context) outcome store batchSize
      (view (run serve store (runDrainTick context batchSize)).2).db.outboxEvents := by
  rw [runDrainTick_eq]
  exact (runDrainTick_accounts serves (dispatchEvent_handles context) outcomes).2

end Law

section Samples

def waitingRow (id : String) (type : OutboxEventType) (createdAt : Date) : OutboxEvent :=
  { lapse with id, type := type.text, createdAt }

/-- A handler that times out, one that returns, and a deferred one that times out; a fourth row is beyond the batch. -/
def waiting : Nat × View where
  fst := 0
  snd := {
    db := { oneLapse.db with
      outboxEvents := ⟨[waitingRow "e" .customerStateChanged 0, waitingRow "f" .customerStateChanged 1,
        waitingRow "g" .merchantInstalled 2, waitingRow "h" .customerStateChanged 3], by decide⟩ }
    jobs := []
    transaction := none
    locked := []
    created := [] }

def timedOut (row : OutboxEvent) : Except Thrown Unit := if row.id = "f" then .ok () else .error (.other "timeout")

def afterTimeout : Rounds where
  db := (finished (alone fun _ => 5) winbackContext (assigned timedOut) waiting 3).2.db
  failures id := 0 + failed timedOut (batchOf waiting.2 3) id

theorem rounds_timeout : Relation.ReflTransGen (Rounds.Step winbackContext) ⟨waiting.2.db, fun _ => 0⟩ afterTimeout := by
  refine .single (@Rounds.Step.tick winbackContext _ _ Prod.snd _ timedOut waiting 3 _ (alone_serves fun _ => 5)
    assigned_handles Outcomes.assigned fun row stored => .inl ⟨?_, unhandled_assigned _⟩)
  have rows : (finished (alone fun _ => 5) winbackContext (assigned timedOut) waiting 3).2.db.outboxEvents.rows.map
      (·.id) = waiting.2.db.outboxEvents.rows.map (·.id) := by decide
  have named : row.id ∈ _ := List.mem_map_of_mem stored
  rw [rows] at named
  exact List.mem_map.mp named

theorem drain_tick_law_timeout :
    (run (alone fun _ => 5) waiting (runDrainTickWith winbackContext (assigned timedOut) 3)).1 = .ok ⟨3, true⟩ ∧
      Accounts (alone fun _ => 5) Prod.snd winbackContext (assigned timedOut) timedOut waiting 3
        (finished (alone fun _ => 5) winbackContext (assigned timedOut) waiting 3).2.db.outboxEvents ∧
      (batchOf waiting.2 3).map (fun row => (row.id, marksBeforeInvoke row, threw (timedOut row))) =
        [("e", false, true), ("f", false, false), ("g", true, true)] ∧
      (∀ row ∈ batchOf waiting.2 3, Accounted row (timedOut row) (settled winbackContext timedOut row 5 5)) ∧
      afterTimeout.failures "e" = 1 ∧ ∀ id, afterTimeout.failures id ≤ maxOutboxAttempts := by
  obtain ⟨returned, drained, accounted, within⟩ :=
    drain_tick_law (alone_serves fun _ => 5) assigned_handles (@Outcomes.assigned _ _ Prod.snd _ timedOut waiting 3)
      rounds_timeout
  exact ⟨returned, drained, by decide, fun row listed => accounted row listed 5 5, by decide, within⟩

end Samples

end WinBack.Outbox
