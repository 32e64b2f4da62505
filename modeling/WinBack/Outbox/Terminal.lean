import WinBack.Outbox.Operator
import WinBack.Outbox.Redelivery

/-! Whether an event can be processed and dead-lettered, over every run of the drainer with
operators at work. -/

namespace WinBack.Outbox

open Library Script OutboxRepository

section Rows

/-- No event is in both terminal states. -/
def Exclusive (db : Db) : Prop :=
  ∀ row ∈ db.outboxEvents.rows, row.processedAt = none ∨ row.deadLetteredAt = none

/-- A write to the events: what is in a terminal state after it and was not before is named. -/
structure Writes (processed deadLettered : String → Prop) (before after : Db) : Prop where
  source : ∀ row ∈ after.outboxEvents.rows, ∃ old ∈ before.outboxEvents.rows, old.id = row.id ∧
    (row.processedAt = none ∨ row.processedAt = old.processedAt ∨ processed row.id) ∧
    (row.deadLetteredAt = none ∨ row.deadLetteredAt = old.deadLetteredAt ∨ deadLettered row.id)

variable {processed deadLettered alsoProcessed alsoDeadLettered : String → Prop} {before middle after db : Db}

theorem Writes.refl (db : Db) : Writes processed deadLettered db db :=
  ⟨fun row stored => ⟨row, stored, rfl, .inr (.inl rfl), .inr (.inl rfl)⟩⟩

theorem Writes.trans (first : Writes processed deadLettered before middle)
    (second : Writes alsoProcessed alsoDeadLettered middle after) :
    Writes (fun id => processed id ∨ alsoProcessed id) (fun id => deadLettered id ∨ alsoDeadLettered id) before after where
  source row stored := by
    obtain ⟨between, here, named, lateProcessed, lateDead⟩ := second.source row stored
    obtain ⟨old, there, same, earlyProcessed, earlyDead⟩ := first.source between here
    refine ⟨old, there, same.trans named, ?_, ?_⟩
    · rcases lateProcessed with none | kept | listed
      · exact .inl none
      · rw [kept, ← named]
        exact earlyProcessed.imp_right (Or.imp_right .inl)
      · exact .inr (.inr (.inr listed))
    · rcases lateDead with none | kept | listed
      · exact .inl none
      · rw [kept, ← named]
        exact earlyDead.imp_right (Or.imp_right .inl)
      · exact .inr (.inr (.inr listed))

theorem Writes.mono (writes : Writes processed deadLettered before after) (wider : ∀ id, processed id → alsoProcessed id)
    (broader : ∀ id, deadLettered id → alsoDeadLettered id) : Writes alsoProcessed alsoDeadLettered before after where
  source row stored := by
    obtain ⟨old, here, named, late, dead⟩ := writes.source row stored
    exact ⟨old, here, named, late.imp_right (Or.imp_right (wider _)), dead.imp_right (Or.imp_right (broader _))⟩

/-- A row that is rewritten in place. -/
theorem Writes.updateMany {filter : OutboxEvent → Bool} {change : OutboxEvent → OutboxEvent}
    (rows : after.outboxEvents.rows = before.outboxEvents.rows.map fun row => if filter row then change row else row)
    (changes : ∀ row ∈ before.outboxEvents.rows, filter row = true → (change row).id = row.id ∧
      ((change row).processedAt = none ∨ (change row).processedAt = row.processedAt ∨ processed row.id) ∧
      ((change row).deadLetteredAt = none ∨ (change row).deadLetteredAt = row.deadLetteredAt ∨ deadLettered row.id)) :
    Writes processed deadLettered before after where
  source row stored := by
    rw [rows] at stored
    obtain ⟨old, here, rfl⟩ := List.mem_map.mp stored
    refine ⟨old, here, ?_⟩
    split
    · rename_i matched
      obtain ⟨named, late, dead⟩ := changes old here matched
      rw [named]
      exact ⟨rfl, late, dead⟩
    · exact ⟨rfl, .inr (.inl rfl), .inr (.inl rfl)⟩

/-- What a mark writes. -/
theorem Marked.writes (marked : Marked) (db : Db) :
    Writes (fun id => id = marked.id ∧ marked.mark = .processed)
      (fun id => id = marked.id ∧ ∃ error, marked.mark = .deadLettered error) db (marked.apply db) := by
  obtain ⟨id, mark, now⟩ := marked
  have updates (change : OutboxEvent → OutboxEvent) (keeps : ∀ row, (change row).id = row.id)
      (late : ∀ row : OutboxEvent, (change row).processedAt = row.processedAt ∨ mark = .processed)
      (dead : ∀ row : OutboxEvent, (change row).deadLetteredAt = row.deadLetteredAt) :
      Writes (fun other => other = id ∧ mark = .processed) (fun other => other = id ∧ ∃ error, mark = .deadLettered error) db
        ((OutboxRepository.update id change keeps db).toOption.getD db) := by
    unfold OutboxRepository.update
    split
    · refine .updateMany rfl fun row _ matched => ⟨keeps row, ?_, .inr (.inl (dead row))⟩
      exact .inr ((late row).imp_right fun processed => ⟨beq_iff_eq.mp matched, processed⟩)
    · exact .refl db
  cases mark with
  | processed => exact updates _ _ (fun _ => .inr rfl) fun _ => rfl
  | failed error => exact updates _ _ (fun _ => .inl rfl) fun _ => rfl
  | deadLettered error =>
    refine .updateMany rfl fun row _ matched => ⟨rfl, .inr (.inl rfl), .inr (.inr ⟨?_, error, rfl⟩)⟩
    rw [undelivered, Bool.and_eq_true, beq_iff_eq] at matched
    exact matched.1

theorem Transaction.writes (transaction : Transaction) (db : Db) :
    Writes (fun id => ∃ marked ∈ transaction.marks, id = marked.id ∧ marked.mark = .processed)
      (fun id => ∃ marked ∈ transaction.marks, id = marked.id ∧ ∃ error, marked.mark = .deadLettered error) db
      (transaction.apply db) := by
  unfold Transaction.apply
  induction transaction.marks generalizing db with
  | nil => exact .refl db
  | cons marked rest ih =>
    refine ((marked.writes db).trans (ih (marked.apply db))).mono ?_ ?_
    · rintro id (own | ⟨other, listed, meant⟩)
      · exact ⟨marked, List.mem_cons_self, own⟩
      · exact ⟨other, List.mem_cons_of_mem _ listed, meant⟩
    · rintro id (own | ⟨other, listed, meant⟩)
      · exact ⟨marked, List.mem_cons_self, own⟩
      · exact ⟨other, List.mem_cons_of_mem _ listed, meant⟩

end Rows

section Call

/-- What an open transaction knows of the rows it has locked. -/
structure Marking (db : Db) (unmarked : List String) (transaction : Transaction) : Prop where
  locked : ∀ row ∈ db.outboxEvents.rows, row.id ∈ transaction.claimed → claimable row = true
  held : ∀ id ∈ unmarked, id ∈ transaction.claimed
  own : ∀ marked ∈ transaction.marks, marked.id ∈ transaction.claimed
  ahead : ∀ marked ∈ transaction.marks, marked.id ∈ unmarked → marked.mark = .processed
  apart : ∀ first ∈ transaction.marks, ∀ second ∈ transaction.marks, first.id = second.id →
    first.mark = .processed → ∀ error, second.mark ≠ .deadLettered error

/-- The call does not dead-letter a row whose processed mark is in the transaction already. -/
def unsettled (transaction : Option Transaction) : Call → Bool
  | .mark id (.deadLettered _) => transaction.all fun held =>
    held.marks.all fun marked => marked.id != id || decide (marked.mark ≠ .processed)
  | _ => true

/-- What one call of a tick does to what the ticks share. -/
structure Moved (view next : View) (unmarked : List String) : Prop where
  distinct : unmarked.Nodup
  marking : ∀ transaction ∈ next.transaction, Marking next.db unmarked transaction
  claims : ∀ id ∈ next.transaction.elim [] (·.claimed), id ∈ view.transaction.elim [] (·.claimed) ∨ id ∉ view.locked
  writes : Writes (· ∈ view.transaction.elim [] (·.claimed)) (· ∈ view.transaction.elim [] (·.claimed)) view.db next.db
  exclusive : Exclusive view.db → Exclusive next.db

variable {view next : View} {unmarked fewer : List String} {request : Call} {choice : Choice} {db after : Db}
  {transaction : Transaction}

theorem claimable_iff {row : OutboxEvent} :
    claimable row = true ↔ row.processedAt = none ∧ row.deadLetteredAt = none := by
  rw [claimable, Bool.and_eq_true, Option.isNone_iff_eq_none, Option.isNone_iff_eq_none]

/-- A row that was free and that a write does not name. -/
theorem Writes.free {processed deadLettered : String → Prop} (writes : Writes processed deadLettered db after)
    {row : OutboxEvent} (stored : row ∈ after.outboxEvents.rows) (spared : ¬processed row.id ∧ ¬deadLettered row.id)
    (was : ∀ old ∈ db.outboxEvents.rows, old.id = row.id → claimable old = true) : claimable row = true := by
  obtain ⟨old, here, named, late, dead⟩ := writes.source row stored
  obtain ⟨free, alive⟩ := claimable_iff.mp (was old here named)
  refine claimable_iff.mpr ⟨?_, ?_⟩
  · rcases late with none | kept | listed
    · exact none
    · exact kept.trans free
    · exact absurd listed spared.1
  · rcases dead with none | kept | listed
    · exact none
    · exact kept.trans alive
    · exact absurd listed spared.2

/-- A write that leaves the locked rows alone. -/
theorem Marking.frame {processed deadLettered : String → Prop} (marking : Marking db unmarked transaction)
    (writes : Writes processed deadLettered db after)
    (spared : ∀ id ∈ transaction.claimed, ¬processed id ∧ ¬deadLettered id) : Marking after unmarked transaction :=
  { marking with
    locked := fun row stored claimed =>
      writes.free stored (spared row.id claimed) fun old here named => marking.locked old here (named ▸ claimed) }

theorem Marking.narrow (marking : Marking db unmarked transaction) (subset : fewer ⊆ unmarked) :
    Marking db fewer transaction :=
  { marking with
    held := fun id listed => marking.held id (subset listed)
    ahead := fun marked listed left => marking.ahead marked listed (subset left) }

/-- The transaction after a mark of the next row. -/
theorem Marking.mark {id : String} {mark : Mark} {now : Date} (marking : Marking db unmarked transaction)
    (mine : id ∈ unmarked) (subset : fewer ⊆ unmarked) (settled : id ∈ fewer → mark = .processed)
    (fresh : ∀ error, mark = .deadLettered error → ∀ marked ∈ transaction.marks, marked.id = id → marked.mark ≠ .processed) :
    Marking db fewer { transaction with marks := transaction.marks ++ [⟨id, mark, now⟩] } where
  locked := marking.locked
  held other listed := marking.held other (subset listed)
  own marked listed := by
    rcases List.mem_append.mp listed with old | new
    · exact marking.own marked old
    · obtain rfl := List.mem_singleton.mp new
      exact marking.held id mine
  ahead marked listed left := by
    rcases List.mem_append.mp listed with old | new
    · exact marking.ahead marked old (subset left)
    · obtain rfl := List.mem_singleton.mp new
      exact settled left
  apart first early second late same processed error dead := by
    rcases List.mem_append.mp early with old | new
    · rcases List.mem_append.mp late with older | newer
      · exact marking.apart first old second older same processed error dead
      · obtain rfl := List.mem_singleton.mp newer
        exact fresh error dead first old same processed
    · obtain rfl := List.mem_singleton.mp new
      rcases List.mem_append.mp late with older | newer
      · have processed := marking.ahead second older (same ▸ mine)
        rw [processed] at dead
        cases dead
      · obtain rfl := List.mem_singleton.mp newer
        rw [processed] at dead
        cases dead

/-- A call that leaves the events and the transaction. -/
theorem Moved.stays (marking : ∀ held ∈ view.transaction, Marking view.db unmarked held)
    (transaction : next.transaction = view.transaction) (events : next.db.outboxEvents = view.db.outboxEvents)
    (subset : fewer ⊆ unmarked) (nodup : fewer.Nodup) : Moved view next fewer where
  distinct := nodup
  marking held present := by
    have before := (marking held (transaction ▸ present)).narrow subset
    exact { before with locked := fun row stored => before.locked row (events ▸ stored) }
  claims id listed := .inl (transaction ▸ listed)
  writes := ⟨fun row stored => ⟨row, events ▸ stored, rfl, .inr (.inl rfl), .inr (.inl rfl)⟩⟩
  exclusive exclusive row stored := exclusive row (events ▸ stored)

/-- A transaction that ends without a write. -/
theorem Moved.abandons (nodup : fewer.Nodup) : Moved view { view with transaction := none } fewer where
  distinct := nodup
  marking := nofun
  claims := nofun
  writes := .refl _
  exclusive := id

theorem settling_next_mark (unmarked : List String) (id : String) (mark : Mark) (answer : Except Thrown Unit) :
    settling.next unmarked (.mark id mark) answer = unmarked.tail ∨
      settling.next unmarked (.mark id mark) answer = unmarked ∧ mark = .processed := by
  cases mark <;> cases answer <;> first | exact .inl rfl | exact .inr ⟨rfl, rfl⟩

theorem moved_claimBatch {limit : Nat} {answer : Except Thrown (List OutboxEvent)}
    (marking : ∀ held ∈ view.transaction, Marking view.db [] held)
    (ran : exec view (.claimBatch limit) choice = some (answer, next)) :
    Moved view next (settling.next [] (.claimBatch limit) answer) := by
  have opens (rest : List String) (nodup : rest.Nodup)
      (subset : rest ⊆ (claimBatch limit view.locked view.db).map (·.id)) :
      Moved view { view with transaction := some { claimed := (claimBatch limit view.locked view.db).map (·.id) } } rest := by
    refine ⟨nodup, fun held present => ?_, fun id listed => ?_, .refl _, fun exclusive => exclusive⟩
    · cases present
      refine ⟨fun row stored claimed => ?_, fun id listed => subset listed, nofun, nofun, nofun⟩
      obtain ⟨free, listed, named⟩ := List.mem_map.mp claimed
      obtain ⟨here, claims, _⟩ := claimed_iff listed
      exact event_eq_of_id here stored named ▸ claims
    · obtain ⟨row, member, rfl⟩ := List.mem_map.mp listed
      exact .inr (claimed_iff member).2.2
  rcases Choice.carryOut_cases (Option.some.inj ran) with ⟨_, rfl, rfl⟩ | ⟨_, _, rfl, rfl⟩ | ⟨_, _, rfl, rfl⟩
  · exact .stays marking rfl rfl (List.Subset.refl _) .nil
  · exact opens [] .nil (List.nil_subset _)
  · exact opens _ (nodup_claimed _ _ _) (List.Subset.refl _)

theorem moved_mark {id : String} {mark : Mark} {answer : Except Thrown Unit} (nodup : unmarked.Nodup)
    (marking : ∀ held ∈ view.transaction, Marking view.db unmarked held) (head : unmarked.head? = some id)
    (safe : unsettled view.transaction (.mark id mark) = true)
    (ran : exec view (.mark id mark) choice = some (answer, next)) :
    Moved view next (settling.next unmarked (.mark id mark) answer) := by
  obtain ⟨rest, rfl⟩ : ∃ rest, unmarked = id :: rest := by
    cases unmarked with
    | nil => cases head
    | cons first rest => exact ⟨rest, by rw [Option.some.inj head]⟩
  obtain ⟨apart, distinct⟩ := List.nodup_cons.mp nodup
  have after := settling_next_mark (id :: rest) id mark answer
  have subset : settling.next (id :: rest) (.mark id mark) answer ⊆ id :: rest := by
    rcases after with same | ⟨same, _⟩ <;> rw [same]
    · exact List.subset_cons_self _ _
    · exact List.Subset.refl _
  have nodup : (settling.next (id :: rest) (.mark id mark) answer).Nodup := by
    rcases after with same | ⟨same, _⟩ <;> rw [same]
    · exact distinct
    · exact nodup
  simp only [exec] at ran
  split at ran
  · cases ran
    exact .stays marking rfl rfl subset nodup
  · rename_i transaction present
    split at ran
    · have settled : id ∈ settling.next (id :: rest) (.mark id mark) answer → mark = .processed := fun listed => by
        rcases after with same | ⟨_, processed⟩
        · rw [same] at listed
          exact absurd listed apart
        · exact processed
      have adds : Moved view { view with transaction := some { transaction with
          marks := transaction.marks ++ [⟨id, mark, choice.now⟩] } } (settling.next (id :: rest) (.mark id mark) answer) := by
        refine ⟨nodup, fun held is => ?_, fun other listed => .inl ?_, .refl _, fun exclusive => exclusive⟩
        · cases is
          refine (marking transaction present).mark List.mem_cons_self subset settled fun error dead marked listed named => ?_
          subst dead
          rw [present] at safe
          have other := List.all_eq_true.mp safe marked listed
          simpa [named] using other
        · rw [present]
          exact listed
      rcases Choice.carryOut_cases (Option.some.inj ran) with ⟨_, _, rfl⟩ | ⟨_, _, _, rfl⟩ | ⟨_, _, _, rfl⟩
      · split
        · exact .abandons nodup
        · exact .stays marking rfl rfl subset nodup
      · exact adds
      · exact adds
    · cases ran
      exact .stays marking rfl rfl subset nodup

theorem moved_commit {answer : Except Thrown Unit} (marking : ∀ held ∈ view.transaction, Marking view.db unmarked held)
    (ran : exec view .commit choice = some (answer, next)) : Moved view next (settling.next unmarked .commit answer) := by
  rw [show settling.next unmarked .commit answer = [] by cases answer <;> rfl]
  simp only [exec] at ran
  split at ran
  · cases ran
    exact .stays marking rfl rfl (List.nil_subset _) .nil
  · rename_i transaction present
    have held := marking transaction present
    have commits : Moved view { view with
        db := transaction.apply view.db
        transaction := none } [] := by
      have writes := transaction.writes view.db
      refine ⟨.nil, fun held none => absurd none (Option.not_mem_none held), fun _ none => absurd none List.not_mem_nil,
        writes.mono ?_ ?_, fun exclusive row stored => ?_⟩
      · rintro id ⟨marked, listed, rfl, _⟩
        rw [present]
        exact held.own marked listed
      · rintro id ⟨marked, listed, rfl, _⟩
        rw [present]
        exact held.own marked listed
      · obtain ⟨old, here, named, late, dead⟩ := writes.source row stored
        have free (marked : Marked) (listed : marked ∈ transaction.marks) (same : row.id = marked.id) :
            old.processedAt = none ∧ old.deadLetteredAt = none :=
          claimable_iff.mp (held.locked old here (named.trans same ▸ held.own marked listed))
        rcases late with none | kept | ⟨first, early, same, processed⟩
        · exact .inl none
        · rcases dead with none | still | ⟨second, later, named, _⟩
          · exact .inr none
          · rw [kept, still]
            exact exclusive old here
          · exact .inl (kept.trans (free second later named).1)
        · rcases dead with none | still | ⟨second, later, named, error, dead⟩
          · exact .inr none
          · exact .inr (still.trans (free first early same).2)
          · exact absurd dead (held.apart first early second later (same.symm.trans named) processed error)
    rcases Choice.carryOut_cases (Option.some.inj ran) with ⟨_, _, rfl⟩ | ⟨_, _, _, rfl⟩ | ⟨_, _, _, rfl⟩
    · exact .abandons .nil
    · exact commits
    · exact commits

theorem moved_markDeferredFailed {id error : String} {answer : Except Thrown Unit} (nodup : unmarked.Nodup)
    (marking : ∀ held ∈ view.transaction, Marking view.db unmarked held)
    (ran : exec view (.markDeferredFailed id error) choice = some (answer, next)) : Moved view next unmarked := by
  have stays : Moved view view unmarked := .stays marking rfl rfl (List.Subset.refl _) nodup
  simp only [exec] at ran
  split at ran
  · cases ran
    exact stays
  · rename_i db written
    have marks : Moved view { view with db } unmarked := by
      have writes : Writes (fun _ => False) (fun _ => False) view.db db := by
        unfold markDeferredFailed OutboxRepository.update at written
        split at written
        · cases written
          exact .updateMany rfl fun _ _ _ => ⟨rfl, .inr (.inl rfl), .inr (.inl rfl)⟩
        · cases written
      refine ⟨nodup, fun held present => ?_, fun _ => .inl, writes.mono (fun _ => False.elim) (fun _ => False.elim),
        fun exclusive row stored => ?_⟩
      · exact (marking held present).frame writes fun _ _ => ⟨not_false, not_false⟩
      · obtain ⟨old, here, _, late, dead⟩ := writes.source row stored
        rcases late with none | kept | none
        · exact .inl none
        · rcases dead with none | still | none
          · exact .inr none
          · rw [kept, still]
            exact exclusive old here
          · cases none
        · cases none
    rcases Choice.carryOut_cases (Option.some.inj ran) with ⟨_, _, rfl⟩ | ⟨_, _, _, rfl⟩ | ⟨_, _, _, rfl⟩
    · exact stays
    · exact marks
    · exact marks

theorem moved_of_exec {answer : Except Thrown request.Value} (nodup : unmarked.Nodup)
    (marking : ∀ held ∈ view.transaction, Marking view.db unmarked held) (allowed : settling.allowed unmarked request)
    (safe : unsettled view.transaction request = true) (ran : exec view request choice = some (answer, next)) :
    Moved view next (settling.next unmarked request answer) := by
  cases handler : request.bookkeeping with
  | false =>
    obtain ⟨transaction, events⟩ := exec_untouched handler ran
    rw [show settling.next unmarked request answer = unmarked by cases request <;> first | rfl | cases handler]
    exact .stays marking transaction events (List.Subset.refl _) nodup
  | true =>
    cases request with
    | claimBatch limit =>
      obtain rfl : unmarked = [] := allowed
      exact moved_claimBatch marking ran
    | mark id mark => exact moved_mark nodup marking allowed safe ran
    | commit => exact moved_commit marking ran
    | rollback =>
      cases ran
      exact .abandons .nil
    | markDeferredFailed id error =>
      rw [show settling.next unmarked (.markDeferredFailed id error) answer = unmarked by cases answer <;> rfl]
      exact moved_markDeferredFailed nodup marking ran
    | _ => cases handler

end Call

section Run

/-- Operators dead-letter no event that is processed, and no tick dead-letters one whose
processed mark its transaction has carried out. -/
def orderly (floor : Floor) : Operation → Bool
  | .forceDeadLetter eventId _ _ _ => floor.db.outboxEvents.rows.all fun row =>
    row.id != eventId || row.processedAt.isNone
  | .act slot _ => (floor.ticks.task? slot).all fun tick => tick.task.pending?.all (unsettled tick.transaction)
  | _ => true

/-- No tick is running, and no event is in both terminal states. -/
structure Resting (floor : Floor) : Prop where
  ticks : floor.ticks = []
  exclusive : Exclusive floor.db

structure Orderly (floor : Floor) : Prop where
  exclusive : Exclusive floor.db
  follows : ∀ {slot tick}, floor.ticks.task? slot = some tick → tick.task.Follows settling fun _ _ => True
  distinct : ∀ {slot tick}, floor.ticks.task? slot = some tick → tick.task.phase.Nodup
  marking : ∀ {slot tick}, floor.ticks.task? slot = some tick → ∀ held ∈ tick.transaction,
    Marking floor.db tick.task.phase held
  apart : ∀ {slot away tick other}, floor.ticks.task? slot = some tick → floor.ticks.task? away = some other →
    slot ≠ away → ∀ id ∈ tick.claimed, id ∉ other.claimed

variable {floor next : Floor} {slot : Nat} {context : DrainerContext}

theorem Resting.orderly (resting : Resting floor) : Orderly floor := by
  have noTick (slot : Nat) : floor.ticks.task? slot = none := by rw [resting.ticks]; rfl
  refine ⟨resting.exclusive, fun live => ?_, fun live => ?_, fun live => ?_, fun live => ?_⟩
  all_goals exact absurd ((noTick _).symm.trans live) nofun

theorem Orderly.locked_free (orderly : Orderly floor) {row : OutboxEvent} (stored : row ∈ floor.db.outboxEvents.rows)
    (listed : row.id ∈ locked floor.ticks) : claimable row = true := by
  obtain ⟨slot, tick, live, claimed⟩ := mem_locked.mp listed
  cases present : tick.transaction with
  | none =>
    rw [Tick.claimed, present] at claimed
    cases claimed
  | some held =>
    rw [Tick.claimed, present] at claimed
    exact (orderly.marking live held present).locked row stored claimed

/-- A store written beside the ticks. -/
theorem Orderly.rewritten {after : Db} (orderly : Orderly floor)
    (free : ∀ row ∈ after.outboxEvents.rows, row.id ∈ locked floor.ticks → claimable row = true)
    (exclusive : Exclusive after) : Orderly { floor with db := after } where
  exclusive := exclusive
  follows := orderly.follows
  distinct := orderly.distinct
  marking live held present := { orderly.marking live held present with
    locked := fun row stored claimed => free row stored (mem_locked.mpr ⟨_, _, live, by
      rw [Tick.claimed, present]
      exact claimed⟩) }
  apart := orderly.apart

theorem Orderly.start (orderly : Orderly floor) (batchSize : Nat) : Orderly (floor.start [] context batchSize) := by
  have cases {place : Nat} {tick : Tick (List String)}
      (live : (floor.start [] context batchSize).ticks.task? place = some tick) :
      floor.ticks.task? place = some tick ∨ tick.transaction = none ∧ tick.task.phase = [] ∧
        tick.task.Follows settling fun _ _ => True := by
    by_cases inside : place < floor.ticks.length
    · exact .inl ((Pool.task?_spawn_lt inside).symm.trans live)
    · have last : place = floor.ticks.length := by
        have := Pool.task?_lt live
        rw [World.start, Pool.length_spawn] at this
        omega
      subst last
      cases Option.some.inj (Pool.task?_spawn_last.symm.trans live)
      refine .inr ⟨rfl, rfl, (obeys_bind ..).mpr ((runDrainTick_settling context batchSize).mono fun _ outcome _ => ?_)⟩
      cases outcome <;> trivial
  refine ⟨orderly.exclusive, fun live => ?_, fun live => ?_, fun live => ?_, fun left right away id claimed => ?_⟩
  · exact (cases live).elim orderly.follows fun fresh => fresh.2.2
  · exact (cases live).elim orderly.distinct fun fresh => fresh.2.1 ▸ .nil
  · exact (cases live).elim orderly.marking fun fresh held present => absurd (fresh.1 ▸ present) (Option.not_mem_none held)
  · rcases cases left with old | fresh
    · rcases cases right with there | new
      · exact orderly.apart old there away id claimed
      · rw [Tick.claimed, new.1]
        exact List.not_mem_nil
    · rw [Tick.claimed, fresh.1] at claimed
      cases claimed

/-- A tick that loses its transaction, or ends with it. -/
theorem Orderly.put {tick moved : Tick (List String)} (orderly : Orderly floor)
    (live : floor.ticks.task? slot = some tick) (follows : moved.task.Follows settling fun _ _ => True)
    (distinct : moved.task.phase.Nodup) (closed : moved.transaction = none) :
    Orderly { floor with ticks := floor.ticks.put slot moved } := by
  have empty : moved.claimed = [] := by rw [Tick.claimed, closed]; rfl
  refine ⟨orderly.exclusive, fun present => ?_, fun present => ?_, fun present => ?_, fun left right away id claimed => ?_⟩
  · rcases Pool.task?_put_cases live present with ⟨_, rfl⟩ | ⟨_, old⟩
    · exact follows
    · exact orderly.follows old
  · rcases Pool.task?_put_cases live present with ⟨_, rfl⟩ | ⟨_, old⟩
    · exact distinct
    · exact orderly.distinct old
  · rcases Pool.task?_put_cases live present with ⟨_, rfl⟩ | ⟨_, old⟩
    · rw [closed]
      exact fun held none => absurd none (Option.not_mem_none held)
    · exact orderly.marking old
  · rcases Pool.task?_put_cases live left with ⟨_, rfl⟩ | ⟨_, old⟩
    · rw [empty] at claimed
      cases claimed
    · rcases Pool.task?_put_cases live right with ⟨_, rfl⟩ | ⟨_, there⟩
      · rw [empty]
        exact List.not_mem_nil
      · exact orderly.apart old there away id claimed

theorem Orderly.expire (orderly : Orderly floor) (moved : floor.expire slot = some next) : Orderly next := by
  obtain ⟨tick, live, rfl⟩ := Option.map_eq_some_iff.mp moved
  have follows := orderly.follows live
  have distinct := orderly.distinct live
  exact orderly.put live follows distinct rfl

theorem Orderly.crash (orderly : Orderly floor) (moved : floor.crash slot = some next) : Orderly next := by
  obtain ⟨tick, live, rfl⟩ := Option.map_eq_some_iff.mp moved
  have old {place : Nat} {found : Tick (List String)} (present : (floor.ticks.clear slot).task? place = some found) :
      floor.ticks.task? place = some found := by
    by_cases same : slot = place
    · subst same
      rw [Pool.task?_clear] at present
      cases present
    · rwa [Pool.task?_clear_other same] at present
  exact ⟨orderly.exclusive, fun present => orderly.follows (old present), fun present => orderly.distinct (old present),
    fun present => orderly.marking (old present), fun left right => orderly.apart (old left) (old right)⟩

theorem Orderly.act {choice : Choice} (orderly : Orderly floor) (safe : Outbox.orderly floor (.act slot choice) = true)
    (moved : floor.act settling slot choice = some next) : Orderly next := by
  obtain ⟨tick, live, moved⟩ := Option.bind_eq_some_iff.mp moved
  obtain ⟨⟨view, task⟩, advanced, rfl⟩ := Option.map_eq_some_iff.mp moved
  obtain ⟨request, answer, pending, allowed, executed, _, phase, follows⟩ :=
    Task.Follows.advance (orderly.follows live) advanced
  have safe : unsettled tick.transaction request = true := by
    simpa [Outbox.orderly, live, pending] using safe
  have moved := moved_of_exec (orderly.distinct live) (orderly.marking live) allowed safe executed
  rw [← phase] at moved
  have unshared {away : Nat} {other : Tick (List String)} (apart : slot ≠ away)
      (found : floor.ticks.task? away = some other) : ∀ id ∈ view.transaction.elim [] (·.claimed), id ∉ other.claimed := by
    intro id claimed listed
    rcases moved.claims id claimed with mine | free
    · exact orderly.apart live found apart id mine listed
    · exact free (mem_locked.mpr ⟨away, other, (Pool.task?_clear_other apart).trans found, listed⟩)
  refine ⟨moved.exclusive orderly.exclusive, fun present => ?_, fun present => ?_, fun present => ?_,
    fun left right away => ?_⟩
  · rcases Pool.task?_put_cases live present with ⟨_, rfl⟩ | ⟨_, old⟩
    · exact follows
    · exact orderly.follows old
  · rcases Pool.task?_put_cases live present with ⟨_, rfl⟩ | ⟨_, old⟩
    · exact moved.distinct
    · exact orderly.distinct old
  · rcases Pool.task?_put_cases live present with ⟨_, rfl⟩ | ⟨apart, old⟩
    · exact moved.marking
    · intro held is
      refine (orderly.marking old held is).frame moved.writes fun id claimed => ?_
      have free : id ∉ tick.claimed := fun mine => orderly.apart live old apart id mine (by
        rw [Tick.claimed, is]
        exact claimed)
      exact ⟨free, free⟩
  · rcases Pool.task?_put_cases live left with ⟨rfl, rfl⟩ | ⟨_, old⟩
    · rcases Pool.task?_put_cases live right with ⟨rfl, _⟩ | ⟨apart, found⟩
      · exact absurd rfl away
      · exact unshared apart found
    · rcases Pool.task?_put_cases live right with ⟨rfl, rfl⟩ | ⟨_, found⟩
      · exact fun id mine listed => unshared away.symm old id listed mine
      · exact orderly.apart old found away

theorem forceDeadLetter_events (eventId reason actorId : String) (now : Date) (db : Db) :
    (forceDeadLetter eventId reason actorId now db).2.outboxEvents = db.outboxEvents ∨
      ∃ error, (forceDeadLetter eventId reason actorId now db).2.outboxEvents =
        (markDeadLettered eventId error now db).2.outboxEvents := by
  unfold forceDeadLetter
  split
  · exact .inl rfl
  · dsimp only
    split <;> exact .inr ⟨_, rfl⟩

theorem replayEvent_events (eventId reason actorId : String) (db : Db) :
    (replayEvent eventId reason actorId db).2.outboxEvents = db.outboxEvents ∨
      (replayEvent eventId reason actorId db).2.outboxEvents = (requeueDeadLettered eventId db).2.outboxEvents := by
  unfold replayEvent
  split
  · exact .inl rfl
  · dsimp only
    split <;> exact .inr rfl

theorem forceDeadLetter_writes (eventId reason actorId : String) (now : Date) (db : Db) :
    Writes (fun _ => False) (· = eventId) db (forceDeadLetter eventId reason actorId now db).2 := by
  rcases forceDeadLetter_events eventId reason actorId now db with same | ⟨error, same⟩
  · exact ⟨fun row stored => ⟨row, same ▸ stored, rfl, .inr (.inl rfl), .inr (.inl rfl)⟩⟩
  · refine .updateMany (congrArg Table.rows same) fun row _ matched => ⟨rfl, .inr (.inl rfl), .inr (.inr ?_)⟩
    rw [undelivered, Bool.and_eq_true, beq_iff_eq] at matched
    exact matched.1

theorem replayEvent_writes (eventId reason actorId : String) (db : Db) :
    Writes (fun _ => False) (fun _ => False) db (replayEvent eventId reason actorId db).2 := by
  rcases replayEvent_events eventId reason actorId db with same | same
  · exact ⟨fun row stored => ⟨row, same ▸ stored, rfl, .inr (.inl rfl), .inr (.inl rfl)⟩⟩
  · exact .updateMany (congrArg Table.rows same) fun row _ _ => ⟨rfl, .inr (.inl rfl), .inl rfl⟩

/-- A write that processes nothing and dead-letters only what is not processed. -/
theorem Writes.exclusive {deadLettered : String → Prop} {before after : Db}
    (writes : Writes (fun _ => False) deadLettered before after) (exclusive : Exclusive before)
    (free : ∀ row ∈ before.outboxEvents.rows, deadLettered row.id → row.processedAt = none) : Exclusive after := by
  intro row stored
  obtain ⟨old, here, named, late, dead⟩ := writes.source row stored
  rcases late with none | kept | none
  · exact .inl none
  · rcases dead with none | still | listed
    · exact .inr none
    · rw [kept, still]
      exact exclusive old here
    · exact .inl (kept.trans (free old here (named ▸ listed)))
  · cases none

theorem Orderly.step {operation : Operation} (orderly : Orderly floor) (safe : Outbox.orderly floor operation = true)
    (moved : (operated context).step floor operation = some next) : Orderly next := by
  cases operation with
  | start batchSize =>
    cases moved
    exact orderly.start batchSize
  | act slot choice => exact orderly.act safe moved
  | expire slot => exact orderly.expire moved
  | crash slot => exact orderly.crash moved
  | forceDeadLetter eventId reason actorId now =>
    simp only [operated, World.operate] at moved
    split at moved
    · cases moved
    · rename_i free
      cases moved
      have writes := forceDeadLetter_writes eventId reason actorId now floor.db
      refine orderly.rewritten (fun row stored listed => writes.free stored ⟨not_false, fun same => free (same ▸ listed)⟩
        fun old here named => orderly.locked_free here (named ▸ listed)) ?_
      refine writes.exclusive orderly.exclusive fun row stored named => ?_
      have unprocessed := List.all_eq_true.mp safe row stored
      simpa [named] using unprocessed
  | replayEvent eventId reason actorId =>
    simp only [operated, World.operate] at moved
    split at moved
    · cases moved
    · cases moved
      have writes := replayEvent_writes eventId reason actorId floor.db
      exact orderly.rewritten (fun row stored listed => writes.free stored ⟨not_false, not_false⟩
        fun old here named => orderly.locked_free here (named ▸ listed)) (writes.exclusive orderly.exclusive nofun)
  | elsewhere after =>
    simp only [operated, Floor.elsewhere] at moved
    split at moved
    · rename_i publishes
      cases moved
      have known (row : OutboxEvent) (stored : row ∈ after.outboxEvents.rows) : claimable row = true ∨
          ∃ old ∈ floor.db.outboxEvents.rows, old.id = row.id ∧ old.processedAt = row.processedAt ∧
            old.deadLetteredAt = row.deadLetteredAt := by
        simpa [and_assoc, Table.any] using List.all_eq_true.mp publishes row stored
      refine orderly.rewritten (fun row stored listed => ?_) fun row stored => ?_
      · rcases known row stored with free | ⟨old, here, named, processed, dead⟩
        · exact free
        · have free := claimable_iff.mp (orderly.locked_free here (named ▸ listed))
          exact claimable_iff.mpr ⟨processed ▸ free.1, dead ▸ free.2⟩
      · rcases known row stored with free | ⟨old, here, named, processed, dead⟩
        · exact .inl (claimable_iff.mp free).1
        · rw [← processed, ← dead]
          exact orderly.exclusive old here
    · cases moved

theorem replayed_dead {eventId reason actorId : String} {event : EventSummary} {db : Db}
    (replayed : (replayEvent eventId reason actorId db).1 = .replayed event) :
    (∃ row ∈ db.outboxEvents.rows, row.id = eventId ∧ row.deadLetteredAt.isSome) ∧
      (replayEvent eventId reason actorId db).2.outboxEvents = (requeueDeadLettered eventId db).2.outboxEvents := by
  unfold replayEvent at replayed ⊢
  split at replayed
  · cases replayed
  · dsimp only at replayed ⊢
    split at replayed
    · rename_i requeued
      obtain ⟨row, stored, dead⟩ := Table.count_pos_iff.mp (of_decide_eq_true requeued)
      rw [deadLettered, Bool.and_eq_true, beq_iff_eq] at dead
      exact ⟨⟨row, stored, dead⟩, by split <;> rfl⟩
    · cases replayed

/-- What is processed and dead-lettered at once is no longer claimable once it is replayed. -/
theorem Exclusive.replayed {db : Db} (exclusive : Exclusive db) {eventId reason actorId : String} {event : EventSummary}
    (replayed : (replayEvent eventId reason actorId db).1 = .replayed event) :
    ∃ row ∈ (replayEvent eventId reason actorId db).2.outboxEvents.rows, row.id = eventId ∧ claimable row = true := by
  obtain ⟨⟨row, stored, named, dead⟩, events⟩ := replayed_dead replayed
  have matched : deadLettered eventId row = true := by simp [deadLettered, named, dead]
  have unprocessed : row.processedAt = none := by
    refine (exclusive row stored).resolve_right fun none => ?_
    rw [none] at dead
    cases dead
  rw [events]
  refine ⟨_, List.mem_map.mpr ⟨row, stored, rfl⟩, ?_⟩
  rw [if_pos matched]
  exact ⟨named, claimable_iff.mpr ⟨unprocessed, rfl⟩⟩

/-- While operators leave processed events alone, no event is processed and dead-lettered, and
an event that is reported as replayed can be claimed again. -/
theorem outbox_terminal {origin : Floor} (resting : Resting origin)
    (reach : Machine.Reach (operated context) (fun floor operation => orderly floor operation = true) origin floor) :
    Exclusive floor.db ∧ ∀ eventId reason actorId event,
      (replayEvent eventId reason actorId floor.db).1 = .replayed event →
      ∃ row ∈ (replayEvent eventId reason actorId floor.db).2.outboxEvents.rows, row.id = eventId ∧
        claimable row = true := by
  have orderly : Orderly floor := reach.invariant resting.orderly fun _ _ _ safe moved orderly => orderly.step safe moved
  exact ⟨orderly.exclusive, fun _ _ _ _ => orderly.exclusive.replayed⟩

section Samples

/-- An event that needs no handler waits in the outbox. -/
def scopesUpdated : OutboxEvent where
  id := "e"
  merchantId := "m"
  type := OutboxEventType.merchantScopesUpdated.text
  payload := .null
  createdAt := 0

def oneWaiting : Floor where
  db := {
    merchants := .single { id := "m", shop := "shop" }
    outboxEvents := .single scopesUpdated }

theorem oneWaiting_resting : Resting oneWaiting where
  ticks := rfl
  exclusive row stored := by
    rw [List.mem_singleton.mp stored]
    exact .inl rfl

/-- A tick processes the event, and then an operator dead-letters it. -/
def deadLetterProcessed : List Operation :=
  [.start 10] ++ List.replicate 3 (.act 0 {}) ++ [.forceDeadLetter "e" "stuck" "operator" 1]

theorem deadLetterProcessed_runs :
    ((operated winbackContext).runWhere (fun _ _ => true) oneWaiting deadLetterProcessed).isSome = true := by
  decide

/-- The event is in both terminal states; a replay is reported, and no tick claims it. -/
theorem replay_of_processed :
    ¬∀ (context : DrainerContext) (origin floor : Floor), Resting origin →
      Machine.Reach (operated context) (fun _ _ => True) origin floor →
      Exclusive floor.db ∧ ∀ eventId reason actorId event,
        (replayEvent eventId reason actorId floor.db).1 = .replayed event →
        ∃ row ∈ (replayEvent eventId reason actorId floor.db).2.outboxEvents.rows, row.id = eventId ∧
          claimable row = true := by
  intro claim
  obtain ⟨_, claims⟩ := claim winbackContext oneWaiting _ oneWaiting_resting
    ((Machine.reach_get deadLetterProcessed_runs).mono fun _ _ _ => trivial)
  obtain ⟨row, stored, _, free⟩ := claims "e" "again" "operator" ⟨"e", "m", "merchant.scopes_updated", "shop"⟩
    (by decide)
  have none : (replayEvent "e" "again" "operator" (((operated winbackContext).runWhere (fun _ _ => true) oneWaiting
      deadLetterProcessed).get deadLetterProcessed_runs).db).2.outboxEvents.rows.all (fun row => !claimable row) = true := by
    decide
  have taken := List.all_eq_true.mp none row stored
  simp [free] at taken

def deadLetterWaiting : List Operation := [.forceDeadLetter "e" "stuck" "operator" 1]

theorem deadLetterWaiting_runs :
    ((operated winbackContext).runWhere orderly oneWaiting deadLetterWaiting).isSome = true := by
  decide

theorem outbox_terminal_waiting :
    ∃ floor, Machine.Reach (operated winbackContext) (fun floor operation => orderly floor operation = true) oneWaiting
        floor ∧
      (replayEvent "e" "again" "operator" floor.db).1 = .replayed ⟨"e", "m", "merchant.scopes_updated", "shop"⟩ ∧
      ∃ row ∈ (replayEvent "e" "again" "operator" floor.db).2.outboxEvents.rows, row.id = "e" ∧ claimable row = true := by
  have reached := Machine.reach_get deadLetterWaiting_runs
  refine ⟨_, reached, by decide, ?_⟩
  exact (outbox_terminal oneWaiting_resting reached).2 "e" "again" "operator"
    ⟨"e", "m", "merchant.scopes_updated", "shop"⟩ (by decide)

end Samples

end Run

end WinBack.Outbox
