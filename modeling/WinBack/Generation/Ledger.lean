import WinBack.Generation.System

/-! The ledger that the worker keeps: a generation is settled once and for good, its
message carries its text, the spend buckets of a merchant add up to its completed
generations, and a discount is announced once. -/

namespace WinBack.Generation

open Library AiGenerationRepository

section Totals

/-- The sum of `spentMicrocents` over the buckets of a merchant. -/
def spentMicrocents (merchantId : MerchantId) (db : Db) : Int :=
  db.aiSpendBuckets.total fun row => if row.merchantId = merchantId then row.spentMicrocents else 0

def generationCount (merchantId : MerchantId) (db : Db) : Int :=
  db.aiSpendBuckets.total fun row => if row.merchantId = merchantId then row.generationCount else 0

def isCompleted (merchantId : MerchantId) (row : AiGeneration) : Bool :=
  row.merchantId == merchantId && row.status == .completed

/-- The sum of `costMicrocents` over the completed generations of a merchant. -/
def costMicrocents (merchantId : MerchantId) (db : Db) : Int :=
  db.aiGenerations.total fun row => if isCompleted merchantId row then row.costMicrocents.getD 0 else 0

def completedGenerations (merchantId : MerchantId) (db : Db) : Nat :=
  db.aiGenerations.count (isCompleted merchantId)

def isDiscountAudit (aiGenerationId : String) (row : AuditLog) : Bool :=
  row.action == discountCreatedAction && row.targetId == some aiGenerationId

def discountAudits (aiGenerationId : String) (db : Db) : Nat := db.auditLogs.countP (isDiscountAudit aiGenerationId)

end Totals

/-- The ledger invariant. -/
structure Balanced (db : Db) : Prop where
  messages : ∀ generation ∈ db.aiGenerations.rows, ∃ message ∈ db.messages.rows,
    message.aiGenerationId = generation.id ∧ message.merchantId = generation.merchantId ∧
      (generation.status = .completed → generation.generatedText = some message.generatedText)
  spent : ∀ merchantId, spentMicrocents merchantId db = costMicrocents merchantId db
  counted : ∀ merchantId, generationCount merchantId db = completedGenerations merchantId db
  audits : ∀ aiGenerationId, discountAudits aiGenerationId db ≤ 1
  announced : ∀ aiGenerationId, 0 < discountAudits aiGenerationId db →
    ∃ generation ∈ db.aiGenerations.rows, generation.id = aiGenerationId ∧ generation.status = .completed

/-- A generation that has left `pending` stays as it is. -/
def Settles (db next : Db) : Prop :=
  ∀ generation ∈ db.aiGenerations.rows, generation.status ≠ .pending → generation ∈ next.aiGenerations.rows

/-- Generations that no worker has touched, each with its draft, and nothing spent. -/
structure Start (db : Db) : Prop where
  pending : ∀ generation ∈ db.aiGenerations.rows, generation.status = .pending
  drafts : ∀ generation ∈ db.aiGenerations.rows, ∃ message ∈ db.messages.rows,
    message.aiGenerationId = generation.id ∧ message.merchantId = generation.merchantId
  unspent : ∀ bucket ∈ db.aiSpendBuckets.rows, bucket.spentMicrocents = 0 ∧ bucket.generationCount = 0
  unannounced : ∀ row ∈ db.auditLogs, row.action ≠ discountCreatedAction

variable {db next final : Db} {scope : MerchantId} {generation : AiGeneration}

theorem Start.balanced (start : Start db) : Balanced db := by
  have zero {Row : Type} [Indexed Row] {table : Table Row} {measure : Row → Int}
      (none : ∀ row ∈ table.rows, measure row = 0) : table.total measure = 0 := by
    rw [Table.total_congr none]
    simp [Table.total]
  have unannounced (aiGenerationId : String) : discountAudits aiGenerationId db = 0 := by
    rw [discountAudits, List.countP_eq_zero]
    intro row member
    simp [isDiscountAudit, start.unannounced row member]
  have unfinished (merchantId : MerchantId) : ∀ row ∈ db.aiGenerations.rows, isCompleted merchantId row = false := by
    intro row member
    simp [isCompleted, start.pending row member]
  refine ⟨fun generation member => ?_, fun merchantId => ?_, fun merchantId => ?_, fun aiGenerationId => ?_,
    fun aiGenerationId some => ?_⟩
  · obtain ⟨message, stored, own, same⟩ := start.drafts generation member
    exact ⟨message, stored, own, same, fun done => by simp [start.pending generation member] at done⟩
  · rw [spentMicrocents, costMicrocents, zero fun row member => by simp [(start.unspent row member).1],
      zero fun row member => by simp [unfinished merchantId row member]]
  · rw [generationCount, completedGenerations, ← Table.total_indicator,
      zero fun row member => by simp [(start.unspent row member).2],
      zero fun row member => by simp [unfinished merchantId row member]]
  · rw [unannounced aiGenerationId]
    exact Nat.zero_le 1
  · rw [unannounced aiGenerationId] at some
    cases some

theorem Settles.refl (db : Db) : Settles db db := fun _ member _ => member

theorem Settles.trans (first : Settles db next) (second : Settles next final) : Settles db final :=
  fun generation member left => second generation (first generation member left) left

section Spend

variable {date : Date} {delta : Int}

theorem bucketOf_pins (merchantId : MerchantId) (date : Date) (first second : AiSpendBucket)
    (here : AiSpendBucketRepository.bucketOf merchantId date first = true)
    (there : AiSpendBucketRepository.bucketOf merchantId date second = true) :
    Indexed.clash (Indexed.index first) (Indexed.index second) = true := by
  simp only [AiSpendBucketRepository.bucketOf, Bool.and_eq_true, beq_iff_eq] at here there
  simp [Indexed.clash, Indexed.index, here.1, here.2, there.1, there.2]

/-- An increment writes one bucket, and moves a total over the buckets of the merchant
by what it adds to that bucket. -/
theorem incrementSpend_ok (done : AiSpendBucketRepository.incrementSpend scope date delta db = .ok next) :
    next = { db with aiSpendBuckets := next.aiSpendBuckets } ∧
      ∀ (column : AiSpendBucket → Int) (gain : Int),
        (∀ row : AiSpendBucket, column { row with
          spentMicrocents := row.spentMicrocents + delta
          generationCount := row.generationCount + 1 } = column row + gain) →
        (∀ row : AiSpendBucket, column { row with spentMicrocents := delta, generationCount := 1 } = gain) →
        ∀ merchantId, (next.aiSpendBuckets.total fun row => if row.merchantId = merchantId then column row else 0) =
          (db.aiSpendBuckets.total fun row => if row.merchantId = merchantId then column row else 0) +
            if scope = merchantId then gain else 0 := by
  unfold AiSpendBucketRepository.incrementSpend at done
  split at done
  · rename_i present
    cases done
    refine ⟨rfl, fun column gain bumped _ merchantId => ?_⟩
    obtain ⟨row, stored, matched⟩ := List.any_eq_true.mp present
    rw [Table.total_updateMany (bucketOf_pins scope date) stored matched]
    have owner : row.merchantId = scope := by
      simp only [AiSpendBucketRepository.bucketOf, Bool.and_eq_true, beq_iff_eq] at matched
      exact matched.1
    have moved := bumped row
    simp only [owner] at moved ⊢
    split <;> omega
  · split at done
    · cases done
    · rename_i buckets inserted
      split at done
      · cases done
        refine ⟨rfl, fun column gain _ fresh merchantId => ?_⟩
        rw [Table.total_insert? inserted]
        simp only [fresh { merchantId := scope, date := utcMidnight date }]
      · cases done

end Spend

section Pending

theorem pending_pins (scope : MerchantId) (aiGenerationId : String) (first second : AiGeneration)
    (here : pending scope aiGenerationId first = true) (there : pending scope aiGenerationId second = true) :
    Indexed.clash (Indexed.index first) (Indexed.index second) = true := by
  simp only [pending, Bool.and_eq_true, beq_iff_eq] at here there
  simp [Indexed.clash, Indexed.index, here.1.1, there.1.1]

theorem complete_index (args : MarkCompletedArgs) (now : Date) (row : AiGeneration) :
    Indexed.index (complete args now row) = Indexed.index row := rfl

/-- A compare-and-set from `pending` settles. -/
theorem settles_updateMany {aiGenerationId : String} {change : AiGeneration → AiGeneration}
    (rows : next.aiGenerations.rows = db.aiGenerations.rows.map fun row =>
      if pending scope aiGenerationId row then change row else row) : Settles db next := by
  intro generation member left
  rw [rows]
  refine List.mem_map.mpr ⟨generation, member, if_neg ?_⟩
  simp only [pending, Bool.and_eq_true, beq_iff_eq]
  rintro ⟨⟨_, waiting⟩, _⟩
  exact left waiting

end Pending

section Steps

/-- Failing a pending generation moves no total and no text. -/
theorem Balanced.failed (balanced : Balanced db) (aiGenerationId lastError : String) (now : Date) :
    Balanced (AiGenerationRepository.markFailed scope aiGenerationId lastError now db).2 := by
  have completed (merchantId : MerchantId) (row : AiGeneration) (waiting : pending scope aiGenerationId row = true) :
      isCompleted merchantId row = false ∧ isCompleted merchantId { row with
        status := .failed
        lastError := some (utf16Prefix lastErrorMaxChars lastError)
        failedAt := some now } = false := by
    simp only [pending, Bool.and_eq_true, beq_iff_eq] at waiting
    simp [isCompleted, waiting.1.2]
  refine ⟨fun generation member => ?_, fun merchantId => ?_, fun merchantId => ?_, balanced.audits,
    fun generationId some => ?_⟩
  · obtain ⟨old, present, rfl⟩ := List.mem_map.mp member
    obtain ⟨message, stored, own, same, text⟩ := balanced.messages old present
    refine ⟨message, stored, ?_⟩
    split
    · exact ⟨own, same, fun done => by cases done⟩
    · exact ⟨own, same, text⟩
  · rw [costMicrocents, AiGenerationRepository.markFailed, Table.total_updateMany_eq fun row waiting => by
      simp [completed merchantId row waiting]]
    exact balanced.spent merchantId
  · rw [completedGenerations, AiGenerationRepository.markFailed, Table.count_updateMany_eq fun row waiting => by
      simp [completed merchantId row waiting]]
    exact balanced.counted merchantId
  · obtain ⟨generation, stored, named, done⟩ := balanced.announced generationId some
    have left : generation.status ≠ .pending := by simp [done]
    have kept : Settles db (AiGenerationRepository.markFailed scope aiGenerationId lastError now db).2 := settles_updateMany rfl
    exact ⟨generation, kept generation stored left, named, done⟩

/-- An audit row of another action announces no discount. -/
theorem Balanced.audited (balanced : Balanced db) {audits : List AuditLog}
    (other : ∀ row ∈ audits, row.action ≠ discountCreatedAction) :
    Balanced { db with auditLogs := db.auditLogs ++ audits } := by
  have same (aiGenerationId : String) :
      discountAudits aiGenerationId { db with auditLogs := db.auditLogs ++ audits } =
        discountAudits aiGenerationId db := by
    have none : audits.countP (isDiscountAudit aiGenerationId) = 0 := by
      rw [List.countP_eq_zero]
      intro row member
      simp [isDiscountAudit, other row member]
    rw [discountAudits, List.countP_append, none]
    rfl
  exact {
    messages := balanced.messages
    spent := balanced.spent
    counted := balanced.counted
    audits := fun aiGenerationId => same aiGenerationId ▸ balanced.audits aiGenerationId
    announced := fun aiGenerationId some => balanced.announced aiGenerationId (same aiGenerationId ▸ some) }

theorem Balanced.created {merchantId : MerchantId} {customerId : CustomerId} {args : GenerationArgs} {now : Date}
    (balanced : Balanced db) (done : createGeneration merchantId customerId args now db = .ok next) :
    Balanced next := by
  obtain ⟨aiGenerations, messages, generated, drafted, rfl⟩ := createGeneration_ok done
  have generations := (Table.insert?_rows generated).1
  have drafts := (Table.insert?_rows drafted).1
  have kept : ∀ generation ∈ db.aiGenerations.rows, generation ∈ aiGenerations.rows := fun generation member => by
    rw [generations]
    exact List.mem_append_left _ member
  have waiting (owner : MerchantId) :
      isCompleted owner (AiGenerationRepository.created merchantId customerId args now) = false := by
    simp [isCompleted, AiGenerationRepository.created]
  refine ⟨fun generation member => ?_, fun owner => ?_, fun owner => ?_, balanced.audits, fun generationId some => ?_⟩
  · rw [generations] at member
    rw [drafts]
    rcases List.mem_append.mp member with old | new
    · obtain ⟨message, stored, found⟩ := balanced.messages generation old
      exact ⟨message, List.mem_append_left _ stored, found⟩
    · cases List.mem_singleton.mp new
      exact ⟨_, List.mem_append_right _ (List.mem_singleton_self _), rfl, rfl, fun done => by cases done⟩
  · rw [costMicrocents, Table.total_insert? generated, if_neg (by simp [waiting]), Int.add_zero]
    exact balanced.spent owner
  · rw [completedGenerations, Table.count_insert? generated, if_neg (by simp [waiting]), Nat.add_zero]
    exact balanced.counted owner
  · obtain ⟨generation, stored, found⟩ := balanced.announced generationId some
    exact ⟨generation, kept generation stored, found⟩

theorem markCompleted_cases {args : MarkCompletedArgs} {now : Date} {won : Bool} {middle : Db}
    (marked : markCompleted scope args now db = (won, middle)) :
    (won = false ∧ middle = db) ∨
      (won = true ∧ middle = (markCompleted scope args now db).2 ∧
        ∃ row ∈ db.aiGenerations.rows, pending scope args.aiGenerationId row = true) := by
  have same : middle = (markCompleted scope args now db).2 := by rw [marked]
  have counted : won = decide (0 < db.aiGenerations.count (pending scope args.aiGenerationId)) :=
    (congrArg Prod.fst marked).symm
  by_cases some : 0 < db.aiGenerations.count (pending scope args.aiGenerationId)
  · exact .inr ⟨by simp [counted, some], same, Table.count_pos_iff.mp some⟩
  · refine .inl ⟨by simp [counted, some], same.trans ?_⟩
    exact congrArg (fun aiGenerations => { db with aiGenerations })
      (Table.updateMany_eq_self (Nat.eq_zero_of_not_pos some))

variable {completion : Completion} {now date : Date} {row : AiGeneration}

/-- The generation that a completion settles, and its message. -/
theorem messages_completed (balanced : Balanced db) (stored : row ∈ db.aiGenerations.rows)
    (waiting : pending scope completion.args.aiGenerationId row = true) :
    ∀ generation ∈ (markCompleted scope completion.args now db).2.aiGenerations.rows,
      ∃ message ∈ (MessageRepository.updateGeneratedText scope completion.args.aiGenerationId
          completion.args.generatedText db).messages.rows,
        message.aiGenerationId = generation.id ∧ message.merchantId = generation.merchantId ∧
          (generation.status = .completed → generation.generatedText = some message.generatedText) := by
  intro generation member
  obtain ⟨old, present, rfl⟩ := List.mem_map.mp member
  obtain ⟨message, filed, own, same, text⟩ := balanced.messages old present
  refine ⟨_, List.mem_map.mpr ⟨message, filed, rfl⟩, ?_⟩
  by_cases matched : pending scope completion.args.aiGenerationId old = true
  · have named : old.id = completion.args.aiGenerationId ∧ old.merchantId = scope := by
      simp only [pending, Bool.and_eq_true, beq_iff_eq] at matched
      exact ⟨matched.1.1, matched.2⟩
    rw [if_pos matched, if_pos (by simp [own, same, named])]
    exact ⟨own, same, fun _ => rfl⟩
  · -- only the settled generation has a message under its id
    have other : old.id ≠ completion.args.aiGenerationId := by
      intro equal
      simp only [pending, Bool.and_eq_true, beq_iff_eq] at waiting
      have clash : old = row :=
        db.aiGenerations.eq_of_clash present stored (by simp [Indexed.clash, Indexed.index, equal, waiting.1.1])
      exact matched (by simp [pending, clash, waiting])
    rw [if_neg matched, if_neg (by simp [own, other])]
    exact ⟨own, same, text⟩

/-- What a completion adds to the totals of its generations. -/
theorem totals_completed (stored : row ∈ db.aiGenerations.rows)
    (waiting : pending scope completion.args.aiGenerationId row = true) (merchantId : MerchantId) :
    costMicrocents merchantId (markCompleted scope completion.args now db).2 =
        costMicrocents merchantId db + (if scope = merchantId then completion.args.costMicrocents else 0) ∧
      (completedGenerations merchantId (markCompleted scope completion.args now db).2 : Int) =
        completedGenerations merchantId db + if scope = merchantId then 1 else 0 := by
  have pins := pending_pins scope completion.args.aiGenerationId
  have facts := waiting
  simp only [pending, Bool.and_eq_true, beq_iff_eq] at facts
  constructor
  · refine (@Table.total_updateMany _ _ _ _ _ _ (complete_index completion.args now) pins _
      stored waiting).trans ?_
    simp [costMicrocents, isCompleted, complete, facts.1.2, facts.2]
  · rw [completedGenerations, completedGenerations, ← Table.total_indicator, ← Table.total_indicator]
    refine (@Table.total_updateMany _ _ _ _ _ _ (complete_index completion.args now) pins _
      stored waiting).trans ?_
    simp [isCompleted, complete, facts.1.2, facts.2]

/-- No discount is announced for a generation that is still pending. -/
theorem unannounced_of_pending (balanced : Balanced db) (stored : row ∈ db.aiGenerations.rows)
    (waiting : pending scope completion.args.aiGenerationId row = true) :
    discountAudits completion.args.aiGenerationId db = 0 := by
  by_contra some
  obtain ⟨generation, present, named, done⟩ := balanced.announced _ (Nat.pos_of_ne_zero some)
  simp only [pending, Bool.and_eq_true, beq_iff_eq] at waiting
  have same : generation = row :=
    db.aiGenerations.eq_of_clash present stored (by simp [Indexed.clash, Indexed.index, named, waiting.1.1])
  rw [same, waiting.1.2] at done
  cases done

/-- The audit row of a completion announces a discount of its own generation only. -/
theorem announced_by_completion (labelled : (Call.complete scope completion).Labelled) (aiGenerationId : String) :
    completion.discountCreated.toList.countP (isDiscountAudit aiGenerationId) ≤
      if aiGenerationId = completion.args.aiGenerationId then 1 else 0 := by
  cases created : completion.discountCreated with
  | none => simp
  | some audit =>
    have target := labelled audit created
    split
    · exact List.countP_le_length
    · rename_i other
      simp [isDiscountAudit, target, Ne.symm other]

theorem Balanced.completed (balanced : Balanced db) (labelled : (Call.complete scope completion).Labelled)
    (done : completeGeneration scope completion now date db = .ok next) : Balanced next := by
  unfold completeGeneration at done
  split at done
  · rename_i marked
    rcases markCompleted_cases marked with ⟨_, rfl⟩ | ⟨won, _⟩
    · cases done
      exact balanced
    · cases won
  · rename_i middle marked
    rcases markCompleted_cases marked with ⟨lost, _⟩ | ⟨_, rfl, row, stored, waiting⟩
    · cases lost
    · obtain ⟨spent, incremented, rfl⟩ := map_eq_ok_iff.mp done
      obtain ⟨frame, moved⟩ := incrementSpend_ok incremented
      have settles : Settles db (markCompleted scope completion.args now db).2 := settles_updateMany rfl
      have before := unannounced_of_pending balanced stored waiting
      have added := announced_by_completion labelled
      have audits (aiGenerationId : String) : discountAudits aiGenerationId
          { spent with auditLogs := spent.auditLogs ++ completion.discountCreated.toList } =
            discountAudits aiGenerationId db +
              completion.discountCreated.toList.countP (isDiscountAudit aiGenerationId) := by
        rw [discountAudits, List.countP_append, frame]
        rfl
      rw [frame] at audits ⊢
      refine ⟨messages_completed balanced stored waiting, fun merchantId => ?_, fun merchantId => ?_,
        fun aiGenerationId => ?_, fun aiGenerationId some => ?_⟩
      · have spend := moved AiSpendBucket.spentMicrocents completion.args.costMicrocents (fun _ => rfl) (fun _ => rfl)
          merchantId
        refine spend.trans (Eq.trans ?_ (totals_completed stored waiting merchantId).1.symm)
        exact congrArg (· + _) (balanced.spent merchantId)
      · have count := moved AiSpendBucket.generationCount 1 (fun _ => rfl) (fun _ => rfl) merchantId
        refine count.trans (Eq.trans ?_ (totals_completed stored waiting merchantId).2.symm)
        exact congrArg (· + _) (balanced.counted merchantId)
      · rw [audits]
        have bound := added aiGenerationId
        have held := balanced.audits aiGenerationId
        split at bound
        · rename_i own
          rw [own] at bound ⊢
          omega
        · omega
      · rw [audits] at some
        have bound := added aiGenerationId
        by_cases own : aiGenerationId = completion.args.aiGenerationId
        · have facts := waiting
          simp only [pending, Bool.and_eq_true, beq_iff_eq] at facts
          refine ⟨_, List.mem_map.mpr ⟨row, stored, rfl⟩, ?_⟩
          rw [if_pos waiting]
          exact ⟨facts.1.1.trans own.symm, rfl⟩
        · rw [if_neg own] at bound
          obtain ⟨generation, present, named, finished⟩ := balanced.announced aiGenerationId (by omega)
          exact ⟨generation, settles generation present (by simp [finished]), named, finished⟩

end Steps

section Settling

/-- A completion writes no generation but by its compare-and-set. -/
theorem completeGeneration_generations {completion : Completion} {now date : Date}
    (done : completeGeneration scope completion now date db = .ok next) :
    next.aiGenerations = (markCompleted scope completion.args now db).2.aiGenerations ∧
      (next.auditLogs = db.auditLogs ∨ next.auditLogs = db.auditLogs ++ completion.discountCreated.toList) := by
  unfold completeGeneration at done
  split at done
  · rename_i marked
    cases done
    exact ⟨by rw [marked], .inl (by rcases markCompleted_cases marked with ⟨_, rfl⟩ | ⟨won, _⟩ <;> [rfl; cases won])⟩
  · rename_i middle marked
    obtain ⟨spent, incremented, rfl⟩ := map_eq_ok_iff.mp done
    have frame := (incrementSpend_ok incremented).1
    rcases markCompleted_cases marked with ⟨lost, _⟩ | ⟨_, rfl, _⟩
    · cases lost
    · rw [frame]
      exact ⟨rfl, .inr rfl⟩

/-- Whatever a call writes, a generation that has left `pending` stays as it is. -/
theorem settles_called {request : Call} {choice : Choice} {answer : Except Thrown request.Value}
    (executed : exec db request choice = some (answer, next)) : Settles db next := by
  rcases exec_cases executed with rfl | ⟨_, _, _, _, _, rfl⟩ | ⟨_, _, _, done⟩
  · exact .refl _
  · exact settles_updateMany rfl
  · exact settles_updateMany (congrArg Table.rows (completeGeneration_generations done).1)

theorem settles_created {merchantId : MerchantId} {customerId : CustomerId} {args : GenerationArgs} {now : Date}
    (done : createGeneration merchantId customerId args now db = .ok next) : Settles db next := by
  obtain ⟨aiGenerations, messages, generated, _, rfl⟩ := createGeneration_ok done
  intro generation member _
  rw [(Table.insert?_rows generated).1]
  exact List.mem_append_left _ member

end Settling

section Runs

variable {context : WorkerContext} {world after origin middle last : World}

/-- What one call does to the ledger. -/
theorem Balanced.called {request : Call} {choice : Choice} {answer : Except Thrown request.Value}
    (balanced : Balanced db) (labelled : request.Labelled) (executed : exec db request choice = some (answer, next)) :
    Balanced next := by
  rcases exec_cases executed with rfl | ⟨scope, aiGenerationId, lastError, audits, fails, rfl⟩ | ⟨scope, completion, rfl, done⟩
  · exact balanced
  · refine (balanced.failed aiGenerationId lastError choice.now).audited fun row member => ?_
    cases request <;> cases fails
    · cases member
    · cases List.mem_singleton.mp member
      exact labelled
  · exact balanced.completed labelled done

theorem Balanced.outside (balanced : Balanced world.db) (db : Db) (rewrite : Message → Message)
    (audits : List AuditLog) : Balanced (world.outside db rewrite audits).db := by
  have messages : ∀ generation ∈ world.db.aiGenerations.rows,
      ∃ message ∈ (world.outside db rewrite audits).db.messages.rows,
        message.aiGenerationId = generation.id ∧ message.merchantId = generation.merchantId ∧
          (generation.status = .completed → generation.generatedText = some message.generatedText) := by
    intro generation member
    obtain ⟨message, stored, found⟩ := balanced.messages generation member
    exact ⟨_, List.mem_map.mpr ⟨message, stored, rfl⟩, found⟩
  have others : ∀ row ∈ audits.filter fun row => row.action != discountCreatedAction,
      row.action ≠ discountCreatedAction := by
    intro row member
    simpa using (List.mem_filter.mp member).2
  have audited := balanced.audited others
  exact {
    messages := messages
    spent := balanced.spent
    counted := balanced.counted
    audits := audited.audits
    announced := audited.announced }

/-- One step of the system. -/
theorem Balanced.step (balanced : Balanced world.db) (wrote : Wrote world after) :
    Balanced after.db ∧ Settles world.db after.db := by
  cases wrote with
  | nothing same =>
    rw [same]
    exact ⟨balanced, .refl _⟩
  | called request choice answer labelled executed =>
    exact ⟨balanced.called labelled executed, settles_called executed⟩
  | created merchantId customerId args now done => exact ⟨balanced.created done, settles_created done⟩
  | outside db rewrite audits same =>
    rw [same]
    exact ⟨balanced.outside db rewrite audits, .refl _⟩

/-- What every run keeps. -/
theorem balanced_run (balanced : Balanced origin.db) (every : origin.tasks.Every Labelled)
    (reach : (machine context).Reach (fun _ _ => True) origin last) :
    last.tasks.Every Labelled ∧ Balanced last.db ∧ Settles origin.db last.db := by
  induction reach with
  | origin => exact ⟨every, balanced, .refl _⟩
  | step earlier permitted moved ih =>
    obtain ⟨labelled, kept, settled⟩ := ih
    obtain ⟨labelled, wrote⟩ := wrote_of_step labelled moved
    obtain ⟨kept, further⟩ := kept.step wrote
    exact ⟨labelled, kept, settled.trans further⟩

/-- In every interleaving of passes a generation leaves `pending` at most once, its
message carries its text from then on, the buckets of every merchant add up to its
completed generations, and its discount is announced at most once. -/
theorem completes_exactly_once (start : Start origin.db) (idle : origin.tasks = [])
    (earlier : (machine context).Reach (fun _ _ => True) origin middle)
    (later : (machine context).Reach (fun _ _ => True) middle last) :
    (∀ generation ∈ middle.db.aiGenerations.rows, generation.status ≠ .pending →
      generation ∈ last.db.aiGenerations.rows) ∧
    (∀ merchantId, spentMicrocents merchantId last.db = costMicrocents merchantId last.db ∧
      generationCount merchantId last.db = completedGenerations merchantId last.db) ∧
    (∀ generation ∈ middle.db.aiGenerations.rows, generation.status = .completed →
      ∃ message ∈ last.db.messages.rows, message.aiGenerationId = generation.id ∧
        generation.generatedText = some message.generatedText) ∧
    ∀ aiGenerationId, discountAudits aiGenerationId last.db ≤ 1 := by
  have none : origin.tasks.Every Labelled := fun task member => by simp [idle] at member
  obtain ⟨labelled, balanced, _⟩ := balanced_run start.balanced none earlier
  obtain ⟨_, balanced, settled⟩ := balanced_run balanced labelled later
  refine ⟨settled, fun merchantId => ⟨balanced.spent merchantId, balanced.counted merchantId⟩, ?_, balanced.audits⟩
  intro generation member completed
  obtain ⟨message, stored, own, _, text⟩ :=
    balanced.messages generation (settled generation member (by simp [completed]))
  exact ⟨message, stored, own, text completed⟩

end Runs

section Race

def raceContext : WorkerContext where
  aiConfig := { provider := .deepseek, model := "deepseek-v4-flash" }
  shopifyApiSecret := "secret"
  keyedDigest _ _ := "0123456789ABCDEFGHJK"

/-- One pending generation with a discount, and its draft. -/
def oneGeneration : Db where
  merchants := .single { id := "m", shop := "m.myshopify.com" }
  customers := .single { id := "c", merchantId := "m", shopifyCustomerId := "gid://shopify/Customer/1" }
  aiGenerations := .single {
    id := "g"
    merchantId := "m"
    customerId := "c"
    triggerState := "dormant"
    discountValuePercent := some 10
    createdAt := 0 }
  messages := .single { id := "d", merchantId := "m", customerId := "c", aiGenerationId := "g" }

theorem start_oneGeneration : Start oneGeneration where
  pending := by decide
  drafts := by decide
  unspent := by decide
  unannounced := by simp [oneGeneration]

def raceJob : Job := { id := some "g", data := ⟨"g", "m", "c"⟩ }

def answers (text : String) : Choice where
  now := 5
  date := 5
  provider := .ok ⟨text, 200, 100, 300, 900⟩
  shopify := .taken (some "gid://shopify/DiscountCodeNode/1")

/-- Two passes over one job, up to the completion of the first. -/
def firstCompletion : List Label :=
  [.deliver raceJob, .deliver raceJob, .act 0 (answers "first"), .act 1 (answers "second")] ++
    List.replicate 6 (.act 0 (answers "first"))

/-- The second pass gets an answer as well, and then loses the compare-and-set. -/
def secondCompletion : List Label := List.replicate 6 (.act 1 (answers "second"))

def racing (labels : List Label) : Option World :=
  (machine raceContext).runWhere (fun _ _ => true) ⟨oneGeneration, []⟩ labels

theorem completes_once_in_race :
    ∃ middle last : World, (∃ generation ∈ middle.db.aiGenerations.rows, generation.status = .completed) ∧
      (∀ generation ∈ middle.db.aiGenerations.rows, generation.status ≠ .pending →
        generation ∈ last.db.aiGenerations.rows) ∧
      (∀ merchantId, spentMicrocents merchantId last.db = costMicrocents merchantId last.db ∧
        generationCount merchantId last.db = completedGenerations merchantId last.db) ∧
      (∀ generation ∈ middle.db.aiGenerations.rows, generation.status = .completed →
        ∃ message ∈ last.db.messages.rows, message.aiGenerationId = generation.id ∧
          generation.generatedText = some message.generatedText) ∧
      (∀ aiGenerationId, discountAudits aiGenerationId last.db ≤ 1) ∧
      spentMicrocents "m" last.db = 5_600 ∧ discountAudits "g" last.db = 1 := by
  have earlier := Machine.reach_get (show (racing firstCompletion).isSome = true by decide)
  have later := Machine.reach_get (show ((machine raceContext).runWhere (fun _ _ => true)
    ((racing firstCompletion).get (by decide)) secondCompletion).isSome = true by decide)
  obtain ⟨settled, totals, texts, audits⟩ := completes_exactly_once start_oneGeneration rfl
    (earlier.mono fun _ _ _ => trivial) (later.mono fun _ _ _ => trivial)
  exact ⟨_, _, by decide, settled, totals, texts, audits, by decide, by decide⟩

end Race

end WinBack.Generation
