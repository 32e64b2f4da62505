import WinBack.Compliance.Erasure
import WinBack.Scoring.Service

/-! What the transactions of the system touch: the customers that their new rows are about. No transaction but an upsert
of the ingest writes a customer, and none brings a deleted one back. -/

namespace WinBack.Compliance

open Library

section Touches

def Live (customerId : CustomerId) (db : Db) : Prop :=
  ∃ row ∈ db.customers.rows, row.id = customerId ∧ row.deletedAt = none

def childReferences (db : Db) : CustomerRedactChildTable → List Reference
  | .campaignTarget => targetReferences db
  | .message => messageReferences db
  | .aiGeneration => generationReferences db
  | .customerScore => scoreReferences db
  | .suppression => suppressionReferences db

theorem mentions_iff {db : Db} {customerId : CustomerId} {table : CustomerRedactChildTable} :
    mentions db customerId table = true ↔ ∃ merchantId, (customerId, merchantId) ∈ childReferences db table := by
  cases table <;>
    simp [mentions, childReferences, Table.any, targetReferences, messageReferences, generationReferences, scoreReferences,
      suppressionReferences, Table.mem_links]

/-- New rows are about some of these customers, and no customer comes back to life. -/
structure Touches (about : List Reference) (db next : Db) : Prop where
  rows : ∀ table, Adds about (childReferences db table) (childReferences next table)
  live : ∀ customerId, Live customerId next → Live customerId db

variable {about more : List Reference} {db middle next : Db} {merchantId : MerchantId} {customerId : CustomerId} {now : Date}

theorem Touches.refl (about : List Reference) (db : Db) : Touches about db db where
  rows _ := .same _ _
  live _ := id

theorem Touches.trans (first : Touches about db middle) (second : Touches about middle next) : Touches about db next where
  rows table := (first.rows table).trans (second.rows table) fun _ => id
  live customerId alive := first.live customerId (second.live customerId alive)

theorem Touches.mono (touches : Touches about db next) (wider : ∀ reference ∈ about, reference ∈ more) : Touches more db next where
  rows table reference member := (touches.rows table reference member).imp_right (wider reference)
  live := touches.live

/-- What is not about the customer leaves it without rows. -/
theorem Touches.spares (touches : Touches about db next) (apart : ∀ merchantId, (customerId, merchantId) ∉ about)
    {table : CustomerRedactChildTable} (nothing : mentions db customerId table = false) : mentions next customerId table = false := by
  rw [Bool.eq_false_iff]
  intro mentioned
  obtain ⟨merchantId, member⟩ := mentions_iff.mp mentioned
  rcases touches.rows table _ member with old | new
  · rw [mentions_iff.mpr ⟨merchantId, old⟩] at nothing
    cases nothing
  · exact apart merchantId new

/-- The tables about customers are the same. -/
theorem Touches.of_same (customers : next.customers = db.customers)
    (tables : ∀ table, childReferences next table = childReferences db table) : Touches about db next where
  rows table := by
    rw [tables table]
    exact .same _ _
  live customerId alive := by
    unfold Live at alive ⊢
    rwa [customers] at alive

/-- One table has another row. -/
theorem Touches.of_adds (customers : next.customers = db.customers)
    (rows : ∀ table, Adds about (childReferences db table) (childReferences next table)) : Touches about db next where
  rows := rows
  live customerId alive := by
    unfold Live at alive ⊢
    rwa [customers] at alive

theorem touches_createGeneration {args : GenerationArgs} (created : createGeneration merchantId customerId args now db = .ok next) :
    Touches [(customerId, merchantId)] db next := by
  obtain ⟨aiGenerations, messages, generated, drafted, rfl⟩ := createGeneration_ok created
  refine .of_adds rfl fun table => ?_
  cases table with
  | message => exact adds_insert? drafted rfl (List.mem_singleton_self _)
  | aiGeneration => exact adds_insert? generated rfl (List.mem_singleton_self _)
  | campaignTarget | customerScore | suppression => exact .same _ _

theorem touches_markFailed (generationId lastError : String) (now : Date) :
    Touches about db (AiGenerationRepository.markFailed merchantId generationId lastError now db).2 := by
  refine .of_adds rfl fun table => ?_
  cases table with
  | aiGeneration => exact adds_updateMany rfl fun _ _ => id
  | campaignTarget | message | customerScore | suppression => exact .same _ _

theorem touches_completeGeneration {completion : Completion} {date : Date}
    (done : completeGeneration merchantId completion now date db = .ok next) : Touches about db next := by
  have completed : Touches about db (AiGenerationRepository.markCompleted merchantId completion.args now db).2 := by
    refine .of_adds rfl fun table => ?_
    cases table with
    | aiGeneration => exact adds_updateMany rfl fun _ _ => id
    | campaignTarget | message | customerScore | suppression => exact .same _ _
  unfold completeGeneration at done
  split at done
  · rename_i marked
    rw [marked] at completed
    cases done
    exact completed
  · rename_i middle marked
    rw [marked] at completed
    obtain ⟨spent, counted, rfl⟩ := map_eq_ok_iff.mp done
    have written : Touches about middle (MessageRepository.updateGeneratedText merchantId completion.args.aiGenerationId
        completion.args.generatedText middle) := by
      refine .of_adds rfl fun table => ?_
      cases table with
      | message => exact adds_updateMany rfl fun _ _ => id
      | campaignTarget | aiGeneration | customerScore | suppression => exact .same _ _
    have paid {before : Db} (counted : AiSpendBucketRepository.incrementSpend merchantId date completion.args.costMicrocents before =
        .ok spent) : Touches about before spent := by
      unfold AiSpendBucketRepository.incrementSpend at counted
      split at counted
      · cases counted
        exact .of_same rfl fun _ => rfl
      · split at counted
        · cases counted
        · split at counted
          · cases counted
            exact .of_same rfl fun _ => rfl
          · cases counted
    exact ((completed.trans written).trans (paid counted)).trans (.of_same rfl fun table => by cases table <;> rfl)

theorem touches_upsertScore {score : ResolvedCustomerScore} {currency : String}
    (upserted : CustomerScoreService.upsertScore merchantId customerId score currency now db = .ok next) :
    Touches [(customerId, merchantId)] db next := by
  unfold CustomerScoreService.upsertScore at upserted
  dsimp only at upserted
  split at upserted
  · cases upserted
    refine .of_adds rfl fun table => ?_
    cases table with
    | customerScore => exact adds_updateMany rfl fun _ _ => id
    | campaignTarget | message | aiGeneration | suppression => exact .same _ _
  · split at upserted
    · cases upserted
    · rename_i customerScores inserted
      split at upserted
      · cases upserted
        refine .of_adds rfl fun table => ?_
        cases table with
        | customerScore => exact adds_insert? inserted rfl (List.mem_singleton_self _)
        | campaignTarget | message | aiGeneration | suppression => exact .same _ _
      · cases upserted

/-- A rewrite of customers that brings none of them back to life. -/
theorem Touches.of_customers {customers : Table Customer} {filter : Customer → Bool} {change : Customer → Customer}
    (rows : customers.rows = db.customers.rows.map fun row => if filter row then change row else row)
    (dead : ∀ row, (change row).id = row.id ∧ ((change row).deletedAt = none → row.deletedAt = none)) :
    Touches about db { db with customers } where
  rows table := by cases table <;> exact .same _ _
  live customerId := by
    rintro ⟨row, member, here, alive⟩
    change row ∈ customers.rows at member
    rw [rows] at member
    obtain ⟨old, stored, rfl⟩ := List.mem_map.mp member
    refine ⟨old, stored, ?_⟩
    by_cases changed : filter old = true
    · rw [if_pos changed] at here alive
      exact ⟨(dead old).1.symm.trans here, (dead old).2 alive⟩
    · rw [if_neg changed] at here alive
      exact ⟨here, alive⟩

theorem touches_updateState {state : CustomerState}
    (updated : CustomerScoreService.updateState merchantId customerId state db = .ok next) : Touches about db next := by
  unfold CustomerScoreService.updateState at updated
  dsimp only at updated
  split at updated
  · cases updated
    exact .of_customers rfl fun row => ⟨rfl, id⟩
  · cases updated

section Scores

variable {merchant : Merchant} {customer : Customer} {scored : Scored} {announced : Option CustomerScoreService.Announcement}

theorem touches_emit {currency actorId : String} {trigger : Option String}
    (emitted : CustomerScoreService.emit merchant customer scored currency actorId trigger now db = .ok next) :
    Touches about db next := by
  obtain ⟨payload, _, emitted⟩ := bind_eq_ok_iff.mp emitted
  split at emitted
  · cases emitted
  · cases emitted
    exact .of_same rfl fun table => by cases table <;> rfl

theorem touches_applyScore (applied : CustomerScoreService.applyScore merchant customer scored announced now db = .ok next) :
    Touches [(customer.id, merchant.id)] db next := by
  obtain ⟨scoredDb, written, applied⟩ := bind_eq_ok_iff.mp applied
  have first := touches_upsertScore written
  split at applied
  · cases applied
    exact first
  · obtain ⟨stateDb, moved, applied⟩ := bind_eq_ok_iff.mp applied
    have second := first.trans (touches_updateState moved)
    split at applied
    · exact second.trans (touches_emit applied)
    · cases applied
      exact second

/-- A page writes about its customers. -/
theorem touches_rescorePage {snapshot : CohortSnapshot} {customers : List Customer}
    (rescored : Scoring.rescorePage merchant snapshot announced customers db = .ok next) :
    Touches (customers.map fun customer => (customer.id, merchant.id)) db next := by
  induction customers generalizing db with
  | nil =>
    cases rescored
    exact .refl _ _
  | cons customer rest ih =>
    obtain ⟨middle, first, later⟩ := bind_eq_ok_iff.mp rescored
    refine ((touches_applyScore first).mono ?_).trans ((ih later).mono fun _ => List.mem_cons_of_mem _)
    exact fun reference member => List.mem_singleton.mp member ▸ List.mem_cons_self

theorem grows_rescorePage {snapshot : CohortSnapshot} {customers : List Customer}
    (known : ∀ customer ∈ customers, (customer.id, merchant.id) ∈ owners db)
    (rescored : Scoring.rescorePage merchant snapshot announced customers db = .ok next) : Grows db next := by
  induction customers generalizing db with
  | nil =>
    cases rescored
    exact .refl _
  | cons customer rest ih =>
    obtain ⟨middle, first, later⟩ := bind_eq_ok_iff.mp rescored
    have early := grows_applyScore (known customer List.mem_cons_self) first
    exact early.trans (ih (fun other member => early.owners _ (known other (List.mem_cons_of_mem _ member))) later)

end Scores

theorem touches_clear (tables : List CustomerRedactChildTable) :
    Touches about db (tables.foldl (fun db table => deleteChildren db merchantId customerId table) db) := by
  induction tables generalizing db with
  | nil => exact .refl _ _
  | cons table rest ih =>
    refine Touches.trans ?_ ih
    refine .of_adds (by cases table <;> rfl) fun child => ?_
    cases table <;> cases child <;> first | exact .same _ _ | exact adds_deleteMany

theorem touches_audited (db : Db) (auditLogs : List AuditLog) : Touches about db { db with auditLogs } :=
  .of_same rfl fun table => by cases table <;> rfl

/-- A redaction only deletes. -/
theorem touches_processCustomerRedact {shop : String} {payload : CustomerRedactPayload}
    (redacted : processCustomerRedact merchantId shop payload now db = .ok next) : Touches about db next := by
  unfold processCustomerRedact at redacted
  split at redacted
  · cases redacted
    exact .of_same rfl fun table => by cases table <;> rfl
  · split at redacted
    · cases redacted
      exact .of_same rfl fun table => by cases table <;> rfl
    · split at redacted
      · cases redacted
      · rename_i customer _ _ customers updated
        cases redacted
        have row : Touches about db { db with customers } :=
          .of_customers (Table.updateChecked?_rows updated) fun row => ⟨rfl, nofun⟩
        have unlinked : Touches about { db with customers } { db with
            customers
            orders := db.orders.updateMany
              (fun row => row.merchantId == merchantId && row.customerId == some customer.id)
              (fun row => { row with customerId := none }) detached_index } :=
          .of_same rfl fun table => by cases table <;> rfl
        exact ((row.trans unlinked).trans (touches_clear customerRedactChildTables)).trans (touches_audited _ _)

end Touches

end WinBack.Compliance
