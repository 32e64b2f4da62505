import WinBack.Compliance.History
import WinBack.Library.Fallible

/-! A row about a customer always carries the customer's merchant. Operations add
customers and rows, and each new row names a customer of its own merchant. -/

namespace WinBack.Compliance

open Library

section References

def owners (db : Db) : List Reference :=
  db.customers.links fun row => some (row.id, row.merchantId)

def scoreReferences (db : Db) : List Reference :=
  db.customerScores.links fun row => some (row.customerId, row.merchantId)

def orderReferences (db : Db) : List Reference :=
  db.orders.links fun row => row.customerId.map fun customerId => (customerId, row.merchantId)

def generationReferences (db : Db) : List Reference :=
  db.aiGenerations.links fun row => some (row.customerId, row.merchantId)

def messageReferences (db : Db) : List Reference :=
  db.messages.links fun row => some (row.customerId, row.merchantId)

def targetReferences (db : Db) : List Reference :=
  db.campaignTargets.links fun row => some (row.customerId, row.merchantId)

def suppressionReferences (db : Db) : List Reference :=
  db.suppressions.links fun row => some (row.customerId, row.merchantId)

def transitionReferences (db : Db) : List Reference := db.outboxEvents.links eventReference

/-- No row about a customer, and no queued job, names another merchant than the customer's. -/
structure Linked (pipeline : Pipeline) : Prop where
  scores : ∀ reference ∈ scoreReferences pipeline.db, reference ∈ owners pipeline.db
  orders : ∀ reference ∈ orderReferences pipeline.db, reference ∈ owners pipeline.db
  generations : ∀ reference ∈ generationReferences pipeline.db, reference ∈ owners pipeline.db
  messages : ∀ reference ∈ messageReferences pipeline.db, reference ∈ owners pipeline.db
  targets : ∀ reference ∈ targetReferences pipeline.db, reference ∈ owners pipeline.db
  suppressions : ∀ reference ∈ suppressionReferences pipeline.db, reference ∈ owners pipeline.db
  transitions : ∀ reference ∈ transitionReferences pipeline.db, reference ∈ owners pipeline.db
  jobs : ∀ job ∈ pipeline.jobs, (job.customerId, job.merchantId) ∈ owners pipeline.db

/-- Whatever is new names one of the owners. -/
def Adds (owners before later : List Reference) : Prop :=
  ∀ reference ∈ later, reference ∈ before ∨ reference ∈ owners

/-- What an operation may do to the references: customers stay, and a new reference
names a customer of its own merchant. -/
structure Grows (db next : Db) : Prop where
  owners : ∀ reference ∈ owners db, reference ∈ Compliance.owners next
  scores : Adds (Compliance.owners next) (scoreReferences db) (scoreReferences next)
  orders : Adds (Compliance.owners next) (orderReferences db) (orderReferences next)
  generations : Adds (Compliance.owners next) (generationReferences db) (generationReferences next)
  messages : Adds (Compliance.owners next) (messageReferences db) (messageReferences next)
  targets : Adds (Compliance.owners next) (targetReferences db) (targetReferences next)
  suppressions : Adds (Compliance.owners next) (suppressionReferences db) (suppressionReferences next)
  transitions : Adds (Compliance.owners next) (transitionReferences db) (transitionReferences next)

theorem Adds.same (owned references : List Reference) : Adds owned references references := fun _ => .inl

theorem Grows.refl (db : Db) : Grows db db where
  owners _ := id
  scores := .same _ _
  orders := .same _ _
  generations := .same _ _
  messages := .same _ _
  targets := .same _ _
  suppressions := .same _ _
  transitions := .same _ _

theorem Adds.trans {first second before middle later : List Reference} (early : Adds first before middle)
    (late : Adds second middle later) (stay : ∀ reference ∈ first, reference ∈ second) : Adds second before later := by
  intro reference member
  rcases late reference member with old | new
  · exact (early reference old).imp_right (stay reference)
  · exact .inr new

theorem Grows.trans {first second third : Db} (early : Grows first second) (late : Grows second third) :
    Grows first third where
  owners reference member := late.owners reference (early.owners reference member)
  scores := early.scores.trans late.scores late.owners
  orders := early.orders.trans late.orders late.owners
  generations := early.generations.trans late.generations late.owners
  messages := early.messages.trans late.messages late.owners
  targets := early.targets.trans late.targets late.owners
  suppressions := early.suppressions.trans late.suppressions late.owners
  transitions := early.transitions.trans late.transitions late.owners

theorem Adds.known {first second before later : List Reference} (adds : Adds second before later)
    (known : ∀ reference ∈ before, reference ∈ first) (stay : ∀ reference ∈ first, reference ∈ second) :
    ∀ reference ∈ later, reference ∈ second := by
  intro reference member
  rcases adds reference member with old | new
  · exact stay reference (known reference old)
  · exact new

theorem Linked.grows {pipeline : Pipeline} (linked : Linked pipeline) {next : Db} (grows : Grows pipeline.db next)
    {queued : List ClaimTargetArgs} (jobs : ∀ job ∈ queued, (job.customerId, job.merchantId) ∈ owners next) :
    Linked { db := next, jobs := pipeline.jobs ++ queued } where
  scores := grows.scores.known linked.scores grows.owners
  orders := grows.orders.known linked.orders grows.owners
  generations := grows.generations.known linked.generations grows.owners
  messages := grows.messages.known linked.messages grows.owners
  targets := grows.targets.known linked.targets grows.owners
  suppressions := grows.suppressions.known linked.suppressions grows.owners
  transitions := grows.transitions.known linked.transitions grows.owners
  jobs job member := by
    rcases List.mem_append.mp member with old | new
    · exact grows.owners _ (linked.jobs job old)
    · exact jobs job new

theorem mem_owners {db : Db} {customerId : CustomerId} {merchantId : MerchantId} :
    (customerId, merchantId) ∈ owners db ↔
      ∃ customer ∈ db.customers.rows, customer.id = customerId ∧ customer.merchantId = merchantId := by
  simp [owners, Table.mem_links]

/-- A customer has one merchant. -/
theorem merchant_of_owner {db : Db} {customer : Customer} {merchantId : MerchantId}
    (stored : customer ∈ db.customers.rows) (owned : (customer.id, merchantId) ∈ owners db) :
    customer.merchantId = merchantId := by
  obtain ⟨other, present, same, named⟩ := mem_owners.mp owned
  have equal : other = customer :=
    db.customers.eq_of_clash present stored (by simp [Indexed.clash, Indexed.index, same])
  rw [← named, equal]

end References

variable {db next : Db} {merchantId : MerchantId} {customerId : CustomerId} {now : Date}

section Insertions

variable {Row : Type} [Indexed Row] {table added : Table Row} {row : Row} {link : Row → Option Reference}
  {owned : List Reference} {reference : Reference}

/-- A row about a known customer may be added to any table. -/
theorem adds_insert? (inserted : table.insert? row = some added) (about : link row = some reference)
    (known : reference ∈ owned) : Adds owned (table.links link) (added.links link) := by
  intro target member
  rcases (Table.mem_links_insert? inserted).mp member with old | new
  · exact .inl old
  · rw [about] at new
    exact .inr (Option.some.inj new ▸ known)

/-- An update adds no reference when the changed row refers to nothing new. -/
theorem adds_updateMany {updated : Table Row} {filter : Row → Bool} {change : Row → Row}
    (rows : updated.rows = table.rows.map fun row => if filter row then change row else row)
    (narrows : ∀ row target, link (change row) = some target → link row = some target) :
    Adds owned (table.links link) (updated.links link) :=
  fun _ member => .inl (Table.links_update_subset rows narrows member)

theorem adds_deleteMany {filter : Row → Bool} :
    Adds owned (table.links link) ((table.deleteMany filter).links link) :=
  fun _ member => .inl (Table.links_deleteMany_subset member)

end Insertions

section Customers

open CustomerRepository

theorem grows_customers {customers : Table Customer}
    (stay : ∀ reference ∈ owners db, reference ∈ owners { db with customers }) : Grows db { db with customers } where
  owners := stay
  scores := .same _ _
  orders := .same _ _
  generations := .same _ _
  messages := .same _ _
  targets := .same _ _
  suppressions := .same _ _
  transitions := .same _ _

theorem grows_updateCustomers {filter : Customer → Bool} {change : Customer → Customer}
    {keeps : ∀ row, Indexed.index (change row) = Indexed.index row}
    (same : ∀ row, (change row).id = row.id ∧ (change row).merchantId = row.merchantId) :
    Grows db { db with customers := db.customers.updateMany filter change keeps } := by
  have kept : (db.customers.updateMany filter change keeps).links (fun row => some (row.id, row.merchantId)) =
      owners db :=
    Table.links_update rfl fun row => by rw [(same row).1, (same row).2]
  exact grows_customers fun reference => (congrArg (reference ∈ ·) kept).mpr

theorem grows_upsert {gid : String} {newId : CustomerId} {create update : CustomerPatch}
    (upserted : upsert merchantId gid newId create update now db = .ok (customerId, next)) :
    Grows db next ∧ (customerId, merchantId) ∈ owners next := by
  unfold upsert at upserted
  split at upserted
  · rename_i stored found
    cases upserted
    obtain ⟨present, matched⟩ := Table.find?_mem found
    have merchant : stored.merchantId = merchantId := by
      simp only [named, Bool.and_eq_true, beq_iff_eq] at matched
      exact matched.1
    have grows : Grows db { db with
        customers := db.customers.updateMany (named merchantId gid) update.apply fun _ => rfl } :=
      grows_updateCustomers fun _ => ⟨rfl, rfl⟩
    exact ⟨grows, grows.owners _ (mem_owners.mpr ⟨stored, present, rfl, merchant⟩)⟩
  · split at upserted
    · cases upserted
    · rename_i customers inserted
      split at upserted
      · cases upserted
        refine ⟨grows_customers fun reference member => (Table.mem_links_insert? inserted).mpr (.inl member), ?_⟩
        exact (Table.mem_links_insert? inserted).mpr (.inr rfl)
      · cases upserted

theorem grows_upsertFromWebhook {body : ShopifyCustomerWebhookBody} {newId : CustomerId} {result : UpsertResult}
    (upserted : upsertFromWebhook merchantId body newId now db = .ok (result, next)) :
    Grows db next ∧ (result.customerId, merchantId) ∈ owners next := by
  unfold upsertFromWebhook at upserted
  split at upserted
  · cases upserted
  · obtain ⟨⟨id, stored⟩, done, same⟩ := map_eq_ok_iff.mp upserted
    cases same
    exact grows_upsert done

theorem grows_processItems {items : List (ShopifyCustomerNode × CustomerId)}
    (processed : processItems merchantId now items db = .ok next) : Grows db next := by
  induction items generalizing db with
  | nil =>
    cases processed
    exact .refl _
  | cons item rest ih =>
    rw [processItems] at processed
    split at processed
    · exact ih processed
    · obtain ⟨⟨id, middle⟩, first, later⟩ := bind_eq_ok_iff.mp processed
      exact (grows_upsert first).1.trans (ih later)

theorem grows_handleCustomerDeleted {id : ShopifyId} {existed : Bool}
    (deleted : handleCustomerDeleted merchantId id now db = .ok (existed, next)) : Grows db next := by
  unfold handleCustomerDeleted at deleted
  split at deleted
  · cases deleted
  · cases deleted
    exact grows_updateCustomers fun _ => ⟨rfl, rfl⟩

end Customers

section Orders

open OrderRepository

theorem owned_of_findByShopifyId {gid : String} {customer : Customer}
    (found : CustomerRepository.findByShopifyId db merchantId gid = some customer) :
    (customer.id, merchantId) ∈ owners db := by
  obtain ⟨present, matched⟩ := Table.find?_mem found
  simp only [CustomerRepository.named, Bool.and_eq_true, beq_iff_eq] at matched
  exact mem_owners.mpr ⟨customer, present, rfl, matched.1.1⟩

theorem owned_of_resolveCustomerFk {body : ShopifyOrderWebhookBody}
    (resolved : resolveCustomerFk merchantId body db = some customerId) : (customerId, merchantId) ∈ owners db := by
  obtain ⟨id, _, resolved⟩ := Option.bind_eq_some_iff.mp resolved
  obtain ⟨gid, _, resolved⟩ := Option.bind_eq_some_iff.mp resolved
  obtain ⟨customer, found, same⟩ := Option.bind_eq_some_iff.mp resolved
  cases same
  exact owned_of_findByShopifyId found

theorem grows_upsertOrderRow {body : ShopifyOrderWebhookBody} {newId : String} {result : UpsertResult}
    (upserted : upsertFromWebhook merchantId body newId db = .ok (result, next)) :
    Grows db next ∧ ∀ customerId, result.customerId = some customerId → (customerId, merchantId) ∈ owners next := by
  unfold upsertFromWebhook at upserted
  split at upserted
  · cases upserted
  · split at upserted
    · cases upserted
    · rename_i gid _ _ status _
      have link (customerId : CustomerId) (resolved : resolveCustomerFk merchantId body db = some customerId) :=
        owned_of_resolveCustomerFk resolved
      dsimp only at upserted
      split at upserted
      · rename_i stored found
        cases upserted
        refine ⟨{ Grows.refl _ with orders := fun reference member => ?_ }, link⟩
        obtain ⟨row, listed, held⟩ := Table.mem_links.mp member
        obtain ⟨old, present, rfl⟩ := List.mem_map.mp listed
        split at held
        · rename_i matched
          simp only [named, Bool.and_eq_true, beq_iff_eq] at matched
          obtain ⟨customerId, resolved, rfl⟩ := Option.map_eq_some_iff.mp held
          rw [show (write body status (resolveCustomerFk merchantId body db) old).merchantId = merchantId from matched.1]
          exact .inr (link customerId resolved)
        · exact .inl (Table.mem_links.mpr ⟨old, present, held⟩)
      · split at upserted
        · cases upserted
        · rename_i orders inserted
          split at upserted
          · cases upserted
            refine ⟨{ Grows.refl _ with orders := fun reference member => ?_ }, link⟩
            rcases (Table.mem_links_insert? inserted).mp member with old | new
            · exact .inl old
            · obtain ⟨customerId, resolved, rfl⟩ := Option.map_eq_some_iff.mp new
              exact .inr (link customerId resolved)
          · cases upserted

theorem grows_processOrders {items : List (ShopifyOrderWebhookBody × String)}
    (processed : processItems merchantId items db = .ok next) : Grows db next := by
  induction items generalizing db with
  | nil =>
    cases processed
    exact .refl _
  | cons item rest ih =>
    obtain ⟨⟨result, middle⟩, first, later⟩ := bind_eq_ok_iff.mp processed
    exact (grows_upsertOrderRow first).1.trans (ih later)

end Orders

section Scores

open CustomerScoreService

theorem grows_upsertScore {score : ResolvedCustomerScore} {currency : String} {computedAt : Date}
    (known : (customerId, merchantId) ∈ owners db)
    (upserted : upsertScore merchantId customerId score currency computedAt db = .ok next) : Grows db next := by
  unfold upsertScore at upserted
  dsimp only at upserted
  split at upserted
  · cases upserted
    exact { Grows.refl _ with scores := adds_updateMany rfl fun _ _ => id }
  · split at upserted
    · cases upserted
    · rename_i customerScores inserted
      split at upserted
      · cases upserted
        exact { Grows.refl _ with scores := adds_insert? inserted rfl known }
      · cases upserted

theorem grows_updateState {state : CustomerState} (updated : updateState merchantId customerId state db = .ok next) :
    Grows db next := by
  unfold updateState at updated
  dsimp only at updated
  split at updated
  · cases updated
    exact grows_updateCustomers fun _ => ⟨rfl, rfl⟩
  · cases updated

variable {merchant : Merchant} {customer : Customer} {scored : Scored}

theorem grows_emit {currency actorId : String} {trigger : Option String}
    (known : (customer.id, merchant.id) ∈ owners db)
    (emitted : emit merchant customer scored currency actorId trigger now db = .ok next) : Grows db next := by
  obtain ⟨payload, built, emitted⟩ := bind_eq_ok_iff.mp emitted
  split at emitted
  · cases emitted
  · rename_i outboxEvents inserted
    cases emitted
    refine { Grows.refl _ with transitions := adds_insert? inserted ?_ known }
    unfold buildCustomerStateChangedPayload at built
    split at built
    · cases built
      rfl
    · cases built

theorem grows_applyScore {announced : Option Announcement} (known : (customer.id, merchant.id) ∈ owners db)
    (applied : applyScore merchant customer scored announced now db = .ok next) : Grows db next := by
  obtain ⟨scoredDb, written, applied⟩ := bind_eq_ok_iff.mp applied
  have first := grows_upsertScore known written
  split at applied
  · cases applied
    exact first
  · obtain ⟨stateDb, moved, applied⟩ := bind_eq_ok_iff.mp applied
    have second := first.trans (grows_updateState moved)
    split at applied
    · exact second.trans (grows_emit (second.owners _ known) applied)
    · cases applied
      exact second

theorem grows_recompute (known : (customerId, merchantId) ∈ owners db)
    (recomputed : recompute merchantId customerId scored now db = .ok next) : Grows db next := by
  unfold recompute at recomputed
  split at recomputed
  · cases recomputed
    exact .refl _
  · rename_i customer found
    split at recomputed
    · cases recomputed
    · rename_i merchant present
      have named : customer.id = customerId := by
        have matched := (Table.find?_mem found).2
        simp only [Bool.and_eq_true, beq_iff_eq] at matched
        exact matched.1
      have same : merchant.id = merchantId := by simpa using (Table.find?_mem present).2
      exact grows_applyScore (by rwa [named, same]) recomputed

theorem grows_rescoreBatch {announced : Option Announcement} {batch : List (Customer × Scored)}
    (known : ∀ item ∈ batch, (item.1.id, merchant.id) ∈ owners db)
    (rescored : rescoreBatch merchant announced now batch db = .ok next) : Grows db next := by
  induction batch generalizing db with
  | nil =>
    cases rescored
    exact .refl _
  | cons item rest ih =>
    obtain ⟨middle, first, later⟩ := bind_eq_ok_iff.mp rescored
    have early := grows_applyScore (known item List.mem_cons_self) first
    exact early.trans (ih (fun other member => early.owners _ (known other (List.mem_cons_of_mem _ member))) later)

end Scores

section Generations

theorem grows_createGeneration {args : GenerationArgs} {now : Date} (known : (customerId, merchantId) ∈ owners db)
    (created : createGeneration merchantId customerId args now db = .ok next) : Grows db next := by
  obtain ⟨aiGenerations, messages, generated, drafted, rfl⟩ := createGeneration_ok created
  exact { Grows.refl _ with
    generations := adds_insert? generated rfl known
    messages := adds_insert? drafted rfl known }

theorem grows_markFailed (generationId lastError : String) (now : Date) :
    Grows db (AiGenerationRepository.markFailed merchantId generationId lastError now db).2 :=
  { Grows.refl _ with generations := adds_updateMany rfl fun _ _ => id }

theorem grows_incrementSpend {date : Date} {delta : Int}
    (spent : AiSpendBucketRepository.incrementSpend merchantId date delta db = .ok next) : Grows db next := by
  unfold AiSpendBucketRepository.incrementSpend at spent
  split at spent
  · cases spent
    exact { Grows.refl _ with }
  · split at spent
    · cases spent
    · split at spent
      · cases spent
        exact { Grows.refl _ with }
      · cases spent

theorem grows_completeGeneration {completion : Completion} {now date : Date}
    (done : completeGeneration merchantId completion now date db = .ok next) : Grows db next := by
  have completed : Grows db (AiGenerationRepository.markCompleted merchantId completion.args now db).2 :=
    { Grows.refl _ with generations := adds_updateMany rfl fun _ _ => id }
  unfold completeGeneration at done
  split at done
  · rename_i marked
    rw [marked] at completed
    cases done
    exact completed
  · rename_i middle marked
    rw [marked] at completed
    obtain ⟨spent, counted, rfl⟩ := map_eq_ok_iff.mp done
    have written : Grows middle (MessageRepository.updateGeneratedText merchantId completion.args.aiGenerationId
        completion.args.generatedText middle) :=
      { Grows.refl _ with messages := adds_updateMany rfl fun _ _ => id }
    exact { (completed.trans written).trans (grows_incrementSpend counted) with }

end Generations

section Dispatch

open CampaignRepository

theorem grows_claimTarget {job : ClaimTargetArgs} (known : (job.customerId, job.merchantId) ∈ owners db) :
    Grows db (claimTarget job.merchantId job now db).2 := by
  unfold claimTarget
  split
  · exact .refl _
  · split
    · exact .refl _
    · rename_i targets inserted
      split
      · exact { Grows.refl _ with targets := adds_insert? inserted rfl known }
      · exact .refl _

theorem grows_resolveTerminal (messageId : MessageId) (reason : String) (status : TerminalStatus) :
    Grows db (resolveTerminal merchantId messageId reason status db).2 := by
  unfold resolveTerminal
  dsimp only
  split
  · exact .refl _
  · exact { Grows.refl _ with
      targets := adds_updateMany rfl fun _ _ => id
      messages := adds_updateMany rfl fun _ _ => id }

theorem grows_startSending (messageId : MessageId) : Grows db (startSending merchantId messageId now db).2 :=
  { Grows.refl _ with targets := adds_updateMany rfl fun _ _ => id }

theorem grows_revertToPending (messageId : MessageId) : Grows db (revertToPending merchantId messageId db).2 :=
  { Grows.refl _ with targets := adds_updateMany rfl fun _ _ => id }

theorem grows_deferTarget (messageId : MessageId) : Grows db (deferTarget merchantId messageId db).2 :=
  { Grows.refl _ with targets := adds_updateMany rfl fun _ _ => id }

theorem grows_markSentWithQuota (args : MarkSentArgs) : Grows db (markSentWithQuota merchantId args db).2 := by
  unfold markSentWithQuota
  dsimp only
  split
  · exact .refl _
  · split
    · exact .refl _
    · split
      · exact .refl _
      · exact { Grows.refl _ with
          targets := adds_updateMany rfl fun _ _ => id
          messages := adds_updateMany rfl fun _ _ => id }

/-- A pickup pairs every draft with the customer of its message. -/
theorem owned_of_pickedUp {job : ClaimTargetArgs} (picked : job ∈ pickedUp db merchantId) :
    (job.customerId, job.merchantId) ∈ owners db := by
  obtain ⟨draft, listed, rfl⟩ := List.mem_map.mp picked
  obtain ⟨message, present, chosen⟩ := List.mem_filterMap.mp (List.mem_of_mem_take listed)
  unfold dispatchableDraft? at chosen
  split at chosen
  · rename_i accepted
    split at chosen
    · cases chosen
    · obtain ⟨campaign, _, rfl⟩ := Option.map_eq_some_iff.mp chosen
      simp only [Bool.and_eq_true, beq_iff_eq, Table.any, List.any_eq_true] at accepted
      obtain ⟨⟨⟨⟨same, _⟩, _⟩, customer, stored, ⟨named, owned⟩, _⟩, _⟩ := accepted
      exact mem_owners.mpr ⟨customer, stored, named, owned.trans same⟩
  · cases chosen

end Dispatch

section Redaction

theorem owners_redacted {customers : Table Customer} {filter : Customer → Bool}
    (redacted : db.customers.updateChecked? filter (redactRow now) = some customers) :
    owners { db with customers } = owners db :=
  Table.links_update (Table.updateChecked?_rows redacted) fun _ => rfl

theorem grows_audited (db : Db) (auditLogs : List AuditLog) : Grows db { db with auditLogs } :=
  { Grows.refl db with }

theorem grows_deleteMessages (filter : Message → Bool) : Grows db (deleteMessages db filter) :=
  { Grows.refl _ with messages := adds_deleteMany, targets := adds_deleteMany }

theorem grows_deleteChildren (table : CustomerRedactChildTable) :
    Grows db (deleteChildren db merchantId customerId table) := by
  cases table with
  | campaignTarget => exact { Grows.refl _ with targets := adds_deleteMany }
  | message => exact grows_deleteMessages _
  | aiGeneration => exact (grows_deleteMessages _).trans { Grows.refl _ with generations := adds_deleteMany }
  | customerScore => exact { Grows.refl _ with scores := adds_deleteMany }
  | suppression => exact { Grows.refl _ with suppressions := adds_deleteMany }

theorem grows_clear (tables : List CustomerRedactChildTable) :
    Grows db (tables.foldl (fun db table => deleteChildren db merchantId customerId table) db) := by
  induction tables generalizing db with
  | nil => exact .refl _
  | cons table rest ih => exact (grows_deleteChildren table).trans ih

theorem grows_processCustomerRedact {shop : String} {payload : CustomerRedactPayload}
    (redacted : processCustomerRedact merchantId shop payload now db = .ok next) : Grows db next := by
  unfold processCustomerRedact at redacted
  split at redacted
  · cases redacted
    exact grows_audited _ _
  · split at redacted
    · cases redacted
      exact grows_audited _ _
    · split at redacted
      · cases redacted
      · rename_i customer _ _ customers updated
        cases redacted
        have redacted : Grows db { db with customers } :=
          grows_customers fun reference => (congrArg (reference ∈ ·) (owners_redacted updated)).mpr
        have unlinked : Grows { db with customers } { db with
            customers
            orders := db.orders.updateMany
              (fun row => row.merchantId == merchantId && row.customerId == some customer.id)
              (fun row => { row with customerId := none }) detached_index } :=
          { Grows.refl _ with orders := adds_updateMany rfl fun _ _ none => by cases none }
        exact ((redacted.trans unlinked).trans (grows_clear customerRedactChildTables)).trans (grows_audited _ _)

end Redaction

section Runs

/-- One operation on a store whose rows about customers name the right merchants. -/
theorem grows_perform {pipeline : Pipeline} {operation : Operation} (linked : Linked pipeline)
    (queued : operation.queued pipeline.jobs = true) (performed : perform pipeline.db operation = some next) :
    Grows pipeline.db next := by
  cases operation with
  | customerUpserted merchantId body newId scored now =>
    obtain ⟨⟨result, middle⟩, upserted, recomputed⟩ := bind_eq_ok_iff.mp (toOption_eq_some_iff.mp performed)
    obtain ⟨early, owned⟩ := grows_upsertFromWebhook upserted
    exact early.trans (grows_recompute owned recomputed)
  | customersBackfilled merchantId items now => exact grows_processItems (toOption_eq_some_iff.mp performed)
  | customerDeleted merchantId id now =>
    obtain ⟨⟨existed, middle⟩, deleted, rfl⟩ := map_eq_ok_iff.mp (toOption_eq_some_iff.mp performed)
    exact grows_handleCustomerDeleted deleted
  | orderUpserted merchantId body newId scored now =>
    obtain ⟨⟨result, middle⟩, upserted, recomputed⟩ := bind_eq_ok_iff.mp (toOption_eq_some_iff.mp performed)
    obtain ⟨early, owned⟩ := grows_upsertOrderRow upserted
    dsimp only at recomputed
    split at recomputed
    · cases recomputed
      exact early
    · rename_i customerId resolved
      exact early.trans (grows_recompute (owned customerId resolved) recomputed)
  | ordersBackfilled merchantId items => exact grows_processOrders (toOption_eq_some_iff.mp performed)
  | rescored merchant announced batch now =>
    simp only [perform] at performed
    split at performed
    · rename_i page
      refine grows_rescoreBatch (fun item member => ?_) (toOption_eq_some_iff.mp performed)
      exact mem_owners.mpr ⟨item.1, (page item member).1, rfl, (page item member).2.1⟩
    · cases performed
  | generated eventId args now =>
    obtain ⟨⟨customerId, merchantId⟩, read, created⟩ := Option.bind_eq_some_iff.mp performed
    obtain ⟨event, found, about⟩ := Option.bind_eq_some_iff.mp read
    have known := linked.transitions _ (Table.mem_links.mpr ⟨event, (Table.find?_mem found).1, about⟩)
    exact grows_createGeneration known (toOption_eq_some_iff.mp created)
  | generationCompleted merchantId completion now date =>
    exact grows_completeGeneration (toOption_eq_some_iff.mp performed)
  | generationFailed merchantId generationId lastError now =>
    cases performed
    exact grows_markFailed generationId lastError now
  | draftsPickedUp merchantId =>
    cases performed
    exact .refl _
  | targetClaimed job now =>
    cases performed
    exact grows_claimTarget (linked.jobs job (by simpa [Operation.queued] using queued))
  | targetResolved merchantId messageId reason status =>
    cases performed
    exact grows_resolveTerminal messageId reason status
  | sendingStarted merchantId messageId now =>
    cases performed
    exact grows_startSending messageId
  | sendingReverted merchantId messageId =>
    cases performed
    exact grows_revertToPending messageId
  | targetDeferred merchantId messageId =>
    cases performed
    exact grows_deferTarget messageId
  | targetSent merchantId args =>
    cases performed
    exact grows_markSentWithQuota args
  | customerRedacted merchantId shop payload now =>
    exact grows_processCustomerRedact (toOption_eq_some_iff.mp performed)
  | elsewhere other =>
    simp only [perform] at performed
    split at performed
    · rename_i same
      cases performed
      obtain ⟨customers, scores, orders, generations, messages, targets, suppressions, transitions⟩ := same
      exact {
        owners := fun reference member => by rwa [owners, customers]
        scores := fun reference member => .inl (by rwa [scoreReferences, scores] at member)
        orders := fun reference member => .inl (by rwa [orderReferences, orders] at member)
        generations := fun reference member => .inl (by rwa [generationReferences, generations] at member)
        messages := fun reference member => .inl (by rwa [messageReferences, messages] at member)
        targets := fun reference member => .inl (by rwa [targetReferences, targets] at member)
        suppressions := fun reference member => .inl (by rwa [suppressionReferences, suppressions] at member)
        transitions := fun reference member => .inl (transitions reference member) }
    · cases performed

theorem linked_step {pipeline later : Pipeline} {operation : Operation}
    (moved : history.step pipeline operation = some later) (linked : Linked pipeline) : Linked later := by
  simp only [history] at moved
  split at moved
  · rename_i queued
    obtain ⟨next, performed, rfl⟩ := Option.map_eq_some_iff.mp moved
    have grows := grows_perform linked queued performed
    refine linked.grows grows fun job member => ?_
    cases operation with
    | draftsPickedUp merchantId => exact grows.owners _ (owned_of_pickedUp member)
    | _ => cases member
  · cases moved

theorem linked_of_fresh {db : Db} (fresh : Fresh db) : Linked { db } where
  scores reference member := by
    rw [scoreReferences, fresh.customerScores] at member
    cases member
  orders reference member := by
    rw [orderReferences, fresh.orders] at member
    cases member
  generations reference member := by
    rw [generationReferences, fresh.aiGenerations] at member
    cases member
  messages reference member := by
    rw [messageReferences, fresh.messages] at member
    cases member
  targets reference member := by
    rw [targetReferences, fresh.campaignTargets] at member
    cases member
  suppressions reference member := by
    rw [suppressionReferences, fresh.suppressions] at member
    cases member
  transitions reference member := by
    rw [transitionReferences, fresh.transitions] at member
    cases member
  jobs job member := by cases member

/-- After any sequence of operations the rows about a customer name its merchant. -/
theorem linked_of_reachable {pipeline : Pipeline} (reachable : Reachable pipeline) : Linked pipeline := by
  obtain ⟨db, fresh, reach⟩ := reachable
  exact reach.invariant (linked_of_fresh fresh) fun _ _ _ _ moved linked => linked_step moved linked

end Runs

end WinBack.Compliance
