import WinBack.Compliance.Linked

/-! What a redaction leaves of a customer. Rows about a customer carry its merchant,
so the scoped deletes miss none of them; the lookup decides whether they run at all. -/

namespace WinBack.Compliance

open Library

/-- Whether a row about the customer is left in a child table. -/
def mentions (db : Db) (customerId : CustomerId) : CustomerRedactChildTable → Bool
  | .campaignTarget => db.campaignTargets.any (·.customerId == customerId)
  | .message => db.messages.any (·.customerId == customerId)
  | .aiGeneration => db.aiGenerations.any (·.customerId == customerId)
  | .customerScore => db.customerScores.any (·.customerId == customerId)
  | .suppression => db.suppressions.any (·.customerId == customerId)

/-- The row holds no personal data and not the identifier, and nothing refers to it. -/
structure Erased (gid : String) (customerId : CustomerId) (db : Db) : Prop where
  row : ∃ row ∈ db.customers.rows, row.id = customerId ∧ row.email = none ∧ row.phone = none ∧
    row.firstName = none ∧ row.lastName = none ∧ row.shopifyCustomerId ≠ gid
  children : ∀ table ∈ customerRedactChildTables, mentions db customerId table = false
  orders : ∀ order ∈ db.orders.rows, order.customerId ≠ some customerId

theorem Erased.audited {gid : String} {customerId : CustomerId} {db : Db} (auditLogs : List AuditLog)
    (erased : Erased gid customerId db) : Erased gid customerId { db with auditLogs } where
  row := erased.row
  children table listed := by
    have gone := erased.children table listed
    cases table <;> exact gone
  orders := erased.orders

variable {pipeline : Pipeline} {db next : Db} {customer : Customer} {shop gid : String}
  {payload : CustomerRedactPayload} {now : Date}

/-- An identifier is never one of the sentinels that replace it. -/
theorem sentinel_ne_gid {id : ShopifyId} (wrapped : toShopifyCustomerGid id = some gid)
    (customerId : CustomerId) : redactedGidSentinelPrefix ++ customerId ≠ gid := by
  unfold toShopifyCustomerGid wrapGid at wrapped
  split at wrapped
  · intro same
    rw [← same] at wrapped
    have letters := congrArg (fun text => text.map fun text => text.toList.head?) wrapped
    simp [redactedGidSentinelPrefix] at letters
  · cases wrapped

/-- Nothing but a live row of the merchant with this identifier is looked up. -/
theorem findByShopifyId_eq_some_iff {merchantId : MerchantId} :
    CustomerRepository.findByShopifyId db merchantId gid = some customer ↔
      customer ∈ db.customers.rows ∧ customer.merchantId = merchantId ∧ customer.shopifyCustomerId = gid ∧
        customer.deletedAt = none := by
  unfold CustomerRepository.findByShopifyId
  rw [Table.find?_eq_some_iff]
  · simp [CustomerRepository.named, and_assoc]
  · intro first second here there
    simp only [CustomerRepository.named, Bool.and_eq_true, beq_iff_eq] at here there
    simp [Indexed.clash, Indexed.index, here.1.1, there.1.1, here.1.2, there.1.2]

section Live

/-- The store of a redaction that found its customer. -/
def redactedStore (db : Db) (customer : Customer) (customers : Table Customer) : Db :=
  customerRedactChildTables.foldl (fun db table => deleteChildren db customer.merchantId customer.id table)
    { db with
      customers
      orders := db.orders.updateMany
        (fun row => row.merchantId == customer.merchantId && row.customerId == some customer.id)
        (fun row => { row with customerId := none }) detached_index }

variable {customers : Table Customer}

/-- A scoped delete misses no row about a customer when such rows carry its merchant. -/
theorem any_eq_false_of_scoped {Row : Type} [Indexed Row] {table left : Table Row} {owner : Row → MerchantId}
    {subject : Row → CustomerId} (stored : customer ∈ db.customers.rows)
    (linked : ∀ reference ∈ table.links fun row => some (subject row, owner row), reference ∈ owners db)
    (kept : ∀ row ∈ left.rows, row ∈ table.rows ∧ (owner row = customer.merchantId → subject row ≠ customer.id)) :
    left.any (subject · == customer.id) = false := by
  simp only [Table.any, List.any_eq_false, beq_iff_eq]
  intro row member about
  obtain ⟨present, apart⟩ := kept row member
  have owned : (customer.id, owner row) ∈ owners db :=
    linked _ (Table.mem_links.mpr ⟨row, present, by rw [about]⟩)
  exact apart (merchant_of_owner stored owned).symm about

/-- No row about the customer survives in a child table. -/
theorem mentions_redactedStore (linked : Linked pipeline) (stored : customer ∈ pipeline.db.customers.rows)
    (table : CustomerRedactChildTable) :
    mentions (redactedStore pipeline.db customer customers) customer.id table = false := by
  cases table with
  | campaignTarget =>
    refine any_eq_false_of_scoped stored linked.targets fun row member => ?_
    simp [redactedStore, customerRedactChildTables, deleteChildren, deleteGenerations, deleteMessages] at member
    tauto
  | message =>
    refine any_eq_false_of_scoped stored linked.messages fun row member => ?_
    simp [redactedStore, customerRedactChildTables, deleteChildren, deleteGenerations, deleteMessages] at member
    tauto
  | aiGeneration =>
    refine any_eq_false_of_scoped stored linked.generations fun row member => ?_
    simp [redactedStore, customerRedactChildTables, deleteChildren, deleteGenerations, deleteMessages] at member
    tauto
  | customerScore =>
    refine any_eq_false_of_scoped stored linked.scores fun row member => ?_
    simp [redactedStore, customerRedactChildTables, deleteChildren, deleteGenerations, deleteMessages] at member
    tauto
  | suppression =>
    refine any_eq_false_of_scoped stored linked.suppressions fun row member => ?_
    simp [redactedStore, customerRedactChildTables, deleteChildren, deleteGenerations, deleteMessages] at member
    tauto

/-- No order keeps its link to the customer. -/
theorem orders_redactedStore (linked : Linked pipeline) (stored : customer ∈ pipeline.db.customers.rows) :
    ∀ order ∈ (redactedStore pipeline.db customer customers).orders.rows, order.customerId ≠ some customer.id := by
  intro order member about
  have listed : order ∈ (pipeline.db.orders.updateMany
      (fun row => row.merchantId == customer.merchantId && row.customerId == some customer.id)
      (fun row => { row with customerId := none }) detached_index).rows := member
  obtain ⟨old, present, rfl⟩ := List.mem_map.mp listed
  split at about
  · cases about
  · rename_i unmatched
    have owned : (customer.id, old.merchantId) ∈ owners pipeline.db :=
      linked.orders _ (Table.mem_links.mpr ⟨old, present, by rw [about]; rfl⟩)
    simp [merchant_of_owner stored owned, about] at unmatched

/-- The row itself, once the update of its identifying columns went through. -/
theorem row_redactedStore {id : ShopifyId} (wrapped : toShopifyCustomerGid id = some gid)
    (stored : customer ∈ db.customers.rows)
    (updated : db.customers.updateChecked?
      (fun row => row.id == customer.id && row.merchantId == customer.merchantId) (redactRow now) = some customers) :
    ∃ row ∈ customers.rows, row.id = customer.id ∧ row.email = none ∧ row.phone = none ∧
      row.firstName = none ∧ row.lastName = none ∧ row.shopifyCustomerId ≠ gid := by
  refine ⟨redactRow now customer, ?_, rfl, rfl, rfl, rfl, rfl, sentinel_ne_gid wrapped customer.id⟩
  rw [Table.updateChecked?_rows updated]
  exact List.mem_map.mpr ⟨customer, stored, by simp⟩

end Live

/-- A redaction that finds its customer erases it. -/
theorem erased_of_live (linked : Linked pipeline) (stored : customer ∈ pipeline.db.customers.rows)
    {id : ShopifyId} (named : payload.customerId = some id)
    (wrapped : toShopifyCustomerGid id = some customer.shopifyCustomerId) (live : customer.deletedAt = none)
    (redacted : processCustomerRedact customer.merchantId shop payload now pipeline.db = .ok next) :
    Erased customer.shopifyCustomerId customer.id next := by
  have found := findByShopifyId_eq_some_iff.mpr ⟨stored, rfl, rfl, live⟩
  simp only [processCustomerRedact, named, Option.bind_some, wrapped, Option.map_some, found] at redacted
  split at redacted
  · cases redacted
  · rename_i customers updated
    obtain rfl := Except.ok.inj redacted
    exact Erased.audited _ {
      row := row_redactedStore wrapped stored updated
      children := fun table _ => mentions_redactedStore linked stored table
      orders := orders_redactedStore linked stored }

/-- One that does not find it leaves the row with its identifier. -/
theorem not_erased_of_deleted (stored : customer ∈ db.customers.rows) {id : ShopifyId}
    (named : payload.customerId = some id)
    (wrapped : toShopifyCustomerGid id = some customer.shopifyCustomerId) (gone : customer.deletedAt ≠ none)
    (redacted : processCustomerRedact customer.merchantId shop payload now db = .ok next) :
    ¬Erased customer.shopifyCustomerId customer.id next := by
  have missed : CustomerRepository.findByShopifyId db customer.merchantId customer.shopifyCustomerId = none := by
    by_contra found
    obtain ⟨other, found⟩ := Option.ne_none_iff_exists'.mp found
    obtain ⟨present, merchant, gid, live⟩ := findByShopifyId_eq_some_iff.mp found
    have same : other = customer :=
      db.customers.eq_of_clash present stored (by simp [Indexed.clash, Indexed.index, merchant, gid])
    exact gone (same ▸ live)
  simp only [processCustomerRedact, named, Option.bind_some, wrapped, Option.map_some, missed] at redacted
  cases redacted
  intro erased
  obtain ⟨row, present, same, _, _, _, _, replaced⟩ := erased.row
  have equal : row = customer :=
    db.customers.eq_of_clash present stored (by simp [Indexed.clash, Indexed.index, same])
  exact replaced (congrArg Customer.shopifyCustomerId equal)

/-- After any history a redaction erases the customer it names exactly when its row
was not soft-deleted before. -/
theorem erased_iff_live (reachable : Reachable pipeline) (stored : customer ∈ pipeline.db.customers.rows)
    (named : payload.customerId.bind toShopifyCustomerGid = some customer.shopifyCustomerId)
    (redacted : processCustomerRedact customer.merchantId shop payload now pipeline.db = .ok next) :
    Erased customer.shopifyCustomerId customer.id next ↔ customer.deletedAt = none := by
  obtain ⟨id, given, wrapped⟩ := Option.bind_eq_some_iff.mp named
  constructor
  · intro erased
    by_contra gone
    exact not_erased_of_deleted stored given wrapped gone redacted erased
  · intro live
    exact erased_of_live (linked_of_reachable reachable) stored given wrapped live redacted

section Histories

def oneMerchant : Db := { merchants := .single { id := "m", shop := "m.myshopify.com" } }

theorem fresh_oneMerchant : Fresh oneMerchant := ⟨rfl, rfl, rfl, rfl, rfl, rfl, rfl, rfl⟩

/-- `customers/create` for one customer of the merchant. -/
def ingested : Operation :=
  .customerUpserted "m" { id := .text "7", email := some "ann@example.com", createdAt := 0, updatedAt := 0 } "c"
    { score := { rDays := 0, fCount := 0, mCents := 0, newState := .active }, eventId := "e" } 0

def ingestedCustomer : Customer where
  id := "c"
  merchantId := "m"
  shopifyCustomerId := "gid://shopify/Customer/7"
  email := some "ann@example.com"
  shopifyCreatedAt := some 0
  shopifyUpdatedAt := some 0

def redactSeven : CustomerRedactPayload := { shopDomain := some "m.myshopify.com", customerId := some (.text "7") }

def afterwards (operations : List Operation) : Option Pipeline :=
  history.runWhere (fun _ _ => true) { db := oneMerchant } operations

theorem reachable_afterwards (operations : List Operation) (ran : (afterwards operations).isSome) :
    Reachable ((afterwards operations).get ran) :=
  ⟨oneMerchant, fresh_oneMerchant, (Machine.reach_get ran).mono fun _ _ _ => trivial⟩

theorem redacted_afterwards (pipeline : Pipeline)
    (redacts : (processCustomerRedact "m" "m.myshopify.com" redactSeven 5 pipeline.db).toOption.isSome) :
    processCustomerRedact "m" "m.myshopify.com" redactSeven 5 pipeline.db =
      .ok ((processCustomerRedact "m" "m.myshopify.com" redactSeven 5 pipeline.db).toOption.get redacts) :=
  toOption_eq_some_iff.mp (Option.some_get redacts).symm

theorem erased_once_ingested :
    ∃ pipeline next, Reachable pipeline ∧ ingestedCustomer ∈ pipeline.db.customers.rows ∧
      processCustomerRedact "m" "m.myshopify.com" redactSeven 5 pipeline.db = .ok next ∧
      Erased "gid://shopify/Customer/7" "c" next := by
  have reachable := reachable_afterwards [ingested] (by decide)
  have stored : ingestedCustomer ∈ ((afterwards [ingested]).get (by decide)).db.customers.rows := by
    decide
  have redacted := redacted_afterwards ((afterwards [ingested]).get (by decide)) (by decide)
  exact ⟨_, _, reachable, stored, redacted, (erased_iff_live reachable stored (by decide) redacted).mpr rfl⟩

/-- `customers/create`, `customers/delete`, then `customers/redact`. -/
theorem deleted_customer_survives_redaction :
    ¬∀ (pipeline : Pipeline) (customer : Customer) (shop : String) (payload : CustomerRedactPayload) (now : Date)
      (next : Db), Reachable pipeline → customer ∈ pipeline.db.customers.rows →
      payload.customerId.bind toShopifyCustomerGid = some customer.shopifyCustomerId →
      processCustomerRedact customer.merchantId shop payload now pipeline.db = .ok next →
      Erased customer.shopifyCustomerId customer.id next := by
  intro claim
  have reachable := reachable_afterwards [ingested, .customerDeleted "m" (.text "7") 4] (by decide)
  have redacted := redacted_afterwards
    ((afterwards [ingested, .customerDeleted "m" (.text "7") 4]).get (by decide)) (by decide)
  have stored : { ingestedCustomer with deletedAt := some 4 } ∈
      ((afterwards [ingested, .customerDeleted "m" (.text "7") 4]).get (by decide)).db.customers.rows := by
    decide
  have named : redactSeven.customerId.bind toShopifyCustomerGid = some "gid://shopify/Customer/7" := by
    decide
  exact not_erased_of_deleted stored rfl named (by decide) redacted
    (claim _ _ _ _ _ _ reachable stored named redacted)

end Histories

end WinBack.Compliance
