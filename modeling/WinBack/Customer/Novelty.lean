import WinBack.Library.Service
import WinBack.Compliance.Redact
import WinBack.Customer.Ingestion

/-! Which customers are reported as new. The report asks a read, which the soft-delete filter narrows; the upsert
next to it finds soft-deleted rows as well. -/

namespace WinBack

open Library CustomerRepository

section Operations

/-- What changes the customers of a merchant. -/
inductive CustomerOperation where
  | upserted (body : ShopifyCustomerWebhookBody) (newId : CustomerId) (now : Date)
  | deleted (id : ShopifyId) (now : Date)
  | redacted (shop : String) (payload : CustomerRedactPayload) (now : Date)

/-- Each operation is a transaction; one that throws is rolled back. An upsert answers. -/
def customerOperations (merchantId : MerchantId) : Service Db CustomerOperation (Option UpsertResult) where
  perform
    | db, .upserted body newId now =>
      match upsertFromWebhook merchantId body newId now db with
      | .ok (result, next) => (some result, next)
      | .error _ => (none, db)
    | db, .deleted id now =>
      match handleCustomerDeleted merchantId id now db with
      | .ok (_, next) => (none, next)
      | .error _ => (none, db)
    | db, .redacted shop payload now =>
      match processCustomerRedact merchantId shop payload now db with
      | .ok next => (none, next)
      | .error _ => (none, db)

variable (merchantId : MerchantId)

/-- The report of an upsert says whether no row was there, live or soft-deleted. -/
def ReportExact (db : Db) : CustomerOperation → Prop
  | .upserted body newId now => ∀ result ∈ ((customerOperations merchantId).perform db (.upserted body newId now)).1,
      (result.isNewCustomer = true ↔ ∀ row ∈ db.customers.rows, row.merchantId = merchantId →
        toShopifyCustomerGid body.id ≠ some row.shopifyCustomerId)
  | _ => True

/-- An upsert comes to no soft-deleted row. -/
def NotDeleted (db : Db) : CustomerOperation → Prop
  | .upserted body _ _ => ∀ row ∈ db.customers.rows, row.merchantId = merchantId →
      toShopifyCustomerGid body.id = some row.shopifyCustomerId → row.deletedAt = none
  | _ => True

def newReport (db : Db) (operation : CustomerOperation) : Nat :=
  match ((customerOperations merchantId).perform db operation).1 with
  | some result => if result.isNewCustomer then 1 else 0
  | none => 0

/-- The rows that an operation adds. -/
def inserted (db : Db) (operation : CustomerOperation) : Nat :=
  ((customerOperations merchantId).perform db operation).2.customers.rows.length - db.customers.rows.length

end Operations

section Steps

variable {merchantId : MerchantId} {gid : String} {db next : Db} {operation : CustomerOperation} {now : Date}
  {body : ShopifyCustomerWebhookBody} {newId customerId : CustomerId} {result : UpsertResult}

/-- A redaction rewrites rows, and keeps their number. -/
theorem length_processCustomerRedact {shop : String} {payload : CustomerRedactPayload}
    (redacted : processCustomerRedact merchantId shop payload now db = .ok next) :
    next.customers.rows.length = db.customers.rows.length := by
  unfold processCustomerRedact at redacted
  split at redacted
  · cases redacted
    rfl
  · split at redacted
    · cases redacted
      rfl
    · split at redacted
      · cases redacted
      · rename_i customer _ _ customers updated
        cases redacted
        dsimp only
        rw [customers_clear, Table.updateChecked?_rows updated, List.length_map]

/-- An upsert adds a row exactly when it finds none, live or soft-deleted. -/
theorem length_upsert {create update : CustomerPatch}
    (done : upsert merchantId gid newId create update now db = .ok (customerId, next)) :
    next.customers.rows.length =
      db.customers.rows.length + if (db.customers.find? (named merchantId gid)).isNone then 1 else 0 := by
  unfold upsert at done
  split at done
  · rename_i found
    cases done
    rw [found]
    exact List.length_map _
  · rename_i absent
    split at done
    · cases done
    · rename_i inserted
      split at done
      · cases done
        rw [absent, (Table.insert?_rows inserted).1, List.length_append]
        rfl
      · cases done

theorem find_named_eq_none_iff : db.customers.find? (named merchantId gid) = none ↔
    ∀ row ∈ db.customers.rows, row.merchantId = merchantId → row.shopifyCustomerId ≠ gid := by
  rw [Table.find?_none_iff]
  simp [named]

theorem findByShopifyId_of_absent (absent : db.customers.find? (named merchantId gid) = none) :
    findByShopifyId db merchantId gid = none := by
  rw [findByShopifyId, Table.find?_none_iff]
  intro row stored
  rw [Table.find?_none_iff.mp absent row stored, Bool.false_and]

/-- The read misses what the upsert finds exactly when it is soft-deleted. -/
theorem lookups_agree_iff :
    (findByShopifyId db merchantId gid).isNone = (db.customers.find? (named merchantId gid)).isNone ↔
      ∀ row ∈ db.customers.rows, row.merchantId = merchantId → row.shopifyCustomerId = gid → row.deletedAt = none := by
  cases found : db.customers.find? (named merchantId gid) with
  | none =>
    have nothing := find_named_eq_none_iff.mp found
    rw [findByShopifyId_of_absent found]
    exact iff_of_true rfl fun row stored owned same => absurd same (nothing row stored owned)
  | some row =>
    obtain ⟨stored, matched⟩ := Table.find?_mem found
    obtain ⟨owned, same⟩ : row.merchantId = merchantId ∧ row.shopifyCustomerId = gid := by
      simpa [named] using matched
    constructor
    · intro agree other member ownedToo sameToo
      have equal : other = row :=
        db.customers.eq_of_clash member stored (by simp [Indexed.clash, Indexed.index, owned, same, ownedToo, sameToo])
      obtain ⟨live, lookedUp⟩ := Option.isSome_iff_exists.mp (Option.isNone_eq_false_iff.mp agree)
      obtain ⟨liveStored, liveMatched⟩ := Table.find?_mem lookedUp
      rw [Bool.and_eq_true, beq_iff_eq] at liveMatched
      have liveNamed : live.merchantId = merchantId ∧ live.shopifyCustomerId = gid := by
        simpa [named] using liveMatched.1
      have liveEqual : live = row :=
        db.customers.eq_of_clash liveStored stored (by simp [Indexed.clash, Indexed.index, owned, same, liveNamed.1, liveNamed.2])
      rw [equal, ← liveEqual]
      exact liveMatched.2
    · intro undeleted
      have live : row.deletedAt = none := undeleted row stored owned same
      rw [Option.isNone_some, Option.isNone_eq_false_iff, Option.isSome_iff_ne_none]
      intro missed
      have filtered := Table.find?_none_iff.mp missed row stored
      rw [matched, live] at filtered
      cases filtered

/-- What an upsert reports and adds, by what both lookups find. -/
theorem upsertFromWebhook_report (done : upsertFromWebhook merchantId body newId now db = .ok (result, next)) :
    ∃ gid, toShopifyCustomerGid body.id = some gid ∧
      result.isNewCustomer = (findByShopifyId db merchantId gid).isNone ∧
      next.customers.rows.length =
        db.customers.rows.length + if (db.customers.find? (named merchantId gid)).isNone then 1 else 0 := by
  unfold upsertFromWebhook at done
  split at done
  · cases done
  · rename_i gid wrapped
    refine ⟨gid, wrapped, ?_⟩
    cases wrote : upsert merchantId gid newId body.sharedFields body.sharedFields now db with
    | error error =>
      rw [wrote] at done
      cases done
    | ok written =>
      rw [wrote] at done
      cases done
      exact ⟨rfl, length_upsert wrote⟩

/-- An upsert that throws found no row. -/
theorem upsertFromWebhook_threw {error : RepositoryError} {gid : String}
    (threw : upsertFromWebhook merchantId body newId now db = .error error) (wrapped : toShopifyCustomerGid body.id = some gid) :
    db.customers.find? (named merchantId gid) = none := by
  by_contra found
  obtain ⟨stored, found⟩ := Option.ne_none_iff_exists'.mp found
  simp only [upsertFromWebhook, wrapped, upsert, found] at threw
  cases threw

end Steps

section Exact

variable (merchantId : MerchantId) (db : Db) (operation : CustomerOperation)

/-- An operation reports and adds what the two lookups find, or it reports nothing and adds nothing. -/
theorem perform_cases :
    (∃ body newId now gid result, operation = .upserted body newId now ∧ toShopifyCustomerGid body.id = some gid ∧
      ((customerOperations merchantId).perform db operation).1 = some result ∧
      result.isNewCustomer = (findByShopifyId db merchantId gid).isNone ∧
      ((customerOperations merchantId).perform db operation).2.customers.rows.length =
        db.customers.rows.length + if (db.customers.find? (named merchantId gid)).isNone then 1 else 0) ∨
    (((customerOperations merchantId).perform db operation).1 = none ∧ NotDeleted merchantId db operation ∧
      ((customerOperations merchantId).perform db operation).2.customers.rows.length = db.customers.rows.length) := by
  cases operation with
  | upserted body newId now =>
    cases done : upsertFromWebhook merchantId body newId now db with
    | ok answer =>
      obtain ⟨result, next⟩ := answer
      obtain ⟨gid, wrapped, report, rows⟩ := upsertFromWebhook_report done
      have performed : (customerOperations merchantId).perform db (.upserted body newId now) = (some result, next) := by
        simp only [customerOperations, done]
      rw [performed]
      exact .inl ⟨body, newId, now, gid, result, rfl, wrapped, rfl, report, rows⟩
    | error error =>
      have performed : (customerOperations merchantId).perform db (.upserted body newId now) = (none, db) := by
        simp only [customerOperations, done]
      rw [performed]
      refine .inr ⟨rfl, fun row stored owned same => ?_, rfl⟩
      have nothing := find_named_eq_none_iff.mp (upsertFromWebhook_threw done same)
      exact absurd rfl (nothing row stored owned)
  | deleted id now =>
    refine .inr ⟨?_, trivial, ?_⟩ <;> simp only [customerOperations, handleCustomerDeleted]
    · cases toShopifyCustomerGid id <;> rfl
    · cases toShopifyCustomerGid id with
      | none => rfl
      | some gid => exact List.length_map _
  | redacted shop payload now =>
    cases done : processCustomerRedact merchantId shop payload now db with
    | ok next =>
      refine .inr ⟨?_, trivial, ?_⟩ <;> simp only [customerOperations, done]
      exact length_processCustomerRedact done
    | error error =>
      refine .inr ⟨?_, trivial, ?_⟩ <;> simp only [customerOperations, done]

variable {db operation}

/-- For an upsert of this identifier the condition says that the lookups agree. -/
theorem notDeleted_iff {body : ShopifyCustomerWebhookBody} {newId : CustomerId} {now : Date} {gid : String}
    (wrapped : toShopifyCustomerGid body.id = some gid) : NotDeleted merchantId db (.upserted body newId now) ↔
      (findByShopifyId db merchantId gid).isNone = (db.customers.find? (named merchantId gid)).isNone := by
  rw [lookups_agree_iff]
  change (∀ row ∈ db.customers.rows, row.merchantId = merchantId → toShopifyCustomerGid body.id = some row.shopifyCustomerId →
    row.deletedAt = none) ↔ _
  simp only [wrapped, Option.some_inj, eq_comm (a := gid)]

theorem length_perform : ((customerOperations merchantId).perform db operation).2.customers.rows.length =
    db.customers.rows.length + inserted merchantId db operation := by
  unfold inserted
  rcases perform_cases merchantId db operation with ⟨_, _, _, _, _, _, _, _, _, rows⟩ | ⟨_, _, rows⟩
  · omega
  · omega

/-- A report counts every new row, and possibly a row that is not new. -/
theorem inserted_le_newReport : inserted merchantId db operation ≤ newReport merchantId db operation ∧
    (inserted merchantId db operation = newReport merchantId db operation ↔ NotDeleted merchantId db operation) := by
  unfold inserted newReport
  rcases perform_cases merchantId db operation with
    ⟨body, newId, now, gid, result, rfl, wrapped, answered, report, rows⟩ | ⟨silent, undeleted, rows⟩
  · rw [answered, rows, notDeleted_iff merchantId wrapped, Nat.add_sub_cancel_left]
    dsimp only
    rw [report]
    cases found : db.customers.find? (named merchantId gid) with
    | none =>
      rw [findByShopifyId_of_absent found]
      exact ⟨Nat.le_refl 1, iff_of_true rfl rfl⟩
    | some row =>
      rw [Option.isNone_some]
      cases (findByShopifyId db merchantId gid).isNone <;> decide
  · rw [silent, rows, Nat.sub_self]
    exact ⟨Nat.le_refl 0, iff_of_true rfl undeleted⟩

theorem reportExact_iff : ReportExact merchantId db operation ↔ NotDeleted merchantId db operation := by
  rcases perform_cases merchantId db operation with
    ⟨body, newId, now, gid, result, rfl, wrapped, answered, report, _⟩ | ⟨silent, undeleted, _⟩
  · have absent : (∀ row ∈ db.customers.rows, row.merchantId = merchantId → toShopifyCustomerGid body.id ≠ some row.shopifyCustomerId) ↔
        (db.customers.find? (named merchantId gid)).isNone = true := by
      rw [Option.isNone_iff_eq_none, find_named_eq_none_iff, wrapped]
      simp only [ne_eq, Option.some_inj, eq_comm (a := gid)]
    rw [notDeleted_iff merchantId wrapped, Bool.eq_iff_iff, ← absent, ← report]
    constructor
    · exact fun told => told result answered
    · intro same other reported
      obtain rfl := Option.some.inj (answered.symm.trans reported)
      exact same
  · refine iff_of_true ?_ undeleted
    cases operation with
    | upserted body newId now =>
      intro result reported
      rw [Option.mem_def, silent] at reported
      cases reported
    | deleted id now => trivial
    | redacted shop payload now => trivial

/-- Over every sequence of operations, each report is exact if and only if no upsert comes to a soft-deleted row, and
then, and only then, as many customers are reported as new as there are new rows. -/
theorem new_reports_exact (operations : List CustomerOperation) :
    ((customerOperations merchantId).Throughout (ReportExact merchantId) db operations ↔
      (customerOperations merchantId).Throughout (NotDeleted merchantId) db operations) ∧
    (((customerOperations merchantId).run db operations).customers.rows.length =
        db.customers.rows.length + (customerOperations merchantId).total (newReport merchantId) db operations ↔
      (customerOperations merchantId).Throughout (NotDeleted merchantId) db operations) := by
  have rows := @Service.measure_run _ _ _ (customerOperations merchantId) db operations (fun db => db.customers.rows.length)
    (inserted merchantId) fun _ _ => length_perform merchantId
  refine ⟨Service.throughout_congr fun _ _ => reportExact_iff merchantId, ?_⟩
  rw [rows, Nat.add_left_cancel_iff, Service.total_eq_iff fun _ _ => (inserted_le_newReport merchantId).1]
  exact Service.throughout_congr fun _ _ => (inserted_le_newReport merchantId).2

/-- A customer that is deleted in Shopify and comes back is reported as new a second time. -/
def recreated : List CustomerOperation :=
  [.upserted { id := .text "7", createdAt := 0, updatedAt := 0 } "c" 0, .deleted (.text "7") 1,
    .upserted { id := .text "7", createdAt := 0, updatedAt := 2 } "d" 2]

def oneShop : Db := { merchants := .single { id := "m", shop := "m.myshopify.com" } }

theorem new_reports_recreated : ¬∀ (merchantId : MerchantId) (db : Db) (operations : List CustomerOperation),
    (customerOperations merchantId).Throughout (ReportExact merchantId) db operations ∧
      ((customerOperations merchantId).run db operations).customers.rows.length =
        db.customers.rows.length + (customerOperations merchantId).total (newReport merchantId) db operations := by
  intro claimed
  have counted := (claimed "m" oneShop recreated).2
  have rows : ((customerOperations "m").run oneShop recreated).customers.rows.length = 1 := by decide
  have reports : (customerOperations "m").total (newReport "m") oneShop recreated = 2 := by decide
  rw [rows, reports] at counted
  exact absurd counted (by decide)

end Exact

end WinBack
