import WinBack.Customer.Repository

/-! The processor of `customers/redact`. -/

namespace WinBack

open Library

structure CustomerRedactPayload where
  shopDomain : Option String := none
  customerId : Option ShopifyId := none
  ordersToRedact : List ShopifyId := []
  deriving DecidableEq, Repr

def redactedGidSentinelPrefix : String := "redacted:"

/-- The tables with rows of one customer that a redaction deletes. -/
inductive CustomerRedactChildTable where
  | campaignTarget | message | aiGeneration | customerScore | suppression
  deriving DecidableEq, Repr

def customerRedactChildTables : List CustomerRedactChildTable :=
  [.campaignTarget, .message, .aiGeneration, .customerScore, .suppression]

section Cascades

variable (db : Db)

/-- Deleting messages deletes the targets that reference them. -/
def deleteMessages (filter : Message → Bool) : Db := { db with
  messages := db.messages.deleteMany filter
  campaignTargets := db.campaignTargets.deleteMany fun target =>
    db.messages.any fun message => filter message && message.id == target.messageId }

/-- Deleting generations deletes the messages that reference them. -/
def deleteGenerations (filter : AiGeneration → Bool) : Db :=
  { deleteMessages db fun message =>
      db.aiGenerations.any fun generation => filter generation && generation.id == message.aiGenerationId with
    aiGenerations := db.aiGenerations.deleteMany filter }

/-- `childDelegates[table].deleteMany({ where: { merchantId, customerId } })`. -/
def deleteChildren (merchantId : MerchantId) (customerId : CustomerId) : CustomerRedactChildTable → Db
  | .campaignTarget => { db with campaignTargets := db.campaignTargets.deleteMany fun row =>
      row.merchantId == merchantId && row.customerId == customerId }
  | .message => deleteMessages db fun row => row.merchantId == merchantId && row.customerId == customerId
  | .aiGeneration => deleteGenerations db fun row => row.merchantId == merchantId && row.customerId == customerId
  | .customerScore => { db with customerScores := db.customerScores.deleteMany fun row =>
      row.merchantId == merchantId && row.customerId == customerId }
  | .suppression => { db with suppressions := db.suppressions.deleteMany fun row =>
      row.merchantId == merchantId && row.customerId == customerId }

end Cascades

/-- The columns that identify the person, and the tombstone. -/
def redactRow (now : Date) (row : Customer) : Customer := { row with
  email := none
  phone := none
  firstName := none
  lastName := none
  shopifyCustomerId := redactedGidSentinelPrefix ++ row.id
  deletedAt := some (row.deletedAt.getD now) }

def shownIds (ids : List ShopifyId) : Json := .arr (ids.map fun id => .str id.shown)

section Audits

variable (merchantId : MerchantId) (shop : String) (payload : CustomerRedactPayload)

def redactAudit (action : String) (targetId : Option String) (context : List (String × Json)) : AuditLog where
  merchantId := some merchantId
  shop := some shop
  actorType := .system
  actorId := some "gdpr.processor"
  action
  targetType := some "customer"
  targetId
  context := .obj context

def shopDomainContext : String × Json := ("shopDomain", payload.shopDomain.elim .null .str)

def malformedAudit : AuditLog :=
  redactAudit merchantId shop "gdpr.customer_redact_malformed" (payload.customerId.map ShopifyId.shown)
    [shopDomainContext payload]

def noLocalRecordAudit (numericId : ShopifyId) (gid : String) : AuditLog :=
  redactAudit merchantId shop "gdpr.customer_redact_no_local_record" (some numericId.shown)
    [("shopifyCustomerGid", .str gid), shopDomainContext payload]

def customerRedactAudit (customerId : CustomerId) (gid : String) : AuditLog :=
  redactAudit merchantId shop "gdpr.customer_redact" (some customerId)
    [("shopifyCustomerGid", .str gid), shopDomainContext payload,
      ("ordersToRedact", shownIds payload.ordersToRedact)]

end Audits

theorem detached_index (row : Order) : Indexed.index { row with customerId := none } = Indexed.index row := rfl

/-- One transaction. The lookup is a read, so the soft-delete filter narrows it: a
customer that was soft-deleted before counts as no local record. -/
def processCustomerRedact (merchantId : MerchantId) (shop : String) (payload : CustomerRedactPayload) (now : Date)
    (db : Db) : Except RepositoryError Db :=
  match payload.customerId.bind fun id => (toShopifyCustomerGid id).map (Prod.mk id) with
  | none => .ok { db with auditLogs := db.auditLogs ++ [malformedAudit merchantId shop payload] }
  | some (numericId, gid) =>
    match CustomerRepository.findByShopifyId db merchantId gid with
    | none => .ok { db with
        auditLogs := db.auditLogs ++ [noLocalRecordAudit merchantId shop payload numericId gid] }
    | some customer =>
      match db.customers.updateChecked? (fun row => row.id == customer.id && row.merchantId == merchantId)
          (redactRow now) with
      | none => .error .uniqueConstraint
      | some customers =>
        let unlinked := { db with
          customers
          orders := db.orders.updateMany
            (fun row => row.merchantId == merchantId && row.customerId == some customer.id)
            (fun row => { row with customerId := none }) detached_index }
        let cleared := customerRedactChildTables.foldl
          (fun db table => deleteChildren db merchantId customer.id table) unlinked
        .ok { cleared with
          auditLogs := cleared.auditLogs ++ [customerRedactAudit merchantId shop payload customer.id gid] }

theorem customers_clear (tables : List CustomerRedactChildTable) (merchantId : MerchantId) (customerId : CustomerId) (db : Db) :
    (tables.foldl (fun db table => deleteChildren db merchantId customerId table) db).customers = db.customers := by
  induction tables generalizing db with
  | nil => rfl
  | cons table tables ih =>
    rw [List.foldl_cons, ih]
    cases table <;> rfl

end WinBack
