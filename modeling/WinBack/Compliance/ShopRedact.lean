import WinBack.Compliance.ShopSchema
import WinBack.Customer.Repository
import WinBack.Library.Machine
import Mathlib.Data.List.Perm.Subperm

/-! The processor of `shop/redact`: a sequence of transactions, any of which may be the
last one that a process lives to commit. -/

namespace WinBack.ShopRedact

open Library Library.Relational Tenant

structure ShopRedactPayload where
  shopId : Option ShopifyId := none
  shopDomain : Option String := none
  deriving DecidableEq, Repr

def defaultShopRedactBatchSize : Nat := 1000

def shopRedactTablesInOrder : List Model :=
  [.orderLineItem, .order, .campaignTarget, .messageEvent, .message, .aiGeneration, .customerScore, .suppression,
    .productVariant, .product, .customer, .campaign, .outboxEvent, .idempotencyKey, .backfillJob, .aiSpendBucket,
    .messageQuotaBucket, .merchantSettings, .billingSubscription]

/-- Every tenant table is purged, and no other. -/
theorem mem_shopRedactTables (model : Model) : model ∈ shopRedactTablesInOrder ↔ model ∈ tenantScopedModels := by
  cases model <;> decide

structure ProcessShopRedactArgs where
  shop : String
  payload : ShopRedactPayload := {}
  batchSize : Nat := defaultShopRedactBatchSize
  deriving DecidableEq, Repr

variable {Rest : Type}

section Audits

variable (args : ProcessShopRedactArgs)

def shopDomainContext : String × Json := ("shopDomain", args.payload.shopDomain.elim .null .str)

def idempotentAudit : AuditLog where
  merchantId := none
  shop := some args.shop
  actorType := .system
  actorId := some "gdpr.processor"
  action := "gdpr.shop_redact_idempotent"
  targetType := some "merchant"
  context := .obj [shopDomainContext args]

def shopRedactAudit (merchantId : MerchantId) : AuditLog where
  merchantId := some merchantId
  shop := some args.shop
  actorType := .system
  actorId := some "gdpr.processor"
  action := "gdpr.shop_redact"
  targetType := some "merchant"
  targetId := some merchantId
  context := .obj [("shopId", args.payload.shopId.elim .null fun id => .str id.shown), shopDomainContext args]

end Audits

def auditRow (id : String) (log : AuditLog) : ShopRow Rest where
  model := .auditLog
  id
  links
    | .merchantId => log.merchantId
    | _ => none
  cells := {
    shop := log.shop
    columns := .audit ⟨log.actorType, log.actorId, log.action, log.targetType, log.targetId, log.context⟩ }

/-- `AuditLogRepository.append`, with the id of the new row. -/
def append (log : AuditLog) (id : String) (db : Database Rest) : Option (Database Rest) := db.insert? (auditRow id log)

def isMerchantOf (shop : String) (row : ShopRow Rest) : Bool := row.model == .merchant && row.cells.shop == some shop

def findByShop (shop : String) (db : Database Rest) : Option MerchantId :=
  (db.rows.find? (isMerchantOf shop)).map (·.id)

def isMerchant (merchantId : MerchantId) (row : ShopRow Rest) : Bool := row.model == .merchant && row.id == merchantId

/-- A missing record makes the statement throw. -/
def hardDelete (merchantId : MerchantId) (db : Database Rest) : Option (Database Rest) :=
  if db.rows.any (isMerchant merchantId) then some (db.delete (isMerchant merchantId)) else none

/-- At most one row for each merchant. -/
def oneToOne (table : Model) : Bool := table == .merchantSettings || table == .billingSubscription

def keyColumn (table : Model) : String := if table = .idempotencyKey then "key" else "id"

/-- What `take` may return of the rows found: any of them, as many as there are up to the size of a batch. -/
def Batch (batchSize : Nat) (found ids : List String) : Prop :=
  ids.Subperm found ∧ ids.length = min batchSize found.length

instance (batchSize : Nat) (found ids : List String) : Decidable (Batch batchSize found ids) :=
  inferInstanceAs (Decidable (_ ∧ _))

/-- One transaction of `chunkedDeleteTenant`, with the ids it read and whether there is
`more`. `none` where these are no ids that it can read. -/
def chunkedDeleteTenant (merchantId : MerchantId) (batchSize : Nat) (table : Model) (ids : List String)
    (db : Database Rest) : Option (Database Rest × Bool) :=
  if oneToOne table then
    if ids = [] then
      (deleteMany (.tenant merchantId) table (tenantWhere merchantId) db).toOption.map fun db => (db, false)
    else none
  else
    match findMany (.tenant merchantId) table (tenantWhere merchantId) db with
    | .error _ => none
    | .ok rows =>
      if Batch batchSize (rows.map (·.id)) ids then
        if ids = [] then some (db, 0 == batchSize)
        else
          (deleteMany (.tenant merchantId) table (batchWhere merchantId (keyColumn table) ids) db).toOption.map
            fun db => (db, ids.length == batchSize)
      else none

/-- Where a call stands between two transactions. -/
inductive Phase where
  | idle
  | found (merchant : Option MerchantId)
  | purging (merchantId : MerchantId) (tables : List Model)
  | deleting (merchantId : MerchantId)
  | returned
  deriving DecidableEq, Repr

structure World (Rest : Type) where
  db : Database Rest
  phase : Phase

inductive Label where
  | start
  | audit (id : String)
  | chunk (ids : List String)
  | sessions
  | merchant
  | crash
  deriving DecidableEq, Repr

/-- The label belongs to a call that goes on. -/
def Label.onward : Label → Bool
  | .start | .crash => false
  | _ => true

def redactReason : TenantScope := .system "gdpr.shop_redact"

def shopWhere (shop : String) : Entries := ⟨[("shop", some (.str shop))], by simp⟩

/-- `processShopRedact`, transaction by transaction. A crash ends a call, and a
call starts from the beginning. -/
def step (args : ProcessShopRedactArgs) (world : World Rest) : Label → Option (World Rest)
  | .start =>
    match world.phase with
    | .idle | .returned => some { world with phase := .found (findByShop args.shop world.db) }
    | _ => none
  | .audit id =>
    match world.phase with
    | .found none => (append (idempotentAudit args) id world.db).map fun db => ⟨db, .returned⟩
    | .found (some merchantId) =>
      (append (shopRedactAudit args merchantId) id world.db).map fun db =>
        ⟨db, .purging merchantId shopRedactTablesInOrder⟩
    | _ => none
  | .chunk ids =>
    match world.phase with
    | .purging merchantId (table :: tables) =>
      (chunkedDeleteTenant merchantId args.batchSize table ids world.db).map fun (db, more) =>
        ⟨db, .purging merchantId (if more then table :: tables else tables)⟩
    | _ => none
  | .sessions =>
    match world.phase with
    | .purging merchantId [] =>
      (deleteMany redactReason .session (shopWhere args.shop) world.db).toOption.map fun db => ⟨db, .deleting merchantId⟩
    | _ => none
  | .merchant =>
    match world.phase with
    | .deleting merchantId => (hardDelete merchantId world.db).map fun db => ⟨db, .returned⟩
    | _ => none
  | .crash => some { world with phase := .idle }

def machine (args : ProcessShopRedactArgs) : Machine (World Rest) Label := ⟨step args⟩

end WinBack.ShopRedact
