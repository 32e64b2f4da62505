import WinBack.Library.Relational
import WinBack.Tenant.Hooks
import WinBack.Schema

/-! The foreign keys between the models, the rows of all models in one store, and the
statements that the redaction of a shop issues through the hooks of the client. -/

namespace WinBack.ShopRedact

open Library Library.Relational Tenant

/-- The columns that refer to other rows. -/
inductive Reference where
  | merchantId | customerId | orderId | productId | productVariantId | aiGenerationId | campaignId | messageId
  deriving DecidableEq, Repr

def Reference.target : Reference → Model
  | .merchantId => .merchant
  | .customerId => .customer
  | .orderId => .order
  | .productId => .product
  | .productVariantId => .productVariant
  | .aiGenerationId => .aiGeneration
  | .campaignId => .campaign
  | .messageId => .message

/-- The `@relation(..., onDelete)` of each model. -/
def onDelete : Model → Reference → Option OnDelete
  | .merchant, _ | .session, _ => none
  | .webhookLog, .merchantId | .auditLog, .merchantId => some .setNull
  | _, .merchantId => some .cascade
  | .order, .customerId => some .setNull
  | .customerScore, .customerId | .aiGeneration, .customerId | .message, .customerId
  | .campaignTarget, .customerId | .suppression, .customerId => some .cascade
  | .orderLineItem, .orderId => some .cascade
  | .productVariant, .productId => some .cascade
  | .orderLineItem, .productId | .orderLineItem, .productVariantId => some .setNull
  | .message, .aiGenerationId => some .cascade
  | .message, .campaignId => some .setNull
  | .campaignTarget, .campaignId | .campaignTarget, .messageId | .messageEvent, .messageId => some .cascade
  | _, _ => none

/-- How many cascades may lead from a merchant to a row. -/
def rank : Model → Nat
  | .merchant | .session => 0
  | .campaignTarget | .messageEvent => 4
  | .message => 3
  | .customerScore | .aiGeneration | .suppression | .productVariant | .orderLineItem => 2
  | _ => 1

def schema : Schema Model Reference where
  columns := [.merchantId, .customerId, .orderId, .productId, .productVariantId, .aiGenerationId, .campaignId,
    .messageId]
  complete column := by cases column <;> decide
  target := Reference.target
  onDelete
  rank
  descends model column := by cases model <;> cases column <;> decide

/-- The columns of an audit row but its merchant and its shop. -/
structure AuditColumns where
  actorType : AuditActorType
  actorId : Option String
  action : String
  targetType : Option String
  targetId : Option String
  context : Json
  deriving DecidableEq, Repr

inductive Columns (Rest : Type) where
  | audit (entry : AuditColumns)
  | other (columns : Rest)
  deriving DecidableEq, Repr

/-- The columns that are not references. A model without a shop or without soft
deletion holds `none` there. -/
structure Cells (Rest : Type) where
  shop : Option String := none
  deletedAt : Option Date := none
  columns : Columns Rest
  deriving DecidableEq, Repr

inductive UniqueKey where
  | id (model : Model) (id : String)
  | shop (shop : String)
  deriving DecidableEq, Repr

variable {Rest : Type}

/-- An idempotency key is unique within its merchant only. -/
def uniqueKeys : Model → String → Cells Rest → List UniqueKey
  | .idempotencyKey, _, _ => []
  | .merchant, id, cells => .id .merchant id :: cells.shop.toList.map .shop
  | model, id, _ => [.id model id]

theorem id_of_uniqueKeys {model other : Model} {id held : String} {cells : Cells Rest}
    (key : .id other id ∈ uniqueKeys model held cells) : held = id := by
  cases model <;> simp_all [uniqueKeys]

theorem shop_uniqueKeys {id shop : String} {cells : Cells Rest} (held : cells.shop = some shop) :
    .shop shop ∈ uniqueKeys .merchant id cells := by
  simp [uniqueKeys, held]

abbrev ShopRow (Rest : Type) := Row Model Reference (Cells Rest)

abbrev Database (Rest : Type) := Store schema (@uniqueKeys Rest)

/-- The row of a merchant or a row that belongs to one. -/
def ofMerchant (merchantId : String) (row : ShopRow Rest) : Bool :=
  row.model == .merchant && row.id == merchantId ||
    row.model.tenanted && row.links .merchantId == some merchantId

/-- The session rows of a shop. -/
def ofShop (shop : String) (row : ShopRow Rest) : Bool := row.model == .session && row.cells.shop == some shop

section Statements

/-- One entry of a `where` block. The key of an idempotency row stands in its `id`. -/
def accepts (row : ShopRow Rest) : String × Option Json → Bool
  | (_, none) => true
  | ("merchantId", some (.str id)) => row.links .merchantId == some id
  | ("deletedAt", some .null) => row.cells.deletedAt == none
  | ("shop", some (.str shop)) => row.cells.shop == some shop
  | ("id", some (.obj [("in", .arr ids)])) | ("key", some (.obj [("in", .arr ids)])) => ids.contains (.str row.id)
  | _ => false

def meets (model : Model) (where_ : Option Entries) (row : ShopRow Rest) : Bool :=
  row.model == model && (where_.getD ∅).entries.all (accepts row)

def findMany (scope : TenantScope) (model : Model) (where_ : Entries) (db : Database Rest) :
    Except HookError (List (ShopRow Rest)) :=
  (applyReadHooks (some scope) model { where_ := some where_ }).map fun args =>
    db.rows.filter (meets model args.where_)

def deleteMany (scope : TenantScope) (model : Model) (where_ : Entries) (db : Database Rest) :
    Except HookError (Database Rest) :=
  (applyWriteHooks (some scope) model { where_ := some where_ } .deleteMany).map fun args =>
    db.delete (meets model args.where_)

/-- `where: { merchantId }`. -/
def tenantWhere (merchantId : String) : Entries := ⟨[("merchantId", some (.str merchantId))], by simp⟩

/-- `where: { merchantId, [column]: { in: ids } }`. -/
def batchWhere (merchantId column : String) (ids : List String) : Entries :=
  (tenantWhere merchantId).set column (.obj [("in", .arr (ids.map .str))])

/-- The rows of the tenant that the read hooks show. -/
def visible (merchantId : String) (model : Model) (row : ShopRow Rest) : Bool :=
  row.model == model && row.links .merchantId == some merchantId &&
    (!softDeleteModels.contains model || row.cells.deletedAt == none)

variable {merchantId column : String} {ids : List String} {model : Model} {db : Database Rest}

theorem tenanted_of_tenantScoped (owned : model ∈ tenantScopedModels) :
    unscopedModels.contains model = false ∧ model ≠ .merchant ∧ model.tenanted = true := by
  cases model <;> first | decide | (revert owned; decide)

theorem tenantWhere_get : (tenantWhere merchantId).get "merchantId" = some (.str merchantId) := by
  simp [tenantWhere, Object.get]

theorem entries_batchWhere (apart : column ≠ "merchantId") :
    (batchWhere merchantId column ids).entries =
      [("merchantId", some (.str merchantId)), (column, some (.obj [("in", .arr (ids.map .str))]))] := by
  simp [batchWhere, tenantWhere, Object.set, Object.has, Ne.symm apart]

theorem batchWhere_get (apart : column ≠ "merchantId") :
    (batchWhere merchantId column ids).get "merchantId" = some (.str merchantId) := by
  simp [Object.get, entries_batchWhere apart]

/-- A read that names the active tenant passes; soft-deleted rows are hidden from it. -/
theorem findMany_tenant (owned : model ∈ tenantScopedModels) :
    findMany (.tenant merchantId) model (tenantWhere merchantId) db =
      .ok (db.rows.filter (visible merchantId model)) := by
  obtain ⟨known, root, tenanted⟩ := tenanted_of_tenantScoped owned
  have passes : enforceTenantScopeOnRead (some (.tenant merchantId)) model
      { where_ := some (tenantWhere merchantId) } false = .ok { where_ := some (tenantWhere merchantId) } := by
    simp [enforceTenantScopeOnRead, root, tenanted, tenantWhere_get]
  have hides : applySoftDeleteFilter model { where_ := some (tenantWhere merchantId) } =
      { where_ := some (if model ∈ softDeleteModels then (tenantWhere merchantId).set "deletedAt" .null
        else tenantWhere merchantId) } := by
    by_cases soft : model ∈ softDeleteModels
    · simp [applySoftDeleteFilter, soft, tenantWhere, Object.has]
    · simp [applySoftDeleteFilter, soft]
  rw [findMany, applyReadHooks, if_neg (by rw [known]; exact Bool.false_ne_true), passes]
  simp only [Except.map, hides]
  congr 2
  funext row
  by_cases soft : model ∈ softDeleteModels
  · simp [meets, visible, soft, tenantWhere, Object.set, Object.has, accepts, Bool.and_assoc]
  · simp [meets, visible, soft, tenantWhere, accepts]

/-- A deletion that names the active tenant reaches the rows of the tenant, soft-deleted or not. -/
theorem deleteMany_owned {where_ : Entries} (owned : model ∈ tenantScopedModels)
    (named : where_.get "merchantId" = some (.str merchantId)) :
    deleteMany (.tenant merchantId) model where_ db = .ok (db.delete (meets model (some where_))) := by
  obtain ⟨known, root, tenanted⟩ := tenanted_of_tenantScoped owned
  have own : ownerField merchantId (where_.get "merchantId") = .own := ownerField_passes.2.mpr named
  have passes : enforceTenantScopeOnWrite (some (.tenant merchantId)) model { where_ := some where_ }
      WriteOperation.deleteMany.name = .ok { where_ := some where_ } := by
    simp [enforceTenantScopeOnWrite, root, tenanted, injectBlock, own, bind, Except.bind, pure, Except.pure]
  have valid : validateModelSpecific model { where_ := some where_ } = .ok { where_ := some where_ } := by
    by_cases settings : model = .merchantSettings
    · simp [validateModelSpecific, settings, validateAiToneInWriteBlock, bind, Except.bind, pure, Except.pure]
    · simp [validateModelSpecific, settings]
  rw [deleteMany, applyWriteHooks, if_neg (by rw [known]; exact Bool.false_ne_true), passes]
  simp only [Except.bind, valid, Except.map]

/-- The rows of a tenant in one model. -/
def inTable (merchantId : String) (model : Model) (row : ShopRow Rest) : Bool :=
  row.model == model && row.links .merchantId == some merchantId

theorem meets_tenantWhere : @meets Rest model (some (tenantWhere merchantId)) = inTable merchantId model := by
  funext row
  simp [meets, inTable, tenantWhere, accepts]

theorem meets_batchWhere (named : column = "id" ∨ column = "key") :
    @meets Rest model (some (batchWhere merchantId column ids)) = fun row =>
      inTable merchantId model row && ids.contains row.id := by
  funext row
  have apart : column ≠ "merchantId" := by
    rcases named with rfl | rfl <;> decide
  rcases named with rfl | rfl
  all_goals simp [meets, inTable, entries_batchWhere apart, accepts, Bool.and_assoc]

end Statements

end WinBack.ShopRedact
