import WinBack.Tenant.Models
import WinBack.Tenant.AiTone
import WinBack.Library.Fallible

/-! The hooks of the client extension. They look at the top level of the arguments
only: conditions under `AND`, `OR` or a compound key, and relation writes inside
data blocks, pass through unread. -/

namespace WinBack.Tenant

open Library

abbrev Entries := Object Json

/-- The block names one of the model's unique keys. -/
def Model.keyed (model : Model) (where_ : Entries) : Bool :=
  model.uniqueKeys.any fun key => (where_.get key).isSome

structure ReadArgs where
  where_ : Option Entries := none
  rest : Entries := ∅       -- `select`, `include`, `orderBy`, `cursor`, `take`, …

inductive Data where
  | one (row : Entries)
  | many (rows : List Entries)

structure WriteArgs where
  where_ : Option Entries := none
  data : Option Data := none
  create : Option Data := none
  update : Option Data := none

inductive HookError where
  | tenantScope (message : String) (context : List (String × String))
  | validation (message code : String) (fields : List (String × String))

mutual

/-- `String(value)`; only integers are printed as JavaScript prints them. -/
def jsString : Json → String
  | .null => "null"
  | .bool value => if value then "true" else "false"
  | .num value => if value.den = 1 then toString value.num else s!"{value.num}/{value.den}"
  | .str value => value
  | .arr items => ",".intercalate (jsStrings items)
  | .obj _ => "[object Object]"

def jsStrings : List Json → List String
  | [] => []
  | .null :: rest => "" :: jsStrings rest
  | item :: rest => jsString item :: jsStrings rest

end

/-- `row.key` of a block, when the block is a row; an array has no such property. -/
def Data.get (data : Data) (key : String) : Option Json :=
  match data with
  | .one row => Object.get row key
  | .many _ => none

section Reads

def enforceTenantScopeOnRead (scope : Option TenantScope) (model : Model) (args : ReadArgs)
    (isFindUnique : Bool) : Except HookError ReadArgs :=
  match scope with
  | none => .error (.tenantScope
      (s!"Read on {model.name} attempted with no active scope. " ++
        "Wrap in withTenantScope(merchantId, fn) or withSystemScope(reason, fn).")
      [("model", model.name), ("operation", "read")])
  | some (.system _) => .ok args
  | some (.tenant merchantId) =>
    if model = .merchant then
      match args.where_.bind fun where_ => where_.get "id" with
      | none => .error (.tenantScope
          (s!"Unscoped Merchant read in tenant scope ({merchantId}). " ++
            "Use withSystemScope for cross-tenant Merchant reads.")
          [("model", model.name), ("scope", merchantId)])
      | some (.str id) =>
        if id = merchantId then .ok args
        else .error (.tenantScope s!"Cross-tenant Merchant read: scope={merchantId}, requested={id}"
          [("model", model.name)])
      | some id => .error (.tenantScope
          s!"Cross-tenant Merchant read: scope={merchantId}, requested={jsString id}"
          [("model", model.name)])
    else if !model.tenanted then .ok args
    -- the lookup keeps the caller's key, whatever it is
    else if isFindUnique then .ok args
    else
      let where_ := args.where_.getD ∅
      match where_.get "merchantId" with
      | none => .ok { args with where_ := some (where_.set "merchantId" (.str merchantId)) }
      | some (.str existing) =>
        if existing = merchantId then .ok args
        else .error (.tenantScope
          s!"Tenant scope mismatch on {model.name}: scope={merchantId}, where.merchantId={existing}"
          [("model", model.name)])
      | some existing => .error (.tenantScope
          s!"Tenant scope mismatch on {model.name}: scope={merchantId}, where.merchantId={jsString existing}"
          [("model", model.name)])

def applySoftDeleteFilter (model : Model) (args : ReadArgs) : ReadArgs :=
  if !softDeleteModels.contains model then args
  else
    let where_ := args.where_.getD ∅
    if where_.has "deletedAt" then args
    else { args with where_ := some (where_.set "deletedAt" .null) }

def applyReadHooks (scope : Option TenantScope) (model : Model) (args : ReadArgs)
    (findUnique : Bool := false) : Except HookError ReadArgs :=
  if unscopedModels.contains model then .ok args
  else (enforceTenantScopeOnRead scope model args findUnique).map (applySoftDeleteFilter model)

end Reads

section Writes

/-- The check on one tenant column: absent, the active tenant's, or somebody else's. -/
inductive OwnerField where
  | absent | own | foreign (shown : String)

def ownerField (merchantId : String) : Option Json → OwnerField
  | none => .absent
  | some (.str existing) => if existing = merchantId then .own else .foreign existing
  | some existing => .foreign (jsString existing)

/-- Only an absent or the tenant's own value passes the check. -/
theorem ownerField_passes {merchantId : String} {value : Option Json} :
    (ownerField merchantId value = .absent ↔ value = none) ∧
      (ownerField merchantId value = .own ↔ value = some (.str merchantId)) := by
  cases value with
  | none => simp [ownerField]
  | some value =>
    cases value with
    | str existing =>
      by_cases same : existing = merchantId <;> simp [ownerField, same]
    | _ => simp [ownerField]

def injectIntoRow (model : Model) (row : Entries) (merchantId : String) : Except HookError Entries :=
  match ownerField merchantId (row.get "merchantId") with
  | .absent => .ok (row.set "merchantId" (.str merchantId))
  | .own => .ok row
  | .foreign shown => .error (.tenantScope
      (s!"Write data on {model.name} carries cross-tenant merchantId: " ++
        s!"scope={merchantId}, data.merchantId={shown}")
      [("model", model.name)])

def injectMerchantIdIntoData (model : Model) (data : Data) (merchantId : String) :
    Except HookError Data :=
  match data with
  | .many rows => (rows.mapM fun row => injectIntoRow model row merchantId).map .many
  | .one row => (injectIntoRow model row merchantId).map .one

/-- `{ ...args, block: inject(args.block) }` where the block is present. -/
def injectBlock (model : Model) (block : Option Data) (merchantId : String) :
    Except HookError (Option Data) :=
  match block with
  | none => .ok none
  | some data => (injectMerchantIdIntoData model data merchantId).map some

/-- `where?.id ?? data?.id`: null falls through to the data block as well. -/
def targetId (args : WriteArgs) : Option Json :=
  match args.where_.bind fun where_ => where_.get "id" with
  | none | some .null => args.data.bind fun data => data.get "id"
  | named => named

def enforceTenantScopeOnWrite (scope : Option TenantScope) (model : Model) (args : WriteArgs)
    (operation : String) : Except HookError WriteArgs :=
  match scope with
  | none => .error (.tenantScope s!"Write on {model.name} ({operation}) attempted with no active scope."
      [("model", model.name), ("operation", operation)])
  | some (.system _) => .ok args
  | some (.tenant merchantId) =>
    if model = .merchant then
      match ownerField merchantId (targetId args) with
      | .absent | .own => .ok args
      | .foreign shown => .error (.tenantScope
          s!"Cross-tenant Merchant write: scope={merchantId}, target={shown}"
          [("model", model.name), ("operation", operation)])
    else if !model.tenanted then .ok args
    else do
      let data ← injectBlock model args.data merchantId
      let create ← injectBlock model args.create merchantId
      match args.update.map fun update => ownerField merchantId (update.get "merchantId") with
      | some (.foreign _) => throw (.tenantScope
          s!"Upsert update block carries cross-tenant merchantId on {model.name}"
          [("model", model.name), ("operation", operation)])
      | _ =>
        match args.where_ with
        | none => return { args with data, create }
        | some where_ =>
          match ownerField merchantId (where_.get "merchantId") with
          | .absent => return { args with
              data, create, where_ := some (where_.set "merchantId" (.str merchantId)) }
          | .own => return { args with data, create }
          | .foreign shown => throw (.tenantScope
              (s!"Tenant scope mismatch on {model.name} ({operation}): " ++
                s!"scope={merchantId}, where.merchantId={shown}")
              [("model", model.name), ("operation", operation)])

/-- A valid tone is replaced by its normal form; `null` clears the column. -/
def validateAiToneInRow (row : Entries) : Except HookError Entries :=
  if !row.has "aiTone" then .ok row
  else
    match row.get "aiTone" with
    | some .null => .ok row
    | value =>
      match aiToneSchema value with
      | .ok (some tone) => .ok (row.set "aiTone" tone)
      | .ok none => .ok row
      | .error issues => .error (.validation "Invalid aiTone configuration"
          "merchant_settings.ai_tone_invalid"
          (issues.map fun issue => (".".intercalate issue.path, issue.code.message)))

def validateAiToneInWriteBlock : Option Data → Except HookError (Option Data)
  | none => .ok none
  | some (.many rows) => (rows.mapM validateAiToneInRow).map fun rows => some (.many rows)
  | some (.one row) => (validateAiToneInRow row).map fun row => some (.one row)

def validateModelSpecific (model : Model) (args : WriteArgs) : Except HookError WriteArgs :=
  if model ≠ .merchantSettings then .ok args
  else do
    let data ← validateAiToneInWriteBlock args.data
    let create ← validateAiToneInWriteBlock args.create
    let update ← validateAiToneInWriteBlock args.update
    return { args with data, create, update }

def applyWriteHooks (scope : Option TenantScope) (model : Model) (args : WriteArgs)
    (operation : WriteOperation) : Except HookError WriteArgs :=
  if unscopedModels.contains model then .ok args
  else (enforceTenantScopeOnWrite scope model args operation.name).bind (validateModelSpecific model)

end Writes

/-- The extension's wiring: only the two `findUnique` operations set the flag. -/
def ReadOperation.isFindUnique : ReadOperation → Bool
  | .findUnique | .findUniqueOrThrow => true
  | _ => false

end WinBack.Tenant
