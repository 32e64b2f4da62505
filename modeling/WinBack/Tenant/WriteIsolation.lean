import WinBack.Tenant.WriteHooks
import WinBack.Tenant.Engine

/-! Writes under a tenant scope. The hook adds the tenant to the blocks it finds: a
bulk write without a `where` block is left unfiltered, the Merchant branch lets pass
whatever names no id, and relation writes inside a data block are not looked at. -/

namespace WinBack.Tenant

open Library

/-- A block that is a row, not an array of rows. -/
def Data.single : Data → Bool
  | .one _ => true
  | .many _ => false

/-- The blocks that an operation takes; any other combination is refused by the engine. -/
def WriteOperation.admits (operation : WriteOperation) (args : WriteArgs) : Bool :=
  match operation with
  | .create => args.where_.isNone && args.data.any Data.single && args.create.isNone && args.update.isNone
  | .createMany => args.where_.isNone && args.data.isSome && args.create.isNone && args.update.isNone
  | .update => args.where_.isSome && args.data.any Data.single && args.create.isNone && args.update.isNone
  | .updateMany => args.data.any Data.single && args.create.isNone && args.update.isNone
  | .upsert => args.where_.isSome && args.data.isNone && args.create.any Data.single && args.update.any Data.single
  | .delete => args.where_.isSome && args.data.isNone && args.create.isNone && args.update.isNone
  | .deleteMany => args.data.isNone && args.create.isNone && args.update.isNone

/-- The owner of a new row; `none` stands for a generated id or a null column. -/
def createdOwner (model : Model) (record : Entries) : Option String :=
  match record.get model.ownerKey with
  | some (.str id) => some id
  | _ => none

/-- The owner of a row after an update, which may write `value` or `{ set: value }`. -/
def updatedOwner (model : Model) (record : Entries) (current : Option String) : Option String :=
  match record.get model.ownerKey with
  | some (.str id) => some id
  | some (.obj parts) =>
    match (Json.obj parts).get? "set" with
    | some (.str id) => some id
    | _ => current
  | _ => current

section Touches

variable {Row : Type} (engine : Engine Row)

def Engine.created (model : Model) (record : Entries) : List (Option String) :=
  createdOwner model record :: engine.relations model record

/-- Only an update of a single row takes relation writes. -/
def Engine.updated (unique : Bool) (model : Model) (record : Entries) (row : Row) : List (Option String) :=
  engine.owner model row :: updatedOwner model record (engine.owner model row) ::
    if unique then engine.relations model record else []

/-- The operation may create, change or delete a row of the owner. -/
def Engine.touches (model : Model) (operation : WriteOperation) (args : WriteArgs)
    (owner : Option String) : Prop :=
  let creates (block : Option Data) := ∃ record, block = some (.one record) ∧
    owner ∈ engine.created model record
  let updates (unique : Bool) (block : Option Data) := ∃ record, block = some (.one record) ∧ ∃ row,
    engine.selects unique model (args.where_.getD ∅) row = true ∧ owner ∈ engine.updated unique model record row
  let deletes (unique : Bool) := ∃ row, engine.selects unique model (args.where_.getD ∅) row = true ∧
    owner = engine.owner model row
  operation.admits args = true ∧
    match operation with
    | .create => creates args.data
    | .createMany => ∃ data, args.data = some data ∧ ∃ record ∈ data.rows, owner = createdOwner model record
    | .update => updates true args.data
    | .updateMany => updates false args.data
    | .upsert => updates true args.update ∨
        model.keyed (args.where_.getD ∅) = true ∧ creates args.create
    | .delete => deletes true
    | .deleteMany => deletes false

section Condition

variable (merchantId : String) (model : Model)

/-- The rows that a write selects are the tenant's: a tenanted model has a `where`
block at all, and for Merchant no other row meets it. -/
def RowsOwn (unique : Bool) (where_ : Option Entries) : Prop :=
  if model.tenanted then where_ ≠ none
  else ∀ row, engine.owner model row ≠ some merchantId →
    engine.selects unique model (where_.getD ∅) row = false

def CreatesOwn (record : Entries) : Prop :=
  model.tenanted = true ∨ createdOwner model record = some merchantId

/-- The update gives the tenant's row to nobody else. -/
def KeepsOwner (record : Entries) : Prop :=
  model.tenanted = true ∨ updatedOwner model record (some merchantId) = some merchantId

def RelationsOwn (record : Entries) : Prop :=
  ∀ owner ∈ engine.relations model record, owner = some merchantId

/-- Some row meets the block that the hook passes on. -/
def Selected (unique : Bool) (where_ : Option Entries) : Prop :=
  ∃ row, engine.selects unique model ((scopedWhere merchantId model where_).getD ∅) row = true

/-- An update of the selected rows stays with the tenant. -/
def UpdatesOwn (unique : Bool) (where_ : Option Entries) (block : Option Data) : Prop :=
  RowsOwn engine merchantId model unique where_ ∧
    (Selected engine merchantId model unique where_ → ∀ record, block = some (.one record) →
      KeepsOwner merchantId model record ∧ (unique = true → RelationsOwn engine merchantId model record))

/-- The condition on the caller's arguments under which a write stays with the tenant. -/
def WriteSafe (operation : WriteOperation) (args : WriteArgs) : Prop :=
  operation.admits args = true →
    match operation with
    | .create => ∀ record, args.data = some (.one record) →
        CreatesOwn merchantId model record ∧ RelationsOwn engine merchantId model record
    | .createMany => ∀ data, args.data = some data → ∀ record ∈ data.rows,
        CreatesOwn merchantId model record
    | .update => UpdatesOwn engine merchantId model true args.where_ args.data
    | .updateMany => UpdatesOwn engine merchantId model false args.where_ args.data
    | .upsert => UpdatesOwn engine merchantId model true args.where_ args.update ∧
        (model.keyed ((scopedWhere merchantId model args.where_).getD ∅) = true →
          ∀ record, args.create = some (.one record) →
          CreatesOwn merchantId model record ∧ RelationsOwn engine merchantId model record)
    | .delete => RowsOwn engine merchantId model true args.where_
    | .deleteMany => RowsOwn engine merchantId model false args.where_

end Condition

end Touches

section Toned

variable {Row : Type} {engine : Engine Row} {model : Model} {record after : Entries}

theorem ownerKey_ne_aiTone (model : Model) : model.ownerKey ≠ "aiTone" := by
  cases model <;> decide

theorem Toned.get (toned : Toned record after) : after.get model.ownerKey = record.get model.ownerKey := by
  rcases toned with rfl | ⟨tone, rfl⟩
  · rfl
  · exact Object.get_set_of_ne (ownerKey_ne_aiTone model)

theorem Toned.relations (documented : engine.Documented) (toned : Toned record after) :
    engine.relations model after = engine.relations model record := by
  rcases toned with rfl | ⟨tone, rfl⟩
  · rfl
  · exact documented.relations _ _ _ _ (.inr rfl)

theorem Toned.createdOwner (toned : Toned record after) :
    Tenant.createdOwner model after = Tenant.createdOwner model record := by
  simp only [Tenant.createdOwner, toned.get]

theorem Toned.updatedOwner (toned : Toned record after) (current : Option String) :
    Tenant.updatedOwner model after current = Tenant.updatedOwner model record current := by
  simp only [Tenant.updatedOwner, toned.get]

theorem Toned.created (documented : engine.Documented) (toned : Toned record after) :
    engine.created model after = engine.created model record := by
  simp only [Engine.created, toned.createdOwner, toned.relations documented]

theorem Toned.updated (documented : engine.Documented) (toned : Toned record after) (unique : Bool) (row : Row) :
    engine.updated unique model after row = engine.updated unique model record row := by
  simp only [Engine.updated, toned.updatedOwner, toned.relations documented]

end Toned

section Owners

variable {Row : Type} {engine : Engine Row} {merchantId : String} {model : Model} {record : Entries}

end Owners

section Isolation

variable {Row : Type} {engine : Engine Row} {merchantId : String} {model : Model}
  {operation : WriteOperation} {args : WriteArgs}

end Isolation

end WinBack.Tenant
