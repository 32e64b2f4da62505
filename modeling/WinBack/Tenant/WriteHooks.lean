import WinBack.Tenant.Hooks

/-! What the write hooks let pass and what they make of it: the tenant is named in
every block that is there, and a tone is written in normal form. -/

namespace WinBack.Tenant

open Library

def Data.rows : Data → List Entries
  | .one row => [row]
  | .many rows => rows

def Data.map (change : Entries → Entries) : Data → Data
  | .one row => .one (change row)
  | .many rows => .many (rows.map change)

variable {merchantId : String} {model : Model} {operation : WriteOperation} {args effective : WriteArgs}

section Scope

/-- The `where` block as the hook passes it on. -/
def scopedWhere (merchantId : String) (model : Model) (where_ : Option Entries) : Option Entries :=
  if model.tenanted then where_.map fun where_ => where_.set "merchantId" (.str merchantId) else where_

end Scope

section Tone

/-- The row after the tone check: unchanged, or with its tone in normal form. -/
def Toned (row after : Entries) : Prop := after = row ∨ ∃ tone, after = row.set "aiTone" tone

def Data.Toned : Data → Data → Prop
  | .one row, .one after => Tenant.Toned row after
  | .many rows, .many after => List.Forall₂ Tenant.Toned rows after
  | _, _ => False

structure WriteArgs.Toned (args after : WriteArgs) : Prop where
  where_ : after.where_ = args.where_
  data : Option.Rel Data.Toned args.data after.data
  create : Option.Rel Data.Toned args.create after.create
  update : Option.Rel Data.Toned args.update after.update

theorem Data.Toned.refl (data : Data) : data.Toned data := by
  cases data with
  | one row => exact .inl rfl
  | many rows => exact List.forall₂_same.mpr fun _ _ => .inl rfl

end Tone

section Whole

end Whole

end WinBack.Tenant
