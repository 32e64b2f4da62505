import WinBack.Tenant.Hooks

/-! The query engine that receives the arguments after the hooks. It is outside this
repository: what is used of it is stated as `Documented`, and `equality` is a small
engine over rows of text columns that satisfies it. -/

namespace WinBack.Tenant

open Library

structure Engine (Row : Type) where
  /-- The tenant column of a row. -/
  owner : Model → Row → Option String
  /-- Whether a row meets one entry of a `where` block. -/
  accepts : Model → String → Option Json → Row → Bool
  /-- The owners of the rows that the relation writes of a data block touch. -/
  relations : Model → Entries → List (Option String)

namespace Engine

variable {Row : Type} (engine : Engine Row)

/-- The entries of a `where` block are a conjunction. -/
def meets (model : Model) (where_ : Entries) (row : Row) : Bool :=
  where_.entries.all fun entry => engine.accepts model entry.1 entry.2 row

/-- A lookup of a single row without any unique key is refused. -/
def selects (unique : Bool) (model : Model) (where_ : Entries) (row : Row) : Bool :=
  (!unique || model.keyed where_) && engine.meets model where_ row

/-- Documented behaviour: `undefined` is no condition, a scalar on the tenant column
is equality, a compound key is a conjunction of equalities, relation writes sit under
relation fields, and rows of other tenants exist. -/
structure Documented : Prop where
  undefined : ∀ model key row, engine.accepts model key none row = true
  scalar : ∀ model id row,
    engine.accepts model model.ownerKey (some (.str id)) row = true ↔ engine.owner model row = some id
  compound : ∀ model key parts id row, key ∈ model.compoundKeys →
    (Json.obj parts).get? "merchantId" = some (.str id) →
    engine.accepts model key (some (.obj parts)) row = true → engine.owner model row = some id
  relations : ∀ model record key value, key = "merchantId" ∨ key = "aiTone" →
    engine.relations model (Object.set record key value) = engine.relations model record
  others : ∀ model id, ∃ row, engine.owner model row ≠ some id

variable {engine} {model : Model} {where_ : Entries} {row : Row} {id : String}

theorem owner_of_meets (documented : engine.Documented) (matched : engine.meets model where_ row = true)
    (named : where_.get model.ownerKey = some (.str id)) : engine.owner model row = some id :=
  (documented.scalar model id row).mp (List.all_eq_true.mp matched _ (Object.mem_of_get named))

end Engine

/-- Rows of text columns under equality. -/
def equality : Engine (List (String × String)) where
  owner model row := row.lookup model.ownerKey
  accepts model key content row :=
    match content with
    | none => true
    | some (.str value) => row.lookup key == some value
    | some .null => row.lookup key == none
    | some (.obj parts) => model.compoundKeys.contains key && parts.all fun (column, value) =>
        match value with
        | .str value => row.lookup column == some value
        | _ => false
    | some _ => false
  relations _ _ := []

theorem equality_documented : equality.Documented where
  undefined _ _ _ := rfl
  scalar model id row := by simp [equality]
  compound model key parts id row member named accepted := by
    have all : ∀ part ∈ parts, (match part.2 with
        | .str value => row.lookup part.1 == some value
        | _ => false) = true := by
      simp only [equality, Bool.and_eq_true, List.all_eq_true] at accepted
      exact accepted.2
    obtain ⟨part, found, held⟩ := Option.map_eq_some_iff.mp named
    have column : part.1 = "merchantId" := by simpa using List.find?_some found
    have equal := all part (List.mem_of_find?_eq_some found)
    rw [held] at equal
    have tenanted : model.ownerKey = "merchantId" := by
      cases model <;> first | rfl | simp [Model.compoundKeys] at member
    simpa [equality, tenanted, column] using equal
  relations _ _ _ _ _ := rfl
  others model id := ⟨[], by simp [equality]⟩

end WinBack.Tenant
