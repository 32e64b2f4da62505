import Mathlib.Data.List.Chain
import WinBack.Tenant.ReadIsolation
import WinBack.Tenant.WriteIsolation

/-! Programs over the client: reads and writes go through the hooks under the scope that is active, which `AsyncLocalStorage`
carries into nested calls and restores behind them. A program that opens no system scope stays with its tenant. -/

namespace WinBack.Tenant

open Library

section Scopes

/-- What is asked of `withTenantScope` and `withSystemScope`. -/
inductive Entry where
  | tenant (merchantId : String)
  | system (reason : String)
  deriving DecidableEq, Repr

end Scopes

section Programs

/-- What a call throws: the error of a hook or of a scope, or any other. -/
inductive Failure where
  | hook (error : HookError)
  | foreign

/-- A program as the tree of its calls. Every call is answered, and the answer decides how it goes on. -/
inductive Program (Row Value : Type) where
  | done (outcome : Except Failure Value)
  | read (model : Model) (operation : ReadOperation) (args : ReadArgs) (resume : Except Failure (List Row) → Program Row Value)
  | write (model : Model) (operation : WriteOperation) (args : WriteArgs) (resume : Except Failure (List Row) → Program Row Value)
  | under (entry : Entry) (body : Program Row Value) (resume : Except Failure Value → Program Row Value)
  | unitOfWork (body : String → Program Row Value) (resume : Except Failure Value → Program Row Value)

/-- `UnitOfWorkContext.publish`, in the unit of work of the merchant. -/
def Program.publish {Row Value : Type} (merchantId type : String) (payload : Json)
    (resume : Except Failure (List Row) → Program Row Value) : Program Row Value :=
  .write .outboxEvent .create
    { data := some (.one (((Object.set ∅ "merchantId" (.str merchantId)).set "type" (.str type)).set "payload" payload)) } resume

/-- A call that reached the engine: its arguments before and after the hooks. -/
inductive Query where
  | read (model : Model) (operation : ReadOperation) (args effective : ReadArgs)
  | write (model : Model) (operation : WriteOperation) (args effective : WriteArgs)

/-- With the scopes around it, the active one first. -/
structure Operation where
  scopes : List TenantScope
  query : Query

variable {Row Value : Type}

end Programs

section Isolation

variable {Row Value : Type} {engine : Engine Row} {merchantId : String} {scopes : List TenantScope}
  {program : Program Row Value} {operations : List Operation} {outcome : Except Failure Value}

/-- The hooks of the active scope passed the operation. -/
def Operation.Passed (operation : Operation) : Prop :=
  match operation.query with
  | .read model kind args effective =>
    applyReadHooks operation.scopes.head? model args kind.isFindUnique = .ok effective
  | .write model kind args effective => applyWriteHooks operation.scopes.head? model args kind = .ok effective

def Query.model : Query → Model
  | .read model _ _ _ | .write model _ _ _ => model

/-- What the engine selects or touches for the query is the tenant's. -/
def Query.Stays (engine : Engine Row) (merchantId : String) : Query → Prop
  | .read model operation _ effective => ∀ row,
    engine.selects operation.isFindUnique model (effective.where_.getD ∅) row = true → engine.owner model row = some merchantId
  | .write model operation _ effective => ∀ owner, engine.touches model operation effective owner → owner = some merchantId

/-- The arguments that the program gives keep the query with the tenant. -/
def Query.Keeps (engine : Engine Row) (merchantId : String) : Query → Prop
  | .read model operation args _ => model.tenanted = true →
    operation.isFindUnique = false ∨ NamesMerchant merchantId model (args.where_.getD ∅) ∨
      ∀ row, engine.owner model row ≠ some merchantId →
        engine.selects true model ((applySoftDeleteFilter model args).where_.getD ∅) row = false
  | .write model operation args _ => WriteSafe engine merchantId model operation args

end Isolation

end WinBack.Tenant
