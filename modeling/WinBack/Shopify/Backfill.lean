import WinBack.Customer.Ingestion
import WinBack.Outbox.Handlers
import WinBack.Shopify.Install
import WinBack.Shopify.Runner

/-! The handler of an install: the shop's details, and then the backfill of its customers. -/

namespace WinBack.Backfill

open Library
open Runner (Cursor FinalStatus Thrown)

structure ShopDetails where
  name : Option String := none
  country : Option String := none
  currency : Option String := none
  timezone : Option String := none
  plan : Option String := none
  deriving DecidableEq, Repr

/-- One atomic call: the enrichment, or one of the runner. -/
inductive Call where
  | enrichInstall (merchantId : MerchantId)
  | runner (request : Runner.Call ShopifyCustomerNode)

/-- `enrichInstall` says whether it succeeded. -/
@[reducible] def Call.Value : Call → Type
  | .enrichInstall _ => Bool
  | .runner request => request.Value

abbrev Program := Script Call Call.Value Thrown

abbrev Page := Runner.ResourcePage ShopifyCustomerNode

/-- `CustomerPageFetcher.fetch`, of a response that may lack the connection. -/
def fetched : Option Page → Page
  | none => ⟨[], none, false⟩
  | some page => page

/-- `CustomerPageProcessor`: the seed has the new ids and the clock. -/
def customerPageProcessor : Runner.PageProcessor ShopifyCustomerNode Db ((Nat → CustomerId) × Date) :=
  fun merchantId seed items db => CustomerRepository.processItems merchantId seed.2
    (items.zipIdx.map fun (item, index) => (item, seed.1 index)) db

def boolean : Shape
  | some (.bool value) => .ok (some (.bool value))
  | input => Shape.invalidType "boolean" input

def merchantInstalledPayloadSchema : Shape :=
  .object [
    ("shop", .string 1),
    ("scope", .string),
    ("reinstall", boolean)]

def customerBackfillResource : String := "customers"

/-- The runner with the customers' fetcher and processor. -/
def run (merchantId : MerchantId) (resource : String) (pageSize : Nat := 50) : Program Runner.BackfillRunResult :=
  (Runner.run ShopifyCustomerNode merchantId resource pageSize).within Call.runner

/-- The answer is the status that the handler logs. A failed enrichment is only logged. -/
def handleMerchantInstalled (context : Outbox.DrainerContext) (row : OutboxEvent) : Program FinalStatus := do
  match merchantInstalledPayloadSchema (some row.payload) with
  | .error issues => throw (.other (context.zodMessage issues))
  | .ok _ => do
    let _ ← Script.perform (.enrichInstall row.merchantId)
    let backfillResult ← run row.merchantId customerBackfillResource
    return backfillResult.finalStatus

end WinBack.Backfill
