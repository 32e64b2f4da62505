import WinBack.Customer.Scoring
import WinBack.Outbox.Repository

/-! What the handlers read from a payload. -/

namespace WinBack.Outbox

open Library

section StateChanged

def customerStateValues : List String := ["active", "warm", "at_risk", "dormant", "lost", "insufficient_data"]

def nonnegative : Json → Bool
  | .num value => decide (0 ≤ value)
  | _ => false

/-- `z.number().int().min(1).max(5).nullable()`. -/
def quintileSchema : Shape := .nullable ((Shape.int.check (fun
  | .num value => decide (1 ≤ value)
  | _ => false) "Too small: expected number to be >=1").check (fun
  | .num value => decide (value ≤ 5)
  | _ => false) "Too big: expected number to be <=5")

def rfmScoreSchema : Shape :=
  .object [
    ("rDays", Shape.int.check nonnegative "Too small: expected number to be >=0"),
    ("fCount", Shape.int.check nonnegative "Too small: expected number to be >=0"),
    ("mCents", (Shape.string).check (fun
      | .str text => text != "" && text.toList.all Char.isDigit
      | _ => false) "mCents must be a non-negative BigInt encoded as decimal digits"),
    ("rQuintile", quintileSchema),
    ("fQuintile", quintileSchema),
    ("mQuintile", quintileSchema)]

/-- `isDatetime` is zod's pattern for ISO date-times in UTC. -/
def customerStateChangedPayloadSchema (isDatetime : String → Bool) : Shape :=
  .object [
    ("merchantId", .string 1),
    ("customerId", .string 1),
    ("shopifyCustomerId", (Shape.string).check (fun
      | .str text => text.toList.take customerGidPrefix.length == customerGidPrefix.toList
      | _ => false) ("Invalid string: must start with " ++ quoted customerGidPrefix)),
    ("oldState", .oneOf customerStateValues),
    ("newState", .oneOf customerStateValues),
    ("computedAt", (Shape.string).check (fun
      | .str text => isDatetime text
      | _ => false) "Invalid ISO datetime"),
    ("rfmScore", rfmScoreSchema)] .strict

structure RfmScore where
  rDays : Int
  fCount : Int
  mCents : Int
  deriving DecidableEq, Repr

structure CustomerStateChangedPayload where
  merchantId : MerchantId
  customerId : CustomerId
  oldState : CustomerState
  newState : CustomerState
  rfmScore : RfmScore
  deriving DecidableEq, Repr

def textAt (key : String) (value : Json) : Option String :=
  match value.get? key with
  | some (.str text) => some text
  | _ => none

def intAt (key : String) (value : Json) : Option Int :=
  match value.get? key with
  | some (.num number) => if number.den = 1 then some number.num else none
  | _ => none

/-- `BigInt(digits)`. -/
def bigIntOfDigits (digits : String) : Int :=
  digits.toList.foldl (fun value digit => 10 * value + (digit.toNat - '0'.toNat : Nat)) 0

/-- The typed reading of a payload that passed. -/
def CustomerStateChangedPayload.ofJson? (value : Json) : Option CustomerStateChangedPayload := do
  let rfmScore ← value.get? "rfmScore"
  return {
    merchantId := ← textAt "merchantId" value
    customerId := ← textAt "customerId" value
    oldState := ← CustomerState.ofText? (← textAt "oldState" value)
    newState := ← CustomerState.ofText? (← textAt "newState" value)
    rfmScore := {
      rDays := ← intAt "rDays" rfmScore
      fCount := ← intAt "fCount" rfmScore
      mCents := bigIntOfDigits (← textAt "mCents" rfmScore) } }

/-- `customerStateChangedPayloadSchema.parse(row.payload)`. -/
def parseStateChanged (isDatetime : String → Bool) (payload : Json) : Except Thrown CustomerStateChangedPayload :=
  match customerStateChangedPayloadSchema isDatetime (some payload) with
  | .error issues => .error (.zod issues)
  | .ok output =>
    match output.bind CustomerStateChangedPayload.ofJson? with
    | none => .error (.zod [])
    | some payload => .ok payload

end StateChanged

section Gdpr

def numericOrString : Shape := .union [.number, .string]

def gdprCustomerNodeSchema : Shape :=
  .optional (.object [
    ("id", .optional numericOrString),
    ("email", .optional (.nullable .string)),
    ("phone", .optional (.nullable .string))])

def customerDataRequestPayloadSchema : Shape :=
  .object [
    ("shop_id", .optional numericOrString),
    ("shop_domain", .string 1),
    ("customer", gdprCustomerNodeSchema),
    ("orders_requested", .optional (.array numericOrString)),
    ("data_request", .optional (.object [("id", .optional numericOrString)]))]

def customerRedactPayloadSchema : Shape :=
  .object [
    ("shop_id", .optional numericOrString),
    ("shop_domain", .string 1),
    ("customer", gdprCustomerNodeSchema),
    ("orders_to_redact", .optional (.array numericOrString))]

def shopRedactPayloadSchema : Shape :=
  .object [
    ("shop_id", .optional numericOrString),
    ("shop_domain", .string 1)]

inductive GdprTopic where
  | customerDataRequest | customerRedact | shopRedact
  deriving DecidableEq, Repr

def GdprTopic.schema : GdprTopic → Shape
  | .customerDataRequest => customerDataRequestPayloadSchema
  | .customerRedact => customerRedactPayloadSchema
  | .shopRedact => shopRedactPayloadSchema

end Gdpr

end WinBack.Outbox
