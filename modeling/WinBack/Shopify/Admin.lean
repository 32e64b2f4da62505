import WinBack.Generation.Worker

/-! The Admin API client and the creation of a winback discount, as programs over single requests.
What the cost tracker and the backoff wait for changes no answer and is left out. -/

namespace WinBack.Shopify

open Library Generation

inductive Thrown where
  | network
  | tokenRevoked (message : String)
  | rateLimit (message : String)
  | adminApi (message : String)
  deriving DecidableEq, Repr

structure DiscountCodeBasicInput where
  title : String
  code : String
  startsAt : Date
  endsAt : Date
  customers : List String
  percentage : Rat
  appliesOncePerCustomer : Bool
  deriving DecidableEq, Repr

structure UserError where
  field : Option (List String) := none
  code : Option String := none
  message : Option String := none
  deriving DecidableEq, Repr

/-- `discountCodeBasicCreate` with the id of its node. -/
structure CreatePayload where
  codeDiscountNode : Option String := none
  userErrors : List UserError := []
  deriving DecidableEq, Repr

inductive Query where
  | discountCodeBasicCreate (input : DiscountCodeBasicInput)
  | codeDiscountNodeByCode (code : String)
  deriving DecidableEq, Repr

@[reducible] def Query.Data : Query → Type
  | .discountCodeBasicCreate _ => Option CreatePayload
  | .codeDiscountNodeByCode _ => Option String

/-- The code that a request is about. -/
def Query.code : Query → String
  | .discountCodeBasicCreate input => input.code
  | .codeDiscountNodeByCode code => code

structure GraphQLError where
  message : String
  code : Option String := none    -- of its extensions
  deriving DecidableEq, Repr

structure GraphQLResponse (Data : Type) where
  data : Option Data := none
  errors : List GraphQLError := []

/-- `json` is `none` where the body does not parse. -/
structure Response (Data : Type) where
  status : Nat
  json : Option (GraphQLResponse Data) := none

def Response.ok {Data : Type} (response : Response Data) : Bool := 200 ≤ response.status && response.status ≤ 299

structure OfflineToken where
  shop : String
  accessToken : String
  deriving DecidableEq, Repr

inductive Call where
  | getOfflineToken (merchantId : MerchantId)
  | markTokenRevoked (merchantId : MerchantId)
  | clock
  | fetch (token : OfflineToken) (query : Query)
  | report (args : CreateWinbackDiscountArgs) (result : CreateWinbackDiscountResult)    -- what a caller gets back

@[reducible] def Call.Value : Call → Type
  | .getOfflineToken _ => Option OfflineToken
  | .markTokenRevoked _ | .report _ _ => Unit
  | .clock => Date
  | .fetch _ query => Response query.Data

abbrev Program := Script Call Call.Value Thrown

def perform (request : Call) : Program request.Value := Script.perform request

section Client

variable (merchantId : MerchantId) (token : OfflineToken) (query : Query)

def throttledCode : String := "THROTTLED"

/-- Go round the loop again, or throw on the last attempt. -/
def retry (again : Option (Program query.Data)) (error : Thrown) : Program query.Data := again.getD (throw error)

/-- What the client makes of a 2xx response. -/
def parsed (again : Option (Program query.Data)) (response : Response query.Data) : Program query.Data :=
  match response.json with
  | none => throw (.adminApi "Admin API response not valid JSON")
  | some json =>
    if json.errors ≠ [] then
      if json.errors.any (·.code == some throttledCode) then retry query again (.rateLimit "Shopify GraphQL THROTTLED")
      else throw (.adminApi ("GraphQL errors: " ++ "; ".intercalate (json.errors.map (·.message))))
    else
      match json.data with
      | none => throw (.adminApi "GraphQL response missing data field")
      | some data => return data

/-- One round of the loop. -/
def attempt (maxRetries : Nat) (again : Option (Program query.Data)) : Program query.Data := do
  let response ← tryCatch
    (do
      let response ← perform (.fetch token query)
      return some response)
    fun _ => return none
  match response with
  | none => retry query again (.adminApi ("Network error after " ++ toString maxRetries ++ " retries"))
  | some response =>
    if response.status = 401 then
      perform (.markTokenRevoked merchantId)
      throw (.tokenRevoked ("Merchant " ++ merchantId ++ " returned 401 (token revoked)"))
    else if response.status = 429 then
      retry query again (.rateLimit ("Shopify Admin API throttled after " ++ toString maxRetries ++ " retries"))
    else if ¬response.ok = true then
      retry query again (.adminApi ("Shopify Admin API returned " ++ toString response.status))
    else parsed query again response

/-- The loop with so many retries left. -/
def send (maxRetries : Nat) : Nat → Program query.Data
  | 0 => attempt merchantId token query maxRetries none
  | retries + 1 => attempt merchantId token query maxRetries (some (send maxRetries retries))

end Client

def graphql (maxRetries : Nat) (merchantId : MerchantId) (query : Query) : Program query.Data := do
  match ← perform (.getOfflineToken merchantId) with
  | none => throw (.tokenRevoked ("No usable offline token for merchant " ++ merchantId))
  | some token => send merchantId token query maxRetries maxRetries

section Disciplines

open Script

variable {Phase : Type} {discipline : Discipline Call Call.Value Thrown Phase} {merchantId : MerchantId}
  {token : OfflineToken} {query : Query} {phase : Phase} {post : Phase → Except Thrown query.Data → Prop} {maxRetries : Nat}

/-- What a response says of the operation; `none` where it does not tell. -/
def Response.delivers {Data : Type} (response : Response Data) : Option Data :=
  if response.ok then response.json.bind fun json => if json.errors = [] then json.data else none else none

variable (discipline merchantId token query phase post)

/-- A discipline under which a round that delivers nothing ends where it began. -/
structure Sending : Prop where
  fetches : discipline.allowed phase (.fetch token query)
  fails : ∀ thrown, post phase (.error thrown)
  lost : ∀ thrown, discipline.next phase (.fetch token query) (.error thrown) = phase
  revokes : ∀ response, response.status = 401 →
    discipline.allowed (discipline.next phase (.fetch token query) (.ok response)) (.markTokenRevoked merchantId) ∧
      ∀ answer thrown, post (discipline.next (discipline.next phase (.fetch token query) (.ok response))
        (.markTokenRevoked merchantId) answer) (.error thrown)
  undelivered : ∀ response, response.status ≠ 401 → response.delivers = none →
    discipline.next phase (.fetch token query) (.ok response) = phase
  delivered : ∀ response data, response.delivers = some data →
    post (discipline.next phase (.fetch token query) (.ok response)) (.ok data)

variable {discipline merchantId token query phase post}

namespace Sending

variable (sending : Sending discipline merchantId token query phase post) {again : Option (Program query.Data)}
  (obeys : ∀ program ∈ again, program.Obeys discipline phase post)

include sending obeys

theorem retry (error : Thrown) : (Shopify.retry query again error).Obeys discipline phase post := by
  cases again with
  | none => exact sending.fails error
  | some program => exact obeys program rfl

theorem parsed {response : Response query.Data} (good : response.ok = true) (fine : response.status ≠ 401) :
    (Shopify.parsed query again response).Obeys discipline
      (discipline.next phase (.fetch token query) (.ok response)) post := by
  have stays (none : response.delivers = none) := sending.undelivered response fine none
  unfold Shopify.parsed
  cases parsed : response.json with
  | none =>
    rw [stays (by simp [Response.delivers, parsed])]
    exact sending.fails _
  | some json =>
    dsimp only
    by_cases failed : json.errors ≠ []
    · rw [if_pos failed, stays (by simp [Response.delivers, parsed, failed])]
      split
      · exact sending.retry obeys _
      · exact sending.fails _
    · rw [if_neg failed]
      cases given : json.data with
      | none =>
        rw [stays (by simp [Response.delivers, parsed, given])]
        exact sending.fails _
      | some data =>
        refine sending.delivered response data ?_
        rw [Response.delivers, if_pos good, parsed, Option.bind_some, if_pos (not_not.mp failed), given]

/-- A round of the loop. -/
theorem attempt : (Shopify.attempt merchantId token query maxRetries again).Obeys discipline phase post := by
  unfold Shopify.attempt
  simp only [obeys_bind, obeys_tryCatch, perform, obeys_perform, obeys_pure]
  refine ⟨sending.fetches, fun answer => ?_⟩
  cases answer with
  | error error =>
    dsimp only
    rw [sending.lost error]
    exact sending.retry obeys _
  | ok response =>
    dsimp only
    split
    · rename_i revoked
      obtain ⟨marks, marked⟩ := sending.revokes response revoked
      exact obeys_perform_bind.mpr ⟨marks, fun error => marked _ _, fun answer => marked _ _⟩
    rename_i fine
    by_cases good : response.ok = true
    · have calm : ¬response.status = 429 := by
        simp only [Response.ok, Bool.and_eq_true, decide_eq_true_eq] at good
        omega
      rw [if_neg calm, if_neg (not_not.mpr good)]
      exact sending.parsed obeys good fine
    · rw [sending.undelivered response fine (if_neg good)]
      split
      · exact sending.retry obeys _
      · exact sending.retry obeys _

omit obeys in
/-- The loop, by induction on the retries that are left. -/
theorem send (retries : Nat) : (Shopify.send merchantId token query maxRetries retries).Obeys discipline phase post := by
  induction retries with
  | zero => exact sending.attempt nofun
  | succ retries ih =>
    refine sending.attempt fun program again => ?_
    cases again
    exact ih

end Sending

end Disciplines

section Discounts

variable (maxRetries : Nat)

def takenErrorCode : String := "TAKEN"

def lookupDiscountIdByCode (merchantId : MerchantId) (code : String) : Program (Option String) :=
  graphql maxRetries merchantId (.codeDiscountNodeByCode code)

def discountInput (args : CreateWinbackDiscountArgs) (startsAt : Date) : DiscountCodeBasicInput where
  title := "Winback offer (" ++ args.code ++ ")"
  code := args.code
  startsAt
  endsAt := args.endsAt
  customers := [args.customerGid]
  percentage := args.valuePercent / 100
  appliesOncePerCustomer := true

/-- What the caller makes of the payload of the mutation. -/
def minted (args : CreateWinbackDiscountArgs) (payload : CreatePayload) : Program CreateWinbackDiscountResult :=
  let failed : Program CreateWinbackDiscountResult :=
    if payload.userErrors.any (·.code == some takenErrorCode) then do
      match ← lookupDiscountIdByCode maxRetries args.merchantId args.code with
      | none => throw (.adminApi "discountCodeBasicCreate returned TAKEN but codeDiscountNodeByCode found no node")
      | some existingId => return ⟨args.code, existingId, true⟩
    else throw (.adminApi "discountCodeBasicCreate returned userErrors")
  match payload.codeDiscountNode, payload.userErrors with
  | some createdId, [] => return ⟨args.code, createdId, false⟩
  | _, _ => failed

def createWinbackDiscountCode (args : CreateWinbackDiscountArgs) : Program CreateWinbackDiscountResult := do
  let startsAt ← perform .clock
  let data ← graphql maxRetries args.merchantId (.discountCodeBasicCreate (discountInput args startsAt))
  minted maxRetries args (data.getD {})

/-- A worker that mints, and goes on with what it gets. -/
def mintForWorker (args : CreateWinbackDiscountArgs) : Program Unit := do
  let result ← createWinbackDiscountCode maxRetries args
  perform (.report args result)

end Discounts

end WinBack.Shopify
