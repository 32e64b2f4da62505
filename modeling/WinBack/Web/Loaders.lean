import WinBack.Scoring.Listing
import WinBack.Web.Auth

/-! The loaders of the admin pages behind the session token: what they answer depends on the rows of the shop that the
token was issued for, and on no others. -/

namespace WinBack.Web

open Library Scoring Tenant

section Loaders

structure AdminMerchant extends Merchant where
  installedAt : Date
  deriving DecidableEq, Repr

structure AdminSettings extends MerchantSettings where
  attributionAssistedWindowDays : Int := 30
  deriving DecidableEq, Repr

instance : Indexed AdminMerchant := .ofKeys (fun row => row.id) fun row => row.shop
instance : Indexed AdminSettings := .ofKey fun row => row.merchantId

structure AdminDb where
  merchants : Table AdminMerchant := ∅
  merchantSettings : Table AdminSettings := ∅
  scores : ScoreDb := ⟨∅, ∅⟩

structure AdminAuthContext where
  merchantId : MerchantId
  shop : String
  installedAt : Date
  host : String
  deriving DecidableEq, Repr

/-- What a loader throws: a response, or an error of the store. -/
inductive Thrown where
  | response (response : Response)
  | hook (error : HookError)

variable (sdk : Sdk) (request : AdminRequest) (db : AdminDb)

/-- The install starts over where the token is good and there is no merchant. -/
def requireAdminAuth : Except Thrown AdminAuthContext := do
  let (shop, token) ← (verifiedShop sdk request).mapError .response
  match db.merchants.find? (·.shop == shop) with
  | none => .error (.response (.redirect "/auth" [("shop", shop), ("id_token", token)]))
  | some merchant => return ⟨merchant.id, merchant.shop, merchant.installedAt, request.host.getD ""⟩

/-- The live customers by state; the extension adds the filter of the soft delete. -/
def getStateBandCounts (scope : Option TenantScope) (merchantId : MerchantId) : Except HookError (CustomerState → Nat) := do
  assertScopeMatchesMerchant scope merchantId
  return fun state => db.scores.customers.count fun row =>
    row.merchantId == merchantId && row.deletedAt == none && row.state == state

structure SettingsView where
  attributionDirectWindowDays : Int
  attributionAssistedWindowDays : Int
  sendTimeStartHour : Int
  sendTimeEndHour : Int
  monthlyAiSpendCapCents : Int
  monthlySendsCap : Int
  deriving DecidableEq, Repr

def AdminSettings.view (row : AdminSettings) : SettingsView where
  attributionDirectWindowDays := row.attributionDirectWindowDays
  attributionAssistedWindowDays := row.attributionAssistedWindowDays
  sendTimeStartHour := row.sendTimeStartHour
  sendTimeEndHour := row.sendTimeEndHour
  monthlyAiSpendCapCents := row.monthlyAiSpendCapCents
  monthlySendsCap := row.monthlySendsCap

/-- The known states of the parameter, each once. -/
def parseFilterStates (raw : Option String) : List CustomerState :=
  (((raw.getD "").toList.splitOn ',').filterMap fun part => CustomerState.ofText? (.ofList (trim part))).eraseDups

def pageSize : Nat := 50

inductive Route where
  | index | customers | settings
  deriving DecidableEq, Repr

/-- What a page shows. -/
inductive Loaded where
  | index (context : AdminAuthContext) (counts : CustomerState → Nat)
  | customers (context : AdminAuthContext) (filterStates : List CustomerState) (page : ListCustomerScoresResult)
  | settings (view : SettingsView)

variable {Rank : Type} [LinearOrder Rank] (collate : String ↪ Rank)

/-- What a loader reads for the merchant, under its scope. The customers are those of the first page. -/
def load (route : Route) (context : AdminAuthContext) : Except Thrown Loaded :=
  let scope := some (.tenant context.merchantId)
  match route with
  | .index => do
    let counts ← (getStateBandCounts db scope context.merchantId).mapError .hook
    return .index context counts
  | .customers => do
    let filterStates := parseFilterStates request.state
    let page ← (listWithCustomer collate scope db.scores {
      merchantId := context.merchantId
      cursor := none
      limit := pageSize
      filterStates := if filterStates = [] then none else some filterStates }).mapError .hook
    return .customers context filterStates page
  | .settings =>
    match db.merchantSettings.find? (·.merchantId == context.merchantId) with
    | none => .error (.response (.text 500 "Settings not found"))
    | some row => .ok (.settings row.view)

/-- The loader of a route. -/
def loader (route : Route) : Except Thrown Loaded := do
  let context ← requireAdminAuth sdk request db
  load request db collate route context

end Loaders

section Isolation

/-- Two stores agree on the rows of one shop. -/
structure SameFor (shop : String) (first second : AdminDb) : Prop where
  merchant : first.merchants.find? (·.shop == shop) = second.merchants.find? (·.shop == shop)
  settings : ∀ merchant, first.merchants.find? (·.shop == shop) = some merchant →
    first.merchantSettings.find? (·.merchantId == merchant.id) = second.merchantSettings.find? (·.merchantId == merchant.id)
  customers : ∀ merchant, first.merchants.find? (·.shop == shop) = some merchant →
    first.scores.customers.rows.filter (·.merchantId == merchant.id) =
      second.scores.customers.rows.filter (·.merchantId == merchant.id)
  scores : ∀ merchant, first.merchants.find? (·.shop == shop) = some merchant →
    first.scores.customerScores.rows.filter (·.merchantId == merchant.id) =
      second.scores.customerScores.rows.filter (·.merchantId == merchant.id)
  -- the customers that the scores refer to
  scored : ∀ merchant, first.merchants.find? (·.shop == shop) = some merchant →
    ∀ score ∈ first.scores.customerScores.rows, score.merchantId = merchant.id →
      first.scores.customers.find? (·.id == score.customerId) = second.scores.customers.find? (·.id == score.customerId)

variable {sdk : Sdk} {request : AdminRequest} {first second db : AdminDb} {Rank : Type} [LinearOrder Rank]
  {collate : String ↪ Rank} {shop token : String} {merchant : AdminMerchant}

theorem requireAdminAuth_ok {context : AdminAuthContext} (passed : requireAdminAuth sdk request db = .ok context) :
    ∃ shop token merchant, verifiedShop sdk request = .ok (shop, token) ∧
      db.merchants.find? (·.shop == shop) = some merchant ∧
        context = ⟨merchant.id, merchant.shop, merchant.installedAt, request.host.getD ""⟩ := by
  obtain ⟨⟨shop, token⟩, verified, passed⟩ := bind_eq_ok_iff.mp passed
  cases checked : verifiedShop sdk request with
  | error response =>
    rw [checked] at verified
    cases verified
  | ok given =>
    rw [checked] at verified
    cases verified
    dsimp only at passed
    split at passed
    · cases passed
    · rename_i merchant found
      exact ⟨shop, token, merchant, rfl, found, (Except.ok.inj passed).symm⟩

/-- The counts read the rows of the merchant. -/
theorem counts_local (scope : Option TenantScope) (merchantId : MerchantId)
    (customers : first.scores.customers.rows.filter (·.merchantId == merchantId) =
      second.scores.customers.rows.filter (·.merchantId == merchantId)) :
    getStateBandCounts first scope merchantId = getStateBandCounts second scope merchantId := by
  have counted (db : AdminDb) (state : CustomerState) :
      db.scores.customers.count (fun row => row.merchantId == merchantId && row.deletedAt == none && row.state == state) =
        (db.scores.customers.rows.filter (·.merchantId == merchantId)).countP fun row =>
          row.deletedAt == none && row.state == state := by
    rw [List.countP_filter]
    refine List.countP_congr fun row _ => ?_
    simp only [Bool.and_eq_true]
    tauto
  unfold getStateBandCounts
  simp only [counted, customers]

/-- The list reads the scores of the merchant and their customers. -/
theorem listing_local (merchantId : MerchantId) (filterStates : Option (List CustomerState))
    (scores : first.scores.customerScores.rows.filter (·.merchantId == merchantId) =
      second.scores.customerScores.rows.filter (·.merchantId == merchantId))
    (scored : ∀ score ∈ first.scores.customerScores.rows, score.merchantId = merchantId →
      first.scores.customers.find? (·.id == score.customerId) = second.scores.customers.find? (·.id == score.customerId)) :
    findScores collate first.scores merchantId filterStates = findScores collate second.scores merchantId filterStates := by
  -- a score of another merchant is not listed
  have narrowed (db : AdminDb) : db.scores.customerScores.rows.filterMap (listed? db.scores merchantId filterStates) =
      (db.scores.customerScores.rows.filter (·.merchantId == merchantId)).filterMap (listed? db.scores merchantId filterStates) := by
    rw [List.filterMap_filter]
    refine List.filterMap_congr fun score _ => ?_
    by_cases own : score.merchantId = merchantId <;> simp [listed?, own]
  unfold findScores
  rw [narrowed first, narrowed second, scores]
  congr 1
  refine List.filterMap_congr fun score listed => ?_
  rw [← scores] at listed
  obtain ⟨stored, own⟩ := List.mem_filter.mp listed
  simp only [listed?, scored score stored (by simpa using own)]

theorem requireAdminAuth_local (agree : ∀ token shop, request.sessionToken = some token → IssuedFor sdk token shop →
    SameFor shop first second) : requireAdminAuth sdk request first = requireAdminAuth sdk request second := by
  unfold requireAdminAuth
  cases checked : verifiedShop sdk request with
  | error response => rfl
  | ok given =>
    obtain ⟨shop, token⟩ := given
    obtain ⟨_, presented, issued⟩ := verifiedShop_ok checked
    change (match first.merchants.find? (·.shop == shop) with | none => _ | some merchant => _) =
      (match second.merchants.find? (·.shop == shop) with | none => _ | some merchant => _)
    rw [(agree token shop presented issued).merchant]

/-- What is loaded for a merchant are its own rows. -/
theorem load_local (same : SameFor shop first second) (found : first.merchants.find? (·.shop == shop) = some merchant)
    (route : Route) (host : String) :
    load request first collate route ⟨merchant.id, merchant.shop, merchant.installedAt, host⟩ =
      load request second collate route ⟨merchant.id, merchant.shop, merchant.installedAt, host⟩ := by
  cases route with
  | index =>
    unfold load
    dsimp only
    rw [counts_local _ _ (same.customers merchant found)]
  | customers =>
    unfold load listWithCustomer
    dsimp only
    rw [listing_local merchant.id _ (same.scores merchant found) (same.scored merchant found)]
  | settings =>
    unfold load
    dsimp only
    rw [same.settings merchant found]

/-- A header with a token decides alone. -/
theorem sessionToken_header {idToken : Option String} (header : bearer? request.authorization ≠ none) :
    { request with idToken }.sessionToken = request.sessionToken := by
  obtain ⟨token, given⟩ := Option.ne_none_iff_exists'.mp header
  simp [AdminRequest.sessionToken, given]

/-- A page shows what belongs to the shop that the presented token was issued for, and no answer depends on what belongs
to another shop. A header with a token hides the token of the query. -/
theorem admin_pages_isolated (sdk : Sdk) (request : AdminRequest) (collate : String ↪ Rank) (route : Route)
    (first second : AdminDb)
    (agree : ∀ token shop, request.sessionToken = some token → IssuedFor sdk token shop → SameFor shop first second) :
    loader sdk request first collate route = loader sdk request second collate route ∧
    (∀ loaded, loader sdk request first collate route = .ok loaded →
      ∃ token shop, request.sessionToken = some token ∧ IssuedFor sdk token shop ∧
        request.shop.bind Webhook.normalizeShopDomain = some shop ∧ ∃ merchant ∈ first.merchants.rows, merchant.shop = shop) ∧
    ∀ idToken, bearer? request.authorization ≠ none →
      loader sdk { request with idToken } first collate route = loader sdk request first collate route := by
  refine ⟨?_, fun loaded shown => ?_, fun idToken header => ?_⟩
  · unfold loader
    rw [← requireAdminAuth_local agree]
    cases passed : requireAdminAuth sdk request first with
    | error thrown => rfl
    | ok context =>
      obtain ⟨shop, token, merchant, verified, found, rfl⟩ := requireAdminAuth_ok passed
      obtain ⟨_, presented, issued⟩ := verifiedShop_ok verified
      exact load_local (agree token shop presented issued) found route _
  · obtain ⟨context, passed, _⟩ := bind_eq_ok_iff.mp shown
    obtain ⟨shop, token, merchant, verified, found, _⟩ := requireAdminAuth_ok passed
    obtain ⟨named, presented, issued⟩ := verifiedShop_ok verified
    obtain ⟨stored, own⟩ := Table.find?_mem found
    exact ⟨token, shop, presented, issued, named, merchant, stored, by simpa using own⟩
  · unfold loader requireAdminAuth verifiedShop
    rw [sessionToken_header header]
    rfl

/-- Two shops, each with a customer. -/
def twoShops (state : CustomerState) : AdminDb where
  merchants := ⟨[{ id := "a", shop := "a1.myshopify.com", installedAt := 0 }, { id := "b", shop := "b1.myshopify.com", installedAt := 0 }],
    by decide⟩
  scores := ⟨∅, ⟨[{ id := "u", merchantId := "a", shopifyCustomerId := "1", state := .lost },
    { id := "v", merchantId := "b", shopifyCustomerId := "2", state }], by cases state <;> decide⟩⟩

def asA1 (shop : String) : AdminRequest where
  authorization := some "Bearer jwt"
  shop := some shop

theorem tokenOfA1_issued {token shop : String} (issued : IssuedFor tokenOfA1 token shop) : toLowerCase shop = "a1.myshopify.com" := by
  obtain ⟨_, dest, _, destShop, _, _, _, _, host, _, same, _⟩ := issued
  simp only [tokenOfA1] at host
  split at host
  · cases host
    exact same.symm.trans (by decide)
  · cases host

theorem twoShops_same {token shop : String} (issued : IssuedFor tokenOfA1 token shop) :
    SameFor shop (twoShops .active) (twoShops .dormant) := by
  have only {merchant : AdminMerchant} (found : (twoShops .active).merchants.find? (·.shop == shop) = some merchant) :
      merchant.id = "a" := by
    obtain ⟨stored, named⟩ := Table.find?_mem found
    have lower := tokenOfA1_issued issued
    rcases List.mem_cons.mp stored with rfl | other
    · rfl
    · obtain rfl := List.mem_singleton.mp other
      rw [← beq_iff_eq.mp named] at lower
      exact absurd lower (by decide)
  refine ⟨rfl, fun _ _ => rfl, fun merchant found => ?_, fun _ _ => rfl, fun _ _ score listed => ?_⟩
  · rw [only found]
    decide
  · cases listed

theorem admin_pages_isolated_two_shops :
    let collate := Function.Embedding.refl String
    (loader tokenOfA1 (asA1 "A1.myshopify.com") (twoShops .active) collate .index).toOption.isSome = true ∧
    loader tokenOfA1 (asA1 "b1.myshopify.com") (twoShops .active) collate .index =
      .error (.response (.json 401 [("error", "session_token_invalid"), ("reason", "wrong_dest")])) ∧
    loader tokenOfA1 (asA1 "A1.myshopify.com") (twoShops .active) collate .customers =
      loader tokenOfA1 (asA1 "A1.myshopify.com") (twoShops .dormant) collate .customers :=
  ⟨by decide, rfl,
    (admin_pages_isolated tokenOfA1 (asA1 "A1.myshopify.com") (.refl String) .customers _ _ fun _ _ _ issued => twoShops_same issued).1⟩

end Isolation

end WinBack.Web
