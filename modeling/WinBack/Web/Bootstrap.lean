import WinBack.Library.Pool
import WinBack.Library.Machine
import WinBack.Shopify.Lifecycle
import WinBack.Web.Auth

/-! The bootstrap of a shop at `/auth`: token exchange, install, session and webhook subscriptions, as one program over
calls each of which may fail, or be carried out without its answer coming back. -/

namespace WinBack.Web

open Library Script Webhook Shopify

/-- The session that an exchange answers with. -/
structure ExchangedSession where
  id : String
  accessToken : Option String
  scope : Option String
  deriving DecidableEq, Repr

structure SubscribePayload where
  userErrors : Option (List String)
  webhookSubscription : Option String
  deriving DecidableEq, Repr

structure SubscribeResult where
  topic : String
  subscriptionId : Option String
  errors : List String
  deriving DecidableEq, Repr

/-- The variables of the subscribe mutation, and the merchant with whose token it is made. -/
structure SubscribeArgs where
  merchantId : MerchantId
  topic : String
  url : String
  deriving DecidableEq, Repr

namespace Bootstrap

inductive Call where
  | tokenExchange (shop sessionToken : String)
  | loadSession (id : String)
  | completeInstall (args : CompleteInstallArgs)
  | storeSession (session : ExchangedSession)
  | subscribe (args : SubscribeArgs)

/-- A stored session is read for its scope. -/
@[reducible] def Call.Value : Call → Type
  | .tokenExchange _ _ => ExchangedSession
  | .loadSession _ => Option (Option String)
  | .completeInstall _ => CompleteInstallResult
  | .storeSession _ => Unit
  | .subscribe _ => Option SubscribePayload

/-- An error is a message. -/
abbrev Program := Script Call Call.Value String

inductive Response where
  | invalidShop
  | refused (error : String) (reason : Option String) (status : Nat)
  | retry (error : String)
  | redirect (shop : String) (host : Option String)
  deriving DecidableEq, Repr

structure Request where
  shop : Option String
  idToken : Option String
  host : Option String := none
  deriving DecidableEq, Repr

/-- The SDK at the time of the request, and where the app is served. -/
structure Context where
  sdk : Sdk
  appUrl : String

section Program

variable (context : Context)

def perform (request : Call) : Program request.Value := Script.perform request

/-- `none` where it threw. -/
def attempt {Result : Type} (body : Program Result) : Program (Option Result) :=
  tryCatch (do return some (← body)) fun _ => return none

def topicHeaderToGraphqlEnum (topic : String) : String :=
  .ofList (topic.toList.map fun char => if char = '/' then '_' else char.toUpper)

def subscribeExcludedTopics : List String := ["app/scopes_update"]

def subscribedTopics : List String := (webhookTopicToEvent.map (·.1)).filter fun topic => !subscribeExcludedTopics.contains topic

def subscribeOne (merchantId : MerchantId) (topic callbackUrl : String) : Program SubscribeResult :=
  tryCatch
    (do
      let payload ← perform (.subscribe ⟨merchantId, topicHeaderToGraphqlEnum topic, callbackUrl⟩)
      return ⟨topic, payload.bind (·.webhookSubscription), (payload.bind (·.userErrors)).getD []⟩)
    fun message => return ⟨topic, none, [message]⟩

/-- One topic after the other; a topic that fails does not stop the rest. -/
def subscribeAll (merchantId : MerchantId) (callbackUrl : String) : List String → Program (List SubscribeResult)
  | [] => return []
  | topic :: rest => do
    let result ← subscribeOne merchantId topic callbackUrl
    let results ← subscribeAll merchantId callbackUrl rest
    return result :: results

def subscribeAllWebhooks (merchantId : MerchantId) (callbackUrl : String) : Program (List SubscribeResult) :=
  subscribeAll merchantId callbackUrl subscribedTopics

/-- An empty `host` is left out. -/
def redirectToAppRoot (shop : String) (host : Option String) : Response := .redirect shop (host.filter (· ≠ ""))

def trySubscribeAllWebhooks (shop : String) (merchantId : MerchantId) (host : Option String) : Program (Option Response) :=
  tryCatch
    (do
      let results ← subscribeAllWebhooks merchantId (context.appUrl ++ "/webhooks")
      if (results.filter fun result => 0 < result.errors.length).length > 0 then
        return some (redirectToAppRoot shop host)
      else return none)
    fun _ => return some (redirectToAppRoot shop host)

/-- What it reads is logged, and its errors are as well. -/
def logScopeDriftIfAny (shop : String) : Program Unit :=
  tryCatch (do let _ ← perform (.loadSession (offlineSessionId shop)); return) fun _ => return

def tokenExchangeForShop (shop sessionToken : String) : Program ExchangedSession :=
  if isValidShopDomain shop then perform (.tokenExchange shop sessionToken)
  else throw s!"Invalid shop domain: {shop}"

/-- After the install: the session first, then, for a new shop, the webhooks. -/
def storeAndSubscribe (shop : String) (host : Option String) (session : ExchangedSession) (install : CompleteInstallResult) :
    Program Response := do
  match ← attempt (perform (.storeSession session)) with
  | none => return .retry "session_store_failed"
  | some () =>
    if install.isNewInstall then
      return (← trySubscribeAllWebhooks context shop install.merchantId host).getD (redirectToAppRoot shop host)
    else return redirectToAppRoot shop host

def runTokenExchangeBootstrap (shop idToken : String) (host : Option String) : Program Response :=
  match decodeAndVerifySessionToken context.sdk idToken shop with
  | .error error => return .refused "session_token_invalid" (some error.reason.text) 401
  | .ok _ => do
    match ← attempt (tokenExchangeForShop shop idToken) with
    | none => return .retry "token_exchange_failed"
    | some session =>
      logScopeDriftIfAny shop
      let args : CompleteInstallArgs := ⟨shop, session.accessToken.getD "", session.scope.getD ""⟩
      match ← attempt (perform (.completeInstall args)) with
      | none => return .retry "install_failed"
      | some install => storeAndSubscribe context shop host session install

def loader (request : Request) : Program Response :=
  match request.shop.bind normalizeShopDomain with
  | none => return .invalidShop
  | some shop =>
    match request.idToken.filter (· ≠ "") with
    | none => return .refused "id_token_required" none 400
    | some idToken => runTokenExchangeBootstrap context shop idToken request.host

end Program

section Exec

/-- What Shopify has answered to an exchange. -/
structure Grant where
  shop : String
  sessionToken : String
  session : ExchangedSession
  deriving DecidableEq, Repr

/-- The database, and what Shopify has granted and been asked to deliver. -/
structure Store where
  db : Db := {}
  sessions : Table Session := ∅
  granted : List Grant := []
  subscribed : List SubscribeArgs := []

/-- What the environment decides about one call. -/
structure Choice where
  now : Date := 0
  newId : MerchantId := ""
  eventId : String := ""
  accessToken : Option String := none
  scope : Option String := none
  payload : Option SubscribePayload := none
  fails : Bool := false
  lost : Bool := false

def Choice.carryOut {Result : Type} (choice : Choice) (store next : Store) (result : Result) : Except String Result × Store :=
  if choice.fails then (.error "unreachable", store)
  else (if choice.lost then .error "unreachable" else .ok result, next)

/-- An empty token is stored as it is. -/
def encryptToken (cipher : Lifecycle.Cipher) (accessToken : Option String) : String :=
  let token := accessToken.getD ""
  if token = "" then "" else cipher.encrypt token

/-- An exchange answers with the offline session of the shop. -/
def exec (cipher : Lifecycle.Cipher) (store : Store) (request : Call) (choice : Choice) : Except String request.Value × Store :=
  match request with
  | .tokenExchange shop sessionToken =>
    let session : ExchangedSession := ⟨offlineSessionId shop, choice.accessToken, choice.scope⟩
    choice.carryOut store { store with granted := store.granted ++ [⟨shop, sessionToken, session⟩] } session
  | .loadSession id =>
    choice.carryOut store store ((store.sessions.find? (·.id == id)).map fun _ => choice.scope)
  | .completeInstall args =>
    match Shopify.completeInstall args choice.newId choice.eventId choice.now store.db with
    | .error _ => (.error "install", store)
    | .ok (result, db) => choice.carryOut store { store with db } result
  | .storeSession session =>
    choice.carryOut store
      { store with sessions := WinBack.storeSession ⟨session.id, encryptToken cipher session.accessToken⟩ store.sessions } ()
  | .subscribe args => choice.carryOut store { store with subscribed := store.subscribed ++ [args] } choice.payload

theorem Choice.carryOut_cases {Result : Type} {choice : Choice} {store next after : Store} {result : Result}
    {answer : Except String Result} (executed : choice.carryOut store next result = (answer, after)) :
    (after = store ∨ after = next) ∧ ∀ value, answer = .ok value → value = result ∧ after = next := by
  unfold Choice.carryOut at executed
  split at executed
  · cases executed
    exact ⟨.inl rfl, fun value same => (nomatch same)⟩
  · split at executed
    · cases executed
      exact ⟨.inr rfl, fun value same => (nomatch same)⟩
    · cases executed
      exact ⟨.inr rfl, fun value same => ⟨(Except.ok.inj same).symm, rfl⟩⟩

end Exec

end Bootstrap

end WinBack.Web
