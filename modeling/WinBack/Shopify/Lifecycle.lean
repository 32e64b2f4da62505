import WinBack.Library.Machine
import WinBack.Library.Pool
import WinBack.Shopify.Admin
import WinBack.Shopify.Install

/-! The life of one shop: its installs and uninstalls at Shopify, their signals, which arrive late, and
the requests that are under way with the token of some install. -/

namespace WinBack.Shopify.Lifecycle

open Library Script

structure Cipher where
  encrypt : String → String
  decrypt : String → Option String
  decrypt_encrypt : ∀ text, decrypt (encrypt text) = some text

structure Store where
  db : Db := {}
  sessions : Table Session := ∅

/-- Shopify's side: the token of every install, oldest first, whether the last event is an install,
and the tokens it no longer takes. -/
structure Shop where
  tokens : List String := []
  installed : Bool := false
  rejected : List String := []

namespace Shop

def accepts (shop : Shop) (token : String) : Prop :=
  shop.installed = true ∧ shop.tokens.getLast? = some token ∧ token ∉ shop.rejected

instance (shop : Shop) (token : String) : Decidable (shop.accepts token) := inferInstanceAs (Decidable (_ ∧ _ ∧ _))

/-- The install was followed by an uninstall. -/
def Ended (shop : Shop) (install : Nat) : Prop :=
  install < shop.tokens.length ∧ (install + 1 = shop.tokens.length → shop.installed = false)

instance (shop : Shop) (install : Nat) : Decidable (shop.Ended install) := inferInstanceAs (Decidable (_ ∧ _))

end Shop

/-- What the environment decides about one call. -/
structure Choice where
  now : Date := 0
  eventId : String := ""
  fails : Bool := false
  lost : Bool := false
  created : Option (Response (Option CreatePayload)) := none
  found : Option (Response (Option String)) := none

def Choice.response (choice : Choice) : (query : Query) → Option (Response query.Data)
  | .discountCodeBasicCreate _ => choice.created
  | .codeDiscountNodeByCode _ => choice.found

def Choice.carryOut {Result : Type} (choice : Choice) (store next : Store) (result : Result) : Except Thrown Result × Store :=
  if choice.fails then (.error .network, store)
  else (if choice.lost then .error .network else .ok result, next)

/-- Shopify answers 401 only to a token that it does not take. -/
def exec (cipher : Cipher) (shop : Shop) (store : Store) (request : Call) (choice : Choice) :
    Option (Except Thrown request.Value × Store) :=
  match request with
  | .getOfflineToken merchantId =>
    some (choice.carryOut store store ((getOfflineToken cipher.decrypt merchantId store.sessions store.db).map
      fun token => (⟨token.1, token.2⟩ : OfflineToken)))
  | .markTokenRevoked merchantId =>
    match markTokenRevoked merchantId choice.eventId choice.now store.db with
    | .error _ => some (.error .network, store)
    | .ok db => some (choice.carryOut store { store with db } ())
  | .clock => some (.ok choice.now, store)
  | .fetch token query =>
    match choice.response query with
    | none => some (.error .network, store)
    | some response =>
      if response.status = 401 ∧ shop.accepts token.accessToken then none else some (.ok response, store)
  | .report _ _ => some (.ok (), store)

/-- What a request knows of its token. -/
inductive Known where
  | nothing
  | holds (token : String)
  | refused (token : String)
  deriving DecidableEq, Repr

namespace Known

def next : Known → (request : Call) → Except Thrown request.Value → Known
  | .nothing, .getOfflineToken _, .ok (some token) => .holds token.accessToken
  | .holds token, .fetch _ _, .ok response => if response.status = 401 then .refused token else .holds token
  | known, _, _ => known

/-- The merchant is marked only after a 401. -/
def allowed (merchantId : MerchantId) : Known → Call → Prop
  | .nothing, .getOfflineToken about => about = merchantId
  | .holds token, .fetch used _ => used.accessToken = token
  | .refused _, .markTokenRevoked about => about = merchantId
  | _, _ => False

end Known

def requesting (merchantId : MerchantId) : Discipline Call Call.Value Thrown Known where
  allowed := Known.allowed merchantId
  next := Known.next

/-- One use of the client, whose caller is not modelled. -/
def requestOnce (maxRetries : Nat) (merchantId : MerchantId) (query : Query) : Program Unit := do
  let _ ← graphql maxRetries merchantId query
  return

abbrev Request := Task MerchantId Call Call.Value Thrown Known

/-- `committed` are the installs whose `completeInstall` went through, `notices` the outbox rows of
the uninstalls. -/
structure World where
  shop : Shop := {}
  store : Store := {}
  committed : List Nat := []
  notices : List (OutboxEvent × Nat) := []
  requests : Pool Request := []

inductive Label where
  | installs (token : String)
  | uninstalls
  | rejects (token : String)
  | commits (install : Nat) (scope : String) (newId : MerchantId) (eventId : String) (now : Date)
  | stores (install : Nat)
  | delivers (install : Nat) (webhookId : String) (body : Json) (eventId : String) (now : Date)    -- `app/uninstalled`
  | handles (notice : Nat) (now : Date)    -- the first time, a retry or a replay
  | begins (query : Query)
  | acts (slot : Nat) (choice : Choice)
  | crashes (slot : Nat)
  | elsewhere (store : Store)

variable (cipher : Cipher) (domain : String) (maxRetries : Nat)

/-- The row of the shop, as far as the signals are concerned. -/
def lifecycle (store : Store) : List (MerchantId × Option Date × Option Date) :=
  (store.db.merchants.rows.filter (·.shop == domain)).map fun row => (row.id, row.uninstalledAt, row.tokenRevokedAt)

/-- The other components write neither these columns nor the session. -/
def Kept (before after : Store) : Prop :=
  lifecycle domain after = lifecycle domain before ∧
    after.sessions.find? (·.id == offlineSessionId domain) = before.sessions.find? (·.id == offlineSessionId domain)

instance (before after : Store) : Decidable (Kept domain before after) := inferInstanceAs (Decidable (_ ∧ _))

def merchant? (store : Store) : Option Merchant := store.db.merchants.find? (·.shop == domain)

def commit (token scope : String) (newId : MerchantId) (eventId : String) (now : Date) (store : Store) : Option Store :=
  match completeInstall ⟨domain, token, scope⟩ newId eventId now store.db with
  | .error _ => none
  | .ok (_, db) => some { store with db }

def deliver (webhookId : String) (body : Json) (eventId : String) (now : Date) (store : Store) : Option (OutboxEvent × Store) :=
  (merchant? domain store).bind fun merchant =>
    let row := Webhook.published merchant.id "app/uninstalled" webhookId body .merchantUninstalled eventId now
    match Webhook.publish (some row) store.db with
    | .error _ => none
    | .ok db => some (row, { store with db })

def machine : Machine World Label where
  step world
    | .installs token =>
      if world.shop.installed = false ∧ token ∉ world.shop.tokens then
        some { world with shop := { world.shop with tokens := world.shop.tokens ++ [token], installed := true } }
      else none
    | .uninstalls =>
      if world.shop.installed then some { world with shop := { world.shop with installed := false } } else none
    | .rejects token => some { world with shop := { world.shop with rejected := token :: world.shop.rejected } }
    | .commits install scope newId eventId now => (world.shop.tokens[install]?).bind fun token =>
      (commit domain token scope newId eventId now world.store).map fun store =>
        { world with store, committed := install :: world.committed }
    | .stores install => (world.shop.tokens[install]?).bind fun token =>
      if install ∈ world.committed then some { world with store := { world.store with
        sessions := storeSession ⟨offlineSessionId domain, cipher.encrypt token⟩ world.store.sessions } }
      else none
    | .delivers install webhookId body eventId now =>
      if world.shop.Ended install then
        (deliver domain webhookId body eventId now world.store).map fun (row, store) =>
          { world with store, notices := world.notices ++ [(row, install)] }
      else none
    | .handles notice now => (world.notices[notice]?).map fun (row, _) =>
      { world with store := { world.store with db := (handleMerchantUninstalled row now world.store.db).2 } }
    | .begins query => (merchant? domain world.store).map fun merchant =>
      { world with requests := world.requests.spawn ⟨merchant.id, .nothing, requestOnce maxRetries merchant.id query⟩ }
    | .acts slot choice => (world.requests.task? slot).bind fun request =>
      (request.advance (requesting request.tag) (exec cipher world.shop) world.store choice).map fun (store, next) =>
        { world with store, requests := world.requests.put slot next }
    | .crashes slot => (world.requests.task? slot).map fun _ => { world with requests := world.requests.clear slot }
    | .elsewhere store => if Kept domain world.store store then some { world with store } else none

end WinBack.Shopify.Lifecycle
