import WinBack.Shopify.SessionStorage
import WinBack.Shopify.Stale
import WinBack.Web.Bootstrap

/-! What bootstraps do to a shop: one that meets no failure heals it, whatever earlier ones have left behind, and in any
interleaving no shop is given a session that was not granted to it. -/

namespace WinBack.Web.Bootstrap

open Library Script Webhook Shopify

section Install

variable {shop : String} {args : CompleteInstallArgs} {newId : MerchantId} {eventId : String} {now : Date} {db next : Db}
  {result : CompleteInstallResult}

/-- What an install leaves behind: the shop is live, and has all its rows. -/
structure Installed (shop : String) (merchantId : MerchantId) (db : Db) : Prop where
  merchant : ∃ merchant ∈ db.merchants.rows, merchant.id = merchantId ∧ merchant.shop = shop ∧
    merchant.uninstalledAt = none ∧ merchant.tokenRevokedAt = none
  settings : ∃ settings ∈ db.merchantSettings.rows, settings.merchantId = merchantId
  subscription : ∃ subscription ∈ db.billingSubscriptions.rows, subscription.merchantId = merchantId

theorem healSettings_any (merchantId : MerchantId) :
    ∃ settings ∈ (healSettings merchantId db).merchantSettings.rows, settings.merchantId = merchantId := by
  unfold healSettings
  split
  · rename_i refused
    obtain ⟨settings, stored, clash⟩ := Table.insert?_none refused
    exact ⟨settings, stored, by simpa [Indexed.clash, Indexed.index] using clash⟩
  · rename_i inserted
    rw [(Table.insert?_rows inserted).1]
    exact ⟨_, List.mem_append_right _ (List.mem_singleton_self _), rfl⟩

theorem healSubscription_any (merchantId : MerchantId) :
    (∃ subscription ∈ (healSubscription merchantId db).billingSubscriptions.rows, subscription.merchantId = merchantId) ∧
      (healSubscription merchantId db).merchantSettings = db.merchantSettings := by
  unfold healSubscription
  split
  · rename_i refused
    obtain ⟨subscription, stored, clash⟩ := Table.insert?_none refused
    exact ⟨⟨subscription, stored, by simpa [Indexed.clash, Indexed.index] using clash⟩, rfl⟩
  · rename_i inserted
    refine ⟨?_, rfl⟩
    rw [(Table.insert?_rows inserted).1]
    exact ⟨_, List.mem_append_right _ (List.mem_singleton_self _), rfl⟩

/-- The row of the shop after its upsert. -/
theorem upsertInstall_answer {merchantId : MerchantId} {isNewInstall : Bool}
    (upserted : MerchantRepository.upsertInstall shop newId db = .ok ((merchantId, isNewInstall), next)) :
    isNewInstall = (db.merchants.find? (·.shop == shop)).isNone ∧ next.outboxEvents = db.outboxEvents ∧
      ∃ merchant ∈ next.merchants.rows, merchant.id = merchantId ∧ merchant.shop = shop ∧
        merchant.uninstalledAt = none ∧ merchant.tokenRevokedAt = none := by
  unfold MerchantRepository.upsertInstall at upserted
  split at upserted
  · rename_i existing found
    cases upserted
    obtain ⟨stored, same⟩ := Table.find?_mem found
    refine ⟨by rw [found]; rfl, rfl, _, List.mem_map.mpr ⟨existing, stored, rfl⟩, ?_⟩
    rw [if_pos same]
    exact ⟨rfl, beq_iff_eq.mp same, rfl, rfl⟩
  · rename_i absent
    split at upserted
    · cases upserted
    · rename_i merchants inserted
      cases upserted
      refine ⟨by rw [absent]; rfl, rfl, { id := newId, shop }, ?_, rfl, rfl, rfl, rfl⟩
      rw [(Table.insert?_rows inserted).1]
      exact List.mem_append_right _ (List.mem_singleton_self _)

theorem upsertInstall_total (fresh : ∀ merchant ∈ db.merchants.rows, merchant.id ≠ newId) :
    ∃ answer after, MerchantRepository.upsertInstall shop newId db = .ok (answer, after) := by
  unfold MerchantRepository.upsertInstall
  split
  · exact ⟨_, _, rfl⟩
  · rename_i absent
    cases inserted : db.merchants.insert? { id := newId, shop } with
    | some merchants => exact ⟨_, _, rfl⟩
    | none =>
      obtain ⟨other, stored, clash⟩ := Table.insert?_none inserted
      have unknown := Table.find?_none_iff.mp absent other stored
      simp [Indexed.clash, Indexed.index, fresh other stored, unknown] at clash

theorem events_heal (merchantId : MerchantId) :
    (healSubscription merchantId (healSettings merchantId db)).outboxEvents = db.outboxEvents := by
  unfold healSubscription healSettings
  split <;> split <;> rfl

/-- With new ids an install goes through, and leaves the shop live and whole. -/
theorem completeInstall_installs (valid : isValidShopDomain args.shop = true)
    (fresh : ∀ merchant ∈ db.merchants.rows, merchant.id ≠ newId) (unused : ∀ event ∈ db.outboxEvents.rows, event.id ≠ eventId) :
    ∃ result after, completeInstall args newId eventId now db = .ok (result, after) ∧ Installed args.shop result.merchantId after ∧
      result.isNewInstall = (db.merchants.find? (·.shop == args.shop)).isNone := by
  obtain ⟨⟨merchantId, isNewInstall⟩, upserted, done⟩ := @upsertInstall_total args.shop newId db fresh
  obtain ⟨new, events, merchant, stored, whole⟩ := upsertInstall_answer done
  have merchants : (healSubscription merchantId (healSettings merchantId upserted)).merchants = upserted.merchants := by
    rw [Lifecycle.merchants_healSubscription, Lifecycle.merchants_healSettings]
  have subscription := @healSubscription_any (healSettings merchantId upserted) merchantId
  have settings := @healSettings_any upserted merchantId
  cases inserted : (healSubscription merchantId (healSettings merchantId upserted)).outboxEvents.insert?
      { id := eventId, merchantId, type := OutboxEventType.merchantInstalled.text,
        payload := installedPayload args isNewInstall, createdAt := now } with
  | none =>
    obtain ⟨other, present, clash⟩ := Table.insert?_none inserted
    rw [events_heal, events] at present
    simp [Indexed.clash, Indexed.index, unused other present] at clash
  | some outboxEvents =>
    refine ⟨⟨merchantId, isNewInstall⟩, { healSubscription merchantId (healSettings merchantId upserted) with outboxEvents },
      ?_, ⟨?_, ?_, subscription.1⟩, new⟩
    · rw [completeInstall, if_pos valid, installRows, done]
      change Except.mapError _ (createEvent merchantId _ _ eventId now _ >>= _) = _
      rw [createEvent, publish]
      dsimp only
      rw [inserted]
      rfl
    · exact ⟨merchant, merchants ▸ stored, whole⟩
    · rw [← subscription.2] at settings
      exact settings

end Install

section Healing

variable {cipher : Lifecycle.Cipher} {choice : Choice} {store : Store} {context : Context}

/-- Every call is answered. -/
def serve (cipher : Lifecycle.Cipher) (choice : Choice) (store : Store) (request : Call) : Except String request.Value × Store :=
  exec cipher store request { choice with fails := false, lost := false }

theorem run_attempt {Result : Type} {body : Program Result} {result : Result} {after : Store}
    (ran : body.run (serve cipher choice) store = (.ok result, after)) :
    (attempt body).run (serve cipher choice) store = (.ok (some result), after) := by
  rw [attempt, run_tryCatch, run_bind_ok _ ran]
  rfl

theorem run_tokenExchange {shop idToken : String} (valid : isValidShopDomain shop = true) :
    (tokenExchangeForShop shop idToken).run (serve cipher choice) store =
      (.ok ⟨offlineSessionId shop, choice.accessToken, choice.scope⟩, { store with
        granted := store.granted ++ [⟨shop, idToken, offlineSessionId shop, choice.accessToken, choice.scope⟩] }) := by
  rw [tokenExchangeForShop, if_pos valid]
  rfl

theorem run_logScopeDrift (shop : String) :
    (logScopeDriftIfAny shop).run (serve cipher choice) store = (.ok (), store) := rfl

theorem run_completeInstall {args : CompleteInstallArgs} {install : CompleteInstallResult} {db : Db}
    (completed : completeInstall args choice.newId choice.eventId choice.now store.db = .ok (install, db)) :
    (perform (.completeInstall args)).run (serve cipher choice) store = (.ok install, { store with db }) := by
  change serve cipher choice store (.completeInstall args) = _
  unfold serve exec
  dsimp only
  rw [completed]
  unfold Choice.carryOut
  dsimp only
  rw [if_neg (by decide), if_neg (by decide)]

/-- The subscriptions that are asked for. -/
def asked (merchantId : MerchantId) (callbackUrl : String) (topics : List String) : List SubscribeArgs :=
  topics.map fun topic => ⟨merchantId, topicHeaderToGraphqlEnum topic, callbackUrl⟩

theorem run_subscribeOne (merchantId : MerchantId) (topic callbackUrl : String) :
    ∃ result, (subscribeOne merchantId topic callbackUrl).run (serve cipher choice) store =
      (.ok result, { store with subscribed := store.subscribed ++ asked merchantId callbackUrl [topic] }) :=
  ⟨_, rfl⟩

theorem run_subscribeAll (merchantId : MerchantId) (callbackUrl : String) (topics : List String) :
    ∃ results, (subscribeAll merchantId callbackUrl topics).run (serve cipher choice) store =
      (.ok results, { store with subscribed := store.subscribed ++ asked merchantId callbackUrl topics }) := by
  induction topics generalizing store with
  | nil => exact ⟨[], by simp [subscribeAll, asked]⟩
  | cons topic rest ih =>
    obtain ⟨result, first⟩ := @run_subscribeOne cipher choice store merchantId topic callbackUrl
    obtain ⟨results, later⟩ := @ih { store with subscribed := store.subscribed ++ asked merchantId callbackUrl [topic] }
    refine ⟨result :: results, ?_⟩
    rw [subscribeAll, run_bind_ok _ first, run_bind_ok _ later, run_pure]
    simp [asked]

/-- Whatever Shopify says of the subscriptions, the answer is the same. -/
theorem run_trySubscribeAllWebhooks (shop : String) (merchantId : MerchantId) (host : Option String) :
    ∃ answer, (answer = none ∨ answer = some (redirectToAppRoot shop host)) ∧
      (trySubscribeAllWebhooks context shop merchantId host).run (serve cipher choice) store =
        (.ok answer, { store with
          subscribed := store.subscribed ++ asked merchantId (context.appUrl ++ "/webhooks") subscribedTopics }) := by
  obtain ⟨results, ran⟩ := @run_subscribeAll cipher choice store merchantId (context.appUrl ++ "/webhooks") subscribedTopics
  rw [trySubscribeAllWebhooks, run_tryCatch, subscribeAllWebhooks, run_bind_ok _ ran]
  by_cases failed : (results.filter fun result => 0 < result.errors.length).length > 0
  · rw [if_pos failed]
    exact ⟨_, .inr rfl, rfl⟩
  · rw [if_neg failed]
    exact ⟨_, .inl rfl, rfl⟩

/-- What the session and the subscriptions are after the install. -/
def settled (cipher : Lifecycle.Cipher) (context : Context) (session : ExchangedSession) (install : CompleteInstallResult)
    (store : Store) : Store :=
  { store with
    sessions := WinBack.storeSession ⟨session.id, encryptToken cipher session.accessToken⟩ store.sessions
    subscribed := store.subscribed ++
      if install.isNewInstall then asked install.merchantId (context.appUrl ++ "/webhooks") subscribedTopics else [] }

theorem run_storeAndSubscribe (shop : String) (host : Option String) (session : ExchangedSession)
    (install : CompleteInstallResult) :
    (storeAndSubscribe context shop host session install).run (serve cipher choice) store =
      (.ok (redirectToAppRoot shop host), settled cipher context session install store) := by
  have stored : (attempt (perform (.storeSession session))).run (serve cipher choice) store = (.ok (some ()), { store with
      sessions := WinBack.storeSession ⟨session.id, encryptToken cipher session.accessToken⟩ store.sessions }) := rfl
  rw [storeAndSubscribe, run_bind_ok _ stored]
  dsimp only
  cases new : install.isNewInstall with
  | false => simp [settled, new]
  | true =>
    obtain ⟨answer, same, ran⟩ := @run_trySubscribeAllWebhooks cipher choice
      { store with sessions := WinBack.storeSession ⟨session.id, encryptToken cipher session.accessToken⟩ store.sessions }
      context shop install.merchantId host
    rw [if_pos rfl, run_bind_ok _ ran, run_pure, settled, new, if_pos rfl]
    rcases same with rfl | rfl <;> rfl

/-- The offline token of an installed shop is the one that was stored last. -/
theorem offlineToken_settled {shop token : String} {session : ExchangedSession} {install : CompleteInstallResult}
    (sealed : ∀ text, cipher.encrypt text ≠ "") (installed : Installed shop install.merchantId store.db)
    (named : session.id = offlineSessionId shop) (given : session.accessToken = some token) (visible : token ≠ "") :
    getOfflineToken cipher.decrypt install.merchantId (settled cipher context session install store).sessions store.db =
      some (shop, token) := by
  obtain ⟨merchant, stored, own, same, _, live⟩ := installed.merchant
  have found : store.db.merchants.find? (·.id == install.merchantId) = some merchant :=
    (Table.find?_eq_some_iff fun first second here there => by
      simp_all [Indexed.clash, Indexed.index]).mpr ⟨stored, by simpa using own⟩
  have encrypted : encryptToken cipher session.accessToken = cipher.encrypt token := by
    simp [encryptToken, given, visible]
  obtain ⟨row, held, written⟩ := @Lifecycle.find_storeSession ⟨session.id, encryptToken cipher session.accessToken⟩ store.sessions
  dsimp only at held written
  rw [encrypted] at written
  have kept : (settled cipher context session install store).sessions.find? (·.id == offlineSessionId shop) = some row := by
    rw [← named]
    exact held
  simp [getOfflineToken, found, live, same, kept, written, sealed, guard, cipher.decrypt_encrypt]

theorem loader_presented {request : Request} {shop idToken : String}
    (normalized : request.shop.bind normalizeShopDomain = some shop) (presented : request.idToken = some idToken)
    (visible : idToken ≠ "") : loader context request = runTokenExchangeBootstrap context shop idToken request.host := by
  have nonempty : request.idToken.filter (· ≠ "") = some idToken := by simp [presented, visible]
  simp only [loader, normalized, nonempty]

/-- A bootstrap that meets no failure, whatever has happened to the shop before: the answer leads back to the app, the
shop is live and has its settings and its subscription, calls are made with the token that was just granted, and the
webhooks are asked for if and only if the shop was new. -/
theorem bootstrap_heals {request : Request} {shop idToken : String} {payload : JwtPayload} {token : String}
    (sealed : ∀ text, cipher.encrypt text ≠ "") (normalized : request.shop.bind normalizeShopDomain = some shop)
    (presented : request.idToken = some idToken) (filled : idToken ≠ "")
    (verified : decodeAndVerifySessionToken context.sdk idToken shop = .ok payload)
    (granted : choice.accessToken = some token) (visible : token ≠ "")
    (fresh : ∀ merchant ∈ store.db.merchants.rows, merchant.id ≠ choice.newId)
    (unused : ∀ event ∈ store.db.outboxEvents.rows, event.id ≠ choice.eventId) :
    ∃ merchantId after, (loader context request).run (serve cipher choice) store =
        (.ok (redirectToAppRoot shop request.host), after) ∧
      Installed shop merchantId after.db ∧
      getOfflineToken cipher.decrypt merchantId after.sessions after.db = some (shop, token) ∧
      after.subscribed = store.subscribed ++
        if (store.db.merchants.find? (·.shop == shop)).isNone then
          asked merchantId (context.appUrl ++ "/webhooks") subscribedTopics
        else [] := by
  have valid : isValidShopDomain shop = true := by
    cases valid : isValidShopDomain shop with
    | true => rfl
    | false => simp [decodeAndVerifySessionToken, valid] at verified
  let session : ExchangedSession := ⟨offlineSessionId shop, choice.accessToken, choice.scope⟩
  let args : CompleteInstallArgs := ⟨shop, session.accessToken.getD "", session.scope.getD ""⟩
  obtain ⟨install, db, completed, installed, new⟩ := @completeInstall_installs args choice.newId choice.eventId choice.now
    store.db valid fresh unused
  let exchanged : Store := { store with granted := store.granted ++ [⟨shop, idToken, session⟩] }
  have exchange := run_attempt (@run_tokenExchange cipher choice store shop idToken valid)
  have drift := @run_logScopeDrift cipher choice exchanged shop
  have committed := run_attempt (@run_completeInstall cipher choice exchanged args install db completed)
  refine ⟨install.merchantId, settled cipher context session install { exchanged with db }, ?_, installed, ?_, ?_⟩
  · rw [loader_presented normalized presented filled]
    unfold runTokenExchangeBootstrap
    split
    · rename_i error refused
      rw [verified] at refused
      cases refused
    · rw [run_bind_ok _ exchange]
      change run (serve cipher choice) exchanged (logScopeDriftIfAny shop >>= _) = _
      rw [run_bind_ok _ drift, run_bind_ok _ committed]
      exact run_storeAndSubscribe shop request.host session install
  · exact offlineToken_settled sealed installed rfl granted visible
  · rw [settled, new]

/-- The token encryption of the app, with one initialisation vector. -/
def oneIv : Lifecycle.Cipher where
  encrypt := zeroCipher.encrypt toyRuntime firstIv
  decrypt value := (zeroCipher.decrypt toyRuntime value).toOption
  decrypt_encrypt text := by
    rw [Crypto.decrypt_encrypt]
    rfl

def asA1 : Request := ⟨some "A1.myshopify.com", some "jwt", some "aG9zdA"⟩

def appOfA1 : Context := ⟨tokenOfA1, "https://app"⟩

/-- The shop was uninstalled, its settings are gone, and a token from then is left over. -/
def uninstalled : Store where
  db := { merchants := ⟨[{ id := "a", shop := "a1.myshopify.com", uninstalledAt := some 5, tokenRevokedAt := some 5 }], by decide⟩ }
  sessions := ⟨[⟨"offline_a1.myshopify.com", "v1:stale"⟩], by decide⟩

def reinstalling : Choice := { now := 9, newId := "n", eventId := "e", accessToken := some "shpat" }

theorem bootstrap_heals_uninstalled :
    ∃ merchantId after, (loader appOfA1 asA1).run (serve oneIv reinstalling) uninstalled =
        (.ok (redirectToAppRoot "a1.myshopify.com" (some "aG9zdA")), after) ∧
      Installed "a1.myshopify.com" merchantId after.db ∧
      getOfflineToken oneIv.decrypt merchantId after.sessions after.db = some ("a1.myshopify.com", "shpat") ∧
      after.subscribed = [] := by
  have verified : decodeAndVerifySessionToken tokenOfA1 "jwt" "a1.myshopify.com" =
      .ok ⟨some "https://a1.myshopify.com", some "https://a1.myshopify.com/admin"⟩ := rfl
  exact @bootstrap_heals oneIv reinstalling uninstalled appOfA1 asA1 _ _ _ _ (encrypt_ne_empty firstIv) (by decide) rfl (by decide)
    verified rfl (by decide) (by decide) (by decide)

end Healing

section Machine

/-- The request that a pass serves, and the app at that time. -/
structure Visit where
  context : Context
  request : Request

/-- The request is of the shop, with a token that was issued for it. -/
def Visit.For (visit : Visit) (shop idToken : String) : Prop :=
  visit.request.shop.bind normalizeShopDomain = some shop ∧ visit.request.idToken = some idToken ∧
    IssuedFor visit.context.sdk idToken shop

/-- What a pass knows: the session that was granted to it, and the install. -/
structure Known where
  session : Option ExchangedSession := none
  install : Option CompleteInstallResult := none

/-- Calls are about the shop of the request; a session is stored after the install, and webhooks are asked for by a pass
that has found the shop new. -/
def visiting (visit : Visit) : Discipline Call Call.Value String Known where
  allowed known
    | .tokenExchange shop idToken => visit.For shop idToken
    | .loadSession _ => True
    | .completeInstall args => ∃ idToken, visit.For args.shop idToken
    | .storeSession session => known.session = some session ∧ known.install.isSome
    | .subscribe args => ∃ install topic, known.install = some install ∧ install.isNewInstall = true ∧
        args = ⟨install.merchantId, topicHeaderToGraphqlEnum topic, visit.context.appUrl ++ "/webhooks"⟩ ∧ topic ∈ subscribedTopics
  next
    | known, .tokenExchange _ _, .ok session => { known with session := some session }
    | known, .completeInstall _, .ok install => { known with install := some install }
    | known, _, _ => known

variable {visit : Visit} {known : Known}

theorem subscribeAll_visits {merchantId : MerchantId} {topics : List String} {install : CompleteInstallResult}
    (installed : known.install = some install) (new : install.isNewInstall = true) (own : merchantId = install.merchantId)
    (listed : ∀ topic ∈ topics, topic ∈ subscribedTopics) :
    (subscribeAll merchantId (visit.context.appUrl ++ "/webhooks") topics).Obeys (visiting visit) known
      fun reached _ => reached = known := by
  induction topics with
  | nil => exact rfl
  | cons topic rest ih =>
    obtain ⟨first, others⟩ := List.forall_mem_cons.mp listed
    have one : (subscribeOne merchantId topic (visit.context.appUrl ++ "/webhooks")).Obeys (visiting visit) known
        fun reached _ => reached = known := by
      refine (obeys_tryCatch ..).mpr (obeys_perform_bind.mpr ⟨?_, fun _ => rfl, fun _ => rfl⟩)
      exact ⟨install, topic, installed, new, by rw [own], first⟩
    refine (obeys_bind ..).mpr (one.mono ?_)
    rintro reached (error | result) rfl
    · exact rfl
    · refine (obeys_bind ..).mpr ((ih others).mono ?_)
      rintro reached (error | results) rfl <;> exact rfl

theorem storeAndSubscribe_visits {shop : String} {host : Option String} {session : ExchangedSession}
    {install : CompleteInstallResult} (granted : known.session = some session) (installed : known.install = some install) :
    (storeAndSubscribe visit.context shop host session install).Obeys (visiting visit) known fun _ _ => True := by
  unfold storeAndSubscribe attempt
  rw [obeys_bind, obeys_tryCatch]
  refine obeys_perform_bind.mpr ⟨⟨granted, by rw [installed]; rfl⟩, fun _ => trivial, fun _ => ?_⟩
  refine obeys_ite.mpr ⟨fun new => ?_, fun _ => trivial⟩
  rw [obeys_bind, trySubscribeAllWebhooks, obeys_tryCatch, obeys_bind]
  have all := @subscribeAll_visits visit known _ subscribedTopics _ installed new rfl fun _ listed => listed
  refine all.mono ?_
  rintro reached (error | results) rfl
  · trivial
  · exact obeys_ite.mpr ⟨fun _ => trivial, fun _ => trivial⟩

theorem loader_visits : (loader visit.context visit.request).Obeys (visiting visit) {} fun _ _ => True := by
  unfold loader
  split
  · trivial
  rename_i shop normalized
  split
  · trivial
  rename_i idToken presented
  unfold runTokenExchangeBootstrap
  split
  · trivial
  rename_i payload verified
  have given : visit.request.idToken = some idToken := (Option.filter_eq_some_iff.mp presented).1
  have for_ : visit.For shop idToken := ⟨normalized, given, issuedFor_of_verified verified⟩
  have valid : isValidShopDomain shop = true := by
    cases valid : isValidShopDomain shop with
    | true => rfl
    | false => simp [decodeAndVerifySessionToken, valid] at verified
  unfold attempt tokenExchangeForShop
  rw [if_pos valid, obeys_bind, obeys_tryCatch]
  refine obeys_perform_bind.mpr ⟨for_, fun _ => trivial, fun session => ?_⟩
  refine (obeys_bind ..).mpr ?_
  unfold logScopeDriftIfAny
  rw [obeys_tryCatch]
  refine obeys_perform_bind.mpr ⟨trivial, fun _ => ?_, fun _ => ?_⟩
  all_goals
    refine (obeys_bind ..).mpr ((obeys_tryCatch ..).mpr (obeys_perform_bind.mpr ⟨⟨idToken, for_⟩, fun _ => trivial, fun install => ?_⟩))
    exact storeAndSubscribe_visits rfl rfl

/-- A pass is held to nothing but its own discipline. -/
def unheld : Discipline Call Call.Value String Unit where
  allowed _ _ := True
  next _ _ _ := ()

abbrev Pass := Task Visit Call Call.Value String Unit

def pass (visit : Visit) : Pass := ⟨visit, (), do let _ ← loader visit.context visit.request; return⟩

theorem pass_visits (visit : Visit) : (pass visit).script.Obeys (visiting visit) {} fun _ _ => True := by
  refine (obeys_bind ..).mpr (loader_visits.mono fun reached outcome _ => ?_)
  cases outcome <;> trivial

structure World where
  store : Store := {}
  tasks : Pool Pass := []
  visits : List Visit := []    -- all that have come

/-- One step of a bootstrap or of what is around it. -/
inductive Label where
  | arrives (visit : Visit)
  | acts (slot : Nat) (choice : Choice)
  | crashes (slot : Nat)
  | elsewhere (db : Db) (keep : Session → Bool)    -- other components write the database, and delete sessions

def machine (cipher : Lifecycle.Cipher) : Machine World Label where
  step world
    | .arrives visit => some { world with tasks := world.tasks.spawn (pass visit), visits := world.visits ++ [visit] }
    | .acts slot choice =>
      (world.tasks.task? slot).bind fun task =>
        (task.advance unheld (fun store request choice => some (exec cipher store request choice)) world.store choice).map
          fun (store, next) => { world with store, tasks := world.tasks.put slot next }
    | .crashes slot => (world.tasks.task? slot).map fun _ => { world with tasks := world.tasks.clear slot }
    | .elsewhere db keep => some { world with store := { world.store with
        db
        sessions := world.store.sessions.deleteMany fun session => !keep session } }

end Machine

section Invariant

variable (cipher : Lifecycle.Cipher) (past : List World) (world : World)

/-- The merchant has had a row with the shop, in a state of the run. -/
def Had (shop : String) (merchantId : MerchantId) : Prop :=
  ∃ earlier ∈ world :: past, ∃ merchant ∈ earlier.store.db.merchants.rows, merchant.id = merchantId ∧ merchant.shop = shop

/-- Shopify has granted the session for a token that was issued for the shop. -/
def Grants (visit : Visit) (shop : String) (session : ExchangedSession) : Prop :=
  ∃ idToken, visit.For shop idToken ∧ ⟨shop, idToken, session⟩ ∈ world.store.granted ∧ session.id = offlineSessionId shop

/-- What a pass knows is so. -/
structure Knows (visit : Visit) (known : Known) : Prop where
  session : ∀ session, known.session = some session → ∃ shop, Grants world visit shop session
  install : ∀ install, known.install = some install →
    ∃ shop idToken, visit.For shop idToken ∧ Had past world shop install.merchantId

/-- A stored session is one that was granted for its shop, which has had a row before. -/
def Stored (row : Session) : Prop :=
  ∃ visit ∈ world.visits, ∃ shop session merchantId, Grants world visit shop session ∧ row.id = offlineSessionId shop ∧
    row.accessToken = encryptToken cipher session.accessToken ∧ Had past world shop merchantId

/-- A subscription is of a merchant whose shop has bootstrapped, and leads to the app. -/
def Subscribed (args : SubscribeArgs) : Prop :=
  ∃ visit ∈ world.visits, ∃ shop idToken, visit.For shop idToken ∧ Had past world shop args.merchantId ∧
    args.url = visit.context.appUrl ++ "/webhooks" ∧ ∃ topic ∈ subscribedTopics, args.topic = topicHeaderToGraphqlEnum topic

def Sane (task : Pass) : Prop :=
  task.tag ∈ world.visits ∧
    ∃ known, task.script.Obeys (visiting task.tag) known (fun _ _ => True) ∧ Knows past world task.tag known

structure Sound : Prop where
  tasks : world.tasks.Every (Sane past world)
  sessions : ∀ row ∈ world.store.sessions.rows, Stored cipher past world row
  subscribed : ∀ args ∈ world.store.subscribed, Subscribed past world args

end Invariant

section Steps

variable {cipher : Lifecycle.Cipher} {past : List World} {origin world next : World} {label : Label} {visit : Visit}
  {known : Known} {shop : String}

/-- What only grows. -/
structure Later (world next : World) : Prop where
  granted : ∀ grant ∈ world.store.granted, grant ∈ next.store.granted
  visits : ∀ visit ∈ world.visits, visit ∈ next.visits

theorem Had.later {merchantId : MerchantId} (had : Had past world shop merchantId) (next : World) :
    Had (world :: past) next shop merchantId := by
  obtain ⟨earlier, passed, row⟩ := had
  exact ⟨earlier, List.mem_cons_of_mem _ passed, row⟩

theorem Grants.later {session : ExchangedSession} (grants : Grants world visit shop session) (later : Later world next) :
    Grants next visit shop session := by
  obtain ⟨idToken, for_, granted, named⟩ := grants
  exact ⟨idToken, for_, later.granted _ granted, named⟩

theorem Knows.later (knows : Knows past world visit known) (later : Later world next) :
    Knows (world :: past) next visit known where
  session session held := by
    obtain ⟨shop, grants⟩ := knows.session session held
    exact ⟨shop, grants.later later⟩
  install install held := by
    obtain ⟨shop, idToken, for_, had⟩ := knows.install install held
    exact ⟨shop, idToken, for_, had.later next⟩

theorem Sane.later {task : Pass} (sane : Sane past world task) (later : Later world next) :
    Sane (world :: past) next task := by
  obtain ⟨came, known, obeys, knows⟩ := sane
  exact ⟨later.visits _ came, known, obeys, knows.later later⟩

theorem Stored.later {row : Session} (stored : Stored cipher past world row) (later : Later world next) :
    Stored cipher (world :: past) next row := by
  obtain ⟨visit, came, shop, session, merchantId, grants, named, token, had⟩ := stored
  exact ⟨visit, later.visits _ came, shop, session, merchantId, grants.later later, named, token, had.later next⟩

theorem Subscribed.later {args : SubscribeArgs} (subscribed : Subscribed past world args)
    (later : Later world next) : Subscribed (world :: past) next args := by
  obtain ⟨visit, came, shop, idToken, for_, had, rest⟩ := subscribed
  exact ⟨visit, later.visits _ came, shop, idToken, for_, had.later next, rest⟩

theorem mem_storeSession {session row : Session} {sessions : Table Session} (stored : row ∈ (storeSession session sessions).rows) :
    row ∈ sessions.rows ∨ row.id = session.id ∧ row.accessToken = session.accessToken := by
  unfold storeSession at stored
  split at stored
  · rename_i inserted
    rw [(Table.insert?_rows inserted).1] at stored
    rcases List.mem_append.mp stored with old | new
    · exact .inl old
    · cases List.mem_singleton.mp new
      exact .inr ⟨rfl, rfl⟩
  · obtain ⟨old, before, rfl⟩ := List.mem_map.mp stored
    split
    · rename_i named
      exact .inr ⟨beq_iff_eq.mp named, rfl⟩
    · exact .inl before

/-- The row of an install that has gone through. -/
theorem completeInstall_row {args : CompleteInstallArgs} {newId : MerchantId} {eventId : String} {now : Date} {db after : Db}
    {result : CompleteInstallResult} (completed : completeInstall args newId eventId now db = .ok (result, after)) :
    ∃ merchant ∈ after.merchants.rows, merchant.id = result.merchantId ∧ merchant.shop = args.shop := by
  unfold completeInstall at completed
  split at completed
  · cases rows : installRows args newId eventId now db with
    | error error =>
      rw [rows] at completed
      cases completed
    | ok installed =>
      rw [rows] at completed
      cases completed
      obtain ⟨⟨⟨merchantId, isNewInstall⟩, upserted⟩, first, rest⟩ := bind_eq_ok_iff.mp rows
      obtain ⟨created, publishes, done⟩ := bind_eq_ok_iff.mp rest
      cases done
      obtain ⟨_, _, merchant, stored, own, named, _⟩ := upsertInstall_answer first
      refine ⟨merchant, ?_, own, named⟩
      rw [Lifecycle.merchants_publish publishes, Lifecycle.merchants_healSubscription, Lifecycle.merchants_healSettings]
      exact stored
  · cases completed

/-- An install writes the database and nothing else, and answers only with what it has written. -/
theorem exec_completeInstall {args : CompleteInstallArgs} {choice : Choice} {before after : Store}
    {answer : Except String CompleteInstallResult} (executed : exec cipher before (.completeInstall args) choice = (answer, after)) :
    (after = before ∨ ∃ db, after = { before with db }) ∧ ∀ result, answer = .ok result →
      ∃ db, completeInstall args choice.newId choice.eventId choice.now before.db = .ok (result, db) ∧ after = { before with db } := by
  unfold exec at executed
  dsimp only at executed
  generalize completeInstall args choice.newId choice.eventId choice.now before.db = completed at executed ⊢
  match completed, executed with
  | .error _, executed =>
    obtain ⟨rfl, rfl⟩ := Prod.mk.inj executed
    exact ⟨.inl rfl, fun result same => (nomatch same)⟩
  | .ok (written, db), executed =>
    obtain ⟨kept, answered⟩ := Choice.carryOut_cases executed
    refine ⟨kept.imp_right fun same => ⟨db, same⟩, fun result same => ?_⟩
    obtain ⟨rfl, rest⟩ := answered result same
    exact ⟨db, rfl, rest⟩

/-- What a call leaves in the store. -/
structure Called (cipher : Lifecycle.Cipher) (request : Call) (before after : Store) : Prop where
  granted : ∀ grant ∈ before.granted, grant ∈ after.granted
  sessions : ∀ row ∈ after.sessions.rows, row ∈ before.sessions.rows ∨ ∃ session, request = .storeSession session ∧
    row.id = session.id ∧ row.accessToken = encryptToken cipher session.accessToken
  subscribed : ∀ args ∈ after.subscribed, args ∈ before.subscribed ∨ request = .subscribe args

theorem exec_called {request : Call} {choice : Choice} {before after : Store} {answer : Except String request.Value}
    (executed : exec cipher before request choice = (answer, after)) : Called cipher request before after := by
  have same (after : Store) (kept : after = before) : Called cipher request before after := by
    subst kept
    exact ⟨fun _ => id, fun _ => .inl, fun _ => .inl⟩
  cases request with
  | tokenExchange shop sessionToken =>
    rcases (Choice.carryOut_cases executed).1 with kept | rfl
    · exact same after kept
    · exact ⟨fun _ => List.mem_append_left _, fun _ => .inl, fun _ => .inl⟩
  | loadSession id =>
    rcases (Choice.carryOut_cases executed).1 with kept | kept <;> exact same after kept
  | completeInstall args =>
    rcases (exec_completeInstall executed).1 with kept | ⟨db, rfl⟩
    · exact same after kept
    · exact ⟨fun _ => id, fun _ => .inl, fun _ => .inl⟩
  | storeSession session =>
    rcases (Choice.carryOut_cases executed).1 with kept | rfl
    · exact same after kept
    · refine ⟨fun _ => id, fun row stored => ?_, fun _ => .inl⟩
      rcases mem_storeSession stored with old | ⟨named, token⟩
      · exact .inl old
      · exact .inr ⟨session, rfl, named, token⟩
  | subscribe args =>
    rcases (Choice.carryOut_cases executed).1 with kept | rfl
    · exact same after kept
    · refine ⟨fun _ => id, fun _ => .inl, fun other listed => ?_⟩
      rcases List.mem_append.mp listed with old | new
      · exact .inl old
      · cases List.mem_singleton.mp new
        exact .inr rfl

/-- What a pass has learned from an answer. -/
theorem Knows.learns {request : Call} {choice : Choice} {answer : Except String request.Value}
    (knows : Knows (world :: past) next visit known) (allowed : (visiting visit).allowed known request)
    (executed : exec cipher world.store request choice = (answer, next.store)) :
    Knows (world :: past) next visit ((visiting visit).next known request answer) := by
  cases answer with
  | error error =>
    cases request <;> exact knows
  | ok value =>
    cases request with
    | tokenExchange shop sessionToken =>
      obtain ⟨rfl, after⟩ := (Choice.carryOut_cases executed).2 value rfl
      refine ⟨fun session held => ?_, knows.install⟩
      obtain rfl := Option.some.inj held
      refine ⟨shop, sessionToken, allowed, ?_, rfl⟩
      rw [after]
      exact List.mem_append_right _ (List.mem_singleton_self _)
    | completeInstall args =>
      obtain ⟨idToken, for_⟩ := allowed
      obtain ⟨db, completed, after⟩ := (exec_completeInstall executed).2 value rfl
      refine ⟨knows.session, fun install held => ?_⟩
      obtain rfl := Option.some.inj held
      obtain ⟨merchant, stored, own, named⟩ := completeInstall_row completed
      refine ⟨args.shop, idToken, for_, next, List.mem_cons_self, merchant, ?_, own, named⟩
      rw [after]
      exact stored
    | loadSession | storeSession | subscribe => exact knows

/-- A pass makes its next call. -/
theorem Sound.acted {slot : Nat} {choice : Choice} {task after : Pass} {store : Store} (sound : Sound cipher past world)
    (live : world.tasks.task? slot = some task)
    (advanced : task.advance unheld (fun store request choice => some (exec cipher store request choice)) world.store choice =
      some (store, after)) :
    Sound cipher (world :: past) { world with store, tasks := world.tasks.put slot after } := by
  obtain ⟨came, known, obeys, knows⟩ := sound.tasks.get live
  obtain ⟨request, resume, answer, script, executed, same⟩ := Task.advance_cases advanced
  rw [script] at obeys
  obtain ⟨allowed, continues⟩ := obeys
  have executed := Option.some.inj executed
  have called := exec_called executed
  have later : Later world { world with store, tasks := world.tasks.put slot after } := ⟨called.granted, fun _ => id⟩
  have kept := knows.later later
  refine ⟨?_, fun row stored => ?_, fun args listed => ?_⟩
  · have others : world.tasks.Every (Sane (world :: past) { world with store, tasks := world.tasks.put slot after }) :=
      fun other member => (sound.tasks other member).later later
    refine others.put ?_
    subst same
    exact ⟨came, _, continues answer, kept.learns allowed executed⟩
  · rcases called.sessions row stored with old | ⟨session, rfl, named, token⟩
    · exact (sound.sessions row old).later later
    · obtain ⟨granted, installed⟩ := allowed
      obtain ⟨shop, grants⟩ := kept.session session granted
      obtain ⟨install, held⟩ := Option.isSome_iff_exists.mp installed
      obtain ⟨other, idToken, for_, had⟩ := kept.install install held
      have same : other = shop := by
        obtain ⟨_, ⟨normalized, _⟩, _⟩ := grants
        exact Option.some.inj (for_.1.symm.trans normalized)
      subst same
      exact ⟨task.tag, came, other, session, install.merchantId, grants, named.trans grants.choose_spec.2.2, token, had⟩
  · rcases called.subscribed args listed with old | rfl
    · exact (sound.subscribed args old).later later
    · obtain ⟨install, topic, held, _, rfl, named⟩ := allowed
      obtain ⟨shop, idToken, for_, had⟩ := kept.install install held
      exact ⟨task.tag, came, shop, idToken, for_, had, rfl, topic, named, rfl⟩

theorem Sound.step (sound : Sound cipher past world) (stepped : (machine cipher).step world label = some next) :
    Sound cipher (world :: past) next := by
  cases label with
  | arrives visit =>
    cases stepped
    have later : Later world { world with tasks := world.tasks.spawn (pass visit), visits := world.visits ++ [visit] } :=
      ⟨fun _ => id, fun _ => List.mem_append_left _⟩
    refine ⟨?_, fun row stored => (sound.sessions row stored).later later, fun args listed => (sound.subscribed args listed).later later⟩
    have others : world.tasks.Every
        (Sane (world :: past) { world with tasks := world.tasks.spawn (pass visit), visits := world.visits ++ [visit] }) :=
      fun other member => (sound.tasks other member).later later
    refine others.spawn ⟨List.mem_append_right _ (List.mem_singleton_self _), {}, pass_visits visit, ?_⟩
    exact ⟨fun session held => (nomatch held), fun install held => (nomatch held)⟩
  | acts slot choice =>
    obtain ⟨task, live, advanced⟩ := Option.bind_eq_some_iff.mp stepped
    obtain ⟨⟨store, after⟩, moved, rfl⟩ := Option.map_eq_some_iff.mp advanced
    exact sound.acted live moved
  | crashes slot =>
    obtain ⟨task, live, rfl⟩ := Option.map_eq_some_iff.mp stepped
    have later : Later world { world with tasks := world.tasks.clear slot } := ⟨fun _ => id, fun _ => id⟩
    refine ⟨?_, fun row stored => (sound.sessions row stored).later later, fun args listed => (sound.subscribed args listed).later later⟩
    have others : world.tasks.Every (Sane (world :: past) { world with tasks := world.tasks.clear slot }) :=
      fun other member => (sound.tasks other member).later later
    exact others.clear
  | elsewhere db keep =>
    cases stepped
    have later := (⟨fun _ => id, fun _ => id⟩ : Later world { world with store := { world.store with
      db
      sessions := world.store.sessions.deleteMany fun session => !keep session } })
    refine ⟨fun task member => (sound.tasks task member).later later, fun row stored => ?_,
      fun args listed => (sound.subscribed args listed).later later⟩
    exact (sound.sessions row (List.mem_of_mem_filter stored)).later later

/-- Bootstraps of any shops, interleaved in any way, with calls that fail or whose answers are lost, with crashes and with
other writers of the database: a stored session is always one that Shopify has granted for a token issued for the very
shop of its id, and by then a state of this run has had a merchant row with the shop; and Shopify is asked for the
webhooks of such a merchant only, for topics that the app takes, at the app's own address. -/
theorem stored_sessions_granted (idle : origin.tasks = []) (none : origin.store.sessions.rows = [])
    (silent : origin.store.subscribed = []) (run : (machine cipher).Passed (fun _ _ => True) origin past world) :
    (∀ row ∈ world.store.sessions.rows, Stored cipher past world row) ∧
      ∀ args ∈ world.store.subscribed, Subscribed past world args := by
  have start : Sound cipher [] origin := by
    refine ⟨fun task member => ?_, fun row stored => ?_, fun args listed => ?_⟩
    · rw [idle] at member
      cases member
    · rw [none] at stored
      cases stored
    · rw [silent] at listed
      cases listed
  have sound : Sound cipher past world := by
    induction run with
    | origin => exact start
    | step earlier _ moved sound => exact sound.step moved
  exact ⟨sound.sessions, sound.subscribed⟩

/-- A shop is bootstrapped to the end of its install, and its session is stored. -/
def firstVisit : List Label :=
  .arrives ⟨appOfA1, asA1⟩ :: List.replicate 4 (.acts 0 reinstalling)

theorem firstVisit_runs : ((machine oneIv).runWhere (fun _ _ => true) {} firstVisit).isSome = true := by decide

theorem stored_sessions_granted_first :
    let world := ((machine oneIv).runWhere (fun _ _ => true) {} firstVisit).get firstVisit_runs
    world.store.sessions.rows.length = 1 ∧
      ∃ past, (machine oneIv).Passed (fun _ _ => True) {} past world ∧
        ∀ row ∈ world.store.sessions.rows, Stored oneIv past world row := by
  obtain ⟨past, passed⟩ := ((Machine.reach_get firstVisit_runs).mono fun _ _ _ => trivial).passed
  exact ⟨by decide, past, passed, (stored_sessions_granted rfl rfl rfl passed).1⟩

end Steps

end WinBack.Web.Bootstrap
