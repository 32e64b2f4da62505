import WinBack.Webhook.Ingest

/-! The rows an install writes, and the three writers of the lifecycle columns of a merchant. -/

namespace WinBack

open Library

/-- The token is encrypted. -/
structure Session where
  id : String
  accessToken : String
  deriving DecidableEq, Repr

instance : Indexed Session := .ofKey Session.id

/-- `offline_${shop}`. -/
def offlineSessionId (shop : String) : String := "offline_" ++ shop

/-- `SessionStorage.storeSession`: the last write wins. -/
def storeSession (session : Session) (sessions : Table Session) : Table Session :=
  match sessions.insert? session with
  | some sessions => sessions
  | none => sessions.updateMany (·.id == session.id) (fun row => { row with accessToken := session.accessToken })
    fun _ => rfl

namespace MerchantRepository

/-- The answer is the id and whether the shop is new. -/
def upsertInstall (shop : String) (newId : MerchantId) (db : Db) : Except RepositoryError ((MerchantId × Bool) × Db) :=
  match db.merchants.find? (·.shop == shop) with
  | some existing => .ok ((existing.id, false), { db with
      merchants := db.merchants.updateMany (·.shop == shop)
        (fun row => { row with tokenRevokedAt := none, uninstalledAt := none }) fun _ => rfl })
  | none =>
    match db.merchants.insert? { id := newId, shop } with
    | none => .error .uniqueConstraint
    | some merchants => .ok ((newId, true), { db with merchants })

/-- `where: { id, uninstalledAt: null }`. -/
def installed (merchantId : MerchantId) (row : Merchant) : Bool := row.id == merchantId && row.uninstalledAt.isNone

/-- With the number of rows it matched. -/
def markUninstalled (merchantId : MerchantId) (now : Date) (db : Db) : Nat × Db :=
  (db.merchants.count (installed merchantId), { db with
    merchants := db.merchants.updateMany (installed merchantId)
      (fun row => { row with uninstalledAt := some now }) fun _ => rfl })

end MerchantRepository

namespace Shopify

structure CompleteInstallArgs where
  shop : String
  accessToken : String
  scope : String
  deriving DecidableEq, Repr

structure CompleteInstallResult where
  merchantId : MerchantId
  isNewInstall : Bool
  deriving DecidableEq, Repr

inductive InstallError where
  | invalidShop (shop : String)
  | repository (error : RepositoryError)
  deriving DecidableEq, Repr

def installedPayload (args : CompleteInstallArgs) (isNewInstall : Bool) : Json :=
  .obj [("shop", .str args.shop), ("scope", .str args.scope), ("reinstall", .bool !isNewInstall)]

def createEvent (merchantId : MerchantId) (type : OutboxEventType) (payload : Json) (id : String) (now : Date) (db : Db) :
    Except RepositoryError Db :=
  Webhook.publish (some { id, merchantId, type := type.text, payload, createdAt := now }) db

/-- Create if missing. -/
def healSettings (merchantId : MerchantId) (db : Db) : Db :=
  match db.merchantSettings.insert? { merchantId } with
  | none => db
  | some merchantSettings => { db with merchantSettings }

def healSubscription (merchantId : MerchantId) (db : Db) : Db :=
  match db.billingSubscriptions.insert? { merchantId, status := .trialing } with
  | none => db
  | some billingSubscriptions => { db with billingSubscriptions }

/-- The transaction of an install, with the ids of a new merchant and of the event. -/
def installRows (args : CompleteInstallArgs) (newId : MerchantId) (eventId : String) (now : Date) (db : Db) :
    Except RepositoryError (CompleteInstallResult × Db) := do
  let ((merchantId, isNewInstall), db) ← MerchantRepository.upsertInstall args.shop newId db
  let healed := healSubscription merchantId (healSettings merchantId db)
  let db ← createEvent merchantId .merchantInstalled (installedPayload args isNewInstall) eventId now healed
  return (⟨merchantId, isNewInstall⟩, db)

def completeInstall (args : CompleteInstallArgs) (newId : MerchantId) (eventId : String) (now : Date) (db : Db) :
    Except InstallError (CompleteInstallResult × Db) :=
  if Webhook.isValidShopDomain args.shop then (installRows args newId eventId now db).mapError .repository
  else .error (.invalidShop args.shop)

/-- `null` unless there is a merchant whose token is not revoked, with a session that decrypts. -/
def getOfflineToken (decrypt : String → Option String) (merchantId : MerchantId) (sessions : Table Session) (db : Db) :
    Option (String × String) := do
  let merchant ← db.merchants.find? (·.id == merchantId)
  guard merchant.tokenRevokedAt.isNone
  let session ← sessions.find? (·.id == offlineSessionId merchant.shop)
  guard (session.accessToken ≠ "")
  let accessToken ← decrypt session.accessToken
  return (merchant.shop, accessToken)

def markTokenRevoked (merchantId : MerchantId) (eventId : String) (now : Date) (db : Db) : Except RepositoryError Db :=
  if db.merchants.any (·.id == merchantId) then
    createEvent merchantId .merchantNeedsReauth (.obj [("reason", .str "token_revoked_401")]) eventId now { db with
      merchants := db.merchants.updateMany (·.id == merchantId) (fun row => { row with tokenRevokedAt := some now })
        fun _ => rfl }
  else .error .recordNotFound

/-- `handleMerchantUninstalled`, with the rows it updated. -/
def handleMerchantUninstalled (row : OutboxEvent) (now : Date) (db : Db) : Nat × Db :=
  MerchantRepository.markUninstalled row.merchantId now db

end Shopify

end WinBack
