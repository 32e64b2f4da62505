import Mathlib.Data.List.Infix
import WinBack.Customer.Repository
import WinBack.Library.Fallible
import WinBack.Webhook.Ingest

/-! The session token of an admin request: it is verified against the shop that the request names, and nothing of a
merchant is read before. -/

namespace WinBack.Web

open Library Webhook

section Token

/-- The claims that the app looks at; `none` is a claim that is no text. -/
structure JwtPayload where
  dest : Option String
  iss : Option String
  deriving DecidableEq, Repr

/-- What the SDK throws: its own error for a token it refuses, or any other. -/
inductive DecodeError where
  | invalidJwt (message : String)
  | unexpected (message : String)
  deriving DecidableEq, Repr

/-- `api.session.decodeSessionToken` checks signature, expiry and audience; `hostname` is of the runtime's `URL`, which
throws on what is none. -/
structure Sdk where
  decodeSessionToken : String → Except DecodeError JwtPayload
  hostname : String → Option String

inductive SessionTokenErrorReason where
  | invalidJwt | wrongAudience | wrongDest | wrongIssuer | missingClaim
  deriving DecidableEq, Repr

def SessionTokenErrorReason.text : SessionTokenErrorReason → String
  | .invalidJwt => "invalid_jwt"
  | .wrongAudience => "wrong_audience"
  | .wrongDest => "wrong_dest"
  | .wrongIssuer => "wrong_issuer"
  | .missingClaim => "missing_claim"

structure ShopifySessionTokenError where
  reason : SessionTokenErrorReason
  message : String
  deriving DecidableEq, Repr

def toLowerCase (text : String) : String := .ofList (text.toList.map Char.toLower)

def decodeFailure : DecodeError → ShopifySessionTokenError
  | .invalidJwt message =>
    ⟨if "invalid API key".toList <:+: message.toList then .wrongAudience else .invalidJwt, message⟩
  | .unexpected message => ⟨.invalidJwt, s!"Session-token verification threw unexpectedly: {message}"⟩

/-- A claim that is there and not empty. -/
def requiredClaim (name : String) (claim : Option String) : Except ShopifySessionTokenError String :=
  match claim with
  | some value => if value = "" then .error ⟨.missingClaim, missing⟩ else .ok value
  | none => .error ⟨.missingClaim, missing⟩
where
  missing := "Session token missing required \x60" ++ name ++ "\x60 claim"

variable (sdk : Sdk)

def decodeAndVerifySessionToken (token expectedShop : String) : Except ShopifySessionTokenError JwtPayload :=
  if !isValidShopDomain expectedShop then
    .error ⟨.wrongDest, s!"Expected shop is not a valid Shopify shop domain: {expectedShop}"⟩
  else do
    let payload ← (sdk.decodeSessionToken token).mapError decodeFailure
    let dest ← requiredClaim "dest" payload.dest
    let iss ← requiredClaim "iss" payload.iss
    match sdk.hostname dest with
    | none => .error ⟨.wrongDest, "Session token \x60dest\x60 is not a valid URL: " ++ dest⟩
    | some destShop =>
      if toLowerCase destShop ≠ toLowerCase expectedShop then
        .error ⟨.wrongDest,
          s!"Session token issued for {destShop} but presented for {expectedShop} (cross-shop replay attempt)"⟩
      else
        match sdk.hostname iss with
        | none => .error ⟨.wrongIssuer, "Session token \x60iss\x60 is not a valid URL: " ++ iss⟩
        | some issShop =>
          if toLowerCase issShop ≠ toLowerCase expectedShop then
            .error ⟨.wrongIssuer, "Session token \x60iss\x60 shop " ++ issShop ++ s!" does not match expected {expectedShop}"⟩
          else .ok payload

/-- The token is genuine and was issued for the shop and by it. -/
structure IssuedFor (token shop : String) : Prop where
  issued : ∃ payload dest iss destShop issShop, sdk.decodeSessionToken token = .ok payload ∧
    payload.dest = some dest ∧ payload.iss = some iss ∧ sdk.hostname dest = some destShop ∧ sdk.hostname iss = some issShop ∧
      toLowerCase destShop = toLowerCase shop ∧ toLowerCase issShop = toLowerCase shop

variable {sdk} {token shop name value : String} {claim : Option String} {payload : JwtPayload}

theorem requiredClaim_ok (given : requiredClaim name claim = .ok value) : claim = some value := by
  unfold requiredClaim at given
  split at given
  · split at given
    · cases given
    · cases given
      rfl
  · cases given

theorem issuedFor_of_verified (verified : decodeAndVerifySessionToken sdk token shop = .ok payload) : IssuedFor sdk token shop := by
  unfold decodeAndVerifySessionToken at verified
  split at verified
  · cases verified
  obtain ⟨payload, decoded, verified⟩ := bind_eq_ok_iff.mp verified
  obtain ⟨dest, sent, verified⟩ := bind_eq_ok_iff.mp verified
  obtain ⟨iss, issuer, verified⟩ := bind_eq_ok_iff.mp verified
  split at verified
  · cases verified
  rename_i destShop destHost
  split at verified
  · cases verified
  rename_i destSame
  split at verified
  · cases verified
  rename_i issShop issHost
  split at verified
  · cases verified
  rename_i issSame
  refine ⟨payload, dest, iss, destShop, issShop, ?_, requiredClaim_ok sent, requiredClaim_ok issuer, destHost, issHost,
    of_not_not destSame, of_not_not issSame⟩
  cases answer : sdk.decodeSessionToken token with
  | error error =>
    rw [answer] at decoded
    cases decoded
  | ok given =>
    rw [answer] at decoded
    cases decoded
    rfl

/-- A token is good for one shop. -/
theorem IssuedFor.unique {other : String} (first : IssuedFor sdk token shop) (second : IssuedFor sdk token other) :
    toLowerCase shop = toLowerCase other := by
  obtain ⟨payload, dest, iss, destShop, issShop, decoded, sent, _, host, _, same, _⟩ := first
  obtain ⟨payload', dest', iss', destShop', issShop', decoded', sent', _, host', _, same', _⟩ := second
  obtain rfl := Except.ok.inj (decoded.symm.trans decoded')
  obtain rfl := Option.some.inj (sent.symm.trans sent')
  obtain rfl := Option.some.inj (host.symm.trans host')
  exact same.symm.trans same'

end Token

section Request

/-- The headers and the query parameters that the loaders read. -/
structure AdminRequest where
  authorization : Option String := none
  shop : Option String := none
  host : Option String := none
  idToken : Option String := none
  state : Option String := none
  deriving DecidableEq, Repr

/-- A response. A redirect is a path with its query parameters. -/
inductive Response where
  | text (status : Nat) (body : String)
  | json (status : Nat) (body : List (String × String))
  | redirect (path : String) (params : List (String × String))
  deriving DecidableEq, Repr

def bearerPrefix : String := "Bearer "

/-- The token of a `Bearer` header, unless it is empty. -/
def bearer? (authorization : Option String) : Option String :=
  authorization.bind fun header =>
    if bearerPrefix.toList <+: header.toList then
      let bearer := trim (header.toList.drop bearerPrefix.length)
      if bearer = [] then none else some (.ofList bearer)
    else none

/-- A header with a token hides the query. -/
def AdminRequest.sessionToken (request : AdminRequest) : Option String :=
  (bearer? request.authorization).or (request.idToken.filter (· ≠ ""))

/-- What `requireAdminAuth` says before it looks for the merchant: the shop and the verified token. -/
def verifiedShop (sdk : Sdk) (request : AdminRequest) : Except Response (String × String) :=
  match request.shop.bind normalizeShopDomain with
  | none => .error (.text 400 "Missing shop")
  | some shop =>
    match request.sessionToken with
    | none => .error (.json 401 [("error", "session_token_required"), ("reason", "no_token")])
    | some token =>
      match decodeAndVerifySessionToken sdk token shop with
      | .error error => .error (.json 401 [("error", "session_token_invalid"), ("reason", error.reason.text)])
      | .ok _ => .ok (shop, token)

theorem verifiedShop_ok {sdk : Sdk} {request : AdminRequest} {shop token : String}
    (verified : verifiedShop sdk request = .ok (shop, token)) :
    request.shop.bind normalizeShopDomain = some shop ∧ request.sessionToken = some token ∧ IssuedFor sdk token shop := by
  unfold verifiedShop at verified
  split at verified
  · cases verified
  rename_i named
  split at verified
  · cases verified
  rename_i presented
  split at verified
  · cases verified
  rename_i decoded
  cases verified
  exact ⟨named, presented, issuedFor_of_verified decoded⟩

/-- The token of shop `a1`. -/
def tokenOfA1 : Sdk where
  decodeSessionToken token :=
    if token = "jwt" then .ok ⟨some "https://a1.myshopify.com", some "https://a1.myshopify.com/admin"⟩
    else .error (.invalidJwt "refused")
  hostname url := if url.toList.take 12 = "https://a1.m".toList then some "a1.myshopify.com" else none

end Request

end WinBack.Web
