import Mathlib.Data.List.Infix
import Mathlib.Tactic.Common

/-! The e-mail provider boundary: what an SES call can come back with, how
`mapSesError` types it, and which outcomes leave the acceptance of the message
open. -/

namespace WinBack

inductive EmailProviderErrorCode where
  | rateLimit | transient | auth | invalidRequest | accountSuspended | recipientSuppressed
  deriving DecidableEq, Repr

namespace EmailProviderErrorCode

/-- The persisted code string. -/
def text : EmailProviderErrorCode → String
  | rateLimit => "email_rate_limit"
  | transient => "email_transient"
  | auth => "email_auth"
  | invalidRequest => "email_invalid_request"
  | accountSuspended => "email_account_suspended"
  | recipientSuppressed => "email_recipient_suppressed"

def retryable : EmailProviderErrorCode → Bool
  | rateLimit | transient => true
  | auth | invalidRequest | accountSuspended | recipientSuppressed => false

end EmailProviderErrorCode

/-- A typed provider error: its class is its code. -/
structure EmailProviderError where
  code : EmailProviderErrorCode
  message : String
  deriving DecidableEq, Repr

def EmailProviderError.retryable (error : EmailProviderError) : Bool := error.code.retryable

structure EmailSendArgs where
  sender : String
  recipient : String
  subject : String
  html : String
  text : Option String := none
  correlationId : String
  configurationSetName : Option String := none
  deriving DecidableEq, Repr

structure EmailSendAccepted where
  providerMessageId : String
  deriving DecidableEq, Repr

/-- The SESv2 exception classes the mapper tells apart; `other` is every other throw. -/
inductive SdkErrorClass where
  | tooManyRequests | accountSuspended | sendingPaused | mailFromDomainNotVerified
  | messageRejected | badRequest | other
  deriving DecidableEq, Repr

structure SdkError where
  errorClass : SdkErrorClass
  name : String := ""
  message : String := ""
  httpStatusCode : Option Nat := none
  deriving DecidableEq, Repr

/-- What `client.send` comes back with: a response, whose `MessageId` the SDK
types as optional, or a throw. -/
inductive SdkOutcome where
  | response (messageId : Option String)
  | thrown (error : SdkError)
  deriving DecidableEq, Repr

namespace AmazonSesProvider

/-- `needle` occurs in `text` up to ASCII case, as the `i` flag compares it. -/
def mentions (needle text : String) : Bool :=
  decide (needle.toList <:+: text.toList.map Char.toLower)

/-- `/blacklist|suppressed|suppression/i`. -/
def namesSuppression (text : String) : Bool :=
  mentions "blacklist" text || mentions "suppressed" text || mentions "suppression" text

def mapSesError (error : SdkError) : EmailProviderError :=
  match error.errorClass with
  | .tooManyRequests => ⟨.rateLimit, s!"SES rate limit: {error.message}"⟩
  | .accountSuspended | .sendingPaused | .mailFromDomainNotVerified =>
    ⟨.accountSuspended, s!"SES account-level failure ({error.name}): {error.message}"⟩
  | .messageRejected =>
    if namesSuppression error.message then
      ⟨.recipientSuppressed, s!"SES recipient suppressed: {error.message}"⟩
    else ⟨.invalidRequest, s!"SES message rejected: {error.message}"⟩
  | .badRequest => ⟨.invalidRequest, s!"SES bad request: {error.message}"⟩
  | .other =>
    match error.httpStatusCode with
    | none => ⟨.transient, s!"SES transport/unknown error: {error.message}"⟩
    | some status =>
      if status = 401 ∨ status = 403 then ⟨.auth, s!"SES auth failed ({status}): {error.message}"⟩
      else if status = 429 then ⟨.rateLimit, s!"SES rate limit ({status}): {error.message}"⟩
      else if 500 ≤ status ∧ status < 600 then
        ⟨.transient, s!"SES server error ({status}): {error.message}"⟩
      else if 400 ≤ status ∧ status < 500 then
        ⟨.invalidRequest, s!"SES unmapped 4xx ({status}): {error.message}"⟩
      else ⟨.transient, s!"SES transport/unknown error: {error.message}"⟩

/-- `AmazonSesProvider.send` after the SDK call has come back. -/
def send (outcome : SdkOutcome) : Except EmailProviderError EmailSendAccepted :=
  match outcome with
  | .thrown error => .error (mapSesError error)
  | .response none => .error ⟨.transient, "SES SendEmail returned 200 with no MessageId"⟩
  | .response (some messageId) =>
    if messageId = "" then .error ⟨.transient, "SES SendEmail returned 200 with no MessageId"⟩
    else .ok ⟨messageId⟩

end AmazonSesProvider

/-- SES answered with a message id: the message is accepted and acknowledged. -/
def SdkOutcome.acknowledged : SdkOutcome → Bool
  | .response (some messageId) => messageId != ""
  | _ => false

/-- SES answered with a typed rejection or a 4xx: the message is not accepted. -/
def SdkError.rejects (error : SdkError) : Bool :=
  error.errorClass != .other || error.httpStatusCode.any fun status => 400 ≤ status && status < 500

/-- No usable acknowledgement and no rejection either: a success response without
a message id, a timeout or connection error, a 5xx or an unrecognised error. -/
def SdkOutcome.unacknowledged : SdkOutcome → Bool
  | .response (some messageId) => messageId == ""
  | .response none => true
  | .thrown error => !error.rejects

namespace AmazonSesProvider

theorem send_ok_iff (outcome : SdkOutcome) :
    (∃ accepted, send outcome = .ok accepted) ↔ outcome.acknowledged = true := by
  unfold send SdkOutcome.acknowledged
  split
  · simp
  · simp
  · split <;> simp_all

/-- The mapper reads exactly the unacknowledged outcomes as transient, so the
retryable flag cannot tell a lost acknowledgement from a clean failure. -/
theorem send_transient_iff (outcome : SdkOutcome) :
    (∃ error, send outcome = .error error ∧ error.code = .transient) ↔
      outcome.unacknowledged = true := by
  cases outcome with
  | response messageId =>
    cases messageId with
    | none => simp [send, SdkOutcome.unacknowledged]
    | some messageId =>
      simp only [send, SdkOutcome.unacknowledged]
      split <;> simp_all
  | thrown error =>
    obtain ⟨errorClass, name, message, status⟩ := error
    simp only [send, SdkOutcome.unacknowledged, SdkError.rejects, mapSesError]
    cases errorClass with
    | tooManyRequests | accountSuspended | sendingPaused | mailFromDomainNotVerified | badRequest =>
      simp
    | messageRejected => by_cases suppressed : namesSuppression message = true <;> simp [suppressed]
    | other =>
      cases status with
      | none => simp
      | some status =>
        dsimp only
        split
        · rename_i denied
          rcases denied with rfl | rfl <;> simp
        · split
          · simp_all
          · split
            · simp_all
            · split
              · simp_all
              · simp_all
                omega

end AmazonSesProvider

end WinBack
