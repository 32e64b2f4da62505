import WinBack.Customer.Repository
import WinBack.Generation.Worker

/-! The three language-model providers: what each makes of an answer of its SDK and of an error that the SDK throws.
The SDK clients are parameters. -/

namespace WinBack.Generation

/-- `text.trim() === ''`. -/
def Blank (text : String) : Prop := trim text.toList = []

instance (text : String) : Decidable (Blank text) := inferInstanceAs (Decidable (trim text.toList = []))

/-- What the SDKs keep of an HTTP failure. -/
structure ApiError where
  status : Option Int
  message : String
  code : Option String := none            -- `err.code`
  errorCode : Option String := none       -- `err.error?.code`
  errorType : Option String := none       -- `err.error?.type`
  innerType : Option String := none       -- `err.error?.error?.type`
  innerMessage : Option String := none    -- `err.error?.error?.message`
  deriving DecidableEq, Repr

/-- What an SDK throws; `api` where it is an instance of the SDK's `APIError`. The connection errors of the SDKs are
derived from that class, and have no status. -/
structure SdkError where
  api : Option ApiError := none
  connection : Bool := false    -- an instance of one of the connection errors
  message : String := ""        -- of an `Error`, else the thrown value as a string
  shown : String := ""          -- `String(err)`
  derived : connection = true → ∃ e, api = some e ∧ e.status = none := by simp
  deriving DecidableEq, Repr

structure ChatMessage where
  role : String
  content : String
  deriving DecidableEq, Repr

structure ChatCompletionCreateParams where
  model : String
  messages : List ChatMessage
  maxTokens : Int
  temperature : Rat
  deriving DecidableEq, Repr

structure ChatChoice where
  finishReason : String
  content : Option String
  deriving DecidableEq, Repr

structure CompletionUsage where
  promptTokens : Int
  completionTokens : Int
  totalTokens : Int
  deriving DecidableEq, Repr

structure ChatCompletion where
  choices : List ChatChoice
  usage : Option CompletionUsage
  deriving DecidableEq, Repr

structure MessageCreateParams where
  model : String
  maxTokens : Int
  temperature : Rat
  system : String
  messages : List ChatMessage
  deriving DecidableEq, Repr

inductive ContentBlock where
  | text (text : String)
  | other (type : String)
  deriving DecidableEq, Repr

structure AnthropicMessage where
  stopReason : Option String
  content : List ContentBlock
  inputTokens : Int
  outputTokens : Int
  deriving DecidableEq, Repr

section Errors

/-- Two words with nothing, an underscore or a blank between them, in any case. -/
def testsTerm (text : String) (first second : String) : Bool :=
  ["", "_", " "].any fun between => includesToken (first ++ between ++ second) text.toLower

def AiProviderErrorCode.throw {α : Type} (code : AiProviderErrorCode) (message : String) : Except AiProviderError α :=
  .error ⟨code, message⟩

def statusText (status : Option Int) : String := (status.map toString).getD "no-status"

/-- The mappers route by status and differ in what they take for a policy block among the bad requests. -/
def mapSdkError (vendor : String) (policyHit : ApiError → Bool) (err : SdkError) : AiProviderError :=
  match err.api with
  | some e =>
    if e.status = some 401 ∨ e.status = some 403 then
      ⟨.auth, s!"{vendor} auth failed ({e.status.getD 0}): {e.message}"⟩
    else if e.status = some 429 then
      ⟨.rateLimit, s!"{vendor} rate limit ({e.status.getD 0}): {e.message}"⟩
    else if e.status = some 400 then
      if policyHit e then ⟨.contentBlocked, s!"{vendor} content-policy block: {e.message}"⟩
      else ⟨.invalidRequest, s!"{vendor} invalid request ({e.status.getD 0}): {e.message}"⟩
    else if e.status.any fun status => 500 ≤ status && status < 600 then
      ⟨.transient, s!"{vendor} server error ({e.status.getD 0}): {e.message}"⟩
    else ⟨.invalidRequest, s!"{vendor} unmapped error ({statusText e.status}): {e.message}"⟩
  | none =>
    -- no error gets here: the class of the connection errors is asked for after the one it is derived from
    if err.connection then ⟨.transient, s!"{vendor} transport error: {err.shown}"⟩
    else ⟨.invalidRequest, s!"{vendor} unexpected error: {err.message}"⟩

/-- The first of the three codes that is there. -/
def ApiError.codeStr (e : ApiError) : String := ((e.code <|> e.errorCode) <|> e.errorType).getD ""

def openAiPolicyHit (e : ApiError) : Bool :=
  [e.message, e.codeStr].any fun text =>
    testsTerm text "content" "policy" || testsTerm text "policy" "violation" || testsTerm text "content" "filter"

def anthropicPolicyHit (e : ApiError) : Bool :=
  [e.message, e.innerType.getD "", e.innerMessage.getD ""].any fun text =>
    testsTerm text "content" "policy" || testsTerm text "policy" "violation" || includesToken "refusal" text.toLower

def mapOpenAiError : SdkError → AiProviderError := mapSdkError "OpenAI" openAiPolicyHit

def mapAnthropicError : SdkError → AiProviderError := mapSdkError "Anthropic" anthropicPolicyHit

/-- A bad request is never taken for a policy block. -/
def mapDeepSeekError : SdkError → AiProviderError := mapSdkError "DeepSeek" fun _ => false

end Errors

section Generate

/-- The clients of the two SDKs. -/
structure Clients where
  chatCompletions : ChatCompletionCreateParams → Except SdkError ChatCompletion
  messages : MessageCreateParams → Except SdkError AnthropicMessage

def chatParams (args : AiGenerateArgs) : ChatCompletionCreateParams where
  model := args.model
  messages := [⟨"system", args.systemPrompt⟩, ⟨"user", args.userPrompt⟩]
  maxTokens := args.maxTokens
  temperature := args.temperature

def messageParams (args : AiGenerateArgs) : MessageCreateParams where
  model := args.model
  maxTokens := args.maxTokens
  temperature := args.temperature
  system := args.systemPrompt
  messages := [⟨"user", args.userPrompt⟩]

/-- The result of a chat completion with a text. -/
def chatResult (content : String) (latencyMs : Int) (usage : CompletionUsage) : AiGenerateResult where
  content
  inputTokens := usage.promptTokens
  outputTokens := usage.completionTokens
  totalTokens := usage.totalTokens
  latencyMs

/-- Empty content is a failure that may pass. -/
def OpenAiProvider.generate (clients : Clients) (latencyMs : Int) (args : AiGenerateArgs) :
    Except AiProviderError AiGenerateResult :=
  match clients.chatCompletions (chatParams args) with
  | .error err => .error (mapOpenAiError err)
  | .ok response =>
    match response.choices.head? with
    | none => AiProviderErrorCode.contentBlocked.throw "OpenAI moderation blocked the response (finish_reason=content_filter)."
    | some choice =>
      if choice.finishReason = "content_filter" then
        AiProviderErrorCode.contentBlocked.throw "OpenAI moderation blocked the response (finish_reason=content_filter)."
      else
        match choice.content with
        | none =>
          AiProviderErrorCode.transient.throw "OpenAI returned an empty response with no error or content_filter signal."
        | some content =>
          if Blank content then
            AiProviderErrorCode.transient.throw "OpenAI returned an empty response with no error or content_filter signal."
          else
            match response.usage with
            | none => AiProviderErrorCode.transient.throw "OpenAI response missing usage block; cannot account for spend."
            | some usage => .ok (chatResult content latencyMs usage)

/-- Empty content is a silent block, and only an answer without any choice may pass. -/
def DeepSeekProvider.generate (clients : Clients) (latencyMs : Int) (args : AiGenerateArgs) :
    Except AiProviderError AiGenerateResult :=
  match clients.chatCompletions (chatParams args) with
  | .error err => .error (mapDeepSeekError err)
  | .ok response =>
    match response.choices.head? with
    | none => AiProviderErrorCode.transient.throw "DeepSeek returned no choices in response."
    | some choice =>
      if choice.finishReason = "content_filter" then
        AiProviderErrorCode.contentBlocked.throw "DeepSeek moderation blocked the response (finish_reason=content_filter)."
      else
        match choice.content with
        | none => AiProviderErrorCode.contentBlocked.throw "DeepSeek returned empty content; treating as silent content block."
        | some content =>
          if Blank content then
            AiProviderErrorCode.contentBlocked.throw "DeepSeek returned empty content; treating as silent content block."
          else
            match response.usage with
            | none => AiProviderErrorCode.transient.throw "DeepSeek response missing usage block; cannot account for spend."
            | some usage => .ok (chatResult content latencyMs usage)

def AnthropicProvider.generate (clients : Clients) (latencyMs : Int) (args : AiGenerateArgs) :
    Except AiProviderError AiGenerateResult :=
  match clients.messages (messageParams args) with
  | .error err => .error (mapAnthropicError err)
  | .ok response =>
    if response.stopReason = some "refusal" then
      AiProviderErrorCode.contentBlocked.throw "Anthropic refused to respond (stop_reason=refusal)."
    else
      match response.content.head? with
      | none =>
        AiProviderErrorCode.contentBlocked.throw "Anthropic returned an empty content array; treating as content block."
      | some (.other type) =>
        AiProviderErrorCode.contentBlocked.throw
          s!"Anthropic returned non-text content block (type={type}); treating as content block."
      | some (.text content) =>
        if Blank content then
          AiProviderErrorCode.contentBlocked.throw
            "Anthropic returned an empty text block; treating as silent content block."
        else .ok {
          content
          inputTokens := response.inputTokens
          outputTokens := response.outputTokens
          totalTokens := response.inputTokens + response.outputTokens
          latencyMs }

/-- The provider of the configuration. -/
def constructForProvider : AiProviderName → Clients → Int → AiGenerateArgs → Except AiProviderError AiGenerateResult
  | .openai => OpenAiProvider.generate
  | .anthropic => AnthropicProvider.generate
  | .deepseek => DeepSeekProvider.generate

end Generate

section Outages

/-- Too many requests, or a server's failure. -/
def SdkError.Transient (err : SdkError) : Prop :=
  ∃ e status, err.api = some e ∧ e.status = some status ∧ (status = 429 ∨ 500 ≤ status ∧ status < 600)

/-- An answer that has come and may be better the next time. -/
def ChatCompletion.Lacking : AiProviderName → ChatCompletion → Prop
  | .openai, response => ∃ choice, response.choices.head? = some choice ∧ choice.finishReason ≠ "content_filter" ∧
      ((∀ content, choice.content = some content → Blank content) ∨ response.usage = none)
  | .deepseek, response => response.choices = [] ∨
      ∃ choice content, response.choices.head? = some choice ∧ choice.finishReason ≠ "content_filter" ∧
        choice.content = some content ∧ ¬Blank content ∧ response.usage = none
  | .anthropic, _ => False

/-- The provider is out of order for the time being. -/
def Clients.Outage (clients : Clients) (provider : AiProviderName) (args : AiGenerateArgs) : Prop :=
  match provider with
  | .anthropic => ∃ err, clients.messages (messageParams args) = .error err ∧ err.Transient
  | _ => (∃ err, clients.chatCompletions (chatParams args) = .error err ∧ err.Transient) ∨
      ∃ response, clients.chatCompletions (chatParams args) = .ok response ∧ response.Lacking provider

/-- The provider answers with a text, and says what it has cost. -/
def Clients.Answers (clients : Clients) (provider : AiProviderName) (args : AiGenerateArgs) : Prop :=
  match provider with
  | .anthropic => ∃ response content rest, clients.messages (messageParams args) = .ok response ∧
      response.stopReason ≠ some "refusal" ∧ response.content = .text content :: rest ∧ ¬Blank content
  | _ => ∃ response choice content usage, clients.chatCompletions (chatParams args) = .ok response ∧
      response.choices.head? = some choice ∧ choice.finishReason ≠ "content_filter" ∧ choice.content = some content ∧
      ¬Blank content ∧ response.usage = some usage

variable {provider : AiProviderName} {clients : Clients} {latencyMs : Int} {args : AiGenerateArgs}

/-- Whatever the mapper takes for a policy block, it has the same errors retried. -/
theorem mapSdkError_retryable (vendor : String) (policyHit : ApiError → Bool) (err : SdkError) :
    (mapSdkError vendor policyHit err).code.retryable = true ↔ err.Transient := by
  cases api : err.api with
  | none =>
    have apart : err.connection = false := Bool.eq_false_iff.mpr fun lost => by
      obtain ⟨e, derived, _⟩ := err.derived lost
      rw [api] at derived
      cases derived
    simp [mapSdkError, SdkError.Transient, api, apart, AiProviderErrorCode.retryable]
  | some e =>
    cases given : e.status with
    | none => simp [mapSdkError, SdkError.Transient, api, given, AiProviderErrorCode.retryable]
    | some status =>
      have passing : err.Transient ↔ status = 429 ∨ 500 ≤ status ∧ status < 600 := by
        simp [SdkError.Transient, api, given]
      rw [passing]
      simp only [mapSdkError, api, given, Option.some.injEq, Option.any_some, Bool.and_eq_true, decide_eq_true_eq]
      split
      · simp [AiProviderErrorCode.retryable]
        omega
      split
      · simp_all [AiProviderErrorCode.retryable]
      split
      · split <;> simp [AiProviderErrorCode.retryable] <;> omega
      split <;> simp [AiProviderErrorCode.retryable] <;> omega

/-- A lost connection is taken for a request that no retry would mend. -/
theorem mapSdkError_connection (vendor : String) (policyHit : ApiError → Bool) {err : SdkError}
    (lost : err.connection = true) : (mapSdkError vendor policyHit err).code = .invalidRequest := by
  obtain ⟨e, api, unanswered⟩ := err.derived lost
  simp [mapSdkError, api, unanswered]

/-- No provider returns a blank text. -/
theorem generate_ok {result : AiGenerateResult}
    (generated : constructForProvider provider clients latencyMs args = .ok result) : ¬Blank result.content := by
  have chat {content : String} {usage : CompletionUsage} (some : ¬Blank content)
      (same : (Except.ok (chatResult content latencyMs usage) : Except AiProviderError AiGenerateResult) = .ok result) :
      ¬Blank result.content := by
    cases same
    exact some
  cases provider with
  | openai =>
    simp only [constructForProvider, OpenAiProvider.generate, AiProviderErrorCode.throw] at generated
    repeat' split at generated
    all_goals first | exact chat (by assumption) generated | cases generated
  | deepseek =>
    simp only [constructForProvider, DeepSeekProvider.generate, AiProviderErrorCode.throw] at generated
    repeat' split at generated
    all_goals first | exact chat (by assumption) generated | cases generated
  | anthropic =>
    simp only [constructForProvider, AnthropicProvider.generate, AiProviderErrorCode.throw] at generated
    repeat' split at generated
    all_goals first | cases generated; assumption | cases generated

theorem outage_chat (chat : provider ≠ .anthropic) : clients.Outage provider args ↔
    match clients.chatCompletions (chatParams args) with
    | .error err => err.Transient
    | .ok response => response.Lacking provider := by
  cases provider with
  | anthropic => exact absurd rfl chat
  | openai | deepseek =>
    unfold Clients.Outage
    cases clients.chatCompletions (chatParams args) <;> simp

theorem openAi_lacking {response : ChatCompletion} {choice : ChatChoice} (head : response.choices.head? = some choice) :
    response.Lacking .openai ↔ choice.finishReason ≠ "content_filter" ∧
      ((∀ content, choice.content = some content → Blank content) ∨ response.usage = none) := by
  simp [ChatCompletion.Lacking, head]

theorem deepSeek_lacking {response : ChatCompletion} {choice : ChatChoice} (head : response.choices.head? = some choice) :
    response.Lacking .deepseek ↔ choice.finishReason ≠ "content_filter" ∧
      ∃ content, choice.content = some content ∧ ¬Blank content ∧ response.usage = none := by
  have some : response.choices ≠ [] := fun none => by simp [none] at head
  simp [ChatCompletion.Lacking, head, some]

theorem generate_answers (answers : clients.Answers provider args) :
    ∃ result, constructForProvider provider clients latencyMs args = .ok result := by
  cases provider with
  | openai =>
    obtain ⟨response, choice, content, usage, answered, head, unfiltered, said, visible, counted⟩ := answers
    simp [constructForProvider, OpenAiProvider.generate, answered, head, unfiltered, said, visible, counted]
  | deepseek =>
    obtain ⟨response, choice, content, usage, answered, head, unfiltered, said, visible, counted⟩ := answers
    simp [constructForProvider, DeepSeekProvider.generate, answered, head, unfiltered, said, visible, counted]
  | anthropic =>
    obtain ⟨response, content, rest, answered, unrefused, said, visible⟩ := answers
    simp [constructForProvider, AnthropicProvider.generate, answered, unrefused, said, visible]

/-- A provider asks for a retry where it is out of order, and nowhere else. -/
theorem generate_error {error : AiProviderError}
    (failed : constructForProvider provider clients latencyMs args = .error error) :
    error.code.retryable = true ↔ clients.Outage provider args := by
  cases provider with
  | openai =>
    rw [outage_chat (by decide)]
    simp only [constructForProvider, OpenAiProvider.generate, AiProviderErrorCode.throw] at failed
    split at failed
    · rename_i err thrown
      cases failed
      exact mapSdkError_retryable _ _ err
    rename_i response answered
    split at failed
    · rename_i missing
      cases failed
      simp [ChatCompletion.Lacking, missing, AiProviderErrorCode.retryable]
    rename_i choice head
    rw [openAi_lacking head]
    repeat' split at failed
    all_goals cases failed
    all_goals simp_all [AiProviderErrorCode.retryable]
  | deepseek =>
    rw [outage_chat (by decide)]
    simp only [constructForProvider, DeepSeekProvider.generate, AiProviderErrorCode.throw] at failed
    split at failed
    · rename_i err thrown
      cases failed
      exact mapSdkError_retryable _ _ err
    rename_i response answered
    split at failed
    · rename_i missing
      cases failed
      simp [ChatCompletion.Lacking, List.head?_eq_none_iff.mp missing, AiProviderErrorCode.retryable]
    rename_i choice head
    rw [deepSeek_lacking head]
    repeat' split at failed
    all_goals cases failed
    all_goals simp_all [AiProviderErrorCode.retryable]
  | anthropic =>
    unfold Clients.Outage
    simp only [constructForProvider, AnthropicProvider.generate, AiProviderErrorCode.throw] at failed
    split at failed
    · rename_i err thrown
      cases failed
      simpa [thrown, mapAnthropicError] using mapSdkError_retryable _ _ err
    rename_i response answered
    simp only [answered, reduceCtorEq, false_and, exists_false, iff_false, Bool.not_eq_true]
    repeat' split at failed
    all_goals cases failed
    all_goals rfl

end Outages

end WinBack.Generation
