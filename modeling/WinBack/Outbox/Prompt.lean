import WinBack.Generation.Discount
import WinBack.Orders.Money
import WinBack.Outbox.Handlers

/-! The prompt of a winback message. Whatever the merchant asks for, the last word is that an offer is written with
placeholders, and without an offer nothing is said of one. -/

namespace WinBack.Outbox

open Library
open Generation (Placeholder discountCodeToken discountValuePercentToken includesToken)

section Builder

def maxWordsByState : CustomerState → Option Nat
  | .atRisk => some 80
  | .dormant => some 100
  | .lost => some 120
  | _ => none

def stateFraming : CustomerState → Option String
  | .atRisk => some ("They have been quiet recently but were active not long ago. Frame this as a friendly check-in, " ++
      "not an emergency.")
  | .dormant => some ("They have not purchased in several months. Frame this as a warm reminder of what they enjoyed, " ++
      "with a concrete next step.")
  | .lost => some ("They have not purchased in over a year. Frame this as a 'we've changed since you last visited' " ++
      "welcome-back invitation.")
  | _ => none

def emojiGuidance : String → Option String
  | "none" => some "Do not use any emoji."
  | "minimal" => some "Use at most one tasteful emoji, only if it adds clear meaning."
  | "liberal" => some "Emoji are welcome where they reinforce tone, but do not overdo it."
  | _ => none

def styleGuidance : String → Option String
  | "formal" => some "Tone: formal, polished. Address the customer with courtesy."
  | "professional" => some "Tone: professional, clear, direct. No filler."
  | "casual" => some "Tone: casual, friendly, conversational. Sound like a real person."
  | "playful" => some "Tone: playful, warm, lightly informal — but always respectful."
  | _ => none

/-- An absent value between the backticks of a template. -/
def interpolated (value : Option String) : String := value.getD "undefined"

/-- An absent value among the parts of a `join`. -/
def joined (value : Option String) : String := value.getD ""

def phrasesAt (key : String) (tone : Json) : List String :=
  match tone.get? key with
  | some (.arr items) => items.map fun
    | .str text => text
    | _ => ""
  | _ => []

/-- A text of the merchant, unless it is blank. -/
def writtenAt (key : String) (tone : Json) : Option String :=
  (textAt key tone).filter fun text => !(trim text.toList).isEmpty

def merchantName (merchant : WinbackPromptMerchant) : String := merchant.name.getD "the store"

def framingLines (args : WinbackPromptArgs) : List String := [
  s!"You are an expert customer-winback copywriter for {merchantName args.merchant}, a Shopify-based store.",
  "Your only job is to write a single short message addressed to a specific lapsed customer to invite them back.",
  "",
  s!"State framing: {interpolated (stateFraming args.customer.triggerState)}",
  s!"Maximum length: {interpolated ((maxWordsByState args.customer.triggerState).map toString)} words. Be concise. " ++
    "Do not exceed this limit.",
  "",
  "Hard constraints:",
  "  - Never invent facts about the customer, the merchant, or any product.",
  "  - Never use fake urgency (\"act now!\", \"last chance!\" unless the merchant has actually said so).",
  "  - Never make medical, financial, legal, or health claims.",
  "  - Never mention competitors.",
  "  - Output the message text only — no subject line, no markdown, no preamble."]

def toneLines : Option Json → List String
  | none => ["", joined (styleGuidance "professional"), joined (emojiGuidance "minimal")]
  | some tone =>
    ["", joined ((textAt "style" tone).bind styleGuidance), joined ((textAt "emojiPolicy" tone).bind emojiGuidance)] ++
    (if phrasesAt "avoid" tone = [] then []
      else ["Avoid these words / phrases entirely: " ++ ", ".intercalate (phrasesAt "avoid" tone) ++ "."]) ++
    (if phrasesAt "emphasize" tone = [] then []
      else ["Lean into these brand values where natural: " ++ ", ".intercalate (phrasesAt "emphasize" tone) ++ "."]) ++
    (writtenAt "brandVoiceSample" tone).elim [] (fun sample =>
      ["", s!"Brand voice sample (match this voice):\n{sample}"]) ++
    (writtenAt "customInstructions" tone).elim [] (fun instructions =>
      ["", s!"Additional merchant instructions:\n{instructions}"])

def discountInstructions : List String := [
  "",
  "Discount instructions (HIGHEST PRIORITY — overrides everything above):",
  "  - The customer is being offered a one-time discount code.",
  s!"  - Reference the code by writing EXACTLY this placeholder token: {discountCodeToken}",
  s!"  - Reference the percentage by writing EXACTLY this placeholder token: {discountValuePercentToken}",
  "  - Do NOT invent a discount code. Do NOT write a percentage as a number.",
  "  - Do NOT replace the placeholder tokens with anything else — leave them exactly as shown.",
  "  - Use each placeholder token at most once.",
  "  - The placeholder tokens will be replaced with the real values before the customer sees the message."]

def offered (discount : Option Int) (lines : List String) : List String := if discount.isSome then lines else []

def buildSystemPrompt (args : WinbackPromptArgs) : String :=
  "\n".intercalate (framingLines args ++ toneLines args.merchant.aiTone ++ offered args.discount discountInstructions)

def salutation (firstName : Option String) : String :=
  let trimmedFirstName := trim (firstName.getD "").toList
  if trimmedFirstName = [] then "valued customer" else .ofList trimmedFirstName

/-- `(Number(mCents) / 100).toFixed(2)`, where the quotient is exact enough for its cents. -/
def dollars (mCents : Int) : String := (if mCents < 0 then "-" else "") ++ Spelling.hundredths.amount mCents.natAbs

def orderWord (fCount : Int) : String := if fCount = 1 then "order" else "orders"

def maxRecentProducts : Nat := 3

def customerLines (customer : WinbackPromptCustomer) : List String := [
  "Customer context:",
  s!"  - Address them as: {salutation customer.firstName}",
  s!"  - State band: {customer.triggerState.text} (previously: {customer.previousState.text})",
  s!"  - Days since last paid order: {customer.rDays}",
  s!"  - Lifetime: {customer.fCount} {orderWord customer.fCount}, {customer.currency} " ++
    s!"{dollars customer.mCents} (trailing 365d)."]

def productLines (recentProducts : List String) : List String :=
  if recentProducts = [] then []
  else ["  - Their recent purchases included: " ++ "; ".intercalate (recentProducts.take maxRecentProducts) ++ "."]

def offerLines : List String := [
  "",
  "Discount available for this customer:",
  s!"  - Code: {discountCodeToken}",
  s!"  - Value: {discountValuePercentToken}% off",
  "  - Mention both placeholder tokens exactly as shown above. The substitution happens later."]

def requestLines (triggerState : CustomerState) : List String := [
  "",
  s!"Write a winback message appropriate for the {triggerState.text} state. Output the message text only."]

def reminder : String :=
  s!"Remember: use the literal placeholder tokens {discountCodeToken} and {discountValuePercentToken} — never " ++
    "substitute them with real values."

def buildUserPrompt (args : WinbackPromptArgs) : String :=
  "\n".intercalate (customerLines args.customer ++ productLines args.recentProducts ++
    offered args.discount offerLines ++ requestLines args.customer.triggerState ++ offered args.discount [reminder])

def buildWinbackPrompt (args : WinbackPromptArgs) : WinbackPromptResult where
  systemPrompt := buildSystemPrompt args
  userPrompt := buildUserPrompt args

theorem systemPrompt_build (args : WinbackPromptArgs) :
    (buildWinbackPrompt args).systemPrompt = buildSystemPrompt args := by
  simp only [buildWinbackPrompt]

theorem userPrompt_build (args : WinbackPromptArgs) :
    (buildWinbackPrompt args).userPrompt = buildUserPrompt args := by
  simp only [buildWinbackPrompt]

end Builder

section Offers

variable {args : WinbackPromptArgs}

theorem framingLines_ne_nil : framingLines args ++ toneLines args.merchant.aiTone ≠ [] :=
  List.append_ne_nil_of_left_ne_nil (List.cons_ne_nil _ _) _

/-- An offer comes after everything the merchant has to say. -/
theorem systemPrompt_offered (args : WinbackPromptArgs) (valuePercent : Int) :
    buildSystemPrompt { args with discount := some valuePercent } =
      buildSystemPrompt { args with discount := none } ++ "\n" ++ "\n".intercalate discountInstructions := by
  have without : buildSystemPrompt { args with discount := none } =
      "\n".intercalate (framingLines args ++ toneLines args.merchant.aiTone) := congrArg _ (List.append_nil _)
  rw [without]
  exact String.intercalate_append_of_ne_nil framingLines_ne_nil (List.cons_ne_nil _ _)

/-- The offer, and the reminder at the end, are all that an offer adds. -/
theorem userPrompt_offered (args : WinbackPromptArgs) (valuePercent : Int) :
    ∃ context request, buildUserPrompt { args with discount := none } = context ++ "\n" ++ request ∧
      buildUserPrompt { args with discount := some valuePercent } =
        context ++ "\n" ++ "\n".intercalate offerLines ++ "\n" ++ request ++ "\n" ++ reminder := by
  have context : customerLines args.customer ++ productLines args.recentProducts ≠ [] :=
    List.append_ne_nil_of_left_ne_nil (List.cons_ne_nil _ _) _
  have request : requestLines args.customer.triggerState ≠ [] := List.cons_ne_nil _ _
  have offer : offerLines ≠ [] := List.cons_ne_nil _ _
  refine ⟨"\n".intercalate (customerLines args.customer ++ productLines args.recentProducts),
    "\n".intercalate (requestLines args.customer.triggerState), ?_, ?_⟩
  · rw [← String.intercalate_append_of_ne_nil context request]
    simp [buildUserPrompt, offered]
  · rw [← String.intercalate_append_of_ne_nil context offer,
      ← String.intercalate_append_of_ne_nil (List.append_ne_nil_of_left_ne_nil context _) request,
      ← @String.intercalate_singleton "\n" reminder,
      ← String.intercalate_append_of_ne_nil (List.append_ne_nil_of_right_ne_nil _ request) (List.cons_ne_nil _ _)]
    simp [buildUserPrompt, offered]

end Offers

section Letters

/-- A letter of the line is a letter of one of the texts. -/
def From (letter : Char) (sources : List String) (line : String) : Prop :=
  letter ∈ line.toList → ∃ text ∈ sources, letter ∈ text.toList

variable {letter : Char} {sources : List String} {line rest separator : String} {lines : List String}

theorem From.absent (absent : letter ∉ line.toList) : From letter sources line := fun occurs => absurd occurs absent

theorem From.literal {letters : List Char} (absent : letter ∉ letters) : From letter sources (.ofList letters) :=
  .absent (by rwa [String.toList_ofList])

theorem From.text (listed : line ∈ sources) : From letter sources line := fun occurs => ⟨line, listed, occurs⟩

theorem From.append (first : From letter sources line) (second : From letter sources rest) :
    From letter sources (line ++ rest) := by
  intro occurs
  rw [String.toList_append] at occurs
  exact (List.mem_append.mp occurs).elim first second

theorem From.intercalate (between : From letter sources separator) (each : ∀ line ∈ lines, From letter sources line) :
    From letter sources (separator.intercalate lines) := by
  induction lines with
  | nil => exact .literal (by simp)
  | cons line rest ih =>
    by_cases last : rest = []
    · rw [last, String.intercalate_singleton]
      exact each line List.mem_cons_self
    · rw [String.intercalate_cons_of_ne_nil last]
      have others : From letter sources (separator.intercalate rest) :=
        ih fun other listed => each other (List.mem_cons_of_mem _ listed)
      exact ((each line List.mem_cons_self).append between).append others

/-- What the merchant has written about the tone. -/
def toneTexts (tone : Json) : List String :=
  phrasesAt "avoid" tone ++ phrasesAt "emphasize" tone ++ (textAt "brandVoiceSample" tone).toList ++
    (textAt "customInstructions" tone).toList

/-- What others have written into a prompt. -/
def WinbackPromptArgs.texts (args : WinbackPromptArgs) : List String :=
  args.merchant.name.toList ++ args.merchant.aiTone.elim [] toneTexts ++ args.customer.firstName.toList ++
    [args.customer.currency] ++ args.recentProducts

/-- The letter that a placeholder begins with. -/
def brace : Char := '\x7b'

theorem From.whole (number : Int) : From brace sources (toString number) := by
  intro occurs
  rcases (Numeral.letters_int number).2 brace occurs with digit | sign
  · cases digit
  · cases sign

theorem From.salutation (firstName : Option String) : From brace firstName.toList (salutation firstName) := by
  intro occurs
  unfold Outbox.salutation at occurs
  dsimp only at occurs
  split at occurs
  · exact absurd occurs (by decide)
  · rw [String.toList_ofList] at occurs
    cases firstName with
    | none => exact absurd (trim_subset occurs) (by decide)
    | some name => exact ⟨name, List.mem_singleton_self _, trim_subset occurs⟩

theorem From.dollars (mCents : Int) : From brace sources (dollars mCents) := by
  have digits : brace ∉ (Spelling.hundredths.amount mCents.natAbs).toList := by
    intro occurs
    unfold Spelling.amount at occurs
    dsimp only at occurs
    have whole : brace ∉ Nat.toDigits 10 (mCents.natAbs / 100) := fun listed =>
      absurd (Nat.isDigit_of_mem_toDigits (by decide) (by decide) listed) (by decide)
    split at occurs
    · rw [String.toList_ofList] at occurs
      exact whole occurs
    · rw [String.toList_ofList, List.mem_append, List.mem_cons] at occurs
      rcases occurs with units | point | decimal
      · exact whole units
      · cases point
      · exact absurd (decimals_digits decimal) (by decide)
  refine .append (.absent ?_) (.absent digits)
  split <;> decide

theorem From.state (state : CustomerState) : From brace sources state.text := by
  cases state <;> exact .literal (by decide)

theorem From.mono {more : List String} (from_ : From letter sources line) (sub : sources ⊆ more) : From letter more line :=
  fun occurs => (from_ occurs).imp fun _ found => ⟨sub found.1, found.2⟩

theorem From.merchantName {args : WinbackPromptArgs} : From brace args.texts (merchantName args.merchant) := by
  unfold Outbox.merchantName
  cases named : args.merchant.name with
  | none => exact .literal (by decide)
  | some name => exact .text (by simp [named, WinbackPromptArgs.texts])

theorem From.stateFraming (state : CustomerState) : From brace sources (interpolated (stateFraming state)) := by
  cases state with
  | atRisk | dormant | lost =>
    unfold interpolated Outbox.stateFraming
    exact .append (.literal (by decide)) (.literal (by decide))
  | active | warm | insufficientData => exact .literal (by decide)

theorem From.maxWords (state : CustomerState) :
    From brace sources (interpolated ((maxWordsByState state).map toString)) := by
  cases state with
  | atRisk => exact .whole 80
  | dormant => exact .whole 100
  | lost => exact .whole 120
  | active | warm | insufficientData => exact .literal (by decide)

theorem From.framing (args : WinbackPromptArgs) : ∀ line ∈ framingLines args, From brace args.texts line := by
  intro line listed
  simp only [framingLines, List.mem_cons, List.not_mem_nil, or_false] at listed
  rcases listed with rfl | rfl | rfl | rfl | rfl | rfl | rfl | rfl | rfl | rfl | rfl | rfl
  · exact .append (.append (.literal (by decide)) .merchantName) (.literal (by decide))
  · exact .literal (by decide)
  · exact .literal (by decide)
  · exact .append (.literal (by decide)) (.stateFraming _)
  · exact .append (.append (.append (.literal (by decide)) (.maxWords _)) (.literal (by decide))) (.literal (by decide))
  all_goals exact .literal (by decide)

theorem From.guidance (text : String) : From brace sources (joined (styleGuidance text)) ∧
    From brace sources (joined (emojiGuidance text)) := by
  constructor
  · unfold styleGuidance
    split <;> exact .literal (by decide)
  · unfold emojiGuidance
    split <;> exact .literal (by decide)

/-- A line that lists phrases. -/
theorem From.phrases {key opening : String} {tone : Json} (literal : From brace (toneTexts tone) opening)
    (listed : phrasesAt key tone ⊆ toneTexts tone) :
    ∀ line ∈ (if phrasesAt key tone = [] then [] else [opening ++ ", ".intercalate (phrasesAt key tone) ++ "."]),
      From brace (toneTexts tone) line := by
  intro line member
  split at member
  · cases member
  · obtain rfl := List.mem_singleton.mp member
    have phrases : From brace (toneTexts tone) (", ".intercalate (phrasesAt key tone)) :=
      .intercalate (.literal (by decide)) fun text named => .text (listed named)
    exact .append (.append literal phrases) (.literal (by decide))

/-- A line with a text of the merchant. -/
theorem From.written {key opening : String} {tone : Json} (literal : From brace (toneTexts tone) opening)
    (listed : (textAt key tone).toList ⊆ toneTexts tone) :
    ∀ line ∈ (writtenAt key tone).elim [] (fun text => ["", opening ++ text]), From brace (toneTexts tone) line := by
  intro line member
  cases written : writtenAt key tone with
  | none =>
    rw [written] at member
    cases member
  | some text =>
    rw [written] at member
    obtain ⟨found, _⟩ := Option.filter_eq_some_iff.mp written
    rcases List.mem_pair.mp member with rfl | rfl
    · exact .literal (by decide)
    · exact .append literal (.text (listed (by simp [found])))

theorem From.tone (aiTone : Option Json) : ∀ line ∈ toneLines aiTone, From brace (aiTone.elim [] toneTexts) line := by
  cases aiTone with
  | none =>
    intro line listed
    simp only [toneLines, List.mem_cons, List.not_mem_nil, or_false] at listed
    rcases listed with rfl | rfl | rfl
    · exact .literal (by decide)
    · exact (From.guidance _).1
    · exact (From.guidance _).2
  | some tone =>
    have guided (text : Option String) : From brace (toneTexts tone) (joined (text.bind styleGuidance)) ∧
        From brace (toneTexts tone) (joined (text.bind emojiGuidance)) := by
      cases text with
      | none => exact ⟨.literal (by decide), .literal (by decide)⟩
      | some text => exact From.guidance text
    intro line listed
    simp only [toneLines, List.mem_append] at listed
    rcases listed with (((head | avoid) | emphasize) | sample) | instructions
    · simp only [List.mem_cons, List.not_mem_nil, or_false] at head
      rcases head with rfl | rfl | rfl
      · exact .literal (by decide)
      · exact (guided _).1
      · exact (guided _).2
    · exact From.phrases (.literal (by decide)) (fun text named => by simp [toneTexts, named]) line avoid
    · exact From.phrases (.literal (by decide)) (fun text named => by simp [toneTexts, named]) line emphasize
    · exact From.written (.literal (by decide)) (fun text named => by simp [toneTexts, Option.mem_toList.mp named]) line
        sample
    · exact From.written (.literal (by decide)) (fun text named => by simp [toneTexts, Option.mem_toList.mp named]) line
        instructions

theorem From.customer (args : WinbackPromptArgs) : ∀ line ∈ customerLines args.customer, From brace args.texts line := by
  intro line listed
  simp only [customerLines, List.mem_cons, List.not_mem_nil, or_false] at listed
  rcases listed with rfl | rfl | rfl | rfl | rfl
  · exact .literal (by decide)
  · refine .append (.literal (by decide)) ((From.salutation _).mono fun text named => ?_)
    simp [WinbackPromptArgs.texts, Option.mem_toList.mp named]
  · exact .append (.append (.append (.append (.literal (by decide)) (.state _)) (.literal (by decide))) (.state _))
      (.literal (by decide))
  · exact .append (.literal (by decide)) (.whole _)
  · have word : From brace args.texts (orderWord args.customer.fCount) := by
      unfold orderWord
      split <;> exact .literal (by decide)
    have currency : From brace args.texts args.customer.currency := .text (by simp [WinbackPromptArgs.texts])
    refine .append (.append (.append (.append (.append (.append (.append (.literal (by decide)) (.whole _)) ?_) word) ?_)
      currency) ?_) (.append (.dollars _) ?_)
    all_goals exact .literal (by decide)

theorem From.products (args : WinbackPromptArgs) :
    ∀ line ∈ productLines args.recentProducts, From brace args.texts line := by
  intro line listed
  unfold productLines at listed
  split at listed
  · cases listed
  · obtain rfl := List.mem_singleton.mp listed
    have titles : From brace args.texts ("; ".intercalate (args.recentProducts.take maxRecentProducts)) := by
      refine .intercalate (.literal (by decide)) fun title taken => .text ?_
      simp [WinbackPromptArgs.texts, List.mem_of_mem_take taken]
    exact .append (.append (.literal (by decide)) titles) (.literal (by decide))

theorem From.request (state : CustomerState) : ∀ line ∈ requestLines state, From brace sources line := by
  intro line listed
  simp only [requestLines, List.mem_cons, List.not_mem_nil, or_false] at listed
  rcases listed with rfl | rfl
  · exact .literal (by decide)
  · exact .append (.append (.literal (by decide)) (.state _)) (.literal (by decide))

/-- Without an offer a brace in a prompt is a brace in what others have written. -/
theorem From.prompts {args : WinbackPromptArgs} (unoffered : args.discount = none) :
    From brace args.texts (buildSystemPrompt args) ∧ From brace args.texts (buildUserPrompt args) := by
  have tone : args.merchant.aiTone.elim [] toneTexts ⊆ args.texts := fun text listed => by
    simp [WinbackPromptArgs.texts, listed]
  have nothing (lines : List String) : offered args.discount lines = [] := by
    rw [unoffered]
    rfl
  unfold buildSystemPrompt buildUserPrompt
  rw [nothing, nothing, nothing, List.append_nil, List.append_nil, List.append_nil]
  constructor
  · refine .intercalate (.literal (by decide)) fun line listed => ?_
    rcases List.mem_append.mp listed with framing | toned
    · exact From.framing args line framing
    · exact (From.tone _ line toned).mono tone
  · refine .intercalate (.literal (by decide)) fun line listed => ?_
    rw [List.mem_append, List.mem_append] at listed
    rcases listed with (customer | products) | request
    · exact From.customer args line customer
    · exact From.products args line products
    · exact From.request _ line request

end Letters

section Tokens

variable {args : WinbackPromptArgs} {line separator : String} {lines : List String} {placeholder : Placeholder}

theorem infix_intercalate (listed : line ∈ lines) : line.toList <:+: (separator.intercalate lines).toList := by
  obtain ⟨before, after, rfl⟩ := List.append_of_mem listed
  have tail : line.toList <+: (separator.intercalate (line :: after)).toList := by
    by_cases last : after = []
    · rw [last, String.intercalate_singleton]
    · rw [String.intercalate_cons_of_ne_nil last, String.append_assoc, String.toList_append]
      exact List.prefix_append _ _
  by_cases first : before = []
  · rw [first]
    exact tail.isInfix
  · rw [String.intercalate_append_of_ne_nil first (List.cons_ne_nil _ _), String.toList_append]
    exact tail.isInfix.trans (List.suffix_append _ _).isInfix

theorem includesToken_mono {text whole : String} {token : String} (includes : includesToken token text = true)
    (within : text.toList <:+: whole.toList) : includesToken token whole = true :=
  Generation.includesToken_iff.mpr ((Generation.includesToken_iff.mp includes).trans within)

/-- An offer tells the model of both placeholders, twice. -/
theorem offered_tokens (offers : args.discount.isSome = true) (placeholder : Placeholder) :
    includesToken placeholder.token (buildSystemPrompt args) = true ∧
      includesToken placeholder.token (buildUserPrompt args) = true := by
  have all (lines : List String) : offered args.discount lines = lines := if_pos offers
  have instructed : ∃ line ∈ discountInstructions, includesToken placeholder.token line = true := by
    cases placeholder with
    | code => exact ⟨_, .tail _ (.tail _ (.tail _ (.head _))), by decide⟩
    | valuePercent => exact ⟨_, .tail _ (.tail _ (.tail _ (.tail _ (.head _)))), by decide⟩
  have mentioned : ∃ line ∈ offerLines, includesToken placeholder.token line = true := by
    cases placeholder with
    | code => exact ⟨_, .tail _ (.tail _ (.head _)), by decide⟩
    | valuePercent => exact ⟨_, .tail _ (.tail _ (.tail _ (.head _))), by decide⟩
  obtain ⟨instruction, instructs, first⟩ := instructed
  obtain ⟨mention, mentions, second⟩ := mentioned
  exact ⟨includesToken_mono first (infix_intercalate (by simp [all, instructs])),
    includesToken_mono second (infix_intercalate (by simp [all, mentions]))⟩

/-- A prompt with a placeholder has a brace. -/
theorem brace_of_includes {text : String} (includes : includesToken placeholder.token text = true) :
    brace ∈ text.toList := by
  refine (Generation.includesToken_iff.mp includes).subset ?_
  cases placeholder <;> decide

/-- An offer changes a prompt by blocks of fixed text alone, one of them after everything that the merchant has
written, and whatever its percentage is. Without one, a placeholder in a prompt is one that somebody has written. -/
theorem offer_is_last_word (args : WinbackPromptArgs) :
    (∀ valuePercent, buildSystemPrompt { args with discount := some valuePercent } =
      buildSystemPrompt { args with discount := none } ++ "\n" ++ "\n".intercalate discountInstructions) ∧
    (∀ valuePercent, ∃ context request, buildUserPrompt { args with discount := none } = context ++ "\n" ++ request ∧
      buildUserPrompt { args with discount := some valuePercent } =
        context ++ "\n" ++ "\n".intercalate offerLines ++ "\n" ++ request ++ "\n" ++ reminder) ∧
    ∀ placeholder : Placeholder,
      (args.discount.isSome = true → includesToken placeholder.token (buildSystemPrompt args) = true ∧
        includesToken placeholder.token (buildUserPrompt args) = true) ∧
      (args.discount = none → includesToken placeholder.token (buildSystemPrompt args) = true ∨
        includesToken placeholder.token (buildUserPrompt args) = true → ∃ text ∈ args.texts, brace ∈ text.toList) := by
  refine ⟨systemPrompt_offered args, userPrompt_offered args, fun placeholder =>
    ⟨fun offers => offered_tokens offers placeholder, fun unoffered includes => ?_⟩⟩
  rcases includes with system | user
  · exact (From.prompts unoffered).1 (brace_of_includes system)
  · exact (From.prompts unoffered).2 (brace_of_includes user)

end Tokens

section Tone

/-- Every value that the schema accepts for a tone has its guidance. -/
theorem guidance_complete : (∀ style ∈ Tenant.aiToneStyles, (styleGuidance style).isSome = true) ∧
    ∀ policy ∈ Tenant.aiToneEmojiPolicies, (emojiGuidance policy).isSome = true := by
  decide

theorem oneOf_eq_ok {options : List String} {input output : Option Json}
    (accepted : Shape.oneOf options input = .ok output) : ∃ text ∈ options, output = some (.str text) := by
  unfold Shape.oneOf at accepted
  split at accepted
  · split at accepted
    · rename_i text listed
      exact ⟨text, listed, (Except.ok.inj accepted).symm⟩
    · cases accepted
  · cases accepted

/-- The tone that a prompt is built with has a line for its style and one for its emoji. -/
def Guided (tone : Json) : Prop :=
  (((textAt "style" tone).bind styleGuidance).isSome = true) ∧ ((textAt "emojiPolicy" tone).bind emojiGuidance).isSome = true

theorem guided_of_parsed {value : Option Json} {tone : Json} (parsed : parseAiTone value = .ok (some tone)) :
    Guided tone := by
  have accepted : Tenant.aiToneSchema value = .ok (some tone) := by
    unfold parseAiTone at parsed
    split at parsed
    · cases parsed
    · cases parsed
    · cases given : Tenant.aiToneSchema value with
      | error issues =>
        rw [given] at parsed
        cases parsed
      | ok output =>
        rw [given] at parsed
        cases parsed
        rfl
  have distinct : ["style", "avoid", "emphasize", "emojiPolicy", "brandVoiceSample", "customInstructions"].Nodup := by
    decide
  obtain ⟨entries, _, style⟩ := Shape.object_get? accepted (by decide) distinct (List.mem_cons_self)
  obtain ⟨_, _, policy⟩ := Shape.object_get? accepted (by decide) distinct
    (.tail _ (.tail _ (.tail _ (List.mem_cons_self))))
  obtain ⟨styled, known, written⟩ := oneOf_eq_ok style
  have chosen : ∃ text ∈ Tenant.aiToneEmojiPolicies, tone.get? "emojiPolicy" = some (.str text) := by
    unfold Shape.withDefault at policy
    split at policy
    · exact ⟨"minimal", by decide, (Except.ok.inj policy).symm⟩
    · exact oneOf_eq_ok policy
  obtain ⟨expressed, usual, said⟩ := chosen
  unfold Guided textAt
  rw [written, said]
  exact ⟨guidance_complete.1 styled known, guidance_complete.2 expressed usual⟩

end Tone

end WinBack.Outbox
