import WinBack.Generation.Discount
import WinBack.Generation.Ledger
import WinBack.Generation.Providers
import WinBack.Generation.System
import Mathlib.Data.List.TakeWhile

/-! What the workers make of the answers of a provider: a generation is completed with a text that is not blank, and
fails for its provider only if this has refused it. -/

namespace WinBack.Generation

open Library Machine Script

section Blank

variable {text : String}

theorem blank_iff : Blank text ↔ ∀ char ∈ text.toList, isSpace char = true := by
  unfold Blank trim
  rw [List.reverse_eq_nil_iff, List.dropWhile_eq_nil_iff]
  constructor
  · intro trimmed char member
    rw [← List.takeWhile_append_dropWhile (p := isSpace) (l := text.toList)] at member
    rcases List.mem_append.mp member with leading | kept
    · exact List.mem_takeWhile_imp leading
    · exact trimmed char (List.mem_reverse.mpr kept)
  · intro every char member
    exact every char ((List.dropWhile_sublist _).subset (List.mem_reverse.mp member))

theorem not_blank_iff : ¬Blank text ↔ ∃ char ∈ text.toList, isSpace char = false := by
  simp [blank_iff]

/-- A visible character that is replaced makes way for a visible value. -/
theorem splitJoin_visible {token value text : List Char} (shown : ∃ char ∈ value, isSpace char = false)
    (visible : ∃ char ∈ text, isSpace char = false) : ∃ char ∈ splitJoin token value 0 text, isSpace char = false := by
  induction text with
  | nil => exact absurd visible (by simp)
  | cons first rest ih =>
    unfold splitJoin
    split
    · obtain ⟨char, member, seen⟩ := shown
      exact ⟨char, List.mem_append_left _ member, seen⟩
    · obtain ⟨char, member, seen⟩ := visible
      rcases List.mem_cons.mp member with rfl | later
      · exact ⟨char, List.mem_cons_self, seen⟩
      · obtain ⟨char, member, seen⟩ := ih ⟨char, later, seen⟩
        exact ⟨char, List.mem_cons_of_mem _ member, seen⟩

theorem replaceToken_not_blank {token value : String} (shown : ¬Blank value) (visible : ¬Blank text) :
    ¬Blank (replaceToken token value text) := by
  rw [not_blank_iff] at *
  rw [replaceToken, String.toList_ofList]
  exact splitJoin_visible shown visible

theorem isSpace_digit {char : Char} (digit : char.isDigit = true) : isSpace char = false := by
  have plain : "\t\n\x0b\x0c\r \u00a0\u1680\u2028\u2029\u202f\u205f\u3000\ufeff".toList.all (fun char => !char.isDigit) =
      true := by decide
  have low : char.toNat ≤ 57 := by
    simp only [Char.isDigit, Bool.and_eq_true, decide_eq_true_eq] at digit
    exact digit.2
  refine Bool.eq_false_iff.mpr fun space => ?_
  simp only [isSpace, Bool.or_eq_true, List.contains_iff_mem, Bool.and_eq_true, decide_eq_true_eq] at space
  rcases space with listed | ⟨high, _⟩
  · have undigit := List.all_eq_true.mp plain char listed
    rw [digit] at undigit
    cases undigit
  · omega

theorem percent_not_blank (valuePercent : Int) : ¬Blank (toString valuePercent) := by
  obtain ⟨some, letters⟩ := Numeral.letters_int valuePercent
  obtain ⟨char, member⟩ := List.exists_mem_of_ne_nil _ some
  refine not_blank_iff.mpr ⟨char, member, ?_⟩
  rcases letters char member with digit | rfl
  · exact isSpace_digit digit
  · decide

/-- The code is put in first, the percentage then. -/
theorem substitute_not_blank {code : String} {valuePercent : Int} (coded : ¬Blank code) (visible : ¬Blank text) :
    ¬Blank (substituteDiscountTokens text (some ⟨code, valuePercent⟩)).text :=
  replaceToken_not_blank (percent_not_blank valuePercent) (replaceToken_not_blank coded visible)

theorem code_not_blank {context : WorkerContext} {merchantId : MerchantId} {aiGenerationId : String} :
    ¬Blank (deriveWinbackDiscountCode context merchantId aiGenerationId) := by
  refine not_blank_iff.mpr ⟨'W', ?_, by decide⟩
  rw [deriveWinbackDiscountCode, String.toList_append]
  exact List.mem_append_left _ (by decide)

end Blank

section Hearing

/-- What a pass has heard of its provider and of Shopify. -/
structure Heard where
  content : Option String := none
  minted : Option String := none
  refused : Bool := false

/-- The reasons of the worker's own. -/
def ownReasons : List String := ["generation_stale", "discount_customer_redacted"]

theorem stale_own : "generation_stale" ∈ ownReasons := by decide

theorem redacted_own : "discount_customer_redacted" ∈ ownReasons := by decide

/-- The text of a completion is what the provider has said, with the minted code put in. -/
def Heard.Spells (heard : Heard) (text : String) : Prop :=
  ∃ content, heard.content = some content ∧ (text = content ∨ ∃ code valuePercent, heard.minted = some code ∧
    text = (substituteDiscountTokens content (some ⟨code, valuePercent⟩)).text)

/-- A pass fails its generation for a reason of its own or after a refusal, and completes it with what it has heard. -/
def hearing : Discipline Call Call.Value Thrown Heard where
  allowed heard
    | .mint args => ¬Blank args.code
    | .markFailed _ _ lastError => lastError ∈ ownReasons
    | .refuse _ _ _ _ => heard.refused = true
    | .complete _ completion => heard.Spells completion.args.generatedText
    | _ => True
  next
    | heard, .generate _, .ok result => { heard with content := some result.content }
    | heard, .generate _, .error (.provider error) => { heard with refused := heard.refused || !error.code.retryable }
    | heard, .mint _, .ok created => { heard with minted := some created.code }
    | heard, _, _ => heard

variable {context : WorkerContext} {job : Job} {heard : Heard}

theorem hearing_minted (args : CreateWinbackDiscountArgs) (created : CreateWinbackDiscountResult) :
    hearing.next heard (.mint args) (.ok created) = { heard with minted := some created.code } := rfl

theorem mintAndComplete_hears (row : Pickup) (result : AiGenerateResult) (content : heard.content = some result.content) :
    (mintAndComplete context job.data row result).Obeys hearing heard fun _ _ => True := by
  unfold mintAndComplete
  split
  · trivial
  split
  · exact ⟨⟨result.content, content, .inl rfl⟩, fun _ => trivial⟩
  split
  · exact ⟨redacted_own, fun _ => trivial⟩
  · refine (obeys_bind ..).mpr ?_
    refine obeys_perform_bind.mpr ⟨trivial, fun _ => trivial, fun windowDays => ?_⟩
    refine obeys_perform_bind.mpr ⟨trivial, fun _ => trivial, fun now => ?_⟩
    refine obeys_perform_bind.mpr ⟨code_not_blank, fun _ => trivial, fun created => ?_⟩
    rw [hearing_minted]
    exact ⟨⟨result.content, content, .inr ⟨created.code, _, rfl, rfl⟩⟩, fun _ => trivial⟩

/-- What is refused was refused by the provider. -/
theorem handleProviderError_hears (args : AiGenerateArgs) (shop : String) (thrown : Thrown) :
    (handleProviderError job shop thrown).Obeys hearing (hearing.next heard (.generate args) (.error thrown))
      fun _ _ => True := by
  unfold handleProviderError
  split
  · rename_i error
    split
    · trivial
    · rename_i permanent
      refine ⟨?_, fun _ => trivial⟩
      simp only [hearing, permanent, Bool.not_false, Bool.or_true]
  · trivial

theorem processAiGenerateJob_hears : (processAiGenerateJob context job).Obeys hearing {} fun _ _ => True := by
  unfold processAiGenerateJob
  refine obeys_perform_bind.mpr ⟨trivial, fun _ => trivial, fun found => ?_⟩
  cases found with
  | none => trivial
  | some row =>
    refine obeys_ite.mpr ⟨fun _ => trivial, fun _ => ?_⟩
    refine obeys_perform_bind.mpr ⟨trivial, fun _ => trivial, fun now => ?_⟩
    refine obeys_ite.mpr ⟨fun _ => ⟨stale_own, fun _ => trivial⟩, fun _ => ?_⟩
    rw [obeys_bind, obeys_tryCatch]
    refine obeys_perform_bind.mpr ⟨trivial, fun thrown => ?_, fun result => mintAndComplete_hears row result rfl⟩
    refine (obeys_bind ..).mpr ((handleProviderError_hears _ row.shop thrown).mono fun reached outcome _ => ?_)
    cases outcome <;> trivial

end Hearing

section Answers

/-- The provider answers the call that the pass makes next, by way of its adapter. -/
def AnsweredBy (provider : AiProviderName) (fair : Clients → AiGenerateArgs → Prop) (tasks : Pool WorkerTask) (slot : Nat)
    (choice : Choice) : Prop :=
  ∀ task args, tasks.task? slot = some task → task.pending? = some (.generate args) →
    ∃ clients latencyMs, fair clients args ∧
      choice.provider = (constructForProvider provider clients latencyMs args).mapError .provider

/-- Nothing that the pass has heard is blank. -/
def Heard.Visible (heard : Heard) : Prop :=
  (∀ content, heard.content = some content → ¬Blank content) ∧ ∀ code, heard.minted = some code → ¬Blank code

theorem Heard.Visible.spells {heard : Heard} {text : String} (visible : heard.Visible) (spelled : heard.Spells text) :
    ¬Blank text := by
  obtain ⟨content, said, rfl | ⟨code, valuePercent, minted, rfl⟩⟩ := spelled
  · exact visible.1 text said
  · exact substitute_not_blank (visible.2 code minted) (visible.1 content said)

variable {provider : AiProviderName} {fair : Clients → AiGenerateArgs → Prop} {heard : Heard} {db next : Db} {request : Call}
  {choice : Choice} {answer : Except Thrown request.Value}

/-- What the next answer adds is not blank either. -/
theorem Heard.Visible.hears (visible : heard.Visible) (allowed : hearing.allowed heard request)
    (executed : exec db request choice = some (answer, next))
    (answered : ∀ args, request = .generate args → ∃ clients latencyMs, fair clients args ∧
      choice.provider = (constructForProvider provider clients latencyMs args).mapError .provider) :
    (hearing.next heard request answer).Visible := by
  cases request with
  | generate args =>
    obtain ⟨clients, latencyMs, _, same⟩ := answered args rfl
    obtain rfl : choice.provider = answer := congrArg Prod.fst (Option.some.inj executed)
    rw [same]
    cases generated : constructForProvider provider clients latencyMs args with
    | error => exact visible
    | ok result =>
      refine ⟨fun content said => ?_, visible.2⟩
      obtain rfl : result.content = content := Option.some.inj said
      exact generate_ok generated
  | mint args =>
    have created : createWinbackDiscountCode args choice.shopify = answer := congrArg Prod.fst (Option.some.inj executed)
    cases answer with
    | error => exact visible
    | ok minted =>
      refine ⟨visible.1, fun code listed => ?_⟩
      obtain rfl : minted.code = code := Option.some.inj listed
      have same : minted.code = args.code := by
        unfold createWinbackDiscountCode at created
        split at created <;> cases created <;> rfl
      exact same ▸ allowed
  | query | clock | markFailed | refuse | complete => exact visible

/-- A provider that is up or out of order refuses nothing. -/
theorem Heard.unrefused (unrefused : heard.refused = false) (executed : exec db request choice = some (answer, next))
    (answered : ∀ args, request = .generate args → ∃ clients latencyMs,
      (clients.Answers provider args ∨ clients.Outage provider args) ∧
        choice.provider = (constructForProvider provider clients latencyMs args).mapError .provider) :
    (hearing.next heard request answer).refused = false := by
  cases request with
  | generate args =>
    obtain ⟨clients, latencyMs, serves, same⟩ := answered args rfl
    obtain rfl : choice.provider = answer := congrArg Prod.fst (Option.some.inj executed)
    rw [same]
    cases generated : constructForProvider provider clients latencyMs args with
    | ok result => exact unrefused
    | error error =>
      have passing : error.code.retryable = true :=
        (generate_error generated).mpr (serves.resolve_left fun answers => by
          obtain ⟨result, given⟩ : ∃ result, constructForProvider provider clients latencyMs args = .ok result :=
            generate_answers answers
          rw [generated] at given
          cases given)
      simp [hearing, Except.mapError, passing, unrefused]
  | mint args => cases answer <;> exact unrefused
  | query | clock | markFailed | refuse | complete => exact unrefused

end Answers

section Runs

/-- The provider of the workers answers through its adapter, and either has a text or is out of order. -/
def Serves (context : WorkerContext) (world : World) : Label → Prop
  | .act slot choice => AnsweredBy context.aiConfig.provider (fun clients args =>
      clients.Answers context.aiConfig.provider args ∨ clients.Outage context.aiConfig.provider args) world.tasks slot choice
  | _ => True

/-- No generation has failed for its provider, and none has a blank text. -/
def Undisturbed (db : Db) : Prop :=
  ∀ generation ∈ db.aiGenerations.rows,
    (generation.status = .failed → ∃ reason ∈ ownReasons, generation.lastError = some reason) ∧
      (generation.status = .completed → ∃ text, generation.generatedText = some text ∧ ¬Blank text)

def Unrefused (task : WorkerTask) : Prop :=
  ∃ heard, task.script.Obeys hearing heard (fun _ _ => True) ∧ heard.Visible ∧ heard.refused = false

structure Working (world : World) : Prop where
  rows : Undisturbed world.db
  tasks : world.tasks.Every Unrefused

variable {context : WorkerContext} {origin world next final : World} {label : Label} {db after : Db}

/-- An update of some rows that leaves each undisturbed. -/
theorem Undisturbed.updated {filter : AiGeneration → Bool} {change : AiGeneration → AiGeneration}
    (rows : after.aiGenerations.rows = db.aiGenerations.rows.map fun row => if filter row then change row else row)
    (changed : ∀ row, ((change row).status = .failed → ∃ reason ∈ ownReasons, (change row).lastError = some reason) ∧
      ((change row).status = .completed → ∃ text, (change row).generatedText = some text ∧ ¬Blank text))
    (undisturbed : Undisturbed db) : Undisturbed after := by
  intro generation listed
  rw [rows] at listed
  obtain ⟨old, present, rfl⟩ := List.mem_map.mp listed
  split
  · exact changed old
  · exact undisturbed old present

theorem ownReasons_short {reason : String} (own : reason ∈ ownReasons) :
    utf16Prefix AiGenerationRepository.lastErrorMaxChars reason = reason := by
  simp only [ownReasons, List.mem_cons, List.not_mem_nil, or_false] at own
  rcases own with rfl | rfl <;> decide

/-- What one call does, where the provider has refused nothing. -/
theorem Undisturbed.called {heard : Heard} {request : Call} {choice : Choice} {answer : Except Thrown request.Value}
    (undisturbed : Undisturbed db) (visible : heard.Visible) (unrefused : heard.refused = false)
    (allowed : hearing.allowed heard request) (executed : exec db request choice = some (answer, after)) : Undisturbed after := by
  rcases exec_cases executed with same | ⟨scope, aiGenerationId, lastError, audits, failure, same⟩ |
    ⟨scope, completion, rfl, completed⟩
  · exact same ▸ undisturbed
  · have own : lastError ∈ ownReasons := by
      cases request with
      | markFailed =>
        cases failure
        exact allowed
      | refuse =>
        have refused : heard.refused = true := allowed
        rw [unrefused] at refused
        cases refused
      | _ => cases failure
    subst same
    refine undisturbed.updated rfl fun row => ⟨fun _ => ⟨lastError, own, ?_⟩, fun completed => (nomatch completed)⟩
    exact congrArg some (ownReasons_short own)
  · have rows := (completeGeneration_generations completed).1
    refine undisturbed.updated (congrArg Table.rows rows) fun row => ⟨fun failed => (nomatch failed), fun _ => ?_⟩
    exact ⟨completion.args.generatedText, rfl, visible.spells allowed⟩

theorem Working.step (working : Working world) (serves : Serves context world label)
    (moved : (machine context).step world label = some next) : Working next := by
  obtain ⟨undisturbed, every⟩ := working
  cases label with
  | deliver job =>
    cases moved
    refine ⟨undisturbed, every.spawn ⟨{}, processAiGenerateJob_hears, ⟨?_, ?_⟩, rfl⟩⟩ <;> simp
  | act slot choice =>
    obtain ⟨task, live, moved⟩ := Option.bind_eq_some_iff.mp moved
    obtain ⟨⟨db, after⟩, advanced, rfl⟩ := Option.map_eq_some_iff.mp moved
    obtain ⟨heard, obeys, visible, unrefused⟩ := every.get live
    obtain ⟨request, answer, pending, allowed, executed, later⟩ := Task.advance_obeys obeys advanced
    have answered (args : AiGenerateArgs) (same : request = .generate args) := serves task args live (same ▸ pending)
    refine ⟨undisturbed.called visible unrefused allowed executed, every.put ⟨_, later, ?_, ?_⟩⟩
    · exact visible.hears allowed executed answered
    · exact Heard.unrefused unrefused executed answered
  | crash slot =>
    obtain ⟨task, live, rfl⟩ := Option.map_eq_some_iff.mp moved
    exact ⟨undisturbed, every.clear⟩
  | created merchantId customerId args now =>
    simp only [machine] at moved
    split at moved
    · cases moved
    · rename_i db done
      cases moved
      obtain ⟨aiGenerations, messages, generated, inserted, rfl⟩ := createGeneration_ok done
      refine ⟨fun generation listed => ?_, every⟩
      rw [(Table.insert?_rows generated).1] at listed
      rcases List.mem_append.mp listed with old | new
      · exact undisturbed generation old
      · cases List.mem_singleton.mp new
        refine ⟨fun failed => ?_, fun completed => ?_⟩
        · cases failed
        · cases completed
  | outside db rewrite audits =>
    cases moved
    exact ⟨undisturbed, every⟩

/-- An outage fails no generation: where the provider always has a text or is out of order for the time being, a
generation fails for a reason of the worker's own only, whatever is retried, crashes or is lost, and every completed
generation has a text that is not blank. -/
theorem outage_fails_nothing (reach : Reach (machine context) (Serves context) origin final) (idle : origin.tasks = [])
    (pending : ∀ generation ∈ origin.db.aiGenerations.rows, generation.status = .pending) :
    ∀ generation ∈ final.db.aiGenerations.rows,
      (generation.status = .failed → ∃ reason ∈ ownReasons, generation.lastError = some reason) ∧
        (generation.status = .completed → ∃ text, generation.generatedText = some text ∧ ¬Blank text) := by
  have start : Working origin := by
    refine ⟨fun generation listed => ?_, by simp [Pool.Every, idle]⟩
    rw [pending generation listed]
    exact ⟨fun failed => (nomatch failed), fun completed => (nomatch completed)⟩
  have holds : Working final := reach.invariant start fun earlier label later serves moved working => working.step serves moved
  exact holds.rows

end Runs

section BadWeather

def tooManyRequests : SdkError where
  api := some { status := some 429, message := "slow down" }

def downClients : Clients where
  chatCompletions _ := .error tooManyRequests
  messages _ := .error tooManyRequests

def upClients : Clients where
  chatCompletions _ := .ok ⟨[⟨"stop", some "Come back"⟩], some ⟨200, 100, 300⟩⟩
  messages _ := .ok ⟨none, [.text "Come back"], 200, 100⟩

def reply (clients : Clients) (args : AiGenerateArgs) : Except Thrown AiGenerateResult :=
  (constructForProvider .deepseek clients 900 args).mapError .provider

/-- Every answer is one of the two. -/
def weather (_ : World) : Label → Bool
  | .act _ choice =>
    match choice.provider with
    | .ok result => result == ⟨"Come back", 200, 100, 300, 900⟩
    | .error thrown => thrown == .provider ⟨.rateLimit, "DeepSeek rate limit (429): slow down"⟩
  | _ => true

theorem serves_weather {world : World} {label : Label} (fine : weather world label = true) : Serves raceContext world label := by
  cases label with
  | act slot choice =>
    intro task args live pending
    unfold weather at fine
    cases given : choice.provider with
    | ok result =>
      simp only [given, beq_iff_eq] at fine
      refine ⟨upClients, 900, .inl ⟨_, _, _, _, rfl, rfl, by decide, rfl, by decide, rfl⟩, ?_⟩
      subst fine
      rfl
    | error thrown =>
      simp only [given, beq_iff_eq] at fine
      refine ⟨downClients, 900, .inr (.inl ⟨_, rfl, _, 429, rfl, rfl, .inl rfl⟩), ?_⟩
      subst fine
      rfl
  | deliver | crash | created | outside => trivial

def weathered (clients : Clients) : Choice where
  now := 5
  date := 5
  provider := reply clients ⟨"", "", "", 0, 0⟩
  shopify := .created "gid://shopify/DiscountCodeNode/1"

/-- The first attempt meets an outage, and the second is answered. -/
def retriedOnce : List Label :=
  .deliver raceJob :: List.replicate 3 (.act 0 (weathered downClients)) ++
    .deliver raceJob :: List.replicate 7 (.act 1 (weathered upClients))

def retried? : Option World := (machine raceContext).runWhere weather ⟨oneGeneration, []⟩ retriedOnce

theorem retried_runs : retried?.isSome = true := by decide

theorem outage_fails_nothing_retried : ∃ final, retried? = some final ∧
    (∃ generation ∈ final.db.aiGenerations.rows, generation.status = .completed ∧ generation.generatedText = some "Come back") ∧
    ∀ generation ∈ final.db.aiGenerations.rows,
      (generation.status = .failed → ∃ reason ∈ ownReasons, generation.lastError = some reason) ∧
        (generation.status = .completed → ∃ text, generation.generatedText = some text ∧ ¬Blank text) :=
  ⟨_, (Option.some_get retried_runs).symm, by decide,
    outage_fails_nothing ((Machine.reach_get retried_runs).mono fun _ _ => serves_weather) rfl (by decide)⟩

end BadWeather

end WinBack.Generation
