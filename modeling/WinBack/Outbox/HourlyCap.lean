import WinBack.Library.Numeral
import WinBack.Outbox.Phases
import WinBack.Outbox.RateLimiter

/-! What the hourly limit amounts to over any run: each call is counted once, and as many are let
through as the cap says. -/

namespace WinBack.RateLimiter

open Library Script
open Outbox (CustomerStateChangedPayload DrainerContext IncrementAndCheckResult Thrown)

section Keys

theorem colon_notMem_toString (bucket : Int) : ':' ∉ (toString bucket).toList := by
  intro listed
  rcases (Numeral.letters_int bucket).2 ':' listed with digit | sign
  · exact absurd digit (by decide)
  · exact absurd sign (by decide)

theorem toString_injective {bucket hour : Int} (same : (toString bucket).toList = (toString hour).toList) : bucket = hour := by
  have unsigned {first second : Nat} (same : (toString first).toList = (toString second).toList) : first = second := by
    have digits := congrArg (fun text => Nat.ofDigitChars 10 text 0) same
    simpa [Nat.toString_eq_ofList_toDigits] using digits
  have signed {first second : Nat} : (toString first).toList ≠ ("-" ++ toString second).toList := by
    intro same
    have sign : '-' ∈ (toString first).toList := by
      rw [same, String.toList_append]
      exact List.mem_append_left _ (by decide)
    exact absurd (Numeral.isDigit_toString sign) (by decide)
  cases bucket with
  | ofNat first =>
    cases hour with
    | ofNat second => exact congrArg Int.ofNat (unsigned same)
    | negSucc second => exact absurd same signed
  | negSucc first =>
    cases hour with
    | ofNat second => exact absurd same.symm signed
    | negSucc second =>
      change ("-" ++ toString (first + 1)).toList = ("-" ++ toString (second + 1)).toList at same
      rw [String.toList_append, String.toList_append] at same
      exact congrArg Int.negSucc (Nat.succ_injective (unsigned (List.append_cancel_left same)))

/-- Merchants and hours do not share a counter. -/
theorem rateKey_injective {merchantId owner : MerchantId} {bucket hour : Int}
    (same : rateKey merchantId bucket = rateKey owner hour) : merchantId = owner ∧ bucket = hour := by
  have listed (merchantId : MerchantId) (bucket : Int) : (rateKey merchantId bucket).toList.reverse =
      (toString bucket).toList.reverse ++ ':' :: ("ai:gen:rate:" ++ merchantId).toList.reverse := by
    simp [rateKey]
  have plain (bucket : Int) : ∀ char ∈ (toString bucket).toList.reverse, (char != ':') = true := by
    intro char member
    rw [bne_iff_ne]
    rintro rfl
    exact colon_notMem_toString bucket (List.mem_reverse.mp member)
  have bucketOf (merchantId : MerchantId) (bucket : Int) :
      (rateKey merchantId bucket).toList.reverse.takeWhile (· != ':') = (toString bucket).toList.reverse := by
    rw [listed, List.takeWhile_append_of_pos (plain bucket), List.takeWhile_cons_of_neg (by decide), List.append_nil]
  have merchantOf (merchantId : MerchantId) (bucket : Int) :
      (rateKey merchantId bucket).toList.reverse.dropWhile (· != ':') =
        ':' :: ("ai:gen:rate:" ++ merchantId).toList.reverse := by
    rw [listed, List.dropWhile_append_of_pos (plain bucket), List.dropWhile_cons_of_neg (by decide)]
  constructor
  · have merchants := merchantOf merchantId bucket
    rw [same, merchantOf owner hour] at merchants
    exact String.toList_injective (by simpa using merchants.symm)
  · have buckets := bucketOf merchantId bucket
    rw [same, bucketOf owner hour] at buckets
    exact (toString_injective (List.reverse_injective buckets)).symm

end Keys

section Handlers

variable {context : DrainerContext} {row : OutboxEvent} {payload : CustomerStateChangedPayload} {shop : String}
  {settings : MerchantSettings} {merchant : Merchant} {merchantId : MerchantId} {capPerHour bucket : Int}

theorem withinHourlyCap_checks :
    (Outbox.withinHourlyCap row payload shop settings).Obeys checks
      (.unasked (some (payload.merchantId, settings.hourlyGenerationCap)))
      fun reached outcome => outcome = .ok true → reached = .granted payload.merchantId := by
  unfold Outbox.withinHourlyCap
  refine obeys_perform_bind.mpr ⟨rfl, fun _ => nofun, fun rateLimit => ?_⟩
  refine obeys_ite.mpr ⟨fun passes _ => if_pos passes, fun denied => ?_⟩
  have learns : checks.next (.unasked (some (payload.merchantId, settings.hourlyGenerationCap)))
      (.incrementAndCheck payload.merchantId settings.hourlyGenerationCap) (.ok rateLimit) = .closed := if_neg denied
  rw [learns]
  refine obeys_perform_bind.mpr ⟨trivial, fun _ => nofun, fun now => ?_⟩
  exact obeys_perform_bind.mpr ⟨trivial, fun _ => nofun, fun _ => nofun⟩

theorem withinSpendCap_checks :
    (Outbox.withinSpendCap context row payload shop settings).Obeys checks (.granted merchantId)
      fun reached outcome => outcome = .ok true → reached = .granted merchantId := by
  unfold Outbox.withinSpendCap
  refine obeys_perform_bind.mpr ⟨trivial, fun _ => nofun, fun now => ?_⟩
  refine obeys_perform_bind.mpr ⟨trivial, fun _ => nofun, fun spent => ?_⟩
  refine Outbox.obeys_orThrow (fun _ => nofun) fun estimated => ?_
  refine obeys_ite.mpr ⟨fun _ _ => rfl, fun _ => ?_⟩
  exact obeys_perform_bind.mpr ⟨trivial, fun _ => nofun, fun _ => nofun⟩

theorem createAndEnqueue_checks :
    (Outbox.createAndEnqueue context row payload merchant settings).Obeys checks (.granted payload.merchantId)
      fun _ _ => True := by
  unfold Outbox.createAndEnqueue
  refine obeys_perform_bind.mpr ⟨trivial, fun _ => trivial, fun customer => ?_⟩
  cases customer with
  | none => trivial
  | some customer =>
    refine obeys_perform_bind.mpr ⟨trivial, fun _ => trivial, fun recentProducts => ?_⟩
    refine Outbox.obeys_orThrow (fun _ => trivial) fun aiTone => ?_
    refine obeys_perform_bind.mpr ⟨rfl, fun _ => trivial, fun aiGenerationId => ?_⟩
    exact ⟨trivial, fun _ => trivial⟩

theorem generateForTransition_checks :
    (Outbox.generateForTransition context row payload).Obeys checks (.unasked none) fun _ _ => True := by
  unfold Outbox.generateForTransition
  refine obeys_perform_bind.mpr ⟨trivial, fun _ => trivial, fun billing => ?_⟩
  refine obeys_ite.mpr ⟨fun _ => trivial, fun _ => ?_⟩
  refine obeys_perform_bind.mpr ⟨trivial, fun _ => trivial, fun merchant => ?_⟩
  cases merchant with
  | none => trivial
  | some merchant =>
    refine obeys_perform_bind.mpr ⟨trivial, fun _ => trivial, fun settings => ?_⟩
    cases settings with
    | none => trivial
    | some settings =>
      apply (obeys_bind ..).mpr
      refine withinHourlyCap_checks.mono fun reached outcome grants => ?_
      cases outcome with
      | error thrown => trivial
      | ok within =>
        refine obeys_ite.mpr ⟨fun passes => ?_, fun _ => trivial⟩
        subst passes
        rw [grants rfl]
        apply (obeys_bind ..).mpr
        refine withinSpendCap_checks.mono fun reached outcome kept => ?_
        cases outcome with
        | error thrown => trivial
        | ok within =>
          refine obeys_ite.mpr ⟨fun passes => ?_, fun _ => trivial⟩
          subst passes
          rw [kept rfl]
          exact createAndEnqueue_checks

/-- A handler asks once, with the cap of the settings it has read, and creates at most one generation,
for the same merchant and only when it was let through. -/
theorem handleCustomerStateChanged_checks :
    (Outbox.handleCustomerStateChanged context row).Obeys checks (.unasked none) fun _ _ => True := by
  unfold Outbox.handleCustomerStateChanged
  refine Outbox.obeys_orThrow (fun _ => trivial) fun payload => ?_
  exact obeys_ite.mpr ⟨fun _ => generateForTransition_checks, fun _ => trivial⟩

/-- What becomes of a check by the answer of the limiter. -/
def Check.answered (merchantId : MerchantId) : Except Thrown IncrementAndCheckResult → Check
  | .ok result => if result.allowed then .granted merchantId else .closed
  | .error _ => .closed

variable {reloaded : Bool}

theorem loadScript_obeys :
    loadScript.Obeys stages (.keyed merchantId capPerHour bucket reloaded) fun reached outcome =>
      reached = match outcome with
        | .ok _ => .keyed merchantId capPerHour bucket reloaded
        | .error _ => .between .closed := by
  unfold loadScript
  refine obeys_perform_bind.mpr ⟨trivial, fun _ => rfl, fun sha => ?_⟩
  exact obeys_perform_bind.mpr ⟨trivial, fun _ => rfl, fun _ => rfl⟩

theorem scriptSha_obeys :
    scriptSha.Obeys stages (.keyed merchantId capPerHour bucket reloaded) fun reached outcome =>
      reached = match outcome with
        | .ok _ => .keyed merchantId capPerHour bucket reloaded
        | .error _ => .between .closed := by
  unfold scriptSha
  refine obeys_perform_bind.mpr ⟨trivial, fun _ => rfl, fun cached => ?_⟩
  cases cached with
  | some sha => rfl
  | none => exact loadScript_obeys

/-- The script is run again only after a reply that it was not run. -/
theorem evalIncrWithTtl_obeys :
    (evalIncrWithTtl (rateKey merchantId bucket)).Obeys stages (.keyed merchantId capPerHour bucket false) fun reached outcome =>
      reached = match outcome with
        | .ok count => .counted merchantId capPerHour bucket count
        | .error _ => .between .closed := by
  unfold evalIncrWithTtl
  apply (obeys_bind ..).mpr
  refine scriptSha_obeys.mono fun reached outcome known => ?_
  cases outcome with
  | error thrown => exact known
  | ok sha =>
    subst known
    apply (obeys_tryCatch ..).mpr
    refine ⟨⟨rfl, rfl⟩, fun answer => ?_⟩
    cases answer with
    | ok count => rfl
    | error thrown =>
      refine obeys_ite.mpr ⟨fun unknown => ?_, fun other => if_neg other⟩
      have again : stages.next (.keyed merchantId capPerHour bucket false)
          (.redis (.evalsha sha (rateKey merchantId bucket) hourTtlSeconds)) (.error thrown) =
          .keyed merchantId capPerHour bucket true := if_pos unknown
      rw [again]
      apply (obeys_bind ..).mpr
      refine loadScript_obeys.mono fun reached outcome known => ?_
      cases outcome with
      | error thrown => exact known
      | ok sha =>
        subst known
        refine ⟨⟨rfl, rfl⟩, fun answer => ?_⟩
        cases answer <;> rfl

theorem incrementAndCheck_obeys :
    (incrementAndCheck merchantId capPerHour).Obeys stages (.between (.unasked (some (merchantId, capPerHour))))
      fun reached outcome => reached = .between (Check.answered merchantId outcome) := by
  unfold incrementAndCheck
  refine obeys_perform_bind.mpr ⟨trivial, fun _ => rfl, fun now => ?_⟩
  apply (obeys_bind ..).mpr
  refine evalIncrWithTtl_obeys.mono fun reached outcome known => ?_
  cases outcome with
  | error thrown => exact known
  | ok count =>
    subst known
    refine obeys_perform_bind.mpr ⟨⟨rfl, rfl, rfl⟩, fun _ => rfl, fun _ => ?_⟩
    change Stage.between _ = Stage.between _
    simp [Check.answered]

theorem implement_obeys {check : Check} {request : Outbox.Call} (allowed : checks.allowed check request) :
    (implement request).Obeys stages (.between check) fun reached answer => .between (checks.next check request answer) = reached := by
  cases request with
  | incrementAndCheck merchantId capPerHour =>
    cases check with
    | unasked settings =>
      cases allowed
      refine incrementAndCheck_obeys.mono fun reached outcome known => ?_
      rw [known]
      cases outcome <;> rfl
    | granted owner => cases allowed
    | closed => cases allowed
  | _ => exact ⟨allowed, fun _ => rfl⟩

theorem handleCustomerStateChanged_obeys :
    (handleCustomerStateChanged context row).Obeys stages (.between (.unasked none)) fun _ _ => True := by
  have told := @Obeys.carriedOut _ _ _ _ _ _ _ _ stages checks implement (fun check stage => .between check = stage) _ _ _ _
    (@handleCustomerStateChanged_checks context row) rfl fun check stage request same allowed => by
      subst same
      exact implement_obeys allowed
  exact told.mono fun _ _ _ => trivial

end Handlers

section Ledgers

/-- The histories of a world. -/
structure History where
  increments : List Increment := []
  answers : List Answer := []
  generations : List Created := []

def World.history (world : World) : History := ⟨world.increments, world.answers, world.generations⟩

def View.history (view : View) : History := ⟨view.increments, view.answers, view.generations⟩

/-- The counts that the runs for a key returned, in order. -/
def countsOf (key : String) (increments : List Increment) : List Int :=
  (increments.filter fun increment => increment.key == key).map (·.count)

/-- `1, 2, …` -/
def ascending (length : Nat) : List Int := (List.range length).map fun index : Nat => (index : Int) + 1

/-- A stored counter has been raised so many times, and lasts until the given time. -/
def Backed (counter : Option Counter) (raised : Nat) (until_ : Date) : Prop :=
  if raised = 0 then counter = none
  else ∃ expiresAt, counter = some ⟨raised, some expiresAt⟩ ∧ until_ ≤ expiresAt

def endOf (bucket : Int) : Date := (bucket + 1) * hourBucketMs

structure History.Sound (caps : MerchantId → Int) (history : History) : Prop where
  ascends : ∀ key, countsOf key history.increments = ascending (countsOf key history.increments).length
  once : (history.increments.map (·.caller)).Nodup
  answersOnce : (history.answers.map (·.caller)).Nodup
  answered : ∀ answer ∈ history.answers,
    ⟨answer.caller, rateKey answer.merchantId answer.bucket, answer.result.currentCount⟩ ∈ history.increments ∧
      answer.result.allowed = decide (answer.result.currentCount ≤ caps answer.merchantId)
  createdOnce : (history.generations.map (·.caller)).Nodup
  granted : ∀ created ∈ history.generations, ∃ answer ∈ history.answers, answer.caller = created.caller ∧
    answer.merchantId = created.merchantId ∧ answer.result.allowed = true

/-- What is known of a caller by its stage. -/
def Stage.Sound (caps : MerchantId → Int) (slot : Nat) (history : History) : Stage → Prop
  | .between (.unasked settings) =>
    (∀ merchantId capPerHour, settings = some (merchantId, capPerHour) → capPerHour = caps merchantId) ∧
      slot ∉ history.increments.map (·.caller)
  | .keyed merchantId capPerHour _ _ => capPerHour = caps merchantId ∧ slot ∉ history.increments.map (·.caller)
  | .counted merchantId capPerHour bucket count => capPerHour = caps merchantId ∧
      ⟨slot, rateKey merchantId bucket, count⟩ ∈ history.increments ∧ slot ∉ history.answers.map (·.caller)
  | .between (.granted merchantId) => (∃ answer ∈ history.answers, answer.caller = slot ∧
      answer.merchantId = merchantId ∧ answer.result.allowed = true) ∧ slot ∉ history.generations.map (·.caller)
  | .between .closed => True

/-- The history has grown, by entries of one caller alone. -/
structure Only (caller : Nat) (history next : History) : Prop where
  increments : ∃ added, next.increments = history.increments ++ added ∧ ∀ entry ∈ added, entry.caller = caller
  answers : ∃ added, next.answers = history.answers ++ added ∧ ∀ entry ∈ added, entry.caller = caller
  generations : ∃ added, next.generations = history.generations ++ added ∧ ∀ entry ∈ added, entry.caller = caller

theorem notMem_append {Entry : Type} {callerOf : Entry → Nat} {slot caller : Nat} {entries added : List Entry}
    (absent : slot ∉ entries.map callerOf) (mine : ∀ entry ∈ added, callerOf entry = caller) (apart : slot ≠ caller) :
    slot ∉ (entries ++ added).map callerOf := by
  rw [List.map_append, List.mem_append, not_or]
  refine ⟨absent, ?_⟩
  rw [List.mem_map]
  rintro ⟨entry, member, same⟩
  exact apart (same.symm.trans (mine entry member))

theorem Stage.Sound.elsewhere {caps : MerchantId → Int} {slot caller : Nat} {history next : History} {stage : Stage}
    (sound : stage.Sound caps slot history) (only : Only caller history next) (apart : slot ≠ caller) :
    stage.Sound caps slot next := by
  obtain ⟨increments, grown, mine⟩ := only.increments
  obtain ⟨answers, answersGrown, answersMine⟩ := only.answers
  obtain ⟨generations, generationsGrown, generationsMine⟩ := only.generations
  cases stage with
  | between check =>
    cases check with
    | unasked settings =>
      refine ⟨sound.1, ?_⟩
      rw [grown]
      exact notMem_append sound.2 mine apart
    | granted merchantId =>
      obtain ⟨⟨answer, listed, told⟩, absent⟩ := sound
      refine ⟨⟨answer, ?_, told⟩, ?_⟩
      · rw [answersGrown]
        exact List.mem_append_left _ listed
      · rw [generationsGrown]
        exact notMem_append absent generationsMine apart
    | closed => trivial
  | keyed merchantId capPerHour bucket reloaded =>
    refine ⟨sound.1, ?_⟩
    rw [grown]
    exact notMem_append sound.2 mine apart
  | counted merchantId capPerHour bucket count =>
    refine ⟨sound.1, ?_, ?_⟩
    · rw [grown]
      exact List.mem_append_left _ sound.2.1
    · rw [answersGrown]
      exact notMem_append sound.2.2 answersMine apart

variable {caps : MerchantId → Int} {history : History} {caller : Nat} {merchantId : MerchantId} {bucket count : Int}

theorem Only.refl : Only caller history history where
  increments := ⟨[], (List.append_nil _).symm, nofun⟩
  answers := ⟨[], (List.append_nil _).symm, nofun⟩
  generations := ⟨[], (List.append_nil _).symm, nofun⟩

theorem nodup_snoc {Entry : Type} {callerOf : Entry → Nat} {entries : List Entry} {entry : Entry}
    (once : (entries.map callerOf).Nodup) (absent : callerOf entry ∉ entries.map callerOf) :
    ((entries ++ [entry]).map callerOf).Nodup := by
  rw [List.map_append, List.map_singleton, List.nodup_append]
  refine ⟨once, List.nodup_singleton _, ?_⟩
  rintro present member added single rfl
  exact absent (List.mem_singleton.mp single ▸ member)

theorem ascending_succ (length : Nat) : ascending (length + 1) = ascending length ++ [(length : Int) + 1] := by
  rw [ascending, List.range_succ, List.map_append]
  rfl

theorem countsOf_append {key : String} {increments : List Increment} {added : Increment} :
    countsOf key (increments ++ [added]) =
      countsOf key increments ++ if added.key = key then [added.count] else [] := by
  rw [countsOf, countsOf, List.filter_append, List.map_append]
  by_cases same : added.key = key <;> simp [same]

/-- A run of the script, for a caller without one, that returns the next count. -/
theorem History.Sound.increment {key : String} (sound : history.Sound caps) (absent : caller ∉ history.increments.map (·.caller))
    (counts : count = (countsOf key history.increments).length + 1) :
    History.Sound caps { history with increments := history.increments ++ [⟨caller, key, count⟩] } where
  ascends := by
    intro other
    dsimp only
    rw [countsOf_append]
    by_cases same : key = other
    · subst same
      rw [if_pos rfl, List.length_append, List.length_singleton, ascending_succ, ← sound.ascends, counts]
    · rw [if_neg same, List.append_nil]
      exact sound.ascends other
  once := nodup_snoc sound.once absent
  answersOnce := sound.answersOnce
  answered := fun answer listed => ⟨List.mem_append_left _ (sound.answered answer listed).1, (sound.answered answer listed).2⟩
  createdOnce := sound.createdOnce
  granted := sound.granted

theorem History.Sound.report (sound : history.Sound caps) (absent : caller ∉ history.answers.map (·.caller))
    (ran : ⟨caller, rateKey merchantId bucket, count⟩ ∈ history.increments) :
    History.Sound caps { history with
      answers := history.answers ++ [⟨caller, merchantId, bucket, ⟨decide (count ≤ caps merchantId), count⟩⟩] } where
  ascends := sound.ascends
  once := sound.once
  answersOnce := nodup_snoc sound.answersOnce absent
  answered := by
    intro answer listed
    rcases List.mem_append.mp listed with earlier | added
    · exact sound.answered answer earlier
    · cases List.mem_singleton.mp added
      exact ⟨ran, rfl⟩
  createdOnce := sound.createdOnce
  granted := by
    intro created listed
    obtain ⟨answer, earlier, told⟩ := sound.granted created listed
    exact ⟨answer, List.mem_append_left _ earlier, told⟩

theorem History.Sound.create (sound : history.Sound caps) (absent : caller ∉ history.generations.map (·.caller))
    (granted : ∃ answer ∈ history.answers, answer.caller = caller ∧ answer.merchantId = merchantId ∧ answer.result.allowed = true) :
    History.Sound caps { history with generations := history.generations ++ [⟨caller, merchantId⟩] } where
  ascends := sound.ascends
  once := sound.once
  answersOnce := sound.answersOnce
  answered := sound.answered
  createdOnce := nodup_snoc sound.createdOnce absent
  granted := by
    intro created listed
    rcases List.mem_append.mp listed with earlier | added
    · exact sound.granted created earlier
    · cases List.mem_singleton.mp added
      exact granted

/-- Within the hour of the key, the script raises a backed counter by one, and the counter then lasts
until the end of the hour. -/
theorem incrWithTtl_backed {redis : Redis} {now : Date} {raised : Nat}
    (backed : Backed (redis.counters (rateKey merchantId bucket)) raised (endOf bucket)) (within : hourBucket now = bucket) :
    (redis.incrWithTtl now (rateKey merchantId bucket) hourTtlSeconds).1 = raised + 1 ∧
      Backed ((redis.incrWithTtl now (rateKey merchantId bucket) hourTtlSeconds).2.counters (rateKey merchantId bucket))
        (raised + 1) (endOf bucket) := by
  have bounds : bucket * 3_600_000 ≤ now ∧ now < (bucket + 1) * 3_600_000 := by
    rw [← within, hourBucket, hourBucketMs]
    exact ⟨Int.ediv_mul_le now (by decide), Int.lt_ediv_add_one_mul_self now (by decide)⟩
  have lasts : now ≤ endOf bucket := bounds.2.le
  have ttl : endOf bucket ≤ now + (hourTtlSeconds : Int) * 1000 := by
    calc
      endOf bucket = bucket * 3_600_000 + 3_600_000 := by rw [endOf, hourBucketMs, add_mul, one_mul]
      _ ≤ now + (hourTtlSeconds : Int) * 1000 := Int.add_le_add_right bounds.1 _
  unfold Backed at backed
  unfold Backed Redis.incrWithTtl
  split at backed
  · rename_i none
    subst none
    simp [Redis.get, backed, ttl]
  · obtain ⟨expiresAt, stored, late⟩ := backed
    have alive : redis.get now (rateKey merchantId bucket) = some ⟨raised, some expiresAt⟩ := by
      simp [Redis.get, stored, lasts.trans late]
    have more : (raised : Int) + 1 ≠ 1 := by omega
    simp [alive, more, late]

variable {digest : String → String} {view next : View} {stage : Stage} {request : Call} {choice : Choice}
  {answer : Except Thrown request.Value}

/-- The counters of the limiter are backed by the runs of the script. -/
def CountersBacked (redis : Redis) (increments : List Increment) : Prop :=
  ∀ merchantId bucket, Backed (redis.counters (rateKey merchantId bucket))
    (countsOf (rateKey merchantId bucket) increments).length (endOf bucket)

/-- What one call of a caller leaves. -/
structure Kept (caps : MerchantId → Int) (caller : Nat) (view next : View) (stage : Stage) : Prop where
  history : next.history.Sound caps
  backed : CountersBacked next.redis next.increments
  only : Only caller view.history next.history
  stage : stage.Sound caps caller next.history

/-- A call that leaves the histories and the counters. -/
theorem Kept.same (sound : view.history.Sound caps) (backed : CountersBacked view.redis view.increments)
    (histories : next.history = view.history) (counters : next.redis.counters = view.redis.counters)
    (known : stage.Sound caps caller view.history) : Kept caps caller view next stage where
  history := histories ▸ sound
  backed := by
    have increments : next.increments = view.increments := congrArg History.increments histories
    unfold CountersBacked
    rw [counters, increments]
    exact backed
  only := histories ▸ Only.refl
  stage := histories ▸ known

theorem notMem_answers (sound : history.Sound caps) (absent : caller ∉ history.increments.map (·.caller)) :
    caller ∉ history.answers.map (·.caller) := by
  rw [List.mem_map]
  rintro ⟨answer, listed, rfl⟩
  exact absent (List.mem_map.mpr ⟨_, (sound.answered answer listed).1, rfl⟩)

theorem notMem_generations (sound : history.Sound caps) (absent : caller ∉ history.answers.map (·.caller)) :
    caller ∉ history.generations.map (·.caller) := by
  rw [List.mem_map]
  rintro ⟨created, listed, rfl⟩
  obtain ⟨answer, told, same, _⟩ := sound.granted created listed
  exact absent (List.mem_map.mpr ⟨answer, told, same⟩)

/-- A run of the script that throws leaves the key, to be tried once more, or ends the call. -/
theorem keyed_error {capPerHour : Int} {reloaded : Bool} {sha key : String} {ttlSeconds : Nat} {thrown : Thrown}
    (known : (Stage.keyed merchantId capPerHour bucket reloaded).Sound caps caller history) :
    (stages.next (.keyed merchantId capPerHour bucket reloaded) (.redis (.evalsha sha key ttlSeconds))
      (.error thrown)).Sound caps caller history := by
  cases reloaded with
  | true => trivial
  | false =>
    change Stage.Sound caps caller history (if thrown = noScript then _ else _)
    split
    · exact known
    · trivial

theorem evalsha_kept {capPerHour : Int} {reloaded : Bool} {sha : String} (sound : view.history.Sound caps)
    (backed : CountersBacked view.redis view.increments)
    (known : (Stage.keyed merchantId capPerHour bucket reloaded).Sound caps caller view.history)
    (within : hourBucket view.clock = bucket) {answer : Except Thrown Int}
    (executed : exec digest caller view (.redis (.evalsha sha (rateKey merchantId bucket) hourTtlSeconds)) choice =
      some (answer, next)) :
    Kept caps caller view next (stages.next (.keyed merchantId capPerHour bucket reloaded)
      (.redis (.evalsha sha (rateKey merchantId bucket) hourTtlSeconds)) answer) := by
  unfold exec at executed
  dsimp only at executed
  split at executed
  · cases executed
    exact .same sound backed rfl rfl (keyed_error known)
  · split at executed
    · have raised := incrWithTtl_backed (backed merchantId bucket) within
      cases executed
      refine ⟨sound.increment known.2 raised.1, ?_, ?_, ?_⟩
      · intro owner hour
        dsimp only
        rw [countsOf_append]
        dsimp only
        by_cases same : rateKey merchantId bucket = rateKey owner hour
        · obtain ⟨rfl, rfl⟩ := rateKey_injective same
          rw [if_pos rfl, List.length_append, List.length_singleton]
          exact raised.2
        · rw [if_neg same, List.append_nil]
          have kept := backed owner hour
          unfold Redis.incrWithTtl
          dsimp only
          rw [Function.update_of_ne (Ne.symm same)]
          exact kept
      · exact ⟨⟨_, rfl, fun entry single => congrArg Increment.caller (List.mem_singleton.mp single)⟩,
          Only.refl.answers, Only.refl.generations⟩
      · unfold Choice.answer
        split
        · cases reloaded <;> trivial
        · have unanswered := notMem_answers sound known.2
          exact ⟨known.1, List.mem_append_right _ List.mem_cons_self, unanswered⟩
    · cases executed
      refine .same sound backed rfl rfl ?_
      split <;> exact keyed_error known

theorem report_kept {capPerHour : Int} (sound : view.history.Sound caps) (backed : CountersBacked view.redis view.increments)
    (known : (Stage.counted merchantId capPerHour bucket count).Sound caps caller view.history) {answer : Except Thrown Unit}
    (executed : exec digest caller view (.redis (.report merchantId bucket ⟨decide (count ≤ capPerHour), count⟩)) choice =
      some (answer, next)) :
    Kept caps caller view next (stages.next (.counted merchantId capPerHour bucket count)
      (.redis (.report merchantId bucket ⟨decide (count ≤ capPerHour), count⟩)) answer) := by
  cases executed
  obtain ⟨rfl, ran, absent⟩ := known
  refine ⟨sound.report absent ran, backed, ?_, ?_⟩
  · exact ⟨Only.refl.increments, ⟨_, rfl, fun entry single => congrArg Answer.caller (List.mem_singleton.mp single)⟩,
      Only.refl.generations⟩
  · change Stage.Sound caps caller _ (.between (if count ≤ caps merchantId then _ else _))
    split
    · rename_i fits
      have uncreated := notMem_generations sound absent
      exact ⟨⟨_, List.mem_append_right _ List.mem_cons_self, rfl, rfl, decide_eq_true fits⟩, uncreated⟩
    · trivial

theorem create_kept {eventId : String} {customerId : CustomerId} {args : String → MessageId → GenerationArgs}
    (sound : view.history.Sound caps) (backed : CountersBacked view.redis view.increments)
    (known : (Stage.between (.granted merchantId)).Sound caps caller view.history) {answer : Except Thrown String}
    (executed : exec digest caller view (.handler (.createGeneration eventId merchantId customerId args)) choice =
      some (answer, next)) :
    Kept caps caller view next (stages.next (.between (.granted merchantId))
      (.handler (.createGeneration eventId merchantId customerId args)) answer) := by
  obtain ⟨⟨_, after⟩, _, same⟩ := Option.map_eq_some_iff.mp executed
  cases same
  have closes : stages.next (.between (.granted merchantId)) (.handler (.createGeneration eventId merchantId customerId args))
      answer = .between .closed := rfl
  rw [closes]
  by_cases none : after.created = []
  · have histories : (view.returned caller (.createGeneration eventId merchantId customerId args) after).history = view.history := by
      simp [View.history, View.returned, none]
    exact .same sound backed histories rfl trivial
  · have histories : (view.returned caller (.createGeneration eventId merchantId customerId args) after).history =
        { view.history with generations := view.generations ++ [⟨caller, merchantId⟩] } := by
      simp [View.history, View.returned, none]
    refine ⟨?_, backed, ?_, trivial⟩
    · rw [histories]
      exact sound.create known.2 known.1
    · rw [histories]
      exact ⟨Only.refl.increments, Only.refl.answers,
        ⟨_, rfl, fun entry single => congrArg Created.caller (List.mem_singleton.mp single)⟩⟩

/-- The settings of every merchant hold its fixed cap. -/
def FixedCaps (caps : MerchantId → Int) (db : Db) : Prop :=
  ∀ settings ∈ db.merchantSettings.rows, settings.hourlyGenerationCap = caps settings.merchantId

theorem settings_kept {check : Check} (sound : view.history.Sound caps) (backed : CountersBacked view.redis view.increments)
    (known : (Stage.between check).Sound caps caller view.history) (fixed : FixedCaps caps view.db)
    {answer : Except Thrown (Option MerchantSettings)}
    (executed : exec digest caller view (.handler (.query (.settings merchantId))) choice = some (answer, next)) :
    Kept caps caller view next (stages.next (.between check) (.handler (.query (.settings merchantId))) answer) := by
  unfold exec at executed
  obtain ⟨⟨_, after⟩, ran, same⟩ := Option.map_eq_some_iff.mp executed
  cases same
  have histories : (view.returned caller (.query (.settings merchantId)) after).history = view.history := rfl
  apply Kept.same sound backed histories rfl
  cases check with
  | unasked settings =>
    cases answer with
    | error thrown => exact known
    | ok found =>
      cases found with
      | none => exact known
      | some settings =>
        refine ⟨?_, known.2⟩
        rintro owner capPerHour same
        cases same
        rcases Outbox.Choice.carryOut_cases (Option.some.inj ran) with ⟨_, lost, _⟩ | ⟨_, _, lost, _⟩ | ⟨_, _, found, _⟩
        · cases lost
        · cases lost
        · obtain ⟨stored, named⟩ := Table.find?_mem (Except.ok.inj found).symm
          rw [fixed settings stored, beq_iff_eq.mp named]
  | granted owner => cases answer <;> exact known
  | closed => cases answer <;> trivial

/-- A call of the handler that neither moves its check nor creates. -/
theorem handler_kept {check : Check} {request : Outbox.Call} {answer : Except Thrown request.Value}
    (sound : view.history.Sound caps) (backed : CountersBacked view.redis view.increments)
    (known : (Stage.between check).Sound caps caller view.history) (stays : check.next request answer = check)
    (creates : ∀ after, (view.returned caller request after).generations = view.generations)
    (executed : exec digest caller view (.handler request) choice = some (answer, next)) :
    Kept caps caller view next (stages.next (.between check) (.handler request) answer) := by
  obtain ⟨⟨_, after⟩, _, same⟩ := Option.map_eq_some_iff.mp executed
  cases same
  have histories : (view.returned caller request after).history = view.history := by
    rw [View.history, creates after]
    rfl
  apply Kept.same sound backed histories rfl
  change Stage.Sound caps caller view.history (.between (check.next request answer))
  rw [stays]
  exact known

/-- The digest is cached and the script loaded, and the clock is read, beside the histories. -/
theorem redis_kept {request : RedisCall} {answer : Except Thrown request.Value}
    (allowed : stages.allowed stage (.redis request)) (sound : view.history.Sound caps)
    (backed : CountersBacked view.redis view.increments) (known : stage.Sound caps caller view.history)
    (within : ∀ merchantId capPerHour bucket reloaded, stage = .keyed merchantId capPerHour bucket reloaded →
      ∀ sha key ttlSeconds, request = .evalsha sha key ttlSeconds → hourBucket view.clock = bucket)
    (executed : exec digest caller view (.redis request) choice = some (answer, next)) :
    Kept caps caller view next (stages.next stage (.redis request) answer) := by
  cases stage with
  | between check =>
    cases check with
    | granted _ | closed => cases request <;> cases allowed
    | unasked settings =>
      cases settings with
      | none => cases request <;> cases allowed
      | some settings =>
        cases request with
        | clock =>
          cases executed
          exact .same sound backed rfl rfl ⟨known.1 _ _ rfl, known.2⟩
        | _ => cases allowed
  | keyed merchantId capPerHour bucket reloaded =>
    cases request with
    | clock | report _ _ _ => cases allowed
    | cachedScriptSha | setCachedScriptSha sha =>
      cases executed
      exact .same sound backed rfl rfl known
    | scriptLoad script =>
      unfold exec at executed
      dsimp only at executed
      split at executed
      · cases executed
        exact .same sound backed rfl rfl trivial
      · cases executed
        refine .same sound backed rfl rfl ?_
        unfold Choice.answer
        split
        · trivial
        · exact known
    | evalsha sha key ttlSeconds =>
      obtain ⟨rfl, rfl⟩ := allowed
      exact evalsha_kept sound backed known (within _ _ _ _ rfl _ _ _ rfl) executed
  | counted merchantId capPerHour bucket count =>
    cases request with
    | report owner hour result =>
      obtain ⟨rfl, rfl, rfl⟩ := allowed
      exact report_kept sound backed known executed
    | _ => cases allowed

theorem exec_kept (allowed : stages.allowed stage request) (sound : view.history.Sound caps)
    (backed : CountersBacked view.redis view.increments) (known : stage.Sound caps caller view.history)
    (fixed : FixedCaps caps view.db)
    (within : ∀ merchantId capPerHour bucket reloaded, stage = .keyed merchantId capPerHour bucket reloaded →
      ∀ sha key ttlSeconds, request = .redis (.evalsha sha key ttlSeconds) → hourBucket view.clock = bucket)
    (executed : exec digest caller view request choice = some (answer, next)) :
    Kept caps caller view next (stages.next stage request answer) := by
  cases request with
  | handler request =>
    cases stage with
    | keyed _ _ _ _ | counted _ _ _ _ => cases allowed
    | between check =>
      cases request with
      | incrementAndCheck _ _ => cases allowed
      | createGeneration eventId merchantId customerId args =>
        cases check with
        | unasked _ | closed => cases allowed
        | granted owner =>
          obtain rfl : merchantId = owner := allowed
          exact create_kept sound backed known executed
      | query read =>
        cases read with
        | settings merchantId => exact settings_kept sound backed known fixed executed
        | _ =>
          refine handler_kept sound backed known ?_ (fun _ => rfl) executed
          cases check <;> rfl
      | _ =>
        refine handler_kept sound backed known ?_ (fun _ => rfl) executed
        cases check <;> rfl
  | redis request =>
    refine redis_kept allowed sound backed known ?_ executed
    intro merchantId capPerHour bucket reloaded keyed sha key ttlSeconds runs
    exact within merchantId capPerHour bucket reloaded keyed sha key ttlSeconds (congrArg Call.redis runs)

end Ledgers

section Runs

variable {caps : MerchantId → Int} {context : DrainerContext} {digest : String → String} {world next : World} {label : Label}
  {start : World} {merchantId : MerchantId} {bucket : Int}

/-- The hour of the key that a caller is about to send to Redis. -/
def Caller.sending? (caller : Caller) : Option Int :=
  match caller.phase, caller.pending? with
  | .keyed _ _ bucket _, some (.redis (.evalsha _ _ _)) => some bucket
  | _, _ => none

/-- The caps are fixed, and a command reaches Redis within the hour that its key was computed for. -/
def Proper (caps : MerchantId → Int) (world : World) : Label → Prop
  | .call _ merchantId capPerHour => capPerHour = caps merchantId
  | .act slot _ => FixedCaps caps world.db ∧
    ∀ caller ∈ world.callers.task? slot, ∀ bucket ∈ Caller.sending? caller, hourBucket world.clock = bucket
  | .transition _ _ | .drop _ | .restart _ | .flushScripts | .tick _ | .outside _ => True

instance (world : World) (label : Label) : Decidable (Proper caps world label) :=
  match label with
  | .call _ _ _ => inferInstanceAs (Decidable (_ = _))
  | .act _ _ => inferInstanceAs (Decidable ((∀ settings ∈ _, _) ∧ ∀ caller ∈ _, ∀ bucket ∈ _, _))
  | .transition _ _ | .drop _ | .restart _ | .flushScripts | .tick _ | .outside _ => inferInstanceAs (Decidable True)

structure Tallied (caps : MerchantId → Int) (world : World) : Prop where
  history : world.history.Sound caps
  backed : CountersBacked world.redis world.increments
  known : ∀ increment ∈ world.increments, increment.caller < world.callers.length
  callers : ∀ slot caller, world.callers.task? slot = some caller →
    caller.Follows stages (fun _ _ => True) ∧ caller.phase.Sound caps slot world.history

theorem call_obeys {capPerHour : Int} :
    (do let _ ← incrementAndCheck merchantId capPerHour : Program Unit).Obeys stages
      (.between (.unasked (some (merchantId, capPerHour)))) fun _ _ => True := by
  apply (obeys_bind ..).mpr
  refine incrementAndCheck_obeys.mono fun reached outcome _ => ?_
  cases outcome <;> trivial

theorem Tallied.spawn {caller : Caller} {settings : Option (MerchantId × Int)} (tallied : Tallied caps world)
    (unasked : caller.phase = .between (.unasked settings))
    (fixed : ∀ merchantId capPerHour, settings = some (merchantId, capPerHour) → capPerHour = caps merchantId)
    (follows : caller.Follows stages fun _ _ => True) : Tallied caps { world with callers := world.callers.spawn caller } where
  history := tallied.history
  backed := tallied.backed
  known := by
    intro increment ran
    rw [Pool.length_spawn]
    exact (tallied.known increment ran).trans (Nat.lt_succ_self _)
  callers := by
    intro slot present live
    rcases Nat.lt_succ_iff_lt_or_eq.mp (Pool.length_spawn ▸ Pool.task?_lt live) with earlier | rfl
    · rw [Pool.task?_spawn_lt earlier] at live
      exact tallied.callers slot present live
    · rw [Pool.task?_spawn_last] at live
      cases live
      rw [unasked]
      refine ⟨follows, fixed, ?_⟩
      rw [List.mem_map]
      rintro ⟨increment, ran, same⟩
      exact (tallied.known increment ran).ne same

theorem Tallied.act {slot : Nat} {choice : Choice} {caller : Caller} (tallied : Tallied caps world)
    (live : world.callers.task? slot = some caller) (fixed : FixedCaps caps world.db) (arrives : ∀ bucket ∈ Caller.sending? caller, hourBucket world.clock = bucket)
    (moved : caller.act digest slot choice world = some next) : Tallied caps next := by
  obtain ⟨⟨view, after⟩, advanced, rfl⟩ := Option.map_eq_some_iff.mp moved
  obtain ⟨follows, known⟩ := tallied.callers slot caller live
  obtain ⟨request, answer, pending, allowed, executed, _, reached, onward⟩ := follows.advance advanced
  have kept : Kept caps slot (world.view caller.tag) view (stages.next caller.phase request answer) := by
    refine exec_kept allowed tallied.history tallied.backed known fixed ?_ executed
    rintro owner capPerHour hour reloaded keyed sha key ttlSeconds rfl
    apply arrives
    rw [Caller.sending?, keyed, pending]
    rfl
  refine ⟨kept.history, kept.backed, ?_, ?_⟩
  · intro increment ran
    dsimp only at ran ⊢
    rw [Pool.length_put]
    obtain ⟨added, grown, mine⟩ := kept.only.increments
    have ran : increment ∈ world.increments ++ added := grown ▸ ran
    rcases List.mem_append.mp ran with earlier | fresh
    · exact tallied.known increment earlier
    · rw [mine increment fresh]
      exact Pool.task?_lt live
  · intro other present found
    rcases Pool.task?_put_cases live found with ⟨rfl, rfl⟩ | ⟨apart, found⟩
    · refine ⟨onward, ?_⟩
      rw [reached]
      exact kept.stage
    · obtain ⟨follows, known⟩ := tallied.callers other present found
      exact ⟨follows, known.elsewhere kept.only (Ne.symm apart)⟩

theorem tallied_step (tallied : Tallied caps world) (proper : Proper caps world label)
    (moved : (machine context digest).step world label = some next) : Tallied caps next := by
  cases label with
  | call process merchantId capPerHour =>
    cases moved
    refine tallied.spawn rfl ?_ call_obeys
    rintro owner cap ⟨⟩
    exact proper
  | transition process row =>
    cases moved
    exact tallied.spawn rfl nofun handleCustomerStateChanged_obeys
  | act slot choice =>
    obtain ⟨caller, live, moved⟩ := Option.bind_eq_some_iff.mp moved
    exact tallied.act live proper.1 (proper.2 caller live) moved
  | drop slot =>
    obtain ⟨caller, live, rfl⟩ := Option.map_eq_some_iff.mp moved
    refine ⟨tallied.history, tallied.backed, ?_, ?_⟩
    · intro increment ran
      rw [Pool.length_clear]
      exact tallied.known increment ran
    · intro other present found
      by_cases same : slot = other
      · subst same
        rw [Pool.task?_clear] at found
        cases found
      · rw [Pool.task?_clear_other same] at found
        exact tallied.callers other present found
  | restart process =>
    cases moved
    exact ⟨tallied.history, tallied.backed, tallied.known, tallied.callers⟩
  | flushScripts =>
    cases moved
    exact ⟨tallied.history, tallied.backed, tallied.known, tallied.callers⟩
  | tick now =>
    obtain ⟨_, rfl⟩ := Option.ite_some_none_eq_some.mp moved
    exact ⟨tallied.history, tallied.backed, tallied.known, tallied.callers⟩
  | outside after =>
    cases moved
    exact ⟨tallied.history, tallied.backed, tallied.known, tallied.callers⟩

/-- Redis holds no counter of the limiter yet, and no caller has started. -/
structure Starts (world : World) : Prop where
  counters : world.redis.counters = fun _ => none
  callers : world.callers = []
  history : world.history = {}

theorem Starts.tallied (starts : Starts world) : Tallied caps world where
  history := by
    rw [starts.history]
    exact ⟨fun _ => rfl, List.nodup_nil, List.nodup_nil, nofun, List.nodup_nil, nofun⟩
  backed := by
    intro merchantId bucket
    have increments : world.increments = [] := congrArg History.increments starts.history
    rw [starts.counters, increments]
    rfl
  known := by
    have increments : world.increments = [] := congrArg History.increments starts.history
    rw [increments]
    nofun
  callers := by
    intro slot caller live
    rw [starts.callers] at live
    cases live

end Runs

section Counting

variable {caps : MerchantId → Int} {context : DrainerContext} {digest : String → String} {world start : World}
  {merchantId : MerchantId} {bucket : Int}

def answersFor (merchantId : MerchantId) (bucket : Int) (world : World) : List Answer :=
  world.answers.filter fun answer => answer.merchantId == merchantId && answer.bucket == bucket

/-- The calls that returned for a merchant and an hour. -/
def returnedFor (merchantId : MerchantId) (bucket : Int) (world : World) : Nat := (answersFor merchantId bucket world).length

/-- Those of them that were let through. -/
def allowedFor (merchantId : MerchantId) (bucket : Int) (world : World) : Nat :=
  (answersFor merchantId bucket world).countP (·.result.allowed)

/-- The runs of the script on the counter of a merchant and an hour. -/
def countedFor (merchantId : MerchantId) (bucket : Int) (world : World) : Nat :=
  (countsOf (rateKey merchantId bucket) world.increments).length

/-- The generations of handlers whose check fell in an hour. -/
def createdFor (merchantId : MerchantId) (bucket : Int) (world : World) : Nat :=
  world.generations.countP fun created => (answersFor merchantId bucket world).any (·.caller == created.caller)

theorem countP_ascending (cap : Int) (length : Nat) :
    (ascending length).countP (fun count => decide (count ≤ cap)) = min cap.toNat length := by
  induction length with
  | zero => simp [ascending]
  | succ length ih =>
    rw [ascending_succ, List.countP_append, ih, List.countP_singleton]
    by_cases fits : (length : Int) + 1 ≤ cap
    · rw [if_pos (decide_eq_true fits)]
      omega
    · rw [if_neg (by simpa using fits)]
      omega

theorem mem_answersFor {answer : Answer} :
    answer ∈ answersFor merchantId bucket world ↔
      answer ∈ world.answers ∧ answer.merchantId = merchantId ∧ answer.bucket = bucket := by
  simp [answersFor]

/-- The answers for a counter are counts of it, each at most once. -/
theorem answers_subperm (sound : world.history.Sound caps) :
    ((answersFor merchantId bucket world).map (·.result.currentCount)).Subperm (countsOf (rateKey merchantId bucket) world.increments) := by
  have once : ((answersFor merchantId bucket world).map fun answer =>
      (⟨answer.caller, rateKey merchantId bucket, answer.result.currentCount⟩ : Increment)).Nodup := by
    apply List.Nodup.of_map Increment.caller
    rw [List.map_map]
    exact sound.answersOnce.sublist (List.filter_sublist.map _)
  have ran : ((answersFor merchantId bucket world).map fun answer =>
      (⟨answer.caller, rateKey merchantId bucket, answer.result.currentCount⟩ : Increment)) ⊆
        world.increments.filter fun increment => increment.key == rateKey merchantId bucket := by
    intro increment member
    obtain ⟨answer, told, rfl⟩ := List.mem_map.mp member
    obtain ⟨listed, rfl, rfl⟩ := mem_answersFor.mp told
    exact List.mem_filter.mpr ⟨(sound.answered answer listed).1, beq_self_eq_true _⟩
  obtain ⟨listed, same, within⟩ := List.subperm_of_subset once ran
  refine ⟨listed.map (·.count), ?_, within.map _⟩
  have counts := same.map Increment.count
  rw [List.map_map] at counts
  exact counts

theorem allowedFor_eq (sound : world.history.Sound caps) :
    allowedFor merchantId bucket world = ((answersFor merchantId bucket world).map (·.result.currentCount)).countP
      fun count => decide (count ≤ caps merchantId) := by
  rw [allowedFor, List.countP_map]
  apply List.countP_congr
  intro answer told
  obtain ⟨listed, rfl, _⟩ := mem_answersFor.mp told
  rw [(sound.answered answer listed).2]
  rfl

theorem counts_within (sound : world.history.Sound caps) (cap : Int) :
    (countsOf (rateKey merchantId bucket) world.increments).countP (fun count => decide (count ≤ cap)) =
      min cap.toNat (countedFor merchantId bucket world) := by
  have ascends := sound.ascends (rateKey merchantId bucket)
  dsimp only [World.history] at ascends
  rw [countedFor, ascends, countP_ascending, ascending, List.length_map, List.length_range]

theorem returned_le_counted (sound : world.history.Sound caps) :
    returnedFor merchantId bucket world ≤ countedFor merchantId bucket world := by
  have told := (@answers_subperm caps world merchantId bucket sound).length_le
  rw [List.length_map] at told
  exact told

theorem allowed_le (sound : world.history.Sound caps) :
    allowedFor merchantId bucket world ≤ min (caps merchantId).toNat (returnedFor merchantId bucket world) := by
  have within := (@answers_subperm caps world merchantId bucket sound).countP_le fun count => decide (count ≤ caps merchantId)
  rw [← allowedFor_eq sound, counts_within sound] at within
  exact le_min (within.trans (min_le_left _ _)) List.countP_le_length

/-- Each run whose call has not returned may cost one answer. -/
theorem le_allowed (sound : world.history.Sound caps) :
    min (caps merchantId).toNat (countedFor merchantId bucket world) + returnedFor merchantId bucket world ≤
      allowedFor merchantId bucket world + countedFor merchantId bucket world := by
  have beyond := (@answers_subperm caps world merchantId bucket sound).countP_le
    fun count => decide ¬decide (count ≤ caps merchantId) = true
  have told : returnedFor merchantId bucket world = _ := (List.length_map (·.result.currentCount)).symm.trans
    (List.length_eq_countP_add_countP fun count : Int => decide (count ≤ caps merchantId))
  have ran : countedFor merchantId bucket world = _ :=
    List.length_eq_countP_add_countP fun count : Int => decide (count ≤ caps merchantId)
  rw [← allowedFor_eq sound] at told
  rw [counts_within sound] at ran
  omega

/-- Handlers create no more generations than were let through. -/
theorem created_le_allowed (sound : world.history.Sound caps) :
    createdFor merchantId bucket world ≤ allowedFor merchantId bucket world := by
  rw [createdFor, allowedFor, List.countP_eq_length_filter, List.countP_eq_length_filter, ← List.length_map Created.caller,
    ← List.length_map Answer.caller]
  apply List.Subperm.length_le
  apply List.subperm_of_subset
  · exact sound.createdOnce.sublist (List.filter_sublist.map _)
  · intro caller member
    obtain ⟨created, listed, rfl⟩ := List.mem_map.mp member
    obtain ⟨stored, told⟩ := List.mem_filter.mp listed
    obtain ⟨answer, mine, same⟩ := List.any_eq_true.mp told
    obtain ⟨granting, given, caller, _, lets⟩ := sound.granted created stored
    have one : answer = granting := by
      apply List.inj_on_of_nodup_map sound.answersOnce (mem_answersFor.mp mine).1 given
      exact (beq_iff_eq.mp same).trans caller.symm
    subst one
    exact List.mem_map.mpr ⟨answer, List.mem_filter.mpr ⟨mine, lets⟩, caller⟩

/-- What the limit amounts to for one merchant and one hour. -/
structure Limited (caps : MerchantId → Int) (merchantId : MerchantId) (bucket : Int) (world : World) : Prop where
  within : allowedFor merchantId bucket world ≤ min (caps merchantId).toNat (returnedFor merchantId bucket world)
  counted : returnedFor merchantId bucket world ≤ countedFor merchantId bucket world
  least : min (caps merchantId).toNat (countedFor merchantId bucket world) ≤ allowedFor merchantId bucket world +
    (countedFor merchantId bucket world - returnedFor merchantId bucket world)
  settled : returnedFor merchantId bucket world = countedFor merchantId bucket world →
    allowedFor merchantId bucket world = min (caps merchantId).toNat (returnedFor merchantId bucket world)
  once : (world.increments.map (·.caller)).Nodup
  stored : hourBucket world.clock = bucket →
    ((world.redis.get world.clock (rateKey merchantId bucket)).map (·.count)).getD 0 = countedFor merchantId bucket world
  unshared : ∀ owner hour, rateKey owner hour = rateKey merchantId bucket → owner = merchantId ∧ hour = bucket
  created : createdFor merchantId bucket world ≤ (caps merchantId).toNat

/-- In its own hour a counter is there, with the count of its runs. -/
theorem stored_counted (backed : CountersBacked world.redis world.increments) (within : hourBucket world.clock = bucket) :
    ((world.redis.get world.clock (rateKey merchantId bucket)).map (·.count)).getD 0 = countedFor merchantId bucket world := by
  have lasts : world.clock ≤ endOf bucket := by
    rw [← within, hourBucket, endOf, hourBucketMs]
    exact (Int.lt_ediv_add_one_mul_self world.clock (by decide)).le
  have counter := backed merchantId bucket
  unfold Backed at counter
  rw [countedFor, Redis.get]
  split at counter
  · rename_i none
    simp [counter, none]
  · obtain ⟨expiresAt, held, late⟩ := counter
    have alive : decide (world.clock ≤ expiresAt) = true := decide_eq_true (lasts.trans late)
    simp [Option.filter, held, alive]

/-- In every run whose commands reach Redis within the hour of their key, with fixed caps: no more calls
are let through than the cap, nor than have returned; and exactly so many once every call that was
counted has returned. -/
theorem hourly_cap (starts : Starts start) (reach : (machine context digest).Reach (Proper caps) start world)
    (merchantId : MerchantId) (bucket : Int) : Limited caps merchantId bucket world := by
  have tallied : Tallied caps world := reach.invariant starts.tallied fun _ _ _ proper moved tallied =>
    tallied_step tallied proper moved
  have sound := tallied.history
  have least := @le_allowed caps world merchantId bucket sound
  have counted := @returned_le_counted caps world merchantId bucket sound
  have within := @allowed_le caps world merchantId bucket sound
  refine ⟨within, counted, by omega, ?_, sound.once, stored_counted tallied.backed, ?_, ?_⟩
  · intro all
    apply le_antisymm within
    rw [← all] at least
    omega
  · exact fun owner hour same => rateKey_injective same
  · exact (created_le_allowed sound).trans (within.trans (min_le_left _ _))

end Counting

section Samples

def sampleContext : DrainerContext where
  aiConfig := { provider := .openai, model := "gpt-4.1-mini" }
  buildWinbackPrompt _ := ⟨"", ""⟩
  isDatetime _ := true
  zodMessage _ := "Invalid input"

def scheduled (labels : List Label) : Option World :=
  (machine sampleContext id).runWhere (fun world label => decide (Proper (fun _ => 1) world label)) { db := {}, clock := 0 } labels

theorem scheduled_reach {labels : List Label} (ran : (scheduled labels).isSome) :
    (machine sampleContext id).Reach (Proper fun _ => 1) { db := {}, clock := 0 } ((scheduled labels).get ran) :=
  (Machine.reach_get ran).mono fun _ _ => of_decide_eq_true

def twoCalls : List Label := [.call 0 "m" 1, .call 0 "m" 1]

/-- The first call loads the script and runs it; the second finds the digest cached. -/
def bothRun (choice : Choice) : List Label := twoCalls ++
  [.act 0 {}, .act 0 {}, .act 0 {}, .act 0 {}, .act 0 choice] ++ [.act 1 {}, .act 1 {}, .act 1 {}]

theorem empty_starts : Starts { db := {}, clock := 0 } := ⟨rfl, rfl, rfl⟩

def replyLost : List Label := bothRun { lost := true } ++ [.act 1 {}]

def bothReturn : List Label := bothRun {} ++ [.act 0 {}, .act 1 {}]

theorem replyLost_runs : (scheduled replyLost).isSome := by decide +kernel

theorem bothReturn_runs : (scheduled bothReturn).isSome := by decide +kernel

/-- The reply to the first call is lost after the script has run: the call throws, and the cap of one is
used up all the same. -/
theorem lost_reply_uses_cap :
    ¬∀ (context : DrainerContext) (digest : String → String) (caps : MerchantId → Int) (start world : World)
      (merchantId : MerchantId) (bucket : Int), Starts start →
      (machine context digest).Reach (Proper caps) start world →
      allowedFor merchantId bucket world = min (caps merchantId).toNat (returnedFor merchantId bucket world) := by
  intro claim
  have denied : allowedFor "m" 0 ((scheduled replyLost).get replyLost_runs) = 0 := by decide +kernel
  have returned : returnedFor "m" 0 ((scheduled replyLost).get replyLost_runs) = 1 := by decide +kernel
  have equal := claim sampleContext id (fun _ => 1) _ _ "m" 0 empty_starts (scheduled_reach replyLost_runs)
  rw [denied, returned] at equal
  exact absurd equal (by decide)

/-- Both calls return, and one of them is let through. -/
theorem hourly_cap_of_two :
    returnedFor "m" 0 ((scheduled bothReturn).get bothReturn_runs) = 2 ∧
      allowedFor "m" 0 ((scheduled bothReturn).get bothReturn_runs) = 1 := by
  have returned : returnedFor "m" 0 ((scheduled bothReturn).get bothReturn_runs) = 2 := by decide +kernel
  have counted : returnedFor "m" 0 ((scheduled bothReturn).get bothReturn_runs) =
      countedFor "m" 0 ((scheduled bothReturn).get bothReturn_runs) := by decide +kernel
  refine ⟨returned, ?_⟩
  rw [(hourly_cap empty_starts (scheduled_reach bothReturn_runs) "m" 0).settled counted, returned]
  rfl

end Samples

end WinBack.RateLimiter
