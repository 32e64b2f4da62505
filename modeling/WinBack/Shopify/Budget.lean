import WinBack.Library.Pool
import WinBack.Shopify.Admin
import WinBack.Shopify.CostTracker

/-! Concurrent calls of `AdminClient.graphql` on one tracker, from one `await` to the next. -/

namespace WinBack.Shopify.Budget

open Library CostTracker

/-- Where a call stands. What it `seen` when it computed its wait and whether the tracker still
`carried` its reservation are auxiliary: no step reads them. -/
inductive Phase where
  | ready (due : ℚ)
  | waiting (due : ℚ) (seen : Option ShopBucketState)
  | inFlight (carried : Bool)
  deriving DecidableEq, Repr

/-- A call whose token is resolved. -/
structure GraphQLCall where
  shop : String
  estimatedCost : ℚ
  attempt : Nat := 0
  phase : Phase
  deriving DecidableEq, Repr

/-- What comes of a fetch: no response, or one with the throttle status of its body and its
`retry-after`, where that is a number. -/
inductive Answer where
  | networkError
  | response (reply : Response Unit) (throttleStatus : Option ThrottleStatus) (retryAfter : Option ℚ)

structure World where
  state : Buckets := fun _ => none
  clock : ℚ
  calls : Pool GraphQLCall := []

/-- Each step with its readings of the clock. -/
inductive Label where
  | call (shop : String) (estimatedCost : ℚ)
  | proceed (slot : Nat) (checkedAt projectedAt now : ℚ)
  | wake (slot : Nat) (projectedAt now : ℚ)
  | answer (slot : Nat) (answer : Answer) (jitter : Nat) (now : ℚ)

section Client

def maxBackoffMs : ℚ := 8000

/-- `jitter` is the random part. -/
def backoffMs (attempt jitter : Nat) : ℚ := min maxBackoffMs (500 * 2 ^ attempt) + jitter

def parseRetryAfter : Option ℚ → ℚ
  | none => 1000
  | some seconds => if 0 < seconds then ⌈seconds * 1000⌉ else 1000

/-- What the client tells the tracker, and the pause before it tries again. -/
def handle (maxRetries attempt jitter : Nat) : Answer → List Update × Option ℚ
  | .networkError => ([], if attempt ≥ maxRetries then none else some (backoffMs attempt jitter))
  | .response reply throttleStatus retryAfter =>
    let again (pause : ℚ) := if attempt ≥ maxRetries then none else some pause
    if reply.status = 401 then ([], none)
    else if reply.status = 429 then ([.onThrottled none], again (parseRetryAfter retryAfter))
    else if !reply.ok then ([], again (backoffMs attempt jitter))
    else
      match reply.json with
      | none => ([], none)
      | some json =>
        let observed := throttleStatus.toList.map .onResponse
        if json.errors.any (·.code == some throttledCode) then
          (observed ++ [.onThrottled throttleStatus], again (backoffMs attempt jitter))
        else (observed, none)

end Client

section Steps

variable (options : CostTrackerOptions) (maxRetries : Nat)

def apply (shop : String) (now : ℚ) (state : Buckets) : Update → Buckets
  | .onResponse status => onResponse shop status now state
  | .onThrottled status => onThrottled options shop status now state
  | .reserve cost projectedAt => reserve options shop cost projectedAt now state

/-- The reservation and the fetch, with nothing between them. -/
def issue (slot : Nat) (call : GraphQLCall) (projectedAt now : ℚ) (world : World) : World where
  state := reserve options call.shop call.estimatedCost projectedAt now world.state
  clock := now
  calls := world.calls.put slot { call with phase := .inFlight true }

/-- A status overwrites what other calls have reserved. -/
def overwrite (shop : String) (call : GraphQLCall) : GraphQLCall :=
  match call.phase with
  | .inFlight _ => if call.shop = shop then { call with phase := .inFlight false } else call
  | _ => call

def record (shop : String) (updates : List Update) (now : ℚ) (world : World) : World where
  state := updates.foldl (apply options shop now) world.state
  clock := now
  calls := if updates = [] then world.calls else world.calls.map (Option.map (overwrite shop))

def step (world : World) : Label → Option World
  | .call shop estimatedCost =>
    some { world with calls := world.calls.spawn { shop, estimatedCost, phase := .ready world.clock } }
  | .proceed slot checkedAt projectedAt now =>
    match world.calls.task? slot with
    | some call =>
      match call.phase with
      | .ready due =>
        if world.clock ≤ checkedAt ∧ due ≤ checkedAt ∧ checkedAt ≤ projectedAt ∧ projectedAt ≤ now then
          let wait := msUntilAvailable options call.shop call.estimatedCost checkedAt world.state
          if 0 < wait then some { world with
            clock := now
            calls := world.calls.put slot { call with phase := .waiting (checkedAt + wait) (world.state call.shop) } }
          else some (issue options slot call projectedAt now world)
        else none
      | _ => none
    | none => none
  | .wake slot projectedAt now =>
    match world.calls.task? slot with
    | some call =>
      match call.phase with
      | .waiting due _ =>
        if world.clock ≤ projectedAt ∧ due ≤ projectedAt ∧ projectedAt ≤ now then
          some (issue options slot call projectedAt now world)
        else none
      | _ => none
    | none => none
  | .answer slot answer jitter now =>
    match world.calls.task? slot with
    | some call =>
      match call.phase with
      | .inFlight _ =>
        if world.clock ≤ now then
          let (updates, pause) := handle maxRetries call.attempt jitter answer
          let settled := match pause with
            | none => world.calls.clear slot
            | some pause => world.calls.put slot { call with
                attempt := call.attempt + 1
                phase := .ready (now + pause) }
          some (record options call.shop updates now { world with calls := settled })
        else none
      | _ => none
    | none => none

def machine : Machine World Label := ⟨step options maxRetries⟩

end Steps

section Statements

variable (options : CostTrackerOptions)

/-- The request that a step issues, with its reading of the budget. -/
def issued? (world : World) : Label → Option (GraphQLCall × ℚ)
  | .proceed slot checkedAt projectedAt _ =>
    (world.calls.task? slot).bind fun call =>
      match call.phase with
      | .ready _ =>
        if 0 < msUntilAvailable options call.shop call.estimatedCost checkedAt world.state then none
        else some (call, projectedAt)
      | _ => none
  | .wake slot projectedAt _ =>
    (world.calls.task? slot).bind fun call =>
      match call.phase with
      | .waiting _ _ => some (call, projectedAt)
      | _ => none
  | .call _ _ | .answer _ _ _ _ => none

/-- In flight, with a reservation that the tracker no longer carries. -/
def overwritten (shop : String) (call : GraphQLCall) : Bool := call.shop == shop && call.phase == .inFlight false

/-- What the tracker projects less the reservations, of requests issued and not yet answered, that it
does not carry. -/
def netBudget (shop : String) (now : ℚ) (world : World) : ℚ :=
  (projectedAvailable options shop now world.state).available -
    ((world.calls.filterMap fun item => item.filter (overwritten shop)).map (·.estimatedCost)).sum

/-- The bucket that a waiting call saw. -/
def Phase.seen? : Phase → Option (Option ShopBucketState)
  | .waiting _ seen => some seen
  | .ready _ | .inFlight _ => none

def Answer.status? : Answer → Option ThrottleStatus
  | .networkError => none
  | .response _ throttleStatus _ => throttleStatus

variable (maximum : String → ℚ)

/-- A cost that the bucket can hold, whether or not Shopify has reported its size yet; and a status as
Shopify may report it of a bucket of that size. -/
def Proper (world : World) : Label → Prop
  | .call shop estimatedCost =>
    estimatedCost + options.safetyFloor ≤ options.defaultMax ∧ estimatedCost + options.safetyFloor ≤ maximum shop
  | .answer slot answer _ _ => ∀ status ∈ answer.status?, status.Truthful ∧
    ∀ call ∈ world.calls.task? slot, status.maximumAvailable = maximum call.shop
  | .proceed _ _ _ _ | .wake _ _ _ => True

instance (world : World) (label : Label) : Decidable (Proper options maximum world label) :=
  match label with
  | .call _ _ => inferInstanceAs (Decidable (_ ∧ _))
  | .answer _ answer _ _ => inferInstanceAs (Decidable (∀ status ∈ answer.status?, _ ∧ ∀ call ∈ _, _))
  | .proceed _ _ _ _ | .wake _ _ _ => inferInstanceAs (Decidable True)

/-- When a request is issued, every other request of the shop that is not yet answered still has its
reservation; and a call that has waited finds no less than there would be of the bucket it saw. -/
def Careful (world : World) (label : Label) : Prop :=
  ∀ issued ∈ issued? options world label,
    (∀ item ∈ world.calls, ∀ other ∈ item, overwritten issued.1.shop other = false) ∧
      ∀ seen ∈ issued.1.phase.seen?, (projected options issued.2 seen).available ≤
        (projectedAvailable options issued.1.shop issued.2 world.state).available

instance (world : World) (label : Label) : Decidable (Careful options world label) :=
  inferInstanceAs (Decidable (∀ issued ∈ issued? options world label, _ ∧ _))

/-- A request is issued with the budget for it. -/
def Funded (world : World) (label : Label) : Prop :=
  ∀ issued ∈ issued? options world label,
    issued.1.estimatedCost + options.safetyFloor ≤ netBudget options issued.1.shop issued.2 world

instance (world : World) (label : Label) : Decidable (Funded options world label) :=
  inferInstanceAs (Decidable (∀ issued ∈ issued? options world label, _))

end Statements

section Invariant

variable {options : CostTrackerOptions} {maxRetries : Nat} {maximum : String → ℚ} {world next : World} {label : Label}

/-- What is known of a call: the buckets can hold its cost, and a wait was long enough for the bucket
that it saw. -/
structure Provided (options : CostTrackerOptions) (maximum : String → ℚ) (call : GraphQLCall) : Prop where
  initially : call.estimatedCost + options.safetyFloor ≤ options.defaultMax
  fits : call.estimatedCost + options.safetyFloor ≤ maximum call.shop
  waited : ∀ due seen, call.phase = .waiting due seen → ∀ later, due ≤ later →
    call.estimatedCost + options.safetyFloor ≤ (projected options later seen).available

/-- The size of a shop's bucket, as assumed or as reported. -/
def Sized (options : CostTrackerOptions) (maximum : String → ℚ) (state : Buckets) : Prop :=
  ∀ shop, (projectedAvailable options shop 0 state).max = options.defaultMax ∨
    (projectedAvailable options shop 0 state).max = maximum shop

structure Tracked (options : CostTrackerOptions) (maximum : String → ℚ) (world : World) : Prop where
  sound : CostTracker.World.Sound ⟨world.state, world.clock⟩
  sized : Sized options maximum world.state
  calls : world.calls.Every (Provided options maximum)

theorem Provided.le_max {call : GraphQLCall} {state : Buckets} (provided : Provided options maximum call)
    (sized : Sized options maximum state) (now : ℚ) :
    call.estimatedCost + options.safetyFloor ≤ (projectedAvailable options call.shop now state).max := by
  rw [projectedAvailable, @projected_max options now 0]
  rcases sized call.shop with assumed | reported
  · exact provided.initially.trans_eq assumed.symm
  · exact provided.fits.trans_eq reported.symm

theorem Provided.moved {call : GraphQLCall} {attempt : Nat} {phase : Phase} (provided : Provided options maximum call)
    (stands : phase.seen? = none) : Provided options maximum { call with attempt, phase } := by
  refine ⟨provided.initially, provided.fits, ?_⟩
  rintro due seen rfl
  cases stands

theorem Provided.overwrite {call : GraphQLCall} {shop : String} (provided : Provided options maximum call) :
    Provided options maximum (overwrite shop call) := by
  unfold Budget.overwrite
  split
  · split
    · exact provided.moved rfl
    · exact provided
  · exact provided

theorem Sized.update {state : Buckets} {shop : String} {fresh : ShopBucketState} (sized : Sized options maximum state)
    (size : fresh.maximumAvailable = options.defaultMax ∨ fresh.maximumAvailable = maximum shop) :
    Sized options maximum (Function.update state shop (some fresh)) := by
  intro other
  by_cases same : other = shop
  · subst same
    rw [projectedAvailable, Function.update_self]
    exact size
  · rw [projectedAvailable, Function.update_of_ne same]
    exact sized other

/-- The clock at an update, and the size it reports. -/
structure Admissible (maximum : String → ℚ) (shop : String) (clock now : ℚ) (update : Update) : Prop where
  truthful : CostTracker.Label.Truthful ⟨shop, update, now⟩
  read : match update with
    | .reserve _ projectedAt => clock ≤ projectedAt ∧ projectedAt ≤ now
    | _ => clock ≤ now
  size : match update with
    | .onResponse status => status.maximumAvailable = maximum shop
    | .onThrottled status => ∀ reported ∈ status, reported.maximumAvailable = maximum shop
    | .reserve _ _ => True

variable {state : Buckets} {clock now : ℚ} {shop : String} {update : Update}

theorem sound_apply (sound : CostTracker.World.Sound ⟨state, clock⟩) (admissible : Admissible maximum shop clock now update) :
    CostTracker.World.Sound ⟨apply options shop now state update, now⟩ := by
  apply @sound_step options _ _ ⟨shop, update, now⟩ sound admissible.truthful
  have read := admissible.read
  cases update <;> exact if_pos read

theorem sized_apply (sized : Sized options maximum state) (admissible : Admissible maximum shop clock now update) :
    Sized options maximum (apply options shop now state update) := by
  have size := admissible.size
  have prior : ((state shop).map (·.maximumAvailable)).getD options.defaultMax =
      (projectedAvailable options shop 0 state).max := by
    rw [projectedAvailable]
    cases state shop <;> rfl
  cases update with
  | onResponse status => exact sized.update (.inr size)
  | onThrottled status =>
    apply sized.update
    cases status with
    | some status => exact .inr (size status rfl)
    | none =>
      dsimp only [Option.getD_none]
      rw [prior]
      exact sized shop
  | reserve cost projectedAt =>
    apply sized.update
    dsimp only
    rw [projectedAvailable, @projected_max options projectedAt 0]
    exact sized shop

theorem sound_updates {updates : List Update} (sound : CostTracker.World.Sound ⟨state, clock⟩) (passed : clock ≤ now)
    (admissible : ∀ update ∈ updates, ∀ clock, clock ≤ now → Admissible maximum shop clock now update) :
    CostTracker.World.Sound ⟨updates.foldl (apply options shop now) state, now⟩ := by
  induction updates generalizing state clock with
  | nil => exact fun other stored present => (sound other stored present).mono passed
  | cons update rest ih =>
    apply ih (sound_apply sound (admissible update List.mem_cons_self clock passed)) le_rfl
    exact fun update listed => admissible update (List.mem_cons_of_mem _ listed)

theorem sized_updates {updates : List Update} (sized : Sized options maximum state)
    (admissible : ∀ update ∈ updates, ∀ clock, clock ≤ now → Admissible maximum shop clock now update) :
    Sized options maximum (updates.foldl (apply options shop now) state) := by
  induction updates generalizing state with
  | nil => exact sized
  | cons update rest ih =>
    apply ih (sized_apply sized (admissible update List.mem_cons_self now le_rfl))
    exact fun update listed => admissible update (List.mem_cons_of_mem _ listed)

theorem mem_handle {attempt jitter : Nat} {answer : Answer} (told : update ∈ (handle maxRetries attempt jitter answer).1) :
    (∃ status ∈ answer.status?, update = .onResponse status) ∨
      ∃ status : Option ThrottleStatus, (∀ reported ∈ status, reported ∈ answer.status?) ∧ update = .onThrottled status := by
  cases answer with
  | networkError => cases told
  | response reply throttleStatus retryAfter =>
    unfold handle at told
    dsimp only at told
    have observed : update ∈ throttleStatus.toList.map Update.onResponse →
        ∃ status ∈ (Answer.response reply throttleStatus retryAfter).status?, update = .onResponse status := by
      intro listed
      obtain ⟨status, held, rfl⟩ := List.mem_map.mp listed
      exact ⟨status, Option.mem_toList.mp held, rfl⟩
    split at told
    · cases told
    · split at told
      · cases List.mem_singleton.mp told
        exact .inr ⟨none, nofun, rfl⟩
      · split at told
        · cases told
        · split at told
          · cases told
          · split at told
            · rcases List.mem_append.mp told with seen | throttled
              · exact .inl (observed seen)
              · cases List.mem_singleton.mp throttled
                exact .inr ⟨throttleStatus, fun _ => id, rfl⟩
            · exact .inl (observed told)

theorem admissible_handle {attempt jitter : Nat} {answer : Answer}
    (proper : ∀ status ∈ answer.status?, status.Truthful ∧ status.maximumAvailable = maximum shop)
    (told : update ∈ (handle maxRetries attempt jitter answer).1) (passed : clock ≤ now) :
    Admissible maximum shop clock now update := by
  rcases mem_handle told with ⟨status, reported, rfl⟩ | ⟨status, reported, rfl⟩
  · exact ⟨(proper status reported).1, passed, (proper status reported).2⟩
  · exact ⟨fun status held => (proper status (reported status held)).1, passed,
      fun status held => (proper status (reported status held)).2⟩

theorem Tracked.record {updates : List Update} (tracked : Tracked options maximum world) (passed : world.clock ≤ now)
    (admissible : ∀ update ∈ updates, ∀ clock, clock ≤ now → Admissible maximum shop clock now update) :
    Tracked options maximum (record options shop updates now world) where
  sound := sound_updates tracked.sound passed admissible
  sized := sized_updates tracked.sized admissible
  calls := by
    unfold Budget.record
    dsimp only
    split
    · exact tracked.calls
    · intro call member
      obtain ⟨item, present, same⟩ := List.mem_map.mp member
      obtain ⟨earlier, rfl, rfl⟩ := Option.map_eq_some_iff.mp same
      exact (tracked.calls earlier present).overwrite

theorem Tracked.issue {slot : Nat} {call : GraphQLCall} {projectedAt : ℚ} (tracked : Tracked options maximum world)
    (live : world.calls.task? slot = some call) (passed : world.clock ≤ projectedAt) (read : projectedAt ≤ now) :
    Tracked options maximum (issue options slot call projectedAt now world) := by
  have admissible : Admissible maximum call.shop world.clock now (.reserve call.estimatedCost projectedAt) :=
    ⟨trivial, ⟨passed, read⟩, trivial⟩
  exact ⟨sound_apply tracked.sound admissible, sized_apply tracked.sized admissible,
    tracked.calls.put ((tracked.calls.get live).moved rfl)⟩

theorem Tracked.advance (tracked : Tracked options maximum world) (passed : world.clock ≤ now) :
    Tracked options maximum { world with clock := now } :=
  ⟨fun shop stored present => (tracked.sound shop stored present).mono passed, tracked.sized, tracked.calls⟩

theorem tracked_step (tracked : Tracked options maximum world) (proper : Proper options maximum world label)
    (moved : step options maxRetries world label = some next) : Tracked options maximum next := by
  cases label with
  | call shop estimatedCost =>
    cases moved
    exact ⟨tracked.sound, tracked.sized, tracked.calls.spawn ⟨proper.1, proper.2, nofun⟩⟩
  | proceed slot checkedAt projectedAt now =>
    unfold step at moved
    dsimp only at moved
    split at moved
    · rename_i call live
      split at moved
      · rename_i due stands
        obtain ⟨⟨passed, _, checked, read⟩, moved⟩ := Option.ite_none_right_eq_some.mp moved
        split at moved
        · cases moved
          have provided := tracked.calls.get live
          have later := tracked.advance (passed.trans (checked.trans read))
          refine ⟨later.sound, later.sized, tracked.calls.put ⟨provided.initially, provided.fits, ?_⟩⟩
          rintro _ _ ⟨⟩ later long
          apply waited _ (provided.le_max tracked.sized checkedAt) long
          exact fun stored present => (tracked.sound _ stored present).mono passed
        · cases moved
          exact tracked.issue live (passed.trans checked) read
      · cases moved
    · cases moved
  | wake slot projectedAt now =>
    unfold step at moved
    dsimp only at moved
    split at moved
    · rename_i call live
      split at moved
      · obtain ⟨⟨passed, _, read⟩, rfl⟩ := Option.ite_some_none_eq_some.mp moved
        exact tracked.issue live passed read
      · cases moved
    · cases moved
  | answer slot answer jitter now =>
    unfold step at moved
    dsimp only at moved
    split at moved
    · rename_i call live
      split at moved
      · obtain ⟨passed, rfl⟩ := Option.ite_some_none_eq_some.mp moved
        have admissible : ∀ update ∈ (handle maxRetries call.attempt jitter answer).1, ∀ clock, clock ≤ now →
            Admissible maximum call.shop clock now update := by
          intro update told clock passed
          apply admissible_handle _ told passed
          exact fun status reported => ⟨(proper status reported).1, (proper status reported).2 call live⟩
        have settled : Tracked options maximum { world with calls :=
            match (handle maxRetries call.attempt jitter answer).2 with
            | none => world.calls.clear slot
            | some pause => world.calls.put slot { call with
                attempt := call.attempt + 1
                phase := .ready (now + pause) } } := by
          refine ⟨tracked.sound, tracked.sized, ?_⟩
          dsimp only
          split
          · exact tracked.calls.clear
          · exact tracked.calls.put ((tracked.calls.get live).moved rfl)
        exact settled.record passed admissible
      · cases moved
    · cases moved

theorem netBudget_eq (covered : ∀ item ∈ world.calls, ∀ other ∈ item, overwritten shop other = false) :
    netBudget options shop now world = (projectedAvailable options shop now world.state).available := by
  have none : (world.calls.filterMap fun item => item.filter (overwritten shop)) = [] := by
    apply List.filterMap_eq_nil_iff.mpr
    intro item member
    cases item with
    | none => rfl
    | some call => simp [Option.filter, covered _ member call rfl]
  rw [netBudget, none, List.map_nil, List.sum_nil, sub_zero]

end Invariant

section Results

variable {options : CostTrackerOptions} {maxRetries : Nat} {maximum : String → ℚ} {start : ℚ} {world next : World} {label : Label}

theorem tracked_of_reach {allowed : World → Label → Prop} (proper : ∀ world label, allowed world label → Proper options maximum world label)
    (reach : (machine options maxRetries).Reach allowed { clock := start } world) : Tracked options maximum world := by
  apply reach.invariant
  · exact ⟨nofun, fun _ => .inl rfl, nofun⟩
  · exact fun middle label final permitted moved tracked => tracked_step tracked (proper middle label permitted) moved

/-- A request issued with the budget for it, and for the floor, is reserved in full. -/
theorem reserved_in_full {issued : GraphQLCall × ℚ} (floor : 0 ≤ options.safetyFloor) (funded : Funded options world label)
    (issues : issued ∈ issued? options world label)
    (covered : ∀ item ∈ world.calls, ∀ other ∈ item, overwritten issued.1.shop other = false) :
    max 0 ((projectedAvailable options issued.1.shop issued.2 world.state).available - issued.1.estimatedCost) =
      (projectedAvailable options issued.1.shop issued.2 world.state).available - issued.1.estimatedCost := by
  have funds := funded issued issues
  rw [netBudget_eq covered] at funds
  exact max_eq_right (by linarith)

/-- In every run of calls whose costs the bucket can hold, with truthful statuses, in which each step
is careful, no request is issued without the budget for it. -/
theorem budget_never_overdrawn
    (reach : (machine options maxRetries).Reach
      (fun world label => Proper options maximum world label ∧ Careful options world label) { clock := start } world)
    (careful : Careful options world label) (moved : step options maxRetries world label = some next) :
    Funded options world label := by
  have tracked : Tracked options maximum world := tracked_of_reach (fun _ _ => And.left) reach
  intro issued issues
  obtain ⟨covered, kept⟩ := careful issued issues
  rw [netBudget_eq covered]
  cases label with
  | call shop estimatedCost => cases issues
  | answer slot answer jitter now => cases issues
  | proceed slot checkedAt projectedAt now =>
    obtain ⟨call, live, issues⟩ := Option.bind_eq_some_iff.mp issues
    split at issues
    · rename_i due stands
      obtain ⟨none, same⟩ := Option.ite_none_left_eq_some.mp issues
      cases same
      unfold step at moved
      simp only [live, stands] at moved
      obtain ⟨⟨passed, _, checked, _⟩, _⟩ := Option.ite_none_right_eq_some.mp moved
      have sound : ∀ stored ∈ world.state call.shop, Sound checkedAt stored := fun stored present =>
        (tracked.sound call.shop stored present).mono passed
      calc
        call.estimatedCost + options.safetyFloor ≤ (projectedAvailable options call.shop checkedAt world.state).available :=
          covered_of_waitFor (projected_restores sound) (not_lt.mp none)
        _ ≤ (projectedAvailable options call.shop projectedAt world.state).available := projected_mono sound checked
    · cases issues
  | wake slot projectedAt now =>
    obtain ⟨call, live, issues⟩ := Option.bind_eq_some_iff.mp issues
    split at issues
    · rename_i due seen stands
      cases issues
      unfold step at moved
      simp only [live, stands] at moved
      obtain ⟨⟨_, long, _⟩, _⟩ := Option.ite_none_right_eq_some.mp moved
      calc
        call.estimatedCost + options.safetyFloor ≤ (projected options projectedAt seen).available :=
          (tracked.calls.get live).waited due seen stands projectedAt long
        _ ≤ (projectedAvailable options call.shop projectedAt world.state).available := by
          apply kept
          rw [stands]
          rfl
    · cases issues

end Results

section Samples

def sampleShop : String := "shop.myshopify.com"

def reply : Response Unit := ⟨200, some { data := some () }⟩

/-- Two requests are in flight; the first leaves five points, for which two callers wait, and the second a full bucket, of
which a fifth caller takes before they wake. -/
def fiveCallers : List Label := List.replicate 5 (.call sampleShop 50) ++
  [.proceed 0 0 0 0, .proceed 1 0 0 0, .answer 0 (.response reply (some ⟨1000, 5, 50⟩) none) 0 0, .proceed 2 0 0 0,
    .proceed 3 0 0 0, .answer 1 (.response reply (some ⟨1000, 1000, 50⟩) none) 0 5, .proceed 4 10 10 10, .wake 2 1900 1900]

/-- The first response leaves five points, for which the other callers wait. -/
def bothWait : List Label := List.replicate 3 (.call sampleShop 50) ++
  [.proceed 0 0 0 0, .answer 0 (.response reply (some ⟨1000, 5, 50⟩) none) 0 0, .proceed 1 0 0 0, .proceed 2 0 0 0,
    .wake 1 1900 1900]

def schedule (labels : List Label) : Option World :=
  (machine {} 3).runWhere (fun world label => decide (Proper {} (fun _ => 1000) world label)) { clock := 0 } labels

def carefulSchedule (labels : List Label) : Option World :=
  (machine {} 3).runWhere (fun world label => decide (Proper {} (fun _ => 1000) world label ∧ Careful {} world label))
    { clock := 0 } labels

theorem bothWait_runs : (schedule bothWait).isSome := by decide +kernel

theorem fiveCallers_runs : (carefulSchedule fiveCallers).isSome := by decide +kernel

/-- The budget refills for one of two callers that wait; both proceed. -/
theorem refill_taken_twice :
    ¬∀ (options : CostTrackerOptions) (maxRetries : Nat) (maximum : String → ℚ) (start : ℚ) (world next : World) (label : Label),
      (machine options maxRetries).Reach (Proper options maximum) { clock := start } world →
      Proper options maximum world label → step options maxRetries world label = some next → Funded options world label := by
  intro claim
  have reach := (Machine.reach_get bothWait_runs).mono fun _ _ => of_decide_eq_true
  have moves : (step {} 3 ((schedule bothWait).get bothWait_runs) (.wake 2 1900 1900)).isSome := by decide +kernel
  have short : ¬Funded {} ((schedule bothWait).get bothWait_runs) (.wake 2 1900 1900) := by decide +kernel
  exact short (claim {} 3 (fun _ => 1000) 0 _ _ (.wake 2 1900 1900) reach trivial (Option.some_get moves).symm)

/-- The last to wake is funded beside the two that are in flight. -/
theorem budget_never_overdrawn_alone :
    (((carefulSchedule fiveCallers).get fiveCallers_runs).calls.map fun item => item.map (·.phase == .inFlight true)) =
        [none, none, some true, some false, some true] ∧
      Funded {} ((carefulSchedule fiveCallers).get fiveCallers_runs) (.wake 3 1900 1900) := by
  have reach := (Machine.reach_get fiveCallers_runs).mono fun _ _ => of_decide_eq_true
  have moves : (step {} 3 ((carefulSchedule fiveCallers).get fiveCallers_runs) (.wake 3 1900 1900)).isSome := by
    decide +kernel
  have careful : Careful {} ((carefulSchedule fiveCallers).get fiveCallers_runs) (.wake 3 1900 1900) := by decide +kernel
  exact ⟨by decide +kernel, budget_never_overdrawn reach careful (Option.some_get moves).symm⟩

end Samples

end WinBack.Shopify.Budget
