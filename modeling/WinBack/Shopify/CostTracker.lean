import WinBack.Library.Bucket
import WinBack.Library.Machine
import Mathlib.Data.Rat.Floor
import Mathlib.Tactic.NormNum

/-! The budget of the Admin API: what the tracker takes a shop's bucket to hold, and how long it
lets a caller wait. Times are in milliseconds. -/

namespace WinBack.Shopify

open Library

structure CostTrackerOptions where
  defaultMax : ℚ := 1000
  defaultRestoreRate : ℚ := 50
  safetyFloor : ℚ := 50
  holds : 0 ≤ defaultMax := by decide
  restores : 0 < defaultRestoreRate := by decide

structure ThrottleStatus where
  maximumAvailable : ℚ
  currentlyAvailable : ℚ
  restoreRate : ℚ
  deriving DecidableEq, Repr

/-- What Shopify may report of a bucket. -/
structure ThrottleStatus.Truthful (status : ThrottleStatus) : Prop where
  nonneg : 0 ≤ status.currentlyAvailable
  bounded : status.currentlyAvailable ≤ status.maximumAvailable
  restores : 0 < status.restoreRate

instance (status : ThrottleStatus) : Decidable status.Truthful :=
  decidable_of_iff (0 ≤ status.currentlyAvailable ∧ status.currentlyAvailable ≤ status.maximumAvailable ∧ 0 < status.restoreRate)
    ⟨fun ⟨nonneg, bounded, restores⟩ => ⟨nonneg, bounded, restores⟩,
      fun truthful => ⟨truthful.nonneg, truthful.bounded, truthful.restores⟩⟩

structure ShopBucketState extends ThrottleStatus where
  observedAt : ℚ
  deriving DecidableEq, Repr

namespace CostTracker

/-- The buckets that were observed or reserved from. -/
abbrev Buckets := String → Option ShopBucketState

/-- What `projectedAvailable` returns. -/
structure Projected where
  available : ℚ
  max : ℚ
  restoreRate : ℚ
  deriving DecidableEq, Repr

variable (options : CostTrackerOptions)

/-- What a stored bucket holds at a reading of the clock. -/
def projected (now : ℚ) : Option ShopBucketState → Projected
  | none => ⟨options.defaultMax, options.defaultMax, options.defaultRestoreRate⟩
  | some stored =>
    let elapsedSec := max 0 ((now - stored.observedAt) / 1000)
    { available := refill stored.maximumAvailable stored.currentlyAvailable stored.restoreRate elapsedSec
      max := stored.maximumAvailable
      restoreRate := stored.restoreRate }

def projectedAvailable (shop : String) (now : ℚ) (state : Buckets) : Projected := projected options now (state shop)

def onResponse (shop : String) (status : ThrottleStatus) (now : ℚ) (state : Buckets) : Buckets :=
  Function.update state shop (some { status with observedAt := now })

def onThrottled (shop : String) (status : Option ThrottleStatus) (now : ℚ) (state : Buckets) : Buckets :=
  let prior := state shop
  let base : ThrottleStatus := status.getD {
    maximumAvailable := (prior.map (·.maximumAvailable)).getD options.defaultMax
    currentlyAvailable := 0
    restoreRate := (prior.map (·.restoreRate)).getD options.defaultRestoreRate }
  Function.update state shop (some { base with
    currentlyAvailable := 0
    observedAt := now })

/-- The answer to a caller whose budget is the given one. -/
def waitFor (cost : ℚ) (projected : Projected) : ℤ :=
  let available := ⌊projected.available⌋
  let required := cost + options.safetyFloor
  if required ≤ available then 0
  else
    let deficit := required - available
    ⌈deficit / projected.restoreRate * 1000⌉

def msUntilAvailable (shop : String) (cost now : ℚ) (state : Buckets) : ℤ :=
  waitFor options cost (projectedAvailable options shop now state)

/-- The clock is read for the projection and once more for `observedAt`. -/
def reserve (shop : String) (cost projectedAt now : ℚ) (state : Buckets) : Buckets :=
  let projected := projectedAvailable options shop projectedAt state
  Function.update state shop (some {
    maximumAvailable := projected.max
    currentlyAvailable := max 0 (projected.available - cost)
    restoreRate := projected.restoreRate
    observedAt := now })

section Runs

inductive Update where
  | onResponse (status : ThrottleStatus)
  | onThrottled (status : Option ThrottleStatus)
  | reserve (cost projectedAt : ℚ)
  deriving DecidableEq, Repr

/-- A tracker with the latest reading of its clock. -/
structure World where
  state : Buckets := fun _ => none
  clock : ℚ

/-- One call on the tracker, with its last reading of the clock. -/
structure Label where
  shop : String
  update : Update
  now : ℚ

/-- The readings of the clock do not decrease. -/
def step (world : World) (label : Label) : Option World :=
  match label.update with
  | .onResponse status =>
    if world.clock ≤ label.now then some ⟨onResponse label.shop status label.now world.state, label.now⟩ else none
  | .onThrottled status =>
    if world.clock ≤ label.now then some ⟨onThrottled options label.shop status label.now world.state, label.now⟩ else none
  | .reserve cost projectedAt =>
    if world.clock ≤ projectedAt ∧ projectedAt ≤ label.now then
      some ⟨reserve options label.shop cost projectedAt label.now world.state, label.now⟩
    else none

def machine : Machine World Label := ⟨step options⟩

/-- The statuses that a call brings are such as Shopify may report. -/
def Label.Truthful (label : Label) : Prop :=
  match label.update with
  | .onResponse status => status.Truthful
  | .onThrottled status => ∀ reported ∈ status, reported.Truthful
  | .reserve _ _ => True

end Runs

section Projections

/-- A bucket as the tracker stores it, up to a reading of the clock. -/
structure Sound (now : ℚ) (stored : ShopBucketState) : Prop where
  holds : 0 ≤ stored.maximumAvailable
  nonneg : 0 ≤ stored.currentlyAvailable
  restores : 0 < stored.restoreRate
  observed : stored.observedAt ≤ now

theorem Sound.mono {now later : ℚ} {stored : ShopBucketState} (sound : Sound now stored) (passed : now ≤ later) :
    Sound later stored :=
  ⟨sound.holds, sound.nonneg, sound.restores, sound.observed.trans passed⟩

variable {options} {now later cost : ℚ} {bucket : Option ShopBucketState}

theorem projected_bounds (sound : ∀ stored ∈ bucket, Sound now stored) :
    0 ≤ (projected options later bucket).available ∧
      (projected options later bucket).available ≤ (projected options later bucket).max := by
  cases bucket with
  | none => exact ⟨options.holds, le_rfl⟩
  | some stored =>
    have sound := sound stored rfl
    constructor
    · exact refill_nonneg sound.holds sound.nonneg sound.restores.le (le_max_left _ _)
    · exact refill_le

theorem projected_restores (sound : ∀ stored ∈ bucket, Sound now stored) :
    0 < (projected options later bucket).restoreRate := by
  cases bucket with
  | none => exact options.restores
  | some stored => exact (sound stored rfl).restores

theorem projected_max : (projected options now bucket).max = (projected options later bucket).max := by
  cases bucket <;> rfl

variable {budget : Projected}

theorem waitFor_nonneg (restores : 0 < budget.restoreRate) : 0 ≤ waitFor options cost budget := by
  unfold waitFor
  dsimp only
  split
  · rfl
  · apply Int.ceil_nonneg
    have deficit : 0 ≤ cost + options.safetyFloor - ⌊budget.available⌋ := by linarith
    positivity

/-- What a budget lacks is refilled within the wait. -/
theorem deficit_le_wait (restores : 0 < budget.restoreRate) :
    cost + options.safetyFloor - budget.available ≤ waitFor options cost budget / 1000 * budget.restoreRate := by
  have floored := Int.floor_le budget.available
  rw [← div_le_iff₀ restores]
  unfold waitFor
  dsimp only
  split
  · have covered : (cost + options.safetyFloor - budget.available) / budget.restoreRate ≤ 0 :=
      div_nonpos_of_nonpos_of_nonneg (by linarith) restores.le
    simpa using covered
  · have ceiled := Int.le_ceil ((cost + options.safetyFloor - ⌊budget.available⌋) / budget.restoreRate * 1000)
    have deficit : (cost + options.safetyFloor - budget.available) / budget.restoreRate ≤
        (cost + options.safetyFloor - ⌊budget.available⌋) / budget.restoreRate := by
      gcongr
    linarith

theorem covered_of_waitFor (restores : 0 < budget.restoreRate) (none : waitFor options cost budget ≤ 0) :
    cost + options.safetyFloor ≤ budget.available := by
  have lacks := @deficit_le_wait options cost _ restores
  have nothing : waitFor options cost budget / 1000 * budget.restoreRate ≤ 0 := by
    have none : (waitFor options cost budget : ℚ) ≤ 0 := Int.cast_nonpos.mpr none
    exact mul_nonpos_of_nonpos_of_nonneg (by linarith) restores.le
  linarith

theorem projected_mono (sound : ∀ stored ∈ bucket, Sound now stored) (passed : now ≤ later) :
    (projected options now bucket).available ≤ (projected options later bucket).available := by
  cases bucket with
  | none => rfl
  | some stored =>
    apply refill_mono (sound stored rfl).restores.le
    apply max_le_max_left
    gcongr

/-- After the wait, or later, the budget is there, for any cost that the bucket can hold. -/
theorem waited (sound : ∀ stored ∈ bucket, Sound now stored) (fits : cost + options.safetyFloor ≤ (projected options now bucket).max)
    (long : now + waitFor options cost (projected options now bucket) ≤ later) :
    cost + options.safetyFloor ≤ (projected options later bucket).available := by
  cases bucket with
  | none => exact fits
  | some stored =>
    have restores : 0 < (projected options now (some stored)).restoreRate := projected_restores sound
    have lacks := @deficit_le_wait options cost _ restores
    have waits : (0 : ℚ) ≤ waitFor options cost (projected options now (some stored)) :=
      Int.cast_nonneg (waitFor_nonneg restores)
    have observed := (sound stored rfl).observed
    have since : 0 ≤ (now - stored.observedAt) / 1000 := by linarith
    have spent : waitFor options cost (projected options now (some stored)) / 1000 ≤
        (later - stored.observedAt) / 1000 - (now - stored.observedAt) / 1000 := by linarith
    have passed : (now - stored.observedAt) / 1000 ≤ (later - stored.observedAt) / 1000 := by linarith
    have elapsed : max 0 ((now - stored.observedAt) / 1000) = (now - stored.observedAt) / 1000 := max_eq_right since
    have longer : max 0 ((later - stored.observedAt) / 1000) = (later - stored.observedAt) / 1000 :=
      max_eq_right (since.trans passed)
    have lower : max 0 ((now - stored.observedAt) / 1000) ≤ max 0 ((later - stored.observedAt) / 1000) :=
      max_le_max_left 0 passed
    apply le_refill restores.le lower fits
    calc
      _ ≤ waitFor options cost (projected options now (some stored)) / 1000 * stored.restoreRate := lacks
      _ ≤ _ := by
        rw [elapsed, longer]
        exact mul_le_mul_of_nonneg_right spent restores.le

/-- No wait is left exactly when the whole units of the budget cover an integer cost with the floor. -/
theorem waitFor_eq_zero {cost floor : ℤ} (spares : options.safetyFloor = floor) (covered : (cost : ℚ) + floor ≤ budget.available) :
    waitFor options cost budget = 0 := by
  have whole : cost + floor ≤ ⌊budget.available⌋ := by
    apply Int.le_floor.mpr
    rw [Int.cast_add]
    exact covered
  have enough : (cost : ℚ) + options.safetyFloor ≤ ⌊budget.available⌋ := by
    rw [spares]
    exact_mod_cast whole
  exact if_pos enough

end Projections

section Reached

variable {options : CostTrackerOptions} {start : ℚ} {world next : World} {label : Label}

/-- Every bucket of the tracker is sound. -/
def World.Sound (world : World) : Prop := ∀ shop, ∀ stored ∈ world.state shop, CostTracker.Sound world.clock stored

theorem World.Sound.update {shop : String} {fresh : ShopBucketState} {now : ℚ} (sound : world.Sound)
    (passed : world.clock ≤ now) (observed : CostTracker.Sound now fresh) :
    World.Sound ⟨Function.update world.state shop (some fresh), now⟩ := by
  intro other stored present
  by_cases same : other = shop
  · subst same
    dsimp only at present
    rw [Function.update_self] at present
    cases present
    exact observed
  · dsimp only at present
    rw [Function.update_of_ne same] at present
    exact (sound other stored present).mono passed

theorem sound_step (sound : world.Sound) (truthful : label.Truthful) (moved : step options world label = some next) :
    next.Sound := by
  obtain ⟨shop, update, now⟩ := label
  cases update with
  | onResponse status =>
    obtain ⟨passed, rfl⟩ := Option.ite_some_none_eq_some.mp moved
    have status : status.Truthful := truthful
    exact sound.update passed ⟨status.nonneg.trans status.bounded, status.nonneg, status.restores, le_rfl⟩
  | onThrottled status =>
    obtain ⟨passed, rfl⟩ := Option.ite_some_none_eq_some.mp moved
    cases status with
    | some status =>
      have status : status.Truthful := truthful status rfl
      exact sound.update passed ⟨status.nonneg.trans status.bounded, le_rfl, status.restores, le_rfl⟩
    | none =>
      apply sound.update passed
      cases prior : world.state shop with
      | none => exact ⟨options.holds, le_rfl, options.restores, le_rfl⟩
      | some stored =>
        have stored := sound shop stored prior
        exact ⟨stored.holds, le_rfl, stored.restores, le_rfl⟩
  | reserve cost projectedAt =>
    obtain ⟨⟨passed, read⟩, rfl⟩ := Option.ite_some_none_eq_some.mp moved
    apply sound.update (passed.trans read)
    have bounds := @projected_bounds options world.clock projectedAt _ (sound shop)
    exact ⟨bounds.1.trans bounds.2, le_max_left _ _, projected_restores (sound shop), le_rfl⟩

theorem sound_of_reach (reach : (machine options).Reach (fun _ label => label.Truthful) { clock := start } world) : world.Sound :=
  reach.invariant nofun fun _ _ _ truthful moved sound => sound_step sound truthful moved

/-- In every state that calls with truthful statuses lead to, the projected budget lies between zero
and the maximum; and a caller whose cost and floor the bucket can hold finds no wait left once it has
waited for as long as it was told, if nothing else has happened. -/
theorem computed_wait_suffices (reach : (machine options).Reach (fun _ label => label.Truthful) { clock := start } world)
    (shop : String) (now : ℚ) (read : world.clock ≤ now) :
    0 ≤ (projectedAvailable options shop now world.state).available ∧
      (projectedAvailable options shop now world.state).available ≤ (projectedAvailable options shop now world.state).max ∧
      ∀ cost floor : ℤ, options.safetyFloor = floor →
        (cost : ℚ) + floor ≤ (projectedAvailable options shop now world.state).max →
        0 ≤ msUntilAvailable options shop cost now world.state ∧
          msUntilAvailable options shop cost (now + msUntilAvailable options shop cost now world.state) world.state = 0 := by
  have stored : ∀ stored ∈ world.state shop, Sound now stored := fun stored present =>
    (sound_of_reach reach shop stored present).mono read
  have bounds := @projected_bounds options now now _ stored
  refine ⟨bounds.1, bounds.2, ?_⟩
  intro cost floor spares fits
  refine ⟨waitFor_nonneg (projected_restores stored), ?_⟩
  apply waitFor_eq_zero spares
  rw [← spares] at fits ⊢
  exact waited stored fits le_rfl

/-- Five points were left at the last response. -/
def drained : World := ⟨onResponse "shop.myshopify.com" ⟨1000, 5, 50⟩ 0 fun _ => none, 0⟩

theorem drained_reach : (machine {}).Reach (fun _ label => label.Truthful) { clock := 0 } drained := by
  refine Machine.Reach.origin.extend ⟨"shop.myshopify.com", .onResponse ⟨1000, 5, 50⟩, 0⟩ ?_ rfl
  exact ⟨by norm_num, by norm_num, by norm_num⟩

/-- The clock is read between two whole points of the refill. -/
theorem wait_suffices_drained :
    msUntilAvailable {} "shop.myshopify.com" 50 873 drained.state = 1040 ∧
      msUntilAvailable {} "shop.myshopify.com" 50 (873 + 1040) drained.state = 0 := by
  have waits : msUntilAvailable {} "shop.myshopify.com" 50 873 drained.state = 1040 := by decide +kernel
  have waited := ((computed_wait_suffices drained_reach "shop.myshopify.com" 873 (by decide)).2.2 50 50 rfl
    (by decide +kernel)).2
  refine ⟨waits, ?_⟩
  simpa [waits] using waited

end Reached

end CostTracker

end WinBack.Shopify
