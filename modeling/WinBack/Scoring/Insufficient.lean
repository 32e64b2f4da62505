import WinBack.Scoring.Announced
import WinBack.Scoring.Webhooks

/-! Customers of a cohort that was too small. A decay sweep leaves them out; they get a band when
something scores them after the cohort has grown. -/

namespace WinBack.Scoring

open Library CustomerScoreService

variable {merchant : Merchant} {customer : Customer} {now : Date} {batchSize : Nat} {db next : Db}

theorem band_sufficient (enough : sufficient merchant.id now db) : band merchant.id now db customer ≠ .insufficientData := by
  unfold band
  rw [if_neg (Nat.not_lt.mpr enough)]
  exact stateFromRecency_ne _

/-- In a sufficient cohort a sweep leaves in `insufficient_data` exactly the customers that it
found there, and a recompute takes its customer out. -/
theorem insufficient_kept_iff (actorId : String) (batchSize : Nat) (stored : merchant ∈ db.merchants.rows)
    (scores : ScoresOwned db) (enough : sufficient merchant.id now db) (listed : customer ∈ liveCustomers merchant.id db) :
    (stateOf customer.id (decayRescore merchant.id actorId now batchSize db).db = some .insufficientData ↔
      customer.state = .insufficientData) ∧
    ∀ next, recompute merchant.id customer.id now db = .ok next → stateOf customer.id next ≠ some .insufficientData := by
  obtain ⟨present, owner, live, _⟩ := mem_selected.mp listed
  have moves : (scoreFor merchant.id now db customer).newState ≠ .insufficientData :=
    scoreFor_newState.trans_ne (band_sufficient enough)
  constructor
  · rw [(decayRescore_scored actorId now batchSize stored scores).state present]
    by_cases evaluated : customer.id ∈ (decayRescore merchant.id actorId now batchSize db).evaluated.map (·.id)
    · rw [if_pos evaluated, Option.some_inj]
      obtain ⟨row, member, same⟩ := List.mem_map.mp evaluated
      obtain ⟨working, _⟩ := announceable_of_evaluated stored scores member
      obtain ⟨there, _, _, selectedState⟩ := mem_selected.mp working
      obtain rfl := customer_unique there present same
      refine iff_of_false moves fun insufficient => ?_
      rw [insufficient] at selectedState
      exact absurd selectedState (by decide)
    · rw [if_neg evaluated, Option.some_inj]
  · intro next done
    rw [recompute_eq stored present live] at done
    have pageable := pageable_of_sublist (ready_of_stored stored scores).known scores (List.singleton_sublist.mpr listed)
    have page := (scoredOnce_of_applyScore pageable.head (cuid_free db) done).page pageable
    rw [page.state present, if_pos (List.mem_singleton_self _), Ne, Option.some_inj]
    exact moves

section GrownCohort

open Webhooks

/-- Five customers who have not bought yet. -/
def newShop : Db := { lapsed with orders := ∅ }

theorem scoresOwned_newShop : ScoresOwned newShop := by
  intro score member
  cases member

def firstOrder (number : String) : ShopifyOrderWebhookBody where
  id := .text number
  customer := some (.text number)
  financialStatus := some "paid"
  totalAmountCents := 100
  createdAt := 0

/-- The first orders of the five, one after the other. -/
def firstOrders : List Webhooks.Label :=
  [("1", 0), ("2", 1), ("3", 2), ("4", 3), ("5", 4)].flatMap fun (number, slot) =>
    [.orderEvent "m" (firstOrder number) number 0, .read slot, .read slot, .read slot, .read slot, .commit slot]

def ordered? : Option Webhooks.World := Webhooks.machine.runWhere (fun _ _ => true) { db := newShop } firstOrders

theorem ordered_runs : ordered?.isSome = true := by decide

/-- The fifth order gives its customer a band; the other four wait for something that scores them. -/
theorem insufficient_kept_after_fifth : ∃ world, ordered? = some world ∧
    (world.db.customers.rows.map (·.state)) =
      [.insufficientData, .insufficientData, .insufficientData, .insufficientData, .active] ∧
    ∀ customer ∈ liveCustomers "m" world.db,
      stateOf customer.id (decayRescore "m" "scheduler" 0 10 world.db).db = some .insufficientData ↔
        customer.state = .insufficientData := by
  have states : ((ordered?.get ordered_runs).db.customers.rows.map (·.state)) =
      [.insufficientData, .insufficientData, .insufficientData, .insufficientData, .active] := by decide
  have stored : ({ id := "m", shop := "m.myshopify.com", scoringInitializedAt := some 0 } : Merchant) ∈
      (ordered?.get ordered_runs).db.merchants.rows := by decide
  have owned : ∀ score ∈ (ordered?.get ordered_runs).db.customerScores.rows,
      ∀ customer ∈ (ordered?.get ordered_runs).db.customers.rows, customer.id = score.customerId →
        customer.merchantId = score.merchantId := by decide
  have enough : sufficient "m" 0 (ordered?.get ordered_runs).db := by
    unfold sufficient
    decide
  exact ⟨_, (Option.some_get ordered_runs).symm, states, fun customer listed =>
    (insufficient_kept_iff "scheduler" 10 stored owned enough listed).1⟩

/-- The sweep after it goes through and leaves the four where they are. -/
theorem stuck_in_insufficient_data :
    ¬∀ (db : Db) (world : Webhooks.World) (merchant : Merchant) (actorId : String) (now : Date) (batchSize : Nat),
      ScoresOwned db → Webhooks.machine.Reach (fun _ _ => True) { db } world →
      merchant ∈ world.db.merchants.rows → sufficient merchant.id now world.db →
      (decayRescore merchant.id actorId now batchSize world.db).outcome.toOption.isSome = true →
      ∀ customer ∈ liveCustomers merchant.id (decayRescore merchant.id actorId now batchSize world.db).db,
        customer.state ≠ .insufficientData := by
  intro claim
  have banded := claim newShop _ { id := "m", shop := "m.myshopify.com", scoringInitializedAt := some 0 } "scheduler" 0 10
    scoresOwned_newShop ((Machine.reach_get ordered_runs).mono fun _ _ _ => trivial) (by decide)
    (by unfold sufficient; decide) (by decide)
  exact absurd banded (by decide)

end GrownCohort

end WinBack.Scoring
