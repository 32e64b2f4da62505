import WinBack.Scoring.Deleted

/-! The recency bands in the order of lapse, and when the band of a customer moves back. -/

namespace WinBack.Scoring

open Library CustomerScoreRepository

def bandLimits : List Int :=
  [StateBoundariesDays.activeMax, StateBoundariesDays.warmMax, StateBoundariesDays.atRiskMax,
    StateBoundariesDays.dormantMax]

def bands : List CustomerState := [.active, .warm, .atRisk, .dormant, .lost]

/-- The place of a band in the order of lapse. -/
def lapse (state : CustomerState) : Nat := bands.idxOf state

/-- A band is left when its limit is exceeded. -/
theorem lapse_stateFromRecency (rDays : Int) : lapse (stateFromRecency rDays) = Quantile.below rDays bandLimits := by
  have limits : bandLimits = [30, 90, 180, 365] := rfl
  have banded : stateFromRecency rDays =
      if rDays ≤ 30 then .active else if rDays ≤ 90 then .warm else if rDays ≤ 180 then .atRisk
      else if rDays ≤ 365 then .dormant else .lost := rfl
  rw [limits, banded]
  simp only [Quantile.below, List.countP_cons, List.countP_nil, decide_eq_true_eq]
  split
  · rw [if_neg (by omega), if_neg (by omega), if_neg (by omega), if_neg (by omega)]
    rfl
  · rw [if_pos (show 30 < rDays by omega)]
    split
    · rw [if_neg (by omega), if_neg (by omega), if_neg (by omega)]
      rfl
    · rw [if_pos (show 90 < rDays by omega)]
      split
      · rw [if_neg (by omega), if_neg (by omega)]
        rfl
      · rw [if_pos (show 180 < rDays by omega)]
        split
        · rw [if_neg (by omega)]
          rfl
        · rw [if_pos (by omega)]
          rfl

theorem lapse_le_iff {first second : Int} : lapse (stateFromRecency first) ≤ lapse (stateFromRecency second) ↔
    ∀ limit ∈ bandLimits, limit < first → limit < second := by
  rw [lapse_stateFromRecency, lapse_stateFromRecency]
  exact Quantile.below_le_below_iff

theorem lapse_mono {first second : Int} (fewer : first ≤ second) :
    lapse (stateFromRecency first) ≤ lapse (stateFromRecency second) :=
  lapse_le_iff.mpr fun _ _ exceeded => lt_of_lt_of_le exceeded fewer

/-- The age of the account, in days. -/
def accountDays (now : Date) (customer : Customer) : Int :=
  lurkerRDays (customer.shopifyCreatedAt.getD customer.createdAt) now

/-- The days since the last payment among the counted orders of a customer. -/
def paidDays (merchantId : MerchantId) (now : Date) (db : Db) (customer : Customer) : Int :=
  (aggregate now customer.id (ordersOf merchantId now customer.id db)).rDays

/-- What the band of a customer is read off: its last payment, or else the age of its account. -/
def recencyDays (merchantId : MerchantId) (now : Date) (db : Db) (customer : Customer) : Int :=
  if ordersOf merchantId now customer.id db = [] then accountDays now customer
  else paidDays merchantId now db customer

def sufficient (merchantId : MerchantId) (now : Date) (db : Db) : Prop :=
  insufficientCohortThreshold ≤ (readCohort merchantId now db).length

variable {merchantId : MerchantId} {now later : Date} {db : Db} {customer : Customer}

theorem scoreFor_band (enough : sufficient merchantId now db) :
    (scoreFor merchantId now db customer).newState = stateFromRecency (recencyDays merchantId now db customer) := by
  have found := @find?_readCohort merchantId now db customer.id
  unfold recencyDays
  split
  · rename_i none
    rw [if_pos none] at found
    rw [scoreFor_lurker (Nat.not_lt.mpr enough) found]
    rfl
  · rename_i some
    rw [if_neg some] at found
    rw [scoreFor_sufficient (Nat.not_lt.mpr enough) found]
    rfl

section Time

theorem counted_of_later (passed : now ≤ later) {order : Order} (inside : counted merchantId later order = true) :
    counted merchantId now order = true := by
  simp only [counted, Bool.and_eq_true, decide_eq_true_eq] at inside ⊢
  exact ⟨⟨inside.1.1, (Int.sub_le_sub_right passed windowMs).trans inside.1.2⟩, inside.2⟩

/-- The window only loses orders as time goes on. -/
theorem ordersOf_later (passed : now ≤ later) (customerId : CustomerId) (db : Db) :
    ordersOf merchantId later customerId db ⊆ ordersOf merchantId now customerId db := by
  intro order member
  simp only [ordersOf, List.mem_filter, Bool.and_eq_true] at member ⊢
  exact ⟨member.1, counted_of_later passed member.2.1, member.2.2⟩

theorem lastPaid_le {some other : List Order} (nonempty : some ≠ []) (fewer : some ⊆ other) :
    (some.map paidAt).max?.getD 0 ≤ (other.map paidAt).max?.getD 0 := by
  obtain ⟨last, latest⟩ : ∃ last, (some.map paidAt).max? = .some last := by
    cases some with
    | nil => exact absurd rfl nonempty
    | cons order rest => exact ⟨_, List.max?_cons'⟩
  obtain ⟨order, member, rfl⟩ := List.mem_map.mp (List.max?_mem latest)
  have there : paidAt order ∈ other.map paidAt := List.mem_map_of_mem (fewer member)
  rw [latest, Option.getD_some]
  cases newest : (other.map paidAt).max? with
  | none => simp [List.max?_eq_none_iff.mp newest] at there
  | some bound => exact (List.max?_eq_some_iff.mp newest).2 _ there

theorem paidDays_later (passed : now ≤ later) (still : ordersOf merchantId later customer.id db ≠ []) :
    paidDays merchantId now db customer ≤ paidDays merchantId later db customer := by
  have last := lastPaid_le still (ordersOf_later passed customer.id db)
  exact Int.ediv_le_ediv (by decide) (Int.sub_le_sub passed last)

theorem accountDays_later (passed : now ≤ later) (customer : Customer) :
    accountDays now customer ≤ accountDays later customer := by
  have longer := Int.sub_le_sub_right passed (customer.shopifyCreatedAt.getD customer.createdAt)
  unfold accountDays lurkerRDays
  dsimp only
  split
  · split
    · exact le_rfl
    · rename_i past
      exact Int.ediv_nonneg (Int.not_le.mp past).le (by decide)
  · rename_i past
    rw [if_neg (Int.not_le.mpr ((Int.not_le.mp past).trans_le longer))]
    exact Int.ediv_le_ediv (by decide) longer

/-- With the orders held fixed a band moves back only where the last counted order leaves the
window: unless every limit that the last payment exceeded is exceeded by the age of the
account. -/
theorem decay_monotone_iff (passed : now ≤ later) (enough : sufficient merchantId now db)
    (still : sufficient merchantId later db) :
    lapse (scoreFor merchantId now db customer).newState ≤ lapse (scoreFor merchantId later db customer).newState ↔
      (ordersOf merchantId now customer.id db ≠ [] → ordersOf merchantId later customer.id db = [] →
        ∀ limit ∈ bandLimits, limit < paidDays merchantId now db customer → limit < accountDays later customer) := by
  rw [scoreFor_band enough, scoreFor_band still]
  unfold recencyDays
  by_cases before : ordersOf merchantId now customer.id db = []
  · have after : ordersOf merchantId later customer.id db = [] :=
      List.subset_nil.mp (before ▸ ordersOf_later passed customer.id db)
    rw [if_pos before, if_pos after]
    exact ⟨fun _ present => absurd before present, fun _ => lapse_mono (accountDays_later passed customer)⟩
  · rw [if_neg before]
    by_cases after : ordersOf merchantId later customer.id db = []
    · rw [if_pos after, lapse_le_iff]
      exact ⟨fun exceeds _ _ => exceeds, fun exceeds => exceeds before after⟩
    · rw [if_neg after]
      exact ⟨fun _ _ gone => absurd gone after, fun _ => lapse_mono (paidDays_later passed after)⟩

section ReturningBand

def paidOn (day : Int) (customerId : CustomerId) : Order where
  id := customerId
  merchantId := "m"
  customerId := some customerId
  shopifyOrderId := customerId
  totalAmountCents := 100
  financialStatus := some .paid
  placedAt := day * msPerDay

/-- A customer who bought on the first day and came into the store on day 300, and five who
bought on that day. -/
def lateArrival : Db where
  merchants := .single { id := "m", shop := "m.myshopify.com" }
  orders := ⟨paidOn 0 "x" :: ["a", "b", "c", "d", "e"].map (paidOn 300), by decide⟩

def arrival : Customer where
  id := "x"
  merchantId := "m"
  shopifyCustomerId := "gid://shopify/Customer/1"
  createdAt := 300 * msPerDay

theorem decay_monotone_in_window : lapse (scoreFor "m" (100 * msPerDay) lateArrival arrival).newState ≤
    lapse (scoreFor "m" (364 * msPerDay) lateArrival arrival).newState :=
  (decay_monotone_iff (by decide) (by unfold sufficient; decide) (by unfold sufficient; decide)).mpr
    fun _ gone => absurd gone (by decide)

/-- Dormant on day 364, warm on day 367. -/
theorem band_returns :
    ¬∀ (merchantId : MerchantId) (now later : Date) (db : Db) (customer : Customer), now ≤ later →
      sufficient merchantId now db → sufficient merchantId later db →
      lapse (scoreFor merchantId now db customer).newState ≤ lapse (scoreFor merchantId later db customer).newState := by
  intro claim
  have monotone := claim "m" (364 * msPerDay) (367 * msPerDay) lateArrival arrival (by decide)
    (by unfold sufficient; decide) (by unfold sufficient; decide)
  revert monotone
  decide

end ReturningBand

end Time

end WinBack.Scoring
