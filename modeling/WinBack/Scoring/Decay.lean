import WinBack.Scoring.Sweep

/-! Which customers a decay sweep evaluates. The page cursor is the last customer of the
page before; once its own page moved it out of the working set, the next page drops
the customer after it. -/

namespace WinBack.Scoring

open Library

variable {merchant : Merchant} {merchantId : MerchantId} {actorId : String} {now : Date} {batchSize : Nat} {db : Db}

/-- A duplicate-free list is covered exactly once by a sublist only if it is all of it. -/
theorem count_eq_one_iff {seen all : List Customer} (part : seen.Sublist all) (distinct : (all.map (·.id)).Nodup) :
    (∀ customer ∈ all, (seen.map (·.id)).count customer.id = 1) ↔ seen = all := by
  constructor
  · intro once
    have covered : all.map (·.id) ⊆ seen.map (·.id) := by
      intro id member
      obtain ⟨customer, listed, rfl⟩ := List.mem_map.mp member
      exact List.count_pos_iff.mp (by rw [once customer listed]; exact Nat.one_pos)
    have length := (List.subperm_of_subset distinct covered).length_le
    rw [List.length_map, List.length_map] at length
    exact part.eq_of_length_le length
  · rintro rfl customer member
    exact List.count_eq_one_of_mem distinct (List.mem_map_of_mem member)

/-- A sweep evaluates its whole working set, each customer once, exactly when no
evaluation throws and the customer that ends a full page stays in the working set as
long as others follow. -/
theorem decay_evaluates_once_iff (stored : merchant ∈ db.merchants.rows) (scores : ScoresOwned db)
    (positive : 0 < batchSize) :
    (∀ customer ∈ workingSet merchant.id db,
      ((decayRescore merchant.id actorId now batchSize db).evaluated.map (·.id)).count customer.id = 1) ↔
      (∀ customer ∈ workingSet merchant.id db,
        announceable merchant customer (scoreFor merchant.id now db customer) now = true) ∧
        ∀ turn, 0 < turn → turn * batchSize < (workingSet merchant.id db).length →
          (workingSet merchant.id db)[turn * batchSize - 1]?.all
            (fun customer => decide ((scoreFor merchant.id now db customer).newState ∈ decayWorkingSetStates)) = true := by
  have visited := (@pages_visited merchant (CohortSnapshot.of merchant.id now db) (some ⟨actorId, some "decay_sweep"⟩)
    (some decayWorkingSetStates) db batchSize (ready_of_stored stored scores)).1
  have distinct : ((workingSet merchant.id db).map (·.id)).Nodup := by
    rw [List.nodup_iff_pairwise_ne, List.pairwise_map]
    exact (selected_sorted _ _ _).imp fun before same => absurd same before.ne
  rw [decayRescore_evaluated stored, visited]
  exact (count_eq_one_iff Paging.visited_sublist distinct).trans (Paging.visited_eq_iff positive)

section TwoLurkers

/-- Two customers without orders. Every cohort of fewer than five is insufficient, so
scoring takes both out of the working set. -/
def twoLurkers : Db where
  merchants := .single { id := "m", shop := "m.myshopify.com" }
  customers := ⟨[{ id := "a", merchantId := "m", shopifyCustomerId := "gid://shopify/Customer/1" },
    { id := "b", merchantId := "m", shopifyCustomerId := "gid://shopify/Customer/2" }], by decide⟩

theorem scoresOwned_twoLurkers : ScoresOwned twoLurkers := by
  intro score member
  cases member

/-- One page of two. -/
theorem decay_evaluates_both : (workingSet "m" twoLurkers).length = 2 ∧ ∀ customer ∈ workingSet "m" twoLurkers,
    ((decayRescore "m" "scheduler" 0 2 twoLurkers).evaluated.map (·.id)).count customer.id = 1 := by
  have stored : ({ id := "m", shop := "m.myshopify.com" } : Merchant) ∈ twoLurkers.merchants.rows := by decide
  have length : (workingSet "m" twoLurkers).length = 2 := by decide
  refine ⟨length, (decay_evaluates_once_iff stored scoresOwned_twoLurkers (by decide)).mpr
    ⟨by decide, fun turn later inside => ?_⟩⟩
  rw [length] at inside
  omega

/-- Two pages of one: the second drops the second customer. -/
theorem decay_skips_second :
    ¬∀ (merchant : Merchant) (actorId : String) (now : Date) (batchSize : Nat) (db : Db),
      merchant ∈ db.merchants.rows → ScoresOwned db → 0 < batchSize →
      ∀ customer ∈ workingSet merchant.id db,
        ((decayRescore merchant.id actorId now batchSize db).evaluated.map (·.id)).count customer.id = 1 := by
  intro claim
  have once := claim { id := "m", shop := "m.myshopify.com" } "scheduler" 0 1 twoLurkers (by decide)
    scoresOwned_twoLurkers (by decide)
  exact absurd once (by decide)

end TwoLurkers

end WinBack.Scoring
