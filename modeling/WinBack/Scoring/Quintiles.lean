import WinBack.Scoring.Math
import Mathlib.Tactic.Linarith

/-! What a ranking by quintiles is: how it orders the customers of a cohort and how many it puts into
each rank. -/

namespace WinBack.Scoring

open Library

variable {cohort other : List CustomerScoreCohortRow} {value : CustomerScoreCohortRow → Int}

theorem rank_mono {first second : Int} (le : first ≤ second) (boundaries : Cutpoints) :
    rankByAscendingBoundaries first boundaries ≤ rankByAscendingBoundaries second boundaries := by
  unfold rankByAscendingBoundaries
  split_ifs <;> omega

/-- `⌈part * size / 5⌉`: the number of rows that fill so many fifths of the cohort. -/
def fifths (part size : Nat) : Nat := (part * size + 4) / 5

theorem fifths_le {part size : Nat} (proper : part ≤ 5) : fifths part size ≤ size := by
  have share : part * size ≤ 5 * size := Nat.mul_le_mul_right _ proper
  unfold fifths
  omega

/-- A rank is reached by what has fewer than so many fifths of the cohort below it. -/
theorem rank_le_iff (nonempty : 0 < (sortedValues value cohort).length) {own : Int} (member : own ∈ cohort.map value)
    {part : Nat} :
    rankByAscendingBoundaries own (pickPercentilePositions (sortedValues value cohort) nonempty) ≤ part ↔
      Quantile.below own (sortedValues value cohort) < fifths part cohort.length := by
  have some : 0 < cohort.length := length_sortedValues value cohort ▸ nonempty
  have same : Quantile.below own (sortedValues value cohort) = cohortBelow value cohort own :=
    Quantile.below_perm (List.perm_insertionSort (· ≤ ·) (cohort.map value))
  have share : 5 * cohortBelow value cohort own / cohort.length < part ↔
      5 * cohortBelow value cohort own < part * cohort.length := Nat.div_lt_iff_lt_mul some
  rw [rank_eq nonempty member, same]
  unfold fifths
  generalize 5 * cohortBelow value cohort own / cohort.length = fifth at share
  omega

theorem countP_rank_eq (nonempty : 0 < (sortedValues value cohort).length) {part : Nat} :
    (cohort.countP fun row => decide (rankByAscendingBoundaries (value row)
      (pickPercentilePositions (sortedValues value cohort) nonempty) ≤ part)) =
      (sortedValues value cohort).countP fun own =>
        decide (Quantile.below own (sortedValues value cohort) < fifths part cohort.length) := by
  calc
    _ = (cohort.map value).countP fun own =>
        decide (Quantile.below own (sortedValues value cohort) < fifths part cohort.length) := by
      rw [List.countP_map]
      apply List.countP_congr
      intro row member
      simp only [Function.comp_apply, decide_eq_true_eq]
      exact rank_le_iff nonempty (List.mem_map_of_mem member)
    _ = _ := ((List.perm_insertionSort (· ≤ ·) (cohort.map value)).countP_eq _).symm

/-- What the cutpoints of one dimension make of the cohort. -/
structure Ranks (value : CustomerScoreCohortRow → Int) (cohort : List CustomerScoreCohortRow) (boundaries : Cutpoints) :
    Prop where
  monotone : ∀ first second, first ≤ second →
    rankByAscendingBoundaries first boundaries ≤ rankByAscendingBoundaries second boundaries
  least : ∀ part : Nat, 1 ≤ part → part ≤ 5 → fifths part cohort.length ≤
    cohort.countP fun row => decide (rankByAscendingBoundaries (value row) boundaries ≤ part)
  distinct : (cohort.map value).Nodup → ∀ part : Nat, 1 ≤ part → part ≤ 5 →
    (cohort.countP fun row => decide (rankByAscendingBoundaries (value row) boundaries ≤ part)) = fifths part cohort.length

theorem ranks_of_sorted (nonempty : 0 < (sortedValues value cohort).length) :
    Ranks value cohort (pickPercentilePositions (sortedValues value cohort) nonempty) := by
  have sorted : (sortedValues value cohort).Pairwise (· ≤ ·) := List.pairwise_insertionSort (· ≤ ·) _
  have inside {part : Nat} (proper : part ≤ 5) : fifths part cohort.length ≤ (sortedValues value cohort).length := by
    rw [length_sortedValues]
    exact fifths_le proper
  refine ⟨fun _ _ le => rank_mono le _, ?_, ?_⟩
  · intro part _ proper
    rw [countP_rank_eq nonempty]
    exact Quantile.le_countP_below sorted (inside proper)
  · intro distinct part _ proper
    rw [countP_rank_eq nonempty]
    apply Quantile.countP_below sorted _ (inside proper)
    exact (List.perm_insertionSort (· ≤ ·) (cohort.map value)).nodup_iff.mpr distinct

section Risk

/-- The risk falls with each of the three quintiles. -/
theorem churnRisk_antitone {rQuintile fQuintile mQuintile higherR higherF higherM : Int} (r : rQuintile ≤ higherR)
    (f : fQuintile ≤ higherF) (m : mQuintile ≤ higherM) :
    computeChurnRiskScore higherR higherF higherM ≤ computeChurnRiskScore rQuintile fQuintile mQuintile := by
  have sums : ((rQuintile + fQuintile + mQuintile : Int) : Rat) ≤ (higherR + higherF + higherM : Int) := by
    exact_mod_cast (by omega : rQuintile + fQuintile + mQuintile ≤ higherR + higherF + higherM)
  unfold computeChurnRiskScore
  linarith

/-- What the boundaries make of one row. -/
def riskOf (boundaries : QuintileBoundaries) (row : CustomerScoreCohortRow) : Rat :=
  computeChurnRiskScore (assignRQuintile row.rDays boundaries.r) (assignFQuintile row.fCount boundaries.f)
    (assignMQuintile row.mCents boundaries.m)

theorem riskOf_bounds (boundaries : QuintileBoundaries) (row : CustomerScoreCohortRow) :
    0 ≤ riskOf boundaries row ∧ riskOf boundaries row ≤ 4 / 5 := by
  have r := rank_bounds row.rDays boundaries.r
  have f := rank_bounds row.fCount boundaries.f
  have m := rank_bounds row.mCents boundaries.m
  have lowest : riskOf boundaries row ≤ computeChurnRiskScore 1 1 1 :=
    churnRisk_antitone (by unfold assignRQuintile invert; omega) f.1 m.1
  have highest : computeChurnRiskScore 5 5 5 ≤ riskOf boundaries row :=
    churnRisk_antitone (by unfold assignRQuintile invert; omega) f.2 m.2
  have least : computeChurnRiskScore 5 5 5 = 0 := by decide +kernel
  have most : computeChurnRiskScore 1 1 1 = 4 / 5 := by decide +kernel
  exact ⟨least ▸ highest, most ▸ lowest⟩

end Risk

section Law

theorem sortedValues_perm (same : cohort.Perm other) : sortedValues value cohort = sortedValues value other := by
  apply List.Perm.eq_of_pairwise' (List.pairwise_insertionSort (· ≤ ·) _) (List.pairwise_insertionSort (· ≤ ·) _)
  exact ((List.perm_insertionSort _ _).trans (same.map value)).trans (List.perm_insertionSort _ _).symm

theorem boundaries_perm (same : cohort.Perm other) : computeQuintileBoundaries cohort = computeQuintileBoundaries other := by
  unfold computeQuintileBoundaries
  simp only [same.length_eq, sortedValues_perm same]

/-- A recency quintile counts down from the rank, the others are ranks, and each customer's risk and
place stay the same in whatever order the cohort is listed. -/
structure RankingLaw (cohort : List CustomerScoreCohortRow) (boundaries : QuintileBoundaries) : Prop where
  r : Ranks CustomerScoreCohortRow.rDays cohort boundaries.r
  f : Ranks CustomerScoreCohortRow.fCount cohort boundaries.f
  m : Ranks CustomerScoreCohortRow.mCents cohort boundaries.m
  recency : ∀ rDays, assignRQuintile rDays boundaries.r = 6 - rankByAscendingBoundaries rDays boundaries.r
  frequency : ∀ fCount, assignFQuintile fCount boundaries.f = rankByAscendingBoundaries fCount boundaries.f
  monetary : ∀ mCents, assignMQuintile mCents boundaries.m = rankByAscendingBoundaries mCents boundaries.m
  risk : ∀ row, 0 ≤ riskOf boundaries row ∧ riskOf boundaries row ≤ 4 / 5
  antitone : ∀ rQuintile fQuintile mQuintile higherR higherF higherM : Int, rQuintile ≤ higherR → fQuintile ≤ higherF →
    mQuintile ≤ higherM →
    computeChurnRiskScore higherR higherF higherM ≤ computeChurnRiskScore rQuintile fQuintile mQuintile
  unordered : ∀ other, cohort.Perm other → computeQuintileBoundaries other = .ok boundaries ∧
    ∀ row, resolveScorableCustomer row other false = resolveScorableCustomer row cohort false

theorem quintile_ranking (enough : insufficientCohortThreshold ≤ cohort.length) :
    ∃ boundaries, computeQuintileBoundaries cohort = .ok boundaries ∧ RankingLaw cohort boundaries := by
  have computed : ∃ boundaries, computeQuintileBoundaries cohort = .ok boundaries ∧
      Ranks CustomerScoreCohortRow.rDays cohort boundaries.r ∧ Ranks CustomerScoreCohortRow.fCount cohort boundaries.f ∧
        Ranks CustomerScoreCohortRow.mCents cohort boundaries.m := by
    unfold computeQuintileBoundaries
    rw [dif_neg (Nat.not_lt.mpr enough)]
    exact ⟨_, rfl, ranks_of_sorted _, ranks_of_sorted _, ranks_of_sorted _⟩
  obtain ⟨boundaries, computed, r, f, m⟩ := computed
  refine ⟨boundaries, computed, r, f, m, fun _ => rfl, fun _ => rfl, fun _ => rfl, riskOf_bounds boundaries,
    fun _ _ _ _ _ _ => churnRisk_antitone, ?_⟩
  intro other same
  have equal := boundaries_perm same
  refine ⟨equal ▸ computed, fun row => ?_⟩
  unfold resolveScorableCustomer boundariesOf
  rw [equal]

/-- Seven customers, of whom three have ordered once. -/
def tiedCohort : List CustomerScoreCohortRow :=
  [(1, 1), (2, 1), (3, 1), (4, 2), (5, 3), (6, 5), (7, 8)].map fun (day, orders) =>
    { customerId := toString day, rDays := day, fCount := orders, mCents := 100 * day }

theorem quintile_ranking_tied : ∃ boundaries, computeQuintileBoundaries tiedCohort = .ok boundaries ∧
    RankingLaw tiedCohort boundaries := quintile_ranking (by decide)

end Law

end WinBack.Scoring
