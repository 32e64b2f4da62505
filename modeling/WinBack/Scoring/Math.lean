import WinBack.Library.Quantile
import WinBack.Customer.Scoring

/-! The scoring arithmetic: cutpoints of the cohort, the rank of a customer among them,
the churn risk and the recency bands. -/

namespace WinBack

open Library

def insufficientCohortThreshold : Nat := 5

structure CustomerScoreCohortRow where
  customerId : CustomerId
  rDays : Int
  fCount : Int
  mCents : Int
  deriving DecidableEq, Repr

/-- The values at the 20 / 40 / 60 / 80 percentile positions. -/
structure Cutpoints where
  first : Int
  second : Int
  third : Int
  fourth : Int
  deriving DecidableEq, Repr

structure QuintileBoundaries where
  r : Cutpoints
  f : Cutpoints
  m : Cutpoints
  deriving DecidableEq, Repr

section Boundaries

/-- `N * p` is computed in doubles there; it is off by less than half a unit in the
last place, so its ceiling is that of the exact product. -/
def pickPercentilePositions (sortedAscending : List Int) (nonempty : 0 < sortedAscending.length) : Cutpoints where
  first := Quantile.quantile 5 1 sortedAscending nonempty
  second := Quantile.quantile 5 2 sortedAscending nonempty
  third := Quantile.quantile 5 3 sortedAscending nonempty
  fourth := Quantile.quantile 5 4 sortedAscending nonempty

def sortedValues (value : CustomerScoreCohortRow → Int) (cohort : List CustomerScoreCohortRow) : List Int :=
  (cohort.map value).insertionSort (· ≤ ·)

theorem length_sortedValues (value : CustomerScoreCohortRow → Int) (cohort : List CustomerScoreCohortRow) :
    (sortedValues value cohort).length = cohort.length := by
  rw [sortedValues, List.length_insertionSort, List.length_map]

def computeQuintileBoundaries (cohort : List CustomerScoreCohortRow) : Except RepositoryError QuintileBoundaries :=
  if insufficient : cohort.length < insufficientCohortThreshold then
    .error (.thrown s!"computeQuintileBoundaries called with insufficient cohort (size={cohort.length}, threshold={insufficientCohortThreshold})")
  else
    have nonempty (value : CustomerScoreCohortRow → Int) : 0 < (sortedValues value cohort).length := by
      rw [length_sortedValues]
      unfold insufficientCohortThreshold at insufficient
      omega
    .ok {
      r := pickPercentilePositions (sortedValues CustomerScoreCohortRow.rDays cohort) (nonempty _)
      f := pickPercentilePositions (sortedValues CustomerScoreCohortRow.fCount cohort) (nonempty _)
      m := pickPercentilePositions (sortedValues CustomerScoreCohortRow.mCents cohort) (nonempty _) }

/-- The last comparison that holds decides. A tie falls into the lower quintile. -/
def rankByAscendingBoundaries (value : Int) (boundaries : Cutpoints) : Int :=
  if value > boundaries.fourth then 5
  else if value > boundaries.third then 4
  else if value > boundaries.second then 3
  else if value > boundaries.first then 2
  else 1

theorem rank_bounds (value : Int) (boundaries : Cutpoints) :
    1 ≤ rankByAscendingBoundaries value boundaries ∧ rankByAscendingBoundaries value boundaries ≤ 5 := by
  unfold rankByAscendingBoundaries
  repeat' split
  all_goals decide

def invert (rank : Int) : Int := 6 - rank

def assignRQuintile (rDays : Int) (boundaries : Cutpoints) : Int :=
  invert (rankByAscendingBoundaries rDays boundaries)

def assignFQuintile (fCount : Int) (boundaries : Cutpoints) : Int := rankByAscendingBoundaries fCount boundaries

def assignMQuintile (mCents : Int) (boundaries : Cutpoints) : Int := rankByAscendingBoundaries mCents boundaries

end Boundaries

section Resolution

def computeChurnRiskScore (rQuintile fQuintile mQuintile : Int) : Rat :=
  1 - (rQuintile + fQuintile + mQuintile : Int) / 15

namespace StateBoundariesDays

def activeMax : Int := 30
def warmMax : Int := 90
def atRiskMax : Int := 180
def dormantMax : Int := 365

end StateBoundariesDays

/-- Bands of the days since the last paid order, inclusive above. -/
def stateFromRecency (rDays : Int) : CustomerState :=
  if rDays ≤ StateBoundariesDays.activeMax then .active
  else if rDays ≤ StateBoundariesDays.warmMax then .warm
  else if rDays ≤ StateBoundariesDays.atRiskMax then .atRisk
  else if rDays ≤ StateBoundariesDays.dormantMax then .dormant
  else .lost

/-- Never negative: a creation after `now` counts as today. -/
def lurkerRDays (referenceCreatedAt now : Date) : Int :=
  let diffMs := now - referenceCreatedAt
  if diffMs ≤ 0 then 0 else diffMs / msPerDay

def resolveScorableCustomerWithBoundaries (row : CustomerScoreCohortRow) (boundaries : Option QuintileBoundaries)
    (isInsufficientCohort : Bool) : ResolvedCustomerScore :=
  match isInsufficientCohort, boundaries with
  | false, some boundaries =>
    let rQuintile := assignRQuintile row.rDays boundaries.r
    let fQuintile := assignFQuintile row.fCount boundaries.f
    let mQuintile := assignMQuintile row.mCents boundaries.m
    { rDays := row.rDays
      fCount := row.fCount
      mCents := row.mCents
      rQuintile := some rQuintile
      fQuintile := some fQuintile
      mQuintile := some mQuintile
      churnRiskScore := some (computeChurnRiskScore rQuintile fQuintile mQuintile)
      newState := stateFromRecency row.rDays }
  | _, _ =>
    { rDays := row.rDays
      fCount := row.fCount
      mCents := row.mCents
      newState := .insufficientData }

/-- `isInsufficientCohort ? null : computeQuintileBoundaries(cohort)`. -/
def boundariesOf (cohort : List CustomerScoreCohortRow) (isInsufficientCohort : Bool) :
    Except RepositoryError (Option QuintileBoundaries) :=
  if isInsufficientCohort then .ok none else (computeQuintileBoundaries cohort).map some

def resolveScorableCustomer (row : CustomerScoreCohortRow) (cohort : List CustomerScoreCohortRow)
    (isInsufficientCohort : Bool) : Except RepositoryError ResolvedCustomerScore :=
  (boundariesOf cohort isInsufficientCohort).map fun boundaries =>
    resolveScorableCustomerWithBoundaries row boundaries isInsufficientCohort

def resolveLurker (referenceCreatedAt now : Date) (isInsufficientCohort : Bool) : ResolvedCustomerScore :=
  let rDays := lurkerRDays referenceCreatedAt now
  { rDays
    fCount := 0
    mCents := 0
    newState := if isInsufficientCohort then .insufficientData else stateFromRecency rDays }

end Resolution

section Ranks

variable {cohort : List CustomerScoreCohortRow} {value : CustomerScoreCohortRow → Int}

/-- How many cohort rows lie strictly below. -/
def cohortBelow (value : CustomerScoreCohortRow → Int) (cohort : List CustomerScoreCohortRow) (own : Int) : Nat :=
  Quantile.below own (cohort.map value)

theorem quantile_sortedValues_lt_iff (nonempty : 0 < (sortedValues value cohort).length) {part : Nat}
    (positive : 0 < part) (proper : part < 5) (own : Int) :
    Quantile.quantile 5 part (sortedValues value cohort) nonempty < own ↔
      cohort.length * part ≤ 5 * cohortBelow value cohort own := by
  have sorted : (sortedValues value cohort).Pairwise (· ≤ ·) := List.pairwise_insertionSort (· ≤ ·) _
  have same : Quantile.below own (sortedValues value cohort) = cohortBelow value cohort own :=
    Quantile.below_perm (List.perm_insertionSort (· ≤ ·) (cohort.map value))
  rw [Quantile.quantile_lt_iff sorted nonempty proper positive, length_sortedValues, same]

/-- A rank only counts fifths of the cohort: those that lie below entirely. -/
theorem rank_eq (nonempty : 0 < (sortedValues value cohort).length) {own : Int}
    (member : own ∈ cohort.map value) :
    rankByAscendingBoundaries own (pickPercentilePositions (sortedValues value cohort) nonempty) =
      1 + (5 * cohortBelow value cohort own / cohort.length : Nat) := by
  have some : 0 < cohort.length := length_sortedValues value cohort ▸ nonempty
  have inside : cohortBelow value cohort own < cohort.length := by
    simpa [cohortBelow] using Quantile.below_lt_length member
  have exceeds (part : Nat) := @quantile_sortedValues_lt_iff cohort value nonempty part
  have fifth (part : Nat) : cohort.length * part ≤ 5 * cohortBelow value cohort own ↔
      part ≤ 5 * cohortBelow value cohort own / cohort.length := by
    rw [Nat.le_div_iff_mul_le some, Nat.mul_comm]
  have most : 5 * cohortBelow value cohort own / cohort.length < 5 := by
    rw [Nat.div_lt_iff_lt_mul some]
    omega
  simp only [rankByAscendingBoundaries, pickPercentilePositions, gt_iff_lt, exceeds, fifth,
    Nat.zero_lt_succ, Nat.reduceLT]
  generalize 5 * cohortBelow value cohort own / cohort.length = share at most
  split
  · omega
  · split
    · omega
    · split
      · omega
      · split
        · omega
        · omega

/-- The guard keeps the throw of an insufficient cohort out of reach. -/
theorem boundariesOf_ok (cohort : List CustomerScoreCohortRow) :
    ∃ boundaries, boundariesOf cohort (cohort.length < insufficientCohortThreshold) = .ok boundaries := by
  unfold boundariesOf computeQuintileBoundaries
  split
  · exact ⟨none, rfl⟩
  · rename_i enough
    rw [dif_neg (by simpa using enough)]
    exact ⟨_, rfl⟩

end Ranks

end WinBack
