import Mathlib.Algebra.Order.Field.Rat
import Mathlib.Data.List.Sort
import Mathlib.Data.Prod.Lex
import Mathlib.Data.String.Basic
import Mathlib.Order.WithBot
import WinBack.Library.Cursor
import WinBack.Schema
import WinBack.Tenant.Hooks

/-! The customer list of the app: scores with their live customers, the greatest risk first, read page by page. -/

namespace WinBack.Scoring

open Library Tenant

section Listing

/-- The score row as the list reads it. -/
structure ListedScore extends CustomerScore where
  id : String
  deriving DecidableEq, Repr

structure ListedCustomer extends Customer where
  lastOrderAt : Option Date := none
  deriving DecidableEq, Repr

instance : Indexed ListedScore := .ofKeys ListedScore.id fun row => row.customerId
instance : Indexed ListedCustomer := .ofKeys (fun row => row.id) fun row => (row.merchantId, row.shopifyCustomerId)

structure ScoreDb where
  customerScores : Table ListedScore
  customers : Table ListedCustomer

structure ListCustomerScoresArgs where
  merchantId : MerchantId
  cursor : Option String
  limit : Nat
  filterStates : Option (List CustomerState) := none

structure ListedCustomerScore where
  customerScoreId : String
  customerId : CustomerId
  shopifyCustomerId : String
  email : Option String
  firstName : Option String
  lastName : Option String
  state : CustomerState
  lastOrderAt : Option Date
  rDays : Int
  fCount : Int
  mCents : Int
  currency : String
  rQuintile : Option Int
  fQuintile : Option Int
  mQuintile : Option Int
  churnRiskScore : Option Rat
  computedAt : Date
  deriving DecidableEq, Repr

abbrev ListCustomerScoresResult := Cursor.Page ListedCustomerScore String

def assertScopeMatchesMerchant (scope : Option TenantScope) (merchantId : MerchantId) : Except HookError Unit :=
  match scope with
  | none => .error (.tenantScope s!"Operation on merchant={merchantId} attempted with no active scope." [])
  | some (.system _) => .ok ()
  | some (.tenant active) =>
    if active ≠ merchantId then .error (.tenantScope s!"Tenant scope mismatch: scope={active}, claimed={merchantId}" [])
    else .ok ()

/-- The relation filter. An empty set of states is no filter. -/
def customerWhere (filterStates : Option (List CustomerState)) (customer : ListedCustomer) : Bool :=
  let hasFilter := match filterStates with
    | none => false
    | some states => decide (0 < states.length)
  customer.deletedAt == none && (!hasFilter || (filterStates.getD []).contains customer.state)

/-- The score with its customer, when the filters accept them. -/
def listed? (db : ScoreDb) (merchantId : MerchantId) (filterStates : Option (List CustomerState)) (score : ListedScore) :
    Option (ListedScore × ListedCustomer) :=
  if score.merchantId = merchantId then
    ((db.customers.find? fun customer => customer.id == score.customerId).filter (customerWhere filterStates)).map (score, ·)
  else none

variable {Rank : Type} [LinearOrder Rank]

/-- `churnRiskScore DESC NULLS LAST, email ASC, id ASC`. The database puts nulls last in an ascending order, too. -/
def orderBy (collate : String ↪ Rank) (churnRiskScore : Option Rat) (email : Option String) (id : String) :
    WithTop Ratᵒᵈ ×ₗ WithTop Rank ×ₗ Rank :=
  toLex (churnRiskScore.map OrderDual.toDual, toLex (email.map collate, collate id))

def findScores (collate : String ↪ Rank) (db : ScoreDb) (merchantId : MerchantId) (filterStates : Option (List CustomerState)) :
    List (ListedScore × ListedCustomer) :=
  (db.customerScores.rows.filterMap (listed? db merchantId filterStates)).insertionSort fun first second =>
    orderBy collate first.1.churnRiskScore first.2.email first.1.id ≤
      orderBy collate second.1.churnRiskScore second.2.email second.1.id

def flatten (row : ListedScore × ListedCustomer) : ListedCustomerScore where
  customerScoreId := row.1.id
  customerId := row.1.customerId
  shopifyCustomerId := row.2.shopifyCustomerId
  email := row.2.email
  firstName := row.2.firstName
  lastName := row.2.lastName
  state := row.2.state
  lastOrderAt := row.2.lastOrderAt
  rDays := row.1.rDays
  fCount := row.1.fCount
  mCents := row.1.mCents
  currency := row.1.currency
  rQuintile := row.1.rQuintile
  fQuintile := row.1.fQuintile
  mQuintile := row.1.mQuintile
  churnRiskScore := row.1.churnRiskScore
  computedAt := row.1.computedAt

/-- `skip: 1` goes past the cursor row. -/
def listWithCustomer (collate : String ↪ Rank) (scope : Option TenantScope) (db : ScoreDb) (args : ListCustomerScoresArgs) :
    Except HookError ListCustomerScoresResult := do
  assertScopeMatchesMerchant scope args.merchantId
  let rows := (Cursor.following (fun row : ListedScore × ListedCustomer => row.1.id)
    (findScores collate db args.merchantId args.filterStates) args.cursor).take (args.limit + 1)
  let hasMore := decide (args.limit < rows.length)
  let page := if hasMore then rows.take args.limit else rows
  let nextCursor := if hasMore then page.getLast?.map fun row => row.1.id else none
  pure { rows := page.map flatten, nextCursor }

end Listing

section Order

variable {Rank : Type} [LinearOrder Rank] {collate : String ↪ Rank} {db : ScoreDb} {merchantId : MerchantId}
  {filterStates : Option (List CustomerState)} {scope : Option TenantScope}

/-- The whole list. -/
def listing (collate : String ↪ Rank) (db : ScoreDb) (merchantId : MerchantId) (filterStates : Option (List CustomerState)) :
    List ListedCustomerScore := (findScores collate db merchantId filterStates).map flatten

/-- Before another row of the list. -/
def Before (collate : String ↪ Rank) (first second : ListedCustomerScore) : Prop :=
  orderBy collate first.churnRiskScore first.email first.customerScoreId <
    orderBy collate second.churnRiskScore second.email second.customerScoreId

/-- A row of the filtered table: its score is the merchant's, its customer is live and in one of the states. -/
theorem listed?_eq_some_iff {score : ListedScore} {row : ListedScore × ListedCustomer} :
    listed? db merchantId filterStates score = some row ↔ row.1 = score ∧ score.merchantId = merchantId ∧
      db.customers.find? (fun customer => customer.id == score.customerId) = some row.2 ∧ customerWhere filterStates row.2 = true := by
  unfold listed?
  split
  · rename_i owned
    rw [Option.map_eq_some_iff]
    constructor
    · rintro ⟨customer, found, rfl⟩
      obtain ⟨stored, accepted⟩ := Option.filter_eq_some_iff.mp found
      exact ⟨rfl, owned, stored, accepted⟩
    · obtain ⟨first, customer⟩ := row
      rintro ⟨rfl, _, stored, accepted⟩
      exact ⟨customer, Option.filter_eq_some_iff.mpr ⟨stored, accepted⟩, rfl⟩
  · rename_i foreign
    exact iff_of_false (Option.some_ne_none _).symm fun told => foreign told.2.1

theorem listing_perm : (listing collate db merchantId filterStates).Perm
    ((db.customerScores.rows.filterMap (listed? db merchantId filterStates)).map flatten) :=
  (List.perm_insertionSort _ _).map flatten

theorem listing_length : (listing collate db merchantId filterStates).length ≤ db.customerScores.rows.length := by
  rw [listing_perm.length_eq, List.length_map]
  exact List.length_filterMap_le _ _

/-- A score row is listed once. -/
theorem listing_distinct : ((listing collate db merchantId filterStates).map (·.customerScoreId)).Nodup := by
  have ids : (db.customerScores.rows.map (·.id)).Nodup := by
    rw [List.nodup_iff_pairwise_ne, List.pairwise_map]
    refine db.customerScores.unique.imp fun {first second} apart same => ?_
    have clash : (first.id == second.id || first.customerId == second.customerId) = false := apart
    simp [same] at clash
  have listed : (((db.customerScores.rows.filterMap (listed? db merchantId filterStates)).map flatten).map
      (·.customerScoreId)).Sublist (db.customerScores.rows.map (·.id)) := by
    induction db.customerScores.rows with
    | nil => exact List.Sublist.slnil
    | cons score scores ih =>
      cases found : listed? db merchantId filterStates score with
      | none =>
        rw [List.filterMap_cons_none found]
        exact ih.cons _
      | some row =>
        obtain ⟨rfl, _⟩ := listed?_eq_some_iff.mp found
        rw [List.filterMap_cons_some found]
        exact ih.cons_cons _
  exact (listing_perm.map _).nodup_iff.mpr (listed.nodup ids)

theorem listing_sorted : (listing collate db merchantId filterStates).Pairwise (Before collate) := by
  have sorted : (listing collate db merchantId filterStates).Pairwise fun first second =>
      orderBy collate first.churnRiskScore first.email first.customerScoreId ≤
        orderBy collate second.churnRiskScore second.email second.customerScoreId :=
    List.pairwise_map.mpr (List.pairwise_insertionSort _ _)
  have distinct := List.pairwise_map.mp (List.nodup_iff_pairwise_ne.mp
    (@listing_distinct _ _ collate db merchantId filterStates))
  refine (sorted.and distinct).imp fun {first second} told => lt_of_le_of_ne told.1 fun same => told.2 ?_
  -- the ids are the last part of the order
  have parts := Prod.mk.inj (toLex.injective (Prod.mk.inj (toLex.injective same)).2)
  exact collate.injective parts.2

/-- A page of the list is a page of a fixed list of rows. -/
theorem listWithCustomer_eq (admitted : assertScopeMatchesMerchant scope merchantId = .ok ()) (limit : Nat) (cursor : Option String) :
    listWithCustomer collate scope db { merchantId, cursor, limit, filterStates } =
      .ok (Cursor.page (fun row => row.customerScoreId) limit (listing collate db merchantId filterStates) cursor) := by
  unfold listing listWithCustomer
  rw [admitted, Cursor.page_map]
  change Except.ok _ = Except.ok _
  refine congrArg _ ?_
  unfold Cursor.page
  dsimp only [flatten]
  generalize List.take (limit + 1) _ = read
  by_cases more : limit < read.length
  · rw [decide_eq_true more, if_pos more]
    rfl
  · rw [decide_eq_false more, if_neg more]
    rfl

end Order

section Complete

variable {Rank : Type} [LinearOrder Rank]

/-- Who follows the cursors comes to an end, and has read every row of the filtered table once and in order,
whatever ties and nulls it has. -/
theorem score_pages_complete (collate : String ↪ Rank) (scope : Option TenantScope) (db : ScoreDb) (merchantId : MerchantId)
    (filterStates : Option (List CustomerState)) (limit fuel : Nat)
    (admitted : assertScopeMatchesMerchant scope merchantId = .ok ()) (positive : 0 < limit)
    (enough : db.customerScores.rows.length < fuel) :
    ∃ pages, Cursor.follow (fun cursor => listWithCustomer collate scope db { merchantId, cursor, limit, filterStates }) fuel none =
        .ok (some pages) ∧
      (pages.flatMap (·.rows)).Perm ((db.customerScores.rows.filterMap (listed? db merchantId filterStates)).map flatten) ∧
      (pages.flatMap (·.rows)).Pairwise (Before collate) ∧
      ∀ before page after, pages = before ++ page :: after →
        (page.nextCursor = none ↔ (before ++ [page]).flatMap (·.rows) = pages.flatMap (·.rows)) := by
  obtain ⟨pages, followed, whole, told⟩ := Cursor.follow_all listing_distinct positive
    (@listWithCustomer_eq _ _ collate db merchantId filterStates scope admitted limit)
    (listing_length.trans_lt enough)
  refine ⟨pages, followed, ?_, ?_, ?_⟩
  · rw [whole]
    exact listing_perm
  · rw [whole]
    exact listing_sorted
  · rw [whole]
    exact told

/-- Three lurkers without an e-mail, and a customer with a score. -/
def tiedScores : ScoreDb where
  customerScores := ⟨["a", "b", "c", "d"].map fun id =>
    { id, merchantId := "m", customerId := "c" ++ id, rDays := 400, fCount := 0, mCents := 0, currency := "USD",
      churnRiskScore := if id = "c" then some (1 / 2) else none, computedAt := 0 }, by decide⟩
  customers := ⟨["a", "b", "c", "d"].map fun id =>
    { id := "c" ++ id, merchantId := "m", shopifyCustomerId := "gid://shopify/Customer/" ++ id }, by decide⟩

theorem score_pages_complete_tied :
    assertScopeMatchesMerchant (some (.tenant "m")) "m" = .ok () ∧ 0 < 2 ∧ tiedScores.customerScores.rows.length < 5 ∧
      ∃ pages, Cursor.follow (fun cursor => listWithCustomer (Function.Embedding.refl String) (some (.tenant "m")) tiedScores
          { merchantId := "m", cursor, limit := 2, filterStates := none }) 5 none = .ok (some pages) ∧
        (pages.flatMap (·.rows)).Perm ((tiedScores.customerScores.rows.filterMap (listed? tiedScores "m" none)).map flatten) ∧
        (pages.flatMap (·.rows)).Pairwise (Before (Function.Embedding.refl String)) ∧
        ∀ before page after, pages = before ++ page :: after →
          (page.nextCursor = none ↔ (before ++ [page]).flatMap (·.rows) = pages.flatMap (·.rows)) :=
  ⟨rfl, by decide, by decide,
    score_pages_complete (Function.Embedding.refl String) (some (.tenant "m")) tiedScores "m" none 2 5 rfl (by decide)
      (by decide)⟩

end Complete

end WinBack.Scoring
