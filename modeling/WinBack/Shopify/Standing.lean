import Mathlib.Order.Basic
import WinBack.Library.Upserts
import WinBack.Shopify.Runner

/-! Where a backfill stands: what the stored cursor says of the tables and of the counters, after any call
of any run. -/

namespace WinBack.Runner

open Library

variable {Item Tables Seed Key Row : Type} [DecidableEq Key] {process : PageProcessor Item Tables Seed} {merchantId : MerchantId}

section Ingestion

/-- A processor whose pages are upserts that overwrite each other, as far as the tables are viewed. -/
structure Ingestion (process : PageProcessor Item Tables Seed) (merchantId : MerchantId) (Key Row : Type) [DecidableEq Key] where
  Steady : Tables → Prop
  view : Tables → Key → Option Row
  writes : Item → Option (Upsert Key Row)
  keeps : ∀ {seed items tables after}, Steady tables → process merchantId seed items tables = .ok after →
    Steady after ∧ view after = Upsert.putAll (items.filterMap writes) (view tables)
  overwriting : ∀ items : List Item, Upsert.Overwriting (items.filterMap writes)

variable (ingestion : Ingestion process merchantId Key Row) (items : List Item)

/-- The first items written. -/
def Ingestion.upTo (count : Nat) (view : Key → Option Row) : Key → Option Row :=
  Upsert.putAll ((items.take count).filterMap ingestion.writes) view

/-- All items written, so many times. -/
def Ingestion.passes : Nat → (Key → Option Row) → Key → Option Row
  | 0, view => view
  | count + 1, view => ingestion.upTo items items.length (Ingestion.passes count view)

variable {ingestion items} {view : Key → Option Row}

/-- A page from where the first items end. -/
theorem upTo_page (count first : Nat) : Upsert.putAll (((items.drop count).take first).filterMap ingestion.writes)
    (ingestion.upTo items count view) = ingestion.upTo items (count + first) view := by
  unfold Ingestion.upTo
  rw [List.take_add, List.filterMap_append, Upsert.putAll_append]

theorem upTo_length {count : Nat} (all : items.length ≤ count) :
    ingestion.upTo items count view = ingestion.upTo items items.length view := by
  unfold Ingestion.upTo
  rw [List.take_of_length_le all, List.take_length]

/-- After the first pass, another changes nothing. -/
theorem passes_succ (count : Nat) : ingestion.passes items (count + 1) view = ingestion.upTo items items.length view := by
  induction count with
  | zero => rfl
  | succ count ih =>
    rw [Ingestion.passes, ih]
    exact Upsert.putAll_putAll (ingestion.overwriting _)

end Ingestion

section Standing

variable {resource : String} {store next : Store Tables} {job : BackfillJob} {connection : Connection Item} {choice : Choice Seed}

theorem updateJob_eq {change : BackfillJob → BackfillJob} {keeps : ∀ row, Indexed.index (change row) = Indexed.index row}
    {value : Unit}
    (updated : onJobs (BackfillJobRepository.updateJob merchantId resource change keeps) store = .ok (value, next))
    (found : store.backfillJobs.find? (jobFor merchantId resource) = some job) :
    next = { store with backfillJobs := next.backfillJobs } ∧
      next.backfillJobs.find? (jobFor merchantId resource) = some (change job) := by
  obtain ⟨backfillJobs, written, rfl⟩ := onJobs_ok updated
  refine ⟨rfl, ?_⟩
  rw [(BackfillJobRepository.updateJob_ok written).2, found, Option.map_some]

@[simp] theorem offset_none : offset none = 0 := rfl

@[simp] theorem offset_some (passed : Nat) : offset (some passed) = passed := rfl

variable (ingestion : Ingestion process merchantId Key Row) (resource : String) (connection : Connection Item)
  (prior : Store Tables) (once : Prop)

/-- The events that were published count the connection, unless a pass was started again. -/
def Published (store : Store Tables) : Prop := once → ∃ events, store.published = prior.published ++ events ∧
  ∀ event ∈ events, ∃ pages, event = (merchantId, backfillCompleted resource pages connection.items.length)

/-- The items up to the cursor are written, after so many whole passes; and so they are counted. -/
structure Standing (store : Store Tables) (job : BackfillJob) (passes : Nat) : Prop where
  found : store.backfillJobs.find? (jobFor merchantId resource) = some job
  steady : ingestion.Steady store.tables
  bound : offset job.cursor ≤ connection.items.length
  view : ingestion.view store.tables = ingestion.upTo connection.items (offset job.cursor)
    (ingestion.passes connection.items passes (ingestion.view prior.tables))
  counted : job.itemsProcessed = passes * connection.items.length + offset job.cursor
  single : once → passes ≤ 1 ∧ (job.cursor.isSome → passes = 0)
  published : @Published _ _ merchantId resource connection prior once store

/-- Every item is behind the cursor; an empty last page has cleared it. -/
def Finished (job : BackfillJob) (passes : Nat) : Prop :=
  job.cursor = none ∧ 1 ≤ passes ∨ job.cursor = some connection.items.length

/-- The state between two calls. -/
def Sound (store : Store Tables) : Prop :=
  store.backfillJobs.find? (jobFor merchantId resource) = none ∧ ingestion.Steady store.tables ∧
      ingestion.view store.tables = ingestion.view prior.tables ∧ @Published _ _ merchantId resource connection prior once store ∨
    ∃ job passes, Standing ingestion resource connection prior once store job passes ∧
      (job.status = .completed → Finished connection job passes)

variable {ingestion resource connection prior once} {passes : Nat}

/-- What the tables and the counters are once every item is behind the cursor. -/
theorem Standing.finished (stands : Standing ingestion resource connection prior once store job passes)
    (finished : Finished connection job passes) :
    ingestion.view store.tables = ingestion.upTo connection.items connection.items.length (ingestion.view prior.tables) ∧
      (once → job.itemsProcessed = connection.items.length) := by
  have seen := stands.view
  have counts := stands.counted
  rcases finished with ⟨cleared, positive⟩ | ended
  · rw [cleared, offset_none] at seen counts
    obtain ⟨earlier, rfl⟩ := Nat.exists_eq_add_of_le' positive
    refine ⟨seen.trans (passes_succ earlier), fun held => ?_⟩
    have one : earlier + 1 = 1 := le_antisymm (stands.single held).1 positive
    rw [counts, one, Nat.one_mul, Nat.add_zero]
  · rw [ended, offset_some] at seen counts
    refine ⟨seen.trans (passes_succ passes), fun held => ?_⟩
    have none : passes = 0 := (stands.single held).2 (by rw [ended]; rfl)
    rw [counts, none, Nat.zero_mul, Nat.zero_add]

/-- A change of the job that leaves the cursor and the counter. -/
theorem Standing.update {change : BackfillJob → BackfillJob} {keeps : ∀ row, Indexed.index (change row) = Indexed.index row}
    {value : Unit} (stands : Standing ingestion resource connection prior once store job passes)
    (updated : onJobs (BackfillJobRepository.updateJob merchantId resource change keeps) store = .ok (value, next))
    (cursor : (change job).cursor = job.cursor) (counted : (change job).itemsProcessed = job.itemsProcessed) :
    Standing ingestion resource connection prior once next (change job) passes := by
  obtain ⟨kept, found⟩ := updateJob_eq updated stands.found
  refine ⟨found, ?_, ?_, ?_, ?_, ?_, ?_⟩
  · rw [kept]
    exact stands.steady
  · rw [cursor]
    exact stands.bound
  · rw [kept, cursor]
    exact stands.view
  · rw [cursor, counted]
    exact stands.counted
  · rw [cursor]
    exact stands.single
  · rw [kept]
    exact stands.published

/-- A page is stored with the cursor after it. -/
theorem Standing.commitPage {seed : Seed} {first : Nat} {value : Unit}
    (stands : Standing ingestion resource connection prior once store job passes) (single : once → passes = 0)
    (stored : commitPage process merchantId resource (connection.page first job.cursor).items
      (connection.page first job.cursor).endCursor seed store = .ok (value, next)) :
    ∃ after reached, Standing ingestion resource connection prior once next after reached ∧ after.status = job.status ∧
      after.cursor = (connection.page first job.cursor).endCursor ∧
      after.itemsProcessed = job.itemsProcessed + (connection.page first job.cursor).items.length ∧
      if (connection.page first job.cursor).hasNextPage then once → reached = 0 else Finished connection after reached := by
  obtain ⟨tables, processed, updated⟩ := bind_eq_ok_iff.mp stored
  have written : ingestion.Steady tables ∧ ingestion.view tables =
      Upsert.putAll ((connection.page first job.cursor).items.filterMap ingestion.writes) (ingestion.view store.tables) := by
    unfold processPage at processed
    split at processed
    · rename_i empty
      cases processed
      rw [List.isEmpty_iff.mp empty]
      exact ⟨stands.steady, rfl⟩
    · exact ingestion.keeps stands.steady processed
  have there : ({ store with tables } : Store Tables).backfillJobs.find? (jobFor merchantId resource) = some job := stands.found
  obtain ⟨kept, found⟩ := updateJob_eq updated there
  have reached : ingestion.view tables = ingestion.upTo connection.items (offset job.cursor + first)
      (ingestion.passes connection.items passes (ingestion.view prior.tables)) := by
    rw [written.2, stands.view]
    exact upTo_page _ _
  have steady : ingestion.Steady next.tables := by
    rw [kept]
    exact written.1
  have same : next.tables = tables := by rw [kept]
  have published : @Published _ _ merchantId resource connection prior once next := by
    rw [kept]
    exact stands.published
  have length : (connection.page first job.cursor).items.length = min first (connection.items.length - offset job.cursor) := by
    rw [Connection.page, List.length_take, List.length_drop]
  have bound := stands.bound
  have counted := stands.counted
  by_cases past : connection.items.length ≤ offset job.cursor
  · -- past the end: the page is empty and clears the cursor
    have cleared : (connection.page first job.cursor).endCursor = none := if_pos past
    have last : ¬(connection.page first job.cursor).hasNextPage = true := by
      change ¬decide (offset job.cursor + first < connection.items.length) = true
      simp only [decide_eq_true_eq]
      omega
    refine ⟨_, passes + 1, ⟨found, steady, ?_, ?_, ?_, ?_, published⟩, rfl, rfl, rfl, ?_⟩
    · change offset (connection.page first job.cursor).endCursor ≤ _
      rw [cleared]
      exact Nat.zero_le _
    · rw [same, reached, upTo_length (past.trans (Nat.le_add_right _ _))]
      change _ = ingestion.upTo connection.items (offset (connection.page first job.cursor).endCursor) _
      rw [cleared]
      rfl
    · change job.itemsProcessed + _ = _ + offset (connection.page first job.cursor).endCursor
      rw [cleared, length, counted, offset_none, Nat.add_mul, Nat.one_mul]
      omega
    · intro held
      have none := single held
      refine ⟨by omega, fun given => ?_⟩
      change (connection.page first job.cursor).endCursor.isSome = true at given
      rw [cleared] at given
      cases given
    · rw [if_neg last]
      exact .inl ⟨cleared, Nat.le_add_left 1 passes⟩
  · have ended : (connection.page first job.cursor).endCursor = some (min (offset job.cursor + first) connection.items.length) :=
      if_neg past
    refine ⟨_, passes, ⟨found, steady, ?_, ?_, ?_, ?_, published⟩, rfl, rfl, rfl, ?_⟩
    · change offset (connection.page first job.cursor).endCursor ≤ _
      rw [ended]
      exact Nat.min_le_right _ _
    · change _ = ingestion.upTo connection.items (offset (connection.page first job.cursor).endCursor) _
      rw [same, reached, ended, offset_some]
      rcases Nat.le_total (offset job.cursor + first) connection.items.length with short | long
      · rw [Nat.min_eq_left short]
      · rw [Nat.min_eq_right long, upTo_length long]
    · change job.itemsProcessed + _ = _ + offset (connection.page first job.cursor).endCursor
      rw [ended, length, counted, offset_some]
      omega
    · exact fun held => ⟨(single held).trans_le (Nat.zero_le 1), fun _ => single held⟩
    · split
      · exact single
      · rename_i last
        refine .inr ?_
        change (connection.page first job.cursor).endCursor = _
        rw [ended]
        have reached : connection.items.length ≤ offset job.cursor + first := by
          by_contra more
          exact last (decide_eq_true (not_le.mp more))
        rw [Nat.min_eq_right reached]

end Standing

end WinBack.Runner
