import Mathlib.Algebra.Ring.Int.Defs
import Mathlib.Algebra.Ring.Nat
import Mathlib.Data.List.Basic
import Mathlib.Data.List.Pairwise
import Mathlib.Tactic.Common

/-! Finite tables whose rows never clash on a unique index, with the row-level
operations of a relational store: guarded insert, update-many and delete-many.
The uniqueness proof is a field, so no operation can build a clashing table. -/

namespace WinBack.Library

/-- The unique indexes of a row type, collected in one index value. Two rows
clash when some unique index holds the same key for both. -/
class Indexed (Row : Type) where
  Index : Type
  index : Row → Index
  clash : Index → Index → Bool
  clash_symm : ∀ first second, clash first second = clash second first

/-- A row type with one unique index. -/
@[reducible] def Indexed.ofKey {Row Key : Type} [DecidableEq Key] (key : Row → Key) : Indexed Row where
  Index := Key
  index := key
  clash first second := first == second
  clash_symm first second := by
    rw [Bool.eq_iff_iff, beq_iff_eq, beq_iff_eq]
    exact eq_comm

/-- A row type with two unique indexes. -/
@[reducible] def Indexed.ofKeys {Row First Second : Type} [DecidableEq First] [DecidableEq Second]
    (first : Row → First) (second : Row → Second) : Indexed Row where
  Index := First × Second
  index row := (first row, second row)
  clash left right := left.1 == right.1 || left.2 == right.2
  clash_symm left right := by
    rw [Bool.eq_iff_iff]
    simp only [Bool.or_eq_true, beq_iff_eq]
    exact or_congr eq_comm eq_comm

/-- Rows in insertion order, no two of them equal on a unique index. -/
structure Table (Row : Type) [Indexed Row] where
  rows : List Row
  unique : rows.Pairwise fun first second =>
    Indexed.clash (Indexed.index first) (Indexed.index second) = false

namespace Table

variable {Row : Type} [Indexed Row]

def empty : Table Row := ⟨[], .nil⟩

instance : EmptyCollection (Table Row) := ⟨empty⟩

instance : Inhabited (Table Row) := ⟨empty⟩

def single (row : Row) : Table Row := ⟨[row], .cons nofun .nil⟩

/-- The first row satisfying the filter, as a unique lookup reads it. -/
def find? (table : Table Row) (filter : Row → Bool) : Option Row := table.rows.find? filter

def count (table : Table Row) (filter : Row → Bool) : Nat := table.rows.countP filter

def any (table : Table Row) (filter : Row → Bool) : Bool := table.rows.any filter

/-- Insert unless some unique index already holds the new row's key. -/
def insert? (table : Table Row) (row : Row) : Option (Table Row) :=
  if free : ∀ other ∈ table.rows, Indexed.clash (Indexed.index other) (Indexed.index row) = false then
    some ⟨table.rows ++ [row], List.pairwise_append.mpr ⟨table.unique, by simp, by simpa using free⟩⟩
  else none

/-- Rewrite every matching row. The rewrite keeps the unique indexes. -/
def updateMany (table : Table Row) (filter : Row → Bool) (change : Row → Row)
    (keeps : ∀ row, Indexed.index (change row) = Indexed.index row) : Table Row where
  rows := table.rows.map fun row => if filter row then change row else row
  unique := by
    have same (row : Row) : Indexed.index (if filter row then change row else row) =
        Indexed.index row := by
      split
      · exact keeps row
      · rfl
    simpa only [List.pairwise_map, same] using table.unique

/-- Rewrite every matching row where the rewrite may touch a unique index; the
statement is refused when two rows would clash. -/
def updateChecked? (table : Table Row) (filter : Row → Bool) (change : Row → Row) :
    Option (Table Row) :=
  let rows := table.rows.map fun row => if filter row then change row else row
  if free : rows.Pairwise fun first second =>
      Indexed.clash (Indexed.index first) (Indexed.index second) = false then
    some ⟨rows, free⟩
  else none

def deleteMany (table : Table Row) (filter : Row → Bool) : Table Row :=
  ⟨table.rows.filter fun row => !filter row, table.unique.filter _⟩

@[simp] theorem rows_single (row : Row) : (single row).rows = [row] := rfl

@[simp] theorem rows_empty : (∅ : Table Row).rows = [] := rfl

@[simp] theorem rows_updateMany (table : Table Row) (filter : Row → Bool) (change : Row → Row)
    (keeps : ∀ row, Indexed.index (change row) = Indexed.index row) :
    (table.updateMany filter change keeps).rows =
      table.rows.map fun row => if filter row then change row else row := rfl

@[simp] theorem rows_deleteMany (table : Table Row) (filter : Row → Bool) :
    (table.deleteMany filter).rows = table.rows.filter fun row => !filter row := rfl

theorem ext {first second : Table Row} (same : first.rows = second.rows) : first = second := by
  cases first
  cases second
  cases same
  rfl

instance [DecidableEq Row] : DecidableEq (Table Row) := fun first second =>
  decidable_of_iff (first.rows = second.rows) ⟨ext, congrArg rows⟩

theorem insert?_rows {table next : Table Row} {row : Row} (inserted : table.insert? row = some next) :
    next.rows = table.rows ++ [row] ∧
      ∀ other ∈ table.rows, Indexed.clash (Indexed.index other) (Indexed.index row) = false := by
  unfold insert? at inserted
  split at inserted
  · rename_i free
    cases inserted
    exact ⟨rfl, free⟩
  · cases inserted

theorem insert?_none {table : Table Row} {row : Row} (refused : table.insert? row = none) :
    ∃ other ∈ table.rows, Indexed.clash (Indexed.index other) (Indexed.index row) = true := by
  unfold insert? at refused
  split at refused
  · cases refused
  · rename_i taken
    push Not at taken
    simpa using taken

theorem updateChecked?_rows {table next : Table Row} {filter : Row → Bool} {change : Row → Row}
    (updated : table.updateChecked? filter change = some next) :
    next.rows = table.rows.map fun row => if filter row then change row else row := by
  unfold updateChecked? at updated
  dsimp only at updated
  split at updated
  · cases updated
    rfl
  · cases updated

/-- Two stored rows that clash are the same row. -/
theorem eq_of_clash (table : Table Row) {first second : Row} (here : first ∈ table.rows)
    (there : second ∈ table.rows)
    (clash : Indexed.clash (Indexed.index first) (Indexed.index second) = true) :
    first = second := by
  by_contra different
  have symmetric : Std.Symm fun first second : Row =>
      Indexed.clash (Indexed.index first) (Indexed.index second) = false := by
    refine ⟨?_⟩
    intro first second free
    rw [Indexed.clash_symm]
    exact free
  have free := table.unique.forall here there different
  simp [free] at clash

theorem find?_mem {table : Table Row} {filter : Row → Bool} {row : Row}
    (found : table.find? filter = some row) : row ∈ table.rows ∧ filter row = true :=
  ⟨List.mem_of_find?_eq_some found, List.find?_some found⟩

theorem find?_none_iff {table : Table Row} {filter : Row → Bool} :
    table.find? filter = none ↔ ∀ row ∈ table.rows, filter row = false := by
  simp [find?]

/-- A filter that pins a unique index finds exactly the stored row it names. -/
theorem find?_eq_some_iff {table : Table Row} {filter : Row → Bool}
    (pins : ∀ first second, filter first = true → filter second = true →
      Indexed.clash (Indexed.index first) (Indexed.index second) = true) {row : Row} :
    table.find? filter = some row ↔ row ∈ table.rows ∧ filter row = true := by
  constructor
  · exact find?_mem
  · intro ⟨member, holds⟩
    cases found : table.find? filter with
    | none =>
      rw [find?_none_iff] at found
      simp [found row member] at holds
    | some other =>
      obtain ⟨otherMember, otherHolds⟩ := find?_mem found
      exact congrArg some (table.eq_of_clash otherMember member (pins other row otherHolds holds))

/-- An update that leaves the looked-up column alone maps over the lookup. -/
theorem find?_updateMany {table : Table Row} {lookup filter : Row → Bool} {change : Row → Row}
    {keeps : ∀ row, Indexed.index (change row) = Indexed.index row}
    (stable : ∀ row, lookup (change row) = lookup row) :
    (table.updateMany filter change keeps).find? lookup =
      (table.find? lookup).map fun row => if filter row then change row else row := by
  have same (row : Row) : lookup (if filter row then change row else row) = lookup row := by
    split
    · exact stable row
    · rfl
  simp only [find?, rows_updateMany, List.find?_map]
  congr 2
  funext row
  exact same row

theorem find?_insert? {table next : Table Row} {row : Row} {lookup : Row → Bool}
    (inserted : table.insert? row = some next) :
    next.find? lookup = (table.find? lookup).or (if lookup row then some row else none) := by
  simp only [find?, (insert?_rows inserted).1, List.find?_append, List.find?_singleton]

/-- An update that matches no row is the identity. -/
theorem updateMany_eq_self {table : Table Row} {filter : Row → Bool} {change : Row → Row}
    {keeps : ∀ row, Indexed.index (change row) = Indexed.index row}
    (missed : table.count filter = 0) : table.updateMany filter change keeps = table := by
  apply ext
  simp only [count, List.countP_eq_zero] at missed
  simp only [rows_updateMany]
  conv_rhs => rw [← List.map_id table.rows]
  apply List.map_congr_left
  intro row member
  simp [missed row member]

/-- An update is the identity when it leaves the one row that its filter names. -/
theorem updateMany_pinned {table : Table Row} {filter : Row → Bool} {change : Row → Row}
    {keeps : ∀ row, Indexed.index (change row) = Indexed.index row}
    (pins : ∀ first second, filter first = true → filter second = true →
      Indexed.clash (Indexed.index first) (Indexed.index second) = true)
    {row : Row} (found : table.find? filter = some row) (same : change row = row) :
    table.updateMany filter change keeps = table := by
  obtain ⟨stored, matched⟩ := find?_mem found
  apply ext
  rw [rows_updateMany]
  conv_rhs => rw [← List.map_id table.rows]
  apply List.map_congr_left
  intro other listed
  rw [id]
  split
  · rename_i holds
    rw [← table.eq_of_clash stored listed (pins row other matched holds), same]
  · rfl

theorem count_pos_iff {table : Table Row} {filter : Row → Bool} :
    0 < table.count filter ↔ ∃ row ∈ table.rows, filter row = true := by
  simp [count, List.countP_pos_iff]

/-- A filter that pins a unique index matches at most one row. -/
theorem count_le_one {table : Table Row} {filter : Row → Bool}
    (pins : ∀ first second, filter first = true → filter second = true →
      Indexed.clash (Indexed.index first) (Indexed.index second) = true) :
    table.count filter ≤ 1 := by
  have general : ∀ rows : List Row, (rows.Pairwise fun first second =>
      Indexed.clash (Indexed.index first) (Indexed.index second) = false) →
      rows.countP filter ≤ 1 := by
    intro rows unique
    induction rows with
    | nil => simp
    | cons head tail ih =>
      obtain ⟨apart, rest⟩ := List.pairwise_cons.mp unique
      by_cases holds : filter head = true
      · have none : tail.countP filter = 0 := by
          rw [List.countP_eq_zero]
          intro other member otherHolds
          have clash := pins head other holds otherHolds
          simp [apart other member] at clash
        simp [holds, none]
      · simpa [holds] using ih rest
  exact general table.rows table.unique

/-- How an update moves a count: matching rows leave with their old value and
come back with their new one. -/
theorem count_updateMany {table : Table Row} {filter counted : Row → Bool} {change : Row → Row}
    {keeps : ∀ row, Indexed.index (change row) = Indexed.index row} :
    (table.updateMany filter change keeps).count counted =
      table.count (fun row => counted row && !filter row) +
        table.count (fun row => filter row && counted (change row)) := by
  have general : ∀ rows : List Row,
      (rows.map fun row => if filter row then change row else row).countP counted =
        rows.countP (fun row => counted row && !filter row) +
          rows.countP (fun row => filter row && counted (change row)) := by
    intro rows
    induction rows with
    | nil => rfl
    | cons head tail ih =>
      rw [List.map_cons, List.countP_cons, List.countP_cons, List.countP_cons, ih]
      cases matched : filter head with
      | false =>
        simp
        omega
      | true =>
        simp
        omega
  exact general table.rows

/-- An update that leaves the counted column of every matching row alone leaves the count. -/
theorem count_updateMany_eq {table : Table Row} {filter counted : Row → Bool} {change : Row → Row}
    {keeps : ∀ row, Indexed.index (change row) = Indexed.index row}
    (stable : ∀ row, filter row = true → counted (change row) = counted row) :
    (table.updateMany filter change keeps).count counted = table.count counted := by
  simp only [count, rows_updateMany, List.countP_map]
  apply List.countP_congr
  intro row _
  cases matched : filter row with
  | false => simp [matched]
  | true => simp [matched, stable row matched]

theorem count_insert? {table next : Table Row} {row : Row} {counted : Row → Bool}
    (inserted : table.insert? row = some next) :
    next.count counted = table.count counted + if counted row then 1 else 0 := by
  simp only [count, (insert?_rows inserted).1, List.countP_append, List.countP_singleton]

theorem count_split {table : Table Row} (counted filter : Row → Bool) :
    table.count counted = table.count (fun row => counted row && filter row) +
      table.count (fun row => counted row && !filter row) := by
  unfold count
  rw [List.countP_eq_countP_filter_add table.rows counted filter, List.countP_filter, List.countP_filter]

section Totals

variable {measure : Row → Int}

/-- The sum of a measure over the rows. -/
def total (table : Table Row) (measure : Row → Int) : Int := (table.rows.map measure).sum

theorem total_congr {table : Table Row} {other : Row → Int} (same : ∀ row ∈ table.rows, measure row = other row) :
    table.total measure = table.total other := congrArg List.sum (List.map_congr_left same)

theorem total_le {table : Table Row} {other : Row → Int} (least : ∀ row ∈ table.rows, measure row ≤ other row) :
    table.total measure ≤ table.total other := by
  have general : ∀ rows : List Row, (∀ row ∈ rows, measure row ≤ other row) →
      (rows.map measure).sum ≤ (rows.map other).sum := by
    intro rows least
    induction rows with
    | nil => exact Int.le_refl _
    | cons head tail ih =>
      rw [List.map_cons, List.map_cons, List.sum_cons, List.sum_cons]
      exact Int.add_le_add (least head List.mem_cons_self) (ih fun row later => least row (List.mem_cons_of_mem _ later))
  exact general table.rows least

/-- Counting is the sum of an indicator. -/
theorem total_indicator {table : Table Row} {counted : Row → Bool} :
    table.total (fun row => if counted row then 1 else 0) = table.count counted := by
  unfold total count
  induction table.rows with
  | nil => rfl
  | cons head tail ih =>
    rw [List.map_cons, List.sum_cons, List.countP_cons, ih]
    split
    · simp
      omega
    · simp

theorem total_insert? {table next : Table Row} {row : Row} (inserted : table.insert? row = some next) :
    next.total measure = table.total measure + measure row := by
  simp [total, (insert?_rows inserted).1]

/-- An update that leaves the measure of every matching row alone leaves the total. -/
theorem total_updateMany_eq {table : Table Row} {filter : Row → Bool} {change : Row → Row}
    {keeps : ∀ row, Indexed.index (change row) = Indexed.index row}
    (stable : ∀ row, filter row = true → measure (change row) = measure row) :
    (table.updateMany filter change keeps).total measure = table.total measure := by
  simp only [total, rows_updateMany, List.map_map]
  congr 1
  apply List.map_congr_left
  intro row _
  simp only [Function.comp_apply]
  split
  · rename_i matched
    exact stable row matched
  · rfl

/-- An update of the one row that a unique index names moves the total by what that
row gains. -/
theorem total_updateMany {table : Table Row} {filter : Row → Bool} {change : Row → Row}
    {keeps : ∀ row, Indexed.index (change row) = Indexed.index row}
    (pins : ∀ first second, filter first = true → filter second = true →
      Indexed.clash (Indexed.index first) (Indexed.index second) = true)
    {row : Row} (stored : row ∈ table.rows) (matched : filter row = true) :
    (table.updateMany filter change keeps).total measure =
      table.total measure + (measure (change row) - measure row) := by
  have general : ∀ rows : List Row, (rows.Pairwise fun first second =>
      Indexed.clash (Indexed.index first) (Indexed.index second) = false) → row ∈ rows →
      ((rows.map fun row => if filter row then change row else row).map measure).sum =
        (rows.map measure).sum + (measure (change row) - measure row) := by
    intro rows unique member
    induction rows with
    | nil => cases member
    | cons head tail ih =>
      obtain ⟨apart, rest⟩ := List.pairwise_cons.mp unique
      simp only [List.map_cons, List.sum_cons]
      rcases List.mem_cons.mp member with rfl | later
      · -- no other row matches
        have others : tail.map (fun row => if filter row then change row else row) = tail.map id :=
          List.map_congr_left fun other listed => by
            rw [if_neg, id]
            intro holds
            have clash := pins row other matched holds
            simp [apart other listed] at clash
        rw [others, List.map_id, if_pos matched]
        omega
      · have missed : filter head = false := by
          by_contra holds
          have clash := pins head row (by simpa using holds) matched
          simp [apart row later] at clash
        rw [ih rest later, missed, if_neg Bool.false_ne_true]
        omega
  exact general table.rows table.unique stored

/-- The one row that a unique index names weighs apart from the others. -/
theorem total_pinned {table : Table Row} {filter : Row → Bool}
    (pins : ∀ first second, filter first = true → filter second = true →
      Indexed.clash (Indexed.index first) (Indexed.index second) = true)
    {row : Row} (stored : row ∈ table.rows) (matched : filter row = true) :
    table.total measure = table.total (fun other => if filter other then 0 else measure other) + measure row := by
  have general : ∀ rows : List Row, (rows.Pairwise fun first second =>
      Indexed.clash (Indexed.index first) (Indexed.index second) = false) → row ∈ rows →
      (rows.map measure).sum = (rows.map fun other => if filter other then 0 else measure other).sum + measure row := by
    intro rows unique member
    induction rows with
    | nil => cases member
    | cons head tail ih =>
      obtain ⟨apart, rest⟩ := List.pairwise_cons.mp unique
      simp only [List.map_cons, List.sum_cons]
      rcases List.mem_cons.mp member with rfl | later
      · -- no other row matches
        have others : (tail.map fun other => if filter other then 0 else measure other) = tail.map measure :=
          List.map_congr_left fun other listed => by
            rw [if_neg]
            intro holds
            have clash := pins row other matched holds
            simp [apart other listed] at clash
        rw [others, if_pos matched]
        omega
      · have missed : filter head = false := by
          by_contra holds
          have clash := pins head row (by simpa using holds) matched
          simp [apart row later] at clash
        rw [ih rest later, missed, if_neg Bool.false_ne_true]
        omega
  exact general table.rows table.unique stored

end Totals

section Links

variable {Link : Type} {link : Row → Option Link}

/-- What the rows of a table refer to. -/
def links (link : Row → Option Link) (table : Table Row) : List Link := table.rows.filterMap link

theorem mem_links {table : Table Row} {target : Link} :
    target ∈ table.links link ↔ ∃ row ∈ table.rows, link row = some target := List.mem_filterMap

theorem mem_links_insert? {table next : Table Row} {row : Row} {target : Link}
    (inserted : table.insert? row = some next) :
    target ∈ next.links link ↔ target ∈ table.links link ∨ link row = some target := by
  simp [mem_links, (insert?_rows inserted).1, or_and_right, exists_or]

/-- An update that adds no link. -/
theorem links_update_subset {table updated : Table Row} {filter : Row → Bool} {change : Row → Row}
    (rows : updated.rows = table.rows.map fun row => if filter row then change row else row)
    (narrows : ∀ row target, link (change row) = some target → link row = some target) :
    updated.links link ⊆ table.links link := by
  intro target member
  obtain ⟨row, listed, held⟩ := mem_links.mp member
  rw [rows] at listed
  obtain ⟨old, present, rfl⟩ := List.mem_map.mp listed
  split at held
  · exact mem_links.mpr ⟨old, present, narrows old target held⟩
  · exact mem_links.mpr ⟨old, present, held⟩

/-- An update that leaves the links alone. -/
theorem links_update {table updated : Table Row} {filter : Row → Bool} {change : Row → Row}
    (rows : updated.rows = table.rows.map fun row => if filter row then change row else row)
    (same : ∀ row, link (change row) = link row) : updated.links link = table.links link := by
  unfold links
  rw [rows, List.filterMap_map]
  congr 1
  funext row
  simp only [Function.comp_apply]
  split
  · exact same row
  · rfl

theorem links_deleteMany_subset {table : Table Row} {filter : Row → Bool} :
    (table.deleteMany filter).links link ⊆ table.links link := by
  intro target member
  obtain ⟨row, listed, held⟩ := mem_links.mp member
  exact mem_links.mpr ⟨row, (List.mem_filter.mp listed).1, held⟩

end Links

end Table

end WinBack.Library
