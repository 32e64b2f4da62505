import Mathlib.Data.List.Basic
import Mathlib.Data.List.Pairwise
import Mathlib.Tactic.Common

/-! Rows that refer to one another, and what the foreign keys of a schema do when rows
are deleted: a reference takes its own row away as well, or is set to null. -/

namespace WinBack.Library.Relational

/-- What deleting a row does to a row that refers to it. -/
inductive OnDelete where
  | cascade | setNull
  deriving DecidableEq, Repr

structure Schema (Model Column : Type) where
  columns : List Column
  complete : ∀ column, column ∈ columns
  /-- The model whose ids a column holds. -/
  target : Column → Model
  /-- `none` where the model has no such column. -/
  onDelete : Model → Column → Option OnDelete
  rank : Model → Nat
  /-- Cascades never lead around in a circle. -/
  descends : ∀ model column, onDelete model column = some .cascade → rank (target column) < rank model

/-- The links are the references, `none` for null. -/
structure Row (Model Column Cells : Type) where
  model : Model
  id : String
  links : Column → Option String := fun _ => none
  cells : Cells

variable {Model Column Cells : Type} [DecidableEq Model]

namespace Schema

variable (schema : Schema Model Column)

def resolves (column : Column) (id : String) (parent : Row Model Column Cells) : Bool :=
  parent.model == schema.target column && parent.id == id

/-- `child` refers to `parent` under this policy. -/
def refers (policy : OnDelete) (child parent : Row Model Column Cells) : Bool :=
  schema.columns.any fun column =>
    schema.onDelete child.model column == some policy &&
      (child.links column).any fun id => schema.resolves column id parent

section Cascade

variable (rows : List (Row Model Column Cells)) (seed : Row Model Column Cells → Bool)

/-- Deleting the seeds takes the row away, over at most `depth` cascades. -/
def fallsWithin : Nat → Row Model Column Cells → Bool
  | 0, row => seed row
  | depth + 1, row =>
    seed row || rows.any fun parent => schema.refers .cascade row parent && fallsWithin depth parent

/-- The rank of its model bounds the cascades that lead to a row. -/
def falls (row : Row Model Column Cells) : Bool := schema.fallsWithin rows seed (schema.rank row.model) row

/-- Set the references to rows that are taken away to null. -/
def detach (row : Row Model Column Cells) : Row Model Column Cells := { row with
  links := fun column => (row.links column).filter fun id =>
    !(schema.onDelete row.model column == some .setNull &&
      rows.any fun parent => schema.resolves column id parent && schema.falls rows seed parent) }

/-- `DELETE` of the seeds. -/
def erase : List (Row Model Column Cells) :=
  (rows.filter fun row => !schema.falls rows seed row).map (schema.detach rows seed)

/-- A chain of cascades leads from a seed to the row. -/
inductive Falls : Row Model Column Cells → Prop where
  | seed {row : Row Model Column Cells} (chosen : seed row = true) : Falls row
  | child {row parent : Row Model Column Cells} (stored : parent ∈ rows)
      (linked : schema.refers .cascade row parent = true) (fell : Falls parent) : Falls row

end Cascade

variable {schema} {rows : List (Row Model Column Cells)} {seed first second : Row Model Column Cells → Bool}
  {row parent : Row Model Column Cells} {policy : OnDelete}

theorem refers_iff :
    schema.refers policy row parent = true ↔
      ∃ column id, row.links column = some id ∧ schema.onDelete row.model column = some policy ∧
        schema.resolves column id parent = true := by
  simp only [refers, List.any_eq_true, Bool.and_eq_true, beq_iff_eq, Option.any_eq_true]
  constructor
  · intro ⟨column, _, declared, id, held, resolved⟩
    exact ⟨column, id, held, declared, resolved⟩
  · intro ⟨column, id, held, declared, resolved⟩
    exact ⟨column, schema.complete column, declared, id, held, resolved⟩

theorem rank_lt (linked : schema.refers .cascade row parent = true) :
    schema.rank parent.model < schema.rank row.model := by
  obtain ⟨column, id, _, cascades, resolved⟩ := refers_iff.mp linked
  have named : parent.model = schema.target column := by
    have both := resolved
    rw [resolves, Bool.and_eq_true, beq_iff_eq] at both
    exact both.1
  rw [named]
  exact schema.descends _ _ cascades

theorem Falls.of_within {depth : Nat} (fell : schema.fallsWithin rows seed depth row = true) :
    schema.Falls rows seed row := by
  induction depth generalizing row with
  | zero => exact .seed fell
  | succ depth ih =>
    rw [fallsWithin, Bool.or_eq_true, List.any_eq_true] at fell
    rcases fell with chosen | ⟨parent, stored, led⟩
    · exact .seed chosen
    · rw [Bool.and_eq_true] at led
      exact .child stored led.1 (ih led.2)

theorem Falls.within (fell : schema.Falls rows seed row) :
    ∀ depth, schema.rank row.model ≤ depth → schema.fallsWithin rows seed depth row = true := by
  induction fell with
  | seed chosen =>
    intro depth _
    cases depth with
    | zero => exact chosen
    | succ depth => rw [fallsWithin, chosen, Bool.true_or]
  | child stored linked _ ih =>
    intro depth bounded
    have lower := rank_lt linked
    cases depth with
    | zero => omega
    | succ depth =>
      rw [fallsWithin, Bool.or_eq_true, List.any_eq_true]
      right
      exact ⟨_, stored, by rw [linked, ih depth (by omega), Bool.and_self]⟩

theorem falls_iff : schema.falls rows seed row = true ↔ schema.Falls rows seed row :=
  ⟨Falls.of_within, fun fell => fell.within _ (Nat.le_refl _)⟩

/-- What is closed under cascades and holds of the seeds holds of every row that falls. -/
theorem Falls.closed {Holds : Row Model Column Cells → Prop} (fell : schema.Falls rows seed row)
    (start : ∀ row, seed row = true → Holds row)
    (keeps : ∀ row parent, parent ∈ rows → schema.refers .cascade row parent = true → Holds parent → Holds row) :
    Holds row := by
  induction fell with
  | seed chosen => exact start _ chosen
  | child stored linked _ ih => exact keeps _ _ stored linked ih

@[simp] theorem detach_model : (schema.detach rows seed row).model = row.model := rfl

@[simp] theorem detach_id : (schema.detach rows seed row).id = row.id := rfl

@[simp] theorem detach_cells : (schema.detach rows seed row).cells = row.cells := rfl

@[simp] theorem resolves_detach {column : Column} {id : String} :
    schema.resolves column id (schema.detach rows seed row) = schema.resolves column id row := rfl

theorem links_detach {column : Column} {id : String} :
    (schema.detach rows seed row).links column = some id ↔
      row.links column = some id ∧ ¬(schema.onDelete row.model column = some .setNull ∧
        ∃ parent ∈ rows, schema.resolves column id parent = true ∧ schema.Falls rows seed parent) := by
  simp only [detach, Option.filter_eq_some_iff, Bool.not_eq_true', ← Bool.not_eq_true, Bool.and_eq_true,
    beq_iff_eq, List.any_eq_true, falls_iff]

/-- Only references that a deletion sets to null change. -/
theorem links_detach_eq {column : Column} (kept : schema.onDelete row.model column ≠ some .setNull) :
    (schema.detach rows seed row).links column = row.links column := by
  apply Option.ext
  intro id
  rw [links_detach]
  constructor
  · intro both
    exact both.1
  · intro held
    exact ⟨held, fun nulled => kept nulled.1⟩

/-- A deletion takes no reference that cascades from the rows it leaves. -/
theorem refers_detach :
    schema.refers .cascade (schema.detach rows seed row) parent = schema.refers .cascade row parent := by
  rw [Bool.eq_iff_iff, refers_iff, refers_iff]
  constructor
  · intro ⟨column, id, kept, cascades, resolved⟩
    exact ⟨column, id, (links_detach.mp kept).1, cascades, resolved⟩
  · intro ⟨column, id, held, cascades, resolved⟩
    refine ⟨column, id, links_detach.mpr ⟨held, ?_⟩, cascades, resolved⟩
    intro nulled
    rw [cascades] at nulled
    cases nulled.1

theorem mem_erase {later : Row Model Column Cells} :
    later ∈ schema.erase rows seed ↔
      ∃ row ∈ rows, ¬schema.Falls rows seed row ∧ schema.detach rows seed row = later := by
  simp only [erase, List.mem_map, List.mem_filter, Bool.not_eq_true', ← Bool.not_eq_true, falls_iff, and_assoc]

theorem erase_congr (same : ∀ row ∈ rows, schema.Falls rows first row ↔ schema.Falls rows second row) :
    schema.erase rows first = schema.erase rows second := by
  have equal (row : Row Model Column Cells) (stored : row ∈ rows) :
      schema.falls rows first row = schema.falls rows second row := by
    rw [Bool.eq_iff_iff, falls_iff, falls_iff]
    exact same row stored
  have keeps : (rows.filter fun row => !schema.falls rows first row) =
      rows.filter fun row => !schema.falls rows second row := by
    apply List.filter_congr
    intro row stored
    rw [equal row stored]
  rw [erase, erase, keeps]
  apply List.map_congr_left
  intro row _
  have links (column : Column) (id : String) :
      (rows.any fun parent => schema.resolves column id parent && schema.falls rows first parent) =
        rows.any fun parent => schema.resolves column id parent && schema.falls rows second parent := by
    rw [Bool.eq_iff_iff, List.any_eq_true, List.any_eq_true]
    constructor
    · intro ⟨parent, stored, both⟩
      exact ⟨parent, stored, by rw [← equal parent stored]; exact both⟩
    · intro ⟨parent, stored, both⟩
      exact ⟨parent, stored, by rw [equal parent stored]; exact both⟩
  simp only [detach, links]

section Twice

variable (stable : ∀ row ∈ rows, second (schema.detach rows first row) = second row)
include stable

/-- What a second deletion takes from the rows that a first one left. -/
theorem falls_detach (stored : row ∈ rows) (kept : ¬schema.Falls rows first row) :
    schema.Falls (schema.erase rows first) second (schema.detach rows first row) ↔
      schema.Falls rows (fun row => first row || second row) row := by
  constructor
  · intro fell
    have general : ∀ later, schema.Falls (schema.erase rows first) second later →
        ∀ row ∈ rows, schema.detach rows first row = later →
          schema.Falls rows (fun row => first row || second row) row := by
      intro later fell
      induction fell with
      | seed chosen =>
        intro row stored same
        rw [← same, stable row stored] at chosen
        exact .seed (by rw [chosen, Bool.or_true])
      | child held linked _ ih =>
        intro row stored same
        obtain ⟨parent, present, _, rfl⟩ := mem_erase.mp held
        rw [← same, refers_detach] at linked
        exact .child present linked (ih parent present rfl)
    exact general _ fell row stored rfl
  · intro fell
    induction fell with
    | seed chosen =>
      rw [Bool.or_eq_true] at chosen
      rcases chosen with early | late
      · exact absurd (.seed early) kept
      · exact .seed (by rw [stable _ stored, late])
    | child present linked _ ih =>
      -- a parent that the first deletion took would have taken the row along
      have left := fun gone => kept (.child present linked gone)
      exact .child (mem_erase.mpr ⟨_, present, left, rfl⟩) (by rw [refers_detach]; exact linked) (ih present left)

omit stable in
theorem Falls.both (fell : schema.Falls rows first row) :
    schema.Falls rows (fun row => first row || second row) row := by
  induction fell with
  | seed chosen => exact .seed (by rw [chosen, Bool.true_or])
  | child stored linked _ ih => exact .child stored linked ih

/-- The references that the two deletions set to null. -/
theorem detach_detach :
    schema.detach (schema.erase rows first) second (schema.detach rows first row) =
      schema.detach rows (fun row => first row || second row) row := by
  have links : (schema.detach (schema.erase rows first) second (schema.detach rows first row)).links =
      (schema.detach rows (fun row => first row || second row) row).links := by
    funext column
    apply Option.ext
    intro id
    rw [links_detach, links_detach, links_detach, and_assoc, and_congr_right_iff]
    intro _
    constructor
    · rintro ⟨early, late⟩ ⟨nulls, parent, stored, resolved, fell⟩
      by_cases gone : schema.Falls rows first parent
      · exact early ⟨nulls, parent, stored, resolved, gone⟩
      · exact late ⟨nulls, _, mem_erase.mpr ⟨parent, stored, gone, rfl⟩, resolved,
          (falls_detach stable stored gone).mpr fell⟩
    · intro kept
      constructor
      · rintro ⟨nulls, parent, stored, resolved, fell⟩
        exact kept ⟨nulls, parent, stored, resolved, fell.both⟩
      · rintro ⟨nulls, _, left, resolved, fell⟩
        obtain ⟨parent, stored, gone, rfl⟩ := mem_erase.mp left
        exact kept ⟨nulls, parent, stored, resolved, (falls_detach stable stored gone).mp fell⟩
  exact congrArg (fun links => { row with links }) links

/-- Two deletions are one deletion of both seeds. -/
theorem erase_erase :
    schema.erase (schema.erase rows first) second = schema.erase rows fun row => first row || second row := by
  have twice : schema.erase (schema.erase rows first) second =
      (((rows.filter fun row => !schema.falls rows first row).map (schema.detach rows first)).filter
        fun row => !schema.falls (schema.erase rows first) second row).map
          (schema.detach (schema.erase rows first) second) := rfl
  have keeps : (rows.filter fun row =>
      ((fun row => !schema.falls (schema.erase rows first) second row) ∘ schema.detach rows first) row &&
        !schema.falls rows first row) =
      rows.filter fun row => !schema.falls rows (fun row => first row || second row) row := by
    apply List.filter_congr
    intro row stored
    by_cases gone : schema.Falls rows first row
    · have late : schema.falls rows (fun row => first row || second row) row = true := falls_iff.mpr gone.both
      rw [falls_iff.mpr gone, late, Bool.not_true, Bool.and_false]
    · have kept : schema.falls rows first row = false := by
        rw [← Bool.not_eq_true, falls_iff]
        exact gone
      have agree : schema.falls (schema.erase rows first) second (schema.detach rows first row) =
          schema.falls rows (fun row => first row || second row) row := by
        rw [Bool.eq_iff_iff, falls_iff, falls_iff]
        exact falls_detach stable stored gone
      rw [Function.comp_apply, kept, agree, Bool.not_false, Bool.and_true]
  rw [twice, List.filter_map, List.filter_filter, List.map_map, keeps]
  apply List.map_congr_left
  intro row _
  exact detach_detach stable

/-- A deletion before a larger one makes no difference. -/
theorem erase_absorb (smaller : ∀ row ∈ rows, first row = true → schema.Falls rows second row) :
    schema.erase (schema.erase rows first) second = schema.erase rows second := by
  rw [erase_erase stable]
  apply erase_congr
  intro row stored
  constructor
  · intro fell
    induction fell with
    | seed chosen =>
      rw [Bool.or_eq_true] at chosen
      rcases chosen with early | late
      · exact smaller _ stored early
      · exact .seed late
    | child present linked _ ih => exact .child present linked (ih present)
  · intro fell
    induction fell with
    | seed chosen => exact .seed (by rw [chosen, Bool.or_true])
    | child present linked _ ih => exact .child present linked (ih present)

end Twice

/-- A row without a reference to a row that is taken away stays as it is. -/
theorem detach_eq_self (clear : ∀ parent ∈ rows, schema.Falls rows seed parent →
    schema.refers .setNull row parent = false) : schema.detach rows seed row = row := by
  have links : (schema.detach rows seed row).links = row.links := by
    funext column
    apply Option.ext
    intro id
    rw [links_detach]
    constructor
    · intro kept
      exact kept.1
    · intro held
      refine ⟨held, ?_⟩
      rintro ⟨nulls, parent, stored, resolved, fell⟩
      have linked : schema.refers .setNull row parent = true := refers_iff.mpr ⟨column, id, held, nulls, resolved⟩
      rw [clear parent stored fell] at linked
      cases linked
  exact congrArg (fun links => { row with links }) links

/-- A deletion that takes no row leaves every row as it is. -/
theorem erase_eq_self (none : ∀ row ∈ rows, ¬schema.Falls rows seed row) : schema.erase rows seed = rows := by
  have keeps : (rows.filter fun row => !schema.falls rows seed row) = rows := by
    apply List.filter_eq_self.mpr
    intro row stored
    rw [Bool.not_eq_true', ← Bool.not_eq_true, falls_iff]
    exact none row stored
  rw [erase, keeps]
  conv_rhs => rw [← List.map_id rows]
  apply List.map_congr_left
  intro row _
  exact detach_eq_self fun parent stored fell => absurd fell (none parent stored)

theorem length_erase_le : (schema.erase rows seed).length ≤ rows.length := by
  rw [erase, List.length_map]
  exact List.length_filter_le _ _

theorem length_erase_lt (stored : row ∈ rows) (fell : schema.Falls rows seed row) :
    (schema.erase rows seed).length < rows.length := by
  rw [erase, List.length_map]
  apply List.length_filter_lt_length_iff_exists.mpr
  exact ⟨row, stored, by rw [falls_iff.mpr fell]; decide⟩

section Append

variable {fresh : Row Model Column Cells} (leaf : ∀ column id, schema.resolves column id fresh = false)
include leaf

/-- A row that nothing refers to takes no row away. -/
theorem falls_append : schema.Falls (rows ++ [fresh]) seed row ↔ schema.Falls rows seed row := by
  constructor
  · intro fell
    induction fell with
    | seed chosen => exact .seed chosen
    | child stored linked _ ih =>
      rcases List.mem_append.mp stored with present | added
      · exact .child present linked ih
      · obtain ⟨column, id, _, _, resolved⟩ := refers_iff.mp linked
        rw [List.mem_singleton.mp added, leaf column id] at resolved
        cases resolved
  · intro fell
    induction fell with
    | seed chosen => exact .seed chosen
    | child stored linked _ ih => exact .child (List.mem_append_left _ stored) linked ih

theorem erase_append (kept : ¬schema.Falls rows seed fresh) :
    schema.erase (rows ++ [fresh]) seed = schema.erase rows seed ++ [schema.detach rows seed fresh] := by
  have same (row : Row Model Column Cells) :
      schema.falls (rows ++ [fresh]) seed row = schema.falls rows seed row := by
    rw [Bool.eq_iff_iff, falls_iff, falls_iff]
    exact falls_append leaf
  have stays : schema.falls rows seed fresh = false := by
    rw [← Bool.not_eq_true, falls_iff]
    exact kept
  have detached : schema.detach (rows ++ [fresh]) seed = schema.detach rows seed := by
    funext row
    simp only [detach, List.any_append, List.any_cons, List.any_nil, leaf, Bool.false_and, Bool.or_false, same]
  rw [erase, detached, List.filter_append, List.map_append, erase]
  simp only [same, List.filter_singleton, stays, Bool.not_false, cond_true, List.map_cons, List.map_nil]

end Append

end Schema

section Stores

variable {Key : Type}

/-- The rows hold no unique key in common. -/
def Apart (keys : Model → String → Cells → List Key) (first second : Row Model Column Cells) : Prop :=
  ∀ key ∈ keys first.model first.id first.cells, key ∉ keys second.model second.id second.cells

instance [DecidableEq Key] (keys : Model → String → Cells → List Key) (first second : Row Model Column Cells) :
    Decidable (Apart keys first second) :=
  inferInstanceAs (Decidable (∀ key ∈ _, key ∉ _))

/-- The references of the row are to rows that exist. Only those that a deletion sets
to null may be null. -/
def Sound (schema : Schema Model Column) (rows : List (Row Model Column Cells)) (row : Row Model Column Cells) :
    Prop :=
  ∀ column ∈ schema.columns, ∀ policy ∈ schema.onDelete row.model column,
    (row.links column = none → policy = .setNull) ∧
      ∀ id ∈ row.links column, ∃ parent ∈ rows, schema.resolves column id parent = true

instance (schema : Schema Model Column) (rows : List (Row Model Column Cells)) (row : Row Model Column Cells) :
    Decidable (Sound schema rows row) :=
  inferInstanceAs (Decidable (∀ column ∈ _, ∀ policy ∈ _, (_ → _) ∧ ∀ id ∈ _, ∃ parent ∈ _, _))

/-- Rows under the unique keys and the foreign keys of a schema. -/
structure Store (schema : Schema Model Column) (keys : Model → String → Cells → List Key) where
  rows : List (Row Model Column Cells)
  unique : rows.Pairwise (Apart keys)
  sound : ∀ row ∈ rows, Sound schema rows row

namespace Store

variable {schema : Schema Model Column} {keys : Model → String → Cells → List Key}

/-- Refused where a unique key is taken or a reference leads nowhere. -/
def insert? [DecidableEq Key] (store : Store schema keys) (row : Row Model Column Cells) :
    Option (Store schema keys) :=
  if free : (∀ other ∈ store.rows, Apart keys other row) ∧ Sound schema store.rows row then
    some {
      rows := store.rows ++ [row]
      unique := List.pairwise_append.mpr ⟨store.unique, by simp, by simpa using free.1⟩
      sound := by
        intro held present column listed policy declared
        have before : (held.links column = none → policy = .setNull) ∧
            ∀ id ∈ held.links column, ∃ parent ∈ store.rows, schema.resolves column id parent = true := by
          rcases List.mem_append.mp present with old | added
          · exact store.sound held old column listed policy declared
          · rw [List.mem_singleton.mp added] at declared ⊢
            exact free.2 column listed policy declared
        refine ⟨before.1, ?_⟩
        intro id link
        obtain ⟨parent, stored, resolved⟩ := before.2 id link
        exact ⟨parent, List.mem_append_left _ stored, resolved⟩ }
  else none

/-- The foreign keys keep every reference that is left sound. -/
def delete (store : Store schema keys) (seed : Row Model Column Cells → Bool) : Store schema keys where
  rows := schema.erase store.rows seed
  unique := (store.unique.filter _).map (schema.detach store.rows seed) fun _ _ apart => apart
  sound := by
    intro later present column listed policy declared
    obtain ⟨row, stored, kept, rfl⟩ := Schema.mem_erase.mp present
    obtain ⟨required, resolves⟩ := store.sound row stored column listed policy declared
    constructor
    · intro null
      by_cases nulls : policy = .setNull
      · exact nulls
      · have kept : schema.onDelete row.model column ≠ some .setNull :=
          fun same => nulls (Option.some.inj (declared.symm.trans same))
        rw [Schema.links_detach_eq kept] at null
        exact required null
    · intro id link
      obtain ⟨held, stays⟩ := Schema.links_detach.mp link
      obtain ⟨parent, there, resolved⟩ := resolves id held
      have left : ¬schema.Falls store.rows seed parent := by
        intro fell
        cases policy with
        | cascade => exact kept (.child there (Schema.refers_iff.mpr ⟨column, id, held, declared, resolved⟩) fell)
        | setNull => exact stays ⟨declared, parent, there, resolved, fell⟩
      exact ⟨_, Schema.mem_erase.mpr ⟨parent, there, left, rfl⟩, resolved⟩

@[simp] theorem rows_delete (store : Store schema keys) (seed : Row Model Column Cells → Bool) :
    (store.delete seed).rows = schema.erase store.rows seed := rfl

theorem exists_insert? [DecidableEq Key] {store : Store schema keys} {row : Row Model Column Cells}
    (apart : ∀ other ∈ store.rows, Apart keys other row) (sound : Sound schema store.rows row) :
    ∃ next, store.insert? row = some next := by
  rw [insert?, dif_pos ⟨apart, sound⟩]
  exact ⟨_, rfl⟩

/-- A unique key names one row. -/
theorem eq_of_key (store : Store schema keys) {first second : Row Model Column Cells} {key : Key}
    (here : first ∈ store.rows) (there : second ∈ store.rows) (one : key ∈ keys first.model first.id first.cells)
    (other : key ∈ keys second.model second.id second.cells) : first = second := by
  by_contra different
  have symmetric : Std.Symm (Apart keys : Row Model Column Cells → Row Model Column Cells → Prop) := by
    refine ⟨?_⟩
    intro first second apart key held shared
    exact apart key shared held
  exact store.unique.forall here there different key one other

theorem insert?_iff [DecidableEq Key] {store next : Store schema keys} {row : Row Model Column Cells} :
    store.insert? row = some next ↔
      ((∀ other ∈ store.rows, Apart keys other row) ∧ Sound schema store.rows row) ∧
        next.rows = store.rows ++ [row] := by
  unfold insert?
  split
  · rename_i free
    constructor
    · intro same
      cases same
      exact ⟨free, rfl⟩
    · intro ⟨_, rows⟩
      cases next
      cases rows
      rfl
  · rename_i taken
    constructor
    · intro same
      cases same
    · intro ⟨free, _⟩
      exact absurd free taken

end Store

end Stores

end WinBack.Library.Relational
