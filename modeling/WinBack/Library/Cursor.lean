import Mathlib.Data.List.Nodup
import Mathlib.Tactic.Common

/-! A list that is read page by page. The last row of a page is the cursor of the next one, and one row more than
fits on a page is read, to see whether there is a next one. -/

namespace WinBack.Library.Cursor

variable {Row Key Error : Type}

structure Page (Row Key : Type) where
  rows : List Row
  nextCursor : Option Key
  deriving DecidableEq, Repr

section Follow

/-- A client that follows the cursors. It does not return when it runs out of fuel. -/
def follow (fetch : Option Key → Except Error (Page Row Key)) : Nat → Option Key → Except Error (Option (List (Page Row Key)))
  | 0, _ => .ok none
  | fuel + 1, cursor => do
    let page ← fetch cursor
    match page.nextCursor with
    | none => pure (some [page])
    | some next =>
      let pages ← follow fetch fuel (some next)
      pure (pages.map (page :: ·))

variable {fetch : Option Key → Except Error (Page Row Key)} {page : Page Row Key} {pages : List (Page Row Key)} {fuel : Nat}
  {cursor : Option Key} {next : Key}

theorem follow_last (fetched : fetch cursor = .ok page) (final : page.nextCursor = none) :
    follow fetch (fuel + 1) cursor = .ok (some [page]) := by
  rw [follow, fetched]
  change (match page.nextCursor with | none => _ | some next => _) = _
  rw [final]
  rfl

theorem follow_more (fetched : fetch cursor = .ok page) (more : page.nextCursor = some next)
    (rest : follow fetch fuel (some next) = .ok (some pages)) :
    follow fetch (fuel + 1) cursor = .ok (some (page :: pages)) := by
  rw [follow, fetched]
  change (match page.nextCursor with | none => _ | some next => _) = _
  rw [more]
  change (follow fetch fuel (some next) >>= _) = _
  rw [rest]
  rfl

end Follow

section Told

variable {rows : List Row}

/-- Every page says whether rows follow it. -/
def Told (rows : List Row) (pages : List (Page Row Key)) : Prop :=
  ∀ before current after, pages = before ++ current :: after →
    (current.nextCursor = none ↔ (before ++ [current]).flatMap Page.rows = rows)

theorem told_last {page : Page Row Key} (whole : page.rows = rows) (final : page.nextCursor = none) : Told rows [page] := by
  intro before current after parted
  cases before with
  | nil =>
    obtain ⟨rfl, _⟩ := List.cons.inj parted
    rw [List.nil_append, List.flatMap_singleton]
    exact iff_of_true final whole
  | cons other before => exact absurd (List.cons.inj parted).2.symm (List.append_ne_nil_of_right_ne_nil _ (List.cons_ne_nil _ _))

theorem told_more {page : Page Row Key} {pages : List (Page Row Key)} {rest : List Row} (split : rows = page.rows ++ rest)
    (more : page.nextCursor ≠ none) (some : rest ≠ []) (told : Told rest pages) : Told rows (page :: pages) := by
  intro before current after parted
  cases before with
  | nil =>
    obtain ⟨rfl, _⟩ := List.cons.inj parted
    rw [List.nil_append, List.flatMap_singleton, split]
    exact iff_of_false more fun whole => some (List.self_eq_append_right.mp whole)
  | cons first before =>
    obtain ⟨rfl, later⟩ := List.cons.inj parted
    rw [told before current after later, List.cons_append, List.flatMap_cons, split]
    exact (List.append_right_inj _).symm

end Told

section Pages

variable [DecidableEq Key] (key : Row → Key)

/-- The rows behind the cursor row. -/
def following (rows : List Row) : Option Key → List Row
  | none => rows
  | some cursor => (rows.dropWhile fun row => key row ≠ cursor).drop 1

/-- One page, of what is read with one row more. -/
def page (limit : Nat) (rows : List Row) (cursor : Option Key) : Page Row Key :=
  let read := (following key rows cursor).take (limit + 1)
  if limit < read.length then ⟨read.take limit, (read.take limit).getLast?.map key⟩ else ⟨read, none⟩

variable {key} {limit fuel : Nat} {rows front back : List Row} {row : Row} {cursor : Option Key}

/-- Behind a row that is named by its key. -/
theorem following_split (distinct : (rows.map key).Nodup) (split : rows = front ++ row :: back) :
    following key rows (some (key row)) = back := by
  have earlier : ∀ other ∈ front, key other ≠ key row := by
    intro other member same
    rw [split, List.map_append, List.map_cons] at distinct
    refine (List.nodup_append.mp distinct).2.2 (key other) (List.mem_map_of_mem member) (key row) List.mem_cons_self same
  rw [following, split, List.dropWhile_append_of_pos fun other member => decide_eq_true (earlier other member)]
  rw [List.dropWhile_cons_of_neg (by simp)]
  rfl

/-- A page is the next rows, and it is the last one exactly when they are all. -/
theorem page_rows : (page key limit rows cursor).rows = (following key rows cursor).take limit := by
  unfold page
  dsimp only
  split
  · rw [List.take_take, Nat.min_eq_left (Nat.le_succ limit)]
  · rename_i all
    rw [List.length_take] at all
    rw [List.take_of_length_le (by omega), List.take_of_length_le (by omega)]

theorem page_last (few : (following key rows cursor).length ≤ limit) : (page key limit rows cursor).nextCursor = none := by
  unfold page
  dsimp only
  rw [if_neg]
  rw [List.length_take]
  omega

theorem page_more (positive : 0 < limit) (many : limit < (following key rows cursor).length) :
    ∃ front row, (following key rows cursor).take limit = front ++ [row] ∧
      (page key limit rows cursor).nextCursor = some (key row) := by
  have some : (following key rows cursor).take limit ≠ [] := by
    intro none
    have := congrArg List.length none
    rw [List.length_take, List.length_nil] at this
    omega
  obtain ⟨front, row, split⟩ := (List.eq_nil_or_concat' _).resolve_left some
  refine ⟨front, row, split, ?_⟩
  unfold page
  dsimp only
  rw [if_pos (by rw [List.length_take]; omega), List.take_take, Nat.min_eq_left (Nat.le_succ limit), split,
    List.getLast?_concat]
  rfl

/-- Where rows are read in another form, so are the pages. -/
theorem page_map {Stored : Type} (read : Stored → Row) (stored : List Stored) : page key limit (stored.map read) cursor =
    ⟨(page (fun row => key (read row)) limit stored cursor).rows.map read,
      (page (fun row => key (read row)) limit stored cursor).nextCursor⟩ := by
  have behind : following key (stored.map read) cursor = (following (fun row => key (read row)) stored cursor).map read := by
    cases cursor with
    | none => rfl
    | some cursor =>
      change ((stored.map read).dropWhile _).drop 1 = ((stored.dropWhile _).drop 1).map read
      rw [List.dropWhile_map, List.map_drop]
      rfl
  unfold page
  dsimp only
  rw [behind, ← List.map_take, List.length_map]
  split
  · rw [← List.map_take, List.getLast?_map, Option.map_map]
    rfl
  · rfl

/-- From a cursor on, the pages are the rows behind it, one after the other. -/
theorem follow_from (distinct : (rows.map key).Nodup) (positive : 0 < limit) {fetch : Option Key → Except Error (Page Row Key)}
    (fetched : ∀ cursor, fetch cursor = .ok (page key limit rows cursor))
    (split : rows = front ++ following key rows cursor) (enough : (following key rows cursor).length < fuel) :
    ∃ pages, follow fetch fuel cursor = .ok (some pages) ∧ pages.flatMap Page.rows = following key rows cursor ∧
      Told (following key rows cursor) pages := by
  induction fuel generalizing cursor front with
  | zero => omega
  | succ fuel ih =>
    by_cases few : (following key rows cursor).length ≤ limit
    · have whole : (page key limit rows cursor).rows = following key rows cursor := by
        rw [page_rows, List.take_of_length_le few]
      refine ⟨[page key limit rows cursor], follow_last (fetched cursor) (page_last few), ?_, told_last whole (page_last few)⟩
      rw [List.flatMap_singleton, whole]
    · obtain ⟨early, row, last, more⟩ := page_more positive (Nat.lt_of_not_le few)
      -- the cursor is the last row of the page, so the rows behind it are those that are left
      have parted : following key rows cursor = early ++ row :: (following key rows cursor).drop limit := by
        conv_lhs => rw [← List.take_append_drop limit (following key rows cursor), last]
        rw [List.append_assoc]
        rfl
      have whole : rows = (front ++ early) ++ row :: (following key rows cursor).drop limit := by
        rw [List.append_assoc, ← parted, ← split]
      have ahead : following key rows (some (key row)) = (following key rows cursor).drop limit :=
        following_split distinct whole
      have fewer : (following key rows (some (key row))).length < fuel := by
        rw [ahead, List.length_drop]
        omega
      have left : following key rows (some (key row)) ≠ [] := by
        rw [ahead, ne_eq, List.drop_eq_nil_iff]
        exact few
      have behind : rows = (front ++ early ++ [row]) ++ following key rows (some (key row)) := by
        rw [ahead, List.append_assoc, List.append_assoc, List.singleton_append, ← parted, ← split]
      obtain ⟨pages, followed, whole, told⟩ := ih behind fewer
      have joined : following key rows cursor = (page key limit rows cursor).rows ++ following key rows (some (key row)) := by
        rw [page_rows, ahead, List.take_append_drop]
      refine ⟨page key limit rows cursor :: pages, follow_more (fetched cursor) more followed, ?_,
        told_more joined (by rw [more]; exact Option.some_ne_none _) left told⟩
      rw [List.flatMap_cons, whole, ← joined]

/-- The pages are the list, without loss or repetition, and every page says whether rows follow it. -/
theorem follow_all (distinct : (rows.map key).Nodup) (positive : 0 < limit) {fetch : Option Key → Except Error (Page Row Key)}
    (fetched : ∀ cursor, fetch cursor = .ok (page key limit rows cursor)) (enough : rows.length < fuel) :
    ∃ pages, follow fetch fuel none = .ok (some pages) ∧ pages.flatMap Page.rows = rows ∧ Told rows pages :=
  follow_from distinct positive fetched (List.nil_append rows).symm enough

end Pages

end WinBack.Library.Cursor
