import Mathlib.Data.List.Sort
import Mathlib.Tactic.Common

/-! Sweeps over a selection that is read page by page, in key order, while the sweep
itself changes what is selected. A page starts at the cursor row, the last row of
the page before, and the first selected row from there on is dropped. -/

namespace WinBack.Library.Paging

section Pages

variable {Row Key : Type} [LinearOrder Key] (key : Row → Key)

/-- One page of a selection that is sorted by key. -/
def page (size : Nat) (cursor : Option Key) (selected : List Row) : List Row :=
  match cursor with
  | none => selected.take size
  | some cursor => ((selected.filter fun row => decide (cursor ≤ key row)).drop 1).take size

theorem page_sublist {key : Row → Key} {size : Nat} {cursor : Option Key} {selected : List Row} :
    (page key size cursor selected).Sublist selected := by
  unfold page
  split
  · exact List.take_sublist _ _
  · exact (List.take_sublist _ _).trans ((List.drop_sublist _ _).trans List.filter_sublist)

def beyond (cursor : Key) (selected : List Row) : List Row := selected.filter fun row => decide (cursor < key row)

variable {key} {size : Nat} {cursor : Key} {selected : List Row}

/-- The rows from the cursor row on, without the cursor row. -/
theorem drop_cursor (sorted : selected.Pairwise fun first second => key first < key second)
    (present : cursor ∈ selected.map key) :
    (selected.filter fun row => decide (cursor ≤ key row)).drop 1 = beyond key cursor selected := by
  unfold beyond
  induction selected with
  | nil => rfl
  | cons head tail ih =>
    obtain ⟨least, rest⟩ := List.pairwise_cons.mp sorted
    rcases lt_trichotomy cursor (key head) with before | here | after
    · obtain ⟨row, member, rfl⟩ := List.mem_map.mp present
      rcases List.mem_cons.mp member with rfl | later
      · exact absurd before (lt_irrefl _)
      · exact absurd (before.trans (least row later)) (lt_irrefl _)
    · subst here
      have whole : (tail.filter fun row => decide (key head ≤ key row)) = tail :=
        List.filter_eq_self.mpr fun row member => decide_eq_true (least row member).le
      have strict : (tail.filter fun row => decide (key head < key row)) = tail :=
        List.filter_eq_self.mpr fun row member => decide_eq_true (least row member)
      simp [whole, strict]
    · have later : cursor ∈ tail.map key := by
        rcases List.mem_cons.mp present with rfl | later
        · exact absurd after (lt_irrefl _)
        · exact later
      simpa [not_le.mpr after, not_lt.mpr after.le] using ih rest later

/-- While the cursor row is selected, it is the row that is dropped. -/
theorem page_of_mem (sorted : selected.Pairwise fun first second => key first < key second)
    (present : cursor ∈ selected.map key) :
    page key size (some cursor) selected = (beyond key cursor selected).take size :=
  congrArg (List.take size) (drop_cursor sorted present)

/-- Once it is not, the row after it is dropped instead. -/
theorem page_of_not_mem (absent : cursor ∉ selected.map key) :
    page key size (some cursor) selected = ((beyond key cursor selected).drop 1).take size := by
  unfold page beyond
  dsimp only
  congr 2
  apply List.filter_congr
  intro row member
  have apart : cursor ≠ key row := fun same => absent (same ▸ List.mem_map_of_mem member)
  simp [le_iff_lt_or_eq, apart]

/-- Either way, a page is read beyond its cursor. -/
theorem cursor_lt_of_mem_page (sorted : selected.Pairwise fun first second => key first < key second) {row : Row}
    (member : row ∈ page key size (some cursor) selected) : cursor < key row := by
  have within : row ∈ beyond key cursor selected := by
    by_cases present : cursor ∈ selected.map key
    · rw [page_of_mem sorted present] at member
      exact List.mem_of_mem_take member
    · rw [page_of_not_mem present] at member
      exact List.mem_of_mem_drop (List.mem_of_mem_take member)
  exact of_decide_eq_true (List.mem_filter.mp within).2

theorem beyond_of_split {front back : List Row} {last : Row}
    (sorted : (front ++ last :: back).Pairwise fun first second => key first < key second) :
    beyond key (key last) (front ++ last :: back) = back := by
  obtain ⟨_, following, apart⟩ := List.pairwise_append.mp sorted
  obtain ⟨after, _⟩ := List.pairwise_cons.mp following
  have before : front.filter (fun row => decide (key last < key row)) = [] :=
    List.filter_eq_nil_iff.mpr fun row member => by
      simpa using (apart row member last List.mem_cons_self).le
  have behind : back.filter (fun row => decide (key last < key row)) = back :=
    List.filter_eq_self.mpr fun row member => decide_eq_true (after row member)
  simp [beyond, before, behind]

theorem beyond_suffix (sorted : selected.Pairwise fun first second => key first < key second) :
    beyond key cursor selected <:+ selected := by
  induction selected with
  | nil => exact List.suffix_rfl
  | cons head tail ih =>
    obtain ⟨least, rest⟩ := List.pairwise_cons.mp sorted
    by_cases after : cursor < key head
    · have whole : beyond key cursor (head :: tail) = head :: tail :=
        List.filter_eq_self.mpr fun row member => by
          rcases List.mem_cons.mp member with rfl | later
          · exact decide_eq_true after
          · exact decide_eq_true (after.trans (least row later))
      exact whole.symm ▸ List.suffix_rfl
    · have skipped : beyond key cursor (head :: tail) = beyond key cursor tail := by simp [beyond, after]
      rw [skipped]
      exact (ih rest).trans (List.suffix_cons head tail)

/-- What lies beyond a row only depends on the rows beyond it. -/
theorem beyond_congr {other : List Row} {changed : Key → Prop} [DecidablePred changed]
    (same : other.filter (fun row => decide ¬changed (key row)) = selected.filter fun row => decide ¬changed (key row))
    (early : ∀ later, changed later → later ≤ cursor) : beyond key cursor other = beyond key cursor selected := by
  have narrow (rows : List Row) :
      beyond key cursor rows = beyond key cursor (rows.filter fun row => decide ¬changed (key row)) := by
    unfold beyond
    rw [List.filter_filter]
    apply List.filter_congr
    intro row _
    have unchanged : cursor < key row → ¬changed (key row) := fun after held => absurd (early _ held) (not_le.mpr after)
    grind
  rw [narrow other, narrow selected, same]

end Pages

section Visited

variable {Row : Type}

/-- The rows that a sweep visits when a batch goes through exactly if all its rows
pass, and `stays` says which rows are still selected after their batch. -/
def visited (size : Nat) (passes stays : Row → Bool) (rows : List Row) : List Row :=
  if (rows.take size).all passes then
    if 0 < size ∧ size ≤ rows.length then
      rows.take size ++
        visited size passes stays (rows.drop (if rows[size - 1]?.all stays then size else size + 1))
    else rows.take size
  else []
termination_by rows.length
decreasing_by
  rw [List.length_drop]
  split <;> omega

/-- The rows that a sweep reads when no batch throws. -/
def fetched (size : Nat) (stays : Row → Bool) (rows : List Row) : List Row := visited size (fun _ => true) stays rows

variable {size : Nat} {passes stays : Row → Bool} {rows : List Row}

theorem visited_full (passed : (rows.take size).all passes = true) (full : 0 < size ∧ size ≤ rows.length) :
    visited size passes stays rows = rows.take size ++
      visited size passes stays (rows.drop (if rows[size - 1]?.all stays then size else size + 1)) := by
  rw [visited, if_pos passed, if_pos full]

theorem visited_short (passed : (rows.take size).all passes = true) (short : ¬(0 < size ∧ size ≤ rows.length)) :
    visited size passes stays rows = rows.take size := by
  rw [visited, if_pos passed, if_neg short]

theorem visited_failed (failed : ¬(rows.take size).all passes = true) : visited size passes stays rows = [] := by
  rw [visited, if_neg failed]

theorem visited_sublist : (visited size passes stays rows).Sublist rows := by
  induction rows using visited.induct size passes stays with
  | case1 rows passed full ih =>
    rw [visited_full passed full]
    conv_rhs => rw [← List.take_append_drop size rows]
    refine List.Sublist.append_left (ih.trans ?_) _
    split
    · exact List.Sublist.refl _
    · rw [← List.drop_drop]
      exact List.drop_sublist _ _
  | case2 rows passed short =>
    rw [visited_short passed short]
    exact List.take_sublist size rows
  | case3 rows failed =>
    rw [visited_failed failed]
    exact List.nil_sublist rows

theorem passes_of_visited {row : Row} (member : row ∈ visited size passes stays rows) : passes row = true := by
  induction rows using visited.induct size passes stays with
  | case1 rows passed full ih =>
    rw [visited_full passed full] at member
    rcases List.mem_append.mp member with front | back
    · exact List.all_eq_true.mp passed row front
    · exact ih back
  | case2 rows passed short =>
    rw [visited_short passed short] at member
    exact List.all_eq_true.mp passed row member
  | case3 rows failed =>
    rw [visited_failed failed] at member
    cases member

theorem fetched_full (full : 0 < size ∧ size ≤ rows.length) :
    fetched size stays rows = rows.take size ++
      fetched size stays (rows.drop (if rows[size - 1]?.all stays then size else size + 1)) :=
  visited_full (List.all_eq_true.mpr fun _ _ => rfl) full

theorem fetched_short (short : ¬(0 < size ∧ size ≤ rows.length)) : fetched size stays rows = rows.take size :=
  visited_short (List.all_eq_true.mpr fun _ _ => rfl) short

/-- The first page is read before anything can throw. -/
theorem mem_fetched_of_take {row : Row} (member : row ∈ rows.take size) : row ∈ fetched size stays rows := by
  by_cases full : 0 < size ∧ size ≤ rows.length
  · rw [fetched_full full]
    exact List.mem_append_left _ member
  · rwa [fetched_short full]

/-- Only what a sweep asks of its own rows matters. -/
theorem visited_congr {passes' stays' : Row → Bool} (same : ∀ row ∈ rows, passes row = passes' row)
    (kept : ∀ row ∈ rows, stays row = stays' row) :
    visited size passes stays rows = visited size passes' stays' rows := by
  induction rows using visited.induct size passes stays with
  | case1 rows passed full ih =>
    have passed' : (rows.take size).all passes' = true := by
      rw [List.all_eq_true] at passed ⊢
      exact fun row member => (same row (List.mem_of_mem_take member)).symm.trans (passed row member)
    have ends : rows[size - 1]?.all stays = rows[size - 1]?.all stays' := by
      cases found : rows[size - 1]? with
      | none => rfl
      | some row => exact kept row (List.mem_of_getElem? found)
    simp only [dite_eq_ite] at ih
    rw [visited_full passed full, visited_full passed' full, ← ends, ih (fun row member => same row (List.mem_of_mem_drop member))
      (fun row member => kept row (List.mem_of_mem_drop member))]
  | case2 rows passed short =>
    have passed' : (rows.take size).all passes' = true := by
      rw [List.all_eq_true] at passed ⊢
      exact fun row member => (same row (List.mem_of_mem_take member)).symm.trans (passed row member)
    rw [visited_short passed short, visited_short passed' short]
  | case3 rows failed =>
    have failed' : ¬(rows.take size).all passes' = true := by
      intro passed
      apply failed
      rw [List.all_eq_true] at passed ⊢
      exact fun row member => (same row (List.mem_of_mem_take member)).trans (passed row member)
    rw [visited_failed failed, visited_failed failed']

/-- The ends of the later pages are the ends of the pages of the rest. -/
theorem pages_drop (positive : 0 < size) (first : rows[size - 1]?.all stays = true) :
    (∀ turn, 0 < turn → turn * size < (rows.drop size).length →
      (rows.drop size)[turn * size - 1]?.all stays = true) ↔
      ∀ turn, 0 < turn → turn * size < rows.length → rows[turn * size - 1]?.all stays = true := by
  have shift (turn : Nat) (later : 0 < turn) : size + (turn * size - 1) = (turn + 1) * size - 1 := by
    have : size ≤ turn * size := Nat.le_mul_of_pos_left size later
    rw [Nat.add_mul]
    omega
  simp only [List.getElem?_drop, List.length_drop]
  constructor
  · intro rest turn later inside
    match turn, later with
    | 1, _ => simpa using first
    | turn + 2, _ =>
      rw [← shift (turn + 1) (by omega)]
      refine rest (turn + 1) (by omega) ?_
      rw [show turn + 2 = (turn + 1) + 1 from rfl, Nat.add_mul (turn + 1)] at inside
      omega
  · intro all turn later inside
    rw [shift turn later]
    exact all (turn + 1) (by omega) (by rw [Nat.add_mul]; omega)

/-- A sweep visits every row exactly when every row passes and the row that ends a
page stays selected as long as rows follow it. -/
theorem visited_eq_iff (positive : 0 < size) :
    visited size passes stays rows = rows ↔
      (∀ row ∈ rows, passes row = true) ∧
        ∀ turn, 0 < turn → turn * size < rows.length → rows[turn * size - 1]?.all stays = true := by
  induction rows using visited.induct size passes stays with
  | case1 rows passed full ih =>
    have front := List.take_append_drop size rows
    rw [visited_full passed full]
    by_cases stayed : rows[size - 1]?.all stays = true
    · rw [dif_pos stayed] at ih
      have peeled : rows.take size ++ visited size passes stays (rows.drop size) = rows ↔
          visited size passes stays (rows.drop size) = rows.drop size := by
        conv_lhs => rhs; rw [← front]
        exact List.append_right_inj _
      have members : (∀ row ∈ rows.drop size, passes row = true) ↔ ∀ row ∈ rows, passes row = true := by
        conv_rhs => rw [← front]
        rw [List.all_eq_true] at passed
        simp only [List.forall_mem_append]
        exact ⟨fun rest => ⟨passed, rest⟩, And.right⟩
      rw [if_pos stayed, peeled, ih, members, pages_drop full.1 stayed]
    · rw [if_neg stayed]
      by_cases last : rows.length = size
      · have whole : rows.take size = rows := List.take_of_length_le last.le
        have nothing : visited size passes stays (rows.drop (size + 1)) = [] := by
          rw [List.drop_of_length_le (by omega)]
          exact List.sublist_nil.mp visited_sublist
        rw [nothing, List.append_nil, whole]
        rw [whole, List.all_eq_true] at passed
        refine iff_of_true rfl ⟨passed, fun turn later inside => ?_⟩
        have : size ≤ turn * size := Nat.le_mul_of_pos_left size later
        omega
      · refine iff_of_false (fun equal => ?_) (fun claim => stayed ?_)
        · have short : (visited size passes stays (rows.drop (size + 1))).length ≤ (rows.drop (size + 1)).length :=
            visited_sublist.length_le
          have lengths := congrArg List.length equal
          rw [List.length_append, List.length_take] at lengths
          rw [List.length_drop] at short
          omega
        · simpa using claim.2 1 Nat.one_pos (by omega)
  | case2 rows passed short =>
    have fits : rows.length ≤ size := by omega
    rw [visited_short passed short, List.take_of_length_le fits]
    rw [List.take_of_length_le fits, List.all_eq_true] at passed
    refine iff_of_true rfl ⟨passed, fun turn later inside => ?_⟩
    have : size ≤ turn * size := Nat.le_mul_of_pos_left size later
    omega
  | case3 rows failed =>
    rw [visited_failed failed]
    refine iff_of_false (fun empty => failed ?_) (fun claim => failed ?_)
    · simp [← empty]
    · rw [List.all_eq_true]
      exact fun row member => claim.1 row (List.mem_of_mem_take member)

end Visited

section Sweeps

variable {State Row Key Error : Type}

inductive Ending (Error : Type) where
  | done
  | threw (error : Error)
  | outOfFuel
  deriving DecidableEq, Repr

/-- What a sweep leaves: the state after the committed batches, and their rows. -/
structure Swept (State Row Error : Type) where
  state : State
  visited : List Row
  batches : Nat
  ending : Ending Error

/-- Fetch a page, run it as one transaction, go on from its last row. A page that is
not full is the last one. -/
def sweep (key : Row → Key) (size : Nat) (fetch : Option Key → State → List Row)
    (batch : List Row → State → Except Error State) : Nat → Option Key → State → Swept State Row Error
  | 0, _, state => ⟨state, [], 0, .outOfFuel⟩
  | fuel + 1, cursor, state =>
    let rows := fetch cursor state
    match batch rows state with
    | .error error => ⟨state, [], 0, .threw error⟩
    | .ok next =>
      match rows.getLast? with
      | none => ⟨next, [], 1, .done⟩
      | some last =>
        if rows.length < size then ⟨next, rows, 1, .done⟩
        else
          let rest := sweep key size fetch batch fuel (some (key last)) next
          { rest with visited := rows ++ rest.visited, batches := rest.batches + 1 }

variable {key : Row → Key} {size fuel : Nat} {fetch : Option Key → State → List Row}
  {batch : List Row → State → Except Error State} {cursor : Option Key} {state : State}

/-- What every committed batch keeps holds of all visited rows in the end. -/
theorem sweep_invariant {Holds : List Row → State → Prop} {seen : List Row} (start : Holds seen state)
    (keeps : ∀ seen cursor state next, Holds seen state → batch (fetch cursor state) state = .ok next →
      Holds (seen ++ fetch cursor state) next) :
    Holds (seen ++ (sweep key size fetch batch fuel cursor state).visited)
      (sweep key size fetch batch fuel cursor state).state := by
  induction fuel generalizing seen cursor state with
  | zero => simpa [sweep] using start
  | succ fuel ih =>
    simp only [sweep]
    split
    · simpa using start
    · rename_i next committed
      have held := keeps seen cursor state next start committed
      split
      · rename_i empty
        rwa [List.getLast?_eq_none_iff.mp empty] at held
      · split
        · exact held
        · rw [← List.append_assoc]
          exact ih held

variable [LinearOrder Key] {selected : State → List Row} {passes stays : Row → Bool} {Valid : State → Prop}

/-- A batch changes what is selected only at its own rows, and each row settles alone
whether its batch goes through and whether it stays. -/
structure Steady (key : Row → Key) (selected : State → List Row) (batch : List Row → State → Except Error State)
    (passes stays : Row → Bool) (Valid : State → Prop) : Prop where
  sorted : ∀ state, Valid state → (selected state).Pairwise fun first second => key first < key second
  runs : ∀ state rows, Valid state → rows.Sublist (selected state) →
    ((∃ next, batch rows state = .ok next) ↔ ∀ row ∈ rows, passes row = true)
  keeps : ∀ state rows next, Valid state → rows.Sublist (selected state) → batch rows state = .ok next → Valid next
  others : ∀ state rows next, Valid state → rows.Sublist (selected state) → batch rows state = .ok next →
    (selected next).filter (fun row => decide ¬key row ∈ rows.map key) =
      (selected state).filter fun row => decide ¬key row ∈ rows.map key
  stay : ∀ state rows next, Valid state → rows.Sublist (selected state) → batch rows state = .ok next →
    ∀ row ∈ rows, (key row ∈ (selected next).map key ↔ stays row = true)

/-- After a full page the rows beyond its last row are the remaining ones. -/
theorem beyond_page (steady : Steady key selected batch passes stays Valid) {remaining rows : List Row} {last : Row}
    {after : State} (valid : Valid state) (suffix : remaining <:+ selected state)
    (split : remaining = rows ++ remaining.drop rows.length) (ends : rows.getLast? = some last)
    (committed : batch rows state = .ok after) :
    beyond key (key last) (selected after) = remaining.drop rows.length := by
  obtain ⟨earlier, whole⟩ := suffix
  obtain ⟨front, rfl⟩ := List.getLast?_eq_some_iff.mp ends
  have sorted := steady.sorted state valid
  have listed : (front ++ [last]).Sublist (selected state) := by
    rw [← whole, split]
    exact (List.sublist_append_left _ _).trans (List.sublist_append_right _ _)
  have pageSorted := sorted.sublist listed
  rw [beyond_congr (steady.others state _ after valid listed committed)]
  · rw [← whole, split]
    have shape : earlier ++ (front ++ [last] ++ remaining.drop (front ++ [last]).length) =
        (earlier ++ front) ++ last :: remaining.drop (front ++ [last]).length := by simp
    rw [← whole, split, shape] at sorted
    rw [shape, beyond_of_split sorted]
    simp
  · intro later member
    obtain ⟨row, inPage, rfl⟩ := List.mem_map.mp member
    rcases List.mem_append.mp inPage with early | final
    · exact ((List.pairwise_append.mp pageSorted).2.2 row early last (by simp)).le
    · rw [List.mem_singleton.mp final]

/-- The sweep from a point on: the page that it reads next starts the remaining rows. -/
theorem sweep_remaining (steady : Steady key selected batch passes stays Valid) {remaining : List Row}
    (valid : Valid state) (suffix : remaining <:+ selected state)
    (next : page key size cursor (selected state) = remaining.take size) (enough : remaining.length < fuel) :
    let result := sweep key size (fun cursor state => page key size cursor (selected state)) batch fuel cursor state
    result.visited = visited size passes stays remaining ∧ result.ending ≠ .outOfFuel ∧
      (result.ending = .done ↔ ∀ row ∈ fetched size stays remaining, passes row = true) := by
  induction fuel generalizing cursor state remaining with
  | zero => omega
  | succ fuel ih =>
    have listed : (remaining.take size).Sublist (selected state) :=
      (List.take_sublist size remaining).trans suffix.sublist
    have runs := steady.runs state (remaining.take size) valid listed
    rw [visited]
    simp only [sweep, next]
    by_cases passed : (remaining.take size).all passes = true
    · obtain ⟨after, committed⟩ := runs.mpr (List.all_eq_true.mp passed)
      rw [if_pos passed, committed]
      cases ends : (remaining.take size).getLast? with
      | none =>
        have empty := List.getLast?_eq_none_iff.mp ends
        have short : ¬(0 < size ∧ size ≤ remaining.length) := by
          intro full
          have := congrArg List.length empty
          rw [List.length_take, List.length_nil] at this
          omega
        rw [if_neg short, fetched_short short, empty]
        exact ⟨rfl, nofun, iff_of_true rfl fun _ => nofun⟩
      | some last =>
        have filled : 0 < (remaining.take size).length :=
          List.length_pos_iff.mpr fun empty => by simp [empty] at ends
        have length : (remaining.take size).length = min size remaining.length := List.length_take
        by_cases short : (remaining.take size).length < size
        · dsimp only
          rw [if_pos short, if_neg (by omega), fetched_short (by omega)]
          exact ⟨rfl, nofun, iff_of_true rfl (List.all_eq_true.mp passed)⟩
        · have full : 0 < size ∧ size ≤ remaining.length := by omega
          have count : (remaining.take size).length = size := by omega
          have split : remaining = remaining.take size ++ remaining.drop (remaining.take size).length := by
            rw [count, List.take_append_drop]
          have ahead := beyond_page steady valid suffix split ends committed
          rw [count] at ahead
          have valid' := steady.keeps state _ after valid listed committed
          have suffix' : remaining.drop size <:+ selected after :=
            ahead ▸ beyond_suffix (steady.sorted after valid')
          have kept := steady.stay state _ after valid listed committed last (List.mem_of_getLast? ends)
          have final : remaining[size - 1]? = some last := by
            rw [← ends, List.getLast?_eq_getElem?, count, List.getElem?_take_of_lt (by omega)]
          dsimp only
          rw [if_neg short, if_pos full, fetched_full full, final]
          have front {rest : List Row} : (∀ row ∈ remaining.take size ++ rest, passes row = true) ↔
              ∀ row ∈ rest, passes row = true := by
            rw [List.forall_mem_append]
            exact and_iff_right (List.all_eq_true.mp passed)
          by_cases stayed : stays last = true
          · have page' : page key size (some (key last)) (selected after) = (remaining.drop size).take size := by
              rw [page_of_mem (steady.sorted after valid') (kept.mpr stayed), ahead]
            obtain ⟨same, ended, done⟩ := ih valid' suffix' page' (by rw [List.length_drop]; omega)
            rw [Option.all_some, if_pos stayed]
            exact ⟨congrArg _ same, ended, done.trans front.symm⟩
          · have page' : page key size (some (key last)) (selected after) =
                (remaining.drop (size + 1)).take size := by
              rw [page_of_not_mem (mt kept.mp stayed), ahead, List.drop_drop]
            have suffix'' : remaining.drop (size + 1) <:+ selected after := by
              rw [← List.drop_drop]
              exact (List.drop_suffix 1 _).trans suffix'
            obtain ⟨same, ended, done⟩ := ih valid' suffix'' page' (by rw [List.length_drop]; omega)
            rw [Option.all_some, if_neg stayed]
            exact ⟨congrArg _ same, ended, done.trans front.symm⟩
    · rw [if_neg passed]
      split
      · exact ⟨rfl, nofun, iff_of_false nofun fun all => passed (List.all_eq_true.mpr fun row member =>
          all row (mem_fetched_of_take member))⟩
      · rename_i after committed
        exact absurd (List.all_eq_true.mpr (runs.mp ⟨after, committed⟩)) passed

/-- A whole sweep visits what the pages of the initial selection determine. -/
theorem sweep_visited (steady : Steady key selected batch passes stays Valid) (valid : Valid state)
    (enough : (selected state).length < fuel) :
    let result := sweep key size (fun cursor state => page key size cursor (selected state)) batch fuel none state
    result.visited = visited size passes stays (selected state) ∧ result.ending ≠ .outOfFuel ∧
      (result.ending = .done ↔ ∀ row ∈ fetched size stays (selected state), passes row = true) :=
  sweep_remaining steady valid List.suffix_rfl rfl enough

end Sweeps

section Related

variable {State Row Key Error : Type} {key : Row → Key} {size fuel limit : Nat} {fetch : Option Key → State → List Row}
  {batch : List Row → State → Except Error State} {cursor : Option Key} {state other : State}

/-- A sweep that has come to an end does not need more fuel. -/
theorem sweep_more (ended : (sweep key size fetch batch fuel cursor state).ending ≠ .outOfFuel) (more : fuel ≤ limit) :
    sweep key size fetch batch limit cursor state = sweep key size fetch batch fuel cursor state := by
  induction fuel generalizing limit cursor state with
  | zero => exact absurd rfl ended
  | succ fuel ih =>
    obtain ⟨limit, rfl⟩ := Nat.exists_eq_add_one_of_ne_zero (Nat.ne_of_gt (Nat.lt_of_lt_of_le fuel.succ_pos more))
    have more := Nat.le_of_succ_le_succ more
    simp only [sweep] at ended ⊢
    split
    · rfl
    · rename_i next committed
      split
      · rfl
      · rename_i last found
        split
        · rfl
        · rename_i full
          rw [committed] at ended
          simp only [found, if_neg full] at ended
          rw [ih ended more]

/-- Two sweeps over related states go side by side, when related states have the same pages, and a page goes through in
both or in neither. -/
theorem sweep_related {Related : State → State → Prop} (start : Related state other)
    (reads : ∀ cursor first second, Related first second → fetch cursor first = fetch cursor second)
    (steps : ∀ cursor first second, Related first second →
      (∃ here there, batch (fetch cursor first) first = .error here ∧ batch (fetch cursor first) second = .error there) ∨
        ∃ here there, batch (fetch cursor first) first = .ok here ∧ batch (fetch cursor first) second = .ok there ∧
          Related here there) :
    let one := sweep key size fetch batch fuel cursor state
    let two := sweep key size fetch batch fuel cursor other
    Related one.state two.state ∧ one.visited = two.visited ∧ one.batches = two.batches ∧
      (one.ending = .done ↔ two.ending = .done) := by
  induction fuel generalizing cursor state other with
  | zero => exact ⟨start, rfl, rfl, Iff.rfl⟩
  | succ fuel ih =>
    have same := reads cursor state other start
    rcases steps cursor state other start with ⟨here, there, failed, refused⟩ | ⟨here, there, first, second, kept⟩
    · simp only [sweep, ← same, failed, refused]
      exact ⟨start, trivial, trivial, by simp⟩
    · simp only [sweep, ← same, first, second]
      split
      · exact ⟨kept, rfl, rfl, Iff.rfl⟩
      · split
        · exact ⟨kept, rfl, rfl, Iff.rfl⟩
        · rename_i last _ _
          obtain ⟨left, visited, batches, ending⟩ := @ih (some (key last)) here there kept
          exact ⟨left, by rw [visited], by rw [batches], ending⟩

end Related

end WinBack.Library.Paging
