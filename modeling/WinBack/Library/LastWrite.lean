import WinBack.Library.Fallible

/-! Columns that are overwritten by whatever carries them, in the order in which it comes: the last
write that carries a column decides it. -/

namespace WinBack.Library

variable {Write Value : Type} {carried : Write → Option Value} {earlier later writes : List Write} {write : Write}
  {value start : Value}

/-- What the last write that carries the column gives it. -/
def lastCarried (carried : Write → Option Value) (writes : List Write) : Option Value :=
  (writes.filterMap carried).getLast?

theorem lastCarried_singleton : lastCarried carried [write] = carried write := by
  unfold lastCarried
  cases given : carried write <;> simp [given]

theorem lastCarried_append :
    lastCarried carried (earlier ++ later) = (lastCarried carried later).or (lastCarried carried earlier) := by
  rw [lastCarried, List.filterMap_append, List.getLast?_append]
  rfl

theorem getD_lastCarried_append : (lastCarried carried (earlier ++ later)).getD start =
    (lastCarried carried later).getD ((lastCarried carried earlier).getD start) := by
  rw [lastCarried_append]
  cases lastCarried carried later <;> rfl

/-- A value that is carried is carried last by some write. -/
theorem lastCarried_ne_none (listed : write ∈ writes) (carries : carried write = some value) :
    lastCarried carried writes ≠ none := by
  rw [lastCarried, Ne, List.getLast?_eq_none_iff]
  exact List.ne_nil_of_mem (List.mem_filterMap.mpr ⟨write, listed, carries⟩)

/-- The column has the value of a write exactly when the last one that carries the column gives it the same. -/
theorem getD_lastCarried_iff (listed : write ∈ writes) (carries : carried write = some value) :
    (lastCarried carried writes).getD start = value ↔ lastCarried carried writes = some value := by
  obtain ⟨last, found⟩ := Option.ne_none_iff_exists'.mp (lastCarried_ne_none listed carries)
  rw [found, Option.getD_some, Option.some.injEq]

theorem append_ne_nil_iff : earlier ++ later ≠ [] ↔ earlier ≠ [] ∨ later ≠ [] := by
  rw [Ne, List.append_eq_nil_iff, not_and_or]

/-- A place in a list is its head, or a place in its tail. -/
theorem exists_place_cons {Item : Type} {first : Item} {rest : List Item} {Holds : List Item → Item → Prop} :
    (∃ earlier here later, first :: rest = earlier ++ here :: later ∧ Holds earlier here) ↔
      Holds [] first ∨ ∃ earlier here later, rest = earlier ++ here :: later ∧ Holds (first :: earlier) here := by
  constructor
  · rintro ⟨_ | ⟨head, earlier⟩, here, later, split, holds⟩
    · obtain ⟨rfl, _⟩ := List.cons.inj split
      exact .inl holds
    · obtain ⟨rfl, rfl⟩ := List.cons.inj split
      exact .inr ⟨earlier, here, later, rfl, holds⟩
  · rintro (holds | ⟨earlier, here, later, rfl, holds⟩)
    · exact ⟨[], first, rest, rfl, holds⟩
    · exact ⟨first :: earlier, here, later, rfl, holds⟩

section Runs

variable {State Event Error : Type} {process : State → Event → Except Error State} {events : List Event} {first last : State}

/-- Every event of a run has been processed. -/
theorem processed_of_run (ran : events.foldlM process first = .ok last) :
    ∀ event ∈ events, ∃ state next, process state event = .ok next := by
  induction events generalizing first with
  | nil => exact fun _ none => absurd none List.not_mem_nil
  | cons event rest ih =>
    obtain ⟨middle, here, onward⟩ := bind_eq_ok_iff.mp ran
    exact List.forall_mem_cons.mpr ⟨⟨first, middle, here⟩, ih onward⟩

/-- Where every event leaves in a column what its writes carry, the run leaves what all of them carry. -/
theorem column_run (column : State → Value) {writes : Event → List Write}
    (step : ∀ state event next, process state event = .ok next →
      column next = (lastCarried carried (writes event)).getD (column state))
    (ran : events.foldlM process first = .ok last) :
    column last = (lastCarried carried (events.flatMap writes)).getD (column first) := by
  induction events generalizing first with
  | nil =>
    cases ran
    rfl
  | cons event rest ih =>
    obtain ⟨middle, here, onward⟩ := bind_eq_ok_iff.mp ran
    rw [ih onward, step _ _ _ here, List.flatMap_cons, getD_lastCarried_append]

/-- Where every event adds what it writes, something is there after a run that writes. -/
theorem present_run {Present : State → Prop} {writes : Event → List Write}
    (step : ∀ state event next, process state event = .ok next → (Present next ↔ Present state ∨ writes event ≠ []))
    (ran : events.foldlM process first = .ok last) : Present last ↔ Present first ∨ events.flatMap writes ≠ [] := by
  induction events generalizing first with
  | nil =>
    cases ran
    simp
  | cons event rest ih =>
    obtain ⟨middle, here, onward⟩ := bind_eq_ok_iff.mp ran
    rw [ih onward, step _ _ _ here, List.flatMap_cons, append_ne_nil_iff, or_assoc]

/-- A record that the first write creates, and that a deletion closes for good: later writes do not reopen it. -/
structure Tombstones (process : State → Event → Except Error State) (writes : Event → List Write) (deletes : Event → Bool)
    (Present Gone : State → Prop) : Prop where
  present : ∀ state event next, process state event = .ok next → (Present next ↔ Present state ∨ writes event ≠ [])
  absent : ∀ state, ¬Present state → Gone state
  keeps : ∀ state event next, process state event = .ok next → deletes event = false → Present state → (Gone next ↔ Gone state)
  creates : ∀ state event next, process state event = .ok next → ¬Present state → writes event ≠ [] → ¬Gone next
  closes : ∀ state event next, process state event = .ok next → deletes event = true → Gone next

namespace Tombstones

variable {writes : Event → List Write} {deletes : Event → Bool} {Present Gone : State → Prop}

/-- A record that is there is gone in the end when it was before, or a deletion comes. -/
theorem gone_of_present (laws : Tombstones process writes deletes Present Gone) (ran : events.foldlM process first = .ok last)
    (present : Present first) : Gone last ↔ Gone first ∨ ∃ event ∈ events, deletes event = true := by
  induction events generalizing first with
  | nil =>
    cases ran
    simp
  | cons event rest ih =>
    obtain ⟨middle, here, onward⟩ := bind_eq_ok_iff.mp ran
    rw [ih onward ((laws.present _ _ _ here).mpr (.inl present)), List.exists_mem_cons_iff]
    by_cases deleted : deletes event = true
    · simp only [deleted, laws.closes _ _ _ here deleted, true_or, or_true]
    · have kept := laws.keeps _ _ _ here (Bool.not_eq_true _ ▸ deleted) present
      simp only [kept, deleted, Bool.false_eq_true, false_or]

/-- One that is not there is gone in the end when nothing is written, or a deletion comes after a write. -/
theorem gone_of_absent (laws : Tombstones process writes deletes Present Gone) (ran : events.foldlM process first = .ok last)
    (absent : ¬Present first) : Gone last ↔ events.flatMap writes = [] ∨
      ∃ earlier event later, events = earlier ++ event :: later ∧ deletes event = true ∧ earlier.flatMap writes ≠ [] := by
  induction events generalizing first with
  | nil =>
    cases ran
    exact iff_of_true (laws.absent _ absent) (.inl rfl)
  | cons event rest ih =>
    obtain ⟨middle, here, onward⟩ := bind_eq_ok_iff.mp ran
    have places := @exists_place_cons _ event rest fun earlier here => deletes here = true ∧ earlier.flatMap writes ≠ []
    rw [or_iff_right fun head => head.2 rfl] at places
    rw [places]
    simp only [List.flatMap_cons]
    by_cases silent : writes event = []
    · rw [silent]
      have still : ¬Present middle := fun present => ((laws.present _ _ _ here).mp present).elim absent fun written => written silent
      exact ih onward still
    · rw [laws.gone_of_present onward ((laws.present _ _ _ here).mpr (.inr silent))]
      have live := laws.creates _ _ _ here absent silent
      have wrote {more : List Write} : writes event ++ more ≠ [] := fun nothing => silent (List.append_eq_nil_iff.mp nothing).1
      constructor
      · rintro (gone | ⟨deletion, listed, deleted⟩)
        · exact absurd gone live
        · obtain ⟨earlier, later, split⟩ := List.append_of_mem listed
          exact .inr ⟨earlier, deletion, later, split, deleted, wrote⟩
      · rintro (nothing | ⟨earlier, deletion, later, split, deleted, _⟩)
        · exact absurd nothing wrote
        · exact .inr ⟨deletion, split ▸ List.mem_append_right _ List.mem_cons_self, deleted⟩

end Tombstones

end Runs

end WinBack.Library
