import Mathlib.Data.List.Induction
import Mathlib.Logic.Function.Basic
import Mathlib.Tactic.Common

/-! Keyed upserts: a write creates the row of its key, or changes the one that is there. Writes that
overwrite each other can be replayed. -/

namespace WinBack.Library

structure Upsert (Key Row : Type) where
  key : Key
  create : Row
  update : Row → Row

namespace Upsert

variable {Key Row : Type} [DecidableEq Key]

def put (view : Key → Option Row) (write : Upsert Key Row) : Key → Option Row :=
  Function.update view write.key (some ((view write.key).elim write.create write.update))

def putAll (writes : List (Upsert Key Row)) (view : Key → Option Row) : Key → Option Row := writes.foldl put view

/-- The writes all set the same columns: a later one hides an earlier one, and a creation holds
what the update sets. -/
structure Overwriting (writes : List (Upsert Key Row)) : Prop where
  update_update : ∀ first ∈ writes, ∀ second ∈ writes, ∀ row, second.update (first.update row) = second.update row
  update_create : ∀ write ∈ writes, write.update write.create = write.create

variable {writes : List (Upsert Key Row)} {view : Key → Option Row} {key : Key} {write : Upsert Key Row}

theorem putAll_append (earlier later : List (Upsert Key Row)) :
    putAll (earlier ++ later) view = putAll later (putAll earlier view) := List.foldl_append

theorem put_self (write : Upsert Key Row) :
    put view write write.key = some ((view write.key).elim write.create write.update) := Function.update_self ..

theorem put_other (apart : key ≠ write.key) : put view write key = view key := Function.update_of_ne apart _ _

/-- The last write of a key. -/
def lastOf (writes : List (Upsert Key Row)) (key : Key) : Option (Upsert Key Row) :=
  writes.reverse.find? fun write => write.key = key

theorem lastOf_snoc : lastOf (writes ++ [write]) key = if write.key = key then some write else lastOf writes key := by
  rw [lastOf, List.reverse_append, List.reverse_singleton, List.singleton_append, List.find?_cons]
  split <;> simp_all [lastOf]

theorem lastOf_mem (last : lastOf writes key = some write) : write ∈ writes :=
  List.mem_reverse.mp (List.mem_of_find?_eq_some last)

omit [DecidableEq Key] in
theorem Overwriting.left {earlier later : List (Upsert Key Row)} (overwriting : Overwriting (earlier ++ later)) :
    Overwriting earlier where
  update_update first here second there :=
    overwriting.update_update first (List.mem_append_left _ here) second (List.mem_append_left _ there)
  update_create write here := overwriting.update_create write (List.mem_append_left _ here)

theorem putAll_unwritten (none : lastOf writes key = none) : putAll writes view key = view key := by
  induction writes using List.reverseRecOn with
  | nil => rfl
  | append_singleton earlier write ih =>
    rw [lastOf_snoc] at none
    split at none
    · cases none
    · rename_i apart
      rw [putAll_append]
      exact (put_other (Ne.symm apart)).trans (ih none)

/-- A row that is there ends as its last write leaves it. -/
theorem putAll_present {row : Row} (overwriting : Overwriting writes) (present : view key = some row)
    (last : lastOf writes key = some write) : putAll writes view key = some (write.update row) := by
  induction writes using List.reverseRecOn generalizing write with
  | nil => cases last
  | append_singleton earlier final ih =>
    rw [lastOf_snoc] at last
    rw [putAll_append]
    split at last
    · rename_i here
      obtain rfl := Option.some.inj last
      subst here
      refine (put_self final).trans ?_
      cases before : lastOf earlier final.key with
      | none =>
        rw [putAll_unwritten before, present]
        rfl
      | some previous =>
        rw [ih overwriting.left before]
        exact congrArg some (overwriting.update_update previous (List.mem_append_left _ (lastOf_mem before)) final
          (List.mem_append_right _ (List.mem_singleton_self _)) row)
    · rename_i apart
      exact (put_other (Ne.symm apart)).trans (ih overwriting.left last)

/-- A written row is as its last write would leave it again. -/
theorem putAll_written (overwriting : Overwriting writes) (last : lastOf writes key = some write) :
    ∃ row, putAll writes view key = some (write.update row) := by
  induction writes using List.reverseRecOn generalizing write with
  | nil => cases last
  | append_singleton earlier final ih =>
    rw [lastOf_snoc] at last
    rw [putAll_append]
    split at last
    · rename_i here
      obtain rfl := Option.some.inj last
      subst here
      have settled := overwriting.update_create final (List.mem_append_right _ (List.mem_singleton_self _))
      change ∃ row, put (putAll earlier view) final final.key = _
      rw [put_self]
      cases putAll earlier view final.key with
      | none => exact ⟨final.create, congrArg some settled.symm⟩
      | some row => exact ⟨row, rfl⟩
    · rename_i apart
      obtain ⟨row, written⟩ := ih overwriting.left last
      exact ⟨row, (put_other (Ne.symm apart)).trans written⟩

/-- A second pass changes nothing. -/
theorem putAll_putAll (overwriting : Overwriting writes) : putAll writes (putAll writes view) = putAll writes view := by
  funext key
  cases last : lastOf writes key with
  | none => exact putAll_unwritten last
  | some write =>
    obtain ⟨row, written⟩ := @putAll_written _ _ _ _ view _ _ overwriting last
    rw [putAll_present overwriting written last, written]
    exact congrArg some (overwriting.update_update write (lastOf_mem last) write (lastOf_mem last) row)

end Upsert

end WinBack.Library
