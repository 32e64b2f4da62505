import WinBack.Library.Script
import Mathlib.Data.List.Basic
import Mathlib.Tactic.Common

/-! Concurrent execution of scripts over a shared store. A pool holds the running
tasks; one step lets one task make its next call. Each task carries the phase its
discipline assigns to the answers it has seen: an auxiliary value that no call and
no continuation reads. -/

namespace WinBack.Library

/-- A running script with its tag and its discipline phase. -/
structure Task (Tag Call : Type) (Value : Call → Type) (Error Phase : Type) where
  tag : Tag
  phase : Phase
  script : Script Call Value Error Unit

namespace Task

variable {Tag Call : Type} {Value : Call → Type} {Error Phase Store Choice : Type}
variable (discipline : Discipline Call Value Error Phase)
variable (exec : Store → (request : Call) → Choice → Option (Except Error (Value request) × Store))

/-- Make the next call. The choice fixes what the environment decides about it. -/
def advance (store : Store) (choice : Choice) (task : Task Tag Call Value Error Phase) :
    Option (Store × Task Tag Call Value Error Phase) :=
  match task.script with
  | .done _ => none
  | .call request resume =>
    match exec store request choice with
    | none => none
    | some (answer, after) =>
      some (after, ⟨task.tag, discipline.next task.phase request answer, resume answer⟩)

/-- The call that the task makes next. -/
def pending? (task : Task Tag Call Value Error Phase) : Option Call :=
  match task.script with
  | .done _ => none
  | .call request _ => some request

/-- The outcome of a task that has no call left to make. -/
def outcome? (task : Task Tag Call Value Error Phase) : Option (Except Error Unit) :=
  match task.script with
  | .done outcome => some outcome
  | .call _ _ => none

/-- The task keeps to its discipline from its present phase on. -/
def Follows (post : Phase → Except Error Unit → Prop) (task : Task Tag Call Value Error Phase) : Prop :=
  task.script.Obeys discipline task.phase post

variable {discipline exec} {store after : Store} {choice : Choice}
  {task next : Task Tag Call Value Error Phase} {post : Phase → Except Error Unit → Prop}

theorem advance_cases (moved : task.advance discipline exec store choice = some (after, next)) :
    ∃ request resume answer, task.script = .call request resume ∧
      exec store request choice = some (answer, after) ∧
      next = ⟨task.tag, discipline.next task.phase request answer, resume answer⟩ := by
  unfold advance at moved
  split at moved
  · cases moved
  · rename_i request resume script
    split at moved
    · cases moved
    · rename_i answer reached executed
      cases moved
      exact ⟨request, resume, answer, script, executed, rfl⟩

/-- A task that follows its discipline makes an allowed call and goes on following it. -/
theorem Follows.advance (follows : task.Follows discipline post)
    (moved : task.advance discipline exec store choice = some (after, next)) :
    ∃ request answer, task.pending? = some request ∧ discipline.allowed task.phase request ∧
      exec store request choice = some (answer, after) ∧ next.tag = task.tag ∧
      next.phase = discipline.next task.phase request answer ∧ next.Follows discipline post := by
  obtain ⟨request, resume, answer, script, executed, same⟩ := advance_cases moved
  rw [Follows, script] at follows
  subst same
  exact ⟨request, answer, by rw [pending?, script], follows.1, executed, rfl, rfl, follows.2 answer⟩

/-- A script may keep to a discipline that the phase of its task does not record. -/
theorem advance_obeys {Second : Type} {second : Discipline Call Value Error Second} {phase : Second}
    {ends : Second → Except Error Unit → Prop} (obeys : task.script.Obeys second phase ends)
    (moved : task.advance discipline exec store choice = some (after, next)) :
    ∃ request answer, task.pending? = some request ∧ second.allowed phase request ∧
      exec store request choice = some (answer, after) ∧
      next.script.Obeys second (second.next phase request answer) ends := by
  obtain ⟨request, resume, answer, script, executed, same⟩ := advance_cases moved
  rw [script] at obeys
  subst same
  exact ⟨request, answer, by rw [pending?, script], obeys.1, executed, obeys.2 answer⟩

/-- A task of plain calls makes a plain call and goes on with plain calls. -/
theorem advance_only {plain : Call → Prop} (only : task.script.Only plain)
    (moved : task.advance discipline exec store choice = some (after, next)) :
    ∃ request answer, task.pending? = some request ∧ plain request ∧ exec store request choice = some (answer, after) ∧
      next.script.Only plain := by
  obtain ⟨request, resume, answer, script, executed, same⟩ := advance_cases moved
  rw [script] at only
  subst same
  exact ⟨request, answer, by rw [pending?, script], only.1, executed, only.2 answer⟩

theorem pending_obeys {Second : Type} {second : Discipline Call Value Error Second} {phase : Second}
    {ends : Second → Except Error Unit → Prop} {request : Call} (obeys : task.script.Obeys second phase ends)
    (pending : task.pending? = some request) : second.allowed phase request := by
  unfold pending? at pending
  split at pending
  · cases pending
  · rename_i call resume script
    cases pending
    rw [script] at obeys
    exact obeys.1

/-- The pending call of a task that follows its discipline is allowed. -/
theorem Follows.pending (follows : task.Follows discipline post) {request : Call}
    (pending : task.pending? = some request) : discipline.allowed task.phase request := pending_obeys follows pending

theorem Follows.outcome (follows : task.Follows discipline post) {outcome : Except Error Unit}
    (ended : task.outcome? = some outcome) : post task.phase outcome := by
  unfold outcome? at ended
  split at ended
  · rename_i result script
    cases ended
    rw [Follows, script] at follows
    exact follows
  · cases ended

end Task

/-- Task slots in order of creation. A crashed or settled task leaves an empty slot. -/
abbrev Pool (Item : Type) := List (Option Item)

namespace Pool

variable {Item : Type}

def task? (pool : Pool Item) (slot : Nat) : Option Item := (pool[slot]?).join

def spawn (pool : Pool Item) (task : Item) : Pool Item := pool ++ [some task]

def put (pool : Pool Item) (slot : Nat) (task : Item) : Pool Item := pool.set slot (some task)

def clear (pool : Pool Item) (slot : Nat) : Pool Item := pool.set slot none

/-- The number of live tasks with a property. -/
def tally (pool : Pool Item) (counted : Item → Bool) : Nat := pool.countP fun slot => slot.any counted

def Every (pool : Pool Item) (Holds : Item → Prop) : Prop := ∀ task, some task ∈ pool → Holds task

variable {pool : Pool Item} {slot : Nat} {task other : Item}

theorem task?_get (live : pool.task? slot = some task) : pool[slot]? = some (some task) := by
  unfold task? at live
  cases found : pool[slot]? with
  | none => simp [found] at live
  | some item =>
    rw [found] at live
    exact congrArg some live

theorem task?_mem (live : pool.task? slot = some task) : some task ∈ pool :=
  List.mem_of_getElem? (task?_get live)

theorem task?_lt (live : pool.task? slot = some task) : slot < pool.length :=
  (List.getElem?_eq_some_iff.mp (task?_get live)).1

@[simp] theorem length_spawn : (pool.spawn task).length = pool.length + 1 := by simp [spawn]

@[simp] theorem length_put : (pool.put slot task).length = pool.length := by simp [put]

@[simp] theorem length_clear : (pool.clear slot).length = pool.length := by simp [clear]

theorem task?_spawn_last : (pool.spawn task).task? pool.length = some task := by simp [task?, spawn]

theorem task?_spawn_lt (inside : slot < pool.length) : (pool.spawn task).task? slot = pool.task? slot := by
  simp [task?, spawn, List.getElem?_append_left inside]

theorem task?_put (inside : slot < pool.length) : (pool.put slot task).task? slot = some task := by
  simp [task?, put, inside]

theorem task?_put_other {away : Nat} (apart : slot ≠ away) :
    (pool.put slot task).task? away = pool.task? away := by
  simp [task?, put, List.getElem?_set_ne apart]

/-- A task of the pool after one was replaced: the new one, or another's. -/
theorem task?_put_cases {away : Nat} {found : Item} (live : pool.task? slot = some task)
    (present : (pool.put slot other).task? away = some found) :
    slot = away ∧ found = other ∨ slot ≠ away ∧ pool.task? away = some found := by
  by_cases same : slot = away
  · subst same
    rw [task?_put (task?_lt live)] at present
    exact .inl ⟨rfl, (Option.some.inj present).symm⟩
  · rw [task?_put_other same] at present
    exact .inr ⟨same, present⟩

theorem task?_clear (pool : Pool Item) (slot : Nat) : (pool.clear slot).task? slot = none := by
  unfold task? clear
  rw [List.getElem?_set_self']
  cases pool[slot]? <;> rfl

theorem task?_clear_other {away : Nat} (apart : slot ≠ away) :
    (pool.clear slot).task? away = pool.task? away := by
  simp [task?, clear, List.getElem?_set_ne apart]

theorem mem_task? (member : some task ∈ pool) : ∃ slot, pool.task? slot = some task := by
  obtain ⟨slot, found⟩ := List.getElem?_of_mem member
  exact ⟨slot, by simp [task?, found]⟩

private theorem countP_set (items : List (Option Item)) (counted : Option Item → Bool) (slot : Nat)
    (old fresh : Option Item) (here : items[slot]? = some old) :
    (items.set slot fresh).countP counted + (if counted old then 1 else 0) =
      items.countP counted + (if counted fresh then 1 else 0) := by
  induction items generalizing slot with
  | nil => simp at here
  | cons head tail ih =>
    cases slot with
    | zero =>
      have same : head = old := by simpa using here
      subst same
      simp only [List.set_cons_zero, List.countP_cons]
      omega
    | succ slot =>
      have rest := ih slot (by simpa using here)
      simp only [List.set_cons_succ, List.countP_cons]
      omega

/-- Replacing a live task moves a tally by what the old and new task count. -/
theorem tally_put (other : Item) (live : pool.task? slot = some task) (counted : Item → Bool) :
    (pool.put slot other).tally counted + (if counted task then 1 else 0) =
      pool.tally counted + (if counted other then 1 else 0) := by
  simpa [tally, put] using
    countP_set pool (fun item => item.any counted) slot (some task) (some other) (task?_get live)

theorem tally_clear (live : pool.task? slot = some task) (counted : Item → Bool) :
    (pool.clear slot).tally counted + (if counted task then 1 else 0) = pool.tally counted := by
  simpa [tally, clear] using
    countP_set pool (fun item => item.any counted) slot (some task) none (task?_get live)

theorem tally_put_clear (other : Item) (live : pool.task? slot = some task) (counted : Item → Bool) :
    (pool.put slot other).tally counted = (pool.clear slot).tally counted + if counted other then 1 else 0 := by
  have put := tally_put other live counted
  have cleared := tally_clear live counted
  omega

theorem tally_spawn (counted : Item → Bool) :
    (pool.spawn task).tally counted = pool.tally counted + if counted task then 1 else 0 := by
  simp [tally, spawn, List.countP_append, List.countP_singleton]

/-- A task that counts only if it counted before does not raise a tally. -/
theorem tally_put_le (live : pool.task? slot = some task) {counted : Item → Bool}
    (kept : counted other = true → counted task = true) :
    (pool.put slot other).tally counted ≤ pool.tally counted := by
  have moved := tally_put other live counted
  by_cases counts : counted other = true
  · simp only [counts, kept counts, if_true] at moved
    omega
  · simp only [counts] at moved
    split at moved <;> simp at moved <;> omega

theorem tally_clear_le (live : pool.task? slot = some task) (counted : Item → Bool) :
    (pool.clear slot).tally counted ≤ pool.tally counted := by
  have moved := tally_clear live counted
  omega

theorem tally_pos (live : pool.task? slot = some task) {counted : Item → Bool}
    (holds : counted task = true) : 0 < pool.tally counted := by
  rw [tally, List.countP_pos_iff]
  exact ⟨some task, task?_mem live, by simpa using holds⟩

theorem tally_pos_iff {counted : Item → Bool} :
    0 < pool.tally counted ↔ ∃ task, some task ∈ pool ∧ counted task = true := by
  rw [tally, List.countP_pos_iff]
  constructor
  · rintro ⟨item, member, holds⟩
    cases item with
    | none => simp at holds
    | some task => exact ⟨task, member, by simpa using holds⟩
  · rintro ⟨task, member, holds⟩
    exact ⟨some task, member, by simpa using holds⟩

theorem tally_mono {first second : Item → Bool}
    (weaker : ∀ task, first task = true → second task = true) :
    pool.tally first ≤ pool.tally second := by
  apply List.countP_mono_left
  intro item _ holds
  cases item with
  | none => simp at holds
  | some task => exact weaker task (by simpa using holds)

/-- Tallies of disjoint properties add up below a tally of both. -/
theorem tally_add_le {first second both : Item → Bool}
    (disjoint : ∀ task, first task = true → second task = false)
    (left : ∀ task, first task = true → both task = true)
    (right : ∀ task, second task = true → both task = true) :
    pool.tally first + pool.tally second ≤ pool.tally both := by
  unfold tally
  induction pool with
  | nil => simp
  | cons slot rest ih =>
    simp only [List.countP_cons]
    cases slot with
    | none => simpa using ih
    | some task =>
      simp only [Option.any_some]
      by_cases here : first task = true
      · simp only [here, disjoint task here, left task here]
        simp
        omega
      · by_cases there : second task = true
        · simp only [here, there, right task there]
          simp
          omega
        · simp only [here, there]
          simp
          omega

/-- A task of a pool is the one just put in its slot, or stood in another slot. -/
theorem mem_put {present : Item} (member : some present ∈ pool.put slot other) :
    present = other ∨ some present ∈ pool.clear slot := by
  obtain ⟨place, found⟩ := List.getElem?_of_mem member
  unfold put at found
  by_cases here : slot = place
  · subst here
    obtain ⟨inside, same⟩ := List.getElem?_eq_some_iff.mp found
    rw [List.getElem_set_self] at same
    exact .inl (Option.some.inj same).symm
  · rw [List.getElem?_set_ne here] at found
    have kept : (pool.clear slot)[place]? = some (some present) := by
      rw [clear, List.getElem?_set_ne here, found]
    exact .inr (List.mem_of_getElem? kept)

theorem Every.put {Holds : Item → Prop} (every : pool.Every Holds) (holds : Holds other) :
    (pool.put slot other).Every Holds := by
  intro task member
  rcases List.mem_or_eq_of_mem_set member with old | fresh
  · exact every task old
  · cases Option.some.inj fresh
    exact holds

theorem Every.clear {Holds : Item → Prop} (every : pool.Every Holds) :
    (pool.clear slot).Every Holds := by
  intro task member
  rcases List.mem_or_eq_of_mem_set member with old | fresh
  · exact every task old
  · cases fresh

theorem Every.spawn {Holds : Item → Prop} (every : pool.Every Holds) (holds : Holds task) :
    (pool.spawn task).Every Holds := by
  intro present member
  rcases List.mem_append.mp member with old | fresh
  · exact every present old
  · cases List.mem_singleton.mp fresh
    exact holds

theorem Every.get {Holds : Item → Prop} (every : pool.Every Holds) (live : pool.task? slot = some task) :
    Holds task := every task (task?_mem live)

end Pool

end WinBack.Library
