import WinBack.Library.Script
import Mathlib.Tactic.Common

/-! Scripts whose process may be lost between two calls. A triple says what holds of the store after
every call, and so after a crash, besides what holds when the script is done. -/

namespace WinBack.Library.Script

variable {Call : Type} {Value : Call → Type} {Error Result Next Store Choice : Type}

def outcome? : Script Call Value Error Result → Option (Except Error Result)
  | .done outcome => some outcome
  | .call _ _ => none

section Cut

variable (exec : Store → (request : Call) → Choice → Except Error (Value request) × Store)

/-- One call for each choice, as long as there are calls; what is left of the script is lost. -/
def cut : List Choice → Store → Script Call Value Error Result → Script Call Value Error Result × Store
  | [], store, script => (script, store)
  | _ :: _, store, .done outcome => (.done outcome, store)
  | choice :: choices, store, .call request resume =>
    cut choices (exec store request choice).2 (resume (exec store request choice).1)

variable (allowed : Store → (request : Call) → Choice → Prop)

/-- Every call that is made meets the condition. -/
def Along : List Choice → Store → Script Call Value Error Result → Prop
  | [], _, _ => True
  | _ :: _, _, .done _ => True
  | choice :: choices, store, .call request resume => allowed store request choice ∧
      Along choices (exec store request choice).2 (resume (exec store request choice).1)

instance decidableAlong [∀ store request choice, Decidable (allowed store request choice)] : ∀ (choices : List Choice)
    (store : Store) (script : Script Call Value Error Result), Decidable (Along exec allowed choices store script)
  | [], _, _ => isTrue trivial
  | _ :: _, _, .done _ => isTrue trivial
  | choice :: choices, store, .call request resume =>
    have := decidableAlong choices (exec store request choice).2 (resume (exec store request choice).1)
    inferInstanceAs (Decidable (_ ∧ _))

variable (safe : Store → Prop)

/-- Every call that meets the condition leaves a safe store, and the script is done as `post` says. -/
def Keeps : Store → Script Call Value Error Result → (Except Error Result → Store → Prop) → Prop
  | store, .done outcome, post => post outcome store
  | store, .call request resume, post => ∀ choice, allowed store request choice →
      safe (exec store request choice).2 ∧
        Keeps (exec store request choice).2 (resume (exec store request choice).1) post

end Cut

variable {exec : Store → (request : Call) → Choice → Except Error (Value request) × Store}
  {allowed : Store → (request : Call) → Choice → Prop} {safe : Store → Prop} {store : Store}

@[simp] theorem keeps_pure (result : Result) (post : Except Error Result → Store → Prop) :
    Keeps exec allowed safe store (pure result) post ↔ post (.ok result) store := Iff.rfl

@[simp] theorem keeps_throw (error : Error) (post : Except Error Result → Store → Prop) :
    Keeps exec allowed safe store (throw error) post ↔ post (.error error) store := Iff.rfl

@[simp] theorem keeps_perform (request : Call) (post : Except Error (Value request) → Store → Prop) :
    Keeps exec allowed safe store (perform request) post ↔ ∀ choice, allowed store request choice →
      safe (exec store request choice).2 ∧ post (exec store request choice).1 (exec store request choice).2 := Iff.rfl

@[simp] theorem keeps_bind (script : Script Call Value Error Result) (rest : Result → Script Call Value Error Next)
    (post : Except Error Next → Store → Prop) :
    Keeps exec allowed safe store (script >>= rest) post ↔
      Keeps exec allowed safe store script fun outcome reached =>
        match outcome with
        | .ok result => Keeps exec allowed safe reached (rest result) post
        | .error error => post (.error error) reached := by
  change Keeps exec allowed safe store (script.andThen rest) post ↔ _
  induction script generalizing store with
  | done outcome => cases outcome <;> rfl
  | call request resume ih =>
    simp only [andThen, Keeps]
    exact forall_congr' fun choice => forall_congr' fun _ => and_congr_right fun _ => ih _

@[simp] theorem keeps_tryCatch (script : Script Call Value Error Result)
    (handler : Error → Script Call Value Error Result) (post : Except Error Result → Store → Prop) :
    Keeps exec allowed safe store (tryCatch script handler) post ↔
      Keeps exec allowed safe store script fun outcome reached =>
        match outcome with
        | .ok result => post (.ok result) reached
        | .error error => Keeps exec allowed safe reached (handler error) post := by
  change Keeps exec allowed safe store (script.handle handler) post ↔ _
  induction script generalizing store with
  | done outcome => cases outcome <;> rfl
  | call request resume ih =>
    simp only [handle, Keeps]
    exact forall_congr' fun choice => forall_congr' fun _ => and_congr_right fun _ => ih _

theorem Keeps.mono {script : Script Call Value Error Result} {post weaker : Except Error Result → Store → Prop}
    (keeps : Keeps exec allowed safe store script post) (weaken : ∀ outcome reached, post outcome reached → weaker outcome reached) :
    Keeps exec allowed safe store script weaker := by
  induction script generalizing store with
  | done outcome => exact weaken _ _ keeps
  | call request resume ih =>
    intro choice permitted
    obtain ⟨held, rest⟩ := keeps choice permitted
    exact ⟨held, ih _ rest⟩

/-- One call and the rest. -/
theorem keeps_perform_bind {request : Call} {rest : Value request → Script Call Value Error Next}
    {post : Except Error Next → Store → Prop}
    (called : ∀ choice answer next, allowed store request choice → exec store request choice = (answer, next) → safe next ∧
      (∀ value, answer = .ok value → Keeps exec allowed safe next (rest value) post) ∧
        ∀ error, answer = .error error → post (.error error) next) :
    Keeps exec allowed safe store (perform request >>= rest) post := by
  rw [keeps_bind, keeps_perform]
  intro choice permitted
  obtain ⟨held, succeeds, fails⟩ := called choice _ _ permitted rfl
  refine ⟨held, ?_⟩
  split
  · rename_i value answered
    exact succeeds value answered
  · rename_i error answered
    exact fails error answered

/-- Wherever the script is cut off, the store is safe; a script that came to its end has its outcome. -/
theorem Keeps.cut {script : Script Call Value Error Result} {post : Except Error Result → Store → Prop}
    {choices : List Choice} (keeps : Keeps exec allowed safe store script post) (held : safe store)
    (along : Along exec allowed choices store script) :
    safe (script.cut exec choices store).2 ∧ ∀ outcome, (script.cut exec choices store).1.outcome? = some outcome →
      post outcome (script.cut exec choices store).2 := by
  induction choices generalizing store script with
  | nil =>
    refine ⟨held, fun outcome ended => ?_⟩
    cases script with
    | done result =>
      obtain rfl := Option.some.inj ended
      exact keeps
    | call request resume => cases ended
  | cons choice choices ih =>
    cases script with
    | done result =>
      refine ⟨held, fun outcome ended => ?_⟩
      obtain rfl := Option.some.inj ended
      exact keeps
    | call request resume =>
      obtain ⟨next, rest⟩ := keeps choice along.1
      exact ih rest next along.2

/-- A run whose calls are not restricted. -/
theorem along_of_forall {script : Script Call Value Error Result} (every : ∀ store request choice, allowed store request choice)
    (choices : List Choice) (store : Store) : Along exec allowed choices store script := by
  induction choices generalizing store script with
  | nil => trivial
  | cons choice choices ih =>
    cases script with
    | done outcome => trivial
    | call request resume => exact ⟨every store request choice, ih _⟩

end WinBack.Library.Script
