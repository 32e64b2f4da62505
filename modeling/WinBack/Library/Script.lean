/-! Programs over atomic calls that may fail. A script is the tree of calls a
procedure makes: each call is answered with a value or an error, and the answer
decides the continuation. Disciplines say which call may follow which answers,
independently of the code that makes the calls. -/

namespace WinBack.Library

/-- A procedure as the tree of its atomic calls. Leaves carry the outcome: a
returned value or an uncaught error. -/
inductive Script (Call : Type) (Value : Call → Type) (Error Result : Type) : Type
  | done (outcome : Except Error Result)
  | call (request : Call) (resume : Except Error (Value request) → Script Call Value Error Result)

namespace Script

variable {Call : Type} {Value : Call → Type} {Error Result Next : Type}

/-- Issue one call; a failed call throws. -/
def perform (request : Call) : Script Call Value Error (Value request) := .call request .done

/-- Sequencing: an uncaught error skips the rest. -/
def andThen : Script Call Value Error Result → (Result → Script Call Value Error Next) →
    Script Call Value Error Next
  | .done (.ok result), rest => rest result
  | .done (.error error), _ => .done (.error error)
  | .call request resume, rest => .call request fun answer => (resume answer).andThen rest

/-- Handle an uncaught error. -/
def handle : Script Call Value Error Result → (Error → Script Call Value Error Result) →
    Script Call Value Error Result
  | .done (.ok result), _ => .done (.ok result)
  | .done (.error error), handler => handler error
  | .call request resume, handler => .call request fun answer => (resume answer).handle handler

instance : Monad (Script Call Value Error) where
  pure result := .done (.ok result)
  bind := andThen

instance : MonadExcept Error (Script Call Value Error) where
  throw error := .done (.error error)
  tryCatch := handle

/-- What becomes of a script, whether it returns or throws. -/
def attempted (script : Script Call Value Error Result) : Script Call Value Error (Except Error Result) :=
  tryCatch
    (do
      let result ← script
      return .ok result)
    fun error => return .error error

/-- A script of other calls, each made as one of these. -/
def within {Inner : Type} (embed : Inner → Call) :
    Script Inner (fun request => Value (embed request)) Error Result → Script Call Value Error Result
  | .done outcome => .done outcome
  | .call request resume => .call (embed request) fun answer => (resume answer).within embed

/-- Run a script alone against a server that answers every call. -/
def run {Store : Type} (serve : Store → (request : Call) → Except Error (Value request) × Store) :
    Store → Script Call Value Error Result → Except Error Result × Store
  | store, .done outcome => (outcome, store)
  | store, .call request resume =>
    run serve (serve store request).2 (resume (serve store request).1)

section Run

variable {Store : Type} (serve : Store → (request : Call) → Except Error (Value request) × Store)

@[simp] theorem run_pure (store : Store) (result : Result) :
    run serve store (pure result : Script Call Value Error Result) = (.ok result, store) := rfl

@[simp] theorem run_throw (store : Store) (error : Error) :
    run serve store (throw error : Script Call Value Error Result) = (.error error, store) := rfl

@[simp] theorem run_perform (store : Store) (request : Call) :
    run serve store (perform request) = serve store request := rfl

@[simp] theorem run_bind (store : Store) (script : Script Call Value Error Result)
    (rest : Result → Script Call Value Error Next) :
    run serve store (script >>= rest) =
      match run serve store script with
      | (.ok result, after) => run serve after (rest result)
      | (.error error, after) => (.error error, after) := by
  change run serve store (script.andThen rest) = _
  induction script generalizing store with
  | done outcome => cases outcome <;> rfl
  | call request resume ih => exact ih _ _

theorem run_bind_ok {store after : Store} {script : Script Call Value Error Result} {result : Result}
    (done : run serve store script = (.ok result, after)) (rest : Result → Script Call Value Error Next) :
    run serve store (script >>= rest) = run serve after (rest result) := by
  rw [run_bind, done]

/-- What a sequence that returns says of its parts. -/
theorem run_bind_eq_ok {store after : Store} {script : Script Call Value Error Result}
    {rest : Result → Script Call Value Error Next} {result : Next}
    (ran : run serve store (script >>= rest) = (.ok result, after)) :
    ∃ value between, run serve store script = (.ok value, between) ∧ run serve between (rest value) = (.ok result, after) := by
  rw [run_bind] at ran
  rcases first : run serve store script with ⟨error | value, between⟩
  · rw [first] at ran
    cases ran
  · rw [first] at ran
    exact ⟨value, between, rfl, ran⟩

@[simp] theorem run_tryCatch (store : Store) (script : Script Call Value Error Result)
    (handler : Error → Script Call Value Error Result) :
    run serve store (tryCatch script handler) =
      match run serve store script with
      | (.ok result, after) => (.ok result, after)
      | (.error error, after) => run serve after (handler error) := by
  change run serve store (script.handle handler) = _
  induction script generalizing store with
  | done outcome => cases outcome <;> rfl
  | call request resume ih => exact ih _ _

@[simp] theorem run_attempted (store : Store) (script : Script Call Value Error Result) :
    run serve store script.attempted = (.ok (run serve store script).1, (run serve store script).2) := by
  unfold attempted
  rw [run_tryCatch, run_bind]
  rcases run serve store script with ⟨_ | _, _⟩ <;> rfl

/-- The server sees the calls that are made. -/
theorem run_within {Inner : Type} (embed : Inner → Call) (store : Store)
    (script : Script Inner (fun request => Value (embed request)) Error Result) :
    run serve store (script.within embed) = run (fun store request => serve store (embed request)) store script := by
  induction script generalizing store with
  | done outcome => rfl
  | call request resume ih => exact ih _ _

end Run

end Script

/-- A protocol automaton for one script: the calls a phase allows, and the phase
that follows each answer. -/
structure Discipline (Call : Type) (Value : Call → Type) (Error Phase : Type) where
  allowed : Phase → Call → Prop
  next : Phase → (request : Call) → Except Error (Value request) → Phase

namespace Script

variable {Call : Type} {Value : Call → Type} {Error Phase Result Next : Type}

/-- The script makes only allowed calls from `phase` on, whatever the answers,
and stops in a phase and with an outcome that satisfy the postcondition. -/
def Obeys (discipline : Discipline Call Value Error Phase) : Phase →
    Script Call Value Error Result → (Phase → Except Error Result → Prop) → Prop
  | phase, .done outcome, post => post phase outcome
  | phase, .call request resume, post => discipline.allowed phase request ∧
      ∀ answer, Obeys discipline (discipline.next phase request answer) (resume answer) post

variable {discipline : Discipline Call Value Error Phase}

@[simp] theorem obeys_pure (phase : Phase) (result : Result)
    (post : Phase → Except Error Result → Prop) :
    Obeys discipline phase (pure result) post ↔ post phase (.ok result) := Iff.rfl

@[simp] theorem obeys_throw (phase : Phase) (error : Error)
    (post : Phase → Except Error Result → Prop) :
    Obeys discipline phase (throw error) post ↔ post phase (.error error) := Iff.rfl

@[simp] theorem obeys_perform (phase : Phase) (request : Call)
    (post : Phase → Except Error (Value request) → Prop) :
    Obeys discipline phase (perform request) post ↔
      discipline.allowed phase request ∧
        ∀ answer, post (discipline.next phase request answer) answer := Iff.rfl

/-- Sequencing composes disciplines: the rest starts in the phase the first part
stopped in, and an uncaught error goes straight to the postcondition. -/
@[simp] theorem obeys_bind (phase : Phase) (script : Script Call Value Error Result)
    (rest : Result → Script Call Value Error Next) (post : Phase → Except Error Next → Prop) :
    Obeys discipline phase (script >>= rest) post ↔
      Obeys discipline phase script fun reached outcome =>
        match outcome with
        | .ok result => Obeys discipline reached (rest result) post
        | .error error => post reached (.error error) := by
  change Obeys discipline phase (script.andThen rest) post ↔ _
  induction script generalizing phase with
  | done outcome => cases outcome <;> rfl
  | call request resume ih =>
    simp only [andThen, Obeys]
    exact and_congr_right fun _ => forall_congr' fun answer => ih answer _

@[simp] theorem obeys_tryCatch (phase : Phase) (script : Script Call Value Error Result)
    (handler : Error → Script Call Value Error Result) (post : Phase → Except Error Result → Prop) :
    Obeys discipline phase (tryCatch script handler) post ↔
      Obeys discipline phase script fun reached outcome =>
        match outcome with
        | .ok result => post reached (.ok result)
        | .error error => Obeys discipline reached (handler error) post := by
  change Obeys discipline phase (script.handle handler) post ↔ _
  induction script generalizing phase with
  | done outcome => cases outcome <;> rfl
  | call request resume ih =>
    simp only [handle, Obeys]
    exact and_congr_right fun _ => forall_congr' fun answer => ih answer _

/-- One call and the rest: the call is allowed, an error ends the script, an
answer moves the phase on. -/
theorem obeys_perform_bind {phase : Phase} {request : Call} {rest : Value request → Script Call Value Error Next}
    {post : Phase → Except Error Next → Prop} :
    Obeys discipline phase (perform request >>= rest) post ↔
      discipline.allowed phase request ∧
        (∀ error, post (discipline.next phase request (.error error)) (.error error)) ∧
          ∀ answer, Obeys discipline (discipline.next phase request (.ok answer)) (rest answer) post := by
  rw [obeys_bind, obeys_perform]
  refine and_congr_right fun _ => ⟨fun all => ⟨fun error => all (.error error), fun answer => all (.ok answer)⟩, ?_⟩
  rintro ⟨fails, obeys⟩ (error | answer)
  · exact fails error
  · exact obeys answer

theorem obeys_ite {phase : Phase} {condition : Prop} [Decidable condition]
    {first second : Script Call Value Error Result} {post : Phase → Except Error Result → Prop} :
    Obeys discipline phase (if condition then first else second) post ↔
      (condition → Obeys discipline phase first post) ∧
        (¬condition → Obeys discipline phase second post) := by
  split <;> simp_all

theorem Obeys.mono {phase : Phase} {script : Script Call Value Error Result}
    {post weaker : Phase → Except Error Result → Prop} (obeys : Obeys discipline phase script post)
    (weaken : ∀ reached outcome, post reached outcome → weaker reached outcome) :
    Obeys discipline phase script weaker := by
  induction script generalizing phase with
  | done outcome => exact weaken _ _ obeys
  | call request resume ih => exact ⟨obeys.1, fun answer => ih answer (obeys.2 answer)⟩

section Only

variable {plain : Call → Prop}

/-- The script makes plain calls only, whatever the answers. -/
def Only (plain : Call → Prop) : Script Call Value Error Result → Prop
  | .done _ => True
  | .call request resume => plain request ∧ ∀ answer, (resume answer).Only plain

@[simp] theorem only_pure (result : Result) : Only plain (pure result : Script Call Value Error Result) := trivial

@[simp] theorem only_throw (error : Error) : Only plain (throw error : Script Call Value Error Result) := trivial

@[simp] theorem only_perform {request : Call} :
    Only plain (perform request : Script Call Value Error (Value request)) ↔ plain request :=
  ⟨fun only => only.1, fun holds => ⟨holds, fun _ => trivial⟩⟩

theorem Only.bind {script : Script Call Value Error Result} {rest : Result → Script Call Value Error Next}
    (first : script.Only plain) (after : ∀ result, (rest result).Only plain) : Only plain (script >>= rest) := by
  change Only plain (script.andThen rest)
  induction script with
  | done outcome =>
    cases outcome with
    | ok result => exact after result
    | error error => trivial
  | call request resume ih => exact ⟨first.1, fun answer => ih answer (first.2 answer)⟩

theorem Only.tryCatch {script : Script Call Value Error Result} {handler : Error → Script Call Value Error Result}
    (body : script.Only plain) (handled : ∀ error, (handler error).Only plain) :
    Only plain (tryCatch script handler) := by
  change Only plain (script.handle handler)
  induction script with
  | done outcome =>
    cases outcome with
    | ok result => trivial
    | error error => exact handled error
  | call request resume ih => exact ⟨body.1, fun answer => ih answer (body.2 answer)⟩

/-- A script of plain calls keeps to every discipline that allows them and that they do not move. -/
theorem Only.obeys {script : Script Call Value Error Result} {phase : Phase} (only : script.Only plain)
    (allows : ∀ request, plain request → discipline.allowed phase request)
    (keeps : ∀ request answer, plain request → discipline.next phase request answer = phase) :
    Obeys discipline phase script fun reached _ => reached = phase := by
  induction script with
  | done outcome => rfl
  | call request resume ih =>
    refine ⟨allows request only.1, fun answer => ?_⟩
    rw [keeps request answer only.1]
    exact ih answer (only.2 answer)

end Only

end Script

end WinBack.Library
