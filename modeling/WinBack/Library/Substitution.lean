import WinBack.Library.Script

/-! Scripts whose calls are themselves carried out by scripts over other calls, and the disciplines
that pass from the one to the other. -/

namespace WinBack.Library.Script

variable {Call Inner : Type} {Value : Call → Type} {Given : Inner → Type} {Error Result Middle : Type}

/-- Go on with the outcome, be it a value or an error. -/
def settle : Script Inner Given Error Middle → (Except Error Middle → Script Inner Given Error Result) →
    Script Inner Given Error Result
  | .done outcome, rest => rest outcome
  | .call request resume, rest => .call request fun answer => (resume answer).settle rest

/-- Every call is carried out by a script. -/
def carriedOut (implement : (request : Call) → Script Inner Given Error (Value request)) :
    Script Call Value Error Result → Script Inner Given Error Result
  | .done outcome => .done outcome
  | .call request resume => (implement request).settle fun answer => (resume answer).carriedOut implement

variable {InnerPhase OuterPhase : Type} {inner : Discipline Inner Given Error InnerPhase}
  {outer : Discipline Call Value Error OuterPhase}

theorem obeys_settle {phase : InnerPhase} {script : Script Inner Given Error Middle}
    {rest : Except Error Middle → Script Inner Given Error Result} {post : InnerPhase → Except Error Result → Prop} :
    Obeys inner phase (script.settle rest) post ↔
      Obeys inner phase script fun reached outcome => Obeys inner reached (rest outcome) post := by
  induction script generalizing phase with
  | done outcome => rfl
  | call request resume ih =>
    simp only [settle, Obeys]
    exact and_congr_right fun _ => forall_congr' fun answer => ih answer

/-- Where each call is carried out in step with the outer discipline, so is the whole script. -/
theorem Obeys.carriedOut {implement : (request : Call) → Script Inner Given Error (Value request)}
    {Tells : OuterPhase → InnerPhase → Prop} {script : Script Call Value Error Result} {phase : OuterPhase} {start : InnerPhase}
    {post : OuterPhase → Except Error Result → Prop} (obeys : Obeys outer phase script post) (told : Tells phase start)
    (keeps : ∀ phase start request, Tells phase start → outer.allowed phase request →
      Obeys inner start (implement request) fun reached answer => Tells (outer.next phase request answer) reached) :
    Obeys inner start (script.carriedOut implement) fun reached outcome => ∃ phase, Tells phase reached ∧ post phase outcome := by
  induction script generalizing phase start with
  | done outcome => exact ⟨phase, told, obeys⟩
  | call request resume ih =>
    rw [Script.carriedOut, obeys_settle]
    apply (keeps phase start request told obeys.1).mono
    intro reached answer tells
    exact ih answer (obeys.2 answer) tells

end WinBack.Library.Script
