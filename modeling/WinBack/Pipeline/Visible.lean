import WinBack.Generation.Outages
import WinBack.Pipeline.Texts

/-! No customer is sent a blank email: where the provider answers through one of its adapters, a text that a pass sends
shows something. -/

namespace WinBack.Pipeline

open Library Machine

/-- The answers of the provider come through its adapter. -/
def Answered (provider : Generation.AiProviderName) (world : World) (label : Label) : Prop :=
  ∀ slot choice, label = .work slot choice →
    Generation.AnsweredBy provider (fun _ _ => True) world.workers slot choice

section Invariant

/-- The pass has loaded nothing blank. -/
def Reads (task : Dispatch.DispatchTask) : Prop :=
  ∃ memory, task.script.Obeys Dispatch.recalling memory (fun _ _ => True) ∧
    ∀ target, memory.target = some target → ¬Generation.Blank target.generatedText

/-- The worker has heard nothing blank. -/
def Speaks (task : Generation.WorkerTask) : Prop :=
  ∃ heard, task.script.Obeys Generation.hearing heard (fun _ _ => True) ∧ heard.Visible

/-- A message has no text yet, or one that shows something. -/
def Shown (db : Db) : Prop :=
  ∀ letter ∈ letters db, letter.generatedText = "" ∨ ¬Generation.Blank letter.generatedText

structure Legible (world : World) : Prop where
  shown : Shown world.db
  reads : world.dispatch.tasks.Every Reads
  speaks : world.workers.Every Speaks

end Invariant

variable {drainer : Dispatch.DrainerContext} {worker : Generation.WorkerContext} {past : List World}
  {origin world next : World} {label : Label}

section Steps

/-- A worker's call. -/
theorem Shown.called {heard : Generation.Heard} {db after : Db} {request : Generation.Call} {choice : Generation.Choice}
    {answer : Except Generation.Thrown request.Value} (shown : Shown db) (visible : heard.Visible)
    (allowed : Generation.hearing.allowed heard request)
    (executed : Generation.exec db request choice = some (answer, after)) : Shown after := by
  rcases Generation.exec_cases executed with rfl | ⟨scope, generationId, lastError, audits, _, rfl⟩ |
      ⟨scope, completion, rfl, done⟩
  · exact shown
  · exact shown
  rcases (completeGeneration_cases done).2 with same | ⟨_, _, messages⟩
  · rw [Shown, same.letters]
    exact shown
  · intro given stored
    obtain ⟨message, listed, rfl⟩ := mem_letters.mp stored
    rw [messages] at listed
    obtain ⟨old, before, rfl⟩ := List.mem_map.mp listed
    split
    · exact .inr (visible.spells allowed)
    · exact shown _ (mem_letters.mpr ⟨old, before, rfl⟩)

theorem Shown.subset {db after : Db} (shown : Shown db) (fewer : letters after ⊆ letters db) : Shown after :=
  fun letter stored => shown letter (fewer stored)

/-- A load reads a message with a text, and this shows something. -/
theorem Legible.remembers {memory : Dispatch.Recall} {request : Dispatch.Call} {choice : Dispatch.Choice}
    {answer : Except Dispatch.Thrown request.Value} {after : Dispatch.Backend} (legible : Legible world)
    (sound : Sound worker past world)
    (executed : Dispatch.exec world.dispatch.backend request choice = some (answer, after))
    (loaded : ∀ target, memory.target = some target → ¬Generation.Blank target.generatedText) :
    ∀ target, (Dispatch.recalling.next memory request answer).target = some target → ¬Generation.Blank target.generatedText := by
  cases request with
  | query read =>
    cases read with
    | loadDispatchContext messageId =>
      rcases answer with error | _ | target
      · exact loaded
      · exact loaded
      · intro held same
        obtain rfl : target = held := Option.some.inj same
        have answered := Option.some.inj executed
        split at answered
        · have read := Except.ok.inj (congrArg Prod.fst answered)
          obtain ⟨_, _, letter, stored, _, text⟩ := loaded_rows read
          have some := (sound.loads read).written
          exact text ▸ (legible.shown letter stored).resolve_left (text ▸ some)
        · cases answered
    | _ => exact loaded
  | _ => exact loaded

theorem Legible.dispatched {step : Dispatch.Label} (legible : Legible world) (sound : Sound worker past world)
    (moved : (Dispatch.machine drainer).step world.dispatch step = some next.dispatch)
    (inner : ∀ message, step ≠ .draft message) (kept : ∀ db, step ≠ .outside db)
    (workers : next.workers = world.workers) : Legible next := by
  have speaks : next.workers.Every Speaks := workers ▸ legible.speaks
  rcases dispatched_tasks moved inner kept with ⟨tasks, same⟩ | ⟨slot, choice, task, after, live, advanced, tasks⟩
  · refine ⟨?_, fun task member => ?_, speaks⟩
    · rw [show next.db = world.db from same]
      exact legible.shown
    · rcases tasks task member with old | ⟨memory, unloaded, obeys⟩
      · exact legible.reads task old
      · refine ⟨memory, obeys, fun target held => ?_⟩
        rw [unloaded] at held
        cases held
  · obtain ⟨memory, obeys, loaded⟩ := legible.reads.get live
    obtain ⟨request, answer, _, _, executed, continues⟩ := Task.advance_obeys obeys advanced
    have texts : SameTexts world.db next.db := texts_exec executed
    refine ⟨legible.shown.subset fun _ stored => texts.letters ▸ stored, ?_, speaks⟩
    rw [tasks]
    exact legible.reads.put ⟨_, continues, legible.remembers sound executed loaded⟩

theorem Legible.worked {step : Generation.Label} (legible : Legible world)
    (answered : ∀ slot choice, step = .act slot choice →
      Generation.AnsweredBy worker.aiConfig.provider (fun _ _ => True) world.workers slot choice)
    (moved : (Generation.machine worker).step ⟨world.db, world.workers⟩ step = some ⟨next.db, next.workers⟩)
    (inner : ∀ db rewrite audits, step ≠ .outside db rewrite audits)
    (dispatch : next.dispatch = world.dispatch.setDb next.db) : Legible next := by
  have reads : next.dispatch.tasks.Every Reads := by
    rw [dispatch]
    exact legible.reads
  cases step with
  | deliver job =>
    obtain ⟨same, tasks⟩ := Generation.World.mk.inj (Option.some.inj moved)
    refine ⟨same ▸ legible.shown, reads, ?_⟩
    rw [← tasks]
    refine legible.speaks.spawn ⟨{}, Generation.processAiGenerateJob_hears, ?_, ?_⟩ <;> simp
  | act slot choice =>
    obtain ⟨task, live, moved⟩ := Option.bind_eq_some_iff.mp moved
    obtain ⟨⟨db, after⟩, advanced, same⟩ := Option.map_eq_some_iff.mp moved
    obtain ⟨rfl, tasks⟩ := Generation.World.mk.inj same
    obtain ⟨heard, obeys, visible⟩ := legible.speaks.get live
    obtain ⟨request, answer, pending, allowed, executed, continues⟩ := Task.advance_obeys obeys advanced
    have said (args : Generation.AiGenerateArgs) (same : request = .generate args) :=
      answered slot choice rfl task args live (same ▸ pending)
    refine ⟨legible.shown.called visible allowed executed, reads, ?_⟩
    rw [← tasks]
    exact legible.speaks.put ⟨_, continues, visible.hears allowed executed said⟩
  | crash slot =>
    obtain ⟨task, live, same⟩ := Option.map_eq_some_iff.mp moved
    obtain ⟨same, tasks⟩ := Generation.World.mk.inj same
    refine ⟨same ▸ legible.shown, reads, ?_⟩
    rw [← tasks]
    exact legible.speaks.clear
  | created merchantId customerId args now =>
    simp only [Generation.machine] at moved
    split at moved
    · cases moved
    · rename_i db done
      obtain ⟨rfl, tasks⟩ := Generation.World.mk.inj (Option.some.inj moved)
      refine ⟨fun given stored => ?_, reads, tasks ▸ legible.speaks⟩
      rcases (letters_created done).mp stored with old | rfl
      · exact legible.shown given old
      · exact .inl rfl
  | outside db rewrite audits => exact absurd rfl (inner _ _ _)

theorem Legible.step (legible : Legible world) (sound : Sound worker past world)
    (answered : Answered worker.aiConfig.provider world label)
    (stepped : (machine drainer worker).step world label = some next) : Legible next := by
  cases step_cases stepped with
  | dispatched step moved inner kept workers issued => exact legible.dispatched sound moved inner kept workers
  | worked step named moved inner dispatch issued fresh =>
    refine legible.worked (fun slot choice same => ?_) moved inner dispatch
    subst same
    refine answered slot choice ?_
    cases label <;> simp_all [Label.worker?]
  | erased targets messages generations same =>
    subst same
    exact ⟨legible.shown.subset letters_erase, legible.reads, legible.speaks⟩
  | outside db same =>
    subst same
    exact ⟨legible.shown, legible.reads, legible.speaks⟩

theorem Start.legible (start : Start origin) : Legible origin where
  shown := by simp [Shown, letters, Table.links, start.messages]
  reads := by simp [Pool.Every, start.tasks]
  speaks := by simp [Pool.Every, start.workers]

/-- Whatever the provider answers, a pass that sends sends a text that shows something. -/
theorem sent_text_visible (start : Start origin)
    (run : (machine drainer worker).Reach (Answered worker.aiConfig.provider) origin world) {slot : Nat}
    {task : Dispatch.DispatchTask} {args : EmailSendArgs} (live : world.dispatch.tasks.task? slot = some task)
    (pending : task.pending? = some (.send args)) : ∃ char ∈ args.html.toList, isSpace char = false := by
  obtain ⟨past, passed⟩ := run.passed
  have legible : Legible world := by
    clear live pending run
    induction passed with
    | origin => exact start.legible
    | step earlier answered moved ih => exact ih.step (sound_of_run start earlier) answered moved
  obtain ⟨memory, obeys, held⟩ := legible.reads.get live
  obtain ⟨_, target, remembered, html, _⟩ := Task.pending_obeys obeys pending
  exact html ▸ Generation.not_blank_iff.mp (held target remembered)

end Steps

section Answer

/-- The model has written the placeholder of the code. -/
def talkingClients : Generation.Clients where
  chatCompletions _ := .ok ⟨[⟨"stop", some ("Use " ++ Generation.discountCodeToken)⟩], some ⟨10, 10, 20⟩⟩
  messages _ := .ok ⟨some "refusal", [], 0, 0⟩

/-- Every answer is the one of the offer. -/
def offers (_ : World) : Label → Bool
  | .work _ choice =>
    match choice.provider with
    | .ok result => result == ⟨"Use " ++ Generation.discountCodeToken, 10, 10, 20, 5⟩
    | .error _ => false
  | _ => true

theorem answered_offers {world : World} {label : Label} (offered : offers world label = true) :
    Answered offerWorker.aiConfig.provider world label := by
  rintro slot choice rfl task args live pending
  unfold offers at offered
  cases given : choice.provider with
  | ok result =>
    simp only [given, beq_iff_eq] at offered
    subst offered
    exact ⟨talkingClients, 5, trivial, rfl⟩
  | error thrown => simp [given] at offered

def answered? : Option World := (machine Dispatch.utcContext offerWorker).runWhere offers newCampaign offered

theorem answered_runs : answered?.isSome = true := by decide

theorem answered_sends : (sending? (answered?.get answered_runs) 1).isSome = true := by decide

theorem sent_text_visible_offer : ∃ world args, answered? = some world ∧ sending? world 1 = some args ∧
    ∃ char ∈ args.html.toList, isSpace char = false := by
  obtain ⟨task, live, pending⟩ := sending?_eq_some (Option.some_get answered_sends).symm
  exact ⟨_, _, (Option.some_get answered_runs).symm, (Option.some_get answered_sends).symm,
    sent_text_visible (show Start newCampaign from ⟨rfl, rfl, rfl, rfl, rfl, rfl⟩)
      ((reach_get answered_runs).mono fun _ _ => answered_offers) live pending⟩

end Answer

end WinBack.Pipeline
