import WinBack.Generation.Ledger
import WinBack.Generation.Passes

/-! The audit rows of generations that the provider refused for good. The row is appended next to a
compare-and-set whose outcome nobody reads. -/

namespace WinBack.Generation

open Library AiGenerationRepository

variable {context : WorkerContext} {world after : World} {label : Label} {db next : Db} {scope : MerchantId}

section Audits

def failureActions : List String := ["ai.content_blocked", "ai.generation_failed"]

def isFailureAudit (aiGenerationId : String) (row : AuditLog) : Bool :=
  decide (row.action ∈ failureActions) && row.targetId == some aiGenerationId

def failureAudits (aiGenerationId : String) (db : Db) : Nat := db.auditLogs.countP (isFailureAudit aiGenerationId)

/-- A transaction moves a generation from `pending` to `failed`. -/
def Fails (aiGenerationId : String) (db next : Db) : Prop :=
  (∃ generation ∈ db.aiGenerations.rows, generation.id = aiGenerationId ∧ generation.status = .pending) ∧
    ∃ generation ∈ next.aiGenerations.rows, generation.id = aiGenerationId ∧ generation.status = .failed

/-- Every failure audit that a transaction appends is of the generation that it fails. -/
def Matched (db next : Db) : Prop :=
  ∃ added, next.auditLogs = db.auditLogs ++ added ∧ ∀ row ∈ added, row.action ∈ failureActions →
    added = [row] ∧ ∃ aiGenerationId, row.targetId = some aiGenerationId ∧ Fails aiGenerationId db next

theorem Matched.silent (same : next.auditLogs = db.auditLogs) : Matched db next :=
  ⟨[], by rw [same, List.append_nil], fun _ member => nomatch member⟩

end Audits

section Steps

/-- The generation of the job is pending when its refusal commits. -/
def Call.timely (db : Db) (choice : Choice) : Call → Bool
  | .refuse scope aiGenerationId _ _ => !choice.written || decide (0 < db.aiGenerations.count (pending scope aiGenerationId))
  | _ => true

/-- No other component writes the failure actions. -/
def workersAudit : Label → Bool
  | .outside _ _ audits => audits.all fun row => decide (row.action ∉ failureActions)
  | _ => true

/-- A generation is refused for good only while it is pending. -/
def refusesPending (world : World) (label : Label) : Bool :=
  workersAudit label && match label with
    | .act slot choice => ((world.tasks.task? slot).bind Task.pending?).all (Call.timely world.db choice)
    | _ => true

theorem matched_called {request : Call} {choice : Choice} {answer : Except Thrown request.Value} {job : Job}
    (of : request.Of context job) (timely : request.timely db choice = true)
    (executed : exec db request choice = some (answer, next)) : Matched db next := by
  cases request with
  | query read | clock | generate args | mint args =>
    cases executed
    exact .silent rfl
  | markFailed scope aiGenerationId lastError =>
    rcases Choice.commit_cases executed with rfl | written
    · exact .silent rfl
    · cases written
      exact .silent rfl
  | refuse scope aiGenerationId lastError audit =>
    obtain ⟨_, rfl, shop, error, rfl⟩ := of
    have committed : choice.written = false ∨ 0 < db.aiGenerations.count (pending scope job.data.aiGenerationId) := by
      simpa [Call.timely] using timely
    rcases committed with dropped | some
    · have same : next = db := by
        have commit := Option.some.inj executed
        simp only [Choice.commit, dropped, Bool.false_eq_true, if_false] at commit
        exact (congrArg Prod.snd commit).symm
      rw [same]
      exact .silent rfl
    · rcases Choice.commit_cases executed with rfl | written
      · exact .silent rfl
      · cases written
        obtain ⟨generation, stored, waiting⟩ := Table.count_pos_iff.mp some
        have facts := waiting
        simp only [pending, Bool.and_eq_true, beq_iff_eq] at facts
        refine ⟨[refusedAudit job shop error], rfl, fun row member _ => ?_⟩
        cases List.mem_singleton.mp member
        refine ⟨rfl, job.data.aiGenerationId, rfl, ⟨generation, stored, facts.1.1, facts.1.2⟩, ?_⟩
        refine ⟨_, List.mem_map.mpr ⟨generation, stored, rfl⟩, ?_⟩
        rw [if_pos waiting]
        exact ⟨facts.1.1, rfl⟩
  | complete scope completed =>
    obtain ⟨_, shop, result, costMicrocents, minted, _, rfl⟩ := of
    rcases Choice.commit_cases executed with rfl | written
    · exact .silent rfl
    · rcases (completeGeneration_generations written).2 with same | added
      · exact .silent same
      · refine ⟨_, added, fun row member failing => ?_⟩
        have created : row.action = discountCreatedAction := by
          obtain ⟨discount, _, rfl⟩ := Option.map_eq_some_iff.mp (Option.mem_toList.mp member)
          rfl
        rw [created] at failing
        exact absurd failing (by decide)

theorem step_matched (every : world.tasks.Every (OfJob context)) (timely : refusesPending world label = true)
    (moved : (machine context).step world label = some after) :
    after.tasks.Every (OfJob context) ∧ Settles world.db after.db ∧ Matched world.db after.db := by
  obtain ⟨ours, timely⟩ := Bool.and_eq_true_iff.mp timely
  cases label with
  | deliver job =>
    cases moved
    exact ⟨every.spawn processAiGenerateJob_makes, .refl _, .silent rfl⟩
  | act slot choice =>
    obtain ⟨task, live, moved⟩ := Option.bind_eq_some_iff.mp moved
    obtain ⟨⟨db, next⟩, advanced, rfl⟩ := Option.map_eq_some_iff.mp moved
    have follows : task.Follows (passes context task.tag) fun _ _ => True := every.get live
    obtain ⟨request, answer, asks, of, executed, tag, _, onward⟩ := follows.advance advanced
    have prompt : request.timely world.db choice = true := by
      simpa [live, asks] using timely
    refine ⟨every.put ?_, settles_called executed, matched_called of prompt executed⟩
    unfold OfJob
    rwa [tag]
  | crash slot =>
    obtain ⟨task, live, rfl⟩ := Option.map_eq_some_iff.mp moved
    exact ⟨every.clear, .refl _, .silent rfl⟩
  | created merchantId customerId args now =>
    simp only [machine] at moved
    split at moved
    · cases moved
    · rename_i db done
      cases moved
      obtain ⟨aiGenerations, messages, _, _, rfl⟩ := createGeneration_ok done
      exact ⟨every, settles_created done, .silent rfl⟩
  | outside db rewrite audits =>
    cases moved
    refine ⟨every, .refl _, _, rfl, fun row member failing => ?_⟩
    have other := List.all_eq_true.mp ours row (List.mem_of_mem_filter member)
    exact absurd failing (of_decide_eq_true other)

end Steps

section Runs

variable {origin last : World}

/-- Each generation has at most one failure audit, and has it only once it has failed. -/
structure Audited (db : Db) : Prop where
  once : ∀ aiGenerationId, failureAudits aiGenerationId db ≤ 1
  failed : ∀ aiGenerationId, 0 < failureAudits aiGenerationId db →
    ∃ generation ∈ db.aiGenerations.rows, generation.id = aiGenerationId ∧ generation.status = .failed

theorem Audited.unaudited (audited : Audited db) {generation : AiGeneration} (stored : generation ∈ db.aiGenerations.rows)
    (standing : generation.status ≠ .failed) : failureAudits generation.id db = 0 := by
  by_contra some
  obtain ⟨other, present, named, failed⟩ := audited.failed _ (Nat.pos_of_ne_zero some)
  have same : other = generation :=
    db.aiGenerations.eq_of_clash present stored (by simp [Indexed.clash, Indexed.index, named])
  exact standing (same ▸ failed)

theorem Audited.step (audited : Audited db) (settles : Settles db next) (matched : Matched db next) : Audited next := by
  obtain ⟨added, appended, announced⟩ := matched
  have counted (aiGenerationId : String) : failureAudits aiGenerationId next =
      failureAudits aiGenerationId db + added.countP (isFailureAudit aiGenerationId) := by
    rw [failureAudits, appended, List.countP_append]
    rfl
  -- a transaction that adds a row for the generation adds that row only, and finds it pending
  have fresh (aiGenerationId : String) (some : 0 < added.countP (isFailureAudit aiGenerationId)) :
      added.countP (isFailureAudit aiGenerationId) ≤ 1 ∧ Fails aiGenerationId db next := by
    obtain ⟨row, member, failing⟩ := List.countP_pos_iff.mp some
    obtain ⟨action, target⟩ := Bool.and_eq_true_iff.mp failing
    obtain ⟨single, named, about, fails⟩ := announced row member (of_decide_eq_true action)
    have same : named = aiGenerationId := Option.some.inj (about.symm.trans (beq_iff_eq.mp target))
    rw [single]
    exact ⟨List.countP_le_length, same ▸ fails⟩
  constructor
  · intro aiGenerationId
    rw [counted]
    rcases Nat.eq_zero_or_pos (added.countP (isFailureAudit aiGenerationId)) with none | some
    · rw [none]
      exact audited.once aiGenerationId
    · obtain ⟨single, ⟨generation, stored, named, waiting⟩, _⟩ := fresh aiGenerationId some
      have before := audited.unaudited stored (by rw [waiting]; decide)
      rw [named] at before
      omega
  · intro aiGenerationId some
    rw [counted] at some
    rcases Nat.eq_zero_or_pos (added.countP (isFailureAudit aiGenerationId)) with none | new
    · obtain ⟨generation, stored, named, failed⟩ := audited.failed aiGenerationId (by omega)
      exact ⟨generation, settles generation stored (by rw [failed]; decide), named, failed⟩
    · exact (fresh aiGenerationId new).2.2

theorem audited_run (audited : Audited origin.db) (every : origin.tasks.Every (OfJob context))
    (reach : (machine context).Reach (fun world label => refusesPending world label = true) origin last) :
    last.tasks.Every (OfJob context) ∧ Audited last.db := by
  induction reach with
  | origin => exact ⟨every, audited⟩
  | step earlier timely moved ih =>
    obtain ⟨every, settles, matched⟩ := step_matched ih.1 timely moved
    exact ⟨every, ih.2.step settles matched⟩

/-- In every interleaving of passes that refuse a generation for good only while it is pending, each
failure audit is of the generation that its own transaction fails: there is at most one for a
generation, and none for a completed one. -/
theorem failure_audits_match (unaudited : ∀ row ∈ origin.db.auditLogs, row.action ∉ failureActions)
    (idle : origin.tasks = [])
    (reach : (machine context).Reach (fun world label => refusesPending world label = true) origin last) :
    (∀ label after, refusesPending last label = true → (machine context).step last label = some after →
      Matched last.db after.db) ∧
    (∀ aiGenerationId, failureAudits aiGenerationId last.db ≤ 1) ∧
    ∀ generation ∈ last.db.aiGenerations.rows, generation.status = .completed →
      failureAudits generation.id last.db = 0 := by
  have none (aiGenerationId : String) : failureAudits aiGenerationId origin.db = 0 := by
    rw [failureAudits, List.countP_eq_zero]
    intro row member
    simp [isFailureAudit, unaudited row member]
  have start : Audited origin.db := {
    once := fun aiGenerationId => by
      rw [none]
      exact Nat.zero_le 1
    failed := fun aiGenerationId some => by
      rw [none] at some
      cases some }
  obtain ⟨every, audited⟩ := audited_run start (fun _ member => by simp [idle] at member) reach
  refine ⟨fun label after timely moved => (step_matched every timely moved).2.2, audited.once, ?_⟩
  intro generation stored completed
  exact audited.unaudited stored (by rw [completed]; decide)

end Runs

section TwoAnswers

def refused (error : AiProviderError) : Choice where
  now := 5
  date := 5
  provider := .error (.provider error)

/-- Both passes have picked the generation up. -/
def pickedTwice : List Label := [.deliver raceJob, .deliver raceJob, .act 0 {}, .act 1 {}]

/-- One pass is refused and the generation is failed; the other crashes. -/
def refusedOnce : List Label :=
  pickedTwice ++ List.replicate 3 (.act 0 (refused ⟨.contentBlocked, "blocked"⟩)) ++ [.crash 1]

/-- One pass completes; then the other is refused. -/
def completedAndRefused : List Label :=
  pickedTwice ++ List.replicate 6 (.act 0 (answers "text")) ++
    List.replicate 3 (.act 1 (refused ⟨.contentBlocked, "blocked"⟩))

def passed? (check : World → Label → Bool) (labels : List Label) : Option World :=
  (machine raceContext).runWhere check ⟨oneGeneration, []⟩ labels

theorem refused_once : (passed? refusesPending refusedOnce).isSome = true := by decide

theorem completed_and_refused : (passed? (fun _ label => workersAudit label) completedAndRefused).isSome = true := by
  decide

theorem failure_audits_match_refused_once : ∃ last, passed? refusesPending refusedOnce = some last ∧
    failureAudits "g" last.db = 1 ∧
    (∀ label after, refusesPending last label = true → (machine raceContext).step last label = some after →
      Matched last.db after.db) ∧
    (∀ aiGenerationId, failureAudits aiGenerationId last.db ≤ 1) ∧
    ∀ generation ∈ last.db.aiGenerations.rows, generation.status = .completed →
      failureAudits generation.id last.db = 0 :=
  ⟨_, (Option.some_get refused_once).symm, by decide,
    failure_audits_match (by simp [oneGeneration]) rfl (Machine.reach_get refused_once)⟩

/-- The completed generation has a failure audit. -/
theorem completed_generation_audited_as_failed :
    ¬∀ (context : WorkerContext) (origin last : World), (∀ row ∈ origin.db.auditLogs, row.action ∉ failureActions) →
      origin.tasks = [] → (machine context).Reach (fun _ label => workersAudit label = true) origin last →
      ∀ generation ∈ last.db.aiGenerations.rows, generation.status = .completed →
        failureAudits generation.id last.db = 0 := by
  intro claim
  have none := claim raceContext ⟨oneGeneration, []⟩ _ (by simp [oneGeneration]) rfl (Machine.reach_get completed_and_refused)
  revert none
  decide

end TwoAnswers

end WinBack.Generation
