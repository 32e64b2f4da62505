import WinBack.Dispatch.Ownership
import WinBack.Dispatch.Consistent

/-! Orphaned targets. Neither arm of the sweep selects a pending target, so it lives
on its jobs alone: a job that is given up while its target is pending loses it.
Runs that never do so keep every pending target attended by a job. -/

namespace WinBack.Dispatch

open Library CampaignRepository

/-- A job that the queue still delivers or redelivers. -/
def Job.unexhausted (job : Job) : Prop := job.state ≠ .completed ∧ job.state ≠ .failed

def Covered (world : World) (target : CampaignTarget) : Prop :=
  ∃ job ∈ world.backend.jobs, job.payload.messageId = target.messageId ∧
    job.payload.merchantId = target.merchantId ∧ job.unexhausted

/-- The next tick of the sweep selects the target in one of its two arms. -/
def SelectedBySweep (db : Db) (target : CampaignTarget) : Prop :=
  target.merchantId ∈ DispatchSweep.liveMerchants db ∧
    ((∃ draft ∈ findDispatchableDrafts db target.merchantId, draft.messageId = target.messageId) ∨
      ∃ deferred ∈ findDeferredTargets db target.merchantId, deferred.messageId = target.messageId)

/-- Every unfinished target of a live merchant is covered by a job or selected by the sweep. -/
def NoOrphan (world : World) : Prop :=
  ∀ target ∈ world.backend.db.campaignTargets.rows,
    target.status = .pending ∨ target.status = .deferred →
    target.merchantId ∈ DispatchSweep.liveMerchants world.backend.db →
    Covered world target ∨ SelectedBySweep world.backend.db target

instance (job : Job) : Decidable job.unexhausted := inferInstanceAs (Decidable (_ ∧ _))

instance (world : World) (target : CampaignTarget) : Decidable (Covered world target) :=
  inferInstanceAs (Decidable (∃ job ∈ world.backend.jobs, job.payload.messageId = target.messageId ∧
    job.payload.merchantId = target.merchantId ∧ job.unexhausted))

instance (db : Db) (target : CampaignTarget) : Decidable (SelectedBySweep db target) :=
  inferInstanceAs (Decidable (_ ∧ ((∃ draft ∈ findDispatchableDrafts db target.merchantId,
    draft.messageId = target.messageId) ∨
      ∃ deferred ∈ findDeferredTargets db target.merchantId, deferred.messageId = target.messageId)))

instance (world : World) : Decidable (NoOrphan world) :=
  inferInstanceAs (Decidable (∀ target ∈ world.backend.db.campaignTargets.rows,
    target.status = .pending ∨ target.status = .deferred →
    target.merchantId ∈ DispatchSweep.liveMerchants world.backend.db →
    Covered world target ∨ SelectedBySweep world.backend.db target))

/-- Stages of a pass that still has to deal with its pending target. -/
def engagedStages : List Stage := [.fresh, .claimed, .opened, .failing]

/-- The task is a pass of the job that still has to deal with its target. -/
def working (index : Nat) (job : Job) (task : DispatchTask) : Bool :=
  task.tag == .pass index &&
    match task.phase with
    | .pass payload stage => payload == job.payload && engagedStages.contains stage
    | .sweep _ => false

/-- The job waits, its pass has died, or its pass is at work. -/
def tended (world : World) (index : Nat) (job : Job) : Bool :=
  match job.state with
  | .waiting => true
  | .active slot => decide (slot < world.tasks.length) && (world.tasks.task? slot).all (working index job)
  | .completed | .failed => false

def attendedBy (world : World) (index : Nat) (messageId : MessageId) : Bool :=
  world.backend.jobs[index]?.any fun job => job.payload.messageId == messageId && tended world index job

def Attended (world : World) (messageId : MessageId) : Prop :=
  ∃ index, attendedBy world index messageId = true

def attendedBesides (world : World) (index : Nat) (messageId : MessageId) : Bool :=
  (List.range world.backend.jobs.length).any fun other => other != index && attendedBy world other messageId

/-- The job can be given up: its target is not pending, or another job attends to it. -/
def expendable (world : World) (index : Nat) : Bool :=
  world.backend.jobs[index]?.all fun job =>
    targetStatus world.backend.db job.payload.messageId != some .pending ||
      attendedBesides world index job.payload.messageId

/-- A pass may make its target pending: it holds its job, or another job attends to the target. -/
def mayOpen (world : World) (slot index : Nat) (messageId : MessageId) : Bool :=
  world.backend.jobs[index]?.any (fun job => job.state == .active slot) ||
    attendedBesides world index messageId

/-- The step loses no pending target. -/
def targetsKept (world : World) : Label → Bool
  | .settle slot =>
    match world.tasks.task? slot with
    | none => true
    | some task =>
      match task.tag, task.outcome? with
      | .pass index, some (.error _) =>
        !(world.backend.jobs[index]?.any fun job => job.state == .active slot && job.retry.state == .failed) ||
          expendable world index
      | _, _ => true
  | .stall index =>
    !(world.backend.jobs[index]?.any fun job => job.stall.state == .failed) || expendable world index
  | .act slot _ =>
    match world.tasks.task? slot with
    | none => true
    | some task =>
      match task.tag, task.pending? with
      | .pass index, some (.claimTarget _ args) =>
        (targetStatus world.backend.db args.messageId).isSome || mayOpen world slot index args.messageId
      | .pass index, some (.revertToPending scope messageId) =>
        !world.backend.db.campaignTargets.any (targetFilter scope messageId [.sending]) ||
          mayOpen world slot index messageId
      | .pass _, some (.query (.loadDispatchContext messageId)) =>
        targetStatus world.backend.db messageId != some .pending ||
          (loadDispatchContext world.backend.db messageId).isSome
      | _, _ => true
  | _ => true

/-- The tag of a task names its job, and the phase the job's payload. -/
def Tagged (jobs : List Job) (task : DispatchTask) : Prop :=
  match task.tag with
  | .pass index => ∃ job stage, jobs[index]? = some job ∧ task.phase = .pass job.payload stage
  | .sweep => ∃ stage, task.phase = .sweep stage

/-- Jobs keep their places and payloads. -/
def JobsKept (before after : List Job) : Prop :=
  ∀ (index : Nat) (job : Job), before[index]? = some job →
    ∃ later : Job, after[index]? = some later ∧ later.payload = job.payload

/-- An idle subsystem in which every pending target has its job waiting. -/
structure Start (world : World) : Prop where
  tasks : world.tasks = []
  targets : TargetsOwned world.backend.db
  jobs : ∀ job ∈ world.backend.jobs, Owned world.backend.db job.payload
  waiting : ∀ messageId, targetStatus world.backend.db messageId = some .pending →
    ∃ job ∈ world.backend.jobs, job.payload.messageId = messageId ∧ job.state = .waiting

structure Watched (world : World) : Prop where
  disciplined : world.tasks.Every Disciplined
  consistent : Consistent world
  tagged : world.tasks.Every (Tagged world.backend.jobs)
  attended : ∀ messageId, targetStatus world.backend.db messageId = some .pending →
    Attended world messageId

variable {context : DrainerContext} {origin world next final : World} {label : Label}
  {messageId : MessageId} {index : Nat}

theorem attendedBy_iff :
    attendedBy world index messageId = true ↔
      ∃ job, world.backend.jobs[index]? = some job ∧ job.payload.messageId = messageId ∧
        tended world index job = true := by
  simp only [attendedBy, Option.any_eq_true, Bool.and_eq_true, beq_iff_eq]

theorem working_iff {job : Job} {task : DispatchTask} :
    working index job task = true ↔
      task.tag = .pass index ∧ ∃ stage ∈ engagedStages, task.phase = .pass job.payload stage := by
  unfold working
  split
  · rename_i payload stage phase
    rw [phase]
    simp only [Bool.and_eq_true, beq_iff_eq, List.contains_iff_mem, Phase.pass.injEq]
    constructor
    · rintro ⟨tag, rfl, engaged⟩
      exact ⟨tag, stage, engaged, rfl, rfl⟩
    · rintro ⟨tag, _, engaged, rfl, rfl⟩
      exact ⟨tag, rfl, engaged⟩
  · rename_i stage phase
    simp [phase]

theorem attendedBesides_iff :
    attendedBesides world index messageId = true ↔
      ∃ other, other ≠ index ∧ attendedBy world other messageId = true := by
  simp only [attendedBesides, List.any_eq_true, List.mem_range, Bool.and_eq_true, bne_iff_ne]
  constructor
  · rintro ⟨other, _, apart, attended⟩
    exact ⟨other, apart, attended⟩
  · rintro ⟨other, apart, attended⟩
    obtain ⟨job, found, _⟩ := attendedBy_iff.mp attended
    exact ⟨other, (List.getElem?_eq_some_iff.mp found).1, apart, attended⟩

/-- The frame lemma: a job goes on attending when it is unchanged and the slot of its
pass is unchanged, emptied, or was another task's. -/
theorem attendedBy_frame (same : next.backend.jobs[index]? = world.backend.jobs[index]?)
    (grows : world.tasks.length ≤ next.tasks.length)
    (slots : ∀ job slot, world.backend.jobs[index]? = some job → job.state = .active slot →
      slot < world.tasks.length → next.tasks.task? slot = world.tasks.task? slot ∨
        next.tasks.task? slot = none ∨
        ∃ task, world.tasks.task? slot = some task ∧ task.tag ≠ .pass index)
    (attended : attendedBy world index messageId = true) : attendedBy next index messageId = true := by
  obtain ⟨job, found, named, tends⟩ := attendedBy_iff.mp attended
  refine attendedBy_iff.mpr ⟨job, same.trans found, named, ?_⟩
  unfold tended at tends ⊢
  cases state : job.state with
  | waiting => rfl
  | active slot =>
    rw [state] at tends
    simp only [Bool.and_eq_true, decide_eq_true_eq] at tends ⊢
    obtain ⟨inside, works⟩ := tends
    refine ⟨by omega, ?_⟩
    rcases slots job slot found state inside with kept | emptied | ⟨task, live, foreign⟩
    · rw [kept]
      exact works
    · simp [emptied]
    · rw [live, Option.all_some] at works
      exact absurd (working_iff.mp works).1 foreign
  | completed | failed => simp [state] at tends

/-- Emptying a slot takes no job's attention away. -/
theorem attendedBy_clear {slot : Nat} (same : next.backend.jobs[index]? = world.backend.jobs[index]?)
    (tasks : next.tasks = world.tasks.clear slot) (attended : attendedBy world index messageId = true) :
    attendedBy next index messageId = true := by
  refine attendedBy_frame same (by rw [tasks, Pool.length_clear]) ?_ attended
  intro job other _ _ _
  rw [tasks]
  by_cases here : slot = other
  · exact .inr (.inl (here ▸ Pool.task?_clear world.tasks slot))
  · exact .inl (Pool.task?_clear_other here)

theorem attendedBy_spawn {task : DispatchTask}
    (same : next.backend.jobs[index]? = world.backend.jobs[index]?)
    (tasks : next.tasks = world.tasks.spawn task) (attended : attendedBy world index messageId = true) :
    attendedBy next index messageId = true := by
  refine attendedBy_frame same (by simp [tasks]) ?_ attended
  intro job slot _ _ inside
  rw [tasks]
  exact .inl (Pool.task?_spawn_lt inside)

/-- A task of another role acts. -/
theorem attendedBy_put {slot : Nat} {task after : DispatchTask}
    (same : next.backend.jobs[index]? = world.backend.jobs[index]?)
    (live : world.tasks.task? slot = some task) (foreign : task.tag ≠ .pass index)
    (tasks : next.tasks = world.tasks.put slot after) (attended : attendedBy world index messageId = true) :
    attendedBy next index messageId = true := by
  refine attendedBy_frame same (by rw [tasks, Pool.length_put]) ?_ attended
  intro job other _ _ _
  rw [tasks]
  by_cases here : slot = other
  · exact .inr (.inr ⟨task, here ▸ live, foreign⟩)
  · exact .inl (Pool.task?_put_other here)

/-- The job's own pass acts and goes on working. -/
theorem attendedBy_work {slot : Nat} {task after : DispatchTask} {job : Job}
    (found : world.backend.jobs[index]? = some job) (jobs : next.backend.jobs = world.backend.jobs)
    (live : world.tasks.task? slot = some task) (tasks : next.tasks = world.tasks.put slot after)
    (works : job.state = .active slot → working index job after = true)
    (attended : attendedBy world index messageId = true) : attendedBy next index messageId = true := by
  have inside := Pool.task?_lt live
  obtain ⟨same, present, named, tends⟩ := attendedBy_iff.mp attended
  cases found.symm.trans present
  by_cases active : job.state = .active slot
  · refine attendedBy_iff.mpr ⟨job, jobs ▸ found, named, ?_⟩
    simp [tended, active, tasks, Pool.task?_put inside, inside, works active]
  · refine attendedBy_frame (by rw [jobs]) (by rw [tasks, Pool.length_put]) ?_ attended
    intro other away present state _
    cases found.symm.trans present
    rw [tasks]
    exact .inl (Pool.task?_put_other fun here => active (here ▸ state))

theorem Tagged.mono {before after : List Job} {task : DispatchTask} (tagged : Tagged before task)
    (kept : JobsKept before after) : Tagged after task := by
  unfold Tagged at tagged ⊢
  split
  · rename_i index tag
    rw [tag] at tagged
    obtain ⟨job, stage, found, phase⟩ := tagged
    obtain ⟨later, present, same⟩ := kept index job found
    exact ⟨later, stage, present, same ▸ phase⟩
  · rename_i tag
    rwa [tag] at tagged

theorem Tagged.pass {jobs : List Job} {task : DispatchTask} {payload : CampaignDispatchJobPayload}
    {stage : Stage} (tagged : Tagged jobs task) (phase : task.phase = .pass payload stage) :
    ∃ index job, task.tag = .pass index ∧ jobs[index]? = some job ∧ job.payload = payload := by
  unfold Tagged at tagged
  split at tagged
  · rename_i index tag
    obtain ⟨job, other, found, same⟩ := tagged
    cases phase.symm.trans same
    exact ⟨index, job, tag, found, rfl⟩
  · obtain ⟨other, same⟩ := tagged
    cases phase.symm.trans same

theorem Tagged.sweep {jobs : List Job} {task : DispatchTask} {stage : SweepStage}
    (tagged : Tagged jobs task) (phase : task.phase = .sweep stage) : task.tag = .sweep := by
  unfold Tagged at tagged
  split at tagged
  · obtain ⟨job, other, found, same⟩ := tagged
    cases phase.symm.trans same
  · assumption

theorem JobsKept.modify {jobs : List Job} {place : Nat} {change : Job → Job}
    (keeps : ∀ job, (change job).payload = job.payload) : JobsKept jobs (jobs.modify place change) := by
  intro index job found
  rw [List.getElem?_modify, found]
  by_cases here : place = index
  · exact ⟨change job, by simp [here], keeps job⟩
  · exact ⟨job, by simp [here], rfl⟩

theorem JobsKept.append {jobs added : List Job} : JobsKept jobs (jobs ++ added) := by
  intro index job found
  refine ⟨job, ?_, rfl⟩
  rw [List.getElem?_append_left (List.getElem?_eq_some_iff.mp found).1, found]

theorem jobs_modify_other {jobs : List Job} {place : Nat} {change : Job → Job} (apart : index ≠ place) :
    (jobs.modify place change)[index]? = jobs[index]? := by
  simp [Ne.symm apart]

/-- Tags stay right. -/
theorem tagged_step (tagged : world.tasks.Every (Tagged world.backend.jobs))
    (every : world.tasks.Every Disciplined) (moved : (machine context).step world label = some next) :
    next.tasks.Every (Tagged next.backend.jobs) := by
  have keep {jobs : List Job} (kept : JobsKept world.backend.jobs jobs) :
      world.tasks.Every (Tagged jobs) := fun task member => Tagged.mono (tagged task member) kept
  cases step_cases moved with
  | delivered found waiting same =>
    subst same
    rename_i index job
    have started : JobsKept world.backend.jobs (world.backend.jobs.modify index fun job =>
        { job with state := .active world.tasks.length }) := .modify fun _ => rfl
    refine (keep started).spawn ?_
    obtain ⟨later, present, same⟩ := started index job found
    exact ⟨later, .fresh, present, by rw [same]⟩
  | ticked same =>
    subst same
    exact tagged.spawn ⟨.idle, rfl⟩
  | acted live advanced tasks =>
    obtain ⟨acted, tag⟩ := acted_of_advance (every.get live) advanced
    have own := tagged.get live
    cases acted with
    | passed phase pending allowed afterPhase effect =>
      obtain ⟨index, job, role, found, same⟩ := own.pass phase
      rw [tasks, effect.jobs]
      refine tagged.put ?_
      unfold Tagged
      rw [tag, role]
      exact ⟨job, _, found, same ▸ afterPhase⟩
    | swept phase afterPhase effect =>
      obtain ⟨added, jobs⟩ := effect.jobs
      rw [tasks, jobs]
      refine (keep .append).put ?_
      unfold Tagged
      rw [tag, own.sweep phase]
      exact ⟨_, afterPhase⟩
  | settled live tag ended same =>
    subst same
    exact (keep (.modify (settle_payload _ _))).clear
  | swept live tag same | crashed live same =>
    subst same
    exact tagged.clear
  | stalled found active same =>
    subst same
    exact keep (.modify stall_payload)
  | written same | drafted draft inserted same =>
    subst same
    exact tagged

/-- A call of an engaged pass on its pending target leaves it engaged, as long as
the target stays pending and its context can be loaded. -/
theorem engaged_of_effect {payload : CampaignDispatchJobPayload} {request : Call} {choice : Choice}
    {before after : Backend} {stage reached : Stage}
    (effect : PassEffect payload request choice before after stage reached)
    (engaged : stage ∈ engagedStages)
    (pending : targetStatus before.db payload.messageId = some .pending)
    (owned : targetMerchant before.db payload.messageId = some payload.merchantId)
    (loads : stage = .claimed → loadDispatchContext before.db payload.messageId ≠ none)
    (still : targetStatus after.db payload.messageId = some .pending) : reached ∈ engagedStages := by
  cases effect with
  | idle unmoved idling =>
    cases idling with
    | stay => exact engaged
    | claimed | opened | fail => simp [engagedStages]
    | unloaded missing => exact absurd missing (loads rfl)
    | leave missed =>
      obtain ⟨target, member, named, status⟩ := targetStatus_eq_some_iff.mp pending
      have owner : target.merchantId = payload.merchantId := by
        have same := targetMerchant_of_mem member
        rw [named, owned] at same
        exact (Option.some.inj same).symm
      exact absurd (by simp [status]) (missed target member named owner)
  | move effect =>
    cases effect with
    | claim silent onto absent statuses merchants messages => simp [absent] at pending
    | suppress call onto moved | postpone onto moved | start onto moved =>
      simp [moved.moves.reached] at still
    | send record possible decided db jobs sends onto | complete moved | revert moved
    | reject status onto moved => simp [engagedStages] at engaged

/-- What the condition says about a claim or a revert that hits. -/
theorem mayOpen_of_claim {slot : Nat} {choice : Choice} {task : DispatchTask} {scope : MerchantId}
    {args : ClaimTargetArgs} (permitted : targetsKept world (.act slot choice) = true)
    (live : world.tasks.task? slot = some task) (tag : task.tag = .pass index)
    (pending : task.pending? = some (.claimTarget scope args))
    (absent : targetStatus world.backend.db args.messageId = none) :
    mayOpen world slot index args.messageId = true := by
  simpa [targetsKept, live, tag, pending, absent] using permitted

theorem mayOpen_of_revert {slot : Nat} {choice : Choice} {task : DispatchTask} {scope : MerchantId}
    {target : CampaignTarget} (permitted : targetsKept world (.act slot choice) = true)
    (live : world.tasks.task? slot = some task) (tag : task.tag = .pass index)
    (pending : task.pending? = some (.revertToPending scope messageId))
    (member : target ∈ world.backend.db.campaignTargets.rows)
    (hit : targetFilter scope messageId [.sending] target = true) :
    mayOpen world slot index messageId = true := by
  have hits : world.backend.db.campaignTargets.any (targetFilter scope messageId [.sending]) = true :=
    List.any_eq_true.mpr ⟨target, member, hit⟩
  simpa [targetsKept, live, tag, pending, hits] using permitted

theorem loads_of_permitted {slot : Nat} {choice : Choice} {task : DispatchTask}
    (permitted : targetsKept world (.act slot choice) = true)
    (live : world.tasks.task? slot = some task) (tag : task.tag = .pass index)
    (request : task.pending? = some (.query (.loadDispatchContext messageId)))
    (pending : targetStatus world.backend.db messageId = some .pending) :
    loadDispatchContext world.backend.db messageId ≠ none := by
  have loads : (loadDispatchContext world.backend.db messageId).isSome = true := by
    simpa [targetsKept, live, tag, request, pending] using permitted
  intro missing
  simp [missing] at loads

/-- A job that is given up with its target pending leaves another one attending. -/
theorem besides_of_expendable {job : Job} (spared : expendable world index = true)
    (found : world.backend.jobs[index]? = some job)
    (pending : targetStatus world.backend.db job.payload.messageId = some .pending) :
    ∃ other, other ≠ index ∧ attendedBy world other job.payload.messageId = true := by
  refine attendedBesides_iff.mp ?_
  simpa [expendable, found, pending] using spared

/-- A pass that makes its target pending leaves it attended. -/
private theorem attended_opened {slot : Nat} {task after : DispatchTask} {job : Job} {reached : Stage}
    (live : world.tasks.task? slot = some task) (tag : task.tag = .pass index)
    (found : world.backend.jobs[index]? = some job) (jobs : next.backend.jobs = world.backend.jobs)
    (afterPhase : after.phase = .pass job.payload reached) (afterTag : after.tag = task.tag)
    (tasks : next.tasks = world.tasks.put slot after) (opened : reached ∈ engagedStages)
    (may : mayOpen world slot index job.payload.messageId = true) :
    Attended next job.payload.messageId := by
  rcases Bool.or_eq_true_iff.mp may with holds | besides
  · have active : job.state = .active slot := by simpa [found] using holds
    refine ⟨index, attendedBy_iff.mpr ⟨job, jobs ▸ found, rfl, ?_⟩⟩
    have inside := Pool.task?_lt live
    have works : working index job after = true :=
      working_iff.mpr ⟨afterTag.trans tag, reached, opened, afterPhase⟩
    simp [tended, active, tasks, Pool.task?_put inside, inside, works]
  · obtain ⟨other, apart, attended⟩ := attendedBesides_iff.mp besides
    refine ⟨other, attendedBy_put (by rw [jobs]) live ?_ tasks attended⟩
    rw [tag]
    exact fun same => apart (Role.pass.inj same).symm

section Passed

variable {slot : Nat} {choice : Choice} {task after : DispatchTask} {job : Job} {stage reached : Stage}
  {request : Call} (watched : Watched world) (permitted : targetsKept world (.act slot choice) = true)
  (live : world.tasks.task? slot = some task) (tag : task.tag = .pass index)
  (found : world.backend.jobs[index]? = some job) (phase : task.phase = .pass job.payload stage)
  (pending : task.pending? = some request) (allowed : stage.allows job.payload request)
  (afterPhase : after.phase = .pass job.payload reached) (afterTag : after.tag = task.tag)
  (effect : PassEffect job.payload request choice world.backend next.backend stage reached)
  (tasks : next.tasks = world.tasks.put slot after)
include watched permitted live tag found phase pending allowed afterPhase afterTag effect tasks

/-- A pending target that was attended is attended after a call of a pass. -/
private theorem attended_kept (still : targetStatus next.backend.db messageId = some .pending)
    (before : targetStatus world.backend.db messageId = some .pending) : Attended next messageId := by
  obtain ⟨place, attended⟩ := watched.attended messageId before
  by_cases own : place = index
  · subst own
    obtain ⟨same, there, named, tends⟩ := attendedBy_iff.mp attended
    cases found.symm.trans there
    subst named
    refine ⟨place, attendedBy_work found effect.jobs live tasks (fun active => ?_) attended⟩
    have engaged : stage ∈ engagedStages := by
      simp only [tended, active, live, Option.all_some, Bool.and_eq_true, decide_eq_true_eq] at tends
      obtain ⟨_, other, engaged, held⟩ := working_iff.mp tends.2
      cases phase.symm.trans held
      exact engaged
    have owned : targetMerchant world.backend.db job.payload.messageId = some job.payload.merchantId := by
      obtain ⟨target, member, named, _⟩ := targetStatus_eq_some_iff.mp before
      have owner := named ▸ targetMerchant_of_mem member
      have message := watched.consistent.targets _ _ owner
      have queued := watched.consistent.jobs job (List.mem_of_getElem? found)
      rw [owner, ← message]
      exact queued
    refine working_iff.mpr ⟨afterTag.trans tag, reached, ?_, afterPhase⟩
    refine engaged_of_effect effect engaged before owned (fun claimed => ?_) still
    subst claimed
    cases request with
    | query read =>
      cases allowed
      exact loads_of_permitted permitted live tag pending before
    | _ => exact False.elim allowed
  · refine ⟨place, attendedBy_put (by rw [effect.jobs]) live ?_ tasks attended⟩
    rw [tag]
    exact fun same => own (Role.pass.inj same).symm

/-- The step lemma for a call of a pass. -/
private theorem attended_passed (still : targetStatus next.backend.db messageId = some .pending) :
    Attended next messageId := by
  by_cases before : targetStatus world.backend.db messageId = some .pending
  · exact attended_kept watched permitted live tag found phase pending allowed afterPhase afterTag
      effect tasks still before
  · have opens (named : job.payload.messageId = messageId) (opened : reached ∈ engagedStages)
        (may : mayOpen world slot index job.payload.messageId = true) : Attended next messageId :=
      named ▸ attended_opened live tag found effect.jobs afterPhase afterTag tasks opened may
    cases effect with
    | idle unmoved idling =>
      rw [targetStatus_congr unmoved.targets] at still
      exact absurd still before
    | move effect =>
      by_cases named : job.payload.messageId = messageId
      · cases effect with
        | claim silent onto absent statuses merchants messages =>
          refine opens named (by rcases onto with rfl | rfl <;> simp [engagedStages]) ?_
          cases request with
          | claimTarget scope args =>
            obtain ⟨rfl, rfl⟩ := allowed
            exact mayOpen_of_claim permitted live tag pending absent
          | _ => exact False.elim allowed
        | revert moved =>
          refine opens named (by simp [engagedStages]) ?_
          obtain ⟨target, member, parts⟩ := moved.moves.held
          cases request with
          | revertToPending scope other =>
            obtain ⟨rfl, rfl⟩ := allowed
            exact mayOpen_of_revert permitted live tag pending member (targetFilter_iff.mpr parts)
          | _ => exact False.elim allowed
        | suppress call onto moved | postpone onto moved | start onto moved | complete moved =>
          rw [← named, moved.moves.reached] at still
          cases still
        | reject status onto moved =>
          rw [← named, moved.moves.reached] at still
          cases status <;> cases still
        | send record possible decided db jobs sends onto =>
          rw [db] at still
          exact absurd still before
      · rw [(effect.elsewhere named).1] at still
        exact absurd still before

end Passed

/-- A step that changes no target leaves a target attended when it leaves its job attending. -/
private theorem attended_of_jobs (watched : Watched world)
    (targets : next.backend.db.campaignTargets = world.backend.db.campaignTargets)
    (keeps : ∀ index messageId, targetStatus world.backend.db messageId = some .pending →
      attendedBy world index messageId = true → Attended next messageId)
    (messageId : MessageId) (still : targetStatus next.backend.db messageId = some .pending) :
    Attended next messageId := by
  rw [targetStatus_congr targets] at still
  obtain ⟨index, attended⟩ := watched.attended messageId still
  exact keeps index messageId still attended

/-- A job that the queue delivers is attended by its fresh pass. -/
private theorem attended_delivered {place : Nat} {job : Job} {task : DispatchTask}
    (found : world.backend.jobs[place]? = some job) (tag : task.tag = .pass place)
    (phase : task.phase = .pass job.payload .fresh)
    (jobs : next.backend.jobs = world.backend.jobs.modify place fun job =>
      { job with state := .active world.tasks.length })
    (tasks : next.tasks = world.tasks.spawn task) (attended : attendedBy world index messageId = true) :
    Attended next messageId := by
  by_cases own : index = place
  · subst own
    obtain ⟨same, there, named, _⟩ := attendedBy_iff.mp attended
    cases found.symm.trans there
    refine ⟨index, attendedBy_iff.mpr ⟨{ job with state := .active world.tasks.length }, ?_, named, ?_⟩⟩
    · simp [jobs, found]
    · have works : working index { job with state := .active world.tasks.length } task = true :=
        working_iff.mpr ⟨tag, .fresh, by simp [engagedStages], phase⟩
      simp [tended, tasks, Pool.task?_spawn_last, works]
  · exact ⟨index, attendedBy_spawn (by rw [jobs, jobs_modify_other own]) tasks attended⟩

/-- A settled job was not attending, waits again, or was expendable. -/
private theorem attended_settled {slot place : Nat} {task : DispatchTask} {outcome : Except Thrown Unit}
    (watched : Watched world) (permitted : targetsKept world (.settle slot) = true)
    (live : world.tasks.task? slot = some task) (tag : task.tag = .pass place)
    (ended : task.outcome? = some outcome)
    (jobs : next.backend.jobs = world.backend.jobs.modify place (Job.settle slot outcome))
    (tasks : next.tasks = world.tasks.clear slot)
    (pending : targetStatus world.backend.db messageId = some .pending)
    (attended : attendedBy world index messageId = true) : Attended next messageId := by
  by_cases own : index = place
  · subst own
    obtain ⟨job, found, named, tends⟩ := attendedBy_iff.mp attended
    have settled : next.backend.jobs[index]? = some (job.settle slot outcome) := by
      simp [jobs, found]
    by_cases active : job.state = .active slot
    · simp only [tended, active, live, Option.all_some, Bool.and_eq_true, decide_eq_true_eq] at tends
      obtain ⟨_, stage, engaged, phase⟩ := working_iff.mp tends.2
      have ends := (watched.disciplined.get live).ended phase ended
      cases outcome with
      | ok result =>
        -- a pass that returns has left its target or sent its message
        rw [phase] at ends
        rcases ends with same | same <;> cases same <;> simp [engagedStages] at engaged
      | error error =>
        by_cases exhausted : job.retry.state = .failed
        · have spared : expendable world index = true := by
            simpa [targetsKept, live, tag, ended, found, active, exhausted] using permitted
          obtain ⟨other, apart, attends⟩ := besides_of_expendable spared found (named ▸ pending)
          exact ⟨other, attendedBy_clear (by rw [jobs, jobs_modify_other apart]) tasks (named ▸ attends)⟩
        · have waits : job.retry.state = .waiting := by
            revert exhausted
            unfold Job.retry
            split <;> simp
          have retries : job.settle slot (.error error) = job.retry := by simp [Job.settle, active]
          refine ⟨index, attendedBy_iff.mpr ⟨job.retry, by rw [settled, retries], ?_, ?_⟩⟩
          · rw [retry_payload, named]
          · simp [tended, waits]
    · have same : job.settle slot outcome = job := by simp [Job.settle, active]
      exact ⟨index, attendedBy_clear (by rw [settled, same, found]) tasks attended⟩
  · exact ⟨index, attendedBy_clear (by rw [jobs, jobs_modify_other own]) tasks attended⟩

/-- A stalled job waits again, or was expendable. -/
private theorem attended_stalled {place : Nat} (permitted : targetsKept world (.stall place) = true)
    (jobs : next.backend.jobs = world.backend.jobs.modify place Job.stall)
    (tasks : next.tasks = world.tasks)
    (pending : targetStatus world.backend.db messageId = some .pending)
    (attended : attendedBy world index messageId = true) : Attended next messageId := by
  have others {other : Nat} (apart : other ≠ place) (attends : attendedBy world other messageId = true) :
      attendedBy next other messageId = true := by
    refine attendedBy_frame (by rw [jobs, jobs_modify_other apart]) (by rw [tasks]) ?_ attends
    intro job slot _ _ _
    exact .inl (by rw [tasks])
  by_cases own : index = place
  · subst own
    obtain ⟨job, found, named, _⟩ := attendedBy_iff.mp attended
    by_cases exhausted : job.stall.state = .failed
    · have spared : expendable world index = true := by
        simpa [targetsKept, found, exhausted] using permitted
      obtain ⟨other, apart, attends⟩ := besides_of_expendable spared found (named ▸ pending)
      exact ⟨other, others apart (named ▸ attends)⟩
    · have waits : job.stall.state = .waiting := by
        revert exhausted
        unfold Job.stall
        split <;> simp
      refine ⟨index, attendedBy_iff.mpr ⟨job.stall, by simp [jobs, found], ?_, ?_⟩⟩
      · rw [stall_payload, named]
      · simp [tended, waits]
  · exact ⟨index, others own attended⟩

/-- A sweep makes no target pending. -/
private theorem pending_swept {before after : Backend} {stage reached : SweepStage}
    (effect : SweepEffect before after stage reached)
    (still : targetStatus after.db messageId = some .pending) :
    targetStatus before.db messageId = some .pending := by
  cases effect with
  | stay unmoved | reset unmoved | draft merchantId unmoved | select merchantId drafts unmoved =>
    rwa [targetStatus_congr unmoved.targets] at still
  | enqueue merchantId drafts targets payloads sources queued =>
    rwa [queued] at still
  | resolve merchantId drafts targets target listed onto silent moves =>
    by_cases named : messageId = target.messageId
    · rw [named, moves.reached] at still
      cases still
    · rwa [moves.elsewhere named] at still

/-- The step lemma. -/
theorem Watched.step (watched : Watched world) (permitted : targetsKept world label = true)
    (moved : (machine context).step world label = some next) : Watched next := by
  refine ⟨disciplined_step watched.disciplined moved,
    watched.consistent.step watched.disciplined moved,
    tagged_step watched.tagged watched.disciplined moved, ?_⟩
  cases step_cases moved with
  | delivered found waiting same =>
    subst same
    exact attended_of_jobs watched rfl fun _ _ _ attended =>
      attended_delivered found rfl rfl rfl rfl attended
  | ticked same =>
    refine attended_of_jobs watched (by rw [same]; rfl) fun index _ _ attended => ⟨index, ?_⟩
    exact attendedBy_spawn (by rw [same]; rfl) (by rw [same]; rfl) attended
  | acted live advanced tasks =>
    obtain ⟨acted, afterTag⟩ := acted_of_advance (watched.disciplined.get live) advanced
    have own := watched.tagged.get live
    intro messageId still
    cases acted with
    | passed phase pending allowed afterPhase effect =>
      obtain ⟨index, job, tag, found, rfl⟩ := own.pass phase
      exact attended_passed watched permitted live tag found phase pending allowed afterPhase afterTag
        effect tasks still
    | swept phase afterPhase effect =>
      obtain ⟨index, attended⟩ := watched.attended messageId (pending_swept effect still)
      obtain ⟨job, found, _⟩ := attendedBy_iff.mp attended
      refine ⟨index, attendedBy_put ?_ live ?_ tasks attended⟩
      · obtain ⟨added, jobs⟩ := effect.jobs
        rw [jobs, List.getElem?_append_left (List.getElem?_eq_some_iff.mp found).1]
      · simp [own.sweep phase]
  | settled live tag ended same =>
    subst same
    exact attended_of_jobs watched rfl fun _ _ pending attended =>
      attended_settled watched permitted live tag ended rfl rfl pending attended
  | swept live tag same | crashed live same =>
    refine attended_of_jobs watched (by rw [same]) fun index _ _ attended => ⟨index, ?_⟩
    exact attendedBy_clear (by rw [same]) (by rw [same]) attended
  | stalled found active same =>
    subst same
    exact attended_of_jobs watched rfl fun _ _ pending attended =>
      attended_stalled permitted rfl rfl pending attended
  | written same | drafted draft inserted same =>
    subst same
    exact attended_of_jobs watched rfl fun index _ _ attended => ⟨index, attended⟩

theorem Watched.start (start : Start origin) : Watched origin := by
  have none (task : DispatchTask) : some task ∉ origin.tasks := by simp [start.tasks]
  refine ⟨fun task member => absurd member (none task),
    ⟨start.targets, start.jobs, fun task member => absurd member (none task)⟩,
    fun task member => absurd member (none task), ?_⟩
  intro messageId pending
  obtain ⟨job, member, named, waiting⟩ := start.waiting messageId pending
  obtain ⟨index, found⟩ := List.getElem?_of_mem member
  exact ⟨index, attendedBy_iff.mpr ⟨job, found, named, by simp [tended, waiting]⟩⟩

theorem Watched.noOrphan (watched : Watched world) : NoOrphan world := by
  intro target member unfinished live
  rcases unfinished with pending | deferred
  · obtain ⟨index, attended⟩ := watched.attended target.messageId (pending ▸ targetStatus_of_mem member)
    obtain ⟨job, found, named, tends⟩ := attendedBy_iff.mp attended
    refine .inl ⟨job, List.mem_of_getElem? found, named, ?_, ?_⟩
    · have message := watched.consistent.targets _ _ (targetMerchant_of_mem member)
      have queued : messageMerchant world.backend.db job.payload.messageId = some job.payload.merchantId :=
        watched.consistent.jobs job (List.mem_of_getElem? found)
      rw [named, message] at queued
      exact (Option.some.inj queued).symm
    · constructor <;> intro state <;> simp [tended, state] at tends
  · refine .inr ⟨live, .inr ⟨_, List.mem_map.mpr ⟨target, ?_, rfl⟩, rfl⟩⟩
    simp [member, deferred]

/-- In every run that gives up no job with its target pending, makes no target
pending without a job and can load the context of pending targets, every
unfinished target of a live merchant is covered by a job or selected by the sweep. -/
theorem no_orphan_of_reach (start : Start origin)
    (reach : Machine.Reach (machine context) (fun world label => targetsKept world label = true)
      origin final) : NoOrphan final := by
  refine Watched.noOrphan ?_
  apply reach.invariant (Watched.start start)
  intro middle label next permitted moved watched
  exact watched.step permitted moved

/-- SES throttles the call: a retryable refusal. -/
def throttled : Choice where
  now := 10 * msPerHour
  outcome := .ses (.thrown { errorClass := .tooManyRequests })

/-- The first attempt is throttled and the job waits for its retry. -/
def throttledOnce : List Label :=
  [.tick] ++ acts 0 5 smooth ++ [.settle 0, .deliver 0] ++ acts 1 13 throttled ++ [.settle 1]

/-- All three attempts are throttled. -/
def throttledThrice : List Label :=
  throttledOnce ++ [.deliver 0] ++ acts 2 13 throttled ++ [.settle 2, .deliver 0] ++
    acts 3 13 throttled ++ [.settle 3]

theorem start_oneDraftWorld : Start oneDraftWorld := by
  refine ⟨rfl, ?_, by simp [oneDraftWorld], ?_⟩
  · intro messageId merchantId held
    simp [oneDraftWorld, oneDraft, targetMerchant, Table.find?] at held
  · intro messageId pending
    simp [oneDraftWorld, oneDraft, targetStatus, Table.find?] at pending

theorem throttledOnce_run :
    ((machine utcContext).runWhere targetsKept oneDraftWorld throttledOnce).isSome := by
  decide

def throttledOnceWorld : World :=
  ((machine utcContext).runWhere targetsKept oneDraftWorld throttledOnce).get throttledOnce_run

theorem no_orphan_throttled_once :
    NoOrphan throttledOnceWorld ∧ targetStatus throttledOnceWorld.backend.db "d" = some .pending :=
  ⟨no_orphan_of_reach start_oneDraftWorld (Machine.reach_get throttledOnce_run), by decide⟩

theorem throttledThrice_run :
    ((machine utcContext).runWhere (fun _ _ => true) oneDraftWorld throttledThrice).isSome := by
  decide

def throttledThriceWorld : World :=
  ((machine utcContext).runWhere (fun _ _ => true) oneDraftWorld throttledThrice).get
    throttledThrice_run

theorem orphaned_after_three_attempts :
    ¬∀ context origin final, Start origin →
      Machine.Reach (machine context) (fun _ _ => True) origin final → NoOrphan final := by
  intro claim
  have reach := (Machine.reach_get throttledThrice_run).mono fun _ _ _ => trivial
  have none := claim utcContext oneDraftWorld throttledThriceWorld start_oneDraftWorld reach
  revert none
  decide

end WinBack.Dispatch
