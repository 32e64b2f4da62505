import WinBack.Dispatch.Phases
import WinBack.Library.Pool
import WinBack.Library.Machine

/-! The dispatch subsystem as a machine: jobs are delivered, passes and sweeps make
one call at a time in any order, processes crash between calls, and the queue
retries, redelivers and gives up jobs. -/

namespace WinBack.Dispatch

open Library

/-- `attempts` of a dispatch job. -/
def dispatchJobAttempts : Nat := 3

/-- BullMQ's default `maxStalledCount`. -/
def maxStalledCount : Nat := 1

inductive Role where
  | pass (job : Nat)
  | sweep
  deriving DecidableEq, Repr

abbrev DispatchTask := Task Role Call Call.Value Thrown Phase

structure World where
  backend : Backend
  tasks : Pool DispatchTask := []

/-- One step of the subsystem or of its environment. -/
inductive Label where
  | deliver (job : Nat)                 -- a worker takes a waiting job
  | tick                                -- the scheduler starts a sweep
  | act (slot : Nat) (choice : Choice)  -- a task makes its next call
  | settle (slot : Nat)                 -- a task has returned or thrown
  | crash (slot : Nat)                  -- the process of a task dies
  | stall (job : Nat)                   -- the queue takes an active job for stalled
  | outside (db : Db)                   -- other components write their own tables
  | draft (message : Message)           -- the generation pipeline adds a draft

def Job.retry (job : Job) : Job :=
  if job.attemptsMade + 1 < dispatchJobAttempts then
    { job with attemptsMade := job.attemptsMade + 1, state := .waiting }
  else { job with attemptsMade := job.attemptsMade + 1, state := .failed }

def Job.stall (job : Job) : Job :=
  if job.stalledCount + 1 ≤ maxStalledCount then
    { job with stalledCount := job.stalledCount + 1, state := .waiting }
  else { job with stalledCount := job.stalledCount + 1, state := .failed }

/-- Only the pass that holds the job's lock settles it. -/
def Job.settle (slot : Nat) (outcome : Except Thrown Unit) (job : Job) : Job :=
  if job.state = .active slot then
    match outcome with
    | .ok _ => { job with state := .completed }
    | .error _ => job.retry
  else job

namespace World

def modifyJob (world : World) (index : Nat) (change : Job → Job) : World :=
  { world with backend := { world.backend with jobs := world.backend.jobs.modify index change } }

def deliver (context : DrainerContext) (world : World) (index : Nat) : Option World :=
  match world.backend.jobs[index]? with
  | none => none
  | some job =>
    if job.state = .waiting then
      let started := world.modifyJob index fun job => { job with state := .active world.tasks.length }
      some { started with
        tasks := world.tasks.spawn
          ⟨.pass index, .pass job.payload .fresh, processCampaignDispatchJob context job.payload⟩ }
    else none

def tick (world : World) : World :=
  { world with tasks := world.tasks.spawn ⟨.sweep, .sweep .idle, runDispatchSweep⟩ }

def act (world : World) (slot : Nat) (choice : Choice) : Option World :=
  match world.tasks.task? slot with
  | none => none
  | some task => (task.advance discipline exec world.backend choice).map fun (backend, next) =>
      ⟨backend, world.tasks.put slot next⟩

def settle (world : World) (slot : Nat) : Option World :=
  match world.tasks.task? slot with
  | none => none
  | some task =>
    match task.outcome? with
    | none => none
    | some outcome =>
      let cleared : World := { world with tasks := world.tasks.clear slot }
      match task.tag with
      | .pass index => some (cleared.modifyJob index (Job.settle slot outcome))
      | .sweep => some cleared

def crash (world : World) (slot : Nat) : Option World :=
  match world.tasks.task? slot with
  | none => none
  | some _ => some { world with tasks := world.tasks.clear slot }

def stall (world : World) (index : Nat) : Option World :=
  match world.backend.jobs[index]? with
  | some { state := .active _, .. } => some (world.modifyJob index Job.stall)
  | _ => none

def setDb (world : World) (db : Db) : World := { world with backend := { world.backend with db } }

/-- Other components own every table but targets, messages, quota buckets and the audit log. -/
def outside (world : World) (db : Db) : World :=
  world.setDb { db with
    campaignTargets := world.backend.db.campaignTargets
    messages := world.backend.db.messages
    messageQuotaBuckets := world.backend.db.messageQuotaBuckets
    auditLogs := world.backend.db.auditLogs }

def addDraft (world : World) (message : Message) : Option World :=
  if message.status = .draft then
    (world.backend.db.messages.insert? message).map fun messages =>
      world.setDb { world.backend.db with messages }
  else none

end World

def machine (context : DrainerContext) : Machine World Label where
  step world label :=
    match label with
    | .deliver job => world.deliver context job
    | .tick => some world.tick
    | .act slot choice => world.act slot choice
    | .settle slot => world.settle slot
    | .crash slot => world.crash slot
    | .stall job => world.stall job
    | .outside db => some (world.outside db)
    | .draft message => world.addDraft message

/-- The subsystem before any pass or sweep has run. -/
structure Idle (world : World) : Prop where
  tasks : world.tasks = []
  sends : world.backend.sends = []

/-- A context whose named timezones all print the UTC hour. -/
def utcContext : DrainerContext where
  emailFromAddress := "shop@example.com"
  formatHour _ now := some (utcHour now)

/-- An idle subsystem over the store with one dispatchable draft. -/
def oneDraftWorld : World where
  backend := { db := oneDraft }

/-- `count` calls of a task under the same choice. -/
def acts (slot count : Nat) (choice : Choice) : List Label := List.replicate count (.act slot choice)

/-- 10:00 UTC with every call carried out and SES acknowledging. -/
def smooth : Choice where
  now := 10 * msPerHour
  outcome := .ses (.response (some "ses-1"))
  accepted := true

/-- A task keeps to the discipline of its kind. -/
def Disciplined (task : DispatchTask) : Prop :=
  (∃ payload stage, task.phase = .pass payload stage ∧ task.Follows discipline (Ended payload)) ∨
    ∃ stage, task.phase = .sweep stage ∧
      task.Follows discipline fun reached _ => ∃ stage, reached = .sweep stage

theorem Disciplined.advance {task next : DispatchTask} {backend after : Backend} {choice : Choice}
    (disciplined : Disciplined task)
    (moved : task.advance discipline exec backend choice = some (after, next)) : Disciplined next := by
  rcases disciplined with ⟨payload, stage, phase, follows⟩ | ⟨stage, phase, follows⟩
  · obtain ⟨request, answer, _, _, _, _, reached, follows⟩ := follows.advance moved
    rw [phase] at reached
    exact .inl ⟨payload, _, reached, follows⟩
  · obtain ⟨request, answer, _, _, _, _, reached, follows⟩ := follows.advance moved
    rw [phase] at reached
    exact .inr ⟨_, reached, follows⟩

variable {context : DrainerContext} {world next : World} {label : Label}

/-- The inversion of a step: everything a label can do. -/
inductive Step (context : DrainerContext) (world next : World) : Label → Prop where
  | delivered {index : Nat} {job : Job} (found : world.backend.jobs[index]? = some job)
      (waiting : job.state = .waiting)
      (same : next = { world.modifyJob index fun job => { job with state := .active world.tasks.length } with
        tasks := world.tasks.spawn
          ⟨.pass index, .pass job.payload .fresh, processCampaignDispatchJob context job.payload⟩ }) :
      Step context world next (.deliver index)
  | ticked (same : next = world.tick) : Step context world next .tick
  | acted {slot : Nat} {choice : Choice} {task after : DispatchTask}
      (live : world.tasks.task? slot = some task)
      (moved : task.advance discipline exec world.backend choice = some (next.backend, after))
      (tasks : next.tasks = world.tasks.put slot after) : Step context world next (.act slot choice)
  | settled {slot index : Nat} {task : DispatchTask} {outcome : Except Thrown Unit}
      (live : world.tasks.task? slot = some task) (tag : task.tag = .pass index)
      (ended : task.outcome? = some outcome)
      (same : next = { world with tasks := world.tasks.clear slot }.modifyJob index
        (Job.settle slot outcome)) : Step context world next (.settle slot)
  | swept {slot : Nat} {task : DispatchTask} (live : world.tasks.task? slot = some task)
      (tag : task.tag = .sweep) (same : next = { world with tasks := world.tasks.clear slot }) :
      Step context world next (.settle slot)
  | crashed {slot : Nat} {task : DispatchTask} (live : world.tasks.task? slot = some task)
      (same : next = { world with tasks := world.tasks.clear slot }) :
      Step context world next (.crash slot)
  | stalled {index slot : Nat} {job : Job} (found : world.backend.jobs[index]? = some job)
      (active : job.state = .active slot) (same : next = world.modifyJob index Job.stall) :
      Step context world next (.stall index)
  | written {db : Db} (same : next = world.outside db) : Step context world next (.outside db)
  | drafted {message : Message} {messages : Table Message} (draft : message.status = .draft)
      (inserted : world.backend.db.messages.insert? message = some messages)
      (same : next = world.setDb { world.backend.db with messages }) :
      Step context world next (.draft message)

theorem step_cases (moved : (machine context).step world label = some next) :
    Step context world next label := by
  cases label with
  | deliver index =>
    simp only [machine, World.deliver] at moved
    split at moved
    · cases moved
    · rename_i job found
      split at moved
      · rename_i waiting
        exact .delivered found waiting (Option.some.inj moved).symm
      · cases moved
  | tick => exact .ticked (Option.some.inj moved).symm
  | act slot choice =>
    simp only [machine, World.act] at moved
    split at moved
    · cases moved
    · rename_i task live
      obtain ⟨⟨backend, after⟩, advanced, same⟩ := Option.map_eq_some_iff.mp moved
      cases same
      exact .acted live advanced rfl
  | settle slot =>
    simp only [machine, World.settle] at moved
    split at moved
    · cases moved
    · rename_i task live
      split at moved
      · cases moved
      · rename_i outcome ended
        split at moved
        · rename_i index tag
          exact .settled live tag ended (Option.some.inj moved).symm
        · rename_i tag
          exact .swept live tag (Option.some.inj moved).symm
  | crash slot =>
    simp only [machine, World.crash] at moved
    split at moved
    · cases moved
    · rename_i task live
      exact .crashed live (Option.some.inj moved).symm
  | stall index =>
    simp only [machine, World.stall] at moved
    split at moved
    · rename_i payload attempts stalls slot found
      exact .stalled found rfl (Option.some.inj moved).symm
    · cases moved
  | outside db => exact .written (Option.some.inj moved).symm
  | draft message =>
    simp only [machine, World.addDraft] at moved
    split at moved
    · rename_i draft
      obtain ⟨messages, inserted, same⟩ := Option.map_eq_some_iff.mp moved
      exact .drafted draft inserted same.symm
    · cases moved

theorem disciplined_pass (index : Nat) (payload : CampaignDispatchJobPayload) :
    Disciplined ⟨.pass index, .pass payload .fresh, processCampaignDispatchJob context payload⟩ :=
  .inl ⟨payload, .fresh, rfl, processCampaignDispatchJob_obeys payload context⟩

theorem disciplined_sweep : Disciplined ⟨.sweep, .sweep .idle, runDispatchSweep⟩ :=
  .inr ⟨.idle, rfl, runDispatchSweep_obeys⟩

/-- Every task of a run keeps to its discipline. -/
theorem disciplined_step (every : world.tasks.Every Disciplined)
    (moved : (machine context).step world label = some next) : next.tasks.Every Disciplined := by
  cases step_cases moved with
  | delivered found waiting same =>
    rw [same]
    exact every.spawn (disciplined_pass _ _)
  | ticked same =>
    rw [same]
    exact every.spawn disciplined_sweep
  | acted live advanced tasks =>
    rw [tasks]
    exact every.put ((every.get live).advance advanced)
  | settled live tag ended same | swept live tag same | crashed live same =>
    rw [same]
    exact every.clear
  | stalled found active same | written same | drafted draft inserted same =>
    rw [same]
    exact every

/-- How a disciplined pass ends. -/
theorem Disciplined.ended {task : DispatchTask} {payload : CampaignDispatchJobPayload} {stage : Stage}
    {outcome : Except Thrown Unit} (disciplined : Disciplined task)
    (phase : task.phase = .pass payload stage) (ended : task.outcome? = some outcome) :
    Ended payload task.phase outcome := by
  rcases disciplined with ⟨payload', stage', same, follows⟩ | ⟨stage', same, follows⟩
  · cases phase.symm.trans same
    exact follows.outcome ended
  · cases phase.symm.trans same

end WinBack.Dispatch
