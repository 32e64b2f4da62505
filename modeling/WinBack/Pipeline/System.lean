import WinBack.Compliance.Redact
import WinBack.Dispatch.Subjects
import WinBack.Generation.Discount
import WinBack.Generation.System

/-! The generation workers and the dispatch subsystem over one store: what a generation is completed
with is what is later picked up, claimed and sent, while customers are erased and other components
write their own tables. -/

namespace WinBack.Pipeline

open Library

structure World where
  dispatch : Dispatch.World
  workers : Pool Generation.WorkerTask := []
  issued : List MessageId := []    -- the ids of all messages so far

def World.db (world : World) : Db := world.dispatch.backend.db

def World.setDb (world : World) (db : Db) : World := { world with dispatch := world.dispatch.setDb db }

/-- A customer or a shop is erased: rows go with what references them. -/
def erase (targets : CampaignTarget → Bool) (messages : Message → Bool) (generations : AiGeneration → Bool) (db : Db) : Db :=
  deleteGenerations (deleteMessages { db with campaignTargets := db.campaignTargets.deleteMany targets } messages) generations

/-- One step of a part of the pipeline or of what is around it. -/
inductive Label where
  | deliver (job : Nat)                                  -- a dispatch worker takes a waiting job
  | tick                                                 -- the scheduler starts a sweep
  | act (slot : Nat) (choice : Dispatch.Choice)          -- a pass or a sweep makes its next call
  | settle (slot : Nat)                                  -- a pass or a sweep has returned or thrown
  | crash (slot : Nat)                                   -- its process dies
  | stall (job : Nat)                                    -- the queue takes an active job for stalled
  | generate (job : Generation.Job)                      -- a generation worker takes a job
  | work (slot : Nat) (choice : Generation.Choice)       -- it makes its next call
  | die (slot : Nat)                                     -- its process dies
  | created (merchantId : MerchantId) (customerId : CustomerId) (args : GenerationArgs) (now : Date)
  | erased (targets : CampaignTarget → Bool) (messages : Message → Bool) (generations : AiGeneration → Bool)
  | outside (db : Db)                                    -- other components write their own tables

def Label.dispatch? : Label → Option Dispatch.Label
  | .deliver job => some (.deliver job)
  | .tick => some .tick
  | .act slot choice => some (.act slot choice)
  | .settle slot => some (.settle slot)
  | .crash slot => some (.crash slot)
  | .stall job => some (.stall job)
  | _ => none

def Label.worker? : Label → Option Generation.Label
  | .generate job => some (.deliver job)
  | .work slot choice => some (.act slot choice)
  | .die slot => some (.crash slot)
  | .created merchantId customerId args now => some (.created merchantId customerId args now)
  | _ => none

/-- The ids of the messages that a step adds. -/
def issue : Generation.Label → List MessageId
  | .created _ _ args _ => [args.messageId]
  | _ => []

/-- Generations, messages and targets are the pipeline's. -/
def World.outside (world : World) (db : Db) : World :=
  world.setDb { db with
    aiGenerations := world.db.aiGenerations
    messages := world.db.messages
    campaignTargets := world.db.campaignTargets }

def World.dispatched (context : Dispatch.DrainerContext) (world : World) (label : Dispatch.Label) : Option World :=
  ((Dispatch.machine context).step world.dispatch label).map fun dispatch => { world with dispatch }

def World.worked (context : Generation.WorkerContext) (world : World) (label : Generation.Label) : Option World :=
  ((Generation.machine context).step ⟨world.db, world.workers⟩ label).map fun next =>
    { world.setDb next.db with workers := next.tasks }

def machine (drainer : Dispatch.DrainerContext) (worker : Generation.WorkerContext) : Machine World Label where
  step world label :=
    match label with
    | .erased targets messages generations => some (world.setDb (erase targets messages generations world.db))
    | .outside db => some (world.outside db)
    | label =>
      match label.dispatch?, label.worker? with
      | some label, _ => world.dispatched drainer label
      | none, some step =>
        -- a new message has a new id
        if ∀ id ∈ issue step, id ∉ world.issued then
          (world.worked worker step).map fun next => { next with issued := next.issued ++ issue step }
        else none
      | none, none => none

/-- Nothing is under way, and nothing has been generated. -/
structure Start (world : World) : Prop where
  tasks : world.dispatch.tasks = []
  jobs : world.dispatch.backend.jobs = []
  workers : world.workers = []
  generations : world.db.aiGenerations.rows = []
  messages : world.db.messages.rows = []
  targets : world.db.campaignTargets.rows = []

variable {drainer : Dispatch.DrainerContext} {worker : Generation.WorkerContext} {world next : World} {label : Label}

/-- What a step is. -/
inductive Step (drainer : Dispatch.DrainerContext) (worker : Generation.WorkerContext) (world : World) (label : Label)
    (next : World) : Prop where
  | dispatched (step : Dispatch.Label) (moved : (Dispatch.machine drainer).step world.dispatch step = some next.dispatch)
      (inner : ∀ message, step ≠ .draft message) (kept : ∀ db, step ≠ .outside db)
      (workers : next.workers = world.workers) (issued : next.issued = world.issued)
  | worked (step : Generation.Label) (named : label.worker? = some step)
      (moved : (Generation.machine worker).step ⟨world.db, world.workers⟩ step = some ⟨next.db, next.workers⟩)
      (inner : ∀ db rewrite audits, step ≠ .outside db rewrite audits)
      (dispatch : next.dispatch = world.dispatch.setDb next.db)
      (issued : next.issued = world.issued ++ issue step) (fresh : ∀ id ∈ issue step, id ∉ world.issued)
  | erased (targets : CampaignTarget → Bool) (messages : Message → Bool) (generations : AiGeneration → Bool)
      (same : next = world.setDb (erase targets messages generations world.db))
  | outside (db : Db) (same : next = world.outside db)

theorem step_cases (moved : (machine drainer worker).step world label = some next) :
    Step drainer worker world label next := by
  have dispatched (step : Dispatch.Label) (done : world.dispatched drainer step = some next)
      (inner : ∀ message, step ≠ .draft message) (kept : ∀ db, step ≠ .outside db) : Step drainer worker world label next := by
    obtain ⟨dispatch, took, rfl⟩ := Option.map_eq_some_iff.mp done
    exact .dispatched step took inner kept rfl rfl
  have worked (step : Generation.Label) (named : label.worker? = some step) (inner : ∀ db rewrite audits, step ≠ .outside db rewrite audits)
      (done : (if ∀ id ∈ issue step, id ∉ world.issued then
        (world.worked worker step).map fun next => { next with issued := next.issued ++ issue step } else none) = some next) :
      Step drainer worker world label next := by
    split at done
    · rename_i fresh
      obtain ⟨middle, worked, rfl⟩ := Option.map_eq_some_iff.mp done
      obtain ⟨⟨db, tasks⟩, took, rfl⟩ := Option.map_eq_some_iff.mp worked
      exact .worked step named took inner rfl rfl fresh
    · cases done
  cases label with
  | deliver job => exact dispatched (.deliver job) moved (by simp) (by simp)
  | tick => exact dispatched .tick moved (by simp) (by simp)
  | act slot choice => exact dispatched (.act slot choice) moved (by simp) (by simp)
  | settle slot => exact dispatched (.settle slot) moved (by simp) (by simp)
  | crash slot => exact dispatched (.crash slot) moved (by simp) (by simp)
  | stall job => exact dispatched (.stall job) moved (by simp) (by simp)
  | generate job => exact worked (.deliver job) rfl (by simp) moved
  | work slot choice => exact worked (.act slot choice) rfl (by simp) moved
  | die slot => exact worked (.crash slot) rfl (by simp) moved
  | created merchantId customerId args now =>
    exact worked (.created merchantId customerId args now) rfl (by simp) moved
  | erased targets messages generations => exact .erased targets messages generations (Option.some.inj moved).symm
  | outside db => exact .outside db (Option.some.inj moved).symm

end WinBack.Pipeline
