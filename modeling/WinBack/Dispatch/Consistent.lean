import WinBack.Dispatch.Effects

/-! Merchants of targets, jobs and running tasks agree: every one of them belongs to
the merchant of its message. -/

namespace WinBack.Dispatch

open Library CampaignRepository

/-- The payload names a message of its own merchant. -/
def Owned (db : Db) (payload : CampaignDispatchJobPayload) : Prop :=
  messageMerchant db payload.messageId = some payload.merchantId

/-- Every target belongs to the merchant of its message. -/
def TargetsOwned (db : Db) : Prop :=
  ∀ messageId merchantId, targetMerchant db messageId = some merchantId →
    messageMerchant db messageId = some merchantId

/-- What a task has read belongs to the merchant it works for. -/
def CarriesOwned (db : Db) (task : DispatchTask) : Prop :=
  match task.phase with
  | .pass payload _ => Owned db payload
  | .sweep .idle => True
  | .sweep (.drafted merchantId drafts) =>
    ∀ draft ∈ drafts, messageMerchant db draft.messageId = some merchantId
  | .sweep (.deferred merchantId drafts targets) =>
    (∀ draft ∈ drafts, messageMerchant db draft.messageId = some merchantId) ∧
      ∀ target ∈ targets, messageMerchant db target.messageId = some merchantId

structure Consistent (world : World) : Prop where
  targets : TargetsOwned world.backend.db
  jobs : ∀ job ∈ world.backend.jobs, Owned world.backend.db job.payload
  tasks : world.tasks.Every (CarriesOwned world.backend.db)

/-- No message lost its merchant. -/
def MessagesKept (before after : Db) : Prop :=
  ∀ messageId merchantId, messageMerchant before messageId = some merchantId →
    messageMerchant after messageId = some merchantId

variable {db after : Db} {merchantId : MerchantId} {world next : World} {context : DrainerContext}
  {label : Label}

theorem messageMerchant_of_mem {message : Message} (member : message ∈ db.messages.rows) :
    messageMerchant db message.id = some message.merchantId := by
  have found : db.messages.find? (·.id == message.id) = some message := by
    rw [Table.find?_eq_some_iff]
    · exact ⟨member, by simp⟩
    · intro first second here there
      exact clash_of_id (by simp_all)
  simp [messageMerchant, found]

theorem targetMerchant_of_mem {target : CampaignTarget} (member : target ∈ db.campaignTargets.rows) :
    targetMerchant db target.messageId = some target.merchantId := by
  have found : db.campaignTargets.find? (·.messageId == target.messageId) = some target := by
    rw [Table.find?_eq_some_iff]
    · exact ⟨member, by simp⟩
    · intro first second here there
      exact clash_of_messageId (by simp_all)
  simp [targetMerchant, found]

/-- Arm 1 selects messages of the merchant. -/
theorem findDispatchableDrafts_owned {draft : DispatchableDraft}
    (selected : draft ∈ findDispatchableDrafts db merchantId) :
    messageMerchant db draft.messageId = some merchantId := by
  obtain ⟨message, member, picked⟩ := List.mem_filterMap.mp (List.mem_of_mem_take selected)
  have present : message ∈ db.messages.rows := by simpa using member
  unfold dispatchableDraft? at picked
  split at picked
  · rename_i eligible
    have owned : message.merchantId = merchantId := by
      simp only [Bool.and_eq_true, beq_iff_eq] at eligible
      exact eligible.1.1.1.1
    split at picked
    · cases picked
    · obtain ⟨campaign, _, rfl⟩ := Option.map_eq_some_iff.mp picked
      exact owned ▸ messageMerchant_of_mem present
  · cases picked

/-- Arm 2 selects targets of the merchant. -/
theorem findDeferredTargets_owned {target : DeferredTarget}
    (selected : target ∈ findDeferredTargets db merchantId) :
    targetMerchant db target.messageId = some merchantId := by
  simp only [findDeferredTargets, List.mem_map, List.mem_filter, Bool.and_eq_true, beq_iff_eq] at selected
  obtain ⟨row, ⟨member, rfl, _⟩, rfl⟩ := selected
  exact targetMerchant_of_mem member

namespace MessagesKept

theorem of_messages (same : after.messages = db.messages) : MessagesKept db after := by
  intro messageId merchantId held
  simpa [messageMerchant, same] using held

theorem of_moves {scope : MerchantId} {messageId : MessageId} {statuses : List CampaignTargetStatus}
    {status : CampaignTargetStatus} (moves : Moves scope messageId statuses status db after) :
    MessagesKept db after := by
  intro other merchantId held
  rw [moves.messages.merchants]
  exact held

theorem of_insert {message : Message} (inserted : db.messages.insert? message = some after.messages) :
    MessagesKept db after := by
  intro messageId merchantId held
  unfold messageMerchant at held ⊢
  obtain ⟨row, found, owner⟩ := Option.map_eq_some_iff.mp held
  rw [Table.find?_insert? inserted, found]
  simpa using owner

variable (kept : MessagesKept db after)
include kept

theorem owned {payload : CampaignDispatchJobPayload} (owned : Owned db payload) : Owned after payload :=
  kept _ _ owned

theorem carries {task : DispatchTask} (carries : CarriesOwned db task) : CarriesOwned after task := by
  unfold CarriesOwned at carries ⊢
  split
  · rename_i payload stage phase
    rw [phase] at carries
    exact kept.owned carries
  · trivial
  · rename_i merchantId drafts phase
    rw [phase] at carries
    exact fun draft member => kept _ _ (carries draft member)
  · rename_i merchantId drafts targets phase
    rw [phase] at carries
    exact ⟨fun draft member => kept _ _ (carries.1 draft member),
      fun target member => kept _ _ (carries.2 target member)⟩

end MessagesKept

/-- Targets stay owned when neither targets nor owners change. -/
theorem TargetsOwned.congr (owned : TargetsOwned db) (kept : MessagesKept db after)
    (same : targetMerchant after = targetMerchant db) : TargetsOwned after := by
  intro messageId merchantId held
  rw [same] at held
  exact kept _ _ (owned _ _ held)

theorem targetMerchant_congr (same : after.campaignTargets = db.campaignTargets) :
    targetMerchant after = targetMerchant db := by
  funext messageId
  simp [targetMerchant, same]

theorem TargetsOwned.moves {scope : MerchantId} {messageId : MessageId}
    {statuses : List CampaignTargetStatus} {status : CampaignTargetStatus} (owned : TargetsOwned db)
    (moves : Moves scope messageId statuses status db after) : TargetsOwned after :=
  owned.congr (.of_moves moves) moves.merchants

/-- A pass leaves the queue alone. -/
theorem PassEffect.jobs {payload : CampaignDispatchJobPayload} {request : Call} {choice : Choice}
    {before after : Backend} {stage reached : Stage}
    (effect : PassEffect payload request choice before after stage reached) :
    after.jobs = before.jobs := by
  cases effect with
  | idle unmoved idling => exact unmoved.jobs
  | move effect =>
    cases effect with
    | claim silent onto absent statuses merchants messages => exact silent.jobs
    | suppress call onto moved | postpone onto moved | start onto moved | complete moved | revert moved
    | reject status onto moved => exact moved.jobs
    | send record possible decided db jobs sends onto => exact jobs

/-- A sweep only appends to the queue. -/
theorem SweepEffect.jobs {before after : Backend} {stage reached : SweepStage}
    (effect : SweepEffect before after stage reached) : ∃ added, after.jobs = before.jobs ++ added := by
  cases effect with
  | stay unmoved | reset unmoved | draft merchantId unmoved | select merchantId drafts unmoved =>
    exact ⟨[], by simp [unmoved.jobs]⟩
  | resolve merchantId drafts targets target listed onto silent moves =>
    exact ⟨[], by simp [silent.jobs]⟩
  | enqueue merchantId drafts targets payloads sources queued => exact ⟨_, by rw [queued]⟩

/-- A pass on an owned payload keeps owners. -/
theorem PassEffect.consistent {payload : CampaignDispatchJobPayload} {request : Call} {choice : Choice}
    {before after : Backend} {stage reached : Stage}
    (effect : PassEffect payload request choice before after stage reached) (owned : Owned before.db payload)
    (targets : TargetsOwned before.db) :
    MessagesKept before.db after.db ∧ TargetsOwned after.db := by
  cases effect with
  | idle unmoved idling =>
    have kept := MessagesKept.of_messages unmoved.messages
    exact ⟨kept, targets.congr kept (targetMerchant_congr unmoved.targets)⟩
  | move effect =>
    cases effect with
    | claim silent onto absent statuses merchants messages =>
      have kept := MessagesKept.of_messages messages
      refine ⟨kept, ?_⟩
      intro messageId merchantId held
      rw [merchants] at held
      by_cases same : messageId = payload.messageId
      · subst same
        rw [Function.update_self] at held
        cases held
        exact kept _ _ owned
      · rw [Function.update_of_ne same] at held
        exact kept _ _ (targets _ _ held)
    | suppress call onto moved | postpone onto moved | start onto moved | complete moved | revert moved
    | reject status onto moved =>
      exact ⟨.of_moves moved.moves, targets.moves moved.moves⟩
    | send record possible decided db jobs sends onto =>
      rw [db]
      exact ⟨fun _ _ held => held, targets⟩

/-- What a sweep keeps, and the owner of every job that it enqueues. -/
theorem SweepEffect.consistent {before after : Backend} {stage reached : SweepStage}
    {task next : DispatchTask} (phase : task.phase = .sweep stage) (nextPhase : next.phase = .sweep reached)
    (effect : SweepEffect before after stage reached) (carries : CarriesOwned before.db task)
    (targets : TargetsOwned before.db) :
    MessagesKept before.db after.db ∧ TargetsOwned after.db ∧ CarriesOwned after.db next ∧
      ∃ queued : List CampaignDispatchJobPayload, (∀ payload ∈ queued, Owned before.db payload) ∧
        after.jobs = before.jobs ++ queued.map fun payload => ({ payload } : Job) := by
  unfold CarriesOwned at carries
  rw [phase] at carries
  -- a call that moves nothing and enqueues nothing
  have idle (unmoved : Unmoved before after)
      (carried : MessagesKept before.db after.db → CarriesOwned after.db next) :
      MessagesKept before.db after.db ∧ TargetsOwned after.db ∧ CarriesOwned after.db next ∧
        ∃ queued : List CampaignDispatchJobPayload, (∀ payload ∈ queued, Owned before.db payload) ∧
          after.jobs = before.jobs ++ queued.map fun payload => ({ payload } : Job) := by
    have kept := MessagesKept.of_messages unmoved.messages
    exact ⟨kept, targets.congr kept (targetMerchant_congr unmoved.targets), carried kept, [], by simp,
      by simp [unmoved.jobs]⟩
  cases effect with
  | stay unmoved =>
    refine idle unmoved fun kept => kept.carries ?_
    unfold CarriesOwned
    rwa [nextPhase]
  | reset unmoved => exact idle unmoved fun _ => by simp [CarriesOwned, nextPhase]
  | draft merchantId unmoved =>
    refine idle unmoved fun kept => ?_
    simp only [CarriesOwned, nextPhase]
    exact fun draft selected => kept _ _ (findDispatchableDrafts_owned selected)
  | select merchantId drafts unmoved =>
    refine idle unmoved fun kept => ?_
    simp only [CarriesOwned, nextPhase]
    exact ⟨fun draft member => kept _ _ (carries draft member),
      fun target selected => kept _ _ (targets _ _ (findDeferredTargets_owned selected))⟩
  | resolve merchantId drafts listing target listed onto silent moves =>
    have kept := MessagesKept.of_moves moves
    refine ⟨kept, targets.moves moves, ?_, [], by simp, by simp [silent.jobs]⟩
    rcases onto with rfl | rfl
    · refine kept.carries ?_
      simp only [CarriesOwned, nextPhase]
      exact carries
    · simp [CarriesOwned, nextPhase]
  | enqueue merchantId drafts listing payloads sources queued =>
    subst queued
    refine ⟨fun _ _ held => held, targets, by simp [CarriesOwned, nextPhase], payloads, ?_, rfl⟩
    intro payload member
    rcases sources payload member with ⟨draft, present, rfl⟩ | ⟨target, present, rfl⟩
    · exact carries.1 draft present
    · exact carries.2 target present

/-- Job payloads survive a modification that keeps them. -/
theorem jobs_modify {jobs : List Job} {index : Nat} {change : Job → Job} {Holds : CampaignDispatchJobPayload → Prop}
    (keeps : ∀ job, (change job).payload = job.payload) (every : ∀ job ∈ jobs, Holds job.payload) :
    ∀ job ∈ jobs.modify index change, Holds job.payload := by
  intro job member
  obtain ⟨place, found⟩ := List.getElem?_of_mem member
  rw [List.getElem?_modify] at found
  obtain ⟨old, present, same⟩ := Option.map_eq_some_iff.mp found
  have holds := every old (List.mem_of_getElem? present)
  subst same
  split
  · rw [keeps]
    exact holds
  · exact holds

theorem retry_payload (job : Job) : job.retry.payload = job.payload := by
  unfold Job.retry
  split <;> rfl

theorem stall_payload (job : Job) : job.stall.payload = job.payload := by
  unfold Job.stall
  split <;> rfl

theorem settle_payload (slot : Nat) (outcome : Except Thrown Unit) (job : Job) :
    (job.settle slot outcome).payload = job.payload := by
  unfold Job.settle
  split
  · cases outcome with
    | ok result => rfl
    | error error => exact retry_payload job
  · rfl

/-- The step lemma. -/
theorem Consistent.step (consistent : Consistent world) (every : world.tasks.Every Disciplined)
    (moved : (machine context).step world label = some next) : Consistent next := by
  obtain ⟨targets, jobs, tasks⟩ := consistent
  cases step_cases moved with
  | delivered found waiting same =>
    subst same
    refine ⟨targets, jobs_modify (fun _ => rfl) jobs, tasks.spawn ?_⟩
    exact jobs _ (List.mem_of_getElem? found)
  | ticked same =>
    subst same
    exact ⟨targets, jobs, tasks.spawn trivial⟩
  | acted live advanced put =>
    obtain ⟨acted, _⟩ := acted_of_advance (every.get live) advanced
    have carries := tasks.get live
    cases acted with
    | passed phase pending allowed afterPhase effect =>
      rename_i payload stage reached request
      have owned : Owned world.backend.db payload := by
        simpa only [CarriesOwned, phase] using carries
      obtain ⟨kept, owners⟩ := effect.consistent owned targets
      refine ⟨owners, ?_, ?_⟩
      · rw [effect.jobs]
        exact fun job member => kept.owned (jobs job member)
      · rw [put]
        have others : world.tasks.Every (CarriesOwned next.backend.db) :=
          fun task member => kept.carries (tasks task member)
        refine others.put ?_
        simp only [CarriesOwned, afterPhase]
        exact kept.owned owned
    | swept phase afterPhase effect =>
      obtain ⟨kept, owners, carried, queued, sources, appended⟩ :=
        effect.consistent phase afterPhase carries targets
      refine ⟨owners, ?_, ?_⟩
      · rw [appended]
        intro job member
        rcases List.mem_append.mp member with old | added
        · exact kept.owned (jobs job old)
        · obtain ⟨payload, present, rfl⟩ := List.mem_map.mp added
          exact kept.owned (sources payload present)
      · rw [put]
        have others : world.tasks.Every (CarriesOwned next.backend.db) :=
          fun task member => kept.carries (tasks task member)
        exact others.put carried
  | settled live tag ended same =>
    subst same
    exact ⟨targets, jobs_modify (settle_payload _ _) jobs, tasks.clear⟩
  | swept live tag same | crashed live same =>
    subst same
    exact ⟨targets, jobs, tasks.clear⟩
  | stalled found active same =>
    subst same
    exact ⟨targets, jobs_modify stall_payload jobs, tasks⟩
  | written same =>
    subst same
    have kept : MessagesKept world.backend.db (world.outside _).backend.db := .of_messages rfl
    exact ⟨targets.congr kept (targetMerchant_congr rfl), fun job member => kept.owned (jobs job member),
      fun task member => kept.carries (tasks task member)⟩
  | drafted draft inserted same =>
    subst same
    have kept : MessagesKept world.backend.db { world.backend.db with messages := _ } :=
      .of_insert inserted
    exact ⟨targets.congr kept (targetMerchant_congr rfl), fun job member => kept.owned (jobs job member),
      fun task member => kept.carries (tasks task member)⟩

end WinBack.Dispatch
