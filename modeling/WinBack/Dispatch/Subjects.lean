import WinBack.Dispatch.Effects

/-! Who messages, targets and pending work are about. Of all calls only a claim adds
a link between a message and a customer, and work names rows that a sweep has read. -/

namespace WinBack.Dispatch

open Library CampaignRepository

/-- A message with its customer and merchant. -/
abbrev Link := MessageId × CustomerId × MerchantId

def messageLinks (db : Db) : List Link :=
  db.messages.links fun row => some (row.id, row.customerId, row.merchantId)

def targetLinks (db : Db) : List Link :=
  db.campaignTargets.links fun row => some (row.messageId, row.customerId, row.merchantId)

def customerLinks (db : Db) : List (CustomerId × MerchantId) :=
  db.customers.links fun row => some (row.id, row.merchantId)

def CampaignDispatchJobPayload.link (payload : CampaignDispatchJobPayload) : Link :=
  (payload.messageId, payload.customerId, payload.merchantId)

/-- The customer was soft-deleted or redacted. -/
def removed (db : Db) (customerId : CustomerId) : Bool :=
  db.customers.any fun row => row.id == customerId && row.deletedAt != none

/-- A queue may still run the job. -/
def Job.isOpen (job : Job) : Bool :=
  match job.state with
  | .waiting | .active _ => true
  | .completed | .failed => false

/-- The claims that a task may still make or enqueue. -/
def Phase.work : Phase → List CampaignDispatchJobPayload
  | .pass payload .fresh => [payload]
  | .pass _ _ | .sweep .idle => []
  | .sweep (.drafted merchantId drafts) => drafts.map (draftJob merchantId)
  | .sweep (.deferred merchantId drafts targets) =>
    drafts.map (draftJob merchantId) ++ targets.map (deferredJob merchantId)

/-- The claims that are still to come. -/
def World.work (world : World) : List CampaignDispatchJobPayload :=
  (world.backend.jobs.filter Job.isOpen).map Job.payload ++
    world.tasks.flatMap fun slot => (slot.map fun task => task.phase.work).getD []

/-- The job of a row that a sweep selects. -/
inductive Selected (db : Db) (payload : CampaignDispatchJobPayload) : Prop where
  | draft (merchantId : MerchantId) (draft : DispatchableDraft)
      (selected : draft ∈ findDispatchableDrafts db merchantId)
      (same : payload = draftJob merchantId draft)
  | deferred (merchantId : MerchantId) (target : DeferredTarget)
      (selected : target ∈ findDeferredTargets db merchantId)
      (same : payload = deferredJob merchantId target)

section Calls

/-- A call leaves the links alone. -/
structure SameLinks (before after : Db) : Prop where
  customers : after.customers = before.customers
  messages : messageLinks after = messageLinks before
  targets : targetLinks after = targetLinks before

/-- A claim links a stored message that has no target yet. -/
structure ClaimedLink (args : ClaimTargetArgs) (before after : Db) : Prop where
  customers : after.customers = before.customers
  messages : messageLinks after = messageLinks before
  absent : targetStatus before args.messageId = none
  stored : ∃ link ∈ messageLinks before, link.1 = args.messageId
  targets : ∀ link, link ∈ targetLinks after ↔
    link ∈ targetLinks before ∨ link = (args.messageId, args.customerId, args.merchantId)

variable {db : Db} {before after : Backend} {scope : MerchantId} {messageId : MessageId}

theorem SameLinks.refl : SameLinks db db := ⟨rfl, rfl, rfl⟩

theorem mem_messageLinks {link : Link} :
    link ∈ messageLinks db ↔
      ∃ message ∈ db.messages.rows, (message.id, message.customerId, message.merchantId) = link := by
  simp [messageLinks, Table.mem_links]

theorem mem_targetLinks {link : Link} :
    link ∈ targetLinks db ↔
      ∃ target ∈ db.campaignTargets.rows, (target.messageId, target.customerId, target.merchantId) = link := by
  simp [targetLinks, Table.mem_links]

theorem mem_customerLinks {link : CustomerId × MerchantId} :
    link ∈ customerLinks db ↔ ∃ row ∈ db.customers.rows, (row.id, row.merchantId) = link := by
  simp [customerLinks, Table.mem_links]

theorem targetStatus_ne_none_iff :
    targetStatus db messageId ≠ none ↔ ∃ link ∈ targetLinks db, link.1 = messageId := by
  rw [Ne, targetStatus_eq_none_iff]
  push Not
  constructor
  · rintro ⟨target, member, named⟩
    exact ⟨_, mem_targetLinks.mpr ⟨target, member, rfl⟩, named⟩
  · rintro ⟨link, member, named⟩
    obtain ⟨target, stored, rfl⟩ := mem_targetLinks.mp member
    exact ⟨target, stored, named⟩

theorem links_resolveTerminal (reason : String) (status : TerminalStatus) :
    SameLinks db (CampaignRepository.resolveTerminal scope messageId reason status db).2 := by
  unfold CampaignRepository.resolveTerminal
  dsimp only
  split
  · exact .refl
  · refine ⟨rfl, ?_, ?_⟩
    · exact Table.links_update rfl fun _ => rfl
    · exact Table.links_update rfl fun _ => rfl

theorem links_startSending (now : Date) : SameLinks db (CampaignRepository.startSending scope messageId now db).2 :=
  ⟨rfl, rfl, Table.links_update rfl fun _ => rfl⟩

theorem links_revertToPending : SameLinks db (CampaignRepository.revertToPending scope messageId db).2 :=
  ⟨rfl, rfl, Table.links_update rfl fun _ => rfl⟩

theorem links_deferTarget : SameLinks db (CampaignRepository.deferTarget scope messageId db).2 :=
  ⟨rfl, rfl, Table.links_update rfl fun _ => rfl⟩

theorem links_markSentWithQuota (args : MarkSentArgs) :
    SameLinks db (CampaignRepository.markSentWithQuota scope args db).2 := by
  unfold CampaignRepository.markSentWithQuota
  dsimp only
  split
  · exact .refl
  split
  · exact .refl
  split
  · exact .refl
  refine ⟨rfl, ?_, ?_⟩
  · exact Table.links_update rfl fun _ => rfl
  · exact Table.links_update rfl fun _ => rfl

theorem links_claimTarget (args : ClaimTargetArgs) (createdAt : Date) :
    SameLinks db (CampaignRepository.claimTarget scope args createdAt db).2 ∨
      ClaimedLink args db (CampaignRepository.claimTarget scope args createdAt db).2 := by
  unfold CampaignRepository.claimTarget
  split
  · exact .inl .refl
  split
  · exact .inl .refl
  rename_i targets inserted
  split
  · rename_i present
    simp only [Bool.and_eq_true, Table.any, List.any_eq_true, beq_iff_eq] at present
    obtain ⟨⟨_, message, stored, named⟩, _⟩ := present
    refine .inr ⟨rfl, rfl, ?_, ⟨_, mem_messageLinks.mpr ⟨message, stored, rfl⟩, named⟩, fun link => ?_⟩
    · rw [targetStatus_eq_none_iff]
      intro other member same
      have apart := (Table.insert?_rows inserted).2 other member
      simp [Indexed.clash, Indexed.index, same] at apart
    · refine (Table.mem_links_insert? inserted).trans (or_congr Iff.rfl ?_)
      simp [eq_comm]
  · exact .inl .refl

theorem messageLink_unique {first second : Link} (here : first ∈ messageLinks db)
    (there : second ∈ messageLinks db) (same : first.1 = second.1) : first = second := by
  obtain ⟨left, leftStored, rfl⟩ := mem_messageLinks.mp here
  obtain ⟨right, rightStored, rfl⟩ := mem_messageLinks.mp there
  rw [message_unique leftStored rightStored same]

theorem removed_eq_true_iff {customerId : CustomerId} :
    removed db customerId = true ↔ ∃ row ∈ db.customers.rows, row.id = customerId ∧ row.deletedAt ≠ none := by
  simp [removed, Table.any]

/-- Arm 1 selects drafts of live customers. -/
theorem findDispatchableDrafts_live {merchantId : MerchantId} {draft : DispatchableDraft}
    (selected : draft ∈ findDispatchableDrafts db merchantId) :
    (draftJob merchantId draft).link ∈ messageLinks db ∧
      ∃ row ∈ db.customers.rows, row.id = draft.customerId ∧ row.merchantId = merchantId ∧
        row.deletedAt = none := by
  obtain ⟨message, member, picked⟩ := List.mem_filterMap.mp (List.mem_of_mem_take selected)
  have stored : message ∈ db.messages.rows := by simpa using member
  unfold dispatchableDraft? at picked
  split at picked
  · rename_i eligible
    simp only [Bool.and_eq_true, beq_iff_eq, Table.any, List.any_eq_true] at eligible
    obtain ⟨⟨⟨⟨owned, _⟩, _⟩, row, present, ⟨named, merchant⟩, live⟩, _⟩ := eligible
    split at picked
    · cases picked
    · obtain ⟨campaign, _, rfl⟩ := Option.map_eq_some_iff.mp picked
      refine ⟨mem_messageLinks.mpr ⟨message, stored, ?_⟩, row, present, named, merchant.trans owned, live⟩
      simp [draftJob, CampaignDispatchJobPayload.link, owned]
  · cases picked

/-- Arm 2 selects stored targets. -/
theorem findDeferredTargets_linked {merchantId : MerchantId} {target : DeferredTarget}
    (selected : target ∈ findDeferredTargets db merchantId) :
    (deferredJob merchantId target).link ∈ targetLinks db := by
  obtain ⟨row, member, rfl⟩ := List.mem_map.mp selected
  obtain ⟨stored, holds⟩ := List.mem_filter.mp member
  simp only [Bool.and_eq_true, beq_iff_eq] at holds
  exact mem_targetLinks.mpr ⟨row, stored, by simp [deferredJob, CampaignDispatchJobPayload.link, holds.1]⟩

/-- A write carried out or not carried out does what the write does, or nothing. -/
theorem fate_cases {Answer : Type} {fate : Fate} {write : Except DbError Answer × Db}
    {answer : Except Thrown Answer} (executed : fate.apply before write = (answer, after)) :
    after.db = write.2 ∨ after.db = before.db := by
  cases fate <;> cases executed <;> simp

private theorem links_of_write {Answer : Type} {fate : Fate} {write : Except DbError Answer × Db}
    {answer : Except Thrown Answer} (links : SameLinks before.db write.2)
    (executed : fate.apply before write = (answer, after)) : SameLinks before.db after.db := by
  rcases fate_cases executed with same | same <;> rw [same]
  · exact links
  · exact .refl

/-- Only a claim adds a link. -/
theorem exec_links {request : Call} {choice : Choice} {answer : Except Thrown request.Value}
    (executed : exec before request choice = some (answer, after)) :
    SameLinks before.db after.db ∨
      ∃ scope args, request = .claimTarget scope args ∧ ClaimedLink args before.db after.db := by
  cases request with
  | query read =>
    obtain ⟨rfl, _⟩ := query_effect executed
    exact .inl .refl
  | clock =>
    cases executed
    exact .inl .refl
  | claimTarget scope args =>
    rcases fate_cases (Option.some.inj executed) with same | same <;> rw [same]
    · exact (links_claimTarget args choice.now).imp id fun claimed => ⟨scope, args, rfl, claimed⟩
    · exact .inl .refl
  | resolveTerminal scope messageId reason status =>
    exact .inl (links_of_write (links_resolveTerminal reason status) (Option.some.inj executed))
  | startSending scope messageId now =>
    exact .inl (links_of_write (links_startSending now) (Option.some.inj executed))
  | revertToPending scope messageId =>
    exact .inl (links_of_write links_revertToPending (Option.some.inj executed))
  | markSentWithQuota scope args =>
    exact .inl (links_of_write (links_markSentWithQuota args) (Option.some.inj executed))
  | deferTarget scope messageId =>
    exact .inl (links_of_write links_deferTarget (Option.some.inj executed))
  | appendAudit row =>
    have links : SameLinks before.db { before.db with auditLogs := before.db.auditLogs ++ [row] } := ⟨rfl, rfl, rfl⟩
    exact .inl (links_of_write links (Option.some.inj executed))
  | send args =>
    simp only [exec] at executed
    split at executed
    · cases executed
      exact .inl .refl
    · cases executed
  | addBulk payloads =>
    simp only [exec] at executed
    split at executed <;> cases executed <;> exact .inl .refl

end Calls

section Work

variable {context : DrainerContext} {world next : World} {label : Label}
  {payload : CampaignDispatchJobPayload}

theorem mem_work :
    payload ∈ world.work ↔ (∃ job ∈ world.backend.jobs, job.isOpen = true ∧ job.payload = payload) ∨
      ∃ task, some task ∈ world.tasks ∧ payload ∈ task.phase.work := by
  unfold World.work
  rw [List.mem_append, List.mem_map, List.mem_flatMap]
  refine or_congr ?_ ?_
  · simp [List.mem_filter, and_assoc]
  · constructor
    · rintro ⟨slot, member, work⟩
      cases slot with
      | none => simp at work
      | some task => exact ⟨task, member, work⟩
    · rintro ⟨task, member, work⟩
      exact ⟨some task, member, work⟩

/-- A pass calls neither the queue nor itself fresh again. -/
theorem PassEffect.work {request : Call} {choice : Choice} {before after : Backend} {stage reached : Stage}
    (effect : PassEffect payload request choice before after stage reached) :
    after.jobs = before.jobs ∧ (reached = stage ∨ reached ≠ .fresh) := by
  cases effect with
  | idle unmoved idling =>
    refine ⟨unmoved.jobs, ?_⟩
    cases idling with
    | stay => exact .inl rfl
    | claimed | opened | unloaded missing | leave missed | fail => exact .inr (by decide)
  | move effect =>
    cases effect with
    | claim silent onto absent statuses merchants messages =>
      refine ⟨silent.jobs, .inr ?_⟩
      rcases onto with rfl | rfl <;> decide
    | suppress call onto moved | postpone onto moved | start onto moved | reject status onto moved =>
      refine ⟨moved.jobs, .inr ?_⟩
      rcases onto with rfl | rfl <;> decide
    | send record possible decided db jobs sends onto =>
      refine ⟨jobs, .inr ?_⟩
      rcases onto with ⟨rfl, _⟩ | ⟨rfl, _⟩ | ⟨rfl, _⟩ <;> decide
    | complete moved => exact ⟨moved.jobs, .inl rfl⟩
    | revert moved => exact ⟨moved.jobs, .inr (by decide)⟩

/-- What a sweep holds after a call: what it held, or what the call selected. A job
that it enqueues was held before. -/
theorem SweepEffect.work {before after : Backend} {stage reached : SweepStage}
    (effect : SweepEffect before after stage reached) :
    (∀ payload ∈ (Phase.sweep reached).work, payload ∈ (Phase.sweep stage).work ∨ Selected before.db payload) ∧
      ∀ job ∈ after.jobs, job ∈ before.jobs ∨ job.payload ∈ (Phase.sweep stage).work := by
  have silent (same : after.jobs = before.jobs) :
      ∀ job ∈ after.jobs, job ∈ before.jobs ∨ job.payload ∈ (Phase.sweep stage).work := by
    rw [same]
    exact fun job member => .inl member
  cases effect with
  | stay unmoved => exact ⟨fun payload held => .inl held, silent unmoved.jobs⟩
  | reset unmoved => exact ⟨by simp [Phase.work], silent unmoved.jobs⟩
  | draft merchantId unmoved =>
    refine ⟨fun payload held => .inr ?_, silent unmoved.jobs⟩
    obtain ⟨draft, selected, rfl⟩ := List.mem_map.mp held
    exact .draft merchantId draft selected rfl
  | select merchantId drafts unmoved =>
    refine ⟨fun payload held => ?_, silent unmoved.jobs⟩
    rcases List.mem_append.mp held with old | fresh
    · exact .inl old
    · obtain ⟨target, selected, rfl⟩ := List.mem_map.mp fresh
      exact .inr (.deferred merchantId target selected rfl)
  | resolve merchantId drafts targets target listed onto same moves =>
    refine ⟨fun payload held => .inl ?_, silent same.jobs⟩
    rcases onto with rfl | rfl
    · exact held
    · simp [Phase.work] at held
  | enqueue merchantId drafts targets payloads sources queued =>
    refine ⟨by simp [Phase.work], fun job member => ?_⟩
    rw [queued] at member
    rcases List.mem_append.mp member with old | fresh
    · exact .inl old
    · obtain ⟨payload, listed, rfl⟩ := List.mem_map.mp fresh
      refine .inr (List.mem_append.mpr ?_)
      rcases sources payload listed with ⟨draft, present, rfl⟩ | ⟨target, present, rfl⟩
      · exact .inl (List.mem_map.mpr ⟨draft, present, rfl⟩)
      · exact .inr (List.mem_map.mpr ⟨target, present, rfl⟩)

private theorem work_of_task {task : DispatchTask} (member : some task ∈ world.tasks)
    (work : payload ∈ task.phase.work) : payload ∈ world.work := mem_work.mpr (.inr ⟨task, member, work⟩)

private theorem work_of_job {job : Job} (member : job ∈ world.backend.jobs) (opened : job.isOpen = true) :
    job.payload ∈ world.work := mem_work.mpr (.inl ⟨job, member, opened, rfl⟩)

/-- A change of one job that does not reopen it adds no work. -/
private theorem work_modifyJob {index : Nat} {change : Job → Job} {job : Job}
    (member : job ∈ world.backend.jobs.modify index change) (opened : job.isOpen = true)
    (keeps : ∀ job, (change job).payload = job.payload)
    (opens : ∀ job, world.backend.jobs[index]? = some job → (change job).isOpen = true → job.isOpen = true) :
    job.payload ∈ world.work := by
  obtain ⟨place, modified⟩ := List.getElem?_of_mem member
  rw [List.getElem?_modify] at modified
  obtain ⟨old, present, same⟩ := Option.map_eq_some_iff.mp modified
  have stored := List.mem_of_getElem? present
  split at same
  · rename_i here
    subst same here
    rw [keeps]
    exact work_of_job stored (opens old present opened)
  · subst same
    exact work_of_job stored opened

/-- The queue's jobs add no work of their own. -/
private theorem work_of_queued (every : world.tasks.Every Disciplined)
    (moved : (machine context).step world label = some next) {job : Job}
    (queued : job ∈ next.backend.jobs) (opened : job.isOpen = true) : job.payload ∈ world.work := by
  cases step_cases moved with
  | delivered found waiting same =>
    subst same
    refine work_modifyJob queued opened (fun _ => rfl) fun old present _ => ?_
    cases found.symm.trans present
    simp [Job.isOpen, waiting]
  | ticked same | swept live tag same | crashed live same | written same | drafted draft inserted same =>
    subst same
    exact work_of_job queued opened
  | acted live advanced tasks =>
    obtain ⟨acted, _⟩ := acted_of_advance (every.get live) advanced
    cases acted with
    | passed phase pending allowed afterPhase effect =>
      rw [effect.work.1] at queued
      exact work_of_job queued opened
    | swept phase afterPhase effect =>
      rcases effect.work.2 job queued with old | held
      · exact work_of_job old opened
      · exact work_of_task (Pool.task?_mem live) (phase ▸ held)
  | settled live tag ended same =>
    rename_i slot index task outcome
    subst same
    refine work_modifyJob queued opened (fun old => ?_) fun old present reopened => ?_
    · unfold Job.settle
      split
      · cases outcome with
        | ok result => rfl
        | error error =>
          simp only [Job.retry]
          split <;> rfl
      · rfl
    · unfold Job.settle at reopened
      split at reopened
      · rename_i active
        simp [Job.isOpen, active]
      · exact reopened
  | stalled found active same =>
    subst same
    refine work_modifyJob queued opened (fun old => ?_) fun old present _ => ?_
    · unfold Job.stall
      split <;> rfl
    · cases found.symm.trans present
      simp [Job.isOpen, active]

/-- Work comes from earlier work or from what a sweep selects. -/
theorem work_step (every : world.tasks.Every Disciplined)
    (moved : (machine context).step world label = some next) :
    ∀ payload ∈ next.work, payload ∈ world.work ∨ Selected world.backend.db payload := by
  intro payload member
  rcases mem_work.mp member with ⟨job, queued, opened, rfl⟩ | ⟨task, live, work⟩
  · exact .inl (work_of_queued every moved queued opened)
  have replaced {old : DispatchTask} {slot : Nat} (fresh : Option DispatchTask)
      (listed : some task ∈ world.tasks.set slot fresh) :
      payload ∈ world.work ∨ fresh = some task := by
    rcases List.mem_or_eq_of_mem_set listed with present | same
    · exact .inl (work_of_task present work)
    · exact .inr same.symm
  cases step_cases moved with
  | delivered found waiting same =>
    subst same
    rcases List.mem_append.mp live with old | fresh
    · exact .inl (work_of_task old work)
    · cases List.mem_singleton.mp fresh
      cases List.mem_singleton.mp work
      exact .inl (work_of_job (List.mem_of_getElem? found) (by simp [Job.isOpen, waiting]))
  | ticked same =>
    subst same
    rcases List.mem_append.mp live with old | fresh
    · exact .inl (work_of_task old work)
    · cases List.mem_singleton.mp fresh
      simp [Phase.work] at work
  | acted alive advanced tasks =>
    rw [tasks] at live
    rcases List.mem_or_eq_of_mem_set live with old | fresh
    · exact .inl (work_of_task old work)
    cases fresh
    obtain ⟨acted, _⟩ := acted_of_advance (every.get alive) advanced
    cases acted with
    | passed phase pending allowed afterPhase effect =>
      rw [afterPhase] at work
      rcases effect.work.2 with rfl | moved
      · exact .inl (work_of_task (Pool.task?_mem alive) (phase ▸ work))
      · rename_i reached request
        cases reached <;> simp_all [Phase.work]
    | swept phase afterPhase effect =>
      rw [afterPhase] at work
      exact (effect.work.1 payload work).imp (fun held => work_of_task (Pool.task?_mem alive) (phase ▸ held)) id
  | settled alive tag ended same | swept alive tag same | crashed alive same =>
    subst same
    rcases List.mem_or_eq_of_mem_set live with old | fresh
    · exact .inl (work_of_task old work)
    · cases fresh
  | stalled found active same | written same | drafted draft inserted same =>
    subst same
    exact .inl (work_of_task live work)

end Work

end WinBack.Dispatch
