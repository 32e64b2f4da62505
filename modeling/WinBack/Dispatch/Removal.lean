import WinBack.Dispatch.Stopped
import WinBack.Dispatch.Subjects
import WinBack.Compliance.Erasure

/-! Removed customers. A redaction deletes the messages and targets of its customer,
so no later pass finds one; a soft-delete leaves them, and neither the claim, nor the
context, nor the compare-and-set reads `deletedAt`. -/

namespace WinBack.Dispatch

open Library CampaignRepository

/-- Neither the message nor a target of it is stored. -/
structure Gone (messageId : MessageId) (db : Db) : Prop where
  messages : ∀ link ∈ messageLinks db, link.1 ≠ messageId
  targets : ∀ link ∈ targetLinks db, link.1 ≠ messageId

instance (messageId : MessageId) (db : Db) : Decidable (Gone messageId db) :=
  decidable_of_iff
    ((∀ link ∈ messageLinks db, link.1 ≠ messageId) ∧ ∀ link ∈ targetLinks db, link.1 ≠ messageId)
    ⟨fun ⟨messages, targets⟩ => ⟨messages, targets⟩, fun ⟨messages, targets⟩ => ⟨messages, targets⟩⟩

/-- A claim of the message makes no target pending. -/
def Harmless (messageId : MessageId) (world : World) : Prop :=
  Spent messageId world ∨ Gone messageId world.backend.db

instance (messageId : MessageId) (world : World) : Decidable (Harmless messageId world) :=
  inferInstanceAs (Decidable (_ ∨ _))

/-- The subsystem with the messages whose compare-and-set succeeded after the
removal of the target's customer. -/
structure Removing where
  world : World
  late : List MessageId := []

inductive RemovalLabel where
  | dispatch (label : Label)
  | softDeleted (merchantId : MerchantId) (gid : String) (now : Date)
  | redacted (merchantId : MerchantId) (shop : String) (payload : CustomerRedactPayload) (now : Date)

/-- Other components keep the customers and their tombstones, and a new draft has an
id of its own. -/
def keepsSubjects (world : World) : Label → Bool
  | .outside db =>
    world.backend.db.customers.rows.all (fun row => db.customers.any fun later =>
        later.id == row.id && later.merchantId == row.merchantId && later.deletedAt == row.deletedAt) &&
      db.customers.rows.all fun later => later.deletedAt == none ||
        world.backend.db.customers.any fun row => row.id == later.id
  | .draft message => world.work.all fun payload => payload.messageId != message.id
  | _ => true

/-- The message whose target this step moves from `pending` to `sending` although the
customer of the target is removed. -/
def lateStarts (world next : World) : Label → List MessageId
  | .act slot _ =>
    match (world.tasks.task? slot).bind Task.pending? with
    | some (.startSending _ messageId _) =>
      if targetStatus world.backend.db messageId = some .pending ∧
          targetStatus next.backend.db messageId = some .sending ∧
          world.backend.db.campaignTargets.any (fun target =>
            target.messageId == messageId && removed world.backend.db target.customerId) then
        [messageId]
      else []
    | _ => []
  | _ => []

def removing (context : DrainerContext) : Machine Removing RemovalLabel where
  step state label :=
    match label with
    | .dispatch label =>
      if keepsSubjects state.world label then
        ((machine context).step state.world label).map fun next =>
          { world := next, late := lateStarts state.world next label ++ state.late }
      else none
    | .softDeleted merchantId gid now =>
      some { state with
        world := state.world.setDb (CustomerRepository.softDelete merchantId gid now state.world.backend.db).2 }
    | .redacted merchantId shop payload now =>
      match processCustomerRedact merchantId shop payload now state.world.backend.db with
      | .ok db => some { state with world := state.world.setDb db }
      | .error _ => none

/-- A soft-delete finds every target of its customer spent, and every claim for the
customer that is still to come harmless. -/
def softDeletesSettled (world : World) : RemovalLabel → Bool
  | .softDeleted merchantId gid _ =>
    world.backend.db.customers.rows.all fun row =>
      !(CustomerRepository.named merchantId gid row && row.deletedAt == none) ||
        world.backend.db.campaignTargets.rows.all (fun target =>
            target.customerId != row.id || decide (Spent target.messageId world)) &&
          world.work.all fun payload =>
            payload.customerId != row.id || decide (Harmless payload.messageId world)
  | _ => true

/-- The subsystem before its first job. -/
structure Unstarted (world : World) : Prop where
  tasks : world.tasks = []
  jobs : world.backend.jobs = []
  targets : world.backend.db.campaignTargets = ∅

/-- What a payload says about its message and its customer is so. -/
structure Sound (db : Db) (payload : CampaignDispatchJobPayload) : Prop where
  message : ∀ link ∈ messageLinks db, link.1 = payload.messageId → link = payload.link
  customer : (payload.customerId, payload.merchantId) ∈ customerLinks db

structure RemovalSafe (world : World) : Prop where
  disciplined : world.tasks.Every Disciplined
  targets : ∀ link ∈ targetLinks world.backend.db,
    link ∈ messageLinks world.backend.db ∧ link.2 ∈ customerLinks world.backend.db
  work : ∀ payload ∈ world.work, Sound world.backend.db payload
  spentTargets : ∀ link ∈ targetLinks world.backend.db,
    removed world.backend.db link.2.1 = true → Spent link.1 world
  harmlessWork : ∀ payload ∈ world.work,
    removed world.backend.db payload.customerId = true → Harmless payload.messageId world

variable {context : DrainerContext} {world next origin : World} {label : Label}
  {messageId : MessageId} {db : Db}

theorem RemovalSafe.start (unstarted : Unstarted origin) : RemovalSafe origin := by
  have none : targetLinks origin.backend.db = [] := by
    rw [targetLinks, unstarted.targets]
    rfl
  have idle : origin.work = [] := by
    rw [World.work, unstarted.tasks, unstarted.jobs]
    rfl
  refine ⟨?_, by simp [none], by simp [idle], by simp [none], by simp [idle]⟩
  intro task member
  simp [unstarted.tasks] at member

section Dispatch

/-- What a step of the subsystem does to the links: only claims of known work link a
target, and a new message is about no known work. -/
structure LinksStep (world next : World) : Prop where
  customers : ∀ link ∈ customerLinks world.backend.db, link ∈ customerLinks next.backend.db
  removed : ∀ id, removed next.backend.db id = true → removed world.backend.db id = true
  messages : ∀ link ∈ messageLinks world.backend.db, link ∈ messageLinks next.backend.db
  fresh : ∀ link ∈ messageLinks next.backend.db,
    link ∈ messageLinks world.backend.db ∨ ∀ payload ∈ next.work, payload.messageId ≠ link.1
  targets : ∀ link ∈ targetLinks next.backend.db, link ∈ targetLinks world.backend.db ∨
    ∃ payload ∈ world.work, link = payload.link ∧
      targetStatus world.backend.db payload.messageId = none ∧
        ∃ stored ∈ messageLinks world.backend.db, stored.1 = payload.messageId

private theorem linksStep_of_same (links : SameLinks world.backend.db next.backend.db) : LinksStep world next := by
  have owners : customerLinks next.backend.db = customerLinks world.backend.db := by
    rw [customerLinks, links.customers, customerLinks]
  refine ⟨?_, ?_, ?_, ?_, ?_⟩
  · exact fun link member => owners ▸ member
  · intro id
    rw [removed, links.customers, removed]
    exact fun held => held
  · exact fun link member => links.messages ▸ member
  · exact fun link member => .inl (links.messages ▸ member)
  · exact fun link member => .inl (links.targets ▸ member)

private theorem linksStep_of_acted {slot : Nat} {task after : DispatchTask} {choice : Choice}
    (disciplined : Disciplined task) (live : world.tasks.task? slot = some task)
    (moved : task.advance discipline exec world.backend choice = some (next.backend, after)) :
    LinksStep world next := by
  have claims {request : Call} {answer : Except Thrown request.Value}
      (executed : exec world.backend request choice = some (answer, next.backend))
      (known : ∀ scope args, request = .claimTarget scope args →
        ∃ payload ∈ world.work, args = claimArgs payload) : LinksStep world next := by
    rcases exec_links executed with same | ⟨scope, args, call, claimed⟩
    · exact linksStep_of_same same
    obtain ⟨payload, work, rfl⟩ := known scope args call
    have owners : customerLinks next.backend.db = customerLinks world.backend.db := by
      rw [customerLinks, claimed.customers, customerLinks]
    refine ⟨fun link member => owners ▸ member, ?_, fun link member => claimed.messages ▸ member,
      fun link member => .inl (claimed.messages ▸ member), fun link member => ?_⟩
    · intro id
      rw [removed, claimed.customers, removed]
      exact fun held => held
    · refine ((claimed.targets link).mp member).imp id fun same => ?_
      exact ⟨payload, work, same, claimed.absent, claimed.stored⟩
  rcases disciplined with ⟨payload, stage, phase, follows⟩ | ⟨stage, phase, follows⟩
  · obtain ⟨request, answer, _, allowed, executed, _, _, _⟩ := follows.advance moved
    rw [phase] at allowed
    refine claims executed fun scope args call => ?_
    subst call
    cases stage with
    | fresh =>
      refine ⟨payload, mem_work.mpr (.inr ⟨task, Pool.task?_mem live, ?_⟩), allowed.2⟩
      simp [phase, Phase.work]
    | _ => exact False.elim allowed
  · obtain ⟨request, answer, _, allowed, executed, _, _, _⟩ := follows.advance moved
    rw [phase] at allowed
    refine claims executed fun scope args call => ?_
    subst call
    cases stage <;> exact False.elim allowed

private theorem linksStep_of_outside (kept : keepsSubjects world (.outside db) = true) :
    LinksStep world (world.outside db) := by
  simp only [keepsSubjects, Bool.and_eq_true, List.all_eq_true, Bool.or_eq_true, Table.any, List.any_eq_true,
    beq_iff_eq] at kept
  refine ⟨?_, ?_, fun link member => member, fun link member => .inl member, fun link member => .inl member⟩
  · intro link member
    obtain ⟨row, stored, rfl⟩ := mem_customerLinks.mp member
    obtain ⟨later, present, ⟨named, owned⟩, _⟩ := kept.1 row stored
    exact mem_customerLinks.mpr ⟨later, present, by rw [named, owned]⟩
  · intro id held
    obtain ⟨later, present, named, tombstone⟩ := removed_eq_true_iff.mp held
    rcases kept.2 later present with live | ⟨row, stored, same⟩
    · exact absurd live tombstone
    · obtain ⟨other, otherPresent, ⟨otherNamed, _⟩, agreed⟩ := kept.1 row stored
      have only : other = later := customer_unique otherPresent present (otherNamed.trans same)
      exact removed_eq_true_iff.mpr ⟨row, stored, same.trans named, by rw [← agreed, only]; exact tombstone⟩

private theorem linksStep_of_draft {message : Message} {messages : Table Message}
    (kept : keepsSubjects world (.draft message) = true)
    (inserted : world.backend.db.messages.insert? message = some messages) :
    LinksStep world (world.setDb { world.backend.db with messages }) := by
  simp only [keepsSubjects, List.all_eq_true, bne_iff_ne] at kept
  refine ⟨fun link member => member, fun id held => held, fun link member => ?_, fun link member => ?_,
    fun link member => .inl member⟩
  · exact (Table.mem_links_insert? inserted).mpr (.inl member)
  · refine ((Table.mem_links_insert? inserted).mp member).imp id fun fresh payload work => ?_
    have same : (message.id, message.customerId, message.merchantId) = link := Option.some.inj fresh
    rw [← same]
    exact kept payload work

theorem linksStep (every : world.tasks.Every Disciplined) (kept : keepsSubjects world label = true)
    (moved : (machine context).step world label = some next) : LinksStep world next := by
  cases step_cases moved with
  | delivered found waiting same | ticked same | settled live tag ended same | swept live tag same
  | crashed live same | stalled found active same =>
    subst same
    exact linksStep_of_same ⟨rfl, rfl, rfl⟩
  | acted live advanced tasks => exact linksStep_of_acted (every.get live) live advanced
  | written same =>
    subst same
    exact linksStep_of_outside kept
  | drafted draft inserted same =>
    subst same
    exact linksStep_of_draft kept inserted

/-- What a sweep selects is sound, and a removed customer's rows that it selects are spent. -/
private theorem RemovalSafe.of_selected (safe : RemovalSafe world) {payload : CampaignDispatchJobPayload}
    (selected : Selected world.backend.db payload) :
    payload.link ∈ messageLinks world.backend.db ∧ payload.link.2 ∈ customerLinks world.backend.db ∧
      (removed world.backend.db payload.customerId = true → Spent payload.messageId world) := by
  cases selected with
  | draft merchantId draft selected same =>
    subst same
    obtain ⟨linked, row, stored, named, owned, live⟩ := findDispatchableDrafts_live selected
    refine ⟨linked, mem_customerLinks.mpr ⟨row, stored, ?_⟩, fun gone => ?_⟩
    · simp [draftJob, CampaignDispatchJobPayload.link, named, owned]
    · obtain ⟨other, present, also, tombstone⟩ := removed_eq_true_iff.mp gone
      rw [customer_unique present stored (also.trans named.symm)] at tombstone
      exact absurd live tombstone
  | deferred merchantId target selected same =>
    subst same
    have linked := findDeferredTargets_linked selected
    obtain ⟨stored, owned⟩ := safe.targets _ linked
    exact ⟨stored, owned, safe.spentTargets _ linked⟩

/-- A harmless message has no target to be claimed. -/
private theorem Harmless.unclaimable (harmless : Harmless messageId world)
    (absent : targetStatus world.backend.db messageId = none)
    (stored : ∃ link ∈ messageLinks world.backend.db, link.1 = messageId) : False := by
  rcases harmless with spent | gone
  · exact spent.present absent
  · obtain ⟨link, member, named⟩ := stored
    exact gone.messages link member named

/-- Harmless work stays harmless. -/
private theorem Harmless.step {payload : CampaignDispatchJobPayload}
    (harmless : Harmless payload.messageId world) (links : LinksStep world next)
    (event : Event world next label) (work : payload ∈ next.work) : Harmless payload.messageId next := by
  refine harmless.imp (fun spent => spent.step event) fun gone => ⟨fun link member named => ?_,
    fun link member named => ?_⟩
  · rcases links.fresh link member with old | fresh
    · exact gone.messages link old named
    · exact fresh payload work named.symm
  · rcases links.targets link member with old | ⟨claimed, _, same, _, stored, present, also⟩
    · exact gone.targets link old named
    · subst same
      exact gone.messages stored present (also.trans named)

theorem RemovalSafe.dispatch (safe : RemovalSafe world) (kept : keepsSubjects world label = true)
    (moved : (machine context).step world label = some next) : RemovalSafe next := by
  have event := event_of_step safe.disciplined moved
  have links := linksStep safe.disciplined kept moved
  have source := work_step safe.disciplined moved
  refine ⟨disciplined_step safe.disciplined moved, ?_, ?_, ?_, ?_⟩
  · intro link member
    rcases links.targets link member with old | ⟨payload, work, rfl, _, stored, present, named⟩
    · obtain ⟨message, customer⟩ := safe.targets link old
      exact ⟨links.messages _ message, links.customers _ customer⟩
    · have sound := safe.work payload work
      have same := sound.message stored present named
      exact ⟨links.messages _ (same ▸ present), links.customers _ sound.customer⟩
  · intro payload work
    have before : Sound world.backend.db payload := by
      rcases source payload work with old | selected
      · exact safe.work payload old
      · obtain ⟨linked, owned, _⟩ := safe.of_selected selected
        exact ⟨fun link member named => messageLink_unique member linked named, owned⟩
    refine ⟨fun link member named => ?_, links.customers _ before.customer⟩
    rcases links.fresh link member with old | fresh
    · exact before.message link old named
    · exact absurd named.symm (fresh payload work)
  · intro link member gone
    have earlier := links.removed _ gone
    rcases links.targets link member with old | ⟨payload, work, rfl, absent, stored⟩
    · exact (safe.spentTargets link old earlier).step event
    · exact ((safe.harmlessWork payload work earlier).unclaimable absent stored).elim
  · intro payload work gone
    have earlier := links.removed _ gone
    refine Harmless.step ?_ links event work
    rcases source payload work with old | selected
    · exact safe.harmlessWork payload old earlier
    · exact .inl ((safe.of_selected selected).2.2 earlier)

/-- A target of a removed customer is not pending, so no compare-and-set moves it. -/
theorem RemovalSafe.no_lateStart (safe : RemovalSafe world) : lateStarts world next label = [] := by
  unfold lateStarts
  split
  · split
    · rw [if_neg]
      rintro ⟨pending, _, targets⟩
      simp only [Table.any, List.any_eq_true, Bool.and_eq_true, beq_iff_eq] at targets
      obtain ⟨target, stored, named, gone⟩ := targets
      have spent := safe.spentTargets _ (mem_targetLinks.mpr ⟨target, stored, rfl⟩) gone
      exact spent.closed (named ▸ pending)
    · rfl
  · rfl

end Dispatch

section Removals

variable {merchantId : MerchantId} {gid shop : String} {now : Date} {payload : CustomerRedactPayload}

/-- A write of customers alone that keeps their owners moves no task and no target. -/
private theorem Spent.setDb (spent : Spent messageId world)
    (same : targetStatus db messageId = targetStatus world.backend.db messageId) :
    Spent messageId (world.setDb db) :=
  ⟨by rw [World.setDb, same]; exact spent.present, by rw [World.setDb, same]; exact spent.closed, spent.idle⟩

/-- A soft-delete removes the live row of its identifier and nobody else. -/
private theorem removed_softDelete {id : CustomerId}
    (gone : removed (CustomerRepository.softDelete merchantId gid now db).2 id = true) :
    removed db id = true ∨ ∃ row ∈ db.customers.rows, row.id = id ∧
      CustomerRepository.named merchantId gid row = true ∧ row.deletedAt = none := by
  obtain ⟨row, listed, named, tombstone⟩ := removed_eq_true_iff.mp gone
  obtain ⟨old, stored, same⟩ := List.mem_map.mp listed
  split at same
  · rename_i hit
    subst same
    simp only [Bool.and_eq_true, beq_iff_eq] at hit
    exact .inr ⟨old, stored, named, hit⟩
  · subst same
    exact .inl (removed_eq_true_iff.mpr ⟨old, stored, named, tombstone⟩)

theorem RemovalSafe.softDelete (safe : RemovalSafe world)
    (settled : softDeletesSettled world (.softDeleted merchantId gid now) = true) :
    RemovalSafe (world.setDb (CustomerRepository.softDelete merchantId gid now world.backend.db).2) := by
  have owners : customerLinks (CustomerRepository.softDelete merchantId gid now world.backend.db).2 =
      customerLinks world.backend.db := Table.links_update rfl fun _ => rfl
  have targets (id : MessageId) :
      targetStatus (CustomerRepository.softDelete merchantId gid now world.backend.db).2 id =
        targetStatus world.backend.db id := rfl
  simp only [softDeletesSettled, List.all_eq_true, Bool.or_eq_true, Bool.and_eq_true, Bool.not_eq_true',
    bne_iff_ne, decide_eq_true_eq] at settled
  have quiet {id : CustomerId}
      (gone : removed (CustomerRepository.softDelete merchantId gid now world.backend.db).2 id = true) :
      removed world.backend.db id = true ∨
        (∀ target ∈ world.backend.db.campaignTargets.rows,
          target.customerId ≠ id ∨ Spent target.messageId world) ∧
        ∀ payload ∈ world.work, payload.customerId ≠ id ∨ Harmless payload.messageId world := by
    refine (removed_softDelete gone).imp_right ?_
    rintro ⟨row, stored, rfl, named, live⟩
    rcases settled row stored with missed | quiet
    · simp [named, live] at missed
    · exact quiet
  refine ⟨safe.disciplined, ?_, ?_, ?_, ?_⟩
  · intro link member
    obtain ⟨message, customer⟩ := safe.targets link member
    exact ⟨message, owners ▸ customer⟩
  · intro payload work
    have sound := safe.work payload work
    exact ⟨sound.message, owners ▸ sound.customer⟩
  · intro link member gone
    refine Spent.setDb ?_ (targets _)
    rcases quiet gone with earlier | ⟨spent, _⟩
    · exact safe.spentTargets link member earlier
    · obtain ⟨target, stored, rfl⟩ := mem_targetLinks.mp member
      exact (spent target stored).resolve_left fun apart => apart rfl
  · intro payload work gone
    have harmless : Harmless payload.messageId world := by
      rcases quiet gone with earlier | ⟨_, harmless⟩
      · exact safe.harmlessWork payload work earlier
      · exact (harmless payload work).resolve_left fun apart => apart rfl
    exact harmless.imp (fun spent => spent.setDb (targets _)) fun gone => ⟨gone.messages, gone.targets⟩

open Compliance (redactedStore)

/-- A redaction keeps a target exactly when it is not about the customer and its
message is kept. -/
private theorem mem_targets_redactedStore {customer : Customer} {customers : Table Customer}
    {target : CampaignTarget} :
    target ∈ (redactedStore db customer customers).campaignTargets.rows ↔
      target ∈ db.campaignTargets.rows ∧
        ¬(target.merchantId = customer.merchantId ∧ target.customerId = customer.id) ∧
          ∀ message ∈ db.messages.rows, message.id = target.messageId →
            message ∈ (redactedStore db customer customers).messages.rows := by
  simp only [redactedStore, customerRedactChildTables, deleteChildren, deleteGenerations, deleteMessages,
    List.foldl_cons, List.foldl_nil, Table.rows_deleteMany, List.mem_filter, Table.any, Bool.not_eq_true',
    List.any_eq_false, Bool.and_eq_true, beq_iff_eq]
  grind

private theorem mem_messages_redactedStore {customer : Customer} {customers : Table Customer} {message : Message}
    (kept : message ∈ (redactedStore db customer customers).messages.rows) :
    message ∈ db.messages.rows ∧
      ¬(message.merchantId = customer.merchantId ∧ message.customerId = customer.id) := by
  simp [redactedStore, customerRedactChildTables, deleteChildren, deleteGenerations, deleteMessages] at kept
  tauto

private theorem messages_subset {customer : Customer} {customers : Table Customer} {link : Link}
    (member : link ∈ messageLinks (redactedStore db customer customers)) : link ∈ messageLinks db := by
  obtain ⟨message, kept, rfl⟩ := mem_messageLinks.mp member
  exact mem_messageLinks.mpr ⟨message, (mem_messages_redactedStore kept).1, rfl⟩

private theorem targets_subset {customer : Customer} {customers : Table Customer} {link : Link}
    (member : link ∈ targetLinks (redactedStore db customer customers)) : link ∈ targetLinks db := by
  obtain ⟨target, kept, rfl⟩ := mem_targetLinks.mp member
  exact mem_targetLinks.mpr ⟨target, (mem_targets_redactedStore.mp kept).1, rfl⟩

/-- A kept target keeps its status. -/
private theorem targetStatus_redactedStore {customer : Customer} {customers : Table Customer} {target : CampaignTarget}
    (kept : target ∈ (redactedStore db customer customers).campaignTargets.rows) :
    targetStatus (redactedStore db customer customers) target.messageId = targetStatus db target.messageId := by
  rw [targetStatus_of_mem kept, targetStatus_of_mem (mem_targets_redactedStore.mp kept).1]

section Found

variable {customer : Customer} {customers : Table Customer}

private theorem customerLinks_redactedStore
    (updated : world.backend.db.customers.updateChecked?
      (fun row => row.id == customer.id && row.merchantId == customer.merchantId) (redactRow now) = some customers) :
    customerLinks (redactedStore world.backend.db customer customers) = customerLinks world.backend.db :=
  Table.links_update (Table.updateChecked?_rows updated) fun _ => rfl

/-- A redaction removes its customer and nobody else. -/
private theorem removed_redactedStore {id : CustomerId}
    (updated : world.backend.db.customers.updateChecked?
      (fun row => row.id == customer.id && row.merchantId == customer.merchantId) (redactRow now) = some customers)
    (gone : removed (redactedStore world.backend.db customer customers) id = true) :
    id = customer.id ∨ removed world.backend.db id = true := by
  obtain ⟨row, listed, named, tombstone⟩ := removed_eq_true_iff.mp gone
  have rewritten : row ∈ customers.rows := listed
  rw [Table.updateChecked?_rows updated] at rewritten
  obtain ⟨old, present, same⟩ := List.mem_map.mp rewritten
  split at same
  · rename_i hit
    simp only [Bool.and_eq_true, beq_iff_eq] at hit
    subst same
    exact .inl (named.symm.trans hit.1)
  · subst same
    exact .inr (removed_eq_true_iff.mpr ⟨old, present, named, tombstone⟩)

/-- Work of the redacted customer finds neither message nor target. -/
private theorem gone_of_redacted (stored : customer ∈ world.backend.db.customers.rows) (safe : RemovalSafe world)
    {payload : CampaignDispatchJobPayload}
    (sound : Sound world.backend.db payload) (about : payload.customerId = customer.id) :
    Gone payload.messageId (redactedStore world.backend.db customer customers) := by
  obtain ⟨row, present, owned⟩ := mem_customerLinks.mp sound.customer
  obtain ⟨named, merchant⟩ := Prod.mk.inj owned
  rw [customer_unique present stored (named.trans about)] at merchant
  have unstored : ∀ link ∈ messageLinks (redactedStore world.backend.db customer customers),
      link.1 ≠ payload.messageId := by
    intro link member same
    obtain ⟨message, kept, rfl⟩ := mem_messageLinks.mp member
    have linked := sound.message _ (messages_subset member) same
    simp only [CampaignDispatchJobPayload.link, Prod.mk.injEq] at linked
    exact (mem_messages_redactedStore kept).2 ⟨linked.2.2.trans merchant.symm, linked.2.1.trans about⟩
  refine ⟨unstored, fun link member same => ?_⟩
  obtain ⟨target, kept, rfl⟩ := mem_targetLinks.mp member
  obtain ⟨message, listed, linked⟩ := mem_messageLinks.mp (safe.targets _ (targets_subset member)).1
  have still := (mem_targets_redactedStore.mp kept).2.2 message listed (congrArg Prod.fst linked)
  exact unstored _ (mem_messageLinks.mpr ⟨message, still, linked⟩) same

/-- Work on a spent target of another customer stays harmless: the target is kept, or
its message is deleted along with it. -/
private theorem harmless_of_spent (safe : RemovalSafe world) {payload : CampaignDispatchJobPayload}
    (sound : Sound world.backend.db payload) (other : payload.customerId ≠ customer.id)
    (spent : Spent payload.messageId world) :
    Harmless payload.messageId (world.setDb (redactedStore world.backend.db customer customers)) := by
  obtain ⟨link, member, named⟩ := targetStatus_ne_none_iff.mp spent.present
  have linked := sound.message link (safe.targets link member).1 named
  obtain ⟨target, present, same⟩ := mem_targetLinks.mp member
  rw [linked] at same
  obtain ⟨messageSame, customerSame, _⟩ := Prod.mk.inj same |>.imp id Prod.mk.inj
  by_cases kept : target ∈ (redactedStore world.backend.db customer customers).campaignTargets.rows
  · refine .inl (spent.setDb ?_)
    rw [← messageSame]
    exact targetStatus_redactedStore kept
  · rw [mem_targets_redactedStore] at kept
    push Not at kept
    obtain ⟨message, listed, about, deleted⟩ := kept present fun _ same => other (customerSame ▸ same)
    refine .inr ⟨fun link member same => ?_, fun link member same => ?_⟩
    · obtain ⟨later, still, rfl⟩ := mem_messageLinks.mp member
      have old := (mem_messages_redactedStore still).1
      have one := message_unique old listed (same.trans (messageSame.symm.trans about.symm))
      exact deleted (one ▸ still)
    · obtain ⟨later, still, rfl⟩ := mem_targetLinks.mp member
      obtain ⟨old, _, messages⟩ := mem_targets_redactedStore.mp still
      exact deleted (messages message listed (about.trans (messageSame.trans same.symm)))

private theorem RemovalSafe.redactFound
    (updated : world.backend.db.customers.updateChecked?
      (fun row => row.id == customer.id && row.merchantId == customer.merchantId) (redactRow now) = some customers)
    (stored : customer ∈ world.backend.db.customers.rows)
    (safe : RemovalSafe world) (live : customer.deletedAt = none) :
    RemovalSafe (world.setDb (redactedStore world.backend.db customer customers)) := by
  have owners := customerLinks_redactedStore updated
  have alive : removed world.backend.db customer.id ≠ true := by
    intro gone
    obtain ⟨row, present, named, tombstone⟩ := removed_eq_true_iff.mp gone
    rw [customer_unique present stored named] at tombstone
    exact tombstone live
  refine ⟨safe.disciplined, ?_, ?_, ?_, ?_⟩
  · intro link member
    obtain ⟨message, customer⟩ := safe.targets link (targets_subset member)
    refine ⟨?_, owners ▸ customer⟩
    obtain ⟨target, kept, rfl⟩ := mem_targetLinks.mp member
    obtain ⟨row, listed, linked⟩ := mem_messageLinks.mp message
    exact mem_messageLinks.mpr
      ⟨row, (mem_targets_redactedStore.mp kept).2.2 row listed (congrArg Prod.fst linked), linked⟩
  · intro payload work
    have sound := safe.work payload work
    exact ⟨fun link member => sound.message link (messages_subset member), owners ▸ sound.customer⟩
  · intro link member gone
    obtain ⟨target, kept, rfl⟩ := mem_targetLinks.mp member
    have before := targets_subset member
    rcases removed_redactedStore updated gone with about | earlier
    · -- the targets of the redacted customer are deleted
      obtain ⟨row, present, owned⟩ := mem_customerLinks.mp (safe.targets _ before).2
      obtain ⟨named, merchant⟩ := Prod.mk.inj owned
      rw [customer_unique present stored (named.trans about)] at merchant
      exact absurd ⟨merchant.symm, about⟩ (mem_targets_redactedStore.mp kept).2.1
    · exact (safe.spentTargets _ before earlier).setDb (targetStatus_redactedStore kept)
  · intro payload work gone
    have sound := safe.work payload work
    rcases removed_redactedStore updated gone with about | earlier
    · exact .inr (gone_of_redacted stored safe sound about)
    · rcases safe.harmlessWork payload work earlier with spent | absent
      · refine harmless_of_spent safe sound (fun same => ?_) spent
        exact alive (same ▸ earlier)
      · exact .inr ⟨fun link member => absent.messages link (messages_subset member),
          fun link member => absent.targets link (targets_subset member)⟩

end Found

/-- A write of the audit log alone. -/
private theorem RemovalSafe.audited (safe : RemovalSafe world) (logs : List AuditLog) :
    RemovalSafe (world.setDb { world.backend.db with auditLogs := logs }) where
  disciplined := safe.disciplined
  targets := safe.targets
  work payload work := ⟨(safe.work payload work).message, (safe.work payload work).customer⟩
  spentTargets link member gone := (safe.spentTargets link member gone).setDb rfl
  harmlessWork payload work gone := (safe.harmlessWork payload work gone).imp (fun spent => spent.setDb rfl)
    fun absent => ⟨absent.messages, absent.targets⟩

theorem RemovalSafe.redact (safe : RemovalSafe world)
    (redacted : processCustomerRedact merchantId shop payload now world.backend.db = .ok db) :
    RemovalSafe (world.setDb db) := by
  unfold processCustomerRedact at redacted
  split at redacted
  · cases redacted
    exact safe.audited _
  split at redacted
  · cases redacted
    exact safe.audited _
  rename_i customer found
  obtain ⟨stored, rfl, _, live⟩ := Compliance.findByShopifyId_eq_some_iff.mp found
  split at redacted
  · cases redacted
  rename_i customers updated
  cases redacted
  exact (RemovalSafe.redactFound updated stored safe live).audited _

end Removals

variable {state after final : Removing} {removal : RemovalLabel}

/-- Nothing was started late, and nothing can be. -/
structure NoneLate (state : Removing) : Prop where
  safe : RemovalSafe state.world
  none : state.late = []

theorem NoneLate.step (settled : softDeletesSettled state.world removal = true)
    (moved : (removing context).step state removal = some after) (before : NoneLate state) : NoneLate after := by
  obtain ⟨safe, none⟩ := before
  cases removal with
  | dispatch label =>
    simp only [removing] at moved
    split at moved
    · rename_i kept
      obtain ⟨next, stepped, same⟩ := Option.map_eq_some_iff.mp moved
      subst same
      exact ⟨safe.dispatch kept stepped, by simp only [safe.no_lateStart, none, List.append_nil]⟩
    · cases moved
  | softDeleted merchantId gid now =>
    cases moved
    exact ⟨safe.softDelete settled, none⟩
  | redacted merchantId shop payload now =>
    simp only [removing] at moved
    split at moved
    · rename_i db redacted
      cases moved
      exact ⟨safe.redact redacted, none⟩
    · cases moved

/-- In every run whose soft-deletes find their customer's dispatch settled, no
compare-and-set succeeds for a removed customer. -/
theorem no_start_after_removal (unstarted : Unstarted origin)
    (reach : Machine.Reach (removing context)
      (fun state label => softDeletesSettled state.world label = true) { world := origin } final) :
    final.late = [] := by
  have kept : NoneLate final := by
    apply reach.invariant ⟨.start unstarted, rfl⟩
    intro middle label next settled moved before
    exact before.step settled moved
  exact kept.none

def dispatched (labels : List Label) : List RemovalLabel := labels.map .dispatch

/-- The draft is sent, its customer is soft-deleted, and a sweep finds nothing left. -/
def deletedAfterSend : List RemovalLabel :=
  dispatched ([.tick] ++ acts 0 5 smooth ++ [.settle 0, .deliver 0] ++ acts 1 13 smooth ++ [.settle 1]) ++
    [.softDeleted "m" "gid://shopify/Customer/1" 0] ++ dispatched ([.tick] ++ acts 2 4 smooth)

theorem deletedAfterSend_run :
    ((removing utcContext).runWhere (fun state label => softDeletesSettled state.world label)
      { world := oneDraftWorld } deletedAfterSend).isSome := by
  decide

def deletedAfterSendState : Removing :=
  ((removing utcContext).runWhere (fun state label => softDeletesSettled state.world label)
    { world := oneDraftWorld } deletedAfterSend).get deletedAfterSend_run

theorem no_start_after_send :
    deletedAfterSendState.late = [] ∧ removed deletedAfterSendState.world.backend.db "u" = true :=
  ⟨no_start_after_removal ⟨rfl, rfl, rfl⟩ (Machine.reach_get deletedAfterSend_run), by decide⟩

/-- The sweep enqueues the draft, its customer is soft-deleted, and the job is
delivered. -/
def deletedInQueue : List RemovalLabel :=
  dispatched ([.tick] ++ acts 0 5 smooth ++ [.settle 0]) ++
    [.softDeleted "m" "gid://shopify/Customer/1" 0] ++ dispatched ([.deliver 0] ++ acts 1 13 smooth)

theorem deletedInQueue_run :
    ((removing utcContext).runWhere (fun _ _ => true) { world := oneDraftWorld } deletedInQueue).isSome := by
  decide

def deletedInQueueState : Removing :=
  ((removing utcContext).runWhere (fun _ _ => true) { world := oneDraftWorld } deletedInQueue).get
    deletedInQueue_run

theorem deleted_customer_started :
    ¬∀ context origin final, Unstarted origin →
      Machine.Reach (removing context) (fun _ _ => True) { world := origin } final → final.late = [] := by
  intro none
  have reach := (Machine.reach_get deletedInQueue_run).mono fun _ _ _ => trivial
  have quiet := none utcContext oneDraftWorld deletedInQueueState ⟨rfl, rfl, rfl⟩ reach
  revert quiet
  decide

end WinBack.Dispatch
