import WinBack.Pipeline.Letters

/-! What customers are sent: over every run of the pipeline, a pass sends to a customer the text that a generation of
this customer was completed with, with the discount code of the generation in it. -/

namespace WinBack.Pipeline

open Library Machine

section Invariant

variable (worker : Generation.WorkerContext) (past : List World) (world : World)

/-- The message is there no more, or it has a text and is the customer's. -/
def Settled (link : Dispatch.Link) : Prop :=
  link.1 ∈ world.issued ∧ ∀ letter ∈ letters world.db, letter.id = link.1 →
    letter.generatedText ≠ "" ∧ letter.customerId = link.2.1 ∧ letter.merchantId = link.2.2

/-- What a pass has loaded is what the message still says, and the address was the customer's in a state that the run
has passed. -/
structure Loaded (messageId : MessageId) (target : DispatchContext) : Prop where
  issued : messageId ∈ world.issued
  written : target.generatedText ≠ ""
  reads : ∀ letter ∈ letters world.db, letter.id = messageId →
    letter.generatedText = target.generatedText ∧ letter.customerId = target.customerId
  address : ∃ earlier ∈ world :: past, ∃ customer ∈ earlier.db.customers.rows,
    customer.id = target.customerId ∧ customer.email = target.customerEmail

def Sends (task : Dispatch.DispatchTask) : Prop :=
  ∃ memory, task.script.Obeys Dispatch.recalling memory (fun _ _ => True) ∧
    ∀ target, memory.target = some target → Loaded past world memory.messageId target

def Mints (task : Generation.WorkerTask) : Prop :=
  ∃ memory, task.script.Obeys (Generation.recalling worker) memory (fun _ _ => True) ∧
    ∀ code, memory.minted = some code →
      code = Generation.deriveWinbackDiscountCode worker memory.payload.merchantId memory.payload.aiGenerationId

structure Sound : Prop where
  disciplined : world.dispatch.tasks.Every Dispatch.Disciplined
  issued : ∀ letter ∈ letters world.db, letter.id ∈ world.issued
  written : Written world.db
  carries : Carries worker world.db
  targets : ∀ link ∈ Dispatch.targetLinks world.db, Settled world link
  work : ∀ payload ∈ world.dispatch.work, Settled world payload.link
  sends : world.dispatch.tasks.Every (Sends past world)
  mints : world.workers.Every (Mints worker)

end Invariant

variable {drainer : Dispatch.DrainerContext} {worker : Generation.WorkerContext} {past : List World}
  {origin world next : World} {label : Label}

section Steps

/-- What a step of the whole system leaves true of its messages. -/
structure Later (world next : World) : Prop where
  issued : world.issued ⊆ next.issued
  kept : ∀ letter ∈ letters next.db, letter.id ∈ world.issued → ∃ old ∈ letters world.db, old.Becomes letter

/-- A step may add messages with new ids. -/
theorem later_of_kept {fresh : List MessageId} (issued : next.issued = world.issued ++ fresh)
    (apart : ∀ id ∈ fresh, id ∉ world.issued) (kept : Kept fresh world.db next.db) : Later world next where
  issued := by
    rw [issued]
    exact List.subset_append_left _ _
  kept letter stored known := (kept letter stored).resolve_left fun listed => apart _ listed known

theorem issued_of_kept {fresh : List MessageId} (issued : next.issued = world.issued ++ fresh)
    (kept : Kept fresh world.db next.db) (known : ∀ letter ∈ letters world.db, letter.id ∈ world.issued) :
    ∀ letter ∈ letters next.db, letter.id ∈ next.issued := by
  intro letter stored
  rw [issued]
  rcases kept letter stored with listed | ⟨old, before, ⟨own, _⟩, _⟩
  · exact List.mem_append_right _ listed
  · exact List.mem_append_left _ (own ▸ known old before)

theorem Settled.later {link : Dispatch.Link} (settled : Settled world link) (later : Later world next) :
    Settled next link := by
  refine ⟨later.issued settled.1, fun letter stored named => ?_⟩
  obtain ⟨old, before, ⟨own, merchant, customer⟩, text⟩ := later.kept letter stored (named ▸ settled.1)
  obtain ⟨some, whose, where_⟩ := settled.2 old before (own.trans named)
  rcases text with empty | same
  · exact absurd empty some
  · exact ⟨same ▸ some, customer ▸ whose, merchant ▸ where_⟩

theorem Loaded.later {messageId : MessageId} {target : DispatchContext}
    (loaded : Loaded past world messageId target) (later : Later world next) :
    Loaded (world :: past) next messageId target where
  issued := later.issued loaded.issued
  written := loaded.written
  reads letter stored named := by
    obtain ⟨old, before, ⟨own, _, customer⟩, text⟩ := later.kept letter stored (named ▸ loaded.issued)
    obtain ⟨same, whose⟩ := loaded.reads old before (own.trans named)
    rcases text with empty | kept
    · exact absurd (same.symm.trans empty) loaded.written
    · exact ⟨kept ▸ same, customer ▸ whose⟩
  address := by
    obtain ⟨earlier, passed, customer⟩ := loaded.address
    exact ⟨earlier, List.mem_cons_of_mem _ passed, customer⟩

theorem Sends.later {task : Dispatch.DispatchTask} (sends : Sends past world task) (later : Later world next) :
    Sends (world :: past) next task := by
  obtain ⟨memory, obeys, loaded⟩ := sends
  exact ⟨memory, obeys, fun target held => (loaded target held).later later⟩

/-- What a sweep selects has a text. -/
theorem Sound.selected {payload : Dispatch.CampaignDispatchJobPayload} (sound : Sound worker past world)
    (selected : Dispatch.Selected world.db payload) : Settled world payload.link := by
  cases selected with
  | draft merchantId draft selected same =>
    subst same
    have linked := (Dispatch.findDispatchableDrafts_live selected).1
    obtain ⟨message, member, picked⟩ := List.mem_filterMap.mp (List.mem_of_mem_take selected)
    have stored : message ∈ world.db.messages.rows := by simpa using member
    have said : message.generatedText ≠ "" ∧ draft.messageId = message.id := by
      unfold CampaignRepository.dispatchableDraft? at picked
      split at picked
      · rename_i eligible
        simp only [Bool.and_eq_true, bne_iff_ne] at eligible
        split at picked
        · cases picked
        · obtain ⟨campaign, _, rfl⟩ := Option.map_eq_some_iff.mp picked
          exact ⟨eligible.1.1.2, rfl⟩
      · cases picked
    refine ⟨?_, fun letter listed named => ?_⟩
    · exact (congrArg (· ∈ world.issued) said.2).mpr (sound.issued _ (mem_letters.mpr ⟨message, stored, rfl⟩))
    · obtain ⟨row, present, rfl⟩ := mem_letters.mp listed
      obtain rfl := CampaignRepository.message_unique present stored (Eq.trans named said.2)
      have whose := Dispatch.messageLink_unique (Dispatch.mem_messageLinks.mpr ⟨row, present, rfl⟩) linked named
      exact ⟨said.1, congrArg (fun link => link.2.1) whose, congrArg (fun link => link.2.2) whose⟩
  | deferred merchantId target selected same =>
    subst same
    exact sound.targets _ (Dispatch.findDeferredTargets_linked selected)

/-- A pass claims the work it was given. -/
theorem claimed_work {dispatch : Dispatch.World} {task : Dispatch.DispatchTask} {scope : MerchantId} {args : ClaimTargetArgs}
    (disciplined : Dispatch.Disciplined task) (member : some task ∈ dispatch.tasks)
    (pending : task.pending? = some (.claimTarget scope args)) :
    ∃ payload ∈ dispatch.work, args = Dispatch.claimArgs payload := by
  rcases disciplined with ⟨payload, stage, phase, follows⟩ | ⟨stage, phase, follows⟩
  · have allowed := follows.pending pending
    rw [phase] at allowed
    cases stage with
    | fresh => exact ⟨payload, Dispatch.mem_work.mpr (.inr ⟨task, member, by simp [phase, Dispatch.Phase.work]⟩), allowed.2⟩
    | _ => exact allowed.elim
  · have allowed := follows.pending pending
    rw [phase] at allowed
    cases stage <;> exact allowed.elim

/-- The target of a load, its customer and its message. -/
theorem loaded_rows {db : Db} {messageId : MessageId} {target : DispatchContext}
    (loaded : CampaignRepository.loadDispatchContext db messageId = some target) :
    (∃ link ∈ Dispatch.targetLinks db, link.1 = messageId ∧ link.2.1 = target.customerId) ∧
      (∃ customer ∈ db.customers.rows, customer.id = target.customerId ∧ customer.email = target.customerEmail) ∧
        ∃ letter ∈ letters db, letter.id = messageId ∧ letter.generatedText = target.generatedText := by
  simp only [CampaignRepository.loadDispatchContext, bind, Option.bind_eq_some_iff, pure, Option.some.injEq] at loaded
  obtain ⟨row, found, settings, _, merchant, _, customer, known, message, read, generation, _, rfl⟩ := loaded
  obtain ⟨stored, named⟩ := Table.find?_mem found
  obtain ⟨present, own⟩ := Table.find?_mem known
  obtain ⟨listed, same⟩ := Table.find?_mem read
  rw [beq_iff_eq] at named own same
  exact ⟨⟨_, Dispatch.mem_targetLinks.mpr ⟨row, stored, rfl⟩, named, rfl⟩, ⟨customer, present, own, rfl⟩,
    letter message, mem_letters.mpr ⟨message, listed, rfl⟩, same.trans named, rfl⟩

/-- A load reads a message with a text. -/
theorem Sound.loads {messageId : MessageId} {target : DispatchContext} (sound : Sound worker past world)
    (read : CampaignRepository.loadDispatchContext world.db messageId = some target) :
    Loaded past world messageId target := by
  obtain ⟨⟨link, linked, named, whose⟩, customer, said, stored, own, text⟩ := loaded_rows read
  obtain ⟨issued, settled⟩ := sound.targets link linked
  have one {other : Letter} (listed : other ∈ letters world.db) (same : other.id = messageId) : other = said := by
    obtain ⟨first, here, rfl⟩ := mem_letters.mp listed
    obtain ⟨second, there, rfl⟩ := mem_letters.mp stored
    rw [CampaignRepository.message_unique here there (same.trans own.symm)]
  refine ⟨named ▸ issued, text ▸ (settled said stored (own.trans named.symm)).1, fun letter listed same => ?_,
    world, List.mem_cons_self, customer⟩
  rw [one listed same]
  exact ⟨text, (settled said stored (own.trans named.symm)).2.1.trans whose⟩

/-- What a pass remembers after its next call. -/
theorem Sound.remembers {memory : Dispatch.Recall} {request : Dispatch.Call} {choice : Dispatch.Choice}
    {answer : Except Dispatch.Thrown request.Value} {after : Dispatch.Backend} (sound : Sound worker past world)
    (allowed : Dispatch.recalling.allowed memory request)
    (executed : Dispatch.exec world.dispatch.backend request choice = some (answer, after))
    (loaded : ∀ target, memory.target = some target → Loaded past world memory.messageId target) :
    (Dispatch.recalling.next memory request answer).messageId = memory.messageId ∧
      ∀ target, (Dispatch.recalling.next memory request answer).target = some target →
        Loaded past world memory.messageId target := by
  cases request with
  | query read =>
    cases read with
    | loadDispatchContext messageId =>
      rcases answer with error | _ | target
      · exact ⟨rfl, loaded⟩
      · exact ⟨rfl, loaded⟩
      · refine ⟨rfl, fun held same => ?_⟩
        obtain rfl : target = held := Option.some.inj same
        obtain rfl : messageId = memory.messageId := allowed
        have answered := (Option.some.inj executed)
        split at answered
        · exact sound.loads (Except.ok.inj (congrArg Prod.fst answered))
        · cases answered
    | _ => exact ⟨rfl, loaded⟩
  | _ => exact ⟨rfl, loaded⟩

/-- The tasks of the dispatch subsystem after a step of it: those that were there, one of them with its call made, or
a new one. -/
theorem dispatched_tasks {dispatch : Dispatch.World} {step : Dispatch.Label}
    (moved : (Dispatch.machine drainer).step world.dispatch step = some dispatch)
    (inner : ∀ message, step ≠ .draft message) (kept : ∀ db, step ≠ .outside db) :
    ((∀ task, some task ∈ dispatch.tasks → some task ∈ world.dispatch.tasks ∨
        ∃ memory : Dispatch.Recall, memory.target = none ∧ task.script.Obeys Dispatch.recalling memory fun _ _ => True) ∧
      dispatch.backend.db = world.db) ∨
      ∃ slot choice task after, world.dispatch.tasks.task? slot = some task ∧
        task.advance Dispatch.discipline Dispatch.exec world.dispatch.backend choice = some (dispatch.backend, after) ∧
          dispatch.tasks = world.dispatch.tasks.put slot after := by
  cases Dispatch.step_cases moved with
  | delivered found waiting same =>
    subst same
    refine .inl ⟨fun task member => ?_, rfl⟩
    rcases List.mem_append.mp member with old | fresh
    · exact .inl old
    · cases List.mem_singleton.mp fresh
      exact .inr ⟨_, rfl, Dispatch.processCampaignDispatchJob_recalls⟩
  | ticked same =>
    subst same
    refine .inl ⟨fun task member => ?_, rfl⟩
    rcases List.mem_append.mp member with old | fresh
    · exact .inl old
    · cases List.mem_singleton.mp fresh
      exact .inr ⟨⟨"", none⟩, rfl, (Dispatch.recall_only Dispatch.runDispatchSweep_plain).mono fun _ _ _ => trivial⟩
  | acted live advanced tasks => exact .inr ⟨_, _, _, _, live, advanced, tasks⟩
  | settled live tag ended same | swept live tag same | crashed live same =>
    subst same
    refine .inl ⟨fun task member => ?_, rfl⟩
    rcases List.mem_or_eq_of_mem_set member with old | fresh
    · exact .inl old
    · cases fresh
  | stalled found active same =>
    subst same
    exact .inl ⟨fun task member => .inl member, rfl⟩
  | written same => exact absurd rfl (kept _)
  | drafted draft inserted same => exact absurd rfl (inner _)

/-- A step of the dispatch subsystem. -/
theorem Sound.dispatched {step : Dispatch.Label} (sound : Sound worker past world)
    (moved : (Dispatch.machine drainer).step world.dispatch step = some next.dispatch)
    (inner : ∀ message, step ≠ .draft message) (kept : ∀ db, step ≠ .outside db)
    (workers : next.workers = world.workers) (issued : next.issued = world.issued) :
    Sound worker (world :: past) next := by
  have disciplined := Dispatch.disciplined_step sound.disciplined moved
  -- what is left once texts, tasks and targets are known
  have rest (texts : SameTexts world.db next.db)
      (sends : Later world next → next.dispatch.tasks.Every (Sends (world :: past) next))
      (targets : ∀ link ∈ Dispatch.targetLinks next.db, Settled world link) : Sound worker (world :: past) next := by
    have later : Later world next :=
      later_of_kept (issued.trans (List.append_nil _).symm) (fun _ => by simp) texts.kept
    refine ⟨disciplined, ?_, texts.written sound.written, texts.carries sound.carries,
      fun link linked => (targets link linked).later later, fun payload listed => ?_, sends later, ?_⟩
    · rw [texts.letters, issued]
      exact sound.issued
    · rcases Dispatch.work_step sound.disciplined moved payload listed with old | selected
      · exact (sound.work payload old).later later
      · exact (sound.selected selected).later later
    · rw [workers]
      exact sound.mints
  rcases dispatched_tasks moved inner kept with ⟨tasks, same⟩ | ⟨slot, choice, task, after, live, advanced, tasks⟩
  · have same : next.db = world.db := same
    refine rest (by rw [same]; exact ⟨rfl, rfl⟩) (fun later task member => ?_) (by rw [same]; exact sound.targets)
    rcases tasks task member with old | ⟨memory, unloaded, obeys⟩
    · exact (sound.sends task old).later later
    · refine ⟨memory, obeys, fun target held => ?_⟩
      rw [unloaded] at held
      cases held
  · obtain ⟨memory, obeys, loaded⟩ := sound.sends.get live
    obtain ⟨request, answer, pending, allowed, executed, continues⟩ := Task.advance_obeys obeys advanced
    have texts : SameTexts world.db next.db := texts_exec executed
    refine rest texts (fun later => ?_) fun link linked => ?_
    · rw [tasks]
      have others : world.dispatch.tasks.Every (Sends (world :: past) next) :=
        fun other member => (sound.sends other member).later later
      obtain ⟨same, holds⟩ := sound.remembers allowed executed loaded
      exact others.put ⟨_, continues, fun target held => same ▸ (holds target held).later later⟩
    · rcases Dispatch.exec_links executed with links | ⟨scope, args, rfl, claimed⟩
      · exact sound.targets link (links.targets ▸ linked)
      · rcases (claimed.targets link).mp linked with old | rfl
        · exact sound.targets link old
        · obtain ⟨payload, listed, rfl⟩ := claimed_work (sound.disciplined.get live) (Pool.task?_mem live) pending
          exact sound.work payload listed

/-- What a worker's call does to the texts. -/
theorem called_texts {memory : Generation.Recall} {db after : Db} {request : Generation.Call} {choice : Generation.Choice}
    {answer : Except Generation.Thrown request.Value}
    (executed : Generation.exec db request choice = some (answer, after))
    (allowed : (Generation.recalling worker).allowed memory request)
    (derived : ∀ code, memory.minted = some code →
      code = Generation.deriveWinbackDiscountCode worker memory.payload.merchantId memory.payload.aiGenerationId)
    (written : Written db) (carries : Carries worker db) :
    Written after ∧ Carries worker after ∧ Kept [] db after := by
  rcases Generation.exec_cases executed with rfl | ⟨scope, generationId, lastError, audits, _, rfl⟩ |
      ⟨scope, completion, rfl, done⟩
  · exact ⟨written, carries, fun letter stored => .inr ⟨letter, stored, .refl letter⟩⟩
  · exact ⟨written.failed rfl (fun _ => ⟨rfl, rfl, rfl⟩) rfl, carries.updated rfl fun _ => ⟨rfl, rfl, rfl, rfl⟩,
      fun letter stored => .inr ⟨letter, stored, .refl letter⟩⟩
  · obtain ⟨rfl, named, carried⟩ := allowed
    have filled : Written after ∧ Kept [] db after := written.completed done
    exact ⟨filled.1, carries.completed done carried (named ▸ derived), filled.2⟩

/-- Shopify answers with the code it was asked for. -/
theorem remembers_minted {memory : Generation.Recall} {db after : Db} {request : Generation.Call} {choice : Generation.Choice}
    {answer : Except Generation.Thrown request.Value} (executed : Generation.exec db request choice = some (answer, after))
    (allowed : (Generation.recalling worker).allowed memory request)
    (derived : ∀ code, memory.minted = some code →
      code = Generation.deriveWinbackDiscountCode worker memory.payload.merchantId memory.payload.aiGenerationId) :
    ((Generation.recalling worker).next memory request answer).payload = memory.payload ∧
      ∀ code, ((Generation.recalling worker).next memory request answer).minted = some code →
        code = Generation.deriveWinbackDiscountCode worker memory.payload.merchantId memory.payload.aiGenerationId := by
  cases request with
  | mint args =>
    rcases answer with error | created
    · exact ⟨rfl, derived⟩
    · refine ⟨rfl, fun code held => ?_⟩
      obtain rfl : created.code = code := Option.some.inj held
      have answered : Generation.createWinbackDiscountCode args choice.shopify = .ok created :=
        congrArg Prod.fst (Option.some.inj executed)
      refine Eq.trans ?_ allowed
      unfold Generation.createWinbackDiscountCode at answered
      split at answered <;> cases answered <;> rfl
  | _ => exact ⟨rfl, derived⟩

/-- The workers neither claim nor remove a target. -/
theorem worked_targets {step : Generation.Label} {before after : Generation.World}
    (moved : (Generation.machine worker).step before step = some after)
    (inner : ∀ db rewrite audits, step ≠ .outside db rewrite audits) :
    after.db.campaignTargets = before.db.campaignTargets := by
  cases step with
  | deliver job =>
    cases moved
    rfl
  | act slot choice =>
    obtain ⟨task, _, moved⟩ := Option.bind_eq_some_iff.mp moved
    obtain ⟨⟨db, next⟩, advanced, rfl⟩ := Option.map_eq_some_iff.mp moved
    obtain ⟨request, _, answer, _, executed, _⟩ := Task.advance_cases advanced
    rcases Generation.exec_cases executed with rfl | ⟨_, _, _, _, _, rfl⟩ | ⟨_, _, _, done⟩
    · rfl
    · rfl
    · exact (completeGeneration_cases done).1
  | crash slot =>
    obtain ⟨task, _, rfl⟩ := Option.map_eq_some_iff.mp moved
    rfl
  | created merchantId customerId args now =>
    simp only [Generation.machine] at moved
    split at moved
    · cases moved
    · rename_i db done
      cases moved
      obtain ⟨_, _, _, _, rfl⟩ := createGeneration_ok done
      rfl
  | outside db rewrite audits => exact absurd rfl (inner _ _ _)

/-- A step of the generation workers. -/
theorem Sound.worked {step : Generation.Label} (sound : Sound worker past world)
    (moved : (Generation.machine worker).step ⟨world.db, world.workers⟩ step = some ⟨next.db, next.workers⟩)
    (inner : ∀ db rewrite audits, step ≠ .outside db rewrite audits)
    (dispatch : next.dispatch = world.dispatch.setDb next.db)
    (issued : next.issued = world.issued ++ issue step) (fresh : ∀ id ∈ issue step, id ∉ world.issued) :
    Sound worker (world :: past) next := by
  have links : Dispatch.targetLinks next.db = Dispatch.targetLinks world.db :=
    by rw [Dispatch.targetLinks, Dispatch.targetLinks, show next.db.campaignTargets = _ from worked_targets moved inner]
  have rest (written : Written next.db) (carries : Carries worker next.db) (kept : Kept (issue step) world.db next.db)
      (mints : next.workers.Every (Mints worker)) : Sound worker (world :: past) next := by
    have later : Later world next := later_of_kept issued fresh kept
    refine ⟨?_, issued_of_kept issued kept sound.issued, written, carries, fun link linked => ?_, ?_, ?_, mints⟩
    · rw [dispatch]
      exact sound.disciplined
    · exact (sound.targets link (links ▸ linked)).later later
    · rw [dispatch]
      exact fun payload listed => (sound.work payload listed).later later
    · rw [dispatch]
      exact fun task member => (sound.sends task member).later later
  cases step with
  | deliver job =>
    obtain ⟨same, tasks⟩ := Generation.World.mk.inj (Option.some.inj moved)
    refine rest (same ▸ sound.written) (same ▸ sound.carries) (same ▸ fun letter stored => .inr ⟨letter, stored, .refl letter⟩) ?_
    rw [← tasks]
    refine sound.mints.spawn ⟨⟨job.data, none⟩, Generation.processAiGenerateJob_recalls, fun code held => ?_⟩
    cases held
  | act slot choice =>
    obtain ⟨task, live, moved⟩ := Option.bind_eq_some_iff.mp moved
    obtain ⟨⟨db, after⟩, advanced, same⟩ := Option.map_eq_some_iff.mp moved
    obtain ⟨rfl, tasks⟩ := Generation.World.mk.inj same
    obtain ⟨memory, obeys, derived⟩ := sound.mints.get live
    obtain ⟨request, answer, _, allowed, executed, continues⟩ := Task.advance_obeys obeys advanced
    obtain ⟨written, carries, kept⟩ := called_texts executed allowed derived sound.written sound.carries
    obtain ⟨payload, minted⟩ := remembers_minted executed allowed derived
    refine rest written carries kept ?_
    rw [← tasks]
    exact sound.mints.put ⟨_, continues, payload ▸ minted⟩
  | crash slot =>
    obtain ⟨task, live, same⟩ := Option.map_eq_some_iff.mp moved
    obtain ⟨same, tasks⟩ := Generation.World.mk.inj same
    refine rest (same ▸ sound.written) (same ▸ sound.carries) (same ▸ fun letter stored => .inr ⟨letter, stored, .refl letter⟩) ?_
    rw [← tasks]
    exact sound.mints.clear
  | created merchantId customerId args now =>
    simp only [Generation.machine] at moved
    split at moved
    · cases moved
    · rename_i db done
      obtain ⟨rfl, tasks⟩ := Generation.World.mk.inj (Option.some.inj moved)
      exact rest (sound.written.created done) (sound.carries.created done) (kept_created done) (tasks ▸ sound.mints)
  | outside db rewrite audits => exact absurd rfl (inner _ _ _)

/-- Rows go, and nothing of the pipeline is written. -/
theorem Sound.replaced {db : Db} (sound : Sound worker past world) (written : Written db) (carries : Carries worker db)
    (kept : Kept [] world.db db)
    (links : Dispatch.targetLinks db ⊆ Dispatch.targetLinks world.db) : Sound worker (world :: past) (world.setDb db) := by
  have issued : (world.setDb db).issued = world.issued ++ [] := (List.append_nil _).symm
  have later : Later world (world.setDb db) := later_of_kept issued (fun _ => by simp) kept
  exact ⟨sound.disciplined, issued_of_kept issued kept sound.issued, written, carries,
    fun link linked => (sound.targets link (links linked)).later later,
    fun payload listed => (sound.work payload listed).later later,
    fun task member => (sound.sends task member).later later, sound.mints⟩

theorem Sound.step (sound : Sound worker past world) (stepped : (machine drainer worker).step world label = some next) :
    Sound worker (world :: past) next := by
  cases step_cases stepped with
  | dispatched step moved inner kept workers issued => exact sound.dispatched moved inner kept workers issued
  | worked step named moved inner dispatch issued fresh => exact sound.worked moved inner dispatch issued fresh
  | erased targets messages generations same =>
    subst same
    exact sound.replaced sound.written.erased sound.carries.erased kept_erase targetLinks_erase
  | outside db same =>
    subst same
    have texts : SameTexts world.db (world.outside db).db := ⟨rfl, rfl⟩
    exact sound.replaced (texts.written sound.written) (texts.carries sound.carries) texts.kept fun _ => id

theorem Start.sound (start : Start origin) : Sound worker [] origin where
  disciplined := by simp [Pool.Every, start.tasks]
  issued := by simp [letters, Table.links, start.messages]
  written := by simp [Written, letters, Table.links, start.messages]
  carries := by simp [Carries, start.generations]
  targets := by simp [Dispatch.targetLinks, Table.links, start.targets]
  work := by simp [Dispatch.World.work, start.tasks, start.jobs]
  sends := by simp [Pool.Every, start.tasks]
  mints := by simp [Pool.Every, start.workers]

theorem sound_of_run {allowed : World → Label → Prop} (start : Start origin)
    (run : Passed (machine drainer worker) allowed origin past world) : Sound worker past world := by
  induction run with
  | origin => exact start.sound
  | step earlier permitted moved ih => exact ih.step moved

end Steps

section Sent

/-- Nothing of a placeholder is left, and a code cannot bring one about. -/
theorem unplaced {computeHmacSha256 : String → String → List UInt8} {merchantId : MerchantId} {aiGenerationId code : String}
    (digested : ∀ secret message, worker.keyedDigest secret message =
      Base32.encodeCrockfordBase32 (computeHmacSha256 secret message))
    (derived : code = Generation.deriveWinbackDiscountCode worker merchantId aiGenerationId) (content : String)
    (valuePercent : Int) (placeholder : Generation.Placeholder) :
    ¬Generation.placeholders placeholder <:+:
      (Generation.substituteDiscountTokens content (some ⟨code, valuePercent⟩)).text.toList := by
  obtain ⟨pieces, marks⟩ := Replace.exists_marks Generation.placeholders_apart.nonempty content.toList
  have inert (placeholder other : Generation.Placeholder) : Replace.Inert (Generation.placeholders placeholder)
      ((⟨code, valuePercent⟩ : Generation.DiscountSubstitution).value other).toList := by
    rw [derived, Generation.deriveWinbackDiscountCode_eq digested]
    cases other with
    | code => exact Generation.inert_code placeholder
    | valuePercent => exact Generation.inert_percent placeholder valuePercent
  rw [Generation.toList_substituted marks inert]
  exact marks.not_infix Generation.placeholders_apart (inert placeholder)

/-- What a pass sends is never empty. While its message is there, it is the text that the generation of the message's
customer was completed with; the address was this customer's when the pass loaded it; and where the generation has a
discount, its code is the derived one, and no placeholder is left in the text. -/
theorem sent_text_generated (computeHmacSha256 : String → String → List UInt8)
    (digested : ∀ secret message, worker.keyedDigest secret message =
      Base32.encodeCrockfordBase32 (computeHmacSha256 secret message))
    (start : Start origin) (run : Passed (machine drainer worker) (fun _ _ => True) origin past world) {slot : Nat}
    {task : Dispatch.DispatchTask} {args : EmailSendArgs}
    (live : world.dispatch.tasks.task? slot = some task) (pending : task.pending? = some (.send args)) :
    args.html ≠ "" ∧
    ∀ message ∈ world.db.messages.rows, message.id = args.correlationId →
      ∃ generation ∈ world.db.aiGenerations.rows,
        generation.id = message.aiGenerationId ∧ generation.merchantId = message.merchantId ∧
        generation.customerId = message.customerId ∧ generation.status = .completed ∧ generation.generatedText = some args.html ∧
        (∃ earlier ∈ world :: past, ∃ customer ∈ earlier.db.customers.rows,
          customer.id = message.customerId ∧ customer.email = some args.recipient) ∧
        ∀ code, generation.discountCode = some code →
          code = Generation.deriveWinbackDiscountCode worker generation.merchantId generation.id ∧
          ∀ placeholder : Generation.Placeholder, ¬placeholder.token.toList <:+: args.html.toList := by
  have sound := sound_of_run start run
  obtain ⟨memory, obeys, held⟩ := sound.sends.get live
  obtain ⟨named, target, remembered, html, recipient⟩ := Task.pending_obeys obeys pending
  have loaded := held target remembered
  refine ⟨html ▸ loaded.written, fun message stored own => ?_⟩
  have listed : letter message ∈ letters world.db := mem_letters.mpr ⟨message, stored, rfl⟩
  obtain ⟨text, customer⟩ := loaded.reads _ listed (own.trans named)
  obtain ⟨generation, present, same, merchant, whose, done⟩ := sound.written _ listed
  have full : (letter message).generatedText ≠ "" := by
    rw [text]
    exact loaded.written
  have said : generation.generatedText = some args.html := by rw [(done full).2, text, html]
  refine ⟨generation, present, same, merchant, whose, (done full).1, said, ?_, fun code discount => ?_⟩
  · obtain ⟨earlier, passed, row, known, rowId, email⟩ := loaded.address
    exact ⟨earlier, passed, row, known, rowId.trans customer.symm, email.trans recipient⟩
  · obtain ⟨derived, content, valuePercent, substituted⟩ := sound.carries generation present code discount
    refine ⟨derived, fun placeholder => ?_⟩
    rw [Option.some.inj (said.symm.trans substituted)]
    exact unplaced digested derived content valuePercent placeholder

end Sent

section Offer

/-- What a pass is about to send. -/
def sending? (world : World) (slot : Nat) : Option EmailSendArgs :=
  (world.dispatch.tasks.task? slot).bind fun task =>
    match task.pending? with
    | some (.send args) => some args
    | _ => none

theorem sending?_eq_some {slot : Nat} {args : EmailSendArgs} (sends : sending? world slot = some args) :
    ∃ task, world.dispatch.tasks.task? slot = some task ∧ task.pending? = some (.send args) := by
  obtain ⟨task, live, sends⟩ := Option.bind_eq_some_iff.mp sends
  refine ⟨task, live, ?_⟩
  split at sends
  · rename_i sent pending
    cases sends
    exact pending
  · cases sends

/-- A merchant with an active campaign and a subscribed customer. -/
def newCampaign : World where
  dispatch := { backend := { db := { oneDraft with aiGenerations := ∅, messages := ∅ } } }

/-- The digest is of 32 zero bytes. -/
def offerWorker : Generation.WorkerContext where
  aiConfig := { provider := .deepseek, model := "deepseek-v4-flash" }
  shopifyApiSecret := "secret"
  keyedDigest _ _ := "0000000000000000000000000000000000000000000000000000"

theorem encode_zeros : Base32.encodeCrockfordBase32 (List.replicate 32 0) = offerWorker.keyedDigest "" "" := by
  decide +kernel

def tenPercent : GenerationArgs where
  triggerState := "dormant"
  systemPrompt := ""
  userPrompt := ""
  discountValuePercent := some 10
  generationId := "g"
  messageId := "d"

def offer : Generation.Choice where
  provider := .ok ⟨"Use " ++ Generation.discountCodeToken, 10, 10, 20, 5⟩
  shopify := .created "gid://shopify/DiscountCodeNode/1"

/-- The generation is completed, a sweep picks up its message, and a pass gets to the send. -/
def offered : List Label :=
  .created "m" "u" tenPercent 0 :: .generate { id := none, data := ⟨"g", "m", "u"⟩ } :: List.replicate 7 (.work 0 offer) ++
    .tick :: List.replicate 5 (.act 0 Dispatch.smooth) ++ .deliver 0 :: List.replicate 11 (.act 1 Dispatch.smooth)

def offered? : Option World := (machine Dispatch.utcContext offerWorker).runWhere (fun _ _ => true) newCampaign offered

theorem offered_runs : offered?.isSome = true := by decide

theorem offered_sends : (sending? (offered?.get offered_runs) 1).isSome = true := by decide

theorem sent_text_generated_offer : ∃ past world args, offered? = some world ∧ sending? world 1 = some args ∧
    args.html = "Use WB-0000000000000000" ∧ args.recipient = "u@example.com" ∧
    (∃ earlier ∈ world :: past, ∃ customer ∈ earlier.db.customers.rows, customer.email = some args.recipient) ∧
    ∃ generation ∈ world.db.aiGenerations.rows, generation.generatedText = some args.html ∧
      ∀ code, generation.discountCode = some code →
        ∀ placeholder : Generation.Placeholder, ¬placeholder.token.toList <:+: args.html.toList := by
  obtain ⟨task, live, pending⟩ := sending?_eq_some (Option.some_get offered_sends).symm
  obtain ⟨past, passed⟩ := ((reach_get offered_runs).mono fun _ _ _ => trivial).passed
  have facts := sent_text_generated (fun _ _ => List.replicate 32 0) (fun _ _ => encode_zeros.symm)
    (show Start newCampaign from ⟨rfl, rfl, rfl, rfl, rfl, rfl⟩)
    passed live pending
  have stored : (offered?.get offered_runs).db.messages.any (fun message =>
      message.id == ((sending? (offered?.get offered_runs) 1).get offered_sends).correlationId) = true := by decide
  obtain ⟨message, listed, named⟩ := List.any_eq_true.mp stored
  obtain ⟨generation, present, _, _, _, _, text, ⟨earlier, known, customer, row, _, email⟩, discount⟩ :=
    facts.2 message listed (by simpa using named)
  exact ⟨past, _, _, (Option.some_get offered_runs).symm, (Option.some_get offered_sends).symm, by decide, by decide,
    ⟨earlier, known, customer, row, email⟩, generation, present, text, fun code minted => (discount code minted).2⟩

end Offer

end WinBack.Pipeline
