import WinBack.Dispatch.AtMostOnce

/-! Accepted messages. A pass that loaded its target as pending may reach a gate
suppression after another pass has started sending, and `resolveTerminal` accepts
`sending`; a revert after a lost acknowledgement reopens an accepted target. Runs
without these two steps never record an accepted message as not sent. -/

namespace WinBack.Dispatch

open Library CampaignRepository

/-- No accepted message is recorded as suppressed or failed. -/
def AcceptedRecorded (world : World) : Prop :=
  ∀ messageId, 0 < acceptedSends world messageId →
    targetStatus world.backend.db messageId ≠ some .suppressed ∧
      targetStatus world.backend.db messageId ≠ some .failed ∧
      messageStatus world.backend.db messageId ≠ some .suppressed ∧
      messageStatus world.backend.db messageId ≠ some .failed

/-- A gate suppression that would hit finds its target not in `sending`. -/
def suppressionsBeforeSending (world : World) : Label → Bool
  | .act slot _ =>
    match world.tasks.task? slot with
    | none => true
    | some task =>
      match task.phase, task.pending? with
      | .pass _ .opened, some (.resolveTerminal scope messageId _ _) =>
        !world.backend.db.campaignTargets.any (targetFilter scope messageId [.sending])
      | _, _ => true
  | _ => true

/-- Gate suppressions find no target in `sending`, reverts no accepted message. -/
def acceptedUndisturbed (world : World) (label : Label) : Bool :=
  suppressionsBeforeSending world label && revertsUnsealed SendRecord.accepted world label

/-- A message is suppressed or failed only along with its target. -/
def RecordsAgree (db : Db) : Prop :=
  ∀ messageId, messageStatus db messageId = some .suppressed ∨ messageStatus db messageId = some .failed →
    targetStatus db messageId = some .suppressed ∨ targetStatus db messageId = some .failed

/-- A status from which no pass starts sending. -/
def Parked (status : Option CampaignTargetStatus) : Prop :=
  status = some .deferred ∨ status = some .suppressed ∨ status = some .sent ∨ status = some .failed

/-- What a task carries: a sweep lists only targets that cannot be sending. -/
def ListsParked (db : Db) (task : DispatchTask) : Prop :=
  ∀ merchantId drafts targets, task.phase = .sweep (.deferred merchantId drafts targets) →
    ∀ target ∈ targets, Parked (targetStatus db target.messageId)

/-- What holds of one message. -/
structure MessageSafe (messageId : MessageId) (world : World) : Prop where
  exclusive : Exclusive SendRecord.accepted messageId world
  clean : Clean SendRecord.accepted [.rejected] messageId world
  owned : 0 < world.tally messageId [.owner] →
    targetStatus world.backend.db messageId = some .sending
  recorded : 0 < world.settled SendRecord.accepted messageId →
    targetStatus world.backend.db messageId = some .sending ∨
      targetStatus world.backend.db messageId = some .sent
  acked : 0 < world.tally messageId [.acked] → 0 < world.settled SendRecord.accepted messageId

structure AcceptedSafe (world : World) : Prop where
  disciplined : world.tasks.Every Disciplined
  messages : ∀ messageId, MessageSafe messageId world
  listed : world.tasks.Every (ListsParked world.backend.db)
  agreed : RecordsAgree world.backend.db

variable {context : DrainerContext} {origin world next final : World} {label : Label}
  {messageId : MessageId}

theorem AcceptedSafe.start (idle : Idle origin) (agreed : RecordsAgree origin.backend.db) :
    AcceptedSafe origin := by
  have empty (stages : List Stage) (messageId : MessageId) : origin.tally messageId stages = 0 := by
    simp [World.tally, Pool.tally, idle.tasks]
  have unsent (messageId : MessageId) : origin.settled SendRecord.accepted messageId = 0 := by
    simp [World.settled, idle.sends]
  refine ⟨?_, fun messageId => ⟨.start idle, .start idle, ?_, ?_, ?_⟩, ?_, agreed⟩
  · intro task member
    simp [idle.tasks] at member
  · intro some
    simp [empty] at some
  · intro some
    simp [unsent] at some
  · intro some
    simp [empty] at some
  · intro task member
    simp [idle.tasks] at member

namespace MessageSafe

variable (safe : MessageSafe messageId world)
include safe

/-- An open target has no owner and nothing accepted. -/
theorem of_open (opened : Open (targetStatus world.backend.db messageId)) :
    world.tally messageId [.owner] = 0 ∧ world.settled SendRecord.accepted messageId = 0 := by
  have free := safe.exclusive.free opened
  have least := @tally_owner_le messageId world
  omega

/-- A pass that handles a provider error excludes an owner. -/
theorem of_handler {stage : Stage} (handler : stage = .refused ∨ stage = .rejected)
    (some : 0 < world.tally messageId [stage]) : world.tally messageId [.owner] = 0 := by
  have one := safe.exclusive.one
  have both : world.tally messageId [.owner] + world.tally messageId [stage] ≤
      world.tally messageId ownerStages := by
    refine tally_owner_add ?_ fun other same => ?_
    · rcases handler with rfl | rfl <;> decide
    · rw [List.mem_singleton.mp same]
      rcases handler with rfl | rfl <;> decide
  omega

/-- A step that takes no owner and accepts nothing, on a message without owner and
without acceptance. -/
theorem keep_empty (exclusive : Exclusive SendRecord.accepted messageId next)
    (clean : Clean SendRecord.accepted [.rejected] messageId next)
    (owner : next.tally messageId [.owner] = 0)
    (settled : next.settled SendRecord.accepted messageId = 0)
    (before : world.settled SendRecord.accepted messageId = 0)
    (acked : next.tally messageId [.acked] ≤ world.tally messageId [.acked]) :
    MessageSafe messageId next := by
  refine ⟨exclusive, clean, ?_, ?_, ?_⟩
  · intro some
    omega
  · intro some
    omega
  · intro some
    have earlier := safe.acked (by omega)
    omega

/-- A step that leaves an open status without a send and without a new owner. -/
theorem left_open (exclusive : Exclusive SendRecord.accepted messageId next)
    (clean : Clean SendRecord.accepted [.rejected] messageId next)
    (opened : Open (targetStatus world.backend.db messageId))
    (sends : next.backend.sends = world.backend.sends)
    (owner : next.tally messageId [.owner] ≤ world.tally messageId [.owner])
    (acked : next.tally messageId [.acked] ≤ world.tally messageId [.acked]) :
    MessageSafe messageId next := by
  obtain ⟨unowned, none⟩ := safe.of_open opened
  refine safe.keep_empty exclusive clean (by omega) ?_ none acked
  rw [settled_of_sends sends, none]

theorem undisturbed (exclusive : Exclusive SendRecord.accepted messageId next)
    (clean : Clean SendRecord.accepted [.rejected] messageId next)
    (undisturbed : Undisturbed messageId world next) : MessageSafe messageId next := by
  have owner := undisturbed.tally [.owner] (by decide)
  have ackers := undisturbed.tally [.acked] (by decide)
  refine ⟨exclusive, clean, ?_, ?_, ?_⟩
  · intro some
    rw [undisturbed.status]
    exact safe.owned (by omega)
  · intro some
    rw [undisturbed.status]
    rw [undisturbed.settled] at some
    exact safe.recorded some
  · intro some
    rw [undisturbed.settled]
    exact safe.acked (by omega)

/-- A pass is told of a rejection only where the provider accepted nothing. -/
theorem clean_step {label : Label} (event : Event world next label) :
    Clean SendRecord.accepted [.rejected] messageId next := by
  refine safe.clean.step (by simp) safe.exclusive event ?_
  intro slot choice id _ possible accepted
  have taken : choice.accepted = true := accepted
  by_cases acknowledged : choice.outcome.acknowledged = true
  · exact .inl acknowledged
  · simp only [SendRecord.possible, acknowledged, taken] at possible
    exact .inr ⟨by simpa using (Bool.and_eq_true_iff.mp (by simpa using possible)).2, by decide⟩

/-- The owner sends: the target stays in `sending`, and an acknowledged send is accepted. -/
theorem sent {record : SendRecord} (exclusive : Exclusive SendRecord.accepted messageId next)
    (clean : Clean SendRecord.accepted [.rejected] messageId next)
    (owner : 0 < world.tally messageId [.owner]) (named : record.messageId = messageId)
    (possible : record.possible = true) (db : next.backend.db = world.backend.db)
    (sends : next.backend.sends = world.backend.sends ++ [record])
    (told : record.outcome.acknowledged = true ∨
      next.tally messageId [.acked] ≤ world.tally messageId [.acked]) :
    MessageSafe messageId next := by
  have sending := safe.owned owner
  have counted : next.settled SendRecord.accepted messageId =
      world.settled SendRecord.accepted messageId + if record.accepted then 1 else 0 := by
    simp [World.settled, sends, List.countP_append, List.countP_singleton, named]
  refine ⟨exclusive, clean, fun _ => by rw [db, sending], fun _ => by rw [db]; exact .inl sending, fun some => ?_⟩
  rcases told with acknowledged | ackers
  · simp only [SendRecord.possible, acknowledged, if_true, Bool.and_eq_true] at possible
    simp only [possible.2, if_true] at counted
    omega
  · have earlier := safe.acked (some.trans_le ackers)
    omega

end MessageSafe

/-- Arm 2 resolves only deferred targets. -/
private theorem resolved_open {db after : Db} {task : DispatchTask} {merchantId : MerchantId}
    {drafts : List DispatchableDraft} {targets : List DeferredTarget} {target : DeferredTarget}
    (listed : ListsParked db task) (phase : task.phase = .sweep (.deferred merchantId drafts targets))
    (present : target ∈ targets)
    (moves : Moves merchantId target.messageId [.pending, .deferred, .sending] .suppressed db after) :
    Open (targetStatus db target.messageId) := by
  obtain ⟨old, expected, before⟩ := moves.before
  have parked := listed merchantId drafts targets phase target present
  rw [before] at parked ⊢
  cases old <;> simp_all [Parked, Open]

/-- A permitted gate suppression hits only open targets. -/
private theorem suppressed_open {slot : Nat} {choice : Choice} {task : DispatchTask}
    {payload : CampaignDispatchJobPayload} {reason : String}
    (permitted : acceptedUndisturbed world (.act slot choice) = true)
    (live : world.tasks.task? slot = some task) (phase : task.phase = .pass payload .opened)
    (pending : task.pending? =
      some (.resolveTerminal payload.merchantId payload.messageId reason .suppressed))
    (moved : Moved payload [.pending, .deferred, .sending] .suppressed world.backend next.backend) :
    Open (targetStatus world.backend.db payload.messageId) := by
  obtain ⟨target, member, named, expected, owned⟩ := moved.moves.held
  have status := named ▸ targetStatus_of_mem member
  simp only [acceptedUndisturbed, suppressionsBeforeSending, live, phase, pending, Bool.and_eq_true,
    Bool.not_eq_true'] at permitted
  have elsewhere : target.status ≠ .sending := by
    intro sending
    have hit : world.backend.db.campaignTargets.any
        (targetFilter payload.merchantId payload.messageId [.sending]) = true :=
      List.any_eq_true.mpr ⟨target, member, targetFilter_iff.mpr ⟨named, by simp [sending], owned⟩⟩
    simp [hit] at permitted
  rw [status]
  cases held : target.status <;> simp_all [Open]

/-- A move of a pass on its own message. -/
theorem MessageSafe.acted {slot : Nat} {choice : Choice} {task after : DispatchTask}
    {payload : CampaignDispatchJobPayload} {stage reached : Stage} {request : Call}
    (safe : MessageSafe payload.messageId world)
    (exclusive : Exclusive SendRecord.accepted payload.messageId next)
    (clean : Clean SendRecord.accepted [.rejected] payload.messageId next)
    (permitted : acceptedUndisturbed world (.act slot choice) = true)
    (live : world.tasks.task? slot = some task) (phase : task.phase = .pass payload stage)
    (pending : task.pending? = some request) (allowed : stage.allows payload request)
    (afterPhase : after.phase = .pass payload reached)
    (effect : MoveEffect payload request choice world.backend next.backend stage reached)
    (tasks : next.tasks = world.tasks.put slot after) : MessageSafe payload.messageId next := by
  have le {stages : List Stage} (kept : reached = stage ∨ reached ∉ stages) :
      next.tally payload.messageId stages ≤ world.tally payload.messageId stages :=
    tally_passed_le live phase afterPhase tasks kept _
  have here (member : stage ∈ [stage]) : 0 < world.tally payload.messageId [stage] :=
    Pool.tally_pos live ((holds_pass phase _).mpr ⟨rfl, member⟩)
  cases effect with
  | claim silent onto absent statuses merchants messages =>
    refine safe.left_open exclusive clean (.inl absent) silent.sends (le (.inr ?_)) (le (.inr ?_)) <;>
      rcases onto with rfl | rfl <;> decide
  | suppress call onto moved =>
    subst call
    refine safe.left_open exclusive clean (suppressed_open permitted live phase pending moved) moved.sends
      (le (.inr ?_)) (le (.inr ?_)) <;> rcases onto with rfl | rfl <;> decide
  | postpone onto moved =>
    obtain ⟨old, expected, before⟩ := moved.moves.before
    refine safe.left_open exclusive clean (by simpa [Open, before] using expected) moved.sends
      (le (.inr ?_)) (le (.inr ?_)) <;> rcases onto with rfl | rfl <;> decide
  | start onto moved =>
    obtain ⟨old, expected, before⟩ := moved.moves.before
    obtain ⟨owner, none⟩ := safe.of_open (by simp [Open, before, List.mem_singleton.mp expected])
    have settled : next.settled SendRecord.accepted payload.messageId = 0 := by
      rw [settled_of_sends moved.sends, none]
    have ackers : next.tally payload.messageId [.acked] ≤ world.tally payload.messageId [.acked] :=
      le (.inr (by rcases onto with rfl | rfl <;> decide))
    refine ⟨exclusive, clean, fun _ => moved.moves.reached, fun some => by omega, fun some => ?_⟩
    have earlier := safe.acked (by omega)
    omega
  | send record possible decided db jobs sends onto =>
    refine safe.sent exclusive clean (here (by simp)) (by simp [decided]) possible db sends ?_
    rcases onto with ⟨_, acknowledged⟩ | ⟨rfl, _⟩ | ⟨rfl, _⟩
    · exact .inl acknowledged
    · exact .inr (le (.inr (by decide)))
    · exact .inr (le (.inr (by decide)))
  | complete moved =>
    -- the acknowledged send is the sealed one, so no owner is left
    have accepted := safe.acked (here (by simp))
    have last := safe.exclusive.last
    have owner : next.tally payload.messageId [.owner] ≤ world.tally payload.messageId [.owner] :=
      le (.inl rfl)
    refine ⟨exclusive, clean, fun some => by omega, fun _ => .inr moved.moves.reached, fun _ => ?_⟩
    rw [settled_of_sends moved.sends]
    exact accepted
  | revert moved =>
    have none := unsealed_of_revert live pending allowed (Bool.and_eq_true_iff.mp permitted).2 moved
    have owner := safe.of_handler (.inl rfl) (here (by simp))
    have fewer : next.tally payload.messageId [.owner] ≤ world.tally payload.messageId [.owner] :=
      le (.inr (by decide))
    refine safe.keep_empty exclusive clean (by omega) ?_ none (le (.inr (by decide)))
    rw [settled_of_sends moved.sends, none]
  | reject status onto moved =>
    have none := safe.clean (here (by simp))
    have owner := safe.of_handler (.inr rfl) (here (by simp))
    have fewer : next.tally payload.messageId [.owner] ≤ world.tally payload.messageId [.owner] :=
      le (.inr (by rcases onto with rfl | rfl <;> decide))
    refine safe.keep_empty exclusive clean (by omega) ?_ none
      (le (.inr (by rcases onto with rfl | rfl <;> decide)))
    rw [settled_of_sends moved.sends, none]

/-- The step lemma for one message. -/
theorem MessageSafe.step (safe : MessageSafe messageId world)
    (listed : world.tasks.Every (ListsParked world.backend.db)) (event : Event world next label)
    (permitted : acceptedUndisturbed world label = true) : MessageSafe messageId next := by
  have exclusive := safe.exclusive.step event (Bool.and_eq_true_iff.mp permitted).2
  have clean := safe.clean_step event
  cases disturbance_of_event event messageId with
  | none undisturbed => exact safe.undisturbed exclusive clean undisturbed
  | resolved member phase present named sends tally moves =>
    subst named
    exact safe.left_open exclusive clean (resolved_open (listed _ member) phase present moves) sends
      (tally _).le (tally _).le
  | acted named live phase pending allowed afterPhase effect tasks =>
    subst named
    exact safe.acted exclusive clean permitted live phase pending allowed afterPhase effect tasks

/-- Nothing leads from a parked status to `pending` or `sending`. -/
theorem parked_of_event (event : Event world next label)
    (parked : Parked (targetStatus world.backend.db messageId)) :
    Parked (targetStatus next.backend.db messageId) := by
  cases disturbance_of_event event messageId with
  | none undisturbed =>
    rw [undisturbed.status]
    exact parked
  | resolved member phase present named sends tally moves =>
    rw [moves.reached]
    simp [Parked]
  | acted named live phase pending allowed afterPhase effect tasks =>
    subst named
    cases effect with
    | claim silent onto absent statuses merchants messages => simp [Parked, absent] at parked
    | suppress call onto moved | postpone onto moved | complete moved =>
      rw [moved.moves.reached]
      simp [Parked]
    | reject status onto moved =>
      rw [moved.moves.reached]
      cases status <;> simp [Parked, TerminalStatus.target]
    | start onto moved | revert moved =>
      obtain ⟨old, expected, before⟩ := moved.moves.before
      simp [Parked, before, List.mem_singleton.mp expected] at parked
    | send record possible decided db jobs sends onto =>
      rw [db]
      exact parked

/-- What arm 2 selects is deferred. -/
theorem findDeferredTargets_status {db : Db} {merchantId : MerchantId} {target : DeferredTarget}
    (selected : target ∈ findDeferredTargets db merchantId) :
    targetStatus db target.messageId = some .deferred := by
  simp only [findDeferredTargets, List.mem_map, List.mem_filter, Bool.and_eq_true, beq_iff_eq] at selected
  obtain ⟨row, ⟨member, _, deferred⟩, rfl⟩ := selected
  rw [← deferred]
  exact targetStatus_of_mem member

theorem listed_step (listed : world.tasks.Every (ListsParked world.backend.db))
    (event : Event world next label) : next.tasks.Every (ListsParked next.backend.db) := by
  have kept : world.tasks.Every (ListsParked next.backend.db) := by
    intro task member merchantId drafts targets phase target present
    exact parked_of_event event (listed task member merchantId drafts targets phase target present)
  cases event with
  | spawned tasks fresh db sends =>
    rw [tasks]
    refine kept.spawn ?_
    intro merchantId drafts targets phase
    rcases fresh with ⟨payload, same⟩ | same <;> simp [same] at phase
  | cleared live tasks db sends =>
    rw [tasks]
    exact kept.clear
  | around tasks sends targets messages =>
    rw [tasks]
    exact kept
  | passed live phase pending allowed afterPhase tag effect tasks =>
    rw [tasks]
    refine kept.put ?_
    intro merchantId drafts targets same
    simp [afterPhase] at same
  | swept live phase afterPhase tag effect tasks =>
    rw [tasks]
    refine kept.put ?_
    intro merchantId drafts targets same target present
    rw [afterPhase] at same
    cases effect with
    | stay unmoved =>
      exact kept.get live merchantId drafts targets (phase.trans same) target present
    | select swept drafted unmoved =>
      cases same
      rw [targetStatus_congr unmoved.targets]
      exact .inl (findDeferredTargets_status present)
    | resolve swept drafted listing resolved member onto silent moves =>
      rcases onto with rfl | rfl
      · exact kept.get live merchantId drafts targets (phase.trans same) target present
      · cases same
    | reset unmoved | draft swept unmoved | enqueue swept drafted listing payloads sources queued =>
      cases same

/-- A move out of open or sending statuses keeps messages and targets in agreement. -/
theorem agreed_of_moves {db after : Db} {scope : MerchantId} {moved : MessageId}
    {statuses : List CampaignTargetStatus} {status : CampaignTargetStatus}
    (moves : Moves scope moved statuses status db after)
    (opens : .suppressed ∉ statuses ∧ .failed ∉ statuses) (agreed : RecordsAgree db) :
    RecordsAgree after := by
  intro messageId terminal
  rcases moves.messages.statuses messageId with same | ⟨rfl, recorded⟩
  · rw [same] at terminal
    have before := agreed messageId terminal
    have apart : messageId ≠ moved := by
      rintro rfl
      obtain ⟨old, expected, held⟩ := moves.before
      rw [held] at before
      rcases before with suppressed | failed
      · exact opens.1 (Option.some.inj suppressed ▸ expected)
      · exact opens.2 (Option.some.inj failed ▸ expected)
    rw [moves.elsewhere apart]
    exact before
  · rw [moves.reached]
    rw [recorded] at terminal
    cases status <;> simp_all [recordOf]

theorem agreed_of_congr {db after : Db} (agreed : RecordsAgree db)
    (targets : after.campaignTargets = db.campaignTargets) (messages : after.messages = db.messages) :
    RecordsAgree after := by
  intro messageId terminal
  rw [messageStatus, messages] at terminal
  rw [targetStatus_congr targets]
  exact agreed messageId terminal

theorem agreed_step (agreed : RecordsAgree world.backend.db) (event : Event world next label) :
    RecordsAgree next.backend.db := by
  cases event with
  | spawned tasks fresh db sends | cleared live tasks db sends =>
    rw [db]
    exact agreed
  | around tasks sends targets messages =>
    rcases messages with same | ⟨message, draft, inserted⟩
    · exact agreed_of_congr agreed targets same
    · intro messageId terminal
      rw [targetStatus_congr targets]
      refine agreed messageId ?_
      unfold messageStatus at terminal ⊢
      rw [Table.find?_insert? inserted] at terminal
      cases found : world.backend.db.messages.find? (·.id == messageId) with
      | some row => simpa [found] using terminal
      | none =>
        rw [found, Option.none_or] at terminal
        split at terminal <;> simp [draft] at terminal
  | swept live phase afterPhase tag effect tasks =>
    cases effect with
    | stay unmoved | reset unmoved | draft merchantId unmoved | select merchantId drafts unmoved =>
      exact agreed_of_congr agreed unmoved.targets unmoved.messages
    | resolve merchantId drafts targets target listed onto silent moves =>
      exact agreed_of_moves moves (by decide) agreed
    | enqueue merchantId drafts targets payloads sources queued =>
      rw [queued]
      exact agreed
  | passed live phase pending allowed afterPhase tag effect tasks =>
    cases effect with
    | idle unmoved idling => exact agreed_of_congr agreed unmoved.targets unmoved.messages
    | move effect =>
      cases effect with
      | claim silent onto absent statuses merchants messages =>
        rename_i payload reached request
        intro messageId terminal
        rw [messageStatus, messages] at terminal
        have before := agreed messageId terminal
        have apart : messageId ≠ payload.messageId := by
          rintro rfl
          simp [absent] at before
        rw [statuses, Function.update_of_ne apart]
        exact before
      | suppress call onto moved | postpone onto moved | start onto moved | complete moved | revert moved
      | reject status onto moved => exact agreed_of_moves moved.moves (by decide) agreed
      | send record possible decided db jobs sends onto =>
        rw [db]
        exact agreed

theorem AcceptedSafe.step (safe : AcceptedSafe world) (permitted : acceptedUndisturbed world label = true)
    (moved : (machine context).step world label = some next) : AcceptedSafe next := by
  have event := event_of_step safe.disciplined moved
  exact ⟨disciplined_step safe.disciplined moved,
    fun messageId => (safe.messages messageId).step safe.listed event permitted,
    listed_step safe.listed event, agreed_step safe.agreed event⟩

theorem AcceptedSafe.acceptedRecorded (safe : AcceptedSafe world) : AcceptedRecorded world := by
  intro messageId accepted
  have recorded := (safe.messages messageId).recorded accepted
  have agreed := safe.agreed messageId
  refine ⟨?_, ?_, ?_, ?_⟩
  · rcases recorded with status | status <;> simp [status]
  · rcases recorded with status | status <;> simp [status]
  · intro suppressed
    have terminal := agreed (.inl suppressed)
    rcases recorded with status | status <;> simp [status] at terminal
  · intro failed
    have terminal := agreed (.inr failed)
    rcases recorded with status | status <;> simp [status] at terminal

/-- In every run whose gate suppressions find no target in `sending` and whose
reverts find no accepted message, an accepted message is never recorded as not sent. -/
theorem accepted_never_unsent (idle : Idle origin) (agreed : RecordsAgree origin.backend.db)
    (reach : Machine.Reach (machine context)
      (fun world label => acceptedUndisturbed world label = true) origin final) :
    AcceptedRecorded final := by
  refine AcceptedSafe.acceptedRecorded ?_
  apply reach.invariant (AcceptedSafe.start idle agreed)
  intro middle label next permitted moved safe
  exact safe.step permitted moved

/-- Two jobs for one draft; the second pass meets the first one's `sending`. -/
def acceptedSchedule : List Label :=
  [.tick, .tick] ++ acts 0 4 smooth ++ acts 1 5 smooth ++ acts 0 1 smooth ++
    [.settle 0, .settle 1, .deliver 0, .deliver 1] ++ acts 2 12 smooth ++ acts 3 2 smooth ++
    [.settle 3] ++ acts 2 1 smooth ++ [.settle 2]

theorem accepted_run :
    ((machine utcContext).runWhere acceptedUndisturbed oneDraftWorld acceptedSchedule).isSome := by
  decide

def acceptedWorld : World :=
  ((machine utcContext).runWhere acceptedUndisturbed oneDraftWorld acceptedSchedule).get accepted_run

theorem recordsAgree_oneDraft : RecordsAgree oneDraft := by
  intro messageId terminal
  by_cases same : messageId = "d"
  · subst same
    revert terminal
    decide
  · simp [messageStatus, oneDraft, Table.find?, Ne.symm same] at terminal

theorem accepted_never_unsent_two_jobs :
    AcceptedRecorded acceptedWorld ∧ acceptedSends acceptedWorld "d" = 1 :=
  ⟨accepted_never_unsent ⟨rfl, rfl⟩ recordsAgree_oneDraft (Machine.reach_get accepted_run), by decide⟩

/-- The store after an unsubscribe. -/
def unsubscribed : Db := { oneDraft with
  suppressions := ⟨[{ merchantId := "m", customerId := "u", channel := .email, reason := .unsubscribe }],
    by simp⟩ }

/-- Two jobs for one draft, both loaded while it is pending. The first pass sends
and SES accepts, the customer unsubscribes, and the second pass suppresses the
target before the first one completes it. -/
def suppressedSchedule : List Label :=
  [.tick, .tick] ++ acts 0 4 smooth ++ acts 1 5 smooth ++ acts 0 1 smooth ++
    [.settle 0, .settle 1, .deliver 0, .deliver 1] ++ acts 2 2 smooth ++ acts 3 2 smooth ++
    acts 2 10 smooth ++ [.outside unsubscribed] ++ acts 3 3 smooth

theorem suppressed_run :
    ((machine utcContext).runWhere (fun _ _ => true) oneDraftWorld suppressedSchedule).isSome := by
  decide

def suppressedWorld : World :=
  ((machine utcContext).runWhere (fun _ _ => true) oneDraftWorld suppressedSchedule).get suppressed_run

theorem accepted_but_suppressed :
    ¬∀ context origin final, Idle origin → RecordsAgree origin.backend.db →
      Machine.Reach (machine context) (fun _ _ => True) origin final → AcceptedRecorded final := by
  intro claim
  have reach := (Machine.reach_get suppressed_run).mono fun _ _ _ => trivial
  have recorded := claim utcContext oneDraftWorld suppressedWorld ⟨rfl, rfl⟩ recordsAgree_oneDraft reach "d"
  revert recorded
  decide

end WinBack.Dispatch
