import WinBack.Dispatch.Effects

/-! Ownership of a target: at most one pass stands between its won compare-and-set
and the end of its provider call, an open target has no such pass, and a sealed
send leaves no owner behind. -/

namespace WinBack.Dispatch

open Library CampaignRepository

/-- The task is a pass on the message in one of the stages. -/
def holds (messageId : MessageId) (stages : List Stage) (task : DispatchTask) : Bool :=
  match task.phase with
  | .pass payload stage => payload.messageId == messageId && stages.contains stage
  | .sweep _ => false

def World.tally (world : World) (messageId : MessageId) (stages : List Stage) : Nat :=
  world.tasks.tally (holds messageId stages)

/-- The sealed provider calls of a message. -/
def World.settled (sealed : SendRecord → Bool) (world : World) (messageId : MessageId) : Nat :=
  world.backend.sends.countP fun record => record.messageId == messageId && sealed record

/-- Stages between the won compare-and-set and the handling of the provider's answer. -/
def ownerStages : List Stage := [.owner, .refused, .rejected]

/-- A target that a later pass may still send. -/
def Open (status : Option CampaignTargetStatus) : Prop :=
  status = none ∨ status = some .pending ∨ status = some .deferred

/-- Ownership of one message, with respect to the sends that count as sealed. -/
structure Exclusive (sealed : SendRecord → Bool) (messageId : MessageId) (world : World) : Prop where
  one : world.tally messageId ownerStages ≤ 1
  free : Open (targetStatus world.backend.db messageId) →
    world.tally messageId ownerStages = 0 ∧ world.settled sealed messageId = 0
  last : world.tally messageId [.owner] + world.settled sealed messageId ≤ 1

/-- A revert that would hit its target finds no sealed send of the message. -/
def revertsUnsealed (sealed : SendRecord → Bool) (world : World) : Label → Bool
  | .act slot _ =>
    match (world.tasks.task? slot).bind Task.pending? with
    | some (.revertToPending scope messageId) =>
      !world.backend.db.campaignTargets.any (targetFilter scope messageId [.sending]) ||
        world.settled sealed messageId == 0
    | _ => true
  | _ => true

variable {sealed : SendRecord → Bool} {messageId : MessageId} {world next : World} {label : Label}

theorem holds_iff {task : DispatchTask} {stages : List Stage} :
    holds messageId stages task = true ↔
      ∃ payload stage, task.phase = .pass payload stage ∧ payload.messageId = messageId ∧
        stage ∈ stages := by
  unfold holds
  split
  · rename_i payload stage phase
    simp [phase]
  · rename_i stage phase
    simp [phase]

theorem holds_pass {task : DispatchTask} {payload : CampaignDispatchJobPayload} {stage : Stage}
    (phase : task.phase = .pass payload stage) (stages : List Stage) :
    holds messageId stages task = true ↔ payload.messageId = messageId ∧ stage ∈ stages := by
  simp [holds, phase]

theorem holds_sweep {task : DispatchTask} {stage : SweepStage} (phase : task.phase = .sweep stage)
    (stages : List Stage) : holds messageId stages task = false := by
  simp [holds, phase]

/-- A step that takes no new owner, seals nothing and reopens nothing keeps ownership. -/
theorem Exclusive.transfer (exclusive : Exclusive sealed messageId world)
    (live : next.tally messageId ownerStages ≤ world.tally messageId ownerStages)
    (owners : next.tally messageId [.owner] ≤ world.tally messageId [.owner])
    (settled : next.settled sealed messageId = world.settled sealed messageId)
    (opened : Open (targetStatus next.backend.db messageId) →
      Open (targetStatus world.backend.db messageId)) : Exclusive sealed messageId next := by
  have one := exclusive.one
  have last := exclusive.last
  refine ⟨by omega, fun reopened => ?_, by omega⟩
  have free := exclusive.free (opened reopened)
  omega

theorem tally_mono {fewer stages : List Stage} (sub : ∀ stage ∈ fewer, stage ∈ stages) :
    world.tally messageId fewer ≤ world.tally messageId stages := by
  apply Pool.tally_mono
  intro task counts
  obtain ⟨payload, stage, phase, named, member⟩ := holds_iff.mp counts
  exact (holds_pass phase stages).mpr ⟨named, sub stage member⟩

theorem tally_owner_le : world.tally messageId [.owner] ≤ world.tally messageId ownerStages :=
  tally_mono (by simp [ownerStages])

/-- Disjoint stages of the owner stages add up. -/
theorem tally_owner_add {stages : List Stage} (disjoint : .owner ∉ stages)
    (sub : ∀ stage ∈ stages, stage ∈ ownerStages) :
    world.tally messageId [.owner] + world.tally messageId stages ≤
      world.tally messageId ownerStages := by
  apply Pool.tally_add_le
  · intro task counts
    obtain ⟨payload, stage, phase, named, member⟩ := holds_iff.mp counts
    rw [Bool.eq_false_iff]
    intro also
    exact disjoint (List.mem_singleton.mp member ▸ ((holds_pass phase stages).mp also).2)
  · intro task counts
    obtain ⟨payload, stage, phase, named, member⟩ := holds_iff.mp counts
    exact (holds_pass phase _).mpr ⟨named, by simp [ownerStages, List.mem_singleton.mp member]⟩
  · intro task counts
    obtain ⟨payload, stage, phase, named, member⟩ := holds_iff.mp counts
    exact (holds_pass phase _).mpr ⟨named, sub stage member⟩

theorem targetStatus_congr {before after : Db} (same : after.campaignTargets = before.campaignTargets)
    (other : MessageId) : targetStatus after other = targetStatus before other := by
  simp [targetStatus, same]

section Passed

variable {slot : Nat} {task after : DispatchTask} {payload : CampaignDispatchJobPayload}
  {stage reached : Stage} (live : world.tasks.task? slot = some task)
  (phase : task.phase = .pass payload stage) (afterPhase : after.phase = .pass payload reached)
  (tasks : next.tasks = world.tasks.put slot after)
include live phase afterPhase tasks

/-- A pass that enters no counted stage raises no tally. -/
theorem tally_passed_le {stages : List Stage} (kept : reached = stage ∨ reached ∉ stages)
    (other : MessageId) : next.tally other stages ≤ world.tally other stages := by
  unfold World.tally
  rw [tasks]
  apply Pool.tally_put_le live
  intro counts
  obtain ⟨named, member⟩ := (holds_pass afterPhase stages).mp counts
  rcases kept with rfl | outside
  · exact (holds_pass phase stages).mpr ⟨named, member⟩
  · exact False.elim (outside member)

/-- A pass on another message leaves the tally alone. -/
theorem tally_passed_elsewhere {stages : List Stage} (apart : payload.messageId ≠ messageId) :
    next.tally messageId stages = world.tally messageId stages := by
  have moved := Pool.tally_put after live (holds messageId stages)
  have before : holds messageId stages task = false := by
    rw [Bool.eq_false_iff]
    exact fun counts => apart ((holds_pass phase stages).mp counts).1
  have later : holds messageId stages after = false := by
    rw [Bool.eq_false_iff]
    exact fun counts => apart ((holds_pass afterPhase stages).mp counts).1
  simpa [World.tally, tasks, before, later] using moved

/-- How a pass on the message moves a tally. -/
theorem tally_passed (stages : List Stage) (named : payload.messageId = messageId) :
    next.tally messageId stages + (if stage ∈ stages then 1 else 0) =
      world.tally messageId stages + (if reached ∈ stages then 1 else 0) := by
  have moved := Pool.tally_put after live (holds messageId stages)
  simpa [World.tally, tasks, holds, phase, afterPhase, named] using moved

end Passed

/-- The stages that only a moving call enters. -/
def movingStages : List Stage := [.owner, .acked, .refused, .rejected]

theorem Idling.passive {payload : CampaignDispatchJobPayload} {db : Db} {stage reached : Stage}
    {stages : List Stage} (idling : Idling payload db stage reached)
    (moving : ∀ stage ∈ stages, stage ∈ movingStages) : reached = stage ∨ reached ∉ stages := by
  cases idling with
  | stay => exact .inl rfl
  | claimed | opened | unloaded missing | leave missed | fail =>
    exact .inr fun member => by simpa [movingStages] using moving _ member

/-- A pass acts on no other message. -/
theorem MoveEffect.elsewhere {payload : CampaignDispatchJobPayload} {request : Call} {choice : Choice}
    {before after : Backend} {stage reached : Stage}
    (effect : MoveEffect payload request choice before after stage reached) (apart : payload.messageId ≠ messageId) :
    targetStatus after.db messageId = targetStatus before.db messageId ∧
      ∀ sealed : SendRecord → Bool,
        (after.sends.countP fun record => record.messageId == messageId && sealed record) =
          before.sends.countP fun record => record.messageId == messageId && sealed record := by
  cases effect with
  | claim silent onto absent statuses merchants messages =>
    exact ⟨by rw [statuses, Function.update_of_ne apart.symm], fun sealed => by rw [silent.sends]⟩
  | suppress call onto moved | postpone onto moved | start onto moved | complete moved | revert moved
  | reject status onto moved =>
    exact ⟨moved.moves.elsewhere apart.symm, fun sealed => by rw [moved.sends]⟩
  | send record possible decided db jobs sends onto =>
    refine ⟨by rw [db], fun sealed => ?_⟩
    simp [sends, List.countP_append, decided, apart]

theorem settled_of_sends (sends : next.backend.sends = world.backend.sends) :
    next.settled sealed messageId = world.settled sealed messageId := by
  simp [World.settled, sends]

/-- A spawned task is in no counted stage. -/
theorem tally_spawned {task : DispatchTask} (tasks : next.tasks = world.tasks.spawn task)
    (fresh : (∃ payload, task.phase = .pass payload .fresh) ∨ task.phase = .sweep .idle)
    {stages : List Stage} (uncounted : .fresh ∉ stages) :
    next.tally messageId stages = world.tally messageId stages := by
  have missed : holds messageId stages task = false := by
    rcases fresh with ⟨payload, phase⟩ | phase
    · rw [Bool.eq_false_iff]
      exact fun counts => uncounted ((holds_pass phase stages).mp counts).2
    · exact holds_sweep phase stages
  simp [World.tally, tasks, Pool.tally_spawn, missed]

theorem tally_cleared_le {task : DispatchTask} {slot : Nat} (live : world.tasks.task? slot = some task)
    (tasks : next.tasks = world.tasks.clear slot) (stages : List Stage) :
    next.tally messageId stages ≤ world.tally messageId stages := by
  unfold World.tally
  rw [tasks]
  exact Pool.tally_clear_le live _

/-- A sweep holds no stage of a pass. -/
theorem tally_swept {slot : Nat} {task after : DispatchTask} {stage reached : SweepStage}
    (live : world.tasks.task? slot = some task) (phase : task.phase = .sweep stage)
    (afterPhase : after.phase = .sweep reached) (tasks : next.tasks = world.tasks.put slot after)
    (stages : List Stage) : next.tally messageId stages = world.tally messageId stages := by
  have moved := Pool.tally_put after live (holds messageId stages)
  simpa [World.tally, tasks, holds_sweep phase, holds_sweep afterPhase] using moved

/-- Nothing happened to the message that an ownership invariant can see. -/
structure Undisturbed (messageId : MessageId) (world next : World) : Prop where
  status : targetStatus next.backend.db messageId = targetStatus world.backend.db messageId
  settled : ∀ sealed, next.settled sealed messageId = world.settled sealed messageId
  tally : ∀ stages : List Stage, (∀ stage ∈ stages, stage ∈ movingStages) →
    next.tally messageId stages ≤ world.tally messageId stages

/-- What a step does to one message: nothing, a resolution by a sweep, or a moving
call of a pass on it. -/
inductive Disturbance (messageId : MessageId) (world next : World) : Label → Prop where
  | none {label : Label} (undisturbed : Undisturbed messageId world next) :
      Disturbance messageId world next label
  | resolved {label : Label} {task : DispatchTask} {merchantId : MerchantId}
      {drafts : List DispatchableDraft} {targets : List DeferredTarget} {target : DeferredTarget}
      (member : some task ∈ world.tasks) (phase : task.phase = .sweep (.deferred merchantId drafts targets))
      (listed : target ∈ targets) (named : target.messageId = messageId)
      (sends : next.backend.sends = world.backend.sends)
      (tally : ∀ stages, next.tally messageId stages = world.tally messageId stages)
      (moves : Moves merchantId messageId [.pending, .deferred, .sending] .suppressed
        world.backend.db next.backend.db) : Disturbance messageId world next label
  | acted {slot : Nat} {choice : Choice} {task after : DispatchTask}
      {payload : CampaignDispatchJobPayload} {stage reached : Stage} {request : Call}
      (named : payload.messageId = messageId) (live : world.tasks.task? slot = some task)
      (phase : task.phase = .pass payload stage) (pending : task.pending? = some request)
      (allowed : stage.allows payload request) (afterPhase : after.phase = .pass payload reached)
      (effect : MoveEffect payload request choice world.backend next.backend stage reached)
      (tasks : next.tasks = world.tasks.put slot after) :
      Disturbance messageId world next (.act slot choice)

theorem disturbance_of_event (event : Event world next label) (messageId : MessageId) :
    Disturbance messageId world next label := by
  have idle (tasks : ∀ stages : List Stage, (∀ stage ∈ stages, stage ∈ movingStages) →
        next.tally messageId stages ≤ world.tally messageId stages)
      (targets : next.backend.db.campaignTargets = world.backend.db.campaignTargets)
      (sends : next.backend.sends = world.backend.sends) : Disturbance messageId world next label :=
    .none ⟨targetStatus_congr targets _, fun _ => settled_of_sends sends, tasks⟩
  cases event with
  | spawned tasks fresh db sends =>
    refine idle (fun stages moving => (tally_spawned tasks fresh ?_).le) (by rw [db]) sends
    exact fun member => by simpa [movingStages] using moving _ member
  | cleared live tasks db sends =>
    exact idle (fun stages _ => tally_cleared_le live tasks stages) (by rw [db]) sends
  | around tasks sends targets messages =>
    refine idle (fun stages _ => ?_) targets sends
    rw [World.tally, tasks, World.tally]
  | swept live phase afterPhase tag effect tasks =>
    have tally (stages : List Stage) : next.tally messageId stages = world.tally messageId stages :=
      tally_swept live phase afterPhase tasks stages
    cases effect with
    | stay unmoved | reset unmoved | draft merchantId unmoved | select merchantId drafts unmoved =>
      exact idle (fun stages _ => (tally stages).le) unmoved.targets unmoved.sends
    | enqueue merchantId drafts targets payloads sources queued =>
      exact idle (fun stages _ => (tally stages).le) (by rw [queued]) (by rw [queued])
    | resolve merchantId drafts targets target listed onto silent moves =>
      by_cases named : target.messageId = messageId
      · subst named
        exact .resolved (Pool.task?_mem live) phase listed rfl silent.sends tally moves
      · exact .none ⟨moves.elsewhere (Ne.symm named), fun _ => settled_of_sends silent.sends,
          fun stages _ => (tally stages).le⟩
  | passed live phase pending allowed afterPhase tag effect tasks =>
    rename_i slot choice task after payload stage reached request
    cases effect with
    | idle unmoved idling =>
      exact idle (fun stages moving =>
        tally_passed_le live phase afterPhase tasks (idling.passive moving) messageId)
        unmoved.targets unmoved.sends
    | move effect =>
      by_cases named : payload.messageId = messageId
      · exact .acted named live phase pending allowed afterPhase effect tasks
      · obtain ⟨status, sends⟩ := effect.elsewhere named
        exact .none ⟨status, sends, fun stages _ =>
          (tally_passed_elsewhere live phase afterPhase tasks named).le⟩

theorem not_open_of_moves {payload : CampaignDispatchJobPayload} {statuses : List CampaignTargetStatus}
    {status : CampaignTargetStatus} {before after : Backend}
    (moved : Moved payload statuses status before after) (closed : ¬Open (some status)) :
    ¬Open (targetStatus after.db payload.messageId) := by
  rw [moved.moves.reached]
  exact closed

/-- The condition on reverts, read at an effective one. -/
theorem unsealed_of_revert {slot : Nat} {choice : Choice} {task : DispatchTask}
    {payload : CampaignDispatchJobPayload} {request : Call} (live : world.tasks.task? slot = some task)
    (pending : task.pending? = some request) (allowed : Stage.refused.allows payload request)
    (reverts : revertsUnsealed sealed world (.act slot choice) = true)
    (moved : Moved payload [.sending] .pending world.backend next.backend) :
    world.settled sealed payload.messageId = 0 := by
  have call : request = .revertToPending payload.merchantId payload.messageId := by
    cases request with
    | revertToPending scope messageId =>
      obtain ⟨rfl, rfl⟩ := allowed
      rfl
    | _ => exact False.elim allowed
  obtain ⟨target, member, parts⟩ := moved.moves.held
  have hit : world.backend.db.campaignTargets.any
      (targetFilter payload.merchantId payload.messageId [.sending]) = true :=
    List.any_eq_true.mpr ⟨target, member, targetFilter_iff.mpr parts⟩
  simpa [revertsUnsealed, live, pending, call, hit] using reverts

/-- The step lemma for a pass on the message itself. -/
private theorem Exclusive.step_passed {slot : Nat} {choice : Choice} {task after : DispatchTask}
    {payload : CampaignDispatchJobPayload} {stage reached : Stage} {request : Call}
    (exclusive : Exclusive sealed payload.messageId world)
    (live : world.tasks.task? slot = some task) (phase : task.phase = .pass payload stage)
    (pending : task.pending? = some request) (allowed : stage.allows payload request)
    (afterPhase : after.phase = .pass payload reached)
    (effect : MoveEffect payload request choice world.backend next.backend stage reached)
    (tasks : next.tasks = world.tasks.put slot after)
    (reverts : revertsUnsealed sealed world (.act slot choice) = true) :
    Exclusive sealed payload.messageId next := by
  -- a call that enters no owner stage, records no send and reopens nothing
  have passive (kept : reached = stage ∨ reached ∉ ownerStages)
      (sends : next.backend.sends = world.backend.sends)
      (opened : Open (targetStatus next.backend.db payload.messageId) →
        Open (targetStatus world.backend.db payload.messageId)) :
      Exclusive sealed payload.messageId next := by
    have outside : reached = stage ∨ reached ∉ [Stage.owner] := by
      refine kept.imp id fun outside member => outside ?_
      simp [ownerStages, List.mem_singleton.mp member]
    exact exclusive.transfer (tally_passed_le live phase afterPhase tasks kept _)
      (tally_passed_le live phase afterPhase tasks outside _) (settled_of_sends sends) opened
  have lives := tally_passed live phase afterPhase tasks ownerStages rfl
  have owners := tally_passed live phase afterPhase tasks [.owner] rfl
  have least := @tally_owner_le payload.messageId world
  have one := exclusive.one
  have last := exclusive.last
  cases effect with
  | claim silent onto absent statuses merchants messages =>
    refine passive (.inr ?_) silent.sends fun _ => .inl absent
    rcases onto with rfl | rfl <;> decide
  | suppress call onto moved =>
    refine passive (.inr ?_) moved.sends fun opened => ?_
    · rcases onto with rfl | rfl <;> decide
    · exact False.elim (not_open_of_moves moved (by simp [Open]) opened)
  | postpone onto moved =>
    refine passive (.inr ?_) moved.sends fun _ => ?_
    · rcases onto with rfl | rfl <;> decide
    · obtain ⟨old, expected, before⟩ := moved.moves.before
      simpa [Open, before] using expected
  | start onto moved =>
    -- the target was pending, so nobody owned it and nothing was sealed
    obtain ⟨old, expected, before⟩ := moved.moves.before
    obtain ⟨idle, unsealed⟩ := exclusive.free (by simp [Open, before, List.mem_singleton.mp expected])
    have closed := not_open_of_moves moved (by simp [Open])
    have settled : next.settled sealed payload.messageId = world.settled sealed payload.messageId :=
      settled_of_sends moved.sends
    have entered : next.tally payload.messageId ownerStages ≤ 1 ∧
        next.tally payload.messageId [.owner] ≤ 1 := by
      rcases onto with rfl | rfl <;> simp [ownerStages] at lives owners idle least ⊢ <;> omega
    exact ⟨entered.1, fun opened => False.elim (closed opened), by omega⟩
  | send record possible decided db jobs sends onto =>
    -- the owner was the only one, and its send is the first that may be sealed
    have counted : next.settled sealed payload.messageId =
        world.settled sealed payload.messageId + if sealed record then 1 else 0 := by
      simp [World.settled, sends, List.countP_append, List.countP_singleton, decided]
    have left : next.tally payload.messageId ownerStages ≤ 1 ∧
        next.tally payload.messageId [.owner] + 1 = world.tally payload.messageId [.owner] := by
      rcases onto with ⟨rfl, _⟩ | ⟨rfl, _⟩ | ⟨rfl, _⟩ <;> simp [ownerStages] at lives owners one ⊢ <;>
        omega
    refine ⟨left.1, fun opened => ?_, ?_⟩
    · rw [db] at opened
      have idle := (exclusive.free opened).1
      omega
    · split at counted <;> omega
  | complete moved =>
    exact passive (.inl rfl) moved.sends fun opened =>
      False.elim (not_open_of_moves moved (by simp [Open]) opened)
  | revert moved =>
    -- the only owner leaves; the condition says that nothing was sealed
    have unsealed := unsealed_of_revert live pending allowed reverts moved
    have settled : next.settled sealed payload.messageId = world.settled sealed payload.messageId :=
      settled_of_sends moved.sends
    have left : next.tally payload.messageId ownerStages = 0 ∧
        next.tally payload.messageId [.owner] ≤ world.tally payload.messageId [.owner] := by
      simp [ownerStages] at lives owners one ⊢
      omega
    exact ⟨by omega, fun _ => ⟨left.1, by omega⟩, by omega⟩
  | reject status onto moved =>
    refine passive (.inr ?_) moved.sends fun opened => ?_
    · rcases onto with rfl | rfl <;> decide
    · exact False.elim (not_open_of_moves moved (by cases status <;> simp [Open, TerminalStatus.target]) opened)

/-- Ownership is kept by every step whose effective reverts find nothing sealed. -/
theorem Exclusive.step (exclusive : Exclusive sealed messageId world) (event : Event world next label)
    (reverts : revertsUnsealed sealed world label = true) : Exclusive sealed messageId next := by
  cases disturbance_of_event event messageId with
  | none undisturbed =>
    refine exclusive.transfer (undisturbed.tally _ (by decide)) (undisturbed.tally _ (by decide))
      (undisturbed.settled _) ?_
    rw [undisturbed.status]
    exact id
  | resolved member phase listed named sends tally moves =>
    refine exclusive.transfer (tally _).le (tally _).le (settled_of_sends sends) ?_
    rw [moves.reached]
    simp [Open]
  | acted named live phase pending allowed afterPhase effect tasks =>
    subst named
    exact exclusive.step_passed live phase pending allowed afterPhase effect tasks reverts

/-- Only a refused pass is about to revert. -/
theorem refused_of_pending {task : DispatchTask} {scope : MerchantId} (disciplined : Disciplined task)
    (pending : task.pending? = some (.revertToPending scope messageId)) :
    ∃ payload, task.phase = .pass payload .refused ∧ payload.messageId = messageId := by
  rcases disciplined with ⟨payload, stage, phase, follows⟩ | ⟨stage, phase, follows⟩
  · have allowed := follows.pending pending
    rw [phase] at allowed
    cases stage with
    | refused => exact ⟨payload, phase, allowed.2.symm⟩
    | _ => exact False.elim allowed
  · have allowed := follows.pending pending
    rw [phase] at allowed
    cases stage <;> exact False.elim allowed

/-- While a pass on the message handles a provider error, nothing of it is sealed. -/
def Clean (sealed : SendRecord → Bool) (stages : List Stage) (messageId : MessageId) (world : World) : Prop :=
  0 < world.tally messageId stages → world.settled sealed messageId = 0

/-- A sealed send does not end in one of the stages: it was acknowledged, or it was
refused and the stages leave refusals out. -/
def SealsApart (sealed : SendRecord → Bool) (stages : List Stage) (label : Label) : Prop :=
  ∀ slot choice messageId, label = .act slot choice →
    (⟨messageId, choice.outcome, choice.written, choice.accepted⟩ : SendRecord).possible = true →
    sealed ⟨messageId, choice.outcome, choice.written, choice.accepted⟩ = true →
    choice.outcome.acknowledged = true ∨
      choice.outcome.unacknowledged = true ∧ .refused ∉ stages

theorem reverts_of_clean {stages : List Stage} (every : world.tasks.Every Disciplined)
    (clean : ∀ messageId, Clean sealed stages messageId world) (refusals : .refused ∈ stages) :
    revertsUnsealed sealed world label = true := by
  unfold revertsUnsealed
  split
  · rename_i slot choice
    split
    · rename_i scope messageId found
      obtain ⟨task, live, pending⟩ := Option.bind_eq_some_iff.mp found
      obtain ⟨payload, phase, named⟩ := refused_of_pending (every.get live) pending
      have none := clean messageId (Pool.tally_pos live ((holds_pass phase stages).mpr ⟨named, refusals⟩))
      simp [none]
    · rfl
  · rfl

theorem Clean.transfer {stages : List Stage} (clean : Clean sealed stages messageId world)
    (tally : next.tally messageId stages ≤ world.tally messageId stages)
    (settled : next.settled sealed messageId = world.settled sealed messageId) :
    Clean sealed stages messageId next := by
  intro some
  rw [settled]
  exact clean (by omega)

theorem Exclusive.start (idle : Idle world) : Exclusive sealed messageId world := by
  have empty (stages : List Stage) : world.tally messageId stages = 0 := by
    simp [World.tally, Pool.tally, idle.tasks]
  have unsealed : world.settled sealed messageId = 0 := by
    simp [World.settled, idle.sends]
  exact ⟨by simp [empty], fun _ => ⟨empty _, unsealed⟩, by simp [empty, unsealed]⟩

theorem Clean.start {stages : List Stage} (idle : Idle world) : Clean sealed stages messageId world := by
  intro some
  simp [World.tally, Pool.tally, idle.tasks] at some

/-- Cleanness is kept by every step whose sealed sends end apart. -/
theorem Clean.step {stages : List Stage} (handlers : ∀ stage ∈ stages, stage = .refused ∨ stage = .rejected)
    (clean : Clean sealed stages messageId world) (exclusive : Exclusive sealed messageId world)
    (event : Event world next label) (apart : SealsApart sealed stages label) :
    Clean sealed stages messageId next := by
  have moving : ∀ stage ∈ stages, stage ∈ movingStages := by
    intro stage member
    rcases handlers stage member with rfl | rfl <;> decide
  cases disturbance_of_event event messageId with
  | none undisturbed => exact clean.transfer (undisturbed.tally stages moving) (undisturbed.settled _)
  | resolved member phase listed named sends tally moves =>
    exact clean.transfer (tally stages).le (settled_of_sends sends)
  | acted named live phase pending allowed afterPhase effect tasks =>
    rename_i slot choice task after payload stage reached request
    subst named
    have passive (kept : reached = stage ∨ reached ∉ stages)
        (sends : next.backend.sends = world.backend.sends) : Clean sealed stages payload.messageId next :=
      clean.transfer (tally_passed_le live phase afterPhase tasks kept _) (settled_of_sends sends)
    have outside (stage : Stage) (quiet : stage ≠ .refused ∧ stage ≠ .rejected) : stage ∉ stages :=
      fun member => by simpa [quiet] using handlers stage member
    cases effect with
    | claim silent onto absent statuses merchants messages =>
      refine passive (.inr (outside _ ?_)) silent.sends
      rcases onto with rfl | rfl <;> decide
    | suppress call onto moved | postpone onto moved | start onto moved | reject status onto moved =>
      refine passive (.inr (outside _ ?_)) moved.sends
      rcases onto with rfl | rfl <;> decide
    | complete moved => exact passive (.inl rfl) moved.sends
    | revert moved => exact passive (.inr (outside _ (by decide))) moved.sends
    | send record possible decided db jobs sends onto =>
      -- the sender was the only owner, so nothing was sealed and nobody handles an error
      have owner : 0 < world.tally payload.messageId [.owner] :=
        Pool.tally_pos live ((holds_pass phase _).mpr ⟨rfl, by simp⟩)
      have last := exclusive.last
      have one := exclusive.one
      have alone : world.tally payload.messageId [.owner] + world.tally payload.messageId stages ≤
          world.tally payload.messageId ownerStages := by
        refine tally_owner_add (outside _ (by decide)) fun stage member => ?_
        rcases handlers stage member with rfl | rfl <;> simp [ownerStages]
      have counted : next.settled sealed payload.messageId =
          world.settled sealed payload.messageId + if sealed record then 1 else 0 := by
        simp [World.settled, sends, List.countP_append, List.countP_singleton, decided]
      intro some
      by_cases sealing : sealed record = true
      · have moved := tally_passed live phase afterPhase tasks stages rfl
        have notOwner : Stage.owner ∉ stages := outside _ (by decide)
        have end_ : reached ∉ stages := by
          subst decided
          rcases onto with ⟨rfl, _⟩ | ⟨rfl, refused⟩ | ⟨rfl, rejected, definite⟩
          · exact outside _ (by decide)
          · rcases apart slot choice _ rfl possible sealing with acknowledged | ⟨_, absent⟩
            · simp [acknowledged] at refused
            · exact absent
          · rcases apart slot choice _ rfl possible sealing with acknowledged | ⟨lost, _⟩
            · simp [acknowledged] at rejected
            · simp [lost] at definite
        simp only [end_, notOwner, if_false] at moved
        omega
      · simp only [sealing] at counted
        simp at counted
        omega

end WinBack.Dispatch
