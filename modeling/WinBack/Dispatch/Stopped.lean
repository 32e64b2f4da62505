import WinBack.Dispatch.Ownership

/-! Late passes. The sweep checks that a campaign is active and its merchant is
installed; the worker checks neither, so a job that waits while its campaign stops
is sent all the same. A late pass stays silent where its target is already spent. -/

namespace WinBack.Dispatch

open Library CampaignRepository

/-- The campaign of the job is not active, or its merchant is marked uninstalled. -/
def stopped (db : Db) (payload : CampaignDispatchJobPayload) : Bool :=
  !db.campaigns.any (fun campaign =>
      campaign.id == payload.campaignId && campaign.status == .active) ||
    db.merchants.any fun merchant =>
      merchant.id == payload.merchantId && merchant.uninstalledAt != none

/-- The subsystem with two records by slot that nothing in it reads: the passes
that started late, and the passes that called the provider. -/
structure Monitored where
  world : World
  late : List Nat := []
  callers : List Nat := []

def startsLate (world : World) : Label → Bool
  | .deliver index => world.backend.jobs[index]?.any fun job => stopped world.backend.db job.payload
  | _ => false

/-- The slot whose next call, made by this step, is a provider call. -/
def providerCaller (world : World) : Label → List Nat
  | .act slot _ =>
    match (world.tasks.task? slot).bind Task.pending? with
    | some (.send _) => [slot]
    | _ => []
  | _ => []

def monitoring (context : DrainerContext) : Machine Monitored Label where
  step monitored label :=
    ((machine context).step monitored.world label).map fun next => {
      world := next
      late := if startsLate monitored.world label then monitored.world.tasks.length :: monitored.late
        else monitored.late
      callers := providerCaller monitored.world label ++ monitored.callers }

/-- No pass that started late has called the provider. -/
def LateSilent (monitored : Monitored) : Prop := ∀ slot ∈ monitored.late, slot ∉ monitored.callers

instance (monitored : Monitored) : Decidable (LateSilent monitored) :=
  inferInstanceAs (Decidable (∀ slot ∈ monitored.late, slot ∉ monitored.callers))

/-- The target has left `pending`, and no running pass may still call the provider
for it or revert it. -/
structure Spent (messageId : MessageId) (world : World) : Prop where
  present : targetStatus world.backend.db messageId ≠ none
  closed : targetStatus world.backend.db messageId ≠ some .pending
  idle : world.tally messageId [.owner, .refused] = 0

instance (messageId : MessageId) (world : World) : Decidable (Spent messageId world) :=
  decidable_of_iff
    (targetStatus world.backend.db messageId ≠ none ∧
      targetStatus world.backend.db messageId ≠ some .pending ∧
        world.tally messageId [.owner, .refused] = 0)
    ⟨fun ⟨present, closed, idle⟩ => ⟨present, closed, idle⟩,
      fun ⟨present, closed, idle⟩ => ⟨present, closed, idle⟩⟩

/-- A job that a worker takes late names a spent target. -/
def lateSpent (world : World) : Label → Bool
  | .deliver index => world.backend.jobs[index]?.all fun job =>
    !stopped world.backend.db job.payload || decide (Spent job.payload.messageId world)
  | _ => true

variable {context : DrainerContext} {world next origin : World} {monitored after final : Monitored}
  {label : Label} {messageId : MessageId}

/-- A guarded write whose statuses include neither absence nor a way back. -/
private theorem Spent.of_moves {scope : MerchantId} {statuses : List CampaignTargetStatus}
    {status : CampaignTargetStatus}
    (moves : Moves scope messageId statuses status world.backend.db next.backend.db)
    (onward : status ≠ .pending) (idle : next.tally messageId [.owner, .refused] = 0) :
    Spent messageId next := by
  refine ⟨?_, ?_, idle⟩
  · rw [moves.reached]
    exact Option.some_ne_none _
  · rw [moves.reached]
    exact fun same => onward (Option.some.inj same)

/-- A spent target is not reopened: only a refused pass reverts, only an owner is
refused, and only a pending target gets an owner. -/
theorem Spent.step (spent : Spent messageId world) (event : Event world next label) :
    Spent messageId next := by
  have idle := spent.idle
  cases disturbance_of_event event messageId with
  | none undisturbed =>
    have fewer := undisturbed.tally [.owner, .refused] (by decide)
    exact ⟨by rw [undisturbed.status]; exact spent.present,
      by rw [undisturbed.status]; exact spent.closed, by omega⟩
  | resolved member phase listed named sends tally moves =>
    exact .of_moves moves (by decide) (by rw [tally, idle])
  | acted named live phase pending allowed afterPhase effect tasks =>
    rename_i slot choice task after payload stage reached request
    subst named
    have unheld (stages : List Stage) (sub : ∀ stage ∈ stages, stage ∈ [Stage.owner, .refused])
        (held : stage ∈ stages) : False := by
      have some : 0 < world.tally payload.messageId [.owner, .refused] :=
        Pool.tally_pos live ((holds_pass phase _).mpr ⟨rfl, sub _ held⟩)
      omega
    have kept (outside : reached = stage ∨ reached ∉ [Stage.owner, .refused]) :
        next.tally payload.messageId [.owner, .refused] = 0 := by
      have fewer := tally_passed_le live phase afterPhase tasks outside payload.messageId
      omega
    cases effect with
    | claim silent onto absent statuses merchants messages => exact absurd absent spent.present
    | suppress call onto moved =>
      refine .of_moves moved.moves (by decide) (kept (.inr ?_))
      rcases onto with rfl | rfl <;> decide
    | postpone onto moved =>
      refine .of_moves moved.moves (by decide) (kept (.inr ?_))
      rcases onto with rfl | rfl <;> decide
    | start onto moved =>
      obtain ⟨old, expected, before⟩ := moved.moves.before
      exact absurd (List.mem_singleton.mp expected ▸ before) spent.closed
    | send record possible decided db jobs sends onto =>
      exact (unheld [.owner] (by simp) (by simp)).elim
    | complete moved => exact .of_moves moved.moves (by decide) (kept (.inl rfl))
    | revert moved => exact (unheld [.refused] (by simp) (by simp)).elim
    | reject status onto moved =>
      refine .of_moves moved.moves (by cases status <;> decide) (kept (.inr ?_))
      rcases onto with rfl | rfl <;> decide

/-- The task is a pass on a spent target. -/
def OnSpent (world : World) (task : DispatchTask) : Prop :=
  ∃ payload stage, task.phase = .pass payload stage ∧ Spent payload.messageId world

/-- Every late pass works on a spent target, and both records name slots in use. -/
structure Quiet (monitored : Monitored) : Prop where
  disciplined : monitored.world.tasks.Every Disciplined
  late : ∀ slot ∈ monitored.late, slot < monitored.world.tasks.length ∧
    ∀ task, monitored.world.tasks.task? slot = some task → OnSpent monitored.world task
  callers : ∀ slot ∈ monitored.callers, slot < monitored.world.tasks.length
  silent : LateSilent monitored

theorem Quiet.start (idle : Idle origin) : Quiet { world := origin } := by
  refine ⟨?_, by simp, by simp, by simp [LateSilent]⟩
  intro task member
  simp [idle.tasks] at member

/-- A pass in its slot keeps its job, and a step keeps its target spent. -/
private theorem OnSpent.step {slot : Nat}
    (onSpent : ∀ task, world.tasks.task? slot = some task → OnSpent world task)
    (inside : slot < world.tasks.length) (event : Event world next label) :
    ∀ task, next.tasks.task? slot = some task → OnSpent next task := by
  intro task found
  have carried {old : DispatchTask} (live : world.tasks.task? slot = some old)
      (same : ∀ payload stage, old.phase = .pass payload stage →
        ∃ reached, task.phase = .pass payload reached) : OnSpent next task := by
    obtain ⟨payload, stage, phase, spent⟩ := onSpent old live
    obtain ⟨reached, phase⟩ := same payload stage phase
    exact ⟨payload, reached, phase, spent.step event⟩
  have untouched (same : next.tasks.task? slot = world.tasks.task? slot) : OnSpent next task :=
    carried (same ▸ found) fun payload stage phase => ⟨stage, phase⟩
  cases id event with
  | spawned tasks fresh db sends =>
    exact untouched (by rw [tasks, Pool.task?_spawn_lt inside])
  | passed live phase pending allowed afterPhase tag effect tasks =>
    rename_i acting choice old after payload stage reached request
    by_cases here : acting = slot
    · subst here
      rw [tasks, Pool.task?_put inside] at found
      cases found
      refine carried live fun other stage same => ?_
      cases phase.symm.trans same
      exact ⟨reached, afterPhase⟩
    · exact untouched (by rw [tasks, Pool.task?_put_other here])
  | swept live phase afterPhase tag effect tasks =>
    rename_i acting choice old after stage reached
    by_cases here : acting = slot
    · subst here
      obtain ⟨payload, stage, same, spent⟩ := onSpent old live
      cases phase.symm.trans same
    · exact untouched (by rw [tasks, Pool.task?_put_other here])
  | cleared live tasks db sends =>
    rename_i cleared old
    by_cases here : cleared = slot
    · subst here
      rw [tasks, Pool.task?_clear] at found
      cases found
    · exact untouched (by rw [tasks, Pool.task?_clear_other here])
  | around tasks sends targets messages => exact untouched (by rw [tasks])

/-- Slots are never taken back. -/
private theorem slots_grow (event : Event world next label) :
    world.tasks.length ≤ next.tasks.length := by
  cases event with
  | spawned tasks fresh db sends => simp [tasks]
  | passed live phase pending allowed afterPhase tag effect tasks => simp [tasks]
  | swept live phase afterPhase tag effect tasks => simp [tasks]
  | cleared live tasks db sends => simp [tasks]
  | around tasks sends targets messages => rw [tasks]

/-- A caller is a live pass that owns its target. -/
private theorem caller_owns {slot : Nat} (every : world.tasks.Every Disciplined)
    (calls : slot ∈ providerCaller world label) :
    ∃ task payload, world.tasks.task? slot = some task ∧ task.phase = .pass payload .owner := by
  unfold providerCaller at calls
  split at calls
  · rename_i acting choice
    split at calls
    · rename_i args found
      cases List.mem_singleton.mp calls
      obtain ⟨task, live, pending⟩ := Option.bind_eq_some_iff.mp found
      rcases every.get live with ⟨payload, stage, phase, follows⟩ | ⟨stage, phase, follows⟩
      · have allowed := follows.pending pending
        rw [phase] at allowed
        cases stage with
        | owner => exact ⟨task, payload, live, phase⟩
        | _ => exact False.elim allowed
      · have allowed := follows.pending pending
        rw [phase] at allowed
        cases stage <;> exact False.elim allowed
    · cases calls
  · cases calls

/-- The pass that a late delivery spawns works on a spent target. -/
private theorem spawned_onSpent (starts : startsLate world label = true)
    (spent : lateSpent world label = true) (event : Event world next label)
    (moved : (machine context).step world label = some next) :
    world.tasks.length < next.tasks.length ∧
      ∀ task, next.tasks.task? world.tasks.length = some task → OnSpent next task := by
  cases step_cases moved with
  | delivered found waiting same =>
    rename_i index job
    have target : Spent job.payload.messageId world := by
      simp only [startsLate, found, Option.any_some] at starts
      simpa [lateSpent, found, starts] using spent
    subst same
    refine ⟨by simp, fun task live => ?_⟩
    rw [Pool.task?_spawn_last] at live
    cases live
    exact ⟨job.payload, .fresh, rfl, target.step event⟩
  | ticked | acted | settled | swept | crashed | stalled | written | drafted => cases starts

theorem Quiet.step (quiet : Quiet monitored) (spent : lateSpent monitored.world label = true)
    (moved : (monitoring context).step monitored label = some after) : Quiet after := by
  obtain ⟨next, stepped, same⟩ := Option.map_eq_some_iff.mp moved
  have event := event_of_step quiet.disciplined stepped
  have grow := slots_grow event
  subst same
  have earlier : ∀ slot ∈ monitored.late, slot < next.tasks.length ∧
      ∀ task, next.tasks.task? slot = some task → OnSpent next task := by
    intro slot member
    obtain ⟨inside, onSpent⟩ := quiet.late slot member
    exact ⟨by omega, OnSpent.step onSpent inside event⟩
  have calling : ∀ slot ∈ providerCaller monitored.world label,
      slot < monitored.world.tasks.length ∧ slot ∉ monitored.late := by
    intro slot calls
    obtain ⟨task, payload, live, phase⟩ := caller_owns quiet.disciplined calls
    refine ⟨Pool.task?_lt live, fun member => ?_⟩
    -- an owner of a spent target does not exist
    obtain ⟨other, stage, also, target⟩ := (quiet.late slot member).2 task live
    cases phase.symm.trans also
    have some : 0 < monitored.world.tally payload.messageId [.owner, .refused] :=
      Pool.tally_pos live ((holds_pass phase _).mpr ⟨rfl, by simp⟩)
    have idle := target.idle
    omega
  have called : ∀ slot ∈ providerCaller monitored.world label ++ monitored.callers,
      slot < monitored.world.tasks.length := by
    intro slot member
    rcases List.mem_append.mp member with calls | old
    · exact (calling slot calls).1
    · exact quiet.callers slot old
  have silent : ∀ slot ∈ monitored.late, slot ∉ providerCaller monitored.world label ++ monitored.callers := by
    intro slot member calls
    rcases List.mem_append.mp calls with calls | old
    · exact (calling slot calls).2 member
    · exact quiet.silent slot member old
  have split : ∀ slot ∈ (if startsLate monitored.world label then
      monitored.world.tasks.length :: monitored.late else monitored.late),
      slot ∈ monitored.late ∨ startsLate monitored.world label = true ∧ slot = monitored.world.tasks.length := by
    intro slot member
    by_cases starts : startsLate monitored.world label = true
    · rw [if_pos starts] at member
      exact (List.mem_cons.mp member).symm.imp id fun here => ⟨starts, here⟩
    · rw [if_neg starts] at member
      exact .inl member
  refine ⟨disciplined_step quiet.disciplined stepped, fun slot member => ?_, fun slot member => ?_,
    fun slot member => ?_⟩
  · rcases split slot member with old | ⟨starts, rfl⟩
    · exact earlier slot old
    · exact spawned_onSpent starts spent event stepped
  · exact Nat.lt_of_lt_of_le (called slot member) grow
  · rcases split slot member with old | ⟨starts, rfl⟩
    · exact silent slot old
    · exact fun calls => Nat.lt_irrefl _ (called _ calls)

/-- In every run whose late deliveries find their target spent, no late pass calls
the provider. -/
theorem no_late_call (idle : Idle origin)
    (reach : Machine.Reach (monitoring context)
      (fun monitored label => lateSpent monitored.world label = true) { world := origin } final) :
    LateSilent final := by
  have quiet : Quiet final := by
    apply reach.invariant (Quiet.start idle)
    intro middle label next spent moved quiet
    exact quiet.step spent moved
  exact quiet.silent

/-- `oneDraft` with its campaign paused. -/
def pausedDraft : Db := { oneDraft with
  campaigns := ⟨[{
    id := "c"
    merchantId := "m"
    status := .paused
    triggerStates := ["dormant"]
    createdAt := 0 }], by simp⟩ }

/-- The first delivery sends and dies before its record; the campaign is paused,
and the redelivered pass stops at the replay guard. -/
def pausedAfterSend : List Label :=
  [.tick] ++ acts 0 5 smooth ++ [.settle 0, .deliver 0] ++ acts 1 12 smooth ++
    [.crash 1, .stall 0, .outside pausedDraft, .deliver 0] ++ acts 2 2 smooth ++ [.settle 2]

theorem pausedAfterSend_run :
    ((monitoring utcContext).runWhere (fun monitored label => lateSpent monitored.world label)
      { world := oneDraftWorld } pausedAfterSend).isSome := by
  decide

def pausedAfterSendWorld : Monitored :=
  ((monitoring utcContext).runWhere (fun monitored label => lateSpent monitored.world label)
    { world := oneDraftWorld } pausedAfterSend).get pausedAfterSend_run

theorem no_late_call_after_send : LateSilent pausedAfterSendWorld ∧ pausedAfterSendWorld.late = [2] ∧
    pausedAfterSendWorld.callers = [1] :=
  ⟨no_late_call ⟨rfl, rfl⟩ (Machine.reach_get pausedAfterSend_run), by decide, by decide⟩

/-- The sweep enqueues the draft, the merchant pauses the campaign, and the job is
delivered. -/
def pausedInQueue : List Label :=
  [.tick] ++ acts 0 5 smooth ++ [.settle 0, .outside pausedDraft, .deliver 0] ++ acts 1 13 smooth ++
    [.settle 1]

theorem pausedInQueue_run :
    ((monitoring utcContext).runWhere (fun _ _ => true) { world := oneDraftWorld } pausedInQueue).isSome := by
  decide

def pausedInQueueWorld : Monitored :=
  ((monitoring utcContext).runWhere (fun _ _ => true) { world := oneDraftWorld } pausedInQueue).get
    pausedInQueue_run

theorem paused_campaign_sent :
    ¬∀ context origin final, Idle origin →
      Machine.Reach (monitoring context) (fun _ _ => True) { world := origin } final → LateSilent final := by
  intro silent
  have reach := (Machine.reach_get pausedInQueue_run).mono fun _ _ _ => trivial
  have quiet := silent utcContext oneDraftWorld pausedInQueueWorld ⟨rfl, rfl⟩ reach
  revert quiet
  decide

end WinBack.Dispatch
