import WinBack.Dispatch.Sweep

/-! The call discipline of passes and sweeps: which call each phase allows and
which phase follows each answer, with the proof that the worker and the sweep keep
to it. Invariants of the system read phases, never programs. -/

namespace WinBack.Dispatch

open Library Script

/-- Where a pass stands with respect to its target. -/
inductive Stage where
  | fresh       -- not claimed yet
  | claimed     -- claimed, status not read yet
  | opened      -- read as pending or deferred
  | owner       -- won the compare-and-set, provider not called yet
  | acked       -- provider acknowledged
  | refused     -- provider call threw a retryable or unknown error
  | rejected    -- provider call threw a terminal error
  | leaving     -- nothing left to do for the target
  | failing     -- an uncaught error is on its way
  deriving DecidableEq, Repr

/-- Where a sweep stands with respect to one merchant. -/
inductive SweepStage where
  | idle
  | drafted (merchantId : MerchantId) (drafts : List DispatchableDraft)
  | deferred (merchantId : MerchantId) (drafts : List DispatchableDraft)
      (targets : List DeferredTarget)
  deriving DecidableEq, Repr

inductive Phase where
  | pass (payload : CampaignDispatchJobPayload) (stage : Stage)
  | sweep (stage : SweepStage)
  deriving DecidableEq, Repr

/-- The jobs that a sweep may enqueue for the rows it has read. -/
def enqueueable (merchantId : MerchantId) (drafts : List DispatchableDraft)
    (targets : List DeferredTarget) (payload : CampaignDispatchJobPayload) : Prop :=
  (∃ draft ∈ drafts, payload = draftJob merchantId draft) ∨
    ∃ target ∈ targets, payload = deferredJob merchantId target

def Stage.allows (payload : CampaignDispatchJobPayload) : Stage → Call → Prop
  | .fresh, .claimTarget scope args => scope = payload.merchantId ∧ args = claimArgs payload
  | .claimed, .query read => read = .loadDispatchContext payload.messageId
  | .opened, .query _ | .opened, .clock => True
  | .opened, .resolveTerminal scope messageId _ status =>
    scope = payload.merchantId ∧ messageId = payload.messageId ∧ status = .suppressed
  | .opened, .deferTarget scope messageId | .opened, .startSending scope messageId _
  | .refused, .revertToPending scope messageId | .rejected, .resolveTerminal scope messageId _ _ =>
    scope = payload.merchantId ∧ messageId = payload.messageId
  | .owner, .send args => args.correlationId = payload.messageId
  | .acked, .markSentWithQuota scope args =>
    scope = payload.merchantId ∧ args.messageId = payload.messageId
  | .acked, .query _ | .leaving, .query _ | .leaving, .appendAudit _ => True
  | _, _ => False

def SweepStage.allows : SweepStage → Call → Prop
  | _, .clock | _, .query .liveMerchants | _, .query (.findDispatchableDrafts _) => True
  | .drafted merchantId _, .query read => read = .findDeferredTargets merchantId
  | .deferred merchantId _ targets, .resolveTerminal scope messageId _ status =>
    scope = merchantId ∧ (∃ target ∈ targets, target.messageId = messageId) ∧ status = .suppressed
  | .deferred merchantId drafts targets, .addBulk payloads =>
    ∀ payload ∈ payloads, enqueueable merchantId drafts targets payload
  | _, _ => False

def Stage.next : Stage → (request : Call) → Except Thrown request.Value → Stage
  | .fresh, .claimTarget _ _, .ok _ => .claimed
  | .claimed, .query (.loadDispatchContext _), .ok target =>
    if target.any fun target => !replayGuard target.targetStatus then .opened else .leaving
  | .opened, .query _, .ok _ | .opened, .clock, .ok _ => .opened
  | .opened, .resolveTerminal _ _ _ _, .ok _ | .opened, .deferTarget _ _, .ok _ => .leaving
  | .opened, .startSending _ _ _, .ok started => if started then .owner else .leaving
  | .owner, .send _, .ok _ => .acked
  | .owner, .send _, .error (.provider error) => if error.retryable then .refused else .rejected
  | .owner, .send _, .error _ => .refused
  | .acked, _, _ => .acked
  | .leaving, _, _ | .rejected, .resolveTerminal _ _ _ _, .ok _ => .leaving
  | _, _, _ => .failing

def SweepStage.next : SweepStage → (request : Call) → Except Thrown request.Value → SweepStage
  | _, .query (.findDispatchableDrafts merchantId), .ok drafts => .drafted merchantId drafts
  | .drafted merchantId drafts, .query (.findDeferredTargets _), .ok targets =>
    .deferred merchantId drafts targets
  | stage, .resolveTerminal _ _ _ _, .ok _ => stage
  | _, _, _ => .idle

/-- The discipline of dispatch tasks. -/
def discipline : Discipline Call Call.Value Thrown Phase where
  allowed
    | .pass payload stage, request => stage.allows payload request
    | .sweep stage, request => stage.allows request
  next
    | .pass payload stage, request, answer => .pass payload (stage.next request answer)
    | .sweep stage, request, answer => .sweep (stage.next request answer)

/-- A pass that returns normally has left its target or acknowledged its send. -/
def Ended (payload : CampaignDispatchJobPayload) (phase : Phase) (outcome : Except Thrown Unit) : Prop :=
  match outcome with
  | .ok _ => phase = .pass payload .leaving ∨ phase = .pass payload .acked
  | .error _ => phase = .pass payload .leaving ∨ phase = .pass payload .failing

section Obeys

variable (payload : CampaignDispatchJobPayload)

/-- The gate chain only reads. -/
theorem runGateChain_obeys (context : DrainerContext) (merchantId : MerchantId) (target : DispatchContext)
    (now : Date) :
    (runGateChain context merchantId target now).Obeys discipline (.pass payload .opened)
      fun reached outcome => match outcome with
        | .ok _ => reached = .pass payload .opened
        | .error _ => reached = .pass payload .failing := by
  unfold runGateChain
  refine obeys_perform_bind.mpr ⟨trivial, fun _ => rfl, fun suppressed => ?_⟩
  refine obeys_ite.mpr ⟨fun _ => rfl, fun _ => ?_⟩
  refine obeys_ite.mpr ⟨fun _ => rfl, fun _ => ?_⟩
  refine obeys_perform_bind.mpr ⟨trivial, fun _ => rfl, fun ordered => ?_⟩
  refine obeys_ite.mpr ⟨fun _ => rfl, fun _ => ?_⟩
  refine obeys_perform_bind.mpr ⟨trivial, fun _ => rfl, fun cooling => ?_⟩
  refine obeys_ite.mpr ⟨fun _ => rfl, fun _ => ?_⟩
  refine obeys_perform_bind.mpr ⟨trivial, fun _ => rfl, fun today => ?_⟩
  refine obeys_ite.mpr ⟨fun _ => rfl, fun _ => ?_⟩
  refine obeys_ite.mpr ⟨fun _ => rfl, fun _ => ?_⟩
  refine obeys_perform_bind.mpr ⟨trivial, fun _ => rfl, fun daySentCount => ?_⟩
  refine obeys_perform_bind.mpr ⟨trivial, fun _ => rfl, fun monthSentCount => ?_⟩
  exact obeys_ite.mpr ⟨fun _ => rfl, fun _ => rfl⟩

theorem handleSesError_obeys (shop : String) (thrown : Thrown) :
    (handleSesError payload shop thrown).Obeys discipline
      (discipline.next (.pass payload .owner) (.send args) (.error thrown)) (Ended payload) := by
  unfold handleSesError
  split
  · rename_i error
    refine obeys_ite.mpr ⟨fun retryable => ?_, fun terminal => ?_⟩
    · simp only [discipline, Stage.next, retryable]
      exact obeys_perform_bind.mpr ⟨⟨rfl, rfl⟩, fun _ => .inr rfl, fun _ => .inr rfl⟩
    · simp only [discipline, Stage.next, terminal]
      refine obeys_ite.mpr ⟨fun _ => ?_, fun _ => ?_⟩
      · refine obeys_perform_bind.mpr ⟨⟨rfl, rfl⟩, fun _ => .inr rfl, fun _ => ?_⟩
        refine ⟨trivial, ?_⟩
        rintro (error | answer)
        · exact .inl rfl
        · exact .inl rfl
      · exact obeys_perform_bind.mpr ⟨⟨rfl, rfl⟩, fun _ => .inr rfl, fun _ => .inl rfl⟩
  · rename_i unknown
    cases thrown with
    | provider error => exact False.elim (unknown error rfl)
    | db error => exact obeys_perform_bind.mpr ⟨⟨rfl, rfl⟩, fun _ => .inr rfl, fun _ => .inr rfl⟩
    | foreign => exact obeys_perform_bind.mpr ⟨⟨rfl, rfl⟩, fun _ => .inr rfl, fun _ => .inr rfl⟩

/-- The completion loop never throws. -/
theorem completeWithRetries_obeys (args : MarkSentArgs) (same : args.messageId = payload.messageId)
    (attempts : Nat) :
    (completeWithRetries payload.merchantId args attempts).Obeys discipline (.pass payload .acked)
      fun reached outcome => reached = .pass payload .acked ∧ ∃ result, outcome = .ok result := by
  induction attempts with
  | zero => exact ⟨rfl, _, rfl⟩
  | succ attempts ih =>
    unfold completeWithRetries markSentWithQuota
    rw [obeys_tryCatch, obeys_bind]
    refine obeys_perform_bind.mpr ⟨⟨rfl, same⟩, fun _ => ih, fun committed => ?_⟩
    refine obeys_ite.mpr ⟨fun _ => ⟨rfl, _, rfl⟩, fun _ => ?_⟩
    exact obeys_perform_bind.mpr ⟨trivial, fun _ => ih, fun current => ⟨rfl, _, rfl⟩⟩

/-- Only a won compare-and-set makes the pass the owner of its target. -/
theorem startSending_obeys (now : Date) :
    (startSending payload.merchantId payload.messageId now).Obeys discipline (.pass payload .opened)
      fun reached outcome => match outcome with
        | .ok .started => reached = .pass payload .owner
        | .ok _ => reached = .pass payload .leaving
        | .error _ => reached = .pass payload .failing ∨ reached = .pass payload .leaving := by
  unfold startSending
  refine obeys_perform_bind.mpr ⟨⟨rfl, rfl⟩, fun _ => .inl rfl, fun started => ?_⟩
  cases started with
  | true => rfl
  | false =>
    refine obeys_perform_bind.mpr ⟨trivial, fun _ => .inr rfl, fun current => ?_⟩
    cases current <;> rfl

theorem sendAndComplete_obeys (context : DrainerContext) (target : DispatchContext)
    (recipient : String) (now : Date) :
    (sendAndComplete context payload target recipient now).Obeys discipline (.pass payload .owner)
      (Ended payload) := by
  unfold sendAndComplete
  rw [obeys_bind, obeys_tryCatch]
  refine obeys_perform_bind.mpr ⟨rfl, fun thrown => ?_, fun accepted => ?_⟩
  · refine (obeys_bind ..).mpr ?_
    refine (handleSesError_obeys payload target.shop thrown).mono ?_
    rintro reached (error | answer) ended
    · exact ended
    · exact ended
  · refine (obeys_bind ..).mpr ?_
    refine (completeWithRetries_obeys payload _ rfl completionTxRetries).mono ?_
    rintro reached outcome ⟨rfl, result, rfl⟩
    exact .inr rfl

/-- A pass keeps to its discipline. -/
theorem processCampaignDispatchJob_obeys (context : DrainerContext) :
    (processCampaignDispatchJob context payload).Obeys discipline (.pass payload .fresh)
      (Ended payload) := by
  unfold processCampaignDispatchJob
  refine obeys_perform_bind.mpr ⟨⟨rfl, rfl⟩, fun _ => .inr rfl, fun _ => ?_⟩
  refine obeys_perform_bind.mpr ⟨rfl, fun _ => .inr rfl, fun loaded => ?_⟩
  cases loaded with
  | none => exact .inl rfl
  | some target =>
    have stage : discipline.next (.pass payload .claimed) (.query (.loadDispatchContext payload.messageId))
        (.ok (some target)) = .pass payload (if replayGuard target.targetStatus then .leaving else .opened) := by
      cases guarded : replayGuard target.targetStatus <;> simp [discipline, Stage.next, guarded]
    refine stage ▸ obeys_ite.mpr ⟨fun guarded => ?_, fun admitted => ?_⟩
    · rw [guarded]
      exact .inl rfl
    · rw [if_neg admitted]
      refine obeys_perform_bind.mpr ⟨trivial, fun _ => .inr rfl, fun gateNow => ?_⟩
      refine (obeys_bind ..).mpr ((runGateChain_obeys payload context _ target gateNow).mono ?_)
      rintro reached (error | outcome) rfl
      · exact .inr rfl
      · cases outcome with
        | suppressed gate => exact obeys_perform_bind.mpr ⟨⟨rfl, rfl, rfl⟩, fun _ => .inr rfl, fun _ => .inl rfl⟩
        | deferred gate => exact obeys_perform_bind.mpr ⟨⟨rfl, rfl⟩, fun _ => .inr rfl, fun _ => .inl rfl⟩
        | passed =>
          refine obeys_ite.mpr ⟨fun _ => ?_, fun _ => ?_⟩
          · exact obeys_perform_bind.mpr ⟨⟨rfl, rfl⟩, fun _ => .inr rfl, fun _ => .inl rfl⟩
          · refine obeys_perform_bind.mpr ⟨trivial, fun _ => .inr rfl, fun now => ?_⟩
            refine (obeys_bind ..).mpr ((startSending_obeys payload now).mono ?_)
            rintro reached (error | result) ended
            · exact ended.symm
            · cases result with
              | started =>
                subst ended
                exact sendAndComplete_obeys payload context target _ now
              | noopNotPending current => exact .inl ended
              | noopTargetMissing => exact .inl ended

end Obeys

section Sweep

variable (startedAt : Date) (merchantId : MerchantId) (drafts : List DispatchableDraft)
  (targets : List DeferredTarget)

/-- Arm 2 resolves and re-enqueues only targets that it has read as deferred. -/
theorem resolveDeferred_obeys (rest : List DeferredTarget) (members : ∀ target ∈ rest, target ∈ targets) :
    (resolveDeferred startedAt merchantId rest).Obeys discipline
      (.sweep (.deferred merchantId drafts targets))
      fun reached outcome => match outcome with
        | .ok jobs => reached = .sweep (.deferred merchantId drafts targets) ∧
          ∀ payload ∈ jobs, enqueueable merchantId drafts targets payload
        | .error _ => ∃ stage, reached = .sweep stage := by
  induction rest with
  | nil => exact ⟨rfl, by simp⟩
  | cons target rest ih =>
    have member := members target (by simp)
    have others := ih fun other later => members other (by simp [later])
    unfold resolveDeferred
    cases deferredFate startedAt target with
    | stale =>
      refine obeys_perform_bind.mpr ⟨⟨rfl, ⟨target, member, rfl⟩, rfl⟩, fun _ => ⟨_, rfl⟩, fun _ => ?_⟩
      exact others
    | paused =>
      refine obeys_perform_bind.mpr ⟨⟨rfl, ⟨target, member, rfl⟩, rfl⟩, fun _ => ⟨_, rfl⟩, fun _ => ?_⟩
      exact others
    | reenter =>
      refine (obeys_bind ..).mpr (others.mono ?_)
      rintro reached (error | jobs) ended
      · exact ended
      · refine ⟨ended.1, ?_⟩
        intro payload listed
        rcases List.mem_cons.mp listed with rfl | later
        · exact .inr ⟨target, member, rfl⟩
        · exact ended.2 payload later

theorem sweepMerchant_obeys (stage : SweepStage) :
    (sweepMerchant startedAt merchantId).Obeys discipline (.sweep stage)
      fun reached _ => ∃ stage, reached = .sweep stage := by
  unfold sweepMerchant
  have first : (discipline.allowed (.sweep stage) (.query (.findDispatchableDrafts merchantId))) := by
    cases stage <;> trivial
  refine obeys_perform_bind.mpr ⟨first, fun _ => ⟨_, rfl⟩, fun drafts => ?_⟩
  have drafted : discipline.next (.sweep stage) (.query (.findDispatchableDrafts merchantId)) (.ok drafts) =
      .sweep (.drafted merchantId drafts) := by
    cases stage <;> rfl
  rw [drafted]
  refine obeys_perform_bind.mpr ⟨rfl, fun _ => ⟨_, rfl⟩, fun targets => ?_⟩
  refine (obeys_bind ..).mpr ((resolveDeferred_obeys startedAt merchantId drafts targets targets
    fun _ member => member).mono ?_)
  rintro reached (error | reentered) ended
  · exact ended
  · obtain ⟨rfl, listed⟩ := ended
    refine obeys_ite.mpr ⟨fun _ => ⟨_, rfl⟩, fun _ => ⟨?_, fun _ => ⟨_, rfl⟩⟩⟩
    intro payload member
    rcases List.mem_append.mp member with draft | deferred
    · obtain ⟨row, present, rfl⟩ := List.mem_map.mp draft
      exact .inl ⟨row, present, rfl⟩
    · exact listed payload deferred

theorem sweepMerchants_obeys (merchants : List MerchantId) (stage : SweepStage) :
    (sweepMerchants startedAt merchants).Obeys discipline (.sweep stage)
      fun reached _ => ∃ stage, reached = .sweep stage := by
  induction merchants generalizing stage with
  | nil => exact ⟨stage, rfl⟩
  | cons merchantId rest ih =>
    unfold sweepMerchants
    rw [obeys_bind, obeys_tryCatch]
    refine (sweepMerchant_obeys startedAt merchantId stage).mono ?_
    rintro _ (error | result) ⟨reached, rfl⟩
    · exact ih reached
    · exact ih reached

/-- A sweep keeps to its discipline. -/
theorem runDispatchSweep_obeys :
    runDispatchSweep.Obeys discipline (.sweep .idle) fun reached _ => ∃ stage, reached = .sweep stage := by
  unfold runDispatchSweep
  refine obeys_perform_bind.mpr ⟨trivial, fun _ => ⟨_, rfl⟩, fun startedAt => ?_⟩
  refine obeys_perform_bind.mpr ⟨trivial, fun _ => ⟨_, rfl⟩, fun merchants => ?_⟩
  exact sweepMerchants_obeys startedAt merchants _

end Sweep

end WinBack.Dispatch
