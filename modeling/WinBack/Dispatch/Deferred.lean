import WinBack.Dispatch.Accepted

/-! Deferred targets. Arm 2 re-enqueues them and the replay guard lets them
through, but the compare-and-set before the send accepts only `pending`, and
nothing moves a deferred target back: no pass ever sends one. -/

namespace WinBack.Dispatch

open Library CampaignRepository Script

/-- A pass that runs alone: every call is carried out at its own time, and SES
answers every send with the same outcome. -/
def serve (time : Nat → Date) (outcome : SdkOutcome) (store : Backend × Nat) (request : Call) :
    Except Thrown request.Value × (Backend × Nat) :=
  match exec store.1 request
      { now := time store.2, outcome := .ses outcome, accepted := outcome.acknowledged } with
  | some (answer, after) => (answer, (after, store.2 + 1))
  | none => (.error .foreign, (store.1, store.2 + 1))

/-- The backend that a pass leaves when it runs alone. -/
def passAlone (context : DrainerContext) (time : Nat → Date) (outcome : SdkOutcome) (backend : Backend)
    (payload : CampaignDispatchJobPayload) : Backend :=
  (run (serve time outcome) (backend, 0) (processCampaignDispatchJob context payload)).2.1

/-- The target and its message are recorded as sent. -/
def RecordedSent (db : Db) (messageId : MessageId) : Prop :=
  targetStatus db messageId = some .sent ∧ messageStatus db messageId = some .sent

instance (db : Db) (messageId : MessageId) : Decidable (RecordedSent db messageId) :=
  inferInstanceAs (Decidable (_ ∧ _))

variable {time : Nat → Date} {outcome : SdkOutcome} {backend : Backend} {reads : Nat}

section Calls

variable {Result : Type}

/-- A read answers from the store and leaves it alone. -/
theorem run_ask (read : Query) (rest : read.Answer → Program Result) :
    run (serve time outcome) (backend, reads) (ask read >>= rest) =
      run (serve time outcome) (backend, reads + 1) (rest (read.eval backend.db)) := rfl

theorem run_clock (rest : Date → Program Result) :
    run (serve time outcome) (backend, reads) (clock >>= rest) =
      run (serve time outcome) (backend, reads + 1) (rest (time reads)) := rfl

/-- The claim of a message that has its target changes nothing. -/
theorem run_claimTarget {payload : CampaignDispatchJobPayload}
    (rest : ClaimTargetResult → Program Result)
    (claimed : targetStatus backend.db payload.messageId ≠ none) :
    run (serve time outcome) (backend, reads)
        (claimTarget payload.merchantId (claimArgs payload) >>= rest) =
      run (serve time outcome) (backend, reads + 1) (rest .alreadyClaimed) := by
  have repeated : CampaignRepository.claimTarget payload.merchantId (claimArgs payload) (time reads)
      backend.db = (.ok .alreadyClaimed, backend.db) := claimTarget_claimed (time reads) claimed
  have answer : serve time outcome (backend, reads)
      (.claimTarget payload.merchantId (claimArgs payload)) =
      (.ok .alreadyClaimed, (backend, reads + 1)) := by
    simp [serve, exec, repeated, Fate.apply, Except.mapError]
  unfold claimTarget perform
  rw [run_bind, run_perform, answer]

/-- A deferred target loses the compare-and-set. -/
theorem run_startSending {scope : MerchantId} {messageId : MessageId} {now : Date}
    (rest : StartSendingResult → Program Result)
    (deferred : targetStatus backend.db messageId = some .deferred) :
    run (serve time outcome) (backend, reads) (startSending scope messageId now >>= rest) =
      run (serve time outcome) (backend, reads + 2) (rest (.noopNotPending .deferred)) := by
  have lost : CampaignRepository.startSending scope messageId now backend.db = (false, backend.db) := by
    cases startSending_cases scope messageId now backend.db with
    | hit reported moves =>
      obtain ⟨old, expected, before⟩ := moves.before
      rw [deferred] at before
      cases before
      simp at expected
    | missed same missed => exact same
  have answer : serve time outcome (backend, reads) (.startSending scope messageId now) =
      (.ok false, (backend, reads + 1)) := by
    simp [serve, exec, lost, answered, Fate.apply, Except.mapError]
  have result : run (serve time outcome) (backend, reads) (startSending scope messageId now) =
      (.ok (.noopNotPending .deferred), (backend, reads + 2)) := by
    unfold startSending perform
    rw [run_bind, run_perform, answer]
    change run _ (backend, reads + 1) (ask (.targetStatus messageId) >>= _) = _
    rw [run_ask]
    simp only [Query.eval, deferred]
    rfl
  rw [run_bind, result]

end Calls

/-- A gate chain that runs to its end leaves the backend alone. -/
theorem runGateChain_backend (context : DrainerContext) (merchantId : MerchantId)
    (target : DispatchContext) (now : Date) :
    (run (serve time outcome) (backend, reads)
      (runGateChain context merchantId target now)).2.1 = backend := by
  unfold runGateChain
  rw [run_ask]
  split
  · rfl
  split
  · rfl
  rw [run_ask]
  split
  · rfl
  rw [run_ask]
  split
  · rfl
  rw [run_ask]
  split
  · rfl
  split
  · rfl
  rw [run_ask, run_ask]
  split <;> rfl

/-- The deferred target of the claim: selected by arm 2, young and with an active
campaign, so that it is re-enqueued. -/
structure Reentered (db : Db) (startedAt : Date) (merchantId : MerchantId) (entry : DeferredTarget) :
    Prop where
  selected : entry ∈ findDeferredTargets db merchantId
  reenters : deferredFate startedAt entry = .reenter

/-- A pass that finds every gate passing and an address present, with a provider
that accepts. -/
structure Sendable (context : DrainerContext) (time : Nat → Date) (outcome : SdkOutcome)
    (backend : Backend) (payload : CampaignDispatchJobPayload) : Prop where
  ready : ∃ target, loadDispatchContext backend.db payload.messageId = some target ∧
    target.customerEmail.getD "" ≠ "" ∧
    (run (serve time outcome) (backend, 3)
      (runGateChain context payload.merchantId target (time 2))).1 = .ok .passed
  accepting : outcome.acknowledged = true

/-- A pass over a deferred target that clears every gate ends where it began. -/
theorem deferred_pass_noop {context : DrainerContext} {payload : CampaignDispatchJobPayload}
    (deferred : targetStatus backend.db payload.messageId = some .deferred)
    (sendable : Sendable context time outcome backend payload) :
    passAlone context time outcome backend payload = backend := by
  obtain ⟨target, loaded, addressed, passed⟩ := sendable.ready
  have status : target.targetStatus = .deferred :=
    Option.some.inj ((loaded_status loaded).symm.trans deferred)
  have gates : ∃ reads, run (serve time outcome) (backend, 3)
      (runGateChain context payload.merchantId target (time 2)) = (.ok .passed, (backend, reads)) := by
    have unchanged : (run (serve time outcome) (backend, 3)
        (runGateChain context payload.merchantId target (time 2))).2.1 = backend :=
      runGateChain_backend context payload.merchantId target (time 2)
    exact ⟨_, Prod.ext passed (Prod.ext unchanged rfl)⟩
  obtain ⟨reads, gates⟩ := gates
  unfold passAlone processCampaignDispatchJob
  rw [run_claimTarget _ (by simp [deferred]), run_ask]
  simp only [Query.eval, loaded]
  rw [if_neg (by simp [status, replayGuard]), run_clock, run_bind, gates]
  simp only [if_neg addressed]
  rw [run_clock, run_startSending _ deferred]
  rfl

/-- A status from which no pass ever records a send. -/
def Postponed (status : Option CampaignTargetStatus) : Prop :=
  status = some .deferred ∨ status = some .suppressed ∨ status = some .failed

/-- The step lemma: nothing leads from a postponed status out of them. -/
theorem postponed_of_event {world next : World} {label : Label} {messageId : MessageId}
    (event : Event world next label) (postponed : Postponed (targetStatus world.backend.db messageId)) :
    Postponed (targetStatus next.backend.db messageId) := by
  cases disturbance_of_event event messageId with
  | none undisturbed =>
    rw [undisturbed.status]
    exact postponed
  | resolved member phase present named sends tally moves =>
    rw [moves.reached]
    simp [Postponed]
  | acted named live phase pending allowed afterPhase effect tasks =>
    subst named
    cases effect with
    | claim silent onto absent statuses merchants messages => simp [Postponed, absent] at postponed
    | suppress call onto moved | postpone onto moved =>
      rw [moved.moves.reached]
      simp [Postponed]
    | reject status onto moved =>
      rw [moved.moves.reached]
      cases status <;> simp [Postponed, TerminalStatus.target]
    | start onto moved | complete moved | revert moved =>
      obtain ⟨old, expected, before⟩ := moved.moves.before
      simp [Postponed, before, List.mem_singleton.mp expected] at postponed
    | send record possible decided db jobs sends onto =>
      rw [db]
      exact postponed

/-- The run lemma: whatever passes and sweeps are interleaved, a target found
deferred is never recorded as sent. -/
theorem deferred_of_reach {context : DrainerContext} {world final : World} {messageId : MessageId}
    (disciplined : world.tasks.Every Disciplined)
    (deferred : targetStatus world.backend.db messageId = some .deferred)
    (reach : Machine.Reach (machine context) (fun _ _ => True) world final) :
    targetStatus final.backend.db messageId ≠ some .sent := by
  have kept : final.tasks.Every Disciplined ∧ Postponed (targetStatus final.backend.db messageId) := by
    apply reach.invariant (And.intro disciplined (.inl deferred))
    intro middle label next _ moved safe
    exact ⟨disciplined_step safe.1 moved, postponed_of_event (event_of_step safe.1 moved) safe.2⟩
  rcases kept.2 with status | status | status <;> simp [status]

/-- No deferred target that arm 2 re-enqueues is sent by its pass, although every
gate passes, an address is present and SES would accept: alone, the pass ends with
the target still deferred, and no interleaving with other passes and sweeps sends it. -/
theorem deferred_never_sent {context : DrainerContext} {startedAt : Date} {merchantId : MerchantId}
    {entry : DeferredTarget} (reentered : Reentered backend.db startedAt merchantId entry)
    (sendable : Sendable context time outcome backend (deferredJob merchantId entry)) :
    ¬RecordedSent (passAlone context time outcome backend (deferredJob merchantId entry)).db
        entry.messageId ∧
      ∀ world final : World, world.backend = backend → world.tasks.Every Disciplined →
        Machine.Reach (machine context) (fun _ _ => True) world final →
        ¬RecordedSent final.backend.db entry.messageId := by
  have deferred := findDeferredTargets_status reentered.selected
  refine ⟨?_, ?_⟩
  · intro recorded
    rw [deferred_pass_noop deferred sendable] at recorded
    have sent := recorded.1
    simp [deferred] at sent
  · rintro world final rfl disciplined reach recorded
    exact deferred_of_reach disciplined deferred reach recorded.1

/-- The draft of `oneDraft`, claimed and deferred. -/
def deferredDraft : Db :=
  (CampaignRepository.deferTarget "m" "d"
    (CampaignRepository.claimTarget "m" ⟨"m", "c", "d", "u"⟩ 0 oneDraft).2).2

def deferredEntry : DeferredTarget := ⟨"d", "c", "u", 0, true⟩

theorem reentered_deferredDraft : Reentered deferredDraft 0 "m" deferredEntry :=
  ⟨by decide, by decide⟩

theorem sendable_deferredDraft : Sendable utcContext (fun _ => 10 * msPerHour) (.response (some "ses-1"))
    { db := deferredDraft } (deferredJob "m" deferredEntry) :=
  ⟨⟨_, rfl, by decide, rfl⟩, rfl⟩

/-- The backend after the pass over `deferredDraft`. -/
def deferredPass : Backend :=
  passAlone utcContext (fun _ => 10 * msPerHour) (.response (some "ses-1")) { db := deferredDraft }
    (deferredJob "m" deferredEntry)

theorem deferred_never_sent_one_draft :
    targetStatus deferredPass.db "d" = some .deferred ∧ ¬RecordedSent deferredPass.db "d" :=
  ⟨by decide, (deferred_never_sent reentered_deferredDraft sendable_deferredDraft).1⟩

theorem deferred_left_unsent :
    ¬∀ (context : DrainerContext) (time : Nat → Date) (outcome : SdkOutcome) (backend : Backend)
      (startedAt : Date) (merchantId : MerchantId) (entry : DeferredTarget),
      Reentered backend.db startedAt merchantId entry →
      Sendable context time outcome backend (deferredJob merchantId entry) →
      RecordedSent (passAlone context time outcome backend (deferredJob merchantId entry)).db
        entry.messageId := by
  intro claim
  have sent := (claim utcContext (fun _ => 10 * msPerHour) (.response (some "ses-1"))
    { db := deferredDraft } 0 "m" deferredEntry reentered_deferredDraft sendable_deferredDraft).1
  revert sent
  decide

end WinBack.Dispatch
