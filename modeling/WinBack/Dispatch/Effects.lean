import WinBack.Dispatch.System
import WinBack.Campaign.Transitions

/-! What one call of a pass or a sweep can do, phase by phase. These inversions
are the only place that looks into the execution of calls: every invariant of the
system is derived from them. -/

namespace WinBack.Dispatch

open Library CampaignRepository

/-- The call touched neither the provider's record nor the queue. -/
structure Silent (before after : Backend) : Prop where
  sends : after.sends = before.sends
  jobs : after.jobs = before.jobs

/-- The call moved no target and no message. -/
structure Unmoved (before after : Backend) : Prop extends Silent before after where
  targets : after.db.campaignTargets = before.db.campaignTargets
  messages : after.db.messages = before.db.messages

/-- A guarded write hit its target. -/
structure Moved (payload : CampaignDispatchJobPayload) (statuses : List CampaignTargetStatus)
    (status : CampaignTargetStatus) (before after : Backend) : Prop extends Silent before after where
  moves : Moves payload.merchantId payload.messageId statuses status before.db after.db

/-- The steps of a pass that move nothing: it stays where it is, reads on, leaves
because its context is gone or nothing is pending, or fails. -/
inductive Idling (payload : CampaignDispatchJobPayload) (db : Db) : Stage → Stage → Prop where
  | stay {stage : Stage} : Idling payload db stage stage
  | claimed : Idling payload db .fresh .claimed
  | opened : Idling payload db .claimed .opened
  | unloaded (missing : loadDispatchContext db payload.messageId = none) :
      Idling payload db .claimed .leaving
  | leave {stage : Stage} (missed : Missed payload.merchantId payload.messageId [.pending] db) :
      Idling payload db stage .leaving
  | fail {stage : Stage} : Idling payload db stage .failing

/-- The calls of a pass that move its target or call the provider. -/
inductive MoveEffect (payload : CampaignDispatchJobPayload) (request : Call) (choice : Choice)
    (before after : Backend) : Stage → Stage → Prop where
  | claim {next : Stage} (silent : Silent before after) (onto : next = .claimed ∨ next = .failing)
      (absent : targetStatus before.db payload.messageId = none)
      (statuses : targetStatus after.db =
        Function.update (targetStatus before.db) payload.messageId (some .pending))
      (merchants : targetMerchant after.db =
        Function.update (targetMerchant before.db) payload.messageId (some payload.merchantId))
      (messages : after.db.messages = before.db.messages) : MoveEffect payload request choice before after .fresh next
  | suppress {next : Stage} {reason : String}
      (call : request = .resolveTerminal payload.merchantId payload.messageId reason .suppressed)
      (onto : next = .leaving ∨ next = .failing)
      (moved : Moved payload [.pending, .deferred, .sending] .suppressed before after) :
      MoveEffect payload request choice before after .opened next
  | postpone {next : Stage} (onto : next = .leaving ∨ next = .failing)
      (moved : Moved payload [.pending, .deferred] .deferred before after) :
      MoveEffect payload request choice before after .opened next
  | start {next : Stage} (onto : next = .owner ∨ next = .failing)
      (moved : Moved payload [.pending] .sending before after) :
      MoveEffect payload request choice before after .opened next
  | send {next : Stage} (record : SendRecord) (possible : record.possible = true)
      (decided : record = ⟨payload.messageId, choice.outcome, choice.written, choice.accepted⟩)
      (db : after.db = before.db)
      (jobs : after.jobs = before.jobs) (sends : after.sends = before.sends ++ [record])
      (onto : next = .acked ∧ record.outcome.acknowledged = true ∨
        next = .refused ∧ record.outcome.acknowledged = false ∨
        next = .rejected ∧ record.outcome.acknowledged = false ∧
          record.outcome.unacknowledged = false) :
      MoveEffect payload request choice before after .owner next
  | complete (moved : Moved payload [.sending] .sent before after) :
      MoveEffect payload request choice before after .acked .acked
  | revert (moved : Moved payload [.sending] .pending before after) :
      MoveEffect payload request choice before after .refused .failing
  | reject {next : Stage} (status : TerminalStatus) (onto : next = .leaving ∨ next = .failing)
      (moved : Moved payload [.pending, .deferred, .sending] status.target before after) :
      MoveEffect payload request choice before after .rejected next

/-- What a call of a pass does. -/
inductive PassEffect (payload : CampaignDispatchJobPayload) (request : Call) (choice : Choice)
    (before after : Backend) (stage next : Stage) : Prop where
  | idle (unmoved : Unmoved before after) (idling : Idling payload before.db stage next)
  | move (effect : MoveEffect payload request choice before after stage next)

section Writes

variable {before after : Backend} {scope : MerchantId} {messageId : MessageId}
  {statuses : List CampaignTargetStatus} {status : CampaignTargetStatus}

/-- An executed guarded write hit, missed, or did not happen. -/
theorem guarded_effect {write : Bool × Db} {fate : Fate} {answer : Except Thrown Bool}
    (guarded : Guarded scope messageId statuses status before.db write)
    (executed : fate.apply before (answered write) = (answer, after)) :
    (Moves scope messageId statuses status before.db after.db ∧ Silent before after ∧
        (answer = .ok true ∨ ∃ error, answer = .error error)) ∨
      (Unmoved before after ∧ ((answer = .ok false ∧ Missed scope messageId statuses before.db) ∨
        ∃ error, answer = .error error)) := by
  cases fate with
  | done =>
    cases executed
    cases guarded with
    | hit reported moves => exact .inl ⟨moves, ⟨rfl, rfl⟩, .inl (by simp [answered, reported, Except.mapError])⟩
    | missed same missed =>
      subst same
      exact .inr ⟨⟨⟨rfl, rfl⟩, rfl, rfl⟩, .inl ⟨rfl, missed⟩⟩
  | lost =>
    cases executed
    cases guarded with
    | hit reported moves => exact .inl ⟨moves, ⟨rfl, rfl⟩, .inr ⟨_, rfl⟩⟩
    | missed same missed =>
      subst same
      exact .inr ⟨⟨⟨rfl, rfl⟩, rfl, rfl⟩, .inr ⟨_, rfl⟩⟩
  | failed =>
    cases executed
    exact .inr ⟨⟨⟨rfl, rfl⟩, rfl, rfl⟩, .inr ⟨_, rfl⟩⟩

theorem missed_mono {fewer : List CampaignTargetStatus} (missed : Missed scope messageId statuses db)
    (sub : ∀ status ∈ fewer, status ∈ statuses) : Missed scope messageId fewer db :=
  fun target member named owned expected => missed target member named owned (sub _ expected)

/-- The loaded context carries the present status of the target. -/
theorem loaded_status {target : DispatchContext} (loaded : loadDispatchContext db messageId = some target) :
    targetStatus db messageId = some target.targetStatus := by
  unfold loadDispatchContext at loaded
  obtain ⟨row, found, rest⟩ := Option.bind_eq_some_iff.mp loaded
  obtain ⟨settings, _, rest⟩ := Option.bind_eq_some_iff.mp rest
  obtain ⟨merchant, _, rest⟩ := Option.bind_eq_some_iff.mp rest
  obtain ⟨customer, _, rest⟩ := Option.bind_eq_some_iff.mp rest
  obtain ⟨message, _, rest⟩ := Option.bind_eq_some_iff.mp rest
  obtain ⟨generation, _, rest⟩ := Option.bind_eq_some_iff.mp rest
  cases rest
  simp [targetStatus, found]

/-- A read executes without a trace. -/
theorem query_effect {read : Query} {choice : Choice} {answer : Except Thrown read.Answer}
    (executed : exec before (.query read) choice = some (answer, after)) :
    after = before ∧ (answer = .ok (read.eval before.db) ∨ ∃ error, answer = .error error) := by
  simp only [exec, Option.some.injEq, Prod.mk.injEq] at executed
  obtain ⟨answered, same⟩ := executed
  refine ⟨same.symm, ?_⟩
  split at answered
  · exact .inl answered.symm
  · exact .inr ⟨_, answered.symm⟩

end Writes

section Passes

variable {payload : CampaignDispatchJobPayload} {before after : Backend} {choice : Choice}

private theorem unmoved_refl : Unmoved before before := ⟨⟨rfl, rfl⟩, rfl, rfl⟩

private theorem claim_effect {answer : Except Thrown ClaimTargetResult}
    (executed : exec before (.claimTarget payload.merchantId (claimArgs payload)) choice =
      some (answer, after)) :
    PassEffect payload (.claimTarget payload.merchantId (claimArgs payload)) choice before after .fresh
      (Stage.fresh.next (.claimTarget payload.merchantId (claimArgs payload)) answer) := by
  simp only [exec, Option.some.injEq] at executed
  rcases claimTarget_cases payload.merchantId (claimArgs payload) choice.now before.db with
    ⟨targets, _, result, _, absent, statuses, merchants⟩ | ⟨same, _⟩
  · rw [result] at executed
    cases fate : choice.fate with
    | done =>
      rw [fate] at executed
      cases executed
      exact .move (.claim ⟨rfl, rfl⟩ (.inl rfl) absent statuses merchants rfl)
    | lost =>
      rw [fate] at executed
      cases executed
      exact .move (.claim ⟨rfl, rfl⟩ (.inr rfl) absent statuses merchants rfl)
    | failed =>
      rw [fate] at executed
      cases executed
      exact .idle unmoved_refl .fail
  · have unmoved : Unmoved before after := by
      cases fate : choice.fate <;> rw [fate] at executed <;> cases executed <;>
        exact ⟨⟨rfl, rfl⟩, by simp [same], by simp [same]⟩
    cases answer with
    | ok result => exact .idle unmoved .claimed
    | error error => exact .idle unmoved .fail

private theorem load_effect {answer : Except Thrown (Option DispatchContext)}
    (executed : exec before (.query (.loadDispatchContext payload.messageId)) choice =
      some (answer, after)) :
    PassEffect payload (.query (.loadDispatchContext payload.messageId)) choice before after .claimed
      (Stage.claimed.next (.query (.loadDispatchContext payload.messageId)) answer) := by
  obtain ⟨rfl, rfl | ⟨error, rfl⟩⟩ := query_effect executed
  · cases loaded : loadDispatchContext after.db payload.messageId with
    | none =>
      simp only [Query.eval, loaded]
      exact .idle unmoved_refl (.unloaded loaded)
    | some target =>
      simp only [Query.eval, loaded, Stage.next, Option.any_some]
      split
      · exact .idle unmoved_refl .opened
      · rename_i guarded
        refine .idle unmoved_refl (.leave ?_)
        intro row member named _ pending
        have status := loaded_status loaded
        rw [← named, targetStatus_of_mem member, List.mem_singleton.mp pending] at status
        simp [← Option.some.inj status, replayGuard] at guarded
  · exact .idle unmoved_refl .fail

/-- The stage after an SES call, read off its outcome. -/
private theorem outcome_stage (outcome : SdkOutcome) (args : EmailSendArgs) :
    let next := Stage.owner.next (.send args) (ProviderOutcome.answer (.ses outcome))
    next = .acked ∧ outcome.acknowledged = true ∨
      next = .refused ∧ outcome.acknowledged = false ∨
      next = .rejected ∧ outcome.acknowledged = false ∧ outcome.unacknowledged = false := by
  dsimp only
  cases sent : AmazonSesProvider.send outcome with
  | ok accepted =>
    have acknowledged := (AmazonSesProvider.send_ok_iff outcome).mp ⟨accepted, sent⟩
    exact .inl ⟨by simp [ProviderOutcome.answer, sent, Except.mapError, Stage.next], acknowledged⟩
  | error error =>
    have unacknowledged : outcome.acknowledged = false := by
      rw [Bool.eq_false_iff]
      intro acknowledged
      obtain ⟨accepted, ok⟩ := (AmazonSesProvider.send_ok_iff outcome).mpr acknowledged
      simp [sent] at ok
    cases retryable : error.retryable with
    | true =>
      refine .inr (.inl ⟨?_, unacknowledged⟩)
      simp [ProviderOutcome.answer, sent, Except.mapError, Stage.next, retryable]
    | false =>
      refine .inr (.inr ⟨?_, unacknowledged, ?_⟩)
      · simp [ProviderOutcome.answer, sent, Except.mapError, Stage.next, retryable]
      · rw [Bool.eq_false_iff]
        intro lost
        obtain ⟨other, same, transient⟩ := (AmazonSesProvider.send_transient_iff outcome).mpr lost
        cases (Except.error.inj (sent.symm.trans same))
        simp [EmailProviderError.retryable, transient, EmailProviderErrorCode.retryable] at retryable

private theorem suppress_effect {reason : String} {answer : Except Thrown Bool}
    (executed : exec before (.resolveTerminal payload.merchantId payload.messageId reason .suppressed)
      choice = some (answer, after)) :
    PassEffect payload (.resolveTerminal payload.merchantId payload.messageId reason .suppressed)
      choice before after .opened (Stage.opened.next
        (.resolveTerminal payload.merchantId payload.messageId reason .suppressed) answer) := by
  rcases guarded_effect (resolveTerminal_cases _ _ _ _ _) (Option.some.inj executed) with
    ⟨moves, silent, rfl | ⟨error, rfl⟩⟩ | ⟨unmoved, ⟨rfl, missed⟩ | ⟨error, rfl⟩⟩
  · exact .move (.suppress rfl (.inl rfl) ⟨silent, moves⟩)
  · exact .move (.suppress rfl (.inr rfl) ⟨silent, moves⟩)
  · exact .idle unmoved (.leave (missed_mono missed (by simp)))
  · exact .idle unmoved .fail

private theorem postpone_effect {answer : Except Thrown Bool}
    (executed : exec before (.deferTarget payload.merchantId payload.messageId) choice =
      some (answer, after)) :
    PassEffect payload (.deferTarget payload.merchantId payload.messageId)
      choice before after .opened (Stage.opened.next
        (.deferTarget payload.merchantId payload.messageId) answer) := by
  rcases guarded_effect (deferTarget_cases _ _ _) (Option.some.inj executed) with
    ⟨moves, silent, rfl | ⟨error, rfl⟩⟩ | ⟨unmoved, ⟨rfl, missed⟩ | ⟨error, rfl⟩⟩
  · exact .move (.postpone (.inl rfl) ⟨silent, moves⟩)
  · exact .move (.postpone (.inr rfl) ⟨silent, moves⟩)
  · exact .idle unmoved (.leave (missed_mono missed (by simp)))
  · exact .idle unmoved .fail

private theorem start_effect {now : Date} {answer : Except Thrown Bool}
    (executed : exec before (.startSending payload.merchantId payload.messageId now) choice =
      some (answer, after)) :
    PassEffect payload (.startSending payload.merchantId payload.messageId now)
      choice before after .opened (Stage.opened.next
        (.startSending payload.merchantId payload.messageId now) answer) := by
  rcases guarded_effect (startSending_cases _ _ _ _) (Option.some.inj executed) with
    ⟨moves, silent, rfl | ⟨error, rfl⟩⟩ | ⟨unmoved, ⟨rfl, missed⟩ | ⟨error, rfl⟩⟩
  · exact .move (.start (.inl rfl) ⟨silent, moves⟩)
  · exact .move (.start (.inr rfl) ⟨silent, moves⟩)
  · exact .idle unmoved (.leave missed)
  · exact .idle unmoved .fail

private theorem revert_effect {answer : Except Thrown Bool}
    (executed : exec before (.revertToPending payload.merchantId payload.messageId) choice =
      some (answer, after)) :
    PassEffect payload (.revertToPending payload.merchantId payload.messageId)
      choice before after .refused (Stage.refused.next
        (.revertToPending payload.merchantId payload.messageId) answer) := by
  rcases guarded_effect (revertToPending_cases _ _ _) (Option.some.inj executed) with
    ⟨moves, silent, rfl | ⟨error, rfl⟩⟩ | ⟨unmoved, ⟨rfl, missed⟩ | ⟨error, rfl⟩⟩
  · exact .move (.revert ⟨silent, moves⟩)
  · exact .move (.revert ⟨silent, moves⟩)
  · exact .idle unmoved .fail
  · exact .idle unmoved .fail

private theorem reject_effect {reason : String} {status : TerminalStatus} {answer : Except Thrown Bool}
    (executed : exec before (.resolveTerminal payload.merchantId payload.messageId reason status)
      choice = some (answer, after)) :
    PassEffect payload (.resolveTerminal payload.merchantId payload.messageId reason status)
      choice before after .rejected (Stage.rejected.next
        (.resolveTerminal payload.merchantId payload.messageId reason status) answer) := by
  rcases guarded_effect (resolveTerminal_cases _ _ _ _ _) (Option.some.inj executed) with
    ⟨moves, silent, rfl | ⟨error, rfl⟩⟩ | ⟨unmoved, ⟨rfl, missed⟩ | ⟨error, rfl⟩⟩
  · exact .move (.reject status (.inl rfl) ⟨silent, moves⟩)
  · exact .move (.reject status (.inr rfl) ⟨silent, moves⟩)
  · exact .idle unmoved (.leave (missed_mono missed (by simp)))
  · exact .idle unmoved .fail

private theorem complete_effect {args : MarkSentArgs} (named : args.messageId = payload.messageId)
    {answer : Except Thrown Bool}
    (executed : exec before (.markSentWithQuota payload.merchantId args) choice =
      some (answer, after)) :
    PassEffect payload (.markSentWithQuota payload.merchantId args) choice before after .acked .acked := by
  simp only [exec, Option.some.injEq] at executed
  rcases markSentWithQuota_cases payload.merchantId args before.db with
    ⟨_, moves, _⟩ | ⟨same, _⟩
  · rw [named] at moves
    cases fate : choice.fate with
    | done =>
      rw [fate] at executed
      cases executed
      exact .move (.complete ⟨⟨rfl, rfl⟩, moves⟩)
    | lost =>
      rw [fate] at executed
      cases executed
      exact .move (.complete ⟨⟨rfl, rfl⟩, moves⟩)
    | failed =>
      rw [fate] at executed
      cases executed
      exact .idle unmoved_refl .stay
  · refine .idle ?_ .stay
    cases fate : choice.fate <;> rw [fate] at executed <;> cases executed <;>
      exact ⟨⟨rfl, rfl⟩, by simp [same], by simp [same]⟩

/-- A provider outcome decides the stage: acknowledged, refused or rejected. -/
private theorem send_effect {args : EmailSendArgs} (named : args.correlationId = payload.messageId)
    {answer : Except Thrown EmailSendAccepted}
    (executed : exec before (.send args) choice = some (answer, after)) :
    PassEffect payload (.send args) choice before after .owner (Stage.owner.next (.send args) answer) := by
  simp only [exec] at executed
  split at executed
  · rename_i possible
    simp only [Option.some.injEq, Prod.mk.injEq] at executed
    obtain ⟨answered, rfl⟩ := executed
    rw [named] at possible
    refine .move (.send _ possible rfl rfl rfl (by rw [named]) ?_)
    subst answered
    cases choice.outcome with
    | foreign => exact .inr (.inl ⟨rfl, rfl⟩)
    | ses outcome => exact outcome_stage outcome args
  · cases executed

/-- The inversion of one call of a pass. -/
theorem pass_effect {stage : Stage} {request : Call} {answer : Except Thrown request.Value}
    (allowed : stage.allows payload request) (executed : exec before request choice = some (answer, after)) :
    PassEffect payload request choice before after stage (stage.next request answer) := by
  cases stage with
  | fresh =>
    cases request with
    | claimTarget scope args =>
      obtain ⟨rfl, rfl⟩ := allowed
      exact claim_effect executed
    | _ => exact False.elim allowed
  | claimed =>
    cases request with
    | query read =>
      cases allowed
      exact load_effect executed
    | _ => exact False.elim allowed
  | opened =>
    cases request with
    | query read =>
      obtain ⟨rfl, rfl | ⟨error, rfl⟩⟩ := query_effect executed
      · exact .idle unmoved_refl .stay
      · exact .idle unmoved_refl .fail
    | clock =>
      cases executed
      exact .idle unmoved_refl .stay
    | resolveTerminal scope messageId reason status =>
      obtain ⟨rfl, rfl, rfl⟩ := allowed
      exact suppress_effect executed
    | deferTarget scope messageId =>
      obtain ⟨rfl, rfl⟩ := allowed
      exact postpone_effect executed
    | startSending scope messageId now =>
      obtain ⟨rfl, rfl⟩ := allowed
      exact start_effect executed
    | _ => exact False.elim allowed
  | owner =>
    cases request with
    | send args => exact send_effect allowed executed
    | _ => exact False.elim allowed
  | acked =>
    cases request with
    | markSentWithQuota scope args =>
      obtain ⟨rfl, named⟩ := allowed
      exact complete_effect named executed
    | query read =>
      obtain ⟨rfl, _⟩ := query_effect executed
      exact .idle unmoved_refl .stay
    | _ => exact False.elim allowed
  | refused =>
    cases request with
    | revertToPending scope messageId =>
      obtain ⟨rfl, rfl⟩ := allowed
      exact revert_effect executed
    | _ => exact False.elim allowed
  | rejected =>
    cases request with
    | resolveTerminal scope messageId reason status =>
      obtain ⟨rfl, rfl⟩ := allowed
      exact reject_effect executed
    | _ => exact False.elim allowed
  | leaving =>
    cases request with
    | query read =>
      obtain ⟨rfl, _⟩ := query_effect executed
      exact .idle unmoved_refl .stay
    | appendAudit row =>
      have unmoved : Unmoved before after := by
        simp only [exec, Option.some.injEq] at executed
        cases fate : choice.fate <;> rw [fate] at executed <;> cases executed <;>
          exact ⟨⟨rfl, rfl⟩, rfl, rfl⟩
      exact .idle unmoved .stay
    | _ => exact False.elim allowed
  | failing => cases request <;> exact False.elim allowed

end Passes

/-- What a call of a sweep does. -/
inductive SweepEffect (before after : Backend) : SweepStage → SweepStage → Prop where
  | stay {stage : SweepStage} (unmoved : Unmoved before after) : SweepEffect before after stage stage
  | reset {stage : SweepStage} (unmoved : Unmoved before after) : SweepEffect before after stage .idle
  | draft {stage : SweepStage} (merchantId : MerchantId) (unmoved : Unmoved before after) :
      SweepEffect before after stage
        (.drafted merchantId (findDispatchableDrafts before.db merchantId))
  | select (merchantId : MerchantId) (drafts : List DispatchableDraft) (unmoved : Unmoved before after) :
      SweepEffect before after (.drafted merchantId drafts)
        (.deferred merchantId drafts (findDeferredTargets before.db merchantId))
  | resolve {next : SweepStage} (merchantId : MerchantId) (drafts : List DispatchableDraft)
      (targets : List DeferredTarget) (target : DeferredTarget) (listed : target ∈ targets)
      (onto : next = .deferred merchantId drafts targets ∨ next = .idle) (silent : Silent before after)
      (moves : Moves merchantId target.messageId [.pending, .deferred, .sending] .suppressed
        before.db after.db) :
      SweepEffect before after (.deferred merchantId drafts targets) next
  | enqueue (merchantId : MerchantId) (drafts : List DispatchableDraft) (targets : List DeferredTarget)
      (payloads : List CampaignDispatchJobPayload)
      (sources : ∀ payload ∈ payloads, enqueueable merchantId drafts targets payload)
      (queued : after = { before with
        jobs := before.jobs ++ payloads.map fun payload => ({ payload } : Job) }) :
      SweepEffect before after (.deferred merchantId drafts targets) .idle

/-- A sweep records no send. -/
theorem SweepEffect.sends {before after : Backend} {stage reached : SweepStage}
    (effect : SweepEffect before after stage reached) : after.sends = before.sends := by
  cases effect with
  | stay unmoved | reset unmoved | draft merchantId unmoved | select merchantId drafts unmoved =>
    exact unmoved.sends
  | resolve merchantId drafts targets target listed onto silent moves => exact silent.sends
  | enqueue merchantId drafts targets payloads sources queued => rw [queued]

section Sweeps

variable {before after : Backend} {choice : Choice}

private theorem drafts_effect {stage : SweepStage} {merchantId : MerchantId}
    {answer : Except Thrown (List DispatchableDraft)}
    (executed : exec before (.query (.findDispatchableDrafts merchantId)) choice =
      some (answer, after)) :
    SweepEffect before after stage (stage.next (.query (.findDispatchableDrafts merchantId)) answer) := by
  obtain ⟨rfl, rfl | ⟨error, rfl⟩⟩ := query_effect executed
  · have next : stage.next (.query (.findDispatchableDrafts merchantId))
        (.ok (findDispatchableDrafts after.db merchantId)) =
        .drafted merchantId (findDispatchableDrafts after.db merchantId) := by
      cases stage <;> rfl
    exact next ▸ .draft merchantId unmoved_refl
  · have next : stage.next (.query (.findDispatchableDrafts merchantId)) (.error error) = .idle := by
      cases stage <;> rfl
    exact next ▸ .reset unmoved_refl

private theorem live_effect {stage : SweepStage} {answer : Except Thrown (List MerchantId)}
    (executed : exec before (.query .liveMerchants) choice = some (answer, after)) :
    SweepEffect before after stage (stage.next (.query .liveMerchants) answer) := by
  obtain ⟨rfl, _⟩ := query_effect executed
  have next : stage.next (.query .liveMerchants) answer = .idle := by
    cases stage <;> rfl
  exact next ▸ .reset unmoved_refl

private theorem sweep_clock_effect {stage : SweepStage} {answer : Except Thrown Date}
    (executed : exec before .clock choice = some (answer, after)) :
    SweepEffect before after stage (stage.next .clock answer) := by
  cases executed
  have next : stage.next .clock (.ok choice.now) = .idle := by
    cases stage <;> rfl
  exact next ▸ .reset unmoved_refl

private theorem resolve_effect {merchantId : MerchantId} {drafts : List DispatchableDraft}
    {targets : List DeferredTarget} {target : DeferredTarget} {reason : String}
    {answer : Except Thrown Bool} (listed : target ∈ targets)
    (executed : exec before (.resolveTerminal merchantId target.messageId reason .suppressed) choice =
      some (answer, after)) :
    SweepEffect before after (.deferred merchantId drafts targets)
      (SweepStage.next (.deferred merchantId drafts targets)
        (.resolveTerminal merchantId target.messageId reason .suppressed) answer) := by
  rcases guarded_effect (resolveTerminal_cases _ _ _ _ _) (Option.some.inj executed) with
    ⟨moves, silent, rfl | ⟨error, rfl⟩⟩ | ⟨unmoved, ⟨rfl, _⟩ | ⟨error, rfl⟩⟩
  · exact .resolve merchantId drafts targets target listed (.inl rfl) silent moves
  · exact .resolve merchantId drafts targets target listed (.inr rfl) silent moves
  · exact .stay unmoved
  · exact .reset unmoved

private theorem enqueue_effect {merchantId : MerchantId} {drafts : List DispatchableDraft}
    {targets : List DeferredTarget} {payloads : List CampaignDispatchJobPayload}
    {answer : Except Thrown Unit}
    (sources : ∀ payload ∈ payloads, enqueueable merchantId drafts targets payload)
    (executed : exec before (.addBulk payloads) choice = some (answer, after)) :
    SweepEffect before after (.deferred merchantId drafts targets)
      (SweepStage.next (.deferred merchantId drafts targets) (.addBulk payloads) answer) := by
  simp only [exec] at executed
  split at executed
  · cases executed
    exact .enqueue merchantId drafts targets payloads sources rfl
  · cases executed
    exact .enqueue merchantId drafts targets payloads sources rfl
  · cases executed
    exact .reset unmoved_refl

/-- The inversion of one call of a sweep. -/
theorem sweep_effect {stage : SweepStage} {request : Call} {answer : Except Thrown request.Value}
    (allowed : stage.allows request) (executed : exec before request choice = some (answer, after)) :
    SweepEffect before after stage (stage.next request answer) := by
  cases request with
  | clock => exact sweep_clock_effect executed
  | query read =>
    cases read with
    | liveMerchants => exact live_effect executed
    | findDispatchableDrafts merchantId => exact drafts_effect executed
    | findDeferredTargets merchantId =>
      cases stage with
      | drafted swept drafts =>
        cases allowed
        obtain ⟨rfl, rfl | ⟨error, rfl⟩⟩ := query_effect executed
        · exact .select merchantId drafts unmoved_refl
        · exact .reset unmoved_refl
      | _ => exact False.elim allowed
    | _ => cases stage <;> cases allowed
  | resolveTerminal scope messageId reason status =>
    cases stage with
    | deferred merchantId drafts targets =>
      obtain ⟨rfl, ⟨target, listed, rfl⟩, rfl⟩ := allowed
      exact resolve_effect listed executed
    | _ => exact False.elim allowed
  | addBulk payloads =>
    cases stage with
    | deferred merchantId drafts targets => exact enqueue_effect allowed executed
    | _ => exact False.elim allowed
  | _ => cases stage <;> exact False.elim allowed

end Sweeps

/-- The inversion of a step: what happened to the acting task and the backend. -/
inductive Event (world next : World) : Label → Prop where
  | spawned {label : Label} {task : DispatchTask} (tasks : next.tasks = world.tasks.spawn task)
      (fresh : (∃ payload, task.phase = .pass payload .fresh) ∨ task.phase = .sweep .idle)
      (db : next.backend.db = world.backend.db) (sends : next.backend.sends = world.backend.sends) :
      Event world next label
  | passed {slot : Nat} {choice : Choice} {task after : DispatchTask} {payload : CampaignDispatchJobPayload}
      {stage reached : Stage} {request : Call} (live : world.tasks.task? slot = some task)
      (phase : task.phase = .pass payload stage) (pending : task.pending? = some request)
      (allowed : stage.allows payload request) (afterPhase : after.phase = .pass payload reached)
      (tag : after.tag = task.tag) (effect : PassEffect payload request choice world.backend next.backend stage reached)
      (tasks : next.tasks = world.tasks.put slot after) : Event world next (.act slot choice)
  | swept {slot : Nat} {choice : Choice} {task after : DispatchTask} {stage reached : SweepStage}
      (live : world.tasks.task? slot = some task)
      (phase : task.phase = .sweep stage) (afterPhase : after.phase = .sweep reached)
      (tag : after.tag = task.tag) (effect : SweepEffect world.backend next.backend stage reached)
      (tasks : next.tasks = world.tasks.put slot after) : Event world next (.act slot choice)
  | cleared {label : Label} {slot : Nat} {task : DispatchTask}
      (live : world.tasks.task? slot = some task) (tasks : next.tasks = world.tasks.clear slot)
      (db : next.backend.db = world.backend.db) (sends : next.backend.sends = world.backend.sends) :
      Event world next label
  | around {label : Label} (tasks : next.tasks = world.tasks)
      (sends : next.backend.sends = world.backend.sends)
      (targets : next.backend.db.campaignTargets = world.backend.db.campaignTargets)
      (messages : next.backend.db.messages = world.backend.db.messages ∨
        ∃ message, message.status = .draft ∧
          world.backend.db.messages.insert? message = some next.backend.db.messages) :
      Event world next label

/-- What the call of a disciplined task does. -/
inductive Acted (task after : DispatchTask) (choice : Choice) (before reached : Backend) : Prop where
  | passed {payload : CampaignDispatchJobPayload} {stage next : Stage} {request : Call}
      (phase : task.phase = .pass payload stage) (pending : task.pending? = some request)
      (allowed : stage.allows payload request) (afterPhase : after.phase = .pass payload next)
      (effect : PassEffect payload request choice before reached stage next) :
      Acted task after choice before reached
  | swept {stage next : SweepStage} (phase : task.phase = .sweep stage)
      (afterPhase : after.phase = .sweep next) (effect : SweepEffect before reached stage next) :
      Acted task after choice before reached

theorem acted_of_advance {task after : DispatchTask} {choice : Choice} {before reached : Backend}
    (disciplined : Disciplined task)
    (moved : task.advance discipline exec before choice = some (reached, after)) :
    Acted task after choice before reached ∧ after.tag = task.tag := by
  rcases disciplined with ⟨payload, stage, phase, follows⟩ | ⟨stage, phase, follows⟩
  · obtain ⟨request, answer, pending, allowed, executed, tag, next, _⟩ := follows.advance moved
    rw [phase] at allowed next
    exact ⟨.passed phase pending allowed next (pass_effect allowed executed), tag⟩
  · obtain ⟨request, answer, _, allowed, executed, tag, next, _⟩ := follows.advance moved
    rw [phase] at allowed next
    exact ⟨.swept phase next (sweep_effect allowed executed), tag⟩

theorem event_of_step {context : DrainerContext} {world next : World} {label : Label}
    (every : world.tasks.Every Disciplined)
    (moved : (machine context).step world label = some next) : Event world next label := by
  cases step_cases moved with
  | delivered found waiting same =>
    subst same
    exact .spawned rfl (.inl ⟨_, rfl⟩) rfl rfl
  | ticked same =>
    subst same
    exact .spawned rfl (.inr rfl) rfl rfl
  | acted live advanced tasks =>
    obtain ⟨acted, tag⟩ := acted_of_advance (every.get live) advanced
    cases acted with
    | passed phase pending allowed afterPhase effect =>
      exact .passed live phase pending allowed afterPhase tag effect tasks
    | swept phase afterPhase effect => exact .swept live phase afterPhase tag effect tasks
  | settled live tag ended same | swept live tag same | crashed live same =>
    subst same
    exact .cleared live rfl rfl rfl
  | stalled found active same | written same =>
    subst same
    exact .around rfl rfl rfl (.inl rfl)
  | drafted draft inserted same =>
    subst same
    exact .around rfl rfl rfl (.inr ⟨_, draft, inserted⟩)

end WinBack.Dispatch
