import WinBack.Dispatch.Worker

/-! The progress of a pass towards its send: the context it has loaded, the instants
it has read from the clock, and what the frequency gate has answered. The worker
reaches its provider call through both frequency reads and the compare-and-set. -/

namespace WinBack.Dispatch

open Library Script

inductive Progress where
  | entering                                                           -- no context yet
  | loaded (target : DispatchContext)
  | timed (target : DispatchContext) (gateNow : Date)                  -- the gate clock is read
  | cooled (target : DispatchContext) (gateNow : Date)                 -- no send in the cooldown
  | cleared (target : DispatchContext) (gateNow : Date)                -- below the daily floor
  | starting (target : DispatchContext) (gateNow now : Date)           -- the send clock is read
  | owner (target : DispatchContext) (gateNow now : Date)              -- the compare-and-set is won
  | acked (now : Date)                                                 -- the provider has acknowledged
  | closed                                                             -- no send will follow
  deriving DecidableEq, Repr

/-- The start of the cooldown window. -/
def cooldownSince (target : DispatchContext) (gateNow : Date) : Date :=
  gateNow - target.defaultCooldownHours * msPerHour

/-- The reads that the frequency gate does not make. -/
def Query.unrelated : Query → Bool
  | .countSentSince _ _ _ | .loadDispatchContext _ => false
  | _ => true

def Progress.allows (payload : CampaignDispatchJobPayload) : Progress → Call → Prop
  | .entering, .claimTarget _ _ => True
  | .entering, .query read => read = .loadDispatchContext payload.messageId
  | .loaded _, .clock | .cleared _ _, .clock => True
  | .timed target gateNow, .query read =>
    read = .countSentSince payload.merchantId target.customerId (cooldownSince target gateNow) ∨ read.unrelated
  | .cooled target gateNow, .query read =>
    read = .countSentSince payload.merchantId target.customerId (utcMidnight gateNow)
  | .cleared _ _, .query read | .acked _, .query read | .closed, .query read => read.unrelated
  | .starting _ _ now, .startSending scope messageId startedAt =>
    scope = payload.merchantId ∧ messageId = payload.messageId ∧ startedAt = now
  | .owner _ _ _, .send args => args.correlationId = payload.messageId
  | .acked now, .markSentWithQuota scope args =>
    scope = payload.merchantId ∧ args.messageId = payload.messageId ∧ args.now = now
  | .timed _ _, .resolveTerminal _ _ _ _ | .closed, .resolveTerminal _ _ _ _ | .cleared _ _, .deferTarget _ _
  | .closed, .revertToPending _ _ | .closed, .appendAudit _ => True
  | _, _ => False

def Progress.next : Progress → (request : Call) → Except Thrown request.Value → Progress
  | .entering, .claimTarget _ _, .ok _ => .entering
  | .entering, .query (.loadDispatchContext _), .ok (some target) => .loaded target
  | .loaded target, .clock, .ok now => .timed target now
  | .timed target gateNow, .query (.countSentSince _ _ _), .ok count =>
    if count = 0 then .cooled target gateNow else .closed
  | .timed target gateNow, .query _, .ok _ => .timed target gateNow
  | .cooled target gateNow, .query (.countSentSince _ _ _), .ok count =>
    if target.maxDailySendsPerCustomer ≤ count then .closed else .cleared target gateNow
  | .cleared target gateNow, .query _, .ok _ => .cleared target gateNow
  | .cleared target gateNow, .clock, .ok now => .starting target gateNow now
  | .starting target gateNow now, .startSending _ _ _, .ok true => .owner target gateNow now
  | .owner _ _ now, .send _, .ok _ => .acked now
  | .acked now, _, _ => .acked now
  | _, _, _ => .closed

/-- The pass has been told that its customer is past the cooldown, and its provider
call is still to come. -/
def Progress.armed : Progress → Option DispatchContext
  | .cooled target _ | .cleared target _ | .starting target _ _ | .owner target _ _ => some target
  | _ => none

/-- A call arms a pass only by a cooldown read that hits nothing. -/
theorem Progress.armed_next {payload : CampaignDispatchJobPayload} {phase : Progress} {request : Call}
    {answer : Except Thrown request.Value} {target : DispatchContext} (allowed : phase.allows payload request)
    (armed : (phase.next request answer).armed = some target) :
    phase.armed = some target ∨ ∃ gateNow since, phase = .timed target gateNow ∧
      request = .query (.countSentSince payload.merchantId target.customerId since) := by
  unfold Progress.next at armed
  split at armed
  case h_4 =>
    rename_i reached gateNow merchantId customerId since count
    split at armed
    · cases armed
      rcases allowed with same | unrelated
      · cases same
        exact .inr ⟨gateNow, _, rfl, rfl⟩
      · cases unrelated
    · cases armed
  case h_6 =>
    split at armed
    · cases armed
    · exact .inl armed
  all_goals first
    | exact .inl armed
    | cases armed

/-- The provider call disarms. -/
theorem Progress.disarmed {target : DispatchContext} {gateNow now : Date} (request : Call)
    (answer : Except Thrown request.Value) : ((Progress.owner target gateNow now).next request answer).armed = none := by
  cases request <;> cases answer <;> rfl

/-- The discipline of one pass over its own payload. -/
def progress (payload : CampaignDispatchJobPayload) : Discipline Call Call.Value Thrown Progress where
  allowed := Progress.allows payload
  next := Progress.next

section Obeys

variable (payload : CampaignDispatchJobPayload)

/-- A gate chain that passes has cleared both frequency reads; a terminal gate leaves
from the gate clock or from a read that hit, a transient one after both reads. -/
theorem runGateChain_progress (context : DrainerContext) (target : DispatchContext) (gateNow : Date) :
    (runGateChain context payload.merchantId target gateNow).Obeys (progress payload) (.timed target gateNow)
      fun reached outcome => match outcome with
        | .ok .passed | .ok (.deferred _) => reached = .cleared target gateNow
        | .ok (.suppressed _) => reached = .timed target gateNow ∨ reached = .closed
        | .error _ => True := by
  unfold runGateChain
  refine obeys_perform_bind.mpr ⟨.inr rfl, fun _ => trivial, fun suppressed => ?_⟩
  refine obeys_ite.mpr ⟨fun _ => .inl rfl, fun _ => ?_⟩
  refine obeys_ite.mpr ⟨fun _ => .inl rfl, fun _ => ?_⟩
  refine obeys_perform_bind.mpr ⟨.inr rfl, fun _ => trivial, fun ordered => ?_⟩
  refine obeys_ite.mpr ⟨fun _ => .inl rfl, fun _ => ?_⟩
  refine obeys_perform_bind.mpr ⟨.inl rfl, fun _ => trivial, fun recent => ?_⟩
  refine obeys_ite.mpr ⟨fun some => .inr ?_, fun none => ?_⟩
  · simp [progress, Progress.next, Nat.pos_iff_ne_zero.mp some]
  have cooled : (progress payload).next (.timed target gateNow)
      (.query (.countSentSince payload.merchantId target.customerId
        (gateNow - target.defaultCooldownHours * msPerHour))) (.ok recent) = .cooled target gateNow := by
    simp [progress, Progress.next, Nat.eq_zero_of_not_pos none]
  change Obeys (progress payload) ((progress payload).next (.timed target gateNow) _ (.ok recent)) _ _
  rw [cooled]
  refine obeys_perform_bind.mpr ⟨rfl, fun _ => trivial, fun today => ?_⟩
  refine obeys_ite.mpr ⟨fun reached => .inr ?_, fun below => ?_⟩
  · simp [progress, Progress.next, reached]
  have cleared : (progress payload).next (.cooled target gateNow)
      (.query (.countSentSince payload.merchantId target.customerId (utcMidnight gateNow))) (.ok today) =
      .cleared target gateNow := by
    simp [progress, Progress.next, below]
  rw [cleared]
  refine obeys_ite.mpr ⟨fun _ => rfl, fun _ => ?_⟩
  refine obeys_perform_bind.mpr ⟨rfl, fun _ => trivial, fun daySentCount => ?_⟩
  refine obeys_perform_bind.mpr ⟨rfl, fun _ => trivial, fun monthSentCount => ?_⟩
  exact obeys_ite.mpr ⟨fun _ => rfl, fun _ => rfl⟩

theorem handleSesError_progress (shop : String) (thrown : Thrown) :
    (handleSesError payload shop thrown).Obeys (progress payload) .closed fun _ _ => True := by
  unfold handleSesError
  split
  · refine obeys_ite.mpr ⟨fun _ => ?_, fun _ => obeys_ite.mpr ⟨fun _ => ?_, fun _ => ?_⟩⟩
    · exact obeys_perform_bind.mpr ⟨trivial, fun _ => trivial, fun _ => trivial⟩
    · refine obeys_perform_bind.mpr ⟨trivial, fun _ => trivial, fun _ => ⟨trivial, ?_⟩⟩
      rintro (error | answer)
      · trivial
      · trivial
    · exact obeys_perform_bind.mpr ⟨trivial, fun _ => trivial, fun _ => trivial⟩
  · exact obeys_perform_bind.mpr ⟨trivial, fun _ => trivial, fun _ => trivial⟩

theorem completeWithRetries_progress (args : MarkSentArgs) (same : args.messageId = payload.messageId)
    (attempts : Nat) :
    (completeWithRetries payload.merchantId args attempts).Obeys (progress payload) (.acked args.now)
      fun _ _ => True := by
  induction attempts with
  | zero => trivial
  | succ attempts ih =>
    unfold completeWithRetries markSentWithQuota
    rw [obeys_tryCatch, obeys_bind]
    refine obeys_perform_bind.mpr ⟨⟨rfl, same, rfl⟩, fun _ => ih, fun committed => ?_⟩
    refine obeys_ite.mpr ⟨fun _ => trivial, fun _ => ?_⟩
    exact obeys_perform_bind.mpr ⟨rfl, fun _ => ih, fun current => trivial⟩

theorem sendAndComplete_progress (context : DrainerContext) (target : DispatchContext) (recipient : String)
    (gateNow now : Date) :
    (sendAndComplete context payload target recipient now).Obeys (progress payload) (.owner target gateNow now)
      fun _ _ => True := by
  unfold sendAndComplete
  rw [obeys_bind, obeys_tryCatch]
  refine obeys_perform_bind.mpr ⟨rfl, fun thrown => ?_, fun accepted => ?_⟩
  · refine (obeys_bind ..).mpr ((handleSesError_progress payload target.shop thrown).mono ?_)
    rintro reached (error | answer) _
    · trivial
    · trivial
  · refine (obeys_bind ..).mpr ((completeWithRetries_progress payload _ rfl completionTxRetries).mono ?_)
    rintro reached (error | answer) _
    · trivial
    · trivial

/-- A pass reaches its provider call through the frequency gate. -/
theorem processCampaignDispatchJob_progress (context : DrainerContext) :
    (processCampaignDispatchJob context payload).Obeys (progress payload) .entering fun _ _ => True := by
  unfold processCampaignDispatchJob
  refine obeys_perform_bind.mpr ⟨trivial, fun _ => trivial, fun _ => ?_⟩
  refine obeys_perform_bind.mpr ⟨rfl, fun _ => trivial, fun found => ?_⟩
  cases found with
  | none => trivial
  | some target =>
    refine obeys_ite.mpr ⟨fun _ => trivial, fun _ => ?_⟩
    refine obeys_perform_bind.mpr ⟨trivial, fun _ => trivial, fun gateNow => ?_⟩
    refine (obeys_bind ..).mpr ((runGateChain_progress payload context target gateNow).mono ?_)
    rintro reached (error | outcome) ended
    · trivial
    · cases outcome with
      | suppressed gate =>
        rcases ended with rfl | rfl
        · exact obeys_perform_bind.mpr ⟨trivial, fun _ => trivial, fun _ => trivial⟩
        · exact obeys_perform_bind.mpr ⟨trivial, fun _ => trivial, fun _ => trivial⟩
      | deferred gate =>
        subst ended
        exact obeys_perform_bind.mpr ⟨trivial, fun _ => trivial, fun _ => trivial⟩
      | passed =>
        subst ended
        refine obeys_ite.mpr ⟨fun _ => ?_, fun _ => ?_⟩
        · exact obeys_perform_bind.mpr ⟨trivial, fun _ => trivial, fun _ => trivial⟩
        · refine obeys_perform_bind.mpr ⟨trivial, fun _ => trivial, fun now => ?_⟩
          refine (obeys_bind ..).mpr (obeys_perform_bind.mpr ⟨⟨rfl, rfl, rfl⟩, fun _ => trivial, fun started => ?_⟩)
          cases started with
          | true => exact sendAndComplete_progress payload context target _ gateNow now
          | false =>
            refine obeys_perform_bind.mpr ⟨rfl, fun _ => trivial, fun current => ?_⟩
            cases current with
            | none => trivial
            | some status => trivial

end Obeys

end WinBack.Dispatch
