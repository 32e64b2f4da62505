import WinBack.Campaign.Ledger
import WinBack.Dispatch.Frequency

/-! The daily cap. The gate reads the counter, and the completion increments it after the provider
call: passes that are past the read overshoot the cap, and so do those that read another day's counter. -/

namespace WinBack.Dispatch.Quota

open Library Script CampaignRepository Ledger

/-- The way of a pass to its increment. -/
inductive Admission where
  | entering
  | loaded (limit : Int)
  | timed (limit : Int) (gateNow : Date)      -- the gate clock is read
  | admitted (limit : Int) (gateNow : Date)   -- the counter of the gate's day was below the limit
  | starting (limit : Int) (now : Date)       -- the send clock is read
  | owner (limit : Int) (now : Date)          -- the compare-and-set is won
  | acked (limit : Int) (now : Date)          -- the provider has acknowledged
  | closed                                    -- the cap was reached
  deriving DecidableEq, Repr

namespace Admission

def allows (payload : CampaignDispatchJobPayload) (phase : Admission) : Call → Prop
  | .query (.loadDispatchContext messageId) => messageId = payload.messageId
  | .query (.daySentCount merchantId now) => merchantId = payload.merchantId ∧ ∃ limit, phase = .timed limit now
  | .startSending scope messageId _ =>
    scope = payload.merchantId ∧ messageId = payload.messageId ∧ ∃ limit now, phase = .starting limit now
  | .markSentWithQuota scope args =>
    scope = payload.merchantId ∧ args.messageId = payload.messageId ∧ ∃ limit, phase = .acked limit args.now
  | _ => True

def next : Admission → (request : Call) → Except Thrown request.Value → Admission
  | .entering, .query (.loadDispatchContext _), .ok (some target) => .loaded target.dailySendCap
  | .loaded limit, .clock, .ok now => .timed limit now
  | .timed limit gateNow, .query (.daySentCount _ _), .ok count =>
    if limit ≤ count then .closed else .admitted limit gateNow
  | .admitted limit _, .clock, .ok now => .starting limit now
  | .starting limit now, .startSending _ _ _, .ok true => .owner limit now
  | .owner limit now, .send _, .ok _ => .acked limit now
  | phase, _, _ => phase

/-- The pass may still increment the counter of a day under a cap. -/
def reaches (cap : Int) (date : Date) : Admission → Bool
  | .timed limit gateNow => limit == cap && decide (utcMidnight gateNow < date)
  | .admitted limit gateNow => limit == cap && decide (utcMidnight gateNow ≤ date)
  | .starting limit now | .owner limit now | .acked limit now => limit == cap && utcMidnight now == date
  | .entering | .loaded _ | .closed => false

end Admission

/-- The discipline of one pass over its own payload. -/
def admission (payload : CampaignDispatchJobPayload) : Discipline Call Call.Value Thrown Admission where
  allowed := Admission.allows payload
  next := Admission.next

section Obeys

variable (payload : CampaignDispatchJobPayload)

/-- A gate chain that passes has read the counter of its day below the limit. -/
theorem runGateChain_admission (context : DrainerContext) (target : DispatchContext) (gateNow : Date) :
    (runGateChain context payload.merchantId target gateNow).Obeys (admission payload)
      (.timed target.dailySendCap gateNow) fun reached outcome =>
        outcome = .ok .passed → reached = .admitted target.dailySendCap gateNow := by
  unfold runGateChain
  refine obeys_perform_bind.mpr ⟨trivial, nofun, fun suppressed => ?_⟩
  refine obeys_ite.mpr ⟨fun _ => nofun, fun _ => ?_⟩
  refine obeys_ite.mpr ⟨fun _ => nofun, fun _ => ?_⟩
  refine obeys_perform_bind.mpr ⟨trivial, nofun, fun ordered => ?_⟩
  refine obeys_ite.mpr ⟨fun _ => nofun, fun _ => ?_⟩
  refine obeys_perform_bind.mpr ⟨trivial, nofun, fun recent => ?_⟩
  refine obeys_ite.mpr ⟨fun _ => nofun, fun _ => ?_⟩
  refine obeys_perform_bind.mpr ⟨trivial, nofun, fun today => ?_⟩
  refine obeys_ite.mpr ⟨fun _ => nofun, fun _ => ?_⟩
  refine obeys_ite.mpr ⟨fun _ => nofun, fun _ => ?_⟩
  refine obeys_perform_bind.mpr ⟨⟨rfl, _, rfl⟩, nofun, fun daySentCount => ?_⟩
  refine obeys_perform_bind.mpr ⟨trivial, nofun, fun monthSentCount => ?_⟩
  refine obeys_ite.mpr ⟨fun _ => nofun, fun below _ => ?_⟩
  have room : ¬target.dailySendCap ≤ daySentCount := fun reached => below (.inl reached)
  simp [admission, Admission.next, room]

theorem handleSesError_admission (shop : String) (thrown : Thrown) (phase : Admission) :
    (handleSesError payload shop thrown).Obeys (admission payload) phase fun _ _ => True := by
  unfold handleSesError
  split
  · refine obeys_ite.mpr ⟨fun _ => ?_, fun _ => obeys_ite.mpr ⟨fun _ => ?_, fun _ => ?_⟩⟩
    · exact obeys_perform_bind.mpr ⟨trivial, fun _ => trivial, fun _ => trivial⟩
    · exact obeys_perform_bind.mpr ⟨trivial, fun _ => trivial, fun _ => ⟨trivial, fun _ => trivial⟩⟩
    · exact obeys_perform_bind.mpr ⟨trivial, fun _ => trivial, fun _ => trivial⟩
  · exact obeys_perform_bind.mpr ⟨trivial, fun _ => trivial, fun _ => trivial⟩

theorem completeWithRetries_admission {limit : Int} (args : MarkSentArgs) (same : args.messageId = payload.messageId)
    (attempts : Nat) :
    (completeWithRetries payload.merchantId args attempts).Obeys (admission payload) (.acked limit args.now)
      fun _ _ => True := by
  induction attempts with
  | zero => trivial
  | succ attempts ih =>
    unfold completeWithRetries markSentWithQuota
    rw [obeys_tryCatch, obeys_bind]
    refine obeys_perform_bind.mpr ⟨⟨rfl, same, limit, rfl⟩, fun _ => ih, fun committed => ?_⟩
    refine obeys_ite.mpr ⟨fun _ => trivial, fun _ => ?_⟩
    exact obeys_perform_bind.mpr ⟨trivial, fun _ => ih, fun current => trivial⟩

theorem sendAndComplete_admission {limit : Int} (context : DrainerContext) (target : DispatchContext)
    (recipient : String) (now : Date) :
    (sendAndComplete context payload target recipient now).Obeys (admission payload) (.owner limit now)
      fun _ _ => True := by
  unfold sendAndComplete
  rw [obeys_bind, obeys_tryCatch]
  refine obeys_perform_bind.mpr ⟨trivial, fun thrown => ?_, fun accepted => ?_⟩
  · refine (obeys_bind ..).mpr ((handleSesError_admission payload target.shop thrown _).mono ?_)
    rintro reached (error | answer) _
    · trivial
    · trivial
  · refine (obeys_bind ..).mpr ((completeWithRetries_admission payload _ rfl completionTxRetries).mono ?_)
    rintro reached (error | answer) _
    · trivial
    · trivial

/-- A pass reaches its increment through the counter of its gate's day. -/
theorem processCampaignDispatchJob_admission (context : DrainerContext) :
    (processCampaignDispatchJob context payload).Obeys (admission payload) .entering fun _ _ => True := by
  unfold processCampaignDispatchJob
  refine obeys_perform_bind.mpr ⟨trivial, fun _ => trivial, fun _ => ?_⟩
  refine obeys_perform_bind.mpr ⟨rfl, fun _ => trivial, fun found => ?_⟩
  cases found with
  | none => trivial
  | some target =>
    refine obeys_ite.mpr ⟨fun _ => trivial, fun _ => ?_⟩
    refine obeys_perform_bind.mpr ⟨trivial, fun _ => trivial, fun gateNow => ?_⟩
    refine (obeys_bind ..).mpr ((runGateChain_admission payload context target gateNow).mono ?_)
    rintro reached (error | outcome) ended
    · trivial
    · cases outcome with
      | suppressed gate => exact obeys_perform_bind.mpr ⟨trivial, fun _ => trivial, fun _ => trivial⟩
      | deferred gate => exact obeys_perform_bind.mpr ⟨trivial, fun _ => trivial, fun _ => trivial⟩
      | passed =>
        cases ended rfl
        refine obeys_ite.mpr ⟨fun _ => ?_, fun _ => ?_⟩
        · exact obeys_perform_bind.mpr ⟨trivial, fun _ => trivial, fun _ => trivial⟩
        · refine obeys_perform_bind.mpr ⟨trivial, fun _ => trivial, fun now => ?_⟩
          refine (obeys_bind ..).mpr (obeys_perform_bind.mpr ⟨⟨rfl, rfl, _, _, rfl⟩, fun _ => trivial, fun started => ?_⟩)
          cases started with
          | true => exact sendAndComplete_admission payload context target _ now
          | false =>
            refine obeys_perform_bind.mpr ⟨trivial, fun _ => trivial, fun current => ?_⟩
            cases current with
            | none => trivial
            | some status => trivial

end Obeys

abbrev AdmissionTask := Task CampaignDispatchJobPayload Call Call.Value Thrown Admission

structure World where
  backend : Backend
  tasks : Pool AdmissionTask := []
  clock : Date

inductive Label where
  | start (payload : CampaignDispatchJobPayload)                                 -- a worker takes a job
  | act (slot : Nat) (choice : Choice)                                           -- a pass makes its next call
  | crash (slot : Nat)                                                           -- the process of a pass dies
  | resolve (scope : MerchantId) (messageId : MessageId) (reason : String)       -- the sweep expires a target
  | outside (db : Db)                                                            -- other components write their tables

namespace World

def setDb (db : Db) (world : World) : World := { world with backend := { world.backend with db } }

/-- Time does not run backwards. -/
def act (slot : Nat) (choice : Choice) (world : World) : Option World :=
  match world.tasks.task? slot with
  | none => none
  | some task =>
    if world.clock ≤ choice.now then
      (task.advance (admission task.tag) exec world.backend choice).map fun (backend, next) => {
        backend
        tasks := world.tasks.put slot next
        clock := choice.now }
    else none

end World

/-- The passes of the dispatch worker over a shared backend and one clock. -/
def machine (context : DrainerContext) : Machine World Label where
  step world
    | .start payload => some { world with
        tasks := world.tasks.spawn ⟨payload, .entering, processCampaignDispatchJob context payload⟩ }
    | .act slot choice => world.act slot choice
    | .crash slot => (world.tasks.task? slot).map fun _ => { world with tasks := world.tasks.clear slot }
    | .resolve scope messageId reason =>
      some (world.setDb (CampaignRepository.resolveTerminal scope messageId reason .suppressed world.backend.db).2)
    | .outside db => some (world.setDb { db with
        campaignTargets := world.backend.db.campaignTargets
        messageQuotaBuckets := world.backend.db.messageQuotaBuckets })

section Statements

variable (merchantId : MerchantId)

/-- A pass of the merchant that has not ended. -/
def running (task : AdmissionTask) : Bool := task.tag.merchantId == merchantId && task.pending?.isSome

/-- The settings of the merchant, if it has any, have the cap. -/
def CapFixed (cap : Int) (db : Db) : Prop :=
  ∀ settings ∈ db.merchantSettings.rows, settings.merchantId = merchantId → settings.dailySendCap = cap

instance (cap : Int) (db : Db) : Decidable (CapFixed merchantId cap db) := by unfold CapFixed; infer_instance

/-- After the step the cap is what it was, and no more than `width` passes of the merchant are in progress. -/
def Within (context : DrainerContext) (cap : Int) (width : Nat) (world : World) (label : Label) : Prop :=
  ∀ next ∈ (machine context).step world label,
    CapFixed merchantId cap next.backend.db ∧ next.tasks.tally (running merchantId) ≤ width

instance (context : DrainerContext) (cap : Int) (width : Nat) (world : World) (label : Label) :
    Decidable (Within merchantId context cap width world label) := by unfold Within; infer_instance

/-- No pass has started, no day is over the bound, and no day to come has been counted. -/
structure Opening (cap : Int) (width : Nat) (world : World) : Prop where
  tasks : world.tasks = []
  fixed : CapFixed merchantId cap world.backend.db
  bounded : ∀ row ∈ world.backend.db.messageQuotaBuckets.rows, row.merchantId = merchantId →
    (row.sentCount : Int) ≤ cap + width - 1
  future : ∀ row ∈ world.backend.db.messageQuotaBuckets.rows, row.merchantId = merchantId →
    utcMidnight world.clock < row.date → row.sentCount = 0

end Statements

variable {context : DrainerContext} {merchantId scope : MerchantId} {cap : Int} {width slot : Nat} {world next : World}
  {label : Label} {db later : Db} {date now : Date} {task : AdmissionTask} {messageId : MessageId}

section Calls

variable {before after : Backend} {request : Call} {choice : Choice} {answer : Except Thrown request.Value}

/-- What no step takes back, and who a target belongs to. -/
structure Stays (before after : Db) : Prop where
  sent : ∀ messageId, targetStatus before messageId = some .sent → targetStatus after messageId = some .sent
  links : ∀ link ∈ targetLinks before, link ∈ targetLinks after

theorem sent_moves {statuses : List CampaignTargetStatus} {status : CampaignTargetStatus}
    (moves : Moves scope messageId statuses status db later) (unsent : .sent ∉ statuses) {other : MessageId}
    (sent : targetStatus db other = some .sent) : targetStatus later other = some .sent := by
  rw [moves.elsewhere, sent]
  rintro rfl
  obtain ⟨old, expected, held⟩ := moves.before
  rw [sent] at held
  cases held
  exact unsent expected

theorem sent_guarded {write : Bool × Db} {statuses : List CampaignTargetStatus} {status : CampaignTargetStatus}
    (guarded : Guarded scope messageId statuses status db write) (unsent : .sent ∉ statuses) {other : MessageId}
    (sent : targetStatus db other = some .sent) : targetStatus write.2 other = some .sent := by
  cases guarded with
  | hit reported moves => exact sent_moves moves unsent sent
  | missed same missed => rw [same, sent]

/-- A target that is recorded as sent stays so. -/
theorem exec_sent (executed : exec before request choice = some (answer, after)) {other : MessageId}
    (sent : targetStatus before.db other = some .sent) : targetStatus after.db other = some .sent := by
  have written {Answer : Type} {write : Except DbError Answer × Db} {result : Except Thrown Answer}
      (held : targetStatus write.2 other = some .sent) (applied : choice.fate.apply before write = (result, after)) :
      targetStatus after.db other = some .sent := by
    rcases fate_cases applied with same | same <;> rw [same]
    · exact held
    · exact sent
  cases request with
  | query read =>
    obtain ⟨rfl, _⟩ := query_effect executed
    exact sent
  | clock =>
    cases executed
    exact sent
  | claimTarget scope args =>
    refine written ?_ (Option.some.inj executed)
    rcases claimTarget_cases scope args choice.now before.db with ⟨targets, _, result, _, absent, statuses, _⟩ | ⟨same, _⟩
    · rw [result, statuses, Function.update_of_ne, sent]
      rintro rfl
      simp [absent] at sent
    · rw [same, sent]
  | resolveTerminal scope messageId reason status =>
    exact written (sent_guarded (resolveTerminal_cases ..) (by decide) sent) (Option.some.inj executed)
  | startSending scope messageId now =>
    exact written (sent_guarded (startSending_cases ..) (by decide) sent) (Option.some.inj executed)
  | revertToPending scope messageId =>
    exact written (sent_guarded (revertToPending_cases ..) (by decide) sent) (Option.some.inj executed)
  | deferTarget scope messageId =>
    exact written (sent_guarded (deferTarget_cases ..) (by decide) sent) (Option.some.inj executed)
  | markSentWithQuota scope args =>
    refine written ?_ (Option.some.inj executed)
    rcases markSentWithQuota_cases scope args before.db with ⟨_, moves, _⟩ | ⟨missed, _⟩
    · exact sent_moves moves (by decide) sent
    · rw [missed, sent]
  | appendAudit row =>
    rcases fate_cases (Option.some.inj executed) with same | same <;> rw [same]
    · exact sent
    · exact sent
  | send args =>
    simp only [exec] at executed
    split at executed
    · cases executed
      exact sent
    · cases executed
  | addBulk payloads =>
    simp only [exec] at executed
    split at executed <;> cases executed <;> exact sent

theorem exec_stays (executed : exec before request choice = some (answer, after)) :
    Stays before.db after.db := by
  refine ⟨fun messageId => exec_sent executed, fun link member => ?_⟩
  rcases exec_links executed with same | ⟨scope, args, _, claimed⟩
  · exact same.targets ▸ member
  · exact (claimed.targets link).mpr (.inl member)

/-- A completion that commits adds one to the counter of its day. -/
theorem bucketCount_markSentWithQuota {args : MarkSentArgs}
    (done : (CampaignRepository.markSentWithQuota scope args db).1 = .ok true) (owner : args.merchantId = scope)
    (merchantId : MerchantId) (date : Date) :
    bucketCount (CampaignRepository.markSentWithQuota scope args db).2.messageQuotaBuckets merchantId date =
      bucketCount db.messageQuotaBuckets merchantId date +
        if merchantId = scope ∧ date = utcMidnight args.now then 1 else 0 := by
  unfold CampaignRepository.markSentWithQuota at done ⊢
  dsimp only at done ⊢
  by_cases missed : db.campaignTargets.count (targetFilter scope args.messageId [.sending]) = 0
  · rw [if_pos missed] at done
    cases done
  by_cases undrafted : db.messages.count (draftFilter scope args.messageId) = 0
  · rw [if_neg missed, if_pos undrafted] at done
    cases done
  have agreed : ¬(args.merchantId != scope) = true := by simp [owner]
  rw [if_neg missed, if_neg undrafted, if_neg agreed]
  dsimp only
  rw [owner, bucketCount_increment ensureBucket_present, bucketCount_ensureBucket]

/-- Only a completion that moves its target to `sent` counts, and it counts once, on the day of its clock. -/
theorem exec_count (executed : exec before request choice = some (answer, after)) :
    after.db.messageQuotaBuckets = before.db.messageQuotaBuckets ∨
      ∃ scope args, request = .markSentWithQuota scope args ∧
        Moves scope args.messageId [.sending] .sent before.db after.db ∧
        ∀ merchantId date, bucketCount after.db.messageQuotaBuckets merchantId date =
          bucketCount before.db.messageQuotaBuckets merchantId date +
            if merchantId = scope ∧ date = utcMidnight args.now then 1 else 0 := by
  have written {Answer : Type} {write : Except DbError Answer × Db} {result : Except Thrown Answer}
      (same : write.2.messageQuotaBuckets = before.db.messageQuotaBuckets)
      (applied : choice.fate.apply before write = (result, after)) :
      after.db.messageQuotaBuckets = before.db.messageQuotaBuckets := by
    rcases fate_cases applied with held | held <;> rw [held]
    exact same
  cases request with
  | query read =>
    obtain ⟨rfl, _⟩ := query_effect executed
    exact .inl rfl
  | clock =>
    cases executed
    exact .inl rfl
  | claimTarget scope args =>
    refine .inl (written ?_ (Option.some.inj executed))
    rcases claimTarget_cases scope args choice.now before.db with ⟨targets, _, result, _⟩ | ⟨same, _⟩
    · rw [result]
    · rw [same]
  | resolveTerminal scope messageId reason status =>
    refine .inl (written ?_ (Option.some.inj executed))
    unfold answered CampaignRepository.resolveTerminal
    dsimp only
    split <;> rfl
  | startSending scope messageId now => exact .inl (written rfl (Option.some.inj executed))
  | revertToPending scope messageId => exact .inl (written rfl (Option.some.inj executed))
  | deferTarget scope messageId => exact .inl (written rfl (Option.some.inj executed))
  | markSentWithQuota scope args =>
    rcases fate_cases (Option.some.inj executed) with same | same
    · rcases markSentWithQuota_cases scope args before.db with ⟨done, moves, owner, _⟩ | ⟨missed, _⟩
      · refine .inr ⟨scope, args, rfl, same ▸ moves, fun merchantId date => ?_⟩
        rw [same]
        exact bucketCount_markSentWithQuota done owner merchantId date
      · exact .inl (by rw [same, missed])
    · exact .inl (by rw [same])
  | appendAudit row => exact .inl (written rfl (Option.some.inj executed))
  | send args =>
    simp only [exec] at executed
    split at executed
    · cases executed
      exact .inl rfl
    · cases executed
  | addBulk payloads =>
    simp only [exec] at executed
    split at executed <;> cases executed <;> exact .inl rfl

end Calls

section Passes

variable {clock : Date} {payload : CampaignDispatchJobPayload} {phase : Admission} {before after : Backend} {request : Call}
  {choice : Choice} {answer : Except Thrown request.Value}

/-- The limit of a target is the cap, if the target is the merchant's. -/
def Limited (merchantId : MerchantId) (cap : Int) (db : Db) (messageId : MessageId) (limit : Int) : Prop :=
  ∃ link ∈ targetLinks db, link.1 = messageId ∧ (link.2.2 = merchantId → limit = cap)

theorem Limited.mono {limit : Int} (limited : Limited merchantId cap db messageId limit) (stays : Stays db later) :
    Limited merchantId cap later messageId limit := by
  obtain ⟨link, member, named, owned⟩ := limited
  exact ⟨link, stays.links link member, named, owned⟩

/-- What a pass knows, by its way to the increment. -/
def Knows (merchantId : MerchantId) (cap : Int) (db : Db) (clock : Date) (payload : CampaignDispatchJobPayload) :
    Admission → Prop
  | .entering | .closed => True
  | .loaded limit => Limited merchantId cap db payload.messageId limit
  | .timed limit now | .admitted limit now | .starting limit now =>
    Limited merchantId cap db payload.messageId limit ∧ now ≤ clock
  | .owner limit now | .acked limit now => (payload.merchantId = merchantId → limit = cap) ∧ now ≤ clock

theorem Knows.mono (knows : Knows merchantId cap db clock payload phase) (stays : Stays db later)
    (passed : clock ≤ now) : Knows merchantId cap later now payload phase := by
  cases phase with
  | entering | closed => trivial
  | loaded limit => exact Limited.mono knows stays
  | timed limit gateNow | admitted limit gateNow | starting limit gateNow =>
    exact ⟨knows.1.mono stays, knows.2.trans passed⟩
  | owner limit gateNow | acked limit gateNow => exact ⟨knows.1, knows.2.trans passed⟩

theorem limited_of_load {target : DispatchContext} (fixed : CapFixed merchantId cap db)
    (found : loadDispatchContext db messageId = some target) :
    Limited merchantId cap db messageId target.dailySendCap := by
  unfold loadDispatchContext at found
  obtain ⟨row, here, rest⟩ := Option.bind_eq_some_iff.mp found
  obtain ⟨settings, ruled, rest⟩ := Option.bind_eq_some_iff.mp rest
  obtain ⟨merchant, _, rest⟩ := Option.bind_eq_some_iff.mp rest
  obtain ⟨customer, _, rest⟩ := Option.bind_eq_some_iff.mp rest
  obtain ⟨message, _, rest⟩ := Option.bind_eq_some_iff.mp rest
  obtain ⟨generation, _, rest⟩ := Option.bind_eq_some_iff.mp rest
  cases rest
  obtain ⟨stored, named⟩ := Table.find?_mem here
  obtain ⟨present, owned⟩ := Table.find?_mem ruled
  refine ⟨_, mem_targetLinks.mpr ⟨row, stored, rfl⟩, beq_iff_eq.mp named, fun own => ?_⟩
  exact fixed settings present ((beq_iff_eq.mp owned).trans own)

theorem cap_of_moves {limit : Int} {statuses : List CampaignTargetStatus} {status : CampaignTargetStatus}
    (limited : Limited merchantId cap db messageId limit) (moves : Moves merchantId messageId statuses status db later) :
    limit = cap := by
  obtain ⟨link, member, named, owned⟩ := limited
  obtain ⟨row, stored, same⟩ := mem_targetLinks.mp member
  obtain ⟨target, present, matched, _, owner⟩ := moves.held
  subst same
  rw [target_unique stored present (named.trans matched.symm)] at owned
  exact owned owner

/-- A won compare-and-set is of the merchant's own target. -/
theorem cap_of_started {limit : Int} (limited : Limited merchantId cap before.db messageId limit)
    (executed : exec before (.startSending merchantId messageId now) choice = some (.ok true, after)) : limit = cap := by
  rcases guarded_effect (startSending_cases merchantId messageId now before.db) (Option.some.inj executed) with
    ⟨moves, _, _⟩ | ⟨_, ⟨missed, _⟩ | ⟨error, failed⟩⟩
  · exact cap_of_moves limited moves
  · cases missed
  · cases failed

theorem knows_next (knows : Knows merchantId cap before.db clock payload phase)
    (fixed : CapFixed merchantId cap before.db) (passed : clock ≤ choice.now) (allowed : phase.allows payload request)
    (executed : exec before request choice = some (answer, after)) :
    Knows merchantId cap after.db choice.now payload (phase.next request answer) := by
  have stay : Knows merchantId cap after.db choice.now payload phase := knows.mono (exec_stays executed) passed
  cases phase with
  | entering =>
    cases request with
    | query read =>
      cases read with
      | loadDispatchContext messageId =>
        obtain ⟨rfl, rfl | ⟨error, rfl⟩⟩ := query_effect executed
        · cases found : loadDispatchContext after.db messageId with
          | none =>
            simp only [Query.eval, found]
            trivial
          | some target =>
            simp only [Query.eval, found]
            obtain rfl : messageId = payload.messageId := allowed
            exact limited_of_load fixed found
        · trivial
      | _ => exact stay
    | _ => exact stay
  | loaded limit =>
    cases request with
    | clock =>
      cases executed
      exact ⟨knows, le_refl _⟩
    | _ => exact stay
  | timed limit gateNow =>
    cases request with
    | query read =>
      cases read with
      | daySentCount merchantId gateNow =>
        cases answer with
        | error error => exact stay
        | ok count =>
          simp only [Admission.next]
          split
          · trivial
          · exact stay
      | _ => exact stay
    | _ => exact stay
  | admitted limit gateNow =>
    cases request with
    | clock =>
      cases executed
      exact ⟨stay.1, le_refl _⟩
    | _ => exact stay
  | starting limit sendNow =>
    cases request with
    | startSending scope messageId startedAt =>
      obtain ⟨rfl, rfl, _⟩ := allowed
      cases answer with
      | error error => exact stay
      | ok started =>
        cases started with
        | false => exact stay
        | true => exact ⟨fun own => cap_of_started knows.1 (own ▸ executed), stay.2⟩
    | _ => exact stay
  | owner limit sendNow =>
    cases request with
    | send args => cases answer <;> exact stay
    | _ => exact stay
  | acked limit sendNow | closed => exact stay

/-- A call lets a pass reach the counter of a day that has begun only where the counter is below the cap. -/
theorem reaches_next (knows : Knows merchantId cap before.db clock payload phase) (passed : clock ≤ choice.now)
    (allowed : phase.allows payload request) (executed : exec before request choice = some (answer, after))
    (begun : date ≤ utcMidnight clock) (reaches : (phase.next request answer).reaches cap date = true) :
    phase.reaches cap date = true ∨
      (bucketCount before.db.messageQuotaBuckets payload.merchantId date : Int) < cap := by
  cases phase with
  | entering =>
    cases request with
    | query read =>
      cases read with
      | loadDispatchContext messageId =>
        rcases answer with error | (none | target)
        · exact .inl reaches
        · exact .inl reaches
        · cases reaches
      | _ => exact .inl reaches
    | _ => exact .inl reaches
  | loaded limit =>
    cases request with
    | clock =>
      cases executed
      simp only [Admission.next, Admission.reaches, Bool.and_eq_true, decide_eq_true_eq] at reaches
      have later : utcMidnight clock ≤ utcMidnight choice.now := utcMidnight_mono passed
      exact absurd reaches.2 (Int.not_lt.mpr (begun.trans later))
    | _ => exact .inl reaches
  | timed limit gateNow =>
    cases request with
    | query read =>
      cases read with
      | daySentCount owner readAt =>
        obtain ⟨rfl, _, same⟩ := allowed
        cases same
        obtain ⟨_, rfl | ⟨error, rfl⟩⟩ := query_effect executed
        · simp only [Admission.next] at reaches
          split at reaches
          · cases reaches
          · rename_i below
            simp only [Admission.reaches, Bool.and_eq_true, beq_iff_eq, decide_eq_true_eq] at reaches
            obtain ⟨rfl, earlier⟩ := reaches
            rcases Int.lt_or_eq_of_le earlier with before | today
            · left
              simp [Admission.reaches, before]
            · right
              rw [← today]
              exact Int.not_le.mp below
        · exact .inl reaches
      | _ => exact .inl reaches
    | _ => exact .inl reaches
  | admitted limit gateNow =>
    cases request with
    | clock =>
      cases executed
      simp only [Admission.next, Admission.reaches, Bool.and_eq_true, beq_iff_eq] at reaches
      left
      have earlier : utcMidnight gateNow ≤ date := reaches.2 ▸ utcMidnight_mono (knows.2.trans passed)
      simp [Admission.reaches, reaches.1, earlier]
    | _ => exact .inl reaches
  | starting limit sendNow =>
    cases request with
    | startSending scope messageId startedAt =>
      rcases answer with error | (false | true)
      · exact .inl reaches
      · exact .inl reaches
      · exact .inl reaches
    | _ => exact .inl reaches
  | owner limit sendNow =>
    cases request with
    | send args => cases answer <;> exact .inl reaches
    | _ => exact .inl reaches
  | acked limit sendNow | closed => exact .inl reaches

end Passes

section Runs

/-- The pass may still increment the merchant's counter of a day. -/
def mayAdd (merchantId : MerchantId) (cap : Int) (db : Db) (date : Date) (task : AdmissionTask) : Bool :=
  running merchantId task && targetStatus db task.tag.messageId != some .sent && task.phase.reaches cap date

theorem mayAdd_mono (stays : Stays db later) (adds : mayAdd merchantId cap later date task = true) :
    mayAdd merchantId cap db date task = true := by
  simp only [mayAdd, Bool.and_eq_true, bne_iff_ne] at adds ⊢
  exact ⟨⟨adds.1.1, fun sent => adds.1.2 (stays.sent _ sent)⟩, adds.2⟩

theorem tally_mayAdd_le : world.tasks.tally (mayAdd merchantId cap db date) ≤ world.tasks.tally (running merchantId) := by
  apply Pool.tally_mono
  intro task adds
  simp only [mayAdd, Bool.and_eq_true] at adds
  exact adds.1.1

/-- The counter of a day that has begun, with all passes that may still increment it, is within the
bound; of a day to come nothing is counted. -/
structure Bounded (merchantId : MerchantId) (cap : Int) (width : Nat) (world : World) : Prop where
  follows : world.tasks.Every fun task => task.Follows (admission task.tag) fun _ _ => True
  knows : world.tasks.Every fun task => Knows merchantId cap world.backend.db world.clock task.tag task.phase
  fixed : CapFixed merchantId cap world.backend.db
  future : ∀ date, utcMidnight world.clock < date → bucketCount world.backend.db.messageQuotaBuckets merchantId date = 0
  bounded : ∀ date ≤ utcMidnight world.clock, (bucketCount world.backend.db.messageQuotaBuckets merchantId date : Int) +
    world.tasks.tally (mayAdd merchantId cap world.backend.db date) ≤ cap + width - 1

theorem Bounded.start (positive : 1 ≤ cap) (opening : Opening merchantId cap width world) :
    Bounded merchantId cap width world := by
  have count (date : Date) : bucketCount world.backend.db.messageQuotaBuckets merchantId date = 0 ∨
      ∃ row ∈ world.backend.db.messageQuotaBuckets.rows, row.merchantId = merchantId ∧ row.date = date ∧
        bucketCount world.backend.db.messageQuotaBuckets merchantId date = row.sentCount := by
    unfold bucketCount
    cases found : world.backend.db.messageQuotaBuckets.find? (bucketFilter merchantId date) with
    | none => exact .inl rfl
    | some row =>
      obtain ⟨stored, named⟩ := Table.find?_mem found
      simp only [bucketFilter, Bool.and_eq_true, beq_iff_eq] at named
      exact .inr ⟨row, stored, named.1, named.2, rfl⟩
  refine ⟨?_, ?_, opening.fixed, ?_, ?_⟩
  · simp [opening.tasks, Pool.Every]
  · simp [opening.tasks, Pool.Every]
  · intro date future
    rcases count date with none | ⟨row, stored, owner, same, counts⟩
    · exact none
    · rw [counts, opening.future row stored owner (same ▸ future)]
  · intro date _
    have none : world.tasks.tally (mayAdd merchantId cap world.backend.db date) = 0 := by simp [opening.tasks, Pool.tally]
    rw [none]
    rcases count date with zero | ⟨row, stored, owner, _, counts⟩
    · omega
    · have most := opening.bounded row stored owner
      omega

/-- A call leaves the merchant's counter alone, or it is the one increment of its pass. -/
theorem count_next {before after : Backend} {clock : Date} {request : Call} {choice : Choice}
    {answer : Except Thrown request.Value} {next : AdmissionTask}
    (knows : Knows merchantId cap before.db clock task.tag task.phase) (pending : task.pending? = some request)
    (allowed : task.phase.allows task.tag request) (executed : exec before request choice = some (answer, after))
    (tag : next.tag = task.tag) (date : Date) :
    bucketCount after.db.messageQuotaBuckets merchantId date = bucketCount before.db.messageQuotaBuckets merchantId date ∨
      bucketCount after.db.messageQuotaBuckets merchantId date =
          bucketCount before.db.messageQuotaBuckets merchantId date + 1 ∧
        date ≤ utcMidnight clock ∧ mayAdd merchantId cap before.db date task = true ∧
        mayAdd merchantId cap after.db date next = false := by
  rcases exec_count executed with same | ⟨scope, args, rfl, moves, counts⟩
  · exact .inl (by rw [same])
  · obtain ⟨rfl, named, limit, acked⟩ := allowed
    rw [counts]
    by_cases here : merchantId = task.tag.merchantId ∧ date = utcMidnight args.now
    · obtain ⟨rfl, rfl⟩ := here
      rw [acked] at knows
      obtain ⟨rfl, passed⟩ : limit = cap ∧ args.now ≤ clock := ⟨knows.1 rfl, knows.2⟩
      obtain ⟨old, sending, held⟩ := moves.before
      obtain rfl := List.mem_singleton.mp sending
      refine .inr ⟨by simp, utcMidnight_mono passed, ?_, ?_⟩
      · simp [mayAdd, running, pending, acked, Admission.reaches, ← named, held]
      · simp [mayAdd, tag, ← named, moves.reached]
    · left
      rw [if_neg here, Nat.add_zero]

theorem Bounded.act {choice : Choice} (bounded : Bounded merchantId cap width world) (positive : 1 ≤ cap)
    (within : CapFixed merchantId cap next.backend.db ∧ next.tasks.tally (running merchantId) ≤ width)
    (moved : world.act slot choice = some next) : Bounded merchantId cap width next := by
  unfold World.act at moved
  split at moved
  · cases moved
  rename_i task live
  obtain ⟨passed, moved⟩ := Option.ite_none_right_eq_some.mp moved
  obtain ⟨⟨backend, reached⟩, advanced, rfl⟩ := Option.map_eq_some_iff.mp moved
  obtain ⟨request, answer, pending, allowed, executed, tag, phase, follows⟩ :=
    (bounded.follows.get live).advance advanced
  have knows := bounded.knows.get live
  have stays : Stays world.backend.db backend.db := exec_stays executed
  have later : utcMidnight world.clock ≤ utcMidnight choice.now := utcMidnight_mono passed
  have counts := @count_next _ _ _ _ _ _ _ _ _ _ knows pending allowed executed tag
  have most (date : Date) : (world.tasks.put slot reached).tally (mayAdd merchantId cap backend.db date) ≤ width :=
    Nat.le_trans (@tally_mayAdd_le merchantId cap ⟨backend, world.tasks.put slot reached, choice.now⟩ backend.db date)
      within.2
  refine ⟨bounded.follows.put (tag ▸ follows), ?_, within.1, ?_, ?_⟩
  · intro other member
    rcases Pool.mem_put member with rfl | kept
    · rw [tag, phase]
      exact knows_next knows bounded.fixed passed allowed executed
    · exact (bounded.knows.clear other kept).mono stays passed
  · intro date future
    rcases counts date with same | ⟨_, begun, _⟩
    · rw [same, bounded.future date (lt_of_le_of_lt later future)]
    · exact absurd future (Int.not_lt.mpr (begun.trans later))
  · intro date begun
    have rest : (world.tasks.clear slot).tally (mayAdd merchantId cap backend.db date) ≤
        (world.tasks.clear slot).tally (mayAdd merchantId cap world.backend.db date) :=
      Pool.tally_mono fun _ adds => mayAdd_mono stays adds
    have before := Pool.tally_clear live (mayAdd merchantId cap world.backend.db date)
    have after := Pool.tally_put_clear reached live (mayAdd merchantId cap backend.db date)
    have crowd := most date
    by_cases old : date ≤ utcMidnight world.clock
    · have bound := bounded.bounded date old
      dsimp only
      rcases counts date with same | ⟨one, _, adds, none⟩
      · rw [same]
        by_cases adds : mayAdd merchantId cap backend.db date reached = true
        · have reaches := adds
          simp only [mayAdd, running, Bool.and_eq_true, beq_iff_eq, tag, bne_iff_ne, phase] at reaches
          obtain ⟨⟨⟨own, _⟩, unsent⟩, reaches⟩ := reaches
          rcases reaches_next knows passed allowed executed old reaches with already | below
          · have added : mayAdd merchantId cap world.backend.db date task = true := by
              simp only [mayAdd, running, own, pending, already, Option.isSome_some, beq_self_eq_true, Bool.and_true,
                Bool.true_and, bne_iff_ne]
              exact fun sent => unsent (stays.sent _ sent)
            rw [if_pos added] at before
            rw [if_pos adds] at after
            omega
          · rw [own] at below
            omega
        · rw [if_neg adds] at after
          omega
      · rw [one]
        rw [if_pos adds] at before
        rw [none] at after
        simp only [Bool.false_eq_true, if_false] at after
        omega
    · have future := bounded.future date (Int.not_le.mp old)
      rcases counts date with same | ⟨_, begun, _⟩
      · dsimp only
        rw [same, future]
        omega
      · exact absurd begun old

/-- The store changed, and neither a counter nor an entry into `sent`. -/
theorem Bounded.setDb (bounded : Bounded merchantId cap width world) (fixed : CapFixed merchantId cap later)
    (stays : Stays world.backend.db later)
    (buckets : later.messageQuotaBuckets = world.backend.db.messageQuotaBuckets) :
    Bounded merchantId cap width (world.setDb later) := by
  refine ⟨bounded.follows, fun task member => (bounded.knows task member).mono stays (le_refl _), fixed, ?_, ?_⟩
  · intro date future
    change bucketCount later.messageQuotaBuckets merchantId date = 0
    rw [buckets]
    exact bounded.future date future
  · intro date begun
    have bound := bounded.bounded date begun
    have fewer : world.tasks.tally (mayAdd merchantId cap later date) ≤
        world.tasks.tally (mayAdd merchantId cap world.backend.db date) :=
      Pool.tally_mono fun _ adds => mayAdd_mono stays adds
    change (bucketCount later.messageQuotaBuckets merchantId date : Int) +
      world.tasks.tally (mayAdd merchantId cap later date) ≤ cap + width - 1
    rw [buckets]
    omega

theorem stays_resolveTerminal {reason : String} :
    Stays db (CampaignRepository.resolveTerminal scope messageId reason .suppressed db).2 where
  sent _ sent := sent_guarded (resolveTerminal_cases ..) (by decide) sent
  links := by
    rw [(links_resolveTerminal reason .suppressed).targets]
    exact fun _ => id

theorem bounded_step (bounded : Bounded merchantId cap width world) (positive : 1 ≤ cap)
    (within : Within merchantId context cap width world label) (moved : (machine context).step world label = some next) :
    Bounded merchantId cap width next := by
  obtain ⟨fixed, crowd⟩ := within next moved
  cases label with
  | start payload =>
    cases moved
    refine ⟨bounded.follows.spawn (processCampaignDispatchJob_admission payload context), bounded.knows.spawn trivial,
      bounded.fixed, bounded.future, fun date begun => ?_⟩
    dsimp only
    rw [Pool.tally_spawn, if_neg (by simp [mayAdd, Admission.reaches]), Nat.add_zero]
    exact bounded.bounded date begun
  | act slot choice => exact bounded.act positive ⟨fixed, crowd⟩ moved
  | crash slot =>
    obtain ⟨task, live, rfl⟩ := Option.map_eq_some_iff.mp moved
    refine ⟨bounded.follows.clear, bounded.knows.clear, bounded.fixed, bounded.future, fun date begun => ?_⟩
    have bound := bounded.bounded date begun
    have fewer := Pool.tally_clear_le live (mayAdd merchantId cap world.backend.db date)
    dsimp only
    omega
  | resolve scope messageId reason =>
    cases moved
    refine bounded.setDb fixed stays_resolveTerminal ?_
    unfold CampaignRepository.resolveTerminal
    dsimp only
    split <;> rfl
  | outside db =>
    cases moved
    exact bounded.setDb fixed ⟨fun _ => id, fun _ => id⟩ rfl

/-- In every run in which at most `width` passes of the merchant are in progress at any time, the
counter of every day stays below the cap plus the number of the others. -/
theorem overshoot_bounded {origin final : World} (positive : 1 ≤ cap) (opening : Opening merchantId cap width origin)
    (reach : (machine context).Reach (Within merchantId context cap width) origin final) :
    ∀ row ∈ final.backend.db.messageQuotaBuckets.rows, row.merchantId = merchantId →
      (row.sentCount : Int) ≤ cap + width - 1 := by
  have bounded : Bounded merchantId cap width final := by
    apply reach.invariant
    · exact .start positive opening
    · exact fun middle label final within moved bounded => bounded_step bounded positive within moved
  intro row stored owner
  have found : final.backend.db.messageQuotaBuckets.find? (bucketFilter merchantId row.date) = some row := by
    rw [Table.find?_eq_some_iff]
    · exact ⟨stored, by simp [bucketFilter, owner]⟩
    · intro first second here there
      simp only [bucketFilter, Bool.and_eq_true, beq_iff_eq] at here there
      simp [Indexed.clash, Indexed.index, here, there]
  have counts : bucketCount final.backend.db.messageQuotaBuckets merchantId row.date = row.sentCount := by
    rw [bucketCount, found]
    rfl
  rw [← counts]
  by_cases begun : row.date ≤ utcMidnight final.clock
  · have bound := bounded.bounded row.date begun
    omega
  · rw [bounded.future row.date (Int.not_le.mp begun)]
    omega

end Runs

section Samples

/-- A merchant that may send once a day, with two drafts for its customer. -/
def oncePerDay : Db := { twoDrafts with merchantSettings := .single { merchantId := "m", dailySendCap := 1 } }

def oncePerDayWorld : World where
  backend := { db := oncePerDay }
  clock := 0

theorem oncePerDay_opening : Opening "m" 1 2 oncePerDayWorld := by
  refine ⟨rfl, ?_, nofun, nofun⟩
  intro settings stored _
  rw [List.mem_singleton.mp stored]

def acts (slot count : Nat) : List Label := List.replicate count (.act slot smooth)

/-- Both passes read the counter before either increments it. -/
def sideBySide : List Label :=
  [.start ⟨"m", "d", "c", "u"⟩, .start ⟨"m", "e", "c", "u"⟩] ++ acts 0 9 ++ acts 1 9 ++ acts 0 4 ++ acts 1 4

theorem sideBySide_runs :
    ((machine utcContext).runWhere (fun world label => decide (Within "m" utcContext 1 2 world label)) oncePerDayWorld
      sideBySide).isSome := by
  decide

/-- Two passes side by side overshoot a cap of one by one. -/
theorem overshoot_of_two :
    let final := ((machine utcContext).runWhere (fun world label => decide (Within "m" utcContext 1 2 world label))
      oncePerDayWorld sideBySide).get sideBySide_runs
    final.backend.db.messageQuotaBuckets.rows.map (·.sentCount) = [2] ∧
      ∀ row ∈ final.backend.db.messageQuotaBuckets.rows, row.merchantId = "m" → (row.sentCount : Int) ≤ 1 + 2 - 1 := by
  have reach := (Machine.reach_get sideBySide_runs).mono fun _ _ => of_decide_eq_true
  exact ⟨by decide, overshoot_bounded (by decide) oncePerDay_opening reach⟩

end Samples

end WinBack.Dispatch.Quota
