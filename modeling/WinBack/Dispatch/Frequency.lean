import WinBack.Dispatch.Progress
import WinBack.Dispatch.Subjects

/-! The frequency floor of a customer. The gate counts recorded sends only, and the
send comes later: two passes that overlap, or an accepted send that is not recorded,
break the floor. Gate reads that find neither keep it. -/

namespace WinBack.Dispatch

open Library CampaignRepository

/-- A send that the provider accepted, with the `sendStartedAt` of its pass. -/
structure AcceptedSend where
  messageId : MessageId
  merchantId : MerchantId
  customerId : CustomerId
  start : Date
  deriving DecidableEq, Repr

def AcceptedSend.about (merchantId : MerchantId) (customerId : CustomerId) (send : AcceptedSend) : Bool :=
  send.merchantId == merchantId && send.customerId == customerId

abbrev PassTask := Task CampaignDispatchJobPayload Call Call.Value Thrown Progress

/-- The passes of the dispatch worker over a shared backend and one clock. -/
structure Passes where
  backend : Backend
  tasks : Pool PassTask := []
  clock : Date
  accepted : List AcceptedSend := []

inductive PassLabel where
  | start (payload : CampaignDispatchJobPayload)   -- a worker takes a job
  | act (slot : Nat) (choice : Choice)             -- a pass makes its next call
  | crash (slot : Nat)                             -- the process of a pass dies
  | outside (db : Db)                              -- other components write their own tables
  | draft (message : Message)                      -- the generation pipeline adds a draft

def acceptedBy (task : PassTask) (choice : Choice) : List AcceptedSend :=
  match task.phase, task.pending? with
  | .owner target _ now, some (.send args) =>
    if choice.accepted then [⟨args.correlationId, task.tag.merchantId, target.customerId, now⟩] else []
  | _, _ => []

namespace Passes

def start (context : DrainerContext) (payload : CampaignDispatchJobPayload) (state : Passes) : Passes :=
  { state with tasks := state.tasks.spawn ⟨payload, .entering, processCampaignDispatchJob context payload⟩ }

/-- Time does not run backwards. -/
def act (slot : Nat) (choice : Choice) (state : Passes) : Option Passes :=
  match state.tasks.task? slot with
  | none => none
  | some task =>
    if state.clock ≤ choice.now then
      (task.advance (progress task.tag) exec state.backend choice).map fun (backend, next) => {
        backend
        tasks := state.tasks.put slot next
        clock := choice.now
        accepted := state.accepted ++ acceptedBy task choice }
    else none

def crash (slot : Nat) (state : Passes) : Option Passes :=
  match state.tasks.task? slot with
  | none => none
  | some _ => some { state with tasks := state.tasks.clear slot }

def setDb (db : Db) (state : Passes) : Passes := { state with backend := { state.backend with db } }

/-- The settings of the merchants are fixed. -/
def outside (db : Db) (state : Passes) : Passes :=
  state.setDb { db with
    merchantSettings := state.backend.db.merchantSettings
    campaignTargets := state.backend.db.campaignTargets
    messages := state.backend.db.messages
    messageQuotaBuckets := state.backend.db.messageQuotaBuckets
    auditLogs := state.backend.db.auditLogs }

def draft (message : Message) (state : Passes) : Option Passes :=
  if message.status = .draft then
    (state.backend.db.messages.insert? message).map fun messages =>
      state.setDb { state.backend.db with messages }
  else none

end Passes

def passes (context : DrainerContext) : Machine Passes PassLabel where
  step state label :=
    match label with
    | .start payload => some (state.start context payload)
    | .act slot choice => state.act slot choice
    | .crash slot => state.crash slot
    | .outside db => some (state.outside db)
    | .draft message => state.draft message

/-- Two starts are at least the cooldown apart. -/
def Apart (cooldownHours : Int) (first second : AcceptedSend) : Prop :=
  cooldownHours * msPerHour ≤ second.start - first.start ∨ cooldownHours * msPerHour ≤ first.start - second.start

instance (cooldownHours : Int) : DecidableRel (Apart cooldownHours) := fun _ _ =>
  inferInstanceAs (Decidable (_ ∨ _))

/-- The accepted sends of every customer keep to the settings of its merchant. -/
def FrequencyFloor (state : Passes) : Prop :=
  ∀ settings ∈ state.backend.db.merchantSettings.rows, ∀ customerId,
    (state.accepted.filter (AcceptedSend.about settings.merchantId customerId)).Pairwise
        (Apart settings.defaultCooldownHours) ∧
      ∀ day, ((state.accepted.filter (AcceptedSend.about settings.merchantId customerId)).countP fun send =>
        utcMidnight send.start == utcMidnight day) ≤ settings.maxDailySendsPerCustomer.toNat

/-- The completion of the send is recorded on its message. -/
def recorded (db : Db) (send : AcceptedSend) : Bool :=
  db.messages.any fun message =>
    message.id == send.messageId && message.merchantId == send.merchantId &&
      message.customerId == send.customerId && message.status == .sent && message.sentAt == some send.start

/-- The pass is armed for the customer. -/
def armedFor (merchantId : MerchantId) (customerId : CustomerId) (task : PassTask) : Bool :=
  task.tag.merchantId == merchantId && task.phase.armed.any fun target => target.customerId == customerId

/-- A cooldown read finds every accepted send of its customer recorded, and no other
pass on the customer between its own cooldown read and its provider call. -/
def gateReadsSettled (state : Passes) : PassLabel → Bool
  | .act slot _ =>
    match state.tasks.task? slot with
    | none => true
    | some task =>
      match task.phase, task.pending? with
      | .timed _ _, some (.query (.countSentSince merchantId customerId _)) =>
        state.tasks.tally (armedFor merchantId customerId) == 0 &&
          state.accepted.all fun send =>
            !send.about merchantId customerId || recorded state.backend.db send
      | _, _ => true
  | _ => true

/-- A message recorded as sent has a target recorded as sent. -/
def SentAgree (db : Db) : Prop :=
  ∀ messageId, messageStatus db messageId = some .sent → targetStatus db messageId = some .sent

/-- The subsystem before its first pass. -/
structure Unpassed (state : Passes) : Prop where
  tasks : state.tasks = []
  accepted : state.accepted = []
  agreed : SentAgree state.backend.db

variable {context : DrainerContext} {state next origin final : Passes} {label : PassLabel} {db later : Db}
  {payload : CampaignDispatchJobPayload} {target : DispatchContext} {gateNow now : Date}

section Frames

variable {scope : MerchantId} {messageId : MessageId}

/-- What no step takes back. -/
structure Keeps (before after : Db) : Prop where
  settings : after.merchantSettings = before.merchantSettings
  links : ∀ link ∈ targetLinks before, link ∈ targetLinks after
  recorded : ∀ send, recorded before send = true → recorded after send = true

theorem Keeps.refl : Keeps db db := ⟨rfl, fun _ member => member, fun _ held => held⟩

/-- The settings stay, and so does every message that is recorded as sent. -/
structure SentKept (before after : Db) : Prop where
  settings : after.merchantSettings = before.merchantSettings
  messages : ∀ message ∈ before.messages.rows, message.status = .sent → message ∈ after.messages.rows

theorem SentKept.refl : SentKept db db := ⟨rfl, fun _ stored _ => stored⟩

theorem SentKept.keeps (kept : SentKept db later)
    (links : ∀ link ∈ targetLinks db, link ∈ targetLinks later) : Keeps db later := by
  refine ⟨kept.settings, links, fun send held => ?_⟩
  simp only [recorded, Table.any, List.any_eq_true, Bool.and_eq_true, beq_iff_eq] at held ⊢
  obtain ⟨message, stored, holds⟩ := held
  exact ⟨message, kept.messages message stored holds.1.2, holds⟩

/-- An update of drafts leaves the sent messages alone. -/
private theorem sent_kept {change : Message → Message} {message : Message}
    (stored : message ∈ db.messages.rows) (sent : message.status = .sent) :
    message ∈ db.messages.rows.map fun row => if draftFilter scope messageId row then change row else row := by
  refine List.mem_map.mpr ⟨message, stored, if_neg fun matched => ?_⟩
  have draft := (draftFilter_iff.mp matched).2.1
  rw [sent] at draft
  cases draft

private theorem sentKept_resolveTerminal (reason : String) (status : TerminalStatus) :
    SentKept db (CampaignRepository.resolveTerminal scope messageId reason status db).2 := by
  unfold CampaignRepository.resolveTerminal
  dsimp only
  split
  · exact .refl
  · exact ⟨rfl, fun message stored sent => sent_kept stored sent⟩

private theorem sentKept_markSentWithQuota (args : MarkSentArgs) :
    SentKept db (CampaignRepository.markSentWithQuota scope args db).2 := by
  unfold CampaignRepository.markSentWithQuota
  dsimp only
  split
  · exact .refl
  split
  · exact .refl
  split
  · exact .refl
  · exact ⟨rfl, fun message stored sent => sent_kept stored sent⟩

private theorem sentKept_claimTarget (args : ClaimTargetArgs) (createdAt : Date) :
    SentKept db (CampaignRepository.claimTarget scope args createdAt db).2 := by
  unfold CampaignRepository.claimTarget
  split
  · exact .refl
  split
  · exact .refl
  split
  · exact ⟨rfl, fun _ stored _ => stored⟩
  · exact .refl

private theorem sentKept_of_write {before after : Backend} {Answer : Type} {fate : Fate}
    {write : Except DbError Answer × Db} {answer : Except Thrown Answer} (kept : SentKept before.db write.2)
    (executed : fate.apply before write = (answer, after)) : SentKept before.db after.db := by
  rcases fate_cases executed with same | same <;> rw [same]
  · exact kept
  · exact .refl

private theorem exec_sentKept {before after : Backend} {request : Call} {choice : Choice}
    {answer : Except Thrown request.Value} (executed : exec before request choice = some (answer, after)) :
    SentKept before.db after.db := by
  have same (write : Db) (settings : write.merchantSettings = before.db.merchantSettings)
      (messages : write.messages = before.db.messages) : SentKept before.db write :=
    ⟨settings, fun _ stored _ => messages ▸ stored⟩
  cases request with
  | query read =>
    obtain ⟨rfl, _⟩ := query_effect executed
    exact .refl
  | clock =>
    cases executed
    exact .refl
  | claimTarget scope args => exact sentKept_of_write (sentKept_claimTarget args choice.now) (Option.some.inj executed)
  | resolveTerminal scope messageId reason status =>
    exact sentKept_of_write (sentKept_resolveTerminal reason status) (Option.some.inj executed)
  | startSending scope messageId now => exact sentKept_of_write (same _ rfl rfl) (Option.some.inj executed)
  | revertToPending scope messageId => exact sentKept_of_write (same _ rfl rfl) (Option.some.inj executed)
  | markSentWithQuota scope args =>
    exact sentKept_of_write (sentKept_markSentWithQuota args) (Option.some.inj executed)
  | deferTarget scope messageId => exact sentKept_of_write (same _ rfl rfl) (Option.some.inj executed)
  | appendAudit row =>
    refine sentKept_of_write (same { before.db with auditLogs := before.db.auditLogs ++ [row] } rfl rfl)
      (Option.some.inj executed)
  | send args =>
    simp only [exec] at executed
    split at executed
    · cases executed
      exact .refl
    · cases executed
  | addBulk payloads =>
    simp only [exec] at executed
    split at executed <;> cases executed <;> exact .refl

/-- Every call keeps settings, links and records. -/
theorem exec_keeps {before after : Backend} {request : Call} {choice : Choice}
    {answer : Except Thrown request.Value} (executed : exec before request choice = some (answer, after)) :
    Keeps before.db after.db := by
  refine (exec_sentKept executed).keeps fun link member => ?_
  rcases exec_links executed with same | ⟨scope, args, _, claimed⟩
  · exact same.targets ▸ member
  · exact (claimed.targets link).mpr (.inl member)

/-- A guarded write to or from `sent` moves the message along. -/
private theorem SentAgree.moves {statuses : List CampaignTargetStatus} {status : CampaignTargetStatus}
    (agreed : SentAgree db) (moves : Moves scope messageId statuses status db later)
    (unsent : .sent ∉ statuses) : SentAgree later := by
  intro other sent
  rcases moves.messages.statuses other with same | ⟨rfl, record⟩
  · have before := agreed other (same ▸ sent)
    have elsewhere : other ≠ messageId := by
      rintro rfl
      obtain ⟨old, expected, held⟩ := moves.before
      cases Option.some.inj (held.symm.trans before)
      exact unsent expected
    rw [moves.elsewhere elsewhere, before]
  · rw [moves.reached]
    rw [sent] at record
    cases status <;> simp [recordOf] at record ⊢

private theorem SentAgree.guarded {before after : Backend} {write : Bool × Db} {fate : Fate}
    {answer : Except Thrown Bool} {statuses : List CampaignTargetStatus} {status : CampaignTargetStatus}
    (agreed : SentAgree before.db) (guarded : Guarded scope messageId statuses status before.db write)
    (unsent : .sent ∉ statuses) (executed : fate.apply before (answered write) = (answer, after)) :
    SentAgree after.db := by
  rcases fate_cases executed with same | same <;> rw [same]
  · cases guarded with
    | hit reported moves => exact agreed.moves moves unsent
    | missed same missed =>
      subst same
      exact agreed
  · exact agreed

/-- Messages and targets are recorded as sent together. -/
theorem SentAgree.exec {before after : Backend} {request : Call} {choice : Choice}
    {answer : Except Thrown request.Value} (agreed : SentAgree before.db)
    (executed : exec before request choice = some (answer, after)) : SentAgree after.db := by
  cases request with
  | query read =>
    obtain ⟨rfl, _⟩ := query_effect executed
    exact agreed
  | clock =>
    cases executed
    exact agreed
  | claimTarget scope args =>
    rcases fate_cases (Option.some.inj executed) with same | same <;> rw [same]
    · rcases claimTarget_cases scope args choice.now before.db with
        ⟨targets, _, result, _, absent, statuses, _⟩ | ⟨same, _⟩
      · rw [result]
        intro other sent
        have held : targetStatus before.db other = some .sent := agreed other sent
        have elsewhere : other ≠ args.messageId := by
          rintro rfl
          simp [absent] at held
        rw [statuses, Function.update_of_ne elsewhere, held]
      · rw [same]
        exact agreed
    · exact agreed
  | resolveTerminal scope messageId reason status =>
    exact agreed.guarded (resolveTerminal_cases ..) (by decide) (Option.some.inj executed)
  | startSending scope messageId now =>
    exact agreed.guarded (startSending_cases ..) (by decide) (Option.some.inj executed)
  | revertToPending scope messageId =>
    exact agreed.guarded (revertToPending_cases ..) (by decide) (Option.some.inj executed)
  | deferTarget scope messageId =>
    exact agreed.guarded (deferTarget_cases ..) (by decide) (Option.some.inj executed)
  | markSentWithQuota scope args =>
    rcases fate_cases (Option.some.inj executed) with same | same <;> rw [same]
    · rcases markSentWithQuota_cases scope args before.db with ⟨_, moves, _⟩ | ⟨missed, _⟩
      · exact agreed.moves moves (by decide)
      · rw [missed]
        exact agreed
    · exact agreed
  | appendAudit row =>
    rcases fate_cases (Option.some.inj executed) with same | same <;> rw [same]
    · exact agreed
    · exact agreed
  | send args =>
    simp only [Dispatch.exec] at executed
    split at executed
    · cases executed
      exact agreed
    · cases executed
  | addBulk payloads =>
    simp only [Dispatch.exec] at executed
    split at executed <;> cases executed <;> exact agreed

end Frames

section Facts

/-- The target was read with the settings of its merchant. -/
structure LoadedFor (owner : MerchantId) (db : Db) (payload : CampaignDispatchJobPayload) (target : DispatchContext) :
    Prop where
  linked : (payload.messageId, target.customerId, owner) ∈ targetLinks db
  settings : ∃ settings ∈ db.merchantSettings.rows, settings.merchantId = owner ∧
    settings.defaultCooldownHours = target.defaultCooldownHours ∧
      settings.maxDailySendsPerCustomer = target.maxDailySendsPerCustomer

/-- Every accepted send of the customer is recorded and older than the cooldown. -/
structure Cooled (db : Db) (accepted : List AcceptedSend) (payload : CampaignDispatchJobPayload)
    (target : DispatchContext) (gateNow : Date) : Prop where
  recorded : ∀ send ∈ accepted, send.about payload.merchantId target.customerId = true → recorded db send = true
  older : ∀ send ∈ accepted, send.about payload.merchantId target.customerId = true →
    send.start < cooldownSince target gateNow

/-- The accepted sends of the customer from an instant on. -/
def sendsFrom (accepted : List AcceptedSend) (merchantId : MerchantId) (customerId : CustomerId) (since : Date) : Nat :=
  (accepted.filter (AcceptedSend.about merchantId customerId)).countP fun send => decide (since ≤ send.start)

/-- And the gate's day has room for one more. -/
structure Cleared (db : Db) (accepted : List AcceptedSend) (payload : CampaignDispatchJobPayload)
    (target : DispatchContext) (gateNow : Date) : Prop extends Cooled db accepted payload target gateNow where
  below : sendsFrom accepted payload.merchantId target.customerId (utcMidnight gateNow) <
    target.maxDailySendsPerCustomer

/-- What a pass knows, by its progress. -/
def Knows (db : Db) (accepted : List AcceptedSend) (clock : Date) (payload : CampaignDispatchJobPayload) :
    Progress → Prop
  | .entering | .acked _ | .closed => True
  | .loaded target => ∃ owner, LoadedFor owner db payload target
  | .timed target gateNow => (∃ owner, LoadedFor owner db payload target) ∧ gateNow ≤ clock
  | .cooled target gateNow =>
    (∃ owner, LoadedFor owner db payload target) ∧ gateNow ≤ clock ∧ Cooled db accepted payload target gateNow
  | .cleared target gateNow =>
    (∃ owner, LoadedFor owner db payload target) ∧ gateNow ≤ clock ∧ Cleared db accepted payload target gateNow
  | .starting target gateNow now =>
    (∃ owner, LoadedFor owner db payload target) ∧ gateNow ≤ now ∧ Cleared db accepted payload target gateNow
  | .owner target gateNow now => LoadedFor payload.merchantId db payload target ∧ gateNow ≤ now ∧
    Cleared db accepted payload target gateNow ∧
      ∀ send ∈ accepted, send.about payload.merchantId target.customerId = true → send.messageId ≠ payload.messageId

variable {accepted extra : List AcceptedSend} {owner : MerchantId} {clock clockNext : Date} {phase : Progress}

theorem loadedFor_of_load (loaded : loadDispatchContext db payload.messageId = some target) :
    ∃ owner, LoadedFor owner db payload target := by
  unfold loadDispatchContext at loaded
  obtain ⟨row, found, rest⟩ := Option.bind_eq_some_iff.mp loaded
  obtain ⟨settings, ruled, rest⟩ := Option.bind_eq_some_iff.mp rest
  obtain ⟨merchant, _, rest⟩ := Option.bind_eq_some_iff.mp rest
  obtain ⟨customer, _, rest⟩ := Option.bind_eq_some_iff.mp rest
  obtain ⟨message, _, rest⟩ := Option.bind_eq_some_iff.mp rest
  obtain ⟨generation, _, rest⟩ := Option.bind_eq_some_iff.mp rest
  cases rest
  obtain ⟨stored, named⟩ := Table.find?_mem found
  obtain ⟨present, owned⟩ := Table.find?_mem ruled
  refine ⟨row.merchantId, mem_targetLinks.mpr ⟨row, stored, ?_⟩, settings, present, ?_, rfl, rfl⟩
  · rw [← beq_iff_eq.mp named]
  · exact beq_iff_eq.mp owned

theorem LoadedFor.mono (loaded : LoadedFor owner db payload target) (keeps : Keeps db later) :
    LoadedFor owner later payload target :=
  ⟨keeps.links _ loaded.linked, keeps.settings ▸ loaded.settings⟩

/-- Sends about other customers change nothing. -/
private theorem Cooled.mono (cooled : Cooled db accepted payload target gateNow) (keeps : Keeps db later)
    (others : ∀ send ∈ extra, send.about payload.merchantId target.customerId = false) :
    Cooled later (accepted ++ extra) payload target gateNow := by
  have old {send : AcceptedSend} (member : send ∈ accepted ++ extra)
      (about : send.about payload.merchantId target.customerId = true) : send ∈ accepted := by
    rcases List.mem_append.mp member with old | fresh
    · exact old
    · simp [others send fresh] at about
  exact ⟨fun send member about => keeps.recorded send (cooled.recorded send (old member about) about),
    fun send member about => cooled.older send (old member about) about⟩

private theorem filter_others {merchantId : MerchantId} {customerId : CustomerId}
    (others : ∀ send ∈ extra, send.about merchantId customerId = false) :
    (accepted ++ extra).filter (AcceptedSend.about merchantId customerId) =
      accepted.filter (AcceptedSend.about merchantId customerId) := by
  have none : extra.filter (AcceptedSend.about merchantId customerId) = [] :=
    List.filter_eq_nil_iff.mpr fun send member => by simp [others send member]
  rw [List.filter_append, none, List.append_nil]

private theorem Cleared.mono (cleared : Cleared db accepted payload target gateNow) (keeps : Keeps db later)
    (others : ∀ send ∈ extra, send.about payload.merchantId target.customerId = false) :
    Cleared later (accepted ++ extra) payload target gateNow where
  toCooled := cleared.toCooled.mono keeps others
  below := by
    rw [sendsFrom, filter_others others]
    exact cleared.below

/-- A pass keeps what it knows while others act, unless one of them sends to the
customer that it is armed for. -/
theorem Knows.mono (knows : Knows db accepted clock payload phase) (keeps : Keeps db later)
    (passed : clock ≤ clockNext)
    (others : ∀ target, phase.armed = some target →
      ∀ send ∈ extra, send.about payload.merchantId target.customerId = false) :
    Knows later (accepted ++ extra) clockNext payload phase := by
  cases phase with
  | entering | acked now | closed => trivial
  | loaded target =>
    obtain ⟨owner, loaded⟩ := knows
    exact ⟨owner, loaded.mono keeps⟩
  | timed target gateNow =>
    obtain ⟨⟨owner, loaded⟩, past⟩ := knows
    exact ⟨⟨owner, loaded.mono keeps⟩, past.trans passed⟩
  | cooled target gateNow =>
    obtain ⟨⟨owner, loaded⟩, past, cooled⟩ := knows
    exact ⟨⟨owner, loaded.mono keeps⟩, past.trans passed,
      cooled.mono keeps (others target rfl)⟩
  | cleared target gateNow =>
    obtain ⟨⟨owner, loaded⟩, past, cleared⟩ := knows
    exact ⟨⟨owner, loaded.mono keeps⟩, past.trans passed,
      cleared.mono keeps (others target rfl)⟩
  | starting target gateNow now =>
    obtain ⟨⟨owner, loaded⟩, past, cleared⟩ := knows
    exact ⟨⟨owner, loaded.mono keeps⟩, past, cleared.mono keeps (others target rfl)⟩
  | owner target gateNow now =>
    obtain ⟨loaded, past, cleared, fresh⟩ := knows
    have apart := others target rfl
    refine ⟨loaded.mono keeps, past, cleared.mono keeps apart, fun send member about => ?_⟩
    rcases List.mem_append.mp member with old | new
    · exact fresh send old about
    · simp [apart send new] at about

end Facts

section Reads

variable {accepted : List AcceptedSend} {merchantId : MerchantId} {customerId : CustomerId} {since : Date}

/-- What the gate's count sees. -/
def counted (merchantId : MerchantId) (customerId : CustomerId) (since : Date) (message : Message) : Bool :=
  message.merchantId == merchantId && message.customerId == customerId && message.status == .sent &&
    message.sentAt.any fun sentAt => decide (since ≤ sentAt)

private theorem recorded_row {send : AcceptedSend} (held : recorded db send = true)
    (about : send.about merchantId customerId = true) (late : since ≤ send.start) :
    ∃ message ∈ db.messages.rows, message.id = send.messageId ∧ counted merchantId customerId since message = true := by
  simp only [recorded, Table.any, List.any_eq_true, Bool.and_eq_true, beq_iff_eq] at held
  simp only [AcceptedSend.about, Bool.and_eq_true, beq_iff_eq] at about
  obtain ⟨message, stored, ⟨⟨⟨named, owned⟩, customer⟩, sent⟩, start⟩ := held
  exact ⟨message, stored, named, by simp [counted, owned, customer, sent, start, about, late]⟩

/-- A zero count leaves no accepted send in the window, once they are all recorded. -/
private theorem older_of_count (none : MessageRepository.countSentSince db merchantId customerId since = 0)
    {send : AcceptedSend} (held : recorded db send = true) (about : send.about merchantId customerId = true) :
    send.start < since := by
  by_contra late
  obtain ⟨message, stored, _, counts⟩ := recorded_row held about (Int.not_lt.mp late)
  have zero : db.messages.rows.countP (counted merchantId customerId since) = 0 := none
  rw [List.countP_eq_zero] at zero
  exact zero message stored counts

/-- Distinct messages make the count an upper bound on the accepted sends. -/
private theorem sendsFrom_le_count
    (held : ∀ send ∈ accepted, send.about merchantId customerId = true → recorded db send = true)
    (distinct : ((accepted.filter (AcceptedSend.about merchantId customerId)).map AcceptedSend.messageId).Nodup) :
    sendsFrom accepted merchantId customerId since ≤
      MessageRepository.countSentSince db merchantId customerId since := by
  let late := (accepted.filter (AcceptedSend.about merchantId customerId)).filter fun send => decide (since ≤ send.start)
  let rows := db.messages.rows.filter (counted merchantId customerId since)
  have unique : (late.map AcceptedSend.messageId).Nodup := distinct.sublist (List.filter_sublist.map _)
  have found : late.map AcceptedSend.messageId ⊆ rows.map Message.id := by
    intro id member
    obtain ⟨send, listed, rfl⟩ := List.mem_map.mp member
    obtain ⟨among, after⟩ := List.mem_filter.mp listed
    obtain ⟨present, about⟩ := List.mem_filter.mp among
    obtain ⟨message, stored, named, counts⟩ := recorded_row (held send present about) about (decide_eq_true_eq.mp after)
    exact List.mem_map.mpr ⟨message, List.mem_filter.mpr ⟨stored, counts⟩, named⟩
  have fewer : late.length ≤ rows.length := by
    simpa using List.Nodup.length_le_of_subset unique found
  have counts : sendsFrom accepted merchantId customerId since = late.length := List.countP_eq_length_filter
  have sees : MessageRepository.countSentSince db merchantId customerId since = rows.length :=
    List.countP_eq_length_filter
  rw [counts, sees]
  exact fewer

end Reads

section Step

variable {accepted : List AcceptedSend} {clock : Date} {before after : Backend} {choice : Choice} {phase : Progress}
  {request : Call}

/-- The message of a recorded send is recorded as sent. -/
private theorem messageStatus_of_recorded {send : AcceptedSend} (held : recorded db send = true) :
    messageStatus db send.messageId = some .sent := by
  simp only [recorded, Table.any, List.any_eq_true, Bool.and_eq_true, beq_iff_eq] at held
  obtain ⟨message, stored, ⟨⟨⟨named, _⟩, _⟩, sent⟩, _⟩ := held
  have found : db.messages.find? (·.id == send.messageId) = some message := by
    rw [Table.find?_eq_some_iff]
    · exact ⟨stored, beq_iff_eq.mpr named⟩
    · intro first second here there
      exact clash_of_id (by simp_all)
  simp [messageStatus, found, sent]

/-- A won compare-and-set: the pass works for the merchant of the target, and no
accepted send of its customer is of this message. -/
private theorem knows_of_started (agreed : SentAgree before.db)
    (loaded : ∃ owner, LoadedFor owner before.db payload target) (past : gateNow ≤ now)
    (cleared : Cleared before.db accepted payload target gateNow)
    (executed : exec before (.startSending payload.merchantId payload.messageId now) choice =
      some (.ok true, after)) :
    Knows before.db accepted clock payload (.owner target gateNow now) := by
  rcases guarded_effect (startSending_cases _ _ _ _) (Option.some.inj executed) with
    ⟨moves, _, _⟩ | ⟨_, ⟨missed, _⟩ | ⟨error, failed⟩⟩
  · obtain ⟨owner, loaded⟩ := loaded
    obtain ⟨row, stored, named, pending, owned⟩ := moves.held
    obtain ⟨other, present, same⟩ := mem_targetLinks.mp loaded.linked
    obtain ⟨sameMessage, _, sameOwner⟩ := Prod.mk.inj same |>.imp id Prod.mk.inj
    rw [target_unique present stored (sameMessage.trans named.symm), owned] at sameOwner
    subst sameOwner
    refine ⟨loaded, past, cleared, fun send member about same => ?_⟩
    have sent := agreed _ (messageStatus_of_recorded (cleared.recorded send member about))
    rw [same, ← named, targetStatus_of_mem stored, List.mem_singleton.mp pending] at sent
    cases sent
  · cases missed
  · cases failed

/-- What a pass knows after its call, read in the store before it. -/
private theorem knows_next {answer : Except Thrown request.Value}
    (knows : Knows before.db accepted clock payload phase) (passed : clock ≤ choice.now)
    (agreed : SentAgree before.db)
    (distinct : ∀ merchantId customerId,
      ((accepted.filter (AcceptedSend.about merchantId customerId)).map AcceptedSend.messageId).Nodup)
    (settled : ∀ target gateNow customerId since, phase = .timed target gateNow →
      request = .query (.countSentSince payload.merchantId customerId since) →
      ∀ send ∈ accepted, send.about payload.merchantId customerId = true → recorded before.db send = true)
    (allowed : phase.allows payload request)
    (executed : exec before request choice = some (answer, after)) :
    Knows before.db accepted choice.now payload (phase.next request answer) := by
  cases phase with
  | entering =>
    cases request with
    | claimTarget scope args => cases answer <;> trivial
    | query read =>
      cases allowed
      obtain ⟨_, rfl | ⟨error, rfl⟩⟩ := query_effect executed
      · cases loaded : loadDispatchContext before.db payload.messageId with
        | none =>
          simp only [Query.eval, loaded]
          trivial
        | some target =>
          simp only [Query.eval, loaded]
          exact loadedFor_of_load loaded
      · trivial
    | _ => exact False.elim allowed
  | loaded target =>
    cases request with
    | clock =>
      cases executed
      exact ⟨knows, le_refl _⟩
    | _ => exact False.elim allowed
  | timed target gateNow =>
    obtain ⟨loaded, past⟩ := knows
    cases request with
    | query read =>
      obtain ⟨_, rfl | ⟨error, rfl⟩⟩ := query_effect executed
      · cases read with
        | countSentSince merchantId customerId since =>
          rcases allowed with same | unrelated
          · cases same
            have held := settled target gateNow _ _ rfl rfl
            simp only [Progress.next]
            split
            · rename_i none
              exact ⟨loaded, past.trans passed, held, fun send member about =>
                older_of_count none (held send member about) about⟩
            · trivial
          · cases unrelated
        | loadDispatchContext messageId =>
          rcases allowed with same | unrelated
          · cases same
          · cases unrelated
        | _ => exact ⟨loaded, past.trans passed⟩
      · cases read <;> trivial
    | resolveTerminal scope messageId reason status => cases answer <;> trivial
    | _ => exact False.elim allowed
  | cooled target gateNow =>
    obtain ⟨loaded, past, cooled⟩ := knows
    cases request with
    | query read =>
      cases allowed
      obtain ⟨_, rfl | ⟨error, rfl⟩⟩ := query_effect executed
      · simp only [Progress.next]
        split
        · trivial
        · rename_i below
          have room : sendsFrom accepted payload.merchantId target.customerId (utcMidnight gateNow) ≤ _ :=
            sendsFrom_le_count cooled.recorded (distinct _ _)
          refine ⟨loaded, past.trans passed, cooled, ?_⟩
          simp only [Query.eval] at below
          omega
      · trivial
    | _ => exact False.elim allowed
  | cleared target gateNow =>
    obtain ⟨loaded, past, cleared⟩ := knows
    cases request with
    | query read =>
      obtain ⟨_, rfl | ⟨error, rfl⟩⟩ := query_effect executed
      · exact ⟨loaded, past.trans passed, cleared⟩
      · trivial
    | clock =>
      cases executed
      exact ⟨loaded, past.trans passed, cleared⟩
    | deferTarget scope messageId => cases answer <;> trivial
    | _ => exact False.elim allowed
  | starting target gateNow now =>
    obtain ⟨loaded, past, cleared⟩ := knows
    cases request with
    | startSending scope messageId startedAt =>
      obtain ⟨rfl, rfl, rfl⟩ := allowed
      cases answer with
      | error error => trivial
      | ok started =>
        cases started with
        | true => exact knows_of_started agreed loaded past cleared executed
        | false => trivial
    | _ => exact False.elim allowed
  | owner target gateNow now =>
    cases request with
    | send args => cases answer <;> trivial
    | _ => exact False.elim allowed
  | acked now => trivial
  | closed => cases request <;> trivial

end Step

/-- The floor in the order of acceptance, with the sends of a customer about
distinct messages. -/
structure OrderedFloor (db : Db) (accepted : List AcceptedSend) : Prop where
  distinct : ∀ merchantId customerId,
    ((accepted.filter (AcceptedSend.about merchantId customerId)).map AcceptedSend.messageId).Nodup
  cooled : ∀ settings ∈ db.merchantSettings.rows, ∀ customerId,
    (accepted.filter (AcceptedSend.about settings.merchantId customerId)).Pairwise fun first second =>
      first.start + settings.defaultCooldownHours * msPerHour ≤ second.start
  daily : ∀ settings ∈ db.merchantSettings.rows, ∀ customerId day,
    ((accepted.filter (AcceptedSend.about settings.merchantId customerId)).countP fun send =>
      utcMidnight send.start == utcMidnight day) ≤ settings.maxDailySendsPerCustomer.toNat

structure FloorSafe (state : Passes) : Prop where
  follows : state.tasks.Every fun task => task.Follows (progress task.tag) fun _ _ => True
  knows : state.tasks.Every fun task =>
    Knows state.backend.db state.accepted state.clock task.tag task.phase
  alone : ∀ merchantId customerId, state.tasks.tally (armedFor merchantId customerId) ≤ 1
  agreed : SentAgree state.backend.db
  floor : OrderedFloor state.backend.db state.accepted

theorem FloorSafe.start (unpassed : Unpassed origin) : FloorSafe origin := by
  refine ⟨?_, ?_, ?_, unpassed.agreed, ?_, ?_, ?_⟩
  · intro task member
    simp [unpassed.tasks] at member
  · intro task member
    simp [unpassed.tasks] at member
  · intro merchantId customerId
    simp [unpassed.tasks, Pool.tally]
  all_goals simp [unpassed.accepted]

theorem OrderedFloor.floor (ordered : OrderedFloor state.backend.db state.accepted) : FrequencyFloor state := by
  intro settings member customerId
  refine ⟨(ordered.cooled settings member customerId).imp ?_, ordered.daily settings member customerId⟩
  intro first second apart
  left
  omega

section Accept

variable {accepted : List AcceptedSend}

theorem utcMidnight_mono {first second : Date} (earlier : first ≤ second) : utcMidnight first ≤ utcMidnight second := by
  unfold utcMidnight
  have days : first / msPerDay ≤ second / msPerDay := Int.ediv_le_ediv (by decide) earlier
  exact Int.mul_le_mul_of_nonneg_right days (by decide)

theorem utcMidnight_le (now : Date) : utcMidnight now ≤ now :=
  Int.ediv_mul_le now (by decide)

private theorem merchantSettings_unique {first second : MerchantSettings} (here : first ∈ db.merchantSettings.rows)
    (there : second ∈ db.merchantSettings.rows) (same : first.merchantId = second.merchantId) : first = second :=
  db.merchantSettings.eq_of_clash here there (by simpa [Indexed.clash, Indexed.index] using same)

private theorem filter_accepted {send : AcceptedSend} (merchantId : MerchantId) (customerId : CustomerId) :
    (accepted ++ [send]).filter (AcceptedSend.about merchantId customerId) =
      accepted.filter (AcceptedSend.about merchantId customerId) ++
        if send.about merchantId customerId then [send] else [] := by
  rw [List.filter_append]
  congr 1
  cases about : send.about merchantId customerId <;> simp [about]

/-- The send of an owner keeps the floor: every earlier send of the customer is older
than the cooldown, and the day of the gate had room for one more. -/
private theorem OrderedFloor.accept (ordered : OrderedFloor db accepted) (past : gateNow ≤ now)
    (loaded : LoadedFor payload.merchantId db payload target)
    (cleared : Cleared db accepted payload target gateNow)
    (fresh : ∀ send ∈ accepted, send.about payload.merchantId target.customerId = true →
      send.messageId ≠ payload.messageId) :
    OrderedFloor db (accepted ++ [⟨payload.messageId, payload.merchantId, target.customerId, now⟩]) := by
  obtain ⟨rules, stored, owned, cooldown, daily⟩ := loaded.settings
  have ruled {settings : MerchantSettings} {customerId : CustomerId} (member : settings ∈ db.merchantSettings.rows)
      (about : (⟨payload.messageId, payload.merchantId, target.customerId, now⟩ : AcceptedSend).about
        settings.merchantId customerId = true) : settings = rules ∧ customerId = target.customerId := by
    simp only [AcceptedSend.about, Bool.and_eq_true, beq_iff_eq] at about
    exact ⟨merchantSettings_unique member stored (about.1.symm.trans owned.symm), about.2.symm⟩
  refine ⟨fun merchantId customerId => ?_, fun settings member customerId => ?_,
    fun settings member customerId day => ?_⟩
  · rw [filter_accepted, List.map_append, List.nodup_append]
    refine ⟨ordered.distinct merchantId customerId, by split <;> simp, ?_⟩
    intro id listed other appended same
    split at appended
    · rename_i about
      simp only [AcceptedSend.about, Bool.and_eq_true, beq_iff_eq] at about
      obtain ⟨send, present, rfl⟩ := List.mem_map.mp listed
      obtain ⟨stored, of⟩ := List.mem_filter.mp present
      refine fresh send stored ?_ (same.trans (List.mem_singleton.mp appended))
      rw [about.1, about.2]
      exact of
    · cases appended
  · rw [filter_accepted, List.pairwise_append]
    refine ⟨ordered.cooled settings member customerId, by split <;> simp, ?_⟩
    intro earlier listed later appended
    split at appended
    · rename_i about
      obtain ⟨rfl, rfl⟩ := ruled member about
      cases List.mem_singleton.mp appended
      obtain ⟨present, of⟩ := List.mem_filter.mp listed
      have old := cleared.older earlier present (owned ▸ of)
      rw [cooldownSince, ← cooldown] at old
      exact ((Int.add_lt_of_lt_sub_right old).trans_le past).le
    · cases appended
  · rw [filter_accepted, List.countP_append]
    have before := ordered.daily settings member customerId day
    split
    · rename_i about
      obtain ⟨rfl, rfl⟩ := ruled member about
      by_cases today : utcMidnight now = utcMidnight day
      · -- the sends of this day are no older than the gate's midnight
        have room : ((accepted.filter (AcceptedSend.about settings.merchantId target.customerId)).countP fun send =>
            utcMidnight send.start == utcMidnight day) ≤
            sendsFrom accepted payload.merchantId target.customerId (utcMidnight gateNow) := by
          rw [sendsFrom, ← owned]
          refine List.countP_mono_left fun send _ on => ?_
          have midnight := utcMidnight_mono past
          have least := utcMidnight_le send.start
          rw [beq_iff_eq.mp on, ← today] at least
          exact decide_eq_true (midnight.trans least)
        have below := cleared.below
        rw [← daily] at below
        have one : ([⟨payload.messageId, payload.merchantId, target.customerId, now⟩] : List AcceptedSend).countP
            (fun send => utcMidnight send.start == utcMidnight day) ≤ 1 := List.countP_le_length
        omega
      · simpa [today] using before
    · simpa using before

end Accept

section Passes

/-- A step that keeps the clock and accepts nothing. -/
private theorem FloorSafe.frame (context : DrainerContext) (safe : FloorSafe state) {backend : Backend} {tasks : Pool PassTask}
    (keeps : Keeps state.backend.db backend.db) (agreed : SentAgree backend.db)
    (every : ∀ Holds : PassTask → Prop, state.tasks.Every Holds →
      (∀ payload, Holds ⟨payload, .entering, processCampaignDispatchJob context payload⟩) → tasks.Every Holds)
    (fewer : ∀ merchantId customerId,
      tasks.tally (armedFor merchantId customerId) ≤ state.tasks.tally (armedFor merchantId customerId)) :
    FloorSafe { state with backend, tasks } := by
  refine ⟨every _ safe.follows fun payload => processCampaignDispatchJob_progress payload context,
    every _ ?_ fun _ => trivial, fun merchantId customerId => (fewer _ _).trans (safe.alone _ _), agreed, ?_⟩
  · intro task member
    have kept : Knows backend.db (state.accepted ++ []) state.clock task.tag task.phase :=
      (safe.knows task member).mono keeps (le_refl state.clock) (by simp)
    simpa using kept
  · exact ⟨safe.floor.distinct, keeps.settings ▸ safe.floor.cooled, keeps.settings ▸ safe.floor.daily⟩

/-- Only an armed pass sends, and it sends to the customer that it is armed for. -/
private theorem armed_of_accepted {task : PassTask} {choice : Choice} {send : AcceptedSend}
    (accepts : send ∈ acceptedBy task choice) {merchantId : MerchantId} {customerId : CustomerId}
    (about : send.about merchantId customerId = true) : armedFor merchantId customerId task = true := by
  unfold acceptedBy at accepts
  split at accepts
  · rename_i target gateNow now args phase pending
    split at accepts
    · cases List.mem_singleton.mp accepts
      simpa [armedFor, phase, Progress.armed, AcceptedSend.about] using about
    · cases accepts
  · cases accepts

/-- The accepted send of a pass is that of an owner. -/
private theorem accepted_cases {task : PassTask} (choice : Choice) {request : Call}
    (pending : task.pending? = some request) (allowed : task.phase.allows task.tag request) :
    acceptedBy task choice = [] ∨ ∃ target gateNow now, task.phase = .owner target gateNow now ∧
      acceptedBy task choice = [⟨task.tag.messageId, task.tag.merchantId, target.customerId, now⟩] := by
  unfold acceptedBy
  split
  · rename_i target gateNow now args phase sends
    split
    · refine .inr ⟨target, gateNow, now, phase, ?_⟩
      cases pending.symm.trans sends
      rw [phase] at allowed
      rw [show args.correlationId = task.tag.messageId from allowed]
    · exact .inl rfl
  · exact .inl rfl

theorem FloorSafe.act {slot : Nat} {choice : Choice} (safe : FloorSafe state)
    (settled : gateReadsSettled state (.act slot choice) = true)
    (moved : state.act slot choice = some next) : FloorSafe next := by
  unfold Passes.act at moved
  split at moved
  · cases moved
  rename_i task live
  split at moved
  swap
  · cases moved
  rename_i passed
  obtain ⟨⟨backend, after⟩, advanced, same⟩ := Option.map_eq_some_iff.mp moved
  subst same
  obtain ⟨request, answer, pending, allowed, executed, tag, phase, follows⟩ := (safe.follows.get live).advance advanced
  have keeps := exec_keeps executed
  have reads {target : DispatchContext} {gateNow : Date} {customerId : CustomerId} {since : Date}
      (timed : task.phase = .timed target gateNow)
      (read : request = .query (.countSentSince task.tag.merchantId customerId since)) :
      state.tasks.tally (armedFor task.tag.merchantId customerId) = 0 ∧
        ∀ send ∈ state.accepted, send.about task.tag.merchantId customerId = true →
          recorded state.backend.db send = true := by
    subst read
    simp only [gateReadsSettled, live, timed, pending, Bool.and_eq_true, beq_iff_eq, List.all_eq_true,
      Bool.or_eq_true, Bool.not_eq_true'] at settled
    exact ⟨settled.1, fun send member about => (settled.2 send member).resolve_left (by simp [about])⟩
  have reached : Knows state.backend.db state.accepted choice.now task.tag (task.phase.next request answer) :=
    knows_next (safe.knows.get live) passed safe.agreed safe.floor.distinct
      (fun target gateNow customerId since timed read => (reads timed read).2) allowed executed
  have apart {other : PassTask} (away : some other ∈ state.tasks.clear slot) {target : DispatchContext}
      (armed : other.phase.armed = some target) :
      ∀ send ∈ acceptedBy task choice, send.about other.tag.merchantId target.customerId = false := by
    intro send accepts
    by_contra about
    have here := armed_of_accepted accepts (Bool.not_eq_false _ ▸ about)
    have there : armedFor other.tag.merchantId target.customerId other = true := by simp [armedFor, armed]
    have rest := Pool.tally_clear live (armedFor other.tag.merchantId target.customerId)
    have some := Pool.tally_pos_iff.mpr ⟨other, away, there⟩
    have one := safe.alone other.tag.merchantId target.customerId
    simp only [here, if_true] at rest
    omega
  refine ⟨?_, ?_, ?_, ?_, ?_⟩
  · exact safe.follows.put (by rw [tag]; exact follows)
  · intro other member
    rcases Pool.mem_put member with rfl | away
    · rw [tag, phase]
      refine reached.mono keeps (le_refl _) fun target armed send accepts => ?_
      rcases accepted_cases _ pending allowed with none | ⟨owned, gateNow, now, owner, _⟩
      · rw [none] at accepts
        cases accepts
      · rw [owner, Progress.disarmed] at armed
        cases armed
    · have present : some other ∈ state.tasks := by
        rcases List.mem_or_eq_of_mem_set away with old | gone
        · exact old
        · cases gone
      exact (safe.knows other present).mono keeps passed fun target armed => apart away armed
  · intro merchantId customerId
    change (state.tasks.put slot after).tally (armedFor merchantId customerId) ≤ 1
    have put := Pool.tally_put after live (armedFor merchantId customerId)
    have one := safe.alone merchantId customerId
    by_cases armed : armedFor merchantId customerId after = true
    · have kept : armedFor merchantId customerId task = true ∨
          state.tasks.tally (armedFor merchantId customerId) = 0 := by
        simp only [armedFor, Bool.and_eq_true, beq_iff_eq, Option.any_eq_true, tag, phase] at armed
        obtain ⟨rfl, target, armed, rfl⟩ := armed
        rcases Progress.armed_next allowed armed with old | ⟨gateNow, since, timed, read⟩
        · exact .inl (by simp [armedFor, old])
        · exact .inr (reads timed read).1
      simp only [armed, if_true] at put
      rcases kept with old | none
      · simp only [old, if_true] at put
        omega
      · omega
    · simp only [armed] at put
      simp at put
      omega
  · exact safe.agreed.exec executed
  · rcases accepted_cases choice pending allowed with none | ⟨target, gateNow, now, owner, sent⟩
    · rw [none, List.append_nil]
      exact ⟨safe.floor.distinct, keeps.settings ▸ safe.floor.cooled, keeps.settings ▸ safe.floor.daily⟩
    · have knows := safe.knows.get live
      rw [owner] at knows
      obtain ⟨loaded, past, cleared, fresh⟩ := knows
      have ordered := safe.floor.accept past loaded cleared fresh
      rw [sent]
      exact ⟨ordered.distinct, keeps.settings ▸ ordered.cooled, keeps.settings ▸ ordered.daily⟩

private theorem sentAgree_draft {message : Message} {messages : Table Message} (agreed : SentAgree db)
    (draft : message.status = .draft) (inserted : db.messages.insert? message = some messages) :
    SentAgree { db with messages } := by
  intro id sent
  refine agreed id ?_
  unfold messageStatus at sent ⊢
  rw [Table.find?_insert? inserted] at sent
  cases found : db.messages.find? (·.id == id) with
  | some row => simpa [found] using sent
  | none =>
    simp only [found, Option.none_or] at sent
    split at sent
    · simp [draft] at sent
    · cases sent

theorem FloorSafe.step (settled : gateReadsSettled state label = true)
    (moved : (passes context).step state label = some next) (safe : FloorSafe state) : FloorSafe next := by
  have still {backend : Backend} (keeps : Keeps state.backend.db backend.db) (agreed : SentAgree backend.db) :
      FloorSafe { state with backend } :=
    FloorSafe.frame context safe keeps agreed (fun _ every _ => every) fun _ _ => le_refl _
  cases label with
  | start payload =>
    cases moved
    refine FloorSafe.frame context safe .refl safe.agreed
      (fun Holds every spawned => every.spawn (spawned payload)) fun merchantId customerId => ?_
    rw [Pool.tally_spawn]
    simp [armedFor, Progress.armed]
  | act slot choice => exact safe.act settled moved
  | crash slot =>
    simp only [passes, Passes.crash] at moved
    split at moved
    · cases moved
    · rename_i task live
      cases moved
      exact FloorSafe.frame context safe .refl safe.agreed (fun _ every _ => every.clear)
        fun merchantId customerId => Pool.tally_clear_le live _
  | outside db =>
    cases moved
    exact still ⟨rfl, fun _ member => member, fun _ held => held⟩ safe.agreed
  | draft message =>
    simp only [passes, Passes.draft] at moved
    split at moved
    · rename_i draft
      obtain ⟨messages, inserted, same⟩ := Option.map_eq_some_iff.mp moved
      subst same
      have kept : SentKept state.backend.db { state.backend.db with messages } :=
        ⟨rfl, fun row stored _ => by
          rw [(Table.insert?_rows inserted).1]
          exact List.mem_append_left _ stored⟩
      exact still (kept.keeps fun _ member => member) (sentAgree_draft safe.agreed draft inserted)
    · cases moved

/-- In every run whose cooldown reads find the sends of their customer recorded and no
other armed pass on it, the accepted sends keep to the frequency floor. -/
theorem frequency_floor (unpassed : Unpassed origin)
    (reach : Machine.Reach (passes context) (fun state label => gateReadsSettled state label = true) origin final) :
    FrequencyFloor final := by
  have safe : FloorSafe final := by
    apply reach.invariant (FloorSafe.start unpassed)
    intro middle label next settled moved safe
    exact safe.step settled moved
  exact safe.floor.floor

/-- `oneDraft` with a second draft for the same customer. -/
def twoDrafts : Db := { oneDraft with
  aiGenerations := ⟨[
    { id := "g", merchantId := "m", customerId := "u", triggerState := "dormant", status := .completed, createdAt := 0 },
    { id := "h", merchantId := "m", customerId := "u", triggerState := "lost", status := .completed, createdAt := 0 }],
    by decide⟩
  messages := ⟨[
    { id := "d", merchantId := "m", customerId := "u", aiGenerationId := "g", generatedText := "hello" },
    { id := "e", merchantId := "m", customerId := "u", aiGenerationId := "h", generatedText := "hello again" }],
    by decide⟩ }

def twoDraftsPasses : Passes where
  backend := { db := twoDrafts }
  clock := 0

theorem twoDrafts_unpassed : Unpassed twoDraftsPasses where
  tasks := rfl
  accepted := rfl
  agreed := by
    intro messageId sent
    obtain ⟨message, found, status⟩ := Option.map_eq_some_iff.mp sent
    obtain ⟨stored, _⟩ := Table.find?_mem found
    have drafts : ∀ message ∈ twoDrafts.messages.rows, message.status = .draft := by decide
    simp [drafts message stored] at status

def passActs (slot count : Nat) (choice : Choice) : List PassLabel := List.replicate count (.act slot choice)

/-- 10:00 UTC, eight days later. -/
def smoothLater : Choice := { smooth with now := 8 * msPerDay + 10 * msPerHour }

/-- The first draft is sent and recorded, the second is sent eight days later. -/
def sentApart : List PassLabel :=
  [.start ⟨"m", "d", "c", "u"⟩] ++ passActs 0 13 smooth ++ [.start ⟨"m", "e", "c", "u"⟩] ++ passActs 1 13 smoothLater

theorem sentApart_run :
    ((passes utcContext).runWhere gateReadsSettled twoDraftsPasses sentApart).isSome := by
  decide

def sentApartState : Passes :=
  ((passes utcContext).runWhere gateReadsSettled twoDraftsPasses sentApart).get sentApart_run

theorem frequency_floor_of_two :
    FrequencyFloor sentApartState ∧ sentApartState.accepted.length = 2 :=
  ⟨frequency_floor twoDrafts_unpassed (Machine.reach_get sentApart_run), by decide⟩

/-- The provider accepts the first draft, the process dies before the record, and the
pass of the second draft finds no send to count. -/
def crashedBetween : List PassLabel :=
  [.start ⟨"m", "d", "c", "u"⟩] ++ passActs 0 12 smooth ++ [.crash 0, .start ⟨"m", "e", "c", "u"⟩] ++
    passActs 1 13 smooth

theorem crashedBetween_run :
    ((passes utcContext).runWhere (fun _ _ => true) twoDraftsPasses crashedBetween).isSome := by
  decide

def crashedBetweenState : Passes :=
  ((passes utcContext).runWhere (fun _ _ => true) twoDraftsPasses crashedBetween).get crashedBetween_run

theorem unrecorded_send_uncounted :
    ¬∀ context origin final, Unpassed origin →
      Machine.Reach (passes context) (fun _ _ => True) origin final → FrequencyFloor final := by
  intro floor
  have reach := (Machine.reach_get crashedBetween_run).mono fun _ _ _ => trivial
  have kept := floor utcContext twoDraftsPasses crashedBetweenState twoDrafts_unpassed reach
    { merchantId := "m" } (by decide) "u"
  have violated : ¬(crashedBetweenState.accepted.filter (AcceptedSend.about "m" "u")).Pairwise (Apart 168) := by
    decide
  exact violated kept.1

end Passes

end WinBack.Dispatch
