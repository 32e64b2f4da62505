import WinBack.Campaign.Transitions
import WinBack.Library.Machine

/-! The ledger that the six target operations keep: every message records the
outcome of its target, every quota bucket counts the sends of its day, and every
send has its audit row. The law holds in every state that any interleaving of the
operations reaches from draft messages. -/

namespace WinBack.Ledger

open Library CampaignRepository

/-- One atomic repository operation on a campaign target. -/
inductive Operation where
  | claimTarget (args : ClaimTargetArgs) (createdAt : Date)
  | startSending (messageId : MessageId) (now : Date)
  | revertToPending (messageId : MessageId)
  | deferTarget (messageId : MessageId)
  | resolveTerminal (messageId : MessageId) (reason : String) (status : TerminalStatus)
  | markSentWithQuota (args : MarkSentArgs)

/-- The store after an operation that runs in the tenant scope of a merchant. -/
def Operation.apply (scope : MerchantId) (db : Db) : Operation → Db
  | .claimTarget args createdAt => (CampaignRepository.claimTarget scope args createdAt db).2
  | .startSending messageId now => (CampaignRepository.startSending scope messageId now db).2
  | .revertToPending messageId => (CampaignRepository.revertToPending scope messageId db).2
  | .deferTarget messageId => (CampaignRepository.deferTarget scope messageId db).2
  | .resolveTerminal messageId reason status =>
    (CampaignRepository.resolveTerminal scope messageId reason status db).2
  | .markSentWithQuota args => (CampaignRepository.markSentWithQuota scope args db).2

def machine : Machine Db (MerchantId × Operation) where
  step db label := some (label.2.apply label.1 db)

/-- A claim names a message of its own merchant, as the pickup query selects it. -/
def ClaimsOwnMessage (db : Db) : MerchantId × Operation → Prop
  | (_, .claimTarget args _) =>
    ∃ message ∈ db.messages.rows, message.id = args.messageId ∧ message.merchantId = args.merchantId
  | _ => True

/-- Targets of a merchant sent on the UTC day of `now`. -/
def sentOn (merchantId : MerchantId) (now : Date) (target : CampaignTarget) : Bool :=
  target.merchantId == merchantId && target.status == .sent &&
    target.sentAt.any fun sentAt => utcMidnight sentAt == utcMidnight now

def isSentAudit (messageId : MessageId) (row : AuditLog) : Bool :=
  row.action == "dispatch.sent" && row.targetType == some "campaign_target" &&
    row.targetId == some messageId

def sentAudits (db : Db) (messageId : MessageId) : Nat := db.auditLogs.countP (isSentAudit messageId)

/-- A target and its message carry the same merchant. -/
def Owned (targets : Table CampaignTarget) (messages : Table Message) : Prop :=
  ∀ target ∈ targets.rows, ∀ message ∈ messages.rows,
    message.id = target.messageId → message.merchantId = target.merchantId

/-- The ledger invariant. -/
structure Balanced (db : Db) : Prop where
  records : ∀ message ∈ db.messages.rows, message.status = recordOf (targetStatus db message.id)
  owned : Owned db.campaignTargets db.messages
  quota : ∀ merchantId now,
    daySentCount db merchantId now = db.campaignTargets.count (sentOn merchantId now)
  audits : ∀ messageId,
    sentAudits db messageId = if targetStatus db messageId = some .sent then 1 else 0

/-- Draft messages, no claim yet, nothing sent. -/
structure Start (db : Db) : Prop where
  drafts : ∀ message ∈ db.messages.rows, message.status = .draft
  unclaimed : db.campaignTargets.rows = []
  unspent : ∀ bucket ∈ db.messageQuotaBuckets.rows, bucket.sentCount = 0
  unaudited : ∀ row ∈ db.auditLogs, row.action ≠ "dispatch.sent"

theorem Start.balanced {db : Db} (start : Start db) : Balanced db := by
  have absent (messageId : MessageId) : targetStatus db messageId = none := by
    simp [targetStatus_eq_none_iff, start.unclaimed]
  refine ⟨?_, ?_, ?_, ?_⟩
  · intro message member
    rw [absent, start.drafts message member]
    rfl
  · intro target member
    simp [start.unclaimed] at member
  · intro merchantId now
    have none : db.campaignTargets.count (sentOn merchantId now) = 0 := by
      simp [Table.count, start.unclaimed]
    rw [none, daySentCount]
    cases found : db.messageQuotaBuckets.find? fun row =>
        row.merchantId == merchantId && row.date == utcMidnight now with
    | none => rfl
    | some bucket => exact start.unspent bucket (Table.find?_mem found).1
  · intro messageId
    have none : sentAudits db messageId = 0 := by
      rw [sentAudits, List.countP_eq_zero]
      intro row member
      simp [isSentAudit, start.unaudited row member]
    rw [none, absent]
    rfl

section Buckets

variable {buckets : Table MessageQuotaBucket} {merchantId other : MerchantId} {date day : Date}

def bucketCount (buckets : Table MessageQuotaBucket) (merchantId : MerchantId) (date : Date) : Nat :=
  ((buckets.find? (bucketFilter merchantId date)).map (·.sentCount)).getD 0

theorem bucketCount_ensureBucket :
    bucketCount (ensureBucket merchantId date buckets) other day = bucketCount buckets other day := by
  unfold ensureBucket
  cases inserted : buckets.insert? { merchantId, date } with
  | none => rfl
  | some next =>
    simp only [Option.getD_some, bucketCount, Table.find?_insert? inserted]
    cases buckets.find? (bucketFilter other day) with
    | none =>
      simp only [Option.none_or]
      split <;> rfl
    | some row => rfl

theorem ensureBucket_present :
    ∃ row ∈ (ensureBucket merchantId date buckets).rows, bucketFilter merchantId date row = true := by
  unfold ensureBucket
  cases inserted : buckets.insert? { merchantId, date } with
  | none =>
    obtain ⟨row, member, clash⟩ := Table.insert?_none inserted
    exact ⟨row, member, by simpa [Indexed.clash, Indexed.index, bucketFilter] using clash⟩
  | some next =>
    refine ⟨{ merchantId, date }, ?_, by simp [bucketFilter]⟩
    simp [(Table.insert?_rows inserted).1]

theorem bucketCount_increment
    (present : ∃ row ∈ buckets.rows, bucketFilter merchantId date row = true) :
    bucketCount (buckets.updateMany (bucketFilter merchantId date)
        (fun row => { row with sentCount := row.sentCount + 1 }) (fun _ => rfl)) other day =
      bucketCount buckets other day + if other = merchantId ∧ day = date then 1 else 0 := by
  unfold bucketCount
  rw [Table.find?_updateMany (by simp [bucketFilter])]
  cases found : buckets.find? (bucketFilter other day) with
  | none =>
    have elsewhere : ¬(other = merchantId ∧ day = date) := by
      rintro ⟨rfl, rfl⟩
      obtain ⟨row, member, holds⟩ := present
      rw [Table.find?_none_iff] at found
      simp [found row member] at holds
    simp [elsewhere]
  | some row =>
    have holds := (Table.find?_mem found).2
    simp only [bucketFilter, Bool.and_eq_true, beq_iff_eq] at holds
    obtain ⟨rfl, rfl⟩ := holds
    simp only [Option.map_some, bucketFilter, Bool.and_eq_true, beq_iff_eq, Option.getD_some]
    split <;> simp

end Buckets

section Updates

variable {db after : Db} {scope : MerchantId} {messageId : MessageId} {now : Date}
  {statuses : List CampaignTargetStatus} {status : CampaignTargetStatus}
  {changeTarget : CampaignTarget → CampaignTarget} {changeMessage : Message → Message}
  {keepsTarget : ∀ row, Indexed.index (changeTarget row) = Indexed.index row}
  {keepsMessage : ∀ row, Indexed.index (changeMessage row) = Indexed.index row}

private theorem id_of_index {message : Message} (keeps : Indexed.index (changeMessage message) = Indexed.index message) :
    (changeMessage message).id = message.id := congrArg Prod.fst keeps

theorem Owned.targets {targets : Table CampaignTarget} {messages : Table Message}
    {matched : CampaignTarget → Bool} (owned : Owned targets messages)
    (keepsTarget : ∀ row, Indexed.index (changeTarget row) = Indexed.index row)
    (keepsMerchant : ∀ row, (changeTarget row).merchantId = row.merchantId) :
    Owned (targets.updateMany matched changeTarget keepsTarget) messages := by
  intro target targetMember message messageMember same
  obtain ⟨old, oldMember, rfl⟩ := List.mem_map.mp targetMember
  have named : (changeTarget old).messageId = old.messageId := keepsTarget old
  by_cases hit : matched old = true
  · rw [if_pos hit] at same ⊢
    rw [keepsMerchant]
    exact owned old oldMember message messageMember (same.trans named)
  · rw [if_neg hit] at same ⊢
    exact owned old oldMember message messageMember same

theorem Owned.messages {targets : Table CampaignTarget} {messages : Table Message}
    {matched : Message → Bool} (owned : Owned targets messages)
    (keepsMessage : ∀ row, Indexed.index (changeMessage row) = Indexed.index row)
    (keepsMerchant : ∀ row, (changeMessage row).merchantId = row.merchantId) :
    Owned targets (messages.updateMany matched changeMessage keepsMessage) := by
  intro target targetMember message messageMember same
  obtain ⟨old, oldMember, rfl⟩ := List.mem_map.mp messageMember
  have named := id_of_index (keepsMessage old)
  by_cases hit : matched old = true
  · rw [if_pos hit] at same ⊢
    rw [keepsMerchant]
    exact owned target targetMember old oldMember (named.symm.trans same)
  · rw [if_neg hit] at same ⊢
    exact owned target targetMember old oldMember same

/-- Writes outside `sent` leave the sends of every day alone. -/
theorem count_sentOn_of_open {targets : Table CampaignTarget}
    (keepsTarget : ∀ row, Indexed.index (changeTarget row) = Indexed.index row) (unsent : .sent ∉ statuses)
    (sets : ∀ target, (changeTarget target).status ≠ .sent) (merchantId : MerchantId) :
    (targets.updateMany (targetFilter scope messageId statuses) changeTarget keepsTarget).count
        (sentOn merchantId now) = targets.count (sentOn merchantId now) := by
  apply Table.count_updateMany_eq
  intro target matched
  have before : target.status ≠ .sent := by
    intro sent
    exact unsent (sent ▸ (targetFilter_iff.mp matched).2.1)
  simp [sentOn, beq_eq_false_iff_ne.mpr before, beq_eq_false_iff_ne.mpr (sets target)]

/-- A move between statuses that record alike needs no message write. -/
theorem records_of_moves (balanced : Balanced db) (moves : Moves scope messageId statuses status db after)
    (alike : ∀ old ∈ statuses, recordOf (some old) = recordOf (some status)) :
    ∀ message ∈ db.messages.rows, message.status = recordOf (targetStatus after message.id) := by
  intro message member
  rw [balanced.records message member, moves.statuses]
  by_cases same : message.id = messageId
  · obtain ⟨old, expected, before⟩ := moves.before
    rw [same, before, Function.update_self]
    exact alike old expected
  · rw [Function.update_of_ne same]

/-- A move out of the open statuses takes the draft of its message along. -/
theorem records_of_terminal (keepsMessage : ∀ row, Indexed.index (changeMessage row) = Indexed.index row)
    (balanced : Balanced db) (moves : Moves scope messageId statuses status db after)
    (opens : ∀ old ∈ statuses, recordOf (some old) = .draft)
    (records : ∀ message, (changeMessage message).status = recordOf (some status)) :
    ∀ message ∈ (db.messages.updateMany (draftFilter scope messageId) changeMessage keepsMessage).rows,
      message.status = recordOf (targetStatus after message.id) := by
  intro message member
  obtain ⟨old, oldMember, rfl⟩ := List.mem_map.mp member
  have oldRecord := balanced.records old oldMember
  by_cases same : old.id = messageId
  · obtain ⟨target, targetMember, named, expected, owner⟩ := moves.held
    have held : targetStatus db messageId = some target.status := named ▸ targetStatus_of_mem targetMember
    have draft : old.status = .draft := by
      rw [oldRecord, same, held]
      exact opens target.status expected
    have merchant : old.merchantId = scope :=
      owner ▸ balanced.owned target targetMember old oldMember (same.trans named.symm)
    have matched : draftFilter scope messageId old = true := draftFilter_iff.mpr ⟨same, draft, merchant⟩
    rw [if_pos matched, id_of_index (keepsMessage old), same, moves.reached]
    exact records old
  · have missed : draftFilter scope messageId old = false := by
      rw [Bool.eq_false_iff]
      intro matched
      exact same (draftFilter_iff.mp matched).1
    rw [missed, if_neg (by simp), moves.statuses, Function.update_of_ne same]
    exact oldRecord

theorem audits_of_moves (balanced : Balanced db) (moves : Moves scope messageId statuses status db after)
    (unsent : .sent ∉ statuses) (other : status ≠ .sent) (logs : after.auditLogs = db.auditLogs) :
    ∀ id, sentAudits after id = if targetStatus after id = some .sent then 1 else 0 := by
  intro id
  rw [sentAudits, logs, moves.statuses]
  have before := balanced.audits id
  rw [sentAudits] at before
  by_cases same : id = messageId
  · obtain ⟨old, expected, held⟩ := moves.before
    have quiet : targetStatus db id ≠ some .sent := by
      rw [same, held]
      intro sent
      exact unsent (Option.some.inj sent ▸ expected)
    rw [before, if_neg quiet, same, Function.update_self, if_neg (by simpa using other)]
  · rw [before, Function.update_of_ne same]

/-- A guarded write between the open statuses keeps the ledger. -/
theorem Balanced.rewrite (balanced : Balanced db)
    (moves : Moves scope messageId statuses status db after)
    (written : after = { db with
      campaignTargets :=
        db.campaignTargets.updateMany (targetFilter scope messageId statuses) changeTarget keepsTarget })
    (alike : ∀ old ∈ statuses, recordOf (some old) = recordOf (some status)) (unsent : .sent ∉ statuses)
    (sets : ∀ target, (changeTarget target).status ≠ .sent)
    (keepsMerchant : ∀ target, (changeTarget target).merchantId = target.merchantId) :
    Balanced after := by
  have other : status ≠ .sent := by
    rintro rfl
    obtain ⟨old, expected, _⟩ := moves.before
    have sent := alike old expected
    cases old <;> simp_all [recordOf]
  have records := records_of_moves balanced moves alike
  have audits := audits_of_moves balanced moves unsent other (by rw [written])
  subst written
  refine ⟨records, balanced.owned.targets keepsTarget keepsMerchant, ?_, audits⟩
  intro merchantId day
  exact (balanced.quota merchantId day).trans (count_sentOn_of_open keepsTarget unsent sets merchantId).symm

/-- The completion adds one send to its day, in the bucket and among the targets. -/
theorem quota_of_completion (balanced : Balanced db)
    (sending : db.campaignTargets.count (targetFilter scope messageId [.sending]) ≠ 0)
    (merchantId : MerchantId) (day : Date) :
    bucketCount ((ensureBucket scope (utcMidnight now) db.messageQuotaBuckets).updateMany
        (bucketFilter scope (utcMidnight now))
        (fun row => { row with sentCount := row.sentCount + 1 }) (fun _ => rfl))
        merchantId (utcMidnight day) =
      (db.campaignTargets.updateMany (targetFilter scope messageId [.sending])
        (fun target => { target with status := .sent, sentAt := some now }) (fun _ => rfl)).count
        (sentOn merchantId day) := by
  have quota : bucketCount db.messageQuotaBuckets merchantId (utcMidnight day) =
      db.campaignTargets.count (sentOn merchantId day) := balanced.quota merchantId day
  have one : db.campaignTargets.count (targetFilter scope messageId [.sending]) = 1 := by
    have most : db.campaignTargets.count (targetFilter scope messageId [.sending]) ≤ 1 := by
      apply Table.count_le_one
      intro first second here there
      exact clash_of_messageId ((targetFilter_iff.mp here).1.trans (targetFilter_iff.mp there).1.symm)
    omega
  have unsent : db.campaignTargets.count (fun target =>
      sentOn merchantId day target && !targetFilter scope messageId [.sending] target) =
      db.campaignTargets.count (sentOn merchantId day) := by
    apply List.countP_congr
    intro target _
    cases matched : targetFilter scope messageId [.sending] target with
    | false => simp
    | true =>
      have sending := (targetFilter_iff.mp matched).2.1
      simp [sentOn, List.mem_singleton.mp sending]
  have fresh : db.campaignTargets.count (fun target =>
      targetFilter scope messageId [.sending] target &&
        sentOn merchantId day { target with status := .sent, sentAt := some now }) =
      if merchantId = scope ∧ utcMidnight day = utcMidnight now then 1 else 0 := by
    by_cases here : merchantId = scope ∧ utcMidnight day = utcMidnight now
    · rw [if_pos here, ← one]
      apply List.countP_congr
      intro target _
      simp [sentOn, targetFilter, here.1, here.2]
    · rw [if_neg here, Table.count, List.countP_eq_zero]
      intro target _ holds
      simp only [targetFilter, sentOn, Option.any_some, Bool.and_eq_true, beq_iff_eq] at holds
      exact here ⟨by rw [← holds.2.1.1, holds.1.2], holds.2.2.symm⟩
  rw [bucketCount_increment ensureBucket_present, bucketCount_ensureBucket, quota,
    Table.count_updateMany, unsent, fresh]

/-- The completion appends the one audit row of its message. -/
theorem audits_of_completion {args : MarkSentArgs} (balanced : Balanced db)
    (moves : Moves scope args.messageId [.sending] .sent db after)
    (logs : after.auditLogs = db.auditLogs ++ [sentAudit args]) (id : MessageId) :
    sentAudits after id = if targetStatus after id = some .sent then 1 else 0 := by
  have before := balanced.audits id
  rw [sentAudits] at before
  rw [sentAudits, logs, List.countP_append, before, moves.statuses]
  by_cases same : id = args.messageId
  · obtain ⟨old, expected, held⟩ := moves.before
    rw [List.mem_singleton.mp expected] at held
    simp [same, held, isSentAudit, sentAudit]
  · simp [same, Ne.symm same, isSentAudit, sentAudit]

end Updates

section Steps

variable {db : Db} {scope : MerchantId} (balanced : Balanced db)
include balanced

theorem Balanced.claimTarget (args : ClaimTargetArgs) (createdAt : Date)
    (own : ∃ message ∈ db.messages.rows,
      message.id = args.messageId ∧ message.merchantId = args.merchantId) :
    Balanced (CampaignRepository.claimTarget scope args createdAt db).2 := by
  rcases claimTarget_cases scope args createdAt db with
    ⟨targets, inserted, result, _, absent, statuses, _⟩ | ⟨same, _⟩
  · rw [result]
    have pending : recordOf (some .pending) = recordOf none := rfl
    refine ⟨?_, ?_, ?_, ?_⟩
    · intro message member
      rw [balanced.records message member, statuses]
      by_cases same : message.id = args.messageId
      · rw [same, absent, Function.update_self, pending]
      · rw [Function.update_of_ne same]
    · intro target targetMember message messageMember same
      rw [(Table.insert?_rows inserted).1] at targetMember
      rcases List.mem_append.mp targetMember with old | fresh
      · exact balanced.owned target old message messageMember same
      · cases List.mem_singleton.mp fresh
        obtain ⟨owned, member, named, merchant⟩ := own
        rw [message_unique messageMember member (same.trans named.symm)]
        exact merchant
    · intro merchantId now
      change daySentCount db merchantId now = targets.count (sentOn merchantId now)
      rw [balanced.quota, Table.count_insert? inserted]
      simp [sentOn]
    · intro id
      have before := balanced.audits id
      rw [statuses]
      by_cases same : id = args.messageId
      · rw [same, absent] at before
        rw [same, Function.update_self]
        exact before
      · rw [Function.update_of_ne same]
        exact before
  · rw [same]
    exact balanced

theorem Balanced.startSending (messageId : MessageId) (now : Date) :
    Balanced (CampaignRepository.startSending scope messageId now db).2 := by
  cases startSending_cases scope messageId now db with
  | hit reported moves =>
    exact balanced.rewrite moves rfl (by simp [recordOf]) (by decide) (by simp) fun _ => rfl
  | missed same missed => exact same ▸ balanced

theorem Balanced.revertToPending (messageId : MessageId) :
    Balanced (CampaignRepository.revertToPending scope messageId db).2 := by
  cases revertToPending_cases scope messageId db with
  | hit reported moves =>
    exact balanced.rewrite moves rfl (by simp [recordOf]) (by decide) (by simp) fun _ => rfl
  | missed same missed => exact same ▸ balanced

theorem Balanced.deferTarget (messageId : MessageId) :
    Balanced (CampaignRepository.deferTarget scope messageId db).2 := by
  cases deferTarget_cases scope messageId db with
  | hit reported moves =>
    exact balanced.rewrite moves rfl (by simp [recordOf]) (by decide) (by simp) fun _ => rfl
  | missed same missed => exact same ▸ balanced

theorem Balanced.resolveTerminal (messageId : MessageId) (reason : String) (status : TerminalStatus) :
    Balanced (CampaignRepository.resolveTerminal scope messageId reason status db).2 := by
  have unsent : status.target ≠ .sent := by cases status <;> decide
  cases resolveTerminal_cases scope messageId reason status db with
  | hit hit moves =>
    revert hit moves
    unfold CampaignRepository.resolveTerminal
    dsimp only
    split
    · simp
    · intro _ moves
      refine ⟨records_of_terminal (by intro; rfl) balanced moves (by simp [recordOf]) ?_, ?_, ?_,
        audits_of_moves balanced moves (by decide) unsent rfl⟩
      · cases status <;> simp [recordOf, TerminalStatus.message, TerminalStatus.target]
      · refine Owned.messages (Owned.targets balanced.owned ?_ ?_) ?_ ?_ <;> exact fun _ => rfl
      · intro merchantId day
        refine (balanced.quota merchantId day).trans (count_sentOn_of_open ?_ ?_ ?_ merchantId).symm
        · exact fun _ => rfl
        · decide
        · exact fun _ => unsent
  | missed same missed => exact same ▸ balanced

theorem Balanced.markSentWithQuota (args : MarkSentArgs) :
    Balanced (CampaignRepository.markSentWithQuota scope args db).2 := by
  rcases markSentWithQuota_cases scope args db with ⟨hit, moves, agreed, _⟩ | ⟨missed, _⟩
  · revert hit moves
    unfold CampaignRepository.markSentWithQuota
    dsimp only
    split
    · simp
    · rename_i sending
      split
      · simp
      · intro _ moves
        subst agreed
        refine ⟨records_of_terminal (by intro; rfl) balanced moves (by simp [recordOf]) ?_, ?_, ?_, ?_⟩
        · exact fun _ => rfl
        · refine Owned.messages (Owned.targets balanced.owned ?_ ?_) ?_ ?_ <;> exact fun _ => rfl
        · intro merchantId day
          exact quota_of_completion balanced sending merchantId day
        · exact audits_of_completion balanced moves rfl
  · rw [missed]
    exact balanced

theorem Balanced.apply (operation : Operation) (own : ClaimsOwnMessage db (scope, operation)) :
    Balanced (operation.apply scope db) := by
  cases operation with
  | claimTarget args createdAt => exact balanced.claimTarget args createdAt own
  | startSending messageId now => exact balanced.startSending messageId now
  | revertToPending messageId => exact balanced.revertToPending messageId
  | deferTarget messageId => exact balanced.deferTarget messageId
  | resolveTerminal messageId reason status => exact balanced.resolveTerminal messageId reason status
  | markSentWithQuota args => exact balanced.markSentWithQuota args

end Steps

/-- A target in a terminal status has left the pipeline. -/
def Terminal (status : CampaignTargetStatus) : Prop :=
  status = .sent ∨ status = .suppressed ∨ status = .failed

private theorem keeps_terminal_of_moves {db after : Db} {scope : MerchantId} {moved messageId : MessageId}
    {statuses : List CampaignTargetStatus} {status reached : CampaignTargetStatus}
    (moves : Moves scope moved statuses reached db after) (opens : ∀ old ∈ statuses, ¬Terminal old)
    (terminal : Terminal status) (held : targetStatus db messageId = some status) :
    targetStatus after messageId = some status := by
  have elsewhere : messageId ≠ moved := by
    rintro rfl
    obtain ⟨old, expected, before⟩ := moves.before
    exact opens old expected (Option.some.inj (before.symm.trans held) ▸ terminal)
  rw [moves.statuses, Function.update_of_ne elsewhere, held]

/-- No operation moves a terminal target. -/
theorem Operation.keeps_terminal (operation : Operation) (scope : MerchantId) {db : Db}
    {messageId : MessageId} {status : CampaignTargetStatus} (terminal : Terminal status)
    (held : targetStatus db messageId = some status) :
    targetStatus (operation.apply scope db) messageId = some status := by
  cases operation with
  | claimTarget args createdAt =>
    simp only [Operation.apply]
    rcases CampaignRepository.claimTarget_cases scope args createdAt db with
      ⟨targets, _, result, _, absent, statuses, _⟩ | ⟨same, _⟩
    · have elsewhere : messageId ≠ args.messageId := by
        rintro rfl
        simp [absent] at held
      rw [result, statuses, Function.update_of_ne elsewhere, held]
    · rw [same, held]
  | startSending moved now =>
    simp only [Operation.apply]
    cases startSending_cases scope moved now db with
    | hit reported moves => exact keeps_terminal_of_moves moves (by simp [Terminal]) terminal held
    | missed same missed => exact same ▸ held
  | revertToPending moved =>
    simp only [Operation.apply]
    cases revertToPending_cases scope moved db with
    | hit reported moves => exact keeps_terminal_of_moves moves (by simp [Terminal]) terminal held
    | missed same missed => exact same ▸ held
  | deferTarget moved =>
    simp only [Operation.apply]
    cases deferTarget_cases scope moved db with
    | hit reported moves => exact keeps_terminal_of_moves moves (by simp [Terminal]) terminal held
    | missed same missed => exact same ▸ held
  | resolveTerminal moved reason reached =>
    simp only [Operation.apply]
    cases resolveTerminal_cases scope moved reason reached db with
    | hit reported moves => exact keeps_terminal_of_moves moves (by simp [Terminal]) terminal held
    | missed same missed => exact same ▸ held
  | markSentWithQuota args =>
    simp only [Operation.apply]
    rcases markSentWithQuota_cases scope args db with ⟨_, moves, _⟩ | ⟨missed, _⟩
    · exact keeps_terminal_of_moves moves (by simp [Terminal]) terminal held
    · rw [missed, held]

variable {origin final later : Db}

theorem balanced_of_reach (start : Balanced origin) (reach : Machine.Reach machine ClaimsOwnMessage origin final) :
    Balanced final := by
  refine reach.invariant start ?_
  intro middle label next own moved balanced
  cases Option.some.inj moved
  exact balanced.apply label.2 own

theorem terminal_of_reach (reach : Machine.Reach machine ClaimsOwnMessage origin final) {messageId : MessageId}
    {status : CampaignTargetStatus} (terminal : Terminal status)
    (held : targetStatus origin messageId = some status) :
    targetStatus final messageId = some status := by
  apply reach.invariant held
  intro middle label next _ moved held
  cases Option.some.inj moved
  exact label.2.keeps_terminal label.1 terminal held

/-- What the ledger promises about a state of a run. -/
structure LedgerLaw (db : Db) : Prop where
  agree : ∀ target ∈ db.campaignTargets.rows, ∀ message ∈ db.messages.rows,
    message.id = target.messageId →
      (target.status = .pending ∨ target.status = .deferred ∨ target.status = .sending →
        message.status = .draft) ∧
      (target.status = .sent ↔ message.status = .sent) ∧
      (target.status = .suppressed ↔ message.status = .suppressed) ∧
      (target.status = .failed ↔ message.status = .failed)
  absorbing : ∀ target ∈ db.campaignTargets.rows, Terminal target.status →
    ∀ later, Machine.Reach machine ClaimsOwnMessage db later →
      targetStatus later target.messageId = some target.status
  quota : ∀ merchantId now,
    daySentCount db merchantId now = db.campaignTargets.count (sentOn merchantId now)
  audited : ∀ target ∈ db.campaignTargets.rows,
    sentAudits db target.messageId = if target.status = .sent then 1 else 0

/-- The ledger law holds in every state of every run from draft messages. -/
theorem ledger_of_reach (start : Start origin)
    (reach : Machine.Reach machine ClaimsOwnMessage origin final) : LedgerLaw final := by
  have balanced := balanced_of_reach start.balanced reach
  refine ⟨?_, ?_, balanced.quota, ?_⟩
  · intro target targetMember message messageMember same
    have record := balanced.records message messageMember
    rw [same, targetStatus_of_mem targetMember] at record
    rw [record]
    cases target.status <;> simp [recordOf]
  · intro target member terminal later further
    exact terminal_of_reach further terminal (targetStatus_of_mem member)
  · intro target member
    rw [balanced.audits, targetStatus_of_mem member]
    simp

/-- The completion of the draft of `oneDraft`. -/
def sentArgs : MarkSentArgs := ⟨"d", "m", "m.myshopify.com", "c", "u", "ses-1", 0⟩

def sentDraft : Db :=
  [.claimTarget ⟨"m", "c", "d", "u"⟩ 0, .startSending "d" 0, .markSentWithQuota sentArgs].foldl
    (Operation.apply "m") oneDraft

theorem ledger_of_sent_draft : LedgerLaw sentDraft ∧ daySentCount sentDraft "m" 0 = 1 :=
  ⟨ledger_of_reach ⟨by decide, rfl, by decide, by decide⟩
    (((Machine.Reach.origin.extend ("m", .claimTarget ⟨"m", "c", "d", "u"⟩ 0)
      ⟨_, List.mem_singleton.mpr rfl, rfl, rfl⟩ rfl).extend
        ("m", .startSending "d" 0) trivial rfl).extend
          ("m", .markSentWithQuota sentArgs) trivial rfl),
    by decide⟩

end WinBack.Ledger
