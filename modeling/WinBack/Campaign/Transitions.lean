import WinBack.Campaign.Repository
import Mathlib.Logic.Function.Basic

/-! What each repository write can do to the status of a target. Every guarded
write either misses and leaves the store alone, or moves the one target of its
message from an expected status to its own. -/

namespace WinBack.CampaignRepository

open Library

variable {db after : Db} {scope : MerchantId} {messageId : MessageId} {now : Date}
  {statuses : List CampaignTargetStatus} {status : CampaignTargetStatus}

theorem targetFilter_iff {target : CampaignTarget} :
    targetFilter scope messageId statuses target = true ↔
      target.messageId = messageId ∧ target.status ∈ statuses ∧ target.merchantId = scope := by
  simp [targetFilter, and_assoc]

theorem draftFilter_iff {message : Message} :
    draftFilter scope messageId message = true ↔
      message.id = messageId ∧ message.status = .draft ∧ message.merchantId = scope := by
  simp [draftFilter, and_assoc]

theorem clash_of_messageId {first second : CampaignTarget} (same : first.messageId = second.messageId) :
    Indexed.clash (Indexed.index first) (Indexed.index second) = true := by
  simpa [Indexed.clash, Indexed.index] using same

theorem clash_of_id {first second : Message} (same : first.id = second.id) :
    Indexed.clash (Indexed.index first) (Indexed.index second) = true := by
  simp [Indexed.clash, Indexed.index, same]

theorem targetStatus_eq_some_iff :
    targetStatus db messageId = some status ↔
      ∃ target ∈ db.campaignTargets.rows, target.messageId = messageId ∧ target.status = status := by
  simp only [targetStatus, Option.map_eq_some_iff]
  constructor
  · rintro ⟨target, found, same⟩
    obtain ⟨member, holds⟩ := Table.find?_mem found
    exact ⟨target, member, by simpa using holds, same⟩
  · rintro ⟨target, member, named, same⟩
    refine ⟨target, ?_, same⟩
    rw [Table.find?_eq_some_iff]
    · exact ⟨member, by simpa using named⟩
    · intro first second here there
      exact clash_of_messageId (by simp_all)

theorem targetStatus_of_mem {target : CampaignTarget} (member : target ∈ db.campaignTargets.rows) :
    targetStatus db target.messageId = some target.status :=
  targetStatus_eq_some_iff.mpr ⟨target, member, rfl, rfl⟩

theorem targetStatus_eq_none_iff :
    targetStatus db messageId = none ↔
      ∀ target ∈ db.campaignTargets.rows, target.messageId ≠ messageId := by
  simp [targetStatus, Table.find?_none_iff]

/-- The target of a message is unique. -/
theorem target_unique {first second : CampaignTarget} (here : first ∈ db.campaignTargets.rows)
    (there : second ∈ db.campaignTargets.rows) (same : first.messageId = second.messageId) :
    first = second :=
  db.campaignTargets.eq_of_clash here there (clash_of_messageId same)

theorem message_unique {first second : Message} (here : first ∈ db.messages.rows)
    (there : second ∈ db.messages.rows) (same : first.id = second.id) : first = second :=
  db.messages.eq_of_clash here there (clash_of_id same)

/-- What the message of a target records; `none` is a message without a target. -/
def recordOf : Option CampaignTargetStatus → MessageStatus
  | none | some .pending | some .deferred | some .sending => .draft
  | some .sent => .sent
  | some .suppressed => .suppressed
  | some .failed => .failed

/-- The messages follow the move of one target: its message keeps its status or
records the outcome, and no other message changes. -/
structure MessagesFollow (messageId : MessageId) (status : CampaignTargetStatus) (db after : Db) : Prop where
  statuses : ∀ other, messageStatus after other = messageStatus db other ∨
    other = messageId ∧ messageStatus after other = some (recordOf (some status))
  merchants : messageMerchant after = messageMerchant db

theorem messagesFollow_of_eq (same : after.messages = db.messages) :
    MessagesFollow messageId status db after := by
  refine ⟨fun other => .inl ?_, ?_⟩
  · simp [messageStatus, same]
  · funext other
    simp [messageMerchant, same]

/-- The draft write of a terminal outcome follows the target. -/
private theorem messagesFollow_of_update {change : Message → Message}
    (keeps : ∀ row, Indexed.index (change row) = Indexed.index row)
    (written : after.messages = db.messages.updateMany (draftFilter scope messageId) change keeps)
    (records : ∀ message, (change message).status = recordOf (some status))
    (owners : ∀ message, (change message).merchantId = message.merchantId) :
    MessagesFollow messageId status db after := by
  have named (row : Message) : (change row).id = row.id := congrArg Prod.fst (keeps row)
  refine ⟨fun other => ?_, funext fun other => ?_⟩
  · unfold messageStatus
    rw [written, Table.find?_updateMany (by simp [named])]
    cases found : db.messages.find? (·.id == other) with
    | none => exact .inl rfl
    | some row =>
      have lookup : row.id = other := by simpa using (Table.find?_mem found).2
      by_cases matched : draftFilter scope messageId row = true
      · refine .inr ⟨lookup ▸ (draftFilter_iff.mp matched).1, ?_⟩
        simp [matched, records]
      · simp [matched]
  · unfold messageMerchant
    rw [written, Table.find?_updateMany (by simp [named])]
    cases db.messages.find? (·.id == other) with
    | none => rfl
    | some row =>
      simp only [Option.map_some]
      split
      · rw [owners]
      · rfl

/-- A guarded write hit: the target of `messageId`, owned by `scope`, had one of
the expected statuses and took `status`; no other status and no owner changed. -/
structure Moves (scope : MerchantId) (messageId : MessageId) (statuses : List CampaignTargetStatus)
    (status : CampaignTargetStatus) (db after : Db) : Prop where
  held : ∃ target ∈ db.campaignTargets.rows,
    target.messageId = messageId ∧ target.status ∈ statuses ∧ target.merchantId = scope
  statuses : targetStatus after = Function.update (targetStatus db) messageId (some status)
  merchants : targetMerchant after = targetMerchant db
  messages : MessagesFollow messageId status db after

/-- A guarded write missed: the target of `messageId` that `scope` owns, if there
is one, had none of the expected statuses. -/
def Missed (scope : MerchantId) (messageId : MessageId) (statuses : List CampaignTargetStatus)
    (db : Db) : Prop :=
  ∀ target ∈ db.campaignTargets.rows, target.messageId = messageId → target.merchantId = scope →
    target.status ∉ statuses

/-- The two results of a guarded write. -/
inductive Guarded (scope : MerchantId) (messageId : MessageId) (statuses : List CampaignTargetStatus)
    (status : CampaignTargetStatus) (db : Db) (write : Bool × Db) : Prop where
  | hit (reported : write.1 = true) (moves : Moves scope messageId statuses status db write.2)
  | missed (same : write = (false, db)) (missed : Missed scope messageId statuses db)

theorem Moves.before (moves : Moves scope messageId statuses status db after) :
    ∃ old ∈ statuses, targetStatus db messageId = some old := by
  obtain ⟨target, member, named, expected, _⟩ := moves.held
  exact ⟨target.status, expected, named ▸ targetStatus_of_mem member⟩

theorem Moves.reached (moves : Moves scope messageId statuses status db after) :
    targetStatus after messageId = some status := by
  rw [moves.statuses, Function.update_self]

theorem Moves.elsewhere (moves : Moves scope messageId statuses status db after) {other : MessageId}
    (apart : other ≠ messageId) : targetStatus after other = targetStatus db other := by
  rw [moves.statuses, Function.update_of_ne apart]

theorem missed_of_count (none : db.campaignTargets.count (targetFilter scope messageId statuses) = 0) :
    Missed scope messageId statuses db := by
  intro target member named owned expected
  rw [Table.count, List.countP_eq_zero] at none
  exact none target member (targetFilter_iff.mpr ⟨named, expected, owned⟩)

/-- An update that keeps the message ids and owners keeps every owner. -/
private theorem merchants_of_update {matched : CampaignTarget → Bool}
    {change : CampaignTarget → CampaignTarget}
    (keeps : ∀ row, Indexed.index (change row) = Indexed.index row)
    (owners : ∀ target, (change target).merchantId = target.merchantId)
    (written : after.campaignTargets = db.campaignTargets.updateMany matched change keeps) :
    targetMerchant after = targetMerchant db := by
  funext other
  have named (row : CampaignTarget) : (change row).messageId = row.messageId := keeps row
  unfold targetMerchant
  rw [written, Table.find?_updateMany (by simp [named])]
  cases db.campaignTargets.find? (·.messageId == other) with
  | none => rfl
  | some row =>
    simp only [Option.map_some]
    split
    · rw [owners]
    · rfl

/-- An update under the target filter that hits is a move. -/
private theorem moves_of_update {change : CampaignTarget → CampaignTarget}
    (keeps : ∀ row, Indexed.index (change row) = Indexed.index row)
    (written : after.campaignTargets =
      db.campaignTargets.updateMany (targetFilter scope messageId statuses) change keeps)
    (sets : ∀ target, (change target).status = status)
    (owners : ∀ target, (change target).merchantId = target.merchantId)
    (hit : db.campaignTargets.count (targetFilter scope messageId statuses) ≠ 0)
    (messages : MessagesFollow messageId status db after) :
    Moves scope messageId statuses status db after := by
  obtain ⟨target, member, matched⟩ := Table.count_pos_iff.mp (Nat.pos_of_ne_zero hit)
  have parts := targetFilter_iff.mp matched
  refine ⟨⟨target, member, parts⟩, ?_, merchants_of_update keeps owners written, messages⟩
  have named (row : CampaignTarget) : (change row).messageId = row.messageId := keeps row
  funext other
  unfold targetStatus
  rw [written, Table.find?_updateMany (by simp [named])]
  by_cases same : other = messageId
  · subst same
    have found : db.campaignTargets.find? (·.messageId == other) = some target := by
      rw [Table.find?_eq_some_iff]
      · exact ⟨member, by simpa using parts.1⟩
      · intro first second here there
        exact clash_of_messageId (by simp_all)
    simp [found, matched, sets]
  · rw [Function.update_of_ne same]
    cases found : db.campaignTargets.find? (·.messageId == other) with
    | none => rfl
    | some row =>
      have lookup : row.messageId = other := by simpa using (Table.find?_mem found).2
      have missed : targetFilter scope messageId statuses row = false := by
        rw [Bool.eq_false_iff]
        intro hit
        exact same (lookup ▸ (targetFilter_iff.mp hit).1)
      simp [missed]

/-- The claim inserts a pending target for an unclaimed message, or changes nothing. -/
theorem claimTarget_cases (scope : MerchantId) (args : ClaimTargetArgs) (createdAt : Date) (db : Db) :
    (∃ targets, db.campaignTargets.insert? {
          merchantId := args.merchantId
          campaignId := args.campaignId
          messageId := args.messageId
          customerId := args.customerId
          createdAt } = some targets ∧
        claimTarget scope args createdAt db = (.ok .claimed, { db with campaignTargets := targets }) ∧
        args.merchantId = scope ∧ targetStatus db args.messageId = none ∧
        targetStatus { db with campaignTargets := targets } =
          Function.update (targetStatus db) args.messageId (some .pending) ∧
        targetMerchant { db with campaignTargets := targets } =
          Function.update (targetMerchant db) args.messageId (some args.merchantId)) ∨
      ((claimTarget scope args createdAt db).2 = db ∧
        (claimTarget scope args createdAt db).1 ≠ .ok .claimed ∧
        ((claimTarget scope args createdAt db).1 = .ok .alreadyClaimed →
          targetStatus db args.messageId ≠ none)) := by
  unfold claimTarget
  split
  · exact .inr ⟨rfl, by simp, by simp⟩
  · rename_i agreed
    split
    · rename_i taken
      refine .inr ⟨rfl, by simp, fun _ absent => ?_⟩
      obtain ⟨other, member, clash⟩ := Table.insert?_none taken
      exact targetStatus_eq_none_iff.mp absent other member
        (by simpa [Indexed.clash, Indexed.index] using clash)
    · rename_i targets inserted
      split
      · refine .inl ⟨targets, inserted, rfl, by simpa using agreed, ?_⟩
        have free : targetStatus db args.messageId = none := by
          rw [targetStatus_eq_none_iff]
          intro other member same
          have apart := (Table.insert?_rows inserted).2 other member
          simp [Indexed.clash, Indexed.index, same] at apart
        have lookup : db.campaignTargets.find? (·.messageId == args.messageId) = none := by
          simpa [targetStatus] using free
        refine ⟨free, ?_, ?_⟩
        · funext other
          unfold targetStatus
          rw [Table.find?_insert? inserted]
          by_cases same : other = args.messageId
          · simp [same, lookup]
          · simp [same, Ne.symm same]
        · funext other
          unfold targetMerchant
          rw [Table.find?_insert? inserted]
          by_cases same : other = args.messageId
          · simp [same, lookup]
          · simp [same, Ne.symm same]
      · exact .inr ⟨rfl, by simp, by simp⟩

/-- A second claim is a no-op. -/
theorem claimTarget_claimed {args : ClaimTargetArgs} (createdAt : Date)
    (exists_ : targetStatus db args.messageId ≠ none) :
    claimTarget args.merchantId args createdAt db = (.ok .alreadyClaimed, db) := by
  unfold claimTarget
  rw [if_neg (by simp)]
  split
  · rfl
  · rename_i targets inserted
    refine False.elim (exists_ (targetStatus_eq_none_iff.mpr ?_))
    intro other member same
    have apart := (Table.insert?_rows inserted).2 other member
    simp [Indexed.clash, Indexed.index, same] at apart

theorem resolveTerminal_cases (scope : MerchantId) (messageId : MessageId) (reason : String)
    (status : TerminalStatus) (db : Db) :
    Guarded scope messageId [.pending, .deferred, .sending] status.target db
      (resolveTerminal scope messageId reason status db) := by
  unfold resolveTerminal
  dsimp only
  split
  · rename_i none
    exact .missed rfl (missed_of_count none)
  · rename_i hit
    refine .hit rfl (moves_of_update (by intro; rfl) rfl (by intro; rfl) (by intro; rfl) hit ?_)
    exact messagesFollow_of_update (by intro; rfl) rfl (by cases status <;> exact fun _ => rfl) (by intro; rfl)

/-- A single guarded update reports its hit, and leaves the store alone on a miss. -/
private theorem guarded_cases {change : CampaignTarget → CampaignTarget} {hit : Bool}
    (written : ∃ keeps, after = { db with
      campaignTargets :=
        db.campaignTargets.updateMany (targetFilter scope messageId statuses) change keeps })
    (sets : ∀ target, (change target).status = status)
    (owners : ∀ target, (change target).merchantId = target.merchantId)
    (reported : hit = decide (0 < db.campaignTargets.count (targetFilter scope messageId statuses))) :
    Guarded scope messageId statuses status db (hit, after) := by
  obtain ⟨keeps, written⟩ := written
  by_cases none : db.campaignTargets.count (targetFilter scope messageId statuses) = 0
  · refine .missed (Prod.ext (by simp [reported, none]) ?_) (missed_of_count none)
    rw [written, Table.updateMany_eq_self none]
  · refine .hit (by simpa [reported] using Nat.pos_of_ne_zero none) ?_
    exact moves_of_update keeps (by rw [written]) sets owners none (messagesFollow_of_eq (by rw [written]))

theorem startSending_cases (scope : MerchantId) (messageId : MessageId) (now : Date) (db : Db) :
    Guarded scope messageId [.pending] .sending db (startSending scope messageId now db) :=
  guarded_cases ⟨_, rfl⟩ (fun _ => rfl) (fun _ => rfl) rfl

theorem revertToPending_cases (scope : MerchantId) (messageId : MessageId) (db : Db) :
    Guarded scope messageId [.sending] .pending db (revertToPending scope messageId db) :=
  guarded_cases ⟨_, rfl⟩ (fun _ => rfl) (fun _ => rfl) rfl

theorem deferTarget_cases (scope : MerchantId) (messageId : MessageId) (db : Db) :
    Guarded scope messageId [.pending, .deferred] .deferred db (deferTarget scope messageId db) :=
  guarded_cases ⟨_, rfl⟩ (fun _ => rfl) (fun _ => rfl) rfl

/-- The completion commits target, message, bucket and audit row together, or rolls back. -/
theorem markSentWithQuota_cases (scope : MerchantId) (args : MarkSentArgs) (db : Db) :
    ((markSentWithQuota scope args db).1 = .ok true ∧
        Moves scope args.messageId [.sending] .sent db (markSentWithQuota scope args db).2 ∧
        args.merchantId = scope ∧ db.messages.count (draftFilter scope args.messageId) ≠ 0) ∨
      ((markSentWithQuota scope args db).2 = db ∧ (markSentWithQuota scope args db).1 ≠ .ok true) := by
  unfold markSentWithQuota
  dsimp only
  split
  · exact .inr ⟨rfl, by simp⟩
  · rename_i hit
    split
    · exact .inr ⟨rfl, by simp⟩
    · rename_i draft
      split
      · exact .inr ⟨rfl, by simp⟩
      · rename_i agreed
        refine .inl ⟨rfl, ?_, by simpa using agreed, draft⟩
        refine moves_of_update (by intro; rfl) rfl (by intro; rfl) (by intro; rfl) hit ?_
        exact messagesFollow_of_update (by intro; rfl) rfl (by intro; rfl) (by intro; rfl)

end WinBack.CampaignRepository
