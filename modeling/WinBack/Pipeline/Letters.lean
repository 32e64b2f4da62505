import WinBack.Generation.Ledger
import WinBack.Pipeline.Recall

/-! The texts of messages and generations, and what each write of the pipeline does to them: a text is written once,
with the completion of the generation. -/

namespace WinBack.Pipeline

open Library

/-- Whose a message is, and what it says. -/
structure Letter where
  id : MessageId
  merchantId : MerchantId
  customerId : CustomerId
  aiGenerationId : String
  generatedText : String

def letter (row : Message) : Letter := ⟨row.id, row.merchantId, row.customerId, row.aiGenerationId, row.generatedText⟩

def letters (db : Db) : List Letter := db.messages.links fun row => some (letter row)

/-- The generation is of the same customer, and a text that is there is the one it was completed with. -/
def Letter.Written (letter : Letter) (generation : AiGeneration) : Prop :=
  generation.id = letter.aiGenerationId ∧ generation.merchantId = letter.merchantId ∧ generation.customerId = letter.customerId ∧
    (letter.generatedText ≠ "" → generation.status = .completed ∧ generation.generatedText = some letter.generatedText)

def Written (db : Db) : Prop := ∀ letter ∈ letters db, ∃ generation ∈ db.aiGenerations.rows, letter.Written generation

/-- The text of a generation with a discount has the derived code in the place of the placeholder. -/
def Carries (context : Generation.WorkerContext) (db : Db) : Prop :=
  ∀ generation ∈ db.aiGenerations.rows, ∀ code, generation.discountCode = some code →
    code = Generation.deriveWinbackDiscountCode context generation.merchantId generation.id ∧
      ∃ content valuePercent,
        generation.generatedText = some (Generation.substituteDiscountTokens content (some ⟨code, valuePercent⟩)).text

/-- A message stays what it is, and so does its text once it is there. -/
def Letter.Becomes (old letter : Letter) : Prop :=
  (old.id = letter.id ∧ old.merchantId = letter.merchantId ∧ old.customerId = letter.customerId) ∧
    (old.generatedText = "" ∨ old.generatedText = letter.generatedText)

/-- Every message was there before, or has a fresh id. -/
def Kept (fresh : List MessageId) (before after : Db) : Prop :=
  ∀ letter ∈ letters after, letter.id ∈ fresh ∨ ∃ old ∈ letters before, old.Becomes letter

/-- Messages and generations are as they were. -/
structure SameTexts (before after : Db) : Prop where
  letters : letters after = letters before
  generations : after.aiGenerations = before.aiGenerations

section Letters

variable {db before after next : Db} {fresh : List MessageId} {context : Generation.WorkerContext}

theorem mem_letters {given : Letter} : given ∈ letters db ↔ ∃ row ∈ db.messages.rows, letter row = given := by
  simp [letters, Table.mem_links]

theorem Letter.Becomes.refl (letter : Letter) : letter.Becomes letter := ⟨⟨rfl, rfl, rfl⟩, .inr rfl⟩

theorem SameTexts.written (same : SameTexts before after) (written : Written before) : Written after := by
  rw [Written, same.letters, same.generations]
  exact written

theorem SameTexts.carries (same : SameTexts before after) (carries : Carries context before) : Carries context after := by
  rw [Carries, same.generations]
  exact carries

theorem SameTexts.kept (same : SameTexts before after) : Kept fresh before after := by
  rw [Kept, same.letters]
  exact fun letter stored => .inr ⟨letter, stored, .refl letter⟩

end Letters

section Dispatch

open CampaignRepository

variable {db : Db} {before after : Dispatch.Backend} {scope : MerchantId} {messageId : MessageId}

theorem texts_resolveTerminal (reason : String) (status : TerminalStatus) :
    SameTexts db (resolveTerminal scope messageId reason status db).2 := by
  unfold resolveTerminal
  dsimp only
  split
  · exact ⟨rfl, rfl⟩
  · exact ⟨Table.links_update rfl fun _ => rfl, rfl⟩

theorem texts_markSentWithQuota (args : MarkSentArgs) : SameTexts db (markSentWithQuota scope args db).2 := by
  unfold markSentWithQuota
  dsimp only
  split
  · exact ⟨rfl, rfl⟩
  split
  · exact ⟨rfl, rfl⟩
  split
  · exact ⟨rfl, rfl⟩
  · exact ⟨Table.links_update rfl fun _ => rfl, rfl⟩

theorem texts_claimTarget (args : ClaimTargetArgs) (createdAt : Date) : SameTexts db (claimTarget scope args createdAt db).2 := by
  unfold claimTarget
  split
  · exact ⟨rfl, rfl⟩
  split
  · exact ⟨rfl, rfl⟩
  split
  · exact ⟨rfl, rfl⟩
  · exact ⟨rfl, rfl⟩

private theorem texts_of_write {Answer : Type} {fate : Dispatch.Fate} {write : Except DbError Answer × Db}
    {answer : Except Dispatch.Thrown Answer} (same : SameTexts before.db write.2)
    (executed : fate.apply before write = (answer, after)) : SameTexts before.db after.db := by
  rcases Dispatch.fate_cases executed with kept | kept <;> rw [kept]
  · exact same
  · exact ⟨rfl, rfl⟩

/-- The dispatch subsystem writes no text. -/
theorem texts_exec {request : Dispatch.Call} {choice : Dispatch.Choice} {answer : Except Dispatch.Thrown request.Value}
    (executed : Dispatch.exec before request choice = some (answer, after)) : SameTexts before.db after.db := by
  cases request with
  | query read =>
    obtain ⟨rfl, _⟩ := Dispatch.query_effect executed
    exact ⟨rfl, rfl⟩
  | clock =>
    cases executed
    exact ⟨rfl, rfl⟩
  | claimTarget scope args => exact texts_of_write (texts_claimTarget args choice.now) (Option.some.inj executed)
  | resolveTerminal scope messageId reason status =>
    exact texts_of_write (texts_resolveTerminal reason status) (Option.some.inj executed)
  | startSending | revertToPending | deferTarget | appendAudit =>
    refine texts_of_write ?_ (Option.some.inj executed)
    exact ⟨rfl, rfl⟩
  | markSentWithQuota scope args => exact texts_of_write (texts_markSentWithQuota args) (Option.some.inj executed)
  | send args =>
    simp only [Dispatch.exec] at executed
    split at executed
    · cases executed
      exact ⟨rfl, rfl⟩
    · cases executed
  | addBulk payloads =>
    simp only [Dispatch.exec] at executed
    split at executed <;> cases executed <;> exact ⟨rfl, rfl⟩

end Dispatch

section Generations

open AiGenerationRepository Generation

variable {db next : Db} {fresh : List MessageId} {context : WorkerContext} {scope : MerchantId}

/-- A completion writes nothing, or settles the pending generation and its messages. -/
theorem completeGeneration_cases {completion : Completion} {now date : Date}
    (done : completeGeneration scope completion now date db = .ok next) : next.campaignTargets = db.campaignTargets ∧
      (SameTexts db next ∨
        (∃ row ∈ db.aiGenerations.rows, pending scope completion.args.aiGenerationId row = true) ∧
          next.aiGenerations = (markCompleted scope completion.args now db).2.aiGenerations ∧
            next.messages = (MessageRepository.updateGeneratedText scope completion.args.aiGenerationId
              completion.args.generatedText db).messages) := by
  unfold completeGeneration at done
  split at done
  · rename_i marked
    rcases markCompleted_cases marked with ⟨_, rfl⟩ | ⟨won, _⟩
    · cases done
      exact ⟨rfl, .inl ⟨rfl, rfl⟩⟩
    · cases won
  · rename_i middle marked
    rcases markCompleted_cases marked with ⟨lost, _⟩ | ⟨_, rfl, waiting⟩
    · cases lost
    · obtain ⟨spent, incremented, rfl⟩ := map_eq_ok_iff.mp done
      have frame := (incrementSpend_ok incremented).1
      rw [frame]
      exact ⟨rfl, .inr ⟨waiting, rfl, rfl⟩⟩

theorem pending_iff {generationId : String} {row : AiGeneration} : pending scope generationId row = true ↔
    row.id = generationId ∧ row.status = .pending ∧ row.merchantId = scope := by
  simp [pending, and_assoc]

/-- An update of pending generations that writes no text. -/
theorem Written.failed {generationId : String} {change : AiGeneration → AiGeneration}
    (rows : next.aiGenerations.rows =
      db.aiGenerations.rows.map fun row => if pending scope generationId row then change row else row)
    (same : ∀ row, (change row).id = row.id ∧ (change row).merchantId = row.merchantId ∧ (change row).customerId = row.customerId)
    (messages : letters next = letters db) (written : Written db) : Written next := by
  rw [Written, messages]
  intro letter stored
  obtain ⟨generation, listed, own, merchant, customer, done⟩ := written letter stored
  rw [rows]
  refine ⟨_, List.mem_map.mpr ⟨generation, listed, rfl⟩, ?_⟩
  split
  · rename_i waiting
    refine ⟨(same generation).1.trans own, (same generation).2.1.trans merchant, (same generation).2.2.trans customer, fun some => ?_⟩
    -- a message with a text has a completed generation
    exact absurd ((done some).1.symm.trans (pending_iff.mp waiting).2.1) (by decide)
  · exact ⟨own, merchant, customer, done⟩

/-- Only the message of the settled generation gets a text. -/
theorem Written.completed {completion : Completion} {now date : Date}
    (done : completeGeneration scope completion now date db = .ok next) (written : Written db) :
    Written next ∧ Kept fresh db next := by
  rcases (completeGeneration_cases done).2 with same | ⟨⟨row, present, waiting⟩, generations, messages⟩
  · exact ⟨same.written written, same.kept⟩
  obtain ⟨named, open_, owned⟩ := pending_iff.mp waiting
  -- the generation of a message that the update hits is the settled one
  have settled {message : Message} (stored : message ∈ db.messages.rows)
      (hit : (message.aiGenerationId == completion.args.aiGenerationId && message.merchantId == scope) = true) :
      (letter message).Written row ∧ message.generatedText = "" := by
    simp only [Bool.and_eq_true, beq_iff_eq] at hit
    obtain ⟨generation, listed, holds⟩ := written _ (mem_letters.mpr ⟨message, stored, rfl⟩)
    have same : generation = row :=
      db.aiGenerations.eq_of_clash listed present
        (by simp [Indexed.clash, Indexed.index, holds.1, letter, hit.1, named])
    subst same
    refine ⟨holds, Classical.byContradiction fun some => ?_⟩
    exact absurd ((holds.2.2.2 some).1.symm.trans open_) (by decide)
  constructor
  · intro given stored
    obtain ⟨message, listed, rfl⟩ := mem_letters.mp stored
    rw [messages] at listed
    obtain ⟨old, before, rfl⟩ := List.mem_map.mp listed
    rw [generations]
    split
    · rename_i hit
      refine ⟨_, List.mem_map.mpr ⟨row, present, rfl⟩, ?_⟩
      rw [if_pos waiting]
      obtain ⟨own, merchant, customer, _⟩ := (settled before hit).1
      exact ⟨own, merchant, customer, fun _ => ⟨rfl, rfl⟩⟩
    · obtain ⟨generation, listed, own, merchant, customer, text⟩ := written _ (mem_letters.mpr ⟨old, before, rfl⟩)
      refine ⟨_, List.mem_map.mpr ⟨generation, listed, rfl⟩, ?_⟩
      split
      · rename_i matched
        refine ⟨own, merchant, customer, fun some => ?_⟩
        exact absurd ((text some).1.symm.trans (pending_iff.mp matched).2.1) (by decide)
      · exact ⟨own, merchant, customer, text⟩
  · intro given stored
    obtain ⟨message, listed, rfl⟩ := mem_letters.mp stored
    rw [messages] at listed
    obtain ⟨old, before, rfl⟩ := List.mem_map.mp listed
    refine .inr ⟨_, mem_letters.mpr ⟨old, before, rfl⟩, ?_⟩
    split
    · rename_i hit
      exact ⟨⟨rfl, rfl, rfl⟩, .inl (settled before hit).2⟩
    · exact .refl _

/-- The columns of a text and of its code are not in the update. -/
theorem Carries.updated {filter : AiGeneration → Bool} {change : AiGeneration → AiGeneration}
    (rows : next.aiGenerations.rows = db.aiGenerations.rows.map fun row => if filter row then change row else row)
    (same : ∀ row, (change row).id = row.id ∧ (change row).merchantId = row.merchantId ∧
      (change row).discountCode = row.discountCode ∧ (change row).generatedText = row.generatedText)
    (carries : Carries context db) : Carries context next := by
  intro generation listed
  rw [rows] at listed
  obtain ⟨old, present, rfl⟩ := List.mem_map.mp listed
  split
  · obtain ⟨named, merchant, code, text⟩ := same old
    rw [named, merchant, code, text]
    exact carries old present
  · exact carries old present

theorem Carries.completed {completion : Completion} {now date : Date} {minted : Option String}
    (done : completeGeneration scope completion now date db = .ok next)
    (carried : Completion.Carries completion minted)
    (derived : ∀ code, minted = some code → code = deriveWinbackDiscountCode context scope completion.args.aiGenerationId)
    (carries : Carries context db) : Carries context next := by
  rcases (completeGeneration_cases done).2 with same | ⟨_, generations, _⟩
  · exact same.carries carries
  intro generation listed
  rw [generations] at listed
  obtain ⟨old, present, rfl⟩ := List.mem_map.mp listed
  split
  · rename_i waiting
    obtain ⟨named, _, owned⟩ := pending_iff.mp waiting
    intro code discount
    obtain ⟨known, content, valuePercent, text⟩ := carried code discount
    refine ⟨?_, content, valuePercent, congrArg some text⟩
    rw [show (complete completion.args now old).id = completion.args.aiGenerationId from named,
      show (complete completion.args now old).merchantId = scope from owned]
    exact derived code known
  · exact carries old present

variable {merchantId : MerchantId} {customerId : CustomerId} {args : GenerationArgs} {now : Date}

theorem letters_created (done : createGeneration merchantId customerId args now db = .ok next) {given : Letter} :
    given ∈ letters next ↔ given ∈ letters db ∨ given = letter (MessageRepository.drafted merchantId customerId args) := by
  obtain ⟨aiGenerations, messages, generated, inserted, rfl⟩ := createGeneration_ok done
  refine (Table.mem_links_insert? inserted).trans (or_congr Iff.rfl ?_)
  simp [eq_comm]

theorem kept_created (done : createGeneration merchantId customerId args now db = .ok next) : Kept [args.messageId] db next := by
  intro given stored
  rcases (letters_created done).mp stored with old | rfl
  · exact .inr ⟨given, old, .refl given⟩
  · exact .inl (List.mem_singleton_self _)

theorem Written.created (done : createGeneration merchantId customerId args now db = .ok next) (written : Written db) :
    Written next := by
  intro given stored
  have added := @letters_created _ _ _ _ _ _ done given
  obtain ⟨aiGenerations, messages, generated, inserted, rfl⟩ := createGeneration_ok done
  rw [(Table.insert?_rows generated).1]
  rcases added.mp stored with old | rfl
  · obtain ⟨generation, listed, holds⟩ := written given old
    exact ⟨generation, List.mem_append_left _ listed, holds⟩
  · refine ⟨_, List.mem_append_right _ (List.mem_singleton_self _), rfl, rfl, rfl, fun some => absurd rfl some⟩

theorem Carries.created (done : createGeneration merchantId customerId args now db = .ok next) (carries : Carries context db) :
    Carries context next := by
  obtain ⟨aiGenerations, messages, generated, inserted, rfl⟩ := createGeneration_ok done
  intro generation listed
  rw [(Table.insert?_rows generated).1] at listed
  rcases List.mem_append.mp listed with old | new
  · exact carries generation old
  · cases List.mem_singleton.mp new
    simp [AiGenerationRepository.created]

end Generations

section Erase

variable {db : Db} {fresh : List MessageId} {context : Generation.WorkerContext} {targets : CampaignTarget → Bool}
  {messages : Message → Bool} {generations : AiGeneration → Bool}

/-- What is left was there before. -/
theorem letters_erase : letters (erase targets messages generations db) ⊆ letters db :=
  fun _ stored => Table.links_deleteMany_subset (Table.links_deleteMany_subset stored)

theorem targetLinks_erase : Dispatch.targetLinks (erase targets messages generations db) ⊆ Dispatch.targetLinks db :=
  fun _ stored => Table.links_deleteMany_subset (Table.links_deleteMany_subset (Table.links_deleteMany_subset stored))

/-- A message that is left has kept its generation. -/
theorem Written.erased (written : Written db) : Written (erase targets messages generations db) := by
  intro given stored
  obtain ⟨generation, listed, holds⟩ := written given (letters_erase stored)
  refine ⟨generation, List.mem_filter.mpr ⟨listed, ?_⟩, holds⟩
  obtain ⟨message, left, rfl⟩ := mem_letters.mp stored
  obtain ⟨_, keeps⟩ := List.mem_filter.mp left
  cases matched : generations generation with
  | false => rfl
  | true =>
    have gone : (db.aiGenerations.any fun generation => generations generation && generation.id == message.aiGenerationId) = true :=
      List.any_eq_true.mpr ⟨generation, listed, by simp [matched, holds.1, letter]⟩
    have keeps' : (!db.aiGenerations.any fun generation =>
        generations generation && generation.id == message.aiGenerationId) = true := keeps
    rw [gone] at keeps'
    cases keeps'

theorem Carries.erased (carries : Carries context db) : Carries context (erase targets messages generations db) :=
  fun generation listed => carries generation (List.mem_filter.mp listed).1

theorem kept_erase : Kept fresh db (erase targets messages generations db) :=
  fun letter stored => .inr ⟨letter, letters_erase stored, .refl letter⟩

end Erase

end WinBack.Pipeline
