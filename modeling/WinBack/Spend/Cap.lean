import WinBack.Generation.Attempts
import WinBack.Outbox.Redelivery
import WinBack.Spend.System

/-! The monthly cap. A generation is paid for after it was checked, so what is in flight has to be
within the cap together with what is recorded. -/

namespace WinBack.Spend

open Library AiGenerationRepository
open Outbox (DrainerContext microcentsPerCent sumMonthSpend)
open Generation (WorkerContext)

variable {merchantId scope : MerchantId} {month date : Date} {capCents : Int} {db next : Db}

section Months

def ofMonth (merchantId : MerchantId) (month : Date) (row : AiSpendBucket) : Bool :=
  row.merchantId == merchantId && utcFirstOfMonth row.date == month

/-- What a merchant has spent in a UTC month, which its first day names. -/
def monthSpent (merchantId : MerchantId) (month : Date) (db : Db) : Int :=
  db.aiSpendBuckets.total fun row => if ofMonth merchantId month row then row.spentMicrocents else 0

theorem utcFirstOfMonth_utcMidnight (date : Date) : utcFirstOfMonth (utcMidnight date) = utcFirstOfMonth date := by
  unfold utcFirstOfMonth utcMidnight
  rw [Int.mul_ediv_cancel _ (by decide)]

theorem utcFirstOfMonth_le (date : Date) : utcFirstOfMonth date ≤ date := by
  have first := Calendar.firstDayOfMonth_le (date / msPerDay)
  have positive : (0 : Int) ≤ msPerDay := by decide
  exact (Int.mul_le_mul_of_nonneg_right first positive).trans (Int.ediv_mul_le date (by decide))

/-- An increment lands in the month of its date. -/
theorem incrementSpend_month {delta : Int} (done : AiSpendBucketRepository.incrementSpend scope date delta db = .ok next)
    (merchantId : MerchantId) (month : Date) : monthSpent merchantId month next =
      monthSpent merchantId month db + if scope = merchantId ∧ utcFirstOfMonth date = month then delta else 0 := by
  unfold AiSpendBucketRepository.incrementSpend at done
  split at done
  · rename_i present
    cases done
    obtain ⟨row, stored, matched⟩ := List.any_eq_true.mp present
    have bucket := matched
    simp only [AiSpendBucketRepository.bucketOf, Bool.and_eq_true, beq_iff_eq] at bucket
    have counted : ofMonth merchantId month row = decide (scope = merchantId ∧ utcFirstOfMonth date = month) := by
      unfold ofMonth
      rw [bucket.1, bucket.2, utcFirstOfMonth_utcMidnight, Bool.eq_iff_iff]
      simp
    unfold monthSpent
    rw [Table.total_updateMany (Generation.bucketOf_pins scope date) stored matched]
    have kept : ofMonth merchantId month { row with
        spentMicrocents := row.spentMicrocents + delta
        generationCount := row.generationCount + 1 } = ofMonth merchantId month row := rfl
    rw [kept, counted]
    by_cases ours : scope = merchantId ∧ utcFirstOfMonth date = month
    · simp only [ours, and_self, decide_true, if_true]
      omega
    · simp [ours]
  · split at done
    · cases done
    · rename_i buckets inserted
      split at done
      · cases done
        refine (Table.total_insert? inserted).trans ?_
        unfold monthSpent ofMonth
        simp [utcFirstOfMonth_utcMidnight]
      · cases done

/-- No bucket of the merchant is negative. -/
def Spends (merchantId : MerchantId) (db : Db) : Prop :=
  ∀ bucket ∈ db.aiSpendBuckets.rows, bucket.merchantId = merchantId → 0 ≤ bucket.spentMicrocents

theorem incrementSpend_spends {delta : Int} (done : AiSpendBucketRepository.incrementSpend scope date delta db = .ok next)
    (gain : scope = merchantId → 0 ≤ delta) (spends : Spends merchantId db) : Spends merchantId next := by
  unfold AiSpendBucketRepository.incrementSpend at done
  split at done
  · cases done
    intro bucket member ours
    obtain ⟨old, stored, rfl⟩ := List.mem_map.mp member
    split at ours
    · rename_i matched
      rw [if_pos matched]
      simp only [AiSpendBucketRepository.bucketOf, Bool.and_eq_true, beq_iff_eq] at matched
      exact Int.add_nonneg (spends old stored ours) (gain (matched.1.symm.trans ours))
    · rename_i apart
      rw [if_neg apart]
      exact spends old stored ours
  · split at done
    · cases done
    · rename_i buckets inserted
      split at done
      · cases done
        intro bucket member ours
        change bucket ∈ buckets.rows at member
        rw [(Table.insert?_rows inserted).1] at member
        rcases List.mem_append.mp member with old | new
        · exact spends bucket old ours
        · cases List.mem_singleton.mp new
          exact gain ours
      · cases done

/-- What the check reads is no less than what the month holds. -/
theorem monthSpent_le (spends : Spends merchantId db) (asOf : Date) : monthSpent merchantId (utcFirstOfMonth asOf) db ≤ sumMonthSpend merchantId asOf db := by
  refine Table.total_le fun row member => ?_
  have since : ofMonth merchantId (utcFirstOfMonth asOf) row = true → Outbox.sinceMonthStart merchantId asOf row = true := by
    intro counted
    simp only [ofMonth, Bool.and_eq_true, beq_iff_eq] at counted
    simp only [Outbox.sinceMonthStart, Bool.and_eq_true, beq_iff_eq, decide_eq_true_eq]
    exact ⟨counted.1, counted.2 ▸ utcFirstOfMonth_le row.date⟩
  split
  · rename_i counted
    rw [if_pos (since counted)]
  · split
    · rename_i later
      simp only [Outbox.sinceMonthStart, Bool.and_eq_true, beq_iff_eq] at later
      exact spends row member later.1
    · exact le_refl _

end Months

section InFlight

/-- A generation that may still cost something, by the month it was created in. -/
def awaiting (merchantId : MerchantId) (month : Date) (row : AiGeneration) : Bool :=
  row.merchantId == merchantId && row.status == .pending && utcFirstOfMonth row.createdAt == month

/-- A handler that has passed the check and may still create a generation. -/
def reserves (merchantId : MerchantId) (month : Date) (handling : Handling) : Bool :=
  handling.pending?.isSome &&
    match handling.phase with
    | .granted owner asOf => owner == merchantId && utcFirstOfMonth asOf == month
    | _ => false

theorem reserves_iff {handling : Handling} : reserves merchantId month handling = true ↔
    handling.pending?.isSome = true ∧ ∃ asOf, handling.phase = .granted merchantId asOf ∧ utcFirstOfMonth asOf = month := by
  unfold reserves
  split
  · rename_i owner asOf phase
    simp only [phase, Bool.and_eq_true, beq_iff_eq, Gate.granted.injEq]
    constructor
    · rintro ⟨asks, rfl, rfl⟩
      exact ⟨asks, asOf, ⟨rfl, rfl⟩, rfl⟩
    · rintro ⟨asks, _, ⟨rfl, rfl⟩, rfl⟩
      exact ⟨asks, rfl, rfl⟩
  · rename_i apart
    simp only [Bool.and_false, Bool.false_eq_true, false_iff]
    rintro ⟨_, asOf, granted, _⟩
    exact apart merchantId asOf granted

def inFlight (merchantId : MerchantId) (month : Date) (world : World) : Nat :=
  world.handlers.tally (reserves merchantId month) + world.db.aiGenerations.count (awaiting merchantId month)

/-- A compare-and-set out of `pending` takes what it matches out of flight. -/
theorem awaiting_set {id : String} {change : AiGeneration → AiGeneration}
    (set : next.aiGenerations.rows = db.aiGenerations.rows.map fun row => if pending scope id row then change row else row)
    (keeps : ∀ row, Indexed.index (change row) = Indexed.index row) (settled : ∀ row, (change row).status ≠ .pending)
    (merchantId : MerchantId) (month : Date) : db.aiGenerations.count (awaiting merchantId month) =
      db.aiGenerations.count (fun row => awaiting merchantId month row && pending scope id row) +
        next.aiGenerations.count (awaiting merchantId month) := by
  have gone : db.aiGenerations.count (fun row => pending scope id row && awaiting merchantId month (change row)) = 0 := by
    unfold Table.count
    rw [List.countP_eq_zero]
    intro row _
    simp [awaiting, settled row]
  rw [show next.aiGenerations = db.aiGenerations.updateMany (pending scope id) change keeps from Table.ext set,
    Table.count_updateMany, gone]
  exact Table.count_split (awaiting merchantId month) (pending scope id)

theorem awaiting_set_le {id : String} {change : AiGeneration → AiGeneration}
    (set : next.aiGenerations.rows = db.aiGenerations.rows.map fun row => if pending scope id row then change row else row)
    (keeps : ∀ row, Indexed.index (change row) = Indexed.index row) (settled : ∀ row, (change row).status ≠ .pending) :
    next.aiGenerations.count (awaiting merchantId month) ≤ db.aiGenerations.count (awaiting merchantId month) :=
  awaiting_set set keeps settled merchantId month ▸ Nat.le_add_left _ _

/-- A completion that wins its compare-and-set, and what it pays. -/
structure Pays (db next : Db) (scope : MerchantId) (date : Date) (completed : Completion) : Prop where
  found : ∃ row ∈ db.aiGenerations.rows, pending scope completed.args.aiGenerationId row = true
  spent : ∀ merchantId month, monthSpent merchantId month next = monthSpent merchantId month db +
    if scope = merchantId ∧ utcFirstOfMonth date = month then completed.args.costMicrocents else 0
  spends : ∀ merchantId, (scope = merchantId → 0 ≤ completed.args.costMicrocents) → Spends merchantId db →
    Spends merchantId next
  landed : ∀ merchantId month, db.aiGenerations.count (awaiting merchantId month) =
    db.aiGenerations.count (fun row => awaiting merchantId month row && pending scope completed.args.aiGenerationId row) +
      next.aiGenerations.count (awaiting merchantId month)

theorem completeGeneration_pays {completed : Completion} {now : Date}
    (done : completeGeneration scope completed now date db = .ok next) : next.merchantSettings = db.merchantSettings ∧
      (next = db ∨ Pays db next scope date completed) := by
  have generations := (Generation.completeGeneration_generations done).1
  unfold completeGeneration at done
  split at done
  · rename_i marked
    cases done
    rcases Generation.markCompleted_cases marked with ⟨_, rfl⟩ | ⟨won, _⟩
    · exact ⟨rfl, .inl rfl⟩
    · cases won
  · rename_i middle marked
    obtain ⟨paid, incremented, rfl⟩ := map_eq_ok_iff.mp done
    rcases Generation.markCompleted_cases marked with ⟨lost, _⟩ | ⟨_, rfl, found⟩
    · cases lost
    · refine ⟨?_, .inr ?_⟩
      · rw [(Generation.incrementSpend_ok incremented).1]
        rfl
      · have spent := incrementSpend_month incremented
        have spends (owner : MerchantId) := @incrementSpend_spends owner scope date _ _ _ incremented
        exact {
          found
          spent
          spends
          landed := awaiting_set (congrArg Table.rows generations) (by intro _; rfl) (by intro _ same; cases same) }

/-- What one call of the worker does to what is in flight and to what is spent. -/
theorem called_cases {request : Generation.Call} {choice : Generation.Choice}
    {answer : Except Generation.Thrown request.Value} (executed : Generation.exec db request choice = some (answer, next)) :
    next.merchantSettings = db.merchantSettings ∧
      (next.aiSpendBuckets = db.aiSpendBuckets ∧ (∀ merchantId month,
          next.aiGenerations.count (awaiting merchantId month) ≤ db.aiGenerations.count (awaiting merchantId month)) ∨
        ∃ scope completed, request = .complete scope completed ∧ Pays db next scope choice.date completed) := by
  rcases Generation.exec_cases executed with rfl | ⟨scope, id, lastError, audits, _, rfl⟩ | ⟨scope, completed, rfl, done⟩
  · exact ⟨rfl, .inl ⟨rfl, fun _ _ => Nat.le_refl _⟩⟩
  · exact ⟨rfl, .inl ⟨rfl, fun _ _ => awaiting_set_le rfl (by intro _; rfl) (by intro _ same; cases same)⟩⟩
  · obtain ⟨settings, rfl | pays⟩ := completeGeneration_pays done
    · exact ⟨rfl, .inl ⟨rfl, fun _ _ => Nat.le_refl _⟩⟩
    · exact ⟨settings, .inr ⟨scope, completed, rfl, pays⟩⟩

theorem carryOut_store {Result : Type} {choice : Outbox.Choice} {view reached after : Outbox.View} {result : Result}
    {answer : Except Outbox.Thrown Result} (done : choice.carryOut view reached result = (answer, after)) :
    (after = view ∨ after = reached) ∧ ∀ value, answer = .ok value → value = result := by
  rcases Outbox.Choice.carryOut_cases done with ⟨_, rfl, rfl⟩ | ⟨_, _, rfl, rfl⟩ | ⟨_, _, rfl, rfl⟩
  · exact ⟨.inl rfl, nofun⟩
  · exact ⟨.inr rfl, nofun⟩
  · refine ⟨.inr rfl, fun value same => ?_⟩
    cases same
    rfl

/-- What one call of a handler does to what is in flight: nothing, or one generation more. -/
theorem handled_cases {request : Outbox.Call} {choice : Outbox.Choice} {gate : Gate} {view after : Outbox.View}
    {answer : Except Outbox.Thrown request.Value} (allowed : gate.allowed request)
    (executed : Outbox.exec view request choice = some (answer, after)) :
    after.db.merchantSettings = view.db.merchantSettings ∧ after.db.aiSpendBuckets = view.db.aiSpendBuckets ∧
      (after.db.aiGenerations = view.db.aiGenerations ∨ ∃ eventId owner customerId args,
        request = .createGeneration eventId owner customerId args ∧ ∀ merchantId month,
          after.db.aiGenerations.count (awaiting merchantId month) = view.db.aiGenerations.count (awaiting merchantId month) +
            if owner = merchantId ∧ utcFirstOfMonth choice.now = month then 1 else 0) := by
  cases request with
  | query | findRecentPurchasedTitles | incrementAndCheck =>
    rcases (carryOut_store (Option.some.inj executed)).1 with rfl | rfl <;> exact ⟨rfl, rfl, .inl rfl⟩
  | appendAudit | enqueue =>
    rcases (carryOut_store (Option.some.inj executed)).1 with rfl | rfl <;> exact ⟨rfl, rfl, .inl rfl⟩
  | clock =>
    cases executed
    exact ⟨rfl, rfl, .inl rfl⟩
  | createGeneration eventId owner customerId args =>
    simp only [Outbox.exec] at executed
    split at executed
    · cases executed
      exact ⟨rfl, rfl, .inl rfl⟩
    · rename_i db done
      obtain ⟨aiGenerations, messages, generated, _, rfl⟩ := createGeneration_ok done
      rcases (carryOut_store (Option.some.inj executed)).1 with rfl | rfl
      · exact ⟨rfl, rfl, .inl rfl⟩
      · refine ⟨rfl, rfl, .inr ⟨eventId, owner, customerId, args, rfl, fun merchantId month => ?_⟩⟩
        refine (Table.count_insert? generated).trans ?_
        simp [awaiting, created]
  | process | handled | claimBatch | mark | commit | rollback | markDeferredFailed => cases gate <;> exact allowed.elim

end InFlight

section Gates

variable {request : Outbox.Call} {choice : Outbox.Choice} {view after : Outbox.View} {gate : Gate}
  {answer : Except Outbox.Thrown request.Value} {unit : Int} {owner : MerchantId} {asOf : Date}

/-- The answer to a query is what the store holds. -/
theorem query_answer {read : Outbox.Query} {value : read.Answer}
    (executed : Outbox.exec view (.query read) choice = some (.ok value, after)) : value = read.eval view.db :=
  (carryOut_store (Option.some.inj executed)).2 value rfl

/-- A gate that is granted was granted before, or its check passes now. -/
theorem granted_of_next (allowed : gate.allowed request) (executed : Outbox.exec view request choice = some (answer, after))
    (granted : gate.next unit request answer = .granted owner asOf) :
    (gate = .granted owner asOf ∧ ∀ eventId owner customerId args, request ≠ .createGeneration eventId owner customerId args) ∨
      ∃ capCents asked, gate = .asking (some (owner, capCents)) asked ∧ request = .query (.monthSpend owner asOf) ∧
        sumMonthSpend owner asOf view.db + unit ≤ capCents * microcentsPerCent := by
  unfold Gate.next at granted
  split at granted
  · cases granted
  · cases granted
  · rename_i settled capCents asked merchantId since spent
    obtain ⟨⟨_, same⟩, _⟩ := allowed
    cases same
    split at granted
    · rename_i within
      cases granted
      rw [query_answer executed] at within
      exact .inr ⟨capCents, asked, rfl, rfl, within⟩
    · cases granted
  · cases granted
  · rename_i creates
    subst granted
    refine .inl ⟨rfl, fun eventId scope customerId args same => ?_⟩
    subst same
    exact creates owner asOf eventId scope customerId args answer rfl rfl HEq.rfl

/-- A generation is created behind a passed check only. -/
theorem granted_of_creates {eventId : String} {customerId : CustomerId} {args : String → MessageId → GenerationArgs}
    (allowed : gate.allowed (.createGeneration eventId owner customerId args)) : ∃ asOf, gate = .granted owner asOf := by
  cases gate with
  | granted merchantId asOf =>
    cases allowed
    exact ⟨asOf, rfl⟩
  | asking | closed => exact allowed.elim

theorem asking_of_next {capCents : Int} {asked : Option Date} (executed : Outbox.exec view request choice = some (answer, after))
    (asking : gate.next unit request answer = .asking (some (owner, capCents)) asked) :
    (∃ before, gate = .asking (some (owner, capCents)) before) ∨
      ∃ row ∈ view.db.merchantSettings.rows, row.merchantId = owner ∧ row.monthlyAiSpendCapCents = capCents := by
  unfold Gate.next at asking
  split at asking
  · rename_i settings
    cases asking
    obtain ⟨stored, ours⟩ := Table.find?_mem (query_answer executed).symm
    exact .inr ⟨settings, stored, beq_iff_eq.mp ours, rfl⟩
  · cases asking
    exact .inl ⟨_, rfl⟩
  · split at asking <;> cases asking
  · cases asking
  · exact .inl ⟨_, asking⟩

end Gates

section Runs

variable (drainer : DrainerContext) (worker : WorkerContext)

/-- The cap of the merchant is fixed, and token counts are counts. -/
def admits (merchantId : MerchantId) (capCents : Int) (world : World) : Label → Bool
  | .outside after => after.merchantSettings.rows.all fun row =>
    decide (row.merchantId = merchantId → row.monthlyAiSpendCapCents = capCents)
  | .act slot _ => ((world.passes.task? slot).bind Task.pending?).all fun
    | .complete _ completed => decide (0 ≤ completed.args.inputTokens ∧ 0 ≤ completed.args.outputTokens)
    | _ => true
  | _ => true

/-- A check that passes while generations of the month are in flight has room for their estimates
too, and a generation is created in the month that it was checked in. -/
def counted (merchantId : MerchantId) (capCents : Int) (world : World) (choice : Outbox.Choice) (handling : Handling) : Bool :=
  match handling.pending?, handling.phase with
  | some (.query (.monthSpend owner asOf)), _ => decide (owner = merchantId →
    sumMonthSpend merchantId asOf world.db + estimate drainer ≤ capCents * microcentsPerCent →
      0 < inFlight merchantId (utcFirstOfMonth asOf) world → monthSpent merchantId (utcFirstOfMonth asOf) world.db +
        estimate drainer * (inFlight merchantId (utcFirstOfMonth asOf) world + 1) ≤ capCents * microcentsPerCent)
  | some (.createGeneration _ owner _ _), .granted _ asOf =>
    decide (owner = merchantId → utcFirstOfMonth choice.now = utcFirstOfMonth asOf)
  | _, _ => true

/-- A generation costs no more than the estimate, and is completed in the month that it was created in. -/
def expected (merchantId : MerchantId) (world : World) (choice : Generation.Choice) : Generation.Call → Bool
  | .complete scope completed => decide (scope = merchantId →
    price worker.aiConfig completed.args.inputTokens completed.args.outputTokens ≤ estimate drainer ∧
      ∀ row ∈ world.db.aiGenerations.rows, pending scope completed.args.aiGenerationId row = true →
        utcFirstOfMonth choice.date = utcFirstOfMonth row.createdAt)
  | _ => true

def covered (merchantId : MerchantId) (capCents : Int) (world : World) : Label → Bool
  | .handle slot choice => (world.handlers.task? slot).all (counted drainer merchantId capCents world choice)
  | .act slot choice => ((world.passes.task? slot).bind Task.pending?).all (expected drainer worker merchantId world choice)
  | _ => true

/-- What is recorded and what is in flight are within the cap, in every month. -/
structure Capped (merchantId : MerchantId) (capCents : Int) (world : World) : Prop where
  handlers : world.handlers.Every fun handling => handling.Follows (gates (estimate drainer)) fun _ _ => True
  passes : world.passes.Every (Generation.OfJob worker)
  fixed : ∀ row ∈ world.db.merchantSettings.rows, row.merchantId = merchantId → row.monthlyAiSpendCapCents = capCents
  asked : world.handlers.Every fun handling =>
    ∀ cents asOf, handling.phase = .asking (some (merchantId, cents)) asOf → cents = capCents
  spends : Spends merchantId world.db
  within : ∀ month, monthSpent merchantId month world.db + estimate drainer * inFlight merchantId month world ≤
    capCents * microcentsPerCent

variable {drainer worker} {world after : World} {slot : Nat} {handling : Handling}

theorem estimate_nonneg (tokens : 0 ≤ drainer.aiConfig.maxTokens) : 0 ≤ estimate drainer :=
  price_nonneg (by decide) tokens

theorem monthSpent_congr (same : next.aiSpendBuckets = db.aiSpendBuckets) (merchantId : MerchantId) (month : Date) :
    monthSpent merchantId month next = monthSpent merchantId month db := by
  unfold monthSpent
  rw [same]

/-- Fewer in flight need no more room. -/
theorem within_of_le {unit spent budget : Int} {held left : Nat} (nonneg : 0 ≤ unit) (fewer : left ≤ held)
    (within : spent + unit * held ≤ budget) : spent + unit * left ≤ budget := by
  have room : unit * (left : Int) ≤ unit * held := Int.mul_le_mul_of_nonneg_left (by omega) nonneg
  omega

/-- A handler puts at most one generation more in flight, when its check passes. -/
theorem inFlight_handled {view : Outbox.View} {next : Handling} {choice : Outbox.Choice}
    (live : world.handlers.task? slot = some handling)
    (follows : handling.Follows (gates (estimate drainer)) fun _ _ => True)
    (prompt : counted drainer merchantId capCents world choice handling = true)
    (advanced : handling.advance (gates (estimate drainer)) Outbox.exec world.view choice = some (view, next)) (month : Date) :
    (world.handlers.put slot next).tally (reserves merchantId month) + view.db.aiGenerations.count (awaiting merchantId month) ≤
        inFlight merchantId month world ∨
      (∃ asOf cents asked, utcFirstOfMonth asOf = month ∧ handling.phase = .asking (some (merchantId, cents)) asked ∧
        handling.pending? = some (.query (.monthSpend merchantId asOf)) ∧
        sumMonthSpend merchantId asOf world.db + estimate drainer ≤ cents * microcentsPerCent) ∧
      (world.handlers.put slot next).tally (reserves merchantId month) + view.db.aiGenerations.count (awaiting merchantId month) =
        inFlight merchantId month world + 1 := by
  obtain ⟨request, answer, asks, allowed, executed, _, phase, _⟩ := follows.advance advanced
  have moved := Pool.tally_put next live (reserves merchantId month)
  obtain ⟨_, _, generations⟩ := handled_cases allowed executed
  unfold inFlight
  by_cases reserved : reserves merchantId month next = true
  · obtain ⟨_, asOf, granted, current⟩ := reserves_iff.mp reserved
    rcases granted_of_next allowed executed (phase.symm.trans granted) with ⟨before, creates⟩ | ⟨cents, asked, asking, rfl, within⟩
    · have held : reserves merchantId month handling = true := reserves_iff.mpr ⟨by rw [asks]; rfl, asOf, before, current⟩
      rcases generations with same | ⟨eventId, owner, customerId, args, rfl, _⟩
      · simp only [held, reserved, if_true] at moved
        rw [same]
        left
        change _ + world.db.aiGenerations.count _ ≤ _
        omega
      · exact absurd rfl (creates eventId owner customerId args)
    · have idle : reserves merchantId month handling = false := by
        simp [reserves, asking]
      refine .inr ⟨⟨asOf, cents, asked, current, asking, asks, within⟩, ?_⟩
      rcases generations with same | ⟨eventId, owner, customerId, args, created, _⟩
      · simp only [idle, reserved, if_true, Bool.false_eq_true, if_false] at moved
        rw [same]
        change _ + world.db.aiGenerations.count _ = _
        omega
      · cases created
  · left
    simp only [reserved, Bool.false_eq_true, if_false] at moved
    rcases generations with same | ⟨eventId, owner, customerId, args, rfl, counts⟩
    · rw [same]
      change _ + world.db.aiGenerations.count _ ≤ _
      omega
    · rw [counts]
      change _ + (world.db.aiGenerations.count _ + _) ≤ _
      split
      · rename_i here
        obtain ⟨asOf, granted⟩ := granted_of_creates allowed
        simp only [counted, asks, granted, decide_eq_true_eq] at prompt
        have held : reserves merchantId month handling = true :=
          reserves_iff.mpr ⟨by rw [asks]; rfl, asOf, here.1 ▸ granted, (prompt here.1).symm.trans here.2⟩
        simp only [held, if_true] at moved
        omega
      · omega

/-- A completion that costs no more than its estimate takes at least its own out of flight. -/
theorem within_paid {completed : Completion} {unit budget : Int} {held : Nat} (pays : Pays db next scope date completed)
    (nonneg : 0 ≤ unit) (frugal : scope = merchantId → completed.args.costMicrocents ≤ unit ∧
      ∀ row ∈ db.aiGenerations.rows, pending scope completed.args.aiGenerationId row = true →
        utcFirstOfMonth date = utcFirstOfMonth row.createdAt)
    (within : monthSpent merchantId month db + unit * (held + db.aiGenerations.count (awaiting merchantId month) : Nat) ≤ budget) :
    monthSpent merchantId month next + unit * (held + next.aiGenerations.count (awaiting merchantId month) : Nat) ≤ budget := by
  have landed := pays.landed merchantId month
  rw [pays.spent]
  split
  · rename_i here
    obtain ⟨rfl, current⟩ := here
    obtain ⟨frugal, timely⟩ := frugal rfl
    obtain ⟨row, stored, matched⟩ := pays.found
    have waiting : awaiting scope month row = true := by
      have facts := matched
      simp only [pending, Bool.and_eq_true, beq_iff_eq] at facts
      simp only [awaiting, Bool.and_eq_true, beq_iff_eq]
      exact ⟨⟨facts.2, facts.1.2⟩, (timely row stored matched).symm.trans current⟩
    have lands : 0 < db.aiGenerations.count fun row =>
        awaiting scope month row && pending scope completed.args.aiGenerationId row :=
      Table.count_pos_iff.mpr ⟨row, stored, by rw [waiting, matched]; rfl⟩
    have room := within_of_le nonneg
      (show held + next.aiGenerations.count (awaiting scope month) + 1 ≤ held + db.aiGenerations.count (awaiting scope month) by omega) within
    rw [Int.natCast_add, Int.natCast_one, Int.mul_add, Int.mul_one] at room
    omega
  · rw [Int.add_zero]
    exact within_of_le nonneg (by omega) within

/-- The check of a generation, alone or with the others in flight. -/
theorem within_granted {asOf : Date} (spends : Spends merchantId world.db) {choice : Outbox.Choice}
    (asks : handling.pending? = some (.query (.monthSpend merchantId asOf)))
    (roomy : counted drainer merchantId capCents world choice handling = true)
    (within : sumMonthSpend merchantId asOf world.db + estimate drainer ≤ capCents * microcentsPerCent) :
    monthSpent merchantId (utcFirstOfMonth asOf) world.db +
      estimate drainer * (inFlight merchantId (utcFirstOfMonth asOf) world + 1) ≤ capCents * microcentsPerCent := by
  rcases Nat.eq_zero_or_pos (inFlight merchantId (utcFirstOfMonth asOf) world) with alone | others
  · have recorded := monthSpent_le spends asOf
    rw [alone]
    simp only [Int.natCast_zero, Int.zero_add, Int.mul_one]
    omega
  · simp only [counted, asks, decide_eq_true_eq] at roomy
    exact roomy trivial within others

theorem Capped.handle (capped : Capped drainer worker merchantId capCents world) (tokens : 0 ≤ drainer.aiConfig.maxTokens)
    {choice : Outbox.Choice} (safe : covered drainer worker merchantId capCents world (.handle slot choice) = true)
    (moved : (machine drainer worker).step world (.handle slot choice) = some after) :
    Capped drainer worker merchantId capCents after := by
  obtain ⟨handling, live, moved⟩ := Option.bind_eq_some_iff.mp moved
  obtain ⟨⟨view, next⟩, advanced, rfl⟩ := Option.map_eq_some_iff.mp moved
  have follows : handling.Follows (gates (estimate drainer)) fun _ _ => True := capped.handlers.get live
  have roomy : counted drainer merchantId capCents world choice handling = true := by
    simpa [covered, live] using safe
  obtain ⟨request, answer, asks, allowed, executed, tag, phase, onward⟩ := follows.advance advanced
  obtain ⟨settings, buckets, _⟩ := handled_cases allowed executed
  constructor
  · exact capped.handlers.put onward
  · exact capped.passes
  · intro row stored
    exact capped.fixed row (settings ▸ stored)
  · refine capped.asked.put fun cents asOf asking => ?_
    rcases asking_of_next executed (phase.symm.trans asking) with ⟨before, asked⟩ | ⟨row, stored, ours, rfl⟩
    · exact capped.asked.get live cents before asked
    · exact capped.fixed row stored ours
  · intro bucket member
    exact capped.spends bucket (buckets ▸ member)
  · intro month
    have before := capped.within month
    rw [monthSpent_congr buckets]
    rcases inFlight_handled live follows roomy advanced month with fewer | ⟨⟨asOf, cents, asked, rfl, asking, checks, within⟩, more⟩
    · exact within_of_le (estimate_nonneg tokens) fewer before
    · cases capped.asked.get live cents asked asking
      have room := within_granted capped.spends checks roomy within
      unfold inFlight
      rw [more]
      exact room

theorem Capped.act (capped : Capped drainer worker merchantId capCents world) (tokens : 0 ≤ drainer.aiConfig.maxTokens)
    {choice : Generation.Choice} (plain : admits merchantId capCents world (.act slot choice) = true)
    (safe : covered drainer worker merchantId capCents world (.act slot choice) = true)
    (moved : (machine drainer worker).step world (.act slot choice) = some after) :
    Capped drainer worker merchantId capCents after := by
  obtain ⟨task, live, moved⟩ := Option.bind_eq_some_iff.mp moved
  obtain ⟨⟨db, next⟩, advanced, rfl⟩ := Option.map_eq_some_iff.mp moved
  have follows : task.Follows (Generation.passes worker task.tag) fun _ _ => True := capped.passes.get live
  obtain ⟨request, answer, asks, of, executed, tag, _, onward⟩ := follows.advance advanced
  simp only [admits, live, Option.bind_some, asks, Option.all_some] at plain
  simp only [covered, live, Option.bind_some, asks, Option.all_some] at safe
  have passes : (world.passes.put slot next).Every (Generation.OfJob worker) := by
    refine capped.passes.put ?_
    unfold Generation.OfJob
    rwa [tag]
  obtain ⟨settings, ⟨buckets, fewer⟩ | ⟨scope, completed, rfl, pays⟩⟩ := called_cases executed
  · constructor
    · exact capped.handlers
    · exact passes
    · exact fun row stored => capped.fixed row (settings ▸ stored)
    · exact capped.asked
    · exact fun bucket member => capped.spends bucket (buckets ▸ member)
    · intro month
      have before := capped.within month
      rw [monthSpent_congr buckets]
      exact within_of_le (estimate_nonneg tokens) (Nat.add_le_add_left (fewer merchantId month) _) before
  · simp only [decide_eq_true_eq] at plain
    simp only [expected, decide_eq_true_eq] at safe
    obtain ⟨_, shop, result, costMicrocents, minted, costs, rfl⟩ := of
    have priced : price worker.aiConfig result.inputTokens result.outputTokens = costMicrocents := by
      unfold price
      rw [costs]
      rfl
    have gain : 0 ≤ costMicrocents := priced ▸ price_nonneg plain.1 plain.2
    constructor
    · exact capped.handlers
    · exact passes
    · exact fun row stored => capped.fixed row (settings ▸ stored)
    · exact capped.asked
    · exact pays.spends merchantId (fun _ => gain) capped.spends
    · intro month
      refine within_paid pays (estimate_nonneg tokens) (fun ours => ?_) (capped.within month)
      obtain ⟨frugal, timely⟩ := safe ours
      exact ⟨priced ▸ frugal, timely⟩

theorem Capped.step {label : Label} (capped : Capped drainer worker merchantId capCents world)
    (tokens : 0 ≤ drainer.aiConfig.maxTokens) (plain : admits merchantId capCents world label = true)
    (safe : covered drainer worker merchantId capCents world label = true)
    (moved : (machine drainer worker).step world label = some after) : Capped drainer worker merchantId capCents after := by
  cases label with
  | transition row =>
    cases moved
    constructor
    · exact capped.handlers.spawn handleCustomerStateChanged_gates
    · exact capped.passes
    · exact capped.fixed
    · exact capped.asked.spawn nofun
    · exact capped.spends
    · intro month
      refine within_of_le (estimate_nonneg tokens) (Nat.le_of_eq ?_) (capped.within month)
      simp [inFlight, Pool.tally_spawn, reserves]
  | handle slot choice => exact capped.handle tokens safe moved
  | drop slot =>
    obtain ⟨handling, live, rfl⟩ := Option.map_eq_some_iff.mp moved
    constructor
    · exact capped.handlers.clear
    · exact capped.passes
    · exact capped.fixed
    · exact capped.asked.clear
    · exact capped.spends
    · intro month
      refine within_of_le (estimate_nonneg tokens) ?_ (capped.within month)
      exact Nat.add_le_add_right (Pool.tally_clear_le live _) _
  | deliver job =>
    cases moved
    exact { capped with passes := capped.passes.spawn Generation.processAiGenerateJob_makes }
  | act slot choice => exact capped.act tokens plain safe moved
  | crash slot =>
    obtain ⟨task, live, rfl⟩ := Option.map_eq_some_iff.mp moved
    exact { capped with passes := capped.passes.clear }
  | outside after =>
    cases moved
    refine { capped with fixed := fun row stored => ?_ }
    exact of_decide_eq_true (List.all_eq_true.mp plain row stored)

/-- Nothing is running or awaits completion, and every month is within the cap. -/
structure Starts (merchantId : MerchantId) (capCents : Int) (world : World) : Prop where
  handlers : world.handlers = []
  passes : world.passes = []
  settled : ∀ row ∈ world.db.aiGenerations.rows, row.merchantId = merchantId → row.status ≠ .pending
  fixed : ∀ row ∈ world.db.merchantSettings.rows, row.merchantId = merchantId → row.monthlyAiSpendCapCents = capCents
  spends : Spends merchantId world.db
  recorded : ∀ month, monthSpent merchantId month world.db ≤ capCents * microcentsPerCent

theorem Starts.capped {origin : World} (starts : Starts merchantId capCents origin) :
    Capped drainer worker merchantId capCents origin := by
  have nothing (month : Date) : inFlight merchantId month origin = 0 := by
    unfold inFlight
    rw [starts.handlers, Nat.add_eq_zero_iff]
    refine ⟨rfl, List.countP_eq_zero.mpr fun row stored waiting => ?_⟩
    simp only [awaiting, Bool.and_eq_true, beq_iff_eq] at waiting
    exact starts.settled row stored waiting.1.1 waiting.1.2
  constructor
  · intro handling member
    simp [starts.handlers] at member
  · intro task member
    simp [starts.passes] at member
  · exact starts.fixed
  · intro handling member
    simp [starts.handlers] at member
  · exact starts.spends
  · intro month
    rw [nothing]
    simpa using starts.recorded month

/-- In every interleaving of handlers and completions in which each passing check has room for what
is in flight and no generation costs more than its estimate, no month exceeds the cap. -/
theorem spend_within_cap {origin last : World} (tokens : 0 ≤ drainer.aiConfig.maxTokens)
    (starts : Starts merchantId capCents origin)
    (reach : (machine drainer worker).Reach (fun world label => (admits merchantId capCents world label &&
      covered drainer worker merchantId capCents world label) = true) origin last) :
    ∀ month, monthSpent merchantId month last.db ≤ capCents * microcentsPerCent := by
  intro month
  have capped : Capped drainer worker merchantId capCents last :=
    reach.invariant starts.capped fun middle label final allowed moved capped => by
      obtain ⟨plain, safe⟩ := Bool.and_eq_true_iff.mp allowed
      exact capped.step tokens plain safe moved
  have within := capped.within month
  have held : 0 ≤ estimate drainer * (inFlight merchantId month last : Int) :=
    Int.mul_nonneg (estimate_nonneg tokens) (Int.natCast_nonneg _)
  omega

end Runs

section Samples

open Generation (raceContext)

def winbackWorker : WorkerContext := { raceContext with aiConfig := Outbox.winbackContext.aiConfig }

/-- The merchant of the lapse, with a cap. -/
def thrifty (monthlyAiSpendCapCents : Nat) : World where
  db := { Outbox.oneLapse.db with merchantSettings := .single { merchantId := "m", monthlyAiSpendCapCents } }

/-- The lapse is handled, up to the enqueue of its generation. -/
def lapses (slot : Nat) (generationId : String) (messageId : MessageId) : List Label :=
  .transition Outbox.lapse :: List.replicate 8 (.handle slot {}) ++
    [.handle slot { generationId, messageId }, .handle slot {}]

/-- The generation is picked up, made with the estimated tokens and completed. -/
def completes (slot : Nat) (generationId : String) : List Label :=
  .deliver ⟨some generationId, 0, ⟨generationId, "m", "c"⟩⟩ ::
    List.replicate 4 (.act slot { provider := .ok ⟨"text", 500, 300, 800, 900⟩ })

def spend? (capCents : Nat) (check : World → Label → Bool) (labels : List Label) : Option World :=
  (machine Outbox.winbackContext winbackWorker).runWhere check (thrifty capCents) labels

/-- Two generations are in flight before the first is completed. -/
def twice : List Label := lapses 0 "g" "s" ++ lapses 1 "h" "t" ++ completes 0 "g" ++ completes 1 "h"

theorem starts_thrifty (capCents : Nat) : Starts "m" capCents (thrifty capCents) where
  handlers := rfl
  passes := rfl
  settled := fun _ member => by simp [thrifty, Outbox.oneLapse] at member
  fixed := by simp [thrifty]
  spends := fun _ member => by simp [thrifty, Outbox.oneLapse] at member
  recorded := fun _ => Int.mul_nonneg (Int.natCast_nonneg _) (by decide)

def onceCovered (world : World) (label : Label) : Bool :=
  admits "m" 2 world label && covered Outbox.winbackContext winbackWorker "m" 2 world label

theorem spends_covered : (spend? 2 onceCovered twice).isSome = true := by decide

/-- Under a cap of two cents there is room for both. -/
theorem spend_within_cap_once : ∃ last, spend? 2 onceCovered twice = some last ∧
    monthSpent "m" 0 last.db = 136_000 ∧ ∀ month, monthSpent "m" month last.db ≤ 2 * microcentsPerCent :=
  ⟨_, (Option.some_get spends_covered).symm, by decide,
    spend_within_cap (by decide) (starts_thrifty 2) (Machine.reach_get spends_covered)⟩

theorem spends_twice : (spend? 1 (admits "m" 1) twice).isSome = true := by decide

/-- Under a cap of one, the second check does not see the generation that the first one let through. -/
theorem cap_exceeded_by_two : ¬∀ (drainer : DrainerContext) (worker : WorkerContext) (merchantId : MerchantId) (capCents : Int)
    (origin last : World), 0 ≤ drainer.aiConfig.maxTokens → Starts merchantId capCents origin →
    (machine drainer worker).Reach (fun world label => admits merchantId capCents world label = true) origin last →
    ∀ month, monthSpent merchantId month last.db ≤ capCents * microcentsPerCent := by
  intro claim
  have within := claim Outbox.winbackContext winbackWorker "m" 1 (thrifty 1) _ (by decide) (starts_thrifty 1)
    (Machine.reach_get spends_twice) 0
  revert within
  decide

end Samples

end WinBack.Spend
