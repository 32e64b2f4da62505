import WinBack.Outbox.System

/-! What a tick has done in its transaction so far, and the proof that the drain loop and
its handlers make each call only where it belongs. -/

namespace WinBack.Outbox

open Library Script

/-- The rows a tick has claimed, the events it has created a generation for, and the one of
them whose processed mark is still to come. A tick that failed before that mark, or was
handed one row twice, is spoiled: nothing is known of it. -/
structure Phase where
  claimed : List String := []
  created : List String := []
  unmarked : Option String := none
  spoiled : Bool := false
  deriving DecidableEq, Repr

/-- The rows are created under the ids that the store picks. -/
def Named (args : String → MessageId → GenerationArgs) : Prop :=
  ∀ generationId messageId, (args generationId messageId).generationId = generationId ∧
    (args generationId messageId).messageId = messageId

namespace Phase

def create (phase : Phase) (eventId : String) : Phase :=
  { phase with
    created := eventId :: phase.created
    unmarked := some eventId }

def fail (phase : Phase) : Phase := { phase with spoiled := phase.spoiled || phase.unmarked.isSome }

def allows (phase : Phase) : Call → Prop
  | .claimBatch _ => phase = {}
  | .createGeneration eventId _ _ args =>
    phase.unmarked = none ∧ eventId ∈ phase.claimed ∧ eventId ∉ phase.created ∧ Named args
  | .mark id .processed => id ∈ phase.claimed ∧ ∀ eventId ∈ phase.unmarked, eventId = id
  | .mark id _ => id ∈ phase.claimed ∧ phase.unmarked = none
  | .enqueue _ => True
  | _ => phase.unmarked = none

def next (phase : Phase) (request : Call) (answer : Except Thrown request.Value) : Phase :=
  match request, answer with
  | .claimBatch _, .ok rows =>
    { claimed := rows.map (·.id)
      spoiled := phase.spoiled || !decide (rows.map (·.id)).Nodup }
  | .createGeneration eventId _ _ _, .ok _ => phase.create eventId
  | .mark _ .processed, .ok _ => { phase with unmarked := none }
  | .commit, _ | .rollback, _ => { spoiled := phase.spoiled }
  | _, .error _ => phase.fail
  | _, .ok _ => phase

end Phase

def discipline : Discipline Call Call.Value Thrown Phase where
  allowed phase request := phase.spoiled = true ∨ phase.allows request
  next := Phase.next

/-- The calls that neither open, write nor close the drain transaction, nor create. -/
def Call.quiet : Call → Bool
  | .query _ | .clock | .incrementAndCheck _ _ | .findRecentPurchasedTitles _ _ | .appendAudit _
  | .process _ _ _ _ | .handled _ | .markDeferredFailed _ _ => true
  | _ => false

variable {phase : Phase} {request : Call}

theorem Phase.fail_idle (idle : phase.unmarked = none) : phase.fail = phase := by
  cases phase
  cases idle
  simp [fail]

theorem Phase.allows_quiet (quiet : request.quiet = true) (idle : phase.unmarked = none) : phase.allows request := by
  cases request <;> first | exact idle | exact absurd quiet Bool.false_ne_true

theorem Phase.next_quiet (quiet : request.quiet = true) (idle : phase.unmarked = none)
    (answer : Except Thrown request.Value) : phase.next request answer = phase := by
  cases request <;> first
    | exact absurd quiet Bool.false_ne_true
    | cases answer with
      | error thrown => exact fail_idle idle
      | ok value => rfl

/-- A failed mark outside the gap between a generation and its own mark. -/
theorem Phase.next_mark_error (idle : phase.unmarked = none) (id : String) (mark : Mark) (thrown : Thrown) :
    phase.next (.mark id mark) (.error thrown) = phase := by
  cases mark <;> exact fail_idle idle

theorem Phase.allows_failed {id : String} {mark : Mark} (mine : id ∈ phase.claimed) (idle : phase.unmarked = none)
    (failed : mark ≠ .processed) : phase.allows (.mark id mark) := by
  cases mark with
  | processed => exact absurd rfl failed
  | failed error => exact ⟨mine, idle⟩
  | deadLettered error => exact ⟨mine, idle⟩

theorem Phase.next_failed {mark : Mark} (idle : phase.unmarked = none) (failed : mark ≠ .processed) (id : String)
    (answer : Except Thrown Unit) : phase.next (.mark id mark) answer = phase := by
  cases answer with
  | error thrown => exact next_mark_error idle id mark thrown
  | ok value =>
    cases mark with
    | processed => exact absurd rfl failed
    | failed error => rfl
    | deadLettered error => rfl

theorem Phase.next_spoiled (spoiled : phase.spoiled = true) (answer : Except Thrown request.Value) :
    (phase.next request answer).spoiled = true := by
  unfold next
  split <;> simp [create, fail, spoiled]

section Obeys

variable {Result Next : Type} {post : Phase → Except Thrown Result → Prop}

/-- Anything goes once a tick is spoiled. -/
theorem obeys_spoiled (script : Program Result) (spoiled : phase.spoiled = true) :
    script.Obeys discipline phase fun reached _ => reached.spoiled = true := by
  induction script generalizing phase with
  | done outcome => exact spoiled
  | call request resume ih => exact ⟨.inl spoiled, fun answer => ih answer (Phase.next_spoiled spoiled answer)⟩

/-- A quiet call leaves an idle phase as it is. -/
theorem obeys_quiet_bind {rest : request.Value → Program Result} (idle : phase.unmarked = none)
    (quiet : request.quiet = true) (fails : ∀ thrown, post phase (.error thrown))
    (obeys : ∀ answer, Obeys discipline phase (rest answer) post) :
    Obeys discipline phase (perform request >>= rest) post := by
  refine obeys_perform_bind.mpr ⟨.inr (Phase.allows_quiet quiet idle), fun thrown => ?_, fun answer => ?_⟩
  · rw [show discipline.next phase request (.error thrown) = phase from Phase.next_quiet quiet idle _]
    exact fails thrown
  · rw [show discipline.next phase request (.ok answer) = phase from Phase.next_quiet quiet idle _]
    exact obeys answer

theorem obeys_quiet {post : Phase → Except Thrown request.Value → Prop} (idle : phase.unmarked = none)
    (quiet : request.quiet = true) (holds : ∀ answer, post phase answer) :
    Obeys discipline phase (perform request) post := by
  refine ⟨.inr (Phase.allows_quiet quiet idle), fun answer => ?_⟩
  change post (phase.next request answer) answer
  rw [Phase.next_quiet quiet idle]
  exact holds answer

theorem obeys_orThrow {Phase : Type} {discipline : Discipline Call Call.Value Thrown Phase} {phase : Phase}
    {post : Phase → Except Thrown Result → Prop} {result : Except Thrown Next} {rest : Next → Program Result}
    (fails : ∀ thrown, post phase (.error thrown)) (obeys : ∀ value, Obeys discipline phase (rest value) post) :
    Obeys discipline phase (orThrow result >>= rest) post := by
  cases result with
  | error thrown => exact fails thrown
  | ok value => exact obeys value

/-- What a handler of one row may have done: nothing, or a generation for its event. -/
def Handled (phase : Phase) (id : String) (reached : Phase) (outcome : Except Thrown Unit) : Prop :=
  reached.spoiled = true ∨ reached = phase ∨ (outcome = .ok () ∧ reached = phase.create id)

variable {context : DrainerContext} {row : OutboxEvent} {payload : CustomerStateChangedPayload} {shop : String}
  {settings : MerchantSettings} {merchant : Merchant}

theorem withinHourlyCap_bind {rest : Bool → Program Result} (idle : phase.unmarked = none)
    (fails : ∀ thrown, post phase (.error thrown)) (obeys : ∀ within, Obeys discipline phase (rest within) post) :
    Obeys discipline phase (withinHourlyCap row payload shop settings >>= rest) post := by
  rw [obeys_bind]
  refine obeys_quiet_bind idle rfl fails fun rateLimit => ?_
  refine obeys_ite.mpr ⟨fun _ => obeys true, fun _ => ?_⟩
  refine obeys_quiet_bind idle rfl fails fun now => ?_
  exact obeys_quiet_bind idle rfl fails fun _ => obeys false

theorem withinSpendCap_bind {rest : Bool → Program Result} (idle : phase.unmarked = none)
    (fails : ∀ thrown, post phase (.error thrown)) (obeys : ∀ within, Obeys discipline phase (rest within) post) :
    Obeys discipline phase (withinSpendCap context row payload shop settings >>= rest) post := by
  rw [obeys_bind]
  refine obeys_quiet_bind idle rfl fails fun now => ?_
  refine obeys_quiet_bind idle rfl fails fun currentSpendMicrocents => ?_
  refine obeys_orThrow fails fun estimatedCallMicrocents => ?_
  refine obeys_ite.mpr ⟨fun _ => obeys true, fun _ => ?_⟩
  exact obeys_quiet_bind idle rfl fails fun _ => obeys false

section Row

variable (idle : phase.unmarked = none) (mine : row.id ∈ phase.claimed) (new : row.id ∉ phase.created)
include idle mine new

theorem createAndEnqueue_obeys :
    (createAndEnqueue context row payload merchant settings).Obeys discipline phase (Handled phase row.id) := by
  have fails : ∀ thrown, Handled phase row.id phase (.error thrown) := fun _ => .inr (.inl rfl)
  refine obeys_quiet_bind idle rfl fails fun customer => ?_
  cases customer with
  | none => exact .inr (.inl rfl)
  | some customer =>
    refine obeys_quiet_bind idle rfl fails fun recentProducts => ?_
    refine obeys_orThrow fails fun aiTone => ?_
    refine obeys_perform_bind.mpr ⟨.inr ⟨idle, mine, new, fun _ _ => ⟨rfl, rfl⟩⟩, fun thrown => ?_, fun aiGenerationId => ?_⟩
    · exact .inr (.inl (Phase.fail_idle idle))
    · refine ⟨.inr trivial, fun answer => ?_⟩
      cases answer with
      | error thrown =>
        refine .inl ?_
        simp [discipline, Phase.next, Phase.fail, Phase.create]
      | ok value => exact .inr (.inr ⟨rfl, rfl⟩)

theorem generateForTransition_obeys :
    (generateForTransition context row payload).Obeys discipline phase (Handled phase row.id) := by
  have fails : ∀ thrown, Handled phase row.id phase (.error thrown) := fun _ => .inr (.inl rfl)
  have skips : Handled phase row.id phase (.ok ()) := .inr (.inl rfl)
  refine obeys_quiet_bind idle rfl fails fun billing => ?_
  refine obeys_ite.mpr ⟨fun _ => skips, fun _ => ?_⟩
  refine obeys_quiet_bind idle rfl fails fun merchant => ?_
  cases merchant with
  | none => exact skips
  | some merchant =>
    refine obeys_quiet_bind idle rfl fails fun settings => ?_
    cases settings with
    | none => exact skips
    | some settings =>
      refine withinHourlyCap_bind idle fails fun within => ?_
      refine obeys_ite.mpr ⟨fun _ => ?_, fun _ => skips⟩
      refine withinSpendCap_bind idle fails fun within => ?_
      exact obeys_ite.mpr ⟨fun _ => createAndEnqueue_obeys idle mine new, fun _ => skips⟩

theorem handleCustomerStateChanged_obeys :
    (handleCustomerStateChanged context row).Obeys discipline phase (Handled phase row.id) := by
  refine obeys_orThrow (fun _ => .inr (.inl rfl)) fun payload => ?_
  exact obeys_ite.mpr ⟨fun _ => generateForTransition_obeys idle mine new, fun _ => .inr (.inl rfl)⟩

end Row

theorem handleGdpr_obeys (topic : GdprTopic) (row : OutboxEvent) (idle : phase.unmarked = none) :
    (handleGdpr topic row).Obeys discipline phase fun reached _ => reached = phase :=
  obeys_orThrow (fun _ => rfl) fun _ => obeys_quiet idle rfl fun _ => rfl

/-- Only the events of transitions create. -/
theorem dispatchEvent_quiet (idle : phase.unmarked = none)
    (other : OutboxEventType.ofText? row.type ≠ some .customerStateChanged) :
    (dispatchEvent context row).Obeys discipline phase fun reached _ => reached = phase := by
  unfold dispatchEvent
  split
  · rfl
  · rename_i type found
    cases type with
    | customerStateChanged => exact absurd found other
    | gdprCustomerDataRequested | gdprCustomerRedacted | gdprShopRedacted => exact handleGdpr_obeys _ row idle
    | _ => first | rfl | exact obeys_quiet idle rfl fun _ => rfl

theorem dispatchEvent_obeys (idle : phase.unmarked = none) (mine : row.id ∈ phase.claimed)
    (new : row.id ∉ phase.created) :
    (dispatchEvent context row).Obeys discipline phase (Handled phase row.id) := by
  by_cases transition : OutboxEventType.ofText? row.type = some .customerStateChanged
  · simp only [dispatchEvent, transition]
    exact handleCustomerStateChanged_obeys idle mine new
  · exact (dispatchEvent_quiet idle transition).mono fun reached outcome same => .inr (.inl same)

/-- Where a row leaves an idle tick: idle, with at most its own event created. -/
def Drained (phase : Phase) (id : String) (reached : Phase) : Prop :=
  reached.claimed = phase.claimed ∧ reached.unmarked = none ∧
    (reached.created = phase.created ∨ reached.created = id :: phase.created)

theorem failureMark_ne (thrown : Thrown) : failureMark context row thrown ≠ .processed := by
  unfold failureMark
  split <;> exact nofun

theorem mark_failure_obeys (idle : phase.unmarked = none) (mine : row.id ∈ phase.claimed) (thrown : Thrown) :
    (mark row.id (failureMark context row thrown)).Obeys discipline phase fun reached _ => reached = phase := by
  have failed : failureMark context row thrown ≠ .processed := failureMark_ne thrown
  refine ⟨.inr (Phase.allows_failed mine idle failed), fun answer => ?_⟩
  change phase.next _ answer = phase
  exact Phase.next_failed idle failed row.id answer

/-- The failure of a handler or of the processed mark, with the mark that records it. -/
theorem drainRow_obeys (idle : phase.unmarked = none) (mine : row.id ∈ phase.claimed) (new : row.id ∉ phase.created) :
    (drainRow context row).Obeys discipline phase fun reached _ =>
      reached.spoiled = true ∨ Drained phase row.id reached := by
  have same : Drained phase row.id phase := ⟨rfl, idle, .inl rfl⟩
  have records : ∀ thrown, (mark row.id (failureMark context row thrown)).Obeys discipline phase
      fun reached _ => reached.spoiled = true ∨ Drained phase row.id reached := fun thrown =>
    (mark_failure_obeys idle mine thrown).mono fun reached outcome here => .inr (here ▸ same)
  refine (obeys_tryCatch _ _ _ _).mpr ((obeys_bind _ _ _ _).mpr ?_)
  refine (dispatchEvent_obeys idle mine new).mono fun reached outcome handled => ?_
  rcases handled with spoiled | here | ⟨returned, created⟩
  · cases outcome with
    | error thrown => exact (obeys_spoiled _ spoiled).mono fun _ _ => .inl
    | ok value =>
      have rest : (tryCatch (mark row.id .processed) fun thrown => mark row.id (failureMark context row thrown)).Obeys
          discipline reached fun reached _ => reached.spoiled = true ∨ Drained phase row.id reached :=
        (obeys_spoiled _ spoiled).mono fun _ _ => .inl
      exact (obeys_tryCatch _ _ _ _).mp rest
  · subst here
    cases outcome with
    | error thrown => exact records thrown
    | ok value =>
      refine ⟨.inr ⟨mine, ?_⟩, fun answer => ?_⟩
      · simp [idle]
      · cases answer with
        | error thrown =>
          change Obeys discipline (reached.next (.mark row.id .processed) (.error thrown)) _ _
          rw [Phase.next_mark_error idle]
          exact records thrown
        | ok value => exact .inr ⟨rfl, rfl, .inl rfl⟩
  · subst returned created
    refine ⟨.inr ⟨mine, ?_⟩, fun answer => ?_⟩
    · simp [Phase.create]
    · cases answer with
      | error thrown =>
        refine (obeys_spoiled (mark row.id (failureMark context row thrown)) ?_).mono fun _ _ => .inl
        simp [discipline, Phase.next, Phase.fail, Phase.create]
      | ok value => exact .inr ⟨rfl, rfl, .inr rfl⟩

/-- The rows that are left are claimed, distinct and have no generation yet. -/
structure Remaining (phase : Phase) (rows : List OutboxEvent) : Prop where
  idle : phase.unmarked = none
  distinct : (rows.map (·.id)).Nodup
  claimed : ∀ row ∈ rows, row.id ∈ phase.claimed
  new : ∀ row ∈ rows, row.id ∉ phase.created

theorem Remaining.tail {rest : List OutboxEvent} {reached : Phase} (remaining : Remaining phase (row :: rest))
    (drained : Drained phase row.id reached) : Remaining reached rest := by
  obtain ⟨claimed, idle, created⟩ := drained
  obtain ⟨fresh, distinct⟩ := List.nodup_cons.mp (List.map_cons ▸ remaining.distinct)
  refine ⟨idle, distinct, fun other later => ?_, fun other later listed => ?_⟩
  · rw [claimed]
    exact remaining.claimed other (List.mem_cons_of_mem _ later)
  · have apart := remaining.new other (List.mem_cons_of_mem _ later)
    rcases created with same | added
    · exact apart (same ▸ listed)
    · rcases List.mem_cons.mp (added ▸ listed) with named | old
      · exact fresh (named ▸ List.mem_map_of_mem later)
      · exact apart old

/-- The loop ends idle, and defers only rows that are marked before they are handled. -/
def Looped (reached : Phase) (outcome : Except Thrown (List OutboxEvent)) : Prop :=
  reached.spoiled = true ∨ reached.unmarked = none ∧
    ∀ deferredRows, outcome = .ok deferredRows → ∀ row ∈ deferredRows, marksBeforeInvoke row = true

theorem drainRows_obeys {rows : List OutboxEvent} (remaining : Remaining phase rows) :
    (drainRows context rows).Obeys discipline phase Looped := by
  induction rows generalizing phase with
  | nil =>
    refine .inr ⟨remaining.idle, fun deferredRows done => ?_⟩
    cases done
    exact nofun
  | cons row rest ih =>
    have mine := remaining.claimed row List.mem_cons_self
    have idle := remaining.idle
    refine obeys_ite.mpr ⟨fun before => ?_, fun _ => ?_⟩
    · refine obeys_perform_bind.mpr ⟨.inr ⟨mine, by simp [idle]⟩, fun thrown => ?_, fun value => ?_⟩
      · refine .inr ⟨?_, nofun⟩
        change (phase.next (.mark row.id .processed) (.error thrown)).unmarked = none
        rw [Phase.next_mark_error idle]
        exact idle
      · have drained : Drained phase row.id { phase with unmarked := none } := ⟨rfl, rfl, .inl rfl⟩
        refine (obeys_bind _ _ _ _).mpr ((ih (remaining.tail drained)).mono fun reached outcome looped => ?_)
        cases outcome with
        | error thrown => exact looped.imp id fun ended => ⟨ended.1, nofun⟩
        | ok deferredRows =>
          refine looped.imp id fun ended => ⟨ended.1, fun all done listed member => ?_⟩
          cases done
          rcases List.mem_cons.mp member with rfl | later
          · exact before
          · exact ended.2 deferredRows rfl listed later
    · refine (obeys_bind _ _ _ _).mpr ?_
      refine (drainRow_obeys idle mine (remaining.new row List.mem_cons_self)).mono fun reached outcome ended => ?_
      rcases ended with spoiled | drained
      · cases outcome with
        | error thrown => exact .inl spoiled
        | ok value => exact (obeys_spoiled _ spoiled).mono fun _ _ => .inl
      · cases outcome with
        | error thrown => exact .inr ⟨drained.2.1, nofun⟩
        | ok value => exact ih (remaining.tail drained)

theorem deferred_other (before : marksBeforeInvoke row = true) :
    OutboxEventType.ofText? row.type ≠ some .customerStateChanged := by
  intro found
  simp [marksBeforeInvoke, found, markBeforeInvokeEvents] at before

theorem runDeferred_obeys {rows : List OutboxEvent} (idle : phase.unmarked = none)
    (deferred : ∀ row ∈ rows, marksBeforeInvoke row = true) :
    (runDeferred context rows).Obeys discipline phase fun reached _ => reached = phase := by
  induction rows with
  | nil => rfl
  | cons row rest ih =>
    have rests := ih fun other later => deferred other (List.mem_cons_of_mem _ later)
    refine (obeys_bind _ _ _ _).mpr ((obeys_tryCatch _ _ _ _).mpr ?_)
    refine (dispatchEvent_quiet idle (deferred_other (deferred row List.mem_cons_self))).mono
      fun reached outcome here => ?_
    subst here
    cases outcome with
    | ok value => exact rests
    | error thrown =>
      refine (obeys_tryCatch _ _ _ _).mpr (obeys_quiet idle rfl fun answer => ?_)
      cases answer with
      | error thrown => exact rests
      | ok value => exact rests

theorem runDrainTick_obeys (context : DrainerContext) (batchSize : Nat) :
    (runDrainTick context batchSize).Obeys discipline {} fun _ _ => True := by
  refine (obeys_bind _ _ _ _).mpr ((obeys_bind _ _ _ _).mpr ((obeys_tryCatch _ _ _ _).mpr ?_))
  have leaves : ∀ (phase : Phase) (thrown : Thrown), phase.spoiled = true ∨ phase.unmarked = none →
      (do perform .rollback; throw thrown : Program (Nat × List OutboxEvent)).Obeys discipline phase
        fun _ outcome => ∃ thrown, outcome = .error thrown := by
    intro phase thrown closes
    exact ⟨closes, fun answer => by cases answer <;> exact ⟨_, rfl⟩⟩
  refine obeys_perform_bind.mpr ⟨.inr rfl, fun thrown => ?_, fun rows => ?_⟩
  · exact (leaves _ thrown (.inr rfl)).mono fun _ outcome ended => by
      obtain ⟨thrown, rfl⟩ := ended
      trivial
  · refine (obeys_bind _ _ _ _).mpr ?_
    have loop : (drainRows context rows).Obeys discipline (discipline.next {} (.claimBatch batchSize) (.ok rows))
        Looped := by
      by_cases distinct : (rows.map (·.id)).Nodup
      · exact drainRows_obeys ⟨rfl, distinct, fun row member => List.mem_map_of_mem member, nofun⟩
      · refine (obeys_spoiled _ ?_).mono fun _ _ => .inl
        simp [discipline, Phase.next, distinct]
    refine loop.mono fun reached outcome looped => ?_
    have closes : reached.spoiled = true ∨ reached.unmarked = none := looped.imp id And.left
    cases outcome with
    | error thrown =>
      exact (leaves reached thrown closes).mono fun _ outcome ended => by
        obtain ⟨thrown, rfl⟩ := ended
        trivial
    | ok deferredRows =>
      refine obeys_perform_bind.mpr ⟨closes, fun _ => trivial, fun _ => ?_⟩
      refine (obeys_bind _ _ _ _).mpr ?_
      rcases looped with spoiled | ⟨idle, deferred⟩
      · refine (obeys_spoiled _ ?_).mono fun _ outcome _ => by cases outcome <;> trivial
        exact spoiled
      · refine (runDeferred_obeys rfl (deferred deferredRows rfl)).mono fun _ outcome _ => ?_
        cases outcome <;> trivial

end Obeys

end WinBack.Outbox
