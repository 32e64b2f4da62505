import WinBack.Library.Machine
import WinBack.Shopify.Standing

/-! Runs of the backfill runner, each cut off anywhere and followed by the next. -/

namespace WinBack.Runner

open Library

variable {Item Tables Seed Key Row : Type} [DecidableEq Key] {process : PageProcessor Item Tables Seed} {merchantId : MerchantId}
  {ingestion : Ingestion process merchantId Key Row} {resource : String} {connection : Connection Item} {prior store next : Store Tables}
  {once : Prop} {job : BackfillJob} {passes pageSize left : Nat} {progress : Progress} {choice : Choice Seed}

section Steps

variable (ingestion resource connection prior once)

/-- The head of the loop: what the run carries is what is stored. -/
def At (progress : Progress) (store : Store Tables) : Prop :=
  ∃ job passes, Standing ingestion resource connection prior once store job passes ∧ job.status ≠ .completed ∧
    (once → passes = 0) ∧ job.cursor = progress.cursor ∧ job.itemsProcessed = progress.itemsProcessed

/-- The job is finished, with so many items. -/
def Ended (itemsProcessed : Nat) (store : Store Tables) : Prop :=
  ∃ job passes, Standing ingestion resource connection prior once store job passes ∧ Finished connection job passes ∧
    job.itemsProcessed = itemsProcessed

/-- So is a run that returns as completed. -/
def Returned (outcome : Except Thrown BackfillRunResult) (store : Store Tables) : Prop :=
  ∀ result, outcome = .ok result → result.finalStatus = .completed →
    Ended ingestion resource connection prior once result.itemsProcessed store ∧
      (store.backfillJobs.find? (jobFor merchantId resource)).any (·.status = .completed) = true

variable {ingestion resource connection prior once}

theorem Standing.sound (stands : Standing ingestion resource connection prior once store job passes)
    (completed : job.status = .completed → Finished connection job passes) : Sound ingestion resource connection prior once store :=
  .inr ⟨job, passes, stands, completed⟩

theorem At.sound (here : At ingestion resource connection prior once progress store) :
    Sound ingestion resource connection prior once store := by
  obtain ⟨job, passes, stands, running, _⟩ := here
  exact stands.sound fun completed => absurd completed running

theorem Ended.sound {items : Nat} (ended : Ended ingestion resource connection prior once items store) :
    Sound ingestion resource connection prior once store := by
  obtain ⟨job, passes, stands, finished, _⟩ := ended
  exact stands.sound fun _ => finished

/-- A change of the status alone, to another than completed. -/
theorem Sound.update {change : BackfillJob → BackfillJob} {keeps : ∀ row, Indexed.index (change row) = Indexed.index row}
    {value : Unit} (sound : Sound ingestion resource connection prior once store)
    (updated : onJobs (BackfillJobRepository.updateJob merchantId resource change keeps) store = .ok (value, next))
    (cursor : ∀ job, (change job).cursor = job.cursor) (counted : ∀ job, (change job).itemsProcessed = job.itemsProcessed)
    (status : ∀ job, (change job).status ≠ .completed) : Sound ingestion resource connection prior once next := by
  rcases sound with ⟨absent, _⟩ | ⟨job, passes, stands, _⟩
  · have missing : store.backfillJobs.any (jobFor merchantId resource) = false :=
      List.any_eq_false.mpr fun row listed => Bool.eq_false_iff.mp (Table.find?_none_iff.mp absent row listed)
    obtain ⟨_, written, _⟩ := onJobs_ok updated
    cases (BackfillJobRepository.updateJob_ok written).1.symm.trans missing
  · exact (stands.update updated (cursor job) (counted job)).sound fun completed => absurd completed (status job)

/-- A call that is one transaction leaves the store or does what the transaction does. -/
theorem Sound.transact {Value : Type} {done : Except RepositoryError (Value × Store Tables)} {answer : Except Thrown Value}
    (sound : Sound ingestion resource connection prior once store) (ran : transact choice done store = (answer, next))
    (does : ∀ value, done = .ok (value, next) → Sound ingestion resource connection prior once next) :
    Sound ingestion resource connection prior once next := by
  rcases transact_cases ran with ⟨rfl, _⟩ | ⟨value, committed, _⟩
  · exact sound
  · exact does value committed

theorem fetch_ok {cursor : Option Cursor} {page : ResourcePage Item} (fetched : fetch connection cursor pageSize choice = .ok page) :
    1 ≤ pageSize ∧ page = connection.page pageSize cursor := by
  unfold fetch at fetched
  split at fetched
  · cases fetched
  · split at fetched
    · rename_i within
      cases fetched
      exact ⟨within.1, rfl⟩
    · cases fetched

/-- Nothing was counted, so the tables are as they were. -/
theorem Standing.restart (stands : Standing ingestion resource connection prior once store job passes)
    (cleared : job.cursor = none) (uncounted : job.itemsProcessed = 0) :
    Standing ingestion resource connection prior once store job 0 := by
  have counts := stands.counted
  have seen := stands.view
  rw [cleared, offset_none] at counts seen
  rw [uncounted, Nat.add_zero, eq_comm, Nat.mul_eq_zero] at counts
  refine { stands with view := ?_, counted := ?_, single := fun _ => ⟨Nat.zero_le 1, fun _ => rfl⟩ }
  · rw [seen, cleared, offset_none]
    rcases counts with rfl | empty
    · rfl
    · have nothing : connection.items = [] := List.length_eq_zero_iff.mp empty
      have same (count : Nat) : ingestion.passes connection.items count (ingestion.view prior.tables) =
          ingestion.view prior.tables := by
        cases count with
        | zero => rfl
        | succ count =>
          rw [passes_succ, nothing]
          rfl
      rw [same, same]
  · rw [uncounted, cleared, offset_none, Nat.zero_mul]

/-- The job that a run starts from. -/
theorem getOrCreate_standing (sound : Sound ingestion resource connection prior once store)
    (got : onJobs (BackfillJobRepository.getOrCreate merchantId resource pageSize) store = .ok (job, next)) :
    ∃ passes, Standing ingestion resource connection prior once next job passes ∧
      (job.status = .completed → Finished connection job passes) := by
  obtain ⟨backfillJobs, gotten, rfl⟩ := onJobs_ok got
  rcases sound with ⟨absent, steady, seen, published⟩ | ⟨stored, passes, stands, completed⟩
  · rcases BackfillJobRepository.getOrCreate_ok gotten with ⟨found, _⟩ | ⟨_, rfl, inserted⟩
    · rw [absent] at found
      cases found
    · refine ⟨0, ⟨?_, steady, Nat.zero_le _, seen, ?_, fun _ => ⟨Nat.zero_le 1, nofun⟩, published⟩, nofun⟩
      · dsimp only
        rw [Table.find?_insert? inserted, absent, Option.none_or]
        exact if_pos (by simp [jobFor])
      · rw [Nat.zero_mul]
        rfl
  · rcases BackfillJobRepository.getOrCreate_ok gotten with ⟨found, rfl⟩ | ⟨absent, _⟩
    · obtain rfl := Option.some.inj (found.symm.trans stands.found)
      exact ⟨passes, stands, completed⟩
    · cases absent.symm.trans stands.found

/-- The completion counts what is stored. -/
theorem complete_standing {pagesProcessed : Nat} {now : Date} {value : Unit}
    (stands : Standing ingestion resource connection prior once store job passes) (finished : Finished connection job passes)
    (done : complete merchantId resource pagesProcessed job.itemsProcessed now store = .ok (value, next)) :
    Standing ingestion resource connection prior once next (completed now job) passes := by
  obtain ⟨⟨_, between⟩, updated, rest⟩ := bind_eq_ok_iff.mp done
  cases rest
  have settled := stands.update updated rfl rfl
  refine { settled with published := fun held => ?_ }
  obtain ⟨events, listed, counted⟩ := settled.published held
  refine ⟨events ++ [_], by rw [listed, List.append_assoc], fun event member => ?_⟩
  rcases List.mem_append.mp member with earlier | last
  · exact counted event earlier
  · obtain rfl := List.mem_singleton.mp last
    exact ⟨pagesProcessed, by rw [(stands.finished finished).2 held]⟩

end Steps

section Runs

theorem keeps_attempted {State Result : Type} {serve : State → (request : Call Item) → Choice Seed → Except Thrown request.Value × State}
    {allowed : State → (request : Call Item) → Choice Seed → Prop} {safe : State → Prop} {state : State}
    {body : Program Item Result} {post : Except Thrown (Except Thrown Result) → State → Prop} :
    Script.Keeps serve allowed safe state body.attempted post ↔
      Script.Keeps serve allowed safe state body fun outcome reached => post (.ok outcome) reached := by
  unfold Script.attempted
  rw [Script.keeps_tryCatch, Script.keeps_bind]
  constructor
  · refine fun keeps => keeps.mono fun outcome reached held => ?_
    cases outcome <;> exact held
  · refine fun keeps => keeps.mono fun outcome reached held => ?_
    cases outcome <;> exact held

/-- Any call, with any choice of the environment. -/
def anyCall (_ : Store Tables) (_ : Call Item) (_ : Choice Seed) : Prop := True

/-- A page moves from one head of the loop to the next, or to the end. -/
theorem runPage_keeps (here : At ingestion resource connection prior once progress store) :
    Script.Keeps (exec connection process) anyCall (Sound ingestion resource connection prior once) store
      (runPage Item merchantId resource pageSize progress.cursor) fun outcome reached =>
        Sound ingestion resource connection prior once reached ∧ ∀ page, outcome = .ok page →
          if page.hasNextPage then At ingestion resource connection prior once (advance Item progress page) reached
          else Ended ingestion resource connection prior once (advance Item progress page).itemsProcessed reached := by
  have sound := here.sound
  obtain ⟨job, passes, stands, running, single, cursor, counted⟩ := here
  refine Script.keeps_perform_bind fun choice answer next _ ran => ?_
  obtain ⟨fetched, rfl⟩ : fetch connection progress.cursor pageSize choice = answer ∧ store = next := Prod.mk.inj ran
  refine ⟨sound, fun page answered => ?_, fun thrown _ => ⟨sound, nofun⟩⟩
  rw [answered] at fetched
  obtain ⟨_, rfl⟩ := fetch_ok fetched
  refine Script.keeps_perform_bind fun choice answer next _ ran => ?_
  change transact choice _ store = _ at ran
  rw [← cursor] at ran ⊢
  have stored (value : Unit) (committed : commitPage process merchantId resource (connection.page pageSize job.cursor).items
      (connection.page pageSize job.cursor).endCursor choice.seed store = .ok (value, next)) := stands.commitPage single committed
  have kept : Sound ingestion resource connection prior once next := by
    refine sound.transact ran fun value committed => ?_
    obtain ⟨after, reached, stood, status, _⟩ := stored value committed
    exact stood.sound fun completed => absurd (status.symm.trans completed) running
  refine ⟨kept, fun value answered => ⟨kept, fun page same => ?_⟩, fun thrown _ => ⟨kept, nofun⟩⟩
  cases same
  subst answered
  obtain ⟨after, reached, stood, status, moved, count, rest⟩ := stored value (transact_ok ran)
  have items : after.itemsProcessed = (advance Item progress (connection.page pageSize job.cursor)).itemsProcessed :=
    count.trans (congrArg (· + _) counted)
  split at rest
  · rename_i more
    rw [if_pos more]
    exact ⟨after, reached, stood, status ▸ running, rest, moved, items⟩
  · rename_i last
    rw [if_neg last]
    exact ⟨after, reached, stood, rest, items⟩

theorem pages_keeps (here : At ingestion resource connection prior once progress store) :
    Script.Keeps (exec connection process) anyCall (Sound ingestion resource connection prior once) store
      (pages Item merchantId resource pageSize left progress) fun outcome reached =>
        Sound ingestion resource connection prior once reached ∧ ∃ result, outcome = .ok result ∧
          (result.2 = .ok () → Ended ingestion resource connection prior once result.1.itemsProcessed reached) := by
  induction left generalizing progress store with
  | zero => exact ⟨here.sound, _, rfl, nofun⟩
  | succ left ih =>
    rw [pages, Script.keeps_bind, keeps_attempted]
    refine (runPage_keeps here).mono fun outcome reached ⟨sound, moved⟩ => ?_
    cases outcome with
    | error thrown => exact ⟨sound, _, rfl, nofun⟩
    | ok page =>
      have moved := moved page rfl
      dsimp only
      split at moved
      · rename_i more
        rw [if_pos more]
        exact ih moved
      · rename_i last
        rw [if_neg last]
        exact ⟨sound, _, rfl, fun _ => moved⟩

theorem work_keeps (here : At ingestion resource connection prior once ⟨job.cursor, job.pagesProcessed, job.itemsProcessed⟩ store) :
    Script.Keeps (exec connection process) anyCall (Sound ingestion resource connection prior once) store
      (work Item merchantId resource job) fun outcome reached =>
        Sound ingestion resource connection prior once reached ∧ ∃ result, outcome = .ok result ∧
          (result.2 = .ok () → Ended ingestion resource connection prior once result.1.itemsProcessed reached ∧
            (reached.backfillJobs.find? (jobFor merchantId resource)).any (·.status = .completed) = true) := by
  rw [work, Script.keeps_bind]
  refine (pages_keeps here).mono fun outcome reached ⟨sound, ⟨progress, result⟩, same, ended⟩ => ?_
  subst same
  cases result with
  | error thrown => exact ⟨sound, _, rfl, nofun⟩
  | ok value =>
    obtain ⟨job, passes, stands, finished, counted⟩ := ended rfl
    dsimp only at counted ⊢
    rw [Script.keeps_bind, keeps_attempted]
    intro choice _
    generalize ran : exec connection process reached (.complete merchantId resource progress.pagesProcessed progress.itemsProcessed)
      choice = both
    obtain ⟨answer, next⟩ := both
    change transact choice _ reached = _ at ran
    rw [← counted] at ran
    have stored (value : Unit) (done : complete merchantId resource progress.pagesProcessed job.itemsProcessed choice.now reached =
      .ok (value, next)) := complete_standing stands finished done
    have kept : Sound ingestion resource connection prior once next :=
      sound.transact ran fun value done => (stored value done).sound fun _ => finished
    refine ⟨kept, kept, _, rfl, fun succeeded => ?_⟩
    dsimp only at succeeded
    subst succeeded
    have stood := stored () (transact_ok ran)
    exact ⟨⟨_, passes, stood, finished, counted⟩, by rw [stood.found]; rfl⟩

theorem settle_keeps {result : Except Thrown Unit} (sound : Sound ingestion resource connection prior once store)
    (ended : result = .ok () → Ended ingestion resource connection prior once progress.itemsProcessed store ∧
      (store.backfillJobs.find? (jobFor merchantId resource)).any (·.status = .completed) = true) :
    Script.Keeps (exec connection process) anyCall (Sound ingestion resource connection prior once) store
      (settle Item merchantId resource progress result) fun outcome reached =>
        Sound ingestion resource connection prior once reached ∧ Returned ingestion resource connection prior once outcome reached := by
  rcases result with (message | message) | _
  · refine Script.keeps_perform_bind fun choice answer next _ ran => ?_
    have kept : Sound ingestion resource connection prior once next :=
      sound.transact ran fun _ updated => sound.update updated (fun _ => rfl) (fun _ => rfl) fun _ => nofun
    refine ⟨kept, fun _ _ => ⟨kept, fun result same paused => ?_⟩, fun _ _ => ⟨kept, nofun⟩⟩
    cases same
    cases paused
  · refine Script.keeps_perform_bind fun choice answer next _ ran => ?_
    have kept : Sound ingestion resource connection prior once next :=
      sound.transact ran fun _ updated => sound.update updated (fun _ => rfl) (fun _ => rfl) fun _ => nofun
    exact ⟨kept, fun _ _ => ⟨kept, nofun⟩, fun _ _ => ⟨kept, nofun⟩⟩
  · refine ⟨sound, fun result same _ => ?_⟩
    cases same
    exact ended rfl

variable (merchantId resource) in
/-- The cursor was cleared by an empty last page, but the job is not completed: the next run would count
every item again. -/
def Cleared (store : Store Tables) : Prop :=
  ∃ job, store.backfillJobs.find? (jobFor merchantId resource) = some job ∧ job.status ≠ .completed ∧ job.cursor = none ∧
    job.itemsProcessed ≠ 0

theorem run_keeps (sound : Sound ingestion resource connection prior once store) (counted : once → ¬Cleared merchantId resource store) :
    Script.Keeps (exec connection process) anyCall (Sound ingestion resource connection prior once) store
      (run Item merchantId resource pageSize) fun outcome reached =>
        Sound ingestion resource connection prior once reached ∧ Returned ingestion resource connection prior once outcome reached := by
  refine Script.keeps_perform_bind fun choice answer next _ ran => ?_
  change transact choice (onJobs (BackfillJobRepository.getOrCreate merchantId resource pageSize) store) store = _ at ran
  have kept : Sound ingestion resource connection prior once next := by
    refine sound.transact ran fun job got => ?_
    obtain ⟨passes, stands, completed⟩ := getOrCreate_standing sound got
    exact stands.sound completed
  refine ⟨kept, fun job answered => ?_, fun _ _ => ⟨kept, nofun⟩⟩
  subst answered
  have got := transact_ok ran
  obtain ⟨passes, stands, completed⟩ := getOrCreate_standing sound got
  split
  · rename_i ended
    refine ⟨kept, fun result same _ => ?_⟩
    cases same
    exact ⟨⟨job, passes, stands, completed ended, rfl⟩, by rw [stands.found]; exact decide_eq_true ended⟩
  · rename_i running
    -- under the condition the run goes on with the first pass
    have first : ∃ passes, Standing ingestion resource connection prior once next job passes ∧ (once → passes = 0) := by
      cases cursor : job.cursor with
      | some passed => exact ⟨passes, stands, fun held => (stands.single held).2 (by rw [cursor]; rfl)⟩
      | none =>
        by_cases uncounted : job.itemsProcessed = 0
        · exact ⟨0, stands.restart cursor uncounted, fun _ => rfl⟩
        · refine ⟨passes, stands, fun held => absurd ⟨job, ?_, running, cursor, uncounted⟩ (counted held)⟩
          obtain ⟨_, gotten, _⟩ := onJobs_ok got
          rcases BackfillJobRepository.getOrCreate_ok gotten with ⟨found, _⟩ | ⟨_, rfl, _⟩
          · exact found
          · exact absurd rfl uncounted
    obtain ⟨passes, stands, single⟩ := first
    refine Script.keeps_perform_bind fun choice answer after _ ran => ?_
    change transact choice (onJobs (BackfillJobRepository.markStarted merchantId resource choice.now) next) next = _ at ran
    have began : Sound ingestion resource connection prior once after :=
      kept.transact ran fun _ updated => kept.update updated (fun _ => rfl) (fun _ => rfl) fun _ => nofun
    refine ⟨began, fun value answered => ?_, fun _ _ => ⟨began, nofun⟩⟩
    subst answered
    have here : At ingestion resource connection prior once ⟨job.cursor, job.pagesProcessed, job.itemsProcessed⟩ after :=
      ⟨_, passes, stands.update (transact_ok ran) rfl rfl, nofun, single, rfl, rfl⟩
    rw [Script.keeps_bind]
    refine (work_keeps here).mono fun outcome reached ⟨sound, result, same, ended⟩ => ?_
    subst same
    exact settle_keeps sound ended

end Runs

section Histories

/-- A step is one run, as far as it comes. -/
def reruns (connection : Connection Item) (process : PageProcessor Item Tables Seed) (merchantId : MerchantId) (resource : String) :
    Machine (Store Tables) (Session Seed) where
  step store session := some (session.after connection process merchantId resource store)

/-- A run keeps what stands, wherever it is cut off. -/
theorem session_sound {session : Session Seed} (sound : Sound ingestion resource connection prior once store)
    (counted : once → ¬Cleared merchantId resource store) :
    Sound ingestion resource connection prior once (session.after connection process merchantId resource store) ∧
      ∀ outcome, session.outcome? connection process merchantId resource store = some outcome →
        Returned ingestion resource connection prior once outcome (session.after connection process merchantId resource store) := by
  have along := @Script.along_of_forall _ _ _ _ _ _ (exec connection process) anyCall
    (run Item merchantId resource session.pageSize) (fun _ _ _ => trivial) session.choices store
  obtain ⟨safe, ended⟩ := (run_keeps sound counted).cut sound along
  exact ⟨safe, fun outcome same => (ended outcome same).2⟩

/-- Before the first run no job is stored. -/
theorem sound_origin (ingestion : Ingestion process merchantId Key Row)
    (new : prior.backfillJobs.find? (jobFor merchantId resource) = none) (steady : ingestion.Steady prior.tables) :
    Sound ingestion resource connection prior once prior :=
  .inl ⟨new, steady, rfl, fun _ => ⟨[], (List.append_nil _).symm, fun _ listed => absurd listed List.not_mem_nil⟩⟩

end Histories

end WinBack.Runner
