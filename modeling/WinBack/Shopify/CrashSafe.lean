import WinBack.Shopify.Resources

/-! A backfill that is cut off and run again leaves the table that one run leaves. -/

namespace WinBack.Runner

open Library

variable {Item Tables Seed : Type} {connection : Connection Item} {process : PageProcessor Item Tables Seed}
  {merchantId : MerchantId} {resource : String} {store : Store Tables} {pageSize left : Nat} {progress : Progress}

section Uninterrupted

/-- The pages that a run from the cursor fetches. -/
def pagesAhead (connection : Connection Item) (cursor : Option Cursor) (first : Nat) : Nat :=
  1 + (connection.items.length - offset cursor - 1) / first

theorem pagesAhead_more {first : Nat} {cursor : Option Cursor} (positive : 1 ≤ first)
    (more : (connection.page first cursor).hasNextPage = true) :
    pagesAhead connection cursor first = 1 + pagesAhead connection (connection.page first cursor).endCursor first := by
  have short : offset cursor + first < connection.items.length := of_decide_eq_true more
  have ended : (connection.page first cursor).endCursor = some (min (offset cursor + first) connection.items.length) :=
    if_neg (by omega)
  unfold pagesAhead
  rw [ended, offset_some, Nat.min_eq_left (le_of_lt short),
    show connection.items.length - offset cursor - 1 = (connection.items.length - (offset cursor + first) - 1) + first by omega,
    Nat.add_div_right _ positive]
  omega

theorem pagesAhead_last {first : Nat} {cursor : Option Cursor} (positive : 1 ≤ first)
    (last : ¬(connection.page first cursor).hasNextPage = true) : pagesAhead connection cursor first = 1 := by
  have past : ¬offset cursor + first < connection.items.length := fun short => last (decide_eq_true short)
  rw [pagesAhead, Nat.div_eq_of_lt (by omega)]

variable (connection process) in
/-- The call succeeds. -/
def answered (store : Store Tables) (request : Call Item) (choice : Choice Seed) : Prop :=
  ∃ value, (exec connection process store request choice).1 = .ok value

instance (store : Store Tables) (request : Call Item) (choice : Choice Seed) :
    Decidable (answered connection process store request choice) :=
  match called : (exec connection process store request choice).1 with
  | .ok value => isTrue ⟨value, called⟩
  | .error _ => isFalse fun ⟨_, succeeded⟩ => nomatch called.symm.trans succeeded

variable (merchantId resource) in
/-- The job that a run starts from. -/
def jobAt (store : Store Tables) (pageSize : Nat) : BackfillJob :=
  (store.backfillJobs.find? (jobFor merchantId resource)).getD { merchantId, resource, pageSize }

theorem getOrCreate_jobAt {job : BackfillJob} {next : Store Tables}
    (got : onJobs (BackfillJobRepository.getOrCreate merchantId resource pageSize) store = .ok (job, next)) :
    job = jobAt merchantId resource store pageSize := by
  obtain ⟨_, gotten, _⟩ := onJobs_ok got
  unfold jobAt
  rcases BackfillJobRepository.getOrCreate_ok gotten with ⟨found, _⟩ | ⟨absent, rfl, _⟩
  · rw [found, Option.getD_some]
  · rw [absent, Option.getD_none]

/-- One call that succeeds, and the rest. -/
theorem keeps_answered {request : Call Item} {Result : Type} {rest : request.Value → Program Item Result}
    {post : Except Thrown Result → Store Tables → Prop}
    (called : ∀ choice value next, exec connection process store request choice = (.ok value, next) →
      Script.Keeps (exec connection process) (answered connection process) (fun _ => True) next (rest value) post) :
    Script.Keeps (exec connection process) (answered connection process) (fun _ => True) store (perform request >>= rest) post := by
  refine Script.keeps_perform_bind fun choice answer next ⟨value, succeeded⟩ ran => ?_
  rw [ran] at succeeded
  subst succeeded
  refine ⟨trivial, fun other same => ?_, nofun⟩
  cases same
  exact called choice value next ran

theorem runPage_answered {cursor : Option Cursor} :
    Script.Keeps (exec connection process) (answered connection process) (fun _ => True) store
      (runPage Item merchantId resource pageSize cursor) fun outcome _ =>
        1 ≤ pageSize ∧ outcome = .ok (connection.page pageSize cursor) := by
  refine keeps_answered fun choice page next ran => ?_
  obtain ⟨positive, rfl⟩ := fetch_ok (Prod.mk.inj ran).1
  exact keeps_answered fun _ _ _ _ => ⟨positive, rfl⟩

/-- The loop comes to its end if the pages ahead are fewer than what is left under the limit. -/
theorem pages_answered :
    Script.Keeps (exec connection process) (answered connection process) (fun _ => True) store
      (pages Item merchantId resource pageSize left progress) fun outcome _ => ∃ reached, outcome = .ok (reached,
        if pagesAhead connection progress.cursor pageSize < left then .ok () else .error pageLimitExceeded) := by
  induction left generalizing progress store with
  | zero => exact ⟨progress, rfl⟩
  | succ left ih =>
    rw [pages, Script.keeps_bind, keeps_attempted]
    refine runPage_answered.mono fun outcome next paged => ?_
    obtain ⟨positive, rfl⟩ := paged
    dsimp only
    split
    · rename_i more
      have fewer : pagesAhead connection progress.cursor pageSize < left + 1 ↔
          pagesAhead connection (advance Item progress (connection.page pageSize progress.cursor)).cursor pageSize < left := by
        rw [pagesAhead_more positive more, Nat.add_comm 1]
        exact Nat.add_lt_add_iff_right
      simp only [fewer]
      exact ih
    · rename_i last
      refine ⟨advance Item progress (connection.page pageSize progress.cursor), ?_⟩
      rw [pagesAhead_last positive last]
      by_cases spent : left = 0
      · rw [if_pos spent, if_neg (by omega)]
      · rw [if_neg spent, if_pos (by omega)]

/-- A run whose calls all succeed completes unless the limit cuts it off. -/
theorem run_answered :
    Script.Keeps (exec connection process) (answered connection process) (fun _ => True) store
      (run Item merchantId resource pageSize) fun outcome _ =>
        (∃ result, outcome = .ok result ∧ result.finalStatus = .completed) ↔
          (jobAt merchantId resource store pageSize).status = .completed ∨
            pagesAhead connection (jobAt merchantId resource store pageSize).cursor
              (jobAt merchantId resource store pageSize).pageSize < maxPagesHardLimit := by
  refine keeps_answered fun choice job next ran => ?_
  obtain rfl := getOrCreate_jobAt (transact_ok ran)
  split
  · rename_i completed
    exact ⟨fun _ => .inl completed, fun _ => ⟨_, rfl, rfl⟩⟩
  · rename_i running
    refine keeps_answered fun _ _ started _ => ?_
    rw [work, Script.keeps_bind, Script.keeps_bind]
    refine pages_answered.mono fun outcome reached ended => ?_
    obtain ⟨progress, rfl⟩ := ended
    dsimp only
    by_cases within : pagesAhead connection (jobAt merchantId resource store pageSize).cursor
        (jobAt merchantId resource store pageSize).pageSize < maxPagesHardLimit
    · rw [if_pos within]
      dsimp only
      rw [Script.keeps_bind, keeps_attempted]
      rintro choice ⟨value, succeeded⟩
      rw [succeeded]
      exact ⟨trivial, fun _ => .inr within, fun _ => ⟨_, rfl, rfl⟩⟩
    · rw [if_neg within]
      refine keeps_answered fun _ _ _ _ => ?_
      constructor
      · rintro ⟨_, completed, _⟩
        cases completed
      · rintro (completed | fewer)
        · exact absurd completed running
        · exact absurd fewer within

variable (connection process merchantId resource) in
/-- The run returns as completed. -/
def Session.Completes (session : Session Seed) (store : Store Tables) : Prop :=
  ∃ result, session.outcome? connection process merchantId resource store = some (.ok result) ∧ result.finalStatus = .completed

variable (connection process merchantId resource) in
/-- No call fails, and the run comes to its end. -/
def Session.Uninterrupted (session : Session Seed) (store : Store Tables) : Prop :=
  Script.Along (exec connection process) (answered connection process) session.choices store
      (run Item merchantId resource session.pageSize) ∧
    (session.outcome? connection process merchantId resource store).isSome = true

instance (session : Session Seed) : Decidable (session.Completes connection process merchantId resource store) :=
  match ended : session.outcome? connection process merchantId resource store with
  | none | some (.error _) => isFalse fun ⟨_, same, _⟩ => nomatch ended.symm.trans same
  | some (.ok result) => decidable_of_iff (result.finalStatus = .completed)
      ⟨fun completed => ⟨result, ended, completed⟩, fun ⟨other, same, completed⟩ => by
        cases ended.symm.trans same
        exact completed⟩

instance (session : Session Seed) : Decidable (session.Uninterrupted connection process merchantId resource store) :=
  inferInstanceAs (Decidable (_ ∧ _))

theorem Session.Uninterrupted.completes {session : Session Seed}
    (uninterrupted : session.Uninterrupted connection process merchantId resource store) :
    session.Completes connection process merchantId resource store ↔
      (jobAt merchantId resource store session.pageSize).status = .completed ∨
        pagesAhead connection (jobAt merchantId resource store session.pageSize).cursor
          (jobAt merchantId resource store session.pageSize).pageSize < maxPagesHardLimit := by
  obtain ⟨along, ended⟩ := uninterrupted
  obtain ⟨outcome, same⟩ := Option.isSome_iff_exists.mp ended
  have settled := (run_answered.cut trivial along).2 outcome same
  rw [Session.Completes, same, ← settled]
  simp only [Option.some.injEq]

end Uninterrupted

section Tables

/-- The cursor that the next run resumes from. -/
def storedCursor (merchantId : MerchantId) (resource : String) (store : Store Tables) : Option Cursor :=
  (store.backfillJobs.find? (jobFor merchantId resource)).bind (·.cursor)

variable {Key Row : Type} [DecidableEq Key] {ingestion : Ingestion process merchantId Key Row} {prior : Store Tables} {once : Prop}

/-- After any call the tables hold the items up to the stored cursor, after so many whole passes. -/
theorem Sound.resumes (sound : Sound ingestion resource connection prior once store) : ∃ passes,
    ingestion.view store.tables = ingestion.upTo connection.items (offset (storedCursor merchantId resource store))
      (ingestion.passes connection.items passes (ingestion.view prior.tables)) := by
  unfold storedCursor
  rcases sound with ⟨absent, _, seen, _⟩ | ⟨job, passes, stands, _⟩
  · rw [absent]
    exact ⟨0, seen⟩
  · rw [stands.found]
    exact ⟨passes, stands.view⟩

/-- A run that completes leaves all items written once. -/
theorem Session.Completes.view {session : Session Seed} (completes : session.Completes connection process merchantId resource store)
    (sound : Sound ingestion resource connection prior False store) :
    ingestion.view (session.after connection process merchantId resource store).tables =
      ingestion.upTo connection.items connection.items.length (ingestion.view prior.tables) := by
  obtain ⟨result, ended, completed⟩ := completes
  obtain ⟨⟨_, _, stands, finished, _⟩, _⟩ := (session_sound sound False.elim).2 _ ended result rfl completed
  exact (stands.finished finished).1

/-- So is a store whose job is completed. -/
theorem Sound.completed_view {job : BackfillJob} (sound : Sound ingestion resource connection prior once store)
    (found : store.backfillJobs.find? (jobFor merchantId resource) = some job) (completed : job.status = .completed) :
    ingestion.view store.tables = ingestion.upTo connection.items connection.items.length (ingestion.view prior.tables) := by
  rcases sound with ⟨absent, _⟩ | ⟨stored, _, stands, finished⟩
  · cases absent.symm.trans found
  · cases stands.found.symm.trans found
    exact (stands.finished (finished completed)).1

theorem reach_sound (new : prior.backfillJobs.find? (jobFor merchantId resource) = none) (steady : ingestion.Steady prior.tables)
    (reached : Machine.Reach (reruns connection process merchantId resource) (fun _ _ => True) prior store) :
    Sound ingestion resource connection prior False store := by
  refine reached.invariant (sound_origin ingestion new steady) fun middle session final _ moved sound => ?_
  cases moved
  exact (session_sound sound False.elim).1

end Tables

section Resources

variable (resource : Resource) (connection : Connection resource.Item) (merchantId : MerchantId)

/-- After any runs, cut off anywhere, the table holds the items up to the stored cursor; and once a run completes,
or the job is completed, the table is as one uninterrupted run leaves it. -/
theorem backfill_crash_safe {prior store : Store resource.Tables}
    (new : prior.backfillJobs.find? (jobFor merchantId resource.text) = none)
    (reached : Machine.Reach (reruns connection resource.process merchantId resource.text) (fun _ _ => True) prior store) :
    (∃ passes, resource.view prior.tables store.tables =
      (resource.ingestion merchantId prior.tables).upTo connection.items (offset (storedCursor merchantId resource.text store))
        ((resource.ingestion merchantId prior.tables).passes connection.items passes (resource.view prior.tables prior.tables))) ∧
    ∀ alone : Session resource.Seed, alone.Uninterrupted connection resource.process merchantId resource.text prior →
      pagesAhead connection none alone.pageSize < maxPagesHardLimit →
      alone.Completes connection resource.process merchantId resource.text prior ∧
      ((∃ job, store.backfillJobs.find? (jobFor merchantId resource.text) = some job ∧ job.status = .completed) →
        resource.view prior.tables store.tables =
          resource.view prior.tables (alone.after connection resource.process merchantId resource.text prior).tables) ∧
      ∀ session : Session resource.Seed, session.Completes connection resource.process merchantId resource.text store →
        resource.view prior.tables (session.after connection resource.process merchantId resource.text store).tables =
          resource.view prior.tables (alone.after connection resource.process merchantId resource.text prior).tables := by
  have steady := resource.steady_origin merchantId prior.tables
  have sound := reach_sound new steady reached
  have origin : Sound (resource.ingestion merchantId prior.tables) resource.text connection prior False prior :=
    sound_origin _ new steady
  simp only [← resource.view_ingestion merchantId]
  refine ⟨sound.resumes, fun alone uninterrupted fewer => ?_⟩
  have completes : alone.Completes connection resource.process merchantId resource.text prior := by
    refine uninterrupted.completes.mpr (.inr ?_)
    rw [jobAt, new, Option.getD_none]
    exact fewer
  have whole := completes.view origin
  refine ⟨completes, fun ⟨job, found, completed⟩ => ?_, fun session again => ?_⟩
  · rw [whole, sound.completed_view found completed]
  · rw [whole, again.view sound]

/-- Two customers, and the store of a merchant who has none. -/
def pair : Connection ShopifyCustomerNode where
  items := [{ id := "gid://shopify/Customer/1", email := some "a@shop.test" },
    { id := "gid://shopify/Customer/2", email := some "b@shop.test" }]

def newShop : Store Db where
  tables := { merchants := .single { id := "m", shop := "m.myshopify.com" } }

/-- A run as long as so many of its calls, the transactions at the given time. -/
def quiet (now : Date) (calls : Nat) : Session (Resource.Seed .customers) where
  pageSize := 1
  choices := (List.range calls).map fun call => { seed := (fun _ => "c" ++ toString (now + call), now) }

/-- The first run is lost between its first page and the second. -/
theorem backfill_crash_safe_pair :
    let after := Session.after pair (Resource.process .customers) "m" "customers"
    Resource.view .customers newShop.tables (after (after newShop (quiet 10 4)) (quiet 20 6)).tables =
      Resource.view .customers newShop.tables (after newShop (quiet 30 8)).tables :=
  ((backfill_crash_safe .customers pair "m" rfl (.step .origin trivial rfl)).2 (quiet 30 8) (by decide) (by decide)).2.2
    (quiet 20 6) (by decide)

end Resources

end WinBack.Runner
