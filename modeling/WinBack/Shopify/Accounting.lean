import WinBack.Shopify.CrashSafe

/-! What a backfill counts, and the limit on its pages. -/

namespace WinBack.Runner

open Library

section Conditions

variable {Item Tables Seed Key Row : Type} [DecidableEq Key] {connection : Connection Item} {process : PageProcessor Item Tables Seed}
  {merchantId : MerchantId} {resource : String} {ingestion : Ingestion process merchantId Key Row} {prior store : Store Tables}

variable (connection merchantId resource) in
/-- The job is completed, or fewer pages than the limit lie ahead of its cursor. -/
def WithinLimit (store : Store Tables) (session : Session Seed) : Prop :=
  (jobAt merchantId resource store session.pageSize).status = .completed ∨
    pagesAhead connection (jobAt merchantId resource store session.pageSize).cursor
      (jobAt merchantId resource store session.pageSize).pageSize < maxPagesHardLimit

variable (connection merchantId resource) in
/-- Moreover the run does not start from a cursor that was cleared after items were counted. -/
def Countable (store : Store Tables) (session : Session Seed) : Prop :=
  ¬Cleared merchantId resource store ∧ WithinLimit connection merchantId resource store session

instance (store : Store Tables) : Decidable (Cleared merchantId resource store) :=
  match found : store.backfillJobs.find? (jobFor merchantId resource) with
  | none => isFalse fun ⟨_, same, _⟩ => nomatch found.symm.trans same
  | some job => decidable_of_iff (job.status ≠ .completed ∧ job.cursor = none ∧ job.itemsProcessed ≠ 0)
      ⟨fun cleared => ⟨job, found, cleared⟩, fun ⟨other, same, cleared⟩ => by
        cases found.symm.trans same
        exact cleared⟩

instance (store : Store Tables) (session : Session Seed) : Decidable (WithinLimit connection merchantId resource store session) :=
  inferInstanceAs (Decidable (_ ∨ _))

instance (store : Store Tables) (session : Session Seed) : Decidable (Countable connection merchantId resource store session) :=
  inferInstanceAs (Decidable (_ ∧ _))

theorem reach_counted (new : prior.backfillJobs.find? (jobFor merchantId resource) = none) (steady : ingestion.Steady prior.tables)
    (reached : Machine.Reach (reruns connection process merchantId resource) (Countable connection merchantId resource) prior store) :
    Sound ingestion resource connection prior True store := by
  refine reached.invariant (sound_origin ingestion new steady) fun middle session final permitted moved sound => ?_
  cases moved
  exact (session_sound sound fun _ => permitted.1).1

theorem Sound.published (sound : Sound ingestion resource connection prior True store) : ∃ events,
    store.published = prior.published ++ events ∧
      ∀ event ∈ events, ∃ pages, event = (merchantId, backfillCompleted resource pages connection.items.length) := by
  rcases sound with ⟨_, _, _, published⟩ | ⟨_, _, stands, _⟩
  · exact published trivial
  · exact stands.published trivial

/-- A completed job has counted every item once. -/
theorem Sound.counted {job : BackfillJob} (sound : Sound ingestion resource connection prior True store)
    (found : store.backfillJobs.find? (jobFor merchantId resource) = some job) (completed : job.status = .completed) :
    job.itemsProcessed = connection.items.length := by
  rcases sound with ⟨absent, _⟩ | ⟨stored, _, stands, finished⟩
  · cases absent.symm.trans found
  · cases stands.found.symm.trans found
    exact (stands.finished (finished completed)).2 trivial

end Conditions

section Accounting

variable (resource : Resource) (connection : Connection resource.Item) (merchantId : MerchantId)

/-- As long as every run starts within the limit and not from a cleared cursor, what is stored and published counts
every item once, and a run that no call fails completes. -/
theorem backfill_accounting {prior store : Store resource.Tables}
    (new : prior.backfillJobs.find? (jobFor merchantId resource.text) = none)
    (reached : Machine.Reach (reruns connection resource.process merchantId resource.text)
      (Countable connection merchantId resource.text) prior store) :
    (∀ job, store.backfillJobs.find? (jobFor merchantId resource.text) = some job → job.status = .completed →
      job.itemsProcessed = connection.items.length) ∧
    (∃ events, store.published = prior.published ++ events ∧ ∀ event ∈ events, ∃ pages,
      event = (merchantId, backfillCompleted resource.text pages connection.items.length)) ∧
    ∀ session, Countable connection merchantId resource.text store session →
      (session.Uninterrupted connection resource.process merchantId resource.text store →
        session.Completes connection resource.process merchantId resource.text store) ∧
      ∀ result, session.outcome? connection resource.process merchantId resource.text store = some (.ok result) →
        result.finalStatus = .completed → result.itemsProcessed = connection.items.length := by
  have sound := reach_counted new (resource.steady_origin merchantId prior.tables) reached
  refine ⟨fun job found completed => sound.counted found completed, sound.published, fun session permitted => ⟨fun uninterrupted => ?_,
    fun result ended completed => ?_⟩⟩
  · exact uninterrupted.completes.mpr permitted.2
  · obtain ⟨⟨job, passes, stands, finished, counted⟩, _⟩ :=
      (session_sound sound fun _ => permitted.1).2 _ ended result rfl completed
    rw [← counted]
    exact (stands.finished finished).2 trivial

/-- The run after the one that was lost on its way. -/
theorem backfill_accounting_pair :
    let after := Session.after pair (Resource.process .customers) "m" "customers"
    ∃ events, (after (after newShop (quiet 10 4)) (quiet 20 6)).published = newShop.published ++ events ∧
      ∀ event ∈ events, ∃ pages, event = ("m", backfillCompleted "customers" pages pair.items.length) :=
  (backfill_accounting .customers pair "m" rfl
    (.step (.step .origin (by decide) rfl) (by decide) rfl)).2.1

def single : Connection ShopifyCustomerNode where
  items := [{ id := "gid://shopify/Customer/1", email := some "a@shop.test" }]

/-- A run is lost after its last page, the next after the empty page that clears the cursor; the third counts
the customer again. -/
theorem backfill_counts_again :
    ¬∀ (connection : Connection ShopifyCustomerNode) (store : Store Db), pagesAhead connection none 1 ≤ maxPagesHardLimit →
      Machine.Reach (reruns connection (Resource.process .customers) "m" "customers") (fun _ _ => True) newShop store →
      ∀ job, store.backfillJobs.find? (jobFor "m" "customers") = some job → job.status = .completed →
        job.itemsProcessed = connection.items.length := by
  intro counted
  have thrice := counted single _ (by decide)
    (((Machine.Reach.origin.extend (quiet 10 4) trivial rfl).extend (quiet 20 4) trivial rfl).extend (quiet 30 6) trivial rfl)
    { merchantId := "m", resource := "customers", status := .completed, cursor := some 1, pageSize := 1, itemsProcessed := 2,
      pagesProcessed := 3, startedAt := some 0, completedAt := some 0 } (by decide) rfl
  cases thrice

end Accounting

end WinBack.Runner
