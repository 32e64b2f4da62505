import WinBack.Compliance.History
import WinBack.Customer.Ingestion
import WinBack.Library.LastWrite
import WinBack.Scoring.Chain

/-! Snapshots of a customer in the order in which they are processed. No ingest compares `updated_at` with what is
stored: each one overwrites the columns that it carries. -/

namespace WinBack

open Library CustomerRepository

section Events

/-- A transaction that ingests customers of a merchant. Of a deletion's payload, parsed before, only the id is used;
`madeAt` is when Shopify made the deletion. -/
inductive CustomerEvent where
  | upserted (body : ShopifyCustomerWebhookBody) (newId : CustomerId) (scored : Scored) (now : Date)
  | backfilled (items : List (ShopifyCustomerNode × CustomerId)) (now : Date)
  | deleted (id : ShopifyId) (madeAt now : Date)

namespace CustomerEvent

def process (merchantId : MerchantId) (db : Db) : CustomerEvent → Except RepositoryError Db
  | .upserted body newId scored now => Compliance.upsertCustomer merchantId body newId scored now db
  | .backfilled items now => processItems merchantId now items db
  | .deleted id _ now => (handleCustomerDeleted merchantId id now db).map Prod.snd

/-- What an event says of the customer. -/
def snapshots (gid : String) : CustomerEvent → List CustomerPatch
  | .upserted body _ _ _ => if toShopifyCustomerGid body.id = some gid then [body.sharedFields] else []
  | .backfilled items _ => items.filterMap fun item =>
    if parseGid item.1.id = some gid then some item.1.shopifyOwned else none
  | .deleted _ _ _ => []

/-- When Shopify deleted the customer, where the event says so. -/
def deletion (gid : String) : CustomerEvent → Option Date
  | .deleted id madeAt _ => if toShopifyCustomerGid id = some gid then some madeAt else none
  | _ => none

end CustomerEvent

/-- `updated_at` is greatest. -/
structure Newest {Snapshot : Type} (updatedAt : Snapshot → Option Date) (newest : Snapshot) (snapshots : List Snapshot) :
    Prop where
  listed : newest ∈ snapshots
  greatest : ∃ time ∈ updatedAt newest, ∀ other ∈ snapshots, ∀ earlier ∈ updatedAt other, earlier ≤ time

/-- A deletion of the customer is newer than every snapshot of it. -/
def NewestDeletion (gid : String) (events : List CustomerEvent) : Prop :=
  ∃ event ∈ events, ∃ madeAt ∈ event.deletion gid, ∀ snapshot ∈ events.flatMap (CustomerEvent.snapshots gid),
    ∀ time ∈ snapshot.shopifyUpdatedAt, time < madeAt

/-- Contact, e-mail consent, orders count and tags. -/
inductive CustomerColumn where
  | email | phone | firstName | lastName | emailMarketingConsentState | ordersCount | tags

namespace CustomerColumn

def Value : CustomerColumn → Type
  | .email | .phone | .firstName | .lastName => Option String
  | .emailMarketingConsentState => EmailMarketingConsentState
  | .ordersCount => Int
  | .tags => List String

def of : (column : CustomerColumn) → Customer → column.Value
  | .email, row => row.email
  | .phone, row => row.phone
  | .firstName, row => row.firstName
  | .lastName, row => row.lastName
  | .emailMarketingConsentState, row => row.emailMarketingConsentState
  | .ordersCount, row => row.ordersCount
  | .tags, row => row.tags

/-- What a snapshot gives the column; a body need not carry consent and orders count. -/
def carried : (column : CustomerColumn) → CustomerPatch → Option column.Value
  | .email, patch => some patch.email
  | .phone, patch => some patch.phone
  | .firstName, patch => some patch.firstName
  | .lastName, patch => some patch.lastName
  | .emailMarketingConsentState, patch => patch.emailMarketingConsentState
  | .ordersCount, patch => patch.ordersCount
  | .tags, patch => some patch.tags

theorem of_apply (column : CustomerColumn) (patch : CustomerPatch) (row : Customer) :
    column.of (patch.apply row) = (column.carried patch).getD (column.of row) := by
  cases column <;> rfl

end CustomerColumn

/-- The row has what the snapshot carries. -/
def CustomerPatch.Shown (snapshot : CustomerPatch) (row : Customer) : Prop :=
  ∀ column value, CustomerColumn.carried column snapshot = some value → column.of row = value

/-- For every column that the snapshot carries, the one processed last among those that carry it gives it the same. -/
def CustomerPatch.Lasting (snapshot : CustomerPatch) (processed : List CustomerPatch) : Prop :=
  ∀ column value, CustomerColumn.carried column snapshot = some value → lastCarried column.carried processed = some value

end Events

section Rows

variable {merchantId : MerchantId} {gid other : String} {newId customerId : CustomerId} {create update : CustomerPatch}
  {now : Date} {db next : Db} {before middle after : Option Customer} {first second : List CustomerPatch}

/-- The column of the customer; one that is not there has the defaults of the schema. -/
def CustomerColumn.shown (column : CustomerColumn) (found : Option Customer) : column.Value :=
  column.of (found.getD (blank "" "" "" 0))

/-- No row, or a soft-deleted one. -/
def Gone (found : Option Customer) : Prop := ∀ row ∈ found, row.deletedAt ≠ none

instance (found : Option Customer) : Decidable (Gone found) := inferInstanceAs (Decidable (∀ row ∈ found, _))

/-- The row after some snapshots. -/
structure Overwritten (patches : List CustomerPatch) (before after : Option Customer) : Prop where
  columns : ∀ column, CustomerColumn.shown column after = (lastCarried column.carried patches).getD (column.shown before)
  present : after.isSome = true ↔ before.isSome = true ∨ patches ≠ []
  deletedAt : after.bind (·.deletedAt) = before.bind (·.deletedAt)

theorem Overwritten.refl (found : Option Customer) : Overwritten [] found found where
  columns _ := rfl
  present := by simp
  deletedAt := rfl

theorem Overwritten.trans (early : Overwritten first before middle) (late : Overwritten second middle after) :
    Overwritten (first ++ second) before after where
  columns column := by
    rw [late.columns, early.columns, getD_lastCarried_append]
  present := by
    rw [late.present, early.present, append_ne_nil_iff, or_assoc]
  deletedAt := late.deletedAt.trans early.deletedAt

/-- Only the state of some rows changes. -/
theorem overwritten_states {filter : Customer → Bool} {state : CustomerState} :
    Overwritten [] (db.customers.find? (named merchantId gid))
      ((db.customers.updateMany filter (fun row => { row with state }) fun _ => rfl).find? (named merchantId gid)) := by
  have stable (row : Customer) : named merchantId gid { row with state } = named merchantId gid row := rfl
  rw [Table.find?_updateMany stable]
  cases db.customers.find? (named merchantId gid) with
  | none => exact .refl _
  | some row =>
    by_cases changed : filter row = true
    · rw [Option.map_some, if_pos changed]
      exact {
        columns := fun column => by cases column <;> rfl
        present := by simp
        deletedAt := rfl }
    · rw [Option.map_some, if_neg changed]
      exact .refl _

theorem overwritten_upsert (same : ∀ column, CustomerColumn.carried column create = column.carried update)
    (done : upsert merchantId gid newId create update now db = .ok (customerId, next)) :
    Overwritten [update] (db.customers.find? (named merchantId gid)) (next.customers.find? (named merchantId gid)) := by
  rw [find_upsert done]
  cases db.customers.find? (named merchantId gid) with
  | some row =>
    exact {
      columns := fun column => by
        rw [lastCarried_singleton]
        exact column.of_apply update row
      present := by simp
      deletedAt := rfl }
  | none =>
    exact {
      columns := fun column => by
        rw [lastCarried_singleton, ← same column]
        refine (column.of_apply create _).trans (congrArg _ ?_)
        cases column <;> rfl
      present := by simp
      deletedAt := rfl }

/-- An upsert overwrites the row that it names, and no other one. -/
theorem overwritten_upsert_any (same : ∀ column, CustomerColumn.carried column create = column.carried update)
    (done : upsert merchantId other newId create update now db = .ok (customerId, next)) :
    Overwritten (if other = gid then [update] else []) (db.customers.find? (named merchantId gid))
      (next.customers.find? (named merchantId gid)) := by
  by_cases here : other = gid
  · subst here
    rw [if_pos rfl]
    exact overwritten_upsert same done
  · rw [if_neg here, find_upsert_other done fun alike => here (Prod.mk.inj alike).2.symm]
    exact .refl _

theorem overwritten_processItems {items : List (ShopifyCustomerNode × CustomerId)}
    (done : processItems merchantId now items db = .ok next) :
    Overwritten ((CustomerEvent.backfilled items now).snapshots gid) (db.customers.find? (named merchantId gid))
      (next.customers.find? (named merchantId gid)) := by
  induction items generalizing db with
  | nil =>
    cases done
    exact .refl _
  | cons item rest ih =>
    rw [processItems] at done
    simp only [CustomerEvent.snapshots, List.filterMap_cons]
    split at done
    · rename_i malformed
      rw [malformed, if_neg (Option.some_ne_none gid).symm]
      exact ih done
    · rename_i named parsed
      obtain ⟨⟨customerId, middle⟩, upserted, onward⟩ := bind_eq_ok_iff.mp done
      have first := @overwritten_upsert_any merchantId gid _ _ _ _ _ _ _ _ (fun column => by cases column <;> rfl) upserted
      have both := first.trans (ih onward)
      rw [parsed]
      by_cases here : named = gid
      · rw [if_pos here] at both
        rw [if_pos (congrArg some here)]
        exact both
      · rw [if_neg here] at both
        rw [if_neg fun same => here (Option.some.inj same)]
        exact both

/-- A scoring changes nothing of a customer but its state. -/
theorem overwritten_recompute {scored : Scored}
    (scoring : CustomerScoreService.recompute merchantId customerId scored now db = .ok next) :
    Overwritten [] (db.customers.find? (named merchantId gid)) (next.customers.find? (named merchantId gid)) := by
  unfold CustomerScoreService.recompute at scoring
  split at scoring
  · cases scoring
    exact .refl _
  · split at scoring
    · cases scoring
    · rcases Scoring.applyScore_customers scoring with same | moved
      · rw [same]
        exact .refl _
      · rw [moved]
        exact overwritten_states

/-- A row after a soft delete of its customer. -/
def softDeleted (now : Date) (row : Customer) : Customer :=
  if row.deletedAt = none then { row with deletedAt := some now } else row

theorem deletedAt_softDeleted (now : Date) (row : Customer) : (softDeleted now row).deletedAt ≠ none := by
  unfold softDeleted
  split
  · exact Option.some_ne_none now
  · assumption

theorem find_softDelete : (softDelete merchantId other now db).2.customers.find? (named merchantId gid) =
    (db.customers.find? (named merchantId gid)).map fun row => if other = gid then softDeleted now row else row := by
  have stable (row : Customer) : named merchantId gid { row with deletedAt := some now } = named merchantId gid row := rfl
  have updated := @Table.find?_updateMany _ _ db.customers (named merchantId gid)
    (fun row => named merchantId other row && row.deletedAt == none) (fun row => { row with deletedAt := some now })
    (fun _ => rfl) stable
  refine updated.trans ?_
  cases present : db.customers.find? (named merchantId gid) with
  | none => rfl
  | some row =>
    have own : row.merchantId = merchantId ∧ row.shopifyCustomerId = gid := by
      simpa [named] using (Table.find?_mem present).2
    by_cases here : other = gid
    · simp [softDeleted, named, own, here]
    · simp [named, own, here, Ne.symm here]

/-- An event that is no deletion of the customer overwrites its row with the snapshots in it. -/
theorem overwritten_process {event : CustomerEvent} (done : event.process merchantId db = .ok next)
    (kept : event.deletion gid = none) :
    Overwritten (event.snapshots gid) (db.customers.find? (named merchantId gid)) (next.customers.find? (named merchantId gid)) := by
  cases event with
  | upserted body newId scored now =>
    obtain ⟨⟨result, middle⟩, upserted, scoring⟩ := bind_eq_ok_iff.mp done
    have first : Overwritten ((CustomerEvent.upserted body newId scored now).snapshots gid)
        (db.customers.find? (named merchantId gid)) (middle.customers.find? (named merchantId gid)) := by
      unfold upsertFromWebhook at upserted
      split at upserted
      · cases upserted
      · rename_i own wrapped
        obtain ⟨⟨customerId, after⟩, written, same⟩ := map_eq_ok_iff.mp upserted
        cases same
        simp only [CustomerEvent.snapshots, wrapped, Option.some.injEq]
        exact overwritten_upsert_any (fun _ => rfl) written
    have both := first.trans (overwritten_recompute scoring)
    rwa [List.append_nil] at both
  | backfilled items now => exact overwritten_processItems done
  | deleted id madeAt now =>
    obtain ⟨⟨existed, after⟩, deleted, rfl⟩ := map_eq_ok_iff.mp done
    unfold handleCustomerDeleted at deleted
    split at deleted
    · cases deleted
    · rename_i own wrapped
      have apart : own ≠ gid := by
        rintro rfl
        simp [CustomerEvent.deletion, wrapped] at kept
      have found := @find_softDelete merchantId gid own now db
      rw [Except.ok.inj deleted] at found
      rw [found]
      simp only [apart, if_false, Option.map_id']
      exact .refl _

/-- A deletion of the customer says nothing else about it. -/
theorem deleted_process {event : CustomerEvent} (done : event.process merchantId db = .ok next)
    (deleted : event.deletion gid ≠ none) :
    event.snapshots gid = [] ∧ ∃ now, next.customers.find? (named merchantId gid) =
      (db.customers.find? (named merchantId gid)).map (softDeleted now) := by
  cases event with
  | upserted | backfilled => exact absurd rfl deleted
  | deleted id madeAt now =>
    obtain ⟨⟨existed, after⟩, handled, rfl⟩ := map_eq_ok_iff.mp done
    unfold handleCustomerDeleted at handled
    split at handled
    · cases handled
    · rename_i own wrapped
      have here : own = gid := by
        by_contra apart
        exact deleted (if_neg fun same => apart (Option.some.inj (wrapped.symm.trans same)))
      have found := @find_softDelete merchantId gid own now db
      rw [Except.ok.inj handled] at found
      simp only [here, if_true] at found
      exact ⟨rfl, now, found⟩

/-- It leaves the columns. -/
theorem shown_softDeleted (column : CustomerColumn) : column.shown (before.map (softDeleted now)) = column.shown before := by
  cases before with
  | none => rfl
  | some row =>
    change column.of (softDeleted now row) = column.of row
    unfold softDeleted
    split <;> cases column <;> rfl

end Rows

section Runs

variable {merchantId : MerchantId} {gid : String} {db first last : Db} {events : List CustomerEvent} {newest : CustomerPatch}

def processAll (merchantId : MerchantId) (events : List CustomerEvent) (db : Db) : Except RepositoryError Db :=
  events.foldlM (fun db event => event.process merchantId db) db

/-- What happens to the row of a customer: snapshots create it, and a deletion closes it for good. -/
theorem customer_tombstones (merchantId : MerchantId) (gid : String) :
    Tombstones (fun db event => CustomerEvent.process merchantId db event) (CustomerEvent.snapshots gid)
      (fun event => (event.deletion gid).isSome)
      (fun db => (db.customers.find? (named merchantId gid)).isSome = true)
      (fun db => Gone (db.customers.find? (named merchantId gid))) where
  present db event next done := by
    by_cases kept : event.deletion gid = none
    · exact (overwritten_process done kept).present
    · obtain ⟨silent, now, found⟩ := deleted_process done kept
      rw [silent, found, Option.isSome_map]
      simp
  absent db absent row found := by
    rw [Option.mem_def.mp found] at absent
    exact absurd rfl absent
  keeps db event next done kept present := by
    have rows := overwritten_process done (Option.isNone_iff_eq_none.mp (Option.not_isSome _ ▸ congrArg not kept))
    obtain ⟨row, found⟩ := Option.isSome_iff_exists.mp present
    obtain ⟨written, after⟩ := Option.isSome_iff_exists.mp (rows.present.mpr (.inl present))
    have same := rows.deletedAt
    rw [found, after] at same ⊢
    simpa [Gone] using not_congr (Eq.congr_left same)
  creates db event next done absent written := by
    have kept : event.deletion gid = none := by
      by_contra deleted
      exact written (deleted_process done deleted).1
    have rows := overwritten_process done kept
    obtain ⟨row, found⟩ := Option.isSome_iff_exists.mp (rows.present.mpr (.inr written))
    have same := rows.deletedAt
    rw [Option.not_isSome_iff_eq_none.mp absent, found] at same
    exact fun gone => gone row found same
  closes db event next done deleted := by
    obtain ⟨_, now, found⟩ := deleted_process done (Option.isSome_iff_ne_none.mp deleted)
    intro row present
    rw [found] at present
    obtain ⟨old, _, rfl⟩ := Option.map_eq_some_iff.mp present
    exact deletedAt_softDeleted now old

/-- In the end a column holds what the last snapshot that carries it gives. -/
theorem shown_processAll (column : CustomerColumn) (ran : processAll merchantId events first = .ok last) :
    column.shown (last.customers.find? (named merchantId gid)) =
      (lastCarried column.carried (events.flatMap (CustomerEvent.snapshots gid))).getD
        (column.shown (first.customers.find? (named merchantId gid))) := by
  refine column_run (fun db => column.shown (db.customers.find? (named merchantId gid))) (fun db event next done => ?_) ran
  by_cases kept : event.deletion gid = none
  · exact (overwritten_process done kept).columns column
  · obtain ⟨silent, now, found⟩ := deleted_process done kept
    rw [silent, found, shown_softDeleted]
    rfl

/-- The row shows a snapshot exactly when its values are the lasting ones. -/
theorem shown_iff_lasting (ran : processAll merchantId events first = .ok last)
    (listed : newest ∈ events.flatMap (CustomerEvent.snapshots gid)) :
    ∃ row, last.customers.find? (named merchantId gid) = some row ∧
      (newest.Shown row ↔ newest.Lasting (events.flatMap (CustomerEvent.snapshots gid))) := by
  have present := (present_run (customer_tombstones merchantId gid).present ran).mpr (.inr (List.ne_nil_of_mem listed))
  obtain ⟨row, found⟩ := Option.isSome_iff_exists.mp present
  refine ⟨row, found, forall_congr' fun column => forall_congr' fun value => imp_congr_right fun carries => ?_⟩
  have held := @shown_processAll merchantId gid _ _ _ column ran
  rw [found] at held
  rw [← getD_lastCarried_iff listed carries, ← held]
  rfl

/-- After a deletion the customer is gone exactly when its row was there, or a snapshot of it was processed before some
deletion, or none was at all. -/
theorem gone_iff_deleted_after (ran : processAll merchantId events first = .ok last)
    (deleted : ∃ event ∈ events, event.deletion gid ≠ none) :
    Gone (last.customers.find? (named merchantId gid)) ↔
      (first.customers.find? (named merchantId gid)).isSome = true ∨ events.flatMap (CustomerEvent.snapshots gid) = [] ∨
        ∃ earlier event later, events = earlier ++ event :: later ∧ event.deletion gid ≠ none ∧
          earlier.flatMap (CustomerEvent.snapshots gid) ≠ [] := by
  have laws := customer_tombstones merchantId gid
  simp only [← Option.isSome_iff_ne_none] at deleted ⊢
  by_cases present : (first.customers.find? (named merchantId gid)).isSome = true
  · exact iff_of_true ((laws.gone_of_present ran present).mpr (.inr deleted)) (.inl present)
  · rw [laws.gone_of_absent ran present, or_iff_right present]

end Runs

end WinBack
