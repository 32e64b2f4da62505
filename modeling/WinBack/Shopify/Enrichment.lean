import WinBack.Library.Isolated
import WinBack.Library.Machine
import WinBack.Shopify.Resync

/-! What the app knows of a shop beyond its name: fetched after the install, and again by a sweep for the merchants that
it has failed for. The columns, the time of the fetch and the event that tells of it go together. -/

namespace WinBack.Enrichment

open Library Shopify Outbox

section Rows

/-- The row with the columns that enrichment fills. -/
structure MerchantRow extends Merchant where
  email : Option String := none
  country : Option String := none
  shopifyPlan : Option String := none
  installedAt : Date := 0
  shopDetailsFetchedAt : Option Date := none
  deriving DecidableEq, Repr

instance : Indexed MerchantRow := .ofKeys (fun row => row.id) fun row => row.shop

structure Published where
  merchantId : MerchantId
  type : OutboxEventType
  payload : Json
  createdAt : Date
  deriving DecidableEq

structure Store where
  merchants : Table MerchantRow := ∅
  sessions : Table Session := ∅
  events : List Published := []

structure RawPlan where
  displayName : Option String := none
  partnerDevelopment : Option Bool := none
  shopifyPlus : Option Bool := none
  deriving DecidableEq, Repr

structure RawShop where
  email : Option String := none
  name : Option String := none
  countryCodeV2 : Option String := none
  currencyCode : Option String := none
  ianaTimezone : Option String := none
  plan : Option RawPlan := none
  deriving DecidableEq, Repr

structure Details extends Backfill.ShopDetails where
  email : Option String := none
  deriving DecidableEq, Repr

end Rows

section Program

def normalizePlan : Option RawPlan → Option String
  | none => none
  | some plan =>
    if plan.shopifyPlus = some true then some "plus"
    else if plan.partnerDevelopment = some true then some "partner_test"
    else (plan.displayName.filter (· ≠ "")).map String.toLower

def shopDetails (shop : Option RawShop) : Details :=
  let shop := shop.getD {}
  { email := shop.email
    name := shop.name
    country := shop.countryCodeV2
    currency := shop.currencyCode
    timezone := shop.ianaTimezone
    plan := normalizePlan shop.plan }

/-- What the Admin API makes of the query in the end, after its retries. -/
inductive Response where
  | failed (reason : String)
  | unauthorized
  | data (shop : Option RawShop)

/-- What the environment decides about one call of `enrichInstall`. -/
structure Choice where
  response : Response
  now : Date := 0
  aborts : Option String := none    -- the transaction that follows fails
  lost : Option String := none      -- it commits, and its answer does not come back

structure EnrichInstallResult where
  merchantId : MerchantId
  success : Bool
  reason : Option String := none
  deriving DecidableEq, Repr

variable (decrypt : String → Option String)

def getOfflineToken (merchantId : MerchantId) (store : Store) : Option (String × String) := do
  let merchant ← store.merchants.find? (·.id == merchantId)
  guard merchant.tokenRevokedAt.isNone
  let session ← store.sessions.find? (·.id == offlineSessionId merchant.shop)
  guard (session.accessToken ≠ "")
  let accessToken ← decrypt session.accessToken
  return (merchant.shop, accessToken)

/-- One transaction: the merchant's row, and an event. -/
def transaction (merchantId : MerchantId) (change : MerchantRow → MerchantRow) (keeps : ∀ row, Indexed.index (change row) = Indexed.index row)
    (type : OutboxEventType) (payload : Json) (choice : Choice) (store : Store) : Except String Unit × Store :=
  if store.merchants.any (·.id == merchantId) then
    match choice.aborts with
    | some reason => (.error reason, store)
    | none => (choice.lost.elim (.ok ()) .error, { store with
        merchants := store.merchants.updateMany (·.id == merchantId) change keeps
        events := store.events ++ [⟨merchantId, type, payload, choice.now⟩] })
  else (.error "Record to update not found.", store)

def markTokenRevoked (merchantId : MerchantId) (choice : Choice) : Store → Except String Unit × Store :=
  transaction merchantId (fun row => { row with tokenRevokedAt := some choice.now }) (fun _ => rfl)
    .merchantNeedsReauth (.obj [("reason", .str "token_revoked_401")]) choice

def MerchantRow.enriched (details : Details) (now : Date) (row : MerchantRow) : MerchantRow := { row with
  email := details.email
  name := details.name
  country := details.country
  currency := details.currency
  timezone := details.timezone
  shopifyPlan := details.plan
  shopDetailsFetchedAt := some now }

def updateEnrichment (merchantId : MerchantId) (details : Details) (choice : Choice) : Store → Except String Unit × Store :=
  transaction merchantId (·.enriched details choice.now) (fun _ => rfl)
    .merchantShopDetailsFetched (Backfill.shopDetailsFetched details.toShopDetails) choice

/-- `AdminClient.graphql` with the shop query. -/
def fetchShopDetails (merchantId : MerchantId) (choice : Choice) (store : Store) : Except String Details × Store :=
  match getOfflineToken decrypt merchantId store with
  | none => (.error s!"No usable offline token for merchant {merchantId}", store)
  | some _ =>
    match choice.response with
    | .failed reason => (.error reason, store)
    | .unauthorized =>
      let (marked, store) := markTokenRevoked merchantId choice store
      (marked.bind fun _ => .error s!"Merchant {merchantId} returned 401 (token revoked)", store)
    | .data shop => (.ok (shopDetails shop), store)

/-- Failures are returned rather than thrown. -/
def enrichInstall (choice : Choice) (merchantId : MerchantId) (store : Store) : EnrichInstallResult × Store :=
  match fetchShopDetails decrypt merchantId choice store with
  | (.error reason, store) => (⟨merchantId, false, some reason⟩, store)
  | (.ok details, store) =>
    match updateEnrichment merchantId details choice store with
    | (.error reason, store) => (⟨merchantId, false, some reason⟩, store)
    | (.ok (), store) => (⟨merchantId, true, none⟩, store)

/-- Ten minutes after the install its own enrichment should be through. -/
def unEnriched (now : Date) (row : MerchantRow) : Bool :=
  row.shopDetailsFetchedAt.isNone && decide (row.installedAt < now - 600_000) && row.tokenRevokedAt.isNone &&
    row.uninstalledAt.isNone

/-- The merchants of a tick, in no particular order. -/
def unEnrichedMerchants (now : Date) (store : Store) : List MerchantId :=
  (store.merchants.rows.filter (unEnriched now)).map (·.id)

def runEnrichmentSweep (choices : MerchantId → Choice) (rows : List MerchantId) (store : Store) :
    List EnrichInstallResult × Store :=
  passAll (fun merchantId => enrichInstall decrypt (choices merchantId) merchantId) rows store

end Program

section Standing

/-- What concerns one merchant: its row, the session of its shop and its events. -/
@[ext] structure Standing where
  merchant : Option MerchantRow
  session : Option Session
  events : List Published

def eventsOf (merchantId : MerchantId) (events : List Published) : List Published :=
  events.filter fun event => event.merchantId == merchantId

def standing (merchantId : MerchantId) (store : Store) : Standing where
  merchant := store.merchants.find? (·.id == merchantId)
  session := (store.merchants.find? (·.id == merchantId)).bind fun merchant =>
    store.sessions.find? (·.id == offlineSessionId merchant.shop)
  events := eventsOf merchantId store.events

/-- The offline token of the merchant. -/
def Standing.token (decrypt : String → Option String) (standing : Standing) : Option (String × String) := do
  let merchant ← standing.merchant
  guard merchant.tokenRevokedAt.isNone
  let session ← standing.session
  guard (session.accessToken ≠ "")
  let accessToken ← decrypt session.accessToken
  return (merchant.shop, accessToken)

/-- A transaction, as the merchant sees it. -/
def Standing.transact (merchantId : MerchantId) (change : MerchantRow → MerchantRow) (type : OutboxEventType) (payload : Json)
    (choice : Choice) (standing : Standing) : Except String Unit × Standing :=
  if standing.merchant.isSome then
    match choice.aborts with
    | some reason => (.error reason, standing)
    | none => (choice.lost.elim (.ok ()) .error, { standing with
        merchant := standing.merchant.map change
        events := standing.events ++ [⟨merchantId, type, payload, choice.now⟩] })
  else (.error "Record to update not found.", standing)

/-- What an enrichment makes of one merchant, when there is nobody else. -/
def Standing.enrichInstall (decrypt : String → Option String) (choice : Choice) (merchantId : MerchantId)
    (standing : Standing) : EnrichInstallResult × Standing :=
  match standing.token decrypt, choice.response with
  | none, _ => (⟨merchantId, false, some s!"No usable offline token for merchant {merchantId}"⟩, standing)
  | some _, .failed reason => (⟨merchantId, false, some reason⟩, standing)
  | some _, .unauthorized =>
    match standing.transact merchantId (fun row => { row with tokenRevokedAt := some choice.now })
        .merchantNeedsReauth (.obj [("reason", .str "token_revoked_401")]) choice with
    | (.error reason, after) => (⟨merchantId, false, some reason⟩, after)
    | (.ok (), after) => (⟨merchantId, false, some s!"Merchant {merchantId} returned 401 (token revoked)"⟩, after)
  | some _, .data shop =>
    match standing.transact merchantId (·.enriched (shopDetails shop) choice.now) .merchantShopDetailsFetched
        (Backfill.shopDetailsFetched (shopDetails shop).toShopDetails) choice with
    | (.error reason, after) => (⟨merchantId, false, some reason⟩, after)
    | (.ok (), after) => (⟨merchantId, true, none⟩, after)

variable {decrypt : String → Option String} {merchantId other : MerchantId} {choice : Choice} {store next : Store}
  {change : MerchantRow → MerchantRow} {keeps : ∀ row, Indexed.index (change row) = Indexed.index row}
  {type : OutboxEventType} {payload : Json}

theorem getOfflineToken_eq : getOfflineToken decrypt merchantId store = (standing merchantId store).token decrypt := by
  unfold getOfflineToken Standing.token standing
  dsimp only
  cases store.merchants.find? (·.id == merchantId) with
  | none => rfl
  | some merchant => rfl

theorem eventsOf_append (merchantId : MerchantId) (events more : List Published) :
    eventsOf merchantId (events ++ more) = eventsOf merchantId events ++ eventsOf merchantId more :=
  List.filter_append ..

theorem eventsOf_own (type : OutboxEventType) (payload : Json) (now : Date) :
    eventsOf merchantId [⟨merchantId, type, payload, now⟩] = [⟨merchantId, type, payload, now⟩] := by
  simp [eventsOf]

theorem index_parts (row : MerchantRow) (same : Indexed.index (change row) = Indexed.index row) :
    (change row).id = row.id ∧ (change row).shop = row.shop := Prod.mk.inj same

theorem find?_written (keeps : ∀ row, Indexed.index (change row) = Indexed.index row) (other : MerchantId) :
    (store.merchants.updateMany (·.id == merchantId) change keeps).find? (·.id == other) =
      (store.merchants.find? (·.id == other)).map fun row => if (row.id == merchantId) = true then change row else row :=
  Table.find?_updateMany fun row => by rw [(index_parts row (keeps row)).1]

/-- A transaction on the store is one on the standing of its merchant. -/
theorem standing_transaction :
    let (answer, after) := transaction merchantId change keeps type payload choice store
    (answer, standing merchantId after) = (standing merchantId store).transact merchantId change type payload choice := by
  have present : store.merchants.any (·.id == merchantId) = (store.merchants.find? (·.id == merchantId)).isSome :=
    List.isSome_find?.symm
  cases found : store.merchants.find? (·.id == merchantId) with
  | none =>
    rw [found] at present
    simp [transaction, Standing.transact, standing, found, present]
  | some row =>
    rw [found] at present
    have own : row.id = merchantId := beq_iff_eq.mp (Table.find?_mem found).2
    cases aborts : choice.aborts with
    | some reason => simp [transaction, Standing.transact, standing, found, present, aborts]
    | none =>
      simp [transaction, Standing.transact, standing, found, present, aborts, find?_written keeps, own, eventsOf_append,
        eventsOf_own, (index_parts row (keeps row)).2]

theorem standing_transaction_apart (apart : other ≠ merchantId) :
    standing other (transaction merchantId change keeps type payload choice store).2 = standing other store := by
  unfold transaction
  split
  · split
    · rfl
    · have same : (store.merchants.updateMany (·.id == merchantId) change keeps).find? (·.id == other) =
          store.merchants.find? (·.id == other) := by
        rw [find?_written keeps]
        cases found : store.merchants.find? (·.id == other) with
        | none => rfl
        | some row =>
          have named : row.id = other := beq_iff_eq.mp (Table.find?_mem found).2
          simp [named, apart]
      have silent : eventsOf other [⟨merchantId, type, payload, choice.now⟩] = [] := by
        simp [eventsOf, Ne.symm apart]
      simp only [standing, same, eventsOf_append, silent, List.append_nil]
  · rfl

/-- `enrichInstall` does to a merchant what it would do if there were nobody else. -/
theorem standing_enrichInstall :
    let (result, after) := enrichInstall decrypt choice merchantId store
    (result, standing merchantId after) = (standing merchantId store).enrichInstall decrypt choice merchantId := by
  unfold enrichInstall fetchShopDetails Standing.enrichInstall
  rw [← getOfflineToken_eq]
  cases getOfflineToken decrypt merchantId store with
  | none => rfl
  | some resolved =>
    cases choice.response with
    | failed reason => rfl
    | unauthorized =>
      have moved := @standing_transaction merchantId choice store (fun row => { row with tokenRevokedAt := some choice.now })
        (fun _ => rfl) .merchantNeedsReauth (.obj [("reason", .str "token_revoked_401")])
      dsimp only at moved ⊢
      rw [← moved, markTokenRevoked]
      cases (transaction merchantId (fun row => { row with tokenRevokedAt := some choice.now }) (fun _ => rfl)
        .merchantNeedsReauth (.obj [("reason", .str "token_revoked_401")]) choice store).1 <;> rfl
    | data shop =>
      have moved := @standing_transaction merchantId choice store (·.enriched (shopDetails shop) choice.now) (fun _ => rfl)
        .merchantShopDetailsFetched (Backfill.shopDetailsFetched (shopDetails shop).toShopDetails)
      dsimp only at moved ⊢
      rw [← moved, updateEnrichment]
      cases written : transaction merchantId (·.enriched (shopDetails shop) choice.now) (fun _ => rfl)
          .merchantShopDetailsFetched (Backfill.shopDetailsFetched (shopDetails shop).toShopDetails) choice store with
      | mk answer after => cases answer <;> rfl

theorem standing_enriched : standing merchantId (enrichInstall decrypt choice merchantId store).2 =
    ((standing merchantId store).enrichInstall decrypt choice merchantId).2 := congrArg Prod.snd standing_enrichInstall

theorem standing_enrichInstall_apart (apart : other ≠ merchantId) :
    standing other (enrichInstall decrypt choice merchantId store).2 = standing other store := by
  unfold enrichInstall fetchShopDetails
  cases getOfflineToken decrypt merchantId store with
  | none => rfl
  | some resolved =>
    cases choice.response with
    | failed reason => rfl
    | unauthorized =>
      have moved := @standing_transaction_apart merchantId other choice store
        (fun row => { row with tokenRevokedAt := some choice.now }) (fun _ => rfl) .merchantNeedsReauth
        (.obj [("reason", .str "token_revoked_401")]) apart
      dsimp only
      rw [markTokenRevoked]
      cases written : (transaction merchantId (fun row => { row with tokenRevokedAt := some choice.now }) (fun _ => rfl)
        .merchantNeedsReauth (.obj [("reason", .str "token_revoked_401")]) choice store).1 <;> exact moved
    | data shop =>
      have moved := @standing_transaction_apart merchantId other choice store (·.enriched (shopDetails shop) choice.now)
        (fun _ => rfl) .merchantShopDetailsFetched (Backfill.shopDetailsFetched (shopDetails shop).toShopDetails) apart
      dsimp only
      rw [updateEnrichment]
      cases written : transaction merchantId (·.enriched (shopDetails shop) choice.now) (fun _ => rfl)
          .merchantShopDetailsFetched (Backfill.shopDetailsFetched (shopDetails shop).toShopDetails) choice store with
      | mk answer after =>
        rw [written] at moved
        cases answer <;> exact moved

end Standing

section Sweeps

variable {decrypt : String → Option String} {merchantId : MerchantId} {now : Date} {store next : Store} {rows : List MerchantId}

theorem enrichInstall_isolated (decrypt : String → Option String) (choices : MerchantId → Choice) :
    Isolated (fun _ => True) standing fun merchantId => enrichInstall decrypt (choices merchantId) merchantId where
  keeps _ _ _ := trivial
  apart _ _ _ _ apart := standing_enrichInstall_apart apart
  own merchantId first second _ _ same := by
    have here := @standing_enrichInstall decrypt merchantId (choices merchantId) first
    have there := @standing_enrichInstall decrypt merchantId (choices merchantId) second
    rw [same, ← there] at here
    exact Prod.mk.inj here

theorem unEnrichedMerchants_nodup (now : Date) (store : Store) : (unEnrichedMerchants now store).Nodup := by
  have distinct : (store.merchants.rows.map (·.id)).Nodup := by
    rw [List.nodup_iff_pairwise_ne, List.pairwise_map]
    refine store.merchants.unique.imp fun free same => ?_
    simp [Indexed.clash, Indexed.index, same] at free
  exact distinct.sublist (List.filter_sublist.map _)

/-- A tick over the merchants in any order: each of them is enriched, found revoked or left as it is by its own call to
Shopify alone, and answered so; all others are left alone. -/
theorem enrichment_sweep_alone (choices : MerchantId → Choice) (listed : rows.Perm (unEnrichedMerchants now store)) :
    (runEnrichmentSweep decrypt choices rows store).1 =
        rows.map (fun merchantId => ((standing merchantId store).enrichInstall decrypt (choices merchantId) merchantId).1) ∧
      ∀ merchantId, standing merchantId (runEnrichmentSweep decrypt choices rows store).2 =
        if merchantId ∈ unEnrichedMerchants now store then
          ((standing merchantId store).enrichInstall decrypt (choices merchantId) merchantId).2
        else standing merchantId store := by
  have isolated := enrichInstall_isolated decrypt choices
  have distinct := listed.nodup_iff.mpr (unEnrichedMerchants_nodup now store)
  refine ⟨(isolated.answers_passAll distinct trivial).trans (List.map_congr_left fun merchantId _ => ?_), fun merchantId => ?_⟩
  · exact congrArg Prod.fst (@standing_enrichInstall decrypt merchantId (choices merchantId) store)
  · split
    · rename_i member
      exact (isolated.view_of_mem distinct trivial (listed.mem_iff.mpr member)).trans standing_enriched
    · rename_i absent
      exact isolated.view_of_not_mem trivial fun member => absent (listed.mem_iff.mp member)

end Sweeps

section Runs

/-- The columns that enrichment fills, and when it did. -/
def MerchantRow.enrichment (row : MerchantRow) : Details × Option Date :=
  (⟨⟨row.name, row.country, row.currency, row.timezone, row.shopifyPlan⟩, row.email⟩, row.shopDetailsFetchedAt)

/-- What the row says before anything was fetched. -/
def unfetched : Details × Option Date := ({}, none)

/-- The events that tell of details. -/
def detailsOf (events : List Published) : List Published :=
  events.filter fun event => event.type == .merchantShopDetailsFetched

inductive Label where
  | tick (now : Date) (rows : List MerchantId) (choices : MerchantId → Choice)
  | installed (merchantId : MerchantId) (choice : Choice)    -- the handler of `merchant.installed`
  | elsewhere (after : Store)

def machine (decrypt : String → Option String) : Machine Store Label where
  step store
    | .tick _ rows choices => some (runEnrichmentSweep decrypt choices rows store).2
    | .installed merchantId choice => some (enrichInstall decrypt choice merchantId store).2
    | .elsewhere after => some after

/-- Other components do not enrich: a merchant they install is new, and they tell of nobody's details. -/
def Foreign (before after : Store) : Prop :=
  ∀ merchantId row, after.merchants.find? (·.id == merchantId) = some row →
    (∃ old, before.merchants.find? (·.id == merchantId) = some old ∧ row.enrichment = old.enrichment ∧
      detailsOf (eventsOf merchantId after.events) = detailsOf (eventsOf merchantId before.events)) ∨
    row.enrichment = unfetched ∧ detailsOf (eventsOf merchantId after.events) = []

/-- A tick takes the merchants that its query finds. -/
def Regular (store : Store) : Label → Prop
  | .tick now rows _ => rows.Perm (unEnrichedMerchants now store)
  | .installed _ _ => True
  | .elsewhere after => Foreign store after

/-- Never fetched and never told of, or as the last event tells. -/
def Told (merchantId : MerchantId) (standing : Standing) : Prop :=
  ∀ row, standing.merchant = some row →
    row.enrichment = unfetched ∧ detailsOf standing.events = [] ∨
      ∃ details now before, row.enrichment = (details, some now) ∧ detailsOf standing.events =
        before ++ [⟨merchantId, .merchantShopDetailsFetched, Backfill.shopDetailsFetched details.toShopDetails, now⟩]

variable {decrypt : String → Option String} {merchantId : MerchantId} {choice : Choice} {store origin final : Store}
  {before : Standing}

/-- A transaction keeps what is told, when it leaves the columns or tells of them. -/
theorem Told.transact {change : MerchantRow → MerchantRow} {type : OutboxEventType} {payload : Json} (told : Told merchantId before)
    (tells : (∀ row : MerchantRow, (change row).enrichment = row.enrichment) ∧ type ≠ .merchantShopDetailsFetched ∨
      ∃ details, (∀ row : MerchantRow, (change row).enrichment = (details, some choice.now)) ∧ type = .merchantShopDetailsFetched ∧
        payload = Backfill.shopDetailsFetched details.toShopDetails) :
    Told merchantId (before.transact merchantId change type payload choice).2 := by
  unfold Standing.transact
  split
  · split
    · exact told
    · intro row written
      obtain ⟨old, held, rfl⟩ := Option.map_eq_some_iff.mp written
      rcases tells with ⟨kept, silent⟩ | ⟨details, filled, rfl, rfl⟩
      · have same : detailsOf (before.events ++ [⟨merchantId, type, payload, choice.now⟩]) = detailsOf before.events := by
          simp [detailsOf, silent]
        dsimp only
        rw [same, kept]
        exact told old held
      · refine .inr ⟨details, choice.now, detailsOf before.events, filled old, ?_⟩
        simp [detailsOf]
  · exact told

theorem Told.enrichInstall (told : Told merchantId before) :
    Told merchantId (before.enrichInstall decrypt choice merchantId).2 := by
  have revoked := @Told.transact merchantId choice before (fun row => { row with tokenRevokedAt := some choice.now })
    .merchantNeedsReauth (.obj [("reason", .str "token_revoked_401")]) told (.inl ⟨fun _ => rfl, by decide⟩)
  have enriched (shop : Option RawShop) := @Told.transact merchantId choice before (·.enriched (shopDetails shop) choice.now)
    .merchantShopDetailsFetched (Backfill.shopDetailsFetched (shopDetails shop).toShopDetails) told
    (.inr ⟨shopDetails shop, fun _ => rfl, rfl, rfl⟩)
  unfold Standing.enrichInstall
  cases before.token decrypt with
  | none => exact told
  | some resolved =>
    cases choice.response with
    | failed reason => exact told
    | unauthorized =>
      dsimp only
      split
      · rename_i failed
        exact congrArg Prod.snd failed ▸ revoked
      · rename_i done
        exact congrArg Prod.snd done ▸ revoked
    | data shop =>
      dsimp only
      split
      · rename_i failed
        exact congrArg Prod.snd failed ▸ enriched shop
      · rename_i done
        exact congrArg Prod.snd done ▸ enriched shop

/-- A shop that was installed an hour ago, and a shop whose token Shopify no longer takes. -/
def twoInstalls : Store where
  merchants := ⟨[{ id := "a", shop := "a1.myshopify.com" }, { id := "b", shop := "b1.myshopify.com" }], by decide⟩
  sessions := ⟨[⟨"offline_a1.myshopify.com", "sealed"⟩, ⟨"offline_b1.myshopify.com", "sealed"⟩], by decide⟩

def oneRevoked (merchantId : MerchantId) : Choice where
  response := if merchantId = "a" then .data (some { currencyCode := some "EUR", plan := some { displayName := some "Basic" } })
    else .unauthorized
  now := 3_600_000

theorem enrichment_sweep_alone_revoked :
    (runEnrichmentSweep some oneRevoked ["b", "a"] twoInstalls).1.map (·.success) = [false, true] ∧
      ∀ merchantId, standing merchantId (runEnrichmentSweep some oneRevoked ["b", "a"] twoInstalls).2 =
        if merchantId ∈ unEnrichedMerchants 3_600_000 twoInstalls then
          ((standing merchantId twoInstalls).enrichInstall some (oneRevoked merchantId) merchantId).2
        else standing merchantId twoInstalls :=
  ⟨by decide, (enrichment_sweep_alone oneRevoked (by decide)).2⟩

end Runs

end WinBack.Enrichment
