import WinBack.Customer.Snapshot
import WinBack.Library.Fallible

/-! Whether the two ways of ingesting a customer leave the same row. -/

namespace WinBack

open Library CustomerRepository

section Columns

/-- `SHOPIFY_OWNED_FIELDS`. -/
structure ShopifyOwned where
  email : Option String
  phone : Option String
  firstName : Option String
  lastName : Option String
  acceptsMarketing : Bool
  acceptsSms : Bool
  emailMarketingConsentState : EmailMarketingConsentState
  ordersCount : Int
  tags : List String
  shopifyUpdatedAt : Option Date
  deriving DecidableEq, Repr

def Customer.shopifyOwned (row : Customer) : ShopifyOwned where
  email := row.email
  phone := row.phone
  firstName := row.firstName
  lastName := row.lastName
  acceptsMarketing := row.acceptsMarketing
  acceptsSms := row.acceptsSms
  emailMarketingConsentState := row.emailMarketingConsentState
  ordersCount := row.ordersCount
  tags := row.tags
  shopifyUpdatedAt := row.shopifyUpdatedAt

/-- What the columns say of a customer that is as Shopify has it; without a consent object no
consent is given. -/
def ShopifyCustomer.shopifyOwned (snapshot : ShopifyCustomer) : ShopifyOwned where
  email := snapshot.email
  phone := snapshot.phone
  firstName := snapshot.firstName
  lastName := snapshot.lastName
  acceptsMarketing := snapshot.emailMarketingConsent == some .subscribed
  acceptsSms := snapshot.smsMarketingConsent == some .subscribed
  emailMarketingConsentState := toEmailMarketingConsentState (snapshot.emailMarketingConsent.map (·.graphql))
  ordersCount := (snapshot.ordersCount.getD 0 : Nat)
  tags := snapshot.tags.getD []
  shopifyUpdatedAt := some snapshot.updatedAt

/-- The body carries what the row does not have anyway. -/
structure Carried (snapshot : ShopifyCustomer) (prior : Customer) : Prop where
  acceptsMarketing : snapshot.emailMarketingConsent = some .subscribed ∨ prior.acceptsMarketing = false
  acceptsSms : snapshot.smsMarketingConsent = some .subscribed ∨ prior.acceptsSms = false
  emailMarketingConsentState : snapshot.emailMarketingConsent ≠ none ∨ prior.emailMarketingConsentState = .notSubscribed
  ordersCount : snapshot.ordersCount ≠ none ∨ prior.ordersCount = 0
  tags : ∀ tag ∈ snapshot.tags.getD [], CanonicalTag tag

variable {snapshot : ShopifyCustomer} {prior : Customer}

theorem MarketingState.graphql_subscribed (state : MarketingState) :
    (state.graphql == "SUBSCRIBED") = (state == .subscribed) := by
  cases state <;> decide

theorem MarketingState.rest_subscribed (state : MarketingState) : state.rest = "subscribed" ↔ state = .subscribed := by
  cases state <;> decide

/-- The normalizer reads both spellings the same. -/
theorem toEmailMarketingConsentState_rest (state : MarketingState) :
    toEmailMarketingConsentState (some state.rest) = toEmailMarketingConsentState (some state.graphql) := by
  cases state <;> decide +kernel

/-- A backfill leaves the row as Shopify has it, whatever was there. -/
theorem shopifyOwned_toNode (created : Option (Option Date)) :
    (CustomerPatch.apply { snapshot.toNode.shopifyOwned with shopifyCreatedAt := created } prior).shopifyOwned =
      snapshot.shopifyOwned := by
  have consent (state : Option MarketingState) :
      (state.map (·.graphql) == some "SUBSCRIBED") = (state == some .subscribed) := by
    cases state with
    | none => rfl
    | some state => exact MarketingState.graphql_subscribed state
  have orders : parseIntOrZero (snapshot.ordersCount.map toString) = (snapshot.ordersCount.getD 0 : Nat) := by
    cases snapshot.ordersCount with
    | none => exact (by decide : parseIntOrZero none = 0)
    | some count => exact parseIntOrZero_toString count
  exact (ShopifyOwned.mk.injEq ..).mpr ⟨rfl, rfl, rfl, rfl, consent _, consent _, rfl, orders, rfl, rfl⟩

/-- A flag that only a subscription sets. -/
theorem subscribed_iff (state : Option MarketingState) (prior : Bool) :
    (if state.map (·.rest) = some "subscribed" then some true else none).getD prior = (state == some .subscribed) ↔
      state = some .subscribed ∨ prior = false := by
  cases state with
  | none => simp
  | some state =>
    simp only [Option.map_some, Option.some.injEq, MarketingState.rest_subscribed]
    by_cases given : state = .subscribed
    · simp [given]
    · have other : (state == .subscribed) = false := beq_eq_false_iff_ne.mpr given
      simp [given, other]

theorem consentState_iff (state : Option MarketingState) (prior : EmailMarketingConsentState) :
    ((state.map (·.rest)).map fun state => toEmailMarketingConsentState (some state)).getD prior =
        toEmailMarketingConsentState (state.map (·.graphql)) ↔
      state ≠ none ∨ prior = .notSubscribed := by
  cases state with
  | none =>
    have closed : toEmailMarketingConsentState none = .notSubscribed := by decide +kernel
    simp [closed]
  | some state => simp [toEmailMarketingConsentState_rest]

theorem ordersCount_iff (count : Option Nat) (prior : Int) :
    (count.map Int.ofNat).getD prior = ((count.getD 0 : Nat) : Int) ↔ count ≠ none ∨ prior = 0 := by
  cases count <;> simp

theorem tags_iff (tags : Option (List String)) :
    splitTags (tags.map joinTags) = tags.getD [] ↔ ∀ tag ∈ tags.getD [], CanonicalTag tag := by
  cases tags with
  | none => simp [splitTags]
  | some tags => exact splitTags_joinTags tags

/-- A webhook leaves the row as Shopify has it when the body carries all that differs. -/
theorem shopifyOwned_toWebhookBody :
    (snapshot.toWebhookBody.sharedFields.apply prior).shopifyOwned = snapshot.shopifyOwned ↔ Carried snapshot prior := by
  simp only [Customer.shopifyOwned, CustomerPatch.apply, ShopifyCustomerWebhookBody.sharedFields,
    ShopifyCustomer.toWebhookBody, ShopifyCustomer.shopifyOwned, ShopifyOwned.mk.injEq, true_and, and_true]
  constructor
  · rintro ⟨acceptsMarketing, acceptsSms, consentState, ordersCount, tags⟩
    exact ⟨(subscribed_iff _ _).mp acceptsMarketing, (subscribed_iff _ _).mp acceptsSms,
      (consentState_iff _ _).mp consentState, (ordersCount_iff _ _).mp ordersCount, (tags_iff _).mp tags⟩
  · rintro ⟨acceptsMarketing, acceptsSms, consentState, ordersCount, tags⟩
    exact ⟨(subscribed_iff _ _).mpr acceptsMarketing, (subscribed_iff _ _).mpr acceptsSms,
      (consentState_iff _ _).mpr consentState, (ordersCount_iff _ _).mpr ordersCount, (tags_iff _).mpr tags⟩

end Columns

section Upsert

variable {merchantId : MerchantId} {gid other : String} {newId customerId : CustomerId} {create update : CustomerPatch}
  {now : Date} {db after : Db} {snapshot : ShopifyCustomer}

/-- A row as a create starts from it. -/
def blank (merchantId : MerchantId) (gid : String) (newId : CustomerId) (now : Date) : Customer :=
  { id := newId, merchantId, shopifyCustomerId := gid, createdAt := now }

/-- An upsert changes the row it names, or adds it. -/
theorem find_upsert (done : upsert merchantId gid newId create update now db = .ok (customerId, after)) :
    after.customers.find? (named merchantId gid) =
      some (((db.customers.find? (named merchantId gid)).map update.apply).getD
        (create.apply (blank merchantId gid newId now))) := by
  unfold upsert at done
  split at done
  · rename_i stored found
    cases done
    have stable (row : Customer) : named merchantId gid (update.apply row) = named merchantId gid row := rfl
    obtain ⟨_, matched⟩ := Table.find?_mem found
    have updated := @Table.find?_updateMany _ _ db.customers _ (named merchantId gid) update.apply (fun _ => rfl) stable
    rw [found, Option.map_some, if_pos matched] at updated
    rw [found, Option.map_some, Option.getD_some]
    exact updated
  · rename_i absent
    split at done
    · cases done
    · rename_i customers inserted
      split at done
      · cases done
        have own : named merchantId gid (create.apply (blank merchantId gid newId now)) = true := by
          simp [named, CustomerPatch.apply, blank]
        have found := @Table.find?_insert? _ _ _ _ _ (named merchantId gid) inserted
        rw [absent, Option.none_or] at found
        rw [absent, Option.map_none, Option.getD_none]
        exact found.trans (if_pos own)
      · cases done

/-- It fails only for a merchant that is gone, or with an id that is taken. -/
theorem upsert_ok (merchant : db.merchants.any (·.id == merchantId) = true)
    (fresh : ∀ row ∈ db.customers.rows, row.id ≠ newId) :
    ∃ result, upsert merchantId gid newId create update now db = .ok result := by
  unfold upsert
  split
  · exact ⟨_, rfl⟩
  · rename_i absent
    split
    · rename_i refused
      obtain ⟨taken, stored, clash⟩ := Table.insert?_none refused
      have apart := Table.find?_none_iff.mp absent taken stored
      simp only [Indexed.clash, Indexed.index, CustomerPatch.apply, Bool.or_eq_true, beq_iff_eq, Prod.mk.injEq] at clash
      rcases clash with same | ⟨owner, gid⟩
      · exact absurd same (fresh taken stored)
      · simp [named, owner, gid] at apart
    · rw [if_pos merchant]
      exact ⟨_, rfl⟩

/-- The owned columns of the customer, as the store has them. -/
def ownedOf (merchantId : MerchantId) (gid : String) (db : Db) : Option ShopifyOwned :=
  (db.customers.find? (named merchantId gid)).map Customer.shopifyOwned

/-- The row that an ingest of the customer starts from. -/
def priorOf (merchantId : MerchantId) (gid : String) (newId : CustomerId) (now : Date) (db : Db) : Customer :=
  (db.customers.find? (named merchantId gid)).getD (blank merchantId gid newId now)

theorem ownedOf_upsert (done : upsert merchantId gid newId create update now db = .ok (customerId, after)) :
    ownedOf merchantId gid after = some (if (db.customers.find? (named merchantId gid)).isSome then
      (update.apply (priorOf merchantId gid newId now db)).shopifyOwned
      else (create.apply (priorOf merchantId gid newId now db)).shopifyOwned) := by
  rw [ownedOf, find_upsert done, priorOf]
  cases db.customers.find? (named merchantId gid) <;> rfl

/-- The upsert of a backfill leaves the row as Shopify has it, old or new. -/
theorem ownedOf_backfill (done : upsert merchantId snapshot.toNode.id newId { snapshot.toNode.shopifyOwned with
      shopifyCreatedAt := some snapshot.toNode.createdAt } snapshot.toNode.shopifyOwned now db = .ok (customerId, after)) :
    ownedOf merchantId snapshot.toNode.id after = some snapshot.shopifyOwned := by
  rw [ownedOf_upsert done, shopifyOwned_toNode]
  exact congrArg some (ite_eq_left_iff.mpr fun _ => (shopifyOwned_toNode none).symm ▸ rfl)

/-- An upsert leaves every other row. -/
theorem find_upsert_other {owner : MerchantId} (done : upsert merchantId gid newId create update now db = .ok (customerId, after))
    (apart : (owner, other) ≠ (merchantId, gid)) :
    after.customers.find? (named owner other) = db.customers.find? (named owner other) := by
  have unnamed {row : Customer} (here : named owner other row = true) : named merchantId gid row = false := by
    rw [Bool.eq_false_iff]
    intro there
    simp only [named, Bool.and_eq_true, beq_iff_eq] at here there
    exact apart (Prod.ext (here.1.symm.trans there.1) (here.2.symm.trans there.2))
  unfold upsert at done
  split at done
  · cases done
    have stable (row : Customer) : named owner other (update.apply row) = named owner other row := rfl
    have updated := @Table.find?_updateMany _ _ db.customers _ (named merchantId gid) update.apply (fun _ => rfl) stable
    refine updated.trans ?_
    cases found : db.customers.find? (named owner other) with
    | none => rfl
    | some row =>
      rw [Option.map_some, unnamed (Table.find?_mem found).2]
      rfl
  · split at done
    · cases done
    · rename_i customers inserted
      split at done
      · cases done
        have own : named merchantId gid (create.apply (blank merchantId gid newId now)) = true := by
          simp [named, CustomerPatch.apply, blank]
        have missing : ¬named owner other (create.apply (blank merchantId gid newId now)) = true := fun here =>
          Bool.false_ne_true ((unnamed here).symm.trans own)
        have found := @Table.find?_insert? _ _ _ _ _ (named owner other) inserted
        exact found.trans ((congrArg _ (if_neg missing)).trans (Option.or_none))
      · cases done

/-- An upsert leaves every other customer. -/
theorem ownedOf_upsert_other (done : upsert merchantId gid newId create update now db = .ok (customerId, after))
    (apart : other ≠ gid) : ownedOf merchantId other after = ownedOf merchantId other db := by
  unfold ownedOf
  rw [find_upsert_other done fun same => apart (Prod.mk.inj same).2]

/-- A page leaves each of its customers as Shopify has it, and every other customer. -/
theorem ownedOf_processItems {items : List (ShopifyCustomer × CustomerId)}
    (same : ∀ item ∈ items, item.1.id = snapshot.id → item.1 = snapshot)
    (done : processItems merchantId now (items.map fun item => (item.1.toNode, item.2)) db = .ok after) :
    ownedOf merchantId snapshot.toNode.id after =
      if snapshot ∈ items.map Prod.fst then some snapshot.shopifyOwned else ownedOf merchantId snapshot.toNode.id db := by
  induction items generalizing db with
  | nil =>
    cases done
    rfl
  | cons item rest ih =>
    rw [List.map_cons, processItems, parseGid_id] at done
    obtain ⟨⟨customerId, next⟩, upserted, done⟩ := bind_eq_ok_iff.mp done
    rw [ih (fun item listed => same item (List.mem_cons_of_mem _ listed)) done]
    simp only [List.map_cons, List.mem_cons]
    by_cases here : item.1.id = snapshot.id
    · obtain rfl := same item List.mem_cons_self here
      rw [ownedOf_backfill upserted, ite_self, if_pos (Or.inl rfl)]
    · have apart : snapshot.toNode.id ≠ item.1.toNode.id := fun named => here (toNode_id_injective named).symm
      have other : snapshot ≠ item.1 := fun identical => here (identical ▸ rfl)
      simp only [ownedOf_upsert_other upserted apart, other, false_or]

/-- A page of one customer. -/
def backfilled (merchantId : MerchantId) (now : Date) (snapshot : ShopifyCustomer) (newId : CustomerId) (db : Db) :
    Except RepositoryError Db :=
  processItems merchantId now [(snapshot.toNode, newId)] db

/-- Both ingests go through and leave a row of the customer; its owned columns are the same
exactly when the webhook body carries whatever the prior row has that the snapshot does not. -/
theorem ingestion_agrees (merchant : db.merchants.any (·.id == merchantId) = true)
    (fresh : ∀ row ∈ db.customers.rows, row.id ≠ newId) :
    ∃ result viaWebhook viaBackfill,
      upsertFromWebhook merchantId snapshot.toWebhookBody newId now db = .ok (result, viaWebhook) ∧
      backfilled merchantId now snapshot newId db = .ok viaBackfill ∧
      ownedOf merchantId snapshot.toNode.id viaBackfill = some snapshot.shopifyOwned ∧
      (ownedOf merchantId snapshot.toNode.id viaWebhook = ownedOf merchantId snapshot.toNode.id viaBackfill ↔
        Carried snapshot (priorOf merchantId snapshot.toNode.id newId now db)) := by
  obtain ⟨⟨webhookId, viaWebhook⟩, upserted⟩ :=
    @upsert_ok _ snapshot.toNode.id _ snapshot.toWebhookBody.sharedFields snapshot.toWebhookBody.sharedFields now _
      merchant fresh
  obtain ⟨⟨backfillId, viaBackfill⟩, paged⟩ :=
    @upsert_ok _ snapshot.toNode.id _ { snapshot.toNode.shopifyOwned with
      shopifyCreatedAt := some snapshot.toNode.createdAt } snapshot.toNode.shopifyOwned now _ merchant fresh
  have webhook : upsertFromWebhook merchantId snapshot.toWebhookBody newId now db =
      .ok (⟨webhookId, (findByShopifyId db merchantId snapshot.toNode.id).isNone⟩, viaWebhook) := by
    simp only [upsertFromWebhook, toShopifyCustomerGid_id, upserted]
    rfl
  have backfill : backfilled merchantId now snapshot newId db = .ok viaBackfill := by
    simp only [backfilled, processItems, parseGid_id, paged]
    rfl
  have exact : ownedOf merchantId snapshot.toNode.id viaBackfill = some snapshot.shopifyOwned := ownedOf_backfill paged
  refine ⟨_, viaWebhook, viaBackfill, webhook, backfill, exact, ?_⟩
  rw [exact, ownedOf_upsert upserted, ite_self, Option.some.injEq, shopifyOwned_toWebhookBody]

section Samples

/-- A subscriber of one shop. -/
def subscriber : Db where
  merchants := .single { id := "m", shop := "shop" }
  customers := .single {
    id := "c"
    merchantId := "m"
    shopifyCustomerId := "gid://shopify/Customer/7"
    acceptsMarketing := true
    emailMarketingConsentState := .subscribed }

/-- The customer has taken the consent back. -/
def unsubscribed : ShopifyCustomer where
  id := 7
  emailMarketingConsent := some .unsubscribed
  ordersCount := some 2
  tags := some ["vip", "wholesale"]
  createdAt := 1
  updatedAt := 5

/-- The webhook does not turn the flag off. -/
theorem ingestion_disagrees :
    ¬∀ (merchantId : MerchantId) (snapshot : ShopifyCustomer) (newId : CustomerId) (now : Date) (db viaWebhook viaBackfill : Db)
      (result : UpsertResult), upsertFromWebhook merchantId snapshot.toWebhookBody newId now db = .ok (result, viaWebhook) →
      backfilled merchantId now snapshot newId db = .ok viaBackfill →
      ownedOf merchantId snapshot.toNode.id viaWebhook = ownedOf merchantId snapshot.toNode.id viaBackfill := by
  intro claim
  have differ : ((upsertFromWebhook "m" unsubscribed.toWebhookBody "n" 9 subscriber).toOption.bind fun done =>
      ownedOf "m" unsubscribed.toNode.id done.2) ≠
      (backfilled "m" 9 unsubscribed "n" subscriber).toOption.bind (ownedOf "m" unsubscribed.toNode.id) := by
    decide
  have webhookRuns : (upsertFromWebhook "m" unsubscribed.toWebhookBody "n" 9 subscriber).toOption.isSome = true := by
    decide
  have backfillRuns : (backfilled "m" 9 unsubscribed "n" subscriber).toOption.isSome = true := by decide
  cases webhook : upsertFromWebhook "m" unsubscribed.toWebhookBody "n" 9 subscriber with
  | error error =>
    rw [webhook] at webhookRuns
    cases webhookRuns
  | ok done =>
    cases backfill : backfilled "m" 9 unsubscribed "n" subscriber with
    | error error =>
      rw [backfill] at backfillRuns
      cases backfillRuns
    | ok viaBackfill =>
      rw [webhook, backfill] at differ
      exact differ (claim "m" unsubscribed "n" 9 subscriber done.2 viaBackfill done.1 webhook backfill)

theorem ingestion_agrees_subscribed :
    ∃ result viaWebhook viaBackfill,
      upsertFromWebhook "m" (ShopifyCustomer.toWebhookBody { unsubscribed with emailMarketingConsent := some .subscribed })
        "n" 9 subscriber = .ok (result, viaWebhook) ∧
      backfilled "m" 9 { unsubscribed with emailMarketingConsent := some .subscribed } "n" subscriber = .ok viaBackfill ∧
      ownedOf "m" unsubscribed.toNode.id viaWebhook = ownedOf "m" unsubscribed.toNode.id viaBackfill := by
  obtain ⟨result, viaWebhook, viaBackfill, webhook, backfill, _, agrees⟩ :=
    @ingestion_agrees "m" "n" 9 subscriber { unsubscribed with emailMarketingConsent := some .subscribed }
      (by decide) (by decide)
  refine ⟨result, viaWebhook, viaBackfill, webhook, backfill, agrees.mpr ⟨by decide, by decide, by decide, by decide, ?_⟩⟩
  decide

end Samples

end Upsert

end WinBack
