import WinBack.Dispatch.Deferred

/-! How a tick of the sweep leaves the deferred targets. Arm 2 resolves the stale and the paused ones and
re-enqueues the rest, of the merchants that it visits: those with an active e-mail campaign. -/

namespace WinBack.Dispatch.Expiry

open Library CampaignRepository Script

/-- A tick in which no call fails. -/
def tickAlone (time : Nat → Date) (outcome : SdkOutcome) (backend : Backend) : Backend :=
  (run (serve time outcome) (backend, 0) runDispatchSweep).2.1

def live (merchant : Merchant) : Bool := merchant.uninstalledAt == none && merchant.tokenRevokedAt == none

def hasActiveEmailCampaign (merchantId : MerchantId) (db : Db) : Bool :=
  db.campaigns.any fun campaign =>
    campaign.merchantId == merchantId && campaign.status == .active && campaign.channel == .email

def campaignActive (db : Db) (target : CampaignTarget) : Bool :=
  db.campaigns.any fun campaign => campaign.id == target.campaignId && campaign.status == .active

def jobOf (target : CampaignTarget) : CampaignDispatchJobPayload :=
  ⟨target.merchantId, target.messageId, target.campaignId, target.customerId⟩

/-- The jobs that a tick has enqueued. -/
def enqueued (before after : Backend) : List CampaignDispatchJobPayload :=
  (after.jobs.drop before.jobs.length).map (·.payload)

/-- A target that is still deferred is young, has an active campaign, and has been enqueued. -/
def Retried (startedAt : Date) (before after : Backend) (target : CampaignTarget) : Prop :=
  targetStatus after.db target.messageId = some .deferred →
    startedAt - target.createdAt ≤ maxDispatchAgeMs ∧ campaignActive before.db target = true ∧
      jobOf target ∈ enqueued before after

def deferredOf (merchantId : MerchantId) (db : Db) : List CampaignTarget :=
  db.campaignTargets.rows.filter fun target => target.merchantId == merchantId && target.status == .deferred

theorem mem_deferredOf {merchantId : MerchantId} {db : Db} {target : CampaignTarget} :
    target ∈ deferredOf merchantId db ↔
      target ∈ db.campaignTargets.rows ∧ target.merchantId = merchantId ∧ target.status = .deferred := by
  simp [deferredOf, List.mem_filter]

/-- What arm 2 reads of a deferred target. -/
def entryOf (db : Db) (target : CampaignTarget) : DeferredTarget where
  messageId := target.messageId
  campaignId := target.campaignId
  customerId := target.customerId
  createdAt := target.createdAt
  campaignActive := campaignActive db target

/-- A target re-enters if and only if it is young and its campaign is active. -/
theorem deferredFate_entryOf {db : Db} {target : CampaignTarget} {startedAt : Date} :
    deferredFate startedAt (entryOf db target) = .reenter ↔
      startedAt - target.createdAt ≤ maxDispatchAgeMs ∧ campaignActive db target = true := by
  unfold deferredFate
  split
  · rename_i old
    exact iff_of_false nofun fun young => absurd young.1 (not_le.mpr old)
  · rename_i young
    rw [gt_iff_lt, not_lt] at young
    split
    · rename_i active
      exact iff_of_true rfl ⟨young, active⟩
    · rename_i paused
      exact iff_of_false nofun fun active => paused active.2

/-- Every deferred target of the merchant is resolved or tried again. -/
def Settled (startedAt : Date) (merchantId : MerchantId) (before after : Backend) : Prop :=
  ∀ target ∈ deferredOf merchantId before.db, Retried startedAt before after target

instance (startedAt : Date) (before after : Backend) (target : CampaignTarget) :
    Decidable (Retried startedAt before after target) := by unfold Retried; infer_instance

instance (startedAt : Date) (merchantId : MerchantId) (before after : Backend) :
    Decidable (Settled startedAt merchantId before after) := by unfold Settled; infer_instance

variable {time : Nat → Date} {outcome : SdkOutcome} {backend before middle after : Backend} {reads : Nat}
  {merchantId other : MerchantId} {startedAt : Date} {messageId : MessageId} {reason : String}

section Calls

variable {Result : Type}

theorem run_resolveTerminal (rest : Bool → Program Result) :
    run (serve time outcome) (backend, reads) (resolveTerminal merchantId messageId reason .suppressed >>= rest) =
      run (serve time outcome)
        ({ backend with db :=
          (CampaignRepository.resolveTerminal merchantId messageId reason .suppressed backend.db).2 }, reads + 1)
        (rest (CampaignRepository.resolveTerminal merchantId messageId reason .suppressed backend.db).1) := rfl

theorem run_addBulk (payloads : List CampaignDispatchJobPayload) :
    run (serve time outcome) (backend, reads) (addBulk payloads) =
      (.ok (), ({ backend with jobs := backend.jobs ++ payloads.map fun payload => { payload } }, reads + 1)) := rfl

end Calls

/-- What the visits of merchants may do: suppress targets of theirs, and enqueue jobs of theirs. -/
structure Visit (merchants : List MerchantId) (before after : Backend) : Prop where
  others : ∀ target : CampaignTarget, target.merchantId ∉ merchants →
    (target ∈ after.db.campaignTargets.rows ↔ target ∈ before.db.campaignTargets.rows)
  owners : targetMerchant after.db = targetMerchant before.db
  suppressed : ∀ messageId, targetStatus before.db messageId = some .suppressed →
    targetStatus after.db messageId = some .suppressed
  campaigns : after.db.campaigns = before.db.campaigns
  jobs : ∃ fresh : List Job, after.jobs = before.jobs ++ fresh ∧ ∀ job ∈ fresh, job.payload.merchantId ∈ merchants

namespace Visit

variable {merchants more : List MerchantId}

theorem refl : Visit merchants before before where
  others _ _ := Iff.rfl
  owners := rfl
  suppressed _ := id
  campaigns := rfl
  jobs := ⟨[], (List.append_nil _).symm, nofun⟩

theorem mono (visit : Visit merchants before after) (sub : merchants ⊆ more) : Visit more before after where
  others target apart := visit.others target fun listed => apart (sub listed)
  owners := visit.owners
  suppressed := visit.suppressed
  campaigns := visit.campaigns
  jobs := by
    obtain ⟨fresh, grown, owned⟩ := visit.jobs
    exact ⟨fresh, grown, fun job listed => sub (owned job listed)⟩

theorem trans (first : Visit merchants before middle) (second : Visit merchants middle after) :
    Visit merchants before after where
  others target apart := (second.others target apart).trans (first.others target apart)
  owners := second.owners.trans first.owners
  suppressed messageId held := second.suppressed messageId (first.suppressed messageId held)
  campaigns := second.campaigns.trans first.campaigns
  jobs := by
    obtain ⟨early, grown, owned⟩ := first.jobs
    obtain ⟨late, more, also⟩ := second.jobs
    refine ⟨early ++ late, by rw [more, grown, List.append_assoc], fun job listed => ?_⟩
    rcases List.mem_append.mp listed with here | there
    · exact owned job here
    · exact also job there

/-- The terminal write of arm 2. -/
theorem resolve : Visit [merchantId] before { before with db :=
    (CampaignRepository.resolveTerminal merchantId messageId reason .suppressed before.db).2 } where
  others target apart := by
    unfold CampaignRepository.resolveTerminal
    dsimp only
    split
    · rfl
    · dsimp only
      rw [Table.rows_updateMany, List.mem_map]
      constructor
      · rintro ⟨row, stored, rfl⟩
        split
        · rename_i matched
          exact absurd (targetFilter_iff.mp matched).2.2 (by simpa [matched] using apart)
        · exact stored
      · intro stored
        exact ⟨target, stored, if_neg fun matched =>
          apart (List.mem_singleton.mpr (targetFilter_iff.mp matched).2.2)⟩
  owners := by
    cases resolveTerminal_cases merchantId messageId reason .suppressed before.db with
    | hit reported moves => exact moves.merchants
    | missed same missed =>
      dsimp only
      rw [same]
  suppressed other held := by
    cases resolveTerminal_cases merchantId messageId reason .suppressed before.db with
    | hit reported moves =>
      dsimp only
      by_cases same : other = messageId
      · rw [same, moves.reached]
        rfl
      · rw [moves.elsewhere same, held]
    | missed same missed =>
      dsimp only
      rw [same, held]
  campaigns := by
    unfold CampaignRepository.resolveTerminal
    dsimp only
    split <;> rfl
  jobs := ⟨[], (List.append_nil _).symm, nofun⟩

end Visit

/-- A deferred target of the merchant, or one that is suppressed already. -/
def Owned (merchantId : MerchantId) (db : Db) (messageId : MessageId) : Prop :=
  targetStatus db messageId = some .suppressed ∨
    targetStatus db messageId = some .deferred ∧ targetMerchant db messageId = some merchantId

theorem Owned.of_mem {target : CampaignTarget} {db : Db} (listed : target ∈ deferredOf merchantId db) :
    Owned merchantId db target.messageId := by
  obtain ⟨stored, owner, deferred⟩ := mem_deferredOf.mp listed
  refine .inr ⟨deferred ▸ targetStatus_of_mem stored, ?_⟩
  have found : db.campaignTargets.find? (·.messageId == target.messageId) = some target := by
    rw [Table.find?_eq_some_iff]
    · exact ⟨stored, by simp⟩
    · intro first second here there
      exact clash_of_messageId ((beq_iff_eq.mp here).trans (beq_iff_eq.mp there).symm)
  rw [targetMerchant, found, Option.map_some, owner]

/-- The write suppresses such a target. -/
theorem Owned.resolved (owned : Owned merchantId before.db messageId) :
    targetStatus (CampaignRepository.resolveTerminal merchantId messageId reason .suppressed before.db).2 messageId =
      some .suppressed := by
  rcases owned with held | ⟨deferred, owner⟩
  · exact (@Visit.resolve before merchantId messageId reason).suppressed messageId held
  · obtain ⟨target, found, owner⟩ := Option.map_eq_some_iff.mp owner
    rw [targetStatus, found] at deferred
    obtain ⟨stored, named⟩ := Table.find?_mem found
    cases resolveTerminal_cases merchantId messageId reason .suppressed before.db with
    | hit reported moves => exact moves.reached
    | missed same missed =>
      exact absurd (by simp [Option.some.inj deferred]) (missed target stored (beq_iff_eq.mp named) owner)

/-- The write on one target leaves the others what they are. -/
theorem Owned.elsewhere {written : MessageId} (owned : Owned merchantId before.db messageId) :
    Owned merchantId (CampaignRepository.resolveTerminal merchantId written reason .suppressed before.db).2 messageId := by
  by_cases same : messageId = written
  · subst same
    exact .inl owned.resolved
  · cases resolveTerminal_cases merchantId written reason .suppressed before.db with
    | hit reported moves => rwa [Owned, moves.elsewhere same, moves.merchants]
    | missed unchanged missed => rwa [unchanged]

section Runs

/-- Arm 2: the jobs of the targets that re-enter; the others are suppressed. -/
theorem run_resolveDeferred (targets : List DeferredTarget) : ∃ after reads',
    run (serve time outcome) (backend, reads) (resolveDeferred startedAt merchantId targets) =
        (.ok ((targets.filter fun target => deferredFate startedAt target = .reenter).map (deferredJob merchantId)),
          (after, reads')) ∧
      Visit [merchantId] backend after ∧ after.jobs = backend.jobs ∧
      ∀ target ∈ targets, deferredFate startedAt target ≠ .reenter → Owned merchantId backend.db target.messageId →
        targetStatus after.db target.messageId = some .suppressed := by
  induction targets generalizing backend reads with
  | nil => exact ⟨backend, reads, rfl, .refl, rfl, nofun⟩
  | cons target rest ih =>
    have resolves (reason : String) (first : deferredFate startedAt target ≠ .reenter) : ∃ after reads',
        run (serve time outcome) (backend, reads) (do
          let _ ← resolveTerminal merchantId target.messageId reason .suppressed
          resolveDeferred startedAt merchantId rest) =
            (.ok (((target :: rest).filter fun target => deferredFate startedAt target = .reenter).map
              (deferredJob merchantId)), (after, reads')) ∧
          Visit [merchantId] backend after ∧ after.jobs = backend.jobs ∧
          ∀ other ∈ target :: rest, deferredFate startedAt other ≠ .reenter →
            Owned merchantId backend.db other.messageId → targetStatus after.db other.messageId = some .suppressed := by
      obtain ⟨after, reads', ran, visit, jobs, suppressed⟩ := @ih
        { backend with db :=
          (CampaignRepository.resolveTerminal merchantId target.messageId reason .suppressed backend.db).2 } (reads + 1)
      refine ⟨after, reads', ?_, Visit.resolve.trans visit, jobs, ?_⟩
      · rw [run_resolveTerminal, ran, List.filter_cons, if_neg (by simpa using first)]
      · intro other listed out owned
        rcases List.mem_cons.mp listed with rfl | later
        · exact visit.suppressed _ owned.resolved
        · exact suppressed other later out owned.elsewhere
    cases fate : deferredFate startedAt target with
    | stale =>
      simp only [resolveDeferred, fate]
      exact resolves "deferred_stale" (by simp [fate])
    | paused =>
      simp only [resolveDeferred, fate]
      exact resolves "campaign_paused" (by simp [fate])
    | reenter =>
      obtain ⟨after, reads', ran, visit, jobs, suppressed⟩ := @ih backend reads
      refine ⟨after, reads', ?_, visit, jobs, ?_⟩
      · simp only [resolveDeferred, fate]
        rw [run_bind_ok _ ran, List.filter_cons, if_pos (by simp [fate])]
        rfl
      · intro other listed out owned
        rcases List.mem_cons.mp listed with rfl | later
        · exact absurd fate out
        · exact suppressed other later out owned

theorem enqueued_eq {fresh : List Job} (grown : after.jobs = before.jobs ++ fresh) :
    enqueued before after = fresh.map (·.payload) := by
  rw [enqueued, grown, List.drop_left]

/-- Both arms of one merchant: what is still deferred has been tried again. -/
theorem run_sweepMerchant : ∃ after reads',
    run (serve time outcome) (backend, reads) (sweepMerchant startedAt merchantId) = (.ok (), (after, reads')) ∧
      Visit [merchantId] backend after ∧ Settled startedAt merchantId backend after := by
  obtain ⟨after, reads', ran, visit, jobs, suppressed⟩ := @run_resolveDeferred time outcome backend (reads + 1 + 1)
    merchantId startedAt (findDeferredTargets backend.db merchantId)
  unfold sweepMerchant
  rw [run_ask, run_ask]
  dsimp only [Query.eval]
  rw [run_bind_ok _ ran]
  generalize queue : (findDispatchableDrafts backend.db merchantId).map (draftJob merchantId) ++
    ((findDeferredTargets backend.db merchantId).filter fun target => deferredFate startedAt target = .reenter).map
      (deferredJob merchantId) = toEnqueue
  have owned : ∀ payload ∈ toEnqueue, payload.merchantId = merchantId := by
    intro payload listed
    rw [← queue] at listed
    rcases List.mem_append.mp listed with draft | deferred
    · obtain ⟨_, _, rfl⟩ := List.mem_map.mp draft
      rfl
    · obtain ⟨_, _, rfl⟩ := List.mem_map.mp deferred
      rfl
  have settles {final : Backend} (db : final.db = after.db)
      (grown : final.jobs = backend.jobs ++ toEnqueue.map fun payload => ({ payload } : Job)) :
      Visit [merchantId] backend final ∧ Settled startedAt merchantId backend final := by
    refine ⟨⟨db ▸ visit.others, db ▸ visit.owners, db ▸ visit.suppressed, db ▸ visit.campaigns, _, grown, ?_⟩, ?_⟩
    · intro job listed
      obtain ⟨payload, queued, rfl⟩ := List.mem_map.mp listed
      exact List.mem_singleton.mpr (owned payload queued)
    · intro target listed still
      have selected : entryOf backend.db target ∈ findDeferredTargets backend.db merchantId := List.mem_map_of_mem listed
      by_cases fate : deferredFate startedAt (entryOf backend.db target) = .reenter
      · obtain ⟨young, active⟩ := deferredFate_entryOf.mp fate
        refine ⟨young, active, ?_⟩
        have owner : target.merchantId = merchantId := (mem_deferredOf.mp listed).2.1
        rw [enqueued_eq grown, List.map_map, ← queue]
        refine List.mem_map.mpr ⟨_, List.mem_append_right _ (List.mem_map_of_mem (List.mem_filter.mpr ⟨selected, ?_⟩)), ?_⟩
        · simpa using fate
        · simp [deferredJob, entryOf, jobOf, owner]
      · have gone := suppressed _ selected fate (.of_mem listed)
        rw [db] at still
        cases still.symm.trans gone
  by_cases none : toEnqueue = []
  · rw [if_pos none]
    refine ⟨after, reads', rfl, settles rfl ?_⟩
    rw [jobs, none, List.map_nil, List.append_nil]
  · rw [if_neg none, run_addBulk]
    refine ⟨_, _, rfl, settles rfl ?_⟩
    dsimp only
    rw [jobs]

theorem Visit.enqueued_subset {merchants : List MerchantId} (first : Visit merchants before middle)
    (second : Visit merchants middle after) {payload : CampaignDispatchJobPayload} :
    payload ∈ enqueued before after ↔ payload ∈ enqueued before middle ∨ payload ∈ enqueued middle after := by
  obtain ⟨early, grown, _⟩ := first.jobs
  obtain ⟨late, more, _⟩ := second.jobs
  have both : after.jobs = before.jobs ++ (early ++ late) := by rw [more, grown, List.append_assoc]
  rw [enqueued_eq grown, enqueued_eq more, enqueued_eq both, List.map_append, List.mem_append]

/-- A visit that settles is not undone by visits of other merchants. -/
theorem Settled.stays {merchants : List MerchantId} (settled : Settled startedAt merchantId before middle)
    (first : Visit [merchantId] before middle) (second : Visit merchants middle after) (apart : merchantId ∉ merchants) :
    Settled startedAt merchantId before after := by
  intro target listed still
  obtain ⟨row, stored, named, deferred⟩ := targetStatus_eq_some_iff.mp still
  have owner : row.merchantId = merchantId := by
    have before := (Owned.of_mem listed).resolve_left (by
      rw [targetStatus_of_mem (mem_deferredOf.mp listed).1, (mem_deferredOf.mp listed).2.2]
      simp)
    have held : targetMerchant after.db target.messageId = some merchantId := by
      rw [second.owners, first.owners, before.2]
    obtain ⟨found, here, same⟩ := Option.map_eq_some_iff.mp held
    obtain ⟨present, also⟩ := Table.find?_mem here
    rw [← same, target_unique stored present (named.trans (beq_iff_eq.mp also).symm)]
  have earlier : row ∈ middle.db.campaignTargets.rows := (second.others row (owner ▸ apart)).mp stored
  obtain ⟨young, active, queued⟩ :=
    settled target listed (targetStatus_eq_some_iff.mpr ⟨row, earlier, named, deferred⟩)
  refine ⟨young, active, ?_⟩
  exact (@Visit.enqueued_subset _ _ _ (merchantId :: merchants) (first.mono (by simp)) (second.mono (by simp)) _).mpr
    (.inl queued)

/-- The targets of a merchant that is visited later are found as they were. -/
theorem Settled.found {merchants : List MerchantId} (settled : Settled startedAt merchantId middle after)
    (first : Visit [other] before middle) (second : Visit merchants middle after) (apart : merchantId ≠ other) :
    Settled startedAt merchantId before after := by
  intro target listed still
  obtain ⟨stored, owner, deferred⟩ := mem_deferredOf.mp listed
  have there : target ∈ middle.db.campaignTargets.rows := (first.others target (by simpa [owner] using apart)).mpr stored
  obtain ⟨young, active, queued⟩ := settled target (mem_deferredOf.mpr ⟨there, owner, deferred⟩) still
  refine ⟨young, ?_, ?_⟩
  · rw [campaignActive, first.campaigns] at active
    exact active
  · exact (@Visit.enqueued_subset _ _ _ (other :: merchants) (first.mono (by simp)) (second.mono (by simp)) _).mpr
      (.inr queued)

/-- The merchants are visited one after the other. -/
theorem run_sweepMerchants {merchants : List MerchantId} (once : merchants.Nodup) : ∃ after reads',
    run (serve time outcome) (backend, reads) (sweepMerchants startedAt merchants) = (.ok (), (after, reads')) ∧
      Visit merchants backend after ∧ ∀ merchantId ∈ merchants, Settled startedAt merchantId backend after := by
  induction merchants generalizing backend reads with
  | nil => exact ⟨backend, reads, rfl, .refl, nofun⟩
  | cons merchantId rest ih =>
    obtain ⟨absent, once⟩ := List.nodup_cons.mp once
    obtain ⟨middle, between, visited, first, settled⟩ := @run_sweepMerchant time outcome backend reads merchantId startedAt
    obtain ⟨after, reads', ran, second, others⟩ := @ih middle between once
    refine ⟨after, reads', ?_, (first.mono (by simp)).trans (second.mono (by simp)), ?_⟩
    · have handled : run (serve time outcome) (backend, reads)
          (tryCatch (sweepMerchant startedAt merchantId) fun _ => pure ()) = (.ok (), (middle, between)) := by
        rw [run_tryCatch, visited]
      rw [sweepMerchants, run_bind_ok _ handled, ran]
    · intro other listed
      rcases List.mem_cons.mp listed with rfl | later
      · exact settled.stays first second absent
      · exact (others other later).found first second (fun same => absent (same ▸ later))

theorem nodup_liveMerchants (db : Db) : (DispatchSweep.liveMerchants db).Nodup := by
  rw [DispatchSweep.liveMerchants, List.Nodup, List.pairwise_map]
  refine (db.merchants.unique.filter _).imp ?_
  intro first second apart same
  simp [Indexed.clash, Indexed.index, same] at apart

theorem mem_liveMerchants {merchant : Merchant} {db : Db} (stored : merchant ∈ db.merchants.rows)
    (alive : live merchant = true) :
    merchant.id ∈ DispatchSweep.liveMerchants db ↔ hasActiveEmailCampaign merchant.id db = true := by
  rw [DispatchSweep.liveMerchants, List.mem_map]
  constructor
  · rintro ⟨row, selected, same⟩
    have active := (List.mem_filter.mp selected).2
    rw [Bool.and_eq_true, same] at active
    exact active.2
  · intro active
    exact ⟨merchant, List.mem_filter.mpr ⟨stored, Bool.and_eq_true_iff.mpr ⟨alive, active⟩⟩, rfl⟩

theorem run_tick : Visit (DispatchSweep.liveMerchants backend.db) backend (tickAlone time outcome backend) ∧
    ∀ merchantId ∈ DispatchSweep.liveMerchants backend.db,
      Settled (time 0) merchantId backend (tickAlone time outcome backend) := by
  obtain ⟨after, reads', ran, visit, settled⟩ := @run_sweepMerchants time outcome backend 2 (time 0) _
    (nodup_liveMerchants backend.db)
  have ended : tickAlone time outcome backend = after := by
    unfold tickAlone runDispatchSweep
    rw [run_clock, run_ask]
    exact congrArg (fun result => result.2.1) ran
  rw [ended]
  exact ⟨visit, settled⟩

/-- A tick without failures settles the deferred targets of a live merchant if and only if the merchant
has an active e-mail campaign, or no deferred target to settle. -/
theorem deferred_settled_iff (time : Nat → Date) (outcome : SdkOutcome) (backend : Backend) {merchant : Merchant}
    (stored : merchant ∈ backend.db.merchants.rows) (alive : live merchant = true) :
    Settled (time 0) merchant.id backend (tickAlone time outcome backend) ↔
      hasActiveEmailCampaign merchant.id backend.db = true ∨ deferredOf merchant.id backend.db = [] := by
  obtain ⟨visit, settled⟩ := @run_tick time outcome backend
  constructor
  · intro settles
    by_contra neither
    obtain ⟨inactive, some⟩ := not_or.mp neither
    have unvisited : merchant.id ∉ DispatchSweep.liveMerchants backend.db := by
      rwa [mem_liveMerchants stored alive]
    obtain ⟨target, listed⟩ := List.exists_mem_of_ne_nil _ some
    obtain ⟨present, owner, deferred⟩ := mem_deferredOf.mp listed
    have kept := (visit.others target (by rwa [owner])).mpr present
    obtain ⟨_, _, queued⟩ := settles target listed (deferred ▸ targetStatus_of_mem kept)
    obtain ⟨fresh, grown, owned⟩ := visit.jobs
    rw [enqueued_eq grown] at queued
    obtain ⟨job, enqueued, same⟩ := List.mem_map.mp queued
    have visited := owned job enqueued
    rw [same] at visited
    exact unvisited (owner ▸ visited)
  · rintro (active | none)
    · exact settled merchant.id ((mem_liveMerchants stored alive).mpr active)
    · intro target listed
      rw [none] at listed
      cases listed

end Runs

section Samples

/-- A target that was claimed long ago and waits, for a campaign with a status. -/
def waiting (status : CampaignStatus) : Backend where
  db := { oneDraft with
    campaigns := .single {
      id := "c"
      merchantId := "m"
      status
      triggerStates := ["dormant"]
      createdAt := 0 }
    campaignTargets := .single {
      merchantId := "m"
      campaignId := "c"
      messageId := "d"
      customerId := "u"
      status := .deferred
      createdAt := 0 } }

def late (_ : Nat) : Date := 10 * msPerDay

/-- A sweep does not ask the provider. -/
def unasked : SdkOutcome := .response none

/-- With its only campaign paused, a merchant keeps a target that is both paused and stale. -/
theorem paused_merchant_keeps_deferred :
    ¬∀ (time : Nat → Date) (outcome : SdkOutcome) (backend : Backend), ∀ merchant ∈ backend.db.merchants.rows,
      live merchant = true → Settled (time 0) merchant.id backend (tickAlone time outcome backend) := by
  intro claim
  have settled := claim late unasked (waiting .paused) _ (List.mem_singleton_self _) rfl
  have unsettled : ¬Settled (late 0) "m" (waiting .paused) (tickAlone late unasked (waiting .paused)) := by
    decide
  exact unsettled settled

/-- With an active campaign the same target expires. -/
theorem active_merchant_settles :
    targetStatus (tickAlone late unasked (waiting .active)).db "d" = some .suppressed ∧
      Settled (late 0) "m" (waiting .active) (tickAlone late unasked (waiting .active)) :=
  ⟨by decide,
    (deferred_settled_iff late unasked (waiting .active) (List.mem_singleton_self _) rfl).mpr (.inl rfl)⟩

end Samples

end WinBack.Dispatch.Expiry
