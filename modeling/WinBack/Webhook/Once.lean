import WinBack.Library.Fallible
import WinBack.Outbox.Payloads
import WinBack.Webhook.System

/-! How often a webhook is ingested: deliveries in any interleaving, each knowing how its own
transaction ended. -/

namespace WinBack.Webhook.Once

open Library Script

section Rows

/-- One accepted delivery. -/
structure Commit where
  merchantId : MerchantId
  topic : String
  webhookId : String
  deriving DecidableEq, Repr

def Commit.key (commit : Commit) : MerchantId × String := (commit.merchantId, idempKey commit.topic commit.webhookId)

def Commit.mapped (commit : Commit) : Bool := (getOutboxEventForTopic commit.topic).isSome

/-- A log with a key is of an accepted delivery. -/
def ofLog? (log : WebhookLog) : Option Commit := do
  let _ ← log.idempotencyKey
  return { merchantId := ← log.merchantId, topic := log.topic, webhookId := ← log.shopifyWebhookId }

/-- An outbox row with an envelope is of an accepted delivery. -/
def ofEvent? (row : OutboxEvent) : Option Commit := do
  return {
    merchantId := row.merchantId
    topic := ← Outbox.textAt "topic" row.payload
    webhookId := ← Outbox.textAt "webhookId" row.payload }

def commits (db : Db) : List Commit := db.webhookLogs.filterMap ofLog?

def keys (db : Db) : List (MerchantId × String) := db.idempotencyKeys.rows.map fun row => (row.merchantId, row.key)

def events (db : Db) : List Commit := db.outboxEvents.rows.filterMap ofEvent?

/-- Every accepted delivery has all its rows, and there are no others. -/
structure Ledger (db : Db) : Prop where
  keys_eq : keys db = (commits db).map Commit.key
  events_eq : events db = (commits db).filter Commit.mapped

end Rows

/-- What a delivery knows of its merchant and its transaction. -/
inductive Known where
  | nothing
  | found (merchantId : MerchantId)
  | committed (merchantId : MerchantId)
  | clashed (merchantId : MerchantId)
  deriving DecidableEq, Repr

namespace Known

def next : Known → (request : Call) → Except Thrown request.Value → Known
  | .nothing, .findMerchant _, .ok (some merchantId) => .found merchantId
  | .found merchantId, .ingest _ _ _, .ok () => .committed merchantId
  | .found merchantId, .ingest _ _ _, .error thrown =>
    if thrown = .repository .uniqueConstraint then .clashed merchantId else .found merchantId
  | known, _, _ => known

/-- What a delivery may answer. -/
def answers (args : IngestArgs) : Known → AcceptReason → Prop
  | .committed _, .processed => ∃ topic ∈ args.topic, (getOutboxEventForTopic topic).isSome = true
  | .committed _, .unknownTopic => ∃ topic ∈ args.topic, getOutboxEventForTopic topic = none
  | .clashed _, .duplicate => True
  | .nothing, .noMerchant => True
  | _, _ => False

def allowed (context : IngestContext) (args : IngestArgs) : Known → Call → Prop
  | _, .clock => True
  | .nothing, .findMerchant shop => args.shop.bind normalizeShopDomain = some shop
  | .nothing, .log row => row.idempotencyKey = none
  | .found merchantId, .ingest key row event => ∃ shop topic webhookId, args.topic = some topic ∧
      args.webhookId = some webhookId ∧ key.merchantId = merchantId ∧ key.key = idempKey topic webhookId ∧
      row = ingestedLog merchantId shop topic webhookId args.rawBody (tryParseJson context args.rawBody) ∧
      event = (getOutboxEventForTopic topic).map (published merchantId topic webhookId (tryParseJson context args.rawBody))
  | known, .respond (.outcome (.accept reason)) => known.answers args reason
  | _, .respond _ => True
  | _, _ => False

end Known

def ingesting (context : IngestContext) (args : IngestArgs) : Discipline Call Call.Value Thrown Known where
  allowed := Known.allowed context args
  next := Known.next

abbrev Delivery := Task IngestArgs Call Call.Value Thrown Known

/-- `responses` is a history that no call reads. -/
structure World where
  db : Db
  deliveries : Pool Delivery := []
  responses : List (IngestArgs × Known × Response) := []

def machine (context : IngestContext) : Machine World Label where
  step world
    | .deliver args => some { world with deliveries := world.deliveries.spawn ⟨args, .nothing, action context args⟩ }
    | .act slot choice => (world.deliveries.task? slot).bind fun delivery =>
      (delivery.advance (ingesting context delivery.tag) exec world.db choice).map fun (db, next) => {
        db
        deliveries := world.deliveries.put slot next
        responses := world.responses ++
          (delivery.pending?.bind Call.response).toList.map (delivery.tag, delivery.phase, ·) }
    | .crash slot => (world.deliveries.task? slot).map fun _ =>
      { world with deliveries := world.deliveries.clear slot }
    | .elsewhere after => some { world with db := after }

/-- The ids that the store makes are new, and only deliveries write these rows. -/
def Regular (world : World) : Label → Prop
  | .act _ choice => ∀ row ∈ world.db.outboxEvents.rows, row.id ≠ choice.eventId
  | .elsewhere after => after.idempotencyKeys = world.db.idempotencyKeys ∧ after.webhookLogs = world.db.webhookLogs ∧
      events after = events world.db
  | _ => True

section Deliveries

variable {context : IngestContext} {args : IngestArgs} {shop topic webhookId : String} {merchantId : MerchantId}

/-- The outcome that a delivery reports is the one that it knows of. -/
def Reported (args : IngestArgs) (known : Known) (outcome : Except Thrown IngestOutcome) : Prop :=
  ∀ reason, outcome = .ok (.accept reason) → known.answers args reason

theorem ingestFor_obeys (headed : args.topic = some topic) (identified : args.webhookId = some webhookId) :
    (ingestFor context shop topic webhookId args.rawBody merchantId).Obeys (ingesting context args) (.found merchantId)
      (Reported args) := by
  unfold ingestFor
  refine obeys_perform_bind.mpr ⟨trivial, fun _ _ => nofun, fun now => ?_⟩
  apply (obeys_tryCatch ..).mpr
  refine obeys_perform_bind.mpr ⟨?_, fun thrown => ?_, fun _ => ?_⟩
  · exact ⟨shop, topic, webhookId, headed, identified, rfl, rfl, rfl, rfl⟩
  · change Obeys _ (if thrown = .repository .uniqueConstraint then Known.clashed merchantId else .found merchantId) _ _
    refine obeys_ite.mpr ⟨fun clash => ?_, fun other => ?_⟩
    · rw [if_pos clash]
      rintro reason ⟨⟩
      trivial
    · rw [if_neg other]
      exact fun _ => nofun
  · rintro reason ⟨⟩
    change Known.answers args (.committed merchantId) _
    by_cases unknown : getOutboxEventForTopic topic = none
    · rw [if_pos unknown]
      exact ⟨topic, headed, unknown⟩
    · rw [if_neg unknown]
      exact ⟨topic, headed, Option.isSome_iff_ne_none.mpr unknown⟩

theorem ingestWebhook_obeys :
    (ingestWebhook context args).Obeys (ingesting context args) .nothing (Reported args) := by
  unfold ingestWebhook
  split
  · rename_i topic shop webhookId hmac headed named identified _
    split
    · exact nofun
    · rename_i domain valid
      refine obeys_ite.mpr ⟨fun _ => ?_, fun _ => nofun⟩
      have asks : args.shop.bind normalizeShopDomain = some domain := by rw [named]; exact valid
      refine obeys_perform_bind.mpr ⟨asks, fun _ _ => nofun, fun merchant => ?_⟩
      cases merchant with
      | none =>
        refine obeys_perform_bind.mpr ⟨trivial, fun _ _ => nofun, fun now => ?_⟩
        refine obeys_perform_bind.mpr ⟨rfl, fun _ _ => nofun, fun _ => ?_⟩
        rintro reason ⟨⟩
        trivial
      | some merchantId => exact ingestFor_obeys headed identified
  · exact nofun

theorem action_obeys : (action context args).Obeys (ingesting context args) .nothing fun _ _ => True := by
  unfold action
  apply (obeys_bind ..).mpr
  apply (obeys_tryCatch ..).mpr
  apply (obeys_bind ..).mpr
  refine ingestWebhook_obeys.mono fun reached outcome reported => ?_
  cases outcome with
  | error thrown => exact ⟨by cases reached <;> trivial, fun _ => trivial⟩
  | ok outcome =>
    refine ⟨?_, fun _ => trivial⟩
    cases outcome with
    | accept reason =>
      have answered := reported reason rfl
      cases reached <;> exact answered
    | reject status reason => cases reached <;> trivial

end Deliveries

section Transactions

variable {context : IngestContext} {args : IngestArgs} {merchantId : MerchantId} {topic webhookId : String}
  {db next after : Db} {choice : Choice}

theorem textAt_envelope {body : Json} : Outbox.textAt "topic" (envelope topic webhookId body) = some topic ∧
    Outbox.textAt "webhookId" (envelope topic webhookId body) = some webhookId := by
  constructor <;> rfl

theorem ofEvent_published {body : Json} {type : OutboxEventType} {id : String} {createdAt : Date} :
    ofEvent? (published merchantId topic webhookId body type id createdAt) = some ⟨merchantId, topic, webhookId⟩ := by
  simp only [ofEvent?, published, textAt_envelope]
  rfl

/-- The transaction of a delivery adds one entry to the ledger. -/
theorem Ledger.ingest {key : IdempotencyKey} {shop rawBody : String} {body : Json} {now : Date} {id : String} (ledger : Ledger db)
    (owner : key.merchantId = merchantId) (keyed : key.key = idempKey topic webhookId)
    (done : Webhook.ingest key (ingestedLog merchantId shop topic webhookId rawBody body now)
      (((getOutboxEventForTopic topic).map (published merchantId topic webhookId body)).map fun row => row id now) db = .ok next) :
    Ledger next ∧ commits next = commits db ++ [⟨merchantId, topic, webhookId⟩] := by
  obtain ⟨keys', logs', events'⟩ := ingest_ok done
  have added : commits next = commits db ++ [⟨merchantId, topic, webhookId⟩] := by
    rw [commits, logs', List.filterMap_append]
    rfl
  refine ⟨⟨?_, ?_⟩, added⟩
  · rw [keys, keys', List.map_append, added, List.map_append, ← ledger.keys_eq]
    simp [Commit.key, owner, keyed, keys]
  · rw [events, events', List.filterMap_append, added, List.filter_append, ← ledger.events_eq]
    refine congrArg _ ?_
    cases mapped : getOutboxEventForTopic topic with
    | none => simp [Commit.mapped, mapped]
    | some type => simp [Commit.mapped, mapped, ofEvent_published]

/-- Where a delivery stands is so. -/
def Known.Sound (args : IngestArgs) (db : Db) : Known → Prop
  | .nothing | .found _ => True
  | .committed merchantId => ∃ topic ∈ args.topic, ∃ webhookId ∈ args.webhookId, ⟨merchantId, topic, webhookId⟩ ∈ commits db
  | .clashed merchantId => ∃ topic ∈ args.topic, ∃ webhookId ∈ args.webhookId,
      (merchantId, idempKey topic webhookId) ∈ (commits db).map Commit.key

theorem Known.Sound.grow {known : Known} (sound : known.Sound args db) (grows : commits db ⊆ commits after) :
    known.Sound args after := by
  cases known with
  | nothing | found => trivial
  | committed merchantId =>
    obtain ⟨topic, headed, webhookId, identified, listed⟩ := sound
    exact ⟨topic, headed, webhookId, identified, grows listed⟩
  | clashed merchantId =>
    obtain ⟨topic, headed, webhookId, identified, listed⟩ := sound
    exact ⟨topic, headed, webhookId, identified, List.map_subset _ grows listed⟩

theorem Ledger.congr (ledger : Ledger db) (idempotencyKeys : after.idempotencyKeys = db.idempotencyKeys)
    (logged : commits after = commits db) (published : events after = events db) : Ledger after where
  keys_eq := by rw [keys, idempotencyKeys, logged, ← ledger.keys_eq, keys]
  events_eq := by rw [published, logged, ledger.events_eq]

/-- The spec of one call of a delivery. -/
theorem exec_sound {known : Known} {request : Call} {answer : Except Thrown request.Value} (ledger : Ledger db)
    (sound : known.Sound args db) (fresh : ∀ row ∈ db.outboxEvents.rows, row.id ≠ choice.eventId)
    (allowed : (ingesting context args).allowed known request) (executed : exec db request choice = some (answer, after)) :
    Ledger after ∧ commits db ⊆ commits after ∧ ((ingesting context args).next known request answer).Sound args after := by
  cases request with
  | findMerchant shop =>
    have kept : after = db := (Choice.carryOut_store (Option.some.inj executed)).elim id id
    subst kept
    refine ⟨ledger, List.Subset.refl _, ?_⟩
    cases known with
    | nothing => rcases answer with _ | _ | _ <;> trivial
    | found | committed | clashed => exact allowed.elim
  | clock =>
    cases executed
    exact ⟨ledger, List.Subset.refl _, by cases known <;> exact sound⟩
  | respond response =>
    cases executed
    exact ⟨ledger, List.Subset.refl _, by cases known <;> exact sound⟩
  | log row =>
    cases known with
    | found | committed | clashed => exact allowed.elim
    | nothing =>
      have unkeyed : row.idempotencyKey = none := allowed
      rcases Choice.commit_store (Option.some.inj executed) with kept | written
      · subst kept
        exact ⟨ledger, List.Subset.refl _, trivial⟩
      · unfold appendLog at written
        split at written
        · cases written
        · cases written
          have unread : ofLog? row = none := by simp [ofLog?, unkeyed]
          have same : commits { db with webhookLogs := db.webhookLogs ++ [row] } = commits db := by
            simp [commits, List.filterMap_append, unread]
          exact ⟨ledger.congr rfl same rfl, same.symm ▸ List.Subset.refl _, trivial⟩
  | ingest key row event =>
    cases known with
    | nothing | committed | clashed => exact allowed.elim
    | found merchantId =>
      obtain ⟨shop, topic, webhookId, headed, identified, owner, keyed, rfl, rfl⟩ := allowed
      have ran := Option.some.inj executed
      unfold Choice.commit at ran
      split at ran
      · rename_i error failed
        cases ran
        refine ⟨ledger, List.Subset.refl _, ?_⟩
        change Known.Sound args db (if Thrown.repository error = .repository .uniqueConstraint then .clashed merchantId
          else .found merchantId)
        split
        · rename_i clash
          cases clash
          have new : ∀ row ∈ ((getOutboxEventForTopic topic).map (published merchantId topic webhookId
              (tryParseJson context args.rawBody))).map fun row => row choice.eventId choice.now,
              ∀ stored ∈ db.outboxEvents.rows, stored.id ≠ row.id := by
            intro row made stored listed
            obtain ⟨build, built, rfl⟩ := Option.map_eq_some_iff.mp made
            obtain ⟨type, _, rfl⟩ := Option.map_eq_some_iff.mp built
            exact fresh stored listed
          obtain ⟨stored, listed, ofMerchant, ofKey⟩ := ingest_clash new failed
          refine ⟨topic, headed, webhookId, identified, ?_⟩
          rw [← ledger.keys_eq, keys, List.mem_map]
          exact ⟨stored, listed, Prod.ext (ofMerchant.trans owner) (ofKey.trans keyed)⟩
        · trivial
      · rename_i next written
        obtain ⟨grown, added⟩ := ledger.ingest owner keyed written
        unfold Choice.carryOut at ran
        split at ran
        · cases ran
          exact ⟨ledger, List.Subset.refl _, trivial⟩
        · cases ran
          have grows : commits db ⊆ commits after := added ▸ List.subset_append_left _ _
          refine ⟨grown, grows, ?_⟩
          cases choice.lost with
          | true => trivial
          | false =>
            refine ⟨topic, headed, webhookId, identified, ?_⟩
            rw [added]
            exact List.mem_append_right _ (List.mem_singleton_self _)

end Transactions

section Runs

variable {context : IngestContext} {start world last : World} {label : Label}

/-- What an accepted answer says of the rows: its own are there, or those that hold its key. -/
def Settled (db : Db) (args : IngestArgs) (known : Known) : AcceptReason → Prop
  | .processed => ∃ commit ∈ commits db, known = .committed commit.merchantId ∧ args.topic = some commit.topic ∧
      args.webhookId = some commit.webhookId ∧ commit.mapped = true
  | .unknownTopic => ∃ commit ∈ commits db, known = .committed commit.merchantId ∧ args.topic = some commit.topic ∧
      args.webhookId = some commit.webhookId ∧ commit.mapped = false
  | .duplicate => ∃ commit ∈ commits db, known = .clashed commit.merchantId ∧ ∃ topic ∈ args.topic,
      ∃ webhookId ∈ args.webhookId, idempKey commit.topic commit.webhookId = idempKey topic webhookId
  | .noMerchant => known = .nothing

theorem Settled.grow {db after : Db} {args : IngestArgs} {known : Known} {reason : AcceptReason}
    (settled : Settled db args known reason) (grows : commits db ⊆ commits after) : Settled after args known reason := by
  cases reason with
  | noMerchant => exact settled
  | processed | unknownTopic | duplicate =>
    obtain ⟨commit, listed, rest⟩ := settled
    exact ⟨commit, grows listed, rest⟩

/-- A delivery that answers has settled. -/
theorem settled_of_answers {db : Db} {args : IngestArgs} {known : Known} {reason : AcceptReason}
    (sound : known.Sound args db) (answers : known.answers args reason) : Settled db args known reason := by
  cases known with
  | nothing =>
    cases reason with
    | noMerchant => rfl
    | _ => exact answers.elim
  | found merchantId => exact answers.elim
  | committed merchantId =>
    obtain ⟨topic, headed, webhookId, identified, listed⟩ := sound
    cases reason with
    | processed =>
      obtain ⟨other, same, mapped⟩ := answers
      cases Option.some.inj (headed.symm.trans same)
      exact ⟨_, listed, rfl, headed, identified, mapped⟩
    | unknownTopic =>
      obtain ⟨other, same, unmapped⟩ := answers
      cases Option.some.inj (headed.symm.trans same)
      exact ⟨_, listed, rfl, headed, identified, by rw [Commit.mapped, unmapped]; rfl⟩
    | _ => exact answers.elim
  | clashed merchantId =>
    obtain ⟨topic, headed, webhookId, identified, listed⟩ := sound
    cases reason with
    | duplicate =>
      obtain ⟨commit, stored, same⟩ := List.mem_map.mp listed
      obtain ⟨rfl, alike⟩ := Prod.mk.inj same
      exact ⟨commit, stored, rfl, topic, headed, webhookId, identified, alike⟩
    | _ => exact answers.elim

structure Sound (context : IngestContext) (world : World) : Prop where
  ledger : Ledger world.db
  follows : world.deliveries.Every fun delivery => delivery.Follows (ingesting context delivery.tag) fun _ _ => True
  known : world.deliveries.Every fun delivery => delivery.phase.Sound delivery.tag world.db
  settled : ∀ args known reason, (args, known, .outcome (.accept reason)) ∈ world.responses → Settled world.db args known reason

theorem Sound.step (sound : Sound context world) (regular : Regular world label)
    (moved : (machine context).step world label = some last) : Sound context last := by
  cases label with
  | deliver args =>
    cases moved
    exact { sound with
      follows := sound.follows.spawn action_obeys
      known := sound.known.spawn trivial }
  | crash slot =>
    obtain ⟨_, _, rfl⟩ := Option.map_eq_some_iff.mp moved
    exact { sound with
      follows := sound.follows.clear
      known := sound.known.clear }
  | elsewhere after =>
    cases moved
    obtain ⟨idempotencyKeys, webhookLogs, published⟩ := regular
    have same : commits after = commits world.db := by rw [commits, webhookLogs, commits]
    have grows : commits world.db ⊆ commits after := same.symm ▸ List.Subset.refl _
    exact {
      ledger := sound.ledger.congr idempotencyKeys same published
      follows := sound.follows
      known := fun delivery live => (sound.known delivery live).grow grows
      settled := fun args known reason listed => (sound.settled args known reason listed).grow grows }
  | act slot choice =>
    obtain ⟨delivery, live, moved⟩ := Option.bind_eq_some_iff.mp moved
    obtain ⟨⟨db, next⟩, advanced, rfl⟩ := Option.map_eq_some_iff.mp moved
    obtain ⟨call, answer, pending, allowed, executed, tag, phase, onward⟩ := (sound.follows.get live).advance advanced
    obtain ⟨ledger, grows, known⟩ := exec_sound sound.ledger (sound.known.get live) regular allowed executed
    refine ⟨ledger, sound.follows.put (by rwa [tag]), ?_, fun args earlier reason listed => ?_⟩
    · have kept : world.deliveries.Every fun delivery => delivery.phase.Sound delivery.tag db := fun other running =>
        (sound.known other running).grow grows
      exact kept.put (by rwa [tag, phase])
    · rcases List.mem_append.mp listed with before | now
      · exact (sound.settled args earlier reason before).grow grows
      · rw [pending, Option.bind_some] at now
        obtain ⟨response, told, same⟩ := List.mem_map.mp now
        obtain ⟨rfl, rfl, rfl⟩ := same
        have said : call.response = some (.outcome (.accept reason)) := Option.mem_toList.mp told
        have answers : delivery.phase.answers delivery.tag reason := by
          cases call with
          | respond response =>
            cases said
            cases phase : delivery.phase <;> exact phase ▸ allowed
          | _ => cases said
        exact (settled_of_answers (sound.known.get live) answers).grow grows

/-- The text up to its first colon. -/
theorem idempKey_injective {topic other webhookId otherId : String} (plain : ':' ∉ topic.toList) (also : ':' ∉ other.toList)
    (same : idempKey topic webhookId = idempKey other otherId) : topic = other ∧ webhookId = otherId := by
  have shape (topic webhookId : String) :
      (idempKey topic webhookId).toList = "webhook:".toList ++ (topic.toList ++ ':' :: webhookId.toList) := by
    have colon : ":".toList = [':'] := by decide
    rw [idempKey, String.toList_append, String.toList_append, String.toList_append, colon]
    simp only [List.append_assoc, List.cons_append, List.nil_append]
  have lists := congrArg String.toList same
  rw [shape, shape] at lists
  have lists := List.append_cancel_left lists
  have parts := congrArg (List.splitOn ':') lists
  rw [List.splitOn_append_cons_self_of_not_mem plain, List.splitOn_append_cons_self_of_not_mem also] at parts
  have topics := (List.cons.inj parts).1
  rw [topics] at lists
  exact ⟨String.toList_inj.mp topics, String.toList_inj.mp (List.cons.inj (List.append_cancel_left lists)).2⟩

/-- No topic that is mapped has a colon. -/
theorem mapped_plain {topic : String} (mapped : (getOutboxEventForTopic topic).isSome = true) : ':' ∉ topic.toList := by
  have plain : ∀ entry ∈ webhookTopicToEvent ++ gdprTopicToEvent, ':' ∉ entry.1.toList := by decide
  obtain ⟨type, found⟩ := Option.isSome_iff_exists.mp mapped
  have listed {table : List (String × OutboxEventType)} (here : table.lookup topic = some type) : (topic, type) ∈ table := by
    obtain ⟨_, _, split, _⟩ := List.lookup_eq_some_iff.mp here
    rw [split]
    exact List.mem_append_right _ List.mem_cons_self
  rcases Option.or_eq_some_iff.mp found with first | ⟨_, second⟩
  · exact plain _ (List.mem_append_left _ (listed first))
  · exact plain _ (List.mem_append_right _ (listed second))

/-- In every interleaving of deliveries, failures and crashes: the three kinds of rows agree, no two
accepted deliveries have the same merchant and key, and every accepted answer has its rows, or those
that hold its key. Without a colon in the topics the key says both of its parts. -/
theorem ingestion_once (ledger : Ledger start.db) (idle : start.deliveries = []) (silent : start.responses = [])
    (reach : Machine.Reach (machine context) Regular start world) :
    Ledger world.db ∧ ((commits world.db).map Commit.key).Nodup ∧
      (∀ args known reason, (args, known, .outcome (.accept reason)) ∈ world.responses → Settled world.db args known reason) ∧
      (∀ topic other webhookId otherId, ':' ∉ topic.toList → ':' ∉ other.toList →
        idempKey topic webhookId = idempKey other otherId → topic = other ∧ webhookId = otherId) ∧
      ∀ topic, (getOutboxEventForTopic topic).isSome = true → ':' ∉ topic.toList := by
  have origin : Sound context start := by
    refine ⟨ledger, fun _ live => ?_, fun _ live => ?_, fun _ _ _ listed => ?_⟩
    · rw [idle] at live
      cases live
    · rw [idle] at live
      cases live
    · rw [silent] at listed
      cases listed
  have sound : Sound context world := reach.invariant origin fun _ _ _ regular moved sound => sound.step regular moved
  refine ⟨sound.ledger, ?_, sound.settled, fun _ _ _ _ => idempKey_injective, fun _ => mapped_plain⟩
  rw [← sound.ledger.keys_eq, keys]
  exact List.pairwise_map.mpr (world.db.idempotencyKeys.unique.imp fun apart same => by simp_all [Indexed.clash, Indexed.index])

end Runs

section Samples

def trusting : IngestContext where
  shopifyApiSecret := "secret"
  verifyHmacSha256Base64 _ _ _ := true
  parseJson _ := none

def delivered (topic webhookId : String) : IngestArgs where
  topic := some topic
  shop := some "acme.myshopify.com"
  webhookId := some webhookId
  hmac := some "digest"
  rawBody := ""

def acme : World where
  db := { merchants := .single { id := "m", shop := "acme.myshopify.com" } }

theorem acme_ledger : Ledger acme.db := ⟨rfl, rfl⟩

/-- A delivery from its receipt to its answer. -/
def wholly (slot : Nat) (args : IngestArgs) (choice : Choice) : List Label :=
  [.deliver args, .act slot {}, .act slot {}, .act slot choice, .act slot {}]

def regular? (world : World) : Label → Bool
  | .act _ choice => world.db.outboxEvents.rows.all fun row => row.id != choice.eventId
  | .elsewhere _ => false
  | _ => true

theorem regular_of_checked {world : World} {label : Label} (checked : regular? world label = true) : Regular world label := by
  cases label with
  | act slot choice => exact fun row listed => bne_iff_ne.mp (List.all_eq_true.mp checked row listed)
  | elsewhere after => cases checked
  | _ => trivial

/-- The first answer is lost, and the retry finds the key. -/
def retried : List Label :=
  wholly 0 (delivered "orders/create" "w") { eventId := "e", lost := true } ++
    wholly 1 (delivered "orders/create" "w") { eventId := "f" }

theorem retried_runs : ((machine trusting).runWhere regular? acme retried).isSome = true := by decide

theorem ingestion_once_retried :
    Ledger (((machine trusting).runWhere regular? acme retried).get retried_runs).db ∧
      commits (((machine trusting).runWhere regular? acme retried).get retried_runs).db = [⟨"m", "orders/create", "w"⟩] :=
  ⟨(ingestion_once acme_ledger rfl rfl ((Machine.reach_get retried_runs).mono fun _ _ => regular_of_checked)).1,
    by decide⟩

/-- Two deliveries whose topics and ids join to one text. -/
def confused : List Label :=
  wholly 0 (delivered "a:b" "c") { eventId := "e" } ++ wholly 1 (delivered "a" "b:c") { eventId := "f" }

theorem confused_runs : ((machine trusting).runWhere regular? acme confused).isSome = true := by decide

/-- The second is answered as a duplicate, and has no rows. -/
theorem joined_text_suppresses :
    ¬∀ (context : IngestContext) (start world : World), Ledger start.db → start.deliveries = [] → start.responses = [] →
      Machine.Reach (machine context) Regular start world →
      ∀ args known topic webhookId, (args, known, .outcome (.accept .duplicate)) ∈ world.responses →
        args.topic = some topic → args.webhookId = some webhookId →
        ∃ commit ∈ commits world.db, commit.topic = topic ∧ commit.webhookId = webhookId := by
  intro claim
  let world := ((machine trusting).runWhere regular? acme confused).get confused_runs
  have answered : (delivered "a" "b:c", .clashed "m", .outcome (.accept .duplicate)) ∈ world.responses := by decide
  obtain ⟨commit, listed, topic, _⟩ := claim trusting acme world acme_ledger rfl rfl
    ((Machine.reach_get confused_runs).mono fun _ _ => regular_of_checked) _ _ "a" "b:c" answered rfl rfl
  have only : commits world.db = [⟨"m", "a:b", "c"⟩] := by decide
  rw [only] at listed
  cases List.mem_singleton.mp listed
  exact absurd topic (by decide)

end Samples

end WinBack.Webhook.Once
