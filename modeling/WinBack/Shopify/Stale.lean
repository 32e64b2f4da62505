import WinBack.Shopify.Lifecycle

/-! When a late signal of an old install reaches a newer one. -/

namespace WinBack.Shopify.Lifecycle

open Library Script

section Client

variable {merchantId : MerchantId} {token : OfflineToken} {query : Query} {maxRetries : Nat}

theorem sending : Sending (requesting merchantId) merchantId token query (.holds token.accessToken) fun _ _ => True where
  fetches := rfl
  fails _ := trivial
  lost _ := rfl
  revokes response refused := by
    have learns : (requesting merchantId).next (.holds token.accessToken) (.fetch token query) (.ok response) =
      if response.status = 401 then .refused token.accessToken else .holds token.accessToken := rfl
    rw [learns, if_pos refused]
    exact ⟨rfl, fun _ _ => trivial⟩
  undelivered _ fine _ := if_neg fine
  delivered _ _ _ := trivial

theorem requestOnce_obeys :
    (requestOnce maxRetries merchantId query).Obeys (requesting merchantId) .nothing fun _ _ => True := by
  unfold requestOnce graphql
  apply (obeys_bind ..).mpr
  refine obeys_perform_bind.mpr ⟨rfl, fun _ => trivial, fun resolved => ?_⟩
  cases resolved with
  | none => trivial
  | some token =>
    refine (sending.send maxRetries).mono fun reached outcome _ => ?_
    cases outcome <;> trivial

end Client

section Store

variable {cipher : Cipher} {domain token scope : String} {newId : MerchantId} {eventId : String} {now : Date}
  {store after : Store} {db next : Db}

theorem merchants_publish {event : Option OutboxEvent} (published : Webhook.publish event db = .ok next) :
    next.merchants = db.merchants := by
  unfold Webhook.publish at published
  split at published
  · cases published
    rfl
  · split at published <;> cases published
    rfl

theorem merchants_healSettings (merchantId : MerchantId) : (healSettings merchantId db).merchants = db.merchants := by
  unfold healSettings
  split <;> rfl

theorem merchants_healSubscription (merchantId : MerchantId) :
    (healSubscription merchantId db).merchants = db.merchants := by
  unfold healSubscription
  split <;> rfl

/-- The shop has a row, and neither column is set. -/
def Live (domain : String) (store : Store) : Prop :=
  ∃ merchant ∈ merchant? domain store, merchant.uninstalledAt = none ∧ merchant.tokenRevokedAt = none

/-- A write that leaves the id of the row, if there is one. -/
def Keeps (domain : String) (before after : Store) : Prop :=
  ∀ merchant ∈ merchant? domain before, ∃ kept ∈ merchant? domain after, kept.id = merchant.id

theorem upsertInstall_ok {merchantId : MerchantId} {isNewInstall : Bool}
    (upserted : MerchantRepository.upsertInstall domain newId db = .ok ((merchantId, isNewInstall), next)) :
    ∃ merchant, next.merchants.find? (·.shop == domain) = some merchant ∧ merchant.uninstalledAt = none ∧
      merchant.tokenRevokedAt = none ∧ ∀ prior ∈ db.merchants.find? (·.shop == domain), merchant.id = prior.id := by
  unfold MerchantRepository.upsertInstall at upserted
  split at upserted
  · rename_i existing found
    cases upserted
    have updated := @Table.find?_updateMany _ _ db.merchants (·.shop == domain) (·.shop == domain)
      (fun row => { row with tokenRevokedAt := none, uninstalledAt := none }) (fun _ => rfl) fun _ => rfl
    rw [found, Option.map_some, if_pos (Table.find?_mem found).2] at updated
    refine ⟨_, updated, rfl, rfl, fun prior same => ?_⟩
    rw [found] at same
    cases same
    rfl
  · rename_i absent
    split at upserted
    · cases upserted
    · rename_i merchants inserted
      cases upserted
      have found := @Table.find?_insert? _ _ _ _ _ (·.shop == domain) inserted
      rw [absent, Option.none_or, if_pos (beq_self_eq_true domain)] at found
      exact ⟨_, found, rfl, rfl, fun prior same => by rw [absent] at same; cases same⟩

theorem commit_live (committed : commit domain token scope newId eventId now store = some after) :
    Live domain after ∧ Keeps domain store after ∧ after.sessions = store.sessions := by
  unfold commit completeInstall at committed
  split at committed
  · cases committed
  · rename_i result db completed
    cases committed
    split at completed
    · cases rows : installRows ⟨domain, token, scope⟩ newId eventId now store.db with
      | error error =>
        rw [rows] at completed
        cases completed
      | ok installed =>
        rw [rows] at completed
        cases completed
        obtain ⟨⟨⟨merchantId, isNewInstall⟩, upserted⟩, first, rest⟩ := bind_eq_ok_iff.mp rows
        obtain ⟨created, publishes, done⟩ := bind_eq_ok_iff.mp rest
        have same : created.merchants = upserted.merchants := by
          rw [merchants_publish publishes, merchants_healSubscription, merchants_healSettings]
        cases done
        obtain ⟨merchant, found, uninstalledAt, tokenRevokedAt, kept⟩ := upsertInstall_ok first
        rw [← same] at found
        exact ⟨⟨merchant, found, uninstalledAt, tokenRevokedAt⟩, fun prior before => ⟨merchant, found, kept prior before⟩, rfl⟩
    · cases completed

/-- An update that a signal makes. -/
theorem updateMany_keeps {filter : Merchant → Bool} (change : Merchant → Merchant)
    (keeps : ∀ row, Indexed.index (change row) = Indexed.index row) {sessions : Table Session}
    (same : next.merchants = db.merchants.updateMany filter change keeps) : Keeps domain ⟨db, sessions⟩ ⟨next, sessions⟩ := by
  intro merchant found
  have key (row : Merchant) : (change row).id = row.id ∧ (change row).shop = row.shop := Prod.mk.inj (keeps row)
  have updated := @Table.find?_updateMany _ _ db.merchants (·.shop == domain) filter change keeps
    fun row => by rw [(key row).2]
  rw [show db.merchants.find? (·.shop == domain) = some merchant from found, Option.map_some, ← same] at updated
  refine ⟨_, updated, ?_⟩
  split
  · exact (key merchant).1
  · rfl

theorem Keeps.refl (store : Store) : Keeps domain store store := fun merchant found => ⟨merchant, found, rfl⟩

theorem markTokenRevoked_keeps {merchantId : MerchantId} {sessions : Table Session}
    (marked : markTokenRevoked merchantId eventId now db = .ok next) : Keeps domain ⟨db, sessions⟩ ⟨next, sessions⟩ := by
  unfold markTokenRevoked at marked
  split at marked
  · have same := merchants_publish marked
    exact updateMany_keeps (fun row => { row with tokenRevokedAt := some now }) (fun _ => rfl) same
  · cases marked

theorem deliver_keeps {webhookId : String} {body : Json} {row : OutboxEvent}
    (delivered : deliver domain webhookId body eventId now store = some (row, after)) :
    after.db.merchants = store.db.merchants ∧ after.sessions = store.sessions := by
  obtain ⟨merchant, _, delivered⟩ := Option.bind_eq_some_iff.mp delivered
  dsimp only at delivered
  split at delivered
  · cases delivered
  · rename_i published
    cases delivered
    exact ⟨merchants_publish published, rfl⟩

/-- The session holds the token that was stored last. -/
theorem find_storeSession {session : Session} {sessions : Table Session} :
    ∃ stored ∈ (storeSession session sessions).find? (·.id == session.id), stored.accessToken = session.accessToken := by
  unfold storeSession
  split
  · rename_i inserted
    have found := @Table.find?_insert? _ _ _ _ _ (·.id == session.id) inserted
    rw [if_pos (beq_self_eq_true session.id)] at found
    cases earlier : sessions.find? (·.id == session.id) with
    | none =>
      rw [earlier, Option.none_or] at found
      exact ⟨session, found, rfl⟩
    | some stored =>
      obtain ⟨member, same⟩ := Table.find?_mem earlier
      have free := (Table.insert?_rows inserted).2 stored member
      exact absurd same (Bool.eq_false_iff.mp free)
  · rename_i refused
    obtain ⟨taken, member, clash⟩ := Table.insert?_none refused
    have updated := @Table.find?_updateMany _ _ sessions (·.id == session.id) (·.id == session.id)
      (fun row => { row with accessToken := session.accessToken }) (fun _ => rfl) fun _ => rfl
    cases earlier : sessions.find? (·.id == session.id) with
    | none => exact absurd clash (Bool.eq_false_iff.mp (Table.find?_none_iff.mp earlier taken member))
    | some stored =>
      rw [earlier, Option.map_some, if_pos (Table.find?_mem earlier).2] at updated
      exact ⟨_, updated, rfl⟩

/-- The token of the shop's session. -/
theorem getOfflineToken_some {merchantId : MerchantId} {merchant : Merchant} {token : String × String}
    (owned : merchant? domain store = some merchant) (same : merchant.id = merchantId)
    (got : getOfflineToken cipher.decrypt merchantId store.sessions store.db = some token) :
    ∃ session ∈ store.sessions.find? (·.id == offlineSessionId domain), cipher.decrypt session.accessToken = some token.2 := by
  unfold getOfflineToken at got
  obtain ⟨found, byId, got⟩ := Option.bind_eq_some_iff.mp got
  obtain ⟨_, _, got⟩ := Option.bind_eq_some_iff.mp got
  obtain ⟨session, stored, got⟩ := Option.bind_eq_some_iff.mp got
  obtain ⟨_, _, got⟩ := Option.bind_eq_some_iff.mp got
  obtain ⟨accessToken, decrypted, got⟩ := Option.bind_eq_some_iff.mp got
  cases got
  obtain ⟨listed, ofId⟩ := Table.find?_mem byId
  obtain ⟨here, ofShop⟩ := Table.find?_mem owned
  have clash : Indexed.clash (Indexed.index found) (Indexed.index merchant) = true := by
    have alike : found.id = merchant.id := (eq_of_beq ofId).trans same.symm
    simp [Indexed.clash, Indexed.index, alike]
  obtain rfl := store.db.merchants.eq_of_clash listed here clash
  rw [eq_of_beq ofShop] at stored
  exact ⟨session, stored, decrypted⟩

end Store

section Run

variable {cipher : Cipher} {domain : String} {maxRetries : Nat} {world last : World} {label : Label}

def Known.Sound (shop : Shop) : Known → Prop
  | .nothing => True
  | .holds token => token ∈ shop.tokens
  | .refused token => token ∈ shop.tokens ∧ ¬shop.accepts token

/-- The token of an install that Shopify takes is never one that it has stopped taking. -/
structure Shop.Onward (before after : Shop) : Prop where
  tokens : before.tokens <+: after.tokens
  accepts : ∀ token ∈ before.tokens, after.accepts token → before.accepts token
  ended : ∀ install, before.Ended install → after.Ended install

theorem Known.Sound.onward {known : Known} {before after : Shop} (sound : known.Sound before)
    (onward : before.Onward after) : known.Sound after := by
  cases known with
  | nothing => trivial
  | holds token => exact onward.tokens.subset sound
  | refused token =>
    exact ⟨onward.tokens.subset sound.1, fun accepted => sound.2 (onward.accepts token sound.1 accepted)⟩

theorem onward_installs {shop : Shop} {token : String} (fresh : token ∉ shop.tokens) :
    shop.Onward { shop with tokens := shop.tokens ++ [token], installed := true } where
  tokens := List.prefix_append _ _
  accepts other earlier accepted := by
    have named : (shop.tokens ++ [token]).getLast? = some other := accepted.2.1
    rw [List.getLast?_concat] at named
    exact absurd (Option.some.inj named ▸ earlier) fresh
  ended install ended := by
    refine ⟨?_, fun newest => ?_⟩
    · rw [List.length_append]
      exact Nat.lt_add_right _ ended.1
    · rw [List.length_append, List.length_singleton] at newest
      have before := ended.1
      omega

theorem onward_uninstalls {shop : Shop} : shop.Onward { shop with installed := false } where
  tokens := List.prefix_rfl
  accepts _ _ accepted := by cases accepted.1
  ended _ ended := ⟨ended.1, fun _ => rfl⟩

theorem onward_rejects {shop : Shop} {token : String} : shop.Onward { shop with rejected := token :: shop.rejected } where
  tokens := List.prefix_rfl
  accepts _ _ accepted := ⟨accepted.1, accepted.2.1, fun listed => accepted.2.2 (List.mem_cons_of_mem _ listed)⟩
  ended _ ended := ended

/-- The bookkeeping that every step keeps. -/
structure Sound (cipher : Cipher) (domain : String) (world : World) : Prop where
  follows : world.requests.Every fun request => request.Follows (requesting request.tag) fun _ _ => True
  owned : world.requests.Every fun request => ∃ merchant ∈ merchant? domain world.store, merchant.id = request.tag
  known : world.requests.Every fun request => request.phase.Sound world.shop
  session : ∀ session ∈ world.store.sessions.find? (·.id == offlineSessionId domain),
    ∃ token ∈ world.shop.tokens, session.accessToken = cipher.encrypt token
  committed : ∀ install ∈ world.committed, install < world.shop.tokens.length
  notices : ∀ notice ∈ world.notices, world.shop.Ended notice.2

theorem carryOut_eq {Result : Type} {choice : Choice} {store next after : Store} {result : Result}
    {answer : Except Thrown Result} (ran : choice.carryOut store next result = (answer, after)) :
    (after = store ∨ after = next) ∧ (answer = .error .network ∨ answer = .ok result) := by
  unfold Choice.carryOut at ran
  split at ran
  · cases ran
    exact ⟨.inl rfl, .inl rfl⟩
  · cases ran
    refine ⟨.inr rfl, ?_⟩
    split
    · exact .inl rfl
    · exact .inr rfl

/-- The spec of one call of a request. -/
theorem exec_sound {merchantId : MerchantId} {known : Known} {shop : Shop} {store after : Store} {request : Call}
    {choice : Choice} {answer : Except Thrown request.Value}
    (owned : ∃ merchant ∈ merchant? domain store, merchant.id = merchantId)
    (session : ∀ session ∈ store.sessions.find? (·.id == offlineSessionId domain),
      ∃ token ∈ shop.tokens, session.accessToken = cipher.encrypt token)
    (sound : known.Sound shop) (allowed : (requesting merchantId).allowed known request)
    (executed : exec cipher shop store request choice = some (answer, after)) :
    Keeps domain store after ∧ after.sessions = store.sessions ∧ ((requesting merchantId).next known request answer).Sound shop ∧
      (after = store ∨ ∃ token, known = .refused token) := by
  cases known with
  | nothing =>
    cases request with
    | getOfflineToken about =>
      obtain rfl : about = merchantId := allowed
      obtain ⟨stays, answered⟩ := carryOut_eq (Option.some.inj executed)
      obtain rfl : after = store := stays.elim id id
      refine ⟨Keeps.refl _, rfl, ?_, .inl rfl⟩
      rcases answered with rfl | rfl
      · trivial
      · cases got : getOfflineToken cipher.decrypt about after.sessions after.db with
        | none => trivial
        | some token =>
          obtain ⟨merchant, found, same⟩ := owned
          obtain ⟨row, stored, decrypted⟩ := getOfflineToken_some found same got
          obtain ⟨issued, listed, encrypted⟩ := session row stored
          rw [encrypted, cipher.decrypt_encrypt] at decrypted
          obtain rfl := Option.some.inj decrypted
          exact listed
    | _ => exact allowed.elim
  | holds token =>
    cases request with
    | fetch used query =>
      obtain rfl : used.accessToken = token := allowed
      unfold exec at executed
      dsimp only at executed
      split at executed
      · cases executed
        exact ⟨Keeps.refl _, rfl, sound, .inl rfl⟩
      · split at executed
        · cases executed
        · rename_i response _ judged
          cases executed
          refine ⟨Keeps.refl _, rfl, ?_, .inl rfl⟩
          change Known.Sound shop (if response.status = 401 then .refused used.accessToken else .holds used.accessToken)
          split
          · rename_i unauthorized
            exact ⟨sound, fun accepted => judged ⟨unauthorized, accepted⟩⟩
          · exact sound
    | _ => exact allowed.elim
  | refused token =>
    cases request with
    | markTokenRevoked about =>
      obtain rfl : about = merchantId := allowed
      have marking : after = store ∨ ∃ held, Known.refused token = .refused held := .inr ⟨token, rfl⟩
      unfold exec at executed
      dsimp only at executed
      split at executed
      · cases executed
        exact ⟨Keeps.refl _, rfl, sound, marking⟩
      · rename_i marked
        obtain ⟨stays | moves, _⟩ := carryOut_eq (Option.some.inj executed)
        · subst stays
          exact ⟨Keeps.refl _, rfl, sound, marking⟩
        · subst moves
          exact ⟨markTokenRevoked_keeps marked, rfl, sound, marking⟩
    | _ => exact allowed.elim

theorem Keeps.owned {before after : Store} {requests : Pool Request} (keeps : Keeps domain before after)
    (owned : requests.Every fun request => ∃ merchant ∈ merchant? domain before, merchant.id = request.tag) :
    requests.Every fun request => ∃ merchant ∈ merchant? domain after, merchant.id = request.tag := by
  intro request live
  obtain ⟨merchant, found, same⟩ := owned request live
  obtain ⟨kept, there, alike⟩ := keeps merchant found
  exact ⟨kept, there, alike.trans same⟩

theorem Sound.shop {shop : Shop} (sound : Sound cipher domain world) (onward : world.shop.Onward shop) :
    Sound cipher domain { world with shop } where
  follows := sound.follows
  owned := sound.owned
  known request live := (sound.known request live).onward onward
  session row stored := by
    obtain ⟨token, listed, same⟩ := sound.session row stored
    exact ⟨token, onward.tokens.subset listed, same⟩
  committed install listed := (sound.committed install listed).trans_le onward.tokens.length_le
  notices notice listed := onward.ended _ (sound.notices notice listed)

theorem Sound.write {store : Store} (sound : Sound cipher domain world) (keeps : Keeps domain world.store store)
    (sessions : store.sessions = world.store.sessions) : Sound cipher domain { world with store } where
  follows := sound.follows
  owned := keeps.owned sound.owned
  known := sound.known
  session row stored := sound.session row (sessions ▸ stored)
  committed := sound.committed
  notices := sound.notices

theorem merchant?_lifecycle (store : Store) :
    (merchant? domain store).map (fun row => (row.id, row.uninstalledAt, row.tokenRevokedAt)) = (lifecycle domain store).head? := by
  rw [lifecycle, List.head?_map, List.head?_filter]
  rfl

theorem kept_merchant {before after : Store} {merchant : Merchant} (kept : Kept domain before after)
    (found : merchant? domain before = some merchant) : ∃ same ∈ merchant? domain after, same.id = merchant.id ∧
      same.uninstalledAt = merchant.uninstalledAt ∧ same.tokenRevokedAt = merchant.tokenRevokedAt := by
  have heads := congrArg List.head? kept.1
  rw [← merchant?_lifecycle, ← merchant?_lifecycle, found, Option.map_some] at heads
  obtain ⟨same, there, alike⟩ := Option.map_eq_some_iff.mp heads
  obtain ⟨id, rest⟩ := Prod.mk.inj alike
  exact ⟨same, there, id, Prod.mk.inj rest⟩

theorem Sound.step (sound : Sound cipher domain world) (moved : (machine cipher domain maxRetries).step world label = some last) :
    Sound cipher domain last := by
  cases label with
  | installs token =>
    obtain ⟨enabled, same⟩ := Option.ite_none_right_eq_some.mp moved
    cases same
    exact sound.shop (onward_installs enabled.2)
  | uninstalls =>
    obtain ⟨_, same⟩ := Option.ite_none_right_eq_some.mp moved
    cases same
    exact sound.shop onward_uninstalls
  | rejects token =>
    cases moved
    exact sound.shop onward_rejects
  | commits install scope newId eventId now =>
    obtain ⟨token, issued, moved⟩ := Option.bind_eq_some_iff.mp moved
    obtain ⟨store, committed, rfl⟩ := Option.map_eq_some_iff.mp moved
    obtain ⟨_, keeps, sessions⟩ := commit_live committed
    refine { sound.write keeps sessions with committed := fun other listed => ?_ }
    rcases List.mem_cons.mp listed with rfl | earlier
    · exact (List.getElem?_eq_some_iff.mp issued).1
    · exact sound.committed other earlier
  | stores install =>
    obtain ⟨token, issued, moved⟩ := Option.bind_eq_some_iff.mp moved
    obtain ⟨_, same⟩ := Option.ite_none_right_eq_some.mp moved
    cases same
    refine { sound with session := fun row stored => ?_ }
    obtain ⟨written, there, same⟩ := @find_storeSession ⟨offlineSessionId domain, cipher.encrypt token⟩ world.store.sessions
    obtain rfl := Option.some.inj (there.symm.trans stored)
    exact ⟨token, List.mem_of_getElem? issued, same⟩
  | delivers install webhookId body eventId now =>
    obtain ⟨ended, moved⟩ := Option.ite_none_right_eq_some.mp moved
    obtain ⟨⟨row, store⟩, delivered, rfl⟩ := Option.map_eq_some_iff.mp moved
    obtain ⟨merchants, sessions⟩ := deliver_keeps delivered
    have keeps : Keeps domain world.store store := fun merchant found =>
      ⟨merchant, (congrArg (Table.find? · _) merchants).trans found, rfl⟩
    refine { sound.write keeps sessions with notices := fun notice listed => ?_ }
    rcases List.mem_append.mp listed with earlier | new
    · exact sound.notices notice earlier
    · cases List.mem_singleton.mp new
      exact ended
  | handles notice now =>
    obtain ⟨⟨row, install⟩, _, rfl⟩ := Option.map_eq_some_iff.mp moved
    exact sound.write (updateMany_keeps (fun row => { row with uninstalledAt := some now }) (fun _ => rfl) rfl) rfl
  | begins query =>
    obtain ⟨merchant, found, rfl⟩ := Option.map_eq_some_iff.mp moved
    exact { sound with
      follows := sound.follows.spawn requestOnce_obeys
      owned := sound.owned.spawn ⟨merchant, found, rfl⟩
      known := sound.known.spawn trivial }
  | acts slot choice =>
    obtain ⟨request, live, moved⟩ := Option.bind_eq_some_iff.mp moved
    obtain ⟨⟨store, next⟩, advanced, rfl⟩ := Option.map_eq_some_iff.mp moved
    obtain ⟨call, answer, _, allowed, executed, tag, phase, onward⟩ := (sound.follows.get live).advance advanced
    obtain ⟨keeps, sessions, known, _⟩ := exec_sound (sound.owned.get live) sound.session (sound.known.get live) allowed executed
    have written := sound.write keeps sessions
    exact { written with
      follows := written.follows.put (by rwa [tag])
      owned := written.owned.put (by rw [tag]; exact written.owned.get live)
      known := written.known.put (by rwa [phase]) }
  | crashes slot =>
    obtain ⟨request, _, rfl⟩ := Option.map_eq_some_iff.mp moved
    exact { sound with
      follows := sound.follows.clear
      owned := sound.owned.clear
      known := sound.known.clear }
  | elsewhere store =>
    obtain ⟨kept, same⟩ := Option.ite_none_right_eq_some.mp moved
    cases same
    have keeps : Keeps domain world.store store := fun merchant found => by
      obtain ⟨same, there, alike, _⟩ := kept_merchant kept found
      exact ⟨same, there, alike⟩
    exact { sound with
      owned := keeps.owned sound.owned
      session := fun row stored => sound.session row (kept.2 ▸ stored) }

/-- The last event at Shopify is an install that was completed here, and its token is taken. -/
structure InForce (world : World) : Prop where
  accepted : ∃ token, world.shop.accepts token
  completed : ∃ install ∈ world.committed, install + 1 = world.shop.tokens.length

/-- No signal of an install comes after a later one is completed: neither its uninstall nor the
refusal of its token. -/
def Timely (world : World) : Label → Prop
  | .handles notice _ => ∀ found ∈ world.notices[notice]?, ∀ later ∈ world.committed, later ≤ found.2
  | .acts slot _ => ∀ request ∈ world.requests.task? slot, ∀ token, request.phase = .refused token →
      ∀ install, world.shop.tokens[install]? = some token → ∀ later ∈ world.committed, later ≤ install
  | _ => True

/-- An install that has ended is not in force. -/
theorem InForce.not_ended {install : Nat} (inForce : InForce world) (ended : world.shop.Ended install)
    (newest : ∀ later ∈ world.committed, later ≤ install) : False := by
  obtain ⟨token, accepted⟩ := inForce.accepted
  obtain ⟨last, listed, length⟩ := inForce.completed
  have below := newest last listed
  have within := ended.1
  exact Bool.false_ne_true ((ended.2 (by omega)).symm.trans accepted.1)

theorem InForce.not_refused {install : Nat} {token : String} (inForce : InForce world)
    (issued : world.shop.tokens[install]? = some token) (refused : ¬world.shop.accepts token)
    (newest : ∀ later ∈ world.committed, later ≤ install) : False := by
  obtain ⟨taken, accepted⟩ := inForce.accepted
  obtain ⟨last, listed, length⟩ := inForce.completed
  have below := newest last listed
  have within := (List.getElem?_eq_some_iff.mp issued).1
  have final := accepted.2.1
  rw [List.getLast?_eq_getElem?, show world.shop.tokens.length - 1 = install by omega, issued] at final
  exact refused (Option.some.inj final ▸ accepted)

theorem live_step (sound : Sound cipher domain world) (live : InForce world → Live domain world.store)
    (timely : Timely world label) (moved : (machine cipher domain maxRetries).step world label = some last)
    (inForce : InForce last) : Live domain last.store := by
  cases label with
  | installs token =>
    obtain ⟨_, same⟩ := Option.ite_none_right_eq_some.mp moved
    cases same
    obtain ⟨install, listed, length⟩ := inForce.completed
    have below := sound.committed install listed
    rw [List.length_append, List.length_singleton] at length
    omega
  | uninstalls =>
    obtain ⟨_, same⟩ := Option.ite_none_right_eq_some.mp moved
    cases same
    obtain ⟨token, accepted⟩ := inForce.accepted
    cases accepted.1
  | rejects token =>
    cases moved
    obtain ⟨other, accepted⟩ := inForce.accepted
    exact live ⟨⟨other, accepted.1, accepted.2.1, fun listed => accepted.2.2 (List.mem_cons_of_mem _ listed)⟩,
      inForce.completed⟩
  | commits install scope newId eventId now =>
    obtain ⟨token, _, moved⟩ := Option.bind_eq_some_iff.mp moved
    obtain ⟨store, committed, rfl⟩ := Option.map_eq_some_iff.mp moved
    exact (commit_live committed).1
  | stores install =>
    obtain ⟨token, _, moved⟩ := Option.bind_eq_some_iff.mp moved
    obtain ⟨_, same⟩ := Option.ite_none_right_eq_some.mp moved
    cases same
    exact live ⟨inForce.accepted, inForce.completed⟩
  | delivers install webhookId body eventId now =>
    obtain ⟨_, moved⟩ := Option.ite_none_right_eq_some.mp moved
    obtain ⟨⟨row, store⟩, delivered, rfl⟩ := Option.map_eq_some_iff.mp moved
    obtain ⟨merchant, found, columns⟩ := live ⟨inForce.accepted, inForce.completed⟩
    exact ⟨merchant, (congrArg (Table.find? · _) (deliver_keeps delivered).1).trans found, columns⟩
  | handles notice now =>
    obtain ⟨⟨row, install⟩, found, rfl⟩ := Option.map_eq_some_iff.mp moved
    have ended := sound.notices _ (List.mem_of_getElem? found)
    exact (InForce.not_ended ⟨inForce.accepted, inForce.completed⟩ ended (timely _ found)).elim
  | begins query =>
    obtain ⟨merchant, _, rfl⟩ := Option.map_eq_some_iff.mp moved
    exact live ⟨inForce.accepted, inForce.completed⟩
  | acts slot choice =>
    obtain ⟨request, running, moved⟩ := Option.bind_eq_some_iff.mp moved
    obtain ⟨⟨store, next⟩, advanced, rfl⟩ := Option.map_eq_some_iff.mp moved
    obtain ⟨call, answer, _, allowed, executed, _⟩ := (sound.follows.get running).advance advanced
    have known := sound.known.get running
    obtain ⟨_, _, _, same | ⟨token, refused⟩⟩ := exec_sound (sound.owned.get running) sound.session known allowed executed
    · subst same
      exact live ⟨inForce.accepted, inForce.completed⟩
    · rw [refused] at known
      obtain ⟨install, issued⟩ := List.getElem?_of_mem known.1
      exact (InForce.not_refused ⟨inForce.accepted, inForce.completed⟩ issued known.2
        (timely request running token refused install issued)).elim
  | crashes slot =>
    obtain ⟨request, _, rfl⟩ := Option.map_eq_some_iff.mp moved
    exact live ⟨inForce.accepted, inForce.completed⟩
  | elsewhere store =>
    obtain ⟨kept, same⟩ := Option.ite_none_right_eq_some.mp moved
    cases same
    obtain ⟨merchant, found, uninstalledAt, tokenRevokedAt⟩ := live ⟨inForce.accepted, inForce.completed⟩
    obtain ⟨same, there, _, first, second⟩ := kept_merchant kept found
    exact ⟨same, there, first.trans uninstalledAt, second.trans tokenRevokedAt⟩

/-- A shop before its first install, in any store. -/
structure Unknown (domain : String) (world : World) : Prop where
  shop : world.shop.tokens = []
  session : world.store.sessions.find? (·.id == offlineSessionId domain) = none
  committed : world.committed = []
  notices : world.notices = []
  requests : world.requests = []

theorem Unknown.sound (unknown : Unknown domain world) : Sound cipher domain world where
  follows _ live := by rw [unknown.requests] at live; cases live
  owned _ live := by rw [unknown.requests] at live; cases live
  known _ live := by rw [unknown.requests] at live; cases live
  session _ stored := by rw [unknown.session] at stored; cases stored
  committed _ listed := by rw [unknown.committed] at listed; cases listed
  notices _ listed := by rw [unknown.notices] at listed; cases listed

/-- While every signal comes before a later install is completed, the install that is in force is
never disabled. -/
theorem install_stays_live {start : World} (unknown : Unknown domain start)
    (reach : Machine.Reach (machine cipher domain maxRetries) Timely start world) (inForce : InForce world) :
    Live domain world.store := by
  have idle : Sound cipher domain start ∧ (InForce start → Live domain start.store) := by
    refine ⟨unknown.sound, fun inForce => ?_⟩
    obtain ⟨install, listed, _⟩ := inForce.completed
    rw [unknown.committed] at listed
    cases listed
  have kept : Sound cipher domain world ∧ (InForce world → Live domain world.store) := by
    refine @Machine.Reach.invariant _ _ _ _ _ _ (fun world => Sound cipher domain world ∧
      (InForce world → Live domain world.store)) reach idle fun middle label final timely moved both => ?_
    exact ⟨both.1.step moved, live_step both.1 both.2 timely moved⟩
  exact kept.2 inForce

end Run

section Samples

def plain : Cipher := ⟨id, some, fun _ => rfl⟩

def sampleDomain : String := "shop.myshopify.com"

def firstCompleted : List Label := [.installs "a", .commits 0 "read_customers" "m" "e" 1]

/-- The row of the uninstall is handled after the shop is installed again. -/
def lateUninstall : List Label :=
  firstCompleted ++ [.uninstalls, .delivers 0 "w" (.obj []) "u" 2, .installs "b", .commits 1 "read_customers" "n" "f" 3,
    .handles 0 4]

/-- A request with the first token is refused, and marks the merchant after the second install. -/
def lateRefusal : List Label :=
  firstCompleted ++ [.stores 0, .begins (.codeDiscountNodeByCode "X"), .acts 0 {}, .uninstalls,
    .acts 0 { found := some { status := 401 } }, .installs "b", .commits 1 "read_customers" "n" "f" 3,
    .acts 0 { now := 4, eventId := "r" }]

def Label.handling : Label → Bool
  | .handles _ _ => true
  | _ => false

def Label.acting : Label → Bool
  | .acts _ _ => true
  | _ => false

def sampleMachine : Machine World Label := machine plain sampleDomain 0

def lifecycleColumns (world : World) : Option (Option Date × Option Date) :=
  (merchant? sampleDomain world.store).map fun row => (row.uninstalledAt, row.tokenRevokedAt)

theorem not_live {world : World} {columns : Option Date × Option Date} (read : lifecycleColumns world = some columns)
    (set : columns ≠ (none, none)) : ¬Live sampleDomain world.store := by
  rintro ⟨merchant, found, uninstalledAt, tokenRevokedAt⟩
  have none : lifecycleColumns world = some (merchant.uninstalledAt, merchant.tokenRevokedAt) := congrArg (Option.map _) found
  rw [uninstalledAt, tokenRevokedAt] at none
  exact set (Option.some.inj (read.symm.trans none))

theorem lateUninstall_runs : (sampleMachine.runWhere (fun _ label => !label.acting) {} lateUninstall).isSome = true := by
  decide

theorem lateRefusal_runs : (sampleMachine.runWhere (fun _ label => !label.handling) {} lateRefusal).isSome = true := by
  decide

theorem unknown_empty : Unknown sampleDomain {} := ⟨rfl, rfl, rfl, rfl, rfl⟩

/-- Either signal of the first install disables the second. -/
theorem stale_signals_disable :
    (¬∀ (cipher : Cipher) (domain : String) (maxRetries : Nat) (start world : World), Unknown domain start →
      Machine.Reach (machine cipher domain maxRetries) (fun _ label => (!label.acting) = true) start world →
      InForce world → Live domain world.store) ∧
    ¬∀ (cipher : Cipher) (domain : String) (maxRetries : Nat) (start world : World), Unknown domain start →
      Machine.Reach (machine cipher domain maxRetries) (fun _ label => (!label.handling) = true) start world →
      InForce world → Live domain world.store := by
  constructor
  · intro claim
    let world := (sampleMachine.runWhere (fun _ label => !label.acting) {} lateUninstall).get lateUninstall_runs
    have accepted : world.shop.accepts "b" := by decide
    have completed : 1 ∈ world.committed ∧ 1 + 1 = world.shop.tokens.length := by decide
    have read : lifecycleColumns world = some (some 4, none) := by decide
    exact not_live read nofun (claim plain sampleDomain 0 {} world unknown_empty (Machine.reach_get lateUninstall_runs)
      ⟨⟨"b", accepted⟩, 1, completed⟩)
  · intro claim
    let world := (sampleMachine.runWhere (fun _ label => !label.handling) {} lateRefusal).get lateRefusal_runs
    have accepted : world.shop.accepts "b" := by decide
    have completed : 1 ∈ world.committed ∧ 1 + 1 = world.shop.tokens.length := by decide
    have read : lifecycleColumns world = some (none, some 4) := by decide
    exact not_live read nofun (claim plain sampleDomain 0 {} world unknown_empty (Machine.reach_get lateRefusal_runs)
      ⟨⟨"b", accepted⟩, 1, completed⟩)

/-- The signals of the first install come in time. -/
def inTime : List Label :=
  firstCompleted ++ [.stores 0, .begins (.codeDiscountNodeByCode "X"), .acts 0 {}, .uninstalls,
    .acts 0 { found := some { status := 401 } }, .delivers 0 "w" (.obj []) "u" 2, .handles 0 4,
    .acts 0 { now := 4, eventId := "r" }, .installs "b", .commits 1 "read_customers" "n" "f" 5]

def early (world : World) (label : Label) : Bool := !(label.acting || label.handling) || decide (world.committed = [0])

theorem inTime_runs : (sampleMachine.runWhere early {} inTime).isSome = true := by decide

theorem early_timely {world : World} {label : Label} (checked : early world label = true) : Timely world label := by
  have newest (kind : (label.acting || label.handling) = true) : world.committed = [0] := by
    simpa [early, kind] using checked
  cases label with
  | handles notice now =>
    intro found _ later listed
    rw [newest rfl] at listed
    exact List.mem_singleton.mp listed ▸ Nat.zero_le _
  | acts slot choice =>
    intro request _ token _ install _ later listed
    rw [newest rfl] at listed
    exact List.mem_singleton.mp listed ▸ Nat.zero_le _
  | _ => trivial

theorem install_stays_live_in_time :
    Live sampleDomain ((sampleMachine.runWhere early {} inTime).get inTime_runs).store :=
  install_stays_live unknown_empty ((Machine.reach_get inTime_runs).mono fun _ _ => early_timely)
    ⟨⟨"b", by decide⟩, 1, by decide⟩

end Samples

end WinBack.Shopify.Lifecycle
