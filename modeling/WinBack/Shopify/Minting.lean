import WinBack.Library.Machine
import WinBack.Library.Pool
import WinBack.Library.Table
import WinBack.Shopify.Admin

/-! Workers that mint winback codes against one Shopify, which creates a code exactly where it is
unused. Any answer may get lost, also that of a request which was carried out. -/

namespace WinBack.Shopify

open Library Script Generation

/-- A discount node. -/
structure Discount where
  id : String
  shop : String
  code : String
  deriving DecidableEq, Repr

instance : Indexed Discount := .ofKeys Discount.id fun row => (row.shop, row.code)

def named (shop code : String) (row : Discount) : Bool := row.shop == shop && row.code == code

def createdPayload (id : String) : CreatePayload := { codeDiscountNode := some id }

def takenPayload : CreatePayload := { userErrors := [{ code := some takenErrorCode }] }

/-- Node ids are never reused. -/
def create? (shop code id : String) (discounts : Table Discount) : Option (CreatePayload × Table Discount) :=
  if discounts.any (named shop code) then some (takenPayload, discounts)
  else (discounts.insert? { id, shop, code }).map fun discounts => (createdPayload id, discounts)

structure Store where
  discounts : Table Discount := ∅
  returned : List (CreateWinbackDiscountArgs × CreateWinbackDiscountResult) := []

/-- What the environment decides about one call. A mutation is carried out or not, under a new id,
and the response is whatever arrives, `none` for a network error. -/
structure Choice where
  now : Date := 0
  usable : Bool := true
  carriedOut : Bool := true
  id : String := ""
  created : Option (Response (Option CreatePayload)) := none
  found : Option (Response (Option String)) := none

/-- A payload that is not of a mutation that was carried out. -/
def refuses (payload : Option CreatePayload) : Bool :=
  payload.all fun payload =>
    payload.codeDiscountNode.isNone && !payload.userErrors.any (·.code == some takenErrorCode)

/-- Shopify delivers what it has done. -/
def answerCreate (shop code : String) (choice : Choice) (store : Store) :
    Option (Except Thrown (Response (Option CreatePayload)) × Store) :=
  let delivered := choice.created.bind Response.delivers
  let answer := choice.created.elim (.error .network) .ok
  if choice.carriedOut then
    (create? shop code choice.id store.discounts).bind fun (payload, discounts) =>
      if delivered.all (· == some payload) then some (answer, { store with discounts }) else none
  else if delivered.all refuses then some (answer, store)
  else none

def answerLookup (shop code : String) (choice : Choice) (store : Store) :
    Option (Except Thrown (Response (Option String)) × Store) :=
  let delivered := choice.found.bind Response.delivers
  if delivered.all (· == (store.discounts.find? (named shop code)).map (·.id)) then
    some (choice.found.elim (.error .network) .ok, store)
  else none

variable (shopOf : MerchantId → String)

def exec (store : Store) (request : Call) (choice : Choice) : Option (Except Thrown request.Value × Store) :=
  match request with
  | .getOfflineToken merchantId => some (.ok (if choice.usable then some ⟨shopOf merchantId, ""⟩ else none), store)
  | .markTokenRevoked _ => some (.ok (), store)
  | .clock => some (.ok choice.now, store)
  | .fetch token (.discountCodeBasicCreate input) => answerCreate token.shop input.code choice store
  | .fetch token (.codeDiscountNodeByCode code) => answerLookup token.shop code choice store
  | .report args result => some (.ok (), { store with returned := store.returned ++ [(args, result)] })

/-- What a caller knows of its code. -/
inductive Known where
  | nothing
  | resolved (shop : String)
  | held (shop id : String)
  deriving DecidableEq, Repr

namespace Known

def learned (shop : String) : (query : Query) → query.Data → Known
  | .discountCodeBasicCreate _, some { codeDiscountNode := some id, userErrors := [] } => .held shop id
  | .codeDiscountNodeByCode _, some id => .held shop id
  | _, _ => .resolved shop

def next : Known → (request : Call) → Except Thrown request.Value → Known
  | .nothing, .getOfflineToken _, .ok (some token) => .resolved token.shop
  | .resolved _, .getOfflineToken _, .ok (some token) => .resolved token.shop
  | .resolved shop, .fetch _ query, .ok response => response.delivers.elim (.resolved shop) (learned shop query)
  | known, _, _ => known

def allowed (args : CreateWinbackDiscountArgs) : Known → Call → Prop
  | .nothing, .clock => True
  | .nothing, .getOfflineToken merchantId => merchantId = args.merchantId
  | .resolved _, .getOfflineToken merchantId | .resolved _, .markTokenRevoked merchantId => merchantId = args.merchantId
  | .resolved shop, .fetch token query => token.shop = shop ∧ query.code = args.code
  | .held _ id, .report about result => about = args ∧ result.code = args.code ∧ result.shopifyDiscountId = id
  | _, _ => False

end Known

def minting (args : CreateWinbackDiscountArgs) : Discipline Call Call.Value Thrown Known where
  allowed := Known.allowed args
  next := Known.next

section Client

variable {args : CreateWinbackDiscountArgs} {token : OfflineToken} {query : Query} {maxRetries : Nat}

/-- The client returns what was delivered. -/
def Returned (shop : String) (query : Query) (known : Known) (outcome : Except Thrown query.Data) : Prop :=
  ∀ data, outcome = .ok data → known = .learned shop query data

theorem next_fetch (response : Response query.Data) :
    (minting args).next (.resolved token.shop) (.fetch token query) (.ok response) =
      response.delivers.elim (.resolved token.shop) (.learned token.shop query) := rfl

theorem sending (about : query.code = args.code) :
    Sending (minting args) args.merchantId token query (.resolved token.shop) (Returned token.shop query) where
  fetches := ⟨rfl, about⟩
  fails _ := nofun
  lost _ := rfl
  revokes response refused := by
    have bad : response.delivers = none := by simp [Response.delivers, Response.ok, refused]
    rw [next_fetch, bad]
    exact ⟨rfl, fun _ _ => nofun⟩
  undelivered response _ none := by
    rw [next_fetch, none]
    rfl
  delivered response data given := by
    rw [next_fetch, given]
    intro returned same
    cases same
    rfl

/-- A request of the caller, before or after its shop is known. -/
theorem graphql_obeys {known : Known} (open' : known = .nothing ∨ ∃ shop, known = .resolved shop)
    (about : query.code = args.code) :
    (graphql maxRetries args.merchantId query).Obeys (minting args) known fun known outcome =>
      ∀ data, outcome = .ok data → ∃ shop, known = .learned shop query data := by
  unfold graphql
  have asks : (minting args).allowed known (.getOfflineToken args.merchantId) := by
    rcases open' with rfl | ⟨shop, rfl⟩ <;> rfl
  refine obeys_perform_bind.mpr ⟨asks, fun _ => nofun, fun resolved => ?_⟩
  cases resolved with
  | none => exact nofun
  | some token =>
    have learns : (minting args).next known (.getOfflineToken args.merchantId) (.ok (some token)) = .resolved token.shop := by
      rcases open' with rfl | ⟨shop, rfl⟩ <;> rfl
    rw [learns]
    refine ((sending about).send maxRetries).mono fun reached outcome returned data same => ?_
    exact ⟨token.shop, returned data same⟩

end Client

section Callers

variable {args : CreateWinbackDiscountArgs} {maxRetries : Nat}

/-- A caller that succeeds has seen the node of its code. -/
def Holds (args : CreateWinbackDiscountArgs) (known : Known) (outcome : Except Thrown CreateWinbackDiscountResult) : Prop :=
  ∀ result, outcome = .ok result → result.code = args.code ∧ ∃ shop, known = .held shop result.shopifyDiscountId

theorem taken_obeys (shop : String) :
    (do
      match ← lookupDiscountIdByCode maxRetries args.merchantId args.code with
      | none => throw (.adminApi "discountCodeBasicCreate returned TAKEN but codeDiscountNodeByCode found no node")
      | some existingId => return ⟨args.code, existingId, true⟩ : Program CreateWinbackDiscountResult).Obeys
      (minting args) (.resolved shop) (Holds args) := by
  unfold lookupDiscountIdByCode
  apply (obeys_bind ..).mpr
  refine (graphql_obeys (.inr ⟨shop, rfl⟩) rfl).mono fun reached outcome returned => ?_
  cases outcome with
  | error error => exact nofun
  | ok found =>
    obtain ⟨shop, rfl⟩ := returned found rfl
    cases found with
    | none => exact nofun
    | some existingId =>
      rintro result ⟨⟩
      exact ⟨rfl, shop, rfl⟩

theorem minted_obeys (shop : String) (input : DiscountCodeBasicInput) (data : Option CreatePayload) :
    (minted maxRetries args (data.getD {})).Obeys (minting args) (.learned shop (.discountCodeBasicCreate input) data)
      (Holds args) := by
  have failed {payload : CreatePayload} (unlearned : Known.learned shop (.discountCodeBasicCreate input) data =
      .resolved shop) :
      (if payload.userErrors.any (·.code == some takenErrorCode) then do
          match ← lookupDiscountIdByCode maxRetries args.merchantId args.code with
          | none => throw (.adminApi "discountCodeBasicCreate returned TAKEN but codeDiscountNodeByCode found no node")
          | some existingId => return ⟨args.code, existingId, true⟩
        else throw (.adminApi "discountCodeBasicCreate returned userErrors") : Program CreateWinbackDiscountResult).Obeys
        (minting args) (.learned shop (.discountCodeBasicCreate input) data) (Holds args) := by
    rw [unlearned]
    split
    · exact taken_obeys shop
    · exact nofun
  unfold minted
  cases data with
  | none => exact failed rfl
  | some payload =>
    obtain ⟨node, errors⟩ := payload
    cases node with
    | none => exact failed rfl
    | some createdId =>
      cases errors with
      | cons error rest => exact failed rfl
      | nil =>
        rintro result ⟨⟩
        exact ⟨rfl, shop, rfl⟩

theorem createWinbackDiscountCode_obeys :
    (createWinbackDiscountCode maxRetries args).Obeys (minting args) .nothing (Holds args) := by
  unfold createWinbackDiscountCode
  refine obeys_perform_bind.mpr ⟨trivial, fun _ => nofun, fun startsAt => ?_⟩
  apply (obeys_bind ..).mpr
  refine (graphql_obeys (.inl rfl) rfl).mono fun reached outcome returned => ?_
  cases outcome with
  | error error => exact nofun
  | ok data =>
    obtain ⟨shop, rfl⟩ := returned data rfl
    exact minted_obeys shop _ data

theorem mintForWorker_obeys :
    (mintForWorker maxRetries args).Obeys (minting args) .nothing fun _ _ => True := by
  unfold mintForWorker
  apply (obeys_bind ..).mpr
  refine createWinbackDiscountCode_obeys.mono fun reached outcome holds => ?_
  cases outcome with
  | error error => trivial
  | ok result =>
    obtain ⟨code, shop, rfl⟩ := holds result rfl
    exact ⟨⟨rfl, code, rfl⟩, fun _ => trivial⟩

end Callers

section Server

variable {shop code id : String} {choice : Choice} {store after : Store}

theorem create?_grows {payload : CreatePayload} {discounts next : Table Discount}
    (created : create? shop code id discounts = some (payload, next)) :
    discounts.rows ⊆ next.rows ∧ (payload = takenPayload ∨ payload = createdPayload id ∧ ⟨id, shop, code⟩ ∈ next.rows) := by
  unfold create? at created
  split at created
  · cases created
    exact ⟨List.Subset.refl _, .inl rfl⟩
  · obtain ⟨table, inserted, same⟩ := Option.map_eq_some_iff.mp created
    cases same
    rw [(Table.insert?_rows inserted).1]
    exact ⟨List.subset_append_left _ _, .inr ⟨rfl, List.mem_append_right _ (List.mem_singleton_self _)⟩⟩

/-- An id that is delivered is the id of the code. -/
theorem answerCreate_ok {answer : Except Thrown (Response (Option CreatePayload))}
    (answered : answerCreate shop code choice store = some (answer, after)) :
    store.discounts.rows ⊆ after.discounts.rows ∧ after.returned = store.returned ∧
      ∀ response, answer = .ok response → ∀ id, response.delivers = some (some (createdPayload id)) →
        ⟨id, shop, code⟩ ∈ after.discounts.rows := by
  have delivered (response : Response (Option CreatePayload))
      (same : choice.created.elim (.error .network) .ok = (Except.ok response : Except Thrown _)) :
      choice.created.bind Response.delivers = response.delivers := by
    cases arrived : choice.created with
    | none =>
      rw [arrived] at same
      cases same
    | some other =>
      rw [arrived] at same
      cases same
      rfl
  unfold answerCreate at answered
  dsimp only at answered
  split at answered
  · obtain ⟨⟨payload, discounts⟩, created, rest⟩ := Option.bind_eq_some_iff.mp answered
    split at rest
    · rename_i honest
      cases rest
      obtain ⟨grows, settled⟩ := create?_grows created
      refine ⟨grows, rfl, fun response same id delivers => ?_⟩
      rw [delivered response same, delivers, Option.all_some, beq_iff_eq] at honest
      rcases settled with taken | ⟨new, stored⟩
      · cases (Option.some.inj honest).trans taken
      · cases (Option.some.inj honest).trans new
        exact stored
    · cases rest
  · split at answered
    · rename_i honest
      cases answered
      refine ⟨List.Subset.refl _, rfl, fun response same id delivers => ?_⟩
      rw [delivered response same, delivers] at honest
      cases honest
    · cases answered

theorem answerLookup_ok {answer : Except Thrown (Response (Option String))}
    (answered : answerLookup shop code choice store = some (answer, after)) :
    after = store ∧ ∀ response, answer = .ok response → ∀ id, response.delivers = some (some id) →
      ⟨id, shop, code⟩ ∈ store.discounts.rows := by
  unfold answerLookup at answered
  dsimp only at answered
  split at answered
  · rename_i honest
    cases answered
    refine ⟨rfl, fun response same id delivers => ?_⟩
    cases arrived : choice.found with
    | none =>
      rw [arrived] at same
      cases same
    | some other =>
      rw [arrived] at same honest
      cases same
      rw [Option.bind_some, delivers, Option.all_some, beq_iff_eq] at honest
      obtain ⟨row, found, rfl⟩ := Option.map_eq_some_iff.mp honest.symm
      obtain ⟨stored, matched⟩ := Table.find?_mem found
      simp only [named, Bool.and_eq_true, beq_iff_eq] at matched
      rw [← matched.1, ← matched.2]
      exact stored
  · cases answered

end Server

section Workers

variable {shopOf : MerchantId → String} {maxRetries : Nat}

abbrev Caller := Task CreateWinbackDiscountArgs Call Call.Value Thrown Known

structure World where
  store : Store
  tasks : Pool Caller := []

inductive Label where
  | mint (args : CreateWinbackDiscountArgs)    -- a worker mints: first try, retry or duplicate
  | act (slot : Nat) (choice : Choice)
  | crash (slot : Nat)
  | elsewhere (shop code id : String)          -- somebody else creates a discount

def machine (shopOf : MerchantId → String) (maxRetries : Nat) : Machine World Label where
  step world
    | .mint args => some { world with tasks := world.tasks.spawn ⟨args, .nothing, mintForWorker maxRetries args⟩ }
    | .act slot choice => (world.tasks.task? slot).bind fun task =>
      (task.advance (minting task.tag) (exec shopOf) world.store choice).map fun (store, next) =>
        ⟨store, world.tasks.put slot next⟩
    | .crash slot => (world.tasks.task? slot).map fun _ => { world with tasks := world.tasks.clear slot }
    | .elsewhere shop code id => (create? shop code id world.store.discounts).map fun (_, discounts) =>
      { world with store := { world.store with discounts } }

/-- What a caller knows is so. -/
def Known.Sound (shopOf : MerchantId → String) (args : CreateWinbackDiscountArgs) (discounts : Table Discount) : Known → Prop
  | .nothing => True
  | .resolved shop => shop = shopOf args.merchantId
  | .held shop id => shop = shopOf args.merchantId ∧ ⟨id, shop, args.code⟩ ∈ discounts.rows

/-- Every id that was returned is the id of the code that it was returned for. -/
structure Sound (shopOf : MerchantId → String) (world : World) : Prop where
  follows : world.tasks.Every fun task => task.Follows (minting task.tag) fun _ _ => True
  known : world.tasks.Every fun task => task.phase.Sound shopOf task.tag world.store.discounts
  returned : ∀ entry ∈ world.store.returned, entry.2.code = entry.1.code ∧
    ⟨entry.2.shopifyDiscountId, shopOf entry.1.merchantId, entry.1.code⟩ ∈ world.store.discounts.rows

variable {args : CreateWinbackDiscountArgs} {known : Known} {store after : Store} {world last : World} {label : Label}

theorem Known.Sound.grow {discounts next : Table Discount} (sound : known.Sound shopOf args discounts)
    (grows : discounts.rows ⊆ next.rows) : known.Sound shopOf args next := by
  cases known with
  | nothing => trivial
  | resolved shop => exact sound
  | held shop id => exact ⟨sound.1, grows sound.2⟩

/-- The data that tells a caller the id of its code. -/
def Query.tells : (query : Query) → String → query.Data
  | .discountCodeBasicCreate _, id => some (createdPayload id)
  | .codeDiscountNodeByCode _, id => some id

theorem learned_cases {shop : String} (query : Query) (data : query.Data) :
    Known.learned shop query data = .resolved shop ∨ ∃ id, data = query.tells id ∧ Known.learned shop query data = .held shop id := by
  unfold Known.learned
  split
  · exact .inr ⟨_, rfl, rfl⟩
  · exact .inr ⟨_, rfl, rfl⟩
  · exact .inl rfl

theorem learned_sound {token : OfflineToken} {query : Query} {discounts : Table Discount}
    {answer : Except Thrown (Response query.Data)} (sound : token.shop = shopOf args.merchantId)
    (delivered : ∀ response, answer = .ok response → ∀ data, response.delivers = some data → ∀ id, data = query.tells id →
      ⟨id, token.shop, args.code⟩ ∈ discounts.rows) :
    ((minting args).next (.resolved token.shop) (.fetch token query) answer).Sound shopOf args discounts := by
  cases answer with
  | error error => exact sound
  | ok response =>
    rw [next_fetch]
    cases delivers : response.delivers with
    | none => exact sound
    | some data =>
      rcases @learned_cases token.shop query data with unknown | ⟨id, told, holds⟩
      · rw [Option.elim_some, unknown]
        exact sound
      · rw [Option.elim_some, holds]
        exact ⟨sound, delivered response rfl data delivers id told⟩

/-- The spec of one call of a caller. -/
theorem exec_sound {request : Call} {choice : Choice} {answer : Except Thrown request.Value}
    (sound : known.Sound shopOf args store.discounts) (allowed : (minting args).allowed known request)
    (executed : exec shopOf store request choice = some (answer, after)) :
    store.discounts.rows ⊆ after.discounts.rows ∧
      ((minting args).next known request answer).Sound shopOf args after.discounts ∧
      ∀ entry ∈ after.returned, entry ∈ store.returned ∨ entry.2.code = entry.1.code ∧
        ⟨entry.2.shopifyDiscountId, shopOf entry.1.merchantId, entry.1.code⟩ ∈ store.discounts.rows := by
  cases request with
  | getOfflineToken merchantId =>
    cases executed
    refine ⟨List.Subset.refl _, ?_, fun entry member => .inl member⟩
    cases known with
    | nothing =>
      cases allowed
      cases choice.usable
      · trivial
      · rfl
    | resolved shop =>
      cases allowed
      cases choice.usable
      · exact sound
      · rfl
    | held => exact sound
  | markTokenRevoked merchantId =>
    cases executed
    refine ⟨List.Subset.refl _, ?_, fun entry member => .inl member⟩
    cases known <;> exact sound
  | clock =>
    cases executed
    refine ⟨List.Subset.refl _, ?_, fun entry member => .inl member⟩
    cases known <;> exact sound
  | fetch token query =>
    cases known with
    | nothing | held => exact allowed.elim
    | resolved shop =>
      obtain ⟨rfl, about⟩ := allowed
      cases query with
      | discountCodeBasicCreate input =>
        obtain ⟨grows, same, delivered⟩ := answerCreate_ok executed
        refine ⟨grows, ?_, fun entry member => .inl (same ▸ member)⟩
        rw [show input.code = args.code from about] at delivered
        refine learned_sound sound fun response arrived data delivers id holds => ?_
        exact delivered response arrived id (delivers.trans (congrArg some holds))
      | codeDiscountNodeByCode code =>
        obtain ⟨rfl, delivered⟩ := answerLookup_ok executed
        refine ⟨List.Subset.refl _, ?_, fun entry member => .inl member⟩
        rw [show code = args.code from about] at delivered
        refine learned_sound sound fun response arrived data delivers id holds => ?_
        exact delivered response arrived id (delivers.trans (congrArg some holds))
  | report about result =>
    cases executed
    cases known with
    | nothing | resolved => exact allowed.elim
    | held shop id =>
      obtain ⟨rfl, code, rfl⟩ := allowed
      refine ⟨List.Subset.refl _, sound, fun entry member => ?_⟩
      refine (List.mem_append.mp member).imp_right fun new => ?_
      cases List.mem_singleton.mp new
      exact ⟨code, sound.1 ▸ sound.2⟩

theorem Sound.step (sound : Sound shopOf world) (moved : (machine shopOf maxRetries).step world label = some last) :
    Sound shopOf last := by
  cases label with
  | mint args =>
    cases moved
    exact {
      follows := sound.follows.spawn mintForWorker_obeys
      known := sound.known.spawn trivial
      returned := sound.returned }
  | act slot choice =>
    obtain ⟨task, live, moved⟩ := Option.bind_eq_some_iff.mp moved
    obtain ⟨⟨store, next⟩, advanced, rfl⟩ := Option.map_eq_some_iff.mp moved
    have follows : task.Follows (minting task.tag) fun _ _ => True := sound.follows.get live
    obtain ⟨request, answer, _, allowed, executed, tag, phase, onward⟩ := follows.advance advanced
    obtain ⟨grows, known, returned⟩ := exec_sound (sound.known.get live) allowed executed
    refine ⟨sound.follows.put (by rwa [tag]), ?_, fun entry member => ?_⟩
    · have kept : world.tasks.Every fun task => task.phase.Sound shopOf task.tag store.discounts := fun other member =>
        (sound.known other member).grow grows
      refine kept.put ?_
      rwa [tag, phase]
    · rcases returned entry member with earlier | ⟨code, stored⟩
      · obtain ⟨code, stored⟩ := sound.returned entry earlier
        exact ⟨code, grows stored⟩
      · exact ⟨code, grows stored⟩
  | crash slot =>
    obtain ⟨task, live, rfl⟩ := Option.map_eq_some_iff.mp moved
    exact ⟨sound.follows.clear, sound.known.clear, sound.returned⟩
  | elsewhere shop code id =>
    obtain ⟨⟨payload, discounts⟩, created, rfl⟩ := Option.map_eq_some_iff.mp moved
    have grows := (create?_grows created).1
    refine ⟨sound.follows, fun task member => (sound.known task member).grow grows, fun entry member => ?_⟩
    obtain ⟨code, stored⟩ := sound.returned entry member
    exact ⟨code, grows stored⟩

/-- In every interleaving of callers, retries and lost answers there is one discount for a code, every
caller that succeeds gets its id, and callers for distinct codes get distinct ids. -/
theorem minting_idempotent {origin : World} (idle : origin.tasks = []) (fresh : origin.store.returned = [])
    (reach : (machine shopOf maxRetries).Reach (fun _ _ => True) origin last) :
    (∀ first ∈ last.store.discounts.rows, ∀ second ∈ last.store.discounts.rows,
      first.shop = second.shop → first.code = second.code → first = second) ∧
    (∀ entry ∈ last.store.returned, ∃ discount ∈ last.store.discounts.rows,
      discount.shop = shopOf entry.1.merchantId ∧ discount.code = entry.1.code ∧
        entry.2.code = entry.1.code ∧ entry.2.shopifyDiscountId = discount.id) ∧
    ∀ first ∈ last.store.returned, ∀ second ∈ last.store.returned,
      (shopOf first.1.merchantId = shopOf second.1.merchantId → first.1.code = second.1.code →
        first.2.shopifyDiscountId = second.2.shopifyDiscountId) ∧
      (first.1.code ≠ second.1.code → first.2.shopifyDiscountId ≠ second.2.shopifyDiscountId) := by
  have start : Sound shopOf origin := {
    follows := fun _ member => by simp [idle] at member
    known := fun _ member => by simp [idle] at member
    returned := fun _ member => by simp [fresh] at member }
  have sound := reach.invariant start fun _ _ _ _ moved sound => sound.step moved
  have single : ∀ first ∈ last.store.discounts.rows, ∀ second ∈ last.store.discounts.rows,
      first.shop = second.shop → first.code = second.code → first = second := fun first here second there shop code =>
    last.store.discounts.eq_of_clash here there (by simp [Indexed.clash, Indexed.index, shop, code])
  refine ⟨single, fun entry member => ?_, fun first here second there => ⟨fun shop code => ?_, fun apart same => ?_⟩⟩
  · obtain ⟨code, stored⟩ := sound.returned entry member
    exact ⟨_, stored, rfl, rfl, code, rfl⟩
  · exact congrArg Discount.id (single _ (sound.returned first here).2 _ (sound.returned second there).2 shop code)
  · have equal := last.store.discounts.eq_of_clash (sound.returned first here).2 (sound.returned second there).2
      (by simp [Indexed.clash, Indexed.index, same])
    exact apart (congrArg Discount.code equal)

end Workers

/-- What a caller gets back is what the generation worker's own model of the call gives it. -/
theorem returned_iff {args : CreateWinbackDiscountArgs} {result : CreateWinbackDiscountResult} :
    result.code = args.code ↔ ∃ answer, Generation.createWinbackDiscountCode args answer = .ok result := by
  constructor
  · obtain ⟨code, id, existed⟩ := result
    rintro rfl
    cases existed with
    | true => exact ⟨.taken (some id), rfl⟩
    | false => exact ⟨.created id, rfl⟩
  · rintro ⟨answer, same⟩
    cases answer with
    | created id =>
      cases same
      rfl
    | taken existing =>
      cases existing with
      | none => cases same
      | some id =>
        cases same
        rfl
    | userErrors | unreachable => cases same

section LostAnswer

def codeArgs (code : String) : CreateWinbackDiscountArgs where
  merchantId := "m"
  customerGid := "gid://shopify/Customer/1"
  code
  valuePercent := 10
  endsAt := 0

def delivers {Data : Type} (data : Data) : Option (Response Data) :=
  some { status := 200, json := some { data := some data } }

def created (id : String) : Choice where
  id
  created := delivers (some (createdPayload id))

def taken (id : String) : Choice where
  created := delivers (some takenPayload)
  found := delivers (some id)

/-- A worker whose mutation is carried out and gets no answer, so that the client asks again; its
duplicate; and a worker for another code. -/
def threeWorkers : List Label :=
  [.mint (codeArgs "WB-1"), .act 0 {}, .act 0 {}, .act 0 { id := "d1" }] ++ List.replicate 4 (.act 0 (taken "d1")) ++
    .mint (codeArgs "WB-1") :: List.replicate 6 (.act 1 (taken "d1")) ++
    .mint (codeArgs "WB-2") :: List.replicate 4 (.act 2 (created "d2"))

def minted? (labels : List Label) : Option World :=
  (machine (fun merchantId => merchantId ++ ".myshopify.com") 3).runWhere (fun _ _ => true) ⟨{}, []⟩ labels

theorem threeWorkers_mint : (minted? threeWorkers).isSome = true := by decide

theorem minting_idempotent_lost_answer : ∃ last, minted? threeWorkers = some last ∧
    last.store.returned.map (fun entry => (entry.1.code, entry.2.shopifyDiscountId, entry.2.alreadyExisted)) =
      [("WB-1", "d1", true), ("WB-1", "d1", true), ("WB-2", "d2", false)] ∧
    (∀ first ∈ last.store.discounts.rows, ∀ second ∈ last.store.discounts.rows,
      first.shop = second.shop → first.code = second.code → first = second) ∧
    ∀ entry ∈ last.store.returned, ∃ discount ∈ last.store.discounts.rows,
      discount.shop = entry.1.merchantId ++ ".myshopify.com" ∧ discount.code = entry.1.code ∧
        entry.2.code = entry.1.code ∧ entry.2.shopifyDiscountId = discount.id :=
  have idempotent := minting_idempotent rfl rfl ((Machine.reach_get threeWorkers_mint).mono fun _ _ _ => trivial)
  ⟨_, (Option.some_get threeWorkers_mint).symm, by decide, idempotent.1, idempotent.2.1⟩

end LostAnswer

end WinBack.Shopify
