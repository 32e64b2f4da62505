import WinBack.Compliance.ShopRedact
import Mathlib.Data.Fintype.EquivFin

/-! What the redaction of a shop leaves, whatever is cut short and started again. -/

namespace WinBack.ShopRedact

open Library Library.Relational Tenant

variable {Rest : Type} {args : ProcessShopRedactArgs} {merchantId : MerchantId} {shop : String} {db next : Database Rest}
  {rows : List (ShopRow Rest)} {row : ShopRow Rest} {seed : ShopRow Rest → Bool} {model : Model}

/-- What a completed call deletes by itself, whatever its chunks took before. -/
def doomed (merchantId : MerchantId) (shop : String) (row : ShopRow Rest) : Bool :=
  isMerchant merchantId row || ofShop shop row

section Schema

theorem cascades_of_tenantScoped (owned : model ∈ tenantScopedModels) :
    schema.onDelete model .merchantId = some .cascade := by
  cases model <;> first | rfl | (revert owned; decide)

theorem tenantScoped_of_cascades {column : Reference} (cascades : schema.onDelete model column = some .cascade) :
    model ∈ tenantScopedModels := by
  cases model <;> first | decide | (cases column <;> cases cascades)

/-- No column refers to sessions or to logs. -/
theorem resolves_leaf {column : Reference} {id : String} (leaf : row.model ∈ unscopedModels ∨ row.model ∈ tenantOptionalReadModels) :
    schema.resolves column id row = false := by
  have apart : row.model ≠ schema.target column := by
    intro same
    rw [same] at leaf
    cases column <;> revert leaf <;> decide
  simp [Schema.resolves, apart]

/-- No deletion reaches a merchant by a cascade. -/
theorem falls_merchant (root : row.model = .merchant) (fell : schema.Falls rows seed row) : seed row = true := by
  cases fell with
  | seed chosen => exact chosen
  | child _ linked _ =>
    obtain ⟨column, _, _, cascades, _⟩ := Schema.refers_iff.mp linked
    rw [root] at cascades
    cases cascades

theorem kept_merchant (stored : row ∈ rows) (root : row.model = .merchant) (spared : seed row = false) :
    schema.detach rows seed row ∈ schema.erase rows seed := by
  refine Schema.mem_erase.mpr ⟨row, stored, ?_, rfl⟩
  intro fell
  rw [falls_merchant root fell] at spared
  cases spared

/-- The merchant of a row of a tenant table exists, and takes the row along. -/
theorem falls_of_inTable (owned : model ∈ tenantScopedModels) (stored : row ∈ db.rows)
    (named : inTable merchantId model row = true) : schema.Falls db.rows (doomed merchantId shop) row := by
  rw [inTable, Bool.and_eq_true, beq_iff_eq, beq_iff_eq] at named
  obtain ⟨same, link⟩ := named
  have cascades : schema.onDelete row.model .merchantId = some .cascade := by
    rw [same]
    exact cascades_of_tenantScoped owned
  obtain ⟨parent, there, resolved⟩ := (db.sound row stored .merchantId (schema.complete _) _ cascades).2 _ link
  have root : isMerchant merchantId parent = true := resolved
  refine .child there (Schema.refers_iff.mpr ⟨.merchantId, _, link, cascades, resolved⟩) (.seed ?_)
  rw [doomed, root, Bool.true_or]

end Schema

section Statements

/-- One transaction on a table deletes rows of the tenant from it, and some when there is more. -/
theorem chunkedDeleteTenant_ok {batchSize : Nat} {ids : List String} {more : Bool} (positive : 1 ≤ batchSize)
    (owned : model ∈ tenantScopedModels)
    (ran : chunkedDeleteTenant merchantId batchSize model ids db = some (next, more)) :
    ∃ seed, next.rows = schema.erase db.rows seed ∧
      (∀ row, seed row = true → inTable merchantId model row = true) ∧
      (more = true → next.rows.length < db.rows.length) := by
  have named : (tenantWhere merchantId).get "merchantId" = some (.str merchantId) := tenantWhere_get
  unfold chunkedDeleteTenant at ran
  split at ran
  · -- a table of one row for each merchant
    split at ran
    · rw [deleteMany_owned owned named] at ran
      cases ran
      refine ⟨_, rfl, ?_, nofun⟩
      intro row
      rw [meets_tenantWhere]
      exact id
    · cases ran
  · rw [findMany_tenant owned] at ran
    dsimp only at ran
    split at ran
    · rename_i batch
      split at ran
      · -- nothing was found, and a batch is not empty
        have done : (0 == batchSize) = false := by
          rw [beq_eq_false_iff_ne]
          omega
        cases ran
        refine ⟨fun _ => false, ?_, ?_, ?_⟩
        · have none : ∀ row ∈ db.rows, ¬schema.Falls db.rows (fun _ => false) row := by
            intro row _ fell
            exact fell.closed (fun _ => Bool.false_ne_true) fun _ _ _ _ taken => taken
          exact (Schema.erase_eq_self none).symm
        · intro row chosen
          cases chosen
        · intro more
          rw [done] at more
          cases more
      · rename_i some_
        have key : keyColumn model = "id" ∨ keyColumn model = "key" := by
          unfold keyColumn
          split
          · exact .inr rfl
          · exact .inl rfl
        have apart : keyColumn model ≠ "merchantId" := by
          rcases key with same | same
          all_goals
            rw [same]
            decide
        rw [deleteMany_owned owned (batchWhere_get apart), meets_batchWhere key] at ran
        cases ran
        refine ⟨_, rfl, ?_, ?_⟩
        · intro row both
          rw [Bool.and_eq_true] at both
          exact both.1
        · intro _
          obtain ⟨id, rest, rfl⟩ := List.exists_cons_of_ne_nil some_
          obtain ⟨row, listed, same⟩ := List.mem_map.mp (batch.1.subset List.mem_cons_self)
          obtain ⟨stored, shown⟩ := List.mem_filter.mp listed
          refine Schema.length_erase_lt stored (.seed ?_)
          rw [visible, Bool.and_eq_true] at shown
          rw [inTable, shown.1, same]
          simp
    · cases ran

theorem deleteMany_sessions :
    deleteMany redactReason .session (shopWhere shop) db = .ok (db.delete (ofShop shop)) := by
  have passes : applyWriteHooks (some redactReason) .session { where_ := some (shopWhere shop) } .deleteMany =
      .ok { where_ := some (shopWhere shop) } := rfl
  have same : @meets Rest .session (some (shopWhere shop)) = ofShop shop := by
    funext row
    simp [meets, ofShop, shopWhere, accepts]
  rw [deleteMany, passes]
  simp only [Except.map, same]

theorem findByShop_eq_none (missing : findByShop shop db = none) : ∀ row ∈ db.rows, isMerchantOf shop row = false := by
  intro row stored
  rw [findByShop, Option.map_eq_none_iff, List.find?_eq_none] at missing
  rw [← Bool.not_eq_true]
  exact missing row stored

theorem findByShop_eq_some (found : findByShop shop db = some merchantId) :
    ∃ row ∈ db.rows, isMerchant merchantId row = true ∧ isMerchantOf shop row = true := by
  obtain ⟨row, first, rfl⟩ := Option.map_eq_some_iff.mp found
  have holds := List.find?_some first
  refine ⟨row, List.mem_of_find?_eq_some first, ?_, holds⟩
  rw [isMerchantOf, Bool.and_eq_true] at holds
  simp [isMerchant, holds.1]

end Statements

section Trail

/-- An audit of a call, whose merchant is gone. -/
def IsTrail (args : ProcessShopRedactArgs) (merchantId : MerchantId) (row : ShopRow Rest) : Prop :=
  ∃ id log, (log = idempotentAudit args ∨ log = shopRedactAudit args merchantId) ∧
    row = auditRow id { log with merchantId := none }

variable {log : AuditLog} {id : String}

theorem detach_auditRow (owned : ∀ owner ∈ log.merchantId, owner = merchantId ∧ ∃ parent ∈ rows, isMerchant merchantId parent = true) :
    schema.detach rows (doomed merchantId shop) (auditRow id log) = auditRow id { log with merchantId := none } := by
  have links : (schema.detach rows (doomed merchantId shop) (auditRow id log)).links =
      (@auditRow Rest id { log with merchantId := none }).links := by
    funext column
    cases column with
    | merchantId =>
      apply Option.ext
      intro owner
      rw [Schema.links_detach]
      constructor
      · intro ⟨held, kept⟩
        obtain ⟨rfl, parent, stored, root⟩ := owned owner held
        exact absurd ⟨rfl, parent, stored, root, .seed (by rw [doomed, root, Bool.true_or])⟩ kept
      · intro held
        cases held
    | _ => rfl
  exact congrArg (fun links => { auditRow id log with links }) links

theorem not_falls_auditRow : ¬schema.Falls rows (doomed merchantId shop) (auditRow id log) := by
  intro fell
  cases fell with
  | seed chosen => simp [doomed, isMerchant, ofShop, auditRow] at chosen
  | child _ linked _ =>
    obtain ⟨column, _, _, cascades, _⟩ := Schema.refers_iff.mp linked
    cases column <;> cases cascades

theorem append_erased (owned : ∀ owner ∈ log.merchantId, owner = merchantId ∧ ∃ parent ∈ db.rows, isMerchant merchantId parent = true)
    (added : append log id db = some next) :
    schema.erase next.rows (doomed merchantId shop) =
      schema.erase db.rows (doomed merchantId shop) ++ [auditRow id { log with merchantId := none }] := by
  have leaf (column : Reference) (target : String) : schema.resolves column target (@auditRow Rest id log) = false := by
    apply resolves_leaf
    right
    exact List.mem_cons_of_mem _ List.mem_cons_self
  rw [(Store.insert?_iff.mp added).2, Schema.erase_append leaf not_falls_auditRow, detach_auditRow owned]

/-- Some id is free, and a log whose merchant exists can be appended. -/
theorem exists_append (owned : ∀ owner ∈ log.merchantId, ∃ parent ∈ db.rows, isMerchant owner parent = true) :
    ∃ id next, append log id db = some next := by
  obtain ⟨id, fresh⟩ := Infinite.exists_notMem_finset (db.rows.map (·.id)).toFinset
  rw [List.mem_toFinset, List.mem_map] at fresh
  have apart : ∀ other ∈ db.rows, Apart uniqueKeys other (auditRow id log) := by
    intro other stored key held shared
    have same : key = .id .auditLog id := List.mem_singleton.mp shared
    rw [same] at held
    exact fresh ⟨other, stored, id_of_uniqueKeys held⟩
  have sound : Sound schema db.rows (auditRow id log) := by
    intro column _ policy declared
    cases column with
    | merchantId =>
      cases declared
      refine ⟨fun _ => rfl, ?_⟩
      intro owner held
      exact owned owner held
    | _ => cases declared
  exact ⟨id, Store.exists_insert? apart sound⟩

end Trail

section Runs

/-- The merchant has its row. -/
def Present (merchantId : MerchantId) (db : Database Rest) : Prop := ∃ row ∈ db.rows, isMerchant merchantId row = true

/-- Where a call of the shop can stand. -/
def Stands (args : ProcessShopRedactArgs) (merchantId : MerchantId) (db : Database Rest) : Phase → Prop
  | .idle => True
  | .found none => ∀ row ∈ db.rows, isMerchantOf args.shop row = false
  | .found (some id) => id = merchantId ∧ Present merchantId db
  | .purging id tables => id = merchantId ∧ Present merchantId db ∧ ∀ table ∈ tables, table ∈ tenantScopedModels
  | .deleting id => id = merchantId ∧ Present merchantId db ∧ ∀ row ∈ db.rows, ofShop args.shop row = false
  | .returned => ∀ row ∈ db.rows, isMerchant merchantId row = false

/-- What calls for the shop of a merchant keep, from one transaction to the next. -/
structure Redacting (args : ProcessShopRedactArgs) (merchantId : MerchantId) (origin : Database Rest) (world : World Rest) :
    Prop where
  erased : ∃ trail, schema.erase world.db.rows (doomed merchantId args.shop) =
    schema.erase origin.rows (doomed merchantId args.shop) ++ trail ∧ ∀ row ∈ trail, IsTrail args merchantId row
  merchant : ∀ row ∈ world.db.rows, isMerchantOf args.shop row = isMerchant merchantId row
  sessions : Present merchantId world.db ∨ ∀ row ∈ world.db.rows, ofShop args.shop row = false
  stands : Stands args merchantId world.db world.phase

variable {origin : Database Rest} {world : World Rest} {phase : Phase}

theorem redacting_start (found : findByShop args.shop origin = some merchantId) :
    Redacting args merchantId origin ⟨origin, .idle⟩ where
  erased := ⟨[], (List.append_nil _).symm, fun _ listed => absurd listed List.not_mem_nil⟩
  merchant row stored := by
    obtain ⟨named, there, root, kept⟩ := findByShop_eq_some found
    simp only [isMerchant, isMerchantOf, Bool.and_eq_true, beq_iff_eq] at root kept
    rw [Bool.eq_iff_iff, isMerchantOf, isMerchant, Bool.and_eq_true, Bool.and_eq_true, beq_iff_eq, beq_iff_eq, beq_iff_eq,
      and_congr_right_iff]
    intro model
    constructor
    · intro shop
      have same : row = named := by
        refine origin.eq_of_key stored there (?_ : UniqueKey.shop args.shop ∈ _) ?_
        · rw [model]
          exact shop_uniqueKeys shop
        · rw [root.1]
          exact shop_uniqueKeys kept.2
      rw [same, root.2]
    · intro id
      have same : row = named := by
        refine origin.eq_of_key stored there (?_ : UniqueKey.id .merchant merchantId ∈ _) ?_
        · simp [model, id, uniqueKeys]
        · simp [root, uniqueKeys]
      rw [same, kept.2]
  sessions := by
    obtain ⟨named, there, root, _⟩ := findByShop_eq_some found
    exact .inl ⟨named, there, root⟩
  stands := trivial

/-- A deletion of what the call would delete anyway. -/
theorem Redacting.delete (keeps : Redacting args merchantId origin world)
    (rows : next.rows = schema.erase world.db.rows seed)
    (smaller : ∀ row ∈ world.db.rows, seed row = true → schema.Falls world.db.rows (doomed merchantId args.shop) row)
    (sessions : Present merchantId next ∨ ∀ row ∈ next.rows, ofShop args.shop row = false)
    (stands : Stands args merchantId next phase) : Redacting args merchantId origin ⟨next, phase⟩ where
  erased := by
    have same : schema.erase next.rows (doomed merchantId args.shop) =
        schema.erase world.db.rows (doomed merchantId args.shop) := by
      rw [rows]
      exact Schema.erase_absorb (fun _ _ => rfl) smaller
    dsimp only
    rw [same]
    exact keeps.erased
  merchant row stored := by
    dsimp only at stored
    rw [rows] at stored
    obtain ⟨earlier, present, _, rfl⟩ := Schema.mem_erase.mp stored
    exact keeps.merchant earlier present
  sessions := sessions
  stands := stands

/-- The merchant outlives a deletion of other rows. -/
theorem Present.kept (present : Present merchantId db) (rows : next.rows = schema.erase db.rows seed)
    (spares : ∀ row, row.model = .merchant → seed row = false) : Present merchantId next := by
  obtain ⟨row, stored, root⟩ := present
  have model : row.model = .merchant := by
    rw [isMerchant, Bool.and_eq_true, beq_iff_eq] at root
    exact root.1
  refine ⟨schema.detach db.rows seed row, ?_, root⟩
  rw [rows]
  exact kept_merchant stored model (spares row model)

theorem Redacting.append {log : AuditLog} {id : String} (keeps : Redacting args merchantId origin world)
    (known : log = idempotentAudit args ∨ log = shopRedactAudit args merchantId ∧ Present merchantId world.db)
    (added : append log id world.db = some next) (stands : Stands args merchantId next phase) :
    Redacting args merchantId origin ⟨next, phase⟩ := by
  have rows : next.rows = world.db.rows ++ [auditRow id log] := (Store.insert?_iff.mp added).2
  have owned : ∀ owner ∈ log.merchantId, owner = merchantId ∧ ∃ parent ∈ world.db.rows, isMerchant merchantId parent = true := by
    rintro owner held
    rcases known with rfl | ⟨rfl, present⟩
    · cases held
    · cases held
      exact ⟨rfl, present⟩
  constructor
  · obtain ⟨trail, earlier, marked⟩ := keeps.erased
    refine ⟨trail ++ [auditRow id { log with merchantId := none }], ?_, ?_⟩
    · dsimp only
      rw [append_erased owned added, earlier, List.append_assoc]
    · intro row listed
      rcases List.mem_append.mp listed with old | last
      · exact marked row old
      · rw [List.mem_singleton.mp last]
        rcases known with first | ⟨second, _⟩
        · exact ⟨id, log, .inl first, rfl⟩
        · exact ⟨id, log, .inr second, rfl⟩
  · intro row stored
    dsimp only at stored
    rw [rows] at stored
    rcases List.mem_append.mp stored with old | last
    · exact keeps.merchant row old
    · rw [List.mem_singleton.mp last]
      rfl
  · dsimp only
    rcases keeps.sessions with ⟨row, stored, root⟩ | gone
    · refine .inl ⟨row, ?_, root⟩
      rw [rows]
      exact List.mem_append_left _ stored
    · right
      intro row stored
      rw [rows] at stored
      rcases List.mem_append.mp stored with old | last
      · exact gone row old
      · rw [List.mem_singleton.mp last]
        rfl
  · exact stands

/-- How many transactions a call has still to commit, at most. -/
def World.work (world : World Rest) : Nat :=
  match world.phase with
  | .idle | .returned => 0
  | .found none | .deleting _ => 1
  | .found (some _) => world.db.rows.length + shopRedactTablesInOrder.length + 4
  | .purging _ tables => world.db.rows.length + tables.length + 2

theorem lookup_keeps (keeps : Redacting args merchantId origin ⟨db, phase⟩) :
    Redacting args merchantId origin ⟨db, .found (findByShop args.shop db)⟩ where
  erased := keeps.erased
  merchant := keeps.merchant
  sessions := keeps.sessions
  stands := by
    dsimp only
    cases found : findByShop args.shop db with
    | none => exact findByShop_eq_none found
    | some id =>
      obtain ⟨row, stored, root, named⟩ := findByShop_eq_some found
      rw [keeps.merchant row stored] at named
      refine ⟨?_, row, stored, named⟩
      simp only [isMerchant, Bool.and_eq_true, beq_iff_eq] at root named
      rw [← root.2, named.2]

theorem idempotent_keeps {id : String} (keeps : Redacting args merchantId origin ⟨db, .found none⟩)
    (added : append (idempotentAudit args) id db = some next) :
    Redacting args merchantId origin ⟨next, .returned⟩ := by
  refine keeps.append (.inl rfl) added ?_
  intro row stored
  rw [(Store.insert?_iff.mp added).2] at stored
  rcases List.mem_append.mp stored with old | last
  · rw [← keeps.merchant row old]
    exact keeps.stands row old
  · rw [List.mem_singleton.mp last]
    rfl

theorem audit_keeps {id : String} (keeps : Redacting args merchantId origin ⟨db, .found (some merchantId)⟩)
    (added : append (shopRedactAudit args merchantId) id db = some next) :
    Redacting args merchantId origin ⟨next, .purging merchantId shopRedactTablesInOrder⟩ := by
  obtain ⟨_, row, stored, root⟩ := keeps.stands
  refine keeps.append (.inr ⟨rfl, row, stored, root⟩) added ⟨rfl, ⟨row, ?_, root⟩, ?_⟩
  · rw [(Store.insert?_iff.mp added).2]
    exact List.mem_append_left _ stored
  · intro table listed
    exact (mem_shopRedactTables table).mp listed

theorem chunk_keeps {table : Model} {tables : List Model} {ids : List String} {more : Bool} (positive : 1 ≤ args.batchSize)
    (keeps : Redacting args merchantId origin ⟨db, .purging merchantId (table :: tables)⟩)
    (ran : chunkedDeleteTenant merchantId args.batchSize table ids db = some (next, more)) :
    Redacting args merchantId origin ⟨next, .purging merchantId (if more then table :: tables else tables)⟩ ∧
      next.rows.length ≤ db.rows.length ∧ (more = true → next.rows.length < db.rows.length) := by
  obtain ⟨_, present, listed⟩ := keeps.stands
  have owned := listed table List.mem_cons_self
  obtain ⟨seed, rows, narrow, fewer⟩ := chunkedDeleteTenant_ok positive owned ran
  have survives : Present merchantId next := by
    refine present.kept rows ?_
    intro row root
    rw [← Bool.not_eq_true]
    intro chosen
    have named := narrow row chosen
    rw [inTable, Bool.and_eq_true, beq_iff_eq, root] at named
    exact (tenanted_of_tenantScoped owned).2.1 named.1.symm
  have smaller : ∀ row ∈ db.rows, seed row = true → schema.Falls db.rows (doomed merchantId args.shop) row := by
    intro row stored chosen
    exact falls_of_inTable owned stored (narrow row chosen)
  refine ⟨keeps.delete rows smaller (.inl survives) ⟨rfl, survives, ?_⟩, ?_, fewer⟩
  · intro other member
    split at member
    · exact listed other member
    · exact listed other (List.mem_cons_of_mem _ member)
  · rw [rows]
    exact Schema.length_erase_le

theorem sessions_keeps (keeps : Redacting args merchantId origin ⟨db, .purging merchantId []⟩) :
    Redacting args merchantId origin ⟨db.delete (ofShop args.shop), .deleting merchantId⟩ := by
  obtain ⟨_, present, _⟩ := keeps.stands
  have survives : Present merchantId (db.delete (ofShop args.shop)) := by
    refine present.kept rfl ?_
    intro row root
    simp [ofShop, root]
  have smaller : ∀ row ∈ db.rows, ofShop args.shop row = true →
      schema.Falls db.rows (doomed merchantId args.shop) row := by
    intro row _ chosen
    exact .seed (by rw [doomed, chosen, Bool.or_true])
  have gone : ∀ row ∈ (db.delete (ofShop args.shop)).rows, ofShop args.shop row = false := by
    intro row stored
    obtain ⟨earlier, _, kept, rfl⟩ := Schema.mem_erase.mp stored
    rw [← Bool.not_eq_true]
    intro chosen
    exact kept (.seed chosen)
  exact keeps.delete rfl smaller (.inr gone) ⟨rfl, survives, gone⟩

theorem hardDelete_keeps (keeps : Redacting args merchantId origin ⟨db, .deleting merchantId⟩)
    (ran : hardDelete merchantId db = some next) : Redacting args merchantId origin ⟨next, .returned⟩ := by
  obtain ⟨_, _, none⟩ := keeps.stands
  unfold hardDelete at ran
  split at ran
  · cases ran
    have smaller : ∀ row ∈ db.rows, isMerchant merchantId row = true →
        schema.Falls db.rows (doomed merchantId args.shop) row := by
      intro row _ chosen
      exact .seed (by rw [doomed, chosen, Bool.true_or])
    refine keeps.delete rfl smaller (.inr ?_) ?_
    · intro row stored
      obtain ⟨earlier, there, _, rfl⟩ := Schema.mem_erase.mp stored
      exact none earlier there
    · intro row stored
      obtain ⟨earlier, _, kept, rfl⟩ := Schema.mem_erase.mp stored
      rw [← Bool.not_eq_true]
      intro chosen
      exact kept (.seed chosen)
  · cases ran

/-- Every label keeps what calls keep, and every transaction of a call brings its end nearer. -/
theorem step_keeps {final : World Rest} {label : Label} (positive : 1 ≤ args.batchSize)
    (keeps : Redacting args merchantId origin world) (moved : step args world label = some final) :
    Redacting args merchantId origin final ∧ (label.onward = true → final.work < world.work) := by
  obtain ⟨db, phase⟩ := world
  cases label with
  | crash =>
    cases moved
    exact ⟨⟨keeps.erased, keeps.merchant, keeps.sessions, trivial⟩, nofun⟩
  | start =>
    cases phase with
    | idle | returned =>
      cases moved
      exact ⟨lookup_keeps keeps, nofun⟩
    | found _ | purging _ _ | deleting _ => cases moved
  | audit id =>
    cases phase with
    | found looked =>
      cases looked with
      | none =>
        obtain ⟨next, added, rfl⟩ := Option.map_eq_some_iff.mp moved
        exact ⟨idempotent_keeps keeps added, fun _ => Nat.one_pos⟩
      | some owner =>
        obtain ⟨next, added, rfl⟩ := Option.map_eq_some_iff.mp moved
        obtain rfl : owner = merchantId := keeps.stands.1
        refine ⟨audit_keeps keeps added, fun _ => ?_⟩
        have longer : next.rows.length = db.rows.length + 1 := by
          rw [(Store.insert?_iff.mp added).2, List.length_append, List.length_singleton]
        change next.rows.length + shopRedactTablesInOrder.length + 2 < db.rows.length + shopRedactTablesInOrder.length + 4
        omega
    | idle | returned | purging _ _ | deleting _ => cases moved
  | chunk ids =>
    cases phase with
    | purging owner tables =>
      cases tables with
      | nil => cases moved
      | cons table tables =>
        obtain ⟨⟨next, more⟩, ran, rfl⟩ := Option.map_eq_some_iff.mp moved
        obtain rfl : owner = merchantId := keeps.stands.1
        obtain ⟨kept, most, fewer⟩ := chunk_keeps positive keeps ran
        refine ⟨kept, fun _ => ?_⟩
        change next.rows.length + (if more then table :: tables else tables).length + 2 <
          db.rows.length + (tables.length + 1) + 2
        cases more with
        | true =>
          have less := fewer rfl
          simp only [if_true, List.length_cons]
          omega
        | false =>
          simp only [Bool.false_eq_true, if_false]
          omega
    | idle | found _ | returned | deleting _ => cases moved
  | sessions =>
    cases phase with
    | purging owner tables =>
      cases tables with
      | cons table tables => cases moved
      | nil =>
        simp only [step, deleteMany_sessions] at moved
        cases moved
        obtain rfl : owner = merchantId := keeps.stands.1
        refine ⟨sessions_keeps keeps, fun _ => ?_⟩
        change 1 < db.rows.length + 0 + 2
        omega
    | idle | found _ | returned | deleting _ => cases moved
  | merchant =>
    cases phase with
    | deleting owner =>
      obtain ⟨next, ran, rfl⟩ := Option.map_eq_some_iff.mp moved
      obtain rfl : owner = merchantId := keeps.stands.1
      exact ⟨hardDelete_keeps keeps ran, fun _ => Nat.one_pos⟩
    | idle | found _ | returned | purging _ _ => cases moved

theorem exists_chunk {batchSize : Nat} (owned : model ∈ tenantScopedModels) :
    ∃ ids result, chunkedDeleteTenant merchantId batchSize model ids db = some result := by
  have named : (tenantWhere merchantId).get "merchantId" = some (.str merchantId) := tenantWhere_get
  by_cases single : oneToOne model = true
  · refine ⟨[], (db.delete (meets model (some (tenantWhere merchantId))), false), ?_⟩
    rw [chunkedDeleteTenant, if_pos single, if_pos rfl, deleteMany_owned owned named]
    rfl
  · let found := (db.rows.filter (visible merchantId model)).map (·.id)
    have batch : Batch batchSize found (found.take batchSize) :=
      ⟨(List.take_sublist batchSize found).subperm, List.length_take⟩
    refine ⟨found.take batchSize, ?_⟩
    rw [chunkedDeleteTenant, if_neg single, findMany_tenant owned]
    dsimp only
    rw [if_pos batch]
    split
    · exact ⟨_, rfl⟩
    · have apart : keyColumn model ≠ "merchantId" := by
        unfold keyColumn
        split <;> decide
      rw [deleteMany_owned owned (batchWhere_get apart)]
      exact ⟨_, rfl⟩

/-- A call that has not returned can commit its next transaction. -/
theorem progress (keeps : Redacting args merchantId origin world) (busy : world.phase ≠ .idle)
    (unfinished : world.phase ≠ .returned) :
    ∃ label later, label.onward = true ∧ step args world label = some later ∧ later.phase ≠ .idle := by
  obtain ⟨db, phase⟩ := world
  cases phase with
  | idle => exact absurd rfl busy
  | returned => exact absurd rfl unfinished
  | found looked =>
    cases looked with
    | none =>
      obtain ⟨id, next, added⟩ := @exists_append Rest db (idempotentAudit args) nofun
      exact ⟨.audit id, ⟨next, .returned⟩, rfl, Option.map_eq_some_iff.mpr ⟨next, added, rfl⟩, nofun⟩
    | some owner =>
      obtain ⟨rfl, present⟩ := keeps.stands
      have named : ∀ named ∈ (shopRedactAudit args owner).merchantId, ∃ parent ∈ db.rows, isMerchant named parent = true := by
        intro named held
        cases held
        exact present
      obtain ⟨id, next, added⟩ := exists_append named
      exact ⟨.audit id, ⟨next, .purging owner shopRedactTablesInOrder⟩, rfl,
        Option.map_eq_some_iff.mpr ⟨next, added, rfl⟩, nofun⟩
  | purging owner tables =>
    obtain ⟨rfl, present, listed⟩ := keeps.stands
    cases tables with
    | nil =>
      exact ⟨.sessions, ⟨db.delete (ofShop args.shop), .deleting owner⟩, rfl, by rw [step, deleteMany_sessions]; rfl,
        nofun⟩
    | cons table tables =>
      obtain ⟨ids, ⟨next, more⟩, ran⟩ :=
        @exists_chunk Rest owner db table args.batchSize (listed table List.mem_cons_self)
      exact ⟨.chunk ids, ⟨next, .purging owner (if more then table :: tables else tables)⟩, rfl,
        Option.map_eq_some_iff.mpr ⟨(next, more), ran, rfl⟩, nofun⟩
  | deleting owner =>
    obtain ⟨rfl, ⟨row, stored, root⟩, _⟩ := keeps.stands
    have ran : hardDelete owner db = some (db.delete (isMerchant owner)) :=
      if_pos (List.any_eq_true.mpr ⟨row, stored, root⟩)
    exact ⟨.merchant, ⟨db.delete (isMerchant owner), .returned⟩, rfl,
      Option.map_eq_some_iff.mpr ⟨_, ran, rfl⟩, nofun⟩

/-- A call commits a bounded number of transactions. -/
theorem onward_bounded (positive : 1 ≤ args.batchSize) (labels : List Label) {later : World Rest}
    (keeps : Redacting args merchantId origin world)
    (ran : (machine args).runWhere (fun _ label => label.onward) world labels = some later) :
    labels.length + later.work ≤ world.work ∧ Redacting args merchantId origin later := by
  induction labels generalizing world with
  | nil =>
    cases ran
    exact ⟨by simp, keeps⟩
  | cons label rest ih =>
    simp only [Machine.runWhere] at ran
    split at ran
    · rename_i onward
      split at ran
      · rename_i middle moved
        obtain ⟨kept, less⟩ := step_keeps positive keeps moved
        obtain ⟨bound, last⟩ := ih kept ran
        have nearer := less onward
        refine ⟨?_, last⟩
        rw [List.length_cons]
        omega
      · cases ran
    · cases ran

/-- A call that nothing cuts short returns. -/
theorem onward_returns (positive : 1 ≤ args.batchSize) (keeps : Redacting args merchantId origin world)
    (busy : world.phase ≠ .idle) :
    ∃ labels later, (machine args).runWhere (fun _ label => label.onward) world labels = some later ∧
      later.phase = .returned := by
  induction work : world.work using Nat.strongRecOn generalizing world with
  | _ bound ih =>
    by_cases finished : world.phase = .returned
    · exact ⟨[], world, rfl, finished⟩
    · obtain ⟨label, next, onward, moved, going⟩ := progress keeps busy finished
      obtain ⟨kept, less⟩ := step_keeps positive keeps moved
      obtain ⟨labels, later, ran, returned⟩ := ih next.work (work ▸ less onward) kept going rfl
      refine ⟨label :: labels, later, ?_, returned⟩
      have steps : (machine args).step world label = some next := moved
      rw [Machine.runWhere, if_pos onward, steps]
      exact ran

theorem reach_keeps {final : World Rest} {allowed : World Rest → Label → Prop} (positive : 1 ≤ args.batchSize)
    (found : findByShop args.shop origin = some merchantId)
    (reach : Machine.Reach (machine args) allowed ⟨origin, .idle⟩ final) : Redacting args merchantId origin final :=
  reach.invariant (redacting_start found) fun _ _ _ _ moved keeps => (step_keeps positive keeps moved).1

end Runs

end WinBack.ShopRedact
