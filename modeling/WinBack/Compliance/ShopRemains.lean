import WinBack.Compliance.ShopErasure

/-! What is left when the redaction of a shop has returned: nothing of the merchant but
its logs, and the rows of the other merchants as far as they keep to themselves. -/

namespace WinBack.ShopRedact

open Library Library.Relational Tenant

variable {Rest : Type} {args : ProcessShopRedactArgs} {merchantId other : MerchantId} {shop : String}
  {db origin : Database Rest} {row parent : ShopRow Rest} {final : World Rest}

/-- The row as it is once its merchant is gone. -/
def orphaned (merchantId : MerchantId) (row : ShopRow Rest) : ShopRow Rest := { row with
  links := fun column => (row.links column).filter fun id => !(column == .merchantId && id == merchantId) }

/-- No row of another merchant refers to a row of this one. -/
def Isolated (merchantId : MerchantId) (db : Database Rest) : Prop :=
  ∀ other, other ≠ merchantId → ∀ row ∈ db.rows, ofMerchant other row = true →
    ∀ parent ∈ db.rows, ofMerchant merchantId parent = true → ∀ policy, schema.refers policy row parent = false

/-- The rows of every other merchant are the same. -/
def OthersUnchanged (merchantId : MerchantId) (before after : List (ShopRow Rest)) : Prop :=
  ∀ other, other ≠ merchantId → after.filter (ofMerchant other) = before.filter (ofMerchant other)

theorem ofMerchant_iff {owner : MerchantId} :
    ofMerchant owner row = true ↔
      row.model = .merchant ∧ row.id = owner ∨ row.model.tenanted = true ∧ row.links .merchantId = some owner := by
  simp [ofMerchant]

theorem ofMerchant_of_isMerchant (root : isMerchant merchantId row = true) : ofMerchant merchantId row = true := by
  rw [isMerchant, Bool.and_eq_true, beq_iff_eq, beq_iff_eq] at root
  exact ofMerchant_iff.mpr (.inl root)

/-- A row belongs to one merchant. -/
theorem ofMerchant_unique {owner : MerchantId} (one : ofMerchant owner row = true) (two : ofMerchant other row = true) :
    owner = other := by
  rcases ofMerchant_iff.mp one with ⟨root, id⟩ | ⟨tenanted, link⟩
  · rcases ofMerchant_iff.mp two with ⟨_, same⟩ | ⟨tenanted, _⟩
    · rw [← id, same]
    · rw [root] at tenanted
      cases tenanted
  · rcases ofMerchant_iff.mp two with ⟨root, _⟩ | ⟨_, same⟩
    · rw [root] at tenanted
      cases tenanted
    · exact Option.some.inj (link.symm.trans same)

/-- What is doomed and can be referred to is the merchant. -/
theorem doomed_merchant (root : row.model = .merchant) (chosen : doomed merchantId shop row = true) :
    isMerchant merchantId row = true := by
  simpa [doomed, ofShop, root] using chosen

section Isolation

/-- A row of a tenant table names its merchant. -/
theorem owner_of_tenantScoped (stored : row ∈ db.rows) (owned : row.model ∈ tenantScopedModels) :
    ∃ owner, ofMerchant owner row = true := by
  have required := (db.sound row stored .merchantId (schema.complete _) _ (cascades_of_tenantScoped owned)).1
  cases link : row.links .merchantId with
  | none => cases required link
  | some owner => exact ⟨owner, ofMerchant_iff.mpr (.inr ⟨(tenanted_of_tenantScoped owned).2.2, link⟩)⟩

theorem owned_of_falls (isolated : Isolated merchantId db) (stored : row ∈ db.rows)
    (fell : schema.Falls db.rows (doomed merchantId shop) row) :
    ofMerchant merchantId row = true ∨ ofShop shop row = true := by
  induction fell with
  | seed chosen =>
    rw [doomed, Bool.or_eq_true] at chosen
    exact chosen.imp_left ofMerchant_of_isMerchant
  | @child row parent there linked _ ih =>
    obtain ⟨column, id, _, cascades, resolved⟩ := Schema.refers_iff.mp linked
    obtain ⟨owner, named⟩ := owner_of_tenantScoped stored (tenantScoped_of_cascades cascades)
    by_cases same : owner = merchantId
    · exact .inl (same ▸ named)
    · rcases ih there with mine | session
      · rw [isolated owner same row stored named parent there mine] at linked
        cases linked
      · rw [ofShop, Bool.and_eq_true, beq_iff_eq] at session
        rw [resolves_leaf (.inl (by rw [session.1]; exact List.mem_cons_self))] at resolved
        cases resolved

/-- A row of the merchant to which others can refer is taken away. -/
theorem falls_of_ofMerchant {column : Reference} {id : String} (stored : parent ∈ db.rows)
    (mine : ofMerchant merchantId parent = true) (resolved : schema.resolves column id parent = true) :
    schema.Falls db.rows (doomed merchantId shop) parent := by
  rcases ofMerchant_iff.mp mine with ⟨root, named⟩ | ⟨tenanted, link⟩
  · exact .seed (by simp [doomed, isMerchant, root, named])
  · by_cases leaf : parent.model ∈ tenantOptionalReadModels
    · rw [resolves_leaf (.inr leaf)] at resolved
      cases resolved
    · have owned : parent.model ∈ tenantScopedModels := by
        rw [Model.tenanted, Bool.or_eq_true, List.contains_iff_mem, List.contains_iff_mem] at tenanted
        exact tenanted.resolve_right leaf
      exact falls_of_inTable owned stored (by simp [inTable, link])

theorem ofMerchant_detach (apart : other ≠ merchantId) :
    ofMerchant other (schema.detach db.rows (doomed merchantId shop) row) = ofMerchant other row := by
  rw [Bool.eq_iff_iff, ofMerchant_iff, ofMerchant_iff, Schema.links_detach]
  constructor
  · rintro (root | ⟨tenanted, link, _⟩)
    · exact .inl root
    · exact .inr ⟨tenanted, link⟩
  · rintro (root | ⟨tenanted, link⟩)
    · exact .inl root
    · refine .inr ⟨tenanted, link, ?_⟩
      rintro ⟨_, parent, _, resolved, fell⟩
      rw [Schema.resolves, Bool.and_eq_true, beq_iff_eq, beq_iff_eq] at resolved
      have root := doomed_merchant resolved.1 (falls_merchant resolved.1 fell)
      rw [isMerchant, Bool.and_eq_true, beq_iff_eq, beq_iff_eq] at root
      exact apart (resolved.2.symm.trans root.2)

/-- The rows of the other merchants stay as they are if and only if none of them refers
to a row of this one. -/
theorem others_unchanged_iff :
    OthersUnchanged merchantId db.rows (schema.erase db.rows (doomed merchantId shop)) ↔ Isolated merchantId db := by
  constructor
  · intro unchanged other apart row stored named parent there mine policy
    by_contra linked
    rw [Bool.not_eq_false] at linked
    obtain ⟨column, id, held, declared, resolved⟩ := Schema.refers_iff.mp linked
    have fell : schema.Falls db.rows (doomed merchantId shop) parent := falls_of_ofMerchant there mine resolved
    have left : row ∈ (schema.erase db.rows (doomed merchantId shop)).filter (ofMerchant other) := by
      rw [unchanged other apart]
      exact List.mem_filter.mpr ⟨stored, named⟩
    obtain ⟨earlier, present, kept, rfl⟩ := Schema.mem_erase.mp (List.mem_filter.mp left).1
    cases policy with
    | cascade => exact kept (.child there (Schema.refers_detach.symm.trans linked) fell)
    | setNull => exact (Schema.links_detach.mp held).2 ⟨declared, parent, there, resolved, fell⟩
  · intro isolated other apart
    have spared (row : ShopRow Rest) (stored : row ∈ db.rows) (named : ofMerchant other row = true) :
        ¬schema.Falls db.rows (doomed merchantId shop) row := by
      intro fell
      rcases owned_of_falls isolated stored fell with mine | session
      · exact apart (ofMerchant_unique named mine)
      · rw [ofShop, Bool.and_eq_true, beq_iff_eq] at session
        rcases ofMerchant_iff.mp named with ⟨root, _⟩ | ⟨tenanted, _⟩
        · rw [root] at session
          cases session.1
        · rw [session.1] at tenanted
          cases tenanted
    have untouched (row : ShopRow Rest) (stored : row ∈ db.rows) (named : ofMerchant other row = true) :
        schema.detach db.rows (doomed merchantId shop) row = row := by
      apply Schema.detach_eq_self
      intro parent there fell
      rw [← Bool.not_eq_true]
      intro linked
      rcases owned_of_falls isolated there fell with mine | session
      · rw [isolated other apart row stored named parent there mine] at linked
        cases linked
      · obtain ⟨column, id, _, _, resolved⟩ := Schema.refers_iff.mp linked
        rw [ofShop, Bool.and_eq_true, beq_iff_eq] at session
        rw [resolves_leaf (.inl (by rw [session.1]; exact List.mem_cons_self))] at resolved
        cases resolved
    have same : ofMerchant other ∘ schema.detach db.rows (doomed merchantId shop) = ofMerchant other := by
      funext row
      exact ofMerchant_detach apart
    rw [Schema.erase, List.filter_map, List.filter_filter, same]
    have keeps : (db.rows.filter fun row => ofMerchant other row && !schema.falls db.rows (doomed merchantId shop) row) =
        db.rows.filter (ofMerchant other) := by
      apply List.filter_congr
      intro row stored
      cases named : ofMerchant other row with
      | false => rfl
      | true =>
        have stays := spared row stored named
        rw [← Schema.falls_iff, Bool.not_eq_true] at stays
        rw [stays]
        rfl
    rw [keeps]
    conv_rhs => rw [← List.map_id (db.rows.filter (ofMerchant other))]
    apply List.map_congr_left
    intro row listed
    obtain ⟨stored, named⟩ := List.mem_filter.mp listed
    exact untouched row stored named

end Isolation

/-- A log outlives its merchant. -/
theorem log_survives (present : Present merchantId db) (stored : row ∈ db.rows)
    (log : row.model ∈ tenantOptionalReadModels) :
    orphaned merchantId row ∈ schema.erase db.rows (doomed merchantId shop) := by
  have policies (column : Reference) :
      schema.onDelete row.model column = if column = .merchantId then some .setNull else none := by
    revert log
    cases row.model <;> cases column <;> decide
  have kept : ¬schema.Falls db.rows (doomed merchantId shop) row := by
    intro fell
    cases fell with
    | seed chosen =>
      revert log
      simp only [doomed, isMerchant, ofShop, Bool.or_eq_true, Bool.and_eq_true, beq_iff_eq] at chosen
      rcases chosen with both | both
      all_goals
        rw [both.1]
        decide
    | child _ linked _ =>
      obtain ⟨column, _, _, cascades, _⟩ := Schema.refers_iff.mp linked
      rw [policies] at cascades
      split at cascades <;> cases cascades
  refine Schema.mem_erase.mpr ⟨row, stored, kept, ?_⟩
  have links : (schema.detach db.rows (doomed merchantId shop) row).links = (orphaned merchantId row).links := by
    funext column
    apply Option.ext
    intro id
    rw [Schema.links_detach, policies, orphaned, Option.filter_eq_some_iff, and_congr_right_iff]
    intro _
    rw [Bool.not_eq_true', ← Bool.not_eq_true, Bool.and_eq_true, beq_iff_eq, beq_iff_eq]
    apply not_congr
    constructor
    · rintro ⟨nulls, parent, _, resolved, fell⟩
      split at nulls
      · rename_i same
        cases same
        rw [Schema.resolves, Bool.and_eq_true, beq_iff_eq, beq_iff_eq] at resolved
        have root := doomed_merchant resolved.1 (falls_merchant resolved.1 fell)
        rw [isMerchant, Bool.and_eq_true, beq_iff_eq, beq_iff_eq] at root
        exact ⟨rfl, resolved.2.symm.trans root.2⟩
      · cases nulls
    · rintro ⟨rfl, rfl⟩
      obtain ⟨parent, there, root⟩ := present
      exact ⟨rfl, parent, there, root, .seed (by rw [doomed, root, Bool.true_or])⟩
  exact congrArg (fun links => { row with links }) links

/-- Nothing is left to delete once a call has returned. -/
theorem erased_of_returned (keeps : Redacting args merchantId origin final) (returned : final.phase = .returned) :
    (∀ row ∈ final.db.rows, isMerchant merchantId row = false ∧ ofShop args.shop row = false) ∧
      schema.erase final.db.rows (doomed merchantId args.shop) = final.db.rows := by
  have merchantless : ∀ row ∈ final.db.rows, isMerchant merchantId row = false := by
    have stands := keeps.stands
    rw [returned] at stands
    exact stands
  have sessionless : ∀ row ∈ final.db.rows, ofShop args.shop row = false := by
    rcases keeps.sessions with ⟨row, stored, root⟩ | none
    · rw [merchantless row stored] at root
      cases root
    · exact none
  refine ⟨fun row stored => ⟨merchantless row stored, sessionless row stored⟩, Schema.erase_eq_self ?_⟩
  intro row stored fell
  have nothing : ∀ row ∈ final.db.rows, ¬schema.Falls final.db.rows (doomed merchantId args.shop) row := by
    intro row stored fell
    induction fell with
    | seed chosen =>
      rw [doomed, merchantless _ stored, sessionless _ stored] at chosen
      cases chosen
    | child there _ _ ih => exact ih there
  exact nothing row stored fell

/-- A row of a tenant table has a merchant. -/
theorem inTable_of_merchantless (merchantless : ∀ row ∈ db.rows, isMerchant merchantId row = false) {table : Model}
    (owned : table ∈ tenantScopedModels) (stored : row ∈ db.rows) : inTable merchantId table row = false := by
  rw [← Bool.not_eq_true]
  intro named
  rw [inTable, Bool.and_eq_true, beq_iff_eq, beq_iff_eq] at named
  have cascades : schema.onDelete row.model .merchantId = some .cascade := by
    rw [named.1]
    exact cascades_of_tenantScoped owned
  obtain ⟨parent, there, resolved⟩ := (db.sound row stored .merchantId (schema.complete _) _ cascades).2 _ named.2
  have root : isMerchant merchantId parent = true := resolved
  rw [merchantless parent there] at root
  cases root

/-- The calls of one shop, however often they crash and start again: a call that is not
cut short returns after a bounded number of transactions; once one has returned, no row of
the merchant is left but its logs, which have lost their merchant; the rows of the other
merchants are as they were if and only if none of them referred to a row of this one; and
the crashes leave no trace but audits. -/
theorem shop_redaction_total (positive : 1 ≤ args.batchSize) (found : findByShop args.shop origin = some merchantId)
    (reach : Machine.Reach (machine args) (fun _ _ => True) ⟨origin, .idle⟩ final) :
    (∀ labels later, (machine args).runWhere (fun _ label => label.onward) final labels = some later →
      labels.length ≤ final.work ∧
        (later.phase = .idle ∨ ∃ rest last,
          (machine args).runWhere (fun _ label => label.onward) later rest = some last ∧ last.phase = .returned)) ∧
    (final.phase = .returned →
      (∀ table ∈ shopRedactTablesInOrder, ∀ row ∈ final.db.rows, inTable merchantId table row = false) ∧
      (∀ row ∈ final.db.rows,
        ofShop args.shop row = false ∧ isMerchant merchantId row = false ∧ isMerchantOf args.shop row = false) ∧
      (∀ row ∈ origin.rows, row.model ∈ tenantOptionalReadModels → orphaned merchantId row ∈ final.db.rows) ∧
      (OthersUnchanged merchantId origin.rows final.db.rows ↔ Isolated merchantId origin) ∧
      ∃ trail, final.db.rows = schema.erase origin.rows (doomed merchantId args.shop) ++ trail ∧
        ∀ row ∈ trail, IsTrail args merchantId row) := by
  have keeps := reach_keeps positive found reach
  constructor
  · intro labels later ran
    obtain ⟨bound, kept⟩ := onward_bounded positive labels keeps ran
    refine ⟨by omega, ?_⟩
    by_cases busy : later.phase = .idle
    · exact .inl busy
    · exact .inr (onward_returns positive kept busy)
  · intro returned
    obtain ⟨empty, settled⟩ := erased_of_returned keeps returned
    obtain ⟨trail, erased, marked⟩ := keeps.erased
    have rows : final.db.rows = schema.erase origin.rows (doomed merchantId args.shop) ++ trail :=
      settled.symm.trans erased
    have foreign (owner : MerchantId) : trail.filter (ofMerchant owner) = [] := by
      apply List.filter_eq_nil_iff.mpr
      intro row listed
      obtain ⟨id, log, _, rfl⟩ := marked row listed
      simp [ofMerchant, auditRow]
    refine ⟨?_, ?_, ?_, ?_, trail, rows, marked⟩
    · intro table listed row stored
      exact inTable_of_merchantless (fun row stored => (empty row stored).1) ((mem_shopRedactTables table).mp listed)
        stored
    · intro row stored
      refine ⟨(empty row stored).2, (empty row stored).1, ?_⟩
      rw [keeps.merchant row stored]
      exact (empty row stored).1
    · intro row stored log
      obtain ⟨named, there, root, _⟩ := findByShop_eq_some found
      rw [rows]
      exact List.mem_append_left _ (log_survives ⟨named, there, root⟩ stored log)
    · rw [← @others_unchanged_iff _ _ args.shop _, rows]
      simp only [OthersUnchanged, List.filter_append, foreign, List.append_nil]

section Samples

/-- Two shops. A suppression of the second names a customer of the first. -/
def twoShops (customerId : String) : List (ShopRow Unit) :=
  let merchant (id shop : String) : ShopRow Unit := { model := .merchant, id, cells := { shop := some shop, columns := .other () } }
  let owned (model : Model) (id merchantId : String) (links : Reference → Option String) : ShopRow Unit :=
    { model, id, links := fun column => if column = .merchantId then some merchantId else links column,
      cells := { columns := .other () } }
  [merchant "m1" "one.myshopify.com", merchant "m2" "two.myshopify.com",
    owned .customer "c1" "m1" fun _ => none, owned .customer "c2" "m2" fun _ => none,
    owned .suppression "s2" "m2" fun column => if column = .customerId then some customerId else none,
    owned .webhookLog "w1" "m1" fun _ => none]

def mixed : Database Unit := ⟨twoShops "c1", by decide, by decide⟩

def separate : Database Unit := ⟨twoShops "c2", by decide, by decide⟩

def redactOne : ProcessShopRedactArgs := { shop := "one.myshopify.com", batchSize := 1 }

/-- A crash in the middle of the tables, and a second call. -/
def crashedRun : List Label :=
  [.start, .audit "a1"] ++ List.replicate 5 (.chunk []) ++ [.crash, .start, .audit "a2"] ++
    List.replicate 10 (.chunk []) ++ [.chunk ["c1"]] ++ List.replicate 9 (.chunk []) ++ [.sessions, .merchant]

theorem crashedRun_reach {db : Database Unit}
    (ran : ((machine redactOne).runWhere (fun _ _ => true) ⟨db, .idle⟩ crashedRun).isSome) :
    Machine.Reach (machine redactOne) (fun _ _ => True) ⟨db, .idle⟩
      (((machine redactOne).runWhere (fun _ _ => true) ⟨db, .idle⟩ crashedRun).get ran) :=
  (Machine.reach_get ran).mono fun _ _ _ => trivial

/-- The suppression of the other merchant goes along with the customer that it names. -/
theorem suppression_across_shops :
    ∃ final, Machine.Reach (machine redactOne) (fun _ _ => True) ⟨mixed, .idle⟩ final ∧ final.phase = .returned ∧
      ¬OthersUnchanged "m1" mixed.rows final.db.rows := by
  refine ⟨_, crashedRun_reach (by decide), by decide, ?_⟩
  intro unchanged
  have counts := congrArg List.length (unchanged "m2" (by decide))
  revert counts
  decide

theorem separate_isolated : Isolated "m1" separate := by
  have checked : ∀ row ∈ separate.rows, ∀ parent ∈ separate.rows, ofMerchant "m1" parent = true →
      ofMerchant "m1" row = false → schema.refers .cascade row parent = false ∧ schema.refers .setNull row parent = false := by
    decide
  intro other apart row stored named parent there mine policy
  have foreign : ofMerchant "m1" row = false := by
    rw [← Bool.not_eq_true]
    intro same
    exact apart (ofMerchant_unique named same)
  obtain ⟨cascade, setNull⟩ := checked row stored parent there mine foreign
  cases policy with
  | cascade => exact cascade
  | setNull => exact setNull

theorem separate_shops_redacted :
    findByShop redactOne.shop separate = some "m1" ∧
      ∃ final : World Unit, (∀ row ∈ final.db.rows, inTable "m1" .customer row = false) ∧
        OthersUnchanged "m1" separate.rows final.db.rows := by
  have found : findByShop redactOne.shop separate = some "m1" := by decide
  obtain ⟨tables, _, _, others, _⟩ := (shop_redaction_total (by decide) found
    (crashedRun_reach (by decide))).2 (by decide)
  exact ⟨found, _, tables .customer (by decide), others.mpr separate_isolated⟩

end Samples

end WinBack.ShopRedact
