import WinBack.Tenant.Engine

/-! Reads under a tenant scope. Every operation but the two `findUnique` ones names
the active tenant in its effective `where` block; those two keep the caller's key,
so they stay within the tenant exactly when that key does. -/

namespace WinBack.Tenant

open Library

variable {Row : Type} {engine : Engine Row} {model : Model} {operation : ReadOperation}
  {merchantId : String} {args effective : ReadArgs}

/-- The hook throws, or the effective query only selects rows of the tenant. -/
def ReadIsolated (engine : Engine Row) (merchantId : String) (model : Model) (operation : ReadOperation)
    (args : ReadArgs) : Prop :=
  ∀ effective, applyReadHooks (some (.tenant merchantId)) model args operation.isFindUnique = .ok effective →
    ∀ row, engine.selects operation.isFindUnique model (effective.where_.getD ∅) row = true →
      engine.owner model row = some merchantId

/-- The caller names the tenant, in the column itself or in a compound key. -/
def NamesMerchant (merchantId : String) (model : Model) (where_ : Entries) : Prop :=
  where_.get "merchantId" = some (.str merchantId) ∨
    ∃ key ∈ model.compoundKeys, ∃ parts, where_.get key = some (.obj parts) ∧
      (Json.obj parts).get? "merchantId" = some (.str merchantId)

theorem deletedAt_kept (model : Model) {key : String} {content : Option Json} (apart : key ≠ "deletedAt")
    (member : (key, content) ∈ (args.where_.getD ∅).entries) :
    (key, content) ∈ ((applySoftDeleteFilter model args).where_.getD ∅).entries := by
  unfold applySoftDeleteFilter
  split
  · exact member
  · dsimp only
    split
    · exact member
    · exact Object.mem_set_iff.mpr (.inr ⟨apart, member⟩)

/-- A lookup by unique key only gets the soft-delete filter. -/
theorem applyReadHooks_unique (tenanted : model.tenanted = true) :
    applyReadHooks (some (.tenant merchantId)) model args true =
      .ok (applySoftDeleteFilter model args) := by
  obtain ⟨_, _, root, unscoped⟩ := model.bucket
  have apart : model ≠ .merchant := fun same => root ⟨same, tenanted⟩
  have known : model ∉ unscopedModels := fun listed => unscoped ⟨listed, tenanted⟩
  simp [applyReadHooks, known, enforceTenantScopeOnRead, apart, tenanted, Except.map]

/-- Every other read names the tenant. -/
theorem applyReadHooks_names (tenanted : model.tenanted = true)
    (passed : applyReadHooks (some (.tenant merchantId)) model args false = .ok effective) :
    ("merchantId", some (.str merchantId)) ∈ (effective.where_.getD ∅).entries := by
  obtain ⟨_, _, root, unscoped⟩ := model.bucket
  have apart : model ≠ .merchant := fun same => root ⟨same, tenanted⟩
  have known : model ∉ unscopedModels := fun listed => unscoped ⟨listed, tenanted⟩
  simp only [applyReadHooks, List.contains_iff_mem, known, enforceTenantScopeOnRead, apart, tenanted,
    Bool.not_true, Bool.false_eq_true, reduceIte] at passed
  obtain ⟨enforcedArgs, enforced, rfl⟩ := map_eq_ok_iff.mp passed
  refine deletedAt_kept model (by decide) ?_
  split at enforced
  · cases enforced
    exact Object.mem_set_iff.mpr (.inl ⟨rfl, rfl⟩)
  · rename_i existing named
    split at enforced
    · rename_i same
      cases enforced
      exact same ▸ Object.mem_of_get named
    · cases enforced
  · cases enforced

/-- A tenant scope isolates a read exactly when the operation is not a lookup by
unique key, or the caller's own key already keeps it within the tenant. -/
theorem read_isolated_iff (documented : engine.Documented) (tenanted : model.tenanted = true) :
    ReadIsolated engine merchantId model operation args ↔
      operation.isFindUnique = false ∨ NamesMerchant merchantId model (args.where_.getD ∅) ∨
        ∀ row, engine.owner model row ≠ some merchantId →
          engine.selects true model ((applySoftDeleteFilter model args).where_.getD ∅) row = false := by
  cases lookup : operation.isFindUnique with
  | false =>
    refine ⟨fun _ => .inl rfl, fun _ => ?_⟩
    intro effective passed row selected
    rw [lookup] at passed selected
    have named := applyReadHooks_names tenanted passed
    refine Engine.owner_of_meets documented (Bool.and_eq_true_iff.mp selected).2 ?_
    rw [ownerKey_of_tenanted tenanted]
    exact Object.get_of_mem named
  | true =>
    have whole : ReadIsolated engine merchantId model operation args ↔ ∀ row,
        engine.selects true model ((applySoftDeleteFilter model args).where_.getD ∅) row = true →
          engine.owner model row = some merchantId := by
      simp [ReadIsolated, lookup, applyReadHooks_unique tenanted]
    rw [whole]
    constructor
    · intro isolated
      refine .inr (.inr fun row foreign => ?_)
      rw [Bool.eq_false_iff]
      exact fun selected => foreign (isolated row selected)
    · rintro (never | (column | ⟨key, compound, parts, held, named⟩) | none) row selected
      · cases never
      · refine Engine.owner_of_meets documented (Bool.and_eq_true_iff.mp selected).2 ?_
        rw [ownerKey_of_tenanted tenanted]
        exact Object.get_of_mem (deletedAt_kept model (by decide) (Object.mem_of_get column))
      · have apart : key ≠ "deletedAt" := by
          rintro rfl
          revert compound
          cases model <;> decide
        have kept := deletedAt_kept model apart (Object.mem_of_get held)
        exact documented.compound model key parts merchantId row compound named
          (List.all_eq_true.mp (Bool.and_eq_true_iff.mp selected).2 _ kept)
      · by_contra foreign
        simp [none row foreign] at selected

theorem read_isolated_find_many :
    ReadIsolated equality "m" .aiGeneration .findMany { where_ := some ⟨[("status", some (.str "pending"))], by simp⟩ } :=
  (read_isolated_iff equality_documented rfl).mpr (.inl rfl)

/-- The lookup of a row by its id. -/
def byId (id : String) : ReadArgs := { where_ := some ⟨[("id", some (.str id))], by simp⟩ }

/-- A lookup by id alone finds the row of another tenant. -/
theorem findUnique_by_id_leaks (tenanted : model.tenanted = true) (keyed : "id" ∈ model.uniqueKeys)
    (id : String) : ¬ReadIsolated equality merchantId model .findUnique (byId id) := by
  intro isolated
  have owner := ownerKey_of_tenanted tenanted
  have foreign : equality.owner model [("id", id), ("merchantId", merchantId ++ "x")] ≠ some merchantId := by
    simp [equality, owner, List.lookup_cons]
  refine foreign (isolated _ (applyReadHooks_unique tenanted) _ ?_)
  have column : ("id" : String) ≠ "deletedAt" := by decide
  have present : ("id", some (Json.str id)) ∈
      ((applySoftDeleteFilter model (byId id)).where_.getD ∅).entries :=
    deletedAt_kept model column (by simp [byId])
  refine Bool.and_eq_true_iff.mpr ⟨?_, List.all_eq_true.mpr fun part member => ?_⟩
  · refine Bool.or_eq_true_iff.mpr (.inr (List.any_eq_true.mpr ⟨"id", keyed, ?_⟩))
    rw [Object.get_of_mem present]
    rfl
  · obtain ⟨key, content⟩ := part
    have listed : key = "id" ∧ content = some (.str id) ∨ key = "deletedAt" ∧ content = some .null := by
      unfold applySoftDeleteFilter at member
      split at member
      · exact .inl (by simpa [byId] using member)
      · dsimp only at member
        split at member
        · exact .inl (by simpa [byId] using member)
        · rcases Object.mem_set_iff.mp member with deleted | ⟨_, there⟩
          · exact .inr deleted
          · exact .inl (by simpa [byId] using there)
    rcases listed with ⟨rfl, rfl⟩ | ⟨rfl, rfl⟩ <;> simp [equality, List.lookup_cons]

theorem generation_read_across_tenants :
    ¬∀ (merchantId : String) (model : Model) (operation : ReadOperation) (args : ReadArgs),
      model.tenanted = true → ReadIsolated equality merchantId model operation args := by
  intro claim
  exact findUnique_by_id_leaks rfl (by decide) "g" (claim "m" .aiGeneration .findUnique (byId "g") rfl)

end WinBack.Tenant
