import WinBack.Orders.Repository
import WinBack.Library.Fallible

/-! What the upserts of an order and of its line items write. -/

namespace WinBack.Orders

open Library WinBack.Orders.OrderRepository

variable {merchantId : MerchantId} {gid other orderId newId currency : String} {fields : SharedFields} {now : Date}
  {store after : Store}

section Order

theorem named_pins {first second : Order} (here : named merchantId gid first = true) (there : named merchantId gid second = true) :
    Indexed.clash (Indexed.index first) (Indexed.index second) = true := by
  simp only [named, Bool.and_eq_true, beq_iff_eq] at here there
  simp [Indexed.clash, Indexed.index, here, there]

/-- The row that an upsert leaves. -/
def written (merchantId : MerchantId) (gid : String) (fields : SharedFields) (newId : String) (now : Date)
    (found : Option Order) : Order :=
  found.elim { fields with id := newId, merchantId, shopifyOrderId := gid, createdAt := now } fields.apply

theorem written_fields (found : Option Order) : (written merchantId gid fields newId now found).toSharedFields = fields := by
  cases found <;> rfl

theorem place_eq (placed : place merchantId gid fields newId now store = .ok (orderId, after)) :
    after = { store with orders := after.orders } ∧
      after.orders.find? (named merchantId gid) =
        some (written merchantId gid fields newId now (store.orders.find? (named merchantId gid))) ∧
      orderId = (written merchantId gid fields newId now (store.orders.find? (named merchantId gid))).id := by
  unfold place at placed
  split at placed
  · rename_i stored found
    cases placed
    have stable (row : Order) : named merchantId gid (fields.apply row) = named merchantId gid row := rfl
    have updated := @Table.find?_updateMany _ _ store.orders _ (named merchantId gid) fields.apply (fun _ => rfl) stable
    rw [found, Option.map_some, if_pos (Table.find?_mem found).2] at updated
    rw [found]
    exact ⟨rfl, updated, rfl⟩
  · rename_i absent
    split at placed
    · cases placed
    · rename_i orders inserted
      split at placed
      · cases placed
        have inserts := @Table.find?_insert? _ _ _ _ _ (named merchantId gid) inserted
        rw [absent, Option.none_or, if_pos (by simp [named])] at inserts
        rw [absent]
        exact ⟨rfl, inserts, rfl⟩
      · cases placed

theorem place_ok (merchant : store.merchants.any (·.id == merchantId) = true)
    (fresh : ∀ row ∈ store.orders.rows, row.id ≠ newId) :
    ∃ result, place merchantId gid fields newId now store = .ok result := by
  unfold place
  split
  · exact ⟨_, rfl⟩
  · rename_i absent
    split
    · rename_i refused
      obtain ⟨taken, stored, clash⟩ := Table.insert?_none refused
      have apart := Table.find?_none_iff.mp absent taken stored
      simp only [Indexed.clash, Indexed.index, Bool.or_eq_true, beq_iff_eq, Prod.mk.injEq] at clash
      rcases clash with same | ⟨owner, gid⟩
      · exact absurd same (fresh taken stored)
      · simp [named, owner, gid] at apart
    · rw [if_pos merchant]
      exact ⟨_, rfl⟩

/-- An upsert changes nothing exactly when the row is stored as it would write it. -/
theorem place_same_iff (placed : place merchantId gid fields newId now store = .ok (orderId, after)) :
    after.orders = store.orders ↔
      ∃ row, store.orders.find? (named merchantId gid) = some row ∧ row.toSharedFields = fields := by
  constructor
  · intro same
    have found := (place_eq placed).2.1
    rw [same] at found
    exact ⟨_, found, written_fields _⟩
  · rintro ⟨row, found, rfl⟩
    unfold place at placed
    rw [found] at placed
    cases placed
    exact @Table.updateMany_pinned _ _ _ _ row.apply (fun _ => rfl) (fun _ _ => named_pins) _ found rfl

/-- Another order keeps its row. -/
theorem place_other {owner : MerchantId} (placed : place merchantId gid fields newId now store = .ok (orderId, after))
    (apart : (owner, other) ≠ (merchantId, gid)) :
    after.orders.find? (named owner other) = store.orders.find? (named owner other) := by
  have unnamed {row : Order} (here : named owner other row = true) : named merchantId gid row = false := by
    rw [Bool.eq_false_iff]
    intro there
    simp only [named, Bool.and_eq_true, beq_iff_eq] at here there
    exact apart (Prod.ext (here.1.symm.trans there.1) (here.2.symm.trans there.2))
  unfold place at placed
  split at placed
  · cases placed
    have stable (row : Order) : named owner other (fields.apply row) = named owner other row := rfl
    have updated := @Table.find?_updateMany _ _ store.orders _ (named merchantId gid) fields.apply (fun _ => rfl) stable
    refine updated.trans ?_
    cases found : store.orders.find? (named owner other) with
    | none => rfl
    | some row =>
      rw [Option.map_some, unnamed (Table.find?_mem found).2]
      rfl
  · split at placed
    · cases placed
    · rename_i orders inserted
      split at placed
      · cases placed
        have own : named merchantId gid { fields with id := orderId, merchantId, shopifyOrderId := gid, createdAt := now } = true := by
          simp [named]
        have missing : ¬named owner other { fields with id := orderId, merchantId, shopifyOrderId := gid, createdAt := now } = true :=
          fun here => Bool.false_ne_true ((unnamed here).symm.trans own)
        have inserts := @Table.find?_insert? _ _ _ _ _ (named owner other) inserted
        exact inserts.trans ((congrArg _ (if_neg missing)).trans Option.or_none)
      · cases placed

end Order

section LineItems

/-- A line item once it is read: its identifier, its columns and the id of a new row. -/
structure LineItemWrite where
  gid : String
  fields : LineItemFields
  newId : String

def placeAll (merchantId : MerchantId) (orderId : String) (now : Date) : List LineItemWrite → Store → Except RepositoryError Store
  | [], store => .ok store
  | write :: rest, store => do
    let store ← placeLineItem merchantId orderId write.gid write.fields write.newId now store
    placeAll merchantId orderId now rest store

variable {itemFields : LineItemFields} {write : LineItemWrite} {writes : List LineItemWrite}

/-- What a line item of a body says, and the id of its new row. -/
def Reads (merchantId : MerchantId) (currency : String) (store : Store) (lineItem : ShopifyOrderLineItem × String)
    (write : LineItemWrite) : Prop :=
  toShopifyLineItemGid lineItem.1.id = some write.gid ∧
    lineItemFields merchantId currency lineItem.1 store = .ok write.fields ∧ lineItem.2 = write.newId

/-- The links of a line item are read from tables that no upsert writes. -/
theorem lineItemFields_congr {next : Store} (lineItem : ShopifyOrderLineItem)
    (kept : next = { store with orders := next.orders, orderLineItems := next.orderLineItems }) :
    lineItemFields merchantId currency lineItem next = lineItemFields merchantId currency lineItem store := by
  rw [kept]
  rfl

theorem placeLineItem_eq (placed : placeLineItem merchantId orderId gid itemFields newId now store = .ok after) :
    after = { store with orderLineItems := after.orderLineItems } := by
  unfold placeLineItem at placed
  split at placed
  · cases placed
    rfl
  · split at placed <;> cases placed
    rfl

theorem placeLineItems_frame {lineItems : List (ShopifyOrderLineItem × String)}
    (placed : placeLineItems merchantId orderId currency now lineItems store = .ok after) :
    after = { store with orderLineItems := after.orderLineItems } := by
  induction lineItems generalizing store with
  | nil =>
    cases placed
    rfl
  | cons item rest ih =>
    obtain ⟨lineItem, newId⟩ := item
    unfold placeLineItems at placed
    split at placed
    · cases placed
    · obtain ⟨_, _, placed⟩ := bind_eq_ok_iff.mp placed
      obtain ⟨between, first, placed⟩ := bind_eq_ok_iff.mp placed
      rw [ih placed, placeLineItem_eq first]

/-- An upsert places the order, and then only line items. -/
theorem upsertFromWebhook_cases {body : ShopifyOrderWebhookBody} {ids : NewIds} {result : UpsertResult}
    (done : upsertFromWebhook merchantId body ids now store = .ok (result, after)) :
    ∃ gid fields orderId placed, toShopifyOrderGid body.id = some gid ∧ sharedFields merchantId body store = .ok fields ∧
      place merchantId gid fields ids.order now store = .ok (orderId, placed) ∧
      after = { placed with orderLineItems := after.orderLineItems } := by
  unfold upsertFromWebhook at done
  split at done
  · cases done
  · rename_i gid wrapped
    obtain ⟨fields, read, done⟩ := bind_eq_ok_iff.mp done
    obtain ⟨⟨orderId, placed⟩, first, done⟩ := bind_eq_ok_iff.mp done
    obtain ⟨final, later, done⟩ := bind_eq_ok_iff.mp done
    obtain rfl := (Prod.mk.inj (Except.ok.inj done)).2
    exact ⟨gid, fields, orderId, placed, wrapped, read, first, placeLineItems_frame later⟩

theorem placeLineItems_eq {lineItems : List (ShopifyOrderLineItem × String)}
    (read : List.Forall₂ (Reads merchantId currency store) lineItems writes) :
    placeLineItems merchantId orderId currency now lineItems store = placeAll merchantId orderId now writes store := by
  suffices general : ∀ next : Store, next = { store with orders := next.orders, orderLineItems := next.orderLineItems } →
      placeLineItems merchantId orderId currency now lineItems next = placeAll merchantId orderId now writes next from
    general store rfl
  induction read with
  | nil => exact fun _ _ => rfl
  | @cons lineItem write lineItems writes here _ ih =>
    intro next kept
    obtain ⟨item, newId⟩ := lineItem
    obtain ⟨wrapped, read, new⟩ := here
    dsimp only at wrapped read new
    subst new
    simp only [placeLineItems, placeAll, wrapped, lineItemFields_congr item kept, read, bind, Except.bind]
    cases placed : placeLineItem merchantId orderId write.gid write.fields write.newId now next with
    | error error => rfl
    | ok between =>
      refine ih between ?_
      rw [placeLineItem_eq placed, kept]

theorem listed_pins {first second : OrderLineItem} (here : listed merchantId orderId gid first = true)
    (there : listed merchantId orderId gid second = true) :
    Indexed.clash (Indexed.index first) (Indexed.index second) = true := by
  simp only [listed, Bool.and_eq_true, beq_iff_eq] at here there
  simp [Indexed.clash, Indexed.index, here, there]

/-- The columns of a line item, as the store has them. -/
def itemOf (merchantId : MerchantId) (orderId gid : String) (store : Store) : Option LineItemFields :=
  (store.orderLineItems.find? (listed merchantId orderId gid)).map (·.toLineItemFields)

theorem itemOf_placeLineItem (placed : placeLineItem merchantId orderId gid itemFields newId now store = .ok after) :
    itemOf merchantId orderId gid after = some itemFields := by
  unfold placeLineItem at placed
  unfold itemOf
  split at placed
  · rename_i stored found
    cases placed
    have stable (row : OrderLineItem) :
        listed merchantId orderId gid (itemFields.apply row) = listed merchantId orderId gid row := rfl
    have updated := @Table.find?_updateMany _ _ store.orderLineItems _ (listed merchantId orderId gid) itemFields.apply (fun _ => rfl) stable
    rw [found, Option.map_some, if_pos (Table.find?_mem found).2] at updated
    exact congrArg _ updated
  · rename_i absent
    split at placed
    · cases placed
    · rename_i items inserted
      cases placed
      have inserts := @Table.find?_insert? _ _ _ _ _ (listed merchantId orderId gid) inserted
      rw [absent, Option.none_or, if_pos (by simp [listed])] at inserts
      exact congrArg _ inserts

theorem itemOf_placeLineItem_other (placed : placeLineItem merchantId orderId gid itemFields newId now store = .ok after)
    (apart : other ≠ gid) : itemOf merchantId orderId other after = itemOf merchantId orderId other store := by
  have unlisted {row : OrderLineItem} (here : listed merchantId orderId other row = true) :
      listed merchantId orderId gid row = false := by
    simp only [listed, Bool.and_eq_true, beq_iff_eq, Bool.and_eq_false_iff, beq_eq_false_iff_ne] at here ⊢
    exact .inr (here.2 ▸ apart)
  unfold placeLineItem at placed
  unfold itemOf
  congr 1
  split at placed
  · cases placed
    have stable (row : OrderLineItem) :
        listed merchantId orderId other (itemFields.apply row) = listed merchantId orderId other row := rfl
    have updated := @Table.find?_updateMany _ _ store.orderLineItems _ (listed merchantId orderId gid) itemFields.apply (fun _ => rfl) stable
    refine updated.trans ?_
    cases found : store.orderLineItems.find? (listed merchantId orderId other) with
    | none => rfl
    | some row =>
      rw [Option.map_some, unlisted (Table.find?_mem found).2]
      rfl
  · split at placed
    · cases placed
    · rename_i items inserted
      cases placed
      have inserts := @Table.find?_insert? _ _ _ _ _ (listed merchantId orderId other) inserted
      have missing : (gid == other) = false := beq_eq_false_iff_ne.mpr apart.symm
      refine inserts.trans ?_
      simp [listed, missing]

theorem itemOf_placeAll_other (placed : placeAll merchantId orderId now writes store = .ok after)
    (apart : ∀ write ∈ writes, write.gid ≠ gid) : itemOf merchantId orderId gid after = itemOf merchantId orderId gid store := by
  induction writes generalizing store with
  | nil =>
    cases placed
    rfl
  | cons write rest ih =>
    obtain ⟨between, first, later⟩ := bind_eq_ok_iff.mp placed
    rw [ih later fun write listed => apart write (List.mem_cons_of_mem _ listed)]
    exact itemOf_placeLineItem_other first (apart write List.mem_cons_self).symm

/-- Line items of distinct identifiers each end as they are written. -/
theorem itemOf_placeAll (distinct : (writes.map (·.gid)).Nodup) (placed : placeAll merchantId orderId now writes store = .ok after)
    (listed : write ∈ writes) : itemOf merchantId orderId write.gid after = some write.fields := by
  induction writes generalizing store with
  | nil => cases listed
  | cons first rest ih =>
    obtain ⟨between, here, later⟩ := bind_eq_ok_iff.mp placed
    rw [List.map_cons, List.nodup_cons] at distinct
    rcases List.mem_cons.mp listed with rfl | others
    · have apart (other : LineItemWrite) (listed : other ∈ rest) : other.gid ≠ write.gid := fun same =>
        distinct.1 (same ▸ List.mem_map_of_mem (f := fun write => write.gid) listed)
      rw [itemOf_placeAll_other later apart]
      exact itemOf_placeLineItem here
    · exact ih distinct.2 later others

theorem placeLineItem_same (stored : itemOf merchantId orderId gid store = some itemFields) :
    placeLineItem merchantId orderId gid itemFields newId now store = .ok store := by
  obtain ⟨row, found, rfl⟩ := Option.map_eq_some_iff.mp stored
  unfold placeLineItem
  rw [found]
  have same := @Table.updateMany_pinned _ _ _ _ row.apply (fun _ => rfl) (fun _ _ => listed_pins) _ found rfl
  dsimp only
  rw [same]

/-- They change nothing exactly when each is stored as it would be written. -/
theorem placeAll_same_iff (distinct : (writes.map (·.gid)).Nodup)
    (placed : placeAll merchantId orderId now writes store = .ok after) :
    after.orderLineItems = store.orderLineItems ↔
      ∀ write ∈ writes, itemOf merchantId orderId write.gid store = some write.fields := by
  constructor
  · intro same write listed
    have written := itemOf_placeAll distinct placed listed
    rwa [itemOf, same] at written
  · intro stored
    have whole : placeAll merchantId orderId now writes store = .ok store := by
      clear placed distinct
      induction writes with
      | nil => rfl
      | cons write rest ih =>
        rw [placeAll, placeLineItem_same (stored write List.mem_cons_self)]
        exact ih fun write listed => stored write (List.mem_cons_of_mem _ listed)
    rw [whole] at placed
    cases placed
    rfl

theorem placeAll_ok (fresh : ∀ write ∈ writes, ∀ row ∈ store.orderLineItems.rows, row.id ≠ write.newId)
    (distinct : (writes.map (·.newId)).Nodup) : ∃ after, placeAll merchantId orderId now writes store = .ok after := by
  induction writes generalizing store with
  | nil => exact ⟨store, rfl⟩
  | cons write rest ih =>
    rw [List.map_cons, List.nodup_cons] at distinct
    have ok : ∃ between, placeLineItem merchantId orderId write.gid write.fields write.newId now store = .ok between ∧
        ∀ row ∈ between.orderLineItems.rows, row.id = write.newId ∨ ∃ old ∈ store.orderLineItems.rows, row.id = old.id := by
      unfold placeLineItem
      split
      · refine ⟨_, rfl, fun row listed => .inr ?_⟩
        obtain ⟨old, stored, rfl⟩ := List.mem_map.mp listed
        refine ⟨old, stored, ?_⟩
        split <;> rfl
      · rename_i absent
        split
        · rename_i refused
          obtain ⟨taken, stored, clash⟩ := Table.insert?_none refused
          have apart := Table.find?_none_iff.mp absent taken stored
          simp only [Indexed.clash, Indexed.index, Bool.or_eq_true, beq_iff_eq, Prod.mk.injEq] at clash
          rcases clash with same | ⟨owner, order, gid⟩
          · exact absurd same (fresh write List.mem_cons_self taken stored)
          · simp [listed, owner, order, gid] at apart
        · rename_i items inserted
          refine ⟨_, rfl, fun row member => ?_⟩
          dsimp only at member
          rw [(Table.insert?_rows inserted).1, List.mem_append, List.mem_singleton] at member
          rcases member with old | rfl
          · exact .inr ⟨row, old, rfl⟩
          · exact .inl rfl
    obtain ⟨between, placed, ids⟩ := ok
    obtain ⟨after, later⟩ := @ih between (fun other later row listed => by
      rcases ids row listed with same | ⟨old, stored, same⟩
      · rw [same]
        exact fun taken => distinct.1 (taken ▸ List.mem_map_of_mem later)
      · rw [same]
        exact fresh other (List.mem_cons_of_mem _ later) old stored) distinct.2
    exact ⟨after, bind_eq_ok_iff.mpr ⟨between, placed, later⟩⟩

end LineItems

end WinBack.Orders
