import Mathlib.Data.List.DropRight
import WinBack.Customer.Repository
import WinBack.Library.Numeral

/-! A customer as Shopify has it, in the two encodings that reach the store: the REST body of a
webhook and the node of a GraphQL page. -/

namespace WinBack

open Library

section Snapshot

/-- `CustomerEmailMarketingState` and its counterpart for SMS. -/
inductive MarketingState where
  | subscribed | pending | unsubscribed | notSubscribed | redacted | invalid
  deriving DecidableEq, Repr

/-- As a REST body spells it. -/
def MarketingState.rest : MarketingState → String
  | .subscribed => "subscribed"
  | .pending => "pending"
  | .unsubscribed => "unsubscribed"
  | .notSubscribed => "not_subscribed"
  | .redacted => "redacted"
  | .invalid => "invalid"

/-- As GraphQL spells it. -/
def MarketingState.graphql : MarketingState → String
  | .subscribed => "SUBSCRIBED"
  | .pending => "PENDING"
  | .unsubscribed => "UNSUBSCRIBED"
  | .notSubscribed => "NOT_SUBSCRIBED"
  | .redacted => "REDACTED"
  | .invalid => "INVALID"

structure ShopifyCustomer where
  id : Nat
  email : Option String := none
  phone : Option String := none
  firstName : Option String := none
  lastName : Option String := none
  emailMarketingConsent : Option MarketingState := none
  smsMarketingConsent : Option MarketingState := none
  ordersCount : Option Nat := none
  tags : Option (List String) := none
  createdAt : Date
  updatedAt : Date
  deriving DecidableEq, Repr

/-- REST sends the tags as one string. -/
def joinTags (tags : List String) : String := .ofList ([',', ' '].intercalate (tags.map String.toList))

def ShopifyCustomer.toWebhookBody (snapshot : ShopifyCustomer) : ShopifyCustomerWebhookBody where
  id := .number snapshot.id
  email := snapshot.email
  phone := snapshot.phone
  firstName := snapshot.firstName
  lastName := snapshot.lastName
  emailMarketingConsent := snapshot.emailMarketingConsent.map (·.rest)
  smsMarketingConsent := snapshot.smsMarketingConsent.map (·.rest)
  ordersCount := snapshot.ordersCount.map Int.ofNat
  tags := snapshot.tags.map joinTags
  createdAt := snapshot.createdAt
  updatedAt := snapshot.updatedAt

/-- `parseInt(v, 10)`, and 0 for what is no number. -/
def parseIntOrZero (value : Option String) : Int :=
  match (value.getD "").toList.dropWhile isSpace with
  | '-' :: digits => -Nat.ofDigitChars 10 (digits.takeWhile Char.isDigit) 0
  | '+' :: digits => Nat.ofDigitChars 10 (digits.takeWhile Char.isDigit) 0
  | digits => Nat.ofDigitChars 10 (digits.takeWhile Char.isDigit) 0

/-- GraphQL sends counts as strings and tags as a list. -/
def ShopifyCustomer.toNode (snapshot : ShopifyCustomer) : ShopifyCustomerNode where
  id := "gid://shopify/Customer/" ++ toString snapshot.id
  email := snapshot.email
  phone := snapshot.phone
  firstName := snapshot.firstName
  lastName := snapshot.lastName
  emailMarketingConsent := snapshot.emailMarketingConsent.map (·.graphql)
  smsMarketingConsent := snapshot.smsMarketingConsent.map (·.graphql)
  numberOfOrders := parseIntOrZero (snapshot.ordersCount.map toString)
  tags := snapshot.tags.getD []
  createdAt := some snapshot.createdAt
  updatedAt := some snapshot.updatedAt

end Snapshot

section Numbers

theorem isSpace_of_isDigit {char : Char} (digit : char.isDigit = true) : isSpace char = false := by
  have none : ("\t\n\x0b\x0c\r \u00a0\u1680\u2028\u2029\u202f\u205f\u3000\ufeff".toList.any Char.isDigit) = false := by
    decide
  have bound : char.toNat < 0x2000 := by
    have below : char.toNat ≤ 57 := (Char.isDigit_iff_toNat.mp digit).2
    omega
  unfold isSpace
  rw [Bool.or_eq_false_iff]
  refine ⟨?_, by simp; omega⟩
  by_contra space
  have listed := List.contains_iff_mem.mp (Bool.not_eq_false _ ▸ space)
  exact Bool.false_ne_true (none.symm.trans (List.any_eq_true.mpr ⟨char, listed, digit⟩))

theorem parseIntOrZero_toString (number : Nat) : parseIntOrZero (some (toString number)) = number := by
  have digits : ∀ char ∈ (toString number).toList, char.isDigit = true := fun _ => Numeral.isDigit_toString
  have value : Nat.ofDigitChars 10 (toString number).toList 0 = number := by
    rw [Nat.toString_eq_ofList_toDigits, String.toList_ofList]
    exact Nat.ofDigitChars_ten_toDigits
  unfold parseIntOrZero
  rw [Option.getD_some]
  cases shown : (toString number).toList with
  | nil => exact absurd shown (Numeral.toString_ne_nil number)
  | cons first rest =>
    rw [shown] at digits value
    have digit := digits first List.mem_cons_self
    rw [List.dropWhile_cons_of_neg (by simp [isSpace_of_isDigit digit])]
    have all : (first :: rest).takeWhile Char.isDigit = first :: rest :=
      List.takeWhile_eq_self_iff.mpr digits
    split
    · rename_i minus
      cases minus
      cases digit
    · rename_i plus
      cases plus
      cases digit
    · rw [all, value]

/-- Both encodings name the row by the same identifier. -/
theorem toShopifyCustomerGid_id (snapshot : ShopifyCustomer) :
    toShopifyCustomerGid snapshot.toWebhookBody.id = some snapshot.toNode.id := by
  have numeric : isNumeric (ShopifyId.number snapshot.id).shown = true := by
    change isNumeric (toString snapshot.id) = true
    unfold isNumeric
    rw [Bool.and_eq_true, List.all_eq_true]
    exact ⟨by simp, fun _ => Numeral.isDigit_toString⟩
  exact if_pos numeric

theorem parseGid_id (snapshot : ShopifyCustomer) : parseGid snapshot.toNode.id = some snapshot.toNode.id := by
  have digits : ∀ char ∈ (toString snapshot.id).toList, char.isDigit = true := fun _ => Numeral.isDigit_toString
  have shown : snapshot.toNode.id.toList =
      "gid://shopify/".toList ++ ("Customer".toList ++ '/' :: (toString snapshot.id).toList) := by
    have fixed : "gid://shopify/Customer/".toList = "gid://shopify/".toList ++ ("Customer".toList ++ ['/']) := by decide
    have joined : ("gid://shopify/Customer/" ++ toString snapshot.id).toList =
        "gid://shopify/Customer/".toList ++ (toString snapshot.id).toList := String.toList_append
    rw [fixed, List.append_assoc, List.append_assoc] at joined
    exact joined
  have parts : ("Customer".toList ++ '/' :: (toString snapshot.id).toList).splitOn '/' =
      ["Customer".toList, (toString snapshot.id).toList] := by
    rw [List.splitOn_append_cons_self_of_not_mem (by decide), List.splitOn_eq_singleton fun slash => ?_]
    exact absurd (digits '/' slash) (by decide)
  unfold parseGid
  dsimp only
  rw [shown, List.take_left, List.drop_left, parts, if_pos rfl]
  cases number : (toString snapshot.id).toList with
  | nil => exact absurd number (Numeral.toString_ne_nil snapshot.id)
  | cons digit rest =>
    rw [number] at digits
    have all : (digit :: rest).all Char.isDigit = true := List.all_eq_true.mpr digits
    have letters : 'C'.isAlpha && "ustomer".toList.all Char.isAlphanum = true := by decide
    exact if_pos (Bool.and_eq_true .. |>.mpr ⟨letters, all⟩)

theorem toNode_id_injective {first second : ShopifyCustomer} (same : first.toNode.id = second.toNode.id) :
    first.id = second.id := by
  have digits : toString first.id = toString second.id := String.append_right_inj _ |>.mp same
  have number := congrArg (fun text => parseIntOrZero (some text)) digits
  simpa only [parseIntOrZero_toString, Int.natCast_inj] using number

end Numbers

section Tags

/-- A tag that the separators and the trimming leave as it is. -/
def CanonicalTag (tag : String) : Prop := tag ≠ "" ∧ ',' ∉ tag.toList ∧ trim tag.toList = tag.toList

instance (tag : String) : Decidable (CanonicalTag tag) := inferInstanceAs (Decidable (_ ∧ _))

theorem trim_eq (text : List Char) : trim text = (text.dropWhile isSpace).rdropWhile isSpace := rfl

theorem trim_space (text : List Char) : trim (' ' :: text) = trim text := by
  rw [trim_eq, trim_eq, List.dropWhile_cons_of_pos (by decide)]

theorem trim_subset {text : List Char} : trim text ⊆ text := by
  rw [trim_eq]
  exact fun char listed => (List.dropWhile_suffix _).subset ((List.rdropWhile_prefix _ _).subset listed)

/-- What is trimmed starts with no space, so only its end could be trimmed again. -/
theorem trim_trim (text : List Char) : trim (trim text) = trim text := by
  have start : (trim text).dropWhile isSpace = trim text := by
    rw [trim_eq]
    cases kept : (text.dropWhile isSpace).rdropWhile isSpace with
    | nil => rfl
    | cons first rest =>
      obtain ⟨ending, whole⟩ := List.rdropWhile_prefix isSpace (text.dropWhile isSpace)
      rw [kept, List.cons_append] at whole
      have trimmed : (first :: (rest ++ ending)).dropWhile isSpace = first :: (rest ++ ending) := by
        rw [whole]
        exact List.dropWhile_idempotent _ _
      by_cases space : isSpace first = true
      · rw [List.dropWhile_cons_of_pos space] at trimmed
        have shorter := (List.dropWhile_suffix isSpace (l := rest ++ ending)).length_le
        rw [trimmed, List.length_cons] at shorter
        omega
      · exact List.dropWhile_cons_of_neg space
  rw [trim_eq (trim text), start, trim_eq]
  exact List.rdropWhile_idempotent _ _

/-- A separator of two characters is the comma, and a space at the head of what follows. -/
theorem intercalate_comma_space (first : List Char) (rest : List (List Char)) :
    [',', ' '].intercalate (first :: rest) = [','].intercalate (first :: rest.map (' ' :: ·)) := by
  induction rest generalizing first with
  | nil => rfl
  | cons second rest ih =>
    rw [List.map_cons, List.intercalate_cons_cons, List.intercalate_cons_cons, ih, List.intercalate_cons_cons_left]
    simp only [List.append_assoc, List.cons_append, List.nil_append]

theorem comma_notMem_splitOn {text piece : List Char} (listed : piece ∈ text.splitOn ',') : ',' ∉ piece := by
  induction text generalizing piece with
  | nil =>
    obtain rfl := List.mem_singleton.mp listed
    exact List.not_mem_nil
  | cons first rest ih =>
    rw [List.splitOn_cons_eq_if_modifyHead] at listed
    split at listed
    · rcases List.mem_cons.mp listed with rfl | later
      · exact List.not_mem_nil
      · exact ih later
    · rename_i other
      cases pieces : rest.splitOn ',' with
      | nil => exact absurd pieces (List.splitOn_ne_nil _ _)
      | cons head tail =>
        rw [pieces, List.modifyHead_cons] at listed
        have ih {piece : List Char} (here : piece ∈ head :: tail) : ',' ∉ piece := ih (pieces ▸ here)
        rcases List.mem_cons.mp listed with rfl | later
        · rw [List.mem_cons, not_or]
          exact ⟨fun same => other (beq_iff_eq.mpr same.symm), ih List.mem_cons_self⟩
        · exact ih (List.mem_cons_of_mem _ later)

theorem splitTags_canonical {text tag : String} (listed : tag ∈ splitTags (some text)) : CanonicalTag tag := by
  obtain ⟨trimmed, member, rfl⟩ := List.mem_map.mp listed
  obtain ⟨made, nonempty⟩ := List.mem_filter.mp member
  obtain ⟨piece, split, rfl⟩ := List.mem_map.mp made
  rw [CanonicalTag, String.toList_ofList]
  refine ⟨fun empty => ?_, fun comma => comma_notMem_splitOn split (trim_subset comma), trim_trim piece⟩
  have nil : trim piece = [] := by simpa using congrArg String.toList empty
  simp [nil] at nonempty

theorem splitTags_pieces {first : String} {rest : List String} (canonical : ∀ tag ∈ first :: rest, CanonicalTag tag) :
    (joinTags (first :: rest)).toList.splitOn ',' = first.toList :: rest.map fun tag => ' ' :: tag.toList := by
  rw [joinTags, String.toList_ofList, List.map_cons, intercalate_comma_space, List.map_map]
  refine List.splitOn_intercalate ',' (fun piece listed => ?_) (List.cons_ne_nil _ _)
  rcases List.mem_cons.mp listed with rfl | later
  · exact (canonical first List.mem_cons_self).2.1
  · obtain ⟨tag, member, rfl⟩ := List.mem_map.mp later
    rw [Function.comp_apply, List.mem_cons, not_or]
    exact ⟨by decide, (canonical tag (List.mem_cons_of_mem _ member)).2.1⟩

/-- REST and GraphQL agree on the tags exactly when each of them is canonical. -/
theorem splitTags_joinTags (tags : List String) :
    splitTags (some (joinTags tags)) = tags ↔ ∀ tag ∈ tags, CanonicalTag tag := by
  refine ⟨fun same tag listed => splitTags_canonical (same ▸ listed), fun canonical => ?_⟩
  cases tags with
  | nil => rfl
  | cons first rest =>
    have trims : (first.toList :: rest.map fun tag => ' ' :: tag.toList).map trim = (first :: rest).map String.toList := by
      rw [List.map_cons, List.map_cons, List.map_map, (canonical first List.mem_cons_self).2.2]
      refine congrArg _ (List.map_congr_left fun tag listed => ?_)
      rw [Function.comp_apply, trim_space, (canonical tag (List.mem_cons_of_mem _ listed)).2.2]
    have kept : ((first :: rest).map String.toList).filter (fun tag => !tag.isEmpty) = (first :: rest).map String.toList := by
      refine List.filter_eq_self.mpr fun tag listed => ?_
      obtain ⟨text, member, rfl⟩ := List.mem_map.mp listed
      have nonempty := (canonical text member).1
      simpa using nonempty
    change (((joinTags (first :: rest)).toList.splitOn ',').map trim |>.filter fun tag => !tag.isEmpty).map String.ofList = _
    rw [splitTags_pieces canonical, trims, kept, List.map_map]
    exact List.map_id'' (fun _ => String.ofList_toList) _

end Tags

end WinBack
