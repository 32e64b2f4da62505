import WinBack.Library.Numeral
import WinBack.Library.Replace
import WinBack.Generation.Worker
import WinBack.Shopify.DiscountCode

/-! The discount in a generated text: the model writes placeholders, and the worker puts the code and the percentage
in their place. -/

namespace WinBack.Generation

open Library Shopify

section Substitution

/-- The occurrences are found from the left, and what is between them is kept. -/
theorem splitJoin_eq (token value text : List Char) (skip : Nat) :
    splitJoin token value skip text = value.intercalate (Replace.cut token skip text) := by
  induction text generalizing skip with
  | nil => cases skip <;> rfl
  | cons char rest ih =>
    cases skip with
    | succ skip => exact ih skip
    | zero =>
      unfold splitJoin Replace.cut
      by_cases here : token <+: char :: rest
      · rw [if_pos (List.isPrefixOf_iff_prefix.mpr here), if_pos here, ih,
          List.intercalate_cons_of_ne_nil (Replace.cut_ne_nil _ _ _)]
        rfl
      · rw [if_neg (mt List.isPrefixOf_iff_prefix.mp here), if_neg here, ih]
        obtain ⟨piece, more, pieces⟩ := List.exists_cons_of_ne_nil (Replace.cut_ne_nil token 0 rest)
        rw [pieces]
        cases more <;> rfl

theorem toList_replaceToken (token value text : String) :
    (replaceToken token value text).toList = Replace.replaceAll token.toList value.toList text.toList := by
  rw [replaceToken, String.toList_ofList, splitJoin_eq]
  rfl

theorem includesToken_iff {token text : String} : includesToken token text = true ↔ token.toList <:+: text.toList := by
  simp only [includesToken, List.any_eq_true, List.mem_tails, List.isPrefixOf_iff_prefix]
  exact ⟨fun ⟨back, suffix, begins⟩ => begins.isInfix.trans suffix.isInfix, fun occurs => by
    obtain ⟨front, back, split⟩ := occurs
    exact ⟨token.toList ++ back, ⟨front, by rw [← List.append_assoc, split]⟩, List.prefix_append _ _⟩⟩

end Substitution

section Placeholders

/-- The two placeholders. -/
inductive Placeholder where
  | code | valuePercent
  deriving DecidableEq, Repr

def Placeholder.token : Placeholder → String
  | .code => discountCodeToken
  | .valuePercent => discountValuePercentToken

/-- What is put in the place of a placeholder. -/
def DiscountSubstitution.value (discount : DiscountSubstitution) : Placeholder → String
  | .code => discount.code
  | .valuePercent => toString discount.valuePercent

def placeholders : Placeholder → List Char := fun placeholder => placeholder.token.toList

theorem placeholders_apart : Replace.Apart placeholders where
  nonempty token := by cases token <;> decide
  same first second begins := by
    cases first <;> cases second
    · rfl
    · exact absurd begins (by decide)
    · exact absurd begins (by decide)
    · rfl
  inside first second count positive within := by
    have every : ∀ count : Fin 30, 0 < count.val → count.val < (placeholders first).length →
        ¬(placeholders first).drop count.val <+: placeholders second ∧ ¬placeholders second <+: (placeholders first).drop count.val := by
      cases first <;> cases second <;> decide
    have short : (placeholders first).length ≤ 30 := by cases first <;> decide
    exact every ⟨count, within.trans_le short⟩ positive within

/-- What a placeholder begins and ends with, and is written with. -/
theorem placeholders_letters (placeholder : Placeholder) : (placeholders placeholder).head? = some '\x7b' ∧
    (placeholders placeholder).getLast? = some '\x7d' ∧ '-' ∉ placeholders placeholder ∧
      (placeholders placeholder).all (fun letter => !letter.isDigit) = true := by
  cases placeholder <;> decide

variable {computeHmacSha256 : String → String → List UInt8} {secret merchantId aiGenerationId : String}

/-- A code has no braces, and its prefix has a dash. -/
theorem inert_code (placeholder : Placeholder) : Replace.Inert (placeholders placeholder)
    (Shopify.deriveWinbackDiscountCode computeHmacSha256 secret merchantId aiGenerationId).toList := by
  obtain ⟨head, last, dash, _⟩ := placeholders_letters placeholder
  have braces : '\x7b' ∉ ['W', 'B', '-'] ++ Base32.crockfordAlphabet.toList ∧
      '\x7d' ∉ ['W', 'B', '-'] ++ Base32.crockfordAlphabet.toList := by decide
  refine ⟨fun letter listed begins => ?_, fun letter listed ends => ?_, '-', ?_, dash⟩
  · obtain rfl := Option.some.inj (head.symm.trans begins)
    exact braces.1 (mem_code listed)
  · obtain rfl := Option.some.inj (last.symm.trans ends)
    exact braces.2 (mem_code listed)
  · rw [toList_code]
    exact List.mem_append_left _ (by decide)

/-- A percentage is written with digits and a sign. -/
theorem inert_percent (placeholder : Placeholder) (valuePercent : Int) :
    Replace.Inert (placeholders placeholder) (toString valuePercent).toList := by
  obtain ⟨head, last, dash, digitless⟩ := placeholders_letters placeholder
  obtain ⟨some, letters⟩ := Numeral.letters_int valuePercent
  have foreign (letter : Char) (listed : letter ∈ (toString valuePercent).toList) : letter ∉ placeholders placeholder := by
    intro spelled
    rcases letters letter listed with digit | rfl
    · have plain := List.all_eq_true.mp digitless letter spelled
      rw [digit] at plain
      cases plain
    · exact dash spelled
  obtain ⟨first, rest, shown⟩ := List.exists_cons_of_ne_nil some
  refine ⟨fun letter listed begins => foreign letter listed (List.mem_of_head? begins),
    fun letter listed ends => foreign letter listed (List.mem_of_getLast? ends), first, ?_, foreign first ?_⟩
  all_goals
    rw [shown]
    exact List.mem_cons_self

end Placeholders

section Worker

theorem utf16Prefix_go {limit : Nat} {text : List Char} (narrow : ∀ letter ∈ text, letter.val < 0x10000) :
    utf16Prefix.go limit text = text.take limit := by
  induction text generalizing limit with
  | nil => cases limit <;> rfl
  | cons letter text ih =>
    have one : (if letter.val < 0x10000 then 1 else 2) = 1 := if_pos (narrow letter List.mem_cons_self)
    unfold utf16Prefix.go
    rw [one]
    cases limit with
    | zero => rfl
    | succ limit =>
      rw [if_pos (Nat.le_add_left 1 limit), Nat.add_sub_cancel, ih fun other member => narrow other (List.mem_cons_of_mem _ member)]
      rfl

/-- The code of the worker is the derived one, where its digest is the encoded digest of the runtime. -/
theorem deriveWinbackDiscountCode_eq {context : WorkerContext}
    (digested : ∀ secret message, context.keyedDigest secret message = Base32.encodeCrockfordBase32 (computeHmacSha256 secret message)) :
    deriveWinbackDiscountCode context merchantId aiGenerationId =
      Shopify.deriveWinbackDiscountCode computeHmacSha256 context.shopifyApiSecret merchantId aiGenerationId := by
  have narrow : Base32.crockfordAlphabet.toList.all (fun letter => decide (letter.val < 0x10000)) = true := by decide
  unfold deriveWinbackDiscountCode utf16Prefix
  rw [digested, utf16Prefix_go fun letter member =>
    of_decide_eq_true (List.all_eq_true.mp narrow letter ((Base32.encode_spells _).1 letter member))]
  rfl

end Worker

section Exact

variable {discount : DiscountSubstitution} {text : String}

theorem missingTokens_eq : (substituteDiscountTokens text (some discount)).missingTokens =
    ([Placeholder.code, Placeholder.valuePercent].filter fun placeholder =>
      ¬placeholders placeholder <:+: text.toList).map Placeholder.token := by
  have absent (placeholder : Placeholder) : (!includesToken placeholder.token text) =
      decide ¬placeholders placeholder <:+: text.toList := by
    rw [Bool.eq_iff_iff, Bool.not_eq_true', ← Bool.not_eq_true, includesToken_iff, decide_eq_true_iff]
    rfl
  have missing : (substituteDiscountTokens text (some discount)).missingTokens =
      ([Placeholder.code, Placeholder.valuePercent].map Placeholder.token).filter
        fun token => !includesToken token text := rfl
  rw [missing, List.filter_map]
  exact congrArg _ (List.filter_congr fun placeholder _ => absent placeholder)

/-- First the code is put in, then the percentage. -/
theorem toList_substituted {pieces : List (Char ⊕ Placeholder)} (marks : Replace.Marks placeholders text.toList pieces)
    (inert : ∀ placeholder other, Replace.Inert (placeholders placeholder) (discount.value other).toList) :
    (substituteDiscountTokens text (some discount)).text.toList =
      Replace.spell (fun placeholder => (discount.value placeholder).toList) pieces := by
  have coded : Replace.replaceAll (placeholders .code) discount.code.toList (Replace.spell placeholders pieces) =
      Replace.spell (Function.update placeholders .code discount.code.toList) pieces :=
    marks.replaceAll placeholders_apart rfl (fun _ => .inl rfl) _
  have valued : Replace.replaceAll (placeholders .valuePercent) (toString discount.valuePercent).toList
      (Replace.spell (Function.update placeholders .code discount.code.toList) pieces) =
      Replace.spell (Function.update (Function.update placeholders .code discount.code.toList) .valuePercent
        (toString discount.valuePercent).toList) pieces := by
    have unreplaced : Function.update placeholders .code discount.code.toList .valuePercent = placeholders .valuePercent := rfl
    have kept (other : Placeholder) : Function.update placeholders .code discount.code.toList other = placeholders other ∨
        Replace.Inert (placeholders .valuePercent) (Function.update placeholders .code discount.code.toList other) := by
      cases other with
      | code => exact .inr (inert .valuePercent .code)
      | valuePercent => exact .inl rfl
    exact marks.replaceAll placeholders_apart unreplaced kept _
  have values : Function.update (Function.update placeholders .code discount.code.toList) .valuePercent
      (toString discount.valuePercent).toList = fun placeholder => (discount.value placeholder).toList := by
    funext placeholder
    cases placeholder <;> rfl
  change (replaceToken _ _ (replaceToken _ _ text)).toList = _
  rw [toList_replaceToken, toList_replaceToken, ← values, ← valued, ← coded, marks.spell]
  rfl

/-- Every placeholder is found, and each is replaced by its value, whatever is around it; none is left, and none
comes about. -/
theorem substitution_exact (computeHmacSha256 : String → String → List UInt8) (secret merchantId aiGenerationId : String)
    (valuePercent : Int) (text : String) :
    let discount : DiscountSubstitution :=
      ⟨Shopify.deriveWinbackDiscountCode computeHmacSha256 secret merchantId aiGenerationId, valuePercent⟩
    let result := substituteDiscountTokens text (some discount)
    (∃ pieces : List (Char ⊕ Placeholder),
      Replace.spell placeholders pieces = text.toList ∧
      (∀ placeholder front back, text.toList = front ++ placeholders placeholder ++ back →
        ∃ before after, pieces = before ++ .inr placeholder :: after ∧ Replace.spell placeholders before = front) ∧
      result.text.toList = Replace.spell (fun placeholder => (discount.value placeholder).toList) pieces) ∧
    (∀ placeholder, ¬placeholders placeholder <:+: result.text.toList) ∧
    result.missingTokens = ([Placeholder.code, Placeholder.valuePercent].filter fun placeholder =>
      ¬placeholders placeholder <:+: text.toList).map Placeholder.token := by
  intro discount result
  obtain ⟨pieces, marks⟩ := Replace.exists_marks placeholders_apart.nonempty text.toList
  have inert (placeholder other : Placeholder) :
      Replace.Inert (placeholders placeholder) (discount.value other).toList := by
    cases other with
    | code => exact inert_code placeholder
    | valuePercent => exact inert_percent placeholder valuePercent
  have written : result.text.toList = Replace.spell (fun placeholder => (discount.value placeholder).toList) pieces :=
    toList_substituted marks inert
  refine ⟨⟨pieces, marks.spell, fun placeholder front back occurs => marks.occurrence placeholders_apart occurs, written⟩,
    fun placeholder => ?_, missingTokens_eq⟩
  rw [written]
  exact marks.not_infix placeholders_apart (inert placeholder)

end Exact

end WinBack.Generation
