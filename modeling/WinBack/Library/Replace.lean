import Mathlib.Data.List.Infix
import Mathlib.Logic.Function.Basic
import Mathlib.Tactic.Common

/-! Tokens in a text: a text is cut at a token and joined again with its value, one token after the other.
Where no two tokens overlap, and no value can be part of one, that is to replace every occurrence at once. -/

namespace WinBack.Library.Replace

variable {Letter Token : Type}

section Cut

variable [DecidableEq Letter] {separator replacement text rest word : List Letter} {letter : Letter}

/-- The pieces between the occurrences of the separator, found from the left; so many letters of
the last one are still to pass. -/
def cut (separator : List Letter) : Nat → List Letter → List (List Letter)
  | _, [] => [[]]
  | passing + 1, _ :: rest => cut separator passing rest
  | 0, letter :: rest =>
    if separator <+: letter :: rest then [] :: cut separator (separator.length - 1) rest
    else (cut separator 0 rest).modifyHead (letter :: ·)

/-- `split` and `join`. -/
def replaceAll (separator replacement text : List Letter) : List Letter := replacement.intercalate (cut separator 0 text)

theorem cut_ne_nil (separator : List Letter) (passing : Nat) (text : List Letter) : cut separator passing text ≠ [] := by
  induction text generalizing passing with
  | nil => exact List.cons_ne_nil _ _
  | cons letter rest ih =>
    cases passing with
    | zero =>
      unfold cut
      split
      · exact List.cons_ne_nil _ _
      · rw [ne_eq, List.modifyHead_eq_nil_iff]
        exact ih 0
    | succ passing => exact ih passing

theorem cut_passing (separator word text : List Letter) : cut separator word.length (word ++ text) = cut separator 0 text := by
  induction word with
  | nil => rfl
  | cons letter word ih => exact ih

@[simp] theorem replaceAll_nil (separator replacement : List Letter) : replaceAll separator replacement [] = [] := rfl

/-- An occurrence at the head is replaced, and the rest is read from behind it. -/
theorem replaceAll_hit (some : separator ≠ []) : replaceAll separator replacement (separator ++ rest) =
    replacement ++ replaceAll separator replacement rest := by
  obtain ⟨first, last, rfl⟩ := List.exists_cons_of_ne_nil some
  have here : first :: last <+: first :: (last ++ rest) := List.prefix_append (first :: last) rest
  have pieces : cut (first :: last) 0 (first :: last ++ rest) = [] :: cut (first :: last) 0 rest := by
    rw [List.cons_append, cut, if_pos here]
    exact congrArg _ (cut_passing (first :: last) last rest)
  rw [replaceAll, pieces, List.intercalate_cons_of_ne_nil (cut_ne_nil _ _ _)]
  rfl

theorem replaceAll_miss (apart : ¬separator <+: letter :: rest) :
    replaceAll separator replacement (letter :: rest) = letter :: replaceAll separator replacement rest := by
  obtain ⟨piece, more, pieces⟩ := List.exists_cons_of_ne_nil (cut_ne_nil separator 0 rest)
  have added : cut separator 0 (letter :: rest) = (letter :: piece) :: more := by
    rw [cut, if_neg apart, pieces]
    rfl
  rw [replaceAll, replaceAll, added, pieces]
  cases more with
  | nil => rfl
  | cons next later => rfl

/-- A word in which no occurrence begins stays. -/
theorem replaceAll_keep (apart : ∀ count < word.length, ¬separator <+: word.drop count ++ rest) :
    replaceAll separator replacement (word ++ rest) = word ++ replaceAll separator replacement rest := by
  induction word with
  | nil => rfl
  | cons letter word ih =>
    have here : ¬separator <+: letter :: (word ++ rest) := apart 0 (Nat.succ_pos _)
    rw [List.cons_append, replaceAll_miss here, List.cons_append,
      ih fun count below => apart (count + 1) (Nat.succ_lt_succ below)]

end Cut

section Marking

/-- A text of letters and tokens, where every token is spelled. -/
def spell (values : Token → List Letter) (pieces : List (Letter ⊕ Token)) : List Letter :=
  pieces.flatMap (Sum.elim ([·]) values)

/-- The text with the tokens that occur in it, read from the left. -/
inductive Marks (tokens : Token → List Letter) : List Letter → List (Letter ⊕ Token) → Prop where
  | nil : Marks tokens [] []
  | token {rest : List Letter} {pieces : List (Letter ⊕ Token)} (token : Token) (marks : Marks tokens rest pieces) :
      Marks tokens (tokens token ++ rest) (.inr token :: pieces)
  | letter {rest : List Letter} {pieces : List (Letter ⊕ Token)} {letter : Letter}
      (apart : ∀ token, ¬tokens token <+: letter :: rest) (marks : Marks tokens rest pieces) :
      Marks tokens (letter :: rest) (.inl letter :: pieces)

/-- No token begins within another one, neither inside of it nor beyond its end. -/
structure Apart (tokens : Token → List Letter) : Prop where
  nonempty : ∀ token, tokens token ≠ []
  same : ∀ first second, tokens first <+: tokens second → first = second
  inside : ∀ first second count, 0 < count → count < (tokens first).length →
    ¬(tokens first).drop count <+: tokens second ∧ ¬tokens second <+: (tokens first).drop count

/-- A value that no occurrence of the token can touch. -/
structure Inert (token value : List Letter) : Prop where
  head : ∀ letter ∈ value, token.head? ≠ some letter
  last : ∀ letter ∈ value, token.getLast? ≠ some letter
  foreign : ∃ letter ∈ value, letter ∉ token

variable {tokens values : Token → List Letter} {text rest front back word value : List Letter} {pieces : List (Letter ⊕ Token)}
  {token other : Token}

theorem spell_letter (letter : Letter) : spell values (.inl letter :: pieces) = letter :: spell values pieces := rfl

theorem spell_token (token : Token) : spell values (.inr token :: pieces) = values token ++ spell values pieces := rfl

/-- Every text can be marked. -/
theorem exists_marks (nonempty : ∀ token, tokens token ≠ []) (text : List Letter) : ∃ pieces, Marks tokens text pieces := by
  induction length : text.length using Nat.strong_induction_on generalizing text with
  | _ size ih =>
    subst length
    by_cases here : ∃ token, tokens token <+: text
    · obtain ⟨token, rest, rfl⟩ := here
      have shorter : rest.length < (tokens token ++ rest).length := by
        have positive := List.length_pos_iff.mpr (nonempty token)
        rw [List.length_append]
        omega
      obtain ⟨pieces, marks⟩ := ih rest.length shorter rest rfl
      exact ⟨_, marks.token token⟩
    · cases text with
      | nil => exact ⟨[], .nil⟩
      | cons letter rest =>
        obtain ⟨pieces, marks⟩ := ih rest.length (Nat.lt_succ_self _) rest rfl
        exact ⟨_, marks.letter fun token begins => here ⟨token, begins⟩⟩

theorem Marks.spell (marks : Marks tokens text pieces) : spell tokens pieces = text := by
  induction marks with
  | nil => rfl
  | token token _ ih => rw [spell_token, ih]
  | letter _ _ ih => rw [spell_letter, ih]

/-- An inert value holds no beginning of the token. -/
theorem Inert.not_begins (inert : Inert (tokens token) value) (nonempty : tokens token ≠ []) {count : Nat}
    (within : count < value.length) : ¬tokens token <+: value.drop count ++ rest := by
  obtain ⟨first, last, spelled⟩ := List.exists_cons_of_ne_nil nonempty
  intro begins
  rw [List.drop_eq_getElem_cons within, spelled] at begins
  have letter : first = value[count] := (List.cons_prefix_cons.mp begins).1
  refine inert.head value[count] (List.getElem_mem within) ?_
  rw [spelled, letter]
  rfl

/-- An occurrence that begins within a token is this token. -/
theorem Apart.same_of_begins (apart : Apart tokens) {count : Nat} (within : count < (tokens token).length)
    (begins : tokens other <+: (tokens token).drop count ++ rest) : count = 0 ∧ other = token := by
  rcases Nat.eq_zero_or_pos count with rfl | inside
  · rw [List.drop_zero] at begins
    rcases List.prefix_or_prefix_of_prefix begins (List.prefix_append _ _) with first | second
    · exact ⟨rfl, apart.same other token first⟩
    · exact ⟨rfl, (apart.same token other second).symm⟩
  · obtain ⟨shorter, longer⟩ := apart.inside token other count inside within
    rcases List.prefix_or_prefix_of_prefix begins (List.prefix_append _ _) with first | second
    · exact absurd first longer
    · exact absurd second shorter

/-- Every occurrence is marked. -/
theorem Marks.occurrence (apart : Apart tokens) (marks : Marks tokens text pieces) (occurs : text = front ++ tokens token ++ back) :
    ∃ before after, pieces = before ++ .inr token :: after ∧ Replace.spell tokens before = front := by
  induction marks generalizing front with
  | nil =>
    obtain ⟨none, _⟩ := List.append_eq_nil_iff.mp (List.append_eq_nil_iff.mp occurs.symm).1 |>.symm
    exact absurd none (apart.nonempty token)
  | @letter rest pieces letter unmarked _ ih =>
    cases front with
    | nil =>
      rw [List.nil_append] at occurs
      exact absurd ⟨back, occurs.symm⟩ (unmarked token)
    | cons first front =>
      obtain ⟨rfl, later⟩ := List.cons.inj occurs
      obtain ⟨before, after, split, spelled⟩ := ih later
      exact ⟨.inl letter :: before, after, by rw [split]; rfl, by rw [spell_letter, spelled]⟩
  | @token rest pieces other _ ih =>
    rw [List.append_assoc] at occurs
    rcases List.append_eq_append_iff.mp occurs with ⟨later, rfl, split⟩ | ⟨overlap, spelled, split⟩
    · -- behind this token
      rw [← List.append_assoc] at split
      obtain ⟨before, after, parted, spelled⟩ := ih split
      exact ⟨.inr other :: before, after, by rw [parted]; rfl, by rw [spell_token, spelled]⟩
    · have begins : tokens token <+: (tokens other).drop front.length ++ rest := by
        rw [spelled, List.drop_left, ← split]
        exact List.prefix_append _ _
      by_cases within : front.length < (tokens other).length
      · obtain ⟨none, rfl⟩ := apart.same_of_begins within begins
        exact ⟨[], pieces, rfl, (List.length_eq_zero_iff.mp none).symm⟩
      · have ended : overlap = [] := by
          rw [spelled, List.length_append] at within
          exact List.length_eq_zero_iff.mp (by omega)
        rw [ended, List.nil_append] at split
        obtain ⟨before, after, parted, nothing⟩ := ih (show rest = [] ++ tokens token ++ back from split.symm)
        refine ⟨.inr other :: before, after, by rw [parted]; rfl, ?_⟩
        rw [spell_token, nothing, spelled, ended, List.append_nil, List.append_nil]

theorem prefix_append_cases (begins : word <+: front ++ back) : word <+: front ∨ ∃ more, word = front ++ more ∧ more <+: back := by
  rcases List.prefix_or_prefix_of_prefix begins (List.prefix_append front back) with within | ⟨more, rfl⟩
  · exact .inl within
  · exact .inr ⟨more, rfl, (List.prefix_append_right_inj front).mp begins⟩

/-- An inert value holds no end of the token. -/
theorem Inert.not_ends (inert : Inert (tokens token) value) (some : word ≠ []) (last : word <:+ tokens token) :
    ¬word <+: value := by
  intro within
  obtain ⟨before, spelled⟩ := last
  obtain ⟨earlier, final, rfl⟩ := (List.eq_nil_or_concat' word).resolve_left some
  have ended : (tokens token).getLast? = .some final := by
    rw [← spelled, ← List.append_assoc, List.getLast?_concat]
  exact inert.last final (within.subset (List.mem_append_right _ (List.mem_singleton_self final))) ended

/-- What is left of a token is found in the text with its values only where it is found in the text itself. -/
theorem suffix_begins (kept : ∀ other, values other = tokens other ∨ Inert (tokens token) (values other))
    (last : word <:+ tokens token) (begins : word <+: Replace.spell values pieces) : word <+: Replace.spell tokens pieces := by
  induction pieces generalizing word with
  | nil => exact begins
  | cons piece pieces ih =>
    cases word with
    | nil => exact List.nil_prefix
    | cons first later =>
      cases piece with
      | inl letter =>
        rw [spell_letter] at begins ⊢
        obtain ⟨rfl, behind⟩ := List.cons_prefix_cons.mp begins
        exact List.cons_prefix_cons.mpr ⟨rfl, ih ((List.suffix_cons _ _).trans last) behind⟩
      | inr other =>
        rw [spell_token] at begins ⊢
        rcases kept other with same | inert
        · rw [same] at begins
          rcases prefix_append_cases begins with within | ⟨more, split, behind⟩
          · exact within.trans (List.prefix_append _ _)
          · rw [split] at last ⊢
            exact (List.prefix_append_right_inj _).mpr (ih ((List.suffix_append _ _).trans last) behind)
        · rcases prefix_append_cases begins with within | ⟨more, split, _⟩
          · exact absurd within (inert.not_ends (List.cons_ne_nil _ _) last)
          · obtain ⟨letter, here, foreign⟩ := inert.foreign
            exact absurd (last.subset (split ▸ List.mem_append_left _ here)) foreign

/-- To replace a token replaces each of its marks, and nothing else. -/
theorem Marks.replaceAll [DecidableEq Letter] [DecidableEq Token] (apart : Apart tokens) (marks : Marks tokens text pieces)
    (unreplaced : values token = tokens token) (kept : ∀ other, values other = tokens other ∨ Inert (tokens token) (values other))
    (replacement : List Letter) : Replace.replaceAll (tokens token) replacement (Replace.spell values pieces) =
      Replace.spell (Function.update values token replacement) pieces := by
  induction marks with
  | nil => rfl
  | @letter rest pieces letter unmarked marks ih =>
    rw [spell_letter, spell_letter, replaceAll_miss, ih]
    intro begins
    have found : tokens token <+: Replace.spell tokens (.inl letter :: pieces) := suffix_begins kept List.suffix_rfl begins
    rw [spell_letter, marks.spell] at found
    exact unmarked token found
  | @token rest pieces other _ ih =>
    rw [spell_token, spell_token]
    by_cases same : other = token
    · subst same
      rw [Function.update_self, unreplaced, replaceAll_hit (apart.nonempty other), ih]
    · rw [Function.update_of_ne same, replaceAll_keep, ih]
      intro count within
      rcases kept other with spelled | inert
      · rw [spelled] at within ⊢
        exact fun begins => same (apart.same_of_begins within begins).2.symm
      · exact inert.not_begins (apart.nonempty token) within

/-- Where every value is inert, no token is left, and none comes about. -/
theorem Marks.not_infix (apart : Apart tokens) (marks : Marks tokens text pieces)
    (inert : ∀ other, Inert (tokens token) (values other)) : ¬tokens token <:+: Replace.spell values pieces := by
  induction marks with
  | nil => exact fun occurs => apart.nonempty token (List.infix_nil.mp occurs)
  | @letter rest pieces letter unmarked marks ih =>
    intro occurs
    rw [spell_letter] at occurs
    rcases List.infix_cons_iff.mp occurs with begins | later
    · have found : tokens token <+: Replace.spell tokens (.inl letter :: pieces) :=
        suffix_begins (fun other => .inr (inert other)) List.suffix_rfl begins
      rw [spell_letter, marks.spell] at found
      exact unmarked token found
    · exact ih later
  | @token rest pieces other _ ih =>
    rintro ⟨front, back, spelled⟩
    rw [spell_token, List.append_assoc] at spelled
    rcases List.append_eq_append_iff.mp spelled with ⟨overlap, split, spelled⟩ | ⟨later, _, spelled⟩
    · by_cases within : front.length < (values other).length
      · have begins : tokens token <+: (values other).drop front.length ++ Replace.spell values pieces := by
          rw [split, List.drop_left, ← spelled]
          exact List.prefix_append _ _
        exact (inert other).not_begins (apart.nonempty token) within begins
      · have ended : overlap = [] := by
          rw [split, List.length_append] at within
          exact List.length_eq_zero_iff.mp (by omega)
        rw [ended, List.nil_append] at spelled
        exact ih ⟨[], back, spelled⟩
    · exact ih ⟨later, back, by rw [spelled, List.append_assoc]⟩

end Marking

end WinBack.Library.Replace
