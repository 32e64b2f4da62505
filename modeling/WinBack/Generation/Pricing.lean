import WinBack.Schema

/-! What a provider call costs, and the substitution of the discount placeholders in
the text it returned. -/

namespace WinBack.Generation

open Library

inductive AiProviderName where
  | openai | anthropic | deepseek
  deriving DecidableEq, Repr

def AiProviderName.text : AiProviderName → String
  | .openai => "openai"
  | .anthropic => "anthropic"
  | .deepseek => "deepseek"

/-- Microcents for each million tokens. -/
structure ModelCostRate where
  inputPer1M : Int
  outputPer1M : Int
  deriving DecidableEq, Repr

def providerCostRates : AiProviderName → List (String × ModelCostRate)
  | .openai => [("gpt-4.1", ⟨500_000_000, 1_500_000_000⟩), ("gpt-4.1-mini", ⟨40_000_000, 160_000_000⟩),
      ("gpt-4.1-nano", ⟨10_000_000, 40_000_000⟩)]
  | .anthropic => [("claude-opus-4-7", ⟨500_000_000, 2_500_000_000⟩),
      ("claude-sonnet-4-6", ⟨300_000_000, 1_500_000_000⟩), ("claude-haiku-4-5", ⟨100_000_000, 500_000_000⟩)]
  | .deepseek => [("deepseek-v4-flash", ⟨14_000_000, 28_000_000⟩), ("deepseek-v4-pro", ⟨174_000_000, 348_000_000⟩)]

/-- `bigint` division truncates toward zero. An unknown model throws. -/
def estimateCostMicrocents (provider : AiProviderName) (model : String) (inputTokens outputTokens : Int) :
    Except String Int :=
  match (providerCostRates provider).lookup model with
  | none => .error s!"Unknown provider/model: {provider.text}/{model}"
  | some rates =>
    .ok ((inputTokens * rates.inputPer1M).tdiv 1_000_000 + (outputTokens * rates.outputPer1M).tdiv 1_000_000)

structure DiscountSubstitution where
  code : String
  valuePercent : Int
  deriving DecidableEq, Repr

structure SubstituteResult where
  text : String
  missingTokens : List String
  deriving DecidableEq, Repr

def discountCodeToken : String := "\x7b\x7bDISCOUNT_CODE\x7d\x7d"

def discountValuePercentToken : String := "\x7b\x7bDISCOUNT_VALUE_PERCENT\x7d\x7d"

/-- The first `skip` characters belong to an occurrence that has been replaced. -/
def splitJoin (token value : List Char) : Nat → List Char → List Char
  | _, [] => []
  | 0, char :: rest =>
    if token.isPrefixOf (char :: rest) then value ++ splitJoin token value (token.length - 1) rest
    else char :: splitJoin token value 0 rest
  | skip + 1, _ :: rest => splitJoin token value skip rest

/-- `text.split(token).join(value)`. -/
def replaceToken (token value text : String) : String :=
  String.ofList (splitJoin token.toList value.toList 0 text.toList)

def includesToken (token text : String) : Bool :=
  text.toList.tails.any fun suffix => token.toList.isPrefixOf suffix

def substituteDiscountTokens (text : String) : Option DiscountSubstitution → SubstituteResult
  | none => ⟨text, []⟩
  | some discount =>
    { text := replaceToken discountValuePercentToken (toString discount.valuePercent)
        (replaceToken discountCodeToken discount.code text)
      missingTokens := [discountCodeToken, discountValuePercentToken].filter fun token => !includesToken token text }

example : substituteDiscountTokens "Use \x7b\x7bDISCOUNT_CODE\x7d\x7d now" (some ⟨"WB-7", 15⟩) =
    ⟨"Use WB-7 now", [discountValuePercentToken]⟩ := by
  decide

end WinBack.Generation
