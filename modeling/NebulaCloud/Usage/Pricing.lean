import Mathlib.Algebra.Order.Ring.Unbundled.Rat
import Mathlib.Data.List.Infix
import NebulaCloud.Platform.Double
import NebulaCloud.Platform.Text

namespace NebulaCloud.Usage

open NebulaCloud.Platform

/-! # Model pricing

Standard rates fill the gaps that a runtime leaves in its reports. -/

structure ModelTokenRates where
  input : Rat
  cachedInput : Rat
  output : Rat

structure ModelUsageCostInput where
  provider : String
  model : String
  inputTokens : Int
  outputTokens : Int
  cachedTokens : Int

structure ModelUsageCostEstimate where
  estimatedCostMicrousd : Int
  cacheSavingsMicrousd : Int
deriving DecidableEq, Repr

/-- `text.includes(fragment)`. -/
def includes (text fragment : String) : Bool := fragment.toList <:+: text.toList

def modelIncludes (providerNames fragments : List String) (provider model : String) : Bool :=
  providerNames.any (includes provider) && fragments.any (includes model)

structure PricingRule where
  matching : String → String → Bool
  rates : ModelTokenRates

/-- Decimal literals denote the nearest doubles. -/
def tokenRates (input cachedInput output : Rat) : ModelTokenRates :=
  ⟨roundDouble input, roundDouble cachedInput, roundDouble output⟩

def pricingRules : List PricingRule :=
  [⟨modelIncludes ["openai", "codex"] ["gpt-5.6-sol"], tokenRates 5 0.5 30⟩,
    ⟨modelIncludes ["openai", "codex"] ["gpt-5.6-terra"], tokenRates 2 0.2 12⟩,
    ⟨modelIncludes ["openai", "codex"] ["gpt-5.6-luna"], tokenRates 0.2 0.02 1.2⟩,
    ⟨modelIncludes ["openai", "codex"] ["gpt-5.5"], tokenRates 5 0.5 30⟩,
    ⟨modelIncludes ["openai", "codex"] ["gpt-5.4"], tokenRates 2.5 0.25 15⟩,
    ⟨modelIncludes ["openai", "codex"] ["gpt-5.2"], tokenRates 1.75 0.175 14⟩,
    ⟨modelIncludes ["openai", "codex"] ["gpt-5.1-codex-mini"], tokenRates 0.25 0.025 2⟩,
    ⟨modelIncludes ["openai", "codex"] ["gpt-5.1", "gpt-5-codex", "gpt-5"], tokenRates 1.25 0.125 10⟩,
    ⟨modelIncludes ["openai", "codex"] ["gpt-4.1-mini"], tokenRates 0.4 0.1 1.6⟩,
    ⟨modelIncludes ["openai", "codex"] ["gpt-4.1-nano"], tokenRates 0.1 0.025 0.4⟩,
    ⟨modelIncludes ["openai", "codex"] ["gpt-4.1"], tokenRates 2 0.5 8⟩,
    ⟨modelIncludes ["anthropic", "claude"] ["fable-5", "mythos-5"], tokenRates 10 1 50⟩,
    ⟨modelIncludes ["anthropic", "claude"] ["opus-5", "opus-4.8", "opus-4.7", "opus-4.6", "opus-4.5"],
      tokenRates 5 0.5 25⟩,
    ⟨modelIncludes ["anthropic", "claude"] ["sonnet-5"], tokenRates 2 0.2 10⟩,
    ⟨modelIncludes ["anthropic", "claude"] ["sonnet-4.6", "sonnet-4.5", "sonnet-4"], tokenRates 3 0.3 15⟩,
    ⟨modelIncludes ["anthropic", "claude"] ["haiku-4.5"], tokenRates 1 0.1 5⟩,
    ⟨modelIncludes ["anthropic", "claude"] ["haiku-3.5"], tokenRates 0.8 0.08 4⟩,
    ⟨modelIncludes ["google", "gemini"] ["gemini-3.5-flash-lite"], tokenRates 0.3 0.03 2.5⟩,
    ⟨modelIncludes ["google", "gemini"] ["gemini-3.5-flash"], tokenRates 1.5 0.15 9⟩,
    ⟨modelIncludes ["google", "gemini"] ["gemini-3.1-flash-lite"], tokenRates 0.25 0.025 1.5⟩,
    ⟨modelIncludes ["google", "gemini"] ["gemini-3.1-pro"], tokenRates 2 0.2 12⟩,
    ⟨modelIncludes ["google", "gemini"] ["gemini-2.5-flash-lite"], tokenRates 0.1 0.025 0.4⟩,
    ⟨modelIncludes ["google", "gemini"] ["gemini-2.5-flash"], tokenRates 0.3 0.03 2.5⟩,
    ⟨modelIncludes ["google", "gemini"] ["gemini-2.5-pro"], tokenRates 1.25 0.125 10⟩,
    ⟨modelIncludes ["xai", "grok"] ["grok-4.5"], tokenRates 2 0.3 6⟩,
    ⟨modelIncludes ["xai", "grok"] ["grok-4.3"], tokenRates 1.25 0.2 2.5⟩,
    ⟨modelIncludes ["xai", "grok"] ["grok-build-0.1"], tokenRates 1 0.2 2⟩]

section

variable (toLowerCase : String → String)

def modelTokenRates (provider model : String) : Option ModelTokenRates :=
  let normalizedProvider := toLowerCase (trim provider)
  let normalizedModel := toLowerCase (trim model)
  (pricingRules.find? fun rule => rule.matching normalizedProvider normalizedModel).map (·.rates)

/-- Dollars for a million tokens are millionths of a dollar for one. -/
def estimateModelUsageCost (input : ModelUsageCostInput) : ModelUsageCostEstimate :=
  match modelTokenRates toLowerCase input.provider input.model with
  | none => ⟨0, 0⟩
  | some rates =>
      let cachedTokens := min input.inputTokens (max 0 input.cachedTokens)
      let uncachedInputTokens := max 0 (input.inputTokens - cachedTokens)
      { estimatedCostMicrousd := mathRound
          (Double.add
            (Double.add (Double.mul uncachedInputTokens rates.input) (Double.mul cachedTokens rates.cachedInput))
            (Double.mul (max 0 input.outputTokens : Int) rates.output))
        cacheSavingsMicrousd :=
          mathRound (Double.mul cachedTokens (max 0 (Double.sub rates.input rates.cachedInput))) }

end

example : estimateModelUsageCost id ⟨"openai", "gpt-5.4", 1000, 10, 400⟩ = ⟨1750, 900⟩ := by
  decide +kernel

end NebulaCloud.Usage
