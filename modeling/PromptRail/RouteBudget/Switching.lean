import PromptRail.Library.StableSort
import PromptRail.RouteBudget.Scoring
import PromptRail.Usage.Managed

/-!
# The cost of switching models (`lerouter_modal_api.py`)

A provider reads the prompt of a session from its cache as long as the session stays with its model. What that saves for the next
request is charged to every other model as a penalty, in its score. The models are otherwise ranked as if the session had no model.
-/

namespace PromptRail

open PyText (Text)
open Provider (field messagesText roleOf)
open Usage (ofJson)

namespace RouteBudget

namespace Switching

/-- What is taken from outside: the texts of messages and the readings of numbers. -/
structure Env where
  base : Provider.Env
  float : String → Option ℚ
  literal : String → Option ℚ

variable (env : Env)

/-! ## Prices -/

/-- `as_float` of a field. -/
def Env.asFloat (fields : Json.Fields) (name : String) : ℚ := PromptRail.asFloat env.float (ofJson env.literal (field fields name))

/-- `as_float` of a field of an object in a field. -/
def Env.nested (fields : Json.Fields) (place name : String) : Option ℚ := (Provider.asDict (field fields place)).map fun inner => env.asFloat inner name

/-- The first positive number of some, or the last resort. -/
def firstPositive (numbers : List ℚ) (resort : ℚ) : ℚ := (numbers.find? fun x => decide (0 < x)).getD resort

/-- `nested_model_cost`. -/
def nestedModelCost (model : Json.Fields) (key : String) : ℚ := max 0 ((env.nested model "model_cost" key).getD 0)

/-- `model_input_price_per_million`. -/
def modelInputPricePerMillion (model : Json.Fields) : ℚ :=
  firstPositive [env.asFloat model "input_price_per_million", nestedModelCost env model "input_usd_per_million"]
    (((env.nested model "pricing" "prompt").getD 0) * 1000000)

/-- `model_cache_price_per_million`, where `cacheKey` is `read` or `write`. -/
def modelCachePricePerMillion (model : Json.Fields) (cacheKey : String) : ℚ :=
  firstPositive [env.asFloat model ("input_cache_" ++ cacheKey ++ "_usd_per_million"),
      env.asFloat model ("input_cache_" ++ cacheKey ++ "_per_million"),
      nestedModelCost env model ("input_cache_" ++ cacheKey ++ "_usd_per_million")]
    (((env.nested model "pricing" ("input_cache_" ++ cacheKey)).getD 0) * 1000000)

/-- `cached_input_price_difference_per_million`. -/
def cachedInputPriceDifferencePerMillion (model : Json.Fields) : ℚ :=
  let inputPrice := modelInputPricePerMillion env model
  let cacheReadPrice := modelCachePricePerMillion env model "read"
  if inputPrice ≤ 0 ∨ cacheReadPrice ≤ 0 then 0 else max 0 (inputPrice - cacheReadPrice)

/-! ## The prompt that is cached -/

/-- Whether the message at an index is the user's. -/
def isUserAt (messages : List Json.Fields) (i : Nat) : Bool := messages[i]?.any fun message => roleOf env.base message == "user".toList

/-- `latest_user_index`. -/
def latestUserIndex (messages : List Json.Fields) : Option Nat := (List.range messages.length).reverse.find? (isUserAt env messages)

/-- `prefix_messages`. -/
def prefixMessages (messages : List Json.Fields) : List Json.Fields :=
  match latestUserIndex env messages with
  | some i => messages.take i
  | none => messages.dropLast

/-- `cacheable_prompt_text`. -/
def cacheablePromptText (messages : List Json.Fields) : Text := messagesText env.base (prefixMessages env messages)

/-- `estimate_cacheable_input_tokens`. -/
def estimateCacheableInputTokens (messages : List Json.Fields) : ℚ := max 0 ((cacheablePromptText env messages).length / 4)

/-- What `prompt_cache_savings` returns. -/
structure CacheSavings where
  cacheableInputTokens : ℚ
  cachedInputPriceDifferencePerMillion : ℚ := 0
  cachePricingAvailable : Bool := false
  promptCacheSavingsUsd : ℚ := 0
deriving DecidableEq

/-- `prompt_cache_savings`. -/
def promptCacheSavings (model : Json.Fields) (messages : List Json.Fields) : CacheSavings :=
  let cacheableTokens := estimateCacheableInputTokens env messages
  let priceDifference := cachedInputPriceDifferencePerMillion env model
  { cacheableInputTokens := Round.round 4 cacheableTokens
    cachedInputPriceDifferencePerMillion := Round.round 6 priceDifference
    cachePricingAvailable := 0 < modelInputPricePerMillion env model ∧ 0 < modelCachePricePerMillion env model "read"
    promptCacheSavingsUsd := Round.round 8 (max 0 (priceDifference / 1000000 * cacheableTokens)) }

/-! ## The estimator -/

/-- What is read of the last usage log of a session; a log without a model has the empty text for it. -/
structure PreviousUsage where
  modelId : String
  modelProfile : Option Json.Fields
  provider : Option Text

/-- A candidate, with its id as a text and its profile. -/
structure CandidateProfile where
  modelId : String
  profile : Json.Fields

/-- `previous_model_id`, where it is not empty. -/
def previousModelId (previous : Option PreviousUsage) : Option String := (previous.map (·.modelId)).filter (· ≠ "")

/-- `previous_model`. -/
def PreviousUsage.model (previous : PreviousUsage) : Json.Fields :=
  match previous.modelProfile with
  | some profile => profile
  | none => [("model_id", .str previous.modelId.toList), ("provider", (previous.provider.map .str).getD .null)]

/-- `continued_model`: a candidate with the id of the previous model, or what the log says of it. -/
def continuedModel (previous : PreviousUsage) (candidates : List CandidateProfile) : Json.Fields :=
  ((candidates.find? fun candidate => candidate.modelId = previous.modelId).map (·.profile)).getD previous.model

/-- What the session saves if it stays with its model. -/
def cacheSavings (previous : Option PreviousUsage) (messages : List Json.Fields) (candidates : List CandidateProfile) : CacheSavings :=
  match previous with
  | some usage =>
    if usage.modelId = "" then { cacheableInputTokens := Round.round 4 (estimateCacheableInputTokens env messages) }
    else promptCacheSavings env (continuedModel usage candidates) messages
  | none => { cacheableInputTokens := Round.round 4 (estimateCacheableInputTokens env messages) }

/-- What the estimator says of a candidate. -/
structure SwitchDetail where
  isPreviousModel : Bool
  switchingCostPenalty : ℚ
  cacheSavings : CacheSavings
deriving DecidableEq

/-- What `switch_cost_estimator` returns, of what is read further on. -/
structure SwitchCost where
  previousModelId : Option String
  continuedModelCacheSavingsUsd : ℚ
  penalties : List (String × ℚ)
  details : List (String × SwitchDetail)

/-- The penalty of a candidate. -/
def switchPenalty (previous : Option PreviousUsage) (savingsUsd : ℚ) (modelId : String) : ℚ :=
  if (previousModelId previous).isSome ∧ previousModelId previous ≠ some modelId then savingsUsd else 0

/-- `switch_cost_estimator`. -/
def switchCostEstimator (previous : Option PreviousUsage) (messages : List Json.Fields) (candidates : List CandidateProfile) : SwitchCost :=
  let savings := cacheSavings env previous messages candidates
  { previousModelId := previousModelId previous
    continuedModelCacheSavingsUsd := savings.promptCacheSavingsUsd
    penalties := candidates.map fun candidate => (candidate.modelId, switchPenalty previous savings.promptCacheSavingsUsd candidate.modelId)
    details := candidates.map fun candidate => (candidate.modelId, {
      isPreviousModel := previousModelId previous = some candidate.modelId
      switchingCostPenalty := switchPenalty previous savings.promptCacheSavingsUsd candidate.modelId
      cacheSavings := savings }) }

/-- The penalties as the scoring reads them. -/
def SwitchCost.scoringPenalties (cost : SwitchCost) : List (String × Document.Value) := cost.penalties.map fun p => (p.1, .number p.2)

end Switching

end RouteBudget

end PromptRail
