import PromptRail.Library.Table
import PromptRail.Library.Json
import Mathlib.Data.Rat.Defs
import Mathlib.Algebra.Order.Ring.Rat
import Mathlib.Data.Finset.Basic

/-!
# The typed records of the control plane (`models.py`)

Each record holds the fields that a modelled function reads or returns, and carries what its validators check as fields of its
own, so that a record that `pydantic` refuses cannot be built. Amounts of money, fractions and scores are exact rationals,
durations and token counts are integers or natural numbers, as the validators allow. Identifiers drawn by `uuid4` are numbers.
-/

namespace PromptRail

open PyText (Text)
open Table (Dict)

/-- The exceptions the modelled functions raise, with their texts. -/
inductive PyError where
  | valueError (message : String)
  | typeError (message : String)
  | budgetError (message : String)
  | compactionError (message : String)
  | overflowError (message : String)
  | allocatorError
  deriving DecidableEq, Repr

/-- `RunStatus`. -/
inductive RunStatus where
  | active | completed | failed
  deriving DecidableEq, Repr

/-- The text of a status. -/
def RunStatus.value : RunStatus → String
  | .active => "active"
  | .completed => "completed"
  | .failed => "failed"

/-- The number of a run, drawn by `uuid4`. -/
abbrev RunId := Nat

/-- The number of a call, drawn by `uuid4`. -/
abbrev CallId := Nat

/-- `OperatingPolicy`: the four nullable hard limits. -/
structure OperatingPolicy where
  hardAgentCostLimitUsd : Option ℚ := none
  hardAgentLatencyLimitMs : Option Int := none
  hardCallCostLimitUsd : Option ℚ := none
  hardCallLatencyLimitMs : Option Int := none
  validate_optional_cost : ∀ l, hardAgentCostLimitUsd = some l ∨ hardCallCostLimitUsd = some l → 1 / 1000000 ≤ l
  validate_optional_latency : ∀ l, hardAgentLatencyLimitMs = some l ∨ hardCallLatencyLimitMs = some l → 0 < l

/-- Without limits there is nothing to check. -/
theorem OperatingPolicy.noCostLimit_valid : ∀ l : ℚ, none = some l ∨ none = some l → 1 / 1000000 ≤ l := by simp

theorem OperatingPolicy.noLatencyLimit_valid : ∀ l : Int, none = some l ∨ none = some l → 0 < l := by simp

/-- `ProviderRoute`. -/
structure ProviderRoute where
  routeId : String
  provider : String
  inputPricePerMillion : ℚ
  outputPricePerMillion : ℚ
  cacheReadPricePerMillion : Option ℚ := none
  cacheWritePricePerMillion : Option ℚ := none
  p95TtftMs : Nat
  p95TotalLatencyMs : Nat
  guaranteed : Bool := false
  cacheSupported : Bool := false
  cacheTtlSeconds : Nat := 300
  validate_price : 0 ≤ inputPricePerMillion ∧ 0 ≤ outputPricePerMillion ∧
    (∀ p, cacheReadPricePerMillion = some p ∨ cacheWritePricePerMillion = some p → 0 ≤ p)
  validate_route_duration : 0 < p95TtftMs ∧ 0 < p95TotalLatencyMs ∧ 0 < cacheTtlSeconds
  validate_latency_order : p95TtftMs ≤ p95TotalLatencyMs

/-- `ModelCandidate`. -/
structure ModelCandidate where
  modelId : String
  routes : List ProviderRoute
  validate_routes : routes ≠ [] ∧ (routes.map (·.routeId)).Nodup

/-- `ContextBlock.block_type`. -/
inductive BlockType where
  | protocol | user | assistant | tool | test | patch | generic
  deriving DecidableEq, Repr

/-- The text of a block type. -/
def BlockType.value : BlockType → String
  | .protocol => "protocol"
  | .user => "user"
  | .assistant => "assistant"
  | .tool => "tool"
  | .test => "test"
  | .patch => "patch"
  | .generic => "generic"

/-- `ContextBlock`: a unit of conversation context. -/
structure ContextBlock where
  blockId : Text
  messageIndices : List Nat
  blockType : BlockType
  tokens : Nat
  age : Nat
  cached : Bool := false
  taskOverlap : ℚ
  redundancy : ℚ
  cacheInvalidationCost : ℚ
  importance : ℚ
  structurallyImmutable : Bool := false

/-- The bounds `pydantic` puts on the fields of a block. -/
structure ContextBlock.Valid (b : ContextBlock) : Prop where
  taskOverlap : 0 ≤ b.taskOverlap ∧ b.taskOverlap ≤ 1
  redundancy : 0 ≤ b.redundancy ∧ b.redundancy ≤ 1
  cacheInvalidationCost : 0 ≤ b.cacheInvalidationCost
  importance : 0 ≤ b.importance ∧ b.importance ≤ 1

/-- `ImportanceOverride`. -/
structure ImportanceOverride where
  blockId : Text
  importance : ℚ
  validate_importance : 0 ≤ importance ∧ importance ≤ 1

/-- `BudgetAllocationDecision`: the allocation Gemma proposes for one call. -/
structure BudgetAllocationDecision where
  costUsd : ℚ
  latencyMs : Int
  inputCostFraction : ℚ
  requiredContextTokens : Int
  importanceOverrides : List ImportanceOverride := []
  reason : String
  validate_decision_cost : 1 / 1000000 ≤ costUsd
  validate_decision_latency : 0 < latencyMs
  validate_input_fraction : 1 / 1000000 ≤ inputCostFraction ∧ inputCostFraction < 1
  validate_required_context : 0 < requiredContextTokens
  validate_importance_overrides : importanceOverrides.length ≤ 12 ∧ (importanceOverrides.map (·.blockId)).Nodup
  validate_reason : 0 < reason.length ∧ reason.length ≤ 1000

/-- `CallBudget`: the allocation the controller reserves. -/
structure CallBudget where
  runId : RunId
  callId : CallId
  sequence : Nat
  costUsd : ℚ
  inputCostUsd : ℚ
  outputCostUsd : ℚ
  latencyMs : Int
  allocatorModelId : String
  allocatorReason : String
  requiredContextTokens : Int
  importanceOverrides : List ImportanceOverride := []

/-- `CacheValue`: what the cache of the session is worth for one model. -/
structure CacheValue where
  modelId : String
  provider : Option String := none
  exactReuse : Bool := false
  cachedTokens : Nat := 0
  inputCostUsd : ℚ
  retainedValueUsd : ℚ := 0
  switchCostUsd : ℚ := 0

/-- `CacheAnalysis`. -/
structure CacheAnalysis where
  totalTokens : Nat
  toolTokens : Nat
  messageTokens : List Nat
  prefixHash : Option Text
  cacheableMessageIndices : List Nat
  protectedMessageIndices : List Nat
  compactableMessageIndices : List Nat
  cacheableTokens : Nat
  protectedDynamicTokens : Nat
  compactableTokens : Nat
  lastModelId : Option String := none
  lastProvider : Option String := none
  values : Dict String CacheValue := ∅
  contextBlocks : List ContextBlock := []

/-- `ModelDecision`: the model and the route the router chose. -/
structure ModelDecision where
  candidate : ModelCandidate
  route : ProviderRoute
  cacheValue : CacheValue

/-- `CompactionPlan`. -/
structure CompactionPlan where
  inputBudgetUsd : ℚ
  estimatedInputCostUsd : ℚ
  targetTokens : Int
  requiredReductionTokens : Nat
  compactableMessageIndices : List Nat
  importanceByMessageIndex : Dict Nat ℚ := ∅

/-- `CompactionRecord`. -/
structure CompactionRecord where
  messageIndex : Nat
  originalHash : Text
  tokensBefore : Nat
  tokensAfter : Nat
  blockType : BlockType
  importance : ℚ

/-- A message of a conversation, or a tool: a dictionary of JSON values. -/
abbrev Message := Json.Fields

/-- `CompactionResult`. -/
structure CompactionResult where
  messages : List Message
  tokensBefore : Nat
  tokensAfter : Nat
  targetTokens : Int
  targetMet : Bool
  records : List CompactionRecord := []

/-- `ModelUsage`. No validator looks at the cost; one that is not finite has no value. -/
structure ModelUsage where
  inputTokens : Nat
  outputTokens : Nat
  latencyMs : Nat
  provider : String
  modelId : String
  cacheReadTokens : Nat := 0
  cacheWriteTokens : Nat := 0
  costUsd : Option (Option ℚ) := none

/-- `RunSnapshot`. -/
structure RunSnapshot where
  runId : RunId
  sessionId : Text
  status : RunStatus
  completedCalls : Nat
  spentCostUsd : ℚ
  spentModelLatencyMs : Int
  reservedCostUsd : ℚ
  reservedLatencyMs : Int
  toolCalls : Nat
  startedAt : Int
  finishedAt : Option Int
  deriving DecidableEq

/-! ## Routes of the examples -/

/-- The prices of a route that costs one for what it reads and two for what it writes. -/
theorem ProviderRoute.readWritePrice_valid : (0 : ℚ) ≤ 1 ∧ (0 : ℚ) ≤ 2 ∧ ∀ p : ℚ, none = some p ∨ none = some p → 0 ≤ p :=
  ⟨by decide, by decide, by simp⟩

theorem ProviderRoute.cheapPrice_valid : (0 : ℚ) ≤ 1 ∧ (0 : ℚ) ≤ 1 ∧ ∀ p : ℚ, none = some p ∨ none = some p → 0 ≤ p :=
  ⟨by decide, by decide, by simp⟩

theorem ProviderRoute.dearPrice_valid : (0 : ℚ) ≤ 2 ∧ (0 : ℚ) ≤ 2 ∧ ∀ p : ℚ, none = some p ∨ none = some p → 0 ≤ p :=
  ⟨by decide, by decide, by simp⟩

/-- The latencies of a route that answers in ten and ends in twenty milliseconds. -/
theorem ProviderRoute.quickDuration_valid : 0 < 10 ∧ 0 < 20 ∧ 0 < 300 := by decide

theorem ProviderRoute.quickLatency_valid : 10 ≤ 20 := by decide

/-- The latencies of a route that answers in fifty and ends in a hundred milliseconds. -/
theorem ProviderRoute.fastDuration_valid : 0 < 50 ∧ 0 < 100 ∧ 0 < 300 := by decide

theorem ProviderRoute.fastLatency_valid : 50 ≤ 100 := by decide

end PromptRail
