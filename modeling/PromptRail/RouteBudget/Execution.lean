import PromptRail.RouteBudget.Ledger

/-!
# Requests that the service executes

A request for execution is scored against the budget of its route, sent to the provider, and then logged and debited. What is left
of the budget lowers the score of a model but excludes none, so that a call can be paid for which the budget cannot account.
-/

namespace PromptRail

open Document (Fields Value get firstPresent)
open Table (Dict)
open Outcome (bind_ok)

namespace RouteBudget

/-! ## Selection -/

/-- A ranked model, with what its selection and its cost depend on; `provider` is what `executable_provider_for_model` names. -/
structure RoutedModel where
  modelId : String
  provider : String
  biencoderScore : Value
  inputPricePerMillion : Value
  outputPricePerMillion : Value
  contextWindow : Value
  supportsTools : Bool
  supportsJson : Bool
deriving DecidableEq

/-- What `estimate_request_weight` returns and is read. -/
structure WeightEstimate where
  requestWeight : ℚ
  inputLengthTokens : ℚ
  outputLengthPredictionTokens : ℚ

/-- What a provider answers: an error or a response that cannot be used, or a usable response with the provider it names and the
usage it reports. -/
inductive Answer where
  | unusable
  | usable (provider : String) (usage : Option Fields)

/-- A request of `lerouter_route` with `execute`, as it reaches its scoring. -/
structure RouteRequest where
  userId : String
  routeId : String
  routeName : String
  routingCallId : String
  candidates : List RoutedModel
  penalties : List (String × Value)
  requiresTools : Bool
  requiresJson : Bool
  estimatedInputTokens : ℚ
  weight : WeightEstimate
  promptChars : Nat
  answer : RoutedModel → Answer

/-- `budget_from_row`, of the fields that are read further on. -/
def budgetFromRow (float : String → Option ℚ) (row : Fields) : Fields :=
  let optional (names : List String) : Value := .ofNumber? (parseOptionalNumber float (firstPresent row names))
  Table.ofList [
    ("budgetRemainingUsd", optional ["budgetRemainingUsd", "remainingBudgetUsd", "remaining_budget_usd"]),
    ("remainingWeight", optional weightNames),
    ("totalPredictedWeight", optional totalWeightNames),
    ("medianWeightedTokens", optional medianNames),
    ("averageRequestsPerPeriod", optional averageNames),
    ("budgetShadowPrice", optional shadowPriceNames),
    ("budgetControllerLearningRate", optional learningRateNames),
    ("budgetShadowPriceMin", optional shadowPriceMinNames),
    ("budgetShadowPriceMax", optional shadowPriceMaxNames),
    ("spendAccountingMode", firstPresent row spendAccountingModeNames)]

/-- `expected_model_price_usd`. -/
def expectedModelPriceUsd (float : String → Option ℚ) (model : RoutedModel) (inputTokens outputTokens : ℚ) : ℚ :=
  Usage.costUsd inputTokens outputTokens (max 0 (asFloat float model.inputPricePerMillion))
    (max 0 (asFloat float model.outputPricePerMillion))

/-- `calculate_adaptive_budget_malus`, or its division by zero. -/
def calculateAdaptiveBudgetMalus (budget : BudgetState) (requestWeight expectedBudgetDebitUsd : ℚ) : Option ℚ :=
  let planningWeight := max budget.remainingWeight requestWeight
  if planningWeight = 0 then none
  else
    let requestBudget := requestWeight * (budget.budgetRemainingUsd / planningWeight)
    some (budget.budgetShadowPrice * (expectedBudgetDebitUsd / max requestBudget Workflow.tolerance))

/-- The `expected_budget_debit_usd` of a model. -/
def expectedBudgetDebitUsd (float : String → Option ℚ) (budget : BudgetState) (request : RouteRequest) (model : RoutedModel) : ℚ :=
  budget.spendAccountingMode.debitUsd
    (expectedModelPriceUsd float model request.weight.inputLengthTokens request.weight.outputLengthPredictionTokens)

/-- The `final_score` of a model in `budget_aware_scoring`. -/
def finalScore (float : String → Option ℚ) (budget : BudgetState) (request : RouteRequest) (model : RoutedModel) : Option ℚ := do
  let malus ← calculateAdaptiveBudgetMalus budget request.weight.requestWeight (expectedBudgetDebitUsd float budget request model)
  return asFloat float model.biencoderScore - malus - asFloat float ((request.penalties.lookup model.modelId).getD .null)

/-- `budget_aware_scoring`: the models with their scores, the best first. -/
def budgetAwareScoring (float : String → Option ℚ) (budget : BudgetState) (request : RouteRequest) :
    Option (List (RoutedModel × ℚ)) := do
  let scored ← request.candidates.mapM fun model => do return (model, ← finalScore float budget request model)
  return scored.mergeSort fun a b => decide (b.2 ≤ a.2)

/-- The test of `request_compatible_candidates`. -/
def requestCompatible (float : String → Option ℚ) (request : RouteRequest) (model : RoutedModel) : Bool :=
  (!request.requiresTools || model.supportsTools) && (!request.requiresJson || model.supportsJson) &&
    match finiteProfileNumber float model.contextWindow true with
    | some window => decide (request.estimatedInputTokens + request.weight.outputLengthPredictionTokens ≤ window)
    | none => false

/-- The model that is sent to the provider, with the budget it was scored against, where the request comes that far. -/
def selectModel (float : String → Option ℚ) (store : Store) (request : RouteRequest) : Option (BudgetState × RoutedModel) := do
  let row ← store.budgets.lookup ⟨request.userId, request.routeId⟩
  let budget ← (normalizeBudgetState float (budgetFromRow float row)).toOption
  let scored ← budgetAwareScoring float budget request
  let model ← (scored.map (·.1)).find? (requestCompatible float request)
  return (budget, model)

/-! ## Execution -/

/-- `first or second`. -/
def firstTruthy (first second : Value) : Value := if first.truthy then first else second

/-- `estimate_spend_usd`. -/
def estimateSpendUsd (float : String → Option ℚ) (model : RoutedModel) (promptChars : Nat) (usage : Option Fields) : ℚ :=
  let inputTokens : ℚ := max 1 (promptChars / 4)
  let (inputTokens, outputTokens) := match usage with
    | some usage => (asFloat float (firstTruthy (get usage "prompt_tokens") (get usage "input_tokens")) inputTokens,
        asFloat float (firstTruthy (get usage "completion_tokens") (get usage "output_tokens")) 0)
    | none => (inputTokens, 0)
  Round.round 8 (inputTokens / 1000000 * asFloat float model.inputPricePerMillion +
    outputTokens / 1000000 * asFloat float model.outputPricePerMillion)

/-- The arguments with which a request that was executed writes its usage log. -/
def usageCall (float : String → Option ℚ) (request : RouteRequest) (model : RoutedModel) (provider : String)
    (usage : Option Fields) : UsageCall where
  userId := request.userId
  routeId := request.routeId
  routeName := request.routeName
  modelId := model.modelId
  requestWeight := .number request.weight.requestWeight
  provider := if provider = "" then "unknown" else provider
  success := true
  spendUsd := .number (estimateSpendUsd float model request.promptChars usage)
  routingCallId := request.routingCallId

/-- `write_usage_log`, where the database does not fail. -/
def writeUsageLog (float : String → Option ℚ) (store : Store) (call : UsageCall) : Except Refusal (Store × UsageLog) := do
  let facts ← usageFacts float call
  persist float 1 store facts

/-- The call that is to be logged when a model has answered the request, if its answer can be used. -/
def answeredCall (float : String → Option ℚ) (request : RouteRequest) (model : RoutedModel) : Option UsageCall :=
  match request.answer model with
  | .unusable => none
  | .usable provider usage => some (usageCall float request model provider usage)

/-- `lerouter_route` with `execute`: what it leaves. A request that is refused before or after its execution leaves the store. -/
def executeRoute (float : String → Option ℚ) (store : Store) (request : RouteRequest) : Store :=
  match (selectModel float store request).bind fun selected => answeredCall float request selected.2 with
  | none => store
  | some call =>
    match writeUsageLog float store call with
    | .error _ => store
    | .ok (store', _) => store'

/-! ## What the provider was asked -/

/-- A request that has reached the provider: the budget and the debits it was scored with, and what a usable answer has cost. -/
structure ProviderCall where
  key : LogKey
  mode : SpendAccountingMode
  budgetRemainingUsd : ℚ
  candidateDebitsUsd : List ℚ
  spendUsd : Option ℚ

/-- The spend of the answer, if it can be used. -/
def ProviderCall.paidUsd (c : ProviderCall) : ℚ := c.spendUsd.getD 0

/-- The accounted spend of the answer, if it can be used. -/
def ProviderCall.accountedUsd (c : ProviderCall) : ℚ := (c.spendUsd.map c.mode.debitUsd).getD 0

end RouteBudget

end PromptRail
