import PromptRail.Library.Concurrent
import PromptRail.Library.PyText
import PromptRail.Usage.Agreement

/-!
# Route budgets (`lerouter_modal_api.py`)

A user has a budget for each route: dollars, a weight for the requests they are to last for, and a shadow price that a controller
moves within bounds. A usage log is written in one transaction together with the debit of the budget, under the identifier of the
call, which makes a repetition answer with the stored log. The transaction is retried when it fails transiently. A budget is a
document whose fields are known under several names; the service writes the first of them.
-/

namespace PromptRail

open Document (Fields Value get firstPresent)
open Table (Dict)
open Concurrent (Program World Action)

namespace RouteBudget

/-! ## Refusals -/

/-- `HTTPException`. -/
inductive Refusal where
  | budgetScoringInputRequired (field : String)
  | budgetWeightRequired (field : String)
  | budgetRequestCountRequired (field : String)
  | invalidBudgetController
  | invalidSpendAccountingMode
  | usageLogRequires (what : String)
  | invalidCounterKey (field : String)
  | routeBudgetStateMissing
  | routeBudgetExhausted
  | userStateMissing
  | routingCallIdConflict (mismatchedFields : List String)
  | duplicateWithoutUsageLog
  | transactionFailed (attempts : Nat)
deriving DecidableEq

/-- `status_code`. -/
def Refusal.statusCode : Refusal → Nat
  | .usageLogRequires _ | .invalidCounterKey _ => 422
  | .transactionFailed _ => 503
  | _ => 409

/-- `detail["error"]`, or the text of `detail`. -/
def Refusal.error : Refusal → String
  | .budgetScoringInputRequired _ => "budget_scoring_input_required"
  | .budgetWeightRequired _ => "budget_weight_required"
  | .budgetRequestCountRequired _ => "budget_request_count_required"
  | .invalidBudgetController => "invalid_budget_controller"
  | .invalidSpendAccountingMode => "invalid_spend_accounting_mode"
  | .usageLogRequires what => "usage log requires " ++ what
  | .invalidCounterKey _ => "invalid_counter_key"
  | .routeBudgetStateMissing => "route_budget_state_missing"
  | .routeBudgetExhausted => "route_budget_exhausted"
  | .userStateMissing => "Exact usage user state is missing"
  | .routingCallIdConflict _ => "routing_call_id_conflict"
  | .duplicateWithoutUsageLog => "Duplicate routing_call_id without a stored usage log"
  | .transactionFailed _ => "usage_log_transaction_failed"

/-! ## The state of a budget -/

/-- `SPEND_ACCOUNTING_MODES`. -/
inductive SpendAccountingMode where
  | routingFee
  | providerSpend
deriving DecidableEq

/-- `str.strip().lower()` of a text; what has no ASCII letter is left as it is. -/
def stripLower (s : String) : String := String.ofList ((PyText.strip s.toList).map Char.toLower)

/-- `normalize_spend_accounting_mode`: a value that is no text is none of the modes. -/
def normalizeSpendAccountingMode (value : Value) : Except Refusal SpendAccountingMode :=
  if value.truthy then
    match value with
    | .text s =>
      if stripLower s = "routing_fee" then .ok .routingFee
      else if stripLower s = "provider_spend" then .ok .providerSpend
      else .error .invalidSpendAccountingMode
    | _ => .error .invalidSpendAccountingMode
  else .ok .routingFee

/-- The names of `budgetRemainingUsd`. -/
def remainingNames : List String := ["budgetRemainingUsd", "remainingBudgetUsd", "remaining_budget_usd", "remaining_usd"]

/-- The names of `remainingWeight`. -/
def weightNames : List String :=
  ["remainingWeight", "remaining_weight", "weightRemaining", "weight_remaining", "remainingTimelineWeight",
    "remaining_timeline_weight"]

/-- The names of `totalPredictedWeight`. -/
def totalWeightNames : List String := ["totalPredictedWeight", "total_predicted_weight", "timelineWeight", "timeline_weight"]

/-- The names of `medianWeightedTokens`. -/
def medianNames : List String := ["medianWeightedTokens", "median_weighted_tokens"]

/-- The names of `averageRequestsPerPeriod`. -/
def averageNames : List String :=
  ["averageRequestsPerPeriod", "average_requests_per_period", "requestCountLastTimestamp", "request_count_last_timestamp",
    "numberOfRequestsLastTimestamp", "number_of_request_last_timestamp"]

/-- The names of `budgetShadowPrice`. -/
def shadowPriceNames : List String := ["budgetShadowPrice", "budget_shadow_price"]

/-- The names of `budgetControllerLearningRate`. -/
def learningRateNames : List String := ["budgetControllerLearningRate", "budget_controller_learning_rate"]

/-- The names of `budgetShadowPriceMin`. -/
def shadowPriceMinNames : List String := ["budgetShadowPriceMin", "budget_shadow_price_min"]

/-- The names of `budgetShadowPriceMax`. -/
def shadowPriceMaxNames : List String := ["budgetShadowPriceMax", "budget_shadow_price_max"]

/-- The names of `spendAccountingMode`. -/
def spendAccountingModeNames : List String := ["spendAccountingMode", "spend_accounting_mode"]

/-- What `normalize_budget_state` returns and the service reads. -/
structure BudgetState where
  budgetRemainingUsd : ℚ
  remainingWeight : ℚ
  totalPredictedWeight : ℚ
  medianWeightedTokens : ℚ
  averageRequestsPerPeriod : ℚ
  budgetShadowPrice : ℚ
  budgetControllerLearningRate : ℚ
  budgetShadowPriceMin : ℚ
  budgetShadowPriceMax : ℚ
  spendAccountingMode : SpendAccountingMode
deriving DecidableEq

/-- A number that must be present under one of its names. -/
def required (float : String → Option ℚ) (row : Fields) (names : List String) (fieldName : String) : Except Refusal ℚ :=
  (parseRequiredNumber float (firstPresent row names) fieldName).mapError .budgetScoringInputRequired

/-- Raise, unless a condition holds. -/
def ensure (condition : Bool) (refusal : Refusal) : Except Refusal Unit := if condition then .ok () else .error refusal

/-- `normalize_budget_state`. -/
def normalizeBudgetState (float : String → Option ℚ) (row : Fields) : Except Refusal BudgetState := do
  let remainingBudget ← required float row remainingNames "budgetRemainingUsd"
  let remainingWeight ← required float row weightNames "remainingWeight"
  ensure (0 ≤ remainingWeight) (.budgetWeightRequired "remainingWeight")
  let totalPredictedWeight ← required float row totalWeightNames "totalPredictedWeight"
  ensure (0 < totalPredictedWeight) (.budgetWeightRequired "totalPredictedWeight")
  let medianWeightedTokens ← required float row medianNames "medianWeightedTokens"
  ensure (0 < medianWeightedTokens) (.budgetWeightRequired "medianWeightedTokens")
  let averageRequests ← required float row averageNames "averageRequestsPerPeriod"
  ensure (0 < averageRequests) (.budgetRequestCountRequired "averageRequestsPerPeriod")
  let shadowPrice ← required float row shadowPriceNames "budgetShadowPrice"
  let learningRate ← required float row learningRateNames "budgetControllerLearningRate"
  let shadowPriceMin ← required float row shadowPriceMinNames "budgetShadowPriceMin"
  let shadowPriceMax ← required float row shadowPriceMaxNames "budgetShadowPriceMax"
  ensure (0 ≤ shadowPriceMin ∧ shadowPriceMin ≤ shadowPriceMax ∧ shadowPriceMin ≤ shadowPrice ∧ shadowPrice ≤ shadowPriceMax ∧
    0 ≤ learningRate) .invalidBudgetController
  let mode ← normalizeSpendAccountingMode (firstPresent row spendAccountingModeNames)
  return {
    budgetRemainingUsd := max 0 remainingBudget
    remainingWeight
    totalPredictedWeight
    medianWeightedTokens
    averageRequestsPerPeriod := averageRequests
    budgetShadowPrice := shadowPrice
    budgetControllerLearningRate := learningRate
    budgetShadowPriceMin := shadowPriceMin
    budgetShadowPriceMax := shadowPriceMax
    spendAccountingMode := mode }

/-! ## The controller -/

/-- `clamp`. -/
def clamp (value minimum maximum : ℚ) : ℚ := min maximum (max minimum value)

/-- What `calculate_budget_controller_update` returns. -/
structure ControllerUpdate where
  previousShadowPrice : ℚ
  learningRate : ℚ
  allocatedSpendUsd : ℚ
  allocatedRequestWeight : ℚ
  actualSpendUsd : ℚ
  controllerErrorUsd : ℚ
  nextShadowPrice : ℚ

/-- `BUDGET_CONTROLLER_VERSION`. -/
def budgetControllerVersion : String := "dual_gradient_allocated_ratio_v2"

/-- `calculate_budget_controller_update`. -/
def calculateBudgetControllerUpdate (float : String → Option ℚ) (row : Fields)
    (budgetDebitUsd requestWeight allocatedRequestWeight : ℚ) : Except Refusal ControllerUpdate := do
  let remainingBudget ← required float row ["budgetRemainingUsd", "remaining_budget_usd"] "budgetRemainingUsd"
  let remainingWeight ← required float row ["remainingWeight", "remaining_weight"] "remainingWeight"
  let shadowPrice ← required float row shadowPriceNames "budgetShadowPrice"
  let learningRate ← required float row learningRateNames "budgetControllerLearningRate"
  let shadowPriceMin ← required float row shadowPriceMinNames "budgetShadowPriceMin"
  let shadowPriceMax ← required float row shadowPriceMaxNames "budgetShadowPriceMax"
  ensure (0 ≤ remainingBudget ∧ 0 ≤ remainingWeight ∧ 0 ≤ budgetDebitUsd ∧ 0 < requestWeight ∧ 0 ≤ allocatedRequestWeight ∧
    allocatedRequestWeight ≤ requestWeight ∧ 0 ≤ learningRate ∧ 0 ≤ shadowPriceMin ∧ shadowPriceMin ≤ shadowPriceMax ∧
    shadowPriceMin ≤ shadowPrice ∧ shadowPrice ≤ shadowPriceMax) .invalidBudgetController
  let planningWeight := max remainingWeight requestWeight
  let allocatedSpendUsd := allocatedRequestWeight * (remainingBudget / planningWeight)
  let controllerErrorUsd := budgetDebitUsd - allocatedSpendUsd
  return {
    previousShadowPrice := shadowPrice
    learningRate
    allocatedSpendUsd
    allocatedRequestWeight
    actualSpendUsd := budgetDebitUsd
    controllerErrorUsd
    nextShadowPrice := clamp (shadowPrice + learningRate * controllerErrorUsd) shadowPriceMin shadowPriceMax }

/-- `{"$ifNull": [value, 0]}`, where it can be added to. -/
def ifNull : Value → Option ℚ
  | .null => some 0
  | value => value.number?

/-- `usage_budget_update_pipeline`, of the fields that are numbers or name the controller: nothing where a field cannot be added
to, which fails the transaction. -/
def usageBudgetUpdatePipeline (budgetDebitUsd requestWeightDebit : ℚ) (controllerUpdate : ControllerUpdate) (success : Bool)
    (row : Fields) : Option Fields := do
  let budgetRemainingUsd ← (get row "budgetRemainingUsd").number?
  let remainingWeight ← (get row "remainingWeight").number?
  let budgetControllerUpdates ← ifNull (get row "budgetControllerUpdates")
  let totalRequests ← ifNull (get row "totalRequests")
  let totalSpendUsd ← ifNull (get row "totalSpendUsd")
  let successfulRequests ← ifNull (get row "successfulRequests")
  let failedRequests ← ifNull (get row "failedRequests")
  return Document.update row [
    ("budgetRemainingUsd", .number (budgetRemainingUsd - budgetDebitUsd)),
    ("remainingWeight", .number (max 0 (remainingWeight - requestWeightDebit))),
    ("budgetShadowPrice", .number controllerUpdate.nextShadowPrice),
    ("budgetControllerVersion", .text budgetControllerVersion),
    ("lastBudgetControllerAllocatedSpendUsd", .number controllerUpdate.allocatedSpendUsd),
    ("lastBudgetControllerActualSpendUsd", .number controllerUpdate.actualSpendUsd),
    ("lastBudgetControllerErrorUsd", .number controllerUpdate.controllerErrorUsd),
    ("budgetControllerUpdates", .number (budgetControllerUpdates + 1)),
    ("totalRequests", .number (totalRequests + 1)),
    ("totalSpendUsd", .number (totalSpendUsd + budgetDebitUsd)),
    ("successfulRequests", .number (successfulRequests + if success then 1 else 0)),
    ("failedRequests", .number (failedRequests + if success then 0 else 1)),
    ("successRate", .number
      (if 0 < totalRequests + 1 then (successfulRequests + if success then 1 else 0) / (totalRequests + 1) else 0))]

/-! ## Usage logs -/

structure RouteKey where
  userId : String
  routeId : String
deriving DecidableEq

/-- The fields of the unique index of the usage logs. -/
structure LogKey where
  route : RouteKey
  routingCallId : String
deriving DecidableEq

/-- A usage log. -/
structure UsageLog where
  key : LogKey
  routeName : String
  provider : String
  modelId : String
  success : Bool
  spendUsd : ℚ
  providerSpendUsd : ℚ
  accountedSpendUsd : ℚ
  spendAccountingMode : SpendAccountingMode
  budgetRemainingUsd : Value
  remainingWeight : Value
  budgetShadowPrice : Value
  requestWeight : Option ℚ
  requestWeightDebit : Option ℚ
  accountingCountersUpdated : Bool

/-- The totals of a user. -/
structure UserTotals where
  totalRequests : ℚ := 0
  totalSpendUsd : ℚ := 0
  successfulRequests : ℚ := 0
  failedRequests : ℚ := 0

/-- The collections `user_budget_states`, `user` and `route_usage_logs`. -/
structure Store where
  budgets : Dict RouteKey Fields := ∅
  users : Dict String UserTotals := ∅
  usageLogs : List UsageLog := []

/-- The arguments of `write_usage_log`, read as texts where the source does so. -/
structure UsageCall where
  userId : String
  routeId : String
  routeName : String
  modelId : String
  requestWeight : Value
  provider : String
  success : Bool
  spendUsd : Value
  routingCallId : String
  updateCounters : Bool := true
  requestWeightDebit : Option Value := none

/-- The facts of a call that are to be logged. -/
structure Facts where
  key : LogKey
  routeName : String
  modelId : String
  provider : String
  modelLab : Option String
  success : Bool
  updateCounters : Bool
  requestWeight : ℚ
  requestWeightDebit : ℚ
  providerSpendUsd : ℚ
  providerSpendUsd_nonneg : 0 ≤ providerSpendUsd

/-- `str.strip()`. -/
def strip (s : String) : String := String.ofList (PyText.strip s.toList)

/-- `mongo_counter_key`. -/
def mongoCounterKey (value field : String) : Except Refusal String :=
  let key := strip value
  if key = "" ∨ '.' ∈ key.toList ∨ key.toList.head? = some '$' then .error (.invalidCounterKey field) else .ok key

/-- The labels of `model_company_from_id`. -/
def companyLabels : List (String × String) :=
  [("anthropic", "Anthropic"), ("deepseek-ai", "DeepSeek"), ("deepseek", "DeepSeek"), ("google", "Google"), ("gemini", "Google"),
    ("meta", "Meta"), ("meta-llama", "Meta"), ("mistral", "Mistral"), ("mistralai", "Mistral"), ("moonshot", "Moonshot"),
    ("moonshotai", "Moonshot"), ("nvidia", "NVIDIA"), ("openai", "OpenAI"), ("qwen", "Qwen"), ("qwenlm", "Qwen"),
    ("x-ai", "xAI"), ("z-ai", "Z.ai")]

/-- `model_company_from_id`. -/
def modelCompanyFromId (modelId : String) : Option String :=
  let owner := String.ofList (((modelId.toList.takeWhile (· ≠ '/')).map Char.toLower).filter (· ≠ '~'))
  match companyLabels.lookup owner with
  | some label => some label
  | none => if owner = "" then none else some owner

/-- `model_lab`. -/
def modelLabKey (modelId : String) : Except Refusal (Option String) :=
  match modelCompanyFromId modelId with
  | none => .ok none
  | some label => (mongoCounterKey label "model_lab").map some

/-- `write_usage_log`, up to its transaction. -/
def usageFacts (float : String → Option ℚ) (call : UsageCall) : Except Refusal Facts := do
  let modelId := strip call.modelId
  ensure (modelId ≠ "") (.usageLogRequires "model_id")
  let provider ← mongoCounterKey call.provider "provider"
  let modelLab ← modelLabKey modelId
  let routingCallId := strip call.routingCallId
  ensure (routingCallId ≠ "") (.usageLogRequires "routing_call_id")
  let requestWeight := asFloat float call.requestWeight (-1)
  ensure (call.updateCounters → 0 < requestWeight) (.usageLogRequires "positive request_weight")
  let requestWeightDebit := asFloat float (call.requestWeightDebit.getD (.number requestWeight)) (-1)
  ensure (call.updateCounters → 0 ≤ requestWeightDebit ∧ requestWeightDebit ≤ requestWeight)
    (.usageLogRequires "request_weight_debit between zero and request_weight")
  match finiteProfileNumber float call.spendUsd with
  | none => .error (.usageLogRequires "finite nonnegative spend_usd")
  | some spend =>
    if h : 0 ≤ spend then
      return {
        key := ⟨⟨call.userId, call.routeId⟩, routingCallId⟩
        routeName := call.routeName
        modelId
        provider
        modelLab
        success := call.success
        updateCounters := call.updateCounters
        requestWeight
        requestWeightDebit
        providerSpendUsd := spend
        providerSpendUsd_nonneg := h }
    else .error (.usageLogRequires "finite nonnegative spend_usd")

/-- `routing_fee_spend_usd`. -/
def Facts.routingFeeUsd (facts : Facts) : ℚ := Usage.routingFeeUsd facts.providerSpendUsd

/-- What a mode debits of a spend. -/
def SpendAccountingMode.debitUsd (spendUsd : ℚ) : SpendAccountingMode → ℚ
  | .providerSpend => spendUsd
  | .routingFee => Usage.routingFeeUsd spendUsd

/-- What a mode debits for a call. -/
def Facts.debitUsd (facts : Facts) (mode : SpendAccountingMode) : ℚ := mode.debitUsd facts.providerSpendUsd

/-- A stored number is the expected one, or both are missing. -/
def sameNumber : Option ℚ → Option ℚ → Bool
  | none, none => true
  | some x, some y => Workflow.isclose x y
  | _, _ => false

/-- The fields in which a stored log differs from the facts of a call. -/
def mismatchedFields (existing : UsageLog) (facts : Facts) (mode : SpendAccountingMode) : List String :=
  let weight := if facts.updateCounters then some facts.requestWeight else none
  let weightDebit := if facts.updateCounters then some facts.requestWeightDebit else none
  ([("accountedSpendUsd", Workflow.isclose existing.accountedSpendUsd (facts.debitUsd mode)),
    ("accountingCountersUpdated", existing.accountingCountersUpdated == facts.updateCounters),
    ("modelId", existing.modelId == facts.modelId),
    ("provider", existing.provider == facts.provider),
    ("providerSpendUsd", Workflow.isclose existing.providerSpendUsd facts.providerSpendUsd),
    ("requestWeight", sameNumber existing.requestWeight weight),
    ("requestWeightDebit", sameNumber existing.requestWeightDebit weightDebit),
    ("routeName", existing.routeName == facts.routeName),
    ("spendAccountingMode", existing.spendAccountingMode == mode),
    ("spendUsd", Workflow.isclose existing.spendUsd facts.routingFeeUsd),
    ("success", existing.success == facts.success)].filter fun field => !field.2).map (·.1)

/-- `require_idempotent_usage_match`. -/
def requireIdempotentUsageMatch (existing : UsageLog) (facts : Facts) (mode : SpendAccountingMode) : Except Refusal UsageLog :=
  match mismatchedFields existing facts mode with
  | [] => .ok existing
  | fields => .error (.routingCallIdConflict fields)

/-- `budget_accounting_facts`: the document of the budget, and its mode. -/
def budgetAccountingFacts (store : Store) (facts : Facts) : Except Refusal (Fields × SpendAccountingMode) :=
  match store.budgets.lookup facts.key.route with
  | none => .error .routeBudgetStateMissing
  | some row => do
    let mode ← normalizeSpendAccountingMode (firstPresent row spendAccountingModeNames)
    return (row, mode)

/-- `usage_logs.find_one(idempotency_query)`. -/
def findLog (store : Store) (key : LogKey) : Option UsageLog := store.usageLogs.find? fun log => log.key = key

/-- `budget_query`, after the identity of the budget. -/
def budgetQuery (facts : Facts) (debitUsd : ℚ) (row : Fields) : Bool :=
  match (get row "budgetRemainingUsd").number?, (get row "remainingWeight").number? with
  | some remaining, some _ => !facts.updateCounters || decide (debitUsd ≤ remaining)
  | _, _ => false

/-- The increments of the user's totals. -/
def UserTotals.count (totals : UserTotals) (facts : Facts) : UserTotals where
  totalRequests := totals.totalRequests + 1
  totalSpendUsd := totals.totalSpendUsd + facts.routingFeeUsd
  successfulRequests := totals.successfulRequests + if facts.success then 1 else 0
  failedRequests := totals.failedRequests + if facts.success then 0 else 1

/-- The document that `persist` inserts; `row` is the budget after its update. -/
def newLog (facts : Facts) (mode : SpendAccountingMode) (row : Fields) : UsageLog where
  key := facts.key
  routeName := facts.routeName
  provider := facts.provider
  modelId := facts.modelId
  success := facts.success
  spendUsd := facts.routingFeeUsd
  providerSpendUsd := facts.providerSpendUsd
  accountedSpendUsd := facts.debitUsd mode
  spendAccountingMode := mode
  budgetRemainingUsd := get row "budgetRemainingUsd"
  remainingWeight := get row "remainingWeight"
  budgetShadowPrice := get row "budgetShadowPrice"
  requestWeight := if facts.updateCounters then some facts.requestWeight else none
  requestWeightDebit := if facts.updateCounters then some facts.requestWeightDebit else none
  accountingCountersUpdated := facts.updateCounters

/-- `persist`, for a call that updates the counters and has no log. -/
def debitBudget (float : String → Option ℚ) (attempt : Nat) (store : Store) (facts : Facts) (row : Fields)
    (mode : SpendAccountingMode) : Except Refusal (Store × UsageLog) := do
  let debitUsd := facts.debitUsd mode
  let controllerUpdate ← calculateBudgetControllerUpdate float row debitUsd facts.requestWeight facts.requestWeightDebit
  ensure (budgetQuery facts debitUsd row) .routeBudgetExhausted
  match usageBudgetUpdatePipeline debitUsd facts.requestWeightDebit controllerUpdate facts.success row with
  | none => .error (.transactionFailed attempt)
  | some row' =>
    match store.users.lookup facts.key.route.userId with
    | none => .error .userStateMissing
    | some totals =>
      let log := newLog facts mode row'
      return ({
        budgets := store.budgets.insert facts.key.route row'
        users := store.users.insert facts.key.route.userId (totals.count facts)
        usageLogs := store.usageLogs ++ [log] }, log)

/-- `persist`, for a call that leaves the counters and has no log. -/
def logOnly (store : Store) (facts : Facts) (row : Fields) (mode : SpendAccountingMode) : Except Refusal (Store × UsageLog) := do
  ensure (budgetQuery facts (facts.debitUsd mode) row) .routeBudgetStateMissing
  let log := newLog facts mode row
  return ({ store with usageLogs := store.usageLogs ++ [log] }, log)

/-- `persist`: what its transaction leaves, and the log it returns. -/
def persist (float : String → Option ℚ) (attempt : Nat) (store : Store) (facts : Facts) : Except Refusal (Store × UsageLog) := do
  let (row, mode) ← budgetAccountingFacts store facts
  match findLog store facts.key with
  | some existing =>
    let log ← requireIdempotentUsageMatch existing facts mode
    return (store, log)
  | none => if facts.updateCounters then debitBudget float attempt store facts row mode else logOnly store facts row mode

/-! ## The retry loop -/

/-- How the database fails a transaction: with an error that is retried, or with another one, each with its effect lost or not, or
with a duplicate key. -/
inductive Failure where
  | retryable (committed : Bool)
  | duplicateKey
  | other (committed : Bool)

/-- The failed transaction has taken effect. -/
def Failure.committed : Failure → Bool
  | .retryable committed | .other committed => committed
  | .duplicateKey => false

/-- `USAGE_LOG_TRANSACTION_MAX_ATTEMPTS`. -/
def usageLogTransactionMaxAttempts : Nat := 8

/-- What a thread that writes a usage log does next. -/
inductive Task where
  | attempt (n : Nat) (facts : Facts)
  | readDuplicate (facts : Facts)
  | readFacts (facts : Facts) (existing : UsageLog)
  | returned (log : UsageLog)
  | threw (refusal : Refusal)
  | crashed

/-- The handlers of the loop, after an attempt that the database has failed. -/
def afterFailure (n : Nat) (facts : Facts) : Failure → Task
  | .retryable _ => if n < usageLogTransactionMaxAttempts then .attempt (n + 1) facts else .threw (.transactionFailed n)
  | .duplicateKey => .readDuplicate facts
  | .other _ => .threw (.transactionFailed n)

/-- What a transaction leaves that takes effect. -/
def committedStore (store : Store) : Except Refusal (Store × UsageLog) → Store
  | .ok (store', _) => store'
  | .error _ => store

/-- One attempt. -/
def attemptPersist (float : String → Option ℚ) (n : Nat) (store : Store) (facts : Facts) : Option Failure → Store × Task
  | some failure =>
    (if failure.committed then committedStore store (persist float n store facts) else store, afterFailure n facts failure)
  | none =>
    match persist float n store facts with
    | .ok (store', log) => (store', .returned log)
    | .error refusal => (store, .threw refusal)

/-- The first task of a call. -/
def start (float : String → Option ℚ) (call : UsageCall) : Task :=
  match usageFacts float call with
  | .ok facts => .attempt 1 facts
  | .error refusal => .threw refusal

/-- One turn of a thread: what the database does is told from outside. -/
def turn (float : String → Option ℚ) (store : Store) : Task → Option Failure → Store × Task
  | .attempt n facts, failure => attemptPersist float n store facts failure
  | .readDuplicate facts, _ =>
    (store, match findLog store facts.key with
      | some existing => .readFacts facts existing
      | none => .threw .duplicateWithoutUsageLog)
  | .readFacts facts existing, _ =>
    (store, match budgetAccountingFacts store facts >>= fun accounting => requireIdempotentUsageMatch existing facts accounting.2 with
      | .ok log => .returned log
      | .error refusal => .threw refusal)
  | .returned log, _ => (store, .returned log)
  | .threw refusal, _ => (store, .threw refusal)
  | .crashed, _ => (store, .crashed)

/-- A thread that has returned or thrown cannot crash any more. -/
def crash : Task → Task
  | .returned log => .returned log
  | .threw refusal => .threw refusal
  | _ => .crashed

/-- The program: any number of calls of `write_usage_log`. -/
def program (float : String → Option ℚ) : Program Store UsageCall Task (Option Failure) Empty where
  start := start float
  turn := turn float
  halt := crash
  happen _ event := event.elim

end RouteBudget

end PromptRail
