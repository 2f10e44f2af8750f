import Mathlib.Data.List.MinMax
import Mathlib.Data.List.Sort
import Mathlib.Data.Prod.Lex
import Mathlib.Data.String.Basic
import Mathlib.Data.Rat.Floor
import PromptRail.Compaction
import PromptRail.Library.Outcome

/-!
# Model selection and provider planning (`routing.py`)

`CacheAwareLeRouter.select_ranked` prices the cheapest route of every candidate, drops the candidates that do not fit the call budget,
and ranks the rest. `ProviderDeadlineAllocator.plan` turns one of the decisions into the routes that the call may be sent to.
-/

namespace PromptRail

open PyText (Text casefold)
open Table (Dict)

namespace Routing

/-! ## What the router reads -/

/-- The exceptions of the router, with their texts. -/
inductive RoutingError where
  | routing (message : String)
  | value (message : String)
deriving DecidableEq, Repr

/-- `TaskRule`. -/
structure TaskRule where
  name : String
  matchTerms : List Text := []
  minimumQuality : Option ℚ := none
  validate_quality : ∀ q, minimumQuality = some q → 0 ≤ q ∧ q ≤ 1

/-- `OperatingPolicy`: the hard limits, and what the router weighs. -/
structure RoutingPolicy extends OperatingPolicy where
  costPriority : ℚ := 1
  latencyPriority : ℚ := 1
  qualityPriority : ℚ := 1
  cachePriority : ℚ := 1
  minimumQuality : ℚ := 0
  providerExplorationFraction : ℚ := 1 / 2
  maximumProviderExplorationMs : Nat := 2000
  controllerReserveMs : Nat := 25
  compactionReserveMs : Nat := 75
  latencySafetyMarginMs : Nat := 50
  taskRules : List TaskRule := []
  validate_priority : 0 ≤ costPriority ∧ 0 ≤ latencyPriority ∧ 0 ≤ qualityPriority ∧ 0 ≤ cachePriority
  validate_fraction : (0 ≤ providerExplorationFraction ∧ providerExplorationFraction ≤ 1) ∧ 0 ≤ minimumQuality ∧ minimumQuality ≤ 1

/-- The defaults pass their checks. -/
theorem RoutingPolicy.defaultPriority_valid : (0 : ℚ) ≤ 1 ∧ (0 : ℚ) ≤ 1 ∧ (0 : ℚ) ≤ 1 ∧ (0 : ℚ) ≤ 1 := by norm_num

theorem RoutingPolicy.defaultFraction_valid : ((0 : ℚ) ≤ 1 / 2 ∧ (1 / 2 : ℚ) ≤ 1) ∧ (0 : ℚ) ≤ 0 ∧ (0 : ℚ) ≤ 1 := by norm_num

/-- A hard cost limit is set. -/
def RoutingPolicy.hardCost (policy : RoutingPolicy) : Bool :=
  policy.hardCallCostLimitUsd.isSome || policy.hardAgentCostLimitUsd.isSome

/-- A hard latency limit is set. -/
def RoutingPolicy.hardLatency (policy : RoutingPolicy) : Bool :=
  policy.hardCallLatencyLimitMs.isSome || policy.hardAgentLatencyLimitMs.isSome

/-- `ModelCandidate`: the routes, and what the router checks. -/
structure RouterCandidate extends ModelCandidate where
  quality : ℚ
  contextWindowTokens : Nat
  capabilities : Finset String := ∅
  routerScore : Option ℚ := none
  validate_score : (0 ≤ quality ∧ quality ≤ 1) ∧ ∀ s, routerScore = some s → 0 ≤ s ∧ s ≤ 1
  validate_context_window : 0 < contextWindowTokens

/-- `CallIntent`. -/
structure CallIntent where
  sessionId : Text
  task : Text
  messages : List Message
  tools : List Message := []
  requiredCapabilities : Finset String := ∅
  predictedOutputTokens : Option Nat := none
  maxOutputTokens : Option Nat := none
  priority : ℚ := 1
  validate_output_tokens : ∀ n, predictedOutputTokens = some n ∨ maxOutputTokens = some n → 0 < n

/-- `ModelDecision`, of a candidate of the router. -/
structure RouterDecision where
  candidate : RouterCandidate
  route : ProviderRoute
  score : ℚ
  baseRouterScore : ℚ
  predictedCostUsd : ℚ
  predictedInputCostUsd : ℚ
  predictedOutputTokens : Nat
  predictedLatencyMs : Nat
  cacheValue : CacheValue

/-- The part of a decision that the compaction reads. -/
def RouterDecision.toModelDecision (decision : RouterDecision) : ModelDecision where
  candidate := decision.candidate.toModelCandidate
  route := decision.route
  cacheValue := decision.cacheValue

/-- The scores of a ranker, by model; one that is not finite is none. -/
abbrev Scores := Dict String (Option ℚ)

/-- `LeRouterRanker.rank`. -/
abbrev Ranker := CallIntent → List RouterCandidate → Int → Except RoutingError Scores

/-- `SuppliedLeRouterRanker.rank`. -/
def suppliedRank : Ranker := fun _ candidates _ =>
  let missing := (candidates.filter fun candidate => candidate.routerScore.isNone).map (·.modelId)
  if missing.isEmpty then .ok (Table.ofList (candidates.map fun candidate => (candidate.modelId, candidate.routerScore)))
  else .error (.routing ("LeRouter scores are required for every candidate: " ++ String.intercalate ", " missing))

/-! ## Prices -/

/-- `noncached_capacity`: what the messages outside the cached prefix can lose. -/
def noncachedCapacity (cache : CacheAnalysis) : Nat :=
  ((cache.compactableMessageIndices.filter fun i => !cache.cacheableMessageIndices.contains i).map fun i =>
    cache.tokensAt i - 32).sum

/-- The price of the tokens of an input, of which some are read from the cache. -/
def inputPrice (route : ProviderRoute) (requiredContextTokens cachedTokens : Int) : ℚ :=
  let cachedRate :=
    if cachedTokens ≠ 0 then route.cacheReadPricePerMillion.getD route.inputPricePerMillion else route.inputPricePerMillion
  (cachedTokens * cachedRate + (requiredContextTokens - cachedTokens) * route.inputPricePerMillion) / 1000000

/-- `_required_input_cost`. -/
def requiredInputCost (route : ProviderRoute) (requiredContextTokens : Int) (cache : CacheAnalysis) (value : CacheValue) : ℚ :=
  let exact := value.exactReuse && value.provider == some route.provider && route.cacheSupported
  let requiredReduction := max 0 (cache.totalTokens - requiredContextTokens)
  let cachePreserved := decide (requiredReduction ≤ noncachedCapacity cache)
  let cachedTokens := if exact && cachePreserved then min requiredContextTokens value.cachedTokens else 0
  inputPrice route requiredContextTokens cachedTokens

/-- The price of the predicted output. -/
def outputCost (route : ProviderRoute) (predictedOutputTokens : Nat) : ℚ :=
  predictedOutputTokens * route.outputPricePerMillion / 1000000

/-- `_route_cost`. -/
def routeCost (route : ProviderRoute) (decision : RouterDecision) (cache : CacheAnalysis) (budget : CallBudget) : ℚ :=
  let requiredReduction := max 0 (cache.totalTokens - budget.requiredContextTokens)
  let exact := decision.cacheValue.exactReuse && some route.provider == decision.cacheValue.provider && route.cacheSupported &&
    decide (requiredReduction ≤ noncachedCapacity cache)
  let cachedTokens := if exact then min budget.requiredContextTokens decision.cacheValue.cachedTokens else 0
  inputPrice route budget.requiredContextTokens cachedTokens + outputCost route decision.predictedOutputTokens

/-! ## Selection -/

/-- `_minimum_quality`. -/
def minimumQuality (task : Text) (policy : RoutingPolicy) : ℚ :=
  let normalized := casefold task
  let matched := (policy.taskRules.filter fun rule => rule.matchTerms.any fun term => decide (term <:+: normalized)).filterMap
    (·.minimumQuality)
  matched.foldl max policy.minimumQuality

/-- The least latency of the routes of the candidates. -/
def fastestProviderMs (candidates : List RouterCandidate) : Option Nat :=
  ((candidates.flatMap (·.routes)).map (·.p95TotalLatencyMs)).min?

/-- `_routing_timeout_ms`. -/
def routingTimeoutMs (candidates : List RouterCandidate) (budget : CallBudget) (policy : RoutingPolicy)
    (preparationElapsedMs : Int) : Except RoutingError Int :=
  if policy.hardLatency then
    match fastestProviderMs candidates with
    | none => .error (.value "min() arg is an empty sequence")
    | some fastest =>
      let available := budget.latencyMs - max preparationElapsedMs policy.controllerReserveMs - policy.compactionReserveMs -
        policy.latencySafetyMarginMs - fastest
      if available ≤ 0 then .error (.routing "call latency budget leaves no time for LeRouter model selection") else .ok available
  else .ok (max 1 budget.latencyMs)

/-- The arguments of `select_ranked`. -/
structure SelectArguments where
  intent : CallIntent
  candidates : List RouterCandidate
  cache : CacheAnalysis
  budget : CallBudget
  policy : RoutingPolicy
  preparationElapsedMs : Int := 0
  routerScores : Option Scores := none

/-- The order `min` takes the routes in: cost, then tail latency, then identifier. -/
def costKey (cost : ProviderRoute → ℚ) (route : ProviderRoute) : ℚ ×ₗ ℕ ×ₗ String :=
  toLex (cost route, toLex (route.p95TotalLatencyMs, route.routeId))

/-- What `select_ranked` takes a route of a candidate to cost. -/
def SelectArguments.predictedCost (args : SelectArguments) (value : CacheValue) (predictedOutputTokens : Nat)
    (route : ProviderRoute) : ℚ :=
  requiredInputCost route args.budget.requiredContextTokens args.cache value + outputCost route predictedOutputTokens

/-- `predicted_latency`. -/
def RoutingPolicy.predictedLatency (policy : RoutingPolicy) (route : ProviderRoute) : Nat :=
  route.p95TotalLatencyMs + policy.controllerReserveMs + policy.compactionReserveMs + policy.latencySafetyMarginMs

/-- The rounding that a cost may exceed its budget by. -/
def costTolerance : ℚ := 1 / 1000000000000

/-- The costs of a call exceed its budget. -/
def exceedsBudget (budget : CallBudget) (inputCostUsd outputCostUsd costUsd : ℚ) : Bool :=
  decide (budget.inputCostUsd + costTolerance < inputCostUsd) || decide (budget.outputCostUsd + costTolerance < outputCostUsd) ||
    decide (budget.costUsd + costTolerance < costUsd)

/-- The score of a candidate that fits. -/
def SelectArguments.score (args : SelectArguments) (value : CacheValue) (baseScore predictedCost : ℚ) (predictedLatency : Nat) : ℚ :=
  let costUnit := max args.budget.costUsd costTolerance
  args.policy.qualityPriority * baseScore - args.policy.costPriority * (predictedCost / costUnit) -
    args.policy.latencyPriority * (predictedLatency / max args.budget.latencyMs 1 : ℚ) +
    args.policy.cachePriority * (value.retainedValueUsd / costUnit) - args.policy.cachePriority * (value.switchCostUsd / costUnit)

/-- The decision on a candidate, with its cheapest route, or the reason why it is rejected. -/
def SelectArguments.priceCandidate (args : SelectArguments) (scores : Scores) (predicted : Nat) (candidate : RouterCandidate)
    (value : CacheValue) (route : ProviderRoute) : Except RoutingError (String ⊕ RouterDecision) :=
  let predictedCost := args.predictedCost value predicted route
  let inputCost := requiredInputCost route args.budget.requiredContextTokens args.cache value
  let predictedLatency := args.policy.predictedLatency route
  if args.policy.hardCost && exceedsBudget args.budget inputCost (predictedCost - inputCost) predictedCost then
    .ok (.inl (candidate.modelId ++ ": predicted cost exceeds call budget"))
  else if args.policy.hardLatency && decide (args.budget.latencyMs < predictedLatency) then
    .ok (.inl (candidate.modelId ++ ": predicted latency exceeds call budget"))
  else
    match (scores.lookup candidate.modelId).join with
    | none => .error (.routing ("LeRouter returned a non-finite score for " ++ candidate.modelId))
    | some baseScore =>
      .ok (.inr
        { candidate
          route
          score := args.score value baseScore predictedCost predictedLatency
          baseRouterScore := baseScore
          predictedCostUsd := predictedCost
          predictedInputCostUsd := inputCost
          predictedOutputTokens := predicted
          predictedLatencyMs := predictedLatency
          cacheValue := value })

/-- One turn of the loop of `select_ranked`. -/
def SelectArguments.considerCandidate (args : SelectArguments) (scores : Scores) (predicted : Nat) (candidate : RouterCandidate) :
    Except RoutingError (String ⊕ RouterDecision) :=
  if candidate.quality < minimumQuality args.intent.task args.policy then
    .ok (.inl (candidate.modelId ++ ": quality below policy minimum"))
  else if ¬ args.intent.requiredCapabilities ⊆ candidate.capabilities then
    .ok (.inl (candidate.modelId ++ ": required capabilities missing"))
  else if (candidate.contextWindowTokens : Int) < args.budget.requiredContextTokens + predicted then
    .ok (.inl (candidate.modelId ++ ": context window exceeded"))
  else
    match args.cache.values.lookup candidate.modelId with
    | none => .ok (.inl (candidate.modelId ++ ": cache economics unavailable"))
    | some value =>
      match candidate.routes.argmin (costKey (args.predictedCost value predicted)) with
      | none => .error (.value "min() arg is an empty sequence")
      | some route => args.priceCandidate scores predicted candidate value route

/-- The order of the decisions: score, base score, cost downwards, model. -/
def rankKey (decision : RouterDecision) : ℚ ×ₗ ℚ ×ₗ ℚ ×ₗ String :=
  toLex (decision.score, toLex (decision.baseRouterScore, toLex (-decision.predictedCostUsd, decision.candidate.modelId)))

/-- The scores that are given, or else those of the ranker. -/
def SelectArguments.scores (args : SelectArguments) (rank : Ranker) (timeoutMs : Int) : Except RoutingError Scores :=
  match args.routerScores with
  | some scores => .ok scores
  | none => rank args.intent args.candidates timeoutMs

/-- The checks that `select_ranked` makes before its loop, and what it loops with: the scores and the predicted output. -/
def SelectArguments.prepare (args : SelectArguments) (rank : Ranker) : Except RoutingError (Scores × Nat) :=
  if args.candidates.isEmpty then .error (.routing "LeRouter received no model candidates")
  else if args.preparationElapsedMs < 0 then .error (.value "preparation_elapsed_ms cannot be negative")
  else
    match routingTimeoutMs args.candidates args.budget args.policy args.preparationElapsedMs with
    | .error e => .error e
    | .ok timeoutMs =>
      match args.intent.predictedOutputTokens with
      | none => .error (.routing "output prediction must complete before model selection")
      | some predicted =>
        match args.scores rank timeoutMs with
        | .error e => .error e
        | .ok scores =>
          if scores.keys.toFinset = (args.candidates.map (·.modelId)).toFinset then .ok (scores, predicted)
          else .error (.routing "LeRouter returned an incomplete or foreign candidate score set")

/-- What `select_ranked` makes of its loop: the decisions in the order of their rank, downwards. -/
def rankDecisions (considered : List (String ⊕ RouterDecision)) : Except RoutingError (List RouterDecision) :=
  let decisions := considered.filterMap Sum.getRight?
  if decisions.isEmpty then
    .error (.routing ("no model satisfies the call budget and capabilities: " ++
      String.intercalate "; " ((considered.filterMap Sum.getLeft?).take 8)))
  else .ok (decisions.insertionSort fun a b => rankKey b ≤ rankKey a)

/-- `select_ranked`. -/
def selectRanked (rank : Ranker) (args : SelectArguments) : Except RoutingError (List RouterDecision) := do
  let (scores, predicted) ← args.prepare rank
  let considered ← args.candidates.mapM (args.considerCandidate scores predicted)
  rankDecisions considered

/-! ## Planning -/

/-- `ProviderRoutingMode`. -/
inductive ProviderRoutingMode where
  | sticky | deadline | direct
deriving DecidableEq, Repr

/-- `ProviderRoutingPlan`. -/
structure ProviderRoutingPlan where
  mode : ProviderRoutingMode
  modelId : String
  routes : List ProviderRoute
  startWithinMs : Int
  totalTimeoutMs : Int
  latencyBudgetMs : Int
  reason : String

/-- `_execution_budget`. -/
def executionBudget (budget : CallBudget) (policy : RoutingPolicy) (preparationElapsedMs : Int) (minimumProviderMs : Nat) :
    Except RoutingError Int :=
  if preparationElapsedMs < 0 then .error (.value "preparation_elapsed_ms cannot be negative")
  else if policy.hardLatency then
    let available := budget.latencyMs - max preparationElapsedMs (policy.controllerReserveMs + policy.compactionReserveMs) -
      policy.latencySafetyMarginMs
    if available ≤ 0 then .error (.routing "call latency budget was consumed before provider execution") else .ok available
  else .ok (max budget.latencyMs minimumProviderMs)

/-- The route of the provider that the last call of the session ran on, if it ran on this model. -/
def pinnedRoute (candidate : ModelCandidate) (cache : CacheAnalysis) : Option ProviderRoute :=
  if cache.lastModelId = some candidate.modelId then
    cache.lastProvider.bind fun provider => candidate.routes.find? fun route => route.provider = provider
  else none

/-- `guaranteed`: the fastest of the guaranteed routes, or of all routes where none is guaranteed. -/
def guaranteedRoute (routes : List ProviderRoute) : Option ProviderRoute :=
  let guaranteed := routes.filter (·.guaranteed)
  (if guaranteed.isEmpty then routes else guaranteed).argmin fun route =>
    (toLex (route.p95TotalLatencyMs, toLex (route.p95TtftMs, route.routeId)) : ℕ ×ₗ ℕ ×ₗ String)

/-- `start_within_ms`: the part of the slack that may be spent on other providers. -/
def startWithinMs (policy : RoutingPolicy) (executionBudget : Int) (guaranteed : ProviderRoute) : Int :=
  let slack := max 0 (executionBudget - guaranteed.p95TotalLatencyMs)
  min policy.maximumProviderExplorationMs ⌊(slack : ℚ) * policy.providerExplorationFraction⌋

/-- The routes of a deadline plan between the cheapest and the guaranteed one. -/
def otherRoutes (routes : List ProviderRoute) (cheapest guaranteed : ProviderRoute) : List ProviderRoute :=
  (routes.insertionSort fun a b =>
    (toLex (a.p95TotalLatencyMs, a.routeId) : ℕ ×ₗ String) ≤ toLex (b.p95TotalLatencyMs, b.routeId)).filter fun route =>
      route.routeId ≠ cheapest.routeId && route.routeId ≠ guaranteed.routeId

/-- The plan of a call that is pinned to a provider. -/
def stickyPlan (decision : RouterDecision) (budget : CallBudget) (policy : RoutingPolicy) (preparationElapsedMs : Int)
    (route : ProviderRoute) : Except RoutingError ProviderRoutingPlan :=
  (executionBudget budget policy preparationElapsedMs route.p95TotalLatencyMs).map fun total =>
    { mode := .sticky
      modelId := decision.candidate.modelId
      routes := [route]
      startWithinMs := 0
      totalTimeoutMs := total
      latencyBudgetMs := budget.latencyMs
      reason := "same model as previous session call; provider pinned for cache locality" }

/-- The plan of a call that is not pinned, with what it may take. -/
def openPlan (decision : RouterDecision) (budget : CallBudget) (policy : RoutingPolicy) (cheapest guaranteed : ProviderRoute)
    (total : Int) : ProviderRoutingPlan :=
  let start := startWithinMs policy total guaranteed
  if cheapest.routeId = guaranteed.routeId ∨ start ≤ 0 then
    { mode := .direct
      modelId := decision.candidate.modelId
      routes := [guaranteed]
      startWithinMs := 0
      totalTimeoutMs := total
      latencyBudgetMs := budget.latencyMs
      reason :=
        if cheapest.routeId = guaranteed.routeId then "cheapest provider is already the guaranteed route"
        else "call latency budget has no safe provider-exploration slack" }
  else
    { mode := .deadline
      modelId := decision.candidate.modelId
      routes := cheapest :: otherRoutes decision.candidate.routes cheapest guaranteed ++ [guaranteed]
      startWithinMs := start
      totalTimeoutMs := total
      latencyBudgetMs := budget.latencyMs
      reason := "allocated " ++ toString start ++ "ms of " ++ toString budget.latencyMs ++
        "ms to the cheapest provider before escalating to " ++ guaranteed.provider }

/-- `ProviderDeadlineAllocator.plan`. -/
def plan (decision : RouterDecision) (cache : CacheAnalysis) (budget : CallBudget) (policy : RoutingPolicy)
    (preparationElapsedMs : Int := 0) : Except RoutingError ProviderRoutingPlan :=
  match pinnedRoute decision.candidate.toModelCandidate cache with
  | some route => stickyPlan decision budget policy preparationElapsedMs route
  | none =>
    match decision.candidate.routes.argmin (costKey fun route => routeCost route decision cache budget),
      guaranteedRoute decision.candidate.routes with
    | some cheapest, some guaranteed =>
      (executionBudget budget policy preparationElapsedMs guaranteed.p95TotalLatencyMs).map
        (openPlan decision budget policy cheapest guaranteed)
    | _, _ => .error (.routing "selected model has no provider routes")

/-! ## Calls of the examples -/

/-- A call that is limited to one second. -/
theorem RoutingPolicy.secondLimit_valid : ∀ l : Int, none = some l ∨ some 1000 = some l → 0 < l := by simp

/-- A candidate of full quality, whose score is the highest one. -/
theorem RouterCandidate.fullScore_valid : ((0 : ℚ) ≤ 1 ∧ (1 : ℚ) ≤ 1) ∧ ∀ s : ℚ, some 1 = some s → 0 ≤ s ∧ s ≤ 1 := by simp

theorem RouterCandidate.wideWindow_valid : 0 < 8000 := by decide

theorem CallIntent.hundredTokens_valid : ∀ n : Nat, some 100 = some n ∨ none = some n → 0 < n := by simp

end Routing

end PromptRail
