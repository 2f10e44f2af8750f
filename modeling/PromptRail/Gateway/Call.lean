import PromptRail.Controller.System
import PromptRail.Routing

/-!
# The life of a call (`gateway.py`)

`prepare_call` awaits its parts, among which other operations may run; what each await returns is a parameter here, and so is the time
that has passed. `reroute_prepared` changes the model of a prepared call, and `observe_model` and `fail_model` resolve it. A run has its
configuration from `start_run` to `finish_run`.
-/

namespace PromptRail

open PyText (Text)
open Routing (CallIntent RouterCandidate RouterDecision RoutingError RoutingPolicy Ranker ProviderRoutingPlan)

namespace Gateway

/-- The exceptions of the gateway and of what it calls. -/
inductive GatewayError where
  | python (e : PyError)
  | routing (e : RoutingError)
  | integration (message : String)

/-- What a part of the control plane returned. -/
def ofPython {α : Type} (x : Except PyError α) : Except GatewayError α := x.mapError .python

/-- What the router returned. -/
def ofRouting {α : Type} (x : Except RoutingError α) : Except GatewayError α := x.mapError .routing

/-- `_RunConfiguration`. -/
structure RunConfiguration where
  policy : RoutingPolicy
  candidates : List RouterCandidate

/-- `OutputLengthPrediction`. -/
structure OutputLengthPrediction where
  predictedTokens : Nat
  validate_predicted_tokens : 0 < predictedTokens

/-- `PreparedCall`. -/
structure PreparedCall where
  intent : CallIntent
  budget : CallBudget
  cache : CacheAnalysis
  model : RouterDecision
  provider : ProviderRoutingPlan
  compaction : CompactionResult
  modelAlternatives : List RouterDecision := []
  preparationLatencyMs : Nat := 0
  predictedOutputTokens : Nat

/-- `_configuration`. -/
def configurationOf (runs : RunId → Option RunConfiguration) (runId : RunId) : Except GatewayError RunConfiguration :=
  match runs runId with
  | some configuration => .ok configuration
  | none => .error (.python (.budgetError ("unknown PromptRail run configuration: run_" ++ toString runId)))

/-! ## Preparing -/

/-- `_predict_output`. -/
def predictOutput (predictor : CallIntent → Except GatewayError OutputLengthPrediction) (intent : CallIntent) :
    Except GatewayError OutputLengthPrediction :=
  match h : intent.predictedOutputTokens with
  | some predicted =>
    .ok
      { predictedTokens := min predicted (intent.maxOutputTokens.getD predicted)
        validate_predicted_tokens := by
          have hpredicted := intent.validate_output_tokens predicted (Or.inl h)
          cases hmax : intent.maxOutputTokens with
          | none => simpa using hpredicted
          | some limit => exact lt_min hpredicted (intent.validate_output_tokens limit (Or.inr hmax)) }
  | none => predictor intent

/-- The intent with its prediction. -/
def resolveIntent (intent : CallIntent) (prediction : OutputLengthPrediction) : CallIntent :=
  { intent with
    predictedOutputTokens := some prediction.predictedTokens
    validate_output_tokens := by
      rintro n (h | h)
      · exact Option.some.inj h ▸ prediction.validate_predicted_tokens
      · exact intent.validate_output_tokens n (Or.inr h) }

/-- What the awaits of one `prepare_call` find: the predictor, the coordinator and the clock of the analysis, the answer of
`allocate_call`, the ranker, and the time since the start of the preparation at three points of it. -/
structure Awaited where
  predictor : CallIntent → Except GatewayError OutputLengthPrediction
  cache : PromptCacheCoordinator
  analysedAt : Int
  allocate : CallArguments → Except PyError CallBudget
  rank : Ranker
  selectElapsedMs : Nat
  planElapsedMs : Nat
  preparationLatencyMs : Nat

/-- The arguments of the analysis of a call. -/
def analyzeArguments (env : Env) (intent : CallIntent) (candidates : List RouterCandidate) (predictedTokens : Nat) :
    AnalyzeArguments where
  sessionId := intent.sessionId
  messages := intent.messages
  tools := intent.tools
  candidates := candidates.map (·.toModelCandidate)
  predictedOutputTokens := predictedTokens
  task := intent.task
  contextBlocks := buildContextBlocks env intent.messages intent.task

/-- The tokens of a call as it is asked for. -/
def rawInputTokens (intent : CallIntent) : Nat :=
  (intent.messages.map fun m => estimateTokens (.obj m)).sum + (intent.tools.map fun t => estimateTokens (.obj t)).sum

/-- The part of `prepare_call` that follows the selection. `asyncio.gather` raises whichever of its two parts raises first; the model
takes the plan's exception before that of the compaction. -/
def finishPreparation (env : Env) (plannerKeptTokens minimumKeptTokens : Nat) (policy : RoutingPolicy) (intent : CallIntent)
    (predictedTokens : Nat) (cache : CacheAnalysis) (budget : CallBudget) (decision : RouterDecision)
    (alternatives : List RouterDecision) (awaited : Awaited) : Except GatewayError PreparedCall := do
  let _ ← ofRouting (Routing.plan decision cache budget policy awaited.planElapsedMs)
  let compaction ← ofPython (compact env minimumKeptTokens intent.messages cache
    (plan plannerKeptTokens cache decision.toModelDecision budget))
  if compaction.targetMet = false then
    throw (.python (.compactionError ("Gemma's required context target cannot be reached without changing " ++
      "structurally immutable context")))
  let provider ← ofRouting (Routing.plan decision cache budget policy awaited.preparationLatencyMs)
  return {
    intent, budget, cache
    model := decision
    provider, compaction
    modelAlternatives := alternatives
    preparationLatencyMs := awaited.preparationLatencyMs
    predictedOutputTokens := predictedTokens }

/-- `prepare_call`, with the minimum that the planner keeps of a message and the one that the compactor keeps. -/
def prepareCall (env : Env) (plannerKeptTokens minimumKeptTokens : Nat) (runs : RunId → Option RunConfiguration) (runId : RunId)
    (intent : CallIntent) (awaited : Awaited) : Except GatewayError PreparedCall := do
  let configuration ← configurationOf runs runId
  let prediction ← predictOutput awaited.predictor intent
  let resolved := resolveIntent intent prediction
  let cache ← ofPython (awaited.cache.analyze env awaited.analysedAt
    (analyzeArguments env resolved configuration.candidates prediction.predictedTokens)).1
  let allocated ← ofPython (awaited.allocate
    { task := resolved.task
      inputTokens := rawInputTokens resolved
      predictedOutputTokens := prediction.predictedTokens
      cache
      candidates := configuration.candidates.map (·.toModelCandidate)
      priority := resolved.priority })
  let budget := raisedBudget plannerKeptTokens cache allocated
  let scores ← ofRouting (awaited.rank intent configuration.candidates (configuration.policy.hardCallLatencyLimitMs.getD 3000))
  let ranked ← ofRouting (Routing.selectRanked awaited.rank
    { intent := resolved
      candidates := configuration.candidates
      cache, budget
      policy := configuration.policy
      preparationElapsedMs := awaited.selectElapsedMs
      routerScores := some scores })
  match ranked with
  | [] => throw (.python (.valueError "tuple index out of range"))
  | decision :: alternatives =>
    finishPreparation env plannerKeptTokens minimumKeptTokens configuration.policy resolved prediction.predictedTokens cache budget
      decision alternatives awaited

/-! ## Rerouting -/

/-- `reroute_prepared`. -/
def reroutePrepared (runs : RunId → Option RunConfiguration) (prepared : PreparedCall) (excludedModelIds : Finset String)
    (additionalElapsedMs : Int := 0) : Except GatewayError PreparedCall :=
  if additionalElapsedMs < 0 then .error (.python (.valueError "additional_elapsed_ms cannot be negative"))
  else
    let ranked := prepared.model :: prepared.modelAlternatives
    match ranked.find? fun item => decide (item.candidate.modelId ∉ excludedModelIds) with
    | none => .error (.routing (.routing "no precomputed feasible model remains for provider failover"))
    | some decision => do
      let configuration ← configurationOf runs prepared.budget.runId
      let provider ← ofRouting (Routing.plan decision prepared.cache prepared.budget configuration.policy
        (prepared.preparationLatencyMs + additionalElapsedMs))
      return { prepared with
        model := decision
        modelAlternatives := ranked.filter fun item =>
          item.candidate.modelId ≠ decision.candidate.modelId && decide (item.candidate.modelId ∉ excludedModelIds)
        provider }

/-! ## Resolving -/

/-- `PromptRailGateway`: the controller with its allocations in progress, the cache, and the configurations of the runs. -/
structure PromptRailGateway where
  system : System
  cache : PromptCacheCoordinator := {}
  runs : RunId → Option RunConfiguration := fun _ => none

/-- The clock. -/
def PromptRailGateway.now (g : PromptRailGateway) : Int := g.system.controller.now

/-- `start_run`, with the policy that the policy agent synthesizes, or what it raises. -/
def PromptRailGateway.startRun (g : PromptRailGateway) (sessionId : Text) (candidates : List RouterCandidate)
    (synthesized : Except GatewayError RoutingPolicy) : Except GatewayError RunSnapshot × PromptRailGateway :=
  if candidates.isEmpty then (.error (.python (.valueError "a PromptRail run requires at least one model candidate")), g)
  else if ¬(candidates.map (·.modelId)).Nodup then
    (.error (.python (.valueError "PromptRail model candidate IDs must be unique")), g)
  else
    match synthesized with
    | .error e => (.error e, g)
    | .ok policy =>
      let started := g.system.controller.startRun sessionId policy.toOperatingPolicy
      let g' := { g with system := { g.system with controller := started.2 } }
      match started.1 with
      | .error e => (.error (.python e), g')
      | .ok snapshot => (.ok snapshot, { g' with runs := Function.update g'.runs snapshot.runId (some { policy, candidates }) })

/-- `observe_tool`. -/
def PromptRailGateway.observeTool (g : PromptRailGateway) (runId : RunId) : Except GatewayError RunSnapshot × PromptRailGateway :=
  let observed := g.system.controller.observeTool runId
  (ofPython observed.1, { g with system := { g.system with controller := observed.2 } })

/-- `finish_run`. -/
def PromptRailGateway.finishRun (g : PromptRailGateway) (runId : RunId) (success : Bool) :
    Except GatewayError RunSnapshot × PromptRailGateway :=
  let finished := g.system.controller.finishRun runId (if success then .completed else .failed)
  let g' := { g with system := { g.system with controller := finished.2 } }
  match finished.1 with
  | .error e => (.error (.python e), g')
  | .ok snapshot => (.ok snapshot, { g' with runs := Function.update g'.runs runId none })

/-- `_usage_cost`. -/
def usageCost (usage : ModelUsage) (route : ProviderRoute) : ℚ :=
  let readTokens := min usage.inputTokens usage.cacheReadTokens
  let remaining := usage.inputTokens - readTokens
  let writeTokens := min remaining usage.cacheWriteTokens
  let uncachedTokens := remaining - writeTokens
  (readTokens * route.cacheReadPricePerMillion.getD route.inputPricePerMillion +
    writeTokens * route.cacheWritePricePerMillion.getD route.inputPricePerMillion +
    uncachedTokens * route.inputPricePerMillion + usage.outputTokens * route.outputPricePerMillion) / 1000000

theorem usageCost_nonneg (usage : ModelUsage) (route : ProviderRoute) : 0 ≤ usageCost usage route := by
  obtain ⟨hinput, houtput, hcache⟩ := route.validate_price
  have hrate : ∀ price : Option ℚ, (∀ p, price = some p → 0 ≤ p) → 0 ≤ price.getD route.inputPricePerMillion := by
    rintro (_ | p) hprice
    · exact hinput
    · exact hprice p rfl
  have hread := hrate route.cacheReadPricePerMillion fun p hp => hcache p (Or.inl hp)
  have hwrite := hrate route.cacheWritePricePerMillion fun p hp => hcache p (Or.inr hp)
  unfold usageCost
  dsimp only
  positivity

/-- The messages that the compaction of a call has changed. -/
def PreparedCall.compactedIndices (call : PreparedCall) : List Nat := call.compaction.records.map (·.messageIndex)

/-- The analysis that `observe_model` observes: of the call, or of what the compaction made of it. -/
def PromptRailGateway.cacheObservation (env : Env) (g : PromptRailGateway) (call : PreparedCall) :
    Except GatewayError CacheAnalysis × PromptCacheCoordinator :=
  if call.compactedIndices.isEmpty then (.ok call.cache, g.cache)
  else
    match configurationOf g.runs call.budget.runId with
    | .error e => (.error e, g.cache)
    | .ok configuration =>
      let out := g.cache.analyze env g.now
        { sessionId := call.intent.sessionId
          messages := call.compaction.messages
          tools := call.intent.tools
          candidates := configuration.candidates.map (·.toModelCandidate)
          predictedOutputTokens := call.predictedOutputTokens
          task := call.intent.task }
      (ofPython out.1, out.2)

/-- The usage that `observe_model` observes. A read of the old prefix does not prove that the rewritten one was stored. -/
def cacheUsage (call : PreparedCall) (usage : ModelUsage) : ModelUsage :=
  if call.compactedIndices.any call.cache.cacheableMessageIndices.contains then { usage with cacheReadTokens := 0 } else usage

/-- The part of `observe_model` that follows the settlement. -/
def PromptRailGateway.observeCache (env : Env) (g : PromptRailGateway) (call : PreparedCall) (usage : ModelUsage)
    (route : ProviderRoute) (snapshot : RunSnapshot) : Except GatewayError RunSnapshot × PromptRailGateway :=
  let observation := g.cacheObservation env call
  match observation.1 with
  | .error e => (.error e, { g with cache := observation.2 })
  | .ok analysis =>
    (.ok snapshot,
      { g with cache := observation.2.observe g.now call.intent.sessionId analysis route (cacheUsage call usage) })

/-- The part of `observe_model` that follows the choice of the route. -/
def PromptRailGateway.observeOn (env : Env) (g : PromptRailGateway) (call : PreparedCall) (usage : ModelUsage)
    (route : ProviderRoute) : Except GatewayError RunSnapshot × PromptRailGateway :=
  match usage.costUsd.getD (some (usageCost usage route)) with
  | none => (.error (.python (.valueError "cost_usd must be finite and non-negative")), g)
  | some cost =>
    let settled := g.system.controller.settleCall call.budget.runId call.budget.callId cost
      (usage.latencyMs + call.preparationLatencyMs)
    let g' := { g with system := { g.system with controller := settled.2 } }
    match settled.1 with
    | .error e => (.error (.python e), g')
    | .ok snapshot => g'.observeCache env call usage route snapshot

/-- `observe_model`. -/
def PromptRailGateway.observeModel (env : Env) (g : PromptRailGateway) (call : PreparedCall) (usage : ModelUsage) :
    Except GatewayError RunSnapshot × PromptRailGateway :=
  if usage.modelId ≠ call.model.candidate.modelId then
    (.error (.python (.budgetError "provider usage model does not match the authorized model")), g)
  else
    match call.provider.routes.find? fun route => route.provider = usage.provider with
    | none => (.error (.python (.budgetError "provider usage came from a route outside the authorized plan")), g)
    | some route => g.observeOn env call usage route

/-- `fail_model`. -/
def PromptRailGateway.failModel (g : PromptRailGateway) (call : PreparedCall) (billingUnknown : Bool := true) :
    Except GatewayError RunSnapshot × PromptRailGateway :=
  let failed := g.system.controller.failCall call.budget.runId call.budget.callId billingUnknown
  (ofPython failed.1, { g with system := { g.system with controller := failed.2 } })

end Gateway

end PromptRail
