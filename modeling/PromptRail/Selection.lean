import PromptRail.CandidatePool
import PromptRail.Workflow.Grant

/-!
# Selections of workflow calls (`lerouter_modal_api.py`)

A request that names a workflow run and a scope is routed, its candidates are authorized and ranked, and the first one that fits the
request is reserved on the scopes. `/lerouter/route` returns what was routed; `/lerouter/select` makes an accounting token of it. What
the database, the predictors and the routing worker answer before the ranking is given. A transaction that raises leaves the store as
it was, and nothing is written after the reservation.
-/

namespace PromptRail

namespace Selection

open PyText (Text strip)
open Json (Fields Value truthy)
open Accounting (field pyStr strOr ofFloat TokenError TokenArguments WorkflowExecution)
open CandidatePool (executableProviderForModel profileEmbeddingField isTrue)
open Workflow (Store RunKey ScopeId ReservationId ReservationKey ScopeChain Candidate Authorization)

/-! ## Identifiers -/

/-- `uuid.hex`: the 32 digits of a number of 128 bits. -/
def uuidHex (uuid : Nat) : Text := (List.range 32).map fun i => Json.hexDigit (uuid / 16 ^ (31 - i) % 16)

def routingCallText (uuid : Nat) : Text := "lerouter-".toList ++ uuidHex uuid

def runText (id : Workflow.RunId) : Text := "wrun_".toList ++ uuidHex id

def scopeText (id : ScopeId) : Text := "wscope_".toList ++ uuidHex id

def reservationText (id : ReservationId) : Text := "wfr_".toList ++ uuidHex id

/-! ## Requests -/

/-- `INFERENCE_MODES`. -/
inductive InferenceMode where
  | userManaged
  | routerManaged
deriving DecidableEq

/-- `RouteRequest`, of a call in a workflow run: what was not provided is `none`. -/
structure RouteRequest where
  userId : Text
  routeId : Text
  execute : Option Bool := none
  inferenceMode : Option Text := none
  budget : Option Fields := none
  workflowRunId : Workflow.RunId

/-- `body.execute`. -/
def RouteRequest.executes (body : RouteRequest) : Bool := body.execute.getD true

/-- What a key is for. -/
structure AuthContext where
  userId : Option Text
  routeId : Option Text

/-- `auth_user_id(auth_context, body.user_id) or body.user_id`. -/
def authUserId (context : AuthContext) (fallback : Text) : Text :=
  match context.userId with
  | some userId => if userId = [] then fallback else userId
  | none => fallback

/-- `auth_route_id`. -/
def authRouteId (context : AuthContext) (fallback : Text) : Text :=
  let written := context.routeId.getD []
  if written ≠ [] then written else if fallback ≠ [] then fallback else "default".toList

/-- `HTTPException`, and the error of a model without `model_id`. What is refused before the ranking has the status it is given. -/
inductive Refusal where
  | selectionExecuteMismatch
  | selectionInferenceModeMismatch (mode : InferenceMode)
  | invalidInferenceMode (mode : Text)
  | inferenceModeExecutionMismatch (mode : InferenceMode)
  | requestBudgetOverrideNotAllowed
  | workflowBudgetRequiresUserManagedInference
  | refused (statusCode : Nat)
  | workflowBudgetExhausted (failures : List (Text × String))
  | invalidContextCompatibilityEstimate
  | noRequestCompatibleCandidates
  | modelIdMissing
  | reservation (refusal : Workflow.Refusal)
  | selectionUserIdentityMissing
  | selectedModelRankingMismatch (selectedModelId : Text) (rankedModelIds : List Text)
  | token (error : TokenError)

/-- `status_code`. -/
def Refusal.statusCode : Refusal → Nat
  | .refused statusCode => statusCode
  | .workflowBudgetExhausted _ | .noRequestCompatibleCandidates => 409
  | .invalidContextCompatibilityEstimate | .modelIdMissing => 500
  | .reservation refusal => refusal.statusCode
  | .selectionUserIdentityMissing | .selectedModelRankingMismatch .. => 502
  | .token error => error.statusCode
  | _ => 422

variable (env : CandidatePool.Env)

/-- `normalize_inference_mode`. -/
def normalizeInferenceMode (value : Option Text) (fallback : InferenceMode) : Except Refusal InferenceMode :=
  let written := strip (value.getD [])
  let mode := (env.lower written).map fun c => if c = '-' then '_' else c
  if written = [] then .ok fallback
  else if mode = "lerouter_managed".toList ∨ mode = "router_managed".toList then .ok .routerManaged
  else if mode = "user_managed".toList then .ok .userManaged
  else .error (.invalidInferenceMode (value.getD []))

/-! ## What is known before the ranking -/

/-- A candidate that `ranked_candidates_from_modal` returns: its score is a finite number. -/
structure ScoredModel where
  model : Fields
  biencoderScore : ℚ
  scored : Accounting.asFloat env.toEnv (field model "biencoder_score") = .finite biencoderScore

/-- What is predicted of a call: the weight lies between two positive bounds. -/
structure Prediction where
  predictedOutputTokens : ℚ
  effectiveTargetUsd : ℚ
  availableUsd : ℚ
  requestWeight : ℚ
  requestWeight_pos : 0 < requestWeight
  document : Value

/-- The messages and the options of a request. -/
structure Options where
  request : Workflow.Request
  supportedProviders : Option (List Value)

/-- What the routing comes to: the chain of scopes, the route, which has a name, and its scored candidates. -/
structure Routing where
  chain : ScopeChain
  chain_ne : chain.rows ≠ []
  routeName : Text
  routeName_ne : strip routeName ≠ []
  candidates : List (ScoredModel env)
  prediction : Prediction
  estimatedInputTokens : ℚ

/-- What is answered from outside. -/
structure Given where
  authContext : Except Refusal AuthContext
  options : Except Refusal Options
  routing : Except Refusal (Routing env)
  routingCallUuid : Nat
  reservationUuid : Nat

/-! ## Ranking -/

/-- A candidate that is authorized, and the document it is ranked as. -/
structure RankedCandidate where
  model : Fields
  candidate : Candidate
  authorization : Authorization
  authorized : Workflow.authorizeCandidate candidate = .ok authorization
  predictedCostUsd : ℚ
  finalScore : ℚ

/-- A finite number, as it is written into a candidate. -/
def number (x : ℚ) : Value := ofFloat env.toEnv (.finite x)

/-- `workflow_budget_penalty`. -/
def workflowBudgetPenalty (predictedCostUsd effectiveTargetUsd : ℚ) : ℚ :=
  max 0 (predictedCostUsd - effectiveTargetUsd) / max effectiveTargetUsd (1 / 10 ^ 12)

/-- The document of an authorization. -/
def authorizationDocument (authorization : Authorization) : Value :=
  .obj
    [("call_limit_usd", number env authorization.callLimitUsd), ("input_reserve_usd", number env authorization.inputReserveUsd),
      ("max_output_tokens", .int authorization.maxOutputTokens)]

/-- `enriched`. -/
def enriched (scored : ScoredModel env) (prediction : Prediction) (authorization : Authorization) (predictedCostUsd : ℚ) : Fields :=
  let penalty := workflowBudgetPenalty predictedCostUsd prediction.effectiveTargetUsd
  let model := Json.set scored.model "quality_utility" (number env scored.biencoderScore)
  let model := Json.set model "predicted_provider_cost_usd" (number env predictedCostUsd)
  let model := Json.set model "workflow_budget_penalty" (number env penalty)
  let model := Json.set model "final_score" (number env (scored.biencoderScore - penalty))
  let model := Json.set model "workflow_authorization" (authorizationDocument env authorization)
  let model := Json.set model "workflow_predictions" prediction.document
  Json.set model "request_weight" (number env prediction.requestWeight)

/-- The arguments of `authorize_candidate`, for a model. -/
def candidateOf (options : Options) (prediction : Prediction) (model : Fields) (predictedCostUsd : ℚ) : Candidate where
  availableUsd := some prediction.availableUsd
  effectiveTargetUsd := some prediction.effectiveTargetUsd
  predictedCostUsd := some predictedCostUsd
  inputTokens := Workflow.conservativeInputTokens options.request
  inputPricePerMillion := Accounting.finiteProfileNumber env.toEnv (field model "input_price_per_million") false
  outputPricePerMillion := Accounting.finiteProfileNumber env.toEnv (field model "output_price_per_million") false
  callerMaxTokens := options.request.maxTokens

/-- `supported_providers`, empty where any provider is. -/
def supportedProviders (options : Options) : List Text :=
  (options.supportedProviders.getD []).map fun item => env.lower (pyStr env.toEnv item)

/-- One round of the loop over the candidates. -/
def rankCandidate (options : Options) (prediction : Prediction) (scored : ScoredModel env) : Except String RankedCandidate :=
  let provider := executableProviderForModel env scored.model
  if supportedProviders env options ≠ [] ∧ provider ∉ supportedProviders env options then
    .error ("local SDK does not support provider " ++ String.ofList provider)
  else
    match Workflow.predictedProviderCost (Workflow.conservativeInputTokens options.request) (some prediction.predictedOutputTokens)
        (Accounting.finiteProfileNumber env.toEnv (field scored.model "input_price_per_million") false)
        (Accounting.finiteProfileNumber env.toEnv (field scored.model "output_price_per_million") false) with
    | .error reason => .error reason
    | .ok predictedCostUsd =>
      match h : Workflow.authorizeCandidate (candidateOf env options prediction scored.model predictedCostUsd) with
      | .error reason => .error reason
      | .ok authorization =>
        .ok {
          model := enriched env scored prediction authorization predictedCostUsd
          candidate := candidateOf env options prediction scored.model predictedCostUsd
          authorization
          authorized := h
          predictedCostUsd
          finalScore := scored.biencoderScore - workflowBudgetPenalty predictedCostUsd prediction.effectiveTargetUsd }

/-- The order of the ranking: the higher score first, then the lower cost. -/
def RankedCandidate.Precedes (a b : RankedCandidate) : Prop :=
  b.finalScore < a.finalScore ∨ (a.finalScore = b.finalScore ∧ a.predictedCostUsd ≤ b.predictedCostUsd)

instance : DecidableRel RankedCandidate.Precedes := fun _ _ => inferInstanceAs (Decidable (_ ∨ _))

/-- What is said of a candidate that is not ranked. -/
def failure? (options : Options) (prediction : Prediction) (scored : ScoredModel env) : Option (Text × String) :=
  match rankCandidate env options prediction scored with
  | .ok _ => none
  | .error reason => some (strOr env.toEnv (field scored.model "model_id"), reason)

/-- `workflow_rank_candidates`. -/
def workflowRankCandidates (options : Options) (prediction : Prediction) (candidates : List (ScoredModel env)) :
    Except Refusal (List RankedCandidate) :=
  let ranked := candidates.filterMap fun scored => (rankCandidate env options prediction scored).toOption
  if ranked.isEmpty then .error (.workflowBudgetExhausted (candidates.filterMap (failure? env options prediction)))
  else .ok (ranked.insertionSort RankedCandidate.Precedes)

/-- `first_present`. -/
def firstPresent (model : Fields) : List String → Value
  | [] => .null
  | name :: names =>
    match field model name with
    | .null => firstPresent model names
    | v => v

/-- `requires_json`. -/
def requiresJson : Value → Bool
  | .obj responseFormat =>
    let type := env.lower (strip (strOr env.toEnv (field responseFormat "type")))
    type = "json_object".toList ∨ type = "json_schema".toList
  | _ => false

/-- `context_window`. -/
def contextWindow (model : Fields) : Option ℚ :=
  Accounting.finiteProfileNumber env.toEnv (firstPresent model ["context_window", "model_context_window"]) true

/-- A model that supports a request within its context window. -/
def isCompatible (options : Options) (requiredContextTokens : ℚ) (model : Fields) : Bool :=
  (!truthy options.request.tools || isTrue (field model "supports_tools")) &&
    (!requiresJson env options.request.responseFormat || isTrue (field model "supports_json")) &&
    (contextWindow env model).any fun contextWindow => requiredContextTokens ≤ contextWindow

/-- `request_compatible_candidates`. -/
def requestCompatibleCandidates (options : Options) (ranked : List RankedCandidate) (inputTokens outputTokens : ℚ) :
    Except Refusal (List RankedCandidate) :=
  if inputTokens < 0 ∨ outputTokens < 0 then .error .invalidContextCompatibilityEstimate
  else .ok (ranked.filter fun candidate => isCompatible env options (inputTokens + outputTokens) candidate.model)

/-! ## Up to the reservation -/

/-- What a request has come to when it reserves: the first one of the candidates is selected. -/
structure Prepared where
  run : RunKey
  userId : Text
  routeId : Text
  routing : Routing env
  selected : RankedCandidate
  others : List RankedCandidate

theorem Prepared.chain_ne (prepared : Prepared env) : prepared.routing.chain.rows ≠ [] := prepared.routing.chain_ne

/-- `expected_inference_mode`. -/
def expectedInferenceMode (executes : Bool) : InferenceMode := if executes then .routerManaged else .userManaged

/-- The check of the secret, of a call that the user makes. -/
def requireSecret (mode : InferenceMode) : Except Refusal Unit :=
  match mode with
  | .userManaged => ((Accounting.accountingSigningSecret env.toEnv).mapError Refusal.token).map fun _ => ()
  | .routerManaged => .ok ()

/-- The checks of `lerouter_route` on a request in a workflow run. -/
def checkRequest (given : Given env) (body : RouteRequest) : Except Refusal (AuthContext × Options) := do
  let context ← given.authContext
  let mode ← normalizeInferenceMode env body.inferenceMode (expectedInferenceMode body.executes)
  if mode ≠ expectedInferenceMode body.executes then throw (.inferenceModeExecutionMismatch mode)
  if body.budget.isSome then throw .requestBudgetOverrideNotAllowed
  requireSecret env mode
  let options ← given.options
  if body.executes ∨ mode ≠ .userManaged then throw .workflowBudgetRequiresUserManagedInference
  return (context, options)

/-- `lerouter_route`, up to `reserve_workflow_call`. -/
def prepare (given : Given env) (body : RouteRequest) : Except Refusal (Prepared env) := do
  let (context, options) ← checkRequest env given body
  let routing ← given.routing
  let ranked ← workflowRankCandidates env options routing.prediction routing.candidates
  match ← requestCompatibleCandidates env options ranked routing.estimatedInputTokens routing.prediction.predictedOutputTokens with
  | [] => throw .noRequestCompatibleCandidates
  | selected :: others =>
    let userId := authUserId context body.userId
    let routeId := authRouteId context body.routeId
    return {
      run := { userId := String.ofList userId, routeId := String.ofList routeId, runId := body.workflowRunId }
      userId, routeId, routing, selected, others }

/-! ## From the reservation -/

/-- `reserve_workflow_call`, with what it draws and what it reads of the selected model. -/
def reserveWorkflowCall (given : Given env) (store : Store) (prepared : Prepared env) : Except Refusal (Store × WorkflowExecution) :=
  let selected := prepared.selected
  let input : Workflow.Input :=
    { uuid := given.reservationUuid
      candidate := selected.candidate
      modelId := String.ofList (pyStr env.toEnv (field selected.model "model_id"))
      provider := String.ofList (executableProviderForModel env selected.model) }
  match Workflow.reserveWorkflowCall store prepared.run prepared.routing.chain (Prepared.chain_ne env prepared)
      (String.ofList (routingCallText given.routingCallUuid)) selected.authorization input with
  | (store', .returned (.reserved key scopeId callLimitUsd maxOutputTokens)) =>
    if (Json.get? selected.model "model_id").isNone then .error .modelIdMissing
    else
      .ok (store',
        { workflowRunId := runText key.run.runId
          budgetScopeId := scopeText scopeId
          reservationId := reservationText key.id
          callLimitUsd := .finite callLimitUsd
          maxOutputTokens })
  | (_, .threw refusal) => .error (.reservation refusal)
  -- A reservation is returned or refused, and comes to nothing else.
  | _ => .error (.refused 500)

/-- `routing_model_without_internal_fields`. -/
def routingModelWithoutInternalFields (model : Fields) : Fields := model.filter fun p => p.1 != profileEmbeddingField

/-- What `lerouter_route` returns, as far as `route_selection_response` reads it. -/
structure RouteResult where
  userId : Text
  routeId : Text
  routeName : Text
  routingCallId : Text
  bestModel : Fields
  euristiqueBudgetManager : List Fields
  workflowExecution : WorkflowExecution

/-- `lerouter_route`, from the reservation: a call in a workflow run is not executed. -/
def routeResult (given : Given env) (prepared : Prepared env) (execution : WorkflowExecution) : RouteResult where
  userId := prepared.userId
  routeId := prepared.routeId
  routeName := prepared.routing.routeName
  routingCallId := routingCallText given.routingCallUuid
  bestModel := routingModelWithoutInternalFields prepared.selected.model
  euristiqueBudgetManager :=
    (prepared.selected :: prepared.others).map fun candidate => routingModelWithoutInternalFields candidate.model
  workflowExecution := execution

/-- `lerouter_route`. -/
def lerouterRoute (given : Given env) (store : Store) (body : RouteRequest) : Store × Except Refusal RouteResult :=
  match prepare env given body with
  | .error refusal => (store, .error refusal)
  | .ok prepared =>
    match reserveWorkflowCall env given store prepared with
    | .error refusal => (store, .error refusal)
    | .ok (store', execution) => (store', .ok (routeResult env given prepared execution))

/-- `str(model.get("model_id") or "").strip()`. -/
def modelId (model : Fields) : Text := strip (strOr env.toEnv (field model "model_id"))

/-- The arguments of `issue_accounting_token`, for a candidate. -/
def tokenArguments (result : RouteResult) (candidate : Fields) : TokenArguments where
  userId := result.userId
  routeId := result.routeId
  routeName := result.routeName
  modelId := modelId env candidate
  provider := executableProviderForModel env candidate
  modelProfile := .obj candidate
  requestWeight := field candidate "request_weight"
  routingCallId := strip result.routingCallId
  workflowExecution := some result.workflowExecution

/-- A response: what was routed, and the accounting token of the selection. -/
structure Response where
  routed : RouteResult
  accountingToken : Option Text

/-- `route_selection_response`. -/
def routeSelectionResponse (result : RouteResult) : Except Refusal Response := do
  if strip result.userId = [] then throw .selectionUserIdentityMissing
  let ranked := if result.euristiqueBudgetManager.isEmpty then [result.bestModel] else result.euristiqueBudgetManager
  match ranked with
  | [] => throw (.selectedModelRankingMismatch (modelId env result.bestModel) [])
  | candidate :: others =>
    if modelId env candidate ≠ modelId env result.bestModel then
      throw (.selectedModelRankingMismatch (modelId env result.bestModel) ((candidate :: others).map (modelId env)))
    let token ← (Accounting.issueAccountingToken env.toEnv (tokenArguments env result candidate)).mapError Refusal.token
    return { routed := result, accountingToken := some token }

/-- The checks of `lerouter_select`, and the request that it routes. -/
def selectionBody (body : RouteRequest) : Except Refusal RouteRequest := do
  if body.execute = some true then throw .selectionExecuteMismatch
  let mode ← normalizeInferenceMode env body.inferenceMode .userManaged
  if mode ≠ .userManaged then throw (.selectionInferenceModeMismatch mode)
  return { body with execute := some false, inferenceMode := some "user_managed".toList }

/-- The endpoints that reserve a call. -/
inductive Endpoint where
  | route
  | select
deriving DecidableEq

/-- The request that an endpoint routes. -/
def Endpoint.body (endpoint : Endpoint) (body : RouteRequest) : Except Refusal RouteRequest :=
  match endpoint with
  | .route => .ok body
  | .select => selectionBody env body

/-- The response of an endpoint to what was routed. -/
def Endpoint.respond (endpoint : Endpoint) (result : RouteResult) : Except Refusal Response :=
  match endpoint with
  | .route => .ok { routed := result, accountingToken := none }
  | .select => routeSelectionResponse env result

/-- `POST /lerouter/route` and `POST /lerouter/select`. -/
def serve (endpoint : Endpoint) (given : Given env) (store : Store) (body : RouteRequest) : Store × Except Refusal Response :=
  match endpoint.body env body with
  | .error refusal => (store, .error refusal)
  | .ok body => (lerouterRoute env given store body).map id (Except.bind · (endpoint.respond env))

end Selection

end PromptRail
