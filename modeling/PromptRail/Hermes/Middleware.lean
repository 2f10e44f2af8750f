import PromptRail.Hermes

/-!
# The middleware (`plugin.py`)

The routing of a call, the execution of the selected candidate and the usage log of what has come of it, in the order of
`on_llm_execution_middleware`.
-/

namespace PromptRail

open PyText (Text strip)
open Json (Value get? set truthy)
open Provider (field orElse isPresent isText asDict)
open Usage (documentOf inputAliases outputAliases estimateFinalRequestSpendUsd)

namespace Hermes

variable (host : Host)

/-! ## The spend of a response -/

/-- `_primitive_usage_dict`; an object that is not a dictionary is given by its attributes. -/
def primitiveUsageDict : Value → Json.Fields
  | .obj usage => usage
  | _ => []

/-- `_usage_has_token_counts`. -/
def usageHasTokenCounts (usage : Json.Fields) : Bool :=
  (inputAliases.any fun name => (get? usage name).isSome) && outputAliases.any fun name => (get? usage name).isSome

/-- A character of the id of a generation. -/
def isGenerationIdChar (c : Char) : Bool := ('A' ≤ c && c ≤ 'Z') || ('a' ≤ c && c ≤ 'z') || c.isDigit || c == '_' || c == '-'

/-- `_openrouter_generation_usage`, without `total_tokens`, which nothing reads. -/
def openrouterGenerationUsage (entry : Json.Fields) (response : Response) : Except Exn Json.Fields :=
  match orElse (field response.fields "_lerouter_openrouter_generation_id") (field response.fields "id") with
  | .str generationId =>
    if generationId = [] ∨ !generationId.all isGenerationIdChar then
      .error (runtimeError "OpenRouter response generation id is missing or invalid".toList)
    else
      let apiKey := match field entry "api_key" with
        | .str key => if key = [] then host.openrouterApiKey else some key
        | value => if truthy value then none else host.openrouterApiKey
      if (apiKey.map strip).all List.isEmpty then .error (runtimeError "OpenRouter API key is missing for generation usage lookup".toList)
      else do
        let payload ← host.generation generationId
        match field payload "data" with
        | .obj generation =>
          if sameId (field generation "id") (.str generationId) then
            return [("prompt_tokens", field generation "tokens_prompt"), ("completion_tokens", field generation "tokens_completion"),
              ("cost", field generation "total_cost"), ("generation_id", .str generationId),
              ("accounting_source", .str "openrouter_generation_metadata".toList)]
          else throw (runtimeError "OpenRouter generation usage response id does not match completion".toList)
        | _ => throw (runtimeError "OpenRouter generation usage response is missing data".toList)
  | _ => .error (runtimeError "OpenRouter response generation id is missing or invalid".toList)

/-- The entry of a model as the plugin reads its prices. -/
def pricedEntry (entry : Json.Fields) : Usage.Entry where
  fields := documentOf host.literal entry
  modelCost := ((asDict (field entry "model_cost")).map (documentOf host.literal)).getD ∅

/-- `_estimate_final_request_spend_usd` of the usage of a response. -/
def finalRequestSpendUsd (entry usage : Json.Fields) : Except String ℚ :=
  estimateFinalRequestSpendUsd host.float (some (pricedEntry host entry)) (documentOf host.literal usage)

/-- The usage that a response is charged for: OpenRouter is asked for the one of a response that has no counts. -/
def chargedUsage (entry : Json.Fields) (response : Response) : Except Exn Json.Fields :=
  let usage := primitiveUsageDict (field response.fields "usage")
  if !usageHasTokenCounts usage && isText "openrouter" (field entry "provider") then
    match openrouterGenerationUsage host entry response with
    | .ok usage => .ok usage
    | .error error => .error (failClosed
        ("LeRouter successful OpenRouter response usage lookup failed: ".toList ++ host.safeErrorMessage error.message))
  else .ok usage

/-- The usage and the spend of a response; a call without one has no spend. -/
def accountedSpend (entry : Json.Fields) : Option Response → Except Exn (Json.Fields × ℚ)
  | none => .ok ([], 0)
  | some response => do
    let usage ← chargedUsage host entry response
    match finalRequestSpendUsd host entry usage with
    | .ok spendUsd => return (usage, spendUsd)
    | .error message => throw (failClosed ("LeRouter successful response cannot be accounted: " ++ message).toList)

/-- The text of an exception, where it has one. -/
def messageOf (message : Text) : Option Text := if message = [] then none else some (host.safeErrorMessage message)

/-- `_usage_payload`: of the response of a call, or of a call without success and its error. -/
def usagePayload (state : Json.Fields) (routeName : Value) (attempt : Attempt) (routingCallId : Text) (response : Option Response)
    (error : Text) : Except Exn Payload := do
  let (accountingRoutingCallId, accountingToken) ← requireAccountingClaim host.env attempt.selection
  let accountingUserId := cleanText host.env (field attempt.selection "user_id")
  if accountingUserId = [] then
    throw (runtimeError "LeRouter selection response is missing required signed accounting field: user_id".toList)
  if routingCallId ≠ [] ∧ routingCallId ≠ accountingRoutingCallId then
    throw (runtimeError "LeRouter accounting routing_call_id changed after selection".toList)
  let (usage, spendUsd) ← accountedSpend host attempt.entry response
  return {
    userId := accountingUserId
    routeId := (get? state "route_id").getD (.str "default".toList)
    routeName := routeName
    modelId := field attempt.entry "model_id"
    provider := field attempt.entry "provider"
    inferenceMode := (get? state "inference_mode").getD (.str "user_managed".toList)
    accountingToken := accountingToken
    success := response.isSome
    spendUsd := spendUsd
    routingCallId := accountingRoutingCallId
    usage := usage
    error := messageOf host error }

/-- `_log_usage`. -/
def logUsage (payload : Payload) : Except Exn Unit :=
  match host.usageLog payload with
  | .ok () => .ok ()
  | .error error => .error (failClosed
      ("LeRouter usage accounting failed after selected-model execution: ".toList ++ host.safeErrorMessage error.message))

/-! ## The request -/

/-- The provider of a model in Hermes. -/
def hermesProvider (entry : Json.Fields) : Text :=
  strip (host.env.str (orElse (field entry "hermes_provider") (.str (cleanText host.env (field entry "provider")))))

/-- `_activate_entry`. -/
def activateEntry (index : Nat) (entry : Json.Fields) : Except Exn Bool :=
  if cleanText host.env (field entry "provider") = [] ∨ hermesProvider host entry = [] ∨
      cleanText host.env (field entry "native_model_id") = [] then .ok false
  else if sameId (host.agent index).provider (.str (hermesProvider host entry)) &&
      sameId (host.agent index).model (.str (cleanText host.env (field entry "native_model_id"))) then .ok true
  else host.switchModel index

/-- `_apply_entry_to_request`, without the note that it writes into the messages. -/
def applyEntryToRequest (request entry : Json.Fields) : Json.Fields :=
  if cleanText host.env (field entry "native_model_id") = [] then request
  else set request "model" (.str (cleanText host.env (field entry "native_model_id")))

/-- The refusal of the reasoning controls in one place of a request. -/
def reasoningMismatch (container : Json.Fields) : Option Exn :=
  if ["reasoning", "reasoning_effort", "include_reasoning"].any fun name => isPresent (field container name) then
    some ⟨.capabilityMismatch, "Unsupported parameter: reasoning controls are not supported with this model profile".toList⟩
  else
    match field container "include" with
    | .arr items =>
      if items.any fun item => host.env.lower (strip (host.env.str item)) == "reasoning.encrypted_content".toList then
        some ⟨.capabilityMismatch, "Unsupported parameter: reasoning.encrypted_content is not supported with this model profile".toList⟩
      else none
    | _ => none

/-- `_apply_reasoning_capability`. -/
def applyReasoningCapability (request entry : Json.Fields) : Except Exn Json.Fields :=
  match field entry "supports_reasoning_effort" with
  | .bool false =>
    match (request :: (asDict (field request "extra_body")).toList).findSome? (reasoningMismatch host) with
    | some error => .error error
    | none => .ok request
  | _ => .ok request

/-- What was selected, and what there is in its place, as an error prints them. -/
def mismatch (what : String) (selected name actual : Text) : Exn :=
  runtimeError (what.toList ++ ": selected=".toList ++ host.env.repr (.str selected) ++ ", ".toList ++ name ++ "=".toList ++
    host.env.repr (.str actual))

/-- `_verify_selected_execution_identity`. -/
def verifySelectedExecutionIdentity (agent : Agent) (request entry : Json.Fields) : Except Exn Unit :=
  let nativeModelId := cleanText host.env (field entry "native_model_id")
  let requestModel := cleanText host.env (field request "model")
  let agentModel := cleanText host.env agent.model
  let agentProvider := cleanText host.env agent.provider
  if cleanText host.env (field entry "model_id") = [] ∨ nativeModelId = [] ∨ hermesProvider host entry = [] then
    .error (runtimeError "LeRouter selected model identity is incomplete before execution".toList)
  else if requestModel ≠ nativeModelId then
    .error (mismatch host "LeRouter execution request model does not match the router-selected model" nativeModelId "request".toList
      requestModel)
  else if agentModel ≠ [] ∧ agentModel ≠ nativeModelId then
    .error (mismatch host "Hermes active model does not match the router-selected model" nativeModelId "active".toList agentModel)
  else if agentProvider ≠ [] ∧ agentProvider ≠ hermesProvider host entry then
    .error (mismatch host "Hermes active provider does not match the router-selected provider" (hermesProvider host entry) "active".toList
      agentProvider)
  else .ok ()

/-- The request of a candidate, rebuilt for it and verified. -/
def prepareRequest (index : Nat) (entry : Json.Fields) : Except Exn Json.Fields := do
  let prepared ← host.rebuild index
  let request ← applyReasoningCapability host (applyEntryToRequest host prepared.request entry) entry
  let _ ← verifySelectedExecutionIdentity host prepared.agent request entry
  return request

/-- A response with the generation id that was captured while it came. -/
def withGenerationId (response : Response) : Except Exn Response :=
  match host.generationIds.getLast? with
  | none => .ok response
  | some generationId =>
    if response.sealed then .error (runtimeError "object has no attribute '_lerouter_openrouter_generation_id'".toList)
    else .ok { response with fields := set response.fields "_lerouter_openrouter_generation_id" (.str generationId) }

/-- `_execute_request`: the first candidate is executed by the callback, a later one by the agent, which may have no way to. -/
def executeRequest (answer : Except Exn Response) (index : Nat) : Option (Except Exn Response) :=
  if index = 0 then some (answer.bind (withGenerationId host)) else host.directCall index

/-! ## The response -/

/-- The names under which a provider may report a selected model. -/
def allowedReportedModels (entry : Json.Fields) : List Text :=
  let modelId := cleanText host.env (field entry "model_id")
  [host.env.lower modelId, host.env.lower (cleanText host.env (field entry "native_model_id")),
    host.env.lower (if '/' ∈ modelId then (modelId.dropWhile (· ≠ '/')).tail else modelId)]

/-- `_verify_provider_reported_model`. -/
def verifyProviderReportedModel (response : Response) (entry : Json.Fields) : Except Exn Unit :=
  let reportedModel := cleanText host.env (field response.fields "model")
  if reportedModel = [] then .ok ()
  else if host.env.lower reportedModel ∈ allowedReportedModels host entry then .ok ()
  else .error (mismatch host "Provider response model does not match the router-selected model"
    (cleanText host.env (field entry "native_model_id")) "reported".toList reportedModel)

/-- `_validate_direct_provider_response`. -/
def validateDirectProviderResponse (response : Response) (entry : Json.Fields) : Except Exn Unit :=
  if cleanText host.env (field entry "provider") = "openrouter".toList then .ok ()
  else if usageHasTokenCounts (primitiveUsageDict (field response.fields "usage")) then .ok ()
  else .error (runtimeError "malformed response: direct provider did not return authoritative token usage".toList)

/-- `_is_retryable_success_accounting_error`. -/
def isRetryableSuccessAccountingError (error : Exn) (entry : Json.Fields) : Bool :=
  cleanText host.env (field entry "provider") != "openrouter".toList &&
    hasMarker (host.env.lower error.message) "successful response cannot be accounted" &&
    hasMarker (host.env.lower error.message) "token count"

/-- The payload of a response that is what was selected and can be accounted. -/
def successPayload (state : Json.Fields) (routeName : Value) (attempt : Attempt) (routingCallId : Text) (response : Response) :
    Except Exn Payload := do
  let _ ← verifyProviderReportedModel host response attempt.entry
  let _ ← validateDirectProviderResponse host response attempt.entry
  usagePayload host state routeName attempt routingCallId (some response) []

/-- The exception that a response is refused with. -/
def refusalOf (error : Exn) (entry : Json.Fields) : Exn :=
  if error.kind = .failClosed ∧ isRetryableSuccessAccountingError host error entry then
    let message := host.safeErrorMessage error.message
    runtimeError ("malformed response: ".toList ++ if message = [] then "token usage is unavailable".toList else message)
  else error

/-! ## A candidate -/

/-- `RETRYABLE_EXECUTION_MARKERS`. -/
def retryableExecutionMarkers : List String :=
  ["provider/network", "network error", "connection reset", "timed out", "timeout", "rate limit", "429", "503", "unavailable model",
    "model unavailable", "authentication", "unauthorized", "forbidden", "credit balance", "insufficient credit", "account balance",
    "payment required", "quota exceeded", "402", "unsupported parameter", "unsupported tool", "tool_choice", "unsupported reasoning",
    "unsupported json", "activation failed", "empty response", "malformed response", "mid-tool-call stream drop", "stream drop",
    "incomplete stream", "truncated response", "invalid response", "invalid json data", "deserialize the json body"]

/-- `_is_retryable_execution_error`. -/
def isRetryableExecutionError (error : Exn) : Bool := retryableExecutionMarkers.any (hasMarker (host.env.lower error.message))

/-- What a candidate comes to; without an outcome the next one is tried. -/
structure Step where
  calls : List (Except Exn Response)
  logs : List Payload
  outcome : Option (Except Exn Response)

/-- A candidate that raises an exception without a log. -/
def Step.raise (calls : List (Except Exn Response)) (error : Exn) : Step := ⟨calls, [], some (.error error)⟩

/-- A failure is logged; then its exception is raised, or the next candidate is tried. -/
def logFailure (state : Json.Fields) (routeName : Value) (attempt : Attempt) (routingCallId : Text)
    (calls : List (Except Exn Response)) (error : Exn) (goesOn : Bool) : Step :=
  match usagePayload host state routeName attempt routingCallId none error.message with
  | .error refusal => .raise calls refusal
  | .ok payload =>
    match logUsage host payload with
    | .error refusal => ⟨calls, [payload], some (.error refusal)⟩
    | .ok () => ⟨calls, [payload], if goesOn then none else some (.error error)⟩

/-- A failure of the call or of the response to it: one that has failed closed is raised, any other is logged. -/
def executionFailure (state : Json.Fields) (routeName : Value) (attempt : Attempt) (routingCallId : Text)
    (calls : List (Except Exn Response)) (error : Exn) (hasNext : Bool) : Step :=
  if error.kind = .failClosed then .raise calls error
  else logFailure host state routeName attempt routingCallId calls error (hasNext && isRetryableExecutionError host error)

/-- The response of a candidate. -/
def settleResponse (state : Json.Fields) (routeName : Value) (attempt : Attempt) (routingCallId : Text) (response : Response)
    (hasNext : Bool) : Step :=
  match successPayload host state routeName attempt routingCallId response with
  | .error error => executionFailure host state routeName attempt routingCallId [.ok response] (refusalOf host error attempt.entry) hasNext
  | .ok payload =>
    match logUsage host payload with
    | .error refusal => ⟨[.ok response], [payload], some (.error refusal)⟩
    | .ok () => ⟨[.ok response], [payload], some (.ok response)⟩

/-- The execution of a candidate whose request is prepared. -/
def executeCandidate (answer : Except Exn Response) (state : Json.Fields) (routeName : Value) (index : Nat) (attempt : Attempt)
    (routingCallId : Text) (hasNext : Bool) : Step :=
  match executeRequest host answer index with
  | none => executionFailure host state routeName attempt routingCallId []
      (runtimeError "Hermes direct execution API is unavailable for the LeRouter-selected model".toList) hasNext
  | some (.error error) => executionFailure host state routeName attempt routingCallId [.error error] error hasNext
  | some (.ok response) => settleResponse host state routeName attempt routingCallId response hasNext

/-- The body of the loop over the candidates. -/
def runCandidate (answer : Except Exn Response) (state : Json.Fields) (routeName : Value) (index : Nat) (attempt : Attempt)
    (hasNext : Bool) : Step :=
  match requireAccountingClaim host.env attempt.selection with
  | .error error => .raise [] error
  | .ok (routingCallId, _) =>
    match activateEntry host index attempt.entry with
    | .error error => .raise [] error
    | .ok false =>
      let error := runtimeError ("Hermes could not activate selected model ".toList ++ host.env.str (field attempt.entry "model_id"))
      logFailure host state routeName attempt routingCallId [] error (hasNext && isRetryableExecutionError host error)
    | .ok true =>
      match prepareRequest host index attempt.entry with
      | .ok _ => executeCandidate host answer state routeName index attempt routingCallId hasNext
      | .error error =>
        match error.kind with
        | .capabilityMismatch => logFailure host state routeName attempt routingCallId [] error hasNext
        | .failClosed => .raise [] error
        | .other => .raise [] (failClosed
            ("LeRouter failed to prepare the selected-model request: ".toList ++ host.safeErrorMessage error.message))

/-- The loop over the candidates. -/
def runCandidates (answer : Except Exn Response) (state : Json.Fields) (routeName : Value) : Nat → List Attempt → Run
  | _, [] => .raise (runtimeError "LeRouter exhausted every signed ranked execution candidate".toList)
  | index, attempt :: attempts =>
    let step := runCandidate host answer state routeName index attempt !attempts.isEmpty
    match step.outcome with
    | some outcome => ⟨step.calls, step.logs, outcome⟩
    | none =>
      let rest := runCandidates answer state routeName (index + 1) attempts
      ⟨step.calls ++ rest.calls, step.logs ++ rest.logs, rest.outcome⟩

/-! ## A call -/

/-- A selection: the name of its route, and the candidates that are executed. -/
structure Routed where
  routeName : Value
  attempts : List Attempt

/-- The routing of a call. -/
def routeCandidates (state : Json.Fields) : Except Exn Routed := do
  if !host.hasAgent then throw (runtimeError "LeRouter could not locate the active Hermes agent".toList)
  let _ ← host.baseRequest
  let selection ← host.select
  let _ ← requireAccountingClaim host.env selection
  let attempts ← candidateAttempts host.env state selection
  if attempts.isEmpty then throw (runtimeError "LeRouter selected no executable Hermes candidate".toList)
  return ⟨orElse (field selection "route_name") (orElse (field selection "selected_route") (field selection "route")), attempts⟩

/-- An exception as it is raised from where the middleware fails closed. -/
def closedBy (what : String) (error : Exn) : Exn :=
  if error.kind = .failClosed then error else failClosed (what.toList ++ host.safeErrorMessage error.message)

/-- The state, and whether it enables the routing. -/
def loadedState : Except Exn (Json.Fields × Bool) := do
  let state ← host.loadState
  match field state "enabled" with
  | .bool enabled => return (state, enabled)
  | _ => throw (runtimeError "LeRouter state must declare enabled as true or false".toList)

/-- `LEROUTER_DISABLE` is set. -/
def isDisabled : Bool := ["1", "true", "yes", "on"].any fun on => host.env.lower (strip host.lerouterDisable) == on.toList

/-- `on_llm_execution_middleware`. -/
def onLlmExecutionMiddleware : Run :=
  match host.nextCall with
  | none => .raise (failClosed "LeRouter requires the Hermes llm_execution next_call contract".toList)
  | some answer =>
    if isDisabled host then ⟨[answer], [], answer⟩
    else
      match loadedState host with
      | .error error => .raise (closedBy host "LeRouter state validation failed before provider execution: " error)
      | .ok (_, false) => ⟨[answer], [], answer⟩
      | .ok (state, true) =>
        match routeCandidates host state with
        | .error error => .raise (closedBy host "LeRouter routing failed before selected-model execution: " error)
        | .ok routed => runCandidates host answer state routed.routeName 0 routed.attempts

end Hermes

end PromptRail
