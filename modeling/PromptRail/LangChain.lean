import PromptRail.Gateway.Call

/-!
# The LangChain middleware (`langchain.py`)

`LangChainUsageExtractor` reads what a provider reports of a call: the tokens, the provider by its own name or by that of a route, and
the cost. The float of a literal is a parameter, which has no value where the float is not finite.
-/

namespace PromptRail

open PyText (Text casefold)
open Json (Value Fields get?)

namespace LangChain

open Gateway (GatewayError PreparedCall)

/-- The usage metadata of a message, which is validated on its way in. -/
structure UsageMetadata where
  inputTokens : Option Value
  outputTokens : Option Value
  inputTokenDetails : Fields := []

/-- An `AIMessage`, as far as it is read. -/
structure AIMessage where
  responseMetadata : Fields := []
  usageMetadata : Option UsageMetadata := none

/-- A `ModelResponse`: its messages, those that are no `AIMessage` without their content. -/
structure ModelResponse where
  result : List (Option AIMessage)

/-- `_metadata_mappings`. -/
def metadataMappings (metadata : Fields) : List Fields :=
  metadata :: ["headers", "response_headers", "http_headers"].filterMap fun key =>
    match get? metadata key with
    | some (.obj nested) => some nested
    | _ => none

/-- The text under a key of a mapping with its keys case-folded: of several such keys the last counts. -/
def normalizedText (env : Env) (mapping : Fields) (key : String) : Option Text :=
  match mapping.reverse.find? fun p => casefold p.1.toList == key.toList with
  | some (_, .null) => none
  | some (_, value) => some (env.str value)
  | none => none

/-- `route_by_id`: of several routes with one identifier, the last. -/
def routeById (routes : List ProviderRoute) (id : Text) : Option ProviderRoute :=
  routes.reverse.find? fun route => route.routeId.toList == id

/-- The routes of the plan that the metadata names. -/
def routeMatches (env : Env) (routes : List ProviderRoute) (metadata : Fields) : List ProviderRoute :=
  (metadataMappings metadata).flatMap fun mapping =>
    ["x-promptrail-route-id", "route_id"].filterMap fun key => (normalizedText env mapping key).bind (routeById routes)

/-- The providers of the plan that the metadata names. -/
def providerMatches (env : Env) (routes : List ProviderRoute) (metadata : Fields) : List String :=
  (metadataMappings metadata).flatMap fun mapping =>
    ["x-promptrail-provider", "provider", "provider_name", "model_provider"].filterMap fun key =>
      (normalizedText env mapping key).bind fun text =>
        (routes.find? fun route => route.provider.toList == text).map (·.provider)

/-- `_provider`. -/
def providerOf (env : Env) (call : PreparedCall) (metadata : Fields) : Except GatewayError String :=
  let routes := routeMatches env call.provider.routes metadata
  let providers := providerMatches env call.provider.routes metadata
  if 1 < (routes.map (·.routeId)).dedup.length ∨ 1 < providers.dedup.length then
    .error (.integration "model response contains conflicting provider routing metadata")
  else
    match routes, providers with
    | route :: _, providers =>
      if providers ≠ [] ∧ route.provider ∉ providers then
        .error (.integration "provider and route response metadata disagree")
      else .ok route.provider
    | [], provider :: _ => .ok provider
    | [], [] =>
      match call.provider.routes with
      | [route] => .ok route.provider
      | _ => .error (.integration "provider-routed response omitted x-promptrail-route-id/provider metadata")

/-- `_usage_mapping`. -/
def usageMapping (metadata : Fields) : Option Fields :=
  ["token_usage", "usage", "usage_metadata"].findSome? fun key =>
    match get? metadata key with
    | some (.obj usage) => some usage
    | _ => none

/-- The costs that the metadata reports, with their keys; a cost of `None` is none. -/
def reportedCosts (metadata : Fields) : List (String × Value) :=
  (metadataMappings metadata ++ (usageMapping metadata).toList).flatMap fun mapping =>
    ["cost_usd", "total_cost_usd"].filterMap fun key =>
      match get? mapping key with
      | none | some .null => none
      | some value => some (key, value)

/-- The value of a number in JSON. -/
def numberOf (float : String → Option ℚ) : Value → Option (Option ℚ)
  | .int n => some (some n)
  | .float literal => some (float literal)
  | _ => none

/-- `_cost`. -/
def costOf (float : String → Option ℚ) (metadata : Fields) : Except GatewayError (Option ℚ) :=
  match reportedCosts metadata with
  | [] => .ok none
  | (key, value) :: _ =>
    match numberOf float value with
    | none => .error (.integration (key ++ " must be numeric"))
    | some none => .error (.integration (key ++ " must be finite and non-negative"))
    | some (some cost) =>
      if cost < 0 then .error (.integration (key ++ " must be finite and non-negative")) else .ok (some cost)

/-- `_count`. -/
def count (value : Option Value) (field : String) : Except GatewayError Nat :=
  match value with
  | some (.int (.ofNat n)) => .ok n
  | _ => .error (.integration (field ++ " must be a non-negative integer"))

/-- The first of some keys that a mapping has, with its value. -/
def firstKey (mapping : Fields) (keys : List String) : Option (String × Value) :=
  keys.findSome? fun key => (get? mapping key).map fun value => (key, value)

/-- `_first_count`. -/
def firstCount (mapping : Fields) (keys : List String) (field : String) : Except GatewayError Nat :=
  match firstKey mapping keys with
  | some (key, value) => count (some value) key
  | none => .error (.integration ("model response usage omitted " ++ field))

/-- `_optional_count`. -/
def optionalCount (primary secondary : Fields) (keys : List String) : Except GatewayError Nat :=
  match (firstKey primary keys).or (firstKey secondary keys) with
  | some (key, value) => count (some value) key
  | none => .ok 0

/-- The tokens of a call: input, output, read from the cache and written to it. -/
structure TokenCounts where
  input : Nat
  output : Nat
  cacheRead : Nat
  cacheWrite : Nat

/-- The tokens that a message reports. -/
def tokenCounts (message : AIMessage) : Except GatewayError TokenCounts :=
  match message.usageMetadata with
  | some usage => do
    let input ← count usage.inputTokens "input_tokens"
    let output ← count usage.outputTokens "output_tokens"
    let cacheRead ← count (some ((get? usage.inputTokenDetails "cache_read").getD (.int 0))) "input_token_details.cache_read"
    let cacheWrite ← count (some ((get? usage.inputTokenDetails "cache_creation").getD (.int 0)))
      "input_token_details.cache_creation"
    return { input, output, cacheRead, cacheWrite }
  | none =>
    match usageMapping message.responseMetadata with
    | none =>
      .error (.integration "model response omitted token usage; configure the provider client to return it")
    | some raw => do
      let input ← firstCount raw ["input_tokens", "prompt_tokens"] "input tokens"
      let output ← firstCount raw ["output_tokens", "completion_tokens"] "output tokens"
      let promptDetails :=
        match get? raw "prompt_tokens_details" with
        | some (.obj details) => details
        | _ => []
      let cacheRead ← optionalCount raw promptDetails ["cache_read_tokens", "cache_read_input_tokens", "cached_tokens"]
      let cacheWrite ← optionalCount raw [] ["cache_write_tokens", "cache_creation_input_tokens"]
      return { input, output, cacheRead, cacheWrite }

/-- `LangChainUsageExtractor.__call__`. -/
def extractUsage (env : Env) (float : String → Option ℚ) (call : PreparedCall) (response : ModelResponse)
    (executionLatencyMs : Nat) : Except GatewayError ModelUsage :=
  match response.result.reverse.findSome? id with
  | none => .error (.integration "model response did not contain an AIMessage")
  | some message => do
    let tokens ← tokenCounts message
    let provider ← providerOf env call message.responseMetadata
    let costUsd ← costOf float message.responseMetadata
    return {
      inputTokens := tokens.input
      outputTokens := tokens.output
      latencyMs := executionLatencyMs
      provider
      modelId := call.model.candidate.modelId
      cacheReadTokens := tokens.cacheRead
      cacheWriteTokens := tokens.cacheWrite
      costUsd := costUsd.map some }

end LangChain

end PromptRail
