import PromptRail.CandidatePool
import PromptRail.Hermes.Middleware
import PromptRail.Library.JsNumber

/-!
# The requests of the middleware (`plugin.py`)

What `Host.rebuild` stands for: the request of a call is bounded by a cap of the state, by its own limits and by those of the agent, it is
rebuilt by the agent for each candidate, and what the agent has written is bounded again. A candidate that fails may leave a request to
repair, from which the controls are taken that the error complains of.
-/

namespace PromptRail

open PyText (Text strip splitlines)
open Json (Value get? set truthy)
open Provider (field orElse isPresent isText asDict)

namespace Hermes

namespace Requests

variable (host : Host)

/-! ## Limits of the output -/

/-- `OUTPUT_TOKEN_KEYS`. -/
def outputTokenKeys : List String := ["max_tokens", "max_completion_tokens", "max_output_tokens"]

/-- `dict.pop`, of some keys. -/
def pop (fields : Json.Fields) (keys : List String) : Json.Fields := fields.filter fun p => !keys.contains p.1

/-- `float(value)`, of a value that is not a truth value: a number that is finite, or the text of the exception if it is not the usual one. -/
def float? : Value → Except (Option String) ℚ
  | .int n =>
    match Js.Double.round n with
    | .finite number => .ok number
    | .infinity _ | .nan => .error (some "int too large to convert to float")
  | .float literal => (host.literal literal).elim (.error none) .ok
  | .str s => (host.float (String.ofList s)).elim (.error none) .ok
  | .null | .bool _ | .arr _ | .obj _ => .error none

/-- `_positive_output_token_limit`. -/
def positiveOutputTokenLimit (value : Value) (label : String) : Except Exn Int :=
  let refused := label.toList ++ " must be a positive integer".toList
  match float? host value with
  | .error message => .error (runtimeError (message.elim refused String.toList))
  | .ok number => if number ≤ 0 ∨ number.den ≠ 1 then .error (runtimeError refused) else .ok number.num

/-- `_benchmark_output_token_cap`. -/
def benchmarkOutputTokenCap (state : Json.Fields) : Except Exn (Option Int) :=
  match field state "benchmark" with
  | .obj benchmark =>
    if isPresent (field benchmark "max_output_tokens_per_call") then
      (positiveOutputTokenLimit host (field benchmark "max_output_tokens_per_call") "LeRouter benchmark.max_output_tokens_per_call").map some
    else .ok none
  | _ => .ok none

/-- The attributes of an agent that limit its output, where it has them. -/
structure AgentLimits where
  maxTokens : Option Value
  ephemeralMaxOutputTokens : Option Value

/-- `getattr(agent, attribute, None)`. -/
def attributeValue (value : Option Value) : Value := value.getD .null

/-- The limits among some values, each under its label. -/
def limitsOf (values : List (String × Value)) : Except Exn (List Int) :=
  (values.filter fun p => isPresent p.2).mapM fun p => positiveOutputTokenLimit host p.2 p.1

/-- `_agent_output_token_limits`. -/
def agentOutputTokenLimits (agent : AgentLimits) : Except Exn (List Int) :=
  limitsOf host [("Hermes agent._ephemeral_max_output_tokens", attributeValue agent.ephemeralMaxOutputTokens),
    ("Hermes agent.max_tokens", attributeValue agent.maxTokens)]

/-- `_request_output_token_limits`. -/
def requestOutputTokenLimits (request : Json.Fields) : Except Exn (List Int) :=
  limitsOf host (outputTokenKeys.map fun key => ("Hermes request." ++ key, field request key))

/-- `min([limit, *limits])`. -/
def lowest (limit : Int) (limits : List Int) : Int := limits.foldl min limit

/-- `_clamp_agent_output_tokens`. -/
def clampAgentOutputTokens (agent : AgentLimits) (outputLimit : Option Int) : Except Exn AgentLimits :=
  match outputLimit with
  | none => .ok agent
  | some outputLimit => do
    let maxTokens ← agent.maxTokens.mapM fun current =>
      (limitsOf host [("Hermes agent.max_tokens", current)]).map fun limits => Value.int (lowest outputLimit limits)
    let ephemeral ← agent.ephemeralMaxOutputTokens.mapM fun current =>
      if isPresent current then
        (limitsOf host [("Hermes agent._ephemeral_max_output_tokens", current)]).map fun limits => Value.int (lowest outputLimit limits)
      else .ok current
    return ⟨maxTokens, ephemeral⟩

/-- A request with one limit of its output. -/
def withLimit (request : Json.Fields) (key : String) (limit : Int) : Json.Fields := set (pop request outputTokenKeys) key (.int limit)

/-- `_prepare_benchmark_output_limit`: the request, its limit if there is a cap, and the agent. -/
def prepareBenchmarkOutputLimit (state request : Json.Fields) (agent : AgentLimits) :
    Except Exn (Json.Fields × Option Int × AgentLimits) := do
  match ← benchmarkOutputTokenCap host state with
  | none => return (request, none, agent)
  | some cap =>
    let requestLimits ← requestOutputTokenLimits host request
    let agentLimits ← agentOutputTokenLimits host agent
    let outputLimit := lowest cap (requestLimits ++ agentLimits)
    let agent ← clampAgentOutputTokens host agent (some outputLimit)
    return (withLimit request "max_tokens" outputLimit, some outputLimit, agent)

/-! ## The agent of a candidate -/

/-- What an agent does for a candidate: its attributes, the name it formats a limit under, and how it builds and checks a request. -/
structure Builder where
  limits : AgentLimits
  apiMode : Value
  apiMessages : Option (List Value)
  maxTokensParam : Option (Int → Except Exn Value) := none
  buildApiKwargs : AgentLimits → List Value → Except Exn Value
  sanitizeNonAscii : Option (Json.Fields → Json.Fields) := none
  preflightKwargs : Json.Fields → Except Exn Json.Fields

/-- `key in fields`. -/
def hasKey (fields : Json.Fields) (key : String) : Bool := (get? fields key).isSome

/-- `_provider_output_token_key`. -/
def providerOutputTokenKey (builder : Builder) (outputLimit : Int) (request : Json.Fields) : Except Exn String :=
  if isText "codex_responses" builder.apiMode then .ok "max_output_tokens"
  else
    match builder.maxTokensParam with
    | some formatter => do
      match ← formatter outputLimit with
      | .obj formatted =>
        match outputTokenKeys.filter (hasKey formatted) with
        | [key] => return key
        | _ => throw (runtimeError "Hermes _max_tokens_param must return exactly one output-token field".toList)
      | _ => throw (runtimeError "Hermes _max_tokens_param must return a request object".toList)
    | none =>
      match outputTokenKeys.filter fun key => isPresent (field request key) with
      | [key] => .ok key
      | _ => .ok "max_tokens"

/-- `_enforce_rebuilt_output_limit`. -/
def enforceRebuiltOutputLimit (builder : Builder) (request : Json.Fields) (outputLimit : Option Int) : Except Exn Json.Fields :=
  match outputLimit with
  | none => .ok request
  | some outputLimit => do
    let rebuiltLimits ← requestOutputTokenLimits host request
    let providerLimit := lowest outputLimit rebuiltLimits
    let key ← providerOutputTokenKey builder providerLimit request
    return withLimit request key providerLimit

/-- The keys that a rebuilt request takes over. -/
def carriedKeys : List String := ["stream", "tools", "tool_choice", "response_format", "temperature"]

/-- The loop over the keys that are taken over where they are missing. -/
def carry (base rebuilt : Json.Fields) : Json.Fields :=
  carriedKeys.foldl (fun rebuilt key =>
    if isPresent (field base key) && !isPresent (field rebuilt key) then set rebuilt key (field base key) else rebuilt) rebuilt

/-- What is bounded and checked of a request for the responses of Codex. -/
def preflight (builder : Builder) (base rebuilt : Json.Fields) (agent : AgentLimits) : Except Exn Json.Fields := do
  let baseLimits ← requestOutputTokenLimits host base
  let rebuiltLimits ← requestOutputTokenLimits host rebuilt
  let agentLimits ← agentOutputTokenLimits host agent
  let bounded ← match baseLimits ++ rebuiltLimits ++ agentLimits with
    | [] => .ok rebuilt
    | limit :: limits => enforceRebuiltOutputLimit host builder rebuilt (some (lowest limit limits))
  builder.preflightKwargs bounded

/-- The name of the class of a value. -/
def className : Value → String
  | .null => "NoneType"
  | .bool _ => "bool"
  | .int _ => "int"
  | .float _ => "float"
  | .str _ => "str"
  | .arr _ => "list"
  | .obj _ => "dict"

/-- What `_rebuild_request_for_active_agent` tries. -/
def rebuilt (builder : Builder) (agent : AgentLimits) (messages : List Value) (base : Json.Fields) : Except Exn Json.Fields := do
  match ← builder.buildApiKwargs agent messages with
  | .obj built =>
    let carried := (builder.sanitizeNonAscii.getD id) (carry base built)
    if isText "codex_responses" builder.apiMode then return carry base (← preflight host builder base carried agent)
    else return carry base carried
  | value => throw (runtimeError ("_build_api_kwargs returned ".toList ++ (className value).toList ++ ", expected dict".toList))

/-- `_rebuild_request_for_active_agent`. -/
def rebuildRequestForActiveAgent (builder : Builder) (agent : AgentLimits) (base : Json.Fields) : Except Exn Json.Fields :=
  match builder.apiMessages with
  | none => .error (runtimeError
      "Hermes API messages are unavailable; selected-model request rebuild cannot continue".toList)
  | some messages =>
    match rebuilt host builder agent messages base with
    | .ok request => .ok request
    | .error error => .error (runtimeError
        ("Hermes could not rebuild the request for LeRouter selected model: ".toList ++ error.message))

/-! ## Identity -/

/-- The last line that opens with a text, replaced. -/
def replaceLast (opening : String) (line : Text) : List Text → List Text
  | [] => []
  | first :: lines =>
    let opens (l : Text) : Bool := opening.toList.isPrefixOf l
    if opens first && !lines.any opens then line :: lines else first :: replaceLast opening line lines

/-- The system prompt with the name of a model and a provider. -/
def patchIdentity (content model provider : Text) : Text :=
  ['\n'].intercalate (replaceLast "Provider: " ("Provider: ".toList ++ provider)
    (replaceLast "Model: " ("Model: ".toList ++ model) (splitlines content)))

/-- `_patch_request_identity`, of a list. -/
def patchRequestIdentity (messages : List Value) (model provider : Text) : List Value :=
  match messages with
  | .obj first :: rest =>
    match field first "role", field first "content" with
    | .str role, .str content =>
      if role = "system".toList then .obj (set first "content" (.str (patchIdentity content model provider))) :: rest
      else messages
    | _, _ => messages
  | _ => messages

/-- A value with the messages in it patched. -/
def patchMessages (patch : List Value → List Value) (request : Json.Fields) : Json.Fields :=
  match field request "messages" with
  | .arr messages => set request "messages" (.arr (patch messages))
  | _ => request

/-- The first message of a user opens with a note, or the note is a message of its own. -/
def withNote (note : Text) : List Value → List Value
  | [] => [.obj [("role", .str "user".toList), ("content", .str note)]]
  | message :: messages =>
    match message with
    | .obj fields =>
      match isText "user" (field fields "role"), field fields "content" with
      | true, .str content => .obj (set fields "content" (.str (note ++ "\n\n".toList ++ content))) :: messages
      | _, _ => message :: withNote note messages
    | _ => message :: withNote note messages

/-- The note of a candidate. -/
def routingNote (provider nativeModelId routeName : Text) : Text :=
  "[LeRouter middleware note: routing is active for this request. The selected provider is ".toList ++ provider ++
    "; the selected model is ".toList ++ nativeModelId ++ ".".toList ++
    (if routeName = [] then [] else " The selected route is ".toList ++ routeName ++ ".".toList) ++ "]".toList

/-- `_apply_entry_to_request`, with its note. -/
def applyEntry (request entry : Json.Fields) (routeName : Text) : Json.Fields :=
  let provider := cleanText host.env (field entry "provider")
  let nativeModelId := cleanText host.env (field entry "native_model_id")
  if nativeModelId = [] then request
  else if provider = [] then set request "model" (.str nativeModelId)
  else patchMessages (fun messages =>
      withNote (routingNote provider nativeModelId routeName) (patchRequestIdentity messages nativeModelId provider))
    (set request "model" (.str nativeModelId))

/-- What `_activate_entry` writes into the request. -/
def activateRequest (request entry : Json.Fields) : Json.Fields :=
  let provider := cleanText host.env (field entry "provider")
  let nativeModelId := cleanText host.env (field entry "native_model_id")
  patchMessages (fun messages => patchRequestIdentity messages nativeModelId provider) (set request "model" (.str nativeModelId))

/-! ## Cache keys -/

/-- `OPENAI_PROMPT_CACHE_KEY_MAX_CHARS`. -/
def promptCacheKeyMaxChars : Nat := 64

variable (sha256 : List UInt8 → Vector UInt8 32)

/-- `_bounded_openai_prompt_cache_key`. -/
def boundedOpenaiPromptCacheKey : Value → Value
  | .str key =>
    if key.length ≤ promptCacheKeyMaxChars then .str key
    else
      let opening := "lerouter-".toList
      .str (opening ++ (CandidatePool.hexdigest (sha256 (PyText.encodeUtf8 key))).take (promptCacheKeyMaxChars - opening.length))
  | value => value

/-- The cache key in a dictionary, bounded. -/
def boundKey (fields : Json.Fields) : Json.Fields :=
  match get? fields "prompt_cache_key" with
  | some key => set fields "prompt_cache_key" (boundedOpenaiPromptCacheKey sha256 key)
  | none => fields

/-- `_bound_openai_prompt_cache_keys`. -/
def boundOpenaiPromptCacheKeys (request entry : Json.Fields) : Json.Fields :=
  if cleanText host.env (field entry "provider") ≠ "openai".toList then request
  else
    let patched := boundKey sha256 request
    match field patched "extra_body" with
    | .obj extraBody =>
      if hasKey extraBody "prompt_cache_key" then set patched "extra_body" (.obj (boundKey sha256 extraBody)) else patched
    | _ => patched

/-! ## Repairs -/

/-- A repair that is reported: the keys that are there are taken away. -/
def removeKeys (report : String) (keys : List String) (fields : Json.Fields) : Json.Fields × List String :=
  (pop fields keys, (keys.filter (hasKey fields)).map (report ++ ·))

def reasoningKeys : List String := ["reasoning", "reasoning_effort", "include_reasoning"]

/-- The keys beside those that are taken away for the text of an error. -/
def complainedKeys (text : Text) : List String :=
  (if hasMarker text "tool" && ["unsupported", "not support", "tool_choice", "invalid json", "deserialize"].any (hasMarker text) then
    ["tools", "tool_choice"] else []) ++
  (if hasMarker text "json" && ["unsupported", "not support"].any (hasMarker text) then ["response_format"] else []) ++
  (if hasMarker text "max_tokens" && ["unsupported", "not support"].any (hasMarker text) then outputTokenKeys else [])

/-- The repair of the extra body. -/
def repairExtraBody (request : Json.Fields) : Json.Fields × List String :=
  match field request "extra_body" with
  | .obj extra =>
    let removed := removeKeys "remove_extra_body_" reasoningKeys extra
    (set request "extra_body" (.obj removed.1), removed.2)
  | _ => (request, [])

/-- The repair of the reasoning controls. -/
def repairReasoning (request : Json.Fields) (text : Text) : Json.Fields × List String :=
  if hasMarker text "reasoning" then
    let removed := removeKeys "remove_" reasoningKeys request
    let repaired := repairExtraBody removed.1
    (repaired.1, removed.2 ++ repaired.2)
  else (request, [])

/-- `_repair_protocol_request`, of the text of an error in lower case. -/
def repairProtocolRequest (request : Json.Fields) (text : Text) : Json.Fields × List String :=
  let reasoned := repairReasoning request text
  let removed := removeKeys "remove_" (complainedKeys text) reasoned.1
  (removed.1, reasoned.2 ++ removed.2)

/-! ## A candidate -/

/-- The request of a candidate, from what is left of the request of the call to what is executed. -/
def candidateRequest (outputLimit : Option Int) (retryRequest entry : Json.Fields) (builder : Builder) (routeName : Text) :
    Except Exn Json.Fields := do
  let activated := activateRequest host retryRequest entry
  let agent ← clampAgentOutputTokens host builder.limits outputLimit
  let request ← rebuildRequestForActiveAgent host builder agent activated
  let bounded ← enforceRebuiltOutputLimit host builder request outputLimit
  let applied ← applyReasoningCapability host (applyEntry host bounded entry routeName) entry
  return boundOpenaiPromptCacheKeys host sha256 applied entry

end Requests

end Hermes

end PromptRail
