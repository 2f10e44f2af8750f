import PromptRail.Library.EventStream
import PromptRail.Library.JsonCompact
import PromptRail.Provider

/-!
# Chat completions (`lerouter_modal_api.py`)

A completion is answered in one piece, or as a stream of chunks that begins while the route is still worked out: a chunk with the role,
heartbeats without content, then what has come of the route. What a client has of either answer is a `Completion`.
-/

namespace PromptRail

namespace Completions

open PyText (Text)
open Json (Value Fields WellFormed get? truthy)
open Provider (field orElse asDict isPresent openaiFinishReason)

/-- What `lerouter_route` returns: a dictionary of JSON whose `response` is a dictionary, if there is one. -/
structure RouteResult where
  fields : Fields
  wellFormed : WellFormed (.obj fields)
  response : Fields
  answered : orElse (field fields "response") (.obj []) = .obj response

/-- What it raises: an `HTTPException` with its detail, or another exception of a class. -/
inductive Failure where
  | http (statusCode : Int) (detail : Value) (wellFormed : WellFormed detail)
  | other (className : Text)

/-- When a chunk is made: `int(time.time())`, and the milliseconds since the stream has begun. -/
structure Moment where
  created : Int
  elapsedMs : Value
  wellFormed : WellFormed elapsedMs

/-- A request for a completion, with the moments at which the chunks of its stream are made. -/
structure Call where
  completionId : Text
  requestModel : Text
  started : Int
  beats : List Moment
  settled : Moment
  done : Int

variable (env : Provider.Env)

/-! ## One piece -/

/-- `openai_finish_reason(...) or "stop"`. -/
def finishReason (response : Fields) : Text :=
  match openaiFinishReason env (env.str (orElse (field response "provider") (.str []))) (field response "finish_reason") with
  | some (c :: reason) => c :: reason
  | _ => "stop".toList

/-- The content of a response. -/
def contentOf (response : Fields) : Value := (get? response "content").getD (.str [])

/-- The calls of tools of a response. -/
def toolCallsOf (response : Fields) : Value := orElse (field response "tool_calls") (.arr [])

/-- The fields that both answers tell about the route. -/
def routeFields (result : RouteResult) : Fields :=
  [("selected_model", field result.response "model"), ("provider", field result.response "provider"),
    ("estimated_spend_usd", field result.fields "estimated_spend_usd"),
    ("provider_attempts", (get? result.fields "provider_attempts").getD (.arr []))]

/-- `latency_ms`, where it is known. -/
def latencyField (result : RouteResult) : Fields :=
  if isPresent (field result.fields "latency_ms") then [("latency_ms", field result.fields "latency_ms")] else []

/-- `openai_compatible_response`. -/
def openaiCompatibleResponse (call : Call) (result : RouteResult) : Fields :=
  [("id", .str call.completionId), ("object", .str "chat.completion".toList), ("created", .int call.done), ("model", .str call.requestModel),
    ("choices", .arr [.obj [("index", .int 0),
      ("message", .obj ([("role", .str "assistant".toList), ("content", contentOf result.response)] ++
        if truthy (toolCallsOf result.response) then [("tool_calls", toolCallsOf result.response)] else [])),
      ("finish_reason", .str (finishReason env result.response))]]),
    ("usage", orElse (field result.response "usage") (.obj [])),
    ("lerouter", .obj ([("route_id", field result.fields "route_id"), ("route_name", field result.fields "route_name"),
      ("routing_strategy", (get? result.fields "routing_strategy").getD (.str "route_pool".toList))] ++ routeFields result ++
      latencyField result))]

/-! ## A stream -/

/-- `openai_stream_chunk`. -/
def openaiStreamChunk (call : Call) (created : Int) (delta : Fields) (finish : Value) (lerouter : Fields) : Fields :=
  [("id", .str call.completionId), ("object", .str "chat.completion.chunk".toList), ("created", .int created),
    ("model", .str call.requestModel),
    ("choices", .arr [.obj [("index", .int 0), ("delta", .obj delta), ("finish_reason", finish)]]), ("lerouter", .obj lerouter)]

/-- `compact_http_error_detail`. -/
def compactHttpErrorDetail : Value → Text
  | .obj detail =>
    let code := field detail "error"
    match field detail "attempts" with
    | .arr (attempt :: attempts) =>
      let last := (asDict (attempts.getLastD attempt)).getD []
      env.str (orElse (field last "status") (.str "unknown_status".toList)) ++ " from ".toList ++
        env.str (orElse (field last "provider") (.str "unknown_provider".toList)) ++ '/' ::
        env.str (orElse (field last "model_id") (.str "unknown_model".toList)) ++
        if truthy code then " (".toList ++ env.str code ++ [')'] else []
    | _ => (env.str (orElse code (.obj detail))).take 240
  | detail => (env.str detail).take 240

/-- The text that a stream says about a failure. -/
def failureText : Failure → Text
  | .http statusCode detail _ =>
    "LeRouter could not complete this request. Provider routing failed with HTTP ".toList ++ (toString statusCode).toList ++
      ": ".toList ++ compactHttpErrorDetail env detail ++ ['.']
  | .other _ => "LeRouter could not complete this request because an internal routing error occurred.".toList

/-- What the chunk of a failure tells about the route. -/
def failureFields (elapsedMs : Value) : Failure → Fields
  | .http statusCode detail _ =>
    [("status", .str "error".toList), ("status_code", .int statusCode), ("detail", detail), ("elapsed_ms", elapsedMs)]
  | .other className => [("status", .str "error".toList), ("detail", .str className), ("elapsed_ms", elapsedMs)]

/-- `status_steps[min(status_index, len(status_steps) - 1)]`. -/
def statusStep : Nat → Text
  | 0 => "request_received".toList
  | 1 => "archrouter_classification".toList
  | 2 => "candidate_pool_lookup".toList
  | 3 => "biencoder_ranking".toList
  | 4 => "budget_aware_scoring".toList
  | _ => "provider_request".toList

/-- The chunks that are sent before the route is known. -/
def openingChunks (call : Call) : List Fields :=
  openaiStreamChunk call call.started [("role", .str "assistant".toList)] .null
      [("status", .str "request_received".toList), ("elapsed_ms", .int 0)] ::
    call.beats.zipIdx.map fun beat =>
      openaiStreamChunk call beat.1.created [] .null [("status", .str (statusStep beat.2)), ("elapsed_ms", beat.1.elapsedMs)]

/-- The chunk that ends a completion. -/
def doneChunk (call : Call) (reason : Text) : Fields :=
  openaiStreamChunk call call.done [] (.str reason) [("status", .str "done".toList)]

/-- `final_delta`. -/
def finalDelta (response : Fields) : Fields :=
  (if truthy (contentOf response) then [("content", contentOf response)] else []) ++
    if truthy (toolCallsOf response) then [("tool_calls", toolCallsOf response)] else []

/-- The chunks of what has come of the route. -/
def closingChunks (call : Call) : Except Failure RouteResult → List Fields
  | .error failure =>
    [openaiStreamChunk call call.settled.created [("content", .str (failureText env failure))] .null
      (failureFields call.settled.elapsedMs failure), doneChunk call "stop".toList]
  | .ok result =>
    (if finalDelta result.response = [] then []
      else [openaiStreamChunk call call.settled.created (finalDelta result.response) .null
        ([("status", .str "completed".toList), ("route_id", field result.fields "route_id"),
          ("route_name", field result.fields "route_name")] ++ routeFields result ++
          [("elapsed_ms", call.settled.elapsedMs)] ++ latencyField result)]) ++
      [doneChunk call (finishReason env result.response)]

/-- `sse_data`. -/
def sseData (payload : Fields) : Text := EventStream.writeEvent (Json.Style.ascii.compact (.obj payload))

/-- `stream_openai_compatible_response`, all that it yields. -/
def streamOpenaiCompatibleResponse (call : Call) (outcome : Except Failure RouteResult) : Text :=
  (openingChunks call ++ closingChunks env call outcome).flatMap sseData ++ EventStream.writeEvent "[DONE]".toList

/-! ## What a client has of an answer -/

/-- The content, the calls of tools and the reason to finish. -/
structure Completion where
  contents : List Value := []
  toolCalls : List Value := []
  finishReason : Value := .null

/-- The calls of tools that a field lists. -/
def listed : Value → List Value
  | .arr calls => calls
  | _ => []

/-- The first choice of an answer. -/
def firstChoice (answer : Fields) : Fields :=
  match field answer "choices" with
  | .arr (.obj choice :: _) => choice
  | _ => []

/-- The completion of an answer in one piece. -/
def Completion.ofResponse (answer : Fields) : Completion :=
  let message := (asDict (field (firstChoice answer) "message")).getD []
  { contents := if truthy (field message "content") then [field message "content"] else []
    toolCalls := listed (field message "tool_calls")
    finishReason := field (firstChoice answer) "finish_reason" }

/-- A chunk adds its delta. -/
def Completion.add (completion : Completion) (chunk : Fields) : Completion :=
  let delta := (asDict (field (firstChoice chunk) "delta")).getD []
  { contents := completion.contents ++ (get? delta "content").toList
    toolCalls := completion.toolCalls ++ listed (field delta "tool_calls")
    finishReason := if isPresent (field (firstChoice chunk) "finish_reason") then field (firstChoice chunk) "finish_reason"
      else completion.finishReason }

/-- The completion of a stream: its events are chunks of JSON up to `[DONE]`, without which it is not a whole one. -/
def readCompletion (stream : Text) : Option Completion :=
  let events := EventStream.read stream
  if "[DONE]".toList ∈ events then do
    let chunks ← (events.takeWhile (· != "[DONE]".toList)).mapM fun event => (Json.loads event).bind asDict
    return chunks.foldl Completion.add {}
  else none

/-- The completion that is meant: the one of the answer in one piece, or the text of the failure. -/
def Completion.ofOutcome (call : Call) : Except Failure RouteResult → Completion
  | .ok result => .ofResponse (openaiCompatibleResponse env call result)
  | .error failure => { contents := [.str (failureText env failure)], finishReason := .str "stop".toList }

end Completions

end PromptRail
