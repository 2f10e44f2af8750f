import PromptRail.Library.PyInt
import PromptRail.Runtime.Headers

/-!
# The headers of a request, all of them (`propagation/headers.py`)

A request to the gateway carries the identity of its run. The trace is named by the standard header, which the propagator of the tracer may
have written already, and everything is named by headers of PromptRail's own, whose values pass a sanitiser.
-/

namespace PromptRail

namespace Propagation

open PyText (Text casefold)

/-- A context of which any text may be a part. -/
structure RuntimeContext where
  runId : Option Text := none
  userId : Option Text := none
  traceId : Option Text := none
  spanId : Option Text := none
  parentSpanId : Option Text := none

/-- The headers of a request, in order. -/
abbrev Headers := List (Text × Text)

/-- `headers[name] = value`. -/
def setHeader : Headers → Text → Text → Headers
  | [], name, value => [(name, value)]
  | (name', value') :: rest, name, value => if name' = name then (name, value) :: rest else (name', value') :: setHeader rest name value

/-- The headers that are passed, as a dictionary of texts. -/
def ofPassed (headers : Headers) : Headers := headers.foldl (fun output p => setHeader output p.1 p.2) []

/-- `_header_value`. -/
def headerValue (headers : Headers) (name : String) : Option Text :=
  (headers.find? fun p => casefold p.1 == name.toList).map Prod.snd

/-- `_remove_header`. -/
def removeHeader (headers : Headers) (name : String) : Headers := headers.filter fun p => casefold p.1 != name.toList

/-- `_PROMPTRAIL_HEADERS`. -/
def promptrailHeaders : List String :=
  ["x-promptrail-run-id", "x-promptrail-user-id", "x-promptrail-trace-id", "x-promptrail-span-id", "x-promptrail-parent-span-id",
    "x-promptrail-application", "x-promptrail-environment", "x-promptrail-schema-version", "x-promptrail-sdk-version"]

/-- `_remove_private_headers`. -/
def removePrivateHeaders (headers : Headers) : Headers := promptrailHeaders.foldl removeHeader headers

/-- What a request is made in: the table of decimal digits, what the propagator of the tracer does to headers, the current context, the one
with a run that is ensured, the identifier that would be made for a run, and what the client is configured with. -/
structure Surroundings where
  decimal : Char → Option Nat
  propagate : Headers → Headers
  context : RuntimeContext
  ensured : RuntimeContext
  made : Text
  application : Option Text
  environment : Option Text
  sdkVersion : Text

variable (decimal : Char → Option Nat)

/-- `_valid_hex`. -/
def validHex (value : Text) (length : Nat) : Bool :=
  value.length == length && (PyInt.parse decimal 16 value).any (· != 0)

/-- `_canonical_hex`. -/
def canonicalHex (value : Option Text) (length : Nat) : Option Text :=
  (value.filter fun value => validHex decimal value length).map casefold

/-- `_traceparent_matches`. -/
def traceparentMatches (value : Option Text) (traceId spanId : Text) : Bool :=
  match value.map (List.splitOn '-') with
  | some [_, trace, span, _] => casefold trace == traceId && casefold span == spanId
  | _ => false

/-- `f"00-{trace_id}-{span_id}-01"`. -/
def traceparentOf (traceId spanId : Text) : Text := "00-".toList ++ traceId ++ '-' :: (spanId ++ "-01".toList)

variable (around : Surroundings)

/-- The context whose identity is written. -/
def Surroundings.identity (ensureRun : Bool) : RuntimeContext :=
  if ensureRun && around.context.runId.isNone then
    if around.context.traceId.isSome then around.ensured else { around.context with runId := some around.made }
  else around.context

/-- The `traceparent` that is synthesised, where that of the headers names another span. -/
def Surroundings.traceparent (context : RuntimeContext) (headers : Headers) : Option Text :=
  match canonicalHex around.decimal context.traceId 32, canonicalHex around.decimal context.spanId 16 with
  | some traceId, some spanId =>
    if traceparentMatches (headerValue headers "traceparent") traceId spanId then none else some (traceparentOf traceId spanId)
  | _, _ => none

/-- The values of PromptRail's own headers. -/
def Surroundings.values (context : RuntimeContext) : List (String × Option Text) :=
  [("x-promptrail-run-id", context.runId), ("x-promptrail-user-id", context.userId),
    ("x-promptrail-trace-id", canonicalHex around.decimal context.traceId 32),
    ("x-promptrail-span-id", canonicalHex around.decimal context.spanId 16),
    ("x-promptrail-parent-span-id", canonicalHex around.decimal context.parentSpanId 16),
    ("x-promptrail-application", around.application), ("x-promptrail-environment", around.environment),
    ("x-promptrail-schema-version", some "1.0".toList), ("x-promptrail-sdk-version", some around.sdkVersion)]

/-- PromptRail's own headers, as they are written. -/
def Surroundings.privateHeaders (context : RuntimeContext) : Headers :=
  (around.values context).filterMap fun p => p.2.map fun value => (p.1.toList, Runtime.safeHeaderValue value)

/-- `inject_headers`, where `gateway` says whether the request is for the gateway. -/
def injectHeaders (gateway ensureRun : Bool) (headers : Headers) : Headers :=
  if !gateway then removePrivateHeaders (ofPassed headers)
  else
    let propagated := around.propagate (ofPassed headers)
    let context := around.identity ensureRun
    let traced :=
      match around.traceparent context propagated with
      | some traceparent =>
        setHeader (removeHeader (removeHeader propagated "traceparent") "tracestate") "traceparent".toList traceparent
      | none => propagated
    (around.privateHeaders context).foldl (fun output p => setHeader output p.1 p.2) (removePrivateHeaders traced)

end Propagation

end PromptRail
