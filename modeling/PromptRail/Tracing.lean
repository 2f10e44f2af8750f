import Mathlib.Data.Finset.Basic
import PromptRail.Library.PyText
import PromptRail.Library.Table
import PromptRail.Library.Transition

/-!
# The span processor (`tracing/opentelemetry.py`)

The processor is told of every span that starts and of every span that ends, and keeps a registry: to which run each trace belongs, and
what each span was started with. Each callback of a span updates the registry under its lock and then calls the three callbacks that the
processor was given. A callback that raises ends the one that called it.
-/

namespace PromptRail

namespace Tracing

open PyText (Text)
open Table (Dict)

/-! ## Identifiers -/

/-- A trace identifier, as it is formatted. -/
abbrev TraceId := Text

/-- A span identifier, as it is formatted. -/
abbrev SpanId := Text

/-- The identifier of a run, which is not empty. -/
structure RunId where
  text : String
  nonempty : text ≠ ""
deriving DecidableEq

/-- `f"{integer:0{width}x}"[-width:]`, of a positive integer. -/
def formatId (width : Nat) (value : Option Int) : Option Text :=
  match value with
  | none => none
  | some integer =>
    if integer ≤ 0 then none
    else
      let digits := Nat.toDigits 16 integer.toNat
      let padded := List.replicate (width - digits.length) '0' ++ digits
      some (padded.drop (padded.length - width))

/-- `_format_trace_id`: what `int` makes of the value, if it does not raise, is given. -/
def formatTraceId (value : Option Int) : Option TraceId := formatId 32 value

/-- `_format_span_id`. -/
def formatSpanId (value : Option Int) : Option SpanId := formatId 16 value

/-- A span: the identifiers of its context, and that of its parent. -/
structure Span where
  traceId : Option Int
  spanId : Option Int
  parent : Option Int := none

/-- `_parent_span_id`. -/
def Span.parentSpanId (span : Span) : Option SpanId := formatSpanId span.parent

/-- The identifiers of a span, where both are valid. -/
def Span.ids (span : Span) : Option (TraceId × SpanId) :=
  match formatTraceId span.traceId, formatSpanId span.spanId with
  | some traceId, some spanId => some (traceId, spanId)
  | _, _ => none

/-! ## The registry -/

/-- The module's maps. -/
structure Registry where
  traceToRun : Dict TraceId RunId := ∅
  spanToParent : Dict SpanId (Option SpanId) := ∅
  spanToTrace : Dict SpanId TraceId := ∅
  spanToRun : Dict SpanId RunId := ∅
  spanToUser : Dict SpanId (Option String) := ∅
  spanToRunStarted : Dict SpanId Bool := ∅
  traceActiveCounts : Dict TraceId Nat := ∅
  traceRootEnded : Finset TraceId := ∅

/-- `phase`. -/
inductive Phase where
  | start
  | end
deriving DecidableEq

/-- What an event says of a span, beside the data of the span itself. -/
structure Event where
  phase : Phase
  runId : RunId
  userId : Option String
  traceId : TraceId
  spanId : SpanId
  parentSpanId : Option SpanId
deriving DecidableEq

/-- A call of `on_run_start`, `on_event` or `on_run_end`. -/
inductive Callback where
  | runStart (runId : RunId) (traceId : TraceId)
  | event (event : Event)
  | runEnd (runId : RunId) (traceId : TraceId)
deriving DecidableEq

/-- What a callback of a span is told from outside: the run and the user that are active, the run that the factory would make, and
whether the callbacks raise. -/
structure Input where
  activeRunId : Option RunId := none
  activeUserId : Option String := none
  madeRunId : RunId
  runStartRaises : Bool := false
  eventRaises : Bool := false

/-- The run of a span that starts, the map of the runs, and whether the run starts with it. -/
def runOfStart (traceToRun : Dict TraceId RunId) (traceId : TraceId) (inherited : Option RunId) (root : Bool) (input : Input) :
    RunId × Dict TraceId RunId × Bool :=
  match (traceToRun.lookup traceId).or inherited, input.activeRunId with
  | some runId, _ => (runId, traceToRun, false)
  | none, some runId => (runId, traceToRun.insert traceId runId, false)
  | none, none => (input.madeRunId, traceToRun.insert traceId input.madeRunId, root)

/-- `on_start`, of a span with valid identifiers. -/
def startSpan (registry : Registry) (traceId : TraceId) (spanId : SpanId) (parentSpanId : Option SpanId) (input : Input) :
    Registry × List Callback :=
  let inherited := parentSpanId.bind fun parent => registry.spanToRun.lookup parent
  let (runId, traceToRun, runStarted) := runOfStart registry.traceToRun traceId inherited parentSpanId.isNone input
  let event : Event := {
    phase := .start
    runId
    userId := input.activeUserId
    traceId
    spanId
    parentSpanId }
  ({ registry with
      traceToRun
      spanToParent := registry.spanToParent.insert spanId parentSpanId
      spanToTrace := registry.spanToTrace.insert spanId traceId
      spanToRun := registry.spanToRun.insert spanId runId
      spanToUser := registry.spanToUser.insert spanId input.activeUserId
      spanToRunStarted := registry.spanToRunStarted.insert spanId runStarted
      traceActiveCounts :=
        registry.traceActiveCounts.insert traceId ((registry.traceActiveCounts.lookup traceId).getD 0 + 1) },
    (if runStarted then [.runStart runId traceId] else []) ++ if runStarted && input.runStartRaises then [] else [.event event])

/-- `on_end`, of a span with valid identifiers. -/
def endSpan (registry : Registry) (traceId : TraceId) (spanId : SpanId) (input : Input) : Registry × List Callback :=
  let runId := ((registry.spanToRun.lookup spanId).or (registry.traceToRun.lookup traceId)).getD input.madeRunId
  let event : Event := {
    phase := .end
    runId
    userId := (registry.spanToUser.lookup spanId).join
    traceId
    spanId
    parentSpanId := (registry.spanToParent.lookup spanId).join }
  let runStarted := (registry.spanToRunStarted.lookup spanId).getD false
  let rootEnded := if runStarted then insert traceId registry.traceRootEnded else registry.traceRootEnded
  let activeCount := (registry.traceActiveCounts.lookup traceId).getD 1 - 1
  let shouldEndRun := decide (traceId ∈ rootEnded ∧ activeCount = 0)
  ({ traceToRun := if activeCount = 0 then registry.traceToRun.erase traceId else registry.traceToRun
     spanToParent := registry.spanToParent.erase spanId
     spanToTrace := registry.spanToTrace.erase spanId
     spanToRun := registry.spanToRun.erase spanId
     spanToUser := registry.spanToUser.erase spanId
     spanToRunStarted := registry.spanToRunStarted.erase spanId
     traceActiveCounts :=
       if activeCount = 0 then registry.traceActiveCounts.erase traceId else registry.traceActiveCounts.insert traceId activeCount
     traceRootEnded := if activeCount = 0 then rootEnded.erase traceId else rootEnded },
    .event event :: if shouldEndRun && !input.eventRaises then [.runEnd runId traceId] else [])

/-- A callback of a span. -/
inductive Step where
  | onStart (span : Span) (input : Input)
  | onEnd (span : Span) (input : Input)

/-- `PromptRailSpanProcessor.on_start` and `on_end`: the registry after it, and the callbacks that were called. A span without valid
identifiers is passed over. -/
def turn (registry : Registry) : Step → Registry × List Callback
  | .onStart span input =>
    match span.ids with
    | none => (registry, [])
    | some (traceId, spanId) => startSpan registry traceId spanId span.parentSpanId input
  | .onEnd span input =>
    match span.ids with
    | none => (registry, [])
    | some (traceId, spanId) => endSpan registry traceId spanId input

/-- One step of the processor. -/
def step (registry : Registry) (a : Step) : Registry := (turn registry a).1

end Tracing

end PromptRail
