import PromptRail.Tracing

/-!
# Run scopes and the runtime client (`context/runtime.py`, `sdk.py`)

A task carries a runtime context in a context variable and a current span in another. A run scope puts a context of its own in place of
the one it finds, and takes it back out with the token of its entry. The client keeps which runs have started and which have ended, and
emits the events of their lifecycle; the span processor calls it back for the spans of a trace.
-/

namespace PromptRail

namespace Runtime

open PyText (Text)
open Table (Dict)
open Tracing (TraceId SpanId Span Registry Callback)

/-! ## Contexts -/

abbrev TaskId := Nat

abbrev ScopeId := Nat

abbrev RunId := Tracing.RunId

/-- Python's `or` of two texts. -/
def orText (a b : Option Text) : Option Text :=
  match a with
  | some (_ :: _) => a
  | _ => b

structure RuntimeContext where
  userId : Option Text := none
  runId : Option RunId := none
  traceId : Option Text := none
  spanId : Option Text := none
  parentSpanId : Option Text := none
deriving DecidableEq

/-- Where the user is read from when no context names one: `contextual_user`, and what the configured resolver returns, if it does not
raise. -/
structure Users where
  contextual : Option Text := none
  resolved : Option Text := none

/-- `current_user_id`, where `existing` is the value of the context variable. -/
def currentUserId (existing : Option RuntimeContext) (users : Users) : Option Text :=
  orText (existing.bind RuntimeContext.userId) (orText users.contextual users.resolved)

/-- `current_runtime_context` of the context package. -/
def currentRuntimeContext (existing : Option RuntimeContext) (users : Users) : RuntimeContext :=
  existing.getD { userId := currentUserId none users }

/-- `_merge_context`. -/
def mergeContext (base overlay : RuntimeContext) : RuntimeContext where
  userId := orText overlay.userId base.userId
  runId := overlay.runId.or base.runId
  traceId := orText overlay.traceId base.traceId
  spanId := orText overlay.spanId base.spanId
  parentSpanId := orText overlay.parentSpanId base.parentSpanId

structure TraceSnapshot where
  traceId : Option TraceId := none
  spanId : Option SpanId := none
  parentSpanId : Option SpanId := none
  runId : Option RunId := none

/-- `current_trace_snapshot`, of the current span. -/
def currentTraceSnapshot (registry : Registry) (current : Option Span) : TraceSnapshot :=
  match current with
  | none => {}
  | some span =>
    let traceId := Tracing.formatTraceId span.traceId
    let spanId := Tracing.formatSpanId span.spanId
    { traceId
      spanId
      parentSpanId := spanId.bind fun id => (registry.spanToParent.lookup id).join
      runId := traceId.bind registry.traceToRun.lookup }

/-! ## Run scopes -/

/-- The arguments of `run`. -/
structure RunArguments where
  userId : Option Text := none
  runId : Option RunId := none
  traceId : Option Text := none
  spanId : Option Text := none
  parentSpanId : Option Text := none

/-- A run scope that was made. -/
structure RunContext where
  context : RuntimeContext
  ownsLifecycle : Bool

/-- `RunContext.__init__`, where `made` is what `secure_id` would return. -/
def RunContext.make (existing : Option RuntimeContext) (users : Users) (snapshot : TraceSnapshot) (arguments : RunArguments)
    (made : RunId) : RunContext :=
  let parent := currentRuntimeContext existing users
  let runId := (snapshot.runId.or (arguments.runId.or parent.runId)).getD made
  { context := {
      userId := orText arguments.userId (orText parent.userId (currentUserId existing users))
      runId := some runId
      traceId := orText arguments.traceId parent.traceId
      spanId := orText arguments.spanId parent.spanId
      parentSpanId := orText arguments.parentSpanId parent.parentSpanId }
    ownsLifecycle := snapshot.runId.isNone && decide (some runId ≠ parent.runId) }

/-! ## The client -/

/-- The fields of `PromptRailEvent` that name what it is about. -/
structure PromptRailEvent where
  type : Text
  runId : RunId
  userId : Option Text
  traceId : Option Text
  spanId : Option Text
  parentSpanId : Option Text
  name : Option Text
  status : Option Text
deriving DecidableEq

def runStartType : Text := "run.start".toList

def runEndType : Text := "run.end".toList

def errorType : Text := "error".toList

/-- The event of a context that names a run. -/
def RuntimeContext.event (context : RuntimeContext) (runId : RunId) (type : Text) (name status : Option Text) : PromptRailEvent where
  type
  runId
  userId := context.userId
  traceId := context.traceId
  spanId := context.spanId
  parentSpanId := context.parentSpanId
  name
  status

/-- `RuntimeClient`'s record of the runs. -/
structure Client where
  startedRuns : Finset RunId := ∅
  endedRuns : Finset RunId := ∅
  endedRunOrder : List RunId := []
  runContexts : Dict RunId RuntimeContext := ∅

/-- `maxlen` of `_ended_run_order`. -/
def endedRunLimit : Nat := 4096

/-- A context of the run that is current, with what is known of it there. -/
def withObserved (context observed : RuntimeContext) : RuntimeContext :=
  if observed.runId = context.runId then mergeContext context observed else context

/-- A run that has ended is open again. -/
def Client.reopen (client : Client) (runId : RunId) : Client :=
  if runId ∈ client.endedRuns then
    { client with
      endedRuns := client.endedRuns.erase runId
      endedRunOrder := client.endedRunOrder.erase runId }
  else client

/-- A run that has started is known by more of its contexts. -/
def Client.enrich (client : Client) (runId : RunId) (context : RuntimeContext) : Client :=
  match client.runContexts.lookup runId with
  | none => client
  | some existing => { client with runContexts := client.runContexts.insert runId (mergeContext existing context) }

/-- `observe_run_start`, where `observed` is `current_context()`. -/
def Client.observeRunStart (client : Client) (observed context : RuntimeContext) : Client × List PromptRailEvent :=
  match context.runId with
  | none => (client, [])
  | some runId =>
    if runId ∈ client.startedRuns then ((client.reopen runId).enrich runId (withObserved context observed), [])
    else
      ({ client.reopen runId with
          startedRuns := insert runId client.startedRuns
          runContexts := client.runContexts.insert runId (withObserved context observed) },
        [(withObserved context observed).event runId runStartType none (some "started".toList)])

/-- The oldest run that has ended is forgotten where there is no room for another one. -/
def Client.forgetOldest (client : Client) : Client :=
  match client.endedRunOrder with
  | [] => client
  | oldest :: order =>
    if client.endedRunOrder.length = endedRunLimit then
      { client with
        endedRuns := client.endedRuns.erase oldest
        endedRunOrder := order }
    else client

/-- `observe_run_end`. -/
def Client.observeRunEnd (client : Client) (observed context : RuntimeContext) (error : Bool) : Client × List PromptRailEvent :=
  match context.runId with
  | none => (client, [])
  | some runId =>
    if runId ∈ client.endedRuns then (client, [])
    else
      let forgetful := client.forgetOldest
      let known :=
        match client.runContexts.lookup runId with
        | none => withObserved context observed
        | some stored => mergeContext stored (withObserved context observed)
      ({ startedRuns := client.startedRuns.erase runId
         endedRuns := insert runId forgetful.endedRuns
         endedRunOrder := forgetful.endedRunOrder ++ [runId]
         runContexts := client.runContexts.erase runId },
        [known.event runId runEndType none (some (if error then "error".toList else "success".toList))])

/-! ## The spans of the tracer -/

def runMarker : Text := "run_".toList

/-- What `observe_otel_event` makes of the run of a span. -/
def normalizeRunId (runId : RunId) : RunId :=
  if runMarker.isPrefixOf runId.text.toList then runId
  else ⟨"run_" ++ runId.text, fun h => runId.nonempty (String.append_eq_empty_iff.1 h).2⟩

/-- What `_event` reads off the span itself: its kind, as it is classified, its name and its status. -/
structure SpanFacts where
  kind : Text := "other".toList
  name : Option Text := none
  status : Option Text := none
  hasError : Bool := false

def phaseText : Tracing.Phase → Text
  | .start => "start".toList
  | .end => "end".toList

/-- `_normalize_otel_status`. -/
def normalizeOtelStatus (facts : SpanFacts) (phase : Tracing.Phase) : Text :=
  if facts.hasError || (PyText.casefold (facts.status.getD [])).tails.any ("error".toList.isPrefixOf ·) then "error".toList
  else
    match phase with
    | .start => "started".toList
    | .end => "success".toList

def optionalText (value : Option Text) : Option Text := value.filter fun t => !t.isEmpty

/-- `observe_otel_event`, where `userId` is that of `current_context()`. -/
def observeOtelEvent (userId : Option Text) (facts : SpanFacts) (event : Tracing.Event) : List PromptRailEvent :=
  let runId := normalizeRunId event.runId
  let context : RuntimeContext := {
    userId := orText (event.userId.map String.toList) userId
    runId := some runId
    traceId := optionalText (some event.traceId)
    spanId := optionalText (some event.spanId)
    parentSpanId := optionalText event.parentSpanId }
  let status := normalizeOtelStatus facts event.phase
  let type := (if facts.kind.isEmpty then "other".toList else facts.kind) ++ '.' :: phaseText event.phase
  let name := optionalText facts.name
  context.event runId type name (some status) ::
    if status = "error".toList then [context.event runId errorType name (some "error".toList)] else []

/-! ## The world -/

/-- A run scope that is open: the task it was entered in, and the value its token restores. -/
structure OpenScope where
  task : TaskId
  scope : RunContext
  token : Option RuntimeContext

/-- The tasks' context variables, the scopes that are open, the client and the registry of the span processor. -/
structure World where
  contexts : Dict TaskId RuntimeContext := ∅
  current : Dict TaskId Span := ∅
  scopes : Dict ScopeId OpenScope := ∅
  client : Client := {}
  registry : Registry := {}

/-- `current_trace_snapshot` in a task. -/
def World.snapshot (w : World) (task : TaskId) : TraceSnapshot := currentTraceSnapshot w.registry (w.current.lookup task)

/-- The value of the context variable is put in place: that of a token may be none. -/
def World.setContext (w : World) (task : TaskId) (value : Option RuntimeContext) : World :=
  match value with
  | none => { w with contexts := w.contexts.erase task }
  | some context => { w with contexts := w.contexts.insert task context }

/-- `RuntimeClient.current_context()` in a task. -/
def World.currentContext (w : World) (task : TaskId) (users : Users) : RuntimeContext :=
  let base := currentRuntimeContext (w.contexts.lookup task) users
  let snapshot := w.snapshot task
  { base with
    runId := base.runId.or snapshot.runId
    traceId := orText snapshot.traceId base.traceId
    spanId := orText snapshot.spanId base.spanId
    parentSpanId := orText snapshot.parentSpanId base.parentSpanId }

/-- `observe_run_start` in a task. -/
def World.observeRunStart (w : World) (task : TaskId) (users : Users) (context : RuntimeContext) : World × List PromptRailEvent :=
  let (client, events) := w.client.observeRunStart (w.currentContext task users) context
  ({ w with client }, events)

/-- `observe_run_end` in a task. -/
def World.observeRunEnd (w : World) (task : TaskId) (users : Users) (context : RuntimeContext) (error : Bool) :
    World × List PromptRailEvent :=
  let (client, events) := w.client.observeRunEnd (w.currentContext task users) context error
  ({ w with client }, events)

/-- `RunContext.__enter__`, of a scope that is made there. -/
def World.enter (w : World) (task : TaskId) (id : ScopeId) (arguments : RunArguments) (users : Users) (made : RunId) :
    World × List PromptRailEvent :=
  let scope := RunContext.make (w.contexts.lookup task) users (w.snapshot task) arguments made
  let entered : World := { w with
    contexts := w.contexts.insert task scope.context
    scopes := w.scopes.insert id ⟨task, scope, w.contexts.lookup task⟩ }
  if scope.ownsLifecycle then entered.observeRunStart task users scope.context else (entered, [])

/-- `RunContext.__exit__`, in the task of the entry. -/
def World.exit (w : World) (id : ScopeId) (error : Bool) (users : Users) : World × List PromptRailEvent :=
  match w.scopes.lookup id with
  | none => (w, [])
  | some entry =>
    let (ended, events) :=
      if entry.scope.ownsLifecycle then w.observeRunEnd entry.task users entry.scope.context error else (w, [])
    ({ ended with scopes := ended.scopes.erase id }.setContext entry.task entry.token, events)

/-! ## Spans -/

/-- `observe_otel_run_start`, `observe_otel_event` and `observe_otel_run_end`, as the processor calls them. -/
def World.dispatch (w : World) (task : TaskId) (users : Users) (facts : SpanFacts) : List Callback → World × List PromptRailEvent
  | [] => (w, [])
  | callback :: callbacks =>
    let called : World × List PromptRailEvent :=
      match callback with
      | .runStart runId traceId =>
        w.observeRunStart task users
          { userId := (w.currentContext task users).userId, runId := some (normalizeRunId runId), traceId := some traceId }
      | .event event => (w, observeOtelEvent (w.currentContext task users).userId facts event)
      | .runEnd runId traceId =>
        w.observeRunEnd task users { runId := some (normalizeRunId runId), traceId := some traceId } false
    let rest := called.1.dispatch task users facts callbacks
    (rest.1, called.2 ++ rest.2)

/-- What `on_start` reads in a task, where `made` is what the factory would make. -/
def World.input (w : World) (task : TaskId) (users : Users) (made : RunId) : Tracing.Input where
  activeRunId := (currentRuntimeContext (w.contexts.lookup task) users).runId
  activeUserId := (currentUserId (w.contexts.lookup task) users).map String.ofList
  madeRunId := made

/-- A callback of the processor in a task. -/
def World.processSpan (w : World) (task : TaskId) (users : Users) (facts : SpanFacts) (a : Tracing.Step) :
    World × List PromptRailEvent :=
  let (registry, callbacks) := Tracing.turn w.registry a
  { w with registry }.dispatch task users facts callbacks

/-! ## Runs that are ensured -/

/-- `ensure_current_trace_run`: the run of the trace, and whether it was made. -/
def ensureCurrentTraceRun (registry : Registry) (snapshot : TraceSnapshot) (traceId : TraceId) (runId : RunId) (userId : Option Text) :
    Registry × RunId × Bool :=
  match (registry.traceToRun.lookup traceId).or (snapshot.spanId.bind registry.spanToRun.lookup) with
  | some existing => (registry, existing, false)
  | none =>
    let mapped : Registry := { registry with traceToRun := registry.traceToRun.insert traceId runId }
    match snapshot.spanId with
    | none => (mapped, runId, true)
    | some spanId =>
      ({ mapped with
          spanToParent := mapped.spanToParent.insert spanId snapshot.parentSpanId
          spanToTrace := mapped.spanToTrace.insert spanId traceId
          spanToRun := mapped.spanToRun.insert spanId runId
          spanToUser := mapped.spanToUser.insert spanId (userId.map String.ofList)
          spanToRunStarted := mapped.spanToRunStarted.insert spanId true
          traceActiveCounts := mapped.traceActiveCounts.insert traceId ((mapped.traceActiveCounts.lookup traceId).getD 0 + 1) },
        runId, true)

/-- `current_context(ensure_run=True)` in a task: the context, and what has become of the world. -/
def World.ensuredContext (w : World) (task : TaskId) (users : Users) (made : RunId) : RuntimeContext × World × List PromptRailEvent :=
  let base := currentRuntimeContext (w.contexts.lookup task) users
  let snapshot := w.snapshot task
  match base.runId.or snapshot.runId, snapshot.traceId with
  | some _, _ => (w.currentContext task users, w, [])
  | none, some traceId =>
    let (registry, runId, created) := ensureCurrentTraceRun w.registry snapshot traceId made base.userId
    let traced : RuntimeContext := { base with
      runId := some runId
      traceId := snapshot.traceId
      spanId := snapshot.spanId
      parentSpanId := snapshot.parentSpanId }
    let ensured : RuntimeContext := { traced with
      traceId := orText snapshot.traceId base.traceId
      spanId := orText snapshot.spanId base.spanId
      parentSpanId := orText snapshot.parentSpanId base.parentSpanId }
    (ensured, if created then { w with registry }.observeRunStart task users traced else ({ w with registry }, []))
  | none, none =>
    let implicit : RuntimeContext := { base with runId := some made }
    ((w.setContext task (some implicit)).currentContext task users,
      (w.setContext task (some implicit)).observeRunStart task users implicit)

/-- `emit` without a context, of an event of the application: the event, and what has become of the world. -/
def World.emit (w : World) (task : TaskId) (users : Users) (made : RunId) (type : Text) (name status : Option Text) :
    Option PromptRailEvent × World × List PromptRailEvent :=
  let (context, ensured) := w.ensuredContext task users made
  (context.runId.map fun runId => context.event runId type name status, ensured)

/-! ## Steps -/

/-- A step of run scopes: a scope is entered or left, or a task starts with a copy of the context variables of another one. -/
inductive ScopeStep where
  | enter (task : TaskId) (id : ScopeId) (arguments : RunArguments) (users : Users) (made : RunId)
  | exit (id : ScopeId) (error : Bool) (users : Users)
  | spawn (parent child : TaskId)

/-- The world after a step of run scopes, and the events that were emitted. -/
def World.scopeTurn (w : World) : ScopeStep → World × List PromptRailEvent
  | .enter task id arguments users made => w.enter task id arguments users made
  | .exit id error users => w.exit id error users
  | .spawn parent child =>
    let copied := w.setContext child (w.contexts.lookup parent)
    (match w.current.lookup parent with
      | none => { copied with current := w.current.erase child }
      | some span => { copied with current := w.current.insert child span },
      [])

end Runtime

end PromptRail
