import PromptRail.Runtime.Headers
import PromptRail.Runtime.Lifecycle

/-!
# Streams (`integrations/openai.py`)

A wrapped call without a run opens a run scope of its own, and a streamed answer keeps the scope open until it is exhausted, fails or is
closed. The scope puts its context into the context variable of the caller and takes it out with its token, whatever has been put there
since. What the tracer does in between, the span of the call included, is given.
-/

namespace PromptRail

namespace Runtime

open PyText (Text)
open Table (Dict total)
open Tracing (Span Registry)
open Transition

/-! ## Wrapped calls -/

abbrev StreamId := Nat

/-- What has become of the tracer: its registry, and the span that is current in the task. -/
structure Tracer where
  registry : Registry := {}
  current : Option Span := none

/-- A call that was made: the run its request carried, the scope its exit stack holds, the run that was made for it, and whether its answer
is done with. -/
structure Stream where
  carried : Option RunId
  scope : Option ScopeId
  implicit : Option RunId
  closed : Bool
deriving DecidableEq

/-- One task with its streams, and the run scopes the application has entered, the innermost first. -/
structure Streams where
  world : World
  streams : Dict StreamId Stream := ∅
  stack : List ScopeId := []

/-- The task that makes the calls. -/
def caller : TaskId := 0

def World.traced (w : World) (tracer : Tracer) : World :=
  match tracer.current with
  | none => { w with registry := tracer.registry, current := w.current.erase caller }
  | some span => { w with registry := tracer.registry, current := w.current.insert caller span }

/-- `_request_run_scope`: the scope that was entered, if there is no run and none can be ensured. -/
def World.requestRunScope (w : World) (scope : ScopeId) (users : Users) (made : RunId) :
    Option ScopeId × World × List PromptRailEvent :=
  let current := w.currentContext caller users
  if current.runId.isSome then (none, w, [])
  else
    let ensured :=
      if current.traceId.isSome then w.ensuredContext caller users made else (current, w, [])
    if ensured.1.runId.isSome then (none, ensured.2)
    else
      let entered := ensured.2.1.enter caller scope {} users made
      (some scope, entered.1, ensured.2.2 ++ entered.2)

/-- What a wrapped function does: it returns a stream, or something else, or raises. -/
inductive Outcome where
  | stream
  | plain
  | raised
deriving DecidableEq

/-- What the next item of a stream is. -/
inductive Pulled where
  | item
  | exhausted
  | failed
deriving DecidableEq

inductive StreamStep where
  | enter (id : ScopeId) (arguments : RunArguments) (users : Users) (made : RunId)
  /-- The innermost run scope is left. -/
  | leave (error : Bool) (users : Users)
  | call (stream : StreamId) (scope : ScopeId) (users : Users) (made spare : RunId) (started ended : Tracer) (outcome : Outcome)
  | next (stream : StreamId) (pulled : Pulled) (users : Users) (ended : Tracer)
  | close (stream : StreamId) (users : Users) (ended : Tracer)
  | trace (tracer : Tracer)

/-- `sync_call` and `async_call`, for the gateway: the scope, the span, the headers, the call. -/
def Streams.call (s : Streams) (stream : StreamId) (scope : ScopeId) (users : Users) (made spare : RunId) (started ended : Tracer)
    (outcome : Outcome) : Streams × List PromptRailEvent :=
  let opened := s.world.requestRunScope scope users made
  let headed := (opened.2.1.traced started).headerContext caller users spare true
  let implicit := (opened.1.bind headed.2.1.scopes.lookup).bind fun entry => entry.scope.context.runId
  let called : Streams := { s with
    world := headed.2.1
    streams := s.streams.insert stream ⟨headed.1.runId, opened.1, implicit, outcome ≠ .stream⟩ }
  match outcome, opened.1 with
  | .stream, _ | _, none => (called, opened.2.2 ++ headed.2.2)
  | _, some id =>
    let closed := (called.world.traced ended).exit id (outcome = .raised) users
    ({ called with world := closed.1 }, opened.2.2 ++ headed.2.2 ++ closed.2)

/-- `_close_stack` and `_exit_stack`, of a stream that is not closed. -/
def Streams.release (s : Streams) (stream : StreamId) (error : Bool) (users : Users) (ended : Tracer) :
    Streams × List PromptRailEvent :=
  match s.streams.lookup stream with
  | none => (s, [])
  | some held =>
    if held.closed then (s, [])
    else
      let closed : Streams := { s with
        world := s.world.traced ended
        streams := s.streams.insert stream { held with closed := true } }
      match held.scope with
      | none => (closed, [])
      | some id =>
        let exited := closed.world.exit id error users
        ({ closed with world := exited.1 }, exited.2)

def Streams.turn (s : Streams) : StreamStep → Streams × List PromptRailEvent
  | .enter id arguments users made =>
    let entered := s.world.enter caller id arguments users made
    ({ s with world := entered.1, stack := id :: s.stack }, entered.2)
  | .leave error users =>
    match s.stack with
    | [] => (s, [])
    | id :: rest =>
      let left := s.world.exit id error users
      ({ s with world := left.1, stack := rest }, left.2)
  | .call stream scope users made spare started ended outcome => s.call stream scope users made spare started ended outcome
  | .next _ .item _ _ => (s, [])
  | .next stream .exhausted users ended | .close stream users ended => s.release stream false users ended
  | .next stream .failed users ended => s.release stream true users ended
  | .trace tracer => ({ s with world := s.world.traced tracer }, [])

def Streams.next (s : Streams) (a : StreamStep) : Streams := (s.turn a).1

/-! ## What streams are to restore -/

/-- The run of the context variable. -/
def Streams.currentRun (s : Streams) : Option RunId := (s.world.contexts.lookup caller).bind RuntimeContext.runId

/-- The number of streams that are not done and whose request carried a run. -/
def unfinished (streams : Dict StreamId Stream) (runId : RunId) : Nat :=
  total (fun _ stream => if stream.closed = false ∧ stream.carried = some runId then 1 else 0) streams

/-- A run that was made for a call. -/
def Implicit (streams : Dict StreamId Stream) (runId : RunId) : Prop := ∃ e ∈ streams.entries, e.2.implicit = some runId

instance decidableImplicit (streams : Dict StreamId Stream) (runId : RunId) : Decidable (Implicit streams runId) :=
  inferInstanceAs (Decidable (∃ e ∈ streams.entries, e.2.implicit = some runId))

/-- The ends of runs that were made for calls, each with the number of streams that had carried the run and were not done. -/
abbrev Ends := List (RunId × Nat)

def observeEnds (ends : Ends) (s : Streams) (a : StreamStep) (s' : Streams) : Ends :=
  ((s.turn a).2.filter fun event => event.type = runEndType ∧ Implicit s'.streams event.runId).map
    (fun event => (event.runId, unfinished s'.streams event.runId)) ++ ends

/-- In a run scope its run is current; when all streams are done and all scopes left, the run is current that was to begin with; and a run
that was made for a call ends when every stream is done whose request carried it. -/
structure Restores (initial : Option RunId) (s : Streams) (ends : Ends) : Prop where
  inScope : ∀ id rest, s.stack = id :: rest →
    ∃ entry, s.world.scopes.lookup id = some entry ∧ entry.scope.context.runId.isSome = true ∧ s.currentRun = entry.scope.context.runId
  atRest : s.stack = [] → (∀ e ∈ s.streams.entries, e.2.closed = true) → s.currentRun = initial
  ended : ∀ e ∈ ends, e.2 = 0

/-- Identifiers are used once, and a run that is made is not that of a request. -/
def StreamsWellFormed (s : Streams) : StreamStep → Prop
  | .enter id _ _ _ => id ∉ s.world.scopes
  | .call stream _ _ made _ _ _ _ => stream ∉ s.streams ∧ ∀ e ∈ s.streams.entries, e.2.carried ≠ some made
  | .leave _ _ | .next _ _ _ _ | .close _ _ _ | .trace _ => True

instance decidableStreamsWellFormed (s : Streams) : ∀ a, Decidable (StreamsWellFormed s a)
  | .enter id _ _ _ => inferInstanceAs (Decidable (id ∉ s.world.scopes))
  | .call stream _ _ made _ _ _ _ =>
    inferInstanceAs (Decidable (stream ∉ s.streams ∧ ∀ e ∈ s.streams.entries, e.2.carried ≠ some made))
  | .leave _ _ | .next _ _ _ _ | .close _ _ _ | .trace _ => isTrue trivial

/-- The end of a scope does not report the end of a run that was made for a call while a stream carries it. -/
def EndsQuietly (s : Streams) (streams : Dict StreamId Stream) (id : ScopeId) : Prop :=
  ∀ entry, s.world.scopes.lookup id = some entry → entry.scope.ownsLifecycle = true → ∀ runId, entry.scope.context.runId = some runId →
    runId ∉ s.world.client.endedRuns → Implicit streams runId → unfinished streams runId = 0

/-- A stream that holds a scope is done when no run scope of the application is open, and no other stream carries its run. -/
def ReleasesLast (s : Streams) (stream : StreamId) : Prop :=
  ∀ held, s.streams.lookup stream = some held → held.closed = false → ∀ id, held.scope = some id →
    s.stack = [] ∧ EndsQuietly s (s.streams.insert stream { held with closed := true }) id

/-- The context variable does not hold a trace without a run. -/
def NoStrayTrace (w : World) : Prop := ∀ context, w.contexts.lookup caller = some context → context.runId = none → context.traceId = none

def Orderly (s : Streams) : StreamStep → Prop
  | .leave _ _ => ∀ id ∈ s.stack.head?, EndsQuietly s s.streams id
  | .next stream pulled _ _ => pulled ≠ .item → ReleasesLast s stream
  | .close stream _ _ => ReleasesLast s stream
  | .enter _ _ _ _ | .call _ _ _ _ _ _ _ _ | .trace _ => True

/-- A call is made where the context variable does not hold a trace without a run. -/
def CallsPlainly (s : Streams) : StreamStep → Prop
  | .call _ _ _ _ _ _ _ _ => NoStrayTrace s.world
  | .enter _ _ _ _ | .leave _ _ | .next _ _ _ _ | .close _ _ _ | .trace _ => True

namespace StreamsAux

/-! ## What the world does -/

theorem traced_same (w : World) (tracer : Tracer) :
    (w.traced tracer).contexts = w.contexts ∧ (w.traced tracer).scopes = w.scopes ∧ (w.traced tracer).client = w.client := by
  unfold World.traced
  cases tracer.current <;> exact ⟨rfl, rfl, rfl⟩

theorem observeRunStart_quiet (w : World) (task : TaskId) (users : Users) (context : RuntimeContext) :
    ∀ e ∈ (w.observeRunStart task users context).2, e.type ≠ runEndType := by
  intro e he
  simp only [World.observeRunStart] at he
  cases hrun : context.runId with
  | none =>
    simp only [Client.observeRunStart, hrun] at he
    cases he
  | some runId =>
    rcases (LifecycleAux.started_observeRunStart w.client (w.currentContext task users) hrun).events with ⟨-, hevents⟩ | ⟨o, ho, hevents⟩
    · rw [hevents] at he
      cases he
    · rw [hevents] at he
      rw [List.mem_singleton.1 he, ho.1]
      decide

/-- A scope that is entered puts its context in place and holds what it found. -/
structure Entered (w w' : World) (id : ScopeId) (scope : RunContext) (events : List PromptRailEvent) : Prop where
  contexts : w'.contexts = w.contexts.insert caller scope.context
  scopes : w'.scopes = w.scopes.insert id ⟨caller, scope, w.contexts.lookup caller⟩
  named : scope.context.runId.isSome = true
  quiet : ∀ e ∈ events, e.type ≠ runEndType

theorem entered_enter (w : World) (id : ScopeId) (arguments : RunArguments) (users : Users) (made : RunId) :
    Entered w (w.enter caller id arguments users made).1 id
      (RunContext.make (w.contexts.lookup caller) users (w.snapshot caller) arguments made)
      (w.enter caller id arguments users made).2 := by
  unfold World.enter
  dsimp only
  split
  · exact ⟨rfl, rfl, rfl, observeRunStart_quiet _ _ _ _⟩
  · exact ⟨rfl, rfl, rfl, fun _ h => nomatch h⟩

/-- A scope that is left puts back what its token holds, and reports no end but that of its run. -/
structure Left (w w' : World) (id : ScopeId) (entry : OpenScope) (events : List PromptRailEvent) : Prop where
  contexts : w'.contexts.lookup caller = entry.token
  scopes : w'.scopes = w.scopes.erase id
  ended : ∀ e ∈ events, e.type = runEndType → entry.scope.ownsLifecycle = true ∧ entry.scope.context.runId = some e.runId ∧
    e.runId ∉ w.client.endedRuns
  reported : entry.scope.ownsLifecycle = true → ∀ runId, entry.scope.context.runId = some runId → runId ∉ w.client.endedRuns →
    ∃ e ∈ events, e.ends runId

theorem lookup_setContext (w : World) (value : Option RuntimeContext) : (w.setContext caller value).contexts.lookup caller = value := by
  cases value with
  | none => exact AList.lookup_erase _ _
  | some context => exact AList.lookup_insert _

theorem observeRunEnd_run {client : Client} {observed context : RuntimeContext} {error : Bool} {e : PromptRailEvent}
    (h : e ∈ (client.observeRunEnd observed context error).2) : context.runId = some e.runId ∧ e.runId ∉ client.endedRuns := by
  cases hrun : context.runId with
  | none =>
    simp only [Client.observeRunEnd, hrun] at h
    nomatch h
  | some runId =>
    by_cases hended : runId ∈ client.endedRuns
    · simp only [Client.observeRunEnd, hrun, if_pos hended] at h
      nomatch h
    · obtain ⟨o, ho, hevents⟩ := (LifecycleAux.ended_observeRunEnd observed error hrun hended).events
      rw [hevents] at h
      rw [List.mem_singleton.1 h, ho.2]
      exact ⟨rfl, hended⟩

theorem left_exit {w : World} {id : ScopeId} {entry : OpenScope} (hid : w.scopes.lookup id = some entry) (htask : entry.task = caller)
    (error : Bool) (users : Users) : Left w (w.exit id error users).1 id entry (w.exit id error users).2 := by
  simp only [World.exit, hid, htask]
  split
  · rename_i howns
    refine ⟨lookup_setContext _ _, (LifecycleAux.setContext_scopes _ _ _).1, fun e he _ => ⟨howns, observeRunEnd_run he⟩,
      fun _ runId hrun hopen => ?_⟩
    obtain ⟨o, ho, hevents⟩ := (LifecycleAux.ended_observeRunEnd (w.currentContext caller users) error hrun hopen).events
    exact ⟨o, by rw [World.observeRunEnd, hevents]; exact List.mem_singleton_self _, ho⟩
  · rename_i hguest
    exact ⟨lookup_setContext _ _, (LifecycleAux.setContext_scopes _ _ _).1, fun _ h => absurd h List.not_mem_nil,
      fun howns => absurd howns hguest⟩

/-- What is done without a scope: the context variable and the scopes stay. -/
structure Aside (w w' : World) (events : List PromptRailEvent) : Prop where
  contexts : w'.contexts = w.contexts
  scopes : w'.scopes = w.scopes
  quiet : ∀ e ∈ events, e.type ≠ runEndType

theorem Aside.refl (w : World) : Aside w w [] := ⟨rfl, rfl, (fun _ h => nomatch h)⟩

/-- A run that is ensured is that of a scope or of a trace, unless there is neither. -/
theorem aside_ensuredContext {w : World} (users : Users) (made : RunId)
    (h : (w.currentContext caller users).runId.isSome = true ∨ (w.snapshot caller).traceId.isSome = true) :
    (w.ensuredContext caller users made).1.runId.isSome = true ∧
      Aside w (w.ensuredContext caller users made).2.1 (w.ensuredContext caller users made).2.2 := by
  have hrun : (w.currentContext caller users).runId =
      (currentRuntimeContext (w.contexts.lookup caller) users).runId.or (w.snapshot caller).runId := rfl
  unfold World.ensuredContext
  dsimp only
  split
  · rename_i hknown
    exact ⟨by rw [hrun, hknown]; rfl, Aside.refl w⟩
  · rename_i traceId _ _
    generalize ensureCurrentTraceRun w.registry (w.snapshot caller) traceId made _ = ensured
    obtain ⟨registry, runId, created⟩ := ensured
    refine ⟨rfl, ?_⟩
    cases created with
    | false => exact ⟨rfl, rfl, (fun _ h => nomatch h)⟩
    | true =>
      simp only [if_true]
      exact ⟨rfl, rfl, observeRunStart_quiet _ _ _ _⟩
  · rename_i hnone htrace
    rw [hrun, hnone, htrace] at h
    exact absurd h (by decide)

theorem orText_none_of {a b : Option Text} (h : (orText a b).isSome = true) (hb : b = none) : a.isSome = true := by
  subst hb
  unfold orText at h
  split at h
  · exact h
  · nomatch h

/-- Where no run is known, a trace that is known is the tracer's. -/
theorem trace_of_noStray {w : World} (hstray : NoStrayTrace w) {users : Users} (hrun : (w.currentContext caller users).runId = none)
    (htrace : (w.currentContext caller users).traceId.isSome = true) : (w.snapshot caller).traceId.isSome = true := by
  refine orText_none_of htrace ?_
  have hbase : (currentRuntimeContext (w.contexts.lookup caller) users).runId = none := (Option.or_eq_none_iff.1 hrun).1
  cases hcontext : w.contexts.lookup caller with
  | none => rfl
  | some context =>
    rw [hcontext] at hbase
    exact hstray context hcontext hbase

theorem aside_headerContext {w : World} (hstray : NoStrayTrace w) (users : Users) (made : RunId) :
    (w.headerContext caller users made true).1.runId.isSome = true ∧
      Aside w (w.headerContext caller users made true).2.1 (w.headerContext caller users made true).2.2 := by
  unfold World.headerContext
  dsimp only
  split
  · rename_i hnone
    have hrun : (w.currentContext caller users).runId = none := by simpa using hnone
    split
    · rename_i htrace
      exact aside_ensuredContext users made (Or.inr (trace_of_noStray hstray hrun htrace))
    · exact ⟨rfl, Aside.refl w⟩
  · rename_i hsome
    refine ⟨?_, Aside.refl w⟩
    cases hrun : (w.currentContext caller users).runId with
    | none =>
      rw [hrun] at hsome
      exact absurd rfl hsome
    | some runId => rfl

/-- What a call opens: nothing, or a scope of a run that is made for it, where the context variable holds no run. -/
theorem requestRunScope_cases {w : World} (hstray : NoStrayTrace w) (scope : ScopeId) (users : Users) (made : RunId) :
    (w.requestRunScope scope users made).1 = none ∧
        Aside w (w.requestRunScope scope users made).2.1 (w.requestRunScope scope users made).2.2 ∨
      (w.requestRunScope scope users made).1 = some scope ∧
        (w.contexts.lookup caller).bind RuntimeContext.runId = none ∧
        ∃ opened, opened.context.runId = some made ∧
          Entered w (w.requestRunScope scope users made).2.1 scope opened (w.requestRunScope scope users made).2.2 := by
  unfold World.requestRunScope
  dsimp only
  split
  · exact Or.inl ⟨rfl, Aside.refl w⟩
  · rename_i hnone
    have hrun : (w.currentContext caller users).runId = none := by simpa using hnone
    by_cases htrace : (w.currentContext caller users).traceId.isSome = true
    · obtain ⟨hsome, haside⟩ := aside_ensuredContext users made (Or.inr (trace_of_noStray hstray hrun htrace))
      rw [if_pos htrace, if_pos hsome]
      exact Or.inl ⟨rfl, haside⟩
    · rw [if_neg htrace, if_neg hnone]
      obtain ⟨hbase, hsnapshot⟩ := Option.or_eq_none_iff.1 hrun
      refine Or.inr ⟨rfl, ?_, _, ?_, entered_enter w scope {} users made⟩
      · cases hcontext : w.contexts.lookup caller with
        | none => rfl
        | some context =>
          rw [hcontext] at hbase
          exact hbase
      · show some (((w.snapshot caller).runId.or (none.or (currentRuntimeContext (w.contexts.lookup caller) users).runId)).getD made) = _
        rw [hbase, hsnapshot]
        rfl

/-! ## What every run keeps -/

/-- The run that is current is that of the innermost scope, and the token of each scope holds a context of the next one out; the outermost
one holds a context of the run at the bottom. -/
def Nested (scopes : Dict ScopeId OpenScope) (bottom : Option RunId) : List ScopeId → Option RunId → Prop
  | [], current => current = bottom
  | id :: rest, current => ∃ entry, scopes.lookup id = some entry ∧ entry.task = caller ∧ entry.scope.context.runId = current ∧
      current.isSome = true ∧ Nested scopes bottom rest (entry.token.bind RuntimeContext.runId)

/-- The run at the bottom is the first one, or that of the one stream that holds a scope, which was opened where no run was. -/
inductive Bottom (initial : Option RunId) (s : Streams) : Option RunId → Prop where
  | free (h : ∀ stream held, s.streams.lookup stream = some held → held.closed = false → held.scope = none) : Bottom initial s initial
  | held (stream : StreamId) (held : Stream) (id : ScopeId) (entry : OpenScope) (hinitial : initial = none)
      (hstream : s.streams.lookup stream = some held) (hopen : held.closed = false) (hscope : held.scope = some id)
      (hentry : s.world.scopes.lookup id = some entry)
      (htask : entry.task = caller) (htoken : entry.token.bind RuntimeContext.runId = none)
      (hsome : entry.scope.context.runId.isSome = true) (hapart : id ∉ s.stack)
      (hone : ∀ other stream', s.streams.lookup other = some stream' → stream'.closed = false → stream'.scope.isSome = true →
        other = stream) : Bottom initial s entry.scope.context.runId

structure Kept (initial : Option RunId) (s : Streams) : Prop where
  nodup : s.stack.Nodup
  nested : ∃ bottom, Bottom initial s bottom ∧ Nested s.world.scopes bottom s.stack s.currentRun

theorem Nested.congr {scopes scopes' : Dict ScopeId OpenScope} {bottom : Option RunId} {stack : List ScopeId} {current : Option RunId}
    (h : Nested scopes bottom stack current) (hsame : ∀ id ∈ stack, scopes'.lookup id = scopes.lookup id) :
    Nested scopes' bottom stack current := by
  induction stack generalizing current with
  | nil => exact h
  | cons id rest ih =>
    obtain ⟨entry, hid, htask, hrun, hsome, hrest⟩ := h
    exact ⟨entry, (hsame id List.mem_cons_self).trans hid, htask, hrun, hsome,
      ih hrest fun id' hid' => hsame id' (List.mem_cons_of_mem _ hid')⟩

theorem Nested.mem {scopes : Dict ScopeId OpenScope} {bottom : Option RunId} {stack : List ScopeId} {current : Option RunId}
    (h : Nested scopes bottom stack current) : ∀ id ∈ stack, id ∈ scopes := by
  induction stack generalizing current with
  | nil => exact fun _ hid => absurd hid List.not_mem_nil
  | cons id rest ih =>
    obtain ⟨entry, hid, -, -, -, hrest⟩ := h
    exact List.forall_mem_cons.2 ⟨AList.lookup_isSome.1 (by rw [hid]; rfl), ih hrest⟩

/-- Where no run is current, no scope is open. -/
theorem Nested.nil_of_none {scopes : Dict ScopeId OpenScope} {bottom : Option RunId} {stack : List ScopeId}
    (h : Nested scopes bottom stack none) : stack = [] ∧ bottom = none := by
  cases stack with
  | nil => exact ⟨rfl, h.symm⟩
  | cons id rest =>
    obtain ⟨-, -, -, -, hsome, -⟩ := h
    nomatch hsome

variable {initial : Option RunId} {s s' : Streams}

/-- What is at the bottom stays there when the streams stay and their scopes do. -/
theorem Bottom.congr {bottom : Option RunId} (h : Bottom initial s bottom) (hstreams : s'.streams = s.streams)
    (hscopes : ∀ id ∈ s.world.scopes, id ∉ s.stack → s'.world.scopes.lookup id = s.world.scopes.lookup id ∧ id ∉ s'.stack) :
    Bottom initial s' bottom := by
  cases h with
  | free h => exact .free (by rwa [hstreams])
  | held stream held id entry hinitial hstream hopen hscope hentry htask htoken hsome hapart hone =>
    obtain ⟨hsame, hapart'⟩ := hscopes id (AList.lookup_isSome.1 (by rw [hentry]; rfl)) hapart
    exact .held stream held id entry hinitial (by rwa [hstreams]) hopen hscope (hsame.trans hentry) htask htoken hsome hapart'
      (by rwa [hstreams])

theorem keptStreams_start (w : World) : Kept ((w.contexts.lookup caller).bind RuntimeContext.runId) { world := w } where
  nodup := List.nodup_nil
  nested := ⟨_, .free (fun _ _ h => nomatch h), rfl⟩

theorem currentRun_insert {w : World} {context : RuntimeContext} (h : w.contexts = s.world.contexts.insert caller context) :
    (w.contexts.lookup caller).bind RuntimeContext.runId = context.runId := by
  rw [h, AList.lookup_insert, Option.bind_some]

theorem kept_enter (h : Kept initial s) {id : ScopeId} (hfresh : id ∉ s.world.scopes) (arguments : RunArguments) (users : Users)
    (made : RunId) : Kept initial (s.next (.enter id arguments users made)) := by
  obtain ⟨bottom, hbottom, hnested⟩ := h.nested
  obtain ⟨scope, hentered⟩ : ∃ scope, Entered s.world (s.world.enter caller id arguments users made).1 id scope
      (s.world.enter caller id arguments users made).2 := ⟨_, entered_enter s.world id arguments users made⟩
  have hapart : id ∉ s.stack := fun hmem => hfresh (hnested.mem id hmem)
  have hother : ∀ id' ≠ id, (s.next (.enter id arguments users made)).world.scopes.lookup id' = s.world.scopes.lookup id' := by
    intro id' hne
    show (World.scopes (s.world.enter caller id arguments users made).1).lookup id' = _
    rw [hentered.scopes, Table.lookup_insert_eq, if_neg hne]
  refine ⟨List.nodup_cons.2 ⟨hapart, h.nodup⟩, bottom, hbottom.congr rfl ?_,
    ⟨caller, scope, s.world.contexts.lookup caller⟩, ?_, rfl, ?_, ?_, ?_⟩
  · intro id' hid' hstack
    have hne : id' ≠ id := by
      rintro rfl
      exact hfresh hid'
    refine ⟨hother id' hne, fun hmem => ?_⟩
    rcases List.mem_cons.1 hmem with heq | hmem
    · exact hne heq
    · exact hstack hmem
  · show (World.scopes (s.world.enter caller id arguments users made).1).lookup id = _
    rw [hentered.scopes]
    exact AList.lookup_insert _
  · exact (currentRun_insert hentered.contexts).symm
  · show ((World.contexts (s.world.enter caller id arguments users made).1).lookup caller |>.bind RuntimeContext.runId).isSome = true
    rw [currentRun_insert hentered.contexts]
    exact hentered.named
  · exact hnested.congr fun id' hid' => hother id' fun heq => hapart (heq ▸ hid')

theorem kept_leave (h : Kept initial s) (error : Bool) (users : Users) : Kept initial (s.next (.leave error users)) := by
  obtain ⟨bottom, hbottom, hnested⟩ := h.nested
  cases hstack : s.stack with
  | nil =>
    have hsame : s.next (.leave error users) = s := by simp only [Streams.next, Streams.turn, hstack]
    rwa [hsame]
  | cons id rest =>
    have hnodup := h.nodup
    rw [hstack] at hnested hnodup
    obtain ⟨entry, hid, htask, -, -, hrest⟩ := hnested
    have hleft := left_exit hid htask error users
    have hnext : s.next (.leave error users) = { s with world := (s.world.exit id error users).1, stack := rest } := by
      simp only [Streams.next, Streams.turn, hstack]
    rw [hnext]
    have hother : ∀ id' ≠ id, (s.world.exit id error users).1.scopes.lookup id' = s.world.scopes.lookup id' := by
      intro id' hne
      rw [hleft.scopes, Table.lookup_erase_eq, if_neg hne]
    refine ⟨(List.nodup_cons.1 hnodup).2, bottom, hbottom.congr rfl ?_, ?_⟩
    · intro id' _ hstack'
      rw [hstack] at hstack'
      exact ⟨hother id' fun heq => hstack' (heq ▸ List.mem_cons_self), fun hmem => hstack' (List.mem_cons_of_mem _ hmem)⟩
    · show Nested (s.world.exit id error users).1.scopes bottom rest
        (((s.world.exit id error users).1.contexts.lookup caller).bind RuntimeContext.runId)
      rw [hleft.contexts]
      exact hrest.congr fun id' hid' => hother id' fun heq => (List.nodup_cons.1 hnodup).1 (heq ▸ hid')

/-- A stream without a scope changes nothing at the bottom. -/
theorem Bottom.insert {bottom : Option RunId} (h : Bottom initial s bottom) {stream : StreamId} {added : Stream}
    (hadded : added.scope = none ∨ added.closed = true)
    (hfree : ∀ held, s.streams.lookup stream = some held → held.scope = none) (w : World)
    (hscopes : w.scopes = s.world.scopes) : Bottom initial { s with world := w, streams := s.streams.insert stream added } bottom := by
  have hnew : ∀ other stream', (s.streams.insert stream added).lookup other = some stream' → stream'.closed = false →
      stream'.scope.isSome = true → s.streams.lookup other = some stream' := by
    intro other stream' hlookup hopen hsome
    rcases Table.of_lookup_insert hlookup with ⟨rfl, rfl⟩ | ⟨-, hold⟩
    · rcases hadded with hnone | hclosed
      · rw [hnone] at hsome
        nomatch hsome
      · rw [hclosed] at hopen
        nomatch hopen
    · exact hold
  cases h with
  | free h =>
    refine .free fun other stream' hlookup hopen => ?_
    cases hscope : stream'.scope with
    | none => rfl
    | some id =>
      have hold := h other stream' (hnew other stream' hlookup hopen (by rw [hscope]; rfl)) hopen
      rw [hscope] at hold
      nomatch hold
  | held holder held id entry hinitial hstream hopen hscope hentry htask htoken hsome hapart hone =>
    refine .held holder held id entry hinitial ?_ hopen hscope (by rwa [hscopes]) htask htoken hsome hapart
      fun other stream' hlookup hopen' hsome' => hone other stream' (hnew other stream' hlookup hopen' hsome') hopen' hsome'
    show (s.streams.insert stream added).lookup holder = some held
    rw [Table.lookup_insert_eq, if_neg ?_]
    · exact hstream
    · rintro rfl
      rw [hfree held hstream] at hscope
      nomatch hscope

/-! ## Calls and their release -/

/-- What a call that opens nothing leaves: the context variable and the scopes, and a stream without a scope. -/
structure Joined (s s' : Streams) (stream : StreamId) (added : Stream) (events : List PromptRailEvent) : Prop where
  aside : Aside s.world s'.world events
  streams : s'.streams = s.streams.insert stream added
  stack : s'.stack = s.stack
  scope : added.scope = none

/-- What a call leaves that opens a scope of its own: the scope of a stream that is open, or nothing but a call that is done with. -/
structure Opened (s s' : Streams) (stream : StreamId) (scope : ScopeId) (made : RunId) (added : Stream)
    (events : List PromptRailEvent) : Prop where
  streams : s'.streams = s.streams.insert stream added
  stack : s'.stack = s.stack
  free : s.currentRun = none
  held : added.closed = false ∧ added.scope = some scope ∧ (∀ e ∈ events, e.type ≠ runEndType) ∧ s'.currentRun = some made ∧
      (∃ opened : RunContext, opened.context.runId = some made ∧
        s'.world.scopes = s.world.scopes.insert scope ⟨caller, opened, s.world.contexts.lookup caller⟩) ∨
    added.closed = true ∧ s'.currentRun = none ∧ ∀ e ∈ events, e.type = runEndType → e.runId = made

theorem call_cases (hstray : NoStrayTrace s.world) (stream : StreamId) (scope : ScopeId) (users : Users) (made spare : RunId)
    (started ended : Tracer) (outcome : Outcome) :
    ∃ added, Joined s (s.call stream scope users made spare started ended outcome).1 stream added
        (s.call stream scope users made spare started ended outcome).2 ∨
      Opened s (s.call stream scope users made spare started ended outcome).1 stream scope made added
        (s.call stream scope users made spare started ended outcome).2 := by
  have hquiet : ∀ {es fs : List PromptRailEvent}, (∀ e ∈ es, e.type ≠ runEndType) → (∀ e ∈ fs, e.type ≠ runEndType) →
      ∀ e ∈ es ++ fs, e.type ≠ runEndType := fun hes hfs => List.forall_mem_append.2 ⟨hes, hfs⟩
  unfold Streams.call
  dsimp only
  generalize hopened : s.world.requestRunScope scope users made = opened
  obtain ⟨hcontexts, hscopes, -⟩ := traced_same opened.2.1 started
  rcases requestRunScope_cases hstray scope users made with ⟨hnone, haside⟩ | ⟨hsome, hbase, context, hmade, hentered⟩
  · rw [hopened] at hnone haside
    have hstray' : NoStrayTrace (opened.2.1.traced started) := by
      unfold NoStrayTrace
      rw [hcontexts, haside.contexts]
      exact hstray
    have hheaded := (aside_headerContext hstray' users spare).2
    generalize (opened.2.1.traced started).headerContext caller users spare true = headed at hheaded
    refine ⟨⟨headed.1.runId, none, none, outcome ≠ .stream⟩, Or.inl ?_⟩
    have hjoined : Aside s.world headed.2.1 (opened.2.2 ++ headed.2.2) :=
      ⟨hheaded.contexts.trans (hcontexts.trans haside.contexts), hheaded.scopes.trans (hscopes.trans haside.scopes),
        hquiet haside.quiet hheaded.quiet⟩
    rw [hnone]
    cases outcome <;> exact ⟨hjoined, rfl, rfl, rfl⟩
  · rw [hopened] at hsome hentered
    have hstray' : NoStrayTrace (opened.2.1.traced started) := by
      intro c hc hnone
      rw [hcontexts, hentered.contexts, AList.lookup_insert] at hc
      rw [← Option.some.inj hc, hmade] at hnone
      nomatch hnone
    have hheaded := (aside_headerContext hstray' users spare).2
    generalize (opened.2.1.traced started).headerContext caller users spare true = headed at hheaded
    have hinserted : headed.2.1.scopes = s.world.scopes.insert scope ⟨caller, context, s.world.contexts.lookup caller⟩ :=
      hheaded.scopes.trans (hscopes.trans hentered.scopes)
    have hin : headed.2.1.contexts = s.world.contexts.insert caller context.context :=
      hheaded.contexts.trans (hcontexts.trans hentered.contexts)
    have hrun : (headed.2.1.contexts.lookup caller).bind RuntimeContext.runId = some made := by
      rw [currentRun_insert hin, hmade]
    have hlookup : (headed.2.1.traced ended).scopes.lookup scope = some ⟨caller, context, s.world.contexts.lookup caller⟩ := by
      rw [(traced_same _ _).2.1, hinserted]
      exact AList.lookup_insert _
    have hclosed : ∀ error, Opened s
        { s with
          world := ((headed.2.1.traced ended).exit scope error users).1
          streams := s.streams.insert stream ⟨headed.1.runId, some scope, some made, true⟩ } stream scope made
        ⟨headed.1.runId, some scope, some made, true⟩
        (opened.2.2 ++ headed.2.2 ++ ((headed.2.1.traced ended).exit scope error users).2) := by
      intro error
      have hleft := left_exit hlookup rfl error users
      refine ⟨rfl, rfl, hbase, Or.inr ⟨rfl, ?_, ?_⟩⟩
      · show (((headed.2.1.traced ended).exit scope error users).1.contexts.lookup caller).bind RuntimeContext.runId = none
        rw [hleft.contexts]
        exact hbase
      · intro e he hend
        rcases List.mem_append.1 he with he | he
        · exact absurd hend (hquiet hentered.quiet hheaded.quiet e he)
        · obtain ⟨-, hrun', -⟩ := hleft.ended e he hend
          exact Option.some.inj (hrun'.symm.trans hmade)
    refine ⟨⟨headed.1.runId, some scope, some made, outcome ≠ .stream⟩, Or.inr ?_⟩
    have himplicit : (headed.2.1.scopes.lookup scope).bind (fun entry => entry.scope.context.runId) = some made := by
      rw [hinserted, AList.lookup_insert]
      exact hmade
    simp only [hsome, Option.bind_some, himplicit]
    cases outcome with
    | stream =>
      exact ⟨rfl, rfl, hbase, Or.inl ⟨rfl, rfl, hquiet hentered.quiet hheaded.quiet, hrun, context, hmade, hinserted⟩⟩
    | plain => exact hclosed false
    | raised => exact hclosed true

theorem kept_call (h : Kept initial s) {stream : StreamId} (hstream : stream ∉ s.streams) (hstray : NoStrayTrace s.world)
    (scope : ScopeId) (users : Users) (made spare : RunId) (started ended : Tracer) (outcome : Outcome) :
    Kept initial (s.call stream scope users made spare started ended outcome).1 := by
  obtain ⟨bottom, hbottom, hnested⟩ := h.nested
  have hfresh : ∀ held, s.streams.lookup stream = some held → held.scope = none := fun held hlookup =>
    absurd (AList.lookup_isSome.1 (by rw [hlookup]; rfl)) hstream
  obtain ⟨added, hcall⟩ := call_cases hstray stream scope users made spare started ended outcome
  generalize (s.call stream scope users made spare started ended outcome).1 = s' at hcall ⊢
  generalize (s.call stream scope users made spare started ended outcome).2 = events at hcall
  obtain ⟨world, streams, stack⟩ := s'
  rcases hcall with ⟨haside, hstreams, hstack, hnone⟩ | ⟨hstreams, hstack, hfree, hheld⟩
  · dsimp only at haside hstreams hstack
    subst hstreams hstack
    refine ⟨h.nodup, bottom, hbottom.insert (Or.inl hnone) hfresh world haside.scopes, ?_⟩
    show Nested world.scopes bottom s.stack ((world.contexts.lookup caller).bind RuntimeContext.runId)
    rw [haside.scopes, haside.contexts]
    exact hnested
  · dsimp only at hstreams hstack
    subst hstreams hstack
    rw [hfree] at hnested
    obtain ⟨hstack, rfl⟩ := hnested.nil_of_none
    refine ⟨h.nodup, ?_⟩
    dsimp only
    rw [hstack]
    -- where no run is current, no stream holds a scope
    have hunheld : initial = none ∧ ∀ other stream', s.streams.lookup other = some stream' → stream'.closed = false →
        stream'.scope = none := by
      generalize hnone : (none : Option RunId) = bottom at hbottom
      cases hbottom with
      | free hunheld => exact ⟨rfl, hunheld⟩
      | held _ _ _ _ _ _ _ _ _ _ _ hsome =>
        rw [← hnone] at hsome
        nomatch hsome
    obtain ⟨rfl, hunheld⟩ := hunheld
    rcases hheld with ⟨hopen, hadded, -, hcurrent, opened, hmade, hscopes⟩ | ⟨hclosed, hcurrent, -⟩
    · refine ⟨_, .held stream added scope ⟨caller, opened, s.world.contexts.lookup caller⟩ rfl (AList.lookup_insert _) hopen hadded ?_ rfl
        hfree ?_ ?_ ?_, hcurrent.trans hmade.symm⟩
      · dsimp only at hscopes ⊢
        rw [hscopes]
        exact AList.lookup_insert _
      · dsimp only
        rw [hmade]
        rfl
      · exact List.not_mem_nil
      · intro other stream' hlookup hopen' hsome
        rcases Table.of_lookup_insert hlookup with ⟨rfl, -⟩ | ⟨-, hold⟩
        · rfl
        · rw [hunheld other stream' hold hopen'] at hsome
          nomatch hsome
    · refine ⟨none, .free fun other stream' hlookup hopen => ?_, hcurrent⟩
      rcases Table.of_lookup_insert hlookup with ⟨rfl, rfl⟩ | ⟨-, hold⟩
      · rw [hclosed] at hopen
        nomatch hopen
      · exact hunheld other stream' hold hopen

/-- What a stream does when it is done: nothing, if it was done or is not there; else it is closed, and its scope is left, if it holds
one. -/
theorem release_cases (s : Streams) (stream : StreamId) (error : Bool) (users : Users) (ended : Tracer) :
    s.release stream error users ended = (s, []) ∨
      ∃ held, s.streams.lookup stream = some held ∧ held.closed = false ∧
        (held.scope = none ∧ s.release stream error users ended = ({ s with
            world := s.world.traced ended
            streams := s.streams.insert stream { held with closed := true } }, []) ∨
          ∃ id, held.scope = some id ∧ s.release stream error users ended = ({ s with
            world := ((s.world.traced ended).exit id error users).1
            streams := s.streams.insert stream { held with closed := true } }, ((s.world.traced ended).exit id error users).2)) := by
  unfold Streams.release
  cases hstream : s.streams.lookup stream with
  | none => exact Or.inl rfl
  | some held =>
    dsimp only
    cases hclosed : held.closed with
    | true => exact Or.inl rfl
    | false =>
      refine Or.inr ⟨held, rfl, hclosed, ?_⟩
      cases hscope : held.scope with
      | none => exact Or.inl ⟨rfl, rfl⟩
      | some id => exact Or.inr ⟨id, rfl, rfl⟩

/-- The scope of a stream that is not done, and what its end leaves. -/
theorem left_release (h : Kept initial s) {stream : StreamId} {held : Stream} {id : ScopeId} (hstream : s.streams.lookup stream = some held)
    (hopen : held.closed = false) (hscope : held.scope = some id) (error : Bool) (users : Users) (ended : Tracer) :
    ∃ entry, s.world.scopes.lookup id = some entry ∧ initial = none ∧ entry.token.bind RuntimeContext.runId = none ∧
      (∀ other stream', s.streams.lookup other = some stream' → stream'.closed = false → stream'.scope.isSome = true →
        other = stream) ∧
      Left s.world ((s.world.traced ended).exit id error users).1 id entry ((s.world.traced ended).exit id error users).2 := by
  obtain ⟨bottom, hbottom, -⟩ := h.nested
  obtain ⟨-, hscopes, hclient⟩ := traced_same s.world ended
  cases hbottom with
  | free hunheld =>
    rw [hunheld stream held hstream hopen] at hscope
    nomatch hscope
  | held holder stream' id' entry hinitial hholder hopen' hscope' hentry htask htoken hsome hapart hone =>
    obtain rfl := hone stream held hstream hopen (by rw [hscope]; rfl)
    obtain rfl := Option.some.inj (hstream.symm.trans hholder)
    obtain rfl := Option.some.inj (hscope.symm.trans hscope')
    have hleft := left_exit (w := s.world.traced ended) (by rw [hscopes]; exact hentry) htask error users
    exact ⟨entry, hentry, hinitial, htoken, hone, hleft.contexts, by rw [hleft.scopes, hscopes], by rw [← hclient]; exact hleft.ended,
      by rw [← hclient]; exact hleft.reported⟩

theorem kept_release (h : Kept initial s) {stream : StreamId} (hlast : ReleasesLast s stream) (error : Bool) (users : Users)
    (ended : Tracer) : Kept initial (s.release stream error users ended).1 := by
  obtain ⟨bottom, hbottom, hnested⟩ := h.nested
  obtain ⟨hcontexts, hscopes, -⟩ := traced_same s.world ended
  rcases release_cases s stream error users ended with hsame | ⟨held, hstream, hopen, ⟨hnone, hclosed⟩ | ⟨id, hscope, hclosed⟩⟩
  · rwa [hsame]
  · rw [hclosed]
    refine ⟨h.nodup, bottom, hbottom.insert (Or.inr rfl) ?_ _ hscopes, ?_⟩
    · intro held' hheld
      rwa [← Option.some.inj (hstream.symm.trans hheld)]
    · show Nested (s.world.traced ended).scopes bottom s.stack
        (((s.world.traced ended).contexts.lookup caller).bind RuntimeContext.runId)
      rw [hscopes, hcontexts]
      exact hnested
  · rw [hclosed]
    obtain ⟨entry, -, rfl, htoken, hone, hleft⟩ := left_release h hstream hopen hscope error users ended
    obtain ⟨hstack, -⟩ := hlast held hstream hopen id hscope
    refine ⟨h.nodup, none, .free ?_, ?_⟩
    · intro other stream' hlookup hopen'
      rcases Table.of_lookup_insert hlookup with ⟨rfl, rfl⟩ | ⟨hne, hold⟩
      · nomatch hopen'
      · cases hscope' : stream'.scope with
        | none => rfl
        | some id' => exact absurd (hone other stream' hold hopen' (by rw [hscope']; rfl)) hne
    · show Nested _ none s.stack ((((s.world.traced ended).exit id error users).1.contexts.lookup caller).bind RuntimeContext.runId)
      rw [hstack, hleft.contexts, htoken]
      rfl

/-- Every step that is orderly keeps the nesting. -/
theorem kept_next (h : Kept initial s) {a : StreamStep} (hwell : StreamsWellFormed s a) (hplain : CallsPlainly s a)
    (horderly : Orderly s a) : Kept initial (s.next a) := by
  cases a with
  | enter id arguments users made => exact kept_enter h hwell arguments users made
  | leave error users => exact kept_leave h error users
  | call stream scope users made spare started ended outcome =>
    exact kept_call h hwell.1 hplain scope users made spare started ended outcome
  | next stream pulled users ended =>
    cases pulled with
    | item => exact h
    | exhausted => exact kept_release h (horderly (by decide)) false users ended
    | failed => exact kept_release h (horderly (by decide)) true users ended
  | close stream users ended => exact kept_release h horderly false users ended
  | trace tracer =>
    obtain ⟨bottom, hbottom, hnested⟩ := h.nested
    obtain ⟨hcontexts, hscopes, -⟩ := traced_same s.world tracer
    refine ⟨h.nodup, bottom, hbottom.congr rfl fun id hid hstack => ⟨?_, hstack⟩, ?_⟩
    · show (s.world.traced tracer).scopes.lookup id = _
      rw [hscopes]
    · show Nested (s.world.traced tracer).scopes bottom s.stack
        (((s.world.traced tracer).contexts.lookup caller).bind RuntimeContext.runId)
      rw [hscopes, hcontexts]
      exact hnested

/-! ## What is restored -/

theorem restores_of_kept (h : Kept initial s) {ends : Ends} (hends : ∀ e ∈ ends, e.2 = 0) : Restores initial s ends := by
  obtain ⟨bottom, hbottom, hnested⟩ := h.nested
  refine ⟨fun id rest hstack => ?_, fun hstack hdone => ?_, hends⟩
  · rw [hstack] at hnested
    obtain ⟨entry, hid, -, hrun, hsome, -⟩ := hnested
    exact ⟨entry, hid, by rwa [hrun], hrun.symm⟩
  · rw [hstack] at hnested
    cases hbottom with
    | free => exact hnested
    | held stream held id entry hinitial hstream hopen =>
      have hclosed := hdone ⟨stream, held⟩ (AList.mem_lookup_iff.1 hstream)
      rw [hopen] at hclosed
      nomatch hclosed

/-- A run that no request carries has no stream. -/
theorem unfinished_eq_zero {streams : Dict StreamId Stream} {runId : RunId}
    (h : ∀ stream held, streams.lookup stream = some held → held.closed = false → held.carried ≠ some runId) :
    unfinished streams runId = 0 :=
  Table.total_eq_zero fun stream held hlookup => if_neg fun hboth => h stream held hlookup hboth.1 hboth.2

/-- Every end that an orderly step reports is of a run that no stream carries. -/
theorem quiet_of_orderly (h : Kept initial s) {a : StreamStep} (hwell : StreamsWellFormed s a) (hplain : CallsPlainly s a)
    (horderly : Orderly s a) :
    ∀ e ∈ (s.turn a).2, e.type = runEndType → Implicit (s.next a).streams e.runId → unfinished (s.next a).streams e.runId = 0 := by
  have hrelease : ∀ {stream error users ended}, ReleasesLast s stream → ∀ e ∈ (s.release stream error users ended).2,
      e.type = runEndType → Implicit (s.release stream error users ended).1.streams e.runId →
      unfinished (s.release stream error users ended).1.streams e.runId = 0 := by
    intro stream error users ended hlast e he hend himplicit
    rcases release_cases s stream error users ended with hsame | ⟨held, hstream, hopen, ⟨-, hclosed⟩ | ⟨id, hscope, hclosed⟩⟩
    · rw [hsame] at he
      nomatch he
    · rw [hclosed] at he
      nomatch he
    · rw [hclosed] at he himplicit ⊢
      obtain ⟨entry, hentry, -, -, -, hleft⟩ := left_release h hstream hopen hscope error users ended
      obtain ⟨howns, hrun, hnew⟩ := hleft.ended e he hend
      exact (hlast held hstream hopen id hscope).2 entry hentry howns e.runId hrun hnew himplicit
  intro e he hend himplicit
  cases a with
  | enter id arguments users made => exact absurd hend ((entered_enter s.world id arguments users made).quiet e he)
  | leave error users =>
    simp only [Streams.turn, Streams.next] at he himplicit ⊢
    cases hstack : s.stack with
    | nil =>
      rw [hstack] at he
      nomatch he
    | cons id rest =>
      obtain ⟨bottom, -, hnested⟩ := h.nested
      rw [hstack] at hnested
      obtain ⟨entry, hid, htask, -⟩ := hnested
      simp only [hstack] at he himplicit ⊢
      obtain ⟨howns, hrun, hnew⟩ := (left_exit hid htask error users).ended e he hend
      exact horderly id (by rw [hstack]; exact Option.mem_some_self id) entry hid howns e.runId hrun hnew himplicit
  | call stream scope users made spare started ended outcome =>
    obtain ⟨hfresh, hmade⟩ := hwell
    obtain ⟨added, hcall⟩ := call_cases hplain stream scope users made spare started ended outcome
    rcases hcall with hjoined | hopened
    · exact absurd hend (hjoined.aside.quiet e he)
    · rcases hopened.held with ⟨-, -, hquiet, -⟩ | ⟨hclosed, -, hends⟩
      · exact absurd hend (hquiet e he)
      · rw [hends e he hend]
        show unfinished (s.call stream scope users made spare started ended outcome).1.streams made = 0
        rw [hopened.streams]
        refine unfinished_eq_zero fun other held hlookup hopen => ?_
        rcases Table.of_lookup_insert hlookup with ⟨rfl, rfl⟩ | ⟨-, hold⟩
        · rw [hclosed] at hopen
          nomatch hopen
        · exact hmade ⟨other, held⟩ (AList.mem_lookup_iff.1 hold)
  | next stream pulled users ended =>
    cases pulled with
    | item => nomatch he
    | exhausted => exact hrelease (horderly (by decide)) e he hend himplicit
    | failed => exact hrelease (horderly (by decide)) e he hend himplicit
  | close stream users ended => exact hrelease horderly e he hend himplicit
  | trace tracer => nomatch he

theorem ends_of_orderly (h : Kept initial s) {a : StreamStep} (hwell : StreamsWellFormed s a) (hplain : CallsPlainly s a)
    (horderly : Orderly s a) {ends : Ends} (hends : ∀ e ∈ ends, e.2 = 0) : ∀ e ∈ observeEnds ends s a (s.next a), e.2 = 0 := by
  refine List.forall_mem_append.2 ⟨List.forall_mem_map.2 fun e he => ?_, hends⟩
  obtain ⟨he, hreported⟩ := List.mem_filter.1 he
  obtain ⟨hend, himplicit⟩ := of_decide_eq_true hreported
  exact quiet_of_orderly h hwell hplain horderly e he hend himplicit

/-- An end that is reported is counted. -/
theorem zero_of_ends {a : StreamStep} {ends : Ends} (hends : ∀ e ∈ observeEnds ends s a (s.next a), e.2 = 0) {runId : RunId}
    (h : ∃ e ∈ (s.turn a).2, e.ends runId) (himplicit : Implicit (s.next a).streams runId) : unfinished (s.next a).streams runId = 0 := by
  obtain ⟨e, he, hend, rfl⟩ := h
  refine hends (e.runId, unfinished (s.next a).streams e.runId) (List.mem_append_left _ (List.mem_map.2 ⟨e, ?_, rfl⟩))
  exact List.mem_filter.2 ⟨he, decide_eq_true ⟨hend, himplicit⟩⟩

/-- A stream that is released without breaking what is restored is released last. -/
theorem releasesLast_of_restores (h : Kept initial s) {stream : StreamId} {error : Bool} {users : Users} {ended : Tracer}
    (hscoped : ∀ id rest, s.stack = id :: rest → (s.release stream error users ended).1.currentRun.isSome = true)
    (hquiet : ∀ runId, (∃ e ∈ (s.release stream error users ended).2, e.ends runId) →
      Implicit (s.release stream error users ended).1.streams runId →
      unfinished (s.release stream error users ended).1.streams runId = 0) : ReleasesLast s stream := by
  intro held hstream hopen id hscope
  have hrelease : s.release stream error users ended = ({ s with
      world := ((s.world.traced ended).exit id error users).1
      streams := s.streams.insert stream { held with closed := true } }, ((s.world.traced ended).exit id error users).2) := by
    simp only [Streams.release, hstream, hopen, hscope, Bool.false_eq_true, if_false]
  rw [hrelease] at hscoped hquiet
  obtain ⟨entry, hentry, -, htoken, -, hleft⟩ := left_release h hstream hopen hscope error users ended
  constructor
  · cases hstack : s.stack with
    | nil => rfl
    | cons id' rest =>
      have hsome := hscoped id' rest hstack
      change ((((s.world.traced ended).exit id error users).1.contexts.lookup caller).bind RuntimeContext.runId).isSome = true at hsome
      rw [hleft.contexts, htoken] at hsome
      nomatch hsome
  · intro entry' hentry' howns runId hrun hnew himplicit
    obtain rfl := Option.some.inj (hentry.symm.trans hentry')
    exact hquiet runId (hleft.reported howns runId hrun hnew) himplicit

/-- A step after which everything is restored is orderly. -/
theorem orderly_of_restores (h : Kept initial s) {a : StreamStep} {ends : Ends}
    (hafter : Restores initial (s.next a) (observeEnds ends s a (s.next a))) : Orderly s a := by
  have hscoped : (s.next a).stack = s.stack → ∀ id rest, s.stack = id :: rest → (s.next a).currentRun.isSome = true := by
    intro hsame id rest hstack
    obtain ⟨entry, -, hsome, hcurrent⟩ := hafter.inScope id rest (hsame.trans hstack)
    rwa [hcurrent]
  have hquiet : ∀ runId, (∃ e ∈ (s.turn a).2, e.ends runId) → Implicit (s.next a).streams runId →
      unfinished (s.next a).streams runId = 0 := fun _ => zero_of_ends hafter.ended
  have hstack : ∀ stream error users ended, (s.release stream error users ended).1.stack = s.stack := by
    intro stream error users ended
    rcases release_cases s stream error users ended with hsame | ⟨held, -, -, ⟨-, hsame⟩ | ⟨id, -, hsame⟩⟩ <;> rw [hsame]
  cases a with
  | enter => trivial
  | leave error users =>
    intro id hid entry hentry howns runId hrun hnew himplicit
    obtain ⟨bottom, -, hnested⟩ := h.nested
    cases hcons : s.stack with
    | nil =>
      rw [hcons] at hid
      nomatch hid
    | cons top rest =>
      rw [hcons] at hid hnested
      obtain rfl := Option.some.inj hid
      obtain ⟨entry', hentry', htask, -⟩ := hnested
      obtain rfl := Option.some.inj (hentry.symm.trans hentry')
      have hevents : (s.turn (.leave error users)).2 = (s.world.exit top error users).2 := by
        simp only [Streams.turn, hcons]
      have hstreams : (s.next (.leave error users)).streams = s.streams := by
        simp only [Streams.next, Streams.turn, hcons]
      rw [← hstreams] at himplicit ⊢
      exact hquiet runId (by rw [hevents]; exact (left_exit hentry htask error users).reported howns runId hrun hnew) himplicit
  | call => trivial
  | next stream pulled users ended =>
    intro hpulled
    cases pulled with
    | item => exact absurd rfl hpulled
    | exhausted => exact releasesLast_of_restores h (hscoped (hstack _ _ _ _)) hquiet
    | failed => exact releasesLast_of_restores h (hscoped (hstack _ _ _ _)) hquiet
  | close stream users ended => exact releasesLast_of_restores h (hscoped (hstack _ _ _ _)) hquiet
  | trace => trivial

end StreamsAux

open StreamsAux

def firstRun : RunId := ⟨"run_1", run_1_nonempty⟩

/-- A call that returns a stream, without a tracer. -/
def streamed (stream : StreamId) : StreamStep :=
  .call stream stream {} firstRun ⟨"run_2", run_2_nonempty⟩ {} {} .stream

/-- Two streams, of which the one that was opened last is done first. -/
def lastOpenedFirst : List StreamStep :=
  [streamed 0, .call 1 1 {} ⟨"run_2", run_2_nonempty⟩ ⟨"run_3", run_3_nonempty⟩ {} {} .stream, .close 1 {} {},
    .next 0 .exhausted {} {}]

/-- The stream that was opened first is closed first. -/
def firstOpenedFirst : List StreamStep :=
  [streamed 0, .call 1 1 {} ⟨"run_2", run_2_nonempty⟩ ⟨"run_3", run_3_nonempty⟩ {} {} .stream, .close 0 {} {}]

end Runtime

end PromptRail
