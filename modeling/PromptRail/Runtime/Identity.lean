import PromptRail.Runtime.Headers
import PromptRail.Tracing.Registry

/-!
# The run of a call

The run that a call belongs to is found three times: the span processor gives that of the span's trace, to which the client prepends what
is missing of `run_`; an event of the application and the headers of a request take that of the scope around them, and that of the trace
where there is none. They find one run exactly if the scope around the call is of the run of the trace, and the run is named as the client
names it.
-/

namespace PromptRail

namespace Runtime

open PyText (Text)
open Table (Dict)
open Tracing (SpanId TraceId Span)
open Transition

/-! ## Calls -/

inductive Step where
  | scope (a : ScopeStep)
  | startSpan (task : TaskId) (span : Span) (facts : SpanFacts) (users : Users) (made : RunId)
  | endSpan (task : TaskId) (span : Span) (facts : SpanFacts) (users : Users) (made : RunId)
  /-- A task makes a span the current one, or none. -/
  | switch (task : TaskId) (span : Option Span)
  /-- A task emits an event of its own and injects the headers of a request. -/
  | call (task : TaskId) (users : Users) (made : RunId) (type : Text) (name status : Option Text)

/-- What the processor is told by a step of a span. -/
def World.spanStep (w : World) : Step → Option Tracing.Step
  | .startSpan task span _ users made => some (.onStart span (w.input task users made))
  | .endSpan task span _ users made => some (.onEnd span (w.input task users made))
  | .scope _ | .switch _ _ | .call _ _ _ _ _ _ => none

def World.next (w : World) (a : Step) : World :=
  match a with
  | .scope a => (w.scopeTurn a).1
  | .startSpan task span facts users made => (w.processSpan task users facts (.onStart span (w.input task users made))).1
  | .endSpan task span facts users made => (w.processSpan task users facts (.onEnd span (w.input task users made))).1
  | .switch task none => { w with current := w.current.erase task }
  | .switch task (some span) => { w with current := w.current.insert task span }
  | .call task users made type name status => ((w.emit task users made type name status).2.1.injectHeaders task users made true).2.1

/-- What was found at a call: the span that was current, the run its trace is mapped to, the run of the event and the header. -/
structure Point where
  spanId : SpanId
  mapped : Option RunId
  emitted : Option RunId
  header : Option Text
deriving DecidableEq

/-- The spans that were seen, and the calls. -/
structure Seen where
  spans : Tracing.History := {}
  points : List Point := []

/-- What is found at a call with a span of these identifiers current. -/
def World.point (w : World) (task : TaskId) (users : Users) (made : RunId) (type : Text) (name status : Option Text)
    (ids : TraceId × SpanId) : Point :=
  let emitted := w.emit task users made type name status
  { spanId := ids.2
    mapped := w.registry.traceToRun.lookup ids.1
    emitted := emitted.1.map PromptRailEvent.runId
    header := (emitted.2.1.injectHeaders task users made true).1 }

def observeCalls (seen : Seen) (w : World) (a : Step) (w' : World) : Seen :=
  match a with
  | .call task users made type name status =>
    match (w.current.lookup task).bind Span.ids with
    | none => seen
    | some ids => { seen with points := w.point task users made type name status ids :: seen.points }
  | .scope _ | .startSpan _ _ _ _ _ | .endSpan _ _ _ _ _ | .switch _ _ =>
    match w.spanStep a with
    | none => seen
    | some b => { seen with spans := Tracing.observe seen.spans w.registry b w'.registry }

/-- A tracer's spans, and calls where a span is current that was registered and has not ended. -/
def CallsWellFormed (seen : Seen) (w : World) (a : Step) : Prop :=
  match a with
  | .call task _ _ _ _ _ => ∃ ids, (w.current.lookup task).bind Span.ids = some ids ∧ seen.spans.active.lookup ids.2 = some ids.1
  | .scope _ | .startSpan _ _ _ _ _ | .endSpan _ _ _ _ _ | .switch _ _ => ∀ b, w.spanStep a = some b → Tracing.WellFormed seen.spans b

/-- A call is in a scope of the run of the trace, or in none, and the run is named as the client names it. -/
def CarriesRun (w : World) : Step → Prop
  | .call task _ _ _ _ _ => ∀ runId, (w.snapshot task).runId = some runId →
      (∀ own ∈ (w.contexts.lookup task).bind RuntimeContext.runId, own = runId) ∧ runMarker.isPrefixOf runId.text.toList = true
  | .scope _ | .startSpan _ _ _ _ _ | .endSpan _ _ _ _ _ | .switch _ _ => True

/-- At a call there is one run: that of its trace is that of its event, that of its headers, where they can carry it, and that of every
event that is emitted of its span. -/
def Point.OneRun (point : Point) (spans : Tracing.History) : Prop :=
  ∃ runId, point.mapped = some runId ∧ point.emitted = some runId ∧ (Printable runId → point.header = some runId.text.toList) ∧
    ∀ e p, (e, p) ∈ spans.events → e.spanId = point.spanId →
      ∀ userId facts, ∀ event ∈ observeOtelEvent userId facts e, event.runId = runId

def OneRun (seen : Seen) : Prop := ∀ point ∈ seen.points, point.OneRun seen.spans

namespace IdentityAux

open Tracing.RegistryAux

/-! ## The run of an event -/

theorem runId_observeOtelEvent {userId : Option Text} {facts : SpanFacts} {e : Tracing.Event} {event : PromptRailEvent}
    (h : event ∈ observeOtelEvent userId facts e) : event.runId = normalizeRunId e.runId := by
  unfold observeOtelEvent at h
  rcases List.mem_cons.1 h with rfl | h
  · rfl
  · split at h
    · rw [List.mem_singleton.1 h]
      rfl
    · nomatch h

theorem normalizeRunId_eq_iff (runId : RunId) : normalizeRunId runId = runId ↔ runMarker.isPrefixOf runId.text.toList = true := by
  unfold normalizeRunId
  split
  · rename_i h
    exact ⟨fun _ => h, fun _ => rfl⟩
  · rename_i h
    refine ⟨fun heq => ?_, fun hmarked => absurd hmarked h⟩
    have hlength := congrArg (fun r : RunId => r.text.length) heq
    simp only [String.length_append] at hlength
    have : "run_".length = 4 := rfl
    omega

theorem runId_currentRuntimeContext (existing : Option RuntimeContext) (users : Users) :
    (currentRuntimeContext existing users).runId = existing.bind RuntimeContext.runId := by
  cases existing <;> rfl

theorem runId_currentContext (w : World) (task : TaskId) (users : Users) :
    (w.currentContext task users).runId = ((w.contexts.lookup task).bind RuntimeContext.runId).or (w.snapshot task).runId := by
  simp only [World.currentContext, runId_currentRuntimeContext]

/-- Where a run is known, none is ensured. -/
theorem ensuredContext_known {w : World} {task : TaskId} {users : Users} {runId : RunId} (made : RunId)
    (h : (w.currentContext task users).runId = some runId) :
    w.ensuredContext task users made = (w.currentContext task users, w, []) := by
  have hknown : (currentRuntimeContext (w.contexts.lookup task) users).runId.or (w.snapshot task).runId = some runId := h
  simp only [World.ensuredContext, hknown]

/-- What is found at a call where a run is known, which leaves the world as it is. -/
theorem call_known {w : World} {task : TaskId} {users : Users} {runId : RunId} (h : (w.currentContext task users).runId = some runId)
    (made : RunId) (type : Text) (name status : Option Text) (ids : TraceId × SpanId) :
    w.next (.call task users made type name status) = w ∧
      w.point task users made type name status ids =
        { spanId := ids.2
          mapped := w.registry.traceToRun.lookup ids.1
          emitted := some runId
          header := some (safeHeaderValue runId.text.toList) } := by
  simp only [World.next, World.point, World.emit, ensuredContext_known made h, World.injectHeaders, World.headerContext,
    RuntimeContext.runIdHeader, h, Option.isNone_some, Bool.and_false, Bool.false_eq_true, if_false, Option.map_some, RuntimeContext.event]
  exact ⟨trivial, trivial⟩

/-! ## The registry -/

theorem registry_dispatch (w : World) (task : TaskId) (users : Users) (facts : SpanFacts) (callbacks : List Tracing.Callback) :
    (w.dispatch task users facts callbacks).1.registry = w.registry := by
  induction callbacks generalizing w with
  | nil => rfl
  | cons callback callbacks ih =>
    simp only [World.dispatch]
    rw [ih]
    cases callback <;> rfl

theorem registry_processSpan (w : World) (task : TaskId) (users : Users) (facts : SpanFacts) (a : Tracing.Step) :
    (w.processSpan task users facts a).1.registry = Tracing.step w.registry a := registry_dispatch _ _ _ _ _

theorem registry_setContext (w : World) (task : TaskId) (value : Option RuntimeContext) :
    (w.setContext task value).registry = w.registry := by
  cases value <;> rfl

theorem registry_scopeTurn (w : World) (a : ScopeStep) : (w.scopeTurn a).1.registry = w.registry := by
  cases a with
  | enter task id arguments users made =>
    simp only [World.scopeTurn, World.enter]
    split <;> rfl
  | exit id error users =>
    simp only [World.scopeTurn, World.exit]
    split
    · rfl
    · rw [registry_setContext]
      split <;> rfl
  | spawn parent child =>
    simp only [World.scopeTurn]
    split <;> exact registry_setContext w child _

/-! ## What every run keeps -/

/-- The registry follows the spans, the events of a span that is active are that of its start, and where a span is active that was
current at a call, it is still of the run that its trace was mapped to there. -/
structure Kept (w : World) (seen : Seen) : Prop where
  tracks : Tracks w.registry seen.spans
  ended : ∀ e p, (e, p) ∈ seen.spans.events → e.phase = .end → seen.spans.active.lookup e.spanId = none
  reported : ∀ spanId traceId, seen.spans.active.lookup spanId = some traceId →
    ∃ e p, (e, p) ∈ seen.spans.events ∧ e.spanId = spanId ∧ e.phase = .start
  known : ∀ point ∈ seen.points, point.spanId ∈ seen.spans.started
  mapped : ∀ point ∈ seen.points, (seen.spans.active.lookup point.spanId).isSome = true →
    w.registry.spanToRun.lookup point.spanId = point.mapped

theorem kept_empty : Kept {} {} where
  tracks := tracks_empty
  ended _ _ h := nomatch h
  reported _ _ h := nomatch h
  known _ h := nomatch h
  mapped _ h := nomatch h

theorem oneRun_empty : OneRun {} := fun _ h => absurd h List.not_mem_nil

/-- A step that is not of a span leaves what is kept. -/
theorem Kept.congr {w w' : World} {seen : Seen} (h : Kept w seen) (hregistry : w'.registry = w.registry) : Kept w' seen where
  tracks := by
    rw [hregistry]
    exact h.tracks
  ended := h.ended
  reported := h.reported
  known := h.known
  mapped := by
    rw [hregistry]
    exact h.mapped

section Start

variable {w : World} {seen : Seen} {traceId : TraceId} {spanId : SpanId} {parentSpanId : Option SpanId} {input : Tracing.Input}
  (h : Kept w seen) (hfresh : spanId ∉ seen.spans.started)
  (hparent : ∀ parent ∈ parentSpanId, ∀ t ∈ seen.spans.active.lookup parent, t = traceId)

include h hfresh hparent

theorem kept_onStart (hraises : input.runStartRaises = false) {w' : World}
    (hregistry : w'.registry = (Tracing.startSpan w.registry traceId spanId parentSpanId input).1) :
    Kept w' { seen with
      spans := seen.spans.onStart traceId spanId (Tracing.startSpan w.registry traceId spanId parentSpanId input).2 } := by
  obtain ⟨runId, runStarted, hstart, -, hevents, -⟩ := startSpan_cases spanId h.tracks hparent input
  have hnew : ∀ e p, (e, p) ∈ (seen.spans.onStart traceId spanId
      (Tracing.startSpan w.registry traceId spanId parentSpanId input).2).events →
      e.phase = .start ∧ e.spanId = spanId ∨ (e, p) ∈ seen.spans.events := by
    intro e p hmem
    rcases mem_events_called.1 hmem with ⟨hmem, -⟩ | hmem
    · exact Or.inl ⟨(hevents e hmem).1, (hevents e hmem).2.2.2⟩
    · exact Or.inr hmem
  constructor
  case tracks =>
    rw [hregistry]
    exact tracks_onStart h.tracks hfresh hparent input
  case ended =>
    intro e p hmem hphase
    show (seen.spans.active.insert spanId traceId).lookup e.spanId = none
    rcases hnew e p hmem with ⟨hstarted, -⟩ | hold
    · rw [hphase] at hstarted
      nomatch hstarted
    · have hne : e.spanId ≠ spanId := by
        intro heq
        exact hfresh (heq ▸ h.tracks.known e p hold)
      rw [Table.lookup_insert_eq, if_neg hne]
      exact h.ended e p hold hphase
  case reported =>
    intro s t hs
    rcases Table.of_lookup_insert hs with ⟨rfl, -⟩ | ⟨-, hs⟩
    · -- the callback of the event is called, as that of the run does not raise
      have hcalled : ∃ e : Tracing.Event,
          e ∈ (Tracing.startSpan w.registry traceId s parentSpanId input).2.filterMap Tracing.Callback.event? := by
        simp only [Tracing.startSpan, hraises, Bool.and_false, Bool.false_eq_true, if_false]
        exact ⟨_, List.mem_filterMap.2 ⟨_, List.mem_append_right _ (List.mem_singleton_self _), rfl⟩⟩
      obtain ⟨e, he⟩ := hcalled
      exact ⟨e, _, mem_events_called.2 (Or.inl ⟨he, rfl⟩), (hevents e he).2.2.2, (hevents e he).1⟩
    · obtain ⟨e, p, hmem, hspan, hphase⟩ := h.reported s t hs
      exact ⟨e, p, mem_events_called.2 (Or.inr hmem), hspan, hphase⟩
  case known =>
    intro point hpoint
    exact List.mem_cons_of_mem _ (h.known point hpoint)
  case mapped =>
    intro point hpoint hactive
    have hne : point.spanId ≠ spanId := by
      intro heq
      exact hfresh (heq ▸ h.known point hpoint)
    have hold : (seen.spans.active.lookup point.spanId).isSome = true := by
      have hlookup : (seen.spans.active.insert spanId traceId).lookup point.spanId = seen.spans.active.lookup point.spanId := by
        rw [Table.lookup_insert_eq, if_neg hne]
      rwa [← hlookup]
    rw [hregistry, hstart.spanToRun, Table.lookup_insert_eq, if_neg hne]
    exact h.mapped point hpoint hold

/-- A span that starts is not one that was current at a call. -/
theorem oneRun_onStart (hone : OneRun seen) :
    OneRun { seen with spans := seen.spans.onStart traceId spanId (Tracing.startSpan w.registry traceId spanId parentSpanId input).2 } := by
  obtain ⟨started, runStarted, -, -, hevents, -⟩ := startSpan_cases spanId h.tracks hparent input
  intro point hpoint
  obtain ⟨runId, hmapped, hemitted, hheader, hspans⟩ := hone point hpoint
  refine ⟨runId, hmapped, hemitted, hheader, fun e p hmem hspan => ?_⟩
  rcases mem_events_called.1 hmem with ⟨hnew, -⟩ | hold
  · have heq : point.spanId = spanId := hspan.symm.trans (hevents e hnew).2.2.2
    exact absurd (heq ▸ h.known point hpoint) hfresh
  · exact hspans e p hold hspan

end Start

section End

variable {w : World} {seen : Seen} {traceId : TraceId} {spanId : SpanId}
  (h : Kept w seen) (hactive : seen.spans.active.lookup spanId = some traceId) (input : Tracing.Input)

include h hactive

theorem kept_onEnd {w' : World} (hregistry : w'.registry = (Tracing.endSpan w.registry traceId spanId input).1) :
    Kept w' { seen with spans := seen.spans.onEnd traceId spanId (Tracing.endSpan w.registry traceId spanId input).2 } := by
  obtain ⟨runId, event, ends, -, -, hcalls, ⟨hphase, -, -, hspan⟩, -⟩ := calls_endSpan h.tracks hactive input
  have hevents : ∀ e p, (e, p) ∈ (seen.spans.onEnd traceId spanId (Tracing.endSpan w.registry traceId spanId input).2).events ↔
      e = event ∧ p = seen.spans.period traceId ∨ (e, p) ∈ seen.spans.events := fun e p => mem_events_onEnd hcalls
  constructor
  case tracks =>
    rw [hregistry]
    exact tracks_onEnd h.tracks hactive input
  case ended =>
    intro e p hmem hend
    show (seen.spans.active.erase spanId).lookup e.spanId = none
    rw [Table.lookup_erase_eq]
    rcases (hevents e p).1 hmem with ⟨rfl, -⟩ | hold
    · exact if_pos hspan
    · split
      · rfl
      · exact h.ended e p hold hend
  case reported =>
    intro s t hs
    change (seen.spans.active.erase spanId).lookup s = some t at hs
    rw [Table.lookup_erase_eq] at hs
    split at hs
    · nomatch hs
    · obtain ⟨e, p, hmem, hstarted⟩ := h.reported s t hs
      exact ⟨e, p, (hevents e p).2 (Or.inr hmem), hstarted⟩
  case known => exact h.known
  case mapped =>
    intro point hpoint hopen
    change ((seen.spans.active.erase spanId).lookup point.spanId).isSome = true at hopen
    rw [Table.lookup_erase_eq] at hopen
    rw [hregistry]
    show (w.registry.spanToRun.erase spanId).lookup point.spanId = point.mapped
    rw [Table.lookup_erase_eq]
    split at hopen
    · nomatch hopen
    · rename_i hne
      rw [if_neg hne]
      exact h.mapped point hpoint hopen

/-- A span that was current at a call ends with the run of its start. -/
theorem oneRun_onEnd (hone : OneRun seen) :
    OneRun { seen with spans := seen.spans.onEnd traceId spanId (Tracing.endSpan w.registry traceId spanId input).2 } := by
  obtain ⟨runId, event, ends, hrun, -, hcalls, ⟨-, hevent, -, hended⟩, -⟩ := calls_endSpan h.tracks hactive input
  intro point hpoint
  obtain ⟨found, hmapped, hemitted, hheader, hspans⟩ := hone point hpoint
  refine ⟨found, hmapped, hemitted, hheader, fun e p hmem hspan userId facts o ho => ?_⟩
  rcases (mem_events_onEnd hcalls).1 hmem with ⟨rfl, -⟩ | hold
  · have hsame : point.spanId = spanId := hspan.symm.trans hended
    have hopen : (seen.spans.active.lookup spanId).isSome = true := by rw [hactive]; rfl
    have hkept := h.mapped point hpoint (by rw [hsame]; exact hopen)
    rw [hsame, hrun, hmapped] at hkept
    obtain rfl := Option.some.inj hkept
    obtain ⟨start, p', hmem', hspan', hphase⟩ := h.reported spanId traceId hactive
    have hstart := h.tracks.start_run start p' hmem' hphase (by rw [hspan']; exact hopen)
    rw [hspan', hrun] at hstart
    -- the client names the run of the end as it named that of the start
    have hfirst := hspans start p' hmem' (hspan'.trans hsame.symm) userId facts _ List.mem_cons_self
    rw [runId_observeOtelEvent List.mem_cons_self, ← Option.some.inj hstart] at hfirst
    rw [runId_observeOtelEvent ho, hevent, hfirst]
  · exact hspans e p hold hspan userId facts o ho

end End

/-! ## A call -/

/-- What is found at a call. -/
theorem point_call {w : World} {task : TaskId} (ids : TraceId × SpanId) (users : Users) (made : RunId) (type : Text)
    (name status : Option Text) {runId : RunId}
    (hrun : (w.snapshot task).runId = some runId) :
    w.next (.call task users made type name status) = w ∧
      w.point task users made type name status ids =
        { spanId := ids.2
          mapped := w.registry.traceToRun.lookup ids.1
          emitted := some (((w.contexts.lookup task).bind RuntimeContext.runId).getD runId)
          header := some (safeHeaderValue (((w.contexts.lookup task).bind RuntimeContext.runId).getD runId).text.toList) } := by
  refine call_known ?_ made type name status ids
  rw [runId_currentContext, hrun]
  cases (w.contexts.lookup task).bind RuntimeContext.runId <;> rfl

section Call

variable {w : World} {seen : Seen} {task : TaskId} {ids : TraceId × SpanId} (h : Kept w seen)
  (hids : (w.current.lookup task).bind Span.ids = some ids) (hactive : seen.spans.active.lookup ids.2 = some ids.1)

include h hids hactive

/-- The run of the current trace is that of the span. -/
theorem exists_mapped : ∃ runId, (w.snapshot task).runId = some runId ∧ w.registry.traceToRun.lookup ids.1 = some runId ∧
    w.registry.spanToRun.lookup ids.2 = some runId := by
  obtain ⟨runId, hspan, htrace⟩ := exists_run h.tracks hactive
  refine ⟨runId, ?_, htrace, hspan⟩
  obtain ⟨span, hcurrent, hspanIds⟩ := Option.bind_eq_some_iff.1 hids
  have hformat : Tracing.formatTraceId span.traceId = some ids.1 := by
    unfold Span.ids at hspanIds
    split at hspanIds
    · rename_i t s ht hs
      obtain rfl := Option.some.inj hspanIds
      exact ht
    · nomatch hspanIds
  simp only [World.snapshot, hcurrent, currentTraceSnapshot, hformat, Option.bind_some, htrace]

/-- There is one run at a call exactly if the scope is of the run of the trace and the run is named as the client names it. -/
theorem oneRun_call_iff (users : Users) (made : RunId) (type : Text) (name status : Option Text) :
    (w.point task users made type name status ids).OneRun seen.spans ↔ CarriesRun w (.call task users made type name status) := by
  obtain ⟨runId, hsnapshot, htrace, hspan⟩ := exists_mapped h hids hactive
  rw [(point_call ids users made type name status hsnapshot).2]
  constructor
  · rintro ⟨found, hmapped, hemitted, -, hspans⟩ r hr
    obtain rfl := Option.some.inj (hsnapshot.symm.trans hr)
    obtain rfl := Option.some.inj (htrace.symm.trans hmapped)
    constructor
    · intro own hown
      rw [Option.mem_def.1 hown] at hemitted
      exact Option.some.inj hemitted
    · obtain ⟨start, p, hmem, hstartSpan, hphase⟩ := h.reported ids.2 ids.1 hactive
      have hrun := h.tracks.start_run start p hmem hphase (by rw [hstartSpan, hactive]; rfl)
      rw [hstartSpan, hspan] at hrun
      have hfirst := hspans start p hmem hstartSpan none {} _ List.mem_cons_self
      rw [runId_observeOtelEvent List.mem_cons_self, ← Option.some.inj hrun] at hfirst
      exact (normalizeRunId_eq_iff runId).1 hfirst
  · intro hcarries
    obtain ⟨hown, hmarked⟩ := hcarries runId hsnapshot
    have hfound : ((w.contexts.lookup task).bind RuntimeContext.runId).getD runId = runId := by
      cases hbase : (w.contexts.lookup task).bind RuntimeContext.runId with
      | none => rfl
      | some own => exact hown own hbase
    refine ⟨runId, htrace, congrArg some hfound, fun hprintable => ?_, fun e p hmem he userId facts event hevent => ?_⟩
    · show some (safeHeaderValue _) = _
      rw [hfound, safeHeaderValue_printable hprintable]
    · -- the span is active, so the event is that of its start
      change e.spanId = ids.2 at he
      have hphase : e.phase = .start := by
        cases hphase : e.phase with
        | start => rfl
        | «end» =>
          have hclosed := h.ended e p hmem hphase
          rw [he, hactive] at hclosed
          nomatch hclosed
      have hrun := h.tracks.start_run e p hmem hphase (by rw [he, hactive]; rfl)
      rw [he, hspan] at hrun
      rw [runId_observeOtelEvent hevent, ← Option.some.inj hrun]
      exact (normalizeRunId_eq_iff runId).2 hmarked

end Call

/-! ## One step -/

/-- What every run keeps. -/
theorem kept_next {w : World} {seen : Seen} {a : Step} (h : Kept w seen) (hwell : CallsWellFormed seen w a) :
    Kept (w.next a) (observeCalls seen w a (w.next a)) := by
  cases a with
  | scope a => exact h.congr (registry_scopeTurn w a)
  | startSpan task span facts users made =>
    have hregistry := registry_processSpan w task users facts (.onStart span (w.input task users made))
    simp only [observeCalls, World.spanStep, Tracing.observe]
    cases hids : span.ids with
    | none => exact h.congr (by rw [World.next, hregistry, Tracing.step, Tracing.turn, hids])
    | some ids =>
      obtain ⟨hfresh, hparent⟩ := hwell _ rfl ids.1 ids.2 hids
      simp only [Tracing.turn, hids]
      exact kept_onStart h hfresh hparent rfl (by rw [World.next, hregistry, Tracing.step, Tracing.turn, hids])
  | endSpan task span facts users made =>
    have hregistry := registry_processSpan w task users facts (.onEnd span (w.input task users made))
    simp only [observeCalls, World.spanStep, Tracing.observe]
    cases hids : span.ids with
    | none => exact h.congr (by rw [World.next, hregistry, Tracing.step, Tracing.turn, hids])
    | some ids =>
      have hactive := hwell _ rfl ids.1 ids.2 hids
      simp only [Tracing.turn, hids]
      exact kept_onEnd h hactive _ (by rw [World.next, hregistry, Tracing.step, Tracing.turn, hids])
  | switch task span => cases span <;> exact h.congr rfl
  | call task users made type name status =>
    obtain ⟨ids, hids, hactive⟩ := hwell
    obtain ⟨runId, hsnapshot, -, hspan⟩ := exists_mapped h hids hactive
    obtain ⟨hsame, hpoint⟩ := point_call ids users made type name status hsnapshot
    rw [hsame]
    simp only [observeCalls, hids, hpoint]
    constructor
    case tracks => exact h.tracks
    case ended => exact h.ended
    case reported => exact h.reported
    case known => exact List.forall_mem_cons.2 ⟨h.tracks.active_started ids.2 (by rw [hactive]; rfl), h.known⟩
    case mapped =>
      refine List.forall_mem_cons.2 ⟨fun _ => ?_, h.mapped⟩
      exact (h.tracks.run_trace ids.2 ids.1 hactive)

/-- A step keeps one run at every call exactly if a call it makes carries the run of its trace. -/
theorem oneRun_next_iff {w : World} {seen : Seen} {a : Step} (h : Kept w seen) (hone : OneRun seen) (hwell : CallsWellFormed seen w a) :
    OneRun (observeCalls seen w a (w.next a)) ↔ CarriesRun w a := by
  cases a with
  | scope a => exact iff_of_true hone trivial
  | startSpan task span facts users made =>
    refine iff_of_true ?_ trivial
    simp only [observeCalls, World.spanStep, Tracing.observe]
    cases hids : span.ids with
    | none => exact hone
    | some ids =>
      obtain ⟨hfresh, hparent⟩ := hwell _ rfl ids.1 ids.2 hids
      simp only [Tracing.turn, hids]
      exact oneRun_onStart h hfresh hparent hone
  | endSpan task span facts users made =>
    refine iff_of_true ?_ trivial
    simp only [observeCalls, World.spanStep, Tracing.observe]
    cases hids : span.ids with
    | none => exact hone
    | some ids =>
      simp only [Tracing.turn, hids]
      exact oneRun_onEnd h (hwell _ rfl ids.1 ids.2 hids) _ hone
  | switch task span => exact iff_of_true hone trivial
  | call task users made type name status =>
    obtain ⟨ids, hids, hactive⟩ := hwell
    simp only [observeCalls, hids]
    exact (List.forall_mem_cons.trans (and_iff_left hone)).trans (oneRun_call_iff h hids hactive users made type name status)

end IdentityAux

open IdentityAux

/-- Whether a step is one of a tracer and its calls can be computed. -/
instance decidableCalls (seen : Seen) (w : World) : ∀ a, Decidable (CallsWellFormed seen w a)
  | .call task _ _ _ _ _ =>
    match h : (w.current.lookup task).bind Span.ids with
    | none => isFalse fun hcall => by
      obtain ⟨ids, hids, -⟩ := hcall
      exact nomatch h.symm.trans hids
    | some ids => decidable_of_iff (seen.spans.active.lookup ids.2 = some ids.1)
        ⟨fun hactive => ⟨ids, h, hactive⟩, fun ⟨ids', hids, hactive⟩ => Option.some.inj (h.symm.trans hids) ▸ hactive⟩
  | .startSpan task span _ users made => decidable_of_iff (Tracing.WellFormed seen.spans (.onStart span (w.input task users made)))
      ⟨fun h _ hb => Option.some.inj hb ▸ h, fun h => h _ rfl⟩
  | .endSpan task span _ users made => decidable_of_iff (Tracing.WellFormed seen.spans (.onEnd span (w.input task users made)))
      ⟨fun h _ hb => Option.some.inj hb ▸ h, fun h => h _ rfl⟩
  | .scope _ | .switch _ _ => isTrue fun _ h => nomatch h

/-- The run of a call is one throughout a run, exactly if every call is in a scope of the run of its trace, or in none, and the run is named
as the client names it. -/
theorem one_run_per_call_iff (steps : List Step)
    (hwell : Along (monitor World.next observeCalls) (fun w a => CallsWellFormed w.2 w.1 a) ({}, {}) steps) :
    Throughout (monitor World.next observeCalls) (fun w => OneRun w.2) ({}, {}) steps ↔ Along World.next CarriesRun {} steps := by
  have hwatched : Along (monitor World.next observeCalls) (fun w a => CarriesRun w.1 a) ({}, {}) steps ↔
      Along World.next CarriesRun {} steps := along_monitor _ _ steps
  rw [← hwatched]
  refine throughout_iff_along_through (Q := fun w : World × Seen => Kept w.1 w.2 ∧ OneRun w.2) (fun _ h => h.2) ?_ ?_
    ⟨kept_empty, oneRun_empty⟩ hwell
  · exact fun w a h hwell hafter => (oneRun_next_iff h.1 h.2 hwell).1 hafter
  · exact fun w a h hwell hcarries => ⟨kept_next h.1 hwell, (oneRun_next_iff h.1 h.2 hwell).2 hcarries⟩

/-- A call in a span that was started in a scope of the run. -/
def callInScope (runId : RunId) : List Step :=
  [.scope (.enter 0 0 { runId := some runId } {} Tracing.made),
    .startSpan 0 Tracing.rootSpan {} {} Tracing.made,
    .switch 0 (some Tracing.rootSpan),
    .call 0 {} Tracing.made "tool.start".toList none none,
    .endSpan 0 Tracing.rootSpan {} {} Tracing.made,
    .scope (.exit 0 false {})]

def ticketRun : RunId := ⟨"run_ticket_891", by decide⟩

theorem one_run_per_call_ticket :
    Throughout (monitor World.next observeCalls) (fun w => OneRun w.2) ({}, {}) (callInScope ticketRun) := by
  refine (one_run_per_call_iff (callInScope ticketRun) (by decide +kernel)).2 ⟨trivial, trivial, trivial, ?_, trivial, trivial, trivial⟩
  intro runId hrun
  have hmapped : ((exec World.next {} ((callInScope ticketRun).take 3)).snapshot 0).runId = some ticketRun := by decide +kernel
  have hown : ((exec World.next {} ((callInScope ticketRun).take 3)).contexts.lookup 0).bind RuntimeContext.runId = some ticketRun := by
    decide +kernel
  obtain rfl := Option.some.inj (hmapped.symm.trans hrun)
  exact ⟨fun own h => Option.some.inj (h.symm.trans hown), by decide +kernel⟩

/-- A run whose name lacks the marker of the client. -/
def unmarkedRun : RunId := ⟨"ticket_891", by decide⟩

/-- The event of the span is of another run than the event of the application. -/
theorem one_run_per_call_fails : ¬∀ steps,
    Along (monitor World.next observeCalls) (fun w a => CallsWellFormed w.2 w.1 a) ({}, {}) steps →
      Throughout (monitor World.next observeCalls) (fun w => OneRun w.2) ({}, {}) steps := by
  intro h
  have hone := (h (callInScope unmarkedRun) (by decide +kernel)).last
  have hpoint : ⟨"0000000000000123".toList, some unmarkedRun, some unmarkedRun, some "ticket_891".toList⟩ ∈
      (exec (monitor World.next observeCalls) ({}, {}) (callInScope unmarkedRun)).2.points := by decide +kernel
  have hevent : (⟨.start, unmarkedRun, none, "00000000000000000000000000000abc".toList, "0000000000000123".toList, none⟩, 0) ∈
      (exec (monitor World.next observeCalls) ({}, {}) (callInScope unmarkedRun)).2.spans.events := by decide +kernel
  obtain ⟨runId, hmapped, -, -, hspans⟩ := hone _ hpoint
  obtain rfl := Option.some.inj hmapped
  have hnamed := hspans _ _ hevent rfl none {} _ List.mem_cons_self
  exact absurd hnamed (by decide +kernel)

end Runtime

end PromptRail
