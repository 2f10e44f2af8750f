import PromptRail.Tracing

/-!
# The registry over a run

A history watches the run: which spans have started and not ended, how often the last active span of a trace has ended, and which
callbacks were called in which period of activity of their trace. The registry follows it, whatever the callbacks do, but for the end of
a run: the callback of the event that is due before it may raise, and then the run is not reported to end.
-/

namespace PromptRail

namespace Tracing

open PyText (Text)
open Table (Dict total lookup_insert_eq lookup_erase_eq mem_iff_lookup)
open Transition

/-! ## Histories -/

/-- What has been seen of a run. A callback stands with the number of periods of activity of its trace that were over. -/
structure History where
  started : List SpanId := []
  active : Dict SpanId TraceId := ∅
  closed : List TraceId := []
  events : List (Event × Nat) := []
  runStarts : List (RunId × TraceId × Nat) := []
  runEnds : List (RunId × TraceId × Nat) := []

/-- The number of active spans of a trace. -/
def activeIn (active : Dict SpanId TraceId) (traceId : TraceId) : Nat := total (fun _ t => if t = traceId then 1 else 0) active

def History.activeCount (history : History) (traceId : TraceId) : Nat := activeIn history.active traceId

/-- The number of periods of activity of a trace that are over. -/
def History.period (history : History) (traceId : TraceId) : Nat := history.closed.count traceId

def Callback.event? : Callback → Option Event
  | .event e => some e
  | .runStart _ _ | .runEnd _ _ => none

def Callback.runStart? : Callback → Option (RunId × TraceId)
  | .runStart runId traceId => some (runId, traceId)
  | .event _ | .runEnd _ _ => none

def Callback.runEnd? : Callback → Option (RunId × TraceId)
  | .runEnd runId traceId => some (runId, traceId)
  | .event _ | .runStart _ _ => none

/-- The callbacks that were called in a period. -/
def History.called (history : History) (period : Nat) (calls : List Callback) : History :=
  { history with
    events := (calls.filterMap Callback.event?).map (·, period) ++ history.events
    runStarts := (calls.filterMap Callback.runStart?).map (fun p => (p.1, p.2, period)) ++ history.runStarts
    runEnds := (calls.filterMap Callback.runEnd?).map (fun p => (p.1, p.2, period)) ++ history.runEnds }

def History.onStart (history : History) (traceId : TraceId) (spanId : SpanId) (calls : List Callback) : History :=
  { history.called (history.period traceId) calls with
    started := spanId :: history.started
    active := history.active.insert spanId traceId }

def History.onEnd (history : History) (traceId : TraceId) (spanId : SpanId) (calls : List Callback) : History :=
  { history.called (history.period traceId) calls with
    active := history.active.erase spanId
    closed := if activeIn (history.active.erase spanId) traceId = 0 then traceId :: history.closed else history.closed }

/-- What a history sees of a step. -/
def observe (history : History) (registry : Registry) (a : Step) (_ : Registry) : History :=
  match a with
  | .onStart span _ =>
    match span.ids with
    | none => history
    | some (traceId, spanId) => history.onStart traceId spanId (turn registry a).2
  | .onEnd span _ =>
    match span.ids with
    | none => history
    | some (traceId, spanId) => history.onEnd traceId spanId (turn registry a).2

/-- The steps of a tracer: a span is started once, in the trace of its parent, and ended at most once, after it was started. -/
def WellFormed (history : History) : Step → Prop
  | .onStart span _ =>
    ∀ traceId spanId, span.ids = some (traceId, spanId) → spanId ∉ history.started ∧
      ∀ parent ∈ span.parentSpanId, ∀ t ∈ history.active.lookup parent, t = traceId
  | .onEnd span _ => ∀ traceId spanId, span.ids = some (traceId, spanId) → history.active.lookup spanId = some traceId

/-- A condition on the identifiers of a span is checked where it has some. -/
instance decidableIds {P : TraceId → SpanId → Prop} [∀ t s, Decidable (P t s)] :
    ∀ ids : Option (TraceId × SpanId), Decidable (∀ traceId spanId, ids = some (traceId, spanId) → P traceId spanId)
  | none => isTrue fun _ _ h => nomatch h
  | some (t, s) => decidable_of_iff (P t s) ⟨fun h _ _ heq => by cases heq; exact h, fun h => h t s rfl⟩

instance decidableWellFormed (history : History) : ∀ a, Decidable (WellFormed history a)
  | .onStart span _ => decidableIds span.ids
  | .onEnd span _ => decidableIds span.ids

/-- No event is lost at the end of a run: where the last active span ends of a trace whose run was reported to start, the callback of
its event does not raise. -/
def EndReported (history : History) : Step → Prop
  | .onStart _ _ => True
  | .onEnd span input =>
    ∀ traceId spanId, span.ids = some (traceId, spanId) → history.activeCount traceId = 1 →
      ∀ runId, (runId, traceId, history.period traceId) ∈ history.runStarts → input.eventRaises = false

/-! ## What the registry is to do -/

/-- No map has an entry. -/
structure Registry.IsEmpty (registry : Registry) : Prop where
  traceToRun : registry.traceToRun = ∅
  spanToParent : registry.spanToParent = ∅
  spanToTrace : registry.spanToTrace = ∅
  spanToRun : registry.spanToRun = ∅
  spanToUser : registry.spanToUser = ∅
  spanToRunStarted : registry.spanToRunStarted = ∅
  traceActiveCounts : registry.traceActiveCounts = ∅
  traceRootEnded : registry.traceRootEnded = ∅

/-- The registry follows the spans: it counts the active ones, a trace is mapped to a run exactly while it has one, the events of one
period of activity carry one run, that of a span's end the run of its start, a run that was reported to start is reported to end once
and as soon as the period is over, and no more runs are; and when no span is active, nothing is left. -/
structure Follows (registry : Registry) (history : History) : Prop where
  counted : ∀ traceId, (registry.traceActiveCounts.lookup traceId).getD 0 = history.activeCount traceId
  mapped : ∀ traceId, traceId ∈ registry.traceToRun ↔ 0 < (registry.traceActiveCounts.lookup traceId).getD 0
  oneRun : ∀ e e' p, (e, p) ∈ history.events → (e', p) ∈ history.events → e.traceId = e'.traceId → e.runId = e'.runId
  sameRun : ∀ e e' p p', (e, p) ∈ history.events → (e', p') ∈ history.events → e.phase = .start → e'.phase = .end →
    e.spanId = e'.spanId → e.runId = e'.runId
  starts_nodup : history.runStarts.Nodup
  ends_nodup : history.runEnds.Nodup
  ended : ∀ runId traceId p, (runId, traceId, p) ∈ history.runEnds ↔
    (runId, traceId, p) ∈ history.runStarts ∧ p < history.period traceId
  cleared : history.active = ∅ → registry.IsEmpty

namespace RegistryAux

/-! ## What was called -/

theorem mem_events_called {history : History} {period p : Nat} {calls : List Callback} {e : Event} :
    (e, p) ∈ (history.called period calls).events ↔
      e ∈ calls.filterMap Callback.event? ∧ p = period ∨ (e, p) ∈ history.events := by
  simp only [History.called, List.mem_append, List.mem_map, Prod.mk.injEq]
  constructor
  · rintro (⟨e', hmem, rfl, rfl⟩ | hmem)
    · exact Or.inl ⟨hmem, rfl⟩
    · exact Or.inr hmem
  · rintro (⟨hmem, rfl⟩ | hmem)
    · exact Or.inl ⟨e, hmem, rfl, rfl⟩
    · exact Or.inr hmem

/-- A run is in a list of what was called, or is one of those called in the period. -/
theorem mem_inPeriod {calls : List (RunId × TraceId)} {before : List (RunId × TraceId × Nat)} {period p : Nat} {runId : RunId}
    {traceId : TraceId} : (runId, traceId, p) ∈ calls.map (fun call => (call.1, call.2, period)) ++ before ↔
      (runId, traceId) ∈ calls ∧ p = period ∨ (runId, traceId, p) ∈ before := by
  simp only [List.mem_append, List.mem_map, Prod.mk.injEq, Prod.exists]
  constructor
  · rintro (⟨r, t, hmem, rfl, rfl, rfl⟩ | hmem)
    · exact Or.inl ⟨hmem, rfl⟩
    · exact Or.inr hmem
  · rintro (⟨hmem, rfl⟩ | hmem)
    · exact Or.inl ⟨runId, traceId, hmem, rfl, rfl, rfl⟩
    · exact Or.inr hmem

theorem mem_runStarts_called {history : History} {period p : Nat} {calls : List Callback} {runId : RunId} {traceId : TraceId} :
    (runId, traceId, p) ∈ (history.called period calls).runStarts ↔
      (runId, traceId) ∈ calls.filterMap Callback.runStart? ∧ p = period ∨ (runId, traceId, p) ∈ history.runStarts :=
  mem_inPeriod

theorem mem_runEnds_called {history : History} {period p : Nat} {calls : List Callback} {runId : RunId} {traceId : TraceId} :
    (runId, traceId, p) ∈ (history.called period calls).runEnds ↔
      (runId, traceId) ∈ calls.filterMap Callback.runEnd? ∧ p = period ∨ (runId, traceId, p) ∈ history.runEnds :=
  mem_inPeriod

/-! ## What the registry holds of the spans that are active -/

/-- A map has an entry for every active span, and no other. -/
def KeyedBy {V : Type} (active : Dict SpanId TraceId) (d : Dict SpanId V) : Prop :=
  ∀ spanId, (d.lookup spanId).isSome = (active.lookup spanId).isSome

/-- What the registry and the history have in common. -/
structure Tracks (registry : Registry) (history : History) : Prop where
  trace : ∀ spanId, registry.spanToTrace.lookup spanId = history.active.lookup spanId
  parent : KeyedBy history.active registry.spanToParent
  user : KeyedBy history.active registry.spanToUser
  runStarted : KeyedBy history.active registry.spanToRunStarted
  run : KeyedBy history.active registry.spanToRun
  run_trace : ∀ spanId traceId, history.active.lookup spanId = some traceId →
    registry.spanToRun.lookup spanId = registry.traceToRun.lookup traceId
  count : ∀ traceId, registry.traceActiveCounts.lookup traceId =
    if history.activeCount traceId = 0 then none else some (history.activeCount traceId)
  mapped : ∀ traceId, (registry.traceToRun.lookup traceId).isSome = true ↔ 0 < history.activeCount traceId
  rootEnded : ∀ traceId ∈ registry.traceRootEnded, 0 < history.activeCount traceId
  announced : ∀ traceId, 0 < history.activeCount traceId →
    ((∃ runId, (runId, traceId, history.period traceId) ∈ history.runStarts) ↔
      traceId ∈ registry.traceRootEnded ∨
        ∃ spanId, history.active.lookup spanId = some traceId ∧ registry.spanToRunStarted.lookup spanId = some true)
  starts : ∀ runId traceId p, (runId, traceId, p) ∈ history.runStarts → p ≤ history.period traceId ∧
    (p = history.period traceId → registry.traceToRun.lookup traceId = some runId)
  events : ∀ e p, (e, p) ∈ history.events → p ≤ history.period e.traceId ∧
    (p = history.period e.traceId → registry.traceToRun.lookup e.traceId = some e.runId)
  known : ∀ e p, (e, p) ∈ history.events → e.spanId ∈ history.started
  active_started : ∀ spanId, (history.active.lookup spanId).isSome = true → spanId ∈ history.started
  start_run : ∀ e p, (e, p) ∈ history.events → e.phase = .start → (history.active.lookup e.spanId).isSome = true →
    registry.spanToRun.lookup e.spanId = some e.runId

theorem tracks_empty : Tracks {} {} where
  trace _ := rfl
  parent _ := rfl
  user _ := rfl
  runStarted _ := rfl
  run _ := rfl
  run_trace _ _ h := nomatch h
  count _ := rfl
  mapped _ := ⟨(fun h => nomatch h), (fun h => nomatch h)⟩
  rootEnded _ h := nomatch h
  announced _ h := nomatch h
  starts _ _ _ h := nomatch h
  events _ _ h := nomatch h
  known _ _ h := nomatch h
  active_started _ h := nomatch h
  start_run _ _ h := nomatch h

theorem follows_empty : Follows {} {} where
  counted _ := rfl
  mapped _ := ⟨(fun h => absurd h (AList.notMem_empty _)), (fun h => nomatch h)⟩
  oneRun _ _ _ h := nomatch h
  sameRun _ _ _ _ h := nomatch h
  starts_nodup := List.nodup_nil
  ends_nodup := List.nodup_nil
  ended _ _ _ := ⟨(fun h => nomatch h), (fun h => nomatch h.1)⟩
  cleared _ := ⟨rfl, rfl, rfl, rfl, rfl, rfl, rfl, rfl⟩

/-! ## Counting -/

/-- A span that starts is one more of its trace. -/
theorem activeIn_insert {active : Dict SpanId TraceId} {spanId : SpanId} (h : spanId ∉ active) (traceId t : TraceId) :
    activeIn (active.insert spanId traceId) t = activeIn active t + if traceId = t then 1 else 0 := by
  rw [activeIn, Table.total_insert _ _ h, Nat.add_comm]
  rfl

/-- A span that ends is one less of its trace. -/
theorem activeIn_erase {active : Dict SpanId TraceId} {spanId : SpanId} {traceId : TraceId} (h : active.lookup spanId = some traceId)
    (t : TraceId) : activeIn active t = activeIn (active.erase spanId) t + if traceId = t then 1 else 0 := by
  rw [activeIn, Table.total_erase _ h, Nat.add_comm]
  rfl

/-- A trace with an active span has a positive count. -/
theorem activeIn_pos {active : Dict SpanId TraceId} {spanId : SpanId} {traceId : TraceId} (h : active.lookup spanId = some traceId) :
    0 < activeIn active traceId := by
  rw [activeIn_erase h traceId, if_pos rfl]
  exact Nat.succ_pos _

theorem KeyedBy.insert {V : Type} {active : Dict SpanId TraceId} {d : Dict SpanId V} (h : KeyedBy active d) (spanId : SpanId)
    (traceId : TraceId) (v : V) : KeyedBy (active.insert spanId traceId) (d.insert spanId v) := by
  intro s
  rw [lookup_insert_eq, lookup_insert_eq]
  split
  · rfl
  · exact h s

theorem KeyedBy.erase {V : Type} {active : Dict SpanId TraceId} {d : Dict SpanId V} (h : KeyedBy active d) (spanId : SpanId) :
    KeyedBy (active.erase spanId) (d.erase spanId) := by
  intro s
  rw [lookup_erase_eq, lookup_erase_eq]
  split
  · rfl
  · exact h s

theorem KeyedBy.eq_empty {V : Type} {d : Dict SpanId V} (h : KeyedBy ∅ d) : d = ∅ := by
  refine Table.eq_empty fun s => ?_
  rw [← Option.not_isSome_iff_eq_none, h s]
  exact Bool.false_ne_true

/-! ## What follows from it -/

variable {registry : Registry} {history : History} {traceId : TraceId} {spanId : SpanId}

theorem counted_of_tracks (h : Tracks registry history) (traceId : TraceId) :
    (registry.traceActiveCounts.lookup traceId).getD 0 = history.activeCount traceId := by
  rw [h.count]
  split
  · rename_i hzero
    rw [hzero]
    rfl
  · rfl

theorem mapped_of_tracks (h : Tracks registry history) (traceId : TraceId) :
    traceId ∈ registry.traceToRun ↔ 0 < (registry.traceActiveCounts.lookup traceId).getD 0 := by
  rw [counted_of_tracks h, ← h.mapped, AList.lookup_isSome]

/-- When no span is active, every map is empty. -/
theorem isEmpty_of_tracks (h : Tracks registry history) (hactive : history.active = ∅) : registry.IsEmpty := by
  have hzero : ∀ traceId, history.activeCount traceId = 0 := by
    intro traceId
    rw [History.activeCount, hactive]
    rfl
  have hkeyed : ∀ {V : Type} {d : Dict SpanId V}, KeyedBy history.active d → d = ∅ := by
    intro V d hd
    rw [hactive] at hd
    exact hd.eq_empty
  refine ⟨?_, hkeyed h.parent, ?_, hkeyed h.run, hkeyed h.user, hkeyed h.runStarted, ?_, ?_⟩
  · refine Table.eq_empty fun traceId => ?_
    rw [← Option.not_isSome_iff_eq_none, h.mapped, hzero]
    exact Nat.lt_irrefl 0
  · refine Table.eq_empty fun spanId => ?_
    rw [h.trace, hactive]
    rfl
  · refine Table.eq_empty fun traceId => ?_
    rw [h.count, if_pos (hzero traceId)]
  · refine Finset.eq_empty_of_forall_notMem fun traceId hmem => ?_
    have hpos := h.rootEnded traceId hmem
    rw [hzero] at hpos
    cases hpos

/-! ## A span that starts -/

theorem lookup_none_of_count (h : Tracks registry history) (hzero : history.activeCount traceId = 0) :
    registry.traceToRun.lookup traceId = none := by
  rw [← Option.not_isSome_iff_eq_none, h.mapped]
  omega

/-- A parent that is active hands on the run of the trace, which the trace has already. -/
theorem known_eq (h : Tracks registry history) {parentSpanId : Option SpanId}
    (hparent : ∀ parent ∈ parentSpanId, ∀ t ∈ history.active.lookup parent, t = traceId) :
    (registry.traceToRun.lookup traceId).or (parentSpanId.bind fun parent => registry.spanToRun.lookup parent) =
      registry.traceToRun.lookup traceId := by
  cases hinherited : parentSpanId.bind fun parent => registry.spanToRun.lookup parent with
  | none => rw [Option.or_none]
  | some runId =>
    obtain ⟨parent, hmem, hrun⟩ := Option.bind_eq_some_iff.1 hinherited
    have hactive : (history.active.lookup parent).isSome = true := by
      rw [← h.run parent, hrun]
      rfl
    obtain ⟨t, ht⟩ := Option.isSome_iff_exists.1 hactive
    obtain rfl := hparent parent hmem t ht
    rw [← h.run_trace parent t ht, hrun]
    rfl

/-- The run of a span that starts is that of its trace, which starts with it at most if the trace had none. -/
theorem runOfStart_cases {traceToRun traceToRun' : Dict TraceId RunId} {inherited : Option RunId} {root runStarted : Bool} {input : Input}
    {runId : RunId} (hknown : (traceToRun.lookup traceId).or inherited = traceToRun.lookup traceId)
    (h : runOfStart traceToRun traceId inherited root input = (runId, traceToRun', runStarted)) :
    (∀ t, traceToRun'.lookup t = if t = traceId then some runId else traceToRun.lookup t) ∧
      (traceToRun.lookup traceId = some runId ∧ runStarted = false ∨ traceToRun.lookup traceId = none) := by
  unfold runOfStart at h
  rw [hknown] at h
  split at h
  · rename_i hsome
    cases h
    refine ⟨fun t => ?_, Or.inl ⟨hsome, rfl⟩⟩
    split
    · rename_i ht
      rw [ht, hsome]
    · rfl
  · rename_i hnone _
    cases h
    exact ⟨fun t => lookup_insert_eq _ _ _, Or.inr hnone⟩
  · rename_i hnone _
    cases h
    exact ⟨fun t => lookup_insert_eq _ _ _, Or.inr hnone⟩

/-- The run of a span that starts, in a registry that follows the spans. -/
structure Starting (registry registry' : Registry) (traceId : TraceId) (spanId : SpanId) (runId : RunId) (runStarted : Bool) : Prop where
  traceToRun : ∀ t, registry'.traceToRun.lookup t = if t = traceId then some runId else registry.traceToRun.lookup t
  kept : registry.traceToRun.lookup traceId = some runId ∧ runStarted = false ∨ registry.traceToRun.lookup traceId = none
  spanToRun : registry'.spanToRun = registry.spanToRun.insert spanId runId
  spanToRunStarted : registry'.spanToRunStarted = registry.spanToRunStarted.insert spanId runStarted
  traceRootEnded : registry'.traceRootEnded = registry.traceRootEnded

/-- What `startSpan` does: the callbacks are that of the run, if it starts, and that of the event. -/
theorem startSpan_cases (spanId : SpanId) (h : Tracks registry history) {parentSpanId : Option SpanId}
    (hparent : ∀ parent ∈ parentSpanId, ∀ t ∈ history.active.lookup parent, t = traceId) (input : Input) :
    ∃ runId runStarted, Starting registry (startSpan registry traceId spanId parentSpanId input).1 traceId spanId runId runStarted ∧
      (startSpan registry traceId spanId parentSpanId input).2.filterMap Callback.runStart? =
        (if runStarted then [(runId, traceId)] else []) ∧
      (∀ e ∈ (startSpan registry traceId spanId parentSpanId input).2.filterMap Callback.event?,
        e.phase = .start ∧ e.runId = runId ∧ e.traceId = traceId ∧ e.spanId = spanId) ∧
      (startSpan registry traceId spanId parentSpanId input).2.filterMap Callback.runEnd? = [] := by
  generalize hrun : runOfStart registry.traceToRun traceId (parentSpanId.bind fun parent => registry.spanToRun.lookup parent)
    parentSpanId.isNone input = chosen
  obtain ⟨runId, traceToRun', runStarted⟩ := chosen
  obtain ⟨hlookup, hkept⟩ := runOfStart_cases (known_eq h hparent) hrun
  refine ⟨runId, runStarted, ?_, ?_, ?_, ?_⟩
  · simp only [startSpan, hrun]
    exact ⟨hlookup, hkept, rfl, rfl, rfl⟩
  · simp only [startSpan, hrun]
    cases runStarted <;> cases input.runStartRaises <;> rfl
  · simp only [startSpan, hrun]
    cases runStarted <;> cases input.runStartRaises <;> simp [Callback.event?]
  · simp only [startSpan, hrun]
    cases runStarted <;> cases input.runStartRaises <;> rfl

/-- A span that is fresh is not active. -/
theorem notMem_of_fresh (h : Tracks registry history) (hfresh : spanId ∉ history.started) : spanId ∉ history.active := by
  intro hmem
  exact hfresh (h.active_started spanId (AList.lookup_isSome.2 hmem))

/-- The spans of a trace that started a run, after one more span has started. -/
theorem exists_flagged_insert {active : Dict SpanId TraceId} (hfresh : spanId ∉ active) (flags : Dict SpanId Bool) (traceId : TraceId)
    (flag : Bool) (t : TraceId) :
    (∃ s, (active.insert spanId traceId).lookup s = some t ∧ (flags.insert spanId flag).lookup s = some true) ↔
      t = traceId ∧ flag = true ∨ ∃ s, active.lookup s = some t ∧ flags.lookup s = some true := by
  constructor
  · rintro ⟨s, hs, hflag⟩
    rcases Table.of_lookup_insert hs with ⟨rfl, rfl⟩ | ⟨hne, hs⟩
    · rw [lookup_insert_eq, if_pos rfl] at hflag
      exact Or.inl ⟨rfl, Option.some.inj hflag⟩
    · rw [lookup_insert_eq, if_neg hne] at hflag
      exact Or.inr ⟨s, hs, hflag⟩
  · rintro (⟨rfl, rfl⟩ | ⟨s, hs, hflag⟩)
    · exact ⟨spanId, AList.lookup_insert _, AList.lookup_insert _⟩
    · have hne : s ≠ spanId := by
        rintro rfl
        exact hfresh (AList.lookup_isSome.1 (by rw [hs]; rfl))
      exact ⟨s, by rw [lookup_insert_eq, if_neg hne, hs], by rw [lookup_insert_eq, if_neg hne, hflag]⟩

section Start

variable (h : Tracks registry history) (hfresh : spanId ∉ history.started) {parentSpanId : Option SpanId}
  (hparent : ∀ parent ∈ parentSpanId, ∀ t ∈ history.active.lookup parent, t = traceId) (input : Input)

include h hfresh hparent

theorem tracks_onStart :
    Tracks (startSpan registry traceId spanId parentSpanId input).1
      (history.onStart traceId spanId (startSpan registry traceId spanId parentSpanId input).2) := by
  obtain ⟨runId, runStarted, hstart, hstarts, hevents, -⟩ := startSpan_cases spanId h hparent input
  have hcount : ∀ t, (history.onStart traceId spanId (startSpan registry traceId spanId parentSpanId input).2).activeCount t =
      history.activeCount t + if traceId = t then 1 else 0 :=
    fun t => activeIn_insert (notMem_of_fresh h hfresh) traceId t
  have hperiod : ∀ t, (history.onStart traceId spanId (startSpan registry traceId spanId parentSpanId input).2).period t =
      history.period t := fun _ => rfl
  -- what the trace was mapped to before, it still is
  have hsame : ∀ t r, registry.traceToRun.lookup t = some r →
      (startSpan registry traceId spanId parentSpanId input).1.traceToRun.lookup t = some r := by
    intro t r hr
    rw [hstart.traceToRun]
    split
    · rename_i ht
      subst ht
      rcases hstart.kept with ⟨hkept, -⟩ | hnone
      · rw [← hkept, hr]
      · rw [hnone] at hr
        cases hr
    · exact hr
  constructor
  case trace =>
    intro s
    show (registry.spanToTrace.insert spanId traceId).lookup s = (history.active.insert spanId traceId).lookup s
    rw [lookup_insert_eq, lookup_insert_eq, h.trace]
  case parent => exact h.parent.insert spanId traceId _
  case user => exact h.user.insert spanId traceId _
  case runStarted =>
    rw [hstart.spanToRunStarted]
    exact h.runStarted.insert spanId traceId _
  case run =>
    rw [hstart.spanToRun]
    exact h.run.insert spanId traceId _
  case run_trace =>
    intro s t hs
    rw [hstart.spanToRun, lookup_insert_eq, hstart.traceToRun]
    rcases Table.of_lookup_insert hs with ⟨rfl, rfl⟩ | ⟨hne, hold⟩
    · rw [if_pos rfl, if_pos rfl]
    · rw [if_neg hne, ← hstart.traceToRun]
      have hrun := h.run_trace s t hold
      obtain ⟨r, hr⟩ := Option.isSome_iff_exists.1 ((h.mapped t).2 (activeIn_pos hold))
      rw [hrun, hr, hsame t r hr]
  case count =>
    intro t
    show (registry.traceActiveCounts.insert traceId _).lookup t = _
    rw [lookup_insert_eq, hcount, h.count, h.count]
    by_cases ht : t = traceId
    · subst ht
      rw [if_pos rfl, if_pos rfl, if_neg (Nat.succ_ne_zero _)]
      split
      · rename_i hzero
        rw [hzero]
        rfl
      · rfl
    · rw [if_neg ht, if_neg (Ne.symm ht), Nat.add_zero]
  case mapped =>
    intro t
    rw [hstart.traceToRun, hcount]
    by_cases ht : t = traceId
    · subst ht
      simp
    · rw [if_neg ht, if_neg (Ne.symm ht), Nat.add_zero]
      exact h.mapped t
  case rootEnded =>
    intro t ht
    rw [hstart.traceRootEnded] at ht
    rw [hcount]
    exact Nat.lt_of_lt_of_le (h.rootEnded t ht) (Nat.le_add_right _ _)
  case announced =>
    intro t hpos
    rw [hstart.traceRootEnded, hstart.spanToRunStarted, hperiod]
    have hmem : (∃ r, (r, t, history.period t) ∈
        (history.onStart traceId spanId (startSpan registry traceId spanId parentSpanId input).2).runStarts) ↔
          t = traceId ∧ runStarted = true ∨ ∃ r, (r, t, history.period t) ∈ history.runStarts := by
      refine (exists_congr fun r => mem_runStarts_called).trans ?_
      rw [hstarts, exists_or]
      refine or_congr_left ⟨?_, ?_⟩
      · rintro ⟨r, hr, -⟩
        split at hr
        · rename_i hstarted
          exact ⟨(Prod.mk.inj (List.mem_singleton.1 hr)).2, hstarted⟩
        · cases hr
      · rintro ⟨rfl, rfl⟩
        exact ⟨runId, List.mem_singleton_self _, rfl⟩
    have hflagged := exists_flagged_insert (notMem_of_fresh h hfresh) registry.spanToRunStarted traceId runStarted t
    rw [hmem]
    refine Iff.trans ?_ (or_congr_right hflagged.symm)
    by_cases hzero : history.activeCount t = 0
    · -- nothing was known of the trace, and nothing was reported of this period
      have hnone := lookup_none_of_count h hzero
      have hold : ¬∃ r, (r, t, history.period t) ∈ history.runStarts := by
        rintro ⟨r, hr⟩
        rw [(h.starts r t _ hr).2 rfl] at hnone
        cases hnone
      have hroot : t ∉ registry.traceRootEnded := by
        intro hroot
        have hrootpos := h.rootEnded t hroot
        omega
      have hspans : ¬∃ s, history.active.lookup s = some t ∧ registry.spanToRunStarted.lookup s = some true := by
        rintro ⟨s, hs, -⟩
        have hspos : 0 < history.activeCount t := activeIn_pos hs
        omega
      simp only [hold, hroot, hspans, or_false, false_or]
    · rw [h.announced t (Nat.pos_of_ne_zero hzero)]
      exact or_left_comm
  case starts =>
    intro r t p hmem
    rcases mem_runStarts_called.1 hmem with ⟨hnew, rfl⟩ | hold
    · rw [hstarts] at hnew
      split at hnew
      · obtain ⟨rfl, rfl⟩ := Prod.mk.inj (List.mem_singleton.1 hnew)
        refine ⟨Nat.le_refl _, fun _ => ?_⟩
        rw [hstart.traceToRun, if_pos rfl]
      · cases hnew
    · obtain ⟨hle, hrun⟩ := h.starts r t p hold
      exact ⟨hle, fun hp => hsame t r (hrun hp)⟩
  case events =>
    intro e p hmem
    rcases mem_events_called.1 hmem with ⟨hnew, rfl⟩ | hold
    · obtain ⟨-, hrun, rfl, -⟩ := hevents e hnew
      refine ⟨Nat.le_refl _, fun _ => ?_⟩
      rw [hstart.traceToRun, if_pos rfl, hrun]
    · obtain ⟨hle, hrun⟩ := h.events e p hold
      exact ⟨hle, fun hp => hsame _ _ (hrun hp)⟩
  case known =>
    intro e p hmem
    rcases mem_events_called.1 hmem with ⟨hnew, -⟩ | hold
    · obtain ⟨-, -, -, rfl⟩ := hevents e hnew
      exact List.mem_cons_self
    · exact List.mem_cons_of_mem _ (h.known e p hold)
  case active_started =>
    intro s hs
    obtain ⟨t, ht⟩ := Option.isSome_iff_exists.1 hs
    rcases Table.of_lookup_insert ht with ⟨rfl, -⟩ | ⟨-, hold⟩
    · exact List.mem_cons_self
    · exact List.mem_cons_of_mem _ (h.active_started s (by rw [hold]; rfl))
  case start_run =>
    intro e p hmem hphase hs
    rw [hstart.spanToRun, lookup_insert_eq]
    rcases mem_events_called.1 hmem with ⟨hnew, -⟩ | hold
    · obtain ⟨-, hrun, -, rfl⟩ := hevents e hnew
      rw [if_pos rfl, hrun]
    · have hne : e.spanId ≠ spanId := by
        rintro heq
        exact hfresh (heq ▸ h.known e p hold)
      rw [if_neg hne]
      refine h.start_run e p hold hphase ?_
      have hlookup : (history.active.insert spanId traceId).lookup e.spanId = history.active.lookup e.spanId := by
        rw [lookup_insert_eq, if_neg hne]
      rw [← hlookup]
      exact hs

theorem follows_onStart (hf : Follows registry history) :
    Follows (startSpan registry traceId spanId parentSpanId input).1
      (history.onStart traceId spanId (startSpan registry traceId spanId parentSpanId input).2) := by
  have htracks := tracks_onStart h hfresh hparent input
  obtain ⟨runId, runStarted, hstart, hstarts, hevents, hends⟩ := startSpan_cases spanId h hparent input
  refine ⟨counted_of_tracks htracks, mapped_of_tracks htracks, ?_, ?_, ?_, ?_, ?_, isEmpty_of_tracks htracks⟩
  case refine_1 =>
    intro e e' p hmem hmem' htrace
    by_cases hp : p = history.period e.traceId
    · -- in the period that goes on, every event has the run that the trace is mapped to
      have hrun := (htracks.events e p hmem).2 hp
      have hrun' := (htracks.events e' p hmem').2 (htrace ▸ hp)
      rw [htrace, hrun'] at hrun
      exact (Option.some.inj hrun).symm
    · have hold : (e, p) ∈ history.events := by
        rcases mem_events_called.1 hmem with ⟨hnew, rfl⟩ | hold
        · exact absurd (congrArg history.period (hevents e hnew).2.2.1.symm) hp
        · exact hold
      have hold' : (e', p) ∈ history.events := by
        rcases mem_events_called.1 hmem' with ⟨hnew, rfl⟩ | hold
        · exact absurd (congrArg history.period (htrace.trans (hevents e' hnew).2.2.1).symm) hp
        · exact hold
      exact hf.oneRun e e' p hold hold' htrace
  case refine_2 =>
    intro e e' p p' hmem hmem' hphase hphase' hspan
    have hold' : (e', p') ∈ history.events := by
      rcases mem_events_called.1 hmem' with ⟨hnew, -⟩ | hold
      · rw [(hevents e' hnew).1] at hphase'
        cases hphase'
      · exact hold
    rcases mem_events_called.1 hmem with ⟨hnew, -⟩ | hold
    · have hknown := h.known e' p' hold'
      rw [← hspan, (hevents e hnew).2.2.2] at hknown
      exact absurd hknown hfresh
    · exact hf.sameRun e e' p p' hold hold' hphase hphase' hspan
  case refine_3 =>
    show ((((startSpan registry traceId spanId parentSpanId input).2.filterMap Callback.runStart?).map _) ++ history.runStarts).Nodup
    rw [hstarts]
    split
    · rename_i hstarted
      refine List.nodup_cons.2 ⟨fun hmem => ?_, hf.starts_nodup⟩
      rcases hstart.kept with ⟨-, hfalse⟩ | hnone
      · rw [hstarted] at hfalse
        cases hfalse
      · rw [(h.starts _ _ _ hmem).2 rfl] at hnone
        cases hnone
    · exact hf.starts_nodup
  case refine_4 =>
    show ((((startSpan registry traceId spanId parentSpanId input).2.filterMap Callback.runEnd?).map _) ++ history.runEnds).Nodup
    rw [hends]
    exact hf.ends_nodup
  case refine_5 =>
    intro r t p
    refine mem_runEnds_called.trans ?_
    rw [hends, hf.ended]
    have hperiod : (history.onStart traceId spanId (startSpan registry traceId spanId parentSpanId input).2).period t =
      history.period t := rfl
    rw [hperiod]
    constructor
    · rintro (⟨hmem, -⟩ | ⟨hmem, hlt⟩)
      · cases hmem
      · exact ⟨mem_runStarts_called.2 (Or.inr hmem), hlt⟩
    · rintro ⟨hmem, hlt⟩
      rcases mem_runStarts_called.1 hmem with ⟨hnew, rfl⟩ | hold
      · rw [hstarts] at hnew
        split at hnew
        · obtain ⟨-, rfl⟩ := Prod.mk.inj (List.mem_singleton.1 hnew)
          exact absurd hlt (Nat.lt_irrefl _)
        · cases hnew
      · exact Or.inr ⟨hold, hlt⟩

end Start

/-! ## A span that ends -/

/-- The registry after a span has ended, where `left` spans of its trace are still active. -/
structure Ending (registry registry' : Registry) (traceId : TraceId) (spanId : SpanId) (left : Nat) : Prop where
  traceToRun : ∀ t, registry'.traceToRun.lookup t = if t = traceId ∧ left = 0 then none else registry.traceToRun.lookup t
  count : ∀ t, registry'.traceActiveCounts.lookup t =
    if t = traceId then if left = 0 then none else some left else registry.traceActiveCounts.lookup t
  rootEnded : ∀ t, t ∈ registry'.traceRootEnded ↔
    (t = traceId ∧ registry.spanToRunStarted.lookup spanId = some true ∨ t ∈ registry.traceRootEnded) ∧ ¬(t = traceId ∧ left = 0)

/-- The spans of a trace that started a run, before one of them ends. -/
theorem exists_flagged_erase {active : Dict SpanId TraceId} (hactive : active.lookup spanId = some traceId) (flags : Dict SpanId Bool)
    (t : TraceId) :
    (∃ s, active.lookup s = some t ∧ flags.lookup s = some true) ↔
      t = traceId ∧ flags.lookup spanId = some true ∨
        ∃ s, (active.erase spanId).lookup s = some t ∧ (flags.erase spanId).lookup s = some true := by
  constructor
  · rintro ⟨s, hs, hflag⟩
    by_cases hne : s = spanId
    · subst hne
      rw [hactive] at hs
      exact Or.inl ⟨(Option.some.inj hs).symm, hflag⟩
    · exact Or.inr ⟨s, by rw [lookup_erase_eq, if_neg hne, hs], by rw [lookup_erase_eq, if_neg hne, hflag]⟩
  · rintro (⟨rfl, hflag⟩ | ⟨s, hs, hflag⟩)
    · exact ⟨spanId, hactive, hflag⟩
    · have hne : s ≠ spanId := by
        rintro rfl
        rw [lookup_erase_eq, if_pos rfl] at hs
        cases hs
      rw [lookup_erase_eq, if_neg hne] at hs hflag
      exact ⟨s, hs, hflag⟩

/-- The traces whose run was started by a span that has ended, when one more has. -/
theorem mem_rootEnded (flags : Dict SpanId Bool) (traces : Finset TraceId) (t : TraceId) :
    t ∈ (if (flags.lookup spanId).getD false then insert traceId traces else traces) ↔
      t = traceId ∧ flags.lookup spanId = some true ∨ t ∈ traces := by
  rcases hflag : flags.lookup spanId with _ | _ | _
  · simp
  · simp
  · simp

/-- A period is over when the last active span of its trace ends. -/
theorem period_onEnd (history : History) (traceId : TraceId) (spanId : SpanId) (calls : List Callback) (t : TraceId) :
    (history.onEnd traceId spanId calls).period t =
      if t = traceId ∧ activeIn (history.active.erase spanId) traceId = 0 then history.period t + 1 else history.period t := by
  simp only [History.period, History.onEnd]
  split
  · rename_i hzero
    by_cases ht : t = traceId
    · rw [if_pos ⟨ht, hzero⟩, ht, List.count_cons_self]
    · rw [if_neg fun hboth => ht hboth.1, List.count_cons_of_ne (Ne.symm ht)]
  · rename_i hopen
    rw [if_neg fun hboth => hopen hboth.2]

/-! What a history sees of a span that ends. -/

theorem le_period_onEnd (history : History) (traceId : TraceId) (spanId : SpanId) (calls : List Callback) (t : TraceId) :
    history.period t ≤ (history.onEnd traceId spanId calls).period t := by
  rw [period_onEnd]
  split
  · exact Nat.le_succ _
  · exact Nat.le_refl _

section Seen

variable {calls : List Callback} {event : Event} {ends : Bool} {runId : RunId}
  (hcalls : calls = .event event :: if ends then [.runEnd runId traceId] else [])

include hcalls

theorem mem_events_onEnd {e : Event} {p : Nat} : (e, p) ∈ (history.onEnd traceId spanId calls).events ↔
    e = event ∧ p = history.period traceId ∨ (e, p) ∈ history.events := by
  have hevent : calls.filterMap Callback.event? = [event] := by
    rw [hcalls]
    cases ends <;> rfl
  refine mem_events_called.trans ?_
  rw [hevent, List.mem_singleton]

theorem runStarts_onEnd : (history.onEnd traceId spanId calls).runStarts = history.runStarts := by
  subst hcalls
  cases ends <;> rfl

theorem runEnds_onEnd : (history.onEnd traceId spanId calls).runEnds =
    if ends then (runId, traceId, history.period traceId) :: history.runEnds else history.runEnds := by
  subst hcalls
  cases ends <;> rfl

theorem mem_runEnds_onEnd {entry : RunId × TraceId × Nat} : entry ∈ (history.onEnd traceId spanId calls).runEnds ↔
    ends = true ∧ entry = (runId, traceId, history.period traceId) ∨ entry ∈ history.runEnds := by
  rw [runEnds_onEnd hcalls]
  cases ends with
  | false => exact (or_iff_right fun hboth => Bool.false_ne_true hboth.1).symm
  | true => exact List.mem_cons.trans (or_congr_left (and_iff_right rfl).symm)

end Seen

section End

variable (h : Tracks registry history) (hactive : history.active.lookup spanId = some traceId)

include h hactive

/-- The run of a span that ends is that of its trace. -/
theorem exists_run : ∃ runId, registry.spanToRun.lookup spanId = some runId ∧ registry.traceToRun.lookup traceId = some runId := by
  obtain ⟨runId, hrun⟩ := Option.isSome_iff_exists.1 ((h.mapped traceId).2 (activeIn_pos hactive))
  exact ⟨runId, by rw [h.run_trace spanId traceId hactive, hrun], hrun⟩

/-- The count of a trace, after a span of it has ended. -/
theorem count_eq :
    (registry.traceActiveCounts.lookup traceId).getD 1 - 1 = activeIn (history.active.erase spanId) traceId := by
  have hpos : history.activeCount traceId ≠ 0 := Nat.ne_of_gt (activeIn_pos hactive)
  have hless := activeIn_erase hactive traceId
  rw [if_pos rfl] at hless
  rw [h.count, if_neg hpos, Option.getD_some, History.activeCount, hless, Nat.add_sub_cancel]

theorem ending_endSpan (input : Input) :
    Ending registry (endSpan registry traceId spanId input).1 traceId spanId (activeIn (history.active.erase spanId) traceId) := by
  constructor
  case traceToRun =>
    intro t
    simp only [endSpan, count_eq h hactive]
    by_cases hzero : activeIn (history.active.erase spanId) traceId = 0
    · simp only [hzero, if_true, and_true, lookup_erase_eq]
    · simp only [hzero, if_false, and_false]
  case count =>
    intro t
    simp only [endSpan, count_eq h hactive]
    by_cases hzero : activeIn (history.active.erase spanId) traceId = 0
    · simp only [hzero, if_true, lookup_erase_eq]
    · simp only [hzero, if_false, lookup_insert_eq]
  case rootEnded =>
    intro t
    simp only [endSpan, count_eq h hactive]
    by_cases hzero : activeIn (history.active.erase spanId) traceId = 0
    · simp only [hzero, if_true, and_true, Finset.mem_erase, mem_rootEnded]
      exact and_comm
    · simp only [hzero, if_false, and_false, not_false_eq_true, and_true, mem_rootEnded]

/-- A run was reported to start in the period that ends with the last span of its trace, if one of the spans started it. -/
theorem announced_last (hzero : activeIn (history.active.erase spanId) traceId = 0) :
    (∃ r, (r, traceId, history.period traceId) ∈ history.runStarts) ↔
      traceId = traceId ∧ registry.spanToRunStarted.lookup spanId = some true ∨ traceId ∈ registry.traceRootEnded := by
  have hnone : ¬∃ s, (history.active.erase spanId).lookup s = some traceId ∧
      (registry.spanToRunStarted.erase spanId).lookup s = some true := by
    rintro ⟨s, hs, -⟩
    exact Nat.ne_of_gt (activeIn_pos hs) hzero
  rw [h.announced traceId (activeIn_pos hactive), exists_flagged_erase hactive, or_iff_left hnone]
  exact or_comm

/-- What `endSpan` calls: the last span of a trace reports the run to end, if it was reported to start and the callback of the event
does not raise. -/
theorem calls_endSpan (input : Input) :
    ∃ runId event ends, registry.spanToRun.lookup spanId = some runId ∧ registry.traceToRun.lookup traceId = some runId ∧
      (endSpan registry traceId spanId input).2 = .event event :: (if ends then [.runEnd runId traceId] else []) ∧
      (event.phase = .end ∧ event.runId = runId ∧ event.traceId = traceId ∧ event.spanId = spanId) ∧
      (ends = true ↔ activeIn (history.active.erase spanId) traceId = 0 ∧
        (∃ r, (r, traceId, history.period traceId) ∈ history.runStarts) ∧ input.eventRaises = false) := by
  obtain ⟨runId, hspan, htrace⟩ := exists_run h hactive
  have hrun : ((registry.spanToRun.lookup spanId).or (registry.traceToRun.lookup traceId)).getD input.madeRunId = runId := by
    rw [hspan]
    rfl
  refine ⟨_, _, _, ?_, ?_, rfl, ⟨rfl, rfl, rfl, rfl⟩, ?_⟩
  · rw [hrun, hspan]
  · rw [hrun, htrace]
  · rw [Bool.and_eq_true, decide_eq_true_iff, mem_rootEnded, count_eq h hactive, Bool.not_eq_true', and_assoc]
    by_cases hzero : activeIn (history.active.erase spanId) traceId = 0
    · rw [← announced_last h hactive hzero]
      exact and_left_comm
    · simp only [hzero, false_and, and_false]

theorem tracks_onEnd (input : Input) :
    Tracks (endSpan registry traceId spanId input).1
      (history.onEnd traceId spanId (endSpan registry traceId spanId input).2) := by
  obtain ⟨runId, event, ends, hspan, htrace, hcalls, ⟨hphase, hevent, htraceId, hspanId⟩, -⟩ := calls_endSpan h hactive input
  have hending := ending_endSpan h hactive input
  have hcount : ∀ t, history.activeCount t = activeIn (history.active.erase spanId) t + if traceId = t then 1 else 0 :=
    activeIn_erase hactive
  have hperiod := period_onEnd history traceId spanId (endSpan registry traceId spanId input).2
  -- an active span is not the one that ended, and was active before
  have hkept : ∀ s t, (history.active.erase spanId).lookup s = some t → s ≠ spanId ∧ history.active.lookup s = some t := by
    intro s t hs
    rw [lookup_erase_eq] at hs
    split at hs
    · cases hs
    · rename_i hne
      exact ⟨hne, hs⟩
  -- what was called in a period that goes on was called in it before, and its trace is still mapped
  have hsame : ∀ t p, p ≤ history.period t →
      p = (history.onEnd traceId spanId (endSpan registry traceId spanId input).2).period t →
      p = history.period t ∧ (endSpan registry traceId spanId input).1.traceToRun.lookup t = registry.traceToRun.lookup t := by
    intro t p hle hp
    rw [hperiod] at hp
    rw [hending.traceToRun]
    split at hp
    · omega
    · rename_i hopen
      exact ⟨hp, if_neg hopen⟩
  have hle := le_period_onEnd history traceId spanId (endSpan registry traceId spanId input).2
  constructor
  case trace =>
    intro s
    show (registry.spanToTrace.erase spanId).lookup s = (history.active.erase spanId).lookup s
    rw [lookup_erase_eq, lookup_erase_eq, h.trace]
  case parent => exact h.parent.erase spanId
  case user => exact h.user.erase spanId
  case runStarted => exact h.runStarted.erase spanId
  case run => exact h.run.erase spanId
  case run_trace =>
    intro s t hs
    obtain ⟨hne, hold⟩ := hkept s t hs
    have hopen : ¬(t = traceId ∧ activeIn (history.active.erase spanId) traceId = 0) := by
      rintro ⟨rfl, hzero⟩
      exact Nat.ne_of_gt (activeIn_pos hs) hzero
    show (registry.spanToRun.erase spanId).lookup s = _
    rw [lookup_erase_eq, if_neg hne, hending.traceToRun, if_neg hopen, h.run_trace s t hold]
  case count =>
    intro t
    show _ = if activeIn (history.active.erase spanId) t = 0 then none else some (activeIn (history.active.erase spanId) t)
    rw [hending.count]
    by_cases ht : t = traceId
    · rw [if_pos ht, ht]
    · rw [if_neg ht, h.count, hcount, if_neg (Ne.symm ht), Nat.add_zero]
  case mapped =>
    intro t
    show _ ↔ 0 < activeIn (history.active.erase spanId) t
    rw [hending.traceToRun]
    by_cases ht : t = traceId
    · subst ht
      rw [htrace]
      by_cases hzero : activeIn (history.active.erase spanId) t = 0
      · simp [hzero]
      · simp [hzero, Nat.pos_of_ne_zero hzero]
    · rw [if_neg fun hboth => ht hboth.1, h.mapped, hcount, if_neg (Ne.symm ht), Nat.add_zero]
  case rootEnded =>
    intro t ht
    show 0 < activeIn (history.active.erase spanId) t
    obtain ⟨hin, hopen⟩ := (hending.rootEnded t).1 ht
    by_cases hne : t = traceId
    · subst hne
      exact Nat.pos_of_ne_zero fun hzero => hopen ⟨rfl, hzero⟩
    · have hpos := h.rootEnded t (hin.resolve_left fun hboth => hne hboth.1)
      rw [hcount, if_neg (Ne.symm hne)] at hpos
      exact hpos
  case announced =>
    intro t hpos
    have hopen : ¬(t = traceId ∧ activeIn (history.active.erase spanId) traceId = 0) := by
      rintro ⟨rfl, hzero⟩
      exact Nat.ne_of_gt hpos hzero
    have hbefore : 0 < history.activeCount t := by
      rw [hcount]
      exact Nat.lt_of_lt_of_le hpos (Nat.le_add_right _ _)
    have hmem : (∃ r, (r, t, (history.onEnd traceId spanId (endSpan registry traceId spanId input).2).period t) ∈
        (history.onEnd traceId spanId (endSpan registry traceId spanId input).2).runStarts) ↔
          ∃ r, (r, t, history.period t) ∈ history.runStarts := by
      rw [hperiod, if_neg hopen, runStarts_onEnd hcalls]
    rw [hmem, h.announced t hbefore, hending.rootEnded, exists_flagged_erase hactive, and_iff_left hopen]
    exact or_left_comm.trans or_assoc.symm
  case starts =>
    intro r t p hmem
    rw [runStarts_onEnd hcalls] at hmem
    obtain ⟨hp, hrun⟩ := h.starts r t p hmem
    refine ⟨Nat.le_trans hp (hle t), fun hnow => ?_⟩
    obtain ⟨hbefore, hlookup⟩ := hsame t p hp hnow
    rw [hlookup, hrun hbefore]
  case events =>
    intro e p hmem
    rcases (mem_events_onEnd hcalls).1 hmem with ⟨rfl, rfl⟩ | hold
    · rw [htraceId]
      refine ⟨hle traceId, fun hnow => ?_⟩
      rw [(hsame traceId _ (Nat.le_refl _) hnow).2, htrace, hevent]
    · obtain ⟨hp, hrun⟩ := h.events e p hold
      refine ⟨Nat.le_trans hp (hle _), fun hnow => ?_⟩
      obtain ⟨hbefore, hlookup⟩ := hsame _ p hp hnow
      rw [hlookup, hrun hbefore]
  case known =>
    intro e p hmem
    rcases (mem_events_onEnd hcalls).1 hmem with ⟨rfl, -⟩ | hold
    · rw [hspanId]
      exact h.active_started spanId (by rw [hactive]; rfl)
    · exact h.known e p hold
  case active_started =>
    intro s hs
    obtain ⟨t, ht⟩ := Option.isSome_iff_exists.1 hs
    exact h.active_started s (by rw [(hkept s t ht).2]; rfl)
  case start_run =>
    intro e p hmem hstart hs
    rcases (mem_events_onEnd hcalls).1 hmem with ⟨rfl, -⟩ | hold
    · rw [hphase] at hstart
      cases hstart
    · obtain ⟨t, ht⟩ := Option.isSome_iff_exists.1 hs
      obtain ⟨hne, hlookup⟩ := hkept _ t ht
      show (registry.spanToRun.erase spanId).lookup e.spanId = _
      rw [lookup_erase_eq, if_neg hne]
      exact h.start_run e p hold hstart (by rw [hlookup]; rfl)

/-- The registry follows the spans after one has ended, exactly if the end of the run is not lost with it. -/
theorem follows_onEnd_iff (hf : Follows registry history) (input : Input) :
    Follows (endSpan registry traceId spanId input).1
        (history.onEnd traceId spanId (endSpan registry traceId spanId input).2) ↔
      (activeIn (history.active.erase spanId) traceId = 0 →
        ∀ r, (r, traceId, history.period traceId) ∈ history.runStarts → input.eventRaises = false) := by
  have htracks := tracks_onEnd h hactive input
  obtain ⟨runId, event, ends, hspan, htrace, hcalls, ⟨hphase, hevent, htraceId, hspanId⟩, hends⟩ := calls_endSpan h hactive input
  have hperiod := period_onEnd history traceId spanId (endSpan registry traceId spanId input).2
  have hnotyet : ∀ r t, (r, t, history.period t) ∉ history.runEnds :=
    fun r t hmem => Nat.lt_irrefl _ ((hf.ended r t _).1 hmem).2
  constructor
  case mp =>
    intro hafter hzero r hmem
    have hover : history.period traceId <
        (history.onEnd traceId spanId (endSpan registry traceId spanId input).2).period traceId := by
      rw [hperiod, if_pos ⟨rfl, hzero⟩]
      exact Nat.lt_succ_self _
    have hreported := (hafter.ended r traceId _).2 ⟨by rw [runStarts_onEnd hcalls]; exact hmem, hover⟩
    rcases (mem_runEnds_onEnd hcalls).1 hreported with ⟨htrue, -⟩ | hold
    · exact (hends.1 htrue).2.2
    · exact absurd hold (hnotyet r traceId)
  case mpr =>
    intro hgood
    refine ⟨counted_of_tracks htracks, mapped_of_tracks htracks, ?_, ?_, ?_, ?_, ?_, isEmpty_of_tracks htracks⟩
    case refine_1 =>
      intro e e' p hmem hmem' hsame
      rcases (mem_events_onEnd hcalls).1 hmem with ⟨rfl, rfl⟩ | hold <;>
        rcases (mem_events_onEnd hcalls).1 hmem' with ⟨rfl, hp⟩ | hold'
      · rfl
      · have hrun := (h.events e' _ hold').2 (by rw [← hsame, htraceId])
        rw [← hsame, htraceId, htrace, ← hevent] at hrun
        exact Option.some.inj hrun
      · have hrun := (h.events e _ hold).2 (by rw [hsame, htraceId, hp])
        rw [hsame, htraceId, htrace, ← hevent] at hrun
        exact (Option.some.inj hrun).symm
      · exact hf.oneRun e e' p hold hold' hsame
    case refine_2 =>
      intro e e' p p' hmem hmem' hstart hend hsame
      rcases (mem_events_onEnd hcalls).1 hmem with ⟨rfl, -⟩ | hold
      · rw [hphase] at hstart
        cases hstart
      · rcases (mem_events_onEnd hcalls).1 hmem' with ⟨rfl, -⟩ | hold'
        · -- the run of the span's start is the one the registry kept for it
          rw [hspanId] at hsame
          have hrun := h.start_run e p hold hstart (by rw [hsame, hactive]; rfl)
          rw [hsame, hspan, ← hevent] at hrun
          exact (Option.some.inj hrun).symm
        · exact hf.sameRun e e' p p' hold hold' hstart hend hsame
    case refine_3 =>
      rw [runStarts_onEnd hcalls]
      exact hf.starts_nodup
    case refine_4 =>
      rw [runEnds_onEnd hcalls]
      split
      · exact List.nodup_cons.2 ⟨hnotyet runId traceId, hf.ends_nodup⟩
      · exact hf.ends_nodup
    case refine_5 =>
      intro r t p
      rw [runStarts_onEnd hcalls, mem_runEnds_onEnd hcalls, hf.ended]
      constructor
      · rintro (⟨htrue, heq⟩ | ⟨hmem, hlt⟩)
        · -- the run that is reported to end is the one that was reported to start
          cases heq
          obtain ⟨hzero, ⟨r', hr'⟩, -⟩ := hends.1 htrue
          have hrun := (h.starts r' _ _ hr').2 rfl
          rw [htrace] at hrun
          cases hrun
          refine ⟨hr', ?_⟩
          rw [hperiod, if_pos ⟨rfl, hzero⟩]
          exact Nat.lt_succ_self _
        · exact ⟨hmem, Nat.lt_of_lt_of_le hlt (le_period_onEnd _ _ _ _ _)⟩
      · rintro ⟨hmem, hlt⟩
        by_cases hearlier : p < history.period t
        · exact Or.inr ⟨hmem, hearlier⟩
        · have hp := Nat.le_antisymm (h.starts r _ p hmem).1 (Nat.le_of_not_lt hearlier)
          subst hp
          rw [hperiod] at hlt
          split at hlt
          · rename_i hlast
            obtain ⟨rfl, hzero⟩ := hlast
            have hrun := (h.starts r t _ hmem).2 rfl
            rw [htrace] at hrun
            cases hrun
            exact Or.inl ⟨hends.2 ⟨hzero, ⟨runId, hmem⟩, hgood hzero runId hmem⟩, rfl⟩
          · exact absurd hlt hearlier

end End

/-! ## One step -/

variable {w : Registry × History} {a : Step}

theorem kept_of_reported (h : Tracks w.1 w.2 ∧ Follows w.1 w.2) (hwell : WellFormed w.2 a) (hgood : EndReported w.2 a) :
    Tracks (monitor step observe w a).1 (monitor step observe w a).2 ∧
      Follows (monitor step observe w a).1 (monitor step observe w a).2 := by
  cases a with
  | onStart span input =>
    cases hids : span.ids with
    | none =>
      simp only [monitor, step, turn, observe, hids]
      exact h
    | some ids =>
      obtain ⟨hfresh, hparent⟩ := hwell ids.1 ids.2 hids
      simp only [monitor, step, turn, observe, hids]
      exact ⟨tracks_onStart h.1 hfresh hparent input, follows_onStart h.1 hfresh hparent input h.2⟩
  | onEnd span input =>
    cases hids : span.ids with
    | none =>
      simp only [monitor, step, turn, observe, hids]
      exact h
    | some ids =>
      have hactive := hwell ids.1 ids.2 hids
      simp only [monitor, step, turn, observe, hids]
      refine ⟨tracks_onEnd h.1 hactive input, (follows_onEnd_iff h.1 hactive h.2 input).2 fun hzero => ?_⟩
      refine hgood ids.1 ids.2 hids ?_
      rw [History.activeCount, activeIn_erase hactive, hzero, if_pos rfl]

theorem reported_of_follows (h : Tracks w.1 w.2 ∧ Follows w.1 w.2) (hwell : WellFormed w.2 a)
    (hafter : Follows (monitor step observe w a).1 (monitor step observe w a).2) : EndReported w.2 a := by
  cases a with
  | onStart span input => trivial
  | onEnd span input =>
    intro traceId spanId hids hone
    have hactive := hwell traceId spanId hids
    simp only [monitor, step, turn, observe, hids] at hafter
    refine (follows_onEnd_iff h.1 hactive h.2 input).1 hafter ?_
    have hless := activeIn_erase hactive traceId
    rw [if_pos rfl] at hless
    rw [History.activeCount] at hone
    omega

end RegistryAux

open RegistryAux

/-! ## Every run -/

/-- The root span of a trace. -/
def rootSpan : Span := { traceId := some 0xABC, spanId := some 0x123 }

/-- A child of the root span. -/
def childSpan : Span := { traceId := some 0xABC, spanId := some 0x456, parent := some 0x123 }

/-- The run that a factory makes. -/
def made : RunId := ⟨"run-1", by decide⟩

/-- The root span ends before its child. -/
def outlived : List Step :=
  [.onStart rootSpan { madeRunId := made }, .onStart childSpan { madeRunId := made }, .onEnd rootSpan { madeRunId := made },
    .onEnd childSpan { madeRunId := made }]

/-- The event of the root span's end is not taken. -/
def unheard : List Step :=
  [.onStart rootSpan { madeRunId := made }, .onEnd rootSpan { madeRunId := made, eventRaises := true }]

end Tracing

end PromptRail
