import PromptRail.Runtime

/-!
# Spans that began before the processor was attached

A span is registered when the processor is told of its start, or when a run is ensured while it is the current one. The end of any other
span reaches the processor all the same, and counts against the spans of its trace that are registered: the counter of the trace does not
say which spans it counts.
-/

namespace PromptRail

namespace Runtime

open PyText (Text)
open Table (Dict lookup_insert_eq lookup_erase_eq)
open Tracing (TraceId SpanId Span Registry Callback Input endSpan)
open Transition

/-- A callback of the processor, or a run that is ensured for the current span. -/
inductive RegistryStep where
  | span (a : Tracing.Step)
  | ensure (current : Option Span) (runId : RunId) (userId : Option Text)

/-- The registry after a step. -/
def registryStep (registry : Registry) : RegistryStep → Registry
  | .span a => Tracing.step registry a
  | .ensure current runId userId =>
    let snapshot := currentTraceSnapshot registry current
    snapshot.traceId.elim registry fun traceId => (ensureCurrentTraceRun registry snapshot traceId runId userId).1

/-- The span that a step registers. -/
def RegistryStep.registers (registry : Registry) : RegistryStep → Option (TraceId × SpanId)
  | .span (.onStart started _) => started.ids
  | .span (.onEnd _ _) => none
  | .ensure current _ _ =>
    let snapshot := currentTraceSnapshot registry current
    match snapshot.traceId, snapshot.spanId with
    | some traceId, some spanId =>
      if ((registry.traceToRun.lookup traceId).or (registry.spanToRun.lookup spanId)).isSome then none else some (traceId, spanId)
    | _, _ => none

/-- The spans that were registered so far. -/
def observeRegistered (registered : List (TraceId × SpanId)) (registry : Registry) (a : RegistryStep) (_ : Registry) :
    List (TraceId × SpanId) := (a.registers registry).toList ++ registered

/-- A registered span of a trace is active. -/
def ActiveIn (registry : Registry) (traceId : TraceId) : Prop := ∃ spanId, registry.spanToTrace.lookup spanId = some traceId

/-- The run of a span that starts in a trace. -/
def laterRun (registry : Registry) (traceId : TraceId) (parentSpanId : Option SpanId) (input : Input) : RunId :=
  (Tracing.runOfStart registry.traceToRun traceId (parentSpanId.bind registry.spanToRun.lookup) parentSpanId.isNone input).1

/-- The end of a span leaves its trace as it is: the number of active spans, the run, and whether the run is to end with the last of them.
Later spans of the trace have the run they would have had, and the run is not reported to end while a registered span is active. -/
structure Undisturbed (registry : Registry) (traceId : TraceId) (spanId : SpanId) (input : Input) : Prop where
  counted : (endSpan registry traceId spanId input).1.traceActiveCounts.lookup traceId = registry.traceActiveCounts.lookup traceId
  mapped : (endSpan registry traceId spanId input).1.traceToRun.lookup traceId = registry.traceToRun.lookup traceId
  rootEnded : traceId ∈ (endSpan registry traceId spanId input).1.traceRootEnded ↔ traceId ∈ registry.traceRootEnded
  later : ∀ parent input', parent ≠ some spanId →
    laterRun (endSpan registry traceId spanId input).1 traceId parent input' = laterRun registry traceId parent input'
  notEnded : ActiveIn registry traceId → ∀ runId, .runEnd runId traceId ∉ (endSpan registry traceId spanId input).2

/-- No span of the trace is counted and no run is its own, and where a registered span of it is active the span that ends has not begun
a run in another trace. -/
structure Quiet (registry : Registry) (traceId : TraceId) (spanId : SpanId) (input : Input) : Prop where
  uncounted : registry.traceActiveCounts.lookup traceId = none
  unmapped : registry.traceToRun.lookup traceId = none
  elsewhere : ActiveIn registry traceId → registry.spanToRunStarted.lookup spanId = some true → input.eventRaises = true

/-- A condition on the end of every span that was never registered. -/
def OnUnregistered (P : Registry → TraceId → SpanId → Input → Prop) (s : Registry × List (TraceId × SpanId)) : RegistryStep → Prop
  | .span (.onEnd span input) => ∀ traceId spanId, span.ids = some (traceId, spanId) → (traceId, spanId) ∉ s.2 → P s.1 traceId spanId input
  | .span (.onStart _ _) | .ensure _ _ _ => True

namespace AttachmentAux

/-- A counter is positive, and a trace whose root has ended has one. -/
structure Counted (registry : Registry) : Prop where
  positive : ∀ traceId n, registry.traceActiveCounts.lookup traceId = some n → 0 < n
  rootEnded : ∀ traceId ∈ registry.traceRootEnded, registry.traceActiveCounts.lookup traceId ≠ none

variable {registry : Registry} {traceId : TraceId} {spanId : SpanId}

/-- One more span of a trace. -/
theorem counted_insert (h : Counted registry) {registry' : Registry} {n : Nat}
    (hcounts : registry'.traceActiveCounts = registry.traceActiveCounts.insert traceId (n + 1))
    (hroots : registry'.traceRootEnded = registry.traceRootEnded) : Counted registry' := by
  constructor
  · intro t m hm
    rw [hcounts, lookup_insert_eq] at hm
    split at hm
    · cases hm
      exact Nat.succ_pos n
    · exact h.positive t m hm
  · intro t ht
    rw [hroots] at ht
    rw [hcounts, lookup_insert_eq]
    split
    · exact Option.some_ne_none _
    · exact h.rootEnded t ht

theorem counted_startSpan (h : Counted registry) (parentSpanId : Option SpanId) (input : Input) :
    Counted (Tracing.startSpan registry traceId spanId parentSpanId input).1 := counted_insert h rfl rfl

theorem counted_endSpan (h : Counted registry) (input : Input) : Counted (endSpan registry traceId spanId input).1 := by
  have hother : ∀ t ≠ traceId, (endSpan registry traceId spanId input).1.traceActiveCounts.lookup t =
      registry.traceActiveCounts.lookup t := by
    intro t ht
    simp only [endSpan]
    split
    · rw [lookup_erase_eq, if_neg ht]
    · rw [lookup_insert_eq, if_neg ht]
  constructor
  · intro t n hn
    by_cases ht : t = traceId
    · subst ht
      simp only [endSpan] at hn
      split at hn
      · rw [lookup_erase_eq, if_pos rfl] at hn
        cases hn
      · rename_i hcount
        rw [lookup_insert_eq, if_pos rfl] at hn
        cases hn
        exact Nat.pos_of_ne_zero hcount
    · exact h.positive t n ((hother t ht).symm.trans hn)
  · intro t hroot
    by_cases ht : t = traceId
    · subst ht
      simp only [endSpan] at hroot ⊢
      split at hroot
      · exact absurd rfl (Finset.ne_of_mem_erase hroot)
      · rename_i hcount
        rw [if_neg hcount, lookup_insert_eq, if_pos rfl]
        exact Option.some_ne_none _
    · rw [hother t ht]
      refine h.rootEnded t ?_
      have hinsert : ∀ {p : Prop} [Decidable p], t ∈ (if p then insert traceId registry.traceRootEnded else registry.traceRootEnded) →
          t ∈ registry.traceRootEnded := by
        intro p _ hmem
        split at hmem
        · exact (Finset.mem_insert.1 hmem).resolve_left ht
        · exact hmem
      simp only [endSpan] at hroot
      split at hroot
      · exact hinsert (Finset.mem_of_mem_erase hroot)
      · exact hinsert hroot

theorem counted_ensure (h : Counted registry) (snapshot : TraceSnapshot) (runId : RunId) (userId : Option Text) :
    Counted (ensureCurrentTraceRun registry snapshot traceId runId userId).1 := by
  rw [ensureCurrentTraceRun]
  split
  · exact h
  · dsimp only
    split
    · exact ⟨h.positive, h.rootEnded⟩
    · exact counted_insert h rfl rfl

/-- Every step keeps the counters positive. -/
theorem counted_registryStep (h : Counted registry) (a : RegistryStep) : Counted (registryStep registry a) := by
  cases a with
  | span a =>
    cases a with
    | onStart span input =>
      rw [registryStep, Tracing.step, Tracing.turn]
      split
      · exact h
      · exact counted_startSpan h _ input
    | onEnd span input =>
      rw [registryStep, Tracing.step, Tracing.turn]
      split
      · exact h
      · exact counted_endSpan h input
  | ensure current runId userId =>
    rw [registryStep]
    cases (currentTraceSnapshot registry current).traceId with
    | none => exact h
    | some traceId => exact counted_ensure h _ runId userId

/-! ## The end of a span -/

/-- The counter of a trace that counts no span is the last one of it. -/
theorem endSpan_uncounted (spanId : SpanId) (hcount : registry.traceActiveCounts.lookup traceId = none) (input : Input) :
    (endSpan registry traceId spanId input).1.traceActiveCounts = registry.traceActiveCounts.erase traceId ∧
      (endSpan registry traceId spanId input).1.traceToRun = registry.traceToRun.erase traceId ∧
      traceId ∉ (endSpan registry traceId spanId input).1.traceRootEnded := by
  have hzero : (registry.traceActiveCounts.lookup traceId).getD 1 - 1 = 0 := by rw [hcount, Option.getD_none]
  simp only [endSpan, if_pos hzero]
  exact ⟨trivial, trivial, Finset.notMem_erase _ _⟩

/-- A trace that counts a span counts one less. -/
theorem lookup_endSpan_counted {n : Nat} (hcount : registry.traceActiveCounts.lookup traceId = some n) (hn : 0 < n) (input : Input) :
    (endSpan registry traceId spanId input).1.traceActiveCounts.lookup traceId ≠ some n := by
  simp only [endSpan, hcount, Option.getD_some]
  split
  · rw [lookup_erase_eq, if_pos rfl]
    exact fun h => nomatch h
  · rw [lookup_insert_eq, if_pos rfl]
    intro heq
    have := Option.some.inj heq
    omega

/-- The run that is reported to end is that of a trace without another span, whose root has ended. -/
theorem runEnd_mem_iff (input : Input) {runId : RunId} : .runEnd runId traceId ∈ (endSpan registry traceId spanId input).2 ↔
    runId = ((registry.spanToRun.lookup spanId).or (registry.traceToRun.lookup traceId)).getD input.madeRunId ∧
      (registry.spanToRunStarted.lookup spanId = some true ∨ traceId ∈ registry.traceRootEnded) ∧
      (registry.traceActiveCounts.lookup traceId).getD 1 - 1 = 0 ∧ input.eventRaises = false := by
  have hroot : traceId ∈ (if (registry.spanToRunStarted.lookup spanId).getD false = true then insert traceId registry.traceRootEnded
      else registry.traceRootEnded) ↔ registry.spanToRunStarted.lookup spanId = some true ∨ traceId ∈ registry.traceRootEnded := by
    cases registry.spanToRunStarted.lookup spanId with
    | none => simp
    | some b => cases b <;> simp
  simp only [endSpan, List.mem_cons, reduceCtorEq, false_or]
  rw [List.mem_ite_nil_right, Bool.and_eq_true, decide_eq_true_eq, hroot, Bool.not_eq_true', List.mem_singleton, Callback.runEnd.injEq]
  constructor
  · rintro ⟨⟨⟨hended, hlast⟩, hraises⟩, hrun, -⟩
    exact ⟨hrun, hended, hlast, hraises⟩
  · rintro ⟨hrun, hended, hlast, hraises⟩
    exact ⟨⟨⟨hended, hlast⟩, hraises⟩, hrun, rfl⟩

/-- The end of a span leaves its trace as it is exactly where nothing of the trace is counted. -/
theorem undisturbed_iff (h : Counted registry) (input : Input) :
    Undisturbed registry traceId spanId input ↔ Quiet registry traceId spanId input := by
  constructor
  · intro hkept
    have huncounted : registry.traceActiveCounts.lookup traceId = none := by
      cases hcount : registry.traceActiveCounts.lookup traceId with
      | none => rfl
      | some n => exact absurd (hkept.counted.trans hcount) (lookup_endSpan_counted hcount (h.positive traceId n hcount) input)
    obtain ⟨-, hmap, -⟩ := endSpan_uncounted spanId huncounted input
    refine ⟨huncounted, ?_, fun hactive hstarted => ?_⟩
    · rw [← hkept.mapped, hmap, lookup_erase_eq, if_pos rfl]
    · by_contra hraises
      refine hkept.notEnded hactive _ ((runEnd_mem_iff input).2 ⟨rfl, Or.inl hstarted, ?_, by simpa using hraises⟩)
      rw [huncounted, Option.getD_none]
  · rintro ⟨huncounted, hunmapped, helsewhere⟩
    obtain ⟨hcounts, hmap, hroot⟩ := endSpan_uncounted spanId huncounted input
    have hrootEnded : traceId ∉ registry.traceRootEnded := fun hmem => h.rootEnded traceId hmem huncounted
    have hmapped : (endSpan registry traceId spanId input).1.traceToRun.lookup traceId = registry.traceToRun.lookup traceId := by
      rw [hmap, lookup_erase_eq, if_pos rfl, hunmapped]
    refine ⟨?_, hmapped, iff_of_false hroot hrootEnded, fun parent input' hparent => ?_, fun hactive runId hend => ?_⟩
    · rw [hcounts, lookup_erase_eq, if_pos rfl, huncounted]
    · have hinherited : parent.bind (endSpan registry traceId spanId input).1.spanToRun.lookup = parent.bind registry.spanToRun.lookup := by
        cases parent with
        | none => rfl
        | some p =>
          simp only [endSpan, Option.bind_some]
          rw [lookup_erase_eq, if_neg fun heq => hparent (congrArg some heq)]
      simp only [laterRun, Tracing.runOfStart, hmapped, hinherited]
      split <;> rfl
    · obtain ⟨-, hstarted | hmem, -, hraises⟩ := (runEnd_mem_iff input).1 hend
      · rw [helsewhere hactive hstarted] at hraises
        cases hraises
      · exact hrootEnded hmem

end AttachmentAux

open AttachmentAux

/-- In every run of the registry, the ends of spans that were never registered leave their traces as they are exactly where nothing of these
traces is counted. -/
theorem unregistered_end_undisturbed_iff (as : List RegistryStep) :
    Along (monitor registryStep observeRegistered) (OnUnregistered Undisturbed) ({}, []) as ↔
      Along (monitor registryStep observeRegistered) (OnUnregistered Quiet) ({}, []) as := by
  refine along_iff_of_invariant (I := fun s => Counted s.1) (fun s a h => counted_registryStep h a) (fun s a h => ?_) ?_ as
  · cases a with
    | span a =>
      cases a with
      | onStart => exact Iff.rfl
      | onEnd span input =>
        simp only [OnUnregistered]
        exact forall₄_congr fun _ _ _ _ => undisturbed_iff h input
    | ensure => exact Iff.rfl
  · exact ⟨fun _ _ h => (nomatch h), fun _ h => absurd h (Finset.notMem_empty _)⟩

/-- A span that was never registered ends while the root of its trace is active: the trace forgets its run. -/
theorem unregistered_end_disturbs :
    ¬∀ as : List RegistryStep, Along (monitor registryStep observeRegistered) (OnUnregistered Undisturbed) ({}, []) as := by
  intro hall
  have hend := (hall [.span (.onStart { traceId := some 1, spanId := some 1 } { madeRunId := ⟨"run_1", by decide⟩ }),
    .span (.onEnd { traceId := some 1, spanId := some 2 } { madeRunId := ⟨"run_2", by decide⟩ })]).2.1
  have hdisturbed := (hend _ _ rfl (by decide)).mapped
  exact absurd hdisturbed (by decide)

end Runtime

end PromptRail
