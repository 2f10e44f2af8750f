import PromptRail.RouteBudget.History
import PromptRail.RouteBudget.Replay

/-!
# Budgets weighed by their history

A computation over classified samples is refused in one case only: when it takes a cycle of no days for the days observed. What it
computes is read back by the setup that saves it, unless the metadata states the same weight under the name that is read first. A budget
saved so can be scored from then on, and what remains of its weight stays within the weight of its period, whatever is charged to it.
-/

namespace PromptRail

open Document (Fields Value get firstPresent)
open PyText (Text)
open Concurrent (Program World Action)
open Transition (Throughout Along throughout_of_along)
open Outcome (bind_ok ok_bind)

namespace RouteBudget

namespace History

variable {env : Env}

/-! ## The median -/

theorem mem_of_sorted_getElem? {values : List ℚ} {i : Nat} {x : ℚ} (h : (values.insertionSort (· ≤ ·))[i]? = some x) : x ∈ values :=
  (List.mem_insertionSort _).1 (List.mem_of_getElem? h)

/-- The median of positive numbers is positive. -/
theorem medianNumber_pos {values : List ℚ} {median : ℚ} (h : medianNumber values = some median) (hpos : ∀ x ∈ values, 0 < x) :
    0 < median := by
  unfold medianNumber at h
  dsimp only at h
  split at h
  · exact hpos median (mem_of_sorted_getElem? h)
  · simp only [Option.bind_eq_bind, Option.bind_eq_some_iff, Option.pure_def, Option.some.injEq] at h
    obtain ⟨lower, hlower, upper, hupper, rfl⟩ := h
    have hl := hpos lower (mem_of_sorted_getElem? hlower)
    have hu := hpos upper (mem_of_sorted_getElem? hupper)
    linarith

/-- Numbers have a median unless there are none. -/
theorem medianNumber_isSome {values : List ℚ} (h : values ≠ []) : ∃ median, medianNumber values = some median := by
  have hlength : 0 < values.length := List.length_pos_iff.2 h
  unfold medianNumber
  dsimp only
  rw [List.length_insertionSort]
  split
  · rw [List.getElem?_eq_getElem (by rw [List.length_insertionSort]; omega)]
    exact ⟨_, rfl⟩
  · rw [List.getElem?_eq_getElem (by rw [List.length_insertionSort]; omega),
      List.getElem?_eq_getElem (by rw [List.length_insertionSort]; omega)]
    exact ⟨_, rfl⟩

/-! ## Samples -/

/-- What is classified has tokens and requests. -/
structure ClassifiedSample.Counted (sample : ClassifiedSample) : Prop where
  tokens : 0 < sample.weightedTokens
  requests : 0 < sample.requestCount

theorem historyInputTokens_pos (sample : Json.Fields) (text : Text) : 0 < historyInputTokens env sample text := by
  have hestimate : 0 < (max 1 (text.length / 4) : ℚ) := lt_of_lt_of_le zero_lt_one (le_max_left _ _)
  unfold historyInputTokens
  split
  · split
    · assumption
    · exact hestimate
  · exact hestimate

theorem historyOutputTokens_pos {sample : Json.Fields} {tokens : ℚ} (h : historyOutputTokens env sample = .ok tokens) : 0 < tokens := by
  unfold historyOutputTokens at h
  split at h
  · split at h
    · cases h
      assumption
    · cases h
  · cases h

theorem historyRequestCount_pos {sample : Json.Fields} {count : ℚ} (h : historyRequestCount env sample = .ok count) : 0 < count := by
  unfold historyRequestCount at h
  obtain ⟨count', -, h⟩ := bind_ok h
  split at h
  · cases h
  · rename_i hcount
    cases h
    exact not_le.1 hcount

/-- What a sample is classified as comes of the answer of the worker and of the numbers that the sample states. -/
theorem classifySample_ok {outputTokenWeight : ℚ} {sample : Json.Fields} {classified : ClassifiedSample}
    (h : classifySample env outputTokenWeight sample = .ok classified) :
    ∃ metadata, callLfm2Metadata env (Provider.messagesText env.base (historySampleMessages env sample)) = .ok metadata ∧
      historyOutputTokens env sample = .ok classified.outputTokens ∧ historyRequestCount env sample = .ok classified.requestCount ∧
      classified.weightedTokens = historyInputTokens env sample (Provider.messagesText env.base (historySampleMessages env sample)) +
        max 0 outputTokenWeight * classified.outputTokens ∧
      classified.timestamp = historySampleTimestamp env sample := by
  unfold classifySample at h
  obtain ⟨metadata, hmetadata, h⟩ := bind_ok h
  obtain ⟨difficulty, -, h⟩ := bind_ok h
  obtain ⟨outputTokens, houtput, h⟩ := bind_ok h
  obtain ⟨requestCount, hcount, h⟩ := bind_ok h
  cases h
  exact ⟨metadata, hmetadata, houtput, hcount, rfl, rfl⟩

theorem classifySample_counted {outputTokenWeight : ℚ} {sample : Json.Fields} {classified : ClassifiedSample}
    (h : classifySample env outputTokenWeight sample = .ok classified) : classified.Counted := by
  obtain ⟨-, -, houtput, hcount, hweighted, -⟩ := classifySample_ok h
  refine ⟨?_, historyRequestCount_pos hcount⟩
  rw [hweighted]
  exact add_pos_of_pos_of_nonneg (historyInputTokens_pos sample _)
    (mul_nonneg (le_max_left _ _) (historyOutputTokens_pos houtput).le)

theorem counted_of_mapM {outputTokenWeight : ℚ} {samples : List Json.Fields} {classified : List ClassifiedSample}
    (h : samples.mapM (classifySample env outputTokenWeight) = .ok classified) : ∀ sample ∈ classified, sample.Counted := by
  intro sample hsample
  obtain ⟨_, -, hclassify⟩ := Outcome.mem_mapM h hsample
  exact classifySample_counted hclassify

/-! ## The weights -/

/-- Two dates have a last one and a first one. -/
theorem bounds_of_dated {timestamps : List ℚ} (h : 2 ≤ timestamps.length) :
    ∃ last first, timestamps.max? = some last ∧ timestamps.min? = some first := by
  cases timestamps with
  | nil => exact absurd h (by decide)
  | cons t ts => exact ⟨_, _, rfl, rfl⟩

/-- The days that were observed are none only if a cycle of no days stands in for them. -/
theorem observedDays_eq_zero_iff (stated : ℚ) (timestamps : List ℚ) (cycleDays : ℚ) :
    observedDays stated timestamps cycleDays = 0 ↔ cycleDays = 0 ∧ stated ≤ 0 ∧ timestamps.length < 2 := by
  unfold observedDays
  dsimp only
  by_cases hdated : stated ≤ 0 ∧ 2 ≤ timestamps.length
  · obtain ⟨last, first, hlast, hfirst⟩ := bounds_of_dated hdated.2
    have hpos : (0 : ℚ) < max 1 ((last - first) / 86400) := lt_of_lt_of_le zero_lt_one (le_max_left _ _)
    rw [if_pos hdated, hlast, hfirst]
    dsimp only
    rw [if_neg (not_le.2 hpos)]
    constructor
    · intro hzero
      exact absurd hzero hpos.ne'
    · rintro ⟨-, -, hlength⟩
      exact absurd hdated.2 (not_le.2 hlength)
  · rw [if_neg hdated]
    by_cases hstated : stated ≤ 0
    · have hlength : timestamps.length < 2 := not_le.1 fun hlength => hdated ⟨hstated, hlength⟩
      simp [hstated, hlength]
    · have hpos : 0 < stated := not_le.1 hstated
      simp [hstated, hpos.ne']

theorem divided_ok_iff {x y z : ℚ} : divided x y = .ok z ↔ y ≠ 0 ∧ z = x / y := by
  unfold divided Scoring.divide
  by_cases hy : y = 0
  · simp [hy]
  · simp [hy, eq_comm]

/-- The weight of a sample with tokens is a number. -/
theorem sampleWeight_ok (p : Parameters) {median : ℚ} (hmedian : 0 < median) {sample : ClassifiedSample} (h : sample.Counted) :
    ∃ weight, sampleWeight env p median sample = .ok weight := by
  have hsize : 0 < sample.weightedTokens / median := div_pos h.tokens hmedian
  have hbase : max 0 (sample.weightedTokens / median) ≠ 0 := (lt_of_lt_of_le hsize (le_max_right _ _)).ne'
  unfold sampleWeight
  rw [divided_ok_iff.2 ⟨hmedian.ne', rfl⟩, ok_bind, Scoring.Powers.power, if_neg fun hzero => hbase hzero.1]
  exact ⟨_, rfl⟩

/-- What is observed makes a budget that can be scored. -/
structure Observation.Sound (o : Observation) : Prop where
  total_pos : 0 < o.totalPredictedWeight
  remaining_pos : 0 < o.remainingWeight
  remaining_le : o.remainingWeight ≤ o.totalPredictedWeight
  median_pos : 0 < o.medianWeightedTokens
  one_le_average : 1 ≤ o.averageRequests

theorem cappedWeight_spec (existing : Option ℚ) {total : ℚ} (h : 0 < total) :
    0 < cappedWeight existing total ∧ cappedWeight existing total ≤ total := by
  unfold cappedWeight
  split
  · split
    · rename_i hweight
      exact ⟨lt_min hweight h, min_le_right _ _⟩
    · exact ⟨h, le_rfl⟩
  · exact ⟨h, le_rfl⟩

/-- What is observed is sound. -/
theorem sound_of_observe {budget : Fields} {samples : List ClassifiedSample} {o : Observation}
    (h : observe env budget samples = .ok o) : o.Sound := by
  unfold observe at h
  split at h
  · cases h
  · rename_i median hmedian
    split at h
    · cases h
    · rename_i hpos
      obtain ⟨weights, -, h⟩ := bind_ok h
      obtain ⟨periodScale, -, h⟩ := bind_ok h
      obtain ⟨averageDifficulty, -, h⟩ := bind_ok h
      cases h
      have htotal : (0 : ℚ) < max (1 / 1000000) (weights.sum * periodScale) :=
        lt_of_lt_of_le (by norm_num) (le_max_left _ _)
      obtain ⟨hremaining, hle⟩ := cappedWeight_spec (parseOptionalNumber env.float (firstPresent budget
        ["remainingWeight", "remaining_weight", "weightRemaining", "weight_remaining"])) htotal
      exact ⟨htotal, hremaining, hle, not_le.1 hpos, le_max_left _ _⟩

theorem sum_pos_of_counted {samples : List ClassifiedSample} (hne : samples ≠ []) (h : ∀ sample ∈ samples, sample.Counted) :
    0 < (samples.map (·.requestCount)).sum := by
  refine List.sum_pos _ ?_ (by simpa using hne)
  intro count hcount
  obtain ⟨sample, hsample, rfl⟩ := List.mem_map.1 hcount
  exact (h sample hsample).requests

/-- Classified samples are observed unless a cycle of no days stands in for the days observed. -/
theorem observe_ok_iff {budget : Fields} {samples : List ClassifiedSample} (hne : samples ≠ [])
    (h : ∀ sample ∈ samples, sample.Counted) :
    (∃ o, observe env budget samples = .ok o) ↔
      ¬((parameters env budget).cycleDays = 0 ∧ (parameters env budget).statedDays ≤ 0 ∧
        (samples.filterMap (·.timestamp)).length < 2) := by
  obtain ⟨median, hmedian⟩ := medianNumber_isSome (show samples.map (·.weightedTokens) ≠ [] by simpa using hne)
  have hpos : 0 < median := by
    refine medianNumber_pos hmedian fun x hx => ?_
    obtain ⟨sample, hsample, rfl⟩ := List.mem_map.1 hx
    exact (h sample hsample).tokens
  obtain ⟨weights, hweights⟩ := Outcome.mapM_ok_iff.2 fun sample hsample =>
    @sampleWeight_ok env (parameters env budget) median hpos sample (h sample hsample)
  rw [← observedDays_eq_zero_iff]
  unfold observe
  dsimp only
  rw [hmedian]
  dsimp only
  rw [if_neg (not_le.2 hpos), hweights, ok_bind]
  by_cases hdays : observedDays (parameters env budget).statedDays (samples.filterMap (·.timestamp)) (parameters env budget).cycleDays = 0
  · rw [hdays]
    simp [divided, Scoring.divide, bind, Except.bind]
  · rw [divided_ok_iff.2 ⟨hdays, rfl⟩, ok_bind, divided_ok_iff.2 ⟨(sum_pos_of_counted hne h).ne', rfl⟩]
    simp only [hdays, not_false_eq_true, iff_true]
    exact ⟨_, rfl⟩

/-! ## Refused histories -/

/-- A sample that can be classified: the worker answers with the model and the adapter that are expected and a difficulty, and the
sample says how much was generated and in how many requests. -/
structure Classifiable (env : Env) (sample : Json.Fields) : Prop where
  answered : ∃ result metadata difficulty, env.infer (Provider.messagesText env.base (historySampleMessages env sample)) = .ok (.obj result) ∧
    Provider.isText env.lfmModelId (Provider.field result "model") = true ∧
    Provider.isText env.lfmAdapterRun (Provider.field result "adapter_run") = true ∧
    Provider.field result "metadata" = .obj metadata ∧ env.required metadata ["x"] "lfm2_metadata.difficulty" = .ok difficulty ∧
    0 ≤ difficulty ∧ difficulty ≤ 1
  generated : ∃ tokens, env.optional sample generatedNames = some tokens ∧ 0 < tokens
  requested : ∃ count, env.required sample requestNames "history request count" = .ok count ∧ 0 < count

theorem callLfm2Metadata_ok_iff {task : Text} {metadata : Json.Fields} :
    callLfm2Metadata env task = .ok metadata ↔ ∃ result difficulty, env.infer task = .ok (.obj result) ∧
      Provider.isText env.lfmModelId (Provider.field result "model") = true ∧
      Provider.isText env.lfmAdapterRun (Provider.field result "adapter_run") = true ∧
      Provider.field result "metadata" = .obj metadata ∧
      env.required metadata ["x"] "lfm2_metadata.difficulty" = .ok difficulty ∧ 0 ≤ difficulty ∧ difficulty ≤ 1 := by
  constructor
  · intro h
    unfold callLfm2Metadata at h
    obtain ⟨answer, hanswer, h⟩ := bind_ok h
    split at h
    · rename_i result
      split at h
      · cases h
      · rename_i hmodel
        split at h
        · cases h
        · rename_i hadapter
          split at h
          · rename_i metadata' hmetadata
            obtain ⟨difficulty, hdifficulty, h⟩ := bind_ok h
            split at h
            · rename_i hrange
              cases h
              exact ⟨result, difficulty, hanswer, by simpa using hmodel, by simpa using hadapter, hmetadata, hdifficulty, hrange⟩
            · cases h
          · cases h
    · cases h
  · rintro ⟨result, difficulty, hanswer, hmodel, hadapter, hmetadata, hdifficulty, hrange⟩
    unfold callLfm2Metadata
    rw [hanswer, ok_bind]
    dsimp only
    rw [hmodel, hadapter, hmetadata]
    simp only [Bool.not_true, Bool.false_eq_true, if_false, hdifficulty, ok_bind]
    rw [if_pos hrange]

theorem historyOutputTokens_ok_iff {sample : Json.Fields} : (∃ tokens, historyOutputTokens env sample = .ok tokens) ↔
    ∃ tokens, env.optional sample generatedNames = some tokens ∧ 0 < tokens := by
  unfold historyOutputTokens
  cases env.optional sample generatedNames with
  | none => simp
  | some explicit => by_cases hpos : 0 < explicit <;> simp [hpos]

theorem historyRequestCount_ok_iff {sample : Json.Fields} : (∃ count, historyRequestCount env sample = .ok count) ↔
    ∃ count, env.required sample requestNames "history request count" =
      .ok count ∧ 0 < count := by
  unfold historyRequestCount
  cases hcount : env.required sample requestNames "history request count" with
  | error refusal => simp [bind, Except.bind]
  | ok count =>
    rw [ok_bind]
    by_cases hpos : count ≤ 0
    · simp [hpos]
    · simp [hpos, not_le.1 hpos]

/-- A sample is classified exactly when it can be, and keeps its date. -/
theorem classifySample_ok_iff {outputTokenWeight : ℚ} {sample : Json.Fields} :
    (∃ classified, classifySample env outputTokenWeight sample = .ok classified) ↔ Classifiable env sample := by
  constructor
  · rintro ⟨classified, h⟩
    obtain ⟨metadata, hmetadata, htokens, hcount, -, -⟩ := classifySample_ok h
    obtain ⟨result, difficulty, hresult⟩ := callLfm2Metadata_ok_iff.1 hmetadata
    exact ⟨⟨result, metadata, difficulty, hresult⟩, historyOutputTokens_ok_iff.1 ⟨_, htokens⟩,
      historyRequestCount_ok_iff.1 ⟨_, hcount⟩⟩
  · intro h
    obtain ⟨result, metadata, difficulty, hresult⟩ := h.answered
    obtain ⟨tokens, htokens⟩ := historyOutputTokens_ok_iff.2 h.generated
    obtain ⟨count, hcount⟩ := historyRequestCount_ok_iff.2 h.requested
    unfold classifySample
    dsimp only
    rw [callLfm2Metadata_ok_iff.2 ⟨result, difficulty, hresult⟩, ok_bind, hresult.2.2.2.2.1, ok_bind, htokens, ok_bind, hcount, ok_bind]
    exact ⟨_, rfl⟩

/-- The dates of the classified samples are those of the samples. -/
theorem timestamps_of_mapM {outputTokenWeight : ℚ} {samples : List Json.Fields} {classified : List ClassifiedSample}
    (h : samples.mapM (classifySample env outputTokenWeight) = .ok classified) :
    classified.filterMap (·.timestamp) = samples.filterMap (historySampleTimestamp env) := by
  have hpairs := Outcome.forall₂_mapM h
  clear h
  induction hpairs with
  | nil => rfl
  | cons hclassify _ ih =>
    obtain ⟨-, -, -, -, -, hdate⟩ := classifySample_ok hclassify
    rw [List.filterMap_cons, List.filterMap_cons, hdate, ih]

theorem computed_ok_iff {routes : List Text} {budget : Json.Fields} (hsamples : normalizeHistorySamples env budget ≠ []) :
    (∃ metadata, computeBudgetFieldsFromHistory env routes (some budget) = .ok metadata) ↔
      2 ≤ ((routes.map PyText.strip).filter (· ≠ [])).length ∧ ∃ classified,
        (normalizeHistorySamples env budget).mapM
            (classifySample env (parameters env (env.document budget)).outputTokenWeight) = .ok classified ∧
          ∃ o, observe env (env.document budget) classified = .ok o := by
  unfold computeBudgetFieldsFromHistory
  dsimp only
  rw [if_neg hsamples]
  split
  · rename_i hroutes
    constructor
    · rintro ⟨metadata, hmetadata⟩
      cases hmetadata
    · rintro ⟨henough, -⟩
      exact absurd henough (not_le.2 hroutes)
  · rename_i hroutes
    constructor
    · rintro ⟨metadata, hmetadata⟩
      obtain ⟨classified, hclassified, hmetadata⟩ := bind_ok hmetadata
      obtain ⟨o, ho, -⟩ := bind_ok hmetadata
      exact ⟨not_lt.1 hroutes, classified, hclassified, o, ho⟩
    · rintro ⟨-, classified, hclassified, o, ho⟩
      rw [hclassified, ok_bind, ho]
      exact ⟨_, rfl⟩

theorem ne_nil_of_mapM {outputTokenWeight : ℚ} {samples : List Json.Fields} {classified : List ClassifiedSample} (hne : samples ≠ [])
    (h : samples.mapM (classifySample env outputTokenWeight) = .ok classified) : classified ≠ [] := by
  rintro rfl
  exact hne (List.eq_nil_of_length_eq_zero (Outcome.forall₂_mapM h).length_eq)

theorem days_iff {cycleDays stated : ℚ} {dated : Nat} :
    ¬(cycleDays = 0 ∧ stated ≤ 0 ∧ dated < 2) ↔ cycleDays ≠ 0 ∨ 0 < stated ∨ 2 ≤ dated := by
  rw [not_and_or, not_and_or, not_le, not_lt]

end History

namespace HistoryExample

open History

/-- What the worker answers: half difficult. -/
def halfDifficult : Json.Value :=
  .obj [("model", .str "lfm2".toList), ("adapter_run", .str "run".toList), ("metadata", .obj [("x", .float "0.5")])]

/-- An environment whose powers are those of the exponents one and zero. -/
def env : History.Env where
  base := { repr := fun _ => [], lower := fun text => text.map Char.toLower }
  float := fun _ => none
  literal := fun literal => if literal = "0.5" then some (1 / 2) else none
  fromIsoFormat := fun _ => none
  powers := { pow := fun x _ => x, exp := fun _ => 1 }
  defaults := {}
  lfmModelId := "lfm2"
  lfmAdapterRun := "run"
  infer := fun _ => .ok halfDifficult

def sample (content : String) (inputTokens outputTokens requestCount : Nat) : Json.Value :=
  .obj [("content", .str content.toList), ("input_tokens", .int inputTokens), ("output_tokens", .int outputTokens),
    ("request_count", .int requestCount)]

/-- A budget of twenty dollars whose difficulties do not count, with two samples. -/
def budget (cycleDays : Nat) : Json.Fields :=
  [("amount_usd", .int 20), ("alpha", .int 0), ("cycle_days", .int cycleDays),
    ("history_queries", .arr [sample "refactor the parser" 1000 200 3, sample "review the change" 400 100 1])]

def routes : List Text := ["code".toList, "review".toList]

theorem budget_samples (cycleDays : Nat) : normalizeHistorySamples env (budget cycleDays) ≠ [] := by
  have hsamples : (normalizeHistorySamples env (budget cycleDays)).isEmpty = false := rfl
  intro hnil
  rw [hnil] at hsamples
  cases hsamples

end HistoryExample

end RouteBudget

end PromptRail
