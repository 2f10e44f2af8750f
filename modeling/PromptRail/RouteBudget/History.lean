import PromptRail.RouteBudget.Scoring
import PromptRail.RouteBudget.Setup
import PromptRail.Usage.Managed

/-!
# Weighing a route by its history (`lerouter_modal_api.py`)

A setup may carry samples of what the user has asked before. Each is classified, and from their tokens, difficulties and dates follow
the weights of the budget: the weight of a period, what remains of it, the median request and the number of requests in a period. The
samples are dropped from the metadata, which keeps what was computed.
-/

namespace PromptRail

open Document (get firstPresent)
open PyText (Text)
open Provider (field orElse isPresent isText messagesText normalizeMessages)
open Usage (documentOf ofJson)

namespace RouteBudget

namespace History

/-! ## Refusals -/

/-- What a computation raises; `workerFailed` stands for an exception of the remote worker. -/
inductive HistoryRefusal where
  | budgetHistoryRoutesRequired
  | budgetHistoryWeightRequired
  | budgetScoringInputRequired (field : String)
  | historyRequestCount
  | lengthPredictionRequired
  | workerFailed
  | lfmResultNotObject
  | invalidLfmModel
  | invalidLfmAdapter
  | lfmMetadataNotObject
  | lfmDifficulty
  | zeroDivision
deriving DecidableEq

/-- `status_code`; what is no `HTTPException` is answered with 500. -/
def HistoryRefusal.statusCode : HistoryRefusal → Nat
  | .budgetHistoryRoutesRequired | .budgetHistoryWeightRequired | .historyRequestCount => 422
  | .budgetScoringInputRequired _ | .lengthPredictionRequired => 409
  | .lfmResultNotObject | .invalidLfmModel | .invalidLfmAdapter | .lfmMetadataNotObject | .lfmDifficulty => 502
  | .workerFailed | .zeroDivision => 500

/-! ## What is taken from outside -/

/-- What is taken from outside: the readings of numbers, `datetime.fromisoformat` with its timestamp, the powers, the constants of the
environment and the answers of the remote worker. -/
structure Env where
  base : Provider.Env
  float : String → Option ℚ
  literal : String → Option ℚ
  fromIsoFormat : Text → Option ℚ
  powers : Scoring.Powers ℚ
  defaults : Scoring.WeightDefaults
  lfmModelId : String
  lfmAdapterRun : String
  infer : Text → Except HistoryRefusal Json.Value

variable (env : Env)

/-- A JSON object as a document. -/
def Env.document (fields : Json.Fields) : Document.Fields := documentOf env.literal fields

/-- `parse_optional_number(first_present(fields, *names))`. -/
def Env.optional (fields : Json.Fields) (names : List String) : Option ℚ :=
  parseOptionalNumber env.float (firstPresent (env.document fields) names)

/-- `parse_required_number(first_present(fields, *names), field_name)`. -/
def Env.required (fields : Json.Fields) (names : List String) (fieldName : String) : Except HistoryRefusal ℚ :=
  (parseRequiredNumber env.float (firstPresent (env.document fields) names) fieldName).mapError .budgetScoringInputRequired

/-- `first_present`, of values that are read as texts. -/
def firstField (fields : Json.Fields) : List String → Json.Value
  | [] => .null
  | name :: names => if isPresent (field fields name) then field fields name else firstField fields names

/-- A quotient, or its `ZeroDivisionError`. -/
def divided (x y : ℚ) : Except HistoryRefusal ℚ := (Scoring.divide x y).elim (.error .zeroDivision) .ok

/-! ## Samples -/

/-- The names of the samples in the metadata of a budget. -/
def sampleNames : List String := ["historyQueries", "history_queries", "historySamples", "history_samples"]

/-- `history_sample_text`. -/
def historySampleText (sample : Json.Fields) : Text :=
  match field sample "messages" with
  | .arr messages => messagesText env.base (normalizeMessages env.base [("messages", .arr messages)])
  | _ => env.base.str (orElse (firstField sample ["content", "prompt", "input", "query", "text"]) (.str []))

/-- `history_sample_messages`. -/
def historySampleMessages (sample : Json.Fields) : List Json.Fields :=
  match field sample "messages" with
  | .arr (message :: messages) => normalizeMessages env.base [("messages", .arr (message :: messages))]
  | _ => [[("role", .str "user".toList), ("content", .str (historySampleText env sample))]]

/-- One sample of `normalize_history_samples`. -/
def normalizeSample : Json.Value → Option Json.Fields
  | .obj sample =>
    let text := PyText.strip (historySampleText env sample)
    if text = [] then none else some (Json.set sample "content" (.str (text.take 6000)))
  | _ => none

/-- `normalize_history_samples`. -/
def normalizeHistorySamples (budget : Json.Fields) : List Json.Fields :=
  match firstField budget sampleNames with
  | .arr samples => samples.filterMap (normalizeSample env)
  | _ => []

/-- The time that a text names. -/
def textTimestamp (text : Text) : Option ℚ :=
  if text = [] then none
  else (env.float (String.ofList text)).or (env.fromIsoFormat (text.flatMap fun c => if c = 'Z' then "+00:00".toList else [c]))

/-- `history_sample_timestamp`. -/
def historySampleTimestamp (sample : Json.Fields) : Option ℚ :=
  let value := firstField sample ["timestamp", "created_at", "createdAt", "started_at", "startedAt"]
  match ofJson env.literal value with
  | .null => none
  | .bool b => some (if b then 1 else 0)
  | .number x => some (if 10000000000 < x then x / 1000 else x)
  | .text _ | .other => textTimestamp env (PyText.strip (env.base.str value))

/-- `history_input_tokens`. -/
def historyInputTokens (sample : Json.Fields) (text : Text) : ℚ :=
  match env.optional sample ["input_tokens", "inputTokens", "prompt_tokens", "promptTokens", "token_count", "tokenCount"] with
  | some explicit => if 0 < explicit then explicit else max 1 (text.length / 4)
  | none => max 1 (text.length / 4)

/-- The names of the tokens that were generated. -/
def generatedNames : List String := ["output_tokens", "outputTokens", "completion_tokens", "completionTokens"]

/-- `history_output_tokens`; the schema it is called with predicts no length. -/
def historyOutputTokens (sample : Json.Fields) : Except HistoryRefusal ℚ :=
  match env.optional sample generatedNames with
  | some explicit => if 0 < explicit then .ok explicit else .error .lengthPredictionRequired
  | none => .error .lengthPredictionRequired

/-- The names of the number of requests. -/
def requestNames : List String := ["request_count", "requestCount", "api_call_count", "apiCallCount"]

/-- `history_request_count`. -/
def historyRequestCount (sample : Json.Fields) : Except HistoryRefusal ℚ := do
  let count ← env.required sample requestNames "history request count"
  if count ≤ 0 then .error .historyRequestCount else .ok count

/-- `call_lfm2_metadata`, of whose result the metadata is read. -/
def callLfm2Metadata (task : Text) : Except HistoryRefusal Json.Fields := do
  match ← env.infer task with
  | .obj result =>
    if !isText env.lfmModelId (field result "model") then .error .invalidLfmModel
    else if !isText env.lfmAdapterRun (field result "adapter_run") then .error .invalidLfmAdapter
    else
      match field result "metadata" with
      | .obj metadata =>
        let difficulty ← env.required metadata ["x"] "lfm2_metadata.difficulty"
        if 0 ≤ difficulty ∧ difficulty ≤ 1 then .ok metadata else .error .lfmDifficulty
      | _ => .error .lfmMetadataNotObject
  | _ => .error .lfmResultNotObject

/-- What a sample is classified as. -/
structure ClassifiedSample where
  difficulty : ℚ
  inputTokens : ℚ
  outputTokens : ℚ
  weightedTokens : ℚ
  requestCount : ℚ
  timestamp : Option ℚ
deriving DecidableEq

/-- `classify_sample`. -/
def classifySample (outputTokenWeight : ℚ) (sample : Json.Fields) : Except HistoryRefusal ClassifiedSample := do
  let text := messagesText env.base (historySampleMessages env sample)
  let metadata ← callLfm2Metadata env text
  let difficulty ← env.required metadata ["x"] "lfm2_metadata.difficulty"
  let outputTokens ← historyOutputTokens env sample
  let requestCount ← historyRequestCount env sample
  return {
    difficulty := max 0 difficulty
    inputTokens := historyInputTokens env sample text
    outputTokens
    weightedTokens := historyInputTokens env sample text + max 0 outputTokenWeight * outputTokens
    requestCount
    timestamp := historySampleTimestamp env sample }

/-! ## The weights -/

/-- `median_number`. -/
def medianNumber (values : List ℚ) : Option ℚ :=
  let numbers := values.insertionSort (· ≤ ·)
  let midpoint := numbers.length / 2
  if numbers.length % 2 = 1 then numbers[midpoint]?
  else do
    let lower ← numbers[midpoint - 1]?
    let upper ← numbers[midpoint]?
    return (lower + upper) / 2

/-- What the weights are computed with. -/
structure Parameters where
  outputTokenWeight : ℚ
  sizeBeta : ℚ
  difficultyAlpha : ℚ
  cycleDays : ℚ
  statedDays : ℚ

/-- The parameters that the metadata of a budget names, or their defaults. -/
def parameters (budget : Document.Fields) : Parameters where
  outputTokenWeight :=
    asFloat env.float (firstPresent budget ["outputTokenWeight", "output_token_weight", "k_out"]) env.defaults.outputTokenWeightK
  sizeBeta := asFloat env.float (firstPresent budget ["requestWeightBeta", "request_weight_beta", "beta"]) env.defaults.sizeBeta
  difficultyAlpha := asFloat env.float (firstPresent budget ["requestDifficultyAlpha", "request_difficulty_alpha", "difficultyWeightAlpha",
    "difficulty_weight_alpha", "alpha"]) env.defaults.difficultyAlpha
  cycleDays := asFloat env.float (firstPresent budget ["cycleDays", "cycle_days"]) (budgetCycleDays (get budget "cycle"))
  statedDays := asFloat env.float (firstPresent budget ["historyPeriodDays", "history_period_days"]) 0

/-- `observed_days`: as the metadata states it, or from the first sample to the last one, or a cycle. -/
def observedDays (stated : ℚ) (timestamps : List ℚ) (cycleDays : ℚ) : ℚ :=
  let dated :=
    if stated ≤ 0 ∧ 2 ≤ timestamps.length then
      match timestamps.max?, timestamps.min? with
      | some last, some first => max 1 ((last - first) / 86400)
      | _, _ => stated
    else stated
  if dated ≤ 0 then cycleDays else dated

/-- What is observed of the samples. -/
structure Observation where
  totalPredictedWeight : ℚ
  remainingWeight : ℚ
  medianWeightedTokens : ℚ
  averageRequests : ℚ
  totalDifficulty : ℚ
  averageDifficulty : ℚ
  sampleCount : Nat
  requestCount : ℚ
  observedDays : ℚ
  cycleDays : ℚ
  periodScale : ℚ
deriving DecidableEq

/-- An entry of `request_weights`. -/
def sampleWeight (p : Parameters) (median : ℚ) (sample : ClassifiedSample) : Except HistoryRefusal ℚ := do
  let sizeFactor ← divided sample.weightedTokens median
  let sized ← (env.powers.power (max 0 sizeFactor) p.sizeBeta).elim (.error .zeroDivision) .ok
  return sized * env.powers.exp (p.difficultyAlpha * sample.difficulty) * sample.requestCount

/-- `remaining_weight`: what the metadata says remains, but no more than the weight of the period. -/
def cappedWeight (existing : Option ℚ) (totalPredictedWeight : ℚ) : ℚ :=
  match existing with
  | some weight => if 0 < weight then min weight totalPredictedWeight else totalPredictedWeight
  | none => totalPredictedWeight

/-- The weights of classified samples. -/
def observe (budget : Document.Fields) (samples : List ClassifiedSample) : Except HistoryRefusal Observation := do
  let p := parameters env budget
  match medianNumber (samples.map (·.weightedTokens)) with
  | none => .error .budgetHistoryWeightRequired
  | some median =>
    if median ≤ 0 then .error .budgetHistoryWeightRequired
    else
      let weights ← samples.mapM (sampleWeight env p median)
      let days := observedDays p.statedDays (samples.filterMap (·.timestamp)) p.cycleDays
      let periodScale ← divided p.cycleDays days
      let requestCount := (samples.map (·.requestCount)).sum
      let totalDifficulty := (samples.map fun sample => sample.difficulty * sample.requestCount).sum
      let averageDifficulty ← divided totalDifficulty requestCount
      let totalPredictedWeight := max (1 / 1000000) (weights.sum * periodScale)
      return {
        totalPredictedWeight
        remainingWeight := cappedWeight (parseOptionalNumber env.float (firstPresent budget
          ["remainingWeight", "remaining_weight", "weightRemaining", "weight_remaining"])) totalPredictedWeight
        medianWeightedTokens := median
        averageRequests := max 1 (requestCount * periodScale)
        totalDifficulty
        averageDifficulty
        sampleCount := samples.length
        requestCount
        observedDays := days
        cycleDays := p.cycleDays
        periodScale }

/-! ## The metadata -/

/-- The fields of the controller that are carried over. -/
def carriedFields : List (String × List String) :=
  [("budget_shadow_price", shadowPriceNames), ("budget_controller_learning_rate", learningRateNames),
    ("budget_shadow_price_min", shadowPriceMinNames), ("budget_shadow_price_max", shadowPriceMaxNames)]

/-- `controller_fields`. -/
def carried (budget : Document.Fields) : List (String × Document.Value) :=
  carriedFields.filterMap fun field =>
    let value := firstPresent budget field.2
    if value = .null then none else some (field.1, .number (asFloat env.float value))

/-- What the metadata is updated with. -/
def computedFields (budget : Document.Fields) (o : Observation) : List (String × Document.Value) :=
  let p := parameters env budget
  [("total_predicted_weight", .number o.totalPredictedWeight), ("remaining_weight", .number o.remainingWeight),
    ("median_weighted_tokens", .number o.medianWeightedTokens), ("average_requests_per_period", .number o.averageRequests),
    ("output_token_weight", .number p.outputTokenWeight), ("request_weight_beta", .number p.sizeBeta),
    ("request_difficulty_alpha", .number p.difficultyAlpha),
    ("request_weight_min",
      .number (asFloat env.float (firstPresent budget ["requestWeightMin", "request_weight_min"]) env.defaults.weightMin)),
    ("request_weight_cap_multiplier", .number (asFloat env.float
      (firstPresent budget ["requestWeightCapMultiplier", "request_weight_cap_multiplier"]) env.defaults.weightCapMultiplier)),
    ("total_observed_difficulty", .number o.totalDifficulty), ("average_observed_difficulty", .number o.averageDifficulty),
    ("w_source", .text "lfm2_metadata_history"), ("w_observed_sample_count", .number o.sampleCount),
    ("w_observed_request_count", .number o.requestCount), ("w_observed_period_days", .number o.observedDays)] ++ carried env budget

/-- The names that are dropped from the metadata. -/
def droppedNames : List String := sampleNames ++ ["budgetMalusGamma", "budget_malus_gamma", "gamma"]

/-- `next_budget`. -/
def nextBudget (budget : Document.Fields) (o : Observation) : Document.Fields :=
  droppedNames.foldl (fun fields name => fields.erase name) (Document.update budget (computedFields env budget o))

/-- The metadata of a setup: its budget, and `budget_history_classification`, where there was a history. -/
structure SetupMetadata where
  budget : Option Document.Fields
  classification : Option Observation

/-- `compute_budget_fields_from_history`, of the names of the routes and the budget of the metadata, where it is an object. -/
def computeBudgetFieldsFromHistory (routes : List Text) (budget : Option Json.Fields) : Except HistoryRefusal SetupMetadata :=
  match budget with
  | none => .ok { budget := none, classification := none }
  | some budget =>
    let document := env.document budget
    let samples := normalizeHistorySamples env budget
    if samples = [] then .ok { budget := some document, classification := none }
    else if ((routes.map PyText.strip).filter (· ≠ [])).length < 2 then .error .budgetHistoryRoutesRequired
    else do
      let classified ← samples.mapM (classifySample env (parameters env document).outputTokenWeight)
      let o ← observe env document classified
      return { budget := some (nextBudget env document o), classification := some o }

end History

end RouteBudget

end PromptRail
