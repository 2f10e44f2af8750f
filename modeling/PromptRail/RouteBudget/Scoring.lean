import PromptRail.RouteBudget.Execution
import Mathlib.Analysis.SpecialFunctions.Pow.Real
import Mathlib.Logic.Relation

/-!
# The weight of a request (`lerouter_modal_api.py`)

A request is weighed by its length, its predicted output and its difficulty, and the weight is clamped between a least weight and a share
of the weight of the period. A budget may set both bounds to zero: every request then weighs nothing, which neither the accounting token
nor the usage log accepts, and once the weight of the period is used up the budget is divided by zero.
-/

namespace PromptRail

open Document (Fields Value get firstPresent)
open Outcome (bind_ok)

namespace RouteBudget

namespace Scoring

/-! ## What a budget says of the weight -/

/-- The fields of a budget that the weight of a request depends on. -/
structure WeightFields where
  outputTokenWeight : Option ℚ
  requestWeightBeta : Option ℚ
  requestDifficultyAlpha : Option ℚ
  requestWeightMin : Option ℚ
  requestWeightCapMultiplier : Option ℚ
  difficultyWeightAlpha : Option ℚ
deriving DecidableEq

/-- The constants that stand in for fields a budget does not have; the environment may set them. -/
structure WeightDefaults where
  outputTokenWeightK : ℚ := 5
  sizeBeta : ℚ := 1
  difficultyAlpha : ℚ := 2
  weightMin : ℚ := 1 / 20
  weightCapMultiplier : ℚ := 4

/-- The names of each of the fields. -/
def weightFieldNames : List (String × List String) :=
  [("outputTokenWeight", ["outputTokenWeight", "output_token_weight", "k_out"]),
    ("requestWeightBeta", ["requestWeightBeta", "request_weight_beta", "beta"]),
    ("requestDifficultyAlpha", ["requestDifficultyAlpha", "request_difficulty_alpha"]),
    ("requestWeightMin", ["requestWeightMin", "request_weight_min", "r_min"]),
    ("requestWeightCapMultiplier", ["requestWeightCapMultiplier", "request_weight_cap_multiplier", "cap_multiplier"]),
    ("difficultyWeightAlpha", ["difficultyWeightAlpha", "difficulty_weight_alpha", "alpha"])]

/-- The number of a field, under any of its names. -/
def weightField (float : String → Option ℚ) (budget : Fields) (name : String) : Option ℚ :=
  parseOptionalNumber float (firstPresent budget ((weightFieldNames.lookup name).getD []))

/-- The fields of the weight that `normalize_budget_state` returns. -/
def weightFields (float : String → Option ℚ) (budget : Fields) : WeightFields where
  outputTokenWeight := weightField float budget "outputTokenWeight"
  requestWeightBeta := weightField float budget "requestWeightBeta"
  requestDifficultyAlpha := weightField float budget "requestDifficultyAlpha"
  requestWeightMin := weightField float budget "requestWeightMin"
  requestWeightCapMultiplier := weightField float budget "requestWeightCapMultiplier"
  difficultyWeightAlpha := weightField float budget "difficultyWeightAlpha"

/-- What `budget_from_row` returns of a stored budget, with the fields of the weight. -/
def scoredBudget (float : String → Option ℚ) (row : Fields) : Fields :=
  Document.update (budgetFromRow float row) (weightFieldNames.map fun p => (p.1, .ofNumber? (weightField float row p.1)))

/-- `request_weight_min`. -/
def requestWeightMin (defaults : WeightDefaults) (fields : WeightFields) : ℚ := max 0 (fields.requestWeightMin.getD defaults.weightMin)

/-- `request_weight_cap_multiplier`. -/
def requestWeightCapMultiplier (defaults : WeightDefaults) (fields : WeightFields) : ℚ :=
  max 0 (fields.requestWeightCapMultiplier.getD defaults.weightCapMultiplier)

/-- `request_difficulty_alpha`. -/
def requestDifficultyAlpha (defaults : WeightDefaults) (fields : WeightFields) : ℚ :=
  fields.requestDifficultyAlpha.getD (fields.difficultyWeightAlpha.getD defaults.difficultyAlpha)

/-! ## Scoring -/

/-- A request, as it reaches its scoring: `prediction` is its predicted output, bounded by the caller. -/
structure ScoringRequest where
  candidates : List RoutedModel
  penalties : List (String × Value)
  promptChars : Nat
  prediction : ℚ
  difficulty : ℚ

/-- The powers and the exponential of a field. -/
structure Powers (K : Type) where
  pow : K → K → K
  exp : K → K

/-- The powers of the reals. -/
noncomputable def Powers.real : Powers ℝ where
  pow := Real.rpow
  exp := Real.exp

section

variable {K : Type} [Field K] [LinearOrder K]

/-- A division, or its `ZeroDivisionError`. -/
def divide (x y : K) : Option K := if y = 0 then none else some (x / y)

/-- A power, or the `ZeroDivisionError` of a negative power of zero. -/
def Powers.power (powers : Powers K) (base exponent : K) : Option K :=
  if base = 0 ∧ exponent < 0 then none else some (powers.pow base exponent)

/-- `request_weight_max`. -/
def requestWeightMax (defaults : WeightDefaults) (state : BudgetState) (fields : WeightFields) : Option ℚ := do
  let periodShare ← divide state.totalPredictedWeight state.averageRequestsPerPeriod
  return periodShare * requestWeightCapMultiplier defaults fields

/-- `clamp`. -/
def clamp (value minimum maximum : K) : K := min maximum (max minimum value)

/-- `input_length_tokens`. -/
def inputLengthTokens (request : ScoringRequest) : ℚ := max 1 (request.promptChars / 4)

/-- `predicted_output_tokens`. -/
def predictedOutputTokens (request : ScoringRequest) : ℚ := max 1 request.prediction

/-- `weighted_tokens`. -/
def weightedTokens (defaults : WeightDefaults) (fields : WeightFields) (request : ScoringRequest) : ℚ :=
  inputLengthTokens request + max 0 (fields.outputTokenWeight.getD defaults.outputTokenWeightK) * predictedOutputTokens request

variable (powers : Powers K)

/-- `unclipped_request_weight`. -/
def unclippedRequestWeight (defaults : WeightDefaults) (state : BudgetState) (fields : WeightFields) (request : ScoringRequest) :
    Option K := do
  let sizeFactor ← divide (weightedTokens defaults fields request) state.medianWeightedTokens
  let sized ← powers.power (max 0 sizeFactor : ℚ) (fields.requestWeightBeta.getD defaults.sizeBeta : ℚ)
  return sized * powers.exp (requestDifficultyAlpha defaults fields * max 0 request.difficulty : ℚ)

/-- `estimate_request_weight`, of which the scoring reads the weight. -/
def estimateRequestWeight (defaults : WeightDefaults) (state : BudgetState) (fields : WeightFields) (request : ScoringRequest) :
    Option K := do
  let weightMin := requestWeightMin defaults fields
  let weightMax ← requestWeightMax defaults state fields
  let unclipped ← unclippedRequestWeight powers defaults state fields request
  return clamp unclipped (min (weightMin : K) (weightMax : ℚ)) (max (weightMin : K) (weightMax : ℚ))

/-- What `calculate_adaptive_budget_malus` returns and the scoring reads. -/
structure Malus (K : Type) where
  requestBudgetUsd : K
  budgetMalus : K

/-- `calculate_adaptive_budget_malus`. -/
def calculateAdaptiveBudgetMalus (remainingBudget remainingWeight requestWeight expectedBudgetDebitUsd shadowPrice : K) :
    Option (Malus K) := do
  let budgetPerWeight ← divide remainingBudget (max remainingWeight requestWeight)
  let utilization ← divide expectedBudgetDebitUsd (max (requestWeight * budgetPerWeight) (Workflow.tolerance : ℚ))
  return { requestBudgetUsd := requestWeight * budgetPerWeight, budgetMalus := shadowPrice * utilization }

/-- A model with what its scoring adds to it. -/
structure ScoredModel (K : Type) where
  model : RoutedModel
  requestWeight : K
  malus : Malus K
  finalScore : K

variable (float : String → Option ℚ)

/-- The malus of a model. -/
def modelMalus (state : BudgetState) (request : ScoringRequest) (requestWeight : K) (model : RoutedModel) : Option (Malus K) :=
  calculateAdaptiveBudgetMalus (state.budgetRemainingUsd : ℚ) (state.remainingWeight : ℚ) requestWeight
    (state.spendAccountingMode.debitUsd
      (expectedModelPriceUsd float model (inputLengthTokens request) (predictedOutputTokens request)) : ℚ)
    (state.budgetShadowPrice : ℚ)

/-- One model of `budget_aware_scoring`. -/
def scoreModel (state : BudgetState) (request : ScoringRequest) (requestWeight : K) (model : RoutedModel) : Option (ScoredModel K) :=
  (modelMalus float state request requestWeight model).map fun malus =>
    { model, requestWeight, malus
      finalScore := (asFloat float model.biencoderScore : ℚ) - malus.budgetMalus -
        (asFloat float ((request.penalties.lookup model.modelId).getD .null) : ℚ) }

/-- `budget_aware_scoring`: the models with their weight and their score, the best first. -/
def budgetAwareScoring (defaults : WeightDefaults) (state : BudgetState) (fields : WeightFields) (request : ScoringRequest) :
    Option (List (ScoredModel K)) := do
  let requestWeight ← estimateRequestWeight powers defaults state fields request
  (request.candidates.mapM (scoreModel float state request requestWeight)).map fun scored =>
    scored.mergeSort fun a b => decide (b.finalScore ≤ a.finalScore)

/-- The check of `issue_accounting_token`. -/
def tokenAcceptsWeight (requestWeight : K) : Bool := decide (0 < requestWeight)

/-- The check of `write_usage_log`. -/
def usageLogAcceptsWeight (requestWeight : K) : Bool := !decide (requestWeight ≤ 0)

/-- Every model is scored with one weight, which is positive and accepted. -/
def Accountable (scoring : Option (List (ScoredModel K))) : Prop :=
  ∃ scored requestWeight, scoring = some scored ∧ 0 < requestWeight ∧
    ∀ s ∈ scored, s.requestWeight = requestWeight ∧ tokenAcceptsWeight s.requestWeight = true ∧
      usageLogAcceptsWeight s.requestWeight = true

end

/-- One of the bounds of the weight is positive. -/
def Bounded (defaults : WeightDefaults) (fields : WeightFields) : Prop :=
  0 < fields.requestWeightMin.getD defaults.weightMin ∨ 0 < fields.requestWeightCapMultiplier.getD defaults.weightCapMultiplier

/-- A budget before and after a debit. -/
def Debited (row row' : Fields) : Prop :=
  ∃ debitUsd weightDebit update success, usageBudgetUpdatePipeline debitUsd weightDebit update success row = some row'

namespace ScoringAux

/-! ## The weight -/

theorem one_le_weightedTokens (defaults : WeightDefaults) (fields : WeightFields) (request : ScoringRequest) :
    1 ≤ weightedTokens defaults fields request := by
  have hinput : 1 ≤ inputLengthTokens request := le_max_left _ _
  have houtput : 0 ≤ predictedOutputTokens request := le_trans zero_le_one (le_max_left _ _)
  have hweight : 0 ≤ max 0 (fields.outputTokenWeight.getD defaults.outputTokenWeightK) := le_max_left _ _
  exact le_add_of_le_of_nonneg hinput (mul_nonneg hweight houtput)

section

variable {K : Type} [Field K] [LinearOrder K]

theorem divide_of_pos {x y : K} (h : 0 < y) : divide x y = some (x / y) := if_neg h.ne'

/-- A positive number is clamped to a positive number where one of the bounds is positive, and else to zero. -/
theorem clamp_swapped {value lower upper : K} (h : 0 < value) (hlower : 0 ≤ lower) (hupper : 0 ≤ upper) :
    (0 < lower ∨ 0 < upper → 0 < clamp value (min lower upper) (max lower upper)) ∧
      (¬(0 < lower ∨ 0 < upper) → clamp value (min lower upper) (max lower upper) = 0) := by
  constructor
  · intro hpos
    exact lt_min (lt_max_iff.2 hpos) (lt_max_of_lt_right h)
  · intro hnone
    obtain ⟨hl, hu⟩ := not_or.1 hnone
    have hlower' : lower = 0 := le_antisymm (not_lt.1 hl) hlower
    have hupper' : upper = 0 := le_antisymm (not_lt.1 hu) hupper
    subst hlower' hupper'
    simp [clamp, h.le]

end

section

variable {float : String → Option ℚ} {budget : Fields} {state : BudgetState} (h : Normalized float budget state)
include h

/-- The upper bound is positive where the multiplier is. -/
theorem requestWeightMax_eq (defaults : WeightDefaults) (fields : WeightFields) :
    ∃ weightMax, requestWeightMax defaults state fields = some weightMax ∧ 0 ≤ weightMax ∧
      (0 < weightMax ↔ 0 < requestWeightCapMultiplier defaults fields) := by
  have hshare : 0 < state.totalPredictedWeight / state.averageRequestsPerPeriod := div_pos h.totalWeight_pos h.average_pos
  have hcap : 0 ≤ requestWeightCapMultiplier defaults fields := le_max_left _ _
  refine ⟨state.totalPredictedWeight / state.averageRequestsPerPeriod * requestWeightCapMultiplier defaults fields, ?_,
    mul_nonneg hshare.le hcap, ?_⟩
  · rw [requestWeightMax, divide_of_pos h.average_pos]
    rfl
  · exact mul_pos_iff_of_pos_left hshare

variable {K : Type} [Field K] [LinearOrder K] [IsStrictOrderedRing K] {powers : Powers K}
  (hpow : ∀ x y, 0 < x → 0 < powers.pow x y) (hexp : ∀ x, 0 < powers.exp x) (defaults : WeightDefaults)
  (fields : WeightFields) (request : ScoringRequest)
include hpow hexp

/-- What is clamped is positive. -/
theorem unclipped_pos : ∃ unclipped, unclippedRequestWeight powers defaults state fields request = some unclipped ∧ 0 < unclipped := by
  have hsize : 0 < weightedTokens defaults fields request / state.medianWeightedTokens :=
    div_pos (lt_of_lt_of_le zero_lt_one (one_le_weightedTokens defaults fields request)) h.median_pos
  have hcast : (0 : K) < ((max 0 (weightedTokens defaults fields request / state.medianWeightedTokens) : ℚ) : K) := by
    exact_mod_cast lt_max_of_lt_right hsize
  have hpower : ∀ exponent : K, powers.power ((max 0 (weightedTokens defaults fields request / state.medianWeightedTokens) : ℚ) : K)
      exponent = some (powers.pow _ exponent) := fun exponent => if_neg fun hand => hcast.ne' hand.1
  refine ⟨powers.pow ((max 0 (weightedTokens defaults fields request / state.medianWeightedTokens) : ℚ) : K)
    ((fields.requestWeightBeta.getD defaults.sizeBeta : ℚ) : K) *
      powers.exp ((requestDifficultyAlpha defaults fields * max 0 request.difficulty : ℚ) : K), ?_, mul_pos (hpow _ _ hcast) (hexp _)⟩
  rw [unclippedRequestWeight, divide_of_pos h.median_pos, Option.bind_eq_bind, Option.bind_some, hpower]
  rfl

/-- The weight of a request is positive where one of its bounds is, and else zero. -/
theorem estimateRequestWeight_eq :
    ∃ requestWeight, estimateRequestWeight powers defaults state fields request = some requestWeight ∧
      (Bounded defaults fields → 0 < requestWeight) ∧ (¬Bounded defaults fields → requestWeight = 0) := by
  obtain ⟨weightMax, hmax, hmax0, hcap⟩ := requestWeightMax_eq h defaults fields
  obtain ⟨unclipped, hunclipped, hpos⟩ := unclipped_pos h hpow hexp defaults fields request
  have hmin0 : 0 ≤ requestWeightMin defaults fields := le_max_left _ _
  have hbounded : Bounded defaults fields ↔ (0 : K) < (requestWeightMin defaults fields : ℚ) ∨ (0 : K) < (weightMax : ℚ) := by
    rw [Rat.cast_pos, Rat.cast_pos, hcap]
    simp [Bounded, requestWeightMin, requestWeightCapMultiplier]
  have hweight : estimateRequestWeight powers defaults state fields request =
      some (clamp unclipped (min ((requestWeightMin defaults fields : ℚ) : K) (weightMax : ℚ))
        (max ((requestWeightMin defaults fields : ℚ) : K) (weightMax : ℚ))) := by
    rw [estimateRequestWeight, hmax, hunclipped]
    rfl
  refine ⟨_, hweight, ?_⟩
  rw [hbounded]
  exact clamp_swapped hpos (Rat.cast_nonneg.2 hmin0) (Rat.cast_nonneg.2 hmax0)

end

/-! ## The models -/

section

variable {K : Type} [Field K] [LinearOrder K] {float : String → Option ℚ} {state : BudgetState} {request : ScoringRequest}
  {requestWeight : K}

theorem scoreModel_weight {model : RoutedModel} {s : ScoredModel K} (h : scoreModel float state request requestWeight model = some s) :
    s.requestWeight = requestWeight := by
  obtain ⟨malus, -, rfl⟩ := Option.map_eq_some_iff.1 h
  rfl

theorem mapM_weight {models : List RoutedModel} {scored : List (ScoredModel K)}
    (h : models.mapM (scoreModel float state request requestWeight) = some scored) :
    scored.length = models.length ∧ ∀ s ∈ scored, s.requestWeight = requestWeight := by
  induction models generalizing scored with
  | nil =>
    rw [List.mapM_nil, Option.pure_def, Option.some.injEq] at h
    subst h
    exact ⟨rfl, fun s hs => absurd hs List.not_mem_nil⟩
  | cons model models ih =>
    simp only [List.mapM_cons, Option.bind_eq_bind, Option.pure_def, Option.bind_eq_some_iff, Option.some.injEq] at h
    obtain ⟨s, hs, rest, hrest, rfl⟩ := h
    obtain ⟨hlength, hweights⟩ := ih hrest
    exact ⟨congrArg (· + 1) hlength, List.forall_mem_cons.2 ⟨scoreModel_weight hs, hweights⟩⟩

variable [IsStrictOrderedRing K]

/-- A positive weight is never divided by zero. -/
theorem malus_some (h : 0 < requestWeight) (remainingBudget remainingWeight debit shadowPrice : K) :
    ∃ malus, calculateAdaptiveBudgetMalus remainingBudget remainingWeight requestWeight debit shadowPrice = some malus := by
  have htolerance : (0 : K) < (Workflow.tolerance : ℚ) := Rat.cast_pos.2 (by norm_num [Workflow.tolerance])
  simp only [calculateAdaptiveBudgetMalus, divide_of_pos (lt_max_of_lt_right h), Option.bind_eq_bind, Option.bind_some,
    divide_of_pos (lt_max_of_lt_right htolerance)]
  exact ⟨_, rfl⟩

theorem scoreModel_some (h : 0 < requestWeight) (model : RoutedModel) :
    ∃ s, scoreModel float state request requestWeight model = some s := by
  obtain ⟨malus, hmalus⟩ := malus_some h (state.budgetRemainingUsd : ℚ) (state.remainingWeight : ℚ)
    (state.spendAccountingMode.debitUsd
      (expectedModelPriceUsd float model (inputLengthTokens request) (predictedOutputTokens request)) : ℚ)
    (state.budgetShadowPrice : ℚ)
  exact ⟨_, congrArg (Option.map _) hmalus⟩

theorem mapM_some (h : 0 < requestWeight) (models : List RoutedModel) :
    ∃ scored, models.mapM (scoreModel float state request requestWeight) = some scored := by
  induction models with
  | nil => exact ⟨[], rfl⟩
  | cons model models ih =>
    have hmodel : ∃ s, scoreModel float state request requestWeight model = some s := scoreModel_some h model
    obtain ⟨s, hs⟩ := hmodel
    obtain ⟨rest, hrest⟩ := ih
    simp only [List.mapM_cons, hs, hrest, Option.bind_eq_bind, Option.bind_some]
    exact ⟨_, rfl⟩

/-- A request is accountable where its weight is positive, and else only where it has no candidates. -/
theorem accountable_iff {powers : Powers K} {defaults : WeightDefaults} {fields : WeightFields}
    (hweight : estimateRequestWeight powers defaults state fields request = some requestWeight) :
    Accountable (budgetAwareScoring powers float defaults state fields request) ↔ request.candidates = [] ∨ 0 < requestWeight := by
  have hscoring : budgetAwareScoring powers float defaults state fields request =
      (request.candidates.mapM (scoreModel float state request requestWeight)).map fun scored =>
        scored.mergeSort fun a b => decide (b.finalScore ≤ a.finalScore) := by
    rw [budgetAwareScoring, hweight]
    rfl
  rw [hscoring]
  constructor
  · rintro ⟨scored, weight, hscored, hpos, hall⟩
    obtain ⟨unsorted, hmap, rfl⟩ := Option.map_eq_some_iff.1 hscored
    obtain ⟨hlength, hweights⟩ := mapM_weight hmap
    cases unsorted with
    | nil => exact Or.inl (List.length_eq_zero_iff.1 hlength.symm)
    | cons s rest =>
      have hmem : s ∈ (s :: rest).mergeSort fun a b => decide (b.finalScore ≤ a.finalScore) :=
        List.mem_mergeSort.2 List.mem_cons_self
      rw [← hweights s List.mem_cons_self, (hall s hmem).1]
      exact Or.inr hpos
  · intro h
    rcases h with hnone | hpos
    · rw [hnone, List.mapM_nil, Option.pure_def, Option.map_some, List.mergeSort_nil]
      exact ⟨[], 1, rfl, zero_lt_one, fun s hs => absurd hs List.not_mem_nil⟩
    · have hall : ∃ scored, request.candidates.mapM (scoreModel float state request requestWeight) = some scored :=
        mapM_some hpos request.candidates
      obtain ⟨scored, hscored⟩ := hall
      refine ⟨_, requestWeight, congrArg (Option.map _) hscored, hpos, fun s hs => ?_⟩
      have hsame := (mapM_weight hscored).2 s (List.mem_mergeSort.1 hs)
      rw [hsame]
      exact ⟨rfl, decide_eq_true hpos, by simp [usageLogAcceptsWeight, hpos]⟩

end

theorem pow_pos_real : ∀ x y, 0 < x → 0 < Powers.real.pow x y := fun _ y hx => Real.rpow_pos_of_pos hx y

/-! ## Debits -/

section

variable {float : String → Option ℚ}

/-- A number under the first name of a field, where no other name is there. -/
theorem parse_first {budget : Fields} {name : String} {names : List String} {x : Option ℚ} (hhead : get budget name = .ofNumber? x)
    (hrest : ∀ n ∈ names, get budget n = .null) : parseOptionalNumber float (firstPresent budget (name :: names)) = x := by
  cases x with
  | none =>
    have hnull : get budget name = .null := hhead
    rw [firstPresent, if_pos hnull, Document.firstPresent_eq_null_iff.2 hrest]
    rfl
  | some x =>
    rw [Document.firstPresent_head (by rw [hhead]; rintro ⟨⟩), hhead]
    rfl

theorem lookup_names : ∀ p ∈ weightFieldNames, weightFieldNames.lookup p.1 = some p.2 ∧ p.2 = p.1 :: p.2.tail := by decide

theorem weightFields_congr {budget budget' : Fields}
    (h : ∀ p ∈ weightFieldNames, weightField float budget' p.1 = weightField float budget p.1) :
    weightFields float budget' = weightFields float budget := by
  simp only [weightFieldNames, List.forall_mem_cons] at h
  obtain ⟨h1, h2, h3, h4, h5, h6, -⟩ := h
  simp only [weightFields, h1, h2, h3, h4, h5, h6]

theorem lookup_named {names : List (String × List String)} (value : String → Value) (name : String) :
    (names.map fun p => (p.1, value p.1)).lookup name = if name ∈ names.map (·.1) then some (value name) else none := by
  induction names with
  | nil => rfl
  | cons p names ih =>
    rw [List.map_cons, List.lookup_cons, ih, List.map_cons]
    by_cases hname : name = p.1
    · subst hname
      rw [beq_self_eq_true, if_pos List.mem_cons_self]
    · rw [beq_false_of_ne hname]
      simp only [List.mem_cons, hname, false_or]

/-- What is scored of a stored budget has the number of each field of the weight under its first name. -/
theorem get_scoredBudget (row : Fields) {p : String × List String} (h : p ∈ weightFieldNames) :
    get (scoredBudget float row) p.1 = .ofNumber? (weightField float row p.1) := by
  rw [scoredBudget, Document.get_update, lookup_named fun name => .ofNumber? (weightField float row name),
    if_pos (List.mem_map_of_mem h), Option.getD_some]

/-- It has nothing under another name. -/
theorem get_scoredBudget_alias (row : Fields) {p : String × List String} (h : p ∈ weightFieldNames) {name : String}
    (hname : name ∈ p.2.tail) : get (scoredBudget float row) name = .null := by
  have hnames : ∀ p ∈ weightFieldNames, ∀ name ∈ p.2.tail, name ∉ weightFieldNames.map (·.1) ∧
      name ∉ ["budgetRemainingUsd", "remainingWeight", "totalPredictedWeight", "medianWeightedTokens", "averageRequestsPerPeriod",
        "budgetShadowPrice", "budgetControllerLearningRate", "budgetShadowPriceMin", "budgetShadowPriceMax", "spendAccountingMode"] := by
    decide +kernel
  obtain ⟨hfirst, hother⟩ := hnames p h name hname
  rw [scoredBudget, Document.get_update, lookup_named fun name => .ofNumber? (weightField float row name), if_neg hfirst,
    Option.getD_none]
  simp only [List.mem_cons, List.not_mem_nil, or_false, not_or] at hother
  simp only [budgetFromRow, Table.ofList, List.foldl_cons, List.foldl_nil, Document.get_insert, hother, if_false]
  rfl

/-- What is stored of the weight is what is scored. -/
theorem weightFields_scoredBudget (row : Fields) : weightFields float (scoredBudget float row) = weightFields float row := by
  refine weightFields_congr fun p hp => ?_
  obtain ⟨hlookup, hnames⟩ := lookup_names p hp
  have hhead : get (scoredBudget float row) p.1 = .ofNumber? (weightField float row p.1) := get_scoredBudget row hp
  have hrest : ∀ n ∈ p.2.tail, get (scoredBudget float row) n = .null := fun n hn => get_scoredBudget_alias row hp hn
  have hscored : parseOptionalNumber float (firstPresent (scoredBudget float row) (p.1 :: p.2.tail)) = weightField float row p.1 :=
    parse_first hhead hrest
  rw [← hnames] at hscored
  rw [weightField, hlookup]
  exact hscored

/-- No debit changes what a budget says of the weight. -/
theorem weightFields_debited {row row' : Fields} (h : Relation.ReflTransGen Debited row row') :
    weightFields float row' = weightFields float row := by
  have hnames : ∀ p ∈ weightFieldNames, ∀ n ∈ p.2, n ∉ writtenNames := by decide +kernel
  induction h with
  | refl => rfl
  | @tail before after _ hstep ih =>
    obtain ⟨debitUsd, weightDebit, update, success, hupdate⟩ := hstep
    have hothers := (updated_of_pipeline hupdate).others
    rw [← ih]
    refine weightFields_congr fun p hp => ?_
    rw [weightField, weightField, (lookup_names p hp).1]
    exact congrArg (parseOptionalNumber float) (Document.firstPresent_congr fun n hn => hothers n (hnames p hp n hn))

end

end ScoringAux

open ScoringAux

/-- A request is scored without a division by zero, and with one positive weight that is accepted further on, exactly when a bound of the
weight is positive; a request without candidates is not weighed. -/
theorem scoring_accountable_iff (float : String → Option ℚ) (defaults : WeightDefaults) (request : ScoringRequest) {budget : Fields}
    {state : BudgetState} (h : normalizeBudgetState float budget = .ok state) :
    Accountable (budgetAwareScoring Powers.real float defaults state (weightFields float budget) request) ↔
      request.candidates = [] ∨ Bounded defaults (weightFields float budget) := by
  obtain ⟨requestWeight, hweight, hpos, hzero⟩ := estimateRequestWeight_eq (normalizeBudgetState_ok_iff.1 h) pow_pos_real Real.exp_pos
    defaults (weightFields float budget) request
  by_cases hbounded : Bounded defaults (weightFields float budget)
  · rw [accountable_iff hweight]
    simp [hbounded, hpos hbounded]
  · rw [accountable_iff hweight, hzero hbounded]
    simp [hbounded]

/-- What a budget says of the weight at its setup decides of every request that it is asked for, after any debits. -/
theorem scoring_accountable_after_debits (float : String → Option ℚ) (defaults : WeightDefaults) (request : ScoringRequest)
    {row row' : Fields} (hdebits : Relation.ReflTransGen Debited row row') (hbounded : Bounded defaults (weightFields float row))
    {state : BudgetState} (hstate : normalizeBudgetState float (scoredBudget float row') = .ok state) :
    Accountable (budgetAwareScoring Powers.real float defaults state (weightFields float (scoredBudget float row')) request) := by
  rw [weightFields_scoredBudget, weightFields_debited hdebits]
  obtain ⟨requestWeight, hweight, hpos, -⟩ := estimateRequestWeight_eq (normalizeBudgetState_ok_iff.1 hstate) pow_pos_real Real.exp_pos
    defaults (weightFields float row) request
  exact (accountable_iff hweight).2 (Or.inr (hpos hbounded))

/-! ## Two budgets -/

namespace ScoringExample

/-- A budget whose period is used up, with the least weight and the multiplier of the weight of a request. -/
def budget (weightMin capMultiplier : ℚ) : Fields :=
  Table.ofList [("budgetRemainingUsd", .number 10), ("remainingWeight", .number 0), ("totalPredictedWeight", .number 100),
    ("medianWeightedTokens", .number 1000), ("averageRequestsPerPeriod", .number 100), ("budgetShadowPrice", .number 1),
    ("budgetControllerLearningRate", .number 1), ("budgetShadowPriceMin", .number 0), ("budgetShadowPriceMax", .number 2),
    ("requestWeightMin", .number weightMin), ("requestWeightCapMultiplier", .number capMultiplier)]

def state : BudgetState where
  budgetRemainingUsd := 10
  remainingWeight := 0
  totalPredictedWeight := 100
  medianWeightedTokens := 1000
  averageRequestsPerPeriod := 100
  budgetShadowPrice := 1
  budgetControllerLearningRate := 1
  budgetShadowPriceMin := 0
  budgetShadowPriceMax := 2
  spendAccountingMode := .routingFee

def request : ScoringRequest where
  candidates := [
    { modelId := "small"
      provider := "openai"
      biencoderScore := .number 1
      inputPricePerMillion := .number 1
      outputPricePerMillion := .number 1
      contextWindow := .number 100000
      supportsTools := true
      supportsJson := true }]
  penalties := []
  promptChars := 40
  prediction := 100
  difficulty := 1

end ScoringExample

open ScoringExample

/-- A budget that is accepted, and by whose weight every request is divided. -/
theorem unbounded_budget_unaccountable : ¬∀ (float : String → Option ℚ) (defaults : WeightDefaults) (request : ScoringRequest)
    (budget : Fields) (state : BudgetState), normalizeBudgetState float budget = .ok state →
      Accountable (budgetAwareScoring Powers.real float defaults state (weightFields float budget) request) := by
  intro h
  have hstate : normalizeBudgetState (fun _ => none) (budget 0 0) = .ok state := by decide +kernel
  have hunbounded : ¬Bounded {} (weightFields (fun _ => none) (budget 0 0)) := by
    rw [Bounded, show weightFields (fun _ => none) (budget 0 0) = ⟨none, none, none, some 0, some 0, none⟩ from rfl]
    simp
  obtain ⟨requestWeight, hweight, -, hzero⟩ := estimateRequestWeight_eq (normalizeBudgetState_ok_iff.1 hstate) pow_pos_real Real.exp_pos
    {} (weightFields (fun _ => none) (budget 0 0)) request
  rw [hzero hunbounded] at hweight
  rcases (accountable_iff hweight).1 (h (fun _ => none) {} request (budget 0 0) state hstate) with hnone | hpos
  · exact absurd hnone (List.cons_ne_nil _ _)
  · exact lt_irrefl 0 hpos

/-- A budget with a least weight is scored, also when its period is used up. -/
theorem bounded_budget_accountable : Accountable
    (budgetAwareScoring Powers.real (fun _ => none) {} state (weightFields (fun _ => none) (budget (1 / 20) 0)) request) := by
  have hstate : normalizeBudgetState (fun _ => none) (budget (1 / 20) 0) = .ok state := by decide +kernel
  refine (scoring_accountable_iff (fun _ => none) {} request hstate).2 (Or.inr (Or.inl ?_))
  rw [show weightFields (fun _ => none) (budget (1 / 20) 0) = ⟨none, none, none, some (1 / 20), some 0, none⟩ from rfl]
  norm_num

end Scoring

end RouteBudget

end PromptRail
