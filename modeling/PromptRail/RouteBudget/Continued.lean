import PromptRail.RouteBudget.Switching

/-!
# Staying with a model

The penalty of a switch moves the model of the session in the ranking, and nothing else: the other models keep their order. The session
leaves its model only for one whose score is better by at least what the cache saves, and what the cache saves grows with the
conversation.
-/

namespace PromptRail

open PyText (Text)
open Provider (messagesText roleOf messageLine)

namespace RouteBudget

namespace Switching

/-! ## The prompt that is cached -/

section

variable {env : Env}

theorem length_intercalate_append (separator : Text) (texts more : List Text) :
    (separator.intercalate texts).length ≤ (separator.intercalate (texts ++ more)).length := by
  induction texts with
  | nil => simp
  | cons text texts ih =>
    cases texts with
    | nil =>
      cases more with
      | nil => simp
      | cons next more => simp [List.intercalate]
    | cons next texts =>
      simp only [List.intercalate, List.cons_append, List.intersperse_cons_cons, List.flatten_cons, List.length_append] at ih ⊢
      omega

/-- A conversation that goes on is a longer text. -/
theorem length_messagesText_of_prefix {messages messages' : List Json.Fields} (h : messages <+: messages') :
    (messagesText env.base messages).length ≤ (messagesText env.base messages').length := by
  obtain ⟨more, rfl⟩ := h
  rw [messagesText, messagesText, List.map_append]
  exact length_intercalate_append _ _ _

theorem lt_of_isUserAt {messages : List Json.Fields} {i : Nat} (h : isUserAt env messages i = true) : i < messages.length := by
  by_contra hlength
  rw [isUserAt, List.getElem?_eq_none (not_lt.1 hlength)] at h
  cases h

/-- The latest message of the user is the last one there is. -/
theorem latestUserIndex_some {messages : List Json.Fields} {i : Nat} (h : latestUserIndex env messages = some i) :
    isUserAt env messages i = true ∧ ∀ j, isUserAt env messages j = true → j ≤ i := by
  obtain ⟨huser, before, after, heq, hbefore⟩ := List.find?_eq_some_iff_append.1 h
  refine ⟨huser, fun j hj => ?_⟩
  have hsorted : (List.range messages.length).reverse.Pairwise (· > ·) := List.pairwise_reverse.2 List.pairwise_lt_range
  have hmem : j ∈ (List.range messages.length).reverse := List.mem_reverse.2 (List.mem_range.2 (lt_of_isUserAt hj))
  rw [heq] at hsorted hmem
  rcases List.mem_append.1 hmem with hmem | hmem
  · exact absurd hj (by simpa using hbefore j hmem)
  · rcases List.mem_cons.1 hmem with rfl | hmem
    · exact le_rfl
    · exact ((List.pairwise_cons.1 (List.pairwise_append.1 hsorted).2.1).1 j hmem).le

theorem latestUserIndex_none {messages : List Json.Fields} (h : latestUserIndex env messages = none) (j : Nat) :
    isUserAt env messages j = false := by
  by_contra huser
  have hj : isUserAt env messages j = true := by simpa using huser
  exact (List.find?_eq_none.1 h) j (List.mem_reverse.2 (List.mem_range.2 (lt_of_isUserAt hj))) hj

theorem isUserAt_append {messages : List Json.Fields} (more : List Json.Fields) {i : Nat} (h : i < messages.length) :
    isUserAt env (messages ++ more) i = isUserAt env messages i := by
  rw [isUserAt, isUserAt, List.getElem?_append_left h]

/-- How many messages of a conversation are cached. -/
theorem prefixMessages_eq_take (messages : List Json.Fields) :
    prefixMessages env messages = messages.take ((latestUserIndex env messages).getD (messages.length - 1)) := by
  unfold prefixMessages
  cases latestUserIndex env messages with
  | some i => rfl
  | none => exact List.dropLast_eq_take

theorem latestUserIndex_le_length (messages : List Json.Fields) :
    (latestUserIndex env messages).getD (messages.length - 1) ≤ messages.length := by
  cases hlatest : latestUserIndex env messages with
  | some i => exact (lt_of_isUserAt (latestUserIndex_some hlatest).1).le
  | none => exact Nat.sub_le _ _

/-- No fewer messages are cached when a conversation goes on. -/
theorem latestUserIndex_append_le (messages more : List Json.Fields) :
    (latestUserIndex env messages).getD (messages.length - 1) ≤
      (latestUserIndex env (messages ++ more)).getD ((messages ++ more).length - 1) := by
  cases hlatest : latestUserIndex env messages with
  | some i =>
    obtain ⟨huser, -⟩ := latestUserIndex_some hlatest
    have huser' : isUserAt env (messages ++ more) i = true := (isUserAt_append more (lt_of_isUserAt huser)).trans huser
    cases hlatest' : latestUserIndex env (messages ++ more) with
    | some j => exact (latestUserIndex_some hlatest').2 i huser'
    | none => exact absurd huser' (by simp [latestUserIndex_none hlatest' i])
  | none =>
    cases hlatest' : latestUserIndex env (messages ++ more) with
    | some j =>
      obtain ⟨huser, -⟩ := latestUserIndex_some hlatest'
      rw [Option.getD_none, Option.getD_some]
      -- a message of the user before that place would be one of the first messages
      by_contra hbefore
      rw [isUserAt_append more (by omega), latestUserIndex_none hlatest j] at huser
      cases huser
    | none =>
      rw [Option.getD_none, Option.getD_none, List.length_append]
      omega

/-- What is cached of a conversation is cached when it goes on. -/
theorem prefixMessages_append (messages more : List Json.Fields) :
    prefixMessages env messages <+: prefixMessages env (messages ++ more) := by
  rw [prefixMessages_eq_take, prefixMessages_eq_take, ← List.take_append_of_le_length (latestUserIndex_le_length messages)]
  exact List.take_prefix_take_left (latestUserIndex_append_le messages more)

theorem estimateCacheableInputTokens_append (messages more : List Json.Fields) :
    estimateCacheableInputTokens env messages ≤ estimateCacheableInputTokens env (messages ++ more) := by
  have hlength : (cacheablePromptText env messages).length ≤ (cacheablePromptText env (messages ++ more)).length :=
    length_messagesText_of_prefix (prefixMessages_append messages more)
  refine max_le_max le_rfl (div_le_div_of_nonneg_right ?_ (by norm_num))
  exact_mod_cast hlength

theorem cachedInputPriceDifference_nonneg (model : Json.Fields) : 0 ≤ cachedInputPriceDifferencePerMillion env model := by
  unfold cachedInputPriceDifferencePerMillion
  dsimp only
  split
  · exact le_rfl
  · exact le_max_left _ _

theorem prefixMessages_initial (messages : List Json.Fields) : prefixMessages env messages <+: messages := by
  rw [prefixMessages_eq_take]
  exact List.take_prefix _ _

/-- No more is cached than the conversation has. -/
theorem estimateCacheableInputTokens_le (messages : List Json.Fields) :
    estimateCacheableInputTokens env messages ≤ (messagesText env.base messages).length / 4 := by
  have hlength : (cacheablePromptText env messages).length ≤ (messagesText env.base messages).length :=
    length_messagesText_of_prefix (prefixMessages_initial messages)
  refine max_le (by positivity) (div_le_div_of_nonneg_right ?_ (by norm_num))
  exact_mod_cast hlength

theorem cachedInputPriceDifference_le (model : Json.Fields) :
    cachedInputPriceDifferencePerMillion env model ≤ max 0 (modelInputPricePerMillion env model) := by
  unfold cachedInputPriceDifferencePerMillion
  dsimp only
  split
  · exact le_max_left _ _
  · rename_i hprices
    obtain ⟨-, hread⟩ := not_or.1 hprices
    exact max_le_max le_rfl (sub_le_self _ (not_le.1 hread).le)

/-- The cache saves no more than the conversation costs without it. -/
theorem savings_le (usage : PreviousUsage) (messages : List Json.Fields) (candidates : List CandidateProfile) :
    (cacheSavings env (some usage) messages candidates).promptCacheSavingsUsd ≤
      Round.round 8 (max 0 (modelInputPricePerMillion env (continuedModel usage candidates)) / 1000000 *
        ((messagesText env.base messages).length / 4)) := by
  have hcost : 0 ≤ max 0 (modelInputPricePerMillion env (continuedModel usage candidates)) / 1000000 *
      (((messagesText env.base messages).length : ℚ) / 4) := by positivity
  unfold cacheSavings
  dsimp only
  split
  · exact Round.round_nonneg hcost
  · refine Round.round_mono (max_le hcost (mul_le_mul ?_ (estimateCacheableInputTokens_le messages) (le_max_left _ _) (by positivity)))
    exact div_le_div_of_nonneg_right (cachedInputPriceDifference_le _) (by norm_num)

theorem savings_nonneg (previous : Option PreviousUsage) (messages : List Json.Fields) (candidates : List CandidateProfile) :
    0 ≤ (cacheSavings env previous messages candidates).promptCacheSavingsUsd := by
  unfold cacheSavings
  split
  · split
    · exact le_rfl
    · exact Round.round_nonneg (le_max_left _ _)
  · exact le_rfl

/-- What the cache saves does not shrink when the conversation goes on. -/
theorem savings_append (previous : Option PreviousUsage) (messages more : List Json.Fields) (candidates : List CandidateProfile) :
    (cacheSavings env previous messages candidates).promptCacheSavingsUsd ≤
      (cacheSavings env previous (messages ++ more) candidates).promptCacheSavingsUsd := by
  unfold cacheSavings
  split
  · split
    · exact le_rfl
    · refine Round.round_mono (max_le_max le_rfl (mul_le_mul_of_nonneg_left (estimateCacheableInputTokens_append messages more) ?_))
      exact div_nonneg (cachedInputPriceDifference_nonneg _) (by norm_num)
  · exact le_rfl

end

/-! ## Ranking -/

section

open Scoring (Powers ScoredModel ScoringRequest WeightDefaults WeightFields estimateRequestWeight scoreModel)

variable {K : Type} [Field K] [LinearOrder K]

/-- The order of the ranking: the better score first. -/
def better (a b : ScoredModel K) : Bool := decide (b.finalScore ≤ a.finalScore)

/-- A scored model with a penalty. -/
def penalized (penalty : String → K) (s : ScoredModel K) : ScoredModel K :=
  { s with finalScore := s.finalScore - penalty s.model.modelId }

omit [Field K] in
theorem better_trans (a b c : ScoredModel K) : better a b → better b c → better a c := by
  simp only [better, decide_eq_true_eq]
  intro hab hbc
  exact hbc.trans hab

omit [Field K] in
theorem better_total (a b : ScoredModel K) : better a b || better b a := by
  simp only [better, Bool.or_eq_true, decide_eq_true_eq]
  exact le_total _ _

/-- A penalty that some models share leaves their order. -/
theorem mergeSort_penalized [IsStrictOrderedRing K] {penalty : String → K} {c : K} {l : List (ScoredModel K)}
    (h : ∀ s ∈ l, penalty s.model.modelId = c) :
    (l.map (penalized penalty)).mergeSort better = (l.mergeSort better).map (penalized penalty) := by
  refine (List.map_mergeSort fun a ha b hb => ?_).symm
  simp only [better, penalized, h a ha, h b hb, sub_le_sub_iff_right]

variable {float : String → Option ℚ} {state : BudgetState}

/-- The penalty of a model, as the scoring reads it. -/
def penaltyOf (float : String → Option ℚ) (penalties : List (String × Document.Value)) (modelId : String) : ℚ :=
  asFloat float ((penalties.lookup modelId).getD .null)

theorem mapM_map {α β γ : Type} (f : α → Option β) (g : β → γ) (l : List α) :
    l.mapM (fun a => (f a).map g) = (l.mapM f).map (List.map g) := by
  induction l with
  | nil => rfl
  | cons a l ih =>
    rw [List.mapM_cons, List.mapM_cons, ih]
    cases f a with
    | none => rfl
    | some b => cases l.mapM f <;> rfl

theorem scoreModel_penalized (request : ScoringRequest) (requestWeight : K) (model : RoutedModel) :
    scoreModel float state request requestWeight model =
      (scoreModel float state { request with penalties := [] } requestWeight model).map
        (penalized fun id => (penaltyOf float request.penalties id : K)) := by
  unfold scoreModel Scoring.modelMalus
  rw [Option.map_map]
  dsimp only
  refine congrArg (fun f => Option.map f _) (funext fun malus => ?_)
  simp only [penalized, penaltyOf, Function.comp_apply, List.lookup_nil, Option.getD_none]
  refine congrArg _ ?_
  have hzero : asFloat float .null = 0 := rfl
  rw [hzero, Rat.cast_zero, sub_zero]

theorem models_of_scored {request : ScoringRequest} {requestWeight : K} {models : List RoutedModel} {scored : List (ScoredModel K)}
    (h : models.mapM (scoreModel float state request requestWeight) = some scored) : scored.map (·.model) = models := by
  induction models generalizing scored with
  | nil =>
    cases h
    rfl
  | cons model models ih =>
    rw [List.mapM_cons, Option.bind_eq_bind, Option.bind_eq_some_iff] at h
    obtain ⟨s, hs, h⟩ := h
    obtain ⟨rest, hrest, h⟩ := Option.bind_eq_some_iff.1 h
    cases h
    obtain ⟨malus, -, rfl⟩ := Option.map_eq_some_iff.1 hs
    rw [List.map_cons, ih hrest]

/-- The scores with penalties are the scores without, less the penalties. -/
theorem budgetAwareScoring_penalized {powers : Powers K} {defaults : WeightDefaults} {fields : WeightFields} {request : ScoringRequest}
    {plain : List (ScoredModel K)}
    (h : Scoring.budgetAwareScoring powers float defaults state fields { request with penalties := [] } = some plain) :
    ∃ scored : List (ScoredModel K), plain = scored.mergeSort better ∧ scored.map (·.model) = request.candidates ∧
      Scoring.budgetAwareScoring powers float defaults state fields request =
        some ((scored.map (penalized fun id => (penaltyOf float request.penalties id : K))).mergeSort better) := by
  unfold Scoring.budgetAwareScoring at h ⊢
  obtain ⟨requestWeight, hweight, h⟩ := Option.bind_eq_some_iff.1 h
  obtain ⟨scored, hscored, rfl⟩ := Option.map_eq_some_iff.1 h
  have hweight' : estimateRequestWeight powers defaults state fields request = some requestWeight := hweight
  have hpenalized : request.candidates.mapM (scoreModel float state request requestWeight) =
      some (scored.map (penalized fun id => (penaltyOf float request.penalties id : K))) := by
    rw [funext (scoreModel_penalized request requestWeight), mapM_map, hscored]
    rfl
  refine ⟨scored, rfl, models_of_scored hscored, ?_⟩
  · rw [hweight', Option.bind_eq_bind, Option.bind_some, hpenalized]
    rfl

/-- Models that share a penalty keep their order among each other. -/
theorem filter_models_penalized [IsStrictOrderedRing K] {penalty : String → K} {c : K} {scored : List (ScoredModel K)}
    {q : RoutedModel → Bool} (h : ∀ s ∈ scored, q s.model = true → penalty s.model.modelId = c) :
    (((scored.map (penalized penalty)).mergeSort better).map (·.model)).filter q = ((scored.mergeSort better).map (·.model)).filter q := by
  have hpart : (scored.map (penalized penalty)).filter (q ∘ (·.model)) = (scored.filter (q ∘ (·.model))).map (penalized penalty) := by
    rw [List.filter_map]
    rfl
  rw [List.filter_map, List.filter_map, StableSort.filter_mergeSort better_trans better_total,
    StableSort.filter_mergeSort better_trans better_total, hpart, mergeSort_penalized, List.map_map]
  · rfl
  · intro s hs
    obtain ⟨hs, hq⟩ := List.mem_filter.1 hs
    exact h s hs hq

/-- The first compatible model has the best score of the compatible ones, less its penalty. -/
theorem find?_models_penalized {penalty : String → K} {scored : List (ScoredModel K)} {compatible : RoutedModel → Bool}
    {p : ScoredModel K} (hp : p ∈ scored.mergeSort better) (hcompatible : compatible p.model = true) :
    ∃ s ∈ scored.mergeSort better,
      (((scored.map (penalized penalty)).mergeSort better).map (·.model)).find? compatible = some s.model ∧
      ∀ b ∈ scored.mergeSort better, compatible b.model = true →
        b.finalScore - penalty b.model.modelId ≤ s.finalScore - penalty s.model.modelId := by
  have hsome : (((scored.map (penalized penalty)).mergeSort better).find? (compatible ∘ (·.model))).isSome = true := by
    rw [List.find?_isSome]
    exact ⟨penalized penalty p, List.mem_mergeSort.2 (List.mem_map_of_mem (List.mem_mergeSort.1 hp)), hcompatible⟩
  obtain ⟨chosen, hchosen⟩ := Option.isSome_iff_exists.1 hsome
  obtain ⟨s, hs, rfl⟩ := List.mem_map.1 (List.mem_mergeSort.1 (List.mem_of_find?_eq_some hchosen))
  refine ⟨s, List.mem_mergeSort.2 hs, ?_, ?_⟩
  · rw [List.find?_map, hchosen]
    rfl
  · intro b hb hcompatible'
    have hbetter := StableSort.le_of_find?_mergeSort better_trans better_total hchosen
      (List.mem_map_of_mem (List.mem_mergeSort.1 hb)) hcompatible'
    exact of_decide_eq_true hbetter

/-- Where all models but those of one identifier cost the same, the others keep their order, and the first compatible model is one of
that identifier unless another one is better by at least that cost. -/
theorem ranking_of_cost [IsStrictOrderedRing K] {penalty : String → K} {cost : K} {prior : String} {scored : List (ScoredModel K)}
    (hcost : ∀ s ∈ scored, penalty s.model.modelId = if s.model.modelId = prior then 0 else cost) :
    (((scored.map (penalized penalty)).mergeSort better).map (·.model)).filter (·.modelId ≠ prior) =
        ((scored.mergeSort better).map (·.model)).filter (·.modelId ≠ prior) ∧
      ∀ compatible : RoutedModel → Bool, ∀ p ∈ scored.mergeSort better, p.model.modelId = prior → compatible p.model = true →
        ∃ s ∈ scored.mergeSort better,
          (((scored.map (penalized penalty)).mergeSort better).map (·.model)).find? compatible = some s.model ∧
          (s.model.modelId ≠ prior → p.finalScore + cost ≤ s.finalScore) ∧
          (s.model.modelId = prior → ∀ b ∈ scored.mergeSort better, b.model.modelId ≠ prior → compatible b.model = true →
            b.finalScore ≤ s.finalScore + cost) := by
  have hcost' (s : ScoredModel K) (hs : s ∈ scored.mergeSort better) :
      penalty s.model.modelId = if s.model.modelId = prior then 0 else cost := hcost s (List.mem_mergeSort.1 hs)
  refine ⟨?_, ?_⟩
  · refine filter_models_penalized (c := cost) ?_
    intro s hs hother
    rw [hcost s hs, if_neg (by simpa using hother)]
  · intro compatible p hp hid hcompatible
    obtain ⟨s, hs, hfound, hbest⟩ := find?_models_penalized hp hcompatible
    refine ⟨s, hs, hfound, ?_, ?_⟩
    · intro hswitched
      have hle := hbest p hp hcompatible
      rw [hcost' s hs, hcost' p hp, if_neg hswitched, if_pos hid, sub_zero] at hle
      exact le_sub_iff_add_le.1 hle
    · intro hstayed b hb hother hcompatible'
      have hle := hbest b hb hcompatible'
      rw [hcost' s hs, hcost' b hb, if_pos hstayed, if_neg hother, sub_zero] at hle
      exact sub_le_iff_le_add.1 hle

/-! ### Penalties of a switch -/

theorem lookup_keyed {keys : List String} (value : String → Document.Value) {key : String} (h : key ∈ keys) :
    (keys.map fun k => (k, value k)).lookup key = some (value key) := by
  induction keys with
  | nil => cases h
  | cons first keys ih =>
    rw [List.map_cons, List.lookup_cons]
    by_cases hkey : key = first
    · rw [hkey, beq_self_eq_true]
    · rw [beq_false_of_ne hkey]
      exact ih ((List.mem_cons.1 h).resolve_left hkey)

/-- The scoring reads the penalty that was estimated. -/
theorem penaltyOf_estimated {env : Env} {previous : Option PreviousUsage} {messages : List Json.Fields}
    {candidates : List CandidateProfile} {id : String} (h : id ∈ candidates.map (·.modelId)) :
    penaltyOf float (switchCostEstimator env previous messages candidates).scoringPenalties id =
      switchPenalty previous (cacheSavings env previous messages candidates).promptCacheSavingsUsd id := by
  have hpenalties : (switchCostEstimator env previous messages candidates).scoringPenalties =
      (candidates.map (·.modelId)).map fun id =>
        (id, .number (switchPenalty previous (cacheSavings env previous messages candidates).promptCacheSavingsUsd id)) := by
    simp [SwitchCost.scoringPenalties, switchCostEstimator, Function.comp_def]
  rw [penaltyOf, hpenalties, lookup_keyed (fun id =>
    .number (switchPenalty previous (cacheSavings env previous messages candidates).promptCacheSavingsUsd id)) h]
  rfl

theorem switchPenalty_eq {previous : Option PreviousUsage} {prior : String} (h : previousModelId previous = some prior) (savingsUsd : ℚ)
    (id : String) : switchPenalty previous savingsUsd id = if id = prior then 0 else savingsUsd := by
  by_cases hid : id = prior
  · simp [switchPenalty, h, hid]
  · simp [switchPenalty, h, hid, Ne.symm hid]

end

end Switching

namespace SwitchingExample

open Switching

def env : Switching.Env where
  base := { repr := fun _ => [], lower := fun text => text.map Char.toLower }
  float := fun _ => none
  literal := fun literal => if literal = "0.25" then some (1 / 4) else none

/-- A model of a dollar for a million tokens, a quarter of it from the cache. -/
def cachedProfile (id : String) : Json.Fields :=
  [("model_id", .str id.toList), ("input_price_per_million", .int 1), ("input_cache_read_usd_per_million", .float "0.25")]

def profiles : List CandidateProfile := [⟨"a/one", cachedProfile "a/one"⟩, ⟨"b/two", cachedProfile "b/two"⟩]

/-- The session's last call went to the second model. -/
def previous : PreviousUsage := { modelId := "b/two", modelProfile := none, provider := none }

def said (role content : String) : Json.Fields := [("role", .str role.toList), ("content", .str content.toList)]

def conversation : List Json.Fields := [said "user" "explain the parser", said "assistant" "it reads tokens", said "user" "shorter"]

def model (id : String) (score : ℚ) : RoutedModel where
  modelId := id
  provider := "provider"
  biencoderScore := .number score
  inputPricePerMillion := .number 1
  outputPricePerMillion := .number 1
  contextWindow := .number 100000
  supportsTools := true
  supportsJson := true

def request : Scoring.ScoringRequest where
  candidates := [model "a/one" (1 / 2), model "b/two" (1 / 2)]
  penalties := []
  promptChars := 60
  prediction := 10
  difficulty := 0

def state : BudgetState where
  budgetRemainingUsd := 10
  remainingWeight := 100
  totalPredictedWeight := 100
  medianWeightedTokens := 65
  averageRequestsPerPeriod := 10
  budgetShadowPrice := 1
  budgetControllerLearningRate := 10
  budgetShadowPriceMin := 0
  budgetShadowPriceMax := 100
  spendAccountingMode := .providerSpend

/-- Nothing but the defaults. -/
def fields : Scoring.WeightFields := ⟨none, none, none, none, none, none⟩

/-- The powers of the exponents one and zero. -/
def powers : Scoring.Powers ℚ := { pow := fun x _ => x, exp := fun _ => 1 }

end SwitchingExample

end RouteBudget

end PromptRail
