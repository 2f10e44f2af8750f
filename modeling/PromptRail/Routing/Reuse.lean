import PromptRail.Routing.Authorised
import PromptRail.Compaction.Confirmed
import Mathlib.Tactic.FieldSimp
import Mathlib.Tactic.LinearCombination

/-!
# Where the prices and the compaction read the cache alike

The selection, the plan and the compaction each decide whether the cached prefix survives the reduction of a call. The prices count what
the messages outside the prefix can lose down to 32 tokens, protected or not; the compaction counts down to its own minimum, and only what
is not protected. The compaction also takes the prefix to be read from the cache on whatever route was selected.
-/

namespace PromptRail

open Outcome (bind_ok mem_mapM)

namespace Routing

/-- What a call has to lose to keep to its required context. -/
def requiredReduction (cache : CacheAnalysis) (budget : CallBudget) : Int := max 0 (cache.totalTokens - budget.requiredContextTokens)

/-- The prices take the cached prefix to be preserved. -/
def PricedAsKept (cache : CacheAnalysis) (budget : CallBudget) : Prop := requiredReduction cache budget ≤ noncachedCapacity cache

instance (cache : CacheAnalysis) (budget : CallBudget) : Decidable (PricedAsKept cache budget) := inferInstanceAs (Decidable (_ ≤ _))

/-- The messages outside the cached prefix can lose what the compaction has to take. -/
def CompactedAsKept (minimumKeptTokens : Nat) (cache : CacheAnalysis) (budget : CallBudget) : Prop :=
  requiredReduction cache budget ≤ uncachedCapacity minimumKeptTokens cache

instance (minimumKeptTokens : Nat) (cache : CacheAnalysis) (budget : CallBudget) :
    Decidable (CompactedAsKept minimumKeptTokens cache budget) := inferInstanceAs (Decidable (_ ≤ _))

/-- The route reads the cache that a value was computed for. -/
def ReadsCache (value : CacheValue) (route : ProviderRoute) : Prop :=
  value.exactReuse = true ∧ value.provider = some route.provider ∧ route.cacheSupported = true

instance (value : CacheValue) (route : ProviderRoute) : Decidable (ReadsCache value route) :=
  inferInstanceAs (Decidable (_ ∧ _ ∧ _))

/-- The compaction leaves every message of the cached prefix alone. -/
def LeavesPrefix (cache : CacheAnalysis) (compactionPlan : CompactionPlan) : Prop :=
  ∀ i ∈ cache.cacheableMessageIndices, i ∉ compactionPlan.compactableMessageIndices

namespace ReuseAux

open ConfirmedAux

variable {kept : Nat} {cache : CacheAnalysis} {decision : RouterDecision} {budget : CallBudget} {route : ProviderRoute}

/-! ## The prices -/

theorem requiredInputCost_kept (route : ProviderRoute) (cache : CacheAnalysis) (budget : CallBudget) (value : CacheValue) :
    requiredInputCost route budget.requiredContextTokens cache value = inputPrice route budget.requiredContextTokens
      (if ReadsCache value route ∧ PricedAsKept cache budget then min budget.requiredContextTokens value.cachedTokens else 0) := by
  unfold requiredInputCost
  dsimp only
  congr 1
  refine if_congr ?_ rfl rfl
  simp only [Bool.and_eq_true, beq_iff_eq, decide_eq_true_eq, ReadsCache, PricedAsKept, requiredReduction, and_assoc]

theorem routeCost_kept (route : ProviderRoute) (decision : RouterDecision) (cache : CacheAnalysis) (budget : CallBudget) :
    routeCost route decision cache budget = inputPrice route budget.requiredContextTokens
      (if ReadsCache decision.cacheValue route ∧ PricedAsKept cache budget then
        min budget.requiredContextTokens decision.cacheValue.cachedTokens else 0) +
      outputCost route decision.predictedOutputTokens := by
  rw [AuthorisedAux.routeCost_eq, requiredInputCost_kept]

/-- What is read from the cache changes the price of an input if there is any, and its price differs. -/
theorem inputPrice_eq_iff (route : ProviderRoute) (tokens cached : Int) :
    inputPrice route tokens cached = inputPrice route tokens 0 ↔
      cached = 0 ∨ route.cacheReadPricePerMillion.getD route.inputPricePerMillion = route.inputPricePerMillion := by
  by_cases hcached : cached = 0
  · simp [hcached]
  · have hne : (cached : ℚ) ≠ 0 := by exact_mod_cast hcached
    simp only [inputPrice, hcached, false_or, ne_eq, not_true_eq_false, not_false_eq_true, if_true, if_false]
    constructor
    · intro h
      have hprices : (cached : ℚ) * (route.cacheReadPricePerMillion.getD route.inputPricePerMillion - route.inputPricePerMillion) = 0 := by
        push_cast at h
        linarith
      rcases mul_eq_zero.1 hprices with h0 | h0
      · exact absurd h0 hne
      · linarith
    · intro h
      rw [h]
      push_cast
      ring

/-! ## The plan of the compaction -/

/-- From the floor of the planner on, the plan takes what the budget requires. -/
theorem plan_reduction (hfloor : minimumReachableTokens kept cache ≤ budget.requiredContextTokens) (modelDecision : ModelDecision) :
    ((PromptRail.plan kept cache modelDecision budget).requiredReductionTokens : Int) = requiredReduction cache budget ∧
      (PromptRail.plan kept cache modelDecision budget).targetTokens = min (cache.totalTokens : Int) budget.requiredContextTokens := by
  have hle : minimumReachableTokens kept cache ≤ cache.totalTokens := by
    unfold minimumReachableTokens
    omega
  simp only [PromptRail.plan, requiredReduction]
  omega

/-- The cost the plan of the compaction estimates, from the floor of the planner on. -/
theorem plan_estimate (hfloor : minimumReachableTokens kept cache ≤ budget.requiredContextTokens)
    (htotal : budget.requiredContextTokens ≤ cache.totalTokens) (hpos : 0 ≤ budget.requiredContextTokens)
    (modelDecision : ModelDecision) :
    (PromptRail.plan kept cache modelDecision budget).estimatedInputCostUsd =
      inputPrice modelDecision.route budget.requiredContextTokens
        (if modelDecision.cacheValue.exactReuse = true ∧ CompactedAsKept kept cache budget then
          min budget.requiredContextTokens modelDecision.cacheValue.cachedTokens else 0) := by
  obtain ⟨-, htarget⟩ := plan_reduction hfloor modelDecision
  have hcapacity : reducibleTokens kept cache (cache.compactableMessageIndices.filter fun i =>
      !cache.protectedMessageIndices.contains i && !cache.cacheableMessageIndices.contains i) = uncachedCapacity kept cache := rfl
  have hkept : (cache.totalTokens - budget.requiredContextTokens : Int).toNat ≤ uncachedCapacity kept cache ↔
      CompactedAsKept kept cache budget := by
    unfold CompactedAsKept requiredReduction
    omega
  rw [min_eq_right htotal] at htarget
  simp only [PromptRail.plan] at htarget ⊢
  rw [htarget, hcapacity]
  simp only [hkept]
  generalize hcached : (if modelDecision.cacheValue.exactReuse = true ∧ CompactedAsKept kept cache budget then
    min budget.requiredContextTokens (modelDecision.cacheValue.cachedTokens : Int) else 0) = cached
  have hle : cached ≤ budget.requiredContextTokens := by
    rw [← hcached]
    split
    · exact min_le_left _ _
    · exact hpos
  have hmax : ((max 0 (budget.requiredContextTokens - cached) : Int) : ℚ) = budget.requiredContextTokens - cached := by
    rw [max_eq_right (by omega)]
    push_cast
    rfl
  unfold inputPrice
  dsimp only
  rw [← hmax]
  push_cast
  ring

/-- The compaction opens the prefix exactly when the others cannot lose what it has to take. -/
theorem leavesPrefix_iff (hfloor : minimumReachableTokens kept cache ≤ budget.requiredContextTokens) (modelDecision : ModelDecision) :
    LeavesPrefix cache (PromptRail.plan kept cache modelDecision budget) ↔ CompactedAsKept kept cache budget := by
  obtain ⟨hreduction, -⟩ := plan_reduction hfloor modelDecision
  unfold CompactedAsKept LeavesPrefix
  rw [← hreduction, Nat.cast_le]
  constructor
  · intro hleaves
    -- otherwise the plan has all that may change, none of it cached, and the floor bounds the reduction
    by_contra hless
    have hall : ∀ i ∈ cache.compactableMessageIndices, i ∉ cache.protectedMessageIndices → i ∉ cache.cacheableMessageIndices := by
      intro i hi hfree hcached
      refine hleaves i hcached (List.mem_filter.2 ⟨hi, ?_⟩)
      have hopen : uncachedCapacity kept cache < (PromptRail.plan kept cache modelDecision budget).requiredReductionTokens :=
        not_le.1 hless
      rw [Bool.and_eq_true, Bool.or_eq_true]
      exact ⟨by simp [hfree], Or.inl (decide_eq_true hopen)⟩
    have hsame : uncachedCapacity kept cache = reducibleTokens kept cache
        (cache.compactableMessageIndices.filter fun i => !cache.protectedMessageIndices.contains i) := by
      unfold uncachedCapacity
      congr 1
      refine List.filter_congr ?_
      intro i hi
      by_cases hfree : i ∈ cache.protectedMessageIndices
      · simp [hfree]
      · simp [hfree, hall i hi hfree]
    unfold minimumReachableTokens at hfloor
    unfold requiredReduction at hreduction
    omega
  · intro hle i hcached hmem
    exact absurd (plan_cached hmem hcached) (not_lt.2 hle)

/-- What a decision predicts of its input is the price of the required input on its route. -/
theorem predictedInput_of_selectRanked {rank : Ranker} {args : SelectArguments} {decisions : List RouterDecision}
    (h : selectRanked rank args = .ok decisions) (hmem : decision ∈ decisions) :
    decision.predictedInputCostUsd =
      requiredInputCost decision.route args.budget.requiredContextTokens args.cache decision.cacheValue := by
  unfold selectRanked at h
  obtain ⟨⟨scores, predicted⟩, -, h⟩ := bind_ok h
  obtain ⟨considered, hconsidered, h⟩ := bind_ok h
  obtain ⟨candidate, -, hturn⟩ := mem_mapM hconsidered ((SelectedAux.mem_of_rankDecisions h).1 hmem)
  obtain ⟨value, route, baseScore, -, -, -, -, rfl⟩ := SelectedAux.considerCandidate_inr_iff.1 hturn
  rfl

/-- Down to one minimum, what may change outside the prefix is what the prices count, where nothing that may be cut is protected. -/
theorem noncached_eq_uncached (hfree : ∀ i ∈ cache.compactableMessageIndices, i ∉ cache.protectedMessageIndices) :
    noncachedCapacity cache = uncachedCapacity 32 cache := by
  unfold noncachedCapacity uncachedCapacity reducibleTokens
  congr 2
  refine List.filter_congr ?_
  intro i hi
  simp [hfree i hi]

end ReuseAux

open ReuseAux

/-- Of every selection and a required context between the planner's floor and the tokens of the call: the compaction estimates the cost
that was predicted exactly if the two count on the cache alike, or there is nothing to read from it, or reading it costs the same. -/
theorem estimate_eq_predicted_iff {rank : Ranker} {args : SelectArguments} {decisions : List RouterDecision}
    {decision : RouterDecision} (hselect : selectRanked rank args = .ok decisions) (hdecision : decision ∈ decisions)
    (hfloor : minimumReachableTokens 32 args.cache ≤ args.budget.requiredContextTokens)
    (htotal : args.budget.requiredContextTokens ≤ args.cache.totalTokens) (hpos : 0 ≤ args.budget.requiredContextTokens) :
    (PromptRail.plan 32 args.cache decision.toModelDecision args.budget).estimatedInputCostUsd = decision.predictedInputCostUsd ↔
      (ReadsCache decision.cacheValue decision.route ∧ PricedAsKept args.cache args.budget ↔
        decision.cacheValue.exactReuse = true ∧ CompactedAsKept 32 args.cache args.budget) ∨
      min args.budget.requiredContextTokens (decision.cacheValue.cachedTokens : Int) = 0 ∨
      decision.route.cacheReadPricePerMillion.getD decision.route.inputPricePerMillion = decision.route.inputPricePerMillion := by
  have hestimate : (PromptRail.plan 32 args.cache decision.toModelDecision args.budget).estimatedInputCostUsd =
      inputPrice decision.route args.budget.requiredContextTokens
        (if decision.cacheValue.exactReuse = true ∧ CompactedAsKept 32 args.cache args.budget then
          min args.budget.requiredContextTokens decision.cacheValue.cachedTokens else 0) :=
    plan_estimate hfloor htotal hpos decision.toModelDecision
  rw [hestimate, predictedInput_of_selectRanked hselect hdecision, requiredInputCost_kept]
  have hprice := inputPrice_eq_iff decision.route args.budget.requiredContextTokens
    (min args.budget.requiredContextTokens (decision.cacheValue.cachedTokens : Int))
  by_cases hselection : ReadsCache decision.cacheValue decision.route ∧ PricedAsKept args.cache args.budget
  · by_cases hcompaction : decision.cacheValue.exactReuse = true ∧ CompactedAsKept 32 args.cache args.budget
    · simp [hselection, hcompaction]
    · rw [if_pos hselection, if_neg hcompaction, eq_comm, hprice]
      simp [hselection, hcompaction]
  · by_cases hcompaction : decision.cacheValue.exactReuse = true ∧ CompactedAsKept 32 args.cache args.budget
    · rw [if_neg hselection, if_pos hcompaction, hprice]
      simp [hselection, hcompaction]
    · simp [hselection, hcompaction]

theorem readPrice_nonneg {readPrice : ℚ} (h : 0 ≤ readPrice) : ∀ p, some readPrice = some p ∨ (none : Option ℚ) = some p → 0 ≤ p := by
  rintro p (hread | hwrite)
  · rwa [← Option.some.inj hread]
  · cases hwrite

/-- A model with two routes: the first holds the cached prefix and is cheaper for a thousand tokens, the second for eight hundred. -/
def crossingCandidate : RouterCandidate where
  modelId := "model"
  routes :=
    [{ routeId := "cached", provider := "first", inputPricePerMillion := 1 / 10, outputPricePerMillion := 9,
        cacheReadPricePerMillion := some 0, p95TtftMs := 50, p95TotalLatencyMs := 100, cacheSupported := true,
        validate_price := ⟨by norm_num, by norm_num, readPrice_nonneg (by norm_num)⟩,
        validate_route_duration := ProviderRoute.fastDuration_valid, validate_latency_order := ProviderRoute.fastLatency_valid },
      { routeId := "fresh", provider := "second", inputPricePerMillion := 1, outputPricePerMillion := 0,
        cacheReadPricePerMillion := some (1 / 10), p95TtftMs := 50, p95TotalLatencyMs := 100, cacheSupported := true,
        validate_price := ⟨by norm_num, by norm_num, readPrice_nonneg (by norm_num)⟩,
        validate_route_duration := ProviderRoute.fastDuration_valid, validate_latency_order := ProviderRoute.fastLatency_valid }]
  validate_routes := by decide
  quality := 1
  contextWindowTokens := 8000
  routerScore := some 1
  validate_score := RouterCandidate.fullScore_valid
  validate_context_window := RouterCandidate.wideWindow_valid

/-- A prefix of one message and five hundred tokens at the first provider. -/
def crossingRecord : CacheRecord where
  modelId := "model"
  provider := "first"
  prefixHash := []
  messageCount := 1
  prefixTokens := 500
  expiresAt := 0

/-- The analysis of an answer of the cached prefix, an answer after it, and a request. -/
def crossingAnalysis : CacheAnalysis where
  totalTokens := 1000
  toolTokens := 0
  messageTokens := [500, 400, 100]
  prefixHash := none
  cacheableMessageIndices := [0]
  protectedMessageIndices := [2]
  compactableMessageIndices := [0, 1]
  cacheableTokens := 500
  protectedDynamicTokens := 100
  compactableTokens := 900
  values := Table.ofList ((candidateValue crossingCandidate.toModelCandidate 1000 100 (some crossingRecord)).toList.map fun value =>
    (value.modelId, value))

/-- A call on that analysis that requires a part of its context. -/
def crossingArguments (requiredContextTokens : Int) : SelectArguments where
  intent := (exampleArguments none).intent
  candidates := [crossingCandidate]
  cache := crossingAnalysis
  budget := { (exampleArguments none).budget with requiredContextTokens }
  policy :=
    { validate_optional_cost := OperatingPolicy.noCostLimit_valid
      validate_optional_latency := OperatingPolicy.noLatencyLimit_valid
      validate_priority := RoutingPolicy.defaultPriority_valid
      validate_fraction := RoutingPolicy.defaultFraction_valid }

/-- The estimate of a call that requires all of its context, on the route that holds the prefix. -/
theorem estimate_eq_predicted_uncut : ∃ decisions decision,
    selectRanked suppliedRank (crossingArguments 1000) = .ok decisions ∧ decision ∈ decisions ∧
      decision.route.routeId = "cached" ∧
      (PromptRail.plan 32 crossingAnalysis decision.toModelDecision (crossingArguments 1000).budget).estimatedInputCostUsd =
        decision.predictedInputCostUsd := by
  obtain ⟨decisions, decision, routingPlan, hselect, hdecision, -, hreads⟩ :=
    somePlan_spec (crossingArguments 1000) (p := fun decision _ => decide (decision.route.routeId = "cached" ∧
      ReadsCache decision.cacheValue decision.route)) (by decide +kernel)
  obtain ⟨hroute, hcache⟩ := of_decide_eq_true hreads
  refine ⟨decisions, decision, hselect, hdecision, hroute, ?_⟩
  refine (estimate_eq_predicted_iff hselect hdecision (by decide) (by decide) (by decide)).2 (Or.inl ?_)
  exact ⟨fun _ => ⟨hcache.1, by decide⟩, fun _ => ⟨hcache, by decide⟩⟩

/-- A reduction to eight hundred tokens selects the route without the prefix, and the compaction reads five hundred tokens of it from the
cache all the same. -/
theorem estimate_not_predicted : ¬ ∀ (rank : Ranker) (args : SelectArguments) (decisions : List RouterDecision)
    (decision : RouterDecision), selectRanked rank args = .ok decisions → decision ∈ decisions →
    minimumReachableTokens 32 args.cache ≤ args.budget.requiredContextTokens →
    args.budget.requiredContextTokens ≤ args.cache.totalTokens →
    (PromptRail.plan 32 args.cache decision.toModelDecision args.budget).estimatedInputCostUsd = decision.predictedInputCostUsd := by
  intro h
  obtain ⟨decisions, decision, routingPlan, hselect, hdecision, -, hbroken⟩ :=
    somePlan_spec (crossingArguments 800) (p := fun decision _ => !decide
      ((PromptRail.plan 32 crossingAnalysis decision.toModelDecision (crossingArguments 800).budget).estimatedInputCostUsd =
        decision.predictedInputCostUsd)) (by decide +kernel)
  have hsame : (PromptRail.plan 32 crossingAnalysis decision.toModelDecision (crossingArguments 800).budget).estimatedInputCostUsd =
      decision.predictedInputCostUsd :=
    h suppliedRank (crossingArguments 800) decisions decision hselect hdecision (by decide) (by decide)
  rw [decide_eq_true hsame] at hbroken
  cases hbroken

/-! ## The cached prefix -/

/-- From the planner's floor on, the prices take the cached prefix to be preserved exactly where the compaction leaves it alone, if and
only if what the call has to lose is not more than one of the two counts and within the other. -/
theorem prefix_agrees_iff {kept : Nat} {cache : CacheAnalysis} {budget : CallBudget} (modelDecision : ModelDecision)
    (hfloor : minimumReachableTokens kept cache ≤ budget.requiredContextTokens) :
    (∀ route value, requiredInputCost route budget.requiredContextTokens cache value = inputPrice route budget.requiredContextTokens
      (if ReadsCache value route ∧ PricedAsKept cache budget then min budget.requiredContextTokens value.cachedTokens else 0)) ∧
    (∀ route decision, routeCost route decision cache budget = inputPrice route budget.requiredContextTokens
      (if ReadsCache decision.cacheValue route ∧ PricedAsKept cache budget then
        min budget.requiredContextTokens decision.cacheValue.cachedTokens else 0) +
      outputCost route decision.predictedOutputTokens) ∧
    ((PricedAsKept cache budget ↔ LeavesPrefix cache (PromptRail.plan kept cache modelDecision budget)) ↔
      ¬(uncachedCapacity kept cache < requiredReduction cache budget ∧ requiredReduction cache budget ≤ noncachedCapacity cache) ∧
      ¬(noncachedCapacity cache < requiredReduction cache budget ∧
        requiredReduction cache budget ≤ uncachedCapacity kept cache)) := by
  refine ⟨fun route value => requiredInputCost_kept route cache budget value,
    fun route decision => routeCost_kept route decision cache budget, ?_⟩
  rw [leavesPrefix_iff hfloor modelDecision]
  unfold PricedAsKept CompactedAsKept
  omega

/-- With the minimum of the prices, and an analysis of the coordinator, the two always agree. -/
theorem prefix_agrees_default {env : Env} {c : PromptCacheCoordinator} {now : Int} {args : AnalyzeArguments} {cache : CacheAnalysis}
    (h : (c.analyze env now args).1 = .ok cache) (budget : CallBudget) :
    PricedAsKept cache budget ↔ CompactedAsKept 32 cache budget := by
  have hfree := fun i hi => ((FloorAux.analyses_of_analyze h).compactable i hi).2
  unfold PricedAsKept CompactedAsKept
  rw [noncached_eq_uncached hfree]

/-- A compaction that keeps a hundred tokens of each message, and leaves the prefix alone as the prices take it to. -/
theorem prefix_agrees_at_eight_hundred : PricedAsKept crossingAnalysis (crossingArguments 800).budget ↔
    LeavesPrefix crossingAnalysis (PromptRail.plan 100 crossingAnalysis
      { candidate := crossingCandidate.toModelCandidate, route := crossingCandidate.routes.head (by decide)
        cacheValue := { modelId := "model", inputCostUsd := 0 } } (crossingArguments 800).budget) :=
  (prefix_agrees_iff _ (by decide)).2.2.2 (by decide)

/-- The same compaction opens the prefix to save 350 tokens, where the prices take it to be preserved. -/
theorem prefix_disagrees : ¬ ∀ (kept : Nat) (cache : CacheAnalysis) (budget : CallBudget) (modelDecision : ModelDecision), 1 ≤ kept →
    minimumReachableTokens kept cache ≤ budget.requiredContextTokens →
    (PricedAsKept cache budget ↔ LeavesPrefix cache (PromptRail.plan kept cache modelDecision budget)) := by
  intro h
  have hagrees := h 100 crossingAnalysis (crossingArguments 650).budget
    { candidate := crossingCandidate.toModelCandidate, route := crossingCandidate.routes.head (by decide)
      cacheValue := { modelId := "model", inputCostUsd := 0 } } (by decide) (by decide)
  rw [leavesPrefix_iff (by decide)] at hagrees
  exact absurd hagrees (by decide)

end Routing

end PromptRail
