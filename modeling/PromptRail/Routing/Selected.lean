import PromptRail.Routing

/-!
# What a selection makes of a candidate

A candidate is eligible by its quality, its capabilities, its window and the cache; of an eligible one the cheapest route is priced, and
nothing else. What is said of a decision follows from what one turn of the loop can return.
-/

namespace PromptRail

open Outcome (bind_ok mem_mapM)

namespace Routing

/-- What a candidate meets before its routes are looked at. -/
structure Eligible (args : SelectArguments) (predicted : Nat) (candidate : RouterCandidate) (value : CacheValue) : Prop where
  quality : minimumQuality args.intent.task args.policy ≤ candidate.quality
  capabilities : args.intent.requiredCapabilities ⊆ candidate.capabilities
  contextWindow : args.budget.requiredContextTokens + predicted ≤ (candidate.contextWindowTokens : Int)
  cacheValue : args.cache.values.lookup candidate.modelId = some value

/-- The input, the output and the whole of a call are within its budget. -/
structure WithinCost (args : SelectArguments) (value : CacheValue) (predicted : Nat) (route : ProviderRoute) : Prop where
  input : requiredInputCost route args.budget.requiredContextTokens args.cache value ≤ args.budget.inputCostUsd + costTolerance
  output : outputCost route predicted ≤ args.budget.outputCostUsd + costTolerance
  total : args.predictedCost value predicted route ≤ args.budget.costUsd + costTolerance

/-- A route meets the hard limits. -/
structure Feasible (args : SelectArguments) (value : CacheValue) (predicted : Nat) (route : ProviderRoute) : Prop where
  cost : args.policy.hardCost = true → WithinCost args value predicted route
  latency : args.policy.hardLatency = true → (args.policy.predictedLatency route : Int) ≤ args.budget.latencyMs

/-- The route that is priced. -/
def IsCheapest (args : SelectArguments) (value : CacheValue) (predicted : Nat) (candidate : RouterCandidate)
    (route : ProviderRoute) : Prop :=
  route ∈ candidate.routes.argmin (costKey (args.predictedCost value predicted))

variable {args : SelectArguments} {scores : Scores} {predicted : Nat} {candidate : RouterCandidate} {value : CacheValue}
variable {route : ProviderRoute} {decision : RouterDecision}

namespace SelectedAux

/-! ## The limits -/

theorem withinCost_iff :
    exceedsBudget args.budget (requiredInputCost route args.budget.requiredContextTokens args.cache value)
        (args.predictedCost value predicted route -
          requiredInputCost route args.budget.requiredContextTokens args.cache value)
        (args.predictedCost value predicted route) = false ↔ WithinCost args value predicted route := by
  have houtput : args.predictedCost value predicted route -
      requiredInputCost route args.budget.requiredContextTokens args.cache value = outputCost route predicted := by
    rw [SelectArguments.predictedCost, add_sub_cancel_left]
  rw [houtput, exceedsBudget]
  simp only [Bool.or_eq_false_iff, decide_eq_false_iff_not, not_lt]
  exact ⟨fun h => ⟨h.1.1, h.1.2, h.2⟩, fun h => ⟨⟨h.input, h.output⟩, h.total⟩⟩

/-- The decision that is made on a candidate with a route. -/
def decisionOn (args : SelectArguments) (predicted : Nat) (candidate : RouterCandidate) (value : CacheValue) (route : ProviderRoute)
    (baseScore : ℚ) : RouterDecision where
  candidate := candidate
  route := route
  score := args.score value baseScore (args.predictedCost value predicted route) (args.policy.predictedLatency route)
  baseRouterScore := baseScore
  predictedCostUsd := args.predictedCost value predicted route
  predictedInputCostUsd := requiredInputCost route args.budget.requiredContextTokens args.cache value
  predictedOutputTokens := predicted
  predictedLatencyMs := args.policy.predictedLatency route
  cacheValue := value

theorem priceCandidate_of_feasible (h : Feasible args value predicted route) :
    args.priceCandidate scores predicted candidate value route =
      match (scores.lookup candidate.modelId).join with
      | none => .error (.routing ("LeRouter returned a non-finite score for " ++ candidate.modelId))
      | some baseScore => .ok (.inr (decisionOn args predicted candidate value route baseScore)) := by
  have hcost : (args.policy.hardCost && exceedsBudget args.budget
      (requiredInputCost route args.budget.requiredContextTokens args.cache value)
      (args.predictedCost value predicted route - requiredInputCost route args.budget.requiredContextTokens args.cache value)
      (args.predictedCost value predicted route)) = false := by
    cases hhard : args.policy.hardCost with
    | false => rfl
    | true => rw [Bool.true_and, withinCost_iff.2 (h.cost hhard)]
  have hlatency : (args.policy.hardLatency && decide (args.budget.latencyMs < args.policy.predictedLatency route)) = false := by
    cases hhard : args.policy.hardLatency with
    | false => rfl
    | true => rw [Bool.true_and, decide_eq_false_iff_not, not_lt]; exact h.latency hhard
  rw [SelectArguments.priceCandidate, hcost, hlatency]
  rfl

theorem priceCandidate_of_not_feasible (h : ¬Feasible args value predicted route) :
    ∃ reason, args.priceCandidate scores predicted candidate value route = .ok (.inl reason) := by
  unfold SelectArguments.priceCandidate
  dsimp only
  split
  · exact ⟨_, rfl⟩
  · rename_i hcost
    split
    · exact ⟨_, rfl⟩
    · rename_i hlatency
      refine absurd ⟨?_, ?_⟩ h
      · intro hhard
        rw [hhard, Bool.true_and, Bool.not_eq_true] at hcost
        exact withinCost_iff.1 hcost
      · intro hhard
        rw [hhard, Bool.true_and, decide_eq_true_eq, not_lt] at hlatency
        exact hlatency

/-! ## One turn of the loop -/

theorem exists_cheapest (args : SelectArguments) (value : CacheValue) (predicted : Nat) (candidate : RouterCandidate) :
    ∃ route, IsCheapest args value predicted candidate route := by
  cases h : candidate.routes.argmin (costKey (args.predictedCost value predicted)) with
  | none => exact absurd (List.argmin_eq_none.1 h) candidate.validate_routes.1
  | some route => exact ⟨route, h⟩

theorem considerCandidate_of_eligible (h : Eligible args predicted candidate value)
    (hroute : IsCheapest args value predicted candidate route) :
    args.considerCandidate scores predicted candidate = args.priceCandidate scores predicted candidate value route := by
  rw [SelectArguments.considerCandidate, if_neg (not_lt.2 h.quality), if_neg (not_not.2 h.capabilities),
    if_neg (not_lt.2 h.contextWindow), h.cacheValue]
  dsimp only
  rw [hroute]

theorem considerCandidate_of_not_eligible (h : ∀ value, ¬Eligible args predicted candidate value) :
    ∃ reason, args.considerCandidate scores predicted candidate = .ok (.inl reason) := by
  unfold SelectArguments.considerCandidate
  split
  · exact ⟨_, rfl⟩
  · rename_i hquality
    split
    · exact ⟨_, rfl⟩
    · rename_i hcapabilities
      split
      · exact ⟨_, rfl⟩
      · rename_i hwindow
        split
        · exact ⟨_, rfl⟩
        · rename_i value hvalue
          exact absurd ⟨not_lt.1 hquality, not_not.1 hcapabilities, not_lt.1 hwindow, hvalue⟩ (h value)

/-- A candidate is decided on exactly when it is eligible, its cheapest route is feasible, and its score is finite. -/
theorem considerCandidate_inr_iff :
    args.considerCandidate scores predicted candidate = .ok (.inr decision) ↔
      ∃ value route baseScore, Eligible args predicted candidate value ∧ IsCheapest args value predicted candidate route ∧
        Feasible args value predicted route ∧ (scores.lookup candidate.modelId).join = some baseScore ∧
        decision = decisionOn args predicted candidate value route baseScore := by
  constructor
  · intro h
    by_cases heligible : ∃ value, Eligible args predicted candidate value
    · obtain ⟨value, heligible⟩ := heligible
      obtain ⟨route, hroute⟩ := exists_cheapest args value predicted candidate
      rw [considerCandidate_of_eligible heligible hroute] at h
      by_cases hfeasible : Feasible args value predicted route
      · rw [priceCandidate_of_feasible hfeasible] at h
        split at h
        · cases h
        · rename_i baseScore hscore
          cases h
          exact ⟨value, route, baseScore, heligible, hroute, hfeasible, hscore, rfl⟩
      · obtain ⟨reason, hreason⟩ := @priceCandidate_of_not_feasible _ scores _ candidate _ _ hfeasible
        rw [hreason] at h
        cases h
    · obtain ⟨reason, hreason⟩ := @considerCandidate_of_not_eligible _ scores _ _ (not_exists.1 heligible)
      rw [hreason] at h
      cases h
  · rintro ⟨value, route, baseScore, heligible, hroute, hfeasible, hscore, rfl⟩
    rw [considerCandidate_of_eligible heligible hroute, priceCandidate_of_feasible hfeasible, hscore]

theorem mem_of_rankDecisions {considered : List (String ⊕ RouterDecision)} {decisions : List RouterDecision}
    (h : rankDecisions considered = .ok decisions) : decision ∈ decisions ↔ .inr decision ∈ considered := by
  unfold rankDecisions at h
  dsimp only at h
  split at h
  · cases h
  · cases h
    rw [List.mem_insertionSort, List.mem_filterMap]
    constructor
    · rintro ⟨c, hc, hright⟩
      cases c with
      | inl reason => cases hright
      | inr other =>
        cases hright
        exact hc
    · exact fun hmem => ⟨_, hmem, rfl⟩

end SelectedAux

open SelectedAux

/-- What a selection says of a decision it makes. -/
structure Chosen (args : SelectArguments) (decision : RouterDecision) : Prop where
  candidate : decision.candidate ∈ args.candidates
  predicted : args.intent.predictedOutputTokens = some decision.predictedOutputTokens
  eligible : Eligible args decision.predictedOutputTokens decision.candidate decision.cacheValue
  route : IsCheapest args decision.cacheValue decision.predictedOutputTokens decision.candidate decision.route
  feasible : Feasible args decision.cacheValue decision.predictedOutputTokens decision.route

theorem predicted_of_prepare {rank : Ranker} (h : args.prepare rank = .ok (scores, predicted)) :
    args.intent.predictedOutputTokens = some predicted := by
  unfold SelectArguments.prepare at h
  split at h
  · cases h
  · split at h
    · cases h
    · split at h
      · cases h
      · split at h
        · cases h
        · rename_i hpredicted
          split at h
          · cases h
          · split at h
            · cases h
              exact hpredicted
            · cases h

/-- Every decision is of an eligible candidate, with its cheapest route, which is feasible. -/
theorem chosen_of_selectRanked {rank : Ranker} {decisions : List RouterDecision} (h : selectRanked rank args = .ok decisions)
    (hmem : decision ∈ decisions) : Chosen args decision := by
  unfold selectRanked at h
  obtain ⟨⟨scores, predicted⟩, hprepare, h⟩ := bind_ok h
  obtain ⟨considered, hconsidered, h⟩ := bind_ok h
  obtain ⟨candidate, hcandidate, hturn⟩ := mem_mapM hconsidered ((mem_of_rankDecisions h).1 hmem)
  obtain ⟨value, route, baseScore, heligible, hroute, hfeasible, -, rfl⟩ := considerCandidate_inr_iff.1 hturn
  exact ⟨hcandidate, predicted_of_prepare hprepare, heligible, hroute, hfeasible⟩

end Routing

end PromptRail
