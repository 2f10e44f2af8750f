import PromptRail.Routing.Selected

/-!
# Which candidates are rejected

A candidate is rejected when its cheapest route is not feasible, whatever its other routes are. No route has a lower cost, so where
another one is feasible the cheapest fails by its latency, or by the part of its cost that is its input or its output.
-/

namespace PromptRail

open Outcome (bind_ok mem_of_mapM mem_mapM mapM_cases)

namespace Routing

/-- The error of a selection that decides on no candidate. -/
def noModel (detail : String) : RoutingError := .routing ("no model satisfies the call budget and capabilities: " ++ detail)

/-- Eligible candidates are left out of a selection only where none of their routes is feasible. -/
structure RejectsOnlyInfeasible (rank : Ranker) (args : SelectArguments) : Prop where
  omitted : ∀ decisions, selectRanked rank args = .ok decisions → ∀ predicted, args.intent.predictedOutputTokens = some predicted →
    ∀ candidate ∈ args.candidates, ∀ value, Eligible args predicted candidate value →
      (¬∃ decision ∈ decisions, decision.candidate = candidate) → ∀ route ∈ candidate.routes, ¬Feasible args value predicted route
  raised : ∀ detail, selectRanked rank args = .error (noModel detail) → ∀ predicted, args.intent.predictedOutputTokens = some predicted →
    ∀ candidate ∈ args.candidates, ∀ value, Eligible args predicted candidate value →
      ∀ route ∈ candidate.routes, ¬Feasible args value predicted route

/-- The cheapest route of a candidate that has a feasible one is fast enough, and its input and its output are paid for. -/
def CheapestFits (args : SelectArguments) : Prop :=
  ∀ predicted, args.intent.predictedOutputTokens = some predicted → ∀ candidate ∈ args.candidates, ∀ value,
    Eligible args predicted candidate value → (∃ route ∈ candidate.routes, Feasible args value predicted route) →
    ∀ cheapest, IsCheapest args value predicted candidate cheapest →
      (args.policy.hardCost = true →
        requiredInputCost cheapest args.budget.requiredContextTokens args.cache value ≤ args.budget.inputCostUsd + costTolerance ∧
          outputCost cheapest predicted ≤ args.budget.outputCostUsd + costTolerance) ∧
      (args.policy.hardLatency = true → (args.policy.predictedLatency cheapest : Int) ≤ args.budget.latencyMs)

/-- Nothing else is raised: the checks before the loop pass, and every score that is asked for is finite. -/
def Completes (rank : Ranker) (args : SelectArguments) : Prop :=
  ∃ scores predicted, args.prepare rank = .ok (scores, predicted) ∧ ∀ candidate ∈ args.candidates, ∀ value cheapest,
    Eligible args predicted candidate value → IsCheapest args value predicted candidate cheapest →
      Feasible args value predicted cheapest → ∃ score, (scores.lookup candidate.modelId).join = some score

namespace RejectionAux

open SelectedAux

variable {rank : Ranker} {args : SelectArguments} {scores : Scores} {predicted : Nat} {candidate : RouterCandidate}
variable {value : CacheValue} {cheapest route : ProviderRoute} {decision : RouterDecision}

/-! ## The cheapest route -/

/-- No route of a candidate has a lower cost. -/
theorem cheapest_le (hcheapest : IsCheapest args value predicted candidate cheapest) (hroute : route ∈ candidate.routes) :
    args.predictedCost value predicted cheapest ≤ args.predictedCost value predicted route :=
  Prod.Lex.monotone_fst _ _ (List.le_of_mem_argmin hroute hcheapest)

/-- Where the cheapest route fits by its parts, the whole of it fits as well as that of any feasible route. -/
theorem feasible_cheapest (h : CheapestFits args) (hpredicted : args.intent.predictedOutputTokens = some predicted)
    (hcandidate : candidate ∈ args.candidates) (heligible : Eligible args predicted candidate value)
    (hroute : route ∈ candidate.routes) (hfeasible : Feasible args value predicted route)
    (hcheapest : IsCheapest args value predicted candidate cheapest) : Feasible args value predicted cheapest := by
  obtain ⟨hparts, hlatency⟩ :=
    h predicted hpredicted candidate hcandidate value heligible ⟨route, hroute, hfeasible⟩ cheapest hcheapest
  refine ⟨fun hhard => ?_, hlatency⟩
  exact ⟨(hparts hhard).1, (hparts hhard).2, (cheapest_le hcheapest hroute).trans (hfeasible.cost hhard).total⟩

/-! ## What is raised -/

/-- The first character of a message. -/
def initial : RoutingError → Option Char
  | .routing message => message.toList.head?
  | .value message => message.toList.head?

theorem initial_noModel (detail : String) : initial (noModel detail) = some 'n' := by
  simp [initial, noModel, String.toList_append]

theorem initial_routingTimeoutMs {elapsed : Int} {e : RoutingError}
    (h : routingTimeoutMs args.candidates args.budget args.policy elapsed = .error e) : initial e ≠ some 'n' := by
  unfold routingTimeoutMs at h
  split at h
  · split at h
    · cases h
      decide
    · dsimp only at h
      split at h
      · cases h
        decide
      · cases h
  · cases h

/-- No check before the loop raises that no model satisfies. -/
theorem initial_prepare (hscores : args.routerScores = some scores) {e : RoutingError} (h : args.prepare rank = .error e) :
    initial e ≠ some 'n' := by
  have hgiven : ∀ timeoutMs, args.scores rank timeoutMs = .ok scores := fun timeoutMs => by rw [SelectArguments.scores, hscores]
  unfold SelectArguments.prepare at h
  split at h
  · cases h
    decide
  · split at h
    · cases h
      decide
    · split at h
      · rename_i htimeout
        cases h
        exact initial_routingTimeoutMs htimeout
      · split at h
        · cases h
          decide
        · rw [hgiven] at h
          dsimp only at h
          split at h
          · cases h
          · cases h
            decide

theorem initial_considerCandidate {e : RoutingError} (h : args.considerCandidate scores predicted candidate = .error e) :
    initial e ≠ some 'n' ∧ ∃ value cheapest, Eligible args predicted candidate value ∧
      IsCheapest args value predicted candidate cheapest ∧ Feasible args value predicted cheapest ∧
      (scores.lookup candidate.modelId).join = none := by
  by_cases heligible : ∃ value, Eligible args predicted candidate value
  · obtain ⟨value, heligible⟩ := heligible
    obtain ⟨cheapest, hcheapest⟩ := exists_cheapest args value predicted candidate
    rw [considerCandidate_of_eligible heligible hcheapest] at h
    by_cases hfeasible : Feasible args value predicted cheapest
    · rw [priceCandidate_of_feasible hfeasible] at h
      split at h
      · rename_i hscore
        cases h
        refine ⟨?_, value, cheapest, heligible, hcheapest, hfeasible, hscore⟩
        simp [initial, String.toList_append]
      · cases h
    · obtain ⟨reason, hreason⟩ := @priceCandidate_of_not_feasible _ scores _ candidate _ _ hfeasible
      rw [hreason] at h
      cases h
  · obtain ⟨reason, hreason⟩ := @considerCandidate_of_not_eligible _ scores _ _ (not_exists.1 heligible)
    rw [hreason] at h
    cases h

/-! ## The whole selection -/

theorem rankDecisions_cases (considered : List (String ⊕ RouterDecision)) :
    (∃ decisions, rankDecisions considered = .ok decisions) ∨
      ∃ detail, rankDecisions considered = .error (noModel detail) ∧ ∀ decision, .inr decision ∉ considered := by
  unfold rankDecisions
  dsimp only
  split
  · rename_i hempty
    refine Or.inr ⟨_, rfl, fun decision hmem => ?_⟩
    rw [List.isEmpty_iff, List.filterMap_eq_nil_iff] at hempty
    cases hempty _ hmem
  · exact Or.inl ⟨_, rfl⟩

variable {considered : List (String ⊕ RouterDecision)}

/-- The loop decides on a candidate whose cheapest route is feasible. -/
theorem decided_of_feasible (hconsidered : args.candidates.mapM (args.considerCandidate scores predicted) = .ok considered)
    (hcandidate : candidate ∈ args.candidates) (heligible : Eligible args predicted candidate value)
    (hcheapest : IsCheapest args value predicted candidate cheapest) (hfeasible : Feasible args value predicted cheapest) :
    ∃ decision, .inr decision ∈ considered ∧ decision.candidate = candidate := by
  obtain ⟨turn, hmem, hturn⟩ := mem_of_mapM hconsidered hcandidate
  rw [considerCandidate_of_eligible heligible hcheapest, priceCandidate_of_feasible hfeasible] at hturn
  split at hturn
  · cases hturn
  · cases hturn
    exact ⟨_, hmem, rfl⟩

/-- The loop decides on no other candidate. -/
theorem feasible_of_decided (hconsidered : args.candidates.mapM (args.considerCandidate scores predicted) = .ok considered)
    (hdecision : .inr decision ∈ considered) (heligible : Eligible args predicted decision.candidate value)
    (hcheapest : IsCheapest args value predicted decision.candidate cheapest) : Feasible args value predicted cheapest := by
  obtain ⟨candidate, -, hturn⟩ := mem_mapM hconsidered hdecision
  obtain ⟨value', route, baseScore, heligible', hroute, hfeasible, -, rfl⟩ := considerCandidate_inr_iff.1 hturn
  obtain rfl := Option.some.inj (heligible.cacheValue.symm.trans heligible'.cacheValue)
  obtain rfl := Option.some.inj (hcheapest.symm.trans hroute)
  exact hfeasible

/-- What a selection does: it raises something else, or it goes through its loop and ranks what it has found. -/
theorem selectRanked_cases (hscores : args.routerScores = some scores) :
    (∃ e, selectRanked rank args = .error e ∧ initial e ≠ some 'n' ∧ ¬Completes rank args) ∨
      ∃ scores predicted considered, args.prepare rank = .ok (scores, predicted) ∧
        args.candidates.mapM (args.considerCandidate scores predicted) = .ok considered ∧
        selectRanked rank args = rankDecisions considered ∧ Completes rank args := by
  cases hprepare : args.prepare rank with
  | error e =>
    refine Or.inl ⟨e, ?_, initial_prepare hscores hprepare, ?_⟩
    · rw [selectRanked, hprepare]
      rfl
    · rintro ⟨scores, predicted, hok, -⟩
      rw [hprepare] at hok
      cases hok
  | ok loop =>
    obtain ⟨scores, predicted⟩ := loop
    rcases mapM_cases (args.considerCandidate scores predicted) args.candidates with
      ⟨considered, hconsidered⟩ | ⟨candidate, hcandidate, e, he, hraised⟩
    · refine Or.inr ⟨scores, predicted, considered, rfl, hconsidered, ?_, scores, predicted, hprepare, ?_⟩
      · rw [selectRanked, hprepare]
        simp only [Outcome.ok_bind, hconsidered]
      · intro candidate hcandidate value cheapest heligible hcheapest hfeasible
        obtain ⟨turn, -, hturn⟩ := mem_of_mapM hconsidered hcandidate
        rw [considerCandidate_of_eligible heligible hcheapest, priceCandidate_of_feasible hfeasible] at hturn
        split at hturn
        · cases hturn
        · rename_i score hscore
          exact ⟨score, hscore⟩
    · obtain ⟨hinitial, value, cheapest, heligible, hcheapest, hfeasible, hscore⟩ := initial_considerCandidate he
      refine Or.inl ⟨e, ?_, hinitial, ?_⟩
      · rw [selectRanked, hprepare]
        simp only [Outcome.ok_bind, hraised]
        rfl
      · rintro ⟨scores', predicted', hok, hfinite⟩
        rw [hprepare] at hok
        cases hok
        obtain ⟨score, hsome⟩ := hfinite candidate hcandidate value cheapest heligible hcheapest hfeasible
        rw [hscore] at hsome
        cases hsome

end RejectionAux

open RejectionAux SelectedAux

/-- Given the scores, a selection rejects no eligible candidate that has a feasible route exactly when it raises something else, or the
cheapest route of each such candidate is fast enough and has its input and its output paid for. -/
theorem rejects_only_infeasible_iff {rank : Ranker} {args : SelectArguments} {scores : Scores}
    (hscores : args.routerScores = some scores) :
    RejectsOnlyInfeasible rank args ↔ (Completes rank args → CheapestFits args) := by
  rcases @selectRanked_cases rank args scores hscores with
    ⟨e, hraised, hinitial, hincomplete⟩ | ⟨scores, predicted, considered, hprepare, hconsidered, hselect, hcompletes⟩
  · refine iff_of_true ⟨?_, ?_⟩ fun hcompletes => absurd hcompletes hincomplete
    · intro decisions hok
      rw [hraised] at hok
      cases hok
    · intro detail herror
      rw [hraised] at herror
      cases herror
      exact absurd (initial_noModel detail) hinitial
  · have hpredicted := predicted_of_prepare hprepare
    constructor
    · rintro ⟨homitted, hraised⟩ - predicted' hpredicted' candidate hcandidate value heligible ⟨route, hroute, hfeasible⟩
        cheapest hcheapest
      obtain rfl := Option.some.inj (hpredicted.symm.trans hpredicted')
      have hfits : Feasible args value predicted cheapest := by
        by_contra hnot
        have hundecided : ∀ decision, .inr decision ∈ considered → decision.candidate ≠ candidate := by
          rintro decision hdecision rfl
          exact hnot (feasible_of_decided hconsidered hdecision heligible hcheapest)
        rcases rankDecisions_cases considered with ⟨decisions, hrank⟩ | ⟨detail, hrank, -⟩
        · refine homitted decisions (hselect.trans hrank) predicted hpredicted candidate hcandidate value heligible ?_ route hroute
            hfeasible
          rintro ⟨decision, hdecision, hsame⟩
          exact hundecided decision ((mem_of_rankDecisions hrank).1 hdecision) hsame
        · exact hraised detail (hselect.trans hrank) predicted hpredicted candidate hcandidate value heligible route hroute
            hfeasible
      exact ⟨fun hhard => ⟨(hfits.cost hhard).input, (hfits.cost hhard).output⟩, hfits.latency⟩
    · intro hfits
      have hdecided : ∀ {predicted'}, args.intent.predictedOutputTokens = some predicted' → ∀ {candidate value route},
          candidate ∈ args.candidates → Eligible args predicted' candidate value → route ∈ candidate.routes →
          Feasible args value predicted' route → ∃ decision, .inr decision ∈ considered ∧ decision.candidate = candidate := by
        intro predicted' hpredicted' candidate value route hcandidate heligible hroute hfeasible
        obtain rfl := Option.some.inj (hpredicted.symm.trans hpredicted')
        obtain ⟨cheapest, hcheapest⟩ := exists_cheapest args value predicted candidate
        have hcheap := feasible_cheapest (hfits hcompletes) hpredicted hcandidate heligible hroute hfeasible hcheapest
        exact decided_of_feasible hconsidered hcandidate heligible hcheapest hcheap
      constructor
      · intro decisions hok predicted' hpredicted' candidate hcandidate value heligible hundecided route hroute hfeasible
        obtain ⟨decision, hdecision, hsame⟩ := hdecided hpredicted' hcandidate heligible hroute hfeasible
        exact hundecided ⟨decision, (mem_of_rankDecisions (hselect.symm.trans hok)).2 hdecision, hsame⟩
      · intro detail herror predicted' hpredicted' candidate hcandidate value heligible route hroute hfeasible
        obtain ⟨decision, hdecision, -⟩ := hdecided hpredicted' hcandidate heligible hroute hfeasible
        rcases rankDecisions_cases considered with ⟨decisions, hrank⟩ | ⟨detail', -, hnone⟩
        · rw [hselect, hrank] at herror
          cases herror
        · exact hnone decision hdecision

/-- A model with a cheap route and a dearer one, and the times they take. -/
def twoRoutes (cheapMs dearMs : Nat) (hcheap : 50 ≤ cheapMs) (hdear : 50 ≤ dearMs) : RouterCandidate where
  modelId := "model"
  routes :=
    [{ routeId := "cheap", provider := "first", inputPricePerMillion := 1, outputPricePerMillion := 1, p95TtftMs := 50,
        p95TotalLatencyMs := cheapMs, validate_price := ProviderRoute.cheapPrice_valid, validate_route_duration := by simp; omega,
        validate_latency_order := hcheap },
      { routeId := "dear", provider := "second", inputPricePerMillion := 2, outputPricePerMillion := 2, p95TtftMs := 50,
        p95TotalLatencyMs := dearMs, validate_price := ProviderRoute.dearPrice_valid, validate_route_duration := by simp; omega,
        validate_latency_order := hdear }]
  validate_routes := by simp
  quality := 1
  contextWindowTokens := 8000
  validate_score := by simp
  validate_context_window := RouterCandidate.wideWindow_valid

/-- A call that may take a second and has scores for its one candidate. -/
def scoredArguments (candidate : RouterCandidate) : SelectArguments where
  intent :=
    { sessionId := "session".toList, task := "task".toList, messages := [], predictedOutputTokens := some 100
      validate_output_tokens := CallIntent.hundredTokens_valid }
  candidates := [candidate]
  cache :=
    { totalTokens := 1000, toolTokens := 0, messageTokens := [1000], prefixHash := none, cacheableMessageIndices := []
      protectedMessageIndices := [], compactableMessageIndices := [0], cacheableTokens := 0, protectedDynamicTokens := 0
      compactableTokens := 1000, values := Table.ofList [("model", { modelId := "model", inputCostUsd := 1 / 1000 })] }
  budget :=
    { runId := 0, callId := 0, sequence := 0, costUsd := 1 / 100, inputCostUsd := 1 / 200, outputCostUsd := 1 / 200
      latencyMs := 1000, allocatorModelId := "allocator", allocatorReason := "reason", requiredContextTokens := 1000 }
  policy :=
    { hardCallLatencyLimitMs := some 1000
      validate_optional_cost := OperatingPolicy.noCostLimit_valid
      validate_optional_latency := RoutingPolicy.secondLimit_valid
      validate_priority := RoutingPolicy.defaultPriority_valid
      validate_fraction := RoutingPolicy.defaultFraction_valid }
  routerScores := some (Table.ofList [("model", some 1)])

/-- What the cache is worth to the model of `scoredArguments`. -/
def scoredValue : CacheValue := { modelId := "model", inputCostUsd := 1 / 1000 }

theorem scoredArguments_value {candidate : RouterCandidate} :
    (scoredArguments candidate).cache.values.lookup "model" = some scoredValue := rfl

theorem scoredArguments_latency {candidate : RouterCandidate} {route : ProviderRoute} (h : route.p95TotalLatencyMs ≤ 100) :
    ((scoredArguments candidate).policy.predictedLatency route : Int) ≤ (scoredArguments candidate).budget.latencyMs := by
  show ((route.p95TotalLatencyMs + 25 + 75 + 50 : ℕ) : ℤ) ≤ 1000
  omega

/-- Where the cheap route is the fast one, no candidate is rejected that has a feasible route. -/
theorem rejects_only_infeasible_fast :
    RejectsOnlyInfeasible suppliedRank (scoredArguments (twoRoutes 100 900 (by decide) (by decide))) := by
  rw [rejects_only_infeasible_iff rfl]
  rintro - predicted hpredicted candidate hcandidate value heligible - cheapest hcheapest
  obtain rfl := List.mem_singleton.1 hcandidate
  obtain rfl := Option.some.inj (scoredArguments_value.symm.trans heligible.cacheValue)
  cases hpredicted
  refine ⟨fun hhard => (nomatch hhard), fun _ => ?_⟩
  have hfast : ((twoRoutes 100 900 (by decide) (by decide)).routes.argmin (costKey ((scoredArguments
      (twoRoutes 100 900 (by decide) (by decide))).predictedCost scoredValue 100))).all (fun route =>
        decide (route.p95TotalLatencyMs ≤ 100)) = true := by decide +kernel
  rw [hcheapest, Option.all_some, decide_eq_true_eq] at hfast
  exact scoredArguments_latency hfast

/-- Where the cheap route takes too long, the selection raises that no model satisfies, though the other route would. -/
theorem rejects_feasible :
    ¬RejectsOnlyInfeasible suppliedRank (scoredArguments (twoRoutes 2000 100 (by decide) (by decide))) := by
  intro h
  have hmatch : (match selectRanked suppliedRank (scoredArguments (twoRoutes 2000 100 (by decide) (by decide))) with
      | .error e => decide (e = noModel "model: predicted latency exceeds call budget")
      | .ok _ => false) = true := by decide +kernel
  have hraised : selectRanked suppliedRank (scoredArguments (twoRoutes 2000 100 (by decide) (by decide))) =
      .error (noModel "model: predicted latency exceeds call budget") := by
    split at hmatch
    · rename_i e heq
      rw [heq, of_decide_eq_true hmatch]
    · cases hmatch
  have heligible : Eligible (scoredArguments (twoRoutes 2000 100 (by decide) (by decide))) 100
      (twoRoutes 2000 100 (by decide) (by decide)) scoredValue :=
    ⟨by decide +kernel, by decide +kernel, by decide +kernel, scoredArguments_value⟩
  obtain ⟨dear, hdear, hlatency⟩ : ∃ dear ∈ (twoRoutes 2000 100 (by decide) (by decide)).routes, dear.p95TotalLatencyMs = 100 :=
    ⟨_, List.mem_cons_of_mem _ List.mem_cons_self, rfl⟩
  exact h.raised _ hraised 100 rfl _ List.mem_cons_self scoredValue heligible dear hdear
    ⟨fun hhard => (nomatch hhard), fun _ => scoredArguments_latency hlatency.le⟩

end Routing

end PromptRail
