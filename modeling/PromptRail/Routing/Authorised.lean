import PromptRail.Routing.Selected

/-!
# Which routes of a plan the budget pays for

The selection prices the cheapest route of a model. The plan prices the routes in the same way, so its cheapest route is the selected
one; but it may also run the provider of the last call, the guaranteed route or every other route, and none of these was priced
against the budget.
-/

namespace PromptRail

open Outcome (map_ok ok_of_any)

namespace Routing

/-- The predicted cost of a route, of the required input and the predicted output, is within the budget of the call. -/
def Affordable (decision : RouterDecision) (cache : CacheAnalysis) (budget : CallBudget) (route : ProviderRoute) : Prop :=
  requiredInputCost route budget.requiredContextTokens cache decision.cacheValue + outputCost route decision.predictedOutputTokens ≤
    budget.costUsd + costTolerance

instance (decision : RouterDecision) (cache : CacheAnalysis) (budget : CallBudget) (route : ProviderRoute) :
    Decidable (Affordable decision cache budget route) := inferInstanceAs (Decidable (_ ≤ _))

/-- The latency budget leaves time to try other providers before the guaranteed one. -/
def Explores (budget : CallBudget) (policy : RoutingPolicy) (preparationElapsedMs : Int) (guaranteed : ProviderRoute) : Prop :=
  ∃ total, executionBudget budget policy preparationElapsedMs guaranteed.p95TotalLatencyMs = .ok total ∧
    0 < startWithinMs policy total guaranteed

/-- The routes beside the selected one that a call may run are within its budget: the route of the pinned provider; else the
guaranteed route, and where there is time to explore, every route of the model. -/
def OthersAffordable (decision : RouterDecision) (cache : CacheAnalysis) (budget : CallBudget) (policy : RoutingPolicy)
    (preparationElapsedMs : Int) : Prop :=
  match pinnedRoute decision.candidate.toModelCandidate cache with
  | some pinned => Affordable decision cache budget pinned
  | none => ∀ guaranteed ∈ guaranteedRoute decision.candidate.routes, guaranteed.routeId ≠ decision.route.routeId →
      Affordable decision cache budget guaranteed ∧
        (Explores budget policy preparationElapsedMs guaranteed →
          ∀ route ∈ decision.candidate.routes, Affordable decision cache budget route)

namespace AuthorisedAux

variable {args : SelectArguments} {decision : RouterDecision} {cache : CacheAnalysis} {budget : CallBudget} {policy : RoutingPolicy}
variable {preparationElapsedMs : Int} {rank : Ranker}

/-! ## Prices -/

/-- The plan takes a route to cost what the selection takes it to cost. -/
theorem routeCost_eq (route : ProviderRoute) : routeCost route decision cache budget =
    requiredInputCost route budget.requiredContextTokens cache decision.cacheValue +
      outputCost route decision.predictedOutputTokens := by
  have hprovider : (some route.provider == decision.cacheValue.provider) = (decision.cacheValue.provider == some route.provider) :=
    Bool.beq_comm
  unfold routeCost requiredInputCost
  rw [hprovider]

/-! ## Selection -/

/-- What the selection says of a decision it makes. -/
structure Selected (args : SelectArguments) (decision : RouterDecision) : Prop where
  route : decision.route ∈ decision.candidate.routes.argmin
    (costKey (args.predictedCost decision.cacheValue decision.predictedOutputTokens))
  cost : args.policy.hardCost = true → Affordable decision args.cache args.budget decision.route

/-- Every decision is of a candidate that fits, with its cheapest route. -/
theorem selected_of_selectRanked {decisions : List RouterDecision} (h : selectRanked rank args = .ok decisions)
    (hmem : decision ∈ decisions) : Selected args decision := by
  have hchosen := chosen_of_selectRanked h hmem
  exact ⟨hchosen.route, fun hhard => (hchosen.feasible.cost hhard).total⟩

/-! ## Planning -/

/-- The cheapest route of an open plan is the selected one. -/
theorem cheapest_eq (h : Selected args decision) :
    decision.candidate.routes.argmin (costKey fun route => routeCost route decision args.cache args.budget) = some decision.route := by
  have hcost : (fun route => routeCost route decision args.cache args.budget) =
      args.predictedCost decision.cacheValue decision.predictedOutputTokens :=
    funext fun route => routeCost_eq route
  rw [hcost]
  exact h.route

/-- What an open plan may take is among its routes exactly where there is time to try it. -/
theorem mem_openPlan {cheapest guaranteed : ProviderRoute} {total : Int} (hne : cheapest.routeId ≠ guaranteed.routeId)
    {P : ProviderRoute → Prop} (hmem : guaranteed ∈ decision.candidate.routes)
    (hids : (decision.candidate.routes.map (·.routeId)).Nodup) (hcheapest : cheapest ∈ decision.candidate.routes) :
    (∀ route ∈ (openPlan decision budget policy cheapest guaranteed total).routes, P route) ↔
      P guaranteed ∧ (0 < startWithinMs policy total guaranteed → ∀ route ∈ decision.candidate.routes, P route) := by
  by_cases hstart : startWithinMs policy total guaranteed ≤ 0
  · have hroutes : (openPlan decision budget policy cheapest guaranteed total).routes = [guaranteed] := by
      unfold openPlan
      dsimp only
      rw [if_pos (Or.inr hstart)]
    rw [hroutes]
    simp [not_lt.2 hstart]
  · have hroutes : (openPlan decision budget policy cheapest guaranteed total).routes =
        cheapest :: otherRoutes decision.candidate.routes cheapest guaranteed ++ [guaranteed] := by
      unfold openPlan
      dsimp only
      rw [if_neg (not_or.2 ⟨hne, hstart⟩)]
    rw [hroutes]
    constructor
    · intro hall
      refine ⟨hall guaranteed (by simp), fun _ route hroute => hall route ?_⟩
      by_cases hfirst : route.routeId = cheapest.routeId
      · rw [List.inj_on_of_nodup_map hids hroute hcheapest hfirst]
        simp
      · by_cases hlast : route.routeId = guaranteed.routeId
        · rw [List.inj_on_of_nodup_map hids hroute hmem hlast]
          simp
        · refine List.mem_append_left _ (List.mem_cons_of_mem _ ?_)
          unfold otherRoutes
          rw [List.mem_filter, List.mem_insertionSort]
          exact ⟨hroute, by simp [hfirst, hlast]⟩
    · rintro ⟨-, hall⟩ route hroute
      refine hall (not_le.1 hstart) route ?_
      rcases List.mem_append.1 hroute with hbefore | hlast
      · rcases List.mem_cons.1 hbefore with rfl | hother
        · exact hcheapest
        · exact (List.mem_insertionSort _).1 (List.mem_filter.1 hother).1
      · obtain rfl := List.mem_singleton.1 hlast
        exact hmem

theorem mem_of_guaranteedRoute {routes : List ProviderRoute} {guaranteed : ProviderRoute}
    (h : guaranteedRoute routes = some guaranteed) : guaranteed ∈ routes := by
  unfold guaranteedRoute at h
  dsimp only at h
  have hmem := List.argmin_mem h
  split at hmem
  · exact hmem
  · exact (List.mem_filter.1 hmem).1

end AuthorisedAux

open AuthorisedAux

/-- Under a hard cost limit, of every decision of a selection and every plan made from it: each of its routes is within the budget
exactly when the routes beside the selected one that the call may run are. -/
theorem plan_authorised_iff {rank : Ranker} {args : SelectArguments} {decisions : List RouterDecision} {decision : RouterDecision}
    {preparationElapsedMs : Int} {routingPlan : ProviderRoutingPlan} (hhard : args.policy.hardCost = true)
    (hselect : selectRanked rank args = .ok decisions) (hdecision : decision ∈ decisions)
    (hplan : plan decision args.cache args.budget args.policy preparationElapsedMs = .ok routingPlan) :
    (∀ route ∈ routingPlan.routes, Affordable decision args.cache args.budget route) ↔
      OthersAffordable decision args.cache args.budget args.policy preparationElapsedMs := by
  have hselected := selected_of_selectRanked hselect hdecision
  unfold plan at hplan
  split at hplan
  · rename_i pinned hpinned
    obtain ⟨total, -, rfl⟩ := map_ok hplan
    unfold OthersAffordable
    rw [hpinned]
    simp
  · rename_i hopen
    rw [cheapest_eq hselected] at hplan
    unfold OthersAffordable
    rw [hopen]
    split at hplan
    · rename_i cheapest guaranteed hcheapest hguaranteed
      obtain rfl := Option.some.inj hcheapest
      obtain ⟨total, htotal, rfl⟩ := map_ok hplan
      rw [hguaranteed]
      by_cases hsame : decision.route.routeId = guaranteed.routeId
      · have hroute : decision.route = guaranteed :=
          List.inj_on_of_nodup_map decision.candidate.validate_routes.2 (List.argmin_mem hselected.route)
            (mem_of_guaranteedRoute hguaranteed) hsame
        have hroutes : (openPlan decision args.budget args.policy decision.route guaranteed total).routes = [guaranteed] := by
          unfold openPlan
          dsimp only
          rw [if_pos (Or.inl hsame)]
        rw [hroutes]
        have hpaid := hselected.cost hhard
        rw [hroute] at hpaid
        simp [hpaid, hroute]
      · rw [mem_openPlan hsame (mem_of_guaranteedRoute hguaranteed) decision.candidate.validate_routes.2
          (List.argmin_mem hselected.route)]
        have hexplores : Explores args.budget args.policy preparationElapsedMs guaranteed ↔
            0 < startWithinMs args.policy total guaranteed := by
          unfold Explores
          rw [htotal]
          simp
        simp [hexplores, Ne.symm hsame]
    · cases hplan

/-- A model with a cheap route, and a fast guaranteed route that is a thousand times dearer. -/
def exampleCandidate : RouterCandidate where
  modelId := "model"
  routes :=
    [{ routeId := "cheap", provider := "first", inputPricePerMillion := 1, outputPricePerMillion := 1, p95TtftMs := 50,
        p95TotalLatencyMs := 100, validate_price := ProviderRoute.cheapPrice_valid,
        validate_route_duration := ProviderRoute.fastDuration_valid, validate_latency_order := ProviderRoute.fastLatency_valid },
      { routeId := "fast", provider := "second", inputPricePerMillion := 1000, outputPricePerMillion := 1000, p95TtftMs := 10,
        p95TotalLatencyMs := 50, guaranteed := true, validate_price := by simp, validate_route_duration := by decide,
        validate_latency_order := by decide }]
  validate_routes := by decide
  quality := 1
  contextWindowTokens := 8000
  routerScore := some 1
  validate_score := RouterCandidate.fullScore_valid
  validate_context_window := RouterCandidate.wideWindow_valid

/-- A call of a thousand tokens with a budget of a cent, in a session whose last provider is the one given. -/
def exampleArguments (lastProvider : Option String) : SelectArguments where
  intent :=
    { sessionId := "session".toList, task := "task".toList, messages := [], predictedOutputTokens := some 100
      validate_output_tokens := CallIntent.hundredTokens_valid }
  candidates := [exampleCandidate]
  cache :=
    { totalTokens := 1000, toolTokens := 0, messageTokens := [1000], prefixHash := none, cacheableMessageIndices := []
      protectedMessageIndices := [], compactableMessageIndices := [0], cacheableTokens := 0, protectedDynamicTokens := 0
      compactableTokens := 1000, lastModelId := some "model", lastProvider
      values := Table.ofList [("model", { modelId := "model", inputCostUsd := 1 / 1000 })] }
  budget :=
    { runId := 0, callId := 0, sequence := 0, costUsd := 1 / 100, inputCostUsd := 1 / 200, outputCostUsd := 1 / 200
      latencyMs := 1000, allocatorModelId := "allocator", allocatorReason := "reason", requiredContextTokens := 1000 }
  policy :=
    { hardCallCostLimitUsd := some (1 / 100)
      validate_optional_cost := by
        rintro l (h | h)
        · cases h
        · cases h
          norm_num
      validate_optional_latency := OperatingPolicy.noLatencyLimit_valid
      validate_priority := RoutingPolicy.defaultPriority_valid
      validate_fraction := RoutingPolicy.defaultFraction_valid }

/-- A property of some decision of a selection and the plan made from it, as a computation. -/
def somePlan (args : SelectArguments) (p : RouterDecision → ProviderRoutingPlan → Bool) : Bool :=
  (selectRanked suppliedRank args).toOption.any fun decisions => decisions.any fun decision =>
    (plan decision args.cache args.budget args.policy).toOption.any (p decision)

theorem somePlan_spec (args : SelectArguments) {p : RouterDecision → ProviderRoutingPlan → Bool} (h : somePlan args p = true) :
    ∃ decisions decision routingPlan, selectRanked suppliedRank args = .ok decisions ∧ decision ∈ decisions ∧
      plan decision args.cache args.budget args.policy = .ok routingPlan ∧ p decision routingPlan = true := by
  unfold somePlan at h
  obtain ⟨decisions, hdecisions, h⟩ := ok_of_any h
  obtain ⟨decision, hdecision, h⟩ := List.any_eq_true.1 h
  obtain ⟨routingPlan, hplan, h⟩ := ok_of_any h
  exact ⟨decisions, decision, routingPlan, hdecisions, hdecision, hplan, h⟩

/-- A call that is pinned to the provider of the cheap route runs within its budget. -/
theorem plan_authorised_pinned : ∃ decisions decision routingPlan,
    selectRanked suppliedRank (exampleArguments (some "first")) = .ok decisions ∧ decision ∈ decisions ∧
      plan decision (exampleArguments (some "first")).cache (exampleArguments (some "first")).budget
        (exampleArguments (some "first")).policy = .ok routingPlan ∧
      ∀ route ∈ routingPlan.routes,
        Affordable decision (exampleArguments (some "first")).cache (exampleArguments (some "first")).budget route := by
  obtain ⟨decisions, decision, routingPlan, hselect, hdecision, hplan, hpinned⟩ :=
    somePlan_spec (exampleArguments (some "first")) (p := fun decision _ =>
      (pinnedRoute decision.candidate.toModelCandidate (exampleArguments (some "first")).cache).any fun pinned =>
        decide (Affordable decision (exampleArguments (some "first")).cache (exampleArguments (some "first")).budget pinned))
      (by decide +kernel)
  refine ⟨decisions, decision, routingPlan, hselect, hdecision, hplan, ?_⟩
  rw [plan_authorised_iff rfl hselect hdecision hplan]
  obtain ⟨pinned, hroute, hpaid⟩ := (Option.any_eq_true _ _).1 hpinned
  unfold OthersAffordable
  rw [hroute]
  exact of_decide_eq_true hpaid

/-- A call that is not pinned may run the guaranteed route, at a hundred times its budget. -/
theorem plan_unpaid : ¬ ∀ (rank : Ranker) (args : SelectArguments) (decisions : List RouterDecision) (decision : RouterDecision)
    (preparationElapsedMs : Int) (routingPlan : ProviderRoutingPlan), args.policy.hardCost = true →
    selectRanked rank args = .ok decisions → decision ∈ decisions →
    plan decision args.cache args.budget args.policy preparationElapsedMs = .ok routingPlan →
    ∀ route ∈ routingPlan.routes, Affordable decision args.cache args.budget route := by
  intro h
  obtain ⟨decisions, decision, routingPlan, hselect, hdecision, hplan, hunpaid⟩ :=
    somePlan_spec (exampleArguments none) (p := fun decision routingPlan => routingPlan.routes.any fun route =>
      !decide (Affordable decision (exampleArguments none).cache (exampleArguments none).budget route)) (by decide +kernel)
  obtain ⟨route, hroute, hcost⟩ := List.any_eq_true.1 hunpaid
  have hpaid := h suppliedRank (exampleArguments none) decisions decision 0 routingPlan rfl hselect hdecision hplan route hroute
  rw [decide_eq_true hpaid] at hcost
  cases hcost

end Routing

end PromptRail
