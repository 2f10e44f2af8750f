import PromptRail.Routing.Authorised

/-!
# Which plans can end in time

A plan ends with the pinned route or with the guaranteed one. The time it has is what the preparation and the margin leave of the
latency budget; that the selected route fits into the budget says nothing about another route, nor about a preparation that takes
longer than what is reserved for it.
-/

namespace PromptRail

open Outcome (map_ok)

namespace Routing

/-- A route ends in what the preparation and the margin leave of the latency budget. -/
def TimeLeft (budget : CallBudget) (policy : RoutingPolicy) (preparationElapsedMs : Int) (route : ProviderRoute) : Prop :=
  (route.p95TotalLatencyMs : Int) + max preparationElapsedMs (policy.controllerReserveMs + policy.compactionReserveMs) +
    policy.latencySafetyMarginMs ≤ budget.latencyMs

instance (budget : CallBudget) (policy : RoutingPolicy) (preparationElapsedMs : Int) (route : ProviderRoute) :
    Decidable (TimeLeft budget policy preparationElapsedMs route) := inferInstanceAs (Decidable (_ ≤ _))

/-- There is time for the route of the pinned provider, or else for the guaranteed route. -/
def LastFits (decision : RouterDecision) (cache : CacheAnalysis) (budget : CallBudget) (policy : RoutingPolicy)
    (preparationElapsedMs : Int) : Prop :=
  match pinnedRoute decision.candidate.toModelCandidate cache with
  | some pinned => TimeLeft budget policy preparationElapsedMs pinned
  | none => ∀ guaranteed ∈ guaranteedRoute decision.candidate.routes, TimeLeft budget policy preparationElapsedMs guaranteed

/-- The last route of a plan ends within its timeout. -/
def EndsInTime (routingPlan : ProviderRoutingPlan) : Prop :=
  ∃ last, routingPlan.routes.getLast? = some last ∧ (last.p95TotalLatencyMs : Int) ≤ routingPlan.totalTimeoutMs

namespace DeadlineAux

variable {args : SelectArguments} {decision : RouterDecision} {cache : CacheAnalysis} {budget : CallBudget} {policy : RoutingPolicy}
variable {preparationElapsedMs total : Int} {minimumProviderMs : Nat}

/-- Under a hard latency limit, the time of a plan is what is left, whatever its route takes. -/
theorem executionBudget_ok (hhard : policy.hardLatency = true)
    (h : executionBudget budget policy preparationElapsedMs minimumProviderMs = .ok total) :
    total = budget.latencyMs - max preparationElapsedMs (policy.controllerReserveMs + policy.compactionReserveMs) -
      policy.latencySafetyMarginMs := by
  unfold executionBudget at h
  by_cases hnegative : preparationElapsedMs < 0
  · rw [if_pos hnegative] at h
    cases h
  · rw [if_neg hnegative, if_pos hhard] at h
    dsimp only at h
    split at h
    · cases h
    · exact (Except.ok.inj h).symm

theorem le_total_iff (hhard : policy.hardLatency = true)
    (h : executionBudget budget policy preparationElapsedMs minimumProviderMs = .ok total) (route : ProviderRoute) :
    (route.p95TotalLatencyMs : Int) ≤ total ↔ TimeLeft budget policy preparationElapsedMs route := by
  rw [executionBudget_ok hhard h, TimeLeft]
  omega

/-- Whatever it tries before, an open plan ends with the guaranteed route. -/
theorem getLast?_openPlan (cheapest guaranteed : ProviderRoute) :
    (openPlan decision budget policy cheapest guaranteed total).routes.getLast? = some guaranteed ∧
      (openPlan decision budget policy cheapest guaranteed total).totalTimeoutMs = total := by
  unfold openPlan
  dsimp only
  split
  · exact ⟨rfl, rfl⟩
  · exact ⟨List.getLast?_concat, rfl⟩

theorem endsInTime_iff {routingPlan : ProviderRoutingPlan} {last : ProviderRoute} (hlast : routingPlan.routes.getLast? = some last) :
    EndsInTime routingPlan ↔ (last.p95TotalLatencyMs : Int) ≤ routingPlan.totalTimeoutMs := by
  rw [EndsInTime, hlast]
  simp

/-- Of every plan under a hard latency limit, the last route ends in time exactly when there is time for it. -/
theorem endsInTime_iff_lastFits {routingPlan : ProviderRoutingPlan} (hhard : policy.hardLatency = true)
    (hplan : plan decision cache budget policy preparationElapsedMs = .ok routingPlan) :
    EndsInTime routingPlan ↔ LastFits decision cache budget policy preparationElapsedMs := by
  unfold plan at hplan
  split at hplan
  · rename_i pinned hpinned
    obtain ⟨total, htotal, rfl⟩ := map_ok hplan
    rw [endsInTime_iff rfl, le_total_iff hhard htotal, LastFits, hpinned]
    exact Iff.rfl
  · rename_i hopen
    split at hplan
    · rename_i cheapest guaranteed hcheapest hguaranteed
      obtain ⟨total, htotal, rfl⟩ := map_ok hplan
      obtain ⟨hlast, htimeout⟩ := @getLast?_openPlan decision budget policy total cheapest guaranteed
      rw [endsInTime_iff hlast, htimeout, le_total_iff hhard htotal, LastFits, hopen, hguaranteed]
      simp
    · cases hplan

/-! ## The selected route -/

/-- There is time for the selected route while the preparation keeps to what is reserved for it. -/
theorem timeLeft_of_chosen (h : Chosen args decision) (hhard : args.policy.hardLatency = true)
    (hprepared : preparationElapsedMs ≤ args.policy.controllerReserveMs + args.policy.compactionReserveMs) :
    TimeLeft args.budget args.policy preparationElapsedMs decision.route := by
  have hlatency := h.feasible.latency hhard
  rw [RoutingPolicy.predictedLatency] at hlatency
  rw [TimeLeft, max_eq_right hprepared]
  push_cast at hlatency
  omega

theorem TimeLeft.mono {fast slow : ProviderRoute} (h : TimeLeft budget policy preparationElapsedMs slow)
    (hle : fast.p95TotalLatencyMs ≤ slow.p95TotalLatencyMs) : TimeLeft budget policy preparationElapsedMs fast := by
  unfold TimeLeft at h ⊢
  omega

/-- No route of the pool that the guaranteed one is taken from is faster. -/
theorem guaranteedRoute_le {routes : List ProviderRoute} {guaranteed route : ProviderRoute}
    (h : guaranteedRoute routes = some guaranteed) (hroute : route ∈ routes)
    (hpool : route.guaranteed = true ∨ ∀ other ∈ routes, other.guaranteed = false) :
    guaranteed.p95TotalLatencyMs ≤ route.p95TotalLatencyMs := by
  unfold guaranteedRoute at h
  dsimp only at h
  have hmem : route ∈ if (routes.filter (·.guaranteed)).isEmpty then routes else routes.filter (·.guaranteed) := by
    rcases hpool with hown | hnone
    · have hfilter : route ∈ routes.filter (·.guaranteed) := List.mem_filter.2 ⟨hroute, hown⟩
      split
      · exact hroute
      · exact hfilter
    · have hempty : routes.filter (·.guaranteed) = [] := List.filter_eq_nil_iff.2 fun other hother => by simp [hnone other hother]
      rw [hempty]
      exact hroute
  exact Prod.Lex.monotone_fst _ _ (List.le_of_mem_argmin hmem h)

end DeadlineAux

open DeadlineAux

/-- Under a hard latency limit, of every decision of a selection and every plan made from it: the last route ends in time exactly when
there is time for the pinned route or, where none is pinned, for the guaranteed one. There is while the preparation keeps to its reserves
and a plan that pins nothing takes its guaranteed route from a pool that has the selected one. -/
theorem plan_latency_feasible_iff {rank : Ranker} {args : SelectArguments} {decisions : List RouterDecision} {decision : RouterDecision}
    {preparationElapsedMs : Int} {routingPlan : ProviderRoutingPlan} (hhard : args.policy.hardLatency = true)
    (hselect : selectRanked rank args = .ok decisions) (hdecision : decision ∈ decisions)
    (hplan : plan decision args.cache args.budget args.policy preparationElapsedMs = .ok routingPlan) :
    (EndsInTime routingPlan ↔ LastFits decision args.cache args.budget args.policy preparationElapsedMs) ∧
      (preparationElapsedMs ≤ args.policy.controllerReserveMs + args.policy.compactionReserveMs →
        pinnedRoute decision.candidate.toModelCandidate args.cache = none →
        (decision.route.guaranteed = true ∨ ∀ other ∈ decision.candidate.routes, other.guaranteed = false) →
        EndsInTime routingPlan) := by
  have hiff := endsInTime_iff_lastFits hhard hplan
  refine ⟨hiff, ?_⟩
  intro hprepared hopen hpool
  have hchosen := chosen_of_selectRanked hselect hdecision
  rw [hiff, LastFits, hopen]
  intro guaranteed hguaranteed
  have hle := guaranteedRoute_le hguaranteed (List.argmin_mem hchosen.route) hpool
  exact TimeLeft.mono (timeLeft_of_chosen hchosen hhard hprepared) hle

/-- A model with a fast route, and a guaranteed route that takes nine times as long. -/
def slowFallback : RouterCandidate where
  modelId := "model"
  routes :=
    [{ routeId := "fast", provider := "first", inputPricePerMillion := 1, outputPricePerMillion := 1, p95TtftMs := 50,
        p95TotalLatencyMs := 100, validate_price := ProviderRoute.cheapPrice_valid,
        validate_route_duration := ProviderRoute.fastDuration_valid, validate_latency_order := ProviderRoute.fastLatency_valid },
      { routeId := "slow", provider := "second", inputPricePerMillion := 2, outputPricePerMillion := 2, p95TtftMs := 50,
        p95TotalLatencyMs := 900, guaranteed := true, validate_price := ProviderRoute.dearPrice_valid, validate_route_duration := by decide,
        validate_latency_order := by decide }]
  validate_routes := by decide
  quality := 1
  contextWindowTokens := 8000
  routerScore := some 1
  validate_score := RouterCandidate.fullScore_valid
  validate_context_window := RouterCandidate.wideWindow_valid

/-- A call that may take a second, in a session whose last provider is the one given. -/
def secondArguments (lastProvider : Option String) : SelectArguments where
  intent := (exampleArguments lastProvider).intent
  candidates := [slowFallback]
  cache := (exampleArguments lastProvider).cache
  budget := (exampleArguments lastProvider).budget
  policy :=
    { hardCallLatencyLimitMs := some 1000
      validate_optional_cost := OperatingPolicy.noCostLimit_valid
      validate_optional_latency := RoutingPolicy.secondLimit_valid
      validate_priority := RoutingPolicy.defaultPriority_valid
      validate_fraction := RoutingPolicy.defaultFraction_valid }

/-- A call that is pinned to the provider of the fast route ends in time. -/
theorem plan_latency_feasible_pinned : ∃ decisions decision routingPlan,
    selectRanked suppliedRank (secondArguments (some "first")) = .ok decisions ∧ decision ∈ decisions ∧
      plan decision (secondArguments (some "first")).cache (secondArguments (some "first")).budget
        (secondArguments (some "first")).policy = .ok routingPlan ∧ EndsInTime routingPlan := by
  obtain ⟨decisions, decision, routingPlan, hselect, hdecision, hplan, hpinned⟩ :=
    somePlan_spec (secondArguments (some "first")) (p := fun decision _ =>
      (pinnedRoute decision.candidate.toModelCandidate (secondArguments (some "first")).cache).any fun pinned =>
        decide (TimeLeft (secondArguments (some "first")).budget (secondArguments (some "first")).policy 0 pinned))
      (by decide +kernel)
  refine ⟨decisions, decision, routingPlan, hselect, hdecision, hplan, ?_⟩
  rw [(plan_latency_feasible_iff rfl hselect hdecision hplan).1]
  obtain ⟨pinned, hroute, htime⟩ := (Option.any_eq_true _ _).1 hpinned
  unfold LastFits
  rw [hroute]
  exact of_decide_eq_true htime

/-- A call that is not pinned ends with the guaranteed route, which takes longer than it has. -/
theorem plan_ends_late : ¬ ∀ (rank : Ranker) (args : SelectArguments) (decisions : List RouterDecision) (decision : RouterDecision)
    (preparationElapsedMs : Int) (routingPlan : ProviderRoutingPlan), args.policy.hardLatency = true →
    selectRanked rank args = .ok decisions → decision ∈ decisions →
    plan decision args.cache args.budget args.policy preparationElapsedMs = .ok routingPlan → EndsInTime routingPlan := by
  intro h
  obtain ⟨decisions, decision, routingPlan, hselect, hdecision, hplan, hlate⟩ :=
    somePlan_spec (secondArguments none) (p := fun _ routingPlan => routingPlan.routes.getLast?.all fun last =>
      !decide ((last.p95TotalLatencyMs : Int) ≤ routingPlan.totalTimeoutMs)) (by decide +kernel)
  obtain ⟨last, hlast, htime⟩ := h suppliedRank (secondArguments none) decisions decision 0 routingPlan rfl hselect hdecision hplan
  rw [hlast, Option.all_some, decide_eq_true htime] at hlate
  cases hlate

end Routing

end PromptRail
