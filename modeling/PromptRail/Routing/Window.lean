import PromptRail.Routing.Deadline

/-!
# The exploration window

A plan that pins nothing tries the selected route first and ends with the guaranteed one; what it may spend before is a fraction of the
slack. Under a hard latency limit the slack is what the preparation, the margin and the guaranteed route leave of the budget. Without one
nothing is taken off for the preparation, so the window is the documented one only where that makes no difference.
-/

namespace PromptRail

open Outcome (map_ok)

namespace Routing

/-- The pool that the guaranteed route is taken from: the guaranteed routes, or all routes where none is guaranteed. -/
def guaranteedPool (routes : List ProviderRoute) : List ProviderRoute :=
  if (routes.filter (·.guaranteed)).isEmpty then routes else routes.filter (·.guaranteed)

/-- The order of the guaranteed routes. -/
def guaranteedKey (route : ProviderRoute) : ℕ ×ₗ ℕ ×ₗ String :=
  toLex (route.p95TotalLatencyMs, toLex (route.p95TtftMs, route.routeId))

/-- The order of the routes in between. -/
def middleKey (route : ProviderRoute) : ℕ ×ₗ String := toLex (route.p95TotalLatencyMs, route.routeId)

/-- A route is one of some routes, and none of them comes before it. -/
def IsFirst {κ : Type} [LE κ] (key : ProviderRoute → κ) (routes : List ProviderRoute) (route : ProviderRoute) : Prop :=
  route ∈ routes ∧ ∀ other ∈ routes, key route ≤ key other

/-- The preparation that is taken off a latency budget: what was measured, or what is reserved if that is more. -/
def preparationMs (policy : RoutingPolicy) (preparationElapsedMs : Int) : Int :=
  max preparationElapsedMs (policy.controllerReserveMs + policy.compactionReserveMs)

namespace WindowAux

variable {decision : RouterDecision} {cache : CacheAnalysis} {budget : CallBudget} {policy : RoutingPolicy}
variable {preparationElapsedMs total : Int} {cheapest guaranteed : ProviderRoute} {routingPlan : ProviderRoutingPlan}

/-- What a plan that pins nothing is made of. -/
structure Opened (decision : RouterDecision) (cache : CacheAnalysis) (budget : CallBudget) (policy : RoutingPolicy)
    (preparationElapsedMs : Int) (routingPlan : ProviderRoutingPlan) (cheapest guaranteed : ProviderRoute) (total : Int) : Prop where
  isCheapest : decision.candidate.routes.argmin (costKey fun route => routeCost route decision cache budget) = some cheapest
  isGuaranteed : guaranteedRoute decision.candidate.routes = some guaranteed
  isTotal : executionBudget budget policy preparationElapsedMs guaranteed.p95TotalLatencyMs = .ok total
  isPlan : routingPlan = openPlan decision budget policy cheapest guaranteed total

theorem opened_of_plan (hplan : plan decision cache budget policy preparationElapsedMs = .ok routingPlan)
    (hmode : routingPlan.mode ≠ .sticky) :
    ∃ cheapest guaranteed total, Opened decision cache budget policy preparationElapsedMs routingPlan cheapest guaranteed total := by
  unfold plan at hplan
  split at hplan
  · obtain ⟨total, -, rfl⟩ := map_ok hplan
    exact absurd rfl hmode
  · split at hplan
    · rename_i cheapest guaranteed hcheapest hguaranteed
      obtain ⟨total, htotal, rfl⟩ := map_ok hplan
      exact ⟨cheapest, guaranteed, total, hcheapest, hguaranteed, htotal, rfl⟩
    · cases hplan

/-- An open plan runs the guaranteed route alone where it is the cheapest or there is no window, and else every route. -/
theorem openPlan_cases (decision : RouterDecision) (budget : CallBudget) (policy : RoutingPolicy) (cheapest guaranteed : ProviderRoute)
    (total : Int) :
    ((cheapest.routeId = guaranteed.routeId ∨ startWithinMs policy total guaranteed ≤ 0) ∧
      (openPlan decision budget policy cheapest guaranteed total).mode = .direct ∧
      (openPlan decision budget policy cheapest guaranteed total).routes = [guaranteed] ∧
      (openPlan decision budget policy cheapest guaranteed total).startWithinMs = 0) ∨
    (cheapest.routeId ≠ guaranteed.routeId ∧ 0 < startWithinMs policy total guaranteed ∧
      (openPlan decision budget policy cheapest guaranteed total).mode = .deadline ∧
      (openPlan decision budget policy cheapest guaranteed total).routes =
        cheapest :: otherRoutes decision.candidate.routes cheapest guaranteed ++ [guaranteed] ∧
      (openPlan decision budget policy cheapest guaranteed total).startWithinMs = startWithinMs policy total guaranteed) := by
  unfold openPlan
  dsimp only
  split
  · rename_i hdirect
    exact Or.inl ⟨hdirect, rfl, rfl, rfl⟩
  · rename_i hdeadline
    rw [not_or, not_le] at hdeadline
    exact Or.inr ⟨hdeadline.1, hdeadline.2, rfl, rfl, rfl⟩

theorem openPlan_timeouts (decision : RouterDecision) (budget : CallBudget) (policy : RoutingPolicy)
    (cheapest guaranteed : ProviderRoute) (total : Int) :
    (openPlan decision budget policy cheapest guaranteed total).totalTimeoutMs = total ∧
      (openPlan decision budget policy cheapest guaranteed total).latencyBudgetMs = budget.latencyMs := by
  unfold openPlan
  dsimp only
  split
  · exact ⟨rfl, rfl⟩
  · exact ⟨rfl, rfl⟩

/-! ## The routes -/

/-- The first of the least elements is one of the least elements. -/
theorem isFirst_of_argmin {κ : Type} [LinearOrder κ] {key : ProviderRoute → κ} {routes : List ProviderRoute} {route : ProviderRoute}
    (h : routes.argmin key = some route) : IsFirst key routes route :=
  ⟨List.argmin_mem h, fun _ hother => List.le_of_mem_argmin hother h⟩

theorem isFirst_guaranteed {routes : List ProviderRoute} (h : guaranteedRoute routes = some guaranteed) :
    IsFirst guaranteedKey (guaranteedPool routes) guaranteed :=
  isFirst_of_argmin h

theorem mem_otherRoutes {routes : List ProviderRoute} {route : ProviderRoute} :
    route ∈ otherRoutes routes cheapest guaranteed ↔
      route ∈ routes ∧ route.routeId ≠ cheapest.routeId ∧ route.routeId ≠ guaranteed.routeId := by
  unfold otherRoutes
  rw [List.mem_filter, List.mem_insertionSort]
  simp

/-- The routes in between come with their latency, and then by their identifiers. -/
theorem otherRoutes_sorted {routes : List ProviderRoute} (hids : (routes.map (·.routeId)).Nodup) :
    (otherRoutes routes cheapest guaranteed).Pairwise fun a b => middleKey a < middleKey b := by
  have hperm := List.perm_insertionSort (fun a b => middleKey a ≤ middleKey b) routes
  have hsorted : (routes.insertionSort fun a b => middleKey a ≤ middleKey b).Pairwise fun a b => middleKey a ≤ middleKey b :=
    List.pairwise_insertionSort _ _
  have hdistinct : (routes.insertionSort fun a b => middleKey a ≤ middleKey b).Pairwise fun a b => a.routeId ≠ b.routeId :=
    List.pairwise_map.1 ((hperm.map _).nodup_iff.2 hids)
  refine ((hsorted.and hdistinct).imp ?_).sublist List.filter_sublist
  rintro a b ⟨hle, hne⟩
  refine lt_of_le_of_ne hle ?_
  intro heq
  exact hne (congrArg (fun k => (ofLex k).2) heq)

/-- The routes of a deadline plan are the routes of the model, each once. -/
theorem deadline_perm {routes : List ProviderRoute} (hids : (routes.map (·.routeId)).Nodup) (hcheapest : cheapest ∈ routes)
    (hguaranteed : guaranteed ∈ routes) (hne : cheapest.routeId ≠ guaranteed.routeId) :
    (cheapest :: otherRoutes routes cheapest guaranteed ++ [guaranteed]).Perm routes := by
  have hother : ((otherRoutes routes cheapest guaranteed).map (·.routeId)).Nodup := by
    have hperm := (List.perm_insertionSort (fun a b => middleKey a ≤ middleKey b) routes).map (·.routeId)
    exact (List.filter_sublist.map _).nodup (hperm.nodup_iff.2 hids)
  have hnodup : ((cheapest :: otherRoutes routes cheapest guaranteed ++ [guaranteed]).map (·.routeId)).Nodup := by
    rw [List.map_append, List.map_cons, List.map_singleton, List.nodup_append, List.nodup_cons]
    refine ⟨⟨?_, hother⟩, List.nodup_singleton _, ?_⟩
    · intro hmem
      obtain ⟨route, hroute, hsame⟩ := List.mem_map.1 hmem
      exact (mem_otherRoutes.1 hroute).2.1 hsame
    · intro id hid id' hid' heq
      rw [List.mem_singleton] at hid'
      rcases List.mem_cons.1 hid with hfirst | hmem
      · exact hne (hfirst.symm.trans (heq.trans hid'))
      · obtain ⟨route, hroute, hsame⟩ := List.mem_map.1 hmem
        exact (mem_otherRoutes.1 hroute).2.2 (hsame.trans (heq.trans hid'))
  refine (List.perm_ext_iff_of_nodup hnodup.of_map hids.of_map).2 ?_
  intro route
  constructor
  · intro hmem
    rcases List.mem_append.1 hmem with hbefore | hlast
    · rcases List.mem_cons.1 hbefore with rfl | hmiddle
      · exact hcheapest
      · exact (mem_otherRoutes.1 hmiddle).1
    · rw [List.mem_singleton.1 hlast]
      exact hguaranteed
  · intro hmem
    by_cases hfirst : route.routeId = cheapest.routeId
    · rw [List.inj_on_of_nodup_map hids hmem hcheapest hfirst]
      exact List.mem_append_left _ List.mem_cons_self
    · by_cases hlast : route.routeId = guaranteed.routeId
      · rw [List.inj_on_of_nodup_map hids hmem hguaranteed hlast]
        exact List.mem_append_right _ (List.mem_singleton_self _)
      · exact List.mem_append_left _ (List.mem_cons_of_mem _ (mem_otherRoutes.2 ⟨hmem, hfirst, hlast⟩))

/-! ## The time -/

/-- The window is no more than its cap, and ends before the time that the guaranteed route needs. -/
theorem startWithinMs_bounds (hpos : 0 < startWithinMs policy total guaranteed) :
    startWithinMs policy total guaranteed ≤ policy.maximumProviderExplorationMs ∧
      startWithinMs policy total guaranteed + guaranteed.p95TotalLatencyMs ≤ total := by
  have hcap : startWithinMs policy total guaranteed ≤ policy.maximumProviderExplorationMs := min_le_left _ _
  refine ⟨hcap, ?_⟩
  have hfloor : startWithinMs policy total guaranteed ≤
      ⌊((max 0 (total - guaranteed.p95TotalLatencyMs) : Int) : ℚ) * policy.providerExplorationFraction⌋ := min_le_right _ _
  have hslack : (0 : ℚ) ≤ ((max 0 (total - guaranteed.p95TotalLatencyMs) : Int) : ℚ) := by exact_mod_cast le_max_left _ _
  have hfraction : ⌊((max 0 (total - guaranteed.p95TotalLatencyMs) : Int) : ℚ) * policy.providerExplorationFraction⌋ ≤
      max 0 (total - guaranteed.p95TotalLatencyMs) := by
    refine Int.floor_le_iff.2 ?_
    have hone := mul_le_of_le_one_right hslack policy.validate_fraction.1.2
    linarith
  omega

end WindowAux

open AuthorisedAux DeadlineAux WindowAux

/-- The window as it is documented: the fraction of the slack that is left when the preparation and the margin are taken off the latency
budget. -/
def documentedStartMs (budget : CallBudget) (policy : RoutingPolicy) (preparationElapsedMs : Int) (guaranteed : ProviderRoute) : Int :=
  startWithinMs policy (budget.latencyMs - preparationMs policy preparationElapsedMs - policy.latencySafetyMarginMs) guaranteed

/-- A plan keeps to the documented window: it has none or that one, and with a deadline the preparation, the margin, the window and the
guaranteed route fit into the latency budget. -/
def KeepsWindow (budget : CallBudget) (policy : RoutingPolicy) (preparationElapsedMs : Int) (guaranteed : ProviderRoute)
    (routingPlan : ProviderRoutingPlan) : Prop :=
  (routingPlan.startWithinMs = 0 ∨
    routingPlan.startWithinMs = documentedStartMs budget policy preparationElapsedMs guaranteed) ∧
  (routingPlan.mode = .deadline → preparationMs policy preparationElapsedMs + policy.latencySafetyMarginMs +
    routingPlan.startWithinMs + guaranteed.p95TotalLatencyMs ≤ budget.latencyMs)

instance (budget : CallBudget) (policy : RoutingPolicy) (preparationElapsedMs : Int) (guaranteed : ProviderRoute)
    (routingPlan : ProviderRoutingPlan) : Decidable (KeepsWindow budget policy preparationElapsedMs guaranteed routingPlan) :=
  inferInstanceAs (Decidable ((_ ∨ _) ∧ (_ → _)))

/-- The fraction, in whole milliseconds, of what a time leaves beside the guaranteed route. -/
def slackPart (policy : RoutingPolicy) (guaranteed : ProviderRoute) (timeMs : Int) : Int :=
  ⌊((max 0 (timeMs - guaranteed.p95TotalLatencyMs) : Int) : ℚ) * policy.providerExplorationFraction⌋

namespace WindowAux

variable {budget : CallBudget} {policy : RoutingPolicy} {preparationElapsedMs total : Int} {guaranteed : ProviderRoute}

theorem startWithinMs_eq : startWithinMs policy total guaranteed =
    min (policy.maximumProviderExplorationMs : Int) (slackPart policy guaranteed total) := rfl

theorem slackPart_nonneg (policy : RoutingPolicy) (guaranteed : ProviderRoute) (timeMs : Int) :
    0 ≤ slackPart policy guaranteed timeMs := by
  have hslack : (0 : ℚ) ≤ ((max 0 (timeMs - guaranteed.p95TotalLatencyMs) : Int) : ℚ) := by exact_mod_cast le_max_left _ _
  exact Int.floor_nonneg.2 (mul_nonneg hslack policy.validate_fraction.1.1)

theorem slackPart_mono (policy : RoutingPolicy) (guaranteed : ProviderRoute) {timeMs timeMs' : Int} (h : timeMs ≤ timeMs') :
    slackPart policy guaranteed timeMs ≤ slackPart policy guaranteed timeMs' := by
  have hslack : ((max 0 (timeMs - guaranteed.p95TotalLatencyMs) : Int) : ℚ) ≤
      ((max 0 (timeMs' - guaranteed.p95TotalLatencyMs) : Int) : ℚ) := by
    exact_mod_cast max_le_max le_rfl (Int.sub_le_sub_right h _)
  exact Int.floor_mono (mul_le_mul_of_nonneg_right hslack policy.validate_fraction.1.1)

/-- Without a hard limit a plan has the whole latency budget, and what the guaranteed route needs beyond it. -/
theorem executionBudget_uncapped (huncapped : policy.hardLatency = false) {minimumProviderMs : Nat}
    (h : executionBudget budget policy preparationElapsedMs minimumProviderMs = .ok total) :
    total = max budget.latencyMs minimumProviderMs := by
  unfold executionBudget at h
  by_cases hnegative : preparationElapsedMs < 0
  · rw [if_pos hnegative] at h
    cases h
  · rw [if_neg hnegative, huncapped] at h
    exact (Except.ok.inj h).symm

/-- What the guaranteed route needs beyond a time is no slack. -/
theorem slackPart_max (timeMs : Int) :
    slackPart policy guaranteed (max timeMs guaranteed.p95TotalLatencyMs) = slackPart policy guaranteed timeMs := by
  have hslack : max 0 (max timeMs (guaranteed.p95TotalLatencyMs : Int) - guaranteed.p95TotalLatencyMs) =
      max 0 (timeMs - guaranteed.p95TotalLatencyMs) := by omega
  unfold slackPart
  rw [hslack]

theorem preparationMs_nonneg (policy : RoutingPolicy) (preparationElapsedMs : Int) : 0 ≤ preparationMs policy preparationElapsedMs := by
  unfold preparationMs
  omega

end WindowAux

/-- A call without a latency limit, whose whole slack may be spent on other providers. -/
def eagerArguments : SelectArguments where
  intent := (exampleArguments none).intent
  candidates := [exampleCandidate]
  cache := (exampleArguments none).cache
  budget := (exampleArguments none).budget
  policy :=
    { providerExplorationFraction := 1
      validate_optional_cost := OperatingPolicy.noCostLimit_valid
      validate_optional_latency := OperatingPolicy.noLatencyLimit_valid
      validate_priority := RoutingPolicy.defaultPriority_valid
      validate_fraction := by norm_num }

namespace WindowAux

theorem startWithinMs_nonneg (policy : RoutingPolicy) (total : Int) (guaranteed : ProviderRoute) :
    0 ≤ startWithinMs policy total guaranteed := by
  rw [startWithinMs_eq]
  exact le_min (Int.natCast_nonneg _) (slackPart_nonneg policy guaranteed total)

end WindowAux

/-- The plan prices every route of a decision as the selection that made it, from the same cache value and the same prediction. So the
cheapest route of a plan that pins nothing is the selected one: a plan with a deadline starts with it, and a plan of one other route has
no window to try it in. -/
theorem selected_route_first {rank : Ranker} {args : SelectArguments} {decisions : List RouterDecision} {decision : RouterDecision}
    (hselect : selectRanked rank args = .ok decisions) (hdecision : decision ∈ decisions) :
    args.cache.values.lookup decision.candidate.modelId = some decision.cacheValue ∧
      args.intent.predictedOutputTokens = some decision.predictedOutputTokens ∧
      (∀ route, routeCost route decision args.cache args.budget =
        args.predictedCost decision.cacheValue decision.predictedOutputTokens route) ∧
      ∀ (policy : RoutingPolicy) (preparationElapsedMs : Int) (routingPlan : ProviderRoutingPlan),
        plan decision args.cache args.budget policy preparationElapsedMs = .ok routingPlan → routingPlan.mode ≠ .sticky →
        decision.candidate.routes.argmin (costKey fun route => routeCost route decision args.cache args.budget) =
            some decision.route ∧
          (routingPlan.mode = .deadline → routingPlan.routes.head? = some decision.route) ∧
          ∀ route, routingPlan.routes = [route] → route ≠ decision.route →
            routingPlan.startWithinMs = 0 ∧ startWithinMs policy routingPlan.totalTimeoutMs route = 0 := by
  have hchosen := chosen_of_selectRanked hselect hdecision
  have hfirst := cheapest_eq (selected_of_selectRanked hselect hdecision)
  refine ⟨hchosen.eligible.cacheValue, hchosen.predicted, fun route => routeCost_eq route, ?_⟩
  intro policy preparationElapsedMs routingPlan hplan hmode
  obtain ⟨cheapest, guaranteed, total, hopened⟩ := opened_of_plan hplan hmode
  have hcheapest := hopened.isCheapest
  rw [hfirst] at hcheapest
  obtain rfl := Option.some.inj hcheapest
  have hform := hopened.isPlan
  subst hform
  refine ⟨hfirst, ?_⟩
  rcases openPlan_cases decision args.budget policy decision.route guaranteed total with
    ⟨hwhy, hdirect, hroutes, hstart⟩ | ⟨hne, hpos, hdeadline, hroutes, -⟩
  · refine ⟨fun hmode => absurd (hdirect.symm.trans hmode) nofun, ?_⟩
    intro route hroute hother
    rw [hroutes] at hroute
    obtain rfl := (List.singleton_inj.1 hroute)
    have hids : decision.route.routeId ≠ guaranteed.routeId := by
      intro hsame
      exact hother (List.inj_on_of_nodup_map decision.candidate.validate_routes.2 (List.argmin_mem hfirst)
        (mem_of_guaranteedRoute hopened.isGuaranteed) hsame).symm
    rw [(openPlan_timeouts decision args.budget policy decision.route guaranteed total).1]
    exact ⟨hstart, le_antisymm (hwhy.resolve_left hids) (startWithinMs_nonneg policy total guaranteed)⟩
  · refine ⟨fun _ => by rw [hroutes]; rfl, ?_⟩
    intro route hroute
    rw [hroutes] at hroute
    have hlength := congrArg List.length hroute
    simp at hlength

/-- The selected route of a call that is not pinned is tried first. -/
theorem selected_route_first_example : ∃ decisions decision routingPlan,
    selectRanked suppliedRank (exampleArguments none) = .ok decisions ∧ decision ∈ decisions ∧
      plan decision (exampleArguments none).cache (exampleArguments none).budget (exampleArguments none).policy = .ok routingPlan ∧
      routingPlan.routes.head? = some decision.route := by
  obtain ⟨decisions, decision, routingPlan, hselect, hdecision, hplan, hmode⟩ :=
    somePlan_spec (exampleArguments none) (p := fun _ routingPlan => decide (routingPlan.mode = .deadline)) (by decide +kernel)
  have hdeadline := of_decide_eq_true hmode
  obtain ⟨-, -, -, hplans⟩ := selected_route_first hselect hdecision
  obtain ⟨-, hstarts, -⟩ := hplans _ 0 routingPlan hplan (by rw [hdeadline]; exact nofun)
  exact ⟨decisions, decision, routingPlan, hselect, hdecision, hplan, hstarts hdeadline⟩

end Routing

end PromptRail
