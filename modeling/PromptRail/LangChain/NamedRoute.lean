import PromptRail.LangChain
import PromptRail.Gateway.Rewritten

/-!
# The route that a response names

A response names the route it ran on, the extractor keeps the provider of that route, and the settlement looks up the first route of
that provider. A model may have several routes of one provider, and then the call is settled at the prices of another route than its own
unless the two are alike.
-/

namespace PromptRail

open PyText (Text casefold)
open Json (Value Fields get?)
open Outcome (bind_ok)
open PromptCacheCoordinator (promoted)
open Gateway
open Routing (CallIntent)

namespace LangChain

/-- A response that names a route by its identifier. -/
def NamesRoute (env : Env) (response : ModelResponse) (route : ProviderRoute) : Prop :=
  ∃ message, response.result.reverse.findSome? id = some message ∧
    ∃ mapping ∈ metadataMappings message.responseMetadata,
      normalizedText env mapping "x-promptrail-route-id" = some route.routeId.toList

/-- Two routes settle a call alike: at the same prices and, where a prefix was offered, with the same cache. -/
structure SettlesAlike (call : PreparedCall) (route route' : ProviderRoute) : Prop where
  input : route.inputPricePerMillion = route'.inputPricePerMillion
  output : route.outputPricePerMillion = route'.outputPricePerMillion
  cacheRead : route.cacheReadPricePerMillion.getD route.inputPricePerMillion =
    route'.cacheReadPricePerMillion.getD route'.inputPricePerMillion
  cacheWrite : route.cacheWritePricePerMillion.getD route.inputPricePerMillion =
    route'.cacheWritePricePerMillion.getD route'.inputPricePerMillion
  cache : call.cache.prefixHash ≠ none →
    route.cacheSupported = route'.cacheSupported ∧ (route'.cacheSupported = true → route.cacheTtlSeconds = route'.cacheTtlSeconds)

namespace NamedRouteAux

variable {env : Env} {float : String → Option ℚ} {call : PreparedCall} {route first : ProviderRoute} {usage : ModelUsage}

/-! ## What the extractor keeps of a route -/

theorem routeById_eq {routes : List ProviderRoute} (hroute : route ∈ routes)
    (hunique : ∀ other ∈ routes, other.routeId = route.routeId → other = route) :
    routeById routes route.routeId.toList = some route := by
  unfold routeById
  cases hfind : routes.reverse.find? fun other => other.routeId.toList == route.routeId.toList with
  | none => exact absurd (List.find?_eq_none.1 hfind route (List.mem_reverse.2 hroute)) (by simp)
  | some other =>
    have hid := List.find?_some hfind
    rw [beq_iff_eq, String.toList_inj] at hid
    rw [hunique other (List.mem_reverse.1 (List.mem_of_find?_eq_some hfind)) hid]

/-- Where no two values differ, all are one. -/
theorem eq_of_dedup_length {α : Type} [DecidableEq α] {l : List α} (h : ¬1 < l.dedup.length) {a b : α} (ha : a ∈ l) (hb : b ∈ l) :
    a = b := by
  rw [← List.mem_dedup] at ha hb
  match hl : l.dedup with
  | [] => rw [hl] at ha; cases ha
  | [c] =>
    rw [hl, List.mem_singleton] at ha hb
    rw [ha, hb]
  | _ :: _ :: _ => exact absurd (by simp [hl]) h

/-- The routes that the metadata names are routes of the plan. -/
theorem mem_of_routeMatches {routes : List ProviderRoute} {metadata : Fields} {other : ProviderRoute}
    (h : other ∈ routeMatches env routes metadata) : other ∈ routes := by
  obtain ⟨mapping, -, hkey⟩ := List.mem_flatMap.1 h
  obtain ⟨key, -, hbind⟩ := List.mem_filterMap.1 hkey
  obtain ⟨text, -, hfind⟩ := Option.bind_eq_some_iff.1 hbind
  exact List.mem_reverse.1 (List.mem_of_find?_eq_some hfind)

/-- The provider of a response that names a route is the one of that route. -/
theorem provider_of_named {metadata : Fields} {provider : String} (hroute : route ∈ call.provider.routes)
    (hunique : ∀ other ∈ call.provider.routes, other.routeId = route.routeId → other = route)
    (hnamed : ∃ mapping ∈ metadataMappings metadata,
      normalizedText env mapping "x-promptrail-route-id" = some route.routeId.toList)
    (h : providerOf env call metadata = .ok provider) : provider = route.provider := by
  have hmatch : route ∈ routeMatches env call.provider.routes metadata := by
    obtain ⟨mapping, hmapping, htext⟩ := hnamed
    refine List.mem_flatMap.2 ⟨mapping, hmapping, List.mem_filterMap.2 ⟨"x-promptrail-route-id", by simp, ?_⟩⟩
    rw [htext]
    exact routeById_eq hroute hunique
  unfold providerOf at h
  dsimp only at h
  split at h
  · cases h
  · rename_i hagree
    rw [not_or] at hagree
    have hsame : ∀ other ∈ routeMatches env call.provider.routes metadata, other = route := fun other hother =>
      hunique other (mem_of_routeMatches hother) (eq_of_dedup_length hagree.1 (List.mem_map_of_mem hother) (List.mem_map_of_mem hmatch))
    cases hmatches : routeMatches env call.provider.routes metadata with
    | nil =>
      rw [hmatches] at hmatch
      cases hmatch
    | cons matched rest =>
      rw [hsame matched (by rw [hmatches]; exact List.mem_cons_self)] at hmatches
      rw [hmatches] at h
      dsimp only at h
      split at h
      · cases h
      · exact (Except.ok.inj h).symm

/-- What an extraction says of the model, the provider and the route. -/
theorem usage_of_named {response : ModelResponse} {latency : Nat} (hroute : route ∈ call.provider.routes)
    (hunique : ∀ other ∈ call.provider.routes, other.routeId = route.routeId → other = route)
    (hnamed : NamesRoute env response route) (h : extractUsage env float call response latency = .ok usage) :
    usage.modelId = call.model.candidate.modelId ∧ usage.provider = route.provider := by
  obtain ⟨message, hmessage, hmapping⟩ := hnamed
  unfold extractUsage at h
  rw [hmessage] at h
  dsimp only at h
  obtain ⟨tokens, -, h⟩ := bind_ok h
  obtain ⟨provider, hprovider, h⟩ := bind_ok h
  obtain ⟨cost, -, h⟩ := bind_ok h
  cases h
  exact ⟨rfl, provider_of_named hroute hunique hmapping hprovider⟩

/-! ## Routes that settle alike -/

theorem usageCost_congr (h : SettlesAlike call first route) (usage : ModelUsage) : usageCost usage first = usageCost usage route := by
  unfold usageCost
  rw [h.cacheRead, h.cacheWrite, h.input, h.output]

theorem prefixHash_eq_none {messages tools : List Message} {count : Nat} :
    prefixHash env messages count tools = none ↔ count ≤ 0 ∧ tools.isEmpty := by
  unfold prefixHash
  split
  · rename_i hnone
    exact iff_of_true rfl hnone
  · rename_i hsome
    exact iff_of_false (by simp) hsome

/-- What is observed offers a prefix exactly when the call did. -/
theorem offered_of_observation {g : PromptRailGateway} {analysis : CacheAnalysis} (hcall : RewrittenAux.Compacted env call)
    (h : (g.cacheObservation env call).1 = .ok analysis) :
    (analysis.prefixHash = none ↔ call.cache.prefixHash = none) ∧
      ∃ messages count, analysis.prefixHash = prefixHash env messages count call.intent.tools := by
  unfold PromptRailGateway.cacheObservation at h
  split at h
  · cases h
    exact ⟨Iff.rfl, _, _, hcall.offered⟩
  · split at h
    · cases h
    · obtain ⟨indices, -, hanalysis⟩ := PromptCacheCoordinator.analyze_ok (FitsAux.of_ofPython h)
      have hhash : analysis.prefixHash = prefixHash env call.compaction.messages
          (proposedPrefixCount env call.compaction.messages) call.intent.tools := by
        rw [hanalysis]
        rfl
      refine ⟨?_, _, _, hhash⟩
      rw [hhash, hcall.offered, prefixHash_eq_none, prefixHash_eq_none, RewrittenAux.proposedPrefixCount_congr hcall.layout]

/-- Of two routes that settle alike, an observation promotes the same. -/
theorem promoted_congr (h : SettlesAlike call first route) {analysis : CacheAnalysis}
    (hoffered : analysis.prefixHash = none ↔ call.cache.prefixHash = none) (now : Int) (usage : ModelUsage) :
    promoted now analysis first usage = promoted now analysis route usage := by
  unfold promoted
  cases hhash : analysis.prefixHash with
  | none => rfl
  | some offered =>
    have hcalled : call.cache.prefixHash ≠ none := fun hnone => by simp [hoffered.2 hnone] at hhash
    obtain ⟨hsupported, httl⟩ := h.cache hcalled
    cases hroute : route.cacheSupported with
    | false => simp [hsupported, hroute]
    | true => simp [hsupported, hroute, httl hroute]

theorem observeOn_congr (h : SettlesAlike call first route) (hcall : RewrittenAux.Compacted env call) (g : PromptRailGateway)
    (usage : ModelUsage) : g.observeOn env call usage first = g.observeOn env call usage route := by
  have hcache : ∀ (g : PromptRailGateway) (snapshot : RunSnapshot),
      g.observeCache env call usage first snapshot = g.observeCache env call usage route snapshot := by
    intro g snapshot
    unfold PromptRailGateway.observeCache
    cases hanalysis : (g.cacheObservation env call).1 with
    | error e => simp only [hanalysis]
    | ok analysis =>
      have hpromoted := promoted_congr h (offered_of_observation hcall hanalysis).1 g.now (cacheUsage call usage)
      simp only [hanalysis, PromptCacheCoordinator.observe, hpromoted]
  unfold PromptRailGateway.observeOn
  simp only [usageCost_congr h, hcache]

/-- The routes of a plan differ in their identifiers, since those of a model do. -/
theorem unique_of_chain {plannerKept kept : Nat} {runs : RunId → Option RunConfiguration} {runId : RunId} {intent : CallIntent}
    {awaited : Awaited} {prepared : PreparedCall} {reroutes : List Reroute}
    (hprepare : prepareCall env plannerKept kept runs runId intent awaited = .ok prepared)
    (hreroute : rerouteChain prepared reroutes = .ok call) (hroute : route ∈ call.provider.routes) :
    ∀ other ∈ call.provider.routes, other.routeId = route.routeId → other = route := by
  obtain ⟨configuration, hrun⟩ := FitsAux.known_of_prepareCall hprepare
  have hready : FitsAux.Ready configuration.policy intent call :=
    Outcome.foldlM_inv (fun _ _ _ hready' hturn => FitsAux.ready_of_reroute hready' hturn) (FitsAux.ready_of_prepareCall hrun hprepare)
      hreroute
  intro other hother hid
  exact List.inj_on_of_nodup_map call.model.candidate.validate_routes.2 (hready.routes other hother) (hready.routes route hroute) hid

/-- The settlement looks up the first route of the provider. -/
theorem observeModel_of_first (g : PromptRailGateway) (usage : ModelUsage) (hmodel : usage.modelId = call.model.candidate.modelId)
    (hprovider : usage.provider = route.provider)
    (hfirst : call.provider.routes.find? (fun other => other.provider = route.provider) = some first) :
    g.observeModel env call usage = g.observeOn env call usage first := by
  unfold PromptRailGateway.observeModel
  rw [if_neg (not_not.2 hmodel), hprovider, hfirst]

/-! ## A call to settle -/

open FitsAux (twoModels)

/-- The call is reserved in a run without limits. -/
def reservedFor (call : PreparedCall) : PromptRailGateway where
  system :=
    { controller :=
        { allocatorModelId := "gemma"
          runs := fun r =>
            if r = call.budget.runId then
              some
                { runId := call.budget.runId
                  sessionId := call.intent.sessionId
                  policy := twoModels.policy.toOperatingPolicy
                  reserved := Table.ofList [(call.budget.callId, call.budget)]
                  startedAt := 0 }
            else none } }
  runs := fun _ => some twoModels

/-- A response that names a route, with the tokens it reports. -/
def naming (route : ProviderRoute) (tokens : TokenCounts) : ModelResponse where
  result :=
    [some
      { responseMetadata := [("x-promptrail-route-id", .str route.routeId.toList)]
        usageMetadata := some
          { inputTokens := some (.int tokens.input)
            outputTokens := some (.int tokens.output)
            inputTokenDetails := [("cache_read", .int tokens.cacheRead), ("cache_creation", .int tokens.cacheWrite)] } }]

/-- What the extractor makes of such a response. -/
def reported (call : PreparedCall) (route : ProviderRoute) (tokens : TokenCounts) : ModelUsage where
  inputTokens := tokens.input
  outputTokens := tokens.output
  latencyMs := 0
  provider := route.provider
  modelId := call.model.candidate.modelId
  cacheReadTokens := tokens.cacheRead
  cacheWriteTokens := tokens.cacheWrite

theorem normalizedText_own (env : Env) {id : String} (text : Text) (h : casefold id.toList = id.toList) :
    normalizedText env [(id, .str text)] id = some text := by
  simp [normalizedText, h, Env.str]

theorem normalizedText_other (env : Env) {id key : String} (h : casefold id.toList ≠ key.toList) (value : Value) :
    normalizedText env [(id, value)] key = none := by
  simp [normalizedText, h]

theorem namesRoute_naming (env : Env) (route : ProviderRoute) (tokens : TokenCounts) : NamesRoute env (naming route tokens) route :=
  ⟨_, rfl, _, List.mem_cons_self, normalizedText_own env _ (by decide)⟩

theorem providerOf_naming (env : Env) (hroute : route ∈ call.provider.routes)
    (hunique : ∀ other ∈ call.provider.routes, other.routeId = route.routeId → other = route) :
    providerOf env call [("x-promptrail-route-id", .str route.routeId.toList)] = .ok route.provider := by
  have hmappings : metadataMappings [("x-promptrail-route-id", .str route.routeId.toList)] =
      [[("x-promptrail-route-id", .str route.routeId.toList)]] := rfl
  have hown := normalizedText_own env route.routeId.toList
    (show casefold "x-promptrail-route-id".toList = "x-promptrail-route-id".toList by decide)
  have hother : ∀ key ∈ ["route_id", "x-promptrail-provider", "provider", "provider_name", "model_provider"],
      normalizedText env [("x-promptrail-route-id", .str route.routeId.toList)] key = none := by
    intro key hkey
    have hdiffers : ∀ key ∈ ["route_id", "x-promptrail-provider", "provider", "provider_name", "model_provider"],
        casefold "x-promptrail-route-id".toList ≠ key.toList := by decide
    exact normalizedText_other env (hdiffers key hkey) _
  have hroutes : routeMatches env call.provider.routes [("x-promptrail-route-id", .str route.routeId.toList)] = [route] := by
    simp [routeMatches, hmappings, hown, hother, routeById_eq hroute hunique]
  have hproviders : providerMatches env call.provider.routes [("x-promptrail-route-id", .str route.routeId.toList)] = [] := by
    simp [providerMatches, hmappings, hother]
  unfold providerOf
  rw [hroutes, hproviders]
  simp

theorem extractUsage_naming (float : String → Option ℚ) (tokens : TokenCounts) (hroute : route ∈ call.provider.routes)
    (hunique : ∀ other ∈ call.provider.routes, other.routeId = route.routeId → other = route) :
    extractUsage env float call (naming route tokens) 0 = .ok (reported call route tokens) := by
  have hprovider := providerOf_naming env hroute hunique
  unfold extractUsage
  simp only [naming, List.reverse_cons, List.reverse_nil, List.nil_append, List.findSome?_cons, id, hprovider]
  rfl

/-- A settlement that breaks no limit is accepted, and the run has spent its cost. -/
theorem settleCall_of_unlimited {run : Run} {now : Int} {callId : CallId} {budget : CallBudget} {cost : ℚ} {latency : Nat}
    (hcost : 0 ≤ cost) (hactive : run.status = .active) (hreserved : run.reserved.lookup callId = some budget)
    (hfree : ∀ spent elapsed, settlementViolations run.policy spent cost latency elapsed = []) :
    (∃ snapshot, (run.settleCall now callId cost latency).1 = .ok snapshot) ∧
      (run.settleCall now callId cost latency).2.spentCostUsd = run.spentCostUsd + cost := by
  unfold Run.settleCall
  rw [if_neg (not_lt.2 hcost), if_neg (by omega), if_neg (not_not.2 hactive)]
  simp [hreserved, hfree]

/-- The run in which the call is reserved. -/
theorem run_reservedFor (call : PreparedCall) : ∃ run, (reservedFor call).system.controller.runs call.budget.runId = some run ∧
    run.status = .active ∧ run.reserved.lookup call.budget.callId = some call.budget ∧ run.spentCostUsd = 0 ∧
    ∀ cost latency spent elapsed, settlementViolations run.policy spent cost latency elapsed = [] := by
  exact ⟨_, if_pos rfl, rfl, AList.lookup_insert ∅, rfl, fun _ _ _ _ => rfl⟩

/-- The observation of the call, which no settlement changes. -/
theorem observation_reservedFor (hcall : RewrittenAux.Compacted env call) :
    ∃ analysis, ((reservedFor call).cacheObservation env call).1 = .ok analysis ∧
      (((reservedFor call).cacheObservation env call).2.sessionAt call.intent.sessionId 0).record = none := by
  by_cases hcut : call.compactedIndices = []
  · have hsame : (reservedFor call).cacheObservation env call = (.ok call.cache, {}) := by
      unfold PromptRailGateway.cacheObservation
      rw [if_pos (by simp [hcut])]
      rfl
    rw [hsame]
    exact ⟨_, rfl, rfl⟩
  · obtain ⟨analysis, hok, -, -, hlive⟩ := RewrittenAux.cacheObservation_ok (g := reservedFor call) hcall hcut rfl
    exact ⟨analysis, hok, hlive⟩

/-- What the settlement on a route leaves: the cost at its prices, and the prefix with its cache. -/
theorem observeOn_reservedFor (hcall : RewrittenAux.Compacted env call) (usage : ModelUsage) (hcost : usage.costUsd = none) :
    ∃ analysis, ((reservedFor call).cacheObservation env call).1 = .ok analysis ∧ ∀ route,
      (((reservedFor call).observeOn env call usage route).2.system.controller.runs call.budget.runId).map (·.spentCostUsd) =
        some (usageCost usage route) ∧
      ((reservedFor call).observeOn env call usage route).2.liveRecord call.intent.sessionId =
        promoted 0 analysis route (cacheUsage call usage) := by
  obtain ⟨analysis, hok, hempty⟩ := observation_reservedFor hcall
  obtain ⟨run, hrun, hactive, hreserved, hspent, hfree⟩ := run_reservedFor call
  refine ⟨analysis, hok, fun route => ?_⟩
  obtain ⟨⟨snapshot, hsnapshot⟩, hcharged⟩ := @settleCall_of_unlimited run 0 call.budget.callId call.budget (usageCost usage route)
    (usage.latencyMs + call.preparationLatencyMs) (usageCost_nonneg usage route) hactive hreserved (hfree _ _)
  have hsettled : (reservedFor call).system.controller.settleCall call.budget.runId call.budget.callId (usageCost usage route)
      (usage.latencyMs + call.preparationLatencyMs) =
      (.ok snapshot, (reservedFor call).system.controller.setRun call.budget.runId (run.settleCall 0 call.budget.callId
        (usageCost usage route) (usage.latencyMs + call.preparationLatencyMs : Nat)).2) := by
    unfold GlobalController.settleCall GlobalController.onRun
    rw [hrun, ← hsnapshot]
    rfl
  unfold PromptRailGateway.observeOn
  rw [hcost]
  dsimp only [Option.getD_none]
  rw [hsettled]
  dsimp only
  have hsame : ∀ controller : GlobalController, controller.now = 0 →
      { reservedFor call with system := { (reservedFor call).system with controller } }.cacheObservation env call =
        (reservedFor call).cacheObservation env call := by
    intro controller hnow
    unfold PromptRailGateway.cacheObservation PromptRailGateway.now
    rw [hnow]
    rfl
  unfold PromptRailGateway.observeCache
  rw [hsame _ rfl]
  dsimp only
  rw [hok]
  refine ⟨?_, ?_⟩
  · simp only [GlobalController.setRun, Function.update_self, Option.map_some, hcharged, hspent, zero_add]
  · have hlive := RewrittenAux.live_of_observe ((reservedFor call).cacheObservation env call).2 0 call.intent.sessionId analysis route
      (cacheUsage call usage)
    rw [hempty, Option.or_none] at hlive
    exact hlive

/-- Routes that settle every report of a call alike are alike. -/
theorem settlesAlike_of_observed (hdigest : ∀ t, env.sha256 t ≠ []) (hcall : RewrittenAux.Compacted env call)
    (h : ∀ tokens, (reservedFor call).observeOn env call (reported call route tokens) first =
      (reservedFor call).observeOn env call (reported call route tokens) route) : SettlesAlike call first route := by
  have hcost : ∀ tokens, usageCost (reported call route tokens) first = usageCost (reported call route tokens) route := by
    intro tokens
    obtain ⟨analysis, -, hleft⟩ := observeOn_reservedFor hcall (reported call route tokens) rfl
    have hfirst := (hleft first).1
    rw [h tokens] at hfirst
    exact Option.some.inj (hfirst.symm.trans (hleft route).1)
  have houtput := hcost ⟨0, 1000000, 0, 0⟩
  have hinput := hcost ⟨1000000, 0, 0, 0⟩
  have hread := hcost ⟨1000000, 0, 1000000, 0⟩
  have hwrite := hcost ⟨1000000, 0, 0, 1000000⟩
  norm_num [usageCost, reported] at houtput hinput hread hwrite
  refine ⟨hinput, houtput, hread, hwrite, fun hoffered => ?_⟩
  obtain ⟨analysis, hok, hleft⟩ := observeOn_reservedFor hcall (reported call route ⟨0, 0, 0, 1⟩) rfl
  have hpromoted := (hleft first).2
  rw [h ⟨0, 0, 0, 1⟩, (hleft route).2] at hpromoted
  obtain ⟨hsame, messages, count, hhash⟩ := offered_of_observation hcall hok
  have hwritten : 0 < (cacheUsage call (reported call route ⟨0, 0, 0, 1⟩)).cacheWriteTokens := by
    unfold cacheUsage
    split <;> exact Nat.one_pos
  obtain ⟨offered, hkey⟩ := Option.ne_none_iff_exists'.1 fun hnone => hoffered (hsame.1 hnone)
  have hnonempty : offered.isEmpty = false := by
    unfold prefixHash at hhash
    split at hhash
    · rw [hkey] at hhash
      cases hhash
    · rw [hkey] at hhash
      rw [Option.some.inj hhash, List.isEmpty_eq_false_iff]
      exact hdigest _
  unfold promoted at hpromoted
  rw [hkey] at hpromoted
  simp only [hnonempty, hwritten] at hpromoted
  cases hsupported : route.cacheSupported <;> cases hfirst : first.cacheSupported <;> simp [hsupported, hfirst] at hpromoted ⊢
  exact hpromoted.symm

end NamedRouteAux

open NamedRouteAux

/-- A response that names a route settles the call on that route, whatever it reports and wherever the call is reserved, exactly when
the first route of the same provider settles alike. -/
theorem settles_named_route_iff (env : Env) (hdigest : ∀ t, env.sha256 t ≠ []) (float : String → Option ℚ)
    (plannerKeptTokens minimumKeptTokens : Nat) (runs : RunId → Option RunConfiguration) (runId : RunId) (intent : CallIntent)
    (awaited : Awaited) (prepared : PreparedCall) (reroutes : List Reroute) (call : PreparedCall) (route : ProviderRoute)
    (hprepare : prepareCall env plannerKeptTokens minimumKeptTokens runs runId intent awaited = .ok prepared)
    (hreroute : rerouteChain prepared reroutes = .ok call) (hroute : route ∈ call.provider.routes) :
    (∀ (g : PromptRailGateway) (response : ModelResponse) (latencyMs : Nat) (usage : ModelUsage), NamesRoute env response route →
      extractUsage env float call response latencyMs = .ok usage → usage.costUsd = none →
      g.observeModel env call usage = g.observeOn env call usage route) ↔
    ∀ first, call.provider.routes.find? (fun other => other.provider = route.provider) = some first →
      SettlesAlike call first route := by
  have hcall := RewrittenAux.compacted_of_chain (RewrittenAux.compacted_of_prepareCall hprepare) hreroute
  have hunique := unique_of_chain hprepare hreroute hroute
  constructor
  · intro h first hfirst
    refine settlesAlike_of_observed hdigest hcall fun tokens => ?_
    rw [← observeModel_of_first (reservedFor call) (reported call route tokens) rfl rfl hfirst]
    exact h (reservedFor call) (naming route tokens) 0 _ (namesRoute_naming env route tokens)
      (extractUsage_naming float tokens hroute hunique) rfl
  · intro h g response latencyMs usage hnamed husage hcost
    obtain ⟨hmodel, hprovider⟩ := usage_of_named hroute hunique hnamed husage
    cases hfirst : call.provider.routes.find? fun other => other.provider = route.provider with
    | none => exact absurd (List.find?_eq_none.1 hfirst route hroute) (by simp)
    | some first => rw [observeModel_of_first g usage hmodel hprovider hfirst, observeOn_congr (h first hfirst) hcall]

/-! ## Two routes of one provider -/

namespace NamedRouteAux

open FitsAux (twoModels windowed)

/-- The capacity that a provider sells cheaply, and slowly. -/
def spotRoute : ProviderRoute where
  routeId := "spot"
  provider := "first"
  inputPricePerMillion := 1
  outputPricePerMillion := 2
  p95TtftMs := 10
  p95TotalLatencyMs := 80
  validate_price := ProviderRoute.readWritePrice_valid
  validate_route_duration := by decide
  validate_latency_order := by decide

/-- The capacity that the same provider guarantees, at three times the price. -/
def reservedRoute : ProviderRoute where
  routeId := "reserved"
  provider := "first"
  inputPricePerMillion := 3
  outputPricePerMillion := 6
  p95TtftMs := 10
  p95TotalLatencyMs := 20
  guaranteed := true
  validate_price := by
    refine ⟨by decide, by decide, ?_⟩
    rintro p (h | h) <;> cases h
  validate_route_duration := ProviderRoute.quickDuration_valid
  validate_latency_order := ProviderRoute.quickLatency_valid

/-- One model with both routes. -/
def bothRoutes : RunConfiguration :=
  { twoModels with
    candidates :=
      [{ windowed "small" 1 FitsAux.fullScore_valid with
        routes := [spotRoute, reservedRoute]
        validate_routes := by simp [spotRoute, reservedRoute] }] }

end NamedRouteAux

open FitsAux (allocating onlyRun)
open RewrittenAux (followUpEnv followUpIntent oneRoute digest_followUpEnv)

/-- With one route there is no other to be settled at. -/
theorem settles_only_route : ∃ call,
    prepareCall followUpEnv 32 32 (onlyRun (oneRoute FloorAux.onlyRoute)) 0 followUpIntent allocating = .ok call ∧
    ∃ route ∈ call.provider.routes, (reservedFor call).observeModel followUpEnv call (reported call route ⟨130, 5, 0, 0⟩) =
      (reservedFor call).observeOn followUpEnv call (reported call route ⟨130, 5, 0, 0⟩) route := by
  obtain ⟨call, hprepare, hcall⟩ := @RewrittenAux.somePrepared_spec FloorAux.onlyRoute
    (fun call => call.provider.routes.length == 1) (by decide +kernel)
  obtain ⟨route, hroutes⟩ := List.length_eq_one_iff.1 (beq_iff_eq.1 hcall)
  have hroute : route ∈ call.provider.routes := by simp [hroutes]
  have hunique : ∀ other ∈ call.provider.routes, other.routeId = route.routeId → other = route := by
    intro other hother _
    simpa [hroutes] using hother
  refine ⟨call, hprepare, route, hroute, ?_⟩
  refine (settles_named_route_iff followUpEnv digest_followUpEnv (fun _ => none) 32 32 _ 0 followUpIntent allocating call [] call route
    hprepare rfl hroute).2 (fun first hfirst => ?_) (reservedFor call) (naming route ⟨130, 5, 0, 0⟩) 0 _
    (namesRoute_naming _ _ _) (extractUsage_naming _ _ hroute hunique) rfl
  obtain rfl : first = route := by simpa [hroutes] using List.mem_of_find?_eq_some hfirst
  exact ⟨rfl, rfl, rfl, rfl, fun _ => ⟨rfl, fun _ => rfl⟩⟩

/-- A million tokens on the guaranteed route are settled at the price of the spot route, a third of its own. -/
theorem named_route_underpriced : ¬ ∀ (env : Env) (float : String → Option ℚ) (plannerKeptTokens minimumKeptTokens : Nat)
    (runs : RunId → Option RunConfiguration) (runId : RunId) (intent : CallIntent) (awaited : Awaited) (call : PreparedCall)
    (route : ProviderRoute) (g : PromptRailGateway) (response : ModelResponse) (latencyMs : Nat) (usage : ModelUsage),
    prepareCall env plannerKeptTokens minimumKeptTokens runs runId intent awaited = .ok call → route ∈ call.provider.routes →
    NamesRoute env response route → extractUsage env float call response latencyMs = .ok usage → usage.costUsd = none →
    g.observeModel env call usage = g.observeOn env call usage route := by
  intro h
  have hrun : (prepareCall followUpEnv 32 32 (onlyRun bothRoutes) 0 followUpIntent allocating).toOption.any (fun call =>
      (call.provider.routes.find? fun route => route.provider = "first").any (fun first => first.inputPricePerMillion == 1) &&
      call.provider.routes.any fun route => route.provider == "first" && route.inputPricePerMillion == 3) = true := by
    decide +kernel
  obtain ⟨call, hprepare, hcall⟩ := Outcome.ok_of_any hrun
  obtain ⟨hcheap, hdear⟩ := (Bool.and_eq_true _ _).mp hcall
  obtain ⟨first, hfirst, hone⟩ := (Option.any_eq_true _ _).1 hcheap
  obtain ⟨route, hroute, hthree⟩ := List.any_eq_true.1 hdear
  rw [Bool.and_eq_true, beq_iff_eq, beq_iff_eq] at hthree
  rw [beq_iff_eq] at hone
  have hunique := unique_of_chain hprepare (show rerouteChain call [] = .ok call from rfl) hroute
  have hsettled := h followUpEnv (fun _ => none) 32 32 _ 0 followUpIntent allocating call route (reservedFor call)
    (naming route ⟨1000000, 0, 0, 0⟩) 0 _ hprepare hroute (namesRoute_naming _ _ _) (extractUsage_naming _ _ hroute hunique) rfl
  rw [← hthree.1] at hfirst
  rw [observeModel_of_first (reservedFor call) (reported call route ⟨1000000, 0, 0, 0⟩) rfl rfl hfirst] at hsettled
  obtain ⟨analysis, -, hleft⟩ := observeOn_reservedFor (RewrittenAux.compacted_of_prepareCall hprepare)
    (reported call route ⟨1000000, 0, 0, 0⟩) rfl
  have hcost := (hleft first).1
  rw [hsettled, (hleft route).1] at hcost
  norm_num [usageCost, reported, hone, hthree.2] at hcost

end LangChain

end PromptRail
