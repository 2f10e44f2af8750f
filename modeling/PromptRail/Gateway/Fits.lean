import PromptRail.Gateway.Call
import PromptRail.Routing.Authorised
import PromptRail.Compaction.Floor

/-!
# Prepared calls fit

The selection leaves room in the window for the required context and the predicted output. The target of the compaction is at most the
required context, once the gateway has raised that to the floor, and a call is prepared only where the target is met. Nothing of this
depends on which of the ranked models the call runs on, so it survives any failover.
-/

namespace PromptRail

open Outcome (bind_ok check_ok_iff map_ok foldlM_inv)
open Routing (CallIntent RouterDecision RoutingError RoutingPolicy ProviderRoutingPlan minimumQuality)

namespace Gateway

/-- A prepared call fits its model, and its plan is one of that model. -/
structure Fits (policy : RoutingPolicy) (intent : CallIntent) (prepared : PreparedCall) : Prop where
  window : prepared.compaction.tokensAfter + prepared.predictedOutputTokens ≤ prepared.model.candidate.contextWindowTokens
  capabilities : intent.requiredCapabilities ⊆ prepared.model.candidate.capabilities
  quality : minimumQuality intent.task policy ≤ prepared.model.candidate.quality
  modelId : prepared.provider.modelId = prepared.model.candidate.modelId
  routes : ∀ route ∈ prepared.provider.routes, route ∈ prepared.model.candidate.routes

/-- A call of `reroute_prepared`, with the configurations it finds. -/
structure Reroute where
  runs : RunId → Option RunConfiguration
  excludedModelIds : Finset String
  additionalElapsedMs : Int

/-- A chain of reroutes. -/
def rerouteChain (prepared : PreparedCall) (reroutes : List Reroute) : Except GatewayError PreparedCall :=
  reroutes.foldlM (fun prepared r => reroutePrepared r.runs prepared r.excludedModelIds r.additionalElapsedMs) prepared

namespace FitsAux

variable {env : Env} {plannerKept kept : Nat} {policy : RoutingPolicy} {intent : CallIntent} {prepared : PreparedCall}
variable {decision : RouterDecision} {cache : CacheAnalysis} {budget : CallBudget}

theorem of_ofPython {α : Type} {x : Except PyError α} {a : α} (h : ofPython x = .ok a) : x = .ok a := by
  cases x with
  | error e => cases h
  | ok b =>
    cases h
    rfl

theorem of_ofRouting {α : Type} {x : Except RoutingError α} {a : α} (h : ofRouting x = .ok a) : x = .ok a := by
  cases x with
  | error e => cases h
  | ok b =>
    cases h
    rfl

/-- What a prepared call was made of. -/
structure PreparedFrom (env : Env) (plannerKept kept : Nat) (configuration : RunConfiguration) (intent : CallIntent)
    (awaited : Awaited) (call : PreparedCall) : Prop where
  prediction : ∃ prediction, predictOutput awaited.predictor intent = .ok prediction ∧
    call.intent = resolveIntent intent prediction ∧ call.predictedOutputTokens = prediction.predictedTokens
  analysis : (awaited.cache.analyze env awaited.analysedAt
    (analyzeArguments env call.intent configuration.candidates call.predictedOutputTokens)).1 = .ok call.cache
  allocation : ∃ allocated, call.budget = raisedBudget plannerKept call.cache allocated
  selection : ∃ scores, Routing.selectRanked awaited.rank
    { intent := call.intent
      candidates := configuration.candidates
      cache := call.cache
      budget := call.budget
      policy := configuration.policy
      preparationElapsedMs := awaited.selectElapsedMs
      routerScores := some scores } = .ok (call.model :: call.modelAlternatives)
  compaction : compact env kept call.intent.messages call.cache
    (plan plannerKept call.cache call.model.toModelDecision call.budget) = .ok call.compaction
  met : call.compaction.targetMet = true
  provider : Routing.plan call.model call.cache call.budget configuration.policy awaited.preparationLatencyMs = .ok call.provider

theorem preparedFrom_of_prepareCall {runs : RunId → Option RunConfiguration} {runId : RunId} {configuration : RunConfiguration}
    {awaited : Awaited} (hrun : runs runId = some configuration)
    (h : prepareCall env plannerKept kept runs runId intent awaited = .ok prepared) :
    PreparedFrom env plannerKept kept configuration intent awaited prepared := by
  unfold prepareCall at h
  obtain ⟨found, hfound, h⟩ := bind_ok h
  unfold configurationOf at hfound
  rw [hrun] at hfound
  cases hfound
  obtain ⟨prediction, hprediction, h⟩ := bind_ok h
  obtain ⟨cache, hcache, h⟩ := bind_ok h
  obtain ⟨allocated, -, h⟩ := bind_ok h
  obtain ⟨scores, -, h⟩ := bind_ok h
  obtain ⟨ranked, hranked, h⟩ := bind_ok h
  split at h
  · cases h
  unfold finishPreparation at h
  obtain ⟨_, -, h⟩ := bind_ok h
  obtain ⟨compaction, hcompaction, h⟩ := bind_ok h
  obtain ⟨hmet, h⟩ := check_ok_iff.1 h
  obtain ⟨provider, hprovider, h⟩ := bind_ok h
  cases h
  exact
    { prediction := ⟨prediction, hprediction, rfl, rfl⟩
      analysis := of_ofPython hcache
      allocation := ⟨allocated, rfl⟩
      selection := ⟨scores, of_ofRouting hranked⟩
      compaction := of_ofPython hcompaction
      met := by simpa using hmet
      provider := of_ofRouting hprovider }

/-- A call is prepared for a run that is known. -/
theorem known_of_prepareCall {runs : RunId → Option RunConfiguration} {runId : RunId} {awaited : Awaited}
    (h : prepareCall env plannerKept kept runs runId intent awaited = .ok prepared) :
    ∃ configuration, runs runId = some configuration := by
  unfold prepareCall at h
  obtain ⟨configuration, hfound, -⟩ := bind_ok h
  unfold configurationOf at hfound
  split at hfound
  · exact ⟨_, ‹_›⟩
  · cases hfound

/-- A reroute that returns has taken the first model it does not exclude, and planned its routes. -/
theorem reroutePrepared_ok {runs : RunId → Option RunConfiguration} {excludedModelIds : Finset String} {additionalElapsedMs : Int}
    {call : PreparedCall} (h : reroutePrepared runs prepared excludedModelIds additionalElapsedMs = .ok call) :
    ∃ (configuration : RunConfiguration) (decision : RouterDecision) (provider : ProviderRoutingPlan),
      (prepared.model :: prepared.modelAlternatives).find? (fun item => decide (item.candidate.modelId ∉ excludedModelIds)) =
          some decision ∧
      Routing.plan decision prepared.cache prepared.budget configuration.policy
          (prepared.preparationLatencyMs + additionalElapsedMs) = .ok provider ∧
      call = { prepared with
        model := decision
        modelAlternatives := (prepared.model :: prepared.modelAlternatives).filter fun item =>
          item.candidate.modelId ≠ decision.candidate.modelId && decide (item.candidate.modelId ∉ excludedModelIds)
        provider } := by
  unfold reroutePrepared at h
  split at h
  · cases h
  dsimp only at h
  split at h
  · cases h
  rename_i decision hdecision
  obtain ⟨configuration, -, h⟩ := bind_ok h
  obtain ⟨provider, hprovider, h⟩ := bind_ok h
  cases h
  exact ⟨configuration, decision, provider, hdecision, of_ofRouting hprovider, rfl⟩

/-- What a reroute leaves of a call. -/
theorem reroute_cases {runs : RunId → Option RunConfiguration} {excludedModelIds : Finset String} {additionalElapsedMs : Int}
    {call : PreparedCall} (h : reroutePrepared runs prepared excludedModelIds additionalElapsedMs = .ok call) :
    ∃ configuration : RunConfiguration, call = { prepared with
        model := call.model
        modelAlternatives := call.modelAlternatives
        provider := call.provider } ∧
      (∀ other ∈ call.model :: call.modelAlternatives, other ∈ prepared.model :: prepared.modelAlternatives) ∧
      Routing.plan call.model prepared.cache prepared.budget configuration.policy
        (prepared.preparationLatencyMs + additionalElapsedMs) = .ok call.provider := by
  obtain ⟨configuration, decision, provider, hdecision, hprovider, rfl⟩ := reroutePrepared_ok h
  refine ⟨configuration, rfl, fun other hother => ?_, hprovider⟩
  dsimp only at hother
  rcases List.mem_cons.1 hother with rfl | hlater
  · exact List.mem_of_find?_eq_some hdecision
  · exact List.mem_of_mem_filter hlater

/-! ## The plan of a decision -/

theorem mem_of_openPlan {cheapest guaranteed route : ProviderRoute} {total : Int} (hcheapest : cheapest ∈ decision.candidate.routes)
    (hguaranteed : guaranteed ∈ decision.candidate.routes)
    (h : route ∈ (Routing.openPlan decision budget policy cheapest guaranteed total).routes) : route ∈ decision.candidate.routes := by
  unfold Routing.openPlan at h
  dsimp only at h
  split at h
  · obtain rfl := List.mem_singleton.1 h
    exact hguaranteed
  · rcases List.mem_append.1 h with hbefore | hlast
    · rcases List.mem_cons.1 hbefore with rfl | hother
      · exact hcheapest
      · exact (List.mem_insertionSort _).1 (List.mem_filter.1 hother).1
    · obtain rfl := List.mem_singleton.1 hlast
      exact hguaranteed

theorem modelId_openPlan (cheapest guaranteed : ProviderRoute) (total : Int) :
    (Routing.openPlan decision budget policy cheapest guaranteed total).modelId = decision.candidate.modelId := by
  unfold Routing.openPlan
  dsimp only
  split <;> rfl

/-- A plan is one of the model of its decision. -/
theorem plan_of_model {preparationElapsedMs : Int} {routingPlan : ProviderRoutingPlan}
    (h : Routing.plan decision cache budget policy preparationElapsedMs = .ok routingPlan) :
    routingPlan.modelId = decision.candidate.modelId ∧ ∀ route ∈ routingPlan.routes, route ∈ decision.candidate.routes := by
  unfold Routing.plan at h
  split at h
  · rename_i pinned hpinned
    obtain ⟨total, -, rfl⟩ := map_ok h
    refine ⟨rfl, fun route hroute => ?_⟩
    obtain rfl := List.mem_singleton.1 hroute
    unfold Routing.pinnedRoute at hpinned
    split at hpinned
    · obtain ⟨provider, -, hfind⟩ := Option.bind_eq_some_iff.1 hpinned
      exact List.mem_of_find?_eq_some hfind
    · cases hpinned
  · split at h
    · rename_i cheapest guaranteed hcheapest hguaranteed
      obtain ⟨total, -, rfl⟩ := map_ok h
      exact ⟨modelId_openPlan cheapest guaranteed total, fun route =>
        mem_of_openPlan (List.argmin_mem hcheapest) (Routing.AuthorisedAux.mem_of_guaranteedRoute hguaranteed)⟩
    · cases h

/-! ## The target -/

/-- The target of a plan is at most the required context, once that is raised to the floor. -/
theorem target_le_raised (kept : Nat) (cache : CacheAnalysis) (decision : ModelDecision) (budget : CallBudget) :
    (plan kept cache decision (raisedBudget kept cache budget)).targetTokens ≤
      (raisedBudget kept cache budget).requiredContextTokens := by
  have hfloor : minimumReachableTokens kept cache ≤ (raisedBudget kept cache budget).requiredContextTokens := by
    unfold raisedBudget
    dsimp only
    split
    · exact le_rfl
    · rename_i hreached
      exact not_lt.1 hreached
  exact max_le hfloor (min_le_right _ _)

/-- What a compaction leaves is within the target it met. -/
theorem tokensAfter_le {messages : List Message} {compactionPlan : CompactionPlan} {result : CompactionResult}
    (h : compact env kept messages cache compactionPlan = .ok result) (hmet : result.targetMet = true) :
    (result.tokensAfter : Int) ≤ compactionPlan.targetTokens := by
  obtain ⟨cut, -, -, rfl⟩ := compact_ok h
  exact of_decide_eq_true hmet

/-! ## Every ranked model -/

/-- A decision that the compacted call fits. -/
structure Takes (policy : RoutingPolicy) (intent : CallIntent) (prepared : PreparedCall) (decision : RouterDecision) : Prop where
  window : prepared.compaction.tokensAfter + prepared.predictedOutputTokens ≤ decision.candidate.contextWindowTokens
  capabilities : intent.requiredCapabilities ⊆ decision.candidate.capabilities
  quality : minimumQuality intent.task policy ≤ decision.candidate.quality

/-- A call that any of its ranked models takes, with a plan of the first. -/
structure Ready (policy : RoutingPolicy) (intent : CallIntent) (prepared : PreparedCall) : Prop where
  takes : ∀ decision ∈ prepared.model :: prepared.modelAlternatives, Takes policy intent prepared decision
  modelId : prepared.provider.modelId = prepared.model.candidate.modelId
  routes : ∀ route ∈ prepared.provider.routes, route ∈ prepared.model.candidate.routes

theorem Ready.fits (h : Ready policy intent prepared) : Fits policy intent prepared := by
  have hmodel := h.takes prepared.model List.mem_cons_self
  exact ⟨hmodel.window, hmodel.capabilities, hmodel.quality, h.modelId, h.routes⟩

/-- A prepared call is ready: the models that were ranked are eligible, and the compaction met its target. -/
theorem ready_of_prepareCall {runs : RunId → Option RunConfiguration} {runId : RunId} {configuration : RunConfiguration}
    {awaited : Awaited} (hrun : runs runId = some configuration)
    (h : prepareCall env plannerKept kept runs runId intent awaited = .ok prepared) :
    Ready configuration.policy intent prepared := by
  have hprepared := preparedFrom_of_prepareCall hrun h
  obtain ⟨prediction, -, hintent, hpredicted⟩ := hprepared.prediction
  obtain ⟨allocated, hbudget⟩ := hprepared.allocation
  obtain ⟨scores, hselect⟩ := hprepared.selection
  have hafter := tokensAfter_le hprepared.compaction hprepared.met
  have htarget := target_le_raised plannerKept prepared.cache prepared.model.toModelDecision allocated
  rw [← hbudget] at htarget
  obtain ⟨hmodelId, hroutes⟩ := plan_of_model hprepared.provider
  refine ⟨fun other hother => ?_, hmodelId, hroutes⟩
  have hchosen := Routing.chosen_of_selectRanked hselect hother
  have hwindow := hchosen.eligible.contextWindow
  have hresolved : prepared.intent.predictedOutputTokens = some prediction.predictedTokens := by rw [hintent]; rfl
  have hsame : prepared.predictedOutputTokens = other.predictedOutputTokens := by
    rw [hpredicted]
    exact Option.some.inj (hresolved.symm.trans hchosen.predicted)
  have hcapabilities := hchosen.eligible.capabilities
  have hquality := hchosen.eligible.quality
  dsimp only at hwindow hcapabilities hquality
  rw [hintent] at hcapabilities hquality
  exact ⟨by omega, hcapabilities, hquality⟩

/-- A reroute leaves a call ready. -/
theorem ready_of_reroute {runs : RunId → Option RunConfiguration} {excludedModelIds : Finset String} {additionalElapsedMs : Int}
    {prepared' : PreparedCall} (hready : Ready policy intent prepared)
    (h : reroutePrepared runs prepared excludedModelIds additionalElapsedMs = .ok prepared') : Ready policy intent prepared' := by
  obtain ⟨configuration, hcall, hranked, hprovider⟩ := reroute_cases h
  obtain ⟨hmodelId, hroutes⟩ := plan_of_model hprovider
  refine ⟨fun other hother => ?_, hmodelId, hroutes⟩
  have htakes := hready.takes other (hranked other hother)
  rw [hcall]
  exact ⟨htakes.window, htakes.capabilities, htakes.quality⟩

end FitsAux

open FitsAux

/-- Every prepared call fits its model, and so does every call that a chain of reroutes makes of it. -/
theorem prepared_call_fits (env : Env) (plannerKeptTokens minimumKeptTokens : Nat) (runs : RunId → Option RunConfiguration)
    (runId : RunId) (configuration : RunConfiguration) (intent : CallIntent) (awaited : Awaited) (prepared : PreparedCall)
    (reroutes : List Reroute) (rerouted : PreparedCall) (hrun : runs runId = some configuration)
    (hprepare : prepareCall env plannerKeptTokens minimumKeptTokens runs runId intent awaited = .ok prepared)
    (hreroute : rerouteChain prepared reroutes = .ok rerouted) :
    Fits configuration.policy intent prepared ∧ Fits configuration.policy intent rerouted := by
  have hready := ready_of_prepareCall hrun hprepare
  unfold rerouteChain at hreroute
  have hchain : Ready configuration.policy intent rerouted :=
    foldlM_inv (fun _ _ _ hready' hturn => ready_of_reroute hready' hturn) hready hreroute
  exact ⟨hready.fits, hchain.fits⟩

namespace FitsAux

open FloorAux (longAnswer longAnswerEnv onlyRoute fortyTokens)

/-- One of two models with a window of two hundred tokens. -/
def windowed (modelId : String) (score : ℚ) (hscore : 0 ≤ score ∧ score ≤ 1) : Routing.RouterCandidate where
  modelId := modelId
  routes := [onlyRoute]
  validate_routes := FloorAux.onlyRoute_valid
  quality := 1
  contextWindowTokens := 200
  routerScore := some score
  validate_score := ⟨by norm_num, fun s hs => Option.some.inj hs ▸ hscore⟩
  validate_context_window := by decide

theorem fullScore_valid : (0 : ℚ) ≤ 1 ∧ (1 : ℚ) ≤ 1 := by norm_num

def twoModels : RunConfiguration where
  policy :=
    { validate_optional_cost := OperatingPolicy.noCostLimit_valid
      validate_optional_latency := OperatingPolicy.noLatencyLimit_valid
      validate_priority := RoutingPolicy.defaultPriority_valid
      validate_fraction := RoutingPolicy.defaultFraction_valid }
  candidates := [windowed "large" 1 fullScore_valid, windowed "small" (1 / 2) (by norm_num)]

def longAnswerIntent : CallIntent where
  sessionId := "session".toList
  task := "hi".toList
  messages := longAnswer
  predictedOutputTokens := some 10
  validate_output_tokens := by simp

/-- An allocation of 120 tokens of context, and no time that passes. -/
def allocating : Awaited where
  predictor _ := .error (.integration "output prediction is not configured")
  cache := {}
  analysedAt := 0
  allocate _ := .ok { fortyTokens with requiredContextTokens := 120 }
  rank := Routing.suppliedRank
  selectElapsedMs := 0
  planElapsedMs := 0
  preparationLatencyMs := 0

/-- Only one run is known. -/
def onlyRun (configuration : RunConfiguration) (runId : RunId) : Option RunConfiguration :=
  if runId = 0 then some configuration else none

end FitsAux

/-- A call whose long answer is cut, and which fails over to the other model. -/
theorem prepared_call_fits_failover : ∃ prepared rerouted,
    prepareCall FloorAux.longAnswerEnv 32 32 (onlyRun twoModels) 0 longAnswerIntent allocating = .ok prepared ∧
    rerouteChain prepared [⟨onlyRun twoModels, {"large"}, 5⟩] = .ok rerouted ∧
    prepared.compaction.records ≠ [] ∧ rerouted.model.candidate.modelId = "small" ∧
    Fits twoModels.policy longAnswerIntent rerouted := by
  have hrun : ((prepareCall FloorAux.longAnswerEnv 32 32 (onlyRun twoModels) 0 longAnswerIntent allocating).toOption.any fun prepared =>
      (rerouteChain prepared [⟨onlyRun twoModels, {"large"}, 5⟩]).toOption.any fun rerouted =>
        prepared.compaction.records.length != 0 && rerouted.model.candidate.modelId == "small") = true := by decide +kernel
  obtain ⟨prepared, hprepare, hrun⟩ := Outcome.ok_of_any hrun
  obtain ⟨rerouted, hreroute, hrun⟩ := Outcome.ok_of_any hrun
  rw [Bool.and_eq_true, bne_iff_ne, beq_iff_eq] at hrun
  have hfits := prepared_call_fits FloorAux.longAnswerEnv 32 32 (onlyRun twoModels) 0 twoModels longAnswerIntent allocating
    prepared _ rerouted rfl hprepare hreroute
  exact ⟨prepared, rerouted, hprepare, hreroute, fun h => hrun.1 (congrArg List.length h), hrun.2, hfits.2⟩

end Gateway

end PromptRail
