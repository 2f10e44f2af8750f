import PromptRail.Gateway.Fits
import PromptRail.Routing.Reordered

/-!
# Failover

A reroute takes the first model that it does not exclude, and keeps those after it. No two ranked models share an identifier, for a run
starts with candidates that differ; so the model and its alternatives are together the ranked models that no reroute excluded.
-/

namespace PromptRail

open PyText (Text)
open Outcome (bind_ok)
open Routing (CallIntent RouterCandidate RouterDecision RoutingPolicy)

namespace Gateway

/-- What a gateway is asked. A `prepare_call` leaves the configurations of the runs. -/
inductive GatewayOp where
  | startRun (sessionId : Text) (candidates : List RouterCandidate) (synthesized : Except GatewayError RoutingPolicy)
  | prepareCall (system : System) (cache : PromptCacheCoordinator)
  | observeTool (runId : RunId)
  | observeModel (call : PreparedCall) (usage : ModelUsage)
  | failModel (call : PreparedCall) (billingUnknown : Bool)
  | finishRun (runId : RunId) (success : Bool)

/-- The gateway after an operation. -/
def PromptRailGateway.step (env : Env) (g : PromptRailGateway) : GatewayOp → PromptRailGateway
  | .startRun sessionId candidates synthesized => (g.startRun sessionId candidates synthesized).2
  | .prepareCall system cache => { g with system, cache }
  | .observeTool runId => (g.observeTool runId).2
  | .observeModel call usage => (g.observeModel env call usage).2
  | .failModel call billingUnknown => (g.failModel call billingUnknown).2
  | .finishRun runId success => (g.finishRun runId success).2

/-- The models of a call, in the order they are tried in. -/
def PreparedCall.ranked (call : PreparedCall) : List RouterDecision := call.model :: call.modelAlternatives

/-- The decisions on models that no reroute excludes. -/
def surviving (reroutes : List Reroute) (decisions : List RouterDecision) : List RouterDecision :=
  decisions.filter fun item => reroutes.all fun r => decide (item.candidate.modelId ∉ r.excludedModelIds)

/-- The exception for a call that has no model left. -/
def noModelRemains : GatewayError := .routing (.routing "no precomputed feasible model remains for provider failover")

namespace FailoverAux

/-! ## The candidates of a run differ -/

/-- The candidates of every configuration have models of their own. -/
def Distinct (runs : RunId → Option RunConfiguration) : Prop :=
  ∀ runId configuration, runs runId = some configuration → (configuration.candidates.map (·.modelId)).Nodup

theorem distinct_update {runs : RunId → Option RunConfiguration} (h : Distinct runs) (runId : RunId)
    {entry : Option RunConfiguration}
    (hentry : ∀ configuration, entry = some configuration → (configuration.candidates.map (·.modelId)).Nodup) :
    Distinct (Function.update runs runId entry) := by
  intro runId' configuration hconfiguration
  by_cases hsame : runId' = runId
  · subst hsame
    rw [Function.update_self] at hconfiguration
    exact hentry configuration hconfiguration
  · rw [Function.update_of_ne hsame] at hconfiguration
    exact h runId' configuration hconfiguration

theorem runs_observeModel (env : Env) (g : PromptRailGateway) (call : PreparedCall) (usage : ModelUsage) :
    (g.observeModel env call usage).2.runs = g.runs := by
  unfold PromptRailGateway.observeModel
  split
  · rfl
  split
  · rfl
  unfold PromptRailGateway.observeOn
  split
  · rfl
  dsimp only
  split
  · rfl
  unfold PromptRailGateway.observeCache
  dsimp only
  split <;> rfl

theorem distinct_startRun {g : PromptRailGateway} (h : Distinct g.runs) (sessionId : Text) (candidates : List RouterCandidate)
    (synthesized : Except GatewayError RoutingPolicy) : Distinct (g.startRun sessionId candidates synthesized).2.runs := by
  unfold PromptRailGateway.startRun
  split
  · exact h
  split
  · exact h
  rename_i hids
  split
  · exact h
  dsimp only
  split
  · exact h
  · refine distinct_update h _ ?_
    rintro _ ⟨⟩
    exact not_not.1 hids

theorem distinct_finishRun {g : PromptRailGateway} (h : Distinct g.runs) (runId : RunId) (success : Bool) :
    Distinct (g.finishRun runId success).2.runs := by
  unfold PromptRailGateway.finishRun
  dsimp only
  split
  · exact h
  · refine distinct_update h runId ?_
    rintro _ ⟨⟩

theorem distinct_step {env : Env} {g : PromptRailGateway} (h : Distinct g.runs) (op : GatewayOp) : Distinct (g.step env op).runs := by
  cases op with
  | startRun sessionId candidates synthesized => exact distinct_startRun h sessionId candidates synthesized
  | prepareCall system cache => exact h
  | observeTool runId => exact h
  | observeModel call usage => exact (runs_observeModel env g call usage).symm ▸ h
  | failModel call billingUnknown => exact h
  | finishRun runId success => exact distinct_finishRun h runId success

theorem distinct_run (env : Env) {g : PromptRailGateway} (h : Distinct g.runs) (ops : List GatewayOp) :
    Distinct (ops.foldl (PromptRailGateway.step env) g).runs := by
  induction ops generalizing g with
  | nil => exact h
  | cons op ops ih => exact ih (distinct_step h op)

/-- The decisions of a selection are on different models when the candidates are. -/
theorem nodup_of_selectRanked {rank : Routing.Ranker} {args : Routing.SelectArguments} {decisions : List RouterDecision}
    (hids : (args.candidates.map (·.modelId)).Nodup) (h : Routing.selectRanked rank args = .ok decisions) :
    (decisions.map (·.candidate.modelId)).Nodup := by
  unfold Routing.selectRanked at h
  obtain ⟨⟨scores, predicted⟩, -, h⟩ := bind_ok h
  obtain ⟨considered, hconsidered, h⟩ := bind_ok h
  have hnodup := Routing.ReorderedAux.modelIds_nodup hids hconsidered
  unfold Routing.rankDecisions at h
  dsimp only at h
  split at h
  · cases h
  · obtain rfl := Except.ok.inj h
    exact ((List.perm_insertionSort _ _).map _).nodup_iff.2 hnodup

/-! ## One reroute -/

/-- Of elements with different keys, the first that passes a test and the others that do are those that do. -/
theorem find_cons_filter {α κ : Type} [DecidableEq κ] (key : α → κ) (p : α → Bool) {l : List α} (hkeys : (l.map key).Nodup) {x : α}
    (h : l.find? p = some x) : x :: l.filter (fun y => key y ≠ key x && p y) = l.filter p := by
  induction l with
  | nil => cases h
  | cons y l ih =>
    obtain ⟨hy, hrest⟩ := List.nodup_cons.1 hkeys
    by_cases hp : p y
    · obtain rfl : y = x := by simpa [hp] using h
      have hothers : l.filter (fun z => key z ≠ key y && p z) = l.filter p := by
        refine List.filter_congr fun z hz => ?_
        have hne : key z ≠ key y := fun heq => hy (heq ▸ List.mem_map_of_mem hz)
        simp [hne]
      rw [List.filter_cons_of_neg (by simp), hothers, List.filter_cons_of_pos hp]
    · rw [List.find?_cons_of_neg hp] at h
      rw [List.filter_cons_of_neg (by simp [hp]), List.filter_cons_of_neg hp]
      exact ih hrest h

variable {runs : RunId → Option RunConfiguration} {excludedModelIds : Finset String} {additionalElapsedMs : Int}
variable {prepared call : PreparedCall}

/-- A reroute that returns keeps the models it does not exclude, in their order. -/
theorem ranked_of_reroute (hids : (prepared.ranked.map (·.candidate.modelId)).Nodup)
    (h : reroutePrepared runs prepared excludedModelIds additionalElapsedMs = .ok call) :
    call.ranked = prepared.ranked.filter fun item => decide (item.candidate.modelId ∉ excludedModelIds) := by
  obtain ⟨-, decision, -, hdecision, -, rfl⟩ := FitsAux.reroutePrepared_ok h
  exact find_cons_filter (·.candidate.modelId) _ hids hdecision

theorem executionBudget_ne {budget : CallBudget} {policy : RoutingPolicy} {elapsed : Int} {minimum : Nat} :
    Routing.executionBudget budget policy elapsed minimum ≠
      .error (.routing "no precomputed feasible model remains for provider failover") := by
  unfold Routing.executionBudget
  dsimp only
  split_ifs <;> simp

/-- A plan does not raise the exception for a call that has no model left. -/
theorem plan_ne {decision : RouterDecision} {cache : CacheAnalysis} {budget : CallBudget} {policy : RoutingPolicy} {elapsed : Int} :
    Routing.plan decision cache budget policy elapsed ≠
      .error (.routing "no precomputed feasible model remains for provider failover") := by
  intro h
  unfold Routing.plan at h
  split at h
  · exact executionBudget_ne (Outcome.map_error h)
  · split at h
    · exact executionBudget_ne (Outcome.map_error h)
    · simp at h

/-- A reroute with no negative time raises that no model remains exactly when it excludes them all. -/
theorem reroute_noModelRemains_iff (helapsed : 0 ≤ additionalElapsedMs) :
    reroutePrepared runs prepared excludedModelIds additionalElapsedMs = .error noModelRemains ↔
      (prepared.ranked.filter fun item => decide (item.candidate.modelId ∉ excludedModelIds)) = [] := by
  unfold reroutePrepared
  rw [if_neg (not_lt.2 helapsed)]
  dsimp only
  rw [← PreparedCall.ranked, List.filter_eq_nil_iff, ← List.find?_eq_none]
  split
  · rename_i hnone
    exact iff_of_true rfl hnone
  · rename_i decision hdecision
    refine iff_of_false (fun h => ?_) fun hnone => Option.some_ne_none _ (hdecision.symm.trans hnone)
    cases hconfiguration : runs prepared.budget.runId with
    | none =>
      rw [configurationOf, hconfiguration] at h
      cases h
    | some configuration =>
      rw [configurationOf, hconfiguration, Outcome.ok_bind] at h
      cases hplan : Routing.plan decision prepared.cache prepared.budget configuration.policy
          (prepared.preparationLatencyMs + additionalElapsedMs) with
      | error e =>
        rw [hplan] at h
        obtain rfl : e = .routing "no precomputed feasible model remains for provider failover" :=
          GatewayError.routing.inj (Except.error.inj h)
        exact plan_ne hplan
      | ok provider =>
        rw [hplan] at h
        cases h

/-! ## A chain of reroutes -/

theorem surviving_cons (r : Reroute) (reroutes : List Reroute) (decisions : List RouterDecision) :
    surviving (r :: reroutes) decisions =
      surviving reroutes (decisions.filter fun item => decide (item.candidate.modelId ∉ r.excludedModelIds)) := by
  unfold surviving
  rw [List.filter_filter]
  refine List.filter_congr fun item _ => ?_
  rw [List.all_cons, Bool.and_comm]

theorem surviving_concat (reroutes : List Reroute) (r : Reroute) (decisions : List RouterDecision) :
    surviving (reroutes ++ [r]) decisions =
      (surviving reroutes decisions).filter fun item => decide (item.candidate.modelId ∉ r.excludedModelIds) := by
  unfold surviving
  rw [List.filter_filter]
  refine List.filter_congr fun item _ => ?_
  rw [List.all_append, List.all_cons, List.all_nil, Bool.and_true, Bool.and_comm]

/-- What a chain of reroutes leaves of a call: all but its models and its plan. -/
theorem chain_spec {reroutes : List Reroute} (hids : (prepared.ranked.map (·.candidate.modelId)).Nodup)
    (h : rerouteChain prepared reroutes = .ok call) :
    call.ranked = surviving reroutes prepared.ranked ∧
      call = { prepared with model := call.model, modelAlternatives := call.modelAlternatives, provider := call.provider } := by
  induction reroutes generalizing prepared with
  | nil =>
    obtain rfl := Except.ok.inj h
    exact ⟨(List.filter_eq_self.2 fun _ _ => rfl).symm, rfl⟩
  | cons r reroutes ih =>
    unfold rerouteChain at h
    rw [List.foldlM_cons] at h
    obtain ⟨next, hnext, h⟩ := bind_ok h
    have hranked := ranked_of_reroute hids hnext
    obtain ⟨-, hsame, -⟩ := FitsAux.reroute_cases hnext
    have hids' : (next.ranked.map (·.candidate.modelId)).Nodup :=
      (hranked ▸ List.filter_sublist.map _ : (next.ranked.map (·.candidate.modelId)).Sublist
        (prepared.ranked.map (·.candidate.modelId))).nodup hids
    obtain ⟨hcall, hkept⟩ := ih hids' h
    rw [surviving_cons, ← hranked]
    refine ⟨hcall, hkept.trans ?_⟩
    rw [hsame]

end FailoverAux

open FailoverAux

/-- After any chain of reroutes of a prepared call, the model and its alternatives are the ranked models that no reroute excluded, in
their order, and the budget, the cache and the compaction are the call's; one more reroute raises that no model remains exactly when it
excludes all of them that are left. -/
theorem failover_chain (env : Env) (allocatorModelId : String) (ops : List GatewayOp) (plannerKeptTokens minimumKeptTokens : Nat)
    (runId : RunId) (intent : CallIntent) (awaited : Awaited) (prepared : PreparedCall) (reroutes : List Reroute)
    (call : PreparedCall)
    (hprepare : prepareCall env plannerKeptTokens minimumKeptTokens
      (ops.foldl (PromptRailGateway.step env) { system := System.start allocatorModelId }).runs runId intent awaited = .ok prepared)
    (hreroute : rerouteChain prepared reroutes = .ok call) :
    call.model :: call.modelAlternatives = surviving reroutes (prepared.model :: prepared.modelAlternatives) ∧
    call.budget = prepared.budget ∧ call.cache = prepared.cache ∧ call.compaction = prepared.compaction ∧
    ∀ r : Reroute, 0 ≤ r.additionalElapsedMs →
      (reroutePrepared r.runs call r.excludedModelIds r.additionalElapsedMs = .error noModelRemains ↔
        surviving (reroutes ++ [r]) (prepared.model :: prepared.modelAlternatives) = []) := by
  have hdistinct := distinct_run env (g := { system := System.start allocatorModelId }) (fun _ _ h => (nomatch h)) ops
  obtain ⟨configuration, hrun⟩ := FitsAux.known_of_prepareCall hprepare
  obtain ⟨scores, hselect⟩ := (FitsAux.preparedFrom_of_prepareCall hrun hprepare).selection
  have hids := nodup_of_selectRanked (hdistinct runId configuration hrun) hselect
  obtain ⟨hranked, hsame⟩ := chain_spec hids hreroute
  refine ⟨hranked, by rw [hsame], by rw [hsame], by rw [hsame], fun r helapsed => ?_⟩
  rw [reroute_noModelRemains_iff helapsed, hranked, ← surviving_concat]
  rfl

namespace FailoverAux

open FloorAux (longAnswerEnv)
open FitsAux (twoModels longAnswerIntent allocating)

/-- The start of a run with two models. -/
def twoModelsStarted : List GatewayOp := [.startRun "session".toList twoModels.candidates (.ok twoModels.policy)]

def startedRuns : RunId → Option RunConfiguration :=
  (twoModelsStarted.foldl (PromptRailGateway.step longAnswerEnv) { system := System.start "gemma" }).runs

end FailoverAux

/-- A call that fails over to the other of its two models, and has none left when that is excluded too. -/
theorem failover_chain_exhausted : ∃ prepared call,
    prepareCall FloorAux.longAnswerEnv 32 32 startedRuns 0 FitsAux.longAnswerIntent FitsAux.allocating = .ok prepared ∧
    rerouteChain prepared [⟨startedRuns, {"large"}, 5⟩] = .ok call ∧
    (prepared.model :: prepared.modelAlternatives).map (·.candidate.modelId) = ["large", "small"] ∧
    reroutePrepared startedRuns call {"small"} 0 = .error noModelRemains := by
  have hrun : ((prepareCall FloorAux.longAnswerEnv 32 32 startedRuns 0 FitsAux.longAnswerIntent FitsAux.allocating).toOption.any
      fun prepared => (rerouteChain prepared [⟨startedRuns, {"large"}, 5⟩]).toOption.any fun _ =>
        decide ((prepared.model :: prepared.modelAlternatives).map (·.candidate.modelId) = ["large", "small"])) = true := by decide +kernel
  obtain ⟨prepared, hprepare, hrun⟩ := Outcome.ok_of_any hrun
  obtain ⟨call, hreroute, hrun⟩ := Outcome.ok_of_any hrun
  obtain ⟨-, -, -, -, hnext⟩ := failover_chain FloorAux.longAnswerEnv "gemma" twoModelsStarted 32 32 0 FitsAux.longAnswerIntent
    FitsAux.allocating prepared _ call hprepare hreroute
  have hids := of_decide_eq_true hrun
  refine ⟨prepared, call, hprepare, hreroute, hids, (hnext ⟨startedRuns, {"small"}, 0⟩ le_rfl).2 ?_⟩
  refine List.filter_eq_nil_iff.2 fun item hitem => ?_
  have hmem : item.candidate.modelId ∈ ["large", "small"] := hids ▸ List.mem_map_of_mem hitem
  rcases List.mem_cons.1 hmem with hlarge | hsmall
  · simp [hlarge]
  · simp [List.mem_singleton.1 hsmall]

end Gateway

end PromptRail
