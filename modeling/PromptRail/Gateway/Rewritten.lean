import PromptRail.Gateway.Fits
import PromptRail.Cache.Prefix

/-!
# What is observed of a rewritten prefix

A cut changes the content of a message and nothing else, so what the compaction makes of a call offers a prefix of the same length, with
another hash. That hash is promoted by a read of the old prefix unless a message of the confirmed prefix was cut: the guard does not look
at what is offered beyond it.
-/

namespace PromptRail

open PyText (Text casefold)
open Table (Dict)
open Json (Value get?)
open Outcome (bind_ok)
open PromptCacheCoordinator (candidatePrefixCount promoted)
open PrefixAux (offeredText)
open Routing (CallIntent)

namespace Gateway

/-- `observe_model` gets as far as the cache: the usage is one of the call, its settlement is accepted, and the run is known. -/
structure Reaches (g : PromptRailGateway) (call : PreparedCall) (usage : ModelUsage) (route : ProviderRoute) (cost : ℚ) : Prop where
  model : usage.modelId = call.model.candidate.modelId
  first : call.provider.routes.find? (fun route => route.provider = usage.provider) = some route
  billed : usage.costUsd.getD (some (usageCost usage route)) = some cost
  settled : ∃ snapshot, (g.system.controller.settleCall call.budget.runId call.budget.callId cost
    (usage.latencyMs + call.preparationLatencyMs)).1 = .ok snapshot
  known : ∃ configuration, g.runs call.budget.runId = some configuration

/-- The record of a session, if it has not expired. -/
def PromptRailGateway.liveRecord (g : PromptRailGateway) (sessionId : Text) : Option CacheRecord :=
  (g.cache.sessionAt sessionId g.now).record

/-- A record of the prefix that the compaction has made, from the tokens that were read. -/
def rewrittenRecord (env : Env) (g : PromptRailGateway) (call : PreparedCall) (usage : ModelUsage) (route : ProviderRoute) :
    CacheRecord where
  modelId := usage.modelId
  provider := usage.provider
  prefixHash := env.sha256 (offeredText
    (call.compaction.messages.take (proposedPrefixCount env call.intent.messages)) call.intent.tools)
  messageCount := proposedPrefixCount env call.intent.messages
  prefixTokens := usage.cacheReadTokens
  expiresAt := g.now + route.cacheTtlSeconds * 1000

namespace RewrittenAux

/-! ## What a cut leaves of a message -/

/-- What the layout of a conversation depends on in a message. -/
def outline (m : Message) : Option Value × Option Value × Option Value :=
  (get? m "role", get? m "tool_call_id", get? m "tool_calls")

theorem outline_set (m : Message) (v : Value) : outline (Json.set m "content" v) = outline m := by
  simp [outline, Json.get?_set]

variable {env : Env} {kept : Nat} {cache : CacheAnalysis} {messages messages' : List Message}

/-- A turn of the loop leaves everything, or cuts the content of its message and records it. -/
theorem cutStep_cases (env : Env) (kept : Nat) (blocks : Dict Nat ContextBlock) (plan : CompactionPlan) (state : Cut)
    (share : Nat × Nat) :
    cutStep env kept blocks plan state share = state ∨ ∃ content remaining record, record.messageIndex = share.1 ∧
      cutStep env kept blocks plan state share =
        { transformed := state.transformed.set share.1 (Json.set (state.transformed.getD share.1 []) "content" content)
          remaining
          records := state.records ++ [record] } := by
  obtain ⟨index, allocation⟩ := share
  unfold cutStep
  dsimp only
  split
  · split
    · exact Or.inl rfl
    · split
      · exact Or.inl rfl
      · exact Or.inr ⟨_, _, _, rfl, rfl⟩
  · exact Or.inl rfl

theorem cutStep_outline (env : Env) (kept : Nat) (blocks : Dict Nat ContextBlock) (plan : CompactionPlan) (state : Cut)
    (share : Nat × Nat) :
    (cutStep env kept blocks plan state share).transformed.map outline = state.transformed.map outline := by
  rcases cutStep_cases env kept blocks plan state share with hstay | ⟨content, remaining, record, -, hcut⟩
  · rw [hstay]
  · rw [hcut, List.map_set, outline_set]
    by_cases hlt : share.1 < state.transformed.length
    · have hlt' : share.1 < (state.transformed.map outline).length := by simpa using hlt
      have hget : outline (state.transformed.getD share.1 []) = (state.transformed.map outline)[share.1] := by
        simp [List.getD_eq_getElem?_getD, hlt]
      rw [hget, List.set_getElem_self]
    · exact List.set_eq_of_length_le (by simpa using hlt)

/-- A message that no record names is as it was. -/
theorem cutStep_others (env : Env) (kept : Nat) (blocks : Dict Nat ContextBlock) (plan : CompactionPlan) (state : Cut)
    (share : Nat × Nat) {i : Nat} (h : i ∉ (cutStep env kept blocks plan state share).records.map (·.messageIndex)) :
    i ∉ state.records.map (·.messageIndex) ∧
      (cutStep env kept blocks plan state share).transformed.getD i [] = state.transformed.getD i [] := by
  rcases cutStep_cases env kept blocks plan state share with hstay | ⟨content, remaining, record, hrecord, hcut⟩
  · rw [hstay] at h ⊢
    exact ⟨h, rfl⟩
  · rw [hcut] at h ⊢
    rw [List.map_append, List.mem_append, not_or] at h
    have hne : share.1 ≠ i := by simpa [hrecord, eq_comm] using h.2
    exact ⟨h.1, by simp [List.getD_eq_getElem?_getD, List.getElem?_set_ne hne]⟩

theorem foldl_outline (env : Env) (kept : Nat) (blocks : Dict Nat ContextBlock) (plan : CompactionPlan) (l : List (Nat × Nat))
    (state : Cut) :
    (l.foldl (cutStep env kept blocks plan) state).transformed.map outline = state.transformed.map outline := by
  induction l generalizing state with
  | nil => rfl
  | cons share l ih => rw [List.foldl_cons, ih, cutStep_outline]

theorem foldl_others (env : Env) (kept : Nat) (blocks : Dict Nat ContextBlock) (plan : CompactionPlan) (l : List (Nat × Nat))
    (state : Cut) {i : Nat} (h : i ∉ (l.foldl (cutStep env kept blocks plan) state).records.map (·.messageIndex)) :
    i ∉ state.records.map (·.messageIndex) ∧
      (l.foldl (cutStep env kept blocks plan) state).transformed.getD i [] = state.transformed.getD i [] := by
  induction l generalizing state with
  | nil => exact ⟨h, rfl⟩
  | cons share l ih =>
    obtain ⟨hnext, hsame⟩ := ih _ h
    obtain ⟨hstate, hsame'⟩ := cutStep_others env kept blocks plan state share hnext
    exact ⟨hstate, hsame.trans hsame'⟩

/-- What a compaction leaves: the layout, and every message that no record names. -/
theorem compact_leaves {plan : CompactionPlan} {result : CompactionResult}
    (h : compact env kept messages cache plan = .ok result) :
    result.messages.map outline = messages.map outline ∧
      ∀ i ∉ result.records.map (·.messageIndex), result.messages.getD i [] = messages.getD i [] := by
  obtain ⟨cut, rfl, -, rfl⟩ := compact_ok h
  exact ⟨foldl_outline env kept _ plan _ _, fun i hi => (foldl_others env kept _ plan _ _ hi).2⟩

/-! ## The layout of a conversation -/

/-- A test of the messages of one layout holds at the same positions. -/
theorem any_congr {p : Message → Bool} {q : Option Value × Option Value × Option Value → Bool} (hpq : ∀ m, p m = q (outline m))
    (h : messages.map outline = messages'.map outline) (i : Nat) : (messages[i]?).any p = (messages'[i]?).any p := by
  have hmap : ∀ ms : List Message, (ms[i]?).any p = ((ms.map outline)[i]?).any q := by
    intro ms
    rw [List.getElem?_map, Option.any_map]
    congr 1
    exact funext hpq
  rw [hmap, hmap, h]

theorem latestUser_congr (h : messages.map outline = messages'.map outline) : latestUser env messages = latestUser env messages' := by
  have hlength : messages.length = messages'.length := by simpa using congrArg List.length h
  have htest := any_congr (p := fun m => role env m == "user".toList && !present m "tool_call_id")
    (q := fun o => casefold (env.strOrEmpty o.1) == "user".toList && !o.2.1.any Json.truthy) (fun _ => rfl) h
  unfold latestUser lastIndex
  rw [hlength]
  congr 1
  exact funext htest

theorem proposedPrefixCount_congr (h : messages.map outline = messages'.map outline) :
    proposedPrefixCount env messages = proposedPrefixCount env messages' := by
  have hleading : ∀ ms : List Message, (ms.takeWhile (isProtocol env)).length = ((ms.map outline).takeWhile fun o =>
      casefold (env.strOrEmpty o.1) == "system".toList || casefold (env.strOrEmpty o.1) == "developer".toList).length := by
    intro ms
    rw [List.takeWhile_map, List.length_map]
    rfl
  unfold proposedPrefixCount
  rw [latestUser_congr h, hleading, hleading, h]

theorem protectedIndices_congr (h : messages.map outline = messages'.map outline) {indices : List Nat}
    (hok : protectedIndices env messages = .ok indices) : ∃ indices', protectedIndices env messages' = .ok indices' := by
  have hcalls : ∀ ms : List Message, ms.mapM (fun m => iterate (get? m "tool_calls")) = (ms.map outline).mapM fun o => iterate o.2.2 := by
    intro ms
    rw [List.mapM_map]
    rfl
  unfold protectedIndices at hok ⊢
  rw [hcalls] at hok ⊢
  rw [← h]
  obtain ⟨calls, hcalls, -⟩ := bind_ok hok
  rw [hcalls]
  exact ⟨_, rfl⟩

/-! ## The call -/

variable {call : PreparedCall}

/-- What every call of a chain of reroutes knows of its messages. -/
structure Compacted (env : Env) (call : PreparedCall) : Prop where
  nonempty : call.intent.messages ≠ []
  analysable : ∃ indices, protectedIndices env call.intent.messages = .ok indices
  layout : call.compaction.messages.map outline = call.intent.messages.map outline
  others : ∀ i ∉ call.compactedIndices, call.compaction.messages.getD i [] = call.intent.messages.getD i []
  offered : call.cache.prefixHash = prefixHash env call.intent.messages (proposedPrefixCount env call.intent.messages) call.intent.tools

theorem compacted_of_prepareCall {plannerKept : Nat} {runs : RunId → Option RunConfiguration} {runId : RunId} {intent : CallIntent}
    {awaited : Awaited} (h : prepareCall env plannerKept kept runs runId intent awaited = .ok call) : Compacted env call := by
  obtain ⟨configuration, hrun⟩ := FitsAux.known_of_prepareCall h
  have hprepared := FitsAux.preparedFrom_of_prepareCall hrun h
  have hanalysis := hprepared.analysis
  obtain ⟨hlayout, hothers⟩ := compact_leaves hprepared.compaction
  obtain ⟨indices, hindices, hcache⟩ := PromptCacheCoordinator.analyze_ok hanalysis
  refine ⟨fun hnil => ?_, ⟨indices, hindices⟩, hlayout, hothers, by rw [hcache]; rfl⟩
  unfold PromptCacheCoordinator.analyze at hanalysis
  rw [if_pos (by simp [analyzeArguments, hnil])] at hanalysis
  cases hanalysis

theorem compacted_of_chain {prepared : PreparedCall} {reroutes : List Reroute} (hprepared : Compacted env prepared)
    (h : rerouteChain prepared reroutes = .ok call) : Compacted env call := by
  unfold rerouteChain at h
  refine Outcome.foldlM_inv (fun r before after hbefore hturn => ?_) hprepared h
  obtain ⟨configuration, hcall, -⟩ := FitsAux.reroute_cases hturn
  rw [hcall]
  exact ⟨hbefore.nonempty, hbefore.analysable, hbefore.layout, hbefore.others, hbefore.offered⟩

/-! ## The record after an observation -/

variable {g : PromptRailGateway} {usage : ModelUsage}

theorem sessionAt_record_eq (c : PromptCacheCoordinator) (sessionId : Text) (now : Int) :
    (c.sessionAt sessionId now).record =
      ((c.sessions.lookup sessionId).getD {}).record.filter fun r => decide (now < r.expiresAt) := by
  unfold PromptCacheCoordinator.sessionAt
  generalize (c.sessions.lookup sessionId).getD {} = state
  cases hrecord : state.record with
  | none => simp [hrecord]
  | some record =>
    by_cases hlive : now < record.expiresAt
    · simp [hrecord, Option.filter, hlive, not_le.2 hlive]
    · simp [hrecord, Option.filter, hlive, not_lt.1 hlive]

/-- An analysis changes no live record. -/
theorem live_of_analyze (c : PromptCacheCoordinator) (now : Int) (args : AnalyzeArguments) (sessionId : Text) :
    ((c.analyze env now args).2.sessionAt sessionId now).record = (c.sessionAt sessionId now).record := by
  rw [sessionAt_record_eq, sessionAt_record_eq]
  rcases PrefixAux.sessions_of_analyze env c now args with hsame | hsame
  · rw [hsame]
  · rw [hsame, Table.lookup_insert_eq]
    split
    · rename_i hown
      subst hown
      rw [Option.getD_some, sessionAt_record_eq, Option.filter_filter]
      simp
    · rfl

/-- A record that is promoted has not expired. -/
theorem expiresAt_of_promoted {now : Int} {analysis : CacheAnalysis} {route : ProviderRoute} {record : CacheRecord}
    (h : promoted now analysis route usage = some record) : now < record.expiresAt := by
  unfold promoted at h
  split at h
  · cases h
  · split at h
    · obtain rfl := Option.some.inj h
      have httl := route.validate_route_duration.2.2
      dsimp only
      omega
    · cases h

/-- An observation stores the record that is promoted, or leaves the live one. -/
theorem live_of_observe (c : PromptCacheCoordinator) (now : Int) (sessionId : Text) (analysis : CacheAnalysis) (route : ProviderRoute)
    (usage : ModelUsage) :
    ((c.observe now sessionId analysis route usage).sessionAt sessionId now).record =
      (promoted now analysis route usage).or (c.sessionAt sessionId now).record := by
  rw [sessionAt_record_eq, sessionAt_record_eq]
  simp only [PromptCacheCoordinator.observe, Table.lookup_insert_eq, if_true, Option.getD_some]
  cases hpromoted : promoted now analysis route usage with
  | none => rfl
  | some record => simp [expiresAt_of_promoted hpromoted]

/-- The analysis of what the compaction made. -/
theorem cacheObservation_ok (hcall : Compacted env call) (hcut : call.compactedIndices ≠ []) {configuration : RunConfiguration}
    (hknown : g.runs call.budget.runId = some configuration) :
    ∃ analysis, (g.cacheObservation env call).1 = .ok analysis ∧
      analysis.prefixHash = prefixHash env call.compaction.messages (proposedPrefixCount env call.intent.messages) call.intent.tools ∧
      candidatePrefixCount analysis = proposedPrefixCount env call.intent.messages ∧
      ((g.cacheObservation env call).2.sessionAt call.intent.sessionId g.now).record = g.liveRecord call.intent.sessionId := by
  have hlength : call.compaction.messages.length = call.intent.messages.length := by simpa using congrArg List.length hcall.layout
  have hempty : ¬call.compaction.messages.isEmpty = true := by
    rw [List.isEmpty_iff_length_eq_zero, hlength, ← List.isEmpty_iff_length_eq_zero, List.isEmpty_iff]
    exact hcall.nonempty
  obtain ⟨indices, hindices⟩ := protectedIndices_congr hcall.layout.symm hcall.analysable.choose_spec
  unfold PromptRailGateway.cacheObservation configurationOf
  rw [if_neg (by simpa using hcut), hknown]
  dsimp only
  generalize hargs : (AnalyzeArguments.mk call.intent.sessionId call.compaction.messages call.intent.tools
    (configuration.candidates.map (·.toModelCandidate)) call.predictedOutputTokens call.intent.task []) = args
  have hok : (g.cache.analyze env g.now args).1 =
      .ok (PromptCacheCoordinator.analysis env g.cache (g.cache.sessionAt args.sessionId g.now) args indices) := by
    unfold PromptCacheCoordinator.analyze
    rw [← hargs, if_neg hempty]
    simp only [hindices]
  refine ⟨_, by rw [hok]; rfl, ?_, ?_, live_of_analyze _ _ _ _⟩
  · rw [← proposedPrefixCount_congr hcall.layout, ← hargs]
    rfl
  · rw [← proposedPrefixCount_congr hcall.layout]
    have hcount := PrefixAux.candidatePrefixCount_eq (PrefixAux.shape_of_analyze hok (Or.inl (by rw [← hargs])))
    rw [hcount, ← hargs]

/-- The cache of a run that is known is observed with what the compaction made. -/
theorem observeCache_known (hcall : Compacted env call) (hcut : call.compactedIndices ≠ []) {configuration : RunConfiguration}
    (hknown : g.runs call.budget.runId = some configuration) (usage : ModelUsage) (route : ProviderRoute) (snapshot : RunSnapshot) :
    ∃ analysis,
      analysis.prefixHash = prefixHash env call.compaction.messages (proposedPrefixCount env call.intent.messages) call.intent.tools ∧
      candidatePrefixCount analysis = proposedPrefixCount env call.intent.messages ∧
      (g.observeCache env call usage route snapshot).2.liveRecord call.intent.sessionId =
        (promoted g.now analysis route (cacheUsage call usage)).or (g.liveRecord call.intent.sessionId) := by
  obtain ⟨analysis, hok, hhash, hcount, hlive⟩ := cacheObservation_ok hcall hcut hknown
  refine ⟨analysis, hhash, hcount, ?_⟩
  unfold PromptRailGateway.observeCache
  dsimp only
  rw [hok, ← hlive]
  exact live_of_observe _ _ _ _ _ _

/-- The cache of a run that is not known is left. -/
theorem observeCache_unknown (hcut : call.compactedIndices ≠ []) (hunknown : g.runs call.budget.runId = none) (usage : ModelUsage)
    (route : ProviderRoute) (snapshot : RunSnapshot) :
    (g.observeCache env call usage route snapshot).2.liveRecord call.intent.sessionId = g.liveRecord call.intent.sessionId := by
  have hobservation : g.cacheObservation env call =
      (.error (.python (.budgetError ("unknown PromptRail run configuration: run_" ++ toString call.budget.runId))), g.cache) := by
    unfold PromptRailGateway.cacheObservation configurationOf
    rw [if_neg (by simpa using hcut), hunknown]
  unfold PromptRailGateway.observeCache
  rw [hobservation]

theorem now_settleCall (c : GlobalController) (runId : RunId) (callId : CallId) (costUsd : ℚ) (latencyMs : Int) :
    (c.settleCall runId callId costUsd latencyMs).2.now = c.now := by
  unfold GlobalController.settleCall GlobalController.onRun
  split <;> rfl

/-- The live record after a call is observed: what is promoted of the rewritten prefix comes first, where the cache is reached. -/
theorem observeModel_live (g : PromptRailGateway) (usage : ModelUsage) (hcall : Compacted env call)
    (hcut : call.compactedIndices ≠ []) :
    (∃ route cost analysis, Reaches g call usage route cost ∧
      analysis.prefixHash = prefixHash env call.compaction.messages (proposedPrefixCount env call.intent.messages) call.intent.tools ∧
      candidatePrefixCount analysis = proposedPrefixCount env call.intent.messages ∧
      (g.observeModel env call usage).2.liveRecord call.intent.sessionId =
        (promoted g.now analysis route (cacheUsage call usage)).or (g.liveRecord call.intent.sessionId)) ∨
    ((∀ route cost, ¬Reaches g call usage route cost) ∧
      (g.observeModel env call usage).2.liveRecord call.intent.sessionId = g.liveRecord call.intent.sessionId) := by
  unfold PromptRailGateway.observeModel
  by_cases hmodel : usage.modelId = call.model.candidate.modelId
  swap
  · rw [if_pos hmodel]
    exact Or.inr ⟨fun _ _ hreaches => hmodel hreaches.model, rfl⟩
  rw [if_neg (not_not.2 hmodel)]
  cases hfirst : call.provider.routes.find? fun route => route.provider = usage.provider with
  | none => exact Or.inr ⟨fun _ _ hreaches => Option.some_ne_none _ (hreaches.first.symm.trans hfirst), rfl⟩
  | some route =>
    have hroute : ∀ {route' cost'}, Reaches g call usage route' cost' → route' = route := fun hreaches =>
      Option.some.inj (hreaches.first.symm.trans hfirst)
    dsimp only
    unfold PromptRailGateway.observeOn
    cases hbilled : usage.costUsd.getD (some (usageCost usage route)) with
    | none =>
      refine Or.inr ⟨fun route' cost' hreaches => ?_, rfl⟩
      obtain rfl := hroute hreaches
      exact Option.some_ne_none _ (hreaches.billed.symm.trans hbilled)
    | some cost =>
      have hcost : ∀ {route' cost'}, Reaches g call usage route' cost' → cost' = cost := by
        intro route' cost' hreaches
        obtain rfl := hroute hreaches
        exact Option.some.inj (hreaches.billed.symm.trans hbilled)
      dsimp only
      have hnow := now_settleCall g.system.controller call.budget.runId call.budget.callId cost
        (usage.latencyMs + call.preparationLatencyMs)
      cases hsettled : (g.system.controller.settleCall call.budget.runId call.budget.callId cost
          (usage.latencyMs + call.preparationLatencyMs)).1 with
      | error e =>
        refine Or.inr ⟨fun route' cost' hreaches => ?_, ?_⟩
        · obtain rfl := hcost hreaches
          obtain ⟨snapshot, hsnapshot⟩ := hreaches.settled
          cases hsnapshot.symm.trans hsettled
        · simp only [PromptRailGateway.liveRecord, PromptRailGateway.now, hnow]
      | ok snapshot =>
        dsimp only
        generalize hg : { g with system := { g.system with controller := (g.system.controller.settleCall call.budget.runId
          call.budget.callId cost (usage.latencyMs + call.preparationLatencyMs)).2 } } = g'
        have hnow' : g'.now = g.now := by
          rw [← hg]
          exact hnow
        have hruns : g'.runs = g.runs := by rw [← hg]
        have hlive : g'.liveRecord call.intent.sessionId = g.liveRecord call.intent.sessionId := by
          rw [PromptRailGateway.liveRecord, hnow', ← hg]
          rfl
        cases hknown : g.runs call.budget.runId with
        | none =>
          refine Or.inr ⟨fun _ _ hreaches => ?_, (observeCache_unknown hcut (hruns ▸ hknown) usage route snapshot).trans hlive⟩
          obtain ⟨configuration, hconfiguration⟩ := hreaches.known
          cases hknown.symm.trans hconfiguration
        | some configuration =>
          obtain ⟨analysis, hhash, hcount, hobserved⟩ := observeCache_known hcall hcut (hruns ▸ hknown) usage route snapshot
          rw [hnow', hlive] at hobserved
          exact Or.inl ⟨route, cost, analysis, ⟨hmodel, hfirst, hbilled, ⟨snapshot, hsettled⟩, configuration, hknown⟩, hhash, hcount,
            hobserved⟩

/-- What is promoted of a rewritten prefix by a read: nothing where the guard hits or the route has no cache. -/
theorem promoted_rewritten (hdigest : ∀ t, env.sha256 t ≠ []) (hpositive : 0 < proposedPrefixCount env call.intent.messages)
    (hread : 0 < usage.cacheReadTokens) (hwrite : usage.cacheWriteTokens = 0) {analysis : CacheAnalysis}
    (hhash : analysis.prefixHash =
      prefixHash env call.compaction.messages (proposedPrefixCount env call.intent.messages) call.intent.tools)
    (hcount : candidatePrefixCount analysis = proposedPrefixCount env call.intent.messages) (route : ProviderRoute) :
    promoted g.now analysis route (cacheUsage call usage) =
      if call.compactedIndices.any call.cache.cacheableMessageIndices.contains ∨ route.cacheSupported = false then none
      else some (rewrittenRecord env g call usage route) := by
  have hoffered : analysis.prefixHash = some (env.sha256 (offeredText
      (call.compaction.messages.take (proposedPrefixCount env call.intent.messages)) call.intent.tools)) := by
    rw [hhash, prefixHash, if_neg (fun hnone => absurd hnone.1 (not_le.2 hpositive))]
    rfl
  unfold promoted cacheUsage
  rw [hoffered]
  by_cases hguard : call.compactedIndices.any call.cache.cacheableMessageIndices.contains = true
  · rw [if_pos hguard, if_pos (Or.inl hguard)]
    simp [hwrite]
  · rw [if_neg hguard]
    cases hroute : route.cacheSupported with
    | false => simp
    | true =>
      have hempty := hdigest (offeredText
        (call.compaction.messages.take (proposedPrefixCount env call.intent.messages)) call.intent.tools)
      simp [hguard, hempty, hread, hwrite, hcount, rewrittenRecord]

end RewrittenAux

open RewrittenAux

/-- A read of the old prefix leaves the session's record as it was exactly when the cache is not reached, when a message of the
confirmed prefix was cut, when the route has no cache, or when the session holds that very record. -/
theorem rewritten_prefix_kept_iff (env : Env) (hdigest : ∀ t, env.sha256 t ≠ []) (plannerKeptTokens minimumKeptTokens : Nat)
    (runs : RunId → Option RunConfiguration) (runId : RunId) (intent : CallIntent) (awaited : Awaited) (prepared : PreparedCall)
    (reroutes : List Reroute) (call : PreparedCall) (g : PromptRailGateway) (usage : ModelUsage)
    (hprepare : prepareCall env plannerKeptTokens minimumKeptTokens runs runId intent awaited = .ok prepared)
    (hreroute : rerouteChain prepared reroutes = .ok call)
    (hchanged : ∃ i < proposedPrefixCount env call.intent.messages,
      call.compaction.messages.getD i [] ≠ call.intent.messages.getD i [])
    (hread : 0 < usage.cacheReadTokens) (hwrite : usage.cacheWriteTokens = 0) :
    (g.observeModel env call usage).2.liveRecord call.intent.sessionId = g.liveRecord call.intent.sessionId ↔
      ∀ route cost, Reaches g call usage route cost →
        (∃ i ∈ call.compactedIndices, i ∈ call.cache.cacheableMessageIndices) ∨ route.cacheSupported = false ∨
          g.liveRecord call.intent.sessionId = some (rewrittenRecord env g call usage route) := by
  have hcall := compacted_of_chain (compacted_of_prepareCall hprepare) hreroute
  obtain ⟨i, hi, hrewritten⟩ := hchanged
  have hpositive : 0 < proposedPrefixCount env call.intent.messages := lt_of_le_of_lt (Nat.zero_le i) hi
  have hcut : call.compactedIndices ≠ [] := by
    intro hnil
    exact hrewritten (hcall.others i (by simp [hnil]))
  rcases observeModel_live g usage hcall hcut with
    ⟨route, cost, analysis, hreaches, hhash, hcount, hlive⟩ | ⟨hnot, hlive⟩
  · rw [hlive, promoted_rewritten hdigest hpositive hread hwrite hhash hcount]
    have hunique : ∀ {route' cost'}, Reaches g call usage route' cost' → route' = route := fun hreaches' =>
      Option.some.inj (hreaches'.first.symm.trans hreaches.first)
    have hguard : call.compactedIndices.any call.cache.cacheableMessageIndices.contains = true ↔
        ∃ i ∈ call.compactedIndices, i ∈ call.cache.cacheableMessageIndices := by
      simp
    constructor
    · intro hsame route' cost' hreaches'
      obtain rfl := hunique hreaches'
      split at hsame
      · rename_i hnone
        exact hnone.elim (fun h => Or.inl (hguard.1 h)) fun h => Or.inr (Or.inl h)
      · exact Or.inr (Or.inr hsame.symm)
    · intro hall
      rcases hall route cost hreaches with hcached | hroute | hsame
      · rw [if_pos (Or.inl (hguard.2 hcached)), Option.none_or]
      · rw [if_pos (Or.inr hroute), Option.none_or]
      · split
        · rfl
        · rw [hsame]
          rfl
  · exact iff_of_true hlive fun route cost hreaches => absurd hreaches (hnot route cost)

/-! ## A read of the old prefix -/

namespace RewrittenAux

open FloorAux (longAnswer onlyRoute fortyTokens)
open FitsAux (longAnswerIntent allocating twoModels onlyRun windowed)
open PrefixAux (tabled digests_tabled cachingRoute)

/-- A request after a long answer, which is a part of the prefix that it offers. -/
def followUp : List Message := longAnswer ++ [[("role", .str "user".toList), ("content", .str "go".toList)]]

/-- The long answer after the cut. -/
def shortAnswer : Message :=
  [("role", .str "assistant".toList), ("content", .str (List.replicate 154 'a' ++
    "\n[PromptRail inline assistant summary]\n".toList ++ List.replicate 86 'a'))]

/-- The digests of the messages, of the answer, and of the prefix before and after the cut. -/
def followUpEnv : Env :=
  tabled
    [(List.replicate 600 'a', "ba35c170729417f1499e0886e7e12fcdb4ab00ad411110ae1e888c766d4ed70d".toList),
      (canonicalJson (.obj (followUp.getD 0 [])), "9017285104d1b249960a30732b8e92f6e2fb3acf8d8e4b2a16c116ad0c1ed211".toList),
      (canonicalJson (.obj (followUp.getD 1 [])), "bbad63c173dc254ff069c0a07c1add3084f0adb0925cb00767b0dbc8b09853c8".toList),
      (canonicalJson (.obj (followUp.getD 2 [])), "16f97dfe4556587c505d591608c2de0e882c521ae2075c22d3c19e2632f15d76".toList),
      (canonicalJson (.obj shortAnswer), "b709b3b541226187d7602383aa52c21fe86722ce98061c53270d8bad1dbdbc74".toList),
      (offeredText longAnswer [], "56a9cc971203cb2e79cb40511d96dddbe9ba47c162801d3dfd02f424ca6b5d89".toList),
      (offeredText [followUp.getD 0 [], shortAnswer] [],
        "073f096f9b2d0c19cc9c20534cfc7f31bee31fff47ea0cc0d7858b688c256878".toList)]

theorem digest_followUpEnv (t : Text) : followUpEnv.sha256 t ≠ [] := (digests_tabled (by decide +kernel) (by decide +kernel)).ne_nil t

def followUpIntent : CallIntent := { longAnswerIntent with messages := followUp, task := "go".toList }

/-- One model with one route. -/
def oneRoute (route : ProviderRoute) : RunConfiguration :=
  { twoModels with candidates := [{ windowed "small" 1 FitsAux.fullScore_valid with routes := [route], validate_routes := by simp }] }

/-- The call is reserved in a run without limits. -/
def reservedGateway (route : ProviderRoute) : PromptRailGateway where
  system :=
    { controller :=
        { allocatorModelId := "gemma"
          runs := fun r =>
            if r = 0 then
              some
                { runId := 0
                  sessionId := "session".toList
                  policy := twoModels.policy.toOperatingPolicy
                  reserved := Table.ofList [(1, { fortyTokens with requiredContextTokens := 120 })]
                  nextSequence := 2
                  startedAt := 0 }
            else none
          uuid := 2 } }
  runs := onlyRun (oneRoute route)

/-- The provider reports a read of a hundred tokens. -/
def readUsage : ModelUsage where
  inputTokens := 130
  outputTokens := 5
  latencyMs := 15
  provider := "first"
  modelId := "small"
  cacheReadTokens := 100

/-- The call that is prepared, if it has a property. -/
def somePrepared (route : ProviderRoute) (p : PreparedCall → Bool) : Bool :=
  (prepareCall followUpEnv 32 32 (onlyRun (oneRoute route)) 0 followUpIntent allocating).toOption.any p

theorem somePrepared_spec {route : ProviderRoute} {p : PreparedCall → Bool} (h : somePrepared route p = true) :
    ∃ call, prepareCall followUpEnv 32 32 (onlyRun (oneRoute route)) 0 followUpIntent allocating = .ok call ∧ p call = true := by
  unfold somePrepared at h
  exact Outcome.ok_of_any h

/-- The long answer is cut, and it is a part of the offered prefix. -/
def answerCut (call : PreparedCall) : Bool :=
  decide (1 < proposedPrefixCount followUpEnv call.intent.messages) &&
    estimateTokens (.obj (call.compaction.messages.getD 1 [])) != estimateTokens (.obj (call.intent.messages.getD 1 []))

theorem changed_of_answerCut {call : PreparedCall} (h : answerCut call = true) :
    ∃ i < proposedPrefixCount followUpEnv call.intent.messages,
      call.compaction.messages.getD i [] ≠ call.intent.messages.getD i [] := by
  rw [answerCut, Bool.and_eq_true, decide_eq_true_eq, bne_iff_ne] at h
  exact ⟨1, h.1, fun hsame => h.2 (by rw [hsame])⟩

end RewrittenAux

open FitsAux (allocating onlyRun)
open PrefixAux (cachingRoute)
open FloorAux (onlyRoute)

/-- On a route without a cache nothing is promoted. -/
theorem rewritten_prefix_kept_uncached : ∃ call,
    prepareCall followUpEnv 32 32 (onlyRun (oneRoute onlyRoute)) 0 followUpIntent allocating = .ok call ∧
    ((reservedGateway onlyRoute).observeModel followUpEnv call readUsage).2.liveRecord call.intent.sessionId =
      (reservedGateway onlyRoute).liveRecord call.intent.sessionId := by
  obtain ⟨call, hprepare, hcall⟩ := @somePrepared_spec onlyRoute
    (fun call => answerCut call && call.provider.routes.all fun route => !route.cacheSupported) (by decide +kernel)
  rw [Bool.and_eq_true] at hcall
  refine ⟨call, hprepare, (rewritten_prefix_kept_iff followUpEnv digest_followUpEnv 32 32 (onlyRun (oneRoute onlyRoute)) 0
    followUpIntent allocating call [] call (reservedGateway onlyRoute) readUsage hprepare rfl
    (changed_of_answerCut hcall.1) (by decide) rfl).2 fun route cost hreaches => ?_⟩
  have huncached := List.all_eq_true.1 hcall.2 route (List.mem_of_find?_eq_some hreaches.first)
  exact Or.inr (Or.inl (by simpa using huncached))

/-- A read of the old prefix promotes the rewritten one, which the provider has never seen. -/
theorem rewritten_prefix_promoted : ¬ ∀ (env : Env) (plannerKeptTokens minimumKeptTokens : Nat) (runs : RunId → Option RunConfiguration)
    (runId : RunId) (intent : CallIntent) (awaited : Awaited) (call : PreparedCall) (g : PromptRailGateway) (usage : ModelUsage),
    prepareCall env plannerKeptTokens minimumKeptTokens runs runId intent awaited = .ok call →
    (∃ i < proposedPrefixCount env call.intent.messages, call.compaction.messages.getD i [] ≠ call.intent.messages.getD i []) →
    0 < usage.cacheReadTokens → usage.cacheWriteTokens = 0 →
    (g.observeModel env call usage).2.liveRecord call.intent.sessionId = g.liveRecord call.intent.sessionId := by
  intro h
  obtain ⟨call, hprepare, hcall⟩ := @somePrepared_spec cachingRoute
    (fun call => answerCut call &&
      (((reservedGateway cachingRoute).observeModel followUpEnv call readUsage).2.liveRecord call.intent.sessionId).isSome &&
      ((reservedGateway cachingRoute).liveRecord call.intent.sessionId).isNone) (by decide +kernel)
  rw [Bool.and_eq_true, Bool.and_eq_true] at hcall
  have hsame := h followUpEnv 32 32 _ 0 followUpIntent allocating call (reservedGateway cachingRoute) readUsage hprepare
    (changed_of_answerCut hcall.1.1) (by decide) rfl
  rw [hsame, Option.isSome_iff_ne_none] at hcall
  exact hcall.1.2 (Option.isNone_iff_eq_none.1 hcall.2)

end Gateway

end PromptRail
