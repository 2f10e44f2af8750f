import PromptRail.Cache.Prefix

/-!
# What an analysis says of the cache

An analysis reports the tokens of the prefix that a provider confirmed, and for each candidate whether its cheapest route reuses
them. The first report counts messages, the second does not: a record of tools alone, which no message comes before, is reused and
not reported.
-/

namespace PromptRail

open PyText (Text)
open Table (Dict)
open PromptCacheCoordinator (candidatePrefixCount promoted activeRecord)
open PrefixAux (recordOf sessions_of_analyze)

/-- Every reuse that an analysis reports is of tokens that it reports as cacheable. -/
def CacheAnalysis.Accounted (analysis : CacheAnalysis) : Prop :=
  ∀ modelId v, analysis.values.lookup modelId = some v → v.exactReuse = true →
    0 < analysis.cacheableTokens ∧ v.cachedTokens ≤ analysis.cacheableTokens

/-- The tokens of the messages and the tools. -/
def AnalyzeArguments.totalTokens (args : AnalyzeArguments) : Nat :=
  (args.messages.map fun m => estimateTokens (.obj m)).sum + (args.tools.map fun t => estimateTokens (.obj t)).sum

/-- The cheapest route of the candidate has a cache, and is one of the provider of the record. -/
def ModelCandidate.Reuses (candidate : ModelCandidate) (totalTokens predictedOutputTokens : Nat) (record : CacheRecord) : Prop :=
  ∃ first rest,
    candidate.routes.map (routeCost candidate.modelId totalTokens predictedOutputTokens (some record)) = first :: rest ∧
    (cheapest first rest).route.provider = record.provider ∧ (cheapest first rest).route.cacheSupported = true

/-- The last candidate of the model of the record would reuse it. -/
def AnalyzeArguments.Reuses (args : AnalyzeArguments) (record : CacheRecord) : Prop :=
  ∃ candidate, args.candidates.reverse.find? (fun c => c.modelId = record.modelId) = some candidate ∧
    candidate.Reuses args.totalTokens args.predictedOutputTokens record

/-- An observation that stores a record stores one of some message. -/
def CacheOp.ConfirmsMessages : CacheOp → Prop
  | .analyze _ _ => True
  | .observe now _ analysis route usage => ∀ record, promoted now analysis route usage = some record → 0 < record.messageCount

namespace EvidenceAux

/-! ## The records of the sessions -/

/-- The record of a session at a moment is the one it holds. -/
theorem recordOf_of_sessionAt {c : PromptCacheCoordinator} {sessionId : Text} {now : Int} {record : CacheRecord}
    (h : (c.sessionAt sessionId now).record = some record) : recordOf c sessionId = some record := by
  unfold PromptCacheCoordinator.sessionAt at h
  simp only at h
  unfold recordOf
  cases hstate : c.sessions.lookup sessionId with
  | none =>
    rw [hstate] at h
    split at h <;> cases h
  | some state =>
    rw [hstate] at h
    split at h
    · cases h
    · exact h

/-- What holds of the records of all sessions, and of the one an observation stores, holds of the records after it. -/
theorem records_step {P : CacheRecord → Prop} {env : Env} {c : PromptCacheCoordinator} {op : CacheOp}
    (hc : ∀ sessionId record, recordOf c sessionId = some record → P record)
    (hop : ∀ now sessionId analysis route usage, op = .observe now sessionId analysis route usage →
      ∀ record, promoted now analysis route usage = some record → P record) :
    ∀ sessionId record, recordOf (c.step env op) sessionId = some record → P record := by
  intro sessionId record h
  cases op with
  | analyze now args =>
    change ((c.analyze env now args).2.sessions.lookup sessionId).bind (·.record) = some record at h
    rcases sessions_of_analyze env c now args with hsame | hsame
    · rw [hsame] at h
      exact hc sessionId record h
    · rw [hsame, Table.lookup_insert_eq] at h
      split at h
      · exact hc _ record (recordOf_of_sessionAt h)
      · exact hc sessionId record h
  | observe now sessionId' analysis route usage =>
    unfold recordOf PromptCacheCoordinator.step PromptCacheCoordinator.observe at h
    simp only [Table.lookup_insert_eq] at h
    split at h
    · rcases Option.or_eq_some_iff.1 h with hstored | ⟨-, hkept⟩
      · exact hop _ _ _ _ _ rfl record hstored
      · cases hstate : c.sessions.lookup sessionId' with
        | none =>
          rw [hstate] at hkept
          cases hkept
        | some state =>
          rw [hstate] at hkept
          exact hc sessionId' record (by rw [recordOf, hstate]; exact hkept)
    · exact hc sessionId record h

theorem records_run {P : CacheRecord → Prop} (env : Env) {ops : List CacheOp} {c : PromptCacheCoordinator}
    (hc : ∀ sessionId record, recordOf c sessionId = some record → P record)
    (hops : ∀ now sessionId analysis route usage, CacheOp.observe now sessionId analysis route usage ∈ ops →
      ∀ record, promoted now analysis route usage = some record → P record) :
    ∀ sessionId record, recordOf (ops.foldl (PromptCacheCoordinator.step env) c) sessionId = some record → P record := by
  induction ops generalizing c with
  | nil => exact hc
  | cons op ops ih =>
    refine ih (records_step hc ?_) fun now sessionId analysis route usage hmem => hops _ _ _ _ _ (List.mem_cons_of_mem _ hmem)
    rintro now sessionId analysis route usage rfl
    exact hops _ _ _ _ _ List.mem_cons_self

/-- The record that an observation stores has tokens. -/
theorem prefixTokens_pos_of_promoted {now : Int} {analysis : CacheAnalysis} {route : ProviderRoute} {usage : ModelUsage}
    {record : CacheRecord} (h : promoted now analysis route usage = some record) : 0 < record.prefixTokens := by
  unfold promoted at h
  split at h
  · cases h
  · split at h
    · rename_i hstores
      obtain rfl := (Option.some.inj h).symm
      simp only [Bool.and_eq_true, Bool.or_eq_true, decide_eq_true_eq] at hstores
      exact lt_max_iff.2 hstores.2
    · cases h

/-! ## The values of the candidates -/

theorem cheapest_mem (best : RouteCost) (rest : List RouteCost) : cheapest best rest ∈ best :: rest := by
  induction rest generalizing best with
  | nil => exact List.mem_singleton_self best
  | cons r rest ih =>
    rw [cheapest]
    split
    · exact List.mem_cons_of_mem _ (ih r)
    · rcases List.mem_cons.1 (ih best) with hbest | hrest
      · rw [hbest]
        exact List.mem_cons_self
      · exact List.mem_cons_of_mem _ (List.mem_cons_of_mem _ hrest)

/-- Of the record of a model, a route of the model reuses the tokens exactly when it has a cache and is the provider's. -/
theorem exact_routeCost {modelId : String} {totalTokens predictedOutputTokens : Nat} {record : Option CacheRecord}
    {route : ProviderRoute} :
    (routeCost modelId totalTokens predictedOutputTokens record route).exact = true ↔
      ∃ r, record = some r ∧ modelId = r.modelId ∧ route.provider = r.provider ∧ route.cacheSupported = true := by
  cases record <;> simp [routeCost, and_assoc]

/-- The value of a candidate is exact when a record of its model is active that its cheapest route reuses; the tokens it counts are
then of the record. -/
theorem exactReuse_candidateValue {candidate : ModelCandidate} {totalTokens predictedOutputTokens : Nat}
    {record : Option CacheRecord} {v : CacheValue}
    (h : candidateValue candidate totalTokens predictedOutputTokens record = some v) :
    (v.exactReuse = true ↔ ∃ r, record = some r ∧ candidate.modelId = r.modelId ∧
      candidate.Reuses totalTokens predictedOutputTokens r) ∧
    ∀ r, record = some r → v.cachedTokens ≤ r.prefixTokens := by
  unfold candidateValue at h
  split at h
  · cases h
  rename_i first rest hroutes
  simp only [Option.some.injEq] at h
  subst h
  obtain ⟨route, -, hroute⟩ := List.mem_map.1 (hroutes ▸ cheapest_mem first rest)
  simp only [← hroute]
  constructor
  · rw [exact_routeCost]
    constructor
    · rintro ⟨r, rfl, hmodel, hprovider, hcache⟩
      exact ⟨r, rfl, hmodel, first, rest, hroutes, hroute ▸ hprovider, hroute ▸ hcache⟩
    · rintro ⟨r, rfl, hmodel, first', rest', hroutes', hprovider, hcache⟩
      obtain ⟨rfl, rfl⟩ := List.cons.inj (hroutes.symm.trans hroutes')
      rw [← hroute] at hprovider hcache
      exact ⟨r, rfl, hmodel, hprovider, hcache⟩
  · rintro r rfl
    simp only [routeCost]
    split
    · exact min_le_right _ _
    · exact Nat.zero_le _

/-- A candidate has a value: it has a route. -/
theorem exists_candidateValue (candidate : ModelCandidate) (totalTokens predictedOutputTokens : Nat)
    (record : Option CacheRecord) : ∃ v, candidateValue candidate totalTokens predictedOutputTokens record = some v := by
  unfold candidateValue
  split
  · rename_i hnil
    exact absurd (List.map_eq_nil_iff.1 hnil) candidate.validate_routes.1
  · exact ⟨_, rfl⟩

/-- The value under a model is the one of the last candidate of the model. -/
theorem lookup_values (env : Env) (c : PromptCacheCoordinator) (state : SessionState) (args : AnalyzeArguments)
    (protected_ : List Nat) (modelId : String) (v : CacheValue) :
    (c.analysis env state args protected_).values.lookup modelId = some v ↔
      ∃ candidate, args.candidates.reverse.find? (fun c => c.modelId = modelId) = some candidate ∧
        candidateValue candidate args.totalTokens args.predictedOutputTokens (activeRecord env state args) = some v := by
  have hpasses : (fun candidate : ModelCandidate =>
      ((candidateValue candidate args.totalTokens args.predictedOutputTokens (activeRecord env state args)).map fun v =>
        (candidate.modelId, v)).any fun p => decide (p.1 = modelId)) = fun candidate => decide (candidate.modelId = modelId) := by
    funext candidate
    obtain ⟨v, hv⟩ := exists_candidateValue candidate args.totalTokens args.predictedOutputTokens (activeRecord env state args)
    rw [hv]
    rfl
  change (Table.ofList (args.candidates.filterMap fun candidate =>
    (candidateValue candidate args.totalTokens args.predictedOutputTokens (activeRecord env state args)).map fun v =>
      (candidate.modelId, v))).lookup modelId = some v ↔ _
  rw [Table.lookup_ofList, ← List.filterMap_reverse, List.find?_filterMap, hpasses]
  simp only [Option.map_eq_some_iff, Option.bind_eq_some_iff]
  constructor
  · rintro ⟨_, ⟨candidate, hfound, v, hv, rfl⟩, rfl⟩
    exact ⟨candidate, hfound, hv⟩
  · rintro ⟨candidate, hfound, hv⟩
    exact ⟨_, ⟨candidate, hfound, v, hv, rfl⟩, rfl⟩

/-- The tokens of a record that is active are cacheable when it is one of some message. -/
theorem cacheableTokens_of_active (env : Env) (c : PromptCacheCoordinator) {state : SessionState} {args : AnalyzeArguments}
    (protected_ : List Nat) {record : CacheRecord} (h : activeRecord env state args = some record)
    (htokens : 0 < record.prefixTokens) :
    (c.analysis env state args protected_).cacheableTokens = if 0 < record.messageCount then record.prefixTokens else 0 := by
  simp [PromptCacheCoordinator.analysis, h, Option.filter_some, htokens]

/-- An analysis accounts for what it reuses unless the record that its last candidate reuses is one of no message. -/
theorem reuse_accounted_iff (env : Env) (c : PromptCacheCoordinator) {state : SessionState} {args : AnalyzeArguments}
    (protected_ : List Nat) (htokens : ∀ record, activeRecord env state args = some record → 0 < record.prefixTokens) :
    (c.analysis env state args protected_).Accounted ↔
      ∀ record, activeRecord env state args = some record → args.Reuses record → 0 < record.messageCount := by
  constructor
  · rintro haccounted record hactive ⟨candidate, hfound, hreuses⟩
    obtain ⟨v, hv⟩ := exists_candidateValue candidate args.totalTokens args.predictedOutputTokens (activeRecord env state args)
    have hmodel : candidate.modelId = record.modelId := by simpa using List.find?_some hfound
    have hexact := (exactReuse_candidateValue hv).1.2 ⟨record, hactive, hmodel, hreuses⟩
    obtain ⟨hpos, -⟩ := haccounted _ v ((lookup_values env c state args protected_ _ v).2 ⟨candidate, hfound, hv⟩) hexact
    rw [cacheableTokens_of_active env c protected_ hactive (htokens record hactive)] at hpos
    by_contra hnone
    rw [if_neg hnone] at hpos
    exact absurd hpos (Nat.lt_irrefl 0)
  · intro hmessages modelId v hv hexact
    obtain ⟨candidate, hfound, hv⟩ := (lookup_values env c state args protected_ _ v).1 hv
    obtain ⟨hiff, hcached⟩ := exactReuse_candidateValue hv
    obtain ⟨record, hactive, hmodel, hreuses⟩ := hiff.1 hexact
    have hown : candidate.modelId = modelId := by simpa using List.find?_some hfound
    have hpos := hmessages record hactive ⟨candidate, by rwa [← hmodel, hown], hreuses⟩
    rw [cacheableTokens_of_active env c protected_ hactive (htokens record hactive), if_pos hpos]
    exact ⟨htokens record hactive, hcached record hactive⟩

end EvidenceAux

open EvidenceAux

/-- After any history, an analysis reports an exact reuse only of tokens that it reports as cacheable if and only if the record that
its messages match, when the cheapest route of its model would reuse it, is one of some message; so it does when every observation of
the history confirms a message. -/
theorem exact_reuse_accounted_iff (env : Env) (minimum : Nat) (ops : List CacheOp) (now : Int) (args : AnalyzeArguments)
    (analysis : CacheAnalysis)
    (h : ((ops.foldl (PromptCacheCoordinator.step env) { minimumCompactableTokens := minimum }).analyze env now args).1 =
      .ok analysis) :
    (analysis.Accounted ↔
      ∀ record, activeRecord env ((ops.foldl (PromptCacheCoordinator.step env)
          { minimumCompactableTokens := minimum }).sessionAt args.sessionId now) args = some record →
        args.Reuses record → 0 < record.messageCount) ∧
    ((∀ op ∈ ops, op.ConfirmsMessages) → analysis.Accounted) := by
  have hstart : ∀ (P : CacheRecord → Prop) sessionId record,
      recordOf { minimumCompactableTokens := minimum } sessionId = some record → P record := by
    intro P sessionId record hrecord
    cases hrecord
  have hheld : ∀ record, activeRecord env ((ops.foldl (PromptCacheCoordinator.step env)
      { minimumCompactableTokens := minimum }).sessionAt args.sessionId now) args = some record →
      recordOf (ops.foldl (PromptCacheCoordinator.step env) { minimumCompactableTokens := minimum }) args.sessionId =
        some record :=
    fun record hactive => recordOf_of_sessionAt (Option.filter_eq_some_iff.1 hactive).1
  obtain ⟨protected_, -, rfl⟩ := PromptCacheCoordinator.analyze_ok h
  have hiff := reuse_accounted_iff env (ops.foldl (PromptCacheCoordinator.step env) { minimumCompactableTokens := minimum }) protected_
    fun record hactive => records_run env (hstart _)
      (fun _ _ _ _ _ _ _ hstored => prefixTokens_pos_of_promoted hstored) _ _ (hheld record hactive)
  refine ⟨hiff, fun hops => hiff.2 fun record hactive _ => ?_⟩
  exact records_run (P := fun r => 0 < r.messageCount) env (hstart _)
    (fun _ _ _ _ _ hmem record hstored => hops _ hmem record hstored) _ _ (hheld record hactive)

namespace EvidenceAux

/-- A first message with a tool, which is the prefix it offers. -/
def toolArguments : AnalyzeArguments where
  sessionId := "session".toList
  messages := [[("role", .str "user".toList), ("content", .str "hi".toList)]]
  tools := [[("name", .str "search".toList)]]
  candidates := [{ modelId := "small", routes := [PrefixAux.cachingRoute], validate_routes := by decide }]
  predictedOutputTokens := 10

/-- The digests of the message, of the tool, and of the prefix. -/
def toolEnv : Env :=
  PrefixAux.tabled
    [("\x7b\"content\":\"hi\",\"role\":\"user\"\x7d".toList,
        "9017285104d1b249960a30732b8e92f6e2fb3acf8d8e4b2a16c116ad0c1ed211".toList),
      ("\x7b\"name\":\"search\"\x7d".toList,
        "6fe519851b2065a13dca543ef9024bd8f4766f7c9ab587fbe6668e587fb177a4".toList),
      ("\x7b\"messages\":[],\"tools\":[\x7b\"name\":\"search\"\x7d]\x7d".toList,
        "9fb61d8467b9104bec6ae5fc8d20173f88e3a9d81f303247d7bf82fed320e2f6".toList)]

/-- A message after a system message, which is the prefix it offers. -/
def briefedArguments : AnalyzeArguments :=
  { PrefixAux.briefingArguments with candidates := toolArguments.candidates }

/-- A first call, and the report of the provider that it stored the prefix. -/
def firstCall (env : Env) (args : AnalyzeArguments) (protected_ : List Nat) : List CacheOp :=
  [.analyze 0 args,
    .observe 40 args.sessionId (PromptCacheCoordinator.analysis env {} {} args protected_) PrefixAux.cachingRoute
      PrefixAux.writtenUsage]

end EvidenceAux

/-- Tools that a provider reported as cached are reused, by a call whose analysis has no cacheable tokens. -/
theorem exact_reuse_unaccounted : ∃ first analysis v,
    (PromptCacheCoordinator.analyze toolEnv {} 0 toolArguments).1 = .ok first ∧
    (([CacheOp.analyze 0 toolArguments, .observe 40 toolArguments.sessionId first PrefixAux.cachingRoute
        PrefixAux.writtenUsage].foldl (PromptCacheCoordinator.step toolEnv) {}).analyze toolEnv 1000 toolArguments).1 =
      .ok analysis ∧
    analysis.values.lookup "small" = some v ∧ v.exactReuse = true ∧ v.cachedTokens = 10 ∧ analysis.cacheableTokens = 0 := by
  exact ⟨PromptCacheCoordinator.analysis toolEnv {} {} toolArguments [0], _, _, rfl, rfl, rfl, rfl, rfl, rfl⟩

/-- A system message that a provider reported as cached is reused and accounted for. -/
theorem exact_reuse_accounted_briefed : ∃ analysis v,
    (((firstCall PrefixAux.briefingEnv briefedArguments [0, 1]).foldl (PromptCacheCoordinator.step PrefixAux.briefingEnv)
      {}).analyze PrefixAux.briefingEnv 1000 briefedArguments).1 = .ok analysis ∧
    analysis.values.lookup "small" = some v ∧ v.exactReuse = true ∧ 0 < analysis.cacheableTokens ∧
    v.cachedTokens ≤ analysis.cacheableTokens := by
  refine ⟨_, _, rfl, rfl, rfl, ?_⟩
  refine (exact_reuse_accounted_iff PrefixAux.briefingEnv 128 (firstCall PrefixAux.briefingEnv briefedArguments [0, 1]) 1000
    briefedArguments _ rfl).2 ?_ "small" _ rfl rfl
  rw [firstCall, List.forall_mem_cons, List.forall_mem_singleton]
  refine ⟨trivial, fun record hrecord => ?_⟩
  obtain rfl := (Option.some.inj hrecord).symm
  exact Nat.one_pos

end PromptRail
