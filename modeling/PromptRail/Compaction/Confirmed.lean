import PromptRail.Compaction.Floor
import PromptRail.Library.JsonRoundTrip

/-!
# The confirmed prefix under a compaction

The planner opens the messages of the confirmed prefix to a cut only when the others cannot lose enough. Otherwise no message of the
prefix changes, and what is sent still has the hash that the provider confirmed.
-/

namespace PromptRail

open PyText (Text)
open Json (Value)

/-- What the messages outside the confirmed prefix can lose. -/
def uncachedCapacity (minimumKeptTokens : Nat) (cache : CacheAnalysis) : Nat :=
  reducibleTokens minimumKeptTokens cache (cache.compactableMessageIndices.filter fun i =>
    !cache.protectedMessageIndices.contains i && !cache.cacheableMessageIndices.contains i)

namespace ConfirmedAux

open FloorAux

variable {env : Env} {kept : Nat} {cache : CacheAnalysis} {decision : ModelDecision} {budget : CallBudget} {i : Nat}

/-! ## What the planner opens -/

theorem plan_not_protected (h : i ∈ (plan kept cache decision budget).compactableMessageIndices) :
    i ∉ cache.protectedMessageIndices := by
  have hopen := (List.mem_filter.1 h).2
  simp only [Bool.and_eq_true, Bool.not_eq_true', List.contains_eq_mem, decide_eq_false_iff_not] at hopen
  exact hopen.1

/-- A message of the confirmed prefix is opened only when the others do not suffice. -/
theorem plan_cached (h : i ∈ (plan kept cache decision budget).compactableMessageIndices)
    (hi : i ∈ cache.cacheableMessageIndices) :
    uncachedCapacity kept cache < (plan kept cache decision budget).requiredReductionTokens := by
  have hopen := (List.mem_filter.1 h).2
  rw [Bool.and_eq_true, Bool.or_eq_true] at hopen
  have hcached : ¬(!cache.cacheableMessageIndices.contains i) = true := by simp [hi]
  exact of_decide_eq_true (hopen.2.resolve_right hcached)

theorem reducible_eq_capacity :
    reducibleTokens kept cache (plan kept cache decision budget).compactableMessageIndices =
      ((plan kept cache decision budget).compactableMessageIndices.map (capacity kept cache)).sum := by
  rw [reducibleTokens]
  congr 1
  refine List.map_congr_left fun i hi => ?_
  rw [capacity, if_neg]
  exact fun hcontains => plan_not_protected hi (List.contains_iff_mem.1 hcontains)

/-! ## What a compaction leaves -/

/-- On a plan that leaves the protected messages alone, a compaction returns, and changes no message but those of the plan. -/
theorem compact_returns (env : Env) (kept : Nat) {messages : List Message} {plan : CompactionPlan}
    (hlength : messages.length = cache.messageTokens.length) (hn : plan.compactableMessageIndices.Nodup)
    (hplan : ∀ i ∈ plan.compactableMessageIndices, i < messages.length ∧ i ∉ cache.protectedMessageIndices) :
    ∃ result, compact env kept messages cache plan = .ok result ∧ result.messages.length = messages.length ∧
      ∀ i ∉ plan.compactableMessageIndices, result.messages.getD i [] = messages.getD i [] := by
  obtain ⟨saving, htrim, -⟩ := foldl_trims env kept (blockByIndex cache.contextBlocks) plan (shares kept cache plan)
    { transformed := messages, remaining := plan.requiredReductionTokens } (shares_nodup hn)
    fun p hp => (hplan p.1 (shares_mem hn hp)).1
  have hothers : ∀ i, i ∉ plan.compactableMessageIndices → ((shares kept cache plan).foldl
      (cutStep env kept (blockByIndex cache.contextBlocks) plan)
      { transformed := messages, remaining := plan.requiredReductionTokens }).transformed.getD i [] = messages.getD i [] := by
    intro i hi
    refine htrim.others i fun hmem => ?_
    obtain ⟨p, hp, rfl⟩ := List.mem_map.1 hmem
    exact hi (shares_mem hn hp)
  have hbound := validateBoundaries_ok messages _ (fun i hi => (hplan i hi).2) hothers
  unfold compact
  rw [if_neg (not_not.2 hlength)]
  simp only [hbound]
  exact ⟨_, rfl, htrim.length, hothers⟩

/-- The hash of a prefix depends on its messages only. -/
theorem prefixHash_congr {messages messages' : List Message} {count : Nat} (tools : List Message)
    (h : messages.take count = messages'.take count) :
    prefixHash env messages count tools = prefixHash env messages' count tools := by
  unfold prefixHash
  rw [h]

theorem take_eq {messages messages' : List Message} (hlength : messages'.length = messages.length) {count : Nat}
    (h : ∀ i < count, messages'.getD i [] = messages.getD i []) : messages'.take count = messages.take count := by
  refine List.ext_getElem (by simp [hlength]) fun i hi hi' => ?_
  have hlt : i < count := lt_of_lt_of_le hi (List.length_take_le _ _)
  have hbound : i < messages.length := lt_of_lt_of_le hi' (List.length_take_le' _ _)
  have hsame := h i hlt
  simpa [List.getD_eq_getElem?_getD, hbound, hlength] using hsame

/-- The confirmed prefix of an analysis: all messages before the end of an active record. -/
theorem cacheable_of_analyze {c : PromptCacheCoordinator} {now : Int} {args : AnalyzeArguments}
    (h : (c.analyze env now args).1 = .ok cache) :
    cache.cacheableMessageIndices = List.range cache.cacheableMessageIndices.length ∧
      ∀ record, PromptCacheCoordinator.activeRecord env (c.sessionAt args.sessionId now) args = some record →
        0 < record.prefixTokens → cache.cacheableMessageIndices.length = record.messageCount ∧
          prefixHash env args.messages record.messageCount args.tools = some record.prefixHash := by
  obtain ⟨protected_, -, rfl⟩ := PromptCacheCoordinator.analyze_ok h
  refine ⟨by simp [PromptCacheCoordinator.analysis], fun record hrecord hpositive => ⟨?_, ?_⟩⟩
  · simp [PromptCacheCoordinator.analysis, hrecord, Option.filter, hpositive]
  · obtain ⟨-, hactive⟩ := Option.filter_eq_some_iff.1 hrecord
    rw [Bool.and_eq_true] at hactive
    exact eq_of_beq hactive.2

end ConfirmedAux

open ConfirmedAux FloorAux

/-- What a plan opens has the capacity it requires and no protected message, and a message of the confirmed prefix only where the
others do not suffice; where they do, the compaction leaves that prefix, and its hash, as they were. -/
theorem compaction_respects_confirmed_prefix (env : Env) (minimumKeptTokens kept' : Nat) (c : PromptCacheCoordinator) (now : Int)
    (args : AnalyzeArguments) (cache : CacheAnalysis) (decision : ModelDecision) (budget : CallBudget)
    (h : (c.analyze env now args).1 = .ok cache) :
    let plan := plan minimumKeptTokens cache decision budget
    (∀ i ∈ plan.compactableMessageIndices, i ∉ cache.protectedMessageIndices) ∧
    plan.requiredReductionTokens ≤ reducibleTokens minimumKeptTokens cache plan.compactableMessageIndices ∧
    (∀ i ∈ plan.compactableMessageIndices, i ∈ cache.cacheableMessageIndices →
      uncachedCapacity minimumKeptTokens cache < plan.requiredReductionTokens) ∧
    (plan.requiredReductionTokens ≤ uncachedCapacity minimumKeptTokens cache →
      ∃ result, compact env kept' args.messages cache plan = .ok result ∧
        (result.messages.take cache.cacheableMessageIndices.length).map (fun m => canonicalJson (.obj m)) =
          (args.messages.take cache.cacheableMessageIndices.length).map (fun m => canonicalJson (.obj m)) ∧
        ∀ record, PromptCacheCoordinator.activeRecord env (c.sessionAt args.sessionId now) args = some record →
          0 < record.prefixTokens → cache.cacheableMessageIndices.length = record.messageCount ∧
            prefixHash env result.messages record.messageCount args.tools = some record.prefixHash) := by
  have hA := analyses_of_analyze h
  obtain ⟨hrange, hconfirmed⟩ := cacheable_of_analyze h
  refine ⟨fun i hi => plan_not_protected hi, ?_, fun i hi hcached => plan_cached hi hcached, fun hsuffices => ?_⟩
  · rw [reducible_eq_capacity]
    exact plan_capacity minimumKeptTokens cache decision budget
  · obtain ⟨result, hresult, hlength, hothers⟩ := compact_returns env kept'
      (show args.messages.length = cache.messageTokens.length by simp [hA.messageTokens]) (hA.nodup.filter _)
      fun i hi => hA.compactable i (plan_compactable hi)
    have hsame : result.messages.take cache.cacheableMessageIndices.length =
        args.messages.take cache.cacheableMessageIndices.length := by
      refine take_eq hlength fun i hi => hothers i fun hopen => ?_
      have hcached : i ∈ cache.cacheableMessageIndices := by
        rw [hrange]
        exact List.mem_range.2 hi
      exact absurd (plan_cached hopen hcached) (Nat.not_lt.2 hsuffices)
    refine ⟨result, hresult, by rw [hsame], fun record hrecord hpositive => ?_⟩
    obtain ⟨hcount, hhash⟩ := hconfirmed record hrecord hpositive
    refine ⟨hcount, ?_⟩
    rw [← hhash]
    exact prefixHash_congr args.tools (hcount ▸ hsame)

/-! ## A call with a confirmed prefix -/

namespace ConfirmedAux

/-- Two requests, each with a long answer. -/
def twoRequests : List Message :=
  longAnswer ++ [[("role", .str "user".toList), ("content", .str "go".toList)],
    [("role", .str "assistant".toList), ("content", .str (List.replicate 600 'b'))]]

/-- The digest of the first two messages. -/
def confirmedDigest : Text := "56a9cc971203cb2e79cb40511d96dddbe9ba47c162801d3dfd02f424ca6b5d89".toList

/-- The environment on this conversation: the digests of its messages, of the prefix before the second request, and of the text that
is cut. -/
def twoRequestsEnv : Env where
  sha256 t :=
    if t = canonicalJson (.obj [("messages", .arr (longAnswer.map .obj)), ("tools", .arr [])]) then confirmedDigest
    else if t = "\x7b\"content\":\"go\",\"role\":\"user\"\x7d".toList then
      "16f97dfe4556587c505d591608c2de0e882c521ae2075c22d3c19e2632f15d76".toList
    else if t = canonicalJson (.obj [("role", .str "assistant".toList), ("content", .str (List.replicate 600 'b'))]) then
      "ed5243ac1ee44a887e0015252a5f513167365cb98b05361a3793876f20f2e4f6".toList
    else if t = List.replicate 600 'b' then "3d0686a69a2c5b9bce3fe8d4ec51bea1720c04b7045046c0a9c09248be314453".toList
    else longAnswerEnv.sha256 t
  alnum _ := false
  repr _ := []

def twoRequestsArguments : AnalyzeArguments := { longAnswerArguments with messages := twoRequests, task := "go".toList }

/-- The session after a call whose provider reported the first two messages as cached. -/
def confirmedCoordinator : PromptCacheCoordinator where
  sessions := Table.ofList [("session".toList,
    { record := some
        { modelId := "small"
          provider := "first"
          prefixHash := confirmedDigest
          messageCount := 2
          prefixTokens := 167
          expiresAt := 300000 } })]

/-- A budget that requires 250 tokens of context. -/
def roomyBudget : CallBudget := { fortyTokens with requiredContextTokens := 250 }

end ConfirmedAux

/-- Of two long answers, the one outside the confirmed prefix is cut, and the prefix keeps its hash. -/
theorem compaction_respects_confirmed_prefix_two_requests : ∃ cache result,
    (confirmedCoordinator.analyze twoRequestsEnv 0 twoRequestsArguments).1 = .ok cache ∧
    cache.cacheableMessageIndices = [0, 1] ∧ cache.compactableMessageIndices = [1, 3] ∧
    0 < (plan 32 cache onlyDecision roomyBudget).requiredReductionTokens ∧
    compact twoRequestsEnv 32 twoRequests cache (plan 32 cache onlyDecision roomyBudget) = .ok result ∧
    prefixHash twoRequestsEnv result.messages 2 [] = some confirmedDigest := by
  have hrun : ((confirmedCoordinator.analyze twoRequestsEnv 0 twoRequestsArguments).1.toOption.any fun cache =>
      decide (cache.cacheableMessageIndices = [0, 1] ∧ cache.compactableMessageIndices = [1, 3] ∧
        0 < (plan 32 cache onlyDecision roomyBudget).requiredReductionTokens ∧
        (plan 32 cache onlyDecision roomyBudget).requiredReductionTokens ≤ uncachedCapacity 32 cache)) = true := by decide +kernel
  have hactive : ∃ record, PromptCacheCoordinator.activeRecord twoRequestsEnv
      (confirmedCoordinator.sessionAt twoRequestsArguments.sessionId 0) twoRequestsArguments = some record ∧
      0 < record.prefixTokens ∧ record.messageCount = 2 ∧ record.prefixHash = confirmedDigest := by
    have hsome : (PromptCacheCoordinator.activeRecord twoRequestsEnv
        (confirmedCoordinator.sessionAt twoRequestsArguments.sessionId 0) twoRequestsArguments).any fun record =>
          decide (0 < record.prefixTokens ∧ record.messageCount = 2 ∧ record.prefixHash = confirmedDigest) := by decide +kernel
    obtain ⟨record, hrecord, hfields⟩ := (Option.any_eq_true _ _).1 hsome
    exact ⟨record, hrecord, of_decide_eq_true hfields⟩
  obtain ⟨cache, hcache, hrun⟩ := Outcome.ok_of_any hrun
  obtain ⟨hcached, hcompactable, hpositive, hsuffices⟩ := of_decide_eq_true hrun
  obtain ⟨-, -, -, hkept⟩ := compaction_respects_confirmed_prefix twoRequestsEnv 32 32 confirmedCoordinator 0 twoRequestsArguments
    cache onlyDecision roomyBudget hcache
  obtain ⟨result, hresult, -, hhash⟩ := hkept hsuffices
  obtain ⟨record, hrecord, htokens, hcount, hdigest⟩ := hactive
  refine ⟨cache, result, hcache, hcached, hcompactable, hpositive, hresult, ?_⟩
  have hfinal := (hhash record hrecord htokens).2
  rw [hcount, hdigest] at hfinal
  exact hfinal

end PromptRail
