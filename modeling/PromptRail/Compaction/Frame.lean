import PromptRail.Compaction.Confirmed
import PromptRail.Library.Outcome

/-!
# What a compaction changes

Every cut is of a message of its own, so the records name the messages that have changed, each once, and what the records say was saved
is what the conversation lost. Nothing but the content of a message changes, and no message that the analysis protects.
-/

namespace PromptRail

open PyText (Text)
open Table (Dict)
open Json (Value get? SameBut)
open Outcome (bind_ok forall₂_mapM)

namespace FrameAux

open FloorAux ConfirmedAux

variable {env : Env} {kept : Nat} {blocks : Dict Nat ContextBlock} {plan : CompactionPlan}

/-- What a record says was saved. -/
def saved (r : CompactionRecord) : Int := (r.tokensBefore : Int) - r.tokensAfter

/-- What the loop of `compact` has done to the messages, and what it has recorded. -/
structure Recorded (messages : List Message) (state : Cut) : Prop where
  length : state.transformed.length = messages.length
  content : ∀ i, SameBut "content" (messages.getD i []) (state.transformed.getD i [])
  nodup : (state.records.map (·.messageIndex)).Nodup
  changed : ∀ i, i ∈ state.records.map (·.messageIndex) ↔ state.transformed.getD i [] ≠ messages.getD i []
  tokens : (tokensOf state.transformed : Int) + (state.records.map saved).sum = tokensOf messages
  smaller : ∀ r ∈ state.records, r.tokensAfter < r.tokensBefore

/-! ## One cut -/

/-- A turn of the loop does nothing, or replaces the content of its message by one that makes the message smaller, and records that. -/
theorem cutStep_cases (env : Env) (kept : Nat) (blocks : Dict Nat ContextBlock) (plan : CompactionPlan) (state : Cut)
    (share : Nat × Nat) :
    cutStep env kept blocks plan state share = state ∨
    ∃ content text record remaining, get? (state.transformed.getD share.1 []) "content" = some (.str content) ∧
      record.messageIndex = share.1 ∧ record.tokensBefore = estimateTokens (.obj (state.transformed.getD share.1 [])) ∧
      record.tokensAfter = estimateTokens (.obj (Json.set (state.transformed.getD share.1 []) "content" (.str text))) ∧
      record.tokensAfter < record.tokensBefore ∧
      cutStep env kept blocks plan state share =
        { transformed := state.transformed.set share.1 (Json.set (state.transformed.getD share.1 []) "content" (.str text))
          remaining
          records := state.records ++ [record] } := by
  obtain ⟨index, allocation⟩ := share
  simp only [cutStep]
  split
  · rename_i content hcontent
    split
    · exact Or.inl rfl
    · split
      · exact Or.inl rfl
      · rename_i hsmaller
        exact Or.inr ⟨content, _, _, _, hcontent, rfl, rfl, rfl, not_le.1 hsmaller, rfl⟩
  · exact Or.inl rfl

theorem getD_set_self {messages : List Message} {i : Nat} (h : i < messages.length) (m : Message) :
    (messages.set i m).getD i [] = m := by
  simp [List.getD_eq_getElem?_getD, h]

theorem getD_set_other {messages : List Message} {i j : Nat} (h : i ≠ j) (m : Message) :
    (messages.set i m).getD j [] = messages.getD j [] := by
  simp only [List.getD_eq_getElem?_getD, List.getElem?_set_ne h]

/-- A turn on a message that has not been cut keeps the records true. -/
theorem recorded_step {messages : List Message} {state : Cut} {share : Nat × Nat} (h : Recorded messages state)
    (hlt : share.1 < messages.length) (hfresh : share.1 ∉ state.records.map (·.messageIndex)) :
    Recorded messages (cutStep env kept blocks plan state share) ∧
      ∀ i ∈ (cutStep env kept blocks plan state share).records.map (·.messageIndex),
        i = share.1 ∨ i ∈ state.records.map (·.messageIndex) := by
  have horiginal : state.transformed.getD share.1 [] = messages.getD share.1 [] := by
    by_contra hne
    exact hfresh ((h.changed share.1).2 hne)
  have hlt' : share.1 < state.transformed.length := by rw [h.length]; exact hlt
  rcases cutStep_cases env kept blocks plan state share with hsame | ⟨content, text, record, remaining, hcontent, hindex, hbefore,
    hafter, hsmaller, hcut⟩
  · rw [hsame]
    exact ⟨h, fun i hi => Or.inr hi⟩
  · rw [hcut]
    have hrecords : (state.records ++ [record]).map (·.messageIndex) = state.records.map (·.messageIndex) ++ [share.1] := by
      rw [List.map_append, List.map_singleton, hindex]
    refine ⟨⟨?_, ?_, ?_, ?_, ?_, ?_⟩, ?_⟩
    · rw [List.length_set]
      exact h.length
    · intro i
      by_cases hi : share.1 = i
      · subst hi
        rw [getD_set_self hlt', ← horiginal]
        exact Json.sameBut_set hcontent _
      · rw [getD_set_other hi]
        exact h.content i
    · rw [hrecords, List.nodup_append]
      refine ⟨h.nodup, List.nodup_singleton _, ?_⟩
      intro i hi j hj hij
      rw [List.mem_singleton.1 hj] at hij
      exact hfresh (hij ▸ hi)
    · intro i
      rw [hrecords, List.mem_append, List.mem_singleton]
      by_cases hi : share.1 = i
      · subst hi
        rw [getD_set_self hlt', ← horiginal]
        refine iff_of_true (Or.inr rfl) ?_
        intro hsame
        rw [hsame, ← hbefore] at hafter
        omega
      · rw [getD_set_other hi, ← h.changed i]
        exact ⟨fun hor => hor.resolve_right (Ne.symm hi), Or.inl⟩
    · have htokens := h.tokens
      have hset := tokensOf_set hlt' (Json.set (state.transformed.getD share.1 []) "content" (.str text))
      rw [← hbefore, ← hafter] at hset
      have hsaved : saved record = (record.tokensBefore : Int) - record.tokensAfter := rfl
      rw [List.map_append, List.map_singleton, List.sum_append, List.sum_singleton]
      dsimp only
      omega
    · intro r hr
      rcases List.mem_append.1 hr with hr | hr
      · exact h.smaller r hr
      · rw [List.mem_singleton.1 hr]
        exact hsmaller
    · intro i hi
      rw [hrecords, List.mem_append, List.mem_singleton] at hi
      exact hi.symm

/-- The whole loop, over messages each of which has one share. -/
theorem recorded_foldl {messages : List Message} (l : List (Nat × Nat)) {state : Cut} (h : Recorded messages state)
    (hn : (l.map (·.1)).Nodup) (hlt : ∀ p ∈ l, p.1 < messages.length)
    (hfresh : ∀ p ∈ l, p.1 ∉ state.records.map (·.messageIndex)) :
    Recorded messages (l.foldl (cutStep env kept blocks plan) state) := by
  induction l generalizing state with
  | nil => exact h
  | cons p rest ih =>
    obtain ⟨hp, hrest⟩ := List.nodup_cons.1 (by simpa using hn : (p.1 :: rest.map (·.1)).Nodup)
    obtain ⟨hstep, hnew⟩ := @recorded_step env kept blocks plan messages state p h
      (hlt p List.mem_cons_self) (hfresh p List.mem_cons_self)
    refine ih hstep hrest (fun q hq => hlt q (List.mem_cons_of_mem _ hq)) ?_
    intro q hq hold
    rcases hnew q.1 hold with heq | hold
    · exact hp (heq ▸ List.mem_map_of_mem hq)
    · exact hfresh q (List.mem_cons_of_mem _ hq) hold

/-! ## What is protected -/

/-- What `_protected_indices` leaves out is no protocol text, not the latest request of the user, and awaits no tool. -/
theorem not_protected {messages : List Message} {protected_ : List Nat} (h : protectedIndices env messages = .ok protected_) {i : Nat}
    (hlt : i < messages.length) (hi : i ∉ protected_) :
    isProtocol env (messages.getD i []) = false ∧ latestUser env messages ≠ some i ∧
      ∃ calls, iterate (get? (messages.getD i []) "tool_calls") = .ok calls ∧
        awaitsTool env (toolResults env messages) calls = false := by
  unfold protectedIndices at h
  obtain ⟨calls, hcalls, h⟩ := bind_ok h
  cases h
  have hall := forall₂_mapM hcalls
  have hlt' : i < calls.length := by rw [← hall.length_eq]; exact hlt
  have hcall := hall.get hlt hlt'
  have hget : messages.getD i [] = messages.get ⟨i, hlt⟩ := by simp [List.getD_eq_getElem?_getD, hlt]
  rw [List.mem_filter, not_and] at hi
  have hopen := hi (List.mem_range.2 hlt)
  rw [Bool.not_eq_true, Bool.or_eq_false_iff, Bool.or_eq_false_iff] at hopen
  obtain ⟨⟨huser, hprotocol⟩, hawaits⟩ := hopen
  rw [List.getElem?_eq_getElem hlt, Option.any_some] at hprotocol
  rw [List.getElem?_eq_getElem hlt', Option.any_some] at hawaits
  rw [hget]
  exact ⟨hprotocol, fun heq => by rw [heq] at huser; simp at huser, _, hcall, hawaits⟩

end FrameAux

open FloorAux ConfirmedAux FrameAux

/-- Of every conversation that was analysed and every plan of the planner, a compaction returns the conversation with messages of the
same keys, each different in its content only, and only where the plan allows it and nothing protects the message; its records name
the messages that differ, each once, and add up to the tokens that the conversation lost. -/
theorem compact_frame (env : Env) (minimumKeptTokens kept' : Nat) (c : PromptCacheCoordinator) (now : Int) (args : AnalyzeArguments)
    (cache : CacheAnalysis) (decision : ModelDecision) (budget : CallBudget) (h : (c.analyze env now args).1 = .ok cache) :
    ∃ result, compact env kept' args.messages cache (plan minimumKeptTokens cache decision budget) = .ok result ∧
      result.messages.length = args.messages.length ∧
      (∀ i, SameBut "content" (args.messages.getD i []) (result.messages.getD i [])) ∧
      (∀ i, result.messages.getD i [] ≠ args.messages.getD i [] →
        i ∈ (plan minimumKeptTokens cache decision budget).compactableMessageIndices ∧ i ∉ cache.protectedMessageIndices ∧
        isProtocol env (args.messages.getD i []) = false ∧ latestUser env args.messages ≠ some i ∧
        ∃ calls, iterate (get? (args.messages.getD i []) "tool_calls") = .ok calls ∧
          awaitsTool env (toolResults env args.messages) calls = false) ∧
      (result.records.map (·.messageIndex)).Nodup ∧
      (∀ i, i ∈ result.records.map (·.messageIndex) ↔ result.messages.getD i [] ≠ args.messages.getD i []) ∧
      (result.tokensBefore : Int) - result.tokensAfter =
        (result.records.map fun r => (r.tokensBefore : Int) - r.tokensAfter).sum ∧
      result.tokensAfter ≤ result.tokensBefore := by
  have hA := analyses_of_analyze h
  have hn : (plan minimumKeptTokens cache decision budget).compactableMessageIndices.Nodup := hA.nodup.filter _
  have hplan : ∀ i ∈ (plan minimumKeptTokens cache decision budget).compactableMessageIndices,
      i < args.messages.length ∧ i ∉ cache.protectedMessageIndices := fun i hi => hA.compactable i (plan_compactable hi)
  obtain ⟨protected_, hprotected, hcache⟩ := PromptCacheCoordinator.analyze_ok h
  have hsame : cache.protectedMessageIndices = protected_ := by rw [hcache]; rfl
  generalize plan minimumKeptTokens cache decision budget = plan at hn hplan ⊢
  obtain ⟨result, hresult, hlength, hothers⟩ := compact_returns env kept' (by simp [hA.messageTokens]) hn hplan
  obtain ⟨cut, hcut, -, hform⟩ := compact_ok hresult
  have hloop : Recorded args.messages ((shares kept' cache plan).foldl
      (cutStep env kept' (blockByIndex cache.contextBlocks) plan)
      { transformed := args.messages, remaining := plan.requiredReductionTokens }) :=
    recorded_foldl (shares kept' cache plan)
      ⟨rfl, fun i => Json.sameBut_refl _ _, List.nodup_nil, fun i => by simp, by simp, fun r hr => absurd hr List.not_mem_nil⟩
      (shares_nodup hn) (fun p hp => (hplan p.1 (shares_mem hn hp)).1) fun p _ => List.not_mem_nil
  rw [hcut] at hloop
  have htotal := hA.totalTokens
  have htokens := hloop.tokens
  have hsum : 0 ≤ (cut.records.map saved).sum := by
    refine List.sum_nonneg ?_
    intro x hx
    obtain ⟨r, hr, rfl⟩ := List.mem_map.1 hx
    have hless := hloop.smaller r hr
    unfold saved
    omega
  have hlost : (cache.totalTokens : Int) - (cache.toolTokens + tokensOf cut.transformed : Nat) = (cut.records.map saved).sum := by
    omega
  refine ⟨result, hresult, hlength, ?_, ?_, ?_, ?_, ?_, ?_⟩
  · rw [hform]
    exact hloop.content
  · intro i hi
    have hmem : i ∈ plan.compactableMessageIndices := by
      by_contra hnot
      exact hi (hothers i hnot)
    obtain ⟨hlt, hfree⟩ := hplan i hmem
    exact ⟨hmem, hfree, not_protected hprotected hlt (hsame ▸ hfree)⟩
  · rw [hform]
    exact hloop.nodup
  · rw [hform]
    exact hloop.changed
  · rw [hform]
    exact hlost
  · rw [hform]
    have hle : cache.toolTokens + tokensOf cut.transformed ≤ cache.totalTokens := by omega
    exact hle

/-- The frame on a conversation whose answer is cut. -/
theorem compact_frame_long_answer : ∃ cache,
    (PromptCacheCoordinator.analyze longAnswerEnv {} 0 longAnswerArguments).1 = .ok cache ∧
    ∃ result, compact longAnswerEnv 32 longAnswer cache (plan 32 cache onlyDecision fortyTokens) = .ok result ∧
      result.messages.length = 2 ∧ (∀ i, SameBut "content" (longAnswer.getD i []) (result.messages.getD i [])) ∧
      (result.records.map (·.messageIndex)).Nodup ∧ result.tokensAfter ≤ result.tokensBefore := by
  have hok : (PromptCacheCoordinator.analyze longAnswerEnv {} 0 longAnswerArguments).1.isOk = true := by decide +kernel
  obtain ⟨cache, hcache⟩ := Outcome.ok_of_isOk hok
  obtain ⟨result, hresult, hlength, hcontent, -, hnodup, -, -, hless⟩ :=
    compact_frame longAnswerEnv 32 32 {} 0 longAnswerArguments cache onlyDecision fortyTokens hcache
  exact ⟨cache, hcache, result, hresult, hlength, hcontent, hnodup, hless⟩

end PromptRail
