import PromptRail.Compaction.Fill
import PromptRail.Library.Outcome

/-!
# The physical floor

The planner declares a floor reachable that counts every message down to the minimum it keeps. Whether the compactor gets there
depends on what each cut saves: `cutSaving` is that saving, from the bytes of the message before and after. The target is met
exactly if the savings of the cuts, in the order of their shares, add up to the reduction.
-/

namespace PromptRail

open PyText (Text utf8Len)
open Table (Dict)
open Json (Value get? escapedLen)

/-- The bytes of a message whose content is replaced by the parts of a cut, joined by line feeds of two bytes each. -/
def cutBytes (env : Env) (type : BlockType) (message : Message) (content : Text) (budget : Nat) : Nat :=
  let parts := cutParts env type content budget
  utf8Len (canonicalJson (.obj message)) + (parts.map escapedLen).sum + (parts.length - 1) * 2 - escapedLen content

/-- The tokens a message loses when it is asked for a reduction: none if its content is no text, if nothing is asked, or if the
content already fits the characters a cut may keep. -/
def cutSaving (env : Env) (minimumKeptTokens : Nat) (type : BlockType) (message : Message) (requested : Nat) : Nat :=
  match get? message "content" with
  | some (.str content) =>
    let budget := contentBudget (max minimumKeptTokens (estimateTokens (.str content) - requested)) type
    if requested = 0 ∨ content.length ≤ budget then 0
    else estimateTokens (.obj message) - tokensOfBytes (cutBytes env type message content budget)
  | _ => 0

/-- A message to cut: the type it is cut as, and its share of the reduction. -/
structure Slice where
  message : Message
  type : BlockType
  share : Nat

/-- The messages to cut, the one with the largest share first. -/
def slices (minimumKeptTokens : Nat) (messages : List Message) (cache : CacheAnalysis) (plan : CompactionPlan) : List Slice :=
  (shares minimumKeptTokens cache plan).map fun p =>
    { message := messages.getD p.1 [], type := cutType (blockByIndex cache.contextBlocks) p.1, share := p.2 }

/-- The savings reach what is missing: each message is asked for its share, or for what is still missing if that is less. -/
def SavingsReach (env : Env) (minimumKeptTokens : Nat) : List Slice → Nat → Prop
  | [], missing => missing = 0
  | slice :: rest, missing =>
    SavingsReach env minimumKeptTokens rest
      (missing - cutSaving env minimumKeptTokens slice.type slice.message (min missing slice.share))

/-- The cuts of a plan save what it requires. -/
def CutsSuffice (env : Env) (minimumKeptTokens : Nat) (messages : List Message) (cache : CacheAnalysis)
    (plan : CompactionPlan) : Prop :=
  SavingsReach env minimumKeptTokens (slices minimumKeptTokens messages cache plan) plan.requiredReductionTokens

namespace FloorAux

/-! ## One cut -/

/-- The estimate of all messages. -/
def tokensOf (messages : List Message) : Nat := (messages.map fun m => estimateTokens (.obj m)).sum

/-- The estimate of a message with cut content. -/
theorem estimateTokens_cut (env : Env) {message : Message} {content : Text} (type : BlockType) (targetTokens : Nat)
    (h : get? message "content" = some (.str content)) (hlen : ¬content.length ≤ contentBudget targetTokens type) :
    estimateTokens (.obj (Json.set message "content" (.str (compactText env content targetTokens type)))) =
      tokensOfBytes (cutBytes env type message content (contentBudget targetTokens type)) := by
  have hn : escapedLen ['\n'] = 2 := by decide
  have hset := Json.utf8Len_dump_set_str h (compactText env content targetTokens type)
  unfold compactText at hset ⊢
  rw [if_neg hlen, Json.escapedLen_intercalate, hn] at hset
  rw [if_neg hlen]
  simp only [estimateTokens, cutBytes, canonicalJson]
  congr 1
  omega

/-- The estimate of a message whose content fits is the one it had. -/
theorem estimateTokens_uncut (env : Env) {message : Message} {content : Text} (type : BlockType) (targetTokens : Nat)
    (h : get? message "content" = some (.str content)) (hlen : content.length ≤ contentBudget targetTokens type) :
    estimateTokens (.obj (Json.set message "content" (.str (compactText env content targetTokens type)))) =
      estimateTokens (.obj message) := by
  have hset := Json.utf8Len_dump_set_str h content
  unfold compactText
  rw [if_pos hlen]
  simp only [estimateTokens, canonicalJson]
  congr 1
  omega

theorem sum_set {l : List Nat} {i : Nat} (h : i < l.length) (x : Nat) : (l.set i x).sum + l.getD i 0 = l.sum + x := by
  induction l generalizing i with
  | nil => exact absurd h (Nat.not_lt_zero i)
  | cons y l ih =>
    cases i with
    | zero =>
      simp only [List.set_cons_zero, List.sum_cons, List.getD_cons_zero]
      omega
    | succ i =>
      have := ih (Nat.lt_of_succ_lt_succ h)
      simp only [List.set_cons_succ, List.sum_cons, List.getD_cons_succ]
      omega

theorem tokensOf_set {messages : List Message} {i : Nat} (h : i < messages.length) (m : Message) :
    tokensOf (messages.set i m) + estimateTokens (.obj (messages.getD i [])) = tokensOf messages + estimateTokens (.obj m) := by
  have hlen : i < (messages.map fun m => estimateTokens (.obj m)).length := by simpa using h
  have := sum_set hlen (estimateTokens (.obj m))
  simpa [tokensOf, List.map_set, List.getD_eq_getElem?_getD, h] using this

/-- The loop takes a saving off the tokens and off what remains, and changes no message but those it visits. -/
structure Trims (state state' : Cut) (visited : List Nat) (saving : Nat) : Prop where
  length : state'.transformed.length = state.transformed.length
  others : ∀ j, j ∉ visited → state'.transformed.getD j [] = state.transformed.getD j []
  tokens : tokensOf state'.transformed + saving = tokensOf state.transformed
  remaining : state'.remaining = state.remaining - saving

theorem trims_refl (state : Cut) (visited : List Nat) : Trims state state visited 0 :=
  ⟨rfl, fun _ _ => rfl, rfl, rfl⟩

/-- One turn of the loop. -/
theorem cutStep_trims (env : Env) (kept : Nat) (blocks : Dict Nat ContextBlock) (plan : CompactionPlan) (state : Cut)
    (p : Nat × Nat) (hi : p.1 < state.transformed.length) :
    Trims state (cutStep env kept blocks plan state p) [p.1] (cutSaving env kept (cutType blocks p.1)
      (state.transformed.getD p.1 []) (min state.remaining p.2)) := by
  obtain ⟨index, allocation⟩ := p
  simp only [cutStep, cutSaving] at hi ⊢
  generalize hm : state.transformed.getD index [] = message
  cases hcontent : get? message "content" with
  | none => exact trims_refl state _
  | some value =>
    cases value with
    | str content =>
      dsimp only
      by_cases hreq : min state.remaining allocation = 0
      · rw [if_pos hreq, if_pos (Or.inl hreq)]
        exact trims_refl state _
      · rw [if_neg hreq]
        generalize max kept (estimateTokens (.str content) - min state.remaining allocation) = target
        by_cases hlen : content.length ≤ contentBudget target (cutType blocks index)
        · rw [if_pos (Or.inr hlen), estimateTokens_uncut env _ _ hcontent hlen, if_pos le_rfl]
          exact trims_refl state _
        · have hnot : ¬(min state.remaining allocation = 0 ∨ content.length ≤ contentBudget target (cutType blocks index)) := by
            rintro (h | h)
            · exact hreq h
            · exact hlen h
          rw [if_neg hnot, estimateTokens_cut env _ _ hcontent hlen]
          generalize hafter : tokensOfBytes (cutBytes env (cutType blocks index) message content
            (contentBudget target (cutType blocks index))) = after
          by_cases hle : estimateTokens (.obj message) ≤ after
          · rw [if_pos hle, Nat.sub_eq_zero_of_le hle]
            exact trims_refl state _
          · rw [if_neg hle]
            refine ⟨List.length_set, ?_, ?_, rfl⟩
            · intro j hj
              have hne : index ≠ j := fun h => hj (List.mem_singleton.2 h.symm)
              simp only [List.getD_eq_getElem?_getD, List.getElem?_set_ne hne]
            · have hset := tokensOf_set hi
                (Json.set message "content" (.str (compactText env content target (cutType blocks index))))
              rw [hm, estimateTokens_cut env _ _ hcontent hlen, hafter] at hset
              simp only
              omega
    | _ => exact trims_refl state _

/-- The slices of a list of shares, over the messages as they stand. -/
def slicesOf (blocks : Dict Nat ContextBlock) (messages : List Message) (l : List (Nat × Nat)) : List Slice :=
  l.map fun p => { message := messages.getD p.1 [], type := cutType blocks p.1, share := p.2 }

/-- The whole loop: every message is visited once, so each cut is one of an original message. -/
theorem foldl_trims (env : Env) (kept : Nat) (blocks : Dict Nat ContextBlock) (plan : CompactionPlan) (l : List (Nat × Nat))
    (state : Cut) (hn : (l.map (·.1)).Nodup) (hlt : ∀ p ∈ l, p.1 < state.transformed.length) :
    ∃ saving, Trims state (l.foldl (cutStep env kept blocks plan) state) (l.map (·.1)) saving ∧
      (SavingsReach env kept (slicesOf blocks state.transformed l) state.remaining ↔ state.remaining - saving = 0) := by
  induction l generalizing state with
  | nil => exact ⟨0, trims_refl state _, by simp [slicesOf, SavingsReach]⟩
  | cons p rest ih =>
    obtain ⟨hp, hrest⟩ := List.nodup_cons.1 (by simpa using hn : (p.1 :: rest.map (·.1)).Nodup)
    have hstep := cutStep_trims env kept blocks plan state p (hlt p List.mem_cons_self)
    generalize hsave : cutSaving env kept (cutType blocks p.1) (state.transformed.getD p.1 [])
      (min state.remaining p.2) = saved at hstep
    generalize hnext : cutStep env kept blocks plan state p = next at hstep
    have hsame : slicesOf blocks next.transformed rest = slicesOf blocks state.transformed rest := by
      refine List.map_congr_left ?_
      intro q hq
      have hne : q.1 ∉ [p.1] := by
        intro h
        rw [List.mem_singleton] at h
        exact hp (h ▸ List.mem_map_of_mem hq)
      rw [hstep.others q.1 hne]
    obtain ⟨saving, htrim, hiff⟩ := ih next hrest (by
      intro q hq
      rw [hstep.length]
      exact hlt q (List.mem_cons_of_mem _ hq))
    refine ⟨saved + saving, ⟨?_, ?_, ?_, ?_⟩, ?_⟩
    · rw [List.foldl_cons, hnext, htrim.length, hstep.length]
    · intro j hj
      rw [List.map_cons, List.mem_cons, not_or] at hj
      rw [List.foldl_cons, hnext, htrim.others j hj.2, hstep.others j (fun h => hj.1 (List.mem_singleton.1 h))]
    · have h1 := htrim.tokens
      have h2 := hstep.tokens
      rw [List.foldl_cons, hnext]
      omega
    · have h1 := htrim.remaining
      have h2 := hstep.remaining
      rw [List.foldl_cons, hnext]
      omega
    · have h2 := hstep.remaining
      rw [hsame, h2] at hiff
      simp only [slicesOf, List.map_cons, SavingsReach, hsave] at hiff ⊢
      rw [hiff, Nat.sub_sub]

/-! ## What an analysis and a plan say -/

/-- The analysis is one of these messages. -/
structure Analyses (cache : CacheAnalysis) (messages : List Message) : Prop where
  messageTokens : cache.messageTokens = messages.map fun m => estimateTokens (.obj m)
  totalTokens : cache.totalTokens = tokensOf messages + cache.toolTokens
  compactable : ∀ i ∈ cache.compactableMessageIndices, i < messages.length ∧ i ∉ cache.protectedMessageIndices
  nodup : cache.compactableMessageIndices.Nodup

/-- What `analyze` returns is an analysis of its messages. -/
theorem analyses_of_analyze {env : Env} {c : PromptCacheCoordinator} {now : Int} {args : AnalyzeArguments}
    {cache : CacheAnalysis} (h : (c.analyze env now args).1 = .ok cache) : Analyses cache args.messages := by
  obtain ⟨protected_, -, rfl⟩ := PromptCacheCoordinator.analyze_ok h
  refine ⟨rfl, rfl, ?_, List.nodup_range.filter _⟩
  intro i hi
  obtain ⟨hr, hc⟩ := List.mem_filter.1 hi
  simp only [Bool.and_eq_true, Bool.not_eq_true', List.contains_eq_mem, decide_eq_false_iff_not] at hc
  exact ⟨List.mem_range.1 hr, hc.1.1⟩

/-- What the planner may cut is compactable. -/
theorem plan_compactable {kept : Nat} {cache : CacheAnalysis} {decision : ModelDecision} {budget : CallBudget} {i : Nat}
    (h : i ∈ (plan kept cache decision budget).compactableMessageIndices) : i ∈ cache.compactableMessageIndices :=
  (List.mem_filter.1 h).1

/-- The target and the reduction make up the tokens of the call. -/
theorem plan_target (kept : Nat) (cache : CacheAnalysis) (decision : ModelDecision) (budget : CallBudget) :
    (plan kept cache decision budget).targetTokens + (plan kept cache decision budget).requiredReductionTokens =
      (cache.totalTokens : Int) := by
  have hfloor : minimumReachableTokens kept cache ≤ cache.totalTokens := by
    unfold minimumReachableTokens
    omega
  simp only [plan]
  omega

/-- Raising the budget to the floor changes nothing in the plan: the planner raises the target itself. -/
theorem plan_raisedBudget (kept : Nat) (cache : CacheAnalysis) (decision : ModelDecision) (budget : CallBudget) :
    plan kept cache decision (raisedBudget kept cache budget) = plan kept cache decision budget := by
  have hfloor : minimumReachableTokens kept cache ≤ cache.totalTokens := by
    unfold minimumReachableTokens
    omega
  unfold raisedBudget
  simp only
  split
  · rename_i hlt
    have htarget : max (minimumReachableTokens kept cache) (min (cache.totalTokens : Int) (minimumReachableTokens kept cache)) =
        max (minimumReachableTokens kept cache) (min (cache.totalTokens : Int) budget.requiredContextTokens) := by
      omega
    simp only [plan, htarget, importanceByIndex]
  · rfl

/-! ## The shares of a plan -/

theorem shares_perm (kept : Nat) (cache : CacheAnalysis) (plan : CompactionPlan) :
    (shares kept cache plan).Perm (waterFill plan.requiredReductionTokens plan.compactableMessageIndices (capacity kept cache)
      (pressure plan (blockByIndex cache.contextBlocks))) :=
  List.perm_insertionSort _ _

/-- Only messages of the plan have a share. -/
theorem shares_mem {kept : Nat} {cache : CacheAnalysis} {plan : CompactionPlan} (hn : plan.compactableMessageIndices.Nodup)
    {p : Nat × Nat} (h : p ∈ shares kept cache plan) : p.1 ∈ plan.compactableMessageIndices :=
  (waterFill_mem _ hn ((shares_perm kept cache plan).mem_iff.1 h)).1

/-- No message has two shares. -/
theorem shares_nodup {kept : Nat} {cache : CacheAnalysis} {plan : CompactionPlan}
    (hn : plan.compactableMessageIndices.Nodup) : ((shares kept cache plan).map (·.1)).Nodup := by
  refine (((shares_perm kept cache plan).map _).nodup_iff).2 ?_
  have hsub : ((waterFill plan.requiredReductionTokens plan.compactableMessageIndices (capacity kept cache)
      (pressure plan (blockByIndex cache.contextBlocks))).map (·.1)).Sublist plan.compactableMessageIndices := by
    refine (List.filter_sublist.map _).trans ?_
    rw [List.map_map]
    simp [Function.comp_def]
  exact hsub.nodup hn

/-- A check of every element that never raises. -/
theorem forM_ok {α : Type} {l : List α} {f : α → Except PyError Unit} (h : ∀ x ∈ l, f x = .ok ()) : l.forM f = .ok () := by
  induction l with
  | nil => rfl
  | cons x l ih =>
    have hx := h x List.mem_cons_self
    have hl := ih fun y hy => h y (List.mem_cons_of_mem _ hy)
    show (f x >>= fun _ => l.forM f) = .ok ()
    rw [hx]
    exact hl

/-- The boundaries hold where only messages of the plan have changed. -/
theorem validateBoundaries_ok (before after : List Message) {cache : CacheAnalysis} {plan : CompactionPlan}
    (hp : ∀ i ∈ plan.compactableMessageIndices, i ∉ cache.protectedMessageIndices)
    (h : ∀ i, i ∉ plan.compactableMessageIndices → after.getD i [] = before.getD i []) :
    validateBoundaries before after cache plan = .ok () := by
  refine forM_ok ?_
  intro i _
  by_cases hi : i ∈ plan.compactableMessageIndices
  · have hnot : ¬(canonicalJson (.obj (before.getD i [])) ≠ canonicalJson (.obj (after.getD i [])) ∧
        ¬plan.compactableMessageIndices.contains i = true) := by
      rintro ⟨_, hc⟩
      exact hc (List.contains_iff_mem.2 hi)
    have hnot' : ¬(cache.protectedMessageIndices.contains i = true ∧
        canonicalJson (.obj (before.getD i [])) ≠ canonicalJson (.obj (after.getD i []))) := by
      rintro ⟨hc, _⟩
      exact hp i hi (List.contains_iff_mem.1 hc)
    simp only
    rw [if_neg hnot, if_neg hnot']
  · have hsame : ¬canonicalJson (.obj (before.getD i [])) ≠ canonicalJson (.obj (after.getD i [])) := by
      rw [h i hi]
      exact not_not.2 rfl
    simp only
    rw [if_neg (fun hc => hsame hc.1), if_neg (fun hc => hsame hc.2)]

end FloorAux

open FloorAux

namespace FloorAux

/-- What the planner may cut has the capacity for what it requires. -/
theorem plan_capacity (kept : Nat) (cache : CacheAnalysis) (decision : ModelDecision) (budget : CallBudget) :
    (plan kept cache decision budget).requiredReductionTokens ≤
      ((plan kept cache decision budget).compactableMessageIndices.map (capacity kept cache)).sum := by
  have hcap : (plan kept cache decision budget).compactableMessageIndices.map (capacity kept cache) =
      (plan kept cache decision budget).compactableMessageIndices.map fun i => cache.tokensAt i - kept := by
    refine List.map_congr_left ?_
    intro i hi
    have hc := (List.mem_filter.1 hi).2
    simp only [Bool.and_eq_true, Bool.not_eq_true'] at hc
    exact if_neg (by rw [hc.1]; exact Bool.false_ne_true)
  rw [hcap]
  simp only [plan]
  generalize hreq : (cache.totalTokens - max (minimumReachableTokens kept cache)
    (min (cache.totalTokens : Int) budget.requiredContextTokens)).toNat = required
  -- either the messages outside the cached prefix suffice, or every message is open to the cut
  by_cases hlt : reducibleTokens kept cache (cache.compactableMessageIndices.filter fun i =>
      !cache.protectedMessageIndices.contains i && !cache.cacheableMessageIndices.contains i) < required
  · simp only [hlt, decide_true, Bool.true_or, Bool.and_true]
    have hfloor : required ≤ reducibleTokens kept cache
        (cache.compactableMessageIndices.filter fun i => !cache.protectedMessageIndices.contains i) := by
      simp only [minimumReachableTokens] at hreq
      omega
    exact hfloor
  · simp only [hlt, decide_false, Bool.false_or]
    exact Nat.le_of_not_lt hlt

/-- The shares of the planner's plan add up to the reduction. -/
theorem shares_sum (kept : Nat) {cache : CacheAnalysis} (decision : ModelDecision) (budget : CallBudget)
    (hn : cache.compactableMessageIndices.Nodup) :
    ((shares kept cache (plan kept cache decision budget)).map (·.2)).sum =
      (plan kept cache decision budget).requiredReductionTokens := by
  have hn' : (plan kept cache decision budget).compactableMessageIndices.Nodup := hn.filter _
  rw [((shares_perm kept cache _).map _).sum_eq, waterFill_sum _ _ _ hn']
  exact Nat.min_eq_left (plan_capacity kept cache decision budget)

/-- Cuts that each save what they are asked for reach what is missing, if their shares do. -/
theorem savingsReach_of_each {env : Env} {kept : Nat} {l : List Slice} {missing : Nat}
    (hsum : missing ≤ (l.map (·.share)).sum)
    (h : ∀ slice ∈ l, ∀ requested ≤ slice.share, requested ≤ cutSaving env kept slice.type slice.message requested) :
    SavingsReach env kept l missing := by
  induction l generalizing missing with
  | nil => exact Nat.le_zero.1 hsum
  | cons slice rest ih =>
    have hsave := h slice List.mem_cons_self (min missing slice.share) (Nat.min_le_right _ _)
    rw [List.map_cons, List.sum_cons] at hsum
    exact ih (by omega) fun s hs => h s (List.mem_cons_of_mem _ hs)

end FloorAux

/-- The floor is reachable wherever each cut saves as many tokens as it is asked for: the planner and the water filling lose none
on the way. -/
theorem cutsSuffice_of_each {env : Env} {minimumKeptTokens : Nat} {c : PromptCacheCoordinator} {now : Int}
    {args : AnalyzeArguments} {cache : CacheAnalysis} (decision : ModelDecision) (budget : CallBudget)
    (h : (c.analyze env now args).1 = .ok cache)
    (hcut : ∀ slice ∈ slices minimumKeptTokens args.messages cache (plan minimumKeptTokens cache decision budget),
      ∀ requested ≤ slice.share, requested ≤ cutSaving env minimumKeptTokens slice.type slice.message requested) :
    CutsSuffice env minimumKeptTokens args.messages cache (plan minimumKeptTokens cache decision budget) := by
  refine savingsReach_of_each ?_ hcut
  have hsum := shares_sum minimumKeptTokens decision budget (analyses_of_analyze h).nodup
  simp only [slices, List.map_map, Function.comp_def]
  exact hsum.ge

/-! ## A floor that is missed -/

namespace FloorAux

/-- The request of a user, and a plain answer of six hundred characters. -/
def longAnswer : List Message :=
  [[("role", .str "user".toList), ("content", .str "hi".toList)],
    [("role", .str "assistant".toList), ("content", .str (List.replicate 600 'a'))]]

/-- The environment on this conversation: the digests of its two messages and of the answer. -/
def longAnswerEnv : Env where
  sha256 t :=
    (if t = List.replicate 600 'a' then "ba35c170729417f1499e0886e7e12fcdb4ab00ad411110ae1e888c766d4ed70d"
    else if t = "\x7b\"content\":\"hi\",\"role\":\"user\"\x7d".toList then
      "9017285104d1b249960a30732b8e92f6e2fb3acf8d8e4b2a16c116ad0c1ed211"
    else "bbad63c173dc254ff069c0a07c1add3084f0adb0925cb00767b0dbc8b09853c8").toList
  alnum _ := false
  repr _ := []

def onlyRoute : ProviderRoute where
  routeId := "small-1"
  provider := "first"
  inputPricePerMillion := 1
  outputPricePerMillion := 2
  p95TtftMs := 10
  p95TotalLatencyMs := 20
  validate_price := ProviderRoute.readWritePrice_valid
  validate_route_duration := ProviderRoute.quickDuration_valid
  validate_latency_order := ProviderRoute.quickLatency_valid

theorem onlyRoute_valid : [onlyRoute] ≠ [] ∧ ([onlyRoute].map (·.routeId)).Nodup := by simp

def onlyCandidate : ModelCandidate where
  modelId := "small"
  routes := [onlyRoute]
  validate_routes := onlyRoute_valid

def longAnswerArguments : AnalyzeArguments where
  sessionId := "session".toList
  messages := longAnswer
  tools := []
  candidates := [onlyCandidate]
  predictedOutputTokens := 10
  task := "hi".toList

def onlyDecision : ModelDecision where
  candidate := onlyCandidate
  route := onlyRoute
  cacheValue := { modelId := "small", inputCostUsd := 0 }

/-- A budget that requires forty tokens of context. -/
def fortyTokens : CallBudget where
  runId := 0
  callId := 1
  sequence := 1
  costUsd := 1
  inputCostUsd := 1 / 2
  outputCostUsd := 1 / 2
  latencyMs := 100
  allocatorModelId := "gemma"
  allocatorReason := "enough for one answer"
  requiredContextTokens := 40

end FloorAux

end PromptRail
