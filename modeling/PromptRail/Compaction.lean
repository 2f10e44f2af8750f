import PromptRail.Cache

/-!
# Compaction (`compaction.py`, and the part of `gateway.py` that calls it)

`CompactionTargetPlanner` turns the required context of a budget into a target, `waterFill` shares the reduction out over the
messages, and `CacheScopedCompactor.compact` cuts the messages in the order of their shares.
-/

namespace PromptRail

open PyText (Text lstrip rstrip strip splitlines search anyLiteral dropLiteral isWord)
open Table (Dict)
open Json (Value get?)

/-! ## The planner -/

/-- The tokens of a message of the analysis. Its indices are positions of messages. -/
def CacheAnalysis.tokensAt (cache : CacheAnalysis) (index : Nat) : Nat := cache.messageTokens.getD index 0

/-- What some messages can lose together: all but the minimum of each. -/
def reducibleTokens (minimumKeptTokens : Nat) (cache : CacheAnalysis) (indices : List Nat) : Nat :=
  (indices.map fun i => cache.tokensAt i - minimumKeptTokens).sum

/-- `minimum_reachable_tokens`. -/
def minimumReachableTokens (minimumKeptTokens : Nat) (cache : CacheAnalysis) : Int :=
  cache.totalTokens - reducibleTokens minimumKeptTokens cache
    (cache.compactableMessageIndices.filter fun i => !cache.protectedMessageIndices.contains i)

/-- The block of each message: of several blocks with one message, the last. -/
def blockByIndex (blocks : List ContextBlock) : Dict Nat ContextBlock :=
  Table.ofList (blocks.flatMap fun b => b.messageIndices.map fun i => (i, b))

/-- The importance of each message: that of its block, or the last override of it. -/
def importanceByIndex (cache : CacheAnalysis) (budget : CallBudget) : Dict Nat ℚ :=
  let overrides := Table.ofList (budget.importanceOverrides.map fun o => (o.blockId, o.importance))
  Table.ofList (cache.contextBlocks.flatMap fun b =>
    b.messageIndices.map fun i => (i, (overrides.lookup b.blockId).getD b.importance))

/-- `plan`. -/
def plan (minimumKeptTokens : Nat) (cache : CacheAnalysis) (decision : ModelDecision) (budget : CallBudget) :
    CompactionPlan :=
  let target := min (cache.totalTokens : Int) budget.requiredContextTokens
  let targetTokens := max (minimumReachableTokens minimumKeptTokens cache) target
  let requiredReduction := (cache.totalTokens - targetTokens).toNat
  let mayChange := fun i => !cache.protectedMessageIndices.contains i
  let uncached := fun i => !cache.cacheableMessageIndices.contains i
  let noncachedCapacity := reducibleTokens minimumKeptTokens cache
    (cache.compactableMessageIndices.filter fun i => mayChange i && uncached i)
  let eligible := cache.compactableMessageIndices.filter fun i =>
    mayChange i && (noncachedCapacity < requiredReduction || uncached i)
  let cachedTokens : Int :=
    if decision.cacheValue.exactReuse ∧ requiredReduction ≤ noncachedCapacity then
      min targetTokens decision.cacheValue.cachedTokens
    else 0
  let cachedRate :=
    if cachedTokens ≠ 0 then decision.route.cacheReadPricePerMillion.getD decision.route.inputPricePerMillion
    else decision.route.inputPricePerMillion
  { inputBudgetUsd := budget.inputCostUsd
    estimatedInputCostUsd := cachedTokens * cachedRate / 1000000 +
      max 0 (targetTokens - cachedTokens) * decision.route.inputPricePerMillion / 1000000
    targetTokens
    requiredReductionTokens := requiredReduction
    compactableMessageIndices := eligible
    importanceByMessageIndex := importanceByIndex cache budget }

/-! ## Water filling -/

/-- What `_water_fill` holds in its loops. -/
structure Fill where
  allocations : Nat → Nat := fun _ => 0
  active : List Nat
  remaining : Nat
  progressed : Nat := 0

/-- The least pressure the shares are computed with. -/
def pressureAt (pressures : Nat → ℚ) (index : Nat) : ℚ := max (pressures index) (1 / 1000000000)

/-- The inner loop, over the active messages that are left in this pass. -/
def fillPass (capacities : Nat → Nat) (pressures : Nat → ℚ) (totalPressure : ℚ) : List Nat → Fill → Fill
  | [], fill => fill
  | index :: rest, fill =>
    let capacity := capacities index - fill.allocations index
    let share := max 1 (Rat.floor (fill.remaining * pressureAt pressures index / totalPressure)).toNat
    let amount := min (min capacity share) fill.remaining
    let allocated := fill.allocations index + amount
    let fill' : Fill :=
      { allocations := Function.update fill.allocations index allocated
        active := if capacities index ≤ allocated then fill.active.erase index else fill.active
        remaining := fill.remaining - amount
        progressed := fill.progressed + amount }
    if fill'.remaining ≤ 0 then fill' else fillPass capacities pressures totalPressure rest fill'

/-- The outer loop, for at most `fuel` passes. -/
def fillLoop (capacities : Nat → Nat) (pressures : Nat → ℚ) : Nat → Fill → Fill
  | 0, fill => fill
  | fuel + 1, fill =>
    if 0 < fill.remaining ∧ fill.active ≠ [] then
      let totalPressure := (fill.active.map (pressureAt pressures)).sum
      let fill' := fillPass capacities pressures totalPressure fill.active { fill with progressed := 0 }
      if fill'.progressed = 0 then fill' else fillLoop capacities pressures fuel fill'
    else fill

/-- `_water_fill` over messages in ascending order. Every pass takes a token at least, so the reduction bounds their number. -/
def waterFill (reduction : Nat) (indices : List Nat) (capacities : Nat → Nat) (pressures : Nat → ℚ) : List (Nat × Nat) :=
  let fill := fillLoop capacities pressures reduction
    { active := indices.filter fun i => 0 < capacities i, remaining := reduction }
  (indices.map fun i => (i, fill.allocations i)).filter fun p => 0 < p.2

/-! ## The text of a message -/

/-- A literal at the front, followed by no word character. -/
def literalEnds (env : Env) (l : String) (rest : Text) : Bool := (dropLiteral l.toList rest).any (wordEnds env)

/-- `(?i)(?:error|fail|traceback|passed|diff --git|^@@|^\+\+\+|^---|^\+|^- )`. -/
def testSignal (prev : Option Char) (rest : Text) : Bool :=
  anyLiteral ["error", "fail", "traceback", "passed", "diff --git"] rest ||
    (prev.isNone && startsWith ["@@", "+++", "---", "+", "- "] rest)

/-- `(?i)(?:^/|\.py\b|\.json\b|\.toml\b|exit |error|warning)`. -/
def toolSignal (env : Env) (prev : Option Char) (rest : Text) : Bool :=
  (prev.isNone && startsWith ["/"] rest) || anyLiteral ["exit ", "error", "warning"] rest ||
    [".py", ".json", ".toml"].any fun l => literalEnds env l rest

/-- The lines of a text that the cut keeps for its type. -/
def importantLines (env : Env) (type : BlockType) (lines : List Text) : List Text :=
  match type with
  | .test | .patch => lines.filter fun line => search testSignal none line
  | .tool => lines.filter fun line => search (toolSignal env) none line
  | _ => []

/-- The marker of a cut text. -/
def marker (type : BlockType) : Text := ("\n[PromptRail inline " ++ type.value ++ " summary]\n").toList

/-- The characters a cut may keep. -/
def contentBudget (targetTokens : Nat) (type : BlockType) : Nat := max 48 (targetTokens * 4 - (marker type).length)

/-- What a cut keeps of the front. -/
def headPart (content : Text) (budget : Nat) : Text := rstrip (content.take (max 24 (budget * 9 / 20)))

/-- What a cut keeps of the end. -/
def tailPart (content : Text) (budget : Nat) : Text := lstrip (content.drop (content.length - max 24 (budget / 4)))

/-- What a cut keeps of the lines that matter. -/
def signalPart (env : Env) (type : BlockType) (content : Text) (budget : Nat) : Text :=
  rstrip ((['\n'].intercalate (importantLines env type (splitlines content))).take
    (budget - max 24 (budget * 9 / 20) - max 24 (budget / 4)))

/-- The parts of a cut text that are not empty. -/
def cutParts (env : Env) (type : BlockType) (content : Text) (budget : Nat) : List Text :=
  let signal := signalPart env type content budget
  let parts := [headPart content budget, strip (marker type)] ++ (if signal.isEmpty then [] else [signal]) ++
    [tailPart content budget]
  parts.filter fun part => !part.isEmpty

/-- `_compact_text`. -/
def compactText (env : Env) (content : Text) (targetTokens : Nat) (type : BlockType) : Text :=
  if content.length ≤ contentBudget targetTokens type then content
  else ['\n'].intercalate (cutParts env type content (contentBudget targetTokens type))

/-! ## The compactor -/

/-- The pressure on a message. -/
def pressure (plan : CompactionPlan) (blocks : Dict Nat ContextBlock) (index : Nat) : ℚ :=
  let block := blocks.lookup index
  let importance := (plan.importanceByMessageIndex.lookup index).getD (1 / 2)
  let redundancy := max (1 / 10) ((block.map (·.redundancy)).getD (1 / 10))
  let staleness := 1 + ((block.map (·.age)).getD 0 : ℚ) / 8
  let cacheFactor :=
    match block with
    | some b => if b.cached then 1 / (1 + 8 * b.cacheInvalidationCost) else 1
    | none => 1
  (1 - importance) ^ 2 * redundancy * staleness * cacheFactor

/-- The capacity of a message. -/
def capacity (minimumKeptTokens : Nat) (cache : CacheAnalysis) (index : Nat) : Nat :=
  if cache.protectedMessageIndices.contains index then 0 else cache.tokensAt index - minimumKeptTokens

/-- The shares of the reduction, the largest first. -/
def shares (minimumKeptTokens : Nat) (cache : CacheAnalysis) (plan : CompactionPlan) : List (Nat × Nat) :=
  (waterFill plan.requiredReductionTokens plan.compactableMessageIndices (capacity minimumKeptTokens cache)
    (pressure plan (blockByIndex cache.contextBlocks))).insertionSort fun a b => b.2 < a.2 ∨ (a.2 = b.2 ∧ a.1 ≤ b.1)

/-- What the loop of `compact` holds. -/
structure Cut where
  transformed : List Message
  remaining : Nat
  records : List CompactionRecord := []

/-- The type a message is cut as. -/
def cutType (blocks : Dict Nat ContextBlock) (index : Nat) : BlockType :=
  ((blocks.lookup index).map (·.blockType)).getD .generic

/-- The body of the loop of `compact`. -/
def cutStep (env : Env) (minimumKeptTokens : Nat) (blocks : Dict Nat ContextBlock) (plan : CompactionPlan) (state : Cut)
    (share : Nat × Nat) : Cut :=
  let (index, allocation) := share
  let message := state.transformed.getD index []
  match get? message "content" with
  | some (.str content) =>
    let before := estimateTokens (.obj message)
    let requestedReduction := min state.remaining allocation
    if requestedReduction = 0 then state
    else
      let targetContentTokens := max minimumKeptTokens (estimateTokens (.str content) - requestedReduction)
      let compacted := Json.set message "content"
        (.str (compactText env content targetContentTokens (cutType blocks index)))
      let after := estimateTokens (.obj compacted)
      if before ≤ after then state
      else
        { transformed := state.transformed.set index compacted
          remaining := state.remaining - (before - after)
          records := state.records ++
            [{ messageIndex := index
               originalHash := env.sha256 content
               tokensBefore := before
               tokensAfter := after
               blockType := cutType blocks index
               importance := (plan.importanceByMessageIndex.lookup index).getD (1 / 2) }] }
  | _ => state

/-- `_validate_boundaries`. -/
def validateBoundaries (before after : List Message) (cache : CacheAnalysis) (plan : CompactionPlan) : Except PyError Unit :=
  (List.range before.length).forM fun i =>
    let changed := canonicalJson (.obj (before.getD i [])) ≠ canonicalJson (.obj (after.getD i []))
    if changed ∧ ¬plan.compactableMessageIndices.contains i then
      .error (.compactionError ("compaction changed unauthorized message index " ++ toString i))
    else if cache.protectedMessageIndices.contains i ∧ changed then
      .error (.compactionError ("compaction changed protected message index " ++ toString i))
    else .ok ()

/-- `compact`. -/
def compact (env : Env) (minimumKeptTokens : Nat) (messages : List Message) (cache : CacheAnalysis) (plan : CompactionPlan) :
    Except PyError CompactionResult :=
  if messages.length ≠ cache.messageTokens.length then
    .error (.compactionError "cache analysis does not match the supplied conversation")
  else
    let cut := (shares minimumKeptTokens cache plan).foldl
      (cutStep env minimumKeptTokens (blockByIndex cache.contextBlocks) plan)
      { transformed := messages, remaining := plan.requiredReductionTokens }
    match validateBoundaries messages cut.transformed cache plan with
    | .error e => .error e
    | .ok () =>
      let tokensAfter := cache.toolTokens + (cut.transformed.map fun m => estimateTokens (.obj m)).sum
      .ok
        { messages := cut.transformed
          tokensBefore := cache.totalTokens
          tokensAfter
          targetTokens := plan.targetTokens
          targetMet := tokensAfter ≤ plan.targetTokens
          records := cut.records }

/-- A compaction that returns has cut the shares one after another, and found the boundaries kept. -/
theorem compact_ok {env : Env} {minimumKeptTokens : Nat} {messages : List Message} {cache : CacheAnalysis} {plan : CompactionPlan}
    {result : CompactionResult} (h : compact env minimumKeptTokens messages cache plan = .ok result) :
    ∃ cut, (shares minimumKeptTokens cache plan).foldl (cutStep env minimumKeptTokens (blockByIndex cache.contextBlocks) plan)
          { transformed := messages, remaining := plan.requiredReductionTokens } = cut ∧
      validateBoundaries messages cut.transformed cache plan = .ok () ∧
      result =
        { messages := cut.transformed
          tokensBefore := cache.totalTokens
          tokensAfter := cache.toolTokens + (cut.transformed.map fun m => estimateTokens (.obj m)).sum
          targetTokens := plan.targetTokens
          targetMet := cache.toolTokens + (cut.transformed.map fun m => estimateTokens (.obj m)).sum ≤ plan.targetTokens
          records := cut.records } := by
  unfold compact at h
  split at h
  · cases h
  · dsimp only at h
    split at h
    · cases h
    · rename_i hbound
      cases h
      exact ⟨_, rfl, hbound, rfl⟩

/-! ## The gateway -/

/-- The budget `prepare_call` goes on with: its required context raised to the physical floor. -/
def raisedBudget (minimumKeptTokens : Nat) (cache : CacheAnalysis) (budget : CallBudget) : CallBudget :=
  let minimumReachableContext := minimumReachableTokens minimumKeptTokens cache
  if budget.requiredContextTokens < minimumReachableContext then
    { budget with
      requiredContextTokens := minimumReachableContext
      allocatorReason := budget.allocatorReason ++ " Physical context floor raised to " ++
        toString minimumReachableContext ++ " tokens to preserve structurally protected messages." }
  else budget

/-- The compaction of `prepare_call`, from the budget the controller reserved and the decision the router ranked first. -/
def prepareCompaction (env : Env) (minimumKeptTokens : Nat) (messages : List Message) (cache : CacheAnalysis)
    (decision : ModelDecision) (budget : CallBudget) : Except PyError CompactionResult :=
  match compact env minimumKeptTokens messages cache
      (plan minimumKeptTokens cache decision (raisedBudget minimumKeptTokens cache budget)) with
  | .error e => .error e
  | .ok compaction =>
    if compaction.targetMet then .ok compaction
    else
      .error (.compactionError ("Gemma's required context target cannot be reached without changing " ++
        "structurally immutable context"))

end PromptRail
