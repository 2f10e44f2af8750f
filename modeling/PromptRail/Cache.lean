import PromptRail.Models
import Mathlib.Algebra.Order.Field.Rat
import Mathlib.Tactic.NormNum
import Mathlib.Tactic.Positivity

/-!
# The analysis of a prompt (`cache.py`)

`PromptCacheCoordinator.analyze` and what it calls: the token estimate, the protected and the compactable messages, the value of
the cached prefix for each candidate, and the blocks of context. A conversation is a list of messages and a message a JSON
object. What lies outside the program is gathered in `Env`.
-/

namespace PromptRail

open PyText (Text strip casefold search anyLiteral dropLiteral isWord wordBoundary terms ignoreCase)
open Table (Dict)
open Json (Value get?)

/-- What the functions of this module take from outside: the hexadecimal SHA-256 of the UTF-8 encoding of a text, the
characters outside ASCII that are letters or digits, and the text `str` prints for a list or a dictionary. -/
structure Env where
  sha256 : Text → Text
  alnum : Char → Bool
  repr : Value → Text

/-- `str`. -/
def Env.str (env : Env) : Value → Text
  | .null => "None".toList
  | .bool b => (if b then "True" else "False").toList
  | .int n => (toString n).toList
  | .float literal => literal.toList
  | .str s => s
  | v => env.repr v

/-- `str(v or "")`. -/
def Env.strOrEmpty (env : Env) (v : Option Value) : Text :=
  match v with
  | some v => if Json.truthy v then env.str v else []
  | none => []

/-- `canonical_json`: the text, which the code encodes as UTF-8. -/
def canonicalJson (v : Value) : Text := Json.dump v

/-- The estimate for a number of bytes. -/
def tokensOfBytes (length : Nat) : Nat := max 1 ((length + 3) / 4)

/-- `estimate_tokens`. -/
def estimateTokens (v : Value) : Nat := tokensOfBytes (PyText.utf8Len (canonicalJson v))

/-- `_prefix_hash`. -/
def prefixHash (env : Env) (messages : List Message) (count : Nat) (tools : List Message) : Option Text :=
  if count ≤ 0 ∧ tools.isEmpty then none
  else
    some (env.sha256 (canonicalJson
      (.obj [("messages", .arr ((messages.take count).map .obj)), ("tools", .arr (tools.map .obj))])))

/-! ## Roles -/

/-- The role of a message, case-folded. -/
def role (env : Env) (message : Message) : Text := casefold (env.strOrEmpty (get? message "role"))

/-- A field is present and not empty. -/
def present (message : Message) (k : String) : Bool := (get? message k).any Json.truthy

/-- The last position whose message satisfies a test. -/
def lastIndex (p : Message → Bool) (messages : List Message) : Option Nat :=
  (List.range messages.length).reverse.find? fun i => (messages[i]?).any p

/-- The latest user message that answers no tool call. -/
def latestUser (env : Env) (messages : List Message) : Option Nat :=
  lastIndex (fun m => role env m == "user".toList && !present m "tool_call_id") messages

/-- The role is the system's or the developer's. -/
def isProtocol (env : Env) (message : Message) : Bool :=
  role env message == "system".toList || role env message == "developer".toList

/-- `_proposed_prefix_count`. -/
def proposedPrefixCount (env : Env) (messages : List Message) : Nat :=
  match latestUser env messages with
  | some i => i
  | none => (messages.takeWhile (isProtocol env)).length

/-- The iteration `for tool_call in value or ()`. -/
def iterate : Option Value → Except PyError (List Value)
  | some (.arr xs) => .ok xs
  | some (.str s) => .ok (s.map fun c => .str [c])
  | some (.obj fs) => .ok (fs.map fun p => .str p.1.toList)
  | some (.bool true) => .error (.typeError "'bool' object is not iterable")
  | some (.int n) => if n = 0 then .ok [] else .error (.typeError "'int' object is not iterable")
  | some (.float literal) =>
    if Json.truthy (.float literal) then .error (.typeError "'float' object is not iterable") else .ok []
  | some (.bool false) => .ok []
  | some .null => .ok []
  | none => .ok []

/-- The identifier of a tool call: empty when it is not a dictionary or has none. -/
def toolCallId (env : Env) : Value → Text
  | .obj call => env.strOrEmpty (get? call "id")
  | _ => []

/-- The tool calls that some message of the conversation answers. -/
def toolResults (env : Env) (messages : List Message) : List Text :=
  (messages.filter fun m => present m "tool_call_id").map fun m => env.strOrEmpty (get? m "tool_call_id")

/-- The message asks for a tool call that no message answers. -/
def awaitsTool (env : Env) (results : List Text) (calls : List Value) : Bool :=
  calls.any fun call => !(toolCallId env call).isEmpty && !results.contains (toolCallId env call)

/-- `_protected_indices`. -/
def protectedIndices (env : Env) (messages : List Message) : Except PyError (List Nat) := do
  let calls ← messages.mapM fun m => iterate (get? m "tool_calls")
  let results := toolResults env messages
  return (List.range messages.length).filter fun i =>
    latestUser env messages == some i || (messages[i]?).any (isProtocol env) || (calls[i]?).any (awaitsTool env results)

/-- `_safe_compactable_message`. -/
def safeCompactableMessage (env : Env) (message : Message) : Bool :=
  (role env message == "assistant".toList || role env message == "tool".toList) &&
    match get? message "content" with
    | some (.str content) => !(strip content).isEmpty
    | _ => false

/-! ## Blocks of context -/

/-- `_content_text`. -/
def contentText (content : Option Value) : Text :=
  match content with
  | some (.str s) => s
  | some v => canonicalJson v
  | none => canonicalJson .null

/-- No word character follows. -/
def wordEnds (env : Env) (rest : Text) : Bool := !rest.head?.any (isWord env.alnum)

/-- One of the literals stands at the front, and ends a word. -/
def anyWord (env : Env) (literals : List String) (rest : Text) : Bool :=
  literals.any fun l => (dropLiteral l.toList rest).any (wordEnds env)

/-- `(?im)(?:pytest|unittest|\btests?\b|passed|failed)`. -/
def testPattern (env : Env) (prev : Option Char) (rest : Text) : Bool :=
  anyLiteral ["pytest", "unittest", "passed", "failed"] rest ||
    (wordBoundary env.alnum prev rest && anyWord env ["test", "tests"] rest)

/-- The position starts a line. -/
def lineStart (prev : Option Char) : Bool := prev.all (· == '\n')

/-- The literal, capitals as they are, stands at the front of the text. -/
def startsWith (literals : List String) (rest : Text) : Bool := literals.any fun l => l.toList.isPrefixOf rest

/-- `(?m)^(?:diff --git|@@ |\+\+\+ |--- )`. -/
def patchPattern (prev : Option Char) (rest : Text) : Bool :=
  lineStart prev && startsWith ["diff --git", "@@ ", "+++ ", "--- "] rest

/-- The end of a match of `_ERROR_RE`: a colon or a word boundary, after a word character. -/
def errorEnds (env : Env) (rest : Text) : Bool := rest.head? == some ':' || wordEnds env rest

/-- `[\w.]*(?:Error|Exception)(?::|\b)`. -/
def errorName (env : Env) : Text → Bool
  | [] => false
  | c :: rest =>
    (["error", "exception"].any fun l => (dropLiteral l.toList (c :: rest)).any (errorEnds env)) ||
      ((isWord env.alnum c || c == '.') && errorName env rest)

/-- `_ERROR_RE`. -/
def errorPattern (env : Env) (prev : Option Char) (rest : Text) : Bool :=
  (lineStart prev || wordBoundary env.alnum prev rest) &&
    ((["error", "failed", "failure", "fatal", "traceback"].any fun l => (dropLiteral l.toList rest).any (errorEnds env)) ||
      match rest with
      | [] => false
      | c :: rest => ((ignoreCase c).isLower || c == '_') && errorName env rest)

/-- The type of a block. -/
def blockType (env : Env) (message : Message) (text : Text) : BlockType :=
  if isProtocol env message then .protocol
  else if role env message = "user".toList then .user
  else if role env message = "tool".toList ∨ present message "tool_call_id" then
    if search (testPattern env) none text then .test
    else if search patchPattern none text then .patch
    else .tool
  else if role env message = "assistant".toList then .assistant
  else .generic

/-- The importance of a block before any override. -/
def blockImportance (env : Env) (type : BlockType) (immutable latestTool : Bool) (text : Text) (overlap : ℚ) (age : Nat) : ℚ :=
  if immutable then 1
  else if latestTool then 95 / 100
  else if search (errorPattern env) none text ∨ type = .test ∨ type = .patch then 9 / 10
  else min (95 / 100) (25 / 100 + 45 / 100 * overlap + 3 / 10 * (1 / (1 + (age : ℚ) / 4)))

/-- The importance of a block is a fraction when its overlap is not negative. -/
theorem blockImportance_mem (env : Env) (type : BlockType) (immutable latestTool : Bool) (text : Text) {overlap : ℚ}
    (age : Nat) (hoverlap : 0 ≤ overlap) :
    0 ≤ blockImportance env type immutable latestTool text overlap age ∧
      blockImportance env type immutable latestTool text overlap age ≤ 1 := by
  unfold blockImportance
  split_ifs
  · norm_num
  · norm_num
  · norm_num
  · constructor
    · exact le_min (by norm_num) (by positivity)
    · exact min_le_of_left_le (by norm_num)

/-- The block of one message: `seen` holds the fingerprints of the messages before it. -/
def contextBlock (env : Env) (messages : List Message) (taskTerms : List Text) (seen : List Text) (index : Nat)
    (message : Message) : ContextBlock :=
  let text := contentText (get? message "content")
  let type := blockType env message text
  let overlap : ℚ := (taskTerms.filter (terms (casefold text)).contains).length / max 1 taskTerms.length
  let fingerprint := env.sha256 (canonicalJson (.obj message))
  let duplicate := seen.count fingerprint
  let age := messages.length - index - 1
  let immutable := isProtocol env message || latestUser env messages == some index
  let latestTool :=
    lastIndex (fun m => role env m == "tool".toList || present m "tool_call_id") messages == some index
  { blockId := "ctx_".toList ++ fingerprint.take 16 ++ '_' :: (toString duplicate).toList
    messageIndices := [index]
    blockType := type
    tokens := estimateTokens (.obj message)
    age := age
    taskOverlap := overlap
    redundancy := min 1 (duplicate / 2)
    cacheInvalidationCost := 0
    importance := blockImportance env type immutable latestTool text overlap age
    structurallyImmutable := immutable }

/-- The overlap of two sets of terms is a fraction of the first. -/
theorem overlap_mem (taskTerms : List Text) (p : Text → Bool) :
    0 ≤ ((taskTerms.filter p).length / max 1 taskTerms.length : ℚ) ∧
      ((taskTerms.filter p).length / max 1 taskTerms.length : ℚ) ≤ 1 := by
  have hpos : 0 < max 1 taskTerms.length := lt_max_of_lt_left Nat.one_pos
  have hlen : (taskTerms.filter p).length ≤ max 1 taskTerms.length :=
    (taskTerms.length_filter_le p).trans (le_max_right _ _)
  constructor
  · positivity
  · rw [div_le_one (by exact_mod_cast hpos)]
    exact_mod_cast hlen

/-- `build_context_blocks` builds no block that `pydantic` refuses. -/
theorem contextBlock_valid (env : Env) (messages : List Message) (taskTerms seen : List Text) (index : Nat)
    (message : Message) : (contextBlock env messages taskTerms seen index message).Valid := by
  have hoverlap := overlap_mem taskTerms
    (terms (casefold (contentText (get? message "content")))).contains
  constructor
  · exact hoverlap
  · constructor
    · exact le_min zero_le_one (by positivity)
    · exact min_le_left _ _
  · exact le_rfl
  · exact blockImportance_mem _ _ _ _ _ _ hoverlap.1

/-- The blocks of the messages from a position on. -/
def contextBlocksFrom (env : Env) (messages : List Message) (taskTerms : List Text) :
    List Text → Nat → List Message → List ContextBlock
  | _, _, [] => []
  | seen, index, message :: rest =>
    contextBlock env messages taskTerms seen index message ::
      contextBlocksFrom env messages taskTerms (env.sha256 (canonicalJson (.obj message)) :: seen) (index + 1) rest

theorem contextBlocksFrom_valid (env : Env) (messages : List Message) (taskTerms : List Text) (rest : List Message) :
    ∀ seen index, ∀ b ∈ contextBlocksFrom env messages taskTerms seen index rest, b.Valid := by
  induction rest with
  | nil =>
    intro seen index b hb
    cases hb
  | cons message rest ih =>
    intro seen index b hb
    rcases List.mem_cons.1 hb with rfl | hb
    · exact contextBlock_valid ..
    · exact ih _ _ b hb

/-- `build_context_blocks`. -/
def buildContextBlocks (env : Env) (messages : List Message) (task : Text) : List ContextBlock :=
  contextBlocksFrom env messages (terms (casefold task)) [] 0 messages

/-! ## The value of the cached prefix -/

/-- `_CacheRecord`. -/
structure CacheRecord where
  modelId : String
  provider : String
  prefixHash : Text
  messageCount : Nat
  prefixTokens : Nat
  expiresAt : Int

/-- `_SessionState`. -/
structure SessionState where
  lastModelId : Option String := none
  lastProvider : Option String := none
  record : Option CacheRecord := none

/-- `_route_input_cost`. -/
def routeInputCost (route : ProviderRoute) (totalTokens cachedTokens : Nat) : ℚ :=
  (cachedTokens * route.cacheReadPricePerMillion.getD route.inputPricePerMillion +
    (totalTokens - cachedTokens : Nat) * route.inputPricePerMillion) / 1000000

/-- One route of a candidate, priced for a call. -/
structure RouteCost where
  cost : ℚ
  route : ProviderRoute
  exact : Bool
  cachedTokens : Nat

/-- The order `min` takes the routes in: cost, then tail latency, then identifier. -/
def RouteCost.before (a b : RouteCost) : Bool :=
  a.cost < b.cost || (a.cost = b.cost && (a.route.p95TotalLatencyMs < b.route.p95TotalLatencyMs ||
    (a.route.p95TotalLatencyMs = b.route.p95TotalLatencyMs && a.route.routeId < b.route.routeId)))

/-- `min` of a list that is not empty: the first of the least elements. -/
def cheapest : RouteCost → List RouteCost → RouteCost
  | best, [] => best
  | best, r :: rest => cheapest (if r.before best then r else best) rest

/-- One route of the list `_candidate_value` builds. -/
def routeCost (modelId : String) (totalTokens predictedOutputTokens : Nat) (record : Option CacheRecord)
    (route : ProviderRoute) : RouteCost :=
  let exact := record.any fun r => modelId == r.modelId && route.provider == r.provider && route.cacheSupported
  let cachedTokens := if exact then min totalTokens ((record.map (·.prefixTokens)).getD 0) else 0
  { cost := routeInputCost route totalTokens cachedTokens + predictedOutputTokens * route.outputPricePerMillion / 1000000
    route, exact, cachedTokens }

/-- What it costs to leave the route that holds the cached prefix. -/
def switchCost (candidate : ModelCandidate) (totalTokens : Nat) (record : CacheRecord) : ℚ :=
  match candidate.routes.find? fun route => route.provider == record.provider && route.cacheSupported with
  | none => 0
  | some route =>
    (min totalTokens record.prefixTokens : Nat) *
      max 0 (route.inputPricePerMillion - route.cacheReadPricePerMillion.getD route.inputPricePerMillion) / 1000000

/-- `_candidate_value`. A candidate has a route. -/
def candidateValue (candidate : ModelCandidate) (totalTokens predictedOutputTokens : Nat) (record : Option CacheRecord) :
    Option CacheValue :=
  match candidate.routes.map (routeCost candidate.modelId totalTokens predictedOutputTokens record) with
  | [] => none
  | first :: rest =>
    let selected := cheapest first rest
    let inputCost := routeInputCost selected.route totalTokens selected.cachedTokens
    some
      { modelId := candidate.modelId
        provider := some selected.route.provider
        exactReuse := selected.exact
        cachedTokens := selected.cachedTokens
        inputCostUsd := inputCost
        retainedValueUsd := max 0 (totalTokens * selected.route.inputPricePerMillion / 1000000 - inputCost)
        switchCostUsd :=
          match record with
          | some r => if selected.exact then 0 else switchCost candidate totalTokens r
          | none => 0 }

/-! ## The analysis -/

/-- `PromptCacheCoordinator`. -/
structure PromptCacheCoordinator where
  minimumCompactableTokens : Nat := 128
  sessions : Dict Text SessionState := ∅

/-- The arguments of `analyze`. -/
structure AnalyzeArguments where
  sessionId : Text
  messages : List Message
  tools : List Message
  candidates : List ModelCandidate
  predictedOutputTokens : Nat
  task : Text := []
  contextBlocks : List ContextBlock := []

/-- A block with what the cached prefix says about it. -/
def blockInCache (cacheable : List Nat) (cacheableTokens : Nat) (block : ContextBlock) : ContextBlock :=
  { block with
    cached := block.messageIndices.any cacheable.contains
    cacheInvalidationCost :=
      if block.messageIndices.any cacheable.contains then block.tokens / max 1 cacheableTokens else 0 }

/-- What the analysis adds to a block keeps it valid, although `model_copy` checks nothing. -/
theorem ContextBlock.Valid.blockInCache {b : ContextBlock} (h : b.Valid) (cacheable : List Nat) (cacheableTokens : Nat) :
    (blockInCache cacheable cacheableTokens b).Valid := by
  refine ⟨h.taskOverlap, h.redundancy, ?_, h.importance⟩
  simp only [PromptRail.blockInCache]
  split
  · positivity
  · exact le_rfl

namespace PromptCacheCoordinator

/-- The state of a session at a moment: a record that expired is dropped. -/
def sessionAt (c : PromptCacheCoordinator) (sessionId : Text) (now : Int) : SessionState :=
  let state := (c.sessions.lookup sessionId).getD {}
  if state.record.any fun r => r.expiresAt ≤ now then { state with record := none } else state

/-- The record of a session that holds the offered prefix. -/
def activeRecord (env : Env) (state : SessionState) (args : AnalyzeArguments) : Option CacheRecord :=
  state.record.filter fun r =>
    r.messageCount ≤ args.messages.length && prefixHash env args.messages r.messageCount args.tools == some r.prefixHash

/-- The analysis `analyze` returns for the state of a session and the protected messages. -/
def analysis (env : Env) (c : PromptCacheCoordinator) (state : SessionState) (args : AnalyzeArguments)
    (protected_ : List Nat) : CacheAnalysis :=
  let messageTokens := args.messages.map fun m => estimateTokens (.obj m)
  let toolTokens := (args.tools.map fun t => estimateTokens (.obj t)).sum
  let totalTokens := messageTokens.sum + toolTokens
  let record := activeRecord env state args
  let confirmed := record.filter fun r => 0 < r.prefixTokens
  let cacheable := List.range ((confirmed.map (·.messageCount)).getD 0)
  let compactable := (List.range args.messages.length).filter fun i =>
    !protected_.contains i && c.minimumCompactableTokens ≤ messageTokens.getD i 0 &&
      (args.messages[i]?).any (safeCompactableMessage env)
  let confirmedTools := (confirmed.map (·.messageCount)).any (0 < ·)
  let cacheableTokens := if confirmedTools then (confirmed.map (·.prefixTokens)).getD 0 else 0
  let accounted := ((cacheable ++ compactable).dedup.map fun i => messageTokens.getD i 0).sum +
    if confirmedTools then toolTokens else 0
  let raw := if args.contextBlocks.isEmpty then buildContextBlocks env args.messages args.task else args.contextBlocks
  { totalTokens, toolTokens, messageTokens
    prefixHash := prefixHash env args.messages (proposedPrefixCount env args.messages) args.tools
    cacheableMessageIndices := cacheable
    protectedMessageIndices := protected_
    compactableMessageIndices := compactable
    cacheableTokens
    protectedDynamicTokens := totalTokens - accounted
    compactableTokens := (compactable.map fun i => messageTokens.getD i 0).sum
    lastModelId := state.lastModelId
    lastProvider := state.lastProvider
    values := Table.ofList (args.candidates.filterMap fun candidate =>
      (candidateValue candidate totalTokens args.predictedOutputTokens record).map fun v => (candidate.modelId, v))
    contextBlocks := raw.map (blockInCache cacheable cacheableTokens) }

/-- `analyze`, at a moment. A record that expired is dropped from a session that is stored. -/
def analyze (env : Env) (c : PromptCacheCoordinator) (now : Int) (args : AnalyzeArguments) :
    Except PyError CacheAnalysis × PromptCacheCoordinator :=
  if args.messages.isEmpty then (.error (.valueError "cache analysis requires at least one message"), c)
  else
    let state := c.sessionAt args.sessionId now
    let c' := if args.sessionId ∈ c.sessions then { c with sessions := c.sessions.insert args.sessionId state } else c
    match protectedIndices env args.messages with
    | .error e => (.error e, c')
    | .ok protected_ => (.ok (analysis env c state args protected_), c')

/-- What `analyze` returns is the analysis for the state of the session and the protected messages. -/
theorem analyze_ok {env : Env} {c : PromptCacheCoordinator} {now : Int} {args : AnalyzeArguments} {cache : CacheAnalysis}
    (h : (c.analyze env now args).1 = .ok cache) :
    ∃ protected_, protectedIndices env args.messages = .ok protected_ ∧
      cache = analysis env c (c.sessionAt args.sessionId now) args protected_ := by
  unfold analyze at h
  split at h
  · cases h
  · simp only at h
    split at h
    · cases h
    · rename_i protected_ hprotected
      exact ⟨protected_, hprotected, (Except.ok.inj h).symm⟩

/-- Blocks that the caller gives aside, `analyze` returns none that `pydantic` refuses. -/
theorem valid_of_analyze {env : Env} {c : PromptCacheCoordinator} {now : Int} {args : AnalyzeArguments} {cache : CacheAnalysis}
    (h : (c.analyze env now args).1 = .ok cache) (hgiven : ∀ b ∈ args.contextBlocks, b.Valid) :
    ∀ b ∈ cache.contextBlocks, b.Valid := by
  obtain ⟨protected_, -, rfl⟩ := analyze_ok h
  intro b hb
  obtain ⟨raw, hraw, rfl⟩ := List.mem_map.1 hb
  apply ContextBlock.Valid.blockInCache
  split at hraw
  · exact contextBlocksFrom_valid _ _ _ _ _ _ raw hraw
  · exact hgiven raw hraw

/-! ## What a call leaves -/

/-- `_candidate_prefix_count`. The blocks have finitely many indices, so the loop that counts the leading ones ends within their
number. -/
def candidatePrefixCount (analysis : CacheAnalysis) : Nat :=
  let users := analysis.contextBlocks.filter fun b => b.blockType == .user && b.structurallyImmutable
  match (users.flatMap (·.messageIndices)).max? with
  | some latestUser => latestUser
  | none =>
    let protocols := (analysis.contextBlocks.filter fun b => b.blockType == .protocol).flatMap (·.messageIndices)
    ((List.range protocols.length).takeWhile protocols.contains).length

/-- The record that `observe` stores, if it stores one: the provider reported tokens of the offered prefix, on a route with a cache. -/
def promoted (now : Int) (analysis : CacheAnalysis) (route : ProviderRoute) (usage : ModelUsage) : Option CacheRecord :=
  match analysis.prefixHash with
  | none => none
  | some offered =>
    if !offered.isEmpty && route.cacheSupported && (0 < usage.cacheReadTokens || 0 < usage.cacheWriteTokens) then
      some
        { modelId := usage.modelId
          provider := usage.provider
          prefixHash := offered
          messageCount := candidatePrefixCount analysis
          prefixTokens := max usage.cacheReadTokens usage.cacheWriteTokens
          expiresAt := now + route.cacheTtlSeconds * 1000 }
    else none

/-- `observe`, at a moment. -/
def observe (c : PromptCacheCoordinator) (now : Int) (sessionId : Text) (analysis : CacheAnalysis) (route : ProviderRoute)
    (usage : ModelUsage) : PromptCacheCoordinator :=
  let state := (c.sessions.lookup sessionId).getD {}
  { c with
    sessions := c.sessions.insert sessionId
      { lastModelId := some usage.modelId
        lastProvider := some usage.provider
        record := (promoted now analysis route usage).or state.record } }

end PromptCacheCoordinator

end PromptRail
