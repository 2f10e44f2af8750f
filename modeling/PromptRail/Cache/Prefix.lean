import PromptRail.Cache
import PromptRail.Library.JsonRoundTrip
import PromptRail.Library.Outcome

/-!
# The prefix a provider confirms

The boundary of the offered prefix is computed from the messages when it is hashed, and from the blocks of the analysis when the
provider confirms it: the two agree. A record of the session then holds a later conversation exactly when that conversation begins
with the messages of the record, and has its tools.
-/

namespace PromptRail

open PyText (Text)
open Table (Dict)
open Json (Value WellFormed)
open PromptCacheCoordinator (candidatePrefixCount promoted activeRecord)

/-- Two lists of messages are written alike. -/
def CanonicallyEqual (messages messages' : List Message) : Prop :=
  messages.map (fun m => canonicalJson (.obj m)) = messages'.map fun m => canonicalJson (.obj m)

/-- The messages and the tools are dictionaries that `json.dumps` writes. -/
structure AnalyzeArguments.Written (args : AnalyzeArguments) : Prop where
  messages : ∀ m ∈ args.messages, WellFormed (.obj m)
  tools : ∀ t ∈ args.tools, WellFormed (.obj t)

/-- The blocks are those of `build_context_blocks`, which the gateway passes, or are left to the analysis. -/
def AnalyzeArguments.OwnBlocks (env : Env) (args : AnalyzeArguments) : Prop :=
  args.contextBlocks = [] ∨ ∃ task, args.contextBlocks = buildContextBlocks env args.messages task

/-- The hexadecimal digests: none is empty, and no two texts share one. -/
structure Env.Digests (env : Env) : Prop where
  injective : Function.Injective env.sha256
  ne_nil : ∀ t, env.sha256 t ≠ []

/-- What the coordinator is asked. -/
inductive CacheOp where
  | analyze (now : Int) (args : AnalyzeArguments)
  | observe (now : Int) (sessionId : Text) (analysis : CacheAnalysis) (route : ProviderRoute) (usage : ModelUsage)

/-- The coordinator after an operation. -/
def PromptCacheCoordinator.step (env : Env) (c : PromptCacheCoordinator) : CacheOp → PromptCacheCoordinator
  | .analyze now args => (c.analyze env now args).2
  | .observe now sessionId analysis route usage => c.observe now sessionId analysis route usage

/-- An operation of a session is an analysis before a moment, or an observation that stores no record. -/
def CacheOp.Keeps (sessionId : Text) (expiresAt : Int) : CacheOp → Prop
  | .analyze now args => args.sessionId = sessionId → now < expiresAt
  | .observe now sessionId' analysis route usage => sessionId' = sessionId → promoted now analysis route usage = none

namespace PrefixAux

/-! ## One boundary -/

variable (env : Env)

/-- What the boundary depends on in a block. -/
def shape (b : ContextBlock) : List Nat × BlockType × Bool := (b.messageIndices, b.blockType, b.structurallyImmutable)

/-- The shape of the block of a message. -/
def messageShape (messages : List Message) (p : Message × Nat) : List Nat × BlockType × Bool :=
  ([p.2], blockType env p.1 (contentText (Json.get? p.1 "content")), isProtocol env p.1 || latestUser env messages == some p.2)

theorem shape_contextBlocksFrom (messages : List Message) (taskTerms : List Text) (rest : List Message) :
    ∀ seen index, (contextBlocksFrom env messages taskTerms seen index rest).map shape =
      (rest.zipIdx index).map (messageShape env messages) := by
  induction rest with
  | nil =>
    intro seen index
    rfl
  | cons message rest ih =>
    intro seen index
    rw [contextBlocksFrom, List.map_cons, ih, List.zipIdx_cons, List.map_cons]
    rfl

variable {env} {messages : List Message} {analysis : CacheAnalysis}

/-- The messages whose blocks pass a test. -/
theorem mem_indices (hshape : analysis.contextBlocks.map shape = messages.zipIdx.map (messageShape env messages))
    (test : BlockType → Bool → Bool) (i : Nat) :
    i ∈ (analysis.contextBlocks.filter fun b => test b.blockType b.structurallyImmutable).flatMap (·.messageIndices) ↔
      ∃ m, messages[i]? = some m ∧ test (blockType env m (contentText (Json.get? m "content")))
        (isProtocol env m || latestUser env messages == some i) := by
  have hfilter : (analysis.contextBlocks.filter fun b => test b.blockType b.structurallyImmutable).flatMap (·.messageIndices) =
      ((analysis.contextBlocks.map shape).filter fun s => test s.2.1 s.2.2).flatMap (·.1) := by
    rw [List.filter_map, List.flatMap_map]
    rfl
  rw [hfilter, hshape]
  simp only [List.mem_flatMap, List.mem_filter, List.mem_map, Prod.exists, List.mem_zipIdx_iff_getElem?, messageShape]
  constructor
  · rintro ⟨indices, type, immutable, ⟨⟨m, j, hm, hrow⟩, htest⟩, hi⟩
    obtain ⟨rfl, rfl, rfl⟩ := Prod.mk.inj hrow |>.imp_right Prod.mk.inj
    obtain rfl := List.mem_singleton.1 hi
    exact ⟨m, hm, htest⟩
  · rintro ⟨m, hm, htest⟩
    exact ⟨_, _, _, ⟨⟨m, i, hm, rfl⟩, htest⟩, List.mem_singleton_self i⟩

theorem blockType_protocol (message : Message) (text : Text) :
    blockType env message text = .protocol ↔ isProtocol env message := by
  unfold blockType
  split_ifs <;> simp_all

/-- A user's message is no protocol message. -/
theorem blockType_user {message : Message} {text : Text} :
    blockType env message text = .user ↔ role env message = "user".toList := by
  have hdiffer : role env message = "user".toList → isProtocol env message = false := by
    intro h
    simp [isProtocol, h]
  unfold blockType
  split_ifs with hprotocol huser
  · exact iff_of_false (by decide) fun h => absurd (hdiffer h) (by simp [hprotocol])
  · exact iff_of_true rfl huser
  all_goals exact iff_of_false (by decide) huser

/-- The latest user message is one. -/
theorem role_of_latestUser {i : Nat} (h : latestUser env messages = some i) :
    ∃ m, messages[i]? = some m ∧ role env m = "user".toList := by
  unfold latestUser lastIndex at h
  have hfound := List.find?_some h
  obtain ⟨m, hm, hrole⟩ := (Option.any_eq_true _ _).1 hfound
  rw [Bool.and_eq_true, beq_iff_eq] at hrole
  exact ⟨m, hm, hrole.1⟩

/-- The elements that `takeWhile` takes pass the test, and the next one does not. -/
theorem takeWhile_length_spec {α : Type} (p : α → Bool) (l : List α) :
    (∀ i < (l.takeWhile p).length, ∃ x, l[i]? = some x ∧ p x) ∧ ∀ x, l[(l.takeWhile p).length]? = some x → ¬p x := by
  induction l with
  | nil => simp
  | cons y l ih =>
    by_cases hy : p y
    · rw [List.takeWhile_cons_of_pos hy]
      refine ⟨fun i hi => ?_, fun x hx => ih.2 x (by simpa using hx)⟩
      cases i with
      | zero => exact ⟨y, rfl, hy⟩
      | succ i => simpa using ih.1 i (by simpa using hi)
    · rw [List.takeWhile_cons_of_neg hy]
      refine ⟨fun i hi => absurd hi (Nat.not_lt_zero i), fun x hx => ?_⟩
      obtain rfl : y = x := by simpa using hx
      exact hy

/-- The number of leading elements that pass a test. -/
theorem takeWhile_length_eq {α : Type} {p : α → Bool} {l : List α} {n : Nat} (hin : ∀ i < n, ∃ x, l[i]? = some x ∧ p x)
    (hout : ∀ x, l[n]? = some x → ¬p x) : (l.takeWhile p).length = n := by
  obtain ⟨hin', hout'⟩ := takeWhile_length_spec p l
  rcases lt_trichotomy (l.takeWhile p).length n with hlt | heq | hgt
  · obtain ⟨x, hx, hp⟩ := hin _ hlt
    exact absurd hp (hout' x hx)
  · exact heq
  · obtain ⟨x, hx, hp⟩ := hin' _ hgt
    exact absurd hp (hout x hx)

/-- The leading positions of a list that pass a test, counted in the set of all positions that do. -/
theorem leading_eq {p : Message → Bool} {indices : List Nat} (h : ∀ i, i ∈ indices ↔ ∃ m, messages[i]? = some m ∧ p m) :
    ((List.range indices.length).takeWhile indices.contains).length = (messages.takeWhile p).length := by
  obtain ⟨hin, hout⟩ := takeWhile_length_spec p messages
  have hle : (messages.takeWhile p).length ≤ indices.length := by
    have hsub : (List.range (messages.takeWhile p).length).Subperm indices :=
      List.nodup_range.subperm fun i hi => (h i).2 (hin i (List.mem_range.1 hi))
    simpa using hsub.length_le
  refine takeWhile_length_eq (fun i hi => ⟨i, ?_, ?_⟩) fun i hi hmem => ?_
  · exact List.getElem?_range (lt_of_lt_of_le hi hle)
  · exact List.contains_iff_mem.2 ((h i).2 (hin i hi))
  · obtain ⟨hbound, rfl⟩ := List.getElem?_eq_some_iff.1 hi
    rw [List.getElem_range] at hmem
    obtain ⟨m, hm, hp⟩ := (h _).1 (List.contains_iff_mem.1 hmem)
    exact hout m hm hp

/-- The boundary that `observe` recovers is the one that `analyze` hashed. -/
theorem candidatePrefixCount_eq (hshape : analysis.contextBlocks.map shape = messages.zipIdx.map (messageShape env messages)) :
    candidatePrefixCount analysis = proposedPrefixCount env messages := by
  have husers := mem_indices hshape fun type immutable => type == .user && immutable
  have hprotocols := mem_indices hshape fun type _ => type == .protocol
  simp only [Bool.and_eq_true, beq_iff_eq, Bool.or_eq_true, blockType_user, blockType_protocol] at husers hprotocols
  unfold candidatePrefixCount proposedPrefixCount
  cases hlatest : latestUser env messages with
  | some i =>
    obtain ⟨m, hm, hrole⟩ := role_of_latestUser hlatest
    -- the block of the latest user message is the only immutable one of a user
    have hmax : ((analysis.contextBlocks.filter fun b => b.blockType == .user && b.structurallyImmutable).flatMap
        (·.messageIndices)).max? = some i := by
      refine List.max?_eq_some_iff.2 ⟨(husers i).2 ⟨m, hm, hrole, Or.inr hlatest⟩, fun j hj => ?_⟩
      obtain ⟨m', -, hrole', himmutable⟩ := (husers j).1 hj
      have hnot : isProtocol env m' = false := by simp [isProtocol, hrole']
      rw [hnot, hlatest] at himmutable
      simp at himmutable
      omega
    simp only [hmax]
  | none =>
    have hnil : ((analysis.contextBlocks.filter fun b => b.blockType == .user && b.structurallyImmutable).flatMap
        (·.messageIndices)) = [] := by
      refine List.eq_nil_iff_forall_not_mem.2 fun j hj => ?_
      obtain ⟨m', -, hrole', himmutable⟩ := (husers j).1 hj
      have hnot : isProtocol env m' = false := by simp [isProtocol, hrole']
      rw [hnot, hlatest] at himmutable
      simp at himmutable
    simp only [hnil, List.max?_nil]
    exact leading_eq hprotocols

/-- The blocks of an analysis have the shapes of its messages. -/
theorem shape_of_analyze {c : PromptCacheCoordinator} {now : Int} {args : AnalyzeArguments}
    (h : (c.analyze env now args).1 = .ok analysis) (hblocks : args.OwnBlocks env) :
    analysis.contextBlocks.map shape = args.messages.zipIdx.map (messageShape env args.messages) := by
  obtain ⟨protected_, -, rfl⟩ := PromptCacheCoordinator.analyze_ok h
  have hraw : (if args.contextBlocks.isEmpty then buildContextBlocks env args.messages args.task else args.contextBlocks).map shape =
      args.messages.zipIdx.map (messageShape env args.messages) := by
    split
    · exact shape_contextBlocksFrom env args.messages _ args.messages [] 0
    · rename_i hempty
      obtain ⟨task, htask⟩ := hblocks.resolve_left (by simpa using hempty)
      rw [htask]
      exact shape_contextBlocksFrom env args.messages _ args.messages [] 0
  rw [← hraw]
  simp only [PromptCacheCoordinator.analysis, List.map_map]
  rfl

/-! ## One hash -/

/-- The text that is hashed. -/
def offeredText (messages tools : List Message) : Text :=
  canonicalJson (.obj [("messages", .arr (messages.map .obj)), ("tools", .arr (tools.map .obj))])

/-- The text that is hashed, from the texts of its two fields. -/
theorem dump_offered (a b : Value) :
    canonicalJson (.obj [("messages", a), ("tools", b)]) =
      '{' :: ([','].intercalate
        ((Json.sortFields [("messages", Json.dump a), ("tools", Json.dump b)]).map Json.dumpField) ++ ['}']) := by
  rw [canonicalJson, Json.dump]
  rfl

theorem dump_messages {messages messages' : List Message} (h : CanonicallyEqual messages messages') :
    Json.dump (.arr (messages.map .obj)) = Json.dump (.arr (messages'.map .obj)) := by
  have hdump : ∀ ms : List Message, Json.dumpList (ms.map .obj) = ms.map fun m => canonicalJson (.obj m) := by
    intro ms
    rw [Json.dumpList_eq, List.map_map]
    rfl
  rw [Json.dump, Json.dump, hdump, hdump, h]

theorem offeredText_congr {messages messages' tools tools' : List Message} (hmessages : CanonicallyEqual messages messages')
    (htools : CanonicallyEqual tools tools') : offeredText messages tools = offeredText messages' tools' := by
  rw [offeredText, offeredText, dump_offered, dump_offered, dump_messages hmessages, dump_messages htools]

/-- Texts that are hashed alike have messages and tools that are written alike. -/
theorem offeredText_inj {messages messages' tools tools' : List Message} (hm : ∀ m ∈ messages, WellFormed (.obj m))
    (hm' : ∀ m ∈ messages', WellFormed (.obj m)) (ht : ∀ t ∈ tools, WellFormed (.obj t))
    (ht' : ∀ t ∈ tools', WellFormed (.obj t)) (h : offeredText messages tools = offeredText messages' tools') :
    CanonicallyEqual messages messages' ∧ CanonicallyEqual tools tools' := by
  have harr : ∀ {ms : List Message}, (∀ m ∈ ms, WellFormed (.obj m)) → ∀ v ∈ ms.map Value.obj, WellFormed v :=
    fun hms => List.forall_mem_map.2 hms
  have hobj : ∀ {ms ts : List Message}, (∀ m ∈ ms, WellFormed (.obj m)) → (∀ t ∈ ts, WellFormed (.obj t)) →
      WellFormed (.obj [("messages", .arr (ms.map .obj)), ("tools", .arr (ts.map .obj))]) := by
    intro ms ts hms hts
    refine .obj (show ["messages", "tools"].Nodup by decide) ?_
    simp only [List.forall_mem_cons, List.not_mem_nil, false_imp_iff, implies_true, and_true]
    exact ⟨.arr (harr hms), .arr (harr hts)⟩
  have hsorted : ∀ a b : Value, Json.canonical (.obj [("messages", a), ("tools", b)]) =
      .obj [("messages", Json.canonical a), ("tools", Json.canonical b)] := by
    intro a b
    simp [Json.canonical, Json.canonicalFields, Json.sorted, show "messages" ≤ "tools" by decide]
  have hcanonical := Json.canonical_eq_of_dump_eq (hobj hm ht) (hobj hm' ht') h
  rw [hsorted, hsorted] at hcanonical
  injection hcanonical with hfields
  simp only [List.cons.injEq, Prod.mk.injEq, true_and, and_true] at hfields
  have htext : ∀ {ms ms' : List Message}, (∀ m ∈ ms, WellFormed (.obj m)) → (∀ m ∈ ms', WellFormed (.obj m)) →
      Json.canonical (.arr (ms.map .obj)) = Json.canonical (.arr (ms'.map .obj)) → CanonicallyEqual ms ms' := by
    intro ms ms' hms hms' hequal
    have hdump : Json.dump (.arr (ms.map .obj)) = Json.dump (.arr (ms'.map .obj)) := by
      rw [← Json.dump_canonical (.arr (harr hms)), hequal, Json.dump_canonical (.arr (harr hms'))]
    have hmap := Json.map_dump_of_dump_arr (harr hms) (harr hms') hdump
    rw [List.map_map, List.map_map] at hmap
    exact hmap
  exact ⟨htext hm hm' hfields.1, htext ht ht' hfields.2⟩

/-- A conversation has the hash of an offered prefix exactly when it begins alike and has the same tools. -/
theorem prefixHash_eq_iff {count : Nat} {tools : List Message} {args : AnalyzeArguments} {offered : Text}
    (hinj : Function.Injective env.sha256) (hm : ∀ m ∈ messages, WellFormed (.obj m)) (ht : ∀ t ∈ tools, WellFormed (.obj t))
    (hargs : args.Written) (h : prefixHash env messages count tools = some offered) :
    prefixHash env args.messages count args.tools = some offered ↔
      CanonicallyEqual (args.messages.take count) (messages.take count) ∧ CanonicallyEqual args.tools tools := by
  unfold prefixHash at h ⊢
  split at h
  · cases h
  rename_i hoffered
  have hdigest : env.sha256 (offeredText (messages.take count) tools) = offered := Option.some.inj h
  constructor
  · intro hhash
    split at hhash
    · cases hhash
    have hdigest' : env.sha256 (offeredText (args.messages.take count) args.tools) = offered := Option.some.inj hhash
    exact offeredText_inj (fun m hm' => hargs.messages m (List.mem_of_mem_take hm')) (fun m hm' => hm m (List.mem_of_mem_take hm'))
      hargs.tools ht (hinj (hdigest'.trans hdigest.symm))
  · rintro ⟨hmessages, htools⟩
    have hlength : args.tools.length = tools.length := by simpa using congrArg List.length htools
    have hempty : args.tools.isEmpty = tools.isEmpty := by
      cases htools' : args.tools <;> cases htools'' : tools <;> simp_all
    rw [if_neg (by rwa [hempty])]
    exact congrArg some ((congrArg env.sha256 (offeredText_congr hmessages htools)).trans hdigest)

/-! ## The record of a session -/

/-- The record a session holds. -/
def recordOf (c : PromptCacheCoordinator) (sessionId : Text) : Option CacheRecord :=
  (c.sessions.lookup sessionId).bind (·.record)

variable {c : PromptCacheCoordinator} {sessionId : Text} {record : CacheRecord}

theorem sessionAt_record {now : Int} (h : recordOf c sessionId = some record) (hnow : now < record.expiresAt) :
    (c.sessionAt sessionId now).record = some record := by
  obtain ⟨state, hstate, hrecord⟩ := Option.bind_eq_some_iff.1 h
  have hlive : ¬(state.record.any fun r => decide (r.expiresAt ≤ now)) = true := by simp [hrecord, hnow]
  unfold PromptCacheCoordinator.sessionAt
  rw [hstate]
  simp only [Option.getD_some]
  rw [if_neg hlive]
  exact hrecord

/-- An analysis changes no session but its own, and of that it drops a record that expired. -/
theorem sessions_of_analyze (env : Env) (c : PromptCacheCoordinator) (now : Int) (args : AnalyzeArguments) :
    (c.analyze env now args).2.sessions = c.sessions ∨
      (c.analyze env now args).2.sessions = c.sessions.insert args.sessionId (c.sessionAt args.sessionId now) := by
  unfold PromptCacheCoordinator.analyze
  by_cases hempty : args.messages.isEmpty
  · rw [if_pos hempty]
    exact Or.inl rfl
  rw [if_neg hempty]
  by_cases hstored : args.sessionId ∈ c.sessions
  · right
    simp only [if_pos hstored]
    split <;> rfl
  · left
    simp only [if_neg hstored]
    split <;> rfl

/-- An operation that keeps the record of a session leaves it. -/
theorem recordOf_step {op : CacheOp} (h : recordOf c sessionId = some record) (hop : op.Keeps sessionId record.expiresAt) :
    recordOf (c.step env op) sessionId = some record := by
  cases op with
  | analyze now args =>
    show ((c.analyze env now args).2.sessions.lookup sessionId).bind (·.record) = some record
    rcases sessions_of_analyze env c now args with hsame | hsame
    · rw [hsame]
      exact h
    · rw [hsame, Table.lookup_insert_eq]
      split
      · rename_i hown
        subst hown
        exact sessionAt_record h (hop rfl)
      · exact h
  | observe now sessionId' analysis route usage =>
    unfold recordOf PromptCacheCoordinator.step PromptCacheCoordinator.observe
    simp only [Table.lookup_insert_eq]
    split
    · rename_i hsame
      subst hsame
      obtain ⟨state, hstate, hrecord⟩ := Option.bind_eq_some_iff.1 h
      simp [hop rfl, hstate, hrecord]
    · exact h

theorem recordOf_run (env : Env) {ops : List CacheOp} (h : recordOf c sessionId = some record)
    (hops : ∀ op ∈ ops, op.Keeps sessionId record.expiresAt) :
    recordOf (ops.foldl (PromptCacheCoordinator.step env) c) sessionId = some record := by
  induction ops generalizing c with
  | nil => exact h
  | cons op ops ih =>
    exact ih (recordOf_step h (hops op List.mem_cons_self)) fun op' hop' => hops op' (List.mem_cons_of_mem _ hop')

/-- The record that an observation of the offered prefix stores. -/
theorem promoted_eq (observed : Int) {route : ProviderRoute} {usage : ModelUsage} {offered : Text}
    (hoffered : analysis.prefixHash = some offered) (hne : offered ≠ []) (hroute : route.cacheSupported = true)
    (husage : 0 < usage.cacheReadTokens ∨ 0 < usage.cacheWriteTokens) :
    ∃ record, promoted observed analysis route usage = some record ∧ record.prefixHash = offered ∧
      record.messageCount = candidatePrefixCount analysis ∧ record.expiresAt = observed + route.cacheTtlSeconds * 1000 := by
  have hempty : offered.isEmpty = false := by simpa using hne
  have hstores : (!offered.isEmpty && route.cacheSupported && (0 < usage.cacheReadTokens || 0 < usage.cacheWriteTokens)) = true := by
    simp [hempty, hroute, husage]
  unfold promoted
  rw [hoffered]
  simp only [if_pos hstores]
  exact ⟨_, rfl, rfl, rfl, rfl⟩

end PrefixAux

open PrefixAux

/-- The boundary that an observation recovers is the one that was hashed. After it, and after any operations that keep its record, a
later conversation of the session is an exact match when it begins with the messages of the record and has its tools, and only then. -/
theorem cache_prefix_round_trip (env : Env) (c : PromptCacheCoordinator) (now : Int) (args : AnalyzeArguments)
    (analysis : CacheAnalysis) (h : (c.analyze env now args).1 = .ok analysis) (hblocks : args.OwnBlocks env) :
    candidatePrefixCount analysis = proposedPrefixCount env args.messages ∧
    ∀ (c' : PromptCacheCoordinator) (observed : Int) (route : ProviderRoute) (usage : ModelUsage) (ops : List CacheOp)
      (later : AnalyzeArguments) (now' : Int),
      env.Digests → args.Written → later.Written →
      analysis.prefixHash ≠ none → route.cacheSupported = true → 0 < usage.cacheReadTokens ∨ 0 < usage.cacheWriteTokens →
      (∀ op ∈ ops, op.Keeps args.sessionId (observed + route.cacheTtlSeconds * 1000)) →
      later.sessionId = args.sessionId → now' < observed + route.cacheTtlSeconds * 1000 →
      let session := (ops.foldl (PromptCacheCoordinator.step env)
        (c'.observe observed args.sessionId analysis route usage)).sessionAt later.sessionId now'
      let boundary := proposedPrefixCount env args.messages
      ((∃ record, activeRecord env session later = some record) ↔
        boundary ≤ later.messages.length ∧ CanonicallyEqual (later.messages.take boundary) (args.messages.take boundary) ∧
          CanonicallyEqual later.tools args.tools) := by
  have hboundary : candidatePrefixCount analysis = proposedPrefixCount env args.messages :=
    candidatePrefixCount_eq (shape_of_analyze h hblocks)
  refine ⟨hboundary, ?_⟩
  intro c' observed route usage ops later now' hdigests hargs hlater hoffered hroute husage hops hsession hnow
  obtain ⟨offered, hoffered⟩ := Option.ne_none_iff_exists'.1 hoffered
  have hhash : prefixHash env args.messages (proposedPrefixCount env args.messages) args.tools = some offered := by
    obtain ⟨protected_, -, rfl⟩ := PromptCacheCoordinator.analyze_ok h
    exact hoffered
  have hne : offered ≠ [] := by
    unfold prefixHash at hhash
    split at hhash
    · cases hhash
    · exact Option.some.inj hhash ▸ hdigests.ne_nil _
  obtain ⟨record, hpromoted, hrecordHash, hrecordCount, hexpires⟩ := promoted_eq observed hoffered hne hroute husage
  have hstored : recordOf (c'.observe observed args.sessionId analysis route usage) args.sessionId = some record := by
    simp [recordOf, PromptCacheCoordinator.observe, hpromoted]
  rw [← hexpires] at hops hnow
  have hkept := sessionAt_record (recordOf_run env hstored hops) hnow
  have hmatch := prefixHash_eq_iff hdigests.injective hargs.messages hargs.tools hlater hhash
  intro session boundary
  have hactive : activeRecord env session later = (some record).filter fun r =>
      r.messageCount ≤ later.messages.length && prefixHash env later.messages r.messageCount later.tools == some r.prefixHash := by
    rw [← hkept, ← hsession, activeRecord]
    simp only [session, hsession]
  rw [hactive, ← hmatch]
  simp only [Option.filter_eq_some_iff, Option.some.injEq, Bool.and_eq_true, decide_eq_true_eq, beq_iff_eq]
  constructor
  · rintro ⟨r, rfl, hcount, hequal⟩
    rw [hrecordCount, hboundary] at hcount hequal
    exact ⟨hcount, hrecordHash ▸ hequal⟩
  · rintro ⟨hcount, hequal⟩
    rw [← hrecordHash] at hequal
    exact ⟨record, rfl, by rwa [hrecordCount, hboundary], by rwa [hrecordCount, hboundary]⟩

namespace PrefixAux

/-- An environment of a table of texts and their digests; it has a text of its own for every other. -/
def tabled (table : List (Text × Text)) : Env where
  sha256 t := (table.lookup t).getD ('x' :: t)
  alnum _ := false
  repr _ := []

theorem digests_tabled {table : List (Text × Text)} (hdistinct : (table.map (·.2)).Nodup)
    (hhead : ∀ p ∈ table, p.2 ≠ [] ∧ p.2.head? ≠ some 'x') : (tabled table).Digests := by
  have hfound : ∀ {t d : Text}, table.lookup t = some d → (t, d) ∈ table := by
    intro t d hlookup
    obtain ⟨before, after, rfl, -⟩ := List.lookup_eq_some_iff.1 hlookup
    simp
  refine ⟨fun t u hequal => ?_, fun t => ?_⟩
  · simp only [tabled] at hequal
    cases ht : table.lookup t with
    | some d =>
      cases hu : table.lookup u with
      | some e =>
        rw [ht, hu] at hequal
        exact congrArg Prod.fst (List.inj_on_of_nodup_map hdistinct (hfound ht) (hfound hu) hequal)
      | none =>
        rw [ht, hu] at hequal
        exact absurd (congrArg List.head? hequal) (hhead _ (hfound ht)).2
    | none =>
      cases hu : table.lookup u with
      | some e =>
        rw [ht, hu] at hequal
        exact absurd (congrArg List.head? hequal.symm) (hhead _ (hfound hu)).2
      | none =>
        rw [ht, hu] at hequal
        exact List.tail_eq_of_cons_eq hequal
  · simp only [tabled]
    cases ht : table.lookup t with
    | some d => exact (hhead _ (hfound ht)).1
    | none => exact List.cons_ne_nil _ _

/-- A short conversation with a system message, which is the prefix it offers. -/
def briefing : List Message :=
  [[("role", .str "system".toList), ("content", .str "be brief".toList)],
    [("role", .str "user".toList), ("content", .str "hi".toList)]]

/-- The digests of its messages, and of its prefix. -/
def briefingEnv : Env :=
  tabled
    [("\x7b\"content\":\"be brief\",\"role\":\"system\"\x7d".toList,
        "afa927ed3c20c6f55e071db51d647475abfc13b67b5caef53fdaac459d90d16e".toList),
      ("\x7b\"content\":\"hi\",\"role\":\"user\"\x7d".toList,
        "9017285104d1b249960a30732b8e92f6e2fb3acf8d8e4b2a16c116ad0c1ed211".toList),
      ("\x7b\"messages\":[\x7b\"content\":\"be brief\",\"role\":\"system\"\x7d],\"tools\":[]\x7d".toList,
        "5649edd305448551c34abe6eb0f97847b0008e5f77865168676dbc31e9000f48".toList)]

def briefingArguments : AnalyzeArguments where
  sessionId := "session".toList
  messages := briefing
  tools := []
  candidates := []
  predictedOutputTokens := 10

/-- The conversation goes on. -/
def laterArguments : AnalyzeArguments :=
  { briefingArguments with
    messages := briefing ++ [[("role", .str "assistant".toList), ("content", .str "hello".toList)],
      [("role", .str "user".toList), ("content", .str "go".toList)]] }

def cachingRoute : ProviderRoute where
  routeId := "small-1"
  provider := "first"
  inputPricePerMillion := 1
  outputPricePerMillion := 2
  p95TtftMs := 10
  p95TotalLatencyMs := 20
  cacheSupported := true
  validate_price := ProviderRoute.readWritePrice_valid
  validate_route_duration := ProviderRoute.quickDuration_valid
  validate_latency_order := ProviderRoute.quickLatency_valid

def writtenUsage : ModelUsage where
  inputTokens := 20
  outputTokens := 5
  latencyMs := 15
  provider := "first"
  modelId := "small"
  cacheWriteTokens := 10

end PrefixAux

/-- The conversation that goes on after a briefing finds it in the cache, also after a call that reported no cached tokens. -/
theorem cache_prefix_round_trip_briefing : ∃ analysis record,
    (PromptCacheCoordinator.analyze briefingEnv {} 0 briefingArguments).1 = .ok analysis ∧
    candidatePrefixCount analysis = 1 ∧
    activeRecord briefingEnv ((PromptCacheCoordinator.step briefingEnv
      (PromptCacheCoordinator.observe {} 40 briefingArguments.sessionId analysis cachingRoute writtenUsage)
      (.observe 1000 briefingArguments.sessionId analysis cachingRoute { writtenUsage with cacheWriteTokens := 0 })).sessionAt
        laterArguments.sessionId 2000) laterArguments = some record := by
  have hrun : ((PromptCacheCoordinator.analyze briefingEnv {} 0 briefingArguments).1.toOption.any fun analysis =>
      analysis.prefixHash.isSome) = true := by decide +kernel
  obtain ⟨analysis, hanalysis, hrun⟩ := Outcome.ok_of_any hrun
  obtain ⟨hboundary, hround⟩ := cache_prefix_round_trip briefingEnv {} 0 briefingArguments analysis hanalysis (Or.inl rfl)
  have hcount : proposedPrefixCount briefingEnv briefing = 1 := by decide +kernel
  have hplain : ∀ r t : Text, WellFormed (.obj [("role", .str r), ("content", .str t)]) := by
    intro r t
    refine .obj (show ["role", "content"].Nodup by decide) ?_
    simp only [List.forall_mem_cons, List.not_mem_nil, false_imp_iff, implies_true, and_true]
    exact ⟨.str _, .str _⟩
  have hwritten : ∀ m ∈ laterArguments.messages, WellFormed (.obj m) := by
    intro m hm
    simp only [laterArguments, briefing, List.cons_append, List.nil_append, List.mem_cons, List.not_mem_nil, or_false] at hm
    rcases hm with rfl | rfl | rfl | rfl <;> exact hplain _ _
  have hdigests : briefingEnv.Digests := digests_tabled (by decide +kernel) (by decide +kernel)
  have hkeeps : ∀ op ∈ [CacheOp.observe 1000 briefingArguments.sessionId analysis cachingRoute
      { writtenUsage with cacheWriteTokens := 0 }],
      op.Keeps briefingArguments.sessionId (40 + cachingRoute.cacheTtlSeconds * 1000) := by
    intro op hop
    obtain rfl := List.mem_singleton.1 hop
    intro _
    unfold promoted
    split
    · rfl
    · simp [writtenUsage]
  have hbegins : 1 ≤ laterArguments.messages.length ∧
      CanonicallyEqual (laterArguments.messages.take 1) (briefingArguments.messages.take 1) ∧
      CanonicallyEqual laterArguments.tools briefingArguments.tools := ⟨by decide, rfl, rfl⟩
  have hexact := hround {} 40 cachingRoute writtenUsage _ laterArguments 2000 hdigests
    ⟨fun m hm => hwritten m (List.mem_append_left _ hm), fun t ht => (List.not_mem_nil ht).elim⟩
    ⟨hwritten, fun t ht => (List.not_mem_nil ht).elim⟩ (Option.ne_none_iff_isSome.2 hrun) rfl (Or.inr (by decide)) hkeeps rfl
    (by decide)
  have hcount' : proposedPrefixCount briefingEnv briefingArguments.messages = 1 := hcount
  simp only [hcount'] at hexact
  obtain ⟨record, hrecord⟩ := hexact.2 hbegins
  exact ⟨analysis, record, hanalysis, hboundary.trans hcount, hrecord⟩

end PromptRail
