import PromptRail.Completions

/-!
# A streamed completion is the one in one piece

Every chunk is JSON without a line break, so that the events of a stream are its chunks and `[DONE]`. The chunks of the heartbeats add
nothing, and those of the result add up to the completion of the answer in one piece.
-/

namespace PromptRail

namespace Completions

open PyText (Text)
open Json (Value Fields WellFormed get? truthy)
open Provider (field orElse asDict isPresent)

namespace Streamed

variable {env : Provider.Env}

/-! ## JSON -/

theorem wellFormed_get? {fields : Fields} (h : WellFormed (.obj fields)) {name : String} {value : Value} (hget : get? fields name = some value) :
    WellFormed value := by
  cases h with
  | obj _ hvalues =>
    obtain ⟨p, hp, rfl⟩ := Option.map_eq_some_iff.1 hget
    exact hvalues p (List.mem_of_find?_eq_some hp)

/-- A field that may be absent, with a default. -/
theorem wellFormed_getD {fields : Fields} (h : WellFormed (.obj fields)) (name : String) {default : Value} (hdefault : WellFormed default) :
    WellFormed ((get? fields name).getD default) := by
  cases hget : get? fields name with
  | none => exact hdefault
  | some value => exact wellFormed_get? h hget

theorem wellFormed_field {fields : Fields} (h : WellFormed (.obj fields)) (name : String) : WellFormed (field fields name) :=
  wellFormed_getD h name .null

theorem wellFormed_nil : WellFormed (.obj []) := .obj List.nodup_nil fun _ hp => absurd hp List.not_mem_nil

theorem wellFormed_orElse {a b : Value} (ha : WellFormed a) (hb : WellFormed b) : WellFormed (orElse a b) := by
  unfold orElse
  split
  · exact ha
  · exact hb

theorem wellFormed_response (result : RouteResult) : WellFormed (.obj result.response) := by
  rw [← result.answered]
  exact wellFormed_orElse (wellFormed_field result.wellFormed "response") wellFormed_nil

/-- The fields of a latency, of which there is at most one. -/
theorem latencyField_cases (result : RouteResult) :
    latencyField result = [] ∨ latencyField result = [("latency_ms", field result.fields "latency_ms")] := by
  unfold latencyField
  split
  · exact Or.inr rfl
  · exact Or.inl rfl

theorem wellFormed_completedFields (call : Call) (result : RouteResult) :
    WellFormed (.obj ([("status", .str "completed".toList), ("route_id", field result.fields "route_id"),
      ("route_name", field result.fields "route_name")] ++ routeFields result ++ [("elapsed_ms", call.settled.elapsedMs)] ++
      latencyField result)) := by
  have hfield := wellFormed_field result.wellFormed
  have hresponse := wellFormed_field (wellFormed_response result)
  have hattempts := wellFormed_getD result.wellFormed "provider_attempts" (.arr fun _ hx => absurd hx List.not_mem_nil)
  have hvalues : ∀ p ∈ [("status", .str "completed".toList), ("route_id", field result.fields "route_id"),
      ("route_name", field result.fields "route_name")] ++ routeFields result ++ [("elapsed_ms", call.settled.elapsedMs)],
      WellFormed p.2 := by
    simp only [routeFields, List.cons_append, List.nil_append, List.forall_mem_cons, List.not_mem_nil, false_imp_iff, implies_true,
      and_true]
    exact ⟨.str _, hfield _, hfield _, hresponse _, hresponse _, hfield _, hattempts, call.settled.wellFormed⟩
  rcases latencyField_cases result with hlatency | hlatency <;> rw [hlatency]
  · rw [List.append_nil]
    exact .obj (by simp [routeFields]) hvalues
  · exact .obj (by simp [routeFields]) (List.forall_mem_append.2 ⟨hvalues, List.forall_mem_singleton.2 (hfield _)⟩)

theorem wellFormed_failureFields {elapsedMs : Value} (helapsed : WellFormed elapsedMs) (failure : Failure) :
    WellFormed (.obj (failureFields elapsedMs failure)) := by
  cases failure with
  | http statusCode detail hdetail =>
    refine .obj (by simp [failureFields]) ?_
    simp only [failureFields, List.forall_mem_cons, List.not_mem_nil, false_imp_iff, implies_true, and_true]
    exact ⟨.str _, .int _, hdetail, helapsed⟩
  | other className =>
    refine .obj (by simp [failureFields]) ?_
    simp only [failureFields, List.forall_mem_cons, List.not_mem_nil, false_imp_iff, implies_true, and_true]
    exact ⟨.str _, .str _, helapsed⟩

theorem wellFormed_finalDelta (result : RouteResult) : WellFormed (.obj (finalDelta result.response)) := by
  have hcontent : WellFormed (contentOf result.response) := wellFormed_getD (wellFormed_response result) "content" (.str _)
  have hcalls : WellFormed (toolCallsOf result.response) :=
    wellFormed_orElse (wellFormed_field (wellFormed_response result) "tool_calls") (.arr fun _ hx => absurd hx List.not_mem_nil)
  unfold finalDelta
  split <;> split
  · exact .obj (by simp) (List.forall_mem_cons.2 ⟨hcontent, List.forall_mem_singleton.2 hcalls⟩)
  · exact .obj (by simp) (List.forall_mem_singleton.2 hcontent)
  · exact .obj (by simp) (List.forall_mem_singleton.2 hcalls)
  · exact wellFormed_nil

theorem wellFormed_chunk (call : Call) (created : Int) {delta lerouter : Fields} {finish : Value} (hdelta : WellFormed (.obj delta))
    (hfinish : WellFormed finish) (hlerouter : WellFormed (.obj lerouter)) :
    WellFormed (.obj (openaiStreamChunk call created delta finish lerouter)) := by
  have hchoice : WellFormed (.obj [("index", .int 0), ("delta", .obj delta), ("finish_reason", finish)]) := by
    refine .obj (by simp) ?_
    simp only [List.forall_mem_cons, List.not_mem_nil, false_imp_iff, implies_true, and_true]
    exact ⟨.int 0, hdelta, hfinish⟩
  refine .obj (by simp [openaiStreamChunk]) ?_
  simp only [openaiStreamChunk, List.forall_mem_cons, List.not_mem_nil, false_imp_iff, implies_true, and_true]
  exact ⟨.str _, .str _, .int _, .str _, .arr (List.forall_mem_singleton.2 hchoice), hlerouter⟩

theorem wellFormed_status (status : Text) {elapsedMs : Value} (helapsed : WellFormed elapsedMs) :
    WellFormed (.obj [("status", .str status), ("elapsed_ms", elapsedMs)]) :=
  .obj (by simp) (List.forall_mem_cons.2 ⟨.str status, List.forall_mem_singleton.2 helapsed⟩)

theorem wellFormed_openingChunks (call : Call) : ∀ chunk ∈ openingChunks call, WellFormed (.obj chunk) := by
  refine List.forall_mem_cons.2 ⟨?_, List.forall_mem_map.2 fun beat _ => ?_⟩
  · exact wellFormed_chunk call _ (.obj (by simp) (List.forall_mem_singleton.2 (.str _))) .null (wellFormed_status _ (.int 0))
  · exact wellFormed_chunk call _ wellFormed_nil .null (wellFormed_status _ beat.1.wellFormed)

theorem wellFormed_doneChunk (call : Call) (reason : Text) : WellFormed (.obj (doneChunk call reason)) :=
  wellFormed_chunk call _ wellFormed_nil (.str reason) (.obj (by simp) (List.forall_mem_singleton.2 (.str _)))

theorem wellFormed_closingChunks (call : Call) (outcome : Except Failure RouteResult) :
    ∀ chunk ∈ closingChunks env call outcome, WellFormed (.obj chunk) := by
  cases outcome with
  | error failure =>
    refine List.forall_mem_cons.2 ⟨?_, List.forall_mem_singleton.2 (wellFormed_doneChunk call _)⟩
    exact wellFormed_chunk call _ (.obj (by simp) (List.forall_mem_singleton.2 (.str _))) .null
      (wellFormed_failureFields call.settled.wellFormed failure)
  | ok result =>
    refine List.forall_mem_append.2 ⟨?_, List.forall_mem_singleton.2 (wellFormed_doneChunk call _)⟩
    split
    · exact fun _ hchunk => absurd hchunk List.not_mem_nil
    · exact List.forall_mem_singleton.2
        (wellFormed_chunk call _ (wellFormed_finalDelta result) .null (wellFormed_completedFields call result))

/-! ## Events -/

/-- The text of a chunk is one line. -/
theorem not_mem_compact {payload : Fields} (h : WellFormed (.obj payload)) : '\n' ∉ Json.Style.ascii.compact (.obj payload) :=
  fun hmem => absurd (Json.plain_compact h '\n' hmem).1 (by decide)

theorem compact_ne_done (payload : Fields) : Json.Style.ascii.compact (.obj payload) ≠ "[DONE]".toList := by
  rw [Json.Style.compact, Json.spaced_obj]
  intro h
  exact absurd (List.cons.inj h).1 (by decide)

/-- The chunks of a stream are read from its events. -/
theorem readCompletion_chunks {chunks : List Fields} (h : ∀ chunk ∈ chunks, WellFormed (.obj chunk)) :
    readCompletion (chunks.flatMap sseData ++ EventStream.writeEvent "[DONE]".toList) = some (chunks.foldl Completion.add {}) := by
  have htext : chunks.flatMap sseData ++ EventStream.writeEvent "[DONE]".toList =
      EventStream.write (chunks.map (fun chunk => Json.Style.ascii.compact (.obj chunk)) ++ ["[DONE]".toList]) := by
    simp only [EventStream.write, List.flatMap_append, List.flatMap_map, List.flatMap_singleton]
    rfl
  have hread : EventStream.read (chunks.flatMap sseData ++ EventStream.writeEvent "[DONE]".toList) =
      chunks.map (fun chunk => Json.Style.ascii.compact (.obj chunk)) ++ ["[DONE]".toList] := by
    rw [htext]
    refine EventStream.read_write (List.forall_mem_append.2 ⟨List.forall_mem_map.2 ?_, List.forall_mem_singleton.2 (by decide)⟩)
    exact fun chunk hchunk => not_mem_compact (h chunk hchunk)
  have hdatas : (chunks.map (fun chunk => Json.Style.ascii.compact (.obj chunk)) ++ ["[DONE]".toList]).takeWhile
      (· != "[DONE]".toList) = chunks.map fun chunk => Json.Style.ascii.compact (.obj chunk) := by
    rw [List.takeWhile_append_of_pos]
    · simp
    · exact List.forall_mem_map.2 fun chunk _ => bne_iff_ne.2 (compact_ne_done chunk)
  have hloads : (chunks.map fun chunk => Json.Style.ascii.compact (.obj chunk)).mapM
      (fun event => (Json.loads event).bind asDict) = some chunks := by
    clear htext hread hdatas
    induction chunks with
    | nil => rfl
    | cons chunk chunks ih =>
      have hhead := Json.loads_compact .ascii (h chunk List.mem_cons_self)
      have hrest := ih fun c hc => h c (List.mem_cons_of_mem _ hc)
      simp [List.map_cons, List.mapM_cons, hhead, asDict, hrest]
  unfold readCompletion
  rw [hread, if_pos (List.mem_append_right _ (List.mem_singleton_self _)), hdatas, hloads]
  rfl

/-! ## Deltas -/

/-- What a chunk of a stream adds. -/
theorem add_chunk (completion : Completion) (call : Call) (created : Int) (delta : Fields) (finish : Value) (lerouter : Fields) :
    completion.add (openaiStreamChunk call created delta finish lerouter) =
      { contents := completion.contents ++ (get? delta "content").toList
        toolCalls := completion.toolCalls ++ listed (field delta "tool_calls")
        finishReason := if isPresent finish then finish else completion.finishReason } := rfl

/-- A heartbeat adds nothing. -/
theorem add_beat (completion : Completion) (call : Call) (created : Int) (lerouter : Fields) :
    completion.add (openaiStreamChunk call created [] .null lerouter) = completion := by
  rw [add_chunk]
  simp [listed, isPresent, Json.get?_nil]

theorem foldl_beats (completion : Completion) (call : Call) (beats : List (Moment × Nat)) :
    (beats.map fun beat => openaiStreamChunk call beat.1.created [] .null
      [("status", .str (statusStep beat.2)), ("elapsed_ms", beat.1.elapsedMs)]).foldl Completion.add completion = completion := by
  induction beats generalizing completion with
  | nil => rfl
  | cons beat beats ih => rw [List.map_cons, List.foldl_cons, add_beat, ih]

theorem foldl_openingChunks (call : Call) : (openingChunks call).foldl Completion.add {} = {} := by
  rw [openingChunks, List.foldl_cons, foldl_beats]
  rfl

/-- The content that the delta of a result has. -/
theorem get?_finalDelta_content (response : Fields) :
    (get? (finalDelta response) "content").toList = if truthy (contentOf response) then [contentOf response] else [] := by
  unfold finalDelta
  split <;> split <;> rfl

/-- The calls of tools that it has. -/
theorem listed_finalDelta (response : Fields) :
    listed (field (finalDelta response) "tool_calls") = listed (if truthy (toolCallsOf response) then toolCallsOf response else .null) := by
  unfold finalDelta
  split <;> split <;> rfl

/-- A delta without fields says that there is nothing to say. -/
theorem eq_nil_of_finalDelta {response : Fields} (h : finalDelta response = []) :
    truthy (contentOf response) = false ∧ truthy (toolCallsOf response) = false := by
  unfold finalDelta at h
  rw [List.append_eq_nil_iff] at h
  refine ⟨Bool.eq_false_iff.2 fun hcontent => ?_, Bool.eq_false_iff.2 fun hcalls => ?_⟩
  · rw [if_pos hcontent] at h
    cases h.1
  · rw [if_pos hcalls] at h
    cases h.2

/-- The completion of the answer in one piece. -/
theorem ofResponse_eq (call : Call) (result : RouteResult) :
    Completion.ofResponse (openaiCompatibleResponse env call result) =
      { contents := if truthy (contentOf result.response) then [contentOf result.response] else []
        toolCalls := listed (if truthy (toolCallsOf result.response) then toolCallsOf result.response else .null)
        finishReason := .str (finishReason env result.response) } := by
  unfold openaiCompatibleResponse
  split <;> rfl

theorem foldl_closingChunks (call : Call) (outcome : Except Failure RouteResult) :
    (closingChunks env call outcome).foldl Completion.add {} = Completion.ofOutcome env call outcome := by
  cases outcome with
  | error failure => rfl
  | ok result =>
    rw [Completion.ofOutcome, ofResponse_eq, closingChunks, List.foldl_append]
    split
    · rename_i hnone
      obtain ⟨hcontent, hcalls⟩ := eq_nil_of_finalDelta hnone
      rw [if_neg (Bool.eq_false_iff.1 hcontent), if_neg (Bool.eq_false_iff.1 hcalls)]
      rfl
    · simp only [List.foldl_cons, List.foldl_nil]
      rw [add_chunk, get?_finalDelta_content, listed_finalDelta]
      simp only [List.nil_append]
      rw [doneChunk, add_chunk]
      simp [listed, isPresent, Json.get?_nil]

end Streamed

/-- Whatever comes of the route and however many heartbeats pass until then, the stream is a whole one, and a client that adds up its chunks
has the completion of the answer in one piece, or the text of the failure. -/
theorem readCompletion_stream (env : Provider.Env) (call : Call) (outcome : Except Failure RouteResult) :
    readCompletion (streamOpenaiCompatibleResponse env call outcome) = some (Completion.ofOutcome env call outcome) := by
  have hwell : ∀ chunk ∈ openingChunks call ++ closingChunks env call outcome, WellFormed (.obj chunk) :=
    List.forall_mem_append.2 ⟨Streamed.wellFormed_openingChunks call, Streamed.wellFormed_closingChunks call outcome⟩
  rw [streamOpenaiCompatibleResponse, Streamed.readCompletion_chunks hwell, List.foldl_append, Streamed.foldl_openingChunks,
    Streamed.foldl_closingChunks]

end Completions

end PromptRail
