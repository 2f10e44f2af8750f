import PromptRail.Provider

/-!
# The tool calls of Anthropic, there and back (`lerouter_modal_api.py`)

The blocks of an answer become a message with a text and tool calls, whose inputs are written as JSON. Sent back, the message becomes one
turn with the same text and the same uses of tools, unless it says nothing: a message without text and without tool calls is left out of
the conversation.
-/

namespace PromptRail

open PyText (Text)
open Json (Value Fields get? truthy loads WellFormed)

namespace Provider

/-! ## Content -/

/-- The id, the name and the input of a block that uses a tool. -/
def toolUseOf : Value → Option (Value × Value × Value)
  | .obj block => if isText "tool_use" (field block "type") then some (field block "id", field block "name", field block "input") else none
  | _ => none

/-- The uses of tools in a content. -/
def toolUses : Value → List (Value × Value × Value)
  | .arr blocks => blocks.filterMap toolUseOf
  | _ => []

/-- The text of a content. -/
def contentText (env : Env) : Value → Text
  | .arr blocks => blocks.flatMap (blockText env)
  | _ => []

/-- The id that a block has the result for. -/
def toolResultIdOf : Value → Option Value
  | .obj block => if isText "tool_result" (field block "type") then some (field block "tool_use_id") else none
  | _ => none

/-- The ids that a content has the results for. -/
def toolResultIds : Value → List Value
  | .arr blocks => blocks.filterMap toolResultIdOf
  | _ => []

/-- A block of text, or one that uses a tool. -/
inductive IsBlock : Value → Prop where
  | text {block : Fields} {text : Text} : field block "type" = .str "text".toList → field block "text" = .str text →
      IsBlock (.obj block)
  | toolUse {block input : Fields} {id name : Text} : field block "type" = .str "tool_use".toList → field block "id" = .str id →
      field block "name" = .str name → field block "input" = .obj input → id ≠ [] → name ≠ [] → WellFormed (.obj input) →
      IsBlock (.obj block)

/-- The content of an answer of Anthropic. -/
structure IsContent (blocks : List Value) : Prop where
  distinct : ((toolUses (.arr blocks)).map (·.1)).Nodup
  blocks : ∀ block ∈ blocks, IsBlock block

/-- A content with a text or with the use of a tool. -/
def SaysSomething (env : Env) (content : Value) : Prop := contentText env content ≠ [] ∨ toolUses content ≠ []

/-- The message of an answer. -/
def assistantMessage (response : NormalizedResponse) : Fields :=
  [("role", .str "assistant".toList), ("content", response.content), ("tool_calls", response.toolCalls)]

/-- The answer of a tool to a call. -/
structure IsToolAnswer (id : Text) (message : Fields) : Prop where
  role : field message "role" = .str "tool".toList
  answers : field message "tool_call_id" = .str id

/-- A turn of the assistant that says what a content says. -/
structure RepeatsContent (env : Env) (content : Value) (turn : Fields) : Prop where
  role : field turn "role" = .str "assistant".toList
  toolUses : toolUses (field turn "content") = Provider.toolUses content
  text : contentText env (field turn "content") = contentText env content

/-- A turn with the result for one id. -/
structure IsToolResult (id : Text) (turn : Fields) : Prop where
  role : field turn "role" = .str "user".toList
  toolUseId : toolResultIds (field turn "content") = [.str id]

/-- A response with a content becomes a message that, sent back behind other messages and followed by answers of tools, is one turn with
the same content, and the results for the ids that are answered. -/
def RoundTrips (env : Env) (model rawResponse : Fields) (content : Value) : Prop :=
  ∃ response, normalizeProviderResponse env "anthropic".toList model rawResponse = some response ∧
    ∀ (payload : Fields) (before : List Value) (system : Option Text) (front : List Fields) (ids : List Text) (answers : List Fields),
      anthropicMessagesFromOpenai env (keptMessages env [("messages", .arr before)]) = some (system, front) →
      List.Forall₂ IsToolAnswer ids answers →
      field payload "messages" = .arr (before ++ .obj (assistantMessage response) :: answers.map .obj) →
      ∃ turn results, anthropicMessagesFromOpenai env (normalizeMessages env payload) = some (system, front ++ turn :: results) ∧
        RepeatsContent env content turn ∧ List.Forall₂ IsToolResult ids results

namespace ToolCallsAux

variable {env : Env}

/-! ## Blocks and tool calls -/

/-- The use of a tool, with its id, its name and its input. -/
inductive IsUse : Value × Value × Value → Prop where
  | mk {id name : Text} {input : Fields} : id ≠ [] → name ≠ [] → WellFormed (.obj input) → IsUse (.str id, .str name, .obj input)

/-- The tool call of a use. -/
def callOf (use : Value × Value × Value) : Value :=
  .obj
    [("id", use.1), ("type", .str "function".toList),
      ("function", .obj [("name", use.2.1), ("arguments", .str (Json.Style.ascii.write use.2.2))])]

/-- The block of a use. -/
def blockOf (use : Value × Value × Value) : Fields :=
  [("type", .str "tool_use".toList), ("id", use.1), ("name", use.2.1), ("input", use.2.2)]

/-- The use of a block that is one, and no use of a text. -/
theorem isUse_of_block {block : Value} (h : IsBlock block) : ∀ use ∈ toolUseOf block, IsUse use := by
  cases h with
  | text htype _ =>
    rw [toolUseOf, htype]
    exact nofun
  | toolUse htype hid hname hinput hidne hnamene hwell =>
    rw [toolUseOf, htype, hid, hname, hinput]
    rintro use ⟨rfl⟩
    exact .mk hidne hnamene hwell

theorem isUse_of_mem {blocks : List Value} (h : ∀ block ∈ blocks, IsBlock block) : ∀ use ∈ toolUses (.arr blocks), IsUse use := by
  intro use huse
  obtain ⟨block, hblock, hof⟩ := List.mem_filterMap.1 huse
  exact isUse_of_block (h block hblock) use hof

/-- The tool call of a block is the one of its use, wherever the block stands. -/
theorem toolCallOf_eq {block : Value} (h : IsBlock block) (index : Nat) : toolCallOf env index block = (toolUseOf block).map callOf := by
  cases h with
  | text htype _ =>
    rw [toolCallOf, toolUseOf, htype]
    rfl
  | @toolUse _ input _ _ htype hid hname hinput hidne hnamene _ =>
    have hempty : orElse (.obj input) (.obj []) = .obj input := by
      cases input <;> rfl
    rw [toolCallOf, toolUseOf, htype, hid, hname, hinput, orElse_of_truthy (truthy_str hidne), orElse_of_truthy (truthy_str hnamene),
      hempty]
    rfl

theorem toolCalls_eq {blocks : List Value} (h : ∀ block ∈ blocks, IsBlock block) :
    anthropicToolUseToOpenaiToolCalls env (.arr blocks) = (toolUses (.arr blocks)).map callOf := by
  show (blocks.zipIdx 0).filterMap _ = (blocks.filterMap toolUseOf).map callOf
  generalize 0 = start
  induction blocks generalizing start with
  | nil => rfl
  | cons block blocks ih =>
    obtain ⟨hblock, hrest⟩ := List.forall_mem_cons.1 h
    have htail := ih hrest (start + 1)
    rw [List.zipIdx_cons, List.filterMap_cons, toolCallOf_eq hblock, List.filterMap_cons]
    cases toolUseOf block with
    | none => exact htail
    | some use => exact congrArg (callOf use :: ·) htail

/-- What was written of an input is read again. -/
theorem toolArguments_write {input : Fields} (h : WellFormed (.obj input)) :
    toolArguments (.str (Json.Style.ascii.write (.obj input))) = .obj input := by
  have hload : loads (Json.Style.ascii.write (.obj input) ++ []) = if Json.skipWhite [] = [] then some (.obj input) else none :=
    Json.loads_write h nofun
  rw [List.append_nil] at hload
  rw [toolArguments, hload]
  rfl

/-- The tool call of a use becomes its block. -/
theorem toolUse_callOf {use : Value × Value × Value} (h : IsUse use) (count : Nat) :
    toolUse env count (callOf use) = some (blockOf use) := by
  cases h with
  | @mk id name input hid hname hwell =>
    have hwritten : truthy (.str (Json.Style.ascii.write (.obj input))) = true := by
      rw [Json.write_obj]
      rfl
    have hfunction : ∀ function : Fields, function ≠ [] → orElse (.obj function) (.obj []) = .obj function := by
      intro function hne
      cases function with
      | nil => exact (hne rfl).elim
      | cons p rest => rfl
    simp only [callOf, toolUse, field_cons, if_true, String.reduceEq, if_false, hfunction _ (List.cons_ne_nil _ _), truthy_str hname,
      orElse_of_truthy (truthy_str hid), orElse_of_truthy hwritten, toolArguments_write hwell, toolInput, str_str, blockOf]

/-- The tool calls of uses become their blocks, behind the blocks that are there. -/
theorem blocks_of_calls {uses : List (Value × Value × Value)} (h : ∀ use ∈ uses, IsUse use) (start : List Fields) :
    (uses.map callOf).foldl (fun blocks toolCall => blocks ++ (toolUse env blocks.length toolCall).toList) start =
      start ++ uses.map blockOf := by
  induction uses generalizing start with
  | nil => exact (List.append_nil start).symm
  | cons use uses ih =>
    obtain ⟨huse, hrest⟩ := List.forall_mem_cons.1 h
    rw [List.map_cons, List.foldl_cons, toolUse_callOf huse, ih hrest, Option.toList_some, List.append_assoc, List.map_cons,
      List.singleton_append]

theorem toolUses_blocks {uses : List (Value × Value × Value)} (start : List Fields)
    (hstart : ∀ block ∈ start, toolUseOf (.obj block) = none) :
    toolUses (.arr ((start ++ uses.map blockOf).map .obj)) = uses := by
  have hnone : (start.map Value.obj).filterMap toolUseOf = [] := by
    rw [List.filterMap_eq_nil_iff]
    intro value hvalue
    obtain ⟨block, hblock, rfl⟩ := List.mem_map.1 hvalue
    exact hstart block hblock
  have huses : ((uses.map blockOf).map Value.obj).filterMap toolUseOf = uses := by
    rw [List.map_map, List.filterMap_map]
    exact (List.filterMap_congr fun use _ => rfl).trans List.filterMap_some
  rw [toolUses, List.map_append, List.filterMap_append, hnone, huses, List.nil_append]

theorem contentText_blocks (uses : List (Value × Value × Value)) (start : List Fields) :
    contentText env (.arr ((start ++ uses.map blockOf).map .obj)) = contentText env (.arr (start.map .obj)) := by
  have hsilent : ((uses.map blockOf).map Value.obj).flatMap (blockText env) = [] := by
    rw [List.flatMap_eq_nil_iff]
    intro value hvalue
    obtain ⟨block, hblock, rfl⟩ := List.mem_map.1 hvalue
    obtain ⟨use, -, rfl⟩ := List.mem_map.1 hblock
    rfl
  rw [contentText, contentText, List.map_append, List.flatMap_append, hsilent, List.append_nil]

/-! ## The message -/

/-- The block of a text that is not empty. -/
def textBlocks (text : Text) : List Fields := if text.isEmpty then [] else [textBlock text]

theorem textBlocks_text (text : Text) : contentText env (.arr ((textBlocks text).map .obj)) = text := by
  cases text with
  | nil => rfl
  | cons c t => exact List.append_nil _

theorem textBlocks_noUse (text : Text) : ∀ block ∈ textBlocks text, toolUseOf (.obj block) = none := by
  cases text with
  | nil => exact nofun
  | cons c t => exact List.forall_mem_singleton.2 rfl

/-- The blocks of a message with a text and with the tool calls of uses. -/
theorem blocks_message {message : Fields} {text : Text} {uses : List (Value × Value × Value)}
    (hcontent : field message "content" = .str text) (hcalls : field message "tool_calls" = .arr (uses.map callOf))
    (huses : ∀ use ∈ uses, IsUse use) (hspoken : text ≠ [] ∨ uses ≠ []) :
    anthropicContentBlocksFromOpenai env message = some (textBlocks text ++ uses.map blockOf) := by
  have hitems : itemsOf (.arr (uses.map callOf)) = some (uses.map callOf) := by
    cases uses <;> rfl
  have hne : (textBlocks text ++ uses.map blockOf).isEmpty = false := by
    cases text with
    | cons c t => rfl
    | nil =>
      cases uses with
      | nil => rcases hspoken with h | h <;> exact (h rfl).elim
      | cons use uses => rfl
  unfold anthropicContentBlocksFromOpenai
  rw [hcontent, hcalls, hitems, messageContentText]
  show some (if (List.foldl _ (textBlocks text) (uses.map callOf)).isEmpty then _ else List.foldl _ (textBlocks text) (uses.map callOf)) = _
  rw [blocks_of_calls huses (textBlocks text), hne]
  rfl

/-! ## The conversation -/

theorem eq_null_of_not_present {value : Value} (h : isPresent value = false) : value = .null := by
  cases value with
  | null => rfl
  | _ => cases h

/-- The fields that are kept where they are present read as they did. -/
theorem field_kept (message : Fields) (names : List String) (name : String) :
    field (names.filterMap fun n => if isPresent (field message n) then some (n, field message n) else none) name =
      if name ∈ names then field message name else .null := by
  induction names with
  | nil => rfl
  | cons head names ih =>
    rw [List.filterMap_cons]
    cases hpresent : isPresent (field message head) with
    | true =>
      rw [if_pos rfl]
      dsimp only
      rw [field_cons, ih]
      by_cases hname : head = name
      · subst hname
        rw [if_pos rfl, if_pos List.mem_cons_self]
      · rw [if_neg hname]
        simp only [List.mem_cons, Ne.symm hname, false_or]
    | false =>
      rw [if_neg Bool.false_ne_true]
      dsimp only
      rw [ih]
      by_cases hname : head = name
      · subst hname
        rw [if_pos List.mem_cons_self, eq_null_of_not_present hpresent, ite_self]
      · simp only [List.mem_cons, Ne.symm hname, false_or]

/-- What is kept of a message has its tool calls, and the id that it answers. -/
theorem field_normalized (message : Fields) {name : String} (h : name ∈ keptNames) :
    field (normalizedMessage env message) name = field message name := by
  have hname : name ∉ ["role", "content"] := by
    revert name
    decide
  rw [normalizedMessage, field_append hname, field_kept, if_pos h]

theorem content_normalized {message : Fields} {content : Text} (h : field message "content" = .str content) :
    field (normalizedMessage env message) "content" = .str content := by
  rw [normalizedMessage, h]
  rfl

theorem role_normalized {message : Fields} {role : Text} (h : field message "role" = .str role) (hne : role ≠ []) :
    roleOf env message = role ∧ roleOf env (normalizedMessage env message) = role := by
  have hrole : roleOf env message = role := by
    rw [roleOf, h, orElse_of_truthy (truthy_str hne), str_str]
  refine ⟨hrole, ?_⟩
  rw [roleOf, normalizedMessage, hrole]
  show env.str (orElse (.str role) _) = role
  rw [orElse_of_truthy (truthy_str hne), str_str]

/-- The turns of messages that follow, none of which is the system's. -/
theorem anthropicMessages_append {front rest turns turns' : List Fields} {system : Option Text}
    (hfront : anthropicMessagesFromOpenai env front = some (system, turns)) (hroles : ∀ message ∈ rest, isSystem env message = false)
    (hrest : rest.mapM (anthropicTurn env) = some turns') :
    anthropicMessagesFromOpenai env (front ++ rest) = some (system, turns ++ turns') := by
  obtain ⟨converted, hconverted, hsome⟩ := Option.bind_eq_some_iff.1 hfront
  obtain ⟨rfl, rfl⟩ := Prod.mk.inj (Option.some.inj hsome)
  have hsystem : rest.filter (isSystem env) = [] := List.filter_eq_nil_iff.2 fun message hmessage => by simp [hroles message hmessage]
  have hkeep : rest.filter (fun message => !isSystem env message) = rest :=
    List.filter_eq_self.2 fun message hmessage => by rw [hroles message hmessage]; rfl
  have htexts : systemTexts env (front ++ rest) = systemTexts env front := by
    rw [systemTexts, List.filter_append, hsystem, List.append_nil, ← systemTexts]
  unfold anthropicMessagesFromOpenai
  rw [List.filter_append, hkeep, List.mapM_append, hconverted, hrest, htexts]
  rfl

/-- What is read of a response of Anthropic. -/
theorem normalizeProviderResponse_anthropic (model : Fields) {rawResponse : Fields} {blocks : List Value}
    (hblocks : ∀ block ∈ blocks, IsBlock block)
    (hcontent : field rawResponse "content" = .arr blocks) (hchoices : field rawResponse "choices" = .null)
    (hprovider : field rawResponse "_lerouter_provider" = .null) :
    ∃ response, normalizeProviderResponse env "anthropic".toList model rawResponse = some response ∧
      response.content = .str (contentText env (.arr blocks)) ∧
      response.toolCalls = .arr ((toolUses (.arr blocks)).map callOf) := by
  have hanthropic : responseProvider env "anthropic".toList rawResponse = "anthropic".toList := by
    rw [responseProvider, hprovider]
    rfl
  have hchosen : choicesAnswer rawResponse = some {} := by
    rw [choicesAnswer, hchoices]
  have hanswer : afterAnthropic env "anthropic".toList rawResponse {} =
      { content := .str (contentText env (.arr blocks))
        toolCalls := .arr ((toolUses (.arr blocks)).map callOf)
        finishReason := field rawResponse "stop_reason" } := by
    show anthropicAnswer env rawResponse {} = _
    rw [anthropicAnswer, hcontent]
    dsimp only
    rw [toolCalls_eq hblocks]
    rfl
  have hgemini (answer : Answer) : afterGemini env "anthropic".toList rawResponse answer = some (answer, field rawResponse "usage") := by
    rw [afterGemini, show ("anthropic".toList == "gemini".toList) = false by decide, Bool.and_false]
    rfl
  have hresponse : normalizeProviderResponse env "anthropic".toList model rawResponse =
      some
        { content := .str (contentText env (.arr blocks))
          toolCalls := .arr ((toolUses (.arr blocks)).map callOf)
          model := field model "model_id"
          provider := "anthropic".toList
          usage := orElse (field rawResponse "usage") (.obj [])
          finishReason := openaiFinishReason env "anthropic".toList (field rawResponse "stop_reason") } := by
    unfold normalizeProviderResponse
    rw [hanthropic, hchosen]
    show (afterGemini env "anthropic".toList rawResponse (afterAnthropic env "anthropic".toList rawResponse {})).bind _ = _
    rw [hanswer, hgemini]
    rfl
  exact ⟨_, hresponse, rfl, rfl⟩

/-- The messages that are kept of a payload whose messages go on. -/
theorem keptMessages_append {payload : Fields} {before : List Value} {more : List Fields}
    (h : field payload "messages" = .arr (before ++ more.map .obj)) (hkept : ∀ message ∈ more, isKept env message = true) :
    keptMessages env payload = keptMessages env [("messages", .arr before)] ++ more.map (normalizedMessage env) := by
  have hdict : (more.map Value.obj).filterMap asDict = more := by
    rw [List.filterMap_map]
    exact (List.filterMap_congr fun message _ => rfl).trans List.filterMap_some
  have hbefore : keptMessages env [("messages", .arr before)] =
      ((before.filterMap asDict).filter (isKept env)).map (normalizedMessage env) := rfl
  rw [hbefore, keptMessages, h]
  dsimp only
  rw [List.filterMap_append, hdict, List.filter_append, List.filter_eq_self.2 hkept, List.map_append]

/-- The turn of a message of the assistant with a content. -/
theorem anthropicTurn_assistant {blocks : List Value} {message : Fields} (hblocks : ∀ block ∈ blocks, IsBlock block)
    (hspoken : SaysSomething env (.arr blocks)) (hrole : roleOf env message = "assistant".toList)
    (hcontent : field message "content" = .str (contentText env (.arr blocks)))
    (hcalls : field message "tool_calls" = .arr ((toolUses (.arr blocks)).map callOf)) :
    ∃ turn, anthropicTurn env message = some turn ∧ RepeatsContent env (.arr blocks) turn := by
  have hturn : anthropicTurn env message = some
      [("role", .str "assistant".toList),
        ("content", .arr ((textBlocks (contentText env (.arr blocks)) ++ (toolUses (.arr blocks)).map blockOf).map .obj))] := by
    rw [anthropicTurn, hrole, if_neg (by decide), blocks_message hcontent hcalls (isUse_of_mem hblocks) hspoken]
    rfl
  exact ⟨_, hturn, {
    role := rfl
    toolUses := toolUses_blocks _ (textBlocks_noUse _)
    text := (contentText_blocks _ _).trans (textBlocks_text _) }⟩

theorem roles_answers {ids : List Text} {answers : List Fields} (h : List.Forall₂ IsToolAnswer ids answers) :
    ∀ answer ∈ answers, roleOf env answer = "tool".toList ∧ roleOf env (normalizedMessage env answer) = "tool".toList := by
  induction h with
  | nil => exact nofun
  | cons hanswer _ ih => exact List.forall_mem_cons.2 ⟨role_normalized hanswer.role (List.cons_ne_nil _ _), ih⟩

/-- The turns of the answers of tools. -/
theorem anthropicTurn_answers (env : Env) {ids : List Text} {answers : List Fields} (h : List.Forall₂ IsToolAnswer ids answers) :
    ∃ results, (answers.map (normalizedMessage env)).mapM (anthropicTurn env) = some results ∧ List.Forall₂ IsToolResult ids results := by
  induction h with
  | nil => exact ⟨[], rfl, .nil⟩
  | @cons id answer _ _ hanswer _ ih =>
    obtain ⟨results, hresults, hids⟩ := ih
    have hrole : roleOf env (normalizedMessage env answer) = "tool".toList :=
      (role_normalized hanswer.role (List.cons_ne_nil _ _)).2
    have hid : env.str (orElse (.str id) (.str [])) = id := by
      cases id <;> rfl
    have hturn : ∃ content, anthropicTurn env (normalizedMessage env answer) = some (toolResultTurn id content) := by
      rw [anthropicTurn, if_pos hrole, field_normalized answer (by decide), hanswer.answers, hid]
      exact ⟨_, rfl⟩
    obtain ⟨content, hturn⟩ := hturn
    refine ⟨toolResultTurn id content :: results, ?_, .cons ⟨rfl, rfl⟩ hids⟩
    rw [List.map_cons, List.mapM_cons, hturn, hresults]
    rfl

end ToolCallsAux

open ToolCallsAux

/-- The tool calls of Anthropic come back as they were, if the answer has a text or a tool call. -/
theorem tool_calls_roundtrip (env : Env) (model : Fields) {rawResponse : Fields} {blocks : List Value} (hblocks : IsContent blocks)
    (hcontent : field rawResponse "content" = .arr blocks) (hchoices : field rawResponse "choices" = .null)
    (hprovider : field rawResponse "_lerouter_provider" = .null) (hspoken : SaysSomething env (.arr blocks)) :
    RoundTrips env model rawResponse (.arr blocks) := by
  obtain ⟨response, hresponse, htext, hcalls⟩ := 
    normalizeProviderResponse_anthropic model hblocks.blocks hcontent hchoices hprovider
  refine ⟨response, hresponse, ?_⟩
  intro payload before system front ids answers hfront hanswers hpayload
  have hassistant : roleOf env (normalizedMessage env (assistantMessage response)) = "assistant".toList :=
    (role_normalized rfl (List.cons_ne_nil _ _)).2
  have hkept : ∀ message ∈ assistantMessage response :: answers, isKept env message = true := by
    rw [List.forall_mem_cons]
    refine ⟨?_, fun answer hanswer => ?_⟩
    · have hsaid : (contentText env (.arr blocks)).isEmpty = false ∨ truthy (.arr ((toolUses (.arr blocks)).map callOf)) = true :=
        hspoken.imp (fun h => by simpa using h) fun h => by simpa [truthy] using h
      unfold isKept
      rw [field_normalized _ (by decide), assistantMessage, htext, hcalls]
      show (!(contentText env (.arr blocks)).isEmpty || truthy (.arr ((toolUses (.arr blocks)).map callOf)) || _) = true
      rcases hsaid with h | h <;> simp [h]
    · unfold isKept
      rw [(roles_answers hanswers answer hanswer).1, beq_self_eq_true, Bool.or_true]
  obtain ⟨turn, hturn, hrepeats⟩ := anthropicTurn_assistant hblocks.blocks hspoken hassistant
    (content_normalized htext) ((field_normalized _ (by decide)).trans hcalls)
  obtain ⟨results, hresults, hids⟩ := anthropicTurn_answers env hanswers
  have hmore : (normalizedMessage env (assistantMessage response) :: answers.map (normalizedMessage env)).mapM (anthropicTurn env) =
      some (turn :: results) := by
    rw [List.mapM_cons, hturn, hresults]
    rfl
  have hroles : ∀ message ∈ normalizedMessage env (assistantMessage response) :: answers.map (normalizedMessage env),
      isSystem env message = false := by
    refine List.forall_mem_cons.2 ⟨?_, fun message hmessage => ?_⟩
    · rw [isSystem, hassistant]
      decide
    · obtain ⟨answer, hanswer, rfl⟩ := List.mem_map.1 hmessage
      rw [isSystem, (roles_answers hanswers answer hanswer).2]
      decide
  have hmessages : keptMessages env payload = keptMessages env [("messages", .arr before)] ++
      (assistantMessage response :: answers).map (normalizedMessage env) := keptMessages_append hpayload hkept
  refine ⟨turn, results, ?_, hrepeats, hids⟩
  rw [normalizeMessages, hmessages, List.map_cons, if_neg (by simp)]
  exact anthropicMessages_append hfront hroles hmore

/-! ## Answers -/

namespace ToolCallsExample

def plainEnv : Env where
  repr _ := []
  lower t := t

/-- A response with a content. -/
def responseOf (blocks : List Value) : Fields := [("content", .arr blocks), ("stop_reason", .str "tool_use".toList)]

def weatherUse : Value :=
  .obj
    [("type", .str "tool_use".toList), ("id", .str "toolu_1".toList), ("name", .str "get_weather".toList),
      ("input", .obj [("city", .str "Paris".toList)])]

end ToolCallsExample

open ToolCallsExample

/-- An answer without a block is no turn of the assistant when it is sent back. -/
theorem silent_answer_lost : ¬∀ (env : Env) (model rawResponse : Fields) (blocks : List Value), IsContent blocks →
    field rawResponse "content" = .arr blocks → field rawResponse "choices" = .null →
    field rawResponse "_lerouter_provider" = .null → RoundTrips env model rawResponse (.arr blocks) := by
  intro h
  obtain ⟨response, hresponse, hsent⟩ := h plainEnv [] (responseOf []) [] ⟨List.nodup_nil, nofun⟩ rfl rfl rfl
  obtain ⟨turn, results, hturns, hrepeats, -⟩ :=
    hsent [("messages", .arr [.obj (assistantMessage response)])] [] none [] [] [] rfl .nil rfl
  obtain rfl := Option.some.inj hresponse
  obtain ⟨hturn, -⟩ := List.cons.inj (Prod.mk.inj (Option.some.inj hturns)).2
  have hrole := hrepeats.role
  rw [← hturn] at hrole
  have huser : "user".toList = "assistant".toList := Value.str.inj hrole
  exact absurd huser (by decide)

/-- The use of a tool comes back. -/
theorem weather_use_roundtrip : RoundTrips plainEnv [] (responseOf [weatherUse]) (.arr [weatherUse]) := by
  have hinput : WellFormed (.obj [("city", .str "Paris".toList)]) :=
    .obj (List.nodup_singleton _) (List.forall_mem_singleton.2 (.str _))
  have hblock : IsBlock weatherUse := .toolUse rfl rfl rfl rfl (List.cons_ne_nil _ _) (List.cons_ne_nil _ _) hinput
  have hcontent : IsContent [weatherUse] := ⟨List.nodup_singleton _, List.forall_mem_singleton.2 hblock⟩
  exact tool_calls_roundtrip plainEnv [] hcontent rfl rfl rfl (.inr (List.cons_ne_nil _ _))

end Provider

end PromptRail
