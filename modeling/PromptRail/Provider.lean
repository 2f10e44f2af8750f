import PromptRail.Library.JsonLines

/-!
# What a provider is sent, and what it answers (`lerouter_modal_api.py`)

A conversation is kept the way OpenAI writes it. For Anthropic its messages, tools and choice of a tool are translated into turns of
blocks, and the blocks of the answer are translated back.
-/

namespace PromptRail

open PyText (Text)
open Json (Value Fields get? truthy loads)

namespace Provider

/-! ## Values -/

/-- What is taken from outside: the text that `str` prints for a list or a dictionary, and `str.lower`. -/
structure Env where
  repr : Value → Text
  lower : Text → Text

/-- `fields.get(name)`. -/
def field (fields : Fields) (name : String) : Value := (get? fields name).getD .null

/-- Python's `or`. -/
def orElse (a b : Value) : Value := if truthy a then a else b

/-- `value is not None`. -/
def isPresent : Value → Bool
  | .null => false
  | _ => true

/-- `value == text`. -/
def isText (text : String) : Value → Bool
  | .str s => s == text.toList
  | _ => false

/-- A value that is a dictionary. -/
def asDict : Value → Option Fields
  | .obj fields => some fields
  | _ => none

/-- What a loop over a value goes through, where the value can be iterated. -/
def iterate : Value → Option (List Value)
  | .arr items => some items
  | .str s => some (s.map fun c => .str [c])
  | .obj fields => some (fields.map fun p => .str p.1.toList)
  | _ => none

/-- What a loop over `value or []` goes through. -/
def itemsOf (value : Value) : Option (List Value) := if truthy value then iterate value else some []

variable (env : Env)

/-- `str`. -/
def Env.str : Value → Text
  | .null => "None".toList
  | .bool b => (if b then "True" else "False").toList
  | .int n => (toString n).toList
  | .float literal => literal.toList
  | .str s => s
  | v => env.repr v

/-! ## Messages -/

/-- The text of an item of a content. -/
def itemText : Value → Text
  | .obj item => env.str (orElse (field item "text") (orElse (field item "content") (.str [])))
  | item => env.str item

/-- `message_content_text`. -/
def messageContentText : Value → Text
  | .str content => content
  | .null => []
  | .arr items => ['\n'].intercalate ((items.map (itemText env)).filter fun t => !t.isEmpty)
  | content => env.str content

/-- The role of a message. -/
def roleOf (message : Fields) : Text := env.str (orElse (field message "role") (.str "user".toList))

/-- The fields of a message that are kept where they are present. -/
def keptNames : List String := ["tool_calls", "tool_call_id", "name"]

/-- A message with what is kept of it. -/
def normalizedMessage (message : Fields) : Fields :=
  [("role", .str (roleOf env message)),
    ("content", if isPresent (field message "content") then field message "content" else .str [])] ++
    keptNames.filterMap fun name => if isPresent (field message name) then some (name, field message name) else none

/-- Whether a message says anything. -/
def isKept (message : Fields) : Bool :=
  !(messageContentText env (field message "content")).isEmpty ||
    truthy (field (normalizedMessage env message) "tool_calls") || roleOf env message == "tool".toList

/-- The messages of a payload that say anything. -/
def keptMessages (payload : Fields) : List Fields :=
  match field payload "messages" with
  | .arr messages => ((messages.filterMap asDict).filter (isKept env)).map (normalizedMessage env)
  | _ => []

/-- `normalize_messages`. -/
def normalizeMessages (payload : Fields) : List Fields :=
  if (keptMessages env payload).isEmpty then
    [[("role", .str "user".toList),
      ("content", .str (env.str (orElse (field payload "prompt") (orElse (field payload "input") (.str [])))))]]
  else keptMessages env payload

/-- One line of `messages_text`. -/
def messageLine (message : Fields) : Text :=
  let content := messageContentText env (field message "content")
  let optional (name : String) (text : Value → Text) : List Text :=
    if truthy (field message name) then [(name ++ "=").toList ++ text (field message name)] else []
  [' '].intercalate
    ([roleOf env message ++ [':']] ++ optional "name" env.str ++ optional "tool_call_id" env.str ++
      (if content.isEmpty then [] else [content]) ++ optional "tool_calls" Json.Style.ascii.write)

/-- `messages_text`. -/
def messagesText (messages : List Fields) : Text := ['\n'].intercalate (messages.map (messageLine env))

/-! ## Turns for Anthropic -/

def textBlock (text : Text) : Fields := [("type", .str "text".toList), ("text", .str text)]

/-- The arguments of a tool call: read as JSON where they are a text that is JSON. -/
def toolArguments : Value → Value
  | .str text => (loads text).getD (.obj [("arguments", .str text)])
  | value => value

/-- The input of a block, which is an object. -/
def toolInput : Value → Value
  | .obj fields => .obj fields
  | value => .obj [("value", value)]

/-- The block of a tool call, behind a number of blocks. -/
def toolUse (count : Nat) : Value → Option Fields
  | .obj toolCall =>
    match orElse (field toolCall "function") (.obj []) with
    | .obj function =>
      if truthy (field function "name") then
        some
          [("type", .str "tool_use".toList),
            ("id", .str (env.str (orElse (field toolCall "id") (.str ("toolu_" ++ toString count).toList)))),
            ("name", .str (env.str (field function "name"))),
            ("input", toolInput (toolArguments (orElse (field function "arguments") (.str "{}".toList))))]
      else none
    | _ => none
  | _ => none

/-- `anthropic_content_blocks_from_openai`. -/
def anthropicContentBlocksFromOpenai (message : Fields) : Option (List Fields) := do
  let text := messageContentText env (field message "content")
  let toolCalls ← itemsOf (field message "tool_calls")
  let blocks := toolCalls.foldl (fun blocks toolCall => blocks ++ (toolUse env blocks.length toolCall).toList)
    (if text.isEmpty then [] else [textBlock text])
  return if blocks.isEmpty then [textBlock []] else blocks

/-- The turn with the result of a tool call. -/
def toolResultTurn (id content : Text) : Fields :=
  [("role", .str "user".toList),
    ("content", .arr [.obj [("type", .str "tool_result".toList), ("tool_use_id", .str id), ("content", .str content)]])]

/-- The turn of a message that is not the system's. -/
def anthropicTurn (message : Fields) : Option Fields :=
  if roleOf env message = "tool".toList then
    some (toolResultTurn (env.str (orElse (field message "tool_call_id") (.str []))) (messageContentText env (field message "content")))
  else
    (anthropicContentBlocksFromOpenai env message).map fun blocks =>
      [("role", .str (if roleOf env message = "assistant".toList then "assistant" else "user").toList),
        ("content", .arr (blocks.map .obj))]

def isSystem (message : Fields) : Bool := roleOf env message == "system".toList

/-- The texts of the system's messages. -/
def systemTexts (messages : List Fields) : List Text :=
  ((messages.filter (isSystem env)).map fun message => messageContentText env (field message "content")).filter fun t => !t.isEmpty

/-- `anthropic_messages_from_openai`. -/
def anthropicMessagesFromOpenai (messages : List Fields) : Option (Option Text × List Fields) := do
  let converted ← (messages.filter fun message => !isSystem env message).mapM (anthropicTurn env)
  return (if (systemTexts env messages).isEmpty then none else some (['\n'].intercalate (systemTexts env messages)), converted)

/-! ## Tools for Anthropic -/

/-- One tool of `openai_tools_to_anthropic_tools`. -/
def anthropicTool : Value → Option Fields
  | .obj tool =>
    match if isText "function" (field tool "type") then field tool "function" else .obj tool with
    | .obj function =>
      if truthy (field function "name") then
        some
          [("name", .str (env.str (field function "name"))),
            ("description", .str (env.str (orElse (field function "description") (.str [])))),
            ("input_schema", orElse (field function "parameters") (.obj [("type", .str "object".toList), ("properties", .obj [])]))]
      else none
    | _ => none
  | _ => none

/-- `openai_tools_to_anthropic_tools`. -/
def openaiToolsToAnthropicTools : Value → List Fields
  | .arr tools => tools.filterMap (anthropicTool env)
  | _ => []

/-- `openai_tool_choice_to_anthropic`. -/
def openaiToolChoiceToAnthropic : Value → Option Fields
  | .str choice =>
    if choice = "auto".toList then some [("type", .str "auto".toList)]
    else if choice = "required".toList then some [("type", .str "any".toList)]
    else none
  | .obj choice =>
    match field choice "function" with
    | .obj function =>
      if truthy (field function "name") then some [("type", .str "tool".toList), ("name", .str (env.str (field function "name")))]
      else none
    | _ => none
  | _ => none

/-- `provider_max_output_tokens`. -/
def providerMaxOutputTokens (provider : Text) : Option Int :=
  if env.lower (PyText.strip provider) = "anthropic".toList then some 64000 else none

/-- What is kept of the options for the models of OpenAI that take neither a temperature nor `max_tokens`. -/
def reasoningOptions (options : Fields) : Fields :=
  let renamed :=
    if isPresent (field options "max_tokens") then
      Json.set (options.filter fun p => p.1 != "max_tokens") "max_completion_tokens" (field options "max_tokens")
    else options
  renamed.filter fun p => p.1 != "temperature"

/-- The options for a model of OpenAI. -/
def openaiOptions (provider nativeModelId : Text) (requestOptions : Fields) : Fields :=
  if provider = "openai".toList ∧
      (["gpt-5", "o1", "o3", "o4"].any fun start => start.toList.isPrefixOf (env.lower (PyText.strip nativeModelId))) then
    reasoningOptions requestOptions
  else requestOptions

/-- `provider_bound_request_options`; `parseInt` is `int` of what `parse_optional_number` reads of a value. -/
def providerBoundRequestOptions (parseInt : Value → Option Int) (provider nativeModelId : Text) (requestOptions : Fields) : Fields :=
  match providerMaxOutputTokens env provider with
  | none => openaiOptions env provider nativeModelId requestOptions
  | some maxOutputTokens =>
    match parseInt (field (openaiOptions env provider nativeModelId requestOptions) "max_tokens") with
    | none => openaiOptions env provider nativeModelId requestOptions
    | some requested =>
      Json.set (openaiOptions env provider nativeModelId requestOptions) "max_tokens" (.int (min requested maxOutputTokens))

/-- The payload that the `anthropic` branch of `execute_provider_request` sends. -/
def anthropicPayload (nativeModelId : Text) (messages : List Fields) (providerOptions : Fields) : Option Fields := do
  let (systemMessage, anthropicMessages) ← anthropicMessagesFromOpenai env messages
  let anthropicTools := openaiToolsToAnthropicTools env (field providerOptions "tools")
  let payload : Fields :=
    [("model", .str nativeModelId), ("messages", .arr (anthropicMessages.map .obj)), ("system", (systemMessage.map .str).getD .null),
      ("max_tokens", (get? providerOptions "max_tokens").getD (.int 1024))] ++
    (if anthropicTools.isEmpty then [] else [("tools", .arr (anthropicTools.map .obj))]) ++
    ((openaiToolChoiceToAnthropic env (field providerOptions "tool_choice")).map fun choice => ("tool_choice", Value.obj choice)).toList
  return payload.filter fun p => isPresent p.2

/-- What `execute_provider_request` sends to Anthropic. -/
def anthropicRequest (parseInt : Value → Option Int) (nativeModelId : Text) (messages : List Fields) (requestOptions : Fields) :
    Option Fields :=
  anthropicPayload env nativeModelId messages
    (providerBoundRequestOptions env parseInt "anthropic".toList nativeModelId requestOptions)

/-! ## Responses -/

/-- The tool call of a block at an index. -/
def toolCallOf (index : Nat) : Value → Option Value
  | .obj block =>
    if isText "tool_use" (field block "type") then
      some <| .obj
        [("id", .str (env.str (orElse (field block "id") (.str ("call_" ++ toString index).toList)))),
          ("type", .str "function".toList),
          ("function", .obj
            [("name", .str (env.str (orElse (field block "name") (.str [])))),
              ("arguments", .str (Json.Style.ascii.write (orElse (field block "input") (.obj []))))])]
    else none
  | _ => none

/-- `anthropic_tool_use_to_openai_tool_calls`. -/
def anthropicToolUseToOpenaiToolCalls : Value → List Value
  | .arr blocks => blocks.zipIdx.filterMap fun p => toolCallOf env p.2 p.1
  | _ => []

def anthropicFinishReasons : List (Text × Text) :=
  [("end_turn".toList, "stop".toList), ("max_tokens".toList, "length".toList), ("tool_use".toList, "tool_calls".toList),
    ("stop_sequence".toList, "stop".toList)]

def geminiFinishReasons : List (Text × Text) :=
  [("STOP".toList, "stop".toList), ("MAX_TOKENS".toList, "length".toList), ("SAFETY".toList, "content_filter".toList),
    ("RECITATION".toList, "content_filter".toList)]

/-- `openai_finish_reason`. -/
def openaiFinishReason (provider : Text) (finishReason : Value) : Option Text :=
  match finishReason with
  | .null => none
  | reason =>
    if provider = "anthropic".toList then some ((anthropicFinishReasons.lookup (env.str reason)).getD (env.str reason))
    else if provider = "gemini".toList then
      some ((geminiFinishReasons.lookup (env.str reason)).getD (env.lower (env.str reason)))
    else some (env.str reason)

/-- What is read of a response. -/
structure Answer where
  content : Value := .str []
  toolCalls : Value := .arr []
  finishReason : Value := .null

/-- The answer under `choices`. -/
def choicesAnswer (rawResponse : Fields) : Option Answer :=
  match field rawResponse "choices" with
  | .arr (choice :: _) => do
    let first ← asDict (orElse choice (.obj []))
    let message ← asDict (orElse (field first "message") (.obj []))
    return {
      content := orElse (field message "content") (orElse (field first "text") (.str []))
      toolCalls := orElse (field message "tool_calls") (.arr [])
      finishReason := field first "finish_reason" }
  | _ => some {}

/-- The text of the blocks of a kind. -/
def blockText : Value → Text
  | .obj block => if isText "text" (field block "type") then env.str (orElse (field block "text") (.str [])) else []
  | _ => []

/-- The answer of Anthropic. -/
def anthropicAnswer (rawResponse : Fields) (answer : Answer) : Answer :=
  match field rawResponse "content" with
  | .arr blocks =>
    { content := .str (blocks.flatMap (blockText env))
      toolCalls := .arr (anthropicToolUseToOpenaiToolCalls env (.arr blocks))
      finishReason := field rawResponse "stop_reason" }
  | _ => { answer with finishReason := field rawResponse "stop_reason" }

def partText : Value → Text
  | .obj part => env.str (orElse (field part "text") (.str []))
  | _ => []

/-- The answer of Gemini. -/
def geminiAnswer (rawResponse : Fields) (answer : Answer) : Option Answer :=
  match field rawResponse "candidates" with
  | .arr (candidate :: _) => do
    let first ← asDict candidate
    let content ← asDict ((get? first "content").getD (.obj []))
    let parts ← iterate ((get? content "parts").getD (.arr []))
    return { answer with content := .str (parts.flatMap (partText env)), finishReason := field first "finishReason" }
  | _ => some answer

/-- What `normalize_provider_response` returns, without the response itself. -/
structure NormalizedResponse where
  content : Value
  toolCalls : Value
  model : Value
  provider : Text
  usage : Value
  finishReason : Option Text

/-- The provider that has answered. -/
def responseProvider (executableProvider : Text) (rawResponse : Fields) : Text :=
  if truthy (field rawResponse "_lerouter_provider") then env.str (field rawResponse "_lerouter_provider") else executableProvider

/-- The answer, with what Anthropic says where nothing has been read. -/
def afterAnthropic (provider : Text) (rawResponse : Fields) (answer : Answer) : Answer :=
  if !truthy answer.content && provider == "anthropic".toList then anthropicAnswer env rawResponse answer else answer

/-- The answer and the usage, with what Gemini says where nothing has been read. -/
def afterGemini (provider : Text) (rawResponse : Fields) (answer : Answer) : Option (Answer × Value) :=
  if !truthy answer.content && provider == "gemini".toList then
    (geminiAnswer env rawResponse answer).map fun final =>
      (final, orElse (field rawResponse "usageMetadata") (field rawResponse "usage"))
  else some (answer, field rawResponse "usage")

/-- `normalize_provider_response`, for a model that a provider executes. -/
def normalizeProviderResponse (executableProvider : Text) (model rawResponse : Fields) : Option NormalizedResponse := do
  let provider := responseProvider env executableProvider rawResponse
  let answer ← choicesAnswer rawResponse
  let (final, usage) ← afterGemini env provider rawResponse (afterAnthropic env provider rawResponse answer)
  return {
    content := final.content
    toolCalls := final.toolCalls
    model := field model "model_id"
    provider := provider
    usage := orElse usage (.obj [])
    finishReason := openaiFinishReason env provider final.finishReason }

/-! ## Fields -/

@[simp] theorem str_str (s : Text) : env.str (.str s) = s := rfl

@[simp] theorem field_nil (name : String) : field [] name = .null := rfl

theorem field_cons (name : String) (value : Value) (fields : Fields) (name' : String) :
    field ((name, value) :: fields) name' = if name = name' then value else field fields name' := by
  unfold field
  rw [Json.get?_cons]
  split <;> rfl

theorem field_append {fields : Fields} {name : String} (h : name ∉ fields.map (·.1)) (more : Fields) :
    field (fields ++ more) name = field more name := by
  induction fields with
  | nil => rfl
  | cons p fields ih =>
    obtain ⟨hhead, hrest⟩ := not_or.1 fun hmem => h (List.mem_cons.2 hmem)
    rw [List.cons_append, field_cons, if_neg (Ne.symm hhead), ih hrest]

theorem field_set (fields : Fields) (name : String) (value : Value) (name' : String) :
    field (Json.set fields name value) name' = if name = name' then value else field fields name' := by
  unfold field
  rw [Json.get?_set]
  split <;> rfl

theorem truthy_str {t : Text} (h : t ≠ []) : truthy (.str t) = true := by
  cases t with
  | nil => exact (h rfl).elim
  | cons c t => rfl

theorem orElse_of_truthy {a : Value} (h : truthy a = true) (b : Value) : orElse a b = a := if_pos h

end Provider

end PromptRail
