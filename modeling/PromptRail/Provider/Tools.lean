import PromptRail.Provider

/-!
# Whether Anthropic may call what the caller allows (`lerouter_modal_api.py`)

A request says which tools the model may call, and whether it has to call one. The request that is built for Anthropic says the same,
unless the caller forbids the tools that it lists: no choice is sent then, and Anthropic takes that for leave to call any of them.
-/

namespace PromptRail

open PyText (Text)
open Json (Value Fields get? truthy)

namespace Provider

/-! ## What a request says -/

/-- Whether the model has to call a tool. -/
inductive Demand where
  | free
  | some
  | tool (name : Text)
deriving DecidableEq

/-- The tools that may be called, and whether one has to be. -/
structure Policy where
  callable : List Text
  demand : Demand
deriving DecidableEq

/-- Calls that a policy permits, and among which is what it requires. -/
def Policy.Admits (policy : Policy) (calls : List Text) : Prop :=
  (∀ call ∈ calls, call ∈ policy.callable) ∧
    match policy.demand with
    | .free => True
    | .some => calls ≠ []
    | .tool name => name ∈ calls

/-- A choice of a tool, as OpenAI has it. -/
inductive Choice where
  | auto
  | none
  | required
  | function (name : Text)
deriving DecidableEq

/-- What the field `tool_choice` says. -/
inductive Says : Value → Choice → Prop where
  | absent : Says .null .auto
  | auto : Says (.str "auto".toList) .auto
  | none : Says (.str "none".toList) .none
  | required : Says (.str "required".toList) .required
  | function {choice function : Fields} {name : Text} : field choice "function" = .obj function →
      field function "name" = .str name → Says (.obj choice) (.function name)

/-- A tool of OpenAI that is a function of a name. -/
def IsFunctionTool (name : Text) (tool : Value) : Prop :=
  ∃ fields function, tool = .obj fields ∧ isText "function" (field fields "type") = true ∧ field fields "function" = .obj function ∧
    field function "name" = .str name

/-- The options of a request with function tools, one of which may be chosen. -/
structure ToolRequest where
  options : Fields
  names : List Text
  choice : Choice
  listed : ∃ tools, field options "tools" = .arr tools ∧ List.Forall₂ IsFunctionTool names tools
  nodup : names.Nodup
  named : ∀ name ∈ names, name ≠ []
  asks : Says (field options "tool_choice") choice
  chosen : ∀ name, choice = .function name → name ∈ names

/-- What the request says to OpenAI. -/
def openaiPolicy (request : ToolRequest) : Policy :=
  match request.choice with
  | .auto => ⟨request.names, .free⟩
  | .none => ⟨[], .free⟩
  | .required => ⟨request.names, .some⟩
  | .function name => ⟨[name], .tool name⟩

/-- The name of a tool of Anthropic. -/
def anthropicToolName : Value → Text
  | .obj tool =>
    match field tool "name" with
    | .str name => name
    | _ => []
  | _ => []

/-- The names of the tools of a payload. -/
def anthropicToolNames (payload : Fields) : List Text :=
  match field payload "tools" with
  | .arr tools => tools.map anthropicToolName
  | _ => []

/-- What a payload says to Anthropic: without a choice, the model is free. -/
def anthropicPolicy (payload : Fields) : Policy :=
  match field payload "tool_choice" with
  | .obj choice =>
    if isText "any" (field choice "type") then ⟨anthropicToolNames payload, .some⟩
    else if isText "tool" (field choice "type") then ⟨[anthropicToolName (.obj choice)], .tool (anthropicToolName (.obj choice))⟩
    else if isText "none" (field choice "type") then ⟨[], .free⟩
    else ⟨anthropicToolNames payload, .free⟩
  | _ => ⟨anthropicToolNames payload, .free⟩

/-! ## What the payload says -/

namespace ToolsAux

variable {env : Env}

/-- What is bound to Anthropic of the options keeps the tools and the choice. -/
theorem field_bound (parseInt : Value → Option Int) (nativeModelId : Text) (options : Fields) {name : String} (h : "max_tokens" ≠ name) :
    field (providerBoundRequestOptions env parseInt "anthropic".toList nativeModelId options) name = field options name := by
  have hopenai : openaiOptions env "anthropic".toList nativeModelId options = options := by
    unfold openaiOptions
    rw [if_neg]
    exact fun hand => absurd hand.1 (by decide)
  unfold providerBoundRequestOptions
  rw [hopenai]
  split
  · rfl
  · split
    · rfl
    · rw [field_set, if_neg h]

/-- A function tool stays a tool of its name. -/
theorem anthropicTool_name (env : Env) {name : Text} {tool : Value} (h : IsFunctionTool name tool) (hne : name ≠ []) :
    ∃ converted, anthropicTool env tool = some converted ∧ anthropicToolName (.obj converted) = name := by
  obtain ⟨fields, function, rfl, htype, hfunction, hname⟩ := h
  have htool : anthropicTool env (.obj fields) = some
      [("name", .str name), ("description", .str (env.str (orElse (field function "description") (.str [])))),
        ("input_schema", orElse (field function "parameters") (.obj [("type", .str "object".toList), ("properties", .obj [])]))] := by
    simp only [anthropicTool, htype, if_true, hfunction, hname, truthy_str hne, str_str]
  refine ⟨_, htool, ?_⟩
  rw [anthropicToolName, field_cons, if_pos rfl]

/-- The tools keep their names and their order. -/
theorem anthropicTools_names (env : Env) {names : List Text} {tools : List Value} (h : List.Forall₂ IsFunctionTool names tools)
    (hne : ∀ name ∈ names, name ≠ []) :
    (openaiToolsToAnthropicTools env (.arr tools)).map (fun tool => anthropicToolName (.obj tool)) = names := by
  show (tools.filterMap (anthropicTool env)).map (fun tool => anthropicToolName (.obj tool)) = names
  induction h with
  | nil => rfl
  | cons htool _ ih =>
    obtain ⟨hname, hrest⟩ := List.forall_mem_cons.1 hne
    obtain ⟨converted, hconverted, hsame⟩ := anthropicTool_name env htool hname
    rw [List.filterMap_cons_some hconverted, List.map_cons, hsame, ih hrest]

/-- What a payload has of the tools and of the choice. -/
theorem anthropicPayload_tools {nativeModelId : Text} {messages : List Fields} {options payload : Fields}
    (h : anthropicPayload env nativeModelId messages options = some payload) :
    (field payload "tools" =
        if (openaiToolsToAnthropicTools env (field options "tools")).isEmpty then .null
        else .arr ((openaiToolsToAnthropicTools env (field options "tools")).map .obj)) ∧
      field payload "tool_choice" =
        ((openaiToolChoiceToAnthropic env (field options "tool_choice")).map Value.obj).getD .null := by
  obtain ⟨⟨systemMessage, anthropicMessages⟩, -, h⟩ := Option.bind_eq_some_iff.1 h
  obtain rfl := (Option.some.inj h).symm
  have hfront (name : String) (hname : name ∉ ["model", "messages", "system", "max_tokens"]) (front : Fields)
      (hnames : front.map (·.1) = ["model", "messages", "system", "max_tokens"]) :
      name ∉ (front.filter fun p => isPresent p.2).map (·.1) := by
    rw [← hnames] at hname
    intro hmem
    obtain ⟨p, hp, rfl⟩ := List.mem_map.1 hmem
    exact hname (List.mem_map_of_mem (List.mem_filter.1 hp).1)
  generalize openaiToolsToAnthropicTools env (field options "tools") = tools
  generalize openaiToolChoiceToAnthropic env (field options "tool_choice") = choice
  rw [List.append_assoc, List.filter_append]
  rw [field_append (hfront "tools" (by decide) _ rfl), field_append (hfront "tool_choice" (by decide) _ rfl)]
  cases tools <;> cases choice <;> exact ⟨rfl, rfl⟩

/-- The choice that Anthropic is sent. -/
def sentChoice (present : Bool) : Choice → Option Fields
  | .auto => if present then some [("type", .str "auto".toList)] else none
  | .none => none
  | .required => some [("type", .str "any".toList)]
  | .function name => some [("type", .str "tool".toList), ("name", .str name)]

theorem openaiToolChoiceToAnthropic_eq {value : Value} {choice : Choice} (h : Says value choice)
    (hne : ∀ name, choice = .function name → name ≠ []) :
    openaiToolChoiceToAnthropic env value = sentChoice (isPresent value) choice := by
  cases h with
  | absent => rfl
  | auto => rfl
  | none => rfl
  | required => rfl
  | function hfunction hname =>
    simp only [openaiToolChoiceToAnthropic, hfunction, hname, truthy_str (hne _ rfl), if_true, str_str, sentChoice]

end ToolsAux

open ToolsAux

/-- What the request for Anthropic says: what the caller says, except that nothing is forbidden. -/
theorem anthropicPolicy_request {env : Env} {parseInt : Value → Option Int} {nativeModelId : Text} {messages : List Fields}
    {request : ToolRequest} {payload : Fields}
    (h : anthropicRequest env parseInt nativeModelId messages request.options = some payload) :
    anthropicPolicy payload = if request.choice = .none then ⟨request.names, .free⟩ else openaiPolicy request := by
  obtain ⟨htools, hchoice⟩ := anthropicPayload_tools h
  rw [field_bound parseInt nativeModelId request.options (by decide)] at htools hchoice
  obtain ⟨tools, hlisted, hfunctions⟩ := request.listed
  have hnames := anthropicTools_names env hfunctions request.named
  rw [hlisted] at htools
  have hpayload : anthropicToolNames payload = request.names := by
    unfold anthropicToolNames
    rw [htools, ← hnames]
    split
    · rename_i hmatch
      split at hmatch
      · cases hmatch
      · cases hmatch
        rw [List.map_map]
        rfl
    · rename_i hother
      split at hother
      · rename_i hempty
        rw [List.isEmpty_iff.1 hempty]
        rfl
      · exact (hother _ rfl).elim
  rw [openaiToolChoiceToAnthropic_eq request.asks fun name hname => request.named name (request.chosen name hname)] at hchoice
  unfold anthropicPolicy openaiPolicy
  rw [hchoice, hpayload]
  cases request.choice with
  | auto => cases isPresent (field request.options "tool_choice") <;> rfl
  | none => rfl
  | required => rfl
  | function name => rfl

/-- The request for Anthropic permits and requires the calls that the caller permits and requires exactly when the caller does not
forbid tools that it lists. -/
theorem tool_permissions_preserved_iff (env : Env) (parseInt : Value → Option Int) (nativeModelId : Text) (messages : List Fields)
    (request : ToolRequest) {payload : Fields}
    (h : anthropicRequest env parseInt nativeModelId messages request.options = some payload) :
    (∀ calls, (anthropicPolicy payload).Admits calls ↔ (openaiPolicy request).Admits calls) ↔
      (request.choice = .none → request.names = []) := by
  rw [anthropicPolicy_request h]
  constructor
  · intro hsame hnone
    by_contra hne
    obtain ⟨name, hname⟩ := List.exists_mem_of_ne_nil _ hne
    have hadmitted := (hsame [name]).1 (by
      rw [if_pos hnone]
      exact ⟨fun call hcall => List.mem_singleton.1 hcall ▸ hname, trivial⟩)
    unfold openaiPolicy at hadmitted
    rw [hnone] at hadmitted
    exact absurd (hadmitted.1 name List.mem_cons_self) List.not_mem_nil
  · intro himp calls
    split
    · rename_i hnone
      unfold openaiPolicy
      rw [hnone, himp hnone]
    · exact Iff.rfl

/-! ## Requests -/

namespace ToolsExample

def plainEnv : Env where
  repr _ := []
  lower t := t

def weatherTool : Value :=
  .obj [("type", .str "function".toList), ("function", .obj [("name", .str "get_weather".toList)])]

/-- A request with one tool, of which it says the same as a field. -/
def weatherRequest (value : Value) (choice : Choice) (asks : Says value choice)
    (chosen : ∀ name, choice = .function name → name = "get_weather".toList) : ToolRequest where
  options := [("tools", .arr [weatherTool]), ("tool_choice", value)]
  names := ["get_weather".toList]
  choice := choice
  listed := ⟨[weatherTool], rfl, .cons ⟨_, _, rfl, rfl, rfl, rfl⟩ .nil⟩
  nodup := List.nodup_singleton _
  named := List.forall_mem_singleton.2 (List.cons_ne_nil _ _)
  asks := asks
  chosen name h := List.mem_singleton.2 (chosen name h)

def question : List Fields := [[("role", .str "user".toList), ("content", .str "Is it raining?".toList)]]

end ToolsExample

open ToolsExample

/-- Forbidden tools are sent to Anthropic as tools that may be called. -/
theorem forbidden_tool_callable : ¬∀ (env : Env) (parseInt : Value → Option Int) (nativeModelId : Text) (messages : List Fields)
    (request : ToolRequest) (payload : Fields), anthropicRequest env parseInt nativeModelId messages request.options = some payload →
      ∀ calls, (anthropicPolicy payload).Admits calls ↔ (openaiPolicy request).Admits calls := by
  intro h
  have hsame := h plainEnv (fun _ => none) "claude".toList question (weatherRequest _ .none .none nofun) _ rfl ["get_weather".toList]
  have hadmitted := hsame.1 ⟨List.forall_mem_singleton.2 (List.mem_singleton.2 rfl), trivial⟩
  exact absurd (hadmitted.1 _ List.mem_cons_self) List.not_mem_nil

/-- A tool that has to be called has to be called by Anthropic too. -/
theorem required_tool_preserved : ∃ payload,
    anthropicRequest plainEnv (fun _ => none) "claude".toList question
      (weatherRequest _ .required .required nofun).options = some payload ∧
    ∀ calls, (anthropicPolicy payload).Admits calls ↔
      (openaiPolicy (weatherRequest _ .required .required nofun)).Admits calls := by
  refine ⟨_, rfl, ?_⟩
  exact (tool_permissions_preserved_iff plainEnv (fun _ => none) "claude".toList question
    (weatherRequest _ .required .required nofun) rfl).2 nofun

end Provider

end PromptRail
