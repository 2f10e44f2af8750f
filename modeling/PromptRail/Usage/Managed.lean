import PromptRail.Provider
import PromptRail.RouteBudget.Execution

/-!
# What a call is charged that LeRouter makes (`lerouter_modal_api.py`)

A call that LeRouter makes itself is charged by `estimate_spend_usd`, which looks for the counts of the tokens under the names of OpenAI
and Anthropic in the response as it came. A count that is not found, and a count of zero under the name of OpenAI, is replaced by an
estimate. A call that its owner has made is charged by `verified_usage_spend_usd` what the counts cost.
-/

namespace PromptRail

namespace Usage

open Document (Fields Value get)
open Provider (field NormalizedResponse normalizeProviderResponse messagesText)
open RouteBudget (RoutedModel estimateSpendUsd firstTruthy)

/-! ## Responses -/

/-- A JSON value as a value of a document; a finite float is the number that its literal spells. -/
def ofJson (literal : String → Option ℚ) : Json.Value → Value
  | .null => .null
  | .bool b => .bool b
  | .int n => .number n
  | .float l =>
    match literal l with
    | some x => .number x
    | none => .other
  | .str s => .text (String.ofList s)
  | .arr _ | .obj _ => .other

/-- A JSON object as a document. -/
def documentOf (literal : String → Option ℚ) : Json.Fields → Fields
  | [] => ∅
  | (name, value) :: fields => (documentOf literal fields).insert name (ofJson literal value)

theorem get_documentOf (literal : String → Option ℚ) (fields : Json.Fields) (name : String) :
    get (documentOf literal fields) name = ofJson literal (field fields name) := by
  induction fields with
  | nil => rfl
  | cons p fields ih =>
    rw [documentOf, Document.get_insert, ih, Provider.field_cons]
    by_cases h : p.1 = name
    · rw [if_pos h, if_pos h.symm]
    · rw [if_neg h, if_neg (Ne.symm h)]

/-- The usage that `estimate_spend_usd` finds in a response. -/
def responseUsage (literal : String → Option ℚ) (response : Json.Fields) : Option Fields :=
  (Provider.asDict (field response "usage")).map (documentOf literal)

/-- What a call of `lerouter_route` is charged. -/
def managedSpendUsd (float literal : String → Option ℚ) (env : Provider.Env) (model : RoutedModel) (messages : List Json.Fields)
    (response : Json.Fields) : ℚ :=
  estimateSpendUsd float model (messagesText env messages).length (responseUsage literal response)

/-- How a provider reports the tokens of a call. -/
inductive Shape where
  | openai
  | anthropic
  | gemini
deriving DecidableEq

/-- The field of the response that the counts are in. -/
def Shape.place : Shape → String
  | .openai | .anthropic => "usage"
  | .gemini => "usageMetadata"

/-- The name of the count of input tokens. -/
def Shape.inputName : Shape → String
  | .openai => "prompt_tokens"
  | .anthropic => "input_tokens"
  | .gemini => "promptTokenCount"

/-- The name of the count of output tokens. -/
def Shape.outputName : Shape → String
  | .openai => "completion_tokens"
  | .anthropic => "output_tokens"
  | .gemini => "candidatesTokenCount"

/-- A response with its counts in one shape, which `normalize_provider_response` takes for its usage. -/
structure Reports (literal : String → Option ℚ) (env : Provider.Env) (provider : PyText.Text) (shape : Shape) (model response : Json.Fields)
    (inputTokens outputTokens : ℚ) (usage : Json.Fields) : Prop where
  place : field response shape.place = .obj usage
  alone : shape = .gemini → field response "usage" = .null
  recognised : ∃ normalized, normalizeProviderResponse env provider model response = some normalized ∧ normalized.usage = .obj usage
  input : ofJson literal (field usage shape.inputName) = .number inputTokens
  output : ofJson literal (field usage shape.outputName) = .number outputTokens
  others : ∀ name ∈ inputAliases ++ outputAliases, name ≠ shape.inputName → name ≠ shape.outputName → field usage name = .null
  input_nonneg : 0 ≤ inputTokens
  output_nonneg : 0 ≤ outputTokens

/-- The estimate of the input tokens of a request. -/
def estimatedInputTokens (env : Provider.Env) (messages : List Json.Fields) : ℚ := max 1 ((messagesText env messages).length / 4)

/-- The counts are found, or what stands in for them costs the same to eight decimals. -/
def ChargedAlike (shape : Shape) (estimate inputTokens outputTokens inputPrice outputPrice : ℚ) : Prop :=
  match shape with
  | .anthropic => True
  | .openai =>
    inputTokens ≠ 0 ∨ Round.round 8 (costUsd estimate outputTokens inputPrice outputPrice) =
      Round.round 8 (costUsd 0 outputTokens inputPrice outputPrice)
  | .gemini =>
    Round.round 8 (costUsd estimate 0 inputPrice outputPrice) = Round.round 8 (costUsd inputTokens outputTokens inputPrice outputPrice)

namespace ManagedAux

variable {float literal : String → Option ℚ} {env : Provider.Env}

/-- A price that is signed is the one that is charged. -/
theorem asFloat_of_signedPrice {price : Value} {x : ℚ} (h : signedPrice float price = .ok x) : asFloat float price = x := by
  have hnumber := (signedPrice_ok_iff.1 h).1
  unfold finiteProfileNumber at hnumber
  split at hnumber
  · cases hnumber
  · cases hnumber
  · split at hnumber
    · cases hnumber
    · rename_i number hfloat
      rw [asFloat, hfloat]
      simpa using hnumber

/-- The tokens that a call is charged for. -/
def chargedTokens (shape : Shape) (estimate inputTokens outputTokens : ℚ) : ℚ × ℚ :=
  match shape with
  | .openai => (if inputTokens = 0 then estimate else inputTokens, outputTokens)
  | .anthropic => (inputTokens, outputTokens)
  | .gemini => (estimate, 0)

/-- A count under its first name, where it is not zero. -/
theorem asFloat_first {x : ℚ} (fallback : ℚ) : asFloat float (firstTruthy (.number x) .null) fallback = if x = 0 then fallback else x := by
  by_cases hx : x = 0
  · subst hx
    rfl
  · rw [firstTruthy, if_pos (by simpa [Document.Value.truthy] using hx), if_neg hx, asFloat_number]

/-- What a call is charged is what the tokens cost that it is charged for. -/
theorem managedSpendUsd_eq {provider : PyText.Text} {shape : Shape} {model : Json.Fields} {response usage : Json.Fields}
    {inputTokens outputTokens : ℚ} (h : Reports literal env provider shape model response inputTokens outputTokens usage)
    (messages : List Json.Fields) {routed : RoutedModel} {inputPrice outputPrice : ℚ}
    (hinput : signedPrice float routed.inputPricePerMillion = .ok inputPrice)
    (houtput : signedPrice float routed.outputPricePerMillion = .ok outputPrice) :
    managedSpendUsd float literal env routed messages response =
      Round.round 8 (costUsd (chargedTokens shape (estimatedInputTokens env messages) inputTokens outputTokens).1
        (chargedTokens shape (estimatedInputTokens env messages) inputTokens outputTokens).2 inputPrice outputPrice) := by
  have hnull (name : String) (hname : name ∈ inputAliases ++ outputAliases) (hin : name ≠ shape.inputName)
      (hout : name ≠ shape.outputName) : get (documentOf literal usage) name = .null := by
    rw [get_documentOf, h.others name hname hin hout]
    rfl
  have hin := (get_documentOf literal usage shape.inputName).trans h.input
  have hout := (get_documentOf literal usage shape.outputName).trans h.output
  have hplace := h.place
  unfold managedSpendUsd estimateSpendUsd
  rw [asFloat_of_signedPrice hinput, asFloat_of_signedPrice houtput]
  unfold responseUsage
  cases shape with
  | openai =>
    dsimp only [Shape.place, Shape.inputName, Shape.outputName] at hplace hin hout hnull
    rw [hplace]
    simp only [Provider.asDict, Option.map_some, hin, hout, hnull "input_tokens" (by decide) (by decide) (by decide),
      hnull "output_tokens" (by decide) (by decide) (by decide), asFloat_first]
    have hzero : (if outputTokens = 0 then 0 else outputTokens) = outputTokens := by
      split
      · rename_i hzero
        exact hzero.symm
      · rfl
    rw [hzero]
    rfl
  | anthropic =>
    dsimp only [Shape.place, Shape.inputName, Shape.outputName] at hplace hin hout hnull
    rw [hplace]
    simp only [Provider.asDict, Option.map_some, hin, hout, hnull "prompt_tokens" (by decide) (by decide) (by decide),
      hnull "completion_tokens" (by decide) (by decide) (by decide)]
    rfl
  | gemini =>
    rw [h.alone rfl]
    rfl

/-- Counts as their owner reports them. -/
def reportedUsage (inputTokens outputTokens : ℚ) : Fields :=
  Table.ofList [("prompt_tokens", .number inputTokens), ("completion_tokens", .number outputTokens)]

theorem usageTokens_reported (float : String → Option ℚ) {inputTokens outputTokens : ℚ} (hi : 0 ≤ inputTokens) (ho : 0 ≤ outputTokens) :
    usageTokens float (some (reportedUsage inputTokens outputTokens)) true = .ok (inputTokens, outputTokens) := by
  have hinOthers : ∀ n ∈ inputAliases.tail, get (reportedUsage inputTokens outputTokens) n = .null := by
    simp only [inputAliases, List.tail_cons, List.forall_mem_cons]
    exact ⟨rfl, rfl, rfl, nofun⟩
  have houtOthers : ∀ n ∈ outputAliases.tail, get (reportedUsage inputTokens outputTokens) n = .null := by
    simp only [outputAliases, List.tail_cons, List.forall_mem_cons]
    exact ⟨rfl, rfl, rfl, nofun⟩
  have hin : usageTokenCount float (reportedUsage inputTokens outputTokens) inputAliases "input_tokens" = .ok inputTokens :=
    usageTokenCount_of_head rfl hi hinOthers "input_tokens"
  have hout : usageTokenCount float (reportedUsage inputTokens outputTokens) outputAliases "output_tokens" = .ok outputTokens :=
    usageTokenCount_of_head rfl ho houtOthers "output_tokens"
  show ((usageTokenCount float (reportedUsage inputTokens outputTokens) inputAliases "input_tokens").bind fun i =>
    (usageTokenCount float (reportedUsage inputTokens outputTokens) outputAliases "output_tokens").bind fun o => .ok (i, o)) = _
  rw [hin, hout]
  rfl

/-- The tokens that a call is charged for cost what the counts cost. -/
theorem chargedAlike_iff (shape : Shape) (estimate inputTokens outputTokens inputPrice outputPrice : ℚ) :
    Round.round 8 (costUsd (chargedTokens shape estimate inputTokens outputTokens).1
        (chargedTokens shape estimate inputTokens outputTokens).2 inputPrice outputPrice) =
      Round.round 8 (costUsd inputTokens outputTokens inputPrice outputPrice) ↔
    ChargedAlike shape estimate inputTokens outputTokens inputPrice outputPrice := by
  cases shape with
  | anthropic => exact ⟨fun _ => trivial, fun _ => rfl⟩
  | gemini => exact Iff.rfl
  | openai =>
    by_cases hzero : inputTokens = 0
    · subst hzero
      simp [chargedTokens, ChargedAlike]
    · simp [chargedTokens, ChargedAlike, hzero]

end ManagedAux

open ManagedAux

/-- What LeRouter charges for a call of its own is what it accepts for the same counts from a call's owner exactly when the counts are
found in the response, or their estimate costs the same. -/
theorem managed_spend_agrees_iff (float literal : String → Option ℚ) (env : Provider.Env) (messages : List Json.Fields)
    {provider : PyText.Text} {shape : Shape} {model response usage : Json.Fields} {inputTokens outputTokens : ℚ}
    (h : Reports literal env provider shape model response inputTokens outputTokens usage)
    {routed : RoutedModel} {profile : Fields} {inputPrice outputPrice : ℚ}
    (hprofile : get profile "input_price_per_million" = routed.inputPricePerMillion ∧
      get profile "output_price_per_million" = routed.outputPricePerMillion)
    (hinput : signedPrice float routed.inputPricePerMillion = .ok inputPrice)
    (houtput : signedPrice float routed.outputPricePerMillion = .ok outputPrice) :
    (∀ metadataUsage, usageTokens float (some metadataUsage) true = .ok (inputTokens, outputTokens) →
      verifiedUsageSpendUsd float profile (some metadataUsage) true
          (.number (managedSpendUsd float literal env routed messages response)) =
        .ok (managedSpendUsd float literal env routed messages response)) ↔
    ChargedAlike shape (estimatedInputTokens env messages) inputTokens outputTokens inputPrice outputPrice := by
  rw [managedSpendUsd_eq h messages hinput houtput, ← chargedAlike_iff]
  have hverified {metadataUsage : Fields} (spendUsd : ℚ)
      (htokens : usageTokens float (some metadataUsage) true = .ok (inputTokens, outputTokens)) :
      verifiedUsageSpendUsd float profile (some metadataUsage) true (.number spendUsd) = .ok spendUsd ↔ _ :=
    verifiedUsageSpendUsd_ok_iff htokens (by rw [hprofile.1]; exact hinput) (by rw [hprofile.2]; exact houtput)
  constructor
  · intro hall
    have htokens := usageTokens_reported float h.input_nonneg h.output_nonneg
    exact ((hverified _ htokens).1 (hall _ htokens)).1
  · intro heq metadataUsage htokens
    have hcost : 0 ≤ costUsd inputTokens outputTokens inputPrice outputPrice :=
      costUsd_nonneg h.input_nonneg h.output_nonneg (signedPrice_ok_iff.1 hinput).2 (signedPrice_ok_iff.1 houtput).2
    rw [heq]
    exact (hverified _ htokens).2 ⟨rfl, _, finiteProfileNumber_number _ _, Round.round_nonneg hcost, Round.round_round _ _⟩

/-! ## Responses of two providers -/

namespace ManagedExample

def plainEnv : Provider.Env where
  repr _ := []
  lower t := t

/-- A model at a dollar for a million tokens. -/
def profile : Fields := Table.ofList [("input_price_per_million", .number 1), ("output_price_per_million", .number 1)]

def routed : RoutedModel where
  modelId := "flash"
  provider := "gemini"
  biencoderScore := .number 1
  inputPricePerMillion := .number 1
  outputPricePerMillion := .number 1
  contextWindow := .number 100000
  supportsTools := true
  supportsJson := true

/-- A message of eight characters, with its role. -/
def messages : List Json.Fields := [[("role", .str "user".toList), ("content", .str "hi".toList)]]

def geminiUsage : Json.Fields := [("promptTokenCount", .int 2), ("candidatesTokenCount", .int 1000)]

def geminiResponse : Json.Fields :=
  [("candidates", .arr [.obj [("content", .obj [("parts", .arr [.obj [("text", .str "ok".toList)]])])]]),
    ("usageMetadata", .obj geminiUsage)]

def anthropicUsage : Json.Fields := [("input_tokens", .int 0), ("output_tokens", .int 1000)]

def anthropicResponse : Json.Fields :=
  [("content", .arr [.obj [("type", .str "text".toList), ("text", .str "ok".toList)]]), ("usage", .obj anthropicUsage)]

theorem gemini_reports : Reports (fun _ => none) plainEnv "gemini".toList .gemini [] geminiResponse 2 1000 geminiUsage where
  place := rfl
  alone _ := rfl
  recognised := ⟨_, rfl, rfl⟩
  input := rfl
  output := rfl
  others := by
    intro name hname _ _
    simp only [inputAliases, outputAliases, List.cons_append, List.nil_append, List.mem_cons, List.not_mem_nil, or_false] at hname
    rcases hname with rfl | rfl | rfl | rfl | rfl | rfl | rfl | rfl <;> rfl
  input_nonneg := by norm_num
  output_nonneg := by norm_num

theorem anthropic_reports :
    Reports (fun _ => none) plainEnv "anthropic".toList .anthropic [] anthropicResponse 0 1000 anthropicUsage where
  place := rfl
  alone := nofun
  recognised := ⟨_, rfl, rfl⟩
  input := rfl
  output := rfl
  others := by
    intro name hname hin hout
    simp only [inputAliases, outputAliases, List.cons_append, List.nil_append, List.mem_cons, List.not_mem_nil, or_false] at hname
    rcases hname with rfl | rfl | rfl | rfl | rfl | rfl | rfl | rfl <;> first | rfl | exact absurd rfl hin | exact absurd rfl hout
  input_nonneg := le_rfl
  output_nonneg := by norm_num

theorem price_ok : signedPrice (fun _ => none) (.number 1) = .ok 1 := by decide +kernel

end ManagedExample

open ManagedExample

/-- A call of Gemini is charged for an estimate of its input, and for none of its output. -/
theorem gemini_output_uncharged : ¬∀ (float literal : String → Option ℚ) (env : Provider.Env) (messages : List Json.Fields)
    (provider : PyText.Text) (shape : Shape) (model response usage : Json.Fields) (inputTokens outputTokens : ℚ) (routed : RoutedModel)
    (profile metadataUsage : Fields) (inputPrice outputPrice : ℚ),
    Reports literal env provider shape model response inputTokens outputTokens usage →
    get profile "input_price_per_million" = routed.inputPricePerMillion →
    get profile "output_price_per_million" = routed.outputPricePerMillion →
    signedPrice float routed.inputPricePerMillion = .ok inputPrice → signedPrice float routed.outputPricePerMillion = .ok outputPrice →
    usageTokens float (some metadataUsage) true = .ok (inputTokens, outputTokens) →
    verifiedUsageSpendUsd float profile (some metadataUsage) true
        (.number (managedSpendUsd float literal env routed messages response)) =
      .ok (managedSpendUsd float literal env routed messages response) := by
  intro h
  have hspend := h (fun _ => none) (fun _ => none) plainEnv messages "gemini".toList .gemini [] geminiResponse geminiUsage 2 1000 routed
    profile (reportedUsage 2 1000) 1 1 gemini_reports rfl rfl (by decide +kernel) (by decide +kernel) (by decide +kernel)
  exact absurd hspend (by decide +kernel)

/-- A call of Anthropic is charged what it costs, also where it has no input. -/
theorem anthropic_spend_agrees :
    verifiedUsageSpendUsd (fun _ => none) profile (some (reportedUsage 0 1000)) true
        (.number (managedSpendUsd (fun _ => none) (fun _ => none) plainEnv routed messages anthropicResponse)) =
      .ok (managedSpendUsd (fun _ => none) (fun _ => none) plainEnv routed messages anthropicResponse) :=
  (managed_spend_agrees_iff (fun _ => none) (fun _ => none) plainEnv messages anthropic_reports ⟨rfl, rfl⟩
    price_ok price_ok).2 trivial (reportedUsage 0 1000) (usageTokens_reported _ le_rfl (by norm_num))

end Usage

end PromptRail
