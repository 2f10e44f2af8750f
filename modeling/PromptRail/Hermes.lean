import PromptRail.Usage.Agreement
import PromptRail.Usage.Managed

/-!
# The execution of a selected model (`plugin.py`)

Hermes passes every call of a model through a middleware of LeRouter. The middleware asks LeRouter for a selection, switches the agent
to the selected model, rebuilds the request for it and executes the call. Whatever comes of it is reported to LeRouter in a usage log:
a response with what it has cost, a failure with a spend of zero.
-/

namespace PromptRail

open PyText (Text strip)
open Json (Value get? set truthy)
open Provider (field orElse isPresent asDict itemsOf)

namespace Hermes

/-- The exceptions that the middleware tells apart. -/
inductive Kind where
  | failClosed
  | capabilityMismatch
  | other
deriving DecidableEq

/-- An exception, with the text that `str` prints of it. -/
structure Exn where
  kind : Kind
  message : Text
deriving DecidableEq

/-- An exception without a meaning of its own. -/
def runtimeError (message : Text) : Exn := ⟨.other, message⟩

/-- A `MiddlewareFailClosedError`. -/
def failClosed (message : Text) : Exn := ⟨.failClosed, message⟩

/-- What a provider returns: the fields of a dictionary, or the attributes of an object, which may refuse a new one. -/
structure Response where
  fields : Json.Fields
  sealed : Bool := false

/-- The model and the provider that an agent is on. -/
structure Agent where
  model : Value
  provider : Value

/-- A request that the agent has rebuilt, and the agent that will execute it. -/
structure Prepared where
  request : Json.Fields
  agent : Agent

/-- What `_usage_payload` makes for the log of a call. -/
structure Payload where
  userId : Text
  routeId : Value
  routeName : Value
  modelId : Value
  provider : Value
  inferenceMode : Value
  accountingToken : Text
  success : Bool
  spendUsd : ℚ
  routingCallId : Text
  usage : Json.Fields
  error : Option Text

/-- What is outside of the middleware: the numbers that texts and literals spell, the redaction of messages, Hermes with its agent and its
provider calls, and LeRouter. What is asked of the agent is asked for each of the candidates. -/
structure Host where
  env : Provider.Env
  float : String → Option ℚ
  literal : String → Option ℚ
  safeErrorMessage : Text → Text
  lerouterDisable : Text
  nextCall : Option (Except Exn Response)
  loadState : Except Exn Json.Fields
  hasAgent : Bool
  baseRequest : Except Exn Json.Fields
  select : Except Exn Json.Fields
  agent : Nat → Agent
  switchModel : Nat → Except Exn Bool
  rebuild : Nat → Except Exn Prepared
  directCall : Nat → Option (Except Exn Response)
  generationIds : List Text
  openrouterApiKey : Option Text
  generation : Text → Except Exn Json.Fields
  usageLog : Payload → Except Exn Unit

/-- A candidate of a selection. -/
structure Attempt where
  entry : Json.Fields
  selection : Json.Fields

/-- What a run of the middleware comes to: the provider calls it has made and what came of them, the usage logs it has sent, and the
response it returns or the exception it raises. -/
structure Run where
  calls : List (Except Exn Response)
  logs : List Payload
  outcome : Except Exn Response

/-- A run of the middleware without a call and a log. -/
def Run.raise (error : Exn) : Run := ⟨[], [], .error error⟩

/-! ## Values -/

/-- `str(value or '').strip()`. -/
def cleanText (env : Provider.Env) (value : Value) : Text := strip (env.str (orElse value (.str [])))

/-- `a == b`, of ids. -/
def sameId : Value → Value → Bool
  | .str a, .str b => a == b
  | .null, .null => true
  | _, _ => false

/-- `{**fields, **more}`. -/
def merge (fields more : Json.Fields) : Json.Fields := more.foldl (fun merged p => set merged p.1 p.2) fields

/-- A marker occurs in a text. -/
def hasMarker (text : Text) (marker : String) : Bool := decide (marker.toList <:+: text)

/-! ## The candidate -/

/-- `ROUTER_SELECTION_SCORE_FIELDS`, `SIGNED_ACCOUNTING_PROFILE_FIELDS` and `ROUTER_EXECUTION_CAPABILITY_FIELDS`. -/
def overriddenFields : List String :=
  ["model_lab", "biencoder_source", "biencoder_rank", "biencoder_score", "biencoder_probability", "candidate_optimizer_score",
    "switch_cost_penalty", "prompt_cache_loss_usd", "continued_model_cache_savings_usd", "cache_pricing_available",
    "cache_stickiness_bonus", "cache_stickiness_bonus_multiplier", "cacheable_input_tokens",
    "cached_input_price_difference_per_million", "budget_malus", "request_budget_usd", "expected_price_usd", "request_weight",
    "final_score", "quality", "input_price_per_million", "output_price_per_million", "input_cache_read_usd_per_million",
    "input_cache_write_usd_per_million", "supports_tools", "supports_json", "supports_reasoning_effort"]

/-- The first entry of a catalog that a test holds of; the test reads a field, which only a dictionary has. -/
def firstEntry (test : Json.Fields → Bool) : List Value → Except Exn (Option Json.Fields)
  | [] => .ok none
  | .obj entry :: rest => if test entry then .ok (some entry) else firstEntry test rest
  | _ :: _ => .error (runtimeError "object has no attribute 'get'".toList)

/-- All the entries of a catalog that a test holds of. -/
def allEntries (test : Json.Fields → Bool) : List Value → Except Exn (List Json.Fields)
  | [] => .ok []
  | .obj entry :: rest => (allEntries test rest).map fun entries => if test entry then entry :: entries else entries
  | _ :: _ => .error (runtimeError "object has no attribute 'get'".toList)

/-- The model that a selection names. -/
def selectedModel (selection : Json.Fields) : Json.Fields :=
  ((asDict (field selection "selected_model")).or (asDict (field selection "best_model"))).getD []

/-- The entry of the catalog that a selection names: by its id, by its native id and provider, or by a native id that is unique. -/
def catalogEntry (catalog : List Value) (selectedModelId nativeModelId provider : Value) : Except Exn (Option Json.Fields) := do
  let byId ← if truthy selectedModelId then firstEntry (fun entry => sameId (field entry "model_id") selectedModelId) catalog
    else .ok none
  let byNative ← if byId.isNone && truthy nativeModelId && truthy provider then
      firstEntry (fun entry => sameId (field entry "native_model_id") nativeModelId && sameId (field entry "provider") provider) catalog
    else .ok byId
  if byNative.isNone && truthy nativeModelId then
    let found ← allEntries (fun entry => sameId (field entry "native_model_id") nativeModelId) catalog
    return (match found with
      | [entry] => some entry
      | _ => none)
  else return byNative

/-- The entry of a catalog with what the selected model says of it. -/
def mergedEntry (entry model : Json.Fields) : Json.Fields :=
  let merged := overriddenFields.foldl (fun merged name => if isPresent (field model name) then set merged name (field model name)
    else merged) entry
  match field model "budget_result" with
  | .obj result => set merged "budget_result" (.obj result)
  | _ => merged

/-- `_find_catalog_entry`. -/
def findCatalogEntry (state selection : Json.Fields) : Except Exn (Option Json.Fields) := do
  let model := selectedModel selection
  let catalog ← match itemsOf (field state "model_catalog") with
    | some items => .ok items
    | none => .error (runtimeError "object is not iterable".toList)
  let entry ← catalogEntry catalog
    (orElse (field selection "selected_model_id") (orElse (field selection "model_id") (field model "model_id")))
    (orElse (field selection "native_model_id") (field model "native_model_id"))
    (orElse (field selection "provider") (orElse (field selection "selected_provider") (field model "provider")))
  return entry.map fun entry => mergedEntry entry model

/-- The id under which a selection is accounted. -/
def accountingCallId (env : Provider.Env) (selection : Json.Fields) : Text := cleanText env (field selection "routing_call_id")

/-- `_require_accounting_claim`. -/
def requireAccountingClaim (env : Provider.Env) (selection : Json.Fields) : Except Exn (Text × Text) :=
  let missing := ["routing_call_id", "accounting_token"].filter fun name => cleanText env (field selection name) == []
  if missing = [] then .ok (accountingCallId env selection, cleanText env (field selection "accounting_token"))
  else .error (runtimeError
    ("LeRouter selection response is missing required signed accounting fields: " ++ ", ".intercalate missing).toList)

/-- The candidates of a selection; only the first is executed. -/
def executedCandidates (selection : Json.Fields) : List Value :=
  (match field selection "execution_candidates" with
    | .arr (candidate :: candidates) => candidate :: candidates
    | _ => [.obj selection]).take 1

/-- `_entry_key`. -/
def entryKey (entry : Json.Fields) : Value × Value × Value :=
  (field entry "model_id", field entry "provider", field entry "native_model_id")

/-- The keys are the same. -/
def sameKey (a b : Value × Value × Value) : Bool := sameId a.1 b.1 && sameId a.2.1 b.2.1 && sameId a.2.2 b.2.2

/-- The loop of `_candidate_attempts`. -/
def candidateAttemptsFrom (env : Provider.Env) (state selection : Json.Fields) (seen : List (Value × Value × Value)) :
    List Value → Except Exn (List Attempt)
  | [] => .ok []
  | .obj candidate :: candidates => do
    let candidateSelection := merge selection candidate
    match ← findCatalogEntry state candidateSelection with
    | none => candidateAttemptsFrom env state selection seen candidates
    | some entry =>
      if seen.any (sameKey (entryKey entry)) then candidateAttemptsFrom env state selection seen candidates
      else
        let _ ← requireAccountingClaim env candidateSelection
        let attempts ← candidateAttemptsFrom env state selection (entryKey entry :: seen) candidates
        return ⟨entry, candidateSelection⟩ :: attempts
  | _ :: candidates => candidateAttemptsFrom env state selection seen candidates

/-- `_candidate_attempts`. -/
def candidateAttempts (env : Provider.Env) (state selection : Json.Fields) : Except Exn (List Attempt) :=
  candidateAttemptsFrom env state selection [] (executedCandidates selection)

end Hermes

end PromptRail
