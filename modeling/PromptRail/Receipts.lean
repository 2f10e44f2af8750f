import PromptRail.Library.JsNumber

/-!
# Execution receipts (`api/infinite/internal/receipts/route.js`)

The receipt of an execution is made anew from the fields of a body that are named, each converted. The number in `id` and the time are
parameters. The fields of an object that is stored stand in the order of their assignment.
-/

namespace PromptRail.Receipts

open PyText (Text)
open Js (Value Double)

def CAPACITY_CLASSES : List Text := ["managed_free".toList, "user_free".toList, "user_subscription".toList]

/-! ## What is stored -/

structure ShadowDecision where
  policyVersion : Text
  candidateIds : List Text
  capacityClasses : List (Text × Text)
  predictedSuccess : List (Text × Double)
  selectedHypotheticalRoute : Text
  decisionLatencyMs : Double
  capabilityRejectionReasons : List (Text × List Text)
deriving DecidableEq

structure Attempt where
  provider : Text
  connectionIdHash : Text
  result : Text
  dispatched : Bool
  latencyMs : Double
deriving DecidableEq

structure Receipt where
  id : Text
  routeId : Text
  tenantId : Text
  policyVersion : Text
  catalogVersion : Text
  virtualModel : Text
  selectedModel : Text
  executedModel : Text
  capacityClass : Text
  premiumUsed : Bool
  degradedFreeOnly : Bool
  attempts : List Attempt
  inputTokens : Double
  outputTokens : Double
  estimatedCostUsd : Double
  decisionLatencyMs : Double
  preDispatchLatencyMs : Double
  totalLatencyMs : Double
  shadowDecision : Option ShadowDecision
  createdAt : Nat
deriving DecidableEq

/-! ## The shadow decision -/

/-- `value === true`. -/
def isTrue : Value → Bool
  | .bool b => b
  | _ => false

/-- `String(value || "")`. -/
def textOf (value : Value) : Except String Text := Js.string (value.or (.str []))

/-- `[...new Set(input.candidate_ids.map(String))].slice(0, 50)`. -/
def candidateIdsOf (input : Value) : Except String (List Text) :=
  match input.field "candidate_ids" with
  | .arr ids => (ids.mapM Js.string).map fun texts => texts.eraseDups.take 50
  | _ => .ok []

/-- The capacity class of a candidate. What a prototype has under a name is a function or an object, whose text is no class. -/
def capacityClassOf (input : Value) (candidateId : Text) : Except String Text := do
  let capacityClass ← textOf (((input.field "capacity_classes").own candidateId).getD .null)
  if capacityClass ∉ CAPACITY_CLASSES then
    throw "Invalid shadow capacity class."
  return capacityClass

/-- The predicted success of a candidate that has one. -/
def predictionOf (input : Value) (candidateId : Text) : Except String (Option Double) :=
  match ((input.field "predicted_success").or (.obj [])).own candidateId with
  | some value => do
    let prediction ← Js.number value
    if prediction.isFinite = false ∨ prediction.lt (.finite 0) = true ∨ (Double.finite 1).lt prediction = true then
      throw "Invalid shadow predicted success."
    return some prediction
  | none => .ok none

/-- `capacityClasses` and `predictedSuccess`, as the loop fills them. -/
structure Candidates where
  capacityClasses : List (Text × Text) := []
  predictedSuccess : List (Text × Double) := []

def addCandidate (input : Value) (candidates : Candidates) (candidateId : Text) : Except String Candidates := do
  let capacityClass ← capacityClassOf input candidateId
  let prediction ← predictionOf input candidateId
  return {
    capacityClasses := Js.assign candidates.capacityClasses candidateId capacityClass
    predictedSuccess :=
      match prediction with
      | some prediction => Js.assign candidates.predictedSuccess candidateId prediction
      | none => candidates.predictedSuccess }

/-- A turn of the loop over `capability_rejection_reasons`. -/
def addReasons (allowedIds : List Text) (rejectionReasons : List (Text × List Text)) (entry : Text × Value) :
    Except String (List (Text × List Text)) :=
  match entry.2 with
  | .arr reasons =>
    if entry.1 ∈ allowedIds then
      (reasons.mapM Js.string).map fun texts => Js.assign rejectionReasons entry.1 (texts.take 20)
    else .ok rejectionReasons
  | _ => .ok rejectionReasons

/-- What `sanitizeShadowDecision` makes of an object. -/
def shadowDecisionOf (input : Value) : Except String ShadowDecision := do
  let candidateIds ← candidateIdsOf input
  let candidates ← candidateIds.foldlM (addCandidate input) {}
  let rejectionReasons ←
    ((input.field "capability_rejection_reasons").or (.obj [])).entries.foldlM (addReasons candidateIds) []
  let selected ← textOf (input.field "selected_hypothetical_route")
  if selected ∉ candidateIds then
    throw "Invalid shadow selected route."
  let policyVersion ← textOf (input.field "policy_version")
  let latency ← Js.number ((input.field "decision_latency_ms").or (.number ['0']))
  return {
    policyVersion
    candidateIds
    capacityClasses := candidates.capacityClasses
    predictedSuccess := candidates.predictedSuccess
    selectedHypotheticalRoute := selected
    decisionLatencyMs := Double.max (.finite 0) latency
    capabilityRejectionReasons := rejectionReasons }

def sanitizeShadowDecision (input : Value) : Except String (Option ShadowDecision) :=
  match input with
  | .obj _ => (shadowDecisionOf input).map some
  | _ => .ok none

/-! ## The receipt -/

/-- `value ?? 0`. -/
def orZero : Value → Value
  | .null => .number ['0']
  | value => value

def finiteNonNegative (value : Value) (field : String) : Except String Double := do
  let parsed ← Js.number (orZero value)
  if parsed.isFinite = false ∨ parsed.lt (.finite 0) = true then
    throw ("Invalid " ++ field ++ ".")
  return parsed

def attemptOf (attempt : Value) : Except String Attempt := do
  let provider ← textOf (attempt.field "provider")
  let connectionIdHash ← textOf (attempt.field "connection_id_hash")
  let result ← Js.string ((attempt.field "result").or (.str "unknown".toList))
  let latencyMs ← finiteNonNegative (attempt.field "latency_ms") "attempt latency"
  return { provider, connectionIdHash, result, dispatched := isTrue (attempt.field "dispatched"), latencyMs }

/-- `Array.isArray(input.attempts) ? input.attempts.slice(0, 3) : []`. -/
def attemptsOf (input : Value) : List Value :=
  match input.field "attempts" with
  | .arr attempts => attempts.take 3
  | _ => []

/-- The identities and models of a receipt, which are texts. -/
structure Texts where
  routeId : Text
  tenantId : Text
  policyVersion : Text
  catalogVersion : Text
  selectedModel : Text
  executedModel : Text

def textsOf (input : Value) : Except String Texts := do
  let routeId ← Js.string (input.field "route_id")
  let tenantId ← Js.string (input.field "tenant_id")
  let policyVersion ← Js.string (input.field "policy_version")
  let catalogVersion ← Js.string (input.field "catalog_version")
  let selectedModel ← textOf (input.field "selected_model")
  let executedModel ← textOf (input.field "executed_model")
  return { routeId, tenantId, policyVersion, catalogVersion, selectedModel, executedModel }

/-- The checks before anything is made, and the capacity class. -/
def checkBody (input : Value) : Except String Text := do
  let capacityClass ← textOf (input.field "capacity_class")
  let routeId ← textOf (input.field "route_id")
  if ¬"route_".toList <+: routeId then
    throw "Invalid route ID."
  if (input.field "tenant_id").truthy = false ∨ (input.field "policy_version").truthy = false ∨
      (input.field "catalog_version").truthy = false then
    throw "Receipt identity and versions are required."
  if capacityClass ∉ CAPACITY_CLASSES then
    throw "Invalid capacity class."
  return capacityClass

def sanitizeReceipt (uuid : Text) (now : Nat) (input : Value) : Except String Receipt := do
  let capacityClass ← checkBody input
  let shadowDecision ← sanitizeShadowDecision (input.field "shadow_decision")
  let texts ← textsOf input
  let attempts ← (attemptsOf input).mapM attemptOf
  let inputTokens ← finiteNonNegative (input.field "input_tokens") "input token count"
  let outputTokens ← finiteNonNegative (input.field "output_tokens") "output token count"
  let estimatedCostUsd ← finiteNonNegative (input.field "estimated_cost_usd") "estimated cost"
  let decisionLatencyMs ← finiteNonNegative (input.field "decision_latency_ms") "decision latency"
  let preDispatchLatencyMs ← finiteNonNegative (input.field "pre_dispatch_latency_ms") "pre-dispatch latency"
  let totalLatencyMs ← finiteNonNegative (input.field "total_latency_ms") "total latency"
  return {
    id := "receipt_".toList ++ uuid
    routeId := texts.routeId
    tenantId := texts.tenantId
    policyVersion := texts.policyVersion
    catalogVersion := texts.catalogVersion
    virtualModel := "promptrail/infinite".toList
    selectedModel := texts.selectedModel
    executedModel := texts.executedModel
    capacityClass
    premiumUsed := (input.field "premium_used").truthy
    degradedFreeOnly := (input.field "degraded_free_only").truthy
    attempts
    inputTokens
    outputTokens
    estimatedCostUsd
    decisionLatencyMs
    preDispatchLatencyMs
    totalLatencyMs
    shadowDecision
    createdAt := now }

end PromptRail.Receipts
