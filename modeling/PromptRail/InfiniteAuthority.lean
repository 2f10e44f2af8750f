import Mathlib.Algebra.Order.Ring.Rat
import Mathlib.Data.List.Sort
import PromptRail.Library.Collection
import PromptRail.Library.JsValue
import PromptRail.Library.Outcome
import PromptRail.Site.Subscriptions

/-!
# What an API key authorises (`lib/infiniteRequestAuthority.js`)

The answer to an API key is assembled from five collections. A policy or a candidate is of a tenant, or of no tenant and so of all; what
else such a document holds is any object. A document of the other collections is as the code that inserts it writes it, and a connection
may have been given a priority.
-/

namespace PromptRail

namespace InfiniteAuthority

open PyText (Text)
open Js (Value)
open Collection (upsertOne)

/-! ## Rows -/

/-- A document of `api_keys`: what is projected, and the digest that it is found by. -/
structure ApiKey where
  keyHash : Text
  id : Text
  userId : Option Text
  kind : Option Text
  scopes : Option (List Text)
  revokedAt : Option Nat

/-- A document of `infinite_tenant_policies`. -/
structure Policy where
  tenantId : Option Text
  document : Value

/-- A document of `infinite_candidates`. -/
structure CandidateRow where
  tenantId : Option Text
  enabled : Bool
  document : Value

/-- A document of `infinite_provider_connections`, as it is projected. -/
structure Connection where
  id : Text
  userId : Option Text
  provider : Text
  capacityClass : Text
  admissionStatus : Text
  status : Text
  priority : Option ℚ := none

/-- The collections. -/
structure Database where
  apiKeys : List ApiKey := []
  entitlements : List Site.Entitlement := []
  policies : List Policy := []
  candidates : List CandidateRow := []
  connections : List Connection := []

/-- What the code does not decide: SHA-256, and the order of `localeCompare`. -/
structure Env where
  sha256 : Text → Text
  localeLe : Text → Text → Bool
  localeLe_total : ∀ a b, localeLe a b = true ∨ localeLe b a = true
  localeLe_trans : ∀ a b c, localeLe a b = true → localeLe b c = true → localeLe a c = true

/-! ## Fields -/

/-- `CANDIDATE_RESPONSE_FIELDS`. -/
def candidateResponseFields : List String :=
  ["candidateId", "provider", "model", "capacityClass", "admissionStatus", "baseUrl", "wireApi", "executorMode", "quality", "priority"]

/-- `CAPABILITY_RESPONSE_FIELDS`. -/
def capabilityResponseFields : List String :=
  ["contextWindow", "toolCalling", "vision", "structuredOutput", "reasoning", "streaming", "maximumOutputTokens"]

/-- `OPERATIONAL_RESPONSE_FIELDS`. -/
def operationalResponseFields : List String :=
  ["healthy", "quotaKnown", "quotaRemainingFraction", "reserveFloor", "recentLatencyMs", "recentFailureRate",
    "estimatedRequestCostUsd"]

/-- `SEMANTIC_RESPONSE_FIELDS`. -/
def semanticResponseFields : List String := ["profileText", "completionSuccessPrior"]

/-- `POLICY_RESPONSE_FIELDS`. -/
def policyResponseFields : List String :=
  ["policyVersion", "catalogVersion", "freeQualityFloor", "modelVariationCoefficient", "allowReserveUse", "maximumAttempts",
    "deadlineMs"]

/-- `pickFields`. -/
def pickFields (value : Value) (fields : List String) : List (Text × Value) :=
  fields.filterMap fun field => (value.get? field).map fun x => (field.toList, x)

/-- `policyResponse`. -/
def policyResponse (policy : Value) : List (Text × Value) :=
  let response := pickFields policy policyResponseFields
  if response.any (·.1 = "modelVariationCoefficient".toList) then response
  else response ++ [("modelVariationCoefficient".toList, .number "0.75".toList)]

/-! ## Candidates -/

/-- `ROUTABLE_CAPACITY_CLASSES`. -/
def routableCapacityClasses : List Text := ["managed_free".toList, "user_free".toList, "user_subscription".toList]

/-- The classes whose requests cost nothing. -/
def freeCapacityClasses : List Text := ["managed_free".toList, "user_free".toList]

/-- `texts.includes(value)`. -/
def isOneOf (texts : List Text) (value : Value) : Bool := texts.any value.isText

/-- `value === 0`. -/
def isZero : Value → Bool
  | .number literal => literal = "0".toList
  | _ => false

/-- `candidateIsRoutable`. -/
def candidateIsRoutable (candidate : Value) : Except String Bool :=
  if isOneOf routableCapacityClasses (candidate.field "capacityClass") = false then .ok false
  else if isOneOf freeCapacityClasses (candidate.field "capacityClass") = true ∧
      isZero ((candidate.field "operationalState").field "estimatedRequestCostUsd") = false then .ok false
  else if (candidate.field "provider").isText "openrouter".toList = true ∧
      (candidate.field "capacityClass").isText "user_free".toList = true then
    if (candidate.field "model").isText "openrouter/free".toList = true then .ok false
    else (Js.string ((candidate.field "model").or (.str []))).map fun model => ":free".toList.isSuffixOf model
  else .ok true

/-- `selectTenantPolicy`. -/
def selectTenantPolicy (policies : List Policy) (tenantId : Text) : Option Policy :=
  (policies.find? fun policy => policy.tenantId.getD [] = tenantId).or (policies.find? fun policy => policy.tenantId = none)

/-- A candidate of the answer. -/
structure Candidate where
  fields : List (Text × Value)
  connectionIds : List Text
  capabilities : List (Text × Value)
  operationalState : List (Text × Value)
  semanticProfile : List (Text × Value)

/-- `candidateResponse`. -/
def candidateResponse (candidate : Value) (connectionIds : List Text) : Candidate where
  fields := pickFields candidate candidateResponseFields
  connectionIds
  capabilities := pickFields (candidate.field "capabilities") capabilityResponseFields
  operationalState := pickFields (candidate.field "operationalState") operationalResponseFields
  semanticProfile := pickFields (candidate.field "semanticProfile") semanticResponseFields

/-- `String(candidate?.candidateId || "").trim()`. -/
def CandidateRow.candidateId (candidate : CandidateRow) : Except String Text :=
  (Js.string ((candidate.document.field "candidateId").or (.str []))).map Js.trim

/-- The row of each identifier, in the order in which the identifiers were first met. -/
abbrev Selected := List (Text × CandidateRow)

/-- One turn of the loop of `candidateForTenant`. -/
def select (tenantId : Text) (selected : Selected) (candidate : CandidateRow) : Except String Selected :=
  candidate.candidateId.map fun candidateId =>
    if candidateId = [] then selected
    else
      match selected.find? fun entry => entry.1 = candidateId with
      | some existing =>
        if candidate.tenantId.getD [] = tenantId ∧ existing.2.tenantId.getD [] ≠ tenantId then
          upsertOne (fun entry => entry.1 = candidateId) (fun _ => (candidateId, candidate)) (candidateId, candidate) selected
        else selected
      | none => upsertOne (fun entry => entry.1 = candidateId) (fun _ => (candidateId, candidate)) (candidateId, candidate) selected

/-- `String(candidate.candidateId)`, of a candidate that the loop has read. -/
def CandidateRow.sortKey (candidate : CandidateRow) : Text := (Js.toText (candidate.document.field "candidateId")).getD []

/-- `candidateForTenant`. -/
def candidateForTenant (env : Env) (candidates : List CandidateRow) (tenantId : Text) : Except String (List CandidateRow) :=
  (candidates.foldlM (select tenantId) []).map fun selected =>
    (selected.map Prod.snd).insertionSort fun left right => env.localeLe left.sortKey right.sortKey = true

/-! ## Connections -/

/-- `normalizedConnectionId`. -/
def normalizedConnectionId (connection : Connection) : Text := Js.trim connection.id

/-- The connections of a tenant that may serve a candidate. -/
def isActive (tenantId : Text) (connection : Connection) : Bool :=
  connection.userId.getD [] = tenantId ∧ connection.status = "active".toList ∧ connection.capacityClass ∈ routableCapacityClasses ∧
    normalizedConnectionId connection ≠ []

/-- The order of connections: by `priority`, and then by identifier. -/
def InOrder (env : Env) (left right : Connection) : Prop :=
  left.priority.getD 0 < right.priority.getD 0 ∨
    left.priority.getD 0 = right.priority.getD 0 ∧
      env.localeLe (normalizedConnectionId left) (normalizedConnectionId right) = true

instance (env : Env) : DecidableRel (InOrder env) := fun _ _ => inferInstanceAs (Decidable (_ ∨ _ ∧ _))

/-- The connection is at the provider of a candidate, and has its capacity class and its admission status. -/
def serves (candidate : Value) (connection : Connection) : Bool :=
  (candidate.field "provider").isText connection.provider && (candidate.field "capacityClass").isText connection.capacityClass &&
    (candidate.field "admissionStatus").isText connection.admissionStatus

/-- The connections that a candidate lists. -/
def connectionIds (candidate : Value) (activeConnections : List Connection) : Except String (List Text) :=
  if (candidate.field "connectionSource").isText "static".toList then
    match candidate.field "connectionIds" with
    | .arr xs => (xs.mapM Js.string).map fun ids => (ids.filter (· ≠ [])).eraseDups
    | _ => .ok []
  else if (candidate.field "connectionSource").isText "tenant_provider".toList then
    .ok ((activeConnections.filter (serves candidate)).map normalizedConnectionId)
  else .ok []

/-- `materializeTenantCandidates`. -/
def materializeTenantCandidates (env : Env) (candidates : List CandidateRow) (connections : List Connection) (tenantId : Text) :
    Except String (List Candidate) := do
  let forTenant ← candidateForTenant env candidates tenantId
  let routable ← forTenant.mapM fun candidate => do return (candidate, ← candidateIsRoutable candidate.document)
  let scopedCandidates := (routable.filter (·.2)).map (·.1)
  let activeConnections := (connections.filter (isActive tenantId)).insertionSort (InOrder env)
  let listed ← scopedCandidates.mapM fun candidate => do return (candidate, ← connectionIds candidate.document activeConnections)
  return (listed.filter fun p => p.2 ≠ []).map fun p => candidateResponse p.1.document p.2

/-! ## Requests -/

/-- Whose key it is. -/
structure Identity where
  keyId : Text
  tenantId : Text
  scopes : List Text
deriving DecidableEq

/-- `validateInfiniteApiKeyRecord`. -/
def validateInfiniteApiKeyRecord (apiKey : ApiKey) : Option Identity :=
  if apiKey.userId.getD [] = [] ∨ apiKey.revokedAt ≠ none then none
  else
    let scopes := apiKey.scopes.getD []
    if apiKey.kind ≠ some "infinite".toList ∨ "infinite:infer".toList ∉ scopes then none
    else some { keyId := apiKey.id, tenantId := apiKey.userId.getD [], scopes }

/-- What `authorizeInfiniteRequest` answers; a refusal tells whose the key is and what they have access to, where it is known. -/
inductive Response where
  | refused (status : Nat) (code : String) (known : Option (Identity × Site.InfiniteAccess))
  | authorized (identity : Identity) (access : Site.InfiniteAccess) (policy : List (Text × Value)) (candidates : List Candidate)

/-- A condition of a query on a field, which an array meets if one of its elements does. -/
def meets (condition : Value → Bool) : Value → Bool
  | .arr xs => xs.any condition
  | value => condition value

/-- The condition of a query on `tenantId`: it is of the tenant, or of none. -/
def inScope (tenantId : Text) (of : Option Text) : Bool := of = some tenantId ∨ of = none

/-- `policy.allowedCandidateIds`. -/
def allowedCandidateIds (policy : Policy) : Except String (List Text) :=
  match policy.document.field "allowedCandidateIds" with
  | .arr xs => xs.mapM Js.string
  | _ => .ok []

/-- The query of the candidates. -/
def candidateRows (database : Database) (tenantId : Text) (allowedCandidateIds : List Text) : List CandidateRow :=
  database.candidates.filter fun row =>
    meets (isOneOf allowedCandidateIds) (row.document.field "candidateId") && row.enabled && inScope tenantId row.tenantId

/-- The query of the connections. -/
def providerConnections (database : Database) (tenantId : Text) (candidateRows : List CandidateRow) : List Connection :=
  let dynamicCandidates := candidateRows.filter fun row => (row.document.field "connectionSource").isText "tenant_provider".toList
  let providers := dynamicCandidates.map fun row => row.document.field "provider"
  database.connections.filter fun connection =>
    decide (connection.userId = some tenantId) && decide (connection.status = "active".toList) &&
      providers.any fun provider => provider.isText connection.provider

/-- `authorizeInfiniteRequest`, of a key that is valid. -/
def authorizeTenant (env : Env) (database : Database) (identity : Identity) : Except String Response :=
  let entitlementRows := database.entitlements.filter fun row =>
    decide (row.userId.toList = identity.tenantId) && Site.infiniteProducts.contains row.product
  let access := Site.buildInfiniteAccessSnapshot entitlementRows
  if access.allowed = false then .ok (.refused 402 "infinite_entitlement_required" (some (identity, access)))
  else
    let policyRows := database.policies.filter fun row => inScope identity.tenantId row.tenantId
    match selectTenantPolicy policyRows identity.tenantId with
    | none => .ok (.refused 503 "tenant_policy_unavailable" (some (identity, access)))
    | some policy => do
      let rows := candidateRows database identity.tenantId (← allowedCandidateIds policy)
      let connections := providerConnections database identity.tenantId rows
      let candidates ← materializeTenantCandidates env rows connections identity.tenantId
      return .authorized identity access (policyResponse policy.document) candidates

/-- `authorizeInfiniteRequest`. -/
def authorizeInfiniteRequest (env : Env) (database : Database) (apiKeyValue : Value) : Except String Response := do
  let token := Js.trim (← Js.string (apiKeyValue.or (.str [])))
  if token = [] ∨ 4096 < Js.length token then
    return .refused 401 "invalid_api_key" none
  let apiKey := database.apiKeys.find? fun row => row.keyHash = env.sha256 token ∧ row.revokedAt = none
  match apiKey.bind validateInfiniteApiKeyRecord with
  | none => return .refused 401 "invalid_api_key" none
  | some identity => authorizeTenant env database identity

end InfiniteAuthority

end PromptRail
