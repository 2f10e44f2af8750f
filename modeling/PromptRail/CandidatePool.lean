import PromptRail.AccountingToken.Verified
import PromptRail.Library.Table

/-!
# Candidate pools (`lerouter_modal_api.py`)

A route of a user is saved as a policy and a pool of models for each of its names. What is saved is validated, its models are given
normal identities, and the hash of each pool is written beside it and into the policy; a pool that is loaded is validated again, and
its hash has to be the one that was written. All of this is about one user and one route identifier.
-/

namespace PromptRail

namespace CandidatePool

open PyText (Text strip encodeUtf8)
open Json (Fields Value truthy)
open Accounting (field pyStr strOr finiteProfileNumber number?)

/-- The environment, with SHA-256 and what `re.IGNORECASE` takes for the same letter. -/
structure Env extends Accounting.Env where
  sha256 : List UInt8 → Vector UInt8 32
  sameLetter : Char → Char → Bool

variable (env : Env)

/-! ## Texts -/

/-- `str(a or b or "")`, of fields of a model. -/
def firstText (model : Fields) (names : List String) : Text :=
  match names.find? fun name => truthy (field model name) with
  | some name => pyStr env.toEnv (field model name)
  | none => []

/-- What follows a literal at the front of a text, in whatever case it is written. -/
def afterLiteral : Text → Text → Option Text
  | [], rest => some rest
  | _ :: _, [] => none
  | l :: ls, c :: rest => if env.sameLetter l c then afterLiteral ls rest else none

/-- `re.sub(rf"^{re.escape(literal)}", "", text, flags=re.IGNORECASE)`. -/
def withoutLiteral (literal text : Text) : Text := (afterLiteral env literal text).getD text

/-- `re.sub(r"^openrouter/", "", text, flags=re.IGNORECASE)`. -/
def withoutOpenrouter (text : Text) : Text := withoutLiteral env "openrouter/".toList text

/-- `text.split("/", 1)[1]`, of a text with a slash. -/
def afterSlash (text : Text) : Text := (text.dropWhile (· != '/')).drop 1

/-- `text.split("/", 1)[-1]`. -/
def lastPart (text : Text) : Text := if text.contains '/' then afterSlash text else text

/-- `text.lower().startswith(literal)`. -/
def startsWith (text : Text) (literal : String) : Bool := literal.toList.isPrefixOf (env.lower text)

/-! ## Identities of models -/

/-- `model_id` of a model. -/
def modelIdOf (model : Fields) : Text := strip (firstText env model ["model_id", "id", "model"])

/-- `provider` of a model. -/
def providerOf (model : Fields) : Text := env.lower (strip (firstText env model ["execution_provider", "provider"]))

/-- The identity that `canonical_model_id` names. -/
def explicitIdentity (provider explicit : Text) : Text :=
  let explicit := withoutOpenrouter env explicit
  if provider = "together".toList ∧ startsWith env explicit "together/" ∧ '/' ∈ afterSlash explicit then
    env.lower (afterSlash explicit)
  else env.lower explicit

/-- The identity of a native identifier. -/
def nativeIdentity (provider native : Text) : Text :=
  if provider = "openrouter".toList then env.lower (withoutOpenrouter env native)
  else
    let native := withoutLiteral env (provider ++ ['/']) native
    if provider = "together".toList ∧ '/' ∈ native then env.lower native
    else if provider = [] then env.lower native
    else env.lower (provider ++ '/' :: native)

def canonicalModelIdentity (model : Fields) : Text :=
  let openrouterNative := strip (firstText env model ["openrouter_native_model_id"])
  let explicit := strip (firstText env model ["canonical_model_id"])
  let native := strip (firstText env model ["native_model_id", "provider_native_model_id"])
  if openrouterNative ≠ [] then env.lower (withoutOpenrouter env openrouterNative)
  else if explicit ≠ [] then explicitIdentity env (providerOf env model) explicit
  else nativeIdentity env (providerOf env model) (if native = [] then modelIdOf env model else native)

/-- `provider_precedence`. -/
def providerPrecedence (model : Fields) : Nat :=
  let provider := providerOf env model
  if provider = "together".toList then 0
  else if provider = "openai".toList then 1
  else if provider = "anthropic".toList then 2
  else if provider = "openrouter".toList then 3
  else 99

/-- `ANTHROPIC_MODEL_ALIASES`. -/
def anthropicModelAlias (native : Text) : Text :=
  if native = "claude-sonnet-4".toList then "claude-sonnet-4-6".toList else native

/-- The providers whose identifiers may be written below `openrouter/`. -/
def ownedProviders : List Text :=
  ["anthropic", "gemini", "mistral", "deepseek", "xai", "groq"].map String.toList

/-- `provider_native_model_id`. -/
def providerNativeModelId (modelId provider : Text) (model : Fields) : Text :=
  let provider := env.lower (strip provider)
  let explicit := strip (firstText env model ["provider_native_model_id", "native_model_id"])
  let raw := strip modelId
  if explicit ≠ [] then explicit
  else if provider = "openrouter".toList then if startsWith env raw "openrouter/" then afterSlash raw else raw
  else if provider = "nvidia".toList then raw
  else if provider = "together".toList then if startsWith env raw "together/" then afterSlash raw else raw
  else if provider = "openai".toList ∧ startsWith env raw "openrouter/openai/" then afterSlash (afterSlash raw)
  else if provider = "openai".toList ∧ startsWith env raw "openai/" then afterSlash raw
  else
    let owned := provider ∈ ownedProviders ∧ startsWith env raw "openrouter/" ∧ '/' ∈ afterSlash raw
    let native := lastPart (if owned then afterSlash (afterSlash raw) else raw)
    if provider = "anthropic".toList then anthropicModelAlias native else native

/-- `OPENROUTER_OWNER_EXECUTION_PROVIDERS`. -/
def openrouterOwnerExecutionProviders : List (String × String) :=
  [("anthropic", "anthropic"), ("claude", "anthropic"), ("google", "gemini"), ("gemini", "gemini"), ("openai", "openai"),
    ("openai-codex", "openai"), ("gpt", "openai"), ("mistral", "mistral"), ("mistralai", "mistral"), ("deepseek", "deepseek"),
    ("x-ai", "xai"), ("xai", "xai"), ("groq", "groq"), ("together", "together")]

/-- The provider of an owner. -/
def ownerProvider (owner : Text) : Option Text :=
  (openrouterOwnerExecutionProviders.find? fun p => p.1.toList == owner).map fun p => p.2.toList

/-- `text.lstrip("~")`. -/
def lstripTilde (text : Text) : Text := text.dropWhile (· == '~')

/-- `text.split("/", 1)[0]`. -/
def firstPart (text : Text) : Text := text.takeWhile (· != '/')

/-- The owner that an identifier names. -/
def identifierOwner (identifier : Text) : Option Text :=
  let identifier := env.lower (strip identifier)
  if !identifier.contains '/' then none
  else
    let owner := lstripTilde (firstPart identifier)
    let tail := afterSlash identifier
    ownerProvider (if owner = "openrouter".toList ∧ '/' ∈ tail then lstripTilde (firstPart tail) else owner)

/-- `direct_provider_from_model_owner`. -/
def directProviderFromModelOwner (model : Fields) (modelId : Text) : Option Text :=
  let owner := lstripTilde (env.lower (strip (firstText env model ["model_owner"])))
  (ownerProvider owner).or
    ([modelId, firstText env model ["provider_native_model_id"], firstText env model ["native_model_id"]].findSome?
      (identifierOwner env))

/-- `provider_from_model_id`. -/
def providerFromModelId (modelId : Text) : Option Text :=
  if !modelId.contains '/' then none
  else
    let normalized := env.lower (strip modelId)
    let first := firstPart normalized
    let tail := afterSlash normalized
    let owner := lstripTilde first
    let opens (text : Text) (literal : String) : Bool := literal.toList.isPrefixOf text
    if ":free".toList.isSuffixOf normalized || opens first "~" then some "openrouter".toList
    else if owner = "openrouter".toList ∧ (opens tail "openai/" || opens tail "openai-codex/" || opens tail "gpt/") then
      if opens (lastPart tail) "gpt-oss" then some "openrouter".toList else some "openai".toList
    else if owner = "openrouter".toList then some "openrouter".toList
    else if first = "anthropic".toList ∨ first = "claude".toList then some "anthropic".toList
    else if first = "gemini".toList ∨ (first = "google".toList ∧ opens tail "gemini-") then some "gemini".toList
    else if first = "openai".toList ∨ first = "openai-codex".toList ∨ first = "gpt".toList then
      if opens tail "gpt-oss" then some "openrouter".toList else some "openai".toList
    else if first = "together".toList then some "together".toList
    else none

/-- `executable_provider_for_model`. -/
def executableProviderForModel (model : Fields) : Text :=
  let modelId := firstText env model ["model_id", "id", "model"]
  let executionProvider := env.lower (strip (firstText env model ["execution_provider"]))
  let provider := env.lower (strip (firstText env model ["provider"]))
  if executionProvider ≠ [] then executionProvider
  else if provider ≠ [] then provider
  else
    ((directProviderFromModelOwner env model modelId).or (providerFromModelId env modelId)).getD
      (if truthy (field model "is_open_source") then "together".toList else "unknown".toList)

/-- `openrouter_native_model_id`. -/
def openrouterNativeModelId (model : Fields) : Text :=
  let written := strip (firstText env model ["openrouter_native_model_id", "openrouter_model_id"])
  let explicit := if startsWith env written "openrouter/" then afterSlash written else written
  if explicit ≠ [] then explicit
  else if executableProviderForModel env model ≠ "openrouter".toList then []
  else
    let native := providerNativeModelId env (modelIdOf env model) "openrouter".toList model
    if startsWith env native "openrouter/" then afterSlash native else native

/-- `native_model_id` of a model in its normal form. -/
def nativeOf (model : Fields) : Text :=
  let native := strip (firstText env model ["native_model_id", "provider_native_model_id"])
  if native = [] ∧ modelIdOf env model ≠ [] then
    providerNativeModelId env (modelIdOf env model) (providerOf env model) model
  else native

/-- The fields that every normal form assigns. -/
def withIdentity (model : Fields) : Fields :=
  let normalized := Json.set model "canonical_model_id" (.str (canonicalModelIdentity env model))
  let normalized := Json.set normalized "model_id" (.str (modelIdOf env model))
  let normalized := Json.set normalized "provider" (.str (providerOf env model))
  let normalized := Json.set normalized "execution_provider" (.str (providerOf env model))
  let normalized := Json.set normalized "native_model_id" (.str (nativeOf env model))
  Json.set normalized "provider_native_model_id" (.str (nativeOf env model))

/-- `normalize_model_identity_fields`. -/
def normalizeModelIdentityFields (model : Fields) : Fields :=
  let normalized := withIdentity env model
  if providerOf env model = "openrouter".toList then
    let native := openrouterNativeModelId env normalized
    Json.set normalized "openrouter_native_model_id" (.str (if native = [] then nativeOf env model else native))
  else if (Json.get? normalized "openrouter_native_model_id").isSome then normalized
  else Json.set normalized "openrouter_native_model_id" (.str [])

/-! ## Validation -/

/-- One model of those selected so far, under its key: another one replaces it at its place if its provider comes first. -/
def selectModel (selected : List (Text × Fields)) (model : Fields) : List (Text × Fields) :=
  let normalized := normalizeModelIdentityFields env model
  let key := pyStr env.toEnv (field normalized "canonical_model_id")
  if key = [] then selected
  else
    match selected.find? fun p => p.1 == key with
    | none => selected ++ [(key, model)]
    | some current =>
      if providerPrecedence env normalized < providerPrecedence env current.2 then
        selected.map fun p => if p.1 = key then (key, model) else p
      else selected

/-- `dedupe_canonical_models`. -/
def dedupeCanonicalModels (models : List Fields) : List Fields := (models.foldl (selectModel env) []).map (·.2)

def minRouteCandidates : Nat := 5

def maxRouteCandidates : Nat := 7

def qualityCalibrationVersion : ℚ := 3

/-- A value that is a dictionary. -/
def isDict : Value → Bool
  | .obj _ => true
  | _ => false

/-- A value that is a list. -/
def isList : Value → Bool
  | .arr _ => true
  | _ => false

/-- A value that is `True` or `False`. -/
def isBool : Value → Bool
  | .bool _ => true
  | _ => false

/-- An issue, where what is asked does not hold. -/
def issueUnless (holds : Bool) (issue : String) : List String := if holds then [] else [issue]

/-- What is missing of the calibration of a model. -/
def calibrationIssues : Value → List String
  | .obj calibration =>
    issueUnless (number? env.toEnv (field calibration "version") = some (.finite qualityCalibrationVersion))
      "quality_calibration_version" ++
    issueUnless (isDict (field calibration "routes")) "quality_calibration_routes"
  | _ => ["quality_calibration"]

/-- `finite_profile_number(...) is not None`, of a field. -/
def isFinite (model : Fields) (name : String) (positive : Bool) : Bool :=
  (finiteProfileNumber env.toEnv (field model name) positive).isSome

/-- A field that is `True`. -/
def isTrue : Value → Bool
  | .bool b => b
  | _ => false

/-- `candidate_completeness_issues`. -/
def candidateCompletenessIssues (model : Fields) : List String :=
  issueUnless (isTrue (field model "profile_hydrated")) "profile_hydrated" ++
  issueUnless (strip (firstText env model ["model_id"]) != []) "model_id" ++
  issueUnless (strip (firstText env model ["provider", "execution_provider"]) != []) "provider" ++
  issueUnless (strip (firstText env model ["provider_native_model_id", "native_model_id"]) != []) "native_model_id" ++
  issueUnless (isList (field model "strengths")) "profile_strengths" ++
  issueUnless (isFinite env model "context_k_tokens" true) "context_k_tokens" ++
  issueUnless (isFinite env model "latency_ms" false) "latency_ms" ++
  issueUnless (isFinite env model "input_price_per_million" false) "input_price_per_million" ++
  issueUnless (isFinite env model "output_price_per_million" false) "output_price_per_million" ++
  issueUnless (isBool (field model "supports_tools")) "supports_tools" ++
  issueUnless (isBool (field model "supports_json")) "supports_json" ++
  issueUnless (isBool (field model "supports_reasoning_effort")) "supports_reasoning_effort" ++
  calibrationIssues env (field model "quality_calibration")

/-- What is wrong with a pool, or with the model at an index of it. -/
structure Issue where
  index : Option Nat
  modelId : Option Text
  missing : List String
deriving DecidableEq

/-- `HTTPException`. -/
inductive Refusal where
  | notAList (route : Text)
  | invalidCandidatePool (route : Text) (modelCount : Nat) (issues : List Issue)
  | embeddingsRequired (route : Text) (models : List Text)
  | poolMissing (route : Text)
  | versionMismatch (route : Text) (expected stored : Option Text) (actual : Text)
  | setupRefused (statusCode : Nat)
deriving DecidableEq

def Refusal.statusCode : Refusal → Nat
  | .notAList _ | .invalidCandidatePool .. | .embeddingsRequired .. | .versionMismatch .. => 409
  | .poolMissing _ => 404
  | .setupRefused statusCode => statusCode

/-- `sorted(set(missing))`. -/
def sortedSet (missing : List String) : List String := missing.dedup.insertionSort (· ≤ ·)

/-- The loop over the models: the issues, the complete models, and their identifiers. -/
structure Checked where
  issues : List Issue := []
  normalized : List Fields := []
  seen : List Text := []

def checkModel (checked : Checked) (entry : Value × Nat) : Checked :=
  match entry.1 with
  | .obj model =>
    let modelId := strip (firstText env model ["model_id"])
    let missing := candidateCompletenessIssues env model ++
      if env.lower modelId ∈ checked.seen then ["unique_model_id"] else []
    if missing ≠ [] then
      { checked with issues := checked.issues ++ [⟨some entry.2, if modelId = [] then none else some modelId, sortedSet missing⟩] }
    else
      { checked with normalized := checked.normalized ++ [model], seen := env.lower modelId :: checked.seen }
  | _ => { checked with issues := checked.issues ++ [⟨some entry.2, none, ["model_object"]⟩] }

def validateCompleteCandidatePool (models : Value) (routeName : Text) : Except Refusal (List Fields) :=
  match models with
  | .arr models =>
    let checked := models.zipIdx.foldl (checkModel env) {}
    let deduped := dedupeCanonicalModels env checked.normalized
    let issues := checked.issues ++
      if deduped.length ≠ checked.normalized.length then [⟨none, none, ["unique_canonical_model_id"]⟩] else []
    if ¬(minRouteCandidates ≤ deduped.length ∧ deduped.length ≤ maxRouteCandidates) ∨ issues ≠ [] then
      .error (.invalidCandidatePool routeName deduped.length issues)
    else .ok deduped
  | _ => .error (.notAList routeName)

/-! ## Saving and loading -/

/-- `hexdigest`. -/
def hexdigest (digest : Vector UInt8 32) : Text :=
  digest.toList.flatMap fun byte => [Json.hexDigit (byte.toNat / 16), Json.hexDigit (byte.toNat % 16)]

/-- `candidate_pool_version`. -/
def candidatePoolVersion (routeName : Text) (models : List Fields) : Text :=
  hexdigest (env.sha256 (encodeUtf8 (Json.dump (.obj [("route_name", .str routeName), ("models", .arr (models.map .obj))]))))

/-- A document of `route_candidate_pools`. -/
structure PoolRow where
  models : List Fields
  poolVersion : Text

/-- A document of `route_policies`. -/
structure Policy where
  routes : List (Text × List Text)
  candidatePoolVersions : List (Text × Text)

/-- The collections: the pools of a route by their names, and its policy. -/
structure Store where
  pools : Table.Dict Text PoolRow := ∅
  policy : Option Policy := none

/-- A pool as it is saved. -/
structure SavedPool where
  routeName : Text
  models : List Fields
  poolVersion : Text

def SavedPool.row (pool : SavedPool) : PoolRow := ⟨pool.models, pool.poolVersion⟩

/-- `route_candidates`: a dictionary of pools by their names. -/
structure RouteCandidates where
  pools : List (Text × Value)
  nodup : (pools.map (·.1)).Nodup

/-- The pool of a route, validated and in its normal form. -/
def normalizePool (route : Text × Value) : Except Refusal (Text × List Fields) :=
  (validateCompleteCandidatePool env route.2 route.1).map fun models =>
    (route.1, models.map (normalizeModelIdentityFields env))

def profileEmbeddingField : String := "gemma4_profile_embedding"

/-- The pool of a route with its version, if every model has an embedding. -/
def versionPool (route : Text × List Fields) : Except Refusal SavedPool :=
  let missing := route.2.filter fun model => !isDict (field model profileEmbeddingField)
  if missing ≠ [] then .error (.embeddingsRequired route.1 (missing.map fun model => firstText env model ["model_id", "model"]))
  else .ok ⟨route.1, route.2, candidatePoolVersion env route.1 route.2⟩

/-- `save_candidate_pool` up to its first write to the pools. What `ensure_user_exists` and `persist_budget_metadata_from_setup` come
to is given. -/
def preparePools (setup : Except Refusal Unit) (routeCandidates : RouteCandidates) : Except Refusal (List SavedPool) := do
  let normalized ← routeCandidates.pools.mapM (normalizePool env)
  let pools ← normalized.mapM (versionPool env)
  setup
  return pools

/-- The policy of the pools that are saved. -/
def policyOf (pools : List SavedPool) : Policy where
  routes := pools.map fun pool => (pool.routeName, pool.models.map fun model => pyStr env.toEnv (field model "model_id"))
  candidatePoolVersions := pools.map fun pool => (pool.routeName, pool.poolVersion)

/-- The upsert of a pool. -/
def writePool (store : Store) (pool : SavedPool) : Store :=
  { store with pools := store.pools.insert pool.routeName pool.row }

/-- The upsert of the policy. -/
def writePolicy (store : Store) (pools : List SavedPool) : Store := { store with policy := some (policyOf env pools) }

/-- `delete_many`, of the pools whose names are not saved. -/
def deleteOthers (store : Store) (pools : List SavedPool) : Store :=
  { store with pools := Table.keep (fun name => name ∈ pools.map (·.routeName)) store.pools }

/-- `save_candidate_pool`. -/
def saveCandidatePool (setup : Except Refusal Unit) (store : Store) (routeCandidates : RouteCandidates) : Except Refusal Store :=
  (preparePools env setup routeCandidates).map fun pools => deleteOthers (writePolicy env (pools.foldl writePool store) pools) pools

/-- `route_candidate_limit`, of a number. -/
def routeCandidateLimit (limit : Int) : Nat := max minRouteCandidates (min maxRouteCandidates limit.toNat)

/-- `load_versioned_candidate_pool`. -/
def loadVersionedCandidatePool (store : Store) (routeName expectedPoolVersion : Text) (limit : Int) : Except Refusal (List Fields) :=
  match store.pools.lookup routeName with
  | none => .error (.poolMissing routeName)
  | some row => do
    let models ← validateCompleteCandidatePool env (.arr ((row.models.take maxRouteCandidates).map .obj)) routeName
    let storedVersion := strip row.poolVersion
    let actualVersion := candidatePoolVersion env routeName models
    if expectedPoolVersion = [] ∨ storedVersion ≠ expectedPoolVersion ∨ actualVersion ≠ expectedPoolVersion then
      .error (.versionMismatch routeName (if expectedPoolVersion = [] then none else some expectedPoolVersion)
        (if storedVersion = [] then none else some storedVersion) actualVersion)
    else .ok (models.take (routeCandidateLimit limit))

end CandidatePool

end PromptRail
