import Mathlib.Data.Char
import Mathlib.Data.List.Lex
import PromptRail.Library.PyInt
import PromptRail.Selection

/-!
# Selecting candidate pools (`lerouter_modal_api.py`)

A catalog of models is hydrated from the profiles of a store, and a selector outside this program is asked which of them belong to the
routes of a user. Its answer is any JSON. It is read against the catalog, each model is replaced by its equivalent in the catalog whose
provider comes first, and what is left is validated route by route.
-/

namespace PromptRail

namespace CandidateSelection

open PyText (Text strip)
open Json (Fields Value truthy get?)
open Accounting (field pyStr strOr ofNumber?)
open CandidatePool (Issue Checked checkModel dedupeCanonicalModels canonicalModelIdentity candidateCompletenessIssues
  executableProviderForModel firstText isBool modelIdOf minRouteCandidates maxRouteCandidates normalizeModelIdentityFields
  providerPrecedence routeCandidateLimit validateCompleteCandidatePool withoutLiteral afterSlash afterLiteral)
open Selection (firstPresent)

/-- What is taken from outside, with the decimal digits beyond ASCII, and what `dict(...)` and `list(...)` make of a value that is no
dictionary and no list. -/
structure Env where
  base : CandidatePool.Env
  decimal : Char → Option Nat
  dict : Value → Option Fields
  list : Value → Option (List Value)

variable (env : Env)

/-! ## Refusals -/

/-- An entry of `profile_rejections`. -/
inductive Rejection where
  | catalogEntryNotObject
  | identityIncomplete (modelId profileAlias : Option Text)
  | duplicateModelId (modelId profileAlias : Text)
  | profileMissing (modelId profileAlias : Text)
  | profileIncomplete (modelId profileAlias : Text) (profileModel : Value) (missing : List String)

/-- An issue of a pool that the selector has returned. -/
inductive SelectionIssue where
  | incompleteCandidatePool (route : Text) (detail : CandidatePool.Refusal)
  | tooManyModelsForRequestedLimit (route : Text) (modelCount requestedLimit : Nat)
  | tooFewModels (route : Text) (modelCount : Nat)
  | tooManyModels (route : Text) (modelCount : Nat)
  | modelsNotInCatalog (route : Text) (models : List Text)
  | requiredProvidersMissing (route : Text) (missingProviders selectedProviders : List Text)
  | modelRouteOccurrenceLimitExceeded (modelId provider : Text) (routeOccurrences maxRouteOccurrences : Nat)

/-- `HTTPException`; a value that `dict(...)` or `list(...)` does not take raises another exception. -/
inductive Refusal where
  | modelCatalogRequired
  | insufficientModelCatalog (catalogModelCount : Nat)
  | invalidHydratedModelCatalog (modelCount : Nat) (issues : List Issue)
  | profileStoreRequired
  | modelProfileStoreUnavailable (modelId profileAlias : Text)
  | malformedProfile (modelId : Text)
  | insufficientHydratedModelCatalog (usableModelCount : Nat) (profileRejections : List Rejection)
  | insufficientHydratedCatalogForRequestedPool (requestedCandidateCount hydratedModelCount : Nat) (profileRejections : List Rejection)
  | invalidRequiredProviders
  | invalidMaxModelRouteOccurrences
  | maxModelRouteOccurrencesOutOfRange
  | invalidRouteOccurrenceExemptProviders
  | duplicateSelectorModel (modelId : Text)
  | selectorModelNotInCatalog (modelId : Text)
  | invalidModalModelSelectorResult (issues : List SelectionIssue)
  | emptyModalModelSelectorResult
  | modalModelSelectorNotConfigured
  | selectorFailed (statusCode : Nat)

/-- `status_code`. -/
def Refusal.statusCode : Refusal → Nat
  | .profileStoreRequired | .modelProfileStoreUnavailable .. | .modalModelSelectorNotConfigured => 503
  | .duplicateSelectorModel _ | .selectorModelNotInCatalog _ | .invalidModalModelSelectorResult _ | .emptyModalModelSelectorResult => 502
  | .malformedProfile _ => 500
  | .selectorFailed statusCode => statusCode
  | _ => 422

/-! ## Catalogs -/

/-- A field that is `False`. -/
def isFalse : Value → Bool
  | .bool b => !b
  | _ => false

/-- `executable_catalog`. -/
def executableCatalog (catalog : List Value) : List Value :=
  catalog.filter fun
    | .obj model => !isFalse (field model "executable")
    | _ => true

/-- `require_explicit_model_catalog`. -/
def requireExplicitModelCatalog : Value → Except Refusal (List Value)
  | .arr (model :: models) =>
    let catalog := executableCatalog (model :: models)
    if catalog.length < minRouteCandidates then .error (.insufficientModelCatalog catalog.length) else .ok catalog
  | _ => .error .modelCatalogRequired

/-- `validate_hydrated_model_catalog`. -/
def validateHydratedModelCatalog (catalog : Value) : Except Refusal (List Fields) := do
  let models ← requireExplicitModelCatalog catalog
  let checked := models.zipIdx.foldl (checkModel env.base) {}
  let normalized := dedupeCanonicalModels env.base checked.normalized
  if checked.issues ≠ [] ∨ normalized.length < minRouteCandidates then
    .error (.invalidHydratedModelCatalog normalized.length checked.issues)
  else .ok normalized

/-! ## Aliases of profiles -/

/-- `\d`. -/
def isDecimal (c : Char) : Bool := if c.toNat < 128 then c.isDigit else (env.decimal c).isSome

/-- Whether a text is a literal, in whatever case. -/
def isLiteral (literal : String) (text : Text) : Bool := afterLiteral env.base literal.toList text == some []

/-- `claude-(?:opus|sonnet|haiku)`, of two parts. -/
def isClaudeFamily (claude family : Text) : Bool :=
  isLiteral env "claude" claude && (isLiteral env "opus" family || isLiteral env "sonnet" family || isLiteral env "haiku" family)

/-- `\d{low,high}`. -/
def isNumber (low high : Nat) (part : Text) : Bool := part.all (isDecimal env) && low ≤ part.length && part.length ≤ high

/-- `canonical_anthropic_profile_alias`. -/
def canonicalAnthropicProfileAlias (nativeModelId : Text) : Text :=
  let nativeName := withoutLiteral env.base "anthropic/".toList (strip nativeModelId)
  let plain := if nativeName = [] then [] else "anthropic/".toList ++ nativeName
  match nativeName.splitOn '-' with
  | [claude, family, major, last] =>
    if isClaudeFamily env claude family && isNumber env 1 major.length major then
      let named := "anthropic/".toList ++ claude ++ '-' :: family ++ '-' :: major
      if isNumber env 1 2 last then named ++ '.' :: last else if isNumber env 8 8 last then named else plain
    else plain
  | [claude, family, major, minor, date] =>
    if isClaudeFamily env claude family && isNumber env 1 major.length major && isNumber env 1 2 minor && isNumber env 8 8 date then
      "anthropic/".toList ++ claude ++ '-' :: family ++ '-' :: major ++ '.' :: minor
    else plain
  | _ => plain

/-- `catalog_profile_alias`. -/
def catalogProfileAlias (model : Fields) : Text :=
  let modelId := modelIdOf env.base model
  let provider := env.base.lower (strip (firstText env.base model ["provider", "execution_provider"]))
  let written := strip (firstText env.base model ["provider_native_model_id", "native_model_id"])
  let nativeName := if written = [] ∧ '/' ∈ modelId then afterSlash modelId else written
  if provider = "openai-codex".toList then
    let nativeName := ((afterLiteral env.base "openai-codex/".toList nativeName).or (afterLiteral env.base "openai/".toList nativeName)).getD nativeName
    if nativeName = [] then [] else "openai/".toList ++ nativeName
  else if provider = "openrouter".toList ∨ provider = "together".toList then withoutLiteral env.base (provider ++ ['/']) nativeName
  else if provider = "anthropic".toList then canonicalAnthropicProfileAlias env nativeName
  else modelId

/-! ## Hydration -/

/-- `finite_profile_number`, of a value. -/
def profileNumber (v : Value) (positive : Bool := false) : Option ℚ := Accounting.finiteProfileNumber env.base.toEnv v positive

/-- `profile_cost_values`. -/
def profileCost (profile : Fields) (names : List String) : Option ℚ :=
  match field profile "model_cost" with
  | .obj modelCost => profileNumber env (firstPresent modelCost names)
  | _ => profileNumber env (firstPresent [] names)

/-- The value of a profile where the model has none of its own. -/
def liveFlag (model profile : Fields) (name : String) : Value :=
  if isBool (field model name) then field model name else field profile name

/-- The numbers of a model and its profile. -/
structure Measures where
  contextWindow : Option ℚ
  contextKTokens : Option ℚ
  latencyMs : Option ℚ
  inputPrice : Option ℚ
  outputPrice : Option ℚ

def measures (model profile : Fields) : Measures :=
  let window := profileNumber env (firstPresent profile ["model_context_window", "context_window"]) true
  let thousands := profileNumber env (field profile "context_k_tokens") true
  { contextWindow := window.or (thousands.map (· * 1000))
    contextKTokens := thousands.or (window.map (· / 1000))
    latencyMs := (profileNumber env (field model "latency_ms")).or
      (profileNumber env (firstPresent profile ["model_latency", "latency_ms"]))
    inputPrice := (profileNumber env (field model "input_price_per_million")).or
      (profileCost env profile ["input_usd_per_million", "input_price_per_million", "input"])
    outputPrice := (profileNumber env (field model "output_price_per_million")).or
      (profileCost env profile ["output_usd_per_million", "output_price_per_million", "output"]) }

/-- `profile.get("forces") or profile.get("strengths") or []`. -/
def profileForces (profile : Fields) : Value :=
  if truthy (field profile "forces") then field profile "forces"
  else if truthy (field profile "strengths") then field profile "strengths"
  else .arr []

/-- A list of texts that are not blank. -/
def areForces : Value → Bool
  | .arr forces => !forces.isEmpty && forces.all fun
    | .str force => strip force != []
    | _ => false
  | _ => false

/-- `profile_missing`. -/
def profileMissing (forces : Value) (m : Measures) : List String :=
  CandidatePool.issueUnless (areForces forces) "profile_forces" ++
  CandidatePool.issueUnless m.contextKTokens.isSome "profile_context" ++
  CandidatePool.issueUnless m.latencyMs.isSome "profile_latency" ++
  CandidatePool.issueUnless m.inputPrice.isSome "profile_input_price" ++
  CandidatePool.issueUnless m.outputPrice.isSome "profile_output_price"

/-- `dict(value or {})`. -/
def dictOr (v : Value) : Option Fields :=
  match v with
  | .obj fields => some fields
  | v => if truthy v then env.dict v else some []

/-- `list(value or [])`. -/
def listOr (v : Value) : Option (List Value) :=
  match v with
  | .arr values => some values
  | v => if truthy v then env.list v else some []

/-- `number or other`, of numbers that may be absent. -/
def numberOr (number other : Option ℚ) : Option ℚ := if number.any (· ≠ 0) then number else other

/-- A model with the fields that are assigned. -/
def assign (model : Fields) (fields : Fields) : Fields := fields.foldl (fun model p => Json.set model p.1 p.2) model

/-- The fields of a model that its profile gives it. -/
def hydrateModel (model profile : Fields) (modelId profileAlias : Text) : Option Fields := do
  let m := measures env model profile
  let weaknesses ← listOr env (field profile "weaknesses")
  let modelCost ← dictOr env (field profile "model_cost")
  let benchmarkResults ← dictOr env (field profile "benchmark_results")
  let number := ofNumber? env.base.toEnv
  return assign model [
    ("model_id", .str modelId),
    ("profile_model", .str (if truthy (field profile "model") then pyStr env.base.toEnv (field profile "model") else profileAlias)),
    ("profile_alias", .str profileAlias),
    ("profile_hydrated", .bool true),
    ("forces", profileForces profile),
    ("strengths", profileForces profile),
    ("weaknesses", .arr weaknesses),
    ("context_window", m.contextWindow.elim .null fun x => .int ⌊x⌋),
    ("context_k_tokens", number m.contextKTokens),
    ("latency_ms", number m.latencyMs),
    ("model_latency", number m.latencyMs),
    ("model_size", number (profileNumber env (field profile "model_size") true)),
    ("model_cost", .obj modelCost),
    ("benchmark_results", .obj benchmarkResults),
    ("quality_calibration", field profile "quality_calibration"),
    ("model_release_timestamp", number (numberOr
      (profileNumber env (firstPresent profile ["model_release_timestamp", "release_timestamp"]))
      (profileNumber env (firstPresent model ["model_release_timestamp", "created"])))),
    ("input_price_per_million", number m.inputPrice),
    ("output_price_per_million", number m.outputPrice),
    ("supports_tools", liveFlag model profile "supports_tools"),
    ("supports_json", liveFlag model profile "supports_json"),
    ("supports_reasoning_effort", liveFlag model profile "supports_reasoning_effort")]

/-- `profiles.find_one`, of an alias: what is found, if the store answers. -/
abbrev ProfileStore := Text → Option Value

/-- The loop over a catalog: the models that are hydrated, what is rejected, and the identifiers of the former. -/
structure Hydration where
  hydrated : List Fields := []
  rejections : List Rejection := []
  seenModelIds : List Text := []

def Hydration.reject (hydration : Hydration) (rejection : Rejection) : Hydration :=
  { hydration with rejections := hydration.rejections ++ [rejection] }

/-- A text, where it is not empty. -/
def orNone (text : Text) : Option Text := if text = [] then none else some text

/-- The loop once more. -/
def hydrateEntry (profiles : ProfileStore) (hydration : Hydration) : Value → Except Refusal Hydration
  | .obj model =>
    let modelId := modelIdOf env.base model
    let profileAlias := catalogProfileAlias env model
    if modelId = [] ∨ profileAlias = [] then .ok (hydration.reject (.identityIncomplete (orNone modelId) (orNone profileAlias)))
    else if env.base.lower modelId ∈ hydration.seenModelIds then .ok (hydration.reject (.duplicateModelId modelId profileAlias))
    else
      match profiles profileAlias with
      | none => .error (.modelProfileStoreUnavailable modelId profileAlias)
      | some (.obj profile) =>
        match hydrateModel env model profile modelId profileAlias with
        | none => .error (.malformedProfile modelId)
        | some hydrated =>
          let missing := profileMissing (profileForces profile) (measures env model profile) ++
            candidateCompletenessIssues env.base hydrated
          if missing ≠ [] then .ok (hydration.reject (.profileIncomplete modelId profileAlias (field profile "model") missing))
          else .ok { hydration with
            hydrated := hydration.hydrated ++ [normalizeModelIdentityFields env.base hydrated]
            seenModelIds := env.base.lower modelId :: hydration.seenModelIds }
      | some _ => .ok (hydration.reject (.profileMissing modelId profileAlias))
  | _ => .ok (hydration.reject .catalogEntryNotObject)

/-- `dedupe_canonical_models(enrich=True)`. -/
def dedupeEnriched (models : List Fields) : List Fields :=
  (dedupeCanonicalModels env.base models).map (normalizeModelIdentityFields env.base)

/-- `hydrate_model_catalog`. -/
def hydrateModelCatalog (profiles : Option ProfileStore) (value : Value) : Except Refusal (List Fields × List Rejection) := do
  let rawCatalog ← requireExplicitModelCatalog value
  match profiles with
  | none => .error .profileStoreRequired
  | some profiles =>
    let hydration ← rawCatalog.foldlM (hydrateEntry env profiles) {}
    if hydration.hydrated.length < minRouteCandidates then
      .error (.insufficientHydratedModelCatalog hydration.hydrated.length hydration.rejections)
    else
      let catalog ← validateHydratedModelCatalog env (.arr ((dedupeEnriched env hydration.hydrated).map .obj))
      return (catalog, hydration.rejections)

/-! ## The answer of the selector -/

/-- A value that is a text. -/
def isText (text : Text) : Value → Bool
  | .str s => s == text
  | _ => false

/-- `catalog_model_by_id`. -/
def catalogModelById (modelId : Text) (catalog : List Fields) : Option Fields :=
  (catalog.find? fun model => ["model_id", "model", "id"].any fun name => isText modelId (field model name)).map fun model =>
    Json.set model "model_id" (.str modelId)

/-- The identifier of a model in the answer. -/
def selectorModelId (model : Value) : Text :=
  match model with
  | .obj fields =>
    match ["model", "model_id"].find? fun name => truthy (field fields name) with
    | some name => strip (pyStr env.base.toEnv (field fields name))
    | none => strip (pyStr env.base.toEnv model)
  | model => strip (pyStr env.base.toEnv model)

/-- `normalize_models`, after the identifiers that were seen. -/
def normalizeModels (catalog : List Fields) : List Value → List Text → Except Refusal (List Fields)
  | [], _ => .ok []
  | model :: models, seen =>
    let modelId := selectorModelId env model
    if modelId = [] then normalizeModels catalog models seen
    else if modelId ∈ seen then .error (.duplicateSelectorModel modelId)
    else
      match catalogModelById modelId catalog with
      | none => .error (.selectorModelNotInCatalog modelId)
      | some normalized => (normalizeModels catalog models (modelId :: seen)).map (normalized :: ·)

/-- The models that an entry of a dictionary assigns to its route, if it assigns any. -/
def namedAssignment (entry : String × Value) : Option (Text × List Value) :=
  let models :=
    match entry.2 with
    | .obj fields => (get? fields "models").getD (.arr [])
    | models => models
  match models with
  | .arr models => some (entry.1.toList, models)
  | _ => none

/-- The models that an entry of a list assigns to the route it names. -/
def listedAssignment : Value → Option (Text × List Value)
  | .obj assignment =>
    let routeName := strip (firstText env.base assignment ["route", "route_id", "routeName"])
    if routeName = [] then none
    else if truthy (field assignment "models") then
      match field assignment "models" with
      | .arr models => some (routeName, models)
      | _ => none
    else some (routeName, [])
  | _ => none

/-- `assignments`. -/
def assignments (selectorResult : Value) : List (Text × List Value) :=
  let chosen :=
    match selectorResult with
    | .obj fields =>
      if truthy (field fields "routes") then field fields "routes"
      else if truthy (field fields "assignments") then field fields "assignments"
      else selectorResult
    | _ => selectorResult
  match chosen with
  | .obj fields => fields.filterMap namedAssignment
  | .arr entries => entries.filterMap (listedAssignment env)
  | _ => []

/-- The pools of an answer by the names of their routes. -/
abbrev Pools := Table.Dict Text (List Fields)

/-- `normalize_selector_result`. -/
def normalizeSelectorResult (selectorResult : Value) (catalog : List Fields) : Except Refusal Pools :=
  (assignments env selectorResult).foldlM (fun pools assignment =>
    (normalizeModels env catalog assignment.2 []).map fun models => pools.insert assignment.1 models) ∅

/-! ## Validation -/

/-- The models of a catalog that are the same model as another. -/
def equivalents (catalog : List Fields) (model : Fields) : List Fields :=
  catalog.filter fun candidate => canonicalModelIdentity env.base candidate == canonicalModelIdentity env.base model &&
    canonicalModelIdentity env.base candidate != []

/-- `min([best, *others], key=provider_precedence)`. -/
def firstProvider (best : Fields) (others : List Fields) : Fields :=
  others.foldl (fun best other => if providerPrecedence env.base other < providerPrecedence env.base best then other else best) best

/-- The first of the equivalents of a model and of the model itself. -/
def preferDirectProvider (catalog : List Fields) (model : Fields) : Fields :=
  match equivalents env catalog model with
  | [] => model
  | first :: rest => firstProvider env first (rest ++ [model])

/-- `prefer_direct_provider_models`. -/
def preferDirectProviderModels (models catalog : List Fields) : List Fields := models.map (preferDirectProvider env catalog)

/-- `str(model_id or model or id or "").strip()`. -/
def listedId (model : Fields) : Text := strip (firstText env.base model ["model_id", "model", "id"])

/-- What is asked of a selection. -/
structure Demand where
  targetLimit : Nat
  requiredProviders : List Text
  maxModelRouteOccurrences : Option Int
  routeOccurrenceExemptProviders : List Text

/-- `catalog_model_ids`. -/
def catalogModelIds (catalog : List Fields) : List Text := ((catalog.map (listedId env)).filter (· ≠ [])).dedup

/-- The turn of the loop over the routes: the pool that is validated. -/
def checkRoute (catalog : List Fields) (routeCandidates : Pools) (demand : Demand) (route : Text) :
    Except SelectionIssue (List Fields) :=
  let chosen := preferDirectProviderModels env ((routeCandidates.lookup route).getD []) catalog
  match validateCompleteCandidatePool env.base (.arr (chosen.map .obj)) route with
  | .error refusal => .error (.incompleteCandidatePool route refusal)
  | .ok models =>
    let modelIds := (models.map (listedId env)).filter (· ≠ [])
    let unknown := modelIds.filter fun modelId => modelId ∉ catalogModelIds env catalog
    let selected := models.map (executableProviderForModel env.base)
    let missing := demand.requiredProviders.filter fun provider => provider ∉ selected
    if demand.targetLimit < models.length then
      .error (.tooManyModelsForRequestedLimit route models.length demand.targetLimit)
    else if modelIds.length < minRouteCandidates then .error (.tooFewModels route modelIds.length)
    else if maxRouteCandidates < modelIds.length then .error (.tooManyModels route modelIds.length)
    else if unknown ≠ [] then .error (.modelsNotInCatalog route unknown)
    else if missing ≠ [] then .error (.requiredProvidersMissing route missing (selected.dedup.insertionSort (· ≤ ·)))
    else .ok models

/-- The pools that are validated, in the order of the routes. -/
def validatedPools (catalog : List Fields) (routeCandidates : Pools) (demand : Demand) (routes : List Text) :
    List (Text × List Fields) :=
  routes.filterMap fun route => (checkRoute env catalog routeCandidates demand route).toOption.map fun models => (route, models)

/-- The issue of a route, if there is one. -/
def routeIssue (catalog : List Fields) (routeCandidates : Pools) (demand : Demand) (route : Text) : Option SelectionIssue :=
  match checkRoute env catalog routeCandidates demand route with
  | .error issue => some issue
  | .ok _ => none

/-- The models of all pools, in order. -/
def listedModels (validated : List (Text × List Fields)) : List Fields :=
  (validated.flatMap (·.2)).filter fun model => listedId env model != []

/-- `model_occurrences[model_id]`. -/
def occurrences (validated : List (Text × List Fields)) (modelId : Text) : Nat :=
  ((listedModels env validated).map (listedId env)).count modelId

/-- `model_providers.get(model_id, "")`: the provider of the last model of an identifier. -/
def occurringProvider (validated : List (Text × List Fields)) (modelId : Text) : Text :=
  ((listedModels env validated).reverse.find? fun model => listedId env model == modelId).elim []
    (executableProviderForModel env.base)

/-- The issues of models that are in too many pools. -/
def occurrenceIssues (validated : List (Text × List Fields)) (demand : Demand) : List SelectionIssue :=
  match demand.maxModelRouteOccurrences with
  | none => []
  | some maxOccurrences =>
    (((listedModels env validated).map (listedId env)).dedup.insertionSort (· ≤ ·)).filterMap fun modelId =>
      if occurringProvider env validated modelId ∉ demand.routeOccurrenceExemptProviders ∧
          maxOccurrences < occurrences env validated modelId then
        some (.modelRouteOccurrenceLimitExceeded modelId (occurringProvider env validated modelId)
          (occurrences env validated modelId) maxOccurrences.toNat)
      else none

/-- `validate_modal_selector_candidates`. -/
def validateModalSelectorCandidates (routes : List Text) (catalog : List Fields) (routeCandidates : Pools) (demand : Demand) :
    Except Refusal (List (Text × List Fields)) :=
  let catalog := catalog.filter fun model => !isFalse (field model "executable")
  if (catalogModelIds env catalog).length < minRouteCandidates then
    .error (.insufficientModelCatalog (catalogModelIds env catalog).length)
  else
    let validated := validatedPools env catalog routeCandidates demand routes
    let issues := routes.filterMap (routeIssue env catalog routeCandidates demand) ++ occurrenceIssues env validated demand
    if issues.isEmpty then .ok validated else .error (.invalidModalModelSelectorResult issues)

/-! ## Selection -/

/-- The providers of a list, in lower case and each once. -/
def namedProviders (values : List Value) : List Text :=
  values.foldl (fun providers value =>
    let provider := env.base.lower (strip (strOr env.base.toEnv value))
    if provider = [] ∨ provider ∈ providers then providers else providers ++ [provider]) []

/-- `int(value)`, of a value of JSON; a float is cut. -/
def intOf? : Value → Option Int
  | .bool b => some (if b then 1 else 0)
  | .int n => some n
  | .float literal =>
    match env.base.read literal with
    | some (.finite x) => some (x.num.tdiv x.den)
    | some .infinity | none => none
  | .str text => PyInt.parse env.decimal 10 text
  | .null | .arr _ | .obj _ => none

/-- `max_model_route_occurrences`, of metadata for a number of routes. -/
def maxModelRouteOccurrences (metadata : Fields) (routes : Nat) : Except Refusal (Option Int) :=
  match field metadata "max_model_route_occurrences" with
  | .null => .ok none
  | .bool _ => .error .invalidMaxModelRouteOccurrences
  | value =>
    match intOf? env value with
    | none => .error .invalidMaxModelRouteOccurrences
    | some occurrences => if occurrences ≤ 0 ∨ routes < occurrences then .error .maxModelRouteOccurrencesOutOfRange else .ok (some occurrences)

/-- A list of metadata, or none. -/
def listOf (metadata : Fields) (name : String) (refusal : Refusal) : Except Refusal (List Value) :=
  match (get? metadata name).getD (.arr []) with
  | .arr values => .ok values
  | _ => .error refusal

/-- What metadata asks of a selection for a number of routes. -/
def demandOf (metadata : Fields) (routes : Nat) (candidatesPerRoute : Int) : Except Refusal Demand := do
  let required ← listOf metadata "required_providers" .invalidRequiredProviders
  let maxOccurrences ← maxModelRouteOccurrences env metadata routes
  let exempt ← listOf metadata "route_occurrence_exempt_providers" .invalidRouteOccurrenceExemptProviders
  return {
    targetLimit := routeCandidateLimit candidatesPerRoute
    requiredProviders := namedProviders env required
    maxModelRouteOccurrences := maxOccurrences
    routeOccurrenceExemptProviders := namedProviders env exempt }

/-- What a request to the selector comes to, if there is one; it is given the catalog and what is asked. -/
abbrev Selector := Option (List Fields → Demand → Except Refusal Value)

/-- `select_route_candidates`. -/
def selectRouteCandidates (routes : List Text) (catalog : Value) (candidatesPerRoute : Int) (metadata : Fields) (selector : Selector) :
    Except Refusal (List (Text × List Fields)) := do
  let models ← validateHydratedModelCatalog env catalog
  let demand ← demandOf env metadata routes.length candidatesPerRoute
  match selector with
  | none => .error .modalModelSelectorNotConfigured
  | some post =>
    let selectorResult ← post models demand
    let normalized ← normalizeSelectorResult env selectorResult models
    if normalized.entries.isEmpty then .error .emptyModalModelSelectorResult
    else validateModalSelectorCandidates env routes models normalized demand

/-- What a job of a setup selects: the catalog is hydrated, and has to have as many models as a pool may ask for. -/
def selectForSetup (profiles : Option ProfileStore) (routes : List Text) (modelCatalog : Value) (candidatesPerRoute : Int)
    (metadata : Fields) (selector : Selector) : Except Refusal (List Fields × List (Text × List Fields)) := do
  let (catalog, rejections) ← hydrateModelCatalog env profiles modelCatalog
  if catalog.length < routeCandidateLimit candidatesPerRoute then
    .error (.insufficientHydratedCatalogForRequestedPool (routeCandidateLimit candidatesPerRoute) catalog.length rejections)
  else
    let pools ← selectRouteCandidates env routes (.arr (catalog.map .obj)) candidatesPerRoute metadata selector
    return (catalog, pools)

end CandidateSelection

end PromptRail
