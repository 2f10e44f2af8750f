import Mathlib.Algebra.Order.Ring.Rat
import PromptRail.Library.Base64
import PromptRail.Library.JsonRoundTrip

/-!
# Accounting tokens (`lerouter_modal_api.py`)

A token is a claim in JSON and its signature, each in base64. Issuing one checks the profile of the model, whose normal form is
signed; verifying one checks the signature, the keys and values of the claim, and that its profile is in normal form. A dictionary
is a JSON object. Of the floats, the finite ones and infinity are told apart: every function here takes NaN and minus infinity as it
takes a value that is no number, or a price of zero.
-/

namespace PromptRail

namespace Accounting

open PyText (Text strip encodeUtf8 decodeUtf8)
open Json (Fields Value get? truthy dumps loads)
open Base64 (Bytes)

/-! ## What the code rests on -/

/-- A float. -/
inductive PyFloat where
  | finite (x : ℚ)
  | infinity
deriving DecidableEq

/-- `float.__repr__`, with infinity spelled as JSON spells it, and `float`. -/
structure FloatText where
  write : PyFloat → String
  read : String → Option PyFloat
  write_isFloat : ∀ x, Json.IsFloat (write x)
  read_write : ∀ x, read (write x) = some x

/-- `str.lower`: what is in lower case stays as it is, and white space has no case. -/
structure LowerCase where
  lower : Text → Text
  lower_lower : ∀ t, lower (lower t) = lower t
  strip_lower : ∀ t, strip (lower t) = lower (strip t)
  lower_eq_nil : ∀ t, lower t = [] ↔ t = []

/-- The environment: `LEROUTER_INTERNAL_SERVICE_TOKEN`, HMAC with SHA-256, and what `str` prints of a value that is no text. -/
structure Env extends FloatText, LowerCase where
  internalServiceToken : Text
  hmac : Bytes → Bytes → Vector UInt8 32
  str : Value → Text

/-- `HTTPException`, and the error of `hmac.compare_digest` on a text outside ASCII. -/
inductive TokenError where
  | signingSecretRequired
  | profileInvalid (field : Option String)
  | profileIncomplete
  | identityMismatch
  | claimIncomplete (missing : List String)
  | invalidToken
  | notAscii
deriving DecidableEq

/-- `status_code`. -/
def TokenError.statusCode : TokenError → Nat
  | .signingSecretRequired => 503
  | .profileInvalid _ | .profileIncomplete | .identityMismatch | .claimIncomplete _ => 502
  | .invalidToken => 401
  | .notAscii => 500

/-- `detail["error"]`; of `hmac.compare_digest`, the name of the exception. -/
def TokenError.error : TokenError → String
  | .signingSecretRequired => "accounting_signing_secret_required"
  | .profileInvalid _ => "accounting_model_profile_invalid"
  | .profileIncomplete => "accounting_model_profile_incomplete"
  | .identityMismatch => "accounting_model_identity_mismatch"
  | .claimIncomplete _ => "accounting_claim_incomplete"
  | .invalidToken => "invalid_accounting_token"
  | .notAscii => "TypeError"

variable (env : Env)

/-! ## Values -/

/-- `fields.get(name)`. -/
def field (fields : Fields) (name : String) : Value := (get? fields name).getD .null

/-- `str(value)`. -/
def pyStr : Value → Text
  | .str s => s
  | v => env.str v

/-- `str(value or "")`. -/
def strOr (v : Value) : Text := if truthy v then pyStr env v else []

/-- `float(value)`. -/
def float? : Value → Option PyFloat
  | .bool b => some (.finite (if b then 1 else 0))
  | .int n => some (.finite n)
  | .float literal => env.read literal
  | .str s => env.read (String.ofList s)
  | .null | .arr _ | .obj _ => none

/-- `as_float`. -/
def asFloat (v : Value) : PyFloat := (float? env v).getD (.finite 0)

/-- `finite_profile_number`. -/
def finiteProfileNumber (v : Value) (positive : Bool) : Option ℚ :=
  match v with
  | .null | .bool _ => none
  | v =>
    match float? env v with
    | some (.finite number) => if positive ∧ number ≤ 0 then none else some number
    | some .infinity | none => none

/-- A float as a value. -/
def ofFloat (x : PyFloat) : Value := .float (env.write x)

/-- A finite float as a value, if there is one. -/
def ofNumber? : Option ℚ → Value
  | some x => ofFloat env (.finite x)
  | none => .null

/-- `value > 0`. -/
def PyFloat.isPositive : PyFloat → Bool
  | .finite x => decide (0 < x)
  | .infinity => true

/-- `value * 1_000_000`. -/
def PyFloat.perMillion : PyFloat → PyFloat
  | .finite x => .finite (x * 1000000)
  | .infinity => .infinity

/-! ## Cache prices -/

/-- `cache_key`. -/
inductive CacheKey where
  | read
  | write

/-- The field of a profile that a cache price is signed under; it is the first one that the price is looked for under. -/
def CacheKey.fieldName : CacheKey → String
  | .read => "input_cache_read_usd_per_million"
  | .write => "input_cache_write_usd_per_million"

/-- The second one of `direct_keys`. -/
def CacheKey.aliasName : CacheKey → String
  | .read => "input_cache_read_per_million"
  | .write => "input_cache_write_per_million"

/-- The field of `pricing`. -/
def CacheKey.pricing : CacheKey → String
  | .read => "input_cache_read"
  | .write => "input_cache_write"

/-- `nested_model_cost`. -/
def nestedModelCost (model : Fields) (key : String) : PyFloat :=
  match field model "model_cost" with
  | .obj cost => if (asFloat env (field cost key)).isPositive then asFloat env (field cost key) else .finite 0
  | _ => .finite 0

/-- The price among those of `pricing`. -/
def pricingPrice (model : Fields) (key : String) : PyFloat :=
  match field model "pricing" with
  | .obj pricing => (asFloat env (field pricing key)).perMillion
  | _ => .finite 0

/-- `model_cache_price_per_million`. -/
def modelCachePricePerMillion (model : Fields) (key : CacheKey) : PyFloat :=
  if (asFloat env (field model key.fieldName)).isPositive then asFloat env (field model key.fieldName)
  else if (asFloat env (field model key.aliasName)).isPositive then asFloat env (field model key.aliasName)
  else if (nestedModelCost env model key.fieldName).isPositive then nestedModelCost env model key.fieldName
  else pricingPrice env model key.pricing

/-! ## The profile -/

/-- The optional fields that are numbers. -/
def numberFields : List String :=
  ["context_k_tokens", "latency_ms", "model_size", "input_cache_read_usd_per_million", "input_cache_write_usd_per_million"]

/-- The optional fields that are flags. -/
def flagFields : List String :=
  ["profile_hydrated", "is_open_source", "supports_tools", "supports_json", "supports_reasoning_effort"]

/-- `ACCOUNTING_MODEL_PROFILE_FIELDS`. -/
def accountingModelProfileFields : List String :=
  ["provider_native_model_id", "native_model_id", "profile_model", "profile_alias", "model_owner", "execution_provider",
    "profile_hydrated", "is_open_source", "context_k_tokens", "latency_ms", "model_size", "input_cache_read_usd_per_million",
    "input_cache_write_usd_per_million", "supports_tools", "supports_json", "supports_reasoning_effort"]

/-- The value of an optional field that is not null, if it is not left out. -/
def profileValue (name : String) (v : Value) : Except TokenError (Option Value) :=
  if name ∈ numberFields then
    match finiteProfileNumber env v false with
    | none => .error (.profileInvalid (some name))
    | some x => .ok (some (ofFloat env (.finite x)))
  else if name ∈ flagFields then
    match v with
    | .bool b => .ok (some (.bool b))
    | _ => .error (.profileInvalid (some name))
  else .ok (if strip (pyStr env v) = [] then none else some (.str (strip (pyStr env v))))

/-- One round of the loop over the optional fields. -/
def addProfileField (model profile : Fields) (name : String) : Except TokenError Fields :=
  match field model name with
  | .null => .ok profile
  | v =>
    match profileValue env name v with
    | .error e => .error e
    | .ok none => .ok profile
    | .ok (some v) => .ok (Json.set profile name v)

/-- A cache price, where there is one. -/
def addCachePrice (model profile : Fields) (key : CacheKey) : Fields :=
  let price := modelCachePricePerMillion env model key
  if price.isPositive then Json.set profile key.fieldName (ofFloat env price) else profile

/-- The profile up to the optional fields, if it is complete. -/
def profileHead (model : Fields) (provider : Text) : Except TokenError Fields :=
  let modelId := strip (strOr env (field model "model_id"))
  let provider := env.lower (strip provider)
  match finiteProfileNumber env (field model "input_price_per_million") false,
    finiteProfileNumber env (field model "output_price_per_million") false with
  | some inputPrice, some outputPrice =>
    if modelId = [] ∨ provider = [] ∨ inputPrice < 0 ∨ outputPrice < 0 then .error .profileIncomplete
    else
      .ok [("model_id", .str modelId), ("provider", .str provider), ("input_price_per_million", ofFloat env (.finite inputPrice)),
        ("output_price_per_million", ofFloat env (.finite outputPrice))]
  | _, _ => .error .profileIncomplete

/-- `signed_accounting_model_profile`. -/
def signedAccountingModelProfile (model : Value) (provider : Text) : Except TokenError Fields :=
  match model with
  | .obj model => do
    let profile ← profileHead env model provider
    let profile := addCachePrice env model profile .read
    let profile := addCachePrice env model profile .write
    accountingModelProfileFields.foldlM (addProfileField env model) profile
  | _ => .error (.profileInvalid none)

/-! ## Issuing -/

/-- `accounting_signing_secret`. -/
def accountingSigningSecret : Except TokenError Bytes :=
  if strip env.internalServiceToken = [] then .error .signingSecretRequired
  else .ok (encodeUtf8 (strip env.internalServiceToken))

/-- `base64url_encode`. -/
def base64urlEncode (value : Bytes) : Text := Base64.encode value

/-- `base64url_decode`. -/
def base64urlDecode (value : Text) : Option Bytes := Base64.decode (value ++ Base64.padding value.length)

/-- `hmac.compare_digest` of two texts. -/
def compareDigest (a b : Text) : Except TokenError Bool :=
  if a.all (·.toNat < 128) && b.all (·.toNat < 128) then .ok (a == b) else .error .notAscii

/-- `workflow_execution`. -/
structure WorkflowExecution where
  workflowRunId : Text
  budgetScopeId : Text
  reservationId : Text
  callLimitUsd : PyFloat
  maxOutputTokens : Int

/-- The arguments of `issue_accounting_token`. -/
structure TokenArguments where
  userId : Text
  routeId : Text
  routeName : Text
  modelId : Text
  provider : Text
  modelProfile : Value
  requestWeight : Value
  routingCallId : Text
  workflowExecution : Option WorkflowExecution

/-- The fields of a claim that name a reservation. -/
def workflowClaim : Option WorkflowExecution → Fields
  | none => []
  | some execution =>
    [("workflow_run_id", .str (strip execution.workflowRunId)), ("budget_scope_id", .str (strip execution.budgetScopeId)),
      ("reservation_id", .str (strip execution.reservationId)), ("max_output_tokens", .int execution.maxOutputTokens),
      ("call_limit_usd", ofFloat env execution.callLimitUsd)]

/-- The claim that is signed. -/
def accountingClaim (args : TokenArguments) (profile : Fields) : Fields :=
  [("v", .int (if args.workflowExecution.isSome then 2 else 1)), ("user_id", .str (strip args.userId)),
    ("route_id", .str (strip args.routeId)), ("route_name", .str (strip args.routeName)), ("model_id", .str (strip args.modelId)),
    ("provider", .str (env.lower (strip args.provider))), ("model_profile", .obj profile),
    ("request_weight", ofNumber? env (finiteProfileNumber env args.requestWeight true)),
    ("routing_call_id", .str (strip args.routingCallId))] ++ workflowClaim env args.workflowExecution

/-- `value is None or value == ""`. -/
def isMissing : Value → Bool
  | .null => true
  | .str s => s.isEmpty
  | _ => false

/-- The signature of a payload. -/
def sign (secret payload : Bytes) : Bytes := (env.hmac secret payload).toList

/-- The token of a claim. -/
def tokenText (secret : Bytes) (claim : Fields) : Text :=
  let payload := encodeUtf8 (dumps (.obj claim))
  base64urlEncode payload ++ '.' :: base64urlEncode (sign env secret payload)

/-- `issue_accounting_token`. -/
def issueAccountingToken (args : TokenArguments) : Except TokenError Text := do
  let profile ← signedAccountingModelProfile env args.modelProfile (env.lower (strip args.provider))
  let same ← compareDigest (pyStr env (field profile "model_id")) (strip args.modelId)
  if !same then throw .identityMismatch
  let claim := accountingClaim env args profile
  let missing := (claim.filter fun p => p.1 != "v" && isMissing p.2).map (·.1)
  if missing ≠ [] then throw (.claimIncomplete missing)
  let secret ← accountingSigningSecret env
  return tokenText env secret claim

/-! ## Verifying -/

/-- `legacy_keys`. -/
def legacyKeys : List String :=
  ["v", "user_id", "route_id", "route_name", "model_id", "provider", "model_profile", "request_weight", "routing_call_id"]

/-- `workflow_keys`. -/
def workflowKeys : List String :=
  legacyKeys ++ ["workflow_run_id", "budget_scope_id", "reservation_id", "max_output_tokens", "call_limit_usd"]

/-- `numeric_keys`. -/
def numericKeys : List String := ["v", "request_weight", "model_profile", "max_output_tokens", "call_limit_usd"]

/-- The number that `==` compares a value as. -/
def number? : Value → Option PyFloat
  | .bool b => some (.finite (if b then 1 else 0))
  | .int n => some (.finite n)
  | .float literal => env.read literal
  | .null | .str _ | .arr _ | .obj _ => none

/-- `a == b`, where `a` is neither an array nor an object. -/
def valueEq (a b : Value) : Bool :=
  match a, b with
  | .null, .null => true
  | .str s, .str t => s == t
  | a, b =>
    match number? env a, number? env b with
    | some x, some y => x == y
    | _, _ => false

/-- `fields == value`, where no field is an array or an object. -/
def sameFields (fields : Fields) (value : Value) : Bool :=
  match value with
  | .obj others =>
    fields.length == others.length && fields.all fun p =>
      match get? others p.1 with
      | some v => valueEq env p.2 v
      | none => false
  | _ => false

/-- `token.split(".", 1)`. -/
def splitToken (token : Text) : Option (Text × Text) :=
  match token.dropWhile (· != '.') with
  | [] => none
  | _ :: rest => some (token.takeWhile (· != '.'), rest)

/-- The error of everything that is not as it should be. -/
def orInvalid {α : Type} : Option α → Except TokenError α
  | some a => .ok a
  | none => .error .invalidToken

/-- The claim of a token, once its signature is checked. -/
def signedClaim (token : Text) : Except TokenError Value := do
  let (payloadPart, signaturePart) ← orInvalid (splitToken (strip token))
  let payload ← orInvalid (base64urlDecode payloadPart)
  let signature ← orInvalid (base64urlDecode signaturePart)
  let secret ← accountingSigningSecret env
  if signature ≠ sign env secret payload then throw .invalidToken
  let text ← orInvalid (decodeUtf8 payload)
  orInvalid (loads text)

/-- A text that is not blank. -/
def isIdentity : Value → Bool
  | .str s => strip s != []
  | _ => false

/-- The fields of a claim that name a reservation, checked; the claim that is returned. -/
def checkWorkflow (claim : Fields) : Except TokenError Fields :=
  match field claim "max_output_tokens", finiteProfileNumber env (field claim "call_limit_usd") true with
  | .int tokens, some limit =>
    if tokens ≤ 0 then .error .invalidToken else .ok (Json.set claim "call_limit_usd" (ofFloat env (.finite limit)))
  | _, _ => .error .invalidToken

/-- The keys of a claim, and its texts. -/
def checkKeys (claim : Fields) : Bool :=
  let version := number? env (field claim "v")
  let expected := if version = some (.finite 2) then workflowKeys else legacyKeys
  (claim.all fun p => expected.contains p.1) && (expected.all fun key => (get? claim key).isSome) &&
    (version == some (.finite 1) || version == some (.finite 2)) &&
    expected.all fun key => numericKeys.contains key || isIdentity (field claim key)

/-- The checks of `verify_accounting_token` on a claim that was signed. -/
def checkClaim (claim : Fields) : Except TokenError Fields := do
  if !checkKeys env claim then throw .invalidToken
  let weight ← orInvalid (finiteProfileNumber env (field claim "request_weight") true)
  let claim := Json.set claim "request_weight" (ofFloat env (.finite weight))
  let provider := env.lower (pyStr env (field claim "provider"))
  let claim := Json.set claim "provider" (.str provider)
  let profile ← orInvalid (signedAccountingModelProfile env (field claim "model_profile") provider).toOption
  if !sameFields env profile (field claim "model_profile") then throw .invalidToken
  let same ← compareDigest (pyStr env (field profile "model_id")) (pyStr env (field claim "model_id"))
  if !same then throw .invalidToken
  let claim ← if number? env (field claim "v") = some (.finite 2) then checkWorkflow env claim else pure claim
  return Json.set claim "model_profile" (.obj profile)

/-- `verify_accounting_token`. -/
def verifyAccountingToken (token : Text) : Except TokenError Fields := do
  if strip token = [] ∨ 8192 < token.length then throw .invalidToken
  match ← signedClaim env token with
  | .obj claim => checkClaim env claim
  | _ => throw .invalidToken

end Accounting

end PromptRail
