import PromptRail.Library.Collection
import PromptRail.Library.Concurrent
import PromptRail.Library.JsValue
import PromptRail.Library.Outcome

/-!
# Provider connections (`lib/infiniteProviderConnections.js`, `lib/providerCredentialEnvelope.js`)

A connection holds the credentials of a user at a provider, encrypted. It is created, rotated and revoked; each operation on the
collection is atomic, and between two of them other requests run. The cipher of `node:crypto` is a parameter. It is given the
credentials themselves: what `JSON.stringify` writes, `JSON.parse` reads back.
-/

namespace PromptRail

namespace ProviderConnections

open PyText (Text)
open Js (Value)

/-! ## Rows -/

/-- `CAPACITY_CLASSES`. -/
inductive CapacityClass where
  | managedFree
  | userFree
  | userSubscription
deriving DecidableEq

/-- `ADMISSION_STATUSES`. -/
inductive AdmissionStatus where
  | hostedAllowed
  | byokOnly
  | personalOnly
  | disabled
deriving DecidableEq

inductive Status where
  | active
  | revoked
deriving DecidableEq

/-- `CAPACITY_CLASSES.has`. -/
def CapacityClass.ofText (t : Text) : Option CapacityClass :=
  [("managed_free".toList, CapacityClass.managedFree), ("user_free".toList, .userFree),
    ("user_subscription".toList, .userSubscription)].lookup t

/-- `ADMISSION_STATUSES.has`. -/
def AdmissionStatus.ofText (t : Text) : Option AdmissionStatus :=
  [("hosted_allowed".toList, AdmissionStatus.hostedAllowed), ("byok_only".toList, .byokOnly), ("personal_only".toList, .personalOnly),
    ("disabled".toList, .disabled)].lookup t

/-- What the credentials are bound to. -/
structure AssociatedData where
  connectionId : Text
  userId : Option Text
  provider : Text
  keyVersion : Nat
deriving DecidableEq

/-- Encrypted credentials; the ciphertext stands with its tag. -/
structure Envelope (Box : Type) where
  version : Nat
  keyVersion : Nat
  algorithm : String
  iv : Text
  ciphertext : Box

/-- A row of the collection. -/
structure Connection (Box : Type) where
  id : Text
  userId : Option Text
  provider : Text
  capacityClass : CapacityClass
  admissionStatus : AdmissionStatus
  status : Status
  credentialVersion : Nat
  credentialEnvelope : Envelope Box
  source : Option String := none
  createdAt : Nat
  updatedAt : Nat
  rotatedAt : Option Nat := none
  revokedAt : Option Nat := none

/-- `publicProviderConnection`: a row without its credentials. -/
structure PublicConnection where
  id : Text
  provider : Text
  capacityClass : CapacityClass
  admissionStatus : AdmissionStatus
  status : Status
  credentialVersion : Nat
  createdAt : Nat
  updatedAt : Nat

def publicProviderConnection {Box : Type} (row : Connection Box) : PublicConnection where
  id := row.id
  provider := row.provider
  capacityClass := row.capacityClass
  admissionStatus := row.admissionStatus
  status := row.status
  credentialVersion := row.credentialVersion
  createdAt := row.createdAt
  updatedAt := row.updatedAt

/-- What the code does not decide: the allowlist of its environment, `toLowerCase`, the keys, and the cipher. -/
structure Env (Key Box : Type) where
  providerAllowlist : Text
  lower : Text → Text
  keyForVersion : Nat → Except String Key
  encipher : Key → Text → AssociatedData → Value → Box
  decipher : Key → Text → AssociatedData → Box → Option Value

variable {Key Box : Type}

/-! ## Validation -/

/-- `providerAllowlist`. -/
def Env.providers (env : Env Key Box) : List Text :=
  ((Js.split ',' env.providerAllowlist).map fun value => env.lower (Js.trim value)).filter (· ≠ [])

/-- What is known of the credentials of a valid request. -/
structure ProviderConnectionInput where
  provider : Text
  capacityClass : CapacityClass
  admissionStatus : AdmissionStatus
  apiKey : Text

/-- `validateProviderConnectionInput`. -/
def validateProviderConnectionInput (env : Env Key Box) (input : Value) : Except String ProviderConnectionInput := do
  let provider := env.lower (Js.trim (← Js.string ((input.field "provider").or (.str []))))
  let capacityClass ← Js.string ((input.field "capacityClass").or (.str []))
  let admissionStatus ← Js.string ((input.field "admissionStatus").or (.str []))
  let apiKey := Js.trim (← Js.string ((input.field "apiKey").or (.str [])))
  if provider = [] ∨ provider ∉ env.providers then
    throw "Provider is not admitted for PromptRail Infinite."
  match CapacityClass.ofText capacityClass, AdmissionStatus.ofText admissionStatus with
  | none, _ =>
    throw (if capacityClass = "user_paid".toList then "Paid API capacity is not supported by PromptRail Infinite."
      else "Invalid provider capacity class.")
  | some _, none => throw "Invalid hosted admission status."
  | some capacityClass, some admissionStatus =>
    if admissionStatus = .personalOnly ∨ admissionStatus = .disabled then
      throw "Provider admission status is not valid for hosted Infinite execution."
    if capacityClass = .managedFree then
      throw "Managed capacity cannot be created through a user connection API."
    if capacityClass = .userSubscription then
      throw "Subscription credentials require a reviewed OAuth connection flow."
    if capacityClass ≠ .userFree then
      throw "User API-key connections must use verified free capacity."
    if admissionStatus ≠ .byokOnly then
      throw "User API-key connections must use byok_only admission."
    if apiKey = [] ∨ 16384 < Js.length apiKey then
      throw "A valid provider API key is required."
    return { provider, capacityClass, admissionStatus, apiKey }

/-- `/"(?:__proto__|constructor|prototype)"\s*:/`, matched at the start of a text. -/
def namesPrototypeHere (t : Text) : Bool :=
  ["\"__proto__\"", "\"constructor\"", "\"prototype\""].any fun name =>
    name.toList.isPrefixOf t && ((t.drop name.toList.length).dropWhile Js.isSpace).head? == some ':'

/-- The credentials name a field of the prototype. -/
def namesPrototype (serialized : Text) : Bool := serialized.tails.any namesPrototypeHere

/-- The credentials of a subscription are an object. -/
def isObject : Value → Bool
  | .obj _ => true
  | _ => false

/-- `validateReviewedSubscriptionInput`. -/
def validateReviewedSubscriptionInput (env : Env Key Box) (input : Value) : Except String (Text × Value) := do
  let provider := env.lower (Js.trim (← Js.string ((input.field "provider").or (.str []))))
  let credentials := input.field "credentials"
  if provider = [] ∨ provider ∉ env.providers then
    throw "Provider is not admitted for PromptRail Infinite."
  if isObject credentials = false then
    throw "A reviewed subscription credential object is required."
  if 65536 < Js.length (Js.stringify credentials) ∨ namesPrototype (Js.stringify credentials) = true then
    throw "Subscription credential object is invalid."
  let authType ← Js.string ((credentials.field "authType").or (.str []))
  if authType ∉ ["oauth".toList, "access_token".toList] then
    throw "Subscription credentials must use oauth or access_token authType."
  let accessToken ← Js.string ((credentials.field "accessToken").or (.str []))
  if Js.trim accessToken = [] then
    throw "Subscription credentials require an access token."
  return (provider, credentials)

/-! ## Envelopes -/

/-- `encryptProviderCredentials`, under the first key. -/
def encryptProviderCredentials (env : Env Key Box) (iv : Text) (connectionId : Text) (userId : Option Text) (provider : Text)
    (credentials : Value) : Except String (Envelope Box) := do
  let key ← env.keyForVersion 1
  return {
    version := 1
    keyVersion := 1
    algorithm := "aes-256-gcm"
    iv
    ciphertext := env.encipher key iv { connectionId, userId, provider, keyVersion := 1 } credentials }

/-- `decryptProviderCredentials`. -/
def decryptProviderCredentials (env : Env Key Box) (connectionId : Text) (userId : Option Text) (provider : Text)
    (envelope : Envelope Box) : Except String Value := do
  if envelope.version ≠ 1 ∨ envelope.algorithm ≠ "aes-256-gcm" then
    throw "Unsupported provider credential envelope."
  let key ← env.keyForVersion envelope.keyVersion
  match env.decipher key envelope.iv { connectionId, userId, provider, keyVersion := envelope.keyVersion } envelope.ciphertext with
  | some credentials => return credentials
  | none => throw "Unsupported state or unable to authenticate data"

/-! ## Requests -/

/-- `{ apiKey }`. -/
def apiKeyCredentials (apiKey : Text) : Value := .obj [("apiKey".toList, .str apiKey)]

/-- What a request is told from outside: what `randomUUID` and `randomBytes` return, and the time. -/
structure Input where
  uuid : Text
  iv : Text
  now : Nat

/-- The row that `createInfiniteProviderConnection` inserts. -/
def createdRow (env : Env Key Box) (userId : Text) (input : Value) (told : Input) : Except String (Connection Box) := do
  let normalized ← validateProviderConnectionInput env input
  let id := "connection_".toList ++ told.uuid
  let credentialEnvelope ←
    encryptProviderCredentials env told.iv id (some userId) normalized.provider (apiKeyCredentials normalized.apiKey)
  return {
    id
    userId := some userId
    provider := normalized.provider
    capacityClass := normalized.capacityClass
    admissionStatus := normalized.admissionStatus
    status := .active
    credentialVersion := 1
    credentialEnvelope
    createdAt := told.now
    updatedAt := told.now }

/-- The row that `createReviewedSubscriptionConnection` inserts. -/
def reviewedRow (env : Env Key Box) (userId : Text) (input : Value) (told : Input) : Except String (Connection Box) := do
  if userId = [] then
    throw "A PromptRail tenant is required."
  let normalized ← validateReviewedSubscriptionInput env input
  let id := "connection_".toList ++ told.uuid
  let credentialEnvelope ← encryptProviderCredentials env told.iv id (some userId) normalized.1 normalized.2
  return {
    id
    userId := some userId
    provider := normalized.1
    capacityClass := .userSubscription
    admissionStatus := .hostedAllowed
    status := .active
    credentialVersion := 1
    credentialEnvelope
    source := some "reviewed_operator_import"
    createdAt := told.now
    updatedAt := told.now }

/-- `{ id: connectionId, userId, status: "active" }`. -/
def activeFilter (connectionId userId : Text) (row : Connection Box) : Bool :=
  row.id = connectionId ∧ row.userId = some userId ∧ row.status = .active

/-- The same, with the version that was read. -/
def versionFilter (connectionId userId : Text) (credentialVersion : Nat) (row : Connection Box) : Bool :=
  activeFilter connectionId userId row ∧ row.credentialVersion = credentialVersion

/-- `$set` of a revocation. -/
def Connection.revoke (now : Nat) (row : Connection Box) : Connection Box :=
  { row with status := .revoked, revokedAt := some now, updatedAt := now }

/-- `$set` of a rotation. -/
def Connection.replace (credentialVersion : Nat) (credentialEnvelope : Envelope Box) (now : Nat) (row : Connection Box) :
    Connection Box :=
  { row with credentialVersion, credentialEnvelope, rotatedAt := some now, updatedAt := now }

/-- A call of one of the operations. -/
inductive Request where
  | create (userId : Text) (input : Value)
  | createReviewed (userId : Text) (input : Value)
  | revoke (userId connectionId : Text)
  | rotate (userId connectionId : Text) (apiKey : Value)

/-- What an operation returns. -/
inductive Outcome where
  | created (connection : PublicConnection)
  | revoked (modified : Bool)
  | rotated (connection : PublicConnection)

/-- What a request does next: it starts, inserts the row that it made, or replaces the envelope of the row that it read. -/
inductive Task (Box : Type) where
  | requested (request : Request)
  | insert (row : Connection Box)
  | replace (userId connectionId : Text) (row : Connection Box) (credentialEnvelope : Envelope Box) (now : Nat)
  | done (outcome : Except String Outcome)

/-- The first half of `rotateInfiniteProviderConnection`: the row that is read, and the envelope that is to replace its own. -/
def readRotation (env : Env Key Box) (rows : List (Connection Box)) (userId connectionId : Text) (apiKey : Value) (told : Input) :
    Except String (Connection Box × Envelope Box) := do
  let normalizedApiKey := Js.trim (← Js.string (apiKey.or (.str [])))
  if normalizedApiKey = [] ∨ 16384 < Js.length normalizedApiKey then
    throw "A valid provider API key is required."
  match rows.find? (activeFilter connectionId userId) with
  | none => throw "Provider connection is unavailable."
  | some row =>
    let credentialEnvelope ← encryptProviderCredentials env told.iv row.id row.userId row.provider (apiKeyCredentials normalizedApiKey)
    return (row, credentialEnvelope)

/-- A request that made a row inserts it next. -/
def Task.ofRow : Except String (Connection Box) → Task Box
  | .ok row => .insert row
  | .error e => .done (.error e)

/-- A request that read a row replaces its envelope next. -/
def Task.ofRotation (userId connectionId : Text) (now : Nat) : Except String (Connection Box × Envelope Box) → Task Box
  | .ok (row, credentialEnvelope) => .replace userId connectionId row credentialEnvelope now
  | .error e => .done (.error e)

/-- One turn of a request, with at most one operation on the collection. -/
def turn (env : Env Key Box) (rows : List (Connection Box)) (task : Task Box) (told : Input) : List (Connection Box) × Task Box :=
  match task with
  | .requested (.create userId input) => (rows, .ofRow (createdRow env userId input told))
  | .requested (.createReviewed userId input) => (rows, .ofRow (reviewedRow env userId input told))
  | .insert row => (rows ++ [row], .done (.ok (.created (publicProviderConnection row))))
  | .requested (.revoke userId connectionId) =>
    (Collection.updateOne (activeFilter connectionId userId) (Connection.revoke told.now) rows,
      .done (.ok (.revoked (rows.any (activeFilter connectionId userId)))))
  | .requested (.rotate userId connectionId apiKey) =>
    (rows, .ofRotation userId connectionId told.now (readRotation env rows userId connectionId apiKey told))
  | .replace userId connectionId row credentialEnvelope now =>
    let filter := versionFilter connectionId userId row.credentialVersion
    let set := Connection.replace (row.credentialVersion + 1) credentialEnvelope now
    match rows.find? filter with
    | none => (rows, .done (.error "Provider connection changed during credential rotation."))
    | some updated => (Collection.updateOne filter set rows, .done (.ok (.rotated (publicProviderConnection (set updated)))))
  | .done outcome => (rows, .done outcome)

/-- A request that is cut off between two operations. -/
def Task.cutOff : Task Box → Task Box
  | .done outcome => .done outcome
  | _ => .done (.error "The request was cut off.")

/-- The operations on the connections. -/
def system (env : Env Key Box) : Concurrent.Program (List (Connection Box)) Request (Task Box) Input Empty where
  start := Task.requested
  turn := turn env
  halt := Task.cutOff
  happen _ event := nomatch event

/-! ## Reading -/

/-- A connection that is hydrated. -/
structure HydratedConnection where
  id : Text
  provider : Text
  capacityClass : CapacityClass
  admissionStatus : AdmissionStatus
  credentialVersion : Nat
  authType : Text
  credentials : Value
  apiKey : Option Value

/-- The filter of `hydrateInfiniteProviderConnections`. -/
def hydrateFilter (uniqueIds : List Text) (userId : Text) (row : Connection Box) : Bool :=
  row.id ∈ uniqueIds ∧ row.status = .active ∧
    (row.userId = some userId ∨ row.userId = none ∧ row.capacityClass = .managedFree ∧ row.admissionStatus = .hostedAllowed)

/-- One connection, decrypted. -/
def hydrate (env : Env Key Box) (row : Connection Box) : Except String HydratedConnection := do
  let credentials ← decryptProviderCredentials env row.id row.userId row.provider row.credentialEnvelope
  let authType ← Js.string ((credentials.field "authType").or (.str "apikey".toList))
  let apiKey := credentials.field "apiKey"
  return {
    id := row.id
    provider := row.provider
    capacityClass := row.capacityClass
    admissionStatus := row.admissionStatus
    credentialVersion := row.credentialVersion
    authType
    credentials
    apiKey := if apiKey.truthy then some apiKey else none }

/-- `hydrateInfiniteProviderConnections`. -/
def hydrateInfiniteProviderConnections (env : Env Key Box) (rows : List (Connection Box)) (userId : Text) (connectionIds : List Value) :
    Except String (List HydratedConnection) := do
  let uniqueIds := (← connectionIds.mapM Js.string).eraseDups
  if userId = [] ∨ uniqueIds = [] ∨ 20 < uniqueIds.length then
    throw "A tenant and between 1 and 20 connection IDs are required."
  let rows := rows.filter (hydrateFilter uniqueIds userId)
  if rows.length ≠ uniqueIds.length then
    throw "One or more provider connections are unavailable."
  uniqueIds.mapM fun id =>
    match rows.reverse.find? (·.id = id) with
    | some row => hydrate env row
    | none => throw "Cannot read properties of undefined (reading 'id')"

end ProviderConnections

end PromptRail
