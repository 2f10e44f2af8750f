import Mathlib.Algebra.Order.Ring.Rat
import PromptRail.Library.Concurrent
import PromptRail.Library.JsValue
import PromptRail.Site.Subscriptions

/-!
# Device sessions (`app/api/cli`, `app/lib/store.js`, `app/lib/installation.js`)

A command line tool opens a session and shows its code; a user who is signed in approves or denies the code; the tool polls until it is
given an install token, and posts the token to one of two endpoints for an API key. Each operation on the collections is atomic, and the
time at which a request looks at the clock is before the operation that it is for.
-/

namespace PromptRail

namespace Device

open PyText (Text)
open Js (Value)
open Collection (updateOne upsertOne)

/-! ## Rows -/

inductive Product where
  | router
  | infinite
deriving DecidableEq

inductive Status where
  | pending
  | approved
  | denied
  | consumed
deriving DecidableEq

/-- A document of `device_sessions`. -/
structure DeviceSession where
  id : String
  deviceCodeHash : Text
  userCode : Text
  product : Product
  deviceName : Text
  detectedHarnesses : List Text
  status : Status := .pending
  userId : Option String := none
  userEmail : Option String := none
  approvedAt : Option Nat := none
  consumedAt : Option Nat := none
  expiresAt : Nat
  createdAt : Nat
  updatedAt : Nat
  installTokenHash : Option Text := none
  installTokenExpiresAt : Option Nat := none
  installTokenConsumedAt : Option Nat := none
deriving DecidableEq

/-- What `normalizeUserBudgetInput` returns; the defaults are `userBudgetDefaults`. -/
structure Budget where
  routeId : Text
  budgetUsd : ℚ := 0
  budgetRemainingUsd : ℚ := 0
  remainingWeight : Option ℚ := none
  totalPredictedWeight : Option ℚ := none
  medianWeightedTokens : Option ℚ := none
  averageRequestsPerPeriod : Option ℚ := none
  outputTokenWeight : Option ℚ := none
  requestWeightBeta : Option ℚ := none
  requestDifficultyAlpha : Option ℚ := none
  requestWeightMin : Option ℚ := none
  requestWeightCapMultiplier : Option ℚ := none
  difficultyWeightAlpha : Option ℚ := none
  budgetShadowPrice : ℚ := 3 / 4
  budgetControllerLearningRate : ℚ := 10
  budgetShadowPriceMin : ℚ := 0
  budgetShadowPriceMax : ℚ := 100
  budgetCycleDays : Nat := 30
  budgetElapsedDays : Nat := 0
  budgetCycleStartedAt : Option Nat := none
deriving DecidableEq

/-- A document of `users`: what an installation reads and writes. -/
structure UserRow where
  id : String
  email : Option String
  name : String
  emailVerified : Bool
  budget : Budget
  createdAt : Nat
  updatedAt : Nat
deriving DecidableEq

inductive Cycle where
  | weekly
  | monthly
  | quarterly
  | yearly
deriving DecidableEq

/-- A document of `user_budgets`, under its user and route. -/
structure BudgetRow where
  userId : String
  email : Option String
  planType : Cycle
  budget : Budget
  createdAt : Nat
  updatedAt : Nat
deriving DecidableEq

inductive Harness where
  | hermes
  | openclaw
deriving DecidableEq

inductive InferenceMode where
  | userManaged
  | routerManaged
deriving DecidableEq

/-- What `validateInstallationManifest` returns. -/
structure Manifest where
  installationId : String
  workspaceName : Text
  routeId : Text
  harness : Harness
  inferenceMode : InferenceMode
  amountUsd : ℚ
  cycle : Cycle
  routeRefreshInterval : Text
deriving DecidableEq

/-- A document of `installations`, under its user, route and harness. -/
structure Installation where
  userId : String
  userEmail : Option String
  manifest : Manifest
  apiKeyId : String
  createdAt : Nat
  updatedAt : Nat
deriving DecidableEq

/-- The collections. -/
structure Store where
  deviceSessions : List DeviceSession := []
  users : List UserRow := []
  userBudgets : List BudgetRow := []
  installations : List Installation := []
  site : Site.Store := {}

/-- A user: the one of a web session, or the one who approved a device session. -/
structure User where
  id : String
  email : Option String
deriving DecidableEq

/-- What the code does not decide: `apiKeyHash`, the case of a text, `Number` where it is finite, and `Math.round(x * 100) / 100`. -/
structure Env where
  apiKeyHash : Text → Text
  lower : Text → Text
  upper : Text → Text
  number : Value → Except String (Option ℚ)
  cents : ℚ → ℚ

/-- What a request is told from outside: the time, and what the random generators return. -/
structure Input where
  now : Nat
  uuid : String := ""
  deviceCode : Text := []
  userCode : Text := []
  installToken : Text := []
  apiKey : Text := []

/-! ## Manifests -/

/-- `INSTALLATION_HARNESSES.has`. -/
def Harness.ofText (t : Text) : Option Harness := [("hermes".toList, Harness.hermes), ("openclaw".toList, .openclaw)].lookup t

/-- `INSTALLATION_INFERENCE_MODES.has`. -/
def InferenceMode.ofText (t : Text) : Option InferenceMode :=
  [("user_managed".toList, InferenceMode.userManaged), ("router_managed".toList, .routerManaged)].lookup t

/-- `INSTALLATION_CYCLES.has`. -/
def Cycle.ofText (t : Text) : Option Cycle :=
  [("weekly".toList, Cycle.weekly), ("monthly".toList, .monthly), ("quarterly".toList, .quarterly), ("yearly".toList, .yearly)].lookup t

/-- `PLAN_DAYS`. -/
def Cycle.days : Cycle → Nat
  | .weekly => 7
  | .monthly => 30
  | .quarterly => 91
  | .yearly => 365

/-- `replace(/[^a-z0-9]+/g, "_")`; the flag says that the last character was replaced. -/
def squash : Bool → Text → Text
  | _, [] => []
  | replaced, c :: t =>
    if ('a' ≤ c ∧ c ≤ 'z') ∨ ('0' ≤ c ∧ c ≤ '9') then c :: squash false t
    else if replaced then squash true t
    else '_' :: squash true t

/-- `routeIdFromWorkspace`. -/
def routeIdFromWorkspace (env : Env) (workspaceName : Text) : Text :=
  let replaced := squash false (env.lower (if workspaceName = [] then "workspace".toList else workspaceName))
  let trimmed := ((replaced.dropWhile (· = '_')).reverse.dropWhile (· = '_')).reverse
  let seed := trimmed.take 32
  "route_".toList ++ if seed = [] then "workspace".toList else seed

/-- `String(input.name || fallback).trim()`. -/
def trimmed (input : Value) (name : String) (fallback : Text) : Except String Text :=
  (Js.string ((input.field name).or (.str fallback))).map Js.trim

/-- `validateInstallationManifest`. -/
def validateInstallationManifest (env : Env) (input : Value) (uuid : String) : Except String Manifest := do
  if input matches .null then
    throw "Cannot read properties of null (reading 'workspace_name')"
  let workspaceName ← trimmed input "workspace_name" []
  let harness := env.lower (← trimmed input "harness" [])
  let inferenceMode := env.lower (← trimmed input "inference_mode" [])
  let amountUsd ← env.number ((input.field "budget").field "amount_usd")
  let cycle := env.lower (← trimmed (input.field "budget") "cycle" [])
  let routeRefreshInterval := env.lower (← trimmed input "route_refresh_interval" "7d".toList)
  if workspaceName = [] ∨ 80 < Js.length workspaceName then
    throw "workspace_name must contain 1 to 80 characters."
  match Harness.ofText harness, InferenceMode.ofText inferenceMode, amountUsd, Cycle.ofText cycle with
  | none, _, _, _ => throw "harness must be hermes or openclaw."
  | some _, none, _, _ => throw "inference_mode must be user_managed or router_managed."
  | some _, some _, none, _ => throw "budget.amount_usd must be a positive number."
  | some harness, some inferenceMode, some amountUsd, cycle? =>
    if amountUsd ≤ 0 then
      throw "budget.amount_usd must be a positive number."
    match cycle? with
    | none => throw "budget.cycle must be weekly, monthly, quarterly, or yearly."
    | some cycle =>
      if routeRefreshInterval ≠ "7d".toList then
        throw "route_refresh_interval must be 7d in this release."
      return {
        installationId := uuid
        workspaceName
        routeId := routeIdFromWorkspace env workspaceName
        harness
        inferenceMode
        amountUsd := env.cents amountUsd
        cycle
        routeRefreshInterval }

/-- `budgetInputFromManifest`. -/
def budgetInputFromManifest (manifest : Manifest) (now : Nat) : Budget where
  routeId := manifest.routeId
  budgetUsd := max 0 manifest.amountUsd
  budgetRemainingUsd := min (max 0 manifest.amountUsd) (max 0 manifest.amountUsd)
  budgetCycleDays := manifest.cycle.days
  budgetCycleStartedAt := some now

/-! ## Sessions -/

/-- `createDeviceSession`. -/
def createDeviceSession (store : Store) (session : DeviceSession) : Store :=
  { store with deviceSessions := store.deviceSessions ++ [session] }

/-- What `findOneAndUpdate` returns and leaves. -/
def findOneAndUpdate (store : Store) (filter : DeviceSession → Bool) (set : DeviceSession → DeviceSession) :
    Option DeviceSession × Store :=
  ((store.deviceSessions.find? filter).map set, { store with deviceSessions := updateOne filter set store.deviceSessions })

/-- The filter of `decideDeviceSession`. -/
def pendingFilter (userCode : Text) (now : Nat) (session : DeviceSession) : Bool :=
  session.userCode = userCode ∧ session.status = .pending ∧ session.consumedAt = none ∧ now < session.expiresAt

/-- `$set` of `decideDeviceSession`. -/
def DeviceSession.decide (user : User) (approved : Bool) (now : Nat) (session : DeviceSession) : DeviceSession :=
  { session with
    status := if approved then .approved else .denied
    userId := some user.id
    userEmail := user.email
    approvedAt := if approved then some now else none
    updatedAt := now }

/-- The filter of `consumeApprovedDeviceSession`. -/
def approvedFilter (deviceCodeHash : Text) (now : Nat) (session : DeviceSession) : Bool :=
  session.deviceCodeHash = deviceCodeHash ∧ session.status = .approved ∧ session.consumedAt = none ∧ now < session.expiresAt

/-- `$set` of `consumeApprovedDeviceSession`. -/
def DeviceSession.grant (installTokenHash : Text) (installTokenExpiresAt now : Nat) (session : DeviceSession) : DeviceSession :=
  { session with
    status := .consumed
    consumedAt := some now
    installTokenHash := some installTokenHash
    installTokenExpiresAt := some installTokenExpiresAt
    updatedAt := now }

/-- The filter of `consumeInstallToken`. -/
def tokenFilter (installTokenHash : Text) (now : Nat) (session : DeviceSession) : Bool :=
  session.installTokenHash = some installTokenHash ∧ (session.installTokenExpiresAt.any fun expiresAt => now < expiresAt) ∧
    session.installTokenConsumedAt = none ∧ session.userId ≠ none

/-- `$set` of `consumeInstallToken`. -/
def DeviceSession.useToken (now : Nat) (session : DeviceSession) : DeviceSession :=
  { session with installTokenConsumedAt := some now, updatedAt := now }

/-! ## Budgets and installations -/

/-- `findUserDocument`. -/
def findUserDocument (store : Store) (user : User) : Option UserRow :=
  (store.users.find? (·.id = user.id)).or (user.email.bind fun email => store.users.find? (·.email = some email))

/-- `userDocumentFilter`. -/
def userDocumentFilter (store : Store) (user : User) (row : UserRow) : Bool :=
  row.id = ((findUserDocument store user).map (·.id)).getD user.id

/-- `email.split("@")[0] || "PromptRail user"`. -/
def User.name (user : User) : String :=
  match user.email.map fun email => email.toList.takeWhile (· ≠ '@') with
  | none | some [] => "PromptRail user"
  | some name => String.ofList name

/-- `ensureUserDefaults`: the budget that is left of the user, and the store after it. -/
def ensureUserDefaults (store : Store) (user : User) (routeId : Text) (now : Nat) : ℚ × Store :=
  let fresh : UserRow := {
    id := user.id
    email := user.email
    name := user.name
    emailVerified := true
    budget := { routeId }
    createdAt := now
    updatedAt := now }
  let set (row : UserRow) : UserRow :=
    { row with email := user.email, name := user.name, emailVerified := true, budget.routeId := routeId, updatedAt := now }
  let store := { store with users := upsertOne (userDocumentFilter store user) set fresh store.users }
  (((findUserDocument store user).map (·.budget.budgetRemainingUsd)).getD 0, store)

/-- The first write of `updateUserBudget`. -/
def setUserBudget (store : Store) (user : User) (budget : Budget) (remaining : ℚ) (now : Nat) : Store :=
  { store with
    users := updateOne (userDocumentFilter store user)
      (fun row => { row with budget := { budget with budgetRemainingUsd := remaining }, updatedAt := now }) store.users }

/-- The second write of `updateUserBudget`. -/
def setBudgetRow (store : Store) (user : User) (budget : Budget) (planType : Cycle) (remaining : ℚ) (now : Nat) : Store :=
  let budget := { budget with budgetRemainingUsd := remaining }
  { store with
    userBudgets := upsertOne (fun row => row.userId = user.id ∧ row.budget.routeId = budget.routeId)
      (fun row => { row with userId := user.id, email := user.email, planType, budget, updatedAt := now })
      { userId := user.id, email := user.email, planType, budget, createdAt := now, updatedAt := now } store.userBudgets }

/-- `saveInstallation`. -/
def saveInstallation (store : Store) (user : User) (manifest : Manifest) (apiKeyId : String) (now : Nat) : Store :=
  { store with
    installations := upsertOne
      (fun row => row.userId = user.id ∧ row.manifest.routeId = manifest.routeId ∧ row.manifest.harness = manifest.harness)
      (fun row => { row with
        userEmail := user.email
        manifest := { manifest with installationId := row.manifest.installationId }
        apiKeyId
        updatedAt := now })
      { userId := user.id, userEmail := user.email, manifest, apiKeyId, createdAt := now, updatedAt := now } store.installations }

/-! ## Requests -/

/-- A call of one of the endpoints; a body that is no JSON is none. -/
inductive Request where
  | create (body : Option Value)
  | approve (user : Option User) (body : Option Value)
  | poll (body : Option Value)
  | install (authorization : Text) (body : Option Value)
  | installInfinite (authorization : Text) (body : Option Value)

/-- What an endpoint answers; an error that is not caught is answered with 500. -/
inductive Response where
  | created (deviceCode userCode : Text)
  | device (session : DeviceSession)
  | installToken (installToken : Text)
  | credential (apiKey : Text) (apiKeyId : String)
  | rejected (status : Nat) (error : String)
deriving DecidableEq

/-- What is to be installed: a route, with the body of the request, or the name of a device that is to infer. -/
inductive Endpoint where
  | router (body : Option Value)
  | infinite (deviceName : Text)

/-- What a request does next. -/
inductive Task where
  | requested (request : Request)
  | insertSession (session : DeviceSession) (deviceCode : Text)
  | decide (userCode : Text) (user : User) (approved : Bool) (now : Nat)
  | grant (deviceCodeHash installToken : Text) (installTokenExpiresAt : Nat)
  | grantAt (deviceCodeHash installToken : Text) (installTokenExpiresAt now : Nat)
  | consume (endpoint : Endpoint) (installTokenHash : Text) (now : Nat)
  | ensureUser (session : DeviceSession) (user : User) (manifest : Manifest)
  | setUser (session : DeviceSession) (user : User) (manifest : Manifest) (budget : Budget) (remaining : ℚ)
  | setBudget (session : DeviceSession) (user : User) (manifest : Manifest) (budget : Budget) (remaining : ℚ)
  | checkAccess (session : DeviceSession) (user : User) (deviceName : Text)
  | insertKey (session : DeviceSession) (user : User) (manifest : Option Manifest) (key : Site.ApiKey) (apiKey : Text)
  | save (session : DeviceSession) (user : User) (manifest : Manifest) (key : Site.ApiKey) (apiKey : Text)
  | done (response : Response)

/-- An error that is not caught. -/
def Task.raised (e : String) : Task := .done (.rejected 500 e)

/-- What follows a computation that may raise. -/
def Task.of {α : Type} (result : Except String α) (next : α → Task) : Task :=
  match result with
  | .ok a => next a
  | .error e => .raised e

/-- A field of a body is read, which no `null` has. -/
def nonNull (body : Value) : Except String Unit := if body matches .null then .error "Cannot read properties of null" else .ok ()

/-- `Array.isArray(body.detected_harnesses) ? ... : []`. -/
def detectedHarnesses : Value → Except String (List Text)
  | .arr xs => (xs.mapM Js.string).map fun ts => (ts.filter (· ≠ [])).take 4
  | _ => .ok []

/-- `POST /api/cli/device`, up to the row that it inserts. -/
def openSession (env : Env) (body : Value) (told : Input) : Task :=
  .of (nonNull body >>= fun _ => trimmed body "product" "router".toList) fun product =>
    match [("router".toList, Product.router), ("infinite".toList, .infinite)].lookup (env.lower product) with
    | none => .done (.rejected 400 "unsupported_product")
    | some product =>
      .of (detectedHarnesses (body.field "detected_harnesses")) fun detectedHarnesses =>
        .of (Js.string ((body.field "device_name").or (.str "PromptRail CLI".toList))) fun deviceName =>
          .insertSession {
            id := told.uuid
            deviceCodeHash := env.apiKeyHash told.deviceCode
            userCode := told.userCode
            product
            deviceName := Js.slice 120 deviceName
            detectedHarnesses
            expiresAt := told.now + 600 * 1000
            createdAt := told.now
            updatedAt := told.now } told.deviceCode

/-- `POST /api/cli/device/approve`, up to the decision. -/
def approveSession (env : Env) (user : Option User) (body : Value) (told : Input) : Task :=
  match user with
  | none => .done (.rejected 401 "Unauthorized")
  | some user =>
    .of (nonNull body >>= fun _ => trimmed body "code" []) fun code =>
      let decision : Option Bool :=
        match body.field "decision" with
        | .str t => [("approve".toList, true), ("deny".toList, false)].lookup t
        | _ => none
      match env.upper code, decision with
      | [], _ | _, none => .done (.rejected 400 "Invalid approval request.")
      | code, some approved => .decide code user approved told.now

/-- `PUT /api/cli/device`, up to the token that it would grant. -/
def pollSession (env : Env) (store : Store) (body : Value) (told : Input) : Task :=
  .of (nonNull body >>= fun _ => Js.string ((body.field "device_code").or (.str []))) fun deviceCode =>
    if deviceCode = [] then .done (.rejected 400 "invalid_request")
    else
      match store.deviceSessions.find? (·.deviceCodeHash = env.apiKeyHash deviceCode) with
      | none => .done (.rejected 400 "invalid_device_code")
      | some session =>
        if session.expiresAt ≤ told.now then .done (.rejected 400 "expired_token")
        else
          match session.status with
          | .denied => .done (.rejected 400 "access_denied")
          | .consumed => .done (.rejected 409 "invalid_grant")
          | .pending => .done (.rejected 428 "authorization_pending")
          | .approved => .grant (env.apiKeyHash deviceCode) told.installToken (told.now + 300 * 1000)

/-- `bearerToken`. -/
def bearerToken (authorization : Text) : Text :=
  if "Bearer ".toList.isPrefixOf authorization then Js.trim (authorization.drop 7) else []

/-- An installation, up to the token that it uses. -/
def startInstall (env : Env) (authorization : Text) (endpoint : Except String Endpoint) (told : Input) : Task :=
  if bearerToken authorization = [] then .done (.rejected 401 "Missing installation token.")
  else .of endpoint fun endpoint => .consume endpoint (env.apiKeyHash (bearerToken authorization)) told.now

/-- `String(body.device_name || "PromptRail CLI").trim().slice(0, 120) || "PromptRail CLI"`. -/
def infiniteEndpoint (body : Value) : Except String Endpoint := do
  nonNull body
  let deviceName := Js.slice 120 (← trimmed body "device_name" "PromptRail CLI".toList)
  return .infinite (if deviceName = [] then "PromptRail CLI".toList else deviceName)

/-- What an installation does with the session whose token it has used. -/
def granted (env : Env) (endpoint : Endpoint) (session : Option DeviceSession) (told : Input) : Task :=
  match endpoint, session.bind fun session =>
    session.userId.map fun userId => (session, ({ id := userId, email := session.userEmail } : User)) with
  | .router _, none => .done (.rejected 401 "Installation token is invalid, expired, or already used.")
  | .infinite _, none =>
    .done (.rejected 401 "Installation token is invalid, expired, already used, or for another product.")
  | .router body, some (session, user) =>
    if session.product ≠ .router then .done (.rejected 401 "Installation token is invalid, expired, or already used.")
    else
      match body with
      | none => .done (.rejected 400 "Unexpected end of JSON input")
      | some body =>
        match validateInstallationManifest env body told.uuid with
        | .error e => .done (.rejected 400 e)
        | .ok manifest => .ensureUser session user manifest
  | .infinite deviceName, some (session, user) =>
    if session.product ≠ .infinite then
      .done (.rejected 401 "Installation token is invalid, expired, already used, or for another product.")
    else .checkAccess session user deviceName

/-- One turn of a request, with at most one operation that writes. -/
def turn (env : Env) (store : Store) (task : Task) (told : Input) : Store × Task :=
  match task with
  | .requested (.create body) => (store, openSession env (body.getD (.obj [])) told)
  | .insertSession session deviceCode => (createDeviceSession store session, .done (.created deviceCode session.userCode))
  | .requested (.approve user body) => (store, approveSession env user (body.getD (.obj [])) told)
  | .decide userCode user approved now =>
    let (device, store) := findOneAndUpdate store (pendingFilter userCode now) (DeviceSession.decide user approved now)
    (store, match device with
      | none => .done (.rejected 409 "Device session is expired or already decided.")
      | some device => .done (.device device))
  | .requested (.poll body) => (store, pollSession env store (body.getD (.obj [])) told)
  | .grant deviceCodeHash installToken installTokenExpiresAt =>
    (store, .grantAt deviceCodeHash installToken installTokenExpiresAt told.now)
  | .grantAt deviceCodeHash installToken installTokenExpiresAt now =>
    let (consumed, store) := findOneAndUpdate store (approvedFilter deviceCodeHash now)
      (DeviceSession.grant (env.apiKeyHash installToken) installTokenExpiresAt now)
    (store, match consumed with
      | none => .done (.rejected 409 "invalid_grant")
      | some _ => .done (.installToken installToken))
  | .requested (.install authorization body) => (store, startInstall env authorization (.ok (.router body)) told)
  | .requested (.installInfinite authorization body) =>
    (store, startInstall env authorization (infiniteEndpoint (body.getD (.obj []))) told)
  | .consume endpoint installTokenHash now =>
    let (session, store) := findOneAndUpdate store (tokenFilter installTokenHash now) (DeviceSession.useToken now)
    (store, granted env endpoint session told)
  | .ensureUser session user manifest =>
    let (remaining, store) := ensureUserDefaults store user manifest.routeId told.now
    (store, .setUser session user manifest (budgetInputFromManifest manifest told.now) remaining)
  | .setUser session user manifest budget remaining =>
    (setUserBudget store user budget remaining told.now, .setBudget session user manifest budget remaining)
  | .setBudget session user manifest budget remaining =>
    (setBudgetRow store user budget manifest.cycle remaining told.now, .insertKey session user (some manifest)
      { id := told.uuid, userId := user.id, routeId := String.ofList manifest.routeId, kind := none } told.apiKey)
  | .checkAccess session user _ =>
    if (Site.getInfiniteAccess store.site user.id).allowed = false then
      (store, .done (.rejected 402 "An active PromptRail Infinite subscription is required."))
    else
      (store, .insertKey session user none { id := told.uuid, userId := user.id, routeId := "infinite", kind := some "infinite" }
        told.apiKey)
  | .insertKey session user manifest key apiKey =>
    ({ store with site := Site.insertApiKey store.site key }, match manifest with
      | none => .done (.credential apiKey key.id)
      | some manifest => .save session user manifest key apiKey)
  | .save _ user manifest key apiKey =>
    (saveInstallation store user manifest key.id told.now, .done (.credential apiKey key.id))
  | .done response => (store, .done response)

/-- A request that is cut off, or whose operation fails. -/
def Task.cutOff : Task → Task
  | .done response => .done response
  | _ => .raised "The database operation failed."

/-- The endpoints. What else happens changes any collection but the sessions. -/
def system (env : Env) : Concurrent.Program Store Request Task Input Store where
  start := Task.requested
  turn := turn env
  halt := Task.cutOff
  happen store other := { other with deviceSessions := store.deviceSessions }

end Device

end PromptRail
