import Mathlib.Data.List.Dedup
import Mathlib.Data.List.Sort
import PromptRail.Site

/-!
# Subscriptions, entitlements and keys (`app/lib/pluginAccess.js`, `app/lib/infiniteAccess.js`, `app/api/billing/webhook`)

A user has one subscription row, which every event of every subscription of the user rewrites, and one entitlement row for each
product. The keys of a product are made while the product is allowed and revoked when a subscription ends.
-/

namespace PromptRail

open Collection (updateOne upsertOne updateMany)

namespace Site

/-- `String(status || fallback)`. -/
def statusOr (status fallback : String) : String := if status = "" then fallback else status

/-- `a || b` of two strings that may be missing. -/
def orElse (a b : Option String) : Option String := (a.filter (· ≠ "")).or (b.filter (· ≠ ""))

/-- The distinct strings of a list, in order. -/
def sortedSet (l : List String) : List String := l.dedup.insertionSort (· ≤ ·)

/-! ## Plugin access -/

/-- `ACTIVE_SUBSCRIPTION_STATUSES`, and `ACTIVE_STATUSES` of the entitlements. -/
def activeStatuses : List (List Char) := ["active".toList, "trialing".toList]

/-- `pluginSubscriptionActive`; no character outside ASCII has a letter of these statuses as its lower case. -/
def pluginSubscriptionActive (status : String) : Bool := activeStatuses.contains (status.toList.map Char.toLower)

/-- What `buildPluginAccessSnapshot` says of a subscription row. -/
structure PluginAccess where
  allowed : Bool
  tier : String
  subscriptionStatus : Option String
  stripeCustomerId : Option String
  stripeSubscriptionId : Option String
  cancelAtPeriodEnd : Bool
deriving DecidableEq

/-- `buildPluginAccessSnapshot`. -/
def buildPluginAccessSnapshot (subscription : Option PluginSubscription) : PluginAccess where
  allowed := subscription.any fun row => pluginSubscriptionActive row.status
  tier := if subscription.any fun row => pluginSubscriptionActive row.status then "subscriber" else "none"
  subscriptionStatus := subscription.map (·.status)
  stripeCustomerId := subscription.bind (·.stripeCustomerId)
  stripeSubscriptionId := subscription.bind (·.stripeSubscriptionId)
  cancelAtPeriodEnd := subscription.any (·.cancelAtPeriodEnd)

/-- `subscriptionForUser`. -/
def subscriptionForUser (store : Store) (userId : String) : Option PluginSubscription :=
  if userId = "" then none else store.pluginAccess.find? fun row => row.userId = userId

/-- `getPluginAccess`. -/
def getPluginAccess (store : Store) (userId : String) : PluginAccess :=
  buildPluginAccessSnapshot (subscriptionForUser store userId)

/-- The keys `/^plugin_/` is about. -/
def pluginRoute (routeId : String) : Bool := "plugin_".toList.isPrefixOf routeId.toList

/-- `{ kind: "plugin" }` or `{ routeId: /^plugin_/ }`. -/
def ApiKey.isPlugin (key : ApiKey) : Bool := decide (key.kind = some "plugin") || pluginRoute key.routeId

/-- The unrevoked keys of a user that meet a filter are revoked. -/
def revokeKeys (store : Store) (userId : String) (filter : ApiKey → Bool) (reason : String) : Store :=
  { store with
    apiKeys := updateMany (fun key => decide (key.userId = userId) && !key.revoked && filter key)
      (fun key => { key with revoked := true, revokedReason := some reason }) store.apiKeys }

/-- The row that `syncPluginSubscription` sets. -/
def subscriptionRow (userId : String) (userEmail : Option String) (status : String)
    (stripeCustomerId : Option String) (stripeSubscriptionId : String) (cancelAtPeriodEnd : Bool) : PluginSubscription where
  userId := userId
  userEmail := userEmail
  status := statusOr status "inactive"
  stripeCustomerId := stripeCustomerId.filter (· ≠ "")
  stripeSubscriptionId := (some stripeSubscriptionId).filter (· ≠ "")
  cancelAtPeriodEnd := cancelAtPeriodEnd

/-- The row of the user is set, in `syncPluginSubscription`. -/
def setSubscription (store : Store) (row : PluginSubscription) : Store :=
  { store with pluginAccess := upsertOne (fun old => old.userId = row.userId) (fun _ => row) row store.pluginAccess }

/-- `syncPluginSubscription`, called with a user. -/
def syncPluginSubscription (store : Store) (row : PluginSubscription) (status : String) : Store :=
  if pluginSubscriptionActive status then setSubscription store row
  else revokeKeys (setSubscription store row) row.userId ApiKey.isPlugin "plugin_subscription_inactive"

/-- `resolvePluginSubscriptionUserId`. -/
def resolvePluginSubscriptionUserId (store : Store) (userId : Option String) (stripeSubscriptionId : String) : Option String :=
  match userId.filter (· ≠ "") with
  | some userId => some userId
  | none =>
    if stripeSubscriptionId = "" then none
    else (store.pluginAccess.find? fun row => row.stripeSubscriptionId = some stripeSubscriptionId).bind fun row =>
      (some row.userId).filter (· ≠ "")

/-! ## Infinite access -/

/-- `INFINITE_INFERENCE_SCOPES`. -/
def infiniteInferenceScopes : List String := ["infinite:infer", "providers:connect", "usage:read"]

/-- `INFINITE_PRODUCTS`. -/
def infiniteProducts : List String := ["infinite", "infinite_beta"]

/-- What `buildInfiniteAccessSnapshot` says of the entitlements of a user. -/
structure InfiniteAccess where
  allowed : Bool
  entitlements : List String
  scopes : List String
  beta : Bool
deriving DecidableEq

/-- A row that `buildInfiniteAccessSnapshot` counts. -/
def Entitlement.isActive (row : Entitlement) : Bool := infiniteProducts.contains row.product && pluginSubscriptionActive row.status

/-- `buildInfiniteAccessSnapshot`. -/
def buildInfiniteAccessSnapshot (rows : List Entitlement) : InfiniteAccess :=
  let active := rows.filter (·.isActive)
  let entitlements := sortedSet (active.map (·.product))
  let scopes := sortedSet (active.flatMap (·.scopes))
  { allowed := !entitlements.isEmpty && scopes.contains "infinite:infer"
    entitlements
    scopes
    beta := entitlements.contains "infinite_beta" }

/-- `getInfiniteAccess`. -/
def getInfiniteAccess (store : Store) (userId : String) : InfiniteAccess :=
  if userId = "" then buildInfiniteAccessSnapshot []
  else buildInfiniteAccessSnapshot
    (store.entitlements.filter fun row => decide (row.userId = userId) && infiniteProducts.contains row.product)

/-- The row of a user and a product is set. -/
def setEntitlement (store : Store) (row : Entitlement) : Store :=
  { store with
    entitlements := upsertOne (fun old => (old.userId, old.product) = (row.userId, row.product)) (fun _ => row) row
      store.entitlements }

/-- The row that `syncInfiniteSubscriptionEntitlement` sets. -/
def infiniteRow (userId : String) (userEmail : Option String) (status : String) : Entitlement where
  userId := userId
  userEmail := userEmail
  product := "infinite"
  status := String.ofList ((statusOr status "inactive").toList.map Char.toLower)
  scopes := infiniteInferenceScopes
  source := "stripe_subscription"

/-- `syncInfiniteSubscriptionEntitlement`, called with a user. -/
def syncInfiniteSubscriptionEntitlement (store : Store) (userId : String) (userEmail : Option String) (status : String) : Store :=
  let row := infiniteRow userId userEmail status
  if pluginSubscriptionActive row.status then setEntitlement store row
  else revokeKeys (setEntitlement store row) userId (fun key => key.kind = some "infinite") "infinite_subscription_inactive"

/-- The row that `optIntoInfiniteBeta` sets. -/
def betaRow (userId : String) (email : Option String) : Entitlement where
  userId := userId
  userEmail := email.filter (· ≠ "")
  product := "infinite_beta"
  status := "active"
  scopes := infiniteInferenceScopes
  source := "subscriber_beta_opt_in"

/-- `optIntoInfiniteBeta`, where `optInEnabled` is `PROMPTRAIL_INFINITE_BETA_OPT_IN_ENABLED`. -/
def optIntoInfiniteBeta (optInEnabled : Bool) (store : Store) (userId : String) (email : Option String) : Except String Store :=
  if userId = "" then .error "PromptRail user identity is required."
  else if !optInEnabled then .error "PromptRail Infinite activation is disabled."
  else if !(getPluginAccess store userId).allowed then .error "An active PromptRail subscription is required for Infinite."
  else .ok (setEntitlement store (betaRow userId email))

/-! ## The webhook -/

/-- What the webhook reads of a Stripe subscription; `kind`, `userId`, `userEmail` and `accountRequired` are its metadata. -/
structure Subscription where
  id : String
  status : String
  customer : Option String := none
  cancelAtPeriodEnd : Bool := false
  kind : Option String := none
  userId : Option String := none
  userEmail : Option String := none
  accountRequired : Option String := none
deriving DecidableEq

/-- What the webhook reads of a Checkout Session; `subscription` is what Stripe returns under its id. -/
structure CheckoutSession where
  subscription : Option Subscription
  clientReferenceId : Option String := none
  kind : Option String := none
  userId : Option String := none

/-- `isPluginSubscription`, of the `kind` in the metadata. -/
def isPluginSubscription (kind : Option String) : Bool := kind = some "plugin_subscription"

/-- `syncStripePluginSubscription`; a subscription of nobody that was bought without an account is passed over. -/
def syncStripePluginSubscription (store : Store) (subscription : Subscription) (fallbackUserId : Option String) :
    Except String Store :=
  match resolvePluginSubscriptionUserId store (orElse subscription.userId fallbackUserId) subscription.id with
  | none =>
    if subscription.accountRequired = some "true" then .ok store
    else .error "Stripe plugin subscription is missing PromptRail user metadata."
  | some userId =>
    let userEmail := subscription.userEmail.filter (· ≠ "")
    let row := subscriptionRow userId userEmail subscription.status subscription.customer subscription.id
      subscription.cancelAtPeriodEnd
    .ok (syncInfiniteSubscriptionEntitlement (syncPluginSubscription store row subscription.status) userId userEmail
      subscription.status)

/-- `completePluginSubscriptionCheckout`. -/
def completePluginSubscriptionCheckout (store : Store) (session : CheckoutSession) : Except String Store :=
  match session.subscription with
  | none => .error "Plugin Checkout Session is missing a Stripe subscription."
  | some subscription => syncStripePluginSubscription store subscription (orElse session.clientReferenceId session.userId)

/-- An event of a subscription, or of a Checkout Session that is complete or paid. -/
inductive WebhookEvent where
  | subscriptionCreated (subscription : Subscription)
  | subscriptionUpdated (subscription : Subscription)
  | subscriptionDeleted (subscription : Subscription)
  | checkoutCompleted (session : CheckoutSession)

/-- The part of `POST` that is about subscriptions. -/
def handleEvent (store : Store) : WebhookEvent → Except String Store
  | .subscriptionCreated subscription | .subscriptionUpdated subscription | .subscriptionDeleted subscription =>
    if isPluginSubscription subscription.kind then syncStripePluginSubscription store subscription none else .ok store
  | .checkoutCompleted session =>
    if isPluginSubscription session.kind then completePluginSubscriptionCheckout store session else .ok store

/-! ## Keys -/

/-- What `POST /api/api-keys` reads: its body, and the session. -/
structure KeyRequest where
  id : String
  userId : String
  product : Option String := none
  routeId : Option String := none
  sessionRouteId : Option String := none

/-- `String(body.routeId || session.user.routeId || "default")`. -/
def KeyRequest.keyRoute (request : KeyRequest) : String := (orElse request.routeId request.sessionRouteId).getD "default"

/-- `isInfiniteKey`. -/
def KeyRequest.isInfiniteKey (request : KeyRequest) : Bool :=
  decide (request.product = some "infinite") || decide (request.keyRoute = "infinite")

/-- The kind of the key. -/
def KeyRequest.keyKind (request : KeyRequest) : String :=
  if request.isInfiniteKey then "infinite" else if pluginRoute request.keyRoute then "plugin" else "general"

/-- `POST /api/api-keys`. -/
def createApiKey (store : Store) (request : KeyRequest) : Except String Store :=
  if request.isInfiniteKey && !(getInfiniteAccess store request.userId).allowed then .error "infinite_entitlement_required"
  else if !request.isInfiniteKey && pluginRoute request.keyRoute && !(getPluginAccess store request.userId).allowed then
    .error "plugin_subscription_required"
  else .ok (insertApiKey store
    { id := request.id, userId := request.userId, routeId := request.keyRoute, kind := some request.keyKind })

/-- The key of `POST /api/cli/install`; the route of a manifest is `route_` and a digest. -/
def installApiKey (store : Store) (id userId digest : String) : Store :=
  insertApiKey store { id, userId, routeId := "route_" ++ digest, kind := none }

/-- The key of `POST /api/cli/infinite/install`. -/
def installInfiniteKey (store : Store) (id userId : String) : Except String Store :=
  if (getInfiniteAccess store userId).allowed then
    .ok (insertApiKey store { id, userId, routeId := "infinite", kind := some "infinite" })
  else .error "An active PromptRail Infinite subscription is required."

end Site

end PromptRail
