import PromptRail.Library.Collection
import PromptRail.Library.Json
import PromptRail.Library.Transition

/-!
# The store of the site (`app/lib/store.js`)

The site keeps the policies of the routes and the API keys of its users. A policy is written under the id of its route, and read
under the id of its route and its user.
-/

namespace PromptRail

open Collection (updateOne upsertOne updateMany)

namespace Site

/-! ## The collections -/

/-- A document of `route_policies`; a policy of nobody has no `userId`. -/
structure RoutePolicy where
  routeId : String
  userId : Option String
  routes : List (String × List String)
  routeDefinitions : Json.Fields
  metadata : Json.Fields

/-- A document of `api_keys`; `revokedReason` is set where `revokedAt` is. -/
structure ApiKey where
  id : String
  userId : String
  routeId : String
  kind : Option String
  revoked : Bool := false
  revokedReason : Option String := none
deriving DecidableEq

/-- The row of a user in `plugin_access`. -/
structure PluginSubscription where
  userId : String
  userEmail : Option String
  status : String
  stripeCustomerId : Option String
  stripeSubscriptionId : Option String
  cancelAtPeriodEnd : Bool
deriving DecidableEq

/-- A row of `product_entitlements`, under its user and product. -/
structure Entitlement where
  userId : String
  userEmail : Option String
  product : String
  status : String
  scopes : List String
  source : String
deriving DecidableEq

/-- The collections. -/
structure Store where
  routePolicies : List RoutePolicy := []
  apiKeys : List ApiKey := []
  pluginAccess : List PluginSubscription := []
  entitlements : List Entitlement := []

/-! ## Policies -/

/-- A policy as `normalizeRoutePolicyInput` leaves it. -/
structure RoutePolicyInput where
  routeId : String
  routes : List (String × List String)
  routeDefinitions : Option Json.Fields
  metadata : Option Json.Fields

/-- `getRoutePolicy`. -/
def getRoutePolicy (store : Store) (userId routeId : String) : Option RoutePolicy :=
  store.routePolicies.find? fun policy => decide (policy.routeId = routeId) && (policy.userId = some userId || policy.userId = none)

/-- What `upsertRoutePolicy` sets. -/
def RoutePolicyInput.document (policy : RoutePolicyInput) (userId : String) : RoutePolicy where
  routeId := policy.routeId
  userId := some userId
  routes := policy.routes
  routeDefinitions := policy.routeDefinitions.getD []
  metadata := policy.metadata.getD []

/-- `upsertRoutePolicy`: the policy, and the keys of the user. -/
def upsertRoutePolicy (store : Store) (userId : String) (policy : RoutePolicyInput) : Store :=
  { store with
    routePolicies := upsertOne (fun row => row.routeId = policy.routeId) (fun _ => policy.document userId) (policy.document userId)
      store.routePolicies
    apiKeys := updateMany (fun key => key.userId = userId ∧ key.revoked = false) (fun key => { key with routeId := policy.routeId })
      store.apiKeys }

/-! ## Keys -/

/-- `insertApiKey`. -/
def insertApiKey (store : Store) (key : ApiKey) : Store := { store with apiKeys := store.apiKeys ++ [key] }

end Site

end PromptRail
