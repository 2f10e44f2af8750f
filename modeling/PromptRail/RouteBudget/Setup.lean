import PromptRail.RouteBudget.Changes

/-!
# Saving a budget

A setup carries the metadata of a budget, and a saved setup is run again when a pool is refreshed. Either way the metadata is merged
into the document of the budget: the fields that the metadata names, under any of their aliases, and defaults for the controller.
-/

namespace PromptRail

open Document (Fields Value get firstPresent)
open Table (Dict)
open Outcome (bind_ok ok_bind)

namespace RouteBudget

/-! ## The metadata of a budget -/

/-- The refusals of a setup. -/
inductive SetupRefusal where
  | userIdRequired
  | userStateMissing
  | setupBudgetMetadataRequired
  | invalidBudgetController
  | invalidSpendAccountingMode
deriving DecidableEq

/-- `status_code`. -/
def SetupRefusal.statusCode : SetupRefusal → Nat
  | .userStateMissing => 404
  | _ => 422

/-- The defaults of the controller, which the environment can set. -/
structure ControllerDefaults where
  budgetShadowPriceInitial : ℚ := 3 / 4
  budgetControllerLearningRate : ℚ := 10
  budgetShadowPriceMin : ℚ := 0
  budgetShadowPriceMax : ℚ := 100

/-- The names of `budgetUsd`. -/
def budgetUsdNames : List String := ["budgetUsd", "budget_usd", "amount_usd"]

/-- The fields of the controller. -/
def controllerFields : List (String × List String) :=
  [("budgetShadowPrice", shadowPriceNames), ("budgetControllerLearningRate", learningRateNames),
    ("budgetShadowPriceMin", shadowPriceMinNames), ("budgetShadowPriceMax", shadowPriceMaxNames)]

/-- `field_map`. -/
def metadataFields : List (String × List String) :=
  [("budgetUsd", budgetUsdNames), ("budgetRemainingUsd", remainingNames), ("remainingWeight", weightNames),
    ("totalPredictedWeight", totalWeightNames), ("medianWeightedTokens", medianNames), ("averageRequestsPerPeriod", averageNames),
    ("outputTokenWeight", ["outputTokenWeight", "output_token_weight", "k_out"]),
    ("requestWeightBeta", ["requestWeightBeta", "request_weight_beta", "beta"]),
    ("requestDifficultyAlpha", ["requestDifficultyAlpha", "request_difficulty_alpha", "difficultyWeightAlpha",
      "difficulty_weight_alpha", "alpha"]),
    ("requestWeightMin", ["requestWeightMin", "request_weight_min", "r_min"]),
    ("requestWeightCapMultiplier", ["requestWeightCapMultiplier", "request_weight_cap_multiplier", "cap_multiplier"])] ++
    controllerFields

/-- The numbers that a budget has under the aliases of its fields. -/
def metadataNumbers (float : String → Option ℚ) (budget : Fields) : List (String × Value) :=
  Document.found (fun aliases => parseOptionalNumber float (firstPresent budget aliases)) metadataFields

/-- The fields that `setdefault` adds. -/
def ControllerDefaults.fields (defaults : ControllerDefaults) : Fields :=
  Table.ofList [("budgetShadowPrice", .number defaults.budgetShadowPriceInitial),
    ("budgetControllerLearningRate", .number defaults.budgetControllerLearningRate),
    ("budgetShadowPriceMin", .number defaults.budgetShadowPriceMin), ("budgetShadowPriceMax", .number defaults.budgetShadowPriceMax)]

/-- The fields of a controller are consistent. -/
def controllerConsistent (fields : Fields) : Bool :=
  let number (name : String) : ℚ := (get fields name).number?.getD 0
  0 ≤ number "budgetShadowPriceMin" ∧ number "budgetShadowPriceMin" ≤ number "budgetShadowPriceMax" ∧
    number "budgetShadowPriceMin" ≤ number "budgetShadowPrice" ∧ number "budgetShadowPrice" ≤ number "budgetShadowPriceMax" ∧
    0 ≤ number "budgetControllerLearningRate"

/-- The text of a mode. -/
def SpendAccountingMode.text : SpendAccountingMode → String
  | .routingFee => "routing_fee"
  | .providerSpend => "provider_spend"

/-- `budget_metadata_fields`; `budget` is `metadata["budget"]`, where it is a document. -/
def budgetMetadataFields (defaults : ControllerDefaults) (float : String → Option ℚ) (budget : Option Fields) :
    Except SetupRefusal Fields :=
  match budget with
  | none => .ok ∅
  | some budget =>
    let numbers := metadataNumbers float budget
    if numbers = [] then .ok ∅
    else
      let fields := Document.update defaults.fields numbers
      if controllerConsistent fields then
        match normalizeSpendAccountingMode (firstPresent budget spendAccountingModeNames) with
        | .error _ => .error .invalidSpendAccountingMode
        | .ok mode => .ok (fields.insert "spendAccountingMode" (.text mode.text))
      else .error .invalidBudgetController

/-! ## The update -/

/-- The fields of the controller that the metadata leaves out and the budget has. -/
def persistedNumbers (float : String → Option ℚ) (budget existing : Fields) : List (String × Value) :=
  Document.found (fun aliases =>
    if firstPresent budget aliases = .null then parseOptionalNumber float (firstPresent existing aliases) else none) controllerFields

/-- The names of the spend of a budget. -/
def totalSpendNames : List String := ["totalSpendUsd", "total_spend_usd"]

/-- `budgetRemainingUsd`, where the metadata gives `budgetUsd` but not what remains of it. -/
def remainingFromBudgetUsd (float : String → Option ℚ) (existing : Fields) (budgetUsd : ℚ) : Option ℚ :=
  let existingSpend := (parseOptionalNumber float (firstPresent existing totalSpendNames)).getD 0
  match parseOptionalNumber float (firstPresent existing remainingNames) with
  | none => some budgetUsd
  | some existingRemaining =>
    if existingRemaining ≤ 0 ∧ existingSpend < budgetUsd then some (max 0 (budgetUsd - existingSpend)) else none

/-- `budget_cycle_days`. -/
def budgetCycleDays (cycle : Value) : ℚ :=
  match cycle with
  | .text s =>
    ([("weekly", 7), ("week", 7), ("monthly", 30), ("month", 30), ("quarterly", 91), ("quarter", 91), ("yearly", 365),
      ("annual", 365), ("year", 365)].lookup (stripLower s)).getD 30
  | _ => 30

/-- `number or fallback`. -/
def orNumber (number : Option ℚ) (fallback : ℚ) : ℚ :=
  match number with
  | some x => if x = 0 then fallback else x
  | none => fallback

/-- The metadata, read again with what the budget keeps of the controller. -/
def rereadMetadata (defaults : ControllerDefaults) (float : String → Option ℚ) (budget : Option Fields) (existing : Fields) :
    Except SetupRefusal Fields := do
  let fields ← budgetMetadataFields defaults float budget
  if fields.keys = [] then .error .setupBudgetMetadataRequired
  else budgetMetadataFields defaults float (some (Document.update fields (persistedNumbers float (budget.getD ∅) existing)))

/-- The fields with `budgetRemainingUsd`. -/
def withRemaining (float : String → Option ℚ) (existing fields : Fields) : Fields :=
  if get fields "budgetRemainingUsd" = .null then
    match (get fields "budgetUsd").number?.bind (remainingFromBudgetUsd float existing) with
    | some remaining => fields.insert "budgetRemainingUsd" (.number remaining)
    | none => fields
  else fields

/-- The fields with the window of the budget. -/
def withWindow (float : String → Option ℚ) (payload existing fields : Fields) : Fields :=
  let optional (document : Fields) (names : List String) := parseOptionalNumber float (firstPresent document names)
  let cycleDays := orNumber (optional payload ["cycleDays", "cycle_days"]) (budgetCycleDays (get payload "cycle"))
  Document.update fields [
    ("timeStampDays", .number (orNumber (optional existing ["timeStampDays", "timestamp_days"]) cycleDays)),
    ("timeSpendDays", .number (orNumber (optional existing ["timeSpendDays", "time_spend_days"]) 0))]

/-- The fields that `persist_budget_metadata_from_setup` sets; `existing` is empty where there is no budget. -/
def setupFields (defaults : ControllerDefaults) (float : String → Option ℚ) (budget : Option Fields) (existing : Fields) :
    Except SetupRefusal Fields := do
  let fields ← rereadMetadata defaults float budget existing
  return withWindow float (budget.getD ∅) existing (withRemaining float existing fields)

/-- `set_on_insert`. -/
def setOnInsert (fields : Fields) : Fields :=
  let budgetUsd := (fields.lookup "budgetUsd").getD (.number 0)
  Table.ofList [("budgetUsd", budgetUsd), ("budgetRemainingUsd", (fields.lookup "budgetRemainingUsd").getD budgetUsd),
    ("totalRequests", .number 0), ("totalSpendUsd", .number 0), ("successfulRequests", .number 0), ("failedRequests", .number 0),
    ("successRate", .number 0)]

/-- `$unset`. -/
def unset (row : Fields) : Fields := ((row.erase "budgetMalusGamma").erase "budget_malus_gamma").erase "gamma"

/-- `persist_budget_metadata_from_setup`, of the fields that are numbers or name the mode. -/
def persistBudgetMetadataFromSetup (defaults : ControllerDefaults) (float : String → Option ℚ) (store : Store) (route : RouteKey)
    (budget : Option Fields) : Except SetupRefusal Store := do
  if route.userId = "" then .error .userIdRequired
  let existing := store.budgets.lookup route
  let fields ← setupFields defaults float budget (existing.getD ∅)
  let row := unset (Document.merge (existing.getD (setOnInsert fields)) fields)
  return { store with budgets := store.budgets.insert route row }

/-! ## Saving a pool -/

/-- `ensure_user_exists`. -/
def ensureUserExists (store : Store) (userId : String) : Except SetupRefusal Unit :=
  if userId = "" then .error .userIdRequired else if userId ∈ store.users then .ok () else .error .userStateMissing

/-- `save_candidate_pool`, after its checks of the pools: what it does to the budgets. -/
def saveCandidatePool (defaults : ControllerDefaults) (float : String → Option ℚ) (store : Store) (route : RouteKey)
    (budget : Option Fields) : Except SetupRefusal Store := do
  ensureUserExists store route.userId
  persistBudgetMetadataFromSetup defaults float store route budget

/-- A job that refreshes the pools of a route, with the metadata of its setup. -/
structure RouteUpdateJob where
  route : RouteKey
  budget : Option Fields

/-- `run_route_update_job`: what it leaves of the budgets. The pools are `selected` where the catalog, the selector, the embeddings
and the checks of `save_candidate_pool` have all passed. -/
def runRouteUpdateJob (defaults : ControllerDefaults) (float : String → Option ℚ) (store : Store) (job : RouteUpdateJob)
    (selected : Bool) : Store :=
  if selected then
    match saveCandidatePool defaults float store job.route job.budget with
    | .ok store' => store'
    | .error _ => store
  else store

end RouteBudget

end PromptRail
