import PromptRail.Library.Transition
import PromptRail.RouteBudget.Changes
import Mathlib.Algebra.BigOperators.Group.List.Basic

/-!
# The ledger of a route budget

Whatever calls of `write_usage_log` run side by side, fail, are retried or repeated: what a budget has left, and what it was debited
under its usage logs, add up to what it had. Its totals grow with the logs, and its weight and shadow price stay in their bounds.
-/

namespace PromptRail

open Document (Fields Value get firstPresent)
open Table (Dict)
open Concurrent (World Action)
open Transition (Throughout throughout_of_invariant)

namespace RouteBudget

/-- A usage log of a route that has updated the counters. -/
def countedOn (route : RouteKey) (log : UsageLog) : Bool := log.key.route == route && log.accountingCountersUpdated

/-- The sum of `accountedSpendUsd` over the logs of a route that have updated the counters. -/
def accountedUsd (route : RouteKey) (logs : List UsageLog) : ℚ := ((logs.filter (countedOn route)).map (·.accountedSpendUsd)).sum

/-- The number of the logs of a route that have updated the counters. -/
def countedLogs (route : RouteKey) (logs : List UsageLog) : ℚ := (logs.filter (countedOn route)).length

/-- A total of a budget, which is zero until it is first written. -/
def tally (row : Fields) (name : String) : ℚ := (ifNull (get row name)).getD 0

/-- A budget is what it was first, less what was accounted for since. -/
structure BudgetExact (float : String → Option ℚ) (route : RouteKey) (first : Store) (row₀ : Fields) (store : Store)
    (row : Fields) : Prop where
  remaining : ∃ x₀ x, reading float row₀ remainingNames = some x₀ ∧ reading float row remainingNames = some x ∧ 0 ≤ x ∧
    x + accountedUsd route store.usageLogs = x₀ + accountedUsd route first.usageLogs
  spend : tally row "totalSpendUsd" + accountedUsd route first.usageLogs =
    tally row₀ "totalSpendUsd" + accountedUsd route store.usageLogs
  requests : tally row "totalRequests" + countedLogs route first.usageLogs =
    tally row₀ "totalRequests" + countedLogs route store.usageLogs
  outcomes : tally row "successfulRequests" + tally row "failedRequests" + countedLogs route first.usageLogs =
    tally row₀ "successfulRequests" + tally row₀ "failedRequests" + countedLogs route store.usageLogs
  valid : ∃ state, normalizeBudgetState float row = .ok state ∧ 0 ≤ state.remainingWeight ∧
    state.budgetShadowPriceMin ≤ state.budgetShadowPrice ∧ state.budgetShadowPrice ≤ state.budgetShadowPriceMax

/-- There is one log for each routing call, and the budget of the route is exact. -/
structure LedgerExact (float : String → Option ℚ) (route : RouteKey) (first : Store) (row₀ : Fields) (store : Store) : Prop where
  one_log : (store.usageLogs.map (·.key)).Nodup
  budget : ∃ row, store.budgets.lookup route = some row ∧ BudgetExact float route first row₀ store row

namespace RouteLedgerAux

variable {float : String → Option ℚ} {route : RouteKey} {store : Store} {facts : Facts}

theorem accountedUsd_append (logs : List UsageLog) (log : UsageLog) :
    accountedUsd route (logs ++ [log]) = accountedUsd route logs + if countedOn route log then log.accountedSpendUsd else 0 := by
  unfold accountedUsd
  rw [List.filter_append, List.map_append, List.sum_append]
  split <;> simp [*]

theorem countedLogs_append (logs : List UsageLog) (log : UsageLog) :
    countedLogs route (logs ++ [log]) = countedLogs route logs + if countedOn route log then 1 else 0 := by
  unfold countedLogs
  rw [List.filter_append, List.length_append]
  split <;> simp [*]

/-- A log under a key that no log has. -/
theorem nodup_append (h : (store.usageLogs.map (·.key)).Nodup) (hnew : findLog store facts.key = none)
    {log : UsageLog} (hkey : log.key = facts.key) : ((store.usageLogs ++ [log]).map (·.key)).Nodup := by
  rw [List.map_append, List.map_singleton]
  refine List.nodup_append.2 ⟨h, List.nodup_singleton _, ?_⟩
  intro key hk key' hk'
  obtain rfl := List.mem_singleton.1 hk'
  obtain ⟨existing, hexisting, rfl⟩ := List.mem_map.1 hk
  intro hsame
  have := List.find?_eq_none.1 hnew existing hexisting
  simp [hsame, hkey] at this

/-- A log that is not counted leaves the sums. -/
theorem exact_of_uncounted {first : Store} {row₀ row : Fields} {log : UsageLog} {budgets : Dict RouteKey Fields}
    {users : Dict String UserTotals} (hlog : countedOn route log = false) (h : BudgetExact float route first row₀ store row) :
    BudgetExact float route first row₀ { budgets, users, usageLogs := store.usageLogs ++ [log] } row := by
  have haccounted : accountedUsd route (store.usageLogs ++ [log]) = accountedUsd route store.usageLogs := by
    rw [accountedUsd_append, hlog]
    simp
  have hcounted : countedLogs route (store.usageLogs ++ [log]) = countedLogs route store.usageLogs := by
    rw [countedLogs_append, hlog]
    simp
  exact ⟨by simpa [haccounted] using h.remaining, by simpa [haccounted] using h.spend, by simpa [hcounted] using h.requests,
    by simpa [hcounted] using h.outcomes, h.valid⟩

/-- A field that was added to has grown by as much. -/
theorem tally_grows {row row' : Fields} {name : String} {x d : ℚ} (h : ifNull (get row name) = some x)
    (h' : get row' name = .number (x + d)) : tally row' name = tally row name + d := by
  rw [tally, tally, h, h']
  rfl

/-- The budget after an update is valid. -/
theorem valid_of_updated {debitUsd weightDebit requestWeight : ℚ} {update : ControllerUpdate} {success : Bool} {row row' : Fields}
    (hupdated : Updated debitUsd weightDebit update success row row')
    (hcontroller : calculateBudgetControllerUpdate float row debitUsd requestWeight weightDebit = .ok update)
    {state : BudgetState} (h : Normalized float row state) : ∃ state', Normalized float row' state' := by
  obtain ⟨-, priceMin, priceMax, hmin, hmax, hlow, hhigh⟩ := controllerUpdate_ok hcontroller
  cases h.shadowPriceMin.symm.trans hmin
  cases h.shadowPriceMax.symm.trans hmax
  obtain ⟨remaining, -, hremaining⟩ := hupdated.remaining
  obtain ⟨weight, -, hweight⟩ := hupdated.weight
  have hmode : firstPresent row' spendAccountingModeNames = firstPresent row spendAccountingModeNames :=
    Document.firstPresent_congr fun name hname => hupdated.others name (by
      revert name
      decide)
  refine ⟨{ state with
    budgetRemainingUsd := max 0 (remaining - debitUsd)
    remainingWeight := max 0 (weight - weightDebit)
    budgetShadowPrice := update.nextShadowPrice }, ?_⟩
  exact {
    remaining := ⟨_, reading_of_head hremaining _, rfl⟩
    weight := reading_of_head hweight _
    weight_nonneg := le_max_left _ _
    totalWeight := (hupdated.reading_eq (by decide) float).trans h.totalWeight
    totalWeight_pos := h.totalWeight_pos
    median := (hupdated.reading_eq (by decide) float).trans h.median
    median_pos := h.median_pos
    average := (hupdated.reading_eq (by decide) float).trans h.average
    average_pos := h.average_pos
    shadowPrice := reading_of_head hupdated.shadowPrice _
    learningRate := (hupdated.reading_eq (by decide) float).trans h.learningRate
    shadowPriceMin := (hupdated.reading_eq (by decide) float).trans h.shadowPriceMin
    shadowPriceMax := (hupdated.reading_eq (by decide) float).trans h.shadowPriceMax
    bounds := ⟨h.bounds.1, h.bounds.2.1, hlow, hhigh, h.bounds.2.2.2.2⟩
    mode := hmode ▸ h.mode }

theorem valid_iff {row : Fields} : (∃ state, normalizeBudgetState float row = .ok state ∧ 0 ≤ state.remainingWeight ∧
    state.budgetShadowPriceMin ≤ state.budgetShadowPrice ∧ state.budgetShadowPrice ≤ state.budgetShadowPriceMax) ↔
    ∃ state, Normalized float row state := by
  constructor
  · rintro ⟨state, hstate, -⟩
    exact ⟨state, normalizeBudgetState_ok_iff.1 hstate⟩
  · rintro ⟨state, h⟩
    exact ⟨state, normalizeBudgetState_ok_iff.2 h, h.weight_nonneg, h.bounds.2.2.1, h.bounds.2.2.2.1⟩

/-- The budget that was debited, with the log of the debit. -/
theorem exact_of_debited {first : Store} {row₀ row row' : Fields} {mode : SpendAccountingMode} {update : ControllerUpdate}
    {users : Dict String UserTotals} {budgets : Dict RouteKey Fields} (hcounters : facts.updateCounters = true)
    (hcontroller : calculateBudgetControllerUpdate float row (facts.debitUsd mode) facts.requestWeight facts.requestWeightDebit =
      .ok update)
    (hquery : budgetQuery facts (facts.debitUsd mode) row = true)
    (hupdated : Updated (facts.debitUsd mode) facts.requestWeightDebit update facts.success row row')
    (h : BudgetExact float facts.key.route first row₀ store row) :
    BudgetExact float facts.key.route first row₀
      { budgets, users, usageLogs := store.usageLogs ++ [newLog facts mode row'] } row' := by
  have hlog : countedOn facts.key.route (newLog facts mode row') = true := by
    simp [countedOn, newLog, hcounters]
  have haccounted : accountedUsd facts.key.route (store.usageLogs ++ [newLog facts mode row']) =
      accountedUsd facts.key.route store.usageLogs + facts.debitUsd mode := by
    rw [accountedUsd_append, if_pos hlog]
    rfl
  have hcounted : countedLogs facts.key.route (store.usageLogs ++ [newLog facts mode row']) =
      countedLogs facts.key.route store.usageLogs + 1 := by
    rw [countedLogs_append, if_pos hlog]
  refine ⟨?_, ?_, ?_, ?_, ?_⟩
  · obtain ⟨x₀, x, hx₀, hx, -, hsum⟩ := h.remaining
    obtain ⟨x', hx', hnext⟩ := hupdated.remaining
    cases (reading_of_head hx' _).symm.trans hx
    have hfunds : facts.debitUsd mode ≤ x := by
      obtain ⟨w, hw, -⟩ := hupdated.weight
      simpa [budgetQuery, hx', hw, hcounters] using hquery
    refine ⟨x₀, _, hx₀, reading_of_head hnext _, by linarith, ?_⟩
    rw [haccounted]
    linarith
  · obtain ⟨x, hx, hnext⟩ := hupdated.spend
    have := h.spend
    rw [tally_grows hx hnext, haccounted]
    linarith
  · obtain ⟨x, hx, hnext⟩ := hupdated.requests
    have := h.requests
    rw [tally_grows hx hnext, hcounted]
    linarith
  · obtain ⟨x, hx, hnext⟩ := hupdated.successful
    obtain ⟨y, hy, hnext'⟩ := hupdated.failed
    have := h.outcomes
    rw [tally_grows hx hnext, tally_grows hy hnext', hcounted]
    cases facts.success <;> simp only [Bool.false_eq_true, if_true, if_false] <;> linarith
  · obtain ⟨state, hstate⟩ := valid_iff.1 h.valid
    exact valid_iff.2 (valid_of_updated hupdated hcontroller hstate)

/-- Every effect keeps the ledger exact. -/
theorem ledger_effect {first store' : Store} {row₀ : Fields} (he : Effect float store facts store')
    (h : LedgerExact float route first row₀ store) : LedgerExact float route first row₀ store' := by
  obtain ⟨row, hrow, hbudget⟩ := h.budget
  cases he with
  | kept => exact h
  | logged hnew hcounters =>
    refine ⟨nodup_append h.one_log hnew rfl, row, hrow, exact_of_uncounted ?_ hbudget⟩
    simp [countedOn, newLog, hcounters]
  | @debited row₁ row' mode update totals hnew hcounters hrow₁ hmode hcontroller hquery hupdated huser =>
    refine ⟨nodup_append h.one_log hnew rfl, ?_⟩
    by_cases hroute : facts.key.route = route
    · subst hroute
      cases hrow.symm.trans hrow₁
      exact ⟨row', AList.lookup_insert _, exact_of_debited hcounters hcontroller hquery hupdated hbudget⟩
    · refine ⟨row, (AList.lookup_insert_ne (Ne.symm hroute)).trans hrow, exact_of_uncounted ?_ hbudget⟩
      simp [countedOn, newLog, hroute]

/-- Every step keeps the ledger exact. -/
theorem ledger_step {first : Store} {row₀ : Fields} (w : World Store Task) (a : Action UsageCall (Option Failure) Empty)
    (h : LedgerExact float route first row₀ w.store) : LedgerExact float route first row₀ ((program float).step w a).store := by
  rcases (program float).step_cases w a with ⟨-, hs⟩ | ⟨t, call, -, -, hs⟩ | ⟨t, input, task, -, -, hs⟩ | ⟨t, task, -, -, hs⟩ |
    ⟨event, -, -⟩
  · rwa [hs]
  · rwa [hs]
  · rw [hs]
    rcases turn_effect float w.store task input with hkept | ⟨facts, he⟩
    · exact hkept.symm ▸ h
    · exact ledger_effect he h
  · rwa [hs]
  · exact event.elim

end RouteLedgerAux

open RouteLedgerAux

/-- From every store in which the budget of a route is valid and not overdrawn, over every interleaving of calls: the ledger of the
route is exact in every state. -/
theorem route_ledger_exact (float : String → Option ℚ) {first : Store} {route : RouteKey} {row₀ : Fields} {state₀ : BudgetState}
    {remainingUsd : ℚ} (hrow : first.budgets.lookup route = some row₀) (hstate : normalizeBudgetState float row₀ = .ok state₀)
    (hremaining : reading float row₀ remainingNames = some remainingUsd) (hnonneg : 0 ≤ remainingUsd)
    (hlogs : (first.usageLogs.map (·.key)).Nodup) (steps : List (Action UsageCall (Option Failure) Empty)) :
    Throughout (program float).step (fun w => LedgerExact float route first row₀ w.store) { store := first } steps := by
  refine throughout_of_invariant (fun w a h => ledger_step w a h) ⟨hlogs, row₀, hrow, ?_⟩ steps
  exact ⟨⟨_, _, hremaining, hremaining, hnonneg, rfl⟩, rfl, rfl, rfl, valid_iff.2 ⟨_, normalizeBudgetState_ok_iff.1 hstate⟩⟩

/-- A budget of one dollar for requests of weight ten, accounted for by the spend of the provider. -/
def exampleBudget : Fields :=
  Table.ofList [("budgetRemainingUsd", .number 1), ("remainingWeight", .number 10), ("totalPredictedWeight", .number 10),
    ("medianWeightedTokens", .number 1000), ("averageRequestsPerPeriod", .number 5), ("budgetShadowPrice", .number 1),
    ("budgetControllerLearningRate", .number 10), ("budgetShadowPriceMin", .number 0), ("budgetShadowPriceMax", .number 100),
    ("spendAccountingMode", .text "provider_spend")]

/-- The budget of one user for one route, and no usage log. -/
def exampleStore : Store where
  budgets := Table.ofList [(⟨"user", "default"⟩, exampleBudget)]
  users := Table.ofList [("user", {})]

/-- A call that has cost a quarter of a dollar. -/
def exampleCall (routingCallId : String) : UsageCall where
  userId := "user"
  routeId := "default"
  routeName := "code"
  modelId := "openai/model"
  requestWeight := .number 2
  provider := "openai"
  success := true
  spendUsd := .number (1 / 4)
  routingCallId := routingCallId

/-- Two calls, the first of which is written, fails without an answer and is retried. -/
def exampleSteps : List (Action UsageCall (Option Failure) Empty) :=
  [.begin 0 (exampleCall "a"), .begin 1 (exampleCall "b"), .turn 0 (some (.retryable true)), .turn 1 none, .turn 0 none]

/-- They leave half a dollar, under two logs. -/
theorem route_ledger_exact_retried :
    Throughout (program fun _ => none).step (fun w => LedgerExact (fun _ => none) ⟨"user", "default"⟩ exampleStore exampleBudget w.store)
        { store := exampleStore } exampleSteps ∧
      ((Transition.exec (program fun _ => none).step { store := exampleStore } exampleSteps).store.budgets.lookup
        ⟨"user", "default"⟩).map (fun row => get row "budgetRemainingUsd") = some (.number (1 / 2)) := by
  have hstate : (normalizeBudgetState (fun _ => none) exampleBudget).toOption.isSome = true := by decide +kernel
  obtain ⟨state, hsome⟩ := Option.isSome_iff_exists.1 hstate
  refine ⟨?_, by decide +kernel⟩
  exact route_ledger_exact (fun _ => none) rfl (Outcome.ok_of_toOption hsome)
    (by decide +kernel : reading (fun _ => none) exampleBudget remainingNames = some 1) (by decide)
    (by simp [exampleStore]) exampleSteps

end RouteBudget

end PromptRail
