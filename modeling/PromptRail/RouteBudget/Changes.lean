import PromptRail.RouteBudget

/-!
# What a usage log changes

One lemma says what `normalize_budget_state` accepts, one what the controller computes, one what the update writes, and one what a
transaction of `write_usage_log` can do to the store. The later proofs take cases on these and unfold nothing.
-/

namespace PromptRail

open Document (Fields Value get firstPresent)
open Table (Dict)
open Outcome (bind_ok ok_bind)

namespace RouteBudget

/-! ## Reading a budget -/

/-- The number under one of the names. -/
def reading (float : String → Option ℚ) (row : Fields) (names : List String) : Option ℚ := (firstPresent row names).float? float

theorem required_ok_iff {float : String → Option ℚ} {row : Fields} {names : List String} {fieldName : String} {x : ℚ} :
    required float row names fieldName = .ok x ↔ reading float row names = some x := by
  unfold required parseRequiredNumber reading
  cases (firstPresent row names).float? float with
  | none => simp [Except.mapError]
  | some y => simp [Except.mapError]

theorem ensure_ok_iff {condition : Bool} {refusal : Refusal} {u : Unit} :
    ensure condition refusal = .ok u ↔ condition = true := by
  unfold ensure
  cases condition <;> simp

/-- What a budget reads as, in the order it is read. -/
structure Normalized (float : String → Option ℚ) (row : Fields) (state : BudgetState) : Prop where
  remaining : ∃ x, reading float row remainingNames = some x ∧ state.budgetRemainingUsd = max 0 x
  weight : reading float row weightNames = some state.remainingWeight
  weight_nonneg : 0 ≤ state.remainingWeight
  totalWeight : reading float row totalWeightNames = some state.totalPredictedWeight
  totalWeight_pos : 0 < state.totalPredictedWeight
  median : reading float row medianNames = some state.medianWeightedTokens
  median_pos : 0 < state.medianWeightedTokens
  average : reading float row averageNames = some state.averageRequestsPerPeriod
  average_pos : 0 < state.averageRequestsPerPeriod
  shadowPrice : reading float row shadowPriceNames = some state.budgetShadowPrice
  learningRate : reading float row learningRateNames = some state.budgetControllerLearningRate
  shadowPriceMin : reading float row shadowPriceMinNames = some state.budgetShadowPriceMin
  shadowPriceMax : reading float row shadowPriceMaxNames = some state.budgetShadowPriceMax
  bounds : 0 ≤ state.budgetShadowPriceMin ∧ state.budgetShadowPriceMin ≤ state.budgetShadowPriceMax ∧
    state.budgetShadowPriceMin ≤ state.budgetShadowPrice ∧ state.budgetShadowPrice ≤ state.budgetShadowPriceMax ∧
    0 ≤ state.budgetControllerLearningRate
  mode : normalizeSpendAccountingMode (firstPresent row spendAccountingModeNames) = .ok state.spendAccountingMode

/-- `normalize_budget_state` accepts a budget that reads as a state, and returns that state. -/
theorem normalizeBudgetState_ok_iff {float : String → Option ℚ} {row : Fields} {state : BudgetState} :
    normalizeBudgetState float row = .ok state ↔ Normalized float row state := by
  constructor
  · intro h
    unfold normalizeBudgetState at h
    obtain ⟨remaining, hremaining, h⟩ := bind_ok h
    obtain ⟨weight, hweight, h⟩ := bind_ok h
    obtain ⟨_, hweight', h⟩ := bind_ok h
    obtain ⟨totalWeight, htotal, h⟩ := bind_ok h
    obtain ⟨_, htotal', h⟩ := bind_ok h
    obtain ⟨median, hmedian, h⟩ := bind_ok h
    obtain ⟨_, hmedian', h⟩ := bind_ok h
    obtain ⟨average, haverage, h⟩ := bind_ok h
    obtain ⟨_, haverage', h⟩ := bind_ok h
    obtain ⟨price, hprice, h⟩ := bind_ok h
    obtain ⟨rate, hrate, h⟩ := bind_ok h
    obtain ⟨priceMin, hmin, h⟩ := bind_ok h
    obtain ⟨priceMax, hmax, h⟩ := bind_ok h
    obtain ⟨_, hbounds, h⟩ := bind_ok h
    obtain ⟨mode, hmode, h⟩ := bind_ok h
    cases h
    exact ⟨⟨remaining, required_ok_iff.1 hremaining, rfl⟩, required_ok_iff.1 hweight, of_decide_eq_true (ensure_ok_iff.1 hweight'),
      required_ok_iff.1 htotal, of_decide_eq_true (ensure_ok_iff.1 htotal'), required_ok_iff.1 hmedian,
      of_decide_eq_true (ensure_ok_iff.1 hmedian'), required_ok_iff.1 haverage, of_decide_eq_true (ensure_ok_iff.1 haverage'),
      required_ok_iff.1 hprice, required_ok_iff.1 hrate, required_ok_iff.1 hmin, required_ok_iff.1 hmax,
      of_decide_eq_true (ensure_ok_iff.1 hbounds), hmode⟩
  · intro h
    obtain ⟨remaining, hremaining, hmax0⟩ := h.remaining
    unfold normalizeBudgetState
    simp only [required_ok_iff.2 hremaining, required_ok_iff.2 h.weight, required_ok_iff.2 h.totalWeight,
      required_ok_iff.2 h.median, required_ok_iff.2 h.average, required_ok_iff.2 h.shadowPrice, required_ok_iff.2 h.learningRate,
      required_ok_iff.2 h.shadowPriceMin, required_ok_iff.2 h.shadowPriceMax, h.mode, ok_bind, h.weight_nonneg, h.totalWeight_pos,
      h.median_pos, h.average_pos, h.bounds, ensure, decide_true, if_true, and_self, ← hmax0]
    rfl

/-- What the controller needs, and where it moves the shadow price: within its bounds. -/
theorem controllerUpdate_ok {float : String → Option ℚ} {row : Fields} {debitUsd requestWeight requestWeightDebit : ℚ}
    {update : ControllerUpdate}
    (h : calculateBudgetControllerUpdate float row debitUsd requestWeight requestWeightDebit = .ok update) :
    0 ≤ debitUsd ∧ ∃ priceMin priceMax, reading float row shadowPriceMinNames = some priceMin ∧
      reading float row shadowPriceMaxNames = some priceMax ∧ priceMin ≤ update.nextShadowPrice ∧
      update.nextShadowPrice ≤ priceMax := by
  unfold calculateBudgetControllerUpdate at h
  obtain ⟨remaining, -, h⟩ := bind_ok h
  obtain ⟨weight, -, h⟩ := bind_ok h
  obtain ⟨price, -, h⟩ := bind_ok h
  obtain ⟨rate, -, h⟩ := bind_ok h
  obtain ⟨priceMin, hmin, h⟩ := bind_ok h
  obtain ⟨priceMax, hmax, h⟩ := bind_ok h
  obtain ⟨_, hensure, h⟩ := bind_ok h
  cases h
  obtain ⟨-, -, hdebit, -, -, -, -, -, hle, -, -⟩ := of_decide_eq_true (ensure_ok_iff.1 hensure)
  exact ⟨hdebit, priceMin, priceMax, required_ok_iff.1 hmin, required_ok_iff.1 hmax, le_min hle (le_max_left _ _),
    min_le_left _ _⟩

/-! ## The update -/

/-- The fields that the update writes. -/
def writtenNames : List String :=
  ["budgetRemainingUsd", "remainingWeight", "budgetShadowPrice", "budgetControllerVersion", "lastBudgetControllerAllocatedSpendUsd",
    "lastBudgetControllerActualSpendUsd", "lastBudgetControllerErrorUsd", "budgetControllerUpdates", "totalRequests",
    "totalSpendUsd", "successfulRequests", "failedRequests", "successRate"]

/-- A budget before and after an update. -/
structure Updated (debitUsd weightDebit : ℚ) (update : ControllerUpdate) (success : Bool) (row row' : Fields) : Prop where
  remaining : ∃ x, get row "budgetRemainingUsd" = .number x ∧ get row' "budgetRemainingUsd" = .number (x - debitUsd)
  weight : ∃ x, get row "remainingWeight" = .number x ∧ get row' "remainingWeight" = .number (max 0 (x - weightDebit))
  shadowPrice : get row' "budgetShadowPrice" = .number update.nextShadowPrice
  requests : ∃ x, ifNull (get row "totalRequests") = some x ∧ get row' "totalRequests" = .number (x + 1)
  spend : ∃ x, ifNull (get row "totalSpendUsd") = some x ∧ get row' "totalSpendUsd" = .number (x + debitUsd)
  successful : ∃ x, ifNull (get row "successfulRequests") = some x ∧
    get row' "successfulRequests" = .number (x + if success then 1 else 0)
  failed : ∃ x, ifNull (get row "failedRequests") = some x ∧ get row' "failedRequests" = .number (x + if success then 0 else 1)
  others : ∀ name ∉ writtenNames, get row' name = get row name

/-- What the update writes. -/
theorem updated_of_pipeline {debitUsd weightDebit : ℚ} {update : ControllerUpdate} {success : Bool} {row row' : Fields}
    (h : usageBudgetUpdatePipeline debitUsd weightDebit update success row = some row') :
    Updated debitUsd weightDebit update success row row' := by
  unfold usageBudgetUpdatePipeline at h
  simp only [Option.bind_eq_bind, Option.bind_eq_some_iff, Option.pure_def, Option.some.injEq] at h
  obtain ⟨remaining, hremaining, weight, hweight, updates, -, requests, hrequests, spend, hspend, successful, hsuccessful, failed,
    hfailed, rfl⟩ := h
  refine ⟨⟨remaining, Document.eq_number_of_number? hremaining, ?_⟩, ⟨weight, Document.eq_number_of_number? hweight, ?_⟩, ?_,
    ⟨requests, hrequests, ?_⟩, ⟨spend, hspend, ?_⟩, ⟨successful, hsuccessful, ?_⟩, ⟨failed, hfailed, ?_⟩, ?_⟩
  all_goals first | (rw [Document.get_update]; rfl) | skip
  intro name hname
  simp only [writtenNames, List.mem_cons, List.not_mem_nil, or_false, not_or] at hname
  rw [Document.get_update]
  simp [List.lookup_cons, beq_false_of_ne, hname]

/-- A reading of names that are not written is as it was. -/
theorem Updated.reading_eq {debitUsd weightDebit : ℚ} {update : ControllerUpdate} {success : Bool} {row row' : Fields}
    (h : Updated debitUsd weightDebit update success row row') {names : List String} (hnames : ∀ name ∈ names, name ∉ writtenNames)
    (float : String → Option ℚ) : reading float row' names = reading float row names := by
  rw [reading, Document.firstPresent_congr fun name hname => h.others name (hnames name hname), ← reading]

/-- A reading of a number under the first name. -/
theorem reading_of_head {float : String → Option ℚ} {row : Fields} {name : String} {x : ℚ} (h : get row name = .number x)
    (names : List String) : reading float row (name :: names) = some x := by
  rw [reading, Document.firstPresent_head (by simp [h]), h]
  rfl

/-! ## The transaction -/

/-- What a transaction does to the store. -/
inductive Effect (float : String → Option ℚ) (store : Store) (facts : Facts) : Store → Prop where
  | kept : Effect float store facts store
  | logged {row : Fields} {mode : SpendAccountingMode} (hnew : findLog store facts.key = none)
      (hcounters : facts.updateCounters = false) :
      Effect float store facts { store with usageLogs := store.usageLogs ++ [newLog facts mode row] }
  | debited {row row' : Fields} {mode : SpendAccountingMode} {update : ControllerUpdate} {totals : UserTotals}
      (hnew : findLog store facts.key = none) (hcounters : facts.updateCounters = true)
      (hrow : store.budgets.lookup facts.key.route = some row)
      (hmode : normalizeSpendAccountingMode (firstPresent row spendAccountingModeNames) = .ok mode)
      (hcontroller : calculateBudgetControllerUpdate float row (facts.debitUsd mode) facts.requestWeight
        facts.requestWeightDebit = .ok update)
      (hquery : budgetQuery facts (facts.debitUsd mode) row = true)
      (hupdated : Updated (facts.debitUsd mode) facts.requestWeightDebit update facts.success row row')
      (huser : store.users.lookup facts.key.route.userId = some totals) :
      Effect float store facts {
        budgets := store.budgets.insert facts.key.route row'
        users := store.users.insert facts.key.route.userId (totals.count facts)
        usageLogs := store.usageLogs ++ [newLog facts mode row'] }

/-- What a debit does. -/
theorem debitBudget_ok {float : String → Option ℚ} {n : Nat} {store store' : Store} {facts : Facts} {row : Fields}
    {mode : SpendAccountingMode} {log : UsageLog} (h : debitBudget float n store facts row mode = .ok (store', log)) :
    ∃ update row' totals, calculateBudgetControllerUpdate float row (facts.debitUsd mode) facts.requestWeight
        facts.requestWeightDebit = .ok update ∧
      budgetQuery facts (facts.debitUsd mode) row = true ∧
      usageBudgetUpdatePipeline (facts.debitUsd mode) facts.requestWeightDebit update facts.success row = some row' ∧
      store.users.lookup facts.key.route.userId = some totals ∧
      store' = {
        budgets := store.budgets.insert facts.key.route row'
        users := store.users.insert facts.key.route.userId (totals.count facts)
        usageLogs := store.usageLogs ++ [newLog facts mode row'] } := by
  unfold debitBudget at h
  obtain ⟨update, hcontroller, h⟩ := bind_ok h
  obtain ⟨_, hquery, h⟩ := bind_ok h
  split at h
  · cases h
  · rename_i row' hpipeline
    split at h
    · cases h
    · rename_i totals huser
      cases h
      exact ⟨update, row', totals, hcontroller, ensure_ok_iff.1 hquery, hpipeline, huser, rfl⟩

/-- Every transaction that takes effect has one of the effects. -/
theorem persist_effect {float : String → Option ℚ} {n : Nat} {store store' : Store} {facts : Facts} {log : UsageLog}
    (h : persist float n store facts = .ok (store', log)) : Effect float store facts store' := by
  unfold persist at h
  obtain ⟨⟨row, mode⟩, haccounting, h⟩ := bind_ok h
  unfold budgetAccountingFacts at haccounting
  split at haccounting
  · cases haccounting
  · rename_i stored hstored
    obtain ⟨mode', hmode, haccounting⟩ := bind_ok haccounting
    cases haccounting
    dsimp only at h
    split at h
    · obtain ⟨existing, -, h⟩ := bind_ok h
      cases h
      exact Effect.kept
    · rename_i hnew
      split at h
      · rename_i hcounters
        obtain ⟨update, row', totals, hcontroller, hquery, hpipeline, huser, rfl⟩ := debitBudget_ok h
        exact Effect.debited hnew hcounters hstored hmode hcontroller hquery (updated_of_pipeline hpipeline) huser
      · rename_i hcounters
        unfold logOnly at h
        obtain ⟨_, -, h⟩ := bind_ok h
        cases h
        exact Effect.logged hnew (by simpa using hcounters)

/-- Every turn has the effect of a transaction. -/
theorem turn_effect (float : String → Option ℚ) (store : Store) (task : Task) (failure : Option Failure) :
    (turn float store task failure).1 = store ∨ ∃ facts, Effect float store facts (turn float store task failure).1 := by
  cases task with
  | attempt n facts =>
    cases hpersist : persist float n store facts with
    | error refusal =>
      refine Or.inl ?_
      cases failure with
      | none => simp [turn, attemptPersist, hpersist]
      | some failure => simp [turn, attemptPersist, hpersist, committedStore]
    | ok result =>
      obtain ⟨store', log⟩ := result
      cases failure with
      | none => exact Or.inr ⟨facts, by simpa [turn, attemptPersist, hpersist] using persist_effect hpersist⟩
      | some failure =>
        by_cases hcommitted : failure.committed = true
        · exact Or.inr ⟨facts, by simpa [turn, attemptPersist, hpersist, committedStore, hcommitted] using persist_effect hpersist⟩
        · exact Or.inl (by simp [turn, attemptPersist, hcommitted])
  | _ => exact Or.inl rfl

end RouteBudget

end PromptRail
