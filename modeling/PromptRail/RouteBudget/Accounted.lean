import PromptRail.RouteBudget.Execution

/-!
# What is executed is accounted for

A request that the service executes is accounted for exactly when its usage log can be written: the call passes the checks of
`write_usage_log`, and the budget, which was only scored before the provider was paid, still has what the call is debited.
-/

namespace PromptRail

open Document (Fields Value get firstPresent)
open Table (Dict)
open Transition (Throughout Along monitor throughout_iff_along_through along_monitor)
open Outcome (bind_ok ok_bind)

namespace RouteBudget

/-! ## Calls that can be logged -/

/-- A text that `mongo_counter_key` accepts. -/
def IsCounterKey (value : String) : Prop :=
  strip value ≠ "" ∧ '.' ∉ (strip value).toList ∧ (strip value).toList.head? ≠ some '$'

/-- A call that passes the checks of `write_usage_log`. -/
structure Loggable (float : String → Option ℚ) (call : UsageCall) : Prop where
  modelId : strip call.modelId ≠ ""
  provider : IsCounterKey call.provider
  modelLab : ∀ label, modelCompanyFromId (strip call.modelId) = some label → IsCounterKey label
  routingCallId : strip call.routingCallId ≠ ""
  weight : call.updateCounters = true → 0 < asFloat float call.requestWeight (-1)
  weightDebit : call.updateCounters = true →
    0 ≤ asFloat float (call.requestWeightDebit.getD (.number (asFloat float call.requestWeight (-1)))) (-1) ∧
      asFloat float (call.requestWeightDebit.getD (.number (asFloat float call.requestWeight (-1)))) (-1) ≤
        asFloat float call.requestWeight (-1)
  spend : ∃ x, finiteProfileNumber float call.spendUsd = some x ∧ 0 ≤ x

/-- What the facts of a call are. -/
structure FactsOf (float : String → Option ℚ) (call : UsageCall) (facts : Facts) : Prop where
  key : facts.key = ⟨⟨call.userId, call.routeId⟩, strip call.routingCallId⟩
  counters : facts.updateCounters = call.updateCounters
  weight : call.updateCounters = true → 0 < facts.requestWeight ∧ 0 ≤ facts.requestWeightDebit ∧
    facts.requestWeightDebit ≤ facts.requestWeight
  spend : finiteProfileNumber float call.spendUsd = some facts.providerSpendUsd

theorem mongoCounterKey_ok_iff (value field : String) : (∃ key, mongoCounterKey value field = .ok key) ↔ IsCounterKey value := by
  unfold mongoCounterKey IsCounterKey
  dsimp only
  split
  · rename_i h
    simp only [reduceCtorEq, exists_false, false_iff]
    rintro ⟨hempty, hdot, hdollar⟩
    exact h.elim hempty (Or.elim · hdot hdollar)
  · rename_i h
    simp only [not_or] at h
    simp [h]

theorem modelLabKey_ok_iff (modelId : String) :
    (∃ lab, modelLabKey modelId = .ok lab) ↔ ∀ label, modelCompanyFromId modelId = some label → IsCounterKey label := by
  unfold modelLabKey
  cases modelCompanyFromId modelId with
  | none => simp
  | some label =>
    simp only [Option.some.injEq, forall_eq', ← mongoCounterKey_ok_iff label "model_lab"]
    cases mongoCounterKey label "model_lab" <;> simp [Except.map]

/-- The facts of a call that was accepted. -/
theorem usageFacts_ok {float : String → Option ℚ} {call : UsageCall} {facts : Facts} (h : usageFacts float call = .ok facts) :
    Loggable float call ∧ FactsOf float call facts := by
  unfold usageFacts at h
  obtain ⟨_, hmodel, h⟩ := bind_ok h
  obtain ⟨provider, hprovider, h⟩ := bind_ok h
  obtain ⟨lab, hlab, h⟩ := bind_ok h
  obtain ⟨_, hid, h⟩ := bind_ok h
  obtain ⟨_, hweight, h⟩ := bind_ok h
  obtain ⟨_, hdebit, h⟩ := bind_ok h
  have hweight := of_decide_eq_true (ensure_ok_iff.1 hweight)
  have hdebit := of_decide_eq_true (ensure_ok_iff.1 hdebit)
  cases hspend : finiteProfileNumber float call.spendUsd with
  | none =>
    simp only [hspend, reduceCtorEq] at h
  | some spend =>
    simp only [hspend] at h
    by_cases hnonneg : 0 ≤ spend
    · rw [dif_pos hnonneg] at h
      obtain rfl := Except.ok.inj h
      exact ⟨⟨of_decide_eq_true (ensure_ok_iff.1 hmodel), (mongoCounterKey_ok_iff _ _).1 ⟨_, hprovider⟩,
        (modelLabKey_ok_iff _).1 ⟨_, hlab⟩, of_decide_eq_true (ensure_ok_iff.1 hid), hweight, hdebit, _, hspend, hnonneg⟩,
        ⟨rfl, rfl, fun hc => ⟨hweight hc, hdebit hc⟩, hspend⟩⟩
    · simp only [dif_neg hnonneg, reduceCtorEq] at h

/-- A call that can be logged is accepted. -/
theorem usageFacts_of_loggable {float : String → Option ℚ} {call : UsageCall} (h : Loggable float call) :
    ∃ facts, usageFacts float call = .ok facts := by
  obtain ⟨provider, hprovider⟩ := (mongoCounterKey_ok_iff _ "provider").2 h.provider
  obtain ⟨lab, hlab⟩ := (modelLabKey_ok_iff _).2 h.modelLab
  obtain ⟨spend, hspend, hnonneg⟩ := h.spend
  unfold usageFacts
  simp only [hprovider, hlab, ok_bind, ensure, h.modelId, h.routingCallId, hspend, hnonneg, decide_true, if_true, ne_eq,
    not_false_eq_true, dif_pos, decide_eq_true h.weight, decide_eq_true h.weightDebit]
  exact ⟨_, rfl⟩

/-! ## Budgets that can be debited -/

/-- The totals that an update adds to. -/
def tallyNames : List String :=
  ["budgetControllerUpdates", "totalRequests", "totalSpendUsd", "successfulRequests", "failedRequests"]

/-- A budget that has what is to be debited, with totals that can be added to. -/
structure Affordable (debitUsd : ℚ) (row : Fields) : Prop where
  remaining : ∃ x, get row "budgetRemainingUsd" = .number x ∧ debitUsd ≤ x
  weight : ∃ x, get row "remainingWeight" = .number x
  tallies : ∀ name ∈ tallyNames, ∃ x, ifNull (get row name) = some x

/-- The update applies to a budget whose fields can be added to. -/
theorem pipeline_isSome_iff (debitUsd weightDebit : ℚ) (update : ControllerUpdate) (success : Bool) {row : Fields} :
    (∃ row', usageBudgetUpdatePipeline debitUsd weightDebit update success row = some row') ↔
      (∃ x, get row "budgetRemainingUsd" = .number x) ∧ (∃ x, get row "remainingWeight" = .number x) ∧
        ∀ name ∈ tallyNames, ∃ x, ifNull (get row name) = some x := by
  unfold usageBudgetUpdatePipeline
  constructor
  · rintro ⟨row', h⟩
    simp only [Option.bind_eq_bind, Option.bind_eq_some_iff] at h
    obtain ⟨remaining, hremaining, weight, hweight, updates, hupdates, requests, hrequests, spend, hspend, successful, hsuccessful,
      failed, hfailed, -⟩ := h
    refine ⟨⟨_, Document.eq_number_of_number? hremaining⟩, ⟨_, Document.eq_number_of_number? hweight⟩, ?_⟩
    simp only [tallyNames, List.forall_mem_cons, hupdates, hrequests, hspend, hsuccessful, hfailed]
    simp
  · rintro ⟨⟨remaining, hremaining⟩, ⟨weight, hweight⟩, htallies⟩
    simp only [tallyNames, List.forall_mem_cons] at htallies
    obtain ⟨⟨updates, hupdates⟩, ⟨requests, hrequests⟩, ⟨spend, hspend⟩, ⟨successful, hsuccessful⟩, ⟨failed, hfailed⟩, -⟩ :=
      htallies
    simp [hremaining, hweight, hupdates, hrequests, hspend, hsuccessful, hfailed]

theorem facts_debitUsd_nonneg (facts : Facts) (mode : SpendAccountingMode) : 0 ≤ facts.debitUsd mode := by
  cases mode with
  | providerSpend => exact facts.providerSpendUsd_nonneg
  | routingFee => exact Usage.AgreementAux.routingFeeUsd_nonneg _

/-- The controller accepts a budget that is valid and has what is to be debited. -/
theorem controllerUpdate_of_normalized {float : String → Option ℚ} {row : Fields} {state : BudgetState} {x w : ℚ}
    {debitUsd requestWeight weightDebit : ℚ} (h : Normalized float row state) (hx : get row "budgetRemainingUsd" = .number x)
    (hw : get row "remainingWeight" = .number w) (hdebit : 0 ≤ debitUsd ∧ debitUsd ≤ x)
    (hweight : 0 < requestWeight ∧ 0 ≤ weightDebit ∧ weightDebit ≤ requestWeight) :
    ∃ update, calculateBudgetControllerUpdate float row debitUsd requestWeight weightDebit = .ok update := by
  have hw0 : 0 ≤ w := by
    have hreading := h.weight
    rw [weightNames, reading_of_head hw] at hreading
    exact Option.some.inj hreading ▸ h.weight_nonneg
  have hx0 : 0 ≤ x := hdebit.1.trans hdebit.2
  unfold calculateBudgetControllerUpdate
  simp only [required_ok_iff.2 (reading_of_head hx _), required_ok_iff.2 (reading_of_head hw _), required_ok_iff.2 h.shadowPrice,
    required_ok_iff.2 h.learningRate, required_ok_iff.2 h.shadowPriceMin, required_ok_iff.2 h.shadowPriceMax, ok_bind, ensure,
    hx0, hw0, hdebit, hweight, h.bounds, and_self, decide_true, if_true]
  exact ⟨_, rfl⟩

/-- A call without a log that updates the counters is debited. -/
theorem persist_eq_debitBudget {float : String → Option ℚ} {n : Nat} {store : Store} {facts : Facts} {row : Fields}
    {state : BudgetState} (hcounters : facts.updateCounters = true) (hnew : findLog store facts.key = none)
    (hrow : store.budgets.lookup facts.key.route = some row) (hstate : Normalized float row state) :
    persist float n store facts = debitBudget float n store facts row state.spendAccountingMode := by
  simp [persist, budgetAccountingFacts, hrow, hstate.mode, hnew, hcounters]

/-- A call without a log is debited exactly when its budget has what is to be debited and its user exists. -/
theorem persist_ok_iff {float : String → Option ℚ} {n : Nat} {store : Store} {facts : Facts} {row : Fields} {state : BudgetState}
    (hcounters : facts.updateCounters = true)
    (hweight : 0 < facts.requestWeight ∧ 0 ≤ facts.requestWeightDebit ∧ facts.requestWeightDebit ≤ facts.requestWeight)
    (hnew : findLog store facts.key = none) (hrow : store.budgets.lookup facts.key.route = some row)
    (hstate : Normalized float row state) :
    (∃ result, persist float n store facts = .ok result) ↔
      Affordable (facts.debitUsd state.spendAccountingMode) row ∧ facts.key.route.userId ∈ store.users := by
  rw [persist_eq_debitBudget hcounters hnew hrow hstate, ← AList.lookup_isSome, Option.isSome_iff_exists]
  constructor
  · rintro ⟨⟨store', log⟩, h⟩
    obtain ⟨update, row', totals, -, hquery, hpipeline, huser, -⟩ := debitBudget_ok h
    obtain ⟨⟨x, hx⟩, ⟨w, hw⟩, htallies⟩ := (pipeline_isSome_iff _ _ _ _).1 ⟨row', hpipeline⟩
    simp only [budgetQuery, hx, hw, Document.number?_number, hcounters, Bool.not_true, Bool.false_or,
      decide_eq_true_eq] at hquery
    exact ⟨⟨⟨x, hx, hquery⟩, ⟨w, hw⟩, htallies⟩, totals, huser⟩
  · rintro ⟨⟨⟨x, hx, hfunds⟩, ⟨w, hw⟩, htallies⟩, totals, huser⟩
    obtain ⟨update, hupdate⟩ := controllerUpdate_of_normalized hstate hx hw ⟨facts_debitUsd_nonneg facts _, hfunds⟩ hweight
    obtain ⟨row', hrow'⟩ := (pipeline_isSome_iff (facts.debitUsd state.spendAccountingMode) facts.requestWeightDebit update
      facts.success).2 ⟨⟨x, hx⟩, ⟨w, hw⟩, htallies⟩
    have hquery : budgetQuery facts (facts.debitUsd state.spendAccountingMode) row = true := by
      simp [budgetQuery, hx, hw, hfunds]
    unfold debitBudget
    simp only [hupdate, ok_bind, hquery, ensure, if_true, hrow', huser]
    exact ⟨_, rfl⟩

/-! ## What a request does -/

/-- A debit that is the spend, or of nothing. -/
theorem debitUsd_of_covered {spendUsd : ℚ} {mode : SpendAccountingMode} (h : mode = .providerSpend ∨ spendUsd = 0) :
    mode.debitUsd spendUsd = spendUsd := by
  rcases h with rfl | rfl
  · rfl
  · cases mode with
    | providerSpend => rfl
    | routingFee => decide +kernel

/-- The debit covers the spend when it is the spend, or when there is none. -/
theorem le_debitUsd_iff {spendUsd : ℚ} (hunits : Round.round 8 spendUsd = spendUsd) (h : 0 ≤ spendUsd) (mode : SpendAccountingMode) :
    spendUsd ≤ mode.debitUsd spendUsd ↔ mode = .providerSpend ∨ spendUsd = 0 := by
  cases mode with
  | providerSpend => simp [SpendAccountingMode.debitUsd]
  | routingFee =>
    simp only [SpendAccountingMode.debitUsd, Usage.routingFeeUsd, max_eq_right h, reduceCtorEq, false_or]
    constructor
    · intro hle
      -- in units of eight decimals, the fee on `n` units rounds to less than `n`
      obtain ⟨n, hn⟩ : ∃ n : ℤ, spendUsd = n / 10 ^ 8 := ⟨_, hunits.symm⟩
      rw [hn, Round.round, div_le_div_iff_of_pos_right (by norm_num), Int.cast_le, Round.le_halfEven_iff, Usage.routingFeeRate] at hle
      have hn0 : (0 : ℚ) ≤ n := by
        rw [hn] at h
        linarith
      have hlt : (n : ℚ) < 1 := by
        rcases hle with hle | ⟨hle, -⟩ <;> linarith
      have : n = 0 := by
        have h1 : n < 1 := by exact_mod_cast hlt
        have h0 : 0 ≤ n := by exact_mod_cast hn0
        omega
      simp [hn, this]
    · rintro rfl
      exact Round.round_nonneg (by simp)

/-- The mode with which a request is scored is the mode of its budget. -/
theorem selectModel_mode {float : String → Option ℚ} {store : Store} {request : RouteRequest} {budget : BudgetState}
    {model : RoutedModel} {row : Fields} (h : selectModel float store request = some (budget, model))
    (hrow : store.budgets.lookup ⟨request.userId, request.routeId⟩ = some row) :
    normalizeSpendAccountingMode (firstPresent row spendAccountingModeNames) = .ok budget.spendAccountingMode := by
  unfold selectModel at h
  simp only [hrow, Option.bind_eq_bind, Option.bind_some, Option.bind_eq_some_iff] at h
  obtain ⟨state, hstate, scored, -, selected, -, h⟩ := h
  cases h
  have hmode := (normalizeBudgetState_ok_iff.1 (Outcome.ok_of_toOption hstate)).mode
  have hfirst : get (budgetFromRow float row) "spendAccountingMode" = firstPresent row spendAccountingModeNames := by
    simp only [budgetFromRow, Table.ofList, List.foldl_cons, List.foldl_nil, Document.get_insert]
    rfl
  have hsecond : get (budgetFromRow float row) "spend_accounting_mode" = .null := by
    simp only [budgetFromRow, Table.ofList, List.foldl_cons, List.foldl_nil, Document.get_insert]
    rfl
  rw [spendAccountingModeNames, firstPresent, firstPresent, firstPresent, hfirst, hsecond, if_pos rfl] at hmode
  split at hmode
  · rename_i hnull
    rwa [hnull]
  · exact hmode

/-- A usable answer can be accounted for: its call can be logged, its budget has the debit, and the debit covers the spend. -/
structure Accountable (float : String → Option ℚ) (store : Store) (call : UsageCall) (mode : SpendAccountingMode)
    (spendUsd : ℚ) : Prop where
  loggable : Loggable float call
  affordable : ∃ row, store.budgets.lookup ⟨call.userId, call.routeId⟩ = some row ∧ Affordable (mode.debitUsd spendUsd) row
  user : call.userId ∈ store.users
  covered : mode = .providerSpend ∨ spendUsd = 0

/-- If a request reaches the provider, the budget has the debit of one of its candidates, and its answer can be accounted for if
it is usable. -/
def CanAccount (float : String → Option ℚ) (store : Store) (request : RouteRequest) : Prop :=
  ∀ budget model, selectModel float store request = some (budget, model) →
    (∃ candidate ∈ request.candidates, expectedBudgetDebitUsd float budget request candidate ≤ budget.budgetRemainingUsd) ∧
      ∀ provider usage, request.answer model = .usable provider usage →
        Accountable float store (usageCall float request model provider usage) budget.spendAccountingMode
          (estimateSpendUsd float model request.promptChars usage)

/-- The requests are on one route, each under a new routing call identifier. -/
structure Arrives (route : RouteKey) (store : Store) (request : RouteRequest) : Prop where
  onRoute : (⟨request.userId, request.routeId⟩ : RouteKey) = route
  fresh : findLog store ⟨route, strip request.routingCallId⟩ = none

/-- Every usable answer has one usage log and was debited, only requests that the budget can pay for have reached the provider, and
the provider was paid no more than the budget was debited. -/
structure Accounted (float : String → Option ℚ) (route : RouteKey) (row₀ : Fields) (store : Store) (calls : List ProviderCall) :
    Prop where
  one_log : ∀ c ∈ calls, c.spendUsd.isSome → ∃ log, store.usageLogs.filter (fun log => log.key = c.key) = [log] ∧
    log.accountedSpendUsd = c.accountedUsd
  gated : ∀ c ∈ calls, ∃ debit ∈ c.candidateDebitsUsd, debit ≤ c.budgetRemainingUsd
  debited : ∃ row x₀ x, store.budgets.lookup route = some row ∧ reading float row₀ remainingNames = some x₀ ∧
    reading float row remainingNames = some x ∧ x + (calls.map (·.accountedUsd)).sum = x₀ ∧
      (calls.map (·.paidUsd)).sum ≤ x₀ - x

/-- The record of a request that has reached the provider. -/
def providerCall (float : String → Option ℚ) (request : RouteRequest) (budget : BudgetState) (model : RoutedModel) : ProviderCall where
  key := ⟨⟨request.userId, request.routeId⟩, strip request.routingCallId⟩
  mode := budget.spendAccountingMode
  budgetRemainingUsd := budget.budgetRemainingUsd
  candidateDebitsUsd := request.candidates.map (expectedBudgetDebitUsd float budget request)
  spendUsd := match request.answer model with
    | .unusable => none
    | .usable _ usage => some (estimateSpendUsd float model request.promptChars usage)

/-- The requests that have reached the provider, beside the store. -/
def observeProvider (float : String → Option ℚ) (calls : List ProviderCall) (store : Store) (request : RouteRequest) (_ : Store) :
    List ProviderCall :=
  match selectModel float store request with
  | none => calls
  | some (budget, model) => calls ++ [providerCall float request budget model]

namespace AccountedAux

variable {float : String → Option ℚ} {route : RouteKey} {row₀ : Fields} {store : Store} {calls : List ProviderCall}
  {request : RouteRequest}

/-- What is kept from state to state while every request is accounted for. -/
structure Settled (float : String → Option ℚ) (route : RouteKey) (row₀ : Fields) (store : Store) (calls : List ProviderCall) :
    Prop where
  accounted : Accounted float route row₀ store calls
  valid : ∃ row state, store.budgets.lookup route = some row ∧ Normalized float row state
  paid : ∀ c ∈ calls, c.paidUsd = c.accountedUsd

/-- An answer that cannot be used is not paid for. -/
theorem settled_unusable {c : ProviderCall} (hspend : c.spendUsd = none)
    (hgate : ∃ debit ∈ c.candidateDebitsUsd, debit ≤ c.budgetRemainingUsd) (h : Settled float route row₀ store calls) :
    Settled float route row₀ store (calls ++ [c]) := by
  have hzero : c.accountedUsd = 0 ∧ c.paidUsd = 0 := by
    simp [ProviderCall.accountedUsd, ProviderCall.paidUsd, hspend]
  refine ⟨⟨?_, ?_, ?_⟩, h.valid, ?_⟩
  · simpa [or_imp, forall_and, hspend] using h.accounted.one_log
  · simpa [or_imp, forall_and, hgate] using h.accounted.gated
  · simpa [hzero] using h.accounted.debited
  · simpa [or_imp, forall_and, hzero] using h.paid

/-- The logs under another key are as they were. -/
theorem filter_append_ne {logs : List UsageLog} {log : UsageLog} {key : LogKey} (h : log.key ≠ key) :
    (logs ++ [log]).filter (fun log => log.key = key) = logs.filter (fun log => log.key = key) := by
  simp [List.filter_append, h]

/-- The log under a new key is the only one. -/
theorem filter_append_new {log : UsageLog} {key : LogKey} (h : log.key = key) (hnew : findLog store key = none) :
    (store.usageLogs ++ [log]).filter (fun log => log.key = key) = [log] := by
  have hnone : store.usageLogs.filter (fun log => log.key = key) = [] := by
    rw [List.filter_eq_nil_iff]
    exact List.find?_eq_none.1 hnew
  simp [List.filter_append, hnone, h]

/-- An answer that was debited is accounted for. -/
theorem settled_debited {c : ProviderCall} {facts : Facts} {row row' : Fields} {state : BudgetState} {update : ControllerUpdate}
    {totals : UserTotals} (hkey : c.key = facts.key) (hspend : c.spendUsd = some facts.providerSpendUsd)
    (hmode : c.mode = state.spendAccountingMode) (hcovered : c.mode = .providerSpend ∨ facts.providerSpendUsd = 0)
    (hgate : ∃ debit ∈ c.candidateDebitsUsd, debit ≤ c.budgetRemainingUsd)
    (hnew : findLog store facts.key = none) (hrow : store.budgets.lookup facts.key.route = some row)
    (hstate : Normalized float row state)
    (hcontroller : calculateBudgetControllerUpdate float row (facts.debitUsd c.mode) facts.requestWeight facts.requestWeightDebit =
      .ok update)
    (hupdated : Updated (facts.debitUsd c.mode) facts.requestWeightDebit update facts.success row row')
    (h : Settled float facts.key.route row₀ store calls) :
    Settled float facts.key.route row₀ {
        budgets := store.budgets.insert facts.key.route row'
        users := store.users.insert facts.key.route.userId (totals.count facts)
        usageLogs := store.usageLogs ++ [newLog facts c.mode row'] } (calls ++ [c]) := by
  have haccounted : c.accountedUsd = facts.debitUsd c.mode := by
    simp [ProviderCall.accountedUsd, hspend, Facts.debitUsd]
  have hpaid : c.paidUsd = c.accountedUsd := by
    rw [haccounted, ProviderCall.paidUsd, hspend, Facts.debitUsd, debitUsd_of_covered hcovered]
    rfl
  obtain ⟨row₁, x₀, x, hrow₁, hx₀, hx, hsum, hbound⟩ := h.accounted.debited
  cases hrow.symm.trans hrow₁
  obtain ⟨x', hx', hnext⟩ := hupdated.remaining
  cases (reading_of_head hx' _).symm.trans hx
  refine ⟨⟨?_, ?_, row', x₀, x - facts.debitUsd c.mode, AList.lookup_insert _, hx₀, reading_of_head hnext _, ?_, ?_⟩,
    ⟨row', ?_⟩, ?_⟩
  · intro c' hc' hsome
    rcases List.mem_append.1 hc' with hold | hlast
    · obtain ⟨log, hlog, hamount⟩ := h.accounted.one_log c' hold hsome
      refine ⟨log, ?_, hamount⟩
      have hne : facts.key ≠ c'.key := by
        rintro heq
        have hmem : log ∈ store.usageLogs.filter (fun log => log.key = c'.key) := by simp [hlog]
        have hfound := List.mem_filter.1 hmem
        exact List.find?_eq_none.1 hnew log hfound.1 (by rw [heq]; exact hfound.2)
      exact (filter_append_ne hne).trans hlog
    · obtain rfl := List.mem_singleton.1 hlast
      exact ⟨_, filter_append_new hkey.symm (hkey ▸ hnew), haccounted.symm⟩
  · simpa [or_imp, forall_and, hgate] using h.accounted.gated
  · rw [List.map_append, List.sum_append, List.map_singleton, List.sum_singleton, haccounted]
    linarith
  · rw [List.map_append, List.sum_append, List.map_singleton, List.sum_singleton, hpaid, haccounted]
    linarith
  · obtain ⟨state', hstate'⟩ := RouteLedgerAux.valid_of_updated hupdated hcontroller hstate
    exact ⟨state', AList.lookup_insert _, hstate'⟩
  · simpa [or_imp, forall_and, hpaid] using h.paid

/-- A usable answer is logged exactly when its call can be logged and its budget and user are there. -/
theorem writeUsageLog_ok_iff {call : UsageCall} {row : Fields} {state : BudgetState} {spendUsd : ℚ}
    (hcounters : call.updateCounters = true) (hspend : call.spendUsd = .number spendUsd)
    (hnew : findLog store ⟨⟨call.userId, call.routeId⟩, strip call.routingCallId⟩ = none)
    (hrow : store.budgets.lookup ⟨call.userId, call.routeId⟩ = some row) (hstate : Normalized float row state) :
    (∃ result, writeUsageLog float store call = .ok result) ↔
      Loggable float call ∧ Affordable (state.spendAccountingMode.debitUsd spendUsd) row ∧ call.userId ∈ store.users := by
  have haccepted {facts : Facts} (hfacts : usageFacts float call = .ok facts) :
      (∃ result, writeUsageLog float store call = .ok result) ↔
        Affordable (state.spendAccountingMode.debitUsd spendUsd) row ∧ call.userId ∈ store.users := by
    obtain ⟨-, hof⟩ := usageFacts_ok hfacts
    have hspend' : facts.providerSpendUsd = spendUsd := by
      have := hof.spend
      rw [hspend, finiteProfileNumber_number] at this
      exact (Option.some.inj this).symm
    simp only [writeUsageLog, hfacts, ok_bind]
    rw [persist_ok_iff (hof.counters.trans hcounters) (hof.weight hcounters) (hof.key ▸ hnew) (by rw [hof.key]; exact hrow) hstate,
      Facts.debitUsd, hspend', hof.key]
  constructor
  · rintro ⟨result, h⟩
    obtain ⟨facts, hfacts, -⟩ := bind_ok h
    exact ⟨(usageFacts_ok hfacts).1, (haccepted hfacts).1 ⟨result, h⟩⟩
  · rintro ⟨hlog, hrest⟩
    obtain ⟨facts, hfacts⟩ := usageFacts_of_loggable hlog
    exact (haccepted hfacts).2 hrest

/-- What a request does. -/
theorem executeRoute_cases (float : String → Option ℚ) (store : Store) (request : RouteRequest) :
    (selectModel float store request = none ∧ executeRoute float store request = store) ∨
    (∃ budget model, selectModel float store request = some (budget, model) ∧
      (request.answer model = .unusable ∧ executeRoute float store request = store ∨
      ∃ provider usage, request.answer model = .usable provider usage ∧
        ((∃ refusal, writeUsageLog float store (usageCall float request model provider usage) = .error refusal ∧
          executeRoute float store request = store) ∨
        ∃ store' log, writeUsageLog float store (usageCall float request model provider usage) = .ok (store', log) ∧
          executeRoute float store request = store'))) := by
  cases hselect : selectModel float store request with
  | none => exact Or.inl ⟨rfl, by simp [executeRoute, hselect]⟩
  | some selected =>
    obtain ⟨budget, model⟩ := selected
    refine Or.inr ⟨budget, model, rfl, ?_⟩
    cases hanswer : request.answer model with
    | unusable => exact Or.inl ⟨rfl, by simp [executeRoute, hselect, answeredCall, hanswer]⟩
    | usable provider usage =>
      refine Or.inr ⟨provider, usage, rfl, ?_⟩
      cases hwrite : writeUsageLog float store (usageCall float request model provider usage) with
      | error refusal => exact Or.inl ⟨refusal, rfl, by simp [executeRoute, hselect, answeredCall, hanswer, hwrite]⟩
      | ok result => exact Or.inr ⟨result.1, result.2, rfl, by simp [executeRoute, hselect, answeredCall, hanswer, hwrite]⟩

theorem observeProvider_some {store' : Store} {budget : BudgetState} {model : RoutedModel}
    (h : selectModel float store request = some (budget, model)) :
    observeProvider float calls store request store' = calls ++ [providerCall float request budget model] := by
  simp only [observeProvider, h]

theorem candidateDebits_iff (budget : BudgetState) (model : RoutedModel) :
    (∃ debit ∈ (providerCall float request budget model).candidateDebitsUsd,
        debit ≤ (providerCall float request budget model).budgetRemainingUsd) ↔
      ∃ candidate ∈ request.candidates, expectedBudgetDebitUsd float budget request candidate ≤ budget.budgetRemainingUsd := by
  simp [providerCall]

/-- A request that is accounted for met the condition. -/
theorem canAccount_of_accounted (h : Settled float route row₀ store calls) (harrives : Arrives route store request)
    (hnext : Accounted float route row₀ (executeRoute float store request)
      (observeProvider float calls store request (executeRoute float store request))) : CanAccount float store request := by
  intro budget model hselect
  obtain ⟨row, state, hrow, hstate⟩ := h.valid
  obtain rfl := harrives.onRoute
  have hmode : state.spendAccountingMode = budget.spendAccountingMode :=
    Except.ok.inj (hstate.mode.symm.trans (selectModel_mode hselect hrow))
  rw [observeProvider_some hselect] at hnext
  refine ⟨(candidateDebits_iff budget model).1 (hnext.gated _ (by simp)), ?_⟩
  intro provider usage hanswer
  have hspend : (providerCall float request budget model).spendUsd =
      some (estimateSpendUsd float model request.promptChars usage) := by
    simp [providerCall, hanswer]
  obtain ⟨log, hlog, -⟩ := hnext.one_log (providerCall float request budget model) (by simp) (by simp [hspend])
  rcases executeRoute_cases float store request with ⟨hnone, -⟩ | ⟨budget', model', hselect', hcases⟩
  · simp [hselect] at hnone
  · cases hselect.symm.trans hselect'
    rcases hcases with ⟨hunusable, -⟩ | ⟨provider', usage', husable, ⟨refusal, -, hs⟩ | ⟨store', log', hwrite, hs⟩⟩
    · simp [hanswer] at hunusable
    · -- a call that was refused leaves no log under its key
      rw [hs] at hlog
      have hmem : log ∈ store.usageLogs.filter (fun log => log.key = (providerCall float request budget model).key) := by
        simp [hlog]
      have hfound := List.mem_filter.1 hmem
      exact (List.find?_eq_none.1 harrives.fresh log hfound.1 hfound.2).elim
    · cases hanswer.symm.trans husable
      obtain ⟨hloggable, haffordable, huser⟩ := (writeUsageLog_ok_iff rfl rfl harrives.fresh hrow hstate).1 ⟨_, hwrite⟩
      rw [hmode] at haffordable
      refine ⟨hloggable, ⟨row, hrow, haffordable⟩, huser, ?_⟩
      obtain ⟨x, hx, hnonneg⟩ := hloggable.spend
      cases (finiteProfileNumber_number float _).symm.trans hx
      obtain ⟨-, x₀, x, -, -, -, hsum, hbound⟩ := hnext.debited
      rw [List.map_append, List.sum_append, List.map_singleton, List.sum_singleton] at hsum hbound
      have hbefore : (calls.map (·.paidUsd)).sum = (calls.map (·.accountedUsd)).sum :=
        congrArg List.sum (List.map_congr_left h.paid)
      have hunits : Round.round 8 (estimateSpendUsd float model request.promptChars usage) =
        estimateSpendUsd float model request.promptChars usage := Round.round_round 8 _
      refine (le_debitUsd_iff hunits hnonneg _).1 ?_
      have hpaid : (providerCall float request budget model).paidUsd = estimateSpendUsd float model request.promptChars usage := by
        simp [ProviderCall.paidUsd, hspend]
      have haccounted : (providerCall float request budget model).accountedUsd =
          budget.spendAccountingMode.debitUsd (estimateSpendUsd float model request.promptChars usage) := by
        rw [ProviderCall.accountedUsd, hspend]
        rfl
      rw [hpaid] at hbound
      rw [haccounted] at hsum
      linarith

/-- A request that meets the condition is accounted for. -/
theorem settled_of_canAccount (h : Settled float route row₀ store calls) (harrives : Arrives route store request)
    (hcan : CanAccount float store request) :
    Settled float route row₀ (executeRoute float store request)
      (observeProvider float calls store request (executeRoute float store request)) := by
  rcases executeRoute_cases float store request with ⟨hnone, hs⟩ | ⟨budget, model, hselect, hcases⟩
  · rw [hs]
    simpa only [observeProvider, hnone] using h
  · obtain ⟨row, state, hrow, hstate⟩ := h.valid
    obtain rfl := harrives.onRoute
    have hmode : state.spendAccountingMode = budget.spendAccountingMode :=
      Except.ok.inj (hstate.mode.symm.trans (selectModel_mode hselect hrow))
    obtain ⟨hgate, hanswer⟩ := hcan budget model hselect
    rw [observeProvider_some hselect]
    rcases hcases with ⟨hunusable, hs⟩ | ⟨provider, usage, husable, hwritten⟩
    · rw [hs]
      exact settled_unusable (by simp [providerCall, hunusable]) ((candidateDebits_iff _ _).2 hgate) h
    · obtain ⟨hloggable, ⟨row', hrow', haffordable⟩, huser, hcovered⟩ := hanswer provider usage husable
      cases hrow.symm.trans hrow'
      obtain ⟨result, hok⟩ := (writeUsageLog_ok_iff rfl rfl harrives.fresh hrow hstate).2 ⟨hloggable, hmode ▸ haffordable, huser⟩
      rcases hwritten with ⟨refusal, hrefused, -⟩ | ⟨store', log, hwrite, hs⟩
      · simp [hok] at hrefused
      · rw [hs]
        obtain ⟨facts, hfacts, hpersist⟩ := bind_ok hwrite
        obtain ⟨-, hof⟩ := usageFacts_ok hfacts
        have hspend : facts.providerSpendUsd = estimateSpendUsd float model request.promptChars usage :=
          (Option.some.inj ((finiteProfileNumber_number float _).symm.trans hof.spend)).symm
        have hkey : facts.key = ⟨⟨request.userId, request.routeId⟩, strip request.routingCallId⟩ := hof.key
        rw [persist_eq_debitBudget hof.counters (hkey ▸ harrives.fresh) (by rw [hkey]; exact hrow) hstate] at hpersist
        obtain ⟨update, row', totals, hcontroller, -, hpipeline, -, rfl⟩ := debitBudget_ok hpersist
        rw [hmode] at hcontroller hpipeline ⊢
        have hroute : (⟨request.userId, request.routeId⟩ : RouteKey) = facts.key.route := by rw [hkey]
        rw [hroute] at h hrow ⊢
        exact settled_debited hkey.symm (by simp [providerCall, husable, hspend]) hmode.symm (hspend ▸ hcovered)
          ((candidateDebits_iff _ _).2 hgate) (hkey ▸ harrives.fresh) hrow hstate hcontroller (updated_of_pipeline hpipeline) h

end AccountedAux

open AccountedAux

/-- A model that costs two dollars for a million tokens of input, and ten for a million tokens of output. -/
def exampleModel : RoutedModel where
  modelId := "openai/model"
  provider := "openai"
  biencoderScore := .number 1
  inputPricePerMillion := .number 2
  outputPricePerMillion := .number 10
  contextWindow := .number 128000
  supportsTools := true
  supportsJson := true

/-- A request of a thousand tokens that is answered with five hundred, as predicted: it costs 0.007 dollars. -/
def exampleRequest (routingCallId : String) : RouteRequest where
  userId := "user"
  routeId := "default"
  routeName := "code"
  routingCallId := routingCallId
  candidates := [exampleModel]
  penalties := []
  requiresTools := false
  requiresJson := false
  estimatedInputTokens := 1000
  weight := { requestWeight := 2, inputLengthTokens := 1000, outputLengthPredictionTokens := 500 }
  promptChars := 4000
  answer := fun _ => .usable "openai" (some (Table.ofList [("prompt_tokens", .number 1000), ("completion_tokens", .number 500)]))

/-- The budget of the example with half a cent left. -/
def halfCentBudget : Fields := exampleBudget.insert "budgetRemainingUsd" (.number (1 / 200))

/-- The store of the example with half a cent left. -/
def halfCentStore : Store := { exampleStore with budgets := Table.ofList [(⟨"user", "default"⟩, halfCentBudget)] }

/-- What the budget of the example reads as. -/
def exampleState : BudgetState where
  budgetRemainingUsd := 1
  remainingWeight := 10
  totalPredictedWeight := 10
  medianWeightedTokens := 1000
  averageRequestsPerPeriod := 5
  budgetShadowPrice := 1
  budgetControllerLearningRate := 10
  budgetShadowPriceMin := 0
  budgetShadowPriceMax := 100
  spendAccountingMode := .providerSpend

/-- The request can be accounted for with one dollar. -/
theorem canAccount_example : CanAccount (fun _ => none) exampleStore (exampleRequest "a") := by
  have hselect : selectModel (fun _ => none) exampleStore (exampleRequest "a") = some (exampleState, exampleModel) := by
    decide +kernel
  intro budget model h
  rw [hselect] at h
  cases h
  refine ⟨⟨exampleModel, List.mem_singleton_self _, by decide +kernel⟩, ?_⟩
  intro provider usage h
  simp only [exampleRequest, Answer.usable.injEq] at h
  obtain ⟨rfl, rfl⟩ := h
  refine ⟨⟨by decide +kernel, ?_, ?_, by decide +kernel, by decide +kernel, by decide +kernel, 7 / 1000, by decide +kernel,
    by decide +kernel⟩, ⟨exampleBudget, rfl, ⟨1, by decide +kernel, by decide +kernel⟩, ⟨10, by decide +kernel⟩, ?_⟩,
    by decide +kernel, Or.inl rfl⟩
  · unfold IsCounterKey
    decide +kernel
  · have hlab : modelCompanyFromId (strip "openai/model") = some "OpenAI" := by decide +kernel
    intro label hlabel
    obtain rfl := Option.some.inj (hlab.symm.trans hlabel)
    unfold IsCounterKey
    decide +kernel
  · simp only [tallyNames, List.forall_mem_cons]
    exact ⟨⟨0, rfl⟩, ⟨0, rfl⟩, ⟨0, rfl⟩, ⟨0, rfl⟩, ⟨0, rfl⟩, by simp⟩

end RouteBudget

end PromptRail
