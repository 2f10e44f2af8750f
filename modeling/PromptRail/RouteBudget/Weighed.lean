import PromptRail.RouteBudget.Observed

/-!
# Budgets that can be scored

What a history computes is what the setup that saves it sets, unless the metadata states the same weight under the name that is read
first. A budget that was saved so can be scored, and what remains of its weight stays within the weight of its period, through any
charges and any later setups that take the weights from a history or leave them.
-/

namespace PromptRail

open Document (Fields Value get firstPresent)
open PyText (Text)
open Concurrent (Program World Action)
open Transition (Throughout Along throughout_of_along)
open Outcome (bind_ok ok_bind)

namespace RouteBudget

/-! ## Budgets and metadata -/

/-- A budget whose fields are numbers that can be scored with, and whose weight is within the weight of its period. -/
structure Scorable (row : Fields) : Prop where
  remaining : ∃ x, get row "budgetRemainingUsd" = .number x
  weights : ∃ weight total, get row "remainingWeight" = .number weight ∧ get row "totalPredictedWeight" = .number total ∧ 0 ≤ weight ∧
    weight ≤ total ∧ 0 < total
  median : ∃ x, get row "medianWeightedTokens" = .number x ∧ 0 < x
  average : ∃ x, get row "averageRequestsPerPeriod" = .number x ∧ 1 ≤ x
  controller : ∃ price rate low high, get row "budgetShadowPrice" = .number price ∧
    get row "budgetControllerLearningRate" = .number rate ∧ get row "budgetShadowPriceMin" = .number low ∧
    get row "budgetShadowPriceMax" = .number high ∧ 0 ≤ low ∧ low ≤ price ∧ price ≤ high ∧ 0 ≤ rate
  mode : ∃ mode : SpendAccountingMode, get row "spendAccountingMode" = .text mode.text

/-- Metadata that gives a budget the weights of an observation. -/
structure GivesWeights (float : String → Option ℚ) (budget : Fields) (o : History.Observation) : Prop where
  remaining : reading float budget weightNames = some o.remainingWeight
  total : reading float budget totalWeightNames = some o.totalPredictedWeight
  median : reading float budget medianNames = some o.medianWeightedTokens
  average : reading float budget averageNames = some o.averageRequests

/-- Metadata that says nothing of the weights. -/
def LeavesWeights (float : String → Option ℚ) (budget : Fields) : Prop :=
  ∀ names ∈ [weightNames, totalWeightNames, medianNames, averageNames], reading float budget names = none

/-- The names under which a weight is read before it is computed. -/
def statedNames : List String := ["remainingWeight", "totalPredictedWeight", "medianWeightedTokens", "averageRequestsPerPeriod"]

/-- Metadata that a history was computed into, and that states none of the weights itself. -/
def FromHistory (env : History.Env) (metadata : Option Fields) : Prop :=
  ∃ (routes : List Text) (budget : Json.Fields) (classification : History.Observation),
    History.computeBudgetFieldsFromHistory env routes (some budget) = .ok ⟨metadata, some classification⟩ ∧
      ∀ name ∈ statedNames, get (env.document budget) name = .null

/-- A setup that is saved for a route takes the weights from a history, or leaves them. -/
def KeepsWeights (env : History.Env) (defaults : ControllerDefaults) (route : RouteKey) (store : Store) :
    Action UsageCall (Option Failure) BudgetEvent → Prop
  | .happen event => event.route = route → (event.fields defaults env.float store).isSome = true →
      FromHistory env event.budget ∨ LeavesWeights env.float (event.budget.getD ∅)
  | _ => True

/-- The budget of a route can be scored. -/
def InBudget (route : RouteKey) (store : Store) : Prop := ∃ row, store.budgets.lookup route = some row ∧ Scorable row

namespace WeighedAux

variable {env : History.Env} {defaults : ControllerDefaults} {float : String → Option ℚ}

/-! ### What is computed is read -/

theorem get_dropped {document : Fields} {name : String} {names : List String} (h : name ∉ names) :
    get (names.foldl (fun fields dropped => fields.erase dropped) document) name = get document name := by
  induction names generalizing document with
  | nil => rfl
  | cons dropped names ih =>
    rw [List.mem_cons, not_or] at h
    rw [List.foldl_cons, ih h.2, Document.get, AList.lookup_erase_ne h.1]
    rfl

theorem lookup_carried_none (budget : Fields) {name : String} (h : name ∉ History.carriedFields.map (·.1)) :
    (History.carried env budget).lookup name = none := by
  rw [List.lookup_eq_none_iff]
  intro p hp
  obtain ⟨field, hfield, hvalue⟩ := List.mem_filterMap.1 hp
  have hname : p.1 = field.1 := by
    dsimp only at hvalue
    split at hvalue
    · cases hvalue
    · cases hvalue
      rfl
  refine bne_iff_ne.2 fun heq => h ?_
  rw [heq, hname]
  exact List.mem_map_of_mem hfield

/-- A weight is read under the second of its names where the first one is not stated. -/
theorem reading_computed {budget : Fields} {o : History.Observation} {stated computed : String} {x : ℚ} (names : List String)
    (hdropped : stated ∉ History.droppedNames ∧ computed ∉ History.droppedNames)
    (hstated : ∀ (b : Fields) (o : History.Observation), (History.computedFields env b o).lookup stated = none)
    (hcomputed : (History.computedFields env budget o).lookup computed = some (.number x)) (h : get budget stated = .null) :
    reading float (History.nextBudget env budget o) (stated :: computed :: names) = some x := by
  have hfirst : get (History.nextBudget env budget o) stated = .null := by
    rw [History.nextBudget, get_dropped hdropped.1, Document.get_update, hstated, Option.getD_none, h]
  have hsecond : get (History.nextBudget env budget o) computed = .number x := by
    rw [History.nextBudget, get_dropped hdropped.2, Document.get_update, hcomputed]
    rfl
  have hnext : firstPresent (History.nextBudget env budget o) (stated :: computed :: names) = .number x := by
    rw [firstPresent, if_pos hfirst, Document.firstPresent_head (by simp [hsecond]), hsecond]
  rw [reading, hnext]
  rfl

theorem lookup_computed_none {name : String} (h : name ∉ ["total_predicted_weight", "remaining_weight", "median_weighted_tokens",
      "average_requests_per_period", "output_token_weight", "request_weight_beta", "request_difficulty_alpha", "request_weight_min",
      "request_weight_cap_multiplier", "total_observed_difficulty", "average_observed_difficulty", "w_source",
      "w_observed_sample_count", "w_observed_request_count", "w_observed_period_days"])
    (hcarried : name ∉ History.carriedFields.map (·.1)) (budget : Fields) (o : History.Observation) :
    (History.computedFields env budget o).lookup name = none := by
  simp only [List.mem_cons, List.not_mem_nil, or_false, not_or] at h
  rw [History.computedFields, List.lookup_append, lookup_carried_none budget hcarried, Option.or_none]
  simp [List.lookup_cons, beq_false_of_ne, h]

/-- What a history computes is what a setup reads. -/
theorem givesWeights_of_fromHistory {metadata : Option Fields} (h : FromHistory env metadata) :
    ∃ budget o, metadata = some budget ∧ GivesWeights env.float budget o ∧ o.Sound := by
  obtain ⟨routes, budget, o, hcompute, hstated⟩ := h
  unfold History.computeBudgetFieldsFromHistory at hcompute
  dsimp only at hcompute
  split at hcompute
  · cases hcompute
  · split at hcompute
    · cases hcompute
    · obtain ⟨classified, -, hcompute⟩ := bind_ok hcompute
      obtain ⟨o', ho, hcompute⟩ := bind_ok hcompute
      cases hcompute
      have hnull (name : String) (hname : name ∈ statedNames) : get (env.document budget) name = .null := hstated name hname
      refine ⟨_, o, rfl, ⟨?_, ?_, ?_, ?_⟩, History.sound_of_observe ho⟩
      · exact reading_computed _ (by decide) (lookup_computed_none (by decide) (by decide)) rfl (hnull _ (by decide))
      · exact reading_computed _ (by decide) (lookup_computed_none (by decide) (by decide)) rfl (hnull _ (by decide))
      · exact reading_computed _ (by decide) (lookup_computed_none (by decide) (by decide)) rfl (hnull _ (by decide))
      · exact reading_computed _ (by decide) (lookup_computed_none (by decide) (by decide)) rfl (hnull _ (by decide))

/-! ### What a setup sets -/

theorem controllerConsistent_insert (fields : Fields) (value : Value) :
    controllerConsistent (fields.insert "spendAccountingMode" value) = controllerConsistent fields := by
  simp [controllerConsistent]

/-- Metadata is accepted with a consistent controller only. -/
theorem consistent_of_budgetMetadataFields {budget : Option Fields} {fields : Fields}
    (h : budgetMetadataFields defaults float budget = .ok fields) : controllerConsistent fields = true := by
  have hempty : controllerConsistent ∅ = true := by decide +kernel
  cases budget with
  | none =>
    cases h
    exact hempty
  | some budget =>
    unfold budgetMetadataFields at h
    by_cases hnumbers : metadataNumbers float budget = []
    · simp only [hnumbers, if_true] at h
      cases h
      exact hempty
    · simp only [hnumbers, if_false] at h
      split at h
      · rename_i hconsistent
        split at h
        · cases h
        · cases h
          rw [controllerConsistent_insert]
          exact hconsistent
      · cases h

theorem consistent_of_rereadMetadata {budget : Option Fields} {existing fields : Fields}
    (h : rereadMetadata defaults float budget existing = .ok fields) : controllerConsistent fields = true := by
  unfold rereadMetadata at h
  obtain ⟨first, -, h⟩ := bind_ok h
  split at h
  · cases h
  · exact consistent_of_budgetMetadataFields h

/-- The fields of the controller are numbers. -/
theorem controller_number (b existing : Fields) (mode : SpendAccountingMode) {name : String}
    (h : name ∈ controllerFields.map (·.1)) :
    ∃ x, (RefreshAux.secondBudget defaults float b existing mode).lookup name = some (.number x) := by
  have hmode : name ≠ "spendAccountingMode" := by
    rintro rfl
    revert h
    decide
  have hdefault : (defaults.fields.lookup name).isSome = true := by
    revert h
    simp only [ControllerDefaults.fields, Table.ofList, List.foldl_cons, List.foldl_nil, controllerFields, List.map_cons, List.map_nil,
      List.mem_cons, List.not_mem_nil, or_false]
    rintro (rfl | rfl | rfl | rfl) <;> rfl
  have hsome : ((RefreshAux.secondBudget defaults float b existing mode).lookup name).isSome = true := by
    rw [RefreshAux.lookup_secondBudget hmode, Option.isSome_or, Option.isSome_or, hdefault, Bool.or_true, Bool.or_true]
  obtain ⟨v, hv⟩ := Option.isSome_iff_exists.1 hsome
  obtain ⟨x, rfl⟩ := RefreshAux.secondBudget_numbers hmode v hv
  exact ⟨x, hv⟩

/-- What a setup sets of the fields that can be scored with. -/
structure SetupSets (float : String → Option ℚ) (budget fields : Fields) : Prop where
  weight : fields.lookup "remainingWeight" = (reading float budget weightNames).map .number
  total : fields.lookup "totalPredictedWeight" = (reading float budget totalWeightNames).map .number
  median : fields.lookup "medianWeightedTokens" = (reading float budget medianNames).map .number
  average : fields.lookup "averageRequestsPerPeriod" = (reading float budget averageNames).map .number
  budgetUsd : fields.lookup "budgetUsd" = (reading float budget budgetUsdNames).map .number
  remaining : ∃ x : Option ℚ, fields.lookup "budgetRemainingUsd" = x.map .number
  controller : ∃ price rate low high, fields.lookup "budgetShadowPrice" = some (.number price) ∧
    fields.lookup "budgetControllerLearningRate" = some (.number rate) ∧ fields.lookup "budgetShadowPriceMin" = some (.number low) ∧
    fields.lookup "budgetShadowPriceMax" = some (.number high) ∧ 0 ≤ low ∧ low ≤ price ∧ price ≤ high ∧ 0 ≤ rate
  mode : ∃ mode : SpendAccountingMode, fields.lookup "spendAccountingMode" = some (.text mode.text)

open RefreshAux in
/-- What is read of a consistent controller is within its bounds. -/
theorem controller_of_firstRead {b existing : Fields} {mode : SpendAccountingMode}
    (h : controllerConsistent (firstRead defaults float (secondBudget defaults float b existing mode) mode) = true) :
    ∃ price rate low high,
      (firstRead defaults float (secondBudget defaults float b existing mode) mode).lookup "budgetShadowPrice" = some (.number price) ∧
      (firstRead defaults float (secondBudget defaults float b existing mode) mode).lookup "budgetControllerLearningRate" =
        some (.number rate) ∧
      (firstRead defaults float (secondBudget defaults float b existing mode) mode).lookup "budgetShadowPriceMin" = some (.number low) ∧
      (firstRead defaults float (secondBudget defaults float b existing mode) mode).lookup "budgetShadowPriceMax" = some (.number high) ∧
      0 ≤ low ∧ low ≤ price ∧ price ≤ high ∧ 0 ≤ rate := by
  have hcontroller {name : String} {aliases : List String} (hmem : (name, aliases) ∈ metadataFields)
      (hlookup : metadataFields.lookup name = some aliases) (hname : name ∈ controllerFields.map (·.1)) :
      ∃ x, (firstRead defaults float (secondBudget defaults float b existing mode) mode).lookup name = some (.number x) := by
    obtain ⟨x, hx⟩ := @controller_number defaults float b existing mode name hname
    exact ⟨x, (lookup_reread hmem hlookup).trans hx⟩
  obtain ⟨price, hprice⟩ := hcontroller (by decide : ("budgetShadowPrice", shadowPriceNames) ∈ metadataFields) rfl (by decide)
  obtain ⟨rate, hrate⟩ := hcontroller (by decide : ("budgetControllerLearningRate", learningRateNames) ∈ metadataFields) rfl (by decide)
  obtain ⟨low, hlow⟩ := hcontroller (by decide : ("budgetShadowPriceMin", shadowPriceMinNames) ∈ metadataFields) rfl (by decide)
  obtain ⟨high, hhigh⟩ := hcontroller (by decide : ("budgetShadowPriceMax", shadowPriceMaxNames) ∈ metadataFields) rfl (by decide)
  have hbounds := of_decide_eq_true h
  dsimp only at hbounds
  rw [Document.get_of_lookup hprice, Document.get_of_lookup hrate, Document.get_of_lookup hlow, Document.get_of_lookup hhigh] at hbounds
  obtain ⟨h0, -, hpriceLow, hpriceHigh, hrate0⟩ := hbounds
  exact ⟨price, rate, low, high, hprice, hrate, hlow, hhigh, h0, hpriceLow, hpriceHigh, hrate0⟩

open RefreshAux in
theorem setupSets_of_ok {metadata : Option Fields} {existing fields : Fields}
    (h : setupFields defaults float metadata existing = .ok fields) : ∃ b, metadata = some b ∧ SetupSets float b fields := by
  obtain ⟨b, rfl, hread⟩ := setupFields_ok h
  obtain ⟨mode', -, hmodeField⟩ := hread.mode
  unfold setupFields at h
  obtain ⟨first, hfirst, h⟩ := bind_ok h
  cases h
  have hconsistent := consistent_of_rereadMetadata hfirst
  obtain ⟨_, mode, hb, -, rfl⟩ := rereadMetadata_ok hfirst
  cases hb
  have hkept {name : String} (hstamp : name ≠ "timeStampDays") (hspend : name ≠ "timeSpendDays")
      (hremaining : name ≠ "budgetRemainingUsd") :
      (withWindow float ((some b).getD ∅) existing (withRemaining float existing
        (firstRead defaults float (secondBudget defaults float b existing mode) mode))).lookup name =
      (firstRead defaults float (secondBudget defaults float b existing mode) mode).lookup name := by
    rw [lookup_withWindow hstamp hspend, lookup_withRemaining_ne hremaining]
  refine ⟨b, rfl, ⟨hread.weight, ?_, ?_, ?_, ?_, ⟨_, hread.remaining⟩, ?_, ⟨mode', hmodeField⟩⟩⟩
  · exact (hkept (by decide) (by decide) (by decide)).trans (lookup_reread_plain (by decide) rfl rfl (by decide))
  · exact (hkept (by decide) (by decide) (by decide)).trans (lookup_reread_plain (by decide) rfl rfl (by decide))
  · exact (hkept (by decide) (by decide) (by decide)).trans (lookup_reread_plain (by decide) rfl rfl (by decide))
  · exact (hkept (by decide) (by decide) (by decide)).trans (lookup_reread_plain (by decide) rfl rfl (by decide))
  · obtain ⟨price, rate, low, high, hprice, hrate, hlow, hhigh, hbounds⟩ := controller_of_firstRead hconsistent
    exact ⟨price, rate, low, high, (hkept (by decide) (by decide) (by decide)).trans hprice,
      (hkept (by decide) (by decide) (by decide)).trans hrate, (hkept (by decide) (by decide) (by decide)).trans hlow,
      (hkept (by decide) (by decide) (by decide)).trans hhigh, hbounds⟩

/-! ### What is saved can be scored -/

theorem getD_map_number (x : Option ℚ) {value : Value} (h : ∃ y, value = .number y) : ∃ y, (x.map Value.number).getD value = .number y := by
  cases x with
  | none => exact h
  | some y => exact ⟨y, rfl⟩

/-- A budget that is inserted has something that remains. -/
theorem remaining_setOnInsert {budget fields : Fields} (h : SetupSets float budget fields) :
    ∃ x, get (setOnInsert fields) "budgetRemainingUsd" = .number x := by
  obtain ⟨remaining, hremaining⟩ := h.remaining
  have hget : get (setOnInsert fields) "budgetRemainingUsd" =
      (remaining.map Value.number).getD (((reading float budget budgetUsdNames).map Value.number).getD (.number 0)) := by
    rw [← h.budgetUsd, ← hremaining]
    simp [setOnInsert, Table.ofList]
  rw [hget]
  exact getD_map_number _ (getD_map_number _ ⟨0, rfl⟩)

/-- A setup that takes the weights from a history, or leaves those of a budget that can be scored, leaves a budget that can be
scored. -/
theorem scorable_of_set {budget fields base : Fields} (hset : SetupSets float budget fields)
    (hremaining : ∃ x, get base "budgetRemainingUsd" = .number x)
    (hweights : (∃ o, GivesWeights float budget o ∧ o.Sound) ∨ LeavesWeights float budget ∧ Scorable base) :
    Scorable (unset (Document.merge base fields)) := by
  have hget {name : String} (h : name ∉ ["budgetMalusGamma", "budget_malus_gamma", "gamma"]) {value : Value}
      (hvalue : fields.lookup name = some value) : get (unset (Document.merge base fields)) name = value := by
    rw [get_updated h, hvalue, Option.getD_some]
  have hkept {name : String} (h : name ∉ ["budgetMalusGamma", "budget_malus_gamma", "gamma"]) (hnone : fields.lookup name = none) :
      get (unset (Document.merge base fields)) name = get base name := by
    rw [get_updated h, hnone, Option.getD_none]
  have hleft : ∃ x, get (unset (Document.merge base fields)) "budgetRemainingUsd" = .number x := by
    obtain ⟨remaining, hfield⟩ := hset.remaining
    rw [get_updated (by decide), hfield]
    exact getD_map_number remaining hremaining
  have hcontroller : ∃ price rate low high, get (unset (Document.merge base fields)) "budgetShadowPrice" = .number price ∧
      get (unset (Document.merge base fields)) "budgetControllerLearningRate" = .number rate ∧
      get (unset (Document.merge base fields)) "budgetShadowPriceMin" = .number low ∧
      get (unset (Document.merge base fields)) "budgetShadowPriceMax" = .number high ∧ 0 ≤ low ∧ low ≤ price ∧ price ≤ high ∧
      0 ≤ rate := by
    obtain ⟨price, rate, low, high, hprice, hrate, hlow, hhigh, hbounds⟩ := hset.controller
    exact ⟨price, rate, low, high, hget (by decide) hprice, hget (by decide) hrate, hget (by decide) hlow, hget (by decide) hhigh,
      hbounds⟩
  have hmode : ∃ mode : SpendAccountingMode, get (unset (Document.merge base fields)) "spendAccountingMode" = .text mode.text := by
    obtain ⟨mode, hmode⟩ := hset.mode
    exact ⟨mode, hget (by decide) hmode⟩
  have hweight := hset.weight
  have htotal := hset.total
  have hmedian := hset.median
  have haverage := hset.average
  rcases hweights with ⟨o, hgives, hsound⟩ | ⟨hleaves, hscorable⟩
  · rw [hgives.remaining] at hweight
    rw [hgives.total] at htotal
    rw [hgives.median] at hmedian
    rw [hgives.average] at haverage
    exact {
      remaining := hleft
      weights := ⟨_, _, hget (by decide) hweight, hget (by decide) htotal, hsound.remaining_pos.le, hsound.remaining_le, hsound.total_pos⟩
      median := ⟨_, hget (by decide) hmedian, hsound.median_pos⟩
      average := ⟨_, hget (by decide) haverage, hsound.one_le_average⟩
      controller := hcontroller
      mode := hmode }
  · rw [hleaves weightNames (by decide)] at hweight
    rw [hleaves totalWeightNames (by decide)] at htotal
    rw [hleaves medianNames (by decide)] at hmedian
    rw [hleaves averageNames (by decide)] at haverage
    refine {
      remaining := hleft
      weights := ?_
      median := ?_
      average := ?_
      controller := hcontroller
      mode := hmode }
    · rw [hkept (by decide) hweight, hkept (by decide) htotal]
      exact hscorable.weights
    · rw [hkept (by decide) hmedian]
      exact hscorable.median
    · rw [hkept (by decide) haverage]
      exact hscorable.average

/-- An event that sets fields has them from its metadata. -/
theorem setupSets_of_fields {event : BudgetEvent} {store : Store} {fields : Fields}
    (h : event.fields defaults float store = some fields) : ∃ b, event.budget = some b ∧ SetupSets float b fields := by
  cases event with
  | setup route budget read =>
    dsimp only [BudgetEvent.fields] at h
    split at h
    · cases h
    · exact setupSets_of_ok (Outcome.ok_of_toOption h)
  | refresh job selected read =>
    dsimp only [BudgetEvent.fields] at h
    split at h
    · exact setupSets_of_ok (Outcome.ok_of_toOption h)
    · cases h

/-- A setup from a history leaves a budget that can be scored where there was none, or one with something that remains. -/
theorem inBudget_of_history {event : BudgetEvent} {store : Store} {fields : Fields}
    (hfields : event.fields defaults env.float store = some fields) (hhistory : FromHistory env event.budget)
    (hremaining : ∀ row, store.budgets.lookup event.route = some row → ∃ x, get row "budgetRemainingUsd" = .number x) :
    InBudget event.route (setBudget store event.route fields) := by
  obtain ⟨b, hb, hset⟩ := setupSets_of_fields hfields
  obtain ⟨b', o, hb', hgives, hsound⟩ := givesWeights_of_fromHistory hhistory
  cases hb.symm.trans hb'
  refine ⟨_, AList.lookup_insert _, scorable_of_set hset ?_ (Or.inl ⟨o, hgives, hsound⟩)⟩
  cases hrow : store.budgets.lookup event.route with
  | none => exact remaining_setOnInsert hset
  | some row => exact hremaining row hrow

/-! ### What is charged -/

theorem weightDebit_nonneg {row : Fields} {debitUsd requestWeight weightDebit : ℚ} {update : ControllerUpdate}
    (h : calculateBudgetControllerUpdate float row debitUsd requestWeight weightDebit = .ok update) : 0 ≤ weightDebit := by
  unfold calculateBudgetControllerUpdate at h
  obtain ⟨_, -, h⟩ := bind_ok h
  obtain ⟨_, -, h⟩ := bind_ok h
  obtain ⟨_, -, h⟩ := bind_ok h
  obtain ⟨_, -, h⟩ := bind_ok h
  obtain ⟨_, -, h⟩ := bind_ok h
  obtain ⟨_, -, h⟩ := bind_ok h
  obtain ⟨_, hensure, -⟩ := bind_ok h
  obtain ⟨-, -, -, -, hweight, -⟩ := of_decide_eq_true (ensure_ok_iff.1 hensure)
  exact hweight

/-- A debit leaves a budget that can be scored. -/
theorem scorable_of_updated {debitUsd requestWeight weightDebit : ℚ} {update : ControllerUpdate} {success : Bool} {row row' : Fields}
    (hcontroller : calculateBudgetControllerUpdate float row debitUsd requestWeight weightDebit = .ok update)
    (hupdated : Updated debitUsd weightDebit update success row row') (h : Scorable row) : Scorable row' := by
  obtain ⟨price, rate, low, high, hprice, hrate, hlow, hhigh, h0, -, -, hrate0⟩ := h.controller
  obtain ⟨-, priceMin, priceMax, hmin, hmax, hle, hge⟩ := controllerUpdate_ok hcontroller
  cases (reading_of_head hlow _).symm.trans hmin
  cases (reading_of_head hhigh _).symm.trans hmax
  obtain ⟨remaining, -, hremaining⟩ := hupdated.remaining
  obtain ⟨weight, hweight, hweight'⟩ := hupdated.weight
  obtain ⟨weight₀, total, hweight₀, htotal, hnonneg, hwithin, hpos⟩ := h.weights
  cases hweight₀.symm.trans hweight
  have hdebit := weightDebit_nonneg hcontroller
  refine {
    remaining := ⟨_, hremaining⟩
    weights := ⟨_, total, hweight', (hupdated.others _ (by decide)).trans htotal, le_max_left _ _,
      max_le (hnonneg.trans hwithin) ((sub_le_self _ hdebit).trans hwithin), hpos⟩
    median := ?_
    average := ?_
    controller := ⟨_, rate, low, high, hupdated.shadowPrice, (hupdated.others _ (by decide)).trans hrate,
      (hupdated.others _ (by decide)).trans hlow, (hupdated.others _ (by decide)).trans hhigh, h0, hle, hge, hrate0⟩
    mode := ?_ }
  · rw [hupdated.others _ (by decide)]
    exact h.median
  · rw [hupdated.others _ (by decide)]
    exact h.average
  · rw [hupdated.others _ (by decide)]
    exact h.mode

theorem inBudget_of_effect {route : RouteKey} {store store' : Store} {facts : Facts} (he : Effect float store facts store')
    (h : InBudget route store) : InBudget route store' := by
  obtain ⟨row, hrow, hscorable⟩ := h
  cases he with
  | kept => exact ⟨row, hrow, hscorable⟩
  | logged => exact ⟨row, hrow, hscorable⟩
  | @debited row₁ row' mode update totals hnew hcounters hrow₁ hmode hcontroller hquery hupdated huser =>
    by_cases hroute : facts.key.route = route
    · subst hroute
      cases hrow.symm.trans hrow₁
      exact ⟨row', AList.lookup_insert _, scorable_of_updated hcontroller hupdated hscorable⟩
    · exact ⟨row, (AList.lookup_insert_ne (Ne.symm hroute)).trans hrow, hscorable⟩

theorem inBudget_happen {route : RouteKey} {store : Store} {event : BudgetEvent} (h : InBudget route store)
    (hkeeps : KeepsWeights env defaults route store (.happen event)) : InBudget route (happen defaults env.float store event) := by
  obtain ⟨row, hrow, hscorable⟩ := h
  unfold happen
  cases hfields : event.fields defaults env.float store with
  | none => exact ⟨row, hrow, hscorable⟩
  | some fields =>
    dsimp only
    by_cases hroute : event.route = route
    · subst hroute
      rcases hkeeps rfl (by rw [hfields]; rfl) with hhistory | hleaves
      · refine inBudget_of_history hfields hhistory fun row' hrow' => ?_
        cases hrow.symm.trans hrow'
        exact hscorable.remaining
      · obtain ⟨b, hb, hset⟩ := setupSets_of_fields hfields
        rw [hb, Option.getD_some] at hleaves
        refine ⟨_, AList.lookup_insert _, ?_⟩
        rw [hrow, Option.getD_some]
        exact scorable_of_set hset hscorable.remaining (Or.inr ⟨hleaves, hscorable⟩)
    · exact ⟨row, (AList.lookup_insert_ne (Ne.symm hroute)).trans hrow, hscorable⟩

/-- Every step that takes the weights from a history or leaves them keeps a budget that can be scored. -/
theorem inBudget_step {route : RouteKey} (w : World Store Task) (a : Action UsageCall (Option Failure) BudgetEvent)
    (h : InBudget route w.store) (hkeeps : KeepsWeights env defaults route w.store a) :
    InBudget route ((budgetProgram defaults env.float).step w a).store := by
  rcases (budgetProgram defaults env.float).step_cases w a with ⟨-, hs⟩ | ⟨t, call, -, -, hs⟩ | ⟨t, input, task, -, -, hs⟩ |
    ⟨t, task, -, -, hs⟩ | ⟨event, rfl, hs⟩
  · rwa [hs]
  · rwa [hs]
  · rw [hs]
    rcases turn_effect env.float w.store task input with hkept | ⟨facts, he⟩
    · exact hkept.symm ▸ h
    · exact inBudget_of_effect he h
  · rwa [hs]
  · rw [hs]
    exact inBudget_happen h hkeeps

/-! ### Scoring -/

/-- The numbers of a loaded budget, with the names they are loaded from. -/
def loadedNumbers : List (String × List String) :=
  [("budgetRemainingUsd", ["budgetRemainingUsd", "remainingBudgetUsd", "remaining_budget_usd"]), ("remainingWeight", weightNames),
    ("totalPredictedWeight", totalWeightNames), ("medianWeightedTokens", medianNames), ("averageRequestsPerPeriod", averageNames),
    ("budgetShadowPrice", shadowPriceNames), ("budgetControllerLearningRate", learningRateNames),
    ("budgetShadowPriceMin", shadowPriceMinNames), ("budgetShadowPriceMax", shadowPriceMaxNames)]

theorem get_budgetFromRow (row : Fields) : ∀ p ∈ loadedNumbers,
    get (budgetFromRow float row) p.1 = .ofNumber? (parseOptionalNumber float (firstPresent row p.2)) := by
  simp only [loadedNumbers, List.forall_mem_cons, List.not_mem_nil, false_imp_iff, implies_true, and_true]
  refine ⟨?_, ?_, ?_, ?_, ?_, ?_, ?_, ?_, ?_⟩
  all_goals
    simp only [budgetFromRow, Table.ofList, List.foldl_cons, List.foldl_nil, Document.get_insert]
    rfl

/-- A number of a budget is read of what is loaded. -/
theorem reading_budgetFromRow {row : Fields} {name : String} {aliases : List String} {x : ℚ}
    (hlookup : loadedNumbers.lookup name = some (name :: aliases)) (h : get row name = .number x) (names : List String) :
    reading float (budgetFromRow float row) (name :: names) = some x := by
  obtain ⟨before, after, heq, -⟩ := List.lookup_eq_some_iff.1 hlookup
  have hmem : (name, name :: aliases) ∈ loadedNumbers := by simp [heq]
  refine reading_of_head ?_ names
  rw [get_budgetFromRow row _ hmem, Document.firstPresent_head (by simp [h]), h]
  rfl

theorem mode_budgetFromRow {row : Fields} {mode : SpendAccountingMode} (h : get row "spendAccountingMode" = .text mode.text) :
    normalizeSpendAccountingMode (firstPresent (budgetFromRow float row) spendAccountingModeNames) = .ok mode := by
  have hget : get (budgetFromRow float row) "spendAccountingMode" = .text mode.text := by
    simp only [budgetFromRow, Table.ofList, List.foldl_cons, List.foldl_nil, Document.get_insert]
    rw [spendAccountingModeNames, Document.firstPresent_head (by simp [h]), h]
    rfl
  rw [spendAccountingModeNames, Document.firstPresent_head (by simp [hget]), hget]
  exact ReplayAux.normalizeSpendAccountingMode_text mode

/-- What the service loads of such a budget is accepted. -/
theorem normalized_of_scorable {row : Fields} (h : Scorable row) :
    ∃ state, normalizeBudgetState float (budgetFromRow float row) = .ok state ∧ 0 ≤ state.remainingWeight ∧
      state.remainingWeight ≤ state.totalPredictedWeight ∧ 1 ≤ state.averageRequestsPerPeriod := by
  obtain ⟨remaining, hremaining⟩ := h.remaining
  obtain ⟨weight, total, hweight, htotal, hnonneg, hwithin, hpos⟩ := h.weights
  obtain ⟨median, hmedian, hmedian0⟩ := h.median
  obtain ⟨average, haverage, hone⟩ := h.average
  obtain ⟨price, rate, low, high, hprice, hrate, hlow, hhigh, h0, hpriceLow, hpriceHigh, hrate0⟩ := h.controller
  obtain ⟨mode, hmode⟩ := h.mode
  let state : BudgetState := {
    budgetRemainingUsd := max 0 remaining
    remainingWeight := weight
    totalPredictedWeight := total
    medianWeightedTokens := median
    averageRequestsPerPeriod := average
    budgetShadowPrice := price
    budgetControllerLearningRate := rate
    budgetShadowPriceMin := low
    budgetShadowPriceMax := high
    spendAccountingMode := mode }
  have hnormalized : Normalized float (budgetFromRow float row) state := {
    remaining := ⟨remaining, reading_budgetFromRow rfl hremaining _, rfl⟩
    weight := reading_budgetFromRow rfl hweight _
    weight_nonneg := hnonneg
    totalWeight := reading_budgetFromRow rfl htotal _
    totalWeight_pos := hpos
    median := reading_budgetFromRow rfl hmedian _
    median_pos := hmedian0
    average := reading_budgetFromRow rfl haverage _
    average_pos := lt_of_lt_of_le zero_lt_one hone
    shadowPrice := reading_budgetFromRow rfl hprice _
    learningRate := reading_budgetFromRow rfl hrate _
    shadowPriceMin := reading_budgetFromRow rfl hlow _
    shadowPriceMax := reading_budgetFromRow rfl hhigh _
    bounds := ⟨h0, hpriceLow.trans hpriceHigh, hpriceLow, hpriceHigh, hrate0⟩
    mode := mode_budgetFromRow hmode }
  exact ⟨state, normalizeBudgetState_ok_iff.2 hnormalized, hnonneg, hwithin, hone⟩

end WeighedAux

open WeighedAux

/-- Once a setup with a history has been saved for a route that has no budget or one with something that remains, and as long as later
setups for it take the weights from a history or leave them: in every state, over any interleaving of charges, retries, setups and jobs,
the budget of the route is accepted for scoring, and what remains of its weight is within the weight of its period. -/
theorem weight_within_period {env : History.Env} (defaults : ControllerDefaults) {first : World Store Task} {event : BudgetEvent}
    (hhistory : FromHistory env event.budget) (hsaved : (event.fields defaults env.float first.store).isSome = true)
    (hremaining : ∀ row, first.store.budgets.lookup event.route = some row → ∃ x, get row "budgetRemainingUsd" = .number x)
    {after : List (Action UsageCall (Option Failure) BudgetEvent)}
    (hafter : Along (budgetProgram defaults env.float).step (fun w a => KeepsWeights env defaults event.route w.store a)
      ((budgetProgram defaults env.float).step first (.happen event)) after) :
    Throughout (budgetProgram defaults env.float).step (fun w => ∃ row state, w.store.budgets.lookup event.route = some row ∧
        normalizeBudgetState env.float (budgetFromRow env.float row) = .ok state ∧ 0 ≤ state.remainingWeight ∧
        state.remainingWeight ≤ state.totalPredictedWeight ∧ 1 ≤ state.averageRequestsPerPeriod)
      ((budgetProgram defaults env.float).step first (.happen event)) after := by
  obtain ⟨fields, hfields⟩ := Option.isSome_iff_exists.1 hsaved
  have hfirst : InBudget event.route ((budgetProgram defaults env.float).step first (.happen event)).store := by
    change InBudget event.route (happen defaults env.float first.store event)
    rw [happen, hfields]
    exact inBudget_of_history hfields hhistory hremaining
  refine (throughout_of_along (fun w a h hkeeps => inBudget_step w a h hkeeps) hfirst hafter).mono ?_
  rintro w ⟨row, hrow, hscorable⟩
  obtain ⟨state, hstate⟩ := normalized_of_scorable hscorable
  exact ⟨row, state, hrow, hstate⟩

namespace WeighedExample

open HistoryExample

/-- What the history of the example computes, over a week. -/
def weekly : Option Fields :=
  (History.computeBudgetFieldsFromHistory HistoryExample.env routes (some (budget 7))).toOption.bind (·.budget)

theorem weekly_fromHistory : FromHistory HistoryExample.env weekly := by
  have hany : (History.computeBudgetFieldsFromHistory HistoryExample.env routes (some (budget 7))).toOption.any
      (·.classification.isSome) = true := by decide +kernel
  obtain ⟨⟨metadata, classification⟩, hcompute, hclassified⟩ := Outcome.ok_of_any hany
  obtain ⟨o, ho⟩ := Option.isSome_iff_exists.1 hclassified
  dsimp only at ho
  subst ho
  have hweekly : weekly = metadata := by rw [weekly, hcompute]; rfl
  exact ⟨routes, budget 7, o, hweekly ▸ hcompute, by decide +kernel⟩

/-- A user without a budget. -/
def unbudgeted : World Store Task := { store := { exampleStore with budgets := ∅ } }

/-- The setup of the example's route. -/
def weeklySetup : BudgetEvent := .setup ⟨"user", "default"⟩ weekly none

theorem weeklySetup_saved : (weeklySetup.fields {} HistoryExample.env.float unbudgeted.store).isSome = true := by decide +kernel

end WeighedExample

open WeighedExample in
/-- A first setup from a history can be scored, and so can what a call leaves of it. -/
theorem weight_within_week :
    Throughout (budgetProgram {} HistoryExample.env.float).step (fun w => ∃ row state, w.store.budgets.lookup ⟨"user", "default"⟩ = some row ∧
        normalizeBudgetState HistoryExample.env.float (budgetFromRow HistoryExample.env.float row) = .ok state ∧
        0 ≤ state.remainingWeight ∧ state.remainingWeight ≤ state.totalPredictedWeight ∧ 1 ≤ state.averageRequestsPerPeriod)
      ((budgetProgram {} HistoryExample.env.float).step unbudgeted (.happen weeklySetup)) [.begin 0 (exampleCall "a"), .turn 0 none] := by
  have hnone : ∀ row, unbudgeted.store.budgets.lookup weeklySetup.route = some row → ∃ x, get row "budgetRemainingUsd" = .number x := by
    intro row hrow
    cases hrow
  exact weight_within_period {} weekly_fromHistory weeklySetup_saved hnone ⟨trivial, trivial, trivial⟩

end RouteBudget

end PromptRail
