import PromptRail.RouteBudget.Setup
import PromptRail.RouteBudget.Execution

/-!
# Refreshing a pool

A scheduled job refreshes the pools of a route with the metadata of its setup, which is merged into the budget as it was at the
setup. The budget is left as it is exactly when the metadata does not name what has changed since.
-/

namespace PromptRail

open Document (Fields Value get firstPresent)
open Table (Dict)
open Outcome (bind_ok ok_bind)

namespace RouteBudget

/-! ## What the metadata says -/

theorem parseOptionalNumber_eq (float : String → Option ℚ) (value : Value) : parseOptionalNumber float value = value.float? float := by
  cases value <;> rfl

/-- The names of the fields are distinct, and none is an alias of another one. -/
theorem metadataFields_distinct :
    (metadataFields.map (·.1)).Nodup ∧ ∀ field ∈ metadataFields, field.2 = field.1 :: field.2.tail ∧
      ∀ name ∈ field.2.tail, metadataFields.lookup name = none ∧ name ≠ "spendAccountingMode" := by
  decide +kernel

theorem lookup_metadataNumbers (float : String → Option ℚ) (budget : Fields) (name : String) :
    (metadataNumbers float budget).lookup name =
      (metadataFields.lookup name).bind fun aliases => (reading float budget aliases).map .number := by
  unfold metadataNumbers reading
  simp only [parseOptionalNumber_eq]
  exact Document.lookup_found _ metadataFields_distinct.1 name

/-- The number that a field of the controller is set to: of the metadata where it names the field, else of the budget. -/
def controllerValue (float : String → Option ℚ) (budget existing : Fields) (aliases : List String) : Option ℚ :=
  if firstPresent budget aliases = .null then reading float existing aliases else reading float budget aliases

theorem lookup_persistedNumbers (float : String → Option ℚ) (budget existing : Fields) (name : String) :
    (persistedNumbers float budget existing).lookup name =
      (controllerFields.lookup name).bind fun aliases =>
        (if firstPresent budget aliases = .null then reading float existing aliases else none).map .number := by
  unfold persistedNumbers reading
  simp only [parseOptionalNumber_eq]
  exact Document.lookup_found _ (by decide) name

/-- What metadata with numbers is read as, where it is accepted. -/
theorem budgetMetadataFields_ok {defaults : ControllerDefaults} {float : String → Option ℚ} {budget fields : Fields}
    (h : budgetMetadataFields defaults float (some budget) = .ok fields) (hne : metadataNumbers float budget ≠ []) :
    ∃ mode, normalizeSpendAccountingMode (firstPresent budget spendAccountingModeNames) = .ok mode ∧
      fields = (Document.update defaults.fields (metadataNumbers float budget)).insert "spendAccountingMode" (.text mode.text) := by
  unfold budgetMetadataFields at h
  simp only [hne, if_false] at h
  split at h
  · split at h
    · cases h
    · rename_i mode hmode
      cases h
      exact ⟨mode, hmode, rfl⟩
  · cases h

namespace RefreshAux

variable {defaults : ControllerDefaults} {float : String → Option ℚ} {budget existing : Fields} {mode : SpendAccountingMode}

theorem lookup_defaults_none {name : String} (h : controllerFields.lookup name = none) : defaults.fields.lookup name = none := by
  simp only [controllerFields, List.lookup_eq_none_iff, List.forall_mem_cons, bne_iff_ne] at h
  obtain ⟨h1, h2, h3, h4, -⟩ := h
  simp only [ControllerDefaults.fields, Table.ofList, List.foldl_cons, List.foldl_nil]
  rw [AList.lookup_insert_ne h4, AList.lookup_insert_ne h3, AList.lookup_insert_ne h2, AList.lookup_insert_ne h1]
  rfl

theorem controllerFields_none {name : String} (h : metadataFields.lookup name = none) : controllerFields.lookup name = none := by
  rw [metadataFields, List.lookup_append] at h
  exact (Option.or_eq_none_iff.1 h).2

/-- A field that is a number, if it is there. -/
def NumberOrNone (value : Option Value) : Prop := ∀ v, value = some v → ∃ x, v = .number x

theorem numberOrNone_map (x : Option ℚ) : NumberOrNone (x.map .number) := by
  intro v hv
  obtain ⟨y, -, rfl⟩ := Option.map_eq_some_iff.1 hv
  exact ⟨y, rfl⟩

theorem NumberOrNone.or {a b : Option Value} (ha : NumberOrNone a) (hb : NumberOrNone b) : NumberOrNone (a.or b) := by
  cases a with
  | none => exact hb
  | some v => exact ha

theorem numberOrNone_bind {α : Type} (x : Option α) (f : α → Option ℚ) : NumberOrNone (x.bind fun a => (f a).map .number) := by
  cases x with
  | none => exact fun v hv => nomatch hv
  | some a => exact numberOrNone_map (f a)

theorem numberOrNone_insert {document : Fields} {name name' : String} (h : NumberOrNone (document.lookup name)) (x : ℚ) :
    NumberOrNone ((document.insert name' (.number x)).lookup name) := by
  by_cases hname : name = name'
  · subst hname
    rw [AList.lookup_insert]
    intro v hv
    exact ⟨x, (Option.some.inj hv).symm⟩
  · rwa [AList.lookup_insert_ne hname]

theorem numberOrNone_defaults (defaults : ControllerDefaults) (name : String) : NumberOrNone (defaults.fields.lookup name) := by
  have hempty : NumberOrNone ((∅ : Fields).lookup name) := by
    intro v hv
    cases hv
  simp only [ControllerDefaults.fields, Table.ofList, List.foldl_cons, List.foldl_nil]
  exact numberOrNone_insert (numberOrNone_insert (numberOrNone_insert (numberOrNone_insert hempty _) _) _) _

/-- What the metadata is read as first. -/
def firstRead (defaults : ControllerDefaults) (float : String → Option ℚ) (budget : Fields) (mode : SpendAccountingMode) : Fields :=
  (Document.update defaults.fields (metadataNumbers float budget)).insert "spendAccountingMode" (.text mode.text)

/-- The metadata with what the budget keeps of the controller. -/
def secondBudget (defaults : ControllerDefaults) (float : String → Option ℚ) (budget existing : Fields)
    (mode : SpendAccountingMode) : Fields :=
  Document.update (firstRead defaults float budget mode) (persistedNumbers float budget existing)

theorem lookup_secondBudget {name : String} (h : name ≠ "spendAccountingMode") :
    (secondBudget defaults float budget existing mode).lookup name =
      ((persistedNumbers float budget existing).lookup name).or
        (((metadataNumbers float budget).lookup name).or (defaults.fields.lookup name)) := by
  rw [secondBudget, Document.lookup_update, firstRead, AList.lookup_insert_ne h, Document.lookup_update]

/-- It has numbers only, besides its mode. -/
theorem secondBudget_numbers {name : String} (h : name ≠ "spendAccountingMode") :
    NumberOrNone ((secondBudget defaults float budget existing mode).lookup name) := by
  rw [lookup_secondBudget h, lookup_persistedNumbers, lookup_metadataNumbers]
  exact (numberOrNone_bind _ _).or ((numberOrNone_bind _ _).or (numberOrNone_defaults defaults name))

/-- It has no field under an alias. -/
theorem secondBudget_alias {name : String} (h : metadataFields.lookup name = none) (hmode : name ≠ "spendAccountingMode") :
    get (secondBudget defaults float budget existing mode) name = .null := by
  rw [Document.get, lookup_secondBudget hmode, lookup_persistedNumbers, lookup_metadataNumbers, h, controllerFields_none h,
    lookup_defaults_none (controllerFields_none h)]
  rfl

/-- What it reads as under the aliases of a field is what it has under its name. -/
theorem reading_secondBudget {field : String × List String} (h : field ∈ metadataFields) :
    reading float (secondBudget defaults float budget existing mode) field.2 =
      (get (secondBudget defaults float budget existing mode) field.1).float? float := by
  obtain ⟨haliases, htail⟩ := metadataFields_distinct.2 field h
  have hnull : firstPresent (secondBudget defaults float budget existing mode) field.2.tail = .null :=
    Document.firstPresent_eq_null_iff.2 fun name hname => secondBudget_alias (htail name hname).1 (htail name hname).2
  rw [reading, haliases, firstPresent, hnull]
  split
  · rename_i hhead
    rw [hhead]
  · rfl

/-- Reading it again leaves its fields. -/
theorem lookup_reread {field : String × List String} (h : field ∈ metadataFields) (hname : metadataFields.lookup field.1 = some field.2) :
    (firstRead defaults float (secondBudget defaults float budget existing mode) mode).lookup field.1 =
      (secondBudget defaults float budget existing mode).lookup field.1 := by
  have hmode : field.1 ≠ "spendAccountingMode" := by
    revert field
    decide +kernel
  rw [firstRead, AList.lookup_insert_ne hmode, Document.lookup_update, lookup_metadataNumbers, hname, Option.bind_some,
    reading_secondBudget h, Document.get]
  cases hlookup : (secondBudget defaults float budget existing mode).lookup field.1 with
  | none =>
    rw [lookup_secondBudget hmode] at hlookup
    exact (Option.or_eq_none_iff.1 (Option.or_eq_none_iff.1 hlookup).2).2
  | some value =>
    obtain ⟨x, rfl⟩ := secondBudget_numbers hmode value hlookup
    rfl

/-- A field that is not the controller's is what the metadata has. -/
theorem lookup_reread_plain {name : String} {aliases : List String} (hmem : (name, aliases) ∈ metadataFields)
    (h : metadataFields.lookup name = some aliases) (hcontroller : controllerFields.lookup name = none)
    (hmode : name ≠ "spendAccountingMode") :
    (firstRead defaults float (secondBudget defaults float budget existing mode) mode).lookup name =
      (reading float budget aliases).map .number := by
  rw [lookup_reread hmem h, lookup_secondBudget hmode, lookup_persistedNumbers, lookup_metadataNumbers, h, hcontroller,
    lookup_defaults_none hcontroller]
  simp

/-- The shadow price is what the metadata has, or what the budget keeps, or the default. -/
theorem lookup_secondBudget_shadowPrice :
    (secondBudget defaults float budget existing mode).lookup "budgetShadowPrice" =
      some (.number ((controllerValue float budget existing shadowPriceNames).getD defaults.budgetShadowPriceInitial)) := by
  have hdefault : defaults.fields.lookup "budgetShadowPrice" = some (.number defaults.budgetShadowPriceInitial) := by
    simp only [ControllerDefaults.fields, Table.ofList, List.foldl_cons, List.foldl_nil]
    rfl
  rw [lookup_secondBudget (by decide), lookup_persistedNumbers, lookup_metadataNumbers, hdefault, controllerValue]
  rw [show controllerFields.lookup "budgetShadowPrice" = some shadowPriceNames from rfl,
    show metadataFields.lookup "budgetShadowPrice" = some shadowPriceNames from rfl, Option.bind_some, Option.bind_some]
  split
  · rename_i hnull
    have hnone : reading float budget shadowPriceNames = none := by
      rw [reading, hnull]
      rfl
    rw [hnone]
    cases reading float existing shadowPriceNames <;> rfl
  · cases reading float budget shadowPriceNames <;> rfl

/-- The mode of the metadata stays when it is read again. -/
theorem mode_secondBudget :
    normalizeSpendAccountingMode (firstPresent (secondBudget defaults float budget existing mode) spendAccountingModeNames) =
      .ok mode := by
  have hlookup : (secondBudget defaults float budget existing mode).lookup "spendAccountingMode" = some (.text mode.text) := by
    rw [secondBudget, Document.lookup_update, lookup_persistedNumbers,
      show controllerFields.lookup "spendAccountingMode" = none from rfl, firstRead, AList.lookup_insert]
    rfl
  have hget : get (secondBudget defaults float budget existing mode) "spendAccountingMode" = .text mode.text := by
    rw [Document.get, hlookup]
    rfl
  rw [spendAccountingModeNames, Document.firstPresent_head (by simp [hget]), hget]
  cases mode <;> decide +kernel

end RefreshAux

/-- What a setup sets of a budget, read from the metadata. -/
structure SetupRead (defaults : ControllerDefaults) (float : String → Option ℚ) (budget existing fields : Fields) : Prop where
  mode : ∃ mode, normalizeSpendAccountingMode (firstPresent budget spendAccountingModeNames) = .ok mode ∧
    fields.lookup "spendAccountingMode" = some (.text mode.text)
  weight : fields.lookup "remainingWeight" = (reading float budget weightNames).map .number
  shadowPrice : fields.lookup "budgetShadowPrice" =
    some (.number ((controllerValue float budget existing shadowPriceNames).getD defaults.budgetShadowPriceInitial))
  remaining : fields.lookup "budgetRemainingUsd" =
    ((reading float budget remainingNames).or
      ((reading float budget budgetUsdNames).bind (remainingFromBudgetUsd float existing))).map .number
  spend : fields.lookup "totalSpendUsd" = none

open RefreshAux in
/-- What the metadata is read as a second time. -/
theorem rereadMetadata_ok {defaults : ControllerDefaults} {float : String → Option ℚ} {budget : Option Fields}
    {existing fields : Fields} (h : rereadMetadata defaults float budget existing = .ok fields) :
    ∃ b mode, budget = some b ∧ normalizeSpendAccountingMode (firstPresent b spendAccountingModeNames) = .ok mode ∧
      fields = firstRead defaults float (secondBudget defaults float b existing mode) mode := by
  unfold rereadMetadata at h
  obtain ⟨first, hfirst, h⟩ := bind_ok h
  split at h
  · cases h
  · rename_i hne
    cases budget with
    | none =>
      cases hfirst
      exact (hne rfl).elim
    | some b =>
      have hnumbers : metadataNumbers float b ≠ [] := by
        intro hnone
        simp only [budgetMetadataFields, hnone, if_true] at hfirst
        obtain rfl := Except.ok.inj hfirst
        exact hne rfl
      obtain ⟨mode, hmode, rfl⟩ := budgetMetadataFields_ok hfirst hnumbers
      have hsecond : metadataNumbers float (secondBudget defaults float b existing mode) ≠ [] := by
        intro hnone
        have hprice := lookup_metadataNumbers float (secondBudget defaults float b existing mode) "budgetShadowPrice"
        rw [hnone, show metadataFields.lookup "budgetShadowPrice" = some shadowPriceNames from rfl, Option.bind_some,
          shadowPriceNames, reading_of_head (Document.get_of_lookup lookup_secondBudget_shadowPrice)] at hprice
        cases hprice
      obtain ⟨mode', hmode', hfields⟩ := budgetMetadataFields_ok h hsecond
      have heq : (Except.ok mode : Except _ SpendAccountingMode) = .ok mode' := mode_secondBudget.symm.trans hmode'
      cases heq
      exact ⟨b, mode, rfl, hmode, hfields⟩

theorem lookup_withWindow {float : String → Option ℚ} {payload existing fields : Fields} {name : String}
    (hstamp : name ≠ "timeStampDays") (hspend : name ≠ "timeSpendDays") :
    (withWindow float payload existing fields).lookup name = fields.lookup name := by
  rw [withWindow, Document.lookup_update]
  simp [List.lookup_cons, beq_false_of_ne, hstamp, hspend]

theorem lookup_withRemaining_ne {float : String → Option ℚ} {existing fields : Fields} {name : String}
    (h : name ≠ "budgetRemainingUsd") : (withRemaining float existing fields).lookup name = fields.lookup name := by
  unfold withRemaining
  split
  · split
    · exact AList.lookup_insert_ne h
    · rfl
  · rfl

theorem lookup_withRemaining {float : String → Option ℚ} {existing fields : Fields} {remaining budgetUsd : Option ℚ}
    (hremaining : fields.lookup "budgetRemainingUsd" = remaining.map .number)
    (hbudget : fields.lookup "budgetUsd" = budgetUsd.map .number) :
    (withRemaining float existing fields).lookup "budgetRemainingUsd" =
      (remaining.or (budgetUsd.bind (remainingFromBudgetUsd float existing))).map .number := by
  have hnumber : (get fields "budgetUsd").number? = budgetUsd := by
    rw [Document.get, hbudget]
    cases budgetUsd <;> rfl
  unfold withRemaining
  rw [hnumber]
  cases remaining with
  | none =>
    have hnull : get fields "budgetRemainingUsd" = .null := by
      rw [Document.get, hremaining]
      rfl
    rw [if_pos hnull, Option.none_or]
    cases budgetUsd.bind (remainingFromBudgetUsd float existing) with
    | none => exact hremaining
    | some x => exact AList.lookup_insert _
  | some x =>
    have hnull : get fields "budgetRemainingUsd" ≠ .null := by
      rw [Document.get, hremaining]
      exact Value.noConfusion
    rw [if_neg hnull]
    exact hremaining

open RefreshAux in
/-- What a setup sets. -/
theorem setupFields_ok {defaults : ControllerDefaults} {float : String → Option ℚ} {budget : Option Fields}
    {existing fields : Fields} (h : setupFields defaults float budget existing = .ok fields) :
    ∃ b, budget = some b ∧ SetupRead defaults float b existing fields := by
  unfold setupFields at h
  obtain ⟨first, hfirst, h⟩ := bind_ok h
  cases h
  obtain ⟨b, mode, rfl, hmode, rfl⟩ := rereadMetadata_ok hfirst
  refine ⟨b, rfl, ⟨mode, hmode, ?_⟩, ?_, ?_, ?_, ?_⟩
  · rw [lookup_withWindow (by decide) (by decide), lookup_withRemaining_ne (by decide), firstRead, AList.lookup_insert]
  · rw [lookup_withWindow (by decide) (by decide), lookup_withRemaining_ne (by decide)]
    exact lookup_reread_plain (by decide) rfl rfl (by decide)
  · rw [lookup_withWindow (by decide) (by decide), lookup_withRemaining_ne (by decide)]
    exact (lookup_reread (by decide : ("budgetShadowPrice", shadowPriceNames) ∈ metadataFields) rfl).trans
      lookup_secondBudget_shadowPrice
  · rw [lookup_withWindow (by decide) (by decide)]
    exact lookup_withRemaining (lookup_reread_plain (by decide) rfl rfl (by decide))
      (lookup_reread_plain (by decide) rfl rfl (by decide))
  · rw [lookup_withWindow (by decide) (by decide), lookup_withRemaining_ne (by decide), firstRead,
      AList.lookup_insert_ne (by decide), Document.lookup_update, lookup_metadataNumbers]
    exact lookup_defaults_none rfl

/-! ## What a job leaves -/

/-- A job that comes to its update: its pools were selected, its user exists, and its metadata passes the checks. -/
structure Applies (defaults : ControllerDefaults) (float : String → Option ℚ) (store : Store) (job : RouteUpdateJob)
    (selected : Bool) (row : Fields) : Prop where
  selected : selected = true
  userId : job.route.userId ≠ ""
  user : job.route.userId ∈ store.users
  accepted : ∃ fields, setupFields defaults float job.budget row = .ok fields

/-- The fields of a budget that a refresh is to leave. -/
structure BudgetKept (row row' : Fields) : Prop where
  remaining : get row' "budgetRemainingUsd" = get row "budgetRemainingUsd"
  weight : get row' "remainingWeight" = get row "remainingWeight"
  spend : get row' "totalSpendUsd" = get row "totalSpendUsd"
  shadowPrice : get row' "budgetShadowPrice" = get row "budgetShadowPrice"
  mode : get row' "spendAccountingMode" = get row "spendAccountingMode"

/-- Metadata that says of a budget what the budget has, and does not refill it. -/
structure Agrees (defaults : ControllerDefaults) (float : String → Option ℚ) (budget row : Fields) : Prop where
  remaining : ∀ x, reading float budget remainingNames = some x → get row "budgetRemainingUsd" = .number x
  notRefilled : reading float budget remainingNames = none → ∀ budgetUsd, reading float budget budgetUsdNames = some budgetUsd →
    ∃ x, reading float row remainingNames = some x ∧ (0 < x ∨ budgetUsd ≤ (reading float row totalSpendNames).getD 0)
  weight : ∀ w, reading float budget weightNames = some w → get row "remainingWeight" = .number w
  shadowPrice : get row "budgetShadowPrice" =
    .number ((controllerValue float budget row shadowPriceNames).getD defaults.budgetShadowPriceInitial)
  mode : ∃ mode, normalizeSpendAccountingMode (firstPresent budget spendAccountingModeNames) = .ok mode ∧
    get row "spendAccountingMode" = .text mode.text

theorem get_unset {row : Fields} {name : String} (h : name ∉ ["budgetMalusGamma", "budget_malus_gamma", "gamma"]) :
    get (unset row) name = get row name := by
  simp only [List.mem_cons, List.not_mem_nil, or_false, not_or] at h
  rw [unset, Document.get, AList.lookup_erase_ne h.2.2, AList.lookup_erase_ne h.2.1, AList.lookup_erase_ne h.1]
  rfl

/-- The budget after an update, as far as it is to be left. -/
theorem get_updated {row fields : Fields} {name : String} (h : name ∉ ["budgetMalusGamma", "budget_malus_gamma", "gamma"]) :
    get (unset (Document.merge row fields)) name = (fields.lookup name).getD (get row name) := by
  rw [get_unset h, Document.get_merge]

/-- A field that is set only where there is a number to set is kept when it has that number. -/
theorem map_number_getD_eq_iff {x : Option ℚ} {value : Value} :
    (x.map Value.number).getD value = value ↔ ∀ y, x = some y → value = .number y := by
  cases x with
  | none => simp
  | some y => simp [eq_comm]

/-- A refill leaves what remains only if it does not happen. -/
theorem remaining_kept_iff {float : String → Option ℚ} {row : Fields} {x budgetUsd : Option ℚ} :
    ((x.or (budgetUsd.bind (remainingFromBudgetUsd float row))).map Value.number).getD (get row "budgetRemainingUsd") =
        get row "budgetRemainingUsd" ↔
      (∀ y, x = some y → get row "budgetRemainingUsd" = .number y) ∧
        (x = none → ∀ b, budgetUsd = some b →
          ∃ y, reading float row remainingNames = some y ∧ (0 < y ∨ b ≤ (reading float row totalSpendNames).getD 0)) := by
  rw [map_number_getD_eq_iff]
  cases x with
  | some y => simp
  | none =>
    cases budgetUsd with
    | none => simp
    | some b =>
      simp only [Option.none_or, Option.bind_some, remainingFromBudgetUsd, parseOptionalNumber_eq, forall_const, Option.some.injEq,
        forall_eq', reduceCtorEq, false_imp_iff, true_and]
      rw [← reading, ← reading]
      cases hreading : reading float row remainingNames with
      | none =>
        simp only [Option.some.injEq, forall_eq', reduceCtorEq, false_and, exists_false, iff_false]
        intro hvalue
        cases hreading.symm.trans (reading_of_head hvalue _)
      | some r =>
        simp only [Option.some.injEq, exists_eq_left']
        split
        · rename_i hrefill
          simp only [Option.some.injEq, forall_eq', not_lt.2 hrefill.1, not_le.2 hrefill.2, or_self, iff_false]
          intro hvalue
          cases hreading.symm.trans (reading_of_head hvalue _)
          exact absurd hrefill.1 (not_le.2 (lt_max_of_lt_right (sub_pos.2 hrefill.2)))
        · rename_i hkept
          simp only [reduceCtorEq, false_imp_iff, forall_const, true_iff]
          by_cases hpositive : 0 < r
          · exact Or.inl hpositive
          · exact Or.inr (not_lt.1 fun hlt => hkept ⟨not_lt.1 hpositive, hlt⟩)

theorem updated_eq_iff (row fields : Fields) {name : String} (h : name ∉ ["budgetMalusGamma", "budget_malus_gamma", "gamma"]) :
    get (unset (Document.merge row fields)) name = get row name ↔ (fields.lookup name).getD (get row name) = get row name := by
  rw [get_unset h, Document.get_merge]

/-- An update leaves a budget exactly when the metadata agrees with it. -/
theorem budgetKept_iff {defaults : ControllerDefaults} {float : String → Option ℚ} {budget row fields : Fields}
    (h : SetupRead defaults float budget row fields) :
    BudgetKept row (unset (Document.merge row fields)) ↔ Agrees defaults float budget row := by
  obtain ⟨mode, hmode, hmodeField⟩ := h.mode
  have hremaining := updated_eq_iff row fields (by decide : "budgetRemainingUsd" ∉ ["budgetMalusGamma", "budget_malus_gamma", "gamma"])
  have hweight := updated_eq_iff row fields (by decide : "remainingWeight" ∉ ["budgetMalusGamma", "budget_malus_gamma", "gamma"])
  have hprice := updated_eq_iff row fields (by decide : "budgetShadowPrice" ∉ ["budgetMalusGamma", "budget_malus_gamma", "gamma"])
  have hspend := updated_eq_iff row fields (by decide : "totalSpendUsd" ∉ ["budgetMalusGamma", "budget_malus_gamma", "gamma"])
  have hkept := updated_eq_iff row fields (by decide : "spendAccountingMode" ∉ ["budgetMalusGamma", "budget_malus_gamma", "gamma"])
  rw [h.remaining, remaining_kept_iff] at hremaining
  rw [h.weight, map_number_getD_eq_iff] at hweight
  rw [h.shadowPrice, Option.getD_some] at hprice
  rw [h.spend] at hspend
  rw [hmodeField, Option.getD_some] at hkept
  constructor
  · intro hall
    exact ⟨(hremaining.1 hall.remaining).1, (hremaining.1 hall.remaining).2, hweight.1 hall.weight,
      (hprice.1 hall.shadowPrice).symm, mode, hmode, (hkept.1 hall.mode).symm⟩
  · intro hagrees
    obtain ⟨mode', hmode', hvalue⟩ := hagrees.mode
    cases hmode.symm.trans hmode'
    exact ⟨hremaining.2 ⟨hagrees.remaining, hagrees.notRefilled⟩, hweight.2 hagrees.weight, hspend.2 rfl,
      hprice.2 hagrees.shadowPrice.symm, hkept.2 hvalue.symm⟩

/-- What a job does to the budget of its route: nothing, or the update. -/
theorem runRouteUpdateJob_cases (defaults : ControllerDefaults) (float : String → Option ℚ) {store : Store} {job : RouteUpdateJob}
    {row : Fields} (hrow : store.budgets.lookup job.route = some row) (selected : Bool) :
    (¬ Applies defaults float store job selected row ∧ runRouteUpdateJob defaults float store job selected = store) ∨
    (∃ fields, Applies defaults float store job selected row ∧ setupFields defaults float job.budget row = .ok fields ∧
      (runRouteUpdateJob defaults float store job selected).budgets.lookup job.route =
        some (unset (Document.merge row fields))) := by
  cases selected with
  | false => exact Or.inl ⟨fun h => Bool.noConfusion h.selected, rfl⟩
  | true =>
    by_cases huserId : job.route.userId = ""
    · have hrefused : saveCandidatePool defaults float store job.route job.budget = .error .userIdRequired := by
        simp [saveCandidatePool, ensureUserExists, huserId, bind, Except.bind]
      exact Or.inl ⟨fun h => h.userId huserId, by simp [runRouteUpdateJob, hrefused]⟩
    by_cases huser : job.route.userId ∈ store.users
    · have hsave : saveCandidatePool defaults float store job.route job.budget =
          (setupFields defaults float job.budget row).map fun fields =>
            { store with budgets := store.budgets.insert job.route (unset (Document.merge row fields)) } := by
        simp only [saveCandidatePool, ensureUserExists, persistBudgetMetadataFromSetup, huserId, huser, hrow, if_true, if_false,
          ok_bind, Option.getD_some]
        cases setupFields defaults float job.budget row <;> rfl
      cases hfields : setupFields defaults float job.budget row with
      | error refusal =>
        refine Or.inl ⟨?_, by simp [runRouteUpdateJob, hsave, hfields, Except.map]⟩
        rintro ⟨-, -, -, fields, hok⟩
        cases hfields.symm.trans hok
      | ok fields =>
        refine Or.inr ⟨fields, ⟨rfl, huserId, huser, fields, hfields⟩, rfl, ?_⟩
        simp [runRouteUpdateJob, hsave, hfields, Except.map]
    · have hrefused : saveCandidatePool defaults float store job.route job.budget = .error .userStateMissing := by
        simp [saveCandidatePool, ensureUserExists, huserId, huser, bind, Except.bind]
      exact Or.inl ⟨fun h => huser h.user, by simp [runRouteUpdateJob, hrefused]⟩

/-- Metadata as a setup computes it from the history of its user: a dollar, and requests of weight ten. -/
def historyMetadata : Fields :=
  Table.ofList [("amount_usd", .number 1), ("cycle", .text "monthly"), ("total_predicted_weight", .number 10),
    ("remaining_weight", .number 10), ("median_weighted_tokens", .number 1000), ("average_requests_per_period", .number 5),
    ("spendAccountingMode", .text "provider_spend")]

/-- The job of that setup. -/
def historyJob : RouteUpdateJob := { route := ⟨"user", "default"⟩, budget := some historyMetadata }

/-- The store after the setup. -/
def setupStore : Store :=
  runRouteUpdateJob {} (fun _ => none) { users := Table.ofList [("user", {})] } historyJob true

/-- The store after a call of weight two. -/
def debitedStore : Store := committedStore setupStore (writeUsageLog (fun _ => none) setupStore (exampleCall "a"))

/-- A job whose metadata has a dollar and the mode only. -/
def dollarJob : RouteUpdateJob where
  route := ⟨"user", "default"⟩
  budget := some (Table.ofList [("amount_usd", .number 1), ("spendAccountingMode", .text "provider_spend")])

end RouteBudget

end PromptRail
