import PromptRail.Library.Json
import PromptRail.Usage
import PromptRail.Workflow.Ledger

/-!
# What a workflow call is granted, and whether it settles

A call is granted a limit in dollars and a number of output tokens, from the bytes of its messages, the budgets and the predictions
of its scopes, and the prices of the model. A report of usage that stays within the grant settles unless the cost of the whole
grant is rounded up beyond the limit.
-/

namespace PromptRail

namespace Workflow

open Document (Fields Value get)
open Table (Dict)
open Outcome (bind_ok ok_bind ok_of_toOption)
open Usage

/-! ## The grant (`workflow_budget.py`) -/

/-- What the budget of a call depends on in its request: the messages, and the options that are read. -/
structure Request where
  messages : List Json.Fields
  tools : Json.Value := .null
  responseFormat : Json.Value := .null
  maxTokens : Option Int := none

/-- `conservative_input_tokens`. -/
def conservativeInputTokens (request : Request) : Nat :=
  let serialized := Json.dumpInOrder
    (.obj [("messages", .arr (request.messages.map .obj)), ("tools", request.tools), ("response_format", request.responseFormat)])
  max 1 (PyText.utf8Len serialized + 16 * request.messages.length + 32)

/-- `normalized_non_negative`: a value is the finite number it reads as, if it reads as one. -/
def normalizedNonNegative (value : Option ℚ) (field : String) : Except String ℚ :=
  match value with
  | none => .error (field ++ " must be non-negative")
  | some number => if number < 0 then .error (field ++ " must be non-negative") else .ok number

/-- What `scope_budget_view` returns. -/
structure ScopeBudgetView where
  scopeId : ScopeId
  maxUsd : ℚ
  spentUsd : ℚ
  reservedUsd : ℚ
  availableUsd : ℚ

/-- `scope_budget_view`. -/
def scopeBudgetView (id : ScopeId) (scope : Scope) : Except String ScopeBudgetView := do
  let maximum ← finitePositive (some scope.maxUsd) "scope.maxUsd"
  require (0 ≤ scope.spentUsd ∧ 0 ≤ scope.reservedUsd) "scope spend and reservation values must be non-negative"
  let available := maximum - scope.spentUsd - scope.reservedUsd
  require (0 < available) "workflow budget is exhausted"
  return { scopeId := id, maxUsd := maximum, spentUsd := scope.spentUsd, reservedUsd := scope.reservedUsd, availableUsd := available }

/-- One of the `scope_targets`. -/
structure ScopeTarget where
  view : ScopeBudgetView
  remainingCallsAfterCurrent : ℚ
  remainingWorkWeightAfterCurrent : ℚ
  targetUsd : ℚ

/-- What `effective_scope_target` returns. -/
structure EffectiveTarget where
  effectiveTargetUsd : ℚ
  availableUsd : ℚ
  scopeTargets : List ScopeTarget

/-- One round of the loop of `effective_scope_target`. -/
def scopeTarget (float : String → Option ℚ) (horizonByScope : Dict ScopeId Fields) (currentWeight : ℚ) (row : ScopeId × Scope) :
    Except String ScopeTarget := do
  let view ← scopeBudgetView row.1 row.2
  match horizonByScope.lookup row.1 with
  | none => .error ("missing horizon prediction for scope " ++ toString row.1)
  | some prediction =>
    let remainingCalls ← normalizedNonNegative (finiteProfileNumber float (get prediction "remaining_calls_after_current"))
      "remaining_calls_after_current"
    let remainingWorkWeight ← normalizedNonNegative
      (finiteProfileNumber float (get prediction "remaining_work_weight_after_current")) "remaining_work_weight_after_current"
    return {
      view
      remainingCallsAfterCurrent := remainingCalls
      remainingWorkWeightAfterCurrent := remainingWorkWeight
      targetUsd := view.availableUsd * currentWeight / (currentWeight + remainingWorkWeight) }

/-- `min` of a list that is not empty. -/
def minimum (first : ℚ) (rest : List ℚ) : ℚ := rest.foldl min first

/-- `effective_scope_target`. -/
def effectiveScopeTarget (float : String → Option ℚ) (scopes : List (ScopeId × Scope)) (horizonByScope : Dict ScopeId Fields)
    (currentRequestWeight : ℚ) : Except String EffectiveTarget := do
  let currentWeight ← finitePositive (some currentRequestWeight) "current_request_weight"
  match ← scopes.mapM (scopeTarget float horizonByScope currentWeight) with
  | [] => .error "at least one active workflow scope is required"
  | first :: rest =>
    return {
      effectiveTargetUsd := minimum first.targetUsd (rest.map (·.targetUsd))
      availableUsd := minimum first.view.availableUsd (rest.map (·.view.availableUsd))
      scopeTargets := first :: rest }

/-- `predicted_provider_cost`. -/
def predictedProviderCost (inputTokens : Nat) (outputTokens inputPricePerMillion outputPricePerMillion : Option ℚ) :
    Except String ℚ := do
  let inputPrice ← finitePositive inputPricePerMillion "input_price_per_million"
  let outputPrice ← finitePositive outputPricePerMillion "output_price_per_million"
  let predictedOutput ← finitePositive outputTokens "predicted_output_tokens"
  return (inputTokens * inputPrice + predictedOutput * outputPrice) / 1000000

/-- One round of the loop of `workflow_rank_candidates`, up to its call of `authorize_candidate`. -/
def rankedCandidate (float : String → Option ℚ) (request : Request) (target : EffectiveTarget) (predictedOutputTokens : ℚ)
    (model : Fields) : Except String Candidate := do
  let inputPrice := finiteProfileNumber float (get model "input_price_per_million")
  let outputPrice := finiteProfileNumber float (get model "output_price_per_million")
  let predictedCost ← predictedProviderCost (conservativeInputTokens request) (some predictedOutputTokens) inputPrice outputPrice
  return {
    availableUsd := some target.availableUsd
    effectiveTargetUsd := some target.effectiveTargetUsd
    predictedCostUsd := some predictedCost
    inputTokens := conservativeInputTokens request
    inputPricePerMillion := inputPrice
    outputPricePerMillion := outputPrice
    callerMaxTokens := request.maxTokens }

/-- What is predicted of a call: its weight, its output, and what each scope still has ahead. -/
structure Predictions where
  requestWeight : ℚ
  predictedOutputTokens : ℚ
  horizonByScope : Dict ScopeId Fields

/-- The candidate that a model is authorized as, for a request under a chain of scopes. -/
def candidateOf (float : String → Option ℚ) (request : Request) (scopes : List (ScopeId × Scope)) (predictions : Predictions)
    (model : Fields) : Except String Candidate := do
  let target ← effectiveScopeTarget float scopes predictions.horizonByScope predictions.requestWeight
  rankedCandidate float request target predictions.predictedOutputTokens model

/-- What a model is granted, for a request under a chain of scopes. -/
def grant (float : String → Option ℚ) (request : Request) (scopes : List (ScopeId × Scope)) (predictions : Predictions)
    (model : Fields) : Except String Authorization := do
  let candidate ← candidateOf float request scopes predictions model
  authorizeCandidate candidate

/-! ## The settlement -/

/-- `finalize_workflow_reservation` accepts a settlement: it reads the reservation, and its transaction leaves it settled. -/
def Settles (store : Store) (f : Finalization) : Prop :=
  ∃ reservation store' settled, readReservation store f = .finalize f reservation ∧
    finalizeWorkflowReservation store f reservation = (store', finalized f settled) ∧
    store'.reservations.lookup f.claim.key = some settled ∧ settled.status = .settled ∧ settled.spendUsd = some f.debit

/-- Every report of usage within a grant settles, with the spend that is verified for it. -/
def EveryReportSettles (float : String → Option ℚ) (store : Store) (claim : AccountingClaim) (modelProfile : Fields)
    (inputTokens : Nat) (maxOutputTokens : Int) : Prop :=
  ∀ usage success suppliedSpendUsd tokens spendUsd, usageTokens float usage success = .ok tokens → tokens.1 ≤ inputTokens →
    tokens.2 ≤ maxOutputTokens → verifiedUsageSpendUsd float modelProfile usage success suppliedSpendUsd = .ok spendUsd →
    Settles store (.settle claim spendUsd success)

/-- A cost, in units of the eighth decimal, lies below the middle above the last unit that is within a limit and the tolerance, or
in this middle when that unit is even. -/
def RoundsWithin (costUsd callLimitUsd : ℚ) : Prop :=
  let units := ⌊10 ^ 8 * (callLimitUsd + tolerance)⌋
  10 ^ 8 * costUsd < units + 1 / 2 ∨ 10 ^ 8 * costUsd = units + 1 / 2 ∧ Even units

namespace GrantAux

/-- A granted call has the prices of the model, and they are positive. -/
theorem prices_of_grant {float : String → Option ℚ} {request : Request} {scopes : List (ScopeId × Scope)}
    {predictions : Predictions} {model : Fields} {authorization : Authorization}
    (h : grant float request scopes predictions model = .ok authorization) :
    ∃ inputPrice outputPrice, finiteProfileNumber float (get model "input_price_per_million") = some inputPrice ∧
      0 < inputPrice ∧ finiteProfileNumber float (get model "output_price_per_million") = some outputPrice ∧ 0 < outputPrice ∧
      1 ≤ authorization.maxOutputTokens := by
  unfold grant at h
  obtain ⟨candidate, hcandidate, hauthorized⟩ := bind_ok h
  unfold candidateOf at hcandidate
  obtain ⟨target, -, hranked⟩ := bind_ok hcandidate
  unfold rankedCandidate at hranked
  obtain ⟨predictedCost, -, hranked⟩ := bind_ok hranked
  cases hranked
  exact prices_of_authorized hauthorized

/-- The report that uses up a grant. -/
def fullReport (inputTokens : Nat) (maxOutputTokens : Int) : Fields :=
  Table.ofList [("prompt_tokens", .number inputTokens), ("completion_tokens", .number maxOutputTokens)]

theorem get_fullReport (inputTokens : Nat) (maxOutputTokens : Int) (name : String) :
    get (fullReport inputTokens maxOutputTokens) name =
      if name = "completion_tokens" then .number maxOutputTokens
      else if name = "prompt_tokens" then .number inputTokens else .null := by
  simp only [fullReport, Table.ofList, List.foldl, Document.get_insert]
  rfl

theorem usageTokens_fullReport (float : String → Option ℚ) (inputTokens : Nat) {maxOutputTokens : Int} (h : 0 ≤ maxOutputTokens)
    (success : Bool) :
    usageTokens float (some (fullReport inputTokens maxOutputTokens)) success = .ok ((inputTokens : ℚ), (maxOutputTokens : ℚ)) := by
  have hinput : usageTokenCount float (fullReport inputTokens maxOutputTokens) inputAliases "input_tokens" =
      .ok (inputTokens : ℚ) :=
    usageTokenCount_of_head (get_fullReport _ _ _) (Nat.cast_nonneg _) (by simp [get_fullReport]) _
  have houtput : usageTokenCount float (fullReport inputTokens maxOutputTokens) outputAliases "output_tokens" =
      .ok (maxOutputTokens : ℚ) :=
    usageTokenCount_of_head (get_fullReport _ _ _) (by exact_mod_cast h) (by simp [get_fullReport]) _
  have hne : (some (fullReport inputTokens maxOutputTokens)).filter (fun document : Fields => !document.entries.isEmpty) =
      some (fullReport inputTokens maxOutputTokens) := rfl
  simp only [usageTokens, hne, hinput, houtput]
  rfl

variable {store : Store} {claim : AccountingClaim} {reservation : Reservation}

/-- A settlement of a started reservation is read to its transaction exactly when it debits no more than is allowed. -/
theorem readReservation_settle (hclaim : workflowReservationFromClaim store claim = .ok reservation)
    (hstarted : reservation.status = .started) (spendUsd : ℚ) (success : Bool) :
    readReservation store (.settle claim spendUsd success) =
      if spendUsd < 0 ∨ spendUsd > reservation.callLimitUsd + tolerance then
        .threw (.budgetCapViolation reservation.callLimitUsd spendUsd)
      else .finalize (.settle claim spendUsd success) reservation := by
  have hread : workflowReservationFromClaim store (Finalization.settle claim spendUsd success).claim = .ok reservation := hclaim
  rw [readReservation, hread]
  simp only [hstarted, ReservationStatus.isFinal, Finalization.requiredStatus, Bool.false_eq_true, if_false, ne_eq,
    not_true_eq_false]
  rfl

/-- A settlement of a started reservation that debits no more than is allowed is accepted. -/
theorem settles_of_le (hw : WellFormed store) (hl : LedgerExact store)
    (hclaim : workflowReservationFromClaim store claim = .ok reservation) (hstarted : reservation.status = .started)
    {spendUsd : ℚ} (hnonneg : 0 ≤ spendUsd) (hle : spendUsd ≤ reservation.callLimitUsd + tolerance) (success : Bool) :
    Settles store (.settle claim spendUsd success) := by
  have hread := readReservation_settle hclaim hstarted spendUsd success
  rw [if_neg (not_or.2 ⟨not_lt.2 hnonneg, not_lt.2 hle⟩)] at hread
  have hstored := (workflowReservationFromClaim_ok hclaim).1
  have hopen : reservation.status.isOpen = true := by rw [hstarted]; rfl
  rcases finalizeWorkflowReservation_cases store (.settle claim spendUsd success) reservation with ⟨refusal, hrefusal, -⟩ |
    ⟨scopes, stored, -, -, -, -, hturn⟩
  · -- neither the reservation nor a scope refuses: the reservation is started, and each of its scopes holds its amount
    exfalso
    rcases hrefusal with ⟨-, hstatus⟩ | ⟨key, hkey, -, hlacks⟩
    · exact hstatus reservation hstored hstarted
    · obtain ⟨scope, hscope, hholds⟩ := ScopesAux.holds_of_open hw hl hstored hopen hkey
      rw [hlacks scope hscope] at hholds
      cases hholds
  · exact ⟨reservation, _, _, hread, hturn, AList.lookup_insert _, rfl, rfl⟩

/-- A settlement that is accepted debits no more than is allowed. -/
theorem le_of_settles (hclaim : workflowReservationFromClaim store claim = .ok reservation)
    (hstarted : reservation.status = .started) {spendUsd : ℚ} {success : Bool}
    (h : Settles store (.settle claim spendUsd success)) : spendUsd ≤ reservation.callLimitUsd + tolerance := by
  obtain ⟨read, store', settled, hread, -⟩ := h
  rw [readReservation_settle hclaim hstarted] at hread
  split at hread
  · cases hread
  · rename_i hcap
    exact not_lt.1 (not_or.1 hcap).2

end GrantAux

open GrantAux

/-- In every state of every run, every report within the grant of a started reservation settles exactly when the cost of the
whole grant does not round up beyond the limit: the dearest report is the one that decides. -/
theorem everyReportSettles_iff (float : String → Option ℚ) {request : Request} {scopes : List (ScopeId × Scope)}
    {predictions : Predictions} {model modelProfile : Fields} {authorization : Authorization}
    (hgrant : grant float request scopes predictions model = .ok authorization)
    {inputPrice outputPrice : ℚ} (hinput : finiteProfileNumber float (get model "input_price_per_million") = some inputPrice)
    (houtput : finiteProfileNumber float (get model "output_price_per_million") = some outputPrice)
    (hprofile : get modelProfile "input_price_per_million" = .number inputPrice ∧
      get modelProfile "output_price_per_million" = .number outputPrice)
    (steps : List Step) {claim : AccountingClaim} {reservation : Reservation}
    (hclaim : workflowReservationFromClaim (Transition.exec program.step begun steps).store claim = .ok reservation)
    (hstarted : reservation.status = .started) (hlimit : reservation.callLimitUsd = authorization.callLimitUsd) :
    EveryReportSettles float (Transition.exec program.step begun steps).store claim modelProfile (conservativeInputTokens request)
        authorization.maxOutputTokens ↔
      RoundsWithin (costUsd (conservativeInputTokens request) authorization.maxOutputTokens inputPrice outputPrice)
        authorization.callLimitUsd := by
  obtain ⟨hw, hl⟩ := ScopesAux.ledger_exec steps
  generalize (Transition.exec program.step begun steps).store = store at hclaim hw hl ⊢
  obtain ⟨ip, op, hip, hippos, hop, hoppos, hone⟩ := prices_of_grant hgrant
  cases hip.symm.trans hinput
  cases hop.symm.trans houtput
  have hsignedInput : signedPrice float (get modelProfile "input_price_per_million") = .ok inputPrice :=
    signedPrice_ok_iff.2 ⟨by rw [hprofile.1, finiteProfileNumber_number], hippos.le⟩
  have hsignedOutput : signedPrice float (get modelProfile "output_price_per_million") = .ok outputPrice :=
    signedPrice_ok_iff.2 ⟨by rw [hprofile.2, finiteProfileNumber_number], hoppos.le⟩
  have hrounds (cost : ℚ) : RoundsWithin cost authorization.callLimitUsd ↔
      Round.round 8 cost ≤ reservation.callLimitUsd + tolerance := by
    rw [hlimit, Round.round_le_iff]
    rfl
  rw [hrounds]
  constructor
  · -- the report of the whole grant is one of them
    intro h
    have htokens := usageTokens_fullReport float (conservativeInputTokens request) (by omega : 0 ≤ authorization.maxOutputTokens)
      true
    have hcost : 0 ≤ costUsd (conservativeInputTokens request) authorization.maxOutputTokens inputPrice outputPrice :=
      costUsd_nonneg (Nat.cast_nonneg _) (by exact_mod_cast (by omega : 0 ≤ authorization.maxOutputTokens)) hippos.le hoppos.le
    refine le_of_settles hclaim hstarted (h _ true (.number (Round.round 8 (costUsd (conservativeInputTokens request)
      authorization.maxOutputTokens inputPrice outputPrice))) _ _ htokens le_rfl le_rfl ?_)
    exact (verifiedUsageSpendUsd_ok_iff htokens hsignedInput hsignedOutput).2
      ⟨rfl, _, finiteProfileNumber_number _ _, Round.round_nonneg hcost, Round.round_round _ _⟩
  · intro h usage success suppliedSpendUsd tokens spendUsd htokens hin hout hspend
    obtain ⟨hn1, hn2⟩ := usageTokens_nonneg htokens
    obtain ⟨rfl, -⟩ := (verifiedUsageSpendUsd_ok_iff htokens hsignedInput hsignedOutput).1 hspend
    exact settles_of_le hw hl hclaim hstarted (Round.round_nonneg (costUsd_nonneg hn1 hn2 hippos.le hoppos.le))
      ((Round.round_mono (costUsd_mono hin hout hippos.le hoppos.le)).trans h) success

namespace GrantExample

/-- A call with one message. -/
def request (content : String) : Request where
  messages := [[("role", .str "user".toList), ("content", .str content.toList)]]

/-- A model at 0.125 dollars for a million tokens of input, and 0.50 dollars for a million tokens of output. -/
def model : Fields :=
  Table.ofList [("input_price_per_million", .number (1 / 8)), ("output_price_per_million", .number (1 / 2))]

/-- Ten tokens of output are predicted, and much work after the call: its limit is then what it is predicted to cost. -/
def predictions : Predictions where
  requestWeight := 1
  predictedOutputTokens := 10
  horizonByScope := Table.ofList
    [(2, Table.ofList [("remaining_calls_after_current", .number 5), ("remaining_work_weight_after_current", .number 999999)])]

/-- The root scope of a run with a budget of one dollar. -/
def scopes : List (ScopeId × Scope) := [(2, { parentScopeId := none, maxUsd := 1 })]

/-- What the call is granted. -/
def granted (content : String) : Except String Authorization := grant (fun _ => none) (request content) scopes predictions model

/-- The call of `exampleInput`, authorized as this one is. -/
def input (content : String) (uuid rootUuid : Nat) : Input :=
  { exampleInput uuid rootUuid with
    candidate := (candidateOf (fun _ => none) (request content) scopes predictions model).toOption.getD
      (exampleInput uuid rootUuid).candidate }

/-- The claim of the call. -/
def claim (callLimitUsd : ℚ) : AccountingClaim := { exampleClaim with callLimitUsd, maxOutputTokens := 10 }

/-- The run is created, and the call reserved and started. -/
def steps (content : String) (callLimitUsd : ℚ) : List Step :=
  [.begin 0 (.createRun "user" "default" ⟨1, oneDollar_pos⟩), .turn 0 (input content 1 2),
    .begin 1 (.route exampleRun (some 2) "call"), .turn 1 (input content 3 0), .turn 1 (input content 3 0),
    .turn 1 (input content 3 0), .begin 2 (.start (claim callLimitUsd)), .turn 2 (input content 3 0),
    .turn 2 (input content 3 0)]

/-- What the store holds of the call. -/
def started (content : String) (callLimitUsd : ℚ) : Except Refusal Reservation :=
  workflowReservationFromClaim (Transition.exec program.step begun (steps content callLimitUsd)).store (claim callLimitUsd)

end GrantExample

open GrantExample

/-- With `hey`, the grant of 130 tokens of input and 10 of output costs 0.00002125 dollars, which is not rounded. -/
theorem everyReportSettles_hey : ∃ authorization reservation, granted "hey" = .ok authorization ∧
    started "hey" (17 / 800000) = .ok reservation ∧
    EveryReportSettles (fun _ => none) (Transition.exec program.step begun (steps "hey" (17 / 800000))).store (claim (17 / 800000))
      model (conservativeInputTokens (request "hey")) authorization.maxOutputTokens := by
  have hgranted : (granted "hey").toOption.map (fun a => (a.callLimitUsd, a.maxOutputTokens)) = some (17 / 800000, 10) := by
    decide +kernel
  have hstarted : (started "hey" (17 / 800000)).toOption.map (fun r => (r.status, r.callLimitUsd)) =
      some (.started, 17 / 800000) := by decide +kernel
  have htokens : conservativeInputTokens (request "hey") = 130 := by decide +kernel
  obtain ⟨authorization, hauthorization, hgrant⟩ := Option.map_eq_some_iff.1 hgranted
  obtain ⟨reservation, hreservation, hstatus⟩ := Option.map_eq_some_iff.1 hstarted
  obtain ⟨hlimit, hmax⟩ := Prod.mk.inj hgrant
  obtain ⟨hstatus, hlimit'⟩ := Prod.mk.inj hstatus
  refine ⟨authorization, reservation, ok_of_toOption hauthorization, ok_of_toOption hreservation, ?_⟩
  have hinput : finiteProfileNumber (fun _ => none) (get model "input_price_per_million") = some (1 / 8) := rfl
  have houtput : finiteProfileNumber (fun _ => none) (get model "output_price_per_million") = some (1 / 2) := rfl
  refine (everyReportSettles_iff (fun _ => none) (ok_of_toOption hauthorization) hinput houtput ⟨rfl, rfl⟩ _
    (ok_of_toOption hreservation) hstatus (hlimit'.trans hlimit.symm)).2 ?_
  rw [htokens, hlimit, hmax]
  unfold RoundsWithin
  decide +kernel

/-- With `help`, the grant of 131 tokens of input and 10 of output costs 0.000021375 dollars, which is its limit: the report of
the whole grant is rounded to 0.00002138 dollars, and refused. -/
theorem full_grant_refused : ∃ authorization reservation, granted "help" = .ok authorization ∧
    started "help" (171 / 8000000) = .ok reservation ∧ reservation.status = .started ∧
    reservation.callLimitUsd = authorization.callLimitUsd ∧ reservation.maxOutputTokens = authorization.maxOutputTokens ∧
    ¬EveryReportSettles (fun _ => none) (Transition.exec program.step begun (steps "help" (171 / 8000000))).store
      (claim (171 / 8000000)) model (conservativeInputTokens (request "help")) authorization.maxOutputTokens := by
  have hgranted : (granted "help").toOption.map (fun a => (a.callLimitUsd, a.maxOutputTokens)) = some (171 / 8000000, 10) := by
    decide +kernel
  have hstarted : (started "help" (171 / 8000000)).toOption.map (fun r => (r.status, r.callLimitUsd, r.maxOutputTokens)) =
      some (.started, 171 / 8000000, 10) := by decide +kernel
  have hinput : conservativeInputTokens (request "help") = 131 := by decide +kernel
  obtain ⟨authorization, hauthorization, hgrant⟩ := Option.map_eq_some_iff.1 hgranted
  obtain ⟨reservation, hreservation, hrow⟩ := Option.map_eq_some_iff.1 hstarted
  obtain ⟨hlimit, hmax⟩ := Prod.mk.inj hgrant
  obtain ⟨hstatus, hrow⟩ := Prod.mk.inj hrow
  obtain ⟨hlimit', hmax'⟩ := Prod.mk.inj hrow
  refine ⟨authorization, reservation, ok_of_toOption hauthorization, ok_of_toOption hreservation, hstatus,
    hlimit'.trans hlimit.symm, hmax'.trans hmax.symm, ?_⟩
  intro h
  rw [hinput, hmax] at h
  have htokens := usageTokens_fullReport (fun _ => none) 131 (by decide : (0 : ℤ) ≤ 10) true
  have hspend : verifiedUsageSpendUsd (fun _ => none) model (some (fullReport 131 10)) true (.number (1069 / 50000000)) =
      .ok (1069 / 50000000) := by decide +kernel
  have hle := le_of_settles (ok_of_toOption hreservation) hstatus (h _ true _ _ _ htokens (by norm_num) (by norm_num) hspend)
  rw [hlimit', tolerance] at hle
  norm_num at hle

end Workflow

end PromptRail
