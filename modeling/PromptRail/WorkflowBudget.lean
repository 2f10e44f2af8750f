import Mathlib.Data.Rat.Floor
import Mathlib.Algebra.Order.Ring.Rat
import PromptRail.Library.Outcome

/-!
# Budgets of workflow calls (`workflow_budget.py`)

What a call may spend: no more than is available, and enough to fund its input and at least one token of output.
-/

namespace PromptRail

open Outcome (bind_ok)

namespace Workflow

/-- `1e-12`. -/
def tolerance : ℚ := 1 / 10 ^ 12

/-- `finite_positive`: a value is the finite number it reads as, if it reads as one. -/
def finitePositive (value : Option ℚ) (field : String) : Except String ℚ :=
  match value with
  | none => .error (field ++ " must be a positive number")
  | some number => if number ≤ 0 then .error (field ++ " must be a positive number") else .ok number

/-- The arguments of `authorize_candidate`. -/
structure Candidate where
  availableUsd : Option ℚ
  effectiveTargetUsd : Option ℚ
  predictedCostUsd : Option ℚ
  inputTokens : Int
  inputPricePerMillion : Option ℚ
  outputPricePerMillion : Option ℚ
  callerMaxTokens : Option Int := none

/-- What `authorize_candidate` returns. -/
structure Authorization where
  callLimitUsd : ℚ
  inputReserveUsd : ℚ
  maxOutputTokens : Int

/-- `raise WorkflowBudgetError`, unless a condition holds. -/
def require (condition : Bool) (message : String) : Except String Unit := if condition then .ok () else .error message

/-- The output tokens that are funded, and that the caller allows. -/
def callerBound (funded : Int) (callerMaxTokens : Option Int) : Except String Int :=
  match callerMaxTokens with
  | none => .ok funded
  | some tokens => if tokens ≤ 0 then .error "caller max_tokens must be positive" else .ok (min funded tokens)

/-- `authorize_candidate`. -/
def authorizeCandidate (candidate : Candidate) : Except String Authorization := do
  let available ← finitePositive candidate.availableUsd "available_usd"
  let target ← finitePositive candidate.effectiveTargetUsd "effective_target_usd"
  let predictedCost ← finitePositive candidate.predictedCostUsd "predicted_cost_usd"
  require (predictedCost ≤ available + tolerance) "predicted call cost exceeds the active workflow budget"
  let inputPrice ← finitePositive candidate.inputPricePerMillion "input_price_per_million"
  let outputPrice ← finitePositive candidate.outputPricePerMillion "output_price_per_million"
  let callLimit := min available (max target predictedCost)
  let inputReserve := candidate.inputTokens * inputPrice / 1000000
  let outputBudget := callLimit - inputReserve
  require (0 < outputBudget) "workflow call limit cannot fund any output tokens"
  let maxOutputTokens ← callerBound (Rat.floor (outputBudget * 1000000 / outputPrice)) candidate.callerMaxTokens
  require (1 ≤ maxOutputTokens) "workflow call limit cannot fund any output tokens"
  return { callLimitUsd := callLimit, inputReserveUsd := inputReserve, maxOutputTokens }

theorem finitePositive_pos {value : Option ℚ} {field : String} {number : ℚ} (h : finitePositive value field = .ok number) :
    0 < number := by
  unfold finitePositive at h
  split at h
  · cases h
  · split at h
    · cases h
    · rename_i hle
      cases h
      exact not_le.1 hle

theorem finitePositive_eq {value : Option ℚ} {field : String} {number : ℚ} (h : finitePositive value field = .ok number) :
    value = some number := by
  unfold finitePositive at h
  split at h
  · cases h
  · split at h
    · cases h
    · cases h
      rfl

theorem require_ok {condition : Bool} {message : String} {u : Unit} (h : require condition message = .ok u) :
    condition = true := by
  unfold require at h
  split at h
  · assumption
  · cases h

@[simp] theorem require_true (message : String) : require true message = .ok () := rfl

/-- An authorized call has a positive limit. -/
theorem callLimitUsd_pos {candidate : Candidate} {authorization : Authorization}
    (h : authorizeCandidate candidate = .ok authorization) : 0 < authorization.callLimitUsd := by
  unfold authorizeCandidate at h
  obtain ⟨available, havailable, h⟩ := bind_ok h
  obtain ⟨target, htarget, h⟩ := bind_ok h
  obtain ⟨predictedCost, -, h⟩ := bind_ok h
  obtain ⟨_, -, h⟩ := bind_ok h
  obtain ⟨inputPrice, -, h⟩ := bind_ok h
  obtain ⟨outputPrice, -, h⟩ := bind_ok h
  obtain ⟨_, -, h⟩ := bind_ok h
  obtain ⟨maxOutputTokens, -, h⟩ := bind_ok h
  obtain ⟨_, -, h⟩ := bind_ok h
  cases h
  exact lt_min (finitePositive_pos havailable) (lt_max_of_lt_left (finitePositive_pos htarget))

/-- An authorized call has positive prices, and is granted at least one token of output. -/
theorem prices_of_authorized {candidate : Candidate} {authorization : Authorization}
    (h : authorizeCandidate candidate = .ok authorization) :
    ∃ inputPrice outputPrice, candidate.inputPricePerMillion = some inputPrice ∧ 0 < inputPrice ∧
      candidate.outputPricePerMillion = some outputPrice ∧ 0 < outputPrice ∧ 1 ≤ authorization.maxOutputTokens := by
  unfold authorizeCandidate at h
  obtain ⟨available, -, h⟩ := bind_ok h
  obtain ⟨target, -, h⟩ := bind_ok h
  obtain ⟨predictedCost, -, h⟩ := bind_ok h
  obtain ⟨_, -, h⟩ := bind_ok h
  obtain ⟨inputPrice, hinput, h⟩ := bind_ok h
  obtain ⟨outputPrice, houtput, h⟩ := bind_ok h
  obtain ⟨_, -, h⟩ := bind_ok h
  obtain ⟨maxOutputTokens, -, h⟩ := bind_ok h
  obtain ⟨_, hone, h⟩ := bind_ok h
  cases h
  exact ⟨inputPrice, outputPrice, finitePositive_eq hinput, finitePositive_pos hinput, finitePositive_eq houtput,
    finitePositive_pos houtput, of_decide_eq_true (require_ok hone)⟩

end Workflow

end PromptRail
