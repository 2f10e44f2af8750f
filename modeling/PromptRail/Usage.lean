import PromptRail.Library.Round
import PromptRail.Numbers
import PromptRail.Workflow
import Mathlib.Tactic.Positivity

/-!
# Usage and what it costs (`lerouter_modal_api.py`)

The caller of a model reports the tokens it has used, and what they cost. The service computes the cost from the signed profile of
the model, rounds it to eight decimals, and takes the report when its spend rounds to the same number.
-/

namespace PromptRail

open Document (Fields Value get)
open Workflow (isclose)

namespace Usage

/-- What a report is refused for. -/
inductive Refusal where
  | invalidTokenCount (name : String)
  | tokenCountRequired (field : String)
  | conflictingTokenCounts (field : String)
  | tokenCountsRequired
  | signedModelPricesInvalid
  | spendMismatch (verifiedSpendUsd : ℚ)
deriving DecidableEq

/-- `status_code`. -/
def Refusal.statusCode : Refusal → Nat
  | .signedModelPricesInvalid => 502
  | _ => 422

/-- `detail["error"]`. -/
def Refusal.error : Refusal → String
  | .invalidTokenCount _ => "invalid_usage_token_count"
  | .tokenCountRequired _ => "usage_token_count_required"
  | .conflictingTokenCounts _ => "conflicting_usage_token_counts"
  | .tokenCountsRequired => "usage_token_counts_required"
  | .signedModelPricesInvalid => "signed_model_prices_invalid"
  | .spendMismatch _ => "usage_spend_mismatch"

variable (float : String → Option ℚ)

/-- The loop of `usage_token_count`: the counts that are given, under any of the names. -/
def suppliedCounts (usage : Fields) : List String → Except Refusal (List ℚ)
  | [] => .ok []
  | name :: names =>
    if get usage name = .null then suppliedCounts usage names
    else
      match finiteProfileNumber float (get usage name) with
      | none => .error (.invalidTokenCount name)
      | some value =>
        if value < 0 then .error (.invalidTokenCount name)
        else (suppliedCounts usage names).map (value :: ·)

/-- `usage_token_count`. -/
def usageTokenCount (usage : Fields) (aliases : List String) (field : String) : Except Refusal ℚ :=
  match suppliedCounts float usage aliases with
  | .error refusal => .error refusal
  | .ok [] => .error (.tokenCountRequired field)
  | .ok (first :: rest) => if rest.any fun value => !isclose value first then .error (.conflictingTokenCounts field) else .ok first

/-- The names of the count of input tokens. -/
def inputAliases : List String := ["prompt_tokens", "input_tokens", "promptTokens", "inputTokens"]

/-- The names of the count of output tokens. -/
def outputAliases : List String := ["completion_tokens", "output_tokens", "completionTokens", "outputTokens"]

/-- The tokens that a report is charged for: `usage` is `metadata["usage"]` where that is a document. -/
def usageTokens (usage : Option Fields) (success : Bool) : Except Refusal (ℚ × ℚ) :=
  match usage.filter fun document => !document.entries.isEmpty with
  | none => if success then .error .tokenCountsRequired else .ok (0, 0)
  | some document => do
    let inputTokens ← usageTokenCount float document inputAliases "input_tokens"
    let outputTokens ← usageTokenCount float document outputAliases "output_tokens"
    return (inputTokens, outputTokens)

/-- What tokens cost, at prices for a million of them. -/
def costUsd (inputTokens outputTokens inputPrice outputPrice : ℚ) : ℚ :=
  inputTokens / 1000000 * inputPrice + outputTokens / 1000000 * outputPrice

/-- A price of a signed profile. -/
def signedPrice (price : Value) : Except Refusal ℚ :=
  match finiteProfileNumber float price with
  | none => .error .signedModelPricesInvalid
  | some x => if x < 0 then .error .signedModelPricesInvalid else .ok x

/-- `verified_usage_spend_usd`. -/
def verifiedUsageSpendUsd (modelProfile : Fields) (usage : Option Fields) (success : Bool) (suppliedSpendUsd : Value) :
    Except Refusal ℚ := do
  let (inputTokens, outputTokens) ← usageTokens float usage success
  let inputPrice ← signedPrice float (get modelProfile "input_price_per_million")
  let outputPrice ← signedPrice float (get modelProfile "output_price_per_million")
  let verifiedSpend := Round.round 8 (costUsd inputTokens outputTokens inputPrice outputPrice)
  match finiteProfileNumber float suppliedSpendUsd with
  | none => .error (.spendMismatch verifiedSpend)
  | some suppliedSpend =>
    if suppliedSpend < 0 ∨ Round.round 8 suppliedSpend ≠ verifiedSpend then .error (.spendMismatch verifiedSpend)
    else .ok verifiedSpend

theorem costUsd_nonneg {inputTokens outputTokens inputPrice outputPrice : ℚ} (hi : 0 ≤ inputTokens) (ho : 0 ≤ outputTokens)
    (hpi : 0 ≤ inputPrice) (hpo : 0 ≤ outputPrice) : 0 ≤ costUsd inputTokens outputTokens inputPrice outputPrice := by
  unfold costUsd
  positivity

/-- More tokens cost no less. -/
theorem costUsd_mono {i o i' o' inputPrice outputPrice : ℚ} (hi : i ≤ i') (ho : o ≤ o') (hpi : 0 ≤ inputPrice)
    (hpo : 0 ≤ outputPrice) : costUsd i o inputPrice outputPrice ≤ costUsd i' o' inputPrice outputPrice := by
  unfold costUsd
  gcongr

/-- No count is negative. -/
theorem suppliedCounts_nonneg {float : String → Option ℚ} {usage : Fields} {names : List String} {counts : List ℚ}
    (h : suppliedCounts float usage names = .ok counts) : ∀ count ∈ counts, 0 ≤ count := by
  induction names generalizing counts with
  | nil =>
    cases h
    simp
  | cons name names ih =>
    unfold suppliedCounts at h
    split at h
    · exact ih h
    · split at h
      · cases h
      · rename_i value hvalue
        split at h
        · cases h
        · rename_i hnonneg
          cases hrest : suppliedCounts float usage names with
          | error refusal => rw [hrest] at h; cases h
          | ok rest =>
            rw [hrest] at h
            cases h
            exact List.forall_mem_cons.2 ⟨not_lt.1 hnonneg, ih hrest⟩

theorem usageTokenCount_nonneg {float : String → Option ℚ} {usage : Fields} {names : List String} {field : String} {count : ℚ}
    (h : usageTokenCount float usage names field = .ok count) : 0 ≤ count := by
  unfold usageTokenCount at h
  split at h
  · cases h
  · cases h
  · rename_i first rest hcounts
    split at h
    · cases h
    · rw [← Except.ok.inj h]
      exact suppliedCounts_nonneg hcounts first List.mem_cons_self

theorem suppliedCounts_of_null {float : String → Option ℚ} {usage : Fields} {names : List String}
    (h : ∀ name ∈ names, get usage name = .null) : suppliedCounts float usage names = .ok [] := by
  induction names with
  | nil => rfl
  | cons name names ih =>
    rw [suppliedCounts, if_pos (h name List.mem_cons_self)]
    exact ih fun n hn => h n (List.mem_cons_of_mem _ hn)

/-- A count that is given under its first name only. -/
theorem usageTokenCount_of_head {float : String → Option ℚ} {usage : Fields} {name : String} {names : List String} {count : ℚ}
    (h : get usage name = .number count) (hcount : 0 ≤ count) (hrest : ∀ n ∈ names, get usage n = .null) (field : String) :
    usageTokenCount float usage (name :: names) field = .ok count := by
  have hcounts : suppliedCounts float usage (name :: names) = .ok [count] := by
    rw [suppliedCounts, h, if_neg (by simp), suppliedCounts_of_null hrest]
    simp only [finiteProfileNumber_number, if_neg (not_lt.2 hcount)]
    rfl
  rw [usageTokenCount, hcounts]
  rfl

/-- Nobody is charged for a negative number of tokens. -/
theorem usageTokens_nonneg {float : String → Option ℚ} {usage : Option Fields} {success : Bool} {tokens : ℚ × ℚ}
    (h : usageTokens float usage success = .ok tokens) : 0 ≤ tokens.1 ∧ 0 ≤ tokens.2 := by
  unfold usageTokens at h
  split at h
  · split at h
    · cases h
    · cases h
      exact ⟨le_rfl, le_rfl⟩
  · obtain ⟨inputTokens, hinput, h⟩ := Outcome.bind_ok h
    obtain ⟨outputTokens, houtput, h⟩ := Outcome.bind_ok h
    cases h
    exact ⟨usageTokenCount_nonneg hinput, usageTokenCount_nonneg houtput⟩

/-- A price of a signed profile is the number it reads as. -/
theorem signedPrice_ok_iff {float : String → Option ℚ} {price : Value} {x : ℚ} :
    signedPrice float price = .ok x ↔ finiteProfileNumber float price = some x ∧ 0 ≤ x := by
  unfold signedPrice
  cases finiteProfileNumber float price with
  | none => simp
  | some y =>
    by_cases hy : y < 0
    · simp only [hy, if_true, Option.some.injEq, reduceCtorEq, false_iff, not_and, not_le]
      rintro rfl
      exact hy
    · simp only [hy, if_false, Except.ok.injEq, Option.some.injEq]
      exact ⟨fun h => ⟨h, h ▸ not_lt.1 hy⟩, fun h => h.1⟩

/-- The spend that is verified is the rounded cost of the tokens, and the spend that was supplied rounds to it. -/
theorem verifiedUsageSpendUsd_ok_iff {float : String → Option ℚ} {modelProfile : Fields} {usage : Option Fields} {success : Bool}
    {suppliedSpendUsd : Value} {inputPrice outputPrice spendUsd : ℚ} {tokens : ℚ × ℚ}
    (htokens : usageTokens float usage success = .ok tokens)
    (hinput : signedPrice float (get modelProfile "input_price_per_million") = .ok inputPrice)
    (houtput : signedPrice float (get modelProfile "output_price_per_million") = .ok outputPrice) :
    verifiedUsageSpendUsd float modelProfile usage success suppliedSpendUsd = .ok spendUsd ↔
      spendUsd = Round.round 8 (costUsd tokens.1 tokens.2 inputPrice outputPrice) ∧
        ∃ supplied, finiteProfileNumber float suppliedSpendUsd = some supplied ∧ 0 ≤ supplied ∧
          Round.round 8 supplied = Round.round 8 (costUsd tokens.1 tokens.2 inputPrice outputPrice) := by
  have hreduce : verifiedUsageSpendUsd float modelProfile usage success suppliedSpendUsd =
      match finiteProfileNumber float suppliedSpendUsd with
      | none => .error (.spendMismatch (Round.round 8 (costUsd tokens.1 tokens.2 inputPrice outputPrice)))
      | some supplied =>
        if supplied < 0 ∨ Round.round 8 supplied ≠ Round.round 8 (costUsd tokens.1 tokens.2 inputPrice outputPrice) then
          .error (.spendMismatch (Round.round 8 (costUsd tokens.1 tokens.2 inputPrice outputPrice)))
        else .ok (Round.round 8 (costUsd tokens.1 tokens.2 inputPrice outputPrice)) := by
    unfold verifiedUsageSpendUsd
    rw [htokens, hinput, houtput]
    rfl
  rw [hreduce]
  cases finiteProfileNumber float suppliedSpendUsd with
  | none => simp
  | some supplied =>
    by_cases h : supplied < 0 ∨ Round.round 8 supplied ≠ Round.round 8 (costUsd tokens.1 tokens.2 inputPrice outputPrice)
    · simp only [h, if_true, reduceCtorEq, Option.some.injEq, exists_eq_left', false_iff, not_and]
      rintro - hnonneg heq
      rcases h with h | h
      · exact absurd h (not_lt.2 hnonneg)
      · exact h heq
    · simp only [h, if_false, Except.ok.injEq, Option.some.injEq, exists_eq_left']
      rw [not_or, not_lt, not_not] at h
      exact ⟨fun hs => ⟨hs.symm, h⟩, fun hs => hs.1.symm⟩

end Usage

end PromptRail
