import PromptRail.Usage

/-!
# Whether client and service agree on a spend (`plugin.py`, `lerouter_modal_api.py`)

The Hermes plugin computes what a request has cost to twelve decimals and sends it. The service verifies it to eight decimals, and
stores and returns the verified number, which the plugin compares with the one it sent. Both are satisfied exactly when the cost
lies within one and a half units of the twelfth decimal of a whole number of units of the eighth.
-/

namespace PromptRail

namespace Usage

open Document (Fields Value get)
open Outcome (bind_ok ok_bind)
open Workflow (isclose isclose_self require require_ok require_true)

/-! ## The plugin -/

/-- The model a request was sent to, as the plugin knows it: its fields, and the document under `model_cost`. -/
structure Entry where
  fields : Fields
  modelCost : Fields := ∅

/-- The values under any of the keys, in the order they are looked for. -/
def valuesOf (sources : List Fields) (keys : List String) : List Value := sources.flatMap fun source => keys.filterMap source.lookup

/-- `_required_nonnegative_number`. -/
def requiredNonnegativeNumber (float : String → Option ℚ) (sources : List Fields) (keys : List String) (label : String) :
    Except String ℚ :=
  match valuesOf sources keys with
  | [] => .error (label ++ " is missing")
  | value :: _ =>
    match finiteProfileNumber float value with
    | none => .error (label ++ " must be an explicit finite nonnegative number")
    | some number => if number < 0 then .error (label ++ " must be an explicit finite nonnegative number") else .ok number

/-- `_estimate_final_request_spend_usd`. -/
def estimateFinalRequestSpendUsd (float : String → Option ℚ) (entry : Option Entry) (usage : Fields) : Except String ℚ :=
  match entry with
  | none => .error "selected model profile is missing"
  | some entry => do
    let promptTokens ← requiredNonnegativeNumber float [usage] inputAliases "input token count"
    let completionTokens ← requiredNonnegativeNumber float [usage] outputAliases "output token count"
    let priceSources := [entry.fields, entry.modelCost]
    let inputPrice ← requiredNonnegativeNumber float priceSources ["input_price_per_million", "input_usd_per_million"]
      "input price per million tokens"
    let outputPrice ← requiredNonnegativeNumber float priceSources ["output_price_per_million", "output_usd_per_million"]
      "output price per million tokens"
    return Round.round 12 (promptTokens / 1000000 * inputPrice + completionTokens / 1000000 * outputPrice)

/-- `_finite_nonnegative_usage_value`. -/
def finiteNonnegativeUsageValue (float : String → Option ℚ) (value : Value) (label : String) : Except String ℚ :=
  match finiteProfileNumber float value with
  | none => .error (label ++ " must be a finite nonnegative number")
  | some number => if number < 0 then .error (label ++ " must be a finite nonnegative number") else .ok number

/-- What a usage log that the service returns says of the spend. -/
structure UsageLogResponse where
  spendUsd : Value
  routingFeeUsd : Value
  billing : Fields

/-- The checks of `_validate_authoritative_usage_log` on the spend. -/
def validateAuthoritativeSpend (float : String → Option ℚ) (usageLog : UsageLogResponse) (payloadSpendUsd : Value) :
    Except String Unit := do
  let expectedSpend ← finiteNonnegativeUsageValue float payloadSpendUsd "LeRouter usage request spend_usd"
  let authoritativeSpend ← finiteNonnegativeUsageValue float usageLog.spendUsd "LeRouter authoritative usage_log.spend_usd"
  require (isclose authoritativeSpend expectedSpend)
    "LeRouter authoritative usage_log.spend_usd does not match request"
  let billedProviderSpend ← finiteNonnegativeUsageValue float (get usageLog.billing "finalRequestSpendUsd")
    "LeRouter authoritative usage_log.metadata.billing.finalRequestSpendUsd"
  require (isclose billedProviderSpend authoritativeSpend)
    "LeRouter authoritative usage_log spend does not match verified provider spend"
  let routingFee ← finiteNonnegativeUsageValue float usageLog.routingFeeUsd "LeRouter authoritative usage_log.routing_fee_usd"
  let metadataRoutingFee ← finiteNonnegativeUsageValue float (get usageLog.billing "routingFeeUsd")
    "LeRouter authoritative usage_log.metadata.billing.routingFeeUsd"
  require (isclose routingFee metadataRoutingFee)
    "LeRouter authoritative usage_log.routing_fee_usd does not match billing metadata"

/-! ## The service -/

/-- `ROUTING_FEE_RATE`. -/
def routingFeeRate : ℚ := 3 / 100

/-- `routing_fee_usd`. -/
def routingFeeUsd (finalRequestSpendUsd : ℚ) : ℚ := Round.round 8 (max 0 finalRequestSpendUsd * routingFeeRate)

/-- What `write_usage_log` stores of the spend: `spendUsd`, and `metadata["billing"]`. -/
structure UsageDocument where
  spendUsd : Value
  billing : Fields

/-- What `write_usage_log` stores of a spend. -/
def usageDocument (finalRequestSpendUsd : ℚ) : UsageDocument where
  spendUsd := .number (routingFeeUsd finalRequestSpendUsd)
  billing := Table.ofList
    [("finalRequestSpendUsd", .number finalRequestSpendUsd),
      ("routingFeeUsd", .number (routingFeeUsd finalRequestSpendUsd)), ("routingFeeRate", .number routingFeeRate)]

/-- What `usage_log_response_from_document` returns of the spend, or the refusal that the stored log is incomplete. -/
def usageLogResponseFromDocument (float : String → Option ℚ) (document : UsageDocument) : Except String UsageLogResponse :=
  match finiteProfileNumber float (get document.billing "finalRequestSpendUsd"), finiteProfileNumber float document.spendUsd with
  | some providerSpendUsd, some routingFeeSpendUsd =>
    if providerSpendUsd < 0 ∨ routingFeeSpendUsd < 0 then .error "persisted_usage_log_incomplete"
    else .ok { spendUsd := .number providerSpendUsd, routingFeeUsd := .number routingFeeSpendUsd, billing := document.billing }
  | _, _ => .error "persisted_usage_log_incomplete"

/-! ## Agreement -/

/-- A spend that the plugin sends is accepted by the service, and what the service then stores and returns is accepted by the
plugin. -/
def Accounted (float : String → Option ℚ) (modelProfile usage : Fields) (spendUsd : ℚ) : Prop :=
  ∃ verified usageLog, verifiedUsageSpendUsd float modelProfile (some usage) true (.number spendUsd) = .ok verified ∧
    usageLogResponseFromDocument float (usageDocument verified) = .ok usageLog ∧
    validateAuthoritativeSpend float usageLog (.number spendUsd) = .ok ()

namespace AgreementAux

variable {float : String → Option ℚ}

theorem lookup_of_get {document : Fields} {name : String} {x : ℚ} (h : get document name = .number x) :
    document.lookup name = some (.number x) := by
  unfold Document.get at h
  cases hlookup : document.lookup name with
  | none => rw [hlookup] at h; cases h
  | some value =>
    rw [hlookup] at h
    exact congrArg some h

/-- A value that is read first is read as it is. -/
theorem requiredNonnegativeNumber_of_head {sources : List Fields} {keys : List String} {label : String} {value : Value}
    {values : List Value} (hvalues : valuesOf sources keys = value :: values) {x : ℚ}
    (h : requiredNonnegativeNumber float sources keys label = .ok x) : finiteProfileNumber float value = some x ∧ 0 ≤ x := by
  unfold requiredNonnegativeNumber at h
  rw [hvalues] at h
  dsimp only at h
  split at h
  · cases h
  · rename_i number hnumber
    split at h
    · cases h
    · rename_i hnonneg
      rw [← Except.ok.inj h]
      exact ⟨hnumber, not_lt.1 hnonneg⟩

/-- The count that the plugin reads is the first one that the service reads. -/
theorem head_suppliedCounts {usage : Fields} {names : List String} {label : String} {x : ℚ} {counts : List ℚ}
    (h : requiredNonnegativeNumber float [usage] names label = .ok x) (hcounts : suppliedCounts float usage names = .ok counts) :
    counts.head? = some x := by
  induction names generalizing counts with
  | nil => cases h
  | cons name names ih =>
    cases hlookup : usage.lookup name with
    | none =>
      have hskip : valuesOf [usage] (name :: names) = valuesOf [usage] names := by simp [valuesOf, hlookup]
      have hnull : get usage name = .null := by simp [Document.get, hlookup]
      rw [suppliedCounts, if_pos hnull] at hcounts
      exact ih (by rwa [requiredNonnegativeNumber, hskip, ← requiredNonnegativeNumber] at h) hcounts
    | some value =>
      have hget : get usage name = value := by simp [Document.get, hlookup]
      have hhead : ∃ values, valuesOf [usage] (name :: names) = value :: values := by simp [valuesOf, hlookup]
      obtain ⟨values, hvalues⟩ := hhead
      obtain ⟨hnumber, hnonneg⟩ := requiredNonnegativeNumber_of_head hvalues h
      have hpresent : value ≠ .null := by
        rintro rfl
        cases hnumber
      rw [suppliedCounts, hget, if_neg hpresent, hnumber] at hcounts
      dsimp only at hcounts
      rw [if_neg (not_lt.2 hnonneg)] at hcounts
      cases hrest : suppliedCounts float usage names with
      | error refusal => rw [hrest] at hcounts; cases hcounts
      | ok rest =>
        rw [hrest] at hcounts
        cases hcounts
        rfl

/-- Plugin and service read one count. -/
theorem count_agrees {usage : Fields} {names : List String} {label field : String} {x count : ℚ}
    (h : requiredNonnegativeNumber float [usage] names label = .ok x)
    (hcount : usageTokenCount float usage names field = .ok count) : x = count := by
  unfold usageTokenCount at hcount
  split at hcount
  · cases hcount
  · cases hcount
  · rename_i first rest hcounts
    have hhead := head_suppliedCounts h hcounts
    split at hcount
    · cases hcount
    · rw [← Except.ok.inj hcount]
      exact (Option.some.inj hhead).symm

/-- A price that the plugin reads is the one of its entry. -/
theorem price_agrees {entry : Entry} {key key' label : String} {price x : ℚ}
    (hentry : entry.fields.lookup key = some (.number price))
    (h : requiredNonnegativeNumber float [entry.fields, entry.modelCost] [key, key'] label = .ok x) : x = price ∧ 0 ≤ price := by
  have hvalues : valuesOf [entry.fields, entry.modelCost] [key, key'] =
      .number price :: ([key'].filterMap entry.fields.lookup ++ valuesOf [entry.modelCost] [key, key']) := by
    simp [valuesOf, hentry]
  obtain ⟨hnumber, hnonneg⟩ := requiredNonnegativeNumber_of_head hvalues h
  rw [finiteProfileNumber_number] at hnumber
  cases hnumber
  exact ⟨rfl, hnonneg⟩

theorem finiteNonnegativeUsageValue_number {x : ℚ} (h : 0 ≤ x) (label : String) :
    finiteNonnegativeUsageValue float (.number x) label = .ok x := by
  simp [finiteNonnegativeUsageValue, not_lt.2 h]

theorem routingFeeUsd_nonneg (finalRequestSpendUsd : ℚ) : 0 ≤ routingFeeUsd finalRequestSpendUsd :=
  Round.round_nonneg (mul_nonneg (le_max_left _ _) (by norm_num [routingFeeRate]))

/-- What is stored of a spend under `billing`. -/
theorem get_billing (spendUsd : ℚ) : get (usageDocument spendUsd).billing "finalRequestSpendUsd" = .number spendUsd ∧
    get (usageDocument spendUsd).billing "routingFeeUsd" = .number (routingFeeUsd spendUsd) := by
  simp only [usageDocument, Table.ofList, List.foldl_cons, List.foldl_nil, Document.get_insert]
  exact ⟨rfl, rfl⟩

/-- What the service returns of a spend it has verified. -/
theorem usageLogResponse_eq {verified : ℚ} (h : 0 ≤ verified) :
    usageLogResponseFromDocument float (usageDocument verified) = .ok
      { spendUsd := .number verified
        routingFeeUsd := .number (routingFeeUsd verified)
        billing := (usageDocument verified).billing } := by
  have hfinal := (get_billing verified).1
  have hfee := routingFeeUsd_nonneg verified
  unfold usageLogResponseFromDocument
  rw [hfinal, finiteProfileNumber_number, show (usageDocument verified).spendUsd = .number (routingFeeUsd verified) from rfl,
    finiteProfileNumber_number]
  simp only [if_neg (not_or.2 ⟨not_lt.2 h, not_lt.2 hfee⟩)]

/-- The plugin accepts what the service returns when the spend is close to the one it has sent. -/
theorem validateAuthoritativeSpend_iff {verified spendUsd : ℚ} (h : 0 ≤ verified) (hspend : 0 ≤ spendUsd) :
    validateAuthoritativeSpend float
        { spendUsd := .number verified
          routingFeeUsd := .number (routingFeeUsd verified)
          billing := (usageDocument verified).billing } (.number spendUsd) = .ok () ↔ isclose verified spendUsd = true := by
  obtain ⟨hfinal, hrouting⟩ := get_billing verified
  have hfee := routingFeeUsd_nonneg verified
  unfold validateAuthoritativeSpend
  simp only [hfinal, hrouting, finiteNonnegativeUsageValue_number h, finiteNonnegativeUsageValue_number hspend,
    finiteNonnegativeUsageValue_number hfee, isclose_self, ok_bind, require_true]
  constructor
  · intro hok
    obtain ⟨_, hreq, -⟩ := bind_ok hok
    exact require_ok hreq
  · intro hclose
    rw [hclose]
    rfl

/-- The tokens of a successful request are counted in its usage. -/
theorem counts_of_usageTokens {usage : Fields} {tokens : ℚ × ℚ} (h : usageTokens float (some usage) true = .ok tokens) :
    usageTokenCount float usage inputAliases "input_tokens" = .ok tokens.1 ∧
      usageTokenCount float usage outputAliases "output_tokens" = .ok tokens.2 := by
  unfold usageTokens at h
  split at h
  · cases h
  · rename_i document hdocument
    have hsame := (Option.filter_eq_some_iff.1 hdocument).1
    cases hsame
    obtain ⟨inputTokens, hin, h⟩ := bind_ok h
    obtain ⟨outputTokens, hout, h⟩ := bind_ok h
    cases h
    exact ⟨hin, hout⟩

/-- What the plugin sends is the cost of the tokens that the service counts, to twelve decimals. -/
theorem estimate_eq {entry : Entry} {usage : Fields} {tokens : ℚ × ℚ} {inputPrice outputPrice spendUsd : ℚ}
    (hinput : entry.fields.lookup "input_price_per_million" = some (.number inputPrice))
    (houtput : entry.fields.lookup "output_price_per_million" = some (.number outputPrice))
    (htokens : usageTokens float (some usage) true = .ok tokens)
    (h : estimateFinalRequestSpendUsd float (some entry) usage = .ok spendUsd) :
    spendUsd = Round.round 12 (costUsd tokens.1 tokens.2 inputPrice outputPrice) ∧ 0 ≤ inputPrice ∧ 0 ≤ outputPrice := by
  obtain ⟨promptTokens, hprompt, h⟩ := bind_ok h
  obtain ⟨completionTokens, hcompletion, h⟩ := bind_ok h
  obtain ⟨ip, hip, h⟩ := bind_ok h
  obtain ⟨op, hop, h⟩ := bind_ok h
  obtain ⟨rfl, hipos⟩ := price_agrees hinput hip
  obtain ⟨rfl, hopos⟩ := price_agrees houtput hop
  obtain ⟨hin, hout⟩ := counts_of_usageTokens htokens
  rw [← count_agrees hprompt hin, ← count_agrees hcompletion hout]
  exact ⟨(Except.ok.inj h).symm, hipos, hopos⟩

end AgreementAux

open AgreementAux

/-- Client and service agree on what the tokens of a request have cost exactly when the cost, in units of the twelfth decimal, is
less than one and a half away from a multiple of the units of the eighth. -/
theorem accounted_iff (float : String → Option ℚ) {entry : Entry} {usage modelProfile : Fields} {tokens : ℚ × ℚ}
    {inputPrice outputPrice spendUsd : ℚ} (hinput : get modelProfile "input_price_per_million" = .number inputPrice)
    (houtput : get modelProfile "output_price_per_million" = .number outputPrice)
    (hentry : ∀ key ∈ ["input_price_per_million", "output_price_per_million"],
      entry.fields.lookup key = modelProfile.lookup key)
    (htokens : usageTokens float (some usage) true = .ok tokens)
    (hspend : estimateFinalRequestSpendUsd float (some entry) usage = .ok spendUsd) :
    Accounted float modelProfile usage spendUsd ↔
      ∃ n : ℤ, |10 ^ 12 * costUsd tokens.1 tokens.2 inputPrice outputPrice - 10 ^ 4 * n| < 3 / 2 := by
  obtain ⟨rfl, hipos, hopos⟩ := estimate_eq ((hentry _ (by simp)).trans (lookup_of_get hinput))
    ((hentry _ (by simp)).trans (lookup_of_get houtput)) htokens hspend
  obtain ⟨hn1, hn2⟩ := usageTokens_nonneg htokens
  have hcost := costUsd_nonneg hn1 hn2 hipos hopos
  have hverified (supplied verified : ℚ) :
      verifiedUsageSpendUsd float modelProfile (some usage) true (.number supplied) = .ok verified ↔ _ :=
    verifiedUsageSpendUsd_ok_iff htokens (signedPrice_ok_iff.2 ⟨by rw [hinput, finiteProfileNumber_number], hipos⟩)
      (signedPrice_ok_iff.2 ⟨by rw [houtput, finiteProfileNumber_number], hopos⟩)
  generalize costUsd tokens.1 tokens.2 inputPrice outputPrice = cost at hcost hverified ⊢
  rw [← Round.rounds_agree_iff 8 (by norm_num : 1 ≤ 4) cost]
  have hclose : isclose (Round.round 8 cost) (Round.round 12 cost) = true ↔
      |Round.round 8 cost - Round.round 12 cost| ≤ 1 / 10 ^ 12 := by
    simp [isclose, Workflow.tolerance]
  constructor
  · rintro ⟨verified, usageLog, hservice, hresponse, hplugin⟩
    obtain ⟨rfl, supplied, hsupplied, -, hsame⟩ := (hverified _ _).1 hservice
    rw [finiteProfileNumber_number] at hsupplied
    cases hsupplied
    rw [usageLogResponse_eq (Round.round_nonneg hcost)] at hresponse
    cases hresponse
    exact ⟨hsame, hclose.1 ((validateAuthoritativeSpend_iff (Round.round_nonneg hcost) (Round.round_nonneg hcost)).1 hplugin)⟩
  · rintro ⟨hsame, hle⟩
    refine ⟨_, _, (hverified _ _).2 ⟨rfl, _, finiteProfileNumber_number _ _, Round.round_nonneg hcost, hsame⟩,
      usageLogResponse_eq (Round.round_nonneg hcost), ?_⟩
    exact (validateAuthoritativeSpend_iff (Round.round_nonneg hcost) (Round.round_nonneg hcost)).2 (hclose.2 hle)

namespace AgreementExample

/-- A model at 0.125 dollars for a million tokens of input, and 0.50 dollars for a million tokens of output. -/
def modelProfile : Fields :=
  Table.ofList [("input_price_per_million", .number (1 / 8)), ("output_price_per_million", .number (1 / 2))]

/-- The same model, as the plugin knows it. -/
def entry : Entry := { fields := modelProfile }

/-- A request that has used some tokens of input, and none of output. -/
def usage (promptTokens : ℚ) : Fields := Table.ofList [("prompt_tokens", .number promptTokens), ("completion_tokens", .number 0)]

end AgreementExample

open AgreementExample

/-- Eight tokens cost 0.000001 dollars, on which both agree. -/
theorem accounted_eight_tokens : Accounted (fun _ => none) modelProfile (usage 8) (1 / 1000000) := by
  have htokens : usageTokens (fun _ => none) (some (usage 8)) true = .ok (8, 0) := by decide +kernel
  have hspend : estimateFinalRequestSpendUsd (fun _ => none) (some entry) (usage 8) = .ok (1 / 1000000) := by decide +kernel
  refine (accounted_iff (fun _ => none) rfl rfl (fun _ _ => rfl) htokens hspend).2 ⟨100, ?_⟩
  norm_num [costUsd]

/-- One token costs 0.000000125 dollars. The plugin sends that, the service takes it, stores and returns 0.00000012 dollars, and the
plugin refuses the log. -/
theorem one_token_refused : estimateFinalRequestSpendUsd (fun _ => none) (some entry) (usage 1) = .ok (1 / 8000000) ∧
    verifiedUsageSpendUsd (fun _ => none) modelProfile (some (usage 1)) true (.number (1 / 8000000)) = .ok (3 / 25000000) ∧
    ¬Accounted (fun _ => none) modelProfile (usage 1) (1 / 8000000) := by
  have hservice : verifiedUsageSpendUsd (fun _ => none) modelProfile (some (usage 1)) true (.number (1 / 8000000)) =
      .ok (3 / 25000000) := by decide +kernel
  refine ⟨by decide +kernel, hservice, ?_⟩
  rintro ⟨verified, usageLog, hverified, hresponse, hplugin⟩
  cases hservice.symm.trans hverified
  rw [usageLogResponse_eq (by norm_num)] at hresponse
  cases hresponse
  have hclose := (validateAuthoritativeSpend_iff (by norm_num) (by norm_num)).1 hplugin
  exact absurd hclose (by decide +kernel)

end Usage

end PromptRail
