import PromptRail.Hermes.Middleware

/-!
# What a run of the middleware logs

A run executes one candidate at most, and sends one usage log at most. The log of a response that names the selected model, or names none,
reports what the response has cost; any other log reports a failure with a spend of zero.
-/

namespace PromptRail

open PyText (Text)
open Json (Value get?)
open Provider (field)
open Usage (documentOf inputAliases outputAliases ofJson requiredNonnegativeNumber)

namespace Hermes

/-- The middleware routes: it is not disabled, and its state enables it. -/
def RoutingEnabled (host : Host) (state : Json.Fields) : Prop := isDisabled host = false ∧ loadedState host = .ok (state, true)

/-- A candidate that the middleware goes on to execute. -/
def Selected (host : Host) (state : Json.Fields) (attempt : Attempt) : Prop :=
  ∃ routed, routeCandidates host state = .ok routed ∧ attempt ∈ routed.attempts

/-- The selection of a candidate carries the id of the user that LeRouter signs it with. -/
def Signed (host : Host) (attempt : Attempt) : Prop := cleanText host.env (field attempt.selection "user_id") ≠ []

/-- A response names no model, or the selected one. -/
def NamesSelected (host : Host) (response : Response) (entry : Json.Fields) : Prop :=
  cleanText host.env (field response.fields "model") = [] ∨
    host.env.lower (cleanText host.env (field response.fields "model")) ∈ allowedReportedModels host entry

instance (host : Host) (response : Response) (entry : Json.Fields) : Decidable (NamesSelected host response entry) :=
  inferInstanceAs (Decidable (_ ∨ _))

/-- What the tokens of a response cost at the prices of an entry. -/
def Costs (host : Host) (entry : Json.Fields) (response : Response) (spendUsd : ℚ) : Prop :=
  finalRequestSpendUsd host entry (primitiveUsageDict (field response.fields "usage")) = .ok spendUsd

instance (host : Host) (entry : Json.Fields) (response : Response) (spendUsd : ℚ) : Decidable (Costs host entry response spendUsd) :=
  inferInstanceAs (Decidable (_ = _))

/-- A log of a call without success. -/
def Payload.Failed (payload : Payload) : Prop := payload.success = false ∧ payload.spendUsd = 0

namespace AccountedAux

variable {host : Host} {answer : Except Exn Response} {state : Json.Fields} {routeName : Value} {attempt : Attempt}

/-! ### The payload -/

theorem lookup_documentOf (literal : String → Option ℚ) (fields : Json.Fields) (name : String) :
    (documentOf literal fields).lookup name = (get? fields name).map (ofJson literal) := by
  induction fields with
  | nil => rfl
  | cons p fields ih =>
    rw [documentOf]
    by_cases h : name = p.1
    · subst h
      rw [AList.lookup_insert]
      simp [get?]
    · rw [AList.lookup_insert_ne h, ih]
      simp [get?, List.find?_cons_of_neg, Ne.symm h]

/-- A number that is read is there under one of its names. -/
theorem isSome_of_required {float : String → Option ℚ} {literal : String → Option ℚ} {usage : Json.Fields} {names : List String}
    {label : String} {x : ℚ} (h : requiredNonnegativeNumber float [documentOf literal usage] names label = .ok x) :
    (names.any fun name => (get? usage name).isSome) = true := by
  cases hvalues : Usage.valuesOf [documentOf literal usage] names with
  | nil =>
    rw [requiredNonnegativeNumber, hvalues] at h
    cases h
  | cons value values =>
    have hmem : value ∈ Usage.valuesOf [documentOf literal usage] names := by
      rw [hvalues]
      exact List.mem_cons_self
    rw [Usage.valuesOf, List.flatMap_singleton, List.mem_filterMap] at hmem
    obtain ⟨name, hname, hlookup⟩ := hmem
    rw [lookup_documentOf] at hlookup
    obtain ⟨found, hfound, -⟩ := Option.map_eq_some_iff.1 hlookup
    exact List.any_eq_true.2 ⟨name, hname, by rw [hfound]; rfl⟩

/-- A response with a cost has counts. -/
theorem hasTokenCounts_of_costs {entry : Json.Fields} {response : Response} {spendUsd : ℚ} (h : Costs host entry response spendUsd) :
    usageHasTokenCounts (primitiveUsageDict (field response.fields "usage")) = true := by
  unfold Costs finalRequestSpendUsd Usage.estimateFinalRequestSpendUsd at h
  obtain ⟨promptTokens, hprompt, h⟩ := Outcome.bind_ok h
  obtain ⟨completionTokens, hcompletion, -⟩ := Outcome.bind_ok h
  rw [usageHasTokenCounts, isSome_of_required hprompt, isSome_of_required hcompletion]
  rfl

theorem accountedSpend_of_costs {entry : Json.Fields} {response : Response} {spendUsd : ℚ} (h : Costs host entry response spendUsd) :
    accountedSpend host entry (some response) = .ok (primitiveUsageDict (field response.fields "usage"), spendUsd) := by
  have husage : chargedUsage host entry response = .ok (primitiveUsageDict (field response.fields "usage")) := by
    simp only [chargedUsage, hasTokenCounts_of_costs h, Bool.not_true, Bool.false_and, Bool.false_eq_true, if_false]
  rw [accountedSpend, husage, Outcome.ok_bind, h]
  rfl

theorem accountingCallId_of_claim {selection : Json.Fields} {claim : Text × Text}
    (h : requireAccountingClaim host.env selection = .ok claim) : claim.1 = accountingCallId host.env selection := by
  unfold requireAccountingClaim at h
  dsimp only at h
  split at h
  · rw [← Except.ok.inj h]
  · nomatch h

/-- The payload of a call whose spend is known. -/
theorem usagePayload_ok (state : Json.Fields) (routeName : Value) {claim : Text × Text}
    (hclaim : requireAccountingClaim host.env attempt.selection = .ok claim) (hsigned : Signed host attempt)
    {response : Option Response} {usage : Json.Fields} {spendUsd : ℚ}
    (hspend : accountedSpend host attempt.entry response = .ok (usage, spendUsd)) (error : Text) :
    ∃ payload, usagePayload host state routeName attempt claim.1 response error = .ok payload ∧
      payload.routingCallId = accountingCallId host.env attempt.selection ∧ payload.success = response.isSome ∧
      payload.spendUsd = spendUsd := by
  unfold usagePayload
  rw [hclaim, Outcome.ok_bind]
  dsimp only
  rw [if_neg hsigned, if_neg (fun h => h.2 rfl), hspend]
  exact ⟨_, rfl, accountingCallId_of_claim hclaim, rfl, rfl⟩

/-- The payload of a call without a response. -/
theorem failed_of_usagePayload {routingCallId error : Text} {payload : Payload}
    (h : usagePayload host state routeName attempt routingCallId none error = .ok payload) : payload.Failed := by
  unfold usagePayload at h
  obtain ⟨claim, -, h⟩ := Outcome.bind_ok h
  obtain ⟨-, h⟩ := Outcome.check_ok_iff.1 h
  obtain ⟨-, h⟩ := Outcome.check_ok_iff.1 h
  obtain ⟨spend, hspend, h⟩ := Outcome.bind_ok h
  rw [← Except.ok.inj h, ← Except.ok.inj hspend]
  exact ⟨rfl, rfl⟩

/-! ### The logs of a failure -/

theorem logs_logFailure (routingCallId : Text) (calls : List (Except Exn Response)) (error : Exn) (goesOn : Bool) :
    ∀ payload ∈ (logFailure host state routeName attempt routingCallId calls error goesOn).logs, payload.Failed := by
  intro payload hpayload
  unfold logFailure at hpayload
  split at hpayload
  · exact absurd hpayload List.not_mem_nil
  · rename_i failed hfailed
    split at hpayload <;>
    · rw [List.mem_singleton.1 hpayload]
      exact failed_of_usagePayload hfailed

theorem calls_logFailure (routingCallId : Text) (calls : List (Except Exn Response)) (error : Exn) (goesOn : Bool) :
    (logFailure host state routeName attempt routingCallId calls error goesOn).calls = calls := by
  unfold logFailure
  split
  · rfl
  · split <;> rfl

theorem logs_executionFailure (routingCallId : Text) (calls : List (Except Exn Response)) (error : Exn) (hasNext : Bool) :
    ∀ payload ∈ (executionFailure host state routeName attempt routingCallId calls error hasNext).logs, payload.Failed := by
  unfold executionFailure
  split
  · exact fun payload hpayload => absurd hpayload List.not_mem_nil
  · exact logs_logFailure routingCallId calls error _

theorem calls_executionFailure (routingCallId : Text) (calls : List (Except Exn Response)) (error : Exn) (hasNext : Bool) :
    (executionFailure host state routeName attempt routingCallId calls error hasNext).calls = calls := by
  unfold executionFailure
  split
  · rfl
  · exact calls_logFailure routingCallId calls error _

/-- A failure whose payload can be made is logged once, and raised where there is no other candidate. -/
theorem logFailure_once {claim : Text × Text} (hclaim : requireAccountingClaim host.env attempt.selection = .ok claim)
    (hsigned : Signed host attempt) (calls : List (Except Exn Response)) (error : Exn) :
    ∃ payload raised, logFailure host state routeName attempt claim.1 calls error false = ⟨calls, [payload], some (.error raised)⟩ ∧
      payload.routingCallId = accountingCallId host.env attempt.selection ∧ payload.Failed := by
  obtain ⟨payload, hpayload, hid, hsuccess, hspend⟩ :=
    usagePayload_ok state routeName hclaim hsigned (show accountedSpend host attempt.entry none = .ok ([], 0) from rfl) error.message
  unfold logFailure
  rw [hpayload]
  dsimp only
  cases logUsage host payload with
  | error refusal => exact ⟨payload, refusal, rfl, hid, hsuccess, hspend⟩
  | ok _ => exact ⟨payload, error, rfl, hid, hsuccess, hspend⟩

/-! ### A candidate -/

theorem calls_settleResponse (routingCallId : Text) (response : Response) (hasNext : Bool) :
    (settleResponse host state routeName attempt routingCallId response hasNext).calls = [.ok response] := by
  unfold settleResponse
  split
  · exact calls_executionFailure routingCallId _ _ hasNext
  · split <;> rfl

/-- The logs of a candidate without a call report a failure. -/
theorem logs_executeCandidate {index : Nat} {routingCallId : Text} {hasNext : Bool}
    (h : (executeCandidate host answer state routeName index attempt routingCallId hasNext).calls = []) :
    ∀ payload ∈ (executeCandidate host answer state routeName index attempt routingCallId hasNext).logs, payload.Failed := by
  unfold executeCandidate at h ⊢
  split at h
  · exact logs_executionFailure routingCallId _ _ hasNext
  · rw [calls_executionFailure] at h
    nomatch h
  · rw [calls_settleResponse] at h
    nomatch h

theorem logs_runCandidate {index : Nat} {hasNext : Bool}
    (h : (runCandidate host answer state routeName index attempt hasNext).calls = []) :
    ∀ payload ∈ (runCandidate host answer state routeName index attempt hasNext).logs, payload.Failed := by
  have hnone : ∀ payload ∈ ([] : List Payload), payload.Failed := fun payload hpayload => absurd hpayload List.not_mem_nil
  unfold runCandidate at h ⊢
  split at h
  · exact hnone
  · split at h
    · exact hnone
    · exact logs_logFailure _ _ _ _
    · split at h
      · exact logs_executeCandidate h
      · split at h
        · exact logs_logFailure _ _ _ _
        · exact hnone
        · exact hnone

/-- An execution whose call has returned a response is settled by it. -/
theorem executeCandidate_of_response {index : Nat} {routingCallId : Text} {hasNext : Bool} {response : Response}
    (h : .ok response ∈ (executeCandidate host answer state routeName index attempt routingCallId hasNext).calls) :
    executeCandidate host answer state routeName index attempt routingCallId hasNext =
      settleResponse host state routeName attempt routingCallId response hasNext := by
  unfold executeCandidate at h ⊢
  split at h
  · rw [calls_executionFailure] at h
    exact absurd h List.not_mem_nil
  · rw [calls_executionFailure] at h
    nomatch List.mem_singleton.1 h
  · rw [calls_settleResponse] at h
    rw [Except.ok.inj (List.mem_singleton.1 h)]

/-- A candidate whose call has returned a response is settled by it. -/
theorem runCandidate_of_response {index : Nat} {hasNext : Bool} {response : Response}
    (h : .ok response ∈ (runCandidate host answer state routeName index attempt hasNext).calls) :
    ∃ claim, requireAccountingClaim host.env attempt.selection = .ok claim ∧
      runCandidate host answer state routeName index attempt hasNext =
        settleResponse host state routeName attempt claim.1 response hasNext := by
  unfold runCandidate at h ⊢
  split at h
  · exact absurd h List.not_mem_nil
  · rename_i routingCallId token hclaim
    split at h
    · exact absurd h List.not_mem_nil
    · rw [calls_logFailure] at h
      exact absurd h List.not_mem_nil
    · split at h
      · exact ⟨(routingCallId, token), hclaim, executeCandidate_of_response h⟩
      · split at h
        · rw [calls_logFailure] at h
          exact absurd h List.not_mem_nil
        · exact absurd h List.not_mem_nil
        · exact absurd h List.not_mem_nil

/-- A response that names the selected model is logged with its cost. -/
theorem settleResponse_of_names {claim : Text × Text} (hclaim : requireAccountingClaim host.env attempt.selection = .ok claim)
    (hsigned : Signed host attempt) {response : Response} {spendUsd : ℚ} (hcosts : Costs host attempt.entry response spendUsd)
    (hnames : NamesSelected host response attempt.entry) (hasNext : Bool) :
    ∃ payload outcome, settleResponse host state routeName attempt claim.1 response hasNext = ⟨[.ok response], [payload], some outcome⟩ ∧
      payload.routingCallId = accountingCallId host.env attempt.selection ∧ payload.success = true ∧ payload.spendUsd = spendUsd := by
  obtain ⟨payload, hpayload, hid, hsuccess, hspend⟩ :=
    usagePayload_ok state routeName hclaim hsigned (accountedSpend_of_costs hcosts) []
  have hmodel : verifyProviderReportedModel host response attempt.entry = .ok () := by
    unfold verifyProviderReportedModel
    by_cases hblank : cleanText host.env (field response.fields "model") = []
    · exact if_pos hblank
    · exact (if_neg hblank).trans (if_pos (hnames.resolve_left hblank))
  have hvalid : validateDirectProviderResponse host response attempt.entry = .ok () := by
    unfold validateDirectProviderResponse
    split
    · rfl
    · exact if_pos (hasTokenCounts_of_costs hcosts)
  have hsettled : successPayload host state routeName attempt claim.1 response = .ok payload := by
    rw [successPayload, hmodel, Outcome.ok_bind, hvalid, Outcome.ok_bind]
    exact hpayload
  unfold settleResponse
  rw [hsettled]
  dsimp only
  cases logUsage host payload with
  | error refusal => exact ⟨payload, .error refusal, rfl, hid, hsuccess, hspend⟩
  | ok _ => exact ⟨payload, .ok response, rfl, hid, hsuccess, hspend⟩

/-- A response that names another model is logged as a failure and raised. -/
theorem settleResponse_of_other {claim : Text × Text} (hclaim : requireAccountingClaim host.env attempt.selection = .ok claim)
    (hsigned : Signed host attempt) {response : Response} (hother : ¬NamesSelected host response attempt.entry) :
    ∃ payload raised, settleResponse host state routeName attempt claim.1 response false =
        ⟨[.ok response], [payload], some (.error raised)⟩ ∧
      payload.routingCallId = accountingCallId host.env attempt.selection ∧ payload.Failed := by
  rw [NamesSelected, not_or] at hother
  obtain ⟨error, hmodel, hkind⟩ : ∃ error, verifyProviderReportedModel host response attempt.entry = .error error ∧ error.kind = .other :=
    ⟨_, (if_neg hother.1).trans (if_neg hother.2), rfl⟩
  have hrefused : successPayload host state routeName attempt claim.1 response = .error error := by
    rw [successPayload, hmodel]
    rfl
  have hkept : refusalOf host error attempt.entry = error := if_neg fun h => by rw [hkind] at h; nomatch h.1
  unfold settleResponse
  rw [hrefused]
  dsimp only
  rw [hkept, executionFailure, if_neg (by rw [hkind]; decide), Bool.false_and]
  exact logFailure_once hclaim hsigned _ error

/-! ### The candidates -/

/-- No more candidates are tried than there are. -/
theorem length_candidateAttemptsFrom {env : Provider.Env} {state selection : Json.Fields} {candidates : List Value}
    {seen : List (Value × Value × Value)} {attempts : List Attempt}
    (h : candidateAttemptsFrom env state selection seen candidates = .ok attempts) : attempts.length ≤ candidates.length := by
  induction candidates generalizing seen attempts with
  | nil =>
    rw [← Except.ok.inj h]
    exact Nat.le_refl 0
  | cons candidate candidates ih =>
    rw [List.length_cons]
    cases candidate with
    | obj candidate =>
      unfold candidateAttemptsFrom at h
      obtain ⟨found, -, h⟩ := Outcome.bind_ok h
      cases found with
      | none => exact Nat.le_succ_of_le (ih h)
      | some entry =>
        dsimp only at h
        split at h
        · exact Nat.le_succ_of_le (ih h)
        · obtain ⟨-, -, h⟩ := Outcome.bind_ok h
          obtain ⟨rest, hrest, h⟩ := Outcome.bind_ok h
          rw [← Except.ok.inj h]
          exact Nat.succ_le_succ (ih hrest)
    | null => exact Nat.le_succ_of_le (ih h)
    | bool _ => exact Nat.le_succ_of_le (ih h)
    | int _ => exact Nat.le_succ_of_le (ih h)
    | float _ => exact Nat.le_succ_of_le (ih h)
    | str _ => exact Nat.le_succ_of_le (ih h)
    | arr _ => exact Nat.le_succ_of_le (ih h)

/-- A candidate that is executed is the only one. -/
theorem attempts_of_selected {routed : Routed} (hrouted : routeCandidates host state = .ok routed) (hattempt : attempt ∈ routed.attempts) :
    routed.attempts = [attempt] := by
  unfold routeCandidates at hrouted
  obtain ⟨-, hrouted⟩ := Outcome.check_ok_iff.1 hrouted
  obtain ⟨-, -, hrouted⟩ := Outcome.bind_ok hrouted
  obtain ⟨selection, -, hrouted⟩ := Outcome.bind_ok hrouted
  obtain ⟨-, -, hrouted⟩ := Outcome.bind_ok hrouted
  obtain ⟨attempts, hattempts, hrouted⟩ := Outcome.bind_ok hrouted
  obtain ⟨-, hrouted⟩ := Outcome.check_ok_iff.1 hrouted
  rw [← Except.ok.inj hrouted] at hattempt ⊢
  have hlength : attempts.length ≤ 1 :=
    (length_candidateAttemptsFrom hattempts).trans (List.length_take_le 1 _)
  obtain ⟨only, rfl⟩ := List.length_eq_one_iff.1 (Nat.le_antisymm hlength (List.length_pos_of_mem hattempt))
  rw [List.mem_singleton.1 hattempt]

theorem logs_runCandidates {index : Nat} {attempts : List Attempt}
    (h : (runCandidates host answer state routeName index attempts).calls = []) :
    ∀ payload ∈ (runCandidates host answer state routeName index attempts).logs, payload.Failed := by
  induction attempts generalizing index with
  | nil => exact fun payload hpayload => absurd hpayload List.not_mem_nil
  | cons attempt attempts ih =>
    unfold runCandidates at h ⊢
    dsimp only at h ⊢
    split at h
    · exact logs_runCandidate h
    · obtain ⟨hfirst, hrest⟩ := List.append_eq_nil_iff.1 h
      intro payload hpayload
      rcases List.mem_append.1 hpayload with hpayload | hpayload
      · exact logs_runCandidate hfirst payload hpayload
      · exact ih hrest payload hpayload

/-- The run over a single candidate has the calls of the candidate, and its logs and its outcome where it has one. -/
theorem runCandidates_single (host : Host) (answer : Except Exn Response) (state : Json.Fields) (routeName : Value) (attempt : Attempt)
    (index : Nat) :
    (runCandidates host answer state routeName index [attempt]).calls =
      (runCandidate host answer state routeName index attempt false).calls ∧
    ∀ outcome, (runCandidate host answer state routeName index attempt false).outcome = some outcome →
      (runCandidates host answer state routeName index [attempt]).logs =
          (runCandidate host answer state routeName index attempt false).logs ∧
        (runCandidates host answer state routeName index [attempt]).outcome = outcome := by
  unfold runCandidates
  simp only [List.isEmpty_nil, Bool.not_true]
  cases hstep : (runCandidate host answer state routeName index attempt false).outcome with
  | none => exact ⟨List.append_nil _, fun outcome houtcome => nomatch houtcome⟩
  | some outcome => exact ⟨rfl, fun outcome' houtcome => ⟨rfl, Option.some.inj houtcome⟩⟩

/-- A run that routes raises an exception before any candidate, or is the loop over the candidates. -/
theorem onLlmExecutionMiddleware_cases (henabled : RoutingEnabled host state) :
    (∃ error, onLlmExecutionMiddleware host = .raise error) ∨
    ∃ answer routed, routeCandidates host state = .ok routed ∧
      onLlmExecutionMiddleware host = runCandidates host answer state routed.routeName 0 routed.attempts := by
  unfold onLlmExecutionMiddleware
  cases host.nextCall with
  | none => exact .inl ⟨_, rfl⟩
  | some answer =>
    simp only [henabled.1, henabled.2, Bool.false_eq_true, if_false]
    cases routeCandidates host state with
    | error error => exact .inl ⟨_, rfl⟩
    | ok routed => exact .inr ⟨answer, routed, rfl, rfl⟩

end AccountedAux

open AccountedAux

namespace AccountedExample

def plainEnv : Provider.Env where
  repr _ := []
  lower t := t.map Char.toLower

/-- A model at a dollar for a million input tokens and at ten for a million output tokens. -/
def entry : Json.Fields :=
  [("model_id", .str "openai/gpt-5".toList), ("native_model_id", .str "gpt-5".toList), ("provider", .str "openai".toList),
    ("input_price_per_million", .int 1), ("output_price_per_million", .int 10)]

def state : Json.Fields := [("enabled", .bool true), ("model_catalog", .arr [.obj entry])]

/-- A selection of the model, signed for a user where there is one. -/
def selection (userId : Text) : Json.Fields :=
  [("user_id", .str userId), ("routing_call_id", .str "call-1".toList), ("accounting_token", .str "token".toList),
    ("selected_model_id", .str "openai/gpt-5".toList)]

def response (model : Text) : Response where
  fields := [("model", .str model), ("usage", .obj [("prompt_tokens", .int 1000), ("completion_tokens", .int 100)])]

def agent : Agent where
  model := .str "gpt-5".toList
  provider := .str "openai".toList

/-- The selected model answers under a name. -/
def host (userId model : Text) : Host where
  env := plainEnv
  float _ := none
  literal _ := none
  safeErrorMessage t := t
  lerouterDisable := []
  nextCall := some (.ok (response model))
  loadState := .ok state
  hasAgent := true
  baseRequest := .ok []
  select := .ok (selection userId)
  agent _ := agent
  switchModel _ := .ok false
  rebuild _ := .ok ⟨[], agent⟩
  directCall _ := none
  generationIds := []
  openrouterApiKey := none
  generation _ := .ok []
  usageLog _ := .ok ()

/-- The candidate of the selection. -/
def attempt (userId : Text) : Attempt := ⟨entry, merge (selection userId) (selection userId)⟩

theorem enabled (userId model : Text) : RoutingEnabled (host userId model) state := ⟨rfl, rfl⟩

theorem selected (userId model : Text) : Selected (host userId model) state (attempt userId) :=
  ⟨⟨.null, [attempt userId]⟩, rfl, List.mem_cons_self⟩

theorem costs (userId model : Text) : Costs (host userId model) entry (response model) (1 / 500) := by
  have hspend : Usage.estimateFinalRequestSpendUsd (fun _ => none) (some (pricedEntry (host [] []) entry))
      (documentOf (fun _ => none) [("prompt_tokens", .int 1000), ("completion_tokens", .int 100)]) = .ok (1 / 500) := by
    decide +kernel
  exact hspend

end AccountedExample

open AccountedExample

end Hermes

end PromptRail
