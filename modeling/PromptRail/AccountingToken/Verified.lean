import PromptRail.AccountingToken.RoundTrip

/-!
# What is verified

A claim that was read has every field that was signed. Verifying it comes to what the issuer leaves out: the length of a token, the
prices of a profile that are looked for under several names, and the limits of a reservation.
-/

namespace PromptRail

namespace Accounting

open PyText (Text strip strip_strip encodeUtf8)
open Json (Fields Value WellFormed get? get?_set dumps sorted canonical canonicalFields get?_loaded)
open Base64 (Bytes)
open Outcome (bind_ok bind_ok_iff check_ok_iff toOption_eq_some_iff)

variable {env : Env} {args : TokenArguments} {profile : Fields}

/-! ## The claim as it was signed -/

/-- A claim of the call `args`, whose profile may have its fields in another order. -/
def IsClaimOf (env : Env) (args : TokenArguments) (profile claim : Fields) : Prop :=
  ∃ profile', (∀ name, get? profile' name = get? profile name) ∧
    ∀ name, get? claim name = get? (accountingClaim env args profile') name

/-- The arguments under which a profile was signed. -/
structure Signed (env : Env) (args : TokenArguments) (profile : Fields) : Prop where
  normal : Normal env profile (strip args.modelId) (env.lower (strip args.provider))
  ascii : ∀ c ∈ strip args.modelId, c.toNat < 128

theorem wellFormed_ofNumber? (x : Option ℚ) : WellFormed (ofNumber? env x) := by
  cases x with
  | none => exact .null
  | some x => exact wellFormed_ofFloat _

theorem Signed.wellFormed (h : Signed env args profile) : WellFormed (.obj (accountingClaim env args profile)) := by
  refine .obj nodup_accountingClaim ?_
  rw [accountingClaim, List.forall_mem_append]
  constructor
  · simp only [List.forall_mem_cons]
    refine ⟨.int _, .str _, .str _, .str _, .str _, .str _, ?_, wellFormed_ofNumber? _, .str _, List.forall_mem_nil _⟩
    exact .obj h.normal.nodup fun p hp => (h.normal.value hp).1
  · cases args.workflowExecution with
    | none => exact List.forall_mem_nil _
    | some execution =>
      simp only [workflowClaim, List.forall_mem_cons]
      exact ⟨.str _, .str _, .str _, .int _, wellFormed_ofFloat _, List.forall_mem_nil _⟩

/-- The claim of a token, as it was read. -/
def loadedClaim (env : Env) (args : TokenArguments) (profile : Fields) : Fields :=
  sorted (canonicalFields (accountingClaim env args profile))

/-- A claim that was read is the claim that was signed, its profile in the order of its names. -/
theorem Signed.get?_loadedClaim (h : Signed env args profile) (name : String) :
    get? (loadedClaim env args profile) name = get? (accountingClaim env args (sorted profile)) name := by
  rw [loadedClaim, get?_loaded nodup_accountingClaim, ← Json.get?_canonicalFields]
  congr 1
  rw [Json.canonicalFields_eq, accountingClaim, accountingClaim, List.map_append]
  congr 1
  · have hweight : ∀ x, canonical (ofNumber? env x) = ofNumber? env x := fun x => by cases x <;> rfl
    simp only [List.map_cons, List.map_nil, hweight]
    simp only [canonical, h.normal.canonicalFields]
  · cases args.workflowExecution <;> rfl

theorem Signed.names_loadedClaim (_h : Signed env args profile) :
    ((loadedClaim env args profile).map (·.1)).Perm (if args.workflowExecution.isSome then workflowKeys else legacyKeys) := by
  have hperm : (loadedClaim env args profile).Perm (canonicalFields (accountingClaim env args profile)) := List.perm_insertionSort _ _
  rw [← @names_accountingClaim env profile args, ← Json.names_canonicalFields (accountingClaim env args profile)]
  exact hperm.map _

theorem Signed.field_loadedClaim (h : Signed env args profile) {name : String} {v : Value}
    (hv : get? (accountingClaim env args (sorted profile)) name = some v) : field (loadedClaim env args profile) name = v :=
  field_eq ((h.get?_loadedClaim name).trans hv)

theorem isIdentity_strip {s : Text} (h : strip s ≠ []) : isIdentity (.str (strip s)) = true := by
  rw [isIdentity, strip_strip]
  exact bne_iff_ne.2 h

/-- The text that an identity of a call is looked up as. -/
theorem Signed.isIdentity_loadedClaim (h : Signed env args profile) {name : String} {s : Text}
    (hv : get? (accountingClaim env args (sorted profile)) name = some (.str (strip s))) (hs : strip s ≠ []) :
    isIdentity (field (loadedClaim env args profile) name) = true := by
  rw [h.field_loadedClaim hv]
  exact isIdentity_strip hs

/-- The claim that is read has the keys that it should, and no identity in it is blank. -/
theorem Signed.checkKeys (h : Signed env args profile) (hcomplete : Complete env args) :
    Accounting.checkKeys env (loadedClaim env args profile) = true := by
  have hv : field (loadedClaim env args profile) "v" = .int (if args.workflowExecution.isSome then 2 else 1) :=
    h.field_loadedClaim rfl
  have hversion : number? env (field (loadedClaim env args profile) "v") =
      some (.finite (if args.workflowExecution.isSome then 2 else 1)) := by
    rw [hv]
    split <;> rfl
  have hkeys : (if number? env (field (loadedClaim env args profile) "v") = some (.finite 2) then workflowKeys else legacyKeys) =
      if args.workflowExecution.isSome then workflowKeys else legacyKeys := by
    rw [hversion]
    split <;> simp
  have hnames := h.names_loadedClaim
  have hidentities : ∀ key ∈ if args.workflowExecution.isSome then workflowKeys else legacyKeys,
      (numericKeys.contains key || isIdentity (field (loadedClaim env args profile) key)) = true := by
    have hidentity : ∀ {key : String} {s : Text}, get? (accountingClaim env args (sorted profile)) key = some (.str (strip s)) →
        strip s ≠ [] → (numericKeys.contains key || isIdentity (field (loadedClaim env args profile) key)) = true := by
      intro key s hkey hs
      rw [h.isIdentity_loadedClaim hkey hs, Bool.or_true]
    have hprovider : get? (accountingClaim env args (sorted profile)) "provider" = some (.str (strip (env.lower args.provider))) := by
      rw [env.strip_lower]
      rfl
    have hlegacy : ∀ key ∈ legacyKeys, (numericKeys.contains key || isIdentity (field (loadedClaim env args profile) key)) = true := by
      simp only [legacyKeys, List.forall_mem_cons]
      refine ⟨rfl, hidentity rfl hcomplete.userId, hidentity rfl hcomplete.routeId, hidentity rfl hcomplete.routeName,
        hidentity rfl h.normal.modelId_normal.2, hidentity hprovider ?_, rfl, rfl, hidentity rfl hcomplete.routingCallId,
        List.forall_mem_nil _⟩
      rw [env.strip_lower]
      exact h.normal.provider_normal.2
    cases hexecution : args.workflowExecution with
    | none => exact hlegacy
    | some execution =>
      have hclaim : ∀ name, get? (workflowClaim env args.workflowExecution) name = get? (workflowClaim env (some execution)) name := by
        rw [hexecution]
        exact fun _ => rfl
      obtain ⟨hrun, hscope, hreservation⟩ := hcomplete.workflow execution hexecution
      simp only [Option.isSome_some, if_true, workflowKeys, List.forall_mem_append, List.forall_mem_cons]
      refine ⟨hlegacy, hidentity (hclaim _) hrun, hidentity (hclaim _) hscope, hidentity (hclaim _) hreservation, rfl, rfl,
        List.forall_mem_nil _⟩
  simp only [Accounting.checkKeys, hkeys, Bool.and_eq_true, List.all_eq_true]
  refine ⟨⟨⟨?_, ?_⟩, ?_⟩, hidentities⟩
  · intro p hp
    exact List.contains_iff_mem.2 (hnames.mem_iff.1 (List.mem_map_of_mem hp))
  · intro key hkey
    rw [← @names_accountingClaim env (sorted profile)] at hkey
    obtain ⟨⟨name, v⟩, hmem, rfl⟩ := List.mem_map.1 hkey
    rw [h.get?_loadedClaim, (Json.get?_eq_some_iff nodup_accountingClaim).2 hmem]
    rfl
  · rw [hversion]
    split <;> simp

/-! ## The checks of a claim that was read -/

theorem orInvalid_ok_iff {α : Type} {x : Option α} {a : α} : orInvalid x = .ok a ↔ x = some a := by
  cases x <;> simp [orInvalid]

/-- A field that is assigned the value it has stays as it is. -/
theorem get?_set_same {fields : Fields} {name : String} {v : Value} (h : get? fields name = some v) (k : String) :
    get? (Json.set fields name v) k = get? fields k := by
  rw [get?_set]
  split
  · rename_i hk
    rw [← hk, h]
  · rfl

theorem checkWorkflow_ok_iff {claim claim' : Fields} {tokens : Int} {limit : PyFloat}
    (htokens : field claim "max_output_tokens" = .int tokens) (hlimit : field claim "call_limit_usd" = ofFloat env limit) :
    checkWorkflow env claim = .ok claim' ↔
      (0 < tokens ∧ ∃ x, limit = .finite x ∧ 0 < x) ∧ claim' = Json.set claim "call_limit_usd" (ofFloat env limit) := by
  unfold checkWorkflow
  rw [htokens, hlimit, finiteProfileNumber_ofFloat]
  cases limit with
  | infinity => simp
  | finite x =>
    by_cases hx : x ≤ 0
    · simp [hx]
    · by_cases hn : tokens ≤ 0
      · simp [hx, hn]
      · simp [hx, hn, not_le.1 hx, not_le.1 hn, eq_comm]

/-- The limits of a reservation that a claim is verified with. -/
def HasLimits (args : TokenArguments) : Prop :=
  ∀ execution ∈ args.workflowExecution, 0 < execution.maxOutputTokens ∧ ∃ x, execution.callLimitUsd = .finite x ∧ 0 < x

theorem field_set (fields : Fields) (name : String) (v : Value) (k : String) :
    field (Json.set fields name v) k = if name = k then v else field fields k := by
  rw [field, get?_set]
  split <;> rfl

/-- A claim with its weight and its provider as they are returned. -/
def normalizedClaim (env : Env) (claim : Fields) (weight : ℚ) : Fields :=
  Json.set (Json.set claim "request_weight" (ofFloat env (.finite weight))) "provider"
    (.str (env.lower (pyStr env (field claim "provider"))))

/-- The limits of a claim, checked where it has them. -/
def checkLimits (env : Env) (claim : Fields) (weight : ℚ) : Except TokenError Fields :=
  if number? env (field claim "v") = some (.finite 2) then checkWorkflow env (normalizedClaim env claim weight)
  else .ok (normalizedClaim env claim weight)

/-- What is checked of a claim, in the order of the checks. -/
theorem checkClaim_ok_iff {claim result : Fields} :
    checkClaim env claim = .ok result ↔
      checkKeys env claim = true ∧ ∃ weight profile,
        finiteProfileNumber env (field claim "request_weight") true = some weight ∧
        signedAccountingModelProfile env (field claim "model_profile") (env.lower (pyStr env (field claim "provider"))) = .ok profile ∧
        sameFields env profile (field claim "model_profile") = true ∧
        compareDigest (pyStr env (field profile "model_id")) (pyStr env (field claim "model_id")) = .ok true ∧
        ∃ claim', checkLimits env claim weight = .ok claim' ∧ result = Json.set claim' "model_profile" (.obj profile) := by
  unfold checkClaim
  simp only [bind_ok_iff, check_ok_iff, orInvalid_ok_iff, toOption_eq_some_iff, field_set, String.reduceEq, if_false,
    Bool.not_eq_true', Bool.not_eq_false]
  constructor
  · rintro ⟨hkeys, weight, hweight, profile, hprofile, hsame, same, hidentity, hequal, hlast⟩
    refine ⟨hkeys, weight, profile, hweight, hprofile, hsame, hequal ▸ hidentity, ?_⟩
    split at hlast
    · rename_i hv
      obtain ⟨claim', hclaim', hresult⟩ := bind_ok hlast
      exact ⟨claim', (if_pos hv).trans hclaim', (Except.ok.inj hresult).symm⟩
    · rename_i hv
      exact ⟨_, if_neg hv, (Except.ok.inj hlast).symm⟩
  · rintro ⟨hkeys, weight, profile, hweight, hprofile, hsame, hidentity, claim', hclaim', hresult⟩
    refine ⟨hkeys, weight, hweight, profile, hprofile, hsame, true, hidentity, rfl, ?_⟩
    unfold checkLimits at hclaim'
    split at hclaim'
    · rename_i hv
      rw [if_pos hv]
      exact bind_ok_iff.2 ⟨claim', hclaim', congrArg Except.ok hresult.symm⟩
    · rename_i hv
      rw [if_neg hv, hresult, ← Except.ok.inj hclaim']
      rfl

theorem Signed.number?_version (h : Signed env args profile) :
    number? env (field (loadedClaim env args profile) "v") = some (.finite (if args.workflowExecution.isSome then 2 else 1)) := by
  have hv : field (loadedClaim env args profile) "v" = .int (if args.workflowExecution.isSome then 2 else 1) :=
    h.field_loadedClaim rfl
  rw [hv]
  split <;> rfl

theorem Signed.field_provider (h : Signed env args profile) :
    field (loadedClaim env args profile) "provider" = .str (env.lower (strip args.provider)) :=
  h.field_loadedClaim rfl

theorem Signed.lower_provider (h : Signed env args profile) :
    env.lower (pyStr env (field (loadedClaim env args profile) "provider")) = env.lower (strip args.provider) := by
  rw [h.field_provider]
  exact env.lower_lower _

theorem Signed.get?_requestWeight (h : Signed env args profile) {weight : ℚ}
    (hweight : finiteProfileNumber env args.requestWeight true = some weight) :
    get? (loadedClaim env args profile) "request_weight" = some (ofFloat env (.finite weight)) := by
  have hget : get? (accountingClaim env args (sorted profile)) "request_weight" =
      some (ofNumber? env (finiteProfileNumber env args.requestWeight true)) := rfl
  rw [h.get?_loadedClaim, hget, hweight]
  rfl

/-- The weight and the provider of a claim that was read are as they are returned. -/
theorem Signed.get?_normalizedClaim (h : Signed env args profile) {weight : ℚ}
    (hweight : finiteProfileNumber env args.requestWeight true = some weight) (name : String) :
    get? (normalizedClaim env (loadedClaim env args profile) weight) name = get? (loadedClaim env args profile) name := by
  have hprovider : get? (loadedClaim env args profile) "provider" = some (.str (env.lower (strip args.provider))) := by
    rw [h.get?_loadedClaim]
    rfl
  rw [normalizedClaim, h.lower_provider, get?_set_same, get?_set_same (h.get?_requestWeight hweight)]
  rw [get?_set_same (h.get?_requestWeight hweight), hprovider]

/-- The limits of a claim that was read are returned as they are, if they are limits at all. -/
theorem Signed.checkLimits_iff (h : Signed env args profile) {weight : ℚ}
    (hweight : finiteProfileNumber env args.requestWeight true = some weight) :
    ((∃ claim, checkLimits env (loadedClaim env args profile) weight = .ok claim) ↔ HasLimits args) ∧
      ∀ claim, checkLimits env (loadedClaim env args profile) weight = .ok claim →
        ∀ name, get? claim name = get? (loadedClaim env args profile) name := by
  have hsame := h.get?_normalizedClaim hweight
  rw [checkLimits, h.number?_version]
  cases hexecution : args.workflowExecution with
  | none =>
    have hversion : ¬some (PyFloat.finite (if (none : Option WorkflowExecution).isSome then 2 else 1)) = some (.finite 2) := by simp
    rw [if_neg hversion]
    refine ⟨⟨fun _ => ?_, fun _ => ⟨_, rfl⟩⟩, ?_⟩
    · intro execution hmem
      rw [hexecution] at hmem
      cases hmem
    · rintro claim hclaim name
      rw [← Except.ok.inj hclaim, hsame]
  | some execution =>
    have hclaimed : ∀ {name : String} {v : Value}, get? (workflowClaim env (some execution)) name = some v →
        get? (accountingClaim env args (sorted profile)) name = get? (workflowClaim env args.workflowExecution) name →
        get? (normalizedClaim env (loadedClaim env args profile) weight) name = some v := by
      intro name v hv hlast
      rw [hsame, h.get?_loadedClaim, hlast, hexecution, hv]
    have htokens := @hclaimed "max_output_tokens" _ rfl rfl
    have hlimit := @hclaimed "call_limit_usd" _ rfl rfl
    rw [if_pos (by simp)]
    have hcheck := fun claim => @checkWorkflow_ok_iff env _ claim _ _ (field_eq htokens) (field_eq hlimit)
    refine ⟨?_, ?_⟩
    · simp only [hcheck, exists_and_left, exists_eq, and_true]
      constructor
      · intro hlimits execution' hmem
        rw [hexecution] at hmem
        cases hmem
        exact hlimits
      · exact fun hlimits => hlimits execution hexecution
    · intro claim hclaim name
      rw [((hcheck claim).1 hclaim).2, get?_set_same hlimit, hsame]

theorem finiteProfileNumber_of_pos {x : ℚ} (h : 0 < x) : finiteProfileNumber env (ofFloat env (.finite x)) true = some x := by
  rw [finiteProfileNumber_ofFloat]
  simp [h]

theorem set_accountingClaim (profile profile' : Fields) :
    Json.set (accountingClaim env args profile) "model_profile" (.obj profile') = accountingClaim env args profile' := rfl

theorem Signed.signed_sorted (h : Signed env args profile) (hfinite : Finite env profile) :
    ∃ profile', signedAccountingModelProfile env (.obj (sorted profile)) (env.lower (strip args.provider)) = .ok profile' ∧
      (profile'.map (·.1)).Nodup ∧ ∀ name, get? profile' name = get? (sorted profile) name := by
  refine h.normal.sorted.signed ((finite_sorted h.normal.nodup).2 hfinite) ?_
  rw [env.strip_lower, strip_strip, env.lower_lower]

theorem get?_sorted (h : (profile.map (·.1)).Nodup) (name : String) : get? (sorted profile) name = get? profile name :=
  (Json.get?_perm (List.perm_insertionSort _ _).symm h name).symm

/-- Of a claim that was read, what is returned is the claim that was signed. -/
theorem Signed.of_checkClaim (h : Signed env args profile) (hcomplete : Complete env args) {claim : Fields}
    (hclaim : checkClaim env (loadedClaim env args profile) = .ok claim) :
    Finite env profile ∧ HasLimits args ∧ IsClaimOf env args profile claim := by
  obtain ⟨weight, hweight⟩ := hcomplete.requestWeight
  obtain ⟨hlimits, hfields⟩ := h.checkLimits_iff hweight
  obtain ⟨-, weight', profile', hweight', hsigned, -, -, claim', hclaim', rfl⟩ := checkClaim_ok_iff.1 hclaim
  have hloaded : field (loadedClaim env args profile) "model_profile" = .obj (sorted profile) := h.field_loadedClaim rfl
  have hsame : weight' = weight := by
    rw [field_eq (h.get?_requestWeight hweight), finiteProfileNumber_of_pos (finiteProfileNumber_pos hweight)] at hweight'
    exact (Option.some.inj hweight').symm
  subst hsame
  rw [hloaded, h.lower_provider] at hsigned
  have hfinite : Finite env profile := by
    rw [← finite_sorted h.normal.nodup]
    by_contra hinfinite
    have hnone := h.normal.sorted.not_signed hinfinite (env.lower (strip args.provider))
    rw [hsigned] at hnone
    cases hnone
  refine ⟨hfinite, hlimits.1 ⟨claim', hclaim'⟩, profile', ?_, ?_⟩
  · obtain ⟨profile'', hsigned', -, hget⟩ := h.signed_sorted hfinite
    obtain rfl := Except.ok.inj (hsigned.symm.trans hsigned')
    intro name
    rw [hget, get?_sorted h.normal.nodup]
  · intro name
    rw [get?_set, hfields claim' hclaim', h.get?_loadedClaim, ← set_accountingClaim (sorted profile) profile', get?_set]

/-- A claim that was read is verified when its prices are finite and it has limits. -/
theorem Signed.checkClaim_ok (h : Signed env args profile) (hcomplete : Complete env args) (hfinite : Finite env profile)
    (hlimits : HasLimits args) : ∃ claim, checkClaim env (loadedClaim env args profile) = .ok claim := by
  obtain ⟨weight, hweight⟩ := hcomplete.requestWeight
  obtain ⟨claim', hclaim'⟩ := (h.checkLimits_iff hweight).1.2 hlimits
  obtain ⟨profile', hsigned, hnodup, hget⟩ := h.signed_sorted hfinite
  have hloaded : field (loadedClaim env args profile) "model_profile" = .obj (sorted profile) := h.field_loadedClaim rfl
  have hmodel : field (loadedClaim env args profile) "model_id" = .str (strip args.modelId) := h.field_loadedClaim rfl
  have hmodel' : field profile' "model_id" = .str (strip args.modelId) := by
    rw [field_eq ((hget _).trans h.normal.sorted.get?_modelId)]
  refine ⟨_, checkClaim_ok_iff.2 ⟨h.checkKeys hcomplete, weight, profile', ?_, ?_, ?_, ?_, claim', hclaim', rfl⟩⟩
  · rw [field_eq (h.get?_requestWeight hweight), finiteProfileNumber_of_pos (finiteProfileNumber_pos hweight)]
  · rw [hloaded, h.lower_provider, hsigned]
  · rw [hloaded]
    exact h.normal.sorted.sameFields hnodup hget
  · rw [hmodel, hmodel', compareDigest_ok_iff]
    exact ⟨h.ascii, h.ascii, (beq_self_eq_true _).symm⟩

/-! ## Verifying a token -/

/-- The condition under which what is left of a claim, once its signature is checked, is verified. -/
theorem verify_ok_iff {token : Text} {claim : Fields} :
    verifyAccountingToken env token = .ok claim ↔
      ¬(strip token = [] ∨ 8192 < token.length) ∧
        ∃ fields, signedClaim env token = .ok (.obj fields) ∧ checkClaim env fields = .ok claim := by
  unfold verifyAccountingToken
  simp only [bind_ok_iff, check_ok_iff]
  refine and_congr_right fun _ => ?_
  constructor
  · rintro ⟨v, hv, hclaim⟩
    cases v with
    | obj fields => exact ⟨fields, hv, hclaim⟩
    | _ => cases hclaim
  · rintro ⟨fields, hfields, hclaim⟩
    exact ⟨.obj fields, hfields, hclaim⟩

theorem tokenText_ne_nil (secret : Bytes) (claim : Fields) : tokenText env secret claim ≠ [] := by
  simp [tokenText]

/-- A token that was issued is verified when it is short enough and its claim passes its checks. -/
theorem Signed.verify_iff (h : Signed env args profile) {secret : Bytes} (hsecret : accountingSigningSecret env = .ok secret)
    {claim : Fields} :
    verifyAccountingToken env (tokenText env secret (accountingClaim env args profile)) = .ok claim ↔
      (dumps (.obj (accountingClaim env args profile))).length ≤ 6111 ∧
        checkClaim env (loadedClaim env args profile) = .ok claim := by
  rw [verify_ok_iff, strip_tokenText, signedClaim_tokenText hsecret h.wellFormed, ← @length_tokenText_le_iff env secret]
  simp [tokenText_ne_nil, loadedClaim]

end Accounting

end PromptRail
