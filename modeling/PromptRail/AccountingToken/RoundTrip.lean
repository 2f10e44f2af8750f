import PromptRail.AccountingToken.Profile

/-!
# A token that was issued is verified

The text of a token is taken apart into the claim that was signed, in which every field is as it was. What is left of verification
are its length and, of the profile, that no price is infinite.
-/

namespace PromptRail

namespace Accounting

open PyText (Text strip strip_strip strip_of_noSpace isSpace encodeUtf8 decodeUtf8)
open Json (Fields Value WellFormed get? dumps loads sorted canonical canonicalFields get?_loaded)
open Base64 (Bytes)
open Outcome (bind_ok ok_bind bind_ok_iff check_ok_iff)

variable {env : Env}

/-! ## The text of a token -/

theorem splitToken_append {a : Text} (h : ∀ c ∈ a, c ≠ '.') (b : Text) : splitToken (a ++ '.' :: b) = some (a, b) := by
  have hwhile : ∀ c ∈ a, (c != '.') = true := fun c hc => bne_iff_ne.2 (h c hc)
  have htake : (a ++ '.' :: b).takeWhile (· != '.') = a := by
    rw [List.takeWhile_append_of_pos hwhile]
    simp
  have hdrop : (a ++ '.' :: b).dropWhile (· != '.') = '.' :: b := by
    rw [List.dropWhile_append_of_pos hwhile]
    simp
  rw [splitToken, hdrop, htake]

@[simp] theorem base64urlDecode_encode (bytes : Bytes) : base64urlDecode (base64urlEncode bytes) = some bytes :=
  Base64.decode_encode bytes

theorem tokenText_noSpace (secret : Bytes) (claim : Fields) : ∀ c ∈ tokenText env secret claim, isSpace c = false := by
  intro c hc
  rcases List.mem_append.1 hc with hc | hc
  · exact (Base64.isDigit_of_mem_encode hc).2.2.2
  · rcases List.mem_cons.1 hc with rfl | hc
    · rfl
    · exact (Base64.isDigit_of_mem_encode hc).2.2.2

theorem strip_tokenText (secret : Bytes) (claim : Fields) : strip (tokenText env secret claim) = tokenText env secret claim :=
  strip_of_noSpace (tokenText_noSpace secret claim)

/-- A token is four characters for three of the claim, and those of the signature. -/
theorem length_tokenText (secret : Bytes) (claim : Fields) :
    (tokenText env secret claim).length = (4 * (dumps (.obj claim)).length + 2) / 3 + 44 := by
  have hascii : ∀ c ∈ dumps (.obj claim), c.toNat < 128 := fun c hc => Nat.lt_succ_of_lt (Json.ascii_dumps hc)
  have hpayload : (encodeUtf8 (dumps (.obj claim))).length = (dumps (.obj claim)).length := by
    rw [PyText.length_encodeUtf8, PyText.utf8Len_of_ascii hascii]
  simp only [tokenText, base64urlEncode, List.length_append, List.length_cons, Base64.length_encode, hpayload, sign,
    Vector.length_toList]

/-- The longest claim that a token may have. -/
theorem length_tokenText_le_iff (secret : Bytes) (claim : Fields) :
    (tokenText env secret claim).length ≤ 8192 ↔ (dumps (.obj claim)).length ≤ 6111 := by
  rw [length_tokenText]
  omega

theorem splitToken_tokenText (secret : Bytes) (claim : Fields) :
    splitToken (tokenText env secret claim) = some (base64urlEncode (encodeUtf8 (dumps (.obj claim))),
      base64urlEncode (sign env secret (encodeUtf8 (dumps (.obj claim))))) :=
  splitToken_append (fun _ hc => (Base64.isDigit_of_mem_encode hc).2.1) _

/-- The claim of a token is the one that was signed. -/
theorem signedClaim_tokenText {secret : Bytes} {claim : Fields} (hsecret : accountingSigningSecret env = .ok secret)
    (hclaim : WellFormed (.obj claim)) :
    signedClaim env (tokenText env secret claim) = .ok (.obj (sorted (canonicalFields claim))) := by
  have hloads : loads (dumps (.obj claim)) = some (.obj (sorted (canonicalFields claim))) := Json.loads_dumps hclaim
  rw [signedClaim, strip_tokenText, splitToken_tokenText]
  simp [orInvalid, ok_bind, hsecret, PyText.decodeUtf8_encodeUtf8, hloads]

/-! ## The claim that is issued -/

theorem wellFormed_ofFloat (x : PyFloat) : WellFormed (ofFloat env x) := .float (env.write_isFloat x)

theorem NormalValue.wellFormed {name : String} {v : Value} (h : NormalValue env name v) : WellFormed v := by
  cases h with
  | number _ => exact wellFormed_ofFloat _
  | flag _ _ => exact .bool _
  | text _ _ _ _ => exact .str _

theorem NormalValue.canonical {name : String} {v : Value} (h : NormalValue env name v) : Json.canonical v = v := by
  cases h <;> rfl

variable {modelId provider : Text} {profile : Fields}

/-- Each field of a profile in normal form is written in JSON, and read as it is. -/
theorem Normal.value (h : Normal env profile modelId provider) {p : String × Value} (hp : p ∈ profile) :
    WellFormed p.2 ∧ Json.canonical p.2 = p.2 := by
  obtain ⟨name, v⟩ := p
  have hv : get? profile name = some v := (Json.get?_eq_some_iff h.nodup).2 hp
  by_cases hname : name ∈ accountingModelProfileFields
  · exact ⟨(h.optional name hname v hv).wellFormed, (h.optional name hname v hv).canonical⟩
  · obtain ⟨inputPrice, outputPrice, -, hget⟩ := h.head
    rw [hget name hname] at hv
    have hmem := (Json.get?_eq_some_iff (nodup_headFields _ _ _ _)).1 hv
    simp only [headFields, List.mem_cons, Prod.mk.injEq, List.not_mem_nil, or_false] at hmem
    rcases hmem with ⟨-, rfl⟩ | ⟨-, rfl⟩ | ⟨-, rfl⟩ | ⟨-, rfl⟩
    · exact ⟨.str _, rfl⟩
    · exact ⟨.str _, rfl⟩
    · exact ⟨wellFormed_ofFloat _, rfl⟩
    · exact ⟨wellFormed_ofFloat _, rfl⟩

theorem Normal.canonicalFields (h : Normal env profile modelId provider) : Json.canonicalFields profile = profile := by
  rw [Json.canonicalFields_eq]
  conv_rhs => rw [← List.map_id profile]
  exact List.map_congr_left fun p hp => Prod.ext rfl (h.value hp).2

/-- The profile of a claim that was read is the one that was signed, in the order of its names. -/
theorem Normal.sorted (h : Normal env profile modelId provider) : Normal env (Json.sorted profile) modelId provider := by
  have hperm : profile.Perm (Json.sorted profile) := (List.perm_insertionSort _ _).symm
  have hget : ∀ name, get? (Json.sorted profile) name = get? profile name := fun name => (Json.get?_perm hperm h.nodup name).symm
  obtain ⟨inputPrice, outputPrice, hprices, hhead⟩ := h.head
  refine ⟨(hperm.map (·.1)).nodup_iff.1 h.nodup, h.modelId_normal, h.provider_normal, ?_, ?_⟩
  · exact ⟨inputPrice, outputPrice, hprices, fun name hname => (hget name).trans (hhead name hname)⟩
  · intro name hname v hv
    rw [hget] at hv
    exact h.optional name hname v hv

theorem finite_sorted (h : (profile.map (·.1)).Nodup) : Finite env (Json.sorted profile) ↔ Finite env profile := by
  have hperm : profile.Perm (Json.sorted profile) := (List.perm_insertionSort _ _).symm
  simp only [Finite, ← Json.get?_perm hperm h]

/-- What a claim needs beside a profile. -/
structure Complete (env : Env) (args : TokenArguments) : Prop where
  userId : strip args.userId ≠ []
  routeId : strip args.routeId ≠ []
  routeName : strip args.routeName ≠ []
  routingCallId : strip args.routingCallId ≠ []
  requestWeight : ∃ weight, finiteProfileNumber env args.requestWeight true = some weight
  workflow : ∀ execution ∈ args.workflowExecution, strip execution.workflowRunId ≠ [] ∧ strip execution.budgetScopeId ≠ [] ∧
    strip execution.reservationId ≠ []

variable {args : TokenArguments}

theorem names_accountingClaim : (accountingClaim env args profile).map (·.1) =
    if args.workflowExecution.isSome then workflowKeys else legacyKeys := by
  unfold accountingClaim
  cases args.workflowExecution <;> rfl

theorem nodup_accountingClaim : ((accountingClaim env args profile).map (·.1)).Nodup := by
  rw [names_accountingClaim]
  split <;> decide

@[simp] theorem isMissing_str (s : Text) : isMissing (.str s) = s.isEmpty := rfl

@[simp] theorem isMissing_obj (fields : Fields) : isMissing (.obj fields) = false := rfl

@[simp] theorem isMissing_int (n : Int) : isMissing (.int n) = false := rfl

@[simp] theorem isMissing_ofFloat (x : PyFloat) : isMissing (ofFloat env x) = false := rfl

@[simp] theorem isMissing_ofNumber? (x : Option ℚ) : isMissing (ofNumber? env x) = x.isNone := by
  cases x <;> rfl

/-- No part of a claim is missing exactly when it is complete: the profile has named the model and the provider. -/
theorem missing_eq_nil_iff (hmodel : strip args.modelId ≠ []) (hprovider : env.lower (strip args.provider) ≠ []) :
    ((accountingClaim env args profile).filter fun p => p.1 != "v" && isMissing p.2).map (·.1) = [] ↔ Complete env args := by
  rw [List.map_eq_nil_iff, List.filter_eq_nil_iff, accountingClaim, List.forall_mem_append]
  have hworkflow : (∀ p ∈ workflowClaim env args.workflowExecution, ¬(p.1 != "v" && isMissing p.2) = true) ↔
      ∀ execution ∈ args.workflowExecution, strip execution.workflowRunId ≠ [] ∧ strip execution.budgetScopeId ≠ [] ∧
        strip execution.reservationId ≠ [] := by
    cases args.workflowExecution <;> simp [workflowClaim]
  rw [hworkflow]
  constructor
  · rintro ⟨hown, hworkflow⟩
    have hparts : strip args.userId ≠ [] ∧ strip args.routeId ≠ [] ∧ strip args.routeName ≠ [] ∧
        (finiteProfileNumber env args.requestWeight true).isSome = true ∧ strip args.routingCallId ≠ [] := by
      simpa [hmodel, hprovider] using hown
    obtain ⟨huser, hroute, hname, hweight, hcall⟩ := hparts
    exact ⟨huser, hroute, hname, hcall, Option.isSome_iff_exists.1 hweight, hworkflow⟩
  · intro h
    obtain ⟨weight, hweight⟩ := h.requestWeight
    refine ⟨?_, h.workflow⟩
    simp [hmodel, hprovider, h.userId, h.routeId, h.routeName, h.routingCallId, hweight]

/-! ## Issuing -/

theorem compareDigest_ok_iff {a b : Text} {same : Bool} :
    compareDigest a b = .ok same ↔ (∀ c ∈ a, c.toNat < 128) ∧ (∀ c ∈ b, c.toNat < 128) ∧ same = (a == b) := by
  unfold compareDigest
  simp only [Bool.and_eq_true, List.all_eq_true, decide_eq_true_eq]
  split
  · rename_i h
    rw [Except.ok.injEq]
    exact ⟨fun hsame => ⟨h.1, h.2, hsame.symm⟩, fun hsame => hsame.2.2.symm⟩
  · rename_i h
    simp only [reduceCtorEq, false_iff]
    exact fun hascii => h ⟨hascii.1, hascii.2.1⟩

theorem accountingSigningSecret_ok_iff {secret : Bytes} :
    accountingSigningSecret env = .ok secret ↔
      strip env.internalServiceToken ≠ [] ∧ secret = encodeUtf8 (strip env.internalServiceToken) := by
  unfold accountingSigningSecret
  split
  · rename_i h
    simp [h]
  · rename_i h
    simp [h, eq_comm]

/-- A token is issued exactly when the model can be signed under the identity that it is issued for, no part of the claim is missing,
and there is a secret; it is the token of the claim. -/
theorem issue_ok_iff {token : Text} :
    issueAccountingToken env args = .ok token ↔
      ∃ profile secret, signedAccountingModelProfile env args.modelProfile (env.lower (strip args.provider)) = .ok profile ∧
        (pyStr env (field profile "model_id") = strip args.modelId ∧ ∀ c ∈ strip args.modelId, c.toNat < 128) ∧
        Complete env args ∧ accountingSigningSecret env = .ok secret ∧
        token = tokenText env secret (accountingClaim env args profile) := by
  have hidentity : ∀ {profile : Fields}, signedAccountingModelProfile env args.modelProfile (env.lower (strip args.provider)) =
      .ok profile → env.lower (strip args.provider) ≠ [] ∧ pyStr env (field profile "model_id") ≠ [] := by
    intro profile hsigned
    cases hmodel : args.modelProfile with
    | obj model =>
      rw [hmodel] at hsigned
      have hnormal := normal_of_signed hsigned
      refine ⟨fun hnil => hnormal.provider_normal.2 ?_, ?_⟩
      · rw [hnil]
        exact (env.lower_eq_nil _).2 rfl
      · rw [field_eq hnormal.get?_modelId]
        exact hnormal.modelId_normal.2
    | _ => rw [hmodel] at hsigned; cases hsigned
  unfold issueAccountingToken
  simp only [bind_ok_iff, check_ok_iff, compareDigest_ok_iff, ne_eq, not_not]
  constructor
  · rintro ⟨profile, hsigned, same, ⟨-, hascii, hsame⟩, hequal, hmissing, secret, hsecret, htoken⟩
    have hmodelId : pyStr env (field profile "model_id") = strip args.modelId := by simpa [hsame] using hequal
    obtain ⟨hprovider, hmodel⟩ := hidentity hsigned
    have hcomplete := (missing_eq_nil_iff (hmodelId ▸ hmodel) hprovider).1 hmissing
    exact ⟨profile, secret, hsigned, ⟨hmodelId, hascii⟩, hcomplete, hsecret, (Except.ok.inj htoken).symm⟩
  · rintro ⟨profile, secret, hsigned, ⟨hmodelId, hascii⟩, hcomplete, hsecret, htoken⟩
    obtain ⟨hprovider, hmodel⟩ := hidentity hsigned
    refine ⟨profile, hsigned, true, ?_, by simp, ?_, secret, hsecret, congrArg Except.ok htoken.symm⟩
    · rw [hmodelId]
      exact ⟨hascii, hascii, (beq_self_eq_true _).symm⟩
    · exact (missing_eq_nil_iff (hmodelId ▸ hmodel) hprovider).2 hcomplete

end Accounting

end PromptRail
