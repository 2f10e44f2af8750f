import PromptRail.AccountingToken.Verified
import PromptRail.AccountingToken.Environment

/-!
# Tokens that are issued, and tokens that are verified

A token that was issued is verified with the fields it was issued with, unless it is too long, a price was found under another name
and is infinite, or a limit of its reservation is no positive number. Where no signature is forged, nothing else is verified.
-/

namespace PromptRail

namespace Accounting

open PyText (Text strip strip_strip encodeUtf8 decodeUtf8)
open Json (Fields Value get? dumps loads)
open Base64 (Bytes)
open Outcome (bind_ok_iff check_ok_iff)

variable {env : Env} {args : TokenArguments} {profile : Fields}

/-! ## The prices of a profile -/

theorem ofFloat_injective {x y : PyFloat} (h : ofFloat env x = ofFloat env y) : x = y := by
  have hread := congrArg (float? env) h
  rw [float?_ofFloat, float?_ofFloat] at hread
  exact Option.some.inj hread

/-- What a field of a model is signed with is finite. -/
theorem profileValue_ne_infinity {name : String} {v w : Value} (h : profileValue env name v = .ok (some w)) :
    w ≠ ofFloat env .infinity := by
  rintro rfl
  unfold profileValue at h
  split at h
  · split at h
    · cases h
    · have heq := ofFloat_injective (Option.some.inj (Except.ok.inj h))
      cases heq
  · split at h
    · split at h
      · cases h
      · cases h
    · have hsome := Except.ok.inj h
      split at hsome
      · cases hsome
      · cases hsome

/-- The cache prices that are not looked for under their own names are finite. -/
def FinitePrices (env : Env) (model : Fields) : Prop :=
  ∀ key : CacheKey, field model key.fieldName = .null → modelCachePricePerMillion env model key ≠ .infinity

theorem cacheField_fieldName (model : Fields) (key : CacheKey) : cacheField env model key.fieldName = cachePrice? env model key := by
  cases key <;> simp [cacheField, CacheKey.fieldName]

theorem profileField_number {model : Fields} {name : String} (hname : name ∈ numberFields)
    (h : profileField env model name = .ok none) : field model name = .null := by
  unfold profileField at h
  split at h
  · assumption
  · unfold profileValue at h
    rw [if_pos hname] at h
    split at h <;> cases h

theorem finite_iff {model : Fields} {provider : Text} (h : signedAccountingModelProfile env (.obj model) provider = .ok profile) :
    Finite env profile ↔ FinitePrices env model := by
  obtain ⟨head, -, -, -, heach⟩ := signed_ok h
  constructor
  · intro hfinite key hnull hinfinity
    have hname : key.fieldName ∈ accountingModelProfileFields := by cases key <;> decide
    obtain ⟨v, hv, hget⟩ := heach key.fieldName hname
    refine hfinite key.fieldName hname ?_
    rw [profileField, hnull] at hv
    rw [hget, ← Except.ok.inj hv, Option.none_or, cacheField_fieldName, cachePrice?, hinfinity]
    rfl
  · intro hprices name hname hget
    obtain ⟨v, hv, hgetv⟩ := heach name hname
    rw [hgetv] at hget
    cases v with
    | some w =>
      cases hget
      unfold profileField at hv
      split at hv
      · cases hv
      · exact profileValue_ne_infinity hv rfl
    | none =>
      -- The price was found by the search for cache prices, under a name of its own that the model leaves out.
      have hkey : ∃ key : CacheKey, key.fieldName = name := by
        by_contra hnone
        simp only [not_exists] at hnone
        rw [Option.none_or, cacheField, if_neg (hnone .write), if_neg (hnone .read)] at hget
        cases hget
      obtain ⟨key, rfl⟩ := hkey
      have hnull := profileField_number (by cases key <;> decide) hv
      rw [Option.none_or, cacheField_fieldName, cachePrice?] at hget
      split at hget
      · exact hprices key hnull (ofFloat_injective (Option.some.inj hget))
      · cases hget

/-! ## Issuing -/

theorem signed_of_issue {model : Value} {provider : Text} (hprovider : env.lower (strip args.provider) = provider)
    (h : signedAccountingModelProfile env model provider = .ok profile) (hmodel : pyStr env (field profile "model_id") = strip args.modelId)
    (hascii : ∀ c ∈ strip args.modelId, c.toNat < 128) : Signed env args profile := by
  cases model with
  | obj model =>
    subst hprovider
    have hnormal := normal_of_signed h
    rw [field_eq hnormal.get?_modelId] at hmodel
    have hprovider : env.lower (strip (env.lower (strip args.provider))) = env.lower (strip args.provider) := by
      rw [env.strip_lower, strip_strip, env.lower_lower]
    have hid : strip (strOr env (field model "model_id")) = strip args.modelId := hmodel
    rw [hprovider, hid] at hnormal
    exact ⟨hnormal, hascii⟩
  | _ => cases h

/-- The claim has the fields that a call has signed. -/
def IsIssuedClaim (env : Env) (args : TokenArguments) (claim : Fields) : Prop :=
  ∃ profile, signedAccountingModelProfile env args.modelProfile (env.lower (strip args.provider)) = .ok profile ∧
    IsClaimOf env args profile claim

/-- The calls whose tokens are verified. -/
structure Verifiable (env : Env) (args : TokenArguments) : Prop where
  length : ∀ profile, signedAccountingModelProfile env args.modelProfile (env.lower (strip args.provider)) = .ok profile →
    (dumps (.obj (accountingClaim env args profile))).length ≤ 6111
  prices : ∀ model, args.modelProfile = .obj model → FinitePrices env model
  limits : HasLimits args

theorem finite_signed_iff {provider : Text} (h : signedAccountingModelProfile env args.modelProfile provider = .ok profile) :
    Finite env profile ↔ ∀ model, args.modelProfile = .obj model → FinitePrices env model := by
  cases hmodel : args.modelProfile with
  | obj model =>
    rw [hmodel] at h
    rw [finite_iff h]
    constructor
    · rintro hprices model' heq
      cases heq
      exact hprices
    · exact fun hprices => hprices model rfl
  | _ => rw [hmodel] at h; cases h

/-- A token that was issued and is verified has the fields it was issued with, and its call is one whose tokens are verified. -/
theorem verified_of_issued {token : Text} {claim : Fields} (h : issueAccountingToken env args = .ok token)
    (hclaim : verifyAccountingToken env token = .ok claim) : Verifiable env args ∧ IsIssuedClaim env args claim := by
  obtain ⟨profile, secret, hprofile, ⟨hmodel, hascii⟩, hcomplete, hsecret, htoken⟩ := issue_ok_iff.1 h
  rw [htoken] at hclaim
  have hsigned := signed_of_issue rfl hprofile hmodel hascii
  obtain ⟨hlength, hcheck⟩ := (hsigned.verify_iff hsecret).1 hclaim
  obtain ⟨hprices, hlimits, hissued⟩ := hsigned.of_checkClaim hcomplete hcheck
  refine ⟨⟨fun profile' h' => ?_, (finite_signed_iff hprofile).1 hprices, hlimits⟩, profile, hprofile, hissued⟩
  rwa [Except.ok.inj (h'.symm.trans hprofile)]

/-- What verification needs of a call is what it returns of it. -/
theorem verify_issued_iff {token : Text} (h : issueAccountingToken env args = .ok token) :
    (∃ claim, verifyAccountingToken env token = .ok claim ∧ IsIssuedClaim env args claim) ↔ Verifiable env args := by
  constructor
  · rintro ⟨claim, hclaim, -⟩
    exact (verified_of_issued h hclaim).1
  · intro hverifiable
    obtain ⟨profile, secret, hprofile, ⟨hmodel, hascii⟩, hcomplete, hsecret, htoken⟩ := issue_ok_iff.1 h
    have hsigned := signed_of_issue rfl hprofile hmodel hascii
    have hfinite := (finite_signed_iff hprofile).2 hverifiable.prices
    obtain ⟨claim, hclaim⟩ := hsigned.checkClaim_ok hcomplete hfinite hverifiable.limits
    have hverified : verifyAccountingToken env token = .ok claim := by
      rw [htoken]
      exact (hsigned.verify_iff hsecret).2 ⟨hverifiable.length profile hprofile, hclaim⟩
    exact ⟨claim, hverified, (verified_of_issued h hverified).2⟩

/-! ## Signatures -/

/-- A token carries the signature of its payload. -/
def HasSignature (env : Env) (token : Text) (payload : Bytes) : Prop :=
  ∃ payloadPart signaturePart secret, splitToken (strip token) = some (payloadPart, signaturePart) ∧
    base64urlDecode payloadPart = some payload ∧ base64urlDecode signaturePart = some (sign env secret payload) ∧
    accountingSigningSecret env = .ok secret

/-- No signature is forged: what a token is signed for was signed when one of the calls `issued` was answered. -/
def Unforged (env : Env) (issued : TokenArguments → Prop) (token : Text) : Prop :=
  ∀ payload, HasSignature env token payload →
    ∃ args issuedToken, issued args ∧ issueAccountingToken env args = .ok issuedToken ∧ HasSignature env issuedToken payload

/-- A claim is read from the payload of a token, which its signature is for. -/
theorem signedClaim_ok {token : Text} {v : Value} (h : signedClaim env token = .ok v) :
    ∃ payload, HasSignature env token payload ∧ ∃ text, decodeUtf8 payload = some text ∧ loads text = some v := by
  unfold signedClaim at h
  simp only [bind_ok_iff, check_ok_iff, orInvalid_ok_iff, ne_eq, not_not] at h
  obtain ⟨⟨payloadPart, signaturePart⟩, hsplit, payload, hpayload, signature, hsignature, secret, hsecret, rfl, text, htext, hv⟩ := h
  exact ⟨payload, ⟨payloadPart, signaturePart, secret, hsplit, hpayload, hsignature, hsecret⟩, text, htext, hv⟩

/-- What a token that was issued is signed for is its claim. -/
theorem payload_of_tokenText {secret payload : Bytes} {claim : Fields} (h : HasSignature env (tokenText env secret claim) payload) :
    payload = encodeUtf8 (dumps (.obj claim)) := by
  obtain ⟨payloadPart, signaturePart, -, hsplit, hpayload, -, -⟩ := h
  rw [strip_tokenText, splitToken_tokenText] at hsplit
  cases hsplit
  rw [base64urlDecode_encode] at hpayload
  exact (Option.some.inj hpayload).symm

/-- Where no signature is forged, what is verified was issued. -/
theorem isIssuedClaim_of_verify {issued : TokenArguments → Prop} {token : Text} {claim : Fields}
    (hunforged : Unforged env issued token) (h : verifyAccountingToken env token = .ok claim) :
    ∃ args, issued args ∧ IsIssuedClaim env args claim := by
  obtain ⟨-, fields, hfields, hcheck⟩ := verify_ok_iff.1 h
  obtain ⟨payload, hsignature, text, htext, hloads⟩ := signedClaim_ok hfields
  obtain ⟨args, issuedToken, hissued, htoken, hown⟩ := hunforged payload hsignature
  obtain ⟨profile, secret, hprofile, ⟨hmodel, hascii⟩, hcomplete, -, heq⟩ := issue_ok_iff.1 htoken
  have hsigned := signed_of_issue rfl hprofile hmodel hascii
  rw [heq] at hown
  have hclaim : fields = loadedClaim env args profile := by
    rw [payload_of_tokenText hown, PyText.decodeUtf8_encodeUtf8] at htext
    rw [← Option.some.inj htext, Json.loads_dumps hsigned.wellFormed] at hloads
    cases hloads
    rfl
  rw [hclaim] at hcheck
  exact ⟨args, hissued, profile, hprofile, (hsigned.of_checkClaim hcomplete hcheck).2.2⟩

/-- A model with its prices. -/
def pricedModel : Fields :=
  [("model_id", .str ['g', 'p', 't', '-', '5']), ("input_price_per_million", .int 1), ("output_price_per_million", .int 10)]

/-- A call that names the route `routeName`. -/
def namedCall (routeName : Text) : TokenArguments where
  userId := "user-1".toList
  routeId := "route-1".toList
  routeName := routeName
  modelId := ['g', 'p', 't', '-', '5']
  provider := ['o', 'p', 'e', 'n', 'a', 'i']
  modelProfile := .obj pricedModel
  requestWeight := .int 1
  routingCallId := "lerouter-1".toList
  workflowExecution := none

/-- The secret, and what it signs the claim of `namedCall` with for the name `Support`. -/
def supportEnvironment : Env :=
  environment "secret".toList #v[41, 149, 64, 98, 214, 153, 2, 223, 87, 17, 52, 26, 252, 164, 150, 116, 112, 217, 7, 219, 241, 223,
    116, 164, 9, 48, 117, 76, 232, 38, 108, 198]

theorem signed_pricedModel :
    signedAccountingModelProfile supportEnvironment (.obj pricedModel) (supportEnvironment.lower (strip ['o', 'p', 'e', 'n', 'a', 'i'])) =
      .ok (headFields supportEnvironment ['g', 'p', 't', '-', '5'] ['o', 'p', 'e', 'n', 'a', 'i'] 1 10) := by
  rfl

/-- The profile of `pricedModel`. -/
def pricedProfile : Fields := headFields supportEnvironment ['g', 'p', 't', '-', '5'] ['o', 'p', 'e', 'n', 'a', 'i'] 1 10

/-- Whatever the name of its route, a call that names one is answered. -/
theorem issue_namedCall {routeName : Text} (h : strip routeName ≠ []) :
    ∃ token, issueAccountingToken supportEnvironment (namedCall routeName) = .ok token := by
  have hmodel : (strip ['g', 'p', 't', '-', '5']).all (fun c => decide (c.toNat < 128)) = true := by decide
  have huser : strip "user-1".toList ≠ [] := by decide
  have hroute : strip "route-1".toList ≠ [] := by decide
  have hcall : strip "lerouter-1".toList ≠ [] := by decide
  have hcomplete : Complete supportEnvironment (namedCall routeName) :=
    ⟨huser, hroute, h, hcall, ⟨1, rfl⟩, fun _ hnone => nomatch hnone⟩
  exact ⟨_, issue_ok_iff.2 ⟨pricedProfile, _, signed_pricedModel,
    ⟨rfl, fun c hc => of_decide_eq_true (List.all_eq_true.1 hmodel c hc)⟩, hcomplete, rfl, rfl⟩⟩

/-- A call whose route has a longer name than a token can have is answered with a token that is not verified. -/
theorem namedCall_not_verified {routeName : Text} (h : 6111 < (strip routeName).length) :
    ∃ token, issueAccountingToken supportEnvironment (namedCall routeName) = .ok token ∧
      ¬∃ claim, verifyAccountingToken supportEnvironment token = .ok claim ∧
        IsIssuedClaim supportEnvironment (namedCall routeName) claim := by
  have hne : strip routeName ≠ [] := by
    intro hnil
    rw [hnil] at h
    exact absurd h (by decide)
  obtain ⟨token, htoken⟩ := issue_namedCall hne
  refine ⟨token, htoken, fun hverified => ?_⟩
  have hlength := ((verify_issued_iff htoken).1 hverified).length pricedProfile signed_pricedModel
  have hmem : ("route_name", Value.str (strip routeName)) ∈
      accountingClaim supportEnvironment (namedCall routeName) pricedProfile := by
    simp [accountingClaim, namedCall]
  have hdumps : (dumps (.str (strip routeName))).length ≤
      (dumps (.obj (accountingClaim supportEnvironment (namedCall routeName) pricedProfile))).length := Json.length_dumps_le hmem
  have hvalue := Json.length_le_dumps_str (strip routeName)
  omega

end Accounting

end PromptRail
