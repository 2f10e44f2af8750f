import PromptRail.AccountingToken
import PromptRail.Library.Outcome

/-!
# The normal form of a profile

What `signed_accounting_model_profile` returns is determined by what each of its fields is: the identity and the prices of the
model, and of every optional field its value. Signing a profile that is signed already gives the same fields, unless a cache price is
infinite: that one is signed when it was found under another name, and refused under its own.
-/

namespace PromptRail

namespace Accounting

open PyText (Text strip strip_strip)
open Json (Fields Value get? get?_set get?_eq_none nodup_set)
open Outcome (bind_ok)

variable {env : Env}

/-! ## Reading what was written -/

@[simp] theorem float?_ofFloat (x : PyFloat) : float? env (ofFloat env x) = some x := env.read_write x

@[simp] theorem number?_ofFloat (x : PyFloat) : number? env (ofFloat env x) = some x := env.read_write x

@[simp] theorem asFloat_ofFloat (x : PyFloat) : asFloat env (ofFloat env x) = x := by
  rw [asFloat, float?_ofFloat]
  rfl

@[simp] theorem asFloat_null : asFloat env .null = .finite 0 := rfl

theorem finiteProfileNumber_ofFloat (x : PyFloat) (positive : Bool) :
    finiteProfileNumber env (ofFloat env x) positive =
      match x with
      | .finite x => if positive ∧ x ≤ 0 then none else some x
      | .infinity => none := by
  simp only [finiteProfileNumber, ofFloat]
  rw [← ofFloat, float?_ofFloat]
  cases x <;> rfl

theorem finiteProfileNumber_pos {v : Value} {x : ℚ} (h : finiteProfileNumber env v true = some x) : 0 < x := by
  unfold finiteProfileNumber at h
  split at h
  · cases h
  · cases h
  · split at h
    · split at h
      · cases h
      · rename_i hpositive
        cases h
        exact not_le.1 fun hle => hpositive ⟨rfl, hle⟩
    · cases h
    · cases h

theorem field_eq {fields : Fields} {name : String} {v : Value} (h : get? fields name = some v) : field fields name = v := by
  rw [field, h]
  rfl

theorem field_none {fields : Fields} {name : String} (h : get? fields name = none) : field fields name = .null := by
  rw [field, h]
  rfl

/-! ## The fields of a signed profile -/

/-- The optional field of a model, as it is signed if it can be. -/
def profileField (env : Env) (model : Fields) (name : String) : Except TokenError (Option Value) :=
  match field model name with
  | .null => .ok none
  | v => profileValue env name v

theorem addProfileField_eq (model profile : Fields) (name : String) :
    addProfileField env model profile name =
      match profileField env model name with
      | .error e => .error e
      | .ok none => .ok profile
      | .ok (some v) => .ok (Json.set profile name v) := by
  unfold addProfileField profileField
  cases field model name <;> rfl

/-- What the loop over the optional fields leaves: each is as it is signed, or as it was. -/
theorem foldlM_addProfileField {model : Fields} {names : List String} (hnames : names.Nodup) {profile profile' : Fields}
    (h : names.foldlM (addProfileField env model) profile = .ok profile') (hprofile : (profile.map (·.1)).Nodup) :
    (profile'.map (·.1)).Nodup ∧ (∀ name ∉ names, get? profile' name = get? profile name) ∧
      ∀ name ∈ names, ∃ v, profileField env model name = .ok v ∧ get? profile' name = v.or (get? profile name) := by
  induction names generalizing profile with
  | nil =>
    cases h
    exact ⟨hprofile, fun _ _ => rfl, fun _ hname => nomatch hname⟩
  | cons name names ih =>
    obtain ⟨hnew, hnames⟩ := List.nodup_cons.1 hnames
    rw [List.foldlM_cons] at h
    obtain ⟨profile₁, hfirst, hrest⟩ := bind_ok h
    rw [addProfileField_eq] at hfirst
    -- The first name is found as the first round left it, since no later round has its name.
    have hround : ∃ v, profileField env model name = .ok v ∧ (profile₁.map (·.1)).Nodup ∧
        ∀ k, get? profile₁ k = if name = k then v.or (get? profile name) else get? profile k := by
      split at hfirst
      · cases hfirst
      · rename_i hv
        cases hfirst
        refine ⟨none, hv, hprofile, fun k => ?_⟩
        split
        · rename_i hk
          rw [hk, Option.none_or]
        · rfl
      · rename_i v hv
        cases hfirst
        exact ⟨some v, hv, nodup_set hprofile _ _, fun k => get?_set _ _ _ _⟩
    obtain ⟨v, hv, hprofile₁, hget⟩ := hround
    obtain ⟨hnodup, hother, heach⟩ := ih hnames hrest hprofile₁
    refine ⟨hnodup, ?_, ?_⟩
    · intro k hk
      rw [List.mem_cons, not_or] at hk
      rw [hother k hk.2, hget, if_neg (Ne.symm hk.1)]
    · intro k hk
      by_cases hsame : name = k
      · subst hsame
        exact ⟨v, hv, by rw [hother name hnew, hget, if_pos rfl]⟩
      · obtain ⟨w, hw, hgetw⟩ := heach k ((List.mem_cons.1 hk).resolve_left (Ne.symm hsame))
        refine ⟨w, hw, ?_⟩
        rw [hgetw, hget, if_neg hsame]

/-- The loop comes to its end when every optional field can be signed. -/
theorem foldlM_addProfileField_ok {model : Fields} {names : List String}
    (h : ∀ name ∈ names, ∃ v, profileField env model name = .ok v) (profile : Fields) :
    ∃ profile', names.foldlM (addProfileField env model) profile = .ok profile' := by
  induction names generalizing profile with
  | nil => exact ⟨profile, rfl⟩
  | cons name names ih =>
    obtain ⟨v, hv⟩ := h name List.mem_cons_self
    rw [List.foldlM_cons, addProfileField_eq, hv]
    cases v with
    | none => exact ih (fun k hk => h k (List.mem_cons_of_mem _ hk)) _
    | some v => exact ih (fun k hk => h k (List.mem_cons_of_mem _ hk)) _

/-- The price that is signed for a cache, where there is one. -/
def cachePrice? (env : Env) (model : Fields) (key : CacheKey) : Option Value :=
  if (modelCachePricePerMillion env model key).isPositive then some (ofFloat env (modelCachePricePerMillion env model key)) else none

/-- The optional field that a cache price is signed in. -/
def cacheField (env : Env) (model : Fields) (name : String) : Option Value :=
  if CacheKey.write.fieldName = name then cachePrice? env model .write
  else if CacheKey.read.fieldName = name then cachePrice? env model .read
  else none

theorem get?_addCachePrice (model profile : Fields) (key : CacheKey) (name : String) :
    get? (addCachePrice env model profile key) name =
      if key.fieldName = name then (cachePrice? env model key).or (get? profile name) else get? profile name := by
  unfold addCachePrice cachePrice?
  dsimp only
  split
  · rw [get?_set]
    rfl
  · split <;> rfl

/-- The fields of a profile before the optional ones are looked at. -/
theorem get?_cached (model head : Fields) (name : String) :
    get? (addCachePrice env model (addCachePrice env model head .read) .write) name =
      (cacheField env model name).or (get? head name) := by
  rw [get?_addCachePrice, get?_addCachePrice, cacheField]
  by_cases hwrite : CacheKey.write.fieldName = name
  · have hread : CacheKey.read.fieldName ≠ name := by
      rintro rfl
      exact absurd hwrite (by decide)
    rw [if_pos hwrite, if_neg hread, if_pos hwrite]
  · rw [if_neg hwrite, if_neg hwrite]
    split <;> simp

theorem nodup_addCachePrice {model profile : Fields} (h : (profile.map (·.1)).Nodup) (key : CacheKey) :
    ((addCachePrice env model profile key).map (·.1)).Nodup := by
  unfold addCachePrice
  dsimp only
  split
  · exact nodup_set h _ _
  · exact h

/-- The fields that every signed profile has. -/
def headFields (env : Env) (modelId provider : Text) (inputPrice outputPrice : ℚ) : Fields :=
  [("model_id", .str modelId), ("provider", .str provider), ("input_price_per_million", ofFloat env (.finite inputPrice)),
    ("output_price_per_million", ofFloat env (.finite outputPrice))]

theorem profileHead_ok_iff {model : Fields} {provider : Text} {profile : Fields} :
    profileHead env model provider = .ok profile ↔
      ∃ inputPrice outputPrice, finiteProfileNumber env (field model "input_price_per_million") false = some inputPrice ∧
        finiteProfileNumber env (field model "output_price_per_million") false = some outputPrice ∧
        (strip (strOr env (field model "model_id")) ≠ [] ∧ env.lower (strip provider) ≠ [] ∧ 0 ≤ inputPrice ∧ 0 ≤ outputPrice) ∧
        profile = headFields env (strip (strOr env (field model "model_id"))) (env.lower (strip provider)) inputPrice outputPrice := by
  unfold profileHead
  dsimp only
  constructor
  · intro h
    split at h
    · rename_i inputPrice outputPrice hinput houtput
      split at h
      · cases h
      · rename_i hvalid
        simp only [not_or, not_lt] at hvalid
        cases h
        exact ⟨inputPrice, outputPrice, hinput, houtput, hvalid, rfl⟩
    · cases h
  · rintro ⟨inputPrice, outputPrice, hinput, houtput, ⟨hmodel, hprovider, hin, hout⟩, rfl⟩
    rw [hinput, houtput]
    dsimp only
    rw [if_neg]
    · rfl
    · rintro (h | h | h | h)
      · exact hmodel h
      · exact hprovider h
      · exact not_lt.2 hin h
      · exact not_lt.2 hout h

theorem nodup_headFields (modelId provider : Text) (inputPrice outputPrice : ℚ) :
    ((headFields env modelId provider inputPrice outputPrice).map (·.1)).Nodup := by
  show ["model_id", "provider", "input_price_per_million", "output_price_per_million"].Nodup
  decide

theorem get?_headFields_optional {modelId provider : Text} {inputPrice outputPrice : ℚ} :
    ∀ name ∈ accountingModelProfileFields, get? (headFields env modelId provider inputPrice outputPrice) name = none := by
  have hnames : ∀ name ∈ accountingModelProfileFields,
      name ∉ ["model_id", "provider", "input_price_per_million", "output_price_per_million"] := by decide
  exact fun name hname => get?_eq_none (hnames name hname)

theorem cacheField_of_notMem (model : Fields) {name : String} (h : name ∉ accountingModelProfileFields) :
    cacheField env model name = none := by
  have hread : CacheKey.read.fieldName ≠ name := by
    rintro rfl
    exact h (by decide)
  have hwrite : CacheKey.write.fieldName ≠ name := by
    rintro rfl
    exact h (by decide)
  rw [cacheField, if_neg hwrite, if_neg hread]

/-- What is signed of a model: the identity and prices, and every optional field. -/
theorem signed_ok {model : Fields} {provider : Text} {profile : Fields}
    (h : signedAccountingModelProfile env (.obj model) provider = .ok profile) :
    ∃ head, profileHead env model provider = .ok head ∧ (profile.map (·.1)).Nodup ∧
      (∀ name ∉ accountingModelProfileFields, get? profile name = get? head name) ∧
      ∀ name ∈ accountingModelProfileFields, ∃ v, profileField env model name = .ok v ∧
        get? profile name = v.or (cacheField env model name) := by
  obtain ⟨head, hhead, h⟩ := bind_ok h
  obtain ⟨inputPrice, outputPrice, -, -, -, rfl⟩ := profileHead_ok_iff.1 hhead
  obtain ⟨hprofile, hother, heach⟩ := foldlM_addProfileField (by decide) h
    (nodup_addCachePrice (nodup_addCachePrice (nodup_headFields _ _ _ _) .read) .write)
  refine ⟨_, hhead, hprofile, ?_, ?_⟩
  · intro name hname
    rw [hother name hname, get?_cached, cacheField_of_notMem model hname, Option.none_or]
  · intro name hname
    obtain ⟨v, hv, hget⟩ := heach name hname
    refine ⟨v, hv, ?_⟩
    rw [hget, get?_cached, get?_headFields_optional name hname, Option.or_none]

/-- A model is signed when it has a head and each optional field can be signed. -/
theorem signed_of_fields {model : Fields} {provider : Text} {head : Fields} (hhead : profileHead env model provider = .ok head)
    (h : ∀ name ∈ accountingModelProfileFields, ∃ v, profileField env model name = .ok v) :
    ∃ profile, signedAccountingModelProfile env (.obj model) provider = .ok profile := by
  obtain ⟨profile, hprofile⟩ := foldlM_addProfileField_ok h (addCachePrice env model (addCachePrice env model head .read) .write)
  refine ⟨profile, ?_⟩
  rw [signedAccountingModelProfile, hhead]
  exact hprofile

/-! ## The normal form -/

/-- A value that an optional field is signed with. -/
inductive NormalValue (env : Env) (name : String) : Value → Prop where
  | number {x : PyFloat} : name ∈ numberFields → NormalValue env name (ofFloat env x)
  | flag {b : Bool} : name ∉ numberFields → name ∈ flagFields → NormalValue env name (.bool b)
  | text {s : Text} : name ∉ numberFields → name ∉ flagFields → s ≠ [] → strip s = s → NormalValue env name (.str s)

/-- The fields of a profile that was signed. -/
structure Normal (env : Env) (fields : Fields) (modelId provider : Text) : Prop where
  nodup : (fields.map (·.1)).Nodup
  modelId_normal : strip modelId = modelId ∧ modelId ≠ []
  provider_normal : env.lower (strip provider) = provider ∧ provider ≠ []
  head : ∃ inputPrice outputPrice, (0 ≤ inputPrice ∧ 0 ≤ outputPrice) ∧ ∀ name ∉ accountingModelProfileFields,
    get? fields name = get? (headFields env modelId provider inputPrice outputPrice) name
  optional : ∀ name ∈ accountingModelProfileFields, ∀ v, get? fields name = some v → NormalValue env name v

/-- No price of a profile is infinite. -/
def Finite (env : Env) (fields : Fields) : Prop :=
  ∀ name ∈ accountingModelProfileFields, get? fields name ≠ some (ofFloat env .infinity)

theorem profileValue_normal {name : String} {v w : Value} (h : profileValue env name v = .ok (some w)) : NormalValue env name w := by
  unfold profileValue at h
  split at h
  · rename_i hnumber
    split at h
    · cases h
    · cases h
      exact .number hnumber
  · rename_i hnumber
    split at h
    · rename_i hflag
      split at h
      · cases h
        exact .flag hnumber hflag
      · cases h
    · rename_i hflag
      have hsome := Except.ok.inj h
      split at hsome
      · cases hsome
      · rename_i hne
        cases hsome
        exact .text hnumber hflag hne (strip_strip _)

theorem cacheField_normal {model : Fields} {name : String} {v : Value} (h : cacheField env model name = some v) :
    NormalValue env name v := by
  have hprice : ∀ {key : CacheKey}, cachePrice? env model key = some v → v = ofFloat env (modelCachePricePerMillion env model key) := by
    intro key hkey
    unfold cachePrice? at hkey
    split at hkey
    · exact (Option.some.inj hkey).symm
    · cases hkey
  unfold cacheField at h
  split at h
  · rename_i hname
    rw [hprice h]
    exact .number (hname ▸ by decide)
  · split at h
    · rename_i hname
      rw [hprice h]
      exact .number (hname ▸ by decide)
    · cases h

/-- What is signed is in normal form. -/
theorem normal_of_signed {model : Fields} {provider : Text} {profile : Fields}
    (h : signedAccountingModelProfile env (.obj model) provider = .ok profile) :
    Normal env profile (strip (strOr env (field model "model_id"))) (env.lower (strip provider)) := by
  obtain ⟨head, hhead, hnodup, hother, heach⟩ := signed_ok h
  obtain ⟨inputPrice, outputPrice, -, -, ⟨hmodel, hprovider, hprices⟩, rfl⟩ := profileHead_ok_iff.1 hhead
  refine ⟨hnodup, ⟨strip_strip _, hmodel⟩, ⟨?_, hprovider⟩, ⟨inputPrice, outputPrice, hprices, hother⟩, ?_⟩
  · rw [env.strip_lower, strip_strip, env.lower_lower]
  · intro name hname v hv
    obtain ⟨w, hw, hget⟩ := heach name hname
    rw [hget] at hv
    cases w with
    | none => exact cacheField_normal hv
    | some w =>
      cases hv
      unfold profileField at hw
      split at hw
      · cases hw
      · exact profileValue_normal hw

/-! ## Signing twice -/

theorem NormalValue.ne_null {name : String} {v : Value} (h : NormalValue env name v) : v ≠ .null := by
  rintro rfl
  cases h

theorem profileField_of_get? {fields : Fields} {name : String} {v : Value} (hget : get? fields name = some v) (h : v ≠ .null) :
    profileField env fields name = profileValue env name v := by
  unfold profileField
  rw [field_eq hget]
  split
  · exact (h rfl).elim
  · rfl

theorem profileField_of_none {fields : Fields} {name : String} (h : get? fields name = none) :
    profileField env fields name = .ok none := by
  unfold profileField
  rw [field_none h]

/-- A finite value in normal form is signed as it is. -/
theorem profileValue_of_normal {name : String} {v : Value} (h : NormalValue env name v) (hfinite : v ≠ ofFloat env .infinity) :
    profileValue env name v = .ok (some v) := by
  cases h with
  | @number x hnumber =>
    unfold profileValue
    rw [if_pos hnumber, finiteProfileNumber_ofFloat]
    cases x with
    | finite x => simp
    | infinity => exact (hfinite rfl).elim
  | flag hnumber hflag => rw [profileValue, if_neg hnumber, if_pos hflag]
  | text hnumber hflag hne hstrip => simp [profileValue, hnumber, hflag, pyStr, hstrip, hne]

/-- An infinite value cannot be signed. -/
theorem profileValue_infinity {name : String} (h : NormalValue env name (ofFloat env .infinity)) :
    profileValue env name (ofFloat env .infinity) = .error (.profileInvalid (some name)) := by
  have hnumber : name ∈ numberFields := by
    generalize hv : ofFloat env .infinity = v at h
    cases h with
    | number hnumber => exact hnumber
    | flag _ _ => cases hv
    | text _ _ _ _ => cases hv
  unfold profileValue
  rw [if_pos hnumber, finiteProfileNumber_ofFloat]

variable {fields : Fields} {modelId provider : Text}

theorem Normal.get?_modelId (h : Normal env fields modelId provider) : get? fields "model_id" = some (.str modelId) := by
  obtain ⟨inputPrice, outputPrice, -, hget⟩ := h.head
  rw [hget "model_id" (by decide)]
  rfl

/-- The head of a profile in normal form is signed as it is. -/
theorem Normal.profileHead (h : Normal env fields modelId provider) {p : Text} (hp : env.lower (strip p) = provider) :
    ∃ inputPrice outputPrice, Accounting.profileHead env fields p = .ok (headFields env modelId provider inputPrice outputPrice) ∧
      ∀ name ∉ accountingModelProfileFields, get? fields name = get? (headFields env modelId provider inputPrice outputPrice) name := by
  obtain ⟨inputPrice, outputPrice, hprices, hget⟩ := h.head
  have hinput : field fields "input_price_per_million" = ofFloat env (.finite inputPrice) := field_eq (hget _ (by decide))
  have houtput : field fields "output_price_per_million" = ofFloat env (.finite outputPrice) := field_eq (hget _ (by decide))
  have hmodel : strip (strOr env (field fields "model_id")) = modelId := by
    rw [field_eq h.get?_modelId, strOr, if_pos]
    · exact h.modelId_normal.1
    · simpa [Json.truthy] using h.modelId_normal.2
  refine ⟨inputPrice, outputPrice, profileHead_ok_iff.2 ⟨inputPrice, outputPrice, ?_, ?_, ?_, ?_⟩, hget⟩
  · rw [hinput, finiteProfileNumber_ofFloat]
    simp
  · rw [houtput, finiteProfileNumber_ofFloat]
    simp
  · rw [hmodel, hp]
    exact ⟨h.modelId_normal.2, h.provider_normal.2, hprices⟩
  · rw [hmodel, hp]

theorem Normal.get?_other (h : Normal env fields modelId provider) {name : String}
    (hname : name ∉ accountingModelProfileFields ++ ["model_id", "provider", "input_price_per_million", "output_price_per_million"]) :
    get? fields name = none := by
  rw [List.mem_append, not_or] at hname
  obtain ⟨inputPrice, outputPrice, -, hget⟩ := h.head
  rw [hget name hname.1]
  exact get?_eq_none hname.2

/-- A profile in normal form has a cache price only under its own field. -/
theorem Normal.cachePrice? (h : Normal env fields modelId provider) (key : CacheKey) (hprice : get? fields key.fieldName = none) :
    cachePrice? env fields key = none := by
  have halias : field fields key.aliasName = .null := field_none (h.get?_other (by cases key <;> decide))
  have hcost : field fields "model_cost" = .null := field_none (h.get?_other (by decide))
  have hpricing : field fields "pricing" = .null := field_none (h.get?_other (by decide))
  have hzero : modelCachePricePerMillion env fields key = .finite 0 := by
    simp [modelCachePricePerMillion, field_none hprice, halias, nestedModelCost, hcost, pricingPrice, hpricing, PyFloat.isPositive]
  rw [Accounting.cachePrice?, hzero]
  rfl

theorem Normal.cacheField (h : Normal env fields modelId provider) {name : String} (hname : get? fields name = none) :
    cacheField env fields name = none := by
  unfold Accounting.cacheField
  split
  · rename_i heq
    exact h.cachePrice? .write (heq ▸ hname)
  · split
    · rename_i heq
      exact h.cachePrice? .read (heq ▸ hname)
    · rfl

/-- A finite profile in normal form is signed with the fields it has. -/
theorem Normal.signed (h : Normal env fields modelId provider) (hfinite : Finite env fields) {p : Text}
    (hp : env.lower (strip p) = provider) :
    ∃ profile, signedAccountingModelProfile env (.obj fields) p = .ok profile ∧ (profile.map (·.1)).Nodup ∧
      ∀ name, get? profile name = get? fields name := by
  obtain ⟨inputPrice, outputPrice, hhead, hget⟩ := h.profileHead hp
  have hfield : ∀ name ∈ accountingModelProfileFields, profileField env fields name = .ok (get? fields name) := by
    intro name hname
    cases hv : get? fields name with
    | none => exact profileField_of_none hv
    | some v =>
      have hnormal := h.optional name hname v hv
      have hne : v ≠ ofFloat env .infinity := fun heq => hfinite name hname (heq ▸ hv)
      rw [profileField_of_get? hv hnormal.ne_null, profileValue_of_normal hnormal hne]
  obtain ⟨profile, hprofile⟩ := signed_of_fields hhead fun name hname => ⟨_, hfield name hname⟩
  obtain ⟨head, hhead', hnodup, hother, heach⟩ := signed_ok hprofile
  obtain rfl := Except.ok.inj (hhead.symm.trans hhead')
  refine ⟨profile, hprofile, hnodup, fun name => ?_⟩
  by_cases hname : name ∈ accountingModelProfileFields
  · obtain ⟨v, hv, hgetv⟩ := heach name hname
    obtain rfl := Except.ok.inj ((hfield name hname).symm.trans hv)
    rw [hgetv]
    cases hsome : get? fields name with
    | none => rw [h.cacheField hsome, Option.or_none]
    | some v => rw [Option.some_or]
  · rw [hother name hname, hget name hname]

/-- An infinite profile is not signed again. -/
theorem Normal.not_signed (h : Normal env fields modelId provider) (hinfinite : ¬Finite env fields) (p : Text) :
    (signedAccountingModelProfile env (.obj fields) p).toOption = none := by
  cases hsigned : signedAccountingModelProfile env (.obj fields) p with
  | error e => rfl
  | ok profile =>
    simp only [Finite, not_forall, not_not] at hinfinite
    obtain ⟨name, hname, hget⟩ := hinfinite
    obtain ⟨head, -, -, -, heach⟩ := signed_ok hsigned
    obtain ⟨v, hv, -⟩ := heach name hname
    have hnormal := h.optional name hname _ hget
    rw [profileField_of_get? hget hnormal.ne_null, profileValue_infinity hnormal] at hv
    cases hv

/-! ## Comparing -/

theorem valueEq_ofFloat (x : PyFloat) : valueEq env (ofFloat env x) (ofFloat env x) = true := by
  have hread : number? env (.float (env.write x)) = some x := number?_ofFloat x
  simp [valueEq, ofFloat, hread]

theorem valueEq_str (s : Text) : valueEq env (.str s) (.str s) = true := by
  simp [valueEq]

theorem NormalValue.valueEq_self {name : String} {v : Value} (h : NormalValue env name v) : valueEq env v v = true := by
  cases h with
  | number _ => exact valueEq_ofFloat _
  | flag _ _ => simp [valueEq, number?]
  | text _ _ _ _ => exact valueEq_str _

/-- Every field of a profile in normal form equals itself. -/
theorem Normal.valueEq_self (h : Normal env fields modelId provider) {name : String} {v : Value} (hv : get? fields name = some v) :
    valueEq env v v = true := by
  by_cases hname : name ∈ accountingModelProfileFields
  · exact (h.optional name hname v hv).valueEq_self
  · obtain ⟨inputPrice, outputPrice, -, hget⟩ := h.head
    rw [hget name hname] at hv
    have hmem := (Json.get?_eq_some_iff (nodup_headFields _ _ _ _)).1 hv
    simp only [headFields, List.mem_cons, Prod.mk.injEq, List.not_mem_nil, or_false] at hmem
    rcases hmem with ⟨-, rfl⟩ | ⟨-, rfl⟩ | ⟨-, rfl⟩ | ⟨-, rfl⟩
    · exact valueEq_str _
    · exact valueEq_str _
    · exact valueEq_ofFloat _
    · exact valueEq_ofFloat _

/-- Profiles with the same fields are equal, in whatever order they have them. -/
theorem Normal.sameFields (h : Normal env fields modelId provider) {profile : Fields} (hnodup : (profile.map (·.1)).Nodup)
    (hget : ∀ name, get? profile name = get? fields name) : sameFields env profile (.obj fields) = true := by
  have hperm := Json.perm_of_get? hnodup h.nodup hget
  simp only [Accounting.sameFields, hperm.length_eq, beq_self_eq_true, Bool.true_and, List.all_eq_true]
  rintro ⟨name, v⟩ hp
  have hv : get? fields name = some v := by
    rw [← hget, Json.get?_eq_some_iff hnodup]
    exact hp
  simp only [hv]
  exact h.valueEq_self hv

end Accounting

end PromptRail
