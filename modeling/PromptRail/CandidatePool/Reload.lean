import PromptRail.AccountingToken.Environment
import PromptRail.CandidatePool

/-!
# Pools that load back

What is validated on the way into the store are the models as they come; what is validated on the way out are their normal forms. The
identity of a normal form is not always that of the model, so that a pool which was saved need not load.
-/

namespace PromptRail

namespace CandidatePool

open PyText (Text strip strip_strip isSpace)
open Json (Fields Value truthy)
open Accounting (field pyStr field_set)
open Outcome (bind_ok map_ok mem_mapM)

/-! ## What is read again -/

/-- What follows `openrouter/` in an identifier that begins so. -/
def belowOpenrouter (env : Env) (text : Text) : Text := if startsWith env text "openrouter/" then afterSlash text else text

/-- The identifier that a model of OpenRouter is stored with. -/
def storedOpenrouterId (env : Env) (model : Fields) : Text :=
  let written := belowOpenrouter env (strip (firstText env model ["openrouter_native_model_id", "openrouter_model_id"]))
  if written ≠ [] then written
  else if belowOpenrouter env (nativeOf env model) ≠ [] then belowOpenrouter env (nativeOf env model)
  else nativeOf env model

/-- The identity of a model as it is stored, read off the model as it came. -/
def rereadIdentity (env : Env) (model : Fields) : Text :=
  let openrouterNative := strip (firstText env model ["openrouter_native_model_id"])
  if providerOf env model = "openrouter".toList then
    env.lower (withoutOpenrouter env (strip (storedOpenrouterId env model)))
  else if openrouterNative ≠ [] then env.lower (withoutOpenrouter env openrouterNative)
  else explicitIdentity env (providerOf env model) (strip (canonicalModelIdentity env model))

/-- A pool whose models, read again, have providers and identities of their own. -/
structure Reloads (env : Env) (pool : List Fields) : Prop where
  provider : ∀ model ∈ pool, providerOf env model ≠ []
  named : ∀ model ∈ pool, rereadIdentity env model ≠ []
  distinct : (pool.map (rereadIdentity env)).Nodup

namespace ReloadAux

variable {env : Env} {model : Fields}

/-! ## Texts -/

theorem truthy_str (t : Text) : truthy (.str t) = true ↔ t ≠ [] := by
  cases t <;> simp [truthy]

theorem firstText_cons (model : Fields) (name : String) (names : List String) :
    firstText env model (name :: names) =
      if truthy (field model name) then pyStr env.toEnv (field model name) else firstText env model names := by
  unfold firstText
  rw [List.find?_cons]
  cases truthy (field model name) <;> rfl

@[simp] theorem firstText_nil (model : Fields) : firstText env model [] = [] := rfl

/-- A field that is a text is taken, unless it is empty. -/
theorem firstText_str {name : String} {t : Text} (h : field model name = .str t) (names : List String) :
    firstText env model (name :: names) = if t = [] then firstText env model names else t := by
  rw [firstText_cons, h]
  by_cases ht : t = []
  · rw [if_pos ht, if_neg (by rw [truthy_str]; exact not_not.2 ht)]
  · rw [if_neg ht, if_pos ((truthy_str t).2 ht)]
    rfl

theorem firstText_congr {model' : Fields} {names : List String} (h : ∀ name ∈ names, field model' name = field model name) :
    firstText env model' names = firstText env model names := by
  induction names with
  | nil => rfl
  | cons name names ih =>
    rw [firstText_cons, firstText_cons, h name List.mem_cons_self, ih fun other hother => h other (List.mem_cons_of_mem _ hother)]

/-- A text with a character that is no white space is not blank. -/
theorem strip_ne_nil_of_mem {t : Text} {c : Char} (hmem : c ∈ t) (hc : isSpace c = false) : strip t ≠ [] := by
  intro hblank
  have hleft : PyText.lstrip t ≠ [] := by
    intro hnil
    have hall := List.dropWhile_eq_nil_iff.1 hnil c hmem
    rw [hc] at hall
    cases hall
  obtain ⟨d, hd⟩ : ∃ d, (PyText.lstrip t).head? = some d := by
    cases h : PyText.lstrip t with
    | nil => exact absurd h hleft
    | cons d rest => exact ⟨d, rfl⟩
  have hspace := PyText.head_lstrip t d hd
  have hsame : PyText.lstrip (PyText.lstrip t) = PyText.lstrip t := PyText.lstrip_eq_self (PyText.head_lstrip t)
  refine PyText.strip_ne_nil hd hspace ?_
  rw [strip, hsame]
  exact hblank

/-- What a stripped text ends in is not blank. -/
theorem strip_suffix_ne_nil {s t : Text} (h : s <:+ strip t) (hne : s ≠ []) : strip s ≠ [] := by
  obtain ⟨before, hbefore⟩ := h
  have hlast : s.getLast? = (strip t).getLast? := by
    rw [← hbefore, List.getLast?_append_of_ne_nil _ hne]
  obtain ⟨c, hc⟩ : ∃ c, s.getLast? = some c := by
    cases hs : s.getLast? with
    | none => exact absurd (List.getLast?_eq_none_iff.1 hs) hne
    | some c => exact ⟨c, rfl⟩
  exact strip_ne_nil_of_mem (List.mem_of_getLast? hc) (PyText.getLast_rstrip _ c (hlast ▸ hc))

theorem afterSlash_suffix (t : Text) : afterSlash t <:+ t :=
  (List.drop_suffix _ _).trans (List.dropWhile_suffix _)

theorem belowOpenrouter_suffix (t : Text) : belowOpenrouter env t <:+ t := by
  unfold belowOpenrouter
  split
  · exact afterSlash_suffix t
  · exact List.suffix_rfl

theorem afterLiteral_suffix {literal t rest : Text} (h : afterLiteral env literal t = some rest) : rest <:+ t := by
  induction literal generalizing t with
  | nil => exact (Option.some.inj h) ▸ List.suffix_rfl
  | cons l literal ih =>
    cases t with
    | nil => cases h
    | cons c t =>
      rw [afterLiteral] at h
      split at h
      · exact (ih h).trans (List.suffix_cons c t)
      · cases h

theorem withoutLiteral_suffix (literal t : Text) : withoutLiteral env literal t <:+ t := by
  unfold withoutLiteral
  cases h : afterLiteral env literal t with
  | none => exact List.suffix_rfl
  | some rest => exact afterLiteral_suffix h

theorem strip_lower_ne_nil {t : Text} : strip (env.lower t) ≠ [] ↔ strip t ≠ [] := by
  rw [env.strip_lower, ne_eq, env.lower_eq_nil]

/-! ## Normal forms -/

theorem field_withIdentity (model : Fields) (name : String) : field (withIdentity env model) name =
    if name = "canonical_model_id" then .str (canonicalModelIdentity env model)
    else if name = "model_id" then .str (modelIdOf env model)
    else if name = "provider" ∨ name = "execution_provider" then .str (providerOf env model)
    else if name = "native_model_id" ∨ name = "provider_native_model_id" then .str (nativeOf env model)
    else field model name := by
  simp only [withIdentity, field_set]
  grind

/-- The identifier for OpenRouter that a normal form has. -/
def openrouterFieldOf (env : Env) (model : Fields) : Value :=
  if providerOf env model = "openrouter".toList then
    let native := openrouterNativeModelId env (withIdentity env model)
    .str (if native = [] then nativeOf env model else native)
  else if (Json.get? (withIdentity env model) "openrouter_native_model_id").isSome then field model "openrouter_native_model_id"
  else .str []

theorem field_normalize (model : Fields) (name : String) : field (normalizeModelIdentityFields env model) name =
    if name = "openrouter_native_model_id" then openrouterFieldOf env model else field (withIdentity env model) name := by
  have hown : field (withIdentity env model) "openrouter_native_model_id" = field model "openrouter_native_model_id" := by
    rw [field_withIdentity]
    simp
  unfold normalizeModelIdentityFields openrouterFieldOf
  dsimp only
  split
  · rw [field_set]
    simp only [eq_comm]
  · split
    · split
      · rename_i hname
        rw [hname, hown]
      · rfl
    · rw [field_set]
      simp only [eq_comm]

theorem field_normalize_of {name : String} {v : Value} (hname : name ≠ "openrouter_native_model_id")
    (h : field (withIdentity env model) name = v) : field (normalizeModelIdentityFields env model) name = v := by
  rw [field_normalize, if_neg hname, h]

/-- A provider is in lower case, without white space around it. -/
theorem lower_strip_providerOf (model : Fields) : env.lower (strip (providerOf env model)) = providerOf env model := by
  unfold providerOf
  rw [env.strip_lower, strip_strip, env.lower_lower]

theorem providerOf_normalize (model : Fields) : providerOf env (normalizeModelIdentityFields env model) = providerOf env model := by
  have hexecution : field (normalizeModelIdentityFields env model) "execution_provider" = .str (providerOf env model) :=
    field_normalize_of (by decide) (by rw [field_withIdentity]; simp)
  have hprovider : field (normalizeModelIdentityFields env model) "provider" = .str (providerOf env model) :=
    field_normalize_of (by decide) (by rw [field_withIdentity]; simp)
  rw [providerOf, firstText_str hexecution, firstText_str hprovider, firstText_nil]
  have hsame := @lower_strip_providerOf env model
  grind

/-! ## Complete models -/

theorem issueUnless_eq_nil {holds : Bool} {issue : String} : issueUnless holds issue = [] ↔ holds = true := by
  cases holds <;> simp [issueUnless]

/-- The identifiers of a complete model. -/
structure Identified (env : Env) (model : Fields) : Prop where
  modelId : strip (firstText env model ["model_id"]) ≠ []
  native : strip (firstText env model ["provider_native_model_id", "native_model_id"]) ≠ []

theorem identified_of_complete (h : candidateCompletenessIssues env model = []) : Identified env model := by
  simp only [candidateCompletenessIssues, List.append_eq_nil_iff, issueUnless_eq_nil, bne_iff_ne] at h
  exact ⟨h.1.1.1.1.1.1.1.1.1.1.1.2, h.1.1.1.1.1.1.1.1.1.2⟩

theorem modelIdOf_eq (h : Identified env model) : modelIdOf env model = strip (firstText env model ["model_id"]) := by
  have hmodelId := h.modelId
  rw [firstText_cons] at hmodelId
  split at hmodelId
  · rename_i htrue
    rw [modelIdOf, firstText_cons, firstText_cons model "model_id", if_pos htrue, if_pos htrue]
  · exact absurd rfl hmodelId

theorem nativeOf_spec (h : Identified env model) : nativeOf env model ≠ [] ∧ strip (nativeOf env model) = nativeOf env model := by
  unfold nativeOf
  dsimp only
  split
  · rw [providerNativeModelId]
    dsimp only
    rw [if_pos h.native]
    exact ⟨h.native, strip_strip _⟩
  · rename_i hnot
    have hmodelId : modelIdOf env model ≠ [] := by
      rw [modelIdOf_eq h]
      exact h.modelId
    exact ⟨fun hnil => hnot ⟨hnil, hmodelId⟩, strip_strip _⟩

theorem firstText_native (h : Identified env model) : firstText env (withIdentity env model)
    ["provider_native_model_id", "native_model_id"] = nativeOf env model := by
  have hfield : field (withIdentity env model) "provider_native_model_id" = .str (nativeOf env model) := by
    rw [field_withIdentity]
    simp
  rw [firstText_str hfield, if_neg (nativeOf_spec h).1]

theorem executableProvider_withIdentity (h : providerOf env model ≠ []) :
    executableProviderForModel env (withIdentity env model) = providerOf env model := by
  have hfield : field (withIdentity env model) "execution_provider" = .str (providerOf env model) := by
    rw [field_withIdentity]
    simp
  unfold executableProviderForModel
  dsimp only
  rw [firstText_str hfield, if_neg h, lower_strip_providerOf, if_pos h]

/-- The identifier of a model of OpenRouter, as its normal form has it. -/
theorem openrouterField_eq (h : Identified env model) (hopenrouter : providerOf env model = "openrouter".toList) :
    openrouterFieldOf env model = .str (storedOpenrouterId env model) := by
  have hprovider : providerOf env model ≠ [] := by
    rw [hopenrouter]
    exact List.cons_ne_nil _ _
  have hwritten : firstText env (withIdentity env model) ["openrouter_native_model_id", "openrouter_model_id"] =
      firstText env model ["openrouter_native_model_id", "openrouter_model_id"] := by
    refine firstText_congr ?_
    simp [field_withIdentity]
  have hnative : providerNativeModelId env (modelIdOf env (withIdentity env model)) "openrouter".toList (withIdentity env model) =
      nativeOf env model := by
    rw [providerNativeModelId]
    dsimp only
    rw [firstText_native h, (nativeOf_spec h).2, if_pos (nativeOf_spec h).1]
  have hstored : openrouterNativeModelId env (withIdentity env model) =
      if belowOpenrouter env (strip (firstText env model ["openrouter_native_model_id", "openrouter_model_id"])) ≠ [] then
        belowOpenrouter env (strip (firstText env model ["openrouter_native_model_id", "openrouter_model_id"]))
      else belowOpenrouter env (nativeOf env model) := by
    unfold openrouterNativeModelId belowOpenrouter
    dsimp only
    rw [hwritten, executableProvider_withIdentity hprovider, hopenrouter, hnative, if_neg (not_not.2 rfl)]
  rw [openrouterFieldOf, if_pos hopenrouter, hstored]
  unfold storedOpenrouterId
  dsimp only
  split
  · rfl
  · by_cases hbelow : belowOpenrouter env (nativeOf env model) = []
    · rw [if_pos hbelow, if_neg (not_not.2 hbelow)]
    · rw [if_neg hbelow, if_pos hbelow]

/-! ## Identities of normal forms -/

/-- A part of a stripped text, in lower case, is blank only if it is empty. -/
theorem strip_lower_suffix {s t : Text} (h : s <:+ strip t) (hne : env.lower s ≠ []) : strip (env.lower s) ≠ [] :=
  strip_lower_ne_nil.2 (strip_suffix_ne_nil h fun hnil => hne ((env.lower_eq_nil s).2 hnil))

theorem strip_explicitIdentity {provider t : Text} (hne : explicitIdentity env provider (strip t) ≠ []) :
    strip (explicitIdentity env provider (strip t)) ≠ [] := by
  have hsuffix := @withoutLiteral_suffix env "openrouter/".toList (strip t)
  revert hne
  unfold explicitIdentity
  dsimp only
  split
  · exact strip_lower_suffix ((afterSlash_suffix _).trans hsuffix)
  · exact strip_lower_suffix hsuffix

theorem strip_nativeIdentity {provider t : Text} (hne : nativeIdentity env provider (strip t) ≠ []) :
    strip (nativeIdentity env provider (strip t)) ≠ [] := by
  have hsuffix := @withoutLiteral_suffix env (provider ++ ['/']) (strip t)
  revert hne
  unfold nativeIdentity
  dsimp only
  split
  · exact strip_lower_suffix (withoutLiteral_suffix _ _)
  · split
    · exact strip_lower_suffix hsuffix
    · split
      · exact strip_lower_suffix hsuffix
      · intro _
        exact strip_lower_ne_nil.2 (strip_ne_nil_of_mem (List.mem_append_right provider List.mem_cons_self) (by decide))

/-- An identity that is not empty is not blank. -/
theorem strip_canonical (hne : canonicalModelIdentity env model ≠ []) : strip (canonicalModelIdentity env model) ≠ [] := by
  revert hne
  unfold canonicalModelIdentity
  dsimp only
  split
  · exact strip_lower_suffix (withoutLiteral_suffix _ _)
  · split
    · exact strip_explicitIdentity
    · split
      · exact strip_nativeIdentity
      · exact strip_nativeIdentity

theorem strip_stored (h : Identified env model) : strip (storedOpenrouterId env model) ≠ [] := by
  obtain ⟨hne, hstrip⟩ := nativeOf_spec h
  unfold storedOpenrouterId
  dsimp only
  split
  · rename_i hwritten
    exact strip_suffix_ne_nil (belowOpenrouter_suffix _) hwritten
  · split
    · rename_i hbelow
      have hsuffix : belowOpenrouter env (nativeOf env model) <:+ strip (nativeOf env model) := by
        rw [hstrip]
        exact belowOpenrouter_suffix _
      exact strip_suffix_ne_nil hsuffix hbelow
    · rw [hstrip]
      exact hne

theorem firstText_openrouter (h : providerOf env model ≠ "openrouter".toList) :
    firstText env (normalizeModelIdentityFields env model) ["openrouter_native_model_id"] =
      firstText env model ["openrouter_native_model_id"] := by
  rw [firstText_cons, firstText_cons, field_normalize, if_pos rfl, openrouterFieldOf, if_neg h]
  split
  · rfl
  · rename_i hnone
    have hown : field (withIdentity env model) "openrouter_native_model_id" = field model "openrouter_native_model_id" := by
      rw [field_withIdentity]
      simp
    have hnull : field model "openrouter_native_model_id" = .null := by
      rw [← hown]
      unfold Accounting.field
      rw [Option.not_isSome_iff_eq_none.1 hnone]
      rfl
    rw [hnull]
    rfl

/-- The identity of the normal form of a model. -/
theorem canonical_normalize (h : Identified env model) (hne : canonicalModelIdentity env model ≠ []) :
    canonicalModelIdentity env (normalizeModelIdentityFields env model) = rereadIdentity env model := by
  have hcanonical : field (normalizeModelIdentityFields env model) "canonical_model_id" = .str (canonicalModelIdentity env model) :=
    field_normalize_of (by decide) (by rw [field_withIdentity]; simp)
  rw [canonicalModelIdentity, rereadIdentity]
  rw [providerOf_normalize, firstText_str hcanonical, if_neg hne]
  by_cases hopenrouter : providerOf env model = "openrouter".toList
  · have hstored := strip_stored h
    have hfield : field (normalizeModelIdentityFields env model) "openrouter_native_model_id" =
        .str (storedOpenrouterId env model) := by
      rw [field_normalize, if_pos rfl, openrouterField_eq h hopenrouter]
    have hnonempty : storedOpenrouterId env model ≠ [] := by
      intro hnil
      rw [hnil] at hstored
      exact hstored rfl
    rw [firstText_str hfield, if_neg hnonempty, if_pos hstored, if_pos hopenrouter]
  · rw [firstText_openrouter hopenrouter, if_pos (strip_canonical hne), if_neg hopenrouter]

/-! ## Complete normal forms -/

/-- The fields that a normal form assigns. -/
def identityFields : List String :=
  ["canonical_model_id", "model_id", "provider", "execution_provider", "native_model_id", "provider_native_model_id",
    "openrouter_native_model_id"]

theorem field_normalize_other {name : String} (h : name ∉ identityFields) :
    field (normalizeModelIdentityFields env model) name = field model name := by
  simp only [identityFields, List.mem_cons, List.not_mem_nil, or_false, not_or] at h
  obtain ⟨hcanonical, hmodelId, hprovider, hexecution, hnative, hprovided, hopenrouter⟩ := h
  rw [field_normalize, if_neg hopenrouter, field_withIdentity, if_neg hcanonical, if_neg hmodelId,
    if_neg (not_or.2 ⟨hprovider, hexecution⟩), if_neg (not_or.2 ⟨hnative, hprovided⟩)]

theorem isFinite_normalize {name : String} (h : name ∉ identityFields) (positive : Bool) :
    isFinite env (normalizeModelIdentityFields env model) name positive = isFinite env model name positive := by
  unfold isFinite
  rw [field_normalize_other h]

theorem strip_providerOf_ne_nil : strip (providerOf env model) ≠ [] ↔ providerOf env model ≠ [] := by
  refine not_congr ⟨fun hblank => ?_, fun hnil => by rw [hnil]; rfl⟩
  have hsame := @lower_strip_providerOf env model
  rw [hblank, (env.lower_eq_nil []).2 rfl] at hsame
  exact hsame.symm

/-- The identifier that a pool must not have twice. -/
def idKey (env : Env) (model : Fields) : Text := env.lower (strip (firstText env model ["model_id"]))

theorem firstText_modelId (h : Identified env model) :
    firstText env (normalizeModelIdentityFields env model) ["model_id"] = strip (firstText env model ["model_id"]) := by
  have hfield : field (normalizeModelIdentityFields env model) "model_id" = .str (modelIdOf env model) :=
    field_normalize_of (by decide) (by rw [field_withIdentity]; simp)
  rw [firstText_str hfield, modelIdOf_eq h, if_neg h.modelId]

theorem idKey_normalize (h : Identified env model) : idKey env (normalizeModelIdentityFields env model) = idKey env model := by
  unfold idKey
  rw [firstText_modelId h, strip_strip]

/-- The normal form of a complete model lacks a provider at most. -/
theorem complete_normalize_iff (h : candidateCompletenessIssues env model = []) :
    candidateCompletenessIssues env (normalizeModelIdentityFields env model) = [] ↔ providerOf env model ≠ [] := by
  have hidentified := identified_of_complete h
  have hprovider : field (normalizeModelIdentityFields env model) "provider" = .str (providerOf env model) :=
    field_normalize_of (by decide) (by rw [field_withIdentity]; simp)
  have hexecution : field (normalizeModelIdentityFields env model) "execution_provider" = .str (providerOf env model) :=
    field_normalize_of (by decide) (by rw [field_withIdentity]; simp)
  have hnative : field (normalizeModelIdentityFields env model) "provider_native_model_id" = .str (nativeOf env model) :=
    field_normalize_of (by decide) (by rw [field_withIdentity]; simp)
  have hproviderText : firstText env (normalizeModelIdentityFields env model) ["provider", "execution_provider"] =
      providerOf env model := by
    rw [firstText_str hprovider, firstText_str hexecution, firstText_nil]
    split
    · rename_i hnil
      rw [hnil]
    · rfl
  obtain ⟨hnativeNe, hnativeStrip⟩ := nativeOf_spec hidentified
  simp only [candidateCompletenessIssues, List.append_eq_nil_iff, issueUnless_eq_nil, bne_iff_ne] at h ⊢
  rw [firstText_modelId hidentified, strip_strip, hproviderText, strip_providerOf_ne_nil, firstText_str hnative, if_neg hnativeNe,
    hnativeStrip]
  repeat rw [field_normalize_other (by decide)]
  repeat rw [isFinite_normalize (by decide)]
  simp only [h, hnativeNe, ne_eq, not_false_eq_true, true_and, and_true]

/-! ## The checks of a pool -/

/-- What is missing of a model, the identifier being one of those seen. -/
def missingOf (env : Env) (seen : List Text) (model : Fields) : List String :=
  candidateCompletenessIssues env model ++ if idKey env model ∈ seen then ["unique_model_id"] else []

theorem missingOf_eq_nil {seen : List Text} :
    missingOf env seen model = [] ↔ candidateCompletenessIssues env model = [] ∧ idKey env model ∉ seen := by
  rw [missingOf, List.append_eq_nil_iff]
  by_cases h : idKey env model ∈ seen
  · simp [h]
  · simp [h]

theorem checkModel_obj {checked : Checked} {i : Nat} (h : missingOf env checked.seen model = []) :
    checkModel env checked (.obj model, i) =
      { checked with normalized := checked.normalized ++ [model], seen := idKey env model :: checked.seen } := by
  rw [missingOf, idKey] at h
  rw [checkModel, idKey]
  dsimp only
  rw [if_neg (not_not.2 h)]

theorem checkModel_missing {checked : Checked} {i : Nat} (h : missingOf env checked.seen model ≠ []) :
    ∃ issue, (checkModel env checked (.obj model, i)).issues = checked.issues ++ [issue] := by
  rw [missingOf, idKey] at h
  rw [checkModel]
  dsimp only
  rw [if_pos h]
  exact ⟨_, rfl⟩

/-- A model without issues is complete, and its identifier is new. -/
theorem checkModel_issues {checked : Checked} {entry : Value × Nat} (h : (checkModel env checked entry).issues = []) :
    checked.issues = [] ∧ ∃ model, entry.1 = .obj model ∧ missingOf env checked.seen model = [] := by
  obtain ⟨value, i⟩ := entry
  by_cases hobj : ∃ model, value = .obj model
  · obtain ⟨model, rfl⟩ := hobj
    by_cases hmissing : missingOf env checked.seen model = []
    · rw [checkModel_obj hmissing] at h
      exact ⟨h, model, rfl, hmissing⟩
    · obtain ⟨issue, hissue⟩ := checkModel_missing (i := i) hmissing
      rw [hissue] at h
      simp at h
  · unfold checkModel at h
    dsimp only at h
    split at h
    · rename_i model
      exact absurd ⟨model, rfl⟩ hobj
    · simp at h

/-- A pool without issues: its models are complete and have identifiers of their own. -/
theorem foldl_checkModel (l : List (Value × Nat)) {checked : Checked} (h : (l.foldl (checkModel env) checked).issues = []) :
    checked.issues = [] ∧ ∃ pool : List Fields, l.map (·.1) = pool.map Value.obj ∧
      (∀ model ∈ pool, candidateCompletenessIssues env model = []) ∧
      (pool.map (idKey env)).Nodup ∧ ∀ model ∈ pool, idKey env model ∉ checked.seen := by
  induction l generalizing checked with
  | nil => exact ⟨h, [], rfl, List.forall_mem_nil _, List.nodup_nil, List.forall_mem_nil _⟩
  | cons entry l ih =>
    obtain ⟨hstep, pool, hpool, hcomplete, hnodup, hunseen⟩ := ih h
    obtain ⟨hissues, model, hmodel, hmissing⟩ := checkModel_issues hstep
    obtain ⟨hmodelComplete, hnew⟩ := missingOf_eq_nil.1 hmissing
    have hseen : (checkModel env checked entry).seen = idKey env model :: checked.seen := by
      have hentry : entry = (.obj model, entry.2) := Prod.ext hmodel rfl
      rw [hentry, checkModel_obj hmissing]
    rw [hseen] at hunseen
    refine ⟨hissues, model :: pool, ?_, List.forall_mem_cons.2 ⟨hmodelComplete, hcomplete⟩, ?_, ?_⟩
    · rw [List.map_cons, List.map_cons, hmodel, hpool]
    · rw [List.map_cons, List.nodup_cons]
      refine ⟨fun hmem => ?_, hnodup⟩
      obtain ⟨other, hother, hsame⟩ := List.mem_map.1 hmem
      exact hunseen other hother (hsame ▸ List.mem_cons_self)
    · intro other hother
      rcases List.mem_cons.1 hother with rfl | hother
      · exact hnew
      · exact fun hmem => hunseen other hother (List.mem_cons_of_mem _ hmem)

theorem foldl_checkModel_of {pool : List Fields} (hcomplete : ∀ model ∈ pool, candidateCompletenessIssues env model = [])
    (hnodup : (pool.map (idKey env)).Nodup) {l : List (Value × Nat)} (hl : l.map (·.1) = pool.map Value.obj) {checked : Checked}
    (hunseen : ∀ model ∈ pool, idKey env model ∉ checked.seen) :
    (l.foldl (checkModel env) checked).issues = checked.issues ∧
      (l.foldl (checkModel env) checked).normalized = checked.normalized ++ pool := by
  induction pool generalizing l checked with
  | nil =>
    obtain rfl := List.map_eq_nil_iff.1 hl
    exact ⟨rfl, (List.append_nil _).symm⟩
  | cons model pool ih =>
    cases l with
    | nil => cases hl
    | cons entry l =>
      obtain ⟨hmodel, hrest⟩ := List.cons.inj hl
      have hentry : entry = (.obj model, entry.2) := Prod.ext hmodel rfl
      obtain ⟨hown, hothers⟩ := List.nodup_cons.1 hnodup
      have hmissing : missingOf env checked.seen model = [] :=
        missingOf_eq_nil.2 ⟨hcomplete model List.mem_cons_self, hunseen model List.mem_cons_self⟩
      rw [List.foldl_cons, hentry, checkModel_obj hmissing]
      have hothersUnseen : ∀ other ∈ pool, idKey env other ∉ idKey env model :: checked.seen := by
        intro other hother hmem
        rcases List.mem_cons.1 hmem with hsame | hmem
        · exact hown (hsame ▸ List.mem_map_of_mem hother)
        · exact hunseen other (List.mem_cons_of_mem _ hother) hmem
      obtain ⟨hissues, hnormalized⟩ := @ih (fun other hother => hcomplete other (List.mem_cons_of_mem _ hother)) hothers l hrest
        { checked with normalized := checked.normalized ++ [model], seen := idKey env model :: checked.seen } hothersUnseen
      refine ⟨hissues, hnormalized.trans ?_⟩
      rw [List.append_assoc, List.singleton_append]

/-! ## The selection of models -/

theorem selectKey_eq (model : Fields) :
    pyStr env.toEnv (field (normalizeModelIdentityFields env model) "canonical_model_id") = canonicalModelIdentity env model := by
  have hfield : field (normalizeModelIdentityFields env model) "canonical_model_id" = .str (canonicalModelIdentity env model) :=
    field_normalize_of (by decide) (by rw [field_withIdentity]; simp)
  rw [hfield]
  rfl

/-- A model is selected under a new key, or there are no more models than before. -/
theorem selectModel_cases (selected : List (Text × Fields)) (model : Fields) :
    (canonicalModelIdentity env model ≠ [] ∧ canonicalModelIdentity env model ∉ selected.map (·.1) ∧
      selectModel env selected model = selected ++ [(canonicalModelIdentity env model, model)]) ∨
    ((canonicalModelIdentity env model = [] ∨ canonicalModelIdentity env model ∈ selected.map (·.1)) ∧
      (selectModel env selected model).length = selected.length) := by
  unfold selectModel
  dsimp only
  rw [selectKey_eq]
  split
  · rename_i hblank
    exact Or.inr ⟨Or.inl hblank, rfl⟩
  · rename_i hne
    split
    · rename_i hnone
      refine Or.inl ⟨hne, fun hmem => ?_, rfl⟩
      obtain ⟨p, hp, hsame⟩ := List.mem_map.1 hmem
      have hdiffer := List.find?_eq_none.1 hnone p hp
      rw [hsame] at hdiffer
      exact hdiffer (beq_self_eq_true _)
    · rename_i current hcurrent
      have hmem : canonicalModelIdentity env model ∈ selected.map (·.1) := by
        have hsame := List.find?_some hcurrent
        exact List.mem_map.2 ⟨current, List.mem_of_find?_eq_some hcurrent, eq_of_beq hsame⟩
      refine Or.inr ⟨Or.inr hmem, ?_⟩
      split
      · exact List.length_map _
      · rfl

theorem foldl_selectModel_le (pool : List Fields) (selected : List (Text × Fields)) :
    (pool.foldl (selectModel env) selected).length ≤ selected.length + pool.length := by
  induction pool generalizing selected with
  | nil => exact le_rfl
  | cons model pool ih =>
    refine (ih _).trans ?_
    rw [List.length_cons]
    rcases @selectModel_cases env selected model with ⟨-, -, hselect⟩ | ⟨-, hselect⟩
    · rw [hselect, List.length_append, List.length_singleton]
      omega
    · omega

/-- Every model of a pool is selected where each has a key of its own. -/
theorem foldl_selectModel_iff (pool : List Fields) (selected : List (Text × Fields)) :
    (pool.foldl (selectModel env) selected).length = selected.length + pool.length ↔
      (∀ model ∈ pool, canonicalModelIdentity env model ≠ []) ∧ (pool.map (canonicalModelIdentity env)).Nodup ∧
        ∀ model ∈ pool, canonicalModelIdentity env model ∉ selected.map (·.1) := by
  induction pool generalizing selected with
  | nil => simp
  | cons model pool ih =>
    rw [List.foldl_cons, List.length_cons]
    rcases @selectModel_cases env selected model with ⟨hne, hnew, hselect⟩ | ⟨hwhy, hselect⟩
    · have hih := ih (selectModel env selected model)
      rw [hselect, List.length_append, List.length_singleton, Nat.add_assoc, Nat.add_comm 1] at hih
      rw [hselect, hih]
      simp only [List.map_append, List.map_cons, List.map_nil, List.mem_append, List.mem_singleton, List.forall_mem_cons,
        List.nodup_cons, List.mem_map]
      grind
    · have hle := @foldl_selectModel_le env pool (selectModel env selected model)
      refine iff_of_false (by omega) ?_
      rintro ⟨hnamed, -, hunseen⟩
      rcases hwhy with hblank | hmem
      · exact hnamed model List.mem_cons_self hblank
      · exact hunseen model List.mem_cons_self hmem

theorem foldl_selectModel_of {pool : List Fields} (hnamed : ∀ model ∈ pool, canonicalModelIdentity env model ≠ [])
    (hnodup : (pool.map (canonicalModelIdentity env)).Nodup) (selected : List (Text × Fields))
    (hunseen : ∀ model ∈ pool, canonicalModelIdentity env model ∉ selected.map (·.1)) :
    (pool.foldl (selectModel env) selected).map (·.2) = selected.map (·.2) ++ pool := by
  induction pool generalizing selected with
  | nil => exact (List.append_nil _).symm
  | cons model pool ih =>
    obtain ⟨hown, hothers⟩ := List.nodup_cons.1 hnodup
    obtain ⟨hne, hnamed⟩ := List.forall_mem_cons.1 hnamed
    obtain ⟨hnew, hunseen⟩ := List.forall_mem_cons.1 hunseen
    rcases @selectModel_cases env selected model with ⟨-, -, hselect⟩ | ⟨hwhy, -⟩
    · rw [List.foldl_cons, ih hnamed hothers, hselect, List.map_append, List.append_assoc]
      · rfl
      · intro other hother hmem
        rw [hselect, List.map_append, List.mem_append] at hmem
        rcases hmem with hmem | hmem
        · exact hunseen other hother hmem
        · have hsame : canonicalModelIdentity env other = canonicalModelIdentity env model := List.mem_singleton.1 hmem
          exact hown (hsame ▸ List.mem_map_of_mem hother)
    · rcases hwhy with hblank | hmem
      · exact absurd hblank hne
      · exact absurd hmem hnew

end ReloadAux

/-- A pool that passes the validation. -/
structure ValidPool (env : Env) (pool : List Fields) : Prop where
  size : minRouteCandidates ≤ pool.length ∧ pool.length ≤ maxRouteCandidates
  complete : ∀ model ∈ pool, candidateCompletenessIssues env model = []
  ids : (pool.map (ReloadAux.idKey env)).Nodup
  named : ∀ model ∈ pool, canonicalModelIdentity env model ≠ []
  identities : (pool.map (canonicalModelIdentity env)).Nodup

namespace ReloadAux

variable {env : Env} {model : Fields} {pool : List Fields}

/-! ## Validation -/

/-- What the loop has found of a list. -/
def checkedOf (env : Env) (models : List Value) : Checked := models.zipIdx.foldl (checkModel env) {}

theorem validate_arr_iff {models : List Value} {routeName : Text} :
    validateCompleteCandidatePool env (.arr models) routeName = .ok pool ↔
      (checkedOf env models).issues = [] ∧
        (dedupeCanonicalModels env (checkedOf env models).normalized).length = (checkedOf env models).normalized.length ∧
        (minRouteCandidates ≤ pool.length ∧ pool.length ≤ maxRouteCandidates) ∧
        pool = dedupeCanonicalModels env (checkedOf env models).normalized := by
  rw [validateCompleteCandidatePool]
  dsimp only [checkedOf]
  generalize models.zipIdx.foldl (checkModel env) {} = checked
  obtain ⟨issues, normalized, seen⟩ := checked
  dsimp only
  generalize dedupeCanonicalModels env normalized = deduped
  by_cases hsame : deduped.length = normalized.length
  · rw [if_neg (not_not.2 hsame), List.append_nil]
    by_cases hsize : minRouteCandidates ≤ deduped.length ∧ deduped.length ≤ maxRouteCandidates
    · by_cases hissues : issues = []
      · rw [if_neg (not_or.2 ⟨not_not.2 hsize, not_not.2 hissues⟩)]
        constructor
        · intro h
          obtain rfl := Except.ok.inj h
          exact ⟨hissues, hsame, hsize, rfl⟩
        · rintro ⟨-, -, -, rfl⟩
          rfl
      · rw [if_pos (Or.inr hissues)]
        exact iff_of_false nofun fun h => hissues h.1
    · rw [if_pos (Or.inl hsize)]
      refine iff_of_false nofun ?_
      rintro ⟨-, -, hfits, rfl⟩
      exact hsize hfits
  · rw [if_pos hsame, if_pos (Or.inr (List.append_ne_nil_of_right_ne_nil _ (List.cons_ne_nil _ _)))]
    exact iff_of_false nofun fun h => hsame h.2.1

theorem dedupe_of_valid (h : ValidPool env pool) : dedupeCanonicalModels env pool = pool :=
  foldl_selectModel_of h.named h.identities [] (fun _ _ => List.not_mem_nil)

/-- What is validated is a list of models that form a valid pool, and it is returned as it is. -/
theorem validate_ok_iff {value : Value} {routeName : Text} :
    validateCompleteCandidatePool env value routeName = .ok pool ↔ value = .arr (pool.map .obj) ∧ ValidPool env pool := by
  constructor
  · intro h
    unfold validateCompleteCandidatePool at h
    split at h
    · rename_i models
      obtain ⟨hissues, hsame, hsize, hpool⟩ := validate_arr_iff.1 h
      obtain ⟨-, complete, hmodels, hcomplete, hids, hunseen⟩ := foldl_checkModel _ hissues
      obtain ⟨-, hnormalized⟩ := foldl_checkModel_of hcomplete hids hmodels hunseen
      have hnormal : (checkedOf env models).normalized = complete := hnormalized
      rw [hnormal] at hsame hpool
      rw [List.zipIdx_map_fst] at hmodels
      have hlength : (complete.foldl (selectModel env) []).length = ([] : List (Text × Fields)).length + complete.length := by
        rw [dedupeCanonicalModels, List.length_map] at hsame
        rw [hsame, List.length_nil, Nat.zero_add]
      obtain ⟨hnamed, hidentities, hnew⟩ := (foldl_selectModel_iff complete []).1 hlength
      have heq : pool = complete := hpool.trans (foldl_selectModel_of hnamed hidentities [] hnew)
      subst heq
      exact ⟨congrArg Value.arr hmodels, hsize, hcomplete, hids, hnamed, hidentities⟩
    · cases h
  · rintro ⟨rfl, hvalid⟩
    have hmodels : ((pool.map Value.obj).zipIdx).map (·.1) = pool.map Value.obj := List.zipIdx_map_fst _ _
    have hunseen : ∀ model ∈ pool, idKey env model ∉ ({} : Checked).seen := fun _ _ => List.not_mem_nil
    obtain ⟨hissues, hnormalized⟩ := foldl_checkModel_of hvalid.complete hvalid.ids hmodels hunseen
    have hnormal : (checkedOf env (pool.map Value.obj)).normalized = pool := hnormalized
    refine validate_arr_iff.2 ⟨hissues, ?_, hvalid.size, ?_⟩
    · rw [hnormal, dedupe_of_valid hvalid]
    · rw [hnormal, dedupe_of_valid hvalid]

/-- A valid pool in its normal form is valid where it loads back. -/
theorem valid_normalize_iff (h : ValidPool env pool) :
    ValidPool env (pool.map (normalizeModelIdentityFields env)) ↔ Reloads env pool := by
  have hidentity : ∀ model ∈ pool, canonicalModelIdentity env (normalizeModelIdentityFields env model) = rereadIdentity env model :=
    fun model hmodel => canonical_normalize (identified_of_complete (h.complete model hmodel)) (h.named model hmodel)
  have hcomplete : ∀ model ∈ pool,
      candidateCompletenessIssues env (normalizeModelIdentityFields env model) = [] ↔ providerOf env model ≠ [] :=
    fun model hmodel => complete_normalize_iff (h.complete model hmodel)
  have hids : (pool.map (normalizeModelIdentityFields env)).map (idKey env) = pool.map (idKey env) := by
    rw [List.map_map]
    exact List.map_congr_left fun model hmodel => idKey_normalize (identified_of_complete (h.complete model hmodel))
  have hidentities : (pool.map (normalizeModelIdentityFields env)).map (canonicalModelIdentity env) =
      pool.map (rereadIdentity env) := by
    rw [List.map_map]
    exact List.map_congr_left hidentity
  constructor
  · intro hvalid
    refine ⟨?_, ?_, hidentities ▸ hvalid.identities⟩
    · intro model hmodel
      exact (hcomplete model hmodel).1 (hvalid.complete _ (List.mem_map_of_mem hmodel))
    · intro model hmodel
      exact hidentity model hmodel ▸ hvalid.named _ (List.mem_map_of_mem hmodel)
  · intro hreloads
    refine ⟨by rw [List.length_map]; exact h.size, ?_, hids ▸ h.ids, ?_, hidentities ▸ hreloads.distinct⟩
    · intro normal hnormal
      obtain ⟨model, hmodel, rfl⟩ := List.mem_map.1 hnormal
      exact (hcomplete model hmodel).2 (hreloads.provider model hmodel)
    · intro normal hnormal
      obtain ⟨model, hmodel, rfl⟩ := List.mem_map.1 hnormal
      rw [hidentity model hmodel]
      exact hreloads.named model hmodel

/-! ## Versions -/

theorem isSpace_hexDigit {n : Nat} (h : n < 16) : isSpace (Json.hexDigit n) = false := by
  have hall : ∀ n < 16, isSpace (Json.hexDigit n) = false := by decide
  exact hall n h

/-- A version is a text without white space. -/
theorem strip_version (routeName : Text) (models : List Fields) :
    strip (candidatePoolVersion env routeName models) = candidatePoolVersion env routeName models := by
  refine PyText.strip_of_noSpace ?_
  intro c hc
  obtain ⟨byte, -, hdigit⟩ := List.mem_flatMap.1 hc
  have hbyte := byte.toNat_lt
  simp only [List.mem_cons, List.not_mem_nil, or_false] at hdigit
  rcases hdigit with rfl | rfl
  · exact isSpace_hexDigit (by omega)
  · exact isSpace_hexDigit (by omega)

theorem version_ne_nil (routeName : Text) (models : List Fields) : candidatePoolVersion env routeName models ≠ [] := by
  intro hnil
  have hlength : (candidatePoolVersion env routeName models).length = 64 := by
    rw [candidatePoolVersion, hexdigest, List.length_flatMap]
    simp
  rw [hnil] at hlength
  cases hlength

/-! ## Loading -/

/-- A pool with its own version is loaded where it is valid. -/
theorem load_iff {store : Store} {routeName : Text} {row : PoolRow} (hrow : store.pools.lookup routeName = some row)
    (hversion : row.poolVersion = candidatePoolVersion env routeName row.models) (hsize : row.models.length ≤ maxRouteCandidates) :
    loadVersionedCandidatePool env store routeName row.poolVersion 7 = .ok row.models ↔ ValidPool env row.models := by
  have hlimit : routeCandidateLimit 7 = maxRouteCandidates := rfl
  have hstrip : strip row.poolVersion = row.poolVersion := by rw [hversion, strip_version]
  have hne : row.poolVersion ≠ [] := hversion ▸ version_ne_nil _ _
  rw [loadVersionedCandidatePool, hrow]
  dsimp only
  rw [List.take_of_length_le hsize, hlimit, hstrip]
  constructor
  · intro h
    obtain ⟨models, hvalidated, h⟩ := bind_ok h
    obtain ⟨hmodels, hvalid⟩ := validate_ok_iff.1 hvalidated
    have hsame : models = row.models :=
      (List.map_injective_iff.2 (fun _ _ h => Value.obj.inj h) (Value.arr.inj hmodels)).symm
    exact hsame ▸ hvalid
  · intro hvalid
    rw [validate_ok_iff.2 ⟨rfl, hvalid⟩, Outcome.ok_bind]
    rw [← hversion, if_neg (by simp [hne]), List.take_of_length_le hsize]

/-! ## Saving -/

/-- What a pool that is saved has been made of. -/
def SavedFrom (env : Env) (route : Text × Value) (pool : SavedPool) : Prop :=
  ∃ models, route.2 = .arr (models.map .obj) ∧ ValidPool env models ∧ pool.routeName = route.1 ∧
    pool.models = models.map (normalizeModelIdentityFields env) ∧
    pool.poolVersion = candidatePoolVersion env pool.routeName pool.models

theorem savedFrom_of {route : Text × Value} {normal : Text × List Fields} {pool : SavedPool}
    (hnormal : normalizePool env route = .ok normal) (hpool : versionPool env normal = .ok pool) : SavedFrom env route pool := by
  obtain ⟨models, hvalidated, rfl⟩ := map_ok hnormal
  obtain ⟨hmodels, hvalid⟩ := validate_ok_iff.1 hvalidated
  unfold versionPool at hpool
  dsimp only at hpool
  split at hpool
  · cases hpool
  · cases hpool
    exact ⟨models, hmodels, hvalid, rfl, rfl, rfl⟩

theorem savedFrom_all {routes : List (Text × Value)} {normalized : List (Text × List Fields)} {pools : List SavedPool}
    (hnormalized : List.Forall₂ (fun route normal => normalizePool env route = .ok normal) routes normalized)
    (hpools : List.Forall₂ (fun normal pool => versionPool env normal = .ok pool) normalized pools) :
    List.Forall₂ (SavedFrom env) routes pools := by
  induction hnormalized generalizing pools with
  | nil =>
    cases hpools
    exact List.Forall₂.nil
  | cons hroute _ ih =>
    cases hpools with
    | cons hpool hrest => exact List.Forall₂.cons (savedFrom_of hroute hpool) (ih hrest)

/-- The pools that are saved are those of the routes, one each. -/
theorem prepare_ok {setup : Except Refusal Unit} {routeCandidates : RouteCandidates} {pools : List SavedPool}
    (h : preparePools env setup routeCandidates = .ok pools) : List.Forall₂ (SavedFrom env) routeCandidates.pools pools := by
  obtain ⟨normalized, hnormalized, hrest⟩ := bind_ok h
  obtain ⟨pools', hpools, hrest⟩ := bind_ok hrest
  obtain ⟨-, -, hrest⟩ := bind_ok hrest
  cases hrest
  exact savedFrom_all (Outcome.forall₂_mapM hnormalized) (Outcome.forall₂_mapM hpools)

theorem names_saved {routes : List (Text × Value)} {pools : List SavedPool} (h : List.Forall₂ (SavedFrom env) routes pools) :
    pools.map (·.routeName) = routes.map (·.1) := by
  induction h with
  | nil => rfl
  | cons hroute _ ih =>
    obtain ⟨_, -, -, hname, -, -⟩ := hroute
    rw [List.map_cons, List.map_cons, hname, ih]

theorem exists_saved {routes : List (Text × Value)} {pools : List SavedPool} (h : List.Forall₂ (SavedFrom env) routes pools)
    {route : Text × Value} (hroute : route ∈ routes) : ∃ pool ∈ pools, SavedFrom env route pool := by
  induction h with
  | nil => cases hroute
  | cons hfirst _ ih =>
    rcases List.mem_cons.1 hroute with rfl | hroute
    · exact ⟨_, List.mem_cons_self, hfirst⟩
    · obtain ⟨pool, hpool, hsaved⟩ := ih hroute
      exact ⟨pool, List.mem_cons_of_mem _ hpool, hsaved⟩

theorem pools_foldl_writePool (pools : List SavedPool) (store : Store) :
    (pools.foldl writePool store).pools =
      (pools.map fun pool => (pool.routeName, pool.row)).foldl (fun d p => d.insert p.1 p.2) store.pools := by
  induction pools generalizing store with
  | nil => rfl
  | cons pool pools ih => exact ih _

/-- The rows after a save are those of the pools that were saved. -/
theorem lookup_saved {store : Store} {pools : List SavedPool} (hn : (pools.map (·.routeName)).Nodup) {pool : SavedPool}
    (hpool : pool ∈ pools) :
    (deleteOthers (writePolicy env (pools.foldl writePool store) pools) pools).pools.lookup pool.routeName = some pool.row := by
  have hnames : (pools.map fun pool => (pool.routeName, pool.row)).map Prod.fst = pools.map (·.routeName) := by
    rw [List.map_map]
    rfl
  refine (Table.lookup_keep _).2 ⟨decide_eq_true (List.mem_map_of_mem hpool), ?_⟩
  show (pools.foldl writePool store).pools.lookup pool.routeName = some pool.row
  rw [pools_foldl_writePool, Table.lookup_foldl_insert (by rwa [hnames])]
  exact Or.inl (List.mem_map.2 ⟨pool, hpool, rfl⟩)

end ReloadAux

open ReloadAux

/-- A pool that was saved loads back, under the version that was written into the policy, if and only if its models have providers and
identities of their own when they are read again. -/
theorem saved_pool_loads_iff {env : Env} {setup : Except Refusal Unit} {store store' : Store} {routeCandidates : RouteCandidates}
    (h : saveCandidatePool env setup store routeCandidates = .ok store') {routeName : Text} {models : Value}
    (hroute : (routeName, models) ∈ routeCandidates.pools) :
    ∃ pool row policy, models = .arr (pool.map .obj) ∧ store'.pools.lookup routeName = some row ∧
      row.models = pool.map (normalizeModelIdentityFields env) ∧ store'.policy = some policy ∧
      (routeName, row.poolVersion) ∈ policy.candidatePoolVersions ∧
      (loadVersionedCandidatePool env store' routeName row.poolVersion 7 = .ok row.models ↔ Reloads env pool) := by
  obtain ⟨pools, hprepared, rfl⟩ := map_ok h
  have hsaved := prepare_ok hprepared
  obtain ⟨saved, hmem, pool, hmodels, hvalid, hname, hnormal, hversion⟩ := exists_saved hsaved hroute
  dsimp only at hmodels hname
  subst hname
  have hrow := @lookup_saved env store _ ((names_saved hsaved).symm ▸ routeCandidates.nodup) _ hmem
  refine ⟨pool, saved.row, policyOf env pools, hmodels, hrow, hnormal, rfl, List.mem_map.2 ⟨saved, hmem, rfl⟩, ?_⟩
  have hsize : saved.row.models.length ≤ maxRouteCandidates := by
    show saved.models.length ≤ _
    rw [hnormal, List.length_map]
    exact hvalid.size.2
  rw [load_iff hrow hversion hsize]
  show ValidPool env saved.models ↔ _
  rw [hnormal, valid_normalize_iff hvalid]

/-! ## Pools of five models -/

/-- SHA-256 that is the same of every text, and the letters of ASCII. -/
def exampleEnv : Env :=
  { Accounting.environment [] (Vector.replicate 32 0) with
    sha256 := fun _ => Vector.replicate 32 0
    sameLetter := fun l c => l == c.toLower }

/-- A complete model. -/
def exampleModel (modelId provider native canonical : String) : Value :=
  .obj
    [("model_id", .str modelId.toList), ("provider", .str provider.toList), ("native_model_id", .str native.toList),
      ("canonical_model_id", .str canonical.toList), ("profile_hydrated", .bool true), ("strengths", .arr []),
      ("context_k_tokens", .int 128), ("latency_ms", .int 500), ("input_price_per_million", .int 1),
      ("output_price_per_million", .int 2), ("supports_tools", .bool true), ("supports_json", .bool true),
      ("supports_reasoning_effort", .bool false), ("quality_calibration", .obj [("version", .int 3), ("routes", .obj [])]),
      (profileEmbeddingField, .obj [])]

/-- Four models of OpenAI and another one. -/
def exampleCandidates (last : Value) : RouteCandidates where
  pools :=
    [("support".toList, .arr
      [exampleModel "openai/a" "openai" "a" "", exampleModel "openai/b" "openai" "b" "", exampleModel "openai/c" "openai" "c" "",
        exampleModel "openrouter/vendor/d" "openrouter" "vendor/d" "vendor/d", last])]
  nodup := List.nodup_singleton _

theorem saved_pool_loads_plain : ∃ store,
    saveCandidatePool exampleEnv (.ok ()) {} (exampleCandidates (exampleModel "openai/e" "openai" "e" "")) = .ok store ∧
    ∃ pool row policy,
      (exampleCandidates (exampleModel "openai/e" "openai" "e" "")).pools = [("support".toList, .arr (pool.map .obj))] ∧
      store.pools.lookup "support".toList = some row ∧ row.models = pool.map (normalizeModelIdentityFields exampleEnv) ∧
      store.policy = some policy ∧ ("support".toList, row.poolVersion) ∈ policy.candidatePoolVersions ∧
      (loadVersionedCandidatePool exampleEnv store "support".toList row.poolVersion 7 = .ok row.models ↔ Reloads exampleEnv pool) := by
  have hsaved : (saveCandidatePool exampleEnv (.ok ()) {}
      (exampleCandidates (exampleModel "openai/e" "openai" "e" ""))).isOk = true := by decide +kernel
  obtain ⟨store, hok⟩ := Outcome.ok_of_isOk hsaved
  obtain ⟨pool, row, policy, hmodels, hrest⟩ := saved_pool_loads_iff hok List.mem_cons_self
  exact ⟨store, hok, pool, row, policy, congrArg (fun models => [("support".toList, models)]) hmodels, hrest⟩

/-- Two models of OpenRouter have one native identifier, and canonical identifiers that tell them apart: the pool is saved, and refused
when it is loaded. -/
theorem saved_pool_refused : ∃ store row,
    saveCandidatePool exampleEnv (.ok ()) {}
      (exampleCandidates (exampleModel "openrouter/vendor/d:free" "openrouter" "vendor/d" "vendor/d:free")) = .ok store ∧
    store.pools.lookup "support".toList = some row ∧
    loadVersionedCandidatePool exampleEnv store "support".toList row.poolVersion 7 ≠ .ok row.models := by
  have hrefused : ((saveCandidatePool exampleEnv (.ok ()) {}
      (exampleCandidates (exampleModel "openrouter/vendor/d:free" "openrouter" "vendor/d" "vendor/d:free"))).toOption.any fun store =>
    (store.pools.lookup "support".toList).any fun row =>
      (loadVersionedCandidatePool exampleEnv store "support".toList row.poolVersion 7).toOption.isNone) = true := by decide +kernel
  obtain ⟨store, hstore, hrefused⟩ := Outcome.ok_of_any hrefused
  obtain ⟨row, hrow, hnone⟩ := (Option.any_eq_true _ _).1 hrefused
  refine ⟨store, row, hstore, hrow, ?_⟩
  intro hloaded
  rw [hloaded] at hnone
  cases hnone

end CandidatePool

end PromptRail
