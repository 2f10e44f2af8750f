import PromptRail.CandidatePool.Reload
import PromptRail.CandidateSelection

/-!
# Catalogs that are hydrated

A catalog that is validated holds complete models with identifiers and identities of their own, and is the same when it is validated again.
Hydration rejects an entry of a catalog, or makes a model of it and of the profile under its alias.
-/

namespace PromptRail

namespace CandidateSelection

open PyText (Text strip)
open Json (Fields Value truthy get?)
open Accounting (field pyStr)
open CandidatePool
open CandidatePool.ReloadAux
open Outcome (bind_ok)

/-- A catalog that passes the validation. -/
structure ValidCatalog (env : CandidatePool.Env) (catalog : List Fields) : Prop where
  size : minRouteCandidates ≤ catalog.length
  executable : ∀ model ∈ catalog, isFalse (field model "executable") = false
  complete : ∀ model ∈ catalog, candidateCompletenessIssues env model = []
  ids : (catalog.map (idKey env)).Nodup
  named : ∀ model ∈ catalog, canonicalModelIdentity env model ≠ []
  identities : (catalog.map (canonicalModelIdentity env)).Nodup

/-- A model that is hydrated from an entry of a catalog. -/
def HydratedFrom (env : CandidateSelection.Env) (profiles : ProfileStore) (entry normal : Fields) : Prop :=
  ∃ profile hydrated, profiles (catalogProfileAlias env entry) = some (.obj profile) ∧
    hydrateModel env entry profile (modelIdOf env.base entry) (catalogProfileAlias env entry) = some hydrated ∧
    candidateCompletenessIssues env.base hydrated = [] ∧ normal = normalizeModelIdentityFields env.base hydrated

namespace CatalogAux

variable {env : CandidatePool.Env}

/-! ## Models that are selected -/

/-- Models selected from others, each under its identity. -/
structure Keyed (env : CandidatePool.Env) (models : List Fields) (selected : List (Text × Fields)) : Prop where
  own : ∀ p ∈ selected, p.1 = canonicalModelIdentity env p.2 ∧ p.1 ≠ [] ∧ p.2 ∈ models
  keys : (selected.map (·.1)).Nodup

/-- A model is replaced under its own key. -/
theorem keys_replaced (selected : List (Text × Fields)) (key : Text) (model : Fields) :
    (selected.map fun p => if p.1 = key then (key, model) else p).map (·.1) = selected.map (·.1) := by
  rw [List.map_map]
  refine List.map_congr_left fun p _ => ?_
  by_cases hp : p.1 = key
  · simp [hp]
  · simp [hp]

theorem keyed_selectModel {models : List Fields} {selected : List (Text × Fields)} (h : Keyed env models selected) {model : Fields}
    (hmodel : model ∈ models) : Keyed env models (selectModel env selected model) := by
  unfold selectModel
  dsimp only
  rw [selectKey_eq]
  split
  · exact h
  · rename_i hne
    split
    · rename_i hnone
      constructor
      · intro p hp
        rcases List.mem_append.1 hp with hp | hp
        · exact h.own p hp
        · obtain rfl := List.mem_singleton.1 hp
          exact ⟨rfl, hne, hmodel⟩
      · rw [List.map_append, List.nodup_append']
        refine ⟨h.keys, List.nodup_singleton _, ?_⟩
        intro key hkey hown
        obtain rfl := List.mem_singleton.1 hown
        obtain ⟨p, hp, hsame⟩ := List.mem_map.1 hkey
        have hdiffer := List.find?_eq_none.1 hnone p hp
        exact hdiffer (beq_iff_eq.2 hsame)
    · split
      · constructor
        · intro p hp
          obtain ⟨q, hq, rfl⟩ := List.mem_map.1 hp
          split
          · exact ⟨rfl, hne, hmodel⟩
          · exact h.own q hq
        · rw [keys_replaced]
          exact h.keys
      · exact h

theorem keyed_foldl {models rest : List Fields} (hrest : ∀ model ∈ rest, model ∈ models) {selected : List (Text × Fields)}
    (h : Keyed env models selected) : Keyed env models (rest.foldl (selectModel env) selected) := by
  induction rest generalizing selected with
  | nil => exact h
  | cons model rest ih =>
    obtain ⟨hmodel, hrest⟩ := List.forall_mem_cons.1 hrest
    exact ih hrest (keyed_selectModel h hmodel)

/-- What is selected are models of the list, with identities of their own. -/
theorem dedupe_spec (models : List Fields) : (∀ model ∈ dedupeCanonicalModels env models, model ∈ models) ∧
    (∀ model ∈ dedupeCanonicalModels env models, canonicalModelIdentity env model ≠ []) ∧
    ((dedupeCanonicalModels env models).map (canonicalModelIdentity env)).Nodup := by
  have hkeyed : Keyed env models (models.foldl (selectModel env) []) :=
    keyed_foldl (fun _ hmodel => hmodel) ⟨fun _ hp => absurd hp List.not_mem_nil, List.nodup_nil⟩
  have hown : ∀ model ∈ dedupeCanonicalModels env models, model ∈ models ∧ canonicalModelIdentity env model ≠ [] := by
    intro model hmodel
    obtain ⟨p, hp, rfl⟩ := List.mem_map.1 hmodel
    obtain ⟨hkey, hne, hmem⟩ := hkeyed.own p hp
    exact ⟨hmem, hkey ▸ hne⟩
  refine ⟨fun model hmodel => (hown model hmodel).1, fun model hmodel => (hown model hmodel).2, ?_⟩
  have hkeys : (dedupeCanonicalModels env models).map (canonicalModelIdentity env) = (models.foldl (selectModel env) []).map (·.1) := by
    rw [dedupeCanonicalModels, List.map_map]
    exact List.map_congr_left fun p hp => ((hkeyed.own p hp).1).symm
  rw [hkeys]
  exact hkeyed.keys

/-! ## Validation -/

/-- The entries of a catalog that may be executed. -/
theorem mem_executable {catalog : List Value} {model : Fields} (h : .obj model ∈ executableCatalog catalog) :
    .obj model ∈ catalog ∧ isFalse (field model "executable") = false := by
  obtain ⟨hmem, hexecutable⟩ := List.mem_filter.1 h
  exact ⟨hmem, by simpa using hexecutable⟩

/-- Distinct images of a list keep the images of what is selected of it apart. -/
theorem nodup_map_of_subset {α β γ : Type} {f : α → β} {g : α → γ} {all chosen : List α} (hall : (all.map f).Nodup)
    (hchosen : (chosen.map g).Nodup) (hsub : ∀ a ∈ chosen, a ∈ all) : (chosen.map f).Nodup := by
  refine (List.nodup_map_iff_inj_on (List.Nodup.of_map g hchosen)).2 fun a ha b hb hsame => ?_
  exact List.inj_on_of_nodup_map hall (hsub a ha) (hsub b hb) hsame

theorem requireExplicit_ok_iff {value : Value} {entries : List Value} : requireExplicitModelCatalog value = .ok entries ↔
    ∃ catalog, value = .arr catalog ∧ entries = executableCatalog catalog ∧ minRouteCandidates ≤ entries.length := by
  unfold requireExplicitModelCatalog
  split
  · rename_i model models
    dsimp only
    split
    · rename_i hshort
      refine iff_of_false nofun ?_
      rintro ⟨catalog, hcatalog, rfl, hlong⟩
      cases hcatalog
      omega
    · rename_i hlong
      constructor
      · intro h
        cases h
        exact ⟨_, rfl, rfl, by omega⟩
      · rintro ⟨catalog, hcatalog, rfl, -⟩
        cases hcatalog
        rfl
  · rename_i hnot
    refine iff_of_false nofun ?_
    rintro ⟨catalog, rfl, rfl, hlong⟩
    cases catalog with
    | nil => cases hlong
    | cons model models => exact hnot model models rfl

theorem executable_map (models : List Fields) (h : ∀ model ∈ models, isFalse (field model "executable") = false) :
    executableCatalog (models.map .obj) = models.map .obj := by
  refine List.filter_eq_self.2 ?_
  rw [List.forall_mem_map]
  intro model hmodel
  simp [h model hmodel]

/-- What is validated are models of the value, and they form a valid catalog. -/
theorem validateHydrated_ok {env : CandidateSelection.Env} {value : Value} {models : List Fields}
    (h : validateHydratedModelCatalog env value = .ok models) :
    ValidCatalog env.base models ∧ ∃ catalog, value = .arr catalog ∧ ∀ model ∈ models, .obj model ∈ catalog := by
  obtain ⟨entries, hentries, h⟩ := bind_ok h
  obtain ⟨catalog, rfl, rfl, -⟩ := requireExplicit_ok_iff.1 hentries
  dsimp only at h
  split at h
  · cases h
  · rename_i hfine
    obtain ⟨hissues, hsize⟩ := not_or.1 hfine
    cases h
    obtain ⟨-, complete, hmodels, hcomplete, hids, hunseen⟩ := foldl_checkModel _ (not_not.1 hissues)
    obtain ⟨-, hnormalized⟩ := foldl_checkModel_of hcomplete hids hmodels hunseen
    rw [List.nil_append] at hnormalized
    rw [hnormalized] at hsize ⊢
    rw [List.zipIdx_map_fst] at hmodels
    obtain ⟨hsub, hnamed, hidentities⟩ := @dedupe_spec env.base complete
    have hentry : ∀ model ∈ dedupeCanonicalModels env.base complete, .obj model ∈ executableCatalog catalog := by
      intro model hmodel
      rw [hmodels]
      exact List.mem_map_of_mem (hsub model hmodel)
    refine ⟨⟨by omega, ?_, ?_, ?_, hnamed, hidentities⟩, catalog, rfl, fun model hmodel => (mem_executable (hentry model hmodel)).1⟩
    · exact fun model hmodel => (mem_executable (hentry model hmodel)).2
    · exact fun model hmodel => hcomplete model (hsub model hmodel)
    · exact nodup_map_of_subset hids hidentities hsub

/-- A valid catalog is validated as it is. -/
theorem validateHydrated_of_valid {env : CandidateSelection.Env} {models : List Fields} (h : ValidCatalog env.base models) :
    validateHydratedModelCatalog env (.arr (models.map .obj)) = .ok models := by
  have hexecutable := executable_map models h.executable
  have hentries : requireExplicitModelCatalog (.arr (models.map .obj)) = .ok (models.map .obj) := by
    refine requireExplicit_ok_iff.2 ⟨_, rfl, hexecutable.symm, ?_⟩
    rw [List.length_map]
    exact h.size
  have hmodels : ((models.map Value.obj).zipIdx).map (·.1) = models.map Value.obj := List.zipIdx_map_fst _ _
  have hunseen : ∀ model ∈ models, idKey env.base model ∉ ({} : Checked).seen := fun _ _ => List.not_mem_nil
  obtain ⟨hissues, hnormalized⟩ := foldl_checkModel_of h.complete h.ids hmodels hunseen
  have hdedupe : dedupeCanonicalModels env.base models = models :=
    foldl_selectModel_of h.named h.identities [] fun _ _ => List.not_mem_nil
  have hsize := h.size
  rw [validateHydratedModelCatalog, hentries, Outcome.ok_bind]
  dsimp only
  rw [hissues, hnormalized, List.nil_append, hdedupe, if_neg]
  simp
  omega

/-! ## Hydration -/

variable {env : CandidateSelection.Env} {profiles : ProfileStore}

/-- Every entry that was looked at is hydrated or rejected. -/
structure Accounted (env : CandidateSelection.Env) (profiles : ProfileStore) (raw : List Value) (hydration : Hydration) : Prop where
  from_raw : ∀ normal ∈ hydration.hydrated, ∃ entry, .obj entry ∈ raw ∧ HydratedFrom env profiles entry normal
  count : hydration.hydrated.length + hydration.rejections.length = raw.length

theorem accounted_reject {raw : List Value} {hydration : Hydration} (h : Accounted env profiles raw hydration) (entry : Value)
    (rejection : Rejection) : Accounted env profiles (raw ++ [entry]) (hydration.reject rejection) where
  from_raw normal hnormal := by
    obtain ⟨model, hmodel, hfrom⟩ := h.from_raw normal hnormal
    exact ⟨model, List.mem_append_left _ hmodel, hfrom⟩
  count := by
    have hcount := h.count
    simp only [Hydration.reject, List.length_append, List.length_singleton]
    omega

theorem accounted_entry {raw : List Value} {hydration hydration' : Hydration} {entry : Value} (h : Accounted env profiles raw hydration)
    (hentry : hydrateEntry env profiles hydration entry = .ok hydration') : Accounted env profiles (raw ++ [entry]) hydration' := by
  unfold hydrateEntry at hentry
  split at hentry
  · rename_i model
    dsimp only at hentry
    split at hentry
    · cases hentry
      exact accounted_reject h _ _
    · split at hentry
      · cases hentry
        exact accounted_reject h _ _
      · split at hentry
        · cases hentry
        · rename_i profile hprofile
          split at hentry
          · cases hentry
          · rename_i hydrated hhydrated
            split at hentry
            · cases hentry
              exact accounted_reject h _ _
            · rename_i hmissing
              cases hentry
              have hcomplete := (List.append_eq_nil_iff.1 (not_not.1 hmissing)).2
              constructor
              · intro normal hnormal
                rcases List.mem_append.1 hnormal with hnormal | hnormal
                · obtain ⟨other, hother, hfrom⟩ := h.from_raw normal hnormal
                  exact ⟨other, List.mem_append_left _ hother, hfrom⟩
                · refine ⟨model, List.mem_append_right _ List.mem_cons_self, profile, hydrated, hprofile, hhydrated, hcomplete, ?_⟩
                  exact List.mem_singleton.1 hnormal
              · have hcount := h.count
                simp only [List.length_append, List.length_singleton]
                omega
        · cases hentry
          exact accounted_reject h _ _
  · cases hentry
    exact accounted_reject h _ _

/-- The loop accounts for the entries of a catalog, one by one. -/
theorem accounted_foldlM {rest raw : List Value} {hydration hydration' : Hydration} (h : Accounted env profiles raw hydration)
    (hrest : rest.foldlM (hydrateEntry env profiles) hydration = .ok hydration') : Accounted env profiles (raw ++ rest) hydration' := by
  induction rest generalizing raw hydration with
  | nil =>
    cases hrest
    rwa [List.append_nil]
  | cons entry rest ih =>
    rw [List.foldlM_cons] at hrest
    obtain ⟨next, hentry, hrest⟩ := bind_ok hrest
    have hnext := ih (accounted_entry h hentry) hrest
    rwa [List.append_assoc, List.singleton_append] at hnext

/-- What hydration returns: models of the loop in normal form, that make a valid catalog. -/
theorem hydrate_ok {profiles : Option ProfileStore} {value : Value} {catalog : List Fields} {rejections : List Rejection}
    (h : hydrateModelCatalog env profiles value = .ok (catalog, rejections)) :
    ∃ store raw hydration, profiles = some store ∧ requireExplicitModelCatalog value = .ok raw ∧ Accounted env store raw hydration ∧
      rejections = hydration.rejections ∧ ValidCatalog env.base catalog ∧
      ∀ model ∈ catalog, ∃ normal ∈ hydration.hydrated, canonicalModelIdentity env.base normal ≠ [] ∧
        model = normalizeModelIdentityFields env.base normal := by
  obtain ⟨raw, hraw, h⟩ := bind_ok h
  cases profiles with
  | none => cases h
  | some store =>
    dsimp only at h
    obtain ⟨hydration, hhydration, h⟩ := bind_ok h
    have hinitial : Accounted env store [] {} := ⟨fun _ hnormal => absurd hnormal List.not_mem_nil, rfl⟩
    have haccounted := accounted_foldlM hinitial hhydration
    rw [List.nil_append] at haccounted
    split at h
    · cases h
    · obtain ⟨models, hmodels, h⟩ := bind_ok h
      cases h
      obtain ⟨hvalid, _, harr, hsub⟩ := validateHydrated_ok hmodels
      cases harr
      obtain ⟨hdedupe, hnamed, -⟩ := @dedupe_spec env.base hydration.hydrated
      refine ⟨store, raw, hydration, rfl, hraw, haccounted, rfl, hvalid, fun model hmodel => ?_⟩
      obtain ⟨enriched, henriched, hsame⟩ := List.mem_map.1 (hsub model hmodel)
      obtain rfl := Value.obj.inj hsame
      obtain ⟨normal, hnormal, rfl⟩ := List.mem_map.1 henriched
      exact ⟨normal, hdedupe normal hnormal, hnamed normal hnormal, rfl⟩

end CatalogAux

open CatalogAux

/-- An environment without digits beyond ASCII. -/
def sampleEnv : CandidateSelection.Env where
  base := exampleEnv
  decimal _ := none
  dict _ := none
  list _ := none

/-- An entry of a catalog, as a user writes it. -/
def catalogEntry (id provider native : String) : Value :=
  .obj [("id", .str id.toList), ("provider", .str provider.toList), ("native_model_id", .str native.toList)]

/-- A profile of a model. -/
def catalogProfile : Value :=
  .obj [("forces", .arr [.str "code".toList]), ("model_context_window", .int 128000), ("latency_ms", .int 500),
    ("model_cost", .obj [("input", .int 1), ("output", .int 2)]), ("supports_tools", .bool true), ("supports_json", .bool true),
    ("supports_reasoning_effort", .bool false), ("quality_calibration", .obj [("version", .int 3), ("routes", .obj [])])]

/-- Profiles of every alias but one. -/
def catalogProfiles : ProfileStore := fun profileAlias => some (if profileAlias = "openai/none".toList then .null else catalogProfile)

/-- Five models, the first one twice, one without a profile, and a number. -/
def catalogValue : Value :=
  .arr [catalogEntry "openai/a" "openai" "a", catalogEntry "OpenAI/A" "openai" "a", catalogEntry "openai/b" "openai" "b",
    catalogEntry "openai/none" "openai" "none", catalogEntry "opus" "anthropic" "claude-opus-4-1-20250805", .int 3,
    catalogEntry "together/c" "together" "c", catalogEntry "openrouter/x/d" "openrouter" "x/d"]

end CandidateSelection

end PromptRail
