import PromptRail.CandidateSelection.Catalog

/-!
# Pools that are selected

Whatever the selector answers, the pools of a setup are made of models of the hydrated catalog, as they are there: a model of the answer is
looked up in the catalog, and what it is replaced by is the first of its equivalents there.
-/

namespace PromptRail

namespace CandidateSelection

open PyText (Text strip)
open Json (Fields Value truthy get?)
open Accounting (field pyStr field_set)
open CandidatePool
open CandidatePool.ReloadAux
open Outcome (bind_ok map_ok)

namespace SelectedAux

variable {env : Env} {catalog : List Fields}

/-! ## Models with a name of their own -/

/-- A model that says which one it is. -/
def Named (model : Fields) : Prop := ∃ identity, field model "canonical_model_id" = .str identity ∧ strip identity ≠ []

/-- Another identifier makes no other model of it. -/
theorem canonical_setId {model : Fields} (h : Named model) (id : Value) :
    canonicalModelIdentity env.base (Json.set model "model_id" id) = canonicalModelIdentity env.base model := by
  obtain ⟨identity, hfield, hidentity⟩ := h
  have hother : ∀ names : List String, "model_id" ∉ names →
      firstText env.base (Json.set model "model_id" id) names = firstText env.base model names := by
    intro names hnames
    refine firstText_congr fun name hname => ?_
    rw [field_set, if_neg]
    rintro rfl
    exact hnames hname
  have hcanonical : strip (firstText env.base model ["canonical_model_id"]) ≠ [] := by
    have hne : identity ≠ [] := fun hnil => hidentity (by rw [hnil]; rfl)
    rwa [firstText_str hfield, if_neg hne]
  simp only [canonicalModelIdentity, providerOf, hother ["openrouter_native_model_id"] (by decide),
    hother ["canonical_model_id"] (by decide), hother ["execution_provider", "provider"] (by decide)]
  -- the identifier is not looked at, as there is a canonical one
  split <;> rfl

theorem precedence_setId (model : Fields) (id : Value) :
    providerPrecedence env.base (Json.set model "model_id" id) = providerPrecedence env.base model := by
  have hprovider : providerOf env.base (Json.set model "model_id" id) = providerOf env.base model := by
    unfold providerOf
    refine congrArg (fun text => env.base.lower (strip text)) (firstText_congr fun name hname => ?_)
    rw [field_set, if_neg]
    rintro rfl
    simp at hname
  rw [providerPrecedence, providerPrecedence, hprovider]

/-- A hydrated catalog names its models. -/
theorem named_normalize {model : Fields} (h : canonicalModelIdentity env.base model ≠ []) :
    Named (normalizeModelIdentityFields env.base model) :=
  ⟨canonicalModelIdentity env.base model, field_normalize_of (by decide) (by rw [field_withIdentity]; simp), strip_canonical h⟩

/-! ## The first provider -/

theorem firstProvider_cons (best other : Fields) (others : List Fields) : firstProvider env best (other :: others) =
    firstProvider env (if providerPrecedence env.base other < providerPrecedence env.base best then other else best) others := rfl

/-- The first of some models is one of them, and none comes before it. -/
theorem firstProvider_spec (best : Fields) (others : List Fields) : firstProvider env best others ∈ best :: others ∧
    providerPrecedence env.base (firstProvider env best others) ≤ providerPrecedence env.base best ∧
    ∀ other ∈ others, providerPrecedence env.base (firstProvider env best others) ≤ providerPrecedence env.base other := by
  induction others generalizing best with
  | nil => exact ⟨List.mem_cons_self, le_rfl, fun _ hother => absurd hother List.not_mem_nil⟩
  | cons other others ih =>
    rw [firstProvider_cons]
    by_cases hless : providerPrecedence env.base other < providerPrecedence env.base best
    · rw [if_pos hless]
      obtain ⟨hmem, hle, hothers⟩ := ih other
      exact ⟨List.mem_cons_of_mem _ hmem, by omega, List.forall_mem_cons.2 ⟨hle, hothers⟩⟩
    · rw [if_neg hless]
      obtain ⟨hmem, hle, hothers⟩ := ih best
      refine ⟨?_, hle, List.forall_mem_cons.2 ⟨by omega, hothers⟩⟩
      rcases List.mem_cons.1 hmem with hmem | hmem
      · rw [hmem]
        exact List.mem_cons_self
      · exact List.mem_cons_of_mem _ (List.mem_cons_of_mem _ hmem)

theorem firstProvider_concat (best : Fields) (others : List Fields) (last : Fields) : firstProvider env best (others ++ [last]) =
    if providerPrecedence env.base last < providerPrecedence env.base (firstProvider env best others) then last
    else firstProvider env best others :=
  List.foldl_append

/-- A model of the catalog under any identifier is replaced by a model of the catalog. -/
theorem prefer_mem {model : Fields} (hmodel : model ∈ catalog) (hnamed : Named model) (hne : canonicalModelIdentity env.base model ≠ [])
    (id : Value) : preferDirectProvider env catalog (Json.set model "model_id" id) ∈ catalog := by
  have hmem : model ∈ equivalents env catalog (Json.set model "model_id" id) := by
    refine List.mem_filter.2 ⟨hmodel, ?_⟩
    rw [canonical_setId hnamed, beq_self_eq_true, Bool.true_and, bne_iff_ne]
    exact hne
  have hsub : ∀ other ∈ equivalents env catalog (Json.set model "model_id" id), other ∈ catalog :=
    fun other hother => (List.mem_filter.1 hother).1
  unfold preferDirectProvider
  split
  · rename_i hnil
    rw [hnil] at hmem
    exact absurd hmem List.not_mem_nil
  · rename_i first rest heq
    rw [heq] at hmem hsub
    obtain ⟨hfirst, hle, hothers⟩ := @firstProvider_spec env first rest
    have hown : providerPrecedence env.base (firstProvider env first rest) ≤ providerPrecedence env.base model := by
      rcases List.mem_cons.1 hmem with rfl | hmem
      · exact hle
      · exact hothers model hmem
    rw [firstProvider_concat, if_neg]
    · exact hsub _ hfirst
    · rw [precedence_setId]
      omega

/-! ## The answer -/

/-- A model of the catalog, under some identifier. -/
def Renamed (catalog : List Fields) (model : Fields) : Prop := ∃ own ∈ catalog, ∃ id, model = Json.set own "model_id" id

theorem renamed_of_find {modelId : Text} {model : Fields} (h : catalogModelById modelId catalog = some model) :
    Renamed catalog model := by
  obtain ⟨own, hown, rfl⟩ := Option.map_eq_some_iff.1 h
  exact ⟨own, List.mem_of_find?_eq_some hown, _, rfl⟩

theorem renamed_normalizeModels {values : List Value} {seen : List Text} {models : List Fields}
    (h : normalizeModels env catalog values seen = .ok models) : ∀ model ∈ models, Renamed catalog model := by
  induction values generalizing seen models with
  | nil =>
    cases h
    exact List.forall_mem_nil _
  | cons value values ih =>
    rw [normalizeModels] at h
    split at h
    · exact ih h
    · split at h
      · cases h
      · split at h
        · cases h
        · rename_i normalized hfind
          obtain ⟨rest, hrest, rfl⟩ := map_ok h
          exact List.forall_mem_cons.2 ⟨renamed_of_find hfind, ih hrest⟩

/-- Every model of every pool of an answer is in the catalog. -/
theorem renamed_answer {selectorResult : Value} {pools : Pools} (h : normalizeSelectorResult env selectorResult catalog = .ok pools)
    {name : Text} {models : List Fields} (hpool : pools.lookup name = some models) : ∀ model ∈ models, Renamed catalog model := by
  have hinv : ∀ name models, pools.lookup name = some models → ∀ model ∈ models, Renamed catalog model := by
    refine Outcome.foldlM_inv (I := fun pools : Pools => ∀ name models, pools.lookup name = some models →
      ∀ model ∈ models, Renamed catalog model) ?_ ?_ h
    · intro assignment pools pools' hpools hnext name models hlookup
      obtain ⟨assigned, hassigned, rfl⟩ := map_ok hnext
      rcases Table.of_lookup_insert hlookup with ⟨-, rfl⟩ | ⟨-, hold⟩
      · exact renamed_normalizeModels hassigned
      · exact hpools name models hold
    · intro name models hnone
      cases hnone
  exact hinv name models hpool

/-! ## Routes -/

/-- What the loop over the routes has checked of a pool. -/
structure Checks (env : Env) (catalog : List Fields) (demand : Demand) (models : List Fields) : Prop where
  valid : ValidPool env.base models
  limit : models.length ≤ demand.targetLimit
  required : ∀ provider ∈ demand.requiredProviders, provider ∈ models.map (executableProviderForModel env.base)

theorem checkRoute_ok {routeCandidates : Pools} {demand : Demand} {route : Text} {models : List Fields}
    (h : checkRoute env catalog routeCandidates demand route = .ok models) : Checks env catalog demand models ∧
      models = preferDirectProviderModels env ((routeCandidates.lookup route).getD []) catalog := by
  unfold checkRoute at h
  dsimp only at h
  split at h
  · cases h
  · rename_i pool hpool
    obtain ⟨harr, hvalid⟩ := validate_ok_iff.1 hpool
    have hsame : preferDirectProviderModels env ((routeCandidates.lookup route).getD []) catalog = pool :=
      List.map_injective_iff.2 (fun _ _ heq => Value.obj.inj heq) (Value.arr.inj harr)
    split at h
    · cases h
    rename_i hlimit
    split at h
    · cases h
    split at h
    · cases h
    split at h
    · cases h
    split at h
    · cases h
    rename_i hmissing
    cases h
    refine ⟨⟨hvalid, by omega, fun provider hprovider => ?_⟩, hsame.symm⟩
    by_contra habsent
    have hlisted : provider ∈ demand.requiredProviders.filter fun provider =>
        provider ∉ models.map (executableProviderForModel env.base) :=
      List.mem_filter.2 ⟨hprovider, decide_eq_true habsent⟩
    rw [not_not.1 hmissing] at hlisted
    exact absurd hlisted List.not_mem_nil

/-- Without issues every route has its pool. -/
theorem validatedPools_of {routeCandidates : Pools} {demand : Demand} {routes : List Text}
    (h : routes.filterMap (routeIssue env catalog routeCandidates demand) = []) :
    (validatedPools env catalog routeCandidates demand routes).map (·.1) = routes ∧
      ∀ pool ∈ validatedPools env catalog routeCandidates demand routes,
        checkRoute env catalog routeCandidates demand pool.1 = .ok pool.2 := by
  constructor
  · induction routes with
    | nil => rfl
    | cons route routes ih =>
      rw [List.filterMap_cons] at h
      split at h
      · rename_i hnone
        unfold routeIssue at hnone
        split at hnone
        · cases hnone
        · rename_i models hmodels
          rw [validatedPools, List.filterMap_cons, hmodels]
          exact congrArg (route :: ·) (ih h)
      · cases h
  · intro pool hpool
    obtain ⟨route, -, hroute⟩ := List.mem_filterMap.1 hpool
    obtain ⟨models, hmodels, rfl⟩ := Option.map_eq_some_iff.1 hroute
    exact Outcome.ok_of_toOption hmodels

/-! ## Occurrences -/

theorem occurrences_cons (pool : Text × List Fields) (pools : List (Text × List Fields)) {modelId : Text} (h : modelId ≠ []) :
    occurrences env (pool :: pools) modelId = (pool.2.map (listedId env)).count modelId + occurrences env pools modelId := by
  have hpool : ((pool.2.filter fun model => listedId env model != []).map (listedId env)).count modelId =
      (pool.2.map (listedId env)).count modelId := by
    have hfilter : (pool.2.map (listedId env)).filter (· != []) = (pool.2.filter fun model => listedId env model != []).map (listedId env) :=
      List.filter_map
    rw [← hfilter, List.count_filter (by simpa using h)]
  rw [occurrences, listedModels, List.flatMap_cons, List.filter_append, List.map_append, List.count_append, ← hpool]
  rfl

/-- A model occurs at least once in every pool that has it. -/
theorem countP_le_occurrences (pools : List (Text × List Fields)) {modelId : Text} (h : modelId ≠ []) :
    (pools.countP fun pool => (pool.2.map (listedId env)).contains modelId) ≤ occurrences env pools modelId := by
  induction pools with
  | nil => exact Nat.zero_le _
  | cons pool pools ih =>
    rw [List.countP_cons, occurrences_cons pool pools h]
    by_cases hmem : modelId ∈ pool.2.map (listedId env)
    · have hcount : 0 < (pool.2.map (listedId env)).count modelId := List.count_pos_iff.2 hmem
      rw [if_pos (List.contains_iff_mem.2 hmem)]
      omega
    · rw [if_neg fun hcontains => hmem (List.contains_iff_mem.1 hcontains)]
      omega

/-- A complete model is listed under the identifier that tells it apart. -/
theorem listedId_of_complete {model : Fields} (h : candidateCompletenessIssues env.base model = []) :
    listedId env model ≠ [] ∧ idKey env.base model = env.base.lower (listedId env model) := by
  have hid := (identified_of_complete h).modelId
  have htext : firstText env.base model ["model_id", "model", "id"] = firstText env.base model ["model_id"] := by
    rw [firstText_cons] at hid
    split at hid
    · rename_i htrue
      rw [firstText_cons, firstText_cons model "model_id", if_pos htrue, if_pos htrue]
    · exact absurd rfl hid
  rw [listedId, htext, idKey]
  exact ⟨hid, rfl⟩

/-- Models of a valid catalog that are listed alike are the same. -/
theorem eq_of_listedId (h : ValidCatalog env.base catalog) {model other : Fields} (hmodel : model ∈ catalog) (hother : other ∈ catalog)
    (hsame : listedId env model = listedId env other) : model = other := by
  refine List.inj_on_of_nodup_map h.ids hmodel hother ?_
  rw [(listedId_of_complete (h.complete model hmodel)).2, (listedId_of_complete (h.complete other hother)).2, hsame]

/-- Without issues no model whose provider is not exempt is in more pools than allowed. -/
theorem occurrences_le (h : ValidCatalog env.base catalog) {pools : List (Text × List Fields)}
    (hpools : ∀ pool ∈ pools, ∀ model ∈ pool.2, model ∈ catalog) {demand : Demand} {maximum : Int} (hpos : 0 < maximum)
    (hmaximum : demand.maxModelRouteOccurrences = some maximum) (hissues : occurrenceIssues env pools demand = [])
    {model : Fields} (hmodel : model ∈ catalog)
    (hexempt : executableProviderForModel env.base model ∉ demand.routeOccurrenceExemptProviders) :
    (occurrences env pools (listedId env model) : Int) ≤ maximum := by
  by_contra hmany
  have hoccurs : listedId env model ∈ (listedModels env pools).map (listedId env) := by
    refine List.count_pos_iff.1 (Nat.pos_of_ne_zero fun hzero => hmany ?_)
    rw [occurrences, hzero]
    exact_mod_cast hpos.le
  have hprovider : occurringProvider env pools (listedId env model) = executableProviderForModel env.base model := by
    obtain ⟨listed, hlisted, hid⟩ := List.mem_map.1 hoccurs
    unfold occurringProvider
    cases hfind : (listedModels env pools).reverse.find? fun other => listedId env other == listedId env model with
    | none => exact absurd (beq_iff_eq.2 hid) (List.find?_eq_none.1 hfind listed (List.mem_reverse.2 hlisted))
    | some last =>
      have hlast := (List.mem_filter.1 (List.mem_reverse.1 (List.mem_of_find?_eq_some hfind))).1
      obtain ⟨pool, hpool, hmem⟩ := List.mem_flatMap.1 hlast
      have hid := List.find?_some hfind
      have hsame : last = model := eq_of_listedId h (hpools pool hpool last hmem) hmodel (by simpa using hid)
      rw [Option.elim_some, hsame]
  unfold occurrenceIssues at hissues
  rw [hmaximum] at hissues
  dsimp only at hissues
  have hlisted : listedId env model ∈ ((listedModels env pools).map (listedId env)).dedup.insertionSort (· ≤ ·) :=
    (List.mem_insertionSort _).2 (List.mem_dedup.2 hoccurs)
  have hnone := List.filterMap_eq_nil_iff.1 hissues (listedId env model) hlisted
  rw [if_pos ⟨hprovider ▸ hexempt, by omega⟩] at hnone
  cases hnone

/-! ## What is asked -/

/-- A limit of occurrences is a positive one. -/
theorem maximum_pos {metadata : Fields} {routes : Nat} {maximum : Int}
    (h : maxModelRouteOccurrences env metadata routes = .ok (some maximum)) : 0 < maximum := by
  unfold maxModelRouteOccurrences at h
  split at h
  · cases h
  · cases h
  · split at h
    · cases h
    · split at h
      · cases h
      · cases h
        omega

theorem demandOf_ok {metadata : Fields} {routes : Nat} {limit : Int} {demand : Demand}
    (h : demandOf env metadata routes limit = .ok demand) : demand.targetLimit = routeCandidateLimit limit ∧
      ∀ maximum, demand.maxModelRouteOccurrences = some maximum → 0 < maximum := by
  obtain ⟨required, -, h⟩ := bind_ok h
  obtain ⟨maxOccurrences, hmax, h⟩ := bind_ok h
  obtain ⟨exempt, -, h⟩ := bind_ok h
  cases h
  refine ⟨rfl, fun maximum hmaximum => ?_⟩
  exact maximum_pos (hmax.trans (congrArg Except.ok hmaximum))

/-- Whatever was answered, what is accepted for a route is of the catalog. -/
theorem mem_catalog_of_checked {selectorResult : Value} {routeCandidates : Pools} {demand : Demand} {route : Text} {models : List Fields}
    (hnamed : ∀ own ∈ catalog, Named own ∧ canonicalModelIdentity env.base own ≠ [])
    (hanswer : normalizeSelectorResult env selectorResult catalog = .ok routeCandidates)
    (h : checkRoute env catalog routeCandidates demand route = .ok models) : ∀ model ∈ models, model ∈ catalog := by
  intro model hmodel
  rw [(checkRoute_ok h).2] at hmodel
  obtain ⟨answered, hanswered, rfl⟩ := List.mem_map.1 hmodel
  cases hlookup : routeCandidates.lookup route with
  | none =>
    rw [hlookup] at hanswered
    exact absurd hanswered List.not_mem_nil
  | some listed =>
    rw [hlookup] at hanswered
    obtain ⟨own, hown, id, rfl⟩ := renamed_answer hanswer hlookup answered hanswered
    exact prefer_mem hown (hnamed own hown).1 (hnamed own hown).2 id

end SelectedAux

open SelectedAux CatalogAux

/-- An answer that names five models for each of two routes. -/
def fiveForTwo : Selector :=
  let ids := ["openai/a", "openai/b", "opus", "together/c", "openrouter/x/d"]
  some fun _ _ => .ok (.obj [("routes", .obj [("code", .arr (ids.map fun id => .str id.toList)),
    ("docs", .obj [("models", .arr (ids.map fun id => .obj [("model", .str (' ' :: id.toList))]))])])])

/-- What a user asks for: a provider in every pool, and no model in more than two of them. -/
def twoAtMost : Fields :=
  [("required_providers", .arr [.str " Anthropic".toList]), ("max_model_route_occurrences", .str "2".toList),
    ("route_occurrence_exempt_providers", .arr [.str "openai".toList])]

end CandidateSelection

end PromptRail
