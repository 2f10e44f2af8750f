import PromptRail.Routing.Authorised
import Mathlib.Data.List.Perm.Basic

/-!
# The order of the candidates

A selection does not depend on the order in which it is given the models and their routes: the cheapest route is the first in an order
without ties, and so is every decision in the ranking.
-/

namespace PromptRail

open Outcome (bind_ok forall₂_mapM mem_of_mapM mapM_cases)

namespace Routing

/-- Two candidates differ in the order of their routes only. -/
structure SameCandidate (candidate candidate' : RouterCandidate) : Prop where
  modelId : candidate.modelId = candidate'.modelId
  routes : candidate.routes.Perm candidate'.routes
  quality : candidate.quality = candidate'.quality
  contextWindowTokens : candidate.contextWindowTokens = candidate'.contextWindowTokens
  capabilities : candidate.capabilities = candidate'.capabilities
  routerScore : candidate.routerScore = candidate'.routerScore

/-- The same candidates in another order, each with its routes in another order. -/
def Reordered (candidates candidates' : List RouterCandidate) : Prop :=
  ∃ between, candidates.Perm between ∧ List.Forall₂ SameCandidate between candidates'

/-- The scores of a ranker do not depend on the order it is given the candidates in: it raises in both cases, or gives the same score to
every model. -/
def OrderFree (rank : Ranker) : Prop :=
  ∀ (intent : CallIntent) (candidates candidates' : List RouterCandidate) (timeoutMs : Int),
    (candidates.map (·.modelId)).Nodup → Reordered candidates candidates' →
    ((∃ e, rank intent candidates timeoutMs = .error e) ∧ ∃ e, rank intent candidates' timeoutMs = .error e) ∨
    ∃ scores scores', rank intent candidates timeoutMs = .ok scores ∧ rank intent candidates' timeoutMs = .ok scores' ∧
      ∀ modelId, scores.lookup modelId = scores'.lookup modelId

/-- What a decision says beside the order of the routes of its model. -/
structure RankedDecision where
  modelId : String
  route : ProviderRoute
  score : ℚ
  baseRouterScore : ℚ
  predictedCostUsd : ℚ
  predictedInputCostUsd : ℚ
  predictedOutputTokens : Nat
  predictedLatencyMs : Nat
  cacheValue : CacheValue

/-- What a decision says beside the order of the routes of its model. -/
def RouterDecision.ranked (decision : RouterDecision) : RankedDecision where
  modelId := decision.candidate.modelId
  route := decision.route
  score := decision.score
  baseRouterScore := decision.baseRouterScore
  predictedCostUsd := decision.predictedCostUsd
  predictedInputCostUsd := decision.predictedInputCostUsd
  predictedOutputTokens := decision.predictedOutputTokens
  predictedLatencyMs := decision.predictedLatencyMs
  cacheValue := decision.cacheValue

namespace ReorderedAux

variable {candidate candidate' : RouterCandidate} {candidates candidates' : List RouterCandidate}

/-! ## The candidates -/

theorem mem_of_reordered (h : Reordered candidates candidates') :
    (∀ c ∈ candidates, ∃ c' ∈ candidates', SameCandidate c c') ∧ ∀ c' ∈ candidates', ∃ c ∈ candidates, SameCandidate c c' := by
  obtain ⟨between, hperm, hsame⟩ := h
  constructor
  · intro c hc
    obtain ⟨n, hn, rfl⟩ := List.getElem_of_mem (hperm.mem_iff.1 hc)
    have hn' : n < candidates'.length := by rw [← hsame.length_eq]; exact hn
    exact ⟨candidates'.get ⟨n, hn'⟩, List.get_mem _ _, hsame.get hn hn'⟩
  · intro c' hc'
    obtain ⟨n, hn, rfl⟩ := List.getElem_of_mem hc'
    have hn' : n < between.length := by rw [hsame.length_eq]; exact hn
    exact ⟨between.get ⟨n, hn'⟩, hperm.mem_iff.2 (List.get_mem _ _), hsame.get hn' hn⟩

/-- What is the same of every candidate is a permutation of what it is of all. -/
theorem map_of_reordered {β : Type} {f f' : RouterCandidate → β} (h : Reordered candidates candidates')
    (hf : ∀ c c', SameCandidate c c' → f c = f' c') : (candidates.map f).Perm (candidates'.map f') := by
  obtain ⟨between, hperm, hsame⟩ := h
  have heq : between.map f = candidates'.map f' := by
    clear hperm
    induction hsame with
    | nil => rfl
    | cons hfirst _ ih => rw [List.map_cons, List.map_cons, hf _ _ hfirst, ih]
  rw [← heq]
  exact hperm.map f

/-- In an order without ties, the least element of a list is the same in every order of the list. -/
theorem argmin_perm {α κ : Type} [LinearOrder κ] {key : α → κ} {l l' : List α} (h : l.Perm l')
    (hinj : ∀ a ∈ l, ∀ b ∈ l, key a = key b → a = b) : l.argmin key = l'.argmin key := by
  cases hfirst : l.argmin key with
  | none =>
    have hnil : l' = [] := by
      rw [List.argmin_eq_none.1 hfirst] at h
      exact h.nil_eq.symm
    rw [hnil, List.argmin_nil]
  | some a =>
    cases hfirst' : l'.argmin key with
    | none =>
      rw [List.argmin_eq_none.1 hfirst'] at h
      rw [h.eq_nil, List.argmin_nil] at hfirst
      cases hfirst
    | some b =>
      have ha := List.argmin_mem hfirst
      have hb := h.mem_iff.2 (List.argmin_mem hfirst')
      have hle := List.le_of_mem_argmin hb hfirst
      have hle' := List.le_of_mem_argmin (h.mem_iff.1 ha) hfirst'
      rw [hinj a ha b hb (le_antisymm hle hle')]

/-- The cheapest route of a candidate is the same in every order of its routes. -/
theorem cheapest_same (h : SameCandidate candidate candidate') (cost : ProviderRoute → ℚ) :
    candidate.routes.argmin (costKey cost) = candidate'.routes.argmin (costKey cost) := by
  refine argmin_perm h.routes ?_
  intro a ha b hb hkey
  have hid : a.routeId = b.routeId := congrArg (fun k => (ofLex (ofLex k).2).2) hkey
  exact List.inj_on_of_nodup_map candidate.validate_routes.2 ha hb hid

/-! ## One turn of the loop -/

/-- What a turn of the loop says beside the order of the routes. -/
def turn (result : Except RoutingError (String ⊕ RouterDecision)) : Except RoutingError (String ⊕ RankedDecision) :=
  result.map (Sum.map id RouterDecision.ranked)

/-- A turn of the loop says the same of the same candidate, with the same scores. -/
theorem considerCandidate_same (args : SelectArguments) (predicted : Nat) {scores scores' : Scores}
    (hscores : ∀ modelId, scores.lookup modelId = scores'.lookup modelId) (h : SameCandidate candidate candidate') :
    turn (args.considerCandidate scores predicted candidate) = turn (args.considerCandidate scores' predicted candidate') := by
  unfold SelectArguments.considerCandidate
  rw [← h.quality, ← h.capabilities, ← h.contextWindowTokens, ← h.modelId]
  split
  · rfl
  · split
    · rfl
    · split
      · rfl
      · split
        · rfl
        · rename_i value hvalue
          rw [← cheapest_same h]
          split
          · rfl
          · rename_i route hroute
            unfold SelectArguments.priceCandidate
            dsimp only
            rw [← h.modelId, ← hscores]
            split
            · rfl
            · split
              · rfl
              · split
                · rfl
                · simp only [turn, Except.map, Sum.map_inr, RouterDecision.ranked, h.modelId]

/-! ## The loop -/

theorem turn_error {result : Except RoutingError (String ⊕ RouterDecision)} {e : RoutingError} (h : turn result = .error e) :
    result = .error e := by
  cases result with
  | error e' =>
    have he : e' = e := Except.error.inj h
    rw [he]
  | ok x => cases h

theorem mapM_raises {args : SelectArguments} {predicted : Nat} {scores : Scores} (e : RoutingError)
    (hmem : .error e ∈ candidates.map fun c => turn (args.considerCandidate scores predicted c)) :
    ∃ e, candidates.mapM (args.considerCandidate scores predicted) = .error e := by
  obtain ⟨c, hc, hturn⟩ := List.mem_map.1 hmem
  rcases mapM_cases (args.considerCandidate scores predicted) candidates with ⟨considered, hconsidered⟩ | ⟨c', hc', e', -, herror⟩
  · obtain ⟨b, -, hb⟩ := mem_of_mapM hconsidered hc
    rw [turn_error hturn] at hb
    cases hb
  · exact ⟨e', herror⟩

theorem mapM_returns {args : SelectArguments} {predicted : Nat} {scores : Scores} {considered : List (String ⊕ RouterDecision)}
    (h : candidates.mapM (args.considerCandidate scores predicted) = .ok considered) :
    (candidates.map fun c => turn (args.considerCandidate scores predicted c)) =
      (considered.map (Sum.map id RouterDecision.ranked)).map .ok := by
  have hall := forall₂_mapM h
  clear h
  induction hall with
  | nil => rfl
  | cons hfirst _ ih =>
    rw [List.map_cons, List.map_cons, List.map_cons, ih, hfirst]
    rfl

/-- The loops over the same candidates both raise, or say the same of the candidates. -/
theorem mapM_same (args : SelectArguments) (predicted : Nat) {scores scores' : Scores}
    (hscores : ∀ modelId, scores.lookup modelId = scores'.lookup modelId) (h : Reordered candidates candidates') :
    ((∃ e, candidates.mapM (args.considerCandidate scores predicted) = .error e) ∧
      ∃ e, candidates'.mapM (args.considerCandidate scores' predicted) = .error e) ∨
    ∃ considered considered', candidates.mapM (args.considerCandidate scores predicted) = .ok considered ∧
      candidates'.mapM (args.considerCandidate scores' predicted) = .ok considered' ∧
      (considered.map (Sum.map id RouterDecision.ranked)).Perm (considered'.map (Sum.map id RouterDecision.ranked)) := by
  have hturns : (candidates.map fun c => turn (args.considerCandidate scores predicted c)).Perm
      (candidates'.map fun c => turn (args.considerCandidate scores' predicted c)) :=
    map_of_reordered h fun c c' hsame => considerCandidate_same args predicted hscores hsame
  rcases mapM_cases (args.considerCandidate scores predicted) candidates with ⟨considered, hconsidered⟩ | ⟨c, hc, e, he, herror⟩
  · rcases mapM_cases (args.considerCandidate scores' predicted) candidates' with ⟨considered', hconsidered'⟩ | ⟨c, hc, e, he, herror⟩
    · refine Or.inr ⟨considered, considered', hconsidered, hconsidered', ?_⟩
      rw [mapM_returns hconsidered, mapM_returns hconsidered'] at hturns
      exact (List.map_perm_map_iff (fun a b hab => Except.ok.inj hab)).1 hturns
    · exact Or.inl ⟨mapM_raises e (hturns.mem_iff.2 (List.mem_map.2 ⟨c, hc, congrArg turn he⟩)), e, herror⟩
  · exact Or.inl ⟨⟨e, herror⟩, mapM_raises e (hturns.mem_iff.1 (List.mem_map.2 ⟨c, hc, congrArg turn he⟩))⟩

/-! ## The ranking -/

/-- The order of the decisions, by what they say. -/
def rankedKey (decision : RankedDecision) : ℚ ×ₗ ℚ ×ₗ ℚ ×ₗ String :=
  toLex (decision.score, toLex (decision.baseRouterScore, toLex (-decision.predictedCostUsd, decision.modelId)))

theorem filterMap_ranked (considered : List (String ⊕ RouterDecision)) :
    (considered.filterMap Sum.getRight?).map RouterDecision.ranked =
      (considered.map (Sum.map id RouterDecision.ranked)).filterMap Sum.getRight? := by
  induction considered with
  | nil => rfl
  | cons x rest ih =>
    cases x with
    | inl reason => exact ih
    | inr decision => exact congrArg (decision.ranked :: ·) ih

/-- Every decision of the loop is on a candidate of its own. -/
theorem modelIds_nodup {args : SelectArguments} {predicted : Nat} {scores : Scores} {considered : List (String ⊕ RouterDecision)}
    (hids : (candidates.map (·.modelId)).Nodup)
    (h : candidates.mapM (args.considerCandidate scores predicted) = .ok considered) :
    ((considered.filterMap Sum.getRight?).map (·.candidate.modelId)).Nodup := by
  have hall := forall₂_mapM h
  clear h
  have hsub : ((considered.filterMap Sum.getRight?).map (·.candidate.modelId)).Sublist (candidates.map (·.modelId)) := by
    clear hids
    induction hall with
    | nil => exact List.Sublist.refl _
    | @cons c x _ _ hfirst _ ih =>
      cases x with
      | inl reason => exact ih.cons _
      | inr decision =>
        obtain ⟨value, route, baseScore, -, -, -, -, rfl⟩ := SelectedAux.considerCandidate_inr_iff.1 hfirst
        exact ih.cons_cons _
  exact hsub.nodup hids

/-- In a ranking of decisions on different models, every decision comes strictly before the next. -/
theorem ranking_strict {decisions : List RouterDecision} (hids : (decisions.map (·.candidate.modelId)).Nodup) :
    (decisions.insertionSort fun a b => rankKey b ≤ rankKey a).Pairwise fun a b => rankKey b < rankKey a := by
  have hsorted : (decisions.insertionSort fun a b => rankKey b ≤ rankKey a).Pairwise fun a b => rankKey b ≤ rankKey a :=
    List.pairwise_insertionSort _ _
  have hdistinct : (decisions.insertionSort fun a b => rankKey b ≤ rankKey a).Pairwise
      fun a b => a.candidate.modelId ≠ b.candidate.modelId :=
    List.pairwise_map.1 (((List.perm_insertionSort (fun a b => rankKey b ≤ rankKey a) decisions).map _).nodup_iff.2 hids)
  refine (hsorted.and hdistinct).imp ?_
  rintro a b ⟨hle, hne⟩
  refine lt_of_le_of_ne hle ?_
  intro hkey
  exact hne (congrArg (fun k => (ofLex (ofLex (ofLex k).2).2).2) hkey).symm

/-- Two rankings of decisions that say the same are the same. -/
theorem ranking_same {decisions decisions' : List RouterDecision} (hids : (decisions.map (·.candidate.modelId)).Nodup)
    (hids' : (decisions'.map (·.candidate.modelId)).Nodup)
    (h : (decisions.map RouterDecision.ranked).Perm (decisions'.map RouterDecision.ranked)) :
    (decisions.insertionSort fun a b => rankKey b ≤ rankKey a).map RouterDecision.ranked =
      (decisions'.insertionSort fun a b => rankKey b ≤ rankKey a).map RouterDecision.ranked := by
  have hsorted : ∀ {ds : List RouterDecision}, (ds.map (·.candidate.modelId)).Nodup →
      ((ds.insertionSort fun a b => rankKey b ≤ rankKey a).map RouterDecision.ranked).Pairwise
        fun a b => rankedKey b < rankedKey a :=
    fun hnodup => List.pairwise_map.2 (ranking_strict hnodup)
  have hperm := ((List.perm_insertionSort (fun a b => rankKey b ≤ rankKey a) decisions).map RouterDecision.ranked).trans
    (h.trans ((List.perm_insertionSort (fun a b => rankKey b ≤ rankKey a) decisions').map RouterDecision.ranked).symm)
  refine hperm.eq_of_pairwise ?_ (hsorted hids) (hsorted hids')
  intro a b _ _ hab hba
  exact absurd hab (lt_asymm hba)

/-- The decisions on the same candidates are ranked in the same way, or there is none in both cases. -/
theorem rankDecisions_same {args args' : SelectArguments} {predicted : Nat} {scores scores' : Scores}
    {considered considered' : List (String ⊕ RouterDecision)} (hids : (candidates.map (·.modelId)).Nodup)
    (hids' : (candidates'.map (·.modelId)).Nodup)
    (hconsidered : candidates.mapM (args.considerCandidate scores predicted) = .ok considered)
    (hconsidered' : candidates'.mapM (args'.considerCandidate scores' predicted) = .ok considered')
    (hperm : (considered.map (Sum.map id RouterDecision.ranked)).Perm (considered'.map (Sum.map id RouterDecision.ranked))) :
    ((∃ e, rankDecisions considered = .error e) ∧ ∃ e, rankDecisions considered' = .error e) ∨
    ∃ decisions decisions', rankDecisions considered = .ok decisions ∧ rankDecisions considered' = .ok decisions' ∧
      decisions.map RouterDecision.ranked = decisions'.map RouterDecision.ranked ∧
      decisions.Pairwise fun a b => rankKey b < rankKey a := by
  have hdecisions : ((considered.filterMap Sum.getRight?).map RouterDecision.ranked).Perm
      ((considered'.filterMap Sum.getRight?).map RouterDecision.ranked) := by
    rw [filterMap_ranked, filterMap_ranked]
    exact hperm.filterMap _
  have hempty : (considered.filterMap Sum.getRight?).isEmpty = (considered'.filterMap Sum.getRight?).isEmpty := by
    have hlength := hdecisions.length_eq
    rw [List.length_map, List.length_map] at hlength
    rw [Bool.eq_iff_iff, List.isEmpty_iff_length_eq_zero, List.isEmpty_iff_length_eq_zero, hlength]
  unfold rankDecisions
  dsimp only
  rw [← hempty]
  split
  · exact Or.inl ⟨⟨_, rfl⟩, _, rfl⟩
  · exact Or.inr ⟨_, _, rfl, rfl, ranking_same (modelIds_nodup hids hconsidered) (modelIds_nodup hids' hconsidered') hdecisions,
      ranking_strict (modelIds_nodup hids hconsidered)⟩

/-! ## The checks before the loop -/

theorem min?_perm {l l' : List Nat} (h : l.Perm l') : l.min? = l'.min? := by
  refine Option.ext fun a => ?_
  rw [List.min?_eq_some_iff, List.min?_eq_some_iff, h.mem_iff]
  simp only [h.mem_iff]

theorem fastestProviderMs_same (h : Reordered candidates candidates') :
    fastestProviderMs candidates = fastestProviderMs candidates' := by
  obtain ⟨between, hperm, hsame⟩ := h
  have hroutes : (between.flatMap (·.routes)).Perm (candidates'.flatMap (·.routes)) := by
    clear hperm
    induction hsame with
    | nil => exact List.Perm.refl _
    | cons hfirst _ ih =>
      rw [List.flatMap_cons, List.flatMap_cons]
      exact hfirst.routes.append ih
  exact min?_perm (((hperm.flatMap_right _).trans hroutes).map _)

theorem modelIds_perm (h : Reordered candidates candidates') :
    (candidates.map (·.modelId)).Perm (candidates'.map (·.modelId)) :=
  map_of_reordered h fun _ _ hsame => hsame.modelId

theorem keys_same {scores scores' : Scores} (h : ∀ modelId, scores.lookup modelId = scores'.lookup modelId) :
    scores.keys.toFinset = scores'.keys.toFinset := by
  ext modelId
  rw [List.mem_toFinset, List.mem_toFinset, ← AList.mem_keys, ← AList.mem_keys, Table.mem_iff_lookup, Table.mem_iff_lookup, h]

/-- The checks before the loop raise for the same candidates in both cases, or find the same scores. -/
theorem prepare_same {rank : Ranker} {args : SelectArguments} (hrank : args.routerScores = none → OrderFree rank)
    (hids : (args.candidates.map (·.modelId)).Nodup) (h : Reordered args.candidates candidates') :
    ((∃ e, args.prepare rank = .error e) ∧ ∃ e, { args with candidates := candidates' }.prepare rank = .error e) ∨
    ∃ scores scores' predicted, args.prepare rank = .ok (scores, predicted) ∧
      { args with candidates := candidates' }.prepare rank = .ok (scores', predicted) ∧
      ∀ modelId, scores.lookup modelId = scores'.lookup modelId := by
  have hmodels := modelIds_perm h
  have hempty : args.candidates.isEmpty = candidates'.isEmpty := by
    have hlength := hmodels.length_eq
    rw [List.length_map, List.length_map] at hlength
    rw [Bool.eq_iff_iff, List.isEmpty_iff_length_eq_zero, List.isEmpty_iff_length_eq_zero, hlength]
  have htimeout : routingTimeoutMs args.candidates args.budget args.policy args.preparationElapsedMs =
      routingTimeoutMs candidates' args.budget args.policy args.preparationElapsedMs := by
    unfold routingTimeoutMs
    rw [fastestProviderMs_same h]
  have hexpected : (args.candidates.map (·.modelId)).toFinset = (candidates'.map (·.modelId)).toFinset :=
    List.toFinset_eq_of_perm _ _ hmodels
  unfold SelectArguments.prepare
  dsimp only
  rw [← hempty, ← htimeout, ← hexpected]
  split
  · exact Or.inl ⟨⟨_, rfl⟩, _, rfl⟩
  · split
    · exact Or.inl ⟨⟨_, rfl⟩, _, rfl⟩
    · split
      · exact Or.inl ⟨⟨_, rfl⟩, _, rfl⟩
      · rename_i timeoutMs htimeoutMs
        split
        · exact Or.inl ⟨⟨_, rfl⟩, _, rfl⟩
        · rename_i predicted hpredicted
          have hscores : ((∃ e, args.scores rank timeoutMs = .error e) ∧
              ∃ e, { args with candidates := candidates' }.scores rank timeoutMs = .error e) ∨
              ∃ scores scores', args.scores rank timeoutMs = .ok scores ∧
                { args with candidates := candidates' }.scores rank timeoutMs = .ok scores' ∧
                ∀ modelId, scores.lookup modelId = scores'.lookup modelId := by
            unfold SelectArguments.scores
            dsimp only
            cases hgiven : args.routerScores with
            | some scores => exact Or.inr ⟨scores, scores, rfl, rfl, fun _ => rfl⟩
            | none => exact hrank hgiven args.intent args.candidates candidates' timeoutMs hids h
          rcases hscores with ⟨⟨e, he⟩, e', he'⟩ | ⟨scores, scores', hs, hs', hlookup⟩
          · rw [he, he']
            exact Or.inl ⟨⟨e, rfl⟩, e', rfl⟩
          · rw [hs, hs']
            dsimp only
            rw [← keys_same hlookup]
            split
            · exact Or.inr ⟨scores, scores', predicted, rfl, rfl, hlookup⟩
            · exact Or.inl ⟨⟨_, rfl⟩, _, rfl⟩

end ReorderedAux

open ReorderedAux

/-- The scores that the candidates carry do not depend on their order. -/
theorem orderFree_suppliedRank : OrderFree suppliedRank := by
  intro intent candidates candidates' timeoutMs hids h
  have hrows : (candidates.map fun c => (c.modelId, c.routerScore)).Perm (candidates'.map fun c => (c.modelId, c.routerScore)) :=
    map_of_reordered h fun c c' hsame => by rw [hsame.modelId, hsame.routerScore]
  have hmissing : ((candidates.filter fun c => c.routerScore.isNone).map (·.modelId)).isEmpty =
      ((candidates'.filter fun c => c.routerScore.isNone).map (·.modelId)).isEmpty := by
    obtain ⟨hfrom, hto⟩ := mem_of_reordered h
    rw [Bool.eq_iff_iff, List.isEmpty_iff, List.isEmpty_iff, List.map_eq_nil_iff, List.map_eq_nil_iff, List.filter_eq_nil_iff,
      List.filter_eq_nil_iff]
    constructor
    · intro hall c' hc'
      obtain ⟨c, hc, hsame⟩ := hto c' hc'
      rw [← hsame.routerScore]
      exact hall c hc
    · intro hall c hc
      obtain ⟨c', hc', hsame⟩ := hfrom c hc
      rw [hsame.routerScore]
      exact hall c' hc'
  have hkeys : ((candidates.map fun c => (c.modelId, c.routerScore)).map Prod.fst).Nodup := by
    rw [List.map_map]
    exact hids
  unfold suppliedRank
  dsimp only
  rw [← hmissing]
  split
  · exact Or.inr ⟨_, _, rfl, rfl, Table.lookup_ofList_perm hkeys hrows⟩
  · exact Or.inl ⟨⟨_, rfl⟩, _, rfl⟩

/-- The model with its routes the other way round. -/
def reversedCandidate : RouterCandidate :=
  { exampleCandidate with routes := exampleCandidate.routes.reverse, validate_routes := by decide }

/-- Another model with the same routes. -/
def otherCandidate : RouterCandidate := { exampleCandidate with modelId := "other" }

/-- A call with two models to select from. -/
def pairArguments : SelectArguments :=
  { exampleArguments none with
    candidates := [exampleCandidate, otherCandidate]
    cache :=
      { (exampleArguments none).cache with
        values := Table.ofList [("model", { modelId := "model", inputCostUsd := 1 / 1000 }),
          ("other", { modelId := "other", inputCostUsd := 1 / 1000 })] } }

namespace ReorderedAux

/-- The order in which `_candidate_value` takes the routes. -/
def valueKey (r : RouteCost) : ℚ ×ₗ ℕ ×ₗ String := toLex (r.cost, toLex (r.route.p95TotalLatencyMs, r.route.routeId))

theorem before_iff (a b : RouteCost) : a.before b = true ↔ valueKey a < valueKey b := by
  unfold RouteCost.before valueKey
  rw [Prod.Lex.toLex_lt_toLex, Prod.Lex.toLex_lt_toLex]
  simp

/-- The cheapest is one of the routes, and none comes before it. -/
theorem cheapest_spec (best : RouteCost) (rest : List RouteCost) :
    cheapest best rest ∈ best :: rest ∧ ∀ r ∈ best :: rest, valueKey (cheapest best rest) ≤ valueKey r := by
  induction rest generalizing best with
  | nil => exact ⟨List.mem_singleton_self _, fun r hr => le_of_eq (congrArg valueKey (List.mem_singleton.1 hr).symm)⟩
  | cons x rest ih =>
    rw [cheapest]
    split
    · rename_i hbefore
      obtain ⟨hmem, hle⟩ := ih x
      refine ⟨List.mem_cons_of_mem _ hmem, List.forall_mem_cons.2 ⟨?_, hle⟩⟩
      exact (hle x List.mem_cons_self).trans ((before_iff x best).1 hbefore).le
    · rename_i hbefore
      obtain ⟨hmem, hle⟩ := ih best
      obtain ⟨hbest, hrest⟩ := List.forall_mem_cons.1 hle
      have hx : valueKey best ≤ valueKey x := not_lt.1 fun hlt => hbefore ((before_iff x best).2 hlt)
      refine ⟨?_, List.forall_mem_cons.2 ⟨hbest, List.forall_mem_cons.2 ⟨hbest.trans hx, hrest⟩⟩⟩
      rcases List.mem_cons.1 hmem with heq | hmem
      · exact List.mem_cons.2 (Or.inl heq)
      · exact List.mem_cons_of_mem _ (List.mem_cons_of_mem _ hmem)

/-- The cheapest of the priced routes is the same in every order of the routes. -/
theorem cheapest_perm {f : ProviderRoute → RouteCost} (hf : ∀ route, (f route).route = route) {routes routes' : List ProviderRoute}
    (hids : (routes.map (·.routeId)).Nodup) (h : routes.Perm routes') {first first' : RouteCost} {rest rest' : List RouteCost}
    (hl : routes.map f = first :: rest) (hl' : routes'.map f = first' :: rest') : cheapest first rest = cheapest first' rest' := by
  obtain ⟨hmem, hle⟩ := cheapest_spec first rest
  obtain ⟨hmem', hle'⟩ := cheapest_spec first' rest'
  rw [← hl] at hmem hle
  rw [← hl'] at hmem' hle'
  have hkey : valueKey (cheapest first rest) = valueKey (cheapest first' rest') :=
    le_antisymm (hle _ ((h.map f).mem_iff.2 hmem')) (hle' _ ((h.map f).mem_iff.1 hmem))
  obtain ⟨route, hroute, hprice⟩ := List.mem_map.1 hmem
  obtain ⟨route', hroute', hprice'⟩ := List.mem_map.1 hmem'
  have hid : route.routeId = route'.routeId := by
    have hlast := congrArg (fun k => (ofLex (ofLex k).2).2) hkey
    rw [← hprice, ← hprice'] at hlast
    simpa [valueKey, hf] using hlast
  rw [← hprice, ← hprice', List.inj_on_of_nodup_map hids hroute (h.mem_iff.2 hroute') hid]

end ReorderedAux

/-- The value of the cached prefix for a candidate does not depend on the order of its routes, as far as the switch cost does not: that
one is of the first route of the provider that holds the prefix. -/
theorem candidateValue_reordered {candidate candidate' : ModelCandidate} (hid : candidate.modelId = candidate'.modelId)
    (hroutes : candidate.routes.Perm candidate'.routes) (totalTokens predictedOutputTokens : Nat) (record : Option CacheRecord)
    (hswitch : ∀ r, record = some r → switchCost candidate totalTokens r = switchCost candidate' totalTokens r) :
    candidateValue candidate totalTokens predictedOutputTokens record =
      candidateValue candidate' totalTokens predictedOutputTokens record := by
  have hperm := hroutes.map (PromptRail.routeCost candidate.modelId totalTokens predictedOutputTokens record)
  unfold candidateValue
  rw [← hid]
  cases hl : candidate.routes.map (PromptRail.routeCost candidate.modelId totalTokens predictedOutputTokens record) with
  | nil =>
    rw [hl] at hperm
    rw [hperm.nil_eq.symm]
  | cons first rest =>
    cases hl' : candidate'.routes.map (PromptRail.routeCost candidate.modelId totalTokens predictedOutputTokens record) with
    | nil =>
      rw [hl, hl'] at hperm
      exact absurd hperm.eq_nil (List.cons_ne_nil _ _)
    | cons first' rest' =>
      dsimp only
      rw [cheapest_perm (fun _ => rfl) candidate.validate_routes.2 hroutes hl hl']
      cases record with
      | none => rfl
      | some r =>
        dsimp only
        rw [hswitch r rfl]

end Routing

end PromptRail
