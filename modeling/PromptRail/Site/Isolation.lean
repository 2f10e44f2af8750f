import PromptRail.Site

/-!
# Whose policy a route has

A policy is read by the user who saved it last, but written over whoever saved one for the same route before. So the policies of the
users are kept apart exactly as long as no two users save a policy for the same route.
-/

namespace PromptRail

open Transition (Throughout Along monitor record along_record_iff throughout_iff_along_through)

namespace Site

/-- A call. -/
inductive PolicyCall where
  | get (userId routeId : String)
  | upsert (userId : String) (policy : RoutePolicyInput)

/-- What a call leaves. -/
def PolicyCall.run (store : Store) : PolicyCall → Store
  | .get _ _ => store
  | .upsert userId policy => upsertRoutePolicy store userId policy

/-- The user and the policy of a call that saves one. -/
def PolicyCall.saved : PolicyCall → Option (String × RoutePolicyInput)
  | .get _ _ => none
  | .upsert userId policy => some (userId, policy)

/-- The last policy that a user has saved for a route. -/
def lastSaved (calls : List PolicyCall) (userId routeId : String) : Option RoutePolicyInput :=
  ((calls.filterMap (·.saved)).reverse.find? fun save => save.2.routeId = routeId ∧ save.1 = userId).map (·.2)

/-- Every user reads the routes, definitions and metadata that the user saved last, or nothing. -/
def Isolated (store : Store) (calls : List PolicyCall) : Prop :=
  ∀ userId routeId, (getRoutePolicy store userId routeId).map (fun row => (row.routes, row.routeDefinitions, row.metadata)) =
    (lastSaved calls userId routeId).map fun policy => (policy.routes, policy.routeDefinitions.getD [], policy.metadata.getD [])

/-- Two calls do not save a policy for the same route as two users. -/
def Apart (a b : PolicyCall) : Prop :=
  ∀ save ∈ a.saved, ∀ save' ∈ b.saved, save.2.routeId = save'.2.routeId → save.1 = save'.1

namespace IsolationAux

variable {store : Store} {calls : List PolicyCall}

/-- The saves of some calls. -/
def saves (calls : List PolicyCall) : List (String × RoutePolicyInput) := calls.filterMap (·.saved)

/-- The policies of the store are the last ones that were saved, and each route has one user. -/
structure Kept (store : Store) (calls : List PolicyCall) : Prop where
  nodup : (store.routePolicies.map (·.routeId)).Nodup
  last : ∀ routeId, (store.routePolicies.find? fun row => row.routeId = routeId) =
    ((saves calls).reverse.find? fun save => save.2.routeId = routeId).map fun save => save.2.document save.1
  owner : ∀ save ∈ saves calls, ∀ save' ∈ saves calls, save.2.routeId = save'.2.routeId → save.1 = save'.1

/-- What is read of a store whose policies have distinct routes. -/
theorem getRoutePolicy_eq (h : (store.routePolicies.map (·.routeId)).Nodup) (userId routeId : String) :
    getRoutePolicy store userId routeId = (store.routePolicies.find? fun row => row.routeId = routeId).filter
      fun row => row.userId = some userId || row.userId = none := by
  refine Collection.find?_and ?_
  intro a ha b hb hra hrb
  rw [List.inj_on_of_nodup_map h ha hb ((of_decide_eq_true hra).trans (of_decide_eq_true hrb).symm)]

/-- Policies of one user for each route are isolated. -/
theorem isolated_of_kept (h : Kept store calls) : Isolated store calls := by
  intro userId routeId
  have hlast : lastSaved calls userId routeId =
      (((saves calls).reverse.find? fun save => save.2.routeId = routeId).filter fun save => save.1 = userId).map (·.2) := by
    unfold lastSaved
    rw [← Collection.find?_and]
    · simp only [saves, Bool.decide_and]
    · intro a ha b hb hra hrb
      rw [h.owner a (List.mem_reverse.1 ha) b (List.mem_reverse.1 hb) ((of_decide_eq_true hra).trans (of_decide_eq_true hrb).symm)]
  rw [getRoutePolicy_eq h.nodup, h.last, hlast]
  cases (saves calls).reverse.find? fun save => save.2.routeId = routeId with
  | none => rfl
  | some save =>
    by_cases huser : save.1 = userId
    · simp [Option.filter, RoutePolicyInput.document, huser]
    · simp [Option.filter, RoutePolicyInput.document, huser]

theorem saves_get (userId routeId : String) : saves (calls ++ [.get userId routeId]) = saves calls := by
  simp [saves, List.filterMap_append, PolicyCall.saved]

theorem saves_upsert (userId : String) (policy : RoutePolicyInput) :
    saves (calls ++ [.upsert userId policy]) = saves calls ++ [(userId, policy)] := by
  simp [saves, List.filterMap_append, PolicyCall.saved]

/-- A policy that is saved is found under its route. -/
theorem find?_upsert (userId : String) (policy : RoutePolicyInput) :
    ((upsertRoutePolicy store userId policy).routePolicies.find? fun row => row.routeId = policy.routeId) =
      some (policy.document userId) := by
  unfold upsertRoutePolicy
  rw [Collection.find?_upsertOne (by simp [RoutePolicyInput.document]) (by simp [RoutePolicyInput.document])]
  cases store.routePolicies.find? fun row => decide (row.routeId = policy.routeId) <;> rfl

theorem nodup_upsert (h : (store.routePolicies.map (·.routeId)).Nodup) (userId : String) (policy : RoutePolicyInput) :
    ((upsertRoutePolicy store userId policy).routePolicies.map (·.routeId)).Nodup :=
  Collection.nodup_upsertOne (k := policy.routeId) (by simp) (by simp [RoutePolicyInput.document])
    (by simp [RoutePolicyInput.document]) h

/-- A policy that is saved for a route of no other user keeps the users apart. -/
theorem kept_upsert {userId : String} {policy : RoutePolicyInput} (h : Kept store calls)
    (hapart : ∀ save ∈ saves calls, save.2.routeId = policy.routeId → save.1 = userId) :
    Kept (upsertRoutePolicy store userId policy) (calls ++ [.upsert userId policy]) := by
  refine ⟨nodup_upsert h.nodup userId policy, ?_, ?_⟩
  · intro routeId
    rw [saves_upsert, List.reverse_append, List.reverse_singleton, List.singleton_append, List.find?_cons]
    by_cases hroute : policy.routeId = routeId
    · subst hroute
      simp [find?_upsert]
    · rw [decide_eq_false hroute, ← h.last]
      exact Collection.find?_upsertOne_other (by grind) (by simp [RoutePolicyInput.document, hroute])
        (by simp [RoutePolicyInput.document, hroute])
  · rw [saves_upsert]
    intro save hsave save' hsave' hroute
    rcases List.mem_append.1 hsave with hold | hnew
    · rcases List.mem_append.1 hsave' with hold' | hnew'
      · exact h.owner save hold save' hold' hroute
      · obtain rfl := List.mem_singleton.1 hnew'
        exact hapart save hold hroute
    · obtain rfl := List.mem_singleton.1 hnew
      rcases List.mem_append.1 hsave' with hold' | hnew'
      · exact (hapart save' hold' hroute.symm).symm
      · obtain rfl := List.mem_singleton.1 hnew'
        rfl

/-- A policy that is saved over another user's is not found by that user. -/
theorem apart_of_isolated {userId : String} {policy : RoutePolicyInput} (h : Kept store calls)
    (hnext : Isolated (upsertRoutePolicy store userId policy) (calls ++ [.upsert userId policy])) :
    ∀ save ∈ saves calls, save.2.routeId = policy.routeId → save.1 = userId := by
  intro save hsave hroute
  by_contra hne
  have hread := hnext save.1 policy.routeId
  rw [getRoutePolicy_eq (nodup_upsert h.nodup userId policy), find?_upsert] at hread
  have hnone : Option.filter (fun row : RoutePolicy => row.userId = some save.1 || row.userId = none)
      (some (policy.document userId)) = none := by
    simp [Option.filter, RoutePolicyInput.document, Ne.symm hne]
  rw [hnone, eq_comm, Option.map_none, Option.map_eq_none_iff] at hread
  unfold lastSaved at hread
  rw [Option.map_eq_none_iff, List.find?_eq_none] at hread
  refine hread save ?_ (by simp [hroute])
  rw [List.mem_reverse, ← saves, saves_upsert]
  exact List.mem_append_left _ hsave

end IsolationAux

open IsolationAux

/-- Over every sequence of calls, starting from no policies: every user reads what the user saved last exactly when no two users
save a policy for the same route. -/
theorem isolated_iff (calls : List PolicyCall) :
    Throughout (monitor PolicyCall.run record) (fun p => Isolated p.1 p.2) ({}, []) calls ↔ calls.Pairwise Apart := by
  have hpairs := along_record_iff PolicyCall.run Apart {} [] calls
  rw [← (hpairs.trans ⟨And.right, fun h => ⟨by simp, h⟩⟩)]
  have hfirst : Kept {} [] := ⟨List.nodup_nil, fun _ => rfl, by simp [saves]⟩
  refine throughout_iff_along_through (Q := fun p : Store × List PolicyCall => Kept p.1 p.2) (fun p h => isolated_of_kept h) ?_ ?_
    hfirst (Transition.along_of_forall (fun _ _ => trivial) _ _)
  · rintro ⟨store, before⟩ call h - hnext b hb save hsave save' hsave' hroute
    cases call with
    | get userId routeId => cases hsave'
    | upsert userId policy =>
      cases hsave'
      exact apart_of_isolated h hnext save (List.mem_filterMap.2 ⟨b, hb, hsave⟩) hroute
  · rintro ⟨store, before⟩ call h - hapart
    cases call with
    | get userId routeId =>
      refine ⟨h.nodup, ?_, ?_⟩
      · simp only [monitor, record, saves_get]
        exact h.last
      · simp only [monitor, record, saves_get]
        exact h.owner
    | upsert userId policy =>
      refine kept_upsert h ?_
      intro save hsave hroute
      obtain ⟨b, hb, hsaved⟩ := List.mem_filterMap.1 hsave
      exact hapart b hb save hsaved (userId, policy) rfl hroute

/-- A policy of one model. -/
def examplePolicy (model : String) : RoutePolicyInput where
  routeId := "default"
  routes := [("code", [model])]
  routeDefinitions := none
  metadata := none

/-- Two users save a policy for the route that every account starts with: the first one reads nothing any more. -/
theorem isolation_broken : ¬ Throughout (monitor PolicyCall.run record) (fun p => Isolated p.1 p.2) ({}, [])
    [.upsert "first" (examplePolicy "openai/model"), .upsert "second" (examplePolicy "anthropic/model")] := by
  intro h
  have hread := congrArg Option.isSome (h.last "first" "default")
  rw [Option.isSome_map, Option.isSome_map] at hread
  revert hread
  decide +kernel

end Site

end PromptRail
