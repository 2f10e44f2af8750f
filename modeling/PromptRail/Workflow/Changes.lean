import PromptRail.Workflow

/-!
# What a turn does to the workflow store

`Effect` lists the changes one turn can make, with all that is known when it makes them; every invariant of the store is derived
from it by cases. `Evolves` is what all of them have in common: no document is ever removed, what identifies it never changes, and a
status never goes back.
-/

namespace PromptRail

namespace Workflow

open Table (Dict mapRows updateEach lookup_insert_eq of_lookup_insert lookup_mapRows updateEach_ok updateEach_error)

theorem mem_scopeKeys {run : RunKey} {scopeIds : List ScopeId} {key : ScopeKey} :
    key ∈ scopeKeys run scopeIds ↔ key.run = run ∧ key.id ∈ scopeIds := by
  unfold scopeKeys
  constructor
  · intro h
    obtain ⟨id, hid, rfl⟩ := List.mem_map.1 h
    exact ⟨rfl, hid⟩
  · rintro ⟨rfl, hid⟩
    exact List.mem_map.2 ⟨key.id, hid, rfl⟩

theorem scopeKeys_nodup {run : RunKey} {scopeIds : List ScopeId} (h : scopeIds.Nodup) : (scopeKeys run scopeIds).Nodup := by
  refine h.map ?_
  intro a b hab
  exact (ScopeKey.mk.inj hab).2

@[simp] theorem books_iff {scope : ScopeKey} {key : ReservationKey} {reservation : Reservation} :
    books scope key reservation = true ↔ scope ∈ scopeKeys key.run reservation.scopeIds := by
  rw [mem_scopeKeys]
  simp only [books, Bool.and_eq_true, beq_iff_eq, List.contains_iff_mem]
  exact and_congr_left fun _ => eq_comm

/-! ## The changes -/

/-- What a turn does to the store, given what it is told from outside. -/
inductive Effect (store : Store) (input : Input) : Task → Store → Prop where
  | kept (task : Task) : Effect store input task store
  | runCreated {userId routeId : String} {body : WorkflowRunCreateRequest} (hrun : ⟨userId, routeId, input.uuid⟩ ∉ store.runs)
      (hscope : ⟨⟨userId, routeId, input.uuid⟩, input.rootUuid⟩ ∉ store.scopes) :
      Effect store input (.createRun userId routeId body)
        { store with
          runs := store.runs.insert ⟨userId, routeId, input.uuid⟩ { rootScopeId := input.rootUuid }
          scopes := store.scopes.insert ⟨⟨userId, routeId, input.uuid⟩, input.rootUuid⟩
            { parentScopeId := none, maxUsd := body.maxUsd } }
  | scopeCreated {run : RunKey} {parentScopeId : ScopeId} {maximum : ℚ} (hscope : ⟨run, input.uuid⟩ ∉ store.scopes) :
      Effect store input (.insertScope run parentScopeId maximum)
        { store with scopes := store.scopes.insert ⟨run, input.uuid⟩ { parentScopeId := some parentScopeId, maxUsd := maximum } }
  | reserved {run : RunKey} {chain : ScopeChain} {hne : chain.rows ≠ []} {routingCallId : String} {authorization : Authorization}
      {reservation : Reservation} {scopes : Dict ScopeKey Scope} (hauth : authorizeCandidate input.candidate = .ok authorization)
      (hres : reservation = newReservation chain hne routingCallId authorization input)
      (hfunds : ∀ key ∈ scopeKeys run reservation.scopeIds,
        ∃ scope, store.scopes.lookup key = some scope ∧ funds reservation.callLimitUsd scope = true)
      (hscopes : ∀ key, scopes.lookup key = if key ∈ scopeKeys run reservation.scopeIds then
        (store.scopes.lookup key).map (Scope.book reservation.callLimitUsd) else store.scopes.lookup key)
      (hnew : ⟨run, input.uuid⟩ ∉ store.reservations) :
      Effect store input (.reserve run chain hne routingCallId)
        { store with scopes, reservations := store.reservations.insert ⟨run, input.uuid⟩ reservation }
  | started {claim : AccountingClaim} {stored : Reservation} (hstored : store.reservations.lookup claim.key = some stored)
      (hstatus : stored.status = .reserved) :
      Effect store input (.writeStarted claim)
        { store with reservations := store.reservations.insert claim.key { stored with status := .started } }
  | finalized {f : Finalization} {reservation stored : Reservation} {scopes : Dict ScopeKey Scope}
      (hholds : ∀ key ∈ scopeKeys f.claim.run reservation.scopeIds,
        ∃ scope, store.scopes.lookup key = some scope ∧ holds reservation.callLimitUsd scope = true)
      (hscopes : ∀ key, scopes.lookup key = if key ∈ scopeKeys f.claim.run reservation.scopeIds then
        (store.scopes.lookup key).map (Scope.settle reservation.callLimitUsd f.debit) else store.scopes.lookup key)
      (hstored : store.reservations.lookup f.claim.key = some stored) (hstatus : stored.status = f.requiredStatus) :
      Effect store input (.finalize f reservation)
        { store with
          scopes
          reservations := store.reservations.insert f.claim.key
            { stored with status := f.outcome, spendUsd := some f.debit } }
  | logged {claim : AccountingClaim} {verifiedSpendUsd : ℚ} {success : Bool} {reservation : Reservation} :
      Effect store input (.writeUsageLog claim verifiedSpendUsd success reservation)
        (writeUsageLog store claim verifiedSpendUsd success)
  | scopeClosed {run : RunKey} {scopeId : ScopeId} {body : WorkflowFinishRequest} {scope : Scope}
      (hscope : store.scopes.lookup ⟨run, scopeId⟩ = some scope) (hactive : scope.status = .active) :
      Effect store input (.writeScopeStatus run scopeId body)
        { store with scopes := store.scopes.insert ⟨run, scopeId⟩ { scope with status := body.status } }
  | scopesClosed {run : RunKey} {body : WorkflowFinishRequest} :
      Effect store input (.writeScopeStatuses run body)
        { store with scopes := mapRows (closeScope run body.status) store.scopes }
  | runClosed {run : RunKey} {body : WorkflowFinishRequest} {row : Run} (hrun : store.runs.lookup run = some row)
      (hactive : row.status = .active) :
      Effect store input (.writeRunStatus run body)
        { store with runs := store.runs.insert run { row with status := body.status } }

/-- A transaction that reserves. -/
theorem reserveWorkflowCall_effect (store : Store) (run : RunKey) (chain : ScopeChain) (hne : chain.rows ≠ [])
    (routingCallId : String) {authorization : Authorization} {input : Input}
    (hauth : authorizeCandidate input.candidate = .ok authorization) :
    Effect store input (.reserve run chain hne routingCallId)
      (reserveWorkflowCall store run chain hne routingCallId authorization input).1 := by
  unfold reserveWorkflowCall
  simp only
  split
  · exact Effect.kept _
  · rename_i scopes hupdate
    obtain ⟨hfunds, hscopes⟩ := updateEach_ok (scopeKeys_nodup chain.nodup) hupdate
    split
    · exact Effect.kept _
    · rename_i hnew
      exact Effect.reserved hauth rfl hfunds hscopes hnew

/-- A transaction that finalizes: it is refused, because of the reservation or of a scope that does not hold its amount, or it
updates each scope once, and the reservation. -/
theorem finalizeWorkflowReservation_cases (store : Store) (f : Finalization) (reservation : Reservation) :
    (∃ refusal, (refusal = .reservationSettlementConflict ∧
          (∀ stored, store.reservations.lookup f.claim.key = some stored → stored.status ≠ f.requiredStatus) ∨
        ∃ key ∈ scopeKeys f.claim.run reservation.scopeIds, refusal = .scopeSettlementConflict key.id ∧
          ∀ scope, store.scopes.lookup key = some scope → holds reservation.callLimitUsd scope = false) ∧
      finalizeWorkflowReservation store f reservation = (store, .threw refusal)) ∨
    ∃ scopes stored, (∀ key ∈ scopeKeys f.claim.run reservation.scopeIds,
        ∃ scope, store.scopes.lookup key = some scope ∧ holds reservation.callLimitUsd scope = true) ∧
      (∀ key, scopes.lookup key = if key ∈ scopeKeys f.claim.run reservation.scopeIds then
        (store.scopes.lookup key).map (Scope.settle reservation.callLimitUsd f.debit) else store.scopes.lookup key) ∧
      store.reservations.lookup f.claim.key = some stored ∧ stored.status = f.requiredStatus ∧
      finalizeWorkflowReservation store f reservation =
        ({ store with
            scopes
            reservations := store.reservations.insert f.claim.key
              { stored with status := f.outcome, spendUsd := some f.debit } },
          finalized f { stored with status := f.outcome, spendUsd := some f.debit }) := by
  unfold finalizeWorkflowReservation
  split
  · rename_i key herror
    obtain ⟨hkey, hlacks⟩ := updateEach_error (scopeKeys_nodup reservation.scopeIds_nodup) herror
    exact Or.inl ⟨_, Or.inr ⟨key, hkey, rfl, hlacks⟩, rfl⟩
  · rename_i scopes hupdate
    obtain ⟨hholds, hscopes⟩ := updateEach_ok (scopeKeys_nodup reservation.scopeIds_nodup) hupdate
    split
    · rename_i hnone
      exact Or.inl ⟨_, Or.inl ⟨rfl, by simp [hnone]⟩, rfl⟩
    · rename_i stored hstored
      split
      · rename_i hstatus
        exact Or.inr ⟨scopes, stored, hholds, hscopes, hstored, hstatus, rfl⟩
      · rename_i hstatus
        exact Or.inl ⟨_, Or.inl ⟨rfl, by simpa [hstored] using hstatus⟩, rfl⟩

theorem finalizeWorkflowReservation_effect (store : Store) (input : Input) (f : Finalization) (reservation : Reservation) :
    Effect store input (.finalize f reservation) (finalizeWorkflowReservation store f reservation).1 := by
  rcases finalizeWorkflowReservation_cases store f reservation with ⟨refusal, -, h⟩ |
    ⟨scopes, stored, hholds, hscopes, hstored, hstatus, h⟩
  · rw [h]
    exact Effect.kept _
  · rw [h]
    exact Effect.finalized hholds hscopes hstored hstatus

/-- Every turn has one of the effects. -/
theorem turn_effect (store : Store) (task : Task) (input : Input) : Effect store input task (turn store task input).1 := by
  cases task with
  | createRun userId routeId body =>
    simp only [turn, createRun]
    split
    · exact Effect.kept _
    · rename_i hrun
      split
      · exact Effect.kept _
      · rename_i hscope
        exact Effect.runCreated hrun hscope
  | insertScope run parentScopeId maximum =>
    simp only [turn, insertScope]
    split
    · exact Effect.kept _
    · rename_i hscope
      exact Effect.scopeCreated hscope
  | reserve run chain hne routingCallId =>
    simp only [turn]
    split
    · exact Effect.kept _
    · rename_i authorization hauth
      exact reserveWorkflowCall_effect store run chain hne routingCallId hauth
  | writeStarted claim =>
    simp only [turn, writeStarted]
    split
    · exact Effect.kept _
    · rename_i stored hstored
      split
      · rename_i hstatus
        exact Effect.started hstored hstatus
      · exact Effect.kept _
  | finalize f reservation => exact finalizeWorkflowReservation_effect store input f reservation
  | writeUsageLog claim verifiedSpendUsd success reservation => exact Effect.logged
  | writeScopeStatus run scopeId body =>
    simp only [turn, writeScopeStatus]
    split
    · exact Effect.kept _
    · rename_i scope hscope
      split
      · rename_i hactive
        exact Effect.scopeClosed hscope hactive
      · exact Effect.kept _
  | writeScopeStatuses run body => exact Effect.scopesClosed
  | writeRunStatus run body =>
    simp only [turn, writeRunStatus]
    split
    · exact Effect.kept _
    · rename_i row hrun
      split
      · rename_i hactive
        exact Effect.runClosed hrun hactive
      · exact Effect.kept _
  | _ => exact Effect.kept _

/-- A request that is refused leaves the store as it was: nothing of its transaction stays. -/
theorem store_of_refused {store : Store} {task : Task} {input : Input} {refusal : Refusal}
    (h : (turn store task input).2 = .threw refusal) : (turn store task input).1 = store := by
  revert h
  cases task with
  | finalize f reservation =>
    rcases finalizeWorkflowReservation_cases store f reservation with ⟨_, -, hturn⟩ | ⟨_, _, -, -, -, -, hturn⟩
    · simp only [turn, hturn]
      exact fun _ => trivial
    · simp only [turn, hturn]
      cases f <;> exact fun h => nomatch h
  | writeUsageLog claim verifiedSpendUsd success reservation => exact fun h => nomatch h
  | writeScopeStatuses run body => exact fun h => nomatch h
  | createRun userId routeId body =>
    simp only [turn, createRun]
    repeat' split
    all_goals first | exact fun _ => rfl | exact fun h => nomatch h
  | insertScope run parentScopeId maximum =>
    simp only [turn, insertScope]
    split
    · exact fun _ => rfl
    · exact fun h => nomatch h
  | reserve run chain hne routingCallId =>
    simp only [turn, reserveWorkflowCall]
    repeat' split
    all_goals first | exact fun _ => rfl | exact fun h => nomatch h
  | writeStarted claim =>
    simp only [turn, writeStarted]
    repeat' split
    all_goals first | exact fun _ => rfl | exact fun h => nomatch h
  | writeScopeStatus run scopeId body =>
    simp only [turn, writeScopeStatus]
    repeat' split
    all_goals first | exact fun _ => rfl | exact fun h => nomatch h
  | writeRunStatus run body =>
    simp only [turn, writeRunStatus]
    repeat' split
    all_goals first | exact fun _ => rfl | exact fun h => nomatch h
  | _ => exact fun _ => rfl

/-! ## What every change keeps -/

/-- What becomes of a reservation. -/
inductive Moves (reservation : Reservation) : Reservation → Prop where
  | stays : Moves reservation reservation
  | starts (h : reservation.status = .reserved) : Moves reservation { reservation with status := .started }
  | ends (f : Finalization) (h : reservation.status = f.requiredStatus) :
      Moves reservation { reservation with status := f.outcome, spendUsd := some f.debit }

theorem Moves.scopeIds {r r' : Reservation} (h : Moves r r') : r'.scopeIds = r.scopeIds := by
  cases h <;> rfl

theorem Moves.callLimitUsd {r r' : Reservation} (h : Moves r r') : r'.callLimitUsd = r.callLimitUsd := by
  cases h <;> rfl

/-- A finalization requires a status that is not final. -/
theorem requiredStatus_not_final (f : Finalization) : f.requiredStatus.isFinal = false := by
  cases f <;> rfl

/-- A reservation that is final stays as it is. -/
theorem Moves.of_final {r r' : Reservation} (h : Moves r r') (hf : r.status.isFinal = true) : r' = r := by
  cases h with
  | stays => rfl
  | starts hs =>
    rw [hs] at hf
    cases hf
  | ends f hs =>
    rw [hs, requiredStatus_not_final] at hf
    cases hf

/-- The documents stay, and keep what identifies them; a scope that is not active never becomes active again. -/
structure Evolves (store store' : Store) : Prop where
  runs : ∀ run row, store.runs.lookup run = some row →
    ∃ row', store'.runs.lookup run = some row' ∧ row'.rootScopeId = row.rootScopeId
  scopes : ∀ key scope, store.scopes.lookup key = some scope →
    ∃ scope', store'.scopes.lookup key = some scope' ∧ scope'.maxUsd = scope.maxUsd ∧
      (scope.status ≠ .active → scope'.status ≠ .active)
  reservations : ∀ key r, store.reservations.lookup key = some r →
    ∃ r', store'.reservations.lookup key = some r' ∧ Moves r r'

theorem Evolves.refl (store : Store) : Evolves store store :=
  ⟨fun _ row h => ⟨row, h, rfl⟩, fun _ scope h => ⟨scope, h, rfl, id⟩, fun _ r h => ⟨r, h, .stays⟩⟩

/-- One scope that is replaced. -/
theorem Evolves.of_scope {store : Store} {key : ScopeKey} {scope scope' : Scope} (h : store.scopes.lookup key = some scope)
    (hmax : scope'.maxUsd = scope.maxUsd) (hstatus : scope.status ≠ .active → scope'.status ≠ .active) :
    Evolves store { store with scopes := store.scopes.insert key scope' } := by
  refine { Evolves.refl store with scopes := ?_ }
  intro key' s hs
  rw [lookup_insert_eq]
  split
  · rename_i hid
    subst hid
    rw [h] at hs
    cases hs
    exact ⟨scope', rfl, hmax, hstatus⟩
  · exact ⟨s, hs, rfl, id⟩

/-- One reservation that moves. -/
theorem evolves_reservations {store : Store} {key : ReservationKey} {stored next : Reservation}
    (h : store.reservations.lookup key = some stored) (hm : Moves stored next) :
    ∀ key' r, store.reservations.lookup key' = some r →
      ∃ r', (store.reservations.insert key next).lookup key' = some r' ∧ Moves r r' := by
  intro key' r hr
  rw [lookup_insert_eq]
  split
  · rename_i hid
    subst hid
    rw [h] at hr
    cases hr
    exact ⟨next, rfl, hm⟩
  · exact ⟨r, hr, .stays⟩

/-- Scopes that are updated one by one. -/
theorem evolves_scopes {store : Store} {scopes : Dict ScopeKey Scope} {keys : List ScopeKey} {update : Scope → Scope}
    (hscopes : ∀ key, scopes.lookup key = if key ∈ keys then (store.scopes.lookup key).map update else store.scopes.lookup key)
    (hmax : ∀ scope, (update scope).maxUsd = scope.maxUsd) (hstatus : ∀ scope, (update scope).status = scope.status) :
    ∀ key scope, store.scopes.lookup key = some scope →
      ∃ scope', scopes.lookup key = some scope' ∧ scope'.maxUsd = scope.maxUsd ∧
        (scope.status ≠ .active → scope'.status ≠ .active) := by
  intro key scope h
  rw [hscopes, h]
  split
  · exact ⟨update scope, rfl, hmax scope, fun hs => (hstatus scope).symm ▸ hs⟩
  · exact ⟨scope, rfl, rfl, id⟩

/-- Every effect lets the store evolve. -/
theorem Effect.evolves {store store' : Store} {input : Input} {task : Task} (h : Effect store input task store') :
    Evolves store store' := by
  cases h with
  | kept => exact Evolves.refl store
  | runCreated hrun hscope =>
    refine ⟨?_, ?_, (Evolves.refl store).reservations⟩
    · intro run row h
      exact ⟨row, Table.lookup_insert_of_notMem _ hrun h, rfl⟩
    · intro key scope h
      exact ⟨scope, Table.lookup_insert_of_notMem _ hscope h, rfl, id⟩
  | scopeCreated hscope =>
    refine { Evolves.refl store with scopes := ?_ }
    intro key scope h
    exact ⟨scope, Table.lookup_insert_of_notMem _ hscope h, rfl, id⟩
  | reserved _ _ _ hscopes hnew =>
    refine ⟨(Evolves.refl store).runs, evolves_scopes hscopes (fun _ => rfl) fun _ => rfl, ?_⟩
    intro key r h
    exact ⟨r, Table.lookup_insert_of_notMem _ hnew h, .stays⟩
  | started hstored hstatus =>
    exact ⟨(Evolves.refl store).runs, (Evolves.refl store).scopes, evolves_reservations hstored (.starts hstatus)⟩
  | finalized _ hscopes hstored hstatus =>
    exact ⟨(Evolves.refl store).runs, evolves_scopes hscopes (fun _ => rfl) fun _ => rfl,
      evolves_reservations hstored (.ends _ hstatus)⟩
  | logged =>
    refine ⟨?_, ?_, ?_⟩
    · simpa using (Evolves.refl store).runs
    · simpa using (Evolves.refl store).scopes
    · simpa using (Evolves.refl store).reservations
  | scopeClosed hscope hactive => exact Evolves.of_scope hscope rfl fun hs => absurd hactive hs
  | scopesClosed =>
    refine { Evolves.refl store with scopes := ?_ }
    intro key scope h
    rw [lookup_mapRows, h]
    refine ⟨_, rfl, ?_⟩
    unfold closeScope
    split
    · rename_i hc
      exact ⟨rfl, fun hs => absurd hc.2 hs⟩
    · exact ⟨rfl, id⟩
  | runClosed hrun hactive =>
    refine { Evolves.refl store with runs := ?_ }
    intro run row h
    rw [lookup_insert_eq]
    split
    · rename_i hid
      subst hid
      rw [hrun] at h
      cases h
      exact ⟨_, rfl, rfl⟩
    · exact ⟨row, h, rfl⟩

end Workflow

end PromptRail
