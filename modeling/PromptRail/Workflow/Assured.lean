import PromptRail.Workflow.Changes
import Mathlib.Tactic.Linarith

/-!
# What the threads rely on

A thread holds what it has read in earlier turns, and the store may have changed since. `Assured` is what of it still holds, whatever
the other threads did: documents stay, and what identifies them never changes. With it, a store stays well-formed.
-/

namespace PromptRail

namespace Workflow

open Table (Dict lookup_insert_eq of_lookup_insert lookup_mapRows)

/-! ## What a thread relies on -/

/-- The run has the root scope. -/
def RootOf (store : Store) (run : RunKey) (rootScopeId : ScopeId) : Prop :=
  ∃ row, store.runs.lookup run = some row ∧ row.rootScopeId = rootScopeId

/-- The reservation that was read is the stored one, but for its status and its spend. -/
def ReadFrom (store : Store) (key : ReservationKey) (reservation : Reservation) : Prop :=
  ∃ stored, store.reservations.lookup key = some stored ∧ stored.scopeIds = reservation.scopeIds ∧
    stored.callLimitUsd = reservation.callLimitUsd

/-- The debit is within the limit of the reservation; of a failed call it is the limit. -/
def DebitAllowed (f : Finalization) (callLimitUsd : ℚ) : Prop :=
  0 ≤ f.debit ∧ f.debit ≤ callLimitUsd + tolerance ∧ (f.outcome = .failed → f.debit = callLimitUsd)

/-- The reservation is settled with the spend. -/
def SettledWith (store : Store) (key : ReservationKey) (spendUsd : ℚ) : Prop :=
  ∃ stored, store.reservations.lookup key = some stored ∧ stored.status = .settled ∧
    isclose (stored.spendUsd.getD 0) spendUsd = true

/-- What a thread knows of the store between two of its turns. -/
def Assured (store : Store) : Task → Prop
  | .readScope _ run rootScopeId _ chain => RootOf store run rootScopeId ∧ ∀ p ∈ chain.rows, 0 ≤ p.2.maxUsd
  | .insertScope _ _ maximum => 0 ≤ maximum
  | .reserve run chain hne _ => RootOf store run (chain.rows.head hne).1
  | .finalize f reservation =>
    ReadFrom store f.claim.key reservation ∧ reservation.status = f.requiredStatus ∧ DebitAllowed f reservation.callLimitUsd
  | .writeUsageLog claim verifiedSpendUsd _ _ => SettledWith store claim.key verifiedSpendUsd
  | _ => True

theorem SettledWith.evolves {store store' : Store} {key : ReservationKey} {spendUsd : ℚ} (h : SettledWith store key spendUsd)
    (he : Evolves store store') : SettledWith store' key spendUsd := by
  obtain ⟨stored, hstored, hstatus, hclose⟩ := h
  obtain ⟨stored', hstored', hm⟩ := he.reservations _ _ hstored
  have heq : stored' = stored := hm.of_final (by rw [hstatus]; rfl)
  exact ⟨stored', hstored', heq.symm ▸ ⟨hstatus, hclose⟩⟩

/-- What a thread knows, it still knows when the store has evolved. -/
theorem Assured.evolves {store store' : Store} {task : Task} (h : Assured store task) (he : Evolves store store') :
    Assured store' task := by
  have hroot : ∀ run id, RootOf store run id → RootOf store' run id := by
    rintro run id ⟨row, hrow, hid⟩
    obtain ⟨row', hrow', hid'⟩ := he.runs run row hrow
    exact ⟨row', hrow', hid'.trans hid⟩
  cases task with
  | readScope use run rootScopeId current chain => exact ⟨hroot _ _ h.1, h.2⟩
  | reserve run chain hne routingCallId => exact hroot _ _ h
  | finalize f reservation =>
    obtain ⟨⟨stored, hstored, hids, hlimit⟩, hd⟩ := h
    obtain ⟨stored', hstored', hm⟩ := he.reservations _ _ hstored
    exact ⟨⟨stored', hstored', hm.scopeIds.trans hids, hm.callLimitUsd.trans hlimit⟩, hd⟩
  | writeUsageLog claim verifiedSpendUsd success reservation => exact SettledWith.evolves h he
  | insertScope run parentScopeId maximum => exact h
  | _ => trivial

/-! ## Well-formed stores -/

/-- Every run has its root scope, every reservation is on scopes of its run that exist, one of them the root, and no budget and no
limit is negative. -/
structure WellFormed (store : Store) : Prop where
  root : ∀ run row, store.runs.lookup run = some row → ∃ scope, store.scopes.lookup ⟨run, row.rootScopeId⟩ = some scope
  booked : ∀ key r, store.reservations.lookup key = some r → ∀ scope ∈ scopeKeys key.run r.scopeIds,
    ∃ s, store.scopes.lookup scope = some s
  rooted : ∀ key r, store.reservations.lookup key = some r → ∃ row, store.runs.lookup key.run = some row ∧
    row.rootScopeId ∈ r.scopeIds
  maxUsd : ∀ key scope, store.scopes.lookup key = some scope → 0 ≤ scope.maxUsd
  limit : ∀ key r, store.reservations.lookup key = some r → 0 ≤ r.callLimitUsd

theorem wellFormed_empty : WellFormed {} where
  root := fun _ _ h => nomatch h
  booked := fun _ _ h => nomatch h
  rooted := fun _ _ h => nomatch h
  maxUsd := fun _ _ h => nomatch h
  limit := fun _ _ h => nomatch h

/-- A reservation comes from one that was there before, or from the transaction that reserves. -/
theorem Effect.reservation_cases {store store' : Store} {input : Input} {task : Task} (h : Effect store input task store')
    {key : ReservationKey} {r : Reservation} (hr : store'.reservations.lookup key = some r) :
    (∃ r₀, store.reservations.lookup key = some r₀ ∧ Moves r₀ r) ∨
      ∃ run chain hne routingCallId authorization, task = .reserve run chain hne routingCallId ∧
        authorizeCandidate input.candidate = .ok authorization ∧ key = ⟨run, input.uuid⟩ ∧
        r = newReservation chain hne routingCallId authorization input ∧
        ∀ scope ∈ scopeKeys run r.scopeIds,
          ∃ s, store.scopes.lookup scope = some s ∧ funds r.callLimitUsd s = true := by
  cases h with
  | @reserved run chain hne routingCallId authorization reservation scopes hauth hres hfunds _ hnew =>
    rcases of_lookup_insert hr with ⟨hid, rfl⟩ | ⟨-, hold⟩
    · exact Or.inr ⟨run, chain, hne, routingCallId, authorization, rfl, hauth, hid, hres, hfunds⟩
    · exact Or.inl ⟨r, hold, .stays⟩
  | started hstored hstatus =>
    rcases of_lookup_insert hr with ⟨rfl, rfl⟩ | ⟨-, hold⟩
    · exact Or.inl ⟨_, hstored, .starts hstatus⟩
    · exact Or.inl ⟨r, hold, .stays⟩
  | finalized _ _ hstored hstatus =>
    rcases of_lookup_insert hr with ⟨rfl, rfl⟩ | ⟨-, hold⟩
    · exact Or.inl ⟨_, hstored, .ends _ hstatus⟩
    · exact Or.inl ⟨r, hold, .stays⟩
  | logged =>
    rw [writeUsageLog_reservations] at hr
    exact Or.inl ⟨r, hr, .stays⟩
  | _ => exact Or.inl ⟨r, hr, .stays⟩

/-- A scope comes from one that was there before, or is new, with nothing spent or reserved. -/
theorem Effect.scope_cases {store store' : Store} {input : Input} {task : Task} (h : Effect store input task store')
    {key : ScopeKey} {s : Scope} (hs : store'.scopes.lookup key = some s) :
    (∃ s₀, store.scopes.lookup key = some s₀ ∧ s.maxUsd = s₀.maxUsd) ∨
      (key ∉ store.scopes ∧ s.spentUsd = 0 ∧ s.reservedUsd = 0 ∧ (Assured store task → 0 ≤ s.maxUsd)) := by
  cases hold : store.scopes.lookup key with
  | some s₀ =>
    obtain ⟨s', hs', hmax, -⟩ := h.evolves.scopes key s₀ hold
    rw [hs] at hs'
    cases hs'
    exact Or.inl ⟨s₀, rfl, hmax⟩
  | none =>
    have hnew : key ∉ store.scopes := by
      rw [← AList.lookup_eq_none]
      exact hold
    have hmap : ∀ {keys : List ScopeKey} {update : Scope → Scope} {scopes : Dict ScopeKey Scope},
        (∀ key, scopes.lookup key = if key ∈ keys then (store.scopes.lookup key).map update else store.scopes.lookup key) →
        scopes.lookup key ≠ some s := by
      intro keys update scopes hscopes hsome
      rw [hscopes, hold] at hsome
      split at hsome <;> cases hsome
    refine Or.inr ⟨hnew, ?_⟩
    cases h with
    | @runCreated userId routeId body hrun hscope =>
      rcases of_lookup_insert hs with ⟨-, rfl⟩ | ⟨-, hs⟩
      · exact ⟨rfl, rfl, fun _ => body.maxUsd_pos.le⟩
      · rw [hold] at hs
        cases hs
    | scopeCreated hscope =>
      rcases of_lookup_insert hs with ⟨-, rfl⟩ | ⟨-, hs⟩
      · exact ⟨rfl, rfl, id⟩
      · rw [hold] at hs
        cases hs
    | reserved _ _ _ hscopes _ => exact absurd hs (hmap hscopes)
    | finalized _ hscopes _ _ => exact absurd hs (hmap hscopes)
    | scopesClosed =>
      rw [lookup_mapRows, hold] at hs
      cases hs
    | scopeClosed hscope _ =>
      rcases of_lookup_insert hs with ⟨rfl, -⟩ | ⟨-, hs⟩
      · rw [hscope] at hold
        cases hold
      · rw [hold] at hs
        cases hs
    | logged =>
      rw [writeUsageLog_scopes, hold] at hs
      cases hs
    | _ =>
      rw [hold] at hs
      cases hs

/-- Only the finalization of a reservation that is open, on its scopes, changes what a scope has spent. -/
theorem Effect.spent_cases {store store' : Store} {input : Input} {task : Task} (h : Effect store input task store')
    {key : ScopeKey} {s s' : Scope} (hs : store.scopes.lookup key = some s) (hs' : store'.scopes.lookup key = some s') :
    s'.spentUsd = s.spentUsd ∨ ∃ f reservation stored, task = .finalize f reservation ∧
      key ∈ scopeKeys f.claim.run reservation.scopeIds ∧ store.reservations.lookup f.claim.key = some stored ∧
      stored.status = f.requiredStatus := by
  have hsame : store'.scopes.lookup key = some s → s'.spentUsd = s.spentUsd := by
    intro hlookup
    rw [hs'] at hlookup
    rw [Option.some.inj hlookup]
  cases h with
  | runCreated _ hnew => exact Or.inl (hsame (Table.lookup_insert_of_notMem _ hnew hs))
  | scopeCreated hnew => exact Or.inl (hsame (Table.lookup_insert_of_notMem _ hnew hs))
  | reserved _ _ _ hscopes _ =>
    rw [hscopes, hs] at hs'
    split at hs' <;> (cases hs'; exact Or.inl rfl)
  | @finalized f reservation stored scopes _ hscopes hstored hstatus =>
    rw [hscopes] at hs'
    split at hs'
    · rename_i hmem
      exact Or.inr ⟨f, reservation, stored, rfl, hmem, hstored, hstatus⟩
    · rw [hs] at hs'
      cases hs'
      exact Or.inl rfl
  | logged =>
    rw [writeUsageLog_scopes] at hsame
    exact Or.inl (hsame hs)
  | scopeClosed hscope _ =>
    rcases of_lookup_insert hs' with ⟨rfl, rfl⟩ | ⟨-, hs'⟩
    · rw [hscope] at hs
      cases hs
      exact Or.inl rfl
    · rw [hs] at hs'
      cases hs'
      exact Or.inl rfl
  | scopesClosed =>
    rw [lookup_mapRows, hs] at hs'
    cases hs'
    unfold closeScope
    split <;> exact Or.inl rfl
  | _ => exact Or.inl (hsame hs)

/-- A run was there before, or is new, with its root scope. -/
theorem Effect.run_cases {store store' : Store} {input : Input} {task : Task} (h : Effect store input task store')
    {run : RunKey} {row : Run} (hrow : store'.runs.lookup run = some row) :
    (∃ row₀, store.runs.lookup run = some row₀ ∧ row.rootScopeId = row₀.rootScopeId) ∨
      (run ∉ store.runs ∧ (∃ userId routeId body, task = .createRun userId routeId body ∧ run = ⟨userId, routeId, input.uuid⟩) ∧
        ∃ scope, store'.scopes.lookup ⟨run, row.rootScopeId⟩ = some scope) := by
  cases h with
  | @runCreated userId routeId body hrun hscope =>
    rcases of_lookup_insert hrow with ⟨rfl, rfl⟩ | ⟨-, hold⟩
    · exact Or.inr ⟨hrun, ⟨userId, routeId, body, rfl, rfl⟩, _, by rw [lookup_insert_eq, if_pos rfl]⟩
    · exact Or.inl ⟨row, hold, rfl⟩
  | runClosed hrun hactive =>
    rcases of_lookup_insert hrow with ⟨rfl, rfl⟩ | ⟨-, hold⟩
    · exact Or.inl ⟨_, hrun, rfl⟩
    · exact Or.inl ⟨row, hold, rfl⟩
  | logged =>
    rw [writeUsageLog_runs] at hrow
    exact Or.inl ⟨row, hrow, rfl⟩
  | _ => exact Or.inl ⟨row, hrow, rfl⟩

/-- Every effect of a thread that is assured keeps the store well-formed. -/
theorem Effect.wellFormed {store store' : Store} {input : Input} {task : Task} (h : Effect store input task store')
    (hw : WellFormed store) (ha : Assured store task) : WellFormed store' where
  root run row hrow := by
    rcases h.run_cases hrow with ⟨row₀, hrow₀, hroot⟩ | ⟨-, -, hscope⟩
    · obtain ⟨scope, hscope⟩ := hw.root run row₀ hrow₀
      obtain ⟨scope', hscope', -⟩ := h.evolves.scopes _ _ hscope
      exact ⟨scope', hroot ▸ hscope'⟩
    · exact hscope
  booked key r hr scope hscope := by
    have hold : ∃ s, store.scopes.lookup scope = some s := by
      rcases h.reservation_cases hr with ⟨r₀, hr₀, hm⟩ | ⟨run, chain, hne, call, auth, -, -, hkey, hres, hfunds⟩
      · exact hw.booked key r₀ hr₀ scope (hm.scopeIds ▸ hscope)
      · rw [hkey] at hscope
        obtain ⟨s, hs, -⟩ := hfunds scope hscope
        exact ⟨s, hs⟩
    obtain ⟨s, hs⟩ := hold
    obtain ⟨s', hs', -⟩ := h.evolves.scopes _ _ hs
    exact ⟨s', hs'⟩
  rooted key r hr := by
    have hold : ∃ row, store.runs.lookup key.run = some row ∧ row.rootScopeId ∈ r.scopeIds := by
      rcases h.reservation_cases hr with ⟨r₀, hr₀, hm⟩ | ⟨run, chain, hne, call, auth, htask, -, hkey, hres, -⟩
      · rw [hm.scopeIds]
        exact hw.rooted key r₀ hr₀
      · subst htask
        obtain ⟨row, hrow, hroot⟩ := ha
        rw [hkey, hres]
        exact ⟨row, hrow, hroot ▸ List.mem_map.2 ⟨_, List.head_mem hne, rfl⟩⟩
    obtain ⟨row, hrow, hmem⟩ := hold
    obtain ⟨row', hrow', hroot'⟩ := h.evolves.runs _ _ hrow
    exact ⟨row', hrow', hroot'.symm ▸ hmem⟩
  maxUsd key s hs := by
    rcases h.scope_cases hs with ⟨s₀, hs₀, hmax⟩ | ⟨-, -, -, hmax⟩
    · exact hmax.symm ▸ hw.maxUsd key s₀ hs₀
    · exact hmax ha
  limit key r hr := by
    rcases h.reservation_cases hr with ⟨r₀, hr₀, hm⟩ | ⟨run, chain, hne, call, auth, -, hauth, -, hres, -⟩
    · exact hm.callLimitUsd.symm ▸ hw.limit key r₀ hr₀
    · rw [hres]
      exact (callLimitUsd_pos hauth).le

/-! ## What a turn assures its thread of -/

/-- The maximum of a scope is not negative, under a parent whose maximum is not. -/
theorem childMaximum_nonneg (body : WorkflowScopeCreateRequest) {parent : Scope} (h : 0 ≤ parent.maxUsd) :
    0 ≤ childMaximum body parent := by
  unfold childMaximum
  cases hmax : body.maxUsd with
  | some maxUsd => exact (body.maxUsd_pos maxUsd hmax).le
  | none =>
    refine mul_nonneg h ?_
    cases hpercent : body.maxPercent with
    | none => exact le_rfl
    | some percent => exact (body.maxPercent_pos percent hpercent).le

theorem assured_nextScope {store : Store} {use : ChainUse} {run : RunKey} {rootScopeId : ScopeId} {chain : ScopeChain}
    (hroot : RootOf store run rootScopeId) (hmax : ∀ p ∈ chain.rows, 0 ≤ p.2.maxUsd) (current : Option ScopeId) :
    Assured store (nextScope use run rootScopeId current chain) := by
  cases current with
  | some current => exact ⟨hroot, hmax⟩
  | none =>
    simp only [nextScope, endChain]
    split
    · rename_i hne
      split
      · trivial
      · rename_i hhead
        rw [not_not] at hhead
        cases use with
        | scope body =>
          simp only [useChain]
          split
          · trivial
          · exact childMaximum_nonneg body (hmax _ (List.getLast_mem hne))
        | call routingCallId =>
          simp only [useChain, Assured]
          rw [hhead]
          exact hroot
    · trivial

/-- The reservation that a claim names. -/
theorem workflowReservationFromClaim_ok {store : Store} {claim : AccountingClaim} {reservation : Reservation}
    (h : workflowReservationFromClaim store claim = .ok reservation) :
    store.reservations.lookup claim.key = some reservation ∧ reservation.callLimitUsd = claim.callLimitUsd := by
  unfold workflowReservationFromClaim at h
  split at h
  · cases h
  · split at h
    · cases h
    · rename_i stored hstored
      split at h
      · rename_i hmatch
        cases h
        exact ⟨hstored, hmatch.2.2.2.2.1⟩
      · cases h

/-- What `finalize_workflow_reservation` returns to the endpoint that logs usage is settled with the spend. -/
theorem assured_finalized {store : Store} {f : Finalization} {reservation : Reservation}
    (h : store.reservations.lookup f.claim.key = some reservation) (hstatus : reservation.status = f.outcome)
    (hclose : isclose (reservation.spendUsd.getD 0) f.spendUsd = true) : Assured store (finalized f reservation) := by
  cases f with
  | settle claim verifiedSpendUsd success => exact ⟨reservation, h, hstatus, hclose⟩
  | cancel claim => trivial
  | fail claim => trivial

theorem debitAllowed {f : Finalization} {callLimitUsd : ℚ} (hlimit : callLimitUsd = f.claim.callLimitUsd)
    (h : ¬(f.debit < 0 ∨ f.debit > callLimitUsd + tolerance)) : DebitAllowed f callLimitUsd := by
  obtain ⟨hneg, hcap⟩ := not_or.1 h
  refine ⟨not_lt.1 hneg, not_lt.1 hcap, ?_⟩
  intro hfailed
  cases f with
  | fail claim => exact hlimit.symm
  | cancel claim => cases hfailed
  | settle claim verifiedSpendUsd success => cases hfailed

/-- The debit of a finalization is close to its spend. -/
theorem debit_close (f : Finalization) : isclose f.debit f.spendUsd = true := by
  cases f <;> exact isclose_self _

/-- A turn assures its thread of what its next one relies on. -/
theorem assured_next {store : Store} (hw : WellFormed store) {task : Task} (ha : Assured store task) (input : Input) :
    Assured (turn store task input).1 (turn store task input).2 := by
  cases task with
  | createRun userId routeId body =>
    simp only [turn, createRun]
    split_ifs <;> trivial
  | readRun use run scopeId =>
    simp only [turn, readRun]
    split
    · trivial
    · rename_i row hrow
      split
      · trivial
      · exact assured_nextScope ⟨row, hrow, rfl⟩ (by simp) scopeId
  | readScope use run rootScopeId current chain =>
    simp only [turn, readScope]
    split
    · trivial
    · split
      · trivial
      · rename_i row hrow
        split
        · trivial
        · refine assured_nextScope ha.1 ?_ row.parentScopeId
          intro p hp
          rcases List.mem_cons.1 hp with rfl | hp
          · exact hw.maxUsd _ _ hrow
          · exact ha.2 p hp
  | insertScope run parentScopeId maximum =>
    simp only [turn, insertScope]
    split_ifs <;> trivial
  | reserve run chain hne routingCallId =>
    simp only [turn, reserveWorkflowCall]
    repeat' split
    all_goals trivial
  | readReserved claim =>
    simp only [turn, readReserved]
    repeat' split
    all_goals trivial
  | writeStarted claim =>
    simp only [turn, writeStarted]
    repeat' split
    all_goals trivial
  | readReservation f =>
    simp only [turn, readReservation]
    split
    · trivial
    · rename_i reservation hread
      obtain ⟨hlookup, hlimit⟩ := workflowReservationFromClaim_ok hread
      split
      · split
        · rename_i hsame
          exact assured_finalized hlookup hsame.1 hsame.2
        · trivial
      · split
        · trivial
        · rename_i hstatus
          split
          · trivial
          · rename_i hcap
            exact ⟨⟨reservation, hlookup, rfl, rfl⟩, not_not.1 hstatus, debitAllowed hlimit hcap⟩
  | finalize f reservation =>
    simp only [turn, finalizeWorkflowReservation]
    split
    · trivial
    · split
      · trivial
      · split
        · refine assured_finalized (by rw [lookup_insert_eq, if_pos rfl]) rfl ?_
          exact debit_close f
        · trivial
  | checkScope run scopeId body =>
    simp only [turn, checkScope]
    split <;> trivial
  | writeScopeStatus run scopeId body =>
    simp only [turn, writeScopeStatus]
    repeat' split
    all_goals trivial
  | checkRun run body =>
    simp only [turn, checkRun]
    split <;> trivial
  | writeRunStatus run body =>
    simp only [turn, writeRunStatus]
    repeat' split
    all_goals trivial
  | _ => trivial

/-- A request starts with nothing to rely on. -/
theorem assured_start (store : Store) (call : Call) : Assured store (start call) := by
  cases call with
  | createScope run body =>
    simp only [start]
    split <;> trivial
  | finalize f =>
    cases f with
    | settle claim verifiedSpendUsd success =>
      simp only [start]
      split <;> trivial
    | cancel claim => trivial
    | fail claim => trivial
  | _ => trivial

theorem assured_crash {store : Store} {task : Task} : Assured store (crash task) := by
  cases task <;> trivial

/-- Only a turn of a thread that exists changes the store. -/
theorem store_step (w : System) (a : Step) :
    ((∀ t input, a = .turn t input → w.threads.lookup t = none) ∧ (program.step w a).store = w.store) ∨
      ∃ t input task, a = .turn t input ∧ w.threads.lookup t = some task ∧
        (program.step w a).store = (turn w.store task input).1 := by
  rcases program.step_cases w a with ⟨hno, hs⟩ | ⟨t, call, rfl, -, hs⟩ | ⟨t, input, task, rfl, ht, hs⟩ |
    ⟨t, task, rfl, -, hs⟩ | ⟨event, -, -⟩
  · exact Or.inl ⟨hno, by rw [hs]⟩
  · exact Or.inl ⟨(fun _ _ h => nomatch h), by rw [hs]⟩
  · exact Or.inr ⟨t, input, task, rfl, ht, by rw [hs]; rfl⟩
  · exact Or.inl ⟨(fun _ _ h => nomatch h), by rw [hs]⟩
  · exact event.elim

/-- What holds of every reachable state: the store is well-formed, and every thread is assured. -/
def Sound (w : System) : Prop := WellFormed w.store ∧ Concurrent.EveryThread (Assured w.store) w.threads

theorem sound_begun : Sound begun := ⟨wellFormed_empty, Concurrent.everyThread_empty _⟩

theorem sound_step (w : System) (a : Step) (h : Sound w) : Sound (program.step w a) :=
  program.step_keeps (fun store call _ => assured_start store call)
    (fun store task input hw ha => ⟨(turn_effect store task input).wellFormed hw ha, assured_next hw ha input⟩)
    (fun store task input _ _ _ ha' => ha'.evolves (turn_effect store task input).evolves)
    (fun _ _ _ => assured_crash) (fun _ event _ => event.elim) w a h

end Workflow

end PromptRail
