import PromptRail.Workflow.Assured

/-!
# The ledger of the scopes

A reservation is booked on every scope from the root down to its own, and released by another request. `LedgerExact` says that the
two sums each scope keeps are those of the reservations on it. The ledger is exact in every state that any interleaving reaches, so
a finalization that does not find its amount reserved has been overtaken by another one of the same reservation.
-/

namespace PromptRail

namespace Workflow

open Table (Dict total total_insert total_replace total_eq_zero of_lookup_insert lookup_mapRows)
open Transition (Throughout throughout_of_invariant)

/-- What a reservation holds of a scope. -/
def openUsd (scope : ScopeKey) (key : ReservationKey) (r : Reservation) : ℚ :=
  if books scope key r ∧ r.status.isOpen then r.callLimitUsd else 0

/-- What a reservation has spent of a scope. -/
def settledUsd (scope : ScopeKey) (key : ReservationKey) (r : Reservation) : ℚ :=
  if books scope key r ∧ (r.status = .settled ∨ r.status = .failed) then r.spendUsd.getD 0 else 0

/-- A settled reservation counts once. -/
def settledOnce (scope : ScopeKey) (key : ReservationKey) (r : Reservation) : Nat :=
  if books scope key r ∧ r.status = .settled then 1 else 0

/-- The two sums of a scope are those of the reservations on it, and stay within its maximum, up to the tolerance that each settled
reservation is granted. -/
structure ScopeExact (store : Store) (key : ScopeKey) (scope : Scope) : Prop where
  reserved : scope.reservedUsd = total (openUsd key) store.reservations
  spent : scope.spentUsd = total (settledUsd key) store.reservations
  nonneg : 0 ≤ scope.reservedUsd
  within : scope.spentUsd + scope.reservedUsd ≤
    scope.maxUsd + tolerance * (total (settledOnce key) store.reservations : Nat)

/-- Every scope is exact. -/
def LedgerExact (store : Store) : Prop := ∀ key scope, store.scopes.lookup key = some scope → ScopeExact store key scope

/-- Whether a scope is exact depends on its sums, and on the reservations. -/
theorem ScopeExact.of_eq {store store' : Store} {key : ScopeKey} {scope scope' : Scope} (h : ScopeExact store key scope)
    (hres : store'.reservations = store.reservations) (hreserved : scope'.reservedUsd = scope.reservedUsd)
    (hspent : scope'.spentUsd = scope.spentUsd) (hmax : scope'.maxUsd = scope.maxUsd) : ScopeExact store' key scope' := by
  refine ⟨?_, ?_, ?_, ?_⟩
  · rw [hreserved, hres, h.reserved]
  · rw [hspent, hres, h.spent]
  · rw [hreserved]
    exact h.nonneg
  · rw [hreserved, hspent, hmax, hres]
    exact h.within

/-- The scope on which a finalization has failed with `workflow_scope_settlement_conflict`. -/
def Task.conflictOn : Task → Option ScopeId
  | .threw (.scopeSettlementConflict id) => some id
  | _ => none

theorem eq_of_conflictOn {task : Task} {id : ScopeId} (h : task.conflictOn = some id) :
    task = .threw (.scopeSettlementConflict id) := by
  unfold Task.conflictOn at h
  split at h
  · rw [Option.some.inj h]
  · cases h

/-- No finalization has failed on a scope. -/
def NoScopeConflict (w : System) : Prop := ∀ t task, w.threads.lookup t = some task → task.conflictOn = none

/-- A finalization that fails on a scope has read the reservation as one that is open, and finds it finalized. -/
def ConflictsOvertaken (w : System) : Prop :=
  ∀ t f reservation input, w.threads.lookup t = some (.finalize f reservation) →
    (turn w.store (.finalize f reservation) input).2.conflictOn ≠ none →
    reservation.status.isFinal = false ∧
      ∃ stored, w.store.reservations.lookup f.claim.key = some stored ∧ stored.status.isFinal = true

namespace ScopesAux

theorem isOpen_eq (status : ReservationStatus) : status.isOpen = !status.isFinal := by
  cases status <;> rfl

/-- A finalization requires a reservation that is open. -/
theorem requiredStatus_isOpen (f : Finalization) : f.requiredStatus.isOpen = true := by
  cases f <;> rfl

/-- What a reservation measures on a scope it is not on. -/
theorem measures_other {scope : ScopeKey} {key : ReservationKey} {r : Reservation} (h : scope ∉ scopeKeys key.run r.scopeIds) :
    openUsd scope key r = 0 ∧ settledUsd scope key r = 0 ∧ settledOnce scope key r = 0 := by
  have hb : ¬books scope key r = true := fun hx => h (books_iff.1 hx)
  exact ⟨if_neg fun hx => hb hx.1, if_neg fun hx => hb hx.1, if_neg fun hx => hb hx.1⟩

/-- What an open reservation measures on a scope it is on. -/
theorem measures_open {scope : ScopeKey} {key : ReservationKey} {r : Reservation} (h : scope ∈ scopeKeys key.run r.scopeIds)
    (hopen : r.status.isOpen = true) :
    openUsd scope key r = r.callLimitUsd ∧ settledUsd scope key r = 0 ∧ settledOnce scope key r = 0 := by
  refine ⟨if_pos ⟨books_iff.2 h, hopen⟩, if_neg ?_, if_neg ?_⟩
  · rintro ⟨-, hs | hs⟩ <;> (rw [hs] at hopen; cases hopen)
  · rintro ⟨-, hs⟩
    rw [hs] at hopen
    cases hopen

/-- What a finalized reservation measures on a scope it is on. -/
theorem measures_finalized {scope : ScopeKey} {key : ReservationKey} {r : Reservation} (f : Finalization)
    (h : scope ∈ scopeKeys key.run r.scopeIds) (hstatus : r.status = f.outcome) (hspend : r.spendUsd = some f.debit) :
    openUsd scope key r = 0 ∧ settledUsd scope key r = f.debit ∧
      settledOnce scope key r = if f.outcome = .settled then 1 else 0 := by
  have hb : books scope key r = true := books_iff.2 h
  unfold openUsd settledUsd settledOnce
  rw [hstatus, hspend]
  cases f <;> simp [hb, Finalization.outcome, ReservationStatus.isOpen, Finalization.debit]

theorem openUsd_nonneg {scope : ScopeKey} {key : ReservationKey} {r : Reservation} (h : 0 ≤ r.callLimitUsd) :
    0 ≤ openUsd scope key r := by
  unfold openUsd
  split
  · exact h
  · exact le_rfl

variable {store store' : Store}

/-- A scope that is new is on no reservation. -/
theorem not_books (hw : WellFormed store) {scope : ScopeKey} (hnew : scope ∉ store.scopes) {key : ReservationKey}
    {r : Reservation} (hr : store.reservations.lookup key = some r) : ¬books scope key r = true := by
  intro hb
  obtain ⟨s, hs⟩ := hw.booked key r hr scope (books_iff.1 hb)
  exact hnew (Table.mem_iff_lookup.2 ⟨s, hs⟩)

/-- A scope that is new is exact. -/
theorem exact_new (hw : WellFormed store) {key : ScopeKey} (hnew : key ∉ store.scopes) {scope : Scope}
    (hspent : scope.spentUsd = 0) (hreserved : scope.reservedUsd = 0) (hmax : 0 ≤ scope.maxUsd) : ScopeExact store key scope := by
  have hopen : total (openUsd key) store.reservations = 0 :=
    total_eq_zero fun k r hr => if_neg fun h => not_books hw hnew hr h.1
  have hsettled : total (settledUsd key) store.reservations = 0 :=
    total_eq_zero fun k r hr => if_neg fun h => not_books hw hnew hr h.1
  have honce : total (settledOnce key) store.reservations = 0 :=
    total_eq_zero fun k r hr => if_neg fun h => not_books hw hnew hr h.1
  refine ⟨hreserved.trans hopen.symm, hspent.trans hsettled.symm, hreserved.ge, ?_⟩
  rw [hspent, hreserved, honce]
  simpa using hmax

/-- A scope on which a new reservation is booked, or not. -/
theorem exact_reserved {key : ScopeKey} {scope scope' : Scope} {id : ReservationKey} {r : Reservation}
    (h : ScopeExact store key scope) (hnew : id ∉ store.reservations) (hstatus : r.status = .reserved)
    (hlimit : 0 ≤ r.callLimitUsd)
    (hscope : if key ∈ scopeKeys id.run r.scopeIds then
      funds r.callLimitUsd scope = true ∧ scope' = Scope.book r.callLimitUsd scope else scope' = scope)
    (hres : store'.reservations = store.reservations.insert id r) : ScopeExact store' key scope' := by
  have hopen := total_insert (openUsd key) r hnew
  have hsettled := total_insert (settledUsd key) r hnew
  have honce := total_insert (settledOnce key) r hnew
  rw [← hres] at hopen hsettled honce
  by_cases hb : key ∈ scopeKeys id.run r.scopeIds
  · rw [if_pos hb] at hscope
    obtain ⟨hfunds, rfl⟩ := hscope
    obtain ⟨h1, h2, h3⟩ := measures_open hb (by rw [hstatus]; rfl)
    rw [h1] at hopen
    rw [h2, zero_add] at hsettled
    rw [h3, zero_add] at honce
    have hleft : r.callLimitUsd ≤ scope.maxUsd - (scope.spentUsd + scope.reservedUsd) := by
      simp only [funds, Bool.and_eq_true, decide_eq_true_eq] at hfunds
      exact hfunds.2
    have htol : (0 : ℚ) ≤ tolerance * (total (settledOnce key) store.reservations : Nat) :=
      mul_nonneg (by unfold tolerance; norm_num) (Nat.cast_nonneg _)
    refine ⟨?_, hsettled ▸ h.spent, add_nonneg h.nonneg hlimit, ?_⟩
    · rw [hopen, ← h.reserved, add_comm]
      rfl
    · rw [honce]
      simp only [Scope.book]
      linarith
  · rw [if_neg hb] at hscope
    subst hscope
    obtain ⟨h1, h2, h3⟩ := measures_other hb
    rw [h1, zero_add] at hopen
    rw [h2, zero_add] at hsettled
    rw [h3, zero_add] at honce
    exact ⟨hopen ▸ h.reserved, hsettled ▸ h.spent, h.nonneg, honce ▸ h.within⟩

/-- What a finalization debits beyond the limit of the reservation: of a settled one no more than the tolerance. -/
theorem debit_le {f : Finalization} {callLimitUsd : ℚ} (h : DebitAllowed f callLimitUsd) (hlimit : 0 ≤ callLimitUsd) :
    f.debit ≤ callLimitUsd + tolerance * (if f.outcome = .settled then 1 else 0 : Nat) := by
  obtain ⟨-, hcap, hfailed⟩ := h
  cases f with
  | cancel claim => simpa [Finalization.debit, Finalization.outcome] using hlimit
  | fail claim => simpa [Finalization.outcome] using (hfailed rfl).le
  | settle claim verifiedSpendUsd success => simpa [Finalization.outcome] using hcap

/-- A scope whose reservation is finalized, or another scope. -/
theorem exact_finalized {key : ScopeKey} {scope scope' : Scope} {id : ReservationKey} {stored : Reservation} {f : Finalization}
    (h : ScopeExact store key scope) (hstored : store.reservations.lookup id = some stored)
    (hstatus : stored.status = f.requiredStatus) (hdebit : DebitAllowed f stored.callLimitUsd) (hlimit : 0 ≤ stored.callLimitUsd)
    (hscope : if key ∈ scopeKeys id.run stored.scopeIds then
      holds stored.callLimitUsd scope = true ∧ scope' = Scope.settle stored.callLimitUsd f.debit scope else scope' = scope)
    (hres : store'.reservations = store.reservations.insert id { stored with status := f.outcome, spendUsd := some f.debit }) :
    ScopeExact store' key scope' := by
  have hopen := total_replace (openUsd key) { stored with status := f.outcome, spendUsd := some f.debit } hstored
  have hsettled := total_replace (settledUsd key) { stored with status := f.outcome, spendUsd := some f.debit } hstored
  have honce := total_replace (settledOnce key) { stored with status := f.outcome, spendUsd := some f.debit } hstored
  rw [← hres] at hopen hsettled honce
  by_cases hb : key ∈ scopeKeys id.run stored.scopeIds
  · rw [if_pos hb] at hscope
    obtain ⟨hholds, rfl⟩ := hscope
    obtain ⟨h1, h2, h3⟩ := measures_open hb (by rw [hstatus]; exact requiredStatus_isOpen f)
    obtain ⟨h1', h2', h3'⟩ := measures_finalized (r := { stored with status := f.outcome, spendUsd := some f.debit }) f hb rfl rfl
    rw [h1, h1', zero_add] at hopen
    rw [h2, h2', zero_add] at hsettled
    rw [h3, h3', zero_add] at honce
    simp only [holds, decide_eq_true_eq] at hholds
    refine ⟨?_, ?_, ?_, ?_⟩
    · have := h.reserved
      simp only [Scope.settle]
      linarith
    · have := h.spent
      simp only [Scope.settle]
      linarith
    · simp only [Scope.settle]
      linarith
    · have hle := debit_le hdebit hlimit
      have := h.within
      rw [honce, Nat.cast_add, mul_add]
      simp only [Scope.settle]
      linarith
  · rw [if_neg hb] at hscope
    subst hscope
    obtain ⟨h1, h2, h3⟩ := measures_other hb
    obtain ⟨h1', h2', h3'⟩ := measures_other (r := { stored with status := f.outcome, spendUsd := some f.debit }) hb
    rw [h1, h1', zero_add, zero_add] at hopen
    rw [h2, h2', zero_add, zero_add] at hsettled
    rw [h3, h3', zero_add, zero_add] at honce
    exact ⟨hopen ▸ h.reserved, hsettled ▸ h.spent, h.nonneg, honce ▸ h.within⟩

/-- A reservation that was started is as open as before. -/
theorem exact_started {key : ScopeKey} {scope : Scope} {id : ReservationKey} {stored : Reservation}
    (h : ScopeExact store key scope) (hstored : store.reservations.lookup id = some stored) (hstatus : stored.status = .reserved)
    (hres : store'.reservations = store.reservations.insert id { stored with status := .started }) :
    ScopeExact store' key scope := by
  have hopen := total_replace (openUsd key) { stored with status := .started } hstored
  have hsettled := total_replace (settledUsd key) { stored with status := .started } hstored
  have honce := total_replace (settledOnce key) { stored with status := .started } hstored
  rw [← hres] at hopen hsettled honce
  have hsame : books key id { stored with status := .started } = books key id stored := rfl
  simp only [openUsd, settledUsd, settledOnce, hsame, hstatus, ReservationStatus.isOpen, and_true, and_false, reduceCtorEq,
    or_self, if_false, zero_add] at hopen hsettled honce
  refine ⟨?_, ?_, h.nonneg, ?_⟩
  · rw [add_left_cancel hopen]
    exact h.reserved
  · rw [hsettled]
    exact h.spent
  · rw [honce]
    exact h.within

/-- A scope whose documents were updated one by one: one of them, or another one. -/
theorem scope_of_updated {scopes scopes' : Dict ScopeKey Scope} {keys : List ScopeKey} {guard : Scope → Bool}
    {update : Scope → Scope} {key : ScopeKey} {scope' : Scope}
    (hguard : ∀ k ∈ keys, ∃ scope, scopes.lookup k = some scope ∧ guard scope = true)
    (hlookup : ∀ k, scopes'.lookup k = if k ∈ keys then (scopes.lookup k).map update else scopes.lookup k)
    (h : scopes'.lookup key = some scope') :
    ∃ scope, scopes.lookup key = some scope ∧
      if key ∈ keys then guard scope = true ∧ scope' = update scope else scope' = scope := by
  rw [hlookup] at h
  by_cases hk : key ∈ keys
  · obtain ⟨scope, hscope, hg⟩ := hguard key hk
    rw [if_pos hk, hscope] at h
    exact ⟨scope, hscope, by rw [if_pos hk]; exact ⟨hg, (Option.some.inj h).symm⟩⟩
  · rw [if_neg hk] at h
    exact ⟨scope', h, by rw [if_neg hk]⟩

/-- Every effect keeps the ledger exact: one case for each of them. -/
theorem ledger_effect {input : Input} {task : Task} (he : Effect store input task store') (hw : WellFormed store)
    (ha : Assured store task) (hl : LedgerExact store) : LedgerExact store' := by
  intro key scope hscope
  cases he with
  | kept => exact hl key scope hscope
  | @runCreated userId routeId body hrun hnew =>
    rcases of_lookup_insert hscope with ⟨rfl, rfl⟩ | ⟨-, hold⟩
    · have hexact : ScopeExact store _ { parentScopeId := none, maxUsd := body.maxUsd } :=
        exact_new hw hnew rfl rfl body.maxUsd_pos.le
      exact hexact.of_eq rfl rfl rfl rfl
    · exact (hl key scope hold).of_eq rfl rfl rfl rfl
  | @scopeCreated run parentScopeId maximum hnew =>
    rcases of_lookup_insert hscope with ⟨rfl, rfl⟩ | ⟨-, hold⟩
    · have hexact : ScopeExact store _ { parentScopeId := some parentScopeId, maxUsd := maximum } :=
        exact_new hw hnew rfl rfl ha
      exact hexact.of_eq rfl rfl rfl rfl
    · exact (hl key scope hold).of_eq rfl rfl rfl rfl
  | @reserved run chain hne call authorization reservation scopes hauth hres hfunds hscopes hnew =>
    obtain ⟨scope₀, hscope₀, hupdated⟩ := scope_of_updated hfunds hscopes hscope
    have hlimit : 0 ≤ reservation.callLimitUsd := by
      rw [hres]
      exact (callLimitUsd_pos hauth).le
    have hstatus : reservation.status = .reserved := by rw [hres]; rfl
    exact exact_reserved (hl key scope₀ hscope₀) hnew hstatus hlimit hupdated rfl
  | started hstored hstatus => exact exact_started (hl key scope hscope) hstored hstatus rfl
  | @finalized f reservation stored scopes hholds hscopes hstored hstatus =>
    obtain ⟨⟨stored', hstored', hids, hlimit⟩, -, hdebit⟩ := ha
    rw [hstored] at hstored'
    cases hstored'
    obtain ⟨scope₀, hscope₀, hupdated⟩ := scope_of_updated hholds hscopes hscope
    rw [← hids, ← hlimit] at hupdated
    rw [← hlimit] at hdebit
    exact exact_finalized (hl key scope₀ hscope₀) hstored hstatus hdebit (hw.limit _ _ hstored) hupdated rfl
  | logged =>
    rw [writeUsageLog_scopes] at hscope
    exact (hl key scope hscope).of_eq (writeUsageLog_reservations _ _ _ _) rfl rfl rfl
  | @scopeClosed run scopeId body scope₀ hscope₀ hactive =>
    rcases of_lookup_insert hscope with ⟨rfl, rfl⟩ | ⟨-, hold⟩
    · exact (hl _ scope₀ hscope₀).of_eq rfl rfl rfl rfl
    · exact (hl key scope hold).of_eq rfl rfl rfl rfl
  | scopesClosed =>
    rw [lookup_mapRows] at hscope
    obtain ⟨scope₀, hscope₀, rfl⟩ := Option.map_eq_some_iff.1 hscope
    refine (hl key scope₀ hscope₀).of_eq rfl ?_ ?_ ?_ <;> (unfold closeScope; split <;> rfl)
  | runClosed => exact (hl key scope hscope).of_eq rfl rfl rfl rfl

/-- While a reservation is open, each of its scopes holds its amount. -/
theorem holds_of_open (hw : WellFormed store) (hl : LedgerExact store) {id : ReservationKey} {stored : Reservation}
    (hstored : store.reservations.lookup id = some stored) (hopen : stored.status.isOpen = true) {key : ScopeKey}
    (hkey : key ∈ scopeKeys id.run stored.scopeIds) :
    ∃ scope, store.scopes.lookup key = some scope ∧ holds stored.callLimitUsd scope = true := by
  obtain ⟨scope, hscope⟩ := hw.booked id stored hstored key hkey
  have hle : openUsd key id stored ≤ total (openUsd key) store.reservations := by
    refine Table.le_total ?_ hstored
    intro e he
    exact openUsd_nonneg (hw.limit e.1 e.2 (AList.mem_lookup_iff.2 he))
  rw [(measures_open hkey hopen).1, ← (hl key scope hscope).reserved] at hle
  exact ⟨scope, hscope, decide_eq_true hle⟩

/-- A finalization that fails on a scope was overtaken. -/
theorem conflict_overtaken (hw : WellFormed store) (hl : LedgerExact store) {f : Finalization} {reservation : Reservation}
    (ha : Assured store (.finalize f reservation)) {input : Input}
    (h : (turn store (.finalize f reservation) input).2.conflictOn ≠ none) :
    reservation.status.isFinal = false ∧
      ∃ stored, store.reservations.lookup f.claim.key = some stored ∧ stored.status.isFinal = true := by
  obtain ⟨⟨stored, hstored, hids, hlimit⟩, hstatus, -⟩ := ha
  refine ⟨by rw [hstatus]; exact requiredStatus_not_final f, stored, hstored, ?_⟩
  by_contra hfinal
  have hopen : stored.status.isOpen = true := by
    rw [isOpen_eq]
    simpa using hfinal
  rcases finalizeWorkflowReservation_cases store f reservation with ⟨refusal, hrefusal, hturn⟩ | ⟨_, _, -, -, -, -, hturn⟩
  · rcases hrefusal with ⟨rfl, -⟩ | ⟨key, hkey, rfl, hlacks⟩
    · simp only [turn, hturn] at h
      exact h rfl
    · obtain ⟨scope, hscope, hholds⟩ := holds_of_open hw hl hstored hopen (hids.symm ▸ hkey)
      rw [hlimit, hlacks scope hscope] at hholds
      cases hholds
  · simp only [turn, hturn] at h
    exact h (by cases f <;> rfl)

theorem ledger_empty : LedgerExact {} := fun _ _ h => nomatch h

/-- Every step keeps the ledger exact, and the store well-formed and the threads assured. -/
theorem ledger_step (w : System) (a : Step) (h : (WellFormed w.store ∧ LedgerExact w.store) ∧
    Concurrent.EveryThread (Assured w.store) w.threads) :
    (WellFormed (program.step w a).store ∧ LedgerExact (program.step w a).store) ∧
      Concurrent.EveryThread (Assured (program.step w a).store) (program.step w a).threads :=
  program.step_keeps (I := fun store => WellFormed store ∧ LedgerExact store) (fun store call _ => assured_start store call)
    (fun store task input hi ha => ⟨⟨(turn_effect store task input).wellFormed hi.1 ha,
      ledger_effect (turn_effect store task input) hi.1 ha hi.2⟩, assured_next hi.1 ha input⟩)
    (fun store task input _ _ _ ha' => ha'.evolves (turn_effect store task input).evolves)
    (fun _ _ _ => assured_crash) (fun _ event _ => event.elim) w a h

/-- What the steps keep holds at the end of every run. -/
theorem ledger_exec (steps : List Step) : WellFormed (Transition.exec program.step begun steps).store ∧
    LedgerExact (Transition.exec program.step begun steps).store :=
  (Transition.exec_invariant ledger_step (s := begun) ⟨⟨wellFormed_empty, ledger_empty⟩, Concurrent.everyThread_empty _⟩ steps).1

end ScopesAux

open ScopesAux

/-- The ledger of the scopes is exact in every state of every run, and a finalization only fails on a scope when another one of
the same reservation has overtaken it. -/
theorem ledger_exact (steps : List Step) :
    Throughout program.step (fun w => LedgerExact w.store ∧ ConflictsOvertaken w) begun steps := by
  have hinv := throughout_of_invariant ledger_step (s := begun)
    ⟨⟨wellFormed_empty, ledger_empty⟩, Concurrent.everyThread_empty _⟩ steps
  refine hinv.mono ?_
  rintro w ⟨⟨hw, hl⟩, ha⟩
  exact ⟨hl, fun t f reservation input ht hconflict => conflict_overtaken hw hl (ha t _ ht) hconflict⟩

/-- A run with a budget of one dollar, under the first uuid; its root scope has the second. -/
def exampleRun : RunKey := ⟨"user", "default", 1⟩

/-- A call that is authorized for fifty cents, and reserved under the third uuid. -/
def exampleInput (uuid rootUuid : Nat) : Input where
  uuid := uuid
  rootUuid := rootUuid
  candidate :=
    { availableUsd := some 1
      effectiveTargetUsd := some (1 / 2)
      predictedCostUsd := some (1 / 4)
      inputTokens := 1000
      inputPricePerMillion := some 1
      outputPricePerMillion := some 1 }
  modelId := "model"
  provider := "openai"

/-- The claim of that call. -/
def exampleClaim : AccountingClaim where
  run := exampleRun
  scopeId := 2
  reservationId := 3
  routingCallId := "call"
  modelId := "model"
  provider := "openai"
  callLimitUsd := 1 / 2
  maxOutputTokens := 499000

/-- A thread takes a number of turns. -/
def turns (t : Concurrent.ThreadId) (n : Nat) : List Step := List.replicate n (.turn t (exampleInput 3 0))

theorem oneDollar_pos : (0 : ℚ) < 1 := by decide

/-- The run is created and the call reserved. -/
def reserveOne : List Step :=
  [.begin 0 (.createRun "user" "default" ⟨1, oneDollar_pos⟩), .turn 0 (exampleInput 1 2), .begin 1 (.route exampleRun (some 2) "call")] ++
    turns 1 3

/-- The call is started. -/
def startOne : List Step := reserveOne ++ (.begin 2 (.start exampleClaim) :: turns 2 2)

/-- Two finalizations of one call, both of which read the reservation as started. -/
def settleTwice : List Step :=
  startOne ++ [.begin 3 (.finalize (.settle exampleClaim (1 / 4) true)), .begin 4 (.finalize (.settle exampleClaim (1 / 4) true))] ++
    turns 3 1 ++ turns 4 1 ++ turns 3 1 ++ turns 4 1

/-- The second of two finalizations that overlap fails on the root scope, which holds nothing any more. -/
theorem overtaken_settlement_conflicts :
    ¬Throughout program.step (fun w => LedgerExact w.store ∧ NoScopeConflict w) begun settleTwice := by
  intro h
  have hconflict : ((Transition.exec program.step begun settleTwice).threads.lookup 4).map Task.conflictOn = some (some 2) := by
    decide +kernel
  obtain ⟨task, htask, hon⟩ := Option.map_eq_some_iff.1 hconflict
  have hnone := h.last.2 4 task htask
  rw [hon] at hnone
  cases hnone

end Workflow

end PromptRail
