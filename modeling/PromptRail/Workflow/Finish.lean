import PromptRail.Workflow.Ledger

/-!
# Finished workflows

Finishing checks for open reservations in one statement and writes the status of scopes in another, and a call can be reserved in
between. Every other order of the statements is harmless: once the root scope is closed no call can be reserved in the run, and a
scope that is closed takes no reservation. So a finished workflow has no open reservation exactly in the runs in which the check
would still pass when the scopes are closed.
-/

namespace PromptRail

namespace Workflow

open Table (Dict lookup_insert_eq of_lookup_insert lookup_mapRows)
open Concurrent (EveryThread)
open Transition (Throughout Along throughout_iff_along_of)

/-- A run that is not active has no open reservation, and a scope that is not active is on none. -/
structure NoOpenReservation (store : Store) : Prop where
  runs : ∀ run row, store.runs.lookup run = some row → row.status ≠ .active → openIn store run = false
  scopes : ∀ key scope, store.scopes.lookup key = some scope → scope.status ≠ .active → openOn store key = false

/-- The scope is finished, or its run is. -/
def Finished (store : Store) (key : ScopeKey) (scope : Scope) : Prop :=
  scope.status ≠ .active ∨ ∃ row, store.runs.lookup key.run = some row ∧ row.status ≠ .active

/-- The spend of what is finished is as it was. -/
def SpendKept (store store' : Store) : Prop :=
  ∀ key scope, store.scopes.lookup key = some scope → Finished store key scope →
    ∃ scope', store'.scopes.lookup key = some scope' ∧ scope'.spentUsd = scope.spentUsd

/-- A finished workflow has no open reservation, and its spend does not change any more. -/
def FinishedSettled (w : System) : Prop :=
  NoOpenReservation w.store ∧ ∀ a, SpendKept w.store (program.step w a).store

/-- When scopes are closed, the check for open reservations would still pass. -/
def ClosesNothingOpen (w : System) : Step → Prop
  | .turn t _ =>
    match w.threads.lookup t with
    | some (.writeScopeStatus run scopeId _) => openOn w.store ⟨run, scopeId⟩ = false
    | some (.writeScopeStatuses run _) => openIn w.store run = false
    | _ => True
  | _ => True

/-- The thread is about to write the status of a run. -/
def Task.closes (run : RunKey) : Task → Bool
  | .writeRunStatus run' _ => run' == run
  | _ => false

/-- The uuid of a new run is not one that a request in flight is about to finish: `uuid4` cannot be guessed. -/
def RunsUnguessed (w : System) : Step → Prop
  | .turn t input =>
    match w.threads.lookup t with
    | some (.createRun userId routeId _) =>
      EveryThread (fun task => task.closes ⟨userId, routeId, input.uuid⟩ = false) w.threads
    | _ => True
  | _ => True

instance (w : System) (a : Step) : Decidable (ClosesNothingOpen w a) := by
  unfold ClosesNothingOpen
  cases a <;> simp only <;> first | infer_instance | (split <;> infer_instance)

instance (w : System) (a : Step) : Decidable (RunsUnguessed w a) := by
  unfold RunsUnguessed
  cases a <;> simp only <;> first | infer_instance | (split <;> infer_instance)

namespace FinishAux

variable {store store' : Store}

theorem openOn_eq_false {scope : ScopeKey} : openOn store scope = false ↔
    ∀ id r, store.reservations.lookup id = some r → scope ∈ scopeKeys id.run r.scopeIds → r.status.isOpen = false := by
  unfold openOn
  rw [List.any_eq_false]
  constructor
  · intro h id r hr hb
    have := h ⟨id, r⟩ (AList.mem_lookup_iff.1 hr)
    simpa [books_iff.2 hb] using this
  · intro h e he hopen
    obtain ⟨hb, hs⟩ := Bool.and_eq_true_iff.1 hopen
    rw [h e.1 e.2 (AList.mem_lookup_iff.2 he) (books_iff.1 hb)] at hs
    cases hs

theorem openIn_eq_false {run : RunKey} : openIn store run = false ↔
    ∀ id r, store.reservations.lookup id = some r → id.run = run → r.status.isOpen = false := by
  unfold openIn
  rw [List.any_eq_false]
  constructor
  · intro h id r hr hrun
    have := h ⟨id, r⟩ (AList.mem_lookup_iff.1 hr)
    simpa [hrun] using this
  · intro h e he hopen
    obtain ⟨hb, hs⟩ := Bool.and_eq_true_iff.1 hopen
    rw [h e.1 e.2 (AList.mem_lookup_iff.2 he) (beq_iff_eq.1 hb)] at hs
    cases hs

/-- A reservation that is open after a move was open before it. -/
theorem Moves.isOpen {r r' : Reservation} (h : Moves r r') (hopen : r'.status.isOpen = true) : r.status.isOpen = true := by
  cases h with
  | stays => exact hopen
  | starts hs =>
    rw [hs]
    rfl
  | ends f hs =>
    rw [hs]
    cases f <;> rfl

/-! ## The root scope -/

/-- The root scope of a run is closed. -/
def RootClosed (store : Store) (run : RunKey) : Prop :=
  ∀ row, store.runs.lookup run = some row → ∀ scope, store.scopes.lookup ⟨run, row.rootScopeId⟩ = some scope →
    scope.status ≠ .active

/-- A root scope that is closed stays so, but for that of a new run. -/
theorem rootClosed_effect {input : Input} {task : Task} (he : Effect store input task store') (hw : WellFormed store)
    {run : RunKey} (h : RootClosed store run)
    (hold : run ∈ store.runs ∨ ∀ userId routeId body, task = .createRun userId routeId body → run ≠ ⟨userId, routeId, input.uuid⟩) :
    RootClosed store' run := by
  intro row' hrow' scope' hscope'
  rcases he.run_cases hrow' with ⟨row, hrow, hroot⟩ | ⟨hnew, ⟨userId, routeId, body, htask, hrun⟩, -⟩
  · obtain ⟨scope, hscope⟩ := hw.root run row hrow
    obtain ⟨scope'', hscope'', -, hclosed⟩ := he.evolves.scopes _ _ hscope
    rw [hroot, hscope''] at hscope'
    cases hscope'
    exact hclosed (h row hrow scope hscope)
  · rcases hold with hmem | hother
    · exact absurd hmem hnew
    · exact absurd hrun (hother userId routeId body htask)

/-- A run that is not active was not before, or is being finished. -/
theorem inactive_run {input : Input} {task : Task} (he : Effect store input task store') {run : RunKey} {row' : Run}
    (hrow' : store'.runs.lookup run = some row') (hstatus : row'.status ≠ .active) :
    (∃ row, store.runs.lookup run = some row ∧ row.status ≠ .active) ∨ ∃ body, task = .writeRunStatus run body := by
  cases he with
  | runCreated hrun _ =>
    rcases of_lookup_insert hrow' with ⟨-, rfl⟩ | ⟨-, hold⟩
    · exact absurd rfl hstatus
    · exact Or.inl ⟨row', hold, hstatus⟩
  | @runClosed run' body row hrun hactive =>
    rcases of_lookup_insert hrow' with ⟨rfl, -⟩ | ⟨-, hold⟩
    · exact Or.inr ⟨body, rfl⟩
    · exact Or.inl ⟨row', hold, hstatus⟩
  | logged =>
    rw [writeUsageLog_runs] at hrow'
    exact Or.inl ⟨row', hrow', hstatus⟩
  | _ => exact Or.inl ⟨row', hrow', hstatus⟩

/-- The roots of finished runs are closed, and so are those of the runs that are about to be finished. -/
structure RootsClosed (w : System) : Prop where
  finished : ∀ run row, w.store.runs.lookup run = some row → row.status ≠ .active → RootClosed w.store run
  closing : EveryThread (fun task => ∀ run, task.closes run = true → RootClosed w.store run) w.threads

theorem closes_nextScope (use : ChainUse) (run : RunKey) (rootScopeId : ScopeId) (current : Option ScopeId)
    (chain : ScopeChain) (run' : RunKey) : (nextScope use run rootScopeId current chain).closes run' = false := by
  cases current with
  | some current => rfl
  | none =>
    simp only [nextScope, endChain]
    split
    · split
      · rfl
      · cases use with
        | scope body =>
          simp only [useChain]
          split <;> rfl
        | call routingCallId => rfl
    · rfl

/-- A thread that is about to finish a run has just closed its scopes. -/
theorem closes_next {task : Task} {input : Input} {run : RunKey} (h : (turn store task input).2.closes run = true) :
    ∃ body, task = .writeScopeStatuses run body := by
  cases task with
  | writeScopeStatuses run' body =>
    obtain rfl := beq_iff_eq.1 h
    exact ⟨body, rfl⟩
  | readRun use run' scopeId =>
    simp only [turn, readRun] at h
    split at h
    · cases h
    · split at h
      · cases h
      · rw [closes_nextScope] at h
        cases h
  | readScope use run' rootScopeId current chain =>
    simp only [turn, readScope] at h
    split at h
    · cases h
    · split at h
      · cases h
      · split at h
        · cases h
        · rw [closes_nextScope] at h
          cases h
  | readReservation f =>
    simp only [turn, readReservation] at h
    split at h
    · cases h
    · split_ifs at h
      · cases f <;> cases h
      all_goals cases h
  | finalize f reservation =>
    simp only [turn, finalizeWorkflowReservation] at h
    split at h
    · cases h
    · split at h
      · cases h
      · split at h
        · cases f <;> cases h
        · cases h
  | _ =>
    simp only [turn, createRun, insertScope, reserveWorkflowCall, readReserved, writeStarted, checkScope, writeScopeStatus,
      checkRun, writeRunStatus] at h
    repeat' split at h
    all_goals cases h

/-- Closing the scopes of a run closes its root. -/
theorem rootClosed_closed (store : Store) (run : RunKey) (body : WorkflowFinishRequest) :
    RootClosed (writeScopeStatuses store run body).1 run := by
  intro row _ scope hscope
  simp only [writeScopeStatuses, lookup_mapRows] at hscope
  obtain ⟨scope₀, -, rfl⟩ := Option.map_eq_some_iff.1 hscope
  unfold closeScope
  split
  · exact body.status_pattern
  · rename_i hnot
    exact fun hactive => hnot ⟨rfl, hactive⟩

/-- A thread that starts, or is halted, is not about to finish a run. -/
theorem closes_start (call : Call) (run : RunKey) : (start call).closes run = false := by
  cases call with
  | createScope run' body =>
    simp only [start]
    split <;> rfl
  | finalize f =>
    cases f with
    | settle claim verifiedSpendUsd success =>
      simp only [start]
      split <;> rfl
    | cancel claim => rfl
    | fail claim => rfl
  | _ => rfl

theorem closes_crash (task : Task) (run : RunKey) : (crash task).closes run = false := by
  cases task <;> rfl

theorem rootsClosed_begun : RootsClosed begun where
  finished := fun _ _ h => nomatch h
  closing := Concurrent.everyThread_empty _

/-- A turn keeps the roots closed, if it does not create a run that is about to be finished. -/
theorem rootsClosed_turn {w : System} (h : RootsClosed w) (hs : Sound w) {t : Concurrent.ThreadId} {task : Task}
    (ht : w.threads.lookup t = some task) (input : Input) (hu : RunsUnguessed w (.turn t input)) :
    RootsClosed { store := (turn w.store task input).1, threads := w.threads.insert t (turn w.store task input).2 } := by
  have he := turn_effect w.store task input
  refine ⟨?_, ?_⟩
  · intro run row' hrow' hstatus
    rcases inactive_run he hrow' hstatus with ⟨row, hrow, hstatus⟩ | ⟨body, htask⟩
    · exact rootClosed_effect he hs.1 (h.finished run row hrow hstatus) (Or.inl (Table.mem_iff_lookup.2 ⟨row, hrow⟩))
    · refine rootClosed_effect he hs.1 (h.closing t _ ht run ?_) (Or.inr ?_)
      · rw [htask]
        exact beq_iff_eq.2 rfl
      · intro userId routeId body' hcreate
        rw [htask] at hcreate
        cases hcreate
  · have hothers : EveryThread (fun task' => ∀ run, task'.closes run = true → RootClosed (turn w.store task input).1 run)
        w.threads := by
      intro t' task' ht' run hcloses
      refine rootClosed_effect he hs.1 (h.closing t' task' ht' run hcloses) (Or.inr ?_)
      rintro userId routeId body rfl rfl
      simp only [RunsUnguessed, ht] at hu
      rw [hu t' task' ht'] at hcloses
      cases hcloses
    refine hothers.insert ?_ t
    intro run hcloses
    obtain ⟨body, rfl⟩ := closes_next hcloses
    exact rootClosed_closed w.store run body

theorem rootsClosed_step {w : System} (h : RootsClosed w) (hs : Sound w) (a : Step) (hu : RunsUnguessed w a) :
    RootsClosed (program.step w a) := by
  have hquiet : ∀ t (next : Task), (∀ run, next.closes run = false) →
      RootsClosed { w with threads := w.threads.insert t next } := by
    intro t next hnext
    refine ⟨h.finished, h.closing.insert ?_ t⟩
    intro run hcloses
    rw [hnext run] at hcloses
    cases hcloses
  rcases program.step_cases w a with ⟨-, hstep⟩ | ⟨t, call, rfl, -, hstep⟩ | ⟨t, input, task, rfl, ht, hstep⟩ |
    ⟨t, task, rfl, -, hstep⟩ | ⟨event, -, -⟩
  · rw [hstep]
    exact h
  · rw [hstep]
    exact hquiet t _ (closes_start call)
  · rw [hstep]
    exact rootsClosed_turn h hs ht input hu
  · rw [hstep]
    exact hquiet t _ (closes_crash task)
  · exact event.elim

/-! ## One step -/

/-- A scope that is not active was not before, or is being closed. -/
theorem inactive_scope {input : Input} {task : Task} (he : Effect store input task store') {key : ScopeKey} {scope' : Scope}
    (hscope' : store'.scopes.lookup key = some scope') (hstatus : scope'.status ≠ .active) :
    (∃ scope, store.scopes.lookup key = some scope ∧ scope.status ≠ .active) ∨
      (∃ run scopeId body, task = .writeScopeStatus run scopeId body) ∨ ∃ run body, task = .writeScopeStatuses run body := by
  have hupdated : ∀ {keys : List ScopeKey} {update : Scope → Scope} {scopes : Dict ScopeKey Scope},
      (∀ k, scopes.lookup k = if k ∈ keys then (store.scopes.lookup k).map update else store.scopes.lookup k) →
      (∀ scope, (update scope).status = scope.status) → scopes.lookup key = some scope' →
      ∃ scope, store.scopes.lookup key = some scope ∧ scope.status ≠ .active := by
    intro keys update scopes hscopes hsame h
    rw [hscopes] at h
    split at h
    · obtain ⟨scope, hscope, rfl⟩ := Option.map_eq_some_iff.1 h
      exact ⟨scope, hscope, hsame scope ▸ hstatus⟩
    · exact ⟨scope', h, hstatus⟩
  cases he with
  | runCreated _ hnew =>
    rcases of_lookup_insert hscope' with ⟨-, rfl⟩ | ⟨-, hold⟩
    · exact absurd rfl hstatus
    · exact Or.inl ⟨scope', hold, hstatus⟩
  | scopeCreated hnew =>
    rcases of_lookup_insert hscope' with ⟨-, rfl⟩ | ⟨-, hold⟩
    · exact absurd rfl hstatus
    · exact Or.inl ⟨scope', hold, hstatus⟩
  | reserved _ _ _ hscopes _ => exact Or.inl (hupdated hscopes (fun _ => rfl) hscope')
  | finalized _ hscopes _ _ => exact Or.inl (hupdated hscopes (fun _ => rfl) hscope')
  | logged =>
    rw [writeUsageLog_scopes] at hscope'
    exact Or.inl ⟨scope', hscope', hstatus⟩
  | scopeClosed _ _ => exact Or.inr (Or.inl ⟨_, _, _, rfl⟩)
  | scopesClosed => exact Or.inr (Or.inr ⟨_, _, rfl⟩)
  | _ => exact Or.inl ⟨scope', hscope', hstatus⟩

/-- A reservation that is open was open before, or is new, on scopes that are all active. -/
theorem open_cases {input : Input} {task : Task} (he : Effect store input task store') {id : ReservationKey} {r : Reservation}
    (hr : store'.reservations.lookup id = some r) (hopen : r.status.isOpen = true) :
    (∃ r₀, store.reservations.lookup id = some r₀ ∧ r₀.scopeIds = r.scopeIds ∧ r₀.status.isOpen = true) ∨
      ((∃ chain hne routingCallId, task = .reserve id.run chain hne routingCallId ∧ r.scopeIds = chain.rows.map (·.1)) ∧
        ∀ scope ∈ scopeKeys id.run r.scopeIds, ∃ s, store.scopes.lookup scope = some s ∧ s.status = .active) := by
  rcases he.reservation_cases hr with ⟨r₀, hr₀, hm⟩ | ⟨run, chain, hne, call, authorization, htask, -, hid, hres, hfunds⟩
  · exact Or.inl ⟨r₀, hr₀, hm.scopeIds.symm, Moves.isOpen hm hopen⟩
  · subst hid
    refine Or.inr ⟨⟨chain, hne, call, htask, by rw [hres]; rfl⟩, ?_⟩
    intro scope hscope
    obtain ⟨s, hs, hf⟩ := hfunds scope hscope
    simp only [funds, Bool.and_eq_true, beq_iff_eq] at hf
    exact ⟨s, hs, hf.1⟩

/-- A reservation in a run whose root is closed is not open, if the scopes that are closed have none. -/
theorem not_open_of_rootClosed (hw : WellFormed store) (h : NoOpenReservation store) {id : ReservationKey} {r : Reservation}
    (hr : store.reservations.lookup id = some r) (hroot : RootClosed store id.run) : r.status.isOpen = false := by
  obtain ⟨row, hrow, hmem⟩ := hw.rooted id r hr
  obtain ⟨scope, hscope⟩ := hw.root id.run row hrow
  have hclosed := h.scopes _ scope hscope (hroot row hrow scope hscope)
  exact openOn_eq_false.1 hclosed id r hr (mem_scopeKeys.2 ⟨rfl, hmem⟩)

/-- A turn that closes no scope leaves nothing finished with an open reservation. -/
theorem noOpen_turn {input : Input} {task : Task} (he : Effect store input task store') (hw : WellFormed store)
    (ha : Assured store task) (hfinished : ∀ run row, store.runs.lookup run = some row → row.status ≠ .active →
      RootClosed store run) (hclosing : ∀ run, task.closes run = true → RootClosed store run) (h : NoOpenReservation store)
    (hscope : ∀ run scopeId body, task ≠ .writeScopeStatus run scopeId body)
    (hscopes : ∀ run body, task ≠ .writeScopeStatuses run body) : NoOpenReservation store' := by
  refine ⟨?_, ?_⟩
  · intro run row' hrow' hstatus
    rw [openIn_eq_false]
    rintro id r hr rfl
    by_contra hopen
    rw [Bool.not_eq_false] at hopen
    have hroot : RootClosed store id.run := by
      rcases inactive_run he hrow' hstatus with ⟨row, hrow, hstatus⟩ | ⟨body, htask⟩
      · exact hfinished id.run row hrow hstatus
      · exact hclosing id.run (by rw [htask]; exact beq_iff_eq.2 rfl)
    rcases open_cases he hr hopen with ⟨r₀, hr₀, -, hopen₀⟩ | ⟨⟨chain, hne, call, rfl, hids⟩, hactive⟩
    · rw [not_open_of_rootClosed hw h hr₀ hroot] at hopen₀
      cases hopen₀
    · -- the chain was read from the root, which is not active any more
      obtain ⟨row, hrow, hhead⟩ := ha
      have hmem : ⟨id.run, row.rootScopeId⟩ ∈ scopeKeys id.run r.scopeIds := by
        rw [mem_scopeKeys, hids, hhead]
        exact ⟨rfl, List.mem_map.2 ⟨_, List.head_mem hne, rfl⟩⟩
      obtain ⟨scope, hlookup, hactive⟩ := hactive _ hmem
      exact hroot row hrow scope hlookup hactive
  · intro key scope' hscope' hstatus
    rw [openOn_eq_false]
    intro id r hr hmem
    by_contra hopen
    rw [Bool.not_eq_false] at hopen
    rcases inactive_scope he hscope' hstatus with ⟨scope, hlookup, hstatus⟩ | ⟨run, scopeId, body, htask⟩ | ⟨run, body, htask⟩
    · rcases open_cases he hr hopen with ⟨r₀, hr₀, hids, hopen₀⟩ | ⟨-, hactive⟩
      · have hclosed := openOn_eq_false.1 (h.scopes key scope hlookup hstatus) id r₀ hr₀ (hids.symm ▸ hmem)
        rw [hclosed] at hopen₀
        cases hopen₀
      · obtain ⟨s, hs, hactive⟩ := hactive key hmem
        rw [hlookup] at hs
        cases hs
        exact hstatus hactive
    · exact hscope run scopeId body htask
    · exact hscopes run body htask

/-- Closing one scope leaves nothing finished with an open reservation exactly if none is on the scope. -/
theorem noOpen_scopeStatus (hw : WellFormed store) (h : NoOpenReservation store) (run : RunKey) (scopeId : ScopeId)
    (body : WorkflowFinishRequest) :
    NoOpenReservation (writeScopeStatus store run scopeId body).1 ↔ openOn store ⟨run, scopeId⟩ = false := by
  unfold writeScopeStatus
  split
  · rename_i hnone
    refine ⟨fun _ => ?_, fun _ => h⟩
    rw [openOn_eq_false]
    intro id r hr hmem
    obtain ⟨scope, hscope⟩ := hw.booked id r hr _ hmem
    rw [hnone] at hscope
    cases hscope
  · rename_i scope hscope
    split
    · constructor
      · intro h'
        exact h'.scopes ⟨run, scopeId⟩ { scope with status := body.status } (by rw [lookup_insert_eq, if_pos rfl])
          body.status_pattern
      · intro hopen
        refine ⟨h.runs, ?_⟩
        intro key scope' hscope' hstatus
        rcases of_lookup_insert hscope' with ⟨rfl, -⟩ | ⟨-, hold⟩
        · exact hopen
        · exact h.scopes key scope' hold hstatus
    · rename_i hinactive
      exact ⟨fun _ => h.scopes _ scope hscope hinactive, fun _ => h⟩

/-- Closing the scopes of a run leaves nothing finished with an open reservation exactly if none is in the run. -/
theorem noOpen_scopeStatuses (hw : WellFormed store) (h : NoOpenReservation store) (run : RunKey) (body : WorkflowFinishRequest) :
    NoOpenReservation (writeScopeStatuses store run body).1 ↔ openIn store run = false := by
  constructor
  · intro h'
    rw [openIn_eq_false]
    rintro id r hr rfl
    obtain ⟨row, hrow, hmem⟩ := hw.rooted id r hr
    obtain ⟨scope, hscope⟩ := hw.root id.run row hrow
    have hlookup : (writeScopeStatuses store id.run body).1.scopes.lookup ⟨id.run, row.rootScopeId⟩ =
        some (closeScope id.run body.status ⟨id.run, row.rootScopeId⟩ scope) := by
      simp only [writeScopeStatuses, lookup_mapRows, hscope, Option.map_some]
    have hclosed := h'.scopes _ _ hlookup (rootClosed_closed store id.run body row hrow _ hlookup)
    exact openOn_eq_false.1 hclosed id r hr (mem_scopeKeys.2 ⟨rfl, hmem⟩)
  · intro hopen
    refine ⟨h.runs, ?_⟩
    intro key scope' hscope' hstatus
    simp only [writeScopeStatuses, lookup_mapRows] at hscope'
    obtain ⟨scope, hscope, rfl⟩ := Option.map_eq_some_iff.1 hscope'
    unfold closeScope at hstatus
    split at hstatus
    · rename_i hclosed
      show openOn store key = false
      rw [openOn_eq_false]
      intro id r hr hmem
      exact openIn_eq_false.1 hopen id r hr ((mem_scopeKeys.1 hmem).1.symm.trans hclosed.1)
    · exact h.scopes key scope hscope hstatus

/-- What a scope has spent only changes while an open reservation is on it. -/
theorem spent_effect {input : Input} {task : Task} (he : Effect store input task store') (ha : Assured store task)
    {key : ScopeKey} {scope : Scope} (hscope : store.scopes.lookup key = some scope) (hclosed : openOn store key = false) :
    ∃ scope', store'.scopes.lookup key = some scope' ∧ scope'.spentUsd = scope.spentUsd := by
  obtain ⟨scope', hscope', -⟩ := he.evolves.scopes key scope hscope
  refine ⟨scope', hscope', ?_⟩
  rcases he.spent_cases hscope hscope' with hspent | ⟨f, reservation, stored, rfl, hmem, hstored, hstatus⟩
  · exact hspent
  · obtain ⟨⟨stored', hstored', hids, -⟩, -⟩ := ha
    rw [hstored] at hstored'
    cases hstored'
    rw [← hids] at hmem
    have hopen := openOn_eq_false.1 hclosed f.claim.key stored hstored hmem
    rw [hstatus] at hopen
    cases f <;> cases hopen

/-- No open reservation is on what is finished. -/
theorem openOn_finished (h : NoOpenReservation store) {key : ScopeKey} {scope : Scope}
    (hscope : store.scopes.lookup key = some scope) (hf : Finished store key scope) : openOn store key = false := by
  rcases hf with hstatus | ⟨row, hrow, hstatus⟩
  · exact h.scopes key scope hscope hstatus
  · rw [openOn_eq_false]
    intro id r hr hmem
    exact openIn_eq_false.1 (h.runs key.run row hrow hstatus) id r hr (mem_scopeKeys.1 hmem).1.symm

/-- The spend of what is finished stays, whatever happens next. -/
theorem spendKept_step {w : System} (hs : Sound w) (h : NoOpenReservation w.store) (a : Step) :
    SpendKept w.store (program.step w a).store := by
  intro key scope hscope hf
  rcases store_step w a with ⟨-, hstore⟩ | ⟨t, input, task, -, ht, hstore⟩
  · rw [hstore]
    exact ⟨scope, hscope, rfl⟩
  · rw [hstore]
    exact spent_effect (turn_effect w.store task input) (hs.2 t task ht) hscope (openOn_finished h hscope hf)

/-- A step leaves nothing finished with an open reservation exactly if the check would still pass when it closes scopes. -/
theorem noOpen_step {w : System} (hs : Sound w) (hr : RootsClosed w) (h : NoOpenReservation w.store) (a : Step) :
    NoOpenReservation (program.step w a).store ↔ ClosesNothingOpen w a := by
  rcases store_step w a with ⟨hno, hstore⟩ | ⟨t, input, task, rfl, ht, hstore⟩
  · rw [hstore]
    refine ⟨fun _ => ?_, fun _ => h⟩
    cases a with
    | turn t input => simp only [ClosesNothingOpen, hno t input rfl]
    | _ => trivial
  · rw [hstore]
    simp only [ClosesNothingOpen, ht]
    cases task with
    | writeScopeStatus run scopeId body => exact noOpen_scopeStatus hs.1 h run scopeId body
    | writeScopeStatuses run body => exact noOpen_scopeStatuses hs.1 h run body
    | _ =>
      refine ⟨fun _ => trivial, fun _ => ?_⟩
      exact noOpen_turn (turn_effect w.store _ input) hs.1 (hs.2 t _ ht) hr.finished (hr.closing t _ ht) h
        (fun _ _ _ hne => nomatch hne) fun _ _ hne => nomatch hne

end FinishAux

open FinishAux

/-- A finished workflow has no open reservation, and its spend does not change any more, in every state of a run exactly if the
check for open reservations would still pass whenever scopes are closed. -/
theorem finished_settled_iff (steps : List Step) (hu : Along program.step RunsUnguessed begun steps) :
    Throughout program.step FinishedSettled begun steps ↔ Along program.step ClosesNothingOpen begun steps := by
  have hbegun : NoOpenReservation begun.store := ⟨fun _ _ h => (nomatch h), fun _ _ h => (nomatch h)⟩
  refine throughout_iff_along_of (I := fun w => Sound w ∧ RootsClosed w) ?_ ?_ ⟨sound_begun, rootsClosed_begun⟩
    ⟨hbegun, spendKept_step sound_begun hbegun⟩ hu
  · rintro w a ⟨hs, hr⟩ hfair
    exact ⟨sound_step w a hs, rootsClosed_step hr hs a hfair⟩
  · rintro w a ⟨hs, hr⟩ ⟨h, -⟩
    rw [← noOpen_step hs hr h a]
    exact ⟨fun h' => h'.1, fun h' => ⟨h', spendKept_step (sound_step w a hs) h'⟩⟩

/-- A request that finishes the run of the example. -/
def finishExample : Call := .finishRun exampleRun ⟨.completed, by decide⟩

/-- A call has read its scopes when the run is about to be finished, and is reserved after the check. -/
def finishDuringReserve : List Step :=
  [.begin 0 (.createRun "user" "default" ⟨1, oneDollar_pos⟩), .turn 0 (exampleInput 1 2), .begin 1 (.route exampleRun (some 2) "call")] ++
    turns 1 2 ++ (.begin 2 finishExample :: turns 2 1) ++ turns 1 1 ++ turns 2 1

/-- The check passes, the call is reserved, and the root scope is closed under it. -/
theorem finish_closes_open_reservation : ¬Throughout program.step FinishedSettled begun finishDuringReserve := by
  intro h
  have hclosed : ((Transition.exec program.step begun finishDuringReserve).store.scopes.lookup ⟨exampleRun, 2⟩).map
      (fun scope => decide (scope.status = .active)) = some false := by decide +kernel
  obtain ⟨scope, hscope, hstatus⟩ := Option.map_eq_some_iff.1 hclosed
  have hnone := h.last.1.scopes _ scope hscope (of_decide_eq_false hstatus)
  exact absurd hnone (by decide +kernel)

/-- The run is finished after its one call was settled. -/
def finishAfterSettle : List Step :=
  startOne ++ (.begin 3 (.finalize (.settle exampleClaim (1 / 4) true)) :: turns 3 3) ++ (.begin 4 finishExample :: turns 4 3)

theorem finished_settled_after_settle : Throughout program.step FinishedSettled begun finishAfterSettle :=
  (finished_settled_iff finishAfterSettle (by decide +kernel)).2 (by decide +kernel)

end Workflow

end PromptRail
