import PromptRail.Runtime

/-!
# The lifecycle of a run

A scope that owns the lifecycle of its run reports the start of it when it is entered and the end when it is left. Ownership is read off
the scope around it alone: a scope that finds another run there owns its own, although that run may be open further out or in another task.
What the client remembers of the runs then ends the run too early, and may forget that it has ended at all. The reports follow the scopes
as long as no scope that owns a run is left while another scope of the run is open.
-/

namespace PromptRail

namespace Runtime

open PyText (Text)
open Table (Dict total)
open Transition

/-! ## What was reported -/

def PromptRailEvent.starts (event : PromptRailEvent) (runId : RunId) : Prop := event.type = runStartType ∧ event.runId = runId

def PromptRailEvent.ends (event : PromptRailEvent) (runId : RunId) : Prop := event.type = runEndType ∧ event.runId = runId

/-- The events that were emitted, the latest first, each with the number of scopes of its run that were open then. -/
abbrev Log := List (PromptRailEvent × Nat)

/-- The number of scopes of a run that are open. -/
def openScopes (scopes : Dict ScopeId OpenScope) (runId : RunId) : Nat :=
  total (fun _ entry => if entry.scope.context.runId = some runId then 1 else 0) scopes

/-- A run has started since it was last reported to end. -/
def StartedSince (log : Log) (runId : RunId) : Prop :=
  ∀ newer event older, log = newer ++ event :: older → event.1.ends runId → ∃ e ∈ newer, e.1.starts runId

/-- The end of a run is reported when no scope of it is open, and not twice without a start between. -/
structure FollowsScopes (log : Log) : Prop where
  closed : ∀ event ∈ log, event.1.type = runEndType → event.2 = 0
  alternates : ∀ newer event older, log = newer ++ event :: older → event.1.type = runEndType → StartedSince older event.1.runId

def scopeStep (w : World) (a : ScopeStep) : World := (w.scopeTurn a).1

/-- What the log sees of a step. -/
def observeScopes (log : Log) (w : World) (a : ScopeStep) (w' : World) : Log :=
  ((w.scopeTurn a).2.map fun event => (event, openScopes w'.scopes event.runId)) ++ log

/-- A scope that owns the lifecycle of its run is left when no other scope of the run is open. -/
def LeavesLast (w : World) : ScopeStep → Prop
  | .exit id _ _ => ∀ entry, w.scopes.lookup id = some entry → entry.scope.ownsLifecycle = true →
      ∀ runId, entry.scope.context.runId = some runId → openScopes w.scopes runId = 1
  | .enter _ _ _ _ _ | .spawn _ _ => True

namespace LifecycleAux

variable {w : World} {log : Log}

/-! ## The client -/

theorem startedRuns_enrich (client : Client) (runId : RunId) (context : RuntimeContext) :
    (client.enrich runId context).startedRuns = client.startedRuns ∧ (client.enrich runId context).endedRuns = client.endedRuns := by
  unfold Client.enrich
  split <;> exact ⟨rfl, rfl⟩

theorem startedRuns_reopen (client : Client) (runId : RunId) : (client.reopen runId).startedRuns = client.startedRuns := by
  unfold Client.reopen
  split <;> rfl

theorem endedRuns_reopen (client : Client) (runId : RunId) : (client.reopen runId).endedRuns = client.endedRuns.erase runId := by
  unfold Client.reopen
  split
  · rfl
  · rename_i h
    exact (Finset.erase_eq_of_notMem h).symm

theorem endedRuns_forgetOldest (client : Client) : client.forgetOldest.endedRuns ⊆ client.endedRuns := by
  unfold Client.forgetOldest
  split
  · exact Finset.Subset.refl _
  · split
    · exact Finset.erase_subset _ _
    · exact Finset.Subset.refl _

/-- A run that starts is started and not ended, and its start is reported unless it was started. -/
structure Started (client client' : Client) (runId : RunId) (events : List PromptRailEvent) : Prop where
  startedRuns : client'.startedRuns = insert runId client.startedRuns
  endedRuns : client'.endedRuns = client.endedRuns.erase runId
  events : runId ∈ client.startedRuns ∧ events = [] ∨ ∃ event : PromptRailEvent, event.starts runId ∧ events = [event]

theorem started_observeRunStart (client : Client) (observed : RuntimeContext) {context : RuntimeContext} {runId : RunId}
    (h : context.runId = some runId) :
    Started client (client.observeRunStart observed context).1 runId (client.observeRunStart observed context).2 := by
  unfold Client.observeRunStart
  simp only [h]
  split
  · rename_i hmem
    obtain ⟨hstarted, hended⟩ := startedRuns_enrich (client.reopen runId) runId (withObserved context observed)
    refine ⟨?_, ?_, Or.inl ⟨hmem, rfl⟩⟩
    · rw [hstarted, startedRuns_reopen, Finset.insert_eq_of_mem hmem]
    · rw [hended, endedRuns_reopen]
  · exact ⟨rfl, endedRuns_reopen client runId, Or.inr ⟨_, ⟨rfl, rfl⟩, rfl⟩⟩

/-- A run that ends is no longer started, and its end is reported unless it had ended. -/
structure Ended (client client' : Client) (runId : RunId) (events : List PromptRailEvent) : Prop where
  startedRuns : client'.startedRuns = client.startedRuns.erase runId
  endedRuns : client'.endedRuns ⊆ insert runId client.endedRuns
  events : ∃ event : PromptRailEvent, event.ends runId ∧ events = [event]

theorem ended_observeRunEnd {client : Client} (observed : RuntimeContext) {context : RuntimeContext} {runId : RunId} (error : Bool)
    (h : context.runId = some runId) (hopen : runId ∉ client.endedRuns) :
    Ended client (client.observeRunEnd observed context error).1 runId (client.observeRunEnd observed context error).2 := by
  unfold Client.observeRunEnd
  simp only [h, if_neg hopen]
  exact ⟨rfl, Finset.insert_subset_insert _ (endedRuns_forgetOldest client), _, ⟨rfl, rfl⟩, rfl⟩

/-! ## The log -/

theorem startedSince_nil (runId : RunId) : StartedSince [] runId := by
  intro newer event older h
  cases newer <;> nomatch h

theorem startedSince_start {event : PromptRailEvent × Nat} {runId : RunId} (h : event.1.starts runId) :
    StartedSince (event :: log) runId := by
  intro newer e older heq hends
  cases newer with
  | nil =>
    obtain ⟨rfl, -⟩ := List.cons.inj heq
    exact absurd (h.1.symm.trans hends.1) (by decide)
  | cons e' newer =>
    obtain ⟨rfl, -⟩ := List.cons.inj heq
    exact ⟨event, List.mem_cons_self, h⟩

theorem startedSince_other {event : PromptRailEvent × Nat} {runId : RunId} (h : ¬event.1.ends runId) (hlog : StartedSince log runId) :
    StartedSince (event :: log) runId := by
  intro newer e older heq hends
  cases newer with
  | nil =>
    obtain ⟨rfl, -⟩ := List.cons.inj heq
    exact absurd hends h
  | cons e' newer =>
    obtain ⟨rfl, hrest⟩ := List.cons.inj heq
    obtain ⟨s, hs, hstarts⟩ := hlog newer e older hrest hends
    exact ⟨s, List.mem_cons_of_mem _ hs, hstarts⟩

theorem followsScopes_nil : FollowsScopes [] where
  closed _ h := nomatch h
  alternates newer event older h := by cases newer <;> nomatch h

/-- A report follows the scopes if the reports before it do, and the end of a run is not reported early and not twice. -/
theorem followsScopes_cons {event : PromptRailEvent × Nat} : FollowsScopes (event :: log) ↔
    FollowsScopes log ∧ (event.1.type = runEndType → event.2 = 0 ∧ StartedSince log event.1.runId) := by
  constructor
  · intro h
    refine ⟨⟨fun e he => h.closed e (List.mem_cons_of_mem _ he), fun newer e older heq => ?_⟩, fun hend => ?_⟩
    · exact h.alternates (event :: newer) e older (by rw [heq, List.cons_append])
    · exact ⟨h.closed event List.mem_cons_self hend, h.alternates [] event log rfl hend⟩
  · rintro ⟨hlog, hevent⟩
    refine ⟨List.forall_mem_cons.2 ⟨fun hend => (hevent hend).1, hlog.closed⟩, ?_⟩
    intro newer e older heq hend
    cases newer with
    | nil =>
      obtain ⟨rfl, rfl⟩ := List.cons.inj heq
      exact (hevent hend).2
    | cons e' newer => exact hlog.alternates newer e older (List.cons.inj heq).2 hend

/-! ## The scopes -/

theorem openScopes_pos {scopes : Dict ScopeId OpenScope} {id : ScopeId} {entry : OpenScope} {runId : RunId}
    (h : scopes.lookup id = some entry) (hrun : entry.scope.context.runId = some runId) : 0 < openScopes scopes runId := by
  have hrow := Table.total_erase (fun _ entry => if entry.scope.context.runId = some runId then 1 else 0) h
  rw [if_pos hrun] at hrow
  unfold openScopes
  omega

theorem openScopes_erase {scopes : Dict ScopeId OpenScope} {id : ScopeId} {entry : OpenScope} {runId : RunId}
    (h : scopes.lookup id = some entry) (hrun : entry.scope.context.runId = some runId) :
    openScopes scopes runId = 1 + openScopes (scopes.erase id) runId := by
  have hrow := Table.total_erase (fun _ entry => if entry.scope.context.runId = some runId then 1 else 0) h
  rwa [if_pos hrun] at hrow

/-- Every scope has a run, and the run of a scope that owns it is started and not ended; a run that is started was not reported to end
since. -/
structure Tracks (w : World) (log : Log) : Prop where
  named : ∀ id entry, w.scopes.lookup id = some entry → entry.scope.context.runId.isSome = true
  started : ∀ id entry, w.scopes.lookup id = some entry → entry.scope.ownsLifecycle = true →
    ∀ runId, entry.scope.context.runId = some runId → runId ∈ w.client.startedRuns ∧ runId ∉ w.client.endedRuns
  since : ∀ runId ∈ w.client.startedRuns, StartedSince log runId

theorem tracks_empty : Tracks {} [] where
  named _ _ h := nomatch h
  started _ _ h := nomatch h
  since runId _ := startedSince_nil runId

/-- Only the scopes and the client count. -/
theorem Tracks.congr {w' : World} (h : Tracks w log) (hscopes : w'.scopes = w.scopes) (hclient : w'.client = w.client) : Tracks w' log where
  named id entry hid := h.named id entry (by rwa [hscopes] at hid)
  started id entry hid := by
    rw [hclient]
    exact h.started id entry (by rwa [hscopes] at hid)
  since := by
    rw [hclient]
    exact h.since

theorem runId_make (existing : Option RuntimeContext) (users : Users) (snapshot : TraceSnapshot) (arguments : RunArguments) (made : RunId) :
    ∃ runId, (RunContext.make existing users snapshot arguments made).context.runId = some runId := ⟨_, rfl⟩

theorem tracks_enter (h : Tracks w log) (hfollows : FollowsScopes log) (task : TaskId) (id : ScopeId) (arguments : RunArguments)
    (users : Users) (made : RunId) :
    Tracks (scopeStep w (.enter task id arguments users made))
        (observeScopes log w (.enter task id arguments users made) (scopeStep w (.enter task id arguments users made))) ∧
      FollowsScopes (observeScopes log w (.enter task id arguments users made) (scopeStep w (.enter task id arguments users made))) := by
  simp only [scopeStep, observeScopes, World.scopeTurn, World.enter]
  generalize hscope : RunContext.make (w.contexts.lookup task) users (w.snapshot task) arguments made = scope
  obtain ⟨runId, hrun⟩ := runId_make (w.contexts.lookup task) users (w.snapshot task) arguments made
  rw [hscope] at hrun
  have hnamed : ∀ id' entry, (w.scopes.insert id ⟨task, scope, w.contexts.lookup task⟩).lookup id' = some entry →
      entry.scope.context.runId.isSome = true := by
    intro id' entry hid
    rw [Table.lookup_insert_eq] at hid
    split at hid
    · obtain rfl := Option.some.inj hid
      rw [hrun]
      rfl
    · exact h.named id' entry hid
  cases howns : scope.ownsLifecycle with
  | false =>
    simp only [Bool.false_eq_true, if_false, List.map_nil, List.nil_append]
    refine ⟨⟨hnamed, ?_, h.since⟩, hfollows⟩
    intro id' entry hid howner
    rw [Table.lookup_insert_eq] at hid
    split at hid
    · obtain rfl := Option.some.inj hid
      rw [howns] at howner
      nomatch howner
    · exact h.started id' entry hid howner
  | true =>
    simp only [if_true, World.observeRunStart]
    have hstart := started_observeRunStart w.client
      (World.currentContext { w with
        contexts := w.contexts.insert task scope.context
        scopes := w.scopes.insert id ⟨task, scope, w.contexts.lookup task⟩ } task users) hrun
    refine ⟨⟨hnamed, ?_, ?_⟩, ?_⟩
    · intro id' entry hid howner r hr
      dsimp only
      rw [hstart.startedRuns, hstart.endedRuns, Finset.mem_insert, Finset.mem_erase]
      rw [Table.lookup_insert_eq] at hid
      split at hid
      · obtain rfl := Option.some.inj hid
        obtain rfl := Option.some.inj (hrun.symm.trans hr)
        exact ⟨Or.inl rfl, fun hne => hne.1 rfl⟩
      · obtain ⟨hstarted, hended⟩ := h.started id' entry hid howner r hr
        exact ⟨Or.inr hstarted, fun hmem => hended hmem.2⟩
    · intro r hr
      dsimp only at hr
      rw [hstart.startedRuns] at hr
      rcases hstart.events with ⟨hmem, hevents⟩ | ⟨event, hevent, hevents⟩
      · rw [hevents]
        exact h.since r (by rwa [Finset.insert_eq_of_mem hmem] at hr)
      · rw [hevents]
        rcases Finset.mem_insert.1 hr with rfl | hr
        · exact startedSince_start hevent
        · exact startedSince_other (fun hends => absurd (hevent.1.symm.trans hends.1) (by decide)) (h.since r hr)
    · rcases hstart.events with ⟨-, hevents⟩ | ⟨event, hevent, hevents⟩
      · rw [hevents]
        exact hfollows
      · rw [hevents]
        exact followsScopes_cons.2 ⟨hfollows, fun hend => absurd (hevent.1.symm.trans hend) (by decide)⟩

theorem tracks_spawn (h : Tracks w log) (hfollows : FollowsScopes log) (parent child : TaskId) :
    Tracks (scopeStep w (.spawn parent child))
        (observeScopes log w (.spawn parent child) (scopeStep w (.spawn parent child))) ∧
      FollowsScopes (observeScopes log w (.spawn parent child) (scopeStep w (.spawn parent child))) := by
  refine ⟨h.congr ?_ ?_, hfollows⟩ <;>
  · simp only [scopeStep, World.scopeTurn, World.setContext]
    cases w.contexts.lookup parent <;> cases w.current.lookup parent <;> rfl

theorem setContext_scopes (w : World) (task : TaskId) (value : Option RuntimeContext) :
    (w.setContext task value).scopes = w.scopes ∧ (w.setContext task value).client = w.client := by
  cases value <;> exact ⟨rfl, rfl⟩

/-- What becomes of the scopes, the client and the log when a scope is left that does not own its run. -/
theorem exit_guest {id : ScopeId} {entry : OpenScope} (hid : w.scopes.lookup id = some entry) (howns : entry.scope.ownsLifecycle = false)
    (error : Bool) (users : Users) :
    (scopeStep w (.exit id error users)).scopes = w.scopes.erase id ∧ (scopeStep w (.exit id error users)).client = w.client ∧
      (w.scopeTurn (.exit id error users)).2 = [] := by
  simp only [scopeStep, World.scopeTurn, World.exit, hid, howns, Bool.false_eq_true, if_false]
  exact ⟨(setContext_scopes _ _ _).1, (setContext_scopes _ _ _).2, trivial⟩

/-- The same, when a scope is left that owns its run, which has not ended. -/
theorem exit_owner {id : ScopeId} {entry : OpenScope} (hid : w.scopes.lookup id = some entry) (howns : entry.scope.ownsLifecycle = true)
    {runId : RunId} (hrun : entry.scope.context.runId = some runId) (hopen : runId ∉ w.client.endedRuns) (error : Bool) (users : Users) :
    (scopeStep w (.exit id error users)).scopes = w.scopes.erase id ∧
      Ended w.client (scopeStep w (.exit id error users)).client runId (w.scopeTurn (.exit id error users)).2 := by
  simp only [scopeStep, World.scopeTurn, World.exit, hid, howns, if_true, World.observeRunEnd]
  refine ⟨(setContext_scopes _ _ _).1, ?_⟩
  rw [(setContext_scopes _ _ _).2]
  exact ended_observeRunEnd _ error hrun hopen

theorem lookup_of_erase {id id' : ScopeId} {entry : OpenScope} (h : (w.scopes.erase id).lookup id' = some entry) :
    id' ≠ id ∧ w.scopes.lookup id' = some entry := by
  rw [Table.lookup_erase_eq] at h
  split at h
  · nomatch h
  · rename_i hne
    exact ⟨hne, h⟩

theorem tracks_exit (h : Tracks w log) (hfollows : FollowsScopes log) (id : ScopeId) (error : Bool) (users : Users)
    (hlast : LeavesLast w (.exit id error users)) :
    Tracks (scopeStep w (.exit id error users))
        (observeScopes log w (.exit id error users) (scopeStep w (.exit id error users))) ∧
      FollowsScopes (observeScopes log w (.exit id error users) (scopeStep w (.exit id error users))) := by
  cases hid : w.scopes.lookup id with
  | none =>
    have hsame : w.scopeTurn (.exit id error users) = (w, []) := by simp only [World.scopeTurn, World.exit, hid]
    simp only [scopeStep, observeScopes, hsame]
    exact ⟨h, hfollows⟩
  | some entry =>
    cases howns : entry.scope.ownsLifecycle with
    | false =>
      obtain ⟨hscopes, hclient, hevents⟩ := exit_guest hid howns error users
      simp only [observeScopes, hevents, List.map_nil, List.nil_append]
      refine ⟨⟨fun id' e he => ?_, fun id' e he => ?_, by rw [hclient]; exact h.since⟩, hfollows⟩
      · rw [hscopes] at he
        exact h.named id' e (lookup_of_erase he).2
      · rw [hscopes] at he
        rw [hclient]
        exact h.started id' e (lookup_of_erase he).2
    | true =>
      obtain ⟨runId, hrun⟩ := Option.isSome_iff_exists.1 (h.named id entry hid)
      obtain ⟨hstarted, hopen⟩ := h.started id entry hid howns runId hrun
      obtain ⟨hscopes, hended⟩ := exit_owner hid howns hrun hopen error users
      have hnone : openScopes (w.scopes.erase id) runId = 0 := by
        have hcount := openScopes_erase hid hrun
        rw [hlast entry hid howns runId hrun] at hcount
        omega
      obtain ⟨event, hevent, hevents⟩ := hended.events
      simp only [observeScopes, hevents, List.map_cons, List.map_nil, List.singleton_append]
      refine ⟨⟨fun id' e he => ?_, fun id' e he howner r hr => ?_, fun r hr => ?_⟩, ?_⟩
      · rw [hscopes] at he
        exact h.named id' e (lookup_of_erase he).2
      · rw [hscopes] at he
        -- A scope that is still open is of another run, so nothing happens to its run.
        have hne : r ≠ runId := by
          rintro rfl
          exact absurd (openScopes_pos he hr) (by omega)
        obtain ⟨hr₁, hr₂⟩ := h.started id' e (lookup_of_erase he).2 howner r hr
        rw [hended.startedRuns]
        refine ⟨Finset.mem_erase.2 ⟨hne, hr₁⟩, fun hmem => ?_⟩
        rcases Finset.mem_insert.1 (hended.endedRuns hmem) with heq | hmem
        · exact hne heq
        · exact hr₂ hmem
      · rw [hended.startedRuns] at hr
        obtain ⟨hne, hr⟩ := Finset.mem_erase.1 hr
        exact startedSince_other (fun hends => hne (hends.2.symm.trans hevent.2)) (h.since r hr)
      · refine followsScopes_cons.2 ⟨hfollows, fun _ => ?_⟩
        rw [hscopes, hevent.2]
        exact ⟨hnone, h.since runId hstarted⟩

/-- A report of an end that follows the scopes is of a run of which no other scope is open. -/
theorem leavesLast_of_follows (h : Tracks w log) (id : ScopeId) (error : Bool) (users : Users)
    (hfollows : FollowsScopes (observeScopes log w (.exit id error users) (scopeStep w (.exit id error users)))) :
    LeavesLast w (.exit id error users) := by
  intro entry hid howns runId hrun
  obtain ⟨-, hopen⟩ := h.started id entry hid howns runId hrun
  obtain ⟨hscopes, hended⟩ := exit_owner hid howns hrun hopen error users
  obtain ⟨event, hevent, hevents⟩ := hended.events
  have hcount := openScopes_erase hid hrun
  have hzero := hfollows.closed (event, openScopes (w.scopes.erase id) runId)
    (by
      rw [observeScopes, hevents, hscopes, List.map_singleton, hevent.2]
      exact List.mem_cons_self)
    hevent.1
  dsimp only at hzero
  omega

end LifecycleAux

open LifecycleAux

/-- The identifiers of the examples. -/
theorem run_1_nonempty : "run_1" ≠ "" := by decide

theorem run_2_nonempty : "run_2" ≠ "" := by decide

theorem run_3_nonempty : "run_3" ≠ "" := by decide

/-- Three scopes in one task, of two runs: the innermost one is of the run of the outermost one. -/
def reentered : List ScopeStep :=
  [.enter 0 0 { runId := some ⟨"run_outer", by decide⟩ } {} ⟨"run_1", run_1_nonempty⟩,
    .enter 0 1 { runId := some ⟨"run_inner", by decide⟩ } {} ⟨"run_2", run_2_nonempty⟩,
    .enter 0 2 { runId := some ⟨"run_outer", by decide⟩ } {} ⟨"run_3", run_3_nonempty⟩,
    .exit 2 false {}]

end Runtime

end PromptRail
