import PromptRail.CandidatePool.Reload
import PromptRail.Library.Concurrent
import PromptRail.Library.Transition

/-!
# Saves of one route

A save writes its pools one after the other, then the policy, and then deletes the pools that it has not saved. Saves that run at the
same time leave pools and a policy that agree, if the last of them to write its policy finds the pools that it names, and no pool that
this policy names is deleted after it.
-/

namespace PromptRail

namespace CandidatePool

open PyText (Text)
open Json (Fields Value)
open Table (Dict)
open Concurrent (Program World Action ThreadId EveryThread)
open Transition (Throughout Along exec throughout_of_along)

/-! ## The threads -/

/-- A call of `save_candidate_pool`. -/
structure SaveCall where
  setup : Except Refusal Unit
  routeCandidates : RouteCandidates

/-- What a save does next: it writes the pools that are left, and after the last one the policy. -/
inductive Task where
  | writing (todo save : List SavedPool)
  | deleting (save : List SavedPool)
  | returned
  | raised (refusal : Refusal)
  | stopped

variable (env : Env)

def SaveCall.start (call : SaveCall) : Task :=
  match preparePools env call.setup call.routeCandidates with
  | .ok pools => .writing pools pools
  | .error refusal => .raised refusal

/-- One statement of a save. -/
def turn (store : Store) : Task → Unit → Store × Task
  | .writing (pool :: todo) save, _ => (writePool store pool, .writing todo save)
  | .writing [] save, _ => (writePolicy env store save, .deleting save)
  | .deleting save, _ => (deleteOthers store save, .returned)
  | task, _ => (store, task)

/-- A save that is cut off. -/
def Task.cutOff : Task → Task
  | .returned => .returned
  | .raised refusal => .raised refusal
  | _ => .stopped

/-- The saves of a route; nothing else writes its pools and its policy. -/
def program : Program Store SaveCall Task Unit Empty where
  start := SaveCall.start env
  turn := turn env
  halt := Task.cutOff
  happen store _ := store

abbrev Saves := World Store Task

abbrev Step := Action SaveCall Unit Empty

/-- The call has returned, or raised before it wrote a pool. -/
def Task.isDone : Task → Bool
  | .returned | .raised _ => true
  | _ => false

def AllReturned (w : Saves) : Prop := EveryThread (fun task => task.isDone = true) w.threads

/-! ## Agreement -/

/-- What a policy says of its pools is true of the store: each is there, under a version that is the hash of its models, and
loads. -/
def Policy.Holds (policy : Policy) (store : Store) : Prop :=
  policy.candidatePoolVersions.map (·.1) = policy.routes.map (·.1) ∧
    ∀ name version, (name, version) ∈ policy.candidatePoolVersions → ∃ row, store.pools.lookup name = some row ∧
      row.poolVersion = version ∧ version = candidatePoolVersion env name row.models ∧
      loadVersionedCandidatePool env store name version 7 = .ok row.models

/-- The pools are those of the policy, and the policy is right about them. -/
structure Agrees (store : Store) : Prop where
  holds : ∀ policy ∈ store.policy, policy.Holds env store
  named : ∀ name ∈ store.pools, ∃ policy ∈ store.policy, name ∈ policy.routes.map (·.1)

/-- The save has not written its policy, and may have written pools. -/
def Task.isOpen : Task → Bool
  | .writing .. | .stopped => true
  | _ => false

/-- A save other than `t` has not written its policy. -/
def OtherOpen (w : Saves) (t : ThreadId) : Prop := ∃ t' task, t' ≠ t ∧ w.threads.lookup t' = some task ∧ task.isOpen = true

/-- A save begins with pools that load back. Where no other save is to write its policy, it writes its own over the pools that it has
written, and deletes no pool that the policy names. -/
def SavesWhole (w : Saves) : Step → Prop
  | .begin _ call =>
    ∀ route ∈ call.routeCandidates.pools, ∀ pool, route.2 = .arr (pool.map .obj) → ValidPool env pool → Reloads env pool
  | .turn t _ =>
    match w.threads.lookup t with
    | some (.writing [] save) => OtherOpen w t ∨ ∀ pool ∈ save, w.store.pools.lookup pool.routeName = some pool.row
    | some (.deleting save) =>
      OtherOpen w t ∨ ∀ policy ∈ w.store.policy, ∀ name ∈ policy.routes.map (·.1), name ∈ save.map (·.routeName)
    | _ => True
  | _ => True

namespace SavesAux

variable {env} {w : Saves} {t : ThreadId} {task next : Task} {store : Store}

/-! ## The pools of a save -/

/-- A pool with its own version, which is valid as it is stored. -/
structure Sound (env : Env) (pool : SavedPool) : Prop where
  version : pool.poolVersion = candidatePoolVersion env pool.routeName pool.models
  valid : ValidPool env pool.models

theorem sound_of_saved {route : Text × Value} {pool : SavedPool} (h : ReloadAux.SavedFrom env route pool)
    (hreloads : ∀ models, route.2 = .arr (models.map .obj) → ValidPool env models → Reloads env models) : Sound env pool := by
  obtain ⟨models, hmodels, hvalid, -, hnormal, hversion⟩ := h
  refine ⟨hversion, ?_⟩
  rw [hnormal]
  exact (ReloadAux.valid_normalize_iff hvalid).2 (hreloads models hmodels hvalid)

theorem sound_of_prepared {call : SaveCall} {pools : List SavedPool}
    (h : preparePools env call.setup call.routeCandidates = .ok pools)
    (hreloads : ∀ route ∈ call.routeCandidates.pools, ∀ pool, route.2 = .arr (pool.map .obj) → ValidPool env pool →
      Reloads env pool) : ∀ pool ∈ pools, Sound env pool := by
  have hsaved := ReloadAux.prepare_ok h
  generalize call.routeCandidates.pools = routes at hsaved hreloads
  clear h
  induction hsaved with
  | nil => exact List.forall_mem_nil _
  | cons hfirst _ ih =>
    obtain ⟨hroute, hroutes⟩ := List.forall_mem_cons.1 hreloads
    exact List.forall_mem_cons.2 ⟨sound_of_saved hfirst hroute, ih hroutes⟩

/-- What is loaded depends on the row of the route. -/
theorem load_congr {store' : Store} {name : Text} (h : store'.pools.lookup name = store.pools.lookup name) (version : Text)
    (limit : Int) :
    loadVersionedCandidatePool env store' name version limit = loadVersionedCandidatePool env store name version limit := by
  unfold loadVersionedCandidatePool
  rw [h]

/-- The policy of pools that are stored as they were saved holds. -/
theorem holds_policyOf {save : List SavedPool} (hsound : ∀ pool ∈ save, Sound env pool)
    (hstored : ∀ pool ∈ save, store.pools.lookup pool.routeName = some pool.row) : (policyOf env save).Holds env store := by
  refine ⟨by simp [policyOf], ?_⟩
  intro name version hmem
  obtain ⟨pool, hpool, heq⟩ := List.mem_map.1 hmem
  obtain ⟨rfl, rfl⟩ := Prod.mk.inj heq
  have hown := hsound pool hpool
  have hrow := hstored pool hpool
  exact ⟨pool.row, hrow, rfl, hown.version, (ReloadAux.load_iff hrow hown.version hown.valid.size.2).2 hown.valid⟩

/-- A policy goes on to hold where its pools are kept. -/
theorem holds_of_kept {policy : Policy} {store' : Store} (h : policy.Holds env store)
    (hkept : ∀ name ∈ policy.routes.map (·.1), store'.pools.lookup name = store.pools.lookup name) : policy.Holds env store' := by
  refine ⟨h.1, ?_⟩
  intro name version hmem
  obtain ⟨row, hrow, hversion, hhash, hload⟩ := h.2 name version hmem
  have hname : name ∈ policy.routes.map (·.1) := h.1 ▸ List.mem_map.2 ⟨(name, version), hmem, rfl⟩
  exact ⟨row, (hkept name hname).trans hrow, hversion, hhash, (load_congr (hkept name hname) version 7).trans hload⟩

/-! ## What is kept -/

/-- Some save has not written its policy. -/
def Unfinished (w : Saves) : Prop := ∃ t task, w.threads.lookup t = some task ∧ task.isOpen = true

/-- The save whose policy is stored is about to delete the other pools. -/
def Clearing (env : Env) (w : Saves) : Prop :=
  ∃ t save, w.threads.lookup t = some (.deleting save) ∧ w.store.policy = some (policyOf env save)

/-- The pools that a save writes are sound. -/
def SoundTask (env : Env) : Task → Prop
  | .writing _ save | .deleting save => ∀ pool ∈ save, Sound env pool
  | _ => True

/-- Unless a save is still to write its policy, the policy holds; and once the save that has written it is through, there are no other
pools. -/
structure Kept (env : Env) (w : Saves) : Prop where
  threads : EveryThread (SoundTask env) w.threads
  holds : Unfinished w ∨ ∀ policy ∈ w.store.policy, policy.Holds env w.store
  named : Unfinished w ∨ Clearing env w ∨ ∀ name ∈ w.store.pools, ∃ policy ∈ w.store.policy, name ∈ policy.routes.map (·.1)

/-- An open save stays open while another one goes on, or while it writes pools itself. -/
theorem unfinished_insert (h : Unfinished w)
    (hnext : ∀ task, w.threads.lookup t = some task → task.isOpen = true → next.isOpen = true) :
    Unfinished { store, threads := w.threads.insert t next } := by
  obtain ⟨t', task', ht', hopen⟩ := h
  by_cases hsame : t' = t
  · subst hsame
    exact ⟨t', next, Table.lookup_insert_eq .. |>.trans (if_pos rfl), hnext task' ht' hopen⟩
  · exact ⟨t', task', (Table.lookup_insert_eq ..).trans ((if_neg hsame).trans ht'), hopen⟩

/-- An open save stays open while another one goes on. -/
theorem unfinished_of_other (h : OtherOpen w t) : Unfinished { store, threads := w.threads.insert t next } := by
  obtain ⟨t', task', hne, ht', hopen⟩ := h
  exact ⟨t', task', (Table.lookup_insert_eq ..).trans ((if_neg hne).trans ht'), hopen⟩

theorem unfinished_of_open (hopen : next.isOpen = true) : Unfinished { store, threads := w.threads.insert t next } :=
  ⟨t, next, Table.lookup_insert_eq .. |>.trans (if_pos rfl), hopen⟩

theorem clearing_insert (h : Clearing env w) (hother : ∀ save, w.threads.lookup t ≠ some (.deleting save))
    (hpolicy : store.policy = w.store.policy) : Clearing env { store, threads := w.threads.insert t next } := by
  obtain ⟨t', save, ht', hwritten⟩ := h
  have hne : t' ≠ t := by
    rintro rfl
    exact hother save ht'
  exact ⟨t', save, (Table.lookup_insert_eq ..).trans ((if_neg hne).trans ht'), hpolicy.trans hwritten⟩

/-- A save that is cut off, raises or was through before changes nothing of the store. -/
theorem kept_quiet (h : Kept env w) (hsound : SoundTask env next)
    (hopen : ∀ task, w.threads.lookup t = some task → task.isOpen = true → next.isOpen = true)
    (hdeleting : ∀ save, w.threads.lookup t = some (.deleting save) → next.isOpen = true) :
    Kept env { w with threads := w.threads.insert t next } := by
  refine ⟨h.threads.insert hsound t, h.holds.imp_left fun hunfinished => unfinished_insert hunfinished hopen, ?_⟩
  rcases h.named with hunfinished | hclearing | hnamed
  · exact Or.inl (unfinished_insert hunfinished hopen)
  · by_cases hthis : ∃ save, w.threads.lookup t = some (.deleting save)
    · obtain ⟨save, hsave⟩ := hthis
      exact Or.inl (unfinished_of_open (hdeleting save hsave))
    · exact Or.inr (Or.inl (clearing_insert hclearing (not_exists.1 hthis) rfl))
  · exact Or.inr (Or.inr hnamed)

/-- While a save is open, the store may be anything. -/
theorem kept_unfinished (h : Kept env w) (hsound : SoundTask env next)
    (hopen : Unfinished { store, threads := w.threads.insert t next }) : Kept env { store, threads := w.threads.insert t next } :=
  ⟨h.threads.insert hsound t, Or.inl hopen, Or.inl hopen⟩

/-- A policy that is written over its own pools holds, and the save goes on to delete the others. -/
theorem kept_policy (h : Kept env w) {save : List SavedPool} (hsound : ∀ pool ∈ save, Sound env pool)
    (hstored : ∀ pool ∈ save, w.store.pools.lookup pool.routeName = some pool.row) :
    Kept env { store := writePolicy env w.store save, threads := w.threads.insert t (.deleting save) } := by
  refine ⟨h.threads.insert (show SoundTask env (.deleting save) from hsound) t, Or.inr ?_, Or.inr (Or.inl ⟨t, save, ?_, rfl⟩)⟩
  · rintro policy ⟨⟩
    exact holds_of_kept (holds_policyOf hsound hstored) fun _ _ => rfl
  · exact (Table.lookup_insert_eq ..).trans (if_pos rfl)

theorem lookup_deleteOthers {save : List SavedPool} {name : Text} (h : name ∈ save.map (·.routeName)) :
    (deleteOthers store save).pools.lookup name = store.pools.lookup name := by
  refine Option.ext fun row => ?_
  rw [deleteOthers, Table.lookup_keep]
  exact and_iff_right (decide_eq_true h)

theorem mem_deleteOthers {save : List SavedPool} {name : Text} (h : name ∈ (deleteOthers store save).pools) :
    name ∈ save.map (·.routeName) ∧ name ∈ store.pools := by
  obtain ⟨row, hrow⟩ := Table.mem_iff_lookup.1 h
  obtain ⟨hname, hold⟩ := (Table.lookup_keep _).1 hrow
  exact ⟨of_decide_eq_true hname, Table.mem_iff_lookup.2 ⟨row, hold⟩⟩

/-- A delete that spares the pools of the policy leaves no others, if the policy is the one of the save. -/
theorem kept_deleted (h : Kept env w) {save : List SavedPool} (ht : w.threads.lookup t = some (.deleting save))
    (hspared : ∀ policy ∈ w.store.policy, ∀ name ∈ policy.routes.map (·.1), name ∈ save.map (·.routeName)) :
    Kept env { store := deleteOthers w.store save, threads := w.threads.insert t .returned } := by
  have hopen : ∀ task, w.threads.lookup t = some task → task.isOpen = true → Task.isOpen .returned = true := by
    intro task htask hopen
    rw [ht] at htask
    obtain rfl := Option.some.inj htask
    cases hopen
  refine ⟨h.threads.insert (show SoundTask env .returned from trivial) t, ?_, ?_⟩
  · refine h.holds.imp (fun hunfinished => unfinished_insert hunfinished hopen) fun hholds policy hpolicy => ?_
    exact holds_of_kept (hholds policy hpolicy) fun name hname => lookup_deleteOthers (hspared policy hpolicy name hname)
  · rcases h.named with hunfinished | ⟨t', save', ht', hwritten⟩ | hnamed
    · exact Or.inl (unfinished_insert hunfinished hopen)
    · by_cases hsame : t' = t
      · subst hsame
        obtain rfl := Task.deleting.inj (Option.some.inj (ht'.symm.trans ht))
        refine Or.inr (Or.inr fun name hname => ⟨policyOf env save', hwritten, ?_⟩)
        have hnames : (policyOf env save').routes.map (·.1) = save'.map (·.routeName) := by simp [policyOf]
        rw [hnames]
        exact (mem_deleteOthers hname).1
      · exact Or.inr (Or.inl ⟨t', save', (Table.lookup_insert_eq ..).trans ((if_neg hsame).trans ht'), hwritten⟩)
    · exact Or.inr (Or.inr fun name hname => hnamed name (mem_deleteOthers hname).2)

/-- One statement of a save. -/
theorem kept_turn (h : Kept env w) (ht : w.threads.lookup t = some task) (hg : SavesWhole env w (.turn t ())) :
    Kept env { store := (turn env w.store task ()).1, threads := w.threads.insert t (turn env w.store task ()).2 } := by
  have hsound := h.threads t task ht
  rw [SavesWhole, ht] at hg
  cases task with
  | writing todo save =>
    cases todo with
    | nil =>
      rcases hg with hother | hstored
      · exact kept_unfinished h hsound (unfinished_of_other hother)
      · exact kept_policy h hsound hstored
    | cons pool todo => exact kept_unfinished h hsound (unfinished_of_open rfl)
  | deleting save =>
    rcases hg with hother | hspared
    · exact kept_unfinished h trivial (unfinished_of_other hother)
    · exact kept_deleted h ht hspared
  | returned | raised _ | stopped =>
    refine kept_quiet h trivial ?_ ?_
    · intro task htask hopen
      rw [ht] at htask
      obtain rfl := Option.some.inj htask
      exact hopen
    · intro save hsave
      rw [ht] at hsave
      cases Option.some.inj hsave

/-- A step that meets the condition keeps what is kept. -/
theorem kept_step (h : Kept env w) {a : Step} (hg : SavesWhole env w a) : Kept env ((program env).step w a) := by
  rcases (program env).step_cases w a with ⟨-, hs⟩ | ⟨t, call, rfl, hnew, hs⟩ | ⟨t, input, task, rfl, ht, hs⟩ |
    ⟨t, task, rfl, ht, hs⟩ | ⟨event, -, -⟩
  · rw [hs]
    exact h
  · rw [hs]
    have hnone : ∀ task, w.threads.lookup t ≠ some task := fun task ht => hnew (Table.mem_iff_lookup.2 ⟨task, ht⟩)
    refine kept_quiet h ?_ (fun task ht => absurd ht (hnone task)) fun save ht => absurd ht (hnone _)
    show SoundTask env (call.start env)
    unfold SaveCall.start
    split
    · rename_i pools hpools
      exact sound_of_prepared hpools hg
    · trivial
  · rw [hs]
    exact kept_turn h ht hg
  · rw [hs]
    refine kept_quiet h ?_ ?_ ?_
    · show SoundTask env task.cutOff
      cases task <;> trivial
    · intro task' ht' hopen
      rw [ht] at ht'
      obtain rfl := Option.some.inj ht'
      show task.cutOff.isOpen = true
      cases task <;> first | rfl | cases hopen
    · intro save ht'
      rw [ht] at ht'
      obtain rfl := Option.some.inj ht'
      rfl
  · cases event

/-- Once every save has returned, the pools and the policy agree. -/
theorem agrees_of_kept (h : Kept env w) (hreturned : AllReturned w) : Agrees env w.store := by
  have hnone : ¬ Unfinished w := by
    rintro ⟨t, task, ht, hopen⟩
    have hdone := hreturned t task ht
    cases task with
    | writing | deleting | stopped => cases hdone
    | returned | raised => cases hopen
  refine ⟨h.holds.resolve_left hnone, ?_⟩
  rcases h.named.resolve_left hnone with ⟨t, save, ht, -⟩ | hnamed
  · cases hreturned t _ ht
  · exact hnamed

/-! ## A save that nothing interrupts -/

/-- A turn of a save that has begun. -/
theorem step_turn (ht : w.threads.lookup t = some task) : (program env).step w (.turn t ()) =
    { store := (turn env w.store task ()).1, threads := w.threads.insert t (turn env w.store task ()).2 } := by
  simp only [Program.step, ht]
  rfl

/-- A pool that is written under a new name leaves those that were written before. -/
theorem stored_writePool {pools : List SavedPool} {pool : SavedPool} (hne : ∀ other ∈ pools, other.routeName ≠ pool.routeName)
    (hstored : ∀ other ∈ pools, store.pools.lookup other.routeName = some other.row) :
    ∀ other ∈ pools ++ [pool], (writePool store pool).pools.lookup other.routeName = some other.row := by
  intro other hother
  rcases List.mem_append.1 hother with hold | hnew
  · exact (AList.lookup_insert_ne (hne other hold)).trans (hstored other hold)
  · obtain rfl := List.mem_singleton.1 hnew
    exact AList.lookup_insert _

/-- The turns of a save, one after the other: the pools that it has written are still there. -/
theorem along_writing {save : List SavedPool} (hn : (save.map (·.routeName)).Nodup) {todo done : List SavedPool}
    (hsave : save = done ++ todo) (ht : w.threads.lookup t = some (.writing todo save))
    (hdone : ∀ pool ∈ done, w.store.pools.lookup pool.routeName = some pool.row) :
    Along (program env).step (SavesWhole env) w (List.replicate (todo.length + 2) (.turn t ())) := by
  induction todo generalizing done w with
  | nil =>
    obtain rfl : save = done := hsave.trans (List.append_nil done)
    refine ⟨?_, ?_, trivial⟩
    · simp only [SavesWhole, ht]
      exact Or.inr hdone
    · rw [step_turn ht]
      simp only [SavesWhole, turn, AList.lookup_insert]
      refine Or.inr ?_
      rintro policy ⟨⟩ name hname
      simpa [policyOf] using hname
  | cons pool todo ih =>
    refine ⟨by simp only [SavesWhole, ht], ?_⟩
    rw [step_turn ht]
    have hmore : save = (done ++ [pool]) ++ todo := by rw [hsave, List.append_assoc, List.singleton_append]
    refine ih hmore (AList.lookup_insert _) (stored_writePool ?_ hdone)
    intro other hother
    rw [hsave, List.map_append] at hn
    exact (List.nodup_append.1 hn).2.2 _ (List.mem_map_of_mem hother) _ (List.mem_map_of_mem List.mem_cons_self)

/-- A save that nothing interrupts meets the condition, if its pools load back. -/
theorem along_uninterrupted {call : SaveCall} {pools : List SavedPool} (hnew : t ∉ w.threads)
    (hprepared : preparePools env call.setup call.routeCandidates = .ok pools)
    (hreloads : ∀ route ∈ call.routeCandidates.pools, ∀ pool, route.2 = .arr (pool.map .obj) → ValidPool env pool →
      Reloads env pool) :
    Along (program env).step (SavesWhole env) w (.begin t call :: List.replicate (pools.length + 2) (.turn t ())) := by
  refine ⟨hreloads, ?_⟩
  have hstart : (program env).step w (.begin t call) = { w with threads := w.threads.insert t (.writing pools pools) } := by
    simp only [Program.step, if_neg hnew, program, SaveCall.start, hprepared]
  rw [hstart]
  have hnames := ReloadAux.names_saved (ReloadAux.prepare_ok hprepared)
  exact along_writing (hnames ▸ call.routeCandidates.nodup) (List.nil_append _).symm (AList.lookup_insert _)
    (List.forall_mem_nil _)

end SavesAux

open SavesAux

/-- From pools and a policy that agree, saves that run at the same time leave pools and a policy that agree once all have returned, if
each step meets the condition. -/
theorem saved_pools_agree {store : Store} (h : Agrees env store) (steps : List Step)
    (hwhole : Along (program env).step (SavesWhole env) { store } steps) :
    Throughout (program env).step (fun w => AllReturned w → Agrees env w.store) { store } steps := by
  have hkept : Kept env { store } := ⟨Concurrent.everyThread_empty _, Or.inr h.holds, Or.inr (Or.inr h.named)⟩
  have hstep : ∀ w a, Kept env w → SavesWhole env w a → Kept env ((program env).step w a) := fun _ _ hk hg => kept_step hk hg
  exact (throughout_of_along hstep hkept hwhole).mono fun _ hk hreturned => agrees_of_kept hk hreturned

/-! ## One save, and two -/

/-- Five complete models. -/
def exampleModels : List Fields :=
  ["a", "b", "c", "d", "e"].filterMap fun name =>
    match exampleModel ("openai/" ++ name) "openai" name "" with
    | .obj model => some model
    | _ => none

/-- A save of one pool. -/
def exampleCall (routeName : String) : SaveCall where
  setup := .ok ()
  routeCandidates := { pools := [(routeName.toList, .arr (exampleModels.map .obj))], nodup := List.nodup_singleton _ }

/-- Two saves write pools of different names, then their policies, and then each deletes the pool of the other. -/
def tornSaves : List Step :=
  [.begin 0 (exampleCall "code"), .begin 1 (exampleCall "support"), .turn 0 (), .turn 1 (), .turn 0 (), .turn 1 (), .turn 0 (),
    .turn 1 ()]

theorem agrees_empty : Agrees exampleEnv {} := by
  refine ⟨?_, ?_⟩
  · intro policy hpolicy
    cases hpolicy
  · intro name hname
    exact absurd hname (AList.notMem_empty name)

theorem reloads_exampleModels : Reloads exampleEnv exampleModels :=
  ⟨by decide +kernel, by decide +kernel, by decide +kernel⟩

/-- One save leaves its pool and a policy that agree. -/
theorem saved_pool_agrees : Agrees exampleEnv
    (exec (program exampleEnv).step { store := {} } (.begin 0 (exampleCall "code") :: List.replicate 3 (.turn 0 ()))).store := by
  have hprepared : (preparePools exampleEnv (exampleCall "code").setup (exampleCall "code").routeCandidates).isOk = true := by
    decide +kernel
  obtain ⟨pools, hok⟩ := Outcome.ok_of_isOk hprepared
  have hlength : pools.length = 1 := (ReloadAux.prepare_ok hok).length_eq.symm
  have hwhole : Along (program exampleEnv).step (SavesWhole exampleEnv) { store := {} }
      (.begin 0 (exampleCall "code") :: List.replicate (pools.length + 2) (.turn 0 ())) := by
    refine along_uninterrupted (AList.notMem_empty 0) hok ?_
    intro route hroute pool hpool _
    obtain rfl := List.mem_singleton.1 hroute
    obtain rfl := List.map_injective_iff.2 (fun _ _ h => Value.obj.inj h) (Value.arr.inj hpool)
    exact reloads_exampleModels
  rw [hlength] at hwhole
  have hreturned : ((exec (program exampleEnv).step { store := {} }
      (.begin 0 (exampleCall "code") :: List.replicate 3 (.turn 0 ()))).threads.entries.all fun e => e.2.isDone) = true := by
    decide +kernel
  exact (saved_pools_agree exampleEnv agrees_empty _ hwhole).last
    ((Concurrent.everyThread_iff _ _).2 (List.all_eq_true.1 hreturned))

/-- A pool of the policy is not there, though both saves have returned. -/
theorem saves_tear_apart : Agrees exampleEnv {} ∧
    ¬ Throughout (program exampleEnv).step (fun w => AllReturned w → Agrees exampleEnv w.store) { store := {} } tornSaves := by
  refine ⟨agrees_empty, fun h => ?_⟩
  have hlast : (let w := exec (program exampleEnv).step { store := {} } tornSaves
      (w.threads.entries.all fun e => e.2.isDone) && w.store.policy.any fun policy =>
        policy.candidatePoolVersions.any fun v => (w.store.pools.lookup v.1).isNone) = true := by decide +kernel
  obtain ⟨hreturned, hmissing⟩ := Bool.and_eq_true_iff.1 hlast
  obtain ⟨policy, hpolicy, hmissing⟩ := (Option.any_eq_true _ _).1 hmissing
  obtain ⟨⟨name, version⟩, hversion, hnone⟩ := List.any_eq_true.1 hmissing
  have hagrees := h.last ((Concurrent.everyThread_iff _ _).2 (List.all_eq_true.1 hreturned))
  obtain ⟨row, hrow, -⟩ := (hagrees.holds policy hpolicy).2 name version hversion
  rw [hrow] at hnone
  cases hnone

end CandidatePool

end PromptRail
