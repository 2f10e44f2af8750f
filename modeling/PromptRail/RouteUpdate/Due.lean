import PromptRail.Library.Transition
import PromptRail.RouteUpdate

/-!
# The jobs that are due are attempted

The jobs of a call are attempted one after another, up to the first one whose failure is not of its catalog. Where there is none, every job
that stays due is attempted after so many calls as bring it to the front.
-/

namespace PromptRail

open PyText (Text strip)

namespace RouteUpdate

/-- The attempt of a job fails, and not for its catalog. -/
def Refused (attempts : Text → Attempt) (job : Job) : Prop :=
  ∃ error, runRouteUpdateJob (attempts job.id) job = .error error ∧ isInvalidRouteUpdateCatalogError error = false

/-- A call attempts the jobs, each once, up to the first that is refused: that one ends the call with its exception, and without one
there is a result of each job. -/
def UpToRefusal (attempts : Text → Attempt) (jobs : List Job) (result : CallResult) : Prop :=
  ∃ served rest, jobs = served ++ rest ∧ (∀ job ∈ served, ¬Refused attempts job) ∧
    match rest with
    | [] => result.attempted = served.map Job.id ∧ ∃ results, result.outcome = .ok results ∧ results.map Result.id = served.map Job.id
    | job :: _ => result.attempted = served.map Job.id ++ [job.id] ∧
        ∃ error, runRouteUpdateJob (attempts job.id) job = .error error ∧ isInvalidRouteUpdateCatalogError error = false ∧
          result.outcome = .error error

/-- None of the jobs of a call is refused. -/
def Unrefused (store : Store) (call : Call) : Prop := ∀ job ∈ firstDue call store, ¬Refused call.attempts job

/-- One of the calls of a run attempts the job. -/
def AttemptedIn (store : Store) (calls : List Call) (id : Text) : Prop :=
  ∃ before call after, calls = before ++ call :: after ∧
    id ∈ (runDueRouteUpdateJobs call (Transition.exec next store before)).attempted

/-- An enabled job that may be attempted before the given one. -/
def isAhead (job other : Job) : Bool := decide (other.id ≠ job.id) && other.enabled && decide (dueKey other ≤ dueKey job)

/-- How many jobs may be attempted before the given one. -/
def ahead (job : Job) (store : Store) : Nat := store.jobs.countP (isAhead job)

namespace DueAux

/-! ### One attempt -/

/-- An attempt that is not refused leaves a job of the same id and a result of it; the job is disabled, or due later than the attempt is
done. -/
theorem attemptJob_of_not_refused {attempts : Text → Attempt} {job : Job} (h : ¬Refused attempts job) :
    ∃ done result, attemptJob attempts job = .ok (done, result) ∧ done.id = job.id ∧ result.id = job.id ∧
      (done.enabled = false ∨ ∃ nextRun, done.nextRunAt = some nextRun ∧ (attempts job.id).finishedAt < nextRun) := by
  cases hrun : runRouteUpdateJob (attempts job.id) job with
  | error error =>
    have hcatalog : isInvalidRouteUpdateCatalogError error = true := by
      cases hc : isInvalidRouteUpdateCatalogError error with
      | true => rfl
      | false => exact absurd ⟨error, hrun, hc⟩ h
    have hid : ¬strip job.id = [] := by
      rw [job.named.2]
      exact job.named.1
    have hattempt : attemptJob attempts job = .ok ({ job with enabled := false, nextRunAt := none, lastError := some error },
        .failed (strip job.id) job.routeId error) := by
      simp only [attemptJob, hrun, hcatalog, disableInvalidRouteUpdateJob, hid, if_true, if_false]
    exact ⟨_, _, hattempt, rfl, job.named.2, .inl rfl⟩
  | ok pair =>
    obtain ⟨done, result⟩ := pair
    refine ⟨done, result, by simp only [attemptJob, hrun], ?_⟩
    unfold runRouteUpdateJob at hrun
    split at hrun
    · nomatch hrun
    · nomatch hrun
    · rename_i routes schedule _ _
      dsimp only at hrun
      split at hrun
      · obtain ⟨rfl, rfl⟩ := Prod.mk.inj (Except.ok.inj hrun)
        have hpos : 0 < schedule.value * schedule.unit.seconds :=
          Nat.mul_pos schedule.positive (by cases schedule.unit <;> decide)
        exact ⟨rfl, rfl, .inr ⟨_, rfl, Nat.lt_add_of_pos_right hpos⟩⟩
      · nomatch hrun

theorem attemptJob_of_refused {attempts : Text → Attempt} {job : Job} {error : HttpException}
    (hrun : runRouteUpdateJob (attempts job.id) job = .error error) (hcatalog : isInvalidRouteUpdateCatalogError error = false) :
    attemptJob attempts job = .error error := by
  simp only [attemptJob, hrun, hcatalog, Bool.false_eq_true, if_false]

/-! ### The jobs of one call -/

theorem upToRefusal_runJobs (attempts : Text → Attempt) (jobs : List Job) (store : Store) :
    UpToRefusal attempts jobs (runJobs attempts jobs store) := by
  induction jobs generalizing store with
  | nil => exact ⟨[], [], rfl, fun job hjob => absurd hjob List.not_mem_nil, rfl, [], rfl, rfl⟩
  | cons job jobs ih =>
    by_cases hrefused : Refused attempts job
    · obtain ⟨error, hrun, hcatalog⟩ := hrefused
      refine ⟨[], job :: jobs, rfl, fun job hjob => absurd hjob List.not_mem_nil, ?_, error, hrun, hcatalog, ?_⟩
      · simp only [runJobs, attemptJob_of_refused hrun hcatalog, List.map_nil, List.nil_append]
      · simp only [runJobs, attemptJob_of_refused hrun hcatalog]
    · obtain ⟨done, result, hattempt, -, hresult, -⟩ := attemptJob_of_not_refused hrefused
      obtain ⟨served, rest, hjobs, hserved, hrest⟩ := ih (store.write done)
      refine ⟨job :: served, rest, by rw [hjobs, List.cons_append], ?_, ?_⟩
      · intro other hother
        rcases List.mem_cons.1 hother with rfl | hother
        · exact hrefused
        · exact hserved other hother
      · cases rest with
        | nil =>
          obtain ⟨hattempted, results, houtcome, hresults⟩ := hrest
          refine ⟨?_, result :: results, ?_, ?_⟩
          · simp only [runJobs, hattempt, hattempted, List.map_cons]
          · simp only [runJobs, hattempt, houtcome, Except.map]
          · rw [List.map_cons, hresult, hresults, List.map_cons]
        | cons last later =>
          obtain ⟨hattempted, error, hrun, hcatalog, houtcome⟩ := hrest
          refine ⟨?_, error, hrun, hcatalog, ?_⟩
          · simp only [runJobs, hattempt, hattempted, List.map_cons, List.cons_append]
          · simp only [runJobs, hattempt, houtcome, Except.map]

theorem nodup_firstDue (call : Call) (store : Store) : ((firstDue call store).map Job.id).Nodup := by
  have hdue : ((dueJobs call.now store).map Job.id).Nodup := by
    rw [dueJobs, ((List.mergeSort_perm _ _).map Job.id).nodup_iff]
    exact store.distinct.sublist (List.filter_sublist.map Job.id)
  exact hdue.sublist ((List.take_sublist _ _).map Job.id)

theorem nodup_attempted (call : Call) (store : Store) : (runDueRouteUpdateJobs call store).attempted.Nodup := by
  obtain ⟨served, rest, hjobs, -, hrest⟩ := upToRefusal_runJobs call.attempts (firstDue call store) store
  have hnodup := nodup_firstDue call store
  rw [hjobs] at hnodup
  cases rest with
  | nil =>
    rw [runDueRouteUpdateJobs, hrest.1]
    rwa [List.append_nil] at hnodup
  | cons last later =>
    rw [runDueRouteUpdateJobs, hrest.1]
    refine hnodup.sublist ?_
    rw [List.map_append, List.map_cons]
    exact (List.Sublist.refl _).append (List.nil_sublist _ |>.cons_cons _)

theorem attempted_of_unrefused {call : Call} {store : Store} (h : Unrefused store call) :
    (runDueRouteUpdateJobs call store).attempted = (firstDue call store).map Job.id := by
  obtain ⟨served, rest, hjobs, -, hrest⟩ := upToRefusal_runJobs call.attempts (firstDue call store) store
  cases rest with
  | nil =>
    rw [List.append_nil] at hjobs
    rw [runDueRouteUpdateJobs, hrest.1, hjobs]
  | cons last later =>
    obtain ⟨-, error, hrun, hcatalog, -⟩ := hrest
    refine absurd ⟨error, hrun, hcatalog⟩ (h last ?_)
    rw [hjobs]
    exact List.mem_append_right _ List.mem_cons_self

/-! ### The jobs ahead of one -/

/-- A job that is not among them is not replaced. -/
theorem replaceJob_of_not_mem {job : Job} {jobs : List Job} (h : job.id ∉ jobs.map Job.id) : replaceJob job jobs = jobs := by
  calc replaceJob job jobs = jobs.map id := by
        refine List.map_congr_left fun stored hstored => if_neg fun heq => h ?_
        rw [← heq]
        exact List.mem_map_of_mem hstored
    _ = jobs := List.map_id jobs

theorem mem_replaceJob {done job : Job} {jobs : List Job} (hid : done.id ≠ job.id) (h : job ∈ jobs) : job ∈ replaceJob done jobs := by
  refine List.mem_map.2 ⟨job, h, ?_⟩
  rw [if_neg (Ne.symm hid)]

/-- Replacing a job that is counted by one that is not counts one less. -/
theorem countP_replaceJob {p : Job → Bool} {done job : Job} {jobs : List Job} (hid : done.id = job.id) (hjob : p job = true)
    (hdone : p done = false) (hdistinct : (jobs.map Job.id).Nodup) (h : job ∈ jobs) :
    (replaceJob done jobs).countP p + 1 = jobs.countP p := by
  induction jobs with
  | nil => exact absurd h List.not_mem_nil
  | cons head jobs ih =>
    rw [List.map_cons, List.nodup_cons] at hdistinct
    rcases List.mem_cons.1 h with rfl | h
    · have hrest : replaceJob done jobs = jobs := replaceJob_of_not_mem (by rw [hid]; exact hdistinct.1)
      have hreplaced : replaceJob done (job :: jobs) = done :: jobs := by
        calc replaceJob done (job :: jobs) = done :: replaceJob done jobs := by
              simp only [replaceJob, List.map_cons, hid, if_true]
          _ = done :: jobs := by rw [hrest]
      rw [hreplaced, List.countP_cons_of_neg (by rw [hdone]; decide), List.countP_cons_of_pos hjob]
    · have hhead : head.id ≠ done.id := by
        intro heq
        refine hdistinct.1 ?_
        rw [heq, hid]
        exact List.mem_map_of_mem h
      have hreplaced : replaceJob done (head :: jobs) = head :: replaceJob done jobs := by
        simp only [replaceJob, List.map_cons, if_neg hhead]
      rw [hreplaced, List.countP_cons, List.countP_cons, ← ih hdistinct.2 h]
      omega

/-- The jobs of a call were counted, and those it leaves in their place are not: that many less are counted. -/
theorem countP_runJobs {p : Job → Bool} {attempts : Text → Attempt} {jobs : List Job}
    (hserved : ∀ job ∈ jobs, ∃ done result, attemptJob attempts job = .ok (done, result) ∧ done.id = job.id ∧ p done = false)
    (hp : ∀ job ∈ jobs, p job = true) (hnodup : (jobs.map Job.id).Nodup) {store : Store} (hstored : ∀ job ∈ jobs, job ∈ store.jobs) :
    (runJobs attempts jobs store).store.jobs.countP p + jobs.length = store.jobs.countP p := by
  induction jobs generalizing store with
  | nil => rfl
  | cons job jobs ih =>
    rw [List.map_cons, List.nodup_cons] at hnodup
    obtain ⟨done, result, hattempt, hid, hdone⟩ := hserved job List.mem_cons_self
    have hrest : ∀ other ∈ jobs, other ∈ (store.write done).jobs := by
      intro other hother
      refine mem_replaceJob (fun heq => hnodup.1 ?_) (hstored other (List.mem_cons_of_mem _ hother))
      rw [← hid, heq]
      exact List.mem_map_of_mem hother
    have hwrite : (store.write done).jobs.countP p + 1 = store.jobs.countP p :=
      countP_replaceJob hid (hp job List.mem_cons_self) hdone store.distinct (hstored job List.mem_cons_self)
    have hrun := ih (fun other hother => hserved other (List.mem_cons_of_mem _ hother))
      (fun other hother => hp other (List.mem_cons_of_mem _ hother)) hnodup.2 hrest
    have hstore : (runJobs attempts (job :: jobs) store).store = (runJobs attempts jobs (store.write done)).store := by
      simp only [runJobs, hattempt]
    rw [hstore, List.length_cons, ← hwrite, ← hrun]
    omega

/-- A job that a call is not for stays as it is. -/
theorem mem_runJobs {attempts : Text → Attempt} {jobs : List Job} {job : Job} (hother : job.id ∉ jobs.map Job.id)
    {store : Store} (hstored : job ∈ store.jobs) : job ∈ (runJobs attempts jobs store).store.jobs := by
  induction jobs generalizing store with
  | nil => exact hstored
  | cons first jobs ih =>
    rw [List.map_cons, List.mem_cons, not_or] at hother
    by_cases hrefused : Refused attempts first
    · obtain ⟨error, hrun, hcatalog⟩ := hrefused
      simp only [runJobs, attemptJob_of_refused hrun hcatalog]
      exact hstored
    · obtain ⟨done, result, hattempt, hid, -⟩ := attemptJob_of_not_refused hrefused
      simp only [runJobs, hattempt]
      refine ih hother.2 (mem_replaceJob (fun heq => hother.1 ?_) hstored)
      rw [← heq, hid]

theorem mem_dueJobs {now : Time} {store : Store} {job : Job} : job ∈ dueJobs now store ↔ job ∈ store.jobs ∧ isDue now job = true := by
  rw [dueJobs, List.mem_mergeSort, List.mem_filter]

theorem sorted_dueJobs (now : Time) (store : Store) : (dueJobs now store).Pairwise fun a b => dueKey a ≤ dueKey b := by
  have htrans : ∀ a b c : Job, decide (dueKey a ≤ dueKey b) = true → decide (dueKey b ≤ dueKey c) = true →
      decide (dueKey a ≤ dueKey c) = true := by
    intro a b c hab hbc
    exact decide_eq_true (Nat.le_trans (of_decide_eq_true hab) (of_decide_eq_true hbc))
  have htotal : ∀ a b : Job, (decide (dueKey a ≤ dueKey b) || decide (dueKey b ≤ dueKey a)) = true := by
    intro a b
    rw [Bool.or_eq_true, decide_eq_true_eq, decide_eq_true_eq]
    exact Nat.le_total _ _
  exact (List.pairwise_mergeSort htrans htotal _).imp of_decide_eq_true

theorem dueKey_le_of_isDue {now : Time} {job : Job} (h : isDue now job = true) : dueKey job ≤ now + 1 := by
  rw [isDue, Bool.and_eq_true] at h
  cases hnext : job.nextRunAt with
  | none => simp only [dueKey, hnext, Option.elim, Nat.zero_le]
  | some nextRun =>
    rw [hnext, Option.all_some, decide_eq_true_eq] at h
    simp only [dueKey, hnext, Option.elim]
    exact Nat.succ_le_succ h.2

/-- A call that is not for a due job is for as many jobs as its limit says, and all of them are ahead of it. -/
theorem firstDue_ahead {call : Call} {store : Store} {job : Job} (hjob : job ∈ dueJobs call.now store)
    (hnot : job.id ∉ (firstDue call store).map Job.id) :
    (firstDue call store).length = call.limit ∧ ∀ other ∈ firstDue call store, isAhead job other = true := by
  have hsplit : firstDue call store ++ (dueJobs call.now store).drop call.limit = dueJobs call.now store :=
    List.take_append_drop _ _
  have hdrop : job ∈ (dueJobs call.now store).drop call.limit := by
    rw [← hsplit, List.mem_append] at hjob
    exact hjob.resolve_left fun h => hnot (List.mem_map_of_mem h)
  constructor
  · have hlength := List.length_pos_of_mem hdrop
    rw [List.length_drop] at hlength
    rw [firstDue, List.length_take]
    omega
  · intro other hother
    have hsorted := sorted_dueJobs call.now store
    rw [← hsplit, List.pairwise_append] at hsorted
    have hdue := mem_dueJobs.1 (List.take_subset _ _ hother)
    have hne : other.id ≠ job.id := by
      intro heq
      refine hnot ?_
      rw [← heq]
      exact List.mem_map_of_mem hother
    have henabled : other.enabled = true := by
      have h := hdue.2
      rw [isDue, Bool.and_eq_true] at h
      exact h.1
    rw [isAhead, Bool.and_eq_true, Bool.and_eq_true]
    exact ⟨⟨decide_eq_true hne, henabled⟩, decide_eq_true (hsorted.2.2 other hother job hdrop)⟩

/-- A call that is not for a due job leaves so many less ahead of it as its limit says, and the job as it is. -/
theorem step_ahead {call : Call} {store : Store} (hgood : Unrefused store call) {job : Job} (hstored : job ∈ store.jobs)
    (hdue : isDue call.now job = true) (hnot : job.id ∉ (runDueRouteUpdateJobs call store).attempted) :
    job ∈ (next store call).jobs ∧ ahead job (next store call) + call.limit = ahead job store := by
  rw [attempted_of_unrefused hgood] at hnot
  have hfirst := firstDue_ahead (mem_dueJobs.2 ⟨hstored, hdue⟩) hnot
  refine ⟨mem_runJobs hnot hstored, ?_⟩
  have hserved : ∀ other ∈ firstDue call store, ∃ done result,
      attemptJob call.attempts other = .ok (done, result) ∧ done.id = other.id ∧ isAhead job done = false := by
    intro other hother
    obtain ⟨done, result, hattempt, hid, -, hlater⟩ := attemptJob_of_not_refused (hgood other hother)
    refine ⟨done, result, hattempt, hid, ?_⟩
    rw [isAhead, Bool.and_eq_false_iff, Bool.and_eq_false_iff]
    rcases hlater with hdisabled | ⟨nextRun, hnext, hlt⟩
    · exact .inl (.inr hdisabled)
    · -- the job is due already, and this one only after the call has begun
      have hkey := dueKey_le_of_isDue hdue
      have hlate : dueKey job < dueKey done := by
        calc dueKey job ≤ call.now + 1 := dueKey_le_of_isDue hdue
          _ < nextRun + 1 := Nat.succ_lt_succ (Nat.lt_of_le_of_lt (call.forward other.id) hlt)
          _ = dueKey done := by simp only [dueKey, hnext, Option.elim]
      exact .inr (decide_eq_false (Nat.not_le.2 hlate))
  have hcount := countP_runJobs hserved hfirst.2 (nodup_firstDue call store)
    fun other hother => (mem_dueJobs.1 (List.take_subset _ _ hother)).1
  rw [hfirst.1] at hcount
  exact hcount

/-- A job that is due at every call of a run is attempted once the limits of the calls sum up to more than the jobs ahead of it. -/
theorem attemptedIn_of_ahead {calls : List Call} {store : Store} (hrun : Transition.Along next Unrefused store calls) {job : Job}
    (hstored : job ∈ store.jobs) (hdue : ∀ call ∈ calls, isDue call.now job = true)
    (hahead : ahead job store < (calls.map Call.limit).sum) : AttemptedIn store calls job.id := by
  induction calls generalizing store with
  | nil => exact absurd hahead (Nat.not_lt_zero _)
  | cons call calls ih =>
    by_cases hnow : job.id ∈ (runDueRouteUpdateJobs call store).attempted
    · exact ⟨[], call, calls, rfl, hnow⟩
    · obtain ⟨hkept, hcount⟩ := step_ahead hrun.1 hstored (hdue call List.mem_cons_self) hnow
      rw [List.map_cons, List.sum_cons, ← hcount] at hahead
      have hahead' : ahead job (next store call) < (calls.map Call.limit).sum := by omega
      obtain ⟨before, later, after, hcalls, hattempted⟩ :=
        ih hrun.2 hkept (fun call hcall => hdue call (List.mem_cons_of_mem _ hcall)) hahead'
      refine ⟨call :: before, later, after, by rw [hcalls, List.cons_append], ?_⟩
      rw [Transition.exec_cons]
      exact hattempted

/-- A job that is the first of a call and refused is all that the call attempts. -/
theorem run_of_first_refused {call : Call} {store : Store} {job : Job} {later : List Job} (hfirst : firstDue call store = job :: later)
    {error : HttpException} (hrun : runRouteUpdateJob (call.attempts job.id) job = .error error)
    (hcatalog : isInvalidRouteUpdateCatalogError error = false) :
    runDueRouteUpdateJobs call store = { store, attempted := [job.id], outcome := .error error } := by
  simp only [runDueRouteUpdateJobs, hfirst, runJobs, attemptJob_of_refused hrun hcatalog]

end DueAux

open DueAux

/-- A job that is refused in each of repeated calls keeps its place in front, and no other is attempted. -/
theorem only_first_attempted {call : Call} {store : Store} {job : Job} {later : List Job} (hfirst : firstDue call store = job :: later)
    (hrefused : Refused call.attempts job) (n : Nat) {id : Text} (h : AttemptedIn store (List.replicate n call) id) : id = job.id := by
  obtain ⟨error, hrun, hcatalog⟩ := hrefused
  have hcall := run_of_first_refused hfirst hrun hcatalog
  have hkeeps : ∀ m, Transition.exec next store (List.replicate m call) = store := by
    intro m
    induction m with
    | zero => rfl
    | succ m ih =>
      rw [List.replicate_succ, Transition.exec_cons, next, hcall]
      exact ih
  obtain ⟨before, repeated, after, hcalls, hattempted⟩ := h
  have hall : ∀ c ∈ before ++ repeated :: after, c = call := by
    rw [← hcalls]
    exact fun c hc => List.eq_of_mem_replicate hc
  have hbefore : before = List.replicate before.length call :=
    List.eq_replicate_iff.2 ⟨rfl, fun c hc => hall c (List.mem_append_left _ hc)⟩
  have hrepeated : repeated = call := hall repeated (List.mem_append_right _ List.mem_cons_self)
  rw [hrepeated, hbefore, hkeeps, hcall] at hattempted
  exact List.mem_singleton.1 hattempted

/-- Each call attempts the jobs that it is for, the earliest first and each once, up to the first that is refused. In a run without a
refused job, every job that stays due is attempted once the limits of the calls sum up to more than the jobs ahead of it. -/
theorem due_jobs_attempted (store : Store) :
    (∀ call : Call, ((firstDue call store).Pairwise fun a b => dueKey a ≤ dueKey b) ∧
      UpToRefusal call.attempts (firstDue call store) (runDueRouteUpdateJobs call store) ∧
      (runDueRouteUpdateJobs call store).attempted.Nodup) ∧
    ∀ calls : List Call, Transition.Along next Unrefused store calls → ∀ job ∈ store.jobs, (∀ call ∈ calls, isDue call.now job = true) →
      ahead job store < (calls.map Call.limit).sum → AttemptedIn store calls job.id :=
  ⟨fun call => ⟨(sorted_dueJobs call.now store).sublist (List.take_sublist _ _),
      upToRefusal_runJobs call.attempts (firstDue call store) store, nodup_attempted call store⟩,
    fun _ hrun _ hstored hdue hahead => attemptedIn_of_ahead hrun hstored hdue hahead⟩

/-! ## A failing job -/

namespace DueExample

/-- A daily job of a route. -/
def daily (id : Text) (named : id ≠ [] ∧ strip id = id) (nextRun : Time) : Job where
  id := id
  named := named
  routeId := "Fast".toList
  enabled := true
  schedule := some ⟨1, .days, by decide⟩
  nextRunAt := some nextRun
  lastRunAt := none
  lastError := none

def first : Job := daily "first".toList (by decide) 1

def second : Job := daily "second".toList (by decide) 2

/-- Two jobs, the first of them due before the second. -/
def stored : Store where
  jobs := [first, second]
  distinct := by decide

theorem dueJobs_stored (now : Time) (h : 2 ≤ now) : dueJobs now stored = [first, second] := by
  have hfirst : isDue now first = true := decide_eq_true (Nat.le_trans (by decide) h)
  have hsecond : isDue now second = true := decide_eq_true h
  have hdue : stored.jobs.filter (isDue now) = [first, second] := by
    rw [stored, List.filter_cons_of_pos hfirst, List.filter_cons_of_pos hsecond, List.filter_nil]
  rw [dueJobs, hdue]
  exact List.mergeSort_of_pairwise (by decide)

/-- A call in which the first job comes to an exception, and the second is done. -/
def failing (error : HttpException) (limit : Nat) (now : Time) : Call where
  now := now
  limit := limit
  attempts := fun id => if id = first.id then ⟨.error error, now, true⟩ else ⟨.ok ["Fast".toList], now, true⟩
  forward := by
    intro id
    split
    · exact Nat.le_refl now
    · exact Nat.le_refl now

/-- The selection of the candidates cannot be reached. -/
def unreachable : HttpException := ⟨502, some "model_selection_failed".toList⟩

/-- The catalog that is stored with the job has too few models. -/
def tooFewModels : HttpException := ⟨422, some "insufficient_model_catalog".toList⟩

/-- A job with a schedule is done, or its catalog is invalid. -/
theorem not_refused {limit : Nat} {now : Time} {job : Job} (h : job.schedule ≠ none) :
    ¬Refused (failing tooFewModels limit now).attempts job := by
  rintro ⟨error, hrun, hcatalog⟩
  obtain ⟨schedule, hschedule⟩ := Option.ne_none_iff_exists'.1 h
  by_cases hid : job.id = first.id
  · simp only [runRouteUpdateJob, failing, hid, if_true] at hrun
    rw [← Except.error.inj hrun] at hcatalog
    exact absurd hcatalog (by decide)
  · simp only [runRouteUpdateJob, failing, hid, if_false, hschedule, if_true] at hrun
    nomatch hrun

end DueExample

open DueExample

/-- Both jobs are due, and the selection fails for the first: the call ends with its exception, and however often it is repeated the second
job is not attempted. -/
theorem failing_job_blocks :
    (firstDue (failing unreachable 20 5) stored).map Job.id = [first.id, second.id] ∧
    (runDueRouteUpdateJobs (failing unreachable 20 5) stored).attempted = [first.id] ∧
    (runDueRouteUpdateJobs (failing unreachable 20 5) stored).outcome = .error unreachable ∧
    ∀ n, ¬AttemptedIn stored (List.replicate n (failing unreachable 20 5)) second.id := by
  have hfirst : firstDue (failing unreachable 20 5) stored = [first, second] := by
    rw [firstDue, failing, dueJobs_stored 5 (by decide)]
    rfl
  have hrun : runRouteUpdateJob ((failing unreachable 20 5).attempts first.id) first = .error unreachable := rfl
  have hcall := run_of_first_refused hfirst hrun (by decide)
  refine ⟨by rw [hfirst]; rfl, by rw [hcall], by rw [hcall], fun n h => ?_⟩
  exact absurd (only_first_attempted hfirst ⟨unreachable, hrun, by decide⟩ n h) (by decide)

/-- The catalog of the first job is invalid, and each call is for one job: the second call attempts the second job. -/
theorem second_job_attempted :
    AttemptedIn stored [failing tooFewModels 1 5, failing tooFewModels 1 6] second.id := by
  have hfirst : firstDue (failing tooFewModels 1 5) stored = [first] := by
    rw [firstDue, failing, dueJobs_stored 5 (by decide)]
    rfl
  have hnext : (next stored (failing tooFewModels 1 5)).jobs =
      [{ first with enabled := false, nextRunAt := none, lastError := some tooFewModels }, second] := by
    rw [next, runDueRouteUpdateJobs, hfirst]
    rfl
  have hbefore : Unrefused stored (failing tooFewModels 1 5) := by
    intro job hjob
    rw [hfirst, List.mem_singleton] at hjob
    rw [hjob]
    exact not_refused (by decide)
  have hafter : Unrefused (next stored (failing tooFewModels 1 5)) (failing tooFewModels 1 6) := by
    intro job hjob
    have hmem := (mem_dueJobs.1 (List.take_subset _ _ hjob)).1
    rw [hnext] at hmem
    refine not_refused ?_
    rcases List.mem_cons.1 hmem with rfl | hmem
    · decide
    · rw [List.mem_singleton.1 hmem]
      decide
  refine (due_jobs_attempted stored).2 [failing tooFewModels 1 5, failing tooFewModels 1 6] ⟨hbefore, hafter, trivial⟩ second (by decide)
    ?_ (by decide)
  intro call hcall
  rcases List.mem_cons.1 hcall with rfl | hcall
  · rfl
  · rw [List.mem_singleton.1 hcall]
    rfl

end RouteUpdate

end PromptRail
