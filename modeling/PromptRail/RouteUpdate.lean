import PromptRail.Library.PyText
import Mathlib.Data.List.Nodup
import Mathlib.Data.List.Sort

/-!
# Scheduled updates of routes (`lerouter_modal_api.py`)

A job of a route is due from its `nextRunAt` on. A call attempts the jobs that are due, the earliest first and up to a limit. A job whose
catalog is invalid is disabled; any other failure of a job ends the call.
-/

namespace PromptRail

open PyText (Text strip)

namespace RouteUpdate

/-- A point in time; the texts that `isoformat` prints of times are ordered as the times are. -/
abbrev Time := Nat

/-! ## Jobs -/

/-- An `HTTPException`: its status, and the `error` of its detail where that is a dictionary. -/
structure HttpException where
  statusCode : Nat
  error : Option Text
deriving DecidableEq

/-- `ROUTE_UPDATE_CATALOG_ERROR_CODES`. -/
def routeUpdateCatalogErrorCodes : List Text :=
  ["model_catalog_required".toList, "insufficient_model_catalog".toList, "invalid_hydrated_model_catalog".toList]

/-- `is_invalid_route_update_catalog_error`. -/
def isInvalidRouteUpdateCatalogError (error : HttpException) : Bool :=
  error.statusCode == 422 && error.error.any routeUpdateCatalogErrorCodes.contains

/-- The unit of an interval. -/
inductive IntervalUnit where
  | minutes
  | hours
  | days
deriving DecidableEq

def IntervalUnit.seconds : IntervalUnit → Nat
  | .minutes => 60
  | .hours => 3600
  | .days => 86400

/-- An interval that `parse_schedule_interval` accepts. -/
structure Schedule where
  value : Nat
  unit : IntervalUnit
  positive : 0 < value
deriving DecidableEq

/-- A stored job, under the id that `save_route_update_job` has given it; without a schedule where `parse_schedule_interval` refuses it. -/
structure Job where
  id : Text
  named : id ≠ [] ∧ strip id = id
  routeId : Text
  enabled : Bool
  schedule : Option Schedule
  nextRunAt : Option Time
  lastRunAt : Option Time
  lastError : Option HttpException
deriving DecidableEq

/-- The stored jobs, in the order of the names of their files. -/
structure Store where
  jobs : List Job
  distinct : (jobs.map Job.id).Nodup

/-- The jobs with one of them replaced. -/
def replaceJob (job : Job) (jobs : List Job) : List Job := jobs.map fun stored => if stored.id = job.id then job else stored

theorem ids_replaceJob (job : Job) (jobs : List Job) : (replaceJob job jobs).map Job.id = jobs.map Job.id := by
  rw [replaceJob, List.map_map]
  refine List.map_congr_left fun stored _ => ?_
  rw [Function.comp_apply]
  split
  · rename_i h
    exact h.symm
  · rfl

/-- Write the file of a job. -/
def Store.write (store : Store) (job : Job) : Store where
  jobs := replaceJob job store.jobs
  distinct := by
    rw [ids_replaceJob]
    exact store.distinct

/-- What running a job comes to: the routes that are updated, or the exception that its catalog, its candidates or their pool raise; when
it is done; and whether the stored job was found. -/
structure Attempt where
  work : Except HttpException (List Text)
  finishedAt : Time
  matched : Bool

/-- An entry of the results. -/
inductive Result where
  | updated (id routeId : Text) (updatedRoutes : List Text) (nextRunAt : Time)
  | failed (id routeId : Text) (error : HttpException)
deriving DecidableEq

/-- The job that an entry is about. -/
def Result.id : Result → Text
  | .updated id _ _ _ => id
  | .failed id _ _ => id

/-- `run_route_update_job`. -/
def runRouteUpdateJob (attempt : Attempt) (job : Job) : Except HttpException (Job × Result) :=
  match attempt.work, job.schedule with
  | .error error, _ => .error error
  | .ok _, none => .error ⟨400, none⟩
  | .ok updatedRoutes, some schedule =>
    let nextRun := attempt.finishedAt + schedule.value * schedule.unit.seconds
    if attempt.matched then
      .ok ({ job with lastRunAt := some attempt.finishedAt, nextRunAt := some nextRun }, .updated job.id job.routeId updatedRoutes nextRun)
    else .error ⟨409, some "route_update_job_state_missing".toList⟩

/-- `disable_invalid_route_update_job`. -/
def disableInvalidRouteUpdateJob (job : Job) (error : HttpException) : Except HttpException (Job × Result) :=
  if strip job.id = [] then .error ⟨500, some "route_update_job_id_missing".toList⟩
  else .ok ({ job with enabled := false, nextRunAt := none, lastError := some error }, .failed (strip job.id) job.routeId error)

/-! ## Calls -/

/-- A job is enabled, and its time has come. -/
def isDue (now : Time) (job : Job) : Bool := job.enabled && job.nextRunAt.all fun nextRun => decide (nextRun ≤ now)

/-- What the jobs are sorted by: a job without a time is the first. -/
def dueKey (job : Job) : Nat := job.nextRunAt.elim 0 (· + 1)

/-- The jobs that are due, the earliest first. -/
def dueJobs (now : Time) (store : Store) : List Job :=
  (store.jobs.filter (isDue now)).mergeSort fun a b => decide (dueKey a ≤ dueKey b)

/-- A call, with what running each of the jobs would come to; no attempt is done before the call begins. -/
structure Call where
  now : Time
  limit : Nat := 20
  attempts : Text → Attempt
  forward : ∀ id, now ≤ (attempts id).finishedAt

/-- The jobs that a call is for. -/
def firstDue (call : Call) (store : Store) : List Job := (dueJobs call.now store).take call.limit

/-- What a call leaves: the jobs, the ids of those that were attempted, and the results or the exception that has ended it. -/
structure CallResult where
  store : Store
  attempted : List Text
  outcome : Except HttpException (List Result)

/-- The attempt of one job of a call. -/
def attemptJob (attempts : Text → Attempt) (job : Job) : Except HttpException (Job × Result) :=
  match runRouteUpdateJob (attempts job.id) job with
  | .ok done => .ok done
  | .error error => if isInvalidRouteUpdateCatalogError error then disableInvalidRouteUpdateJob job error else .error error

/-- The loop of `run_due_route_update_jobs`. -/
def runJobs (attempts : Text → Attempt) : List Job → Store → CallResult
  | [], store => { store, attempted := [], outcome := .ok [] }
  | job :: jobs, store =>
    match attemptJob attempts job with
    | .error error => { store, attempted := [job.id], outcome := .error error }
    | .ok (done, result) =>
      { store := (runJobs attempts jobs (store.write done)).store
        attempted := job.id :: (runJobs attempts jobs (store.write done)).attempted
        outcome := (runJobs attempts jobs (store.write done)).outcome.map (result :: ·) }

/-- `run_due_route_update_jobs`. -/
def runDueRouteUpdateJobs (call : Call) (store : Store) : CallResult := runJobs call.attempts (firstDue call store) store

/-- The jobs after a call. -/
def next (store : Store) (call : Call) : Store := (runDueRouteUpdateJobs call store).store

end RouteUpdate

end PromptRail
