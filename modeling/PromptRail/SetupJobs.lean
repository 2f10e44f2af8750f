import PromptRail.CandidateSelection
import PromptRail.Library.Collection
import PromptRail.Library.Concurrent
import PromptRail.Library.JsonText

/-!
# Setup jobs (`lerouter_modal_api.py`)

A setup is a job: one request writes its record to a file and to a collection and hands it to a worker, the worker selects the candidate
pools and writes how this ended, and other requests read the record or run the job themselves. A file may be missing or cut off, the
collection may not answer, and a container may stop. Each access to a file or the collection is one turn of its thread.
-/

namespace PromptRail

namespace SetupJobs

open PyText (Text strip)
open Json (Fields Value truthy)
open Accounting (field)
open CandidateSelection (assign requireExplicitModelCatalog)
open Concurrent (Program World Action)
open Table (Dict)

/-! ## Errors -/

/-- The environment, with what the regular expressions and the secrets of `redact_sensitive` make of a text. -/
structure Env extends CandidateSelection.Env where
  redactText : Text → Text

section Redaction

variable (env : Env)

/-- `str(key).lower().replace("-", "_")`. -/
def normalizedKey (key : String) : Text := (env.base.lower key.toList).map fun c => if c = '-' then '_' else c

/-- The markers of a key whose value is not shown. -/
def sensitiveMarkers : List String := ["authorization", "api_key", "secret", "token", "password"]

def isSensitiveKey (key : String) : Bool := sensitiveMarkers.any fun marker => decide (marker.toList <:+: normalizedKey env key)

/-- What stands in place of a value that is not shown. -/
def redacted : Value := .str "<redacted>".toList

mutual

/-- `redact_sensitive`. -/
def redactSensitive : Value → Value
  | .obj fields => .obj (redactFields fields)
  | .arr items => .arr (redactItems items)
  | .str text => .str (env.redactText text)
  | value => value

def redactItems : List Value → List Value
  | [] => []
  | item :: items => redactSensitive item :: redactItems items

def redactFields : List (String × Value) → List (String × Value)
  | [] => []
  | (key, item) :: fields => (key, if isSensitiveKey env key then redacted else redactSensitive item) :: redactFields fields

end

/-- An exception: its class, its text, and its `detail` if it has one. -/
structure Failure where
  type : Text
  message : Text
  detail : Value := .null

/-- `json.loads(detail) if isinstance(detail, str) else detail`. -/
def parsedDetail : Value → Value
  | .str text => (Json.loads text).getD (.str text)
  | detail => detail

/-- `job_error_payload`. -/
def jobErrorPayload (failure : Failure) : Fields :=
  [("type", .str failure.type), ("message", .str ((env.redactText failure.message).take 1000)),
    ("detail", redactSensitive env (parsedDetail failure.detail))]

end Redaction

/-! ## Requests -/

/-- `RouteSetupRequest`. -/
structure RouteSetupRequest where
  userId : Option Text
  routeId : Text
  routes : Fields
  modelCatalog : Option (List Value)
  candidatesPerRoute : Int
  metadata : Fields
  updateSchedule : Option Text

/-- A text or `None`. -/
def optText (text : Option Text) : Value := text.elim .null .str

/-- `model_dump_compat`. -/
def RouteSetupRequest.dump (body : RouteSetupRequest) : Fields :=
  [("user_id", optText body.userId), ("route_id", .str body.routeId), ("routes", .obj body.routes),
    ("model_catalog", body.modelCatalog.elim .null .arr), ("candidates_per_route", .int body.candidatesPerRoute),
    ("metadata", .obj body.metadata), ("update_schedule", optText body.updateSchedule)]

def minUserRoutes : Nat := 5

def maxUserRoutes : Nat := 7

/-- What a setup is refused with. -/
inductive SetupRefusal where
  | routesRequired
  | insufficientRoutes (routeCount : Nat)
  | tooManyRoutes (routeCount : Nat)
  | nonUserRoutesRejected (routes : List Text)
  | catalogRefused (refusal : CandidateSelection.Refusal)

/-- `route_names`. -/
def routeNames (routes : Fields) : List Text := (routes.map fun p => strip p.1.toList).filter (· ≠ [])

/-- A name that a test gives its routes. -/
def isSmokeRoute (env : Env) (routeName : Text) : Bool :=
  decide ("smoke".toList <:+: env.base.lower routeName) || "lerouter_setup_job".toList.isPrefixOf (env.base.lower routeName)

/-- `require_setup_inputs`. -/
def requireSetupInputs (env : Env) (body : RouteSetupRequest) : Except SetupRefusal Unit :=
  let names := routeNames body.routes
  if body.routes = [] then .error .routesRequired
  else if names.length < minUserRoutes then .error (.insufficientRoutes names.length)
  else if maxUserRoutes < names.length then .error (.tooManyRoutes names.length)
  else if names.any (isSmokeRoute env) then .error (.nonUserRoutesRejected (names.filter (isSmokeRoute env)))
  else
    match requireExplicitModelCatalog (body.modelCatalog.elim .null .arr) with
    | .error refusal => .error (.catalogRefused refusal)
    | .ok _ => .ok ()

/-- `{**body.metadata, "source": .., "candidate_pool_source": ..}`. -/
def setupMetadata (metadata : Fields) : Fields :=
  let source := if truthy (field metadata "source") then field metadata "source" else .str "agent_setup_job".toList
  assign metadata [("source", source), ("candidate_pool_source", .str "modal_model_selector".toList)]

/-- The record of a job that is created. -/
def jobRecord (body : RouteSetupRequest) (jobId now : Text) : Fields :=
  [("id", .str jobId), ("status", .str "queued".toList), ("userId", optText body.userId), ("routeId", .str body.routeId),
    ("routes", .obj body.routes), ("candidatesPerRoute", .int body.candidatesPerRoute), ("payload", .obj body.dump),
    ("result", .null), ("error", .null), ("createdAt", .str now), ("updatedAt", .str now), ("startedAt", .null),
    ("finishedAt", .null)]

/-! ## Files -/

/-- `[A-Za-z0-9_.=-]`. -/
def isStoreChar (c : Char) : Bool :=
  ('A' ≤ c ∧ c ≤ 'Z') || ('a' ≤ c ∧ c ≤ 'z') || ('0' ≤ c ∧ c ≤ '9') || ['_', '.', '=', '-'].contains c

/-- `re.sub(r"[^A-Za-z0-9_.=-]+", "_", text)`; the flag says that the last character was replaced. -/
def replaceRuns : Bool → Text → Text
  | _, [] => []
  | replaced, c :: text =>
    if isStoreChar c then c :: replaceRuns false text
    else if replaced then replaceRuns true text
    else '_' :: replaceRuns true text

/-- `safe_store_key`, of a text. -/
def safeStoreKey (value : Text) : Text := (replaceRuns false (if value = [] then "none".toList else value)).take 180

/-- `job_file_path`, within its directory. -/
def jobFilePath (jobId : Text) : Text := safeStoreKey jobId

/-- How writing a file ends: it is written; it fails with the new content in the file, with the file cut off, or with the old one. -/
inductive Write where
  | written
  | late
  | torn
  | untouched
deriving DecidableEq

/-- The files of the jobs by their paths, the rows of `candidate_selection_jobs`, and what has been handed to the worker. -/
structure Store where
  files : Dict Text Fields := ∅
  rows : List Fields := []
  spawned : List Fields := []

/-- `read_json_file`, of a file that can be read or not. -/
def Store.readJsonFile (store : Store) (path : Text) (readable : Bool) : Option Fields :=
  if readable then store.files.lookup path else none

/-- `write_json_file`: the store after it. A file that is cut off is no JSON, and is read as no file. -/
def Store.writeJsonFile (store : Store) (path : Text) (payload : Fields) : Write → Store
  | .written | .late => { store with files := store.files.insert path payload }
  | .torn => { store with files := store.files.erase path }
  | .untouched => store

/-! ## Jobs -/

/-- `compact_job_doc`. -/
def compactJobDoc (row : Option Fields) : Option Fields :=
  (row.filter (· ≠ [])).map fun row => row.filter (·.1 ≠ "_id")

/-- A row is that of a user; without one, any row is. -/
def isOf (user : Option Text) (row : Fields) : Bool :=
  match user with
  | none | some [] => true
  | some user => CandidateSelection.isText user (field row "userId")

/-- `{"id": job_id}`. -/
def hasId (jobId : Text) (row : Fields) : Bool := CandidateSelection.isText jobId (field row "id")

/-- What a job is updated with. -/
inductive Update where
  | dispatching (job : Fields) (now : Text)
  | running (row : Fields) (now : Text)
  | succeeded (result : Fields) (finished : Text)
  | failed (failure : Failure) (finished : Text)

/-- The fields of an update. -/
def Update.fields (env : Env) : Update → Fields
  | .dispatching _ now => [("status", .str "dispatching".toList), ("updatedAt", .str now)]
  | .running row now =>
    [("status", .str "running".toList),
      ("startedAt", if truthy (field row "startedAt") then field row "startedAt" else .str now), ("updatedAt", .str now),
      ("error", .null)]
  | .succeeded result finished =>
    [("status", .str "succeeded".toList), ("result", .obj result), ("error", .null), ("updatedAt", .str finished),
      ("finishedAt", .str finished)]
  | .failed failure finished =>
    [("status", .str "failed".toList), ("error", .obj (jobErrorPayload env failure)), ("updatedAt", .str finished),
      ("finishedAt", .str finished)]

/-- What a record is loaded for. -/
inductive Load where
  | spawn (job : Fields)
  | poll
  | check
  | process
  | finished (result : Fields)

/-- What a request is answered. -/
inductive Answer where
  | job (row : Fields)
  | refused (refusal : SetupRefusal)
  | notFound
  | runnerUnavailable
  | raised

/-- Where a thread stands: what it does in its next turn. -/
inductive Stage where
  | inserting (job : Fields)
  | insertingRow (job : Fields)
  | updating (update : Update)
  | writing (update : Update) (row : Fields)
  | updatingRow (update : Update)
  | loading (load : Load)
  | loadingRow (load : Load)
  | spawning (job : Fields)
  | accepting (n : Nat)
  | working (row : Fields)
  | ended (answer : Answer)

/-- A thread: the user and the job of its call, and where it stands. -/
structure Thread where
  user : Option Text := none
  jobId : Text := []
  stage : Stage

def Thread.at (thread : Thread) (stage : Stage) : Thread := { thread with stage }

/-- The calls: `create_agent_setup_job`, `run_candidate_selection_job` on what was handed over, `get_agent_setup_job` and
`run_agent_setup_job_endpoint`. -/
inductive Call where
  | create (body : RouteSetupRequest) (jobId now : Text)
  | work (n : Nat)
  | get (jobId : Text) (user : Option Text)
  | run (jobId : Text) (user : Option Text)

/-- What a turn is told from outside: whether a file can be read, how a write ends and the error if it fails, whether the collection
answers and the row identifier it draws, whether there is a worker and it takes a job, the time, and what the work has met. -/
structure Input (ω : Type) where
  readable : Bool := true
  write : Write := .written
  error : Failure := { type := "OSError".toList, message := [] }
  answers : Bool := true
  rowId : Text := []
  runner : Bool := true
  spawns : Bool := true
  now : Text := []
  met : ω

/-- What a job does between its two updates: from its identifier and its payload, and what it meets. -/
abbrev Work (ω : Type) := Text → Value → ω → Except Failure Fields

/-- Where a call starts. -/
def start (env : Env) : Call → Thread
  | .create body jobId now =>
    match requireSetupInputs env body with
    | .error refusal => { user := body.userId, jobId, stage := .ended (.refused refusal) }
    | .ok () =>
      { user := body.userId, jobId, stage := .inserting (jobRecord { body with metadata := setupMetadata body.metadata } jobId now) }
  | .work n => { stage := .accepting n }
  | .get jobId user => { user, jobId, stage := .loading .poll }
  | .run jobId user => { user, jobId, stage := .loading .check }

/-- `process_candidate_selection_job`, from the record it works on. -/
def beginWork (now : Text) (row : Fields) : Stage :=
  if CandidateSelection.isText "succeeded".toList (field row "status") then .ended (.job ((compactJobDoc (some row)).getD row))
  else .updating (.running row now)

/-- What follows a record that was loaded, or none. -/
def loaded (jobId now : Text) (row : Option Fields) : Load → Stage
  | .spawn job => .spawning ((row.filter (· ≠ [])).getD job)
  | .poll =>
    match row.filter (· ≠ []) with
    | none => .ended .notFound
    | some row => .ended (.job row)
  | .check =>
    match row.filter (· ≠ []) with
    | none => .ended .notFound
    | some _ => .loading .process
  | .process =>
    match row.filter (· ≠ []) with
    | none => .ended .raised
    | some row => beginWork now row
  | .finished result =>
    .ended (.job (((compactJobDoc row).filter (· ≠ [])).getD
      [("id", .str jobId), ("status", .str "succeeded".toList), ("result", .obj result)]))

/-- Who the user of a load is: the ones of a job that runs look for any. -/
def Load.user (user : Option Text) : Load → Option Text
  | .spawn _ | .poll | .check => user
  | .process | .finished _ => none

/-- What follows an update. -/
def updated : Update → Stage
  | .dispatching job _ => .loading (.spawn job)
  | .running row _ => .working row
  | .succeeded result _ => .loading (.finished result)
  | .failed _ _ => .ended .raised

/-- What follows an update that could not be written. -/
def notWritten (error : Failure) (now : Text) : Update → Stage
  | .succeeded _ _ => .updating (.failed error now)
  | .dispatching _ _ | .running _ _ | .failed _ _ => .ended .raised

/-- One turn. -/
def turn {ω : Type} (env : Env) (work : Work ω) (store : Store) (thread : Thread) (told : Input ω) : Store × Thread :=
  match thread.stage with
  | .inserting job =>
    (store.writeJsonFile (jobFilePath thread.jobId) job told.write,
      thread.at (if told.write = .written then .insertingRow job else .ended .raised))
  | .insertingRow job =>
    (if told.answers then { store with rows := store.rows ++ [job ++ [("_id", .str told.rowId)]] } else store,
      thread.at (if told.runner then .updating (.dispatching ((compactJobDoc (some job)).getD job) told.now)
        else .ended .runnerUnavailable))
  | .updating update =>
    (store, thread.at (.writing update
      (((store.readJsonFile (jobFilePath thread.jobId) told.readable).filter (· ≠ [])).getD [("id", .str thread.jobId)])))
  | .writing update row =>
    (store.writeJsonFile (jobFilePath thread.jobId) (assign row (update.fields env)) told.write,
      thread.at (if told.write = .written then .updatingRow update else notWritten told.error told.now update))
  | .updatingRow update =>
    (if told.answers then
      { store with rows := Collection.updateOne (hasId thread.jobId) (assign · (update.fields env)) store.rows } else store,
      thread.at (updated update))
  | .loading load =>
    (store,
      match (store.readJsonFile (jobFilePath thread.jobId) told.readable).filter fun row =>
          row = [] || isOf (load.user thread.user) row with
      | some row => thread.at (loaded thread.jobId told.now (compactJobDoc (some row)) load)
      | none => thread.at (.loadingRow load))
  | .loadingRow load =>
    (store, thread.at (loaded thread.jobId told.now
      (compactJobDoc (if told.answers then
        store.rows.find? fun row => hasId thread.jobId row && isOf (load.user thread.user) row else none)) load))
  | .spawning job =>
    if told.spawns then ({ store with spawned := store.spawned ++ [job] }, thread.at (.ended (.job job)))
    else (store, thread.at (.ended .raised))
  | .accepting n =>
    (store,
      match store.spawned[n]? with
      | none => thread
      | some job => { thread with
          jobId := Accounting.pyStr env.base.toEnv (field job "id")
          stage := if job = [] then .loading .process else beginWork told.now job })
  | .working row =>
    (store, thread.at (.updating
      (match work thread.jobId (if truthy (field row "payload") then field row "payload" else .obj []) told.met with
        | .ok result => .succeeded result told.now
        | .error failure => .failed failure told.now)))
  | .ended _ => (store, thread)

/-- The system: threads of the calls over the files, the collection and the worker. A thread that halts has raised. -/
def system {ω : Type} (env : Env) (work : Work ω) : Program Store Call Thread (Input ω) Empty where
  start := start env
  turn := turn env work
  halt := fun thread => thread.at (.ended .raised)
  happen := fun store _ => store

abbrev State := World Store Thread

abbrev Event (ω : Type) := Action Call (Input ω) Empty

end SetupJobs

end PromptRail
