import PromptRail.CandidateSelection.Catalog
import PromptRail.Library.Transition
import PromptRail.SetupJobs

/-!
# What a record of a job says

Every record in a file, in the collection or in an answer is about the job that was created under its path: what an update does not
write is as it was created, a result is what the work makes of the payload of that job, and an error is redacted. No order of the turns,
no file that is lost and no thread that halts changes this.
-/

namespace PromptRail

namespace SetupJobs

open PyText (Text)
open Json (Fields Value truthy)
open Accounting (field field_set)
open CandidateSelection (assign)
open Concurrent (World Action EveryThread)
open Transition (Throughout)

variable {ω : Type} (env : Env) (work : Work ω)

/-! ## Values that are redacted -/

mutual

/-- Under a key that is sensitive stands no value. -/
def Redacted : Value → Prop
  | .obj fields => RedactedFields fields
  | .arr items => RedactedItems items
  | _ => True

def RedactedItems : List Value → Prop
  | [] => True
  | item :: items => Redacted item ∧ RedactedItems items

def RedactedFields : List (String × Value) → Prop
  | [] => True
  | (key, item) :: fields => (if isSensitiveKey env key then item = redacted else Redacted item) ∧ RedactedFields fields

end

mutual

theorem redacted_redactSensitive (value : Value) : Redacted env (redactSensitive env value) := by
  cases value with
  | obj fields => exact redactedFields_redactFields fields
  | arr items => exact redactedItems_redactItems items
  | _ => trivial

theorem redactedItems_redactItems (items : List Value) : RedactedItems env (redactItems env items) := by
  cases items with
  | nil => trivial
  | cons item items => exact ⟨redacted_redactSensitive item, redactedItems_redactItems items⟩

theorem redactedFields_redactFields (fields : List (String × Value)) : RedactedFields env (redactFields env fields) := by
  cases fields with
  | nil => trivial
  | cons p fields =>
    obtain ⟨key, item⟩ := p
    refine ⟨?_, redactedFields_redactFields fields⟩
    split
    · rfl
    · exact redacted_redactSensitive item

end

/-! ## Records -/

/-- The fields of a record that no update writes. -/
def fixedFields : List String := ["userId", "routeId", "routes", "candidatesPerRoute", "payload", "createdAt"]

/-- A result is what the work makes of the payload of a job, or of no payload where the record has lost it. -/
def Made (job : Fields) (path : Text) (result : Fields) : Prop :=
  ∃ jobId payload met, jobFilePath jobId = path ∧ (payload = field job "payload" ∨ payload = .obj []) ∧
    work jobId payload met = .ok result

/-- A record is about the job that was created under its path. -/
structure Record (job : Fields) (path : Text) (row : Fields) : Prop where
  id : ∃ jobId, field row "id" = .str jobId ∧ jobFilePath jobId = path
  fixed : ∀ name ∈ fixedFields, field row name = .null ∨ field row name = field job name
  result : field row "result" = .null ∨ ∃ result, field row "result" = .obj result ∧ Made work job path result
  succeeded : field row "status" = .str "succeeded".toList → field row "result" ≠ .null ∧ field row "error" = .null
  failed : field row "status" = .str "failed".toList → ∃ error, field row "error" = .obj error ∧ Redacted env (field error "detail")
  running : field row "status" = .str "running".toList → field row "error" = .null

/-- The records that a run creates, each under the path of its file. -/
def creations (as : List (Event ω)) : List (Text × Fields) :=
  as.filterMap fun
    | .begin _ (.create body jobId now) =>
      some (jobFilePath jobId, jobRecord { body with metadata := setupMetadata body.metadata } jobId now)
    | _ => none

/-- A record about a job that was created. -/
def Stored (created : List (Text × Fields)) (path : Text) (row : Fields) : Prop :=
  ∃ job, created.lookup path = some job ∧ Record env work job path row

variable {env work} {job row row' : Fields} {path jobId : Text}

/-- A record that says the same is about the same job; what a database adds does not count. -/
theorem Record.congr (h : Record env work job path row) (hsame : ∀ name, name ≠ "_id" → field row' name = field row name) :
    Record env work job path row' where
  id := by rw [hsame "id" (by decide)]; exact h.id
  fixed := by
    intro name hname
    rw [hsame name (by rintro rfl; exact absurd hname (by decide))]
    exact h.fixed name hname
  result := by rw [hsame "result" (by decide)]; exact h.result
  succeeded := by
    rw [hsame "status" (by decide), hsame "result" (by decide), hsame "error" (by decide)]
    exact h.succeeded
  failed := by
    rw [hsame "status" (by decide), hsame "error" (by decide)]
    exact h.failed
  running := by
    rw [hsame "status" (by decide), hsame "error" (by decide)]
    exact h.running

theorem field_without (row : Fields) {name : String} (h : name ≠ "_id") :
    field (row.filter (·.1 ≠ "_id")) name = field row name := by
  unfold field Json.get?
  rw [List.find?_filter]
  congr 3
  funext p
  by_cases hp : p.1 = name
  · simp [hp, h]
  · simp [hp]

theorem field_with (row : Fields) (rowId : Text) {name : String} (h : name ≠ "_id") :
    field (row ++ [("_id", .str rowId)]) name = field row name := by
  unfold field Json.get?
  rw [List.find?_append]
  cases row.find? fun p => p.1 == name with
  | none => simp [Ne.symm h]
  | some p => rfl

/-- The record of a job as it is shown. -/
theorem Record.compact (h : Record env work job path row) : Record env work job path ((compactJobDoc (some row)).getD row) := by
  unfold compactJobDoc
  by_cases hrow : row = []
  · subst hrow
    exact h
  · simp only [Option.filter_some, decide_eq_true_eq, ne_eq, hrow, not_false_eq_true, if_true, Option.map_some, Option.getD_some]
    exact h.congr fun name hname => field_without row hname

/-- A record that has lost everything but its identifier. -/
theorem Record.bare (h : jobFilePath jobId = path) : Record env work job path [("id", .str jobId)] where
  id := ⟨jobId, rfl, h⟩
  fixed := by
    intro name hname
    left
    have hid : "id" ≠ name := by
      rintro rfl
      exact absurd hname (by decide)
    simp [field, Json.get?, hid]
  result := Or.inl rfl
  succeeded := by
    intro h
    cases h
  failed := by
    intro h
    cases h
  running := by
    intro h
    cases h

/-- What is answered where the record of a job that has succeeded is not found. -/
theorem Record.answered {result : Fields} (h : Made work job path result) (hpath : jobFilePath jobId = path) :
    Record env work job path [("id", .str jobId), ("status", .str "succeeded".toList), ("result", .obj result)] where
  id := ⟨jobId, rfl, hpath⟩
  fixed := by
    intro name hname
    have hid : "id" ≠ name := by
      rintro rfl
      exact absurd hname (by decide)
    have hstatus : "status" ≠ name := by
      rintro rfl
      exact absurd hname (by decide)
    have hresult : "result" ≠ name := by
      rintro rfl
      exact absurd hname (by decide)
    left
    simp [field, Json.get?, hid, hstatus, hresult]
  result := Or.inr ⟨result, rfl, h⟩
  succeeded := by
    intro _
    exact ⟨by rintro ⟨⟩, rfl⟩
  failed := fun h => absurd (Value.str.inj h) (by decide)
  running := fun h => absurd (Value.str.inj h) (by decide)

/-- The record that a request creates. -/
theorem Record.created (body : RouteSetupRequest) (jobId now : Text) :
    Record env work (jobRecord body jobId now) (jobFilePath jobId) (jobRecord body jobId now) where
  id := ⟨jobId, rfl, rfl⟩
  fixed := fun _ _ => Or.inr rfl
  result := Or.inl rfl
  succeeded := fun h => absurd (Value.str.inj h) (by decide)
  failed := fun h => absurd (Value.str.inj h) (by decide)
  running := fun h => absurd (Value.str.inj h) (by decide)

/-! ## Updates -/

/-- An update that is about the job of a path. -/
def Fits (env : Env) (work : Work ω) (job : Fields) (path : Text) : Update → Prop
  | .dispatching row _ | .running row _ => Record env work job path row
  | .succeeded result _ => Made work job path result
  | .failed _ _ => True

/-- A field that an update does not write. -/
theorem field_update_of_not_mem (row : Fields) (update : Update) {name : String}
    (h : name ∉ ["status", "startedAt", "updatedAt", "error", "result", "finishedAt"]) :
    field (assign row (update.fields env)) name = field row name := by
  simp only [List.mem_cons, List.not_mem_nil, or_false, not_or] at h
  obtain ⟨hstatus, hstarted, hupdated, herror, hresult, hfinished⟩ := h
  cases update <;>
    simp [assign, Update.fields, field_set, Ne.symm hstatus, Ne.symm hstarted, Ne.symm hupdated, Ne.symm herror, Ne.symm hresult,
      Ne.symm hfinished]

/-- A record that is updated says what the update says, and is about the same job. -/
theorem Record.update (h : Record env work job path row) {update : Update} (hfits : Fits env work job path update) :
    Record env work job path (assign row (update.fields env)) where
  id := by
    rw [field_update_of_not_mem row update (by decide)]
    exact h.id
  fixed := by
    intro name hname
    rw [field_update_of_not_mem row update]
    · exact h.fixed name hname
    · revert name
      decide
  result := by
    cases update with
    | succeeded result finished => exact Or.inr ⟨result, by simp [assign, Update.fields, field_set], hfits⟩
    | _ => simpa [assign, Update.fields, field_set] using h.result
  succeeded := by
    cases update <;> simp [assign, Update.fields, field_set]
  failed := by
    cases update with
    | failed failure finished =>
      intro _
      exact ⟨jobErrorPayload env failure, by simp [assign, Update.fields, field_set], redacted_redactSensitive env _⟩
    | _ => simp [assign, Update.fields, field_set]
  running := by
    cases update <;> simp [assign, Update.fields, field_set]

/-! ## Threads -/

section Threads

variable (env : Env) (work : Work ω) (created : List (Text × Fields))

/-- What a record is loaded for is about the job. -/
def Load.Right (job : Fields) (path : Text) : Load → Prop
  | .spawn row => Record env work job path row
  | .finished result => Made work job path result
  | .poll | .check | .process => True

/-- What a thread is about to do is about the job. -/
def Stage.Right (job : Fields) (path : Text) : Stage → Prop
  | .inserting row | .insertingRow row | .spawning row | .working row | .ended (.job row) => Record env work job path row
  | .updating update | .updatingRow update => Fits env work job path update
  | .writing update row => Fits env work job path update ∧ Record env work job path row
  | .loading load | .loadingRow load => load.Right env work job path
  | .accepting _ => False
  | .ended _ => True

/-- A thread that knows of no job. -/
def Stage.Free (user : Option Text) : Stage → Prop
  | .loading load | .loadingRow load => load = .poll ∨ load = .check
  | .accepting _ => user = none
  | .ended (.job _) => False
  | .ended _ => True
  | .inserting _ | .insertingRow _ | .spawning _ | .working _ | .updating _ | .updatingRow _ | .writing _ _ => False

/-- A thread knows of no job, or it is about the job of its path, and that is a job of its user. -/
def Thread.Right (thread : Thread) : Prop :=
  thread.stage.Free thread.user ∨
    ∃ job, created.lookup (jobFilePath thread.jobId) = some job ∧ isOf thread.user job = true ∧
      thread.stage.Right env work job (jobFilePath thread.jobId)

/-- Every record that is stored or handed over is about a job that was created. -/
structure StoreKept (store : Store) : Prop where
  files : ∀ path row, store.files.lookup path = some row → Stored env work created path row
  rows : ∀ row ∈ store.rows, ∃ path, Stored env work created path row
  spawned : ∀ row ∈ store.spawned, ∃ path, Stored env work created path row

end Threads

variable {created : List (Text × Fields)} {store : Store} {thread : Thread} {user : Option Text}

/-- The user of a record is that of its job. -/
theorem Record.isOf (h : Record env work job path row) (hrow : isOf user row = true) : isOf user job = true := by
  unfold SetupJobs.isOf at hrow ⊢
  split at hrow
  · rfl
  · rfl
  · rcases h.fixed "userId" (by decide) with hnull | hsame
    · rw [hnull] at hrow
      cases hrow
    · rw [← hsame]
      exact hrow

/-- A record is never empty. -/
theorem Record.ne_nil (h : Record env work job path row) : row ≠ [] := by
  rintro rfl
  obtain ⟨jobId, hid, -⟩ := h.id
  cases hid

theorem compactJobDoc_some (h : Record env work job path row) :
    ∃ shown, compactJobDoc (some row) = some shown ∧ Record env work job path shown := by
  refine ⟨row.filter (·.1 ≠ "_id"), ?_, h.congr fun name hname => field_without row hname⟩
  simp [compactJobDoc, h.ne_nil]

theorem filter_ne_nil (h : Record env work job path row) : (some row).filter (· ≠ []) = some row := by
  simp [h.ne_nil]

/-! ### Turns -/

/-- A job that begins to work. -/
theorem right_beginWork (h : Record env work job path row) (now : Text) : (beginWork now row).Right env work job path := by
  unfold beginWork
  split
  · exact h.compact
  · exact h

/-- What follows a record that was found, under the path and for the user of the load. -/
theorem right_loaded {load : Load} {found : Option Fields} (hload : load = .poll ∨ load = .check ∨
      ∃ job, created.lookup (jobFilePath jobId) = some job ∧ isOf user job = true ∧ load.Right env work job (jobFilePath jobId))
    (hfound : ∀ row, found = some row → Stored env work created (jobFilePath jobId) row ∧ isOf (load.user user) row = true)
    (now : Text) : Thread.Right env work created { user, jobId, stage := loaded jobId now (compactJobDoc found) load } := by
  cases found with
  | none =>
    rcases hload with rfl | rfl | ⟨job, hjob, huser, hright⟩
    · exact Or.inl trivial
    · exact Or.inl trivial
    · cases load with
      | spawn row => exact Or.inr ⟨job, hjob, huser, hright⟩
      | poll | check | process => exact Or.inl trivial
      | finished result => exact Or.inr ⟨job, hjob, huser, Record.answered hright rfl⟩
  | some row =>
    obtain ⟨⟨own, hown, hrow⟩, hof⟩ := hfound row rfl
    obtain ⟨shown, hshown, hkept⟩ := compactJobDoc_some hrow
    have hshown' := filter_ne_nil hkept
    rw [hshown]
    have hcompact : ∃ shown', compactJobDoc (some shown) = some shown' ∧ Record env work own (jobFilePath jobId) shown' :=
      compactJobDoc_some hkept
    rcases hload with rfl | rfl | ⟨job, hjob, huser, hright⟩
    · refine Or.inr ⟨own, hown, hrow.isOf hof, ?_⟩
      simp only [loaded, hshown']
      exact hkept
    · refine Or.inr ⟨own, hown, hrow.isOf hof, ?_⟩
      simp only [loaded, hshown']
      trivial
    · obtain rfl : own = job := Option.some.inj (hown.symm.trans hjob)
      refine Or.inr ⟨own, hown, huser, ?_⟩
      cases load with
      | spawn row =>
        simp only [loaded, hshown']
        exact hkept
      | poll =>
        simp only [loaded, hshown']
        exact hkept
      | check =>
        simp only [loaded, hshown']
        trivial
      | process =>
        simp only [loaded, hshown']
        exact right_beginWork hkept now
      | finished result =>
        obtain ⟨shown', heq, hkept'⟩ := hcompact
        simp only [loaded, heq, filter_ne_nil hkept']
        exact hkept'

/-- What follows an update that was written, and one that was not. -/
theorem right_updated {update : Update} (h : Fits env work job path update) : (updated update).Right env work job path := by
  cases update <;> exact h

theorem right_notWritten (update : Update) (error : Failure) (now : Text) : (notWritten error now update).Right env work job path := by
  cases update <;> trivial

/-- A file that is written holds what is written, or nothing, or what it held. -/
theorem StoreKept.write (h : StoreKept env work created store) {path : Text} {row : Fields} (hrow : Stored env work created path row)
    (result : Write) : StoreKept env work created (store.writeJsonFile path row result) := by
  have hinsert : StoreKept env work created { store with files := store.files.insert path row } := by
    refine ⟨fun path' row' hlookup => ?_, h.rows, h.spawned⟩
    rcases Table.of_lookup_insert hlookup with ⟨rfl, rfl⟩ | ⟨-, hold⟩
    · exact hrow
    · exact h.files path' row' hold
  cases result with
  | written => exact hinsert
  | late => exact hinsert
  | torn =>
    refine ⟨fun path' row' hlookup => ?_, h.rows, h.spawned⟩
    have hother : path' ≠ path := by
      rintro rfl
      exact absurd (hlookup.symm.trans (AList.lookup_erase path' store.files)) (by simp)
    exact h.files path' row' ((AList.lookup_erase_ne hother).symm.trans hlookup)
  | untouched => exact h

/-- What is read under a path is a record of its job. -/
theorem StoreKept.read (h : StoreKept env work created store) {readable : Bool} (hrow : store.readJsonFile path readable = some row) :
    Stored env work created path row := by
  unfold Store.readJsonFile at hrow
  split at hrow
  · exact h.files path row hrow
  · cases hrow

theorem eq_of_isText {text : Text} {value : Value} (h : CandidateSelection.isText text value = true) : value = .str text := by
  unfold CandidateSelection.isText at h
  split at h
  · rw [eq_of_beq h]
  · cases h

/-- A row that is found by the identifier of a job is a record under the path of that job. -/
theorem StoreKept.find (h : StoreKept env work created store) (hrow : row ∈ store.rows) (hid : hasId jobId row = true) :
    Stored env work created (jobFilePath jobId) row := by
  obtain ⟨path, job, hjob, hrecord⟩ := h.rows row hrow
  obtain ⟨own, hown, rfl⟩ := hrecord.id
  obtain rfl : own = jobId := Value.str.inj (hown.symm.trans (eq_of_isText hid))
  exact ⟨job, hjob, hrecord⟩

theorem StoreKept.insertRow (h : StoreKept env work created store) {path : Text} (hrow : Stored env work created path row) :
    StoreKept env work created { store with rows := store.rows ++ [row] } := by
  refine ⟨h.files, fun row' hrow' => ?_, h.spawned⟩
  rcases List.mem_append.1 hrow' with hold | hnew
  · exact h.rows row' hold
  · rw [List.mem_singleton.1 hnew]
    exact ⟨path, hrow⟩

theorem StoreKept.spawn (h : StoreKept env work created store) {path : Text} (hrow : Stored env work created path row) :
    StoreKept env work created { store with spawned := store.spawned ++ [row] } := by
  refine ⟨h.files, h.rows, fun row' hrow' => ?_⟩
  rcases List.mem_append.1 hrow' with hold | hnew
  · exact h.spawned row' hold
  · rw [List.mem_singleton.1 hnew]
    exact ⟨path, hrow⟩

/-- An update that fits a job is written into a row of that job. -/
theorem StoreKept.updateRow (h : StoreKept env work created store) {update : Update}
    (hjob : created.lookup (jobFilePath jobId) = some job) (hfits : Fits env work job (jobFilePath jobId) update) :
    StoreKept env work created
      { store with rows := Collection.updateOne (hasId jobId) (assign · (update.fields env)) store.rows } := by
  refine ⟨h.files, fun row' hrow' => ?_, h.spawned⟩
  rcases Collection.mem_updateOne hrow' with hold | ⟨before, hbefore, hid, rfl⟩
  · exact h.rows row' hold
  · obtain ⟨own, hown, hrecord⟩ := h.find hbefore hid
    obtain rfl : own = job := Option.some.inj (hown.symm.trans hjob)
    exact ⟨_, own, hown, hrecord.update hfits⟩

/-- What the work makes of a record is made of the payload of its job. -/
theorem fits_worked (hright : Record env work job (jobFilePath jobId) row) {result : Fields} {met : ω} (now : Text)
    (hresult : work jobId (if truthy (field row "payload") then field row "payload" else .obj []) met = .ok result) :
    Fits env work job (jobFilePath jobId) (.succeeded result now) := by
  refine ⟨jobId, _, met, rfl, ?_, hresult⟩
  split
  · rename_i htruthy
    rcases hright.fixed "payload" (by decide) with hnull | hsame
    · rw [hnull] at htruthy
      cases htruthy
    · exact Or.inl hsame
  · exact Or.inr rfl

/-- One turn of a thread. -/
theorem turn_kept (hstore : StoreKept env work created store) (h : thread.Right env work created) (told : Input ω) :
    StoreKept env work created (turn env work store thread told).1 ∧ (turn env work store thread told).2.Right env work created := by
  obtain ⟨user, jobId, stage⟩ := thread
  cases stage with
  | inserting row =>
    obtain hfree | ⟨job, hjob, huser, hright⟩ := h
    · cases hfree
    refine ⟨hstore.write ⟨job, hjob, hright⟩ told.write, ?_⟩
    simp only [turn]
    split
    · exact Or.inr ⟨job, hjob, huser, hright⟩
    · exact Or.inl trivial
  | insertingRow row =>
    obtain hfree | ⟨job, hjob, huser, hright⟩ := h
    · cases hfree
    constructor
    · simp only [turn]
      split
      · exact hstore.insertRow ⟨job, hjob, hright.congr fun name hname => field_with row told.rowId hname⟩
      · exact hstore
    · simp only [turn]
      split
      · exact Or.inr ⟨job, hjob, huser, hright.compact⟩
      · exact Or.inl trivial
  | updating update =>
    obtain hfree | ⟨job, hjob, huser, hright⟩ := h
    · cases hfree
    refine ⟨hstore, Or.inr ⟨job, hjob, huser, hright, ?_⟩⟩
    cases hread : (store.readJsonFile (jobFilePath jobId) told.readable).filter (· ≠ []) with
    | none => exact Record.bare rfl
    | some row =>
      obtain ⟨own, hown, hrow⟩ := hstore.read (Option.filter_eq_some_iff.1 hread).1
      obtain rfl : own = job := Option.some.inj (hown.symm.trans hjob)
      exact hrow
  | writing update row =>
    obtain hfree | ⟨job, hjob, huser, hfits, hrow⟩ := h
    · cases hfree
    refine ⟨hstore.write ⟨job, hjob, hrow.update hfits⟩ told.write, ?_⟩
    simp only [turn]
    split
    · exact Or.inr ⟨job, hjob, huser, hfits⟩
    · exact Or.inr ⟨job, hjob, huser, right_notWritten update told.error told.now⟩
  | updatingRow update =>
    obtain hfree | ⟨job, hjob, huser, hfits⟩ := h
    · cases hfree
    refine ⟨?_, Or.inr ⟨job, hjob, huser, right_updated hfits⟩⟩
    simp only [turn]
    split
    · exact hstore.updateRow hjob hfits
    · exact hstore
  | loading load =>
    refine ⟨hstore, ?_⟩
    simp only [turn]
    split
    · rename_i row hread
      obtain ⟨hrow, hof⟩ := Option.filter_eq_some_iff.1 hread
      obtain ⟨own, hown, hrecord⟩ := hstore.read hrow
      simp only [hrecord.ne_nil, decide_false, Bool.false_or] at hof
      refine right_loaded (or_assoc.1 h) (fun row' hrow' => ?_) told.now
      cases hrow'
      exact ⟨⟨own, hown, hrecord⟩, hof⟩
    · exact h.imp id id
  | loadingRow load =>
    refine ⟨hstore, ?_⟩
    refine right_loaded (or_assoc.1 h) (fun row hrow => ?_) told.now
    split at hrow
    · have hmem := List.mem_of_find?_eq_some hrow
      have hfound := List.find?_some hrow
      obtain ⟨hid, hof⟩ := Bool.and_eq_true_iff.1 hfound
      exact ⟨hstore.find hmem hid, hof⟩
    · cases hrow
  | spawning row =>
    obtain hfree | ⟨job, hjob, huser, hright⟩ := h
    · cases hfree
    simp only [turn]
    split
    · exact ⟨hstore.spawn ⟨job, hjob, hright⟩, Or.inr ⟨job, hjob, huser, hright⟩⟩
    · exact ⟨hstore, Or.inl trivial⟩
  | accepting n =>
    refine ⟨hstore, ?_⟩
    simp only [turn]
    split
    · exact h
    · rename_i row hrow
      obtain ⟨path, job, hjob, hrecord⟩ := hstore.spawned row (List.mem_of_getElem? hrow)
      obtain ⟨own, hown, rfl⟩ := hrecord.id
      obtain rfl : user = none := by
        obtain hfree | ⟨_, _, _, hright⟩ := h
        · exact hfree
        · cases hright
      rw [hown, if_neg hrecord.ne_nil]
      exact Or.inr ⟨job, hjob, rfl, right_beginWork hrecord told.now⟩
  | working row =>
    obtain hfree | ⟨job, hjob, huser, hright⟩ := h
    · cases hfree
    refine ⟨hstore, Or.inr ⟨job, hjob, huser, ?_⟩⟩
    simp only [turn, Thread.at, Stage.Right]
    split
    · rename_i result hresult
      exact fits_worked hright told.now hresult
    · trivial
  | ended answer => exact ⟨hstore, h⟩

/-! ## Runs -/

/-- A job is one of the user who created it. -/
theorem isOf_created (body : RouteSetupRequest) (jobId now : Text) : isOf body.userId (jobRecord body jobId now) = true := by
  have hfield : field (jobRecord body jobId now) "userId" = optText body.userId := rfl
  unfold isOf
  split
  · rfl
  · rfl
  · rename_i user _ huser
    rw [hfield, huser]
    exact beq_self_eq_true user

/-- A call starts a thread that is about the job it creates, or about none. -/
theorem right_start {call : Call} (h : ∀ body jobId now, call = .create body jobId now → created.lookup (jobFilePath jobId) =
      some (jobRecord { body with metadata := setupMetadata body.metadata } jobId now)) :
    (start env call).Right env work created := by
  cases call with
  | create body jobId now =>
    simp only [start]
    split
    · exact Or.inl trivial
    · exact Or.inr ⟨_, h body jobId now rfl, isOf_created _ jobId now, Record.created _ jobId now⟩
  | work n => exact Or.inl rfl
  | get jobId user => exact Or.inl (Or.inl rfl)
  | run jobId user => exact Or.inl (Or.inr rfl)

/-- With distinct paths, a job that was created is the one that is looked up. -/
theorem lookup_of_mem {pairs : List (Text × Fields)} (hdistinct : (pairs.map Prod.fst).Nodup) {p : Text × Fields} (h : p ∈ pairs) :
    pairs.lookup p.1 = some p.2 := by
  induction pairs with
  | nil => cases h
  | cons first rest ih =>
    obtain ⟨hfirst, hrest⟩ := List.nodup_cons.1 hdistinct
    rcases List.mem_cons.1 h with rfl | hmem
    · rw [List.lookup_cons, beq_self_eq_true]
    · have hne : p.1 ≠ first.1 := fun heq => hfirst (heq ▸ List.mem_map_of_mem hmem)
      rw [List.lookup_cons, beq_eq_false_iff_ne.2 hne]
      exact ih hrest hmem

/-- Every step keeps what the records and the threads say. -/
theorem step_kept {w : State} (a : Event ω) (ha : ∀ t body jobId now, a = .begin t (.create body jobId now) →
      created.lookup (jobFilePath jobId) = some (jobRecord { body with metadata := setupMetadata body.metadata } jobId now))
    (h : StoreKept env work created w.store ∧ EveryThread (Thread.Right env work created) w.threads) :
    StoreKept env work created ((system env work).step w a).store ∧
      EveryThread (Thread.Right env work created) ((system env work).step w a).threads := by
  obtain ⟨hstore, hthreads⟩ := h
  rcases (system env work).step_cases w a with ⟨-, hs⟩ | ⟨t, call, rfl, -, hs⟩ | ⟨t, told, thread, -, ht, hs⟩ |
    ⟨t, thread, -, ht, hs⟩ | ⟨event, -, -⟩
  · rw [hs]
    exact ⟨hstore, hthreads⟩
  · rw [hs]
    refine ⟨hstore, hthreads.insert (right_start fun body jobId now hcall => ?_) t⟩
    subst hcall
    exact ha t body jobId now rfl
  · rw [hs]
    have hnext := turn_kept hstore (hthreads t thread ht) told
    exact ⟨hnext.1, hthreads.insert hnext.2 t⟩
  · rw [hs]
    have hhalted : Thread.Right env work created (thread.at (.ended .raised)) := Or.inl trivial
    exact ⟨hstore, hthreads.insert hhalted t⟩
  · cases event

/-- An environment that leaves texts as they are. -/
def setupEnv : Env := { CandidateSelection.sampleEnv with redactText := id }

/-- A setup of a user, of five routes. -/
def setupBody (user : String) : RouteSetupRequest where
  userId := some user.toList
  routeId := "default".toList
  routes := ["code", "mail", "plans", "notes", "tests"].map fun name => (name, .str name.toList)
  modelCatalog := some ((List.range 5).map fun n => CandidateSelection.catalogEntry s!"openai/m{n}" "openai" s!"m{n}")
  candidatesPerRoute := 5
  metadata := []
  updateSchedule := none

/-- Work that fails, or saves. -/
def setupWork : Work Bool := fun _ _ saved =>
  if saved then .ok [("saved", .bool true)] else .error { type := "HTTPException".toList, message := "no models".toList }

/-- Turns of a thread, in which all goes well. -/
def setupTurns (t n : Nat) : List (Event Bool) := List.replicate n (.turn t { now := "t".toList, met := true })

/-- A job that is created and worked on, read by its user and by another one, and run once more after its file was cut off. -/
def setupRun : List (Event Bool) :=
  .begin 1 (.create (setupBody "ann") "job-1".toList "t".toList) :: setupTurns 1 7 ++
  .begin 2 (.work 0) :: setupTurns 2 9 ++
  .begin 3 (.get "job-1".toList (some "ann".toList)) :: setupTurns 3 1 ++
  .begin 4 (.get "job-1".toList (some "bob".toList)) :: setupTurns 4 2 ++
  .begin 5 (.create (setupBody "bob") "job-2".toList "t".toList) :: .turn 5 { write := .torn, met := true } ::
  .begin 6 (.run "job-1".toList (some "ann".toList)) :: setupTurns 6 3

/-- What a thread has been answered: the status of a job, or that there is none. -/
def statusOf (thread : Option Thread) : Option Text :=
  match thread with
  | some ⟨_, _, .ended (.job row)⟩ => match field row "status" with
    | .str status => some status
    | _ => none
  | _ => none

end SetupJobs

end PromptRail
