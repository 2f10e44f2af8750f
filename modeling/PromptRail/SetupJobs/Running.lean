import PromptRail.SetupJobs.Kept

/-!
# Jobs that run

A file says that its job is running only while a thread is there that still has to write how the job ended. Three things break this: such
a thread halts, a failure cannot be written over what the file holds, and a write that has put "running" into the file fails all the same.
-/

namespace PromptRail

namespace SetupJobs

open PyText (Text)
open Json (Fields Value truthy)
open Accounting (field field_set)
open CandidateSelection (assign)
open Concurrent (World Action ThreadId)
open Transition (Throughout)

variable {ω : Type} {env : Env} {work : Work ω}

/-- A record says that its job is running. -/
def SaysRunning (row : Fields) : Prop := field row "status" = .str "running".toList

/-- An update that says how a job ended. -/
def Update.Ends : Update → Prop
  | .succeeded _ _ | .failed _ _ => True
  | .dispatching _ _ | .running _ _ => False

/-- A thread has written that a job is running, and has not written how it ended. -/
def Stage.Owes : Stage → Prop
  | .updatingRow (.running _ _) | .working _ => True
  | .updating update | .writing update _ => update.Ends
  | _ => False

instance (update : Update) : Decidable update.Ends := by
  cases update <;> simp only [Update.Ends] <;> infer_instance

instance (stage : Stage) : Decidable stage.Owes := by
  unfold Stage.Owes
  split <;> infer_instance

/-- The write in this turn leaves a job running that no thread will end. -/
def Strands : Stage → Write → Prop
  | .writing (.running _ _) _, .late | .writing (.failed _ _) _, .untouched => True
  | _, _ => False

instance (stage : Stage) (result : Write) : Decidable (Strands stage result) := by
  unfold Strands
  split <;> infer_instance

/-- A step after which a job may be running with no thread that will end it. -/
def Loses (w : State) : Event ω → Prop
  | .halt t => (w.threads.lookup t).any fun thread => thread.stage.Owes
  | .turn t told => (w.threads.lookup t).any fun thread => Strands thread.stage told.write
  | .begin _ _ | .happen _ => False

instance (w : State) (a : Event ω) : Decidable (Loses w a) := by
  unfold Loses
  split <;> infer_instance

/-- Every file that says that its job is running has a thread that owes its end; and a job that is to be inserted is not running. -/
structure Owed (w : State) : Prop where
  files : ∀ path row, w.store.files.lookup path = some row → SaysRunning row →
    ∃ t thread, w.threads.lookup t = some thread ∧ jobFilePath thread.jobId = path ∧ thread.stage.Owes
  inserting : ∀ t thread row, w.threads.lookup t = some thread → thread.stage = .inserting row → ¬SaysRunning row

variable {store : Store} {thread : Thread} {told : Input ω} {path path' : Text} {row : Fields}

/-- A record that is updated says that its job is running when the update does. -/
theorem saysRunning_update (row : Fields) (update : Update) :
    SaysRunning (assign row (update.fields env)) ↔ ∃ row' now, update = .running row' now := by
  unfold SaysRunning
  cases update <;> simp [assign, Update.fields, field_set]

/-- What a write leaves in a file: what is written, in the file it is written to, or what was there. -/
theorem lookup_write {payload : Fields} {result : Write} (h : (store.writeJsonFile path payload result).files.lookup path' = some row) :
    (path' = path ∧ row = payload ∧ (result = .written ∨ result = .late)) ∨
      (store.files.lookup path' = some row ∧ (path' = path → result = .untouched)) := by
  cases result with
  | written | late =>
    rcases Table.of_lookup_insert h with ⟨rfl, rfl⟩ | ⟨hother, hold⟩
    · exact Or.inl ⟨rfl, rfl, by simp⟩
    · exact Or.inr ⟨hold, fun heq => absurd heq hother⟩
  | torn =>
    have hother : path' ≠ path := by
      rintro rfl
      exact absurd (h.symm.trans (AList.lookup_erase path' store.files)) (by simp)
    exact Or.inr ⟨(AList.lookup_erase_ne hother).symm.trans h, fun heq => absurd heq hother⟩
  | untouched => exact Or.inr ⟨h, fun _ => rfl⟩

/-! ## Turns -/

/-- No stage but the first one inserts a file. -/
theorem loaded_ne_inserting (jobId now : Text) (found : Option Fields) (load : Load) : loaded jobId now found load ≠ .inserting row := by
  cases load with
  | spawn job =>
    rintro ⟨⟩
  | poll =>
    simp only [loaded]
    split <;> rintro ⟨⟩
  | check =>
    simp only [loaded]
    split <;> rintro ⟨⟩
  | process =>
    simp only [loaded, beginWork]
    split
    · rintro ⟨⟩
    · split <;> rintro ⟨⟩
  | finished result =>
    rintro ⟨⟩

theorem turn_ne_inserting : (turn env work store thread told).2.stage ≠ .inserting row := by
  obtain ⟨user, jobId, stage⟩ := thread
  cases stage with
  | inserting job =>
    simp only [turn]
    split <;> rintro ⟨⟩
  | insertingRow job =>
    simp only [turn]
    split <;> rintro ⟨⟩
  | updating update => rintro ⟨⟩
  | writing update row =>
    simp only [turn]
    split
    · rintro ⟨⟩
    · cases update <;> rintro ⟨⟩
  | updatingRow update => cases update <;> rintro ⟨⟩
  | loading load =>
    simp only [turn]
    split
    · exact loaded_ne_inserting _ _ _ _
    · rintro ⟨⟩
  | loadingRow load => exact loaded_ne_inserting _ _ _ _
  | spawning job =>
    simp only [turn]
    split <;> rintro ⟨⟩
  | accepting n =>
    simp only [turn]
    split
    · rintro ⟨⟩
    · simp only [beginWork]
      split
      · rintro ⟨⟩
      · split <;> rintro ⟨⟩
  | working job =>
    simp only [turn]
    split <;> rintro ⟨⟩
  | ended answer => rintro ⟨⟩

/-- After a turn, a file that says running is one for which this thread owes the end, or it was there, and this thread did not owe it. -/
theorem turn_owed (hinserting : ∀ row, thread.stage = .inserting row → ¬SaysRunning row)
    (hsound : ¬Strands thread.stage told.write)
    (h : (turn env work store thread told).1.files.lookup path = some row) (hrunning : SaysRunning row) :
    ((turn env work store thread told).2.jobId = thread.jobId ∧ jobFilePath thread.jobId = path ∧
        (turn env work store thread told).2.stage.Owes) ∨
      (store.files.lookup path = some row ∧ (jobFilePath thread.jobId = path → ¬thread.stage.Owes)) := by
  obtain ⟨user, jobId, stage⟩ := thread
  cases stage with
  | inserting job =>
    rcases lookup_write h with ⟨-, rfl, -⟩ | ⟨hold, -⟩
    · exact absurd hrunning (hinserting row rfl)
    · exact Or.inr ⟨hold, fun _ => id⟩
  | insertingRow job =>
    refine Or.inr ⟨?_, fun _ => id⟩
    simp only [turn] at h
    split at h <;> exact h
  | updating update =>
    by_cases hpath : jobFilePath jobId = path
    · by_cases howes : update.Ends
      · exact Or.inl ⟨rfl, hpath, howes⟩
      · exact Or.inr ⟨h, fun _ => howes⟩
    · exact Or.inr ⟨h, fun heq => absurd heq hpath⟩
  | writing update old =>
    rcases lookup_write h with ⟨rfl, rfl, hwrite⟩ | ⟨hold, huntouched⟩
    · obtain ⟨row', now, rfl⟩ := (saysRunning_update old update).1 hrunning
      rcases hwrite with hwrite | hwrite
      · refine Or.inl ⟨rfl, rfl, ?_⟩
        simp only [turn, if_pos hwrite]
        trivial
      · rw [hwrite] at hsound
        exact absurd trivial hsound
    · by_cases hpath : path = jobFilePath jobId
      · have hwrite := huntouched hpath
        cases update with
        | succeeded result finished =>
          -- the error of the write is written as the failure of the job
          refine Or.inl ⟨rfl, hpath.symm, ?_⟩
          simp only [turn, hwrite]
          trivial
        | failed failure finished =>
          rw [hwrite] at hsound
          exact absurd trivial hsound
        | dispatching job now => exact Or.inr ⟨hold, fun _ => id⟩
        | running job now => exact Or.inr ⟨hold, fun _ => id⟩
      · exact Or.inr ⟨hold, fun heq => absurd heq.symm hpath⟩
  | updatingRow update =>
    have hold : store.files.lookup path = some row := by
      simp only [turn] at h
      split at h <;> exact h
    by_cases hpath : jobFilePath jobId = path
    · cases update with
      | running row' now => exact Or.inl ⟨rfl, hpath, trivial⟩
      | dispatching row' now => exact Or.inr ⟨hold, fun _ => id⟩
      | succeeded result finished => exact Or.inr ⟨hold, fun _ => id⟩
      | failed failure finished => exact Or.inr ⟨hold, fun _ => id⟩
    · exact Or.inr ⟨hold, fun heq => absurd heq hpath⟩
  | loading load => exact Or.inr ⟨h, fun _ => id⟩
  | loadingRow load => exact Or.inr ⟨h, fun _ => id⟩
  | spawning job =>
    refine Or.inr ⟨?_, fun _ => id⟩
    simp only [turn] at h
    split at h <;> exact h
  | accepting n => exact Or.inr ⟨h, fun _ => id⟩
  | working job =>
    by_cases hpath : jobFilePath jobId = path
    · refine Or.inl ⟨rfl, hpath, ?_⟩
      simp only [turn, Thread.at]
      split <;> trivial
    · exact Or.inr ⟨h, fun heq => absurd heq hpath⟩
  | ended answer => exact Or.inr ⟨h, fun _ => id⟩

/-! ## Runs -/

/-- A thread takes a step: each file that says running is one whose end it owes now, or was there, and not owed by this thread. -/
theorem Owed.insert {w : State} (h : Owed w) {t : ThreadId} {next : Thread} {store : Store}
    (hfiles : ∀ path row, store.files.lookup path = some row → SaysRunning row → jobFilePath next.jobId = path ∧ next.stage.Owes ∨
      (w.store.files.lookup path = some row ∧
        ∀ thread, w.threads.lookup t = some thread → jobFilePath thread.jobId = path → ¬thread.stage.Owes))
    (hinserting : ∀ row, next.stage = .inserting row → ¬SaysRunning row) :
    Owed { store, threads := w.threads.insert t next } where
  files := by
    intro path row hrow hrunning
    rcases hfiles path row hrow hrunning with ⟨hpath, howes⟩ | ⟨hold, hnot⟩
    · exact ⟨t, next, AList.lookup_insert w.threads, hpath, howes⟩
    · obtain ⟨t', thread', ht', hpath, howes⟩ := h.files path row hold hrunning
      have hother : t' ≠ t := by
        rintro rfl
        exact hnot thread' ht' hpath howes
      exact ⟨t', thread', (AList.lookup_insert_ne hother).trans ht', hpath, howes⟩
  inserting := by
    intro t' thread' row hthread hstage
    rcases Table.of_lookup_insert hthread with ⟨-, rfl⟩ | ⟨-, hold⟩
    · exact hinserting row hstage
    · exact h.inserting t' thread' row hold hstage

/-- A job is created as a job that is queued. -/
theorem start_ne_running {call : Call} (h : (start env call).stage = .inserting row) : ¬SaysRunning row := by
  cases call with
  | create body jobId now =>
    simp only [start] at h
    split at h
    · cases h
    · cases h
      exact fun hrunning => absurd (Value.str.inj hrunning) (by decide)
  | work n => cases h
  | get jobId user => cases h
  | run jobId user => cases h

theorem step_owed {w : State} {a : Event ω} (h : Owed w) (ha : ¬Loses w a) : Owed ((system env work).step w a) := by
  rcases (system env work).step_cases w a with ⟨-, hs⟩ | ⟨t, call, rfl, hfresh, hs⟩ | ⟨t, told, thread, rfl, ht, hs⟩ |
    ⟨t, thread, rfl, ht, hs⟩ | ⟨event, -, -⟩
  · rw [hs]
    exact h
  · rw [hs]
    refine h.insert (fun path row hrow _ => Or.inr ⟨hrow, fun thread ht => ?_⟩) fun row hstage => start_ne_running hstage
    exact absurd (AList.lookup_isSome.1 (Option.isSome_of_eq_some ht)) hfresh
  · have hsound : ¬Strands thread.stage told.write := by simpa [Loses, ht] using ha
    rw [hs]
    refine h.insert (fun path row hrow hrunning => ?_) fun row hstage => absurd hstage turn_ne_inserting
    refine (turn_owed (h.inserting t thread · ht) hsound hrow hrunning).imp ?_ ?_
    · rintro ⟨hjob, hpath, howes⟩
      exact ⟨hjob ▸ hpath, howes⟩
    · rintro ⟨hold, hnot⟩
      refine ⟨hold, fun thread' ht' => ?_⟩
      obtain rfl : thread = thread' := Option.some.inj (ht.symm.trans ht')
      exact hnot
  · have hkept : ¬thread.stage.Owes := by simpa [Loses, ht] using ha
    rw [hs]
    refine h.insert (fun path row hrow _ => Or.inr ⟨hrow, fun thread' ht' _ => ?_⟩) (by rintro _ ⟨⟩)
    obtain rfl : thread = thread' := Option.some.inj (ht.symm.trans ht')
    exact hkept
  · cases event

/-- A job that is worked on by two threads at once, one of which cannot write its result and then cannot write that it failed at first. -/
def runningRun : List (Event Bool) :=
  .begin 1 (.create (setupBody "ann") "job-1".toList "t".toList) :: setupTurns 1 7 ++
  .begin 2 (.work 0) :: setupTurns 2 4 ++
  .begin 3 (.run "job-1".toList none) :: setupTurns 3 5 ++
  setupTurns 2 2 ++ .turn 2 { write := .untouched, met := true } :: setupTurns 2 1 ++ .turn 2 { write := .torn, met := true } ::
  .halt 2 :: setupTurns 3 1

end SetupJobs

end PromptRail
