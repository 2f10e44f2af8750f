import PromptRail.RouteBudget.Refresh

/-!
# Repeating a usage report

A repeated report is answered with the stored log if it states the facts of that log. The mode of the accounting is not among what
is reported: it is read from the budget as it is at the repetition, and every saved setup sets it. So a report is repeated without
effect exactly until a setup names another mode than the one it was first debited under.
-/

namespace PromptRail

open Document (Fields Value get firstPresent)
open Table (Dict)
open Concurrent (Program World Action ThreadId EveryThread)
open Transition (Throughout Along exec exec_invariant throughout_iff_along)
open Outcome (bind_ok ok_bind)

namespace RouteBudget

/-! ## What else happens to a budget -/

/-- A setup that is saved, or a job that saves one again, with the document of the budget as the database had last returned it. -/
inductive BudgetEvent where
  | setup (route : RouteKey) (budget read : Option Fields)
  | refresh (job : RouteUpdateJob) (selected : Bool) (read : Option Fields)

/-- The route whose budget is saved. -/
def BudgetEvent.route : BudgetEvent → RouteKey
  | .setup route _ _ => route
  | .refresh job _ _ => job.route

/-- The metadata of the budget. -/
def BudgetEvent.budget : BudgetEvent → Option Fields
  | .setup _ budget _ => budget
  | .refresh job _ _ => job.budget

/-- The fields that are set, if it comes to that. -/
def BudgetEvent.fields (defaults : ControllerDefaults) (float : String → Option ℚ) (store : Store) : BudgetEvent → Option Fields
  | .setup route budget read =>
    if route.userId = "" then none else (setupFields defaults float budget (read.getD ∅)).toOption
  | .refresh job selected read =>
    if selected ∧ job.route.userId ≠ "" ∧ job.route.userId ∈ store.users then
      (setupFields defaults float job.budget (read.getD ∅)).toOption
    else none

/-- The update: fields are set in the document as it is now. -/
def setBudget (store : Store) (route : RouteKey) (fields : Fields) : Store :=
  let row := unset (Document.merge ((store.budgets.lookup route).getD (setOnInsert fields)) fields)
  { store with budgets := store.budgets.insert route row }

/-- What an event does. -/
def happen (defaults : ControllerDefaults) (float : String → Option ℚ) (store : Store) (event : BudgetEvent) : Store :=
  match event.fields defaults float store with
  | none => store
  | some fields => setBudget store event.route fields

/-- The program: any number of calls of `write_usage_log`, setups and jobs. -/
def budgetProgram (defaults : ControllerDefaults) (float : String → Option ℚ) :
    Program Store UsageCall Task (Option Failure) BudgetEvent where
  start := start float
  turn := turn float
  halt := crash
  happen := happen defaults float

/-- A setup that has read the budget as it is does what `persist_budget_metadata_from_setup` does alone. -/
theorem happen_setup (defaults : ControllerDefaults) (float : String → Option ℚ) (store : Store) (route : RouteKey)
    (budget : Option Fields) : happen defaults float store (.setup route budget (store.budgets.lookup route)) =
      (persistBudgetMetadataFromSetup defaults float store route budget).toOption.getD store := by
  unfold happen BudgetEvent.fields persistBudgetMetadataFromSetup
  by_cases huser : route.userId = ""
  · simp [huser, Except.toOption, bind, Except.bind]
  · simp only [huser, if_false]
    cases setupFields defaults float budget ((store.budgets.lookup route).getD ∅) <;> rfl

/-- A job that has read the budget as it is does what it does alone. -/
theorem happen_refresh (defaults : ControllerDefaults) (float : String → Option ℚ) (store : Store) (job : RouteUpdateJob)
    (selected : Bool) : happen defaults float store (.refresh job selected (store.budgets.lookup job.route)) =
      runRouteUpdateJob defaults float store job selected := by
  unfold happen BudgetEvent.fields runRouteUpdateJob saveCandidatePool ensureUserExists persistBudgetMetadataFromSetup
  cases selected with
  | false => simp
  | true =>
    by_cases huserId : job.route.userId = ""
    · simp [huserId, bind, Except.bind]
    by_cases huser : job.route.userId ∈ store.users
    · simp only [huserId, huser, ne_eq, not_false_eq_true, and_self, if_true, if_false, ok_bind]
      cases setupFields defaults float job.budget ((store.budgets.lookup job.route).getD ∅) <;> rfl
    · simp [huserId, huser, bind, Except.bind]

/-! ## Repetition -/

/-- The mode under which a call is accounted for now. -/
def accountingMode (store : Store) (route : RouteKey) : Option SpendAccountingMode :=
  (store.budgets.lookup route).bind fun row => (normalizeSpendAccountingMode (firstPresent row spendAccountingModeNames)).toOption

/-- Repeating the report returns the stored log and leaves everything as it is. -/
def Replays (float : String → Option ℚ) (call : UsageCall) (log : UsageLog) (store : Store) : Prop :=
  writeUsageLog float store call = .ok (store, log)

/-- An action that does not put the route of a log under another mode: a setup that is saved for the route names the mode of the
log. -/
def KeepsMode (defaults : ControllerDefaults) (float : String → Option ℚ) (log : UsageLog) (store : Store) :
    Action UsageCall (Option Failure) BudgetEvent → Prop
  | .happen event => event.route = log.key.route → (event.fields defaults float store).isSome = true →
      normalizeSpendAccountingMode (firstPresent (event.budget.getD ∅) spendAccountingModeNames) = .ok log.spendAccountingMode
  | _ => True

namespace ReplayAux

variable {defaults : ControllerDefaults} {float : String → Option ℚ}

/-! ### The check -/

/-- A stored log agrees with a call where each of its fields does. -/
theorem mismatchedFields_nil_iff {log : UsageLog} {facts : Facts} {mode : SpendAccountingMode} :
    mismatchedFields log facts mode = [] ↔ log.spendAccountingMode = mode ∧ mismatchedFields log facts log.spendAccountingMode = [] := by
  constructor
  · intro h
    have hmode : log.spendAccountingMode = mode := by
      simp only [mismatchedFields, List.map_eq_nil_iff, List.filter_eq_nil_iff, List.forall_mem_cons, Bool.not_eq_true,
        Bool.not_eq_false', beq_iff_eq] at h
      exact h.2.2.2.2.2.2.2.2.1
    exact ⟨hmode, hmode.symm ▸ h⟩
  · rintro ⟨rfl, h⟩
    exact h

/-- A log agrees with the call that it was written for. -/
theorem mismatchedFields_newLog (facts : Facts) (mode : SpendAccountingMode) (row : Fields) :
    mismatchedFields (newLog facts mode row) facts mode = [] := by
  have hsame (x : Option ℚ) : sameNumber x x = true := by
    cases x with
    | none => rfl
    | some y => exact Workflow.isclose_self y
  simp [mismatchedFields, newLog, hsame]

theorem requireIdempotentUsageMatch_ok_iff {existing log : UsageLog} {facts : Facts} {mode : SpendAccountingMode} :
    requireIdempotentUsageMatch existing facts mode = .ok log ↔ existing = log ∧ mismatchedFields existing facts mode = [] := by
  unfold requireIdempotentUsageMatch
  cases mismatchedFields existing facts mode <;> simp

theorem budgetAccountingFacts_ok {store : Store} {facts : Facts} {row : Fields} {mode : SpendAccountingMode}
    (h : budgetAccountingFacts store facts = .ok (row, mode)) :
    store.budgets.lookup facts.key.route = some row ∧
      normalizeSpendAccountingMode (firstPresent row spendAccountingModeNames) = .ok mode := by
  unfold budgetAccountingFacts at h
  split at h
  · cases h
  · rename_i stored hstored
    obtain ⟨mode', hmode, h⟩ := bind_ok h
    cases h
    exact ⟨hstored, hmode⟩

theorem accountingMode_of_row {store : Store} {route : RouteKey} {row : Fields} {mode : SpendAccountingMode}
    (hrow : store.budgets.lookup route = some row)
    (hmode : normalizeSpendAccountingMode (firstPresent row spendAccountingModeNames) = .ok mode) :
    accountingMode store route = some mode := by
  rw [accountingMode, hrow, Option.bind_some, hmode]
  rfl

/-- The mode is what the accounting of a call reads. -/
theorem accountingMode_eq_some_iff {store : Store} {facts : Facts} {mode : SpendAccountingMode} :
    accountingMode store facts.key.route = some mode ↔ ∃ row, budgetAccountingFacts store facts = .ok (row, mode) := by
  constructor
  · intro h
    obtain ⟨row, hrow, hmode⟩ := Option.bind_eq_some_iff.1 h
    refine ⟨row, ?_⟩
    simp only [budgetAccountingFacts, hrow, Outcome.ok_of_toOption hmode, ok_bind]
    rfl
  · rintro ⟨row, h⟩
    obtain ⟨hrow, hmode⟩ := budgetAccountingFacts_ok h
    exact accountingMode_of_row hrow hmode

/-- A report with a stored log that it agrees with is repeated exactly while the budget has the mode of the log. -/
theorem replays_iff {call : UsageCall} {facts : Facts} {log : UsageLog} {store : Store} (hcall : usageFacts float call = .ok facts)
    (hstored : findLog store facts.key = some log) (hagrees : mismatchedFields log facts log.spendAccountingMode = []) :
    Replays float call log store ↔ accountingMode store facts.key.route = some log.spendAccountingMode := by
  rw [accountingMode_eq_some_iff, Replays, writeUsageLog, hcall, ok_bind]
  constructor
  · intro h
    unfold persist at h
    obtain ⟨⟨row, mode⟩, haccounting, h⟩ := bind_ok h
    dsimp only at h
    rw [hstored] at h
    obtain ⟨existing, hmatch, -⟩ := bind_ok h
    obtain ⟨-, hnone⟩ := requireIdempotentUsageMatch_ok_iff.1 hmatch
    exact ⟨row, (mismatchedFields_nil_iff.1 hnone).1 ▸ haccounting⟩
  · rintro ⟨row, haccounting⟩
    unfold persist
    simp only [haccounting, hstored, ok_bind, requireIdempotentUsageMatch_ok_iff.2 ⟨rfl, hagrees⟩]
    rfl

/-! ### What a transaction returns -/

/-- A transaction that returns a log has stored it, it agrees with the call, and the budget has its mode. -/
structure Answered (facts : Facts) (log : UsageLog) (store : Store) : Prop where
  key : log.key = facts.key
  stored : findLog store facts.key = some log
  agrees : mismatchedFields log facts log.spendAccountingMode = []
  mode : accountingMode store facts.key.route = some log.spendAccountingMode

theorem key_of_findLog {store : Store} {key : LogKey} {log : UsageLog} (h : findLog store key = some log) : log.key = key := by
  unfold findLog at h
  simpa using List.find?_some h

theorem answered_of_stored {store : Store} {facts : Facts} {existing log : UsageLog} {row : Fields} {mode : SpendAccountingMode}
    (hstored : findLog store facts.key = some existing) (haccounting : budgetAccountingFacts store facts = .ok (row, mode))
    (hmatch : requireIdempotentUsageMatch existing facts mode = .ok log) : Answered facts log store := by
  obtain ⟨rfl, hnone⟩ := requireIdempotentUsageMatch_ok_iff.1 hmatch
  obtain ⟨rfl, hagrees⟩ := mismatchedFields_nil_iff.1 hnone
  exact ⟨key_of_findLog hstored, hstored, hagrees, accountingMode_eq_some_iff.2 ⟨row, haccounting⟩⟩

theorem findLog_append_new {store : Store} {budgets : Dict RouteKey Fields} {users : Dict String UserTotals} {log : UsageLog}
    {key : LogKey} (hnew : findLog store key = none) (hkey : log.key = key) :
    findLog { budgets, users, usageLogs := store.usageLogs ++ [log] } key = some log := by
  unfold findLog at hnew ⊢
  simp [List.find?_append, hnew, hkey]

/-- An update of a budget leaves its mode. -/
theorem mode_of_updated {debitUsd weightDebit : ℚ} {update : ControllerUpdate} {success : Bool} {row row' : Fields}
    (h : Updated debitUsd weightDebit update success row row') :
    firstPresent row' spendAccountingModeNames = firstPresent row spendAccountingModeNames :=
  Document.firstPresent_congr fun name hname => h.others name (by
    revert name
    decide)

theorem persist_answered {n : Nat} {store store' : Store} {facts : Facts} {log : UsageLog}
    (h : persist float n store facts = .ok (store', log)) : Answered facts log store' := by
  unfold persist at h
  obtain ⟨⟨row, mode⟩, haccounting, h⟩ := bind_ok h
  obtain ⟨hrow, hmode⟩ := budgetAccountingFacts_ok haccounting
  dsimp only at h
  split at h
  · rename_i existing hstored
    obtain ⟨log', hmatch, h⟩ := bind_ok h
    cases h
    exact answered_of_stored hstored haccounting hmatch
  · rename_i hnew
    split at h
    · unfold debitBudget at h
      obtain ⟨update, -, h⟩ := bind_ok h
      obtain ⟨_, -, h⟩ := bind_ok h
      split at h
      · cases h
      · rename_i row' hpipeline
        split at h
        · cases h
        · cases h
          refine ⟨rfl, findLog_append_new hnew rfl, mismatchedFields_newLog facts mode row', ?_⟩
          exact accountingMode_of_row (AList.lookup_insert _) (mode_of_updated (updated_of_pipeline hpipeline) ▸ hmode)
    · unfold logOnly at h
      obtain ⟨_, -, h⟩ := bind_ok h
      cases h
      exact ⟨rfl, findLog_append_new hnew rfl, mismatchedFields_newLog facts mode row, accountingMode_of_row hrow hmode⟩

/-! ### What an action leaves -/

/-- A stored log stays what is found under its key. -/
theorem findLog_append {logs : List UsageLog} {store store' : Store} {key : LogKey} {log : UsageLog}
    (h : findLog store key = some log) (hlogs : store'.usageLogs = store.usageLogs ++ logs) : findLog store' key = some log := by
  unfold findLog at h ⊢
  rw [hlogs, List.find?_append, h]
  rfl

theorem usageLogs_turn (store : Store) (task : Task) (failure : Option Failure) :
    ∃ logs, (turn float store task failure).1.usageLogs = store.usageLogs ++ logs := by
  rcases turn_effect float store task failure with hkept | ⟨facts, he⟩
  · exact ⟨[], by rw [hkept, List.append_nil]⟩
  · generalize (turn float store task failure).1 = store' at he ⊢
    cases he with
    | kept => exact ⟨[], (List.append_nil _).symm⟩
    | logged => exact ⟨_, rfl⟩
    | debited => exact ⟨_, rfl⟩

theorem usageLogs_happen (store : Store) (event : BudgetEvent) :
    (happen defaults float store event).usageLogs = store.usageLogs := by
  unfold happen
  split <;> rfl

/-- A turn leaves the modes. -/
theorem accountingMode_turn (store : Store) (task : Task) (failure : Option Failure) (route : RouteKey) :
    accountingMode (turn float store task failure).1 route = accountingMode store route := by
  rcases turn_effect float store task failure with hkept | ⟨facts, he⟩
  · rw [hkept]
  · generalize (turn float store task failure).1 = store' at he ⊢
    cases he with
    | kept => rfl
    | logged => rfl
    | @debited row row' mode update totals hnew hcounters hrow hmode hcontroller hquery hupdated huser =>
      unfold accountingMode
      dsimp only
      by_cases hroute : route = facts.key.route
      · rw [hroute, AList.lookup_insert, hrow, Option.bind_some, Option.bind_some, mode_of_updated hupdated]
      · rw [AList.lookup_insert_ne hroute]

/-- The text of a mode reads as the mode. -/
theorem normalizeSpendAccountingMode_text (mode : SpendAccountingMode) : normalizeSpendAccountingMode (.text mode.text) = .ok mode := by
  cases mode <;> decide +kernel

/-- A setup that is saved leaves the budget under the mode that its metadata names. -/
theorem accountingMode_setBudget {store : Store} {event : BudgetEvent} {fields : Fields}
    (h : event.fields defaults float store = some fields) :
    ∃ mode, normalizeSpendAccountingMode (firstPresent (event.budget.getD ∅) spendAccountingModeNames) = .ok mode ∧
      accountingMode (setBudget store event.route fields) event.route = some mode := by
  have hset : ∃ existing, setupFields defaults float event.budget existing = .ok fields := by
    cases event with
    | setup route budget read =>
      dsimp only [BudgetEvent.fields] at h
      split at h
      · cases h
      · exact ⟨_, Outcome.ok_of_toOption h⟩
    | refresh job selected read =>
      dsimp only [BudgetEvent.fields] at h
      split at h
      · exact ⟨_, Outcome.ok_of_toOption h⟩
      · cases h
  obtain ⟨existing, hfields⟩ := hset
  obtain ⟨budget, hbudget, hread⟩ := setupFields_ok hfields
  obtain ⟨mode, hmode, htext⟩ := hread.mode
  refine ⟨mode, by rw [hbudget, Option.getD_some]; exact hmode, ?_⟩
  have hget (row : Fields) : get (unset (Document.merge row fields)) "spendAccountingMode" = .text mode.text := by
    rw [get_updated (by decide), htext]
    rfl
  refine accountingMode_of_row (AList.lookup_insert _) ?_
  rw [spendAccountingModeNames, Document.firstPresent_head (by simp [hget]), hget]
  exact normalizeSpendAccountingMode_text mode

theorem accountingMode_setBudget_ne (store : Store) {route route' : RouteKey} (h : route' ≠ route) (fields : Fields) :
    accountingMode (setBudget store route fields) route' = accountingMode store route' := by
  unfold accountingMode setBudget
  dsimp only
  rw [AList.lookup_insert_ne h]

/-! ### Threads -/

/-- A thread of a call works with its facts. -/
def Serves (float : String → Option ℚ) (call : UsageCall) : Task → Prop
  | .attempt _ facts | .readDuplicate facts | .readFacts facts _ => usageFacts float call = .ok facts
  | .returned _ | .threw _ | .crashed => True

theorem serves_start (call : UsageCall) : Serves float call (start float call) := by
  unfold start
  split
  · assumption
  · trivial

/-- After a failure a thread tries again, reads what is stored, or gives up. -/
theorem afterFailure_cases (n : Nat) (facts : Facts) (failure : Failure) :
    afterFailure n facts failure = .attempt (n + 1) facts ∨ afterFailure n facts failure = .readDuplicate facts ∨
      afterFailure n facts failure = .threw (.transactionFailed n) := by
  cases failure with
  | retryable committed =>
    by_cases hn : n < usageLogTransactionMaxAttempts
    · exact Or.inl (if_pos hn)
    · exact Or.inr (Or.inr (if_neg hn))
  | duplicateKey => exact Or.inr (Or.inl rfl)
  | other committed => exact Or.inr (Or.inr rfl)

theorem serves_turn {call : UsageCall} {task : Task} (h : Serves float call task) (store : Store) (failure : Option Failure) :
    Serves float call (turn float store task failure).2 := by
  cases task with
  | attempt n facts =>
    cases failure with
    | none =>
      unfold turn attemptPersist
      dsimp only
      split <;> trivial
    | some failure =>
      change Serves float call (afterFailure n facts failure)
      rcases afterFailure_cases n facts failure with hs | hs | hs <;> rw [hs]
      · exact h
      · exact h
      · trivial
  | readDuplicate facts =>
    unfold turn
    dsimp only
    split
    · exact h
    · trivial
  | readFacts facts existing =>
    unfold turn
    dsimp only
    split <;> trivial
  | _ => trivial

theorem serves_crash {call : UsageCall} {task : Task} (h : Serves float call task) : Serves float call (crash task) := by
  cases task <;> trivial

/-- A thread of a call that runs goes on to run for it. -/
theorem serves_step {t : ThreadId} {call : UsageCall} (w : World Store Task) (a : Action UsageCall (Option Failure) BudgetEvent)
    (h : ∃ task, w.threads.lookup t = some task ∧ Serves float call task) :
    ∃ task, ((budgetProgram defaults float).step w a).threads.lookup t = some task ∧ Serves float call task := by
  obtain ⟨task, ht, hserves⟩ := h
  have hinsert {t' : ThreadId} {task' next : Task} (ht' : w.threads.lookup t' = some task')
      (hnext : Serves float call task' → Serves float call next) :
      ∃ task, (w.threads.insert t' next).lookup t = some task ∧ Serves float call task := by
    by_cases hsame : t = t'
    · subst hsame
      cases ht.symm.trans ht'
      exact ⟨next, AList.lookup_insert _, hnext hserves⟩
    · exact ⟨task, (AList.lookup_insert_ne hsame).trans ht, hserves⟩
  rcases (budgetProgram defaults float).step_cases w a with ⟨-, hs⟩ | ⟨t', call', -, hnew, hs⟩ | ⟨t', input, task', -, ht', hs⟩ |
    ⟨t', task', -, ht', hs⟩ | ⟨event, -, hs⟩
  · exact hs.symm ▸ ⟨task, ht, hserves⟩
  · have hne : t ≠ t' := by
      rintro rfl
      rw [AList.lookup_eq_none.2 hnew] at ht
      cases ht
    rw [hs]
    exact ⟨task, (AList.lookup_insert_ne hne).trans ht, hserves⟩
  · rw [hs]
    exact hinsert ht' fun h => serves_turn h w.store input
  · rw [hs]
    exact hinsert ht' serves_crash
  · rw [hs]
    exact ⟨task, ht, hserves⟩

/-- A log that a thread has read after a duplicate key is stored. -/
def HasRead (store : Store) : Task → Prop
  | .readFacts facts existing => findLog store facts.key = some existing
  | .attempt _ _ | .readDuplicate _ | .returned _ | .threw _ | .crashed => True

theorem HasRead.mono {store store' : Store} {task : Task} (h : HasRead store task)
    (hlogs : ∃ logs, store'.usageLogs = store.usageLogs ++ logs) : HasRead store' task := by
  obtain ⟨logs, hlogs⟩ := hlogs
  cases task with
  | readFacts facts existing => exact findLog_append h hlogs
  | _ => trivial

theorem hasRead_turn (store : Store) (task : Task) (failure : Option Failure) :
    HasRead (turn float store task failure).1 (turn float store task failure).2 := by
  cases task with
  | attempt n facts =>
    cases failure with
    | none =>
      unfold turn attemptPersist
      dsimp only
      split <;> trivial
    | some failure =>
      change HasRead _ (afterFailure n facts failure)
      rcases afterFailure_cases n facts failure with hs | hs | hs <;> rw [hs] <;> trivial
  | readDuplicate facts =>
    unfold turn
    dsimp only
    split
    · assumption
    · trivial
  | readFacts facts existing =>
    unfold turn
    dsimp only
    split <;> trivial
  | _ => trivial

/-- Every action leaves the stored logs. -/
theorem usageLogs_step (defaults : ControllerDefaults) (float : String → Option ℚ) (w : World Store Task)
    (a : Action UsageCall (Option Failure) BudgetEvent) :
    ∃ logs, ((budgetProgram defaults float).step w a).store.usageLogs = w.store.usageLogs ++ logs := by
  have hsame : ∃ logs, w.store.usageLogs = w.store.usageLogs ++ logs := ⟨[], (List.append_nil _).symm⟩
  rcases (budgetProgram defaults float).step_cases w a with ⟨-, hs⟩ | ⟨t', call', -, -, hs⟩ | ⟨t', input, task', -, -, hs⟩ |
    ⟨t', task', -, -, hs⟩ | ⟨event, -, hs⟩
  · rwa [hs]
  · rwa [hs]
  · rw [hs]
    exact usageLogs_turn w.store task' input
  · rwa [hs]
  · rw [hs]
    exact ⟨[], (usageLogs_happen w.store event).trans (List.append_nil _).symm⟩

theorem hasRead_step (w : World Store Task) (a : Action UsageCall (Option Failure) BudgetEvent)
    (h : EveryThread (HasRead w.store) w.threads) :
    EveryThread (HasRead ((budgetProgram defaults float).step w a).store) ((budgetProgram defaults float).step w a).threads := by
  refine (Program.step_keeps (I := fun _ => True) (A := HasRead) ?_ ?_ ?_ ?_ ?_ w a ⟨trivial, h⟩).2
  · intro store call _
    dsimp only [budgetProgram]
    unfold start
    split <;> trivial
  · exact fun store task input _ _ => ⟨trivial, hasRead_turn store task input⟩
  · exact fun store task input task' _ _ h => h.mono (usageLogs_turn store task input)
  · intro store task _
    change HasRead store (crash task)
    cases task <;> trivial
  · exact fun store event _ => ⟨trivial, fun task h => h.mono ⟨[], (usageLogs_happen store event).trans (List.append_nil _).symm⟩⟩

/-- A thread of a call that returns a log has stored it. -/
theorem answered_of_turn {call : UsageCall} {store : Store} {task : Task} {failure : Option Failure} {log : UsageLog}
    (hserves : Serves float call task) (hread : HasRead store task) (hrunning : ∀ log, task ≠ .returned log)
    (hreturned : (turn float store task failure).2 = .returned log) :
    ∃ facts, usageFacts float call = .ok facts ∧ Answered facts log (turn float store task failure).1 := by
  cases task with
  | attempt n facts =>
    refine ⟨facts, hserves, ?_⟩
    cases failure with
    | none =>
      cases hpersist : persist float n store facts with
      | error refusal => simp [turn, attemptPersist, hpersist] at hreturned
      | ok result =>
        obtain ⟨store', log'⟩ := result
        simp only [turn, attemptPersist, hpersist, Task.returned.injEq] at hreturned ⊢
        exact hreturned ▸ persist_answered hpersist
    | some failure =>
      change afterFailure n facts failure = .returned log at hreturned
      rcases afterFailure_cases n facts failure with hs | hs | hs <;> cases hs.symm.trans hreturned
  | readDuplicate facts =>
    simp only [turn] at hreturned
    split at hreturned <;> cases hreturned
  | readFacts facts existing =>
    refine ⟨facts, hserves, ?_⟩
    simp only [turn] at hreturned ⊢
    split at hreturned
    · rename_i log' hmatch
      obtain ⟨⟨row, mode⟩, haccounting, hmatch⟩ := bind_ok hmatch
      cases hreturned
      exact answered_of_stored hread haccounting hmatch
    · cases hreturned
  | returned log' => exact (hrunning log' rfl).elim
  | threw refusal => cases hreturned
  | crashed => cases hreturned

/-- An action leaves the route of a log under its mode exactly when it is one that does. -/
theorem accountingMode_step_iff {log : UsageLog} (w : World Store Task) (a : Action UsageCall (Option Failure) BudgetEvent)
    (h : accountingMode w.store log.key.route = some log.spendAccountingMode) :
    accountingMode ((budgetProgram defaults float).step w a).store log.key.route = some log.spendAccountingMode ↔
      KeepsMode defaults float log w.store a := by
  cases a with
  | begin t call =>
    have hstore : ((budgetProgram defaults float).step w (.begin t call)).store = w.store := by
      unfold Program.step
      dsimp only
      split <;> rfl
    rw [hstore]
    exact iff_of_true h trivial
  | turn t input =>
    refine iff_of_true ?_ trivial
    unfold Program.step
    dsimp only
    split
    · exact h
    · exact (accountingMode_turn w.store _ input log.key.route).trans h
  | halt t =>
    have hstore : ((budgetProgram defaults float).step w (.halt t)).store = w.store := by
      unfold Program.step
      dsimp only
      split <;> rfl
    rw [hstore]
    exact iff_of_true h trivial
  | happen event =>
    change accountingMode (happen defaults float w.store event) log.key.route = _ ↔
      (event.route = log.key.route → (event.fields defaults float w.store).isSome = true →
        normalizeSpendAccountingMode (firstPresent (event.budget.getD ∅) spendAccountingModeNames) = .ok log.spendAccountingMode)
    unfold happen
    cases hfields : event.fields defaults float w.store with
    | none => simp [h]
    | some fields =>
      by_cases hroute : event.route = log.key.route
      · obtain ⟨mode, hmode, hset⟩ := accountingMode_setBudget hfields
        rw [← hroute, hset, hmode]
        simp
      · simp only [hroute, false_imp_iff, iff_true]
        exact (accountingMode_setBudget_ne w.store (Ne.symm hroute) fields).trans h

end ReplayAux

open ReplayAux

/-- From any first store, over any calls, failures, setups and jobs: once a report has been answered with a log, repeating it returns
that log and changes nothing, in every state that is reached, exactly if every setup that is saved for the route names the mode that
the log was debited under. -/
theorem usage_replay_iff (defaults : ControllerDefaults) (float : String → Option ℚ) {first : Store}
    {before during : List (Action UsageCall (Option Failure) BudgetEvent)} {started pending : World Store Task} {t : ThreadId}
    {call : UsageCall} {failure : Option Failure} {log : UsageLog}
    (hstarted : exec (budgetProgram defaults float).step { store := first } before = started) (hfresh : t ∉ started.threads)
    (hpending : exec (budgetProgram defaults float).step started (.begin t call :: during) = pending)
    (hrunning : ∀ log, pending.threads.lookup t ≠ some (.returned log))
    (hreturned : ((budgetProgram defaults float).step pending (.turn t failure)).threads.lookup t = some (.returned log))
    (after : List (Action UsageCall (Option Failure) BudgetEvent)) :
    Throughout (budgetProgram defaults float).step (fun w => Replays float call log w.store)
        ((budgetProgram defaults float).step pending (.turn t failure)) after ↔
      Along (budgetProgram defaults float).step (fun w a => KeepsMode defaults float log w.store a)
        ((budgetProgram defaults float).step pending (.turn t failure)) after := by
  have hread : EveryThread (HasRead pending.store) pending.threads := by
    have hstart : EveryThread (HasRead started.store) started.threads :=
      hstarted ▸ exec_invariant hasRead_step (Concurrent.everyThread_empty (HasRead first)) before
    exact hpending ▸ exec_invariant hasRead_step hstart (.begin t call :: during)
  obtain ⟨task, htask, hserves⟩ : ∃ task, pending.threads.lookup t = some task ∧ Serves float call task := by
    rw [Transition.exec_cons] at hpending
    refine hpending ▸ exec_invariant serves_step ⟨start float call, ?_, serves_start call⟩ during
    simp only [Program.step, if_neg hfresh, budgetProgram]
    exact AList.lookup_insert _
  have hstep : (budgetProgram defaults float).step pending (.turn t failure) =
      { store := (turn float pending.store task failure).1
        threads := pending.threads.insert t (turn float pending.store task failure).2 } := by
    simp only [Program.step, htask]
    rfl
  rw [hstep] at hreturned ⊢
  have hturn : (turn float pending.store task failure).2 = .returned log :=
    Option.some.inj ((AList.lookup_insert _).symm.trans hreturned)
  obtain ⟨facts, hcall, hanswered⟩ := answered_of_turn hserves (hread t task htask)
    (fun log hlog => hrunning log (hlog ▸ htask)) hturn
  refine throughout_iff_along (I := fun w : World Store Task => findLog w.store facts.key = some log) ?_ ?_ hanswered.stored
    ((replays_iff hcall hanswered.stored hanswered.agrees).2 hanswered.mode) after
  · intro w a h
    obtain ⟨logs, hlogs⟩ := usageLogs_step defaults float w a
    exact findLog_append h hlogs
  · intro w a hstored hreplays
    have hmode := (replays_iff hcall hstored hanswered.agrees).1 hreplays
    obtain ⟨logs, hlogs⟩ := usageLogs_step defaults float w a
    rw [replays_iff hcall (findLog_append hstored hlogs) hanswered.agrees]
    rw [← hanswered.key] at hmode ⊢
    exact accountingMode_step_iff w a hmode

namespace ReplayExample

/-- The log of a thread that has returned one. -/
def log? : Task → Option UsageLog
  | .returned log => some log
  | _ => none

theorem eq_returned_of_log? {task : Task} {log : UsageLog} (h : log? task = some log) : task = .returned log := by
  cases task with
  | returned log' => rw [Option.some.inj h]
  | _ => cases h

/-- The example's store after its first call has returned. -/
def reported : World Store Task :=
  exec (budgetProgram {} fun _ => none).step { store := exampleStore } [.begin 0 (exampleCall "a"), .turn 0 none]

theorem reported_returned : ∃ log, reported.threads.lookup 0 = some (.returned log) ∧ log.key.route = ⟨"user", "default"⟩ ∧
    log.spendAccountingMode = .providerSpend := by
  have hlog : ((reported.threads.lookup 0).bind log?).map (fun log => (log.key.route, log.spendAccountingMode)) =
      some (⟨"user", "default"⟩, .providerSpend) := by decide +kernel
  obtain ⟨log, hreturned, hmode⟩ := Option.map_eq_some_iff.1 hlog
  obtain ⟨task, htask, hlog⟩ := Option.bind_eq_some_iff.1 hreturned
  obtain ⟨hroute, hmode⟩ := Prod.mk.inj hmode
  exact ⟨log, eq_returned_of_log? hlog ▸ htask, hroute, hmode⟩

/-- A second call, and then a job whose metadata names the mode of the budget. -/
def refreshedSteps : List (Action UsageCall (Option Failure) BudgetEvent) :=
  [.begin 1 (exampleCall "b"), .turn 1 none, .happen (.refresh dollarJob true (some exampleBudget))]

/-- A setup of a dollar, whose metadata names no mode. -/
def modelessSetup : BudgetEvent := .setup ⟨"user", "default"⟩ (some (Table.ofList [("amount_usd", .number 1)])) (some exampleBudget)

end ReplayExample

open ReplayExample

/-- The first report can be repeated throughout a second call and a job that keeps the mode. -/
theorem usage_replay_refreshed : ∃ log, reported.threads.lookup 0 = some (.returned log) ∧
    Throughout (budgetProgram {} fun _ => none).step (fun w => Replays (fun _ => none) (exampleCall "a") log w.store) reported
      refreshedSteps := by
  obtain ⟨log, hreturned, hroute, hmode⟩ := reported_returned
  have hnamed : (normalizeSpendAccountingMode (firstPresent (dollarJob.budget.getD ∅) spendAccountingModeNames)).toOption =
      some .providerSpend := by decide +kernel
  have hrunning : ∀ log, (exec (budgetProgram {} fun _ => none).step { store := exampleStore }
      [.begin 0 (exampleCall "a")]).threads.lookup 0 ≠ some (.returned log) := by
    have hnone : ((exec (budgetProgram {} fun _ => none).step { store := exampleStore }
      [.begin 0 (exampleCall "a")]).threads.lookup 0).bind log? = none := by decide +kernel
    intro log hlog
    rw [hlog] at hnone
    cases hnone
  refine ⟨log, hreturned, ?_⟩
  have hstarted : exec (budgetProgram {} fun _ => none).step { store := exampleStore } [] = { store := exampleStore } := rfl
  have hpending : exec (budgetProgram {} fun _ => none).step { store := exampleStore } [.begin 0 (exampleCall "a")] =
      exec (budgetProgram {} fun _ => none).step { store := exampleStore } [.begin 0 (exampleCall "a")] := rfl
  refine (usage_replay_iff {} (fun _ => none) hstarted (by decide) hpending hrunning hreturned refreshedSteps).2
    ⟨trivial, trivial, ?_, trivial⟩
  intro _ _
  rw [hmode]
  exact Outcome.ok_of_toOption hnamed

/-- After a setup that names no mode, the same report is refused. -/
theorem replay_refused_after_setup : ∃ log, reported.threads.lookup 0 = some (.returned log) ∧
    ¬ Throughout (budgetProgram {} fun _ => none).step (fun w => Replays (fun _ => none) (exampleCall "a") log w.store) reported
      [.happen modelessSetup] := by
  obtain ⟨log, hreturned, -⟩ := reported_returned
  refine ⟨log, hreturned, ?_⟩
  rintro ⟨-, hreplays⟩
  have hrefused : (writeUsageLog (fun _ => none) ((budgetProgram {} fun _ => none).step reported (.happen modelessSetup)).store
      (exampleCall "a")).toOption.isNone = true := by decide +kernel
  rw [show writeUsageLog _ _ _ = .ok _ from hreplays] at hrefused
  cases hrefused

end RouteBudget

end PromptRail
