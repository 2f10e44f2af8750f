import PromptRail.Compaction
import PromptRail.Controller.Changes

/-!
# Preparing a call (`gateway.py`)

`prepare_call` is a coroutine that awaits its predictions, the allocation, the ranking, the selection and the planning. The
allocation runs in a thread of its own, which goes on when the coroutine is cancelled; the threads of the other stages do not touch
the controller. One preparation runs beside any other operations of the controller, those of other preparations among them.
-/

namespace PromptRail

namespace Gateway

/-- What the coroutine awaits; from `ranking` on it holds the budget of the call, and an exception releases it. -/
inductive Stage where
  | predicting
  | allocating (cache : CacheAnalysis)
  | ranking (budget : CallBudget)
  | selecting (budget : CallBudget)
  | planning (budget : CallBudget)
  /-- After an exception before `ranking`: the threads that were started. -/
  | draining
  | returned (budget : CallBudget)
  | failed

/-- The budget that the releasing handler covers. -/
def Stage.covered : Stage → Option CallBudget
  | .ranking budget | .selecting budget | .planning budget => some budget
  | _ => none

/-- The thread of the allocation. -/
inductive Worker where
  | idle
  | queued (args : CallArguments)
  | allocating (a : Allocation)
  | done (a : Option Allocation) (answer : Except PyError CallBudget)

/-- The controller, and one preparation that runs beside its other operations. -/
structure Preparation where
  system : System
  stage : Stage := .predicting
  worker : Worker := .idle

/-- A preparation of a controller that no method has been called on. -/
def Preparation.start (allocatorModelId : String) : Preparation := { system := System.start allocatorModelId }

/-- What happens next. -/
inductive PrepareAction where
  | other (op : Op)
  /-- The predictions are there, the cache is analysed, and the allocation is handed to a thread. -/
  | predicted (args : CallArguments)
  | begin
  | answer (answer : Option BudgetAllocationDecision)
  /-- What the coroutine awaits is there. -/
  | resume
  /-- What the coroutine awaits, or what it does with it, raises. -/
  | raise
  /-- The coroutine is cancelled; `unstarted` says that the thread pool gives up an allocation that no thread has begun. -/
  | cancel (unstarted : Bool)

namespace Preparation

/-- The handler that covers the stages from `ranking` on. -/
def release (p : Preparation) (runId : RunId) (budget : CallBudget) : Preparation :=
  { p with system := p.system.step (.failCall runId budget.callId false), stage := .failed }

/-- The second locked phase of the allocation, which only its thread takes. -/
def ownPhase (p : Preparation) (op : Op) : Bool :=
  match p.worker, op with
  | .allocating a, .allocateEnd callId _ => decide (callId = a.callId)
  | _, _ => false

/-- The thread of the allocation takes the first locked phase. -/
def begin (p : Preparation) (runId : RunId) : Preparation :=
  match p.worker with
  | .queued args =>
    let out := p.system.perform (.allocateBegin runId args)
    { p with
      system := out.2
      worker :=
        match out.1 with
        | .ok (.allocation a) => .allocating a
        | .ok _ => .done none (.error .allocatorError)
        | .error e => .done none (.error e) }
  | _ => p

/-- The thread of the allocation takes the second locked phase. -/
def answer (p : Preparation) (answer : Option BudgetAllocationDecision) : Preparation :=
  match p.worker with
  | .allocating a =>
    let out := p.system.perform (.allocateEnd a.callId answer)
    { p with
      system := out.2
      worker :=
        match out.1 with
        | .ok (.budget budget) => .done (some a) (.ok budget)
        | .ok _ => .done (some a) (.error .allocatorError)
        | .error e => .done (some a) (.error e) }
  | _ => p

/-- The coroutine goes on with what it awaited. -/
def resume (p : Preparation) (minimumKeptTokens : Nat) : Preparation :=
  match p.stage with
  | .allocating cache =>
    match p.worker with
    | .done _ (.ok budget) => { p with stage := .ranking (raisedBudget minimumKeptTokens cache budget) }
    | .done _ (.error _) => { p with stage := .draining }
    | _ => p
  | .ranking budget => { p with stage := .selecting budget }
  | .selecting budget => { p with stage := .planning budget }
  | .planning budget => { p with stage := .returned budget }
  | .draining => { p with stage := .failed }
  | _ => p

/-- The coroutine goes on with an exception. -/
def raise (p : Preparation) (runId : RunId) : Preparation :=
  match p.stage with
  | .predicting => { p with stage := .draining }
  | .ranking budget | .selecting budget | .planning budget => p.release runId budget
  | _ => p

/-- The coroutine goes on with a cancellation. -/
def cancel (p : Preparation) (runId : RunId) (unstarted : Bool) : Preparation :=
  match p.stage with
  | .predicting => { p with stage := .draining }
  | .allocating _ =>
    { p with
      stage := .draining
      worker :=
        match p.worker with
        | .queued args => if unstarted then .idle else .queued args
        | worker => worker }
  | .ranking budget | .selecting budget | .planning budget => p.release runId budget
  | .draining => { p with stage := .failed }
  | _ => p

/-- One step. -/
def step (runId : RunId) (minimumKeptTokens : Nat) (p : Preparation) : PrepareAction → Preparation
  | .other op => if p.ownPhase op then p else { p with system := p.system.step op }
  | .predicted args =>
    match p.stage with
    | .predicting => { p with stage := .allocating args.cache, worker := .queued args }
    | _ => p
  | .begin => p.begin runId
  | .answer answer => p.answer answer
  | .resume => p.resume minimumKeptTokens
  | .raise => p.raise runId
  | .cancel unstarted => p.cancel runId unstarted

end Preparation

end Gateway

end PromptRail
