import PromptRail.Controller
import PromptRail.Library.Transition

/-!
# Every interleaving of the controller's operations

The state is the controller and the `allocate_call` invocations that are between their two locked phases, with the local
variables each of them holds. A run of the system is a list of operations: the two phases of any number of allocations, and the
other methods, in any order, with the clock moving forward in between.

`Change` says once what an operation can do to a run: `change_of_step` is the inversion lemma every invariant is derived from.
-/

namespace PromptRail

open PyText (Text)
open Table (Dict)

/-- The controller and the allocations in progress. -/
structure System where
  controller : GlobalController
  inFlight : Dict CallId Allocation := ∅

/-- A controller that no method has been called on. -/
def System.start (allocatorModelId : String) : System := { controller := { allocatorModelId } }

/-- What happens next. -/
inductive Op where
  | elapse (ms : Nat)
  | startRun (sessionId : Text) (policy : OperatingPolicy)
  | allocateBegin (runId : RunId) (args : CallArguments)
  | allocateEnd (callId : CallId) (answer : Option BudgetAllocationDecision)
  | settleCall (runId : RunId) (callId : CallId) (costUsd : ℚ) (latencyMs : Int)
  | failCall (runId : RunId) (callId : CallId) (billingUnknown : Bool)
  | observeTool (runId : RunId)
  | finishRun (runId : RunId) (status : RunStatus)

/-- What a caller sees of an operation that does not raise. -/
inductive Reply where
  | elapsed
  | snapshot (s : RunSnapshot)
  | allocation (a : Allocation)
  | budget (b : CallBudget)

namespace System

/-- One operation: what its caller sees, and the state it leaves. The second phase of an allocation that is not in progress is
not a step. -/
def perform (s : System) : Op → Except PyError Reply × System
  | .elapse ms => (.ok .elapsed, { s with controller := { s.controller with now := s.controller.now + ms } })
  | .startRun sessionId policy =>
    let out := s.controller.startRun sessionId policy
    (out.1.map .snapshot, { s with controller := out.2 })
  | .allocateBegin runId args =>
    let out := s.controller.allocateCallBegin runId args
    match out.1 with
    | .error e => (.error e, { s with controller := out.2 })
    | .ok a => (.ok (.allocation a), { controller := out.2, inFlight := s.inFlight.insert a.callId a })
  | .allocateEnd callId answer =>
    match s.inFlight.lookup callId with
    | none => (.ok .elapsed, s)
    | some a =>
      let out := s.controller.allocateCallEnd a answer
      (out.1.map .budget, { controller := out.2, inFlight := s.inFlight.erase callId })
  | .settleCall runId callId costUsd latencyMs =>
    let out := s.controller.settleCall runId callId costUsd latencyMs
    (out.1.map .snapshot, { s with controller := out.2 })
  | .failCall runId callId billingUnknown =>
    let out := s.controller.failCall runId callId billingUnknown
    (out.1.map .snapshot, { s with controller := out.2 })
  | .observeTool runId =>
    let out := s.controller.observeTool runId
    (out.1.map .snapshot, { s with controller := out.2 })
  | .finishRun runId status =>
    let out := s.controller.finishRun runId status
    (out.1.map .snapshot, { s with controller := out.2 })

/-- The state an operation leaves. -/
def step (s : System) (op : Op) : System := (s.perform op).2

/-- The run with an identifier. -/
def run? (s : System) (r : RunId) : Option Run := s.controller.runs r

end System

/-! ## What an operation does to a run -/

/-- The operation is one on this run that gets past its checks and acts. -/
def Op.Acts (s : System) (run : Run) : Op → Prop
  | .elapse _ => False
  | .startRun _ _ => False
  | .allocateBegin r args => r = run.runId ∧ checkArguments args = .ok () ∧ run.status = .active ∧
      (∀ x, run.remainingCost = some x → 0 < x) ∧ (∀ x, run.remainingLatency s.controller.now = some x → 0 < x)
  | .allocateEnd c _ => ∃ a, s.inFlight.lookup c = some a ∧ a.runId = run.runId
  | .settleCall r c costUsd latencyMs =>
      r = run.runId ∧ 0 ≤ costUsd ∧ 0 ≤ latencyMs ∧ run.status = .active ∧ c ∈ run.reserved
  | .failCall r c _ => r = run.runId ∧ run.status = .active ∧ c ∈ run.reserved
  | .observeTool r => r = run.runId ∧ run.status = .active
  | .finishRun r status =>
      r = run.runId ∧ status ≠ .active ∧ run.status = .active ∧ run.pendingAllocations = ∅

/-- The decision passes `_validate_decision` in the second phase of the allocation. -/
def Allocation.Accepts (a : Allocation) (s : System) (run : Run) (decision : BudgetAllocationDecision) : Prop :=
  validateDecision run.policy decision run.remainingCost (run.remainingLatency s.controller.now) a.inputTokens a.cache = .ok ()

/-- The run after a settlement, before the hard limits are compared. -/
def Run.settled (run : Run) (callId : CallId) (costUsd : ℚ) (latencyMs : Int) : Run :=
  { run with
    reserved := run.reserved.erase callId
    spentCostUsd := run.spentCostUsd + costUsd
    spentModelLatencyMs := run.spentModelLatencyMs + latencyMs
    completedCalls := run.completedCalls + 1 }

/-- The run after it ended at a moment. -/
def Run.ended (run : Run) (status : RunStatus) (now : Int) : Run := { run with status := status, finishedAt := some now }

/-- The run with every open reservation charged. -/
def Run.charged (run : Run) : Run :=
  { run with
    spentCostUsd := run.spentCostUsd + run.reservedCost
    spentModelLatencyMs := run.spentModelLatencyMs + run.reservedLatency
    completedCalls := run.completedCalls + Table.size run.reserved
    reserved := ∅ }

/-- A settlement in this state breaks a hard limit: one of the call, or one of the agent. -/
def Run.breaks (run : Run) (now : Int) (costUsd : ℚ) (latencyMs : Int) : Prop :=
  (∃ limit, run.policy.hardCallCostLimitUsd = some limit ∧ limit + costTolerance < costUsd) ∨
  (∃ limit, run.policy.hardCallLatencyLimitMs = some limit ∧ limit < latencyMs) ∨
  (∃ limit, run.policy.hardAgentCostLimitUsd = some limit ∧ limit + costTolerance < run.spentCostUsd + costUsd) ∨
  (∃ limit, run.policy.hardAgentLatencyLimitMs = some limit ∧ limit < run.elapsedMs now)

/-- What one operation does to one run. -/
inductive Change (s : System) (run : Run) : Op → Run → Prop where
  | stay (op : Op) (h : ¬op.Acts s run) : Change s run op run
  | handOut (args : CallArguments) (h : (Op.allocateBegin run.runId args).Acts s run) :
      Change s run (.allocateBegin run.runId args)
        { run with
          nextSequence := run.nextSequence + 1
          pendingAllocations := insert s.controller.uuid run.pendingAllocations }
  | discard (a : Allocation) (answer : Option BudgetAllocationDecision) (ha : s.inFlight.lookup a.callId = some a)
      (hr : a.runId = run.runId) (hn : ∀ d, answer = some d → run.status = .active → ¬a.Accepts s run d) :
      Change s run (.allocateEnd a.callId answer) (run.discardPending a.callId)
  | reserve (a : Allocation) (decision : BudgetAllocationDecision) (ha : s.inFlight.lookup a.callId = some a)
      (hr : a.runId = run.runId) (hs : run.status = .active) (hv : a.Accepts s run decision) :
      Change s run (.allocateEnd a.callId (some decision))
        { run.discardPending a.callId with
          reserved := run.reserved.insert a.callId (a.budget s.controller.allocatorModelId decision) }
  | settle (c : CallId) (b : CallBudget) (costUsd : ℚ) (latencyMs : Int) (hb : run.reserved.lookup c = some b)
      (h : (Op.settleCall run.runId c costUsd latencyMs).Acts s run)
      (hok : ¬run.breaks s.controller.now costUsd latencyMs) :
      Change s run (.settleCall run.runId c costUsd latencyMs) (run.settled c costUsd latencyMs)
  | settleFailing (c : CallId) (b : CallBudget) (costUsd : ℚ) (latencyMs : Int) (hb : run.reserved.lookup c = some b)
      (h : (Op.settleCall run.runId c costUsd latencyMs).Acts s run)
      (hv : run.breaks s.controller.now costUsd latencyMs) :
      Change s run (.settleCall run.runId c costUsd latencyMs)
        ((run.settled c costUsd latencyMs).ended .failed s.controller.now)
  | fail (c : CallId) (b : CallBudget) (billingUnknown : Bool) (hb : run.reserved.lookup c = some b)
      (h : (Op.failCall run.runId c billingUnknown).Acts s run) :
      Change s run (.failCall run.runId c billingUnknown)
        (run.settled c (if billingUnknown then b.costUsd else 0) (if billingUnknown then b.latencyMs else 0))
  | tool (h : (Op.observeTool run.runId).Acts s run) (hd : run.pastDeadline s.controller.now = false) :
      Change s run (.observeTool run.runId) { run with toolCalls := run.toolCalls + 1 }
  | toolFailing (h : (Op.observeTool run.runId).Acts s run) (hd : run.pastDeadline s.controller.now = true) :
      Change s run (.observeTool run.runId)
        (Run.ended { run with toolCalls := run.toolCalls + 1 } .failed s.controller.now)
  | finish (status : RunStatus) (h : (Op.finishRun run.runId status).Acts s run)
      (hd : ¬(status = .completed ∧ run.pastDeadline s.controller.now)) :
      Change s run (.finishRun run.runId status) (run.charged.ended status s.controller.now)
  | finishLate (h : (Op.finishRun run.runId .completed).Acts s run) (hd : run.pastDeadline s.controller.now = true) :
      Change s run (.finishRun run.runId .completed) (run.charged.ended .failed s.controller.now)

/-! ## The bookkeeping the operations share -/

/-- A run is stored under its own identifier, which `uuid4` has drawn; its pending allocations are the ones in progress, each
of a stored run; and the identifiers of allocations in progress and of reservations are drawn, and differ. -/
structure System.Linked (s : System) : Prop where
  runId : ∀ r run, s.run? r = some run → run.runId = r ∧ r < s.controller.uuid
  pending : ∀ r run, s.run? r = some run → ∀ c,
    c ∈ run.pendingAllocations ↔ ∃ a, s.inFlight.lookup c = some a ∧ a.runId = r
  inFlight : ∀ c a, s.inFlight.lookup c = some a → a.callId = c ∧ c < s.controller.uuid ∧
    ∃ run, s.run? a.runId = some run
  reserved : ∀ r run, s.run? r = some run → ∀ c, c ∈ run.reserved → c < s.controller.uuid ∧ c ∉ s.inFlight

end PromptRail
