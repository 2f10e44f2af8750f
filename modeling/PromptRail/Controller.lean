import PromptRail.Models

/-!
# The budget controller (`controller.py`)

One definition for each method of `GlobalController`. A method that takes the lock is one function from the state to its
outcome and the state it leaves, since two of them change the run and then raise. `allocate_call` takes the lock twice, with
the allocator in between: `allocateCallBegin` is its first locked phase and `allocateCallEnd` its second; what the call holds in
local variables meanwhile is an `Allocation`. `uuid4` draws the next number, and the two clocks (`perf_counter` and
`datetime.now`) are one clock in milliseconds that the controller reads.

The request handed to the allocator is left out here, for the allocator's answer is arbitrary. Building it raises only for numbers of
tokens that no float holds, of which `Controller.Allocation` is.
-/

namespace PromptRail

open PyText (Text)
open Table (Dict total)

/-- `_Run`. -/
structure Run where
  runId : RunId
  sessionId : Text
  policy : OperatingPolicy
  status : RunStatus := .active
  completedCalls : Nat := 0
  spentCostUsd : ℚ := 0
  spentModelLatencyMs : Int := 0
  reserved : Dict CallId CallBudget := ∅
  pendingAllocations : Finset CallId := ∅
  nextSequence : Nat := 1
  toolCalls : Nat := 0
  startedAt : Int
  finishedAt : Option Int := none

/-- `_reserved_totals`, the cost. -/
def Run.reservedCost (run : Run) : ℚ := total (fun _ b => b.costUsd) run.reserved

/-- `_reserved_totals`, the latency. -/
def Run.reservedLatency (run : Run) : Int := total (fun _ b => b.latencyMs) run.reserved

/-- `_elapsed_ms`. -/
def Run.elapsedMs (run : Run) (now : Int) : Int := max 0 (now - run.startedAt)

/-- `_remaining_cost`. -/
def Run.remainingCost (run : Run) : Option ℚ :=
  run.policy.hardAgentCostLimitUsd.map fun limit => limit - run.spentCostUsd - run.reservedCost

/-- `_remaining_latency`. -/
def Run.remainingLatency (run : Run) (now : Int) : Option Int :=
  run.policy.hardAgentLatencyLimitMs.map fun limit => limit - run.elapsedMs now

/-- `_snapshot`. -/
def Run.snapshot (run : Run) : RunSnapshot where
  runId := run.runId
  sessionId := run.sessionId
  status := run.status
  completedCalls := run.completedCalls
  spentCostUsd := run.spentCostUsd
  spentModelLatencyMs := run.spentModelLatencyMs
  reservedCostUsd := run.reservedCost
  reservedLatencyMs := run.reservedLatency
  toolCalls := run.toolCalls
  startedAt := run.startedAt
  finishedAt := run.finishedAt

/-- The slack the cost comparisons allow. -/
def costTolerance : ℚ := 1 / 1000000000000

/-- The run is past the deadline of its policy. -/
def Run.pastDeadline (run : Run) (now : Int) : Bool :=
  run.policy.hardAgentLatencyLimitMs.any fun limit => limit < run.elapsedMs now

/-- The message of `_active_run`. -/
def notActive (status : RunStatus) : PyError := .budgetError ("agent run is " ++ status.value)

/-- The message for a call that holds no reservation. -/
def unknownReservation (callId : CallId) : PyError :=
  .budgetError ("unknown or already-settled call reservation: call_" ++ toString callId)

/-- The message of an expired deadline. -/
def deadlineError : PyError := .budgetError "agent execution exceeded its optional hard latency deadline"

/-- `_validate_decision`. -/
def validateDecision (policy : OperatingPolicy) (decision : BudgetAllocationDecision) (remainingCost : Option ℚ)
    (remainingLatency : Option Int) (inputTokens : Int) (cache : CacheAnalysis) : Except PyError Unit :=
  if inputTokens < decision.requiredContextTokens then
    .error (.budgetError "Gemma required_context_tokens exceeds the available input")
  else if decision.importanceOverrides.any fun item => !cache.contextBlocks.any fun b => b.blockId == item.blockId then
    .error (.budgetError "Gemma returned an importance override for an unknown context block")
  else if decision.importanceOverrides.any fun item =>
      cache.contextBlocks.any fun b => b.structurallyImmutable && b.blockId == item.blockId then
    .error (.budgetError "Gemma cannot override structurally immutable context")
  else if policy.hardCallCostLimitUsd.any fun limit => limit + costTolerance < decision.costUsd then
    .error (.budgetError "Gemma allocation exceeds the optional hard per-call cost limit")
  else if policy.hardCallLatencyLimitMs.any fun limit => limit < decision.latencyMs then
    .error (.budgetError "Gemma allocation exceeds the optional hard per-call latency limit")
  else if remainingCost.any fun remaining => remaining + costTolerance < decision.costUsd then
    .error (.budgetError "Gemma allocation exceeds the remaining hard agent cost limit")
  else if remainingLatency.any fun remaining => remaining < decision.latencyMs then
    .error (.budgetError "Gemma allocation exceeds the remaining hard agent latency limit")
  else .ok ()

/-- What an `allocate_call` holds in local variables between its two locked phases. -/
structure Allocation where
  runId : RunId
  callId : CallId
  sequence : Nat
  inputTokens : Int
  cache : CacheAnalysis

/-- The arguments of `allocate_call`. A priority that is not finite is refused as one that is not positive is, and stands as zero. -/
structure CallArguments where
  task : Text
  inputTokens : Int
  predictedOutputTokens : Int
  cache : CacheAnalysis
  candidates : List ModelCandidate
  priority : ℚ := 1

/-- The checks `allocate_call` makes before it takes the lock. -/
def checkArguments (args : CallArguments) : Except PyError Unit :=
  if (PyText.strip args.task).isEmpty then .error (.valueError "task cannot be empty")
  else if args.inputTokens < 0 then .error (.valueError "input_tokens cannot be negative")
  else if args.predictedOutputTokens ≤ 0 then .error (.valueError "predicted_output_tokens must be positive")
  else if args.priority ≤ 0 then .error (.valueError "priority must be finite and positive")
  else if args.candidates.isEmpty then
    .error (.valueError "Gemma allocation requires model candidate evidence")
  else if args.inputTokens ≠ args.cache.totalTokens then
    .error (.valueError "cache analysis does not cover the complete call input")
  else .ok ()

/-- `allocate_call`, the first locked phase, on the run: the allocation takes the number `callId` and the next sequence number. -/
def Run.allocateCallBegin (run : Run) (now : Int) (callId : CallId) (args : CallArguments) :
    Except PyError Allocation × Run :=
  if run.status ≠ .active then (.error (notActive run.status), run)
  else if run.remainingCost.any (· ≤ 0) then
    (.error (.budgetError "optional hard agent cost limit is exhausted"), run)
  else if (run.remainingLatency now).any (· ≤ 0) then
    (.error (.budgetError "optional hard agent latency limit is exhausted"), run)
  else
    (.ok { runId := run.runId, callId, sequence := run.nextSequence, inputTokens := args.inputTokens, cache := args.cache },
      { run with
        nextSequence := run.nextSequence + 1
        pendingAllocations := insert callId run.pendingAllocations })

/-- The budget the second phase reserves for a decision. -/
def Allocation.budget (a : Allocation) (allocatorModelId : String) (decision : BudgetAllocationDecision) : CallBudget where
  runId := a.runId
  callId := a.callId
  sequence := a.sequence
  costUsd := decision.costUsd
  inputCostUsd := decision.costUsd * decision.inputCostFraction
  outputCostUsd := decision.costUsd - decision.costUsd * decision.inputCostFraction
  latencyMs := decision.latencyMs
  allocatorModelId := allocatorModelId
  allocatorReason := decision.reason
  requiredContextTokens := decision.requiredContextTokens
  importanceOverrides := decision.importanceOverrides

/-- `_discard_pending`. -/
def Run.discardPending (run : Run) (callId : CallId) : Run :=
  { run with pendingAllocations := run.pendingAllocations.erase callId }

/-- `allocate_call` after the allocator answered with a decision, or raised (`none`). -/
def Run.allocateCallEnd (run : Run) (now : Int) (allocatorModelId : String) (a : Allocation)
    (answer : Option BudgetAllocationDecision) : Except PyError CallBudget × Run :=
  match answer with
  | none => (.error .allocatorError, run.discardPending a.callId)
  | some decision =>
    let run := run.discardPending a.callId
    if run.status ≠ .active then
      (.error (.budgetError ("agent run became " ++ run.status.value ++ " during allocation")), run)
    else
      match validateDecision run.policy decision run.remainingCost (run.remainingLatency now) a.inputTokens a.cache with
      | .error e => (.error e, run)
      | .ok () =>
        let budget := a.budget allocatorModelId decision
        (.ok budget, { run with reserved := run.reserved.insert a.callId budget })

/-- The hard limits a settlement breaks, `spent` being the spend it leaves. -/
def settlementViolations (policy : OperatingPolicy) (spent costUsd : ℚ) (latencyMs elapsedMs : Int) : List String :=
  (if policy.hardCallCostLimitUsd.any fun limit => limit + costTolerance < costUsd then
    ["provider usage exceeded the optional hard per-call cost limit"] else []) ++
  (if policy.hardCallLatencyLimitMs.any fun limit => limit < latencyMs then
    ["provider execution exceeded the optional hard per-call latency limit"] else []) ++
  (if policy.hardAgentCostLimitUsd.any fun limit => limit + costTolerance < spent then
    ["provider usage exceeded the optional hard agent cost limit"] else []) ++
  (if policy.hardAgentLatencyLimitMs.any fun limit => limit < elapsedMs then
    ["agent execution exceeded its optional hard latency deadline"] else [])

/-- `settle_call`. -/
def Run.settleCall (run : Run) (now : Int) (callId : CallId) (costUsd : ℚ) (latencyMs : Int) :
    Except PyError RunSnapshot × Run :=
  if costUsd < 0 then (.error (.valueError "cost_usd must be finite and non-negative"), run)
  else if latencyMs < 0 then (.error (.valueError "latency_ms cannot be negative"), run)
  else if run.status ≠ .active then (.error (notActive run.status), run)
  else
    match run.reserved.lookup callId with
    | none => (.error (unknownReservation callId), run)
    | some _ =>
      let run := { run with
        reserved := run.reserved.erase callId
        spentCostUsd := run.spentCostUsd + costUsd
        spentModelLatencyMs := run.spentModelLatencyMs + latencyMs
        completedCalls := run.completedCalls + 1 }
      let violations := settlementViolations run.policy run.spentCostUsd costUsd latencyMs (run.elapsedMs now)
      if violations.isEmpty then (.ok run.snapshot, run)
      else (.error (.budgetError ("; ".intercalate violations)), { run with status := .failed, finishedAt := some now })

/-- `fail_call`. -/
def Run.failCall (run : Run) (callId : CallId) (billingUnknown : Bool) : Except PyError RunSnapshot × Run :=
  if run.status ≠ .active then (.error (notActive run.status), run)
  else
    match run.reserved.lookup callId with
    | none => (.error (unknownReservation callId), run)
    | some budget =>
      let run := { run with
        reserved := run.reserved.erase callId
        spentCostUsd := if billingUnknown then run.spentCostUsd + budget.costUsd else run.spentCostUsd
        spentModelLatencyMs :=
          if billingUnknown then run.spentModelLatencyMs + budget.latencyMs else run.spentModelLatencyMs
        completedCalls := run.completedCalls + 1 }
      (.ok run.snapshot, run)

/-- `observe_tool`. -/
def Run.observeTool (run : Run) (now : Int) : Except PyError RunSnapshot × Run :=
  if run.status ≠ .active then (.error (notActive run.status), run)
  else
    let run := { run with toolCalls := run.toolCalls + 1 }
    if run.pastDeadline now then (.error deadlineError, { run with status := .failed, finishedAt := some now })
    else (.ok run.snapshot, run)

/-- `finish_run`. -/
def Run.finishRun (run : Run) (now : Int) (status : RunStatus) : Except PyError RunSnapshot × Run :=
  if status = .active then (.error (.valueError "a finished run cannot remain active"), run)
  else if run.status ≠ .active then
    if run.status = status then (.ok run.snapshot, run)
    else (.error (.budgetError ("agent run is already " ++ run.status.value)), run)
  else if run.pendingAllocations.Nonempty then
    (.error (.budgetError "cannot finish an agent run while Gemma allocations are pending"), run)
  else
    -- the unresolved reservations are charged in full, whatever ends the run
    let run := { run with
      spentCostUsd := run.spentCostUsd + run.reservedCost
      spentModelLatencyMs := run.spentModelLatencyMs + run.reservedLatency
      completedCalls := run.completedCalls + Table.size run.reserved
      reserved := ∅ }
    if status = .completed ∧ run.pastDeadline now then
      (.error deadlineError, { run with status := .failed, finishedAt := some now })
    else
      let run := { run with status := status, finishedAt := some now }
      (.ok run.snapshot, run)

/-- `GlobalController`: the runs, the next number `uuid4` draws, and the clock the methods read. -/
structure GlobalController where
  allocatorModelId : String
  runs : RunId → Option Run := fun _ => none
  uuid : Nat := 0
  now : Int := 0

namespace GlobalController

/-- A run replaced. -/
def setRun (c : GlobalController) (runId : RunId) (run : Run) : GlobalController :=
  { c with runs := Function.update c.runs runId (some run) }

/-- `_run`, and what a method does on the run it finds. -/
def onRun {α : Type} (c : GlobalController) (runId : RunId) (method : Run → Except PyError α × Run) :
    Except PyError α × GlobalController :=
  match c.runs runId with
  | none => (.error (.budgetError ("unknown agent run: run_" ++ toString runId)), c)
  | some run => ((method run).1, c.setRun runId (method run).2)

/-- `start_run`. -/
def startRun (c : GlobalController) (sessionId : Text) (policy : OperatingPolicy) :
    Except PyError RunSnapshot × GlobalController :=
  if (PyText.strip sessionId).isEmpty then (.error (.valueError "session_id cannot be empty"), c)
  else
    let run : Run := { runId := c.uuid, sessionId, policy, startedAt := c.now }
    (.ok run.snapshot, { c with runs := Function.update c.runs c.uuid (some run), uuid := c.uuid + 1 })

/-- `allocate_call` up to the end of its first locked phase. -/
def allocateCallBegin (c : GlobalController) (runId : RunId) (args : CallArguments) :
    Except PyError Allocation × GlobalController :=
  match checkArguments args with
  | .error e => (.error e, c)
  | .ok () =>
    let out := c.onRun runId fun run => run.allocateCallBegin c.now c.uuid args
    (out.1, { out.2 with uuid := c.uuid + 1 })

/-- `allocate_call` from the allocator's answer on. -/
def allocateCallEnd (c : GlobalController) (a : Allocation) (answer : Option BudgetAllocationDecision) :
    Except PyError CallBudget × GlobalController :=
  c.onRun a.runId fun run => run.allocateCallEnd c.now c.allocatorModelId a answer

/-- `settle_call`. -/
def settleCall (c : GlobalController) (runId : RunId) (callId : CallId) (costUsd : ℚ) (latencyMs : Int) :
    Except PyError RunSnapshot × GlobalController :=
  c.onRun runId fun run => run.settleCall c.now callId costUsd latencyMs

/-- `fail_call`. -/
def failCall (c : GlobalController) (runId : RunId) (callId : CallId) (billingUnknown : Bool) :
    Except PyError RunSnapshot × GlobalController :=
  c.onRun runId fun run => run.failCall callId billingUnknown

/-- `observe_tool`. -/
def observeTool (c : GlobalController) (runId : RunId) : Except PyError RunSnapshot × GlobalController :=
  c.onRun runId fun run => run.observeTool c.now

/-- `finish_run`. -/
def finishRun (c : GlobalController) (runId : RunId) (status : RunStatus) :
    Except PyError RunSnapshot × GlobalController :=
  c.onRun runId fun run => run.finishRun c.now status

end GlobalController

end PromptRail
