import PromptRail.LangChain

/-!
# Agent loops that share the middleware (`langchain.py`)

Any number of agent loops share one `PromptRailMiddleware` and one gateway. The callbacks of a loop follow one another, and those of
different loops run in threads of their own: an action is what one loop does between two locks, and a run is any list of actions. What the
model factory, the handler, the extractor and the tools return is a part of the action.
-/

namespace PromptRail

open PyText (Text)
open Table (Dict)
open Routing (CallIntent RouterCandidate RoutingPolicy)

namespace LangChain

open Gateway

/-- A loop of the agent. -/
abbrev LoopId := Nat

/-- `PromptRailAgentState`. -/
structure AgentState where
  runId : Option RunId := none
  pendingCallId : Option CallId := none

/-- `_PendingModelCall`. -/
structure PendingModelCall where
  prepared : PreparedCall
  usage : ModelUsage

/-- How far a loop has come. -/
inductive Phase where
  | created
  /-- Between two callbacks: after `before_agent`, `after_model` or a tool. -/
  | idle
  /-- In `prepare_call`, while the allocator answers. -/
  | allocating (a : Allocation)
  /-- In `prepare_call`, with the budget of the call. -/
  | preparing (budget : CallBudget)
  | prepared (call : PreparedCall)
  /-- The handler is invoked. -/
  | handling (call : PreparedCall)
  | answered (call : PreparedCall)
  /-- `wrap_model_call` has returned, and the state carries its update. -/
  | returned
  /-- In `after_model`, with what it took from the map. -/
  | taken (pending : PendingModelCall)
  /-- The loop was interrupted while the allocator answers, in a thread that goes on. -/
  | abandoned (a : Allocation)
  /-- An exception has ended the loop. -/
  | stopped
  | finished

/-- A loop is not inside a step. -/
def Phase.AtRest : Phase → Prop
  | .created | .idle | .abandoned _ | .stopped | .finished => True
  | _ => False

/-- One agent loop. -/
structure AgentLoop where
  state : AgentState := {}
  phase : Phase := .created

/-- What happens to a call. -/
inductive CallEvent where
  | allocated (loop : LoopId) (runId : RunId) (callId : CallId)
  | invoked (callId : CallId)
  | extracted (callId : CallId) (usage : ModelUsage)
  | settled (callId : CallId) (usage : ModelUsage)
  | failed (callId : CallId) (billingUnknown : Bool)

/-- The call of an event. -/
def CallEvent.callId : CallEvent → CallId
  | .allocated _ _ callId | .invoked callId | .extracted callId _ | .settled callId _ | .failed callId _ => callId

/-- The event resolves its call. -/
def CallEvent.resolves : CallEvent → Bool
  | .settled _ _ | .failed _ _ => true
  | _ => false

/-- `PromptRailMiddleware`, with the gateway and the loops. Nothing reads the history. -/
structure PromptRailMiddleware where
  gateway : PromptRailGateway
  pending : Dict CallId PendingModelCall := ∅
  loops : LoopId → AgentLoop := fun _ => {}
  history : List CallEvent := []

/-- A middleware that no loop has used. -/
def PromptRailMiddleware.start (allocatorModelId : String) : PromptRailMiddleware where
  gateway := { system := System.start allocatorModelId }

/-- What one loop does next. -/
inductive LoopAction where
  | beforeAgent (sessionId : Text) (candidates : List RouterCandidate) (synthesized : Except GatewayError RoutingPolicy)
  /-- An exception outside the reservation of a call, or in `prepare_call`. -/
  | raise
  | begin (args : CallArguments)
  | answer (answer : Option BudgetAllocationDecision)
  | interrupt
  | prepare (intent : CallIntent) (awaited : Awaited)
  /-- `_routed_request` returns, or raises. -/
  | route (returns : Bool)
  /-- The handler returns, or raises. -/
  | handle (returns : Bool)
  /-- The extractor returns a usage, or raises. -/
  | extract (usage : Option ModelUsage)
  | take
  | observe
  /-- A tool returns, or raises. -/
  | tool (returns : Bool)
  | afterAgent

/-- What happens next. -/
inductive Action where
  | elapse (ms : Nat)
  | turn (loop : LoopId) (action : LoopAction)

/-- The run of a call holds its reservation. -/
def holds (g : PromptRailGateway) (budget : CallBudget) : Bool :=
  (g.system.run? budget.runId).any fun run => (run.reserved.lookup budget.callId).isSome

namespace PromptRailMiddleware

/-- A loop replaced. -/
def put (m : PromptRailMiddleware) (loop : LoopId) (l : AgentLoop) : PromptRailMiddleware :=
  { m with loops := Function.update m.loops loop l }

/-- A loop in another phase. -/
def enter (m : PromptRailMiddleware) (loop : LoopId) (phase : Phase) : PromptRailMiddleware :=
  m.put loop { m.loops loop with phase }

/-- A loop in another phase, after something has happened to its call. -/
def enterAfter (m : PromptRailMiddleware) (loop : LoopId) (phase : Phase) (e : CallEvent) : PromptRailMiddleware :=
  { m.enter loop phase with history := m.history ++ [e] }

/-- The gateway replaced, and the event noted if it took the reservation of the call. -/
def resolve (m : PromptRailMiddleware) (g : PromptRailGateway) (budget : CallBudget) (e : CallEvent) : PromptRailMiddleware :=
  { m with
    gateway := g
    history := if holds m.gateway budget && !holds g budget then m.history ++ [e] else m.history }

/-- `before_agent`. -/
def beforeAgent (m : PromptRailMiddleware) (loop : LoopId) (sessionId : Text) (candidates : List RouterCandidate)
    (synthesized : Except GatewayError RoutingPolicy) : PromptRailMiddleware :=
  let started := m.gateway.startRun sessionId candidates synthesized
  let m' := { m with gateway := started.2 }
  match started.1 with
  | .error _ => m'.enter loop .stopped
  | .ok snapshot => m'.put loop { state := { runId := some snapshot.runId }, phase := .idle }

/-- `wrap_model_call`, up to the allocator. -/
def begin (m : PromptRailMiddleware) (loop : LoopId) (args : CallArguments) : PromptRailMiddleware :=
  match (m.loops loop).state.runId with
  | none => m.enter loop .stopped
  | some runId =>
    let out := m.gateway.system.perform (.allocateBegin runId args)
    let m' := { m with gateway := { m.gateway with system := out.2 } }
    match out.1 with
    | .ok (.allocation a) => m'.enter loop (.allocating a)
    | _ => m'.enter loop .stopped

/-- The answer of the allocator to a call of a loop. -/
def answer (m : PromptRailMiddleware) (loop : LoopId) (a : Allocation) (answer : Option BudgetAllocationDecision) :
    PromptRailMiddleware :=
  let out := m.gateway.system.perform (.allocateEnd a.callId answer)
  let m' := { m with gateway := { m.gateway with system := out.2 } }
  match out.1 with
  | .ok (.budget budget) => m'.enterAfter loop (.preparing budget) (.allocated loop budget.runId budget.callId)
  | _ => m'.enter loop .stopped

/-- The answer of the allocator after the interruption of the loop. -/
def answerLate (m : PromptRailMiddleware) (loop : LoopId) (a : Allocation) (answer : Option BudgetAllocationDecision) :
    PromptRailMiddleware :=
  let m' := { m with gateway := { m.gateway with system := m.gateway.system.step (.allocateEnd a.callId answer) } }
  m'.enter loop .stopped

/-- The handlers of `prepare_call` and `wrap_model_call`: the call is failed, and the exception ends the loop. -/
def failCall (m : PromptRailMiddleware) (loop : LoopId) (budget : CallBudget) (billingUnknown : Bool) : PromptRailMiddleware :=
  let failed := m.gateway.system.controller.failCall budget.runId budget.callId billingUnknown
  let g := { m.gateway with system := { m.gateway.system with controller := failed.2 } }
  (m.resolve g budget (.failed budget.callId billingUnknown)).enter loop .stopped

/-- `prepare_call`, once the allocator has answered. -/
def prepare (env : Env) (plannerKeptTokens minimumKeptTokens : Nat) (m : PromptRailMiddleware) (loop : LoopId) (budget : CallBudget)
    (intent : CallIntent) (awaited : Awaited) : PromptRailMiddleware :=
  match prepareCall env plannerKeptTokens minimumKeptTokens m.gateway.runs budget.runId intent
      { awaited with allocate := fun _ => .ok budget } with
  | .ok call => m.enter loop (.prepared call)
  | .error _ => m.failCall loop budget false

/-- `_store_pending`, with the end of `wrap_model_call`. -/
def storePending (m : PromptRailMiddleware) (loop : LoopId) (pending : PendingModelCall) : PromptRailMiddleware :=
  let callId := pending.prepared.budget.callId
  if callId ∈ m.pending then m.enter loop .stopped
  else
    { m with pending := m.pending.insert callId pending }.put loop
      { state := { (m.loops loop).state with pendingCallId := some callId }, phase := .returned }

/-- The extractor in `wrap_model_call`, and what follows it. -/
def extract (m : PromptRailMiddleware) (loop : LoopId) (call : PreparedCall) (usage : Option ModelUsage) : PromptRailMiddleware :=
  match usage with
  | none => m.failCall loop call.budget true
  | some usage =>
    { m with history := m.history ++ [CallEvent.extracted call.budget.callId usage] }.storePending loop
      { prepared := call, usage }

/-- `_take_pending`, in `after_model`. -/
def takePending (m : PromptRailMiddleware) (loop : LoopId) : PromptRailMiddleware :=
  match (m.loops loop).state.pendingCallId with
  | none => m.enter loop .stopped
  | some callId =>
    match m.pending.lookup callId with
    | none => m.enter loop .stopped
    | some pending => { m with pending := m.pending.erase callId }.enter loop (.taken pending)

/-- `after_model`, with what it took. -/
def observe (env : Env) (m : PromptRailMiddleware) (loop : LoopId) (pending : PendingModelCall) : PromptRailMiddleware :=
  let observed := m.gateway.observeModel env pending.prepared pending.usage
  let m' := m.resolve observed.2 pending.prepared.budget (.settled pending.prepared.budget.callId pending.usage)
  match observed.1 with
  | .error _ => m'.enter loop .stopped
  | .ok _ => m'.put loop { state := { (m.loops loop).state with pendingCallId := none }, phase := .idle }

/-- `wrap_tool_call`. -/
def wrapToolCall (m : PromptRailMiddleware) (loop : LoopId) (returns : Bool) : PromptRailMiddleware :=
  match (m.loops loop).state.runId with
  | none => m.enter loop .stopped
  | some runId =>
    let observed := m.gateway.observeTool runId
    let m' := { m with gateway := observed.2 }
    match observed.1, returns with
    | .ok _, true => m'.enter loop .idle
    | _, _ => m'.enter loop .stopped

/-- `after_agent`. -/
def afterAgent (m : PromptRailMiddleware) (loop : LoopId) : PromptRailMiddleware :=
  match (m.loops loop).state.runId with
  | none => m.enter loop .stopped
  | some runId =>
    let finished := m.gateway.finishRun runId true
    let m' := { m with gateway := finished.2 }
    match finished.1 with
    | .ok _ => m'.put loop { phase := .finished }
    | .error _ => m'.enter loop .stopped

/-- One turn of a loop; what does not apply to its phase leaves it. -/
def turn (env : Env) (plannerKeptTokens minimumKeptTokens : Nat) (m : PromptRailMiddleware) (loop : LoopId) (action : LoopAction) :
    PromptRailMiddleware :=
  match (m.loops loop).phase, action with
  | .created, .beforeAgent sessionId candidates synthesized => m.beforeAgent loop sessionId candidates synthesized
  | .created, .raise => m.enter loop .stopped
  | .idle, .begin args => m.begin loop args
  | .idle, .tool returns => m.wrapToolCall loop returns
  | .idle, .afterAgent => m.afterAgent loop
  | .idle, .raise => m.enter loop .stopped
  | .allocating a, .answer decision => m.answer loop a decision
  | .allocating a, .interrupt => m.enter loop (.abandoned a)
  | .abandoned a, .answer decision => m.answerLate loop a decision
  | .preparing budget, .prepare intent awaited => m.prepare env plannerKeptTokens minimumKeptTokens loop budget intent awaited
  | .preparing budget, .raise => m.failCall loop budget false
  | .prepared call, .route true => m.enterAfter loop (.handling call) (.invoked call.budget.callId)
  | .prepared call, .route false => m.failCall loop call.budget false
  | .handling call, .handle true => m.enter loop (.answered call)
  | .handling call, .handle false => m.failCall loop call.budget true
  | .answered call, .extract usage => m.extract loop call usage
  | .returned, .take => m.takePending loop
  | .taken pending, .observe => m.observe env loop pending
  | _, _ => m

/-- One step. -/
def step (env : Env) (plannerKeptTokens minimumKeptTokens : Nat) (m : PromptRailMiddleware) : Action → PromptRailMiddleware
  | .elapse ms => { m with gateway := { m.gateway with system := m.gateway.system.step (.elapse ms) } }
  | .turn loop action => m.turn env plannerKeptTokens minimumKeptTokens loop action

end PromptRailMiddleware

end LangChain

end PromptRail
