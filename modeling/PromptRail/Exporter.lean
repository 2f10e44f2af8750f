import PromptRail.Library.Transition

/-!
# The event exporter (`exporter/worker.py`, `exporter/queue.py`)

Any thread puts events into a bounded queue. The thread of the worker takes them out and hands them to `_send_with_backoff` in batches;
after the stop signal, and once that thread has ended, the thread that shuts the exporter down takes out the rest. An action is what a
thread does between two accesses to what the threads share. What was accepted, handed over and sent is recorded.
-/

namespace PromptRail

namespace Exporter

variable {Event : Type}

/-- The settings, and which batches can be encoded. -/
structure Config (Event : Type) where
  maxQueueSize : Int
  exportBatchSize : Int
  maxExportRetries : Int
  encodes : List Event → Bool

variable (config : Config Event)

/-- `max(1, int(maxsize))`. -/
def Config.maxsize : Nat := (max 1 config.maxQueueSize).toNat

def Config.batchSize : Nat := (max 1 config.exportBatchSize).toNat

def Config.maxRetries : Nat := (max 1 config.maxExportRetries).toNat

/-! ## `_send_with_backoff` -/

/-- What becomes of a request. One that may be repeated failed in time, or so late that the deadline has passed. -/
inductive Reply where
  | delivered
  | refused
  | failed (late : Bool)

/-- A call: its number among all calls, its batch, whether it knows a deadline, and its attempts. -/
structure Sending (Event : Type) where
  number : Nat
  batch : List Event
  deadline : Bool
  attempts : Nat := 0

/-- A turn of the loop: whether a request was sent, how many events are counted as dropped or failed, and the call that goes on. -/
structure Turn (Event : Type) where
  sent : Bool
  dropped : Nat := 0
  failed : Nat := 0
  late : Bool := false
  next : Option (Sending Event) := none

/-- The loop once more; a batch that cannot be encoded does not come to its first turn. -/
def Sending.turn (expired : Bool) (reply : Reply) (call : Sending Event) : Turn Event :=
  if config.encodes call.batch = false then { sent := false, dropped := call.batch.length }
  else if config.maxRetries ≤ call.attempts then { sent := false }
  else if call.deadline ∧ expired then { sent := false, failed := call.batch.length }
  else
    match reply with
    | .delivered => { sent := true }
    | .refused => { sent := true, failed := call.batch.length }
    | .failed late =>
      -- with a deadline that has passed there is no time to sleep
      if call.deadline ∧ late then { sent := true, failed := call.batch.length, late := true }
      else { sent := true, failed := call.batch.length, next := some { call with attempts := call.attempts + 1 } }

/-! ## Threads -/

/-- The thread that runs `_run`: at the head of its loop, in `queue.get`, or in a call, which is the last one after the loop. -/
inductive Worker (Event : Type) where
  | absent
  | loop (batch : List Event)
  | getting (batch : List Event)
  | sending (call : Sending Event) (last : Bool)

/-- The thread that runs `shutdown`: before it, waiting for the worker, in `_drain_until`, and after it. -/
inductive Shutdown (Event : Type) where
  | idle
  | joining
  | draining (batch : List Event)
  | sending (call : Sending Event) (last : Bool)
  | closed
  | abandoned

/-- The batch that a thread holds and has not handed over. -/
def Worker.batch : Worker Event → List Event
  | .loop batch | .getting batch => batch
  | _ => []

def Shutdown.batch : Shutdown Event → List Event
  | .draining batch => batch
  | _ => []

/-- Whether there is a `_shutdown_deadline`. -/
def Shutdown.begun : Shutdown Event → Bool
  | .idle => false
  | _ => true

def Shutdown.underWay : Shutdown Event → Bool
  | .joining | .draining _ | .sending _ _ => true
  | _ => false

/-- What the threads share, their places, and the record of what was accepted, handed over, and sent by number. -/
structure State (Event : Type) where
  queue : List Event := []
  stopped : Bool := false
  expired : Bool := false
  worker : Worker Event := .absent
  shutdown : Shutdown Event := .idle
  droppedFull : Nat := 0
  droppedSerialization : Nat := 0
  failedExports : Nat := 0
  accepted : List Event := []
  handed : List (List Event) := []
  sends : List Nat := []

namespace State

/-- `EventQueue.put_nowait`. -/
def enqueue (event : Event) (s : State Event) : State Event :=
  if s.queue.length < config.maxsize then { s with queue := s.queue ++ [event], accepted := s.accepted ++ [event] }
  else { s with droppedFull := s.droppedFull + 1 }

/-- `start`: a thread that is alive goes on. -/
def start (s : State Event) : State Event :=
  match s.worker with
  | .absent => { s with worker := .loop [] }
  | _ => s

/-! ### Calls -/

/-- A batch is handed over by the worker. -/
def workerHands (batch : List Event) (last : Bool) (s : State Event) : State Event :=
  { s with
    handed := s.handed ++ [batch]
    worker := .sending { number := s.handed.length, batch, deadline := s.shutdown.begun } last }

/-- A batch is handed over by the thread that shuts down. -/
def drainHands (batch : List Event) (last : Bool) (s : State Event) : State Event :=
  { s with
    handed := s.handed ++ [batch]
    shutdown := .sending { number := s.handed.length, batch, deadline := true } last }

/-- What a turn of a call leaves in what the threads share. -/
def turned (call : Sending Event) (turn : Turn Event) (s : State Event) : State Event :=
  { s with
    sends := if turn.sent then s.sends ++ [call.number] else s.sends
    droppedSerialization := s.droppedSerialization + turn.dropped
    failedExports := s.failedExports + turn.failed
    expired := s.expired || turn.late }

/-! ### `_run` -/

/-- The head of the loop. -/
def check (s : State Event) : State Event :=
  match s.worker with
  | .loop batch =>
    if s.stopped then
      match batch with
      | [] => { s with worker := .absent }
      | _ => s.workerHands batch true
    else { s with worker := .getting batch }
  | _ => s

/-- `queue.get` returns an item. -/
def get (s : State Event) : State Event :=
  match s.worker, s.queue with
  | .getting batch, item :: queue =>
    if config.batchSize ≤ (batch ++ [item]).length then { s with queue }.workerHands (batch ++ [item]) false
    else { s with queue, worker := .loop (batch ++ [item]) }
  | _, _ => s

/-- `queue.get` raises `Empty`, which it does on an empty queue alone. -/
def timeout (s : State Event) : State Event :=
  match s.worker, s.queue with
  | .getting [], [] => { s with worker := .loop [] }
  | .getting batch, [] => s.workerHands batch false
  | _, _ => s

def workerTurn (reply : Reply) (s : State Event) : State Event :=
  match s.worker with
  | .sending call last =>
    let turn := call.turn config s.expired reply
    { s.turned call turn with
      worker :=
        match turn.next with
        | some call => .sending call last
        | none => if last then .absent else .loop [] }
  | _ => s

/-! ### `shutdown` -/

/-- The deadline is set and the stop signal given. -/
def beginShutdown (s : State Event) : State Event :=
  match s.shutdown with
  | .idle => { s with stopped := true, shutdown := .joining }
  | _ => s

/-- `join` returns: the worker has ended, or the time is up. -/
def join (s : State Event) : State Event :=
  match s.shutdown, s.worker with
  | .joining, .absent => { s with shutdown := .draining [] }
  | .joining, _ => if s.expired then { s with shutdown := .abandoned } else s
  | _, _ => s

/-- The loop of `_drain_until` once more, and what follows it. -/
def drain (s : State Event) : State Event :=
  match s.shutdown with
  | .draining batch =>
    if s.expired then { s with shutdown := .closed }
    else
      match s.queue, batch with
      | item :: queue, batch =>
        if config.batchSize ≤ (batch ++ [item]).length then { s with queue }.drainHands (batch ++ [item]) false
        else { s with queue, shutdown := .draining (batch ++ [item]) }
      | [], [] => { s with shutdown := .closed }
      | [], batch => s.drainHands batch true
  | _ => s

def drainTurn (reply : Reply) (s : State Event) : State Event :=
  match s.shutdown with
  | .sending call last =>
    let turn := call.turn config s.expired reply
    { s.turned call turn with
      shutdown :=
        match turn.next with
        | some call => .sending call last
        | none => if last then .closed else .draining [] }
  | _ => s

/-- The deadline passes before the shutdown is over. -/
def expire (s : State Event) : State Event := if s.shutdown.underWay then { s with expired := true } else s

end State

inductive Action (Event : Type) where
  | enqueue (event : Event)
  | start
  | stop
  | check
  | get
  | timeout
  | workerTurn (reply : Reply)
  | shutdown
  | join
  | drain
  | drainTurn (reply : Reply)
  | expire

def step (s : State Event) : Action Event → State Event
  | .enqueue event => s.enqueue config event
  | .start => s.start
  | .stop => { s with stopped := true }
  | .check => s.check
  | .get => s.get config
  | .timeout => s.timeout
  | .workerTurn reply => s.workerTurn config reply
  | .shutdown => s.beginShutdown
  | .join => s.join
  | .drain => s.drain config
  | .drainTurn reply => s.drainTurn config reply
  | .expire => s.expire

end Exporter

end PromptRail
