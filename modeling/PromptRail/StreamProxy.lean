import PromptRail.Library.Transition

/-!
# Stream proxies (`integrations/openai.py`)

The answer of a streamed call stands behind a proxy, which holds the scopes that the call has entered and leaves them when the stream is
exhausted, fails or is closed. A stream is any machine that yields items, and its `close` may raise. How the scopes are left and how often
the stream is closed is recorded.
-/

namespace PromptRail

namespace StreamProxy

open Transition

variable {σ ι ε : Type}

/-! ## Streams -/

/-- What a stream does when it is asked for the next item. -/
inductive Outcome (ι ε : Type) where
  | item (x : ι)
  | exhausted
  | failed (error : ε)

/-- A stream: its next item, and what its `close` raises, if it has one. -/
structure SyncStream (σ ι ε : Type) where
  next : σ → Outcome ι ε × σ
  close : Option (σ → Option ε × σ)

/-- An asynchronous stream: a call of its `close` may raise, or return a result that is to be awaited. -/
structure AsyncStream (σ ι ε : Type) where
  anext : σ → Outcome ι ε × σ
  close : Option (σ → Except ε Bool × σ)
  awaitResult : σ → Option ε × σ

/-- `closer()`, and `await result` where the result is awaitable. -/
def AsyncStream.closing (stream : AsyncStream σ ι ε) (closer : σ → Except ε Bool × σ) (s : σ) : Option ε × σ :=
  match closer s with
  | (.error e, s) => (some e, s)
  | (.ok awaitable, s) => if awaitable then stream.awaitResult s else (none, s)

/-- An asynchronous stream whose calls are awaited. -/
def AsyncStream.awaited (stream : AsyncStream σ ι ε) : SyncStream σ ι ε where
  next := stream.anext
  close := stream.close.map stream.closing

/-! ## Proxies -/

/-- A proxy: the stream, whether it is done with, how its scopes were left, the last time first, and how often the stream was closed. -/
structure Proxy (σ ε : Type) where
  stream : σ
  closed : Bool := false
  exits : List (Option ε) := []
  closes : Nat := 0

/-- What an application sees of a call. -/
inductive Answer (ι ε : Type) where
  | item (x : ι)
  | stopped
  | raised (error : ε)
  | returned

/-- `_close_stack`. -/
def Proxy.closeStack (p : Proxy σ ε) : Proxy σ ε := { p with exits := none :: p.exits }

/-- `_exit_stack`. -/
def Proxy.exitStack (p : Proxy σ ε) (error : ε) : Proxy σ ε := { p with exits := some error :: p.exits }

/-- `_exit_with_error`. -/
def Proxy.exitWithError (p : Proxy σ ε) (error : ε) : Proxy σ ε :=
  if p.closed then p else { p with closed := true }.exitStack error

/-- `close`: what it raises. -/
def close (stream : SyncStream σ ι ε) (p : Proxy σ ε) : Option ε × Proxy σ ε :=
  if p.closed then (none, p)
  else
    match stream.close with
    | none => (none, { p with closed := true }.closeStack)
    | some closer =>
      ((closer p.stream).1, { p with stream := (closer p.stream).2, closed := true, closes := p.closes + 1 }.closeStack)

/-- What a call that may raise answers otherwise. -/
def Answer.ofRaised (otherwise : Answer ι ε) : Option ε → Answer ι ε
  | none => otherwise
  | some e => .raised e

/-- `__next__`. -/
def next (stream : SyncStream σ ι ε) (p : Proxy σ ε) : Answer ι ε × Proxy σ ε :=
  match stream.next p.stream with
  | (.item x, s) => (.item x, { p with stream := s })
  | (.exhausted, s) =>
    let closing := close stream { p with stream := s }
    (Answer.ofRaised .stopped closing.1, closing.2)
  | (.failed e, s) => (.raised e, { p with stream := s }.exitWithError e)

/-- `aclose`. -/
def aclose (stream : AsyncStream σ ι ε) (p : Proxy σ ε) : Option ε × Proxy σ ε := close stream.awaited p

/-- `__anext__`. -/
def anext (stream : AsyncStream σ ι ε) (p : Proxy σ ε) : Answer ι ε × Proxy σ ε := next stream.awaited p

/-- The stream behind a `_SyncStreamProxy` or an `_AsyncStreamProxy`. -/
inductive Underlying (σ ι ε : Type) where
  | sync (stream : SyncStream σ ι ε)
  | async (stream : AsyncStream σ ι ε)

/-- A call of the application. -/
inductive Call where
  | next
  | close

/-- What a call answers, and what becomes of the proxy. -/
def turn (stream : Underlying σ ι ε) (p : Proxy σ ε) : Call → Answer ι ε × Proxy σ ε
  | .next =>
    match stream with
    | .sync stream => next stream p
    | .async stream => anext stream p
  | .close =>
    let closing := match stream with
      | .sync stream => close stream p
      | .async stream => aclose stream p
    (Answer.ofRaised .returned closing.1, closing.2)

def step (stream : Underlying σ ι ε) (p : Proxy σ ε) (call : Call) : Proxy σ ε := (turn stream p call).2

/-! ## What is due -/

/-- The stream as its calls behave when they are awaited. -/
def Underlying.calls : Underlying σ ι ε → SyncStream σ ι ε
  | .sync stream => stream
  | .async stream => stream.awaited

/-- A way to be done with a stream. -/
inductive Ending (ε : Type) where
  | exhaustion
  | error (error : ε)
  | closing

/-- How a call ends the stream. -/
def endingOf (stream : Underlying σ ι ε) (p : Proxy σ ε) : Call → Option (Ending ε)
  | .next =>
    match (stream.calls.next p.stream).1 with
    | .item _ => none
    | .exhausted => some .exhaustion
    | .failed e => some (.error e)
  | .close => some .closing

/-- The endings so far, the first one first. -/
def observe (stream : Underlying σ ι ε) (endings : List (Ending ε)) (p : Proxy σ ε) (call : Call) (_ : Proxy σ ε) : List (Ending ε) :=
  endings ++ (endingOf stream p call).toList

/-- The scopes are left once, at the first ending, and with the error of the stream. -/
def exitsDue : List (Ending ε) → List (Option ε)
  | [] => []
  | .error e :: _ => [some e]
  | .exhaustion :: _ | .closing :: _ => [none]

/-- What the stream itself answers: a proxy that is closed again has nothing to ask it. -/
def answerDue (stream : Underlying σ ι ε) (p : Proxy σ ε) : Call → Answer ι ε
  | .next =>
    match (stream.calls.next p.stream).1 with
    | .item x => .item x
    | .exhausted => .stopped
    | .failed e => .raised e
  | .close =>
    if p.closed then .returned
    else
      match stream.calls.close with
      | none => .returned
      | some closer => Answer.ofRaised .returned (closer p.stream).1

variable (stream : Underlying σ ι ε)

/-- A call is answered by the stream, the scopes are left as is due after it, and when a `close` has returned the stream was closed, where
it can be. -/
structure Faithful (s : Proxy σ ε × List (Ending ε)) (call : Call) : Prop where
  answer : (turn stream s.1 call).1 = answerDue stream s.1 call
  exits : (turn stream s.1 call).2.exits = exitsDue (observe stream s.2 s.1 call (step stream s.1 call))
  closed : call = .close → (turn stream s.1 call).1 = .returned → stream.calls.close.isSome = true →
    1 ≤ (turn stream s.1 call).2.closes

/-- The first ending is no exhaustion after which the `close` of the stream raises, and no error that a `close` follows. -/
def Spared (s : Proxy σ ε × List (Ending ε)) : Call → Prop
  | .next =>
    s.2 = [] → (stream.calls.next s.1.stream).1 = .exhausted → ∀ closer, stream.calls.close = some closer →
      (closer (stream.calls.next s.1.stream).2).1 = none
  | .close => stream.calls.close.isSome = true → ∀ e endings, s.2 ≠ .error e :: endings

end StreamProxy

end PromptRail
