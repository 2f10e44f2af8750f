import PromptRail.StreamProxy

/-!
# What the application sees of a stream

The scopes are left once and as is due, whatever the stream does. A `close` after an error of the stream does nothing, since the error has
closed the proxy and not the stream; and where the `close` of an exhausted stream raises, the application sees that error in place of the
end of the stream.
-/

namespace PromptRail

namespace StreamProxy

open Transition

variable {σ ι ε : Type}

namespace FaithfulAux

/-- The proxy is closed since the first ending, and so is the stream, unless that was an error. -/
structure Follows (stream : Underlying σ ι ε) (s : Proxy σ ε × List (Ending ε)) : Prop where
  exits : s.1.exits = exitsDue s.2
  closed : s.1.closed = !s.2.isEmpty
  closes : stream.calls.close.isSome = true → s.2 ≠ [] → (∀ e endings, s.2 ≠ .error e :: endings) → 1 ≤ s.1.closes
  failed : ∀ e endings, s.2 = .error e :: endings → s.1.closes = 0
  opened : s.2 = [] → s.1.closes = 0

variable {stream : Underlying σ ι ε} {p : Proxy σ ε} {endings : List (Ending ε)}

/-! ## One call -/

theorem turn_next : turn stream p .next = next stream.calls p := by
  cases stream <;> rfl

theorem turn_close : turn stream p .close = (Answer.ofRaised .returned (close stream.calls p).1, (close stream.calls p).2) := by
  cases stream <;> rfl

/-- A proxy that is closed stays as it is when it is closed again. -/
theorem close_closed (stream : SyncStream σ ι ε) (h : p.closed = true) : close stream p = (none, p) := if_pos h

/-- What becomes of a proxy that is closed for the first time. -/
theorem close_open (stream : SyncStream σ ι ε) (h : p.closed = false) :
    (close stream p).2.closed = true ∧ (close stream p).2.exits = none :: p.exits ∧
      (stream.close.isSome = true → (close stream p).2.closes = p.closes + 1) ∧
      (close stream p).1 = stream.close.bind fun closer => (closer p.stream).1 := by
  have hopen : ¬p.closed = true := Bool.eq_false_iff.1 h
  rw [close, if_neg hopen]
  cases hclose : stream.close with
  | none => exact ⟨rfl, rfl, fun hsome => absurd hsome Bool.false_ne_true, rfl⟩
  | some closer => exact ⟨rfl, rfl, fun _ => rfl, rfl⟩

/-- What is due does not change after the first ending. -/
theorem exitsDue_append {ending : Ending ε} {later : List (Ending ε)} :
    exitsDue (ending :: endings ++ later) = exitsDue (ending :: endings) := by
  cases ending <;> rfl

theorem ofRaised_stopped_iff {raised : Option ε} : (Answer.ofRaised .stopped raised : Answer ι ε) = .stopped ↔ raised = none := by
  cases raised <;> simp [Answer.ofRaised]

/-! ## The proxy that was closed -/

section Closed

variable {ending : Ending ε} (h : Follows stream (p, ending :: endings))

include h

/-- Once the stream has ended, its items and errors are passed on and nothing else happens. -/
theorem next_ended : (next stream.calls p).1 = answerDue stream p .next ∧
    (next stream.calls p).2 = { p with stream := (stream.calls.next p.stream).2 } := by
  have hclosed : p.closed = true := h.closed
  rw [next, answerDue]
  cases hnext : stream.calls.next p.stream with
  | mk outcome s =>
    cases outcome with
    | item x => exact ⟨rfl, rfl⟩
    | exhausted =>
      have hstays : close stream.calls { p with stream := s } = (none, { p with stream := s }) := close_closed stream.calls hclosed
      dsimp only
      rw [hstays]
      exact ⟨rfl, rfl⟩
    | failed e => exact ⟨rfl, if_pos hclosed⟩

theorem follows_ended {s : σ} (later : List (Ending ε)) : Follows stream ({ p with stream := s }, ending :: endings ++ later) := by
  refine ⟨?_, h.closed, fun hsome _ hfirst => ?_, fun e rest heq => ?_, fun hnil => nomatch hnil⟩
  · rw [exitsDue_append]
    exact h.exits
  · refine h.closes hsome (List.cons_ne_nil _ _) fun e rest heq => ?_
    obtain ⟨rfl, rfl⟩ := List.cons.inj heq
    exact hfirst e _ rfl
  · obtain ⟨rfl, -⟩ := List.cons.inj heq
    exact h.failed e endings rfl

end Closed

/-! ## The proxy that is open -/

section Open

variable (h : Follows stream (p, []))

include h

/-- A proxy that is closed first of all closes its stream and leaves its scopes. -/
theorem follows_close (s : σ) {ending : Ending ε} (hending : ∀ e, ending ≠ .error e) :
    Follows stream ((close stream.calls { p with stream := s }).2, [ending]) := by
  obtain ⟨hclosed, hexits, hcloses, -⟩ := close_open (p := { p with stream := s }) stream.calls h.closed
  have hdue : exitsDue [ending] = [none] := by
    cases ending with
    | error e => exact absurd rfl (hending e)
    | exhaustion | closing => rfl
  refine ⟨?_, hclosed, fun hsome _ _ => ?_, fun e rest heq => ?_, fun hnil => nomatch hnil⟩
  · rw [hdue, hexits]
    exact congrArg (none :: ·) h.exits
  · rw [hcloses hsome]
    exact Nat.le_add_left 1 _
  · exact absurd (List.cons.inj heq).1 (hending e)

/-- The first error of a stream leaves the scopes with it. -/
theorem follows_exitWithError (s : σ) (e : ε) : Follows stream (({ p with stream := s } : Proxy σ ε).exitWithError e, [.error e]) := by
  have hopen : ¬({ p with stream := s } : Proxy σ ε).closed = true := Bool.eq_false_iff.1 h.closed
  rw [Proxy.exitWithError, if_neg hopen]
  refine ⟨congrArg (some e :: ·) h.exits, rfl, fun _ _ hfirst => absurd rfl (hfirst e []), fun _ _ _ => h.opened rfl,
    fun hnil => nomatch hnil⟩

/-- An item changes nothing but the stream. -/
theorem follows_item (s : σ) : Follows stream ({ p with stream := s }, []) :=
  ⟨h.exits, h.closed, fun _ hne => absurd rfl hne, fun _ _ heq => (nomatch heq), h.opened⟩

end Open

/-! ## Steps -/

/-- The record follows the endings, whatever a call does. -/
theorem follows_step {s : Proxy σ ε × List (Ending ε)} (h : Follows stream s) (call : Call) :
    Follows stream (monitor (step stream) (observe stream) s call) := by
  obtain ⟨p, endings⟩ := s
  rw [monitor, observe]
  dsimp only
  rw [step]
  cases endings with
  | cons ending endings =>
    cases call with
    | next =>
      rw [turn_next, (next_ended h).2]
      exact follows_ended h _
    | close =>
      rw [turn_close, close_closed _ h.closed]
      exact follows_ended (s := p.stream) h _
  | nil =>
    cases call with
    | next =>
      rw [turn_next, next, endingOf]
      cases stream.calls.next p.stream with
      | mk outcome s =>
        cases outcome with
        | item x => exact follows_item h s
        | exhausted => exact follows_close h s (by rintro e ⟨⟩)
        | failed e => exact follows_exitWithError h s e
    | close =>
      rw [turn_close]
      exact follows_close h p.stream (by rintro e ⟨⟩)

/-- A call is faithful exactly where it is spared what the shared flag does. -/
theorem faithful_iff {s : Proxy σ ε × List (Ending ε)} (h : Follows stream s) (call : Call) :
    Faithful stream s call ↔ Spared stream s call := by
  have hexits : (turn stream s.1 call).2.exits = exitsDue (observe stream s.2 s.1 call (step stream s.1 call)) :=
    (follows_step h call).exits
  obtain ⟨p, endings⟩ := s
  cases call with
  | next =>
    have hfaithful : Faithful stream (p, endings) .next ↔ (next stream.calls p).1 = answerDue stream p .next := by
      rw [← turn_next]
      exact ⟨fun hcall => hcall.answer, fun hanswer => ⟨hanswer, hexits, fun hclose => nomatch hclose⟩⟩
    rw [hfaithful]
    cases endings with
    | cons ending endings => exact iff_of_true (next_ended h).1 fun hnil => nomatch hnil
    | nil =>
      rw [next, answerDue]
      simp only [Spared]
      cases stream.calls.next p.stream with
      | mk outcome s =>
        cases outcome with
        | item x => exact iff_of_true rfl fun _ heq => nomatch heq
        | failed e => exact iff_of_true rfl fun _ heq => nomatch heq
        | exhausted =>
          obtain ⟨-, -, -, hraised⟩ := close_open (p := { p with stream := s }) stream.calls h.closed
          dsimp only
          rw [ofRaised_stopped_iff, hraised, Option.bind_eq_none_iff]
          exact ⟨fun hnone _ _ closer hcloser => hnone closer hcloser, fun hnone closer hcloser => hnone trivial rfl closer hcloser⟩
  | close =>
    cases endings with
    | nil =>
      obtain ⟨-, -, hcloses, hraised⟩ := close_open stream.calls h.closed
      refine iff_of_true ⟨?_, hexits, fun _ _ hsome => ?_⟩ fun _ e rest heq => nomatch heq
      · have hopen : ¬p.closed = true := Bool.eq_false_iff.1 h.closed
        rw [turn_close, answerDue, if_neg hopen, hraised]
        cases stream.calls.close <;> rfl
      · rw [turn_close, hcloses hsome]
        exact Nat.le_add_left 1 _
    | cons ending endings =>
      have hclosed : p.closed = true := h.closed
      have hturn : turn stream p .close = (.returned, p) := by rw [turn_close, close_closed _ hclosed, Answer.ofRaised]
      constructor
      · intro hcall hsome e rest heq
        have hcount := hcall.closed rfl (congrArg Prod.fst hturn) hsome
        rw [hturn, h.failed e rest heq] at hcount
        exact absurd hcount (by decide)
      · intro hspared
        refine ⟨?_, hexits, fun _ _ hsome => ?_⟩
        · rw [hturn, answerDue, if_pos hclosed]
        · rw [hturn]
          exact h.closes hsome (List.cons_ne_nil _ _) (hspared hsome)

end FaithfulAux

open FaithfulAux

/-- In every run of calls of a proxy, each call is faithful to the stream exactly where the first ending of the stream is no exhaustion
after which its `close` raises, and no `close` is called after a first ending that was an error. -/
theorem proxies_faithful_iff (stream : Underlying σ ι ε) (s : σ) (calls : List Call) :
    Along (monitor (step stream) (observe stream)) (Faithful stream) ({ stream := s }, []) calls ↔
      Along (monitor (step stream) (observe stream)) (Spared stream) ({ stream := s }, []) calls := by
  refine along_iff_of_invariant (I := Follows stream) (fun s a h => follows_step h a) (fun s a h => faithful_iff h a) ?_ calls
  exact ⟨rfl, rfl, fun _ hne => absurd rfl hne, fun _ _ heq => (nomatch heq), fun _ => rfl⟩

/-- A stream that fails at once, with an error that has no more to it. -/
def failingStream : SyncStream Unit Empty Unit where
  next s := (.failed (), s)
  close := some fun s => (none, s)

/-- A `close` after an error returns without having closed the stream. -/
theorem close_after_error : ¬∀ (stream : Underlying Unit Empty Unit) (s : Unit) (calls : List Call),
    Along (monitor (step stream) (observe stream)) (Faithful stream) ({ stream := s }, []) calls := by
  intro hall
  have hclosed := (hall (.sync failingStream) () [.next, .close]).2.1.closed rfl rfl rfl
  exact absurd hclosed (by decide)

end StreamProxy

end PromptRail
