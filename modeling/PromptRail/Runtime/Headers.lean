import PromptRail.Library.JsonText
import PromptRail.Runtime

/-!
# The headers of a request (`propagation/headers.py`)

Of the headers that `inject_headers` writes for the gateway, the one that names the run. The value is that of the current context, or of a
run that is made for the request where there is none, as far as a header can carry it.
-/

namespace PromptRail

namespace Runtime

open PyText (Text)

/-- What `quote` leaves as it is, with the characters that are given as safe. -/
def isUnquoted (c : Char) : Bool := c.isAlphanum || "_.-~:@".toList.contains c

def quoteByte (byte : UInt8) : Text :=
  ['%', (Json.hexDigit (byte.toNat / 16)).toUpper, (Json.hexDigit (byte.toNat % 16)).toUpper]

/-- `quote(text, safe=":._-@")`. -/
def quoteHeader (text : Text) : Text :=
  text.flatMap fun c => if isUnquoted c then [c] else (PyText.encodeUtf8 [c]).flatMap quoteByte

/-- `_safe_header_value`. -/
def safeHeaderValue (value : Text) : Text :=
  let text := (value.filter fun c => c != '\r' && c != '\n').take 1024
  if text.all fun c => c.toNat < 128 then text else quoteHeader text

/-- The value of `x-promptrail-run-id`. -/
def RuntimeContext.runIdHeader (context : RuntimeContext) : Option Text := context.runId.map fun runId => safeHeaderValue runId.text.toList

/-- The context whose identity `inject_headers` writes in a task, and what has become of the world. -/
def World.headerContext (w : World) (task : TaskId) (users : Users) (made : RunId) (ensureRun : Bool) :
    RuntimeContext × World × List PromptRailEvent :=
  let context := w.currentContext task users
  if ensureRun && context.runId.isNone then
    if context.traceId.isSome then w.ensuredContext task users made
    else ({ context with runId := some made }, w, [])
  else (context, w, [])

/-- `inject_headers` in a task, for the gateway: the value of `x-promptrail-run-id`, and what has become of the world. -/
def World.injectHeaders (w : World) (task : TaskId) (users : Users) (made : RunId) (ensureRun : Bool) :
    Option Text × World × List PromptRailEvent :=
  let (context, rest) := w.headerContext task users made ensureRun
  (context.runIdHeader, rest)

/-- A run identifier that a header carries as it is. -/
def Printable (runId : RunId) : Prop :=
  runId.text.toList.length ≤ 1024 ∧ ∀ c ∈ runId.text.toList, 32 ≤ c.toNat ∧ c.toNat ≤ 126

theorem safeHeaderValue_printable {runId : RunId} (h : Printable runId) : safeHeaderValue runId.text.toList = runId.text.toList := by
  obtain ⟨hlength, hchars⟩ := h
  have hfilter : (runId.text.toList.filter fun c => c != '\r' && c != '\n') = runId.text.toList := by
    refine List.filter_eq_self.2 fun c hc => ?_
    have hprint := (hchars c hc).1
    rw [Bool.and_eq_true, bne_iff_ne, bne_iff_ne]
    constructor <;> rintro rfl <;> exact absurd hprint (by decide)
  unfold safeHeaderValue
  rw [hfilter, List.take_of_length_le hlength]
  refine if_pos (List.all_eq_true.2 fun c hc => ?_)
  have := (hchars c hc).2
  exact decide_eq_true (by omega)

end Runtime

end PromptRail
