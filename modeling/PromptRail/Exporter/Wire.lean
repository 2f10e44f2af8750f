import PromptRail.Library.JsonCompact
import PromptRail.Library.PyInt
import PromptRail.Privacy.Idempotent
import PromptRail.Propagation

/-!
# Events on the wire (`tracing/canonical.py`, `exporter/encoder.py`)

An event is made in the context of a run, its attributes copied by the privacy policy, and a batch of events is written as one JSON document
in UTF-8. What cannot be written fails the whole batch.
-/

namespace PromptRail

namespace Exporter.Wire

open PyText (Text strip encodeUtf8 decodeUtf8)
open Privacy (Attribute Items Key PrivacyPolicy sanitize)
open Propagation (RuntimeContext)
open Json (Value)

/-- What is taken from outside: `str.lower`, and `float.__repr__` of a finite number. -/
structure Env where
  lower : Text → Text
  repr : ℚ → String
  repr_isFloat : ∀ x, Json.IsFloat (repr x)

variable (env : Env)

/-! ## Events -/

/-- `PromptRailEvent`; the type is a text, as it is of every `EventType`. -/
structure Event where
  type : Text
  runId : Text
  userId : Option Text := none
  traceId : Option Text := none
  spanId : Option Text := none
  parentSpanId : Option Text := none
  name : Option Text := none
  status : Option Text := none
  attributes : Items := []
  eventId : Text
  timestampMs : Int
  schemaVersion : Text := "1.0".toList

/-- What an event is made of: the arguments of `from_context`, and what the random generator and the clock return. -/
structure Observation where
  type : Text
  context : RuntimeContext
  name : Option Text := none
  status : Option Text := none
  attributes : Option Items := none
  eventId : Text
  timestampMs : Int

/-- `PromptRailEvent.from_context`, which raises without a run. -/
def fromContext (policy : PrivacyPolicy) (observation : Observation) : Option Event :=
  match observation.context.runId with
  | none | some [] => none
  | some runId => some {
      type := observation.type
      runId
      userId := observation.context.userId
      traceId := observation.context.traceId
      spanId := observation.context.spanId
      parentSpanId := observation.context.parentSpanId
      name := observation.name
      status := observation.status
      attributes := sanitize env.lower policy observation.attributes
      eventId := observation.eventId
      timestampMs := observation.timestampMs }

/-- An event of the SDK. -/
def Made (event : Event) : Prop := ∃ policy observation, fromContext env policy observation = some event

/-- `normalize_event_type`, which raises on a blank text. -/
def normalizeEventType (type : Text) : Option Text := if strip type = [] then none else some ((strip type).take 128)

/-- A text that may be absent, as an attribute. -/
def ofText (text : Option Text) : Attribute := text.elim .none .str

/-- `text[:length] if text else None`. -/
def cut (length : Nat) : Option Text → Attribute
  | none | some [] => .none
  | some text => .str (text.take length)

/-- The fields of an event, under its normalized type. -/
def Event.fields (event : Event) (type : Text) : Items :=
  [(.str "schema_version".toList, .str event.schemaVersion), (.str "event_id".toList, .str event.eventId),
    (.str "run_id".toList, .str event.runId), (.str "user_id".toList, ofText event.userId),
    (.str "trace_id".toList, ofText event.traceId), (.str "span_id".toList, ofText event.spanId),
    (.str "parent_span_id".toList, ofText event.parentSpanId), (.str "type".toList, .str type), (.str "name".toList, cut 512 event.name),
    (.str "timestamp_ms".toList, .int event.timestampMs), (.str "status".toList, cut 64 event.status),
    (.str "attributes".toList, .mapping event.attributes)]

/-- `to_json_dict`. -/
def Event.toJsonDict (event : Event) : Option Attribute :=
  (normalizeEventType event.type).map fun type => .mapping (event.fields type)

/-! ## JSON -/

mutual

/-- The value that `json.dumps(allow_nan=False)` writes; it raises on an integer of too many digits, a float that is not finite and an
object. -/
def toJson : Attribute → Option Value
  | .none => some .null
  | .bool b => some (.bool b)
  | .int n => if (toString n.natAbs).length ≤ PyInt.maxStrDigits then some (.int n) else none
  | .float (.finite x) => some (.float (env.repr x))
  | .float _ => none
  | .str t => some (.str t)
  | .mapping items => (toJsonFields items).map .obj
  | .sequence items => (toJsonElements items).map .arr
  | .object _ => none

def toJsonFields : Items → Option Json.Fields
  | [] => some []
  | (.str key, item) :: rest => do
    let value ← toJson item
    return (String.ofList key, value) :: (← toJsonFields rest)
  | (.other _, _) :: _ => none

def toJsonElements : List Attribute → Option (List Value)
  | [] => some []
  | item :: rest => do
    let value ← toJson item
    return value :: (← toJsonElements rest)

end

/-- The value of an event. -/
def Event.toValue (event : Event) : Option Value := event.toJsonDict.bind (toJson env)

/-- `BatchJSONEncoder.encode`. -/
def encode (events : List Event) : Option (List UInt8) :=
  (events.mapM (Event.toValue env)).map fun values => encodeUtf8 (Json.Style.unicode.compact (.obj [("events", .arr values)]))

/-- What a receiver reads of a body. -/
def decode (body : List UInt8) : Option Value := (decodeUtf8 body).bind Json.loads

mutual

/-- Every integer prints. -/
def printable : Attribute → Bool
  | .int n => (toString n.natAbs).length ≤ PyInt.maxStrDigits
  | .mapping items => printableItems items
  | .sequence items => printableElements items
  | _ => true

def printableItems : Items → Bool
  | [] => true
  | (_, item) :: rest => printable item && printableItems rest

def printableElements : List Attribute → Bool
  | [] => true
  | item :: rest => printable item && printableElements rest

end

/-- An event has a type, and its integers print. -/
def Event.Printable (event : Event) : Prop :=
  strip event.type ≠ [] ∧ printable (.int event.timestampMs) = true ∧ printableItems event.attributes = true

instance (event : Event) : Decidable event.Printable := by
  unfold Event.Printable
  infer_instance

end Exporter.Wire

end PromptRail
