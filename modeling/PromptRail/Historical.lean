import PromptRail.Library.JsonText

/-!
# Historical traces (`src/promptrail/historical.py`)

An import is given bytes, a text, or what Python has already read. A text is read as one JSON value, or else line by line; of the value
the records are taken, each of which becomes an event.
-/

namespace PromptRail

namespace Historical

open PyText (Text strip splitlines)
open Json (Value Fields get? truthy loads)

/-- `MAX_HISTORICAL_IMPORT_BYTES`. -/
def maxHistoricalImportBytes : Nat := 50 * 1024 * 1024

/-- What `import_historical_traces` is given. -/
inductive Data where
  | bytes (bytes : List UInt8)
  | text (t : Text)
  | value (raw : Value)

/-- The lines of a text, from a line number on, as `_decode_input` reads them. -/
def decodeLines : Nat → List Text → Except String (List Fields)
  | _, [] => .ok []
  | lineNumber, line :: lines =>
    if strip line = [] then decodeLines (lineNumber + 1) lines
    else
      match loads line with
      | none => .error s!"invalid JSONL at line {lineNumber}"
      | some (.obj fields) => (decodeLines (lineNumber + 1) lines).map fun records => fields :: records
      | some _ => .error s!"JSONL line {lineNumber} must be an object"

/-- `_decode_input`, of a text that is not too long. -/
def decodeText (t : Text) : Except String Value :=
  let stripped := strip t
  if stripped = [] then .error "trace import is empty"
  else
    match loads stripped with
    | some raw => .ok raw
    | none => (decodeLines 1 (splitlines stripped)).map fun records => .arr (records.map .obj)

/-- `_decode_input`. -/
def decodeInput : Data → Except String Value
  | .bytes bytes =>
    if maxHistoricalImportBytes < bytes.length then .error "trace import exceeds 50 MB"
    else
      match PyText.decodeUtf8 bytes with
      | none => .error "'utf-8' codec can't decode the bytes"
      | some t => decodeText t
  | .text t => if maxHistoricalImportBytes < PyText.utf8Len t then .error "trace import exceeds 50 MB" else decodeText t
  | .value raw => .ok raw

/-- A field that is a list. -/
def list? (fields : Fields) (name : String) : Option (List Value) :=
  match get? fields name with
  | some (.arr xs) => some xs
  | _ => none

/-- A field whose truth value is true. -/
def present (fields : Fields) (name : String) : Bool := (get? fields name).any truthy

/-- The mappings of a list. -/
def mappings (values : List Value) : List Fields :=
  values.filterMap fun
    | .obj fields => some fields
    | _ => none

/-- `_mapping_records`. -/
def mappingRecords (values : List Value) : Except String (List Fields) :=
  if mappings values = [] then .error "trace collection contains no objects" else .ok (mappings values)

/-- `scope.get("spans") or []`, of which the mappings are taken: a text and an object are iterated over, and give none. -/
def spanRecords (scope : Fields) : Except String (List Fields) :=
  match (get? scope "spans").filter truthy with
  | none | some (.str _) | some (.obj _) => .ok []
  | some (.arr spans) => .ok (mappings spans)
  | some _ => .error "the spans are not iterable"

/-- `resource.get("scopeSpans") or resource.get("instrumentationLibrarySpans") or []`, if it is a list. -/
def scopes (resource : Fields) : List Fields :=
  match ((get? resource "scopeSpans").filter truthy).or ((get? resource "instrumentationLibrarySpans").filter truthy) with
  | some (.arr scopes) => mappings scopes
  | _ => []

/-- `_otlp_records`. -/
def otlpRecords (resourceSpans : List Value) : Except String (List Fields) := do
  let records ← ((mappings resourceSpans).flatMap scopes).mapM spanRecords
  if records.flatten = [] then throw "OpenTelemetry payload contains no spans"
  return records.flatten

/-- `_extract_records`. -/
def extractRecords : Value → Except String (List Fields × String)
  | .obj raw =>
    match list? raw "events", list? raw "resourceSpans", list? raw "spans" with
    | some events, _, _ => (mappingRecords events).map fun records => (records, "promptrail")
    | none, some resourceSpans, _ => (otlpRecords resourceSpans).map fun records => (records, "opentelemetry")
    | none, none, some spans => (mappingRecords spans).map fun records => (records, "generic-spans")
    | none, none, none =>
      if present raw "trace_id" || present raw "traceId" || present raw "run_id" then .ok ([raw], "generic-event")
      else .error "unsupported trace JSON structure"
  | .arr raw => (mappingRecords raw).map fun records => (records, "jsonl")
  | _ => .error "trace import must be a JSON object, array, or JSONL objects"

/-- The records that are normalised. -/
def records (data : Data) : Except String (List Fields) := (decodeInput data >>= extractRecords).map Prod.fst

/-- `import_historical_traces`, up to the counts of its result; `_to_event` is a parameter, and so are the events. -/
def importHistoricalTraces {Event : Type} (toEvent : Fields → Except String Event) (data : Data) :
    Except String (List Event × String) := do
  let raw ← decodeInput data
  let (records, sourceFormat) ← extractRecords raw
  let events ← records.mapM toEvent
  if events.isEmpty then throw "trace import contains no events or spans"
  return (events, sourceFormat)

end Historical

end PromptRail
