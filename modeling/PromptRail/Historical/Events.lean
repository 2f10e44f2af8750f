import PromptRail.Historical
import PromptRail.Tracing.Classifier

/-!
# Events of an import (`_to_event`, `tracing/canonical.py`, `utils/ids.py`)

A record becomes an event: its texts are stripped, cut or padded to the width of their field, what is missing is drawn, and its attributes
are those the policy keeps. An event is exported as a dictionary, which may be imported again.
-/

namespace PromptRail

namespace Historical

open PyText (Text strip removePrefix zfill)
open Privacy (Key Items PrivacyPolicy)
open Python (Datum Record Interpreter Failure get getAny mappingsOf)

/-! ## Identifiers -/

/-- `_ALPHABET`. -/
def alphabet : Text := "0123456789ABCDEFGHJKMNPQRSTVWXYZ".toList

/-- `_encode_crockford`, of a value and a length. -/
def encodeCrockford : Nat → Nat → Text
  | _, 0 => []
  | value, length + 1 => encodeCrockford (value / 32) length ++ [alphabet.getD (value % 32) '0']

/-- `secure_id`, of the clock and the random bits it reads. -/
def secureId (name : String) (timestampMs bits : Nat) : Text :=
  name.toList ++ '_' :: (encodeCrockford (timestampMs % 2 ^ 48) 10 ++ encodeCrockford bits 16)

/-- What is drawn for one record: what `secure_id` reads for a run and for an event, and the time, which is after the epoch. -/
structure Draw where
  runMs : Nat
  runBits : Nat
  eventMs : Nat
  eventBits : Nat
  epochMs : Nat
  epochMs_pos : 0 < epochMs

/-! ## Events -/

/-- `SCHEMA_VERSION`. -/
def schemaVersion : Text := "1.0".toList

/-- `PromptRailEvent`. -/
structure RuntimeEvent where
  type : Text
  runId : Text
  userId : Option Text
  traceId : Option Text
  spanId : Option Text
  parentSpanId : Option Text
  name : Option Text
  status : Option Text
  attributes : Items
  eventId : Text
  timestampMs : Int

/-- `normalize_event_type`, of a text that is not blank. -/
def normalizeEventType (value : Text) : Text := (strip value).take 128

/-- A text, or `None`. -/
def optional : Option Text → Datum
  | some t => .str t
  | none => .none

/-- `value[:width] if value else None`. -/
def cutTo (width : Nat) (value : Option Text) : Option Text := (value.filter (· ≠ [])).map (List.take width)

/-- `to_json_dict`. -/
def RuntimeEvent.toJsonDict (event : RuntimeEvent) : Record :=
  [(.str "schema_version".toList, .str schemaVersion), (.str "event_id".toList, .str event.eventId),
    (.str "run_id".toList, .str event.runId), (.str "user_id".toList, optional event.userId),
    (.str "trace_id".toList, optional event.traceId), (.str "span_id".toList, optional event.spanId),
    (.str "parent_span_id".toList, optional event.parentSpanId), (.str "type".toList, .str (normalizeEventType event.type)),
    (.str "name".toList, optional (cutTo 512 event.name)), (.str "timestamp_ms".toList, .int event.timestampMs),
    (.str "status".toList, optional (cutTo 64 event.status)),
    (.str "attributes".toList, .mapping (Python.ofItems event.attributes))]

/-! ## Fields of a record -/

variable (env : Interpreter)

/-- `_string`. -/
def string : Datum → Option Text
  | .str t => if strip t = [] then none else some (strip t)
  | _ => none

/-- The digits of an identifier, before they are padded or cut. -/
def digitsOf (text : Text) : Text := removePrefix "0x".toList (env.lowerCase.lower text)

/-- `_identifier`. -/
def identifier (value : Datum) (width : Nat) : Option Text :=
  (string value).map fun text => (zfill width (digitsOf env text)).rtake width

/-- `_positive_int`. -/
def positiveInt (value : Datum) : Except Failure (Option Int) :=
  match value.toInt env with
  | .ok parsed => .ok (if 0 < parsed then some parsed else none)
  | .error (.conversion _) => .ok none
  | .error e => .error e

/-- `_status`. -/
def status : Datum → Except Failure (Option Text)
  | .str t => .ok (if (strip t).take 64 = [] then none else some ((strip t).take 64))
  | .mapping value =>
    match getAny env value ["message", "code"] with
    | .none => .ok none
    | candidate => (candidate.toText env).map fun t => some (t.take 64)
  | _ => .ok none

/-- What an attribute of OpenTelemetry wraps. -/
def unwrap : Datum → Datum
  | .mapping [(_, value)] => value
  | wrapped => wrapped

/-- One turn of the loop of `_attributes`. -/
def setAttribute (output : Record) : Datum → Record
  | .mapping item =>
    match get item "key" with
    | .str key => Python.setItem output (.str key) (unwrap (get item "value"))
    | _ => output
  | _ => output

/-- `_attributes`. -/
def attributesOf : Datum → Record
  | .mapping items => items
  | .list values => values.foldl setAttribute []
  | _ => []

/-- The timestamp of a record, if it has one. -/
def timestampOf (record : Record) : Except Failure Datum :=
  match getAny env record ["timestamp_ms", "timestampMs"], get record "endTimeUnixNano" with
  | .none, .none => .ok .none
  | .none, nanoseconds =>
    match (do (Datum.str (← nanoseconds.toText env)).toInt env) with
    | .ok n => .ok (.int (n / 1000000))
    | .error (.conversion _) => .ok .none
    | .error e => .error e
  | timestamp, _ => .ok timestamp

/-- The type of an event. -/
def eventType (record : Record) : Text :=
  match (get record "type") with
  | .str t => if strip t ≠ [] then normalizeEventType t else classified
  | _ => classified
where
  classified : Text :=
    let kind := Tracing.classifySpan env (attributesOf (get record "attributes")) (string (get record "name"))
    if kind ≠ .other then kind.value.toList ++ ".end".toList else "other.end".toList

/-- The event that `_to_event` returns, of the status and the timestamp it has read. -/
def builtEvent (policy : PrivacyPolicy) (draw : Draw) (record : Record) (status : Option Text) (timestampMs : Option Int) : RuntimeEvent :=
  let traceId := identifier env (getAny env record ["trace_id", "traceId"]) 32
  let runId := (string (getAny env record ["run_id", "runId"])).getD
    (match traceId with
    | some traceId => "run_".toList ++ traceId
    | none => secureId "run" draw.runMs draw.runBits)
  { type := eventType env record
    runId := runId.take 256
    userId := string (getAny env record ["user_id", "userId"])
    traceId
    spanId := identifier env (getAny env record ["span_id", "spanId"]) 16
    parentSpanId := identifier env (getAny env record ["parent_span_id", "parentSpanId"]) 16
    name := string (get record "name")
    status
    attributes := Privacy.sanitize env.lowerCase.lower policy (some (Python.toItems (attributesOf (get record "attributes"))))
    eventId := (string (getAny env record ["event_id", "eventId"])).getD (secureId "evt" draw.eventMs draw.eventBits)
    timestampMs := timestampMs.getD draw.epochMs }

/-- `_to_event`. -/
def toEvent (policy : PrivacyPolicy) (draw : Draw) (record : Record) : Except Failure RuntimeEvent := do
  let timestamp ← timestampOf env record
  let status ← status env (get record "status")
  let timestampMs ← positiveInt env timestamp
  return builtEvent env policy draw record status timestampMs

/-! ## The import -/

/-- What `import_historical_traces` is given: bytes, a text, or values that Python holds. -/
inductive Source where
  | bytes (bytes : List UInt8)
  | text (t : Text)
  | value (raw : Datum)

/-- `_decode_input`. -/
def decodeSource : Source → Except String Datum
  | .bytes bytes => (decodeInput (.bytes bytes)).map (Python.ofJson env)
  | .text t => (decodeInput (.text t)).map (Python.ofJson env)
  | .value raw => .ok raw

/-- `_mapping_records`. -/
def mappingRecordsOf (values : List Datum) : Except String (List Record) :=
  if mappingsOf values = [] then .error "trace collection contains no objects" else .ok (mappingsOf values)

/-- A field that is a list. -/
def listField? (record : Record) (name : String) : Option (List Datum) :=
  match get record name with
  | .list items => some items
  | _ => none

/-- `scope.get("spans") or []`, of which the mappings are taken: the characters of a text and the keys of a mapping are none. -/
def scopeSpans (scope : Record) : Except String (List Record) :=
  if !(get scope "spans").truthy env then .ok []
  else
    match get scope "spans" with
    | .list spans | .tuple spans => .ok (mappingsOf spans)
    | .str _ | .mapping _ => .ok []
    | .object o => (env.iterate o).elim (.error "the spans are not iterable") fun spans => .ok (mappingsOf spans)
    | _ => .error "the spans are not iterable"

/-- `resource.get("scopeSpans") or resource.get("instrumentationLibrarySpans") or []`, if it is a list. -/
def resourceScopes (resource : Record) : List Record :=
  match getAny env resource ["scopeSpans", "instrumentationLibrarySpans"] with
  | .list scopes => mappingsOf scopes
  | _ => []

/-- `_otlp_records`. -/
def otlpRecordsOf (resourceSpans : List Datum) : Except String (List Record) := do
  let records ← ((mappingsOf resourceSpans).flatMap (resourceScopes env)).mapM (scopeSpans env)
  if records.flatten = [] then throw "OpenTelemetry payload contains no spans"
  return records.flatten

/-- `_extract_records`, of any value. -/
def extractFrom : Datum → Except String (List Record × String)
  | .mapping raw =>
    match listField? raw "events", listField? raw "resourceSpans", listField? raw "spans" with
    | some events, _, _ => (mappingRecordsOf events).map fun records => (records, "promptrail")
    | none, some resourceSpans, _ => (otlpRecordsOf env resourceSpans).map fun records => (records, "opentelemetry")
    | none, none, some spans => (mappingRecordsOf spans).map fun records => (records, "generic-spans")
    | none, none, none =>
      if (getAny env raw ["trace_id", "traceId", "run_id"]).truthy env then .ok ([raw], "generic-event")
      else .error "unsupported trace JSON structure"
  | .list raw | .tuple raw => (mappingRecordsOf raw).map fun records => (records, "jsonl")
  | .object o =>
    (env.iterate o).elim (.error "trace import must be a JSON object, array, or JSONL objects") fun raw =>
      (mappingRecordsOf raw).map fun records => (records, "jsonl")
  | _ => .error "trace import must be a JSON object, array, or JSONL objects"

/-- The records of a source, and the name of their format. -/
def recordsOf (source : Source) : Except String (List Record × String) := decodeSource env source >>= extractFrom env

/-- The policy of an import. -/
def importPolicy (metadataOnly : Bool) : PrivacyPolicy := { mode := if metadataOnly then .metadataOnly else .content }

/-- `HistoricalImportResult`. -/
structure HistoricalImportResult where
  events : List RuntimeEvent
  sourceFormat : String
  traceCount : Nat
  runCount : Nat
  llmCallCount : Nat

/-- The events of an import, with what is counted of them. -/
def HistoricalImportResult.ofEvents (events : List RuntimeEvent) (sourceFormat : String) : HistoricalImportResult where
  events := events
  sourceFormat := sourceFormat
  traceCount := ((events.filterMap RuntimeEvent.traceId).filter (· ≠ [])).dedup.length
  runCount := (events.map RuntimeEvent.runId).dedup.length
  llmCallCount := events.countP fun event => normalizeEventType event.type = "llm.end".toList

/-- `import_historical_traces`. -/
def importTraces (metadataOnly : Bool) (draws : Nat → Draw) (source : Source) : Except String HistoricalImportResult := do
  let extracted ← recordsOf env source
  let events ← (extracted.1.zipIdx.mapM fun p => toEvent env (importPolicy metadataOnly) (draws p.2) p.1).mapError Failure.message
  if events.isEmpty then throw "trace import contains no events or spans"
  return .ofEvents events extracted.2

/-- `{"events": [event.to_json_dict() for event in result.events]}`. -/
def exported (events : List RuntimeEvent) : Datum :=
  .mapping [(.str "events".toList, .list (events.map fun event => .mapping event.toJsonDict))]

end Historical

end PromptRail
