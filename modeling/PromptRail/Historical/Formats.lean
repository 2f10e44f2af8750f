import Mathlib
import PromptRail.Historical
import PromptRail.Library.JsonLines
import PromptRail.Library.Outcome

/-!
# Formats of an import

A list of events may be imported as it is, as the text of an array, or as a text of lines. The text of one line is one JSON value and is
read as such, and the lines of a text end where `splitlines` says.
-/

namespace PromptRail

namespace Historical

open PyText (Text strip splitlines isLineBreak utf8Len)
open Json (Value Fields WellFormed Style get? truthy loads Stops)

/-- The text of one event. -/
def eventText (style : Style) (event : Fields) : Text := style.write (.obj event)

/-- The lines of events; a line break may end the last one. -/
def jsonl (style : Style) (ending : Bool) (events : List Fields) : Text :=
  ['\n'].intercalate (events.map (eventText style)) ++ if ending then ['\n'] else []

/-- The list of events, as a value. -/
def array (events : List Fields) : Value := .arr (events.map .obj)

/-- Two imports have the same records, and one is accepted if the other is. -/
structure Agree {Event : Type} (toEvent : Fields → Except String Event) (data data' : Data) : Prop where
  records : (records data).toOption = (records data').toOption
  accepted : (importHistoricalTraces toEvent data).toOption.isSome = (importHistoricalTraces toEvent data').toOption.isSome

/-- An object that is read as one event. -/
structure IsEvent (event : Fields) : Prop where
  events : list? event "events" = none
  resourceSpans : list? event "resourceSpans" = none
  spans : list? event "spans" = none
  named : (present event "trace_id" || present event "traceId" || present event "run_id") = true

/-- The texts are not too long, a single event is read as one, and no line of several has a line boundary in it. -/
structure Fits (style style' : Style) (ending : Bool) (events : List Fields) : Prop where
  lines : utf8Len (jsonl style ending events) ≤ maxHistoricalImportBytes
  array : utf8Len (style'.write (array events)) ≤ maxHistoricalImportBytes
  single : ∀ event, events = [event] → IsEvent event
  several : 1 < events.length → ∀ event ∈ events, ∀ c ∈ eventText style event, isLineBreak c = false

namespace FormatsAux

variable {style style' : Style} {ending : Bool} {events : List Fields} {event : Fields}

/-! ## The list -/

theorem mappings_map (events : List Fields) : mappings (events.map .obj) = events := by
  induction events with
  | nil => rfl
  | cons event events ih =>
    rw [List.map_cons, mappings, List.filterMap_cons]
    exact congrArg (event :: ·) ih

theorem extractRecords_array (hne : events ≠ []) : extractRecords (array events) = .ok (events, "jsonl") := by
  rw [array, extractRecords, mappingRecords, mappings_map, if_neg hne]
  rfl

theorem records_value (hne : events ≠ []) : records (.value (array events)) = .ok events := by
  rw [records, decodeInput, Outcome.ok_bind, extractRecords_array hne]
  rfl

/-! ## Texts -/

theorem eventText_ne_nil (event : Fields) : eventText style event ≠ [] := by
  rw [eventText, Json.write_obj]
  exact List.cons_ne_nil _ _

theorem head_eventText (event : Fields) : (eventText style event).head? = some '{' := by
  rw [eventText, Json.write_obj]
  rfl

theorem getLast_eventText (event : Fields) : (eventText style event).getLast? = some '}' := by
  rw [eventText, Json.write_obj, ← List.cons_append, List.getLast?_append]
  rfl

theorem body_ends (style : Style) (hne : events ≠ []) : (['\n'].intercalate (events.map (eventText style))).head? = some '{' ∧
    (['\n'].intercalate (events.map (eventText style))).getLast? = some '}' := by
  induction events with
  | nil => exact absurd rfl hne
  | cons event events ih =>
    cases events with
    | nil =>
      rw [List.map_cons, List.map_nil, List.intercalate_singleton]
      exact ⟨head_eventText event, getLast_eventText event⟩
    | cons next events =>
      obtain ⟨-, hlast⟩ := ih (List.cons_ne_nil _ _)
      rw [List.map_cons, List.map_cons, List.intercalate_cons_cons, ← List.map_cons]
      constructor
      · rw [List.append_assoc, List.head?_append_of_ne_nil _ (eventText_ne_nil event), head_eventText]
      · rw [List.getLast?_append, hlast]
        rfl

/-- The lines of events without white space behind them. -/
theorem strip_jsonl (hne : events ≠ []) : strip (jsonl style ending events) = ['\n'].intercalate (events.map (eventText style)) := by
  obtain ⟨hhead, hlast⟩ := body_ends style hne
  refine PyText.strip_append_spaces ?_ ?_ ?_ ?_
  · cases ending <;> exact Json.forall_mem_of_all (by decide)
  · intro hnil
    rw [hnil] at hhead
    cases hhead
  · rw [hhead]
    rintro c ⟨⟩
    rfl
  · rw [hlast]
    rintro c ⟨⟩
    rfl

/-- A text that is not too long is what it is read as. -/
theorem records_text {t : Text} : (records (.text t)).toOption =
    if utf8Len t ≤ maxHistoricalImportBytes then ((decodeText t >>= extractRecords).map Prod.fst).toOption else none := by
  rw [records, decodeInput]
  by_cases h : utf8Len t ≤ maxHistoricalImportBytes
  · rw [if_neg (Nat.not_lt.2 h), if_pos h]
  · rw [if_pos (Nat.not_le.1 h), if_neg h]
    rfl

/-! ## Lines -/

theorem strip_eventText (event : Fields) : strip (eventText style event) ≠ [] := PyText.strip_ne_nil (head_eventText event) rfl

theorem loads_eventText (hwell : WellFormed (.obj event)) : loads (eventText style event) = some (.obj event) := by
  have hloads : loads (eventText style event ++ []) = _ := Json.loads_write hwell (by rintro c ⟨⟩)
  rw [List.append_nil] at hloads
  exact hloads

theorem not_inNumber_of_isLineBreak {c : Char} (h : isLineBreak c = true) : Json.inNumber c = false := by
  rw [← Bool.not_eq_true]
  intro hnumber
  have := Json.inNumber_bounds hnumber
  simp only [isLineBreak, Bool.or_eq_true, Bool.and_eq_true, decide_eq_true_eq, beq_iff_eq] at h
  omega

/-- A line with an event is read as the event. -/
theorem decodeLines_event (hwell : WellFormed (.obj event)) (lineNumber : Nat) (lines : List Text) :
    decodeLines lineNumber (eventText style event :: lines) =
      (decodeLines (lineNumber + 1) lines).map fun records => event :: records := by
  rw [decodeLines, if_neg (strip_eventText event), loads_eventText hwell]

/-- A line that is cut off inside an event cannot be read. -/
theorem decodeLines_cut (hwell : WellFormed (.obj event)) {cut more : Text} {c : Char} (hcut : eventText style event = cut ++ c :: more)
    (hc : isLineBreak c = true) (lineNumber : Nat) (lines : List Text) :
    decodeLines lineNumber (cut :: lines) = .error s!"invalid JSONL at line {lineNumber}" := by
  have hhead : (eventText style event).head? = some '{' := head_eventText event
  have hstrip : strip cut ≠ [] := by
    cases cut with
    | nil =>
      rw [hcut] at hhead
      cases hhead
      cases hc
    | cons d cut =>
      rw [hcut] at hhead
      exact PyText.strip_ne_nil hhead rfl
  have hstops : Stops (c :: more) := by
    rintro d ⟨⟩
    exact not_inNumber_of_isLineBreak hc
  rw [decodeLines, if_neg hstrip, Json.loads_cut hwell hcut (List.cons_ne_nil _ _) hstops]

/-- A text up to its first line boundary. -/
theorem exists_break {t : Text} (h : ¬∀ c ∈ t, isLineBreak c = false) :
    ∃ cut c more, t = cut ++ c :: more ∧ isLineBreak c = true ∧ ∀ d ∈ cut, isLineBreak d = false := by
  induction t with
  | nil => exact absurd (fun _ hc => absurd hc List.not_mem_nil) h
  | cons c t ih =>
    cases hc : isLineBreak c with
    | true => exact ⟨[], c, t, rfl, hc, fun _ hd => absurd hd List.not_mem_nil⟩
    | false =>
      obtain ⟨cut, d, more, rfl, hd, hcut⟩ := ih fun hall => h (List.forall_mem_cons.2 ⟨hc, hall⟩)
      exact ⟨c :: cut, d, more, rfl, hd, List.forall_mem_cons.2 ⟨hc, hcut⟩⟩

theorem toOption_map {ε α β : Type} (x : Except ε α) (f : α → β) : (x.map f).toOption = x.toOption.map f := by
  cases x <;> rfl

/-- The lines of events are read as the events, if no line has a boundary in it, and are not read otherwise. -/
theorem decodeLines_body (style : Style) (hne : events ≠ []) (hwell : ∀ event ∈ events, WellFormed (.obj event)) (lineNumber : Nat) :
    (decodeLines lineNumber (splitlines (['\n'].intercalate (events.map (eventText style))))).toOption =
      if ∀ event ∈ events, ∀ c ∈ eventText style event, isLineBreak c = false then some events else none := by
  induction events generalizing lineNumber with
  | nil => exact absurd rfl hne
  | cons event events ih =>
    have hevent := hwell event List.mem_cons_self
    have hrest : ∀ next later, ['\n'].intercalate ((event :: next :: later).map (eventText style)) =
        eventText style event ++ '\n' :: ['\n'].intercalate ((next :: later).map (eventText style)) := by
      intro next later
      rw [List.map_cons, List.map_cons, List.intercalate_cons_cons]
      simp
    by_cases hline : ∀ c ∈ eventText style event, isLineBreak c = false
    · cases events with
      | nil =>
        rw [List.map_singleton, List.intercalate_singleton, PyText.splitlines_line hline (eventText_ne_nil event), decodeLines_event hevent,
          if_pos (List.forall_mem_singleton.2 hline)]
        rfl
      | cons next events =>
        have hlater := ih (List.cons_ne_nil _ _) (fun e he => hwell e (List.mem_cons_of_mem _ he)) (lineNumber + 1)
        rw [hrest, PyText.splitlines_break hline rfl, decodeLines_event hevent, toOption_map]
        refine (congrArg (Option.map fun records => event :: records) hlater).trans ?_
        by_cases hall : ∀ e ∈ next :: events, ∀ c ∈ eventText style e, isLineBreak c = false
        · rw [if_pos hall, if_pos (List.forall_mem_cons.2 ⟨hline, hall⟩)]
          rfl
        · rw [if_neg hall, if_neg fun h => hall (List.forall_mem_cons.1 h).2]
          rfl
    · obtain ⟨cut, c, more, hcut, hc, hbefore⟩ := exists_break hline
      obtain ⟨later, hlater⟩ : ∃ later, ['\n'].intercalate ((event :: events).map (eventText style)) = eventText style event ++ later := by
        cases events with
        | nil => exact ⟨[], by rw [List.map_singleton, List.intercalate_singleton, List.append_nil]⟩
        | cons next events => exact ⟨_, hrest next events⟩
      rw [if_neg fun hall => hline (hall event List.mem_cons_self), hlater, hcut, List.append_assoc, List.cons_append,
        PyText.splitlines_break hbefore hc, decodeLines_cut hevent hcut hc]
      rfl

/-! ## The three formats -/

theorem wellFormed_array (hwell : ∀ event ∈ events, WellFormed (.obj event)) : WellFormed (array events) :=
  .arr (List.forall_mem_map.2 hwell)

theorem decodeText_array (hwell : ∀ event ∈ events, WellFormed (.obj event)) :
    decodeText (style.write (array events)) = .ok (array events) := by
  have hstrip : strip (style.write (array events)) = style.write (array events) := by
    rw [array, Json.write_arr]
    refine PyText.strip_eq_self ?_ ?_
    · rintro c ⟨⟩
      rfl
    · rw [← List.cons_append, List.getLast?_append]
      rintro c ⟨⟩
      rfl
  have hloads : loads (style.write (array events) ++ []) = _ := Json.loads_write (wellFormed_array hwell) (by rintro c ⟨⟩)
  rw [List.append_nil] at hloads
  have hne : style.write (array events) ≠ [] := by
    rw [array, Json.write_arr]
    exact List.cons_ne_nil _ _
  simp only [decodeText, hstrip, hloads, if_neg hne]
  rfl

theorem records_array (hne : events ≠ []) (hwell : ∀ event ∈ events, WellFormed (.obj event)) :
    (records (.text (style.write (array events)))).toOption =
      if utf8Len (style.write (array events)) ≤ maxHistoricalImportBytes then some events else none := by
  rw [records_text, decodeText_array hwell, Outcome.ok_bind, extractRecords_array hne]
  rfl

theorem decodeText_single (hwell : WellFormed (.obj event)) : decodeText (jsonl style ending [event]) = .ok (.obj event) := by
  have hstrip : strip (jsonl style ending [event]) = eventText style event := by
    rw [strip_jsonl (List.cons_ne_nil _ _), List.map_singleton, List.intercalate_singleton]
  simp only [decodeText, hstrip, if_neg (eventText_ne_nil event), loads_eventText hwell]

/-- Several lines are no JSON value. -/
theorem loads_several {next : Fields} (hwell : WellFormed (.obj event)) :
    loads (['\n'].intercalate ((event :: next :: events).map (eventText style))) = none := by
  have hstops : Stops ('\n' :: ['\n'].intercalate ((next :: events).map (eventText style))) := by
    rintro c ⟨⟩
    rfl
  have hloads : loads (eventText style event ++ '\n' :: ['\n'].intercalate ((next :: events).map (eventText style))) = _ :=
    Json.loads_write hwell hstops
  have hmore : Json.skipWhite ('\n' :: ['\n'].intercalate ((next :: events).map (eventText style))) ≠ [] := by
    obtain ⟨hhead, -⟩ := body_ends style (List.cons_ne_nil next events)
    cases hbody : ['\n'].intercalate ((next :: events).map (eventText style)) with
    | nil =>
      rw [hbody] at hhead
      cases hhead
    | cons c t =>
      rw [hbody] at hhead
      cases hhead
      exact List.cons_ne_nil _ _
  rw [if_neg hmore] at hloads
  rw [List.map_cons, List.map_cons, List.intercalate_cons_cons, ← List.map_cons, List.append_assoc]
  exact hloads

theorem decodeText_several {next : Fields} (hwell : ∀ e ∈ event :: next :: events, WellFormed (.obj e)) :
    (decodeText (jsonl style ending (event :: next :: events))).toOption =
      if ∀ e ∈ event :: next :: events, ∀ c ∈ eventText style e, isLineBreak c = false then some (array (event :: next :: events))
      else none := by
  have hne : ['\n'].intercalate ((event :: next :: events).map (eventText style)) ≠ [] := by
    obtain ⟨hhead, -⟩ := body_ends style (List.cons_ne_nil event (next :: events))
    intro hnil
    rw [hnil] at hhead
    cases hhead
  have hlines := decodeLines_body style (List.cons_ne_nil _ _) hwell 1
  simp only [decodeText, strip_jsonl (List.cons_ne_nil event (next :: events)), if_neg hne,
    loads_several (hwell event List.mem_cons_self)]
  rw [toOption_map, hlines]
  split <;> rfl

/-! ## What is taken out of an object is smaller -/

theorem mem_mappings {fields : Fields} {xs : List Value} : fields ∈ mappings xs ↔ Value.obj fields ∈ xs := by
  rw [mappings, List.mem_filterMap]
  constructor
  · rintro ⟨x, hx, hfields⟩
    cases x <;> cases hfields
    exact hx
  · exact fun hx => ⟨_, hx, rfl⟩

theorem sizeOf_get? {fields : Fields} {name : String} {v : Value} (h : get? fields name = some v) :
    sizeOf v < sizeOf (Value.obj fields) := by
  obtain ⟨p, hfind, rfl⟩ := Option.map_eq_some_iff.1 h
  have hmem := List.sizeOf_lt_of_mem (List.mem_of_find?_eq_some hfind)
  have hpair : sizeOf p.2 < sizeOf p := by
    cases p
    simp only [Prod.mk.sizeOf_spec]
    omega
  simp only [Value.obj.sizeOf_spec]
  omega

theorem sizeOf_mappings {fields : Fields} {xs : List Value} (h : fields ∈ mappings xs) :
    sizeOf (Value.obj fields) < sizeOf (Value.arr xs) := by
  have hmem := List.sizeOf_lt_of_mem (mem_mappings.1 h)
  rw [Value.arr.sizeOf_spec]
  omega

theorem sizeOf_list? {fields record : Fields} {name : String} {xs : List Value} (h : list? fields name = some xs)
    (hrecord : record ∈ mappings xs) : sizeOf (Value.obj record) < sizeOf (Value.obj fields) := by
  unfold list? at h
  split at h
  · rename_i ys hget
    cases h
    exact (sizeOf_mappings hrecord).trans (sizeOf_get? hget)
  · cases h

theorem sizeOf_spanRecords {scope record : Fields} {spans : List Fields} (h : spanRecords scope = .ok spans) (hrecord : record ∈ spans) :
    sizeOf (Value.obj record) < sizeOf (Value.obj scope) := by
  unfold spanRecords at h
  split at h
  · cases h
    cases hrecord
  · cases h
    cases hrecord
  · cases h
    cases hrecord
  · rename_i xs hget
    cases h
    exact (sizeOf_mappings hrecord).trans (sizeOf_get? (Option.filter_eq_some_iff.1 hget).1)
  · cases h

theorem sizeOf_scopes {resource scope : Fields} (h : scope ∈ scopes resource) :
    sizeOf (Value.obj scope) < sizeOf (Value.obj resource) := by
  unfold scopes at h
  split at h
  · rename_i xs hget
    refine (sizeOf_mappings h).trans ?_
    rcases Option.or_eq_some_iff.1 hget with hfirst | ⟨-, hsecond⟩
    · exact sizeOf_get? (Option.filter_eq_some_iff.1 hfirst).1
    · exact sizeOf_get? (Option.filter_eq_some_iff.1 hsecond).1
  · cases h

theorem mappingRecords_smaller {name : String} {xs : List Value} (h : list? event name = some xs) : mappingRecords xs ≠ .ok [event] := by
  unfold mappingRecords
  split
  · exact fun hok => nomatch hok
  · intro hok
    have hmem : event ∈ mappings xs := Except.ok.inj hok ▸ List.mem_cons_self
    exact absurd (sizeOf_list? h hmem) (Nat.lt_irrefl _)

theorem otlpRecords_smaller {name : String} {xs : List Value} (h : list? event name = some xs) : otlpRecords xs ≠ .ok [event] := by
  intro hok
  unfold otlpRecords at hok
  obtain ⟨spans, hspans, hok⟩ := Outcome.bind_ok hok
  obtain ⟨-, hok⟩ := Outcome.check_ok_iff.1 hok
  have hmem : event ∈ spans.flatten := Except.ok.inj hok ▸ List.mem_cons_self
  obtain ⟨found, hfound, hin⟩ := List.mem_flatten.1 hmem
  obtain ⟨scope, hscope, hread⟩ := Outcome.mem_mapM hspans hfound
  obtain ⟨resource, hresource, hscopes⟩ := List.mem_flatMap.1 hscope
  have hsmaller := ((sizeOf_spanRecords hread hin).trans (sizeOf_scopes hscopes)).trans (sizeOf_list? h hresource)
  exact absurd hsmaller (Nat.lt_irrefl _)

/-- The records that are taken out of an object, whatever their format is called. -/
theorem toOption_format (x : Except String (List Fields)) (format : String) :
    ((x.map fun records => (records, format)).map Prod.fst).toOption = some [event] ↔ x = .ok [event] := by
  cases x with
  | error e => exact iff_of_false (fun h => nomatch h) fun h => nomatch h
  | ok found => exact ⟨fun h => congrArg Except.ok (Option.some.inj h), fun h => congrArg some (Except.ok.inj h)⟩

/-- An object is taken for itself exactly if it is read as one event. -/
theorem extractRecords_single (event : Fields) : ((extractRecords (.obj event)).map Prod.fst).toOption = some [event] ↔ IsEvent event := by
  rw [extractRecords]
  cases hevents : list? event "events" with
  | some xs =>
    simp only [toOption_format]
    exact iff_of_false (mappingRecords_smaller hevents) fun h => nomatch hevents.symm.trans h.events
  | none =>
    cases hresource : list? event "resourceSpans" with
    | some xs =>
      simp only [toOption_format]
      exact iff_of_false (otlpRecords_smaller hresource) fun h => nomatch hresource.symm.trans h.resourceSpans
    | none =>
      cases hspans : list? event "spans" with
      | some xs =>
        simp only [toOption_format]
        exact iff_of_false (mappingRecords_smaller hspans) fun h => nomatch hspans.symm.trans h.spans
      | none =>
        dsimp only
        split
        · rename_i hnamed
          exact iff_of_true rfl ⟨hevents, hresource, hspans, hnamed⟩
        · rename_i hnamed
          exact iff_of_false (fun h => nomatch h) fun h => hnamed h.named

theorem records_single (hwell : WellFormed (.obj event)) : (records (.text (jsonl style ending [event]))).toOption = some [event] ↔
    utf8Len (jsonl style ending [event]) ≤ maxHistoricalImportBytes ∧ IsEvent event := by
  rw [records_text]
  split
  · rename_i hfits
    rw [decodeText_single hwell, Outcome.ok_bind, extractRecords_single, and_iff_right hfits]
  · rename_i hlong
    exact iff_of_false (fun h => nomatch h) fun h => hlong h.1

theorem records_several {next : Fields} (hwell : ∀ e ∈ event :: next :: events, WellFormed (.obj e)) :
    (records (.text (jsonl style ending (event :: next :: events)))).toOption = some (event :: next :: events) ↔
      utf8Len (jsonl style ending (event :: next :: events)) ≤ maxHistoricalImportBytes ∧
        ∀ e ∈ event :: next :: events, ∀ c ∈ eventText style e, isLineBreak c = false := by
  have hdecoded : (decodeText (jsonl style ending (event :: next :: events))).toOption = _ := decodeText_several hwell
  rw [records_text]
  split
  · rename_i hfits
    rw [and_iff_right hfits]
    split at hdecoded
    · rename_i hlines
      rw [Outcome.toOption_eq_some_iff.1 hdecoded, Outcome.ok_bind, extractRecords_array (List.cons_ne_nil _ _)]
      exact iff_of_true rfl hlines
    · rename_i hbroken
      refine iff_of_false ?_ hbroken
      cases hdecode : decodeText (jsonl style ending (event :: next :: events)) with
      | error e => exact fun h => nomatch h
      | ok raw =>
        rw [hdecode] at hdecoded
        cases hdecoded
  · rename_i hlong
    exact iff_of_false (fun h => nomatch h) fun h => hlong h.1

/-- The records of a text of lines are its events exactly if the text is not too long, and read as is wanted. -/
theorem records_jsonl (hne : events ≠ []) (hwell : ∀ event ∈ events, WellFormed (.obj event)) :
    (records (.text (jsonl style ending events))).toOption = some events ↔
      utf8Len (jsonl style ending events) ≤ maxHistoricalImportBytes ∧ (∀ event, events = [event] → IsEvent event) ∧
        (1 < events.length → ∀ event ∈ events, ∀ c ∈ eventText style event, isLineBreak c = false) := by
  match events, hne with
  | [event], _ =>
    rw [records_single (hwell event List.mem_cons_self)]
    refine and_congr_right fun _ => ⟨fun h => ⟨?_, fun hlong => absurd hlong (Nat.lt_irrefl 1)⟩, fun h => h.1 event rfl⟩
    rintro _ ⟨⟩
    exact h
  | event :: next :: events, _ =>
    rw [records_several hwell]
    refine and_congr_right fun _ => ⟨fun h => ⟨fun _ hsingle => (nomatch hsingle), fun _ => h⟩, fun h => h.2 ?_⟩
    simp

/-- Whether an import is accepted is told by its records. -/
theorem accepted_eq {Event : Type} (toEvent : Fields → Except String Event) (data : Data) :
    (importHistoricalTraces toEvent data).toOption.isSome =
      (records data).toOption.any fun records => (records.mapM toEvent).toOption.any fun events => !events.isEmpty := by
  unfold importHistoricalTraces records
  cases decodeInput data with
  | error e => rfl
  | ok raw =>
    rw [Outcome.ok_bind, Outcome.ok_bind]
    cases extractRecords raw with
    | error e => rfl
    | ok extracted =>
      obtain ⟨found, format⟩ := extracted
      rw [Outcome.ok_bind]
      show _ = Option.any _ (some found)
      rw [Option.any_some]
      dsimp only
      cases found.mapM toEvent with
      | error e => rfl
      | ok events => cases events <;> rfl

/-- Imports of the same records are accepted or rejected alike. -/
theorem agree_of_records {Event : Type} {toEvent : Fields → Except String Event} {data data' : Data}
    (h : (records data).toOption = (records data').toOption) : Agree toEvent data data' := by
  refine ⟨h, ?_⟩
  rw [accepted_eq, accepted_eq, h]

end FormatsAux

open FormatsAux

/-- With `ensure_ascii`, no line has a line boundary in it. -/
theorem eventText_ascii {event : Fields} (hwell : WellFormed (.obj event)) : ∀ c ∈ eventText .ascii event, isLineBreak c = false := by
  intro c hc
  have := Json.plain_write hwell c hc
  simp only [isLineBreak, Bool.or_eq_false_iff, Bool.and_eq_false_iff, decide_eq_false_iff_not, beq_eq_false_iff_ne]
  omega

/-- An event with a name, and an identifier of a trace. -/
def exampleEvent (name : Text) : Fields := [("trace_id", .str "abc".toList), ("name", .str name)]

theorem exampleEvent_wellFormed (name : Text) : WellFormed (.obj (exampleEvent name)) :=
  .obj (by simp [exampleEvent]) (List.forall_mem_cons.2 ⟨.str _, List.forall_mem_singleton.2 (.str _)⟩)

end Historical

end PromptRail
