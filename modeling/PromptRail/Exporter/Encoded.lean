import PromptRail.Exporter.Batches
import PromptRail.Exporter.Wire

/-!
# What is encoded

The copy that a policy makes of attributes can always be written, but for an integer of too many digits: its keys are texts and differ, its
floats are finite, and it holds no objects. So a batch is encoded exactly when every event of it can be printed, and what a receiver reads
of the body are the events, in their order.
-/

namespace PromptRail

namespace Exporter.Wire

open PyText (Text strip decodeUtf8_encodeUtf8)
open Privacy (Attribute Items Key PrivacyPolicy sanitize sanitizeValue sanitizeItems sanitizeElements sanitizeMapping setItem)
open Json (Value WellFormed)

variable (env : Env)

namespace EncodedAux

/-! ## What a policy keeps -/

mutual

/-- A value that can be written, but for its integers. -/
def Clean : Attribute → Prop
  | .float x => x.isFinite = true
  | .mapping items => (items.map Prod.fst).Nodup ∧ CleanItems items
  | .sequence items => CleanElements items
  | .object _ => False
  | .none | .bool _ | .int _ | .str _ => True

def CleanItems : Items → Prop
  | [] => True
  | (.str _, item) :: rest => Clean item ∧ CleanItems rest
  | (.other _, _) :: _ => False

def CleanElements : List Attribute → Prop
  | [] => True
  | item :: rest => Clean item ∧ CleanElements rest

end

theorem mem_keys_setItem {output : Items} {key key' : Key} {value : Attribute} (h : key' ∈ (setItem output key value).map Prod.fst) :
    key' = key ∨ key' ∈ output.map Prod.fst := by
  induction output with
  | nil => exact Or.inl (List.mem_singleton.1 h)
  | cons entry rest ih =>
    obtain ⟨first, old⟩ := entry
    rw [setItem] at h
    split at h
    · rcases List.mem_cons.1 h with h | h
      · exact Or.inl h
      · exact Or.inr (List.mem_cons_of_mem _ h)
    · rcases List.mem_cons.1 h with h | h
      · exact Or.inr (h ▸ List.mem_cons_self)
      · exact (ih h).imp_right (List.mem_cons_of_mem _)

/-- A mapping stays clean with another item. -/
theorem clean_setItem {output : Items} (h : Clean (.mapping output)) (key : Text) {value : Attribute} (hvalue : Clean value) :
    Clean (.mapping (setItem output (.str key) value)) := by
  rw [Clean] at h ⊢
  induction output with
  | nil => exact ⟨List.nodup_singleton _, hvalue, trivial⟩
  | cons entry rest ih =>
    obtain ⟨first, old⟩ := entry
    obtain ⟨hkeys, hitems⟩ := h
    rw [List.map_cons, List.nodup_cons] at hkeys
    cases first with
    | other object => exact hitems.elim
    | str first =>
      obtain ⟨hold, hrest⟩ := hitems
      rw [setItem]
      split
      · rename_i heq
        cases heq
        exact ⟨List.nodup_cons.2 hkeys, hvalue, hrest⟩
      · rename_i hne
        obtain ⟨hnodup, hset⟩ := ih ⟨hkeys.2, hrest⟩
        refine ⟨List.nodup_cons.2 ⟨?_, hnodup⟩, hold, hset⟩
        intro hmem
        rcases mem_keys_setItem hmem with heq | hmem
        · exact hne heq
        · exact hkeys.1 hmem

variable {lower : Text → Text} {policy : PrivacyPolicy}

mutual

/-- What is kept of a value is clean. -/
theorem clean_sanitizeValue (v : Attribute) (depth budget : Nat) :
    ∀ kept ∈ (sanitizeValue lower policy v depth budget).1, Clean kept := by
  match v with
  | .none | .bool _ | .int _ | .str _ =>
    rw [sanitizeValue]
    rintro _ ⟨⟩
    trivial
  | .float x =>
    rw [sanitizeValue]
    dsimp only
    split
    · rename_i hfinite
      rintro _ ⟨⟩
      exact hfinite
    · rintro _ ⟨⟩
  | .object _ =>
    rw [sanitizeValue]
    rintro _ ⟨⟩
  | .mapping items =>
    rw [sanitizeValue]
    split
    · rintro _ ⟨⟩
      exact ⟨List.nodup_nil, trivial⟩
    · rintro _ ⟨⟩
      exact clean_sanitizeItems items [] ⟨List.nodup_nil, trivial⟩ depth (budget - 1)
  | .sequence items =>
    rw [sanitizeValue]
    split
    · rintro _ ⟨⟩
      trivial
    · rintro _ ⟨⟩
      exact clean_sanitizeElements items policy.maxItems depth budget

/-- The loop over a mapping keeps its output clean. -/
theorem clean_sanitizeItems (items output : Items) (h : Clean (.mapping output)) (depth budget : Nat) :
    Clean (.mapping (sanitizeItems lower policy items output depth budget).1) := by
  match items with
  | [] => exact h
  | (.other _, _) :: rest =>
    rw [sanitizeItems]
    split
    · exact h
    · exact clean_sanitizeItems rest output h depth budget
  | (.str key, item) :: rest =>
    have hitem := clean_sanitizeValue item (depth + 1) (budget - 1)
    rw [sanitizeItems]
    split
    · exact h
    · split
      · exact clean_sanitizeItems rest output h depth budget
      · split
        · exact h
        · split
          · rename_i sanitized left hvalue
            rw [hvalue] at hitem
            exact clean_sanitizeItems rest _ (clean_setItem h key (hitem sanitized rfl)) depth left
          · rename_i left hvalue
            exact clean_sanitizeItems rest output h depth left

theorem clean_sanitizeElements (items : List Attribute) (room depth budget : Nat) :
    CleanElements (sanitizeElements lower policy items room depth budget).1 := by
  match items, room with
  | [], _ => trivial
  | _ :: _, 0 => trivial
  | item :: rest, room + 1 =>
    have hitem := clean_sanitizeValue item (depth + 1) (budget - 1)
    rw [sanitizeElements]
    split
    · trivial
    · split
      · rename_i sanitized left hvalue
        rw [hvalue] at hitem
        exact ⟨hitem sanitized rfl, clean_sanitizeElements rest room depth left⟩
      · rename_i left hvalue
        exact clean_sanitizeElements rest room depth left

end

theorem clean_sanitize (lower : Text → Text) (policy : PrivacyPolicy) (attributes : Option Items) :
    Clean (.mapping (sanitize lower policy attributes)) := by
  match attributes with
  | none | some [] => exact ⟨List.nodup_nil, trivial⟩
  | some (item :: items) =>
    rw [sanitize, sanitizeMapping]
    split
    · exact ⟨List.nodup_nil, trivial⟩
    · exact clean_sanitizeItems (item :: items) [] ⟨List.nodup_nil, trivial⟩ 0 (policy.maxTotalAttributes - 1)

/-! ## What can be written -/

variable {env}

mutual

/-- A clean value is written if its integers print, and only then; it is written well. -/
theorem toJson_clean {v : Attribute} (h : Clean v) :
    ((toJson env v).isSome = printable v) ∧ ∀ value ∈ toJson env v, WellFormed value := by
  match v with
  | .none =>
    refine ⟨rfl, ?_⟩
    rintro _ ⟨⟩
    exact .null
  | .bool b =>
    refine ⟨rfl, ?_⟩
    rintro _ ⟨⟩
    exact .bool b
  | .int n =>
    rw [toJson, printable]
    split
    · rename_i hshort
      refine ⟨(decide_eq_true hshort).symm, ?_⟩
      rintro _ ⟨⟩
      exact .int n
    · rename_i hlong
      refine ⟨(decide_eq_false hlong).symm, ?_⟩
      rintro _ ⟨⟩
  | .float (.finite x) =>
    refine ⟨rfl, ?_⟩
    rintro _ ⟨⟩
    exact .float (env.repr_isFloat x)
  | .float (.infinity _) | .float .nan => cases h
  | .str t =>
    refine ⟨rfl, ?_⟩
    rintro _ ⟨⟩
    exact .str t
  | .object _ => exact h.elim
  | .mapping items =>
    obtain ⟨hkeys, hitems⟩ := h
    obtain ⟨hwritten, hfields⟩ := toJsonFields_clean hitems
    rw [toJson, printable, Option.isSome_map]
    refine ⟨hwritten, ?_⟩
    intro value hvalue
    obtain ⟨fields, hsome, rfl⟩ := Option.map_eq_some_iff.1 hvalue
    obtain ⟨hnames, hwell⟩ := hfields fields hsome
    refine .obj ?_ hwell
    -- a name spells its key
    have hinjective : Function.Injective fun name : String => Key.str name.toList := fun a b hab =>
      String.ext (Key.str.inj hab)
    refine (List.nodup_map_iff hinjective).1 ?_
    rwa [hnames]
  | .sequence items =>
    obtain ⟨hwritten, hwell⟩ := toJsonElements_clean h
    rw [toJson, printable, Option.isSome_map]
    refine ⟨hwritten, ?_⟩
    intro value hvalue
    obtain ⟨values, hsome, rfl⟩ := Option.map_eq_some_iff.1 hvalue
    exact .arr (hwell values hsome)

theorem toJsonFields_clean {items : Items} (h : CleanItems items) :
    ((toJsonFields env items).isSome = printableItems items) ∧
      ∀ fields ∈ toJsonFields env items, (fields.map (·.1)).map (fun name => Key.str name.toList) = items.map Prod.fst ∧
        ∀ field ∈ fields, WellFormed field.2 := by
  match items with
  | [] =>
    refine ⟨rfl, ?_⟩
    rintro _ ⟨⟩
    exact ⟨rfl, by simp⟩
  | (.other _, _) :: _ => exact h.elim
  | (.str key, item) :: rest =>
    obtain ⟨hitem, hvalue⟩ := toJson_clean h.1
    obtain ⟨hrest, hfields⟩ := toJsonFields_clean h.2
    rw [toJsonFields, printableItems, ← hitem, ← hrest]
    cases hfirst : toJson env item with
    | none => simp
    | some value =>
      cases hothers : toJsonFields env rest with
      | none => simp
      | some fields =>
        refine ⟨rfl, ?_⟩
        rintro _ ⟨⟩
        obtain ⟨hnames, hwell⟩ := hfields fields hothers
        refine ⟨?_, List.forall_mem_cons.2 ⟨hvalue value hfirst, hwell⟩⟩
        simp only [List.map_cons, hnames, String.toList_ofList]

theorem toJsonElements_clean {items : List Attribute} (h : CleanElements items) :
    ((toJsonElements env items).isSome = printableElements items) ∧
      ∀ values ∈ toJsonElements env items, ∀ value ∈ values, WellFormed value := by
  match items with
  | [] =>
    refine ⟨rfl, ?_⟩
    rintro _ ⟨⟩
    simp
  | item :: rest =>
    obtain ⟨hitem, hvalue⟩ := toJson_clean h.1
    obtain ⟨hrest, hvalues⟩ := toJsonElements_clean h.2
    rw [toJsonElements, printableElements, ← hitem, ← hrest]
    cases hfirst : toJson env item with
    | none => simp
    | some value =>
      cases hothers : toJsonElements env rest with
      | none => simp
      | some values =>
        refine ⟨rfl, ?_⟩
        rintro _ ⟨⟩
        exact List.forall_mem_cons.2 ⟨hvalue value hfirst, hvalues values hothers⟩

end

/-! ## Events -/

theorem clean_attributes {event : Event} (h : Made env event) : Clean (.mapping event.attributes) := by
  obtain ⟨policy, observation, hmade⟩ := h
  unfold fromContext at hmade
  split at hmade
  · cases hmade
  · cases hmade
  · cases hmade
    exact clean_sanitize env.lower policy observation.attributes

theorem clean_ofText (text : Option Text) : Clean (ofText text) := by
  cases text <;> trivial

theorem clean_cut (length : Nat) (text : Option Text) : Clean (cut length text) := by
  unfold cut
  split <;> trivial

theorem keys_fields (event : Event) (type : Text) : ((event.fields type).map Prod.fst).Nodup := by
  simp only [Event.fields, List.map_cons, List.map_nil]
  decide +kernel

theorem clean_fields {event : Event} (h : Made env event) (type : Text) : Clean (.mapping (event.fields type)) := by
  refine ⟨keys_fields event type, ?_⟩
  simp only [Event.fields, CleanItems, clean_ofText, clean_cut, clean_attributes h, and_true]
  simp only [Clean, and_self]

theorem printable_ofText (text : Option Text) : printable (ofText text) = true := by
  cases text <;> rfl

theorem printable_cut (length : Nat) (text : Option Text) : printable (cut length text) = true := by
  unfold cut
  split <;> rfl

theorem printable_fields (event : Event) (type : Text) :
    printable (.mapping (event.fields type)) = (printable (.int event.timestampMs) && printableItems event.attributes) := by
  simp [Event.fields, printable, printableItems, printable_ofText, printable_cut]

/-- An event has a value when it can be printed, and only then; the value can be written. -/
theorem toValue_made {event : Event} (h : Made env event) :
    ((event.toValue env).isSome = true ↔ event.Printable) ∧ ∀ value ∈ event.toValue env, WellFormed value := by
  unfold Event.toValue Event.toJsonDict normalizeEventType Event.Printable
  split
  · rename_i hblank
    simp [hblank]
  · rename_i htype
    obtain ⟨hwritten, hwell⟩ := @toJson_clean env _ (clean_fields h ((strip event.type).take 128))
    rw [Option.map_some, Option.bind_some]
    refine ⟨?_, hwell⟩
    rw [hwritten, printable_fields, Bool.and_eq_true]
    exact (and_iff_right htype).symm

/-- A list is mapped as a whole when every item is. -/
theorem isSome_mapM {α β : Type} (f : α → Option β) (items : List α) :
    (items.mapM f).isSome = true ↔ ∀ item ∈ items, (f item).isSome = true := by
  induction items with
  | nil => simp
  | cons item rest ih =>
    rw [List.mapM_cons, List.forall_mem_cons, ← ih]
    cases f item with
    | none => simp
    | some value => cases rest.mapM f <;> simp

theorem forall₂_of_mapM {α β : Type} {f : α → Option β} {items : List α} {values : List β} (h : items.mapM f = some values) :
    List.Forall₂ (fun item value => f item = some value) items values := by
  induction items generalizing values with
  | nil =>
    cases h
    exact .nil
  | cons item rest ih =>
    rw [List.mapM_cons] at h
    obtain ⟨value, hvalue, h⟩ := Option.bind_eq_some_iff.1 h
    obtain ⟨others, hothers, h⟩ := Option.bind_eq_some_iff.1 h
    cases h
    exact .cons hvalue (ih hothers)

theorem forall_right_of_forall₂ {α β : Type} {R : α → β → Prop} {Q : β → Prop} {items : List α} {values : List β}
    (h : List.Forall₂ R items values) (hQ : ∀ item ∈ items, ∀ value, R item value → Q value) : ∀ value ∈ values, Q value := by
  induction h with
  | nil => simp
  | cons hfirst _ ih =>
    rw [List.forall_mem_cons] at hQ ⊢
    exact ⟨hQ.1 _ hfirst, ih hQ.2⟩

/-- A batch is encoded exactly when every event of it can be printed. -/
theorem isSome_encode {events : List Event} (h : ∀ event ∈ events, Made env event) :
    (encode env events).isSome = true ↔ ∀ event ∈ events, event.Printable := by
  rw [encode, Option.isSome_map, isSome_mapM]
  exact forall₂_congr fun event hevent => (toValue_made (h event hevent)).1

/-- A receiver reads the values of the events, in their order. -/
theorem decode_encode {events : List Event} (h : ∀ event ∈ events, Made env event) {body : List UInt8}
    (hbody : encode env events = some body) :
    ∃ values, List.Forall₂ (fun event value => event.toValue env = some value) events values ∧
      decode body = some (.obj [("events", .arr values)]) := by
  obtain ⟨values, hvalues, rfl⟩ := Option.map_eq_some_iff.1 hbody
  have hread := forall₂_of_mapM hvalues
  have hwell : ∀ value ∈ values, WellFormed value :=
    forall_right_of_forall₂ hread fun event hevent value hvalue => (toValue_made (h event hevent)).2 value hvalue
  have hbatch : WellFormed (.obj [("events", .arr values)]) := .obj (by simp) (by simpa using WellFormed.arr hwell)
  refine ⟨values, hread, ?_⟩
  rw [decode, decodeUtf8_encodeUtf8, Option.bind_some, Json.loads_compact _ hbatch]

end EncodedAux

theorem isFloat_half : Json.IsFloat "0.5" := by
  refine ⟨Json.forall_mem_of_all (by decide), ?_⟩
  rfl

/-- An environment, as it is where one half is the only float. -/
def halves : Env where
  lower := List.map Char.toLower
  repr _ := "0.5"
  repr_isFloat _ := isFloat_half

/-- An observation of a model call. -/
def observed : Observation where
  type := " llm.started ".toList
  context := { runId := some "run".toList, userId := some "user".toList }
  name := some "call".toList
  attributes := some [(.str "model".toList, .str "m\u00e9".toList), (.str "cost".toList, .float (.finite (1 / 2))),
    (.str "prompt".toList, .str "secret".toList), (.str "bad".toList, .float .nan),
    (.str "nested".toList, .mapping [(.str "count".toList, .int (-3)), (.other 0, .none)])]
  eventId := "event".toList
  timestampMs := 1

/-- The event that is made of it. -/
def started : Event where
  type := " llm.started ".toList
  runId := "run".toList
  userId := some "user".toList
  name := some "call".toList
  attributes := [(.str "model".toList, .str "m\u00e9".toList), (.str "cost".toList, .float (.finite (1 / 2))),
    (.str "nested".toList, .mapping [(.str "count".toList, .int (-3))])]
  eventId := "event".toList
  timestampMs := 1

/-- An event of a blank type, that no receiver gets. -/
def blank : Event := { started with type := " ".toList }

theorem made_started : Made halves started := ⟨{}, observed, rfl⟩

theorem made_blank : Made halves blank := ⟨{}, { observed with type := " ".toList }, rfl⟩

theorem printable_started : started.Printable := by decide +kernel

theorem not_printable_blank : ¬blank.Printable := by decide +kernel

end Exporter.Wire

end PromptRail
