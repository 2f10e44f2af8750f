import PromptRail.Library.Table
import Mathlib.Data.Rat.Defs

/-!
# Documents

A document is a finite map from the names of its fields to values whose type is found out when they are read: a Python `dict`, or
a document of MongoDB. A field is often known under several names, of which the first that is present and not null counts. What
a text reads as under Python's `float` is a parameter: the finite number it spells, if it spells one.
-/

namespace Document

open Table (Dict)

/-- A value of a document; `other` is an array or a document. -/
inductive Value where
  | null
  | bool (b : Bool)
  | number (x : ℚ)
  | text (s : String)
  | other
deriving DecidableEq

/-- A document. -/
abbrev Fields := Dict String Value

/-- `document.get(name)`. -/
def get (document : Fields) (name : String) : Value := (document.lookup name).getD .null

/-- `first_present(document, *names)`. -/
def firstPresent (document : Fields) : List String → Value
  | [] => .null
  | name :: names => if get document name = .null then firstPresent document names else get document name

/-- `{"$type": "number"}`: the number that a value is. -/
def Value.number? : Value → Option ℚ
  | .number x => some x
  | .null | .bool _ | .text _ | .other => none

/-- `float(value)`, where it is a finite number. -/
def Value.float? (float : String → Option ℚ) : Value → Option ℚ
  | .bool b => some (if b then 1 else 0)
  | .number x => some x
  | .text s => float s
  | .null | .other => none

/-- `bool(value)`; an array or a document counts as one that is not empty. -/
def Value.truthy : Value → Bool
  | .null => false
  | .bool b => b
  | .number x => x ≠ 0
  | .text s => s ≠ ""
  | .other => true

/-- An optional number as the value of a field. -/
def Value.ofNumber? : Option ℚ → Value
  | some x => .number x
  | none => .null

/-- `{"$set": fields}`, or `{**document, **fields}`. -/
def update (document : Fields) (fields : List (String × Value)) : Fields :=
  fields.foldr (fun field rest => rest.insert field.1 field.2) document

/-- `{**document, **fields}`. -/
def merge (document fields : Fields) : Fields := fields ∪ document

/-- The fields whose numbers are found, of those with their aliases. -/
def found (read : List String → Option ℚ) (names : List (String × List String)) : List (String × Value) :=
  names.filterMap fun field => (read field.2).map fun x => (field.1, .number x)

theorem get_of_lookup {document : Fields} {name : String} {value : Value} (h : document.lookup name = some value) :
    get document name = value := by
  rw [get, h]
  rfl

@[simp] theorem get_insert_self (document : Fields) (name : String) (value : Value) :
    get (document.insert name value) name = value := by
  simp [get]

@[simp] theorem get_insert_ne {document : Fields} {name name' : String} (h : name ≠ name') (value : Value) :
    get (document.insert name' value) name = get document name := by
  simp [get, AList.lookup_insert_ne h]

theorem get_insert (document : Fields) (name name' : String) (value : Value) :
    get (document.insert name' value) name = if name = name' then value else get document name := by
  split
  · rename_i h
    rw [h, get_insert_self]
  · rename_i h
    rw [get_insert_ne h]

theorem lookup_update (document : Fields) (fields : List (String × Value)) (name : String) :
    (update document fields).lookup name = (fields.lookup name).or (document.lookup name) := by
  induction fields with
  | nil => rfl
  | cons field fields ih =>
    obtain ⟨name', value⟩ := field
    simp only [update, List.foldr_cons] at ih ⊢
    rw [List.lookup_cons]
    by_cases h : name = name'
    · subst h
      rw [AList.lookup_insert, beq_self_eq_true]
      rfl
    · rw [AList.lookup_insert_ne h, ih, beq_false_of_ne h]

/-- An updated document has the new values of the fields that were set, and its own ones otherwise. -/
theorem get_update (document : Fields) (fields : List (String × Value)) (name : String) :
    get (update document fields) name = (fields.lookup name).getD (get document name) := by
  rw [get, lookup_update]
  cases fields.lookup name <;> rfl

/-- A field of the second document counts, if it is there. -/
theorem get_merge (document fields : Fields) (name : String) :
    get (merge document fields) name = (fields.lookup name).getD (get document name) := by
  unfold get merge
  by_cases h : name ∈ fields
  · obtain ⟨value, hvalue⟩ := Option.isSome_iff_exists.1 (AList.lookup_isSome.2 h)
    rw [AList.lookup_union_left h, hvalue]
    rfl
  · rw [AList.lookup_union_right h, AList.lookup_eq_none.2 h]
    rfl

/-- What is found under a name is what is read under its aliases. -/
theorem lookup_found (read : List String → Option ℚ) {names : List (String × List String)} (h : (names.map (·.1)).Nodup)
    (name : String) : (found read names).lookup name = (names.lookup name).bind fun aliases => (read aliases).map .number := by
  induction names with
  | nil => rfl
  | cons field names ih =>
    obtain ⟨name', aliases⟩ := field
    rw [List.map_cons, List.nodup_cons] at h
    have hrest := ih h.2
    by_cases hname : name = name'
    · subst hname
      have habsent : names.lookup name = none := by
        rw [List.lookup_eq_none_iff]
        intro field hfield
        exact bne_iff_ne.2 fun heq => h.1 (List.mem_map.2 ⟨field, hfield, heq.symm⟩)
      cases hread : read aliases with
      | none =>
        rw [habsent] at hrest
        simpa [found, hread, List.lookup_cons] using hrest
      | some x => simp [found, hread]
    · cases hread : read aliases with
      | none => simpa [found, hread, List.lookup_cons, beq_false_of_ne hname] using hrest
      | some x => simpa [found, hread, List.lookup_cons, beq_false_of_ne hname] using hrest

@[simp] theorem number?_number (x : ℚ) : (Value.number x).number? = some x := rfl

theorem eq_number_of_number? {value : Value} {x : ℚ} (h : value.number? = some x) : value = .number x := by
  cases value with
  | number y => rw [Option.some.inj h]
  | _ => cases h

/-- The first name counts when it is not null. -/
theorem firstPresent_head {document : Fields} {name : String} (h : get document name ≠ .null) (names : List String) :
    firstPresent document (name :: names) = get document name := by
  rw [firstPresent, if_neg h]

/-- What is first present depends on the names that are looked for only. -/
theorem firstPresent_congr {document document' : Fields} {names : List String}
    (h : ∀ name ∈ names, get document' name = get document name) : firstPresent document' names = firstPresent document names := by
  induction names with
  | nil => rfl
  | cons name names ih =>
    simp only [firstPresent, h name List.mem_cons_self]
    rw [ih fun n hn => h n (List.mem_cons_of_mem _ hn)]

/-- Nothing is present when every name is null. -/
theorem firstPresent_eq_null_iff {document : Fields} {names : List String} :
    firstPresent document names = .null ↔ ∀ name ∈ names, get document name = .null := by
  induction names with
  | nil => simp [firstPresent]
  | cons name names ih =>
    rw [List.forall_mem_cons]
    by_cases h : get document name = .null
    · simp only [firstPresent, h, if_true, true_and]
      exact ih
    · simp only [firstPresent, h, if_false, false_and]

end Document
