import PromptRail.Library.JsonKeys
import PromptRail.Library.JsonSchema

/-!
# Strict schemas (`_strict_json_schema` in `clients.py`)

`visit` takes the nodes under `$defs`, `definitions`, `properties`, `items` and the three unions, requires every property of a node,
forbids others where a node of type `object` says nothing of them, and drops a default of `null`. It assigns to the nodes of a deep
copy, so that the schema it was given is one value before and after. An assignment to a key that a dictionary has keeps its place.
-/

namespace PromptRail.StrictSchema

open Json

/-- `node["required"] = list(properties)`, of a node with properties. -/
def requireAll (fields : Fields) : Fields :=
  match JsonSchema.declared fields with
  | some properties => set fields "required" (.arr (properties.map fun p => .str p.1.toList))
  | none => fields

/-- `node.get("type") == "object"`. -/
def isObject (fields : Fields) : Bool :=
  match get? fields "type" with
  | some (.str t) => t == "object".toList
  | _ => false

/-- `node.setdefault("additionalProperties", False)`, of a node of type `object`. -/
def forbidAdditional (fields : Fields) : Fields :=
  if isObject fields ∧ get? fields "additionalProperties" = none then fields ++ [("additionalProperties", .bool false)] else fields

/-- `if node.get("default", object()) is None: node.pop("default", None)`. -/
def dropDefault (fields : Fields) : Fields :=
  match get? fields "default" with
  | some .null => fields.filter fun p => p.1 != "default"
  | _ => fields

/-- What `visit` does to a node beside its recursion. -/
def finish (fields : Fields) : Fields := dropDefault (forbidAdditional (requireAll fields))

mutual

def visit : Value → Value
  | .arr xs => .arr (visitList xs)
  | .obj fields => .obj (finish (visitFields fields))
  | .null => .null
  | .bool b => .bool b
  | .int n => .int n
  | .float literal => .float literal
  | .str s => .str s

/-- `[visit(item) for item in node]`. -/
def visitList : List Value → List Value
  | [] => []
  | x :: xs => visit x :: visitList xs

/-- `{key: visit(value) for key, value in definitions.items()}`. -/
def visitEntries : Fields → Fields
  | [] => []
  | (key, value) :: rest => (key, visit value) :: visitEntries rest

/-- The fields of a node, those that hold schemas visited. -/
def visitFields : Fields → Fields
  | [] => []
  | (key, .obj entries) :: rest =>
    (key, if JsonSchema.isMap key then .obj (visitEntries entries)
      else if key = "items" then .obj (finish (visitFields entries)) else .obj entries) :: visitFields rest
  | (key, .arr xs) :: rest => (key, if JsonSchema.isUnion key then .arr (visitList xs) else .arr xs) :: visitFields rest
  | (key, value) :: rest => (key, value) :: visitFields rest

end

/-- A call: the schema of the caller, and the deep copy that was visited. -/
structure Call where
  schema : Value
  normalized : Value

/-- `_strict_json_schema`. -/
def strictJsonSchema (schema : Fields) : Call :=
  let call : Call := { schema := .obj schema, normalized := .obj schema }
  { call with normalized := visit call.normalized }

/-- What `visit` makes of the value of a key. -/
def visitKeyword (key : String) : Value → Value
  | .obj entries =>
    if JsonSchema.isMap key then .obj (visitEntries entries) else if key = "items" then visit (.obj entries) else .obj entries
  | .arr xs => if JsonSchema.isUnion key then visit (.arr xs) else .arr xs
  | value => value

theorem visitList_eq (xs : List Value) : visitList xs = xs.map visit := by
  induction xs with
  | nil => rfl
  | cons x xs ih => rw [visitList, ih, List.map_cons]

theorem visitEntries_eq (fields : Fields) : visitEntries fields = fields.map fun p => (p.1, visit p.2) := by
  induction fields with
  | nil => rfl
  | cons p fields ih => rw [visitEntries, ih, List.map_cons]

theorem visitFields_eq (fields : Fields) : visitFields fields = fields.map fun p => (p.1, visitKeyword p.1 p.2) := by
  induction fields with
  | nil => rfl
  | cons p fields ih =>
    obtain ⟨key, value⟩ := p
    cases value with
    | obj entries => rw [visitFields, ih, List.map_cons, visitKeyword, visit]
    | arr xs => rw [visitFields, ih, List.map_cons, visitKeyword, visit]
    | _ => rw [visitFields, ih, List.map_cons, visitKeyword] <;> simp

/-! ## Fields -/

theorem get?_map (f : String → Value → Value) (fields : Fields) (key : String) :
    get? (fields.map fun p => (p.1, f p.1 p.2)) key = (get? fields key).map (f key) := by
  induction fields with
  | nil => rfl
  | cons p fields ih =>
    rw [List.map_cons, get?_cons, get?_cons, ih]
    split
    · rename_i h
      rw [← h, Option.map_some]
    · rfl

theorem get?_append (fields : Fields) (p : String × Value) (key : String) :
    get? (fields ++ [p]) key = (get? fields key).or (if p.1 = key then some p.2 else none) := by
  induction fields with
  | nil => rw [List.nil_append, get?_cons, get?_nil, Option.none_or]
  | cons q fields ih =>
    rw [List.cons_append, get?_cons, get?_cons, ih]
    split <;> rfl

theorem get?_drop (fields : Fields) (dropped key : String) :
    get? (fields.filter fun p => p.1 != dropped) key = if key = dropped then none else get? fields key := by
  induction fields with
  | nil =>
    rw [List.filter_nil, get?_nil]
    split <;> rfl
  | cons p fields ih =>
    by_cases hp : p.1 = dropped
    · rw [List.filter_cons_of_neg (by simpa using hp), ih, get?_cons]
      split
      · rfl
      · rename_i hkey
        rw [if_neg fun h => hkey (h.symm.trans hp)]
    · rw [List.filter_cons_of_pos (by simpa using hp), get?_cons, ih, get?_cons]
      split
      · rename_i h
        rw [if_neg fun hdropped => hp (h.trans hdropped)]
      · rfl

theorem set_self {fields : Fields} {key : String} {v : Value} (h : get? fields key = some v) : set fields key v = fields := by
  induction fields with
  | nil => cases h
  | cons p fields ih =>
    obtain ⟨name, w⟩ := p
    rw [get?_cons] at h
    rw [Json.set]
    split at h
    · rename_i hname
      cases h
      obtain rfl : name = key := hname
      rw [if_pos rfl]
    · rename_i hname
      rw [if_neg hname, ih h]

theorem get?_requireAll (fields : Fields) (key : String) : get? (requireAll fields) key =
    match JsonSchema.declared fields with
    | some properties => if "required" = key then some (.arr (properties.map fun p => .str p.1.toList)) else get? fields key
    | none => get? fields key := by
  unfold requireAll
  split
  · exact get?_set fields _ _ key
  · rfl

theorem get?_forbidAdditional (fields : Fields) (key : String) : get? (forbidAdditional fields) key =
    if isObject fields ∧ get? fields "additionalProperties" = none ∧ key = "additionalProperties" then some (.bool false)
    else get? fields key := by
  unfold forbidAdditional
  split
  · rename_i h
    rw [get?_append]
    split
    · rename_i hkey
      rw [if_pos ⟨h.1, h.2, hkey.symm⟩, ← hkey, h.2, Option.none_or]
    · rename_i hkey
      rw [if_neg fun hall => hkey hall.2.2.symm, Option.or_none]
  · rename_i h
    rw [if_neg fun hall => h ⟨hall.1, hall.2.1⟩]

theorem get?_dropDefault {fields : Fields} {key : String} (h : key ≠ "default") : get? (dropDefault fields) key = get? fields key := by
  unfold dropDefault
  split
  · rw [get?_drop, if_neg h]
  · rfl

/-- The keys that `finish` says nothing of. -/
theorem get?_finish {fields : Fields} {key : String} (hrequired : key ≠ "required") (hadditional : key ≠ "additionalProperties")
    (hdefault : key ≠ "default") : get? (finish fields) key = get? fields key := by
  rw [finish, get?_dropDefault hdefault, get?_forbidAdditional, if_neg fun hall => hadditional hall.2.2, get?_requireAll]
  split
  · rw [if_neg (Ne.symm hrequired)]
  · rfl

theorem declared_finish (fields : Fields) : JsonSchema.declared (finish fields) = JsonSchema.declared fields := by
  rw [JsonSchema.declared, get?_finish (by decide) (by decide) (by decide)]
  rfl

theorem isObject_finish (fields : Fields) : isObject (finish fields) = isObject fields := by
  rw [isObject, get?_finish (by decide) (by decide) (by decide)]
  rfl

theorem get?_finish_required (fields : Fields) : get? (finish fields) "required" =
    match JsonSchema.declared fields with
    | some properties => some (.arr (properties.map fun p => .str p.1.toList))
    | none => get? fields "required" := by
  rw [finish, get?_dropDefault (by decide), get?_forbidAdditional, if_neg fun hall => absurd hall.2.2 (by decide), get?_requireAll]
  split
  · rw [if_pos rfl]
  · rfl

theorem isObject_requireAll (fields : Fields) : isObject (requireAll fields) = isObject fields := by
  rw [isObject, get?_requireAll, isObject]
  cases JsonSchema.declared fields with
  | none => rfl
  | some properties =>
    have hother : "required" ≠ "type" := by decide
    simp only [if_neg hother]

theorem get?_finish_additional (fields : Fields) : get? (finish fields) "additionalProperties" =
    if isObject fields ∧ get? fields "additionalProperties" = none then some (.bool false)
    else get? fields "additionalProperties" := by
  have hrequire : get? (requireAll fields) "additionalProperties" = get? fields "additionalProperties" := by
    rw [get?_requireAll]
    split
    · rw [if_neg (by decide)]
    · rfl
  rw [finish, get?_dropDefault (by decide), get?_forbidAdditional, isObject_requireAll, hrequire]
  simp only [and_true]

theorem get?_finish_default (fields : Fields) : get? (finish fields) "default" ≠ some .null := by
  intro h
  rw [finish] at h
  unfold dropDefault at h
  split at h
  · rw [get?_drop, if_pos rfl] at h
    cases h
  · rename_i hnull
    exact hnull h

/-! ## Once is enough -/

theorem finish_finish (fields : Fields) : finish (finish fields) = finish fields := by
  have hrequire : requireAll (finish fields) = finish fields := by
    have hrequired := get?_finish_required fields
    unfold requireAll
    rw [declared_finish]
    split
    · rename_i properties hdeclared
      rw [hdeclared] at hrequired
      exact set_self hrequired
    · rfl
  have hforbid : forbidAdditional (finish fields) = finish fields := by
    unfold forbidAdditional
    rw [if_neg]
    rintro ⟨hobject, hnone⟩
    rw [isObject_finish] at hobject
    rw [get?_finish_additional] at hnone
    split at hnone
    · cases hnone
    · rename_i h
      exact h ⟨hobject, hnone⟩
  have hdrop : dropDefault (finish fields) = finish fields := by
    unfold dropDefault
    split
    · rename_i hnull
      exact absurd hnull (get?_finish_default fields)
    · rfl
  rw [finish, hrequire, hforbid, hdrop]

/-- What stands in a finished node stood in it before, or is what `finish` assigns. -/
theorem mem_finish {fields : Fields} {p : String × Value} (h : p ∈ finish fields) :
    p ∈ fields ∨ (∃ names, p = ("required", .arr names)) ∨ p = ("additionalProperties", .bool false) := by
  have hforbid : p ∈ forbidAdditional (requireAll fields) := by
    rw [finish] at h
    unfold dropDefault at h
    split at h
    · exact (List.mem_filter.1 h).1
    · exact h
  have hrequire : p ∈ requireAll fields ∨ p = ("additionalProperties", .bool false) := by
    unfold forbidAdditional at hforbid
    split at hforbid
    · rcases List.mem_append.1 hforbid with hmem | hmem
      · exact Or.inl hmem
      · exact Or.inr (List.mem_singleton.1 hmem)
    · exact Or.inl hforbid
  rcases hrequire with hmem | hp
  · unfold requireAll at hmem
    split at hmem
    · rcases mem_set hmem with hp | hmem
      · exact Or.inr (Or.inl ⟨_, hp⟩)
      · exact Or.inl hmem
    · exact Or.inl hmem
  · exact Or.inr (Or.inr hp)

/-- A node whose fields are visited is visited when it is finished. -/
theorem visitFields_finish {fields : Fields} (h : visitFields fields = fields) : visitFields (finish fields) = finish fields := by
  rw [visitFields_eq] at h ⊢
  have hkeyword : ∀ p ∈ fields, visitKeyword p.1 p.2 = p.2 := by
    intro p hp
    have hsame := List.map_inj_left.1 (h.trans (List.map_id fields).symm) p hp
    exact congrArg Prod.snd hsame
  refine (List.map_congr_left fun p hp => ?_).trans (List.map_id _)
  rcases mem_finish hp with hmem | ⟨names, rfl⟩ | rfl
  · exact Prod.ext rfl (hkeyword p hmem)
  · rfl
  · rfl

mutual

theorem visit_visit : ∀ v : Value, visit (visit v) = visit v
  | .arr xs => by rw [visit, visit, visitList_visitList xs]
  | .obj fields => by rw [visit, visit, visitFields_finish (visitFields_visitFields fields), finish_finish]
  | .null => rfl
  | .bool _ => rfl
  | .int _ => rfl
  | .float _ => rfl
  | .str _ => rfl

theorem visitList_visitList : ∀ xs : List Value, visitList (visitList xs) = visitList xs
  | [] => rfl
  | x :: xs => by rw [visitList, visitList, visit_visit x, visitList_visitList xs]

theorem visitEntries_visitEntries : ∀ fields : Fields, visitEntries (visitEntries fields) = visitEntries fields
  | [] => rfl
  | (key, value) :: rest => by rw [visitEntries, visitEntries, visit_visit value, visitEntries_visitEntries rest]

theorem visitFields_visitFields : ∀ fields : Fields, visitFields (visitFields fields) = visitFields fields
  | [] => rfl
  | (key, .obj entries) :: rest => by
    have hentries := visitEntries_visitEntries entries
    have hnode := visitFields_visitFields entries
    rw [visitFields]
    split
    · rename_i hmap
      rw [visitFields, if_pos hmap, hentries, visitFields_visitFields rest]
    split
    · rename_i hmap hitems
      rw [visitFields, if_neg hmap, if_pos hitems, visitFields_finish hnode, finish_finish, visitFields_visitFields rest]
    · rename_i hmap hitems
      rw [visitFields, if_neg hmap, if_neg hitems, visitFields_visitFields rest]
  | (key, .arr xs) :: rest => by
    have hlist := visitList_visitList xs
    rw [visitFields]
    split
    · rename_i hunion
      rw [visitFields, if_pos hunion, hlist, visitFields_visitFields rest]
    · rename_i hunion
      rw [visitFields, if_neg hunion, visitFields_visitFields rest]
  | (key, .null) :: rest => by rw [visitFields, visitFields, visitFields_visitFields rest] <;> simp
  | (key, .bool _) :: rest => by rw [visitFields, visitFields, visitFields_visitFields rest] <;> simp
  | (key, .int _) :: rest => by rw [visitFields, visitFields, visitFields_visitFields rest] <;> simp
  | (key, .float _) :: rest => by rw [visitFields, visitFields, visitFields_visitFields rest] <;> simp
  | (key, .str _) :: rest => by rw [visitFields, visitFields, visitFields_visitFields rest] <;> simp

end

end PromptRail.StrictSchema
