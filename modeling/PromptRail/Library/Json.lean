import PromptRail.Library.PyText
import Mathlib.Data.List.Sort

/-!
# JSON values and the bytes `json.dumps` writes

Values as Python's `json` module holds them; a float is carried by the literal `float.__repr__` prints, and is finite. `dump` is
`json.dumps(ensure_ascii=False, sort_keys=True, separators=(",", ":"))`. The last lemmas give the length of an object in bytes,
and what setting one of its fields to another string does to that length.
-/

namespace Json

open PyText

/-- A JSON value. -/
inductive Value where
  | null
  | bool (b : Bool)
  | int (n : Int)
  | float (literal : String)
  | str (s : Text)
  | arr (xs : List Value)
  | obj (fields : List (String × Value))

/-- The fields of a JSON object, in order of insertion. -/
abbrev Fields := List (String × Value)

/-- A hexadecimal digit, in lower case. -/
def hexDigit (n : Nat) : Char := if n < 10 then Char.ofNat (48 + n) else Char.ofNat (87 + n)

/-- One character inside a JSON string. -/
def escape (c : Char) : Text :=
  if c = '"' then ['\\', '"']
  else if c = '\\' then ['\\', '\\']
  else if c = '\n' then ['\\', 'n']
  else if c = '\r' then ['\\', 'r']
  else if c = '\t' then ['\\', 't']
  else if c.toNat = 8 then ['\\', 'b']
  else if c.toNat = 12 then ['\\', 'f']
  else if c.toNat < 32 then ['\\', 'u', '0', '0', hexDigit (c.toNat / 16), hexDigit (c.toNat % 16)]
  else [c]

/-- A JSON string. -/
def quote (s : Text) : Text := '"' :: (s.flatMap escape ++ ['"'])

/-- The bytes of a text inside a JSON string, without the quotes. -/
def escapedLen (s : Text) : Nat := utf8Len (s.flatMap escape)

@[simp] theorem escapedLen_nil : escapedLen [] = 0 := rfl

@[simp] theorem escapedLen_append (s t : Text) : escapedLen (s ++ t) = escapedLen s + escapedLen t := by
  simp [escapedLen]

/-- The bytes of a joined text inside a JSON string. -/
theorem escapedLen_intercalate (sep : Text) (ts : List Text) :
    escapedLen (sep.intercalate ts) = (ts.map escapedLen).sum + (ts.length - 1) * escapedLen sep := by
  induction ts with
  | nil => simp
  | cons t ts ih =>
    cases ts with
    | nil => simp
    | cons u us =>
      rw [List.intercalate_cons_cons, escapedLen_append, escapedLen_append, ih]
      simp only [List.map_cons, List.sum_cons, List.length_cons, Nat.add_sub_cancel, Nat.succ_mul]
      omega

theorem utf8Len_quote (s : Text) : utf8Len (quote s) = escapedLen s + 2 := by
  have h : Char.utf8Size '"' = 1 := by decide
  simp only [quote, utf8Len_cons, utf8Len_append, utf8Len_nil, h, escapedLen]
  omega

/-- The fields of an object in the order of their names, each dumped already. -/
def sortFields (fs : List (String × Text)) : List (String × Text) := fs.insertionSort fun a b => a.1 ≤ b.1

/-- One dumped field. -/
def dumpField (p : String × Text) : Text := quote p.1.toList ++ ':' :: p.2

mutual

/-- The text `json.dumps` writes, with sorted keys and without white space. -/
def dump : Value → Text
  | .null => "null".toList
  | .bool b => (if b then "true" else "false").toList
  | .int n => (toString n).toList
  | .float literal => literal.toList
  | .str s => quote s
  | .arr xs => '[' :: ([','].intercalate (dumpList xs) ++ [']'])
  | .obj fs => '{' :: ([','].intercalate ((sortFields (dumpFields fs)).map dumpField) ++ ['}'])

/-- The elements of an array, dumped. -/
def dumpList : List Value → List Text
  | [] => []
  | x :: xs => dump x :: dumpList xs

/-- The fields of an object, their values dumped. -/
def dumpFields : Fields → List (String × Text)
  | [] => []
  | (k, v) :: fs => (k, dump v) :: dumpFields fs

end

mutual

/-- The text `json.dumps` writes without white space, with the keys in order of insertion. -/
def dumpInOrder : Value → Text
  | .arr xs => '[' :: ([','].intercalate (dumpInOrderList xs) ++ [']'])
  | .obj fs => '{' :: ([','].intercalate (dumpInOrderFields fs) ++ ['}'])
  | .null => dump .null
  | .bool b => dump (.bool b)
  | .int n => dump (.int n)
  | .float literal => dump (.float literal)
  | .str s => dump (.str s)

/-- The elements of an array, dumped. -/
def dumpInOrderList : List Value → List Text
  | [] => []
  | x :: xs => dumpInOrder x :: dumpInOrderList xs

/-- The fields of an object, dumped. -/
def dumpInOrderFields : Fields → List Text
  | [] => []
  | (k, v) :: fs => dumpField (k, dumpInOrder v) :: dumpInOrderFields fs

end

/-- The value of a field: `dict.get`. -/
def get? (fs : Fields) (k : String) : Option Value := (fs.find? fun p => p.1 == k).map (·.2)

/-- Assign a field: `d[k] = v`. -/
def set : Fields → String → Value → Fields
  | [], k, v => [(k, v)]
  | (k', v') :: fs, k, v => if k' = k then (k, v) :: fs else (k', v') :: set fs k v

/-- The truth value of a JSON value: `bool(v)`. -/
def truthy : Value → Bool
  | .null => false
  | .bool b => b
  | .int n => n != 0
  | .float literal => literal != "0.0" && literal != "-0.0"
  | .str s => !s.isEmpty
  | .arr xs => !xs.isEmpty
  | .obj fs => !fs.isEmpty

/-! ## The length of an object -/

/-- The bytes of one field of an object. -/
def fieldLen (p : String × Value) : Nat := utf8Len (quote p.1.toList) + 1 + utf8Len (dump p.2)

theorem dumpFields_eq (fs : Fields) : dumpFields fs = fs.map fun p => (p.1, dump p.2) := by
  induction fs with
  | nil => rfl
  | cons p fs ih => rw [dumpFields, ih, List.map_cons]

theorem utf8Len_dumpField (k : String) (v : Value) : utf8Len (dumpField (k, dump v)) = fieldLen (k, v) := by
  have h : Char.utf8Size ':' = 1 := by decide
  simp only [dumpField, fieldLen, utf8Len_append, utf8Len_cons, h]
  omega

/-- An object takes the bytes of its fields, two braces, and a comma between any two fields: the order of the fields does not
matter. -/
theorem utf8Len_dump_obj (fs : Fields) :
    utf8Len (dump (.obj fs)) = (fs.map fieldLen).sum + (fs.length - 1) + 2 := by
  have hb : Char.utf8Size '{' = 1 ∧ Char.utf8Size '}' = 1 ∧ Char.utf8Size ',' = 1 := by decide
  have hp : ((sortFields (dumpFields fs)).map dumpField).Perm ((dumpFields fs).map dumpField) :=
    (List.perm_insertionSort _ _).map _
  have hs : ((dumpFields fs).map dumpField).map utf8Len = fs.map fieldLen := by
    rw [dumpFields_eq, List.map_map, List.map_map]
    exact List.map_congr_left fun p _ => utf8Len_dumpField p.1 p.2
  have hl : ((sortFields (dumpFields fs)).map dumpField).length = fs.length := by
    rw [hp.length_eq, List.length_map, dumpFields_eq, List.length_map]
  rw [dump, utf8Len_cons, utf8Len_append, utf8Len_intercalate, (hp.map utf8Len).sum_eq, hs, hl]
  simp only [utf8Len_cons, utf8Len_nil, hb]
  omega

theorem set_length {fs : Fields} {k : String} {v : Value} (h : get? fs k = some v) (w : Value) :
    (set fs k w).length = fs.length := by
  induction fs with
  | nil => simp [get?] at h
  | cons p fs ih =>
    by_cases hk : p.1 = k
    · simp [set, hk]
    · have hg : get? fs k = some v := by simpa [get?, List.find?_cons, hk] using h
      simp [set, hk, ih hg]

/-- Two objects have the same keys, in one order, and the same values but at one key. -/
def SameBut (k : String) (fs fs' : Fields) : Prop :=
  List.Forall₂ (fun old new => old.1 = new.1 ∧ (old.1 ≠ k → old.2 = new.2)) fs fs'

theorem sameBut_refl (k : String) (fs : Fields) : SameBut k fs fs := by
  induction fs with
  | nil => exact List.Forall₂.nil
  | cons p fs ih => exact List.Forall₂.cons ⟨rfl, fun _ => rfl⟩ ih

/-- Assigning a field that is present changes nothing beside it. -/
theorem sameBut_set {fs : Fields} {k : String} {v : Value} (h : get? fs k = some v) (w : Value) : SameBut k fs (set fs k w) := by
  induction fs with
  | nil => simp [get?] at h
  | cons p fs ih =>
    obtain ⟨k', v'⟩ := p
    by_cases hk : k' = k
    · subst hk
      simp only [set, if_true]
      exact List.Forall₂.cons ⟨rfl, fun hne => absurd rfl hne⟩ (sameBut_refl _ fs)
    · have hg : get? fs k = some v := by simpa [get?, List.find?_cons, hk] using h
      simp only [set, hk, if_false]
      exact List.Forall₂.cons ⟨rfl, fun _ => rfl⟩ (ih hg)

theorem set_fieldLen {fs : Fields} {k : String} {v : Value} (h : get? fs k = some v) (w : Value) :
    ((set fs k w).map fieldLen).sum + utf8Len (dump v) = (fs.map fieldLen).sum + utf8Len (dump w) := by
  induction fs with
  | nil => simp [get?] at h
  | cons p fs ih =>
    obtain ⟨k', v'⟩ := p
    by_cases hk : k' = k
    · subst hk
      obtain rfl : v' = v := by simpa [get?] using h
      simp only [set, if_true, List.map_cons, List.sum_cons, fieldLen]
      omega
    · have hg : get? fs k = some v := by simpa [get?, List.find?_cons, hk] using h
      have := ih hg
      simp only [set, hk, if_false, List.map_cons, List.sum_cons]
      omega

/-- Assigning a field that is present trades the bytes of the old value for those of the new one. -/
theorem utf8Len_dump_set {fs : Fields} {k : String} {v : Value} (h : get? fs k = some v) (w : Value) :
    utf8Len (dump (.obj (set fs k w))) + utf8Len (dump v) = utf8Len (dump (.obj fs)) + utf8Len (dump w) := by
  have := set_fieldLen h w
  rw [utf8Len_dump_obj, utf8Len_dump_obj, set_length h]
  omega

/-- Assigning another text to a field that holds a text trades the bytes of the one for those of the other. -/
theorem utf8Len_dump_set_str {fs : Fields} {k : String} {s : Text} (h : get? fs k = some (.str s)) (t : Text) :
    utf8Len (dump (.obj (set fs k (.str t)))) + escapedLen s = utf8Len (dump (.obj fs)) + escapedLen t := by
  have := utf8Len_dump_set h (.str t)
  simp only [dump, utf8Len_quote] at this ⊢
  omega

end Json
