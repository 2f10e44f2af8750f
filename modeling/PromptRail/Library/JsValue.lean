import PromptRail.Library.Json

/-!
# Values of JavaScript

Values as `JSON.parse` makes them, and what JavaScript makes of one where it wants a text or a truth value. A number is carried by the
text that `String` makes of it; `undefined` is `null`, from which it differs in nothing that is modelled. A text is of characters, so
that it has no lone surrogates; its `length` counts the units of UTF-16.
-/

namespace Js

open PyText (Text)

/-- A value. The names of an object's fields are distinct. -/
inductive Value where
  | null
  | bool (b : Bool)
  | number (literal : Text)
  | str (t : Text)
  | arr (xs : List Value)
  | obj (fields : List (Text × Value))

/-- What `||` and `!` see. -/
def Value.truthy : Value → Bool
  | .null => false
  | .bool b => b
  | .number literal => literal ≠ "0".toList
  | .str t => t ≠ []
  | .arr _ | .obj _ => true

/-- `a || b`. -/
def Value.or (a b : Value) : Value := if a.truthy then a else b

/-- `value?.name`, of a name that no prototype has. -/
def Value.field (value : Value) (name : String) : Value :=
  match value with
  | .obj fields => (fields.lookup name.toList).getD .null
  | _ => .null

/-- The field of a name, of an object that has it. -/
def Value.get? (value : Value) (name : String) : Option Value :=
  match value with
  | .obj fields => fields.lookup name.toList
  | _ => none

/-- `value === t`, of a text. -/
def Value.isText (t : Text) : Value → Bool
  | .str s => s = t
  | _ => false

mutual

/-- `String(value)`; an object with a field `toString` of its own cannot be converted. -/
def toText : Value → Option Text
  | .null => some "null".toList
  | .bool true => some "true".toList
  | .bool false => some "false".toList
  | .number literal => some literal
  | .str t => some t
  | .arr xs => (elementTexts xs).map fun ts => [','].intercalate ts
  | .obj fields => if fields.any fun f => f.1 = "toString".toList then none else some "[object Object]".toList

/-- The elements of an array, as `join` takes them: `null` is no text. -/
def elementTexts : List Value → Option (List Text)
  | [] => some []
  | .null :: xs => (elementTexts xs).map fun ts => [] :: ts
  | x :: xs =>
    match toText x, elementTexts xs with
    | some t, some ts => some (t :: ts)
    | _, _ => none

end

mutual

/-- `JSON.stringify(value)`. -/
def stringify : Value → Text
  | .null => "null".toList
  | .bool true => "true".toList
  | .bool false => "false".toList
  | .number literal => literal
  | .str t => Json.quote t
  | .arr xs => '[' :: ([','].intercalate (stringifyElements xs) ++ [']'])
  | .obj fields => '{' :: ([','].intercalate (stringifyFields fields) ++ ['}'])

/-- The elements of an array. -/
def stringifyElements : List Value → List Text
  | [] => []
  | x :: xs => stringify x :: stringifyElements xs

/-- The fields of an object. -/
def stringifyFields : List (Text × Value) → List Text
  | [] => []
  | (name, x) :: fields => (Json.quote name ++ ':' :: stringify x) :: stringifyFields fields

end

/-- The spaces and line ends of JavaScript. -/
def isSpace (c : Char) : Bool :=
  let n := c.toNat
  (9 ≤ n && n ≤ 13) || n == 32 || n == 0xA0 || n == 0x1680 || (0x2000 ≤ n && n ≤ 0x200A) || n == 0x2028 || n == 0x2029 ||
    n == 0x202F || n == 0x205F || n == 0x3000 || n == 0xFEFF

/-- `trim`. -/
def trim (t : Text) : Text := ((t.dropWhile isSpace).reverse.dropWhile isSpace).reverse

/-- `length`: a character outside the basic plane counts twice. -/
def length (t : Text) : Nat := (t.map fun c => if c.toNat < 65536 then 1 else 2).sum

/-- `split(separator)`, of one character. -/
def split (separator : Char) (t : Text) : List Text := t.splitOn separator

@[simp] theorem truthy_null : Value.null.truthy = false := rfl

@[simp] theorem truthy_str (t : Text) : (Value.str t).truthy = decide (t ≠ []) := rfl

@[simp] theorem toText_str (t : Text) : toText (.str t) = some t := by
  rw [toText]

theorem field_eq_get? (value : Value) (name : String) : value.field name = (value.get? name).getD .null := by
  cases value <;> rfl

theorem isText_iff {t : Text} {value : Value} : value.isText t = true ↔ value = .str t := by
  cases value <;> simp [Value.isText]

theorem or_of_truthy {a : Value} (h : a.truthy = true) (b : Value) : a.or b = a := if_pos h

theorem or_of_falsy {a : Value} (h : a.truthy = false) (b : Value) : a.or b = b := by
  rw [Value.or, h]
  rfl

/-- `String(value)`, which raises where a value cannot be converted. -/
def string (value : Value) : Except String Text :=
  match toText value with
  | some t => .ok t
  | none => .error "Cannot convert object to primitive value"

theorem string_ok {value : Value} {t : Text} (h : string value = .ok t) : toText value = some t := by
  unfold string at h
  split at h
  · rename_i htext
    cases h
    exact htext
  · cases h

/-- `slice(0, n)`; half of a pair is dropped. -/
def slice : Nat → Text → Text
  | _, [] => []
  | n, c :: t => if length [c] ≤ n then c :: slice (n - length [c]) t else []

end Js
