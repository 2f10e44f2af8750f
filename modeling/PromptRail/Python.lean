import PromptRail.Library.JsonText
import PromptRail.Library.PyInt
import PromptRail.Library.TextMethods
import PromptRail.Privacy

/-!
# Python values

What an importer is handed: the values that JSON has, tuples, and objects of any other type. What the interpreter knows about those, how it
prints a value, and the tables of its texts are the fields of an `Interpreter`.
-/

namespace PromptRail

namespace Python

open PyText (Text LowerCase)
open Privacy (Key FloatValue Attribute Items)

/-- A Python value. A mapping has its items in order, an object is a value of any type that is not named here. -/
inductive Datum where
  | none
  | bool (b : Bool)
  | int (n : Int)
  | float (x : FloatValue)
  | str (t : Text)
  | mapping (items : List (Key × Datum))
  | list (items : List Datum)
  | tuple (items : List Datum)
  | object (object : Nat)

/-- A mapping. -/
abbrev Record := List (Key × Datum)

mutual

/-- The keys of every mapping differ, as those of a dictionary do. -/
def Datum.Distinct : Datum → Prop
  | .mapping items => (items.map Prod.fst).Nodup ∧ DistinctItems items
  | .list items | .tuple items => DistinctList items
  | _ => True

def DistinctItems : Record → Prop
  | [] => True
  | (_, item) :: rest => item.Distinct ∧ DistinctItems rest

def DistinctList : List Datum → Prop
  | [] => True
  | item :: rest => item.Distinct ∧ DistinctList rest

end

/-- An exception: a `TypeError` or a `ValueError`, which a conversion may raise, or another one. -/
inductive Failure where
  | conversion (message : String)
  | other (message : String)

/-- The text of an exception. -/
def Failure.message : Failure → String
  | .conversion message | .other message => message

/-- What is known about objects, printing and texts: `repr` is `str` of a value whose text is not given here, `integer` is `int` of an
object and `iterate` the values an object yields, if it does. -/
structure Interpreter where
  lowerCase : LowerCase
  decimal : Char → Option Nat
  float : String → Option ℚ
  repr : Datum → Except Failure Text
  truthy : Nat → Bool
  integer : Nat → Except Failure Int
  iterate : Nat → Option (List Datum)
  distinct_iterate : ∀ object items, iterate object = some items → DistinctList items

variable (env : Interpreter)

/-! ## Operations -/

/-- `bool(value)`. -/
def Datum.truthy : Datum → Bool
  | .none => false
  | .bool b => b
  | .int n => n != 0
  | .float x => x != .finite 0
  | .str t => !t.isEmpty
  | .mapping items => !items.isEmpty
  | .list items | .tuple items => !items.isEmpty
  | .object o => env.truthy o

/-- `int(value)`. -/
def Datum.toInt : Datum → Except Failure Int
  | .bool b => .ok (if b then 1 else 0)
  | .int n => .ok n
  | .float (.finite x) => .ok (x.num.tdiv x.den)
  | .float (.infinity _) => .error (.other "cannot convert float infinity to integer")
  | .float .nan => .error (.conversion "cannot convert float NaN to integer")
  | .str t =>
    (PyInt.parse env.decimal 10 t).elim (.error (.conversion "invalid literal for int() with base 10")) .ok
  | .object o => env.integer o
  | .none | .mapping _ | .list _ | .tuple _ =>
    .error (.conversion "int() argument must be a string, a bytes-like object or a real number")

/-- `str(value)`. -/
def Datum.toText : Datum → Except Failure Text
  | .none => .ok "None".toList
  | .bool b => .ok (if b then "True".toList else "False".toList)
  | .int n =>
    if PyInt.maxStrDigits < (toString n.natAbs).length then .error (.conversion "Exceeds the limit for integer string conversion")
    else .ok (toString n).toList
  | .str t => .ok t
  | d => env.repr d

/-- `mapping.get(name)`. -/
def get (record : Record) (name : String) : Datum := (record.lookup (.str name.toList)).getD .none

/-- `name in mapping`. -/
def contains (record : Record) (name : String) : Bool := (record.lookup (.str name.toList)).isSome

/-- `mapping.get(first) or mapping.get(second) or …`. -/
def getAny (record : Record) : List String → Datum
  | [] => .none
  | [name] => get record name
  | name :: names => if (get record name).truthy env then get record name else getAny record names

theorem getAny_cons (record : Record) (name next : String) (names : List String) :
    getAny env record (name :: next :: names) =
      if (get record name).truthy env then get record name else getAny env record (next :: names) := rfl

/-- `mapping[key] = value`. -/
def setItem : Record → Key → Datum → Record
  | [], key, value => [(key, value)]
  | (key', value') :: rest, key, value => if key' = key then (key, value) :: rest else (key', value') :: setItem rest key value

/-- The mappings among values. -/
def mappingsOf (values : List Datum) : List Record :=
  values.filterMap fun
    | .mapping items => some items
    | _ => none

/-! ## Values of JSON -/

/-- `float(literal)`. -/
def floatValue (literal : String) : FloatValue :=
  if literal = "NaN" then .nan
  else
    match env.float literal with
    | some x => .finite x
    | none => .infinity ("-".toList.isPrefixOf literal.toList)

mutual

/-- A value of JSON. -/
def ofJson : Json.Value → Datum
  | .null => .none
  | .bool b => .bool b
  | .int n => .int n
  | .float literal => .float (floatValue env literal)
  | .str t => .str t
  | .arr xs => .list (ofJsonList xs)
  | .obj fields => .mapping (ofJsonFields fields)

def ofJsonList : List Json.Value → List Datum
  | [] => []
  | x :: xs => ofJson x :: ofJsonList xs

def ofJsonFields : Json.Fields → Record
  | [] => []
  | (name, x) :: fields => (.str name.toList, ofJson x) :: ofJsonFields fields

end

/-! ## Attributes -/

mutual

/-- A value as a policy looks at it, which treats lists and tuples alike. -/
def Datum.toAttribute : Datum → Attribute
  | .none => .none
  | .bool b => .bool b
  | .int n => .int n
  | .float x => .float x
  | .str t => .str t
  | .mapping items => .mapping (toItems items)
  | .list items | .tuple items => .sequence (toSequence items)
  | .object o => .object o

def toItems : Record → Items
  | [] => []
  | (key, item) :: rest => (key, item.toAttribute) :: toItems rest

def toSequence : List Datum → List Attribute
  | [] => []
  | item :: rest => item.toAttribute :: toSequence rest

end

mutual

/-- A value that a policy has kept; a sequence that it has copied is a list. -/
def ofAttribute : Attribute → Datum
  | .none => .none
  | .bool b => .bool b
  | .int n => .int n
  | .float x => .float x
  | .str t => .str t
  | .mapping items => .mapping (ofItems items)
  | .sequence items => .list (ofSequence items)
  | .object object => .object object

def ofItems : Items → Record
  | [] => []
  | (key, item) :: rest => (key, ofAttribute item) :: ofItems rest

def ofSequence : List Attribute → List Datum
  | [] => []
  | item :: rest => ofAttribute item :: ofSequence rest

end

mutual

theorem toAttribute_ofAttribute (a : Attribute) : (ofAttribute a).toAttribute = a := by
  cases a with
  | mapping items => rw [ofAttribute, Datum.toAttribute, toItems_ofItems items]
  | sequence items => rw [ofAttribute, Datum.toAttribute, toSequence_ofSequence items]
  | none | bool | int | float | str | object => rfl

theorem toItems_ofItems (items : Items) : toItems (ofItems items) = items := by
  match items with
  | [] => rfl
  | (key, item) :: rest => rw [ofItems, toItems, toAttribute_ofAttribute item, toItems_ofItems rest]

theorem toSequence_ofSequence (items : List Attribute) : toSequence (ofSequence items) = items := by
  match items with
  | [] => rfl
  | item :: rest => rw [ofSequence, toSequence, toAttribute_ofAttribute item, toSequence_ofSequence rest]

end

end Python

end PromptRail
