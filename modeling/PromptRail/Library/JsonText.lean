import PromptRail.Library.Json
import Mathlib.Data.List.TakeWhile

/-!
# JSON in ASCII, and reading it

`dumps` is `json.dumps(sort_keys=True, separators=(",", ":"))`, which leaves no character outside ASCII, and `loads` is
`json.loads`. A float keeps the literal it is spelled with, and half of a surrogate pair, which a text here cannot hold, is
refused.
-/

namespace Json

open PyText

/-! ## Writing -/

/-- `\uXXXX`. -/
def unicodeEscape (n : Nat) : Text :=
  ['\\', 'u', hexDigit (n / 4096), hexDigit (n / 256 % 16), hexDigit (n / 16 % 16), hexDigit (n % 16)]

/-- One character in ASCII; one outside the basic plane is a pair of surrogates. -/
def toAscii (c : Char) : Text :=
  if c.toNat < 127 then [c]
  else if c.toNat < 65536 then unicodeEscape c.toNat
  else unicodeEscape (55296 + (c.toNat - 65536) / 1024) ++ unicodeEscape (56320 + (c.toNat - 65536) % 1024)

/-- `json.dumps(sort_keys=True, separators=(",", ":"))`. -/
def dumps (v : Value) : Text := (dump v).flatMap toAscii

/-! ## Reading -/

/-- The value of a hexadecimal digit. -/
def hexValue? (c : Char) : Option Nat :=
  if '0' ≤ c ∧ c ≤ '9' then some (c.toNat - 48)
  else if 'a' ≤ c ∧ c ≤ 'f' then some (c.toNat - 87)
  else if 'A' ≤ c ∧ c ≤ 'F' then some (c.toNat - 55)
  else none

/-- The four digits of `\uXXXX`. -/
def readHex : Text → Option (Nat × Text)
  | a :: b :: c :: d :: rest => do
    let a ← hexValue? a
    let b ← hexValue? b
    let c ← hexValue? c
    let d ← hexValue? d
    return (((a * 16 + b) * 16 + c) * 16 + d, rest)
  | _ => none

/-- What the text goes on with, after a character that must stand there. -/
def expect (c : Char) : Text → Option Text
  | [] => none
  | d :: rest => if d = c then some rest else none

/-- The second half of a surrogate pair. -/
def readLowSurrogate (high : Nat) (t : Text) : Option (Char × Text) := do
  let t ← expect '\\' t
  let t ← expect 'u' t
  let (low, t) ← readHex t
  if 56320 ≤ low ∧ low < 57344 then some (Char.ofNat (65536 + (high - 55296) * 1024 + (low - 56320)), t) else none

/-- What stands after `\u`. -/
def readUnicode (t : Text) : Option (Char × Text) := do
  let (n, t) ← readHex t
  if n < 55296 ∨ 57344 ≤ n then some (Char.ofNat n, t)
  else if n < 56320 then readLowSurrogate n t
  else none

/-- The escapes of one letter. -/
def escapes : List (Char × Char) :=
  [('"', '"'), ('\\', '\\'), ('/', '/'), ('b', Char.ofNat 8), ('f', Char.ofNat 12), ('n', '\n'), ('r', '\r'), ('t', '\t')]

/-- What stands after a backslash. -/
def readEscape : Text → Option (Char × Text)
  | [] => none
  | c :: rest => if c = 'u' then readUnicode rest else (escapes.lookup c).map fun d => (d, rest)

/-- A string, after its opening quote. -/
def readString : Nat → Text → Option (Text × Text)
  | 0, _ => none
  | _ + 1, [] => none
  | fuel + 1, c :: rest =>
    if c = '"' then some ([], rest)
    else if c = '\\' then do
      let (d, rest) ← readEscape rest
      let (s, rest) ← readString fuel rest
      return (d :: s, rest)
    else if c.toNat < 32 then none
    else do
      let (s, rest) ← readString fuel rest
      return (c :: s, rest)

/-- `0|[1-9]\d*`. -/
def scanNat (t : Text) : Option (Text × Text) :=
  match t.takeWhile Char.isDigit with
  | [] => none
  | d :: ds => if d = '0' then some (['0'], t.drop 1) else some (d :: ds, t.dropWhile Char.isDigit)

/-- `-?(0|[1-9]\d*)`. -/
def scanInt (t : Text) : Option (Text × Text) :=
  match expect '-' t with
  | some rest => (scanNat rest).map fun r => ('-' :: r.1, r.2)
  | none => scanNat t

/-- `(\.\d+)?`. -/
def scanFraction (t : Text) : Text × Text :=
  match expect '.' t with
  | none => ([], t)
  | some rest =>
    if rest.takeWhile Char.isDigit = [] then ([], t) else ('.' :: rest.takeWhile Char.isDigit, rest.dropWhile Char.isDigit)

/-- `[-+]?`. -/
def scanSign : Text → Text × Text
  | [] => ([], [])
  | c :: rest => if c = '+' ∨ c = '-' then ([c], rest) else ([], c :: rest)

/-- `([eE][-+]?\d+)?`. -/
def scanExponent (t : Text) : Text × Text :=
  match t with
  | [] => ([], [])
  | c :: rest =>
    if c = 'e' ∨ c = 'E' then
      let (sign, digits) := scanSign rest
      if digits.takeWhile Char.isDigit = [] then ([], t)
      else (c :: (sign ++ digits.takeWhile Char.isDigit), digits.dropWhile Char.isDigit)
    else ([], t)

/-- `int(literal)`. -/
def intOf (literal : Text) : Int :=
  match expect '-' literal with
  | some digits => -(Nat.ofDigitChars 10 digits 0 : Int)
  | none => Nat.ofDigitChars 10 literal 0

/-- A number. -/
def readNumber (t : Text) : Option (Value × Text) := do
  let (int, t) ← scanInt t
  let (fraction, t) := scanFraction t
  let (exponent, t) := scanExponent t
  if fraction = [] ∧ exponent = [] then return (.int (intOf int), t)
  return (.float (String.ofList (int ++ fraction ++ exponent)), t)

/-- The words of JSON, and those that Python adds to them. -/
def constants : List (Text × Value) :=
  [(['n', 'u', 'l', 'l'], .null), (['t', 'r', 'u', 'e'], .bool true), (['f', 'a', 'l', 's', 'e'], .bool false),
    (['N', 'a', 'N'], .float "NaN"), (['I', 'n', 'f', 'i', 'n', 'i', 't', 'y'], .float "Infinity"),
    (['-', 'I', 'n', 'f', 'i', 'n', 'i', 't', 'y'], .float "-Infinity")]

/-- A number or a constant. -/
def readScalar (t : Text) : Option (Value × Text) :=
  match readNumber t with
  | some r => some r
  | none => constants.findSome? fun c => (t.dropPrefix? c.1).map fun rest => (c.2, rest)

/-- `[ \t\n\r]`. -/
def isWhite (c : Char) : Bool := c == ' ' || c == '\t' || c == '\n' || c == '\r'

def skipWhite (t : Text) : Text := t.dropWhile isWhite

/-- The items of an array or of an object that is not empty, from the first one on. -/
def readItems {α : Type} (close : Char) (read : Text → Option (α × Text)) : Nat → Text → Option (List α × Text)
  | 0, _ => none
  | fuel + 1, t => do
    let (x, t) ← read t
    match expect ',' (skipWhite t) with
    | some t => do
      let (xs, t) ← readItems close read fuel (skipWhite t)
      return (x :: xs, t)
    | none => do
      let t ← expect close (skipWhite t)
      return ([x], t)

/-- One field of an object. -/
def readField (read : Text → Option (Value × Text)) (t : Text) : Option ((String × Value) × Text) := do
  let t ← expect '"' t
  let (name, t) ← readString (t.length + 1) t
  let t ← expect ':' (skipWhite t)
  let (x, t) ← read (skipWhite t)
  return ((String.ofList name, x), t)

/-- `dict(pairs)`: of two fields of one name the later one counts. -/
def ofPairs (pairs : Fields) : Fields := pairs.foldl (fun fs p => set fs p.1 p.2) []

/-- A value, from its first character on. -/
def readValue : Nat → Text → Option (Value × Text)
  | 0, _ => none
  | _ + 1, [] => none
  | fuel + 1, c :: rest =>
    if c = '"' then do
      let (s, t) ← readString (rest.length + 1) rest
      return (.str s, t)
    else if c = '[' then
      match expect ']' (skipWhite rest) with
      | some t => some (.arr [], t)
      | none => do
        let (xs, t) ← readItems ']' (readValue fuel) (fuel + 1) (skipWhite rest)
        return (.arr xs, t)
    else if c = '{' then
      match expect '}' (skipWhite rest) with
      | some t => some (.obj [], t)
      | none => do
        let (fields, t) ← readItems '}' (readField (readValue fuel)) (fuel + 1) (skipWhite rest)
        return (.obj (ofPairs fields), t)
    else readScalar (c :: rest)

/-- `json.loads`. -/
def loads (t : Text) : Option Value := do
  let (v, rest) ← readValue (t.length + 1) (skipWhite t)
  if skipWhite rest = [] then some v else none

end Json
