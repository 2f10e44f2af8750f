import PromptRail.Library.PyText

/-!
# Reading an integer

`int(text, base)` leaves out the white space around a text and reads a sign, the prefix of the base, and digits. An underscore may stand
between two of them. A digit outside ASCII counts as the one of ASCII; which characters are decimal digits is a table of the Unicode
database, taken as a parameter (`decimal`).
-/

namespace PyInt

open PyText (Text isSpace)

/-- The character of ASCII that stands for a character. -/
def toAscii (decimal : Char → Option Nat) (c : Char) : Char :=
  if c.toNat < 127 then c
  else if isSpace c then ' '
  else
    match decimal c with
    | some d => Char.ofNat (48 + d)
    | none => '?'

/-- The white space of ASCII that may stand around the digits; the separators 28 to 31 are not part of it. -/
def isBlank (c : Char) : Bool := c == ' ' || (9 ≤ c.toNat && c.toNat ≤ 13)

/-- The text between the blanks at its ends. -/
def trim (t : Text) : Text := ((t.dropWhile isBlank).reverse.dropWhile isBlank).reverse

/-- The value of a letter or a digit. -/
def alphanumericValue? (c : Char) : Option Nat :=
  if '0' ≤ c ∧ c ≤ '9' then some (c.toNat - 48)
  else if 'a' ≤ c ∧ c ≤ 'z' then some (c.toNat - 87)
  else if 'A' ≤ c ∧ c ≤ 'Z' then some (c.toNat - 55)
  else none

/-- The value of a digit of the base. -/
def digit? (base : Nat) (c : Char) : Option Nat := (alphanumericValue? c).filter (· < base)

/-- The digits of a text. An underscore may stand after a digit, and the text may end there (`after`). -/
def digits (base : Nat) : Bool → Text → Option (List Nat)
  | after, [] => if after then some [] else none
  | after, c :: rest =>
    if c = '_' then if after then digits base false rest else none
    else
      match digit? base c with
      | some d => (digits base true rest).map (d :: ·)
      | none => none

/-- The sign at the front of a text. -/
def readSign : Text → Bool × Text
  | [] => (false, [])
  | c :: rest => if c = '-' then (true, rest) else if c = '+' then (false, rest) else (false, c :: rest)

/-- What follows the prefix of the base, and an underscore behind it. -/
def dropBase (base : Nat) : Text → Text
  | '0' :: c :: rest => if base = 16 ∧ (c = 'x' ∨ c = 'X') then if rest.head? = some '_' then rest.tail else rest else '0' :: c :: rest
  | t => t

/-- The most digits that are read in a base that is no power of two. -/
def maxStrDigits : Nat := 4300

/-- The number that digits spell. -/
def ofDigits (base : Nat) (ds : List Nat) : Nat := ds.foldl (fun n d => n * base + d) 0

/-- `int(text, base)`, for the bases ten and sixteen. -/
def parse (decimal : Char → Option Nat) (base : Nat) (t : Text) : Option Int :=
  let signed := readSign (trim (t.map (toAscii decimal)))
  match digits base false (dropBase base signed.2) with
  | none => none
  | some ds =>
    if base = 10 ∧ maxStrDigits < ds.length then none
    else some (if signed.1 then -(ofDigits base ds : Int) else ofDigits base ds)

/-- Blanks, a sign, the prefix, underscores and a digit of another script. -/
example :
    parse (fun _ => none) 16 " -0X_f_f\n".toList = some (-255) ∧ parse (fun _ => none) 16 "0x".toList = none ∧
      parse (fun c => if c = '٣' then some 3 else none) 10 "1٣".toList = some 13 := by
  decide

end PyInt
