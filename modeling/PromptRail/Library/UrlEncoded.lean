import PromptRail.Library.PyText

/-!
# Form-encoded queries

UTF-8 as a text decoder reads it, with a replacement character for what is not well-formed, and the parser of
`application/x-www-form-urlencoded`.
-/

namespace UrlEncoded

open PyText (Text)

abbrev Bytes := List UInt8

/-! ## UTF-8 -/

/-- The state of the decoder: the code point so far, how many bytes are still to come, and the bounds of the next one. -/
structure Utf8State where
  codePoint : Nat := 0
  needed : Nat := 0
  lower : Nat := 0x80
  upper : Nat := 0xBF

def replacement : Char := Char.ofNat 0xFFFD

/-- A byte where none is to come. -/
def firstByte (byte : Nat) : Text × Utf8State :=
  if byte ≤ 0x7F then ([Char.ofNat byte], {})
  else if 0xC2 ≤ byte ∧ byte ≤ 0xDF then ([], { codePoint := byte - 0xC0, needed := 1 })
  else if 0xE0 ≤ byte ∧ byte ≤ 0xEF then
    ([], { codePoint := byte - 0xE0
           needed := 2
           lower := if byte = 0xE0 then 0xA0 else 0x80
           upper := if byte = 0xED then 0x9F else 0xBF })
  else if 0xF0 ≤ byte ∧ byte ≤ 0xF4 then
    ([], { codePoint := byte - 0xF0
           needed := 3
           lower := if byte = 0xF0 then 0x90 else 0x80
           upper := if byte = 0xF4 then 0x8F else 0xBF })
  else ([replacement], {})

/-- The next byte: one that is out of its bounds is read again as a first one. -/
def nextByte (state : Utf8State) (byte : Nat) : Text × Utf8State :=
  if state.needed = 0 then firstByte byte
  else if byte < state.lower ∨ state.upper < byte then
    let (text, state) := firstByte byte
    (replacement :: text, state)
  else
    let codePoint := state.codePoint * 64 + (byte - 0x80)
    if state.needed = 1 then ([Char.ofNat codePoint], {}) else ([], { codePoint, needed := state.needed - 1 })

def decodeFrom (state : Utf8State) : Bytes → Text
  | [] => if state.needed = 0 then [] else [replacement]
  | byte :: bytes =>
    let (text, state) := nextByte state byte.toNat
    text ++ decodeFrom state bytes

/-- UTF-8 decode without a byte order mark. -/
def decodeUtf8 (bytes : Bytes) : Text := decodeFrom {} bytes

/-- `new TextDecoder().decode`, which leaves out a byte order mark. -/
def textDecode (bytes : Bytes) : Text :=
  match bytes with
  | 0xEF :: 0xBB :: 0xBF :: rest => decodeUtf8 rest
  | _ => decodeUtf8 bytes

/-! ## Queries -/

def hexValue? (byte : UInt8) : Option Nat :=
  let n := byte.toNat
  if 48 ≤ n ∧ n ≤ 57 then some (n - 48)
  else if 65 ≤ n ∧ n ≤ 70 then some (n - 55)
  else if 97 ≤ n ∧ n ≤ 102 then some (n - 87)
  else none

def percentDecode : Bytes → Bytes
  | [] => []
  | [a] => [a]
  | [a, b] => [a, b]
  | a :: b :: c :: rest =>
    if a = 0x25 then
      match hexValue? b, hexValue? c with
      | some high, some low => UInt8.ofNat (16 * high + low) :: percentDecode rest
      | _, _ => a :: percentDecode (b :: c :: rest)
    else a :: percentDecode (b :: c :: rest)

/-- A name or a value, as it is decoded. -/
def decodeComponent (bytes : Bytes) : Text := decodeUtf8 (percentDecode (bytes.map fun b => if b = 0x2B then 0x20 else b))

/-- The parser: a sequence of names and values, in their order. -/
def parse (bytes : Bytes) : List (Text × Text) :=
  ((bytes.splitOnP (· == 0x26)).filter fun piece => !piece.isEmpty).map fun piece =>
    (decodeComponent (piece.takeWhile (· != 0x3D)), decodeComponent (piece.dropWhile (· != 0x3D)).tail)

/-- `new URLSearchParams(search)`. -/
def searchParams (search : Text) : List (Text × Text) :=
  parse (PyText.encodeUtf8 (match search with | '?' :: rest => rest | _ => search))

/-- `get`: the first value under a name. -/
def get (params : List (Text × Text)) (name : Text) : Option Text := (params.find? fun p => p.1 == name).map Prod.snd

end UrlEncoded
