import PromptRail.AccountingToken

/-!
# An environment

Whole numbers and infinity are written as Python writes them, a fraction with its denominator, and letters are those of ASCII. What a
payload is signed with is given as it is.
-/

namespace PromptRail

namespace Accounting

open PyText (Text strip toLower_comp strip_map_toLower)
open Json (Fields Value scanInt scanNat intOf IsFloat)
open Base64 (Bytes)

/-! ## Floats -/

/-- A number with a point. -/
def writeFloat : PyFloat → String
  | .finite x => toString x.num ++ "." ++ toString (x.den - 1)
  | .infinity => "Infinity"

/-- The number that `writeFloat` has written, and a whole one. -/
def readFloat (literal : String) : Option PyFloat :=
  match scanInt literal.toList with
  | some (int, []) => some (.finite (intOf int))
  | some (int, _ :: digits) => some (.finite (mkRat (intOf int) (Nat.ofDigitChars 10 digits 0 + 1)))
  | none => if literal = "Infinity" then some .infinity else none

theorem scanNat_point (n : Nat) (t : Text) : scanNat (Nat.toDigits 10 n ++ '.' :: t) = some (Nat.toDigits 10 n, '.' :: t) := by
  have hdigits : ∀ c ∈ Nat.toDigits 10 n, c.isDigit = true := fun c hc => Nat.isDigit_of_mem_toDigits (by decide) (by decide) hc
  obtain ⟨htake, hdrop⟩ := Json.while_digits hdigits
  have hstops : ∀ c ∈ ('.' :: t).head?, c.isDigit = false := by simp
  obtain ⟨htake', hdrop'⟩ := Json.while_append hstops (Nat.toDigits 10 n)
  obtain ⟨d, ds, heq, -, hzero, -⟩ := Json.head_toDigits n
  rw [scanNat, htake', hdrop', htake, hdrop, heq]
  dsimp only
  split
  · rename_i hd
    rw [hzero hd, hd]
    rfl
  · rfl

theorem scanInt_point (n : Int) (t : Text) : scanInt ((toString n).toList ++ '.' :: t) = some ((toString n).toList, '.' :: t) := by
  cases n with
  | ofNat m =>
    have hstops : ∀ c ∈ ('.' :: t).head?, c ≠ '-' := by simp
    rw [Json.toList_ofNat, scanInt, Json.expect_append hstops, Json.expect_digits]
    exact scanNat_point m t
  | negSucc m =>
    rw [Json.toList_negSucc]
    simp [scanInt, Json.expect, scanNat_point]

theorem readNumber_point (n : Int) (m : Nat) :
    Json.readNumber ((toString n).toList ++ '.' :: Nat.toDigits 10 m) =
      some (.float (String.ofList ((toString n).toList ++ '.' :: Nat.toDigits 10 m)), []) := by
  have hdigits : ∀ c ∈ Nat.toDigits 10 m, c.isDigit = true := fun c hc => Nat.isDigit_of_mem_toDigits (by decide) (by decide) hc
  obtain ⟨htake, hdrop⟩ := Json.while_digits hdigits
  have hne : Nat.toDigits 10 m ≠ [] := by
    obtain ⟨d, ds, heq, -⟩ := Json.head_toDigits m
    simp [heq]
  have hfraction : Json.scanFraction ('.' :: Nat.toDigits 10 m) = ('.' :: Nat.toDigits 10 m, []) := by
    rw [Json.scanFraction, Json.expect, if_pos rfl]
    dsimp only
    rw [htake, hdrop, if_neg hne]
  rw [Json.readNumber, scanInt_point]
  simp [hfraction, Json.scanExponent]

theorem toList_writeFloat (x : ℚ) :
    (writeFloat (.finite x)).toList = (toString x.num).toList ++ '.' :: Nat.toDigits 10 (x.den - 1) := by
  simp [writeFloat, String.toList_append]

theorem readFloat_writeFloat (x : PyFloat) : readFloat (writeFloat x) = some x := by
  cases x with
  | infinity => rfl
  | finite x =>
    have hden : x.den - 1 + 1 = x.den := Nat.sub_add_cancel x.den_pos
    rw [readFloat, toList_writeFloat, scanInt_point]
    simp only [Json.intOf_toString, Nat.ofDigitChars_ten_toDigits, hden, Rat.mkRat_self]

theorem isFloat_writeFloat (x : PyFloat) : IsFloat (writeFloat x) := by
  cases x with
  | infinity =>
    have hascii : (writeFloat .infinity).toList.all (fun c => decide (c.toNat < 127)) = true := by decide
    exact ⟨fun c hc => of_decide_eq_true (List.all_eq_true.1 hascii c hc), rfl⟩
  | finite x =>
    have hdigits : ∀ c ∈ Nat.toDigits 10 (x.den - 1), c.isDigit = true :=
      fun c hc => Nat.isDigit_of_mem_toDigits (by decide) (by decide) hc
    have hliteral : writeFloat (.finite x) = String.ofList ((toString x.num).toList ++ '.' :: Nat.toDigits 10 (x.den - 1)) := by
      rw [← toList_writeFloat, String.ofList_toList]
    constructor
    · rw [toList_writeFloat]
      intro c hc
      rcases List.mem_append.1 hc with hc | hc
      · exact Json.ascii_toString hc
      · rcases List.mem_cons.1 hc with rfl | hc
        · decide
        · exact Json.ascii_of_digit (hdigits c hc)
    · rw [toList_writeFloat, hliteral, Json.readScalar, readNumber_point]

/-! ## The environment -/

/-- The environment in which every payload is signed with `signature`. -/
def environment (secret : Text) (signature : Vector UInt8 32) : Env where
  write := writeFloat
  read := readFloat
  write_isFloat := isFloat_writeFloat
  read_write := readFloat_writeFloat
  lower := List.map Char.toLower
  lower_lower t := by rw [List.map_map, toLower_comp]
  strip_lower := strip_map_toLower
  lower_eq_nil t := List.map_eq_nil_iff
  internalServiceToken := secret
  hmac _ _ := signature
  str := Json.dumps

end Accounting

end PromptRail
