import PromptRail.Library.JsonText

/-!
# What is dumped is loaded again

Every value whose objects have no two fields of one name is read from the text that `dumps` writes, with the fields of its objects
in the order of their names. A string is read character by character, a number as far as it goes, and the items of an array or of an
object one after another, each by the reading of a value with less fuel.
-/

namespace Json

open PyText

/-! ## Strings -/

theorem hexValue?_hexDigit : ∀ n < 16, hexValue? (hexDigit n) = some n := by decide

theorem hexDigit_lt : ∀ n < 16, (hexDigit n).toNat < 127 := by decide

theorem toAscii_of_lt {c : Char} (h : c.toNat < 127) : toAscii c = [c] := by
  rw [toAscii, if_pos h]

theorem readHex_digits {n : Nat} (h : n < 65536) (t : Text) :
    readHex (hexDigit (n / 4096) :: hexDigit (n / 256 % 16) :: hexDigit (n / 16 % 16) :: hexDigit (n % 16) :: t) =
      some (n, t) := by
  have h1 := hexValue?_hexDigit (n / 4096) (by omega)
  have h2 := hexValue?_hexDigit (n / 256 % 16) (by omega)
  have h3 := hexValue?_hexDigit (n / 16 % 16) (by omega)
  have h4 := hexValue?_hexDigit (n % 16) (by omega)
  simp only [readHex, h1, h2, h3, h4, bind, Option.bind, pure]
  rw [show ((n / 4096 * 16 + n / 256 % 16) * 16 + n / 16 % 16) * 16 + n % 16 = n by omega]

/-- A character is no half of a surrogate pair. -/
theorem toNat_cases (c : Char) : c.toNat < 55296 ∨ 57344 ≤ c.toNat ∧ c.toNat < 1114112 := by
  rcases c.valid with h | ⟨h, h'⟩
  · exact Or.inl h
  · exact Or.inr ⟨h, h'⟩

theorem readEscape_unicode {n : Nat} (h : n < 65536) (t : Text) :
    ∃ e, unicodeEscape n ++ t = '\\' :: e ∧
      readEscape e = if n < 55296 ∨ 57344 ≤ n then some (Char.ofNat n, t)
        else if n < 56320 then readLowSurrogate n t else none := by
  refine ⟨'u' :: hexDigit (n / 4096) :: hexDigit (n / 256 % 16) :: hexDigit (n / 16 % 16) :: hexDigit (n % 16) :: t, rfl, ?_⟩
  rw [readEscape, if_pos rfl, readUnicode, readHex_digits h]
  rfl

theorem readLowSurrogate_unicode {high low : Nat} (h : 56320 ≤ low ∧ low < 57344) (t : Text) :
    readLowSurrogate high (unicodeEscape low ++ t) = some (Char.ofNat (65536 + (high - 55296) * 1024 + (low - 56320)), t) := by
  have hread := readHex_digits (n := low) (by omega) t
  simp only [unicodeEscape, readLowSurrogate, expect, List.cons_append, List.nil_append, if_true, bind, Option.bind]
  rw [hread]
  exact if_pos h

/-- A character outside ASCII is written as an escape. -/
theorem readEscape_toAscii {c : Char} (h : 127 ≤ c.toNat) (t : Text) :
    ∃ e, toAscii c ++ t = '\\' :: e ∧ readEscape e = some (c, t) := by
  have hc := toNat_cases c
  rw [toAscii, if_neg (by omega)]
  split
  · rename_i hplane
    obtain ⟨e, he, hread⟩ := readEscape_unicode hplane t
    refine ⟨e, he, ?_⟩
    rw [hread, if_pos (by omega), Char.ofNat_toNat]
  · obtain ⟨e, he, hread⟩ := readEscape_unicode (n := 55296 + (c.toNat - 65536) / 1024) (by omega)
      (unicodeEscape (56320 + (c.toNat - 65536) % 1024) ++ t)
    refine ⟨e, by rw [List.append_assoc, he], ?_⟩
    rw [hread, if_neg (by omega), if_pos (by omega), readLowSurrogate_unicode (by omega)]
    rw [show 65536 + (55296 + (c.toNat - 65536) / 1024 - 55296) * 1024 + (56320 + (c.toNat - 65536) % 1024 - 56320) = c.toNat
      by omega, Char.ofNat_toNat]

theorem toNat_inj {c d : Char} (h : c.toNat = d.toNat) : c = d := by
  rw [← Char.ofNat_toNat c, h, Char.ofNat_toNat]

/-- One character of a string is written as itself or as an escape that is read as the character. -/
theorem escape_cases (c : Char) :
    ((escape c).flatMap toAscii = [c] ∧ c ≠ '"' ∧ c ≠ '\\' ∧ 32 ≤ c.toNat) ∨
      ∀ t, ∃ e, (escape c).flatMap toAscii ++ t = '\\' :: e ∧ readEscape e = some (c, t) := by
  unfold escape
  split
  · rename_i h
    subst h
    exact Or.inr fun t => ⟨_, rfl, rfl⟩
  split
  · rename_i h
    subst h
    exact Or.inr fun t => ⟨_, rfl, rfl⟩
  split
  · rename_i h
    subst h
    exact Or.inr fun t => ⟨_, rfl, rfl⟩
  split
  · rename_i h
    subst h
    exact Or.inr fun t => ⟨_, rfl, rfl⟩
  split
  · rename_i h
    subst h
    exact Or.inr fun t => ⟨_, rfl, rfl⟩
  split
  · rename_i h
    obtain rfl : c = Char.ofNat 8 := toNat_inj h
    exact Or.inr fun t => ⟨_, rfl, rfl⟩
  split
  · rename_i h
    obtain rfl : c = Char.ofNat 12 := toNat_inj h
    exact Or.inr fun t => ⟨_, rfl, rfl⟩
  split
  · rename_i h
    refine Or.inr fun t => ?_
    have htext : (['\\', 'u', '0', '0', hexDigit (c.toNat / 16), hexDigit (c.toNat % 16)] : Text).flatMap toAscii =
        unicodeEscape c.toNat := by
      simp only [List.flatMap_cons, List.flatMap_nil, List.append_nil, toAscii_of_lt (hexDigit_lt (c.toNat / 16) (by omega)),
        toAscii_of_lt (hexDigit_lt (c.toNat % 16) (by omega))]
      rw [unicodeEscape, show c.toNat / 4096 = 0 by omega, show c.toNat / 256 % 16 = 0 by omega,
        show c.toNat / 16 % 16 = c.toNat / 16 by omega]
      rfl
    obtain ⟨e, he, hread⟩ := readEscape_unicode (n := c.toNat) (by omega) t
    refine ⟨e, by rw [htext, he], ?_⟩
    rw [hread, if_pos (by omega), Char.ofNat_toNat]
  · rename_i hquote hbackslash _ _ _ _ _ hcontrol
    rw [List.flatMap_cons, List.flatMap_nil, List.append_nil]
    by_cases hascii : c.toNat < 127
    · exact Or.inl ⟨toAscii_of_lt hascii, hquote, hbackslash, not_lt.1 hcontrol⟩
    · exact Or.inr (readEscape_toAscii (not_lt.1 hascii))

/-- How a character stands in a string: as itself, or as an escape that is read as the character. -/
structure Style where
  char : Char → Text
  reads : ∀ c, (char c = [c] ∧ c ≠ '"' ∧ c ≠ '\\' ∧ 32 ≤ c.toNat) ∨ ∀ t, ∃ e, char c ++ t = '\\' :: e ∧ readEscape e = some (c, t)

/-- `ensure_ascii=True`. -/
def Style.ascii : Style where
  char c := (escape c).flatMap toAscii
  reads := escape_cases

section Strings

variable (style : Style) (s : Text)

theorem char_ne_nil (c : Char) : 1 ≤ (style.char c).length := by
  rcases style.reads c with ⟨h, -⟩ | h
  · simp [h]
  · obtain ⟨e, he, -⟩ := h []
    rw [List.append_nil] at he
    simp [he]

theorem length_le_chars : s.length ≤ (s.flatMap style.char).length := by
  induction s with
  | nil => simp
  | cons c s ih =>
    have := char_ne_nil style c
    rw [List.flatMap_cons, List.length_append, List.length_cons]
    omega

/-- A string is read up to its closing quote. -/
theorem readString_chars {fuel : Nat} (h : s.length < fuel) (t : Text) :
    readString fuel (s.flatMap style.char ++ '"' :: t) = some (s, t) := by
  induction s generalizing fuel with
  | nil =>
    cases fuel with
    | zero => cases h
    | succ fuel => rfl
  | cons c s ih =>
    cases fuel with
    | zero => cases h
    | succ fuel =>
      have hrest := ih (Nat.lt_of_succ_lt_succ h)
      rw [List.flatMap_cons, List.append_assoc]
      rcases style.reads c with ⟨htext, hquote, hbackslash, hcontrol⟩ | hescape
      · rw [htext]
        simp only [List.cons_append, List.nil_append, readString, if_neg hquote, if_neg hbackslash, if_neg (not_lt.2 hcontrol)]
        rw [hrest]
        rfl
      · obtain ⟨e, he, hread⟩ := hescape (s.flatMap style.char ++ '"' :: t)
        rw [he]
        simp only [readString, if_true, hread, bind, Option.bind]
        rw [if_neg (by decide), hrest]
        rfl

/-- A string is read with the fuel that its text gives. -/
theorem readString_text (t : Text) :
    readString ((s.flatMap style.char ++ '"' :: t).length + 1) (s.flatMap style.char ++ '"' :: t) = some (s, t) := by
  refine readString_chars style s ?_ t
  have := length_le_chars style s
  rw [List.length_append]
  omega

end Strings

theorem flatMap_ascii (s : Text) : s.flatMap Style.ascii.char = (s.flatMap escape).flatMap toAscii := List.flatMap_assoc.symm

/-! ## Numbers -/

/-- A character that can go on a number. -/
def inNumber (c : Char) : Bool := c.isDigit || c == '.' || c == 'e' || c == 'E' || c == '+' || c == '-'

/-- A number ends before a text. -/
def Stops (t : Text) : Prop := ∀ c ∈ t.head?, inNumber c = false

section Numbers

variable {rest : Text}

theorem expect_append {c : Char} (h : ∀ d ∈ rest.head?, d ≠ c) (s : Text) :
    expect c (s ++ rest) = (expect c s).map fun t => t ++ rest := by
  cases s with
  | nil =>
    cases rest with
    | nil => rfl
    | cons d rest => simp [expect, h d rfl]
  | cons d s =>
    by_cases hd : d = c <;> simp [expect, hd]

theorem while_append {p : Char → Bool} (h : ∀ c ∈ rest.head?, p c = false) (s : Text) :
    (s ++ rest).takeWhile p = s.takeWhile p ∧ (s ++ rest).dropWhile p = s.dropWhile p ++ rest := by
  induction s with
  | nil =>
    cases rest with
    | nil => exact ⟨rfl, rfl⟩
    | cons c rest => simp [h c rfl]
  | cons c s ih =>
    by_cases hc : p c = true
    · simp [hc, ih]
    · simp [hc]

theorem Stops.ne (h : Stops rest) {c : Char} (hc : inNumber c = true) : ∀ d ∈ rest.head?, d ≠ c := by
  rintro d hd rfl
  exact absurd (h d hd) (by simp [hc])

theorem Stops.digits (h : Stops rest) : ∀ c ∈ rest.head?, c.isDigit = false := by
  intro c hc
  by_contra hdigit
  exact absurd (h c hc) (by simp [inNumber, hdigit])

theorem scanNat_append (h : Stops rest) {s : Text} {r : Text × Text} (hs : scanNat s = some r) :
    scanNat (s ++ rest) = some (r.1, r.2 ++ rest) := by
  obtain ⟨htake, hdrop⟩ := while_append h.digits s
  unfold scanNat at hs ⊢
  rw [htake, hdrop]
  split at hs
  · cases hs
  · rename_i d ds hdigits
    cases s with
    | nil => cases hdigits
    | cons c s =>
      split at hs
      · rename_i hzero
        rw [if_pos hzero]
        cases hs
        rfl
      · rename_i hzero
        rw [if_neg hzero]
        cases hs
        rfl

theorem scanInt_append (h : Stops rest) {s : Text} {r : Text × Text} (hs : scanInt s = some r) :
    scanInt (s ++ rest) = some (r.1, r.2 ++ rest) := by
  unfold scanInt at hs ⊢
  rw [expect_append (h.ne (c := '-') rfl)]
  cases hminus : expect '-' s with
  | none =>
    rw [hminus] at hs
    exact scanNat_append h hs
  | some t =>
    rw [hminus] at hs
    obtain ⟨r', hr', rfl⟩ := Option.map_eq_some_iff.1 hs
    simp only [Option.map_some, scanNat_append h hr']

theorem scanFraction_append (h : Stops rest) (s : Text) :
    scanFraction (s ++ rest) = ((scanFraction s).1, (scanFraction s).2 ++ rest) := by
  unfold scanFraction
  rw [expect_append (h.ne (c := '.') rfl)]
  cases expect '.' s with
  | none => rfl
  | some t =>
    obtain ⟨htake, hdrop⟩ := while_append h.digits t
    simp only [Option.map_some, htake, hdrop]
    split <;> rfl

theorem scanSign_append (h : Stops rest) (s : Text) : scanSign (s ++ rest) = ((scanSign s).1, (scanSign s).2 ++ rest) := by
  cases s with
  | nil =>
    cases rest with
    | nil => rfl
    | cons c rest =>
      have hplus := h.ne (c := '+') rfl c rfl
      have hminus := h.ne (c := '-') rfl c rfl
      simp [scanSign, hplus, hminus]
  | cons c s =>
    simp only [List.cons_append, scanSign]
    split <;> rfl

theorem scanExponent_append (h : Stops rest) (s : Text) :
    scanExponent (s ++ rest) = ((scanExponent s).1, (scanExponent s).2 ++ rest) := by
  cases s with
  | nil =>
    cases rest with
    | nil => rfl
    | cons c rest =>
      have hlower := h.ne (c := 'e') rfl c rfl
      have hupper := h.ne (c := 'E') rfl c rfl
      simp [scanExponent, hlower, hupper]
  | cons c s =>
    obtain ⟨htake, hdrop⟩ := while_append h.digits (scanSign s).2
    simp only [List.cons_append, scanExponent, scanSign_append h, htake, hdrop]
    split
    · split <;> rfl
    · rfl

/-- A number is read as far as it goes. -/
theorem readNumber_append (h : Stops rest) {s : Text} {r : Value × Text} (hs : readNumber s = some r) :
    readNumber (s ++ rest) = some (r.1, r.2 ++ rest) := by
  unfold readNumber at hs ⊢
  obtain ⟨⟨int, t⟩, hint, hs⟩ := Option.bind_eq_some_iff.1 hs
  rw [scanInt_append h hint]
  simp only [bind, Option.bind, scanFraction_append h, scanExponent_append h] at hs ⊢
  split at hs
  · rename_i hempty
    cases hs
    rw [if_pos hempty]
    rfl
  · rename_i hempty
    cases hs
    rw [if_neg hempty]
    rfl

/-- A number or a constant is read as far as it goes. -/
theorem readScalar_append (h : Stops rest) {s r : Text} {v : Value} (hs : readScalar s = some (v, r)) :
    readScalar (s ++ rest) = some (v, r ++ rest) := by
  unfold readScalar at hs
  split at hs
  · rename_i hnumber
    cases hs
    rw [readScalar, readNumber_append h hnumber]
  · rw [List.findSome?_eq_some_iff] at hs
    obtain ⟨_, c, _, hconstants, hc, -⟩ := hs
    have hmem : c ∈ constants := by
      rw [hconstants]
      exact List.mem_append_right _ List.mem_cons_self
    obtain ⟨t, ht, hr⟩ := Option.map_eq_some_iff.1 hc
    cases hr
    obtain ⟨p, rfl, hpre⟩ := List.dropPrefix?_eq_some_iff.1 ht
    rw [eq_of_beq hpre, List.append_assoc]
    simp only [constants, List.mem_cons, List.not_mem_nil, or_false] at hmem
    rcases hmem with rfl | rfl | rfl | rfl | rfl | rfl <;>
      simp [readScalar, readNumber, scanInt, scanNat, expect, constants, List.dropPrefix?, Char.isDigit]

end Numbers
theorem digitChar_spec : ∀ n < 10, n.digitChar.isDigit = true ∧ (0 < n → n.digitChar ≠ '0') := by decide

/-- No number but zero is written with a zero in front. -/
theorem head_toDigits (n : Nat) : ∃ d ds, Nat.toDigits 10 n = d :: ds ∧ d.isDigit = true ∧ (d = '0' → ds = []) ∧
    (0 < n → d ≠ '0') := by
  induction n using Nat.strong_induction_on with
  | _ n ih =>
    by_cases hn : n < 10
    · rw [Nat.toDigits_of_lt_base hn]
      exact ⟨n.digitChar, [], rfl, (digitChar_spec n hn).1, fun _ => rfl, (digitChar_spec n hn).2⟩
    · obtain ⟨d, ds, heq, hdigit, -, hne⟩ := ih (n / 10) (by omega)
      rw [Nat.toDigits_of_base_le (by decide) (not_lt.1 hn), heq]
      have hd := hne (by omega)
      exact ⟨d, _, rfl, hdigit, fun h => (hd h).elim, fun _ => hd⟩

theorem while_digits {t : Text} (h : ∀ c ∈ t, c.isDigit = true) :
    t.takeWhile Char.isDigit = t ∧ t.dropWhile Char.isDigit = [] :=
  ⟨List.takeWhile_eq_self_iff.2 h, List.dropWhile_eq_nil_iff.2 h⟩

theorem scanNat_toDigits (n : Nat) : scanNat (Nat.toDigits 10 n) = some (Nat.toDigits 10 n, []) := by
  have hdigits : ∀ c ∈ Nat.toDigits 10 n, c.isDigit = true := fun c hc => Nat.isDigit_of_mem_toDigits (by decide) (by decide) hc
  obtain ⟨htake, hdrop⟩ := while_digits hdigits
  obtain ⟨d, ds, heq, -, hzero, -⟩ := head_toDigits n
  rw [scanNat, htake, hdrop, heq]
  dsimp only
  split
  · rename_i hd
    rw [hzero hd, hd]
    rfl
  · rfl

theorem expect_digits (n : Nat) : expect '-' (Nat.toDigits 10 n) = none := by
  obtain ⟨d, ds, heq, hdigit, -, -⟩ := head_toDigits n
  rw [heq, expect, if_neg]
  rintro rfl
  cases hdigit

theorem readNumber_of_scanInt {t int : Text} (h : scanInt t = some (int, [])) : readNumber t = some (.int (intOf int), []) := by
  rw [readNumber, h]
  rfl

theorem toList_ofNat (m : Nat) : (toString (Int.ofNat m)).toList = Nat.toDigits 10 m := Nat.toList_repr

theorem toList_negSucc (m : Nat) : (toString (Int.negSucc m)).toList = '-' :: Nat.toDigits 10 (m + 1) := by
  rw [← Nat.toList_repr]
  exact String.toList_append

theorem scanInt_toString (n : Int) : scanInt (toString n).toList = some ((toString n).toList, []) := by
  cases n with
  | ofNat m =>
    rw [toList_ofNat, scanInt, expect_digits]
    exact scanNat_toDigits m
  | negSucc m =>
    rw [toList_negSucc]
    simp [scanInt, expect, scanNat_toDigits]

theorem intOf_toString (n : Int) : intOf (toString n).toList = n := by
  cases n with
  | ofNat m =>
    rw [toList_ofNat, intOf, expect_digits]
    simp
  | negSucc m =>
    rw [toList_negSucc]
    simp [intOf, expect, Int.negSucc_eq]

theorem readNumber_int (n : Int) : readNumber (toString n).toList = some (.int n, []) := by
  rw [readNumber_of_scanInt (scanInt_toString n), intOf_toString]

/-! ## Values -/

/-- A literal in ASCII that is read as the float it spells. -/
def IsFloat (literal : String) : Prop :=
  (∀ c ∈ literal.toList, c.toNat < 127) ∧ readScalar literal.toList = some (.float literal, [])

/-- A value that `json.dumps` writes: its floats are literals, and no object has two fields of one name. -/
inductive WellFormed : Value → Prop where
  | null : WellFormed .null
  | bool (b : Bool) : WellFormed (.bool b)
  | int (n : Int) : WellFormed (.int n)
  | float {literal : String} : IsFloat literal → WellFormed (.float literal)
  | str (s : Text) : WellFormed (.str s)
  | arr {xs : List Value} : (∀ x ∈ xs, WellFormed x) → WellFormed (.arr xs)
  | obj {fs : Fields} : (fs.map (·.1)).Nodup → (∀ p ∈ fs, WellFormed p.2) → WellFormed (.obj fs)

/-- Fields in the order of their names. -/
def sorted (fs : Fields) : Fields := fs.insertionSort fun a b => a.1 ≤ b.1

mutual

/-- A value with the fields of every object in the order of their names. -/
def canonical : Value → Value
  | .arr xs => .arr (canonicalList xs)
  | .obj fs => .obj (sorted (canonicalFields fs))
  | v => v

def canonicalList : List Value → List Value
  | [] => []
  | x :: xs => canonical x :: canonicalList xs

def canonicalFields : Fields → Fields
  | [] => []
  | (k, v) :: fs => (k, canonical v) :: canonicalFields fs

end

theorem canonicalList_eq (xs : List Value) : canonicalList xs = xs.map canonical := by
  induction xs with
  | nil => rfl
  | cons x xs ih => rw [canonicalList, ih, List.map_cons]

theorem canonicalFields_eq (fs : Fields) : canonicalFields fs = fs.map fun p => (p.1, canonical p.2) := by
  induction fs with
  | nil => rfl
  | cons p fs ih => rw [canonicalFields, ih, List.map_cons]

theorem dumpList_eq (xs : List Value) : dumpList xs = xs.map dump := by
  induction xs with
  | nil => rfl
  | cons x xs ih => rw [dumpList, ih, List.map_cons]

/-- The text of one field. -/
def fieldText (p : String × Value) : Text := (dumpField (p.1, dump p.2)).flatMap toAscii

theorem flatMap_intercalate (ts : List Text) :
    ([','].intercalate ts).flatMap toAscii = [','].intercalate (ts.map fun t => t.flatMap toAscii) := by
  induction ts with
  | nil => rfl
  | cons t ts ih =>
    cases ts with
    | nil => simp
    | cons u us =>
      rw [List.intercalate_cons_cons, List.flatMap_append, List.flatMap_append, ih]
      simp only [List.map_cons, List.intercalate_cons_cons]
      rfl

/-- Sorting by name does not look at the values. -/
theorem insertionSort_map {α β : Type} (f : α → β) (fs : List (String × α)) :
    (fs.map fun p => (p.1, f p.2)).insertionSort (fun a b => a.1 ≤ b.1) =
      (fs.insertionSort fun a b => a.1 ≤ b.1).map fun p => (p.1, f p.2) :=
  (List.map_insertionSort (fun a b : String × α => a.1 ≤ b.1) (fun a b : String × β => a.1 ≤ b.1)
    (fun p : String × α => (p.1, f p.2)) fs fun _ _ _ _ => Iff.rfl).symm

theorem dumps_arr (xs : List Value) : dumps (.arr xs) = '[' :: ([','].intercalate (xs.map dumps) ++ [']']) := by
  rw [dumps, dump, dumpList_eq, List.flatMap_cons, List.flatMap_append, flatMap_intercalate, List.map_map]
  rfl

theorem dumps_obj (fs : Fields) :
    dumps (.obj fs) = '{' :: ([','].intercalate ((sorted fs).map fieldText) ++ ['}']) := by
  rw [dumps, dump, dumpFields_eq, sortFields, insertionSort_map, List.flatMap_cons, List.flatMap_append, flatMap_intercalate,
    List.map_map, List.map_map]
  rfl

theorem fieldText_eq (p : String × Value) :
    fieldText p = '"' :: ((p.1.toList.flatMap escape).flatMap toAscii ++ '"' :: ':' :: dumps p.2) := by
  simp [fieldText, dumpField, quote, dumps, toAscii]

/-! ## One item after another -/

theorem length_le_intercalate (separator : Text) {ts : List Text} {t : Text} (h : t ∈ ts) :
    t.length ≤ (separator.intercalate ts).length := by
  induction ts with
  | nil => cases h
  | cons u ts ih =>
    cases ts with
    | nil =>
      obtain rfl := List.mem_singleton.1 h
      simp
    | cons v ts =>
      rw [List.intercalate_cons_cons, List.length_append, List.length_append]
      rcases List.mem_cons.1 h with rfl | h
      · omega
      · have := ih h
        omega

/-- An object is longer than any value in it. -/
theorem length_dumps_le {fs : Fields} {p : String × Value} (h : p ∈ fs) : (dumps p.2).length ≤ (dumps (.obj fs)).length := by
  have hmem : fieldText p ∈ (sorted fs).map fieldText := List.mem_map_of_mem ((List.mem_insertionSort _).2 h)
  calc (dumps p.2).length ≤ (fieldText p).length := by
        rw [fieldText_eq]
        simp only [List.length_cons, List.length_append]
        omega
    _ ≤ ([','].intercalate ((sorted fs).map fieldText)).length := length_le_intercalate _ hmem
    _ ≤ (dumps (.obj fs)).length := by
        rw [dumps_obj, List.length_cons, List.length_append]
        omega

theorem count_le_intercalate (gap : Text) (ts : List Text) : ts.length ≤ ((',' :: gap).intercalate ts).length + 1 := by
  induction ts with
  | nil => simp
  | cons u ts ih =>
    cases ts with
    | nil => simp
    | cons v ts =>
      rw [List.intercalate_cons_cons, List.length_append, List.length_append]
      simp only [List.length_cons] at ih ⊢
      omega

theorem skipWhite_cons {c : Char} (h : isWhite c = false) (t : Text) : skipWhite (c :: t) = c :: t := by
  simp [skipWhite, h]

/-- A text opens with a character that is neither white nor closes what it stands in. -/
def Opens (t : Text) : Prop := ∃ c rest, t = c :: rest ∧ isWhite c = false ∧ c ≠ ']' ∧ c ≠ '}'

theorem skipWhite_append {gap : Text} (h : ∀ c ∈ gap, isWhite c = true) (t : Text) : skipWhite (gap ++ t) = skipWhite t :=
  List.dropWhile_append_of_pos h

/-- Items that are read one by one are read one after another. -/
theorem readItems_intercalate {α β : Type} {close : Char} (hclose : close = ']' ∨ close = '}') {gap : Text}
    (hgap : ∀ c ∈ gap, isWhite c = true) (read : Text → Option (β × Text)) (value : α → β) {text : α → Text} {items : List α}
    (hne : items ≠ [])
    (hopens : ∀ x ∈ items, Opens (text x))
    (hread : ∀ x ∈ items, ∀ rest, Stops rest → read (text x ++ rest) = some (value x, rest)) {fuel : Nat}
    (hfuel : items.length ≤ fuel) (rest : Text) :
    readItems close read fuel ((',' :: gap).intercalate (items.map text) ++ close :: rest) = some (items.map value, rest) := by
  have hcomma : ∀ t : Text, Stops (',' :: t) := by
    rintro t c ⟨⟩
    rfl
  have hstops : Stops (close :: rest) := by
    rcases hclose with rfl | rfl <;> rintro c ⟨⟩ <;> rfl
  have hend : skipWhite (close :: rest) = close :: rest ∧ expect ',' (close :: rest) = none := by
    rcases hclose with rfl | rfl <;> exact ⟨rfl, rfl⟩
  induction items generalizing fuel with
  | nil => exact (hne rfl).elim
  | cons x items ih =>
    cases fuel with
    | zero => cases hfuel
    | succ fuel =>
      have hhead := hread x List.mem_cons_self
      cases items with
      | nil =>
        have hx := hhead _ hstops
        simp only [List.map_cons, List.map_nil, List.intercalate_singleton, readItems, hx, bind, Option.bind, hend.1, hend.2]
        simp [expect]
      | cons y items =>
        obtain ⟨c, t, hy, hc, -⟩ := hopens y (List.mem_cons_of_mem _ List.mem_cons_self)
        have hrest := ih (by simp) (fun z hz => hopens z (List.mem_cons_of_mem _ hz))
          (fun z hz => hread z (List.mem_cons_of_mem _ hz)) (Nat.le_of_succ_le_succ hfuel)
        have hwhite : skipWhite (gap ++ ((',' :: gap).intercalate ((y :: items).map text) ++ close :: rest)) =
            (',' :: gap).intercalate ((y :: items).map text) ++ close :: rest := by
          rw [skipWhite_append hgap]
          cases items <;> simp [hy, skipWhite_cons hc]
        have hx := hhead _ (hcomma (gap ++ ((',' :: gap).intercalate ((y :: items).map text) ++ close :: rest)))
        rw [List.map_cons, List.map_cons, List.intercalate_cons_cons, ← List.map_cons, List.append_assoc, List.append_assoc,
          List.cons_append]
        simp only [readItems, hx, bind, Option.bind, skipWhite_cons (c := ',') rfl, expect, if_true, hwhite, hrest]
        rfl

/-! ## One value -/

/-- The first character of a number or a constant. -/
def startsScalar (c : Char) : Bool :=
  c.isDigit || c == '-' || c == 'n' || c == 't' || c == 'f' || c == 'N' || c == 'I'

theorem readScalar_nil : readScalar [] = none := by
  simp [readScalar, readNumber, scanInt, scanNat, expect, constants, List.dropPrefix?]

theorem starts_of_readScalar {c : Char} {t : Text} {r : Value × Text} (h : readScalar (c :: t) = some r) :
    startsScalar c = true := by
  by_contra hstart
  simp only [startsScalar, Bool.or_eq_true, beq_iff_eq, not_or] at hstart
  obtain ⟨⟨⟨⟨⟨⟨hdigit, hminus⟩, hn⟩, ht⟩, hf⟩, hN⟩, hI⟩ := hstart
  have hnumber : readNumber (c :: t) = none := by
    simp [readNumber, scanInt, scanNat, expect, hminus, hdigit]
  rw [readScalar, hnumber] at h
  simp [constants, List.dropPrefix?, hminus, hn, ht, hf, hN, hI] at h

theorem opens_of_starts {c : Char} (h : startsScalar c = true) :
    isWhite c = false ∧ c ≠ ']' ∧ c ≠ '}' ∧ c ≠ '"' ∧ c ≠ '[' ∧ c ≠ '{' := by
  refine ⟨?_, ?_, ?_, ?_, ?_, ?_⟩
  · by_contra hwhite
    simp only [isWhite, Bool.not_eq_false, Bool.or_eq_true, beq_iff_eq] at hwhite
    rcases hwhite with ((rfl | rfl) | rfl) | rfl <;> cases h
  all_goals
    rintro rfl
    cases h

theorem flatMap_toAscii_of_ascii {t : Text} (h : ∀ c ∈ t, c.toNat < 127) : t.flatMap toAscii = t := by
  induction t with
  | nil => rfl
  | cons c t ih =>
    rw [List.flatMap_cons, toAscii_of_lt (h c List.mem_cons_self), ih fun d hd => h d (List.mem_cons_of_mem _ hd)]
    rfl

theorem readScalar_constant {c : Text × Value} (h : c ∈ constants) : readScalar c.1 = some (c.2, []) := by
  simp only [constants, List.mem_cons, List.not_mem_nil, or_false] at h
  rcases h with rfl | rfl | rfl | rfl | rfl | rfl <;>
    simp [readScalar, readNumber, scanInt, scanNat, expect, constants, List.dropPrefix?, Char.isDigit]

theorem readScalar_null : readScalar (dumps .null) = some (.null, []) := by
  rw [show dumps .null = ['n', 'u', 'l', 'l'] by decide]
  exact readScalar_constant (c := (_, .null)) (by simp [constants])

theorem readScalar_bool (b : Bool) : readScalar (dumps (.bool b)) = some (.bool b, []) := by
  cases b with
  | false =>
    rw [show dumps (.bool false) = ['f', 'a', 'l', 's', 'e'] by decide]
    exact readScalar_constant (c := (_, .bool false)) (by simp [constants])
  | true =>
    rw [show dumps (.bool true) = ['t', 'r', 'u', 'e'] by decide]
    exact readScalar_constant (c := (_, .bool true)) (by simp [constants])

theorem ascii_of_digit {c : Char} (h : c.isDigit = true) : c.toNat < 127 := by
  simp only [Char.isDigit, Bool.and_eq_true, decide_eq_true_eq] at h
  have hle : c.val.toNat ≤ 57 := h.2
  exact Nat.lt_of_le_of_lt hle (by decide)

theorem ascii_toString {n : Int} {c : Char} (hc : c ∈ (toString n).toList) : c.toNat < 127 := by
  have hdigits : ∀ {m c}, c ∈ Nat.toDigits 10 m → c.toNat < 127 := fun hc =>
    ascii_of_digit (Nat.isDigit_of_mem_toDigits (by decide) (by decide) hc)
  cases n with
  | ofNat m =>
    rw [toList_ofNat] at hc
    exact hdigits hc
  | negSucc m =>
    rw [toList_negSucc] at hc
    rcases List.mem_cons.1 hc with rfl | hc
    · decide
    · exact hdigits hc

theorem dumps_int (n : Int) : dumps (.int n) = (toString n).toList :=
  flatMap_toAscii_of_ascii fun _ hc => ascii_toString hc

theorem readScalar_int (n : Int) : readScalar (dumps (.int n)) = some (.int n, []) := by
  rw [dumps_int, readScalar, readNumber_int]

theorem readScalar_float {literal : String} (h : IsFloat literal) :
    readScalar (dumps (.float literal)) = some (.float literal, []) := by
  rw [show dumps (.float literal) = literal.toList from flatMap_toAscii_of_ascii h.1, h.2]

theorem dumps_str (s : Text) : dumps (.str s) = '"' :: ((s.flatMap escape).flatMap toAscii ++ ['"']) := by
  simp [dumps, dump, quote, toAscii]

theorem opens_of_readScalar {t : Text} {v : Value} (h : readScalar t = some (v, [])) : Opens t := by
  cases t with
  | nil => cases readScalar_nil.symm.trans h
  | cons c t =>
    obtain ⟨hwhite, hbracket, hbrace, -⟩ := opens_of_starts (starts_of_readScalar h)
    exact ⟨c, t, rfl, hwhite, hbracket, hbrace⟩

theorem dumps_opens {v : Value} (h : WellFormed v) : Opens (dumps v) := by
  cases h with
  | null => exact opens_of_readScalar readScalar_null
  | bool b => exact opens_of_readScalar (readScalar_bool b)
  | int n => exact opens_of_readScalar (readScalar_int n)
  | float hfloat => exact opens_of_readScalar (readScalar_float hfloat)
  | str s => exact ⟨_, _, dumps_str s, by decide⟩
  | arr _ => exact ⟨_, _, dumps_arr _, by decide⟩
  | obj _ _ => exact ⟨_, _, dumps_obj _, by decide⟩

/-- Fields of different names are the fields of the dictionary they make. -/
theorem ofPairs_eq {fs : Fields} (h : (fs.map (·.1)).Nodup) : ofPairs fs = fs := by
  have hset : ∀ {done : Fields} {p : String × Value}, p.1 ∉ done.map (·.1) → set done p.1 p.2 = done ++ [p] := by
    intro done p hp
    induction done with
    | nil => rfl
    | cons q done ih =>
      simp only [List.map_cons, List.mem_cons, not_or] at hp
      rw [set, if_neg (Ne.symm hp.1), ih hp.2]
      rfl
  have hfold : ∀ (fs done : Fields), ((done ++ fs).map (·.1)).Nodup →
      fs.foldl (fun d p => set d p.1 p.2) done = done ++ fs := by
    intro fs
    induction fs with
    | nil => simp
    | cons p fs ih =>
      intro done hnodup
      have hp : p.1 ∉ done.map (·.1) := by
        rw [List.map_append, List.nodup_append] at hnodup
        exact fun hmem => hnodup.2.2 _ hmem _ List.mem_cons_self rfl
      rw [List.foldl_cons, hset hp, ih]
      · simp
      · simpa using hnodup
  exact hfold fs [] h

/-- A scalar is read back. -/
theorem readValue_scalar {t : Text} {v : Value} (h : readScalar t = some (v, [])) {fuel : Nat} {rest : Text}
    (hfuel : t.length ≤ fuel) (hrest : Stops rest) : readValue fuel (t ++ rest) = some (v, rest) := by
  cases t with
  | nil => cases readScalar_nil.symm.trans h
  | cons c t =>
    obtain ⟨-, -, -, hquote, hbracket, hbrace⟩ := opens_of_starts (starts_of_readScalar h)
    cases fuel with
    | zero => cases hfuel
    | succ fuel =>
      rw [List.cons_append, readValue, if_neg hquote, if_neg hbracket, if_neg hbrace, ← List.cons_append]
      exact readScalar_append hrest h

theorem length_le_dumps_str (s : Text) : s.length ≤ (dumps (.str s)).length := by
  have := length_le_chars Style.ascii s
  rw [dumps_str, ← flatMap_ascii, List.length_cons, List.length_append]
  omega

theorem intercalate_opens {separator : Text} {ts : List Text} (hne : ts ≠ []) (h : ∀ t ∈ ts, Opens t) :
    Opens (separator.intercalate ts) := by
  cases ts with
  | nil => exact (hne rfl).elim
  | cons t ts =>
    obtain ⟨c, rest, rfl, hc⟩ := h t List.mem_cons_self
    cases ts with
    | nil => exact ⟨c, rest, by simp, hc⟩
    | cons u us => exact ⟨c, _, by rw [List.intercalate_cons_cons]; rfl, hc⟩

theorem skipWhite_opens {t : Text} (h : Opens t) (rest : Text) : skipWhite (t ++ rest) = t ++ rest := by
  obtain ⟨c, t, rfl, hwhite, -⟩ := h
  exact skipWhite_cons hwhite _

theorem expect_opens {t : Text} (h : Opens t) (rest : Text) :
    expect ']' (t ++ rest) = none ∧ expect '}' (t ++ rest) = none := by
  obtain ⟨c, t, rfl, -, hbracket, hbrace⟩ := h
  exact ⟨if_neg hbracket, if_neg hbrace⟩

/-- One field is read back. -/
theorem readField_text {p : String × Value} {read : Text → Option (Value × Text)} {rest : Text} {w : Value}
    (hopens : Opens (dumps p.2)) (hread : read (dumps p.2 ++ rest) = some (w, rest)) :
    readField read (fieldText p ++ rest) = some ((p.1, w), rest) := by
  have hskip := skipWhite_opens hopens rest
  have hname := readString_text Style.ascii p.1.toList (':' :: (dumps p.2 ++ rest))
  rw [flatMap_ascii] at hname
  have htext : fieldText p ++ rest =
      '"' :: ((p.1.toList.flatMap escape).flatMap toAscii ++ '"' :: ':' :: (dumps p.2 ++ rest)) := by
    rw [fieldText_eq]
    simp
  rw [htext, readField, expect, if_pos rfl]
  simp only [bind, Option.bind, hname, skipWhite_cons (c := ':') rfl, expect, if_true, hskip, hread]
  simp

/-- A value that was written is read again, with the fields of every object in the order of their names. -/
theorem readValue_dumps {v : Value} (h : WellFormed v) {fuel : Nat} {rest : Text} (hfuel : (dumps v).length ≤ fuel)
    (hrest : Stops rest) : readValue fuel (dumps v ++ rest) = some (canonical v, rest) := by
  induction h generalizing fuel rest with
  | null => exact readValue_scalar readScalar_null hfuel hrest
  | bool b => exact readValue_scalar (readScalar_bool b) hfuel hrest
  | int n => exact readValue_scalar (readScalar_int n) hfuel hrest
  | float hfloat => exact readValue_scalar (readScalar_float hfloat) hfuel hrest
  | str s =>
    rw [dumps_str] at hfuel ⊢
    cases fuel with
    | zero => cases hfuel
    | succ fuel =>
      rw [List.cons_append, List.append_assoc, List.singleton_append, readValue, if_pos rfl, ← flatMap_ascii, readString_text]
      rfl
  | @arr xs hxs ih =>
    rw [dumps_arr] at hfuel ⊢
    cases fuel with
    | zero => cases hfuel
    | succ fuel =>
      rw [List.length_cons, List.length_append, List.length_singleton] at hfuel
      rw [List.cons_append, List.append_assoc, List.singleton_append, readValue, if_neg (by decide), if_pos rfl]
      by_cases hne : xs = []
      · subst hne
        rfl
      have hopens : ∀ x ∈ xs, Opens (dumps x) := fun x hx => dumps_opens (hxs x hx)
      have hall : Opens ([','].intercalate (xs.map dumps)) :=
        intercalate_opens (by simpa using hne) (List.forall_mem_map.2 hopens)
      have hcount := count_le_intercalate [] (xs.map dumps)
      rw [List.length_map] at hcount
      have hread : ∀ x ∈ xs, ∀ rest, Stops rest → readValue fuel (dumps x ++ rest) = some (canonical x, rest) := by
        intro x hx rest' hrest'
        have hlength := length_le_intercalate [','] (List.mem_map_of_mem (f := dumps) hx)
        exact ih x hx (by omega) hrest'
      have hcount' : xs.length ≤ fuel + 1 := by omega
      rw [skipWhite_opens hall, (expect_opens hall _).1,
        readItems_intercalate (Or.inl rfl) (fun _ h => absurd h List.not_mem_nil) (readValue fuel) canonical hne hopens hread hcount' rest]
      simp [canonical, canonicalList_eq]
  | @obj fs hnodup hfs ih =>
    rw [dumps_obj] at hfuel ⊢
    cases fuel with
    | zero => cases hfuel
    | succ fuel =>
      rw [List.length_cons, List.length_append, List.length_singleton] at hfuel
      rw [List.cons_append, List.append_assoc, List.singleton_append, readValue, if_neg (by decide), if_neg (by decide),
        if_pos rfl]
      have hperm : (sorted fs).Perm fs := List.perm_insertionSort _ fs
      by_cases hne : sorted fs = []
      · obtain rfl := List.nil_perm.1 (hne ▸ hperm)
        rfl
      have hopens : ∀ p ∈ sorted fs, Opens (fieldText p) := fun p _ => ⟨_, _, fieldText_eq p, by decide⟩
      have hall : Opens ([','].intercalate ((sorted fs).map fieldText)) :=
        intercalate_opens (by simpa using hne) (List.forall_mem_map.2 hopens)
      have hcount := count_le_intercalate [] ((sorted fs).map fieldText)
      rw [List.length_map] at hcount
      have hread : ∀ p ∈ sorted fs, ∀ rest, Stops rest →
          readField (readValue fuel) (fieldText p ++ rest) = some ((p.1, canonical p.2), rest) := by
        intro p hp rest' hrest'
        have hmem := hperm.mem_iff.1 hp
        have hlength := length_le_intercalate [','] (List.mem_map_of_mem (f := fieldText) hp)
        rw [fieldText_eq] at hlength
        simp only [List.length_cons, List.length_append] at hlength
        exact readField_text (dumps_opens (hfs p hmem)) (ih p hmem (by omega) hrest')
      have hcount' : (sorted fs).length ≤ fuel + 1 := by omega
      have hnames : (((sorted fs).map fun p => (p.1, canonical p.2)).map (·.1)).Nodup := by
        rw [List.map_map]
        exact (hperm.map (·.1)).nodup_iff.2 hnodup
      rw [skipWhite_opens hall, (expect_opens hall _).2,
        readItems_intercalate (Or.inr rfl) (fun _ h => absurd h List.not_mem_nil) (readField (readValue fuel))
          (fun p => (p.1, canonical p.2)) hne hopens hread hcount' rest]
      simp only [bind, Option.bind, pure]
      rw [ofPairs_eq hnames, canonical, canonicalFields_eq, sorted, sorted, insertionSort_map]

/-- What was dumped is loaded again, with the fields of every object in the order of their names. -/
theorem loads_dumps {v : Value} (h : WellFormed v) : loads (dumps v) = some (canonical v) := by
  have hread : readValue _ (dumps v ++ []) = _ := readValue_dumps h (Nat.le_succ _) (by rintro c ⟨⟩)
  have hskip := skipWhite_opens (dumps_opens h) []
  rw [List.append_nil] at hread hskip
  rw [loads, hskip, hread]
  rfl

/-! ## Values of one text -/

/-- Sorting the fields of every object beforehand changes nothing in the text. -/
theorem dump_canonical {v : Value} (h : WellFormed v) : dump (canonical v) = dump v := by
  induction h with
  | @arr xs _ ih =>
    have hlist : dumpList (xs.map canonical) = dumpList xs := by
      rw [dumpList_eq, dumpList_eq, List.map_map]
      exact List.map_congr_left ih
    rw [canonical, canonicalList_eq, dump, dump, hlist]
  | @obj fs _ _ ih =>
    have hsorted : sortFields (dumpFields (sorted (canonicalFields fs))) = sortFields (dumpFields fs) := by
      have hmap : (sorted fs).map (fun p => (p.1, dump (canonical p.2))) = (sorted fs).map fun p => (p.1, dump p.2) := by
        refine List.map_congr_left fun p hp => ?_
        rw [ih p ((List.mem_insertionSort _).1 hp)]
      have hpairwise : (sorted (canonicalFields fs)).Pairwise fun a b => a.1 ≤ b.1 := List.pairwise_insertionSort _ _
      rw [dumpFields_eq, dumpFields_eq, sortFields, sortFields, insertionSort_map, insertionSort_map,
        hpairwise.insertionSort_eq, canonicalFields_eq, sorted, insertionSort_map, List.map_map]
      exact hmap
    rw [canonical, dump, dump, hsorted]
  | _ => rfl

/-- Values of one text have one canonical form. -/
theorem canonical_eq_of_dump_eq {v w : Value} (hv : WellFormed v) (hw : WellFormed w) (h : dump v = dump w) :
    canonical v = canonical w := by
  have hloaded := loads_dumps hv
  rw [dumps, h, ← dumps, loads_dumps hw] at hloaded
  exact (Option.some.inj hloaded).symm

/-- Arrays of one text have elements of the same texts. -/
theorem map_dump_of_dump_arr {xs ys : List Value} (hx : ∀ x ∈ xs, WellFormed x) (hy : ∀ y ∈ ys, WellFormed y)
    (h : dump (.arr xs) = dump (.arr ys)) : xs.map dump = ys.map dump := by
  have hcanonical := canonical_eq_of_dump_eq (.arr hx) (.arr hy) h
  rw [canonical, canonical, canonicalList_eq, canonicalList_eq] at hcanonical
  have hmap := congrArg (List.map dump) (Value.arr.inj hcanonical)
  rw [List.map_map, List.map_map] at hmap
  calc xs.map dump = xs.map (dump ∘ canonical) := List.map_congr_left fun x hx' => (dump_canonical (hx x hx')).symm
    _ = ys.map (dump ∘ canonical) := hmap
    _ = ys.map dump := List.map_congr_left fun y hy' => dump_canonical (hy y hy')

/-! ## The text and the fields -/

theorem ascii_unicodeEscape {n : Nat} (h : n < 65536) : ∀ d ∈ unicodeEscape n, d.toNat < 127 := by
  intro d hd
  simp only [unicodeEscape, List.mem_cons, List.not_mem_nil, or_false] at hd
  rcases hd with rfl | rfl | rfl | rfl | rfl | rfl
  · decide
  · decide
  · exact hexDigit_lt _ (by omega)
  · exact hexDigit_lt _ (by omega)
  · exact hexDigit_lt _ (by omega)
  · exact hexDigit_lt _ (by omega)

/-- What is dumped is in ASCII. -/
theorem ascii_dumps {v : Value} {d : Char} (h : d ∈ dumps v) : d.toNat < 127 := by
  obtain ⟨c, -, hd⟩ := List.mem_flatMap.1 h
  have hc := toNat_cases c
  unfold toAscii at hd
  split at hd
  · rename_i hlt
    rw [List.mem_singleton.1 hd]
    exact hlt
  · split at hd
    · rename_i hlt
      exact ascii_unicodeEscape hlt d hd
    · rcases List.mem_append.1 hd with hd | hd
      · exact ascii_unicodeEscape (by omega) d hd
      · exact ascii_unicodeEscape (by omega) d hd

/-- Of fields with different names, each is found. -/
theorem get?_eq_some_iff {fs : Fields} (h : (fs.map (·.1)).Nodup) {k : String} {v : Value} :
    get? fs k = some v ↔ (k, v) ∈ fs := by
  induction fs with
  | nil => simp [get?]
  | cons p fs ih =>
    obtain ⟨k', v'⟩ := p
    rw [List.map_cons, List.nodup_cons] at h
    by_cases hk : k' = k
    · subst hk
      have habsent : (k', v) ∉ fs := fun hmem => h.1 (List.mem_map.2 ⟨_, hmem, rfl⟩)
      simp [get?, habsent, eq_comm]
    · have hne : (k, v) ≠ (k', v') := fun heq => hk (congrArg Prod.fst heq).symm
      rw [List.mem_cons, or_iff_right hne, ← ih h.2]
      simp [get?, hk]

/-- The order of the fields does not matter. -/
theorem get?_perm {fs gs : Fields} (hperm : fs.Perm gs) (h : (fs.map (·.1)).Nodup) (k : String) : get? fs k = get? gs k := by
  have h' : (gs.map (·.1)).Nodup := (hperm.map (·.1)).nodup_iff.1 h
  ext v
  rw [get?_eq_some_iff h, get?_eq_some_iff h', hperm.mem_iff]

theorem get?_canonicalFields (fs : Fields) (k : String) : get? (canonicalFields fs) k = (get? fs k).map canonical := by
  induction fs with
  | nil => rfl
  | cons p fs ih =>
    obtain ⟨k', v⟩ := p
    by_cases hk : k' = k
    · simp [canonicalFields, get?, hk]
    · simpa [canonicalFields, get?, List.find?_cons, hk] using ih

theorem names_canonicalFields (fs : Fields) : (canonicalFields fs).map (·.1) = fs.map (·.1) := by
  rw [canonicalFields_eq, List.map_map]
  rfl

/-- A field of an object that was loaded again is the one that was dumped. -/
theorem get?_loaded {fs : Fields} (h : (fs.map (·.1)).Nodup) (k : String) :
    get? (sorted (canonicalFields fs)) k = (get? fs k).map canonical := by
  have hperm : (canonicalFields fs).Perm (sorted (canonicalFields fs)) := (List.perm_insertionSort _ _).symm
  rw [← get?_canonicalFields, get?_perm hperm (by rwa [names_canonicalFields])]

/-! ## Assigning a field -/

theorem get?_nil (k : String) : get? [] k = none := rfl

theorem get?_cons (p : String × Value) (fs : Fields) (k : String) :
    get? (p :: fs) k = if p.1 = k then some p.2 else get? fs k := by
  by_cases h : p.1 = k <;> simp [get?, h]

theorem get?_eq_none {fs : Fields} {k : String} (h : k ∉ fs.map (·.1)) : get? fs k = none := by
  induction fs with
  | nil => rfl
  | cons p fs ih =>
    rw [List.map_cons, List.mem_cons, not_or] at h
    rw [get?_cons, if_neg (Ne.symm h.1), ih h.2]

/-- A field that was assigned has its new value, and every other one its own. -/
theorem get?_set (fs : Fields) (k : String) (v : Value) (k' : String) :
    get? (set fs k v) k' = if k = k' then some v else get? fs k' := by
  induction fs with
  | nil => rw [set, get?_cons]
  | cons p fs ih =>
    obtain ⟨name, w⟩ := p
    rw [set]
    split
    · rename_i h
      subst h
      rw [get?_cons, get?_cons]
      split <;> rfl
    · rename_i h
      rw [get?_cons, ih, get?_cons]
      split
      · rename_i hname
        rw [if_neg fun heq => h (hname.trans heq.symm)]
      · rfl

theorem mem_names_set {fs : Fields} {k k' : String} {v : Value} (h : k' ∈ (set fs k v).map (·.1)) :
    k' = k ∨ k' ∈ fs.map (·.1) := by
  induction fs with
  | nil => exact Or.inl (List.mem_singleton.1 h)
  | cons p fs ih =>
    obtain ⟨name, w⟩ := p
    rw [set] at h
    split at h
    · rcases List.mem_cons.1 h with rfl | h
      · exact Or.inl rfl
      · exact Or.inr (List.mem_cons_of_mem _ h)
    · rcases List.mem_cons.1 h with rfl | h
      · exact Or.inr List.mem_cons_self
      · exact (ih h).imp id (List.mem_cons_of_mem _)

theorem nodup_set {fs : Fields} (h : (fs.map (·.1)).Nodup) (k : String) (v : Value) : ((set fs k v).map (·.1)).Nodup := by
  induction fs with
  | nil => exact List.nodup_singleton k
  | cons p fs ih =>
    obtain ⟨name, w⟩ := p
    rw [List.map_cons, List.nodup_cons] at h
    rw [set]
    split
    · rename_i hname
      subst hname
      exact List.nodup_cons.2 h
    · rename_i hname
      refine List.nodup_cons.2 ⟨fun hmem => ?_, ih h.2⟩
      exact (mem_names_set hmem).elim hname h.1

/-- Objects with the same fields are the same up to their order. -/
theorem perm_of_get? {fs gs : Fields} (hfs : (fs.map (·.1)).Nodup) (hgs : (gs.map (·.1)).Nodup)
    (h : ∀ k, get? fs k = get? gs k) : fs.Perm gs := by
  rw [List.perm_ext_iff_of_nodup hfs.of_map hgs.of_map]
  rintro ⟨k, v⟩
  rw [← get?_eq_some_iff hfs, h, get?_eq_some_iff hgs]

end Json
