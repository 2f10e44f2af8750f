import PromptRail.Library.PyText

/-!
# Base64

Three bytes are four characters of six bits each, in the alphabet that is safe in a URL. Decoding is lenient, as
`binascii.a2b_base64` is: it passes over what is not in the alphabet and ends with the padding.
-/

namespace Base64

open PyText (Text isSpace)

abbrev Bytes := List UInt8

/-- The character of six bits. -/
def digit (n : Nat) : Char :=
  if n < 26 then Char.ofNat (65 + n)
  else if n < 52 then Char.ofNat (71 + n)
  else if n < 62 then Char.ofNat (n - 4)
  else if n = 62 then '-'
  else '_'

/-- The six bits of a character, in either alphabet. -/
def value? (c : Char) : Option Nat :=
  if c.isUpper then some (c.toNat - 65)
  else if c.isLower then some (c.toNat - 71)
  else if c.isDigit then some (c.toNat + 4)
  else if c = '-' ∨ c = '+' then some 62
  else if c = '_' ∨ c = '/' then some 63
  else none

/-- `base64.urlsafe_b64encode`, without its padding. -/
def encode : Bytes → Text
  | a :: b :: c :: rest =>
    digit (a.toNat / 4) :: digit (a.toNat % 4 * 16 + b.toNat / 16) :: digit (b.toNat % 16 * 4 + c.toNat / 64) ::
      digit (c.toNat % 64) :: encode rest
  | [a, b] => [digit (a.toNat / 4), digit (a.toNat % 4 * 16 + b.toNat / 16), digit (b.toNat % 16 * 4)]
  | [a] => [digit (a.toNat / 4), digit (a.toNat % 4 * 16)]
  | [] => []

/-- The padding of a text of that length. -/
def padding (length : Nat) : Text := List.replicate ((4 - length % 4) % 4) '='

/-- Where a decoder stands: at which character of four, what is left of the last one, how much padding it has passed, and the
bytes so far, the last one first. -/
structure Decoder where
  quad : Nat := 0
  left : Nat := 0
  pads : Nat := 0
  bytes : Bytes := []

/-- Six more bits. -/
def Decoder.feed (d : Decoder) (bits : Nat) : Decoder :=
  match d.quad with
  | 0 => { quad := 1, left := bits, bytes := d.bytes }
  | 1 => { quad := 2, left := bits % 16, bytes := UInt8.ofNat (d.left * 4 + bits / 16) :: d.bytes }
  | 2 => { quad := 3, left := bits % 4, bytes := UInt8.ofNat (d.left * 16 + bits / 4) :: d.bytes }
  | _ => { quad := 0, bytes := UInt8.ofNat (d.left * 64 + bits) :: d.bytes }

/-- `binascii.a2b_base64`. -/
def Decoder.read (d : Decoder) : Text → Option Bytes
  | [] => if d.quad = 0 then some d.bytes.reverse else none
  | c :: rest =>
    if c = '=' then
      if d.quad < 2 then d.read rest
      else if 4 ≤ d.quad + (d.pads + 1) then some d.bytes.reverse
      else Decoder.read { d with pads := d.pads + 1 } rest
    else
      match value? c with
      | none => d.read rest
      | some bits => (d.feed bits).read rest

/-- `base64.urlsafe_b64decode`. -/
def decode (t : Text) : Option Bytes := if t.all (·.toNat < 128) then Decoder.read {} t else none

/-- A character of the alphabet. -/
def IsDigit (c : Char) : Prop := c ≠ '=' ∧ c ≠ '.' ∧ c.toNat < 128 ∧ isSpace c = false

theorem value?_digit : ∀ n < 64, value? (digit n) = some n := by decide

theorem isDigit_digit : ∀ n < 64, IsDigit (digit n) := by
  unfold IsDigit
  decide

theorem isDigit_of_mem_encode {bytes : Bytes} {c : Char} (h : c ∈ encode bytes) : IsDigit c := by
  induction bytes using encode.induct with
  | case1 a b c' rest ih =>
    have := a.toNat_lt
    have := b.toNat_lt
    rw [encode] at h
    rcases List.mem_cons.1 h with rfl | h
    · exact isDigit_digit _ (by omega)
    rcases List.mem_cons.1 h with rfl | h
    · exact isDigit_digit _ (by omega)
    rcases List.mem_cons.1 h with rfl | h
    · exact isDigit_digit _ (by have := c'.toNat_lt; omega)
    rcases List.mem_cons.1 h with rfl | h
    · exact isDigit_digit _ (by omega)
    · exact ih h
  | case2 a b =>
    have := a.toNat_lt
    have := b.toNat_lt
    simp only [encode, List.mem_cons, List.not_mem_nil, or_false] at h
    rcases h with rfl | rfl | rfl <;> exact isDigit_digit _ (by omega)
  | case3 a =>
    have := a.toNat_lt
    simp only [encode, List.mem_cons, List.not_mem_nil, or_false] at h
    rcases h with rfl | rfl <;> exact isDigit_digit _ (by omega)
  | case4 => simp [encode] at h

/-- Four characters for three bytes, and one more than its bytes for what is left. -/
theorem length_encode (bytes : Bytes) : (encode bytes).length = (4 * bytes.length + 2) / 3 := by
  induction bytes using encode.induct with
  | case1 a b c rest ih =>
    simp only [encode, List.length_cons, ih]
    omega
  | case2 a b => simp [encode]
  | case3 a => simp [encode]
  | case4 => simp [encode]

theorem read_digit (d : Decoder) {n : Nat} (h : n < 64) (rest : Text) :
    d.read (digit n :: rest) = (d.feed n).read rest := by
  rw [Decoder.read, if_neg (isDigit_digit n h).1, value?_digit n h]

theorem ofNat_byte {a : UInt8} {n : Nat} (h : n = a.toNat) : UInt8.ofNat n = a := by
  rw [h, UInt8.ofNat_toNat]

/-- What was encoded is read again. -/
theorem read_encode (bytes done : Bytes) :
    Decoder.read { bytes := done } (encode bytes ++ padding (encode bytes).length) = some (done.reverse ++ bytes) := by
  induction bytes using encode.induct generalizing done with
  | case1 a b c rest ih =>
    have ha := a.toNat_lt
    have hb := b.toNat_lt
    have hc := c.toNat_lt
    have hpadding : padding (encode (a :: b :: c :: rest)).length = padding (encode rest).length := by
      simp only [encode, List.length_cons, padding]
      congr 2
      omega
    rw [hpadding, encode]
    simp only [List.cons_append]
    rw [read_digit _ (by omega), read_digit _ (by omega), read_digit _ (by omega), read_digit _ (by omega)]
    simp only [Decoder.feed]
    rw [ofNat_byte (a := c) (by omega), ofNat_byte (a := b) (by omega), ofNat_byte (a := a) (by omega), ih]
    simp
  | case2 a b =>
    have ha := a.toNat_lt
    have hb := b.toNat_lt
    simp only [encode, List.cons_append, List.nil_append, List.length_cons, List.length_nil]
    rw [read_digit _ (by omega), read_digit _ (by omega), read_digit _ (by omega)]
    simp only [Decoder.feed]
    rw [ofNat_byte (a := b) (by omega), ofNat_byte (a := a) (by omega)]
    simp [padding, Decoder.read]
  | case3 a =>
    have ha := a.toNat_lt
    simp only [encode, List.cons_append, List.nil_append, List.length_cons, List.length_nil]
    rw [read_digit _ (by omega), read_digit _ (by omega)]
    simp only [Decoder.feed]
    rw [ofNat_byte (a := a) (by omega)]
    simp [padding, Decoder.read]
  | case4 => simp [encode, padding, Decoder.read]

/-- Decoding undoes encoding, when the padding is put back. -/
theorem decode_encode (bytes : Bytes) : decode (encode bytes ++ padding (encode bytes).length) = some bytes := by
  have hascii : (encode bytes ++ padding (encode bytes).length).all (·.toNat < 128) = true := by
    rw [List.all_eq_true]
    intro c hc
    rcases List.mem_append.1 hc with hc | hc
    · exact decide_eq_true (isDigit_of_mem_encode hc).2.2.1
    · rw [List.eq_of_mem_replicate hc]
      rfl
  rw [decode, if_pos hascii, read_encode, List.reverse_nil, List.nil_append]

end Base64
