import Mathlib.Data.List.Basic
import Mathlib.Data.List.Infix

/-!
# Bytes to code points

The codecs that JSON is read with: UTF-8, UTF-16 and UTF-32 under `surrogatepass`, so that half of a surrogate pair is a code point
like another, and `json.detect_encoding`, which looks at the first four bytes. What is decoded of a text is decoded of every longer
one, unless half of a pair stands at the end (`decodeFrom_append`).
-/

namespace Codec

abbrev Bytes := List UInt8

/-- The code points of a text. -/
abbrev Codes := List Nat

def isHigh (n : Nat) : Bool := 55296 ≤ n && n < 56320

def isLow (n : Nat) : Bool := 56320 ≤ n && n < 57344

/-- The code point of a surrogate pair. -/
def joined (high low : Nat) : Nat := 65536 + (high - 55296) * 1024 + (low - 56320)

/-! ## One code point -/

/-- `10xxxxxx`. -/
def isTail (b : UInt8) : Bool := 128 ≤ b.toNat && b.toNat < 192

/-- The bytes that follow the first one of a code point, which no fewer bytes could spell. -/
def readTails (least : Nat) : Nat → Nat → Bytes → Option (Nat × Bytes)
  | 0, n, rest => if least ≤ n ∧ n < 1114112 then some (n, rest) else none
  | _ + 1, _, [] => none
  | count + 1, n, b :: rest => if isTail b then readTails least count (n * 64 + (b.toNat - 128)) rest else none

def readUtf8 : Bytes → Option (Nat × Bytes)
  | [] => none
  | a :: rest =>
    if a.toNat < 128 then some (a.toNat, rest)
    else if a.toNat < 192 then none
    else if a.toNat < 224 then readTails 128 1 (a.toNat - 192) rest
    else if a.toNat < 240 then readTails 2048 2 (a.toNat - 224) rest
    else if a.toNat < 248 then readTails 65536 3 (a.toNat - 240) rest
    else none

/-- Two bytes, the higher one first where `big` holds. -/
def unit16 (big : Bool) (a b : UInt8) : Nat := if big then a.toNat * 256 + b.toNat else b.toNat * 256 + a.toNat

/-- A high surrogate is joined to a low one behind it; a byte alone is no text. -/
def readPair (big : Bool) (high : Nat) : Bytes → Option (Nat × Bytes)
  | [] => some (high, [])
  | [_] => none
  | c :: d :: rest => if isLow (unit16 big c d) then some (joined high (unit16 big c d), rest) else some (high, c :: d :: rest)

def readUtf16 (big : Bool) : Bytes → Option (Nat × Bytes)
  | a :: b :: rest => if isHigh (unit16 big a b) then readPair big (unit16 big a b) rest else some (unit16 big a b, rest)
  | _ => none

/-- Four bytes. -/
def unit32 (big : Bool) (a b c d : UInt8) : Nat :=
  if big then unit16 big a b * 65536 + unit16 big c d else unit16 big c d * 65536 + unit16 big a b

def readUtf32 (big : Bool) : Bytes → Option (Nat × Bytes)
  | a :: b :: c :: d :: rest => if unit32 big a b c d < 1114112 then some (unit32 big a b c d, rest) else none
  | _ => none

/-- A codec, and the order of its bytes. -/
inductive Encoding where
  | utf8
  | utf16 (big : Bool)
  | utf32 (big : Bool)

def Encoding.read : Encoding → Bytes → Option (Nat × Bytes)
  | .utf8 => readUtf8
  | .utf16 big => readUtf16 big
  | .utf32 big => readUtf32 big

/-! ## Texts -/

/-- The code points of a text, each of at least one byte. -/
def decodeFrom (e : Encoding) : Nat → Bytes → Option Codes
  | _, [] => some []
  | 0, _ :: _ => none
  | fuel + 1, b :: bytes => do
    let (c, rest) ← e.read (b :: bytes)
    let cs ← decodeFrom e fuel rest
    return c :: cs

/-- Where no byte order mark stands in front, the NUL bytes of the first code points tell the encoding. -/
def detectByNuls : Bytes → Encoding
  | a :: b :: c :: d :: _ =>
    if a = 0 then if b ≠ 0 then .utf16 true else .utf32 true
    else if b = 0 then if c ≠ 0 ∨ d ≠ 0 then .utf16 false else .utf32 false
    else .utf8
  | [a, b] => if a = 0 then .utf16 true else if b = 0 then .utf16 false else .utf8
  | _ => .utf8

/-- `json.detect_encoding`: the encoding, and the length of the byte order mark. -/
def detectEncoding (b : Bytes) : Encoding × Nat :=
  if [0x00, 0x00, 0xFE, 0xFF] <+: b then (.utf32 true, 4)
  else if [0xFF, 0xFE, 0x00, 0x00] <+: b then (.utf32 false, 4)
  else if [0xFE, 0xFF] <+: b then (.utf16 true, 2)
  else if [0xFF, 0xFE] <+: b then (.utf16 false, 2)
  else if [0xEF, 0xBB, 0xBF] <+: b then (.utf8, 3)
  else (detectByNuls b, 0)

/-- `b.decode(detect_encoding(b), "surrogatepass")`. -/
def decode (b : Bytes) : Option Codes :=
  decodeFrom (detectEncoding b).1 (b.drop (detectEncoding b).2).length (b.drop (detectEncoding b).2)

/-- A byte order mark is none of the text. -/
example : decode [0xFF, 0xFE, 0x5B, 0, 0x3D, 0xD8, 0, 0xDE, 0x3D, 0xD8] = some [91, 128512, 55357] := by decide +kernel

/-! ## Longer texts -/

theorem readTails_append {least count n c : Nat} {b rest : Bytes} (h : readTails least count n b = some (c, rest)) (more : Bytes) :
    least ≤ c ∧ readTails least count n (b ++ more) = some (c, rest ++ more) := by
  induction count generalizing n b with
  | zero =>
    rw [readTails] at h
    split at h
    · rename_i hcode
      cases h
      exact ⟨hcode.1, if_pos hcode⟩
    · cases h
  | succ count ih =>
    cases b with
    | nil => cases h
    | cons x b =>
      rw [readTails] at h
      split at h
      · rename_i htail
        rw [List.cons_append, readTails, if_pos htail]
        exact ih h
      · cases h

theorem readUtf8_append {b rest : Bytes} {c : Nat} (h : readUtf8 b = some (c, rest)) (more : Bytes) :
    readUtf8 (b ++ more) = some (c, rest ++ more) := by
  cases b with
  | nil => cases h
  | cons a b =>
    rw [readUtf8] at h
    rw [List.cons_append, readUtf8]
    split at h
    · rename_i hone
      cases h
      rw [if_pos hone]
    rename_i hone
    rw [if_neg hone]
    split at h
    · cases h
    rename_i htail
    rw [if_neg htail]
    split at h
    · rename_i htwo
      rw [if_pos htwo]
      exact (readTails_append h more).2
    rename_i htwo
    rw [if_neg htwo]
    split at h
    · rename_i hthree
      rw [if_pos hthree]
      exact (readTails_append h more).2
    rename_i hthree
    rw [if_neg hthree]
    split at h
    · rename_i hfour
      rw [if_pos hfour]
      exact (readTails_append h more).2
    · cases h

/-- A code point of one byte is that byte. -/
theorem readUtf8_ascii {a : UInt8} {b rest : Bytes} {c : Nat} (h : readUtf8 (a :: b) = some (c, rest)) (hc : c < 128) :
    c = a.toNat ∧ rest = b := by
  rw [readUtf8] at h
  split at h
  · cases h
    exact ⟨rfl, rfl⟩
  split at h
  · cases h
  all_goals
    repeat' split at h
  · have := (readTails_append h []).1
    omega
  · have := (readTails_append h []).1
    omega
  · have := (readTails_append h []).1
    omega
  · cases h

theorem readPair_append {big : Bool} {high c : Nat} {b rest : Bytes} (h : readPair big high b = some (c, rest)) (hne : b ≠ [])
    (more : Bytes) : readPair big high (b ++ more) = some (c, rest ++ more) := by
  match b, h with
  | [], _ => exact absurd rfl hne
  | x :: y :: b, h =>
    rw [readPair] at h
    rw [List.cons_append, List.cons_append, readPair]
    split at h
    · rename_i hlow
      obtain ⟨rfl, rfl⟩ := Prod.mk.inj (Option.some.inj h)
      rw [if_pos hlow]
    · rename_i hlow
      obtain ⟨rfl, rfl⟩ := Prod.mk.inj (Option.some.inj h)
      rw [if_neg hlow]
      rfl

theorem readUtf16_append {big : Bool} {b rest : Bytes} {c : Nat} (h : readUtf16 big b = some (c, rest))
    (hend : rest ≠ [] ∨ isHigh c = false) (more : Bytes) : readUtf16 big (b ++ more) = some (c, rest ++ more) := by
  match b, h with
  | x :: y :: b, h =>
    rw [readUtf16] at h
    rw [List.cons_append, List.cons_append, readUtf16]
    split at h
    · rename_i hhigh
      rw [if_pos hhigh]
      refine readPair_append h ?_ more
      rintro rfl
      obtain ⟨rfl, rfl⟩ := Prod.mk.inj (Option.some.inj h)
      rcases hend with hend | hend
      · exact hend rfl
      · rw [hhigh] at hend
        exact Bool.noConfusion hend
    · rename_i hhigh
      obtain ⟨rfl, rfl⟩ := Prod.mk.inj (Option.some.inj h)
      rw [if_neg hhigh]

theorem readUtf32_append {big : Bool} {b rest : Bytes} {c : Nat} (h : readUtf32 big b = some (c, rest)) (more : Bytes) :
    readUtf32 big (b ++ more) = some (c, rest ++ more) := by
  match b, h with
  | x :: y :: z :: w :: b, h =>
    rw [readUtf32] at h
    split at h
    · rename_i hcode
      cases h
      exact if_pos hcode
    · cases h

/-- A code point is read again where the bytes go on, unless it is half of a pair at their end. -/
theorem read_append {e : Encoding} {b rest : Bytes} {c : Nat} (h : e.read b = some (c, rest)) (hend : rest ≠ [] ∨ isHigh c = false)
    (more : Bytes) : e.read (b ++ more) = some (c, rest ++ more) := by
  cases e with
  | utf8 => exact readUtf8_append h more
  | utf16 big => exact readUtf16_append h hend more
  | utf32 big => exact readUtf32_append h more

theorem readTails_length {least count n c : Nat} {b rest : Bytes} (h : readTails least count n b = some (c, rest)) :
    rest.length + count = b.length := by
  induction count generalizing n b with
  | zero =>
    rw [readTails] at h
    split at h
    · cases h
      rfl
    · cases h
  | succ count ih =>
    cases b with
    | nil => cases h
    | cons x b =>
      rw [readTails] at h
      split at h
      · have := ih h
        rw [List.length_cons]
        omega
      · cases h

theorem readUtf16_length {big : Bool} {b rest : Bytes} {c : Nat} (h : readUtf16 big b = some (c, rest)) :
    rest.length + 2 ≤ b.length := by
  match b, h with
  | x :: y :: b, h =>
    rw [readUtf16] at h
    split at h
    · match b, h with
      | [], h =>
        obtain ⟨-, rfl⟩ := Prod.mk.inj (Option.some.inj h)
        exact Nat.le_refl _
      | z :: w :: b, h =>
        rw [readPair] at h
        split at h
        all_goals
          obtain ⟨-, rfl⟩ := Prod.mk.inj (Option.some.inj h)
          simp only [List.length_cons]
          omega
    · obtain ⟨-, rfl⟩ := Prod.mk.inj (Option.some.inj h)
      exact Nat.le_refl _

/-- A code point takes a byte. -/
theorem read_length {e : Encoding} {b rest : Bytes} {c : Nat} (h : e.read b = some (c, rest)) : rest.length < b.length := by
  cases e with
  | utf8 =>
    cases b with
    | nil => cases h
    | cons a b =>
      rw [Encoding.read, readUtf8] at h
      rw [List.length_cons]
      split at h
      · cases h
        exact Nat.lt_succ_self _
      split at h
      · cases h
      split at h
      · have := readTails_length h
        omega
      split at h
      · have := readTails_length h
        omega
      split at h
      · have := readTails_length h
        omega
      · cases h
  | utf16 big =>
    have := readUtf16_length h
    omega
  | utf32 big =>
    match b, h with
    | x :: y :: z :: w :: b, h =>
      rw [Encoding.read, readUtf32] at h
      split at h
      · obtain ⟨-, rfl⟩ := Prod.mk.inj (Option.some.inj h)
        simp only [List.length_cons]
        omega
      · cases h

/-- The length of a text is fuel enough. -/
theorem decodeFrom_of_le {e : Encoding} {n m : Nat} {b : Bytes} {t : Codes} (h : decodeFrom e n b = some t) (hm : b.length ≤ m) :
    decodeFrom e m b = some t := by
  induction n generalizing b t m with
  | zero =>
    cases b with
    | nil =>
      cases h
      cases m <;> rfl
    | cons x b => cases h
  | succ n ih =>
    cases b with
    | nil =>
      cases h
      cases m <;> rfl
    | cons x b =>
      obtain ⟨⟨c, rest⟩, hread, h⟩ := Option.bind_eq_some_iff.1 h
      obtain ⟨cs, hcs, h⟩ := Option.bind_eq_some_iff.1 h
      cases h
      have hless := read_length hread
      cases m with
      | zero => cases hm
      | succ m =>
        rw [List.length_cons] at hless hm
        rw [decodeFrom, hread]
        simp only [bind, Option.bind, ih hcs (m := m) (by omega)]
        rfl

theorem decodeFrom_nil (e : Encoding) (n : Nat) : decodeFrom e n [] = some [] := by cases n <;> rfl

/-- The first code point of a text, and what is decoded behind it. -/
theorem decodeFrom_cons {e : Encoding} {n c : Nat} {b : Bytes} {t : Codes} (h : decodeFrom e n b = some (c :: t)) :
    ∃ m rest, e.read b = some (c, rest) ∧ decodeFrom e m rest = some t := by
  cases b with
  | nil => cases h.symm.trans (decodeFrom_nil e n)
  | cons x b =>
    cases n with
    | zero => cases h
    | succ n =>
      obtain ⟨⟨c', rest⟩, hread, h⟩ := Option.bind_eq_some_iff.1 h
      obtain ⟨cs, hcs, h⟩ := Option.bind_eq_some_iff.1 h
      cases h
      exact ⟨n, rest, hread, hcs⟩

/-- What is decoded of a text is decoded of every longer one. -/
theorem decodeFrom_append {e : Encoding} {n m : Nat} {b more : Bytes} {t t' : Codes} (h : decodeFrom e n b = some t)
    (hlast : ∀ c ∈ t.getLast?, isHigh c = false) (hlonger : decodeFrom e m (b ++ more) = some t') :
    ∃ k u, decodeFrom e k more = some u ∧ t' = t ++ u := by
  induction n generalizing b t m t' with
  | zero =>
    cases b with
    | nil =>
      cases h
      exact ⟨m, t', hlonger, rfl⟩
    | cons x b => cases h
  | succ n ih =>
    cases b with
    | nil =>
      cases h
      exact ⟨m, t', hlonger, rfl⟩
    | cons x b =>
      obtain ⟨⟨c, rest⟩, hread, h⟩ := Option.bind_eq_some_iff.1 h
      obtain ⟨cs, hcs, h⟩ := Option.bind_eq_some_iff.1 h
      cases h
      cases m with
      | zero => cases hlonger
      | succ m =>
        have hend : rest ≠ [] ∨ isHigh c = false := by
          by_cases hrest : rest = []
          · subst hrest
            have hnil : cs = [] := by cases n <;> exact (Option.some.inj hcs).symm
            subst hnil
            exact Or.inr (hlast c rfl)
          · exact Or.inl hrest
        obtain ⟨⟨c', rest'⟩, hread', hlonger⟩ := Option.bind_eq_some_iff.1 hlonger
        obtain ⟨cs', hcs', hlonger⟩ := Option.bind_eq_some_iff.1 hlonger
        cases hlonger
        cases hread'.symm.trans (read_append hread hend more)
        have hlast' : ∀ d ∈ cs.getLast?, isHigh d = false := by
          intro d hd
          cases cs with
          | nil => cases hd
          | cons d' cs => exact hlast d (by rw [List.getLast?_cons_cons]; exact hd)
        obtain ⟨k, u, hu, htail⟩ := ih hcs hlast' hcs'
        exact ⟨k, u, hu, by rw [htail, List.cons_append]⟩

theorem detectByNuls_utf8 {a b : UInt8} (ha : a ≠ 0) (hb : b ≠ 0) (rest : Bytes) : detectByNuls (a :: b :: rest) = .utf8 := by
  match rest with
  | [] => rw [detectByNuls, if_neg ha, if_neg hb]
  | [c] => rw [detectByNuls] <;> simp
  | c :: d :: rest => rw [detectByNuls, if_neg ha, if_neg hb]

/-- The encoding of a text of four bytes or more is that of every longer one. -/
theorem detectEncoding_append {b : Bytes} (h : 4 ≤ b.length) (more : Bytes) : detectEncoding (b ++ more) = detectEncoding b := by
  have hnuls : detectByNuls (b ++ more) = detectByNuls b := by
    match b, h with
    | x :: y :: z :: w :: b, _ => rfl
  have hmark : ∀ mark : Bytes, mark.length ≤ 4 → (mark <+: b ++ more ↔ mark <+: b) :=
    fun mark hmark => List.isPrefix_append_of_length (hmark.trans h)
  unfold detectEncoding
  simp only [hmark [0x00, 0x00, 0xFE, 0xFF] (by decide), hmark [0xFF, 0xFE, 0x00, 0x00] (by decide), hmark [0xFE, 0xFF] (by decide),
    hmark [0xFF, 0xFE] (by decide), hmark [0xEF, 0xBB, 0xBF] (by decide), hnuls]

/-! ## NUL bytes -/

/-- A byte that is no NUL counts for itself in the lower half of a unit, and for a page of code points in the upper one. -/
theorem toNat_pos {b : UInt8} (h : b ≠ 0) : 0 < b.toNat := by
  refine Nat.pos_of_ne_zero fun hzero => h ?_
  exact UInt8.toNat_inj.1 hzero

theorem le_unit16 {big : Bool} {a b : UInt8} (ha : 0 < a.toNat) (hb : 0 < b.toNat) : 256 ≤ unit16 big a b := by
  unfold unit16
  split <;> omega

theorem readUtf16_le {big : Bool} {a b : UInt8} {bytes rest : Bytes} {c : Nat} (h : readUtf16 big (a :: b :: bytes) = some (c, rest))
    (hunit : 256 ≤ unit16 big a b) : 256 ≤ c := by
  rw [readUtf16] at h
  split at h
  · match bytes, h with
    | [], h =>
      obtain ⟨rfl, -⟩ := Prod.mk.inj (Option.some.inj h)
      exact hunit
    | x :: y :: bytes, h =>
      rw [readPair] at h
      split at h
      · obtain ⟨rfl, -⟩ := Prod.mk.inj (Option.some.inj h)
        unfold joined
        omega
      · obtain ⟨rfl, -⟩ := Prod.mk.inj (Option.some.inj h)
        exact hunit
  · obtain ⟨rfl, -⟩ := Prod.mk.inj (Option.some.inj h)
    exact hunit

/-- A NUL byte and three others: whatever reads them on reads a code point that is NUL or beyond the first page. -/
theorem decodeFrom_nul {e : Encoding} {k : Nat} {a b c : UInt8} {bytes : Bytes} {t : Codes} (ha : a ≠ 0) (hb : b ≠ 0) (hc : c ≠ 0)
    (h : decodeFrom e k (0 :: a :: b :: c :: bytes) = some t) : ∃ d ∈ t, d = 0 ∨ 256 ≤ d := by
  have ha' := toNat_pos ha
  have hb' := toNat_pos hb
  have hc' := toNat_pos hc
  have hzero : (0 : UInt8).toNat = 0 := rfl
  cases k with
  | zero => cases h
  | succ k =>
    obtain ⟨⟨d, rest⟩, hread, h⟩ := Option.bind_eq_some_iff.1 h
    obtain ⟨ds, hds, h⟩ := Option.bind_eq_some_iff.1 h
    cases h
    cases e with
    | utf8 =>
      cases hread
      exact ⟨0, List.mem_cons_self, Or.inl rfl⟩
    | utf32 big =>
      rw [Encoding.read, readUtf32] at hread
      split at hread
      · rename_i hcode
        obtain ⟨rfl, -⟩ := Prod.mk.inj (Option.some.inj hread)
        refine ⟨_, List.mem_cons_self, Or.inr ?_⟩
        cases big
        all_goals
          simp only [unit32, unit16, hzero, Bool.false_eq_true, if_false, if_true] at hcode ⊢
          omega
      · cases hread
    | utf16 big =>
      cases big with
      | false =>
        refine ⟨d, List.mem_cons_self, Or.inr (readUtf16_le hread ?_)⟩
        simp only [unit16, hzero, Bool.false_eq_true, if_false]
        omega
      | true =>
        -- the first unit may be white space, the second one is beyond the first page
        have hlow : isHigh (unit16 true 0 a) = false := by
          have := a.toNat_lt
          simp only [isHigh, unit16, hzero, if_true, Bool.and_eq_false_iff, decide_eq_false_iff_not]
          omega
        rw [Encoding.read, readUtf16, hlow, if_neg Bool.false_ne_true] at hread
        obtain ⟨-, rfl⟩ := Prod.mk.inj (Option.some.inj hread)
        cases k with
        | zero => cases hds
        | succ k =>
          obtain ⟨⟨d', rest'⟩, hread', hds⟩ := Option.bind_eq_some_iff.1 hds
          obtain ⟨ds', -, hds⟩ := Option.bind_eq_some_iff.1 hds
          cases hds
          exact ⟨d', List.mem_cons_of_mem _ List.mem_cons_self, Or.inr (readUtf16_le hread' (le_unit16 hb' hc'))⟩

end Codec
