import Mathlib.Data.List.Basic
import Mathlib.Data.List.TakeWhile
import Mathlib.Algebra.BigOperators.Group.List.Basic
import Mathlib.Algebra.GroupWithZero.Nat

/-!
# Python text

A text is a list of characters, so that slices, `strip` and `splitlines` are list functions. The functions carry the names of
the Python methods they follow. Case folding is given where it can meet an ASCII letter: a character without an ASCII
character in its folding is left as it is, since the folded texts are only ever compared with ASCII ones. Whether a character
outside ASCII is a letter or a digit is a table of the Unicode database, taken as a parameter (`alnum`).
-/

namespace PyText

abbrev Text := List Char

instance : LawfulBEq Text := inferInstance

/-- The length in bytes of the UTF-8 encoding. -/
def utf8Len (t : Text) : Nat := (t.map Char.utf8Size).sum

@[simp] theorem utf8Len_nil : utf8Len [] = 0 := rfl

@[simp] theorem utf8Len_cons (c : Char) (t : Text) : utf8Len (c :: t) = c.utf8Size + utf8Len t := by
  simp [utf8Len]

@[simp] theorem utf8Len_append (s t : Text) : utf8Len (s ++ t) = utf8Len s + utf8Len t := by
  simp [utf8Len]

/-- The length of a joined text: the parts, and a separator between any two of them. -/
theorem utf8Len_intercalate (sep : Text) (ts : List Text) :
    utf8Len (sep.intercalate ts) = (ts.map utf8Len).sum + (ts.length - 1) * utf8Len sep := by
  induction ts with
  | nil => simp
  | cons t ts ih =>
    cases ts with
    | nil => simp
    | cons u us =>
      rw [List.intercalate_cons_cons, utf8Len_append, utf8Len_append, ih]
      simp only [List.map_cons, List.sum_cons, List.length_cons, Nat.add_sub_cancel, Nat.succ_mul]
      omega

/-! ## White space and lines -/

/-- The characters `str.strip` removes. -/
def isSpace (c : Char) : Bool :=
  let n := c.toNat
  (9 ≤ n && n ≤ 13) || (28 ≤ n && n ≤ 32) || n == 0x85 || n == 0xA0 || n == 0x1680 || (0x2000 ≤ n && n ≤ 0x200A) ||
    n == 0x2028 || n == 0x2029 || n == 0x202F || n == 0x205F || n == 0x3000

/-- `str.lstrip`. -/
def lstrip (t : Text) : Text := t.dropWhile isSpace

/-- `str.rstrip`. -/
def rstrip (t : Text) : Text := (t.reverse.dropWhile isSpace).reverse

/-- `str.strip`. -/
def strip (t : Text) : Text := rstrip (lstrip t)

/-- The line boundaries of `str.splitlines`. -/
def isLineBreak (c : Char) : Bool :=
  let n := c.toNat
  (10 ≤ n && n ≤ 13) || (28 ≤ n && n ≤ 30) || n == 0x85 || n == 0x2028 || n == 0x2029

/-- `splitlines` with the current line, reversed, in hand; `cr` says that the last character was a carriage return. -/
def splitlinesFrom : Bool → Text → Text → List Text
  | _, line, [] => if line.isEmpty then [] else [line.reverse]
  | cr, line, c :: rest =>
    if cr && c == '\n' then splitlinesFrom false line rest
    else if isLineBreak c then line.reverse :: splitlinesFrom (c == '\r') [] rest
    else splitlinesFrom false (c :: line) rest

/-- `str.splitlines`: a carriage return and a line feed are one boundary, and a final boundary opens no line. -/
def splitlines (t : Text) : List Text := splitlinesFrom false [] t

/-! ## Case -/

/-- The full case folding of one character, where it holds an ASCII character. -/
def foldChar (c : Char) : Text :=
  let n := c.toNat
  if n = 0xDF ∨ n = 0x1E9E then ['s', 's']
  else if n = 0x17F then ['s']
  else if n = 0x212A then ['k']
  else if n = 0x130 then ['i', Char.ofNat 0x307]
  else if n = 0x149 then [Char.ofNat 0x2BC, 'n']
  else if n = 0x1F0 then ['j', Char.ofNat 0x30C]
  else if n = 0x1E96 then ['h', Char.ofNat 0x331]
  else if n = 0x1E97 then ['t', Char.ofNat 0x308]
  else if n = 0x1E98 then ['w', Char.ofNat 0x30A]
  else if n = 0x1E99 then ['y', Char.ofNat 0x30A]
  else if n = 0x1E9A then ['a', Char.ofNat 0x2BE]
  else if n = 0xFB00 then ['f', 'f']
  else if n = 0xFB01 then ['f', 'i']
  else if n = 0xFB02 then ['f', 'l']
  else if n = 0xFB03 then ['f', 'f', 'i']
  else if n = 0xFB04 then ['f', 'f', 'l']
  else if n = 0xFB05 ∨ n = 0xFB06 then ['s', 't']
  else [c.toLower]

/-- `str.casefold`. -/
def casefold (t : Text) : Text := t.flatMap foldChar

/-! ## Searching -/

/-- The letter a character stands for under `re.IGNORECASE`: the four letters outside ASCII that match an ASCII letter, and the
ASCII capitals. -/
def ignoreCase (c : Char) : Char :=
  let n := c.toNat
  if n = 0x17F then 's' else if n = 0x212A then 'k' else if n = 0x130 ∨ n = 0x131 then 'i' else c.toLower

/-- Match a lower-case literal at the front of a text, ignoring case: what follows it. -/
def dropLiteral : Text → Text → Option Text
  | [], rest => some rest
  | _ :: _, [] => none
  | l :: ls, c :: rest => if ignoreCase c = l then dropLiteral ls rest else none

/-- One of the literals, in lower case, stands at the front of the text. -/
def anyLiteral (literals : List String) (rest : Text) : Bool :=
  literals.any fun l => (dropLiteral l.toList rest).isSome

/-- `\w`. -/
def isWord (alnum : Char → Bool) (c : Char) : Bool :=
  if c.toNat < 128 then c.isAlphanum || c == '_' else alnum c

/-- `\b` before a text that follows the character `prev`. -/
def wordBoundary (alnum : Char → Bool) (prev : Option Char) (rest : Text) : Bool :=
  prev.any (isWord alnum) != rest.head?.any (isWord alnum)

/-- `re.search`: the pattern, which sees the character before and the text after, matches at some position. -/
def search (pattern : Option Char → Text → Bool) : Option Char → Text → Bool
  | prev, [] => pattern prev []
  | prev, c :: rest => pattern prev (c :: rest) || search pattern (some c) rest

/-- The maximal runs of characters that satisfy `p`, with the current run, reversed, in hand. -/
def runsFrom (p : Char → Bool) : Text → Text → List Text
  | cur, [] => [cur.reverse]
  | cur, c :: rest => if p c then runsFrom p (c :: cur) rest else cur.reverse :: runsFrom p [] rest

/-- `set(re.findall(r"[a-z0-9_]{3,}", text))`. -/
def terms (t : Text) : List Text :=
  ((runsFrom (fun c => c.isLower || c.isDigit || c == '_') [] t).filter fun r => 3 ≤ r.length).dedup

/-! ## What is stripped -/

theorem lstrip_eq_self {t : Text} (h : ∀ c ∈ t.head?, isSpace c = false) : lstrip t = t := by
  cases t with
  | nil => rfl
  | cons c t => rw [lstrip, List.dropWhile_cons, h c rfl, if_neg Bool.false_ne_true]

theorem rstrip_eq_self {t : Text} (h : ∀ c ∈ t.getLast?, isSpace c = false) : rstrip t = t := by
  have hreverse := lstrip_eq_self (t := t.reverse) (by simpa using h)
  rw [rstrip]
  rw [lstrip] at hreverse
  rw [hreverse, List.reverse_reverse]

theorem head_lstrip (t : Text) : ∀ c ∈ (lstrip t).head?, isSpace c = false := by
  intro c hc
  have := List.head?_dropWhile_not isSpace t
  rw [lstrip, Option.mem_def] at hc
  rw [hc] at this
  simpa using this

theorem getLast_rstrip (t : Text) : ∀ c ∈ (rstrip t).getLast?, isSpace c = false := by
  rw [rstrip, List.getLast?_reverse]
  exact head_lstrip t.reverse

/-- What is stripped has no white space at either end. -/
theorem head_strip (t : Text) : ∀ c ∈ (strip t).head?, isSpace c = false := by
  have hpre : strip t <+: lstrip t := by
    have hsuffix : (lstrip t).reverse.dropWhile isSpace <:+ (lstrip t).reverse := List.dropWhile_suffix _
    have := List.reverse_prefix.2 hsuffix
    rwa [List.reverse_reverse] at this
  intro c hc
  obtain ⟨rest, hrest⟩ := hpre
  refine head_lstrip t c ?_
  rw [← hrest, List.head?_append, Option.mem_def.1 hc]
  rfl

/-- A text without white space at its ends is what is stripped of it. -/
theorem strip_eq_self {t : Text} (hhead : ∀ c ∈ t.head?, isSpace c = false) (hlast : ∀ c ∈ t.getLast?, isSpace c = false) :
    strip t = t := by
  rw [strip, lstrip_eq_self hhead, rstrip_eq_self hlast]

@[simp] theorem strip_strip (t : Text) : strip (strip t) = strip t :=
  strip_eq_self (head_strip t) (getLast_rstrip _)

/-- A text with white space behind it. -/
theorem strip_append_spaces {t s : Text} (hs : ∀ c ∈ s, isSpace c = true) (hne : t ≠ [])
    (hhead : ∀ c ∈ t.head?, isSpace c = false) (hlast : ∀ c ∈ t.getLast?, isSpace c = false) : strip (t ++ s) = t := by
  have hleft : lstrip (t ++ s) = t ++ s := by
    refine lstrip_eq_self fun c hc => ?_
    rw [List.head?_append_of_ne_nil _ hne] at hc
    exact hhead c hc
  have hdrop : (s.reverse ++ t.reverse).dropWhile isSpace = t.reverse.dropWhile isSpace :=
    List.dropWhile_append_of_pos fun c hc => hs c (List.mem_reverse.1 hc)
  rw [strip, hleft, rstrip, List.reverse_append, hdrop]
  exact rstrip_eq_self hlast

/-- A text that opens with no white space is not blank. -/
theorem strip_ne_nil {t : Text} {c : Char} (hhead : t.head? = some c) (hc : isSpace c = false) : strip t ≠ [] := by
  have hleft : lstrip t = t := by
    refine lstrip_eq_self ?_
    rw [hhead]
    rintro d ⟨⟩
    exact hc
  rw [strip, hleft, rstrip, Ne, List.reverse_eq_nil_iff, List.dropWhile_eq_nil_iff]
  intro hall
  have := hall c (List.mem_reverse.2 (List.mem_of_head? hhead))
  rw [hc] at this
  cases this

theorem splitlinesFrom_line {line : Text} (h : ∀ c ∈ line, isLineBreak c = false) (done rest : Text) :
    splitlinesFrom false done (line ++ rest) = splitlinesFrom false (line.reverse ++ done) rest := by
  induction line generalizing done with
  | nil => rfl
  | cons c line ih =>
    rw [List.cons_append, splitlinesFrom, if_neg (by simp), h c List.mem_cons_self, if_neg Bool.false_ne_true,
      ih (fun d hd => h d (List.mem_cons_of_mem _ hd)), List.reverse_cons, List.append_assoc]
    rfl

/-- A text without a line boundary is one line. -/
theorem splitlines_line {line : Text} (h : ∀ c ∈ line, isLineBreak c = false) (hne : line ≠ []) : splitlines line = [line] := by
  have hline := splitlinesFrom_line h [] []
  rw [List.append_nil, List.append_nil] at hline
  rw [splitlines, hline, splitlinesFrom, if_neg (by simpa using hne), List.reverse_reverse]

/-- The first line of a text, and what is left. -/
theorem splitlines_break {line : Text} (h : ∀ c ∈ line, isLineBreak c = false) {c : Char} (hc : isLineBreak c = true) (rest : Text) :
    splitlines (line ++ c :: rest) = line :: splitlinesFrom (c == '\r') [] rest := by
  rw [splitlines, splitlinesFrom_line h, splitlinesFrom, if_neg (by simp), if_pos hc, List.append_nil, List.reverse_reverse]

theorem strip_of_noSpace {t : Text} (h : ∀ c ∈ t, isSpace c = false) : strip t = t :=
  strip_eq_self (fun c hc => h c (List.mem_of_mem_head? hc)) fun c hc => h c (List.mem_of_getLast? hc)

/-! ## Bytes -/

/-- `text.encode("utf-8")`. -/
def encodeUtf8 (t : Text) : List UInt8 := (String.ofList t).toUTF8.data.toList

/-- `payload.decode("utf-8")`. -/
def decodeUtf8 (bytes : List UInt8) : Option Text := (String.fromUTF8? ⟨bytes.toArray⟩).map String.toList

theorem decodeUtf8_encodeUtf8 (t : Text) : decodeUtf8 (encodeUtf8 t) = some t := by
  have hbytes : (⟨(encodeUtf8 t).toArray⟩ : ByteArray) = (String.ofList t).toUTF8 := rfl
  have hvalid : (String.ofList t).toUTF8.IsValidUTF8 := (String.ofList t).isValidUTF8
  rw [decodeUtf8, hbytes, String.fromUTF8?, dif_pos hvalid, Option.map_some]
  exact congrArg some String.toList_ofList

theorem length_encodeUtf8 (t : Text) : (encodeUtf8 t).length = utf8Len t := by
  have hsize : (encodeUtf8 t).length = (String.ofList t).utf8ByteSize := rfl
  rw [hsize]
  induction t with
  | nil => rfl
  | cons c t ih =>
    have hc : (String.ofList [c]).utf8ByteSize = c.utf8Size := by
      rw [← String.size_toByteArray, String.toByteArray_ofList, List.utf8Encode_singleton, List.size_toByteArray,
        String.length_utf8EncodeChar]
    rw [← List.singleton_append, String.ofList_append, String.utf8ByteSize_append, ih rfl, hc, utf8Len_append]
    simp

/-- A text in ASCII has a byte for each character. -/
theorem utf8Len_of_ascii {t : Text} (h : ∀ c ∈ t, c.toNat < 128) : utf8Len t = t.length := by
  induction t with
  | nil => rfl
  | cons c t ih =>
    have hsize : c.utf8Size = 1 := Char.utf8Size_eq_one_iff.2 (Nat.le_of_lt_succ (h c List.mem_cons_self))
    rw [utf8Len_cons, hsize, ih fun d hd => h d (List.mem_cons_of_mem _ hd), List.length_cons, Nat.add_comm]

/-! ## Letters of ASCII -/

theorem toLower_cases (c : Char) : c.toLower = c ∨ (65 ≤ c.toNat ∧ c.toNat ≤ 90 ∧ c.toLower.toNat = c.toNat + 32) := by
  unfold Char.toLower
  split
  · rename_i h
    right
    have h1 : 65 ≤ c.toNat := h.1
    have h2 : c.toNat ≤ 90 := h.2
    refine ⟨h1, h2, ?_⟩
    show (c.val + 32).toNat = c.val.toNat + 32
    rw [UInt32.toNat_add]
    have : c.val.toNat ≤ 90 := h2
    show (c.val.toNat + 32) % 2 ^ 32 = _
    omega
  · exact Or.inl rfl

theorem isSpace_toLower (c : Char) : isSpace c.toLower = isSpace c := by
  rcases toLower_cases c with h | ⟨hlow, hhigh, h⟩
  · rw [h]
  · have hspace : ∀ n ≤ 25, isSpace (Char.ofNat (65 + n)).toLower = isSpace (Char.ofNat (65 + n)) := by decide
    have hc := hspace (c.toNat - 65) (by omega)
    rwa [Nat.add_sub_cancel' hlow, Char.ofNat_toNat] at hc

theorem toLower_toLower (c : Char) : c.toLower.toLower = c.toLower := by
  rcases toLower_cases c.toLower with h | ⟨hlow, hhigh, -⟩
  · exact h
  · rcases toLower_cases c with h | ⟨_, _, h⟩
    · rw [h, h]
    · omega

@[simp] theorem toLower_comp : Char.toLower ∘ Char.toLower = Char.toLower := funext toLower_toLower

theorem strip_map_toLower (t : Text) : strip (t.map Char.toLower) = (strip t).map Char.toLower := by
  have hspace : isSpace ∘ Char.toLower = isSpace := funext isSpace_toLower
  simp only [strip, rstrip, lstrip, List.dropWhile_map, hspace, ← List.map_reverse]

end PyText
