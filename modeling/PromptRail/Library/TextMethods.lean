import Mathlib.Data.List.DropRight
import PromptRail.Library.PyText

/-!
# Words, padding and lower case

More of the methods of Python's texts. `lower` is a table of the Unicode database: what is assumed of it is that a text of lowered
characters is left as it is, and that it makes no white space at the end of a text.
-/

namespace PyText

/-- `text.split()`, with the current word, reversed, in hand. -/
def splitFrom : Text → Text → List Text
  | word, [] => if word.isEmpty then [] else [word.reverse]
  | word, c :: rest =>
    if isSpace c then if word.isEmpty then splitFrom [] rest else word.reverse :: splitFrom [] rest else splitFrom (c :: word) rest

/-- `text.split()`. -/
def split (t : Text) : List Text := splitFrom [] t

/-- `text.removeprefix(part)`. -/
def removePrefix (part t : Text) : Text := if part <+: t then t.drop part.length else t

/-- `text.zfill(width)`: a sign stays in front of the zeros. -/
def zfill (width : Nat) (t : Text) : Text :=
  match t with
  | [] => List.replicate width '0'
  | c :: rest =>
    if c = '+' ∨ c = '-' then c :: (List.replicate (width - t.length) '0' ++ rest) else List.replicate (width - t.length) '0' ++ t

/-- `str.lower`. -/
structure LowerCase where
  lower : Text → Text
  lower_lowered : ∀ t : Text, (∀ c ∈ t, ∃ s, c ∈ lower s) → lower t = t
  lower_zero : lower ['0'] = ['0']
  getLast_lower : ∀ t : Text, (∀ c ∈ t.getLast?, isSpace c = false) → ∀ c ∈ (lower t).getLast?, isSpace c = false

theorem isInfix_strip (t : Text) : strip t <:+: t := by
  have hleft : lstrip t <:+ t := List.dropWhile_suffix _
  have hright : strip t <+: lstrip t := by
    have := List.reverse_prefix.2 (List.dropWhile_suffix (l := (lstrip t).reverse) isSpace)
    rwa [List.reverse_reverse] at this
  exact hright.isInfix.trans hleft.isInfix

/-- A text is left as it is by `strip` where no white space stands at its ends. -/
theorem strip_eq_self_iff {t : Text} :
    strip t = t ↔ (∀ c ∈ t.head?, isSpace c = false) ∧ ∀ c ∈ t.getLast?, isSpace c = false := by
  constructor
  · intro h
    rw [← h]
    exact ⟨head_strip t, getLast_rstrip _⟩
  · exact fun h => strip_eq_self h.1 h.2

theorem removePrefix_of_not {part t : Text} (h : ¬part <+: t) : removePrefix part t = t := if_neg h

theorem length_zfill (width : Nat) (t : Text) : (zfill width t).length = max width t.length := by
  cases t with
  | nil => simp [zfill]
  | cons c rest =>
    rw [zfill]
    split
    all_goals
      simp only [List.length_cons, List.length_append, List.length_replicate]
      omega

theorem zfill_of_le {width : Nat} {t : Text} (h : width ≤ t.length) : zfill width t = t := by
  cases t with
  | nil =>
    obtain rfl := Nat.le_zero.1 h
    rfl
  | cons c rest =>
    rw [zfill, Nat.sub_eq_zero_of_le h]
    split <;> rfl

/-- A text is padded with zeros in front of it or behind its sign. -/
theorem mem_zfill {width : Nat} {t : Text} {c : Char} (h : c ∈ zfill width t) : c = '0' ∨ c ∈ t := by
  cases t with
  | nil => exact Or.inl (List.eq_of_mem_replicate h)
  | cons d rest =>
    rw [zfill] at h
    split at h
    · rcases List.mem_cons.1 h with rfl | h
      · exact Or.inr List.mem_cons_self
      · rcases List.mem_append.1 h with h | h
        · exact Or.inl (List.eq_of_mem_replicate h)
        · exact Or.inr (List.mem_cons_of_mem d h)
    · rcases List.mem_append.1 h with h | h
      · exact Or.inl (List.eq_of_mem_replicate h)
      · exact Or.inr h

/-- Lower case where a text is in ASCII. -/
def asciiLower : LowerCase where
  lower := List.map Char.toLower
  lower_lowered t h := by
    refine (List.map_congr_left fun c hc => ?_).trans t.map_id
    obtain ⟨s, hs⟩ := h c hc
    obtain ⟨d, -, rfl⟩ := List.mem_map.1 hs
    exact toLower_toLower d
  lower_zero := rfl
  getLast_lower t h := by
    intro c hc
    rw [List.getLast?_map] at hc
    obtain ⟨d, hd, rfl⟩ := Option.map_eq_some_iff.1 hc
    rw [isSpace_toLower]
    exact h d hd

/-- The words of a text. -/
example : split " a\tbc ".toList = ["a".toList, "bc".toList] := by decide

/-- Zeros are put behind a sign. -/
example : zfill 4 "-7".toList = "-007".toList ∧ zfill 3 "x".toList = "00x".toList := by decide

end PyText
