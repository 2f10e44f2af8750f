import PromptRail.Library.Codec
import PromptRail.Library.JsonText

/-!
# JSON over code points

`document` is `json.loads` over code points, halves of surrogate pairs among them, which a string of JSON may hold. The limits on the
digits of an integer and on the depth of nesting are none of it. What a reader has taken of a text is a piece that it takes wherever
the piece stands (`readValue_piece`), so that a document which is an object or an array goes on with nothing but white space
(`document_append`).
-/

namespace JsonCodes

open Codec (Codes isHigh isLow joined)

/-- A value; numbers and constants are those of `Json`. -/
inductive Value where
  | scalar (v : Json.Value)
  | str (s : Codes)
  | arr (xs : List Value)
  | obj (fields : List (Codes × Value))

/-- `isinstance(value, dict | list)`. -/
def Value.isContainer : Value → Bool
  | .arr _ | .obj _ => true
  | .scalar _ | .str _ => false

/-! ## Strings -/

/-- The digits of `\uXXXX`. -/
def hex4 (a b c d : Nat) : Option Nat := do
  let a ← Json.hexValue? (Char.ofNat a)
  let b ← Json.hexValue? (Char.ofNat b)
  let c ← Json.hexValue? (Char.ofNat c)
  let d ← Json.hexValue? (Char.ofNat d)
  return ((a * 16 + b) * 16 + c) * 16 + d

/-- An escape of one letter. -/
def letterEscape (e : Nat) : Option Nat := (Json.escapes.find? fun p => p.1.toNat == e).map (·.2.toNat)

/-- The code points of a string, after its opening quote, each with whether `\uXXXX` spells it. -/
def readString : Codes → Option (List (Nat × Bool) × Codes)
  | [] => none
  | c :: rest =>
    if c = 34 then some ([], rest)
    else if c = 92 then
      match rest with
      | [] => none
      | e :: rest =>
        if e = 117 then
          match rest with
          | a :: b :: c :: d :: rest => do
            let n ← hex4 a b c d
            let (s, t) ← readString rest
            return ((n, true) :: s, t)
          | _ => none
        else do
          let n ← letterEscape e
          let (s, t) ← readString rest
          return ((n, false) :: s, t)
    else if c < 32 then none
    else do
      let (s, t) ← readString rest
      return ((c, false) :: s, t)

/-- A high surrogate is joined to the low one behind it where escapes spell both. -/
def joinPairs : List (Nat × Bool) → Codes
  | [] => []
  | [(n, _)] => [n]
  | (n, e) :: (m, e') :: rest =>
    if e && e' && isHigh n && isLow m then joined n m :: joinPairs rest else n :: joinPairs ((m, e') :: rest)

/-- An escaped pair of surrogates is one code point of a string, and half of one may stand alone. -/
example : (readString ("\\ud83d\\ude00\\ud83d\"]".toList.map Char.toNat)).map (fun r => (joinPairs r.1, r.2)) =
    some ([128512, 55357], [93]) := by decide +kernel

/-! ## Values -/

/-- `[ \t\n\r]`. -/
def isWhite (c : Nat) : Bool := c == 32 || c == 9 || c == 10 || c == 13

def skipWhite (t : Codes) : Codes := t.dropWhile isWhite

/-- What the text goes on with, after a code point that must stand there. -/
def expect (c : Nat) : Codes → Option Codes
  | [] => none
  | d :: rest => if d = c then some rest else none

/-- The code points a number is spelled with. -/
def isNumberCode (c : Nat) : Bool := (48 ≤ c && c ≤ 57) || c == 43 || c == 45 || c == 46 || c == 69 || c == 101

/-- A number: a run that is a number only in part is followed by no separator, so that nothing is read of it. -/
def readNumber (t : Codes) : Option (Value × Codes) :=
  match Json.readNumber ((t.takeWhile isNumberCode).map Char.ofNat) with
  | some (v, []) => some (.scalar v, t.dropWhile isNumberCode)
  | _ => none

/-- A word of JSON or of Python, by its first letter. -/
def readConstant : Codes → Option (Value × Codes)
  | [] => none
  | c :: rest => do
    let (word, v) ← Json.constants.find? fun p => p.1.head?.map Char.toNat == some c
    if word.map Char.toNat <+: c :: rest then some (.scalar v, (c :: rest).drop word.length) else none

/-- A number or a constant. -/
def readScalar (t : Codes) : Option (Value × Codes) := (readNumber t).or (readConstant t)

/-- The items of an array or of an object that is not empty, from the first one on. -/
def readItems {α : Type} (close : Nat) (read : Codes → Option (α × Codes)) : Nat → Codes → Option (List α × Codes)
  | 0, _ => none
  | fuel + 1, t => do
    let (x, t) ← read t
    match expect 44 (skipWhite t) with
    | some t => do
      let (xs, t) ← readItems close read fuel (skipWhite t)
      return (x :: xs, t)
    | none => do
      let t ← expect close (skipWhite t)
      return ([x], t)

/-- The items of an array or of an object, after its opening bracket. -/
def readAll {α : Type} (close : Nat) (read : Codes → Option (α × Codes)) (fuel : Nat) (t : Codes) : Option (List α × Codes) :=
  match expect close (skipWhite t) with
  | some t => some ([], t)
  | none => readItems close read fuel (skipWhite t)

/-- One field of an object. -/
def readField (read : Codes → Option (Value × Codes)) (t : Codes) : Option ((Codes × Value) × Codes) := do
  let t ← expect 34 t
  let (name, t) ← readString t
  let t ← expect 58 (skipWhite t)
  let (x, t) ← read (skipWhite t)
  return ((joinPairs name, x), t)

/-- `d[name] = value`. -/
def setField : List (Codes × Value) → Codes → Value → List (Codes × Value)
  | [], name, v => [(name, v)]
  | (name', v') :: fields, name, v =>
    if name' = name then (name, v) :: fields else (name', v') :: setField fields name v

/-- `dict(pairs)`: of two fields of one name the later one counts. -/
def ofPairs (pairs : List (Codes × Value)) : List (Codes × Value) := pairs.foldl (fun fields p => setField fields p.1 p.2) []

/-- A value, from its first code point on. -/
def readValue : Nat → Codes → Option (Value × Codes)
  | 0, _ => none
  | _ + 1, [] => none
  | fuel + 1, c :: rest =>
    if c = 34 then do
      let (s, t) ← readString rest
      return (.str (joinPairs s), t)
    else if c = 91 then do
      let (xs, t) ← readAll 93 (readValue fuel) (fuel + 1) rest
      return (.arr xs, t)
    else if c = 123 then do
      let (fields, t) ← readAll 125 (readField (readValue fuel)) (fuel + 1) rest
      return (.obj (ofPairs fields), t)
    else readScalar (c :: rest)

/-- `json.loads`. -/
def document (t : Codes) : Option Value := do
  let (v, rest) ← readValue (t.length + 1) (skipWhite t)
  if skipWhite rest = [] then some v else none

/-! ## Pieces -/

/-- Nothing that continues a number stands in front. -/
def Stops (t : Codes) : Prop := ∀ c ∈ t.head?, isNumberCode c = false

theorem stops_cons {c : Nat} {t : Codes} (h : isNumberCode c = false) : Stops (c :: t) := by
  intro d hd
  obtain rfl := Option.some.inj hd
  exact h

theorem not_number_of_white {c : Nat} (h : isWhite c = true) : isNumberCode c = false := by
  simp only [isWhite, Bool.or_eq_true, beq_iff_eq] at h
  rcases h with ((rfl | rfl) | rfl) | rfl <;> rfl

theorem expect_eq_some {c : Nat} {t rest : Codes} : expect c t = some rest ↔ t = c :: rest := by
  cases t with
  | nil => simp [expect]
  | cons d t =>
    rw [expect]
    split
    · rename_i h
      subst h
      simp
    · rename_i h
      simp [h]

/-- A text is the white space in front of it and what follows that. -/
theorem skipWhite_split (t : Codes) : ∃ w, t = w ++ skipWhite t ∧ ∀ c ∈ w, isWhite c = true :=
  ⟨t.takeWhile isWhite, List.takeWhile_append_dropWhile.symm, fun _ hc => List.mem_takeWhile_imp hc⟩

theorem skipWhite_append {w t : Codes} (h : ∀ c ∈ w, isWhite c = true) : skipWhite (w ++ t) = skipWhite t :=
  List.dropWhile_append_of_pos h

theorem skipWhite_cons {c : Nat} {t : Codes} (h : isWhite c = false) : skipWhite (c :: t) = c :: t := by
  rw [skipWhite, List.dropWhile_cons, if_neg (by simp [h])]

/-- What is left by `skipWhite` opens with no white space. -/
theorem white_of_skipWhite {t rest : Codes} {c : Nat} (h : skipWhite t = c :: rest) : isWhite c = false := by
  have hhead := List.head?_dropWhile_not isWhite t
  have hfront : t.dropWhile isWhite = c :: rest := h
  rw [hfront] at hhead
  simpa using hhead

/-- White space and a separator stop a number. -/
theorem stops_white {w t : Codes} {c : Nat} (hw : ∀ d ∈ w, isWhite d = true) (hc : isNumberCode c = false) : Stops (w ++ c :: t) := by
  cases w with
  | nil => exact stops_cons hc
  | cons d w => exact stops_cons (not_number_of_white (hw d List.mem_cons_self))

/-- A separator that is met behind white space. -/
theorem expect_skipWhite {c : Nat} {t rest : Codes} (h : expect c (skipWhite t) = some rest) :
    ∃ w, t = w ++ c :: rest ∧ (∀ d ∈ w, isWhite d = true) ∧ isWhite c = false := by
  obtain ⟨w, hsplit, hw⟩ := skipWhite_split t
  have hrest := expect_eq_some.1 h
  exact ⟨w, by rw [← hrest]; exact hsplit, hw, white_of_skipWhite hrest⟩

theorem expect_white {w t : Codes} {c : Nat} (hw : ∀ d ∈ w, isWhite d = true) (hc : isWhite c = false) (d : Nat) :
    expect d (skipWhite (w ++ c :: t)) = if c = d then some t else none := by
  rw [skipWhite_append hw, skipWhite_cons hc, expect]

/-- What a reader has taken of a text it takes wherever that stands, with fuel for each code point of it. -/
def TakesPieces {α : Type} (read : Codes → Option (α × Codes)) (read' : Nat → Codes → Option (α × Codes)) : Prop :=
  ∀ t x rest, read t = some (x, rest) → Stops rest →
    ∃ p, p ≠ [] ∧ t = p ++ rest ∧ ∀ fuel, p.length ≤ fuel → ∀ u, Stops u → read' fuel (p ++ u) = some (x, u)

theorem readString_piece {t rest : Codes} {s : List (Nat × Bool)} (h : readString t = some (s, rest)) :
    ∃ p, p ≠ [] ∧ t = p ++ rest ∧ ∀ u, readString (p ++ u) = some (s, u) := by
  fun_induction readString t generalizing s with
  | case1 => cases h
  | case2 =>
    cases h
    refine ⟨[34], List.cons_ne_nil _ _, rfl, fun u => ?_⟩
    simp [readString.eq_def (34 :: u)]
  | case3 => cases h
  | case4 a b c d t hquote ih =>
    obtain ⟨n, hn, h⟩ := Option.bind_eq_some_iff.1 h
    obtain ⟨⟨s', t'⟩, hs, h⟩ := Option.bind_eq_some_iff.1 h
    cases h
    obtain ⟨p, -, hsplit, hread⟩ := ih hs
    refine ⟨92 :: 117 :: a :: b :: c :: d :: p, List.cons_ne_nil _ _, by rw [hsplit]; rfl, fun u => ?_⟩
    simp [readString.eq_def (92 :: _), hn, hread]
  | case5 => cases h
  | case6 e t hletter hquote ih =>
    obtain ⟨n, hn, h⟩ := Option.bind_eq_some_iff.1 h
    obtain ⟨⟨s', t'⟩, hs, h⟩ := Option.bind_eq_some_iff.1 h
    cases h
    obtain ⟨p, -, hsplit, hread⟩ := ih hs
    refine ⟨92 :: e :: p, List.cons_ne_nil _ _, by rw [hsplit]; rfl, fun u => ?_⟩
    simp [readString.eq_def (92 :: _), hletter, hn, hread]
  | case7 => cases h
  | case8 c t hquote hslash hcontrol ih =>
    obtain ⟨⟨s', t'⟩, hs, h⟩ := Option.bind_eq_some_iff.1 h
    cases h
    obtain ⟨p, -, hsplit, hread⟩ := ih hs
    refine ⟨c :: p, List.cons_ne_nil _ _, by rw [hsplit]; rfl, fun u => ?_⟩
    simp [readString.eq_def (c :: _), hquote, hslash, hcontrol, hread]

/-- The part of a text that spells a number ends where the text stops a number. -/
theorem takeWhile_number {p u : Codes} (hp : ∀ c ∈ p, isNumberCode c = true) (hu : Stops u) :
    (p ++ u).takeWhile isNumberCode = p ∧ (p ++ u).dropWhile isNumberCode = u := by
  have hnone : u.takeWhile isNumberCode = [] ∧ u.dropWhile isNumberCode = u := by
    cases u with
    | nil => exact ⟨rfl, rfl⟩
    | cons c u =>
      have hc := hu c rfl
      simp [hc]
  rw [List.takeWhile_append_of_pos hp, List.dropWhile_append_of_pos hp, hnone.1, hnone.2, List.append_nil]
  exact ⟨rfl, rfl⟩

theorem readNumber_nil : Json.readNumber [] = none := rfl

theorem readNumber_takes : TakesPieces readNumber fun _ => readNumber := by
  intro t v rest h hrest
  obtain ⟨p, hp⟩ : ∃ p, p = t.takeWhile isNumberCode := ⟨_, rfl⟩
  have hall : ∀ c ∈ p, isNumberCode c = true := by
    rw [hp]
    exact fun c hc => List.mem_takeWhile_imp hc
  rw [readNumber, ← hp] at h
  split at h
  · rename_i w hnumber
    cases h
    refine ⟨p, ?_, ?_, fun _ _ u hu => ?_⟩
    · rintro rfl
      cases hnumber.symm.trans readNumber_nil
    · rw [hp]
      exact List.takeWhile_append_dropWhile.symm
    · show readNumber (p ++ u) = some (.scalar w, u)
      rw [readNumber, (takeWhile_number hall hu).1, (takeWhile_number hall hu).2, hnumber]
  · cases h

/-- A word holds a letter that is none of a number. -/
theorem constants_word : ∀ p ∈ Json.constants, p.1 ≠ [] ∧ (p.1.map Char.toNat).all isNumberCode = false := by
  decide

/-- A word is found by its first letter. -/
theorem readConstant_piece {t rest : Codes} {v : Value} (h : readConstant t = some (v, rest)) :
    ∃ p, p ≠ [] ∧ t = p ++ rest ∧ p.all isNumberCode = false ∧ ∀ u, readConstant (p ++ u) = some (v, u) := by
  cases t with
  | nil => cases h
  | cons c t =>
    obtain ⟨⟨word, w⟩, hfound, h⟩ := Option.bind_eq_some_iff.1 h
    dsimp only at h
    split at h
    · rename_i hfront
      cases h
      obtain ⟨hne, hletters⟩ := constants_word _ (List.mem_of_find?_eq_some hfound)
      obtain ⟨rest, hsplit⟩ := hfront
      have hlength : (word.map Char.toNat).length = word.length := List.length_map ..
      have hdrop : ∀ u, (word.map Char.toNat ++ u).drop word.length = u := by
        intro u
        rw [← hlength, List.drop_left]
      have hrest : (c :: t).drop word.length = rest := by rw [← hsplit, hdrop]
      rw [hrest]
      refine ⟨word.map Char.toNat, by simpa using hne, hsplit.symm, hletters, fun u => ?_⟩
      have hhead := List.find?_some hfound
      cases word with
      | nil => exact absurd rfl hne
      | cons d word =>
        obtain rfl : d.toNat = c := by simpa using hhead
        have hagain := hdrop u
        rw [List.map_cons, List.cons_append] at hagain ⊢
        rw [readConstant, hfound]
        simp only [bind, Option.bind]
        rw [if_pos ⟨u, rfl⟩, hagain]
    · cases h

/-- Whether a number is read is settled by the run of codes a number is spelled with. -/
theorem readNumber_eq_none {t t' : Codes} (hrun : t.takeWhile isNumberCode = t'.takeWhile isNumberCode) (h : readNumber t = none) :
    readNumber t' = none := by
  rw [readNumber, hrun] at h
  rw [readNumber]
  split at h
  · cases h
  · rfl

theorem readScalar_takes : TakesPieces readScalar fun _ => readScalar := by
  intro t v rest h hrest
  rcases Option.or_eq_some_iff.1 h with hnumber | ⟨hnone, hconstant⟩
  · obtain ⟨p, hne, hsplit, hread⟩ := readNumber_takes t v rest hnumber hrest
    refine ⟨p, hne, hsplit, fun fuel hfuel u hu => ?_⟩
    have hagain : readNumber (p ++ u) = some (v, u) := hread fuel hfuel u hu
    show (readNumber (p ++ u)).or (readConstant (p ++ u)) = some (v, u)
    rw [hagain, Option.some_or]
  · obtain ⟨p, hne, rfl, hletters, hread⟩ := readConstant_piece hconstant
    refine ⟨p, hne, rfl, fun fuel _ u _ => ?_⟩
    have hrun : ∀ u, (p ++ u).takeWhile isNumberCode = p.takeWhile isNumberCode := by
      intro u
      rw [List.takeWhile_append, if_neg]
      intro hlength
      have hwhole : p.takeWhile isNumberCode = p := (List.takeWhile_prefix _).eq_of_length hlength
      rw [List.takeWhile_eq_self_iff] at hwhole
      exact Bool.false_ne_true (hletters.symm.trans (List.all_eq_true.2 hwhole))
    show (readNumber (p ++ u)).or (readConstant (p ++ u)) = some (v, u)
    rw [readNumber_eq_none ((hrun rest).trans (hrun u).symm) hnone, hread u, Option.none_or]

theorem readScalar_not_container {t rest : Codes} {v : Value} (h : readScalar t = some (v, rest)) : v.isContainer = false := by
  rcases Option.or_eq_some_iff.1 h with hnumber | ⟨-, hconstant⟩
  · rw [readNumber] at hnumber
    split at hnumber
    · cases hnumber
      rfl
    · cases hnumber
  · cases t with
    | nil => cases hconstant
    | cons c t =>
      obtain ⟨_, -, hconstant⟩ := Option.bind_eq_some_iff.1 hconstant
      dsimp only at hconstant
      split at hconstant
      · cases hconstant
        rfl
      · cases hconstant

/-- The items of an array or of an object and their closing bracket. -/
theorem readItems_piece {α : Type} {close : Nat} (hclose : close = 93 ∨ close = 125) {read : Codes → Option (α × Codes)}
    {read' : Nat → Codes → Option (α × Codes)} (hread : TakesPieces read read') {n : Nat} {t rest : Codes} {xs : List α}
    (h : readItems close read n t = some (xs, rest)) :
    ∃ p, p ≠ [] ∧ t = p ++ close :: rest ∧ ∀ fuel n', p.length ≤ fuel → p.length ≤ n' →
      ∀ u, readItems close (read' fuel) n' (p ++ close :: u) = some (xs, u) := by
  have hnumber : isNumberCode close = false := by rcases hclose with rfl | rfl <;> rfl
  have hcomma : close ≠ 44 := by rcases hclose with rfl | rfl <;> decide
  induction n generalizing t xs with
  | zero => cases h
  | succ n ih =>
    obtain ⟨⟨x, t'⟩, hfirst, h⟩ := Option.bind_eq_some_iff.1 h
    dsimp only at h
    split at h
    · rename_i t'' hnext
      obtain ⟨⟨xs', t₃⟩, hlater, h⟩ := Option.bind_eq_some_iff.1 h
      cases h
      obtain ⟨w, rfl, hw, hwhite⟩ := expect_skipWhite hnext
      obtain ⟨p, hne, rfl, hp⟩ := hread _ _ _ hfirst (stops_white hw rfl)
      obtain ⟨gap, hgap, hgapWhite⟩ := skipWhite_split t''
      obtain ⟨q, hqne, hq, hqread⟩ := ih hlater
      have hskip : ∀ u, skipWhite (gap ++ (q ++ u)) = q ++ u := by
        intro u
        cases q with
        | nil => exact absurd rfl hqne
        | cons c q => rw [skipWhite_append hgapWhite, List.cons_append, skipWhite_cons (white_of_skipWhite hq)]
      refine ⟨p ++ (w ++ 44 :: (gap ++ q)), by simp [hne], ?_, ?_⟩
      · rw [hgap, hq]
        simp
      · intro fuel n' hfuel hn' u
        simp only [List.length_append, List.length_cons] at hfuel hn'
        cases n' with
        | zero => omega
        | succ n' =>
          have htext : p ++ (w ++ 44 :: (gap ++ q)) ++ close :: u = p ++ (w ++ 44 :: (gap ++ (q ++ close :: u))) := by simp
          rw [htext, readItems, hp fuel (by omega) _ (stops_white hw rfl)]
          simp only [bind, Option.bind, expect_white hw hwhite, if_true, hskip]
          rw [hqread fuel n' (by omega) (by omega) u]
          rfl
    · obtain ⟨t'', hend, h⟩ := Option.bind_eq_some_iff.1 h
      cases h
      obtain ⟨w, rfl, hw, hwhite⟩ := expect_skipWhite hend
      obtain ⟨p, hne, rfl, hp⟩ := hread _ _ _ hfirst (stops_white hw hnumber)
      refine ⟨p ++ w, by simp [hne], by simp, ?_⟩
      intro fuel n' hfuel hn' u
      rw [List.length_append] at hfuel hn'
      have hpos := List.length_pos_iff.2 hne
      cases n' with
      | zero => omega
      | succ n' =>
        rw [List.append_assoc, readItems, hp fuel (by omega) _ (stops_white hw hnumber)]
        simp only [bind, Option.bind, expect_white hw hwhite, if_neg hcomma, if_true]
        rfl

/-- An array or an object, after its opening bracket. -/
theorem readAll_piece {α : Type} {close : Nat} (hclose : close = 93 ∨ close = 125) {read : Codes → Option (α × Codes)}
    {read' : Nat → Codes → Option (α × Codes)} (hread : TakesPieces read read') {n : Nat} {t rest : Codes} {xs : List α}
    (h : readAll close read n t = some (xs, rest)) :
    ∃ p, t = p ++ close :: rest ∧ ∀ fuel n', p.length ≤ fuel → p.length ≤ n' →
      ∀ u, readAll close (read' fuel) n' (p ++ close :: u) = some (xs, u) := by
  rw [readAll] at h
  split at h
  · rename_i t' hend
    cases h
    obtain ⟨w, rfl, hw, hwhite⟩ := expect_skipWhite hend
    refine ⟨w, rfl, fun fuel n' _ _ u => ?_⟩
    rw [readAll, expect_white hw hwhite, if_pos rfl]
  · rename_i hopen
    obtain ⟨w, hsplit, hw⟩ := skipWhite_split t
    obtain ⟨q, hne, hq, hread⟩ := readItems_piece hclose hread h
    refine ⟨w ++ q, by rw [List.append_assoc, ← hq]; exact hsplit, ?_⟩
    intro fuel n' hfuel hn' u
    rw [List.length_append] at hfuel hn'
    cases q with
    | nil => exact absurd rfl hne
    | cons c q =>
      have hskip : skipWhite (w ++ c :: q ++ close :: u) = c :: q ++ close :: u := by
        rw [List.append_assoc, skipWhite_append hw, List.cons_append, skipWhite_cons (white_of_skipWhite hq)]
      have hother : expect close (c :: q ++ close :: u) = none := by
        rw [hq, List.cons_append, expect] at hopen
        rw [List.cons_append, expect]
        split at hopen
        · cases hopen
        · rename_i hc
          rw [if_neg hc]
      rw [readAll, hskip, hother]
      exact hread fuel n' (by omega) (by omega) u

theorem readField_takes {read : Codes → Option (Value × Codes)} {read' : Nat → Codes → Option (Value × Codes)}
    (hread : TakesPieces read read') : TakesPieces (readField read) fun fuel => readField (read' fuel) := by
  intro t field rest h hrest
  obtain ⟨t₁, hquote, h⟩ := Option.bind_eq_some_iff.1 h
  obtain ⟨⟨name, t₂⟩, hname, h⟩ := Option.bind_eq_some_iff.1 h
  obtain ⟨t₃, hcolon, h⟩ := Option.bind_eq_some_iff.1 h
  obtain ⟨⟨v, t₄⟩, hvalue, h⟩ := Option.bind_eq_some_iff.1 h
  cases h
  obtain rfl := expect_eq_some.1 hquote
  obtain ⟨p, -, rfl, hp⟩ := readString_piece hname
  obtain ⟨w, rfl, hw, hwhite⟩ := expect_skipWhite hcolon
  obtain ⟨gap, hgap, hgapWhite⟩ := skipWhite_split t₃
  obtain ⟨q, hne, hq, hqread⟩ := hread _ _ _ hvalue hrest
  refine ⟨34 :: (p ++ (w ++ 58 :: (gap ++ q))), List.cons_ne_nil _ _, by rw [hgap, hq]; simp, ?_⟩
  intro fuel hfuel u hu
  simp only [List.length_cons, List.length_append] at hfuel
  have hskip : skipWhite (gap ++ (q ++ u)) = q ++ u := by
    cases q with
    | nil => exact absurd rfl hne
    | cons c q => rw [skipWhite_append hgapWhite, List.cons_append, skipWhite_cons (white_of_skipWhite hq)]
  have htext : 34 :: (p ++ (w ++ 58 :: (gap ++ q))) ++ u = 34 :: (p ++ (w ++ 58 :: (gap ++ (q ++ u)))) := by simp
  show readField (read' fuel) (34 :: (p ++ (w ++ 58 :: (gap ++ q))) ++ u) = some ((joinPairs name, v), u)
  rw [htext, readField, expect, if_pos rfl]
  simp only [bind, Option.bind, hp, expect_white hw hwhite, if_true, hskip, hqread fuel (by omega) u hu]
  rfl

/-- A value and its piece of the text; an array or an object is read in front of every text, and ends with its bracket. -/
theorem readValue_piece {fuel : Nat} {t rest : Codes} {v : Value} (h : readValue fuel t = some (v, rest))
    (hrest : v.isContainer = true ∨ Stops rest) :
    ∃ p, p ≠ [] ∧ t = p ++ rest ∧ (v.isContainer = true → p.getLast? = some 93 ∨ p.getLast? = some 125) ∧
      ∀ fuel', p.length ≤ fuel' → ∀ u, v.isContainer = true ∨ Stops u → readValue fuel' (p ++ u) = some (v, u) := by
  induction fuel generalizing t v rest with
  | zero => cases h
  | succ fuel ih =>
    have htakes : TakesPieces (readValue fuel) readValue := by
      intro t v rest hvalue hstop
      obtain ⟨p, hne, hsplit, -, hread⟩ := ih hvalue (Or.inr hstop)
      exact ⟨p, hne, hsplit, fun fuel' hfuel' u hu => hread fuel' hfuel' u (Or.inr hu)⟩
    cases t with
    | nil => cases h
    | cons c t =>
      rw [readValue] at h
      split at h
      · rename_i hquote
        subst hquote
        obtain ⟨⟨s, t'⟩, hstring, h⟩ := Option.bind_eq_some_iff.1 h
        cases h
        obtain ⟨p, -, rfl, hp⟩ := readString_piece hstring
        refine ⟨34 :: p, List.cons_ne_nil _ _, rfl, fun hfalse => (nomatch hfalse), ?_⟩
        intro fuel' hfuel' u _
        cases fuel' with
        | zero => cases hfuel'
        | succ fuel' =>
          rw [List.cons_append, readValue, if_pos rfl, hp]
          rfl
      split at h
      · rename_i hquote hopen
        subst hopen
        obtain ⟨⟨xs, t'⟩, hall, h⟩ := Option.bind_eq_some_iff.1 h
        cases h
        obtain ⟨p, rfl, hp⟩ := readAll_piece (Or.inl rfl) htakes hall
        refine ⟨91 :: p ++ [93], by simp, by simp, fun _ => Or.inl List.getLast?_concat, ?_⟩
        intro fuel' hfuel' u _
        simp only [List.length_cons, List.length_append, List.length_nil] at hfuel'
        cases fuel' with
        | zero => omega
        | succ fuel' =>
          rw [List.append_assoc, List.singleton_append, List.cons_append, readValue, if_neg (by decide), if_pos rfl,
            hp fuel' (fuel' + 1) (by omega) (by omega)]
          rfl
      split at h
      · rename_i hquote hother hopen
        subst hopen
        obtain ⟨⟨fields, t'⟩, hall, h⟩ := Option.bind_eq_some_iff.1 h
        cases h
        obtain ⟨p, rfl, hp⟩ := readAll_piece (Or.inr rfl) (readField_takes htakes) hall
        refine ⟨123 :: p ++ [125], by simp, by simp, fun _ => Or.inr List.getLast?_concat, ?_⟩
        intro fuel' hfuel' u _
        simp only [List.length_cons, List.length_append, List.length_nil] at hfuel'
        cases fuel' with
        | zero => omega
        | succ fuel' =>
          rw [List.append_assoc, List.singleton_append, List.cons_append, readValue, if_neg (by decide), if_neg (by decide),
            if_pos rfl, hp fuel' (fuel' + 1) (by omega) (by omega)]
          rfl
      · rename_i hquote harray hobject
        have hscalar := readScalar_not_container h
        have hstops : ∀ {u : Codes}, v.isContainer = true ∨ Stops u → Stops u :=
          fun hu => hu.resolve_left (Bool.not_eq_true _ ▸ hscalar)
        obtain ⟨p, hne, hsplit, hread⟩ := readScalar_takes _ _ _ h (hstops hrest)
        refine ⟨p, hne, hsplit, fun htrue => absurd (htrue.symm.trans hscalar) Bool.noConfusion, ?_⟩
        intro fuel' hfuel' u hu
        cases p with
        | nil => exact absurd rfl hne
        | cons d p =>
          obtain rfl : c = d := (List.cons.inj hsplit).1
          cases fuel' with
          | zero => cases hfuel'
          | succ fuel' =>
            rw [List.cons_append, readValue, if_neg hquote, if_neg harray, if_neg hobject]
            exact hread (fuel' + 1) hfuel' u (hstops hu)

/-! ## Documents -/

/-- A document that is an array or an object: white space, the piece of its value, and white space. -/
theorem document_piece {t : Codes} {v : Value} (h : document t = some v) (hcontainer : v.isContainer = true) :
    ∃ w p tail, t = w ++ (p ++ tail) ∧ (∀ u, skipWhite (w ++ (p ++ u)) = p ++ u) ∧ (∀ c ∈ tail, isWhite c = true) ∧
      (p.getLast? = some 93 ∨ p.getLast? = some 125) ∧ ∀ fuel, p.length ≤ fuel → ∀ u, readValue fuel (p ++ u) = some (v, u) := by
  obtain ⟨⟨v', rest⟩, hvalue, h⟩ := Option.bind_eq_some_iff.1 h
  dsimp only at h
  split at h
  · rename_i hend
    cases h
    obtain ⟨w, hsplit, hw⟩ := skipWhite_split t
    obtain ⟨p, hne, hp, hlast, hread⟩ := readValue_piece hvalue (Or.inl hcontainer)
    refine ⟨w, p, rest, by rw [← hp]; exact hsplit, fun u => ?_, List.dropWhile_eq_nil_iff.1 hend, hlast hcontainer,
      fun fuel hfuel u => hread fuel hfuel u (Or.inl hcontainer)⟩
    cases p with
    | nil => exact absurd rfl hne
    | cons c p => rw [skipWhite_append hw, List.cons_append, skipWhite_cons (white_of_skipWhite hp)]
  · cases h

/-- The length of a text is fuel enough. -/
theorem document_of_readValue {fuel : Nat} {t rest : Codes} {v : Value} (h : readValue fuel (skipWhite t) = some (v, rest))
    (hend : skipWhite rest = []) : document t = some v := by
  have hwhite := List.dropWhile_eq_nil_iff.1 hend
  have hstops : Stops rest := fun c hc => not_number_of_white (hwhite c (List.mem_of_mem_head? hc))
  obtain ⟨p, -, hp, -, hread⟩ := readValue_piece h (Or.inr hstops)
  have hlength : (skipWhite t).length ≤ t.length := List.length_dropWhile_le isWhite t
  rw [hp, List.length_append] at hlength
  rw [document, hp, hread (t.length + 1) (by omega) rest (Or.inr hstops)]
  simp only [bind, Option.bind, if_pos hend]

/-- A document that is an array or an object goes on with white space only. -/
theorem document_append {t u : Codes} {v v' : Value} (h : document t = some v) (hcontainer : v.isContainer = true)
    (hlonger : document (t ++ u) = some v') : ∀ c ∈ u, isWhite c = true := by
  obtain ⟨w, p, tail, rfl, hskip, -, -, hread⟩ := document_piece h hcontainer
  have htext : w ++ (p ++ tail) ++ u = w ++ (p ++ (tail ++ u)) := by simp
  obtain ⟨⟨v'', rest⟩, hvalue, hlonger⟩ := Option.bind_eq_some_iff.1 hlonger
  rw [htext, hskip, hread _ (by simp only [List.length_append]; omega)] at hvalue
  cases hvalue
  dsimp only at hlonger
  split at hlonger
  · rename_i hend
    exact fun c hc => List.dropWhile_eq_nil_iff.1 hend c (List.mem_append_right tail hc)
  · cases hlonger

/-- A document that is an array or an object ends with a bracket or with white space. -/
theorem document_getLast {t : Codes} {v : Value} (h : document t = some v) (hcontainer : v.isContainer = true) :
    ∀ c ∈ t.getLast?, c < 128 := by
  obtain ⟨w, p, tail, rfl, -, htail, hlast, -⟩ := document_piece h hcontainer
  intro c hc
  rw [List.getLast?_append, List.getLast?_append] at hc
  cases htailLast : tail.getLast? with
  | none =>
    rw [htailLast] at hc
    rcases hlast with hlast | hlast
    all_goals
      rw [hlast] at hc
      cases hc
      decide
  | some d =>
    rw [htailLast] at hc
    cases hc
    have hwhite := htail c (List.mem_of_getLast? htailLast)
    simp only [isWhite, Bool.or_eq_true, beq_iff_eq] at hwhite
    omega

theorem readValue_nil (fuel : Nat) : readValue fuel [] = none := by cases fuel <;> rfl

theorem readScalar_zero (t : Codes) : readScalar (0 :: t) = none := by
  have hnumber : readNumber (0 :: t) = none := rfl
  have hconstant : readConstant (0 :: t) = none := rfl
  rw [readScalar, hnumber, hconstant, Option.or_none]

theorem readValue_zero (fuel : Nat) (t : Codes) : readValue fuel (0 :: t) = none := by
  cases fuel with
  | zero => rfl
  | succ fuel => rw [readValue, if_neg (by decide), if_neg (by decide), if_neg (by decide), readScalar_zero]

/-- An opening bracket is neither the last code nor in front of a NUL. -/
theorem readAll_front {α : Type} {close : Nat} {read : Codes → Option (α × Codes)} (hnil : read [] = none)
    (hzero : ∀ t, read (0 :: t) = none) (hclose : close ≠ 0) {n : Nat} {t : Codes} {r : List α × Codes}
    (h : readAll close read n t = some r) : t ≠ [] ∧ t.head? ≠ some 0 := by
  have hitems : ∀ t, read t = none → readItems close read n t = none := by
    intro t ht
    cases n with
    | zero => rfl
    | succ n => rw [readItems, ht]; rfl
  constructor
  · rintro rfl
    cases h.symm.trans (hitems [] hnil)
  · intro hhead
    obtain ⟨t', rfl⟩ := List.head?_eq_some_iff.1 hhead
    have hopen : expect close (skipWhite (0 :: t')) = none := by
      rw [skipWhite_cons rfl, expect, if_neg (Ne.symm hclose)]
    rw [readAll, hopen] at h
    cases h.symm.trans (hitems _ (hzero t'))

theorem readValue_front {fuel c : Nat} {t rest : Codes} {v : Value} (h : readValue fuel (c :: t) = some (v, rest))
    (hcontainer : v.isContainer = true) : (c = 91 ∨ c = 123) ∧ t ≠ [] ∧ t.head? ≠ some 0 := by
  cases fuel with
  | zero => cases h
  | succ fuel =>
    rw [readValue] at h
    split at h
    · obtain ⟨_, -, h⟩ := Option.bind_eq_some_iff.1 h
      cases h
      cases hcontainer
    split at h
    · rename_i hopen
      obtain ⟨_, hall, -⟩ := Option.bind_eq_some_iff.1 h
      exact ⟨Or.inl hopen, readAll_front (readValue_nil fuel) (readValue_zero fuel) (by decide) hall⟩
    split at h
    · rename_i hopen
      obtain ⟨_, hall, -⟩ := Option.bind_eq_some_iff.1 h
      exact ⟨Or.inr hopen, readAll_front rfl (fun _ => rfl) (by decide) hall⟩
    · rw [readScalar_not_container h] at hcontainer
      cases hcontainer

/-- A document that is an array or an object opens with white space or with a bracket, and the code after that is no NUL. -/
theorem document_front {c : Nat} {t : Codes} {v : Value} (h : document (c :: t) = some v) (hcontainer : v.isContainer = true) :
    (0 < c ∧ c < 128) ∧ t ≠ [] ∧ t.head? ≠ some 0 := by
  obtain ⟨⟨v', rest⟩, hvalue, h⟩ := Option.bind_eq_some_iff.1 h
  dsimp only at h
  split at h
  · cases h
    cases hwhite : isWhite c with
    | false =>
      rw [skipWhite_cons hwhite] at hvalue
      obtain ⟨hbracket, hnext⟩ := readValue_front hvalue hcontainer
      exact ⟨by omega, hnext⟩
    | true =>
      have hskip : skipWhite (c :: t) = skipWhite t := skipWhite_append (w := [c]) (List.forall_mem_singleton.2 hwhite)
      rw [hskip] at hvalue
      simp only [isWhite, Bool.or_eq_true, beq_iff_eq] at hwhite
      refine ⟨by omega, ?_, ?_⟩
      · rintro rfl
        cases hvalue.symm.trans (readValue_nil _)
      · intro hhead
        obtain ⟨t', rfl⟩ := List.head?_eq_some_iff.1 hhead
        rw [skipWhite_cons rfl, readValue_zero] at hvalue
        cases hvalue
  · cases h

end JsonCodes
