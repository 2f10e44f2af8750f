import PromptRail.Library.JsonRoundTrip

/-!
# JSON in lines

`Style.write` is `json.dumps`, with or without `ensure_ascii`, and what it writes is read back wherever it stands. What is read is read
again where the text goes on (`readValue_append`), so that a text which is cut off inside an object is not read at all.
-/

namespace Json

open PyText

/-! ## Writing -/

/-- A property of each character of a given text is checked one by one. -/
theorem forall_mem_of_all {P : Char → Prop} [DecidablePred P] {s : Text} (h : s.all (fun c => decide (P c)) = true) : ∀ c ∈ s, P c :=
  fun c hc => of_decide_eq_true (List.all_eq_true.1 h c hc)

theorem hexDigit_bounds : ∀ n < 16, 32 ≤ (hexDigit n).toNat ∧ (hexDigit n).toNat < 127 := by decide

/-- A character that is escaped is in ASCII, and so is its escape. -/
theorem escape_ascii_cases (c : Char) : escape c = [c] ∧ 32 ≤ c.toNat ∨ ∀ d ∈ escape c, 32 ≤ d.toNat ∧ d.toNat < 127 := by
  unfold escape
  split
  · exact Or.inr (forall_mem_of_all (by decide))
  split
  · exact Or.inr (forall_mem_of_all (by decide))
  split
  · exact Or.inr (forall_mem_of_all (by decide))
  split
  · exact Or.inr (forall_mem_of_all (by decide))
  split
  · exact Or.inr (forall_mem_of_all (by decide))
  split
  · exact Or.inr (forall_mem_of_all (by decide))
  split
  · exact Or.inr (forall_mem_of_all (by decide))
  split
  · rename_i h
    have hhigh := hexDigit_bounds (c.toNat / 16) (by omega)
    have hlow := hexDigit_bounds (c.toNat % 16) (by omega)
    refine Or.inr ?_
    simp only [List.forall_mem_cons, List.not_mem_nil, false_imp_iff, implies_true, and_true]
    exact ⟨by decide, by decide, by decide, by decide, hhigh, hlow⟩
  · rename_i h
    exact Or.inl ⟨rfl, not_lt.1 h⟩

/-- `ensure_ascii=False`. -/
def Style.unicode : Style where
  char := escape
  reads c := by
    rcases escape_ascii_cases c with ⟨hsame, hcontrol⟩ | hascii
    · refine Or.inl ⟨hsame, ?_, ?_, hcontrol⟩ <;> rintro rfl <;> exact absurd hsame (by decide)
    · rw [← flatMap_toAscii_of_ascii fun d hd => (hascii d hd).2]
      exact escape_cases c

/-- A string. -/
def Style.quote (style : Style) (s : Text) : Text := '"' :: (s.flatMap style.char ++ ['"'])

mutual

/-- The text `json.dumps` writes. -/
def Style.write (style : Style) : Value → Text
  | .null => dumps .null
  | .bool b => dumps (.bool b)
  | .int n => dumps (.int n)
  | .float literal => dumps (.float literal)
  | .str s => style.quote s
  | .arr xs => '[' :: ([',', ' '].intercalate (style.writeList xs) ++ [']'])
  | .obj fs => '{' :: ([',', ' '].intercalate (style.writeFields fs) ++ ['}'])

/-- The elements of an array. -/
def Style.writeList (style : Style) : List Value → List Text
  | [] => []
  | x :: xs => style.write x :: style.writeList xs

/-- The fields of an object. -/
def Style.writeFields (style : Style) : Fields → List Text
  | [] => []
  | (k, v) :: fs => (style.quote k.toList ++ ':' :: ' ' :: style.write v) :: style.writeFields fs

end

variable {style : Style}

/-- The text of one field. -/
def Style.writeField (style : Style) (p : String × Value) : Text := style.quote p.1.toList ++ ':' :: ' ' :: style.write p.2

theorem writeList_eq (xs : List Value) : style.writeList xs = xs.map style.write := by
  induction xs with
  | nil => rfl
  | cons x xs ih => rw [Style.writeList, ih, List.map_cons]

theorem writeFields_eq (fs : Fields) : style.writeFields fs = fs.map style.writeField := by
  induction fs with
  | nil => rfl
  | cons p fs ih => rw [Style.writeFields, ih, List.map_cons, Style.writeField]

theorem write_arr (xs : List Value) : style.write (.arr xs) = '[' :: ([',', ' '].intercalate (xs.map style.write) ++ [']']) := by
  rw [Style.write, writeList_eq]

theorem write_obj (fs : Fields) : style.write (.obj fs) = '{' :: ([',', ' '].intercalate (fs.map style.writeField) ++ ['}']) := by
  rw [Style.write, writeFields_eq]

theorem writeField_eq (p : String × Value) :
    style.writeField p = '"' :: (p.1.toList.flatMap style.char ++ '"' :: ':' :: ' ' :: style.write p.2) := by
  simp [Style.writeField, Style.quote]

/-! ## Reading back -/

theorem write_opens {v : Value} (h : WellFormed v) : Opens (style.write v) := by
  cases h with
  | null => rw [Style.write]; exact opens_of_readScalar readScalar_null
  | bool b => rw [Style.write]; exact opens_of_readScalar (readScalar_bool b)
  | int n => rw [Style.write]; exact opens_of_readScalar (readScalar_int n)
  | float hfloat => rw [Style.write]; exact opens_of_readScalar (readScalar_float hfloat)
  | str s => exact ⟨_, _, by rw [Style.write, Style.quote], by decide⟩
  | arr _ => exact ⟨_, _, write_arr _, by decide⟩
  | obj _ _ => exact ⟨_, _, write_obj _, by decide⟩

/-- One field is read back. -/
theorem readField_write {p : String × Value} {read : Text → Option (Value × Text)} {rest : Text} {w : Value}
    (hopens : Opens (style.write p.2)) (hread : read (style.write p.2 ++ rest) = some (w, rest)) :
    readField read (style.writeField p ++ rest) = some ((p.1, w), rest) := by
  have hskip : skipWhite (' ' :: (style.write p.2 ++ rest)) = style.write p.2 ++ rest := skipWhite_opens hopens rest
  have hname := readString_text style p.1.toList (':' :: ' ' :: (style.write p.2 ++ rest))
  have htext : style.writeField p ++ rest =
      '"' :: (p.1.toList.flatMap style.char ++ '"' :: ':' :: ' ' :: (style.write p.2 ++ rest)) := by
    rw [writeField_eq]
    simp
  rw [htext, readField, expect, if_pos rfl]
  simp only [bind, Option.bind, hname, skipWhite_cons (c := ':') rfl, expect, if_true, hskip, hread]
  simp

/-- The separator of items. -/
theorem white_gap : ∀ c ∈ [' '], isWhite c = true := List.forall_mem_singleton.2 rfl

/-- A value that was written is read again. -/
theorem readValue_write {v : Value} (h : WellFormed v) {fuel : Nat} {rest : Text} (hfuel : (style.write v).length ≤ fuel)
    (hrest : Stops rest) : readValue fuel (style.write v ++ rest) = some (v, rest) := by
  induction h generalizing fuel rest with
  | null =>
    rw [Style.write] at hfuel ⊢
    exact readValue_scalar readScalar_null hfuel hrest
  | bool b =>
    rw [Style.write] at hfuel ⊢
    exact readValue_scalar (readScalar_bool b) hfuel hrest
  | int n =>
    rw [Style.write] at hfuel ⊢
    exact readValue_scalar (readScalar_int n) hfuel hrest
  | float hfloat =>
    rw [Style.write] at hfuel ⊢
    exact readValue_scalar (readScalar_float hfloat) hfuel hrest
  | str s =>
    rw [Style.write, Style.quote] at hfuel ⊢
    cases fuel with
    | zero => cases hfuel
    | succ fuel =>
      rw [List.cons_append, List.append_assoc, List.singleton_append, readValue, if_pos rfl, readString_text]
      rfl
  | @arr xs hxs ih =>
    rw [write_arr] at hfuel ⊢
    cases fuel with
    | zero => cases hfuel
    | succ fuel =>
      rw [List.length_cons, List.length_append, List.length_singleton] at hfuel
      rw [List.cons_append, List.append_assoc, List.singleton_append, readValue, if_neg (by decide), if_pos rfl]
      by_cases hne : xs = []
      · subst hne
        rfl
      have hopens : ∀ x ∈ xs, Opens (style.write x) := fun x hx => write_opens (hxs x hx)
      have hall : Opens ([',', ' '].intercalate (xs.map style.write)) :=
        intercalate_opens (by simpa using hne) (List.forall_mem_map.2 hopens)
      have hcount := count_le_intercalate [' '] (xs.map style.write)
      rw [List.length_map] at hcount
      have hread : ∀ x ∈ xs, ∀ rest, Stops rest → readValue fuel (style.write x ++ rest) = some (x, rest) := by
        intro x hx rest' hrest'
        have hlength := length_le_intercalate [',', ' '] (List.mem_map_of_mem (f := style.write) hx)
        exact ih x hx (by omega) hrest'
      have hcount' : xs.length ≤ fuel + 1 := by omega
      rw [skipWhite_opens hall, (expect_opens hall _).1,
        readItems_intercalate (Or.inl rfl) white_gap (readValue fuel) id hne hopens hread hcount' rest]
      simp
  | @obj fs hnodup hfs ih =>
    rw [write_obj] at hfuel ⊢
    cases fuel with
    | zero => cases hfuel
    | succ fuel =>
      rw [List.length_cons, List.length_append, List.length_singleton] at hfuel
      rw [List.cons_append, List.append_assoc, List.singleton_append, readValue, if_neg (by decide), if_neg (by decide),
        if_pos rfl]
      by_cases hne : fs = []
      · subst hne
        rfl
      have hopens : ∀ p ∈ fs, Opens (style.writeField p) := fun p _ => ⟨_, _, writeField_eq p, by decide⟩
      have hall : Opens ([',', ' '].intercalate (fs.map style.writeField)) :=
        intercalate_opens (by simpa using hne) (List.forall_mem_map.2 hopens)
      have hcount := count_le_intercalate [' '] (fs.map style.writeField)
      rw [List.length_map] at hcount
      have hread : ∀ p ∈ fs, ∀ rest, Stops rest → readField (readValue fuel) (style.writeField p ++ rest) = some (p, rest) := by
        intro p hp rest' hrest'
        have hlength := length_le_intercalate [',', ' '] (List.mem_map_of_mem (f := style.writeField) hp)
        rw [writeField_eq] at hlength
        simp only [List.length_cons, List.length_append] at hlength
        exact readField_write (write_opens (hfs p hp)) (ih p hp (by omega) hrest')
      have hcount' : fs.length ≤ fuel + 1 := by omega
      rw [skipWhite_opens hall, (expect_opens hall _).2,
        readItems_intercalate (Or.inr rfl) white_gap (readField (readValue fuel)) id hne hopens hread hcount' rest]
      simp only [bind, Option.bind, pure, List.map_id]
      rw [ofPairs_eq hnodup]

/-! ## A text that goes on -/

/-- What one reader reads of a text another reads of the text with more behind it. -/
def Extends {α : Type} (read read' : Text → Option (α × Text)) (more : Text) : Prop :=
  ∀ t x rest, read t = some (x, rest) → read' (t ++ more) = some (x, rest ++ more)

variable {more : Text}

theorem expect_extends {c : Char} {t rest : Text} (h : expect c t = some rest) : expect c (t ++ more) = some (rest ++ more) := by
  cases t with
  | nil => cases h
  | cons d t =>
    rw [List.cons_append, expect]
    rw [expect] at h
    split at h
    · cases h
      rw [if_pos ‹_›]
    · cases h

theorem skipWhite_extends {t : Text} (h : skipWhite t ≠ []) : skipWhite (t ++ more) = skipWhite t ++ more := by
  rw [skipWhite, List.dropWhile_append, if_neg]
  · rfl
  · rwa [List.isEmpty_iff]

/-- A character that must stand behind white space. -/
theorem expect_skipWhite_extends {c : Char} {t rest : Text} (h : expect c (skipWhite t) = some rest) :
    expect c (skipWhite (t ++ more)) = some (rest ++ more) := by
  rw [skipWhite_extends]
  · exact expect_extends h
  · intro hnil
    rw [hnil] at h
    cases h

theorem readHex_extends : Extends readHex readHex more := by
  intro t n rest h
  match t, h with
  | a :: b :: c :: d :: t, h =>
    obtain ⟨a', ha, h⟩ := Option.bind_eq_some_iff.1 h
    obtain ⟨b', hb, h⟩ := Option.bind_eq_some_iff.1 h
    obtain ⟨c', hc, h⟩ := Option.bind_eq_some_iff.1 h
    obtain ⟨d', hd, h⟩ := Option.bind_eq_some_iff.1 h
    cases h
    simp only [List.cons_append, readHex, ha, hb, hc, hd]
    rfl

theorem readUnicode_extends : Extends readUnicode readUnicode more := by
  intro t c rest h
  obtain ⟨⟨n, t'⟩, hhex, h⟩ := Option.bind_eq_some_iff.1 h
  rw [readUnicode, readHex_extends _ _ _ hhex]
  simp only [bind, Option.bind]
  dsimp only at h
  split at h
  · rename_i hbasic
    cases h
    rw [if_pos hbasic]
  · rename_i hbasic
    rw [if_neg hbasic]
    split at h
    · rename_i hhigh
      rw [if_pos hhigh]
      obtain ⟨t₁, hslash, h⟩ := Option.bind_eq_some_iff.1 h
      obtain ⟨t₂, hu, h⟩ := Option.bind_eq_some_iff.1 h
      obtain ⟨⟨low, t₃⟩, hlow, h⟩ := Option.bind_eq_some_iff.1 h
      dsimp only at h
      rw [readLowSurrogate, expect_extends hslash]
      simp only [bind, Option.bind, expect_extends hu, readHex_extends _ _ _ hlow]
      split at h
      · rename_i hpair
        obtain ⟨rfl, rfl⟩ := Prod.mk.inj (Option.some.inj h)
        rw [if_pos hpair]
      · cases h
    · cases h

theorem readEscape_extends : Extends readEscape readEscape more := by
  intro t c rest h
  cases t with
  | nil => cases h
  | cons d t =>
    rw [readEscape] at h
    rw [List.cons_append, readEscape]
    split at h
    · rw [if_pos ‹_›]
      exact readUnicode_extends _ _ _ h
    · rw [if_neg ‹_›]
      obtain ⟨e, he, hpair⟩ := Option.map_eq_some_iff.1 h
      cases hpair
      rw [he]
      rfl

theorem readString_extends {fuel fuel' : Nat} (hfuel : fuel ≤ fuel') : Extends (readString fuel) (readString fuel') more := by
  intro t s rest h
  induction fuel generalizing fuel' t s with
  | zero => cases h
  | succ fuel ih =>
    cases fuel' with
    | zero => cases hfuel
    | succ fuel' =>
      have hless := Nat.le_of_succ_le_succ hfuel
      cases t with
      | nil => cases h
      | cons c t =>
        rw [readString] at h
        rw [List.cons_append, readString]
        split at h
        · rename_i hquote
          cases h
          rw [if_pos hquote]
        · rename_i hquote
          rw [if_neg hquote]
          split at h
          · rename_i hbackslash
            rw [if_pos hbackslash]
            obtain ⟨⟨d, t'⟩, hescape, h⟩ := Option.bind_eq_some_iff.1 h
            obtain ⟨⟨s', t''⟩, hstring, h⟩ := Option.bind_eq_some_iff.1 h
            cases h
            rw [readEscape_extends _ _ _ hescape]
            simp only [bind, Option.bind, ih hless _ _ hstring]
            rfl
          · rename_i hbackslash
            rw [if_neg hbackslash]
            split at h
            · cases h
            · rename_i hcontrol
              rw [if_neg hcontrol]
              obtain ⟨⟨s', t'⟩, hstring, h⟩ := Option.bind_eq_some_iff.1 h
              cases h
              rw [ih hless _ _ hstring]
              rfl

section Items

variable {α : Type} {read read' : Text → Option (α × Text)} (hread : Extends read read' more) (hnil : read [] = none)

include hread hnil

/-- A reader that reads nothing of an empty text reads on behind white space. -/
theorem skipWhite_read_extends {t rest : Text} {x : α} (h : read (skipWhite t) = some (x, rest)) :
    read' (skipWhite (t ++ more)) = some (x, rest ++ more) := by
  rw [skipWhite_extends]
  · exact hread _ _ _ h
  · intro hempty
    rw [hempty, hnil] at h
    cases h

theorem readItems_extends {close : Char} (hclose : close ≠ ',') {fuel fuel' : Nat} (hfuel : fuel ≤ fuel') :
    Extends (readItems close read fuel) (readItems close read' fuel') more := by
  intro t xs rest h
  induction fuel generalizing fuel' t xs with
  | zero => cases h
  | succ fuel ih =>
    cases fuel' with
    | zero => cases hfuel
    | succ fuel' =>
      rw [readItems] at h ⊢
      obtain ⟨⟨x, t'⟩, hfirst, h⟩ := Option.bind_eq_some_iff.1 h
      rw [hread _ _ _ hfirst]
      simp only [bind, Option.bind]
      dsimp only at h
      split at h
      · rename_i t'' hcomma
        rw [expect_skipWhite_extends hcomma]
        obtain ⟨⟨xs', u⟩, hrest, h⟩ := Option.bind_eq_some_iff.1 h
        cases h
        have hmore : skipWhite t'' ≠ [] := by
          intro hempty
          rw [hempty] at hrest
          cases fuel with
          | zero => cases hrest
          | succ fuel =>
            rw [readItems, hnil] at hrest
            cases hrest
        simp only [skipWhite_extends hmore, ih (Nat.le_of_succ_le_succ hfuel) _ _ hrest]
        rfl
      · rename_i hcomma
        obtain ⟨t'', hend, h⟩ := Option.bind_eq_some_iff.1 h
        cases h
        have hnone : expect ',' (skipWhite (t' ++ more)) = none := by
          cases hwhite : skipWhite t' with
          | nil =>
            rw [hwhite] at hend
            cases hend
          | cons c u =>
            rw [skipWhite_extends (hwhite ▸ List.cons_ne_nil c u), hwhite, List.cons_append, expect]
            rw [hwhite, expect] at hend
            split at hend
            · rename_i hc
              rw [if_neg fun hcomma' => hclose (hc.symm.trans hcomma')]
            · cases hend
        simp only [hnone, expect_skipWhite_extends hend]
        rfl

/-- The first of several items is none that closes them. -/
theorem readItems_open_extends {close : Char} (hclose : close ≠ ',') {fuel fuel' : Nat} (hfuel : fuel ≤ fuel') {t rest : Text}
    {xs : List α} (hopen : expect close (skipWhite t) = none) (h : readItems close read fuel (skipWhite t) = some (xs, rest)) :
    expect close (skipWhite (t ++ more)) = none ∧
      readItems close read' fuel' (skipWhite (t ++ more)) = some (xs, rest ++ more) := by
  cases hwhite : skipWhite t with
  | nil =>
    rw [hwhite] at h
    cases fuel with
    | zero => cases h
    | succ fuel =>
      rw [readItems, hnil] at h
      cases h
  | cons c u =>
    rw [skipWhite_extends (hwhite ▸ List.cons_ne_nil c u)]
    refine ⟨?_, readItems_extends hread hnil hclose hfuel _ _ _ h⟩
    rw [hwhite, expect] at hopen
    rw [hwhite, List.cons_append, expect]
    split at hopen
    · cases hopen
    · rw [if_neg ‹_›]

end Items

theorem readField_extends {read read' : Text → Option (Value × Text)} (hread : Extends read read' more) (hnil : read [] = none) :
    Extends (readField read) (readField read') more := by
  intro t p rest h
  obtain ⟨t₁, hquote, h⟩ := Option.bind_eq_some_iff.1 h
  obtain ⟨⟨name, t₂⟩, hname, h⟩ := Option.bind_eq_some_iff.1 h
  obtain ⟨t₃, hcolon, h⟩ := Option.bind_eq_some_iff.1 h
  obtain ⟨⟨x, t₄⟩, hvalue, h⟩ := Option.bind_eq_some_iff.1 h
  cases h
  have hstring : readString ((t₁ ++ more).length + 1) (t₁ ++ more) = some (name, t₂ ++ more) :=
    readString_extends (by rw [List.length_append]; omega) _ _ _ hname
  rw [readField, expect_extends hquote]
  simp only [bind, Option.bind, hstring, expect_skipWhite_extends hcolon, skipWhite_read_extends hread hnil hvalue]
  rfl

theorem readField_nil (read : Text → Option (Value × Text)) : readField read [] = none := rfl

theorem readValue_nil (fuel : Nat) : readValue fuel [] = none := by
  cases fuel <;> rfl

/-- What is read of a text is read of it again where the text goes on with what cannot go on a number. -/
theorem readValue_extends (hmore : Stops more) {fuel fuel' : Nat} (hfuel : fuel ≤ fuel') :
    Extends (readValue fuel) (readValue fuel') more := by
  intro t v rest h
  induction fuel generalizing fuel' t v rest with
  | zero => cases h
  | succ fuel ih =>
    cases fuel' with
    | zero => cases hfuel
    | succ fuel' =>
      have hless : Extends (readValue fuel) (readValue fuel') more := fun _ _ _ => ih (Nat.le_of_succ_le_succ hfuel) _ _ _
      cases t with
      | nil => cases h
      | cons c t =>
        rw [readValue] at h
        rw [List.cons_append, readValue]
        split at h
        · rename_i hquote
          rw [if_pos hquote]
          obtain ⟨⟨s, t'⟩, hstring, h⟩ := Option.bind_eq_some_iff.1 h
          cases h
          have hstring' : readString ((t ++ more).length + 1) (t ++ more) = some (s, rest ++ more) :=
            readString_extends (by rw [List.length_append]; omega) _ _ _ hstring
          rw [hstring']
          rfl
        · rename_i hquote
          rw [if_neg hquote]
          split at h
          · rename_i hbracket
            rw [if_pos hbracket]
            split at h
            · rename_i t' hend
              cases h
              rw [expect_skipWhite_extends hend]
            · rename_i hend
              obtain ⟨⟨xs, t'⟩, hitems, h⟩ := Option.bind_eq_some_iff.1 h
              cases h
              obtain ⟨hopen, hitems'⟩ := readItems_open_extends hless (readValue_nil fuel) (by decide) hfuel hend hitems
              rw [hopen]
              simp only [hitems', bind, Option.bind]
              rfl
          · rename_i hbracket
            rw [if_neg hbracket]
            split at h
            · rename_i hbrace
              rw [if_pos hbrace]
              split at h
              · rename_i t' hend
                cases h
                rw [expect_skipWhite_extends hend]
              · rename_i hend
                obtain ⟨⟨fields, t'⟩, hitems, h⟩ := Option.bind_eq_some_iff.1 h
                cases h
                obtain ⟨hopen, hitems'⟩ := readItems_open_extends (readField_extends hless (readValue_nil fuel)) (readField_nil _)
                  (by decide) hfuel hend hitems
                rw [hopen]
                simp only [hitems', bind, Option.bind]
                rfl
            · rename_i hbrace
              rw [if_neg hbrace, ← List.cons_append]
              exact readScalar_append hmore h

/-! ## Whole texts -/

theorem skipWhite_write {v : Value} (h : WellFormed v) (rest : Text) : skipWhite (style.write v ++ rest) = style.write v ++ rest :=
  skipWhite_opens (write_opens h) rest

/-- What was written is loaded again, and is not loaded with something behind it. -/
theorem loads_write {v : Value} (h : WellFormed v) {rest : Text} (hrest : Stops rest) :
    loads (style.write v ++ rest) = if skipWhite rest = [] then some v else none := by
  have hfuel : (style.write v).length ≤ (style.write v ++ rest).length + 1 := by
    rw [List.length_append]
    omega
  rw [loads, skipWhite_write h, readValue_write h hfuel hrest]
  rfl

/-- A text that is cut off before its end, and not inside a number, is not read. -/
theorem loads_cut {v : Value} (h : WellFormed v) {cut : Text} (hwrite : style.write v = cut ++ more) (hne : more ≠ [])
    (hmore : Stops more) : loads cut = none := by
  cases hloads : loads cut with
  | none => rfl
  | some w =>
    obtain ⟨⟨w', rest⟩, hread, hend⟩ := Option.bind_eq_some_iff.1 hloads
    have hextended := skipWhite_read_extends (readValue_extends hmore (Nat.le_add_right _ (style.write v).length)) (readValue_nil _)
      hread
    have hskip : skipWhite (style.write v ++ []) = _ := skipWhite_write h []
    rw [List.append_nil] at hskip
    have hwhole : readValue (cut.length + 1 + (style.write v).length) (style.write v ++ []) = some (v, []) :=
      readValue_write h (Nat.le_add_left _ _) (by rintro c ⟨⟩)
    rw [List.append_nil] at hwhole
    rw [← hwrite, hskip, hwhole] at hextended
    have hnil := (Prod.mk.inj (Option.some.inj hextended)).2
    exact absurd (List.append_eq_nil_iff.1 hnil.symm).2 hne

/-! ## Characters -/

theorem inNumber_takeWhile {t : Text} {c : Char} (h : c ∈ t.takeWhile Char.isDigit) : inNumber c = true := by
  simp [inNumber, List.mem_takeWhile_imp h]

theorem inNumber_scanNat {t : Text} {r : Text × Text} (h : scanNat t = some r) : ∀ c ∈ r.1, inNumber c = true := by
  intro c hc
  unfold scanNat at h
  split at h
  · cases h
  · rename_i d ds hdigits
    split at h
    · cases h
      rw [List.mem_singleton.1 hc]
      rfl
    · cases h
      exact inNumber_takeWhile (hdigits ▸ hc)

theorem inNumber_scanInt {t : Text} {r : Text × Text} (h : scanInt t = some r) : ∀ c ∈ r.1, inNumber c = true := by
  intro c hc
  unfold scanInt at h
  split at h
  · obtain ⟨r', hnat, hr⟩ := Option.map_eq_some_iff.1 h
    cases hr
    rcases List.mem_cons.1 hc with rfl | hrest
    · rfl
    · exact inNumber_scanNat hnat c hrest
  · exact inNumber_scanNat h c hc

theorem inNumber_scanFraction (t : Text) : ∀ c ∈ (scanFraction t).1, inNumber c = true := by
  intro c hc
  unfold scanFraction at hc
  split at hc
  · cases hc
  · split at hc
    · cases hc
    · rcases List.mem_cons.1 hc with rfl | hrest
      · rfl
      · exact inNumber_takeWhile hrest

theorem inNumber_scanSign (t : Text) : ∀ c ∈ (scanSign t).1, inNumber c = true := by
  intro c hc
  cases t with
  | nil => cases hc
  | cons d t =>
    rw [scanSign] at hc
    split at hc
    · rename_i hsign
      rw [List.mem_singleton.1 hc]
      rcases hsign with rfl | rfl <;> rfl
    · cases hc

theorem inNumber_scanExponent (t : Text) : ∀ c ∈ (scanExponent t).1, inNumber c = true := by
  intro c hc
  cases t with
  | nil => cases hc
  | cons d t =>
    rw [scanExponent] at hc
    split at hc
    · rename_i hexponent
      dsimp only at hc
      split at hc
      · cases hc
      · rcases List.mem_cons.1 hc with rfl | hrest
        · rcases hexponent with rfl | rfl <;> rfl
        · rcases List.mem_append.1 hrest with hsign | hdigits
          · exact inNumber_scanSign _ c hsign
          · exact inNumber_takeWhile hdigits
    · cases hc

theorem inNumber_bounds {c : Char} (h : inNumber c = true) : 43 ≤ c.toNat ∧ c.toNat ≤ 101 := by
  simp only [inNumber, Bool.or_eq_true, beq_iff_eq] at h
  rcases h with ((((h | rfl) | rfl) | rfl) | rfl) | rfl
  · rw [Char.isDigit_iff_toNat] at h
    exact ⟨Nat.le_trans (by decide) h.1, Nat.le_trans h.2 (by decide)⟩
  all_goals decide

/-- A float is written without control characters. -/
theorem plain_of_isFloat {literal : String} (h : IsFloat literal) : ∀ c ∈ literal.toList, 32 ≤ c.toNat := by
  obtain ⟨-, hread⟩ := h
  unfold readScalar at hread
  split at hread
  · rename_i r hnumber
    cases hread
    obtain ⟨⟨int, t⟩, hint, hnumber⟩ := Option.bind_eq_some_iff.1 hnumber
    dsimp only at hnumber
    split at hnumber
    · cases hnumber
    · obtain ⟨hliteral, -⟩ := Prod.mk.inj (Option.some.inj hnumber)
      intro c hc
      rw [← Value.float.inj hliteral, String.toList_ofList] at hc
      have hin : inNumber c = true := by
        rcases List.mem_append.1 hc with hc | hc
        · rcases List.mem_append.1 hc with hc | hc
          · exact inNumber_scanInt hint c hc
          · exact inNumber_scanFraction _ c hc
        · exact inNumber_scanExponent _ c hc
      have := inNumber_bounds hin
      omega
  · obtain ⟨c, hc, hmatch⟩ := List.exists_of_findSome?_eq_some hread
    obtain ⟨rest, hrest, hpair⟩ := Option.map_eq_some_iff.1 hmatch
    have hliteral := (Prod.mk.inj hpair).1
    simp only [constants, List.mem_cons, List.not_mem_nil, or_false] at hc
    rcases hc with rfl | rfl | rfl | rfl | rfl | rfl <;> cases hliteral <;> exact forall_mem_of_all (by decide)

theorem plain_dumps_int (n : Int) : ∀ c ∈ dumps (.int n), 32 ≤ c.toNat := by
  intro c hc
  rw [dumps_int] at hc
  have := inNumber_bounds (inNumber_scanInt (scanInt_toString n) c hc)
  omega

theorem plain_char (c : Char) : ∀ d ∈ Style.ascii.char c, 32 ≤ d.toNat ∧ d.toNat < 127 := by
  show ∀ d ∈ (escape c).flatMap toAscii, _
  rcases escape_ascii_cases c with ⟨hsame, hcontrol⟩ | hascii
  · have hunicode : ∀ n < 65536, ∀ d ∈ unicodeEscape n, 32 ≤ d.toNat ∧ d.toNat < 127 := by
      intro n hn
      simp only [unicodeEscape, List.forall_mem_cons, List.not_mem_nil, false_imp_iff, implies_true, and_true]
      exact ⟨by decide, by decide, hexDigit_bounds _ (by omega), hexDigit_bounds _ (by omega), hexDigit_bounds _ (by omega),
        hexDigit_bounds _ (by omega)⟩
    have hc := toNat_cases c
    rw [hsame, List.flatMap_singleton, toAscii]
    split
    · rename_i hlow
      exact List.forall_mem_singleton.2 ⟨hcontrol, hlow⟩
    · split
      · rename_i hplane
        exact hunicode _ hplane
      · exact List.forall_mem_append.2 ⟨hunicode _ (by omega), hunicode _ (by omega)⟩
  · rwa [flatMap_toAscii_of_ascii fun d hd => (hascii d hd).2]

theorem plain_quote (s : Text) : ∀ c ∈ Style.ascii.quote s, 32 ≤ c.toNat ∧ c.toNat < 127 := by
  intro c hc
  rcases List.mem_cons.1 hc with rfl | hc
  · decide
  · rcases List.mem_append.1 hc with hc | hc
    · obtain ⟨d, -, hd⟩ := List.mem_flatMap.1 hc
      exact plain_char d c hd
    · rw [List.mem_singleton.1 hc]
      decide

/-- What holds of the characters of the separator and of every part holds of those of the whole. -/
theorem forall_mem_intercalate {P : Char → Prop} {separator : Text} (hseparator : ∀ c ∈ separator, P c) {ts : List Text}
    (h : ∀ t ∈ ts, ∀ c ∈ t, P c) : ∀ c ∈ separator.intercalate ts, P c := by
  induction ts with
  | nil => exact fun _ hc => absurd hc List.not_mem_nil
  | cons t ts ih =>
    cases ts with
    | nil =>
      rw [List.intercalate_singleton]
      exact h t List.mem_cons_self
    | cons u us =>
      rw [List.intercalate_cons_cons]
      refine List.forall_mem_append.2 ⟨List.forall_mem_append.2 ⟨h t List.mem_cons_self, hseparator⟩, ?_⟩
      exact ih fun t' ht' => h t' (List.mem_cons_of_mem _ ht')

/-- What is written in ASCII has no control character, and so no line boundary. -/
theorem plain_write {v : Value} (h : WellFormed v) : ∀ c ∈ Style.ascii.write v, 32 ≤ c.toNat ∧ c.toNat < 127 := by
  have hwrap : ∀ {opening closing : Char} {body : Text}, (32 ≤ opening.toNat ∧ opening.toNat < 127) →
      (32 ≤ closing.toNat ∧ closing.toNat < 127) → (∀ c ∈ body, 32 ≤ c.toNat ∧ c.toNat < 127) →
      ∀ c ∈ opening :: (body ++ [closing]), 32 ≤ c.toNat ∧ c.toNat < 127 := fun hopening hclosing hbody =>
    List.forall_mem_cons.2 ⟨hopening, List.forall_mem_append.2 ⟨hbody, List.forall_mem_singleton.2 hclosing⟩⟩
  induction h with
  | null =>
    rw [Style.write]
    exact forall_mem_of_all (by decide)
  | bool b =>
    rw [Style.write]
    cases b <;> exact forall_mem_of_all (by decide)
  | int n =>
    rw [Style.write]
    exact fun c hc => ⟨plain_dumps_int n c hc, ascii_dumps hc⟩
  | float hfloat =>
    rw [Style.write, dumps, dump, flatMap_toAscii_of_ascii hfloat.1]
    exact fun c hc => ⟨plain_of_isFloat hfloat c hc, hfloat.1 c hc⟩
  | str s =>
    rw [Style.write]
    exact plain_quote s
  | arr _ ih =>
    rw [write_arr]
    exact hwrap (by decide) (by decide) (forall_mem_intercalate (forall_mem_of_all (by decide)) (List.forall_mem_map.2 ih))
  | @obj fs _ _ ih =>
    rw [write_obj]
    refine hwrap (by decide) (by decide) (forall_mem_intercalate (forall_mem_of_all (by decide)) (List.forall_mem_map.2 fun p hp => ?_))
    refine List.forall_mem_append.2 ⟨plain_quote _, List.forall_mem_cons.2 ⟨by decide, List.forall_mem_cons.2 ⟨by decide, ?_⟩⟩⟩
    exact ih p hp

end Json
