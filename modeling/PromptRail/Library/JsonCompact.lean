import PromptRail.Library.JsonLines

/-!
# JSON with separators of choice

`json.dumps(separators=("," + gap, ":" + gap))`, where the gap is white space or nothing, in the order of insertion. What is written is read
back whatever the gap is, and what is written in ASCII with a gap of blanks has no control character.
-/

namespace Json

open PyText (Text)

mutual

/-- The text `json.dumps` writes, with a gap behind every separator. -/
def Style.spaced (style : Style) (gap : Text) : Value → Text
  | .null => dumps .null
  | .bool b => dumps (.bool b)
  | .int n => dumps (.int n)
  | .float literal => dumps (.float literal)
  | .str s => style.quote s
  | .arr xs => '[' :: ((',' :: gap).intercalate (style.spacedList gap xs) ++ [']'])
  | .obj fs => '{' :: ((',' :: gap).intercalate (style.spacedFields gap fs) ++ ['}'])

/-- The elements of an array. -/
def Style.spacedList (style : Style) (gap : Text) : List Value → List Text
  | [] => []
  | x :: xs => style.spaced gap x :: style.spacedList gap xs

/-- The fields of an object. -/
def Style.spacedFields (style : Style) (gap : Text) : Fields → List Text
  | [] => []
  | (k, v) :: fs => (style.quote k.toList ++ ':' :: (gap ++ style.spaced gap v)) :: style.spacedFields gap fs

end

/-- `json.dumps(separators=(",", ":"))`. -/
def Style.compact (style : Style) (v : Value) : Text := style.spaced [] v

section Spaced

variable {style : Style} {gap : Text}

/-- The text of one field. -/
def Style.spacedField (style : Style) (gap : Text) (p : String × Value) : Text :=
  style.quote p.1.toList ++ ':' :: (gap ++ style.spaced gap p.2)

theorem spacedList_eq (xs : List Value) : style.spacedList gap xs = xs.map (style.spaced gap) := by
  induction xs with
  | nil => rfl
  | cons x xs ih => rw [Style.spacedList, ih, List.map_cons]

theorem spacedFields_eq (fs : Fields) : style.spacedFields gap fs = fs.map (style.spacedField gap) := by
  induction fs with
  | nil => rfl
  | cons p fs ih => rw [Style.spacedFields, ih, List.map_cons, Style.spacedField]

theorem spaced_arr (xs : List Value) :
    style.spaced gap (.arr xs) = '[' :: ((',' :: gap).intercalate (xs.map (style.spaced gap)) ++ [']']) := by
  rw [Style.spaced, spacedList_eq]

theorem spaced_obj (fs : Fields) :
    style.spaced gap (.obj fs) = '{' :: ((',' :: gap).intercalate (fs.map (style.spacedField gap)) ++ ['}']) := by
  rw [Style.spaced, spacedFields_eq]

theorem spacedField_eq (p : String × Value) :
    style.spacedField gap p = '"' :: (p.1.toList.flatMap style.char ++ '"' :: ':' :: (gap ++ style.spaced gap p.2)) := by
  simp [Style.spacedField, Style.quote]

/-! ## Reading back -/

theorem spaced_opens {v : Value} (h : WellFormed v) : Opens (style.spaced gap v) := by
  cases h with
  | null => rw [Style.spaced]; exact opens_of_readScalar readScalar_null
  | bool b => rw [Style.spaced]; exact opens_of_readScalar (readScalar_bool b)
  | int n => rw [Style.spaced]; exact opens_of_readScalar (readScalar_int n)
  | float hfloat => rw [Style.spaced]; exact opens_of_readScalar (readScalar_float hfloat)
  | str s => exact ⟨_, _, by rw [Style.spaced, Style.quote], by decide⟩
  | arr _ => exact ⟨_, _, spaced_arr _, by decide⟩
  | obj _ _ => exact ⟨_, _, spaced_obj _, by decide⟩

/-- One field is read back. -/
theorem readField_spaced (hgap : ∀ c ∈ gap, isWhite c = true) {p : String × Value} {read : Text → Option (Value × Text)} {rest : Text}
    {w : Value} (hopens : Opens (style.spaced gap p.2)) (hread : read (style.spaced gap p.2 ++ rest) = some (w, rest)) :
    readField read (style.spacedField gap p ++ rest) = some ((p.1, w), rest) := by
  have hskip : skipWhite (gap ++ (style.spaced gap p.2 ++ rest)) = style.spaced gap p.2 ++ rest := by
    rw [skipWhite_append hgap, skipWhite_opens hopens rest]
  have hname := readString_text style p.1.toList (':' :: (gap ++ (style.spaced gap p.2 ++ rest)))
  have htext : style.spacedField gap p ++ rest =
      '"' :: (p.1.toList.flatMap style.char ++ '"' :: ':' :: (gap ++ (style.spaced gap p.2 ++ rest))) := by
    rw [spacedField_eq]
    simp
  rw [htext, readField, expect, if_pos rfl]
  simp only [bind, Option.bind, hname, skipWhite_cons (c := ':') rfl, expect, if_true, hskip, hread]
  simp

/-- A value that was written is read again. -/
theorem readValue_spaced (hgap : ∀ c ∈ gap, isWhite c = true) {v : Value} (h : WellFormed v) {fuel : Nat} {rest : Text}
    (hfuel : (style.spaced gap v).length ≤ fuel) (hrest : Stops rest) : readValue fuel (style.spaced gap v ++ rest) = some (v, rest) := by
  induction h generalizing fuel rest with
  | null =>
    rw [Style.spaced] at hfuel ⊢
    exact readValue_scalar readScalar_null hfuel hrest
  | bool b =>
    rw [Style.spaced] at hfuel ⊢
    exact readValue_scalar (readScalar_bool b) hfuel hrest
  | int n =>
    rw [Style.spaced] at hfuel ⊢
    exact readValue_scalar (readScalar_int n) hfuel hrest
  | float hfloat =>
    rw [Style.spaced] at hfuel ⊢
    exact readValue_scalar (readScalar_float hfloat) hfuel hrest
  | str s =>
    rw [Style.spaced, Style.quote] at hfuel ⊢
    cases fuel with
    | zero => cases hfuel
    | succ fuel =>
      rw [List.cons_append, List.append_assoc, List.singleton_append, readValue, if_pos rfl, readString_text]
      rfl
  | @arr xs hxs ih =>
    rw [spaced_arr] at hfuel ⊢
    cases fuel with
    | zero => cases hfuel
    | succ fuel =>
      rw [List.length_cons, List.length_append, List.length_singleton] at hfuel
      rw [List.cons_append, List.append_assoc, List.singleton_append, readValue, if_neg (by decide), if_pos rfl]
      by_cases hne : xs = []
      · subst hne
        rfl
      have hopens : ∀ x ∈ xs, Opens (style.spaced gap x) := fun x hx => spaced_opens (hxs x hx)
      have hall : Opens ((',' :: gap).intercalate (xs.map (style.spaced gap))) :=
        intercalate_opens (by simpa using hne) (List.forall_mem_map.2 hopens)
      have hcount := count_le_intercalate gap (xs.map (style.spaced gap))
      rw [List.length_map] at hcount
      have hread : ∀ x ∈ xs, ∀ rest, Stops rest → readValue fuel (style.spaced gap x ++ rest) = some (x, rest) := by
        intro x hx rest' hrest'
        have hlength := length_le_intercalate (',' :: gap) (List.mem_map_of_mem (f := style.spaced gap) hx)
        exact ih x hx (by omega) hrest'
      have hcount' : xs.length ≤ fuel + 1 := by omega
      rw [skipWhite_opens hall, (expect_opens hall _).1,
        readItems_intercalate (Or.inl rfl) hgap (readValue fuel) id hne hopens hread hcount' rest]
      simp
  | @obj fs hnodup hfs ih =>
    rw [spaced_obj] at hfuel ⊢
    cases fuel with
    | zero => cases hfuel
    | succ fuel =>
      rw [List.length_cons, List.length_append, List.length_singleton] at hfuel
      rw [List.cons_append, List.append_assoc, List.singleton_append, readValue, if_neg (by decide), if_neg (by decide),
        if_pos rfl]
      by_cases hne : fs = []
      · subst hne
        rfl
      have hopens : ∀ p ∈ fs, Opens (style.spacedField gap p) := fun p _ => ⟨_, _, spacedField_eq p, by decide⟩
      have hall : Opens ((',' :: gap).intercalate (fs.map (style.spacedField gap))) :=
        intercalate_opens (by simpa using hne) (List.forall_mem_map.2 hopens)
      have hcount := count_le_intercalate gap (fs.map (style.spacedField gap))
      rw [List.length_map] at hcount
      have hread : ∀ p ∈ fs, ∀ rest, Stops rest → readField (readValue fuel) (style.spacedField gap p ++ rest) = some (p, rest) := by
        intro p hp rest' hrest'
        have hlength := length_le_intercalate (',' :: gap) (List.mem_map_of_mem (f := style.spacedField gap) hp)
        rw [spacedField_eq] at hlength
        simp only [List.length_cons, List.length_append] at hlength
        exact readField_spaced hgap (spaced_opens (hfs p hp)) (ih p hp (by omega) hrest')
      have hcount' : fs.length ≤ fuel + 1 := by omega
      rw [skipWhite_opens hall, (expect_opens hall _).2,
        readItems_intercalate (Or.inr rfl) hgap (readField (readValue fuel)) id hne hopens hread hcount' rest]
      simp only [bind, Option.bind, pure, List.map_id]
      rw [ofPairs_eq hnodup]

/-- What was written is loaded again. -/
theorem loads_spaced (hgap : ∀ c ∈ gap, isWhite c = true) {v : Value} (h : WellFormed v) : loads (style.spaced gap v) = some v := by
  have hread : readValue _ (style.spaced gap v ++ []) = _ := readValue_spaced hgap h (Nat.le_succ _) (by rintro c ⟨⟩)
  have hskip := skipWhite_opens (@spaced_opens style gap v h) []
  rw [List.append_nil] at hread hskip
  rw [loads, hskip, hread]
  rfl

end Spaced

theorem loads_compact (style : Style) {v : Value} (h : WellFormed v) : loads (style.compact v) = some v :=
  loads_spaced (fun _ hc => absurd hc List.not_mem_nil) h

/-! ## Characters -/

/-- What is written in ASCII has no control character, if the gap has none. -/
theorem plain_spaced {gap : Text} (hgap : ∀ c ∈ gap, 32 ≤ c.toNat ∧ c.toNat < 127) {v : Value} (h : WellFormed v) :
    ∀ c ∈ Style.ascii.spaced gap v, 32 ≤ c.toNat ∧ c.toNat < 127 := by
  have hseparator : ∀ c ∈ ',' :: gap, 32 ≤ c.toNat ∧ c.toNat < 127 := List.forall_mem_cons.2 ⟨by decide, hgap⟩
  have hwrap : ∀ {opening closing : Char} {body : Text}, (32 ≤ opening.toNat ∧ opening.toNat < 127) →
      (32 ≤ closing.toNat ∧ closing.toNat < 127) → (∀ c ∈ body, 32 ≤ c.toNat ∧ c.toNat < 127) →
      ∀ c ∈ opening :: (body ++ [closing]), 32 ≤ c.toNat ∧ c.toNat < 127 := fun hopening hclosing hbody =>
    List.forall_mem_cons.2 ⟨hopening, List.forall_mem_append.2 ⟨hbody, List.forall_mem_singleton.2 hclosing⟩⟩
  induction h with
  | null =>
    rw [Style.spaced]
    exact forall_mem_of_all (by decide)
  | bool b =>
    rw [Style.spaced]
    cases b <;> exact forall_mem_of_all (by decide)
  | int n =>
    rw [Style.spaced]
    exact fun c hc => ⟨plain_dumps_int n c hc, ascii_dumps hc⟩
  | float hfloat =>
    rw [Style.spaced, dumps, dump, flatMap_toAscii_of_ascii hfloat.1]
    exact fun c hc => ⟨plain_of_isFloat hfloat c hc, hfloat.1 c hc⟩
  | str s =>
    rw [Style.spaced]
    exact plain_quote s
  | arr _ ih =>
    rw [spaced_arr]
    exact hwrap (by decide) (by decide) (forall_mem_intercalate hseparator (List.forall_mem_map.2 ih))
  | @obj fs _ _ ih =>
    rw [spaced_obj]
    refine hwrap (by decide) (by decide) (forall_mem_intercalate hseparator (List.forall_mem_map.2 fun p hp => ?_))
    refine List.forall_mem_append.2 ⟨plain_quote _, List.forall_mem_cons.2 ⟨by decide, List.forall_mem_append.2 ⟨hgap, ?_⟩⟩⟩
    exact ih p hp

theorem plain_compact {v : Value} (h : WellFormed v) : ∀ c ∈ Style.ascii.compact v, 32 ≤ c.toNat ∧ c.toNat < 127 :=
  plain_spaced (fun _ hc => absurd hc List.not_mem_nil) h

end Json
