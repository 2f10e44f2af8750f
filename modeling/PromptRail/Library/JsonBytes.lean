import PromptRail.Library.JsonCodes

/-!
# JSON in bytes

`loads` is `json.loads` of bytes in UTF-8, UTF-16 or UTF-32. A document that is an object or an array is none any more where a NUL
byte and three others are put behind it (`loads_append_nul`): its encoding is told by bytes it has itself, and what follows then is
no white space in any of the encodings.
-/

namespace JsonCodes

open Codec

/-- `json.loads(b)`. -/
def loads (b : Bytes) : Option Value := do
  let t ← decode b
  document t

/-- The codes of a document that is an object or an array. -/
theorem loads_codes {b : Bytes} {v : Value} (h : loads b = some v) (hcontainer : v.isContainer = true) :
    ∃ c t, decode b = some (c :: t) ∧ document (c :: t) = some v ∧ (0 < c ∧ c < 128) ∧ t ≠ [] ∧ t.head? ≠ some 0 := by
  obtain ⟨t, hdecode, hdocument⟩ := Option.bind_eq_some_iff.1 h
  cases t with
  | nil => cases hdocument
  | cons c t => exact ⟨c, t, hdecode, hdocument, document_front hdocument hcontainer⟩

/-- A code point of UTF-16 takes two bytes. -/
theorem two_mul_length_utf16 {big : Bool} {n : Nat} {b : Bytes} {t : Codes} (h : decodeFrom (.utf16 big) n b = some t) :
    2 * t.length ≤ b.length := by
  induction n generalizing b t with
  | zero =>
    cases b with
    | nil =>
      cases h
      exact Nat.le_refl _
    | cons x b => cases h
  | succ n ih =>
    cases b with
    | nil =>
      cases h
      exact Nat.le_refl _
    | cons x b =>
      obtain ⟨⟨c, rest⟩, hread, h⟩ := Option.bind_eq_some_iff.1 h
      obtain ⟨cs, hcs, h⟩ := Option.bind_eq_some_iff.1 h
      cases h
      have hrest := ih hcs
      have htwo := readUtf16_length hread
      simp only [List.length_cons] at htwo ⊢
      omega

/-- A document of less than four bytes is in UTF-8. -/
theorem detectEncoding_short {b : Bytes} {v : Value} (hlength : b.length < 4) (h : loads b = some v)
    (hcontainer : v.isContainer = true) : detectEncoding b = (.utf8, 0) := by
  obtain ⟨c, t, hdecode, -, -, hnext, -⟩ := loads_codes h hcontainer
  have htwo : 2 ≤ (c :: t).length := Nat.succ_le_succ (List.length_pos_iff.2 hnext)
  have hwide : ∀ big skip, detectEncoding b ≠ (.utf16 big, skip) := by
    intro big skip hencoding
    rw [decode, hencoding] at hdecode
    have := two_mul_length_utf16 hdecode
    rw [List.length_drop] at this
    omega
  have hmark : ∀ mark : Bytes, mark.length = 4 → ¬mark <+: b := by
    intro mark hmark hfront
    have := hfront.length_le
    omega
  cases hencoding : detectEncoding b with
  | mk e skip =>
    have hfound := hencoding
    rw [detectEncoding, if_neg (hmark _ rfl), if_neg (hmark _ rfl)] at hfound
    split at hfound
    · cases hfound
      exact absurd hencoding (hwide true 2)
    split at hfound
    · cases hfound
      exact absurd hencoding (hwide false 2)
    split at hfound
    · rename_i hfront
      cases hfound
      have hlong := hfront.length_le
      have hempty : b.drop 3 = [] := List.drop_eq_nil_of_le (by omega)
      rw [decode, hencoding] at hdecode
      dsimp only at hdecode
      rw [hempty] at hdecode
      cases hdecode
    · cases hfound
      match b, hlength with
      | [], _ | [_], _ | [_, _, _], _ => rfl
      | [x, y], _ =>
        rw [detectByNuls] at hencoding ⊢
        split at hencoding
        · exact absurd hencoding (hwide true 0)
        split at hencoding
        · exact absurd hencoding (hwide false 0)
        · rename_i hx hy
          rw [if_neg hx, if_neg hy]

/-- The first bytes of a document in UTF-8 are its first codes. -/
theorem utf8_front {n c : Nat} {b : Bytes} {t : Codes} (h : decodeFrom .utf8 n b = some (c :: t)) (hc : c < 128) (hnext : t ≠ [])
    (hzero : t.head? ≠ some 0) : ∃ x y rest, b = x :: y :: rest ∧ x.toNat = c ∧ y ≠ 0 := by
  obtain ⟨m, rest, hread, hrest⟩ := decodeFrom_cons h
  cases b with
  | nil => cases hread
  | cons x b =>
    obtain ⟨rfl, rfl⟩ := readUtf8_ascii hread hc
    cases rest with
    | nil =>
      rw [decodeFrom_nil] at hrest
      exact absurd (Option.some.inj hrest).symm hnext
    | cons y rest =>
      refine ⟨x, y, rest, rfl, rfl, ?_⟩
      rintro rfl
      cases t with
      | nil => exact hnext rfl
      | cons d t =>
        obtain ⟨m', rest', hread', -⟩ := decodeFrom_cons hrest
        cases hread'
        exact hzero rfl

/-- A document keeps its encoding where a NUL byte and three others are put behind it. -/
theorem detectEncoding_nul {b : Bytes} {v : Value} (h : loads b = some v) (hcontainer : v.isContainer = true) (x y z : UInt8)
    (more : Bytes) :
    detectEncoding (b ++ 0 :: x :: y :: z :: more) = detectEncoding b ∧ (detectEncoding b).2 ≤ b.length := by
  by_cases hlength : b.length < 4
  · have hencoding := detectEncoding_short hlength h hcontainer
    obtain ⟨c, t, hdecode, -, hc, hnext, hzero⟩ := loads_codes h hcontainer
    rw [decode, hencoding] at hdecode
    obtain ⟨p, q, rest, rfl, hp, hq⟩ := utf8_front hdecode hc.2 hnext hzero
    rw [hencoding]
    refine ⟨?_, Nat.zero_le _⟩
    -- none of the byte order marks opens with a byte of ASCII
    have hmark : ∀ first mark, first.toNat = 0 ∨ 128 ≤ first.toNat → ∀ b, ¬(first :: mark : Bytes) <+: p :: b := by
      intro first mark hfirst b hfront
      obtain rfl := (List.cons_prefix_cons.1 hfront).1
      omega
    have hp' : p ≠ 0 := by
      rintro rfl
      rw [← hp] at hc
      exact absurd hc.1 (by decide)
    rw [detectEncoding, List.cons_append, if_neg (hmark _ _ (Or.inl rfl) _), if_neg (hmark _ _ (Or.inr (by decide)) _),
      if_neg (hmark _ _ (Or.inr (by decide)) _), if_neg (hmark _ _ (Or.inr (by decide)) _),
      if_neg (hmark _ _ (Or.inr (by decide)) _)]
    rw [List.cons_append, detectByNuls_utf8 hp' hq]
  · have hlong := Nat.le_of_not_lt hlength
    refine ⟨detectEncoding_append hlong _, le_trans ?_ hlong⟩
    unfold detectEncoding
    repeat' split
    all_goals simp

/-- A document that is an object or an array is none where a NUL byte and three others are put behind it. -/
theorem loads_append_nul {b : Bytes} {v : Value} (h : loads b = some v) (hcontainer : v.isContainer = true) {x y z : UInt8}
    (hx : x ≠ 0) (hy : y ≠ 0) (hz : z ≠ 0) (more : Bytes) : loads (b ++ 0 :: x :: y :: z :: more) = none := by
  obtain ⟨hencoding, hskip⟩ := detectEncoding_nul h hcontainer x y z more
  rw [Option.eq_none_iff_forall_not_mem]
  intro v' hlonger
  obtain ⟨t, hdecode, hdocument⟩ := Option.bind_eq_some_iff.1 h
  obtain ⟨t', hdecode', hdocument'⟩ := Option.bind_eq_some_iff.1 hlonger
  rw [decode, hencoding, List.drop_append_of_le_length hskip] at hdecode'
  have hlast : ∀ c ∈ t.getLast?, isHigh c = false := by
    intro c hc
    have := document_getLast hdocument hcontainer c hc
    simp only [isHigh, Bool.and_eq_false_iff, decide_eq_false_iff_not]
    omega
  obtain ⟨k, u, hmore, rfl⟩ := decodeFrom_append hdecode hlast hdecode'
  obtain ⟨d, hd, hcode⟩ := decodeFrom_nul hx hy hz hmore
  have hwhite := document_append hdocument hcontainer hdocument' d hd
  simp only [isWhite, Bool.or_eq_true, beq_iff_eq] at hwhite
  omega

end JsonCodes
