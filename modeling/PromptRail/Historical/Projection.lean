import PromptRail.Historical.Records

/-!
# An import of what was imported

The events of an import are exported and imported once more. Most fields are then what they were: a text that was stripped stays stripped,
and the attributes are kept whole. A text that is cut may end in white space, which the second import strips; and the digits of an
identifier that were padded or cut may open with white space, or with a prefix that is removed again.
-/

namespace PromptRail

namespace Historical

open PyText (Text strip isSpace removePrefix zfill)
open Privacy (Key Items Attribute PrivacyPolicy)
open Python (Datum Record Interpreter Failure get getAny mappingsOf)
open RecordsAux

/-- No white space stands at either end of a text. -/
def Trimmed (t : Text) : Prop := (∀ c ∈ t.head?, isSpace c = false) ∧ ∀ c ∈ t.getLast?, isSpace c = false

/-- A text is longer than the width of its field, and white space is the last of it that fits. -/
def CutAtSpace (width : Nat) (t : Text) : Prop := width < t.length ∧ ∀ c ∈ t[width - 1]?, isSpace c = true

/-- The digits of an identifier make no prefix of their own: where they are cut, what is left opens with neither white space nor `0x`, and
where they lack one zero, they do not open with `x`. -/
structure KeepsDigits (width : Nat) (digits : Text) : Prop where
  cut : width ≤ digits.length → (∀ c ∈ (digits.rtake width).head?, isSpace c = false) ∧ ¬"0x".toList <+: digits.rtake width
  pad : digits.length + 1 = width → digits.head? ≠ some 'x'

variable (env : Interpreter)

/-- The status of a record stays: a text is not cut behind white space, and what is printed of a mapping has none at its ends. -/
def KeepsStatus : Datum → Prop
  | .str t => ¬CutAtSpace 64 (strip t)
  | .mapping value =>
    getAny env value ["message", "code"] ≠ .none →
      ∀ t, (getAny env value ["message", "code"]).toText env = .ok t → Trimmed (t.take 64)
  | _ => True

/-- A record whose event stays as it is when it is exported and imported. -/
structure Stable (record : Record) : Prop where
  name : ∀ t, string (get record "name") = some t → ¬CutAtSpace 512 t
  runId : ∀ t, string (getAny env record ["run_id", "runId"]) = some t → ¬CutAtSpace 256 t
  traceId : ∀ t, string (getAny env record ["trace_id", "traceId"]) = some t → KeepsDigits 32 (digitsOf env t)
  spanId : ∀ t, string (getAny env record ["span_id", "spanId"]) = some t → KeepsDigits 16 (digitsOf env t)
  parentSpanId :
    ∀ t, string (getAny env record ["parent_span_id", "parentSpanId"]) = some t → KeepsDigits 16 (digitsOf env t)
  status : KeepsStatus env (get record "status")

/-- The records of a source are stable. -/
def Source.Stable (source : Source) : Prop :=
  ∀ extracted, recordsOf env source = .ok extracted → ∀ record ∈ extracted.1, Historical.Stable env record

namespace ProjectionAux

/-! ## Texts that are cut -/

theorem trimmed_strip (t : Text) : Trimmed (strip t) := PyText.strip_eq_self_iff.1 (PyText.strip_strip t)

theorem strip_of_trimmed {t : Text} (h : Trimmed t) : strip t = t := PyText.strip_eq_self_iff.2 h

/-- The last character of a text that is cut. -/
theorem getLast_take {width : Nat} {t : Text} (hwidth : 0 < width) (hlong : width < t.length) :
    (t.take width).getLast? = t[width - 1]? := by
  rw [List.getLast?_eq_getElem?, List.length_take, Nat.min_eq_left hlong.le, List.getElem?_take_of_lt (by omega)]

/-- A text without white space at its ends has none after it is cut, unless it is cut behind white space. -/
theorem trimmed_take_iff {width : Nat} {t : Text} (hwidth : 0 < width) (ht : Trimmed t) :
    Trimmed (t.take width) ↔ ¬CutAtSpace width t := by
  have hhead : (t.take width).head? = t.head? := by rw [List.head?_take, if_neg hwidth.ne']
  by_cases hlong : width < t.length
  · have hlast : t[width - 1]? = some t[width - 1] := List.getElem?_eq_getElem _
    rw [Trimmed, CutAtSpace, hhead, getLast_take hwidth hlong, hlast, and_iff_right ht.1]
    simp [hlong]
  · rw [List.take_of_length_le (Nat.not_lt.1 hlong)]
    exact iff_of_true ht fun h => hlong h.1

theorem take_ne_nil {width : Nat} {t : Text} (hwidth : 0 < width) (ht : t ≠ []) : t.take width ≠ [] := by
  rw [Ne, List.take_eq_nil_iff]
  exact fun h => h.elim hwidth.ne' ht

/-- A text that opens without white space is not blank. -/
theorem strip_ne_nil_of_head {t : Text} (ht : t ≠ []) (hhead : ∀ c ∈ t.head?, isSpace c = false) : strip t ≠ [] := by
  obtain ⟨c, hc⟩ := Option.ne_none_iff_exists'.1 (fun h => ht (List.head?_eq_none_iff.1 h))
  exact PyText.strip_ne_nil hc (hhead c hc)

/-! ## Texts that are read again -/

theorem string_eq_some_iff {d : Datum} {text : Text} : string d = some text ↔ ∃ t, d = .str t ∧ text = strip t ∧ text ≠ [] := by
  cases d with
  | str t =>
    rw [string]
    by_cases h : strip t = []
    · simp [h]
    · simp only [if_neg h, Option.some.injEq, Datum.str.injEq, exists_eq_left']
      exact ⟨fun heq => ⟨heq.symm, heq ▸ h⟩, fun heq => heq.1.symm⟩
  | none | bool | int | float | mapping | list | tuple | object => simp [string]

/-- What `_string` reads is trimmed and not empty. -/
theorem trimmed_of_string {d : Datum} {text : Text} (h : string d = some text) : Trimmed text ∧ text ≠ [] := by
  obtain ⟨t, -, rfl, hne⟩ := string_eq_some_iff.1 h
  exact ⟨trimmed_strip t, hne⟩

theorem string_of_trimmed {t : Text} (ht : Trimmed t) (hne : t ≠ []) : string (.str t) = some t := by
  rw [string, strip_of_trimmed ht, if_neg hne]

/-- A text that is read once more. -/
theorem string_optional_string (d : Datum) : string (optional (string d)) = string d := by
  cases h : string d with
  | none => rfl
  | some text =>
    obtain ⟨ht, hne⟩ := trimmed_of_string h
    exact string_of_trimmed ht hne

/-- A text that is cut, and then read once more: it is what it was where no white space stands at the end of it. -/
theorem string_take_iff (width : Nat) {t : Text} (hwidth : 0 < width) (ht : Trimmed t) (hne : t ≠ []) :
    string (.str (t.take width)) = some (strip (t.take width)) ∧
      (strip (t.take width) = t.take width ↔ ¬CutAtSpace width t) := by
  have hhead : ∀ c ∈ (t.take width).head?, isSpace c = false := by
    rw [List.head?_take, if_neg hwidth.ne']
    exact ht.1
  constructor
  · rw [string, if_neg (strip_ne_nil_of_head (take_ne_nil hwidth hne) hhead)]
  · rw [PyText.strip_eq_self_iff]
    exact trimmed_take_iff hwidth ht

/-! ## Identifiers -/

variable {env}

theorem length_rtake_zfill (width : Nat) (t : Text) : ((zfill width t).rtake width).length = width := by
  rw [List.rtake, List.length_drop, PyText.length_zfill]
  omega

/-- A text of the width of its field is neither padded nor cut. -/
theorem rtake_zfill_of_length {width : Nat} {t : Text} (h : t.length = width) : (zfill width t).rtake width = t := by
  rw [PyText.zfill_of_le h.ge, List.rtake, h, Nat.sub_self, List.drop_zero]

/-- Short digits are padded to the width of their field. -/
theorem rtake_zfill_of_le {width : Nat} {t : Text} (h : t.length ≤ width) : (zfill width t).rtake width = zfill width t := by
  rw [List.rtake, PyText.length_zfill, Nat.max_eq_left h, Nat.sub_self, List.drop_zero]

/-- What `zfill` puts in front of a text that is too short: a zero, or the sign of the text. -/
theorem head_zfill {width : Nat} {t : Text} (h : t.length < width) {c : Char} (hc : (zfill width t).head? = some c) :
    c = '0' ∨ c = '+' ∨ c = '-' := by
  obtain ⟨zeros, hzeros⟩ : ∃ zeros, width - t.length = zeros + 1 := Nat.exists_eq_succ_of_ne_zero (by omega)
  cases t with
  | nil =>
    obtain ⟨zeros, rfl⟩ := Nat.exists_eq_succ_of_ne_zero (Nat.pos_iff_ne_zero.1 h)
    exact Or.inl (Option.some.inj hc).symm
  | cons d rest =>
    rw [zfill, hzeros] at hc
    split at hc
    · rename_i hsign
      cases Option.some.inj hc
      exact Or.inr hsign
    · exact Or.inl (Option.some.inj hc).symm

/-- A padded text opens with `0x` where one zero is put in front of an `x`. -/
theorem prefix_zfill_iff {width : Nat} {t : Text} (h : t.length < width) (hwidth : 1 < width) :
    "0x".toList <+: zfill width t ↔ t.length + 1 = width ∧ t.head? = some 'x' := by
  have hpair : ∀ u : Text, "0x".toList <+: u ↔ u.head? = some '0' ∧ u.tail.head? = some 'x' := by
    intro u
    rcases u with _ | ⟨c, _ | ⟨d, u⟩⟩
    · decide
    · simp
    · simp [List.cons_prefix_cons, eq_comm]
  rw [hpair]
  cases t with
  | nil =>
    obtain ⟨zeros, rfl⟩ : ∃ zeros, width = zeros + 2 := Nat.exists_eq_add_of_le' hwidth
    simp [zfill, List.replicate_succ]
  | cons d rest =>
    obtain ⟨zeros, hzeros⟩ : ∃ zeros, width - (d :: rest).length = zeros + 1 := Nat.exists_eq_succ_of_ne_zero (by omega)
    rw [zfill, hzeros]
    split
    · rename_i hsign
      rw [List.head?_cons, List.head?_cons]
      constructor
      · rintro ⟨hzero, -⟩
        cases Option.some.inj hzero
        exact absurd hsign (by decide)
      · rintro ⟨-, hx⟩
        cases Option.some.inj hx
        exact absurd hsign (by decide)
    · cases zeros with
      | zero =>
        have hone : rest.length + 1 + 1 = width := by
          rw [List.length_cons] at hzeros h
          omega
        simp [hone]
      | succ zeros =>
        have hmore : rest.length + 1 + 1 ≠ width := by
          rw [List.length_cons] at hzeros
          omega
        simp [List.replicate_succ, hmore]

/-- The last character of padded digits is no white space, where that of the digits is none. -/
theorem getLast_zfill (width : Nat) {t : Text} (hlast : ∀ c ∈ t.getLast?, isSpace c = false) :
    ∀ c ∈ (zfill width t).getLast?, isSpace c = false := by
  have hzeros : ∀ n : Nat, ∀ c ∈ (List.replicate n '0').getLast?, isSpace c = false := by
    intro n c hc
    rw [List.eq_of_mem_replicate (List.mem_of_getLast? hc)]
    rfl
  cases t with
  | nil => exact hzeros width
  | cons d rest =>
    rw [zfill]
    split
    · rw [List.getLast?_cons] at hlast ⊢
      rw [List.getLast?_append]
      cases hrest : rest.getLast? with
      | some e =>
        rw [hrest] at hlast
        exact hlast
      | none =>
        rw [hrest] at hlast
        cases hpadding : (List.replicate (width - (d :: rest).length) '0').getLast? with
        | none => exact hlast
        | some e =>
          rintro c ⟨⟩
          exact hzeros _ e hpadding
    · rw [List.getLast?_append_of_ne_nil _ (List.cons_ne_nil d rest)]
      exact hlast

theorem getLast_rtake (width : Nat) {t : Text} (hlast : ∀ c ∈ t.getLast?, isSpace c = false) :
    ∀ c ∈ (t.rtake width).getLast?, isSpace c = false := by
  intro c hc
  rw [List.rtake, List.getLast?_drop] at hc
  split at hc
  · cases hc
  · exact hlast c hc

/-- The digits that stay when they are padded or cut are those that make no new prefix. -/
theorem keepsDigits_iff {width : Nat} {t : Text} (hwidth : 1 < width) (hlast : ∀ c ∈ t.getLast?, isSpace c = false) :
    Trimmed ((zfill width t).rtake width) ∧ ¬"0x".toList <+: (zfill width t).rtake width ↔ KeepsDigits width t := by
  have hend : ∀ c ∈ ((zfill width t).rtake width).getLast?, isSpace c = false := getLast_rtake width (getLast_zfill width hlast)
  rw [Trimmed, and_iff_left hend]
  by_cases hlong : width ≤ t.length
  · rw [PyText.zfill_of_le hlong]
    exact ⟨fun h => ⟨fun _ => h, fun heq => absurd heq (by omega)⟩, fun h => h.cut hlong⟩
  · have hshort := Nat.not_le.1 hlong
    rw [rtake_zfill_of_le hshort.le, prefix_zfill_iff hshort hwidth]
    have hhead : ∀ c ∈ (zfill width t).head?, isSpace c = false := by
      intro c hc
      rcases head_zfill hshort hc with rfl | rfl | rfl <;> rfl
    rw [and_iff_right hhead]
    exact ⟨fun h => ⟨fun hle => absurd hle hlong, fun hone hx => h ⟨hone, hx⟩⟩, fun h hboth => h.pad hboth.1 hboth.2⟩

/-- The characters of padded digits are left as they are by `lower`. -/
theorem lower_rtake_zfill {width : Nat} {text s : Text} (hs : ∀ c ∈ s, c ∈ (zfill width (digitsOf env text)).rtake width) :
    env.lowerCase.lower s = s := by
  refine env.lowerCase.lower_lowered s fun c hc => ?_
  have hmem : c ∈ zfill width (digitsOf env text) := List.mem_of_mem_drop (hs c hc)
  rcases PyText.mem_zfill hmem with rfl | hdigit
  · exact ⟨['0'], by rw [env.lowerCase.lower_zero]; exact List.mem_singleton_self _⟩
  · rw [digitsOf, removePrefix] at hdigit
    split at hdigit
    · exact ⟨text, List.mem_of_mem_drop hdigit⟩
    · exact ⟨text, hdigit⟩

variable (env) in
theorem getLast_digitsOf {text : Text} (h : Trimmed text) : ∀ c ∈ (digitsOf env text).getLast?, isSpace c = false := by
  have hlower := env.lowerCase.getLast_lower text h.2
  rw [digitsOf, removePrefix]
  split
  · intro c hc
    rw [List.getLast?_drop] at hc
    split at hc
    · cases hc
    · exact hlower c hc
  · exact hlower

theorem length_removePrefix (part t : Text) :
    (removePrefix part t).length ≤ t.length ∧ (part <+: t → (removePrefix part t).length + part.length = t.length) := by
  rw [removePrefix]
  split
  · rename_i h
    rw [List.length_drop]
    have := h.length_le
    exact ⟨Nat.sub_le _ _, fun _ => by omega⟩
  · rename_i h
    exact ⟨le_rfl, fun hprefix => absurd hprefix h⟩

/-- An identifier is read as it was written where its digits stay. -/
theorem identifier_again_iff {width : Nat} {text : Text} (hwidth : 1 < width) (htext : Trimmed text) :
    identifier env (.str ((zfill width (digitsOf env text)).rtake width)) width =
        some ((zfill width (digitsOf env text)).rtake width) ↔ KeepsDigits width (digitsOf env text) := by
  rw [← keepsDigits_iff hwidth (getLast_digitsOf env htext)]
  have hend := getLast_rtake width (getLast_zfill width (getLast_digitsOf env htext))
  have hlower : ∀ s : Text, (∀ c ∈ s, c ∈ (zfill width (digitsOf env text)).rtake width) → env.lowerCase.lower s = s :=
    fun _ => lower_rtake_zfill
  have hlength := length_rtake_zfill width (digitsOf env text)
  generalize (zfill width (digitsOf env text)).rtake width = written at hend hlower hlength ⊢
  have hne : written ≠ [] := List.ne_nil_of_length_pos (by omega)
  constructor
  · intro hagain
    obtain ⟨read, hread, hpadded⟩ := Option.map_eq_some_iff.1 hagain
    obtain ⟨t, ht, rfl, -⟩ := string_eq_some_iff.1 hread
    obtain rfl := Datum.str.inj ht
    have hpart := PyText.isInfix_strip written
    have hwritten : (zfill width (digitsOf env (strip written))).rtake width = written := hpadded
    rw [digitsOf, hlower _ fun c hc => hpart.subset hc] at hwritten
    have hremoved := length_removePrefix "0x".toList (strip written)
    rw [rtake_zfill_of_le (hremoved.1.trans (hpart.length_le.trans_eq hlength))] at hwritten
    have htrimmed : Trimmed written := by
      refine ⟨fun c hc => ?_, hend⟩
      by_cases hshort : (removePrefix "0x".toList (strip written)).length < width
      · rw [← hwritten] at hc
        rcases head_zfill hshort hc with rfl | rfl | rfl <;> rfl
      · have hwhole : strip written = written := hpart.eq_of_length (le_antisymm hpart.length_le (by omega))
        exact PyText.head_strip written c (hwhole.symm ▸ hc)
    refine ⟨htrimmed, fun hprefix => ?_⟩
    -- the prefix is taken off, and zeros are put in the place of it
    rw [strip_of_trimmed htrimmed] at hwritten hremoved
    have hlost : (removePrefix "0x".toList written).length + 2 = width := (hremoved.2 hprefix).trans hlength
    rw [← hwritten] at hprefix
    obtain ⟨hone, -⟩ := (prefix_zfill_iff (by omega) hwidth).1 hprefix
    omega
  · rintro ⟨htrimmed, hprefix⟩
    rw [identifier, string_of_trimmed htrimmed hne, Option.map_some, digitsOf, hlower written fun c hc => hc,
      PyText.removePrefix_of_not hprefix, rtake_zfill_of_length hlength]

/-! ## Types -/

theorem normalizeEventType_of_short {t : Text} (h : t.length ≤ 128) : normalizeEventType t = strip t :=
  List.take_of_length_le ((PyText.isInfix_strip t).length_le.trans h)

variable (env) in
/-- The type of an event is short and not blank. -/
theorem eventType_short (record : Record) : (eventType env record).length ≤ 128 ∧ strip (eventType env record) ≠ [] := by
  have hclassified : (eventType.classified env record).length ≤ 128 ∧ strip (eventType.classified env record) ≠ [] := by
    rw [eventType.classified]
    generalize Tracing.classifySpan env _ _ = kind
    cases kind <;> decide
  rw [eventType]
  split
  · split
    · rename_i t _ hne
      refine ⟨List.length_take_le _ _, strip_ne_nil_of_head (take_ne_nil (by decide) hne) ?_⟩
      rw [normalizeEventType, List.head?_take, if_neg (by decide)]
      exact PyText.head_strip t
    · exact hclassified
  · exact hclassified

/-- A type that is exported is read as it is written. -/
theorem eventType_again {record exported : Record} (h : get exported "type" = .str (normalizeEventType (eventType env record))) :
    normalizeEventType (eventType env exported) = normalizeEventType (eventType env record) := by
  obtain ⟨hshort, hne⟩ := eventType_short env record
  generalize eventType env record = written at h hshort hne ⊢
  rw [normalizeEventType_of_short hshort] at h ⊢
  have hshort' : (strip written).length ≤ 128 := (PyText.isInfix_strip written).length_le.trans hshort
  have hread : eventType env exported = strip written := by
    simp only [eventType, h, PyText.strip_strip, ne_eq, hne, not_false_eq_true, if_true]
    rw [normalizeEventType_of_short hshort', PyText.strip_strip]
  rw [hread, normalizeEventType_of_short hshort', PyText.strip_strip]

/-! ## Fields that are optional -/

theorem cutTo_some {width : Nat} {t : Text} : cutTo width (some t) = if t = [] then none else some (t.take width) := by
  rw [cutTo, Option.filter_some]
  by_cases h : t = [] <;> simp [h]

/-- The first of two names is read where it has a value. -/
theorem getAny_optional {record : Record} {first second : String} {value : Option Text} (hfirst : get record first = optional value)
    (hsecond : get record second = .none) (hne : value ≠ some []) : getAny env record [first, second] = optional value := by
  rw [Python.getAny_cons, hfirst]
  cases value with
  | none => exact hsecond
  | some t =>
    refine if_pos ?_
    cases t with
    | nil => exact absurd rfl hne
    | cons => rfl

theorem getAny_str {record : Record} {first second : String} {t : Text} (hfirst : get record first = .str t) (hne : t ≠ []) :
    getAny env record [first, second] = .str t := by
  rw [Python.getAny_cons, hfirst, if_pos]
  cases t with
  | nil => exact absurd rfl hne
  | cons => rfl

theorem string_ne_some_nil (d : Datum) : string d ≠ some [] := fun h => (trimmed_of_string h).2 rfl

theorem getD_string_ne_nil {d : Datum} {fallback : Text} (hne : fallback ≠ []) : (string d).getD fallback ≠ [] := by
  cases h : string d with
  | none => exact hne
  | some t => exact (trimmed_of_string h).2

theorem identifier_ne_some_nil {width : Nat} (hwidth : 0 < width) (d : Datum) : identifier env d width ≠ some [] := by
  intro h
  obtain ⟨text, -, hnil⟩ := Option.map_eq_some_iff.1 h
  have hlength := length_rtake_zfill width (digitsOf env text)
  have hzero : width = 0 := hlength.symm.trans (congrArg List.length hnil)
  exact hwidth.ne' hzero

theorem identifier_optional_iff {width : Nat} (hwidth : 1 < width) (d : Datum) :
    identifier env (optional (identifier env d width)) width = identifier env d width ↔
      ∀ t, string d = some t → KeepsDigits width (digitsOf env t) := by
  cases h : string d with
  | none =>
    have hnone : identifier env d width = none := by rw [identifier, h, Option.map_none]
    rw [hnone]
    exact iff_of_true rfl fun t ht => nomatch ht
  | some text =>
    have hsome : identifier env d width = some ((zfill width (digitsOf env text)).rtake width) := by
      rw [identifier, h, Option.map_some]
    rw [hsome, optional, identifier_again_iff hwidth (trimmed_of_string h).1]
    exact ⟨fun hkeeps t ht => Option.some.inj ht ▸ hkeeps, fun hall => hall text rfl⟩

/-- A name that is cut when it is exported. -/
theorem name_again_iff (d : Datum) :
    cutTo 512 (string (optional (cutTo 512 (string d)))) = cutTo 512 (string d) ↔ ∀ t, string d = some t → ¬CutAtSpace 512 t := by
  cases h : string d with
  | none => exact iff_of_true rfl fun t ht => nomatch ht
  | some text =>
    obtain ⟨htrimmed, hne⟩ := trimmed_of_string h
    obtain ⟨hread, hiff⟩ := string_take_iff 512 (by decide) htrimmed hne
    have hcut : cutTo 512 (some text) = some (text.take 512) := by rw [cutTo_some, if_neg hne]
    have hshort : (strip (text.take 512)).length ≤ 512 := (PyText.isInfix_strip _).length_le.trans (List.length_take_le _ _)
    obtain ⟨-, hstrip⟩ := trimmed_of_string hread
    rw [hcut, optional, hread, cutTo_some, if_neg hstrip, List.take_of_length_le hshort, Option.some.injEq, hiff]
    exact ⟨fun hkeeps t ht => Option.some.inj ht ▸ hkeeps, fun hall => hall text rfl⟩

/-- A run identifier that is cut when it is imported. -/
theorem runId_again_iff {d : Datum} {fallback fallback' : Text} (hfallback : Trimmed fallback) (hne : fallback ≠ [])
    (hshort : fallback.length ≤ 256) :
    ((string (.str (((string d).getD fallback).take 256))).getD fallback').take 256 = ((string d).getD fallback).take 256 ↔
      ∀ t, string d = some t → ¬CutAtSpace 256 t := by
  have hcut : ∀ t : Text, Trimmed t → t ≠ [] →
      (((string (.str (t.take 256))).getD fallback').take 256 = t.take 256 ↔ ¬CutAtSpace 256 t) := by
    intro t ht htne
    obtain ⟨hread, hiff⟩ := string_take_iff 256 (by decide) ht htne
    have hlength : (strip (t.take 256)).length ≤ 256 := (PyText.isInfix_strip _).length_le.trans (List.length_take_le _ _)
    rw [hread, Option.getD_some, List.take_of_length_le hlength, hiff]
  cases h : string d with
  | none =>
    rw [Option.getD_none, hcut fallback hfallback hne]
    exact iff_of_true (fun hspace => absurd hspace.1 (Nat.not_lt.2 hshort)) fun t ht => nomatch ht
  | some text =>
    obtain ⟨htrimmed, htne⟩ := trimmed_of_string h
    rw [Option.getD_some, hcut text htrimmed htne]
    exact ⟨fun hkeeps t ht => Option.some.inj ht ▸ hkeeps, fun hall => hall text rfl⟩

theorem eventId_again {d : Datum} {fallback fallback' : Text} (hfallback : Trimmed fallback) (hne : fallback ≠ []) :
    (string (.str ((string d).getD fallback))).getD fallback' = (string d).getD fallback := by
  cases h : string d with
  | none => rw [Option.getD_none, string_of_trimmed hfallback hne, Option.getD_some]
  | some text =>
    obtain ⟨htrimmed, htne⟩ := trimmed_of_string h
    rw [Option.getD_some, string_of_trimmed htrimmed htne, Option.getD_some]

/-! ## The status -/

variable (env) in
/-- A status that is read again. -/
theorem status_cut {u : Text} (hshort : u.length ≤ 64) : ∃ st, status env (optional (cutTo 64 (some u))) = .ok st ∧
    (cutTo 64 st = cutTo 64 (some u) ↔ Trimmed u) := by
  by_cases hnil : u = []
  · subst hnil
    exact ⟨none, rfl, iff_of_true rfl (trimmed_strip [])⟩
  · have hcut : cutTo 64 (some u) = some u := by rw [cutTo_some, if_neg hnil, List.take_of_length_le hshort]
    have hstrip : (strip u).take 64 = strip u := List.take_of_length_le ((PyText.isInfix_strip u).length_le.trans hshort)
    rw [hcut, optional, status, hstrip]
    refine ⟨_, rfl, ?_⟩
    rw [show Trimmed u ↔ strip u = u from PyText.strip_eq_self_iff.symm]
    by_cases hblank : strip u = []
    · rw [if_pos hblank]
      exact iff_of_false (fun h => nomatch h) fun h => hnil (h.symm.trans hblank)
    · rw [if_neg hblank, cutTo_some, if_neg hblank, hstrip, Option.some.injEq]

theorem status_again {d : Datum} {st : Option Text} (h : status env d = .ok st) :
    ∃ st', status env (optional (cutTo 64 st)) = .ok st' ∧ (cutTo 64 st' = cutTo 64 st ↔ KeepsStatus env d) := by
  cases d with
  | str t =>
    have hcut := status_cut env (List.length_take_le 64 (strip t))
    rw [trimmed_take_iff (by decide) (trimmed_strip t)] at hcut
    rw [status] at h
    split at h <;> cases h
    · rename_i hnil
      rw [hnil] at hcut
      exact hcut
    · exact hcut
  | mapping value =>
    rw [status] at h
    rw [KeepsStatus]
    split at h
    · rename_i hnone
      cases h
      exact ⟨none, rfl, iff_of_true rfl fun hne => absurd hnone hne⟩
    · rename_i candidate hsome
      obtain ⟨t, ht, rfl⟩ := Outcome.map_ok h
      obtain ⟨st', hst', hiff⟩ := status_cut env (List.length_take_le 64 t)
      refine ⟨st', hst', hiff.trans ⟨fun htrimmed _ t' ht' => ?_, fun hall => hall hsome t ht⟩⟩
      obtain rfl := Except.ok.inj (ht.symm.trans ht')
      exact htrimmed
  | none | bool | int | float | list | tuple | object =>
    cases h
    exact ⟨none, rfl, iff_of_true rfl trivial⟩

/-! ## Events -/

theorem isSpace_alphabet : ∀ n < 32, isSpace (alphabet.getD n '0') = false := by decide

theorem encodeCrockford_spec (value length : Nat) :
    (encodeCrockford value length).length = length ∧ ∀ c ∈ encodeCrockford value length, isSpace c = false := by
  induction length generalizing value with
  | zero => exact ⟨rfl, fun c hc => absurd hc List.not_mem_nil⟩
  | succ length ih =>
    obtain ⟨hlength, hspace⟩ := ih (value / 32)
    rw [encodeCrockford]
    refine ⟨by rw [List.length_append, hlength, List.length_singleton], fun c hc => ?_⟩
    rcases List.mem_append.1 hc with hc | hc
    · exact hspace c hc
    · rw [List.mem_singleton.1 hc]
      exact isSpace_alphabet _ (Nat.mod_lt _ (by decide))

/-- An identifier that is drawn has no white space in it. -/
theorem secureId_spec (name : String) (hname : name.toList.any isSpace = false) (timestampMs bits : Nat) :
    Trimmed (secureId name timestampMs bits) ∧ secureId name timestampMs bits ≠ [] ∧
      (secureId name timestampMs bits).length = name.toList.length + 27 := by
  obtain ⟨htime, htimeSpace⟩ := encodeCrockford_spec (timestampMs % 2 ^ 48) 10
  obtain ⟨hbits, hbitsSpace⟩ := encodeCrockford_spec bits 16
  have hspace : ∀ c ∈ secureId name timestampMs bits, isSpace c = false := by
    intro c hc
    rcases List.mem_append.1 hc with hc | hc
    · exact Bool.eq_false_iff.2 (List.any_eq_false.1 hname c hc)
    rcases List.mem_cons.1 hc with rfl | hc
    · rfl
    · exact (List.mem_append.1 hc).elim (htimeSpace c) (hbitsSpace c)
  have hlength : (secureId name timestampMs bits).length = name.toList.length + 27 := by
    rw [secureId, List.length_append, List.length_cons, List.length_append, htime, hbits]
  exact ⟨PyText.strip_eq_self_iff.1 (PyText.strip_of_noSpace hspace), List.ne_nil_of_length_pos (by omega), hlength⟩

variable (env) in
/-- What names a run that a record does not name. -/
theorem fallback_spec (d : Datum) (timestampMs bits : Nat) :
    let fallback := match identifier env d 32 with
      | some traceId => "run_".toList ++ traceId
      | none => secureId "run" timestampMs bits
    Trimmed fallback ∧ fallback ≠ [] ∧ fallback.length ≤ 256 := by
  cases h : string d with
  | none =>
    obtain ⟨htrimmed, hne, hlength⟩ := secureId_spec "run" (by decide) timestampMs bits
    rw [identifier, h, Option.map_none]
    exact ⟨htrimmed, hne, hlength.trans_le (by decide)⟩
  | some text =>
    have hlast := getLast_rtake 32 (getLast_zfill 32 (getLast_digitsOf env (trimmed_of_string h).1))
    have hlength := length_rtake_zfill 32 (digitsOf env text)
    rw [identifier, h, Option.map_some]
    refine ⟨⟨fun c hc => ?_, ?_⟩, List.cons_ne_nil _ _, ?_⟩
    · cases Option.some.inj hc
      rfl
    · rw [List.getLast?_append_of_ne_nil _ (List.ne_nil_of_length_pos (by omega))]
      exact hlast
    · rw [List.length_append, hlength]
      decide

/-- Two events are exported alike where their fields are. -/
theorem toJsonDict_inj_iff {event event' : RuntimeEvent} : event'.toJsonDict = event.toJsonDict ↔
    event'.eventId = event.eventId ∧ event'.runId = event.runId ∧ event'.userId = event.userId ∧ event'.traceId = event.traceId ∧
      event'.spanId = event.spanId ∧ event'.parentSpanId = event.parentSpanId ∧
      normalizeEventType event'.type = normalizeEventType event.type ∧ cutTo 512 event'.name = cutTo 512 event.name ∧
      event'.timestampMs = event.timestampMs ∧ cutTo 64 event'.status = cutTo 64 event.status ∧
      event'.attributes = event.attributes := by
  have hoptional : ∀ v v' : Option Text, optional v = optional v' ↔ v = v' := by
    intro v v'
    cases v <;> cases v' <;> simp [optional]
  have hitems : ∀ items items' : Items, Python.ofItems items = Python.ofItems items' ↔ items = items' := by
    intro items items'
    refine ⟨fun h => ?_, congrArg _⟩
    rw [← Python.toItems_ofItems items, h, Python.toItems_ofItems]
  simp [RuntimeEvent.toJsonDict, hoptional, hitems]

theorem positiveInt_ok {d : Datum} {ms : Option Int} (h : positiveInt env d = .ok ms) : ∀ n ∈ ms, 0 < n := by
  rw [positiveInt] at h
  split at h
  · cases h
    intro n hn
    split at hn <;> cases hn
    assumption
  · cases h
    simp
  · cases h

variable (env) in
/-- The timestamp that is exported is read as it is written. -/
theorem timestamp_again (record : Record) {n : Int} (hn : 0 < n) (h : get record "timestamp_ms" = .int n) :
    timestampOf env record = .ok (.int n) ∧ positiveInt env (.int n) = .ok (some n) := by
  have hread : getAny env record ["timestamp_ms", "timestampMs"] = .int n := by
    rw [Python.getAny_cons, h, if_pos]
    exact bne_iff_ne.2 hn.ne'
  constructor
  · rw [timestampOf, hread]
  · simp only [positiveInt, Datum.toInt, if_pos hn]

/-- An event that is exported and read again. -/
theorem toEvent_again {policy : PrivacyPolicy} {draw : Draw} (draw' : Draw) {record : Record} (hdistinct : (Datum.mapping record).Distinct)
    {event : RuntimeEvent} (h : toEvent env policy draw record = .ok event) :
    ∃ again, toEvent env policy draw' event.toJsonDict = .ok again ∧ (again.toJsonDict = event.toJsonDict ↔ Stable env record) := by
  obtain ⟨timestamp, -, h⟩ := Outcome.bind_ok h
  obtain ⟨st, hst, h⟩ := Outcome.bind_ok h
  obtain ⟨ms, hms, h⟩ := Outcome.bind_ok h
  obtain ⟨st', hst', hstatus⟩ := status_again hst
  have hpositive : 0 < (builtEvent env policy draw record st ms).timestampMs := by
    cases ms with
    | none => exact Int.natCast_pos.2 draw.epochMs_pos
    | some n => exact positiveInt_ok hms n rfl
  obtain ⟨hfallback, hfallbackNe, hfallbackShort⟩ :=
    fallback_spec env (getAny env record ["trace_id", "traceId"]) draw.runMs draw.runBits
  obtain ⟨hevt, hevtNe, -⟩ := secureId_spec "evt" (by decide) draw.eventMs draw.eventBits
  have hattributes := distinct_toAttribute (distinct_attributesOf (distinct_get hdistinct "attributes"))
  obtain ⟨htimestamp, hread⟩ := timestamp_again env (builtEvent env policy draw record st ms).toJsonDict hpositive rfl
  obtain rfl : event = builtEvent env policy draw record st ms := (Except.ok.inj h).symm
  have hget : get (builtEvent env policy draw record st ms).toJsonDict "status" = optional (cutTo 64 st) := rfl
  refine ⟨builtEvent env policy draw' (builtEvent env policy draw record st ms).toJsonDict st'
    (some (builtEvent env policy draw record st ms).timestampMs), ?_, ?_⟩
  · rw [toEvent, htimestamp, Outcome.ok_bind, hget, hst', Outcome.ok_bind, hread]
    rfl
  · generalize hfirst : builtEvent env policy draw record st ms = event
    have heventId : getAny env event.toJsonDict ["event_id", "eventId"] = .str event.eventId :=
      getAny_str rfl (hfirst ▸ getD_string_ne_nil hevtNe)
    have hrunId : getAny env event.toJsonDict ["run_id", "runId"] = .str event.runId :=
      getAny_str rfl (hfirst ▸ take_ne_nil (by decide) (getD_string_ne_nil hfallbackNe))
    have huserId : getAny env event.toJsonDict ["user_id", "userId"] = optional event.userId :=
      getAny_optional rfl rfl (hfirst ▸ string_ne_some_nil _)
    have htraceId : getAny env event.toJsonDict ["trace_id", "traceId"] = optional event.traceId :=
      getAny_optional rfl rfl (hfirst ▸ identifier_ne_some_nil (by decide) _)
    have hspanId : getAny env event.toJsonDict ["span_id", "spanId"] = optional event.spanId :=
      getAny_optional rfl rfl (hfirst ▸ identifier_ne_some_nil (by decide) _)
    have hparent : getAny env event.toJsonDict ["parent_span_id", "parentSpanId"] = optional event.parentSpanId :=
      getAny_optional rfl rfl (hfirst ▸ identifier_ne_some_nil (by decide) _)
    have htype : normalizeEventType (eventType env event.toJsonDict) = normalizeEventType event.type := by
      subst hfirst
      exact eventType_again rfl
    have hattribute : Privacy.sanitize env.lowerCase.lower policy
        (some (Python.toItems (attributesOf (get event.toJsonDict "attributes")))) = event.attributes := by
      have hget : attributesOf (get event.toJsonDict "attributes") = Python.ofItems event.attributes := rfl
      rw [hget, Python.toItems_ofItems, ← hfirst]
      exact Privacy.IdempotentAux.sanitize_again hattributes
    rw [toJsonDict_inj_iff]
    simp only [builtEvent, heventId, hrunId, huserId, htraceId, hspanId, hparent, htype, hattribute, Option.getD_some, true_and,
      and_true]
    subst hfirst
    constructor
    · rintro ⟨-, hrun, -, htrace, hspan, hparentSpan, hname, hst⟩
      exact ⟨(name_again_iff _).1 hname, (runId_again_iff hfallback hfallbackNe hfallbackShort).1 hrun,
        (identifier_optional_iff (by decide) _).1 htrace, (identifier_optional_iff (by decide) _).1 hspan,
        (identifier_optional_iff (by decide) _).1 hparentSpan, hstatus.1 hst⟩
    · intro hstable
      exact ⟨eventId_again hevt hevtNe, (runId_again_iff hfallback hfallbackNe hfallbackShort).2 hstable.runId,
        string_optional_string _, (identifier_optional_iff (by decide) _).2 hstable.traceId,
        (identifier_optional_iff (by decide) _).2 hstable.spanId, (identifier_optional_iff (by decide) _).2 hstable.parentSpanId,
        (name_again_iff _).2 hstable.name, hstatus.2 hstable.status⟩

/-! ## The import -/

/-- The events of records, exported and read again one by one. -/
theorem mapM_again {policy : PrivacyPolicy} {draws : Nat → Draw} (draws' : Nat → Draw) {records : List Record}
    (hdistinct : ∀ record ∈ records, (Datum.mapping record).Distinct) {k : Nat} {events : List RuntimeEvent}
    (h : (records.zipIdx k).mapM (fun p => toEvent env policy (draws p.2) p.1) = .ok events) :
    ∃ again, ((events.map RuntimeEvent.toJsonDict).zipIdx k).mapM (fun p => toEvent env policy (draws' p.2) p.1) = .ok again ∧
      (again.map RuntimeEvent.toJsonDict = events.map RuntimeEvent.toJsonDict ↔ ∀ record ∈ records, Stable env record) := by
  induction records generalizing k events with
  | nil =>
    cases h
    exact ⟨[], rfl, iff_of_true rfl fun record hrecord => nomatch hrecord⟩
  | cons record records ih =>
    obtain ⟨hrecord, hdistinct⟩ := List.forall_mem_cons.1 hdistinct
    rw [List.zipIdx_cons, List.mapM_cons] at h
    obtain ⟨event, hevent, h⟩ := Outcome.bind_ok h
    obtain ⟨rest, hrest, h⟩ := Outcome.bind_ok h
    cases h
    obtain ⟨first, hfirst, hfirstIff⟩ := toEvent_again (draws' k) hrecord hevent
    obtain ⟨again, hagain, hagainIff⟩ := ih hdistinct hrest
    refine ⟨first :: again, ?_, ?_⟩
    · rw [List.map_cons, List.zipIdx_cons, List.mapM_cons, hfirst, Outcome.ok_bind, hagain]
      rfl
    · rw [List.map_cons, List.map_cons, List.cons.injEq, hfirstIff, hagainIff, List.forall_mem_cons]

theorem mappingsOf_map (records : List Record) : mappingsOf (records.map .mapping) = records := by
  induction records with
  | nil => rfl
  | cons record records ih =>
    rw [List.map_cons, mappingsOf, List.filterMap_cons]
    exact congrArg (record :: ·) ih

/-- The records of exported events are what each of them is exported as. -/
theorem recordsOf_exported {events : List RuntimeEvent} (hne : events ≠ []) :
    recordsOf env (.value (exported events)) = .ok (events.map RuntimeEvent.toJsonDict, "promptrail") := by
  have hlist : listField? [(.str "events".toList, .list (events.map fun event => .mapping event.toJsonDict))] "events" =
      some ((events.map RuntimeEvent.toJsonDict).map .mapping) := by
    rw [List.map_map]
    rfl
  rw [recordsOf, decodeSource, Outcome.ok_bind, exported, extractFrom, hlist]
  dsimp only
  rw [mappingRecordsOf, mappingsOf_map, if_neg fun h => hne (List.map_eq_nil_iff.1 h)]
  rfl

/-- An import that is accepted has read its records, and each of them as an event. -/
theorem importTraces_ok_iff {metadataOnly : Bool} {draws : Nat → Draw} {source : Source} {result : HistoricalImportResult} :
    importTraces env metadataOnly draws source = .ok result ↔ ∃ extracted events, recordsOf env source = .ok extracted ∧
      extracted.1.zipIdx.mapM (fun p => toEvent env (importPolicy metadataOnly) (draws p.2) p.1) = .ok events ∧ events ≠ [] ∧
      result = .ofEvents events extracted.2 := by
  constructor
  · intro h
    obtain ⟨extracted, hextracted, h⟩ := Outcome.bind_ok h
    obtain ⟨events, hevents, h⟩ := Outcome.bind_ok h
    obtain ⟨hne, h⟩ := Outcome.check_ok_iff.1 h
    exact ⟨extracted, events, hextracted, Outcome.mapError_ok_iff.1 hevents, fun hnil => hne (List.isEmpty_iff.2 hnil),
      (Except.ok.inj h).symm⟩
  · rintro ⟨extracted, events, hextracted, hevents, hne, rfl⟩
    rw [importTraces, hextracted, Outcome.ok_bind, Outcome.mapError_ok_iff.2 hevents, Outcome.ok_bind]
    exact Outcome.check_ok_iff.2 ⟨fun hempty => hne (List.isEmpty_iff.1 hempty), rfl⟩

end ProjectionAux

open ProjectionAux

/-- The events of an import, exported and imported again under the same mode, are exported as they were exactly where every record is
stable. -/
theorem import_projection_iff (metadataOnly : Bool) (draws draws' : Nat → Draw) {source : Source} (hdistinct : source.Distinct)
    {result : HistoricalImportResult} (h : importTraces env metadataOnly draws source = .ok result) :
    (∃ again, importTraces env metadataOnly draws' (.value (exported result.events)) = .ok again ∧
        again.events.map RuntimeEvent.toJsonDict = result.events.map RuntimeEvent.toJsonDict) ↔
      source.Stable env := by
  obtain ⟨extracted, events, hextracted, hevents, hne, rfl⟩ := importTraces_ok_iff.1 h
  obtain ⟨raw, hraw, hread⟩ := Outcome.bind_ok hextracted
  have hrecords := distinct_extractFrom (distinct_decodeSource hdistinct hraw) hread
  obtain ⟨again, hagain, hiff⟩ := mapM_again draws' hrecords hevents
  have hstable : source.Stable env ↔ ∀ record ∈ extracted.1, Stable env record :=
    ⟨fun hall => hall extracted hextracted, fun hall other hother => Except.ok.inj (hextracted.symm.trans hother) ▸ hall⟩
  rw [hstable, ← hiff]
  constructor
  · rintro ⟨other, hother, heq⟩
    obtain ⟨extracted', events', hextracted', hevents', -, rfl⟩ := importTraces_ok_iff.1 hother
    obtain rfl := Except.ok.inj ((recordsOf_exported hne).symm.trans hextracted')
    obtain rfl := Except.ok.inj (hagain.symm.trans hevents')
    exact heq
  · intro heq
    have hagainNe : again ≠ [] := by
      rintro rfl
      exact hne (List.map_eq_nil_iff.1 heq.symm)
    exact ⟨_, importTraces_ok_iff.2 ⟨_, again, recordsOf_exported hne, hagain, hagainNe, rfl⟩, heq⟩

/-- An interpreter that knows the texts of ASCII, and objects of no use. -/
def asciiInterpreter : Interpreter where
  lowerCase := PyText.asciiLower
  decimal _ := none
  float _ := none
  repr _ := .error (.conversion "no text")
  truthy _ := true
  integer _ := .error (.conversion "no number")
  iterate _ := none
  distinct_iterate _ _ h := nomatch h

/-- The first draw of all. -/
def firstDraw : Draw where
  runMs := 0
  runBits := 0
  eventMs := 0
  eventBits := 0
  epochMs := 1
  epochMs_pos := Nat.one_pos

/-- A span whose identifier has a prefix, and whose status has a message. -/
def messageSpan (message : String) : Record :=
  [(.str "traceId".toList, .str "0xAB".toList), (.str "name".toList, .str " plan step ".toList),
    (.str "status".toList, .mapping [(.str "message".toList, .str message.toList)])]

/-- One span. -/
def messageSource (message : String) : Source := .value (.mapping [(.str "spans".toList, .list [.mapping (messageSpan message)])])

theorem distinct_messageSource (message : String) : (messageSource message).Distinct := by
  refine ⟨List.nodup_singleton _, ⟨?_, trivial⟩, trivial⟩
  have hkeys : [Key.str "traceId".toList, .str "name".toList, .str "status".toList].Nodup := by decide
  exact ⟨hkeys, trivial, trivial, ⟨List.nodup_singleton _, trivial, trivial⟩, trivial⟩

/-- A span whose message has no white space at its ends. -/
theorem import_projection_message :
    ∃ result, importTraces asciiInterpreter true (fun _ => firstDraw) (messageSource "late") = .ok result ∧
      ∃ again, importTraces asciiInterpreter true (fun _ => firstDraw) (.value (exported result.events)) = .ok again ∧
        again.events.map RuntimeEvent.toJsonDict = result.events.map RuntimeEvent.toJsonDict := by
  refine ⟨_, rfl, (import_projection_iff asciiInterpreter true (fun _ => firstDraw) (fun _ => firstDraw)
    (distinct_messageSource "late") rfl).2 ?_⟩
  rintro _ ⟨⟩ record hrecord
  obtain rfl := List.mem_singleton.1 hrecord
  have hcut : ∀ {width : Nat} {t : Text}, t.length ≤ width → ¬CutAtSpace width t := fun hle h => absurd h.1 (Nat.not_lt.2 hle)
  refine ⟨?_, nofun, ?_, nofun, nofun, ?_⟩
  · rintro _ ⟨⟩
    exact hcut (by decide)
  · rintro _ ⟨⟩
    exact ⟨fun hle => absurd hle (by decide), fun heq => absurd heq (by decide)⟩
  · rintro - _ ⟨⟩
    exact PyText.strip_eq_self_iff.1 rfl

/-- A message that ends in a line feed is stripped by the second import. -/
theorem import_not_projection : ¬∀ (env : Interpreter) (metadataOnly : Bool) (draws draws' : Nat → Draw) (source : Source)
    (result : HistoricalImportResult), source.Distinct → importTraces env metadataOnly draws source = .ok result →
      ∃ again, importTraces env metadataOnly draws' (.value (exported result.events)) = .ok again ∧
        again.events.map RuntimeEvent.toJsonDict = result.events.map RuntimeEvent.toJsonDict := by
  intro hall
  obtain ⟨again, hagain, heq⟩ := hall asciiInterpreter true (fun _ => firstDraw) (fun _ => firstDraw) (messageSource "late\n") _
    (distinct_messageSource "late\n") rfl
  cases hagain
  have hstatus := congrArg (List.map fun event => ((get event "status").toText asciiInterpreter).toOption) heq
  exact absurd hstatus (by decide)

end Historical

end PromptRail
