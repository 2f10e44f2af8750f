import PromptRail.Propagation

/-!
# What is written into a header

The values of PromptRail's own headers pass the sanitiser and hold no line break. The `traceparent` does not pass it: it is made of what
`int` accepts as a hexadecimal number, which may have a sign, a prefix, underscores, white space and the digits of other scripts in it.
-/

namespace PromptRail

namespace Propagation

open PyText (Text casefold foldChar)

/-- A hexadecimal digit. -/
def isHexDigit (c : Char) : Bool := ('0' ≤ c && c ≤ '9') || ('a' ≤ c && c ≤ 'f') || ('A' ≤ c && c ≤ 'F')

/-- A hexadecimal digit in lower case. -/
def isLowerHex (c : Char) : Bool := ('0' ≤ c && c ≤ '9') || ('a' ≤ c && c ≤ 'f')

/-- An identifier of a trace context: hexadecimal digits in lower case, not all of them zero. -/
structure IsTraceField (length : Nat) (t : Text) : Prop where
  length : t.length = length
  digits : ∀ c ∈ t, isLowerHex c = true
  nonzero : ∃ c ∈ t, c ≠ '0'

/-- A `traceparent` of version 00 that is sampled. -/
def IsTraceparent (t : Text) : Prop :=
  ∃ traceId spanId, t = traceparentOf traceId spanId ∧ IsTraceField 32 traceId ∧ IsTraceField 16 spanId

/-- No line break stands in a text. -/
def OneLine (t : Text) : Prop := ∀ c ∈ t, c ≠ '\r' ∧ c ≠ '\n'

variable (around : Surroundings)

/-- The headers that `inject_headers` writes itself for the gateway. -/
def Surroundings.written (ensureRun : Bool) (headers : Headers) : Headers :=
  ((around.traceparent (around.identity ensureRun) (around.propagate (ofPassed headers))).map fun t => ("traceparent".toList, t)).toList ++
    around.privateHeaders (around.identity ensureRun)

/-- The headers that are written are well formed. -/
structure WellFormedHeaders (ensureRun : Bool) (headers : Headers) : Prop where
  oneLine : ∀ p ∈ around.written ensureRun headers, OneLine p.2
  traceparent : ∀ t, around.traceparent (around.identity ensureRun) (around.propagate (ofPassed headers)) = some t → IsTraceparent t

/-- Where a `traceparent` is synthesised, the identifiers of the context are spelled in hexadecimal digits. -/
def HexIdentity (ensureRun : Bool) (headers : Headers) : Prop :=
  ∀ traceId spanId, (around.identity ensureRun).traceId = some traceId → (around.identity ensureRun).spanId = some spanId →
    validHex around.decimal traceId 32 = true → validHex around.decimal spanId 16 = true →
    traceparentMatches (headerValue (around.propagate (ofPassed headers)) "traceparent") (casefold traceId) (casefold spanId) = false →
    (∀ c ∈ traceId, isHexDigit c = true) ∧ ∀ c ∈ spanId, isHexDigit c = true

namespace TraceparentAux

/-! ## Digits -/

/-- A hexadecimal digit is folded to one in lower case. -/
theorem foldChar_hexDigit {c : Char} (h : isHexDigit c = true) :
    foldChar c = [c.toLower] ∧ isLowerHex c.toLower = true ∧ (c.toLower = '0' → c = '0') := by
  have hall : ∀ n < 103, isHexDigit (Char.ofNat n) = true → foldChar (Char.ofNat n) = [(Char.ofNat n).toLower] ∧
      isLowerHex (Char.ofNat n).toLower = true ∧ ((Char.ofNat n).toLower = '0' → Char.ofNat n = '0') := by decide
  have hbound : c.toNat < 103 := by
    simp only [isHexDigit, Bool.or_eq_true, Bool.and_eq_true, decide_eq_true_eq, Char.le_def, UInt32.le_iff_toNat_le] at h
    show c.val.toNat < 103
    rcases h with (⟨-, h⟩ | ⟨-, h⟩) | ⟨-, h⟩
    · exact lt_of_le_of_lt h (by decide)
    · exact lt_of_le_of_lt h (by decide)
    · exact lt_of_le_of_lt h (by decide)
  have hc := hall c.toNat hbound
  rw [Char.ofNat_toNat] at hc
  exact hc h

/-- What a character may be folded to: one in lower case, one of two letters, or more than one character. -/
def Folding (c : Char) (t : Text) : Prop := t = [c.toLower] ∨ t = ['s'] ∨ t = ['k'] ∨ 2 ≤ t.length

theorem folding_ite {c : Char} {p : Prop} [Decidable p] {s t : Text} (hs : Folding c s) (ht : Folding c t) :
    Folding c (if p then s else t) := by
  split
  · exact hs
  · exact ht

theorem folding_foldChar (c : Char) : Folding c (foldChar c) := by
  unfold foldChar
  dsimp only
  repeat' apply folding_ite
  all_goals simp [Folding]

/-- What is folded to a digit in lower case is a digit. -/
theorem hexDigit_of_foldChar {c d : Char} (hfold : foldChar c = [d]) (hd : isLowerHex d = true) : isHexDigit c = true := by
  have hlower : d = c.toLower ∨ d = 's' ∨ d = 'k' := by
    have hcases := folding_foldChar c
    rw [hfold] at hcases
    simpa [Folding] using hcases
  rcases hlower with rfl | rfl | rfl
  · rcases PyText.toLower_cases c with hsame | ⟨hlow, hhigh, -⟩
    · rw [hsame] at hd
      simp only [isLowerHex, isHexDigit, Bool.or_eq_true] at hd ⊢
      exact Or.inl hd
    · have hall : ∀ n ≤ 25, isLowerHex (Char.ofNat (65 + n)).toLower = true → isHexDigit (Char.ofNat (65 + n)) = true := by decide
      have hc := hall (c.toNat - 65) (by omega)
      rw [Nat.add_sub_cancel' hlow, Char.ofNat_toNat] at hc
      exact hc hd
  · cases hd
  · cases hd

theorem length_foldChar (c : Char) : 1 ≤ (foldChar c).length := by
  rcases folding_foldChar c with h | h | h | h
  · exact h ▸ Nat.le_refl 1
  · exact h ▸ Nat.le_refl 1
  · exact h ▸ Nat.le_refl 1
  · exact Nat.le_of_succ_le h

/-- Folding makes no text shorter. -/
theorem length_casefold (t : Text) : t.length ≤ (casefold t).length := by
  induction t with
  | nil => exact Nat.le_refl 0
  | cons c t ih =>
    have := length_foldChar c
    rw [casefold, List.flatMap_cons, List.length_append, List.length_cons]
    rw [casefold] at ih
    omega

/-- A text that is folded to as many digits consists of digits. -/
theorem hexDigits_of_casefold {t : Text} (hlength : (casefold t).length = t.length) (h : ∀ d ∈ casefold t, isLowerHex d = true) :
    ∀ c ∈ t, isHexDigit c = true := by
  induction t with
  | nil => exact fun c hc => absurd hc List.not_mem_nil
  | cons c t ih =>
    have hc := length_foldChar c
    have ht := length_casefold t
    rw [casefold, List.flatMap_cons] at hlength h
    rw [casefold] at ht ih
    rw [List.length_append, List.length_cons] at hlength
    obtain ⟨d, hd⟩ := List.length_eq_one_iff.1 (show (foldChar c).length = 1 by omega)
    rw [List.forall_mem_append] at h
    refine List.forall_mem_cons.2 ⟨hexDigit_of_foldChar hd (h.1 d (hd ▸ List.mem_singleton_self d)), ih (by omega) h.2⟩

/-- Digits are folded one by one. -/
theorem casefold_hexDigits {t : Text} (h : ∀ c ∈ t, isHexDigit c = true) : casefold t = t.map Char.toLower := by
  induction t with
  | nil => rfl
  | cons c t ih =>
    obtain ⟨hc, ht⟩ := List.forall_mem_cons.1 h
    rw [casefold, List.flatMap_cons, (foldChar_hexDigit hc).1]
    exact congrArg (c.toLower :: ·) (ih ht)

variable {decimal : Char → Option Nat}

/-- Zeros spell zero. -/
theorem parse_zeros (decimal : Char → Option Nat) :
    PyInt.parse decimal 16 (List.replicate 32 '0') = some 0 ∧ PyInt.parse decimal 16 (List.replicate 16 '0') = some 0 := by
  have hascii : ∀ n : Nat, (List.replicate n '0').map (PyInt.toAscii decimal) = List.replicate n '0' := fun n => List.map_replicate
  rw [PyInt.parse, PyInt.parse, hascii, hascii]
  decide +kernel

/-- The digits of a number that is not zero make a field of a trace context. -/
theorem isTraceField_casefold {t : Text} {length : Nat} (hzero : PyInt.parse decimal 16 (List.replicate length '0') = some 0)
    (hvalid : validHex decimal t length = true) (h : ∀ c ∈ t, isHexDigit c = true) : IsTraceField length (casefold t) := by
  rw [validHex, Bool.and_eq_true, beq_iff_eq] at hvalid
  rw [casefold_hexDigits h]
  refine ⟨by rw [List.length_map, hvalid.1], ?_, ?_⟩
  · rw [List.forall_mem_map]
    exact fun c hc => (foldChar_hexDigit (h c hc)).2.1
  · by_contra hall
    push Not at hall
    have ht : t = List.replicate length '0' := by
      refine List.eq_replicate_iff.2 ⟨hvalid.1, fun c hc => ?_⟩
      exact (foldChar_hexDigit (h c hc)).2.2 (hall _ (List.mem_map_of_mem hc))
    have hparse := hvalid.2
    rw [ht, hzero] at hparse
    cases hparse

theorem length_of_canonicalHex {value : Option Text} {length : Nat} {t : Text} (h : canonicalHex decimal value length = some t) :
    ∃ v, value = some v ∧ validHex decimal v length = true ∧ t = casefold v := by
  obtain ⟨v, hv, rfl⟩ := Option.map_eq_some_iff.1 h
  obtain ⟨hvalue, hvalid⟩ := Option.filter_eq_some_iff.1 hv
  exact ⟨v, hvalue, hvalid, rfl⟩

/-! ## The parts of a `traceparent` -/

/-- The parts of a text that is not too long for them. -/
theorem traceparentOf_inj {a b a' b' : Text} (h : traceparentOf a b = traceparentOf a' b') (ha : a'.length ≤ a.length)
    (hb : b'.length ≤ b.length) : a = a' ∧ b = b' := by
  rw [traceparentOf, traceparentOf, List.append_assoc, List.append_assoc] at h
  have hrest := List.append_cancel_left h
  have hlength := congrArg List.length hrest
  simp only [List.length_append, List.length_cons] at hlength
  obtain ⟨rfl, htail⟩ := List.append_inj hrest (by omega)
  exact ⟨rfl, List.append_cancel_right (List.cons.inj htail).2⟩

/-- A synthesised `traceparent` names the identifiers of the context. -/
theorem traceparent_eq_some_iff {around : Surroundings} {context : RuntimeContext} {headers : Headers} {t : Text} :
    around.traceparent context headers = some t ↔ ∃ traceId spanId, context.traceId = some traceId ∧ context.spanId = some spanId ∧
      validHex around.decimal traceId 32 = true ∧ validHex around.decimal spanId 16 = true ∧
      traceparentMatches (headerValue headers "traceparent") (casefold traceId) (casefold spanId) = false ∧
      t = traceparentOf (casefold traceId) (casefold spanId) := by
  constructor
  · intro h
    rw [Surroundings.traceparent] at h
    split at h
    · rename_i traceId spanId htrace hspan
      obtain ⟨trace, hctx, hvalid, rfl⟩ := length_of_canonicalHex htrace
      obtain ⟨span, hctx', hvalid', rfl⟩ := length_of_canonicalHex hspan
      split at h
      · cases h
      · rename_i hmatch
        cases h
        exact ⟨trace, span, hctx, hctx', hvalid, hvalid', Bool.eq_false_iff.2 hmatch, rfl⟩
    · cases h
  · rintro ⟨traceId, spanId, htrace, hspan, hvalid, hvalid', hmatch, rfl⟩
    have hcanonical : canonicalHex around.decimal context.traceId 32 = some (casefold traceId) := by
      rw [canonicalHex, htrace, Option.filter_some, if_pos hvalid, Option.map_some]
    have hcanonical' : canonicalHex around.decimal context.spanId 16 = some (casefold spanId) := by
      rw [canonicalHex, hspan, Option.filter_some, if_pos hvalid', Option.map_some]
    rw [Surroundings.traceparent, hcanonical, hcanonical']
    exact if_neg (Bool.eq_false_iff.1 hmatch)

/-- A synthesised `traceparent` is well formed where the identifiers are spelled in digits. -/
theorem isTraceparent_iff {traceId spanId : Text} (htrace : validHex decimal traceId 32 = true)
    (hspan : validHex decimal spanId 16 = true) : IsTraceparent (traceparentOf (casefold traceId) (casefold spanId)) ↔
      (∀ c ∈ traceId, isHexDigit c = true) ∧ ∀ c ∈ spanId, isHexDigit c = true := by
  constructor
  · rintro ⟨trace, span, heq, hfield, hfield'⟩
    have hlength : traceId.length = 32 := beq_iff_eq.1 (Bool.and_eq_true_iff.1 htrace).1
    have hlength' : spanId.length = 16 := beq_iff_eq.1 (Bool.and_eq_true_iff.1 hspan).1
    have hfold := length_casefold traceId
    have hfold' := length_casefold spanId
    obtain ⟨rfl, rfl⟩ := traceparentOf_inj heq (hfield.length.trans_le (hlength ▸ hfold)) (hfield'.length.trans_le (hlength' ▸ hfold'))
    exact ⟨hexDigits_of_casefold (hfield.length.trans hlength.symm) hfield.digits,
      hexDigits_of_casefold (hfield'.length.trans hlength'.symm) hfield'.digits⟩
  · rintro ⟨hdigits, hdigits'⟩
    exact ⟨_, _, rfl, isTraceField_casefold (parse_zeros decimal).1 htrace hdigits,
      isTraceField_casefold (parse_zeros decimal).2 hspan hdigits'⟩

/-! ## Line breaks -/

theorem oneLine_of_all {t : Text} (h : (t.all fun c => c != '\r' && c != '\n') = true) : OneLine t := by
  intro c hc
  have hchar := List.all_eq_true.1 h c hc
  rw [Bool.and_eq_true, bne_iff_ne, bne_iff_ne] at hchar
  exact hchar

theorem oneLine_of_isLowerHex {t : Text} (h : ∀ c ∈ t, isLowerHex c = true) : OneLine t := by
  intro c hc
  have hdigit := h c hc
  constructor <;> rintro rfl <;> cases hdigit

theorem oneLine_append {s t : Text} (hs : OneLine s) (ht : OneLine t) : OneLine (s ++ t) := by
  intro c hc
  exact (List.mem_append.1 hc).elim (hs c) (ht c)

theorem oneLine_isTraceparent {t : Text} (h : IsTraceparent t) : OneLine t := by
  obtain ⟨trace, span, rfl, hfield, hfield'⟩ := h
  have hends : OneLine "00-".toList ∧ OneLine ['-'] ∧ OneLine "-01".toList :=
    ⟨oneLine_of_all (by decide), oneLine_of_all (by decide), oneLine_of_all (by decide)⟩
  have hspan := oneLine_append (oneLine_of_isLowerHex hfield'.digits) hends.2.2
  exact oneLine_append (oneLine_append hends.1 (oneLine_of_isLowerHex hfield.digits)) (oneLine_append hends.2.1 hspan)

/-- What is quoted is written in digits, letters and marks. -/
theorem oneLine_quoteHeader (t : Text) : OneLine (Runtime.quoteHeader t) := by
  have hbyte : ∀ n < 256, ((Runtime.quoteByte (UInt8.ofNat n)).all fun c => c != '\r' && c != '\n') = true := by decide +kernel
  intro c hc
  obtain ⟨d, -, hc⟩ := List.mem_flatMap.1 hc
  split at hc
  · rename_i hplain
    obtain rfl := List.mem_singleton.1 hc
    constructor <;> rintro rfl <;> exact absurd hplain (by decide)
  · obtain ⟨byte, -, hc⟩ := List.mem_flatMap.1 hc
    have hquoted := hbyte byte.toNat byte.toNat_lt
    rw [UInt8.ofNat_toNat] at hquoted
    exact oneLine_of_all hquoted c hc

/-- The sanitiser leaves no line break. -/
theorem oneLine_safeHeaderValue (t : Text) : OneLine (Runtime.safeHeaderValue t) := by
  unfold Runtime.safeHeaderValue
  dsimp only
  split
  · exact oneLine_of_all (List.all_eq_true.2 fun c hc => (List.mem_filter.1 (List.mem_of_mem_take hc)).2)
  · exact oneLine_quoteHeader _

theorem oneLine_privateHeaders (around : Surroundings) (context : RuntimeContext) : ∀ p ∈ around.privateHeaders context, OneLine p.2 := by
  intro p hp
  obtain ⟨q, -, hq⟩ := List.mem_filterMap.1 hp
  obtain ⟨value, -, rfl⟩ := Option.map_eq_some_iff.1 hq
  exact oneLine_safeHeaderValue value

/-! ## What a request carries -/

theorem mem_setHeader {headers : Headers} {name value : Text} {p : Text × Text} (h : p ∈ setHeader headers name value) :
    p = (name, value) ∨ p ∈ headers := by
  induction headers with
  | nil => exact Or.inl (List.mem_singleton.1 h)
  | cons q rest ih =>
    obtain ⟨name', value'⟩ := q
    rw [setHeader] at h
    split at h
    · exact (List.mem_cons.1 h).imp id (List.mem_cons_of_mem _)
    · rcases List.mem_cons.1 h with rfl | h
      · exact Or.inr List.mem_cons_self
      · exact (ih h).imp id (List.mem_cons_of_mem _)

theorem mem_setHeader_self (headers : Headers) (name value : Text) : (name, value) ∈ setHeader headers name value := by
  induction headers with
  | nil => exact List.mem_singleton_self _
  | cons q rest ih =>
    obtain ⟨name', value'⟩ := q
    rw [setHeader]
    split
    · exact List.mem_cons_self
    · exact List.mem_cons_of_mem _ ih

theorem mem_setHeader_of_ne {headers : Headers} {name value : Text} {p : Text × Text} (hp : p ∈ headers) (hne : p.1 ≠ name) :
    p ∈ setHeader headers name value := by
  induction headers with
  | nil => cases hp
  | cons q rest ih =>
    obtain ⟨name', value'⟩ := q
    rw [setHeader]
    rcases List.mem_cons.1 hp with rfl | hp
    · rw [if_neg hne]
      exact List.mem_cons_self
    · split
      · exact List.mem_cons_of_mem _ hp
      · exact List.mem_cons_of_mem _ (ih hp)

/-- Headers that are set one after the other stand among the others, where no two have one name. -/
theorem mem_foldl_setHeader {writes headers : Headers} (hnodup : (writes.map Prod.fst).Nodup) {p : Text × Text}
    (hp : p ∈ writes ∨ p ∈ headers ∧ p.1 ∉ writes.map Prod.fst) :
    p ∈ writes.foldl (fun output p => setHeader output p.1 p.2) headers := by
  induction writes generalizing headers with
  | nil => exact hp.elim (fun h => absurd h List.not_mem_nil) fun h => h.1
  | cons q writes ih =>
    rw [List.map_cons, List.nodup_cons] at hnodup
    refine ih hnodup.2 ?_
    rcases hp with hp | ⟨hp, hother⟩
    · rcases List.mem_cons.1 hp with rfl | hp
      · exact Or.inr ⟨mem_setHeader_self _ _ _, hnodup.1⟩
      · exact Or.inl hp
    · rw [List.map_cons, List.mem_cons, not_or] at hother
      exact Or.inr ⟨mem_setHeader_of_ne hp hother.1, hother.2⟩

theorem mem_of_foldl_setHeader {writes headers : Headers} {p : Text × Text}
    (hp : p ∈ writes.foldl (fun output p => setHeader output p.1 p.2) headers) : p ∈ writes ∨ p ∈ headers := by
  induction writes generalizing headers with
  | nil => exact Or.inr hp
  | cons q writes ih =>
    rcases ih hp with hp | hp
    · exact Or.inl (List.mem_cons_of_mem _ hp)
    · rcases mem_setHeader hp with rfl | hp
      · exact Or.inl List.mem_cons_self
      · exact Or.inr hp

/-- PromptRail's own headers have names of their own. -/
theorem privateHeaders_names (around : Surroundings) (context : RuntimeContext) :
    ((around.privateHeaders context).map Prod.fst).Sublist (promptrailHeaders.map String.toList) := by
  have hnames : promptrailHeaders = (around.values context).map Prod.fst := rfl
  rw [Surroundings.privateHeaders, hnames]
  generalize around.values context = values
  induction values with
  | nil => exact List.Sublist.slnil
  | cons p values ih =>
    obtain ⟨name, value⟩ := p
    cases value with
    | none => exact ih.cons _
    | some value => exact ih.cons_cons _

theorem mem_removePrivateHeaders_iff {headers : Headers} {p : Text × Text} :
    p ∈ removePrivateHeaders headers ↔ p ∈ headers ∧ ∀ name ∈ promptrailHeaders, casefold p.1 ≠ name.toList := by
  rw [removePrivateHeaders]
  generalize promptrailHeaders = names
  induction names generalizing headers with
  | nil => simp
  | cons name names ih =>
    rw [List.foldl_cons, ih, removeHeader, List.mem_filter, bne_iff_ne, List.forall_mem_cons, and_assoc]

end TraceparentAux

open TraceparentAux

/-- The headers that are written for the gateway are well formed exactly where a `traceparent` that is synthesised names identifiers in
hexadecimal digits. -/
theorem injected_wellFormed_iff (ensureRun : Bool) (headers : Headers) :
    WellFormedHeaders around ensureRun headers ↔ HexIdentity around ensureRun headers := by
  constructor
  · intro h traceId spanId htrace hspan hvalid hvalid' hmatch
    exact (isTraceparent_iff hvalid hvalid').1 (h.traceparent _ (traceparent_eq_some_iff.2
      ⟨traceId, spanId, htrace, hspan, hvalid, hvalid', hmatch, rfl⟩))
  · intro h
    have htraceparent : ∀ t, around.traceparent (around.identity ensureRun) (around.propagate (ofPassed headers)) = some t →
        IsTraceparent t := by
      intro t ht
      obtain ⟨traceId, spanId, htrace, hspan, hvalid, hvalid', hmatch, rfl⟩ := traceparent_eq_some_iff.1 ht
      exact (isTraceparent_iff hvalid hvalid').2 (h traceId spanId htrace hspan hvalid hvalid' hmatch)
    refine ⟨fun p hp => ?_, htraceparent⟩
    rcases List.mem_append.1 hp with hp | hp
    · obtain ⟨t, ht, rfl⟩ := Option.map_eq_some_iff.1 (Option.mem_toList.1 hp)
      exact oneLine_isTraceparent (htraceparent t ht)
    · exact oneLine_privateHeaders around _ p hp

/-- A request to the gateway carries every header that is written, and no others than these and what the propagator left. -/
theorem mem_injectHeaders (ensureRun : Bool) (headers : Headers) (p : Text × Text) :
    (p ∈ around.written ensureRun headers → p ∈ injectHeaders around true ensureRun headers) ∧
      (p ∈ injectHeaders around true ensureRun headers →
        p ∈ around.written ensureRun headers ∨ p ∈ around.propagate (ofPassed headers)) := by
  have hnames := privateHeaders_names around (around.identity ensureRun)
  have hnodup : ((around.privateHeaders (around.identity ensureRun)).map Prod.fst).Nodup := hnames.nodup (by decide)
  have htraceparent : "traceparent".toList ∉ (around.privateHeaders (around.identity ensureRun)).map Prod.fst := fun hmem =>
    absurd (hnames.subset hmem) (by decide)
  have hpublic : ∀ name ∈ promptrailHeaders, casefold "traceparent".toList ≠ name.toList := by decide
  rw [Surroundings.written, injectHeaders, if_neg (by decide)]
  dsimp only
  constructor
  · intro hp
    rcases List.mem_append.1 hp with hp | hp
    · obtain ⟨t, ht, rfl⟩ := Option.map_eq_some_iff.1 (Option.mem_toList.1 hp)
      refine mem_foldl_setHeader hnodup (Or.inr ⟨mem_removePrivateHeaders_iff.2 ⟨?_, hpublic⟩, htraceparent⟩)
      rw [ht]
      exact mem_setHeader_self _ _ _
    · exact mem_foldl_setHeader hnodup (Or.inl hp)
  · intro hp
    rcases mem_of_foldl_setHeader hp with hp | hp
    · exact Or.inl (List.mem_append_right _ hp)
    · obtain ⟨hp, -⟩ := mem_removePrivateHeaders_iff.1 hp
      split at hp
      · rename_i t ht
        rcases mem_setHeader hp with rfl | hp
        · exact Or.inl (List.mem_append_left _ (by rw [ht]; exact List.mem_singleton_self _))
        · exact Or.inr (List.mem_of_mem_filter (List.mem_of_mem_filter hp))
      · exact Or.inr hp

/-- A context whose trace identifier ends in a line feed. -/
def brokenSurroundings : Surroundings where
  decimal _ := none
  propagate := id
  context := { traceId := some (List.replicate 31 '1' ++ ['\n']), spanId := some (List.replicate 16 '2') }
  ensured := {}
  made := "run_1".toList
  application := none
  environment := none
  sdkVersion := "0.1.0".toList

/-- The line feed of an identifier is written into the `traceparent`. -/
theorem injected_line_break :
    ¬∀ (around : Surroundings) (ensureRun : Bool) (headers : Headers), WellFormedHeaders around ensureRun headers := by
  intro hall
  have hwritten : ("traceparent".toList, traceparentOf (List.replicate 31 '1' ++ ['\n']) (List.replicate 16 '2')) ∈
      brokenSurroundings.written false [] := by decide +kernel
  exact ((hall brokenSurroundings false []).oneLine _ hwritten '\n' (by decide)).2 rfl

end Propagation

end PromptRail
