import PromptRail.Privacy

/-!
# What a policy lets through

In metadata-only mode the result does not depend on what is stored under the keys that the policy forbids: such an item is skipped
before it takes from the budget or counts as an item, so that the same later items are kept. In either mode every entry that is copied
has taken from the budget, which bounds their number.
-/

namespace PromptRail

namespace Privacy

open PyText (Text)

variable (lower : Text → Text) {policy : PrivacyPolicy}

/-! ## Forbidden keys -/

/-- A secret key, a token key, or a content key without a suffix of safe metadata. -/
def isForbidden (key : Text) : Bool :=
  let normalized := normalizeKey lower key
  isSecretKey normalized || isTokenKey normalized || isContentKey normalized && !endsWithAny safeMetadataSuffixes normalized

/-- A key that a policy forbids; it is a text. -/
def Key.isForbidden : Key → Bool
  | .str key => Privacy.isForbidden lower key
  | .other _ => false

mutual

/-- A value without what is stored under forbidden keys, at any depth. -/
def hide : Attribute → Attribute
  | .mapping items => .mapping (hideItems items)
  | .sequence items => .sequence (hideElements items)
  | .none => .none
  | .bool b => .bool b
  | .int n => .int n
  | .float x => .float x
  | .str t => .str t
  | .object object => .object object

def hideItems : Items → Items
  | [] => []
  | (key, item) :: rest => (key, if key.isForbidden lower then .none else hide item) :: hideItems rest

def hideElements : List Attribute → List Attribute
  | [] => []
  | item :: rest => hide item :: hideElements rest

end

@[simp] theorem isMapping_hide (v : Attribute) : (hide lower v).isMapping = v.isMapping := by
  cases v <;> rfl

@[simp] theorem isScalar_hide (v : Attribute) : (hide lower v).isScalar = v.isScalar := by
  cases v <;> rfl

/-- A forbidden key is not allowed, whatever is stored under it. -/
theorem allowsItem_of_forbidden (hmode : policy.mode = .metadataOnly) {key : Text} (h : isForbidden lower key = true)
    (value : Attribute) : allowsItem lower policy key value = false := by
  have hcontent : policy.mode ≠ .content := by simp [hmode]
  simp only [isForbidden, Bool.or_eq_true, Bool.and_eq_true, Bool.not_eq_true'] at h
  unfold allowsItem
  rw [if_neg hcontent]
  dsimp only
  rcases h with (h | h) | ⟨h, hsuffix⟩
  · rw [if_pos h]
  · rw [h]
    simp
  · rw [h, hsuffix]
    simp

/-- Whether an item is allowed does not depend on what is hidden in it. -/
theorem allowsItem_hide (hmode : policy.mode = .metadataOnly) (key : Text) (item : Attribute) :
    allowsItem lower policy key (if (Key.str key).isForbidden lower then .none else hide lower item) =
      allowsItem lower policy key item := by
  by_cases h : isForbidden lower key = true
  · rw [allowsItem_of_forbidden lower hmode h, allowsItem_of_forbidden lower hmode h]
  · rw [Key.isForbidden, if_neg h]
    simp [allowsItem]

/-- A key that is allowed is not forbidden. -/
theorem not_forbidden_of_allows (hmode : policy.mode = .metadataOnly) {key : Text} {value : Attribute}
    (h : allowsItem lower policy key value = true) : isForbidden lower key = false := by
  cases hforbidden : isForbidden lower key with
  | false => rfl
  | true =>
    rw [allowsItem_of_forbidden lower hmode hforbidden value] at h
    cases h

/-! ## What is hidden does not matter -/

mutual

theorem sanitizeValue_hide (hmode : policy.mode = .metadataOnly) (v : Attribute) (depth budget : Nat) :
    sanitizeValue lower policy (hide lower v) depth budget = sanitizeValue lower policy v depth budget := by
  match v with
  | .none | .bool _ | .int _ | .float _ | .str _ | .object _ => rfl
  | .mapping items =>
    rw [hide, sanitizeValue, sanitizeValue, sanitizeItems_hide hmode items]
  | .sequence items =>
    rw [hide, sanitizeValue, sanitizeValue, sanitizeElements_hide hmode items]

theorem sanitizeItems_hide (hmode : policy.mode = .metadataOnly) (items output : Items) (depth budget : Nat) :
    sanitizeItems lower policy (hideItems lower items) output depth budget =
      sanitizeItems lower policy items output depth budget := by
  match items with
  | [] => rfl
  | (.other _, _) :: rest =>
    rw [hideItems, sanitizeItems, sanitizeItems]
    simp only [sanitizeItems_hide hmode rest]
  | (.str key, item) :: rest =>
    rw [hideItems, sanitizeItems, sanitizeItems]
    simp only [allowsItem_hide lower hmode, sanitizeItems_hide hmode rest]
    by_cases hallows : allowsItem lower policy key item = true
    · -- an item that is copied stands under a key that hides nothing
      have hkey : (Key.str key).isForbidden lower = false := not_forbidden_of_allows lower hmode hallows
      simp only [hkey, Bool.false_eq_true, if_false, sanitizeValue_hide hmode item]
    · simp only [Bool.not_eq_true] at hallows
      simp only [hallows, Bool.not_false, if_true]

theorem sanitizeElements_hide (hmode : policy.mode = .metadataOnly) (items : List Attribute) (room depth budget : Nat) :
    sanitizeElements lower policy (hideElements lower items) room depth budget =
      sanitizeElements lower policy items room depth budget := by
  match items, room with
  | [], _ => rfl
  | _ :: _, 0 => rfl
  | item :: rest, room + 1 =>
    rw [hideElements, sanitizeElements, sanitizeElements]
    simp only [sanitizeValue_hide hmode item, sanitizeElements_hide hmode rest]

end

theorem sanitizeMapping_hide (hmode : policy.mode = .metadataOnly) (items : Items) (depth budget : Nat) :
    sanitizeMapping lower policy (hideItems lower items) depth budget = sanitizeMapping lower policy items depth budget := by
  simp only [sanitizeMapping, sanitizeItems_hide lower hmode]

theorem sanitize_hide (hmode : policy.mode = .metadataOnly) (items : Items) :
    sanitize lower policy (some (hideItems lower items)) = sanitize lower policy (some items) := by
  cases items with
  | nil => rfl
  | cons item rest => exact congrArg Prod.fst (sanitizeMapping_hide lower hmode (item :: rest) 0 policy.maxTotalAttributes)

/-! ## The entries of a result -/

/-- An entry of a tree: the number of mappings and sequences it is in, its key in a mapping, and its value. -/
structure Entry where
  depth : Nat
  key : Option Key
  value : Attribute

mutual

/-- The entries of a value at any depth, the value itself being in `depth` mappings and sequences. -/
def entries : Nat → Attribute → List Entry
  | depth, .mapping items => entriesOfItems depth items
  | depth, .sequence items => entriesOfElements depth items
  | _, .none | _, .bool _ | _, .int _ | _, .float _ | _, .str _ | _, .object _ => []

def entriesOfItems : Nat → Items → List Entry
  | _, [] => []
  | depth, (key, item) :: rest => ⟨depth + 1, some key, item⟩ :: (entries (depth + 1) item ++ entriesOfItems depth rest)

def entriesOfElements : Nat → List Attribute → List Entry
  | _, [] => []
  | depth, item :: rest => ⟨depth + 1, none, item⟩ :: (entries (depth + 1) item ++ entriesOfElements depth rest)

end

/-- A value that is no longer than a policy allows, and finite. -/
def FitsValue (policy : PrivacyPolicy) : Attribute → Prop
  | .str t => t.length ≤ policy.maxStringLength
  | .float x => x.isFinite = true
  | .none | .bool _ | .int _ | .mapping _ | .sequence _ => True
  | .object _ => False

/-- An entry as a policy lets it through. -/
structure Fits (policy : PrivacyPolicy) (entry : Entry) : Prop where
  depth : entry.depth ≤ policy.maxDepth
  value : FitsValue policy entry.value
  key : policy.mode = .metadataOnly → ∀ key ∈ entry.key, key.isForbidden lower = false

/-- Entries that a policy lets through, for which a budget was spent. -/
structure Bounded (policy : PrivacyPolicy) (result : List Entry) (spent : Nat) : Prop where
  fits : ∀ entry ∈ result, Fits lower policy entry
  length : result.length ≤ spent

variable {lower}

theorem Bounded.nil (spent : Nat) : Bounded lower policy [] spent :=
  ⟨(fun _ h => nomatch h), Nat.zero_le spent⟩

theorem Bounded.mono {result : List Entry} {spent spent' : Nat} (h : Bounded lower policy result spent) (hle : spent ≤ spent') :
    Bounded lower policy result spent' :=
  ⟨h.fits, h.length.trans hle⟩

/-- An entry takes one from the budget before its own entries do. -/
theorem Bounded.cons {entry : Entry} {own rest : List Entry} {spent spent' : Nat} (hentry : Fits lower policy entry)
    (hown : Bounded lower policy own spent) (hrest : Bounded lower policy rest spent') :
    Bounded lower policy (entry :: (own ++ rest)) (1 + spent + spent') := by
  constructor
  · intro e he
    rcases List.mem_cons.1 he with rfl | he
    · exact hentry
    · rcases List.mem_append.1 he with he | he
      · exact hown.fits e he
      · exact hrest.fits e he
  · have howned := hown.length
    have hrested := hrest.length
    simp only [List.length_cons, List.length_append]
    omega

/-- An item that is set adds its entries, and drops those of the item it replaces. -/
theorem Bounded.setItem {output : Items} {depth spent spent' : Nat} (h : Bounded lower policy (entriesOfItems depth output) spent)
    {key : Key} {value : Attribute} (hentry : Fits lower policy ⟨depth + 1, some key, value⟩)
    (hown : Bounded lower policy (entries (depth + 1) value) spent') :
    Bounded lower policy (entriesOfItems depth (setItem output key value)) (1 + spent' + spent) := by
  induction output generalizing spent with
  | nil => exact Bounded.cons hentry hown (Bounded.nil spent)
  | cons item rest ih =>
    obtain ⟨key', value'⟩ := item
    rw [entriesOfItems] at h
    have hlength := h.length
    simp only [List.length_cons, List.length_append] at hlength
    have hrest : Bounded lower policy (entriesOfItems depth rest) (entriesOfItems depth rest).length :=
      ⟨fun e he => h.fits e (List.mem_cons_of_mem _ (List.mem_append_right _ he)), Nat.le_refl _⟩
    rw [Privacy.setItem]
    split
    · exact (Bounded.cons hentry hown hrest).mono (by omega)
    · have hkept : Bounded lower policy (entries (depth + 1) value') (entries (depth + 1) value').length :=
        ⟨fun e he => h.fits e (List.mem_cons_of_mem _ (List.mem_append_left _ he)), Nat.le_refl _⟩
      exact (Bounded.cons (h.fits _ List.mem_cons_self) hkept (ih hrest)).mono (by omega)

/-! ## Every entry has taken from the budget -/

/-- What `_sanitize_value` returns of a value at `depth`, which entered with `budget` and left with `left`. -/
def Copied (lower : Text → Text) (policy : PrivacyPolicy) (depth budget : Nat) (returned : Option Attribute × Nat) : Prop :=
  returned.2 ≤ budget ∧
    ∀ value ∈ returned.1, FitsValue policy value ∧ Bounded lower policy (entries depth value) (budget - returned.2)

mutual

theorem sanitizeValue_copied (v : Attribute) (depth budget : Nat) :
    Copied lower policy depth budget (sanitizeValue lower policy v depth budget) := by
  match v with
  | .none | .bool _ | .int _ =>
    rw [sanitizeValue]
    refine ⟨Nat.le_refl _, ?_⟩
    rintro _ ⟨⟩
    exact ⟨trivial, Bounded.nil _⟩
  | .float x =>
    rw [sanitizeValue]
    refine ⟨Nat.le_refl _, ?_⟩
    intro value hvalue
    dsimp only at hvalue
    split at hvalue
    · rename_i hfinite
      cases hvalue
      exact ⟨hfinite, Bounded.nil _⟩
    · cases hvalue
  | .str t =>
    rw [sanitizeValue]
    refine ⟨Nat.le_refl _, ?_⟩
    rintro _ ⟨⟩
    exact ⟨List.length_take_le _ _, Bounded.nil _⟩
  | .object _ =>
    rw [sanitizeValue]
    exact ⟨Nat.le_refl _, fun _ hnone => nomatch hnone⟩
  | .mapping items =>
    rw [sanitizeValue]
    split
    · refine ⟨Nat.le_refl _, ?_⟩
      rintro _ ⟨⟩
      exact ⟨trivial, Bounded.nil _⟩
    · rename_i hopen
      obtain ⟨hdepth, hbudget⟩ := not_or.1 hopen
      obtain ⟨hle, hitems⟩ := sanitizeItems_bounded items [] (by omega : depth < policy.maxDepth) (budget - 1)
        (Bounded.nil 0)
      refine ⟨by dsimp only; omega, ?_⟩
      rintro _ ⟨⟩
      exact ⟨trivial, hitems.mono (by dsimp only; omega)⟩
  | .sequence items =>
    rw [sanitizeValue]
    split
    · refine ⟨Nat.le_refl _, ?_⟩
      rintro _ ⟨⟩
      exact ⟨trivial, Bounded.nil _⟩
    · rename_i hopen
      obtain ⟨hle, hitems⟩ := sanitizeElements_bounded items policy.maxItems (by omega : depth < policy.maxDepth) budget
      refine ⟨hle, ?_⟩
      rintro _ ⟨⟩
      exact ⟨trivial, hitems⟩

theorem sanitizeItems_bounded (items output : Items) {depth : Nat} (hdepth : depth < policy.maxDepth) (budget : Nat) {spent : Nat}
    (h : Bounded lower policy (entriesOfItems depth output) spent) :
    (sanitizeItems lower policy items output depth budget).2 ≤ budget ∧
      Bounded lower policy (entriesOfItems depth (sanitizeItems lower policy items output depth budget).1)
        (spent + (budget - (sanitizeItems lower policy items output depth budget).2)) := by
  have hstop : budget ≤ budget ∧ Bounded lower policy (entriesOfItems depth output) (spent + (budget - budget)) :=
    ⟨Nat.le_refl _, h.mono (by omega)⟩
  match items with
  | [] => exact hstop
  | (.other _, _) :: rest =>
    rw [sanitizeItems]
    split
    · exact hstop
    · exact sanitizeItems_bounded rest output hdepth budget h
  | (.str key, item) :: rest =>
    rw [sanitizeItems]
    split
    · exact hstop
    · split
      · exact sanitizeItems_bounded rest output hdepth budget h
      · rename_i hallows
        split
        · exact hstop
        · obtain ⟨hle, hcopied⟩ := sanitizeValue_copied item (depth + 1) (budget - 1)
          split
          · rename_i sanitized left hvalue
            rw [hvalue] at hle hcopied
            obtain ⟨hfits, hown⟩ := hcopied sanitized rfl
            have hentry : Fits lower policy ⟨depth + 1, some (.str key), sanitized⟩ := by
              refine ⟨hdepth, hfits, ?_⟩
              rintro hmode _ ⟨⟩
              exact not_forbidden_of_allows lower hmode (by simpa using hallows)
            obtain ⟨hleft, hrest⟩ := sanitizeItems_bounded rest _ hdepth left (h.setItem hentry hown)
            dsimp only at hle
            exact ⟨by omega, hrest.mono (by dsimp only; omega)⟩
          · rename_i left hvalue
            rw [hvalue] at hle
            obtain ⟨hleft, hrest⟩ := sanitizeItems_bounded rest output hdepth left h
            dsimp only at hle
            exact ⟨by omega, hrest.mono (by omega)⟩

theorem sanitizeElements_bounded (items : List Attribute) (room : Nat) {depth : Nat} (hdepth : depth < policy.maxDepth)
    (budget : Nat) :
    (sanitizeElements lower policy items room depth budget).2 ≤ budget ∧
      Bounded lower policy (entriesOfElements depth (sanitizeElements lower policy items room depth budget).1)
        (budget - (sanitizeElements lower policy items room depth budget).2) := by
  match items, room with
  | [], _ => exact ⟨Nat.le_refl _, Bounded.nil _⟩
  | _ :: _, 0 => exact ⟨Nat.le_refl _, Bounded.nil _⟩
  | item :: rest, room + 1 =>
    rw [sanitizeElements]
    split
    · exact ⟨Nat.le_refl _, Bounded.nil _⟩
    · obtain ⟨hle, hcopied⟩ := sanitizeValue_copied item (depth + 1) (budget - 1)
      split
      · rename_i sanitized left hvalue
        rw [hvalue] at hle hcopied
        obtain ⟨hfits, hown⟩ := hcopied sanitized rfl
        have hentry : Fits lower policy ⟨depth + 1, none, sanitized⟩ := ⟨hdepth, hfits, fun _ _ hnone => nomatch hnone⟩
        obtain ⟨hleft, hrest⟩ := sanitizeElements_bounded rest room hdepth left
        dsimp only at hle
        exact ⟨by dsimp only; omega, (Bounded.cons hentry hown hrest).mono (by dsimp only; omega)⟩
      · rename_i left hvalue
        rw [hvalue] at hle
        obtain ⟨hleft, hrest⟩ := sanitizeElements_bounded rest room hdepth left
        dsimp only at hle
        exact ⟨by omega, hrest.mono (by omega)⟩

end

/-- What a policy returns has no more entries than the budget it starts with. -/
theorem sanitize_bounded (lower : Text → Text) (policy : PrivacyPolicy) (attributes : Option Items) :
    Bounded lower policy (entriesOfItems 0 (sanitize lower policy attributes)) policy.maxTotalAttributes := by
  match attributes with
  | none | some [] => exact Bounded.nil _
  | some (item :: items) =>
    rw [sanitize, sanitizeMapping]
    split
    · exact Bounded.nil _
    · have hdepth := policy.maxDepth_pos
      obtain ⟨-, hitems⟩ := sanitizeItems_bounded (item :: items) [] (by omega : 0 < policy.maxDepth)
        (policy.maxTotalAttributes - 1) (Bounded.nil 0)
      exact hitems.mono (by omega)

/-- In metadata-only mode two trees that differ only in what they store under forbidden keys are sanitized to the same result; and every
result has no forbidden key, is no deeper, no longer and of no more entries than the policy allows, and its floats are finite. -/
theorem sanitize_noninterference (lower : Text → Text) (policy : PrivacyPolicy) (hmode : policy.mode = .metadataOnly) :
    (∀ attributes attributes' : Items, hideItems lower attributes = hideItems lower attributes' →
      sanitize lower policy (some attributes) = sanitize lower policy (some attributes')) ∧
      ∀ attributes : Option Items,
        let result := entriesOfItems 0 (sanitize lower policy attributes)
        (∀ entry ∈ result, ∀ key ∈ entry.key, key.isForbidden lower = false) ∧
          (∀ entry ∈ result, entry.depth ≤ policy.maxDepth) ∧
          (∀ entry ∈ result, ∀ t, entry.value = .str t → t.length ≤ policy.maxStringLength) ∧
          (∀ entry ∈ result, ∀ x, entry.value = .float x → x.isFinite = true) ∧
          result.length ≤ policy.maxTotalAttributes := by
  constructor
  · intro attributes attributes' h
    rw [← sanitize_hide lower hmode attributes, h, sanitize_hide lower hmode attributes']
  · intro attributes
    have hbounded := sanitize_bounded lower policy attributes
    refine ⟨fun entry he => (hbounded.fits entry he).key hmode, fun entry he => (hbounded.fits entry he).depth, ?_, ?_,
      hbounded.length⟩
    · intro entry he t ht
      have hfits := (hbounded.fits entry he).value
      rwa [ht] at hfits
    · intro entry he x hx
      have hfits := (hbounded.fits entry he).value
      rwa [hx] at hfits

/-- The name of a secret is kept out, and with it the secret. -/
theorem sanitize_noninterference_secret :
    sanitize (List.map Char.toLower) {} (some [(.str "api_key".toList, .str "a".toList), (.str "model".toList, .str "m".toList)]) =
      sanitize (List.map Char.toLower) {} (some [(.str "api_key".toList, .int 1), (.str "model".toList, .str "m".toList)]) :=
  (sanitize_noninterference (List.map Char.toLower) {} rfl).1 _ _ rfl

end Privacy

end PromptRail
