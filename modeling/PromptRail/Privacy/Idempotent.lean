import PromptRail.Privacy

/-!
# A policy applied twice

A second pass goes over what the first one kept. It takes from its budget for the same entries and for no others, so it never has less
left than the first pass had at the same place, and keeps every one of them.
-/

namespace PromptRail

namespace Privacy

open PyText (Text)

mutual

/-- The keys of every mapping differ, as those of a dictionary do. -/
def Attribute.Distinct : Attribute → Prop
  | .mapping items => (items.map Prod.fst).Nodup ∧ DistinctItems items
  | .sequence items => DistinctElements items
  | _ => True

def DistinctItems : Items → Prop
  | [] => True
  | (_, item) :: rest => item.Distinct ∧ DistinctItems rest

def DistinctElements : List Attribute → Prop
  | [] => True
  | item :: rest => item.Distinct ∧ DistinctElements rest

end

namespace IdempotentAux

variable (lower : Text → Text) (policy : PrivacyPolicy)

/-! ## What one value becomes -/

/-- A value that is dropped has taken nothing. -/
theorem left_of_dropped {v : Attribute} {depth budget left : Nat}
    (h : sanitizeValue lower policy v depth budget = (none, left)) : left = budget := by
  unfold sanitizeValue at h
  split at h
  all_goals first | exact (Prod.mk.inj h).2.symm | skip
  · split at h <;> cases h
  · split at h <;> cases h

/-- A value is kept as one of its kind, and an item that is allowed stays allowed. -/
theorem allowsItem_sanitized {v sanitized : Attribute} {depth budget left : Nat} (key : Text)
    (h : sanitizeValue lower policy v depth budget = (some sanitized, left)) :
    allowsItem lower policy key sanitized = allowsItem lower policy key v := by
  have hkind : sanitized.isMapping = v.isMapping ∧ sanitized.isScalar = v.isScalar := by
    unfold sanitizeValue at h
    split at h
    case h_4 =>
      split at h <;> cases h
      exact ⟨rfl, rfl⟩
    case h_6 | h_7 => split at h <;> cases h <;> exact ⟨rfl, rfl⟩
    all_goals cases h <;> exact ⟨rfl, rfl⟩
  unfold allowsItem
  rw [hkind.1, hkind.2]

/-- A key that an output does not have is put at its end. -/
theorem setItem_of_notMem {output : Items} {key : Key} (value : Attribute) (h : key ∉ output.map Prod.fst) :
    setItem output key value = output ++ [(key, value)] := by
  induction output with
  | nil => rfl
  | cons entry output ih =>
    obtain ⟨key', value'⟩ := entry
    rw [List.map_cons, List.mem_cons, not_or] at h
    rw [setItem, if_neg (Ne.symm h.1), ih h.2]
    rfl

/-! ## The second pass -/

/-- A loop that starts with an output and a budget has copied items under some keys after the output; a loop over these, with at least
this budget, copies them all, and has as much left. -/
def Again (output : Items) (keys : List Key) (depth budget : Nat) (copied : Items × Nat) : Prop :=
  ∃ kept, copied.1 = output ++ kept ∧ (∀ key ∈ kept.map Prod.fst, key ∈ keys) ∧
    ∀ budget', budget ≤ budget' → (sanitizeItems lower policy kept output depth budget').1 = copied.1 ∧
      copied.2 ≤ (sanitizeItems lower policy kept output depth budget').2

variable {lower policy}

/-- A loop that ends copies nothing. -/
theorem Again.stop (output : Items) (keys : List Key) (depth budget : Nat) :
    Again lower policy output keys depth budget (output, budget) :=
  ⟨[], (List.append_nil _).symm, fun _ h => (List.not_mem_nil h).elim, fun _ h => ⟨by rw [sanitizeItems], by rwa [sanitizeItems]⟩⟩

/-- A loop that goes on with fewer items, and with no more budget. -/
theorem Again.skip {output : Items} {keys keys' : List Key} {depth budget budget' : Nat} {copied : Items × Nat}
    (h : Again lower policy output keys depth budget copied) (hkeys : ∀ key ∈ keys, key ∈ keys')
    (hbudget : budget ≤ budget') : Again lower policy output keys' depth budget' copied := by
  obtain ⟨kept, hcopied, hkept, hagain⟩ := h
  exact ⟨kept, hcopied, fun key hkey => hkeys key (hkept key hkey), fun budget'' h => hagain budget'' (hbudget.trans h)⟩

/-- A loop that copies an item, and goes on. -/
theorem Again.copy {output : Items} {keys : List Key} {key : Text} {sanitized : Attribute} {depth budget left : Nat}
    {copied : Items × Nat} (hnew : Key.str key ∉ output.map Prod.fst) (hroom : ¬policy.maxItems ≤ output.length)
    (hallows : allowsItem lower policy key sanitized = true) (hbudget : budget ≠ 0)
    (hvalue : ∀ budget', budget ≤ budget' →
      ∃ left', sanitizeValue lower policy sanitized (depth + 1) (budget' - 1) = (some sanitized, left') ∧ left ≤ left')
    (h : Again lower policy (output ++ [(.str key, sanitized)]) keys depth left copied) :
    Again lower policy output (.str key :: keys) depth budget copied := by
  obtain ⟨kept, hcopied, hkept, hagain⟩ := h
  refine ⟨(.str key, sanitized) :: kept, by rw [hcopied, List.append_assoc, List.singleton_append], ?_, fun budget' h => ?_⟩
  · rw [List.map_cons, List.forall_mem_cons]
    exact ⟨List.mem_cons_self, fun key' hkey' => List.mem_cons_of_mem _ (hkept key' hkey')⟩
  · obtain ⟨left', hsanitized, hleft⟩ := hvalue budget' h
    rw [sanitizeItems, if_neg hroom, if_neg (by simp [hallows]), if_neg (by omega)]
    simp only [hsanitized, setItem_of_notMem sanitized hnew]
    exact hagain left' hleft

mutual

/-- The second pass over a value keeps what the first one kept, and has as much left. -/
theorem sanitizeValue_again {v sanitized : Attribute} (hv : v.Distinct) {depth budget left : Nat}
    (h : sanitizeValue lower policy v depth budget = (some sanitized, left)) {budget' : Nat} (hbudget : budget ≤ budget') :
    ∃ left', sanitizeValue lower policy sanitized depth budget' = (some sanitized, left') ∧ left ≤ left' := by
  match v with
  | .none | .bool _ | .int _ =>
    cases h
    exact ⟨budget', rfl, hbudget⟩
  | .float x =>
    unfold sanitizeValue at h
    split at h
    · rename_i hfinite
      cases h
      exact ⟨budget', by rw [sanitizeValue, if_pos hfinite], hbudget⟩
    · cases h
  | .str t =>
    cases h
    exact ⟨budget', by rw [sanitizeValue, List.take_take, min_self], hbudget⟩
  | .object _ => cases h
  | .mapping items =>
    rw [sanitizeValue] at h
    split at h
    · rename_i hclosed
      cases h
      rw [sanitizeValue]
      split
      · exact ⟨_, rfl, hbudget⟩
      · rename_i hopen
        have hspent : budget = 0 := hclosed.resolve_left fun hdeep => hopen (Or.inl hdeep)
        exact ⟨_, rfl, by omega⟩
    · rename_i hopen
      rw [not_or] at hopen
      cases h
      obtain ⟨hkeys, hitems⟩ := hv
      obtain ⟨kept, hkept, -, hagain⟩ := sanitizeItems_again items [] hitems hkeys (fun _ _ hmem => (List.not_mem_nil hmem).elim)
        depth (budget - 1)
      obtain ⟨hresult, hleft⟩ := hagain (budget' - 1) (by omega)
      rw [hkept, List.nil_append] at hresult ⊢
      refine ⟨_, ?_, hleft⟩
      rw [sanitizeValue, if_neg (by omega)]
      exact congrArg (fun kept => (some (Attribute.mapping kept), _)) hresult
  | .sequence items =>
    rw [sanitizeValue] at h
    split at h
    · rename_i hdeep
      cases h
      exact ⟨budget', by rw [sanitizeValue, if_pos hdeep], hbudget⟩
    · rename_i hopen
      cases h
      obtain ⟨hresult, hleft⟩ := sanitizeElements_again items hv policy.maxItems depth budget policy.maxItems le_rfl budget' hbudget
      refine ⟨_, ?_, hleft⟩
      rw [sanitizeValue, if_neg hopen]
      exact congrArg (fun kept => (some (Attribute.sequence kept), _)) hresult

/-- What a loop copies of the items of a mapping is copied again. -/
theorem sanitizeItems_again (items output : Items) (hitems : DistinctItems items) (hkeys : (items.map Prod.fst).Nodup)
    (hnew : ∀ key ∈ items.map Prod.fst, key ∉ output.map Prod.fst) (depth budget : Nat) :
    Again lower policy output (items.map Prod.fst) depth budget (sanitizeItems lower policy items output depth budget) := by
  match items with
  | [] =>
    rw [sanitizeItems]
    exact Again.stop output [] depth budget
  | (.other object, item) :: rest =>
    rw [List.map_cons, List.nodup_cons] at hkeys
    rw [List.map_cons, List.forall_mem_cons] at hnew
    rw [sanitizeItems]
    split
    · exact Again.stop output _ depth budget
    · exact (sanitizeItems_again rest output hitems.2 hkeys.2 hnew.2 depth budget).skip (fun _ => List.mem_cons_of_mem _) le_rfl
  | (.str key, item) :: rest =>
    rw [List.map_cons, List.nodup_cons] at hkeys
    rw [List.map_cons, List.forall_mem_cons] at hnew
    have hrest := fun left => sanitizeItems_again rest output hitems.2 hkeys.2 hnew.2 depth left
    rw [sanitizeItems]
    by_cases hfull : policy.maxItems ≤ output.length
    · rw [if_pos hfull]
      exact Again.stop output _ depth budget
    by_cases hallows : allowsItem lower policy key item = true
    · by_cases hspent : budget = 0
      · rw [if_neg hfull, if_neg (by simp [hallows]), if_pos hspent]
        exact Again.stop output _ depth budget
      rw [if_neg hfull, if_neg (by simp [hallows]), if_neg hspent]
      cases hvalue : sanitizeValue lower policy item (depth + 1) (budget - 1) with
      | mk kept left =>
        cases kept with
        | none =>
          obtain rfl := left_of_dropped lower policy hvalue
          exact (hrest (budget - 1)).skip (fun _ => List.mem_cons_of_mem _) (Nat.sub_le _ _)
        | some sanitized =>
          have hallowed := (allowsItem_sanitized lower policy key hvalue).trans hallows
          have hdiffer : ∀ key' ∈ rest.map Prod.fst, key' ∉ (output ++ [(Key.str key, sanitized)]).map Prod.fst := by
            intro key' hkey' hmem
            rw [List.map_append, List.mem_append] at hmem
            rcases hmem with hold | hown
            · exact hnew.2 key' hkey' hold
            · exact hkeys.1 (List.mem_singleton.1 hown ▸ hkey')
          have hcopied := sanitizeItems_again rest (output ++ [(.str key, sanitized)]) hitems.2 hkeys.2 hdiffer depth left
          dsimp only
          rw [setItem_of_notMem sanitized hnew.1]
          exact hcopied.copy hnew.1 hfull hallowed hspent fun budget' h =>
            sanitizeValue_again hitems.1 hvalue (Nat.sub_le_sub_right h 1)
    · rw [if_neg hfull, if_pos (by simpa using hallows)]
      exact (hrest budget).skip (fun _ => List.mem_cons_of_mem _) le_rfl

/-- The elements that a loop keeps; the second pass over them keeps them all. -/
theorem sanitizeElements_again (items : List Attribute) (hitems : DistinctElements items) (room depth budget : Nat)
    (room' : Nat) (hroom : room ≤ room') (budget' : Nat) (hbudget : budget ≤ budget') :
    (sanitizeElements lower policy (sanitizeElements lower policy items room depth budget).1 room' depth budget').1 =
        (sanitizeElements lower policy items room depth budget).1 ∧
      (sanitizeElements lower policy items room depth budget).2 ≤
        (sanitizeElements lower policy (sanitizeElements lower policy items room depth budget).1 room' depth budget').2 := by
  match items, room with
  | [], _ => exact ⟨by simp only [sanitizeElements], by simpa only [sanitizeElements] using hbudget⟩
  | _ :: _, 0 => exact ⟨by simp only [sanitizeElements], by simpa only [sanitizeElements] using hbudget⟩
  | item :: rest, room + 1 =>
    obtain ⟨hitem, hrest⟩ := hitems
    rw [sanitizeElements]
    by_cases hspent : budget = 0
    · simp only [if_pos hspent]
      exact ⟨by rw [sanitizeElements], by rw [hspent]; exact Nat.zero_le _⟩
    simp only [if_neg hspent]
    cases hvalue : sanitizeValue lower policy item (depth + 1) (budget - 1) with
    | mk kept left =>
      cases kept with
      | none =>
        obtain rfl := left_of_dropped lower policy hvalue
        exact sanitizeElements_again rest hrest room depth (budget - 1) room' (by omega) budget' (by omega)
      | some sanitized =>
        obtain ⟨left', hagain, hleft⟩ := sanitizeValue_again hitem hvalue (Nat.sub_le_sub_right hbudget 1)
        obtain ⟨room', rfl⟩ := Nat.exists_eq_succ_of_ne_zero (show room' ≠ 0 by omega)
        obtain ⟨hresult, hmore⟩ := sanitizeElements_again rest hrest room depth left room' (by omega) left' hleft
        dsimp only
        rw [sanitizeElements, if_neg (by omega)]
        simp only [hagain]
        exact ⟨congrArg (sanitized :: ·) hresult, hmore⟩

end

/-- The second pass over a whole mapping. -/
theorem sanitizeMapping_again {items : Items} (h : (Attribute.mapping items).Distinct) (depth budget : Nat) :
    (sanitizeMapping lower policy (sanitizeMapping lower policy items depth budget).1 depth budget).1 =
      (sanitizeMapping lower policy items depth budget).1 := by
  obtain ⟨left, hagain, -⟩ := sanitizeValue_again h (sanitizeValue_mapping lower policy items depth budget) le_rfl
  rw [sanitizeValue_mapping] at hagain
  exact Attribute.mapping.inj (Option.some.inj (Prod.mk.inj hagain).1)

/-- The second pass over attributes. -/
theorem sanitize_again {items : Items} (h : (Attribute.mapping items).Distinct) :
    sanitize lower policy (some (sanitize lower policy (some items))) = sanitize lower policy (some items) := by
  cases items with
  | nil => rfl
  | cons item items =>
    have hagain : (sanitizeMapping lower policy (sanitizeMapping lower policy (item :: items) 0 policy.maxTotalAttributes).1 0
        policy.maxTotalAttributes).1 = _ := sanitizeMapping_again h 0 policy.maxTotalAttributes
    rw [sanitize]
    cases hkept : (sanitizeMapping lower policy (item :: items) 0 policy.maxTotalAttributes).1 with
    | nil => rfl
    | cons first rest =>
      rw [hkept] at hagain
      exact hagain

end IdempotentAux

open IdempotentAux

/-- What a policy has kept of attributes, it keeps whole. -/
theorem sanitize_idempotent (lower : Text → Text) (policy : PrivacyPolicy) (attributes : Option Items)
    (h : ∀ items, attributes = some items → (Attribute.mapping items).Distinct) :
    sanitize lower policy (some (sanitize lower policy attributes)) = sanitize lower policy attributes := by
  cases attributes with
  | none => rfl
  | some items => exact sanitize_again (h items rfl)

/-- Attributes of which a policy drops a key that is no text and a float that is not finite, cuts a text, and stops in the second mapping
when its budget is spent. -/
theorem sanitize_idempotent_spent :
    let policy : PrivacyPolicy := { mode := .content, maxStringLength := 4, maxTotalAttributes := 5 }
    let attributes : Items :=
      [(.str "a".toList, .str "abcdef".toList), (.other 0, .none),
        (.str "b".toList, .mapping [(.str "x".toList, .float .nan)]), (.str "c".toList, .mapping [(.str "y".toList, .int 1)])]
    sanitize id policy (some attributes) = [(.str "a".toList, .str "abcd".toList), (.str "b".toList, .mapping [])] ∧
      sanitize id policy (some (sanitize id policy (some attributes))) = sanitize id policy (some attributes) := by
  intro policy attributes
  refine ⟨rfl, sanitize_idempotent id policy (some attributes) ?_⟩
  rintro _ ⟨⟩
  refine ⟨by decide, ?_⟩
  exact ⟨trivial, trivial, ⟨by decide, trivial, trivial⟩, ⟨by decide, trivial, trivial⟩, trivial⟩

end Privacy

end PromptRail
