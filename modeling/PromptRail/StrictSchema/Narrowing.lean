import PromptRail.StrictSchema

/-!
# What a strict schema accepts

A strict schema accepts no more than the schema it was made of, up to two of its rewrites: branches of `oneOf` that were narrowed
may leave one where there were several, and a required name that is no declared property is required no longer. Validation of both
runs in step, through references too, since a pointer leads to the strict form of what it led to before.
-/

namespace PromptRail.StrictSchema

open Json JsonSchema

variable {Token : Type} (env : JsonSchema.Env Token)

namespace NarrowingAux

/-- A schema, and what stands at its place: itself, where the traversal does not come, or its strict form. -/
def Rel (s s' : Value) : Prop := s' = s ∨ s' = visit s

/-- The fields of a node, and those of what stands at its place. -/
structure Narrowed (fields fields' : Fields) : Prop where
  ref : get? fields' "$ref" = get? fields "$ref"
  declared : List.Forall₂ (fun p p' => p'.1 = p.1 ∧ Rel p.2 p'.2) ((declared fields).getD []) ((declared fields').getD [])
  required : ∀ name ∈ loose.required fields, name ∈ standard.required fields'
  additional : get? fields "additionalProperties" = none ∨
    get? fields' "additionalProperties" = get? fields "additionalProperties"
  items : (get? fields "items" = none ∧ get? fields' "items" = none) ∨
    ∃ s s', get? fields "items" = some s ∧ get? fields' "items" = some s' ∧ Rel s s'
  union : ∀ key, isUnion key = true →
    (∃ ss ss', get? fields key = some (.arr ss) ∧ get? fields' key = some (.arr ss') ∧ List.Forall₂ Rel ss ss') ∨
      ∀ ss, get? fields key ≠ some (.arr ss) ∧ get? fields' key ≠ some (.arr ss)
  assertions : fields'.filter (fun p => !isHandled p.1) = fields.filter fun p => !isHandled p.1

theorem narrowed_refl (fields : Fields) : Narrowed fields fields where
  ref := rfl
  declared := List.forall₂_same.2 fun _ _ => ⟨rfl, Or.inl rfl⟩
  required name hname := by
    unfold Reading.required at hname
    rw [if_neg (show ¬loose.allRequired = true from Bool.false_ne_true)] at hname
    split at hname
    · exact (List.mem_filter.1 hname).1
    · exact hname
  additional := Or.inr rfl
  items := by
    cases h : get? fields "items" with
    | none => exact Or.inl ⟨rfl, rfl⟩
    | some s => exact Or.inr ⟨s, s, rfl, rfl, Or.inl rfl⟩
  union key _ := by
    by_cases h : ∃ ss, get? fields key = some (.arr ss)
    · obtain ⟨ss, hss⟩ := h
      exact Or.inl ⟨ss, ss, hss, hss, List.forall₂_same.2 fun _ _ => Or.inl rfl⟩
    · exact Or.inr fun ss => ⟨fun hss => h ⟨ss, hss⟩, fun hss => h ⟨ss, hss⟩⟩
  assertions := rfl

/-! ## The fields of a strict node -/

theorem get?_visitFields (fields : Fields) (key : String) :
    get? (visitFields fields) key = (get? fields key).map (visitKeyword key) := by
  rw [visitFields_eq, get?_map]

/-- The value of a key that `visit` does not assign to. -/
theorem get?_strict {fields : Fields} {key : String} (hrequired : key ≠ "required") (hadditional : key ≠ "additionalProperties")
    (hdefault : key ≠ "default") : get? (finish (visitFields fields)) key = (get? fields key).map (visitKeyword key) := by
  rw [get?_finish hrequired hadditional hdefault, get?_visitFields]

theorem visitKeyword_other {key : String} (hmap : isMap key = false) (hitems : key ≠ "items") (hunion : isUnion key = false)
    (v : Value) : visitKeyword key v = v := by
  cases v with
  | obj entries => simp [visitKeyword, hmap, hitems]
  | arr xs => simp [visitKeyword, hunion]
  | _ => rfl

theorem get?_additional_visitFields (fields : Fields) :
    get? (visitFields fields) "additionalProperties" = get? fields "additionalProperties" := by
  rw [get?_visitFields]
  cases get? fields "additionalProperties" with
  | none => rfl
  | some v => rw [Option.map_some, visitKeyword_other rfl (by decide) rfl]

theorem isObject_visitFields (fields : Fields) : isObject (visitFields fields) = isObject fields := by
  rw [isObject, get?_visitFields, isObject]
  cases get? fields "type" with
  | none => rfl
  | some v => rw [Option.map_some, visitKeyword_other rfl (by decide) rfl]

theorem not_map_of_isUnion {key : String} (h : isUnion key = true) : isMap key = false ∧ key ≠ "items" := by
  simp only [isUnion, Bool.or_eq_true, beq_iff_eq] at h
  rcases h with (rfl | rfl) | rfl <;> decide

theorem rel_visitKeyword_items (v : Value) : Rel v (visitKeyword "items" v) := by
  cases v with
  | obj entries => exact Or.inr rfl
  | arr xs => exact Or.inl rfl
  | _ => exact Or.inl rfl

theorem declared_visitFields (fields : Fields) : declared (visitFields fields) = (declared fields).map visitEntries := by
  rw [declared, get?_visitFields, declared]
  cases get? fields "properties" with
  | none => rfl
  | some v => cases v <;> rfl

theorem declared_strict (fields : Fields) : declared (finish (visitFields fields)) = (declared fields).map visitEntries :=
  (declared_finish _).trans (declared_visitFields fields)

theorem keys_visitEntries (entries : Fields) : (visitEntries entries).map Prod.fst = entries.map Prod.fst := by
  rw [visitEntries_eq, List.map_map]
  rfl

theorem requiredNames_strict {fields properties : Fields} (h : declared fields = some properties) :
    requiredNames (finish (visitFields fields)) = properties.map Prod.fst := by
  rw [requiredNames, get?_finish_required, declared_visitFields, h, Option.map_some, ← keys_visitEntries]
  dsimp only
  generalize visitEntries properties = entries
  induction entries with
  | nil => rfl
  | cons p entries ih =>
    rw [List.map_cons, List.map_cons, ← ih]
    simp [String.ofList_toList]

/-- The fields that are assertions of their own. -/
def assertions (fields : Fields) : Fields := fields.filter fun p => !isHandled p.1

theorem assertions_set {key : String} (h : isHandled key = true) (fields : Fields) (v : Value) :
    assertions (Json.set fields key v) = assertions fields := by
  induction fields with
  | nil => simp [assertions, Json.set, h]
  | cons p fields ih =>
    obtain ⟨name, w⟩ := p
    rw [Json.set]
    unfold assertions at ih ⊢
    split
    · rename_i hname
      subst hname
      rw [List.filter_cons_of_neg (by simp [h]), List.filter_cons_of_neg (by simp [h])]
    · rw [List.filter_cons, List.filter_cons, ih]

theorem assertions_finish (fields : Fields) : assertions (finish fields) = assertions fields := by
  have hrequire : assertions (requireAll fields) = assertions fields := by
    unfold requireAll
    split
    · exact assertions_set rfl fields _
    · rfl
  have hforbid : ∀ fields, assertions (forbidAdditional fields) = assertions fields := by
    intro fields
    unfold forbidAdditional
    split
    · rw [assertions, List.filter_append]
      exact List.append_nil _
    · rfl
  have hdrop : ∀ fields, assertions (dropDefault fields) = assertions fields := by
    intro fields
    unfold dropDefault
    split
    · rw [assertions, List.filter_filter]
      refine List.filter_congr fun p _ => ?_
      by_cases hp : p.1 = "default"
      · rw [hp]
        rfl
      · simp [hp]
    · rfl
  rw [finish, hdrop, hforbid, hrequire]

theorem assertions_visitFields (fields : Fields) : assertions (visitFields fields) = assertions fields := by
  rw [visitFields_eq]
  induction fields with
  | nil => rfl
  | cons p fields ih =>
    unfold assertions at ih ⊢
    rw [List.map_cons, List.filter_cons, List.filter_cons, ih]
    split
    · rename_i hassertion
      have hkey : isHandled p.1 = false := by simpa using hassertion
      simp only [isHandled, Bool.or_eq_false_iff] at hkey
      have hitems : p.1 ≠ "items" := by
        intro hitems
        rw [hitems] at hkey
        exact absurd hkey.1.1.1.1.2 (by decide)
      rw [visitKeyword_other hkey.1.1.1.1.1 hitems hkey.1.1.1.2]
    · rfl

theorem narrowed_visit (fields : Fields) : Narrowed fields (finish (visitFields fields)) where
  ref := by
    rw [get?_strict (by decide) (by decide) (by decide)]
    cases h : get? fields "$ref" with
    | none => rfl
    | some v => rw [Option.map_some, visitKeyword_other rfl (by decide) rfl]
  declared := by
    rw [declared_strict]
    cases declared fields with
    | none => exact List.Forall₂.nil
    | some properties =>
      simp only [Option.map_some, Option.getD_some, visitEntries_eq]
      rw [List.forall₂_map_right_iff, List.forall₂_same]
      exact fun p _ => ⟨rfl, Or.inr rfl⟩
  required name hname := by
    show name ∈ requiredNames (finish (visitFields fields))
    unfold Reading.required at hname
    rw [if_neg (show ¬loose.allRequired = true from Bool.false_ne_true)] at hname
    split at hname
    · rename_i properties hdeclared
      rw [requiredNames_strict hdeclared]
      exact List.contains_iff_mem.1 (List.mem_filter.1 hname).2
    · rename_i hdeclared
      have hget : get? (finish (visitFields fields)) "required" = get? fields "required" := by
        rw [get?_finish_required, declared_visitFields, hdeclared, Option.map_none]
        simp only [get?_visitFields]
        cases get? fields "required" with
        | none => rfl
        | some v => rw [Option.map_some, visitKeyword_other rfl (by decide) rfl]
      rw [requiredNames, hget]
      exact hname
  additional := by
    rw [get?_finish_additional, get?_additional_visitFields]
    split
    · rename_i habsent
      exact Or.inl habsent.2
    · exact Or.inr rfl
  items := by
    rw [get?_strict (by decide) (by decide) (by decide)]
    cases get? fields "items" with
    | none => exact Or.inl ⟨rfl, rfl⟩
    | some s => exact Or.inr ⟨s, _, rfl, rfl, rel_visitKeyword_items s⟩
  union key hkey := by
    have hget : get? (finish (visitFields fields)) key = (get? fields key).map (visitKeyword key) := by
      refine get?_strict ?_ ?_ ?_
      all_goals
        rintro rfl
        cases hkey
    have hmap := not_map_of_isUnion hkey
    rw [hget]
    cases get? fields key with
    | none => exact Or.inr fun ss => ⟨by rintro ⟨⟩, by rintro ⟨⟩⟩
    | some v =>
      cases v with
      | arr ss =>
        refine Or.inl ⟨ss, visitList ss, rfl, ?_, ?_⟩
        · rw [Option.map_some, visitKeyword, if_pos hkey, visit]
        · rw [visitList_eq, List.forall₂_map_right_iff, List.forall₂_same]
          exact fun s _ => Or.inr rfl
      | obj entries =>
        rw [Option.map_some, visitKeyword, hmap.1, if_neg Bool.false_ne_true, if_neg hmap.2]
        exact Or.inr fun ss => ⟨by rintro ⟨⟩, by rintro ⟨⟩⟩
      | _ => exact Or.inr fun ss => ⟨by rintro ⟨⟩, by rintro ⟨⟩⟩
  assertions := (assertions_finish (visitFields fields)).trans (assertions_visitFields fields)

/-! ## Pointers -/

theorem member_eq_none {fields : Fields} {t : Token} (hmap : isMap (env.name t) = false) (hunion : isUnion (env.name t) = false)
    (t' : Token) : member env fields t t' = none := by
  unfold member
  split
  · rw [hmap]
    rfl
  · rw [hunion]
    rfl
  · rfl

theorem member_strict (fields : Fields) (t t' : Token) (hsingle : isSingle (env.name t) = false) :
    member env (finish (visitFields fields)) t t' = (member env fields t t').map visit := by
  by_cases hnone : isMap (env.name t) = false ∧ isUnion (env.name t) = false
  · rw [member_eq_none env hnone.1 hnone.2, member_eq_none env hnone.1 hnone.2, Option.map_none]
  have hget : get? (finish (visitFields fields)) (env.name t) = (get? fields (env.name t)).map (visitKeyword (env.name t)) := by
    refine get?_strict ?_ ?_ ?_
    all_goals
      intro hkey
      rw [hkey] at hnone
      exact hnone ⟨rfl, rfl⟩
  unfold member
  rw [hget]
  cases get? fields (env.name t) with
  | none => rfl
  | some v =>
    cases v with
    | obj entries =>
      rw [Option.map_some, visitKeyword]
      by_cases hmap : isMap (env.name t) = true
      · simp only [if_pos hmap]
        rw [visitEntries_eq, get?_map fun _ => visit]
      · have hitems : env.name t ≠ "items" := by
          intro hitems
          rw [hitems] at hsingle
          exact Bool.noConfusion hsingle
        simp only [if_neg hmap, if_neg hitems, Option.map_none]
    | arr ss =>
      rw [Option.map_some, visitKeyword]
      by_cases hunion : isUnion (env.name t) = true
      · rw [if_pos hunion, visit, visitList_eq]
        simp only [if_pos hunion]
        cases env.index t' with
        | none => rfl
        | some i => exact List.getElem?_map
      · simp only [if_neg hunion, Option.map_none]
    | _ => rfl

/-- What stands under a keyword with one schema, and what stands there in the strict node. -/
theorem single_strict (fields : Fields) {key : String} (h : isSingle key = true) :
    (∀ s, get? fields key = some s → ∃ s', get? (finish (visitFields fields)) key = some s' ∧ Rel s s') ∧
      (get? fields key = none → get? (finish (visitFields fields)) key = none ∨
        get? (finish (visitFields fields)) key = some (.bool false)) := by
  have hvisited := narrowed_visit fields
  simp only [isSingle, Bool.or_eq_true, beq_iff_eq] at h
  rcases h with rfl | rfl
  · rcases hvisited.items with ⟨habsent, habsent'⟩ | ⟨s, s', hs, hs', hrel⟩
    · exact ⟨fun s hs => absurd (habsent.symm.trans hs) (by simp), fun _ => Or.inl habsent'⟩
    · refine ⟨fun t ht => ⟨s', hs', ?_⟩, fun hnone => absurd (hs.symm.trans hnone) (by simp)⟩
      cases hs.symm.trans ht
      exact hrel
  · rw [get?_finish_additional, get?_additional_visitFields]
    split
    · rename_i habsent
      exact ⟨fun s hs => absurd (habsent.2.symm.trans hs) (by simp), fun _ => Or.inr rfl⟩
    · exact ⟨fun s hs => ⟨s, hs, Or.inl rfl⟩, fun hnone => Or.inl hnone⟩

theorem resolve_false (ts : List Token) : resolve env (.bool false) ts = none ∨ resolve env (.bool false) ts = some (.bool false) := by
  cases ts with
  | nil => exact Or.inr (by rw [resolve])
  | cons t ts => exact Or.inl (by rw [resolve] <;> simp)

/-- A pointer leads from the document to a schema, and from its strict form to what stands at that place. -/
theorem resolve_rel {s s' : Value} (h : Rel s s') (ts : List Token) :
    (∀ target, resolve env s ts = some target → ∃ target', resolve env s' ts = some target' ∧ Rel target target') ∧
      (resolve env s ts = none → resolve env s' ts = none ∨ resolve env s' ts = some (.bool false)) := by
  have hself : (∀ target, resolve env s ts = some target → ∃ target', resolve env s ts = some target' ∧ Rel target target') ∧
      (resolve env s ts = none → resolve env s ts = none ∨ resolve env s ts = some (.bool false)) :=
    ⟨fun target htarget => ⟨target, htarget, Or.inl rfl⟩, fun hnone => Or.inl hnone⟩
  rcases h with rfl | rfl
  · exact hself
  clear hself
  fun_induction resolve env s ts with
  | case1 s =>
    refine ⟨fun target htarget => ?_, by rintro ⟨⟩⟩
    cases htarget
    exact ⟨visit s, by rw [resolve], Or.inr rfl⟩
  | case2 fields t ts hsingle ih =>
    obtain ⟨hsome, hnone⟩ := single_strict fields hsingle
    rw [visit, resolve_single env _ hsingle]
    cases hget : get? fields (env.name t) with
    | none =>
      refine ⟨by rintro target ⟨⟩, fun _ => ?_⟩
      rcases hnone hget with h | h
      · exact Or.inl (by rw [h, Option.bind_none])
      · rw [h, Option.bind_some]
        exact resolve_false env ts
    | some s =>
      obtain ⟨s', hs', rfl | rfl⟩ := hsome s hget
      · rw [hs', Option.bind_some]
        exact ⟨fun target htarget => ⟨target, htarget, Or.inl rfl⟩, fun h => Or.inl h⟩
      · rw [hs', Option.bind_some]
        exact ih s
  | case3 fields t hsingle =>
    refine ⟨by rintro target ⟨⟩, fun _ => Or.inl ?_⟩
    rw [visit, resolve.eq_def]
    exact if_neg hsingle
  | case4 fields t hsingle t' ts ih =>
    have hsingle' := eq_false_of_ne_true hsingle
    rw [visit, resolve_member env _ hsingle', member_strict env fields t t' hsingle']
    cases member env fields t t' with
    | none => exact ⟨by rintro target ⟨⟩, fun _ => Or.inl rfl⟩
    | some s => exact ih s
  | case5 ts s hnil hobj =>
    refine ⟨by rintro target ⟨⟩, fun _ => Or.inl ?_⟩
    cases ts with
    | nil => exact absurd rfl hnil
    | cons t ts =>
      cases s with
      | obj fields => exact absurd rfl (hobj fields t ts rfl)
      | _ => rw [visit, resolve] <;> simp

/-! ## Validation in step -/

theorem forall₂_results {α β : Type} {R : α → β → Prop} {f : α → Option Bool} {g : β → Option Bool} {l : List α} {l' : List β}
    (h : List.Forall₂ R l l') (hresult : ∀ a b, R a b → Narrows (g b) (f a)) : List.Forall₂ Narrows (l'.map g) (l.map f) := by
  rw [List.forall₂_map_left_iff, List.forall₂_map_right_iff]
  exact (h.imp hresult).flip

section Parts

variable {root root' : Value} {ask ask' : Value → Value → Option Bool} {fields fields' : Fields}

theorem checkRef_narrows (hroot : Rel root root') (hask : ∀ s s', Rel s s' → ∀ x, Narrows (ask' s' x) (ask s x))
    (hfalse : ∀ x, ask' (.bool false) x ≠ some true) (h : Narrowed fields fields') (x : Value) :
    Narrows (checkRef env root' ask' fields' x) (checkRef env root ask fields x) := by
  unfold checkRef
  rw [h.ref]
  cases get? fields "$ref" with
  | none => exact narrows_true _
  | some v =>
    cases v with
    | str ref =>
      dsimp only
      cases env.pointer ref with
      | none => exact Narrows.refl _
      | some ts =>
        obtain ⟨hsome, hnone⟩ := resolve_rel env hroot ts
        rw [Option.bind_some, Option.bind_some]
        cases hresolve : resolve env root ts with
        | some target =>
          obtain ⟨target', htarget', hrel⟩ := hsome target hresolve
          rw [htarget']
          exact hask _ _ hrel x
        | none =>
          -- a pointer into an absent `additionalProperties` leads to the `False` that the strict node has there
          rcases hnone hresolve with hnone' | hbool
          · rw [hnone']
            exact Narrows.refl _
          · rw [hbool]
            intro b' hb'
            refine ⟨false, rfl, fun hb => ?_⟩
            rw [hb] at hb'
            exact absurd hb' (hfalse x)
    | _ => exact Narrows.refl _

theorem checkProperties_narrows (hask : ∀ s s', Rel s s' → ∀ x, Narrows (ask' s' x) (ask s x)) (h : Narrowed fields fields')
    (x : Value) : Narrows (checkProperties ask' fields' x) (checkProperties ask fields x) := by
  cases x with
  | obj members =>
    refine allOf_narrows (forall₂_results h.declared fun p p' hp => ?_)
    rw [hp.1]
    split
    · exact hask _ _ hp.2 _
    · exact narrows_true _
  | _ => exact Narrows.refl _

theorem checkRequired_narrows (h : Narrowed fields fields') (x : Value) :
    Narrows (checkRequired standard fields' x) (checkRequired loose fields x) := by
  cases x with
  | obj members =>
    intro b' hb'
    refine ⟨_, rfl, fun hb => List.all_eq_true.2 fun name hname => ?_⟩
    rw [hb] at hb'
    exact List.all_eq_true.1 (Option.some.inj hb') name (h.required name hname)
  | _ => exact Narrows.refl _

theorem keys_declared (h : Narrowed fields fields') :
    ((declared fields').getD []).map Prod.fst = ((declared fields).getD []).map Prod.fst := by
  have hdeclared := h.declared
  generalize (declared fields).getD [] = properties at hdeclared ⊢
  generalize (declared fields').getD [] = properties' at hdeclared ⊢
  induction hdeclared with
  | nil => rfl
  | cons hp _ ih => rw [List.map_cons, List.map_cons, hp.1, ih]

theorem checkAdditional_narrows (hask : ∀ s s', Rel s s' → ∀ x, Narrows (ask' s' x) (ask s x)) (h : Narrowed fields fields')
    (x : Value) : Narrows (checkAdditional ask' fields' x) (checkAdditional ask fields x) := by
  cases x with
  | obj members =>
    unfold checkAdditional
    rcases h.additional with habsent | hsame
    · rw [habsent]
      exact narrows_true _
    · rw [hsame, keys_declared h]
      cases get? fields "additionalProperties" with
      | none => exact narrows_true _
      | some s => exact allOf_narrows (forall₂_results (List.forall₂_same.2 fun _ _ => rfl) fun p p' (hp : p = p') => by
          rw [hp]
          exact hask _ _ (Or.inl rfl) _)
  | _ => exact Narrows.refl _

theorem checkItems_narrows (hask : ∀ s s', Rel s s' → ∀ x, Narrows (ask' s' x) (ask s x)) (h : Narrowed fields fields') (x : Value) :
    Narrows (checkItems ask' fields' x) (checkItems ask fields x) := by
  cases x with
  | arr xs =>
    unfold checkItems
    rcases h.items with ⟨habsent, habsent'⟩ | ⟨s, s', hs, hs', hrel⟩
    · rw [habsent, habsent']
      exact narrows_true _
    · rw [hs, hs']
      exact allOf_narrows (JsonSchema.forall₂_map xs fun x _ => hask _ _ hrel x)
  | _ => exact Narrows.refl _

theorem checkUnion_narrows (hask : ∀ s s', Rel s s' → ∀ x, Narrows (ask' s' x) (ask s x)) (h : Narrowed fields fields') {key : String}
    (hkey : isUnion key = true) {combine combine' : List (Option Bool) → Option Bool}
    (hcombine : ∀ rs' rs, List.Forall₂ Narrows rs' rs → Narrows (combine' rs') (combine rs)) (x : Value) :
    Narrows (checkUnion ask' fields' key combine' x) (checkUnion ask fields key combine x) := by
  unfold checkUnion
  rcases h.union key hkey with ⟨ss, ss', hss, hss', hrel⟩ | hnone
  · rw [hss, hss']
    exact hcombine _ _ (forall₂_results hrel fun s s' hs => hask s s' hs x)
  · split
    · rename_i ss hss
      exact absurd hss (hnone ss).2
    · split
      · rename_i ss hss
        exact absurd hss (hnone ss).1
      · exact Narrows.refl _

theorem checkNode_narrows (hroot : Rel root root') (hask : ∀ s s', Rel s s' → ∀ x, Narrows (ask' s' x) (ask s x))
    (hfalse : ∀ x, ask' (.bool false) x ≠ some true) (h : Narrowed fields fields') (x : Value) :
    Narrows (checkNode env standard root' ask' fields' x) (checkNode env loose root ask fields x) := by
  refine allOf_narrows ?_
  refine .cons (checkRef_narrows env hroot hask hfalse h x) (.cons (checkProperties_narrows hask h x)
    (.cons (checkRequired_narrows h x) (.cons (checkAdditional_narrows hask h x) (.cons (checkItems_narrows hask h x)
    (.cons (checkUnion_narrows hask h rfl ?_ x) (.cons (checkUnion_narrows hask h rfl ?_ x)
    (.cons (checkUnion_narrows hask h rfl ?_ x) (.cons ?_ .nil))))))))
  · exact fun _ _ hrs => (anyOf_narrows hrs).1
  · exact fun _ _ hrs => (anyOf_narrows hrs).2
  · exact fun _ _ hrs => allOf_narrows hrs
  · rw [checkAssertions, checkAssertions, h.assertions]
    exact Narrows.refl _

end Parts

theorem check_narrows {root root' : Value} (hroot : Rel root root') (n : Nat) {s s' : Value} (h : Rel s s') (x : Value) :
    Narrows (check env standard root' n s' x) (check env loose root n s x) := by
  induction n generalizing s s' x with
  | zero => exact fun _ h => (nomatch h)
  | succ n ih =>
    have hfalse : ∀ x, check env standard root' n (.bool false) x ≠ some true := by
      intro x hx
      cases n <;> cases hx
    have hnode : ∀ fields fields', Narrowed fields fields' →
        Narrows (check env standard root' (n + 1) (.obj fields') x) (check env loose root (n + 1) (.obj fields) x) :=
      fun fields fields' hfields => checkNode_narrows env hroot (fun s s' hs x => ih hs x) hfalse hfields x
    cases s with
    | obj fields =>
      rcases h with rfl | rfl
      · exact hnode fields fields (narrowed_refl fields)
      · exact hnode fields _ (narrowed_visit fields)
    | bool b => rcases h with rfl | rfl <;> exact Narrows.refl _
    | _ => rcases h with rfl | rfl <;> exact Narrows.refl _

end NarrowingAux

open NarrowingAux

/-! ## The nodes that the traversal reaches -/

/-- A step of the traversal, from a node to one that it visits. -/
inductive Step
  | entry (key name : String)
  | items
  | branch (key : String) (i : Nat)
  | element (i : Nat)
  deriving DecidableEq, Repr

def child : Value → Step → Option Value
  | .obj fields, .entry key name =>
    match get? fields key with
    | some (.obj entries) => if isMap key then get? entries name else none
    | _ => none
  | .obj fields, .items =>
    match get? fields "items" with
    | some (.obj node) => some (.obj node)
    | _ => none
  | .obj fields, .branch key i =>
    match get? fields key with
    | some (.arr schemas) => if isUnion key then schemas[i]? else none
    | _ => none
  | .arr xs, .element i => xs[i]?
  | _, _ => none

/-- The node at the end of a path. -/
def nodeAt : Value → List Step → Option Value
  | v, [] => some v
  | v, step :: steps => (child v step).bind fun w => nodeAt w steps

theorem child_visit (v : Value) (step : Step) : child (visit v) step = (child v step).map visit := by
  cases v with
  | obj fields =>
    cases step with
    | entry key name =>
      rw [visit, child, child]
      by_cases hmap : isMap key = true
      · rw [get?_strict (by rintro rfl; cases hmap) (by rintro rfl; cases hmap) (by rintro rfl; cases hmap)]
        cases get? fields key with
        | none => rfl
        | some w =>
          cases w with
          | obj entries =>
            simp only [Option.map_some, visitKeyword, if_pos hmap]
            rw [visitEntries_eq, get?_map fun _ => visit]
          | arr xs =>
            have hunion : isUnion key = false := by
              simp only [isMap, Bool.or_eq_true, beq_iff_eq] at hmap
              rcases hmap with (rfl | rfl) | rfl <;> rfl
            rw [Option.map_some, visitKeyword, if_neg (ne_true_of_eq_false hunion)]
            rfl
          | _ => rfl
      · have hnone : ∀ fields, (match get? fields key with
            | some (.obj entries) => if isMap key then get? entries name else none
            | _ => none) = none := by
          intro fields
          split
          · exact if_neg hmap
          · rfl
        rw [hnone, hnone, Option.map_none]
    | items =>
      rw [visit, child, child, get?_strict (by decide) (by decide) (by decide)]
      cases get? fields "items" with
      | none => rfl
      | some w => cases w <;> rfl
    | branch key i =>
      rw [visit, child, child]
      by_cases hunion : isUnion key = true
      · rw [get?_strict (by rintro rfl; cases hunion) (by rintro rfl; cases hunion) (by rintro rfl; cases hunion)]
        cases get? fields key with
        | none => rfl
        | some w =>
          cases w with
          | arr schemas =>
            simp only [Option.map_some, visitKeyword, if_pos hunion, visit, visitList_eq]
            exact List.getElem?_map
          | obj entries =>
            have hmap : isMap key = false ∧ key ≠ "items" := not_map_of_isUnion hunion
            rw [Option.map_some, visitKeyword, if_neg (ne_true_of_eq_false hmap.1), if_neg hmap.2]
            rfl
          | _ => rfl
      · have hnone : ∀ fields, (match get? fields key with
            | some (.arr schemas) => if isUnion key then schemas[i]? else none
            | _ => none) = none := by
          intro fields
          split
          · exact if_neg hunion
          · rfl
        rw [hnone, hnone, Option.map_none]
    | element i => rfl
  | arr xs =>
    cases step with
    | element i =>
      rw [visit, child, child, visitList_eq]
      exact List.getElem?_map
    | _ => rfl
  | _ => cases step <;> rfl

/-- The result has the strict form of each node at the place of that node. -/
theorem nodeAt_visit (v : Value) (steps : List Step) : nodeAt (visit v) steps = (nodeAt v steps).map visit := by
  induction steps generalizing v with
  | nil => rfl
  | cons step steps ih =>
    rw [nodeAt, nodeAt, child_visit]
    cases child v step with
    | none => rfl
    | some w => exact ih w

/-- A node as the traversal leaves it, beside the node it came to. -/
structure Strict (fields fields' : Fields) : Prop where
  properties : (declared fields').map (List.map Prod.fst) = (declared fields).map (List.map Prod.fst)
  required : ∀ properties, declared fields = some properties →
    get? fields' "required" = some (.arr (properties.map fun p => .str p.1.toList))
  additional : isObject fields = true →
    get? fields' "additionalProperties" = some ((get? fields "additionalProperties").getD (.bool false))

theorem strict_visit (fields : Fields) : Strict fields (finish (visitFields fields)) where
  properties := by
    rw [declared_strict]
    cases declared fields with
    | none => rfl
    | some properties => exact congrArg some (keys_visitEntries properties)
  required properties hdeclared := by
    rw [get?_finish_required, declared_visitFields, hdeclared, Option.map_some, visitEntries_eq]
    dsimp only
    rw [List.map_map]
    rfl
  additional hobject := by
    rw [get?_finish_additional, get?_additional_visitFields, isObject_visitFields]
    cases get? fields "additionalProperties" with
    | none => exact if_pos ⟨hobject, rfl⟩
    | some s => exact if_neg fun habsent => (nomatch habsent.2)

/-! ## Normalisation narrows -/

/-- The normal form is its own, the schema of the caller stays, each node the traversal reaches is strict, and what the normal form
accepts the schema accepts: `oneOf` read as at least one branch and names required among those declared, or both as they stand
where every node is plain. -/
theorem strict_narrows (schema : Fields) :
    (∃ result, (strictJsonSchema schema).normalized = .obj result ∧ (strictJsonSchema result).normalized = .obj result) ∧
      (strictJsonSchema schema).schema = .obj schema ∧
      (∀ steps fields, nodeAt (.obj schema) steps = some (.obj fields) →
        ∃ fields', nodeAt (strictJsonSchema schema).normalized steps = some (.obj fields') ∧ Strict fields fields') ∧
      (∀ x, Valid env standard (strictJsonSchema schema).normalized x → Valid env loose (.obj schema) x) ∧
      ((∀ s, Position (.obj schema) s → Plain s) →
        ∀ x, Valid env standard (strictJsonSchema schema).normalized x → Valid env standard (.obj schema) x) := by
  have hnormalized : (strictJsonSchema schema).normalized = visit (.obj schema) := rfl
  have hloose : ∀ x, Valid env standard (visit (.obj schema)) x → Valid env loose (.obj schema) x := by
    rintro x ⟨n, hn⟩
    obtain ⟨b, hb, htrue⟩ := check_narrows env (Or.inr rfl) n (Or.inr rfl) x true hn
    exact ⟨n, by rw [hb, htrue rfl]⟩
  rw [hnormalized]
  refine ⟨⟨finish (visitFields schema), by rw [visit], ?_⟩, rfl, ?_, hloose, ?_⟩
  · have htwice := visit_visit (.obj schema)
    rw [visit] at htwice
    exact htwice
  · intro steps fields hnode
    refine ⟨finish (visitFields fields), ?_, strict_visit fields⟩
    rw [nodeAt_visit, hnode, Option.map_some, visit]
  · rintro hplain x hx
    obtain ⟨n, hn⟩ := hloose x hx
    refine ⟨n, ?_⟩
    rw [check_plain env hplain n Relation.ReflTransGen.refl]
    exact hn

/-! ## Where it widens -/

/-- The `type` keyword as the one assertion. -/
def typed : JsonSchema.Env PyText.Text where
  pointer _ := none
  name := String.ofList
  index _ := none
  assertion key expected x :=
    match key, expected, x with
    | "type", .str t, .obj _ => t == "object".toList
    | "type", .str t, _ => t != "object".toList
    | _, _, _ => true

def eitherObject : Fields :=
  [("oneOf", .arr [.obj [("type", .str "object".toList), ("properties", .obj [("a", .obj [])])],
    .obj [("type", .str "object".toList)]])]

def undeclaredName : Fields :=
  [("type", .str "object".toList), ("properties", .obj [("a", .obj [])]), ("required", .arr [.str ['a'], .str ['b']])]

/-- A second branch that no longer accepts makes the first one the only one; an undeclared name is no longer required; a node without
`properties` gets no list. -/
theorem strict_widens :
    (Valid typed standard (strictJsonSchema eitherObject).normalized (.obj [("a", .int 1)]) ∧
      ¬Valid typed standard (.obj eitherObject) (.obj [("a", .int 1)])) ∧
    (Valid typed standard (strictJsonSchema undeclaredName).normalized (.obj [("a", .int 1)]) ∧
      ¬Valid typed standard (.obj undeclaredName) (.obj [("a", .int 1)])) ∧
    (strictJsonSchema [("type", .str "object".toList)]).normalized =
      .obj [("type", .str "object".toList), ("additionalProperties", .bool false)] :=
  ⟨⟨⟨4, by decide +kernel⟩, not_valid_of_check typed (n := 4) (by decide +kernel)⟩,
    ⟨⟨4, by decide +kernel⟩, not_valid_of_check typed (n := 4) (by decide +kernel)⟩, rfl⟩

end PromptRail.StrictSchema
