import PromptRail.Library.JsonRoundTrip
import Mathlib.Data.List.Forall2
import Mathlib.Logic.Relation

/-!
# JSON Schema

Validation of a JSON value, for the keywords that hold schemas and for references; every other keyword is an assertion, taken as a
parameter. References may be recursive, so that validation takes fuel and may stay undecided. A schema is read by the standard, or
loosely: `oneOf` as at least one branch, and `required` of the properties that are declared. `Narrows` compares two results, and what
is decided stays decided with more fuel (`check_le`).
-/

namespace JsonSchema

open Json

/-- What the keywords mean beyond those that hold schemas: how a reference is read, and the assertions. -/
structure Env (Token : Type) where
  pointer : PyText.Text → Option (List Token)
  name : Token → String
  index : Token → Option Nat
  assertion : String → Value → Value → Bool

/-- A reading of `oneOf` and of `required`. -/
structure Reading where
  exactlyOne : Bool
  allRequired : Bool

def standard : Reading := ⟨true, true⟩

def loose : Reading := ⟨false, false⟩

/-! ## Results -/

/-- All of several results, once each is decided. -/
def allOf (rs : List (Option Bool)) : Option Bool := if rs.all Option.isSome then some (rs.all fun r => r == some true) else none

/-- One of several results at least. -/
def anyOf (rs : List (Option Bool)) : Option Bool := if rs.all Option.isSome then some (rs.any fun r => r == some true) else none

/-- One of several results and no other. -/
def oneOf (rs : List (Option Bool)) : Option Bool :=
  if rs.all Option.isSome then some (rs.countP (fun r => r == some true) == 1) else none

/-! ## Schemas -/

/-- The keywords under which schemas stand by name. -/
def isMap (key : String) : Bool := key == "properties" || key == "$defs" || key == "definitions"

/-- The keywords that hold one schema. -/
def isSingle (key : String) : Bool := key == "items" || key == "additionalProperties"

/-- The keywords that hold a list of schemas. -/
def isUnion (key : String) : Bool := key == "anyOf" || key == "oneOf" || key == "allOf"

/-- The keywords that are no assertions of their own. -/
def isHandled (key : String) : Bool :=
  isMap key || isSingle key || isUnion key || key == "$ref" || key == "required" || key == "default"

section Resolve

variable {Token : Type} (env : Env Token)

/-- The schema under a keyword that holds several: by name, or by number. -/
def member (fields : Fields) (t t' : Token) : Option Value :=
  match get? fields (env.name t) with
  | some (.obj entries) => if isMap (env.name t) then get? entries (env.name t') else none
  | some (.arr schemas) => if isUnion (env.name t) then (env.index t').bind fun i => schemas[i]? else none
  | _ => none

/-- The schema that a pointer leads to. -/
def resolve : Value → List Token → Option Value
  | schema, [] => some schema
  | .obj fields, t :: ts =>
    if isSingle (env.name t) then (get? fields (env.name t)).bind fun s => resolve s ts
    else
      match ts with
      | [] => none
      | t' :: ts => (member env fields t t').bind fun s => resolve s ts
  | _, _ => none

theorem resolve_single (fields : Fields) {t : Token} (h : isSingle (env.name t) = true) (ts : List Token) :
    resolve env (.obj fields) (t :: ts) = (get? fields (env.name t)).bind fun s => resolve env s ts := by
  rw [resolve.eq_def]
  exact if_pos h

theorem resolve_member (fields : Fields) {t : Token} (h : isSingle (env.name t) = false) (t' : Token) (ts : List Token) :
    resolve env (.obj fields) (t :: t' :: ts) = (member env fields t t').bind fun s => resolve env s ts := by
  rw [resolve.eq_def]
  exact if_neg (ne_true_of_eq_false h)

end Resolve

/-- A schema that stands in another one. -/
inductive Child : Value → Value → Prop
  | single {fields : Fields} {key : String} {s : Value} : isSingle key = true → get? fields key = some s → Child (.obj fields) s
  | entry {fields entries : Fields} {key name : String} {s : Value} : isMap key = true → get? fields key = some (.obj entries) →
      (name, s) ∈ entries → Child (.obj fields) s
  | branch {fields : Fields} {key : String} {schemas : List Value} {s : Value} : isUnion key = true →
      get? fields key = some (.arr schemas) → s ∈ schemas → Child (.obj fields) s

/-- A schema that stands in another one at any depth. -/
def Position (root s : Value) : Prop := Relation.ReflTransGen Child root s

/-! ## Validation -/

/-- The properties that a node declares. -/
def declared (fields : Fields) : Option Fields :=
  match get? fields "properties" with
  | some (.obj properties) => some properties
  | _ => none

/-- The names in `required`. -/
def requiredNames (fields : Fields) : List String :=
  match get? fields "required" with
  | some (.arr names) => names.filterMap fun name => match name with | .str t => some (String.ofList t) | _ => none
  | _ => []

/-- The names a reading requires. -/
def Reading.required (reading : Reading) (fields : Fields) : List String :=
  if reading.allRequired then requiredNames fields
  else
    match declared fields with
    | some properties => (requiredNames fields).filter fun name => (properties.map Prod.fst).contains name
    | none => requiredNames fields

section Validation

variable {Token : Type} (env : Env Token) (reading : Reading) (root : Value) (ask : Value → Value → Option Bool) (fields : Fields)

/-- A reference that leads nowhere accepts nothing. -/
def checkRef (x : Value) : Option Bool :=
  match get? fields "$ref" with
  | none => some true
  | some (.str ref) =>
    match (env.pointer ref).bind (resolve env root) with
    | some target => ask target x
    | none => some false
  | some _ => some false

def checkProperties : Value → Option Bool
  | .obj members => allOf (((declared fields).getD []).map fun p =>
      match get? members p.1 with
      | some x => ask p.2 x
      | none => some true)
  | _ => some true

def checkRequired : Value → Option Bool
  | .obj members => some ((reading.required fields).all fun name => (get? members name).isSome)
  | _ => some true

def checkAdditional : Value → Option Bool
  | .obj members =>
    match get? fields "additionalProperties" with
    | some s => allOf ((members.filter fun p => !(((declared fields).getD []).map Prod.fst).contains p.1).map fun p => ask s p.2)
    | none => some true
  | _ => some true

def checkItems : Value → Option Bool
  | .arr xs =>
    match get? fields "items" with
    | some s => allOf (xs.map (ask s))
    | none => some true
  | _ => some true

/-- A keyword that holds a list of schemas. -/
def checkUnion (key : String) (combine : List (Option Bool) → Option Bool) (x : Value) : Option Bool :=
  match get? fields key with
  | some (.arr schemas) => combine (schemas.map fun s => ask s x)
  | _ => some true

def checkAssertions (x : Value) : Option Bool :=
  some ((fields.filter fun p => !isHandled p.1).all fun p => env.assertion p.1 p.2 x)

/-- What a node asks of a value. -/
def checkNode (x : Value) : Option Bool :=
  allOf [checkRef env root ask fields x, checkProperties ask fields x, checkRequired reading fields x, checkAdditional ask fields x,
    checkItems ask fields x, checkUnion ask fields "anyOf" anyOf x,
    checkUnion ask fields "oneOf" (if reading.exactlyOne then oneOf else anyOf) x, checkUnion ask fields "allOf" allOf x,
    checkAssertions env fields x]

end Validation

variable {Token : Type} (env : Env Token)

/-- Validation of a value against a schema of the document `root`. -/
def check (reading : Reading) (root : Value) : Nat → Value → Value → Option Bool
  | 0, _, _ => none
  | _ + 1, .bool b, _ => some b
  | n + 1, .obj fields, x => checkNode env reading root (check reading root n) fields x
  | _ + 1, _, _ => some false

/-- A value is valid against a document. -/
def Valid (reading : Reading) (root x : Value) : Prop := ∃ n, check env reading root n root x = some true

/-! ## Positions -/

theorem mem_of_get? {fields : Fields} {name : String} {v : Value} (h : get? fields name = some v) : (name, v) ∈ fields := by
  obtain ⟨p, hp, hv⟩ := Option.map_eq_some_iff.1 h
  have hname := List.find?_some hp
  rw [beq_iff_eq] at hname
  have hmem := List.mem_of_find?_eq_some hp
  rw [← hname, ← hv]
  exact hmem

theorem child_of_member {fields : Fields} {t t' : Token} {s : Value} (h : member env fields t t' = some s) :
    Child (.obj fields) s := by
  unfold member at h
  split at h
  · rename_i entries hget
    split at h
    · rename_i hmap
      exact Child.entry hmap hget (mem_of_get? h)
    · cases h
  · rename_i schemas hget
    split at h
    · rename_i hunion
      obtain ⟨i, -, hs⟩ := Option.bind_eq_some_iff.1 h
      exact Child.branch hunion hget (List.mem_of_getElem? hs)
    · cases h
  · cases h

/-- A pointer leads to a schema inside the document. -/
theorem position_of_resolve {s s' : Value} {ts : List Token} (h : resolve env s ts = some s') : Position s s' := by
  fun_induction resolve env s ts with
  | case1 s =>
    cases h
    exact Relation.ReflTransGen.refl
  | case2 fields t ts hsingle ih =>
    obtain ⟨s, hs, h⟩ := Option.bind_eq_some_iff.1 h
    exact (ih s h).head (Child.single hsingle hs)
  | case3 => cases h
  | case4 fields t hsingle t' ts ih =>
    obtain ⟨s, hs, h⟩ := Option.bind_eq_some_iff.1 h
    exact (ih s h).head (child_of_member env hs)
  | case5 => cases h

/-- A node that both readings take alike: it has no `oneOf`, and requires only what it declares. -/
def Plain : Value → Prop
  | .obj fields => get? fields "oneOf" = none ∧
      ∀ properties, declared fields = some properties → ∀ name ∈ requiredNames fields, name ∈ properties.map Prod.fst
  | _ => True

theorem checkNode_plain {root : Value} {ask ask' : Value → Value → Option Bool} {fields : Fields} (hplain : Plain (.obj fields))
    (hchild : ∀ s, Child (.obj fields) s → ask s = ask' s) (hposition : ∀ s, Position root s → ask s = ask' s) (x : Value) :
    checkNode env standard root ask fields x = checkNode env loose root ask' fields x := by
  have href : checkRef env root ask fields x = checkRef env root ask' fields x := by
    unfold checkRef
    split
    · rfl
    · split
      · rename_i target htarget
        obtain ⟨ts, -, htarget⟩ := Option.bind_eq_some_iff.1 htarget
        rw [hposition _ (position_of_resolve env htarget)]
      · rfl
    · rfl
  have hproperties : checkProperties ask fields x = checkProperties ask' fields x := by
    cases x with
    | obj members =>
      rw [checkProperties, checkProperties]
      refine congrArg allOf (List.map_congr_left fun p hp => ?_)
      have hdeclared : ask p.2 = ask' p.2 := by
        unfold declared at hp
        split at hp
        · rename_i properties hget
          exact hchild _ (Child.entry rfl hget hp)
        · cases hp
      rw [hdeclared]
    | _ => rfl
  have hrequired : checkRequired standard fields x = checkRequired loose fields x := by
    have hnames : standard.required fields = loose.required fields := by
      show requiredNames fields = _
      unfold Reading.required
      rw [if_neg (show ¬loose.allRequired = true from Bool.false_ne_true)]
      split
      · rename_i properties hdeclared
        refine (List.filter_eq_self.2 fun name hname => ?_).symm
        exact List.contains_iff_mem.2 (hplain.2 _ hdeclared name hname)
      · rfl
    cases x with
    | obj members => rw [checkRequired, checkRequired, hnames]
    | _ => rfl
  have hadditional : checkAdditional ask fields x = checkAdditional ask' fields x := by
    cases x with
    | obj members =>
      cases hget : get? fields "additionalProperties" with
      | some s => simp only [checkAdditional, hget, hchild s (Child.single rfl hget)]
      | none => simp only [checkAdditional, hget]
    | _ => rfl
  have hitems : checkItems ask fields x = checkItems ask' fields x := by
    cases x with
    | arr xs =>
      cases hget : get? fields "items" with
      | some s => simp only [checkItems, hget, hchild s (Child.single rfl hget)]
      | none => simp only [checkItems, hget]
    | _ => rfl
  have hunion : ∀ key combine, isUnion key = true → checkUnion ask fields key combine x = checkUnion ask' fields key combine x := by
    intro key combine hkey
    unfold checkUnion
    split
    · rename_i schemas hget
      exact congrArg combine (List.map_congr_left fun s hs => by rw [hchild s (Child.branch hkey hget hs)])
    · rfl
  have honeOf : ∀ combine, checkUnion ask' fields "oneOf" combine x = some true := by
    intro combine
    rw [checkUnion, hplain.1]
  rw [checkNode, checkNode, href, hproperties, hrequired, hadditional, hitems, hunion _ _ rfl, hunion _ _ rfl, hunion _ _ rfl,
    honeOf, honeOf]

/-- A document whose nodes are all plain is one and the same in both readings. -/
theorem check_plain {root : Value} (hplain : ∀ s, Position root s → Plain s) (n : Nat) {s : Value} (hs : Position root s) :
    check env standard root n s = check env loose root n s := by
  induction n generalizing s with
  | zero => rfl
  | succ n ih =>
    funext x
    cases s with
    | obj fields => exact checkNode_plain env (hplain _ hs) (fun s' hchild => ih (hs.tail hchild)) (fun s' hs' => ih hs') x
    | _ => rfl

/-! ## Narrower results -/

/-- The first result is decided no sooner than the second one, and accepts no more. -/
def Narrows (r' r : Option Bool) : Prop := ∀ b', r' = some b' → ∃ b, r = some b ∧ (b' = true → b = true)

theorem Narrows.refl (r : Option Bool) : Narrows r r := fun b hb => ⟨b, hb, id⟩

theorem narrows_true (r : Option Bool) : Narrows r (some true) := fun _ _ => ⟨true, rfl, fun _ => rfl⟩

/-- Narrower results are decided only where the others are, and a true one only where the other one is true. -/
theorem narrows_list {rs' rs : List (Option Bool)} (h : List.Forall₂ Narrows rs' rs) (hdecided : rs'.all Option.isSome = true) :
    rs.all Option.isSome = true ∧
      List.Forall₂ (fun r' r => (r' == some true) = true → (r == some true) = true) rs' rs := by
  induction h with
  | nil => exact ⟨rfl, List.Forall₂.nil⟩
  | @cons r' r rs' rs hr _ ih =>
    rw [List.all_cons, Bool.and_eq_true] at hdecided
    obtain ⟨b', rfl⟩ := Option.isSome_iff_exists.1 hdecided.1
    obtain ⟨b, rfl, himp⟩ := hr b' rfl
    obtain ⟨hall, htail⟩ := ih hdecided.2
    refine ⟨by rw [List.all_cons, hall]; rfl, List.Forall₂.cons ?_ htail⟩
    simpa using himp

theorem allOf_narrows {rs' rs : List (Option Bool)} (h : List.Forall₂ Narrows rs' rs) : Narrows (allOf rs') (allOf rs) := by
  intro b' hb'
  unfold allOf at hb'
  split at hb'
  · rename_i hdecided
    cases hb'
    obtain ⟨hall, htrue⟩ := narrows_list h hdecided
    refine ⟨_, if_pos hall, fun hb => ?_⟩
    clear h hdecided hall
    induction htrue with
    | nil => rfl
    | cons hr _ ih =>
      rw [List.all_cons, Bool.and_eq_true] at hb ⊢
      exact ⟨hr hb.1, ih hb.2⟩
  · cases hb'

/-- One true result, or exactly one, gives one true one among the wider results. -/
theorem anyOf_narrows {rs' rs : List (Option Bool)} (h : List.Forall₂ Narrows rs' rs) :
    Narrows (anyOf rs') (anyOf rs) ∧ Narrows (oneOf rs') (anyOf rs) := by
  have hwider : rs'.all Option.isSome = true → rs.all Option.isSome = true ∧
      ((rs'.any fun r => r == some true) = true → (rs.any fun r => r == some true) = true) := by
    intro hdecided
    obtain ⟨hall, htrue⟩ := narrows_list h hdecided
    refine ⟨hall, fun hb => ?_⟩
    clear h hdecided hall
    induction htrue with
    | nil => exact hb
    | cons hr _ ih =>
      rw [List.any_cons, Bool.or_eq_true] at hb ⊢
      exact hb.imp hr ih
  constructor
  · intro b' hb'
    unfold anyOf at hb'
    split at hb'
    · rename_i hdecided
      cases hb'
      exact ⟨_, if_pos (hwider hdecided).1, (hwider hdecided).2⟩
    · cases hb'
  · intro b' hb'
    unfold oneOf at hb'
    split at hb'
    · rename_i hdecided
      cases hb'
      refine ⟨_, if_pos (hwider hdecided).1, fun hone => (hwider hdecided).2 ?_⟩
      have hcount : 0 < rs'.countP fun r => r == some true := by
        rw [beq_iff_eq] at hone
        omega
      obtain ⟨r, hr, htrue⟩ := List.countP_pos_iff.1 hcount
      exact List.any_eq_true.2 ⟨r, hr, htrue⟩
    · cases hb'

/-! ## More fuel -/

/-- What is decided is decided alike. -/
def Agrees (r r' : Option Bool) : Prop := ∀ b, r = some b → r' = some b

theorem Agrees.refl (r : Option Bool) : Agrees r r := fun _ h => h

theorem agrees_list {rs rs' : List (Option Bool)} (h : List.Forall₂ Agrees rs rs') (hdecided : rs.all Option.isSome = true) :
    rs = rs' := by
  induction h with
  | nil => rfl
  | @cons r r' rs rs' hr _ ih =>
    rw [List.all_cons, Bool.and_eq_true] at hdecided
    obtain ⟨b, rfl⟩ := Option.isSome_iff_exists.1 hdecided.1
    rw [hr b rfl, ih hdecided.2]

/-- A combination of results that waits for each of them. -/
def Waits (combine : List (Option Bool) → Option Bool) : Prop :=
  ∀ rs, combine rs ≠ none → rs.all Option.isSome = true

theorem waits_allOf : Waits allOf := by
  intro rs h
  unfold allOf at h
  split at h
  · assumption
  · exact absurd rfl h

theorem waits_anyOf : Waits anyOf := by
  intro rs h
  unfold anyOf at h
  split at h
  · assumption
  · exact absurd rfl h

theorem waits_oneOf : Waits oneOf := by
  intro rs h
  unfold oneOf at h
  split at h
  · assumption
  · exact absurd rfl h

theorem Waits.agrees {combine : List (Option Bool) → Option Bool} (h : Waits combine) {rs rs' : List (Option Bool)}
    (hrs : List.Forall₂ Agrees rs rs') : Agrees (combine rs) (combine rs') := by
  intro b hb
  rw [← agrees_list hrs (h rs (by rw [hb]; exact Option.some_ne_none b))]
  exact hb

theorem forall₂_map {α : Type} {R : Option Bool → Option Bool → Prop} {f g : α → Option Bool} (l : List α)
    (h : ∀ a ∈ l, R (f a) (g a)) : List.Forall₂ R (l.map f) (l.map g) := by
  rw [List.forall₂_map_left_iff, List.forall₂_map_right_iff, List.forall₂_same]
  exact h

theorem checkNode_agrees {reading : Reading} {root : Value} {ask ask' : Value → Value → Option Bool}
    (h : ∀ s x, Agrees (ask s x) (ask' s x)) (fields : Fields) (x : Value) :
    Agrees (checkNode env reading root ask fields x) (checkNode env reading root ask' fields x) := by
  have hunion : ∀ key combine, Waits combine →
      Agrees (checkUnion ask fields key combine x) (checkUnion ask' fields key combine x) := by
    intro key combine hcombine
    unfold checkUnion
    split
    · exact hcombine.agrees (forall₂_map _ fun s _ => h s x)
    · exact Agrees.refl _
  refine waits_allOf.agrees ?_
  refine .cons ?_ (.cons ?_ (.cons (Agrees.refl _) (.cons ?_ (.cons ?_ (.cons (hunion _ _ waits_anyOf) (.cons (hunion _ _ ?_)
    (.cons (hunion _ _ waits_allOf) (.cons (Agrees.refl _) .nil))))))))
  · unfold checkRef
    split
    · exact Agrees.refl _
    · split
      · exact h _ x
      · exact Agrees.refl _
    · exact Agrees.refl _
  · cases x with
    | obj members =>
      refine waits_allOf.agrees (forall₂_map _ fun p _ => ?_)
      split
      · exact h _ _
      · exact Agrees.refl _
    | _ => exact Agrees.refl _
  · cases x with
    | obj members =>
      cases hadditional : get? fields "additionalProperties" with
      | some s =>
        simp only [checkAdditional, hadditional]
        exact waits_allOf.agrees (forall₂_map _ fun p _ => h s p.2)
      | none =>
        simp only [checkAdditional, hadditional]
        exact Agrees.refl _
    | _ => exact Agrees.refl _
  · cases x with
    | arr xs =>
      cases hitems : get? fields "items" with
      | some s =>
        simp only [checkItems, hitems]
        exact waits_allOf.agrees (forall₂_map _ fun x _ => h s x)
      | none =>
        simp only [checkItems, hitems]
        exact Agrees.refl _
    | _ => exact Agrees.refl _
  · split
    · exact waits_oneOf
    · exact waits_anyOf

theorem check_succ (reading : Reading) (root : Value) (n : Nat) (s x : Value) :
    Agrees (check env reading root n s x) (check env reading root (n + 1) s x) := by
  induction n generalizing s x with
  | zero => exact fun _ h => (nomatch h)
  | succ n ih =>
    cases s with
    | obj fields => exact checkNode_agrees env ih fields x
    | _ => exact Agrees.refl _

/-- What is decided stays decided with more fuel. -/
theorem check_le {reading : Reading} {root : Value} {n m : Nat} (h : n ≤ m) (s x : Value) :
    Agrees (check env reading root n s x) (check env reading root m s x) := by
  induction h with
  | refl => exact Agrees.refl _
  | step _ ih => exact fun b hb => check_succ env reading root _ s x b (ih b hb)

/-- A value that is refused with some fuel is valid with none. -/
theorem not_valid_of_check {reading : Reading} {root x : Value} {n : Nat} (h : check env reading root n root x = some false) :
    ¬Valid env reading root x := by
  rintro ⟨m, hm⟩
  have hfalse := check_le env (Nat.le_max_left n m) root x _ h
  have htrue := check_le env (Nat.le_max_right n m) root x _ hm
  cases hfalse.symm.trans htrue

end JsonSchema
