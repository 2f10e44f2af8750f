import PromptRail.Library.JsonRoundTrip

/-!
# The names of fields that are read

An object that `loads` reads is a dictionary: the names of its fields differ, in every object of the value.
-/

namespace Json

open PyText

/-- The names of the fields differ in every object of a value. -/
inductive Keyed : Value → Prop where
  | null : Keyed .null
  | bool (b : Bool) : Keyed (.bool b)
  | int (n : Int) : Keyed (.int n)
  | float (literal : String) : Keyed (.float literal)
  | str (s : Text) : Keyed (.str s)
  | arr {xs : List Value} : (∀ x ∈ xs, Keyed x) → Keyed (.arr xs)
  | obj {fs : Fields} : (fs.map (·.1)).Nodup → (∀ p ∈ fs, Keyed p.2) → Keyed (.obj fs)

theorem mem_set {fs : Fields} {k : String} {v : Value} {p : String × Value} (h : p ∈ set fs k v) : p = (k, v) ∨ p ∈ fs := by
  induction fs with
  | nil => exact Or.inl (List.mem_singleton.1 h)
  | cons q fs ih =>
    obtain ⟨name, w⟩ := q
    rw [set] at h
    split at h
    · exact (List.mem_cons.1 h).imp id (List.mem_cons_of_mem _)
    · rcases List.mem_cons.1 h with rfl | h
      · exact Or.inr List.mem_cons_self
      · exact (ih h).imp id (List.mem_cons_of_mem _)

/-- The fields of a dictionary that is built from pairs are among them, and their names differ. -/
theorem keyed_ofPairs {pairs : Fields} (h : ∀ p ∈ pairs, Keyed p.2) : Keyed (.obj (ofPairs pairs)) := by
  have hfold : ∀ (rest : Fields) (fs : Fields), (∀ p ∈ rest, Keyed p.2) → (fs.map (·.1)).Nodup → (∀ p ∈ fs, Keyed p.2) →
      Keyed (.obj (rest.foldl (fun fs p => set fs p.1 p.2) fs)) := by
    intro rest
    induction rest with
    | nil => exact fun fs _ hnodup hfs => .obj hnodup hfs
    | cons q rest ih =>
      intro fs hrest hnodup hfs
      obtain ⟨hq, hrest⟩ := List.forall_mem_cons.1 hrest
      refine ih _ hrest (nodup_set hnodup q.1 q.2) fun p hp => ?_
      rcases mem_set hp with rfl | hp
      · exact hq
      · exact hfs p hp
  exact hfold pairs [] h List.nodup_nil (by simp)

/-- What holds of every item that is read holds of all of them. -/
theorem forall_readItems {α : Type} {P : α → Prop} {close : Char} {read : Text → Option (α × Text)}
    (hread : ∀ t x rest, read t = some (x, rest) → P x) {fuel : Nat} {t rest : Text} {xs : List α}
    (h : readItems close read fuel t = some (xs, rest)) : ∀ x ∈ xs, P x := by
  induction fuel generalizing t xs with
  | zero => cases h
  | succ fuel ih =>
    rw [readItems] at h
    obtain ⟨⟨x, t'⟩, hfirst, h⟩ := Option.bind_eq_some_iff.1 h
    dsimp only at h
    split at h
    · obtain ⟨⟨xs', u⟩, hrest, h⟩ := Option.bind_eq_some_iff.1 h
      cases h
      exact List.forall_mem_cons.2 ⟨hread _ _ _ hfirst, ih hrest⟩
    · obtain ⟨u, -, h⟩ := Option.bind_eq_some_iff.1 h
      cases h
      exact List.forall_mem_singleton.2 (hread _ _ _ hfirst)

theorem keyed_readScalar {t rest : Text} {v : Value} (h : readScalar t = some (v, rest)) : Keyed v := by
  rw [readScalar] at h
  split at h
  · rename_i r hnumber
    cases h
    obtain ⟨⟨digits, t'⟩, -, hnumber⟩ := Option.bind_eq_some_iff.1 hnumber
    dsimp only at hnumber
    split at hnumber <;> cases hnumber
    · exact .int _
    · exact .float _
  · obtain ⟨c, hc, hconstant⟩ := List.exists_of_findSome?_eq_some h
    obtain ⟨u, -, hvalue⟩ := Option.map_eq_some_iff.1 hconstant
    cases hvalue
    simp only [constants, List.mem_cons, List.not_mem_nil, or_false] at hc
    rcases hc with rfl | rfl | rfl | rfl | rfl | rfl
    all_goals constructor

theorem keyed_readValue {fuel : Nat} {t rest : Text} {v : Value} (h : readValue fuel t = some (v, rest)) : Keyed v := by
  induction fuel generalizing t v rest with
  | zero => cases h
  | succ fuel ih =>
    cases t with
    | nil => cases h
    | cons c t =>
      rw [readValue] at h
      by_cases hquote : c = '"'
      · rw [if_pos hquote] at h
        obtain ⟨⟨s, u⟩, -, h⟩ := Option.bind_eq_some_iff.1 h
        cases h
        exact .str s
      rw [if_neg hquote] at h
      by_cases hopen : c = '['
      · rw [if_pos hopen] at h
        split at h
        · cases h
          exact .arr (by simp)
        · obtain ⟨⟨xs, u⟩, hitems, h⟩ := Option.bind_eq_some_iff.1 h
          cases h
          exact .arr (forall_readItems (fun _ _ _ hread => ih hread) hitems)
      rw [if_neg hopen] at h
      by_cases hbrace : c = '{'
      · rw [if_pos hbrace] at h
        split at h
        · cases h
          exact .obj List.nodup_nil (by simp)
        · obtain ⟨⟨fields, u⟩, hitems, h⟩ := Option.bind_eq_some_iff.1 h
          cases h
          refine keyed_ofPairs (forall_readItems (fun t p rest hfield => ?_) hitems)
          rw [readField] at hfield
          obtain ⟨t, -, hfield⟩ := Option.bind_eq_some_iff.1 hfield
          obtain ⟨⟨name, t⟩, -, hfield⟩ := Option.bind_eq_some_iff.1 hfield
          obtain ⟨t, -, hfield⟩ := Option.bind_eq_some_iff.1 hfield
          obtain ⟨⟨x, t⟩, hread, hfield⟩ := Option.bind_eq_some_iff.1 hfield
          cases hfield
          exact ih hread
      · rw [if_neg hbrace] at h
        exact keyed_readScalar h

/-- The names of the fields of what `loads` reads differ. -/
theorem keyed_loads {t : Text} {v : Value} (h : loads t = some v) : Keyed v := by
  obtain ⟨⟨x, rest⟩, hread, h⟩ := Option.bind_eq_some_iff.1 h
  dsimp only at h
  split at h <;> cases h
  exact keyed_readValue hread

end Json
