import Mathlib.Data.List.Basic

/-!
# Computations that raise

A computation that may raise is an `Except`. A sequence of them has returned where each part of it has: `bind_ok` and `mem_mapM` peel
a returned sequence or loop apart, and `ok_bind` runs a part that is known to return.
-/

namespace Outcome

universe u v

variable {ε : Type u} {α β : Type v}

/-- A computation that returns has returned in its first part. -/
theorem bind_ok {x : Except ε α} {f : α → Except ε β} {b : β} (h : (x >>= f) = .ok b) : ∃ a, x = .ok a ∧ f a = .ok b := by
  cases x with
  | error e => cases h
  | ok a => exact ⟨a, rfl, h⟩

theorem bind_ok_iff {x : Except ε α} {f : α → Except ε β} {b : β} : (x >>= f) = .ok b ↔ ∃ a, x = .ok a ∧ f a = .ok b := by
  constructor
  · exact bind_ok
  · rintro ⟨a, rfl, h⟩
    exact h

/-- What follows a check is reached where the check does not raise. -/
theorem check_ok_iff {p : Prop} [Decidable p] {e : ε} {f : PUnit → Except ε β} {b : β} :
    (if p then (throw e : Except ε PUnit) >>= f else f ⟨⟩) = .ok b ↔ ¬p ∧ f ⟨⟩ = .ok b := by
  split
  · rename_i h
    exact ⟨fun hraised => (nomatch hraised), fun hboth => absurd h hboth.1⟩
  · rename_i h
    exact ⟨fun hrest => ⟨h, hrest⟩, fun hboth => hboth.2⟩

/-- What is made of a result is made of one that was returned. -/
theorem map_ok {x : Except ε α} {f : α → β} {b : β} (h : x.map f = .ok b) : ∃ a, x = .ok a ∧ b = f a := by
  cases x with
  | error e => cases h
  | ok a => exact ⟨a, rfl, (Except.ok.inj h).symm⟩

theorem map_error {x : Except ε α} {f : α → β} {e : ε} (h : x.map f = .error e) : x = .error e := by
  cases x with
  | error e' => exact congrArg Except.error (Except.error.inj h)
  | ok a => cases h

/-- An error that is raised under another name leaves a result as it is. -/
theorem mapError_ok_iff {ε' : Type u} {f : ε → ε'} {x : Except ε α} {a : α} : x.mapError f = .ok a ↔ x = .ok a := by
  cases x <;> simp [Except.mapError]

@[simp] theorem ok_bind (a : α) (f : α → Except ε β) : ((Except.ok a : Except ε α) >>= f) = f a := rfl

theorem ok_of_isOk {x : Except ε α} (h : x.isOk = true) : ∃ a, x = .ok a := by
  cases x with
  | error e => cases h
  | ok a => exact ⟨a, rfl⟩

theorem ok_of_toOption {x : Except ε α} {a : α} (h : x.toOption = some a) : x = .ok a := by
  cases x with
  | error e => cases h
  | ok b => rw [Option.some.inj h]

theorem toOption_eq_some_iff {x : Except ε α} {a : α} : x.toOption = some a ↔ x = .ok a := by
  refine ⟨ok_of_toOption, ?_⟩
  rintro rfl
  rfl

theorem ok_of_any {x : Except ε α} {p : α → Bool} (h : x.toOption.any p = true) : ∃ a, x = .ok a ∧ p a = true := by
  obtain ⟨a, ha, hp⟩ := Option.any_eq_true _ _ |>.1 h
  exact ⟨a, ok_of_toOption ha, hp⟩

/-- What a loop that raises nothing returned is made of what each of its turns returned. -/
theorem mem_mapM {f : α → Except ε β} {l : List α} {r : List β} (h : l.mapM f = .ok r) {b : β} (hb : b ∈ r) :
    ∃ a ∈ l, f a = .ok b := by
  induction l generalizing r with
  | nil =>
    cases h
    cases hb
  | cons a l ih =>
    rw [List.mapM_cons] at h
    obtain ⟨first, hfirst, h⟩ := bind_ok h
    obtain ⟨rest, hrest, h⟩ := bind_ok h
    cases h
    rcases List.mem_cons.1 hb with rfl | hlater
    · exact ⟨a, List.mem_cons_self, hfirst⟩
    · obtain ⟨c, hc, hturn⟩ := ih hrest hlater
      exact ⟨c, List.mem_cons_of_mem _ hc, hturn⟩

/-- A loop that returned has returned something of each of its turns. -/
theorem mem_of_mapM {f : α → Except ε β} {l : List α} {r : List β} (h : l.mapM f = .ok r) {a : α} (ha : a ∈ l) :
    ∃ b ∈ r, f a = .ok b := by
  induction l generalizing r with
  | nil => cases ha
  | cons first l ih =>
    rw [List.mapM_cons] at h
    obtain ⟨b, hb, h⟩ := bind_ok h
    obtain ⟨rest, hrest, h⟩ := bind_ok h
    cases h
    rcases List.mem_cons.1 ha with rfl | hlater
    · exact ⟨b, List.mem_cons_self, hb⟩
    · obtain ⟨c, hc, hturn⟩ := ih hrest hlater
      exact ⟨c, List.mem_cons_of_mem _ hc, hturn⟩

/-- A loop that keeps what it ran over beside what it returned. -/
theorem mapM_pair {f : α → Except ε β} {l : List α} {r : List (α × β)}
    (h : (l.mapM fun a => f a >>= fun b => (.ok (a, b) : Except ε (α × β))) = .ok r) :
    r.map Prod.fst = l ∧ ∀ p ∈ r, f p.1 = .ok p.2 := by
  induction l generalizing r with
  | nil =>
    cases h
    exact ⟨rfl, fun p hp => absurd hp List.not_mem_nil⟩
  | cons a l ih =>
    rw [List.mapM_cons] at h
    obtain ⟨first, hturn, h⟩ := bind_ok h
    obtain ⟨rest, hrest, h⟩ := bind_ok h
    obtain ⟨b, hfirst, hpair⟩ := bind_ok hturn
    cases h
    cases hpair
    obtain ⟨hkept, hreturned⟩ := ih hrest
    exact ⟨congrArg (a :: ·) hkept, List.forall_mem_cons.2 ⟨hfirst, hreturned⟩⟩

/-- A loop that raises nothing returns what its turns return, one after the other. -/
theorem forall₂_mapM {f : α → Except ε β} {l : List α} {r : List β} (h : l.mapM f = .ok r) :
    List.Forall₂ (fun a b => f a = .ok b) l r := by
  induction l generalizing r with
  | nil =>
    cases h
    exact List.Forall₂.nil
  | cons a l ih =>
    rw [List.mapM_cons] at h
    obtain ⟨b, hb, h⟩ := bind_ok h
    obtain ⟨rest, hrest, h⟩ := bind_ok h
    cases h
    exact List.Forall₂.cons hb (ih hrest)

/-- A loop returns where each of its turns does, and else raises what one of them raises. -/
theorem mapM_cases (f : α → Except ε β) (l : List α) :
    (∃ r, l.mapM f = .ok r) ∨ ∃ a ∈ l, ∃ e, f a = .error e ∧ l.mapM f = .error e := by
  induction l with
  | nil => exact Or.inl ⟨[], rfl⟩
  | cons a l ih =>
    cases ha : f a with
    | error e => exact Or.inr ⟨a, List.mem_cons_self, e, ha, by rw [List.mapM_cons, ha]; rfl⟩
    | ok b =>
      rcases ih with ⟨r, hr⟩ | ⟨a', ha', e, he, hl⟩
      · exact Or.inl ⟨b :: r, by rw [List.mapM_cons, ha, hr]; rfl⟩
      · exact Or.inr ⟨a', List.mem_cons_of_mem _ ha', e, he, by rw [List.mapM_cons, ha, hl]; rfl⟩

/-- A loop returns exactly where each of its turns does. -/
theorem mapM_ok_iff {f : α → Except ε β} {l : List α} : (∃ r, l.mapM f = .ok r) ↔ ∀ a ∈ l, ∃ b, f a = .ok b := by
  constructor
  · rintro ⟨r, hr⟩ a ha
    obtain ⟨b, -, hb⟩ := mem_of_mapM hr ha
    exact ⟨b, hb⟩
  · intro hturns
    rcases mapM_cases f l with hloop | ⟨a, ha, e, he, -⟩
    · exact hloop
    · obtain ⟨b, hb⟩ := hturns a ha
      cases he.symm.trans hb

/-- What every turn of a loop that raises nothing preserves, the loop preserves. -/
theorem foldlM_inv {γ : Type u} {f : β → γ → Except ε β} {I : β → Prop} (hstep : ∀ c b b', I b → f b c = .ok b' → I b') {l : List γ}
    {b b' : β} (hb : I b) (h : l.foldlM f b = .ok b') : I b' := by
  induction l generalizing b with
  | nil =>
    cases h
    exact hb
  | cons c l ih =>
    rw [List.foldlM_cons] at h
    obtain ⟨next, hturn, h⟩ := bind_ok h
    exact ih (hstep c b next hb hturn) h

end Outcome
