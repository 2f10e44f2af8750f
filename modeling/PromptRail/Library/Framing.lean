import Mathlib.Data.List.Basic

/-!
# Framing with a separator

A sequence of documents is written as each header, a separator, the body and a separator. Headers hold no separator, and bodies may:
the framing tells two sequences apart where no body goes on to another one with a separator and a header behind it
(`frames_injective`).
-/

namespace Framing

variable {α : Type} {sep : α}

/-- A header and a body. -/
def frame (sep : α) (d : List α × List α) : List α := d.1 ++ sep :: (d.2 ++ [sep])

/-- The framed documents, one after the other. -/
def frames (sep : α) (ds : List (List α × List α)) : List α := ds.flatMap (frame sep)

theorem frames_cons (d : List α × List α) (ds : List (List α × List α)) :
    frames sep (d :: ds) = d.1 ++ sep :: (d.2 ++ sep :: frames sep ds) := by
  simp [frames, frame]

/-- What stands in front of the first separator is all there is of a header. -/
theorem header_unique {a b x y : List α} (ha : sep ∉ a) (hb : sep ∉ b) (h : a ++ sep :: x = b ++ sep :: y) : a = b ∧ x = y := by
  induction a generalizing b with
  | nil =>
    cases b with
    | nil => exact ⟨rfl, (List.cons.inj h).2⟩
    | cons c b => exact absurd ((List.cons.inj h).1 ▸ List.mem_cons_self) hb
  | cons c a ih =>
    cases b with
    | nil => exact absurd ((List.cons.inj h).1 ▸ List.mem_cons_self) ha
    | cons d b =>
      obtain ⟨rfl, htail⟩ := List.cons.inj h
      obtain ⟨rfl, rfl⟩ := ih (fun hmem => ha (List.mem_cons_of_mem _ hmem)) (fun hmem => hb (List.mem_cons_of_mem _ hmem)) htail
      exact ⟨rfl, rfl⟩

/-- A text that reaches a separator has a header in it that opens the same bytes. -/
theorem header_front {a b x y : List α} (hb : sep ∉ b) (h : a ++ sep :: x = b ++ sep :: y) : ∃ more, a = b ++ more := by
  rcases List.append_eq_append_iff.1 h with ⟨t, rfl, ht⟩ | ⟨t, rfl, -⟩
  · cases t with
    | nil => exact ⟨[], by simp⟩
    | cons c t =>
      obtain ⟨rfl, -⟩ := List.cons.inj ht
      exact absurd (List.mem_append_right a List.mem_cons_self) hb
  · exact ⟨t, rfl⟩

section Injective

variable {Header Body : List α → Prop} (hheader : ∀ h, Header h → sep ∉ h)
  (hbody : ∀ h b more, Header h → Body b → ¬Body (b ++ sep :: (h ++ more)))

include hheader hbody

/-- Of two bodies in front of framed documents neither goes on to the other. -/
theorem body_prefix {b b' : List α} {ds ds' : List (List α × List α)} (hb : Body b) (hb' : Body b')
    (hds : ∀ d ∈ ds, Header d.1 ∧ Body d.2) {t : List α} (hsplit : b' = b ++ t)
    (h : sep :: frames sep ds = t ++ sep :: frames sep ds') : t = [] := by
  cases t with
  | nil => rfl
  | cons c t =>
    obtain ⟨rfl, htail⟩ := List.cons.inj h
    cases ds with
    | nil => simp [frames] at htail
    | cons d ds =>
      obtain ⟨hd, -⟩ := hds d List.mem_cons_self
      rw [frames_cons] at htail
      obtain ⟨more, rfl⟩ := header_front (hheader d.1 hd) htail.symm
      exact absurd (hsplit ▸ hb') (hbody d.1 b more hd hb)

/-- Two sequences of documents with one framing are one sequence. -/
theorem frames_injective {ds ds' : List (List α × List α)} (hds : ∀ d ∈ ds, Header d.1 ∧ Body d.2)
    (hds' : ∀ d ∈ ds', Header d.1 ∧ Body d.2) (h : frames sep ds = frames sep ds') : ds = ds' := by
  induction ds generalizing ds' with
  | nil =>
    cases ds' with
    | nil => rfl
    | cons d' ds' =>
      rw [frames_cons] at h
      exact absurd h.symm (by simp [frames])
  | cons d ds ih =>
    cases ds' with
    | nil =>
      rw [frames_cons] at h
      exact absurd h (by simp [frames])
    | cons d' ds' =>
      obtain ⟨⟨hd, hbodyd⟩, hrest⟩ := List.forall_mem_cons.1 hds
      obtain ⟨⟨hd', hbodyd'⟩, hrest'⟩ := List.forall_mem_cons.1 hds'
      rw [frames_cons, frames_cons] at h
      obtain ⟨hsame, h⟩ := header_unique (hheader _ hd) (hheader _ hd') h
      have hbodies : d.2 = d'.2 := by
        rcases List.append_eq_append_iff.1 h with ⟨t, hsplit, ht⟩ | ⟨t, hsplit, ht⟩
        · rw [hsplit, body_prefix hheader hbody hbodyd hbodyd' hrest hsplit ht, List.append_nil]
        · rw [hsplit, body_prefix hheader hbody hbodyd' hbodyd hrest' hsplit ht, List.append_nil]
      rw [hbodies] at h
      have htail := (List.cons.inj (List.append_cancel_left h)).2
      rw [ih hrest hrest' htail, Prod.ext hsame hbodies]

end Injective

end Framing
