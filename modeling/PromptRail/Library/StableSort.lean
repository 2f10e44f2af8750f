import Mathlib.Data.List.Basic

/-!
# Stable sorting

`List.mergeSort` is stable: what is sorted keeps its order where it is not told apart. So it does not matter whether a part of a list
is taken before it is sorted or after, and the first that meets a condition after sorting is the best of those that meet it.
-/

namespace StableSort

universe u

variable {α : Type u} {le : α → α → Bool}

/-- A list is cut in one way only into a part that misses a condition and a part that meets it. -/
theorem cut_unique {q : α → Bool} {l₁ l₂ l₁' l₂' : List α} (h : l₁ ++ l₂ = l₁' ++ l₂') (h₁ : ∀ b ∈ l₁, q b = false)
    (h₂ : ∀ b ∈ l₂, q b = true) (h₁' : ∀ b ∈ l₁', q b = false) (h₂' : ∀ b ∈ l₂', q b = true) : l₁ = l₁' ∧ l₂ = l₂' := by
  have htake {xs ys : List α} (hxs : ∀ b ∈ xs, q b = false) (hys : ∀ b ∈ ys, q b = true) :
      (xs ++ ys).filter (fun b => !q b) = xs := by
    rw [List.filter_append, List.filter_eq_self.2 fun b hb => by simp [hxs b hb],
      List.filter_eq_nil_iff.2 fun b hb => by simp [hys b hb], List.append_nil]
  have hleft : l₁ = l₁' := by rw [← htake h₁ h₂, h, htake h₁' h₂']
  subst hleft
  exact ⟨rfl, List.append_cancel_left h⟩

variable (trans : ∀ a b c, le a b → le b c → le a c) (total : ∀ a b, le a b || le b a)
include trans total

theorem le_of_sorted_append {a : α} {l l₁ l₂ : List α} (h : (a :: l).mergeSort le = l₁ ++ a :: l₂) : ∀ b ∈ l₂, le a b = true := by
  have hsorted := List.pairwise_mergeSort trans total (a :: l)
  rw [h, List.pairwise_append] at hsorted
  exact (List.pairwise_cons.1 hsorted.2.1).1

/-- Taking a part of a list commutes with sorting it. -/
theorem filter_mergeSort (p : α → Bool) (l : List α) : (l.mergeSort le).filter p = (l.filter p).mergeSort le := by
  induction l with
  | nil => simp
  | cons a l ih =>
    obtain ⟨l₁, l₂, hcons, hrest, hbefore⟩ := List.mergeSort_cons trans total a l
    have hafter := le_of_sorted_append trans total hcons
    rw [hrest, List.filter_append] at ih
    rw [hcons, List.filter_append]
    by_cases hp : p a = true
    · obtain ⟨l₁', l₂', hcons', hrest', hbefore'⟩ := List.mergeSort_cons trans total a (l.filter p)
      have hafter' := le_of_sorted_append trans total hcons'
      have hcut : l₁.filter p ++ l₂.filter p = l₁' ++ l₂' := ih.trans hrest'
      obtain ⟨hleft, hright⟩ := @cut_unique _ (le a) _ _ _ _ hcut
        (fun b hb => by simpa using hbefore b (List.mem_of_mem_filter hb)) (fun b hb => hafter b (List.mem_of_mem_filter hb))
        (fun b hb => by simpa using hbefore' b hb) hafter'
      rw [List.filter_cons_of_pos hp, List.filter_cons_of_pos hp, hcons', hleft, hright]
    · rw [List.filter_cons_of_neg hp, List.filter_cons_of_neg hp, ih]

/-- The first that is found after sorting is the first of those it is looked for among. -/
theorem find?_mergeSort (p : α → Bool) (l : List α) : (l.mergeSort le).find? p = ((l.filter p).mergeSort le).head? := by
  rw [← filter_mergeSort trans total, List.head?_filter]

/-- What is found after sorting is at least as good as everything it could have been. -/
theorem le_of_find?_mergeSort {p : α → Bool} {l : List α} {a : α} (h : (l.mergeSort le).find? p = some a) {b : α} (hb : b ∈ l)
    (hp : p b = true) : le a b = true := by
  rw [find?_mergeSort trans total] at h
  have hsorted := List.pairwise_mergeSort trans total (l.filter p)
  have hmem : b ∈ (l.filter p).mergeSort le := List.mem_mergeSort.2 (List.mem_filter.2 ⟨hb, hp⟩)
  obtain ⟨rest, hrest⟩ := List.head?_eq_some_iff.1 h
  rw [hrest] at hsorted hmem
  rcases List.mem_cons.1 hmem with rfl | hmem
  · simpa using total b b
  · exact (List.pairwise_cons.1 hsorted).1 b hmem

end StableSort
