import PromptRail.Compaction
import Mathlib.Algebra.Order.Group.Nat

/-!
# Water filling

The shares `_water_fill` gives out never exceed the capacities, and add up to the reduction, or to the whole capacity when that is
less: every pass over active messages takes at least one token, so the loop never runs out of passes.
-/

namespace PromptRail

namespace FillAux

variable {indices : List Nat} {capacities : Nat → Nat} {reduction : Nat}

/-- What the loops keep: no share exceeds its capacity, the shares and what remains make up the reduction, and a message is
active as long as its share is below its capacity. -/
structure Filling (indices : List Nat) (capacities : Nat → Nat) (reduction : Nat) (fill : Fill) : Prop where
  within : ∀ i ∈ indices, fill.allocations i ≤ capacities i
  total : (indices.map fill.allocations).sum + fill.remaining = reduction
  active : ∀ i, i ∈ fill.active ↔ i ∈ indices ∧ fill.allocations i < capacities i
  nodup : fill.active.Nodup

/-- A share that is raised by an amount raises the sum by it. -/
theorem sum_update {allocations : Nat → Nat} {index amount : Nat} (hn : indices.Nodup) (h : index ∈ indices) :
    (indices.map (Function.update allocations index (allocations index + amount))).sum =
      (indices.map allocations).sum + amount := by
  induction indices with
  | nil => cases h
  | cons i rest ih =>
    obtain ⟨hi, hrest⟩ := List.nodup_cons.1 hn
    simp only [List.map_cons, List.sum_cons]
    rcases List.mem_cons.1 h with rfl | h
    · have hsame : rest.map (Function.update allocations index (allocations index + amount)) = rest.map allocations := by
        refine List.map_congr_left ?_
        intro j hj
        have hne : j ≠ index := by
          rintro rfl
          exact hi hj
        exact Function.update_of_ne hne _ _
      rw [hsame, Function.update_self]
      omega
    · have hne : i ≠ index := by
        rintro rfl
        exact hi h
      rw [Function.update_of_ne hne, ih hrest h]
      omega

/-- One message of a pass: its share grows by an amount of at least one token. -/
theorem filling_give {fill : Fill} {index amount : Nat} (hn : indices.Nodup) (hF : Filling indices capacities reduction fill)
    (hi : index ∈ fill.active) (hc : amount ≤ capacities index - fill.allocations index) (hr : amount ≤ fill.remaining) :
    Filling indices capacities reduction
      { allocations := Function.update fill.allocations index (fill.allocations index + amount)
        active := if capacities index ≤ fill.allocations index + amount then fill.active.erase index else fill.active
        remaining := fill.remaining - amount
        progressed := fill.progressed + amount } := by
  obtain ⟨hmem, hlt⟩ := (hF.active index).1 hi
  refine ⟨?_, ?_, ?_, ?_⟩
  · intro i hi'
    by_cases h : i = index
    · subst h
      simp only [Function.update_self]
      omega
    · simp only [Function.update_of_ne h]
      exact hF.within i hi'
  · have := hF.total
    simp only [sum_update hn hmem]
    omega
  · intro i
    by_cases h : i = index
    · subst h
      simp only [Function.update_self]
      split
      · rename_i hfull
        constructor
        · intro hm
          exact absurd rfl (List.Nodup.mem_erase_iff hF.nodup |>.1 hm).1
        · rintro ⟨_, hlt'⟩
          omega
      · rename_i hfull
        exact ⟨fun _ => ⟨hmem, by omega⟩, fun _ => hi⟩
    · simp only [Function.update_of_ne h]
      split
      · rw [List.Nodup.mem_erase_iff hF.nodup, ← hF.active i]
        exact ⟨fun hm => hm.2, fun hm => ⟨h, hm⟩⟩
      · exact hF.active i
  · split
    · exact hF.nodup.erase _
    · exact hF.nodup

/-- A pass keeps the invariant, and takes from what remains what it reports as progress. -/
theorem filling_pass (pressures : Nat → ℚ) (totalPressure : ℚ) (hn : indices.Nodup) {todo : List Nat} (ht : todo.Nodup)
    {fill : Fill} (hF : Filling indices capacities reduction fill) (hsub : ∀ i ∈ todo, i ∈ fill.active) :
    Filling indices capacities reduction (fillPass capacities pressures totalPressure todo fill) ∧
      (fillPass capacities pressures totalPressure todo fill).progressed +
        (fillPass capacities pressures totalPressure todo fill).remaining = fill.progressed + fill.remaining := by
  induction todo generalizing fill with
  | nil => exact ⟨hF, rfl⟩
  | cons index rest ih =>
    obtain ⟨hnot, hrest⟩ := List.nodup_cons.1 ht
    simp only [fillPass]
    generalize hamount : min (min (capacities index - fill.allocations index)
      (max 1 (Rat.floor (fill.remaining * pressureAt pressures index / totalPressure)).toNat)) fill.remaining = amount
    have hc : amount ≤ capacities index - fill.allocations index := by omega
    have hr : amount ≤ fill.remaining := by omega
    have hF' := filling_give hn hF (hsub index List.mem_cons_self) hc hr
    split
    · refine ⟨hF', ?_⟩
      simp only
      omega
    · obtain ⟨h1, h2⟩ := ih hrest hF' (by
        intro i hi
        have hne : i ≠ index := by
          rintro rfl
          exact hnot hi
        have hact := hsub i (List.mem_cons_of_mem _ hi)
        simp only
        split
        · exact (List.Nodup.mem_erase_iff hF.nodup).2 ⟨hne, hact⟩
        · exact hact)
      refine ⟨h1, ?_⟩
      rw [h2]
      simp only
      omega

/-- What a pass leaves never grows. -/
theorem remaining_pass_le (pressures : Nat → ℚ) (totalPressure : ℚ) (todo : List Nat) (fill : Fill) :
    (fillPass capacities pressures totalPressure todo fill).remaining ≤ fill.remaining := by
  induction todo generalizing fill with
  | nil => exact le_rfl
  | cons index rest ih =>
    simp only [fillPass]
    split
    · exact Nat.sub_le _ _
    · exact (ih _).trans (Nat.sub_le _ _)

/-- A pass over an active message takes a token at least. -/
theorem remaining_pass_lt (pressures : Nat → ℚ) (totalPressure : ℚ) {todo : List Nat} (fill : Fill) (hne : todo ≠ [])
    (hr : 0 < fill.remaining) (hlt : ∀ i ∈ todo, fill.allocations i < capacities i) :
    (fillPass capacities pressures totalPressure todo fill).remaining < fill.remaining := by
  obtain ⟨index, rest, rfl⟩ := List.exists_cons_of_ne_nil hne
  have hcap := hlt index List.mem_cons_self
  simp only [fillPass]
  generalize hamount : min (min (capacities index - fill.allocations index)
    (max 1 (Rat.floor (fill.remaining * pressureAt pressures index / totalPressure)).toNat)) fill.remaining = amount
  have hpos : 0 < amount := by omega
  split
  · simp only
    omega
  · refine lt_of_le_of_lt (remaining_pass_le _ _ _ _) ?_
    simp only
    omega

/-- The loop ends with nothing remaining, or with every share at its capacity. -/
theorem filling_loop (pressures : Nat → ℚ) (hn : indices.Nodup) (fuel : Nat) {fill : Fill}
    (hF : Filling indices capacities reduction fill) (hfuel : fill.remaining ≤ fuel) :
    Filling indices capacities reduction (fillLoop capacities pressures fuel fill) ∧
      ((fillLoop capacities pressures fuel fill).remaining = 0 ∨ (fillLoop capacities pressures fuel fill).active = []) := by
  induction fuel generalizing fill with
  | zero => exact ⟨hF, Or.inl (Nat.le_zero.1 hfuel)⟩
  | succ fuel ih =>
    simp only [fillLoop]
    by_cases hgo : 0 < fill.remaining ∧ fill.active ≠ []
    · rw [if_pos hgo]
      obtain ⟨hr, hne⟩ := hgo
      have hF₀ : Filling indices capacities reduction { fill with progressed := 0 } :=
        ⟨hF.within, hF.total, hF.active, hF.nodup⟩
      obtain ⟨hF', hsum⟩ := filling_pass pressures (fill.active.map (pressureAt pressures)).sum hn hF.nodup hF₀ fun _ h => h
      have hlt : (fillPass capacities pressures (fill.active.map (pressureAt pressures)).sum fill.active
          { fill with progressed := 0 }).remaining < fill.remaining :=
        remaining_pass_lt pressures _ { fill with progressed := 0 } hne hr fun i hi => ((hF.active i).1 hi).2
      -- the pass progressed, so the loop goes on with less remaining
      have hp : ¬(fillPass capacities pressures (fill.active.map (pressureAt pressures)).sum fill.active
          { fill with progressed := 0 }).progressed = 0 := by
        simp only at hsum
        omega
      rw [if_neg hp]
      exact ih hF' (by omega)
    · rw [if_neg hgo]
      refine ⟨hF, ?_⟩
      by_cases hr : fill.remaining = 0
      · exact Or.inl hr
      · exact Or.inr (by
          by_contra hne
          exact hgo ⟨Nat.pos_of_ne_zero hr, hne⟩)

/-- Entries without a share add nothing. -/
theorem sum_filter_pos (l : List (Nat × Nat)) : ((l.filter fun p => 0 < p.2).map (·.2)).sum = (l.map (·.2)).sum := by
  induction l with
  | nil => rfl
  | cons p l ih =>
    rcases Nat.eq_zero_or_pos p.2 with h | h
    · simp [h, ih]
    · simp [h, ih]

end FillAux

open FillAux

/-- No share is empty or exceeds the capacity of its message. -/
theorem waterFill_mem {reduction : Nat} {indices : List Nat} {capacities : Nat → Nat} (pressures : Nat → ℚ)
    (hn : indices.Nodup) {p : Nat × Nat} (h : p ∈ waterFill reduction indices capacities pressures) :
    p.1 ∈ indices ∧ 0 < p.2 ∧ p.2 ≤ capacities p.1 := by
  simp only [waterFill, List.mem_filter, List.mem_map, decide_eq_true_eq] at h
  obtain ⟨⟨i, hi, rfl⟩, hpos⟩ := h
  have hF : Filling indices capacities reduction
      { active := indices.filter fun i => 0 < capacities i, remaining := reduction } :=
    ⟨fun _ _ => Nat.zero_le _, by simp, fun i => by simp, hn.filter _⟩
  exact ⟨hi, hpos, (filling_loop pressures hn reduction hF le_rfl).1.within i hi⟩

/-- The shares add up to the reduction, or to the capacities where those are less. -/
theorem waterFill_sum (reduction : Nat) {indices : List Nat} (capacities : Nat → Nat) (pressures : Nat → ℚ)
    (hn : indices.Nodup) : ((waterFill reduction indices capacities pressures).map (·.2)).sum =
      min reduction (indices.map capacities).sum := by
  have hF : Filling indices capacities reduction
      { active := indices.filter fun i => 0 < capacities i, remaining := reduction } :=
    ⟨fun _ _ => Nat.zero_le _, by simp, fun i => by simp, hn.filter _⟩
  obtain ⟨hF', hend⟩ := filling_loop pressures hn reduction hF le_rfl
  simp only [waterFill]
  rw [sum_filter_pos, List.map_map]
  generalize fillLoop capacities pressures reduction
    { active := indices.filter fun i => 0 < capacities i, remaining := reduction } = fill at hF' hend
  have hmap : indices.map ((fun p : Nat × Nat => p.2) ∘ fun i => (i, fill.allocations i)) = indices.map fill.allocations := rfl
  rw [hmap]
  have htotal := hF'.total
  have hle : (indices.map fill.allocations).sum ≤ (indices.map capacities).sum := List.sum_le_sum hF'.within
  rcases hend with hr | ha
  · omega
  · have hfull : indices.map fill.allocations = indices.map capacities := by
      refine List.map_congr_left ?_
      intro i hi
      have hnot : i ∉ fill.active := by
        rw [ha]
        exact List.not_mem_nil
      rw [hF'.active i] at hnot
      have := hF'.within i hi
      by_contra hne
      exact hnot ⟨hi, by omega⟩
    rw [hfull] at htotal ⊢
    omega

end PromptRail
