import PromptRail.Compaction.Fill
import Mathlib.Data.Finset.Sort
import Mathlib.Data.Rat.Floor
import Mathlib.Tactic.Linarith

/-!
# What water filling promises

On every map of capacities and pressures the water filling ends, gives out as much as it can, and no message more than its capacity.
Its shares are taken off what remains while a pass runs, so of two messages with the same pressure the one that stands first loses
more: the shares follow the pressures only against the order of the messages, or where there is next to nothing to give.
-/

namespace PromptRail

/-- `_water_fill` of maps on a set of messages, which the code sorts. -/
def waterFillOn (reduction : Nat) (indices : Finset Nat) (capacities : Nat → Nat) (pressures : Nat → ℚ) : List (Nat × Nat) :=
  waterFill reduction (indices.sort (· ≤ ·)) capacities pressures

/-- What a message loses by the result of `_water_fill`. -/
def allocation (reduction : Nat) (indices : Finset Nat) (capacities : Nat → Nat) (pressures : Nat → ℚ) (index : Nat) : Nat :=
  ((waterFillOn reduction indices capacities pressures).lookup index).getD 0

/-- What `_water_fill` holds before its loops. -/
def startFill (reduction : Nat) (indices : List Nat) (capacities : Nat → Nat) : Fill where
  active := indices.filter fun i => 0 < capacities i
  remaining := reduction

namespace FairnessAux

open FillAux

variable {capacities : Nat → Nat} {pressures : Nat → ℚ} {totalPressure : ℚ} {reduction : Nat}

/-! ## One message of a pass -/

/-- The share of a message, of what remains. -/
def shareOf (pressures : Nat → ℚ) (totalPressure : ℚ) (remaining index : Nat) : Nat :=
  max 1 (Rat.floor (remaining * pressureAt pressures index / totalPressure)).toNat

/-- What a message is given. -/
def amountOf (capacities : Nat → Nat) (pressures : Nat → ℚ) (totalPressure : ℚ) (fill : Fill) (index : Nat) : Nat :=
  min (min (capacities index - fill.allocations index) (shareOf pressures totalPressure fill.remaining index)) fill.remaining

/-- The body of the inner loop. -/
def give (capacities : Nat → Nat) (pressures : Nat → ℚ) (totalPressure : ℚ) (fill : Fill) (index : Nat) : Fill :=
  let allocated := fill.allocations index + amountOf capacities pressures totalPressure fill index
  { allocations := Function.update fill.allocations index allocated
    active := if capacities index ≤ allocated then fill.active.erase index else fill.active
    remaining := fill.remaining - amountOf capacities pressures totalPressure fill index
    progressed := fill.progressed + amountOf capacities pressures totalPressure fill index }

theorem fillPass_cons (index : Nat) (rest : List Nat) (fill : Fill) :
    fillPass capacities pressures totalPressure (index :: rest) fill =
      if (give capacities pressures totalPressure fill index).remaining ≤ 0 then give capacities pressures totalPressure fill index
      else fillPass capacities pressures totalPressure rest (give capacities pressures totalPressure fill index) := rfl

theorem give_self (fill : Fill) (index : Nat) : (give capacities pressures totalPressure fill index).allocations index =
    fill.allocations index + amountOf capacities pressures totalPressure fill index := Function.update_self ..

theorem give_other (fill : Fill) {index other : Nat} (h : other ≠ index) :
    (give capacities pressures totalPressure fill index).allocations other = fill.allocations other :=
  Function.update_of_ne h ..

theorem give_remaining (fill : Fill) (index : Nat) : (give capacities pressures totalPressure fill index).remaining =
    fill.remaining - amountOf capacities pressures totalPressure fill index := rfl

/-- The least pressure is above zero. -/
theorem pressureAt_pos (pressures : Nat → ℚ) (index : Nat) : 0 < pressureAt pressures index :=
  lt_of_lt_of_le (by norm_num) (le_max_right _ _)

/-- A share grows with what remains and with the pressure. -/
theorem shareOf_mono (hT : 0 ≤ totalPressure) {i j r r' : Nat} (hp : pressures i ≤ pressures j) (hr : r ≤ r') :
    shareOf pressures totalPressure r i ≤ shareOf pressures totalPressure r' j := by
  unfold shareOf
  refine max_le_max le_rfl (Int.toNat_le_toNat (Rat.floor_monotone ?_))
  have hpressure : pressureAt pressures i ≤ pressureAt pressures j := max_le_max hp le_rfl
  have hremaining : (r : ℚ) ≤ r' := by exact_mod_cast hr
  have hpos := (pressureAt_pos pressures i).le
  gcongr

/-! ## One pass -/

/-- A pass leaves the messages it does not visit. -/
theorem pass_other {todo : List Nat} {fill : Fill} {i : Nat} (h : i ∉ todo) :
    (fillPass capacities pressures totalPressure todo fill).allocations i = fill.allocations i := by
  induction todo generalizing fill with
  | nil => rfl
  | cons k rest ih =>
    have hne := List.ne_of_not_mem_cons h
    have hrest := List.not_mem_of_not_mem_cons h
    rw [fillPass_cons]
    split
    · exact give_other fill hne
    · rw [ih hrest, give_other fill hne]

/-- What a message has and what remains, together, never grow. -/
theorem pass_bound (todo : List Nat) (fill : Fill) (j : Nat) :
    (fillPass capacities pressures totalPressure todo fill).allocations j +
        (fillPass capacities pressures totalPressure todo fill).remaining ≤ fill.allocations j + fill.remaining := by
  induction todo generalizing fill with
  | nil => exact le_rfl
  | cons k rest ih =>
    have hgive : (give capacities pressures totalPressure fill k).allocations j +
        (give capacities pressures totalPressure fill k).remaining ≤ fill.allocations j + fill.remaining := by
      have hle : amountOf capacities pressures totalPressure fill k ≤ fill.remaining := Nat.min_le_right _ _
      rw [give_remaining]
      by_cases hj : j = k
      · subst hj
        rw [give_self]
        omega
      · rw [give_other fill hj]
        omega
    rw [fillPass_cons]
    split
    · exact hgive
    · exact (ih _).trans hgive

/-- No message loses what it has been given. -/
theorem pass_mono (todo : List Nat) (fill : Fill) (j : Nat) :
    fill.allocations j ≤ (fillPass capacities pressures totalPressure todo fill).allocations j := by
  induction todo generalizing fill with
  | nil => exact le_rfl
  | cons k rest ih =>
    have hgive : fill.allocations j ≤ (give capacities pressures totalPressure fill k).allocations j := by
      by_cases hj : j = k
      · subst hj
        rw [give_self]
        exact Nat.le_add_right _ _
      · rw [give_other fill hj]
    rw [fillPass_cons]
    split
    · exact hgive
    · exact hgive.trans (ih _)

/-- The active messages of a pass keep their order. -/
theorem pass_active (todo : List Nat) (fill : Fill) :
    (fillPass capacities pressures totalPressure todo fill).active.Sublist fill.active := by
  induction todo generalizing fill with
  | nil => exact List.Sublist.refl _
  | cons k rest ih =>
    have hgive : (give capacities pressures totalPressure fill k).active.Sublist fill.active := by
      unfold give
      dsimp only
      split
      · exact List.erase_sublist
      · exact List.Sublist.refl _
    rw [fillPass_cons]
    split
    · exact hgive
    · exact (ih _).trans hgive

/-- A message is given no more than its share of what remains before the pass. -/
theorem pass_le_share (hT : 0 ≤ totalPressure) {todo : List Nat} (hn : todo.Nodup) (fill : Fill) (i : Nat) :
    (fillPass capacities pressures totalPressure todo fill).allocations i ≤
      fill.allocations i + min (capacities i - fill.allocations i) (shareOf pressures totalPressure fill.remaining i) := by
  induction todo generalizing fill with
  | nil => exact Nat.le_add_right _ _
  | cons k rest ih =>
    obtain ⟨hk, hrest⟩ := List.nodup_cons.1 hn
    rw [fillPass_cons]
    by_cases hi : i = k
    · subst hi
      have hgive : (give capacities pressures totalPressure fill i).allocations i ≤
          fill.allocations i + min (capacities i - fill.allocations i) (shareOf pressures totalPressure fill.remaining i) := by
        rw [give_self]
        exact Nat.add_le_add_left (Nat.min_le_left _ _) _
      split
      · exact hgive
      · rw [pass_other hk]
        exact hgive
    · split
      · rw [give_other fill hi]
        exact Nat.le_add_right _ _
      · have hshare := @shareOf_mono pressures totalPressure hT i i _ _ (le_refl (pressures i))
          (Nat.sub_le fill.remaining (amountOf capacities pressures totalPressure fill k))
        have hgiven := ih hrest (give capacities pressures totalPressure fill k)
        rw [give_other fill hi, give_remaining] at hgiven
        omega

/-- A message that is visited is given a token at least, if one is left for it. -/
theorem pass_given {todo : List Nat} {fill : Fill} {j : Nat} (hj : j ∈ todo) (hlt : fill.allocations j < capacities j) :
    (fillPass capacities pressures totalPressure todo fill).remaining = 0 ∨
      fill.allocations j < (fillPass capacities pressures totalPressure todo fill).allocations j := by
  induction todo generalizing fill with
  | nil => cases hj
  | cons k rest ih =>
    rw [fillPass_cons]
    split
    · rename_i hend
      exact Or.inl (Nat.le_zero.1 hend)
    · rename_i hgo
      by_cases hk : j = k
      · subst hk
        have hshare : 1 ≤ shareOf pressures totalPressure fill.remaining j := le_max_left _ _
        have hgiven : fill.allocations j < (give capacities pressures totalPressure fill j).allocations j := by
          rw [give_remaining] at hgo
          rw [give_self]
          unfold amountOf at hgo ⊢
          omega
        exact Or.inr (hgiven.trans_le (pass_mono rest _ j))
      · have hsame := @give_other capacities pressures totalPressure fill k j hk
        rw [← hsame]
        exact ih ((List.mem_cons.1 hj).resolve_left hk) (by rw [hsame]; exact hlt)

/-- A pass keeps the lead of the message that stands first: it is served from the larger remainder, unless its capacity ends. -/
theorem pass_lead (hT : 0 ≤ totalPressure) {todo : List Nat} (hsorted : todo.Pairwise (· < ·)) {fill : Fill} {i j lead : Nat}
    (hj : j ∈ todo) (hij : j < i) (hp : pressures i ≤ pressures j) (hlead : fill.allocations i + lead ≤ fill.allocations j)
    (hroom : capacities i + lead ≤ capacities j ∨ fill.allocations j + fill.remaining ≤ capacities j)
    (hwithin : fill.allocations i ≤ capacities i ∧ fill.allocations j ≤ capacities j) :
    (fillPass capacities pressures totalPressure todo fill).allocations i + lead ≤
      (fillPass capacities pressures totalPressure todo fill).allocations j := by
  induction todo generalizing fill with
  | nil => cases hj
  | cons k rest ih =>
    obtain ⟨hk, hrest⟩ := List.pairwise_cons.1 hsorted
    rw [fillPass_cons]
    by_cases hjk : j = k
    · subst hjk
      have hi := @give_other capacities pressures totalPressure fill j i hij.ne'
      split
      · rw [hi, give_self]
        omega
      · rename_i hgo
        have hshare := shareOf_mono hT hp (Nat.sub_le fill.remaining (amountOf capacities pressures totalPressure fill j))
        have hnot : j ∉ rest := fun h => (hk j h).false
        have hgiven := @pass_le_share capacities pressures totalPressure hT rest (hrest.imp ne_of_lt)
          (give capacities pressures totalPressure fill j) i
        rw [pass_other hnot, give_self]
        rw [hi, give_remaining] at hgiven
        rw [give_remaining] at hgo
        unfold amountOf at hgo hgiven hshare ⊢
        omega
    · have hjrest := (List.mem_cons.1 hj).resolve_left hjk
      have hik : i ≠ k := ((hk j hjrest).trans hij).ne'
      have hi := @give_other capacities pressures totalPressure fill k i hik
      have hj' := @give_other capacities pressures totalPressure fill k j hjk
      split
      · rw [hi, hj']
        exact hlead
      · refine ih hrest hjrest ?_ ?_ ?_
        · rw [hi, hj']
          exact hlead
        · rw [hj', give_remaining]
          omega
        · rw [hi, hj']
          exact hwithin

/-! ## The whole run -/

theorem totalPressure_nonneg (pressures : Nat → ℚ) (l : List Nat) : 0 ≤ (l.map (pressureAt pressures)).sum := by
  refine List.sum_nonneg ?_
  intro x hx
  obtain ⟨i, -, rfl⟩ := List.mem_map.1 hx
  exact (pressureAt_pos pressures i).le

/-- The loop ends where nothing is left. -/
theorem loop_done (fuel : Nat) {fill : Fill} (h : fill.remaining = 0) : fillLoop capacities pressures fuel fill = fill := by
  cases fuel with
  | zero => rfl
  | succ fuel => exact if_neg fun hgo => absurd h (Nat.ne_of_gt hgo.1)

theorem loop_mono (fuel : Nat) (fill : Fill) (j : Nat) :
    fill.allocations j ≤ (fillLoop capacities pressures fuel fill).allocations j := by
  induction fuel generalizing fill with
  | zero => exact le_rfl
  | succ fuel ih =>
    have hpass := @pass_mono capacities pressures (fill.active.map (pressureAt pressures)).sum fill.active
      { fill with progressed := 0 } j
    simp only [fillLoop]
    split
    · split
      · exact hpass
      · exact hpass.trans (ih _)
    · exact le_rfl

/-- The whole run keeps the lead of the message that stands first. -/
theorem loop_lead {indices : List Nat} (hn : indices.Nodup) (fuel : Nat) {fill : Fill} {i j lead : Nat}
    (hF : Filling indices capacities reduction fill) (hsorted : fill.active.Pairwise (· < ·)) (hi : i ∈ indices) (hj : j ∈ indices)
    (hij : j < i) (hp : pressures i ≤ pressures j) (hlead : fill.allocations i + lead ≤ fill.allocations j)
    (hroom : capacities i + lead ≤ capacities j ∨ fill.allocations j + fill.remaining ≤ capacities j) :
    (fillLoop capacities pressures fuel fill).allocations i + lead ≤ (fillLoop capacities pressures fuel fill).allocations j := by
  induction fuel generalizing fill with
  | zero => exact hlead
  | succ fuel ih =>
    simp only [fillLoop]
    split
    · rename_i hgo
      have hT := totalPressure_nonneg pressures fill.active
      generalize (fill.active.map (pressureAt pressures)).sum = totalPressure at hT
      have hwithin := And.intro (hF.within i hi) (hF.within j hj)
      have hpass : (fillPass capacities pressures totalPressure fill.active { fill with progressed := 0 }).allocations i + lead ≤
          (fillPass capacities pressures totalPressure fill.active { fill with progressed := 0 }).allocations j := by
        by_cases hactive : j ∈ fill.active
        · exact pass_lead hT hsorted hactive hij hp hlead hroom hwithin
        · -- a message that is not active has its capacity, so the other one stays below it
          have hfull : capacities j ≤ fill.allocations j := by
            by_contra hlt
            exact hactive ((hF.active j).2 ⟨hj, not_le.1 hlt⟩)
          have hgiven := @pass_le_share capacities pressures totalPressure hT fill.active hF.nodup
            { fill with progressed := 0 } i
          have hkept := @pass_mono capacities pressures totalPressure fill.active { fill with progressed := 0 } j
          simp only at hgiven hkept
          omega
      split
      · exact hpass
      · have hF₀ : Filling indices capacities reduction { fill with progressed := 0 } :=
          ⟨hF.within, hF.total, hF.active, hF.nodup⟩
        have hbound := @pass_bound capacities pressures totalPressure fill.active { fill with progressed := 0 } j
        refine ih (filling_pass pressures totalPressure hn hF.nodup hF₀ fun _ h => h).1
          (hsorted.sublist (pass_active fill.active { fill with progressed := 0 })) hpass ?_
        simp only at hbound
        omega
    · exact hlead

theorem filling_start (reduction : Nat) (capacities : Nat → Nat) {indices : List Nat} (hn : indices.Nodup) :
    Filling indices capacities reduction (startFill reduction indices capacities) :=
  ⟨fun _ _ => Nat.zero_le _, by simp [startFill], fun i => by simp [startFill], hn.filter _⟩

/-- Two elements of a list make up no more than all of them. -/
theorem pair_le_sum {α : Type} [AddCommMonoid α] [PartialOrder α] [IsOrderedAddMonoid α] {f : Nat → α} (hf : ∀ i, 0 ≤ f i)
    {l : List Nat} {i j : Nat} (hi : i ∈ l) (hj : j ∈ l) (hne : i ≠ j) : f i + f j ≤ (l.map f).sum := by
  have hrest : j ∈ l.erase i := (List.mem_erase_of_ne hne.symm).2 hj
  have hperm := ((List.perm_cons_erase hi).trans ((List.perm_cons_erase hrest).cons i)).map f
  rw [hperm.sum_eq]
  simp only [List.map_cons, List.sum_cons]
  rw [← add_assoc]
  refine le_add_of_nonneg_right (List.sum_nonneg ?_)
  intro x hx
  obtain ⟨k, -, rfl⟩ := List.mem_map.1 hx
  exact hf k

/-- Of at most three tokens, a message gets one at a time while one of as much pressure is active. -/
theorem shareOf_small {l : List Nat} {i j r : Nat} (hi : i ∈ l) (hj : j ∈ l) (hne : i ≠ j) (hp : pressures i ≤ pressures j)
    (hr : r ≤ 3) : shareOf pressures (l.map (pressureAt pressures)).sum r i ≤ 1 := by
  have hsum : pressureAt pressures i + pressureAt pressures j ≤ (l.map (pressureAt pressures)).sum :=
    pair_le_sum (fun k => (pressureAt_pos pressures k).le) hi hj hne
  have hpressure : pressureAt pressures i ≤ pressureAt pressures j := max_le_max hp le_rfl
  have hpos := pressureAt_pos pressures i
  have hfloor : Rat.floor ((r : ℚ) * pressureAt pressures i / (l.map (pressureAt pressures)).sum) < 2 := by
    rw [Rat.floor_lt_iff, div_lt_iff₀ (by linarith)]
    have hr' : (r : ℚ) ≤ 3 := by exact_mod_cast hr
    push_cast
    nlinarith
  unfold shareOf
  omega

/-- A run with tokens to give and a message to give them to starts with a pass. -/
theorem loop_first {fuel : Nat} {indices : List Nat} (hn : indices.Nodup)
    (hne : (startFill (fuel + 1) indices capacities).active ≠ []) :
    ∃ fill, fill = fillPass capacities pressures ((startFill (fuel + 1) indices capacities).active.map (pressureAt pressures)).sum
        (startFill (fuel + 1) indices capacities).active (startFill (fuel + 1) indices capacities) ∧
      Filling indices capacities (fuel + 1) fill ∧ fill.remaining ≤ fuel ∧
      fillLoop capacities pressures (fuel + 1) (startFill (fuel + 1) indices capacities) =
        fillLoop capacities pressures fuel fill := by
  have hF := filling_start (fuel + 1) capacities hn
  have hgo : 0 < (startFill (fuel + 1) indices capacities).remaining ∧ (startFill (fuel + 1) indices capacities).active ≠ [] :=
    ⟨Nat.succ_pos _, hne⟩
  obtain ⟨hF', hsum⟩ := filling_pass pressures ((startFill (fuel + 1) indices capacities).active.map (pressureAt pressures)).sum hn
    hF.nodup hF fun _ h => h
  have hless := @remaining_pass_lt capacities pressures
    ((startFill (fuel + 1) indices capacities).active.map (pressureAt pressures)).sum _ (startFill (fuel + 1) indices capacities) hne
    (Nat.succ_pos _) fun i hi => ((hF.active i).1 hi).2
  have hstart : (startFill (fuel + 1) indices capacities).progressed = 0 := rfl
  have hremaining : (startFill (fuel + 1) indices capacities).remaining = fuel + 1 := rfl
  refine ⟨_, rfl, hF', by omega, ?_⟩
  rw [fillLoop, if_pos hgo]
  refine if_neg ?_
  intro hnone
  have hnone' : (fillPass capacities pressures ((startFill (fuel + 1) indices capacities).active.map (pressureAt pressures)).sum
      (startFill (fuel + 1) indices capacities).active (startFill (fuel + 1) indices capacities)).progressed = 0 := hnone
  omega

/-- With at most three tokens to give, no message is more than one ahead of a later one of as much pressure and capacity. -/
theorem loop_small {indices : List Nat} (hn : indices.Nodup) (hr : reduction ≤ 3) {i j : Nat} (hi : i ∈ indices) (hj : j ∈ indices)
    (hne : i ≠ j) (hp : pressures i ≤ pressures j) (hc : capacities i ≤ capacities j) :
    (fillLoop capacities pressures reduction (startFill reduction indices capacities)).allocations i ≤
      (fillLoop capacities pressures reduction (startFill reduction indices capacities)).allocations j + 1 := by
  have hF : Filling indices capacities reduction
      (fillLoop capacities pressures reduction (startFill reduction indices capacities)) :=
    (filling_loop pressures hn reduction (filling_start reduction capacities hn) le_rfl).1
  have hwithin := hF.within i hi
  have htotal := hF.total
  have hpair := pair_le_sum (f := (fillLoop capacities pressures reduction
    (startFill reduction indices capacities)).allocations) (fun _ => Nat.zero_le _) hi hj hne
  by_cases hcj : capacities j = 0
  · omega
  · cases reduction with
    | zero => exact Nat.zero_le _
    | succ fuel =>
      have hmemj : j ∈ (startFill (fuel + 1) indices capacities).active := by simp [startFill, hj, Nat.pos_of_ne_zero hcj]
      obtain ⟨fill, hfill, hF', -, hloop⟩ := @loop_first capacities pressures fuel indices hn (List.ne_nil_of_mem hmemj)
      rw [hloop] at hwithin htotal hpair ⊢
      -- after the first pass the message has one token at most, and the other one has one, or all is given
      have hone : fill.allocations i ≤ 1 := by
        by_cases hci : capacities i = 0
        · have := hF'.within i hi
          omega
        · have hmemi : i ∈ (startFill (fuel + 1) indices capacities).active := by simp [startFill, hi, Nat.pos_of_ne_zero hci]
          have hgiven := @pass_le_share capacities pressures _
            (totalPressure_nonneg pressures (startFill (fuel + 1) indices capacities).active) _
            (filling_start (fuel + 1) capacities hn).nodup (startFill (fuel + 1) indices capacities) i
          have hshare := @shareOf_small pressures _ i j _ hmemi hmemj hne hp hr
          rw [← hfill] at hgiven
          simp only [startFill] at hgiven hshare
          omega
      have hother := @pass_given capacities pressures
        ((startFill (fuel + 1) indices capacities).active.map (pressureAt pressures)).sum _
        (startFill (fuel + 1) indices capacities) j hmemj (Nat.pos_of_ne_zero hcj)
      rw [← hfill] at hother
      rcases hother with hempty | hother
      · rw [loop_done fuel hempty]
        omega
      · have hkept := @loop_mono capacities pressures fuel fill j
        have hpos := Nat.lt_of_le_of_lt (Nat.zero_le _) hother
        omega

/-- As many passes as there are tokens to give are enough: more change nothing. -/
theorem loop_fuel {indices : List Nat} (hn : indices.Nodup) {fuel fuel' : Nat} {fill : Fill}
    (hF : Filling indices capacities reduction fill) (hfuel : fill.remaining ≤ fuel) (hle : fuel ≤ fuel') :
    fillLoop capacities pressures fuel' fill = fillLoop capacities pressures fuel fill := by
  induction fuel generalizing fill fuel' with
  | zero => rw [loop_done _ (Nat.le_zero.1 hfuel), loop_done _ (Nat.le_zero.1 hfuel)]
  | succ fuel ih =>
    obtain ⟨fuel', rfl⟩ := Nat.exists_eq_add_of_le' (Nat.lt_of_lt_of_le (Nat.succ_pos fuel) hle)
    simp only [fillLoop]
    split
    · rename_i hgo
      have hF₀ : Filling indices capacities reduction { fill with progressed := 0 } :=
        ⟨hF.within, hF.total, hF.active, hF.nodup⟩
      have hless := @remaining_pass_lt capacities pressures (fill.active.map (pressureAt pressures)).sum fill.active
        { fill with progressed := 0 } hgo.2 hgo.1 fun i hi => ((hF.active i).1 hi).2
      split
      · rfl
      · refine ih (filling_pass pressures _ hn hF.nodup hF₀ fun _ h => h).1 ?_ (Nat.le_of_succ_le_succ hle)
        simp only at hless
        omega
    · rfl

/-- What the result says of a message is its share at the end of the loops. -/
theorem lookup_shares (f : Nat → Nat) {l : List Nat} {i : Nat} (h : i ∈ l ∨ f i = 0) :
    (((l.map fun k => (k, f k)).filter fun p => 0 < p.2).lookup i).getD 0 = f i := by
  induction l with
  | nil =>
    rcases h with h | h
    · cases h
    · exact h.symm
  | cons k rest ih =>
    by_cases hik : i = k
    · subst hik
      rcases Nat.eq_zero_or_pos (f i) with h0 | hpos
      · rw [List.map_cons, List.filter_cons_of_neg (by simp [h0])]
        exact ih (Or.inr h0)
      · simp [hpos]
    · have hrest := ih (h.imp_left fun hm => (List.mem_cons.1 hm).resolve_left hik)
      rw [← hrest, List.map_cons, List.filter_cons]
      have hne : (i == k) = false := beq_false_of_ne hik
      split
      · simp [List.lookup_cons, hne]
      · rfl

theorem allocation_eq {indices : Finset Nat} {i : Nat} (h : i ∈ indices) :
    allocation reduction indices capacities pressures i =
      (fillLoop capacities pressures reduction (startFill reduction (indices.sort (· ≤ ·)) capacities)).allocations i :=
  lookup_shares _ (Or.inl ((Finset.mem_sort _).2 h))

/-! ## Two messages of one pressure -/

/-- Capacities that leave room for everything, but at one message, which can lose what makes the reduction even. -/
def wideCapacities (reduction last index : Nat) : Nat := if index = last then reduction % 2 else reduction

/-- One pressure for all messages but one, which has none. -/
def levelPressures (reduction last index : Nat) : ℚ := if index = last then 0 else reduction

/-- A share of a message whose pressure is at most half of all is at most half of what remains. -/
theorem shareOf_le_half {r i m : Nat} (hpos : 0 < totalPressure) (hhalf : 2 * pressureAt pressures i ≤ totalPressure) (hm : 1 < m)
    (hr : r < 2 * m) : shareOf pressures totalPressure r i < m := by
  have hfloor : Rat.floor (r * pressureAt pressures i / totalPressure) < (m : Int) := by
    rw [Rat.floor_lt_iff, div_lt_iff₀ hpos]
    have hr' : (r : ℚ) < 2 * m := by exact_mod_cast hr
    have hp := pressureAt_pos pressures i
    push_cast
    nlinarith
  unfold shareOf
  omega

/-- In a pass that starts with two messages without shares, the first gets ahead when its share is at least `m` and that of the second,
of what it leaves, is less. -/
theorem first_lead {rest : List Nat} {fill : Fill} {i j m : Nat} (hne : i ≠ j) (hi : i ∉ rest) (hj : j ∉ rest)
    (hstart : fill.allocations i = 0 ∧ fill.allocations j = 0) (hroom : m ≤ fill.remaining ∧ m ≤ capacities i)
    (hfirst : m ≤ shareOf pressures totalPressure fill.remaining i)
    (hsecond : ∀ r ≤ fill.remaining - m, shareOf pressures totalPressure r j < m) (hm : 0 < m) :
    (fillPass capacities pressures totalPressure (i :: j :: rest) fill).allocations j <
      (fillPass capacities pressures totalPressure (i :: j :: rest) fill).allocations i := by
  have hamount : m ≤ amountOf capacities pressures totalPressure fill i := by
    unfold amountOf
    omega
  have hgiven : m ≤ (give capacities pressures totalPressure fill i).allocations i := by
    rw [give_self]
    omega
  have hother : (give capacities pressures totalPressure fill i).allocations j = 0 := by
    rw [give_other fill hne.symm]
    exact hstart.2
  rw [fillPass_cons]
  split
  · omega
  · have hless := hsecond (give capacities pressures totalPressure fill i).remaining (by rw [give_remaining]; omega)
    generalize give capacities pressures totalPressure fill i = next at hgiven hother hless ⊢
    have hnext : (give capacities pressures totalPressure next j).allocations j <
        (give capacities pressures totalPressure next j).allocations i := by
      rw [give_self, give_other next hne]
      unfold amountOf
      omega
    rw [fillPass_cons]
    split
    · exact hnext
    · rw [pass_other hi, pass_other hj]
      exact hnext

/-- The messages that are active at first: the two, and the third one if the reduction is odd. -/
theorem wide_active {reduction i j : Nat} (hpos : 0 < reduction) (hij : i < j) :
    (startFill reduction [i, j, j + 1] (wideCapacities reduction (j + 1))).active =
      i :: j :: (if reduction % 2 = 0 then [] else [j + 1]) := by
  have hi : i ≠ j + 1 := by omega
  rcases Nat.mod_two_eq_zero_or_one reduction with h | h
  · simp [startFill, wideCapacities, hi, h, hpos]
  · simp [startFill, wideCapacities, hi, h, hpos]

/-- The pressures of the two messages are half of all, or next to it. -/
theorem level_total {reduction i j : Nat} (hpos : 0 < reduction) (hij : i < j) :
    2 * (reduction : ℚ) ≤ ((i :: j :: (if reduction % 2 = 0 then [] else [j + 1])).map
        (pressureAt (levelPressures reduction (j + 1)))).sum ∧
      (reduction / 2 : Nat) * ((i :: j :: (if reduction % 2 = 0 then [] else [j + 1])).map
        (pressureAt (levelPressures reduction (j + 1)))).sum ≤ (reduction : ℚ) * reduction := by
  have hi : i ≠ j + 1 := by omega
  have hone : (1 : ℚ) ≤ reduction := by exact_mod_cast hpos
  have hlevel : max (reduction : ℚ) (1 / 1000000000) = reduction := max_eq_left (by linarith)
  have hnone : max (0 : ℚ) (1 / 1000000000) = 1 / 1000000000 := max_eq_right (by norm_num)
  have hdiv := Nat.div_add_mod reduction 2
  rcases Nat.mod_two_eq_zero_or_one reduction with h | h
  · have hhalf : (reduction : ℚ) = 2 * (reduction / 2 : Nat) := by exact_mod_cast (by omega : reduction = 2 * (reduction / 2))
    simp only [h, if_true, List.map_cons, List.map_nil, List.sum_cons, List.sum_nil, pressureAt, levelPressures, hi, if_false,
      Nat.ne_of_lt (Nat.lt_succ_self j), hlevel]
    constructor
    · linarith
    · nlinarith
  · have hhalf : (reduction : ℚ) = 2 * (reduction / 2 : Nat) + 1 := by
      exact_mod_cast (by omega : reduction = 2 * (reduction / 2) + 1)
    have hodd : ¬reduction % 2 = 0 := by omega
    simp only [hodd, if_false, if_true, List.map_cons, List.map_nil, List.sum_cons, List.sum_nil, pressureAt, levelPressures, hi,
      Nat.ne_of_lt (Nat.lt_succ_self j), hlevel, hnone]
    constructor
    · linarith
    · nlinarith

theorem wide_first {reduction i j : Nat} (hij : i < j) : wideCapacities reduction (j + 1) i = reduction :=
  if_neg (by omega)

theorem wide_second {reduction j : Nat} : wideCapacities reduction (j + 1) j = reduction :=
  if_neg (Nat.ne_of_lt (Nat.lt_succ_self j))

theorem wide_third {reduction j : Nat} : wideCapacities reduction (j + 1) (j + 1) = reduction % 2 := if_pos rfl

theorem level_first {reduction i j : Nat} (hpos : 0 < reduction) (hij : i ≤ j) :
    pressureAt (levelPressures reduction (j + 1)) i = reduction := by
  have hone : (1 : ℚ) ≤ reduction := by exact_mod_cast hpos
  have hlevel : levelPressures reduction (j + 1) i = reduction := if_neg (by omega)
  unfold pressureAt
  rw [hlevel]
  exact max_eq_left (by linarith)

/-- The first pass gives the first message the lead, and the third what is odd. -/
theorem pass_unfair {reduction i j : Nat} (hr : 4 ≤ reduction) (hij : i < j) {rest : List Nat}
    (hrest : (if reduction % 2 = 0 then [] else [j + 1]) = rest) (hT : 2 * (reduction : ℚ) ≤ totalPressure)
    (hhalf : (reduction / 2 : Nat) * totalPressure ≤ (reduction : ℚ) * reduction) {fill : Fill}
    (hfill : fill = fillPass (wideCapacities reduction (j + 1)) (levelPressures reduction (j + 1)) totalPressure (i :: j :: rest)
      (startFill reduction [i, j, j + 1] (wideCapacities reduction (j + 1))))
    (hF : Filling [i, j, j + 1] (wideCapacities reduction (j + 1)) reduction fill) :
    fill.allocations j < fill.allocations i ∧ reduction % 2 ≤ fill.allocations (j + 1) := by
  have hone : (4 : ℚ) ≤ reduction := by exact_mod_cast hr
  have hpos : 0 < totalPressure := by linarith
  have hfirst := level_first (Nat.lt_of_lt_of_le (by decide : 0 < 4) hr) hij.le
  have hsecond := level_first (Nat.lt_of_lt_of_le (by decide : 0 < 4) hr) (le_refl j)
  have hmem : ∀ k ∈ rest, k = j + 1 := by
    intro k hk
    rw [← hrest] at hk
    split at hk
    · cases hk
    · exact List.mem_singleton.1 hk
  have hirest : i ∉ rest := fun h => absurd (hmem i h) (by omega)
  have hjrest : j ∉ rest := fun h => absurd (hmem j h) (by omega)
  have hlead : fill.allocations j < fill.allocations i := by
    rw [hfill]
    refine first_lead (m := reduction / 2) hij.ne hirest hjrest ⟨rfl, rfl⟩ ?_ ?_ ?_ (by omega)
    · simp only [startFill, wide_first hij]
      omega
    · have hfloor : ((reduction / 2 : Nat) : Int) ≤ Rat.floor
          (((startFill reduction [i, j, j + 1] (wideCapacities reduction (j + 1))).remaining : ℚ) *
            pressureAt (levelPressures reduction (j + 1)) i / totalPressure) := by
        rw [Rat.le_floor_iff, hfirst, le_div_iff₀ hpos]
        exact hhalf
      unfold shareOf
      omega
    · intro r hr'
      refine shareOf_le_half hpos (by rw [hsecond]; exact hT) (by omega) ?_
      simp only [startFill] at hr'
      omega
  refine ⟨hlead, ?_⟩
  rcases Nat.mod_two_eq_zero_or_one reduction with heven | hodd
  · rw [heven]
    exact Nat.zero_le _
  · -- the pass cannot end before the third message: the two before it leave two tokens
    have hthird : j + 1 ∈ i :: j :: rest := by
      rw [← hrest, hodd]
      simp
    have hnodup : (i :: j :: rest).Nodup := by
      rw [← hrest, hodd]
      simp only [Nat.one_ne_zero, if_false, List.nodup_cons, List.mem_cons, List.not_mem_nil, or_false, List.nodup_nil, and_true,
        not_false_eq_true]
      omega
    have hgiven := @pass_given (wideCapacities reduction (j + 1)) (levelPressures reduction (j + 1)) totalPressure _
      (startFill reduction [i, j, j + 1] (wideCapacities reduction (j + 1))) (j + 1) hthird
      (by rw [wide_third, hodd]; exact Nat.one_pos)
    have hshare := @pass_le_share (wideCapacities reduction (j + 1)) (levelPressures reduction (j + 1)) totalPressure
      hpos.le _ hnodup (startFill reduction [i, j, j + 1] (wideCapacities reduction (j + 1))) i
    have hhalfshare := @shareOf_le_half (levelPressures reduction (j + 1)) totalPressure reduction i
      (reduction / 2 + 1) hpos (by rw [hfirst]; exact hT) (by omega) (by omega)
    have htotal := hF.total
    have hwithin := hF.within (j + 1) (by simp)
    rw [← hfill] at hgiven hshare
    rw [wide_third] at hwithin
    simp only [List.map_cons, List.map_nil, List.sum_cons, List.sum_nil] at htotal
    simp only [startFill] at hgiven hshare
    omega

/-- Of two messages with one pressure and room for everything, the first loses two tokens more than the second, if there are four to
give: the third message takes what is odd. -/
theorem loop_unfair {reduction i j : Nat} (hr : 4 ≤ reduction) (hij : i < j) :
    (fillLoop (wideCapacities reduction (j + 1)) (levelPressures reduction (j + 1)) reduction
        (startFill reduction [i, j, j + 1] (wideCapacities reduction (j + 1)))).allocations j + 2 ≤
      (fillLoop (wideCapacities reduction (j + 1)) (levelPressures reduction (j + 1)) reduction
        (startFill reduction [i, j, j + 1] (wideCapacities reduction (j + 1)))).allocations i := by
  have hincreasing : [i, j, j + 1].Pairwise (· < ·) := by simp [hij, hij.trans (Nat.lt_succ_self j)]
  have hn : [i, j, j + 1].Nodup := hincreasing.imp ne_of_lt
  have hlevel : levelPressures reduction (j + 1) j ≤ levelPressures reduction (j + 1) i := by
    rw [levelPressures, levelPressures, if_neg (by omega), if_neg (by omega)]
  obtain ⟨fuel, rfl⟩ := Nat.exists_eq_add_of_le' (Nat.lt_of_lt_of_le (by decide : 0 < 4) hr)
  have hactive := wide_active (Nat.succ_pos fuel) hij
  obtain ⟨hT, hhalf⟩ := level_total (Nat.succ_pos fuel) hij
  obtain ⟨fill, hfill, hF, -, hloop⟩ := @loop_first (wideCapacities (fuel + 1) (j + 1))
    (levelPressures (fuel + 1) (j + 1)) fuel _ hn (by rw [hactive]; exact List.cons_ne_nil _ _)
  obtain ⟨hF', hend⟩ := filling_loop (levelPressures (fuel + 1) (j + 1)) hn (fuel + 1)
    (filling_start (fuel + 1) (wideCapacities (fuel + 1) (j + 1)) hn) le_rfl
  rw [hloop] at hF' hend ⊢
  have hsorted : fill.active.Pairwise (· < ·) := by
    rw [hfill]
    exact hincreasing.sublist ((pass_active _ _).trans List.filter_sublist)
  rw [hactive] at hfill
  obtain ⟨hlead, hodd⟩ := pass_unfair hr hij rfl hT hhalf hfill hF
  have htotal := hF.total
  simp only [List.map_cons, List.map_nil, List.sum_cons, List.sum_nil] at htotal
  have hfinal := @loop_lead _ _ _ _ hn fuel fill j i 1 hF hsorted (by simp) (by simp) hij hlevel hlead
    (Or.inr (by rw [wide_first hij]; omega))
  have hkept := @loop_mono (wideCapacities (fuel + 1) (j + 1)) (levelPressures (fuel + 1) (j + 1)) fuel fill (j + 1)
  generalize fillLoop (wideCapacities (fuel + 1) (j + 1)) (levelPressures (fuel + 1) (j + 1)) fuel fill = last at hF' hend hfinal hkept ⊢
  have hthird := hF'.within (j + 1) (by simp)
  have hall := hF'.total
  simp only [List.map_cons, List.map_nil, List.sum_cons, List.sum_nil] at hall
  have hspent : last.remaining = 0 := by
    rcases hend with hspent | hnone
    · exact hspent
    · have hnot := (hF'.active i).not.1 (by rw [hnone]; exact List.not_mem_nil)
      have hnot' := (hF'.active j).not.1 (by rw [hnone]; exact List.not_mem_nil)
      simp only [List.mem_cons, true_or, or_true, true_and, not_lt, wide_first hij, wide_second] at hnot hnot'
      omega
  -- the two messages share an even number of tokens, so a lead of one is a lead of two
  rw [wide_third] at hthird
  omega

end FairnessAux

open FillAux FairnessAux

end PromptRail
