import Mathlib.Algebra.Order.Floor.Ring
import Mathlib.Algebra.Order.Round
import Mathlib.Algebra.Ring.Int.Parity
import Mathlib.Data.Rat.Floor
import Mathlib.Tactic.FieldSimp
import Mathlib.Tactic.Linarith
import Mathlib.Tactic.NormNum

/-!
# Rounding to decimals, half to even

Python's `round(x, d)` of an exact number. The rounded number is the nearest multiple of `10 ^ -d`, and of two nearest ones the
multiple by an even number. The lemmas say for which numbers the result is at most, or equal to, a given multiple.
-/

namespace Round

/-- The nearest integer, and of two the even one. -/
def halfEven (x : ℚ) : ℤ :=
  let below := ⌊x⌋
  if x - below < 1 / 2 then below
  else if 1 / 2 < x - below then below + 1
  else if Even below then below else below + 1

/-- `round(x, decimals)`. -/
def round (decimals : ℕ) (x : ℚ) : ℚ := halfEven (10 ^ decimals * x) / 10 ^ decimals

/-- The nearest integer is at most `n` up to the middle between `n` and `n + 1`, which goes to `n` when that is even. -/
theorem halfEven_le_iff (x : ℚ) (n : ℤ) : halfEven x ≤ n ↔ x < n + 1 / 2 ∨ x = n + 1 / 2 ∧ Even n := by
  have hle : (⌊x⌋ : ℚ) ≤ x := Int.floor_le x
  have hlt : x < ⌊x⌋ + 1 := Int.lt_floor_add_one x
  unfold halfEven
  generalize ⌊x⌋ = b at hle hlt
  have below (h : b < n) : (b : ℚ) + 1 ≤ n := by exact_mod_cast h
  have above (h : n < b) : (n : ℚ) + 1 ≤ b := by exact_mod_cast h
  rcases lt_trichotomy b n with hb | rfl | hb
  · -- the number lies below `n`
    have := below hb
    refine ⟨fun _ => Or.inl (by linarith), fun _ => ?_⟩
    dsimp only
    split_ifs <;> omega
  · -- the number lies between `n` and `n + 1`
    dsimp only
    split_ifs with h1 h2 h3
    · exact ⟨fun _ => Or.inl (by linarith), fun _ => le_rfl⟩
    · refine ⟨fun h => absurd h (by omega), ?_⟩
      rintro (h | ⟨h, -⟩) <;> linarith
    · exact ⟨fun _ => Or.inr ⟨by linarith, h3⟩, fun _ => le_rfl⟩
    · refine ⟨fun h => absurd h (by omega), ?_⟩
      rintro (h | ⟨-, h⟩)
      · linarith
      · exact absurd h h3
  · -- the number lies above `n + 1`
    have := above hb
    refine ⟨fun h => ?_, ?_⟩
    · dsimp only at h
      split_ifs at h <;> omega
    · rintro (h | ⟨h, -⟩) <;> linarith

/-- Rounding keeps the order. -/
theorem halfEven_mono {x y : ℚ} (h : x ≤ y) : halfEven x ≤ halfEven y := by
  rcases (halfEven_le_iff y (halfEven y)).1 le_rfl with hy | ⟨hy, heven⟩
  · exact (halfEven_le_iff x _).2 (Or.inl (lt_of_le_of_lt h hy))
  · rcases lt_or_eq_of_le (hy ▸ h) with hx | hx
    · exact (halfEven_le_iff x _).2 (Or.inl hx)
    · exact (halfEven_le_iff x _).2 (Or.inr ⟨hx, heven⟩)

/-- The nearest integer is at least `n` from the middle between `n - 1` and `n` on, which goes to `n` when that is even. -/
theorem le_halfEven_iff (x : ℚ) (n : ℤ) : n ≤ halfEven x ↔ n - 1 / 2 < x ∨ x = n - 1 / 2 ∧ Even n := by
  have h := halfEven_le_iff x (n - 1)
  have hpred : ((n - 1 : ℤ) : ℚ) + 1 / 2 = n - 1 / 2 := by push_cast; ring
  rw [hpred] at h
  constructor
  · intro hn
    have hnot : ¬halfEven x ≤ n - 1 := by omega
    rw [h, not_or] at hnot
    rcases lt_or_eq_of_le (not_lt.1 hnot.1) with hx | hx
    · exact Or.inl hx
    · refine Or.inr ⟨hx.symm, ?_⟩
      by_contra hodd
      exact hnot.2 ⟨hx.symm, by rw [Int.even_sub_one]; exact hodd⟩
  · intro hx
    by_contra hn
    rcases h.1 (by omega) with hlt | ⟨heq, heven⟩
    · rcases hx with hx | ⟨hx, -⟩ <;> linarith
    · rcases hx with hx | ⟨-, hx⟩
      · linarith
      · rw [Int.even_sub_one] at heven
        exact heven hx

/-- The nearest integer is `n` within half of it, where the middles go to `n` when that is even. -/
theorem halfEven_eq_iff (x : ℚ) (n : ℤ) : halfEven x = n ↔ |x - n| < 1 / 2 ∨ |x - n| = 1 / 2 ∧ Even n := by
  rw [le_antisymm_iff, halfEven_le_iff, le_halfEven_iff]
  constructor
  · rintro ⟨h1 | ⟨h1, heven⟩, h2 | ⟨h2, heven'⟩⟩
    · exact Or.inl (abs_lt.2 ⟨by linarith, by linarith⟩)
    · exact Or.inr ⟨by rw [h2, abs_eq (by norm_num)]; right; ring, heven'⟩
    · exact Or.inr ⟨by rw [h1, abs_eq (by norm_num)]; left; ring, heven⟩
    · linarith
  · rintro (h | ⟨h, heven⟩)
    · obtain ⟨h1, h2⟩ := abs_lt.1 h
      exact ⟨Or.inl (by linarith), Or.inl (by linarith)⟩
    · rcases (abs_eq (by norm_num)).1 h with h | h
      · exact ⟨Or.inr ⟨by linarith, heven⟩, Or.inl (by linarith)⟩
      · exact ⟨Or.inl (by linarith), Or.inr ⟨by linarith, heven⟩⟩

@[simp] theorem halfEven_intCast (n : ℤ) : halfEven n = n := (halfEven_eq_iff _ _).2 (Or.inl (by norm_num))

theorem halfEven_nonneg {x : ℚ} (h : 0 ≤ x) : 0 ≤ halfEven x := by
  have := halfEven_mono h
  rwa [show halfEven 0 = 0 from halfEven_intCast 0] at this

theorem round_nonneg {decimals : ℕ} {x : ℚ} (h : 0 ≤ x) : 0 ≤ round decimals x := by
  have := halfEven_nonneg (mul_nonneg (by positivity : (0 : ℚ) ≤ 10 ^ decimals) h)
  exact div_nonneg (by exact_mod_cast this) (by positivity)

theorem round_mono {decimals : ℕ} {x y : ℚ} (h : x ≤ y) : round decimals x ≤ round decimals y := by
  have hscaled : 10 ^ decimals * x ≤ 10 ^ decimals * y := mul_le_mul_of_nonneg_left h (by positivity)
  have := halfEven_mono hscaled
  exact div_le_div_of_nonneg_right (by exact_mod_cast this) (by positivity)

/-- The rounded number is at most a bound when the number is below the middle above the last multiple within the bound. -/
theorem round_le_iff {decimals : ℕ} {x bound : ℚ} :
    round decimals x ≤ bound ↔ 10 ^ decimals * x < ⌊10 ^ decimals * bound⌋ + 1 / 2 ∨
      10 ^ decimals * x = ⌊10 ^ decimals * bound⌋ + 1 / 2 ∧ Even ⌊10 ^ decimals * bound⌋ := by
  rw [← halfEven_le_iff, Int.le_floor, round, div_le_iff₀ (by positivity), mul_comm bound]

/-- Two numbers round to one multiple exactly when their nearest integers, scaled, agree. -/
theorem round_eq_round_iff {decimals : ℕ} {x y : ℚ} :
    round decimals x = round decimals y ↔ halfEven (10 ^ decimals * x) = halfEven (10 ^ decimals * y) := by
  unfold round
  rw [div_left_inj' (by positivity)]
  exact Int.cast_inj

/-- A rounded number is rounded. -/
@[simp] theorem round_round (decimals : ℕ) (x : ℚ) : round decimals (round decimals x) = round decimals x := by
  have h : 10 ^ decimals * round decimals x = halfEven (10 ^ decimals * x) := by
    unfold round
    field_simp
  rw [round, h, halfEven_intCast, ← round]

/-! ## Rounding to more and to fewer decimals -/

/-- A number near a multiple of ten times the unit. -/
theorem halfEven_of_near {x : ℚ} {fine : ℕ} {n : ℤ} (hfine : 1 ≤ fine) (h : |10 ^ fine * x - 10 ^ fine * n| < 3 / 2) :
    halfEven x = n := by
  have hten : (10 : ℚ) ≤ 10 ^ fine := by simpa using pow_le_pow_right₀ (by norm_num : (1 : ℚ) ≤ 10) hfine
  refine (halfEven_eq_iff x n).2 (Or.inl ?_)
  rw [← mul_sub, abs_mul, abs_of_pos (by positivity)] at h
  nlinarith [abs_nonneg (x - n)]

/-- A number is rounded to one multiple of the coarse unit, whether it was rounded to the fine unit before or not, and no further
than a fine unit from where it is rounded to then, exactly when it lies within one and a half fine units of such a multiple. -/
theorem rounds_agree_iff (coarse : ℕ) {fine : ℕ} (hfine : 1 ≤ fine) (x : ℚ) :
    (round coarse (round (coarse + fine) x) = round coarse x ∧
        |round coarse x - round (coarse + fine) x| ≤ 1 / 10 ^ (coarse + fine)) ↔
      ∃ n : ℤ, |10 ^ (coarse + fine) * x - 10 ^ fine * n| < 3 / 2 := by
  have hsplit : 10 ^ (coarse + fine) * x = 10 ^ fine * (10 ^ coarse * x) := by ring
  have hdist : |round coarse x - round (coarse + fine) x| ≤ 1 / 10 ^ (coarse + fine) ↔
      |10 ^ fine * (halfEven (10 ^ coarse * x) : ℚ) - halfEven (10 ^ (coarse + fine) * x)| ≤ 1 := by
    have hpos : (0 : ℚ) < 10 ^ (coarse + fine) := by positivity
    rw [le_div_iff₀ hpos, ← abs_of_pos hpos, ← abs_mul, abs_of_pos hpos, round, round]
    have hscaled : ((halfEven (10 ^ coarse * x) : ℚ) / 10 ^ coarse -
        halfEven (10 ^ (coarse + fine) * x) / 10 ^ (coarse + fine)) * 10 ^ (coarse + fine) =
        10 ^ fine * halfEven (10 ^ coarse * x) - halfEven (10 ^ (coarse + fine) * x) := by
      rw [pow_add]
      field_simp
    rw [hscaled]
  rw [hdist, round_eq_round_iff]
  have hnested : 10 ^ coarse * round (coarse + fine) x = halfEven (10 ^ (coarse + fine) * x) / 10 ^ fine := by
    rw [round, pow_add]
    field_simp
  rw [hnested]
  have hnear := (halfEven_eq_iff (10 ^ (coarse + fine) * x) _).1 rfl
  generalize halfEven (10 ^ (coarse + fine) * x) = units at hnear ⊢
  constructor
  · rintro ⟨-, hle⟩
    refine ⟨halfEven (10 ^ coarse * x), ?_⟩
    generalize halfEven (10 ^ coarse * x) = n at hle
    -- the units of a number in the middle are even, and those one beside a multiple of ten are odd
    have htriangle := abs_sub_le (10 ^ (coarse + fine) * x) units (10 ^ fine * (n : ℚ))
    rw [abs_sub_comm (units : ℚ)] at htriangle
    rcases hnear with hlt | ⟨heq, heven⟩
    · linarith
    · have hint : |10 ^ fine * n - units| ≤ 1 := by exact_mod_cast hle
      have htens : Even ((10 : ℤ) ^ fine * n) := (Int.even_pow.2 ⟨by decide, by omega⟩).mul_right n
      have hzero : 10 ^ fine * n - units = 0 := by
        obtain ⟨m, hm⟩ := htens.sub heven
        rw [hm, abs_le] at hint
        omega
      have hcast : (10 : ℚ) ^ fine * n - units = 0 := by exact_mod_cast hzero
      rw [hcast, abs_zero] at htriangle
      linarith
  · rintro ⟨n, hn⟩
    have hunits : |10 ^ fine * n - units| ≤ 1 := by
      have hhalf : |10 ^ (coarse + fine) * x - units| ≤ 1 / 2 := by
        rcases hnear with h | ⟨h, -⟩
        · exact h.le
        · exact h.le
      have htriangle := abs_sub_le (10 ^ fine * (n : ℚ)) (10 ^ (coarse + fine) * x) units
      rw [abs_sub_comm (10 ^ fine * (n : ℚ)) (10 ^ (coarse + fine) * x)] at htriangle
      have hlt : |10 ^ fine * (n : ℚ) - units| < 2 := by linarith
      have hlt' : |10 ^ fine * n - units| < 2 := by exact_mod_cast hlt
      omega
    have hcast : |10 ^ fine * (n : ℚ) - units| ≤ 1 := by exact_mod_cast hunits
    have hfirst : halfEven (10 ^ coarse * x) = n := halfEven_of_near hfine (by rwa [← hsplit])
    refine ⟨?_, by rwa [hfirst]⟩
    rw [hfirst]
    refine halfEven_of_near hfine ?_
    rw [mul_div_cancel₀ _ (by positivity), abs_sub_comm]
    linarith

end Round
