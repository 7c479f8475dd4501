import GpuMonitor.Proofs.Exactness
import Mathlib.Data.Nat.Cast.Order.Field
import Mathlib.Tactic.Linarith
import Mathlib.Tactic.Ring

/-!
# What rounding keeps, and how far it moves

Rounding to the nearest double keeps the order of quotients, so it does not pass a double, and it
moves a quotient by no more than half the distance of the doubles around it.

* `roundHalfEven_mono`, `nearestUnits_mono`: greater quotients are not rounded to less.
* `nearestUnits_le`, `le_nearestUnits`: a double that the quotient does not pass is not passed.
* `abs_nearestUnits_sub_le`: the error is at most one part in `2⁵³`, or half a unit.
-/

namespace GpuMonitor

/-! ## To the nearest natural number -/

/-- The rounding is at most half away. -/
theorem roundHalfEven_near (num : Nat) {den : Nat} (hden : 0 < den) :
    2 * (roundHalfEven num den * den) ≤ 2 * num + den ∧
      2 * num ≤ 2 * (roundHalfEven num den * den) + den := by
  have hsplit : num / den * den + num % den = num := Nat.div_add_mod' num den
  have hrest : num % den < den := Nat.mod_lt num hden
  have hnext : (num / den + 1) * den = num / den * den + den := Nat.succ_mul ..
  unfold roundHalfEven
  dsimp only
  split
  · omega
  · split
    · omega
    · split <;> omega

/-- What is half way from its rounding has been rounded to an even number. -/
theorem even_of_half_way (num : Nat) {den : Nat} (hden : 0 < den)
    (h : 2 * (roundHalfEven num den * den) = 2 * num + den ∨
      2 * num = 2 * (roundHalfEven num den * den) + den) :
    roundHalfEven num den % 2 = 0 := by
  have hsplit : num / den * den + num % den = num := Nat.div_add_mod' num den
  have hrest : num % den < den := Nat.mod_lt num hden
  have hnext : (num / den + 1) * den = num / den * den + den := Nat.succ_mul ..
  revert h
  unfold roundHalfEven
  dsimp only
  split
  · omega
  · split
    · omega
    · split <;> omega

/-- A quotient that is not greater is not rounded to a greater number. -/
theorem roundHalfEven_mono {num den num' den' : Nat} (hden : 0 < den) (hden' : 0 < den')
    (h : num * den' ≤ num' * den) : roundHalfEven num den ≤ roundHalfEven num' den' := by
  have hup := (roundHalfEven_near num hden).1
  have hdown := (roundHalfEven_near num' hden').2
  have heven := even_of_half_way num hden
  have heven' := even_of_half_way num' hden'
  generalize roundHalfEven num den = r at *
  generalize roundHalfEven num' den' = r' at *
  by_contra hlt
  -- over the common denominator, the one is at most half above and the other at most half below
  have hup' : 2 * (r * (den * den')) ≤ 2 * (num * den') + den * den' := by
    linarith [Nat.mul_le_mul_right den' hup]
  have hdown' : 2 * (num' * den) ≤ 2 * (r' * (den * den')) + den * den' := by
    linarith [Nat.mul_le_mul_right den hdown]
  have hstep : (r' + 1) * (den * den') ≤ r * (den * den') := Nat.mul_le_mul_right _ (by omega)
  -- so nothing is left between them: the numbers are one apart, and both quotients are half way
  have hnext : r = r' + 1 := by
    refine Nat.le_antisymm ?_ (by omega)
    refine Nat.le_of_mul_le_mul_right ?_ (Nat.mul_pos hden hden')
    linarith
  have hhalf : 2 * (r * den) = 2 * num + den := by
    refine Nat.le_antisymm hup (Nat.le_of_mul_le_mul_right (c := den') ?_ hden')
    linarith
  have hhalf' : 2 * num' = 2 * (r' * den') + den' := by
    refine Nat.le_antisymm hdown (Nat.le_of_mul_le_mul_right (c := den) ?_ hden)
    linarith
  have hr := heven (.inl hhalf)
  have hr' := heven' (.inr hhalf')
  omega

/-- A whole number that the quotient does not fall short of is not rounded below. -/
theorem le_roundHalfEven {num den k : Nat} (hden : 0 < den) (h : k * den ≤ num) :
    k ≤ roundHalfEven num den := by
  have hmono : roundHalfEven k 1 ≤ roundHalfEven num den :=
    roundHalfEven_mono Nat.one_pos hden (by omega)
  have hk := roundHalfEven_mul k Nat.one_pos
  rw [Nat.mul_one] at hk
  rwa [hk] at hmono

/-! ## To the nearest double -/

theorem nearestUnits_eq (num den : Nat) :
    nearestUnits num den =
      roundHalfEven num (den * spacing (num / den)) * spacing (num / den) := rfl

/-- What lies on the grid around the quotient, and is not below it, is not passed. -/
theorem nearestUnits_le_of_dvd {num den n : Nat} (hden : 0 < den)
    (hgrid : spacing (num / den) ∣ n) (h : num ≤ n * den) : nearestUnits num den ≤ n := by
  obtain ⟨k, rfl⟩ := hgrid
  rw [nearestUnits_eq, Nat.mul_comm]
  refine Nat.mul_le_mul_left _ (roundHalfEven_le (Nat.mul_pos hden (spacing_pos _)) ?_)
  linarith

theorem le_nearestUnits_of_dvd {num den n : Nat} (hden : 0 < den)
    (hgrid : spacing (num / den) ∣ n) (h : n * den ≤ num) : n ≤ nearestUnits num den := by
  obtain ⟨k, rfl⟩ := hgrid
  rw [nearestUnits_eq, Nat.mul_comm (roundHalfEven _ _)]
  refine Nat.mul_le_mul_left _ (le_roundHalfEven (Nat.mul_pos hden (spacing_pos _)) ?_)
  linarith

theorem div_le_div_of_cross {num den num' den' : Nat} (hden : 0 < den) (hden' : 0 < den')
    (h : num * den' ≤ num' * den) : num / den ≤ num' / den' := by
  rw [Nat.le_div_iff_mul_le hden']
  refine Nat.le_of_mul_le_mul_right (c := den) ?_ hden
  have hfloor := Nat.mul_le_mul_right den' (Nat.div_mul_le_self num den)
  linarith

/-- Quotients in different binades have a power of two between them that is on the grid of both. -/
theorem exists_between {m n : Nat} (h : spacing m < spacing n) :
    ∃ k, m < 2 ^ k ∧ 2 ^ k ≤ n ∧ spacing m ∣ 2 ^ k ∧ spacing n ∣ 2 ^ k := by
  simp only [spacing, Nat.one_shiftLeft] at h ⊢
  have hlog : m.log2 - 52 < n.log2 - 52 := (Nat.pow_lt_pow_iff_right (by decide)).1 h
  have hn : n ≠ 0 := by
    rintro rfl
    simp at hlog
  refine ⟨n.log2, ?_, Nat.log2_self_le hn, Nat.pow_dvd_pow 2 (by omega),
    Nat.pow_dvd_pow 2 (by omega)⟩
  exact Nat.lt_of_lt_of_le Nat.lt_log2_self (Nat.pow_le_pow_right (by decide) (by omega))

theorem spacing_mono {m n : Nat} (h : m ≤ n) : spacing m ≤ spacing n := by
  have hlog : m.log2 ≤ n.log2 := by
    rcases Nat.eq_zero_or_pos m with rfl | hm
    · simp
    · exact (Nat.le_log2 (by omega)).2 (Nat.le_trans (Nat.log2_self_le (by omega)) h)
  rw [spacing, spacing, Nat.one_shiftLeft, Nat.one_shiftLeft]
  exact Nat.pow_le_pow_right (by decide) (by omega)

/-- A quotient that is not greater is not rounded to a greater double. -/
theorem nearestUnits_mono {num den num' den' : Nat} (hden : 0 < den) (hden' : 0 < den')
    (h : num * den' ≤ num' * den) : nearestUnits num den ≤ nearestUnits num' den' := by
  have hfloor := div_le_div_of_cross hden hden' h
  rcases Nat.eq_or_lt_of_le (spacing_mono hfloor) with hsame | hless
  · rw [nearestUnits_eq, nearestUnits_eq, hsame]
    refine Nat.mul_le_mul_right _ (roundHalfEven_mono ?_ ?_ ?_)
    · exact Nat.mul_pos hden (spacing_pos _)
    · exact Nat.mul_pos hden' (spacing_pos _)
    · linarith [Nat.mul_le_mul_right (spacing (num' / den')) h]
  · obtain ⟨k, hbelow, habove, hgrid, hgrid'⟩ := exists_between hless
    calc nearestUnits num den ≤ 2 ^ k := by
          refine nearestUnits_le_of_dvd hden hgrid ?_
          exact Nat.le_of_lt ((Nat.div_lt_iff_lt_mul hden).1 hbelow)
      _ ≤ nearestUnits num' den' := by
          refine le_nearestUnits_of_dvd hden' hgrid' ?_
          exact (Nat.le_div_iff_mul_le hden').1 habove

/-- A double that is not below the quotient is not passed. -/
theorem nearestUnits_le {num den n : Nat} (hden : 0 < den) (hn : Representable n)
    (h : num ≤ n * den) : nearestUnits num den ≤ n := by
  calc nearestUnits num den ≤ nearestUnits n 1 := nearestUnits_mono hden Nat.one_pos (by omega)
    _ = n := nearestUnits_of_representable hn

/-! ## How far it moves -/

/-- The grid around a magnitude is as wide as the last of its 53 bits, or as one unit. -/
theorem spacing_mul_le (n : Nat) : spacing n * 2 ^ 52 ≤ n + 2 ^ 52 := by
  rw [spacing, Nat.one_shiftLeft]
  rcases Nat.lt_or_ge n.log2 52 with hlow | hhigh
  · rw [Nat.sub_eq_zero_of_le (Nat.le_of_lt hlow)]
    omega
  · have hn : n ≠ 0 := by
      rintro rfl
      simp at hhigh
    rw [← Nat.pow_add, Nat.sub_add_cancel hhigh]
    exact Nat.le_trans (Nat.log2_self_le hn) (Nat.le_add_right _ _)

/-- The error of a rounding is at most one part in `2⁵³` of the quotient, and half a unit. -/
theorem abs_nearestUnits_sub_le (num : Nat) {den : Nat} (hden : 0 < den) :
    |(nearestUnits num den : ℚ) - num / den| ≤ num / den / 2 ^ 53 + 1 / 2 := by
  have hpos : (0 : ℚ) < den := Nat.cast_pos.2 hden
  obtain ⟨q, hq⟩ : ∃ q : ℚ, q = num / den := ⟨_, rfl⟩
  have hnum : (num : ℚ) = q * den := by rw [hq, div_mul_cancel₀ _ hpos.ne']
  have hwidth : (spacing (num / den) : ℚ) * 2 ^ 52 ≤ q + 2 ^ 52 := by
    have hfloor : ((num / den : ℕ) : ℚ) ≤ q := hq ▸ Nat.cast_div_le
    have hgrid : (spacing (num / den) : ℚ) * 2 ^ 52 ≤ (num / den : ℕ) + 2 ^ 52 := by
      exact_mod_cast spacing_mul_le (num / den)
    linarith
  -- it lies within half a width of the grid
  obtain ⟨hup, hdown⟩ :=
    roundHalfEven_near num (Nat.mul_pos hden (spacing_pos (num / den)))
  rw [nearestUnits_eq, ← hq, Nat.cast_mul]
  generalize roundHalfEven num (den * spacing (num / den)) = r at *
  generalize spacing (num / den) = s at *
  have hup' : 2 * (r * s : ℚ) ≤ 2 * q + s := by
    refine le_of_mul_le_mul_right ?_ hpos
    have hcast : (2 * (r * (den * s)) : ℚ) ≤ 2 * num + den * s := by exact_mod_cast hup
    rw [hnum] at hcast
    linarith
  have hdown' : 2 * q ≤ 2 * (r * s : ℚ) + s := by
    refine le_of_mul_le_mul_right ?_ hpos
    have hcast : (2 * num : ℚ) ≤ 2 * (r * (den * s)) + den * s := by exact_mod_cast hdown
    rw [hnum] at hcast
    linarith
  rw [abs_le]
  constructor <;> linarith

end GpuMonitor
