import GpuMonitor.Utilization

/-!
# Whole numbers as doubles

A whole number of at most 53 bits is a double, so nothing is rounded when it is taken for one, nor
when two of them are added to one that is not greater than `2⁵³`.

* `nearestUnits_of_representable`: a magnitude that is a double's is its own rounding.
* `Binary64.IsNat`: the double is exactly a natural number, and not negative zero.
* `Binary64.isNat_literal`, `Binary64.IsNat.add`, `Binary64.IsNat.above`: literals, sums and
  comparisons.
* `Utilization.isNat_sum`: the sum of channels that are natural numbers.
-/

namespace GpuMonitor

/-- What lies on the grid of the doubles is not moved. -/
theorem nearestUnits_of_representable {n : Nat} (h : Representable n) : nearestUnits n 1 = n := by
  obtain ⟨k, hk⟩ := h.2
  -- it is a whole number of grid steps, so there is no rest to round
  have hn : n = k * spacing n := by rw [Nat.mul_comm, ← hk]
  have hround : roundHalfEven n (spacing n) = k := by
    conv => lhs; arg 1; rw [hn]
    exact roundHalfEven_mul k (spacing_pos n)
  rw [nearestUnits, Nat.div_one, Nat.one_mul, hround, ← hn]

theorem shiftLeft_lt_of_le {n k l : Nat} (hn : n ≤ 1 <<< 53) (hkl : 53 + k < l) :
    n <<< k < 1 <<< l := by
  rw [Nat.one_shiftLeft] at hn
  calc n <<< k = n * 2 ^ k := Nat.shiftLeft_eq ..
    _ ≤ 2 ^ 53 * 2 ^ k := Nat.mul_le_mul_right _ hn
    _ = 2 ^ (53 + k) := (Nat.pow_add 2 53 k).symm
    _ < 2 ^ l := Nat.pow_lt_pow_right (by omega) hkl
    _ = 1 <<< l := (Nat.one_shiftLeft l).symm

/-- A whole number of at most 53 bits is on the grid of the doubles. -/
theorem representable_whole {n : Nat} (hn : n ≤ 1 <<< 53) : Representable (n * unitsInOne) := by
  -- the unit is 2 ^ -1074, so the number is shifted by that much
  have hshift (k : Nat) : n * 1 <<< k = n <<< k := by rw [Nat.one_shiftLeft, Nat.shiftLeft_eq]
  rw [unitsInOne, hshift 1074]
  exact representable_shiftLeft hn (shiftLeft_lt_of_le hn (by omega))

namespace Binary64

/-- The double is exactly the natural number. Negative zero is not the number 0. -/
def IsNat (x : Binary64) (n : Nat) : Prop := ∃ h, x = finite false ⟨n * unitsInOne, h⟩

theorem rounded_of_representable {n : Nat} (h : Representable n) :
    rounded false n 1 = finite false ⟨n, h⟩ := by
  have hn := nearestUnits_of_representable h
  simp only [rounded, hn, dif_pos h.1]

theorem isNat_ofNat {n : Nat} (hn : n ≤ 1 <<< 53) : (ofNat n).IsNat n := by
  have h := representable_whole hn
  have hrounded := rounded_of_representable h
  refine ⟨h, ?_⟩
  rw [ofNat]
  exact hrounded

theorem isNat_literal {n : Nat} (hn : n ≤ 1 <<< 53) : (OfNat.ofNat n : Binary64).IsNat n :=
  isNat_ofNat hn

theorem add_finite (x y : Magnitude) :
    finite false x + finite false y = rounded false (x.units + y.units) 1 := by
  change add (finite false x) (finite false y) = _
  rw [add, if_pos rfl]

theorem above_finite (x y : Magnitude) :
    (finite false x).above (finite false y) = decide (y.units < x.units) := by
  rw [above]

variable {x y : Binary64} {m n : Nat}

/-- A natural number is a double in one way. -/
theorem IsNat.eq (hx : x.IsNat n) (hy : y.IsNat n) : x = y := by
  obtain ⟨_, rfl⟩ := hx
  obtain ⟨_, rfl⟩ := hy
  rfl

/-- Adding is exact as long as the sum has at most 53 bits. -/
theorem IsNat.add (hx : x.IsNat m) (hy : y.IsNat n) (hsum : m + n ≤ 1 <<< 53) :
    (x + y).IsNat (m + n) := by
  obtain ⟨_, rfl⟩ := hx
  obtain ⟨_, rfl⟩ := hy
  have h := representable_whole hsum
  have hrounded := rounded_of_representable h
  refine ⟨h, ?_⟩
  rw [add_finite]
  simp only [← Nat.add_mul]
  exact hrounded

theorem IsNat.above (hx : x.IsNat m) (hy : y.IsNat n) : x.above y = decide (n < m) := by
  obtain ⟨_, rfl⟩ := hx
  obtain ⟨_, rfl⟩ := hy
  rw [above_finite]
  exact decide_eq_decide.2 (Nat.mul_lt_mul_right unitsInOne_pos)

end Binary64

/-- The sum of the channels is exact as long as it has at most 53 bits. -/
theorem Utilization.isNat_sum {u : Utilization} {r b v e : Nat} (hrender : u.render.IsNat r)
    (hblitter : u.blitter.IsNat b) (hvideo : u.video.IsNat v) (henhance : u.enhance.IsNat e)
    (hbits : r + b + v + e ≤ 1 <<< 53) : u.sum.IsNat (r + b + v + e) := by
  have h₁ := hrender.add hblitter (by omega)
  have h₂ := h₁.add hvideo (by omega)
  exact h₂.add henhance hbits

end GpuMonitor
