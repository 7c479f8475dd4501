import GpuMonitor.Binary64

/-!
# The word of a double

Every double has a word, from which it is read back. A word is taken apart into its sign bit, its
eleven exponent bits and its fraction; the word of a finite double has the sign of the double, and
the exponent and the fraction of its magnitude.

* `HasFields`: the parts of a word. `hasFields_of_toNat`: those of a word given as a sum.
* `Magnitude.Encoded`: the exponent and the fraction that stand for a magnitude.
* `ofBits_toBits`: a double is read back from its word. `toBits_injective`: so no two doubles have
  the same word.
* `sign_of_ofBits`, `sign_toBits`: the sign of a finite double is the first bit of its word.
-/

namespace GpuMonitor

/-! ## Magnitudes -/

/-- The magnitude is written with the exponent and the fraction: a significand of 53 bits, the first
of which is not written, or less than that with the exponent zero. -/
inductive Magnitude.Encoded (m : Magnitude) : Nat → Nat → Prop where
  | subnormal : m.units < 1 <<< 52 → m.Encoded 0 m.units
  | normal {exponent fraction : Nat} : exponent + 1 < 2047 → fraction < 1 <<< 52 →
      m.units = (1 <<< 52 + fraction) <<< exponent → m.Encoded (exponent + 1) fraction

theorem log2_sub_of_lt {n : Nat} (h : n < 1 <<< 52) : n.log2 - 52 = 0 := by
  rcases Nat.eq_zero_or_pos n with rfl | hpos
  · rw [Nat.log2_zero]
  · rw [Nat.one_shiftLeft] at h
    have hlog : n.log2 < 52 := (Nat.log2_lt (Nat.ne_of_gt hpos)).2 h
    omega

/-- The exponents of finite doubles end before the one that is left to infinity. -/
theorem Magnitude.log2_lt (m : Magnitude) (h : 1 <<< 52 ≤ m.units) : m.units.log2 < 2098 := by
  have hfinite : m.units < overflowUnits := m.representable.1
  rw [overflowUnits, Nat.one_shiftLeft] at hfinite
  exact (Nat.log2_lt (by omega)).2 hfinite

/-- A magnitude of at least 53 bits is its first 53 bits, shifted by the number of the others. -/
theorem Magnitude.eq_shiftLeft (m : Magnitude) (h : 1 <<< 52 ≤ m.units) :
    ∃ fraction < 1 <<< 52, m.units >>> (m.units.log2 - 52) = 1 <<< 52 + fraction ∧
      m.units = (1 <<< 52 + fraction) <<< (m.units.log2 - 52) := by
  have hne : m.units ≠ 0 := by omega
  have hlog : 52 ≤ m.units.log2 := (Nat.le_log2 hne).2 (by rwa [← Nat.one_shiftLeft])
  have hlow : 2 ^ m.units.log2 ≤ m.units := Nat.log2_self_le hne
  have hhigh : m.units < 2 ^ (m.units.log2 + 1) := Nat.lt_log2_self
  have hgrid : 2 ^ (m.units.log2 - 52) ∣ m.units := by
    simpa only [spacing, Nat.one_shiftLeft] using m.representable.2
  generalize hk : m.units.log2 - 52 = k at hgrid ⊢
  obtain ⟨r, hr⟩ := hgrid
  have hpos : 0 < 2 ^ k := Nat.two_pow_pos k
  have hlog' : m.units.log2 = k + 52 := by omega
  rw [hlog', hr, Nat.pow_add] at hlow
  rw [hlog', hr, Nat.add_assoc, Nat.pow_add] at hhigh
  -- the significand has 53 bits, as the shift is by all the others
  have hge : 2 ^ 52 ≤ r := Nat.le_of_mul_le_mul_left hlow hpos
  have hlt : r < 2 ^ 53 := Nat.lt_of_mul_lt_mul_left hhigh
  obtain ⟨fraction, rfl⟩ : ∃ fraction, r = 1 <<< 52 + fraction :=
    Nat.exists_eq_add_of_le (by rwa [Nat.one_shiftLeft])
  refine ⟨fraction, by omega, ?_, ?_⟩
  · rw [hr, Nat.shiftRight_eq_div_pow, Nat.mul_div_cancel_left _ hpos]
  · rw [hr, Nat.mul_comm, ← Nat.shiftLeft_eq]

/-- The word of a magnitude is the sum of an exponent and a fraction that stand for it. -/
theorem Magnitude.exists_encoded (m : Magnitude) :
    ∃ exponent fraction, m.Encoded exponent fraction ∧
      (m.units.log2 - 52) <<< 52 + m.units >>> (m.units.log2 - 52) =
        exponent <<< 52 + fraction := by
  rcases Nat.lt_or_ge m.units (1 <<< 52) with hlt | hge
  · -- nothing is shifted out of less than 53 bits
    refine ⟨0, m.units, .subnormal hlt, ?_⟩
    rw [log2_sub_of_lt hlt, Nat.shiftRight_zero]
  · -- the first bit of the significand is not masked: it adds one to the exponent
    obtain ⟨fraction, hfraction, hsignificand, hunits⟩ := m.eq_shiftLeft hge
    have hexponent : m.units.log2 - 52 + 1 < 2047 := by
      have hlog := m.log2_lt hge
      omega
    refine ⟨_, fraction, .normal hexponent hfraction hunits, ?_⟩
    rw [hsignificand, Nat.shiftLeft_eq, Nat.shiftLeft_eq]
    omega

namespace Binary64

/-! ## Words -/

/-- The word has the sign bit, the exponent and the fraction. -/
structure HasFields (word : UInt64) (negative : Bool) (exponent fraction : Nat) : Prop where
  sign : negative = true ↔ 1 <<< 63 ≤ word.toNat
  exponent : word.toNat >>> 52 % 1 <<< 11 = exponent
  fraction : word.toNat % 1 <<< 52 = fraction

variable {word : UInt64} {negative : Bool} {exponent fraction : Nat} {m : Magnitude}

theorem hasFields_of_toNat (hexponent : exponent < 1 <<< 11) (hfraction : fraction < 1 <<< 52)
    (h : word.toNat = negative.toNat <<< 63 + (exponent <<< 52 + fraction)) :
    HasFields word negative exponent fraction := by
  rw [Nat.shiftLeft_eq, Nat.shiftLeft_eq] at h
  rw [Nat.one_shiftLeft] at hexponent hfraction
  constructor
  · rw [Nat.one_shiftLeft, h]
    cases negative with
    | false =>
      rw [Bool.toNat_false, Bool.false_eq_true, false_iff]
      omega
    | true =>
      rw [Bool.toNat_true, eq_self_iff_true, true_iff]
      omega
  · rw [Nat.one_shiftLeft, Nat.shiftRight_eq_div_pow, h]
    omega
  · rw [Nat.one_shiftLeft, h]
    omega

/-- A word of a sign and of an exponent and a fraction that stand for a magnitude is that of a
finite double. -/
theorem HasFields.ofBits_eq (h : HasFields word negative exponent fraction)
    (hm : m.Encoded exponent fraction) : ofBits word = finite negative m := by
  obtain ⟨hsign, hexponent, hfraction⟩ := h
  have hsign' : decide (1 <<< 63 ≤ word.toNat) = negative := by
    rw [Bool.eq_iff_iff, decide_eq_true_iff, hsign]
  unfold ofBits
  dsimp only
  cases hm with
  | subnormal hlt =>
    rw [dif_pos (by omega), if_pos hexponent, hsign']
    congr 2
  | normal hlt _ hunits =>
    rw [dif_pos (by omega), if_neg (by omega), hsign']
    congr 2
    rw [hunits, hexponent, hfraction, Nat.add_sub_cancel]

/-- The sign bit is above all others. -/
theorem toNat_sign_or {n : Nat} (h : n < 1 <<< 63) :
    (toBits.sign negative ||| UInt64.ofNat n).toNat = negative.toNat <<< 63 + n := by
  rw [Nat.one_shiftLeft] at h
  have hn : (UInt64.ofNat n).toNat = n := by
    rw [UInt64.toNat_ofNat']
    omega
  rw [UInt64.toNat_or, hn]
  -- an or is a sum where no bit is set in both
  cases negative with
  | false => simp [toBits.sign]
  | true =>
    have hor := Nat.two_pow_add_eq_or_of_lt h 1
    simpa [toBits.sign, Nat.shiftLeft_eq] using hor.symm

theorem hasFields_toBits (negative : Bool) (m : Magnitude) :
    ∃ exponent fraction, m.Encoded exponent fraction ∧
      HasFields (toBits (finite negative m)) negative exponent fraction := by
  obtain ⟨exponent, fraction, hm, hsum⟩ := m.exists_encoded
  have hbounds : exponent < 1 <<< 11 ∧ fraction < 1 <<< 52 := by
    cases hm with
    | subnormal hlt => exact ⟨by decide, hlt⟩
    | normal hlt hfraction _ => exact ⟨by omega, hfraction⟩
  refine ⟨exponent, fraction, hm, hasFields_of_toNat hbounds.1 hbounds.2 ?_⟩
  rw [toBits, hsum, toNat_sign_or]
  rw [Nat.shiftLeft_eq]
  omega

theorem ofBits_toBits_finite (negative : Bool) (m : Magnitude) :
    ofBits (toBits (finite negative m)) = finite negative m := by
  obtain ⟨exponent, fraction, hm, hfields⟩ := hasFields_toBits negative m
  exact hfields.ofBits_eq hm

theorem ofBits_toBits_infinite (negative : Bool) :
    ofBits (toBits (infinite negative)) = infinite negative := by
  cases negative <;> rfl

/-- Every double has a word, from which it is read back. -/
@[simp]
theorem ofBits_toBits (x : Binary64) : ofBits x.toBits = x := by
  cases x with
  | nan => rfl
  | infinite negative => exact ofBits_toBits_infinite negative
  | finite negative m => exact ofBits_toBits_finite negative m

theorem toBits_injective : Function.Injective toBits :=
  Function.LeftInverse.injective ofBits_toBits

/-- The sign of a finite double is the sign bit of its word. -/
theorem sign_of_ofBits (h : ofBits word = finite negative m) :
    negative = true ↔ 1 <<< 63 ≤ word.toNat := by
  -- words of the greatest exponent are not finite; the others take their sign from the first bit
  unfold ofBits at h
  dsimp only at h
  split at h
  · split at h
    · rw [← (finite.inj h).1, decide_eq_true_iff]
    · rw [← (finite.inj h).1, decide_eq_true_iff]
  · split at h <;> cases h

theorem sign_toBits (negative : Bool) (m : Magnitude) :
    negative = true ↔ 1 <<< 63 ≤ (toBits (finite negative m)).toNat :=
  sign_of_ofBits (ofBits_toBits _)

end Binary64
end GpuMonitor
