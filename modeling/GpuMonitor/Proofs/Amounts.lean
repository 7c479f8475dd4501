import GpuMonitor.Proofs.Nearest

/-!
# Doubles that are not below zero

A finite double that is not below zero is a number of units, and what becomes of such numbers in a
sum, a product or a quotient is one rounding of the exact result. Only that rounding can lead beyond
the finite doubles, and then to positive infinity. Negative zero is as good as zero here.

* `Binary64.IsFinite`, `Binary64.value`: the finite doubles and their exact values.
* `Binary64.IsAmount`: a finite double that is not below zero.
* `Binary64.Counts`: the double is such a one, of some units (`isAmount_iff`).
* `Binary64.Rounds`: the double is what a quotient of units is rounded to.
* `Binary64.Counts.add`, `Binary64.Counts.mul`, `Binary64.Counts.div`: arithmetic.
-/

namespace GpuMonitor

theorem nearestUnits_zero {den : Nat} (hden : 0 < den) : nearestUnits 0 den = 0 := by
  have h : nearestUnits 0 den ≤ 0 := nearestUnits_le hden (by decide) (Nat.zero_le _)
  omega

namespace Binary64

/-- The double is neither NaN nor an infinity. -/
def IsFinite (x : Binary64) : Prop := ∃ negative magnitude, x = finite negative magnitude

/-- The exact value of a finite double. -/
def value : Binary64 → ℚ
  | finite negative m => (if negative then -1 else 1) * (m.units / unitsInOne)
  | _ => 0

/-- The double is finite and not below zero. -/
def IsAmount (x : Binary64) : Prop := x.IsFinite ∧ 0 ≤ x.value

/-- The double has exactly so many units. Only zero can be the negative one here. -/
def Counts (x : Binary64) (n : Nat) : Prop :=
  ∃ negative h, x = finite negative ⟨n, h⟩ ∧ (negative = true → n = 0)

/-- The double is what a quotient of units is rounded to. -/
structure Rounds (x : Binary64) (num den : Nat) : Prop where
  counts : nearestUnits num den < overflowUnits → x.Counts (nearestUnits num den)
  overflows : overflowUnits ≤ nearestUnits num den → x = infinite false

variable {x y : Binary64} {m n : Nat}

theorem not_isFinite_infinite : ¬(infinite false).IsFinite := by
  rintro ⟨_, _, h⟩
  cases h

/-! ## Values -/

theorem unitsInOne_pos' : (0 : ℚ) < unitsInOne := Nat.cast_pos.2 unitsInOne_pos

namespace Counts

theorem representable (h : x.Counts n) : Representable n := by
  obtain ⟨_, hn, -, -⟩ := h
  exact hn

theorem value_eq (h : x.Counts n) : x.value = n / unitsInOne := by
  obtain ⟨negative, hn, rfl, hsign⟩ := h
  cases negative with
  | false => exact one_mul _
  | true =>
    obtain rfl := hsign rfl
    simp [value]

theorem isAmount (h : x.Counts n) : x.IsAmount := by
  refine ⟨?_, ?_⟩
  · obtain ⟨negative, hn, hx, -⟩ := h
    exact ⟨negative, _, hx⟩
  · rw [h.value_eq]
    exact div_nonneg (Nat.cast_nonneg n) unitsInOne_pos'.le

theorem value_le_iff (hx : x.Counts m) (hy : y.Counts n) : x.value ≤ y.value ↔ m ≤ n := by
  rw [hx.value_eq, hy.value_eq, div_le_div_iff_of_pos_right unitsInOne_pos', Nat.cast_le]

end Counts

/-- A finite double is not below zero if and only if it is a number of units. -/
theorem isAmount_iff : x.IsAmount ↔ ∃ n, x.Counts n := by
  refine ⟨?_, fun ⟨n, h⟩ => h.isAmount⟩
  rintro ⟨⟨negative, magnitude, rfl⟩, hvalue⟩
  refine ⟨magnitude.units, negative, magnitude.representable, rfl, ?_⟩
  rintro rfl
  have hquotient : (magnitude.units / unitsInOne : ℚ) ≤ 0 := by
    simpa [value] using hvalue
  have hunits := (div_le_iff₀ unitsInOne_pos').1 hquotient
  rw [zero_mul] at hunits
  exact_mod_cast hunits.antisymm (Nat.cast_nonneg _)

theorem IsNat.counts (h : x.IsNat n) : x.Counts (n * unitsInOne) := by
  obtain ⟨hn, rfl⟩ := h
  exact ⟨false, hn, rfl, nofun⟩

theorem isAmount_literal (hn : n ≤ 1 <<< 53) : (OfNat.ofNat n : Binary64).IsAmount :=
  (isNat_literal hn).counts.isAmount

theorem IsNat.value_eq (h : x.IsNat n) : x.value = n := by
  rw [h.counts.value_eq, Nat.cast_mul, mul_div_cancel_right₀ _ unitsInOne_pos'.ne']

/-! ## Arithmetic -/

theorem rounds_rounded {negative : Bool} {num den : Nat} (hden : 0 < den)
    (hsign : negative = true → num = 0) : (rounded negative num den hden).Rounds num den := by
  have hzero : negative = true → nearestUnits num den = 0 := by
    rintro hnegative
    rw [hsign hnegative, nearestUnits_zero hden]
  constructor
  · intro h
    exact ⟨negative, representable_nearestUnits hden h, dif_pos h, hzero⟩
  · intro h
    rw [rounded, dif_neg (by omega)]
    cases negative with
    | false => rfl
    | true =>
      have hpos : 0 < overflowUnits := by decide
      have := hzero rfl
      omega

namespace Counts

theorem add (hx : x.Counts m) (hy : y.Counts n) : (x + y).Rounds (m + n) 1 := by
  obtain ⟨a, hm, rfl, ha⟩ := hx
  obtain ⟨b, hn, rfl, hb⟩ := hy
  have hrounds {negative : Bool} {num : Nat} (hnum : num = m + n)
      (hsign : negative = true → num = 0) : (rounded negative num 1).Rounds (m + n) 1 :=
    hnum ▸ rounds_rounded Nat.one_pos hsign
  change (Binary64.add _ _).Rounds _ _
  rw [Binary64.add]
  dsimp only
  -- where the signs differ, one of the two is zero
  split
  · next hsame =>
    subst hsame
    refine hrounds rfl fun hsign => ?_
    rw [ha hsign, hb hsign]
  · next hdiffer =>
    have hzero : m = 0 ∧ a = true ∨ n = 0 ∧ b = true := by
      cases a <;> cases b
      · exact absurd rfl hdiffer
      · exact .inr ⟨hb rfl, rfl⟩
      · exact .inl ⟨ha rfl, rfl⟩
      · exact absurd rfl hdiffer
    split
    · exact hrounds (by omega) fun hsign => absurd hsign Bool.false_ne_true
    · split
      · refine hrounds (by omega) fun hsign => ?_
        have := ha hsign
        omega
      · refine hrounds (by omega) fun hsign => ?_
        have := hb hsign
        omega

theorem mul (hx : x.Counts m) (hy : y.Counts n) : (x * y).Rounds (m * n) unitsInOne := by
  obtain ⟨a, hm, rfl, ha⟩ := hx
  obtain ⟨b, hn, rfl, hb⟩ := hy
  refine rounds_rounded unitsInOne_pos fun hsign => ?_
  show m * n = 0
  cases a with
  | true => rw [ha rfl, Nat.zero_mul]
  | false => rw [hb (by simpa using hsign), Nat.mul_zero]

theorem div (hx : x.Counts m) (hy : y.Counts n) (hpos : 0 < n) :
    (x / y).Rounds (m * unitsInOne) n := by
  obtain ⟨a, hm, rfl, ha⟩ := hx
  obtain ⟨b, hn, rfl, hb⟩ := hy
  change (Binary64.div _ _).Rounds _ _
  rw [Binary64.div]
  dsimp only
  rw [dif_neg (by omega)]
  refine rounds_rounded hpos fun hsign => ?_
  cases b with
  | true => exact absurd (hb rfl) (by omega)
  | false => rw [ha (by simpa using hsign), Nat.zero_mul]

/-- An amount added to positive infinity leaves it as it is. -/
theorem infinite_add (hx : x.Counts n) : infinite false + x = infinite false := by
  obtain ⟨_, _, rfl, -⟩ := hx
  rfl

/-- An amount divided by positive infinity is nothing. -/
theorem div_infinite (hx : x.Counts n) (hpos : 0 < n) : (x / infinite false).Counts 0 := by
  obtain ⟨a, hn, rfl, ha⟩ := hx
  have hsign : a = false := by
    cases a with
    | false => rfl
    | true => exact absurd (ha rfl) (by omega)
  subst hsign
  have hzero := nearestUnits_zero Nat.one_pos
  have hrounds : (rounded false 0 1).Rounds 0 1 := rounds_rounded Nat.one_pos nofun
  have hcounts := hrounds.counts (by rw [hzero]; decide)
  rwa [hzero] at hcounts

theorem above_iff (hx : x.Counts m) (hy : y.Counts n) : x.above y = true ↔ n < m := by
  obtain ⟨a, hm, rfl, ha⟩ := hx
  obtain ⟨b, hn, rfl, hb⟩ := hy
  cases a <;> cases b
  · exact decide_eq_true_iff
  · obtain rfl := hb rfl
    simp [above]
  · obtain rfl := ha rfl
    simp [above]
  · obtain rfl := ha rfl
    obtain rfl := hb rfl
    simp [above]

theorem infinite_above (hx : x.Counts n) : (infinite false).above x = true := by
  obtain ⟨_, _, rfl, -⟩ := hx
  rfl

end Counts
end Binary64
end GpuMonitor
