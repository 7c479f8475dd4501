import GpuMonitor.Proofs.Amounts
import GpuMonitor.Utilization

/-!
# Samples that are normalized

A sample of amounts is normalized in one of three ways: it is kept, it is scaled down to 100, or its
sum lies beyond the finite doubles and is divided away. Whichever it is, no channel grows, and none
overtakes another one.

* `Utilization.Counted`: every channel is a number of units.
* `Utilization.roundedSum`: the units of the sum, rounded at each of its steps.
* `Utilization.Normalized`: the three ways (`normalized_of_counted`).

Main result:

* `normalize_shrinks`: what becomes of the channels, the total and the clocks.
-/

namespace GpuMonitor

open Binary64 (Counts IsAmount isAmount_literal isNat_literal)

namespace Utilization

/-- The channels have exactly so many units. -/
def Counted (u : Utilization) (units : Channel → Nat) : Prop :=
  ∀ c, (u.channel c).Counts (units c)

/-- The units of the sum of the channels, each of its steps rounded. -/
def roundedSum (units : Channel → Nat) : Nat :=
  nearestUnits (nearestUnits (nearestUnits (units .render + units .blitter) 1 + units .video) 1 +
    units .enhance) 1

/-- How a sample is normalized. -/
inductive Normalized (u : Utilization) (units : Channel → Nat) : Prop
  /-- The sum is at most 100, and becomes the total. -/
  | kept (hsum : u.sum.Counts (roundedSum units))
      (hlow : roundedSum units ≤ 100 * unitsInOne)
      (hresult : u.normalize = { u with total := u.sum })
  /-- The sum is above 100, and all is scaled down by one factor. -/
  | scaled (hsum : u.sum.Counts (roundedSum units))
      (hhigh : 100 * unitsInOne < roundedSum units)
      (hchannels : u.normalize.Counted fun c =>
        nearestUnits
          (units c * nearestUnits (100 * unitsInOne * unitsInOne) (roundedSum units)) unitsInOne)
      (htotal : u.normalize.total = 100)
  /-- The sum is infinite, and nothing is left of the channels. -/
  | overflown (hsum : u.sum = .infinite false) (hchannels : u.normalize.Counted fun _ => 0)
      (htotal : u.normalize.total = 100)

variable {u : Utilization} {units : Channel → Nat}

/-! ## The sum -/

/-- An amount added to what is an amount or has overflown. -/
theorem add_cases {x y : Binary64} {m n : Nat} (hx : x.Counts m ∨ x = .infinite false)
    (hy : y.Counts n) :
    (x + y).Counts (nearestUnits (m + n) 1) ∨ x + y = .infinite false := by
  rcases hx with hx | rfl
  · rcases Nat.lt_or_ge (nearestUnits (m + n) 1) overflowUnits with hlt | hge
    · exact .inl ((hx.add hy).counts hlt)
    · exact .inr ((hx.add hy).overflows hge)
  · exact .inr hy.infinite_add

theorem sum_cases (h : u.Counted units) :
    u.sum.Counts (roundedSum units) ∨ u.sum = .infinite false := by
  have h₁ := add_cases (.inl (h .render)) (h .blitter)
  have h₂ := add_cases h₁ (h .video)
  exact add_cases h₂ (h .enhance)

/-! ## The three ways -/

theorem hundred_counts : (100 : Binary64).Counts (100 * unitsInOne) :=
  (isNat_literal (n := 100) (by decide)).counts

theorem representable_unitsInOne : Representable unitsInOne := by
  have h := representable_whole (n := 1) (by decide)
  rwa [Nat.one_mul] at h

/-- A sum above 100 makes a factor of at most 1. -/
theorem factor_le {s : Nat} (h : 100 * unitsInOne < s) :
    nearestUnits (100 * unitsInOne * unitsInOne) s ≤ unitsInOne := by
  refine nearestUnits_le (by omega) representable_unitsInOne ?_
  rw [Nat.mul_comm unitsInOne]
  exact Nat.mul_le_mul_right _ (Nat.le_of_lt h)

/-- A factor of at most 1 makes no double greater. -/
theorem scaled_le {n k : Nat} (hn : Representable n) (hk : k ≤ unitsInOne) :
    nearestUnits (n * k) unitsInOne ≤ n :=
  nearestUnits_le unitsInOne_pos hn (Nat.mul_le_mul_left n hk)

theorem channel_scaled (u : Utilization) (factor total : Binary64) (c : Channel) :
    ({ u.scaled factor with total } : Utilization).channel c = u.channel c * factor := by
  cases c <;> rfl

/-- The channels after a multiplication by a factor of at most 1. -/
theorem counted_scaled (h : u.Counted units) {factor : Binary64} {k : Nat}
    (hfactor : factor.Counts k) (hk : k ≤ unitsInOne) (total : Binary64) :
    ({ u.scaled factor with total } : Utilization).Counted fun c =>
      nearestUnits (units c * k) unitsInOne := by
  intro c
  rw [channel_scaled]
  have hle := scaled_le (h c).representable hk
  exact ((h c).mul hfactor).counts (Nat.lt_of_le_of_lt hle (h c).representable.1)

theorem normalized_of_counted (h : u.Counted units) : u.Normalized units := by
  -- the comparison with 100 tells the first two ways apart, and an infinite sum passes it too
  rcases sum_cases h with hsum | hsum
  · by_cases hhigh : 100 * unitsInOne < roundedSum units
    · have habove : u.sum.above 100 = true := (hsum.above_iff hundred_counts).2 hhigh
      -- neither the factor nor the products can overflow, as none is above what it came from
      have hle := factor_le hhigh
      have hfactor : (100 / u.sum).Counts
          (nearestUnits (100 * unitsInOne * unitsInOne) (roundedSum units)) := by
        refine (hundred_counts.div hsum (by omega)).counts ?_
        exact Nat.lt_of_le_of_lt hle representable_unitsInOne.1
      have hresult : u.normalize = { u.scaled (100 / u.sum) with total := 100 } := if_pos habove
      refine .scaled hsum hhigh ?_ (by rw [hresult])
      rw [hresult]
      exact counted_scaled h hfactor hle 100
    · have hbelow : ¬u.sum.above 100 = true := mt (hsum.above_iff hundred_counts).1 hhigh
      exact .kept hsum (by omega) (if_neg hbelow)
  · have habove : u.sum.above 100 = true := by
      rw [hsum]
      exact hundred_counts.infinite_above
    have hfactor : (100 / u.sum).Counts 0 := by
      rw [hsum]
      exact hundred_counts.div_infinite (Nat.mul_pos (by decide) unitsInOne_pos)
    have hresult : u.normalize = { u.scaled (100 / u.sum) with total := 100 } := if_pos habove
    refine .overflown hsum ?_ (by rw [hresult])
    have hcounted := counted_scaled h hfactor (Nat.zero_le _) 100
    simp only [Nat.mul_zero, nearestUnits_zero unitsInOne_pos] at hcounted
    rwa [hresult]

/-! ## Channels and total -/

theorem isAmount_channel (hrender : u.render.IsAmount) (hblitter : u.blitter.IsAmount)
    (hvideo : u.video.IsAmount) (henhance : u.enhance.IsAmount) (c : Channel) :
    (u.channel c).IsAmount := by
  cases c with
  | render => exact hrender
  | blitter => exact hblitter
  | video => exact hvideo
  | enhance => exact henhance

/-- Only the channels tell what is normalized, and the clocks are left as they are. -/
theorem normalize_with (u : Utilization) (total : Binary64) (timestamps : Option Timestamps) :
    ({ u with total, timestamps } : Utilization).normalize = { u.normalize with timestamps } := by
  have hsum : ({ u with total, timestamps } : Utilization).sum = u.sum := rfl
  rw [normalize, normalize, hsum]
  cases u.sum.above 100 <;> rfl

/-- No channel grows, and none overtakes another one. -/
theorem exists_counted_normalize (h : u.Counted units) :
    ∃ units', u.normalize.Counted units' ∧ (∀ c, units' c ≤ units c) ∧
      ∀ c c', units c ≤ units c' → units' c ≤ units' c' := by
  cases normalized_of_counted h with
  | kept _ _ hresult =>
    refine ⟨units, ?_, fun _ => Nat.le_refl _, fun _ _ hle => hle⟩
    rw [hresult]
    intro c
    cases c <;> exact h _
  | scaled _ hhigh hchannels _ =>
    refine ⟨_, hchannels, fun c => ?_, fun c c' hle => ?_⟩
    · exact scaled_le (h c).representable (factor_le hhigh)
    · refine nearestUnits_mono unitsInOne_pos unitsInOne_pos ?_
      exact Nat.mul_le_mul_right _ (Nat.mul_le_mul_right _ hle)
  | overflown _ hchannels _ =>
    exact ⟨_, hchannels, fun _ => Nat.zero_le _, fun _ _ _ => Nat.le_refl _⟩

theorem exists_counts_total (h : u.Counted units) :
    ∃ t ≤ 100 * unitsInOne, u.normalize.total.Counts t := by
  cases normalized_of_counted h with
  | kept hsum hlow hresult =>
    refine ⟨_, hlow, ?_⟩
    rw [hresult]
    exact hsum
  | scaled _ _ _ htotal =>
    refine ⟨_, Nat.le_refl _, ?_⟩
    rw [htotal]
    exact hundred_counts
  | overflown _ _ htotal =>
    refine ⟨_, Nat.le_refl _, ?_⟩
    rw [htotal]
    exact hundred_counts

theorem value_le_hundred_iff {x : Binary64} {n : Nat} (hx : x.Counts n) :
    x.value ≤ 100 ↔ n ≤ 100 * unitsInOne := by
  rw [hx.value_eq, div_le_iff₀ Binary64.unitsInOne_pos']
  exact_mod_cast Iff.rfl

/-- A sum of at most 100 is the total, and nothing else is changed. -/
theorem normalize_of_sum_le (h : u.Counted units) (hfinite : u.sum.IsFinite)
    (hlow : u.sum.value ≤ 100) : u.normalize = { u with total := u.sum } := by
  cases normalized_of_counted h with
  | kept _ _ hresult => exact hresult
  | scaled hsum hhigh _ _ => exact absurd ((value_le_hundred_iff hsum).1 hlow) (by omega)
  | overflown hsum _ _ => exact absurd (hsum ▸ hfinite) Binary64.not_isFinite_infinite

end Utilization

/--
**Normalizing only shrinks.** Of every sample whose channels are finite and not below zero, whatever
total and clocks it comes with:

* every channel is finite and not below zero afterwards, and not greater than before;
* a channel that was not greater than another one is not greater afterwards;
* the total is finite, not below zero and at most 100, and the clocks are the same;
* a sum of at most 100, rounded at each of its steps, becomes the total, and no channel is changed;
* the total of before makes no difference.
-/
theorem normalize_shrinks (u : Utilization) (h : ∀ c, (u.channel c).IsAmount) :
    (∀ c, (u.normalize.channel c).IsAmount ∧
      (u.normalize.channel c).value ≤ (u.channel c).value) ∧
    (∀ c c', (u.channel c).value ≤ (u.channel c').value →
      (u.normalize.channel c).value ≤ (u.normalize.channel c').value) ∧
    (u.normalize.total.IsAmount ∧ u.normalize.total.value ≤ 100) ∧
    u.normalize.timestamps = u.timestamps ∧
    (u.sum.IsFinite → u.sum.value ≤ 100 →
      (∀ c, u.normalize.channel c = u.channel c) ∧ u.normalize.total = u.sum) ∧
    ∀ total, ({ u with total } : Utilization).normalize = u.normalize := by
  choose units hunits using fun c => Binary64.isAmount_iff.1 (h c)
  obtain ⟨units', hunits', hshrinks, horder⟩ := Utilization.exists_counted_normalize hunits
  obtain ⟨t, htotal, htotal'⟩ := Utilization.exists_counts_total hunits
  have hclocks : u.normalize.timestamps = u.timestamps := by
    rw [u.normalize_with u.total u.timestamps]
  refine ⟨fun c => ⟨(hunits' c).isAmount, ?_⟩, fun c c' hle => ?_, ⟨htotal'.isAmount, ?_⟩, hclocks,
    fun hfinite hlow => ?_, fun total => ?_⟩
  · exact ((hunits' c).value_le_iff (hunits c)).2 (hshrinks c)
  · have hle' := ((hunits c).value_le_iff (hunits c')).1 hle
    exact ((hunits' c).value_le_iff (hunits' c')).2 (horder c c' hle')
  · exact (Utilization.value_le_hundred_iff htotal').2 htotal
  · rw [Utilization.normalize_of_sum_le hunits hfinite hlow]
    refine ⟨fun c => ?_, rfl⟩
    cases c <;> rfl
  · rw [u.normalize_with total u.timestamps, ← hclocks]

/-- Three channels that come to 110 are scaled down in their order, and three that come to 100 stay
as they are. -/
theorem normalize_shrinks_crowded :
    let crowded : Utilization := { render := 70, blitter := 20, video := 20, total := .nan }
    let full : Utilization := { render := 50, blitter := 25, video := 25, total := 7 }
    (crowded.normalize.render.value ≤ 70 ∧
      crowded.normalize.blitter.value ≤ crowded.normalize.render.value ∧
      crowded.normalize.total.value ≤ 100) ∧
    full.normalize.render = 50 ∧ full.normalize.total = full.sum := by
  intro crowded full
  have h₀ : (0 : Binary64).IsAmount := isAmount_literal (by decide)
  have h₂₀ : (20 : Binary64).IsAmount := isAmount_literal (by decide)
  have h₂₅ : (25 : Binary64).IsAmount := isAmount_literal (by decide)
  have h₅₀ : (50 : Binary64).IsAmount := isAmount_literal (by decide)
  have h₇₀ : (70 : Binary64).IsAmount := isAmount_literal (by decide)
  have hcrowded := Utilization.isAmount_channel (u := crowded) h₇₀ h₂₀ h₂₀ h₀
  have hfull := Utilization.isAmount_channel (u := full) h₅₀ h₂₅ h₂₅ h₀
  have hsum : full.sum.IsNat (50 + 25 + 25 + 0) :=
    Utilization.isNat_sum (isNat_literal (by decide)) (isNat_literal (by decide))
      (isNat_literal (by decide)) (isNat_literal (by decide)) (by decide)
  obtain ⟨hshrinks, horder, ⟨-, htotal⟩, -, -, -⟩ := normalize_shrinks crowded hcrowded
  obtain ⟨-, -, -, -, hkept, -⟩ := normalize_shrinks full hfull
  have hhundred : full.sum.value ≤ 100 := by
    rw [hsum.value_eq]
    norm_num
  obtain ⟨hchannels, htotal'⟩ := hkept hsum.counts.isAmount.1 hhundred
  have hrender : crowded.render.value = 70 := by
    exact_mod_cast (isNat_literal (n := 70) (by decide)).value_eq
  have hblitter : crowded.blitter.value = 20 := by
    exact_mod_cast (isNat_literal (n := 20) (by decide)).value_eq
  refine ⟨⟨?_, horder .blitter .render ?_, htotal⟩, hchannels .render, htotal'⟩
  · rw [← hrender]
    exact (hshrinks .render).2
  · show crowded.blitter.value ≤ crowded.render.value
    rw [hrender, hblitter]
    norm_num

end GpuMonitor
