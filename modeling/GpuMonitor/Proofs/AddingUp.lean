import GpuMonitor.Proofs.Normalizing
import Mathlib.Tactic.FieldSimp

/-!
# Channels and their total

The channels of a normalized sample add up to its total as nearly as rounding allows, as long as
their sum before was a finite double. Each step of the sum, the factor and each product is off by
one part in `2⁵³`; that comes to far less than a billionth of a percent. A sum that is infinite is
divided away instead, and a total of 100 is left over channels that are all zero.

* `Utilization.AddsUp`: the channels add up to the total to within a billionth.
* `abs_roundedSum_sub_le`, `abs_factor_sub_le`, `abs_scaledSum_sub_le`: how far the sum, the factor
  and the products are off.

Main result:

* `addsUp_iff_sum_finite`: a normalized sample adds up if and only if the sum of its channels before
  is finite.
-/

namespace GpuMonitor
namespace Utilization

/-- All is finite, and the exact sum of the channels is the total to within a billionth. -/
structure AddsUp (u : Utilization) : Prop where
  channels : ∀ c, (u.channel c).IsFinite
  total : u.total.IsFinite
  near : |u.render.value + u.blitter.value + u.video.value + u.enhance.value - u.total.value| ≤
    1 / 10 ^ 9

/-- The units of all channels together. -/
def units (n : Channel → Nat) : ℚ := n .render + n .blitter + n .video + n .enhance

variable {u : Utilization} {n : Channel → Nat}

/-! ## The unit -/

theorem unitsInOne_large : (2 : ℚ) ^ 60 ≤ unitsInOne := by
  have h : 2 ^ 60 ≤ unitsInOne := by decide +kernel
  exact_mod_cast h

/-- What is below the overflow is below the square of one, and far so. -/
theorem overflowUnits_mul : overflowUnits * 2 ^ 50 = unitsInOne * unitsInOne := by
  decide +kernel

/-! ## Errors -/

/-- The error of a step of the sum. -/
theorem abs_nearest_sub_le (k : Nat) :
    |(nearestUnits k 1 : ℚ) - k| ≤ k / 2 ^ 53 + 1 / 2 := by
  have h := abs_nearestUnits_sub_le k Nat.one_pos
  simpa using h

theorem abs_roundedSum_sub_le (n : Channel → Nat) :
    |(roundedSum n : ℚ) - units n| ≤ units n / 2 ^ 50 + 2 := by
  have h₁ := abs_nearest_sub_le (n .render + n .blitter)
  have h₂ := abs_nearest_sub_le (nearestUnits (n .render + n .blitter) 1 + n .video)
  have h₃ := abs_nearest_sub_le
    (nearestUnits (nearestUnits (n .render + n .blitter) 1 + n .video) 1 + n .enhance)
  have hpos (c : Channel) : (0 : ℚ) ≤ n c := Nat.cast_nonneg _
  have hr := hpos .render
  have hb := hpos .blitter
  have hv := hpos .video
  have he := hpos .enhance
  rw [roundedSum, units]
  push_cast at h₁ h₂ h₃ ⊢
  -- each step rounds what the steps before have left, so that the three errors only add up
  generalize (nearestUnits (nearestUnits (nearestUnits (n .render + n .blitter) 1 + n .video) 1 +
    n .enhance) 1 : ℚ) = s₃ at *
  generalize (nearestUnits (nearestUnits (n .render + n .blitter) 1 + n .video) 1 : ℚ) = s₂ at *
  generalize (nearestUnits (n .render + n .blitter) 1 : ℚ) = s₁ at *
  rw [abs_le] at h₁ h₂ h₃ ⊢
  constructor <;> linarith

/-- The factor brings the sum to 100, but for its rounding. -/
theorem abs_factor_sub_le {s : Nat} (hpos : 0 < s) (hs : s < overflowUnits) :
    |(s * nearestUnits (100 * unitsInOne * unitsInOne) s / unitsInOne : ℚ) - 100 * unitsInOne| ≤
      unitsInOne / 2 ^ 40 := by
  have hsum : (0 : ℚ) < s := Nat.cast_pos.2 hpos
  have hone := Binary64.unitsInOne_pos'
  have hnear := abs_nearestUnits_sub_le (100 * unitsInOne * unitsInOne) hpos
  push_cast at hnear
  generalize (nearestUnits (100 * unitsInOne * unitsInOne) s : ℚ) = k at *
  -- the sum is so far below the square of one that half a unit of the factor makes no difference
  have hhalf : (s : ℚ) / unitsInOne ≤ unitsInOne / 2 ^ 50 := by
    have hle : (s * 2 ^ 50 : ℚ) ≤ unitsInOne * unitsInOne := by
      have hnat : s * 2 ^ 50 ≤ unitsInOne * unitsInOne := by
        rw [← overflowUnits_mul]
        exact Nat.mul_le_mul_right _ (Nat.le_of_lt hs)
      exact_mod_cast hnat
    rw [div_le_div_iff₀ hone (by norm_num)]
    exact hle
  generalize (unitsInOne : ℚ) = one at *
  have hproduct : s * k / one - 100 * one = (k - 100 * one * one / s) * (s / one) := by
    field_simp
  calc |s * k / one - 100 * one|
      = |k - 100 * one * one / s| * (s / one) := by
        rw [hproduct, abs_mul, abs_of_pos (div_pos hsum hone)]
    _ ≤ (100 * one * one / s / 2 ^ 53 + 1 / 2) * (s / one) :=
        mul_le_mul_of_nonneg_right hnear (div_pos hsum hone).le
    _ = 100 * one / 2 ^ 53 + s / one / 2 := by field_simp
    _ ≤ one / 2 ^ 40 := by linarith

/-- A factor of at most 1 does not make the error of the sum greater. -/
theorem abs_scaled_sub_le (n : Channel → Nat) {k : Nat} (hk : k ≤ unitsInOne) :
    |(units n * k / unitsInOne : ℚ) - roundedSum n * k / unitsInOne| ≤
      units n * k / unitsInOne / 2 ^ 50 + 2 := by
  have hone := Binary64.unitsInOne_pos'
  obtain ⟨f, hf⟩ : ∃ f : ℚ, f = k / unitsInOne := ⟨_, rfl⟩
  have hnonneg : 0 ≤ f := hf ▸ div_nonneg (Nat.cast_nonneg k) hone.le
  have hle : f ≤ 1 := by
    rw [hf, div_le_one hone]
    exact Nat.cast_le.2 hk
  obtain ⟨hlow, hhigh⟩ := abs_le.1 (abs_roundedSum_sub_le n)
  have hlow' := mul_le_mul_of_nonneg_right hlow hnonneg
  have hhigh' := mul_le_mul_of_nonneg_right hhigh hnonneg
  rw [mul_div_assoc, mul_div_assoc, ← hf, abs_le]
  constructor <;> linarith

/-- The products add up to the product of the sum, but for their roundings. -/
theorem abs_scaledSum_sub_le (n : Channel → Nat) (k : Nat) :
    |units (fun c => nearestUnits (n c * k) unitsInOne) - units n * k / unitsInOne| ≤
      units n * k / unitsInOne / 2 ^ 53 + 2 := by
  have hnear (c : Channel) : |(nearestUnits (n c * k) unitsInOne : ℚ) - n c * k / unitsInOne| ≤
      n c * k / unitsInOne / 2 ^ 53 + 1 / 2 := by
    have h := abs_nearestUnits_sub_le (n c * k) unitsInOne_pos
    push_cast at h
    exact h
  have hr := abs_le.1 (hnear .render)
  have hb := abs_le.1 (hnear .blitter)
  have hv := abs_le.1 (hnear .video)
  have he := abs_le.1 (hnear .enhance)
  have hsplit : units n * k / unitsInOne = n .render * k / unitsInOne +
      n .blitter * k / unitsInOne + n .video * k / unitsInOne + n .enhance * k / unitsInOne := by
    rw [units]
    ring
  rw [hsplit, abs_le]
  simp only [units]
  constructor <;> linarith

/-! ## Samples that are kept, scaled and overflown -/

/-- The values of the channels add up as their units do. -/
theorem addsUp_of_counted (h : u.Counted n) {t : Nat} (ht : u.total.Counts t)
    (hnear : |units n - t| ≤ unitsInOne / 10 ^ 9) : u.AddsUp := by
  have hone := Binary64.unitsInOne_pos'
  refine ⟨fun c => (h c).isAmount.1, ht.isAmount.1, ?_⟩
  have hr := (h .render).value_eq
  have hb := (h .blitter).value_eq
  have hv := (h .video).value_eq
  have he := (h .enhance).value_eq
  simp only [channel] at hr hb hv he
  have hvalue : u.render.value + u.blitter.value + u.video.value + u.enhance.value -
      u.total.value = (units n - t) / unitsInOne := by
    rw [hr, hb, hv, he, ht.value_eq, units]
    ring
  rw [hvalue, abs_div, abs_of_pos hone, div_le_iff₀ hone]
  linarith

theorem addsUp_of_kept (h : u.Counted n) (hsum : u.sum.Counts (roundedSum n))
    (hlow : roundedSum n ≤ 100 * unitsInOne) :
    ({ u with total := u.sum } : Utilization).AddsUp := by
  have hcounted : ({ u with total := u.sum } : Utilization).Counted n := fun c => by
    cases c <;> exact h _
  refine addsUp_of_counted hcounted hsum ?_
  -- below 100, one part in `2⁵⁰` is far less than a billionth
  have herror := abs_le.1 (abs_roundedSum_sub_le n)
  have hlow' : (roundedSum n : ℚ) ≤ 100 * unitsInOne := by exact_mod_cast hlow
  have hlarge := unitsInOne_large
  rw [abs_le]
  constructor <;> linarith

theorem addsUp_of_scaled (hsum : u.sum.Counts (roundedSum n))
    (hhigh : 100 * unitsInOne < roundedSum n)
    (hchannels : u.normalize.Counted fun c =>
      nearestUnits (n c * nearestUnits (100 * unitsInOne * unitsInOne) (roundedSum n)) unitsInOne)
    (htotal : u.normalize.total = 100) : u.normalize.AddsUp := by
  have ht : u.normalize.total.Counts (100 * unitsInOne) := by
    rw [htotal]
    exact hundred_counts
  refine addsUp_of_counted hchannels ht ?_
  have hfactor := abs_le.1 (abs_factor_sub_le (by omega) hsum.representable.1)
  have hscaled := abs_le.1 (abs_scaled_sub_le n (factor_le hhigh))
  have hproducts := abs_le.1 (abs_scaledSum_sub_le n
    (nearestUnits (100 * unitsInOne * unitsInOne) (roundedSum n)))
  have hlarge := unitsInOne_large
  -- from the products to the product of the exact sum, then of the rounded one, and then to 100
  push_cast
  rw [abs_le]
  constructor <;> linarith

/-- Nothing is left of the channels under a total of 100. -/
theorem not_addsUp_of_overflown (hchannels : u.Counted fun _ => 0) (htotal : u.total = 100) :
    (∀ c, (u.channel c).value = 0) ∧ ¬u.AddsUp := by
  have hzero (c : Channel) : (u.channel c).value = 0 := by
    rw [(hchannels c).value_eq, Nat.cast_zero, zero_div]
  refine ⟨hzero, fun hadds => ?_⟩
  have hhundred : u.total.value = 100 := by
    rw [htotal]
    exact_mod_cast (Binary64.isNat_literal (n := 100) (by decide)).value_eq
  have hr : u.render.value = 0 := hzero .render
  have hb : u.blitter.value = 0 := hzero .blitter
  have hv : u.video.value = 0 := hzero .video
  have he : u.enhance.value = 0 := hzero .enhance
  have hnear := hadds.near
  rw [hr, hb, hv, he, hhundred] at hnear
  norm_num at hnear

theorem normalize_addsUp_iff (hamount : ∀ c, (u.channel c).IsAmount) :
    (u.normalize.AddsUp ↔ u.sum.IsFinite) ∧
      (¬u.sum.IsFinite → (∀ c, (u.normalize.channel c).value = 0) ∧ u.normalize.total = 100) := by
  choose n h using fun c => Binary64.isAmount_iff.1 (hamount c)
  cases normalized_of_counted h with
  | kept hsum hlow hresult =>
    have hfinite := hsum.isAmount.1
    rw [hresult]
    exact ⟨iff_of_true (addsUp_of_kept h hsum hlow) hfinite,
      fun hinfinite => absurd hfinite hinfinite⟩
  | scaled hsum hhigh hchannels htotal =>
    have hfinite := hsum.isAmount.1
    exact ⟨iff_of_true (addsUp_of_scaled hsum hhigh hchannels htotal) hfinite,
      fun hinfinite => absurd hfinite hinfinite⟩
  | overflown hsum hchannels htotal =>
    obtain ⟨hzero, hnot⟩ := not_addsUp_of_overflown hchannels htotal
    have hinfinite : ¬u.sum.IsFinite := by
      rw [hsum]
      exact Binary64.not_isFinite_infinite
    exact ⟨iff_of_false hnot hinfinite, fun _ => ⟨hzero, htotal⟩⟩

end Utilization

open Binary64 (isAmount_literal isNat_literal)
open Utilization (isAmount_channel ofChannels)

/--
**The channels add up to the total as long as their sum is finite.** Of every four doubles that are
finite and not below zero:

* the normalized sample of them adds up to its total, to within a billionth, if and only if their
  sum, rounded at each of its steps, is finite;
* if it is not, every channel is zero and the total is 100;
* a sample in which these are set, in whatever order and over whatever other values, is normalized
  to the same, and keeps its clocks.
-/
theorem addsUp_iff_sum_finite {render blitter video enhance : Binary64}
    (hrender : render.IsAmount) (hblitter : blitter.IsAmount) (hvideo : video.IsAmount)
    (henhance : enhance.IsAmount) :
    ((ofChannels render blitter video enhance).AddsUp ↔
      (render + blitter + video + enhance).IsFinite) ∧
    (¬(render + blitter + video + enhance).IsFinite →
      (∀ c, ((ofChannels render blitter video enhance).channel c).value = 0) ∧
        (ofChannels render blitter video enhance).total = 100) ∧
    ∀ u : Utilization,
      u.render = render → u.blitter = blitter → u.video = video → u.enhance = enhance →
      u.normalize =
        { ofChannels render blitter video enhance with timestamps := u.timestamps } := by
  have hamount := isAmount_channel (u := { render, blitter, video, enhance }) hrender hblitter
    hvideo henhance
  obtain ⟨hiff, hoverflown⟩ := Utilization.normalize_addsUp_iff hamount
  refine ⟨hiff, hoverflown, ?_⟩
  rintro u rfl rfl rfl rfl
  exact Utilization.normalize_with { u with total := 0, timestamps := none } u.total u.timestamps

/-- Channels that come to 110 add up to 100, set in a sample or not. -/
theorem addsUp_iff_sum_finite_crowded :
    let crowded : Utilization := { render := 70, blitter := 20, video := 20, total := .nan }
    ((70 : Binary64).IsAmount ∧ (20 : Binary64).IsAmount ∧ (0 : Binary64).IsAmount) ∧
      (ofChannels 70 20 20 0).AddsUp ∧
      crowded.normalize = { ofChannels 70 20 20 0 with timestamps := crowded.timestamps } := by
  intro crowded
  have h₇₀ : (70 : Binary64).IsAmount := isAmount_literal (by decide)
  have h₂₀ : (20 : Binary64).IsAmount := isAmount_literal (by decide)
  have h₀ : (0 : Binary64).IsAmount := isAmount_literal (by decide)
  have hsum : crowded.sum.IsNat (70 + 20 + 20 + 0) :=
    Utilization.isNat_sum (isNat_literal (by decide)) (isNat_literal (by decide))
      (isNat_literal (by decide)) (isNat_literal (by decide)) (by decide)
  obtain ⟨hiff, -, hset⟩ := addsUp_iff_sum_finite h₇₀ h₂₀ h₂₀ h₀
  exact ⟨⟨h₇₀, h₂₀, h₀⟩, hiff.2 hsum.counts.isAmount.1, hset crowded rfl rfl rfl rfl⟩

/-- Two channels of `2¹⁰²³` come to more than any finite double: they are both reported as zero,
under a total of 100. -/
theorem not_addsUp_huge :
    let huge := Binary64.ofBits 0x7fe0000000000000
    huge.IsAmount ∧ (0 : Binary64).IsAmount ∧
      (∀ c, ((ofChannels huge huge 0 0).channel c).value = 0) ∧
      (ofChannels huge huge 0 0).total = 100 ∧ ¬(ofChannels huge huge 0 0).AddsUp := by
  intro huge
  have hhuge : huge.Counts (1 <<< 2097) := ⟨false, by decide +kernel, by decide +kernel, nofun⟩
  have hzero : (0 : Binary64).IsAmount := isAmount_literal (by decide)
  have hsum : huge + huge + 0 + 0 = .infinite false := by decide +kernel
  have hamount := isAmount_channel (u := { render := huge, blitter := huge }) hhuge.isAmount
    hhuge.isAmount hzero hzero
  obtain ⟨hiff, hoverflown⟩ := Utilization.normalize_addsUp_iff hamount
  have hinfinite : ¬(huge + huge + 0 + 0).IsFinite := by
    rw [hsum]
    exact Binary64.not_isFinite_infinite
  obtain ⟨hvalues, htotal⟩ := hoverflown hinfinite
  exact ⟨hhuge.isAmount, hzero, hvalues, htotal, mt hiff.1 hinfinite⟩

end GpuMonitor
