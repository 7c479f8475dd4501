import GpuMonitor.Rounding

/-!
# Double-precision numbers, exactly

A `Binary64` is a number of the IEEE 754 format with 53 significant bits, kept as
its exact value and not as a word. Every finite double is a whole number of *units*
of `2⁻¹⁰⁷⁴`, so a magnitude is a natural number, and adding, comparing and scaling
are exact arithmetic followed by one rounding.

* `Representable n`: `n` units are the magnitude of a finite double.
* `representable_shiftLeft`: a significand of at most `2⁵³`, shifted by any exponent, is one.
* `nearestUnits`: the nearest magnitude with 53 significant bits, ties to even.
* `Binary64.rounded`: the double nearest to a quotient, infinite on overflow.
* `ofBits` and `toBits`: the word of 64 bits that stands for a double.

There is one NaN: nothing here depends on its sign or payload.
-/

namespace GpuMonitor

/-- The number of units in one: a unit is `2⁻¹⁰⁷⁴`. -/
def unitsInOne : Nat := 1 <<< 1074

/-- The least magnitude in units beyond the finite doubles: `2¹⁰²⁴`. -/
def overflowUnits : Nat := 1 <<< 2098

/-- The distance in units between neighbouring doubles of magnitude `n`. -/
def spacing (n : Nat) : Nat := 1 <<< (n.log2 - 52)

theorem unitsInOne_pos : 0 < unitsInOne := by
  rw [unitsInOne, Nat.one_shiftLeft]
  exact Nat.two_pow_pos 1074

theorem one_shiftLeft_le_overflowUnits {k : Nat} (h : k ≤ 2098) : 1 <<< k ≤ overflowUnits := by
  rw [overflowUnits, Nat.one_shiftLeft, Nat.one_shiftLeft]
  apply Nat.pow_le_pow_right
  · exact Nat.two_pos
  · exact h

/-- A finite double has the magnitude of `n` units. -/
def Representable (n : Nat) : Prop := n < overflowUnits ∧ spacing n ∣ n

instance (n : Nat) : Decidable (Representable n) := by
  unfold Representable
  infer_instance

theorem spacing_pos (n : Nat) : 0 < spacing n := by
  rw [spacing, Nat.one_shiftLeft]
  exact Nat.two_pow_pos _

/-- A significand of at most `2⁵³`, shifted by any exponent, lies on the grid. -/
theorem spacing_dvd_shiftLeft {r : Nat} (hr : r ≤ 1 <<< 53) (k : Nat) :
    spacing (r <<< k) ∣ r <<< k := by
  simp only [spacing, Nat.shiftLeft_eq, Nat.one_mul] at hr ⊢
  rcases Nat.eq_zero_or_pos r with rfl | hpos
  · simp
  have hne : r * 2 ^ k ≠ 0 := Nat.mul_ne_zero (by omega) (Nat.ne_of_gt (Nat.two_pow_pos k))
  rcases Nat.lt_or_ge r (2 ^ 53) with hlt | hge
  · have hlog : (r * 2 ^ k).log2 < 53 + k := by
      rw [Nat.log2_lt hne, Nat.pow_add]
      exact Nat.mul_lt_mul_of_pos_right hlt (Nat.two_pow_pos k)
    exact Nat.dvd_trans (Nat.pow_dvd_pow 2 (by omega)) (Nat.dvd_mul_left _ _)
  · have heq : r = 2 ^ 53 := Nat.le_antisymm hr hge
    have hlog : (r * 2 ^ k).log2 < 54 + k := by
      rw [Nat.log2_lt hne, heq, ← Nat.pow_add]
      exact Nat.pow_lt_pow_right (by decide) (by omega)
    rw [heq, ← Nat.pow_add] at *
    exact Nat.pow_dvd_pow 2 (by omega)

theorem representable_shiftLeft {r k : Nat} (hr : r ≤ 1 <<< 53)
    (h : r <<< k < overflowUnits) : Representable (r <<< k) :=
  ⟨h, spacing_dvd_shiftLeft hr k⟩

/-- The magnitude nearest to `num / den` units with 53 significant bits, the one
with an even significand when two are equally near. -/
def nearestUnits (num den : Nat) : Nat :=
  let step := spacing (num / den)
  roundHalfEven num (den * step) * step

/-- Rounding leaves a significand of at most `2⁵³`. -/
theorem roundHalfEven_spacing_le {num den : Nat} (hden : 0 < den) :
    roundHalfEven num (den * spacing (num / den)) ≤ 1 <<< 53 := by
  apply roundHalfEven_le (Nat.mul_pos hden (spacing_pos _))
  have hlt : num / den < 2 ^ ((num / den).log2 + 1) := Nat.lt_log2_self
  have hle : num / den < 1 <<< 53 * spacing (num / den) := by
    refine Nat.lt_of_lt_of_le hlt ?_
    rw [spacing, Nat.one_shiftLeft, Nat.one_shiftLeft, ← Nat.pow_add]
    exact Nat.pow_le_pow_right (by decide) (by omega)
  have hnum : num < (num / den + 1) * den := by
    have := Nat.lt_mul_div_succ num hden
    rwa [Nat.mul_comm] at this
  have hstep : (num / den + 1) * den ≤ 1 <<< 53 * spacing (num / den) * den :=
    Nat.mul_le_mul_right den hle
  rw [Nat.mul_comm den, ← Nat.mul_assoc]
  omega

theorem representable_nearestUnits {num den : Nat} (hden : 0 < den)
    (h : nearestUnits num den < overflowUnits) : Representable (nearestUnits num den) := by
  have heq : nearestUnits num den =
      roundHalfEven num (den * spacing (num / den)) <<< ((num / den).log2 - 52) := by
    rw [nearestUnits, Nat.shiftLeft_eq, ← Nat.one_shiftLeft]
    rfl
  rw [heq] at h ⊢
  exact representable_shiftLeft (roundHalfEven_spacing_le hden) h

/-- The magnitude of a finite double, in units. -/
structure Magnitude where
  units : Nat
  representable : Representable units
  deriving DecidableEq

/-- A double-precision number; `finite true` with no units is negative zero. -/
inductive Binary64 where
  | nan
  | infinite (negative : Bool)
  | finite (negative : Bool) (magnitude : Magnitude)
  deriving DecidableEq

namespace Binary64

/-- The double nearest to `num / den` units, with the given sign. -/
def rounded (negative : Bool) (num den : Nat) (hden : 0 < den := by decide) : Binary64 :=
  if h : nearestUnits num den < overflowUnits then
    finite negative ⟨nearestUnits num den, representable_nearestUnits hden h⟩
  else infinite negative

/-- A natural number as a double. -/
def ofNat (n : Nat) : Binary64 := rounded false (n * unitsInOne) 1

instance (n : Nat) : OfNat Binary64 n := ⟨ofNat n⟩

instance : Inhabited Binary64 := ⟨0⟩

/-! ## Words -/

theorem representable_of_lt {f : Nat} (hf : f < 1 <<< 53) : Representable f := by
  have h := representable_shiftLeft (r := f) (k := 0) (by omega)
    (Nat.lt_of_lt_of_le hf (one_shiftLeft_le_overflowUnits (by omega)))
  rwa [Nat.shiftLeft_zero] at h

theorem representable_normal {f e : Nat} (hf : f < 1 <<< 52) (he : e < 2047) :
    Representable ((1 <<< 52 + f) <<< (e - 1)) := by
  apply representable_shiftLeft (by omega)
  have hsig : 1 <<< 52 + f < 1 <<< 53 := by omega
  refine Nat.lt_of_lt_of_le ?_ (one_shiftLeft_le_overflowUnits (k := 53 + (e - 1)) (by omega))
  rw [Nat.shiftLeft_eq, Nat.one_shiftLeft (53 + (e - 1)), Nat.pow_add, ← Nat.one_shiftLeft 53]
  exact Nat.mul_lt_mul_of_pos_right hsig (Nat.two_pow_pos (e - 1))

/-- The double that a word stands for: sign bit, eleven exponent bits, fraction. -/
def ofBits (word : UInt64) : Binary64 :=
  let negative := decide (1 <<< 63 ≤ word.toNat)
  let exponent := word.toNat >>> 52 % 1 <<< 11
  let fraction := word.toNat % 1 <<< 52
  have hf : fraction < 1 <<< 52 := Nat.mod_lt _ (by decide)
  if h : exponent < 2047 then
    if exponent = 0 then
      finite negative ⟨fraction, representable_of_lt (by omega)⟩
    else
      finite negative ⟨(1 <<< 52 + fraction) <<< (exponent - 1), representable_normal hf h⟩
  else if fraction = 0 then infinite negative else nan

/-- The word of a double; that of NaN is the quiet one without a payload. -/
def toBits : Binary64 → UInt64
  | nan => (0x7ff8000000000000 : UInt64)
  | infinite negative => sign negative ||| (0x7ff0000000000000 : UInt64)
  | finite negative m =>
    let shift := m.units.log2 - 52
    sign negative ||| UInt64.ofNat (shift <<< 52 + m.units >>> shift)
where
  sign (negative : Bool) : UInt64 := if negative then 0x8000000000000000 else 0

/-! ## Arithmetic -/

/-- The sum, rounded once; opposite numbers add up to positive zero. -/
def add : Binary64 → Binary64 → Binary64
  | nan, _ => nan
  | _, nan => nan
  | infinite a, infinite b => if a = b then infinite a else nan
  | infinite a, finite _ _ => infinite a
  | finite _ _, infinite b => infinite b
  | finite a x, finite b y =>
    if a = b then rounded a (x.units + y.units) 1
    else if x.units = y.units then rounded false 0 1
    else if y.units < x.units then rounded a (x.units - y.units) 1
    else rounded b (y.units - x.units) 1

/-- The product, rounded once. -/
def mul : Binary64 → Binary64 → Binary64
  | nan, _ => nan
  | _, nan => nan
  | infinite a, infinite b => infinite (a != b)
  | infinite a, finite b y => if y.units = 0 then nan else infinite (a != b)
  | finite a x, infinite b => if x.units = 0 then nan else infinite (a != b)
  | finite a x, finite b y =>
    rounded (a != b) (x.units * y.units) unitsInOne unitsInOne_pos

/-- The quotient, rounded once. -/
def div : Binary64 → Binary64 → Binary64
  | nan, _ => nan
  | _, nan => nan
  | infinite _, infinite _ => nan
  | infinite a, finite b _ => infinite (a != b)
  | finite a _, infinite b => rounded (a != b) 0 1
  | finite a x, finite b y =>
    if h : y.units = 0 then
      if x.units = 0 then nan else infinite (a != b)
    else rounded (a != b) (x.units * unitsInOne) y.units (Nat.pos_of_ne_zero h)

instance : Add Binary64 := ⟨add⟩
instance : Mul Binary64 := ⟨mul⟩
instance : Div Binary64 := ⟨div⟩

/-- `x` is above `y`; nothing is above or below NaN, and the zeros are level. -/
def above : Binary64 → Binary64 → Bool
  | nan, _ => false
  | _, nan => false
  | infinite a, infinite b => !a && b
  | infinite a, finite _ _ => !a
  | finite _ _, infinite b => b
  | finite false x, finite false y => decide (y.units < x.units)
  | finite true x, finite true y => decide (x.units < y.units)
  | finite false x, finite true y => decide (0 < x.units ∨ 0 < y.units)
  | finite true _, finite false _ => false

/-! ## Text with one decimal -/

/-- The number of tenths nearest to a magnitude, an exact half going to the even one. -/
def tenths (m : Magnitude) : Nat := roundHalfEven (m.units * 10) unitsInOne

/-- A number of tenths written with a point and one digit. -/
def tenthsDigits (t : Nat) : List Char :=
  Nat.toDigits 10 (t / 10) ++ '.' :: Nat.toDigits 10 (t % 10)

/-- A number with one decimal and never an exponent; a negative sign is kept on zero. -/
def chars : Binary64 → List Char
  | nan => ['N', 'a', 'N']
  | infinite negative => signChars negative ++ ['i', 'n', 'f']
  | finite negative m => signChars negative ++ tenthsDigits (tenths m)
where
  signChars (negative : Bool) : List Char := if negative then ['-'] else []

/-- The text of `chars`. -/
def text (x : Binary64) : String := String.ofList x.chars

end Binary64
end GpuMonitor
