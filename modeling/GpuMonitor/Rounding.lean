/-!
# Rounding a quotient to the nearest natural number

`roundHalfEven num den` is the natural number nearest to `num / den`; a quotient
half way between two numbers goes to the even one. Decimal texts and binary
significands are both made with it.

* `roundHalfEven_mul`: a quotient that is a whole number is its own rounding.
* `roundHalfEven_le`: rounding does not pass a whole number that the quotient
  does not pass.
-/

namespace GpuMonitor

/-- The natural number nearest to `num / den`, the even one of two equally near. -/
def roundHalfEven (num den : Nat) : Nat :=
  let floor := num / den
  let rest := num % den
  if 2 * rest < den then floor
  else if den < 2 * rest then floor + 1
  else if floor % 2 = 0 then floor else floor + 1

theorem roundHalfEven_mul (n : Nat) {den : Nat} (hden : 0 < den) :
    roundHalfEven (n * den) den = n := by
  have hrest : n * den % den = 0 := Nat.mul_mod_left n den
  simp only [roundHalfEven, hrest, Nat.mul_zero, hden, if_true]
  exact Nat.mul_div_cancel n hden

/-- A quotient of at most `k` is rounded to at most `k`. -/
theorem roundHalfEven_le {num den k : Nat} (hden : 0 < den) (h : num ≤ k * den) :
    roundHalfEven num den ≤ k := by
  have hfloor : num / den ≤ k := Nat.div_le_of_le_mul (by rwa [Nat.mul_comm] at h)
  rcases Nat.lt_or_ge (num / den) k with hlt | hge
  · unfold roundHalfEven
    dsimp only
    split <;> (try split) <;> (try split) <;> omega
  · have heq : num / den = k := by omega
    have hsplit := Nat.div_add_mod num den
    have hrest : num % den = 0 := by
      rw [heq, Nat.mul_comm] at hsplit
      omega
    simp [roundHalfEven, hrest, heq, hden]

end GpuMonitor
