import GpuMonitor.Proofs.AddingUp
import GpuMonitor.Proofs.Lines
import GpuMonitor.Proofs.ReadingBack
import GpuMonitor.Proofs.Words

/-!
# Reading a sample back

The line of a sample has five fields with labels around them, and a reader can tell what each of
them was filled with. A finite number stands in its field as the nearest multiple of a tenth, an
exact half going to the even digit, with its sign even where nothing but zeros follow.

* `Columns`: what the five fields of a line are filled with; `Utilization.columns` is how a sample
  fills them.
* `Text.signedNumber?`: the number that is read, with a minus sign or without.
* `Binary64.Shows`: a double is shown by these characters, which denote the nearest tenth.

Main result:

* `line_reads_back`: what can be told from the line of a sample.
-/

namespace GpuMonitor

/-! ## The fields of a line -/

/-- What the fields of a line are filled with. -/
structure Columns where
  render : String
  blitter : String
  video : String
  enhance : String
  total : String
  deriving DecidableEq

namespace Columns

/-- The five texts in order. -/
def texts (c : Columns) : List String := [c.render, c.blitter, c.video, c.enhance, c.total]

/-- The line that has these texts in its fields. -/
def line (c : Columns) : String :=
  "Render: " ++ c.render ++ "%  Blitter: " ++ c.blitter ++ "%  Video: " ++ c.video
    ++ "%  Enhance: " ++ c.enhance ++ "%  | Total: " ++ c.total ++ "%"

/-- What follows each of the fields. -/
def labels : List String := ["%  Blitter: ", "%  Video: ", "%  Enhance: ", "%  | Total: ", "%"]

theorem line_eq_filledText (c : Columns) : c.line = Text.filledText "Render: " labels c.texts := rfl

theorem texts_injective : Function.Injective texts := by
  rintro ⟨_, _, _, _, _⟩ ⟨_, _, _, _, _⟩ h
  simp only [texts, List.cons.injEq, and_true] at h
  simpa using h

end Columns

namespace Binary64

theorem toList_text (x : Binary64) : x.text.toList = x.chars := String.toList_ofList

/-- No number has the character in it that ends a field. -/
theorem notMem_text (x : Binary64) : '%' ∉ x.text.toList := by
  intro hmem
  rw [toList_text] at hmem
  exact absurd (of_mem_chars hmem) (by decide)

end Binary64

/-- What a sample fills the fields of its line with. -/
def Utilization.columns (u : Utilization) : Columns where
  render := u.render.text
  blitter := u.blitter.text
  video := u.video.text
  enhance := u.enhance.text
  total := u.total.text

/-- The five numbers of a sample. -/
def Utilization.values (u : Utilization) : List Binary64 :=
  [u.render, u.blitter, u.video, u.enhance, u.total]

namespace Utilization

variable {u v : Utilization}

theorem line_columns (u : Utilization) : u.columns.line = u.text := by
  show _ = (List.foldl (· ++ ·) "" u.pieces)
  rw [pieces, List.foldl_cons, String.empty_append]
  rfl

theorem columns_texts (u : Utilization) : u.columns.texts = u.values.map Binary64.text := rfl

/-- The texts in the fields can be told from the line, however it is thought to be filled. -/
theorem line_eq_text_iff {c : Columns} : c.line = u.text ↔ c = u.columns := by
  rw [← u.line_columns]
  refine ⟨fun h => ?_, fun h => congrArg Columns.line h⟩
  rw [Columns.line_eq_filledText, Columns.line_eq_filledText] at h
  have hlabels : ∀ label ∈ Columns.labels, Text.Closes '%' label.toList := by decide
  have hfields : ∀ field ∈ u.columns.texts, '%' ∉ field.toList := by
    rw [columns_texts, List.forall_mem_map]
    exact fun x _ => x.notMem_text
  have htexts : u.columns.texts = c.texts :=
    Text.texts_eq_of_filledText_eq hlabels rfl rfl hfields h.symm
  exact Columns.texts_injective htexts.symm

theorem text_eq_text_iff : v.text = u.text ↔ v.columns = u.columns := by
  rw [← line_eq_text_iff, line_columns]

theorem newline_notMem_text (u : Utilization) : '\n' ∉ u.text.toList := by
  intro hmem
  exact absurd (u.printable_text _ hmem) (by decide)

end Utilization

/-! ## The nearest tenth -/

section Nearest

variable {q : ℚ} {t : ℤ}

/-- No whole number is nearer than one at a distance of at most a half. -/
theorem abs_sub_le_abs_sub (h : |q - t| ≤ 1 / 2) (k : ℤ) : |q - t| ≤ |q - k| := by
  rcases eq_or_ne k t with rfl | hne
  · exact le_rfl
  · have hapart : (1 : ℚ) ≤ |(t : ℚ) - k| := by
      exact_mod_cast Int.one_le_abs (sub_ne_zero.2 hne.symm)
    have htriangle : |(t : ℚ) - k| ≤ |(t : ℚ) - q| + |q - k| := abs_sub_le ..
    rw [abs_sub_comm (t : ℚ) q] at htriangle
    linarith

/-- Where another whole number is as near, both are half away. -/
theorem abs_sub_eq_half (h : |q - t| ≤ 1 / 2) {k : ℤ} (hne : k ≠ t) (htie : |q - t| = |q - k|) :
    |q - t| = 1 / 2 := by
  have hapart : (1 : ℚ) ≤ |(t : ℚ) - k| := by
    exact_mod_cast Int.one_le_abs (sub_ne_zero.2 hne.symm)
  have htriangle : |(t : ℚ) - k| ≤ |(t : ℚ) - q| + |q - k| := abs_sub_le ..
  rw [abs_sub_comm (t : ℚ) q] at htriangle
  linarith

/-- The rounding is at most half away. -/
theorem abs_sub_roundHalfEven_le (num : Nat) {den : Nat} (hden : 0 < den) :
    |(num / den : ℚ) - roundHalfEven num den| ≤ 1 / 2 := by
  have hpos : (0 : ℚ) < den := Nat.cast_pos.2 hden
  obtain ⟨hup, hdown⟩ := roundHalfEven_near num hden
  generalize roundHalfEven num den = r at *
  have hup' : (2 * (r * den) : ℚ) ≤ 2 * num + den := by exact_mod_cast hup
  have hdown' : (2 * num : ℚ) ≤ 2 * (r * den) + den := by exact_mod_cast hdown
  rw [abs_le, le_sub_iff_add_le, sub_le_iff_le_add, le_div_iff₀ hpos, div_le_iff₀ hpos]
  constructor <;> linarith

/-- What is exactly half away from its rounding has been rounded to an even number. -/
theorem even_of_abs_sub_eq_half (num : Nat) {den : Nat} (hden : 0 < den)
    (h : |(num / den : ℚ) - roundHalfEven num den| = 1 / 2) :
    roundHalfEven num den % 2 = 0 := by
  have hpos : (0 : ℚ) < den := Nat.cast_pos.2 hden
  apply even_of_half_way num hden
  generalize roundHalfEven num den = r at *
  have hscaled : |(num - r * den : ℚ)| = den / 2 := by
    have hsplit : (num - r * den : ℚ) = (num / den - r) * den := by
      rw [sub_mul, div_mul_cancel₀ _ hpos.ne']
    rw [hsplit, abs_mul, h, abs_of_pos hpos]
    ring
  rcases (abs_eq (by positivity)).1 hscaled with habove | hbelow
  · refine .inr ?_
    have : (2 * num : ℚ) = 2 * (r * den) + den := by linarith
    exact_mod_cast this
  · refine .inl ?_
    have : (2 * (r * den) : ℚ) = 2 * num + den := by linarith
    exact_mod_cast this

end Nearest

/-! ## A number in its field -/

namespace Text

/-- The number that is read when a minus sign may stand before it. -/
def signedNumber? (text : String) : Option ℚ :=
  match text.toList with
  | '-' :: rest => (decimalNumber? rest).map (-·)
  | rest => decimalNumber? rest

theorem signedNumber?_of_signChars {negative : Bool} {digits : List Char} {q : ℚ}
    {text : String} (htext : text.toList = Binary64.chars.signChars negative ++ digits)
    (hdigit : ∀ rest, digits ≠ '-' :: rest) (hq : decimalNumber? digits = some q) :
    signedNumber? text = some (if negative then -q else q) := by
  unfold signedNumber?
  rw [htext]
  cases negative with
  | true =>
    show (decimalNumber? digits).map (-·) = _
    rw [hq]
    rfl
  | false =>
    show (match digits with
      | '-' :: rest => (decimalNumber? rest).map (-·)
      | rest => decimalNumber? rest) = _
    split
    · next rest => exact absurd rfl (hdigit rest)
    · exact hq

end Text

namespace Binary64

/-- The double is shown with or without a minus sign, by the digits of a whole number, a point and
one digit, and they denote the nearest tenth. -/
structure Shows (x : Binary64) (negative : Bool) (whole : List Char) (digit : Char) (number : ℚ) :
    Prop where
  text_eq : x.text = String.ofList (chars.signChars negative ++ whole ++ ['.', digit])
  whole_numeral : Text.IsNumeral whole
  digit_isDigit : digit.isDigit = true
  /-- The characters denote the number. -/
  read : Text.signedNumber? x.text = some number
  tenth : ∃ k : ℤ, number = k / 10
  /-- No other tenth is nearer. -/
  nearest : ∀ k : ℤ, |x.value - number| ≤ |x.value - k / 10|
  /-- Where another tenth is as near, the digit is even. -/
  even : ∀ k : ℤ, (k / 10 : ℚ) ≠ number → |x.value - number| = |x.value - k / 10| →
    digit ∈ ['0', '2', '4', '6', '8']

/-- The number of tenths that a double is rounded to, with its sign. -/
def signedTenths (negative : Bool) (m : Magnitude) : ℤ :=
  if negative then -tenths m else tenths m

theorem abs_value_sub_signedTenths (negative : Bool) (m : Magnitude) :
    |10 * (finite negative m).value - signedTenths negative m| =
      |((m.units * 10 : ℕ) / unitsInOne : ℚ) - tenths m| := by
  have hshift : 10 * (m.units / unitsInOne : ℚ) = (m.units * 10 : ℕ) / unitsInOne := by
    push_cast
    ring
  cases negative with
  | false =>
    simp only [value, signedTenths, Bool.false_eq_true, if_false, one_mul, hshift, Int.cast_natCast]
  | true =>
    rw [← abs_neg]
    congr 1
    simp only [value, signedTenths, if_true, Int.cast_neg, Int.cast_natCast, ← hshift]
    ring

theorem abs_sub_div_ten (q : ℚ) (k : ℤ) : |q - k / 10| = |10 * q - k| / 10 := by
  have hscaled : q - k / 10 = (10 * q - k) / 10 := by ring
  rw [hscaled, abs_div, abs_of_pos (by norm_num : (0 : ℚ) < 10)]

/-- The characters of a finite double, as they are read. -/
theorem read_text (negative : Bool) (m : Magnitude) :
    Text.signedNumber? (finite negative m).text = some (signedTenths negative m / 10 : ℚ) := by
  have hwhole := Text.digits_toDigits (tenths m / 10)
  have hdigits : Text.decimalNumber? (tenthsDigits (tenths m)) = some (tenths m / 10 : ℚ) := by
    have hrest : Nat.toDigits 10 (tenths m % 10) = [(tenths m % 10).digitChar] :=
      Nat.toDigits_of_lt_base (Nat.mod_lt _ (by decide))
    have hsplit : (tenths m : ℚ) = 10 * (tenths m / 10 : ℕ) + (tenths m % 10 : ℕ) := by
      exact_mod_cast (Nat.div_add_mod (tenths m) 10).symm
    rw [tenthsDigits, Text.decimalNumber?_point hwhole (Text.digits_toDigits _),
      Nat.ofDigitChars_ten_toDigits, Nat.ofDigitChars_ten_toDigits, hrest, List.length_singleton,
      pow_one, hsplit]
    congr 1
    ring
  have hread := Text.signedNumber?_of_signChars (toList_text (finite negative m))
    (fun rest hminus => ?_) hdigits
  · rw [hread]
    cases negative with
    | false => rfl
    | true =>
      simp only [signedTenths, if_true, Int.cast_neg, Int.cast_natCast, neg_div]
  · -- the digits do not begin with a minus sign
    obtain ⟨c, digits, hdigit⟩ := List.exists_cons_of_ne_nil hwhole.1
    rw [tenthsDigits, hdigit, List.cons_append] at hminus
    obtain rfl := (List.cons.inj hminus).1
    exact absurd (hwhole.2 '-' (hdigit ▸ List.mem_cons_self)) (by decide)

/-- A finite double is shown with its sign, as the nearest tenth. -/
theorem exists_shows (negative : Bool) (m : Magnitude) :
    ∃ whole digit number, (finite negative m).Shows negative whole digit number := by
  have hlt : tenths m % 10 < 10 := Nat.mod_lt _ (by decide)
  -- in tenths the number is at most half away from a whole number, which decides the rest
  have hnear : |10 * (finite negative m).value - signedTenths negative m| ≤ 1 / 2 := by
    rw [abs_value_sub_signedTenths]
    exact abs_sub_roundHalfEven_le _ unitsInOne_pos
  refine ⟨Nat.toDigits 10 (tenths m / 10), (tenths m % 10).digitChar, signedTenths negative m / 10,
    ?_, Text.isNumeral_toDigits _, ?_, read_text negative m, ⟨_, rfl⟩, fun k => ?_,
    fun k hne htie => ?_⟩
  · rw [text, chars, tenthsDigits, Nat.toDigits_of_lt_base hlt, List.append_assoc]
  · have hdigit := (Text.digits_toDigits (tenths m % 10)).2
    rw [Nat.toDigits_of_lt_base hlt, List.forall_mem_singleton] at hdigit
    exact hdigit
  · rw [abs_sub_div_ten, abs_sub_div_ten]
    exact div_le_div_of_nonneg_right (abs_sub_le_abs_sub hnear k) (by norm_num)
  · rw [abs_sub_div_ten, abs_sub_div_ten, div_left_inj' (by norm_num)] at htie
    have hdiffer : k ≠ signedTenths negative m := by
      rintro rfl
      exact hne rfl
    have hhalf := abs_sub_eq_half hnear hdiffer htie
    rw [abs_value_sub_signedTenths] at hhalf
    have heven : tenths m % 2 = 0 := even_of_abs_sub_eq_half _ unitsInOne_pos hhalf
    have hdigits : ∀ d < 10, d % 2 = 0 → d.digitChar ∈ ['0', '2', '4', '6', '8'] := by decide
    exact hdigits _ hlt (by omega)

end Binary64

open Binary64 (ofBits)

namespace Utilization

/-- **A sample is read back from its line.**
* It is one line, and the texts in its five fields can be told from it, however it is thought to be
  filled. So two samples have the same line if and only if their five numbers have the same texts.
* A finite number is shown with a minus sign if and only if the sign bit of its word is set, and
  then by a whole number, a point and one digit, which denote the nearest tenth; a number half way
  between two of them goes to the even digit. -/
theorem line_reads_back (u : Utilization) :
    '\n' ∉ u.text.toList ∧
    (∀ c : Columns, c.line = u.text ↔ c = u.columns) ∧
    (∀ v : Utilization,
      v.text = u.text ↔ v.values.map Binary64.text = u.values.map Binary64.text) ∧
    ∀ x ∈ u.values, x.IsFinite → ∃ negative whole digit number,
      x.Shows negative whole digit number ∧
        ∀ word, ofBits word = x → (negative = true ↔ 1 <<< 63 ≤ word.toNat) := by
  refine ⟨u.newline_notMem_text, fun c => line_eq_text_iff, fun v => ?_, ?_⟩
  · rw [text_eq_text_iff, ← columns_texts, ← columns_texts, Columns.texts_injective.eq_iff]
  · rintro x - ⟨negative, m, rfl⟩
    obtain ⟨whole, digit, number, hshows⟩ := Binary64.exists_shows negative m
    exact ⟨negative, whole, digit, number, hshows, fun word => Binary64.sign_of_ofBits⟩

/-- The two zeros, the ties of a quarter and of three quarters, and a number that is not finite. -/
theorem line_reads_back_ties :
    let u : Utilization :=
      { render := ofBits 0x8000000000000000
        blitter := ofBits 0
        video := ofBits 0x3fd0000000000000
        enhance := ofBits 0x3fe8000000000000
        total := ofBits 0xfff0000000000000 }
    u.text = "Render: -0.0%  Blitter: 0.0%  Video: 0.2%  Enhance: 0.8%  | Total: -inf%" ∧
    (∀ c : Columns, c.line = u.text ↔ c = ⟨"-0.0", "0.0", "0.2", "0.8", "-inf"⟩) ∧
    ∃ whole digit number, u.render.Shows true whole digit number := by
  intro u
  obtain ⟨-, hcolumns, -, hfinite⟩ := line_reads_back u
  have hfields : u.columns = ⟨"-0.0", "0.0", "0.2", "0.8", "-inf"⟩ := by decide +kernel
  refine ⟨by decide +kernel, fun c => hfields ▸ hcolumns c, ?_⟩
  obtain ⟨negative, whole, digit, number, hshows, hsign⟩ :=
    hfinite u.render List.mem_cons_self ⟨true, ⟨0, _⟩, rfl⟩
  have hnegative : negative = true := (hsign 0x8000000000000000 rfl).2 (by decide)
  exact ⟨whole, digit, number, hnegative ▸ hshows⟩

end Utilization
end GpuMonitor
