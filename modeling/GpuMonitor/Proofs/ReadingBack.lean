import GpuMonitor.Text.Number
import Mathlib.Data.List.TakeWhile
import Mathlib.Data.Rat.Cast.Order
import Mathlib.Tactic.FieldSimp
import Mathlib.Tactic.Ring

/-!
# Reading texts back

What a reader can tell from a text: the number that decimal digits stand for, with a point or
without, and the fields that a line of labels was filled with.

* `Text.Digits`, `Text.IsNumeral`: decimal digits, and such without superfluous zeros in front.
* `Text.digitsNumber?`, `Text.decimalNumber?`: the number that is read.
* `Text.filled`: fields with a label after each, and `Text.Closes`: the label can only be a label.

Main results:

* `Text.decimalNumber?_decimalFraction`: a decimal number without its closing zeros is read back.
* `Text.fields_eq_of_filled_eq`: what a line was filled with can be told from it.
-/

namespace GpuMonitor.Text

/-! ## Digits -/

/-- Decimal digits, at least one of them. -/
def Digits (t : List Char) : Prop := t ≠ [] ∧ ∀ c ∈ t, c.isDigit = true

instance (t : List Char) : Decidable (Digits t) :=
  inferInstanceAs (Decidable (t ≠ [] ∧ ∀ c ∈ t, c.isDigit = true))

/-- Decimal digits that begin with a zero only where there is no other digit. -/
def IsNumeral (t : List Char) : Prop := Digits t ∧ (t.head? = some '0' → t = ['0'])

instance (t : List Char) : Decidable (IsNumeral t) :=
  inferInstanceAs (Decidable (Digits t ∧ (t.head? = some '0' → t = ['0'])))

/-- The number that decimal digits stand for. -/
def digitsNumber? (t : List Char) : Option Nat :=
  if Digits t then some (Nat.ofDigitChars 10 t 0) else none

/-- The number that decimal digits stand for, when a point and more digits may follow them. -/
def decimalNumber? (t : List Char) : Option ℚ :=
  let whole := t.takeWhile (· ≠ '.')
  match t.dropWhile (· ≠ '.') with
  | [] => (digitsNumber? whole).map fun n : Nat => (n : ℚ)
  | _ :: part =>
    (digitsNumber? whole).bind fun n : Nat =>
      (digitsNumber? part).map fun k : Nat => (n + k / 10 ^ part.length : ℚ)

variable {t whole part : List Char}

theorem digits_toDigits (n : Nat) : Digits (Nat.toDigits 10 n) :=
  ⟨Nat.toDigits_ne_nil, fun _ hc => Nat.isDigit_of_mem_toDigits (by decide) (by decide) hc⟩

theorem isNumeral_toDigits (n : Nat) : IsNumeral (Nat.toDigits 10 n) := by
  refine ⟨digits_toDigits n, ?_⟩
  induction n using Nat.strongRecOn with
  | ind n ih =>
    rcases Nat.lt_or_ge n 10 with hlt | hge
    · rw [Nat.toDigits_of_lt_base hlt]
      intro hhead
      rw [Option.some.inj hhead]
    · -- the first digit is the first one of a tenth of the number, and that is not zero
      rw [Nat.toDigits_of_base_le (by decide) hge]
      intro hhead
      rw [List.head?_append_of_ne_nil _ Nat.toDigits_ne_nil] at hhead
      have htenth : Nat.ofDigitChars 10 (Nat.toDigits 10 (n / 10)) 0 = n / 10 :=
        Nat.ofDigitChars_ten_toDigits
      rw [ih (n / 10) (by omega) hhead] at htenth
      change 0 = n / 10 at htenth
      omega

theorem digitsNumber?_of_digits (h : Digits t) :
    digitsNumber? t = some (Nat.ofDigitChars 10 t 0) := if_pos h

theorem decimal_injective {m n : Nat} (h : decimal m = decimal n) : m = n := by
  have hdigits : Nat.toDigits 10 m = Nat.toDigits 10 n := String.ofList_inj.1 h
  calc
    m = Nat.ofDigitChars 10 (Nat.toDigits 10 m) 0 := Nat.ofDigitChars_ten_toDigits.symm
    _ = Nat.ofDigitChars 10 (Nat.toDigits 10 n) 0 := by rw [hdigits]
    _ = n := Nat.ofDigitChars_ten_toDigits

/-! ## A point between digits -/

theorem Digits.ne_point (h : Digits t) : ∀ c ∈ t, decide (c ≠ '.') = true := by
  intro c hc
  rw [decide_eq_true_eq]
  rintro rfl
  exact absurd (h.2 _ hc) (by decide)

theorem decimalNumber?_of_digits (h : Digits t) :
    decimalNumber? t = some (Nat.ofDigitChars 10 t 0 : ℚ) := by
  unfold decimalNumber?
  rw [List.dropWhile_eq_nil_iff.2 h.ne_point, List.takeWhile_eq_self_iff.2 h.ne_point]
  simp only [digitsNumber?_of_digits h, Option.map_some]

theorem decimalNumber?_point (hwhole : Digits whole) (hpart : Digits part) :
    decimalNumber? (whole ++ '.' :: part) =
      some (Nat.ofDigitChars 10 whole 0 + Nat.ofDigitChars 10 part 0 / 10 ^ part.length : ℚ) := by
  have htake : (whole ++ '.' :: part).takeWhile (· ≠ '.') = whole := by
    rw [List.takeWhile_append_of_pos hwhole.ne_point]
    simp
  have hdrop : (whole ++ '.' :: part).dropWhile (· ≠ '.') = '.' :: part := by
    rw [List.dropWhile_append_of_pos hwhole.ne_point]
    simp
  unfold decimalNumber?
  rw [htake, hdrop]
  simp only [digitsNumber?_of_digits hwhole, digitsNumber?_of_digits hpart, Option.bind_some,
    Option.map_some]

/-! ## Closing zeros and padding -/

/-- Only zeros are missing behind what is left of some digits. -/
theorem exists_eq_dropClosingZeros_append (t : List Char) :
    ∃ k, t = dropClosingZeros t ++ List.replicate k '0' := by
  induction t with
  | nil => exact ⟨0, rfl⟩
  | cons c t ih =>
    obtain ⟨k, hk⟩ := ih
    have hcons : dropClosingZeros (c :: t) =
        if c = '0' ∧ dropClosingZeros t = [] then [] else c :: dropClosingZeros t := rfl
    rw [hcons]
    split
    · next hzero =>
      obtain ⟨rfl, hnil⟩ := hzero
      rw [hnil, List.nil_append] at hk
      exact ⟨k + 1, by rw [hk]; rfl⟩
    · exact ⟨k, congrArg (c :: ·) hk⟩

theorem digits_zeroPadded (width : Nat) (h : Digits t) : Digits (zeroPadded width t) := by
  refine ⟨List.append_ne_nil_of_right_ne_nil _ h.1, ?_⟩
  intro c hc
  rcases List.mem_append.1 hc with hzero | hc
  · rw [List.eq_of_mem_replicate hzero]
    rfl
  · exact h.2 c hc

theorem ofDigitChars_zeroPadded (width : Nat) (t : List Char) :
    Nat.ofDigitChars 10 (zeroPadded width t) 0 = Nat.ofDigitChars 10 t 0 := by
  rw [zeroPadded, Nat.ofDigitChars_append, Nat.ofDigitChars_replicate_zero, Nat.mul_zero]

theorem length_zeroPadded {width : Nat} (h : t.length ≤ width) :
    (zeroPadded width t).length = width := by
  rw [zeroPadded, List.length_append, List.length_replicate]
  omega

/-- A decimal number is written with digits and a point. -/
theorem of_mem_decimalFraction {n k width : Nat} {c : Char} (hc : c ∈ decimalFraction n k width) :
    c.isDigit = true ∨ c = '.' := by
  unfold decimalFraction at hc
  dsimp only at hc
  rcases List.mem_append.1 hc with hc | hc
  · exact .inl ((digits_toDigits n).2 c hc)
  · split at hc
    · cases hc
    · rcases List.mem_cons.1 hc with rfl | hc
      · exact .inr rfl
      · obtain ⟨zeros, hzeros⟩ :=
          exists_eq_dropClosingZeros_append (zeroPadded width (Nat.toDigits 10 k))
        refine .inl ((digits_zeroPadded width (digits_toDigits k)).2 c ?_)
        rw [hzeros]
        exact List.mem_append_left _ hc

/-- **A decimal number is read back**, whatever zeros were dropped at its end. -/
theorem decimalNumber?_decimalFraction (n : Nat) {k width : Nat} (hwidth : 0 < width)
    (hk : k < 10 ^ width) :
    decimalNumber? (decimalFraction n k width) = some (n + k / 10 ^ width : ℚ) := by
  have hlength : (zeroPadded width (Nat.toDigits 10 k)).length = width :=
    length_zeroPadded ((Nat.length_toDigits_le_iff (by decide) hwidth).2 hk)
  have hvalue : Nat.ofDigitChars 10 (zeroPadded width (Nat.toDigits 10 k)) 0 = k := by
    rw [ofDigitChars_zeroPadded, Nat.ofDigitChars_ten_toDigits]
  have hdigits := digits_zeroPadded width (digits_toDigits k)
  unfold decimalFraction
  dsimp only
  obtain ⟨zeros, hzeros⟩ :=
    exists_eq_dropClosingZeros_append (zeroPadded width (Nat.toDigits 10 k))
  generalize zeroPadded width (Nat.toDigits 10 k) = padded at *
  generalize dropClosingZeros padded = kept at *
  subst hzeros
  -- the zeros that were dropped only shift the digits before them
  rw [Nat.ofDigitChars_append, Nat.ofDigitChars_replicate_zero] at hvalue
  rw [List.length_append, List.length_replicate] at hlength
  split
  · next hnil =>
    subst hnil
    have hzero : k = 0 := by
      rw [← hvalue]
      exact Nat.mul_zero _
    rw [List.append_nil, decimalNumber?_of_digits (digits_toDigits n),
      Nat.ofDigitChars_ten_toDigits, hzero]
    simp
  · next hkept =>
    have hpart : Digits kept := ⟨hkept, fun c hc => hdigits.2 c (List.mem_append_left _ hc)⟩
    rw [decimalNumber?_point (digits_toDigits n) hpart, Nat.ofDigitChars_ten_toDigits, ← hvalue,
      ← hlength]
    congr 2
    push_cast
    rw [pow_add]
    field_simp

/-! ## Fields between labels -/

/-- Fields with a label after each. -/
def filled (labels fields : List (List Char)) : List Char :=
  (List.zipWith (· ++ ·) fields labels).flatten

/-- The label begins with the character, and has it nowhere else. -/
def Closes (c : Char) (label : List Char) : Prop := label.head? = some c ∧ label.count c = 1

instance (c : Char) (label : List Char) : Decidable (Closes c label) :=
  inferInstanceAs (Decidable (label.head? = some c ∧ label.count c = 1))

variable {c : Char} {labels fields others : List (List Char)}

theorem Closes.exists_cons {label : List Char} (h : Closes c label) :
    ∃ rest, label = c :: rest ∧ c ∉ rest := by
  obtain ⟨hhead, hcount⟩ := h
  cases label with
  | nil => exact absurd hhead nofun
  | cons d rest =>
    obtain rfl := Option.some.inj hhead
    rw [List.count_cons_self] at hcount
    exact ⟨rest, rfl, List.count_eq_zero.1 (by omega)⟩

theorem filled_cons (label field : List Char) :
    filled (label :: labels) (field :: fields) = field ++ (label ++ filled labels fields) := by
  rw [filled, List.zipWith_cons_cons, List.flatten_cons, List.append_assoc]
  rfl

/-- Every occurrence of the closing character is that of a label or lies in a field. -/
theorem count_filled (h : ∀ label ∈ labels, Closes c label)
    (hlength : fields.length = labels.length) :
    (filled labels fields).count c = labels.length + fields.flatten.count c := by
  induction labels generalizing fields with
  | nil =>
    obtain rfl := List.eq_nil_of_length_eq_zero hlength
    rfl
  | cons label labels ih =>
    obtain _ | ⟨field, fields⟩ := fields
    · cases hlength
    · rw [List.forall_mem_cons] at h
      rw [filled_cons, List.count_append, List.count_append, h.1.2,
        ih h.2 (Nat.succ.inj hlength), List.flatten_cons, List.count_append, List.length_cons]
      omega

/-- What stands before the first occurrence of a character, and what follows it. -/
theorem append_cons_inj {s t u v : List Char} (hs : c ∉ s) (ht : c ∉ t)
    (h : s ++ c :: u = t ++ c :: v) : s = t ∧ u = v := by
  induction s generalizing t with
  | nil =>
    cases t with
    | nil => exact ⟨rfl, (List.cons.inj h).2⟩
    | cons d t => exact absurd ((List.cons.inj h).1 ▸ List.mem_cons_self) ht
  | cons b s ih =>
    cases t with
    | nil => exact absurd ((List.cons.inj h).1 ▸ List.mem_cons_self) hs
    | cons d t =>
      rw [List.mem_cons, not_or] at hs ht
      obtain ⟨rfl, htail⟩ := List.cons.inj h
      obtain ⟨rfl, hrest⟩ := ih hs.2 ht.2 htail
      exact ⟨rfl, hrest⟩

/-- The fields are told apart when none of them, on either side, has the closing character. -/
theorem fields_eq_of_notMem (h : ∀ label ∈ labels, Closes c label)
    (hlength : fields.length = labels.length) (hlength' : others.length = labels.length)
    (hfields : ∀ field ∈ fields, c ∉ field) (hothers : ∀ field ∈ others, c ∉ field)
    (heq : filled labels fields = filled labels others) : fields = others := by
  induction labels generalizing fields others with
  | nil =>
    rw [List.eq_nil_of_length_eq_zero hlength, List.eq_nil_of_length_eq_zero hlength']
  | cons label labels ih =>
    obtain _ | ⟨field, fields⟩ := fields
    · cases hlength
    obtain _ | ⟨other, others⟩ := others
    · cases hlength'
    rw [List.forall_mem_cons] at h hfields hothers
    -- on both sides the first field ends where the character occurs first
    obtain ⟨rest, rfl, -⟩ := h.1.exists_cons
    rw [filled_cons, filled_cons, List.cons_append, List.cons_append] at heq
    obtain ⟨hfirst, hrest⟩ := append_cons_inj hfields.1 hothers.1 heq
    rw [hfirst, ih h.2 (Nat.succ.inj hlength) (Nat.succ.inj hlength') hfields.2 hothers.2
      (List.append_cancel_left hrest)]

/-- **A line was filled in one way only**, when none of its fields has the character that begins
every label. The fields on the other side can be any: they cannot have it either, as the character
would then occur more often. -/
theorem fields_eq_of_filled_eq (h : ∀ label ∈ labels, Closes c label)
    (hlength : fields.length = labels.length) (hlength' : others.length = labels.length)
    (hfields : ∀ field ∈ fields, c ∉ field) (heq : filled labels fields = filled labels others) :
    fields = others := by
  have hnone : fields.flatten.count c = 0 := by
    rw [List.count_eq_zero]
    intro hmem
    obtain ⟨field, hfield, hc⟩ := List.mem_flatten.1 hmem
    exact hfields field hfield hc
  have hcount :
      labels.length + fields.flatten.count c = labels.length + others.flatten.count c := by
    rw [← count_filled h hlength, ← count_filled h hlength', heq]
  refine fields_eq_of_notMem h hlength hlength' hfields ?_ heq
  intro other hother hc
  have hnone' : others.flatten.count c = 0 := by omega
  exact List.count_eq_zero.1 hnone' (List.mem_flatten.2 ⟨other, hother, hc⟩)

/-- A line of fields with a label after each, and a text before the first. -/
def filledText (start : String) (labels fields : List String) : String :=
  (List.zip fields labels).foldl (fun line pair => line ++ pair.1 ++ pair.2) start

theorem toList_filledText (start : String) (labels fields : List String) :
    (filledText start labels fields).toList =
      start.toList ++ filled (labels.map String.toList) (fields.map String.toList) := by
  unfold filledText
  induction fields generalizing start labels with
  | nil => exact (List.append_nil _).symm
  | cons field fields ih =>
    cases labels with
    | nil => exact (List.append_nil _).symm
    | cons label labels =>
      rw [List.zip_cons_cons, List.foldl_cons, ih, String.toList_append, String.toList_append,
        List.map_cons, List.map_cons, filled_cons, List.append_assoc, List.append_assoc]

/-- **A line was filled in one way only**: the texts of its fields can be told from it. -/
theorem texts_eq_of_filledText_eq {c : Char} {start : String} {labels fields others : List String}
    (h : ∀ label ∈ labels, Closes c label.toList) (hlength : fields.length = labels.length)
    (hlength' : others.length = labels.length) (hfields : ∀ field ∈ fields, c ∉ field.toList)
    (heq : filledText start labels fields = filledText start labels others) : fields = others := by
  have hchars := congrArg String.toList heq
  rw [toList_filledText, toList_filledText] at hchars
  have hlists : fields.map String.toList = others.map String.toList :=
    fields_eq_of_filled_eq (List.forall_mem_map.2 h) (by simpa using hlength)
      (by simpa using hlength') (List.forall_mem_map.2 hfields) (List.append_cancel_left hchars)
  exact (List.map_inj_right fun _ _ => String.toList_inj.1).1 hlists

end GpuMonitor.Text
