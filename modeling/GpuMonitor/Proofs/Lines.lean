import GpuMonitor.Proofs.Rounds

/-!
# The lines that a loop writes

A loop writes a line for each result. Its characters are printable ASCII up to the newline that
ends it, so a character is a byte, and the lines can be told apart in what is written.

* `Printable`: a printable ASCII character.
* `firstLines`: the first so many lines of a text.

Main results:

* `line_eq`: a line is one line, and printable.
* `firstLines_shown`: the first lines of what is written for some results are those written for
  the first of them.
-/

namespace GpuMonitor

/-- A printable ASCII character. -/
def Printable (c : Char) : Prop := 32 ≤ c.toNat ∧ c.toNat ≤ 126

instance (c : Char) : Decidable (Printable c) :=
  inferInstanceAs (Decidable (32 ≤ c.toNat ∧ c.toNat ≤ 126))

theorem printable_of_all {t : List Char} (h : t.all fun c => decide (Printable c)) :
    ∀ c ∈ t, Printable c := by
  intro c hc
  exact of_decide_eq_true (List.all_eq_true.1 h c hc)

theorem printable_of_isDigit {c : Char} (h : c.isDigit = true) : Printable c := by
  simp only [Char.isDigit, Bool.and_eq_true, decide_eq_true_eq, UInt32.le_iff_toNat_le] at h
  unfold Printable
  change 48 ≤ c.toNat ∧ c.toNat ≤ 57 at h
  omega

/-- The characters of a number: digits, the sign, the point, and the letters of what is not
finite. -/
theorem Binary64.of_mem_chars {x : Binary64} {c : Char} (hc : c ∈ x.chars) :
    c.isDigit = true ∨ c ∈ ['-', '.', 'N', 'a', 'i', 'n', 'f'] := by
  have hsign {negative : Bool} (hc : c ∈ chars.signChars negative) :
      c ∈ ['-', '.', 'N', 'a', 'i', 'n', 'f'] := by
    cases negative with
    | false => cases hc
    | true => exact List.mem_singleton.1 hc ▸ List.mem_cons_self
  cases x with
  | nan => exact .inr ((by decide : ['N', 'a', 'N'] ⊆ ['-', '.', 'N', 'a', 'i', 'n', 'f']) hc)
  | infinite negative =>
    rcases List.mem_append.1 hc with hc | hc
    · exact .inr (hsign hc)
    · exact .inr ((by decide : ['i', 'n', 'f'] ⊆ ['-', '.', 'N', 'a', 'i', 'n', 'f']) hc)
  | finite negative m =>
    -- the sign, the digits before the point, the point, and the digit behind it
    rcases List.mem_append.1 hc with hc | hc
    · exact .inr (hsign hc)
    · rcases List.mem_append.1 hc with hc | hc
      · exact .inl (Nat.isDigit_of_mem_toDigits (by decide) (by decide) hc)
      · rcases List.mem_cons.1 hc with rfl | hc
        · exact .inr (by decide)
        · exact .inl (Nat.isDigit_of_mem_toDigits (by decide) (by decide) hc)

theorem Binary64.printable_chars (x : Binary64) : ∀ c ∈ x.chars, Printable c := by
  intro c hc
  rcases of_mem_chars hc with hdigit | hother
  · exact printable_of_isDigit hdigit
  · exact printable_of_all (by decide) c hother

theorem Utilization.printable_text (u : Utilization) : ∀ c ∈ u.text.toList, Printable c := by
  have hnumber (x : Binary64) : ∀ c ∈ x.text.toList, Printable c := by
    rw [Binary64.text, String.toList_ofList]
    exact x.printable_chars
  have hpieces : ∀ piece ∈ u.pieces, ∀ c ∈ piece.toList, Printable c := by
    simp only [pieces, List.forall_mem_cons]
    exact ⟨printable_of_all (by decide), hnumber _, printable_of_all (by decide), hnumber _,
      printable_of_all (by decide), hnumber _, printable_of_all (by decide), hnumber _,
      printable_of_all (by decide), hnumber _, printable_of_all (by decide), by simp⟩
  intro c hc
  obtain ⟨piece, hmem, hpiece⟩ : ∃ piece ∈ u.pieces, c ∈ piece.toList := by
    simpa [text, String.toList_join] using hc
  exact hpieces piece hmem c hpiece

namespace Monitor

/-- The first so many lines of a text, with the newlines that end them. -/
def firstLines : Nat → List Char → List Char
  | 0, _ => []
  | _ + 1, [] => []
  | n + 1, c :: rest => c :: if c = '\n' then firstLines n rest else firstLines (n + 1) rest

theorem firstLines_append {body : List Char} (h : ∀ c ∈ body, Printable c) (n : Nat)
    (rest : List Char) :
    firstLines (n + 1) (body ++ '\n' :: rest) = body ++ '\n' :: firstLines n rest := by
  induction body with
  | nil => simp [firstLines]
  | cons c body ih =>
    -- a printable character does not end the line
    have hc : c ≠ '\n' := by
      rintro rfl
      exact absurd (h _ List.mem_cons_self) (by decide)
    simp [firstLines, hc, ih fun d hd => h d (List.mem_cons_of_mem _ hd)]

/-- A line is printable up to the newline that ends it. -/
theorem line_eq (result : Except Failure Utilization) :
    ∃ body, (line result).toList = body ++ ['\n'] ∧ ∀ c ∈ body, Printable c := by
  cases result with
  | ok u => exact ⟨u.text.toList, String.toList_append, u.printable_text⟩
  | error f =>
    refine ⟨"Error reading GPU utilization".toList, ?_, printable_of_all (by decide)⟩
    rw [line]
    decide

@[simp] theorem firstLines_zero (text : List Char) : firstLines 0 text = [] := by
  cases text <;> simp [firstLines]

/-- The first lines of the lines of some results are the lines of the first results. -/
theorem firstLines_flatMap (results : List (Except Failure Utilization)) {n : Nat} :
    firstLines n (results.flatMap fun result => (line result).toList) =
      (results.take n).flatMap fun result => (line result).toList := by
  induction results generalizing n with
  | nil => cases n <;> rfl
  | cons result rest ih =>
    cases n with
    | zero => simp
    | succ n =>
      obtain ⟨body, hbody, hprintable⟩ := line_eq result
      rw [List.take_succ_cons, List.flatMap_cons, List.flatMap_cons, hbody, ← ih]
      simpa using firstLines_append hprintable n _

variable {σ : Type} (sample : Action σ (Except Failure Utilization))

theorem length_asking (s : σ) (n : Nat) : (asking sample n s).value.1.length = n := by
  induction n with
  | zero => rfl
  | succ n ih => simp [asking_succ, ih]

theorem take_asking (s : σ) {k n : Nat} (h : k ≤ n) :
    (asking sample n s).value.1.take k = (asking sample k s).value.1 := by
  induction h with
  | refl => exact List.take_of_length_le (Nat.le_of_eq (length_asking sample s k))
  | step hle ih =>
    rw [asking_succ, List.take_append_of_le_length (by rw [length_asking]; exact hle), ih]

/-- The first lines of what is written for some results are those written for the first of
them. -/
theorem firstLines_shown (s : σ) {k n : Nat} (h : k ≤ n) :
    firstLines k (shown sample s n) = shown sample s k := by
  unfold shown
  rw [firstLines_flatMap, take_asking sample s h]

theorem printable_shown (s : σ) (n : Nat) :
    ∀ c ∈ shown sample s n, Printable c ∨ c = '\n' := by
  intro c hc
  obtain ⟨result, -, hline⟩ := List.mem_flatMap.1 hc
  obtain ⟨body, hbody, hprintable⟩ := line_eq result
  rw [hbody, List.mem_append, List.mem_singleton] at hline
  exact hline.imp_left (hprintable c)

end Monitor
end GpuMonitor
