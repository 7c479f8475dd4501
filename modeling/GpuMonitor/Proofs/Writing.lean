import GpuMonitor.Proofs.Monitoring

/-!
# Writing a text to a writer

A writer takes a text in parts as it likes. What it has taken in the end does not hang on the
parts: it is the text, or as much of the text as there is room for.

* `Writer.Willing`: every write takes something while there is room, or is interrupted, but
  never two in a row.
* `Writer.Writes`: what comes of writing a text; it passes from texts to their concatenation
  (`Writes.append`, `Writes.append_cut`).

Main results:

* `Bench.writeAll_writes`, `Bench.writePieces_writes`: a text is written so in one piece or in
  several.
-/

namespace GpuMonitor.Monitor

variable {σ : Type}

namespace Writer

/-! ## Room -/

/-- The writer after `text` was taken by its writes up to the `n`th one. -/
def after (w : Writer) (n : Nat) (text : List Char) : Writer :=
  { w with
    writes := n
    room := w.room.map (· - text.length)
    kept := text.reverse ++ w.kept }

@[simp] theorem taken_after (w : Writer) (n : Nat) (text : List Char) :
    (w.after n text).taken = w.taken ++ text := by
  simp [after, taken]

theorem after_after (w : Writer) (m n : Nat) (text rest : List Char) :
    (w.after m text).after n rest = w.after n (text ++ rest) := by
  have hroom : (w.room.map (· - text.length)).map (· - rest.length) =
      w.room.map (· - (text ++ rest).length) := by
    cases w.room <;> simp [Nat.sub_sub]
  simp [after, hroom]

/-- There is room for the whole text. -/
def Fits (w : Writer) (text : List Char) : Prop := ∀ room ∈ w.room, text.length ≤ room

theorem fits_nil (w : Writer) : w.Fits [] := fun _ _ => Nat.zero_le _

theorem Fits.of_length_le {w : Writer} {text rest : List Char} (h : w.Fits rest)
    (hle : text.length ≤ rest.length) : w.Fits text := fun room hroom =>
  Nat.le_trans hle (h room hroom)

theorem fits_append {w : Writer} {n : Nat} {text rest : List Char} (h : w.Fits text) :
    w.Fits (text ++ rest) ↔ (w.after n text).Fits rest := by
  cases hroom : w.room with
  | none => simp [Fits, after, hroom]
  | some room =>
    have hle : text.length ≤ room := h room hroom
    simp [Fits, after, hroom]
    omega

/-- Why a text is cut off that there is no room for. -/
def refusal (w : Writer) : WriteFailure :=
  match w.whenFull with
  | .failed failure => failure
  | _ => .nothingAccepted

/-- Each write to come takes something while there is room, or it is interrupted, but never two
in a row; without room it fails or takes nothing. -/
structure Willing (w : Writer) : Prop where
  takes : ∀ n, w.writes < n → w.most n ≠ some 0
  patient : ∀ n, w.writes < n → w.interrupts n = true → w.interrupts (n + 1) = false
  sound : ∀ n, w.writes < n → w.failure n = none
  full : w.room ≠ none → w.whenFull = .accepted 0 ∨ ∃ failure, w.whenFull = .failed failure

theorem Willing.after {w : Writer} (h : w.Willing) {n : Nat} (hn : w.writes ≤ n)
    (text : List Char) : (w.after n text).Willing where
  takes m hm := h.takes m (Nat.lt_of_le_of_lt hn hm)
  patient m hm := h.patient m (Nat.lt_of_le_of_lt hn hm)
  sound m hm := h.sound m (Nat.lt_of_le_of_lt hn hm)
  full hroom := h.full fun hnone => hroom (by simp [Writer.after, hnone])

/-! ## What comes of writing a text -/

/-- A text is taken whole in some writes, or it is cut off where the room ends. -/
inductive Writes (w : Writer) (text : List Char) : Except Halt Unit → Writer → Prop where
  | whole (n : Nat) (hn : w.writes ≤ n) (h : w.Fits text) :
    Writes w text (.ok ()) (w.after n text)
  | cut (n room : Nat) (hn : w.writes ≤ n) (hroom : w.room = some room)
    (h : room < text.length) :
    Writes w text (.error (.failed w.refusal)) (w.after n (text.take room))

theorem Writes.append {w w' w'' : Writer} {text rest : List Char} {result : Except Halt Unit}
    (h : Writes w text (.ok ()) w') (h' : Writes w' rest result w'') :
    Writes w (text ++ rest) result w'' := by
  cases h with
  | whole n hn hfits =>
    cases h' with
    | whole m hm hfits' =>
      rw [after_after]
      exact .whole m (Nat.le_trans hn hm) ((fits_append hfits).2 hfits')
    | cut m room hm hroom hlt =>
      -- the room that is left ends in the rest, so the whole room ends behind the text
      obtain ⟨room', hroom', rfl⟩ : ∃ room', w.room = some room' ∧ room' - text.length = room := by
        simpa [after, Option.map_eq_some_iff] using hroom
      have hle : text.length ≤ room' := hfits room' hroom'
      have htake : text ++ rest.take (room' - text.length) = (text ++ rest).take room' := by
        rw [List.take_append, List.take_of_length_le hle]
      rw [after_after, htake]
      refine .cut m room' (Nat.le_trans hn hm) hroom' ?_
      rw [List.length_append]
      omega

/-- What is cut off stays so, whatever would have been written after it. -/
theorem Writes.append_cut {w w' : Writer} {text : List Char} {halt : Halt}
    (h : Writes w text (.error halt) w') (rest : List Char) :
    Writes w (text ++ rest) (.error halt) w' := by
  cases h with
  | cut n room hn hroom hlt =>
    have htake : (text ++ rest).take room = text.take room :=
      List.take_append_of_le_length (Nat.le_of_lt hlt)
    rw [← htake]
    refine .cut n room hn hroom ?_
    rw [List.length_append]
    omega

theorem Writes.willing {w w' : Writer} {text : List Char} {result : Except Halt Unit}
    (h : Writes w text result w') (hw : w.Willing) : w'.Willing := by
  cases h with
  | whole n hn _ => exact hw.after hn _
  | cut n room hn _ _ => exact hw.after hn _

/-! ## One write -/

section
variable {w : Writer}

theorem write_of_interrupted (text : List Char) (h : w.interrupts (w.writes + 1) = true) :
    (write text w).value = (.interrupted, w.after (w.writes + 1) []) := by
  simp [write, h, after]

theorem write_of_full (hw : w.Willing) (text : List Char)
    (hi : w.interrupts (w.writes + 1) = false) (hroom : w.room = some 0) :
    (write text w).value = (w.whenFull, w.after (w.writes + 1) []) := by
  simp [write, hi, hw.sound _ (Nat.lt_succ_self _), hroom, after]

/-- What a willing writer takes of a text is a part of it that there is room for. -/
theorem share_spec (hw : w.Willing) {text : List Char} (htext : text ≠ [])
    (hroom : w.room ≠ some 0) :
    0 < w.share text ∧ w.share text ≤ text.length ∧ w.Fits (text.take (w.share text)) := by
  have hlen : 0 < text.length := List.length_pos_iff.2 htext
  have hmost := hw.takes _ (Nat.lt_succ_self w.writes)
  unfold Fits share
  cases hr : w.room <;> cases hm : w.most (w.writes + 1) <;> simp_all <;> omega

theorem write_of_room (hw : w.Willing) (text : List Char)
    (hi : w.interrupts (w.writes + 1) = false) (hroom : w.room ≠ some 0)
    (hle : w.share text ≤ text.length) :
    (write text w).value =
      (.accepted (w.share text), w.after (w.writes + 1) (text.take (w.share text))) := by
  simp [write, hi, hw.sound _ (Nat.lt_succ_self _), hroom, after, List.length_take,
    Nat.min_eq_left hle, List.reverseAux_eq]

end

end Writer

/-! ## On a bench -/

namespace Bench

variable (sample : Action σ (Except Failure Utilization))

/-- Writing a text that is not empty begins with one write of the whole text. -/
theorem writeAll_cons (attempts : Nat) {text : List Char} (htext : text ≠ []) (s : σ)
    (b : Bench) :
    ((setting sample).writeAll (attempts + 1) text).run (s, b) =
      (match (Writer.write text b.writer).value.1 with
        | .accepted 0 => throw (.failed .nothingAccepted)
        | .accepted count => (setting sample).writeAll attempts (text.drop count)
        | .interrupted => (setting sample).writeAll attempts text
        | .failed failure => throw (.failed failure) : Step (σ × Bench) Unit).run
        (s, { b with writer := (Writer.write text b.writer).value.2 }) := by
  rw [Setting.writeAll.eq_3 _ _ _ htext]
  have hwrite : (liftM ((setting sample).write text) : Step (σ × Bench) WriteReply).run (s, b) =
      { value := (.ok (Writer.write text b.writer).value.1,
          (s, { b with writer := (Writer.write text b.writer).value.2 })) } := by
    apply Traced.ext'
    · rfl
    · exact Writer.trace_write _ _
  exact run_bind_ok hwrite

theorem writeAll_nil (attempts : Nat) (s : σ) (b : Bench) :
    ((setting sample).writeAll attempts []).run (s, b) =
      { value := (.ok (), (s, { b with writer := b.writer.after b.writer.writes [] })) } := by
  cases attempts <;> simp [Setting.writeAll, Writer.after] <;> rfl

/-- A text is written whole, or it is cut off where the room ends. Two attempts for each
character are enough, and one less if the first of them is not interrupted. -/
theorem writeAll_writes {b : Bench} (hw : b.writer.Willing) {attempts : Nat} {text : List Char}
    (h : 2 * text.length ≤ attempts ∨
      b.writer.interrupts (b.writer.writes + 1) = false ∧ 2 * text.length ≤ attempts + 1)
    (s : σ) :
    ∃ result w, b.writer.Writes text result w ∧
      ((setting sample).writeAll attempts text).run (s, b) =
        { value := (result, (s, { b with writer := w })) } := by
  induction attempts generalizing b text with
  | zero =>
    obtain rfl : text = [] := List.length_eq_zero_iff.1 (by omega)
    exact ⟨_, _, .whole _ (Nat.le_refl _) (Writer.fits_nil _), writeAll_nil sample _ s b⟩
  | succ n ih =>
    by_cases htext : text = []
    · subst htext
      exact ⟨_, _, .whole _ (Nat.le_refl _) (Writer.fits_nil _), writeAll_nil sample _ s b⟩
    rw [writeAll_cons sample n htext]
    have hnext : b.writer.writes ≤ b.writer.writes + 1 := Nat.le_succ _
    cases hi : b.writer.interrupts (b.writer.writes + 1) with
    | true =>
      -- the same text is offered again, and this time it is not interrupted
      rw [Writer.write_of_interrupted text hi]
      have hi' := hw.patient _ (Nat.lt_succ_self _) hi
      have hn : 2 * text.length ≤ n + 1 := by simpa [hi] using h
      obtain ⟨result, w, hwrites, hrun⟩ :=
        ih (b := { b with writer := b.writer.after (b.writer.writes + 1) [] })
          (hw.after hnext _) (.inr ⟨hi', hn⟩)
      exact ⟨result, w, Writer.Writes.append (.whole _ hnext (Writer.fits_nil _)) hwrites, hrun⟩
    | false =>
      by_cases hroom : b.writer.room = some 0
      · rw [Writer.write_of_full hw text hi hroom]
        refine ⟨_, _, .cut (b.writer.writes + 1) 0 hnext hroom (List.length_pos_iff.2 htext), ?_⟩
        rcases hw.full (by simp [hroom]) with hfull | ⟨failure, hfull⟩ <;>
          simp [hfull, Writer.refusal] <;> rfl
      · -- some of the text is taken, and the rest of it is shorter
        obtain ⟨hpos, hle, hfits⟩ := Writer.share_spec hw htext hroom
        rw [Writer.write_of_room hw text hi hroom hle]
        obtain ⟨count, hcount⟩ : ∃ count, b.writer.share text = count + 1 :=
          ⟨b.writer.share text - 1, by omega⟩
        have hrest : 2 * (text.drop (b.writer.share text)).length ≤ n := by
          rw [List.length_drop]
          omega
        obtain ⟨result, w, hwrites, hrun⟩ :=
          ih (b := { b with
              writer := b.writer.after (b.writer.writes + 1) (text.take (b.writer.share text)) })
            (hw.after hnext _) (.inl hrest)
        have hwhole := Writer.Writes.append (.whole _ hnext hfits) hwrites
        rw [List.take_append_drop] at hwhole
        refine ⟨result, w, hwhole, ?_⟩
        rw [← hrun, hcount]
        rfl

/-- Texts are written one after the other as one text is. -/
theorem writePieces_writes {b : Bench} (hw : b.writer.Willing) {attempts : Nat}
    {pieces : List String} (h : 2 * (pieces.flatMap String.toList).length ≤ attempts) (s : σ) :
    ∃ result w, b.writer.Writes (pieces.flatMap String.toList) result w ∧
      ((setting sample).writePieces attempts pieces).run (s, b) =
        { value := (result, (s, { b with writer := w })) } := by
  induction pieces generalizing b with
  | nil => exact ⟨_, _, .whole _ (Nat.le_refl _) (Writer.fits_nil _), writeAll_nil sample 0 s b⟩
  | cons piece rest ih =>
    rw [List.flatMap_cons, List.length_append] at h
    rw [List.flatMap_cons]
    have hpiece : 2 * piece.toList.length ≤ attempts := by omega
    obtain ⟨result, w, hwrites, hrun⟩ := writeAll_writes sample hw (.inl hpiece) s
    cases result with
    | error halt => exact ⟨_, _, hwrites.append_cut _, run_bind_error hrun⟩
    | ok _ =>
      obtain ⟨result', w', hwrites', hrun'⟩ :=
        ih (b := { b with writer := w }) (hwrites.willing hw) (by omega)
      refine ⟨_, _, hwrites.append hwrites', ?_⟩
      rw [Setting.writePieces, run_bind_ok hrun, hrun']
      rfl

end Bench

end GpuMonitor.Monitor
