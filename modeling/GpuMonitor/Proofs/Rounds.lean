import GpuMonitor.Proofs.Bound
import GpuMonitor.Proofs.Writing
import Mathlib.Data.Nat.Find

/-!
# The rounds of a loop on a bench

Where writes take something while there is room, what a loop does is a function of the
results of its source, of the flag after each pause and of what becomes of each flush. No
round but the first that ends the loop needs to be looked at twice.

* `asking`, `resultAt`: a source that is asked time after time.
* `line`, `report`, `shown`: what is written and logged for a result, and for all results.
* `Bench.flagAfter`, `Bench.later`: the flag after a pause; the bench after some rounds.
* `Seen`, `Bench.Shows`: what there is to see of a loop that has ended.
* `Bench.verdict`: how a round ends the loop, if it does.

Main results:

* `Bench.shows_iff`: a loop ends as the first verdict says.
* `Bench.unfinished_of_verdict`: it does not end if there is no verdict.
-/

namespace GpuMonitor.Monitor

variable {σ : Type}

/-! ## Results -/

/-- What is written for a result. -/
def line : Except Failure Utilization → String
  | .ok u => u.text ++ "\n"
  | .error _ => "Error reading GPU utilization\n"

/-- What is logged for a result. -/
def report : Except Failure Utilization → Trace
  | .ok _ => []
  | .error f => [.log .error ("Error reading GPU utilization: " ++ f.message)]

theorem toList_line_ok (u : Utilization) :
    (line (.ok u)).toList = (u.pieces ++ ["\n"]).flatMap String.toList := by
  simp [line, Utilization.text, List.flatMap_append]

section
variable (sample : Action σ (Except Failure Utilization))

/-- Asks a source for so many results, one after the other. -/
def asking : Nat → Action σ (List (Except Failure Utilization))
  | 0 => pure []
  | n + 1 => do
    let results ← asking n
    return results ++ [← sample]

/-- The result that a source gives after so many others. -/
def resultAt (s : σ) (n : Nat) : Except Failure Utilization :=
  (sample (asking sample n s).value.2).value.1

/-- The lines of the first so many results. -/
def shown (s : σ) (n : Nat) : List Char :=
  (asking sample n s).value.1.flatMap fun result => (line result).toList

theorem asking_succ (s : σ) (n : Nat) :
    asking sample (n + 1) s =
      { value := ((asking sample n s).value.1 ++ [resultAt sample s n],
          (sample (asking sample n s).value.2).value.2)
        trace := (asking sample n s).trace ++ (sample (asking sample n s).value.2).trace } := by
  apply Traced.ext' <;> simp [asking, resultAt]

theorem shown_zero (s : σ) : shown sample s 0 = [] := rfl

theorem shown_succ (s : σ) (n : Nat) :
    shown sample s (n + 1) = shown sample s n ++ (line (resultAt sample s n)).toList := by
  simp [shown, asking_succ]

theorem shown_prefix_of_le (s : σ) {m n : Nat} (h : m ≤ n) : shown sample s m <+: shown sample s n := by
  induction h with
  | refl => exact List.prefix_rfl
  | step _ ih =>
    rw [shown_succ]
    exact ih.trans (List.prefix_append _ _)

theorem length_shown_mono (s : σ) {m n : Nat} (h : m ≤ n) :
    (shown sample s m).length ≤ (shown sample s n).length := (shown_prefix_of_le sample s h).length_le

end

/-! ## The ways a round ends -/

namespace Setting

variable {S : Setting σ} {mode : Mode} {interval : Duration} {attempts n : Nat}
  {s s₁ s₂ s₃ : σ} {t₁ t₂ : Trace}

theorem rounds_of_round {x : Except Halt (Option Summary)}
    (h : (S.round mode interval attempts n).run s = { value := (x, s₁), trace := t₁ }) :
    S.rounds mode interval attempts n s = { value := (ending x, s₁), trace := t₁ } := by
  apply Traced.ext'
  · rw [rounds, Action.value_map, h]
  · rw [rounds, Action.trace_map, h]

theorem rounds_of_error {f : Failure}
    (hs : S.sample s = { value := (.error f, s₁), trace := t₁ }) {x : Except Halt Unit}
    (hc : (S.complain attempts f).run s₁ = { value := (x, s₂), trace := t₂ }) :
    S.rounds mode interval attempts n s =
      { value := (some (x.map fun _ => ⟨n, .sampleFailed⟩), s₂), trace := t₁ ++ t₂ } := by
  cases x with
  | error halt =>
    refine rounds_of_round (x := .error halt) ?_
    unfold round
    rw [run_bind_ok (run_lift _ _), hs, run_bind_error hc]
  | ok _ =>
    refine rounds_of_round (x := .ok (some ⟨n, .sampleFailed⟩)) ?_
    unfold round
    rw [run_bind_ok (run_lift _ _), hs, run_bind_ok hc]
    apply Traced.ext'
    · rfl
    · simp

section
variable {u : Utilization} (hs : S.sample s = { value := (.ok u, s₁), trace := t₁ })
include hs

theorem rounds_of_halt {halt : Halt}
    (hshow : (S.showSample attempts u).run s₁ = { value := (.error halt, s₂), trace := t₂ }) :
    S.rounds mode interval attempts n s =
      { value := (some (.error halt), s₂), trace := t₁ ++ t₂ } := by
  refine rounds_of_round (x := .error halt) ?_
  unfold round
  rw [run_bind_ok (run_lift _ _), hs, run_bind_error hshow]

variable (hshow : (S.showSample attempts u).run s₁ = { value := (.ok (), s₂), trace := t₂ })
include hshow

theorem rounds_of_snapshot :
    S.rounds .snapshot interval attempts n s =
      { value := (some (.ok ⟨n + 1, .snapshotTaken⟩), s₂), trace := t₁ ++ t₂ } := by
  refine rounds_of_round (x := .ok (some ⟨n + 1, .snapshotTaken⟩)) ?_
  unfold round
  rw [run_bind_ok (run_lift _ _), hs, run_bind_ok hshow]
  apply Traced.ext'
  · rfl
  · simp

/-- The pause may leave a trace of its own. -/
theorem rounds_of_paused {t₃ : Trace}
    (hpause : (liftM (S.pause interval) : Step σ Unit).run s₂ =
      { value := (.ok (), s₃), trace := t₃ }) :
    S.rounds .continuous interval attempts n s =
      { value := (if S.running s₃ then none else some (.ok ⟨n + 1, .interrupted⟩), s₃)
        trace := t₁ ++ (t₂ ++ t₃) } := by
  have hround : (S.round .continuous interval attempts n).run s =
      { value := (.ok (if S.running s₃ then none else some ⟨n + 1, .interrupted⟩), s₃)
        trace := t₁ ++ (t₂ ++ t₃) } := by
    unfold round
    have hget : (get : Step σ σ).run s₃ = { value := (.ok s₃, s₃) } := rfl
    rw [run_bind_ok (run_lift _ _), hs, run_bind_ok hshow, run_bind_ok hpause, run_bind_ok hget]
    cases S.running s₃ <;> apply Traced.ext' <;> simp
  rw [rounds_of_round hround]
  cases S.running s₃ <;> rfl

theorem rounds_of_continuous
    (hpause : (liftM (S.pause interval) : Step σ Unit).run s₂ = { value := (.ok (), s₃) }) :
    S.rounds .continuous interval attempts n s =
      { value := (if S.running s₃ then none else some (.ok ⟨n + 1, .interrupted⟩), s₃)
        trace := t₁ ++ t₂ } := by
  rw [rounds_of_paused hs hshow hpause, List.append_nil]

end

end Setting

/-! ## The bench after some rounds -/

namespace Writer

/-- What the writer takes of a text in all. -/
def portion (w : Writer) (text : List Char) : List Char :=
  match w.room with
  | none => text
  | some room => text.take room

theorem portion_of_fits {w : Writer} {text : List Char} (h : w.Fits text) :
    w.portion text = text := by
  unfold portion
  cases hroom : w.room with
  | none => rfl
  | some room => exact List.take_of_length_le (h room hroom)

theorem not_fits {w : Writer} {text : List Char} {room : Nat} (hroom : w.room = some room)
    (h : room < text.length) : ¬ w.Fits text := fun hfits =>
  absurd (hfits room hroom) (Nat.not_le.2 h)

instance (w : Writer) (text : List Char) : Decidable (w.Fits text) :=
  inferInstanceAs (Decidable (∀ room ∈ w.room, text.length ≤ room))

/-- What comes of writing a text, in one equation. -/
theorem Writes.eq {w w' : Writer} {text : List Char} {result : Except Halt Unit}
    (h : Writes w text result w') :
    ∃ n, w.writes ≤ n ∧ w' = w.after n (w.portion text) ∧
      result = if w.Fits text then .ok () else .error (.failed w.refusal) := by
  cases h with
  | whole n hn hfits => exact ⟨n, hn, by rw [portion_of_fits hfits], by rw [if_pos hfits]⟩
  | cut n room hn hroom hlt =>
    exact ⟨n, hn, by simp [portion, hroom], by rw [if_neg (not_fits hroom hlt)]⟩

end Writer

namespace Bench

/-- The flag after so many pauses. -/
def flagAfter (b : Bench) : Nat → Bool
  | 0 => b.running
  | n + 1 => b.change (b.paused + n + 1) (b.flagAfter n)

/-- The bench after so many flushes and such pauses, when `text` was taken by the writes up to
the `n`th one. -/
def later (b : Bench) (n : Nat) (text : List Char) (flushes : Nat) (pauses : List Duration) :
    Bench where
  writer := { b.writer with flushes := b.writer.flushes + flushes }.after n text
  running := b.flagAfter pauses.length
  change := b.change
  paused := b.paused + pauses.length
  lengths := pauses.reverse ++ b.lengths

theorem later_nil (b : Bench) : b.later b.writer.writes [] 0 [] = b := by
  simp [later, Writer.after, flagAfter]

@[simp] theorem taken_later (b : Bench) (n : Nat) (text : List Char) (flushes : Nat)
    (pauses : List Duration) :
    (b.later n text flushes pauses).writer.taken = b.writer.taken ++ text :=
  Writer.taken_after _ _ _

@[simp] theorem flushes_later (b : Bench) (n : Nat) (text : List Char) (flushes : Nat)
    (pauses : List Duration) :
    (b.later n text flushes pauses).writer.flushes = b.writer.flushes + flushes := rfl

@[simp] theorem pauses_later (b : Bench) (n : Nat) (text : List Char) (flushes : Nat)
    (pauses : List Duration) : (b.later n text flushes pauses).pauses = b.pauses ++ pauses := by
  simp [later, Bench.pauses]

section
variable (sample : Action σ (Except Failure Utilization)) {b : Bench}

theorem pause_later (n : Nat) (text : List Char) (flushes : Nat) (pauses : List Duration)
    (length : Duration) (s : σ) :
    (liftM ((setting sample).pause length) : Step (σ × Bench) Unit).run
        (s, b.later n text flushes pauses) =
      { value := (.ok (), (s, b.later n text flushes (pauses ++ [length]))) } := by
  have hpauses : (pauses ++ [length]).length = pauses.length + 1 := List.length_append
  apply Traced.ext'
  · simp [run_lift, setting, pause, later, flagAfter, hpauses, Nat.add_assoc]
  · rfl

theorem running_later (n : Nat) (text : List Char) (flushes : Nat) (pauses : List Duration)
    (s : σ) : (setting sample).running (s, b.later n text flushes pauses) =
      b.flagAfter pauses.length := rfl

theorem flush_later (n : Nat) (text : List Char) (flushes : Nat) (pauses : List Duration)
    (s : σ) :
    (liftM (setting sample).flush : Step (σ × Bench) (Except WriteFailure Unit)).run
        (s, b.later n text flushes pauses) =
      { value := (.ok (match b.writer.flushFailure (b.writer.flushes + (flushes + 1)) with
          | none => .ok ()
          | some failure => .error failure),
          (s, b.later n text (flushes + 1) pauses)) } := by
  cases hf : b.writer.flushFailure (b.writer.flushes + (flushes + 1)) <;>
    simp [run_lift, setting, onWriter, within, Writer.flush, later, Writer.after, hf,
      Nat.add_assoc]

theorem flushAll_later (n : Nat) (text : List Char) (flushes : Nat) (pauses : List Duration)
    (s : σ) :
    (setting sample).flushAll.run (s, b.later n text flushes pauses) =
      { value := ((match b.writer.flushFailure (b.writer.flushes + (flushes + 1)) with
          | none => .ok ()
          | some failure => .error (.failed failure)),
          (s, b.later n text (flushes + 1) pauses)) } := by
  refine (run_bind_ok (flush_later sample n text flushes pauses s)).trans ?_
  cases b.writer.flushFailure (b.writer.flushes + (flushes + 1)) <;> rfl

/-- Behind a text that there was room for, some pieces are written, or cut off where the room
ends. -/
theorem writePieces_later (hw : b.writer.Willing) {text more : List Char} {pieces : List String}
    (hpieces : pieces.flatMap String.toList = more) (hfits : b.writer.Fits text) {n : Nat}
    (hn : b.writer.writes ≤ n) {attempts : Nat} (ha : 2 * more.length ≤ attempts)
    (flushes : Nat) (pauses : List Duration) (s : σ) :
    ∃ n', b.writer.writes ≤ n' ∧
      ((setting sample).writePieces attempts pieces).run (s, b.later n text flushes pauses) =
        { value := ((if b.writer.Fits (text ++ more) then .ok ()
            else .error (.failed b.writer.refusal)),
            (s, b.later n' (b.writer.portion (text ++ more)) flushes pauses)) } := by
  subst hpieces
  have hflushed : Writer.Willing { b.writer with flushes := b.writer.flushes + flushes } :=
    ⟨hw.takes, hw.patient, hw.sound, hw.full⟩
  have hlater : (b.later n text flushes pauses).writer.Willing := hflushed.after hn text
  obtain ⟨result, w', hwrites, hrun⟩ := writePieces_writes sample hlater ha s
  have hwhole : Writer.Writes { b.writer with flushes := b.writer.flushes + flushes }
      (text ++ pieces.flatMap String.toList) result w' := .append (.whole n hn hfits) hwrites
  obtain ⟨n', hn', rfl, rfl⟩ := hwhole.eq
  exact ⟨n', hn', hrun⟩

end

end Bench

/-! ## What there is to see of a loop -/

/-- What there is to see of a loop that has ended. -/
structure Seen (σ : Type) where
  result : Except WriteFailure Summary
  /-- What the writer has taken. -/
  output : List Char
  flushes : Nat
  pauses : List Duration
  /-- How the source is left. -/
  source : σ
  events : Trace

namespace Bench

variable (sample : Action σ (Except Failure Utilization)) (mode : Mode) (interval : Duration)

/-- With every bound that is large enough the loop ends, and this is what there is to see. -/
def Shows (b : Bench) (s : σ) (o : Seen σ) : Prop :=
  ∃ enough, ∀ bound, enough ≤ bound → ∃ b',
    b.run sample mode interval bound s =
      { value := ((o.result.mapError .failed, b'), o.source), trace := o.events } ∧
    b'.writer.taken = b.writer.taken ++ o.output ∧
    b'.writer.flushes = b.writer.flushes + o.flushes ∧
    b'.pauses = b.pauses ++ o.pauses

/-- How the round after `n` others ends the loop, if it does. -/
def verdict (b : Bench) (s : σ) (n : Nat) : Option (Seen σ) :=
  let seen (result : Except WriteFailure Summary) (flushes pauses : Nat) : Seen σ :=
    { result, flushes
      output := b.writer.portion (shown sample s (n + 1))
      pauses := List.replicate pauses interval
      source := (asking sample (n + 1) s).value.2
      events := (asking sample (n + 1) s).trace ++ report (resultAt sample s n) }
  if b.writer.Fits (shown sample s (n + 1)) then
    match resultAt sample s n with
    | .error _ => some (seen (.ok ⟨n, .sampleFailed⟩) n n)
    | .ok _ =>
      match b.writer.flushFailure (b.writer.flushes + (n + 1)) with
      | some failure => some (seen (.error failure) (n + 1) n)
      | none =>
        match mode with
        | .snapshot => some (seen (.ok ⟨n + 1, .snapshotTaken⟩) (n + 1) n)
        | .continuous =>
          if b.flagAfter (n + 1) then none
          else some (seen (.ok ⟨n + 1, .interrupted⟩) (n + 1) (n + 1))
  else some (seen (.error b.writer.refusal) n n)

theorem fits_of_verdict {b : Bench} {s : σ} {n : Nat}
    (h : b.verdict sample mode interval s n = none) : b.writer.Fits (shown sample s (n + 1)) := by
  refine Decidable.byContradiction fun hfits => ?_
  simp [verdict, hfits] at h

theorem fits_shown {b : Bench} {s : σ} {n : Nat}
    (hnone : ∀ k < n, b.verdict sample mode interval s k = none) :
    b.writer.Fits (shown sample s n) := by
  cases n with
  | zero => exact Writer.fits_nil _
  | succ k => exact fits_of_verdict sample mode interval (hnone k (Nat.lt_succ_self k))

theorem events_of_verdict {b : Bench} {s : σ} {n : Nat} {o : Seen σ}
    (ho : b.verdict sample mode interval s n = some o) :
    o.events = (asking sample (n + 1) s).trace ++ report (resultAt sample s n) := by
  unfold verdict at ho
  split at ho
  · split at ho
    · rw [← Option.some.inj ho]
    · split at ho
      · rw [← Option.some.inj ho]
      · split at ho
        · rw [← Option.some.inj ho]
        · split at ho
          · cases ho
          · rw [← Option.some.inj ho]
  · rw [← Option.some.inj ho]

/-- The report of a sample that could not be taken is logged, and written behind a text that
there was room for. -/
theorem complain_later {b : Bench} (hw : b.writer.Willing) (f : Failure) {text : List Char}
    (hfits : b.writer.Fits text) {w : Nat} (hn : b.writer.writes ≤ w) {attempts : Nat}
    (ha : 2 * (line (.error f)).toList.length ≤ attempts) (flushes : Nat) (pauses : List Duration)
    (s : σ) :
    ∃ w', b.writer.writes ≤ w' ∧
      ((setting sample).complain attempts f).run (s, b.later w text flushes pauses) =
        { value := ((if b.writer.Fits (text ++ (line (.error f)).toList) then .ok ()
            else .error (.failed b.writer.refusal)),
            (s, b.later w' (b.writer.portion (text ++ (line (.error f)).toList)) flushes pauses))
          trace := report (.error f) } := by
  have hpieces : ["Error reading GPU utilization\n"].flatMap String.toList =
      (line (.error f)).toList := List.flatMap_singleton _ _
  obtain ⟨w', hw', hrun⟩ := writePieces_later sample hw hpieces hfits hn ha flushes pauses s
  refine ⟨w', hw', ?_⟩
  rw [Setting.complain, run_bind_ok (run_lift _ _), Action.value_log, hrun]
  rfl

/-- The line of a sample is written behind a text that there was room for, and flushed. -/
theorem showSample_later {b : Bench} (hw : b.writer.Willing) (u : Utilization) {text : List Char}
    (hfits : b.writer.Fits text) {w : Nat} (hn : b.writer.writes ≤ w) {attempts : Nat}
    (ha : 2 * (line (.ok u)).toList.length ≤ attempts) (flushes : Nat) (pauses : List Duration)
    (s : σ) :
    ∃ w', b.writer.writes ≤ w' ∧
      ((setting sample).showSample attempts u).run (s, b.later w text flushes pauses) =
        if b.writer.Fits (text ++ (line (.ok u)).toList) then
          { value := ((match b.writer.flushFailure (b.writer.flushes + (flushes + 1)) with
              | none => .ok ()
              | some failure => .error (.failed failure)),
              (s, b.later w' (text ++ (line (.ok u)).toList) (flushes + 1) pauses)) }
        else
          { value := (.error (.failed b.writer.refusal), (s,
              b.later w' (b.writer.portion (text ++ (line (.ok u)).toList)) flushes pauses)) } := by
  obtain ⟨w', hw', hrun⟩ := writePieces_later sample hw (toList_line_ok u).symm hfits hn ha
    flushes pauses s
  refine ⟨w', hw', ?_⟩
  rw [Setting.showSample]
  by_cases hmore : b.writer.Fits (text ++ (line (.ok u)).toList)
  · rw [if_pos hmore, Writer.portion_of_fits hmore] at hrun
    rw [if_pos hmore, run_bind_ok hrun, flushAll_later]
    rfl
  · rw [if_neg hmore] at hrun
    rw [if_neg hmore, run_bind_error hrun]

/-- A round whose line is written and flushed ends a snapshot, and otherwise it pauses, and it is
up to the flag whether another one follows. -/
theorem rounds_of_flushed {b x : Bench} {s s' : σ} {t : Trace} {u : Utilization}
    {attempts n w : Nat} {text : List Char}
    (hask : (setting sample).sample (s, x) = { value := (.ok u, (s', x)), trace := t })
    (hshow : ((setting sample).showSample attempts u).run (s', x) =
      { value := (.ok (), (s', b.later w text (n + 1) (.replicate n interval))) }) :
    (setting sample).rounds mode interval attempts n (s, x) =
      match mode with
      | .snapshot =>
        { value := (some (.ok ⟨n + 1, .snapshotTaken⟩),
            (s', b.later w text (n + 1) (.replicate n interval)))
          trace := t }
      | .continuous =>
        { value := (if b.flagAfter (n + 1) then none else some (.ok ⟨n + 1, .interrupted⟩),
            (s', b.later w text (n + 1) (.replicate (n + 1) interval)))
          trace := t } := by
  cases mode with
  | snapshot =>
    rw [Setting.rounds_of_snapshot hask hshow]
    simp
  | continuous =>
    have hpause := pause_later sample (b := b) w text (n + 1) (.replicate n interval) interval s'
    rw [← List.replicate_succ'] at hpause
    rw [Setting.rounds_of_continuous hask hshow hpause, running_later, List.length_replicate]
    simp

/-- A round after `n` others does what its verdict says, or leaves the bench as `n + 1` rounds
do. -/
theorem round_later {b : Bench} (hw : b.writer.Willing) {s : σ} {n : Nat}
    (hfits : b.writer.Fits (shown sample s n)) {w : Nat} (hn : b.writer.writes ≤ w)
    {attempts : Nat} (ha : 2 * (shown sample s (n + 1)).length ≤ attempts) :
    ∃ w', b.writer.writes ≤ w' ∧
      (setting sample).rounds mode interval attempts n
          ((asking sample n s).value.2, b.later w (shown sample s n) n (.replicate n interval)) =
        match b.verdict sample mode interval s n with
        | none =>
          { value := (none, ((asking sample (n + 1) s).value.2,
              b.later w' (shown sample s (n + 1)) (n + 1) (.replicate (n + 1) interval)))
            trace := (sample (asking sample n s).value.2).trace }
        | some o =>
          { value := (some (o.result.mapError .failed),
              (o.source, b.later w' o.output o.flushes o.pauses))
            trace := (sample (asking sample n s).value.2).trace ++ report (resultAt sample s n) } := by
  have hline : 2 * (line (resultAt sample s n)).toList.length ≤ attempts := by
    rw [shown_succ, List.length_append] at ha
    omega
  have hask (x : Bench) : (setting sample).sample ((asking sample n s).value.2, x) =
      { value := (resultAt sample s n, ((asking sample (n + 1) s).value.2, x))
        trace := (sample (asking sample n s).value.2).trace } := rfl
  unfold verdict
  rw [shown_succ]
  -- on the sample, then on the room for its line, then on what becomes of its flush
  cases hr : resultAt sample s n with
  | error f =>
    rw [hr] at hline hask
    obtain ⟨w', hw', hrun⟩ := complain_later sample hw f hfits hn hline n
      (.replicate n interval) (asking sample (n + 1) s).value.2
    refine ⟨w', hw', ?_⟩
    rw [Setting.rounds_of_error (hask _) hrun]
    by_cases hmore : b.writer.Fits (shown sample s n ++ (line (.error f)).toList)
    · simp [hmore, Except.map, Except.mapError]
    · simp [hmore, Except.map, Except.mapError]
  | ok u =>
    rw [hr] at hline hask
    obtain ⟨w', hw', hrun⟩ := showSample_later sample hw u hfits hn hline n
      (.replicate n interval) (asking sample (n + 1) s).value.2
    refine ⟨w', hw', ?_⟩
    by_cases hmore : b.writer.Fits (shown sample s n ++ (line (.ok u)).toList)
    · rw [if_pos hmore] at hrun
      rw [if_pos hmore]
      cases hflush : b.writer.flushFailure (b.writer.flushes + (n + 1)) with
      | some failure =>
        rw [hflush] at hrun
        rw [Setting.rounds_of_halt (hask _) hrun]
        simp [Writer.portion_of_fits hmore, report, Except.mapError]
      | none =>
        rw [hflush] at hrun
        rw [rounds_of_flushed sample mode interval (hask _) hrun]
        cases mode with
        | snapshot => simp [Writer.portion_of_fits hmore, report, Except.mapError]
        | continuous =>
          cases b.flagAfter (n + 1) <;>
            simp [Writer.portion_of_fits hmore, report, Except.mapError]
    · rw [if_neg hmore] at hrun
      rw [if_neg hmore, Setting.rounds_of_halt (hask _) hrun]
      simp [report, Except.mapError]

/-! ## The loop -/

theorem run_eq_firstOf (b : Bench) (bound : Nat) (s : σ) :
    b.run sample mode interval bound s =
      let r := firstOf ((setting sample).rounds mode interval bound) 0 bound (s, b)
      { value := ((r.value.1.getD (.error .unfinished), r.value.2.2), r.value.2.1)
        trace := r.trace } := by
  unfold Bench.run
  rw [run_eq_map]
  rfl

/-- A loop whose first `n` rounds do not end it stands where they leave it. -/
theorem firstOf_rounds_later {b : Bench} (hw : b.writer.Willing) {s : σ} {n : Nat}
    (hnone : ∀ k < n, b.verdict sample mode interval s k = none) {attempts : Nat}
    (ha : 2 * (shown sample s n).length ≤ attempts) :
    ∃ w, b.writer.writes ≤ w ∧ ∀ count,
      firstOf ((setting sample).rounds mode interval attempts) 0 (n + count) (s, b) =
        let r := firstOf ((setting sample).rounds mode interval attempts) n count
          ((asking sample n s).value.2, b.later w (shown sample s n) n (.replicate n interval))
        { value := r.value, trace := (asking sample n s).trace ++ r.trace } := by
  induction n with
  | zero =>
    refine ⟨b.writer.writes, Nat.le_refl _, fun count => ?_⟩
    rw [shown_zero, List.replicate_zero, later_nil, Nat.zero_add]
    rfl
  | succ n ih =>
    have hshort := Nat.mul_le_mul_left 2 (length_shown_mono sample s (Nat.le_succ n))
    have hbefore := fun k hk => hnone k (Nat.lt_succ_of_lt hk)
    obtain ⟨w, hn, hcourse⟩ := ih hbefore (Nat.le_trans hshort ha)
    obtain ⟨w', hn', hround⟩ :=
      round_later sample mode interval hw (fits_shown sample mode interval hbefore) hn ha
    rw [hnone n (Nat.lt_succ_self n)] at hround
    refine ⟨w', hn', fun count => ?_⟩
    -- the first `n` rounds are followed by one more, and that by the rest
    rw [Nat.succ_add_eq_add_succ, hcourse (count + 1), firstOf_succ]
    apply Traced.ext'
    · simp only [Action.value_bind, hround]
    · simp only [Action.trace_bind, hround, asking_succ, List.append_assoc]

/-- A loop ends as the first of its rounds says that has a verdict. -/
theorem shows_of_verdict {b : Bench} (hw : b.writer.Willing) {s : σ} {n : Nat}
    (hnone : ∀ k < n, b.verdict sample mode interval s k = none) {o : Seen σ}
    (ho : b.verdict sample mode interval s n = some o) : b.Shows sample mode interval s o := by
  refine ⟨max (n + 1) (2 * (shown sample s (n + 1)).length), fun bound hbound => ?_⟩
  have ha : 2 * (shown sample s (n + 1)).length ≤ bound := by omega
  have hshort := Nat.mul_le_mul_left 2 (length_shown_mono sample s (Nat.le_succ n))
  obtain ⟨w, hn, hcourse⟩ :=
    firstOf_rounds_later sample mode interval hw hnone (Nat.le_trans hshort ha)
  obtain ⟨w', -, hround⟩ :=
    round_later sample mode interval hw (fits_shown sample mode interval hnone) hn ha
  rw [ho] at hround
  obtain ⟨count, hcount⟩ : ∃ count, bound = n + (count + 1) := ⟨bound - (n + 1), by omega⟩
  have hend : firstOf ((setting sample).rounds mode interval bound) 0 bound (s, b) =
      { value := (some (o.result.mapError .failed),
          (o.source, b.later w' o.output o.flushes o.pauses))
        trace := o.events } := by
    have hfirst := hcourse (count + 1)
    rw [← hcount, firstOf_succ] at hfirst
    rw [hfirst, events_of_verdict sample mode interval ho]
    apply Traced.ext'
    · simp only [Action.value_bind, hround]
      rfl
    · simp [hround, asking_succ]
  refine ⟨b.later w' o.output o.flushes o.pauses, ?_, taken_later .., flushes_later ..,
    pauses_later ..⟩
  rw [run_eq_firstOf, hend]
  rfl

/-- A loop does not end if none of its rounds has a verdict. -/
theorem unfinished_of_verdict {b : Bench} (hw : b.writer.Willing) {s : σ}
    (hnone : ∀ n, b.verdict sample mode interval s n = none) (bound : Nat) :
    (b.run sample mode interval bound s).value.1.1 = .error .unfinished := by
  refine Classical.byContradiction fun hne => ?_
  -- a loop that ends is found to do so in as many attempts as the rounds need
  let attempts := max bound (2 * (shown sample s bound).length)
  have hmore := firstOf_rounds_of_le (setting sample) mode interval
    (Nat.le_max_left bound _ : bound ≤ attempts) (Nat.le_refl bound) (s, b) hne
  obtain ⟨w, -, hcourse⟩ := firstOf_rounds_later sample mode interval hw (fun k _ => hnone k)
    (Nat.le_max_right bound _ : 2 * (shown sample s bound).length ≤ attempts)
  have hnothing := hcourse 0
  rw [Nat.add_zero, hmore, firstOf_zero] at hnothing
  refine hne ?_
  rw [run_eq_firstOf, hnothing]
  rfl

theorem shows_unique {b : Bench} {s : σ} {o o' : Seen σ} (h : b.Shows sample mode interval s o)
    (h' : b.Shows sample mode interval s o') : o = o' := by
  obtain ⟨enough, h⟩ := h
  obtain ⟨enough', h'⟩ := h'
  obtain ⟨b₁, hrun, htaken, hflushes, hpauses⟩ := h _ (Nat.le_max_left enough enough')
  obtain ⟨b₂, hrun', htaken', hflushes', hpauses'⟩ := h' _ (Nat.le_max_right enough enough')
  have hsame := hrun.symm.trans hrun'
  simp only [Traced.mk.injEq, Prod.mk.injEq] at hsame
  obtain ⟨⟨⟨hresult, rfl⟩, hsource⟩, hevents⟩ := hsame
  obtain ⟨result, output, flushes, pauses, source, events⟩ := o
  obtain ⟨result', output', flushes', pauses', source', events'⟩ := o'
  have houtput : output = output' := List.append_cancel_left (htaken.symm.trans htaken')
  have hlengths : pauses = pauses' := List.append_cancel_left (hpauses.symm.trans hpauses')
  have hcount : flushes = flushes' := Nat.add_left_cancel (hflushes.symm.trans hflushes')
  have hends : result = result' := by
    cases result <;> cases result' <;> simp_all [Except.mapError]
  simp only at hsource hevents
  rw [hends, houtput, hcount, hlengths, hsource, hevents]

/-- A loop ends, and shows so much, as the first of its rounds says that has a verdict. -/
theorem shows_iff {b : Bench} (hw : b.writer.Willing) {s : σ} {o : Seen σ} :
    b.Shows sample mode interval s o ↔
      ∃ n, (∀ k < n, b.verdict sample mode interval s k = none) ∧
        b.verdict sample mode interval s n = some o := by
  constructor
  · intro h
    have hsome : ∃ n, (b.verdict sample mode interval s n).isSome := by
      refine Classical.byContradiction fun hnone => ?_
      obtain ⟨enough, h⟩ := h
      obtain ⟨b', hrun, -⟩ := h enough (Nat.le_refl enough)
      have hunfinished := unfinished_of_verdict sample mode interval hw
        (fun n => by simpa using fun hn => hnone ⟨n, hn⟩) enough
      rw [hrun] at hunfinished
      cases hresult : o.result <;> simp [hresult, Except.mapError] at hunfinished
    obtain ⟨o', ho'⟩ := Option.isSome_iff_exists.1 (Nat.find_spec hsome)
    have hnone : ∀ k < Nat.find hsome, b.verdict sample mode interval s k = none :=
      fun k hk => by simpa using Nat.find_min hsome hk
    have hfirst := shows_of_verdict sample mode interval hw hnone ho'
    obtain rfl := shows_unique sample mode interval h hfirst
    exact ⟨_, hnone, ho'⟩
  · rintro ⟨n, hnone, ho⟩
    exact shows_of_verdict sample mode interval hw hnone ho

end Bench

end GpuMonitor.Monitor
