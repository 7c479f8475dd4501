import GpuMonitor.Proofs.Rounds

/-!
# How a loop ends

With a writer that never fails a loop goes on until a sample fails or the flag is down after a
pause, and what there is to see of it can be read off the samples asked for.

* `Replay.resultAt_eq`: a source of listed results gives them in order.
* `Writer.Unfailing`: a writer that takes everything, in parts as it likes.
* `Seen.ended`: what there is to see after so many samples were asked for.
* `Bench.Stops`: the first round that does not go on to the next one.

Main result:

* `Bench.run_unfailing`: how a loop ends in either mode, and when it does not.
-/

namespace GpuMonitor.Monitor

variable {σ : Type}

/-! ## A source of listed results -/

namespace Replay

theorem source_asking (r : Replay) (n : Nat) :
    (asking Replay.sample n r).value.2 = ⟨r.left.drop n, r.asked + n⟩ := by
  induction n with
  | zero => rfl
  | succ n ih =>
    rw [asking_succ, ih, ← List.tail_drop]
    unfold Replay.sample
    cases hleft : r.left.drop n <;> simp [Nat.add_assoc]

/-- A source of listed results gives them in order. -/
theorem resultAt_eq (r : Replay) (n : Nat) :
    resultAt Replay.sample r n = r.left[n]?.getD (.error .noMetricSetSelected) := by
  unfold resultAt
  rw [source_asking]
  unfold Replay.sample
  cases hleft : r.left.drop n with
  | nil =>
    -- the source has come to its end
    have hend : r.left[n]? = none := List.getElem?_eq_none (List.drop_eq_nil_iff.1 hleft)
    simp [hend]
  | cons result rest =>
    have hhere : r.left[n]? = some result := by
      rw [← Nat.add_zero n, ← List.getElem?_drop, hleft]
      rfl
    simp [hhere]

end Replay

/-! ## A writer that never fails -/

/-- There is no end to its room and no flush to come fails. -/
structure Writer.Unfailing (w : Writer) : Prop extends w.Willing where
  roomy : w.room = none
  flushing : ∀ n, w.flushes < n → w.flushFailure n = none

/-- What there is to see of a loop with a writer that never fails, after so many samples were
asked for and so many pauses made. -/
def Seen.ended (sample : Action σ (Except Failure Utilization)) (interval : Duration) (s : σ)
    (asked pauses : Nat) (summary : Summary) : Seen σ where
  result := .ok summary
  output := shown sample s asked
  flushes := summary.samples
  pauses := .replicate pauses interval
  source := (asking sample asked s).value.2
  events := (asking sample asked s).trace ++ (asking sample asked s).value.1.flatMap report

namespace Bench

variable (sample : Action σ (Except Failure Utilization))

/-- The round after `n` others goes on to the next one: its sample is taken, and the flag is up
after its pause. -/
def Passes (b : Bench) (s : σ) (n : Nat) : Prop :=
  (∃ u, resultAt sample s n = .ok u) ∧ b.flagAfter (n + 1) = true

/-- The round after `n` others is the first one that does not go on. -/
def Stops (b : Bench) (s : σ) (n : Nat) : Prop :=
  (∀ k < n, b.Passes sample s k) ∧ ¬ b.Passes sample s n

theorem reports_of_ok {s : σ} {n : Nat} (hok : ∀ k < n, ∃ u, resultAt sample s k = .ok u) :
    (asking sample n s).value.1.flatMap report = [] := by
  induction n with
  | zero => rfl
  | succ n ih =>
    obtain ⟨u, hu⟩ := hok n (Nat.lt_succ_self n)
    rw [asking_succ, List.flatMap_append, ih fun k hk => hok k (Nat.lt_succ_of_lt hk), hu]
    rfl

theorem reports_succ {s : σ} {n : Nat} (hok : ∀ k < n, ∃ u, resultAt sample s k = .ok u) :
    (asking sample (n + 1) s).value.1.flatMap report = report (resultAt sample s n) := by
  rw [asking_succ, List.flatMap_append, reports_of_ok sample hok]
  exact List.append_nil _

section
variable {b : Bench} (hb : b.writer.Unfailing)
include hb

theorem fits_of_unfailing (text : List Char) : b.writer.Fits text := by
  simp [Writer.Fits, hb.roomy]

/-- With a writer that never fails a verdict is up to the sample and the flag. -/
theorem verdict_of_unfailing (mode : Mode) (interval : Duration) {s : σ} {n : Nat}
    (hok : ∀ k < n, ∃ u, resultAt sample s k = .ok u) :
    b.verdict sample mode interval s n =
      match resultAt sample s n, mode with
      | .error _, _ => some (.ended sample interval s (n + 1) n ⟨n, .sampleFailed⟩)
      | .ok _, .snapshot => some (.ended sample interval s (n + 1) n ⟨n + 1, .snapshotTaken⟩)
      | .ok _, .continuous =>
        if b.flagAfter (n + 1) then none
        else some (.ended sample interval s (n + 1) (n + 1) ⟨n + 1, .interrupted⟩) := by
  have hfits := fits_of_unfailing hb (shown sample s (n + 1))
  have hflush : b.writer.flushFailure (b.writer.flushes + (n + 1)) = none :=
    hb.flushing _ (Nat.lt_add_of_pos_right (Nat.succ_pos n))
  -- the line is written and flushed, so the sample and the flag are left to tell
  unfold verdict Seen.ended
  rw [if_pos hfits, reports_succ sample hok, Writer.portion_of_fits hfits]
  cases hr : resultAt sample s n with
  | error f => rfl
  | ok u =>
    rw [hflush]
    cases mode <;> rfl

theorem verdict_of_passes (interval : Duration) {s : σ} {n : Nat}
    (hpass : ∀ k ≤ n, b.Passes sample s k) :
    b.verdict sample .continuous interval s n = none := by
  obtain ⟨⟨u, hu⟩, hflag⟩ := hpass n (Nat.le_refl n)
  rw [verdict_of_unfailing sample hb _ _ fun k hk => (hpass k (Nat.le_of_lt hk)).1, hu]
  simp [hflag]

theorem verdict_of_stops (interval : Duration) {s : σ} {n : Nat} (h : b.Stops sample s n) :
    b.verdict sample .continuous interval s n = some (match resultAt sample s n with
      | .error _ => .ended sample interval s (n + 1) n ⟨n, .sampleFailed⟩
      | .ok _ => .ended sample interval s (n + 1) (n + 1) ⟨n + 1, .interrupted⟩) := by
  rw [verdict_of_unfailing sample hb _ _ fun k hk => (h.1 k hk).1]
  cases hr : resultAt sample s n with
  | error f => rfl
  | ok u =>
    have hflag : b.flagAfter (n + 1) = false := by
      simpa using fun hup => h.2 ⟨⟨u, hr⟩, hup⟩
    simp [hflag]

/-- With a writer that has room enough for a round and flushes it, the round ends as it does with
a writer that never fails. -/
theorem verdict_congr {b' : Bench} {mode : Mode} {interval : Duration} {s : σ} {n : Nat}
    (hfits : b'.writer.Fits (shown sample s (n + 1)))
    (hflush : ∀ u, resultAt sample s n = .ok u →
      b'.writer.flushFailure (b'.writer.flushes + (n + 1)) = none)
    (hflag : b'.flagAfter (n + 1) = b.flagAfter (n + 1)) :
    b'.verdict sample mode interval s n = b.verdict sample mode interval s n := by
  have hfits₀ := fits_of_unfailing hb (shown sample s (n + 1))
  have hflush₀ : b.writer.flushFailure (b.writer.flushes + (n + 1)) = none :=
    hb.flushing _ (Nat.lt_add_of_pos_right (Nat.succ_pos n))
  unfold verdict
  rw [if_pos hfits, if_pos hfits₀, Writer.portion_of_fits hfits, Writer.portion_of_fits hfits₀]
  cases hr : resultAt sample s n with
  | error f => rfl
  | ok u => rw [hflush u hr, hflush₀, hflag]

/-- Of two writers that never fail one does as well as the other, and of the flag nothing counts
but what it is after the pauses. -/
theorem shows_congr {b' : Bench} (hb' : b'.writer.Unfailing)
    (hflags : ∀ n, b'.flagAfter (n + 1) = b.flagAfter (n + 1)) (mode : Mode)
    (interval : Duration) (s : σ) (o : Seen σ) :
    b'.Shows sample mode interval s o ↔ b.Shows sample mode interval s o := by
  have hsame : ∀ n, b'.verdict sample mode interval s n = b.verdict sample mode interval s n :=
    fun n => verdict_congr sample hb (fits_of_unfailing hb' _)
      (fun _ _ => hb'.flushing _ (Nat.lt_add_of_pos_right (Nat.succ_pos n))) (hflags n)
  rw [shows_iff sample mode interval hb.toWilling, shows_iff sample mode interval hb'.toWilling]
  simp only [hsame]

/-- **How a loop ends with a writer that never fails.** In snapshot mode one sample is asked
for, and nothing is paused, whatever the flag is. In continuous mode

* a loop with a first round that does not go on ends with it: a sample that could not be taken
  was asked for last and counts for nothing, and otherwise the flag is down after as many pauses
  as there are samples;
* a loop all of whose rounds go on does not end.

All pauses are of the given length, every line is flushed but that of a failure, and of the flag
nothing counts but what it is after the pauses. -/
theorem run_unfailing (interval : Duration) (s : σ) :
    b.Shows sample .snapshot interval s (match resultAt sample s 0 with
      | .error _ => .ended sample interval s 1 0 ⟨0, .sampleFailed⟩
      | .ok _ => .ended sample interval s 1 0 ⟨1, .snapshotTaken⟩) ∧
    (∀ n, b.Stops sample s n →
      b.Shows sample .continuous interval s (match resultAt sample s n with
        | .error _ => .ended sample interval s (n + 1) n ⟨n, .sampleFailed⟩
        | .ok _ => .ended sample interval s (n + 1) (n + 1) ⟨n + 1, .interrupted⟩)) ∧
    ((∀ n, b.Passes sample s n) → ∀ bound,
      (b.run sample .continuous interval bound s).value.1.1 = .error .unfinished) ∧
    ∀ b' : Bench, b'.writer.Unfailing → (∀ n, b'.flagAfter (n + 1) = b.flagAfter (n + 1)) →
      ∀ mode o, b'.Shows sample mode interval s o ↔ b.Shows sample mode interval s o := by
  refine ⟨?snapshot, fun n hn => ?stops, fun hall bound => ?endless, fun b' hb' hflags mode o => ?_⟩
  case snapshot =>
    have hfirst : ∀ k < 0, b.verdict sample .snapshot interval s k = none :=
      fun k hk => absurd hk (Nat.not_lt_zero k)
    refine shows_of_verdict sample _ interval hb.toWilling hfirst ?_
    rw [verdict_of_unfailing sample hb _ _ fun k hk => absurd hk (Nat.not_lt_zero k)]
    cases resultAt sample s 0 <;> rfl
  case stops =>
    have hbefore : ∀ k < n, b.verdict sample .continuous interval s k = none := fun k hk =>
      verdict_of_passes sample hb interval fun i hi => hn.1 i (Nat.lt_of_le_of_lt hi hk)
    exact shows_of_verdict sample _ interval hb.toWilling hbefore
      (verdict_of_stops sample hb interval hn)
  case endless =>
    exact unfinished_of_verdict sample _ interval hb.toWilling
      (fun n => verdict_of_passes sample hb interval fun k _ => hall k) bound
  exact shows_congr sample hb hb' hflags mode interval s o

end

/-- The flag is down at first, and from the third pause on. -/
def fading : Bench where
  running := false
  change n _ := decide (n < 3)

theorem run_unfailing_fading :
    let source : Replay := { left := .replicate 5 (.ok default) }
    fading.writer.Unfailing ∧ fading.Stops Replay.sample source 2 ∧
      fading.Shows Replay.sample .continuous (.ofSeconds 1) source
        (.ended Replay.sample (.ofSeconds 1) source 3 3 ⟨3, .interrupted⟩) ∧
      ({ fading with running := true } : Bench).Shows Replay.sample .continuous (.ofSeconds 1) source
        (.ended Replay.sample (.ofSeconds 1) source 3 3 ⟨3, .interrupted⟩) := by
  intro source
  have hb : fading.writer.Unfailing :=
    { takes := by simp [fading]
      patient := by simp [fading]
      sound := by simp [fading]
      full := by simp [fading]
      roomy := rfl
      flushing := by simp [fading] }
  -- two rounds pass, and the flag is down after the third pause
  have hstops : fading.Stops Replay.sample source 2 := by
    refine ⟨fun k hk => ?_, fun hpass => absurd hpass.2 (by decide)⟩
    obtain rfl | rfl : k = 0 ∨ k = 1 := by omega
    · exact ⟨⟨default, rfl⟩, rfl⟩
    · exact ⟨⟨default, rfl⟩, rfl⟩
  have hends := (run_unfailing Replay.sample hb (.ofSeconds 1) source).2.1 2 hstops
  refine ⟨hb, hstops, hends, ?_⟩
  -- with the flag up at first nothing is different
  refine ((run_unfailing Replay.sample hb (.ofSeconds 1) source).2.2.2 _ ?_ ?_ _ _).2 hends
  · exact ⟨⟨hb.takes, hb.patient, hb.sound, hb.full⟩, hb.roomy, hb.flushing⟩
  · intro n
    rfl

end Bench

end GpuMonitor.Monitor
