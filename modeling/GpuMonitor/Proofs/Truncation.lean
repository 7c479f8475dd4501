import GpuMonitor.Proofs.Ending
import GpuMonitor.Proofs.Lines

/-!
# Loops with a faulty writer

A faulty writer does nothing to a loop but cut it short. What a loop shows with it is set against
what the loop shows with a writer that never fails.

* `Writer.FlushesTo w n`: the next `n` flushes do not fail.
* `Seen.cut`: what there is to see of a loop that was cut short in one of its rounds.

Main result:

* `Bench.run_faulty`: a writer that is only slow changes nothing; one that is full, or does not
  flush, leaves a first part of the output, and the loop goes no further.
-/

namespace GpuMonitor.Monitor

variable {σ : Type}

/-- None of the next `n` flushes fails. -/
def Writer.FlushesTo (w : Writer) (n : Nat) : Prop :=
  ∀ k, 0 < k → k ≤ n → w.flushFailure (w.flushes + k) = none

/-- What there is to see of a loop that a failing writer ended in the round after `n` others. -/
def Seen.cut (sample : Action σ (Except Failure Utilization)) (interval : Duration) (s : σ)
    (n : Nat) (failure : WriteFailure) (output : List Char) (flushes : Nat) : Seen σ where
  result := .error failure
  output
  flushes
  pauses := .replicate n interval
  source := (asking sample (n + 1) s).value.2
  events := (asking sample (n + 1) s).trace ++ (asking sample (n + 1) s).value.1.flatMap report

namespace Bench

variable (sample : Action σ (Except Failure Utilization)) {mode : Mode} {interval : Duration}
  {b₀ b : Bench} {s : σ} {o : Seen σ} {n : Nat}

theorem ok_of_verdict (h : b.verdict sample mode interval s n = none) :
    ∃ u, resultAt sample s n = .ok u := by
  cases hr : resultAt sample s n with
  | ok u => exact ⟨u, rfl⟩
  | error f =>
    unfold verdict at h
    rw [hr] at h
    split at h <;> cases h

/-! ## The rounds that a faulty writer cuts short -/

section
variable (hok : ∀ k < n, ∃ u, resultAt sample s k = .ok u)
include hok

/-- A round is cut short in its line. -/
theorem verdict_of_full {room : Nat} (hroom : b.writer.room = some room)
    (h : room < (shown sample s (n + 1)).length) :
    b.verdict sample mode interval s n =
      some (.cut sample interval s n b.writer.refusal ((shown sample s (n + 1)).take room) n) := by
  unfold verdict Seen.cut
  rw [if_neg (Writer.not_fits hroom h), reports_succ sample hok]
  simp [Writer.portion, hroom]

/-- A round is cut short after its line. -/
theorem verdict_of_unflushed (hfits : b.writer.Fits (shown sample s (n + 1))) {u : Utilization}
    (hu : resultAt sample s n = .ok u) {failure : WriteFailure}
    (hflush : b.writer.flushFailure (b.writer.flushes + (n + 1)) = some failure) :
    b.verdict sample mode interval s n =
      some (.cut sample interval s n failure (shown sample s (n + 1)) (n + 1)) := by
  unfold verdict Seen.cut
  rw [if_pos hfits, reports_succ sample hok, Writer.portion_of_fits hfits, hu, hflush]

/-- The verdict that ends a loop with a writer that never fails says what is written, and that
every line of a sample is flushed. -/
theorem ended_of_verdict (h₀ : b₀.writer.Unfailing)
    (ho : b₀.verdict sample mode interval s n = some o) :
    o.output = shown sample s (n + 1) ∧
      o.flushes = if (resultAt sample s n).isOk then n + 1 else n := by
  rw [verdict_of_unfailing sample h₀ mode interval hok] at ho
  cases hr : resultAt sample s n with
  | error f =>
    rw [hr] at ho
    obtain rfl := Option.some.inj ho
    exact ⟨rfl, rfl⟩
  | ok u =>
    rw [hr] at ho
    cases mode with
    | snapshot =>
      obtain rfl := Option.some.inj ho
      exact ⟨rfl, rfl⟩
    | continuous =>
      cases hflag : b₀.flagAfter (n + 1) with
      | true => simp [hflag] at ho
      | false =>
        obtain rfl : _ = o := by simpa [hflag] using ho
        exact ⟨rfl, rfl⟩

end

/-! ## The loop with a writer that never fails -/

variable (mode interval b₀ s o) in
/-- The round after `last` others ends the loop. Up to there a line is flushed if it is that of a
sample, and all lines make up the output. -/
structure EndsAt (last : Nat) : Prop where
  before : ∀ k < last, b₀.verdict sample mode interval s k = none
  ending : b₀.verdict sample mode interval s last = some o
  output : o.output = shown sample s (last + 1)
  flushed : ∀ k, k < o.flushes ↔ k ≤ last ∧ ∃ u, resultAt sample s k = .ok u

theorem EndsAt.ok {sample : Action σ (Except Failure Utilization)} {last : Nat}
    (h : EndsAt sample mode interval b₀ s o last) :
    ∀ k < last, ∃ u, resultAt sample s k = .ok u := fun k hk =>
  ok_of_verdict sample (h.before k hk)

theorem exists_endsAt (h₀ : b₀.writer.Unfailing) (ho : b₀.Shows sample mode interval s o) :
    ∃ last, EndsAt sample mode interval b₀ s o last := by
  obtain ⟨last, hnone, hlast⟩ := (shows_iff sample mode interval h₀.toWilling).1 ho
  have hok : ∀ k < last, ∃ u, resultAt sample s k = .ok u :=
    fun k hk => ok_of_verdict sample (hnone k hk)
  obtain ⟨houtput, hflushes⟩ := ended_of_verdict sample hok h₀ hlast
  refine ⟨last, hnone, hlast, houtput, fun k => ?_⟩
  -- all rounds before the last one have their samples, so the last one decides
  rw [hflushes]
  cases hr : resultAt sample s last with
  | ok u =>
    refine ⟨fun hk => ?_, fun hk => Nat.lt_succ_of_le hk.1⟩
    rcases Nat.lt_succ_iff_lt_or_eq.1 hk with hlt | rfl
    · exact ⟨Nat.le_of_lt hlt, hok k hlt⟩
    · exact ⟨Nat.le_refl k, u, hr⟩
  | error f =>
    refine ⟨fun hk => ⟨Nat.le_of_lt hk, hok k hk⟩, ?_⟩
    rintro ⟨hk, u, hu⟩
    refine Nat.lt_of_le_of_ne hk ?_
    rintro rfl
    rw [hr] at hu
    cases hu

/-! ## The loop with a faulty writer -/

section
variable {last : Nat} (h : EndsAt sample mode interval b₀ s o last)
  (h₀ : b₀.writer.Unfailing) (hw : b.writer.Willing)
  (hflags : ∀ n, b.flagAfter (n + 1) = b₀.flagAfter (n + 1))
include h h₀ hflags

/-- A round that there is room for, and whose flush does not fail, ends as it should. -/
theorem verdict_of_sound {k : Nat} (hk : k ≤ last) (hfits : b.writer.Fits (shown sample s (k + 1)))
    {n : Nat} (hflush : b.writer.FlushesTo n) (hn : k < o.flushes → k < n) :
    b.verdict sample mode interval s k = b₀.verdict sample mode interval s k := by
  refine verdict_congr sample h₀ hfits (fun u hu => ?_) (hflags k)
  exact hflush (k + 1) (Nat.succ_pos k) (hn ((h.flushed k).2 ⟨hk, u, hu⟩))

include hw

/-- A writer that there is room enough in, and that flushes, does as well as one that never
fails. -/
theorem shows_of_sound (hfits : b.writer.Fits o.output) (hflush : b.writer.FlushesTo o.flushes) :
    b.Shows sample mode interval s o := by
  have hsame : ∀ k ≤ last,
      b.verdict sample mode interval s k = b₀.verdict sample mode interval s k := by
    intro k hk
    refine verdict_of_sound sample h h₀ hflags hk (hfits.of_length_le ?_) hflush id
    rw [h.output]
    exact length_shown_mono sample s (Nat.succ_le_succ hk)
  refine shows_of_verdict sample mode interval hw (fun k hk => ?_)
    ((hsame last le_rfl).trans h.ending)
  exact (hsame k (Nat.le_of_lt hk)).trans (h.before k hk)

/-- A writer that runs full cuts the loop short in the line that its room ends in. -/
theorem shows_of_full {room : Nat} (hroom : b.writer.room = some room)
    (hflush : b.writer.FlushesTo o.flushes) (hlt : room < o.output.length) :
    ∃ n, (firstLines n o.output).length ≤ room ∧
      room < (firstLines (n + 1) o.output).length ∧
      b.Shows sample mode interval s
        (.cut sample interval s n b.writer.refusal (o.output.take room) n) := by
  rw [h.output] at hlt ⊢
  -- the line that the room ends in is the first one that there is no room for
  have hex : ∃ n, room < (shown sample s (n + 1)).length := ⟨last, hlt⟩
  obtain ⟨n, hmore, hless⟩ : ∃ n, room < (shown sample s (n + 1)).length ∧
      ∀ k < n, (shown sample s (k + 1)).length ≤ room :=
    ⟨Nat.find hex, Nat.find_spec hex, fun k hk => Nat.le_of_not_lt (Nat.find_min hex hk)⟩
  have hn : n ≤ last := Nat.le_of_not_lt fun hn => absurd (hless last hn) (Nat.not_le.2 hlt)
  have htake : (shown sample s (last + 1)).take room = (shown sample s (n + 1)).take room := by
    obtain ⟨rest, hrest⟩ := shown_prefix_of_le sample s (Nat.succ_le_succ hn)
    rw [← hrest, List.take_append_of_le_length (Nat.le_of_lt hmore)]
  have hnone : ∀ k < n, b.verdict sample mode interval s k = none := by
    intro k hk
    have hlast : k < last := Nat.lt_of_lt_of_le hk hn
    have hfits : b.writer.Fits (shown sample s (k + 1)) := by
      simpa [Writer.Fits, hroom] using hless k hk
    rw [verdict_of_sound sample h h₀ hflags (Nat.le_of_lt hlast) hfits hflush id]
    exact h.before k hlast
  refine ⟨n, ?_, ?_, ?_⟩
  · rw [firstLines_shown sample s (Nat.le_succ_of_le hn)]
    cases n with
    | zero => exact Nat.zero_le _
    | succ k => exact hless k (Nat.lt_succ_self k)
  · rw [firstLines_shown sample s (Nat.succ_le_succ hn)]
    exact hmore
  · rw [htake]
    have hok : ∀ k < n, ∃ u, resultAt sample s k = .ok u :=
      fun k hk => ok_of_verdict sample (hnone k hk)
    exact shows_of_verdict sample mode interval hw hnone (verdict_of_full sample hok hroom hmore)

/-- A writer that does not flush a line cuts the loop short behind it. -/
theorem shows_of_unflushed {n : Nat} {failure : WriteFailure} (hroom : b.writer.room = none)
    (hflush : b.writer.FlushesTo n)
    (hfailure : b.writer.flushFailure (b.writer.flushes + (n + 1)) = some failure)
    (hn : n < o.flushes) :
    b.Shows sample mode interval s
      (.cut sample interval s n failure (firstLines (n + 1) o.output) (n + 1)) := by
  obtain ⟨hlast, u, hu⟩ := (h.flushed n).1 hn
  have hfits (text : List Char) : b.writer.Fits text := by simp [Writer.Fits, hroom]
  -- the flushes before the one that fails are those of the rounds before
  have hnone : ∀ k < n, b.verdict sample mode interval s k = none := by
    intro k hk
    have hbefore : k < last := Nat.lt_of_lt_of_le hk hlast
    rw [verdict_of_sound sample h h₀ hflags (Nat.le_of_lt hbefore) (hfits _) hflush fun _ => hk]
    exact h.before k hbefore
  have hok : ∀ k < n, ∃ u, resultAt sample s k = .ok u :=
    fun k hk => ok_of_verdict sample (hnone k hk)
  rw [h.output, firstLines_shown sample s (Nat.succ_le_succ hlast)]
  exact shows_of_verdict sample mode interval hw hnone
    (verdict_of_unflushed sample hok (hfits _) hu hfailure)

end

/-- **Faulty writers only truncate.** Against a loop over a writer that never fails, with the same
flag after each pause,

* a writer that takes the lines in parts, or interrupts some of its writes, changes nothing;
* a writer with room for the whole output changes nothing either. One with less room takes as
  much of the output as there is room for; the loop gives back its error, and went up to the
  sample whose line the room ends in;
* a flush that fails gives its error back, after the lines up to it and as many samples. -/
theorem run_faulty (h₀ : b₀.writer.Unfailing) (hw : b.writer.Willing)
    (hflags : ∀ n, b.flagAfter (n + 1) = b₀.flagAfter (n + 1))
    (ho : b₀.Shows sample mode interval s o) :
    (b.writer.room = none → b.writer.FlushesTo o.flushes → b.Shows sample mode interval s o) ∧
    (∀ room failure, b.writer.room = some room → b.writer.FlushesTo o.flushes →
      (b.writer.whenFull = .failed failure ∨
        b.writer.whenFull = .accepted 0 ∧ failure = .nothingAccepted) →
      (o.output.length ≤ room → b.Shows sample mode interval s o) ∧
      (room < o.output.length → ∃ n, (firstLines n o.output).length ≤ room ∧
        room < (firstLines (n + 1) o.output).length ∧
        b.Shows sample mode interval s
          (.cut sample interval s n failure (o.output.take room) n))) ∧
    ∀ n failure, b.writer.room = none → b.writer.FlushesTo n →
      b.writer.flushFailure (b.writer.flushes + (n + 1)) = some failure → n + 1 ≤ o.flushes →
      b.Shows sample mode interval s
        (.cut sample interval s n failure (firstLines (n + 1) o.output) (n + 1)) := by
  obtain ⟨last, h⟩ := exists_endsAt sample h₀ ho
  refine ⟨fun hroom hflush => ?slow, fun room failure hroom hflush hfull => ⟨fun hle => ?roomy,
    fun hlt => ?full⟩, fun n failure hroom hflush hfailure hn => ?unflushed⟩
  case slow => exact shows_of_sound sample h h₀ hw hflags (by simp [Writer.Fits, hroom]) hflush
  case roomy =>
    exact shows_of_sound sample h h₀ hw hflags (by simpa [Writer.Fits, hroom] using hle) hflush
  case full =>
    obtain rfl : b.writer.refusal = failure := by
      rcases hfull with hfull | ⟨hfull, rfl⟩ <;> simp [Writer.refusal, hfull]
    exact shows_of_full sample h h₀ hw hflags hroom hflush hlt
  case unflushed =>
    exact shows_of_unflushed sample h h₀ hw hflags hroom hflush hfailure hn

/-- A writer that takes three characters at a time, interrupts every second write, and has room
for five characters. -/
def crowded : Bench where
  writer :=
    { room := some 5
      whenFull := .failed ⟨.brokenPipe, "pipe closed"⟩
      most := fun _ => some 3
      interrupts := fun n => n % 2 == 1 }

theorem run_faulty_crowded :
    let source : Replay := { left := [.error .noMetricSetSelected] }
    let o := Seen.ended Replay.sample (.ofSeconds 1) source 1 0 ⟨0, .sampleFailed⟩
    (({} : Bench).writer.Unfailing ∧ crowded.writer.Willing ∧
      (∀ n, crowded.flagAfter (n + 1) = ({} : Bench).flagAfter (n + 1)) ∧
      ({} : Bench).Shows Replay.sample .continuous (.ofSeconds 1) source o) ∧
    ∃ n, (firstLines n o.output).length ≤ 5 ∧ 5 < (firstLines (n + 1) o.output).length ∧
      crowded.Shows Replay.sample .continuous (.ofSeconds 1) source
        (.cut Replay.sample (.ofSeconds 1) source n ⟨.brokenPipe, "pipe closed"⟩ "Error".toList n) := by
  intro source o
  have h₀ : ({} : Bench).writer.Unfailing :=
    { takes := by simp
      patient := by simp
      sound := by simp
      full := by simp
      roomy := rfl
      flushing := by simp }
  have hw : crowded.writer.Willing :=
    { takes := by simp [crowded]
      patient := fun n _ hn => by
        simp only [crowded, beq_iff_eq] at hn
        simp only [crowded, beq_eq_false_iff_ne]
        omega
      sound := by simp [crowded]
      full := fun _ => .inr ⟨_, rfl⟩ }
  have hflags : ∀ n, crowded.flagAfter (n + 1) = ({} : Bench).flagAfter (n + 1) := by
    intro n
    induction n with
    | zero => rfl
    | succ n ih => exact ih
  have ho : ({} : Bench).Shows Replay.sample .continuous (.ofSeconds 1) source o :=
    shows_of_verdict _ _ _ h₀.toWilling (fun k hk => absurd hk (Nat.not_lt_zero k)) rfl
  have hflush : crowded.writer.FlushesTo o.flushes := fun _ _ _ => rfl
  refine ⟨⟨h₀, hw, hflags, ho⟩, ?_⟩
  exact ((run_faulty Replay.sample h₀ hw hflags ho).2.1 5 _ rfl hflush (.inl rfl)).2 (by decide)

end Bench

end GpuMonitor.Monitor
