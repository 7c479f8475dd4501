import GpuMonitor.Monitor

/-!
# The loop on a bench

A bench stands for all that is around the loop but its source: a writer with a will of
its own, and a flag that changes while the loop pauses.

* `Writer`: takes so much and so often, and keeps what it has taken (`taken_write`).
* `Bench`: a writer, the flag, and the pauses made so far (`pauses_pause`).
* `Bench.run`: the loop over a source on a bench.
* `Replay`: a source that gives listed results.
-/

namespace GpuMonitor.Monitor

/-- A writer that keeps what it has taken. Its writes and flushes are counted from 1, and
what becomes of each of them is free, so every run over any writer is one over such a writer. -/
structure Writer where
  /-- How much it will still take in all; `none` when there is no end to it. -/
  room : Option Nat := none
  /-- What it says once there is no room. -/
  whenFull : WriteReply := .accepted 0
  /-- The most that it takes in the `n`th write. -/
  most : Nat → Option Nat := fun _ => none
  /-- Whether the `n`th write is interrupted. -/
  interrupts : Nat → Bool := fun _ => false
  /-- Why the `n`th write fails, if it does. -/
  failure : Nat → Option WriteFailure := fun _ => none
  /-- Why the `n`th flush fails, if it does. -/
  flushFailure : Nat → Option WriteFailure := fun _ => none
  writes : Nat := 0
  flushes : Nat := 0
  /-- What it has taken, from the last character to the first. -/
  kept : List Char := []

namespace Writer

/-- What it has taken. -/
def taken (w : Writer) : List Char := w.kept.reverse

/-- How much of a text the next write takes. -/
def share (w : Writer) (text : List Char) : Nat :=
  let atMost (limit : Option Nat) (n : Nat) := match limit with | none => n | some m => min m n
  atMost w.room (atMost (w.most (w.writes + 1)) text.length)

/-- Offers a text to the writer. -/
def write (text : List Char) : Action Writer WriteReply := fun w =>
  let next := { w with writes := w.writes + 1 }
  if w.interrupts next.writes then { value := (.interrupted, next) }
  else
    match w.failure next.writes with
    | some failure => { value := (.failed failure, next) }
    | none =>
      if w.room = some 0 then { value := (w.whenFull, next) }
      else
        let count := w.share text
        { value := (.accepted count, { next with
            room := w.room.map (· - count)
            kept := (text.take count).reverseAux w.kept }) }

/-- A write that is not interrupted, does not fail and has room adds what it takes. -/
theorem taken_write (w : Writer) (text : List Char) (hi : w.interrupts (w.writes + 1) = false)
    (hf : w.failure (w.writes + 1) = none) (hr : w.room ≠ some 0) :
    (write text w).value.2.taken = w.taken ++ text.take (w.share text) := by
  simp [write, hi, hf, hr, taken]

/-- Flushes the writer. -/
def flush : Action Writer (Except WriteFailure Unit) := fun w =>
  let next := { w with flushes := w.flushes + 1 }
  match w.flushFailure next.flushes with
  | none => { value := (.ok (), next) }
  | some failure => { value := (.error failure, next) }

end Writer

/-- A writer, the flag, and the pauses made so far. -/
structure Bench where
  writer : Writer := {}
  running : Bool := true
  /-- What becomes of the flag in the `n`th pause. -/
  change : Nat → Bool → Bool := fun _ flag => flag
  /-- How many pauses have been made. -/
  paused : Nat := 0
  /-- The lengths of the pauses, from the last to the first. -/
  lengths : List Duration := []

namespace Bench

/-- The lengths of the pauses made. -/
def pauses (b : Bench) : List Duration := b.lengths.reverse

/-- Makes a pause. -/
def pause (length : Duration) : Action Bench Unit := fun b =>
  let paused := b.paused + 1
  { value := ((), { b with
      paused, lengths := length :: b.lengths, running := b.change paused b.running }) }

@[simp] theorem pauses_pause (length : Duration) (b : Bench) :
    (pause length b).value.2.pauses = b.pauses ++ [length] := by
  simp [pause, pauses]

/-- Acts on the writer. -/
def onWriter (m : Action Writer α) : Action Bench α :=
  within writer (fun b w => { b with writer := w }) m

/-- The setting of a source on a bench. -/
def setting (sample : Action σ (Except Failure Utilization)) : Setting (σ × Bench) where
  sample := within Prod.fst (fun p s => (s, p.2)) sample
  write text := within Prod.snd (fun p b => (p.1, b)) (onWriter (Writer.write text))
  flush := within Prod.snd (fun p b => (p.1, b)) (onWriter Writer.flush)
  pause length := within Prod.snd (fun p b => (p.1, b)) (pause length)
  running p := p.2.running

/-- The loop over a source; the bench is given back with the result. -/
def run (sample : Action σ (Except Failure Utilization)) (mode : Mode) (interval : Duration)
    (bound : Nat) (bench : Bench) : Action σ (Except Halt Summary × Bench) := fun s =>
  let r := Monitor.run (setting sample) mode interval bound (s, bench)
  { value := ((r.value.1, r.value.2.2), r.value.2.1), trace := r.trace }

end Bench

/-- A source that gives listed results, and then fails. -/
structure Replay where
  left : List (Except Failure Utilization)
  /-- How often it was asked. -/
  asked : Nat := 0

/-- The next result. -/
def Replay.sample : Action Replay (Except Failure Utilization) := fun r =>
  match r.left with
  | [] => { value := (.error .noMetricSetSelected, { r with asked := r.asked + 1 }) }
  | result :: rest => { value := (result, ⟨rest, r.asked + 1⟩) }

end GpuMonitor.Monitor
