import GpuMonitor.Config
import GpuMonitor.Utilization
import GpuMonitor.Walk

/-!
# The monitoring loop

The loop takes a sample, writes a line and flushes it. In snapshot mode that is all; in
continuous mode it then pauses, looks whether it is still meant to run, and starts
over. A sample that cannot be taken ends it.

* `Setting`: what the loop works with, over any state.
* `Setting.writeAll`: writes a text whole, however little a writer accepts at a time.
* `Setting.round`: one round.
* `run`: the loop. It need not end, so it is given a bound on its rounds, and
  `Halt.unfinished` says that the bound was met.
-/

namespace GpuMonitor

/-- The kinds of failing writes. -/
inductive WriteFailure.Kind where
  | writeZero
  | brokenPipe
  | other
  deriving DecidableEq, Repr

/-- Why a write or a flush failed. -/
structure WriteFailure where
  kind : WriteFailure.Kind
  text : String
  deriving DecidableEq, Repr

/-- A writer accepted nothing of a text that was not empty. -/
def WriteFailure.nothingAccepted : WriteFailure := ⟨.writeZero, "failed to write whole buffer"⟩

/-- What a writer says of a text that it is offered. All that is written here is ASCII, so
a character is a byte. -/
inductive WriteReply where
  /-- It has taken so many characters from the start of the text. -/
  | accepted (count : Nat)
  /-- It has taken nothing and is to be asked again. -/
  | interrupted
  | failed (failure : WriteFailure)
  deriving DecidableEq, Repr

namespace Monitor

/-- Why the loop ended. -/
inductive StopReason where
  /-- The single sample of snapshot mode is taken. -/
  | snapshotTaken
  /-- The loop was told to stop. -/
  | interrupted
  /-- A sample could not be taken. -/
  | sampleFailed
  deriving DecidableEq, Repr

/-- The name of a reason. -/
def StopReason.name : StopReason → String
  | snapshotTaken => "SnapshotTaken"
  | interrupted => "Interrupted"
  | sampleFailed => "SampleFailed"

/-- What the loop has done. -/
structure Summary where
  /-- How many samples were written. -/
  samples : Nat
  reason : StopReason
  deriving DecidableEq, Repr

/-- Why there is no summary. -/
inductive Halt where
  /-- The bound was met. -/
  | unfinished
  /-- A line could not be written. -/
  | failed (failure : WriteFailure)
  deriving DecidableEq, Repr

/-- What the loop works with. -/
structure Setting (σ : Type) where
  /-- Takes a sample. -/
  sample : Action σ (Except Failure Utilization)
  /-- Offers a text to the writer. -/
  write : List Char → Action σ WriteReply
  /-- Flushes the writer. -/
  flush : Action σ (Except WriteFailure Unit)
  /-- Lets some time pass. -/
  pause : Duration → Action σ Unit
  /-- The loop is still meant to run. -/
  running : σ → Bool

/-- An action that can halt the loop. -/
abbrev Step (σ : Type) := ExceptT Halt (Action σ)

namespace Setting

/-- Writes a text whole, in at most so many attempts. -/
def writeAll (S : Setting σ) : Nat → List Char → Step σ Unit
  | _, [] => pure ()
  | 0, _ => throw .unfinished
  | attempts + 1, text => do
    match ← S.write text with
    | .accepted 0 => throw (.failed .nothingAccepted)
    | .accepted count => S.writeAll attempts (text.drop count)
    | .interrupted => S.writeAll attempts text
    | .failed failure => throw (.failed failure)

/-- Writes some texts one after the other. -/
def writePieces (S : Setting σ) (attempts : Nat) : List String → Step σ Unit
  | [] => pure ()
  | piece :: rest => do
    S.writeAll attempts piece.toList
    S.writePieces attempts rest

/-- Flushes, or halts. -/
def flushAll (S : Setting σ) : Step σ Unit := do
  match ← S.flush with
  | .ok () => pure ()
  | .error failure => throw (.failed failure)

/-- Writes the line of a sample and flushes it. -/
def showSample (S : Setting σ) (attempts : Nat) (u : Utilization) : Step σ Unit := do
  S.writePieces attempts (u.pieces ++ ["\n"])
  S.flushAll

/-- Reports a sample that could not be taken. -/
def complain (S : Setting σ) (attempts : Nat) (f : Failure) : Step σ Unit := do
  (log .error ("Error reading GPU utilization: " ++ f.message) : Action σ Unit)
  S.writePieces attempts ["Error reading GPU utilization\n"]

/-- One round of the loop, after some samples have been written. A summary ends the loop. -/
def round (S : Setting σ) (mode : Mode) (interval : Duration) (attempts written : Nat) :
    Step σ (Option Summary) := do
  match ← S.sample with
  | .error f =>
    S.complain attempts f
    -- The report counts as no sample and is not flushed.
    return some ⟨written, .sampleFailed⟩
  | .ok u =>
    S.showSample attempts u
    match mode with
    | .snapshot => return some ⟨written + 1, .snapshotTaken⟩
    | .continuous =>
      S.pause interval
      -- The flag is looked at after the pause only, so at least one sample is written.
      if S.running (← get) then return none else return some ⟨written + 1, .interrupted⟩

end Setting

/-- How the loop ends with a round, if it does. -/
def ending : Except Halt (Option Summary) → Option (Except Halt Summary)
  | .error halt => some (.error halt)
  | .ok summary => summary.map .ok

/-- The loop, with a bound on its rounds and on the attempts that a text is written in. Its
rounds are counted from 0, so the number of a round is that of the samples written before. -/
def run (S : Setting σ) (mode : Mode) (interval : Duration) (bound : Nat) :
    Action σ (Except Halt Summary) := do
  let round (written : Nat) := ending <$> (S.round mode interval bound written).run
  return (← firstOf round 0 bound).getD (.error .unfinished)

end Monitor
end GpuMonitor
