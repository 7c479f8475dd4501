import GpuMonitor.Files
import GpuMonitor.Program

/-!
# The command line of the monitor

Runs the monitoring program with the arguments and the environment of the process. No
metrics library can be entered from here, so the files of the system hold none.
-/

namespace GpuMonitor

/-- The loader of a system without a metrics library. -/
def noLibrary : Loader := Files.Place.loader ⟨.directory [], []⟩ {}

/-- Lets an event of a run happen. -/
def happen : Event → IO Unit
  | .print .output text => IO.print text
  | .print .errors text => IO.eprint text
  | .wait length => IO.sleep (UInt32.ofNat (min (length.total / 1000000) 4294967295))
  | _ => pure ()

end GpuMonitor

open GpuMonitor in
/-- The monitor. -/
def main (arguments : List String) : IO UInt32 := do
  let preset ← IO.getEnv libraryVariable
  let r := Program.run ⟨noLibrary, none, 1⟩ (arguments.map Bytes.ofText) (preset.map Bytes.ofText)
  r.trace.forM happen
  return if r.value = .success then 0 else 1
