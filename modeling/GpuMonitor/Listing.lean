import GpuMonitor.Config
import GpuMonitor.Failure.Literal
import GpuMonitor.Library
import GpuMonitor.Session

/-!
# The listing program

Prints everything that the first Intel adapter offers, and marks what the monitor
recognizes. When it fails, the failure is reported and also written as a value.

* `metricLine`, `setLines`, `groupLines`: the lines of a catalog.
* `run`: the program.
-/

namespace GpuMonitor.Listing

/-- The line of an adapter; the one in use is marked. -/
def adapterLine (inUse : Option AdapterInfo) (a : AdapterInfo) : String :=
  "Adapter #" ++ Text.decimal a.index ++ ": " ++ a.displayName
    ++ " (Vendor ID: 0x" ++ Text.hexFour a.vendorId
    ++ ", Device ID: 0x" ++ Text.hexFour a.deviceId ++ ")"
    ++ if inUse = some a then " [opened]" else ""

/-- A text between two others, if there is one. -/
def between (before after : String) : Option String → String
  | none => ""
  | some text => before ++ text ++ after

/-- The line of a metric; one without a symbol name has none. -/
def metricLine (m : MetricParams) : Option String :=
  m.symbolName.map fun name =>
    "    " ++ name ++ between " \"" "\"" m.shortName ++ between " (" ")" m.units
      ++ between " [" "]" ((classify name).map fun c => c.channel.name ++ ", " ++ c.activity.name)

/-- The lines of a metric set. -/
def setLines (e : MetricSetEntry) : List String :=
  ("  Metric set " ++ Text.decimal e.id.set ++ ": " ++ nameOrUnknown e.params.symbolName
    ++ " (" ++ Text.decimal e.metrics.length ++ " metrics)"
    ++ if e.carriesUtilization then " *" else "")
  :: e.metrics.filterMap metricLine

/-- The lines of a concurrent group; an empty one closes them. -/
def groupLines (e : ConcurrentGroupEntry) : List String :=
  ["Concurrent group " ++ Text.decimal e.index ++ ": " ++ nameOrUnknown e.params.symbolName]
    ++ (e.params.description.map ("  " ++ ·)).toList ++ e.sets.flatMap setLines ++ [""]

/-- Prints some lines. -/
def printLines (stream : Stream) (lines : List String) : Action σ Unit :=
  emitAll (lines.map fun line => .print stream (line ++ "\n"))

/-- What a user is told when no library can be loaded. -/
def loadAdvice : List String :=
  ["", "Make sure libigdmd is installed, or pass its path:",
    "  cargo run --example list_metric_sets -- /path/to/libigdmd.so"]

/-- What a user is told when access is refused. -/
def accessAdvice : List String :=
  ["", "To fix permission issues, try one of:", "  1. Run as root",
    "  2. Set /proc/sys/dev/i915/perf_stream_paranoid to 0"]

/-- Lists what a session sees. -/
def inspect : Action (Session Library) (Except Failure Unit) := do
  let adapters ← Session.adapters
  printLines .output (adapters.map (adapterLine (← get).adapter))
  match ← Session.deviceName with
  | none => pure ()
  | some name => printLine .output ("Metrics device: " ++ name)
  printLine .output ""
  match ← Session.catalog with
  | .error f => return .error f
  | .ok groups =>
    printLines .output (groups.flatMap groupLines)
    printLine .output "* metric set carries engine utilization metrics"
    return .ok ()

/-- Lists over a loaded library. -/
def runOver (library : Library) : Traced (Except Failure Unit) := do
  match ← Session.start library with
  | .error f =>
    let _ ← printLines .errors
      (("Error: " ++ f.message) :: if f.isPermission then accessAdvice else []) ()
    return .error f
  | .ok session =>
    let (result, session) ← inspect session
    let _ ← Session.finish session
    return result

/-- Loads the library, from a given path first, and lists. -/
def list (loader : Loader) (library : Option Path) : Traced (Except Failure Unit) := do
  let _ ← printLines .output
    ["Intel Metrics Discovery Tree", "============================", ""] ()
  match ← Library.load loader ({ library } : Config).candidates with
  | .error f =>
    let _ ← printLines .errors (("Error: " ++ f.message) :: loadAdvice) ()
    return .error f
  | .ok library =>
    Traced.printLine .output ("Library: " ++ library.path.text)
    runOver library

/-- The program: its first argument may name a library. -/
def run (loader : Loader) (arguments : List Bytes) : Traced (Except Failure Unit) := do
  match ← list loader (arguments.head?.map Path.mk) with
  | .error f =>
    Traced.printLine .errors ("Error: " ++ f.literal)
    return .error f
  | .ok () => return .ok ()

end GpuMonitor.Listing
