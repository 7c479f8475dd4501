import GpuMonitor.Duration
import GpuMonitor.Failure

/-!
# Configuration of a monitoring run

* `Config.candidates`: the paths at which the metrics library is looked for.
* `Config.validate`: the first rule that a configuration breaks, if any. The rules
  are, in this order: the interval is not zero, the window is not zero, the window is
  not longer than the interval, a library path that is given is not empty.
-/

namespace GpuMonitor

/-- How many samples to take. -/
inductive Mode where
  /-- One sample. -/
  | snapshot
  /-- Samples until the run is interrupted. -/
  | continuous
  deriving DecidableEq, Repr

/-- The name of a mode. -/
def Mode.name : Mode → String
  | snapshot => "Snapshot"
  | continuous => "Continuous"

/-- The places where the metrics library is looked for when none is named. -/
def defaultLibraryPaths : List Path :=
  [.ofText "./dump/linux64/release/metrics_discovery/libigdmd.so",
    .ofText "/usr/lib/x86_64-linux-gnu/libigdmd.so",
    .ofText "/usr/local/lib/libigdmd.so",
    .ofText "libigdmd.so"]

/-- The variable of the environment that can name a library. -/
def libraryVariable : String := "IGDMD_LIBRARY"

/-- The version of this library. -/
def version : String := "0.1.0"

/-- The pause between samples unless another is asked for. -/
def defaultInterval : Duration := .ofSeconds 1

/-- How long a metric set stays active for one sample unless told otherwise. -/
def defaultWindow : Duration := .ofMillis 100

/-- The settings of a run. -/
structure Config where
  mode : Mode := .continuous
  /-- The pause between samples. -/
  interval : Duration := defaultInterval
  /-- How long a metric set stays active for each sample. -/
  window : Duration := defaultWindow
  /-- A library to try before the default places. -/
  library : Option Path := none
  deriving DecidableEq

namespace Config

/-- The paths to try, in order. -/
def candidates (config : Config) : List Path := config.library.toList ++ defaultLibraryPaths

/-- Accepts a configuration, or says which rule it breaks first. -/
def validate (config : Config) : Except Failure Unit :=
  if config.interval.isZero then .error (.invalidConfig "sample interval must be non-zero")
  else if config.window.isZero then .error (.invalidConfig "measurement window must be non-zero")
  else if config.window.above config.interval then
    .error (.invalidConfig ("measurement window (" ++ config.window.text
      ++ ") exceeds sample interval (" ++ config.interval.text ++ ")"))
  else if config.library.any (·.bytes.isEmpty) then .error (.invalidConfig "library path is empty")
  else .ok ()

end Config
end GpuMonitor
