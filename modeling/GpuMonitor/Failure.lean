import GpuMonitor.CompletionCode
import GpuMonitor.Path

/-!
# What can go wrong

Every failure of the library is one of a few causes; its wording is `message`.

* `isLoad`, `isDiscovery`, `isPermission`: the kinds for which a user can be given
  a hint.
-/

namespace GpuMonitor

/-- The name of the function through which the metrics library is entered. -/
def entryPoint : String := "OpenAdapterGroup"

/-- Why an operation failed. -/
inductive Failure where
  /-- No candidate could be loaded; the paths are all that were tried. -/
  | libraryNotFound (tried : List Path)
  /-- A library was loaded, but its entry point is missing. -/
  | entryPointMissing (reason : String)
  /-- A call into the metrics library did not succeed. -/
  | vendorCall (operation : String) (code : CompletionCode)
  /-- A descriptor has no parameters. -/
  | missingParams (what : String)
  /-- No adapter has the vendor number of Intel. -/
  | noIntelAdapter
  /-- No metric set has metrics of engine utilization. -/
  | noUtilizationMetricSet
  /-- A sample was asked for before a metric set was selected. -/
  | noMetricSetSelected
  /-- A configuration breaks a rule. -/
  | invalidConfig (reason : String)
  deriving DecidableEq, Repr

namespace Failure

/-- The wording of a failure. -/
def message : Failure → String
  | libraryNotFound tried =>
    "Failed to load the Metrics Discovery library (tried: "
      ++ String.intercalate ", " (tried.map Path.text) ++ ")"
  | entryPointMissing reason => "Failed to find " ++ entryPoint ++ " function: " ++ reason
  | vendorCall operation code => "Failed to " ++ operation ++ ": " ++ code.name
  | missingParams what => "Failed to get " ++ what ++ " parameters"
  | noIntelAdapter => "No Intel GPU found"
  | noUtilizationMetricSet => "No GPU utilization metric set found"
  | noMetricSetSelected => "No metric set selected"
  | invalidConfig reason => "Invalid configuration: " ++ reason

/-- What lies beneath a failure, when that is told besides. -/
def causes : Failure → List String
  | entryPointMissing reason => [reason]
  | _ => []

/-- The library or its entry point could not be loaded. -/
def isLoad : Failure → Bool
  | libraryNotFound _ | entryPointMissing _ => true
  | _ => false

/-- The machine does not have what is looked for. -/
def isDiscovery : Failure → Bool
  | noIntelAdapter | noUtilizationMetricSet => true
  | _ => false

/-- The metrics library refused access. -/
def isPermission : Failure → Bool
  | vendorCall _ .errorAccessDenied => true
  | _ => false

end Failure
end GpuMonitor
