import GpuMonitor.CompletionCode
import GpuMonitor.Descriptor
import GpuMonitor.Text.Number

/-!
# Calls into the metrics library

Each time a function or a method of the metrics library is reached, one `Call` says
which, on which object, and what it answered. Calls of the lifecycle have a text;
looking up a child and reading parameters have none.

* `Object`: an object of the descriptor tree by its place. What lies below a metrics
  device is named with the adapter that the device belongs to.
* `Call.text?`: the text of a call of the lifecycle.
-/

namespace GpuMonitor.Vendor

/-- An object of the descriptor tree. -/
inductive Object where
  | adapterGroup
  | adapter (index : Nat)
  | device (adapter : Nat)
  | concurrentGroup (adapter group : Nat)
  | metricSet (adapter : Nat) (id : MetricSetId)
  | metric (adapter : Nat) (id : MetricSetId) (index : Nat)
  deriving DecidableEq, Repr

/-- The library is reached in one of these ways. -/
inductive Call where
  /-- The entry point; `given` tells whether a group was handed out. -/
  | openAdapters (code : CompletionCode) (given : Bool)
  /-- A child is looked up in its parent; `found` tells whether there is one. -/
  | find (object : Object) (found : Bool)
  /-- The parameters of an object are asked for; `found` tells whether they are given. -/
  | read (object : Object) (found : Bool)
  /-- An adapter opens its metrics device; `given` tells whether one was handed out. -/
  | openDevice (adapter : Nat) (code : CompletionCode) (given : Bool)
  /-- A metric set is activated on the device of an adapter. -/
  | activate (adapter : Nat) (id : MetricSetId) (code : CompletionCode)
  /-- A metric set is deactivated. -/
  | deactivate (adapter : Nat) (id : MetricSetId) (code : CompletionCode)
  /-- A device reads the two clocks. -/
  | readClocks (adapter : Nat) (code : CompletionCode)
  /-- An adapter closes its metrics device. -/
  | closeDevice (adapter : Nat) (code : CompletionCode)
  /-- The adapter group is closed. -/
  | closeAdapters (code : CompletionCode)
  /-- The library is unloaded. -/
  | unload
  deriving DecidableEq, Repr

namespace Call

/-- A call with the place of a metric set. -/
def textAt (name : String) (id : MetricSetId) : String :=
  name ++ "(" ++ Text.decimal id.group ++ "," ++ Text.decimal id.set ++ ")"

/-- A call with the index of an adapter. -/
def textOn (name : String) (adapter : Nat) : String :=
  name ++ "(" ++ Text.decimal adapter ++ ")"

/-- The text of a call of the lifecycle. -/
def text? : Call → Option String
  | openAdapters .. => some "open_adapter_group"
  | find .. | read .. => none
  | openDevice adapter .. => some (textOn "open_metrics_device" adapter)
  | activate _ id _ => some (textAt "activate" id)
  | deactivate _ id _ => some (textAt "deactivate" id)
  | readClocks .. => some "gpu_cpu_timestamps"
  | closeDevice adapter _ => some (textOn "close_metrics_device" adapter)
  | closeAdapters _ => some "close_adapter_group"
  | unload => some "unload"

end Call
end GpuMonitor.Vendor
