import GpuMonitor.Trace
import GpuMonitor.Vendor.Tree

/-!
# How a metrics library serves its tree

Every way to reach the metrics library, as an action on what it has left to serve.
Each one leaves in the trace the calls that it makes, lookups included. Calling the
entry point makes the library serve its tree from the start again; who has kept an object
from before goes on using the tree that it is from.

* `seek`: looks a child up in its parent and acts on it; `hold` acts on an object
  that a caller has kept, without a lookup.
* `ask`, `respond`: the parameters of an object; the code of a call.
* `State`: the script of a library, and what is left of each tree that it has served.
* The actions on `State`, one for each way to reach the library.
-/

namespace GpuMonitor.Vendor

/-! ## Reaching objects -/

/-- Acts on the child at a place, if there is one. -/
def hold (children : τ → List (Option β)) (keep : τ → List (Option β) → τ) (i : Nat)
    (m : Action β α) : Action τ (Option α) := fun parent =>
  match (children parent)[i]?.join with
  | none => { value := (none, parent) }
  | some child =>
    let r := m child
    { value := (some r.value.1, keep parent ((children parent).set i (some r.value.2)))
      trace := r.trace }

/-- Looks up the child at a place, and acts on it if there is one. -/
def seek (object : Object) (children : τ → List (Option β)) (keep : τ → List (Option β) → τ)
    (i : Nat) (m : Action β α) : Action τ (Option α) := fun parent =>
  let found := (children parent)[i]?.join.isSome
  let r := hold children keep i m parent
  { value := r.value, trace := .vendor (.find object found) :: r.trace }

/-- Asks an object for its parameters. -/
def ask (object : Object) (left : β → Availability) (keep : β → Availability → β)
    (params : β → π) : Action β (Option π) := fun b =>
  let (given, rest) := (left b).take
  { value := (if given then some (params b) else none, keep b rest)
    trace := [.vendor (.read object given)] }

/-- Makes a call that answers with a code. -/
def respond (call : β → CompletionCode → Call) (left : β → Codes) (keep : β → Codes → β) :
    Action β CompletionCode := fun b =>
  let (raw, rest) := (left b).take
  { value := (.ofRaw raw, keep b rest), trace := [.vendor (call b (.ofRaw raw))] }

/-! ## Actions on one object -/

/-- The parameters of a metric. -/
def Metric.read (object : Object) : Action Metric (Option MetricParams) :=
  ask object Metric.availability (fun m a => { m with availability := a }) fun m =>
    ⟨m.symbolName.copy, m.shortName.copy, m.units.copy⟩

namespace MetricSet

/-- The parameters of a metric set. -/
def read (object : Object) : Action MetricSet (Option MetricSetParams) :=
  ask object availability (fun s a => { s with availability := a }) fun s =>
    ⟨s.symbolName.copy, s.shortName.copy, s.metricCount⟩

/-- Acts on one of the metrics. -/
def seekMetric (adapter : Nat) (id : MetricSetId) (i : Nat) (m : Action Metric α) :
    Action MetricSet (Option α) :=
  seek (.metric adapter id i) metrics (fun s xs => { s with metrics := xs }) i m

/-- Activates the set on the device of an adapter. -/
def activate (adapter : Nat) (id : MetricSetId) : Action MetricSet CompletionCode :=
  respond (fun _ => .activate adapter id) activation fun s codes => { s with activation := codes }

/-- Deactivates the set. -/
def deactivate (adapter : Nat) (id : MetricSetId) : Action MetricSet CompletionCode :=
  respond (fun _ => .deactivate adapter id) deactivation fun s codes =>
    { s with deactivation := codes }

end MetricSet

namespace ConcurrentGroup

/-- The parameters of a concurrent group. -/
def read (object : Object) : Action ConcurrentGroup (Option ConcurrentGroupParams) :=
  ask object availability (fun g a => { g with availability := a }) fun g =>
    ⟨g.symbolName.copy, g.description.copy, g.setCount⟩

/-- Acts on one of the metric sets. -/
def seekSet (adapter : Nat) (id : MetricSetId) (m : Action MetricSet α) :
    Action ConcurrentGroup (Option α) :=
  seek (.metricSet adapter id) sets (fun g xs => { g with sets := xs }) id.set m

end ConcurrentGroup

namespace Device

/-- The parameters of a metrics device. -/
def read (object : Object) : Action Device (Option DeviceParams) :=
  ask object availability (fun d a => { d with availability := a }) fun d =>
    ⟨d.name.copy, d.groupCount⟩

/-- Acts on one of the concurrent groups. -/
def seekGroup (adapter group : Nat) (m : Action ConcurrentGroup α) : Action Device (Option α) :=
  seek (.concurrentGroup adapter group) groups (fun d xs => { d with groups := xs }) group m

/-- Acts on a metric set, looking up its group first. -/
def seekSet (adapter : Nat) (id : MetricSetId) (m : Action MetricSet α) :
    Action Device (Option α) :=
  Option.join <$> seekGroup adapter id.group (ConcurrentGroup.seekSet adapter id m)

/-- The times of the two clocks. -/
def clocks (d : Device) : Timestamps := ⟨d.gpuNanos, d.cpuNanos, d.cpuId⟩

/-- Reads the two clocks. -/
def readClocks (adapter : Nat) : Action Device (Except CompletionCode Timestamps) := do
  let code ← respond (fun _ => .readClocks adapter) clockCodes fun d codes =>
    { d with clockCodes := codes }
  let d ← get
  return code.toExcept.map fun _ => d.clocks

end Device

namespace Adapter

/-- The parameters of an adapter. -/
def read (object : Object) : Action Adapter (Option AdapterParams) :=
  ask object availability (fun a v => { a with availability := v }) fun a =>
    ⟨a.shortName.copy, a.vendorId, a.deviceId⟩

/-- Opens the metrics device; with the code comes whether the device is handed out. -/
def openDevice (index : Nat) : Action Adapter (CompletionCode × Bool) := do
  let code ← respond (fun a code => .openDevice index code a.givesDevice) opening fun a codes =>
    { a with opening := codes }
  return (code, (← get).givesDevice)

/-- Closes the metrics device. -/
def closeDevice (index : Nat) : Action Adapter CompletionCode :=
  respond (fun _ => .closeDevice index) closing fun a codes => { a with closing := codes }

/-- Acts on the metrics device. -/
def onDevice (m : Action Device α) : Action Adapter α :=
  within device (fun a d => { a with device := d }) m

end Adapter

namespace AdapterGroup

/-- The version of the interface that the library offers. -/
def version (g : AdapterGroup) : ApiVersion := ⟨g.major, g.minor, g.build⟩

/-- The parameters of the adapter group. -/
def read : Action AdapterGroup (Option AdapterGroupParams) :=
  ask .adapterGroup availability (fun g a => { g with availability := a }) fun g =>
    ⟨g.version, g.adapterCount⟩

/-- Looks up an adapter and acts on it. -/
def seekAdapter (i : Nat) (m : Action Adapter α) : Action AdapterGroup (Option α) :=
  seek (.adapter i) adapters (fun g xs => { g with adapters := xs }) i m

/-- Acts on an adapter that was looked up before. -/
def holdAdapter (i : Nat) (m : Action Adapter α) : Action AdapterGroup (Option α) :=
  hold adapters (fun g xs => { g with adapters := xs }) i m

/-- Closes the group. -/
def close : Action AdapterGroup CompletionCode :=
  respond (fun _ => .closeAdapters) closing fun g codes => { g with closing := codes }

end AdapterGroup

/-! ## The whole library -/

/-- A metrics library in use. The trees that it serves are numbered from 0, which is the
one before any call of the entry point and is never reached. -/
structure State where
  script : Script
  /-- What is left of the trees before the latest one, in order. -/
  earlier : List AdapterGroup := []
  /-- What is left of the latest tree. -/
  latest : AdapterGroup
  deriving DecidableEq, Repr

namespace State

/-- A library that nothing has been asked of. -/
def fresh (script : Script) : State := { script, latest := script.group }

/-- The number of the latest tree. -/
def newest (v : State) : Nat := v.earlier.length

/-- What is left of a tree; a number beyond the latest stands for the latest. -/
def tree (n : Nat) (v : State) : AdapterGroup := v.earlier[n]?.getD v.latest

/-- The library with a tree changed. -/
def putTree (n : Nat) (v : State) (g : AdapterGroup) : State :=
  if n < v.earlier.length then { v with earlier := v.earlier.set n g } else { v with latest := g }

@[simp] theorem tree_newest (v : State) : v.tree v.newest = v.latest := by
  simp [tree, newest]

@[simp] theorem tree_putTree (n : Nat) (v : State) (g : AdapterGroup) :
    (v.putTree n g).tree n = g := by
  by_cases h : n < v.earlier.length <;> simp [tree, putTree, h]

/-- Acts on a tree. -/
def onTree (n : Nat) (m : Action AdapterGroup α) : Action State α :=
  within (tree n) (fun v g => v.putTree n g) m

/-- Acts on the latest tree. -/
def onLatest (m : Action AdapterGroup α) : Action State α :=
  within latest (fun v g => { v with latest := g }) m

/-- Calls the entry point; with the code comes whether the group is handed out. -/
def openAdapters : Action State (CompletionCode × Bool) := fun v =>
  let code := CompletionCode.ofRaw v.script.code
  { value := ((code, v.script.givesGroup),
      { v with earlier := v.earlier ++ [v.latest], latest := v.script.group })
    trace := [.vendor (.openAdapters code v.script.givesGroup)] }

end State
end GpuMonitor.Vendor
