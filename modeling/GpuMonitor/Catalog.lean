import GpuMonitor.Channel
import GpuMonitor.Failure
import GpuMonitor.Gateway
import GpuMonitor.Walk

/-!
# What a device offers

Reading a whole tree through a gateway. An object whose parameters are not given is
left out, and what lies below it is not looked at.

* `listAdapters`: the adapters of the open adapter group.
* `catalog`: the concurrent groups of the open device, with their metric sets and
  metrics.
-/

namespace GpuMonitor

/-- The class of a metric by its symbol name, if it has one. -/
def MetricParams.class? (m : MetricParams) : Option MetricClass := m.symbolName.bind classify

/-- A metric set and its metrics. -/
structure MetricSetEntry where
  id : MetricSetId
  params : MetricSetParams
  metrics : List MetricParams
  deriving DecidableEq, Repr

/-- Some metric of the set measures how an engine is used. -/
def MetricSetEntry.carriesUtilization (e : MetricSetEntry) : Bool :=
  e.metrics.any fun m => m.class?.isSome

/-- A concurrent group and its metric sets. -/
structure ConcurrentGroupEntry where
  index : Nat
  params : ConcurrentGroupParams
  sets : List MetricSetEntry
  deriving DecidableEq, Repr

section
variable [Gateway γ]

/-- The adapters of the open group whose parameters are given. -/
def listAdapters : Action γ (List AdapterInfo) := do
  let count := ((← Gateway.readAdapterGroup).map AdapterGroupParams.adapterCount).getD 0
  collect (fun i => Option.map (AdapterInfo.ofParams i) <$> Gateway.readAdapter i) 0 count

/-- How many concurrent groups the open device reports. -/
def concurrentGroupCount : Action γ (Except Failure Nat) := do
  match ← Gateway.readDevice with
  | none => return .error (.missingParams "metrics device")
  | some params => return .ok params.concurrentGroupCount

/-- The metrics of a set whose parameters are given. -/
def metricsOf (id : MetricSetId) (count : Nat) : Action γ (List MetricParams) :=
  collect (Gateway.readMetric id) 0 count

/-- The entry of a metric set. -/
def readSetEntry (id : MetricSetId) : Action γ (Option MetricSetEntry) := do
  match ← Gateway.readMetricSet id with
  | none => return none
  | some params => return some { id, params, metrics := ← metricsOf id params.metricCount }

/-- The entry of a concurrent group. -/
def readGroupEntry (group : Nat) : Action γ (Option ConcurrentGroupEntry) := do
  match ← Gateway.readConcurrentGroup group with
  | none => return none
  | some params =>
    let sets ← collect (fun set => readSetEntry ⟨group, set⟩) 0 params.metricSetCount
    return some { index := group, params, sets }

/-- Everything that the open device offers. -/
def catalog : Action γ (Except Failure (List ConcurrentGroupEntry)) := do
  match ← concurrentGroupCount with
  | .error f => return .error f
  | .ok count => return .ok (← collect readGroupEntry 0 count)

end
end GpuMonitor
