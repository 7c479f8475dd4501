import GpuMonitor.Catalog

/-!
# Selecting a metric set

The first metric set, by group and then by place, that has a metric of engine
utilization. The search reports what it comes across and stops at the set it selects.

* `selectSet`: the search.
-/

namespace GpuMonitor

/-- A metric set that was selected, with the name that it had then. -/
structure Selection where
  id : MetricSetId
  name : Option String
  deriving DecidableEq, Repr

namespace Selection

/-- The metrics of utilization among some metrics: what each measures, and its name. -/
def recognized (metrics : List MetricParams) : List (MetricClass × String) :=
  metrics.filterMap fun m => m.symbolName.bind fun name => (classify name).map (·, name)

/-- The record of a metric of utilization that was found. -/
def foundRecord (m : MetricClass × String) : Event :=
  .log .info ("    Found " ++ m.1.channel.lowerName ++ " metric: " ++ m.2)

variable [Gateway γ]

/-- Selects a set if it carries utilization. -/
def considerSet (id : MetricSetId) : Action γ (Option Selection) := do
  match ← Gateway.readMetricSet id with
  | none => return none
  | some params =>
    let name := nameOrUnknown params.symbolName
    log .info ("  Metric set " ++ Text.decimal id.set ++ ": " ++ name
      ++ " (" ++ Text.decimal params.metricCount ++ " metrics)")
    let found := recognized (← metricsOf id params.metricCount)
    emitAll (found.map foundRecord)
    if found.isEmpty then return none
    else
      log .debug ("Selected metric set: " ++ name)
      return some ⟨id, params.symbolName⟩

/-- Selects the first set of a group that carries utilization. -/
def considerGroup (group : Nat) : Action γ (Option Selection) := do
  match ← Gateway.readConcurrentGroup group with
  | none => return none
  | some params =>
    log .info ("Concurrent group " ++ Text.decimal group ++ ": " ++ nameOrUnknown params.symbolName
      ++ " (" ++ Text.decimal params.metricSetCount ++ " metric sets)")
    firstOf (fun set => considerSet ⟨group, set⟩) 0 params.metricSetCount

end Selection

/-- Selects the first metric set of the open device that carries utilization. -/
def selectSet [Gateway γ] : Action γ (Except Failure Selection) := do
  match ← concurrentGroupCount with
  | .error f => return .error f
  | .ok count =>
    log .info ("Device has " ++ Text.decimal count ++ " concurrent group(s)")
    match ← firstOf Selection.considerGroup 0 count with
    | some selection => return .ok selection
    | none =>
      log .warn "No GPU utilization metric set found"
      log .warn "Available metric sets may not include engine utilization on this platform"
      return .error .noUtilizationMetricSet

end GpuMonitor
