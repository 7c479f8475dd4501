import GpuMonitor.Descriptor
import GpuMonitor.Trace

/-!
# Ways into a metrics library

What a monitor needs of a metrics library, whatever stands behind it.

* `Gateway`: the operations, as actions on a state `γ`.
* `Gateway.Request`, `Gateway.Reply`: the operations and their answers as data, so
  that a history of operations is a list.
* `Gateway.perform`: the action that a request stands for.
-/

namespace GpuMonitor

/-- A warning about a call, unless its code is `ok`. -/
def warnUnlessOk (what : String) (code : CompletionCode) : Action σ Unit :=
  if code.isOk then pure () else log .warn ("Failed to " ++ what ++ ": " ++ code.name)

/-- A state through which a metrics library can be used. -/
class Gateway (γ : Type) where
  /-- Opens the adapter group. -/
  openAdapters : Action γ (Except CompletionCode Unit)
  /-- The parameters of the adapter group. -/
  readAdapterGroup : Action γ (Option AdapterGroupParams)
  /-- The parameters of an adapter. -/
  readAdapter (index : Nat) : Action γ (Option AdapterParams)
  /-- Opens the metrics device of an adapter. -/
  openDevice (adapter : Nat) : Action γ (Except CompletionCode Unit)
  /-- The parameters of the open device. -/
  readDevice : Action γ (Option DeviceParams)
  /-- The parameters of a concurrent group of the open device. -/
  readConcurrentGroup (group : Nat) : Action γ (Option ConcurrentGroupParams)
  /-- The parameters of a metric set of the open device. -/
  readMetricSet (id : MetricSetId) : Action γ (Option MetricSetParams)
  /-- The parameters of a metric of a metric set. -/
  readMetric (id : MetricSetId) (index : Nat) : Action γ (Option MetricParams)
  /-- Activates a metric set. -/
  activate (id : MetricSetId) : Action γ CompletionCode
  /-- Deactivates a metric set. -/
  deactivate (id : MetricSetId) : Action γ CompletionCode
  /-- Reads the clocks of the open device. -/
  readClocks : Action γ (Except CompletionCode Timestamps)
  /-- Closes the open device. -/
  closeDevice : Action γ CompletionCode
  /-- Closes the adapter group. -/
  closeAdapters : Action γ CompletionCode
  /-- Closes what is open and lets the library go. -/
  unload : Action γ Unit

namespace Gateway

/-- An operation on a metrics library. -/
inductive Request where
  | openAdapters
  | readAdapterGroup
  | readAdapter (index : Nat)
  | openDevice (adapter : Nat)
  | readDevice
  | readConcurrentGroup (group : Nat)
  | readMetricSet (id : MetricSetId)
  | readMetric (id : MetricSetId) (index : Nat)
  | activate (id : MetricSetId)
  | deactivate (id : MetricSetId)
  | readClocks
  | closeDevice
  | closeAdapters
  | unload
  deriving DecidableEq, Repr

/-- What an operation answers. -/
inductive Reply where
  | opened (result : Except CompletionCode Unit)
  | adapterGroup (params : Option AdapterGroupParams)
  | adapter (params : Option AdapterParams)
  | device (params : Option DeviceParams)
  | concurrentGroup (params : Option ConcurrentGroupParams)
  | metricSet (params : Option MetricSetParams)
  | metric (params : Option MetricParams)
  | clocks (result : Except CompletionCode Timestamps)
  | code (code : CompletionCode)
  | done

variable [Gateway γ]

/-- Does what a request asks for. -/
def perform : Request → Action γ Reply
  | .openAdapters => Reply.opened <$> openAdapters
  | .readAdapterGroup => Reply.adapterGroup <$> readAdapterGroup
  | .readAdapter index => Reply.adapter <$> readAdapter index
  | .openDevice adapter => Reply.opened <$> openDevice adapter
  | .readDevice => Reply.device <$> readDevice
  | .readConcurrentGroup group => Reply.concurrentGroup <$> readConcurrentGroup group
  | .readMetricSet id => Reply.metricSet <$> readMetricSet id
  | .readMetric id index => Reply.metric <$> readMetric id index
  | .activate id => Reply.code <$> activate id
  | .deactivate id => Reply.code <$> deactivate id
  | .readClocks => Reply.clocks <$> readClocks
  | .closeDevice => Reply.code <$> closeDevice
  | .closeAdapters => Reply.code <$> closeAdapters
  | .unload => (fun _ => Reply.done) <$> unload

/-- Does what some requests ask for, one after the other. -/
def performAll : List Request → Action γ (List Reply)
  | [] => pure []
  | r :: rest => do
    let reply ← perform r
    return reply :: (← performAll rest)

end Gateway
end GpuMonitor
