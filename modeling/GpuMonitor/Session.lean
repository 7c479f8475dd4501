import GpuMonitor.Config
import GpuMonitor.Selection
import GpuMonitor.Utilization

/-!
# Sessions

A session uses a gateway from the opening of the first Intel adapter to the release
of everything that was opened. Between the two a metric set can be selected and
sampled.

* `Session.start`: opens; on failure everything is released.
* `Session.select`: selects a metric set. `Session.sample`: takes a sample of it.
* `Session.release`: deactivates, closes and unloads in this order, once.
* `Session.finish`: the end of a session.
-/

namespace GpuMonitor

/-- A session over a gateway. -/
structure Session (γ : Type) where
  gateway : γ
  /-- How long the metric set stays active for a sample. -/
  window : Duration := defaultWindow
  groupOpen : Bool := false
  /-- The adapter whose device was opened. -/
  adapter : Option AdapterInfo := none
  deviceOpen : Bool := false
  selection : Option Selection := none
  /-- An activation was accepted and no deactivation has succeeded since. -/
  active : Bool := false
  released : Bool := false

namespace Session

/-- Acts on the gateway. -/
def onGateway (m : Action γ α) : Action (Session γ) α :=
  within gateway (fun s g => { s with gateway := g }) m

variable [Gateway γ]

/-! ## Releasing -/

/-- Deactivates the selected set if it is active. -/
def releaseSet : Action (Session γ) Unit := do
  let s ← get
  if s.active then
    match s.selection with
    | none => pure ()
    | some selection =>
      warnUnlessOk "deactivate metric set" (← onGateway (Gateway.deactivate selection.id))
    modify fun s => { s with active := false }

/-- Closes the device if it is open. -/
def releaseDevice : Action (Session γ) Unit := do
  if (← get).deviceOpen then
    warnUnlessOk "close metrics device" (← onGateway Gateway.closeDevice)
    modify fun s => { s with deviceOpen := false }

/-- Closes the adapter group if it is open. -/
def releaseGroup : Action (Session γ) Unit := do
  if (← get).groupOpen then
    warnUnlessOk "close adapter group" (← onGateway Gateway.closeAdapters)
    modify fun s => { s with groupOpen := false }

/-- Releases everything in the reverse order of its opening; nothing is done the second
time. -/
def release : Action (Session γ) Unit := do
  if (← get).released then return ()
  else
    -- Marked first, so that nothing below can be asked for again.
    modify fun s => { s with released := true }
    log .info "Cleaning up resources..."
    releaseSet
    releaseDevice
    releaseGroup
    onGateway Gateway.unload

/-- Ends a session: it is released, and its gateway is given up. -/
def finish : Action (Session γ) Unit := do
  release
  onGateway Gateway.unload

/-! ## Starting -/

/-- What the session's trace says of an adapter that is going to be opened. -/
def foundText (a : AdapterInfo) : String :=
  "Found Intel GPU: " ++ a.displayName ++ " (Device ID: 0x" ++ Text.hexUpper a.deviceId ++ ")"

/-- Opens the device of an adapter. -/
def openDevice (adapter : AdapterInfo) : Action (Session γ) (Except Failure Unit) := do
  match ← onGateway (Gateway.openDevice adapter.index) with
  | .error code => return .error (.vendorCall "open metrics device" code)
  | .ok () =>
    modify fun s => { s with deviceOpen := true, adapter := some adapter }
    log .info "Metrics device opened successfully"
    return .ok ()

/-- Opens the device of the first Intel adapter of the open group. -/
def openIntel (group : AdapterGroupParams) : Action (Session γ) (Except Failure Unit) := do
  log .debug ("Found " ++ Text.decimal group.adapterCount ++ " adapter(s) (API "
    ++ group.version.text ++ ")")
  match (← onGateway listAdapters).find? AdapterInfo.isIntel with
  | none => return .error .noIntelAdapter
  | some adapter =>
    log .debug (foundText adapter)
    openDevice adapter

/-- Opens the adapter group and the device of its first Intel adapter. -/
def openAll : Action (Session γ) (Except Failure Unit) := do
  match ← onGateway Gateway.openAdapters with
  | .error code => return .error (.vendorCall "open adapter group" code)
  | .ok () =>
    modify fun s => { s with groupOpen := true }
    match ← onGateway Gateway.readAdapterGroup with
    | none => return .error (.missingParams "adapter group")
    | some group => openIntel group

/-- Starts a session on a gateway. -/
def start (gateway : γ) : Traced (Except Failure (Session γ)) := do
  let (result, s) ← openAll { gateway }
  match result with
  | .ok () => return .ok s
  | .error f =>
    let _ ← finish s
    return .error f

/-! ## Using -/

/-- Every adapter of the group whose parameters are given. -/
def adapters : Action (Session γ) (List AdapterInfo) := onGateway listAdapters

/-- The name that the open device gives itself. -/
def deviceName : Action (Session γ) (Option String) :=
  onGateway ((·.bind DeviceParams.deviceName) <$> Gateway.readDevice)

/-- Everything that the open device offers. -/
def catalog : Action (Session γ) (Except Failure (List ConcurrentGroupEntry)) :=
  onGateway GpuMonitor.catalog

/-- Selects the first metric set that carries utilization; on failure the selection stays
as it was. -/
def select : Action (Session γ) (Except Failure MetricSetId) := do
  match ← onGateway selectSet with
  | .error f => return .error f
  | .ok selection =>
    modify fun s => { s with selection := some selection }
    return .ok selection.id

/-- The values that the metrics of a set show: each that a busy counter feeds shows its
placeholder. -/
def readingOf (metrics : List MetricParams) : Utilization :=
  (metrics.filterMap fun m => m.symbolName.bind sampleChannel).foldl
    (fun u c => u.setChannel c.placeholder c) {}

/-- Reads a metric set. -/
def readValues (id : MetricSetId) : Action γ (Except Failure Utilization) := do
  match ← Gateway.readMetricSet id with
  | none => return .error (.missingParams "metric set")
  | some params => return .ok (readingOf (← metricsOf id params.metricCount))

/-- The clocks, if they can be read. -/
def readClocks : Action (Session γ) (Option Timestamps) := do
  match ← onGateway Gateway.readClocks with
  | .ok t =>
    log .debug ("GPU timestamp " ++ Text.decimal t.gpuNanos ++ " ns, CPU timestamp "
      ++ Text.decimal t.cpuNanos ++ " ns")
    return some t
  | .error code =>
    log .warn ("GetGpuCpuTimestamps failed: " ++ code.name)
    return none

/-- Deactivates a set after a sample. -/
def deactivate (id : MetricSetId) : Action (Session γ) Unit := do
  let code ← onGateway (Gateway.deactivate id)
  warnUnlessOk "deactivate metric set" code
  if code.isOk then modify fun s => { s with active := false }

/-- What happens while a set is active for a sample: the clocks are read, the window passes
and the metrics are read. Whatever comes of it, the set is deactivated. -/
def measure (id : MetricSetId) : Action (Session γ) (Except Failure Utilization) := do
  let timestamps ← readClocks
  emit (.wait (← get).window)
  let reading ← onGateway (readValues id)
  deactivate id
  return reading.map fun u => Utilization.normalize { u with timestamps }

/-- Takes a sample of the selected set. -/
def sample : Action (Session γ) (Except Failure Utilization) := do
  match (← get).selection with
  | none => return .error .noMetricSetSelected
  | some selection =>
    let code ← onGateway (Gateway.activate selection.id)
    if code.isAccepted then
      modify fun s => { s with active := true }
      measure selection.id
    else return .error (.vendorCall "activate metric set" code)

end Session
end GpuMonitor
