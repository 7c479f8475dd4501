import GpuMonitor.Failure
import GpuMonitor.Gateway
import GpuMonitor.Vendor.Service

/-!
# A loaded metrics library

A `Library` is a metrics library in memory together with what has been opened
through it. At most one device is open at a time; closing forgets what was open
whatever the code says, and once the library is unloaded it is never reached again.

* `Library.load`: the library of the first path that a loader can load.
* `Library.openAdapters` … `Library.unload`: the operations, gathered in the instance
  of `Gateway`.
-/

namespace GpuMonitor

/-- What comes of loading the library of a path. -/
inductive Loading where
  /-- The library is loaded and has its entry point. -/
  | opens (script : Vendor.Script)
  /-- The library is loaded; its entry point cannot be found. -/
  | lacksEntry (reason : String)
  /-- The library cannot be loaded. -/
  | fails (reason : String)

/-- What loading comes to, path by path. -/
abbrev Loader := Path → Loading

/-- An open metrics device. -/
structure OpenDevice where
  /-- The number of the tree that it is from. -/
  tree : Nat
  /-- The adapter that it belongs to. -/
  adapter : Nat
  deriving DecidableEq, Repr

/-- A metrics library and what has been opened through it. The open adapter group is that of
the latest tree; the open device may be from an earlier one. -/
structure Library where
  path : Path
  vendor : Vendor.State
  loaded : Bool := true
  groupOpen : Bool := false
  device : Option OpenDevice := none
  deriving DecidableEq, Repr

namespace Library

open Vendor

/-! ## Loading -/

/-- Tries paths one after the other after others have failed. -/
def loadAfter (loader : Loader) (tried : List Path) : List Path → Traced (Except Failure Library)
  | [] => pure (.error (.libraryNotFound tried))
  | path :: rest =>
    match loader path with
    | .fails reason => do
      Traced.log .debug ("Could not load " ++ path.text ++ ": " ++ reason)
      loadAfter loader (tried ++ [path]) rest
    | .lacksEntry reason => do
      Traced.log .debug ("Loaded library from: " ++ path.text)
      return .error (.entryPointMissing reason)
    | .opens script => do
      Traced.log .debug ("Loaded library from: " ++ path.text)
      return .ok { path, vendor := .fresh script }

/-- Loads the library of the first candidate that can be loaded. -/
def load (loader : Loader) (candidates : List Path) : Traced (Except Failure Library) :=
  loadAfter loader [] candidates

/-! ## Reaching the metrics library -/

/-- Acts on the metrics library itself. -/
def onVendor (m : Action State α) : Action Library α :=
  within vendor (fun lib v => { lib with vendor := v }) m

/-- Acts on the adapter group, if it is open. -/
def onGroup (m : Action AdapterGroup (Option α)) : Action Library (Option α) := do
  if (← get).groupOpen then onVendor (State.onLatest m) else return none

/-- Acts on the adapter of an open device. -/
def onAdapter (d : OpenDevice) (m : Action Adapter α) : Action Library (Option α) :=
  onVendor (State.onTree d.tree (AdapterGroup.holdAdapter d.adapter m))

/-- Acts on the open device, if there is one; the action is told its adapter. -/
def onDevice (m : Nat → Action Device (Option α)) : Action Library (Option α) := do
  match (← get).device with
  | none => return none
  | some d => Option.join <$> onAdapter d (Adapter.onDevice (m d.adapter))

/-- A call that hands out an object: its code when that is not `ok`, and a failure
without a cause of its own when nothing was handed out. -/
def handedOut : CompletionCode × Bool → Except CompletionCode Unit
  | (.ok, true) => .ok ()
  | (.ok, false) => .error .errorGeneral
  | (code, _) => .error code

/-! ## Operations -/

/-- Opens the adapter group; nothing is done when it is open. -/
def openAdapters : Action Library (Except CompletionCode Unit) := do
  let lib ← get
  if ¬lib.loaded then return .error .errorGeneral
  else if lib.groupOpen then return .ok ()
  else
    match handedOut (← onVendor State.openAdapters) with
    | .error code => return .error code
    | .ok () =>
      modify fun lib => { lib with groupOpen := true }
      return .ok ()

/-- The parameters of the adapter group. -/
def readAdapterGroup : Action Library (Option AdapterGroupParams) :=
  onGroup AdapterGroup.read

/-- The parameters of an adapter. -/
def readAdapter (index : Nat) : Action Library (Option AdapterParams) :=
  onGroup (Option.join <$> AdapterGroup.seekAdapter index (Adapter.read (.adapter index)))

/-- Opens the metrics device of an adapter; a device that was open before is forgotten. -/
def openDevice (adapter : Nat) : Action Library (Except CompletionCode Unit) := do
  match ← onGroup (AdapterGroup.seekAdapter adapter (Adapter.openDevice adapter)) with
  | none => return .error .errorInvalidParameter
  | some r =>
    match handedOut r with
    | .error code => return .error code
    | .ok () =>
      modify fun lib => { lib with device := some ⟨lib.vendor.newest, adapter⟩ }
      return .ok ()

/-- The parameters of the open device. -/
def readDevice : Action Library (Option DeviceParams) :=
  onDevice fun a => Device.read (.device a)

/-- The parameters of a concurrent group of the open device. -/
def readConcurrentGroup (group : Nat) : Action Library (Option ConcurrentGroupParams) :=
  onDevice fun a =>
    Option.join <$> Device.seekGroup a group (ConcurrentGroup.read (.concurrentGroup a group))

/-- Acts on a metric set of the open device. -/
def onSet (id : MetricSetId) (m : Nat → Action MetricSet (Option α)) :
    Action Library (Option α) :=
  onDevice fun a => Option.join <$> Device.seekSet a id (m a)

/-- The parameters of a metric set. -/
def readMetricSet (id : MetricSetId) : Action Library (Option MetricSetParams) :=
  onSet id fun a => MetricSet.read (.metricSet a id)

/-- The parameters of a metric. -/
def readMetric (id : MetricSetId) (index : Nat) : Action Library (Option MetricParams) :=
  onSet id fun a =>
    Option.join <$> MetricSet.seekMetric a id index (Metric.read (.metric a id index))

/-- Activates a metric set. -/
def activate (id : MetricSetId) : Action Library CompletionCode :=
  (·.getD .errorInvalidParameter) <$> onSet id fun a => some <$> MetricSet.activate a id

/-- Deactivates a metric set. -/
def deactivate (id : MetricSetId) : Action Library CompletionCode :=
  (·.getD .errorInvalidParameter) <$> onSet id fun a => some <$> MetricSet.deactivate a id

/-- Reads the clocks of the open device. -/
def readClocks : Action Library (Except CompletionCode Timestamps) :=
  (·.getD (.error .errorGeneral)) <$> onDevice fun a => some <$> Device.readClocks a

/-- Closes the open device and forgets it; nothing is done when none is open. -/
def closeDevice : Action Library CompletionCode := do
  match (← get).device with
  | none => return .ok
  | some d =>
    let code ← onAdapter d (Adapter.closeDevice d.adapter)
    -- Whatever the code, the device is not closed twice.
    modify fun lib => { lib with device := none }
    return code.getD .ok

/-- Closes the adapter group; nothing is done when it is not open. -/
def closeAdapters : Action Library CompletionCode := do
  if (← get).groupOpen then
    let code ← onVendor (State.onLatest AdapterGroup.close)
    modify fun lib => { lib with groupOpen := false }
    return code
  else return .ok

/-- The warning that is left behind by a library that cannot be unloaded. -/
def unloadWarning? (lib : Library) : Option String :=
  lib.vendor.script.unloadFailure.map fun reason =>
    "Failed to unload " ++ lib.path.text ++ ": " ++ reason

/-- Lets the library itself go, once. -/
def letGo : Action Library Unit := do
  let lib ← get
  if lib.loaded then
    emit (.vendor .unload)
    -- Even if it stays in memory, the library is not reached again.
    modify fun lib => { lib with loaded := false }
    match lib.unloadWarning? with
    | none => pure ()
    | some warning => log .warn warning

/-- Closes what is open, the device first, and lets the library go. -/
def unload : Action Library Unit := do
  warnUnlessOk "close metrics device" (← closeDevice)
  warnUnlessOk "close adapter group" (← closeAdapters)
  letGo

instance : Gateway Library where
  openAdapters := openAdapters
  readAdapterGroup := readAdapterGroup
  readAdapter := readAdapter
  openDevice := openDevice
  readDevice := readDevice
  readConcurrentGroup := readConcurrentGroup
  readMetricSet := readMetricSet
  readMetric := readMetric
  activate := activate
  deactivate := deactivate
  readClocks := readClocks
  closeDevice := closeDevice
  closeAdapters := closeAdapters
  unload := unload

end Library
end GpuMonitor
