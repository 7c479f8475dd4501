import GpuMonitor.Text.Number

/-!
# Descriptors

What the metrics library tells about its objects. They form a tree: the adapter
group holds adapters; an adapter has a metrics device; a device holds concurrent
groups, a group holds metric sets, and a set holds metrics. A record here is a copy
of the parameters of one object, its names in readable text.
-/

namespace GpuMonitor

/-- The place of a metric set on a device. -/
structure MetricSetId where
  group : Nat
  set : Nat
  deriving DecidableEq, Repr, Inhabited

/-- The version of the interface that a library offers. -/
structure ApiVersion where
  major : Nat
  minor : Nat
  build : Nat
  deriving DecidableEq, Repr, Inhabited

/-- The three numbers with points between them. -/
def ApiVersion.text (v : ApiVersion) : String :=
  Text.decimal v.major ++ "." ++ Text.decimal v.minor ++ "." ++ Text.decimal v.build

/-- The parameters of the adapter group. -/
structure AdapterGroupParams where
  version : ApiVersion
  adapterCount : Nat
  deriving DecidableEq, Repr, Inhabited

/-- The parameters of an adapter. -/
structure AdapterParams where
  shortName : Option String
  vendorId : Nat
  deviceId : Nat
  deriving DecidableEq, Repr, Inhabited

/-- The parameters of a metrics device. -/
structure DeviceParams where
  deviceName : Option String
  concurrentGroupCount : Nat
  deriving DecidableEq, Repr, Inhabited

/-- The parameters of a concurrent group. -/
structure ConcurrentGroupParams where
  symbolName : Option String
  description : Option String
  metricSetCount : Nat
  deriving DecidableEq, Repr, Inhabited

/-- The parameters of a metric set. -/
structure MetricSetParams where
  symbolName : Option String
  shortName : Option String
  metricCount : Nat
  deriving DecidableEq, Repr, Inhabited

/-- The parameters of a metric. -/
structure MetricParams where
  symbolName : Option String
  shortName : Option String
  units : Option String
  deriving DecidableEq, Repr, Inhabited

/-- The clocks of the GPU and of the CPU at one moment. -/
structure Timestamps where
  gpuNanos : Nat
  cpuNanos : Nat
  /-- The processor on which the clocks were read. -/
  cpuId : Nat
  deriving DecidableEq, Repr, Inhabited

/-- What stands for a name that is not given. -/
def nameOrUnknown (name : Option String) : String := name.getD "Unknown"

/-- The vendor number of Intel. -/
def intelVendorId : Nat := 0x8086

/-- An adapter and its place in the adapter group. -/
structure AdapterInfo where
  index : Nat
  shortName : Option String
  vendorId : Nat
  deviceId : Nat
  deriving DecidableEq, Repr, Inhabited

namespace AdapterInfo

/-- The adapter is one of Intel's. -/
def isIntel (a : AdapterInfo) : Bool := a.vendorId == intelVendorId

/-- The name for a reader. -/
def displayName (a : AdapterInfo) : String := nameOrUnknown a.shortName

/-- The adapter at a place, by its parameters. -/
def ofParams (index : Nat) (p : AdapterParams) : AdapterInfo :=
  ⟨index, p.shortName, p.vendorId, p.deviceId⟩

end AdapterInfo
end GpuMonitor
