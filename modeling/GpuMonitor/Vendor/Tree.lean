import GpuMonitor.Text.Utf8

/-!
# The tree that a metrics library serves

A metrics library is described by what it will serve: a tree of objects, each with
its parameters, the completion codes that its calls will give, and how often it will
still give its parameters. Serving a call takes the first of what is left, so a tree
also is the state of a library that has been used.

* `Availability.take`, `Codes.take`: the next answer, and what is left.
* `AdapterGroup`, `Adapter`, `Device`, `ConcurrentGroup`, `MetricSet`, `Metric`: the
  objects. A child that is `none` is one that cannot be had. The number of children
  that an object reports is its own matter.
* `Script`: the tree, how the entry point answers, and what the unloading comes to.
-/

namespace GpuMonitor.Vendor

/-- How often an object still gives its parameters. -/
inductive Availability where
  | always
  | reads (left : Nat)
  deriving DecidableEq, Repr

namespace Availability

/-- Whether the parameters are given now, and what is left then. -/
def take : Availability → Bool × Availability
  | always => (true, always)
  | reads 0 => (false, reads 0)
  | reads (n + 1) => (true, reads n)

/-- Reading does not change what a later reading finds. -/
def Stable (a : Availability) : Prop := a.take.2 = a

theorem stable_iff {a : Availability} : a.Stable ↔ a = always ∨ a = reads 0 := by
  cases a with
  | always => simp [Stable, take]
  | reads n => cases n <;> simp [Stable, take]

end Availability

/-- The codes that the calls of one kind give, one for each call; the last one is given
again and again, and without any the calls succeed. -/
abbrev Codes := List Int

/-- The code of the next call, and those that are left. -/
def Codes.take : Codes → Int × Codes
  | [] => (0, [])
  | [code] => (code, [code])
  | code :: next :: rest => (code, next :: rest)

/-- A name as the metrics library holds it; `none` when it holds none. -/
abbrev RawName := Option Bytes

/-- A name as it is copied out: up to its first zero byte, as readable text. -/
def RawName.copy (name : RawName) : Option String := name.map fun bytes => bytes.cString.text

/-- A metric. -/
structure Metric where
  symbolName : RawName := none
  shortName : RawName := none
  units : RawName := none
  availability : Availability := .always
  deriving DecidableEq, Repr

/-- A metric set; it can be activated and deactivated. -/
structure MetricSet where
  symbolName : RawName := none
  shortName : RawName := none
  metricCount : Nat := 0
  metrics : List (Option Metric) := []
  activation : Codes := []
  deactivation : Codes := []
  availability : Availability := .always
  deriving DecidableEq, Repr

/-- A concurrent group. -/
structure ConcurrentGroup where
  symbolName : RawName := none
  description : RawName := none
  setCount : Nat := 0
  sets : List (Option MetricSet) := []
  availability : Availability := .always
  deriving DecidableEq, Repr

/-- A metrics device; it has two clocks. -/
structure Device where
  name : RawName := none
  groupCount : Nat := 0
  groups : List (Option ConcurrentGroup) := []
  clockCodes : Codes := []
  gpuNanos : Nat := 0
  cpuNanos : Nat := 0
  cpuId : Nat := 0
  availability : Availability := .always
  deriving DecidableEq, Repr

/-- An adapter; it opens and closes its metrics device. -/
structure Adapter where
  shortName : RawName := none
  vendorId : Nat
  deviceId : Nat
  opening : Codes := []
  /-- Whether opening hands out the device at all. -/
  givesDevice : Bool := true
  closing : Codes := []
  device : Device := {}
  availability : Availability := .always
  deriving DecidableEq, Repr

/-- The adapter group. -/
structure AdapterGroup where
  major : Nat := 0
  minor : Nat := 0
  build : Nat := 0
  adapterCount : Nat := 0
  adapters : List (Option Adapter) := []
  closing : Codes := []
  availability : Availability := .always
  deriving DecidableEq, Repr

/-- What a metrics library serves, how its entry point answers, and what its unloading comes to. -/
structure Script where
  group : AdapterGroup := {}
  /-- The code that the entry point gives. -/
  code : Int := 0
  /-- Whether the entry point hands out the group at all. -/
  givesGroup : Bool := true
  /-- Why the library cannot be unloaded, if it cannot. -/
  unloadFailure : Option String := none
  deriving DecidableEq, Repr

end GpuMonitor.Vendor
