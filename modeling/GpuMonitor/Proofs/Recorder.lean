import GpuMonitor.Proofs.Coupling
import GpuMonitor.Proofs.Reading

/-!
# Keeping the requests

What an action asks of a gateway need not show in its trace. A recorder stands in front of a
gateway and keeps the requests, so that a statement about them is one about its state.

* `Recorder`: the gateway that keeps the requests made of the one behind it.
* `Mirrors`: nothing else is changed by keeping them (`mirrors_catalog`, `mirrors_selectSet`).
* `Grows`: requests are only added.
* `Session.recorded`: a session with its requests kept.
-/

namespace GpuMonitor

variable {α β γ : Type}

/-- A gateway that keeps the requests made of the one behind it. -/
structure Recorder (γ : Type) where
  inner : γ
  made : List Gateway.Request := []

namespace Recorder

/-- Does what a request asks for, and keeps the request. -/
def making (r : Gateway.Request) (m : Action γ α) : Action (Recorder γ) α := fun g =>
  let x := m g.inner
  { value := (x.value.1, ⟨x.value.2, g.made ++ [r]⟩), trace := x.trace }

instance [Gateway γ] : Gateway (Recorder γ) where
  openAdapters := making .openAdapters Gateway.openAdapters
  readAdapterGroup := making .readAdapterGroup Gateway.readAdapterGroup
  readAdapter i := making (.readAdapter i) (Gateway.readAdapter i)
  openDevice i := making (.openDevice i) (Gateway.openDevice i)
  readDevice := making .readDevice Gateway.readDevice
  readConcurrentGroup g := making (.readConcurrentGroup g) (Gateway.readConcurrentGroup g)
  readMetricSet id := making (.readMetricSet id) (Gateway.readMetricSet id)
  readMetric id i := making (.readMetric id i) (Gateway.readMetric id i)
  activate id := making (.activate id) (Gateway.activate id)
  deactivate id := making (.deactivate id) (Gateway.deactivate id)
  readClocks := making .readClocks Gateway.readClocks
  closeDevice := making .closeDevice Gateway.closeDevice
  closeAdapters := making .closeAdapters Gateway.closeAdapters
  unload := making .unload Gateway.unload

/-! ## The gateway behind -/

/-- With the requests kept, the action answers and does the same to the gateway behind. -/
structure Mirrors (m' : Action (Recorder γ) α) (m : Action γ α) : Prop where
  answer : ∀ g, (m' g).value.1 = (m g.inner).value.1
  inner : ∀ g, (m' g).value.2.inner = (m g.inner).value.2

theorem mirrors_of_coupled {m' : Action (Recorder γ) α} {m : Action γ α}
    (h : Coupled (fun g' g => g'.inner = g) Eq m' m) : Mirrors m' m :=
  ⟨fun g => (h g g.inner rfl).1, fun g => (h g g.inner rfl).2⟩

theorem coupled_making (r : Gateway.Request) (m : Action γ α) :
    Coupled (fun g' g => g'.inner = g) Eq (making r m) m := by
  rintro g _ rfl
  exact ⟨rfl, rfl⟩

section
variable [Gateway γ]

theorem reading_coupled : ReadingCoupled fun (g' : Recorder γ) (g : γ) => g'.inner = g where
  adapterGroup := coupled_making _ _
  adapter _ := coupled_making _ _
  device := coupled_making _ _
  concurrentGroup _ := coupled_making _ _
  metricSet _ := coupled_making _ _
  metric _ _ := coupled_making _ _

theorem mirrors_catalog : Mirrors (γ := γ) catalog catalog :=
  mirrors_of_coupled (coupled_catalog reading_coupled)

theorem mirrors_selectSet : Mirrors (γ := γ) selectSet selectSet :=
  mirrors_of_coupled (coupled_selectSet reading_coupled)

end

/-! ## The requests -/

/-- Requests are only added, at the end. -/
def Grows (g : Recorder γ) (_ : Trace) (g' : Recorder γ) : Prop := g.made <+: g'.made

theorem composes_grows : Composes (Grows (γ := γ)) where
  nil _ := List.prefix_rfl
  append h h' := h.trans h'

theorem grows_making (r : Gateway.Request) (m : Action γ α) : Obeys Grows (making r m) :=
  fun _ => List.prefix_append ..

theorem reading_grows [Gateway γ] : ReadingObeys (Grows (γ := γ)) where
  composes := composes_grows
  logging _ _ _ _ := List.prefix_rfl
  adapterGroup := grows_making _ _
  adapter _ := grows_making _ _
  device := grows_making _ _
  concurrentGroup _ := grows_making _ _
  metricSet _ := grows_making _ _
  metric _ _ := grows_making _ _

end Recorder

namespace Session

/-- The session with every request to its gateway kept from now on. -/
def recorded (s : Session γ) : Session (Recorder γ) where
  gateway := { inner := s.gateway }
  window := s.window
  groupOpen := s.groupOpen
  adapter := s.adapter
  deviceOpen := s.deviceOpen
  selection := s.selection
  active := s.active
  released := s.released

end Session
end GpuMonitor
