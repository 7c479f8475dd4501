import GpuMonitor.Proofs.Unloading
import GpuMonitor.Session

/-!
# What a session does, function by function

For each function of a session over the library, and for each way that it can go, one
equation of its answer, of the session that it leaves and of its whole trace. What the trace
of a session is said to be further on is derived from these.

* `openDevice`, `openIntel`, `openAll`, `start`: how a session comes to be.
* `readClocks`, `deactivate`, `measure`, `sample`: how a sample is taken.
* `releaseSet`, `releaseDevice`, `releaseGroup`, `release`, `finish`: how it is ended.
-/

namespace GpuMonitor.Session

variable {s : Session Library} {adapter : AdapterInfo} {selection : Selection} {lib : Library}
  {code : CompletionCode} {f : Failure}

/-! ## Starting -/

theorem openDevice_error
    (h : (Library.openDevice adapter.index s.gateway).value.1 = .error code) :
    (openDevice adapter s).value = (.error (.vendorCall "open metrics device" code),
        { s with gateway := (Library.openDevice adapter.index s.gateway).value.2 }) ∧
      (openDevice adapter s).trace = (Library.openDevice adapter.index s.gateway).trace := by
  simp [openDevice, onGateway, h]

theorem openDevice_ok (h : (Library.openDevice adapter.index s.gateway).value.1 = .ok ()) :
    (openDevice adapter s).value = (.ok (),
        { s with
          gateway := (Library.openDevice adapter.index s.gateway).value.2
          deviceOpen := true
          adapter := some adapter }) ∧
      (openDevice adapter s).trace = (Library.openDevice adapter.index s.gateway).trace ++
        [.log .info "Metrics device opened successfully"] := by
  simp [openDevice, onGateway, h]

section
variable {γ : Type} [Gateway γ] {s : Session γ}

theorem openIntel_of_none (group : AdapterGroupParams)
    (h : (listAdapters s.gateway).value.1.find? AdapterInfo.isIntel = none) :
    (openIntel group s).value =
        (.error .noIntelAdapter, { s with gateway := (listAdapters s.gateway).value.2 }) ∧
      ∃ text, (openIntel group s).trace =
        [.log .debug text] ++ (listAdapters s.gateway).trace := by
  simp [openIntel, onGateway, h]

theorem openIntel_of_some (group : AdapterGroupParams)
    (h : (listAdapters s.gateway).value.1.find? AdapterInfo.isIntel = some adapter) :
    ∃ listed, listed = { s with gateway := (listAdapters s.gateway).value.2 } ∧
      (openIntel group s).value = (openDevice adapter listed).value ∧
      ∃ text, (openIntel group s).trace = [.log .debug text] ++ ((listAdapters s.gateway).trace ++
        ([.log .debug (foundText adapter)] ++ (openDevice adapter listed).trace)) := by
  refine ⟨_, rfl, ?_⟩
  simp [openIntel, onGateway, h]

end

theorem openAll_error (h : (Library.openAdapters lib).value.1 = .error code) :
    (openAll { gateway := lib }).value = (.error (.vendorCall "open adapter group" code),
        { gateway := (Library.openAdapters lib).value.2 }) ∧
      (openAll { gateway := lib }).trace = (Library.openAdapters lib).trace := by
  simp [openAll, onGateway, h]

theorem openAll_of_unread (h : (Library.openAdapters lib).value.1 = .ok ())
    (hparams : (Gateway.readAdapterGroup (Library.openAdapters lib).value.2).value.1 = none) :
    (openAll { gateway := lib }).value = (.error (.missingParams "adapter group"),
        { gateway := (Gateway.readAdapterGroup (Library.openAdapters lib).value.2).value.2
          groupOpen := true }) ∧
      (openAll { gateway := lib }).trace = (Library.openAdapters lib).trace ++
        (Gateway.readAdapterGroup (Library.openAdapters lib).value.2).trace := by
  simp [openAll, onGateway, h, hparams]

theorem openAll_of_read {group : AdapterGroupParams}
    (h : (Library.openAdapters lib).value.1 = .ok ())
    (hparams : (Gateway.readAdapterGroup (Library.openAdapters lib).value.2).value.1 =
      some group) :
    ∃ opened : Session Library, opened =
        { gateway := (Gateway.readAdapterGroup (Library.openAdapters lib).value.2).value.2
          groupOpen := true } ∧
      (openAll { gateway := lib }).value = (openIntel group opened).value ∧
      (openAll { gateway := lib }).trace = (Library.openAdapters lib).trace ++
        ((Gateway.readAdapterGroup (Library.openAdapters lib).value.2).trace ++
          (openIntel group opened).trace) := by
  refine ⟨_, rfl, ?_⟩
  simp [openAll, onGateway, h, hparams]

section
variable {γ : Type} [Gateway γ] {g : γ}

theorem start_error (h : (openAll { gateway := g }).value.1 = .error f) :
    (start g).value = .error f ∧
      (start g).trace = (openAll { gateway := g }).trace ++
        (finish (openAll { gateway := g }).value.2).trace := by
  simp only [start, Traced.value_bind, Traced.trace_bind, h]
  exact ⟨rfl, by simp⟩

theorem start_ok (h : (openAll { gateway := g }).value.1 = .ok ()) :
    (start g).value = .ok (openAll { gateway := g }).value.2 ∧
      (start g).trace = (openAll { gateway := g }).trace := by
  simp [start, h]

/-- A session that was started is the one that its opening has left. -/
theorem openAll_of_start {s : Session γ} (h : (start g).value = .ok s) :
    (openAll { gateway := g }).value = (.ok (), s) := by
  cases hopen : (openAll { gateway := g }).value.1 with
  | error f =>
    rw [(start_error hopen).1] at h
    cases h
  | ok u =>
    rw [(start_ok hopen).1] at h
    obtain rfl := Except.ok.inj h
    exact Prod.ext hopen rfl

/-- A start fails as its opening does. -/
theorem start_eq_error_iff :
    (start g).value = .error f ↔ (openAll { gateway := g }).value.1 = .error f := by
  refine ⟨fun h => ?_, fun h => (start_error h).1⟩
  cases hopen : (openAll { gateway := g }).value.1 with
  | error f' =>
    rw [(start_error hopen).1] at h
    rw [Except.error.inj h]
  | ok u =>
    rw [(start_ok hopen).1] at h
    cases h

end

/-! ## Sampling -/

theorem readClocks_spec (s : Session Library) :
    (readClocks s).value.2 = { s with gateway := (Library.readClocks s.gateway).value.2 } ∧
      (readClocks s).trace = (Library.readClocks s.gateway).trace ++
        match (Library.readClocks s.gateway).value.1 with
        | .ok t => [.log .debug ("GPU timestamp " ++ Text.decimal t.gpuNanos
            ++ " ns, CPU timestamp " ++ Text.decimal t.cpuNanos ++ " ns")]
        | .error code => [.log .warn ("GetGpuCpuTimestamps failed: " ++ code.name)] := by
  cases h : (Library.readClocks s.gateway).value.1 <;> simp [readClocks, onGateway, h]

/-- Deactivating settles what is owed if it succeeds. -/
theorem deactivate_spec (id : MetricSetId) (s : Session Library) :
    (deactivate id s).value.2 =
        { s with
          gateway := (Library.deactivate id s.gateway).value.2
          active := s.active && !(Library.deactivate id s.gateway).value.1.isOk } ∧
      (deactivate id s).trace = (Library.deactivate id s.gateway).trace ++
        (warnUnlessOk "deactivate metric set"
          (Library.deactivate id s.gateway).value.1 s).trace := by
  cases h : (Library.deactivate id s.gateway).value.1.isOk <;>
    simp [deactivate, onGateway, trace_warnUnlessOk, h]

/-- The values are read from the state that the clocks have left, and the set is deactivated
whatever comes of them. -/
theorem measure_spec (id : MetricSetId) (s : Session Library) :
    ∃ clocked read, clocked = (readClocks s).value.2 ∧
      read = { clocked with gateway := (readValues id clocked.gateway).value.2 } ∧
      (measure id s).value = ((readValues id clocked.gateway).value.1.map fun u =>
        Utilization.normalize { u with timestamps := (readClocks s).value.1 },
        (deactivate id read).value.2) ∧
      (measure id s).trace = (readClocks s).trace ++ ([.wait clocked.window] ++
        ((readValues id clocked.gateway).trace ++ (deactivate id read).trace)) := by
  refine ⟨_, _, rfl, rfl, ?_, ?_⟩
  · simp [measure, onGateway]
  · simp [measure, onGateway]

theorem sample_of_none (h : s.selection = none) :
    sample s = { value := (.error .noMetricSetSelected, s) } := by
  apply Traced.ext' <;> simp [sample, h]

theorem sample_of_refused (h : s.selection = some selection)
    (hcode : (Library.activate selection.id s.gateway).value.1.isAccepted = false) :
    (sample s).value = (.error (.vendorCall "activate metric set"
          (Library.activate selection.id s.gateway).value.1),
        { s with gateway := (Library.activate selection.id s.gateway).value.2 }) ∧
      (sample s).trace = (Library.activate selection.id s.gateway).trace := by
  simp [sample, onGateway, h, hcode]

theorem sample_of_accepted (h : s.selection = some selection)
    (hcode : (Library.activate selection.id s.gateway).value.1.isAccepted = true) :
    ∃ active, active = { s with
        gateway := (Library.activate selection.id s.gateway).value.2
        active := true } ∧
      (sample s).value = (measure selection.id active).value ∧
      (sample s).trace = (Library.activate selection.id s.gateway).trace ++
        (measure selection.id active).trace := by
  refine ⟨_, rfl, ?_, ?_⟩
  · simp [sample, onGateway, h, hcode]
  · simp [sample, onGateway, h, hcode]

/-! ## Releasing -/

theorem releaseSet_of_settled (h : s.active = false) :
    releaseSet s = { value := ((), { s with active := false }) } := by
  have hs : { s with active := false } = s := by rw [← h]
  rw [hs]
  apply Traced.ext' <;> simp [releaseSet, h]

theorem releaseSet_of_active (h : s.active = true) (hsel : s.selection = some selection) :
    (releaseSet s).value.2 =
        { s with
          gateway := (Library.deactivate selection.id s.gateway).value.2
          active := false } ∧
      (releaseSet s).trace = (Library.deactivate selection.id s.gateway).trace ++
        (warnUnlessOk "deactivate metric set"
          (Library.deactivate selection.id s.gateway).value.1 s).trace := by
  constructor
  · simp [releaseSet, onGateway, h, hsel]
  · rw [releaseSet, Action.trace_bind, Action.value_get, if_pos h, hsel]
    simp only [onGateway, Action.trace_bind, Action.trace_get, Action.value_within,
      Action.trace_within, Action.trace_modify, Library.gateway_deactivate, value_warnUnlessOk,
      trace_warnUnlessOk, List.nil_append, List.append_nil]

theorem releaseDevice_of_closed (h : s.deviceOpen = false) :
    releaseDevice s = { value := ((), { s with deviceOpen := false }) } := by
  have hs : { s with deviceOpen := false } = s := by rw [← h]
  rw [hs]
  apply Traced.ext' <;> simp [releaseDevice, h]

theorem releaseDevice_of_open (h : s.deviceOpen = true) :
    (releaseDevice s).value.2 =
        { s with gateway := (Library.closeDevice s.gateway).value.2, deviceOpen := false } ∧
      (releaseDevice s).trace = (Library.closeDevice s.gateway).trace ++
        (warnUnlessOk "close metrics device"
          (Library.closeDevice s.gateway).value.1 s).trace := by
  constructor
  · simp [releaseDevice, onGateway, h]
  · simp only [releaseDevice, onGateway, h, Action.trace_bind, Action.value_get, Action.trace_get,
      Action.value_within, Action.trace_within, Action.trace_modify, Library.gateway_closeDevice,
      value_warnUnlessOk, trace_warnUnlessOk, if_true, List.nil_append, List.append_nil]

theorem releaseGroup_of_closed (h : s.groupOpen = false) :
    releaseGroup s = { value := ((), { s with groupOpen := false }) } := by
  have hs : { s with groupOpen := false } = s := by rw [← h]
  rw [hs]
  apply Traced.ext' <;> simp [releaseGroup, h]

theorem releaseGroup_of_open (h : s.groupOpen = true) :
    (releaseGroup s).value.2 =
        { s with gateway := (Library.closeAdapters s.gateway).value.2, groupOpen := false } ∧
      (releaseGroup s).trace = (Library.closeAdapters s.gateway).trace ++
        (warnUnlessOk "close adapter group"
          (Library.closeAdapters s.gateway).value.1 s).trace := by
  constructor
  · simp [releaseGroup, onGateway, h]
  · simp only [releaseGroup, onGateway, h, Action.trace_bind, Action.value_get, Action.trace_get,
      Action.value_within, Action.trace_within, Action.trace_modify, Library.gateway_closeAdapters,
      value_warnUnlessOk, trace_warnUnlessOk, if_true, List.nil_append, List.append_nil]

/-- Nothing is released twice. -/
theorem release_of_released (h : s.released = true) : release s = { value := ((), s) } := by
  apply Traced.ext' <;> simp [release, h]

/-- A release that is the first one: the set, the device, the group and the library, each from
the session that the one before it has left. -/
theorem release_spec {s₁ s₂ s₃ : Session Library} (h : s.released = false)
    (h₁ : (releaseSet { s with released := true }).value.2 = s₁)
    (h₂ : (releaseDevice s₁).value.2 = s₂) (h₃ : (releaseGroup s₂).value.2 = s₃) :
    (release s).value.2 = { s₃ with gateway := (Library.unload s₃.gateway).value.2 } ∧
      (release s).trace = [.log .info "Cleaning up resources..."] ++
        ((releaseSet { s with released := true }).trace ++ ((releaseDevice s₁).trace ++
          ((releaseGroup s₂).trace ++ (Library.unload s₃.gateway).trace))) := by
  simp [release, onGateway, h, h₁, h₂, h₃]

/-- The end of a session whose library is gone is its release. -/
theorem finish_of_gone (h : (release s).value.2.gateway.Gone) :
    (finish s).value.2 = (release s).value.2 ∧ (finish s).trace = (release s).trace := by
  have hunload : Gateway.unload (release s).value.2.gateway =
      { value := ((), (release s).value.2.gateway) } := Library.unload_of_gone h
  simp [finish, onGateway, hunload]

end GpuMonitor.Session
