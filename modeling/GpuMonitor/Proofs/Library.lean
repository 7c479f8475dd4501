import GpuMonitor.Library
import GpuMonitor.Proofs.Service

/-!
# What the operations of a library do

For each operation of a loaded library: what it leaves in the trace, and what it changes.

* `Using p`: an operation changes nothing that lasts, and each of its events meets `p`.
  Reading obeys it with `Event.isLook`; activating, deactivating and reading the clocks
  with `Event.isService`.
* `Opened`: the device of an adapter is open, and what is left of it. Under it every
  operation on the device reaches the metrics library (`trace_activate`, `trace_deactivate`,
  `trace_readClocks`, `closeDevice_of_opened`).
* `openAdapters_of_closed`, `openDevice_of_present`: opening is one call, and it succeeds
  if and only if an object is handed out.
* `Handling R`: what is asked of the vendor to open and to close something obeys `R`. Then so do
  the operations that do so (`obeys_openAdapters`, `obeys_openDevice`, `obeys_closeDevice`,
  `obeys_closeAdapters`, `obeys_unload`), and every request if using services obeys `R` too
  (`obeys_perform`).
-/

namespace GpuMonitor

open Vendor

variable {α : Type}

theorem Trace.calls_append (t u : Trace) : Trace.calls (t ++ u) = t.calls ++ u.calls :=
  List.filterMap_append ..

/-- A warning is no call, whatever it is about. -/
@[simp] theorem calls_warnUnlessOk {σ : Type} (what : String) (code : CompletionCode) (s : σ) :
    (warnUnlessOk what code s).trace.calls = [] := by
  unfold warnUnlessOk
  split <;> rfl

@[simp] theorem lifecycle_warnUnlessOk {σ : Type} (what : String) (code : CompletionCode)
    (s : σ) : (warnUnlessOk what code s).trace.lifecycle = [] := by
  unfold warnUnlessOk
  split <;> rfl

theorem trace_warnUnlessOk {σ : Type} (what : String) (code : CompletionCode) (s : σ) :
    (warnUnlessOk what code s).trace =
      if code.isOk then [] else [.log .warn ("Failed to " ++ what ++ ": " ++ code.name)] := by
  unfold warnUnlessOk
  split <;> rfl

/-- Warning obeys what logging obeys. -/
theorem obeys_warnUnlessOk {σ : Type} {R : σ → Trace → σ → Prop} (hc : Composes R)
    (hlog : ∀ s level text, R s [.log level text] s) (what : String) (code : CompletionCode) :
    Obeys R (warnUnlessOk what code) := by
  unfold warnUnlessOk
  split
  · exact obeys_pure hc _
  · exact fun s => hlog s _ _

@[simp] theorem value_warnUnlessOk {σ : Type} (what : String) (code : CompletionCode) (s : σ) :
    (warnUnlessOk what code s).value = ((), s) := by
  unfold warnUnlessOk
  split <;> rfl

namespace Library

/-! ## The gateway of a library -/

section
variable (lib : Library)

@[simp] theorem gateway_openAdapters : Gateway.openAdapters lib = openAdapters lib := rfl

@[simp] theorem gateway_openDevice (i : Nat) : Gateway.openDevice i lib = openDevice i lib := rfl

@[simp] theorem gateway_activate (id : MetricSetId) : Gateway.activate id lib = activate id lib :=
  rfl

@[simp] theorem gateway_deactivate (id : MetricSetId) :
    Gateway.deactivate id lib = deactivate id lib := rfl

@[simp] theorem gateway_readClocks : Gateway.readClocks lib = readClocks lib := rfl

@[simp] theorem gateway_closeDevice : Gateway.closeDevice lib = closeDevice lib := rfl

@[simp] theorem gateway_closeAdapters : Gateway.closeAdapters lib = closeAdapters lib := rfl

@[simp] theorem gateway_unload : Gateway.unload lib = unload lib := rfl

end

/-! ## What using a library leaves alone -/

/-- A library without what is used up. -/
def lasting (lib : Library) : Library := { lib with vendor := lib.vendor.lasting }

/-- What is open lasts, and so does whether the library is loaded. -/
theorem open_of_lasting {lib lib' : Library} (h : lib'.lasting = lib.lasting) :
    lib'.loaded = lib.loaded ∧ lib'.groupOpen = lib.groupOpen ∧ lib'.device = lib.device := by
  have hloaded : lib'.lasting.loaded = lib.lasting.loaded := by rw [h]
  have hgroup : lib'.lasting.groupOpen = lib.lasting.groupOpen := by rw [h]
  have hdevice : lib'.lasting.device = lib.lasting.device := by rw [h]
  exact ⟨hloaded, hgroup, hdevice⟩

/-- Nothing that lasts is changed, and every event meets `p`. -/
def Using (p : Event → Prop) (lib : Library) (t : Trace) (lib' : Library) : Prop :=
  lib'.lasting = lib.lasting ∧ ∀ e ∈ t, p e

section
variable {p : Event → Prop}

theorem composes_using : Composes (Using p) where
  nil _ := ⟨rfl, by simp⟩
  append h h' := ⟨h'.1.trans h.1, fun e he => (List.mem_append.1 he).elim (h.2 e) (h'.2 e)⟩

theorem Using.mono {q : Event → Prop} {lib lib' : Library} {t : Trace} (h : Using p lib t lib')
    (hpq : ∀ e, p e → q e) : Using q lib t lib' := ⟨h.1, fun e he => hpq e (h.2 e he)⟩

theorem using_onVendor {m : Action State α} (hk : Keeps State.lasting m) (he : Emits p m) :
    Obeys (Using p) (onVendor m) := by
  intro lib
  refine ⟨?_, he _⟩
  have h : (m lib.vendor).value.2.lasting = lib.vendor.lasting := hk _
  simp [onVendor, lasting, h]

theorem using_onGroup {m : Action AdapterGroup (Option α)} (hk : Keeps AdapterGroup.lasting m)
    (he : Emits p m) : Obeys (Using p) (onGroup m) := by
  refine obeys_bind composes_using (obeys_get composes_using) fun lib => ?_
  split
  · exact using_onVendor (State.keeps_onLatest hk) (emits_within he)
  · exact obeys_pure composes_using _

theorem using_onAdapter {d : OpenDevice} {m : Action Adapter α} (hk : Keeps Adapter.lasting m)
    (he : Emits p m) : Obeys (Using p) (onAdapter d m) :=
  using_onVendor (State.keeps_onTree (AdapterGroup.keeps_holdAdapter hk))
    (emits_within (emits_hold he))

theorem using_onDevice {m : Nat → Action Device (Option α)}
    (hk : ∀ a, Keeps Device.lasting (m a)) (he : ∀ a, Emits p (m a)) :
    Obeys (Using p) (onDevice m) := by
  refine obeys_bind composes_using (obeys_get composes_using) fun lib => ?_
  split
  · exact obeys_pure composes_using _
  · next d _ =>
    exact obeys_map _ (using_onAdapter (Adapter.keeps_onDevice (hk _)) (emits_within (he _)))

theorem using_onSet {id : MetricSetId} {m : Nat → Action MetricSet (Option α)}
    (hk : ∀ a, Keeps MetricSet.lasting (m a)) (he : ∀ a, Emits p (m a))
    (hp : ∀ object found, p (.vendor (.find object found))) : Obeys (Using p) (onSet id m) :=
  using_onDevice (fun _ => obeys_map _ (Device.keeps_seekSet (hk _)))
    fun _ => obeys_map _ (Device.emits_seekSet (he _) hp)

end

/-! ### Reading -/

theorem using_readAdapterGroup : Obeys (Using (·.isLook)) readAdapterGroup :=
  using_onGroup AdapterGroup.keeps_read (emits_ask fun _ => rfl)

theorem using_readAdapter (i : Nat) : Obeys (Using (·.isLook)) (readAdapter i) :=
  using_onGroup (obeys_map _ (AdapterGroup.keeps_seekAdapter (Adapter.keeps_read _)))
    (obeys_map _ (emits_seek (emits_ask fun _ => rfl) fun _ => rfl))

theorem using_readDevice : Obeys (Using (·.isLook)) readDevice :=
  using_onDevice (fun _ => Device.keeps_read _) fun _ => emits_ask fun _ => rfl

theorem using_readConcurrentGroup (g : Nat) :
    Obeys (Using (·.isLook)) (readConcurrentGroup g) :=
  using_onDevice (fun _ => obeys_map _ (Device.keeps_seekGroup (ConcurrentGroup.keeps_read _)))
    fun _ => obeys_map _ (emits_seek (emits_ask fun _ => rfl) fun _ => rfl)

theorem using_readMetricSet (id : MetricSetId) : Obeys (Using (·.isLook)) (readMetricSet id) :=
  using_onSet (fun _ => MetricSet.keeps_read _) (fun _ => emits_ask fun _ => rfl) fun _ _ => rfl

theorem using_readMetric (id : MetricSetId) (i : Nat) :
    Obeys (Using (·.isLook)) (readMetric id i) :=
  using_onSet (fun _ => obeys_map _ (MetricSet.keeps_seekMetric (Metric.keeps_read _)))
    (fun _ => obeys_map _ (emits_seek (emits_ask fun _ => rfl) fun _ => rfl)) fun _ _ => rfl

/-! ### Activating, deactivating, reading the clocks -/

theorem using_activate (id : MetricSetId) : Obeys (Using (·.isService)) (activate id) :=
  obeys_map _ (using_onSet (fun _ => obeys_map _ (MetricSet.keeps_activate _ _))
    (fun _ => obeys_map _ (emits_respond fun _ _ => rfl)) fun _ _ => rfl)

theorem using_deactivate (id : MetricSetId) : Obeys (Using (·.isService)) (deactivate id) :=
  obeys_map _ (using_onSet (fun _ => obeys_map _ (MetricSet.keeps_deactivate _ _))
    (fun _ => obeys_map _ (emits_respond fun _ _ => rfl)) fun _ _ => rfl)

theorem using_readClocks : Obeys (Using (·.isService)) readClocks :=
  obeys_map _ (using_onDevice (fun _ => obeys_map _ (Device.keeps_readClocks _))
    fun _ => obeys_map _ (Device.emits_readClocks _ fun _ => rfl))

/-! ## The open device -/

/-- The device of an adapter is open, and this is what is left of it. -/
def Opened (lib : Library) (a : Nat) (dev : Device) : Prop :=
  ∃ n ad, lib.device = some ⟨n, a⟩ ∧
    (lib.vendor.tree n).adapters[a]?.join = some ad ∧ ad.device = dev

/-- A device stays open as long as nothing that lasts is changed. -/
theorem Opened.of_lasting {lib lib' : Library} {a : Nat} {dev : Device} (h : lib.Opened a dev)
    (hl : lib'.lasting = lib.lasting) :
    ∃ dev', lib'.Opened a dev' ∧ dev'.lasting = dev.lasting := by
  -- the adapter is looked up in the tree that the device was opened in, at its old place
  obtain ⟨n, ad, hdev, had, rfl⟩ := h
  obtain ⟨-, -, hdev'⟩ := open_of_lasting hl
  have htree : (lib'.vendor.tree n).lasting = (lib.vendor.tree n).lasting := by
    rw [← State.tree_lasting, ← State.tree_lasting]
    exact congrArg (fun lib => lib.vendor.tree n) hl
  have hads : (lib'.vendor.tree n).adapters.map (Option.map Adapter.lasting) =
      (lib.vendor.tree n).adapters.map (Option.map Adapter.lasting) :=
    congrArg AdapterGroup.adapters htree
  have had' : (lib'.vendor.tree n).adapters[a]?.join.map Adapter.lasting =
      some ad.lasting := by
    rw [← child_map, hads, child_map, had]
    rfl
  obtain ⟨ad', hjoin, hlast⟩ := Option.map_eq_some_iff.1 had'
  exact ⟨ad'.device, ⟨n, ad', hdev'.trans hdev, hjoin, rfl⟩, congrArg Adapter.device hlast⟩

/-- A metric set is as present as it was when the device had the same lasting part. -/
theorem metricSet?_isSome_of_lasting {dev dev' : Device} (h : dev'.lasting = dev.lasting)
    (id : MetricSetId) : (dev'.metricSet? id).isSome = (dev.metricSet? id).isSome := by
  have hmap : (dev'.metricSet? id).map MetricSet.lasting =
      (dev.metricSet? id).map MetricSet.lasting := by
    rw [← Device.metricSet?_lasting, ← Device.metricSet?_lasting, h]
  simpa using congrArg Option.isSome hmap

section
variable {lib : Library} {a : Nat} {dev : Device} (h : lib.Opened a dev)
include h

theorem value_onDevice (m : Nat → Action Device (Option α)) :
    (onDevice m lib).value.1 = (m a dev).value.1 := by
  obtain ⟨n, ad, hdev, had, rfl⟩ := h
  simp [onDevice, onAdapter, onVendor, State.onTree, AdapterGroup.holdAdapter, Adapter.onDevice,
    value_hold, hdev, had]

theorem trace_onDevice (m : Nat → Action Device (Option α)) :
    (onDevice m lib).trace = (m a dev).trace := by
  obtain ⟨n, ad, hdev, had, rfl⟩ := h
  simp [onDevice, onAdapter, onVendor, State.onTree, AdapterGroup.holdAdapter, Adapter.onDevice,
    trace_hold, hdev, had]

theorem value_onSet {id : MetricSetId} {set : MetricSet} (hs : dev.metricSet? id = some set)
    (m : Nat → Action MetricSet (Option α)) : (onSet id m lib).value.1 = (m a set).value.1 := by
  simp [onSet, value_onDevice h, Device.value_seekSet, hs]

theorem trace_onSet {id : MetricSetId} {set : MetricSet} (hs : dev.metricSet? id = some set)
    (m : Nat → Action MetricSet (Option α)) :
    (onSet id m lib).trace = Device.reaching a id ++ (m a set).trace := by
  simp [onSet, trace_onDevice h, Device.trace_seekSet hs]

theorem trace_activate {id : MetricSetId} (hs : (dev.metricSet? id).isSome) :
    (activate id lib).trace = Device.reaching a id ++
      [.vendor (.activate a id (activate id lib).value.1)] := by
  obtain ⟨set, hs⟩ := Option.isSome_iff_exists.1 hs
  simp only [activate, Action.trace_map, Action.value_map, trace_onSet h hs, value_onSet h hs]
  rfl

theorem trace_deactivate {id : MetricSetId} (hs : (dev.metricSet? id).isSome) :
    (deactivate id lib).trace = Device.reaching a id ++
      [.vendor (.deactivate a id (deactivate id lib).value.1)] := by
  obtain ⟨set, hs⟩ := Option.isSome_iff_exists.1 hs
  simp only [deactivate, Action.trace_map, Action.value_map, trace_onSet h hs, value_onSet h hs]
  rfl

theorem activate_of_present {id : MetricSetId} (hs : (dev.metricSet? id).isSome) :
    (activate id lib).trace.lifecycle =
      [.vendor (.activate a id (activate id lib).value.1)] := by
  rw [trace_activate h hs]
  rfl

theorem deactivate_of_present {id : MetricSetId} (hs : (dev.metricSet? id).isSome) :
    (deactivate id lib).trace.lifecycle =
      [.vendor (.deactivate a id (deactivate id lib).value.1)] := by
  rw [trace_deactivate h hs]
  rfl

theorem trace_readClocks :
    ∃ code, (readClocks lib).trace = [.vendor (.readClocks a code)] ∧
      (readClocks lib).value.1 = code.toExcept.map fun _ => dev.clocks := by
  obtain ⟨code, ht, hv⟩ := Device.readClocks_spec a dev
  refine ⟨code, ?_, ?_⟩
  · simp only [readClocks, Action.trace_map, trace_onDevice h, ht]
  · simp only [readClocks, Action.value_map, value_onDevice h, hv]
    rfl

theorem readClocks_of_opened :
    ∃ code, (readClocks lib).trace.lifecycle = [.vendor (.readClocks a code)] ∧
      (readClocks lib).value.1 = code.toExcept.map fun _ => dev.clocks := by
  obtain ⟨code, ht, hv⟩ := trace_readClocks h
  exact ⟨code, by rw [ht]; rfl, hv⟩

theorem closeDevice_of_opened :
    (closeDevice lib).trace.lifecycle =
      [.vendor (.closeDevice a (closeDevice lib).value.1)] := by
  obtain ⟨n, ad, hdev, had, rfl⟩ := h
  simp [closeDevice, onAdapter, onVendor, State.onTree, AdapterGroup.holdAdapter,
    Adapter.closeDevice, value_hold, trace_hold, hdev, had, trace_respond]
  rfl

end

/-! ## Opening and closing -/

theorem handedOut_eq_ok_iff {code : CompletionCode} {given : Bool} :
    handedOut (code, given) = .ok () ↔ code = .ok ∧ given = true := by
  cases code <;> cases given <;> simp [handedOut]

/-- Opening the adapter group is one call, and the group is open afterwards if and only if it
was handed out. -/
theorem openAdapters_of_closed {lib : Library} (hl : lib.loaded = true)
    (hg : lib.groupOpen = false) :
    ∃ code given, (openAdapters lib).trace = [.vendor (.openAdapters code given)] ∧
      (openAdapters lib).value.1 = handedOut (code, given) ∧
      (openAdapters lib).value.2.loaded = true ∧
      (openAdapters lib).value.2.device = lib.device ∧
      ((openAdapters lib).value.2.groupOpen = true ↔ handedOut (code, given) = .ok ()) := by
  refine ⟨.ofRaw lib.vendor.script.code, lib.vendor.script.givesGroup, ?_⟩
  cases h : handedOut (.ofRaw lib.vendor.script.code, lib.vendor.script.givesGroup) <;>
    simp [openAdapters, onVendor, State.openAdapters, hl, hg, h]

/-- The device of an adapter that is not there cannot be opened, and nothing is tried. -/
theorem openDevice_of_missing {lib : Library} {i : Nat} (hg : lib.groupOpen = true)
    (had : lib.vendor.latest.adapters[i]?.join = none) :
    (openDevice i lib).trace.lifecycle = [] ∧
      (openDevice i lib).value.1 = .error .errorInvalidParameter ∧
      (openDevice i lib).value.2.loaded = lib.loaded ∧
      (openDevice i lib).value.2.groupOpen = true ∧
      (openDevice i lib).value.2.device = lib.device := by
  simp [openDevice, onGroup, onVendor, State.onLatest, AdapterGroup.seekAdapter, value_hold,
    trace_hold, hg, had]

/-- Opening the device of an adapter is one call, and the device is open afterwards if it was
handed out. -/
theorem openDevice_of_present {lib : Library} {i : Nat} {ad : Adapter}
    (hg : lib.groupOpen = true) (had : lib.vendor.latest.adapters[i]?.join = some ad) :
    ∃ code given, (openDevice i lib).trace.lifecycle = [.vendor (.openDevice i code given)] ∧
      (openDevice i lib).value.1 = handedOut (code, given) ∧
      (openDevice i lib).value.2.loaded = lib.loaded ∧
      (openDevice i lib).value.2.groupOpen = true ∧
      (handedOut (code, given) = .ok () → ∃ dev, (openDevice i lib).value.2.Opened i dev) ∧
      (handedOut (code, given) ≠ .ok () →
        (openDevice i lib).value.2.device = lib.device) := by
  obtain ⟨hlt, hget⟩ : ∃ hlt : i < lib.vendor.latest.adapters.length,
      lib.vendor.latest.adapters[i] = some ad := by
    simpa [Option.join_eq_some_iff, List.getElem?_eq_some_iff] using had
  refine ⟨.ofRaw (Codes.take ad.opening).1, ad.givesDevice, ?_⟩
  cases h : handedOut (.ofRaw (Codes.take ad.opening).1, ad.givesDevice) with
  | error code =>
    simp [openDevice, onGroup, onVendor, State.onLatest, AdapterGroup.seekAdapter, hold,
      Adapter.openDevice, respond, hg, hlt, hget, h]
    rfl
  | ok _ =>
    simp [openDevice, onGroup, onVendor, State.onLatest, AdapterGroup.seekAdapter, hold,
      Adapter.openDevice, respond, Opened, hg, hlt, hget, h]
    rfl

/-- Whatever comes of closing it, no device is open afterwards. -/
theorem closeDevice_closes (lib : Library) :
    (closeDevice lib).value.2.device = none ∧
      (closeDevice lib).value.2.loaded = lib.loaded ∧
      (closeDevice lib).value.2.groupOpen = lib.groupOpen := by
  cases h : lib.device <;> simp [closeDevice, onAdapter, onVendor, h]

/-- Whatever comes of closing it, the adapter group is not open afterwards. -/
theorem closeAdapters_closes (lib : Library) :
    (closeAdapters lib).value.2.groupOpen = false ∧
      (closeAdapters lib).value.2.loaded = lib.loaded ∧
      (closeAdapters lib).value.2.device = lib.device := by
  cases h : lib.groupOpen <;> simp [closeAdapters, onVendor, h]

theorem closeAdapters_of_open {lib : Library} (hg : lib.groupOpen = true) :
    (closeAdapters lib).trace = [.vendor (.closeAdapters (closeAdapters lib).value.1)] := by
  simp [closeAdapters, onVendor, State.onLatest, AdapterGroup.close, trace_respond, hg]

/-- What unloading a library leaves in the trace: the call, and a warning if it has failed. -/
def unloading (lib : Library) : Trace :=
  .vendor .unload :: lib.unloadWarning?.toList.map (.log .warn)

theorem calls_unloading (lib : Library) : lib.unloading.calls = [.unload] := by
  unfold unloading
  cases lib.unloadWarning? <;> rfl

theorem lifecycle_unloading (lib : Library) : lib.unloading.lifecycle = [.vendor .unload] := by
  unfold unloading
  cases lib.unloadWarning? <;> rfl

/-! ## What opening and closing obey -/

/-- What is asked of the vendor to open or to close something obeys the relation, and so does the
account of what is open. -/
structure Handling (R : Library → Trace → Library → Prop) : Prop where
  composes : Composes R
  noting : ∀ lib lib', lib'.vendor = lib.vendor → lib'.loaded = lib.loaded → R lib [] lib'
  openAdapters : Obeys R (onVendor State.openAdapters)
  openDevice : ∀ i, Obeys R (onGroup (AdapterGroup.seekAdapter i (Adapter.openDevice i)))
  closeDevice : ∀ d, Obeys R (onAdapter d (Adapter.closeDevice d.adapter))
  closeAdapters : Obeys R (onVendor (State.onLatest AdapterGroup.close))

section
variable {R : Library → Trace → Library → Prop}

/-- All but the entry point only uses services. -/
theorem Handling.of_services (hc : Composes R)
    (hnote : ∀ lib lib', lib'.vendor = lib.vendor → lib'.loaded = lib.loaded → R lib [] lib')
    (hopen : Obeys R (onVendor State.openAdapters))
    (h : ∀ {β : Type} {m : Action Library β}, Obeys (Using (·.isService)) m → Obeys R m) :
    Handling R where
  composes := hc
  noting := hnote
  openAdapters := hopen
  openDevice i := h (using_onGroup (AdapterGroup.keeps_seekAdapter (Adapter.keeps_openDevice i))
    (emits_seek (Adapter.emits_openDevice i fun _ _ => rfl) fun _ => rfl))
  closeDevice _ := h (using_onAdapter (Adapter.keeps_closeDevice _) (emits_respond fun _ _ => rfl))
  closeAdapters := h (using_onVendor (State.keeps_onLatest AdapterGroup.keeps_close)
    (emits_within (emits_respond fun _ _ => rfl)))

variable (hR : Handling R)
include hR

/-- Account of what is open. -/
theorem obeys_note {f : Library → Library} (hv : ∀ lib, (f lib).vendor = lib.vendor)
    (hl : ∀ lib, (f lib).loaded = lib.loaded) : Obeys R (modify f : Action Library PUnit) :=
  obeys_modify fun lib => hR.noting lib (f lib) (hv lib) (hl lib)

theorem obeys_openAdapters : Obeys R openAdapters := by
  refine obeys_bind hR.composes (obeys_get hR.composes) fun lib => ?_
  split
  · exact obeys_pure hR.composes _
  · split
    · exact obeys_pure hR.composes _
    · refine obeys_bind hR.composes hR.openAdapters fun r => ?_
      -- only a group that is handed out is noted as open
      split
      · exact obeys_pure hR.composes _
      · exact obeys_bind hR.composes (obeys_note hR (fun _ => rfl) fun _ => rfl)
          fun _ => obeys_pure hR.composes _

theorem obeys_openDevice (i : Nat) : Obeys R (openDevice i) := by
  refine obeys_bind hR.composes (hR.openDevice i) fun r => ?_
  split
  · exact obeys_pure hR.composes _
  · split
    · exact obeys_pure hR.composes _
    · exact obeys_bind hR.composes (obeys_note hR (fun _ => rfl) fun _ => rfl)
        fun _ => obeys_pure hR.composes _

theorem obeys_closeDevice : Obeys R closeDevice := by
  refine obeys_bind hR.composes (obeys_get hR.composes) fun lib => ?_
  split
  · exact obeys_pure hR.composes _
  · next d _ =>
    refine obeys_bind hR.composes (hR.closeDevice d) fun code => ?_
    exact obeys_bind hR.composes (obeys_note hR (fun _ => rfl) fun _ => rfl)
      fun _ => obeys_pure hR.composes _

theorem obeys_closeAdapters : Obeys R closeAdapters := by
  refine obeys_bind hR.composes (obeys_get hR.composes) fun lib => ?_
  split
  · refine obeys_bind hR.composes hR.closeAdapters fun code => ?_
    exact obeys_bind hR.composes (obeys_note hR (fun _ => rfl) fun _ => rfl)
      fun _ => obeys_pure hR.composes _
  · exact obeys_pure hR.composes _

omit hR in
theorem letGo_of_unloaded {lib : Library} (h : lib.loaded = false) :
    letGo lib = { value := ((), lib) } := by
  apply Traced.ext' <;> simp [letGo, h]

omit hR in
theorem letGo_of_loaded {lib : Library} (h : lib.loaded = true) :
    letGo lib = { value := ((), { lib with loaded := false }), trace := lib.unloading } := by
  cases hwarning : lib.unloadWarning? <;> apply Traced.ext' <;>
    simp [letGo, unloading, h, hwarning]

/-- Unloading closes what is open, and then lets the library go if it is loaded. -/
theorem obeys_unload (hlog : ∀ lib level text, R lib [.log level text] lib)
    (hgo : ∀ lib, R lib [.vendor .unload] { lib with loaded := false }) :
    Obeys R unload := by
  refine obeys_bind hR.composes (obeys_closeDevice hR) fun code => ?_
  refine obeys_bind hR.composes (obeys_warnUnlessOk hR.composes hlog _ code) fun _ => ?_
  refine obeys_bind hR.composes (obeys_closeAdapters hR) fun code' => ?_
  refine obeys_bind hR.composes (obeys_warnUnlessOk hR.composes hlog _ code') fun _ => ?_
  intro lib
  cases hloaded : lib.loaded with
  | false =>
    rw [letGo_of_unloaded hloaded]
    exact hR.composes.nil lib
  | true =>
    rw [letGo_of_loaded hloaded, unloading]
    cases lib.unloadWarning? with
    | none => exact hgo lib
    | some warning => exact hR.composes.append (hgo lib) (hlog _ _ warning)

/-- Whatever only uses services obeys the relation too; then so does every request but the one to
unload. -/
theorem obeys_perform (h : ∀ {β : Type} {m : Action Library β},
    Obeys (Using (·.isService)) m → Obeys R m) {r : Gateway.Request} (hr : r ≠ .unload) :
    Obeys R (Gateway.perform (γ := Library) r) := by
  have hlook {β : Type} {m : Action Library β} (hm : Obeys (Using (·.isLook)) m) : Obeys R m :=
    h fun lib => (hm lib).mono fun _ => Event.isService_of_isLook
  cases r with
  | openAdapters => exact obeys_map _ (obeys_openAdapters hR)
  | readAdapterGroup => exact obeys_map _ (hlook using_readAdapterGroup)
  | readAdapter i => exact obeys_map _ (hlook (using_readAdapter i))
  | openDevice i => exact obeys_map _ (obeys_openDevice hR i)
  | readDevice => exact obeys_map _ (hlook using_readDevice)
  | readConcurrentGroup g => exact obeys_map _ (hlook (using_readConcurrentGroup g))
  | readMetricSet id => exact obeys_map _ (hlook (using_readMetricSet id))
  | readMetric id i => exact obeys_map _ (hlook (using_readMetric id i))
  | activate id => exact obeys_map _ (h (using_activate id))
  | deactivate id => exact obeys_map _ (h (using_deactivate id))
  | readClocks => exact obeys_map _ (h using_readClocks)
  | closeDevice => exact obeys_map _ (obeys_closeDevice hR)
  | closeAdapters => exact obeys_map _ (obeys_closeAdapters hR)
  | unload => exact absurd rfl hr

end

/-- Opening and closing only use services. -/
theorem handling_service : Handling fun _ t _ => ∀ e ∈ t, e.isService = true :=
  .of_services (composes_emits _) (fun _ _ _ _ => nofun) (fun lib => by
    simp [onVendor, State.openAdapters, Event.isService]) fun hm lib => (hm lib).2

theorem service_openDevice (i : Nat) : Emits (·.isService) (openDevice i) :=
  obeys_openDevice handling_service i

theorem service_closeDevice : Emits (·.isService) closeDevice := obeys_closeDevice handling_service

end Library
end GpuMonitor
