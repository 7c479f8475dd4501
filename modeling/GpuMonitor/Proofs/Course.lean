import GpuMonitor.Proofs.Measuring
import GpuMonitor.Proofs.Operating

/-!
# The course of a session

A session that has started uses one device until it is released, and then nothing. What it
leaves of the lifecycle meanwhile is a sequence of cycles, one for each sample that came as
far as an activation, and the closing at the end.

* `Cycle`: what a sample leaves; `pendingAfter`: whether a deactivation is still owed.
* `InUse`, `Over`: the two stages of a session that has started.
* `Ready`: what a session has to know of its library to be released.
* `Advances`: from `InUse`, some cycles, and then the closing if there is a release; from
  `Over`, nothing. It composes, and every operation obeys it.

Main result:

* `performAll_advances`: every history of operations is such a course.
-/

namespace GpuMonitor

open Vendor

variable {α : Type}

/-! ## Cycles -/

/-- What a sample leaves of the lifecycle, once it has a metric set to activate. -/
inductive Cycle where
  /-- The activation is refused. -/
  | refused (id : MetricSetId) (code : CompletionCode) (h : code.isAccepted = false)
  /-- The set is active while the clocks are read and a window passes. -/
  | full (id : MetricSetId) (code : CompletionCode) (h : code.isAccepted = true)
      (clock : CompletionCode) (window : Duration) (ending : CompletionCode)

namespace Cycle

/-- The events of a cycle on the device of an adapter. -/
def word (a : Nat) : Cycle → Trace
  | refused id code _ => [.vendor (.activate a id code)]
  | full id code _ clock window ending =>
    [.vendor (.activate a id code), .vendor (.readClocks a clock), .wait window,
      .vendor (.deactivate a id ending)]

/-- Whether a deactivation is owed after the cycle, given whether one was owed before. -/
def owes (before : Bool) : Cycle → Bool
  | refused .. => before
  | full _ _ _ _ _ ending => !ending.isOk

/-- The events of some cycles in a row. -/
def words (a : Nat) (cycles : List Cycle) : Trace := cycles.flatMap (word a)

/-- Whether a deactivation is owed after some cycles. -/
def pendingAfter (before : Bool) (cycles : List Cycle) : Bool := cycles.foldl owes before

@[simp] theorem words_nil (a : Nat) : words a [] = [] := rfl

@[simp] theorem words_append (a : Nat) (xs ys : List Cycle) :
    words a (xs ++ ys) = words a xs ++ words a ys := List.flatMap_append

@[simp] theorem pendingAfter_append (before : Bool) (xs ys : List Cycle) :
    pendingAfter before (xs ++ ys) = pendingAfter (pendingAfter before xs) ys :=
  List.foldl_append

end Cycle

/-- A deactivation that is owed is made for the selected set. -/
def Deactivating (a : Nat) (owed : Bool) (selected : Option MetricSetId) (t : Trace) : Prop :=
  if owed then ∃ id code, selected = some id ∧ t = [.vendor (.deactivate a id code)] else t = []

/-- The closing of a session that uses a device: what is owed is deactivated, the device and
the adapter group are closed, and the library is unloaded. -/
def Closing (a : Nat) (owed : Bool) (selected : Option MetricSetId) (t : Trace) : Prop :=
  ∃ last code code', Deactivating a owed selected last ∧
    t = last ++ [.vendor (.closeDevice a code), .vendor (.closeAdapters code'), .vendor .unload]

namespace Session

/-- The metric set that is selected. -/
def selected {γ : Type} (s : Session γ) : Option MetricSetId := s.selection.map Selection.id

/-! ## Stages -/

/-- The session uses the device of an adapter. A set that is selected is there, and one that
is active is selected. -/
structure InUse (a : Nat) (s : Session Library) : Prop where
  released : s.released = false
  groupOpen : s.groupOpen = true
  deviceOpen : s.deviceOpen = true
  loaded : s.gateway.loaded = true
  groupGiven : s.gateway.groupOpen = true
  present : ∃ dev, s.gateway.Opened a dev ∧ ∀ id ∈ s.selected, (dev.metricSet? id).isSome
  active : s.active = true → s.selection.isSome = true

/-- The session is released, and its library is gone. -/
structure Over (s : Session Library) : Prop where
  released : s.released = true
  gone : s.gateway.Gone

/-- The library of a session in use may be used in every way that changes nothing lasting. -/
theorem InUse.of_lasting {a : Nat} {s : Session Library} (h : InUse a s) {lib : Library}
    (hl : lib.lasting = s.gateway.lasting) : InUse a { s with gateway := lib } := by
  obtain ⟨dev, hdev, hpresent⟩ := h.present
  obtain ⟨dev', hdev', hlast⟩ := hdev.of_lasting hl
  obtain ⟨hloaded, hgroup, -⟩ := Library.open_of_lasting hl
  refine ⟨h.released, h.groupOpen, h.deviceOpen, hloaded.trans h.loaded,
    hgroup.trans h.groupGiven, ⟨dev', hdev', fun id hid => ?_⟩, h.active⟩
  rw [Library.metricSet?_isSome_of_lasting hlast]
  exact hpresent id hid

theorem Over.of_lasting {s s' : Session Library} (h : Over s) (hr : s'.released = s.released)
    (hl : s'.gateway.lasting = s.gateway.lasting) : Over s' := by
  obtain ⟨hloaded, hgroup, hdevice⟩ := Library.open_of_lasting hl
  exact ⟨hr.trans h.released, hloaded.trans h.gone.loaded, hgroup.trans h.gone.groupOpen,
    hdevice.trans h.gone.device⟩

/-- How a session goes on. In use it makes some cycles, and then comes to its closing if it is
released meanwhile; once it is over, nothing happens any more. -/
structure Advances (a : Nat) (s : Session Library) (t : Trace) (s' : Session Library) : Prop where
  whenInUse : InUse a s → ∃ cycles,
    (InUse a s' ∧ t.lifecycle = Cycle.words a cycles ∧
      s'.active = Cycle.pendingAfter s.active cycles) ∨
    (Over s' ∧ ∃ w, Closing a (Cycle.pendingAfter s.active cycles) s'.selected w ∧
      t.lifecycle = Cycle.words a cycles ++ w)
  whenOver : Over s → Over s' ∧ t.lifecycle = [] ∧ s'.selected = s.selected

theorem composes_advances (a : Nat) : Composes (Advances a) where
  nil s := ⟨fun h => ⟨[], .inl ⟨h, rfl, rfl⟩⟩, fun h => ⟨h, rfl, rfl⟩⟩
  append {s s' s'' t u} h h' := by
    refine ⟨fun hs => ?_, fun hs => ?_⟩
    · obtain ⟨xs, ⟨hs', ht, hactive⟩ | ⟨hs', w, hw, ht⟩⟩ := h.whenInUse hs
      · -- still in use in between: the cycles of both, and what is owed is carried on
        obtain ⟨ys, ⟨hs'', hu, hactive'⟩ | ⟨hs'', w, hw, hu⟩⟩ := h'.whenInUse hs'
        · refine ⟨xs ++ ys, .inl ⟨hs'', ?_, ?_⟩⟩
          · rw [Trace.lifecycle_append, ht, hu, Cycle.words_append]
          · rw [hactive', hactive, Cycle.pendingAfter_append]
        · refine ⟨xs ++ ys, .inr ⟨hs'', w, ?_, ?_⟩⟩
          · rw [Cycle.pendingAfter_append, ← hactive]
            exact hw
          · rw [Trace.lifecycle_append, ht, hu, Cycle.words_append, List.append_assoc]
      · -- the session is over, and its closing is the last that there is of the lifecycle
        obtain ⟨hs'', hu, hselected⟩ := h'.whenOver hs'
        refine ⟨xs, .inr ⟨hs'', w, ?_, ?_⟩⟩
        · rw [hselected]
          exact hw
        · rw [Trace.lifecycle_append, ht, hu, List.append_nil]
    · obtain ⟨hs', ht, hselected⟩ := h.whenOver hs
      obtain ⟨hs'', hu, hselected'⟩ := h'.whenOver hs'
      refine ⟨hs'', ?_, hselected'.trans hselected⟩
      rw [Trace.lifecycle_append, ht, hu, List.append_nil]

/-! ## Operations that read -/

/-- What leaves no event of the lifecycle and changes nothing lasting is no step of the
course. -/
theorem advances_onGateway {a : Nat} {m : Action Library α}
    (hm : Obeys (Library.Using Library.Quiet) m) : Obeys (Advances a) (onGateway m) := by
  intro s
  obtain ⟨hlast, hquiet⟩ := hm s.gateway
  have hnone : (onGateway m s).trace.lifecycle = [] := Library.lifecycle_of_quiet hquiet
  exact ⟨fun h => ⟨[], .inl ⟨h.of_lasting hlast, hnone, rfl⟩⟩,
    fun h => ⟨h.of_lasting rfl hlast, hnone, rfl⟩⟩

theorem advances_log (a : Nat) (s : Session Library) (level : Level) (text : String) :
    Advances a s [.log level text] s :=
  ⟨fun h => ⟨[], .inl ⟨h, rfl, rfl⟩⟩, fun h => ⟨h, rfl, rfl⟩⟩

/-- A set that gives its parameters is there. -/
theorem present_of_readMetricSet {lib : Library} {a : Nat} {dev : Device} (h : lib.Opened a dev)
    {id : MetricSetId} (hs : (Library.readMetricSet id lib).value.1.isSome = true) :
    (dev.metricSet? id).isSome = true := by
  simp only [Library.readMetricSet, Library.onSet, Library.value_onDevice h, Action.value_map,
    Device.value_seekSet] at hs
  cases hset : dev.metricSet? id with
  | none => simp [hset] at hs
  | some set => rfl

/-- A set that is selected in an open device is there. -/
theorem present_of_selectSet {lib : Library} {a : Nat} {dev : Device} (h : lib.Opened a dev)
    {selection : Selection} (hs : (selectSet lib).value.1 = .ok selection) :
    (dev.metricSet? selection.id).isSome = true := by
  have hkeep : ReadingObeys fun (l : Library) _ l' =>
      l.lasting = lib.lasting → l'.lasting = lib.lasting :=
    Library.reading_using.imp ⟨fun _ h => h, fun h h' hl => h' (h hl)⟩
      fun _ _ _ hu hl => hu.1.trans hl
  have hfound := ensures_selectSet (γ := Library) (P := fun l => l.lasting = lib.lasting)
    (Q := fun id => (dev.metricSet? id).isSome = true) hkeep ?_ lib rfl
  · exact hfound.2 selection hs
  · intro id l hl
    obtain ⟨dev', hdev', hlast⟩ := h.of_lasting hl
    refine ⟨hkeep.metricSet id l hl, fun hsome => ?_⟩
    rw [← Library.metricSet?_isSome_of_lasting hlast]
    exact present_of_readMetricSet hdev' hsome

/-- No device is searched once the library is gone. -/
theorem selectSet_of_gone {lib : Library} (h : lib.Gone) :
    (selectSet lib).value.1 = .error (.missingParams "metrics device") := by
  have hdevice : (Gateway.readDevice lib).value.1 = none := by
    show (Library.readDevice lib).value.1 = none
    simp [Library.readDevice, Library.onDevice, h.device]
  simp [selectSet, concurrentGroupCount, hdevice]

theorem advances_select (a : Nat) : Obeys (Advances a) select := by
  intro s
  obtain ⟨-, hstate, htrace⟩ := select_spec s
  obtain ⟨hlast, hquiet⟩ := obeys_selectSet Library.reading_using s.gateway
  have hnone : (select s).trace.lifecycle = [] := by
    rw [htrace]
    exact Library.lifecycle_of_quiet hquiet
  rw [hstate]
  refine ⟨fun h => ⟨[], .inl ⟨?_, hnone, rfl⟩⟩, fun h => ⟨h.of_lasting rfl hlast, hnone, ?_⟩⟩
  · -- the search has read the parameters of what it selects, so the set is there
    have hstill := h.of_lasting hlast
    cases hfound : (selectSet s.gateway).value.1 with
    | error f => exact hstill
    | ok selection =>
      obtain ⟨dev, hdev, -⟩ := h.present
      obtain ⟨dev', hdev', hlast'⟩ := hdev.of_lasting hlast
      refine { hstill with present := ⟨dev', hdev', fun id hid => ?_⟩, active := fun _ => rfl }
      obtain rfl : selection.id = id := by simpa [selected, Except.toOption] using hid
      rw [Library.metricSet?_isSome_of_lasting hlast']
      exact present_of_selectSet hdev hfound
  · rw [selectSet_of_gone h.gone]
    rfl

/-! ## Sampling -/

theorem inUse_readClocks {a : Nat} {s : Session Library} (h : InUse a s) :
    InUse a (readClocks s).value.2 := by
  obtain ⟨hstate, -⟩ := readClocks_spec s
  rw [hstate]
  exact h.of_lasting (Library.using_readClocks s.gateway).1

/-- A sample of a session in use is a cycle, if a set is selected. -/
theorem sample_inUse {a : Nat} {s : Session Library} (h : InUse a s) :
    ∃ cycles, (sample s).trace.lifecycle = Cycle.words a cycles ∧ InUse a (sample s).value.2 ∧
      (sample s).value.2.active = Cycle.pendingAfter s.active cycles := by
  cases hsel : s.selection with
  | none =>
    rw [sample_of_none hsel]
    exact ⟨[], rfl, h, rfl⟩
  | some selection =>
    obtain ⟨dev, hdev, hpresent⟩ := h.present
    have hid : s.selected = some selection.id := by simp [selected, hsel]
    -- the selected set is present as long as the device lasts, so the sample comes to its calls
    cases sampled_of_opened hdev hsel (hpresent _ hid) with
    | refused code lib hcode htrace _ hlib hstate =>
      have hrefused : code.isAccepted = false := by
        rw [← Bool.not_eq_true, CompletionCode.isAccepted_iff, not_or]
        exact hcode
      refine ⟨[.refused selection.id code hrefused], ?_, ?_, ?_⟩
      · rw [htrace]
        rfl
      · rw [hstate]
        exact h.of_lasting hlib
      · rw [hstate]
        rfl
    | measured code clock ending found lib hcode htrace _ hlib hstate =>
      have haccepted := CompletionCode.isAccepted_iff.2 hcode
      refine ⟨[.full selection.id code haccepted clock s.window ending], ?_, ?_, ?_⟩
      · rw [← Trace.lifecycle_milestones, htrace]
        rfl
      · rw [hstate]
        exact { h.of_lasting hlib with active := fun _ => by rw [hsel]; rfl }
      · rw [hstate]
        rfl

/-- Nothing is activated once the session is over, and a sample fails. -/
theorem sample_over {s : Session Library} (h : Over s) :
    ∃ f, sample s = { value := (.error f, s) } ∧ (f = .noMetricSetSelected ∨
      f = .vendorCall "activate metric set" .errorInvalidParameter) := by
  cases hsel : s.selection with
  | none => exact ⟨_, sample_of_none hsel, .inl rfl⟩
  | some selection =>
    have hactivate : Library.activate selection.id s.gateway =
        { value := (.errorInvalidParameter, s.gateway) } := by
      apply Traced.ext' <;>
        simp [Library.activate, Library.onSet, Library.onDevice, h.gone.device]
    obtain ⟨hvalue, htrace⟩ := sample_of_refused hsel (by rw [hactivate]; rfl)
    rw [hactivate] at hvalue htrace
    exact ⟨_, Traced.ext' hvalue htrace, .inr rfl⟩

theorem advances_sample (a : Nat) : Obeys (Advances a) sample := by
  intro s
  refine ⟨fun h => ?_, fun h => ?_⟩
  · obtain ⟨cycles, htrace, hstate, hactive⟩ := sample_inUse h
    exact ⟨cycles, .inl ⟨hstate, htrace, hactive⟩⟩
  · obtain ⟨f, hsample, -⟩ := sample_over h
    rw [hsample]
    exact ⟨h, rfl, rfl⟩

/-! ## Releasing -/

/-- The session knows what of its library is open, and a set that is active can be
deactivated. -/
structure Ready (s : Session Library) : Prop where
  released : s.released = false
  loaded : s.gateway.loaded = true
  group : s.gateway.groupOpen = s.groupOpen
  closed : s.deviceOpen = false → s.gateway.device = none
  opened : s.deviceOpen = true → ∃ a dev, s.gateway.Opened a dev
  active : s.active = true → ∃ a dev selection, s.gateway.Opened a dev ∧
    s.selection = some selection ∧ (dev.metricSet? selection.id).isSome = true

theorem InUse.ready {a : Nat} {s : Session Library} (h : InUse a s) : Ready s := by
  obtain ⟨dev, hdev, hpresent⟩ := h.present
  refine ⟨h.released, h.loaded, h.groupGiven.trans h.groupOpen.symm, fun hclosed => ?_,
    fun _ => ⟨a, dev, hdev⟩, fun hactive => ?_⟩
  · rw [h.deviceOpen] at hclosed
    cases hclosed
  · obtain ⟨selection, hsel⟩ := Option.isSome_iff_exists.1 (h.active hactive)
    exact ⟨a, dev, selection, hdev, hsel, hpresent _ (by simp [selected, hsel])⟩

theorem releaseSet_leaves {s : Session Library} (h : s.active = true → s.selection.isSome = true) :
    ∃ lib, lib.lasting = s.gateway.lasting ∧
      (releaseSet s).value.2 = { s with gateway := lib, active := false } := by
  cases hactive : s.active with
  | false => exact ⟨s.gateway, rfl, by rw [releaseSet_of_settled hactive]⟩
  | true =>
    obtain ⟨selection, hsel⟩ := Option.isSome_iff_exists.1 (h hactive)
    exact ⟨_, (Library.using_deactivate selection.id s.gateway).1,
      (releaseSet_of_active hactive hsel).1⟩

theorem releaseDevice_leaves {s : Session Library}
    (h : s.deviceOpen = false → s.gateway.device = none) :
    ∃ lib, lib.device = none ∧ lib.loaded = s.gateway.loaded ∧
      lib.groupOpen = s.gateway.groupOpen ∧
      (releaseDevice s).value.2 = { s with gateway := lib, deviceOpen := false } := by
  cases hopen : s.deviceOpen with
  | false => exact ⟨s.gateway, h hopen, rfl, rfl, by rw [releaseDevice_of_closed hopen]⟩
  | true =>
    obtain ⟨hdevice, hloaded, hgroup⟩ := Library.closeDevice_closes s.gateway
    exact ⟨_, hdevice, hloaded, hgroup, (releaseDevice_of_open hopen).1⟩

theorem releaseGroup_leaves {s : Session Library} (h : s.gateway.groupOpen = s.groupOpen) :
    ∃ lib, lib.groupOpen = false ∧ lib.loaded = s.gateway.loaded ∧
      lib.device = s.gateway.device ∧
      (releaseGroup s).value.2 = { s with gateway := lib, groupOpen := false } := by
  cases hopen : s.groupOpen with
  | false => exact ⟨s.gateway, h.trans hopen, rfl, rfl, by rw [releaseGroup_of_closed hopen]⟩
  | true =>
    obtain ⟨hgroup, hloaded, hdevice⟩ := Library.closeAdapters_closes s.gateway
    exact ⟨_, hgroup, hloaded, hdevice, (releaseGroup_of_open hopen).1⟩

/-- What is closed by the session is not closed by its library again, so the end of a release
is the one call that unloads. -/
theorem release_of_ready {s : Session Library} (h : Ready s) :
    ∃ (s₁ s₂ : Session Library) (lib : Library),
      s₁.deviceOpen = s.deviceOpen ∧ s₁.gateway.lasting = s.gateway.lasting ∧
      s₂.groupOpen = s.groupOpen ∧ s₂.gateway.groupOpen = s.groupOpen ∧
      (release s).trace = [.log .info "Cleaning up resources..."] ++
        ((releaseSet { s with released := true }).trace ++ ((releaseDevice s₁).trace ++
          ((releaseGroup s₂).trace ++ lib.unloading))) ∧
      (release s).value.2.selected = s.selected ∧ Over (release s).value.2 := by
  have hselected : s.active = true → s.selection.isSome = true := by
    intro hactive
    obtain ⟨-, -, selection, -, hsel, -⟩ := h.active hactive
    rw [hsel]
    rfl
  -- each step starts from the library that the one before it has left
  obtain ⟨lib, hlib, hset⟩ := releaseSet_leaves (s := { s with released := true }) hselected
  obtain ⟨hloaded, hgroup, hdevice⟩ := Library.open_of_lasting hlib
  obtain ⟨lib', hnone, hloaded', hgroup', hset'⟩ :=
    releaseDevice_leaves (s := { s with released := true, gateway := lib, active := false })
      fun hclosed => hdevice.trans (h.closed hclosed)
  obtain ⟨lib'', hclosed, hloaded'', hdevice'', hset''⟩ :=
    releaseGroup_leaves
      (s := { s with released := true, gateway := lib', active := false, deviceOpen := false })
      (hgroup'.trans (hgroup.trans h.group))
  have hunload : (Library.unload lib'').trace = lib''.unloading :=
    Library.trace_unload (hloaded''.trans (hloaded'.trans (hloaded.trans h.loaded))) hclosed
      (hdevice''.trans hnone)
  obtain ⟨hstate, htrace⟩ := release_spec h.released hset hset' hset''
  refine ⟨{ s with released := true, gateway := lib, active := false },
    { s with released := true, gateway := lib', active := false, deviceOpen := false }, lib'',
    rfl, hlib, rfl, hgroup'.trans (hgroup.trans h.group), ?_, ?_, ?_⟩
  · rw [htrace, hunload]
  · rw [hstate]
    rfl
  · rw [hstate]
    exact ⟨rfl, Library.gone_unload lib''⟩

/-- What is owed is deactivated. -/
theorem deactivating_releaseSet {a : Nat} {s : Session Library} {dev : Device}
    (hdev : s.gateway.Opened a dev) (hpresent : ∀ id ∈ s.selected, (dev.metricSet? id).isSome)
    (hsel : s.active = true → s.selection.isSome = true) :
    Deactivating a s.active s.selected (releaseSet s).trace.lifecycle := by
  cases hactive : s.active with
  | false =>
    rw [releaseSet_of_settled hactive]
    rfl
  | true =>
    obtain ⟨selection, hsel⟩ := Option.isSome_iff_exists.1 (hsel hactive)
    have hid : s.selected = some selection.id := by simp [selected, hsel]
    rw [(releaseSet_of_active hactive hsel).2, Trace.lifecycle_append, lifecycle_warnUnlessOk,
      List.append_nil, Library.deactivate_of_present hdev (hpresent _ hid)]
    exact ⟨_, _, hid, rfl⟩

/-- An open device is closed by one call. -/
theorem lifecycle_releaseDevice {a : Nat} {s : Session Library} {dev : Device}
    (hopen : s.deviceOpen = true) (hdev : s.gateway.Opened a dev) :
    ∃ code, (releaseDevice s).trace.lifecycle = [.vendor (.closeDevice a code)] := by
  refine ⟨(Library.closeDevice s.gateway).value.1, ?_⟩
  rw [(releaseDevice_of_open hopen).2, Trace.lifecycle_append, lifecycle_warnUnlessOk,
    List.append_nil]
  exact Library.closeDevice_of_opened hdev

/-- An open adapter group is closed by one call. -/
theorem lifecycle_releaseGroup {s : Session Library} (hopen : s.groupOpen = true)
    (hgiven : s.gateway.groupOpen = true) :
    ∃ code, (releaseGroup s).trace.lifecycle = [.vendor (.closeAdapters code)] := by
  refine ⟨(Library.closeAdapters s.gateway).value.1, ?_⟩
  rw [(releaseGroup_of_open hopen).2, Trace.lifecycle_append, lifecycle_warnUnlessOk,
    List.append_nil, Library.closeAdapters_of_open hgiven]
  rfl

/-- The release of a session in use is its closing. -/
theorem release_inUse {a : Nat} {s : Session Library} (h : InUse a s) :
    Closing a s.active s.selected (release s).trace.lifecycle ∧
      (release s).value.2.selected = s.selected ∧ Over (release s).value.2 := by
  obtain ⟨dev, hdev, hpresent⟩ := h.present
  obtain ⟨s₁, s₂, lib, hopen, hlast, hgroup, hgiven, htrace, hselected, hover⟩ :=
    release_of_ready h.ready
  obtain ⟨dev', hdev', -⟩ := hdev.of_lasting hlast
  have howed := deactivating_releaseSet (s := { s with released := true }) hdev hpresent h.active
  obtain ⟨code, hclose⟩ := lifecycle_releaseDevice (hopen.trans h.deviceOpen) hdev'
  obtain ⟨code', hclose'⟩ :=
    lifecycle_releaseGroup (hgroup.trans h.groupOpen) (hgiven.trans h.groupOpen)
  refine ⟨⟨_, code, code', howed, ?_⟩, hselected, hover⟩
  rw [htrace]
  simp only [Trace.lifecycle_append, hclose, hclose', Library.lifecycle_unloading]
  rfl

theorem advances_release (a : Nat) : Obeys (Advances a) release := by
  intro s
  refine ⟨fun h => ?_, fun h => ?_⟩
  · obtain ⟨hclosing, hselected, hover⟩ := release_inUse h
    rw [← hselected] at hclosing
    exact ⟨[], .inr ⟨hover, _, hclosing, rfl⟩⟩
  · rw [release_of_released h.released]
    exact ⟨h, rfl, rfl⟩

/-! ## Histories -/

/-- An operation is a step of the course, whichever it is. -/
theorem advances_perform (a : Nat) (op : Operation) : Obeys (Advances a) op.perform := by
  have hc := composes_advances a
  cases op with
  | adapters =>
    exact obeys_map _ (advances_onGateway (obeys_listAdapters Library.reading_using))
  | adapter => exact obeys_bind hc (obeys_get hc) fun _ => obeys_pure hc _
  | selection => exact obeys_bind hc (obeys_get hc) fun _ => obeys_pure hc _
  | deviceName =>
    exact obeys_map _ (advances_onGateway (obeys_map _ Library.reading_using.device))
  | catalog => exact obeys_map _ (advances_onGateway (obeys_catalog Library.reading_using))
  | select => exact obeys_map _ (advances_select a)
  | sample => exact obeys_map _ (advances_sample a)
  | setWindow length =>
    -- the window is no part of what either stage says
    refine obeys_bind hc (obeys_modify fun s => ?_) fun _ => obeys_pure hc _
    exact ⟨fun h => ⟨[], .inl ⟨{ h with }, rfl, rfl⟩⟩, fun h => ⟨{ h with }, rfl, rfl⟩⟩
  | run mode interval bound bench =>
    refine obeys_bind hc ?_ fun _ => obeys_pure hc _
    exact Monitor.Bench.obeys_run hc (advances_log a) (advances_sample a) mode interval bound bench
  | release => exact obeys_bind hc (advances_release a) fun _ => obeys_pure hc _

/-- Every history of operations is a course: a session in use makes some cycles, and comes to
its closing if it is released; one that is over does nothing. -/
theorem performAll_advances (a : Nat) (ops : List Operation) :
    Obeys (Advances a) (performAll ops) :=
  obeys_history (composes_advances a) (advances_perform a) ops

end Session
end GpuMonitor
