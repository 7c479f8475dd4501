import GpuMonitor.Proofs.Course

/-!
# The whole life of a session

What a session leaves of the lifecycle from its start to its end is a word of a fixed shape:
what was opened is closed, in the reverse order and once, and the library is unloaded last.

* `DeviceWord`, `LifeWord`: the shape.
* `Idle`: a session that has no device. `Opens`: what comes of opening one.
* `Session.launch`: the loading of a library, and the start of a session on it.
* `Session.lifetime`: a session from its start to its end.

Main result:

* `lifecycle_lifetime`: over every loaded library and every history of operations, the
  lifecycle is such a word.
-/

namespace GpuMonitor

open Vendor

namespace Session

/-! ## The shape -/

/-- What is left of the lifecycle while the adapter group is open: nothing, an opening that
hands out no device, or the opening of a device, cycles on it, the deactivation that is still
owed, and the closing of the device. -/
inductive DeviceWord (selected : Option MetricSetId) : Trace → Prop where
  | untried : DeviceWord selected []
  | refused (i : Nat) (code : CompletionCode) (given : Bool) (h : ¬(code = .ok ∧ given = true)) :
    DeviceWord selected [.vendor (.openDevice i code given)]
  | used (i : Nat) (cycles : List Cycle) (last : Trace) (code : CompletionCode)
    (h : Deactivating i (Cycle.pendingAfter false cycles) selected last) :
    DeviceWord selected (.vendor (.openDevice i .ok true) ::
      (Cycle.words i cycles ++ last ++ [.vendor (.closeDevice i code)]))

/-- What is left of the lifecycle by a session as a whole. -/
inductive LifeWord (selected : Option MetricSetId) : Trace → Prop where
  | refused (code : CompletionCode) (given : Bool) (h : ¬(code = .ok ∧ given = true)) :
    LifeWord selected [.vendor (.openAdapters code given), .vendor .unload]
  | used (word : Trace) (code : CompletionCode) (h : DeviceWord selected word) :
    LifeWord selected (.vendor (.openAdapters .ok true) ::
      (word ++ [.vendor (.closeAdapters code), .vendor .unload]))

/-- Loads a library and starts a session on it. -/
def launch (loader : Loader) (candidates : List Path) :
    Traced (Except Failure (Session Library)) := do
  match ← Library.load loader candidates with
  | .error f => return .error f
  | .ok lib => start lib

/-- A session from its start to its end, with some operations in between if it starts; the
session as it is at its end is given back. -/
def lifetime {γ : Type} [Gateway γ] (gateway : γ) (ops : List Operation) :
    Traced (Option (Session γ)) := do
  match ← start gateway with
  | .error _ => return none
  | .ok s =>
    let (_, s) ← performAll ops s
    let (_, s) ← finish s
    return some s

/-! ## Sessions without a device -/

/-- The session has no device, and its adapter group is open or not as `group` says. -/
structure Idle (group : Bool) (s : Session Library) : Prop where
  released : s.released = false
  groupOpen : s.groupOpen = group
  deviceOpen : s.deviceOpen = false
  active : s.active = false
  selection : s.selection = none
  loaded : s.gateway.loaded = true
  groupGiven : s.gateway.groupOpen = group
  device : s.gateway.device = none

theorem Idle.of_lasting {group : Bool} {s : Session Library} (h : Idle group s) {lib : Library}
    (hl : lib.lasting = s.gateway.lasting) : Idle group { s with gateway := lib } := by
  obtain ⟨hloaded, hgroup, hdevice⟩ := Library.open_of_lasting hl
  exact { h with
    loaded := hloaded.trans h.loaded
    groupGiven := hgroup.trans h.groupGiven
    device := hdevice.trans h.device }

theorem Idle.ready {group : Bool} {s : Session Library} (h : Idle group s) : Ready s := by
  refine ⟨h.released, h.loaded, h.groupGiven.trans h.groupOpen.symm, fun _ => h.device,
    fun hopen => ?_, fun hactive => ?_⟩
  · rw [h.deviceOpen] at hopen
    cases hopen
  · rw [h.active] at hactive
    cases hactive

/-- Releasing a session without a device closes the adapter group if it is open, and unloads
the library. -/
theorem release_idle {group : Bool} {s : Session Library} (h : Idle group s) :
    (∃ code, (release s).trace.lifecycle =
      if group then [.vendor (.closeAdapters code), .vendor .unload] else [.vendor .unload]) ∧
      Over (release s).value.2 := by
  obtain ⟨s₁, s₂, lib, hopen, -, hgroup, hgiven, htrace, -, hover⟩ := release_of_ready h.ready
  refine ⟨?_, hover⟩
  -- there is nothing to deactivate, and no device to close
  rw [releaseSet_of_settled (s := { s with released := true }) h.active,
    releaseDevice_of_closed (hopen.trans h.deviceOpen)] at htrace
  cases group with
  | false =>
    rw [releaseGroup_of_closed (hgroup.trans h.groupOpen)] at htrace
    rw [htrace]
    exact ⟨.ok, lib.lifecycle_unloading⟩
  | true =>
    obtain ⟨code, hclose⟩ :=
      lifecycle_releaseGroup (hgroup.trans h.groupOpen) (hgiven.trans h.groupOpen)
    rw [htrace]
    simp only [Trace.lifecycle_append, hclose, lib.lifecycle_unloading]
    exact ⟨code, rfl⟩

/-! ## Starting -/

/-- What comes of looking for a device under an open adapter group: a failure, and no device;
or a device in use. -/
inductive Opens (r : Traced (Except Failure Unit × Session Library)) : Prop where
  | failed (f : Failure) (word : Trace) (h : r.value.1 = .error f) (hs : Idle true r.value.2)
    (hw : DeviceWord none word) (ht : r.trace.lifecycle = word)
  | opened (i : Nat) (h : r.value.1 = .ok ()) (hs : InUse i r.value.2)
    (hactive : r.value.2.active = false)
    (ht : r.trace.lifecycle = [.vendor (.openDevice i .ok true)])

/-- Opening the device of an adapter is one call, and none if the adapter is not there. -/
theorem opens_openDevice {s : Session Library} (h : Idle true s) (adapter : AdapterInfo) :
    Opens (openDevice adapter s) := by
  -- an entry of the listing names a place, and the tree decides whether an adapter is there
  cases had : s.gateway.vendor.latest.adapters[adapter.index]?.join with
  | none =>
    obtain ⟨hcall, hresult, hloaded, hgroup, hdevice⟩ :=
      Library.openDevice_of_missing h.groupGiven had
    obtain ⟨hvalue, htrace⟩ := openDevice_error hresult
    refine .failed _ [] (by rw [hvalue]) ?_ .untried (by rw [htrace, hcall])
    rw [hvalue]
    exact { h with
      loaded := hloaded.trans h.loaded
      groupGiven := hgroup
      device := hdevice.trans h.device }
  | some ad =>
    obtain ⟨code, given, hcall, hresult, hloaded, hgroup, hopened, hrefused⟩ :=
      Library.openDevice_of_present h.groupGiven had
    cases hgiven : Library.handedOut (code, given) with
    | ok _ =>
      obtain ⟨dev, hdev⟩ := hopened hgiven
      obtain ⟨hvalue, htrace⟩ := openDevice_ok (hresult.trans hgiven)
      obtain ⟨rfl, rfl⟩ := Library.handedOut_eq_ok_iff.1 hgiven
      refine .opened adapter.index (by rw [hvalue]) ?_ (by rw [hvalue]; exact h.active) ?_
      case refine_2 =>
        rw [htrace, Trace.lifecycle_append, hcall]
        rfl
      rw [hvalue]
      exact { h with
        deviceOpen := rfl
        loaded := hloaded.trans h.loaded
        groupGiven := hgroup
        present := ⟨dev, hdev, by simp [selected, h.selection]⟩
        active := fun hactive => by rw [h.active] at hactive; cases hactive }
    | error code' =>
      -- the code `ok` without a device is a failure too, and there is nothing to close
      have hno : Library.handedOut (code, given) ≠ .ok () := by
        intro hok
        rw [hgiven] at hok
        cases hok
      obtain ⟨hvalue, htrace⟩ := openDevice_error (hresult.trans hgiven)
      refine .failed _ _ (by rw [hvalue]) ?_
        (.refused adapter.index code given (mt Library.handedOut_eq_ok_iff.2 hno))
        (by rw [htrace, hcall])
      rw [hvalue]
      exact { h with
        loaded := hloaded.trans h.loaded
        groupGiven := hgroup
        device := (hrefused hno).trans h.device }

/-- The adapters are only read before one of them is opened. -/
theorem opens_openIntel {s : Session Library} (h : Idle true s) (group : AdapterGroupParams) :
    Opens (openIntel group s) := by
  obtain ⟨hlast, hquiet⟩ := obeys_listAdapters Library.reading_using s.gateway
  have hread := h.of_lasting hlast
  have hnone : (listAdapters s.gateway).trace.lifecycle = [] := Library.lifecycle_of_quiet hquiet
  cases hfind : (listAdapters s.gateway).value.1.find? AdapterInfo.isIntel with
  | none =>
    obtain ⟨hvalue, text, htrace⟩ := openIntel_of_none group hfind
    refine .failed .noIntelAdapter [] (by rw [hvalue]) (by rw [hvalue]; exact hread) .untried ?_
    rw [htrace, Trace.lifecycle_append, hnone]
    rfl
  | some adapter =>
    obtain ⟨listed, rfl, hvalue, text, htrace⟩ := openIntel_of_some group hfind
    have hcalls : (openIntel group s).trace.lifecycle = (openDevice adapter { s with
        gateway := (listAdapters s.gateway).value.2 }).trace.lifecycle := by
      rw [htrace]
      simp only [Trace.lifecycle_append, hnone]
      rfl
    cases opens_openDevice hread adapter with
    | failed f word hf hs hw ht =>
      exact .failed f word (by rw [hvalue, hf]) (by rw [hvalue]; exact hs) hw (hcalls.trans ht)
    | opened i hf hs hactive ht =>
      exact .opened i (by rw [hvalue, hf]) (by rw [hvalue]; exact hs)
        (by rw [hvalue]; exact hactive) (hcalls.trans ht)

/-- What comes of opening everything: the adapter group is refused; or it is open and no device
is; or a device is in use. -/
inductive OpensAll (r : Traced (Except Failure Unit × Session Library)) : Prop where
  | refused (f : Failure) (code : CompletionCode) (given : Bool) (h : r.value.1 = .error f)
    (hs : Idle false r.value.2) (hno : ¬(code = .ok ∧ given = true))
    (ht : r.trace.lifecycle = [.vendor (.openAdapters code given)])
  | failed (f : Failure) (word : Trace) (h : r.value.1 = .error f) (hs : Idle true r.value.2)
    (hw : DeviceWord none word) (ht : r.trace.lifecycle = .vendor (.openAdapters .ok true) :: word)
  | opened (i : Nat) (h : r.value.1 = .ok ()) (hs : InUse i r.value.2)
    (hactive : r.value.2.active = false)
    (ht : r.trace.lifecycle =
      [.vendor (.openAdapters .ok true), .vendor (.openDevice i .ok true)])

/-- After the adapter group is opened its parameters are read, and then a device is looked
for. -/
theorem opensAll_openAll (lib : Library) (hl : lib.loaded = true) (hg : lib.groupOpen = false)
    (hd : lib.device = none) : OpensAll (openAll { gateway := lib }) := by
  obtain ⟨code, given, hcall, hresult, hloaded, hdevice, hgroup⟩ :=
    Library.openAdapters_of_closed hl hg
  have hopening : (Library.openAdapters lib).trace.lifecycle =
      [.vendor (.openAdapters code given)] := by
    rw [hcall]
    rfl
  cases hgiven : Library.handedOut (code, given) with
  | error code' =>
    have hno : Library.handedOut (code, given) ≠ .ok () := by rw [hgiven]; exact nofun
    have hfalse : (Library.openAdapters lib).value.2.groupOpen = false := by
      simpa using mt hgroup.1 hno
    rw [hgiven] at hresult
    obtain ⟨hvalue, htrace⟩ := openAll_error hresult
    refine .refused (.vendorCall "open adapter group" code') code given (by rw [hvalue]) ?_
      (mt Library.handedOut_eq_ok_iff.2 hno) (by rw [htrace, hopening])
    rw [hvalue]
    exact ⟨rfl, rfl, rfl, rfl, rfl, hloaded, hfalse, hdevice.trans hd⟩
  | ok _ =>
    obtain ⟨rfl, rfl⟩ := Library.handedOut_eq_ok_iff.1 hgiven
    rw [hgiven] at hresult
    -- from here on the group is open, and whatever fails leaves it so for the release
    have hidle : Idle true ({ gateway := (Library.openAdapters lib).value.2, groupOpen := true } :
        Session Library) :=
      ⟨rfl, rfl, rfl, rfl, rfl, hloaded, hgroup.2 hgiven, hdevice.trans hd⟩
    obtain ⟨hlast, hquiet⟩ := Library.reading_using.adapterGroup (Library.openAdapters lib).value.2
    have hread := hidle.of_lasting hlast
    have hnone := Library.lifecycle_of_quiet hquiet
    cases hparams : (Gateway.readAdapterGroup (Library.openAdapters lib).value.2).value.1 with
    | none =>
      obtain ⟨hvalue, htrace⟩ := openAll_of_unread hresult hparams
      refine .failed (.missingParams "adapter group") [] (by rw [hvalue])
        (by rw [hvalue]; exact hread) .untried ?_
      rw [htrace, Trace.lifecycle_append, hopening, hnone]
      rfl
    | some group =>
      obtain ⟨opened, hopened, hvalue, htrace⟩ := openAll_of_read hresult hparams
      have hcalls : (openAll { gateway := lib }).trace.lifecycle =
          .vendor (.openAdapters .ok true) :: (openIntel group opened).trace.lifecycle := by
        rw [htrace]
        simp only [Trace.lifecycle_append, hopening, hnone]
        rfl
      rw [← hopened] at hread
      cases opens_openIntel hread group with
      | failed f word hf hs hw ht =>
        exact .failed f word (by rw [hvalue, hf]) (by rw [hvalue]; exact hs) hw (by rw [hcalls, ht])
      | opened i hf hs hactive ht =>
        exact .opened i (by rw [hvalue, hf]) (by rw [hvalue]; exact hs)
          (by rw [hvalue]; exact hactive) (by rw [hcalls, ht])

/-! ## From start to end -/

theorem launch_of_error {loader : Loader} {candidates : List Path} {f : Failure}
    (h : (Library.load loader candidates).value = .error f) :
    (launch loader candidates).value = .error f ∧
      (launch loader candidates).trace = (Library.load loader candidates).trace := by
  simp [launch, h]

theorem launch_of_ok {loader : Loader} {candidates : List Path} {lib : Library}
    (h : (Library.load loader candidates).value = .ok lib) :
    (launch loader candidates).value = (start lib).value ∧
      (launch loader candidates).trace =
        (Library.load loader candidates).trace ++ (start lib).trace := by
  simp [launch, h]

theorem finish_inUse {a : Nat} {s : Session Library} (h : InUse a s) :
    Closing a s.active (finish s).value.2.selected (finish s).trace.lifecycle := by
  obtain ⟨hclosing, hselected, hover⟩ := release_inUse h
  obtain ⟨hstate, htrace⟩ := finish_of_gone hover.gone
  rw [hstate, htrace, hselected]
  exact hclosing

theorem finish_over {s : Session Library} (h : Over s) :
    (finish s).value.2 = s ∧ (finish s).trace = [] := by
  have hrelease := release_of_released h.released
  have hgone : (release s).value.2.gateway.Gone := by
    rw [hrelease]
    exact h.gone
  obtain ⟨hstate, htrace⟩ := finish_of_gone hgone
  rw [hstate, htrace, hrelease]
  exact ⟨rfl, rfl⟩

/-- A session that has started uses a device, and nothing is active yet. -/
theorem inUse_of_start {loader : Loader} {candidates : List Path} {lib : Library}
    {s : Session Library} (hload : (Library.load loader candidates).value = .ok lib)
    (hstart : (start lib).value = .ok s) :
    ∃ i, InUse i s ∧ s.active = false ∧ (start lib).trace.lifecycle =
      [.vendor (.openAdapters .ok true), .vendor (.openDevice i .ok true)] := by
  obtain ⟨path, script, rfl⟩ := Library.loaded_of_load hload
  cases opensAll_openAll { path, vendor := .fresh script } rfl rfl rfl with
  | refused f code given hf hs hno ht =>
    rw [(start_error hf).1] at hstart
    cases hstart
  | failed f word hf hs hw ht =>
    rw [(start_error hf).1] at hstart
    cases hstart
  | opened i hf hs hactive ht =>
    obtain ⟨hvalue, htrace⟩ := start_ok hf
    obtain rfl : _ = s := Except.ok.inj (hvalue.symm.trans hstart)
    exact ⟨i, hs, hactive, by rw [htrace, ht]⟩

/-- A session that was launched was started on the library that was loaded. -/
theorem start_of_launch {loader : Loader} {candidates : List Path} {s : Session Library}
    (h : (launch loader candidates).value = .ok s) :
    ∃ lib, (Library.load loader candidates).value = .ok lib ∧ (start lib).value = .ok s := by
  cases hload : (Library.load loader candidates).value with
  | error f =>
    rw [(launch_of_error hload).1] at h
    cases h
  | ok lib =>
    rw [(launch_of_ok hload).1] at h
    exact ⟨lib, rfl, h⟩

/-- A session that was launched is in use until it is released, and is over then. -/
theorem stage_of_launch {loader : Loader} {candidates : List Path} {s : Session Library}
    (h : (launch loader candidates).value = .ok s) (ops : List Operation) :
    ∃ a, InUse a (performAll ops s).value.2 ∨ Over (performAll ops s).value.2 := by
  obtain ⟨lib, hload, hstart⟩ := start_of_launch h
  obtain ⟨a, hinUse, -⟩ := inUse_of_start hload hstart
  obtain ⟨cycles, ⟨hs, -⟩ | ⟨hs, -⟩⟩ := (performAll_advances a ops s).whenInUse hinUse
  · exact ⟨a, .inl hs⟩
  · exact ⟨a, .inr hs⟩

/-- A session in use comes to its closing once, by a release among its operations or by its
end. -/
theorem course_to_end {a : Nat} {s : Session Library} (h : InUse a s) (ops : List Operation) :
    ∃ cycles w, Closing a (Cycle.pendingAfter s.active cycles)
        (finish (performAll ops s).value.2).value.2.selected w ∧
      (performAll ops s).trace.lifecycle ++ (finish (performAll ops s).value.2).trace.lifecycle =
        Cycle.words a cycles ++ w := by
  -- the closing comes with the end, or it came with a release and the end adds nothing
  obtain ⟨cycles, ⟨hs, htrace, hactive⟩ | ⟨hover, w, hw, htrace⟩⟩ :=
    (performAll_advances a ops s).whenInUse h
  · refine ⟨cycles, _, ?_, by rw [htrace]⟩
    rw [← hactive]
    exact finish_inUse hs
  · obtain ⟨hstate, hnone⟩ := finish_over hover
    refine ⟨cycles, w, ?_, ?_⟩
    · rw [hstate]
      exact hw
    · rw [htrace, hnone]
      exact List.append_nil _

theorem lifetime_of_error {lib : Library} {f : Failure} (h : (start lib).value = .error f)
    (ops : List Operation) :
    (lifetime lib ops).value = none ∧ (lifetime lib ops).trace = (start lib).trace := by
  simp only [lifetime, Traced.value_bind, Traced.trace_bind, h]
  exact ⟨rfl, List.append_nil _⟩

theorem lifetime_of_ok {lib : Library} {s : Session Library} (h : (start lib).value = .ok s)
    (ops : List Operation) :
    (lifetime lib ops).value = some (finish (performAll ops s).value.2).value.2 ∧
      (lifetime lib ops).trace = (start lib).trace ++ ((performAll ops s).trace ++
        (finish (performAll ops s).value.2).trace) := by
  simp only [lifetime, Traced.value_bind, Traced.trace_bind, h]
  refine ⟨rfl, ?_⟩
  rw [Traced.trace_pure, List.append_nil]

/--
**What a session leaves of the lifecycle is a `LifeWord`.** Over every loaded library,
whatever it serves, and every history of operations:

* the first call opens the adapter group, which is closed if it was handed out, and the last
  call unloads the library;
* in between at most one device is opened, which is closed if it was handed out;
* in between there are cycles: an activation that is refused, or one that is accepted with
  the clocks, the window and a deactivation after it;
* one more deactivation, that of the selected set, comes before the closing of the device if
  and only if the last deactivation of the cycles has failed.
-/
theorem lifecycle_lifetime {loader : Loader} {candidates : List Path} {lib : Library}
    (hload : (Library.load loader candidates).value = .ok lib) (ops : List Operation) :
    LifeWord ((lifetime lib ops).value.bind selected) (lifetime lib ops).trace.lifecycle := by
  obtain ⟨path, script, rfl⟩ := Library.loaded_of_load hload
  cases opensAll_openAll { path, vendor := .fresh script } rfl rfl rfl with
  | refused f code given hf hs hno ht =>
    -- a start that fails releases the session itself, and no operation follows
    obtain ⟨hvalue, hstart⟩ := start_error hf
    obtain ⟨hnone, htrace⟩ := lifetime_of_error hvalue ops
    obtain ⟨⟨_, hrelease⟩, hover⟩ := release_idle hs
    obtain ⟨-, hfinish⟩ := finish_of_gone hover.gone
    rw [hnone, htrace, hstart, Trace.lifecycle_append, ht, hfinish, hrelease]
    exact .refused code given hno
  | failed f word hf hs hw ht =>
    obtain ⟨hvalue, hstart⟩ := start_error hf
    obtain ⟨hnone, htrace⟩ := lifetime_of_error hvalue ops
    obtain ⟨⟨code, hrelease⟩, hover⟩ := release_idle hs
    obtain ⟨-, hfinish⟩ := finish_of_gone hover.gone
    rw [hnone, htrace, hstart, Trace.lifecycle_append, ht, hfinish, hrelease]
    exact .used word code hw
  | opened i hf hs hactive ht =>
    -- nothing is owed at the start, so the cycles alone decide about the last deactivation
    obtain ⟨hvalue, hstart⟩ := start_ok hf
    obtain ⟨hsome, htrace⟩ := lifetime_of_ok hvalue ops
    obtain ⟨cycles, w, ⟨last, code, code', hlast, rfl⟩, hcourse⟩ := course_to_end hs ops
    rw [hactive] at hlast
    have hword := LifeWord.used _ code' (DeviceWord.used i cycles last code hlast)
    rw [hsome, htrace, hstart, Trace.lifecycle_append, Trace.lifecycle_append, ht, hcourse]
    simpa using hword

/-- Two samples of the first set, whose deactivation fails, and a release after the second set
is selected. -/
theorem lifecycle_lifetime_twoSets :
    (Library.load (fun _ => .opens Library.twoSets) [⟨[]⟩]).value = .ok Library.ofTwoSets ∧
    LifeWord (some ⟨0, 1⟩)
      (lifetime Library.ofTwoSets [.select, .sample, .select, .release]).trace.lifecycle := by
  have hload : (Library.load (fun _ => .opens Library.twoSets) [⟨[]⟩]).value =
      .ok Library.ofTwoSets := rfl
  have hselected : (lifetime Library.ofTwoSets [.select, .sample, .select, .release]).value.bind
      selected = some ⟨0, 1⟩ := by decide +kernel
  refine ⟨hload, ?_⟩
  rw [← hselected]
  exact lifecycle_lifetime hload [.select, .sample, .select, .release]

end Session
end GpuMonitor
