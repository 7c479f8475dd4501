import GpuMonitor.Proofs.Library

/-!
# The end of a library

Between its loading and its unloading a library answers requests by calls into the metrics
library (`Serving`); afterwards it answers without any (`Gone`).

* `perform_of_gone`: what is answered once the library is unloaded.
* `serving_perform`: no request but the one to unload unloads the library.

Main result:

* `unloaded_once_and_last`: over every history of requests a library is unloaded exactly
  once, nothing reaches it afterwards, and every later answer is `answerWhenGone`.
-/

namespace GpuMonitor

open Vendor

variable {α : Type}

/-- A history goes on from where its first part has ended. -/
theorem Gateway.performAll_append {γ : Type} [Gateway γ] (xs ys : List Gateway.Request) (g : γ) :
    (performAll (xs ++ ys) g).value.2 = (performAll ys (performAll xs g).value.2).value.2 := by
  induction xs generalizing g with
  | nil => rfl
  | cons r rest ih => exact ih _

namespace Library

/-! ## After the end -/

/-- The library is unloaded, and nothing of it is open. -/
structure Gone (lib : Library) : Prop where
  loaded : lib.loaded = false
  groupOpen : lib.groupOpen = false
  device : lib.device = none

end Library

/-- What a request is answered once the library is unloaded. -/
def Gateway.Request.answerWhenGone : Gateway.Request → Gateway.Reply
  | .openAdapters => .opened (.error .errorGeneral)
  | .readAdapterGroup => .adapterGroup none
  | .readAdapter _ => .adapter none
  | .openDevice _ => .opened (.error .errorInvalidParameter)
  | .readDevice => .device none
  | .readConcurrentGroup _ => .concurrentGroup none
  | .readMetricSet _ => .metricSet none
  | .readMetric _ _ => .metric none
  | .activate _ | .deactivate _ => .code .errorInvalidParameter
  | .readClocks => .clocks (.error .errorGeneral)
  | .closeDevice | .closeAdapters => .code .ok
  | .unload => .done

namespace Library

/-- Once the library is unloaded a request is answered without a call, and nothing changes. -/
theorem perform_of_gone {lib : Library} (h : lib.Gone) (r : Gateway.Request) :
    Gateway.perform r lib = { value := (r.answerWhenGone, lib) } := by
  obtain ⟨path, vendor, loaded, groupOpen, device⟩ := lib
  obtain ⟨rfl, rfl, rfl⟩ := h
  cases r <;> rfl

theorem performAll_of_gone {lib : Library} (h : lib.Gone) (requests : List Gateway.Request) :
    Gateway.performAll requests lib =
      { value := (requests.map Gateway.Request.answerWhenGone, lib) } := by
  induction requests with
  | nil => rfl
  | cons r rest ih =>
    apply Traced.ext' <;> simp [Gateway.performAll, perform_of_gone h, ih]

theorem unload_of_gone {lib : Library} (h : lib.Gone) : unload lib = { value := ((), lib) } := by
  obtain ⟨path, vendor, loaded, groupOpen, device⟩ := lib
  obtain ⟨rfl, rfl, rfl⟩ := h
  rfl

/-! ## Before the end -/

/-- The library stays loaded, and is not unloaded meanwhile. -/
def Serving (lib : Library) (t : Trace) (lib' : Library) : Prop :=
  lib'.loaded = lib.loaded ∧ .unload ∉ t.calls

theorem composes_serving : Composes Serving where
  nil _ := ⟨rfl, by simp [Trace.calls]⟩
  append h h' := ⟨h'.1.trans h.1, by simp [Trace.calls_append, h.2, h'.2]⟩

theorem unload_not_mem_calls {t : Trace} (h : ∀ e ∈ t, e.isService = true) :
    Call.unload ∉ t.calls := by
  intro hmem
  obtain ⟨e, he, hcall⟩ := List.mem_filterMap.1 hmem
  have hs := h e he
  cases e with
  | vendor call =>
    obtain rfl : call = .unload := by simpa [Event.call?] using hcall
    cases hs
  | _ => cases hcall

theorem Using.serving {lib lib' : Library} {t : Trace}
    (h : Using (·.isService) lib t lib') : Serving lib t lib' :=
  ⟨(open_of_lasting h.1).1, unload_not_mem_calls h.2⟩

theorem serving_of_service {m : Action Library α} (h : Obeys (Using (·.isService)) m) :
    Obeys Serving m := fun lib => (h lib).serving

theorem handling_serving : Handling Serving := by
  refine .of_services composes_serving (fun lib lib' _ hl => ?_) (fun lib => ?_) serving_of_service
  · exact ⟨hl, by simp [Trace.calls]⟩
  · -- the entry point serves another tree, and the library is loaded as before
    exact ⟨rfl, unload_not_mem_calls (by simp [onVendor, State.openAdapters, Event.isService])⟩

/-- No request but the last one unloads the library. -/
theorem serving_perform {r : Gateway.Request} (hr : r ≠ .unload) :
    Obeys Serving (Gateway.perform (γ := Library) r) :=
  obeys_perform handling_serving serving_of_service hr

/-! ## Unloading -/

theorem gone_letGo {lib : Library} (hg : lib.groupOpen = false) (hd : lib.device = none) :
    Gone (letGo lib).value.2 := by
  cases hl : lib.loaded with
  | false =>
    rw [letGo_of_unloaded hl]
    exact ⟨hl, hg, hd⟩
  | true =>
    rw [letGo_of_loaded hl]
    exact ⟨rfl, hg, hd⟩

theorem gone_unload (lib : Library) : Gone (unload lib).value.2 := by
  obtain ⟨hd, -, -⟩ := closeDevice_closes lib
  obtain ⟨hg, -, hd'⟩ := closeAdapters_closes (closeDevice lib).value.2
  simp only [unload, Action.value_bind, value_warnUnlessOk]
  exact gone_letGo hg (hd'.trans hd)

/-- Unloading a loaded library ends with letting it go, and lets it go once. -/
theorem calls_unload {lib : Library} (hl : lib.loaded = true) :
    ∃ before, (unload lib).trace.calls = before ++ [.unload] ∧ Call.unload ∉ before := by
  obtain ⟨-, hld, -⟩ := closeDevice_closes lib
  obtain ⟨-, hlg, -⟩ := closeAdapters_closes (closeDevice lib).value.2
  have hlast := letGo_of_loaded (hlg.trans (hld.trans hl))
  -- what is still open is closed before the library is let go, by calls that do not unload it
  refine ⟨(closeDevice lib).trace.calls ++ (closeAdapters (closeDevice lib).value.2).trace.calls,
    ?_, ?_⟩
  · simp only [unload, Action.trace_bind, value_warnUnlessOk, Trace.calls_append,
      calls_warnUnlessOk, hlast, calls_unloading, List.nil_append, List.append_assoc]
  · rw [List.mem_append, not_or]
    exact ⟨(obeys_closeDevice handling_serving _).2, (obeys_closeAdapters handling_serving _).2⟩

/-- With nothing open, letting the library go is all there is to unloading it. -/
theorem trace_unload {lib : Library} (hl : lib.loaded = true) (hg : lib.groupOpen = false)
    (hd : lib.device = none) : (unload lib).trace = lib.unloading := by
  have hdevice : closeDevice lib = { value := (.ok, lib) } := by
    apply Traced.ext' <;> simp [closeDevice, hd]
  have hgroup : closeAdapters lib = { value := (.ok, lib) } := by
    apply Traced.ext' <;> simp [closeAdapters, hg]
  simp [unload, hdevice, hgroup, letGo_of_loaded hl, trace_warnUnlessOk, CompletionCode.isOk]

/-! ## Whole histories -/

/-- A history of a library from its loading to its end, at which it is unloaded if it has not
been unloaded before. -/
def lifetime (requests : List Gateway.Request) : Action Library (List Gateway.Reply) := do
  let replies ← Gateway.performAll requests
  unload
  return replies

theorem calls_lifetime {lib : Library} (hl : lib.loaded = true)
    (requests : List Gateway.Request) :
    ∃ before, (lifetime requests lib).trace.calls = before ++ [.unload] ∧
      Call.unload ∉ before := by
  -- on the requests; the library is loaded until the first one that unloads it
  induction requests generalizing lib with
  | nil =>
    obtain ⟨before, hcalls, hbefore⟩ := calls_unload hl
    exact ⟨before, by simpa [lifetime, Gateway.performAll] using hcalls, hbefore⟩
  | cons r rest ih =>
    have hsplit : (lifetime (r :: rest) lib).trace =
        (Gateway.perform r lib).trace ++
          (lifetime rest (Gateway.perform r lib).value.2).trace := by
      simp [lifetime, Gateway.performAll]
    by_cases hr : r = .unload
    · -- the rest of the history finds the library gone, and makes no call
      subst hr
      obtain ⟨before, hcalls, hbefore⟩ := calls_unload hl
      have hgone : Gone (Gateway.perform (γ := Library) .unload lib).value.2 := gone_unload lib
      have hrest :
          (lifetime rest (Gateway.perform (γ := Library) .unload lib).value.2).trace = [] := by
        simp only [lifetime, Action.trace_bind, performAll_of_gone hgone, unload_of_gone hgone]
        rfl
      refine ⟨before, ?_, hbefore⟩
      rw [hsplit, hrest, List.append_nil]
      exact hcalls
    · -- the request leaves the library loaded, so the rest of the history unloads it
      obtain ⟨hloaded, hnone⟩ := serving_perform hr lib
      obtain ⟨before, hcalls, hbefore⟩ := ih (hloaded.trans hl)
      refine ⟨(Gateway.perform r lib).trace.calls ++ before, ?_, ?_⟩
      · rw [hsplit, Trace.calls_append, hcalls, List.append_assoc]
      · rw [List.mem_append, not_or]
        exact ⟨hnone, hbefore⟩

/-- A library that is loaded is the one that some path opens, and nothing was asked of it yet. -/
theorem opens_of_load {loader : Loader} {candidates : List Path} {lib : Library}
    (hload : (load loader candidates).value = .ok lib) :
    ∃ path script, loader path = .opens script ∧ lib = { path, vendor := .fresh script } := by
  -- for any candidates tried before, which only matter for the failure
  suffices h : ∀ tried rest, (loadAfter loader tried rest).value = .ok lib →
      ∃ path script, loader path = .opens script ∧ lib = { path, vendor := .fresh script } from
    h [] candidates hload
  intro tried rest h
  induction rest generalizing tried with
  | nil => cases h
  | cons path rest ih =>
    simp only [loadAfter] at h
    split at h
    · exact ih _ h
    · cases h
    · next script hopens =>
      cases h
      exact ⟨path, script, hopens, rfl⟩

theorem loaded_of_load {loader : Loader} {candidates : List Path} {lib : Library}
    (hload : (load loader candidates).value = .ok lib) :
    ∃ path script, lib = { path, vendor := .fresh script } := by
  obtain ⟨path, script, -, hlib⟩ := opens_of_load hload
  exact ⟨path, script, hlib⟩

/--
**A library is unloaded once, and nothing reaches it afterwards.** Over every history of
requests, from a successful loading to the end of the library:

* the last call is the unloading, and no call before it is one;
* after a request to unload, every further request makes no call and changes nothing, and
  its answer is `answerWhenGone`.
-/
theorem unloaded_once_and_last {loader : Loader} {candidates : List Path} {lib : Library}
    (hload : (load loader candidates).value = .ok lib) (requests : List Gateway.Request) :
    (∃ before, (lifetime requests lib).trace.calls = before ++ [.unload] ∧
      Call.unload ∉ before) ∧
    ∀ earlier later, requests = earlier ++ .unload :: later →
      let gone := (Gateway.performAll (earlier ++ [.unload]) lib).value.2
      Gateway.performAll later gone =
        { value := (later.map Gateway.Request.answerWhenGone, gone) } := by
  obtain ⟨path, script, rfl⟩ := loaded_of_load hload
  refine ⟨calls_lifetime rfl requests, fun earlier later _ => performAll_of_gone ?_ later⟩
  rw [Gateway.performAll_append]
  exact gone_unload _

/-- A metrics library with one adapter, whose device has two metric sets of the one metric
`RenderBusy`. The first set gives its parameters twice, and its first deactivation fails. -/
def twoSets : Script where
  group := { adapterCount := 1, adapters := [some adapter] }
where
  metric : Metric := { symbolName := some [82, 101, 110, 100, 101, 114, 66, 117, 115, 121] }
  first : MetricSet :=
    { metricCount := 1
      metrics := [some metric]
      deactivation := [42, 0]
      availability := .reads 2 }
  second : MetricSet := { metricCount := 1, metrics := [some metric] }
  adapter : Adapter :=
    { vendorId := 0x8086
      deviceId := 0x5917
      device :=
        { groupCount := 1, groups := [some { setCount := 2, sets := [some first, some second] }] } }

/-- That library, loaded. -/
def ofTwoSets : Library := { path := ⟨[]⟩, vendor := .fresh twoSets }

/-- The library is unloaded under an open device, and then asked for everything again. -/
theorem unloaded_once_and_last_twoSets :
    (load (fun _ => .opens twoSets) [⟨[]⟩]).value = .ok ofTwoSets ∧
    (∃ before, (lifetime [.openAdapters, .openDevice 0, .activate ⟨0, 0⟩, .unload, .openAdapters,
        .openDevice 0, .readDevice, .readClocks, .unload] ofTwoSets).trace.calls =
      before ++ [.unload] ∧ Call.unload ∉ before) ∧
    (Gateway.performAll [.openAdapters, .openDevice 0, .readDevice, .readClocks, .unload]
        (Gateway.performAll [.openAdapters, .openDevice 0, .activate ⟨0, 0⟩, .unload]
          ofTwoSets).value.2).value.1 =
      [.opened (.error .errorGeneral), .opened (.error .errorInvalidParameter), .device none,
        .clocks (.error .errorGeneral), .done] := by
  have hload : (load (fun _ => .opens twoSets) [⟨[]⟩]).value = .ok ofTwoSets := rfl
  obtain ⟨honce, hafter⟩ := unloaded_once_and_last hload
    [.openAdapters, .openDevice 0, .activate ⟨0, 0⟩, .unload, .openAdapters, .openDevice 0,
      .readDevice, .readClocks, .unload]
  have hgone := hafter [.openAdapters, .openDevice 0, .activate ⟨0, 0⟩]
    [.openAdapters, .openDevice 0, .readDevice, .readClocks, .unload] rfl
  refine ⟨hload, honce, ?_⟩
  exact congrArg (fun run => run.value.1) hgone

end Library
end GpuMonitor
