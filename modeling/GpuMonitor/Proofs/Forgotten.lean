import GpuMonitor.Proofs.Holding

/-!
# Devices that are closed, and devices that are forgotten

A library closes the one device that it holds. A device that is handed out while another one
is held takes its place, and the other one is never closed.

* `forgotten`: the adapters of the devices whose place is taken in a history, in order.
* `Balanced`: what is opened and what was held make up what is closed, what is forgotten and
  what is still held, adapter by adapter. One request obeys it (`balanced_perform`), and so
  does a history (`balanced_performAll`).

Main result:

* `opened_are_closed_iff`: over a whole lifetime each device that is handed out is either
  closed or forgotten; so all are closed if and only if none is forgotten.
-/

namespace GpuMonitor

open Vendor

namespace Vendor.Call

/-- The call hands out the device of an adapter. -/
def opens (i : Nat) (c : Call) : Bool := c = .openDevice i .ok true

/-- The call closes the device of an adapter. -/
def closes (i : Nat) : Call → Bool
  | .closeDevice j _ => j = i
  | _ => false

theorem not_opens_of_within {held : Option Nat} {c : Call} (h : c.Within held) (i : Nat) :
    c.opens i = false := by
  refine decide_eq_false fun hc => ?_
  subst hc
  cases h.1

theorem not_closes_of_within {held : Option Nat} {c : Call} (h : c.Within held) (i : Nat) :
    c.closes i = false := by
  unfold closes
  split
  · cases h.1
  · rfl

end Vendor.Call

namespace Library

/-! ## What is forgotten -/

/-- The adapter of the device whose place another one takes by a request. -/
def forgets? (lib : Library) : Gateway.Request → Option Nat
  | .openDevice i =>
    match (openDevice i lib).value.1 with
    | .ok () => lib.holding
    | .error _ => none
  | _ => none

/-- The adapters of the devices that are forgotten in a history, in order. -/
def forgotten : List Gateway.Request → Library → List Nat
  | [], _ => []
  | r :: rest, lib => (lib.forgets? r).toList ++ forgotten rest (Gateway.perform r lib).value.2

/-! ## The balance of a step -/

/-- What is opened and what was held is as much as what is closed, what is forgotten and what is
still held, for each adapter. -/
def Balanced (lost : List Nat) (lib : Library) (t : Trace) (lib' : Library) : Prop :=
  lib.Rooted → lib'.Rooted ∧ ∀ i,
    t.calls.countP (Call.opens i) + lib.holding.toList.count i =
      t.calls.countP (Call.closes i) + lost.count i + lib'.holding.toList.count i

theorem Balanced.append {lost lost' : List Nat} {lib lib' lib'' : Library} {t u : Trace}
    (h : Balanced lost lib t lib') (h' : Balanced lost' lib' u lib'') :
    Balanced (lost ++ lost') lib (t ++ u) lib'' := by
  intro hr
  obtain ⟨hr', hcount⟩ := h hr
  obtain ⟨hr'', hcount'⟩ := h' hr'
  refine ⟨hr'', fun i => ?_⟩
  have hi := hcount i
  have hi' := hcount' i
  rw [Trace.calls_append, List.countP_append, List.countP_append, List.count_append]
  omega

theorem composes_balanced : Composes (Balanced []) where
  nil _ hr := ⟨hr, fun i => by simp [Trace.calls]⟩
  append h h' := h.append h'

/-- What keeps to the held device opens and closes nothing. -/
theorem Keeping.balanced {lib lib' : Library} {t : Trace} (h : Keeping lib t lib') :
    Balanced [] lib t lib' := by
  intro hr
  obtain ⟨hr', hheld, hcalls⟩ := h hr
  refine ⟨hr', fun i => ?_⟩
  have hopen : t.calls.countP (Call.opens i) = 0 := by
    rw [List.countP_eq_zero]
    intro c hc
    simp [Call.not_opens_of_within (hcalls c hc) i]
  have hclose : t.calls.countP (Call.closes i) = 0 := by
    rw [List.countP_eq_zero]
    intro c hc
    simp [Call.not_closes_of_within (hcalls c hc) i]
  rw [hopen, hclose, hheld]
  simp

theorem balanced_closeDevice : Obeys (Balanced []) closeDevice := by
  intro lib hr
  rcases closeDevice_cases hr with ⟨-, hnone⟩ | ⟨a, code, hheld, hcalls, hnone⟩
  · rw [hnone]
    exact composes_balanced.nil lib hr
  · have hdevice : (closeDevice lib).value.2.device = none := (closeDevice_closes lib).1
    refine ⟨rooted_of_none hdevice, fun i => ?_⟩
    rw [hcalls, hheld, hnone]
    by_cases hi : a = i <;> simp [Call.opens, Call.closes, hi]

theorem balanced_closeAdapters : Obeys (Balanced []) closeAdapters := by
  intro lib hr
  rcases closeAdapters_cases lib with ⟨-, hnone⟩ | ⟨-, ⟨code, hcalls⟩, hheld, hrooted⟩
  · rw [hnone]
    exact composes_balanced.nil lib hr
  · refine ⟨hrooted hr, fun i => ?_⟩
    rw [hcalls, hheld]
    simp [Call.opens, Call.closes]

theorem balanced_openDevice (j : Nat) (lib : Library) :
    Balanced (lib.forgets? (.openDevice j)).toList lib (openDevice j lib).trace
      (openDevice j lib).value.2 := by
  rcases openDevice_cases j lib with ⟨hfail, hkeep⟩ | ⟨hok, hcalls, hrooted, hheld⟩
  · have hnone : lib.forgets? (.openDevice j) = none := by
      cases hv : (openDevice j lib).value.1 with
      | error code => simp [forgets?, hv]
      | ok u => exact absurd hv hfail
    rw [hnone]
    exact hkeep.balanced
  · -- the device that was held is the one forgotten, and the new one is held in its place
    have hlost : lib.forgets? (.openDevice j) = lib.holding := by simp [forgets?, hok]
    refine fun _ => ⟨hrooted, fun i => ?_⟩
    rw [hcalls, hlost, hheld]
    by_cases hi : j = i <;> simp [Call.opens, Call.closes, hi]
    omega

theorem balanced_unload : Obeys (Balanced []) unload := by
  have hwarn (what : String) (code : CompletionCode) :
      Obeys (Balanced []) (warnUnlessOk (σ := Library) what code) := fun lib =>
    (keeping_warnUnlessOk what code lib).balanced
  refine obeys_bind composes_balanced balanced_closeDevice fun code => ?_
  refine obeys_bind composes_balanced (hwarn _ _) fun _ => ?_
  refine obeys_bind composes_balanced balanced_closeAdapters fun code' => ?_
  refine obeys_bind composes_balanced (hwarn _ _) fun _ => ?_
  exact fun lib => (keeping_letGo lib).balanced

/-- A request closes and forgets what it opens and what was held, up to what it leaves held. -/
theorem balanced_perform (r : Gateway.Request) (lib : Library) :
    Balanced (lib.forgets? r).toList lib (Gateway.perform r lib).trace
      (Gateway.perform r lib).value.2 := by
  cases r with
  | openDevice i => exact balanced_openDevice i lib
  | closeDevice => exact balanced_closeDevice lib
  | closeAdapters => exact balanced_closeAdapters lib
  | unload => exact balanced_unload lib
  | _ =>
    show Balanced [] lib _ _
    exact (keeping_perform rfl lib).balanced

theorem balanced_performAll (requests : List Gateway.Request) (lib : Library) :
    Balanced (forgotten requests lib) lib (Gateway.performAll requests lib).trace
      (Gateway.performAll requests lib).value.2 := by
  -- on the requests; the rest is balanced from the library that the first one leaves
  induction requests generalizing lib with
  | nil => exact composes_balanced.nil lib
  | cons r rest ih =>
    have hrest := (balanced_perform r lib).append (ih (Gateway.perform r lib).value.2)
    simpa [Gateway.performAll, forgotten] using hrest

/-! ## Whole lifetimes -/

/-- Over a lifetime, which begins and ends with nothing held, all that is opened is closed or
forgotten. -/
theorem opened_eq_closed_add_forgotten {lib : Library} (hd : lib.device = none)
    (requests : List Gateway.Request) (i : Nat) :
    (lifetime requests lib).trace.calls.countP (Call.opens i) =
      (lifetime requests lib).trace.calls.countP (Call.closes i) +
        (forgotten requests lib).count i := by
  have hall := (balanced_performAll requests lib).append
    (balanced_unload (Gateway.performAll requests lib).value.2)
  obtain ⟨-, hcount⟩ := hall (rooted_of_none hd)
  have hend := (gone_unload (Gateway.performAll requests lib).value.2).device
  simpa [lifetime, holding, hd, hend] using hcount i

/--
**Every device is closed, unless its place is taken.** Over every history of requests, from a
successful loading to the end of the library, and for each adapter:

* the devices handed out are as many as those closed and those forgotten, where a device is
  forgotten if another one is handed out while it is open;
* so each device that is handed out is closed if and only if none is forgotten.
-/
theorem opened_are_closed_iff {loader : Loader} {candidates : List Path} {lib : Library}
    (hload : (load loader candidates).value = .ok lib) (requests : List Gateway.Request) :
    let calls := (lifetime requests lib).trace.calls
    (∀ i, calls.countP (Call.opens i) =
      calls.countP (Call.closes i) + (forgotten requests lib).count i) ∧
    ((∀ i, calls.countP (Call.closes i) = calls.countP (Call.opens i)) ↔
      forgotten requests lib = []) := by
  obtain ⟨path, script, rfl⟩ := loaded_of_load hload
  intro calls
  have hcount (i : Nat) : calls.countP (Call.opens i) =
      calls.countP (Call.closes i) +
        (forgotten requests { path, vendor := .fresh script }).count i :=
    opened_eq_closed_add_forgotten rfl requests i
  refine ⟨hcount, fun hclosed => ?_, fun hnone i => ?_⟩
  · -- a device that is forgotten would be missing from the count of its adapter
    rw [List.eq_nil_iff_forall_not_mem]
    intro i hi
    have hpos := List.count_pos_iff.2 hi
    have := hcount i
    have := hclosed i
    omega
  · have := hcount i
    rw [hnone] at this
    exact this.symm

/-- A metrics library with two adapters, whose devices have nothing to measure. -/
def twoAdapters : Script where
  group := { adapterCount := 2, adapters := [some adapter, some adapter] }
where
  adapter : Adapter := { vendorId := 0x8086, deviceId := 0x5917 }

/-- That library, loaded. -/
def ofTwoAdapters : Library := { path := ⟨[]⟩, vendor := .fresh twoAdapters }

/-- Both devices are opened and closed one after the other, and nothing is forgotten. -/
theorem opened_are_closed_twoAdapters :
    (load (fun _ => .opens twoAdapters) [⟨[]⟩]).value = .ok ofTwoAdapters ∧
    ∀ i, (lifetime [.openAdapters, .openDevice 0, .closeDevice, .openDevice 1]
        ofTwoAdapters).trace.calls.countP (Call.closes i) =
      (lifetime [.openAdapters, .openDevice 0, .closeDevice, .openDevice 1]
        ofTwoAdapters).trace.calls.countP (Call.opens i) := by
  have hload : (load (fun _ => .opens twoAdapters) [⟨[]⟩]).value = .ok ofTwoAdapters := rfl
  obtain ⟨-, hclosed⟩ := opened_are_closed_iff hload
    [.openAdapters, .openDevice 0, .closeDevice, .openDevice 1]
  exact ⟨hload, hclosed.2 rfl⟩

/-- The second device takes the place of the first one, which is opened and never closed. -/
theorem device_forgotten_twoAdapters :
    (load (fun _ => .opens twoAdapters) [⟨[]⟩]).value = .ok ofTwoAdapters ∧
    (lifetime [.openAdapters, .openDevice 0, .openDevice 1] ofTwoAdapters).trace.calls =
      [.openAdapters .ok true, .find (.adapter 0) true, .openDevice 0 .ok true,
        .find (.adapter 1) true, .openDevice 1 .ok true, .closeDevice 1 .ok, .closeAdapters .ok,
        .unload] ∧
    ¬ ∀ i, (lifetime [.openAdapters, .openDevice 0, .openDevice 1]
        ofTwoAdapters).trace.calls.countP (Call.closes i) =
      (lifetime [.openAdapters, .openDevice 0, .openDevice 1]
        ofTwoAdapters).trace.calls.countP (Call.opens i) := by
  refine ⟨rfl, rfl, fun h => ?_⟩
  have h0 := h 0
  revert h0
  decide

end Library
end GpuMonitor
