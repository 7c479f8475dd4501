import GpuMonitor.Proofs.Holding

/-!
# The device before its adapter group

The release order of a library puts the device before the adapter group that it was opened
from. The requests of a history can come in any order, and not all orders respect this.

* `DeviceFirst`: what the order means for the calls of a run.
* `InOrder`: the same read off call by call, with the held device as the state. It is split
  and put together along `++`, and it gives `DeviceFirst` (`deviceFirst_of_inOrder`).
* `Library.undisturbed`: no request closes the adapter group or hands out a device while a
  device is held. Each such request keeps the calls in order (`orderly_perform`).

Main result:

* `deviceFirst_iff_undisturbed`: the calls of a whole lifetime respect the order if and only if
  the history is undisturbed.
-/

namespace GpuMonitor

open Vendor

namespace Vendor

/-! ## The order of the calls of a run -/

/-- Each device is closed before its adapter group, and is not used afterwards. -/
structure DeviceFirst (calls : List Call) : Prop where
  /-- After a device is handed out its closing comes before another device is handed out or
  closed, and before the adapter group is closed. -/
  closed : ∀ before i after, calls = before ++ .openDevice i .ok true :: after →
    ∃ code, after.find? Call.turns = some (.closeDevice i code)
  /-- After the adapter group is closed no device is used but one handed out since. -/
  unused : ∀ before code between c after i,
    calls = before ++ .closeAdapters code :: (between ++ c :: after) → c.device? = some i →
      .openDevice i .ok true ∈ between

/-- Calls in order, from what is held before them to what is held after them. -/
inductive InOrder : Option Nat → List Call → Option Nat → Prop where
  | nil (held : Option Nat) : InOrder held [] held
  | within {held held' : Option Nat} {c : Call} {rest : List Call} (h : c.Within held) :
      InOrder held rest held' → InOrder held (c :: rest) held'
  | opening {i : Nat} {held' : Option Nat} {rest : List Call} :
      InOrder (some i) rest held' → InOrder none (.openDevice i .ok true :: rest) held'
  | closing {i : Nat} {code : CompletionCode} {held' : Option Nat} {rest : List Call} :
      InOrder none rest held' → InOrder (some i) (.closeDevice i code :: rest) held'
  | closingAdapters {code : CompletionCode} {held' : Option Nat} {rest : List Call} :
      InOrder none rest held' → InOrder none (.closeAdapters code :: rest) held'

namespace InOrder

variable {held held' held'' : Option Nat} {calls more : List Call} {i : Nat}

theorem of_within (h : ∀ c ∈ calls, c.Within held) : InOrder held calls held := by
  induction calls with
  | nil => exact .nil held
  | cons c rest ih =>
    exact .within (h c (List.mem_cons_self ..)) (ih fun d hd => h d (List.mem_cons_of_mem _ hd))

theorem append (h : InOrder held calls held') (h' : InOrder held' more held'') :
    InOrder held (calls ++ more) held'' := by
  induction h with
  | nil held => exact h'
  | within hc _ ih => exact .within hc (ih h')
  | opening _ ih => exact .opening (ih h')
  | closing _ ih => exact .closing (ih h')
  | closingAdapters _ ih => exact .closingAdapters (ih h')

theorem split (h : InOrder held (calls ++ more) held'') :
    ∃ held', InOrder held calls held' ∧ InOrder held' more held'' := by
  induction calls generalizing held with
  | nil => exact ⟨held, .nil held, h⟩
  | cons c rest ih =>
    cases h with
    | within hc hrest =>
      obtain ⟨held', hleft, hright⟩ := ih hrest
      exact ⟨held', .within hc hleft, hright⟩
    | opening hrest =>
      obtain ⟨held', hleft, hright⟩ := ih hrest
      exact ⟨held', .opening hleft, hright⟩
    | closing hrest =>
      obtain ⟨held', hleft, hright⟩ := ih hrest
      exact ⟨held', .closing hleft, hright⟩
    | closingAdapters hrest =>
      obtain ⟨held', hleft, hright⟩ := ih hrest
      exact ⟨held', .closingAdapters hleft, hright⟩

/-- A held device is closed before anything else turns, if none is held in the end. -/
theorem closed_first (h : InOrder (some i) calls none) :
    ∃ code, calls.find? Call.turns = some (.closeDevice i code) := by
  -- a call within the held device leaves it held; only its closing ends that
  induction calls with
  | nil => cases h
  | cons c rest ih =>
    cases h with
    | within hc hrest =>
      obtain ⟨code, hfind⟩ := ih hrest
      exact ⟨code, by rw [List.find?_cons_of_neg (by simp [hc.1]), hfind]⟩
    | closing hrest => exact ⟨_, List.find?_cons_of_pos rfl⟩

/-- What is held in the end was held from the start, or was handed out and nothing has turned
since. -/
theorem last_opened (h : InOrder held calls (some i)) :
    (held = some i ∧ calls.find? Call.turns = none) ∨
    ∃ before since, calls = before ++ .openDevice i .ok true :: since ∧
      since.find? Call.turns = none := by
  induction calls generalizing held with
  | nil =>
    cases h
    exact .inl ⟨rfl, rfl⟩
  | cons c rest ih =>
    -- a device handed out later is found in the rest, whatever the first call does
    have hlater (hex : ∃ before since, rest = before ++ .openDevice i .ok true :: since ∧
        since.find? Call.turns = none) :
        ∃ before since, c :: rest = before ++ .openDevice i .ok true :: since ∧
          since.find? Call.turns = none := by
      obtain ⟨before, since, hrest, hsince⟩ := hex
      exact ⟨c :: before, since, by rw [hrest]; rfl, hsince⟩
    cases h with
    | within hc hrest =>
      rcases ih hrest with ⟨hheld, hnone⟩ | hex
      · exact .inl ⟨hheld, by rw [List.find?_cons_of_neg (by simp [hc.1]), hnone]⟩
      · exact .inr (hlater hex)
    | opening hrest =>
      rcases ih hrest with ⟨hheld, hnone⟩ | hex
      · obtain rfl := Option.some.inj hheld
        exact .inr ⟨[], rest, rfl, hnone⟩
      · exact .inr (hlater hex)
    | closing hrest | closingAdapters hrest =>
      rcases ih hrest with ⟨hheld, -⟩ | hex
      · cases hheld
      · exact .inr (hlater hex)

/-- A call goes through the held device or none. -/
theorem held_of_device {c : Call} (h : InOrder held (c :: calls) held') (hc : c.device? = some i) :
    held = some i := by
  cases h with
  | within hw _ => exact hw.2 i hc
  | opening _ => cases hc
  | closing _ => exact hc
  | closingAdapters _ => cases hc

end InOrder

/-- Calls in order, with nothing held before and after, respect the order. -/
theorem deviceFirst_of_inOrder {calls : List Call} (h : InOrder none calls none) :
    DeviceFirst calls where
  closed := by
    rintro before i after rfl
    obtain ⟨held, -, hrest⟩ := h.split
    cases hrest with
    | within hw _ => cases hw.1
    | opening hafter => exact hafter.closed_first
  unused := by
    rintro before code between c after i rfl hc
    obtain ⟨held, -, hrest⟩ := h.split
    cases hrest with
    | within hw _ => cases hw.1
    | closingAdapters hrest =>
      obtain ⟨held', hbetween, hafter⟩ := hrest.split
      obtain rfl := hafter.held_of_device hc
      -- with nothing held at the closing of the group, the device was handed out since
      rcases hbetween.last_opened with ⟨hheld, -⟩ | ⟨earlier, since, rfl, -⟩
      · cases hheld
      · simp

end Vendor

namespace Library

/-! ## Requests that disturb the order -/

/-- The request hands out a device, or closes the adapter group, while a device is held. -/
def disturbs (lib : Library) : Gateway.Request → Bool
  | .openDevice i => lib.holding.isSome && (openDevice i lib).value.1.isOk
  | .closeAdapters => lib.holding.isSome && lib.groupOpen
  | _ => false

/-- No request of a history disturbs the order. -/
def undisturbed : List Gateway.Request → Library → Bool
  | [], _ => true
  | r :: rest, lib => !lib.disturbs r && undisturbed rest (Gateway.perform r lib).value.2

/-- The calls are in order from what is held before to what is held after. -/
def Orderly (lib : Library) (t : Trace) (lib' : Library) : Prop :=
  lib.Rooted → lib'.Rooted ∧ InOrder lib.holding t.calls lib'.holding

theorem composes_orderly : Composes Orderly where
  nil lib hr := ⟨hr, .nil _⟩
  append h h' hr := by
    obtain ⟨hr', horder⟩ := h hr
    obtain ⟨hr'', horder'⟩ := h' hr'
    rw [Trace.calls_append]
    exact ⟨hr'', horder.append horder'⟩

theorem Keeping.orderly {lib lib' : Library} {t : Trace} (h : Keeping lib t lib') :
    Orderly lib t lib' := by
  intro hr
  obtain ⟨hr', hheld, hcalls⟩ := h hr
  rw [hheld]
  exact ⟨hr', .of_within hcalls⟩

theorem orderly_openDevice {i : Nat} {lib : Library}
    (h : lib.disturbs (.openDevice i) = false) :
    Orderly lib (openDevice i lib).trace (openDevice i lib).value.2 := by
  rcases openDevice_cases i lib with ⟨-, hkeep⟩ | ⟨hok, hcalls, hrooted, hheld⟩
  · exact hkeep.orderly
  · have hnone : lib.holding = none := by
      simpa [disturbs, hok, Except.isOk, Except.toBool] using h
    refine fun _ => ⟨hrooted, ?_⟩
    rw [hcalls, hnone, hheld]
    refine .within ⟨rfl, by simp [Call.device?, Object.device?]⟩ (.opening (.nil _))

theorem orderly_closeDevice : Obeys Orderly closeDevice := by
  intro lib hr
  rcases closeDevice_cases hr with ⟨-, hnone⟩ | ⟨a, code, hheld, hcalls, hnone⟩
  · rw [hnone]
    exact composes_orderly.nil lib hr
  · refine ⟨rooted_of_none (closeDevice_closes lib).1, ?_⟩
    rw [hcalls, hheld, hnone]
    exact .closing (.nil _)

theorem orderly_closeAdapters {lib : Library} (h : lib.disturbs .closeAdapters = false) :
    Orderly lib (closeAdapters lib).trace (closeAdapters lib).value.2 := by
  rcases closeAdapters_cases lib with ⟨-, hnone⟩ | ⟨hg, ⟨code, hcalls⟩, hheld, hrooted⟩
  · rw [hnone]
    exact composes_orderly.nil lib
  · have hnone : lib.holding = none := by simpa [disturbs, hg] using h
    refine fun hr => ⟨hrooted hr, ?_⟩
    rw [hcalls, hheld, hnone]
    exact .closingAdapters (.nil _)

/-- Unloading closes the device first, so that none is held when the group is closed. -/
theorem orderly_unload : Obeys Orderly unload := by
  intro lib
  have hnone : (closeDevice lib).value.2.disturbs .closeAdapters = false := by
    simp [disturbs, holding, (closeDevice_closes lib).1]
  have hwarn (what : String) (code : CompletionCode) (lib : Library) :
      Orderly lib (warnUnlessOk what code lib).trace (warnUnlessOk what code lib).value.2 :=
    (keeping_warnUnlessOk what code lib).orderly
  have hlast (lib : Library) : Orderly lib (letGo lib).trace (letGo lib).value.2 :=
    (keeping_letGo lib).orderly
  simp only [unload, Action.trace_bind, Action.value_bind, value_warnUnlessOk]
  refine composes_orderly.append (orderly_closeDevice lib) ?_
  refine composes_orderly.append (by simpa using hwarn _ _ _) ?_
  refine composes_orderly.append (orderly_closeAdapters hnone) ?_
  exact composes_orderly.append (by simpa using hwarn _ _ _) (hlast _)

/-- A request that does not disturb the order keeps the calls in order. -/
theorem orderly_perform {r : Gateway.Request} {lib : Library} (h : lib.disturbs r = false) :
    Orderly lib (Gateway.perform r lib).trace (Gateway.perform r lib).value.2 := by
  cases r with
  | openDevice i => exact orderly_openDevice h
  | closeDevice => exact orderly_closeDevice lib
  | closeAdapters => exact orderly_closeAdapters h
  | unload => exact orderly_unload lib
  | _ => exact (keeping_perform rfl lib).orderly

theorem orderly_performAll {requests : List Gateway.Request} {lib : Library}
    (h : undisturbed requests lib = true) :
    Orderly lib (Gateway.performAll requests lib).trace
      (Gateway.performAll requests lib).value.2 := by
  induction requests generalizing lib with
  | nil => exact composes_orderly.nil lib
  | cons r rest ih =>
    simp only [undisturbed, Bool.and_eq_true, Bool.not_eq_true'] at h
    have hall := composes_orderly.append (orderly_perform h.1) (ih h.2)
    simpa [Gateway.performAll] using hall

/-! ## What a disturbance does -/

/-- The first call of a disturbing request that turns anything does not close the held device. -/
theorem turn_of_disturbs {r : Gateway.Request} {lib : Library} (h : lib.disturbs r = true) :
    ∃ c, (Gateway.perform r lib).trace.calls.find? Call.turns = some c ∧
      ∀ i code, c ≠ .closeDevice i code := by
  cases r with
  | openDevice i =>
    simp only [disturbs, Bool.and_eq_true] at h
    rcases openDevice_cases i lib with ⟨hfail, -⟩ | ⟨-, hcalls, -, -⟩
    · cases hv : (openDevice i lib).value.1 with
      | error code => simp [hv, Except.isOk, Except.toBool] at h
      | ok u => exact absurd hv hfail
    · refine ⟨.openDevice i .ok true, ?_, fun i code hc => by cases hc⟩
      show (openDevice i lib).trace.calls.find? Call.turns = _
      rw [hcalls]
      rfl
  | closeAdapters =>
    simp only [disturbs, Bool.and_eq_true] at h
    rcases closeAdapters_cases lib with ⟨hg, -⟩ | ⟨-, ⟨code, hcalls⟩, -, -⟩
    · simp [hg] at h
    · refine ⟨.closeAdapters code, ?_, fun i code hc => by cases hc⟩
      show (closeAdapters lib).trace.calls.find? Call.turns = _
      rw [hcalls]
      rfl
  | _ => cases h

theorem holding_of_disturbs {r : Gateway.Request} {lib : Library} (h : lib.disturbs r = true) :
    ∃ i, lib.holding = some i := by
  rw [← Option.isSome_iff_exists]
  cases r with
  | openDevice i => exact (Bool.and_eq_true _ _ ▸ h).1
  | closeAdapters => exact (Bool.and_eq_true _ _ ▸ h).1
  | _ => cases h

/-- If the calls of a lifetime respect the order, with those that came before it, then no request
has disturbed it. -/
theorem undisturbed_of_deviceFirst {lib : Library} {earlier : List Call} (hr : lib.Rooted)
    (hearlier : InOrder none earlier lib.holding) (requests : List Gateway.Request)
    (h : DeviceFirst (earlier ++ (lifetime requests lib).trace.calls)) :
    undisturbed requests lib = true := by
  -- on the requests; up to the first one that disturbs the order, the calls are in order
  induction requests generalizing lib earlier with
  | nil => rfl
  | cons r rest ih =>
    have hsplit : (lifetime (r :: rest) lib).trace.calls =
        (Gateway.perform r lib).trace.calls ++
          (lifetime rest (Gateway.perform r lib).value.2).trace.calls := by
      simp [lifetime, Gateway.performAll, Trace.calls_append]
    rw [hsplit] at h
    -- a request that disturbs turns something before the held device is closed
    have hnot : lib.disturbs r = false := by
      refine Bool.eq_false_iff.2 fun hd => ?_
      obtain ⟨i, hheld⟩ := holding_of_disturbs hd
      obtain ⟨c, hfind, hc⟩ := turn_of_disturbs hd
      rw [hheld] at hearlier
      rcases hearlier.last_opened with ⟨hnone, -⟩ | ⟨before, since, rfl, hsince⟩
      · cases hnone
      · obtain ⟨code, hclose⟩ := h.closed before i (since ++ ((Gateway.perform r lib).trace.calls ++
          (lifetime rest (Gateway.perform r lib).value.2).trace.calls)) (by simp)
        rw [List.find?_append, hsince, List.find?_append, hfind] at hclose
        exact hc i code (Option.some.inj hclose)
    obtain ⟨hr', horder⟩ := orderly_perform hnot hr
    rw [← List.append_assoc] at h
    simp [undisturbed, hnot, ih hr' (hearlier.append horder) h]

/--
**The device goes before its adapter group, unless a request disturbs that.** Over every history
of requests, from a successful loading to the end of the library, the two hold together:

* each device that is handed out is closed before its adapter group is, and before another
  device is handed out, and nothing goes through it after its group is closed;
* no request closes the adapter group, and none hands out a device, while a device is open.
-/
theorem deviceFirst_iff_undisturbed {loader : Loader} {candidates : List Path} {lib : Library}
    (hload : (load loader candidates).value = .ok lib) (requests : List Gateway.Request) :
    DeviceFirst (lifetime requests lib).trace.calls ↔ undisturbed requests lib = true := by
  obtain ⟨path, script, rfl⟩ := loaded_of_load hload
  have hrooted : Rooted { path, vendor := .fresh script } := rooted_of_none rfl
  constructor
  · intro h
    exact undisturbed_of_deviceFirst hrooted (.nil none) requests h
  · intro h
    have hall := composes_orderly.append (orderly_performAll h) (orderly_unload _)
    obtain ⟨-, horder⟩ := hall hrooted
    refine deviceFirst_of_inOrder ?_
    have hend := (gone_unload
      (Gateway.performAll requests { path, vendor := .fresh script }).value.2).device
    simpa [lifetime, holding, hend] using horder

/-- A device is opened, closed with its group, and opened again from the next group. -/
theorem deviceFirst_twoSets :
    (load (fun _ => .opens twoSets) [⟨[]⟩]).value = .ok ofTwoSets ∧
    DeviceFirst (lifetime [.openAdapters, .openDevice 0, .activate ⟨0, 0⟩, .closeDevice,
      .closeAdapters, .openAdapters, .openDevice 0, .readClocks] ofTwoSets).trace.calls := by
  have hload : (load (fun _ => .opens twoSets) [⟨[]⟩]).value = .ok ofTwoSets := rfl
  exact ⟨hload, (deviceFirst_iff_undisturbed hload _).2 (by decide +kernel)⟩

/-- The adapter group is closed under an open device, which is closed only at the end. -/
theorem group_closed_first_twoSets :
    (load (fun _ => .opens twoSets) [⟨[]⟩]).value = .ok ofTwoSets ∧
    (lifetime [.openAdapters, .openDevice 0, .closeAdapters] ofTwoSets).trace.calls =
      [.openAdapters .ok true, .find (.adapter 0) true, .openDevice 0 .ok true,
        .closeAdapters .ok, .closeDevice 0 .ok, .unload] ∧
    ¬ DeviceFirst
      (lifetime [.openAdapters, .openDevice 0, .closeAdapters] ofTwoSets).trace.calls := by
  have hcalls : (lifetime [.openAdapters, .openDevice 0, .closeAdapters] ofTwoSets).trace.calls =
      [.openAdapters .ok true, .find (.adapter 0) true, .openDevice 0 .ok true,
        .closeAdapters .ok, .closeDevice 0 .ok, .unload] := by decide +kernel
  refine ⟨rfl, hcalls, fun h => ?_⟩
  rw [hcalls] at h
  obtain ⟨code, hfirst⟩ := h.closed [.openAdapters .ok true, .find (.adapter 0) true] 0
    [.closeAdapters .ok, .closeDevice 0 .ok, .unload] rfl
  cases hfirst

end Library
end GpuMonitor
